import Kivou.AlertCadence
import Kivou.AlertUniformity

set_option autoImplicit false

/-! Any number of processes run the cycle, each with the time it read at its start, while the clock
goes on. Their transactions are serialised, and between the two of a visit the batch is with the
gateway. -/
namespace Kivou.AlertProcesses
open Tables AlertDeliveries AlertCycle AlertBatches AlertUniformity

structure Launch where
 (now jobLeaseTtl:ℤ)
 settings:Settings

inductive Phase where
 | idle
 | started (c:Launch)
 | visiting (c:Launch)
 | handed (c:Launch)(account:AccountView)(batch:DeliveryBatch)
 | answered (c:Launch)(account:AccountView)(batch:DeliveryBatch)(gateway:GatewayOutcome)
 | leaving (c:Launch)
 | ended

def Phase.batch?:Phase→Option DeliveryBatch
 | .handed _ _ b | .answered _ _ b _=>some b
 | _=>none

def Phase.working?:Phase→Option Launch
 | .visiting c | .handed c _ _ | .answered c _ _ _ | .leaving c=>some c
 | _=>none

/-- The processes of `ι`. `delivered` are the batches that the gateway accepted
and that were marked as sent: what the processes do does not depend on it. -/
structure World (ι:Type) where
 clock:ℤ
 rows:List Row
 lease:Option Lease
 phase:ι→Phase
 delivered:List (String × String)

inductive Event (ι:Type) where
 | tick (elapsed:ℕ)
 | start (p:ι)(jobLeaseTtl:ℤ)(settings:Settings)
 | acquire (p:ι)
 | visit (p:ι)(account:AccountView)
 | answer (p:ι)(gateway:GatewayOutcome)
 | record (p:ι)(stored:Bool)
 | leave (p:ι)
 | crash (p:ι)

variable {ι:Type}[DecidableEq ι]

def World.move (w:World ι)(p:ι)(phase:Phase):World ι:=
 {w with phase:=Function.update w.phase p phase}

/-- The step of a process; `token` is what names it in the lease. An event that
its phase does not allow does nothing. It leaves a batch that it has handed over
when the gateway raises what the visit does not catch. -/
def step (digests:Digests)(token:ι→String)(w:World ι):Event ι→World ι
 | .tick elapsed=>{w with clock:=w.clock+elapsed}
 | .start p jobLeaseTtl settings =>
  match w.phase p with
  | .idle=>w.move p (.started ⟨w.clock,jobLeaseTtl,settings⟩)
  | _=>w
 | .acquire p =>
  match w.phase p with
  | .started c =>
   match AlertCycle.acquire w.lease (token p) c.now c.jobLeaseTtl with
   | (.acquired,lease)=>{w with lease}.move p (.visiting c)
   | (.alreadyRunning,lease)=>{w with lease}.move p .ended
  | _=>w
 | .visit p account =>
  match w.phase p with
  | .visiting c =>
   match prepare digests c.settings account c.now w.rows with
   | .error _=>w.move p (.leaving c)
   | .ok (.ended _,rows)=>{w with rows}.move p (.visiting c)
   | .ok (.send batch,rows)=>{w with rows}.move p (.handed c account batch)
  | _=>w
 | .answer p gateway =>
  match w.phase p with
  | .handed c account batch=>w.move p (.answered c account batch gateway)
  | _=>w
 | .record p stored =>
  match w.phase p with
  | .answered c account batch gateway =>
   {w with
     rows:=(complete c.settings account batch c.now gateway stored w.rows).2
     delivered:=if stored&&AlertCadence.GatewayOutcome.isAccepted gateway then
       (batch.accountId,batch.batchKey)::w.delivered
      else w.delivered}.move p (.visiting c)
  | _=>w
 | .leave p =>
  match w.phase p with
  | .visiting _ | .handed _ _ _ | .leaving _ =>
   {w with lease:=release w.lease (token p)}.move p .ended
  | _=>w
 | .crash p=>w.move p .ended

def Prompt (w:World ι):Prop:=∀p,(w.phase p).working?.all (fun c=>w.clock<c.now+c.jobLeaseTtl)=true

def Phase.launch?:Phase→Option Launch
 | .started c=>some c
 | phase=>phase.working?

def Holds (lease:Option Lease)(owner:String)(c:Launch):Prop:=
 ∃l,lease=some l ∧ l.ownerId=owner ∧ l.leaseExpiresAt=c.now+c.jobLeaseTtl

/-- The settings of a launch allow an attempt, and no more than `limit` of them. -/
def Launch.Bounded (limit:ℕ)(c:Launch):Prop:=
 1≤c.settings.retry.maxAttempts ∧ c.settings.retry.maxAttempts≤limit

def Finished (rows:List Row)(g:String × String):Prop:=
 (∃r∈rows,batchOfRow r=some g) ∧ ∀r∈rows,batchOfRow r=some g→Closed r

structure Inv (digests:Digests)(limit:ℕ)(token:ι→String)(w:World ι):Prop where
 sound:Sound digests limit w.rows
 launched:∀p c,(w.phase p).launch?=some c→c.now≤w.clock ∧ c.Bounded limit
 holder:∀p c,(w.phase p).working?=some c→Holds w.lease (token p) c
 leased:∀p b,(w.phase p).batch?=some b→Leased limit w.rows b.accountId b ∧ b.signalKeys≠[]
 finished:∀g∈w.delivered,Finished w.rows g

variable {digests:Digests}{limit:ℕ}{token:ι→String}{w:World ι}{p q:ι}{c c':Launch}
 {rows:List Row}{lease:Option Lease}{phase:Phase}{delivered:List (String × String)}

lemma launch_of_working {phase:Phase}(h:phase.working?=some c):phase.launch?=some c:=by
 cases phase <;> simp_all[Phase.launch?,Phase.working?]

lemma working_of_batch {b:DeliveryBatch}{phase:Phase}(h:phase.batch?=some b) :
 ∃c,phase.working?=some c:=by
 cases phase <;> simp_all[Phase.batch?,Phase.working?]

omit [DecidableEq ι] in
lemma Inv.alone (inv:Inv digests limit token w)(distinct:Function.Injective token)
 (hp:(w.phase p).working?=some c)(hq:(w.phase q).working?=some c'):p=q:=by
 obtain ⟨l,is,owner,-⟩:=inv.holder p c hp
 obtain ⟨l',is',owner',-⟩:=inv.holder q c' hq
 obtain rfl:=Option.mem_unique is is'
 exact distinct (owner.symm.trans owner')

@[simp] lemma move_self (w:World ι)(p:ι)(phase:Phase):(w.move p phase).phase p=phase:=
 Function.update_self ..

lemma move_other {phase:Phase}(h:q≠p):(w.move p phase).phase q=w.phase q:=Function.update_of_ne h ..

lemma Inv.move (inv:Inv digests limit token w)(phase:Phase) (sound:Sound digests limit rows)
 (launched:∀c,phase.launch?=some c→c.now≤w.clock ∧ c.Bounded limit)
 (holder:∀c,phase.working?=some c→Holds lease (token p) c)
 (leased:∀b,phase.batch?=some b→Leased limit rows b.accountId b ∧ b.signalKeys≠[])
 (finished:∀g∈delivered,Finished rows g)
 (others:∀q c,q≠p→(w.phase q).working?=some c→lease=w.lease ∧ rows=w.rows) :
 Inv digests limit token ({w with rows,lease,delivered}.move p phase):=by
 refine ⟨sound,fun q c is=>?_,fun q c is=>?_,fun q b is=>?_,finished⟩
 · by_cases same:q=p
   · subst same
     rw[move_self] at is
     exact launched c is
   · rw[move_other same] at is
     exact inv.launched q c is
 · by_cases same:q=p
   · subst same
     rw[move_self] at is
     exact holder c is
   · rw[move_other same] at is
     obtain ⟨sameLease,-⟩:=others q c same is
     change Holds lease (token q) c
     rw[sameLease]
     exact inv.holder q c is
 · by_cases same:q=p
   · subst same
     rw[move_self] at is
     exact leased b is
   · rw[move_other same] at is
     obtain ⟨c,works⟩:=working_of_batch is
     obtain ⟨-,sameRows⟩:=others q c same works
     change Leased limit rows b.accountId b ∧ _
     rw[sameRows]
     exact inv.leased q b is

lemma Finished.moved {rows':List Row}{g:String × String}(h:Finished rows g)
 (moved:Moved digests limit rows rows'):Finished rows' g:=by
 obtain ⟨⟨first,there,named⟩,closed⟩:=h
 refine ⟨?_,moved.closed there named closed⟩
 obtain ⟨r',mem',key,-,batch⟩:=moved.advance first there
 exact ⟨r',mem',batchOfRow_kept key batch named⟩

omit [DecidableEq ι] in
lemma tick_inv (inv:Inv digests limit token w)(elapsed:ℕ) :
 Inv digests limit token {w with clock:=w.clock+elapsed}:=
 ⟨inv.sound,fun p c is=>⟨(inv.launched p c is).1.trans (Int.le_add_of_nonneg_right (Int.natCast_nonneg _)),(inv.launched p c is).2⟩,
  inv.holder,inv.leased,inv.finished⟩

lemma start_inv (inv:Inv digests limit token w)(c:Launch)(now:c.now=w.clock)
 (bounded:c.Bounded limit):Inv digests limit token (w.move p (.started c)):=by
 refine inv.move _ inv.sound (fun c' is=>?_) nofun nofun inv.finished fun _ _ _ _=>⟨rfl,rfl⟩
 obtain rfl:=Option.some.inj is
 exact ⟨now.le,bounded⟩

lemma ended_inv (inv:Inv digests limit token w):Inv digests limit token (w.move p .ended):=
 inv.move _ inv.sound nofun nofun nofun inv.finished fun _ _ _ _=>⟨rfl,rfl⟩

lemma acquire_inv (inv:Inv digests limit token w)(prompt:Prompt w)
 (started:w.phase p=.started c):Inv digests limit token (step digests token w (.acquire p)):=by
 obtain ⟨past,bounded⟩:=inv.launched p c (by rw[started];rfl)
 have unheld {l:Lease}(is:w.lease=some l)(expired:l.leaseExpiresAt≤c.now){q:ι}{c':Launch}
   (works:(w.phase q).working?=some c'):False:=by
  obtain ⟨l',is',-,expires⟩:=inv.holder q c' works
  obtain rfl:=Option.mem_unique is is'
  have within:=prompt q
  rw[works,Option.all_some,decide_eq_true_eq] at within
  omega
 have taken (held:∀q c',(w.phase q).working?=some c'→False) :
   Inv digests limit token ({w with
    lease:=some ⟨token p,c.now,c.now+c.jobLeaseTtl,c.now⟩}.move p (.visiting c)):=by
  refine inv.move (.visiting c) inv.sound (fun c' is=>?_) (fun c' is=>?_) nofun inv.finished
   fun q c' _ works=>(held q c' works).elim
  · obtain rfl:=Option.some.inj is
    exact ⟨past,bounded⟩
  · obtain rfl:=Option.some.inj is
    exact ⟨_,rfl,rfl,rfl⟩
 simp only[step,started]
 cases is:w.lease with
 | none =>
  refine taken fun q c' works=>?_
  obtain ⟨l,is',-⟩:=inv.holder q c' works
  rw[is] at is'
  cases is'
 | some l =>
  unfold AlertCycle.acquire
  by_cases expired:l.leaseExpiresAt≤c.now
  · simp only[expired,↓reduceIte]
    exact taken fun q c' works=>unheld is expired works
  · simp only[expired,↓reduceIte]
    rw[←is]
    exact ended_inv inv

lemma working_inv {rows':List Row}(inv:Inv digests limit token w)
 (distinct:Function.Injective token)(works:(w.phase p).working?=some c)(phase:Phase)
 (moved:Moved digests limit w.rows rows')(same:phase.launch?=some c)
 (leased:∀b,phase.batch?=some b→Leased limit rows' b.accountId b ∧ b.signalKeys≠[])
 (finished:∀g∈delivered,Finished rows' g) :
 Inv digests limit token ({w with rows:=rows',delivered}.move p phase):=by
 refine inv.move phase moved.sound (fun c' is=>?_) (fun c' is=>?_) leased finished
  fun q c' other works'=>absurd (inv.alone distinct works' works) other
 · obtain rfl:=Option.mem_unique same is
   exact inv.launched p c (launch_of_working works)
 · obtain rfl:=Option.some.inj (same.symm.trans (launch_of_working is))
   exact inv.holder p c works

lemma visit_inv (inv:Inv digests limit token w)(digestsDistinct:Distinct digests)
 (distinct:Function.Injective token)(visiting:w.phase p=.visiting c)(account:AccountView) :
 Inv digests limit token (step digests token w (.visit p account)):=by
 have works:(w.phase p).working?=some c:=by rw[visiting];rfl
 obtain ⟨-,some',most⟩:=inv.launched p c (launch_of_working works)
 have prepares:Prepares digests limit w.rows account.accountId
   (prepare digests c.settings account c.now w.rows):=
  prepare_prepares digestsDistinct inv.sound some' most
 obtain ⟨prepared,rows',done,moved,leased⟩:=prepares
 have finished:∀g∈w.delivered,Finished rows' g:=fun g mem=>(inv.finished g mem).moved moved
 simp only[step,visiting,done]
 cases prepared with
 | ended outcome=>exact working_inv inv distinct works _ moved rfl nofun finished
 | send batch =>
  obtain ⟨leaves,-⟩:=AlertCadence.prepare_leaves done
  have mine:=leased batch rfl
  refine working_inv inv distinct works _ moved rfl (fun b is=>?_) finished
  obtain rfl:=Option.some.inj is
  exact ⟨mine.accountId ▸ mine,(leaves.mine batch rfl).2⟩

lemma record_inv (inv:Inv digests limit token w)(distinct:Function.Injective token)
 {account:AccountView}{batch:DeliveryBatch}{gateway:GatewayOutcome}
 (answered:w.phase p=.answered c account batch gateway)(stored:Bool) :
 Inv digests limit token (step digests token w (.record p stored)):=by
 have works:(w.phase p).working?=some c:=by rw[answered];rfl
 obtain ⟨leased,filled⟩:=inv.leased p batch (by rw[answered];rfl)
 have moved:Moved digests limit w.rows
   (complete c.settings account batch c.now gateway stored w.rows).2:=
  complete_moved leased inv.sound gateway stored
 have finished:∀g∈w.delivered,
   Finished (complete c.settings account batch c.now gateway stored w.rows).2 g:=
  fun g mem=>(inv.finished g mem).moved moved
 simp only[step,answered]
 refine working_inv inv distinct works _ moved rfl nofun fun g mem=>?_
 split at mem
 · rename_i accepted
   rcases List.mem_cons.mp mem with rfl|old
   · obtain ⟨rfl,accepted⟩:=Bool.and_eq_true _ _ ▸ accepted
     cases gateway with
     | accepted id =>
      obtain ⟨rows',done,-,held⟩:∃rows',markSent batch id c.now w.rows=.ok rows' ∧ _ ∧ _:=
       leased.held.markSent inv.sound leased.sending leased.bounded id
      have is:(complete c.settings account batch c.now (.accepted id) true w.rows).2=rows':=by
       simp only[complete,record,done]
      rw[is] at moved ⊢
      obtain ⟨k,key⟩:=List.exists_mem_of_ne_nil _ filled
      obtain ⟨r,there,-,belongs⟩:=held.present k key
      refine ⟨⟨r,there,group_iff.mpr ⟨belongs.accountId,belongs.batchKey⟩⟩,fun r mem is=>?_⟩
      obtain ⟨mine,named⟩:=group_iff.mp is
      by_cases hidden:r.status=.suppressed
      · exact .inr hidden
      · exact .inl (held.belongs_of_open moved.sound mem mine named hidden).2.status
     | uncertain | refused=>cases accepted
   · exact finished g old
 · exact finished g mem

lemma leave_inv (inv:Inv digests limit token w)(distinct:Function.Injective token)
 (works:(w.phase p).working?=some c) :
 Inv digests limit token ({w with lease:=release w.lease (token p)}.move p .ended):=
 inv.move _ inv.sound nofun nofun nofun inv.finished
  fun _ _ other works'=>absurd (inv.alone distinct works' works) other

def Event.Allowed (limit:ℕ):Event ι→Prop
 | .start _ _ settings=>1 ≤ settings.retry.maxAttempts ∧ settings.retry.maxAttempts≤limit
 | _=>True

lemma step_inv (digestsDistinct:Distinct digests)(distinct:Function.Injective token){e:Event ι}
 (allowed:e.Allowed limit)(prompt:Prompt w)(inv:Inv digests limit token w) :
 Inv digests limit token (step digests token w e):=by
 cases e with
 | tick elapsed=>exact tick_inv inv elapsed
 | start p ttl settings =>
  cases is:w.phase p with
  | idle =>
   simp only[step,is]
   exact start_inv inv ⟨w.clock,ttl,settings⟩ rfl allowed
  | _=>simpa only[step,is] using inv
 | acquire p =>
  cases is:w.phase p with
  | started c=>exact acquire_inv inv prompt is
  | _=>simpa only[step,is] using inv
 | visit p account =>
  cases is:w.phase p with
  | visiting c=>exact visit_inv inv digestsDistinct distinct is account
  | _=>simpa only[step,is] using inv
 | answer p gateway =>
  cases is:w.phase p with
  | handed c account batch =>
   have works:(w.phase p).working?=some c:=by rw[is];rfl
   simp only[step,is]
   refine working_inv inv distinct works _ (Moved.refl inv.sound) rfl (fun b same=>?_) inv.finished
   exact inv.leased p b (by rw[is];exact same)
  | _=>simpa only[step,is] using inv
 | record p stored =>
  cases is:w.phase p with
  | answered c account batch gateway=>exact record_inv inv distinct is stored
  | _=>simpa only[step,is] using inv
 | leave p =>
  cases is:w.phase p with
  | visiting | handed | leaving =>
   simp only[step,is]
   exact leave_inv inv distinct (by rw[is];rfl)
  | _=>simpa only[step,is] using inv
 | crash p=>exact ended_inv inv

def initial (ι:Type)(clock:ℤ)(rows:List Row)(lease:Option Lease):World ι:=
 ⟨clock,rows,lease,fun _=>.idle,[]⟩

structure Exclusive (w:World ι):Prop where
 /-- No batch is with the gateway twice at a time. -/
 apart:∀p q b b',p≠q→(w.phase p).batch?=some b→(w.phase q).batch?=some b' →
  ¬(b.accountId=b'.accountId ∧ b.batchKey=b'.batchKey)
 /-- A batch that was delivered is not handed over again. -/
 once:∀p b,(w.phase p).batch?=some b→(b.accountId,b.batchKey)∉w.delivered
 /-- The attempt of a process is the last one of its rows. -/
 current:∀p b,(w.phase p).batch?=some b→∀r∈w.rows,owned b b.signalKeys r=true →
  r.status=.sending ∧ r.attemptCount=b.attemptCount

omit [DecidableEq ι] in
lemma Inv.exclusive (inv:Inv digests limit token w)(distinct:Function.Injective token) :
 Exclusive w:=by
 refine ⟨fun p q b b' other hp hq=>?_,fun p b hp mem=>?_,fun p b hp r mem own=>?_⟩
 · obtain ⟨c,works⟩:=working_of_batch hp
   obtain ⟨c',works'⟩:=working_of_batch hq
   exact absurd (inv.alone distinct works works') other
 · obtain ⟨leased,filled⟩:=inv.leased p b hp
   obtain ⟨k,key⟩:=List.exists_mem_of_ne_nil _ filled
   obtain ⟨r,there,-,is⟩:=leased.held.present k key
   have closed:=(inv.finished _ mem).2 r there (group_iff.mpr ⟨is.accountId,is.batchKey⟩)
   rw[Closed,is.status,leased.sending] at closed
   rcases closed with sent|suppressed
   · cases sent
   · cases suppressed
 · obtain ⟨leased,-⟩:=inv.leased p b hp
   have is:=leased.held.belongs inv.sound mem (fun _ key=>key) own
   exact ⟨is.status.trans leased.sending,is.attempts⟩

/-- As long as every process is over before its lease expires, no batch is with
the gateway twice at a time, none is handed over again once it was accepted and
marked as sent, and no attempt outlives the next one. -/
theorem prompt_processes_are_exclusive {digests:Digests}(digestsDistinct:Distinct digests)
 {token:ι→String}(distinct:Function.Injective token){limit:ℕ}(clock:ℤ){rows:List Row}
 (inherited:Inherited digests limit rows)(lease:Option Lease){events:List (Event ι)}
 (prompt:Runs.Along (step digests token) (fun w e=>Prompt w ∧ e.Allowed limit)
  (initial ι clock rows lease) events) :
 Exclusive (events.foldl (step digests token) (initial ι clock rows lease)):=by
 have start:Inv digests limit token (initial ι clock rows lease):=
  ⟨inherited.sound,nofun,nofun,nofun,nofun⟩
 have inv:=prompt.invariant (Inv digests limit token)
  (fun _ _ inv ok=>step_inv digestsDistinct distinct ok.2 ok.1 inv) start
 exact inv.exclusive distinct

open AlertCadence (minute)

def sampleToken (second:Bool):String:=if second then "b" else "a"

lemma sampleToken_injective:Function.Injective sampleToken:=by
 intro p q same
 cases p <;> cases q <;> simp[sampleToken] at same ⊢

def sampleSettings:Settings:=⟨some "https://kivou.eu",30*minute,⟨15*minute,5⟩⟩

def oneSignal:AccountView:=⟨"acc","weekly",false,true,"context",[["sig-1"]],["sig-1"]⟩

instance decidablePrompt (w:World Bool):Decidable (Prompt w):=inferInstanceAs (Decidable (∀_,_))

instance decidableAllowed (limit:ℕ):∀e:Event Bool,Decidable (e.Allowed limit)
 | .start _ _ settings=>inferInstanceAs (Decidable (1 ≤ settings.retry.maxAttempts ∧ _))
 | .tick _ | .acquire _ | .visit _ _ | .answer _ _ | .record _ _ | .leave _ | .crash _=>.isTrue trivial

def recovered:List (Event Bool):=
 [.start false (30*minute) sampleSettings,.acquire false,.visit false oneSignal,.crash false,
  .tick 1800000000,.start true (30*minute) sampleSettings,.acquire true,.visit true oneSignal,
  .answer true (.accepted "id")]

/-- A process hands a batch over late in its lease; when the lease has expired
another one takes it up, while the first still waits for the gateway. -/
def overtaken:List (Event Bool):=
 [.start false (30*minute) sampleSettings,.acquire false,.tick 1740000000,.visit false oneSignal,
  .tick 60000000,.start true (30*minute) sampleSettings,.acquire true,.visit true oneSignal]

def reached (events:List (Event Bool)):World Bool:=
 events.foldl (step sampleDigests sampleToken) (initial Bool 0 [] none)

lemma empty_inherited (digests:Digests)(limit:ℕ):Inherited digests limit []:=
 ⟨List.nodup_nil,fun _ mem=>absurd mem List.not_mem_nil,fun _ mem=>absurd mem List.not_mem_nil⟩

theorem prompt_processes_are_exclusive_sample :
 ((reached recovered).phase true).batch?.map (·.attemptCount)=some 2 ∧ Exclusive
 (reached recovered):=by
 have prompt:Runs.Along (step sampleDigests sampleToken) (fun w e=>Prompt w ∧ e.Allowed 5)
   (initial Bool 0 [] none) recovered:=by decide +kernel
 exact ⟨by decide +kernel,prompt_processes_are_exclusive sampleDigests_distinct sampleToken_injective 0
  (empty_inherited _ _) none prompt⟩

/-- The batch of the one signal, as the attempt `n` holds it. -/
def oneBatch (n:ℕ):DeliveryBatch:=
 {newBatch sampleDigests "acc" ["sig-1"] "context" with attemptCount:=n,status:=.sending}

/-- Without the bound on a cycle each of the three fails: two processes have the
batch of one signal with the gateway; what the first one records then delivers
it under the second one; and until it does so its attempt is not the last one. -/
theorem overlong_cycle_is_overtaken :
 (¬ ∀events:List (Event Bool),∀p q b b',p≠q→((reached events).phase p).batch?=some b →
  ((reached events).phase q).batch?=some b' →
  ¬(b.accountId=b'.accountId ∧ b.batchKey=b'.batchKey)) ∧
 (¬ ∀events:List (Event Bool),∀p b,((reached events).phase p).batch?=some b →
  (b.accountId,b.batchKey)∉(reached events).delivered) ∧
 ¬ ∀events:List (Event Bool),∀p b,((reached events).phase p).batch?=some b →
  ∀r∈(reached events).rows,owned b b.signalKeys r=true →
   r.status=.sending ∧ r.attemptCount=b.attemptCount:=by
 have held:((reached overtaken).phase false).batch?=some (oneBatch 1) ∧
   ((reached overtaken).phase true).batch?=some (oneBatch 2) ∧
   ∃r∈(reached overtaken).rows,owned (oneBatch 1) (oneBatch 1).signalKeys r=true ∧
    r.attemptCount=2:=by decide +kernel
 have delivered:((reached (overtaken++[.answer false (.accepted "id"),.record false true])).phase
    true).batch?=some (oneBatch 2) ∧
   ((oneBatch 2).accountId,(oneBatch 2).batchKey) ∈
    (reached (overtaken++[.answer false (.accepted "id"),.record false true])).delivered:=by
  decide +kernel
 obtain ⟨first,second,r,there,own,attempts⟩:=held
 refine ⟨fun claimed=>?_,fun claimed=>?_,fun claimed=>?_⟩
 · exact claimed overtaken false true _ _ Bool.false_ne_true first second ⟨rfl,rfl⟩
 · exact claimed _ true _ delivered.1 delivered.2
 · have current:=(claimed overtaken false _ first r there own).2
   rw[attempts] at current
   cases current

end Kivou.AlertProcesses
