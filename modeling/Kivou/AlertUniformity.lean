import Kivou.AlertBatches
import Kivou.Runs
import Kivou.Texts

set_option autoImplicit false

/-! A visit holds the batch that it takes: its first transaction finds every row of it, and so does
the second. -/
namespace Kivou.AlertUniformity
open Tables AlertDeliveries AlertCycle AlertBatches

variable {digests:Digests}{limit:ℕ}{rows rows':List Row}{b:DeliveryBatch}{now:ℤ}
 {settings:Settings}{account:AccountView}

lemma held_bounded (held:Held rows b)(sound:Sound digests limit rows)(filled:b.signalKeys≠[]) :
 b.attemptCount≤limit:=by
 obtain ⟨k,mem⟩:=List.exists_mem_of_ne_nil _ filled
 obtain ⟨r,there,-,is⟩:=held.present k mem
 rw[←is.attempts]
 exact sound.bounded r there (by rw[is.batchKey];rfl)

lemma held_unattempted (held:Held rows b)(sound:Sound digests limit rows)
 (filled:b.signalKeys≠[])(queued:b.status=.queued):b.attemptCount=0:=by
 obtain ⟨k,mem⟩:=List.exists_mem_of_ne_nil _ filled
 obtain ⟨r,there,-,is⟩:=held.present k mem
 rw[←is.attempts]
 exact sound.unattempted r there (is.status.trans queued)

lemma held_left (held:Held rows b)(isDue:Due now rows b)(filled:b.signalKeys≠[]) :
 b.status≠.sent:=by
 obtain ⟨k,mem⟩:=List.exists_mem_of_ne_nil _ filled
 obtain ⟨r,there,-,is⟩:=held.present k mem
 rw[←is.status]
 exact fun sent=>due_open (isDue r there is) (.inl sent)

lemma restrict (held:Held rows b)(sound:Sound digests limit rows)(isDue:Due now rows b)
 (filled:b.signalKeys≠[]) :
 ∃rows',suppressInaccessible account b now rows=.ok rows' ∧ Moved digests limit rows rows' ∧
  Held rows' {b with signalKeys:=b.signalKeys.filter account.accessible.contains} ∧
  Due now rows' {b with signalKeys:=b.signalKeys.filter account.accessible.contains}:=by
 unfold suppressInaccessible inaccessible
 generalize account.accessible.contains=accessible
 split
 · rename_i none
   have all:b.signalKeys.filter accessible=b.signalKeys:=by
    refine List.filter_eq_self.mpr fun k mem=>?_
    simpa using List.filter_eq_nil_iff.mp none k mem
   rw[all]
   exact ⟨rows,rfl,Moved.refl sound,held,isDue⟩
 · obtain ⟨rows',done,moved,rest,open'⟩:=held.suppress sound (held.distinct.filter _)
    (fun k mem=>(List.mem_filter.mp mem).1) (held_left held isDue filled)
    (held_bounded held sound filled) .signalInaccessible now
   have same:(b.signalKeys.filter fun key=>
     !(b.signalKeys.filter fun key=>!accessible key).contains key)=b.signalKeys.filter accessible:=by
    refine List.filter_congr fun k mem=>?_
    cases is:accessible k <;> simp[mem,is]
   rw[same] at rest
   refine ⟨rows',done,moved,rest,fun r mem is=>?_⟩
   have status:r.status≠.suppressed:=is.status ▸ held.open'
   exact isDue r (open' r mem status)
    ⟨is.accountId,is.batchKey,is.messageId,is.fingerprint,is.status,is.attempts⟩

structure Leased (limit:ℕ)(rows:List Row)(a:String)(b:DeliveryBatch):Prop where
 held:Held rows b
 sending:b.status=.sending
 bounded:b.attemptCount≤limit
 accountId:b.accountId=a

def Prepares (digests:Digests)(limit:ℕ)(rows:List Row)(a:String)(p:Prepare):Prop:=
 ∃prepared rows',p=.ok (prepared,rows') ∧ Moved digests limit rows rows' ∧
  ∀b,prepared=.send b→Leased limit rows' a b

lemma prepares_over (sound:Sound digests limit rows)(a:String)(outcome:AlertOutcome) :
 Prepares digests limit rows a (.ok (.ended outcome,rows)):=
 ⟨_,_,rfl,Moved.refl sound,nofun⟩

lemma suppressWhole_prepares (held:Held rows b)(sound:Sound digests limit rows)
 (isDue:Due now rows b)(filled:b.signalKeys≠[])(reason:SuppressionReason)(a:String) :
 Prepares digests limit rows a (suppressWhole account b reason now rows):=by
 obtain ⟨rows',done,moved,-⟩:=held.suppress sound held.distinct (fun _ mem=>mem)
  (held_left held isDue filled) (held_bounded held sound filled) reason now
 rw[suppressWhole,done]
 exact ⟨_,rows',rfl,moved,nofun⟩

lemma leaseBatch_prepares (held:Held rows b)(sound:Sound digests limit rows)
 (isDue:Due now rows b)(filled:b.signalKeys≠[])(some':1 ≤ settings.retry.maxAttempts)
 (most:settings.retry.maxAttempts≤limit) :
 Prepares digests limit rows b.accountId (leaseBatch settings account b now rows):=by
 have left:=held_left held isDue filled
 unfold leaseBatch
 split
 · rename_i used
   have attempted:b.status≠.queued:=fun queued=>by
    have none:=held_unattempted held sound filled queued
    omega
   obtain ⟨rows',done,moved⟩:=held.markAttemptBudgetExhausted sound isDue left attempted used
    (held_bounded held sound filled)
   rw[done]
   exact ⟨_,rows',rfl,moved,nofun⟩
 · rename_i more
   obtain ⟨rows',done,moved,held'⟩:=held.markSending sound isDue left (Nat.lt_of_not_le more) most
    settings.deliveryLeaseTtl
   rw[done]
   refine ⟨_,rows',rfl,moved,fun b' is=>?_⟩
   obtain rfl:=Prepared.send.inj is
   exact ⟨held',rfl,Nat.le_trans (Nat.lt_of_not_le more) most,rfl⟩

lemma dispatch_prepares (held:Held rows b)(sound:Sound digests limit rows)
 (isDue:Due now rows b)(filled:b.signalKeys≠[])(some':1 ≤ settings.retry.maxAttempts)
 (most:settings.retry.maxAttempts≤limit) :
 Prepares digests limit rows b.accountId (dispatch settings account b now rows):=by
 unfold dispatch
 simp only
 split
 · exact prepares_over sound _ _
 · obtain ⟨rows₁,restricted,moved₁,held₁,isDue₁⟩:=restrict held sound isDue filled
   rw[restricted]
   change Prepares _ _ _ _ (if _ then _ else _)
   split
   · exact ⟨_,rows₁,rfl,moved₁,nofun⟩
   · rename_i filled₁
     obtain ⟨prepared,rows₂,is,moved₂,leased⟩:=
      leaseBatch_prepares held₁ moved₁.sound isDue₁ filled₁ some' most
     exact ⟨prepared,rows₂,is,moved₁.trans moved₂,leased⟩

lemma renew_prepares (distinct:Distinct digests)(sound:Sound digests limit rows)
 (some':1 ≤ settings.retry.maxAttempts)(most:settings.retry.maxAttempts≤limit) :
 Prepares digests limit rows account.accountId (renew digests settings account now rows):=by
 unfold renew
 simp only
 split
 · exact prepares_over sound _ _
 · split
   · exact prepares_over sound _ _
   · split
     · exact prepares_over sound _ _
     · rcases queueBatch_cases sound distinct account.accountId
         (eligibleSignals rows account (signalLimit account))
         account.alertCadence account.recipientContextFingerprint now with none | queued
       · rw[none]
         exact prepares_over sound _ _
       · obtain ⟨b,rows₁,done,mine,filled,-,-,moved₁,held,isDue⟩:=queued
         rw[done]
         obtain ⟨prepared,rows₂,is,moved₂,leased⟩:=
          dispatch_prepares held moved₁.sound isDue filled some' most
         exact ⟨prepared,rows₂,is,moved₁.trans moved₂,mine ▸ leased⟩

lemma prepare_prepares (distinct:Distinct digests)(sound:Sound digests limit rows)
 (some':1 ≤ settings.retry.maxAttempts)(most:settings.retry.maxAttempts≤limit) :
 Prepares digests limit rows account.accountId (prepare digests settings account now rows):=by
 unfold prepare
 rcases nextDueBatch_cases sound account.accountId now with none|waiting
 · rw[none]
   change Prepares _ _ _ _ (if _ then _ else _)
   split
   · exact prepares_over sound _ _
   · split
     · exact prepares_over sound _ _
     · exact renew_prepares distinct sound some' most
 · obtain ⟨b,found,mine,filled,held,isDue⟩:=waiting
   rw[found]
   change Prepares _ _ _ _ (if _ then _ else _)
   split
   · exact suppressWhole_prepares held sound isDue filled _ _
   · split
     · exact suppressWhole_prepares held sound isDue filled _ _
     · change Prepares _ _ _ _ (if _ then _ else _)
       split
       · exact mine ▸ dispatch_prepares held sound isDue filled some' most
       · exact suppressWhole_prepares held sound isDue filled _ _

lemma complete_moved {a:String}(leased:Leased limit rows a b)(sound:Sound digests limit rows)
 (gateway:GatewayOutcome)(stored:Bool) :
 Moved digests limit rows (complete settings account b now gateway stored rows).2:=by
 obtain ⟨rows',done,moved⟩:=leased.held.record sound leased.sending leased.bounded gateway
 unfold complete
 rw[done]
 cases stored with
 | false=>exact Moved.refl sound
 | true=>cases gateway <;> exact moved

/-- The visits so far have met no conflict, and have raised only where the
gateway did: `answering` says that it does not. -/
structure Going (digests:Digests)(limit:ℕ)(answering:Prop)(start:List Row)(p:Progress):Prop where
 conflict:∀conflict,p.raised≠some (.conflict conflict)
 clear:answering→p.raised=none
 moved:Moved digests limit start p.rows

lemma runForAccount_going (distinct:Distinct digests)(some':1 ≤ settings.retry.maxAttempts)
 (most:settings.retry.maxAttempts≤limit){answering:Prop}{p:Progress}{v:Visit}
 (answers:answering→v.gateway.isSome)(going:Going digests limit answering rows p) :
 Going digests limit answering rows (runForAccount digests settings now p v):=by
 obtain ⟨prepared,rows',done,moved,leased⟩:=prepare_prepares distinct going.moved.sound some' most
 rw[runForAccount]
 split
 · exact going
 · rw[done]
   cases prepared with
   | ended outcome=>exact ⟨going.conflict,going.clear,going.moved.trans moved⟩
   | send b =>
    cases answer:v.gateway with
    | none =>
     refine ⟨fun conflict is=>?_,fun all=>?_,going.moved.trans moved⟩
     · cases Option.some.inj is
     · rw[answer] at answers
       cases answers all
    | some gateway =>
     exact ⟨going.conflict,going.clear,(going.moved.trans moved).trans
      (complete_moved (leased b rfl) moved.sound gateway v.stored)⟩

/-- The gateway ends each of the cycle's sends with an answer, an `AlertDeliveryError` or an
`UncertainDelivery`. -/
def Answered (c:Cycle):Prop:=∀v∈c.visits,v.gateway.isSome

lemma visits_going (distinct:Distinct digests)(some':1 ≤ settings.retry.maxAttempts)
 (most:settings.retry.maxAttempts≤limit)(sound:Sound digests limit rows)(visits:List Visit) :
 Going digests limit (∀v∈visits,v.gateway.isSome) rows
  (visits.foldl (runForAccount digests settings now) ⟨rows,[],none⟩):=by
 generalize is:(∀v∈visits,v.gateway.isSome=true)=answering
 have along:Runs.Along (runForAccount digests settings now)
   (fun _ v=>answering→v.gateway.isSome=true) ⟨rows,[],none⟩ visits:=
  Runs.along_of_mem _ fun v mem _ all=>(is.symm ▸ all:∀v∈visits,v.gateway.isSome=true) v mem
 exact along.invariant (Going digests limit answering rows)
  (fun _ _ going answers=>runForAccount_going distinct some' most answers going)
  ⟨nofun,fun _=>rfl,Moved.refl sound⟩

/-- The settings of a cycle allow an attempt, and no more than `limit` of them. -/
def Bounded (limit:ℕ)(c:Cycle):Prop:=
 1≤c.settings.retry.maxAttempts ∧ c.settings.retry.maxAttempts≤limit

lemma runAlertCycle_moved (distinct:Distinct digests){s:Store}{c:Cycle}
 (bounded:Bounded limit c)(sound:Sound digests limit s.rows) :
 (∀conflict,(runAlertCycle digests s c).1.executionStatus≠.raised (.conflict conflict)) ∧
  (Answered c→∀error,(runAlertCycle digests s c).1.executionStatus≠.raised error) ∧
  Moved digests limit s.rows (runAlertCycle digests s c).2.rows:=by
 unfold runAlertCycle
 split
 · exact ⟨fun _=>ExecutionStatus.noConfusion,fun _ _=>ExecutionStatus.noConfusion,Moved.refl sound⟩
 · have going:Going digests limit (Answered c) s.rows
     (c.visits.foldl (runForAccount digests c.settings c.now) ⟨s.rows,[],none⟩):=
    visits_going distinct bounded.1 bounded.2 sound c.visits
   refine ⟨fun conflict=>?_,fun answered error=>?_,going.moved⟩
   · cases is:(c.visits.foldl (runForAccount digests c.settings c.now) ⟨s.rows,[],none⟩).raised with
     | none=>simp only[is,ne_eq,reduceCtorEq,not_false_eq_true]
     | some error =>
      simp only[is,ne_eq,ExecutionStatus.raised.injEq]
      rintro rfl
      exact going.conflict conflict is
   · simp only[going.clear answered]
     exact ExecutionStatus.noConfusion

/-- What the revisions before this one leave: rows from before there were
batches, those that are queued never attempted; and whole batches, from before
there were fingerprints. -/
structure Inherited (digests:Digests)(limit:ℕ)(rows:List Row):Prop where
 unique:(rows.map Row.key).Nodup
 legacy:∀r∈rows,r.batchKey=none → r.status=.queued→Legacy r
 whole:∀r∈rows,∀b,r.batchKey=some b →
  r.recipientContextFingerprint=none ∧ Named digests rows r b ∧ r.attemptCount≤limit ∧
   (r.status=.queued → r.attemptCount=0) ∧
   ∀r'∈rows,r'.accountId=r.accountId → r'.batchKey=some b → r.status≠.suppressed →
    r'.status≠.suppressed→Row.shared r'=Row.shared r

lemma Inherited.sound (h:Inherited digests limit rows):Sound digests limit rows:=by
 refine ⟨h.unique,?_,h.legacy,?_,?_,fun r mem b batch=>(h.whole r mem b batch).2.1⟩
 · intro r mem r' mem' g hg hg' v v' hv hv'
   unfold shown at hv hv'
   split at hv
   · cases hv
   · split at hv'
     · cases hv'
     · obtain ⟨k,batch,rfl⟩:=Option.map_eq_some_iff.mp hg
       obtain ⟨k',batch',same⟩:=Option.map_eq_some_iff.mp hg'
       obtain ⟨account,rfl⟩:=Prod.mk.inj same
       rw[←Option.some.inj hv,←Option.some.inj hv']
       exact ((h.whole r mem k' batch).2.2.2.2 r' mem' account batch' ‹_› ‹_›).symm
 · intro r mem queued
   cases batch:r.batchKey with
   | none=>exact (h.legacy r mem batch queued).unattempted
   | some b=>exact (h.whole r mem b batch).2.2.2.1 queued
 · intro r mem batched
   obtain ⟨b,batch⟩:=Option.isSome_iff_exists.mp batched
   exact (h.whole r mem b batch).2.2.1

def run (digests:Digests)(s:Store)(cycles:List Cycle):Store:=
 cycles.foldl (fun s c=>(runAlertCycle digests s c).2) s

lemma run_moved (distinct:Distinct digests){s:Store}{cycles:List Cycle}
 (bounded:∀c∈cycles,Bounded limit c)(sound:Sound digests limit s.rows) :
 Moved digests limit s.rows (run digests s cycles).rows:=by
 have along:Runs.Along (fun s c=>(runAlertCycle digests s c).2) (fun _ c=>Bounded limit c) s cycles:=
  Runs.along_of_mem s fun c mem _=>bounded c mem
 exact along.invariant (fun s'=>Moved digests limit s.rows s'.rows)
  (fun s' c moved ok=>moved.trans (runAlertCycle_moved distinct ok moved.sound).2.2) (Moved.refl sound)

def sampleDigests:Digests where
 ofBatch accountId keys:=Texts.listed (accountId::keys)
 ofMessage accountId batchKey:=Texts.listed [accountId,batchKey]

lemma sampleDigests_distinct:Distinct sampleDigests:=fun _ _ _ same=>
 (List.cons.inj (Texts.listed_injective same)).2

def sampleRow:Row:=
 { newRow ⟨"acc",[],"","",none,0,.queued⟩ "weekly" 0 "sig-1" with
   batchKey:=none,deliveryMessageId:=none}

def sampleAccount (accessible:List String):AccountView:=
 ⟨"acc","weekly",false,true,"context",[["sig-1","sig-2"]],accessible⟩

def sampleCycle (now:ℤ)(accessible:List String)(gateway:Option GatewayOutcome):Cycle:=
 ⟨now,"owner",1800000000,⟨some "https://kivou.eu",1800000000,⟨900000000,5⟩⟩,
  [⟨sampleAccount accessible,gateway,true⟩]⟩

/-- The first send raises, so that the second cycle takes the batch up once its lease has expired. -/
def sampleCycles:List Cycle:=[sampleCycle 0 ["sig-1","sig-2"] none,
  sampleCycle 1800000000 ["sig-1","sig-2"] (some (.uncertain "smtp_timeout")),
  sampleCycle 5400000000 ["sig-2"] (some (.accepted "id"))]

lemma sampleRow_inherited:Inherited sampleDigests 5 [sampleRow]:=by
 refine ⟨by decide,fun r mem _ _=>?_,fun r mem b batch=>?_⟩
 · obtain rfl:=List.mem_singleton.mp mem
   exact ⟨rfl,rfl,rfl,rfl⟩
 · obtain rfl:=List.mem_singleton.mp mem
   cases batch

/-- The first of two accounts has an address that no header takes. -/
def abortedCycle:Cycle:=
 {sampleCycle 0 [] none with
   visits:=[⟨sampleAccount ["sig-1","sig-2"],none,true⟩,
     ⟨{sampleAccount ["sig-1"] with accountId:="other"},some (.accepted "id"),true⟩]}

end Kivou.AlertUniformity
