import Kivou.AlertCycle
import Kivou.PythonValues
import Kivou.Runs

set_option autoImplicit false

/-! The gap since the last successful send is checked where a batch is queued. -/
namespace Kivou.AlertCadence
open Tables PythonValues AlertDeliveries AlertCycle

variable {digests:Digests}{settings:Settings}{account:AccountView}{rows rows':List Row}
 {b:DeliveryBatch}{now:ℤ}{a:String}

def SentStay (rows rows':List Row):Prop:=∀r∈rows,r.status=.sent → r∈rows'

lemma SentStay.trans {rows'':List Row}(h:SentStay rows rows')(h':SentStay rows' rows'') :
 SentStay rows rows'':=fun r mem sent=>h' r (h r mem sent) sent

variable {keys:List String}{cadence:String}{prepared:Prepared}{interval:ℤ} {sends:List ℤ}

lemma updateAll_stay {guard:Row→Bool}{f:Row→Row}
 (open':∀r,guard r=true → r.status≠.sent)(done:updateAll b keys guard f rows=.ok rows') :
 SentStay rows rows':=by
 unfold updateAll at done
 simp only at done
 split at done
 · obtain rfl:=Except.ok.inj done
   intro r mem sent
   refine mem_update.mpr ⟨r,mem,if_neg fun taken=>?_⟩
   exact open' r (Bool.and_eq_true _ _ ▸ taken).2 sent
 · cases done

lemma due_unsent {r:Row}(h:due now r=true):r.status≠.sent:=by
 intro sent
 simp[due,sent] at h

lemma markSuppressed_stay {reason:SuppressionReason}
 (done:markSuppressed b keys reason now rows=.ok rows'):SentStay rows rows':=
 updateAll_stay (fun _ is=>by simpa using is) done

lemma markSending_stay {ttl:ℤ}{maxAttempts:ℕ}{b':DeliveryBatch}
 (done:markSending b now ttl maxAttempts rows=.ok (b',rows')) :
 SentStay rows rows' ∧ b'.accountId=b.accountId ∧ b'.signalKeys=b.signalKeys:=by
 obtain ⟨rows₁,updated,is⟩:=bind_ok.mp done
 obtain ⟨rfl,rfl⟩:=Prod.mk.inj (Except.ok.inj is)
 exact ⟨updateAll_stay (fun r is=>due_unsent (Bool.and_eq_true _ _ ▸ is).1) updated,rfl,rfl⟩

lemma markAttemptBudgetExhausted_stay {maxAttempts:ℕ}{status:Status}
 (done:markAttemptBudgetExhausted b now maxAttempts rows=.ok (status,rows')) :
 SentStay rows rows':=by
 unfold markAttemptBudgetExhausted at done
 split at done
 · obtain ⟨rows₁,updated,is⟩:=bind_ok.mp done
   obtain ⟨-,rfl⟩:=Prod.mk.inj (Except.ok.inj is)
   exact updateAll_stay (fun r is=>due_unsent (Bool.and_eq_true _ _ ▸ is).1) updated
 · cases done

lemma record_stay {gateway:GatewayOutcome}(done:record settings b now rows gateway=.ok rows') :
 SentStay rows rows':=by
 cases gateway <;> exact updateAll_stay (fun r is=>by simp[of_decide_eq_true is]) done

lemma queueBatch_stay {fingerprint:String}
 (done:queueBatch digests rows a keys cadence fingerprint now=(some b,rows')) :
 SentStay rows rows' ∧ b.accountId=a ∧ b.signalKeys≠[]:=by
 unfold queueBatch at done
 simp only at done
 split at done
 · cases done
 · rename_i filled
   obtain ⟨is,rfl⟩:=Prod.mk.inj done
   obtain rfl:=Option.some.inj is
   refine ⟨fun r mem sent=>List.mem_append_left _ (mem_update.mpr ⟨r,mem,if_neg fun taken=>?_⟩),
    rfl,filled⟩
   simp[sent] at taken

lemma nextDueBatch_account (found:nextDueBatch rows a now=.ok (some b)):b.accountId=a:=by
 unfold nextDueBatch at found
 simp only at found
 split at found
 · cases found
 · rename_i candidate first
   have mem:=(List.mem_insertionSort _).mp (List.mem_of_mem_head? first)
   have chosen:=(List.mem_filter.mp mem).2
   simp only[Bool.and_eq_true,decide_eq_true_eq] at chosen
   unfold batchOf at found
   split at found
   · split at found
     · obtain rfl:=Option.some.inj (Except.ok.inj found)
       exact chosen.1.1.1
     · cases found
   · cases found

def isWaiting (rows:List Row)(account:AccountView)(now:ℤ):Bool:=
 match nextDueBatch rows account.accountId now with
 | .ok (some b)=>b.recipientContextFingerprint=some account.recipientContextFingerprint
 | _=>false

def isDueNow (rows:List Row)(account:AccountView)(now:ℤ):Bool:=
 isDue account.alertCadence (lastSuccessfulSend rows account.accountId) now

/-- What the first transaction leaves: the rows that are sent, and a batch of
the account or an outcome that is no send. -/
structure Leaves (a:String)(rows rows':List Row)(prepared:Prepared):Prop where
 stay:SentStay rows rows'
 mine:∀b,prepared=.send b→b.accountId=a ∧ b.signalKeys≠[]
 unsent:∀outcome,prepared=.ended outcome → outcome.result≠.sent

def Timely (account:AccountView)(now:ℤ)(rows:List Row)(prepared:Prepared):Prop:=
 ∀b,prepared=.send b→isWaiting rows account now=true ∨ isDueNow rows account now=true

lemma leaves_over {outcome:AlertOutcome}(stay:SentStay rows rows') (unsent:outcome.result≠.sent) :
 Leaves a rows rows' (.ended outcome):=by
 refine ⟨stay,nofun,fun o is=>?_⟩
 obtain rfl:=Prepared.ended.inj is
 exact unsent

lemma ended_leaves {outcome:AlertOutcome}
 (done:(.ok (.ended outcome,rows):Prepare)=.ok (prepared,rows'))
 (unsent:outcome.result≠.sent) :
 Leaves a rows rows' prepared ∧ Timely account now rows prepared:=by
 obtain ⟨rfl,rfl⟩:=Prod.mk.inj (Except.ok.inj done)
 exact ⟨leaves_over (fun _ mem _=>mem) unsent,nofun⟩

lemma suppressWhole_leaves {reason:SuppressionReason}
 (done:suppressWhole account b reason now rows=.ok (prepared,rows')) :
 Leaves a rows rows' prepared ∧ Timely account now rows prepared:=by
 obtain ⟨rows₁,updated,is⟩:=bind_ok.mp done
 obtain ⟨rfl,rfl⟩:=Prod.mk.inj (Except.ok.inj is)
 exact ⟨leaves_over (markSuppressed_stay updated) nofun,nofun⟩

lemma leaseBatch_leaves (filled:b.signalKeys≠[])
 (done:leaseBatch settings account b now rows=.ok (prepared,rows')) :
 Leaves b.accountId rows rows' prepared:=by
 unfold leaseBatch at done
 split at done
 · obtain ⟨⟨status,rows₁⟩,updated,is⟩:=bind_ok.mp done
   obtain ⟨rfl,rfl⟩:=Prod.mk.inj (Except.ok.inj is)
   refine leaves_over (markAttemptBudgetExhausted_stay updated) ?_
   simp only
   split <;> nofun
 · obtain ⟨⟨b',rows₁⟩,updated,is⟩:=bind_ok.mp done
   obtain ⟨rfl,rfl⟩:=Prod.mk.inj (Except.ok.inj is)
   obtain ⟨stay,mine,keys⟩:=markSending_stay updated
   refine ⟨stay,fun b'' is=>?_,nofun⟩
   obtain rfl:=Prepared.send.inj is
   exact ⟨mine,keys ▸ filled⟩

lemma suppressInaccessible_stay (done:suppressInaccessible account b now rows=.ok rows') :
 SentStay rows rows':=by
 unfold suppressInaccessible at done
 split at done
 · obtain rfl:=Except.ok.inj done
   exact fun _ mem _=>mem
 · exact markSuppressed_stay done

lemma dispatch_leaves (done:dispatch settings account b now rows=.ok (prepared,rows')) :
 Leaves b.accountId rows rows' prepared:=by
 unfold dispatch at done
 simp only at done
 split at done
 · obtain ⟨rfl,rfl⟩:=Prod.mk.inj (Except.ok.inj done)
   exact leaves_over (fun _ mem _=>mem) nofun
 · obtain ⟨rows₁,updated,is⟩:=bind_ok.mp done
   have stay:=suppressInaccessible_stay updated
   split at is
   · obtain ⟨rfl,rfl⟩:=Prod.mk.inj (Except.ok.inj is)
     exact leaves_over stay nofun
   · rename_i filled
     have leaves:=leaseBatch_leaves filled is
     exact ⟨stay.trans leaves.stay,leaves.mine,leaves.unsent⟩

lemma renew_leaves (done:renew digests settings account now rows=.ok (prepared,rows')) :
 Leaves account.accountId rows rows' prepared ∧ Timely account now rows prepared:=by
 unfold renew at done
 simp only at done
 split at done
 · exact ended_leaves done nofun
 · rename_i due
   split at done
   · exact ended_leaves done nofun
   · split at done
     · exact ended_leaves done nofun
     · split at done
       · exact ended_leaves done nofun
       · rename_i queued rows₁ is
         obtain ⟨stay,mine,-⟩:=queueBatch_stay is
         have leaves:=dispatch_leaves done
         refine ⟨⟨stay.trans leaves.stay,fun b is=>?_,leaves.unsent⟩,fun b is=>.inr ?_⟩
         · obtain ⟨account',filled⟩:=leaves.mine b is
           exact ⟨account'.trans mine,filled⟩
         · simpa[isDueNow] using due

lemma prepare_leaves (done:prepare digests settings account now rows=.ok (prepared,rows')) :
 Leaves account.accountId rows rows' prepared ∧ Timely account now rows prepared:=by
 obtain ⟨waiting,found,done⟩:=bind_ok.mp done
 split at done
 · cases waiting with
   | none=>exact ended_leaves done nofun
   | some b=>exact suppressWhole_leaves done
 · split at done
   · cases waiting with
     | none=>exact ended_leaves done nofun
     | some b=>exact suppressWhole_leaves done
   · cases waiting with
     | none=>exact renew_leaves done
     | some b =>
      change (if _ then _ else _)=_ at done
      split at done
      · rename_i same
        have leaves:=dispatch_leaves done
        have waits:isWaiting rows account now=true:=by
         rw[isWaiting,found]
         exact decide_eq_true same
        refine ⟨⟨leaves.stay,fun b' is=>?_,leaves.unsent⟩,fun _ _=>.inl waits⟩
        obtain ⟨account',filled⟩:=leaves.mine b' is
        exact ⟨account'.trans (nextDueBatch_account found),filled⟩
      · exact suppressWhole_leaves done

lemma markSent_leaves {id:String}(filled:b.signalKeys≠[]) (done:markSent b id now rows=.ok rows') :
 ∃r∈rows',r.accountId=b.accountId ∧ r.status=.sent ∧ r.sentAt=some now:=by
 unfold markSent updateAll at done
 simp only at done
 split at done
 · rename_i all
   obtain rfl:=Except.ok.inj done
   have some':=List.length_pos_iff.mpr filled
   rw[←all] at some'
   obtain ⟨r,mem,taken⟩:=List.countP_pos_iff.mp some'
   have account:r.accountId=b.accountId:=by
    simp only[owned,Bool.and_eq_true,decide_eq_true_eq] at taken
    exact taken.1.1.1.1.1
   exact ⟨_,mem_update.mpr ⟨r,mem,if_pos taken⟩,account,rfl,rfl⟩
 · cases done

def GatewayOutcome.isAccepted:GatewayOutcome→Bool
 | .accepted _=>true
 | _=>false

structure Completes (account:AccountView)(b:DeliveryBatch)(now:ℤ)(gateway:GatewayOutcome)
  (rows rows':List Row)(outcome:AlertOutcome):Prop where
 stay:SentStay rows rows'
 mine:outcome.accountId=account.accountId
 sent:outcome.result=.sent→GatewayOutcome.isAccepted gateway=true ∧
  ∃r∈rows',r.accountId=b.accountId ∧ r.status=.sent ∧ r.sentAt=some now

lemma complete_completes (filled:b.signalKeys≠[])(gateway:GatewayOutcome)(stored:Bool) :
 Completes account b now gateway rows (complete settings account b now gateway stored rows).2
  (complete settings account b now gateway stored rows).1:=by
 unfold complete
 cases stored with
 | false=>exact ⟨fun _ mem _=>mem,rfl,nofun⟩
 | true =>
  cases done:record settings b now rows gateway with
  | error conflict=>exact ⟨fun _ mem _=>mem,rfl,nofun⟩
  | ok rows' =>
   have stay:=record_stay done
   cases gateway with
   | accepted id=>exact ⟨stay,rfl,fun _=>⟨rfl,markSent_leaves filled done⟩⟩
   | uncertain | refused=>exact ⟨stay,rfl,nofun⟩

lemma lastSuccessfulSend_mem {r:Row}{t:ℤ}(mem:r∈rows)(mine:r.accountId=a)
 (sent:r.status=.sent)(when':r.sentAt=some t) :
 ∃last,lastSuccessfulSend rows a=some last ∧ t≤last:=by
 have listed:t∈rows.filterMap fun r=>
   if r.accountId=a ∧ r.status=.sent then r.sentAt else none:=
  List.mem_filterMap.mpr ⟨r,mem,by rw[if_pos ⟨mine,sent⟩,when']⟩
 unfold lastSuccessfulSend
 cases is:(rows.filterMap fun r=>
   if r.accountId=a ∧ r.status=.sent then r.sentAt else none).max? with
 | none =>
  rw[List.max?_eq_none_iff.mp is] at listed
  cases listed
 | some last=>exact ⟨last,rfl,(List.max?_eq_some_iff.mp is).2 t listed⟩

lemma lastSuccessfulSend_stay (stay:SentStay rows rows'){last:ℤ}
 (is:lastSuccessfulSend rows a=some last) :
 ∃last',lastSuccessfulSend rows' a=some last' ∧ last≤last':=by
 obtain ⟨r,mem,chosen⟩:=List.mem_filterMap.mp (List.max?_eq_some_iff.mp is).1
 split at chosen
 · rename_i mine
   exact lastSuccessfulSend_mem (stay r mem mine.2) mine.1 mine.2 chosen
 · cases chosen

structure Spaced (interval:ℤ)(a:String)(sends:List ℤ)(rows:List Row):Prop where
 apart:sends.Pairwise fun earlier later=>interval≤later-earlier
 known:∀t∈sends,∃last,lastSuccessfulSend rows a=some last ∧ t≤last

lemma Spaced.stay (h:Spaced interval a sends rows)
 (stay:SentStay rows rows'):Spaced interval a sends rows':=by
 refine ⟨h.apart,fun t mem=>?_⟩
 obtain ⟨last,is,le⟩:=h.known t mem
 obtain ⟨last',is',le'⟩:=lastSuccessfulSend_stay stay is
 exact ⟨last',is',Int.le_trans le le'⟩

lemma Spaced.send (h:Spaced interval a sends rows) (gap:minimumInterval cadence=some interval)
 (due:isDue cadence (lastSuccessfulSend rows a) now=true)(stay:SentStay rows rows')
 (sent:∃r∈rows',r.accountId=a ∧ r.status=.sent ∧ r.sentAt=some now) :
 Spaced interval a (sends++[now]) rows':=by
 have kept:=h.stay stay
 refine ⟨?_,fun t mem=>?_⟩
 · rw[List.pairwise_append]
   refine ⟨h.apart,List.pairwise_singleton _ _,fun t mem t' last'=>?_⟩
   obtain rfl:=List.mem_singleton.mp last'
   obtain ⟨last,is,le⟩:=h.known t mem
   simp only[isDue,gap,is,decide_eq_true_eq] at due
   omega
 · rcases List.mem_append.mp mem with old|new
   · exact kept.known t old
   · obtain rfl:=List.mem_singleton.mp new
     obtain ⟨r,there,mine,is,when'⟩:=sent
     exact lastSuccessfulSend_mem there mine is when'

def sendsOf (a:String)(now:ℤ)(outcomes:List AlertOutcome):List ℤ:=
 (outcomes.filter fun o=>o.result=.sent&&o.accountId=a).map fun _=>now

def Punctual (a:String)(now:ℤ)(p:Progress)(v:Visit):Prop:=
 v.account.accountId=a→isWaiting p.rows v.account now=true →
  v.gateway.any GatewayOutcome.isAccepted=true→isDueNow p.rows v.account now=true

lemma sendsOf_append (outcomes:List AlertOutcome)(outcome:AlertOutcome) :
 sendsOf a now (outcomes++[outcome])=sendsOf a now outcomes ++
  if outcome.result=.sent ∧ outcome.accountId=a then [now] else []:=by
 rw[sendsOf,List.filter_append,List.map_append,sendsOf]
 congr 1
 split <;> simp_all

lemma runForAccount_spaced {p:Progress}{v:Visit} (gap:minimumInterval cadence=some interval)
 (plan:v.account.accountId=a→v.account.alertCadence=cadence)
 (punctual:Punctual a now p v)(h:Spaced interval a (sends++sendsOf a now p.outcomes) p.rows) :
 Spaced interval a (sends++sendsOf a now (runForAccount digests settings now p v).outcomes)
  (runForAccount digests settings now p v).rows:=by
 unfold runForAccount
 split
 · exact h
 · split
   · exact h
   · rename_i outcome rows' done
     obtain ⟨leaves,-⟩:=prepare_leaves done
     rw[sendsOf_append,if_neg fun is=>leaves.unsent outcome rfl is.1,List.append_nil]
     exact h.stay leaves.stay
   · rename_i batch rows' done
     obtain ⟨leaves,timely⟩:=prepare_leaves done
     obtain ⟨mine,filled⟩:=leaves.mine batch rfl
     cases answer:v.gateway with
   | none=>exact h.stay leaves.stay
   | some gateway =>
    have completes:Completes v.account batch now gateway rows'
      (complete settings v.account batch now gateway v.stored rows').2
      (complete settings v.account batch now gateway v.stored rows').1:=
     complete_completes filled gateway v.stored
    have stay:=leaves.stay.trans completes.stay
    simp only
    rw[sendsOf_append]
    split
    · rename_i sent
      obtain ⟨accepted,row⟩:=completes.sent sent.1
      have same:v.account.accountId=a:=completes.mine.symm.trans sent.2
      have due:isDueNow p.rows v.account now=true:=by
       cases timely batch rfl with
       | inl waits=>exact punctual same waits (by rw[answer];exact accepted)
       | inr due=>exact due
      rw[isDueNow,plan same,same] at due
      rw[mine,same] at row
      rw[←List.append_assoc]
      exact h.send gap due stay row
    · rw[List.append_nil]
      exact h.stay stay

def reports (digests:Digests):Store→List Cycle→List (Cycle × CycleReport)
 | _,[]=>[]
 | s,c::cycles =>
  (c,(runAlertCycle digests s c).1)::reports digests (runAlertCycle digests s c).2 cycles

def successfulSends (a:String)(reported:List (Cycle × CycleReport)):List ℤ:=
 reported.flatMap fun entry=>(entry.2.sent.filter fun o=>o.accountId=a).map fun _=>entry.1.now

def PunctualCycle (digests:Digests)(a:String)(s:Store)(c:Cycle):Prop:=
 (acquire s.lease c.ownerId c.now c.jobLeaseTtl).1=.acquired →
  Runs.Along (runForAccount digests c.settings c.now) (Punctual a c.now) ⟨s.rows,[],none⟩ c.visits

lemma sent_filter (report:CycleReport) :
 (report.sent.filter fun o=>o.accountId=a).map (fun _=>now)=sendsOf a now report.outcomes:=by
 rw[CycleReport.sent,List.filter_filter,sendsOf]
 congr 2
 funext o
 rw[Bool.and_comm]

lemma runAlertCycle_spaced {s:Store}{c:Cycle} (gap:minimumInterval cadence=some interval)
 (plan:∀v∈c.visits,v.account.accountId=a→v.account.alertCadence=cadence)
 (punctual:PunctualCycle digests a s c)(h:Spaced interval a sends s.rows) :
 Spaced interval a (sends++sendsOf a c.now (runAlertCycle digests s c).1.outcomes)
  (runAlertCycle digests s c).2.rows:=by
 unfold runAlertCycle
 split
 · simpa[sendsOf] using h
 · rename_i lease acquired
   have along:=punctual (by rw[acquired])
   have visited:∀ (visits:List Visit)(p:Progress),(∀v∈visits,v∈c.visits) →
     Runs.Along (runForAccount digests c.settings c.now) (Punctual a c.now) p visits →
     Spaced interval a (sends++sendsOf a c.now p.outcomes) p.rows →
     Spaced interval a
      (sends++sendsOf a c.now (visits.foldl (runForAccount digests c.settings c.now) p).outcomes)
      (visits.foldl (runForAccount digests c.settings c.now) p).rows:=by
    intro visits
    induction visits with
    | nil=>exact fun _ _ _ spaced=>spaced
    | cons v visits ih =>
     intro p within along spaced
     exact ih _ (fun v' mem=>within v' (List.mem_cons_of_mem v mem)) along.2
      (runForAccount_spaced gap (plan v (within v List.mem_cons_self)) along.1 spaced)
   exact visited c.visits ⟨s.rows,[],none⟩ (fun _ mem=>mem) along (by simpa[sendsOf] using h)

lemma reports_spaced (gap:minimumInterval cadence=some interval) {s:Store}{cycles:List Cycle}
 (plan:∀c∈cycles,∀v∈c.visits,v.account.accountId=a→v.account.alertCadence=cadence)
 (punctual:Runs.Along (fun s c=>(runAlertCycle digests s c).2) (PunctualCycle digests a) s cycles)(h:Spaced interval a sends s.rows) :
 (sends++successfulSends a (reports digests s cycles)).Pairwise fun earlier later=>
  interval≤later-earlier:=by
 induction cycles generalizing s sends with
 | nil=>simpa[reports,successfulSends] using h.apart
 | cons c cycles ih =>
  have next:=runAlertCycle_spaced gap (plan c List.mem_cons_self) punctual.1 h
  have rest:=ih (fun c' mem=>plan c' (List.mem_cons_of_mem c mem)) punctual.2 next
  rw[List.append_assoc] at rest
  simp only[reports,successfulSends,List.flatMap_cons,sent_filter]
  simpa only[successfulSends,sent_filter] using rest

/-- As long as no batch that comes back is sent before the account is due, any
two successful sends to an account, and the last one before the run, keep the
gap of its cadence. -/
theorem sends_keep_the_gap (digests:Digests){a cadence:String}{interval:ℤ}
 (gap:minimumInterval cadence=some interval)(start:Store){cycles:List Cycle}
 (plan:∀c∈cycles,∀v∈c.visits,v.account.accountId=a→v.account.alertCadence=cadence)
 (punctual:Runs.Along (fun s c=>(runAlertCycle digests s c).2) (PunctualCycle digests a) start cycles) :
 ((lastSuccessfulSend start.rows a).toList++successfulSends a (reports digests start cycles)).Pairwise
  fun earlier later=>interval≤later-earlier:=by
 refine reports_spaced gap plan punctual ⟨?_,fun t mem=>?_⟩
 · cases lastSuccessfulSend start.rows a with
   | none=>exact List.Pairwise.nil
   | some last=>exact List.pairwise_singleton _ _
 · exact ⟨t,by simpa using mem,le_rfl⟩

def retryDigests:Digests where
 ofBatch accountId keys:=accountId++String.join keys
 ofMessage accountId batchKey:=accountId++batchKey

def minute:ℤ:=60000000

def weeklyCycle (now:ℤ)(signals:List String)(gateway:GatewayOutcome):Cycle:=
 ⟨now,"owner",30*minute,⟨some "https://kivou.eu",30*minute,⟨15*minute,5⟩⟩,
  [⟨⟨"acc","weekly",false,true,"context",[signals],signals⟩,some gateway,true⟩]⟩

instance decidablePunctual (a:String)(now:ℤ)(p:Progress)(v:Visit) :
 Decidable (Punctual a now p v):=inferInstanceAs (Decidable (_→_→_→_))

instance decidablePunctualCycle (digests:Digests)(a:String)(s:Store)(c:Cycle) :
 Decidable (PunctualCycle digests a s c):=inferInstanceAs (Decidable (_→_))

def punctualCycles:List Cycle:=[weeklyCycle 0 ["sig-1"] (.accepted "id-1"),
  weeklyCycle (7*day) ["sig-1","sig-2"] (.refused "smtp_connection_failed" true),
  weeklyCycle (7*day+15*minute) ["sig-1","sig-2"] (.accepted "id-2")]

def overtakenCycles:List Cycle:=[weeklyCycle 0 ["sig-1"] (.refused "smtp_connection_failed" true),
  weeklyCycle (5*minute) ["sig-1","sig-2"] (.accepted "id-2"),
  weeklyCycle (15*minute) ["sig-1","sig-2"] (.accepted "id-1")]

theorem sends_keep_the_gap_sample :
 successfulSends "acc" (reports retryDigests ⟨[],none⟩ punctualCycles) =[0,7*day+15*minute] ∧
  (successfulSends "acc" (reports retryDigests ⟨[],none⟩ punctualCycles)).Pairwise
   fun earlier later=>7*day≤later-earlier:=by
 have punctual:Runs.Along (fun s c=>(runAlertCycle retryDigests s c).2)
   (PunctualCycle retryDigests "acc") ⟨[],none⟩ punctualCycles:=by decide +kernel
 have gap:minimumInterval "weekly"=some (7*day):=rfl
 exact ⟨by decide +kernel,sends_keep_the_gap retryDigests gap ⟨[],none⟩ (by decide) punctual⟩

/-- The retried batch is sent ten minutes after the other one, in a week's cadence. -/
theorem retried_batch_breaks_the_gap : ¬ ∀ (digests:Digests)(start:Store)(cycles:List Cycle),
  (cycles.map Cycle.now).Pairwise (· ≤ ·) →
  (∀c∈cycles,∀v∈c.visits,v.account.accountId="acc"→v.account.alertCadence="weekly") →
  (successfulSends "acc" (reports digests start cycles)).Pairwise fun earlier later=>
   7*day≤later-earlier:=by
 intro claimed
 have apart:=claimed retryDigests ⟨[],none⟩ overtakenCycles (by decide) (by decide)
 have sends:successfulSends "acc" (reports retryDigests ⟨[],none⟩ overtakenCycles) =
   [5*minute,15*minute]:=by decide +kernel
 rw[sends] at apart
 exact absurd apart (by decide)

end Kivou.AlertCadence
