import Kivou.ConversionMilestones
import Kivou.PythonValues

set_option autoImplicit false

/-! `_ensure_event` appends one event, or finds it there, or raises: for an outcome on a journey
without a ranked opportunity, and for an event dated after its observation. -/
namespace Kivou.ConversionEvents
open AcquisitionContracts AcquisitionReducer BillingCatalogue BillingSubscription PythonValues

section
variable {digests:Digests}{db db':Db}{journey:Journey}{eventId:String}{o:Observation}
 {r:MilestoneResult}{row:ConversionEvent}

lemma event_eq_none {ref:Ref} : db.event ref=none ↔ ∀e∈db.events,e.conversionEventRef≠ref:=by
 simp[Db.event,List.find?_eq_none]

lemma insertEvent_ok:db.insertEvent row=.ok db' ↔
 row.checks=true ∧ db.event row.conversionEventRef=none ∧ db'={db with events:=db.events++[row]}:=by
 unfold Db.insertEvent
 split
 · rename_i admitted
   rw[Bool.and_eq_true,Option.isNone_iff_eq_none] at admitted
   simp[admitted,eq_comm]
 · rename_i refused
   rw[Bool.and_eq_true,Option.isNone_iff_eq_none] at refused
   constructor
   · intro h
     cases h
   · rintro ⟨checks,fresh,-⟩
     exact absurd ⟨checks,fresh⟩ refused

def ranked (db:Db)(journey:Journey):Bool:=
 (journey.acquisitionOpportunityId.bind db.streams).any fun s=>(outcomeRank s.state).isSome

def Keyed (db:Db):Prop:=
 ∀id s,db.streams id=some s→∀o∈s.outcomes,(db.event o.conversionEventRef).isSome

/-- What the milestones ask for: a ranked outcome, and a row that the table
refuses only for its instants. -/
structure Observation.Sound (o:Observation):Prop where
 outcome:∀target reasonCode,o.outcome=some (target,reasonCode)→(outcomeRank target).isSome
 checks:∀digests journey outcomeEventRef,
  (o.row digests journey outcomeEventRef).checks=decide (o.happenedAt≤o.observedAt)

def recordable (digests:Digests)(db:Db)(journey:Journey)(o:Observation):Bool:=
 (db.event (o.reference digests)).isSome ||
  ((o.outcome.isNone||ranked db journey)&&o.happenedAt≤o.observedAt)

lemma append_isOk {s:Stream}{outcome:Outcome}
 (fresh:∀k∈s.outcomes,k.conversionEventRef≠outcome.conversionEventRef)
 (target:(outcomeRank outcome.target).isSome) :
 (s.append outcome).isOk=(outcomeRank s.state).isSome:=by
 have unknown:s.outcomes.find? (·.conversionEventRef==outcome.conversionEventRef)=none:=by
  simpa[List.find?_eq_none] using fresh
 obtain ⟨reached,hreached⟩:=Option.isSome_iff_exists.mp target
 unfold Stream.append
 rw[unknown,hreached]
 cases outcomeRank s.state with
 | none=>rfl
 | some held=>rfl

lemma append_outcomes {s s':Stream}{outcome:Outcome}{id:String} (h:s.append outcome=.ok (s',id)) :
 ∀k∈s'.outcomes,k∈s.outcomes ∨ k=outcome:=by
 unfold Stream.append at h
 split at h
 · split at h
   · cases h
     exact fun k mem=>.inl mem
   · cases h
 · split at h
   · cases h
     intro k mem
     simpa using mem
   · cases h

lemma setStream_streams (opportunityId:String)(stream:Stream)(id:String) :
 (db.setStream opportunityId stream).streams id =
  if id=opportunityId then some stream else db.streams id:=Function.update_apply ..

structure Recorded (digests:Digests)(db:Db)(journey:Journey)(o:Observation) (db':Db):Prop where
 fresh:db.event (o.reference digests)=none
 events:∃outcomeEventRef,(o.row digests journey outcomeEventRef).checks=true ∧
  db'.events=db.events++[o.row digests journey outcomeEventRef]
 journeys:db'.journeys=db.journeys
 accounts:db'.accounts=db.accounts
 targets:db'.targets=db.targets
 streams:∀id s',db'.streams id=some s'→∃s,db.streams id=some s ∧
  ∀k∈s'.outcomes,k∈s.outcomes ∨ k.conversionEventRef=o.reference digests

lemma recordOutcome_ok {outcomeEventRef:Option String}
 (h:recordOutcome digests db journey eventId o=.ok (db',outcomeEventRef)) :
 (∃streams,db'={db with streams}) ∧
  ∀id s',db'.streams id=some s'→∃s,db.streams id=some s ∧
   ∀k∈s'.outcomes,k∈s.outcomes ∨ k.conversionEventRef=o.reference digests:=by
 unfold recordOutcome at h
 split at h
 · cases h
   exact ⟨⟨db.streams,rfl⟩,fun id s hs=>⟨s,hs,fun k mem=>.inl mem⟩⟩
 · split at h
   · cases h
   · rename_i target reasonCode _ _ opportunityId _
     split at h
     · cases h
     · rename_i stream hstream
       obtain ⟨⟨stream',outcomeId⟩,happend,h⟩:=bind_ok.mp h
       cases h
       refine ⟨⟨_,rfl⟩,fun id s' hs'=>?_⟩
       by_cases same:id=opportunityId
       · rw[setStream_streams,if_pos same] at hs'
         cases hs'
         subst same
         refine ⟨stream,hstream,fun k mem=>?_⟩
         rcases append_outcomes happend k mem with old|rfl
         · exact .inl old
         · exact .inr rfl
       · rw[setStream_streams,if_neg same] at hs'
         exact ⟨s',hs',fun k mem=>.inl mem⟩

/-- Everything a call of `_ensure_event` can do. -/
lemma ensureEvent_ok (h:ensureEvent digests db journey eventId o=.ok (db',r)) :
 (db'=db ∧ (db.event (o.reference digests)).isSome) ∨ Recorded digests db journey o db':=by
 unfold ensureEvent at h
 split at h
 · rename_i existing found
   cases h
   exact .inl ⟨rfl,by rw[found];rfl⟩
 · rename_i fresh
   obtain ⟨⟨recorded,outcomeEventRef⟩,hrecord,h⟩:=bind_ok.mp h
   obtain ⟨inserted,hinsert,h⟩:=bind_ok.mp h
   cases h
   obtain ⟨⟨streams,rfl⟩,kept⟩:=recordOutcome_ok hrecord
   obtain ⟨checks,-,rfl⟩:=insertEvent_ok.mp hinsert
   exact .inr ⟨fresh,⟨outcomeEventRef,checks,rfl⟩,rfl,rfl,rfl,kept⟩

lemma recordOutcome_isOk (eventId:String)(keyed:Keyed db)(sound:o.Sound)
 (fresh:db.event (o.reference digests)=none) :
 (recordOutcome digests db journey eventId o).isOk=(o.outcome.isNone||ranked db journey):=by
 unfold recordOutcome ranked
 split
 · rename_i none
   rw[none]
   rfl
 · rename_i target reasonCode houtcome
   rw[houtcome]
   cases journey.acquisitionOpportunityId with
   | none=>rfl
   | some opportunityId =>
    cases hstream:db.streams opportunityId with
    | none=>simp[hstream,Except.isOk,Except.toBool]
    | some stream =>
     have unknown:∀k∈stream.outcomes,k.conversionEventRef≠o.reference digests:=by
      intro k mem same
      have known:=keyed opportunityId stream hstream k mem
      rw[same,fresh] at known
      cases known
     have appended:(stream.append ⟨eventId,o.reference digests,target,reasonCode,
       o.happenedAt⟩).isOk=(outcomeRank stream.state).isSome:=
      append_isOk unknown (sound.outcome target reasonCode houtcome)
     simp only[Option.bind_some,hstream,Option.any_some,Option.isNone_some,Bool.false_or,←appended]
     cases stream.append ⟨eventId,o.reference digests,target,reasonCode,o.happenedAt⟩ <;> rfl

/-- `_ensure_event` raises exactly where the event cannot be recorded. -/
lemma ensureEvent_isOk (keyed:Keyed db)(sound:o.Sound) :
 (ensureEvent digests db journey eventId o).isOk=recordable digests db journey o:=by
 unfold ensureEvent recordable
 cases found:db.event (o.reference digests) with
 | some existing=>rfl
 | none =>
  rw[Option.isSome_none,Bool.false_or,←recordOutcome_isOk eventId keyed sound found]
  cases hrecord:recordOutcome digests db journey eventId o with
  | error e=>rfl
  | ok recorded =>
   obtain ⟨recorded,outcomeEventRef⟩:=recorded
   obtain ⟨⟨streams,rfl⟩,-⟩:=recordOutcome_ok hrecord
   change Except.isOk (Db.insertEvent {db with streams} (o.row digests journey outcomeEventRef)
    >>= fun inserted=>_)=_
   have same:({db with streams}:Db).event (o.row digests journey outcomeEventRef).conversionEventRef
     = none:=found
   unfold Db.insertEvent
   rw[same,sound.checks]
   by_cases timely:o.happenedAt≤o.observedAt
   · simp[timely,Except.isOk,Except.toBool,Bind.bind,Except.bind,Pure.pure,Except.pure]
   · simp[timely,Except.isOk,Except.toBool,Bind.bind,Except.bind]

def Mrr.Valid (value:Mrr):Prop:=
 if value.known then
  value.amount.isSome ∧ (value.currency=some "chf" ∨ value.currency=some "eur") ∧ value.reason=none
 else value.amount=none ∧ value.currency=none ∧ value.reason.isSome

lemma unknownPlan_valid:unknownPlan.Valid:=⟨rfl,rfl,rfl⟩

lemma billable_some {currency:Option String}{c:Currency}(h:billable currency=some c) :
 currency=some "chf" ∨ currency=some "eur":=by
 cases currency with
 | none=>cases h
 | some code =>
  have same:=List.find?_some h
  cases c with
  | chf=>exact .inl (congrArg some (beq_iff_eq.mp same).symm)
  | eur=>exact .inr (congrArg some (beq_iff_eq.mp same).symm)

lemma mrr_valid (s:StoredSubscription):(mrr s).Valid:=by
 unfold mrr
 split
 · rename_i plan currency _ hcurrency
   split
   · rename_i sold
     refine ⟨?_,billable_some hcurrency,rfl⟩
     cases plan with
     | discovery=>cases sold with
      | tail _ h=>cases h with
       | tail _ h=>cases h
     | essential | pro=>cases s.foundingOffer <;> rfl
   · exact unknownPlan_valid
 · exact unknownPlan_valid

def BillingBranch.value:BillingBranch→Option Mrr
 | .paying value=>some value
 | .unknown=>some unknownPlan
 | .canceled value=>value
 | .none=>Option.none

lemma value_valid {s:StoredSubscription}{paid:Bool}{value:Mrr}
 (h:(billingBranch s paid).value=some value):value.Valid:=by
 unfold billingBranch at h
 split at h
 · cases h
   exact mrr_valid s
 · split at h
   · cases h
     exact unknownPlan_valid
   · split at h
     · obtain ⟨c,hc,rfl⟩:=Option.map_eq_some_iff.mp h
       exact ⟨rfl,billable_some hc,rfl⟩
     · cases h

lemma checks_row (digests:Digests)(journey:Journey)(outcomeEventRef:Option String)
 (phase:o.milestone≠.click)(scope:o.milestone≠.mrrChanged)
 (money:o.mrrKnown=none ∧ o.mrrMinorUnits=none ∧ o.currency=none) :
 (o.row digests journey outcomeEventRef).checks=decide (o.happenedAt≤o.observedAt):=by
 obtain ⟨known,amount,currency⟩:=money
 simp[Observation.row,ConversionEvent.checks,ConversionEvent.phase,ConversionEvent.mrrScope,
  ConversionEvent.money,ConversionEvent.times,phase,scope,known,amount,currency]

variable {subscriptionRef:Ref}{observedAt:ℕ}

lemma activation_sound (accountId status:String)(account:AccountState) :
 (activation digests accountId status account journey observedAt).Sound where
 outcome:=by
  rintro target reasonCode ⟨⟩
  rfl
 checks digests journey' x:=checks_row digests journey' x nofun nofun ⟨rfl,rfl,rfl⟩

lemma payment_sound:(payment journey subscriptionRef observedAt).Sound where
 outcome:=by
  rintro target reasonCode ⟨⟩
  rfl
 checks digests journey' x:=checks_row digests journey' x nofun nofun ⟨rfl,rfl,rfl⟩

lemma churn_sound (canceledAt:Option ℕ) :
 (churn journey subscriptionRef observedAt canceledAt).Sound where
 outcome:=by
  rintro target reasonCode ⟨⟩
  rfl
 checks digests journey' x:=checks_row digests journey' x nofun nofun ⟨rfl,rfl,rfl⟩

lemma mrrChange_sound {value:Mrr}(valid:value.Valid)(latest:Option ConversionEvent) :
 (mrrChange journey subscriptionRef observedAt value latest).Sound where
 outcome:=nofun
 checks:=by
  obtain ⟨known,amount,currency,reason⟩:=value
  cases known with
  | true =>
   obtain ⟨hamount,hcurrency|hcurrency,hreason⟩:=valid <;>
    simp_all[mrrChange,Observation.row,ConversionEvent.checks,ConversionEvent.phase,
     ConversionEvent.mrrScope,ConversionEvent.money,ConversionEvent.times,
     Observation.happenedAt]
  | false =>
   obtain ⟨hamount,hcurrency,hreason⟩:=valid
   simp_all[mrrChange,Observation.row,ConversionEvent.checks,ConversionEvent.phase,
    ConversionEvent.mrrScope,ConversionEvent.money,ConversionEvent.times,
    Observation.happenedAt]

lemma retention_sound {paid:ConversionEvent}{turn:ℕ × Milestone} (due:turn∈retentionDays) :
 (retention journey paid turn.1 turn.2 observedAt).Sound where
 outcome:=by
  intro target reasonCode h
  unfold retention at h
  split at h
  · cases h
    rfl
  · cases h
 checks:=by
  rcases List.mem_pair.mp due with rfl|rfl <;>
   exact fun digests journey' x=>checks_row digests journey' x nofun nofun ⟨rfl,rfl,rfl⟩

/-- An event that a milestone call may append to `db`. -/
def Proper (db:Db)(journey:Journey)(o:Observation):Prop:=
 match o.milestone with
 | .activated | .paid=>o.identity=.journey journey.journeyRef
 | .churned=>o.identity=.journey journey.journeyRef ∧ db.hasMilestone journey.journeyRef .paid=true
 | .retainedM1 | .retainedM2=>db.hasMilestone journey.journeyRef o.milestone=false
 | .mrrChanged=>True
 | .click | .signup=>False

inductive Records (digests:Digests):Db→Db→Prop
 | refl (db:Db):Records digests db db
 | record {db mid db':Db}{journey:Journey}{o:Observation} :
   Recorded digests db journey o mid→Proper db journey o→Records digests mid db' →
    Records digests db db'

lemma Records.trans {db mid db':Db}(first:Records digests db mid)
 (second:Records digests mid db'):Records digests db db':=by
 induction first with
 | refl=>exact second
 | record recorded proper _ ih=>exact .record recorded proper (ih second)

lemma ensureEvent_records (h:ensureEvent digests db journey eventId o=.ok (db',r))
 (proper:Proper db journey o):Records digests db db':=by
 rcases ensureEvent_ok h with ⟨rfl,-⟩|recorded
 · exact .refl _
 · exact .record recorded proper (.refl _)

lemma ensureMrrEvent_records {value:Mrr}
 (h:ensureMrrEvent digests db journey subscriptionRef observedAt value=.ok (db',r)) :
 Records digests db db':=by
 unfold ensureMrrEvent at h
 dsimp only at h
 split at h
 · cases h
   exact .refl _
 · exact ensureEvent_records h trivial

variable {accountId:String}{now:ℕ}

lemma observeActivation_records {result:Option MilestoneResult}
 (h:observeActivation digests db accountId observedAt eventId=.ok (db',result)) :
 Records digests db db':=by
 unfold observeActivation at h
 split at h
 · obtain ⟨⟨db',result⟩,ensured,h⟩:=bind_ok.mp h
   cases h
   exact ensureEvent_records ensured rfl
 · cases h
   exact .refl _

lemma billingBranch_canceled {s:StoredSubscription}{paid:Bool}{value:Option Mrr}
 (h:billingBranch s paid=.canceled value):paid=true:=by
 unfold billingBranch at h
 split at h
 · cases h
 · split at h
   · cases h
   · split at h
     · rename_i canceled
       exact canceled.2
     · cases h

lemma observeBilling_records {s:StoredSubscription}{results:List MilestoneResult}
 (h:observeBilling digests db accountId s observedAt eventId=.ok (db',results)) :
 Records digests db db':=by
 unfold observeBilling at h
 split at h
 · cases h
   exact .refl _
 · rename_i journey _
   dsimp only at h
   split at h
   · obtain ⟨⟨paidDb,paid⟩,hpaid,h⟩:=bind_ok.mp h
     obtain ⟨⟨db',money⟩,hmoney,h⟩:=bind_ok.mp h
     cases h
     exact (ensureEvent_records hpaid rfl).trans (ensureMrrEvent_records hmoney)
   · obtain ⟨⟨db',money⟩,hmoney,h⟩:=bind_ok.mp h
     cases h
     exact ensureMrrEvent_records hmoney
   · rename_i value hbranch
     have paid:=billingBranch_canceled hbranch
     obtain ⟨⟨churnedDb,churned⟩,hchurn,h⟩:=bind_ok.mp h
     have first:Records digests db churnedDb:=ensureEvent_records hchurn ⟨rfl,paid⟩
     split at h
     · obtain ⟨⟨db',money⟩,hmoney,h⟩:=bind_ok.mp h
       cases h
       exact first.trans (ensureMrrEvent_records hmoney)
     · cases h
       exact first
   · cases h
     exact .refl _

lemma retain_records {paid:ConversionEvent}{turn:ℕ × Milestone}(due:turn∈retentionDays)
 {done done':Db × List MilestoneResult}
 (h:retain digests journey paid now eventId turn done=.ok done') :
 Records digests done.1 done'.1:=by
 unfold retain at h
 split at h
 · cases h
   exact .refl _
 · rename_i open'
   have fresh:done.1.hasMilestone journey.journeyRef turn.2=false:=by
    simpa using (not_or.mp open').2
   obtain ⟨⟨db',result⟩,ensured,h⟩:=bind_ok.mp h
   cases h
   rcases List.mem_pair.mp due with rfl|rfl <;> exact ensureEvent_records ensured fresh

lemma recordRetention_records {results:List MilestoneResult}
 (h:recordRetention digests db accountId now eventId=.ok (db',results)) :
 Records digests db db':=by
 unfold recordRetention at h
 split at h
 · cases h
   exact .refl _
 · simp only[retentionDays,List.foldlM_cons,List.foldlM_nil] at h
   obtain ⟨first,hfirst,h⟩:=bind_ok.mp h
   obtain ⟨second,hsecond,h⟩:=bind_ok.mp h
   cases h
   exact (retain_records (List.mem_pair.mpr (.inl rfl)) hfirst).trans
    (retain_records (List.mem_pair.mpr (.inr rfl)) hsecond)

end

end Kivou.ConversionEvents
