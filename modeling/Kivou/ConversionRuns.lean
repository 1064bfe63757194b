import Kivou.ConversionRecords
import Kivou.Runs

set_option autoImplicit false

/-! Every sequence of clicks, signups, account and subscription states and milestone calls, with
whatever else is appended to the opportunities' streams. -/
namespace Kivou.ConversionEvents
open AcquisitionContracts BillingCatalogue BillingSubscription PythonValues

inductive Step where
 | click (verified:Verified)(now:ℕ)
 | signup (accountId:String)(verified:Option Verified)(now:ℕ)
 | activation (accountId:String)(observedAt:ℕ)(eventId:String)
 | billing (accountId:String)(subscription:StoredSubscription)(observedAt:ℕ) (eventId:String)
 | retention (accountId:String)(now:ℕ)(eventId:String)
 | account (accountId:String)(state:AccountState)
 | opportunity (opportunityId:String)(state:AcquisitionState)
 | target (memberRef targetId:String)

/-- Another writer leaves the opportunity in `state`. -/
def Db.moved (db:Db)(opportunityId:String)(state:AcquisitionState):Db:=
 match db.streams opportunityId with
 | some stream =>
  db.setStream opportunityId {stream with state,streamVersion:=stream.streamVersion+1}
 | none=>db.setStream opportunityId ⟨state,1,[]⟩

variable (digests:Digests)

def perform (db:Db):Step→Except Failure Db
 | .click verified now=>recordClick digests db verified now
 | .signup accountId verified now=>bindSignup digests db accountId verified now
 | .activation accountId observedAt eventId =>
  (observeActivation digests db accountId observedAt eventId).map Prod.fst
 | .billing accountId subscription observedAt eventId =>
  (observeBilling digests db accountId subscription observedAt eventId).map Prod.fst
 | .retention accountId now eventId =>
  (recordRetention digests db accountId now eventId).map Prod.fst
 | .account accountId state =>.ok {db with accounts:=Function.update db.accounts accountId state}
 | .opportunity opportunityId state=>.ok (db.moved opportunityId state)
 | .target memberRef targetId =>
  .ok {db with targets:=Function.update db.targets memberRef (some targetId)}

def next (db:Db)(step:Step):Db:=
 match perform digests db step with
 | .ok db'=>db'
 | .error _=>db

def reached (steps:List Step):Db:=steps.foldl (next digests) Db.empty

def Succeeds (db:Db):Step→Prop
 | .activation accountId observedAt eventId =>
  (observeActivation digests db accountId observedAt eventId).isOk=true
 | .billing accountId subscription observedAt eventId =>
  (observeBilling digests db accountId subscription observedAt eventId).isOk=true
 | .retention accountId now eventId =>(recordRetention digests db accountId now eventId).isOk=true
 | _=>True

instance decidableSucceeds (db:Db):∀step,Decidable (Succeeds digests db step)
 | .activation ..=>inferInstanceAs (Decidable (_=true))
 | .billing ..=>inferInstanceAs (Decidable (_=true))
 | .retention ..=>inferInstanceAs (Decidable (_=true))
 | .click ..=>.isTrue trivial
 | .signup ..=>.isTrue trivial
 | .account ..=>.isTrue trivial
 | .opportunity ..=>.isTrue trivial
 | .target ..=>.isTrue trivial

def billingRecordable (db:Db)(journey:Journey)(s:StoredSubscription)(observedAt:ℕ) :
 Bool:=
 match billingBranch s (db.hasMilestone journey.journeyRef .paid) with
 | .paying _=>recordable digests db journey
   (payment journey (digests.subscription s.stripeSubscriptionId) observedAt)
 | .canceled _=>recordable digests db journey
   (churn journey (digests.subscription s.stripeSubscriptionId) observedAt s.canceledAt)
 | .unknown | .none=>true

/-- Every milestone with an acquisition outcome that the call has to record is
there already, or its journey points at an opportunity whose state an outcome
can follow and, for a churn, the cancellation is not dated after the observation. -/
def Attributable (db:Db):Step→Prop
 | .activation accountId observedAt _ =>
  ∀journey status,db.journey accountId=some journey →(db.accounts accountId).ready=some status →
    recordable digests db journey
     (activation digests accountId status (db.accounts accountId) journey observedAt)=true
 | .billing accountId s observedAt _ =>
  ∀journey,db.journey accountId=some journey →billingRecordable digests db journey s observedAt=true
 | .retention accountId now _ =>
  ∀journey paid,retentionDue db accountId=some (journey,paid) →
   paid.occurredAt+30*day≤now→db.hasMilestone journey.journeyRef .retainedM1=false →
    recordable digests db journey (retention journey paid 30 .retainedM1 now)=true
 | _=>True

def onceOnly:List Milestone:=[.activated,.paid,.churned,.retainedM1,.retainedM2]

def Once (db:Db):Prop:=∀journeyRef,∀m∈onceOnly,(db.ofMilestone journeyRef m).length≤1

def PaidFirst (db:Db):Prop:=∀ (n:ℕ)(e:ConversionEvent),db.events[n]?=some e→e.milestone=.churned →
  ∃ (k:ℕ)(paid:ConversionEvent),k<n ∧ db.events[k]?=some paid ∧
   paid.milestone=.paid ∧ paid.journeyRef=e.journeyRef

def Named (db:Db):Prop:=∀e∈db.events,∀journeyRef,e.journeyRef=some journeyRef →
  e.milestone∈[Milestone.activated,.paid,.churned] →
   e.conversionEventRef=digests.event e.milestone (.journey journeyRef)

structure Consistent (db:Db):Prop where
 keyed:Keyed db
 named:Named digests db
 once:Once db
 paidFirst:PaidFirst db

lemma consistent_empty:Consistent digests Db.empty where
 keyed _ _ h:=nomatch h
 named _ h:=nomatch h
 once _ _ _:=Nat.zero_le 1
 paidFirst _ _ h:=by cases h

section
variable {digests}{db db':Db}{row:ConversionEvent}

lemma map_ok {α β:Type}{x:Except Failure α}{f:α→β}{b:β} : x.map f=.ok b ↔ ∃a,x=.ok a ∧ f a=b:=by
 cases x <;> simp[Except.map]

lemma ofMilestone_append (events:db'.events=db.events++[row])(journeyRef:Ref)
 (m:Milestone):db'.ofMilestone journeyRef m =
  db.ofMilestone journeyRef m ++
   if row.journeyRef=some journeyRef ∧ row.milestone=m then [row] else []:=by
 simp only[Db.ofMilestone,events,List.filter_append,List.filter_cons,List.filter_nil,
  Bool.and_eq_true,beq_iff_eq]

lemma event_append (events:db'.events=db.events++[row])(ref:Ref) :
 db'.event ref=(db.event ref).or (if row.conversionEventRef=ref then some row else none):=by
 simp only[Db.event,events,List.find?_append,List.find?_cons,List.find?_nil]
 by_cases same:row.conversionEventRef=ref
 · simp[same]
 · simp[same,beq_eq_false_iff_ne.mpr same]

lemma Consistent.append (consistent:Consistent digests db) (events:db'.events=db.events++[row])
 (streams:∀id s',db'.streams id=some s'→∃s,db.streams id=some s ∧
  ∀k∈s'.outcomes,k∈s.outcomes ∨ k.conversionEventRef=row.conversionEventRef)
 (named:∀journeyRef,row.journeyRef=some journeyRef →
  row.milestone∈[Milestone.activated,.paid,.churned] →
   row.conversionEventRef=digests.event row.milestone (.journey journeyRef))
 (fresh:∀journeyRef,row.journeyRef=some journeyRef → row.milestone∈onceOnly →
  db.ofMilestone journeyRef row.milestone=[])
 (paid:row.milestone=.churned→∃journeyRef,row.journeyRef=some journeyRef ∧
  db.hasMilestone journeyRef .paid=true) :
 Consistent digests db' where
 keyed:=by
  intro id s' hs' k mem
  obtain ⟨s,hs,outcomes⟩:=streams id s' hs'
  rw[event_append events]
  rcases outcomes k mem with old|new
  · exact Option.isSome_or.trans (by rw[consistent.keyed id s hs k old];rfl)
  · rw[if_pos new.symm,Option.isSome_or]
    simp
 named:=by
  intro e mem journeyRef hj hm
  rw[events,List.mem_append,List.mem_singleton] at mem
  rcases mem with old|rfl
  · exact consistent.named e old journeyRef hj hm
  · exact named journeyRef hj hm
 once:=by
  intro journeyRef m once
  rw[ofMilestone_append events]
  split
  · rename_i same
    obtain ⟨hj,rfl⟩:=same
    rw[fresh journeyRef hj once]
    exact le_rfl
  · rw[List.append_nil]
    exact consistent.once journeyRef m once
 paidFirst:=by
  intro n e hn churned
  rw[events] at hn ⊢
  by_cases old:n<db.events.length
  · rw[List.getElem?_append_left old] at hn
    obtain ⟨k,p,less,hk,rest⟩:=consistent.paidFirst n e hn churned
    exact ⟨k,p,less,by rw[List.getElem?_append_left (less.trans old),hk],rest⟩
  · have last:e=row:=by
     rw[List.getElem?_append_right (Nat.le_of_not_lt old),List.getElem?_singleton] at hn
     split at hn
     · exact (Option.some.inj hn).symm
     · cases hn
    subst last
    obtain ⟨journeyRef,hj,hpaid⟩:=paid churned
    obtain ⟨p,mem⟩:=List.exists_mem_of_ne_nil (db.ofMilestone journeyRef .paid)
     (by simpa[Db.hasMilestone] using hpaid)
    obtain ⟨inside,kind⟩:=List.mem_filter.mp mem
    rw[Bool.and_eq_true,beq_iff_eq,beq_iff_eq] at kind
    obtain ⟨k,less,hk⟩:=List.mem_iff_getElem.mp inside
    refine ⟨k,p,less.trans_le (Nat.le_of_not_lt old),?_,kind.2,kind.1.trans hj.symm⟩
    rw[List.getElem?_append_left less,List.getElem?_eq_getElem less,hk]

lemma Consistent.same (consistent:Consistent digests db)(events:db'.events=db.events)
 (streams:∀id s',db'.streams id=some s'→s'.outcomes=[] ∨
  ∃s,db.streams id=some s ∧ s'.outcomes=s.outcomes) :
 Consistent digests db' where
 keyed:=by
  intro id s' hs' k mem
  rcases streams id s' hs' with none|⟨s,hs,same⟩
  · rw[none] at mem
    cases mem
  · rw[Db.event,events]
    exact consistent.keyed id s hs k (same ▸ mem)
 named:=by
  unfold Named
  rw[events]
  exact consistent.named
 once:=by
  unfold Once Db.ofMilestone
  rw[events]
  exact consistent.once
 paidFirst:=by
  unfold PaidFirst
  rw[events]
  exact consistent.paidFirst

variable {journey:Journey}{o:Observation}{now:ℕ}

lemma Consistent.fresh (consistent:Consistent digests db)
 (unknown:db.event (o.reference digests)=none)
 (single:o.milestone∈[Milestone.activated,.paid,.churned])
 (identity:o.identity=.journey journey.journeyRef) :
 db.ofMilestone journey.journeyRef o.milestone=[]:=by
 refine List.filter_eq_nil_iff.mpr fun e mem kind=>?_
 rw[Bool.and_eq_true,beq_iff_eq,beq_iff_eq] at kind
 refine event_eq_none.mp unknown e mem ?_
 rw[consistent.named e mem journey.journeyRef kind.1 (kind.2 ▸ single),kind.2,
  Observation.reference,identity]

lemma Proper.single (proper:Proper db journey o)
 (single:o.milestone∈[Milestone.activated,.paid,.churned]) :
 o.identity=.journey journey.journeyRef:=by
 unfold Proper at proper
 simp only[List.mem_cons,List.not_mem_nil,or_false] at single
 rcases single with h|h|h <;> rw[h] at proper
 · exact proper
 · exact proper
 · exact proper.1

lemma Consistent.unrecorded (consistent:Consistent digests db)
 (unknown:db.event (o.reference digests)=none)
 (proper:Proper db journey o)(once:o.milestone∈onceOnly) :
 db.ofMilestone journey.journeyRef o.milestone=[]:=by
 by_cases single:o.milestone∈[Milestone.activated,.paid,.churned]
 · exact consistent.fresh unknown single (proper.single single)
 · have absent:db.hasMilestone journey.journeyRef o.milestone=false:=by
    unfold Proper at proper
    simp only[onceOnly,List.mem_cons,List.not_mem_nil,or_false] at once single
    rcases once with h|h|h|h|h
    · exact absurd (.inl h) single
    · exact absurd (.inr (.inl h)) single
    · exact absurd (.inr (.inr h)) single
    · rw[h] at proper ⊢
      exact proper
    · rw[h] at proper ⊢
      exact proper
   simpa[Db.hasMilestone] using absent

lemma Consistent.recorded (consistent:Consistent digests db)
 (recorded:Recorded digests db journey o db')(proper:Proper db journey o) :
 Consistent digests db':=by
 obtain ⟨outcomeEventRef,-,events⟩:=recorded.events
 refine consistent.append events recorded.streams ?_ ?_ ?_
 · rintro journeyRef ⟨⟩ single
   exact congrArg (digests.event o.milestone) (proper.single single)
 · rintro journeyRef ⟨⟩ once
   exact consistent.unrecorded recorded.fresh proper once
 · intro churned
   have churned:o.milestone=.churned:=churned
   unfold Proper at proper
   rw[churned] at proper
   exact ⟨journey.journeyRef,rfl,proper.2⟩

lemma Consistent.records (consistent:Consistent digests db)(records:Records digests db db') :
 Consistent digests db':=by
 induction records with
 | refl=>exact consistent
 | record recorded proper _ ih=>exact ih (consistent.recorded recorded proper)

lemma recordClick_consistent (consistent:Consistent digests db){verified:Verified}
 (h:recordClick digests db verified now=.ok db'):Consistent digests db':=by
 unfold recordClick at h
 dsimp only at h
 split at h
 · cases h
   exact consistent
 · obtain ⟨-,-,rfl⟩:=insertEvent_ok.mp h
   exact consistent.append rfl (fun id s' hs'=>⟨s',hs',fun k mem=>.inl mem⟩) nofun nofun nofun

lemma insertJourney_ok (h:db.insertJourney journey=.ok db') :
 journey.checks=true ∧ db'={db with journeys:=db.journeys++[journey]}:=by
 unfold Db.insertJourney at h
 extract_lets unique referenced at h
 split at h
 · rename_i admitted
   cases h
   rw[Bool.and_eq_true,Bool.and_eq_true] at admitted
   exact ⟨admitted.1.1,rfl⟩
 · cases h

lemma bindSignup_consistent (consistent:Consistent digests db){accountId:String}
 {verified:Option Verified}
 (h:bindSignup digests db accountId verified now=.ok db'):Consistent digests db':=by
 unfold bindSignup at h
 split at h
 · cases h
   exact consistent
 · cases h
   exact consistent
 · split at h
   · cases h
     exact consistent
   · dsimp only at h
     split at h
     · cases h
       exact consistent
     · obtain ⟨bound,hbound,h⟩:=bind_ok.mp h
       obtain ⟨-,rfl⟩:=insertJourney_ok hbound
       obtain ⟨-,-,rfl⟩:=insertEvent_ok.mp h
       refine consistent.append rfl (fun id s' hs'=>⟨s',hs',fun k mem=>.inl mem⟩) ?_ ?_ nofun
       · intro journeyRef _ single
         simp[signupEvent] at single
       · intro journeyRef _ once
         simp[signupEvent,onceOnly] at once

lemma moved_streams {opportunityId id:String}{state:AcquisitionState}{s':Stream}
 (h:(db.moved opportunityId state).streams id=some s') :
 s'.outcomes=[] ∨ ∃s,db.streams id=some s ∧ s'.outcomes=s.outcomes:=by
 unfold Db.moved at h
 split at h
 · rename_i stream hstream
   rw[setStream_streams] at h
   split at h
   · rename_i same
     cases h
     exact .inr ⟨stream,same ▸ hstream,rfl⟩
   · exact .inr ⟨s',h,rfl⟩
 · rw[setStream_streams] at h
   split at h
   · cases h
     exact .inl rfl
   · exact .inr ⟨s',h,rfl⟩

lemma moved_events (opportunityId:String)(state:AcquisitionState) :
 (db.moved opportunityId state).events=db.events:=by
 unfold Db.moved
 split <;> rfl

lemma next_consistent (db:Db)(step:Step)(consistent:Consistent digests db) :
 Consistent digests (next digests db step):=by
 unfold next
 split
 · rename_i db' h
   cases step with
   | click verified now=>exact recordClick_consistent consistent h
   | signup accountId verified now=>exact bindSignup_consistent consistent h
   | activation accountId observedAt eventId =>
    obtain ⟨⟨db',result⟩,made,rfl⟩:=map_ok.mp h
    exact consistent.records (observeActivation_records made)
   | billing accountId subscription observedAt eventId =>
    obtain ⟨⟨db',results⟩,made,rfl⟩:=map_ok.mp h
    exact consistent.records (observeBilling_records made)
   | retention accountId now eventId =>
    obtain ⟨⟨db',results⟩,made,rfl⟩:=map_ok.mp h
    exact consistent.records (recordRetention_records made)
   | account | target =>
    cases h
    exact consistent.same rfl fun id s' hs'=>.inr ⟨s',hs',rfl⟩
   | opportunity opportunityId state =>
    cases h
    exact consistent.same (moved_events ..) fun id s' hs'=>moved_streams hs'
 · exact consistent

lemma reached_consistent (steps:List Step):Consistent digests (reached digests steps):=
 Runs.invariant (Consistent digests) next_consistent steps (consistent_empty digests)

lemma isOk_bind {α β:Type}{x:Except Failure α}{f:α→Except Failure β}
 (total:∀a,x=.ok a→(f a).isOk=true):(x >>= f).isOk=x.isOk:=by
 cases x with
 | error e=>rfl
 | ok a=>exact total a rfl

lemma ensureMrrEvent_isOk (keyed:Keyed db){subscriptionRef:Ref}
 {observedAt:ℕ}{value:Mrr}(valid:value.Valid) :
 (ensureMrrEvent digests db journey subscriptionRef observedAt value).isOk=true:=by
 unfold ensureMrrEvent
 dsimp only
 split
 · rfl
 · rw[ensureEvent_isOk keyed (mrrChange_sound valid _)]
   simp[recordable,mrrChange,Observation.happenedAt]

lemma observeActivation_isOk (keyed:Keyed db)(accountId:String)(observedAt:ℕ)
 (eventId:String):(observeActivation digests db accountId observedAt eventId).isOk=true ↔
  Attributable digests db (.activation accountId observedAt eventId):=by
 unfold observeActivation Attributable
 split
 · rename_i journey status hjourney hstatus
   rw[isOk_bind fun _ _=>rfl,ensureEvent_isOk keyed (activation_sound ..)]
   constructor
   · intro h journey' status' hjourney' hstatus'
     rw[hjourney] at hjourney'
     rw[hstatus] at hstatus'
     cases hjourney'
     cases hstatus'
     exact h
   · exact fun h=>h journey status hjourney hstatus
 · rename_i other
   exact ⟨fun _ journey status hjourney hstatus=>(other journey status hjourney hstatus).elim,
    fun _=>rfl⟩

lemma observeBilling_isOk (consistent:Consistent digests db)(accountId:String)
 (s:StoredSubscription)(observedAt:ℕ)(eventId:String) :
 (observeBilling digests db accountId s observedAt eventId).isOk=true ↔
  Attributable digests db (.billing accountId s observedAt eventId):=by
 simp only[observeBilling,Attributable]
 cases db.journey accountId with
 | none=>simp[Except.isOk,Except.toBool]
 | some journey =>
  simp only[Option.some.injEq,forall_eq',billingRecordable]
  have valid:=@value_valid s (db.hasMilestone journey.journeyRef .paid)
  generalize hbranch:billingBranch s (db.hasMilestone journey.journeyRef .paid)=branch at valid
  cases branch with
  | paying value =>
   rw[isOk_bind,ensureEvent_isOk consistent.keyed payment_sound]
   rintro ⟨paidDb,paid⟩ hpaid
   have kept:=consistent.records (ensureEvent_records hpaid rfl)
   rw[isOk_bind fun _ _=>rfl]
   exact ensureMrrEvent_isOk kept.keyed (valid rfl)
  | unknown =>
   refine iff_of_true ?_ rfl
   rw[isOk_bind fun _ _=>rfl]
   exact ensureMrrEvent_isOk consistent.keyed unknownPlan_valid
  | canceled value =>
   rw[isOk_bind,ensureEvent_isOk consistent.keyed (churn_sound _)]
   rintro ⟨churnedDb,churned⟩ hchurn
   have kept:=consistent.records (ensureEvent_records hchurn ⟨rfl,billingBranch_canceled hbranch⟩)
   cases value with
   | none=>rfl
   | some value =>
    rw[isOk_bind fun _ _=>rfl]
    exact ensureMrrEvent_isOk kept.keyed (valid rfl)
  | none=>exact iff_of_true rfl rfl

lemma retain_isOk (keyed:Keyed db){paid:ConversionEvent}
 {eventId:String}{turn:ℕ × Milestone}(due:turn∈retentionDays)
 (results:List MilestoneResult) :
 (retain digests journey paid now eventId turn (db,results)).isOk=true ↔
  (paid.occurredAt+turn.1*day≤now→db.hasMilestone journey.journeyRef turn.2=false →
   recordable digests db journey (retention journey paid turn.1 turn.2 now)=true):=by
 unfold retain
 split
 · rename_i passed
   refine iff_of_true rfl fun late absent=>?_
   rcases passed with early|recorded
   · exact absurd late (Nat.not_le_of_lt early)
   · rw[absent] at recorded
     cases recorded
 · rename_i open'
   rw[not_or,Nat.not_lt,Bool.not_eq_true] at open'
   rw[isOk_bind fun _ _=>rfl,ensureEvent_isOk keyed (retention_sound due)]
   exact ⟨fun h _ _=>h,fun h=>h open'.1 open'.2⟩

lemma recordRetention_isOk (consistent:Consistent digests db)(accountId:String)(now:ℕ)
 (eventId:String):(recordRetention digests db accountId now eventId).isOk=true ↔
  Attributable digests db (.retention accountId now eventId):=by
 simp only[recordRetention,Attributable]
 cases retentionDue db accountId with
 | none=>simp[Except.isOk,Except.toBool]
 | some due =>
  obtain ⟨journey,paid⟩:=due
  simp only[Option.some.injEq,Prod.mk.injEq,and_imp,retentionDays,List.foldlM_cons,List.foldlM_nil]
  have first:(30,Milestone.retainedM1)∈retentionDays:=List.mem_pair.mpr (.inl rfl)
  have second:(60,Milestone.retainedM2)∈retentionDays:=List.mem_pair.mpr (.inr rfl)
  rw[isOk_bind,retain_isOk consistent.keyed first]
  · constructor
    · rintro h _ _ rfl rfl
      exact h
    · exact fun h=>h journey paid rfl rfl
  · rintro ⟨retainedDb,results⟩ hretain
    have kept:=consistent.records (retain_records first hretain)
    rw[isOk_bind fun _ _=>rfl,retain_isOk kept.keyed second]
    intro _ _
    simp[recordable,retention,Observation.happenedAt]

lemma succeeds_iff (db:Db)(step:Step)(consistent:Consistent digests db) :
 Succeeds digests db step ↔ Attributable digests db step:=by
 cases step with
 | activation accountId observedAt eventId =>
  exact observeActivation_isOk consistent.keyed accountId observedAt eventId
 | billing accountId s observedAt eventId =>
  exact observeBilling_isOk consistent accountId s observedAt eventId
 | retention accountId now eventId=>exact recordRetention_isOk consistent accountId now eventId
 | _=>exact Iff.rfl

end

/-- Over every run from the empty tables: no observer raises, each milestone is
recorded at most once a journey, and no churn is recorded before a payment, if
and only if every observer's call is attributable where it is made. -/
theorem attribution_never_aborts_iff (steps:List Step) :
 (Runs.Along (next digests) (Succeeds digests) Db.empty steps ∧
  ∀done,done <+: steps→Once (reached digests done) ∧ PaidFirst (reached digests done)) ↔
  Runs.Along (next digests) (Attributable digests) Db.empty steps:=by
 have same:=Runs.along_congr next_consistent succeeds_iff (consistent_empty digests) steps
 constructor
 · rintro ⟨succeeds,-⟩
   exact same.mp succeeds
 · intro attributable
   refine ⟨same.mpr attributable,fun done _=>?_⟩
   have kept:Consistent digests (reached digests done):=reached_consistent done
   exact ⟨kept.once,kept.paidFirst⟩

def sampleToken:Ref:=0x3c469e9d6c5875d37a43f353d4f88e61fcf812c66eee3457465a40b0da4153e0
def sampleClick:Ref:=0xef2bf70a341cae5518c36859745350549b4d45fe79a5357f22d1274c9bc7a69a
def sampleJourney:Ref:=0x9cd1b0e6c9eb47a6fe3ee326e278aa605635c52e72f7af0e845fa7f6d615ff45
def sampleSubscription:Ref:=0xbefb4f9bc8fa5b5a55b3c31fde2f7789e9441a7911aad1fa5a3808829818af7f
def sampleEssential:Ref:=0x86dd5a62f35310dfe51876a2d6e71e29f6c248f86828994f3cdd9d231e44fbe1

def euros (amount:ℕ):Mrr:=⟨true,some amount,some "eur",none⟩

def sampleDigests:Digests where
 event milestone identity:=
  let known:List ((Milestone × Identity) × Ref):=[((.click,.token sampleToken),sampleClick),
    ((.signup,.journey sampleJourney),
     0xbf715cd745b20c374c377b2acdae396098628a635b7365831bb00be01ac53c40),
    ((.paid,.journey sampleJourney),
     0xa2a6f2b9d3cf231dec4e9972fabad8d5a17bdc663bb4b4e32c6a1e50b954a0ad),
    ((.mrrChanged,.mrr sampleJourney sampleSubscription "kivou-plans-v0.1" (euros 4900) none),
     sampleEssential),
    ((.mrrChanged,.mrr sampleJourney sampleSubscription "kivou-plans-v0.1" (euros 9900)
     (some sampleEssential)),
     0x5ffe05d2a575bb616b31c761c71ebaed1bbb80d5fc64739dbf268d3084551d3c)]
  ((known.find? (·.1==(milestone,identity))).map Prod.snd).getD 0
 journey _ _:=sampleJourney
 subscription _:=sampleSubscription
 activation _ _ _:=0

def sampleVerified:Verified:=
 { tokenFingerprint:=sampleToken
   campaignRef:="campaign"
   memberRef:="member"
   acquisitionOpportunityId:="opportunity"
   expiresAt:=100}

def samplePlan (plan:PlanCode):StoredSubscription:=
 { stripeSubscriptionId:="sub_2"
   stripeCustomerId:="cus"
   stripePriceId:=none
   stripeProductId:=none
   planCode:=some plan
   foundingOffer:=false
   currency:=some "eur"
   status:=.active
   currentPeriodStart:=none
   currentPeriodEnd:=none
   cancelAtPeriodEnd:=false
   canceledAt:=none
   scheduledCancellationAt:=none
   livemode:=true
   lastStripeEventCreatedAt:=none
   scheduledPlanCode:=none
   scheduledPlanChangeAt:=none
   stripeScheduleId:=none
   planChangeSequence:=0
   updatedAt:=0}

def targetRun:List Step:=
 [.target "member" "target",.click sampleVerified 1,.signup "account" (some sampleVerified) 2,
  .billing "account" (samplePlan .essential) 3 "event"]

/-- The payment of a prospect target's journey raises, whatever its state. -/
theorem target_payment_raises:¬∀ (digests:Digests)(steps:List Step),
 Runs.Along (next digests) (Succeeds digests) Db.empty steps:=by
 intro claim
 have raises:¬Runs.Along (next sampleDigests) (Succeeds sampleDigests) Db.empty targetRun:=by
  decide +kernel
 exact raises (claim sampleDigests targetRun)

end Kivou.ConversionEvents
