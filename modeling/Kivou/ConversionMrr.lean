import Kivou.ConversionRuns

set_option autoImplicit false

/-! A journey's MRR event in force is the newest by instant and then by reference. -/
namespace Kivou.ConversionEvents
open BillingCatalogue BillingSubscription PythonValues

section
variable {digests:Digests}{db db':Db}{journey:Journey}{eventId:String}{o:Observation}
 {r:MilestoneResult}{row:ConversionEvent}{journeyRef subscriptionRef:Ref}{observedAt:ℕ}
 {value:Mrr}

lemma newer_assoc (a b c:ConversionEvent):newer a (newer b c)=newer (newer a b) c:=by
 unfold newer
 by_cases hbc:c.key≤b.key
 · by_cases hab:b.key≤a.key
   · simp only[hbc,hab,if_true,hbc.trans hab]
   · simp only[hbc,hab,if_true,if_false]
 · by_cases hab:b.key≤a.key
   · simp only[hbc,hab,if_true,if_false]
   · have hac:¬c.key≤a.key:=fun h=>hbc (h.trans (le_of_lt (lt_of_not_ge hab)))
     simp only[hbc,hab,hac,if_false]

lemma newest_append (events:List ConversionEvent)(row:ConversionEvent) :
 newest (events++[row])=some ((newest events).elim row fun latest=>newer latest row):=by
 induction events with
 | nil=>rfl
 | cons e events ih =>
  simp only[List.cons_append,newest,ih,Option.elim_some]
  cases newest events with
  | none=>rfl
  | some latest=>exact congrArg some (newer_assoc e latest row)

lemma latestMrr_append (events:db'.events=db.events++[row])
 (other:row.milestone=.mrrChanged → row.journeyRef≠some journeyRef) :
 db'.latestMrr journeyRef=db.latestMrr journeyRef:=by
 have apart:¬(row.journeyRef=some journeyRef ∧ row.milestone=.mrrChanged):=
  fun same=>other same.2 same.1
 rw[Db.latestMrr,ofMilestone_append events,if_neg apart,List.append_nil]
 rfl

lemma latestMrr_recorded (recorded:Recorded digests db journey o db')
 (other:o.milestone=.mrrChanged→journey.journeyRef≠journeyRef) :
 db'.latestMrr journeyRef=db.latestMrr journeyRef:=by
 obtain ⟨outcomeEventRef,-,events⟩:=recorded.events
 exact latestMrr_append events fun same equal=>other same (Option.some.inj equal)

lemma ensureEvent_latestMrr (h:ensureEvent digests db journey eventId o=.ok (db',r))
 (other:o.milestone=.mrrChanged→journey.journeyRef≠journeyRef) :
 db'.latestMrr journeyRef=db.latestMrr journeyRef:=by
 rcases ensureEvent_ok h with ⟨rfl,-⟩|recorded
 · rfl
 · exact latestMrr_recorded recorded other

lemma ensureMrrEvent_other
 (h:ensureMrrEvent digests db journey subscriptionRef observedAt value=.ok (db',r))
 (other:journey.journeyRef≠journeyRef) :
 db'.latestMrr journeyRef=db.latestMrr journeyRef:=by
 unfold ensureMrrEvent at h
 dsimp only at h
 split at h
 · cases h
   rfl
 · exact ensureEvent_latestMrr h fun _=>other

lemma ensureEvent_event (h:ensureEvent digests db journey eventId o=.ok (db',r))(ref:Ref) :
 db'.event ref=none ↔ db.event ref=none ∧ ref≠o.reference digests:=by
 rcases ensureEvent_ok h with ⟨rfl,known⟩|recorded
 · constructor
   · intro fresh
     refine ⟨fresh,?_⟩
     rintro rfl
     rw[fresh] at known
     cases known
   · exact fun h=>h.1
 · obtain ⟨outcomeEventRef,-,events⟩:=recorded.events
   rw[event_append events,Option.or_eq_none_iff]
   refine and_congr_right fun _=>?_
   change (if o.reference digests=ref then _ else none)=none ↔ _
   split
   · rename_i same
     simp[same]
   · rename_i apart
     simp[Ne.symm apart]

def mrrReference (digests:Digests)(db:Db)(journeyRef subscriptionRef:Ref)(value:Mrr):Ref:=
 digests.event .mrrChanged (.mrr journeyRef subscriptionRef catalogueVersion value
  ((db.latestMrr journeyRef).map (·.conversionEventRef)))

lemma mrrChange_carries (latest:Option ConversionEvent)(outcomeEventRef:Option String) :
 ((mrrChange journey subscriptionRef observedAt value latest).row digests journey
  outcomeEventRef).carries value=true:=by
 simp[mrrChange,Observation.row,ConversionEvent.carries]

def InForce (db:Db)(journeyRef:Ref)(value:Mrr):Prop:=
 ∃latest,db.latestMrr journeyRef=some latest ∧ latest.carries value=true

def Above (db:Db)(journeyRef ref:Ref)(observedAt:ℕ):Prop:=
 ∀latest,db.latestMrr journeyRef=some latest→latest.key<toLex (observedAt,ref)

lemma ensureMrrEvent_inForce
 (h:ensureMrrEvent digests db journey subscriptionRef observedAt value=.ok (db',r)) :
 InForce db' journey.journeyRef value ↔ InForce db journey.journeyRef value ∨
  (db.event (mrrReference digests db journey.journeyRef subscriptionRef value)=none ∧
   Above db journey.journeyRef
    (mrrReference digests db journey.journeyRef subscriptionRef value) observedAt):=by
 unfold ensureMrrEvent at h
 dsimp only at h
 split at h
 · rename_i latest hlatest
   cases h
   obtain ⟨found,carried⟩:=Option.filter_eq_some_iff.mp hlatest
   exact iff_of_true ⟨latest,found,carried⟩ (.inl ⟨latest,found,carried⟩)
 · rename_i absent
   have before:¬InForce db journey.journeyRef value:=by
    rintro ⟨latest,found,carried⟩
    rw[Option.filter_eq_none_iff] at absent
    exact absent latest found carried
   rcases ensureEvent_ok h with ⟨rfl,known⟩|recorded
   · have stale:db'.event (mrrReference digests db' journey.journeyRef subscriptionRef value)≠none:=
      Option.isSome_iff_ne_none.mp known
     exact iff_of_false before fun after=>after.elim before fun fresh=>stale fresh.1
   · obtain ⟨outcomeEventRef,-,events⟩:=recorded.events
     have fresh:db.event (mrrReference digests db journey.journeyRef subscriptionRef value)=none:=
      recorded.fresh
     have carried:((mrrChange journey subscriptionRef observedAt value
       (db.latestMrr journey.journeyRef)).row digests journey outcomeEventRef).carries value=true:=
      mrrChange_carries _ outcomeEventRef
     generalize hrow:(mrrChange journey subscriptionRef observedAt value
      (db.latestMrr journey.journeyRef)).row digests journey outcomeEventRef=row at events carried
     have key:row.key=toLex (observedAt,
       mrrReference digests db journey.journeyRef subscriptionRef value):=by rw[←hrow];rfl
     have mine:row.journeyRef=some journey.journeyRef ∧ row.milestone=.mrrChanged:=by
      rw[←hrow]
      exact ⟨rfl,rfl⟩
     have after:db'.latestMrr journey.journeyRef =
       some ((db.latestMrr journey.journeyRef).elim row fun latest=>newer latest row):=by
      rw[Db.latestMrr,ofMilestone_append events,if_pos mine,newest_append]
      rfl
     rw[or_iff_right before,InForce,after,Above,←key]
     simp only[fresh,true_and,Option.some.injEq,exists_eq_left']
     cases hlatest:db.latestMrr journey.journeyRef with
     | none=>simpa using carried
     | some latest =>
      have other:latest.carries value=false:=by
       simpa using fun h=>before ⟨latest,hlatest,h⟩
      simp only[Option.elim_some,newer,Option.some.injEq,forall_eq']
      split
      · rename_i below
        simp[other,below.not_gt]
      · rename_i above
        simp[carried,lt_of_not_ge above]

def BillingBranch.milestone:BillingBranch→Option Milestone
 | .paying _=>some .paid
 | .canceled _=>some .churned
 | .unknown | .none=>Option.none

variable {accountId:String}{s:StoredSubscription}{results:List MilestoneResult}

lemma observeBilling_cases (hjourney:db.journey accountId=some journey)
  (h:observeBilling digests db accountId s observedAt eventId=.ok (db',results)) :
  ∃before,(∀journeyRef,before.latestMrr journeyRef=db.latestMrr journeyRef) ∧
   (∀ref,before.event ref=none ↔ db.event ref=none ∧
    ∀m,(billingBranch s (db.hasMilestone journey.journeyRef .paid)).milestone=some m →
     ref≠digests.event m (.journey journey.journeyRef)) ∧
   match (billingBranch s (db.hasMilestone journey.journeyRef .paid)).value with
   | some value=>∃r,ensureMrrEvent digests before journey
     (digests.subscription s.stripeSubscriptionId) observedAt value=.ok (db',r)
   | none=>db'=before:=by
 unfold observeBilling at h
 rw[hjourney] at h
 dsimp only at h
 generalize billingBranch s (db.hasMilestone journey.journeyRef .paid)=branch at h ⊢
 cases branch with
 | paying value =>
  obtain ⟨⟨paidDb,paid⟩,hpaid,h⟩:=bind_ok.mp h
  obtain ⟨⟨db',money⟩,hmoney,h⟩:=bind_ok.mp h
  cases h
  refine ⟨paidDb,fun _=>ensureEvent_latestMrr hpaid (by rintro ⟨⟩),fun ref=>?_,money,hmoney⟩
  rw[ensureEvent_event hpaid]
  simp[BillingBranch.milestone,payment,Observation.reference]
 | unknown =>
  obtain ⟨⟨db',money⟩,hmoney,h⟩:=bind_ok.mp h
  cases h
  exact ⟨db,fun _=>rfl,fun ref=>by simp[BillingBranch.milestone],money,hmoney⟩
 | canceled value =>
  obtain ⟨⟨churnedDb,churned⟩,hchurn,h⟩:=bind_ok.mp h
  refine ⟨churnedDb,fun _=>ensureEvent_latestMrr hchurn (by rintro ⟨⟩),fun ref=>?_,?_⟩
  · rw[ensureEvent_event hchurn]
    simp[BillingBranch.milestone,churn,Observation.reference]
  · cases value with
    | none =>
     cases h
     rfl
    | some value =>
     obtain ⟨⟨db',money⟩,hmoney,h⟩:=bind_ok.mp h
     cases h
     exact ⟨money,hmoney⟩
 | none =>
  cases h
  exact ⟨db,fun _=>rfl,fun ref=>by simp[BillingBranch.milestone],rfl⟩

end

variable (digests:Digests)

def observedMrr (db:Db):Step→Option (Ref × Mrr)
 | .billing accountId s observedAt eventId =>
  (db.journey accountId).bind fun journey=>
   if (observeBilling digests db accountId s observedAt eventId).isOk then
    ((billingBranch s (db.hasMilestone journey.journeyRef .paid)).value).map fun value=>
     (journey.journeyRef,value)
   else none
 | _=>none

structure Ledger where
 db:Db
 last:Ref→Option Mrr

def Ledger.empty:Ledger:=⟨Db.empty,fun _=>none⟩

def Ledger.next (w:Ledger)(step:Step):Ledger where
 db:=ConversionEvents.next digests w.db step
 last journeyRef:=
  match observedMrr digests w.db step with
  | some (observed,value)=>if observed=journeyRef then some value else w.last journeyRef
  | none=>w.last journeyRef

def ledger (steps:List Step):Ledger:=steps.foldl (Ledger.next digests) Ledger.empty

def Latest (w:Ledger):Prop:=
 ∀journeyRef value,w.last journeyRef=some value→InForce w.db journeyRef value

/-- An observation states what is in force already, or its event is new and
sorts above the one in force: by a later instant or, at the same, a greater
reference. -/
def TakesForce (w:Ledger):Step→Prop
 | .billing accountId s observedAt eventId =>
  ∀journey value,w.db.journey accountId=some journey →
   observedMrr digests w.db (.billing accountId s observedAt eventId) =
    some (journey.journeyRef,value) →
   InForce w.db journey.journeyRef value ∨
    let ref:=mrrReference digests w.db journey.journeyRef
     (digests.subscription s.stripeSubscriptionId) value
    (w.db.event ref=none ∧
     ∀m,(billingBranch s (w.db.hasMilestone journey.journeyRef .paid)).milestone=some m →
      ref≠digests.event m (.journey journey.journeyRef)) ∧
    Above w.db journey.journeyRef ref observedAt
 | _=>True

section
variable {digests}{db db':Db}{journeyRef:Ref}{value:Mrr}{step:Step}

lemma isOk_of_ok {α:Type}{x:Except Failure α}{a:α}(h:x=.ok a):x.isOk=true:=by
 rw[h]
 rfl

lemma ok_of_isOk {α:Type}{x:Except Failure α}(h:x.isOk=true):∃a,x=.ok a:=by
 cases x with
 | error e=>cases h
 | ok a=>exact ⟨a,rfl⟩

variable {accountId eventId:String}{s:StoredSubscription}{observedAt now:ℕ}{w:Ledger}

lemma observedMrr_billing :
 observedMrr digests db (.billing accountId s observedAt eventId)=some (journeyRef,value) ↔
  ∃journey results db',db.journey accountId=some journey ∧ journey.journeyRef=journeyRef ∧
   observeBilling digests db accountId s observedAt eventId=.ok (db',results) ∧
   (billingBranch s (db.hasMilestone journey.journeyRef .paid)).value=some value:=by
 simp only[observedMrr,Option.bind_eq_some_iff,Option.ite_none_right_eq_some,
  Option.map_eq_some_iff,Prod.mk.injEq]
 constructor
 · rintro ⟨journey,hjourney,hok,v,hvalue,hj,rfl⟩
   obtain ⟨⟨db',results⟩,h⟩:=ok_of_isOk hok
   exact ⟨journey,results,db',hjourney,hj,h,hvalue⟩
 · rintro ⟨journey,results,db',hjourney,hj,h,hvalue⟩
   exact ⟨journey,hjourney,isOk_of_ok h,value,hvalue,hj,rfl⟩

lemma recordClick_latestMrr {verified:Verified} (h:recordClick digests db verified now=.ok db') :
 db'.latestMrr journeyRef=db.latestMrr journeyRef:=by
 unfold recordClick at h
 dsimp only at h
 split at h
 · cases h
   rfl
 · obtain ⟨-,-,rfl⟩:=insertEvent_ok.mp h
   exact latestMrr_append rfl nofun

lemma bindSignup_latestMrr {verified:Option Verified}
 (h:bindSignup digests db accountId verified now=.ok db') :
 db'.latestMrr journeyRef=db.latestMrr journeyRef:=by
 unfold bindSignup at h
 split at h
 · cases h
   rfl
 · cases h
   rfl
 · split at h
   · cases h
     rfl
   · dsimp only at h
     split at h
     · cases h
       rfl
     · obtain ⟨bound,hbound,h⟩:=bind_ok.mp h
       obtain ⟨-,rfl⟩:=insertJourney_ok hbound
       obtain ⟨-,-,rfl⟩:=insertEvent_ok.mp h
       exact latestMrr_append rfl nofun

lemma retain_latestMrr {journey:Journey}{paid:ConversionEvent}
 {turn:ℕ × Milestone}(due:turn∈retentionDays){done done':Db × List MilestoneResult}
 (h:retain digests journey paid now eventId turn done=.ok done') :
 done'.1.latestMrr journeyRef=done.1.latestMrr journeyRef:=by
 unfold retain at h
 split at h
 · cases h
   rfl
 · obtain ⟨⟨db',result⟩,ensured,h⟩:=bind_ok.mp h
   cases h
   rcases List.mem_pair.mp due with rfl|rfl <;> exact ensureEvent_latestMrr ensured nofun

lemma recordRetention_latestMrr {results:List MilestoneResult}
 (h:recordRetention digests db accountId now eventId=.ok (db',results)) :
 db'.latestMrr journeyRef=db.latestMrr journeyRef:=by
 unfold recordRetention at h
 split at h
 · cases h
   rfl
 · simp only[retentionDays,List.foldlM_cons,List.foldlM_nil] at h
   obtain ⟨first,hfirst,h⟩:=bind_ok.mp h
   obtain ⟨second,hsecond,h⟩:=bind_ok.mp h
   cases h
   calc
    db'.latestMrr journeyRef=first.1.latestMrr journeyRef:=
     retain_latestMrr (List.mem_pair.mpr (.inr rfl)) hsecond
    _=db.latestMrr journeyRef:=retain_latestMrr (List.mem_pair.mpr (.inl rfl)) hfirst

lemma next_latestMrr (unobserved:∀value,observedMrr digests db step≠some (journeyRef,value)) :
 (next digests db step).latestMrr journeyRef=db.latestMrr journeyRef:=by
 unfold next
 split
 · rename_i db' h
   cases step with
   | click verified now=>exact recordClick_latestMrr h
   | signup accountId verified now=>exact bindSignup_latestMrr h
   | activation accountId observedAt eventId =>
    obtain ⟨⟨db',result⟩,made,rfl⟩:=map_ok.mp h
    unfold observeActivation at made
    split at made
    · obtain ⟨⟨db',result⟩,ensured,made⟩:=bind_ok.mp made
      cases made
      exact ensureEvent_latestMrr ensured nofun
    · cases made
      rfl
   | billing accountId s observedAt eventId =>
    obtain ⟨⟨db',results⟩,made,rfl⟩:=map_ok.mp h
    cases hjourney:db.journey accountId with
    | none =>
     rw[observeBilling,hjourney] at made
     cases made
     rfl
    | some journey =>
     obtain ⟨before,same,-,rest⟩:=observeBilling_cases hjourney made
     cases hvalue:(billingBranch s (db.hasMilestone journey.journeyRef .paid)).value with
     | none =>
      rw[hvalue] at rest
      exact (congrArg (·.latestMrr journeyRef) rest).trans (same journeyRef)
     | some value =>
      rw[hvalue] at rest
      obtain ⟨r,hmoney⟩:=rest
      have other:journey.journeyRef≠journeyRef:=fun mine=>unobserved value
       (observedMrr_billing.mpr ⟨journey,results,db',hjourney,mine,made,hvalue⟩)
      exact (ensureMrrEvent_other hmoney other).trans (same journeyRef)
   | retention accountId now eventId =>
    obtain ⟨⟨db',results⟩,made,rfl⟩:=map_ok.mp h
    exact recordRetention_latestMrr made
   | account | target =>
    cases h
    rfl
   | opportunity opportunityId state =>
    cases h
    rw[Db.latestMrr,Db.ofMilestone,moved_events]
    rfl
 · rfl

lemma next_inForce (observed:observedMrr digests w.db step=some (journeyRef,value)) :
 InForce (next digests w.db step) journeyRef value ↔ TakesForce digests w step:=by
 cases step with
 | billing accountId s observedAt eventId =>
  have same:=observed
  obtain ⟨journey,results,db',hjourney,rfl,made,hvalue⟩:=observedMrr_billing.mp observed
  have after:next digests w.db (.billing accountId s observedAt eventId)=db':=by
   simp[next,perform,made,Except.map]
  obtain ⟨before,chain,fresh,rest⟩:=observeBilling_cases hjourney made
  rw[hvalue] at rest
  obtain ⟨r,hmoney⟩:=rest
  have reference:mrrReference digests before journey.journeyRef
    (digests.subscription s.stripeSubscriptionId) value =
    mrrReference digests w.db journey.journeyRef (digests.subscription s.stripeSubscriptionId)
     value:=by
   rw[mrrReference,mrrReference,chain]
  rw[after,ensureMrrEvent_inForce hmoney,reference,fresh]
  simp only[InForce,Above,chain,TakesForce]
  constructor
  · intro h journey' value' hjourney' observed'
    rw[hjourney] at hjourney'
    cases hjourney'
    rw[same] at observed'
    cases observed'
    exact h
  · exact fun h=>h journey value hjourney same
 | _=>cases observed

lemma takesForce_of_unobserved (unobserved:observedMrr digests w.db step=none) :
 TakesForce digests w step:=by
 cases step with
 | billing accountId s observedAt eventId =>
  intro journey value _ observed
  rw[unobserved] at observed
  cases observed
 | _=>trivial

lemma latest_next (latest:Latest w) : Latest (w.next digests step) ↔ TakesForce digests w step:=by
 cases hobserved:observedMrr digests w.db step with
 | none =>
  refine iff_of_true ?_ (takesForce_of_unobserved hobserved)
  intro journeyRef value hlast
  simp only[Ledger.next,hobserved] at hlast
  have same:(next digests w.db step).latestMrr journeyRef=w.db.latestMrr journeyRef:=
   next_latestMrr (by simp[hobserved])
  rw[InForce,Ledger.next,same]
  exact latest journeyRef value hlast
 | some seen =>
  obtain ⟨observed,value⟩:=seen
  rw[←next_inForce hobserved]
  constructor
  · intro h
    refine h observed value ?_
    simp[Ledger.next,hobserved]
  · intro h journeyRef value' hlast
    simp only[Ledger.next,hobserved] at hlast
    split at hlast
    · rename_i same
      cases hlast
      subst same
      exact h
    · rename_i other
      have same:(next digests w.db step).latestMrr journeyRef=w.db.latestMrr journeyRef:=
       next_latestMrr (by simp[hobserved,other])
      rw[InForce,Ledger.next,same]
      exact latest journeyRef value' hlast

lemma records_journeys (records:Records digests db db'):db'.journeys=db.journeys:=by
 induction records with
 | refl=>rfl
 | record recorded _ _ ih=>exact ih.trans recorded.journeys

lemma records_event (records:Records digests db db'){ref:Ref}(known:db.event ref≠none) :
 db'.event ref≠none:=by
 induction records with
 | refl=>exact known
 | record recorded _ _ ih =>
  obtain ⟨outcomeEventRef,-,events⟩:=recorded.events
  refine ih ?_
  rw[event_append events,Ne,Option.or_eq_none_iff]
  exact fun h=>known h.1

lemma records_hasMilestone (records:Records digests db db'){m:Milestone}
 (recorded:db.hasMilestone journeyRef m=true):db'.hasMilestone journeyRef m=true:=by
 induction records with
 | refl=>exact recorded
 | record step _ _ ih =>
  obtain ⟨outcomeEventRef,-,events⟩:=step.events
  refine ih ?_
  rw[Db.hasMilestone,Bool.not_eq_true',List.isEmpty_eq_false_iff] at recorded ⊢
  rw[ofMilestone_append events]
  exact List.append_ne_nil_of_left_ne_nil recorded _

lemma ensureEvent_again (journey:Journey)(eventId:String)(o:Observation)
 (known:db.event (o.reference digests)≠none) :
 ∃r,ensureEvent digests db journey eventId o=.ok (db,r):=by
 obtain ⟨existing,found⟩:=Option.ne_none_iff_exists'.mp known
 exact ⟨_,by rw[ensureEvent,found]⟩

lemma ensureMrrEvent_again {journey:Journey}{subscriptionRef:Ref} {r:MilestoneResult}
 (h:ensureMrrEvent digests db journey subscriptionRef observedAt value=.ok (db',r))(later:ℕ) :
 ∃r',ensureMrrEvent digests db' journey subscriptionRef later value=.ok (db',r'):=by
 unfold ensureMrrEvent at h ⊢
 dsimp only at h ⊢
 cases hnow:(db'.latestMrr journey.journeyRef).filter (·.carries value) with
 | some latest=>exact ⟨_,rfl⟩
 | none =>
  refine ensureEvent_again _ _ (mrrChange journey subscriptionRef later value _) ?_
  split at h
  · rename_i latest found
    cases h
    rw[hnow] at found
    cases found
  · rcases ensureEvent_ok h with ⟨rfl,known⟩|recorded
    · exact Option.isSome_iff_ne_none.mp known
    · -- the new event is not in force, so the one it was to follow still is
      have known:=(ensureEvent_event h
       ((mrrChange journey subscriptionRef observedAt value (db.latestMrr journey.journeyRef)).reference
        digests)).not.mpr fun h=>h.2 rfl
      obtain ⟨outcomeEventRef,-,events⟩:=recorded.events
      have carried:((mrrChange journey subscriptionRef observedAt value
        (db.latestMrr journey.journeyRef)).row digests journey outcomeEventRef).carries value =
         true:=
       mrrChange_carries _ outcomeEventRef
      have after:db'.latestMrr journey.journeyRef=db.latestMrr journey.journeyRef:=by
       rw[Option.filter_eq_none_iff] at hnow
       rw[Db.latestMrr,ofMilestone_append events,if_pos ⟨rfl,rfl⟩,newest_append] at hnow ⊢
       change _=newest (db.ofMilestone journey.journeyRef .mrrChanged)
       cases hlatest:newest (db.ofMilestone journey.journeyRef .mrrChanged) with
       | none =>
        rw[hlatest] at hnow
        exact absurd carried (hnow _ rfl)
       | some latest =>
        rw[hlatest] at hnow
        simp only[Option.elim_some,newer,Option.some.injEq,forall_eq'] at hnow ⊢
        split at hnow
        · rename_i kept
          rw[if_pos kept]
        · exact absurd carried hnow
      rw[after]
      exact known

lemma billingBranch_mono {paid paid':Bool}
 (some:billingBranch s paid≠.none)(mono:paid=true→paid'=true) :
 billingBranch s paid'=billingBranch s paid:=by
 unfold billingBranch at some ⊢
 split
 · rfl
 · split
   · rfl
   · rename_i active unknown
     rw[if_neg active,if_neg unknown] at some
     by_cases canceled:s.status=.canceled ∧ paid=true
     · rw[if_pos canceled,if_pos ⟨canceled.1,mono canceled.2⟩]
     · rw[if_neg canceled] at some
       exact absurd rfl some

lemma observeBilling_again {results:List MilestoneResult}
 (h:observeBilling digests db accountId s observedAt eventId=.ok (db',results))
 (later:ℕ)(drawn:String) :
 ∃results',observeBilling digests db' accountId s later drawn=.ok (db',results'):=by
 have records:=observeBilling_records h
 have journeys:db'.journey accountId=db.journey accountId:=by
  rw[Db.journey,records_journeys records]
  rfl
 unfold observeBilling at h ⊢
 rw[journeys]
 cases hjourney:db.journey accountId with
 | none=>exact ⟨[],rfl⟩
 | some journey =>
  rw[hjourney] at h
  dsimp only at h ⊢
  by_cases idle:billingBranch s (db.hasMilestone journey.journeyRef .paid)=.none
  · rw[idle] at h
    cases h
    rw[idle]
    exact ⟨[],rfl⟩
  · rw[billingBranch_mono idle (records_hasMilestone records)]
    cases hbranch:billingBranch s (db.hasMilestone journey.journeyRef .paid) with
    | paying value =>
     rw[hbranch] at h
     obtain ⟨⟨paidDb,paid⟩,hpaid,h⟩:=bind_ok.mp h
     obtain ⟨⟨db',money⟩,hmoney,h⟩:=bind_ok.mp h
     cases h
     have known:=records_event (ensureMrrEvent_records hmoney)
      ((ensureEvent_event hpaid _).not.mpr fun h=>h.2 rfl)
     obtain ⟨paid',hpaid'⟩:=ensureEvent_again journey drawn
      (payment journey (digests.subscription s.stripeSubscriptionId) later) known
     obtain ⟨money',hmoney'⟩:=ensureMrrEvent_again hmoney later
     exact ⟨[paid',money'],by simp[hpaid',hmoney',Bind.bind,Except.bind,Pure.pure,Except.pure]⟩
    | unknown =>
     rw[hbranch] at h
     obtain ⟨⟨db',money⟩,hmoney,h⟩:=bind_ok.mp h
     cases h
     obtain ⟨money',hmoney'⟩:=ensureMrrEvent_again hmoney later
     exact ⟨[money'],by simp[hmoney',Bind.bind,Except.bind,Pure.pure,Except.pure]⟩
    | canceled value =>
     rw[hbranch] at h
     obtain ⟨⟨churnedDb,churned⟩,hchurn,h⟩:=bind_ok.mp h
     have known:=(ensureEvent_event hchurn _).not.mpr fun h=>h.2 rfl
     cases value with
     | none =>
      cases h
      obtain ⟨churned',hchurn'⟩:=ensureEvent_again journey drawn
       (churn journey (digests.subscription s.stripeSubscriptionId) later s.canceledAt) known
      exact ⟨[churned'],by simp[hchurn',Bind.bind,Except.bind,Pure.pure,Except.pure]⟩
     | some value =>
      obtain ⟨⟨db',money⟩,hmoney,h⟩:=bind_ok.mp h
      cases h
      obtain ⟨churned',hchurn'⟩:=ensureEvent_again journey drawn
       (churn journey (digests.subscription s.stripeSubscriptionId) later s.canceledAt)
       (records_event (ensureMrrEvent_records hmoney) known)
      obtain ⟨money',hmoney'⟩:=ensureMrrEvent_again hmoney later
      exact ⟨[churned',money'],by simp[hchurn',hmoney',Bind.bind,Except.bind,Pure.pure,Except.pure]⟩
    | none=>exact absurd hbranch idle

end

def Repeatable (db:Db):Prop:=∀accountId s observedAt eventId db' results,
  observeBilling digests db accountId s observedAt eventId=.ok (db',results) →
   ∀later drawn,∃results',observeBilling digests db' accountId s later drawn=.ok (db',results')

/-- Over every run from the empty tables: the event in force of each journey
states what was last observed, and an observation made again adds nothing, if
and only if each observation takes force where it is made. -/
theorem mrr_in_force_iff (steps:List Step) : (∀done,done <+: steps →
  Latest (ledger digests done) ∧ Repeatable digests (ledger digests done).db) ↔
  Runs.Along (Ledger.next digests) (TakesForce digests) Ledger.empty steps:=by
 have start:Latest Ledger.empty:=fun journeyRef value h=>nomatch h
 have kept:∀w step,True→Latest w→(Latest (w.next digests step) ↔ TakesForce digests w step):=
  fun w step _ latest=>latest_next latest
 have exact:=Runs.always_iff_along (fun _ _ _=>trivial) kept trivial start steps
 rw[←exact]
 constructor
 · exact fun h done reached=>(h done reached).1
 · intro h done reached
   refine ⟨h done reached,?_⟩
   intro accountId s observedAt eventId db' results made later drawn
   exact observeBilling_again made later drawn

def observationTimes (steps:List Step):List ℕ:=steps.filterMap fun
  | .billing _ _ observedAt _=>some observedAt
  | _=>none

def upgradeRun:List Step:=[.opportunity "opportunity" .sent,.click sampleVerified 1,
  .signup "account" (some sampleVerified) 2,
  .billing "account" (samplePlan .essential) 3 "event",
  .billing "account" (samplePlan .pro) 3 "event"]

/-- Observed in order, the upgrade leaves the former amount in force. -/
theorem upgrade_leaves_former_amount:¬∀ (digests:Digests)(steps:List Step),
 (observationTimes steps).Pairwise (· ≤ ·)→Latest (ledger digests steps):=by
 intro claim
 have latest:=claim sampleDigests upgradeRun (by decide)
 have seen:(ledger sampleDigests upgradeRun).last sampleJourney=some (euros 9900):=by
  decide +kernel
 have former:((ledger sampleDigests upgradeRun).db.latestMrr sampleJourney).any
   (·.carries (euros 9900))=false:=by decide +kernel
 obtain ⟨e,found,carried⟩:=latest sampleJourney (euros 9900) seen
 rw[found,Option.any_some,carried] at former
 cases former

end Kivou.ConversionEvents
