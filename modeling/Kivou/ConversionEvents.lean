import Kivou.AcquisitionReducer
import Kivou.BillingSubscription

set_option autoImplicit false

/-! The tables of `signals.conversion`: a journey joins an account to the click that brought it, its
events are appended and never changed. Instants are microseconds since the epoch. -/
namespace Kivou.ConversionEvents
open AcquisitionContracts AcquisitionReducer

abbrev Ref:=Fin (2^256)

inductive Milestone where
 | click | signup | activated | paid | mrrChanged | retainedM1 | retainedM2 | churned
 deriving DecidableEq

structure Mrr where
 known:Bool
 amount:Option ℕ
 (currency reason:Option String)
 deriving DecidableEq

inductive Identity where
 | token (tokenFingerprint:Ref)
 | journey (journeyRef:Ref)
 | retention (journeyRef firstPaidEventRef:Ref)(retentionDays:ℕ)
 | mrr (journeyRef subscriptionRef:Ref)(catalogueVersion:String)(value:Mrr)
   (previousMrrEventRef:Option Ref)
 deriving DecidableEq

/-- `semantic_fingerprint` on the payloads the subsystem builds. -/
structure Digests where
 event:Milestone→Identity→Ref
 journey:String→Ref→Ref
 subscription:String→Ref
 activation:String→String→List String→Ref

inductive TriggerRefType where
 | attributionToken | accountCreated | billingState | accountProductState

structure ConversionEvent where
 conversionEventRef:Ref
 journeyRef:Option Ref
 milestone:Milestone
 tokenFingerprint:Option Ref:=none
 triggerRefType:TriggerRefType
 triggerRef:Option (Ref ⊕ String)
 accountId:Option String
 prospectTargetId:Option String:=none
 (campaignRef memberRef acquisitionOpportunityId:Option String)
 activationFingerprint:Option Ref:=none
 billingSubscriptionRef:Option Ref:=none
 catalogueVersion:Option String:=none
 mrrKnown:Option Bool:=none
 mrrMinorUnits:Option ℕ:=none
 currency:Option String:=none
 reasonCode:Option String:=none
 outcomeEventRef:Option String:=none
 (occurredAt observedAt recordedAt:ℕ)

namespace ConversionEvent

variable (e:ConversionEvent)

def phase:Bool:=
 if e.milestone=.click then e.journeyRef.isNone&&e.tokenFingerprint.isSome&&e.accountId.isNone
 else e.journeyRef.isSome&&e.accountId.isSome

def mrrScope:Bool:=
 if e.milestone=.mrrChanged then e.mrrKnown.isSome
 else e.mrrKnown.isNone&&e.mrrMinorUnits.isNone&&e.currency.isNone

def money:Bool:=
 match e.mrrKnown with
 | none=>true
 | some true=>e.mrrMinorUnits.isSome&&(e.currency==some "chf"||e.currency==some "eur") &&
   e.reasonCode.isNone
 | some false=>e.mrrMinorUnits.isNone&&e.currency.isNone&&e.reasonCode.isSome

def times:Bool:=e.occurredAt≤e.observedAt&&e.observedAt≤e.recordedAt

/-- The `CHECK` constraints of the table. -/
def checks:Bool:=e.phase&&e.mrrScope&&e.money&&e.times

end ConversionEvent

structure Journey where
 journeyRef:Ref
 accountId:String
 sourceClickEventRef:Ref
 (prospectTargetId campaignRef memberRef acquisitionOpportunityId:Option String)
 tokenFingerprint:Ref
 (clickedAt attributionExpiresAt signedUpAt:ℕ)

/-- `ck_conversion_journey_window` and `ck_conversion_journey_source`. -/
def Journey.checks (j:Journey):Bool:=
 j.clickedAt≤j.signedUpAt&&j.signedUpAt≤j.attributionExpiresAt &&
  if j.prospectTargetId.isNone then
   j.campaignRef.isSome&&j.memberRef.isSome&&j.acquisitionOpportunityId.isSome
  else j.campaignRef.isNone&&j.memberRef.isNone&&j.acquisitionOpportunityId.isNone

/-- An `OUTCOME_RECORDED` event of this subsystem; its idempotency key and its
evidence reference are both made of the conversion event's reference. -/
structure Outcome where
 eventId:String
 conversionEventRef:Ref
 target:AcquisitionState
 reasonCode:String
 occurredAt:ℕ

def Outcome.semantic (o:Outcome):Ref × AcquisitionState × String × ℕ:=
 (o.conversionEventRef,o.target,o.reasonCode,o.occurredAt)

structure Stream where
 state:AcquisitionState
 streamVersion:ℕ
 outcomes:List Outcome

inductive Failure where
 | projectionNotFound (opportunityId:Option String)
 | idempotencyConflict (conversionEventRef:Ref)
 | invalidOutcomeTransition (held target:AcquisitionState)
 | integrity

/-- `append_in_transaction` of an outcome at the version just read, with the
reducer's `_outcome_recorded`: the new stream and the id of the event. -/
def Stream.append (s:Stream)(o:Outcome):Except Failure (Stream × String):=
 match s.outcomes.find? (·.conversionEventRef==o.conversionEventRef) with
 | some existing =>
  if existing.semantic=o.semantic then .ok (s,existing.eventId)
  else .error (.idempotencyConflict o.conversionEventRef)
 | none =>
  match outcomeRank s.state,outcomeRank o.target with
  | some held,some reached =>
   .ok ({ state:=if held<reached then o.target else s.state
          streamVersion:=s.streamVersion+1
          outcomes:=s.outcomes++[o]},o.eventId)
  | _,_=>.error (.invalidOutcomeTransition s.state o.target)

structure AccountState where
 onboardingStatus:Option String
 activeTargetIcps:List String
 subscription:Option BillingSubscription.StoredSubscription

structure Db where
 events:List ConversionEvent
 journeys:List Journey
 streams:String→Option Stream
 accounts:String→AccountState
 /-- `prospect_target.target_id` by its `attribution_member_ref`. -/
 targets:String→Option String

def Db.empty:Db:=⟨[],[],fun _=>none,fun _=>⟨none,[],none⟩,fun _=>none⟩

variable (db:Db)(digests:Digests)

def Db.event (ref:Ref):Option ConversionEvent:=db.events.find? (·.conversionEventRef==ref)

/-- `_journey` and `_journey_for_account`; the account is unique. -/
def Db.journey (accountId:String):Option Journey:=db.journeys.find? (·.accountId==accountId)

/-- `_event_for_milestone`: the rows of one milestone of a journey. -/
def Db.ofMilestone (journeyRef:Ref)(milestone:Milestone):List ConversionEvent:=
 db.events.filter fun e=>e.journeyRef==some journeyRef&&e.milestone==milestone

def Db.hasMilestone (journeyRef:Ref)(milestone:Milestone):Bool:=
 !(db.ofMilestone journeyRef milestone).isEmpty

def Db.setStream (opportunityId:String)(stream:Stream):Db:=
 {db with streams:=Function.update db.streams opportunityId (some stream)}

/-- `INSERT INTO acquisition_conversion_event`. -/
def Db.insertEvent (row:ConversionEvent):Except Failure Db:=
 if row.checks&&(db.event row.conversionEventRef).isNone then .ok {db with events:=db.events++[row]}
 else .error .integrity

structure MilestoneResult where
 conversionEventRef:Ref
 milestone:Milestone
 outcomeEventRef:Option String

/-- The keyword arguments of `_ensure_event`. -/
structure Observation where
 milestone:Milestone
 observedAt:ℕ
 identity:Identity
 occurredAt:Option ℕ:=none
 activationFingerprint:Option Ref:=none
 billingSubscriptionRef:Option Ref:=none
 catalogueVersion:Option String:=none
 mrrKnown:Option Bool:=none
 mrrMinorUnits:Option ℕ:=none
 currency:Option String:=none
 reasonCode:Option String:=none
 outcome:Option (AcquisitionState × String):=none

def Observation.reference (o:Observation):Ref:=digests.event o.milestone o.identity

def Observation.happenedAt (o:Observation):ℕ:=o.occurredAt.getD o.observedAt

def Observation.row (o:Observation)(journey:Journey)
 (outcomeEventRef:Option String):ConversionEvent:=
 { conversionEventRef:=o.reference digests
   journeyRef:=some journey.journeyRef
   milestone:=o.milestone
   triggerRefType:=
    if o.billingSubscriptionRef.isSome then .billingState else .accountProductState
   triggerRef:=(o.billingSubscriptionRef.or o.activationFingerprint).map .inl
   accountId:=some journey.accountId
   campaignRef:=journey.campaignRef
   memberRef:=journey.memberRef
   acquisitionOpportunityId:=journey.acquisitionOpportunityId
   activationFingerprint:=o.activationFingerprint
   billingSubscriptionRef:=o.billingSubscriptionRef
   catalogueVersion:=o.catalogueVersion
   mrrKnown:=o.mrrKnown
   mrrMinorUnits:=o.mrrMinorUnits
   currency:=o.currency
   reasonCode:=o.reasonCode
   outcomeEventRef:=outcomeEventRef
   occurredAt:=o.happenedAt
   observedAt:=o.observedAt
   recordedAt:=o.observedAt}

/-- The outcome that a milestone appends to the journey's opportunity; a
journey of a prospect target has none to append it to. -/
def recordOutcome (db:Db)(journey:Journey)(eventId:String)
 (o:Observation):Except Failure (Db × Option String):=
 match o.outcome with
 | none=>.ok (db,none)
 | some (target,reasonCode) =>
  match journey.acquisitionOpportunityId with
  | none=>.error (.projectionNotFound none)
  | some opportunityId =>
   match db.streams opportunityId with
   | none=>.error (.projectionNotFound (some opportunityId))
   | some stream=>do
    let (stream,outcomeId) ←stream.append
     ⟨eventId,o.reference digests,target,reasonCode,o.happenedAt⟩
    return (db.setStream opportunityId stream,some outcomeId)

/-- `_ensure_event`, with the id its acquisition event would draw. -/
def ensureEvent (db:Db)(journey:Journey)(eventId:String)
 (o:Observation):Except Failure (Db × MilestoneResult):=
 match db.event (o.reference digests) with
 | some existing=>.ok (db,⟨o.reference digests,o.milestone,existing.outcomeEventRef⟩)
 | none=>do
  let (recorded,outcomeEventRef) ←recordOutcome digests db journey eventId o
  let inserted ←recorded.insertEvent (o.row digests journey outcomeEventRef)
  return (inserted,⟨o.reference digests,o.milestone,outcomeEventRef⟩)

end Kivou.ConversionEvents
