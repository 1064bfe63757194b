import Kivou.ConversionEvents
import Mathlib.Data.Prod.Lex
import Mathlib.Order.Fin.Basic

set_option autoImplicit false

/-! `signals.conversion.service` writes the click and the journey; `signals.conversion.milestones`
derives the later events from the account and the subscription. Each runs in its caller's
transaction, which a failure undoes. -/
namespace Kivou.ConversionEvents
open AcquisitionContracts BillingCatalogue BillingSubscription

/-- `ATTRIBUTION_WINDOW`: thirty days. -/
def attributionWindow:ℕ:=30*24*3600*1000000

structure Verified where
 tokenFingerprint:Ref
 (campaignRef memberRef acquisitionOpportunityId:String)
 expiresAt:ℕ

section
variable (digests:Digests)(db:Db)

def unlessTarget {α:Type}(prospectTargetId:Option String)(value:α):Option α:=
 if prospectTargetId.isSome then none else some value

/-- `record_click_in_transaction`; the target's own delivery columns are not kept. -/
def recordClick (verified:Verified)(now:ℕ):Except Failure Db:=
 let eventRef:=digests.event .click (.token verified.tokenFingerprint)
 match db.event eventRef with
 | some _=>.ok db
 | none =>
  let prospectTargetId:=db.targets verified.memberRef
  db.insertEvent
   { conversionEventRef:=eventRef
     journeyRef:=none
     milestone:=.click
     tokenFingerprint:=some verified.tokenFingerprint
     triggerRefType:=.attributionToken
     triggerRef:=some (.inl verified.tokenFingerprint)
     accountId:=none
     prospectTargetId
     campaignRef:=unlessTarget prospectTargetId verified.campaignRef
     memberRef:=unlessTarget prospectTargetId verified.memberRef
     acquisitionOpportunityId:=unlessTarget prospectTargetId verified.acquisitionOpportunityId
     occurredAt:=now
     observedAt:=now
     recordedAt:=now}

def Db.click (tokenFingerprint:Ref):Option ConversionEvent:=
 db.events.find? fun e=>e.milestone==.click&&e.tokenFingerprint==some tokenFingerprint

variable (journey:Journey)(accountId:String)(s:StoredSubscription)(e:ConversionEvent)
 (subscriptionRef:Ref)

/-- `INSERT INTO acquisition_conversion_journey`. -/
def Db.insertJourney:Except Failure Db:=
 let unique:=db.journeys.all fun other=>
  other.journeyRef != journey.journeyRef&&other.accountId != journey.accountId
 let referenced:=match journey.acquisitionOpportunityId with
  | none=>true
  | some opportunityId=>(db.streams opportunityId).isSome
 if journey.checks&&unique&&referenced then .ok {db with journeys:=db.journeys++[journey]}
 else .error .integrity

def newJourney (verified:Verified)(click:ConversionEvent)(accountId:String)(now:ℕ) :
 Journey:=
 { journeyRef:=digests.journey accountId click.conversionEventRef
   accountId
   sourceClickEventRef:=click.conversionEventRef
   prospectTargetId:=click.prospectTargetId
   campaignRef:=unlessTarget click.prospectTargetId verified.campaignRef
   memberRef:=unlessTarget click.prospectTargetId verified.memberRef
   acquisitionOpportunityId:=unlessTarget click.prospectTargetId verified.acquisitionOpportunityId
   tokenFingerprint:=verified.tokenFingerprint
   clickedAt:=click.occurredAt
   attributionExpiresAt:=min (click.occurredAt+attributionWindow) verified.expiresAt
   signedUpAt:=now}

def signupEvent:ConversionEvent:=
 { conversionEventRef:=digests.event .signup (.journey journey.journeyRef)
   journeyRef:=some journey.journeyRef
   milestone:=.signup
   tokenFingerprint:=some journey.tokenFingerprint
   triggerRefType:=.accountCreated
   triggerRef:=some (.inr journey.accountId)
   accountId:=some journey.accountId
   prospectTargetId:=journey.prospectTargetId
   campaignRef:=journey.campaignRef
   memberRef:=journey.memberRef
   acquisitionOpportunityId:=journey.acquisitionOpportunityId
   occurredAt:=journey.signedUpAt
   observedAt:=journey.signedUpAt
   recordedAt:=journey.signedUpAt}

/-- `bind_signup_in_transaction`; `verified` is `none` where verification raises. -/
def bindSignup (verified:Option Verified)(now:ℕ):Except Failure Db:=
 match db.journey accountId,verified with
 | some _,_=>.ok db
 | none,none=>.ok db
 | none,some verified =>
  match db.click verified.tokenFingerprint with
  | none=>.ok db
  | some click =>
   let journey:=newJourney digests verified click accountId now
   if now<click.occurredAt ∨ journey.attributionExpiresAt<now then .ok db
   else do
    let bound ←db.insertJourney journey
    bound.insertEvent (signupEvent digests journey)

/-- `onboarding_status`, once the account is ready and has an active profile. -/
def AccountState.ready (account:AccountState):Option String:=
 if account.onboardingStatus=some "ready_for_signals" ∧ account.activeTargetIcps≠[] then
  account.onboardingStatus
 else none

def activation (accountId status:String)(account:AccountState)(journey:Journey)
 (observedAt:ℕ):Observation:=
 { milestone:=.activated
   observedAt
   identity:=.journey journey.journeyRef
   activationFingerprint:=some (digests.activation accountId status account.activeTargetIcps)
   outcome:=some (.activated,"ACCOUNT_READY_FOR_SIGNALS")}

def observeActivation (observedAt:ℕ)(eventId:String) :
 Except Failure (Db × Option MilestoneResult):=
 match db.journey accountId,(db.accounts accountId).ready with
 | some journey,some status=>do
  let (db,result) ←ensureEvent digests db journey eventId
   (activation digests accountId status (db.accounts accountId) journey observedAt)
  return (db,some result)
 | _,_=>.ok (db,none)

def purchasable (plan:Option PlanCode):Bool:=plan.any (· ∈ purchasablePlans)

def billable (currency:Option String):Option Currency:=
 currency.bind fun code=>currencies.find? fun c=>c.code==code

def grantsPaidAccess:Bool:=s.status∈payingStatuses&&purchasable s.planCode

def unknownPlan:Mrr:=⟨false,none,none,some "MRR_UNKNOWN_PLAN"⟩

def mrr:Mrr:=
 match s.planCode,billable s.currency with
 | some plan,some currency =>
  if plan∈purchasablePlans then
   ⟨true,if s.foundingOffer then some foundingEffectiveMinorUnits
    else monthlyMinorUnits plan currency,s.currency,none⟩
  else unknownPlan
 | _,_=>unknownPlan

def ConversionEvent.key:ℕ ×ₗ Ref:=toLex (e.occurredAt,e.conversionEventRef)

def newer (e other:ConversionEvent):ConversionEvent:=if other.key≤e.key then e else other

/-- The first row by `occurred_at` and then by reference, both descending. -/
def newest:List ConversionEvent→Option ConversionEvent
 | []=>none
 | e::events=>some ((newest events).elim e (newer e))

def Db.latestMrr (journeyRef:Ref):Option ConversionEvent:=
 newest (db.ofMilestone journeyRef .mrrChanged)

/-- The event states `value` under the catalogue in force. -/
def ConversionEvent.carries (value:Mrr):Bool:=
 e.catalogueVersion==some BillingCatalogue.catalogueVersion&&e.mrrKnown==some value.known &&
  e.mrrMinorUnits==value.amount&&e.currency==value.currency &&
  e.reasonCode==value.reason

def mrrChange (observedAt:ℕ)(value:Mrr) (latest:Option ConversionEvent):Observation:=
 { milestone:=.mrrChanged
   observedAt
   identity:=.mrr journey.journeyRef subscriptionRef catalogueVersion value
    (latest.map (·.conversionEventRef))
   billingSubscriptionRef:=some subscriptionRef
   catalogueVersion:=some catalogueVersion
   mrrKnown:=some value.known
   mrrMinorUnits:=value.amount
   currency:=value.currency
   reasonCode:=value.reason}

/-- `_ensure_mrr_event`; it appends no acquisition event and draws no id. -/
def ensureMrrEvent (observedAt:ℕ)(value:Mrr) : Except Failure (Db × MilestoneResult):=
 let latest:=db.latestMrr journey.journeyRef
 match latest.filter (·.carries value) with
 | some latest=>.ok (db,⟨latest.conversionEventRef,.mrrChanged,latest.outcomeEventRef⟩)
 | none=>ensureEvent digests db journey ""
   (mrrChange journey subscriptionRef observedAt value latest)

def payment (observedAt:ℕ):Observation:=
 { milestone:=.paid
   observedAt
   identity:=.journey journey.journeyRef
   billingSubscriptionRef:=some subscriptionRef
   outcome:=some (.paid,"BILLING_SUBSCRIPTION_PAYING")}

def churn (observedAt:ℕ)(canceledAt:Option ℕ) :
 Observation:=
 { milestone:=.churned
   observedAt
   occurredAt:=some (canceledAt.getD observedAt)
   identity:=.journey journey.journeyRef
   billingSubscriptionRef:=some subscriptionRef
   outcome:=some (.churned,"BILLING_SUBSCRIPTION_CANCELED")}

inductive BillingBranch where
 | paying (value:Mrr)
 | unknown
 | canceled (value:Option Mrr)
 | none
 deriving DecidableEq

/-- The branch `observe_billing_in_transaction` takes; `paid` tells whether the
journey has a `PAID` event. -/
def billingBranch (paid:Bool):BillingBranch:=
 if grantsPaidAccess s then .paying (mrr s)
 else if s.status=.active ∧ (purchasable s.planCode=false ∨ billable s.currency=none) then .unknown
 else if s.status=.canceled ∧ paid then
  .canceled ((billable s.currency).map fun _=>⟨true,some 0,s.currency,.none⟩)
 else .none

def observeBilling (observedAt:ℕ) (eventId:String):Except Failure (Db × List MilestoneResult):=
 match db.journey accountId with
 | none=>.ok (db,[])
 | some journey =>
  let subscriptionRef:=digests.subscription s.stripeSubscriptionId
  match billingBranch s (db.hasMilestone journey.journeyRef .paid) with
  | .paying value=>do
   let (paidDb,paid) ←
    ensureEvent digests db journey eventId (payment journey subscriptionRef observedAt)
   let (db,money) ←ensureMrrEvent digests paidDb journey subscriptionRef observedAt value
   return (db,[paid,money])
  | .unknown=>do
   let (db,money) ←ensureMrrEvent digests db journey subscriptionRef observedAt unknownPlan
   return (db,[money])
  | .canceled value=>do
   let (churnedDb,churned) ←ensureEvent digests db journey eventId
    (churn journey subscriptionRef observedAt s.canceledAt)
   match value with
   | some value =>
    let (db,money) ←ensureMrrEvent digests churnedDb journey subscriptionRef observedAt value
    return (db,[churned,money])
   | none=>return (churnedDb,[churned])
  | .none=>.ok (db,[])

def day:ℕ:=24*3600*1000000

def retention (journey:Journey)(paid:ConversionEvent)(days:ℕ)(milestone:Milestone)
 (observedAt:ℕ):Observation:=
 { milestone
   observedAt
   identity:=.retention journey.journeyRef paid.conversionEventRef days
   reasonCode:=some ("PAYING_AND_ACTIVATED_DAY_"++toString days)
   outcome:=
    if milestone=.retainedM1 then some (.retained,"PAYING_AND_ACTIVATED_DAY_"++toString days)
    else none}

def retentionDays:List (ℕ × Milestone):=[(30,.retainedM1),(60,.retainedM2)]

def retain (paid:ConversionEvent)(now:ℕ)(eventId:String)
 (turn:ℕ × Milestone)(done:Db × List MilestoneResult) :
 Except Failure (Db × List MilestoneResult):=
 if now<paid.occurredAt+turn.1*day ∨ done.1.hasMilestone journey.journeyRef turn.2 then .ok done
 else do
  let (db,result) ←ensureEvent digests done.1 journey eventId
   (retention journey paid turn.1 turn.2 now)
  return (db,done.2++[result])

def retentionDue:Option (Journey × ConversionEvent):=do
 let journey ←db.journey accountId
 guard (!db.hasMilestone journey.journeyRef .churned)
 let paid ←(db.ofMilestone journey.journeyRef .paid).head?
 let subscription ←(db.accounts accountId).subscription
 guard (grantsPaidAccess subscription)
 let _ ←(db.accounts accountId).ready
 return (journey,paid)

def recordRetention (now:ℕ)(eventId:String) : Except Failure (Db × List MilestoneResult):=
 match retentionDue db accountId with
 | none=>.ok (db,[])
 | some (journey,paid) =>
  retentionDays.foldlM (fun done turn=>retain digests journey paid now eventId turn done) (db,[])

end

end Kivou.ConversionEvents
