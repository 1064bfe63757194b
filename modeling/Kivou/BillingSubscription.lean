import Kivou.BillingCatalogue

set_option autoImplicit false

/-! `signals.billing.service`: what Stripe publishes about a subscription, the one row an account
keeps of it, and how the first is written into the second. Instants are microseconds since the
epoch. -/
namespace Kivou.BillingSubscription
open BillingCatalogue

inductive SubscriptionStatus where
 | active | incomplete | pastDue | unpaid | incompleteExpired | canceled | paused | trialing
 | other (name:String)
 deriving DecidableEq

/-- `is_open_subscription`: a status Stripe may add later counts as open. -/
def SubscriptionStatus.isOpen (status:SubscriptionStatus):Bool:=
 status∉[SubscriptionStatus.canceled,.incompleteExpired]

def payingStatuses:List SubscriptionStatus:=[.active]
def recoverableStatuses:List SubscriptionStatus:=[.pastDue,.unpaid]

structure StripeSubscriptionState where
 (subscriptionId customerId:String)
 status:SubscriptionStatus
 (priceId productId lookupKey currency:Option String)
 (currentPeriodStart currentPeriodEnd:Option ℕ)
 cancelAtPeriodEnd:Bool
 canceledAt:Option ℕ
 livemode:Bool
 (accountId discountCouponId:Option String)
 scheduledCancellationAt:Option ℕ

/-- The columns of `billing_subscription` that Stripe's object decides. -/
structure Synchronized where
 (stripeSubscriptionId stripeCustomerId:String)
 (stripePriceId stripeProductId:Option String)
 planCode:Option PlanCode
 foundingOffer:Bool
 currency:Option String
 status:SubscriptionStatus
 (currentPeriodStart currentPeriodEnd:Option ℕ)
 cancelAtPeriodEnd:Bool
 (canceledAt scheduledCancellationAt:Option ℕ)
 livemode:Bool

/-- A row of `billing_subscription`, unique by account. -/
structure StoredSubscription extends Synchronized where
 lastStripeEventCreatedAt:Option ℕ
 scheduledPlanCode:Option PlanCode
 scheduledPlanChangeAt:Option ℕ
 stripeScheduleId:Option String
 (planChangeSequence updatedAt:ℕ)

def StoredSubscription.isOpen (s:StoredSubscription):Bool:=s.status.isOpen

variable (state:StripeSubscriptionState)(eventCreatedAt:Option ℕ)(now:ℕ)
 (existing:Option StoredSubscription)

/-- `resolve_plan`: a price outside the catalogue gives no plan. -/
def resolvePlan:Option PlanCode × Option String:=
 match planForLookupKey state.lookupKey with
 | none=>(none,state.currency)
 | some (plan,currency)=>(some plan,some currency.code)

/-- The `values` of a synchronisation, as far as the object decides them. -/
def synchronized:Synchronized:=
 { stripeSubscriptionId:=state.subscriptionId
   stripeCustomerId:=state.customerId
   stripePriceId:=state.priceId
   stripeProductId:=state.productId
   planCode:=(resolvePlan state).1
   foundingOffer:=state.discountCouponId.isSome&&(resolvePlan state).1=some .pro
   currency:=(resolvePlan state).2
   status:=state.status
   currentPeriodStart:=state.currentPeriodStart
   currentPeriodEnd:=state.currentPeriodEnd
   cancelAtPeriodEnd:=state.cancelAtPeriodEnd
   canceledAt:=state.canceledAt
   scheduledCancellationAt:=state.scheduledCancellationAt
   livemode:=state.livemode}

inductive SyncAction where
 | created | staleEventIgnored | updated
 deriving DecidableEq

inductive SyncError where
 | stripeModeMismatch
 | subscriptionConflict (current incoming:String)

def isStale (row:StoredSubscription)(eventCreatedAt:Option ℕ):Bool:=
 match eventCreatedAt,row.lastStripeEventCreatedAt with
 | some created,some previous=>created<previous
 | _,_=>false

def updateRow (row:StoredSubscription)(state:StripeSubscriptionState)
 (eventCreatedAt:Option ℕ)(now:ℕ):StoredSubscription:=
 let values:=synchronized state
 let reached:Bool:=row.scheduledPlanCode.isSome&&row.scheduledPlanCode=values.planCode
 {values with
   lastStripeEventCreatedAt:=eventCreatedAt
   scheduledPlanCode:=if reached then none else row.scheduledPlanCode
   scheduledPlanChangeAt:=if reached then none else row.scheduledPlanChangeAt
   stripeScheduleId:=if reached then none else row.stripeScheduleId
   planChangeSequence:=row.planChangeSequence
   updatedAt:=now}

def insertRow :
 StoredSubscription:=
 { synchronized state with
   lastStripeEventCreatedAt:=eventCreatedAt
   scheduledPlanCode:=none
   scheduledPlanChangeAt:=none
   stripeScheduleId:=none
   planChangeSequence:=0
   updatedAt:=now}

/-- `synchronize_subscription` on the account's row. -/
def synchronizeSubscription (expectLivemode:Bool)(now:ℕ)(existing:Option StoredSubscription) :
 Except SyncError (StoredSubscription × SyncAction):=
 if state.livemode≠expectLivemode then .error .stripeModeMismatch
 else
  match existing with
  | none=>.ok (insertRow state eventCreatedAt now,.created)
  | some row =>
   if row.stripeSubscriptionId≠state.subscriptionId then
    -- a second subscription replaces a terminated one only
    if row.isOpen then .error (.subscriptionConflict row.stripeSubscriptionId state.subscriptionId)
    else .ok (insertRow state eventCreatedAt now,.created)
   else if isStale row eventCreatedAt then .ok (row,.staleEventIgnored)
   else .ok (updateRow row state eventCreatedAt now,.updated)

inductive BillingAction where
 | choosePlan | manageSubscription | recoverPayment | contactSupport
 deriving DecidableEq

/-- `billing_action`, given the account's row and its Stripe customer. -/
def billingAction (row:Option StoredSubscription)(stripeCustomerId:Option String) :
 BillingAction:=
 match row with
 | none=>.choosePlan
 | some s =>
  if !s.isOpen then .choosePlan
  else if s.planCode.all (· ∉ purchasablePlans) then .contactSupport
  else if s.status∈payingStatuses then
   if stripeCustomerId.isNone then .contactSupport else .manageSubscription
  else if s.status∈recoverableStatuses then
   if stripeCustomerId.isNone then .contactSupport else .recoverPayment
  else .contactSupport

def syncedRow (state:StripeSubscriptionState) (eventCreatedAt:Option ℕ)(now:ℕ):StoredSubscription:=
 match existing with
 | none=>insertRow state eventCreatedAt now
 | some row=>if isStale row eventCreatedAt then row else updateRow row state eventCreatedAt now

lemma synchronizeSubscription_own {state:StripeSubscriptionState}{eventCreatedAt:Option ℕ}
 {livemode:Bool}{now:ℕ}{existing:Option StoredSubscription}
 (mode:state.livemode=livemode)
 (own:∀row,existing=some row → row.stripeSubscriptionId=state.subscriptionId) :
 ∃action,synchronizeSubscription state eventCreatedAt livemode now existing =
  .ok (syncedRow existing state eventCreatedAt now,action):=by
 cases existing with
 | none=>exact ⟨.created,by simp[synchronizeSubscription,mode,syncedRow]⟩
 | some row =>
  have same:=own row rfl
  by_cases stale:isStale row eventCreatedAt=true
  · exact ⟨.staleEventIgnored,by simp[synchronizeSubscription,mode,same,stale,syncedRow]⟩
  · exact ⟨.updated,by simp[synchronizeSubscription,mode,same,stale,syncedRow]⟩

lemma syncedRow_own {state:StripeSubscriptionState}{existing:Option StoredSubscription}
 (own:∀row,existing=some row → row.stripeSubscriptionId=state.subscriptionId) :
 (syncedRow existing state eventCreatedAt now).stripeSubscriptionId=state.subscriptionId:=by
 cases existing with
 | none=>rfl
 | some row =>
  by_cases stale:isStale row eventCreatedAt=true
  · simp[syncedRow,stale,own row rfl]
  · simp[syncedRow,stale,updateRow,synchronized]

lemma StoredSubscription.isOpen_of_active {row:StoredSubscription}
 (active:row.status=.active):row.isOpen=true:=by
 simp[StoredSubscription.isOpen,SubscriptionStatus.isOpen,active]

lemma synchronizeSubscription_open {state:StripeSubscriptionState}{eventCreatedAt:Option ℕ}
 {livemode:Bool}{now:ℕ}{row row':StoredSubscription}{action:SyncAction}
 (isOpen:row.isOpen=true)
 (h:synchronizeSubscription state eventCreatedAt livemode now (some row) =
  .ok (row',action)) :
 row.stripeSubscriptionId=state.subscriptionId ∧
  row'=syncedRow (some row) state eventCreatedAt now:=by
 by_cases mode:state.livemode=livemode
 · by_cases same:row.stripeSubscriptionId=state.subscriptionId
   · have own:∀r,some row=some r → r.stripeSubscriptionId=state.subscriptionId:=by
      rintro r ⟨⟩
      exact same
     obtain ⟨_,synced⟩:=synchronizeSubscription_own mode own
     rw[synced] at h
     cases h
     exact ⟨same,rfl⟩
   · simp[synchronizeSubscription,mode,same,isOpen] at h
 · simp[synchronizeSubscription,mode] at h

lemma syncedRow_cases (state:StripeSubscriptionState) (created now:ℕ) :
 ((syncedRow existing state (some created) now).toSynchronized=synchronized state ∧
   (syncedRow existing state (some created) now).lastStripeEventCreatedAt=some created) ∨
  ∃row previous,existing=some row ∧ row.lastStripeEventCreatedAt=some previous ∧
   created<previous ∧ syncedRow existing state (some created) now=row:=by
 cases existing with
 | none=>exact .inl ⟨rfl,rfl⟩
 | some row =>
  by_cases stale:isStale row (some created)=true
  · refine .inr ⟨row,?_⟩
    cases last:row.lastStripeEventCreatedAt with
    | none=>simp[isStale,last] at stale
    | some previous =>
     simp only[isStale,last,decide_eq_true_eq] at stale
     exact ⟨previous,rfl,rfl,stale,by simp[syncedRow,isStale,last,stale]⟩
  · refine .inl ?_
    rw[syncedRow,if_neg stale]
    exact ⟨rfl,rfl⟩

end Kivou.BillingSubscription
