import Mathlib.Data.Finset.Basic
import Mathlib.Logic.Function.Basic
import Kivou.BillingCatalogue

set_option autoImplicit false

/-! `signals.billing.attempts` and the preparation of `signals.billing.checkout`. Instants are
microseconds since the epoch. -/
namespace Kivou.CheckoutAttempts
open BillingCatalogue

inductive AttemptStatus where
 | creating | opened | completed | expired | failed
 deriving DecidableEq

/-- A row of `billing_checkout_attempt`, whose primary key is the account. -/
structure StoredAttempt where
 (accountId attemptId:String)
 planCode:PlanCode
 currency:Currency
 stripeCheckoutSessionId:Option String
 status:AttemptStatus
 (expiresAt createdAt updatedAt:ℕ)

def checkoutAttemptTtl:ℕ:=30*60*1000000

namespace StoredAttempt

def isTerminal (a:StoredAttempt):Bool:=a.status∈[AttemptStatus.completed,.expired,.failed]

def isOpen (a:StoredAttempt)(now:ℕ):Bool:=!a.isTerminal&&now<a.expiresAt

def idempotencyKey (a:StoredAttempt):String:="kivou-checkout:"++a.attemptId

def matchesPlan (a:StoredAttempt)(planCode:PlanCode)(currency:Currency):Bool:=
 a.planCode=planCode&&a.currency=currency

/-- The `expires_at` sent to Stripe, in whole seconds. -/
def sentExpiry (a:StoredAttempt):ℕ:=a.expiresAt/1000000

/-- `expire_stale` at one row. -/
def expireStale (now:ℕ)(a:StoredAttempt):StoredAttempt:=
 if a.expiresAt≤now ∧ ¬a.isTerminal then {a with status:=.expired,updatedAt:=now} else a

def recordSession (attemptId sessionId:String)(now:ℕ)(a:StoredAttempt):StoredAttempt:=
 if a.attemptId=attemptId then
  {a with stripeCheckoutSessionId:=some sessionId,status:=.opened,updatedAt:=now}
 else a

def failAttempt (attemptId:String)(now:ℕ)(a:StoredAttempt):StoredAttempt:=
 if a.attemptId=attemptId ∧ a.status=.creating then {a with status:=.failed,updatedAt:=now}
 else a

def closeAttempt (sessionId:String)(status:AttemptStatus)(now:ℕ)(a:StoredAttempt) :
 StoredAttempt:=
 if a.stripeCheckoutSessionId=some sessionId then {a with status,updatedAt:=now} else a

end StoredAttempt

abbrev Attempts:=String→Option StoredAttempt

def Attempts.modify (rows:Attempts)(accountId:String)(f:StoredAttempt→StoredAttempt) :
 Attempts:=
 Function.update rows accountId ((rows accountId).map f)

/-- `attempts.reserve` once the account's attempt has been read as `existing`:
the rows may have changed since. Where another request took the place, or the
attempt found is still open, the error carries the attempt in progress. -/
def reserve (rows:Attempts)(existing:Option StoredAttempt)(accountId:String)
 (planCode:PlanCode)(currency:Currency)(now:ℕ)(attemptId:String) :
 Except StoredAttempt (Attempts × StoredAttempt):=
 let attempt:StoredAttempt:=
  { accountId,attemptId,planCode,currency
    stripeCheckoutSessionId:=none
    status:=.creating
    expiresAt:=now+checkoutAttemptTtl
    createdAt:=now
    updatedAt:=now}
 match existing with
 | none =>
  match rows accountId with
  | none=>.ok (Function.update rows accountId (some attempt),attempt)
  | some loser=>.error loser
 | some found =>
  if found.isOpen now then
   if found.status=.creating ∧ found.matchesPlan planCode currency then .ok (rows,found)
   else .error found
  else
   match rows accountId with
   | none=>.error found
   | some row =>
    -- the update names the attempt it replaces and leaves `created_at`
    if row.attemptId=found.attemptId then
     .ok (Function.update rows accountId (some {attempt with createdAt:=row.createdAt}),attempt)
    else .error row

inductive BillingError where
 | planNotPurchasable | alreadySubscribed | priceNotConfigured | stripeModeMismatch
 | foundingNotAvailable | noBillingCustomer

structure Price where
 priceId:String
 (active livemode:Bool)
 currency:Currency

/-- What the preparation reads: the account's subscription, the price behind
the lookup key, the founding offer and the Stripe customer. -/
structure Surroundings where
 (livemode subscriptionOpen:Bool)
 price:Option Price
 founding:Bool
 foundingCouponId:Option String
 foundingAvailable:Bool
 customerId:Except BillingError String

structure Terms where
 (priceId customerId:String)
 couponId:Option String

def foundingCoupon (on:Surroundings)(planCode:PlanCode) : Except BillingError (Option String):=
 if !on.founding then .ok none
 else if planCode≠.pro ∨ on.foundingCouponId=none ∨ !on.foundingAvailable then
  .error .foundingNotAvailable
 else .ok on.foundingCouponId

/-- The checks of `prepare_checkout` around the reservation. -/
def checkoutTerms (on:Surroundings)(planCode:PlanCode)(currency:Currency) :
 Except BillingError Terms:=do
 if planCode∉purchasablePlans then throw .planNotPurchasable
 if on.subscriptionOpen then throw .alreadySubscribed
 match on.price with
 | none=>throw .priceNotConfigured
 | some price =>
  if !price.active then throw .priceNotConfigured
  if price.livemode≠on.livemode then throw .stripeModeMismatch
  if price.currency≠currency then throw .priceNotConfigured
  let couponId ←foundingCoupon on planCode
  let customerId ←on.customerId
  return {priceId:=price.priceId,customerId,couponId}

structure PreparedCheckout where
 attempt:StoredAttempt
 terms:Terms

end Kivou.CheckoutAttempts
