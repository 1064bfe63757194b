import Kivou.BillingSubscription

set_option autoImplicit false

/-! `signals.billing.plan_change`. An upgrade is made at Stripe at once and its answer synchronised;
a downgrade is scheduled at Stripe for the end of the period and announced in the row. The gateway
is any object with a state of its own: a call changes that state whether or not it raises, while a
request that raises leaves the row as it was. -/
namespace Kivou.PlanChange
open BillingCatalogue BillingSubscription

inductive GatewayError where
 | planChangePaymentFailed
 | unavailable

structure StripePrice where
 priceId:String
 active:Bool

structure StripeScheduledChange where
 scheduleId:String
 effectiveAt:Option ℕ

abbrev Call (σ α:Type):=σ→Except GatewayError α × σ

/-- The calls of `StripeGateway` that a plan change makes. -/
structure Gateway (σ:Type) where
 priceForLookupKey:String→Call σ (Option StripePrice)
 changeSubscriptionPrice (subscriptionId priceId idempotencyKey:String) :
  Call σ StripeSubscriptionState
 scheduleSubscriptionPrice (subscriptionId priceId idempotencyKey:String) :
  Call σ (Option StripeScheduledChange)
 releasePendingPlanChange (subscriptionId:String):Call σ Unit

inductive Effect where
 | immediate | scheduled
 deriving DecidableEq

structure PlanChangeOutcome where
 effect:Effect
 planCode:PlanCode
 effectiveAt:Option ℕ
 deriving DecidableEq

inductive PlanChangeError where
 | unavailable | samePlan | noneScheduled | unknownPlan
 | gateway (error:GatewayError)
 | sync (error:SyncError)

inductive ChangeKind where
 | change | schedule

def ChangeKind.code:ChangeKind→String
 | .change=>"change"
 | .schedule=>"schedule"

/-- `_idempotency_key` -/
def idempotencyKey (kind:ChangeKind)(subscriptionId:String)(source target:PlanCode)
 (currency:Currency)(sequence:ℕ):String:=
 "kivou-plan-"++kind.code++":"++subscriptionId++":"++toString sequence++":" ++
  source.code++"->"++target.code++":"++currency.code

def currencyOf (code:Option String):Option Currency:=
 currencies.find? (fun currency=>some currency.code==code)

structure Changeable where
 row:StoredSubscription
 planCode:PlanCode
 currency:Currency

/-- `_changeable` -/
def changeable (row:Option StoredSubscription)(customerId:Option String) :
 Except PlanChangeError Changeable:=
 if billingAction row customerId≠.manageSubscription then .error .unavailable
 else
  match row with
  | none=>.error .unavailable
  | some row =>
   match row.planCode,currencyOf row.currency with
   | some planCode,some currency=>.ok {row,planCode,currency}
   | _,_=>.error .unavailable

def recordScheduled (row:StoredSubscription)(planCode:PlanCode)(effectiveAt:Option ℕ)
 (scheduleId:Option String)(now:ℕ):StoredSubscription:=
 {row with
   scheduledPlanCode:=some planCode
   scheduledPlanChangeAt:=effectiveAt
   stripeScheduleId:=scheduleId
   planChangeSequence:=row.planChangeSequence+1
   updatedAt:=now}

/-- `_clear_scheduled`, which both its callers number as an operation. -/
def clearScheduled (row:StoredSubscription)(now:ℕ):StoredSubscription:=
 {row with
   scheduledPlanCode:=none
   scheduledPlanChangeAt:=none
   stripeScheduleId:=none
   planChangeSequence:=row.planChangeSequence+1
   updatedAt:=now}

section
variable {σ:Type}

/-- `_authorised_price` -/
def authorisedPrice (gateway:Gateway σ)(planCode:PlanCode)(currency:Currency)(s:σ) :
 Except PlanChangeError String × σ:=
 match lookupKeyFor planCode currency with
 | none=>(.error .unknownPlan,s)
 | some lookupKey =>
  match gateway.priceForLookupKey lookupKey s with
  | (.error e,s)=>(.error (.gateway e),s)
  | (.ok price,s) =>
   match price.filter (·.active) with
   | none=>(.error .unavailable,s)
   | some price=>(.ok price.priceId,s)

abbrev Answer:=Except PlanChangeError (StoredSubscription × PlanChangeOutcome)

def writeUpgrade (on:Changeable)(target:PlanCode)(now:ℕ)(expectLivemode:Bool)
 (state:StripeSubscriptionState):Answer:=
 match synchronizeSubscription state (some now) expectLivemode now (some on.row) with
 | .error e=>.error (.sync e)
 | .ok (row,_)=>.ok (clearScheduled row now,⟨.immediate,target,none⟩)

def writeDowngrade (on:Changeable)(target:PlanCode)(now:ℕ)
 (scheduled:Option StripeScheduledChange):Answer:=
 let effectiveAt:=scheduled.bind (·.effectiveAt)
 .ok (recordScheduled on.row target effectiveAt (scheduled.map (·.scheduleId)) now,
  ⟨.scheduled,target,effectiveAt⟩)

/-- The answer after a last gateway call: its error, or what `write` makes of it. -/
def settle {α:Type}(write:α→Answer)(called:Except GatewayError α × σ):Answer × σ:=
 match called.1 with
 | .error e=>(.error (.gateway e),called.2)
 | .ok a=>(write a,called.2)

/-- The upgrade branch of `request_plan_change`, after its price is known. -/
def upgrade (gateway:Gateway σ)(on:Changeable)(target:PlanCode)(priceId:String)
 (now:ℕ)(expectLivemode:Bool)(s:σ):Answer × σ:=
 let subscriptionId:=on.row.stripeSubscriptionId
 let released:=
  if on.row.scheduledPlanCode.isSome then gateway.releasePendingPlanChange subscriptionId s
  else (.ok (),s)
 match released with
 | (.error e,s)=>(.error (.gateway e),s)
 | (.ok (),s) =>
  let key:=idempotencyKey .change subscriptionId on.planCode target on.currency
   on.row.planChangeSequence
  settle (writeUpgrade on target now expectLivemode)
   (gateway.changeSubscriptionPrice subscriptionId priceId key s)

def downgrade (gateway:Gateway σ)(on:Changeable)(target:PlanCode)(priceId:String)
 (now:ℕ)(s:σ):Answer × σ:=
 let key:=idempotencyKey .schedule on.row.stripeSubscriptionId on.planCode target on.currency
  on.row.planChangeSequence
 settle (writeDowngrade on target now)
  (gateway.scheduleSubscriptionPrice on.row.stripeSubscriptionId priceId key s)

def requestPlanChange (gateway:Gateway σ)(customerId:Option String)(target:PlanCode)
 (now:ℕ)(expectLivemode:Bool)(row:Option StoredSubscription)(s:σ):Answer × σ:=
 match changeable row customerId with
 | .error e=>(.error e,s)
 | .ok on =>
  if on.row.scheduledPlanCode=some target then
   -- the exact change is announced already: nothing goes to Stripe
   (.ok (on.row,⟨.scheduled,target,on.row.scheduledPlanChangeAt⟩),s)
  else if target=on.planCode then (.error .samePlan,s)
  else
   match authorisedPrice gateway target on.currency s with
   | (.error e,s)=>(.error e,s)
   | (.ok priceId,s) =>
    match planRank target,planRank on.planCode with
    | some wanted,some current =>
     if current<wanted then upgrade gateway on target priceId now expectLivemode s
     else downgrade gateway on target priceId now s
    | _,_=>(.error .unknownPlan,s)

def cancelScheduledPlanChange (gateway:Gateway σ)(customerId:Option String)(now:ℕ)
 (row:Option StoredSubscription)(s:σ):Except PlanChangeError StoredSubscription × σ:=
 match changeable row customerId with
 | .error e=>(.error e,s)
 | .ok on =>
  if on.row.scheduledPlanCode=none then (.error .noneScheduled,s)
  else
   match gateway.releasePendingPlanChange on.row.stripeSubscriptionId s with
   | (.error e,s)=>(.error (.gateway e),s)
   | (.ok (),s)=>(.ok (clearScheduled on.row now),s)

end

def committed {α:Type}(row:Option StoredSubscription)
 (answer:Except PlanChangeError α)(written:α→StoredSubscription) :
 Option StoredSubscription:=
 match answer with
 | .ok a=>some (written a)
 | .error _=>row

section
variable {σ:Type}{gateway:Gateway σ}{customerId:Option String}{target:PlanCode}{now:ℕ}
 {livemode:Bool}{row:Option StoredSubscription}{s s':σ}{answer:Answer}

lemma changeable_ok {on:Changeable}(h:changeable row customerId=.ok on) :
 row=some on.row ∧ on.row.planCode=some on.planCode ∧
  currencyOf on.row.currency=some on.currency ∧ on.row.status=.active:=by
 unfold changeable at h
 split at h
 · cases h
 · rename_i managed
   cases row with
   | none=>cases h
   | some row =>
    dsimp only at h
    split at h
    · rename_i planCode currency hplan hcurrency
      cases h
      refine ⟨rfl,hplan,hcurrency,?_⟩
      by_contra inactive
      refine managed ?_
      simp only[billingAction,payingStatuses,List.mem_singleton,inactive,↓reduceIte]
      split_ifs <;> simp
    · cases h

def PriceOnly (gateway:Gateway σ)(s:σ)(e:PlanChangeError)(s':σ):Prop:=
 (s'=s ∧ ∀g,e≠.gateway g) ∨ ∃lookupKey,
  s'=(gateway.priceForLookupKey lookupKey s).2 ∧
   ∀g,e=.gateway g→(gateway.priceForLookupKey lookupKey s).1=.error g

/-- A request is refused before any change, repeats an announced change, or
goes through the upgrade or the downgrade with an authorised price. -/
inductive RequestCase (gateway:Gateway σ)(customerId:Option String)(target:PlanCode)
  (now:ℕ)(livemode:Bool)(row:Option StoredSubscription)(s:σ)(answer:Answer)
  (s':σ):Prop where
 | refused (e:PlanChangeError)(error:answer=.error e) (kept:PriceOnly gateway s e s')
 | announced (on:Changeable)(found:changeable row customerId=.ok on)
   (same:on.row.scheduledPlanCode=some target)
   (repeated:answer=.ok (on.row,⟨.scheduled,target,on.row.scheduledPlanChangeAt⟩))
   (kept:s'=s)
 | upgraded (on:Changeable)(found:changeable row customerId=.ok on)
   (new:on.row.scheduledPlanCode≠some target)(other:target≠on.planCode)
   (priceId:String)(s₁:σ)
   (price:authorisedPrice gateway target on.currency s=(.ok priceId,s₁))
   (wanted current:ℕ)(rank:planRank target=some wanted)
   (rank':planRank on.planCode=some current)(higher:current<wanted)
   (made:upgrade gateway on target priceId now livemode s₁=(answer,s'))
 | downgraded (on:Changeable)(found:changeable row customerId=.ok on)
   (new:on.row.scheduledPlanCode≠some target)(other:target≠on.planCode)
   (priceId:String)(s₁:σ)
   (price:authorisedPrice gateway target on.currency s=(.ok priceId,s₁))
   (wanted current:ℕ)(rank:planRank target=some wanted)
   (rank':planRank on.planCode=some current)(lower:¬current<wanted)
   (made:downgrade gateway on target priceId now s₁=(answer,s'))

lemma changeable_error {e:PlanChangeError}(h:changeable row customerId=.error e) :
 e=.unavailable:=by
 unfold changeable at h
 split at h
 · cases h
   rfl
 · split at h
   · cases h
     rfl
   · split at h <;> cases h
     rfl

lemma authorisedPrice_error {planCode:PlanCode}{currency:Currency}{e:PlanChangeError}
 (h:authorisedPrice gateway planCode currency s=(.error e,s')) :
 PriceOnly gateway s e s':=by
 unfold authorisedPrice at h
 split at h
 · cases h
   exact .inl ⟨rfl,fun g hg=>by cases hg⟩
 · rename_i lookupKey _
   refine .inr ⟨lookupKey,?_⟩
   split at h
   · rename_i called
     rw[called]
     cases h
     exact ⟨rfl,fun g hg=>by cases hg;rfl⟩
   · rename_i called
     rw[called]
     split at h
     · cases h
       exact ⟨rfl,fun g hg=>by cases hg⟩
     · cases h

lemma requestPlanChange_cases
 (h:requestPlanChange gateway customerId target now livemode row s=(answer,s')) :
 RequestCase gateway customerId target now livemode row s answer s':=by
 unfold requestPlanChange at h
 split at h
 · rename_i unavailable
   obtain ⟨rfl,rfl⟩:=Prod.mk.inj h
   rw[changeable_error unavailable]
   exact .refused _ rfl (.inl ⟨rfl,fun g hg=>by cases hg⟩)
 rename_i on found
 split at h
 · rename_i same
   obtain ⟨rfl,rfl⟩:=Prod.mk.inj h
   exact .announced on found same rfl rfl
 rename_i new
 split at h
 · obtain ⟨rfl,rfl⟩:=Prod.mk.inj h
   exact .refused _ rfl (.inl ⟨rfl,fun g hg=>by cases hg⟩)
 rename_i other
 split at h
 · rename_i price
   obtain ⟨rfl,rfl⟩:=Prod.mk.inj h
   exact .refused _ rfl (authorisedPrice_error price)
 rename_i priceId s₁ price
 cases rank:planRank target with
 | none =>
  have sold:lookupKeyFor target on.currency=none:=by
   cases target <;> simp_all[planRank,lookupKeyFor,purchasablePlans]
  simp[authorisedPrice,sold] at price
 | some wanted =>
  cases rank':planRank on.planCode with
  | none =>
   have unsold:on.planCode=.discovery:=by
    cases plan:on.planCode <;> simp_all[planRank]
   obtain ⟨rfl,plan,-,-⟩:=changeable_ok found
   unfold changeable at found
   simp[billingAction,plan,unsold,purchasablePlans] at found
   split at found <;> cases found
  | some current =>
   simp only[rank,rank'] at h
   split at h
   · exact .upgraded on found new other priceId s₁ price wanted current rank rank' ‹_› h
   · exact .downgraded on found new other priceId s₁ price wanted current rank rank' ‹_› h

lemma committed_error {α:Type}{a:Except PlanChangeError α}{e:PlanChangeError}
 {written:α→StoredSubscription}(h:a=.error e):committed row a written=row:=by
 rw[h,committed]

lemma writeUpgrade_ok {on:Changeable}{target:PlanCode}{now:ℕ}
 {state:StripeSubscriptionState}{row:StoredSubscription}{outcome:PlanChangeOutcome}
 (active:on.row.status=.active)
 (h:writeUpgrade on target now livemode state=.ok (row,outcome)) :
 row.scheduledPlanCode=none ∧ row.stripeSubscriptionId=on.row.stripeSubscriptionId ∧
  row.planChangeSequence=on.row.planChangeSequence+1:=by
 unfold writeUpgrade at h
 split at h
 · cases h
 · rename_i synced action made
   obtain ⟨same,rfl⟩:=synchronizeSubscription_open (StoredSubscription.isOpen_of_active active) made
   cases h
   refine ⟨rfl,?_,?_⟩
   · by_cases stale:isStale on.row (some now)=true
     · simp[clearScheduled,syncedRow,stale]
     · simp[clearScheduled,syncedRow,stale,updateRow,synchronized,same]
   · by_cases stale:isStale on.row (some now)=true
     · simp[clearScheduled,syncedRow,stale]
     · simp[clearScheduled,syncedRow,stale,updateRow]

end
end Kivou.PlanChange
