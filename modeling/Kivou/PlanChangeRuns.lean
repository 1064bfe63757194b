import Mathlib.Data.Finset.Basic
import Kivou.PlanChange
import Kivou.Runs
import Kivou.Texts

set_option autoImplicit false

/-! One subscription, one request at a time. Stripe keeps the subscription, the price of its
upcoming phase and its first answer to each idempotency key. A call may fail before Stripe acts, or
after: then its answer is lost, the request raises and the row stays as it was, while Stripe's side
is done. -/
namespace Kivou.PlanChangeRuns
open BillingCatalogue BillingSubscription PlanChange

structure Prices where
 price:String→Option StripePrice
 lookupKeyOf:String→Option String
 lookupKeyOf_price:∀lookupKey found,price lookupKey=some found →
  lookupKeyOf found.priceId=some lookupKey

inductive StoredReply where
 | changed (state:StripeSubscriptionState)
 | refused
 | scheduled (change:Option StripeScheduledChange)

/-- `pending` is the price of the upcoming phase. `billed` is the history of
the keys under which a proration was billed, `tried` counts payments tried. -/
structure Stripe where
 object:StripeSubscriptionState
 pending:Option String
 stored:List (String × StoredReply)
 billed:List String
 tried:ℕ

def reply (s:Stripe)(key:String):Option StoredReply:=
 (s.stored.find? (fun entry=>entry.1==key)).map Prod.snd

inductive Fate where
 | unreached | lost | delivered
 deriving DecidableEq

/-- What becomes of the calls of one operation: whether the price is found out,
and the rest. `change.2` is the subscription after a paid price change, none if
the card is refused; `schedule.2` reports the schedule Stripe has set. -/
structure Fates where
 price:Bool
 release:Fate
 change:Fate × Option StripeSubscriptionState
 schedule:Fate × Option StripeScheduledChange

def deliver {α:Type}(fate:Fate)(answer:Except GatewayError α × Stripe) :
 Except GatewayError α × Stripe:=
 if fate=.delivered then answer else (.error .unavailable,answer.2)

/-- The subscription `next` as Stripe has it: same identity, and on `priceId`. -/
def onPrice (prices:Prices)(object next:StripeSubscriptionState)(priceId:String) :
 StripeSubscriptionState:=
 {next with
   subscriptionId:=object.subscriptionId
   livemode:=object.livemode
   priceId:=some priceId
   lookupKey:=prices.lookupKeyOf priceId}

/-- `subscriptions.update` under `error_if_incomplete`: a refused card leaves
the subscription as it is. -/
def handleChange (prices:Prices)(priceId key:String)(next:Option StripeSubscriptionState)
 (s:Stripe):Except GatewayError StripeSubscriptionState × Stripe:=
 match reply s key with
 | some (.changed state)=>(.ok state,s)
 | some .refused=>(.error .planChangePaymentFailed,s)
 | some (.scheduled _)=>(.error .unavailable,s)
 | none =>
  match next with
  | none =>
   (.error .planChangePaymentFailed,
    {s with stored:=(key,.refused)::s.stored,tried:=s.tried+1})
  | some next =>
   let object:=onPrice prices s.object next priceId
   (.ok object,
    {s with
      object
      stored:=(key,.changed object)::s.stored
      billed:=key::s.billed
      tried:=s.tried+1})

/-- `subscription_schedules.update`, under the derived key. -/
def handleSchedule (priceId key:String)(change:Option StripeScheduledChange)(s:Stripe) :
 Except GatewayError (Option StripeScheduledChange) × Stripe:=
 match reply s key with
 | some (.scheduled change)=>(.ok change,s)
 | some _=>(.error .unavailable,s)
 | none =>(.ok change,{s with pending:=some priceId,stored:=(key,.scheduled change)::s.stored})

def phasesKey (key:String):String:=key++":phases"

def gateway (prices:Prices)(fates:Fates):Gateway Stripe where
 priceForLookupKey lookupKey s:=
  if fates.price then (.ok (prices.price lookupKey),s) else (.error .unavailable,s)
 changeSubscriptionPrice _ priceId key s:=
  if fates.change.1=.unreached then (.error .unavailable,s)
  else deliver fates.change.1 (handleChange prices priceId key fates.change.2 s)
 scheduleSubscriptionPrice _ priceId key s:=
  if fates.schedule.1=.unreached then (.error .unavailable,s)
  else deliver fates.schedule.1 (handleSchedule priceId (phasesKey key) fates.schedule.2 s)
 releasePendingPlanChange _ s:=
  if fates.release=.unreached then (.error .unavailable,s)
  else deliver fates.release (.ok (),{s with pending:=none})

/-- The idempotency key that a request for `target` will use, if any. -/
def requestKey (customerId:Option String)(target:PlanCode)(row:Option StoredSubscription) :
 Option String:=
 match changeable row customerId with
 | .error _=>none
 | .ok on =>
  if on.row.scheduledPlanCode=some target ∨ target=on.planCode then none
  else
   match planRank target,planRank on.planCode with
   | some wanted,some current =>
    some (idempotencyKey (if current<wanted then .change else .schedule)
     on.row.stripeSubscriptionId on.planCode target on.currency on.row.planChangeSequence)
   | _,_=>none

/-- `committedKeys` is the history of the keys of requests that committed. -/
structure System where
 row:Option StoredSubscription
 stripe:Stripe
 committedKeys:List String

/-- A synchronisation reads the subscription as it is by then: `next`, on the
price of the upcoming phase if Stripe has `performed` the switch. -/
inductive Step where
 | request (target:PlanCode)(now:ℕ)(fates:Fates)
 | cancel (now:ℕ)(fates:Fates)
 | synchronize (next:StripeSubscriptionState)(performed:Bool)(eventCreatedAt:Option ℕ) (now:ℕ)

def moveOn (prices:Prices)(next:StripeSubscriptionState)(performed:Bool)(s:Stripe) :
 Stripe:=
 if s.object.status.isOpen then
  match performed,s.pending with
  | true,some priceId =>{s with object:=onPrice prices s.object next priceId,pending:=none}
  | _,_ =>
   {s with
     object:={next with
      subscriptionId:=s.object.subscriptionId
      livemode:=s.object.livemode}
     pending:=if next.status.isOpen then s.pending else none}
 else s

section
variable (prices:Prices)(customerId:Option String)(livemode:Bool)

def start (object:StripeSubscriptionState):System:=⟨none,⟨{object with livemode},none,[],[],0⟩,[]⟩

def answer (st:System)(target:PlanCode)(now:ℕ)(fates:Fates):Answer × Stripe:=
 requestPlanChange (gateway prices fates) customerId target now livemode st.row st.stripe

def step (st:System):Step→System
 | .request target now fates =>
  let (answer,stripe):=answer prices customerId livemode st target now fates
  { row:=committed st.row answer Prod.fst
    stripe
    committedKeys:=
     match answer with
     | .ok _=>(requestKey customerId target st.row).toList++st.committedKeys
     | .error _=>st.committedKeys}
 | .cancel now fates =>
  let (answer,stripe):=cancelScheduledPlanChange (gateway prices fates) customerId now st.row
   st.stripe
  {st with row:=committed st.row answer id,stripe}
 | .synchronize next performed eventCreatedAt now =>
  let stripe:=moveOn prices next performed st.stripe
  match synchronizeSubscription stripe.object eventCreatedAt livemode now st.row with
  | .ok (row,_)=>{st with row:=some row,stripe}
  | .error _=>{st with stripe}

end

section
variable {prices:Prices}{customerId:Option String}{livemode:Bool}{st:System}
 {target:PlanCode}{now:ℕ}{fates:Fates}{a:Answer}{s':Stripe}

def OtherError (a:Answer):Prop:=∃e,a=.error e ∧ e≠.gateway .planChangePaymentFailed

/-- The row and the plans of a request that goes to Stripe with `key`. -/
structure Asked (customerId:Option String)(target:PlanCode)(st:System)(on:Changeable)
  (kind:ChangeKind)(key:String):Prop where
 found:changeable st.row customerId=.ok on
 new:on.row.scheduledPlanCode≠some target
 other:target≠on.planCode
 key_eq:key=idempotencyKey kind on.row.stripeSubscriptionId on.planCode target on.currency
  on.row.planChangeSequence
 requestKey_eq:requestKey customerId target st.row=some key
 higher:∃wanted current,planRank target=some wanted ∧ planRank on.planCode=some current ∧
  (kind=.change ↔ current<wanted)

def IsPrice (prices:Prices)(plan:PlanCode)(currency:Currency)(priceId:String):Prop:=
 ∃lookupKey price,lookupKeyFor plan currency=some lookupKey ∧
  prices.price lookupKey=some price ∧ price.priceId=priceId

def settled {α:Type}(write:α→Answer)(fate:Fate)(r:Except GatewayError α):Answer:=
 if fate=.delivered then
  match r with
  | .error e=>.error (.gateway e)
  | .ok a=>write a
 else .error (.gateway .unavailable)

def released (on:Changeable)(s s₁:Stripe):Prop:=
 s₁=s ∨ (on.row.scheduledPlanCode.isSome ∧ s₁={s with pending:=none})

inductive RequestResult (prices:Prices)(customerId:Option String)(livemode:Bool)
  (st:System)(target:PlanCode)(now:ℕ)(fates:Fates)(a:Answer)(s':Stripe) :
  Prop where
 | idle (kept:s'=st.stripe)(error:OtherError a)
 | announced (on:Changeable)(found:changeable st.row customerId=.ok on)
   (same:on.row.scheduledPlanCode=some target)
   (repeated:a=.ok (on.row,⟨.scheduled,target,on.row.scheduledPlanChangeAt⟩))
   (kept:s'=st.stripe)
 | stopped (on:Changeable)(key:String)(asked:Asked customerId target st on .change key)
   (before:released on st.stripe s')(error:OtherError a)
 | changed (on:Changeable)(key:String)(asked:Asked customerId target st on .change key)
   (known:fates.price=true)(priceId:String)(price:IsPrice prices target on.currency priceId)
   (s₁:Stripe)(before:released on st.stripe s₁)
   (stripe:s'=(handleChange prices priceId key fates.change.2 s₁).2)
   (replied:a=settled (writeUpgrade on target now livemode) fates.change.1
    (handleChange prices priceId key fates.change.2 s₁).1)
 | scheduled (on:Changeable)(key:String)(asked:Asked customerId target st on .schedule key)
   (priceId:String)(price:IsPrice prices target on.currency priceId)
   (stripe:s'=(handleSchedule priceId (phasesKey key) fates.schedule.2 st.stripe).2)
   (replied:a=settled (writeDowngrade on target now) fates.schedule.1
    (handleSchedule priceId (phasesKey key) fates.schedule.2 st.stripe).1)

lemma authorisedPrice_ok {currency:Currency}{s s₁:Stripe}{priceId:String}
 (h:authorisedPrice (gateway prices fates) target currency s=(.ok priceId,s₁)) :
 s₁=s ∧ fates.price=true ∧ IsPrice prices target currency priceId:=by
 unfold authorisedPrice at h
 split at h
 · cases h
 rename_i lookupKey sold
 by_cases known:fates.price=true
 · simp only[gateway,known,↓reduceIte] at h
   split at h
   · cases h
   · rename_i price found
     obtain ⟨active,-⟩:=Option.filter_eq_some_iff.mp found
     cases h
     exact ⟨rfl,known,lookupKey,price,sold,active,rfl⟩
 · simp[gateway,known] at h

lemma asked_of_cases {on:Changeable}(found:changeable st.row customerId=.ok on)
 (new:on.row.scheduledPlanCode≠some target)(other:target≠on.planCode)
 {wanted current:ℕ}(rank:planRank target=some wanted)
 (rank':planRank on.planCode=some current){kind:ChangeKind}
 (higher:kind=.change ↔ current<wanted) :
 Asked customerId target st on kind (idempotencyKey kind on.row.stripeSubscriptionId on.planCode
  target on.currency on.row.planChangeSequence):=by
 refine ⟨found,new,other,rfl,?_,wanted,current,rank,rank',higher⟩
 have kind_eq:(if current<wanted then ChangeKind.change else .schedule)=kind:=by
  by_cases up:current<wanted
  · rw[if_pos up,higher.mpr up]
  · rw[if_neg up]
    cases kind with
    | change=>exact absurd (higher.mp rfl) up
    | schedule=>rfl
 simp[requestKey,found,new,other,rank,rank',kind_eq]

lemma settle_deliver {α:Type}(write:α→Answer)(fate:Fate) (r:Except GatewayError α × Stripe) :
 settle write (deliver fate r)=(settled write fate r.1,r.2):=by
 obtain ⟨r,s⟩:=r
 by_cases delivered:fate=.delivered
 · cases r <;> simp[deliver,settle,settled,delivered]
 · simp[deliver,settle,settled,delivered]

lemma otherError_gateway:OtherError (.error (.gateway .unavailable)):=⟨_,rfl,by simp⟩

lemma answer_cases (h:answer prices customerId livemode st target now fates=(a,s')) :
 RequestResult prices customerId livemode st target now fates a s':=by
 cases requestPlanChange_cases h with
 | refused e error kept =>
  rcases kept with ⟨kept,other⟩|⟨lookupKey,kept,price⟩
  · exact .idle kept ⟨e,error,other _⟩
  · refine .idle ?_ ⟨e,error,fun paid=>?_⟩
    · rw[kept,gateway]
      split <;> rfl
    · have failed:=price _ paid
      dsimp only[gateway] at failed
      split at failed <;> cases failed
 | announced on found same repeated kept=>exact .announced on found same repeated kept
 | upgraded on found new other priceId s₁ price wanted current rank rank' higher made =>
  obtain ⟨rfl,known,isPrice⟩:=authorisedPrice_ok price
  have asked:Asked customerId target st on .change _:=
   asked_of_cases found new other rank rank' (by simp[higher])
  have before:∀result,(if on.row.scheduledPlanCode.isSome then
    (gateway prices fates).releasePendingPlanChange on.row.stripeSubscriptionId st.stripe
    else (.ok (),st.stripe))=result →
    released on st.stripe result.2 ∧ ∀e,result.1=.error e→e=.unavailable:=by
   rintro result rfl
   split
   · rename_i scheduled
     by_cases reached:fates.release=.unreached
     · simp[gateway,reached,released]
     · by_cases delivered:fates.release=.delivered
       · simp[gateway,deliver,delivered,released,scheduled]
       · simp[gateway,deliver,reached,delivered,released,scheduled]
   · simp[released]
  unfold upgrade at made
  dsimp only at made
  split at made
  · rename_i e s₁ failed
    obtain ⟨rfl,rfl⟩:=Prod.mk.inj made
    obtain ⟨gone,only⟩:=before _ failed
    rw[only e rfl]
    exact .stopped on _ asked gone otherError_gateway
  · rename_i s₁ passed
    obtain ⟨gone,-⟩:=before _ passed
    by_cases reached:fates.change.1=.unreached
    · simp only[gateway,reached,↓reduceIte,settle] at made
      obtain ⟨rfl,rfl⟩:=Prod.mk.inj made
      exact .stopped on _ asked gone otherError_gateway
    · simp only[gateway,reached,↓reduceIte,settle_deliver] at made
      obtain ⟨rfl,rfl⟩:=Prod.mk.inj made
      exact .changed on _ asked known priceId isPrice s₁ gone rfl rfl
 | downgraded on found new other priceId s₁ price wanted current rank rank' lower made =>
  obtain ⟨rfl,-,isPrice⟩:=authorisedPrice_ok price
  have asked:Asked customerId target st on .schedule _:=
   asked_of_cases found new other rank rank' (by simp[lower])
  unfold downgrade at made
  by_cases reached:fates.schedule.1=.unreached
  · simp only[gateway,reached,↓reduceIte,settle] at made
    obtain ⟨rfl,rfl⟩:=Prod.mk.inj made
    exact .idle rfl otherError_gateway
  · simp only[gateway,reached,↓reduceIte,settle_deliver] at made
    obtain ⟨rfl,rfl⟩:=Prod.mk.inj made
    exact .scheduled on _ asked priceId isPrice rfl rfl

lemma settled_ok {α:Type}{write:α→Answer}{fate:Fate}{r:Except GatewayError α}
 {row:StoredSubscription}{outcome:PlanChangeOutcome}
 (h:settled write fate r=.ok (row,outcome)) :
 ∃value,r=.ok value ∧ write value=.ok (row,outcome):=by
 unfold settled at h
 split at h
 · cases r with
   | error e=>cases h
   | ok value=>exact ⟨value,rfl,h⟩
 · cases h

lemma object_handleChange (prices:Prices)(priceId key:String)(next:Option StripeSubscriptionState)
 (s:Stripe) :
 (handleChange prices priceId key next s).2.object.subscriptionId=s.object.subscriptionId ∧
  (handleChange prices priceId key next s).2.object.livemode=s.object.livemode:=by
 unfold handleChange
 split
 · exact ⟨rfl,rfl⟩
 · exact ⟨rfl,rfl⟩
 · exact ⟨rfl,rfl⟩
 · split <;> exact ⟨rfl,rfl⟩

lemma object_handleSchedule (priceId key:String)(change:Option StripeScheduledChange)
 (s:Stripe):(handleSchedule priceId key change s).2.object=s.object:=by
 unfold handleSchedule
 split <;> rfl

lemma object_moveOn (prices:Prices)(next:StripeSubscriptionState)(performed:Bool) (s:Stripe) :
 (moveOn prices next performed s).object.subscriptionId=s.object.subscriptionId ∧
  (moveOn prices next performed s).object.livemode=s.object.livemode:=by
 unfold moveOn
 split
 · split <;> exact ⟨rfl,rfl⟩
 · exact ⟨rfl,rfl⟩

structure Own (livemode:Bool)(st:System):Prop where
 own:∀row,st.row=some row → row.stripeSubscriptionId=st.stripe.object.subscriptionId
 mode:st.stripe.object.livemode=livemode

lemma own_start (object:StripeSubscriptionState):Own livemode (start livemode object):=
 ⟨fun _ h=>(by cases h),rfl⟩

lemma released_kept {on:Changeable}{s s₁:Stripe}(h:released on s s₁) :
 s₁.object=s.object ∧ s₁.stored=s.stored ∧ s₁.billed=s.billed ∧ s₁.tried=s.tried:=by
 rcases h with rfl|⟨-,rfl⟩ <;> exact ⟨rfl,rfl,rfl,rfl⟩

lemma object_answer (h:answer prices customerId livemode st target now fates=(a,s')) :
 s'.object.subscriptionId=st.stripe.object.subscriptionId ∧
  s'.object.livemode=st.stripe.object.livemode:=by
 cases answer_cases h with
 | idle kept _=>simp[kept]
 | announced on _ _ _ kept=>simp[kept]
 | stopped on key asked before error=>simp[(released_kept before).1]
 | changed on key asked known priceId price s₁ before stripe replied =>
  have object:=object_handleChange prices priceId key fates.change.2 s₁
  rw[(released_kept before).1] at object
  rw[stripe]
  exact object
 | scheduled on key asked priceId price stripe replied =>simp[stripe,object_handleSchedule]

lemma committed_answer (h:answer prices customerId livemode st target now fates=(a,s')) :
 (committed st.row a Prod.fst=st.row ∧
  (a.toOption.isSome → requestKey customerId target st.row=none)) ∨
 ∃on kind key row outcome,Asked customerId target st on kind key ∧ a=.ok (row,outcome) ∧
  row.stripeSubscriptionId=on.row.stripeSubscriptionId ∧
  row.planChangeSequence=on.row.planChangeSequence+1:=by
 cases a with
 | error e=>exact .inl ⟨committed_error rfl,fun ok=>(by cases ok)⟩
 | ok written =>
  obtain ⟨row,outcome⟩:=written
  cases answer_cases h with
  | idle _ error =>
   obtain ⟨e,error,-⟩:=error
   cases error
  | announced on found same repeated kept =>
   left
   cases repeated
   refine ⟨(changeable_ok found).1.symm,fun _=>?_⟩
   simp[requestKey,found,same]
  | stopped on key asked before error =>
   obtain ⟨e,error,-⟩:=error
   cases error
  | changed on key asked known priceId price s₁ before stripe replied =>
   obtain ⟨state,-,made⟩:=settled_ok replied.symm
   have written:=writeUpgrade_ok (changeable_ok asked.found).2.2.2 made
   exact .inr ⟨on,.change,key,row,outcome,asked,rfl,written.2⟩
  | scheduled on key asked priceId price stripe replied =>
   obtain ⟨scheduled,-,made⟩:=settled_ok replied.symm
   simp only[writeDowngrade,Except.ok.injEq,Prod.mk.injEq] at made
   obtain ⟨rfl,rfl⟩:=made
   exact .inr ⟨on,.schedule,key,_,_,asked,rfl,rfl,rfl⟩

lemma keys_request (h:answer prices customerId livemode st target now fates=(a,s')) :
 (step prices customerId livemode st (.request target now fates)).committedKeys =
  if a.toOption.isSome then (requestKey customerId target st.row).toList++st.committedKeys
  else st.committedKeys:=by
 simp only[step,h]
 cases a with
 | error e=>rfl
 | ok written=>rfl

lemma row_request (h:answer prices customerId livemode st target now fates=(a,s')) :
 (step prices customerId livemode st (.request target now fates)).row =
  committed st.row a Prod.fst:=by
 simp only[step,h]

variable (prices customerId livemode) in
lemma row_cancel (st:System)(now:ℕ)(fates:Fates) :
 ((step prices customerId livemode st (.cancel now fates)).row=st.row ∨
   ∃row,st.row=some row ∧ (step prices customerId livemode st (.cancel now fates)).row =
     some (clearScheduled row now)) ∧
  ∃pending,(step prices customerId livemode st (.cancel now fates)).stripe =
   {st.stripe with pending}:=by
 unfold step cancelScheduledPlanChange
 cases found:changeable st.row customerId with
 | error e=>exact ⟨.inl rfl,st.stripe.pending,rfl⟩
 | ok on =>
  have row:=(changeable_ok found).1
  by_cases unannounced:on.row.scheduledPlanCode=none
  · simp only[unannounced,↓reduceIte]
    exact ⟨.inl rfl,st.stripe.pending,rfl⟩
  · cases fate:fates.release with
    | unreached =>
     simp only[unannounced,↓reduceIte,gateway,fate]
     exact ⟨.inl rfl,st.stripe.pending,rfl⟩
    | lost =>
     simp only[unannounced,↓reduceIte,gateway,fate,deliver]
     exact ⟨.inl rfl,none,rfl⟩
    | delivered =>
     simp only[unannounced,↓reduceIte,gateway,fate,deliver]
     exact ⟨.inr ⟨on.row,row,rfl⟩,none,rfl⟩

variable (prices) in
lemma Own.moveOn (h:Own livemode st)(next:StripeSubscriptionState)(performed:Bool) :
 (moveOn prices next performed st.stripe).object.livemode=livemode ∧
  ∀row,st.row=some row → row.stripeSubscriptionId =
   (moveOn prices next performed st.stripe).object.subscriptionId:=by
 obtain ⟨sameId,sameMode⟩:=object_moveOn prices next performed st.stripe
 exact ⟨sameMode.trans h.mode,fun row found=>(h.own row found).trans sameId.symm⟩

lemma step_synchronize (h:Own livemode st)(next:StripeSubscriptionState)(performed:Bool)
 (eventCreatedAt:Option ℕ)(now:ℕ) :
 step prices customerId livemode st (.synchronize next performed eventCreatedAt now) =
  {st with
    row:=some (syncedRow st.row (moveOn prices next performed st.stripe).object eventCreatedAt now)
    stripe:=moveOn prices next performed st.stripe}:=by
 have moved:_ ∧ _:=h.moveOn prices next performed
 obtain ⟨action,synced⟩:∃action,synchronizeSubscription
   (moveOn prices next performed st.stripe).object eventCreatedAt livemode now st.row =
    .ok (syncedRow st.row _ eventCreatedAt now,action):=
  synchronizeSubscription_own moved.1 moved.2
 simp only[step,synced]

variable (prices customerId) in
lemma own_step (i:Step)(h:Own livemode st) : Own livemode (step prices customerId livemode st i) ∧
  (step prices customerId livemode st i).stripe.object.subscriptionId =
   st.stripe.object.subscriptionId:=by
 cases i with
 | request target now fates =>
  have asked:answer prices customerId livemode st target now fates=(_,_):=rfl
  obtain ⟨sameId,sameMode⟩:=object_answer asked
  refine ⟨⟨fun row found=>?_,sameMode.trans h.mode⟩,sameId⟩
  rcases committed_answer asked with ⟨kept,-⟩|⟨on,kind,key,row',outcome,asked,ok,same,-⟩
  · exact (h.own row (kept.symm.trans found)).trans sameId.symm
  · have written:some row'=some row:=by
     rw[←found]
     change some row'=committed st.row _ Prod.fst
     rw[ok,committed]
    obtain rfl:=Option.some.inj written
    have before:=h.own on.row (changeable_ok asked.found).1
    exact same.trans (before.trans sameId.symm)
 | cancel now fates =>
  obtain ⟨row,pending,stripe⟩:=row_cancel prices customerId livemode st now fates
  refine ⟨⟨fun row' found=>?_,by rw[stripe];exact h.mode⟩,by rw[stripe]⟩
  rw[stripe]
  rcases row with kept|⟨row,before,cleared⟩
  · exact h.own row' (kept.symm.trans found)
  · obtain rfl:=Option.mem_unique cleared found
    exact h.own row before
 | synchronize next performed eventCreatedAt now =>
  obtain ⟨mode,own⟩:=h.moveOn prices next performed
  rw[step_synchronize h]
  refine ⟨⟨?_,mode⟩,(object_moveOn prices next performed st.stripe).1⟩
  rintro row ⟨⟩
  exact syncedRow_own eventCreatedAt now own

end

def samplePrices:Prices where
 price lookupKey:=
  if lookupKey="kivou_essential_monthly_chf" then some ⟨"price_essential",true⟩
  else if lookupKey="kivou_pro_monthly_chf" then some ⟨"price_pro",true⟩
  else none
 lookupKeyOf priceId:=
  if priceId="price_essential" then some "kivou_essential_monthly_chf"
  else if priceId="price_pro" then some "kivou_pro_monthly_chf"
  else none
 lookupKeyOf_price lookupKey found h:=by
  split_ifs at h with essential pro
  · obtain rfl:=Option.some.inj h
    simp[essential]
  · obtain rfl:=Option.some.inj h
    simp[pro]

/-- The subscription `sub_1`, active on the given price. -/
def sampleObject (priceId:String):StripeSubscriptionState where
 subscriptionId:="sub_1"
 customerId:="cus_1"
 status:=.active
 priceId:=some priceId
 productId:=none
 lookupKey:=samplePrices.lookupKeyOf priceId
 currency:=some "chf"
 currentPeriodStart:=none
 currentPeriodEnd:=none
 cancelAtPeriodEnd:=false
 canceledAt:=none
 livemode:=true
 accountId:=none
 discountCouponId:=none
 scheduledCancellationAt:=none

def sampleFates (priceId:String):Fates where
 price:=true
 release:=.delivered
 change:=(.delivered,some (sampleObject priceId))
 schedule:=(.delivered,some ⟨"sub_sched_1",some 900⟩)

def sampleSync (priceId:String):Step:=.synchronize (sampleObject priceId) false (some 1) 1

def sampleRun (priceId:String)(run:List Step):System:=
 run.foldl (step samplePrices (some "cus_1") true) (start true (sampleObject priceId))

end Kivou.PlanChangeRuns
