import Mathlib.Data.Finset.Basic
import Kivou.PlanChange
import Kivou.Runs

set_option autoImplicit false

/-! `signals.billing.webhooks.handle_event` over one subscription of an account. One handling ends
before the next begins: what is any is their order, with upgrades between them. -/
namespace Kivou.WebhookOrder
open BillingCatalogue BillingSubscription PlanChange

inductive EventType where
 | checkoutSessionCompleted | checkoutSessionExpired
 | subscriptionCreated | subscriptionUpdated | subscriptionDeleted
 | invoicePaid | invoicePaymentFailed | invoicePaymentActionRequired
 | other (name:String)
 deriving DecidableEq

def handledEventTypes:List EventType:=
 [.checkoutSessionCompleted,.subscriptionCreated,.subscriptionUpdated,.subscriptionDeleted,
  .invoicePaid,.invoicePaymentFailed,.checkoutSessionExpired]

def acknowledgedEventTypes:List EventType:=[.invoicePaymentActionRequired]

structure StripeEvent where
 eventId:ℕ
 eventType:EventType
 created:ℕ
 livemode:Bool
 (subscriptionId accountReference:Option String)

inductive ProcessingResult where
 | applied | ignored | unhandled | rejected | conflict

/-- `billing_subscription` by account, and `stripe_webhook_event`. -/
structure Db where
 rows:String→Option StoredSubscription
 processed:List (ℕ × ProcessingResult)

def setRow (db:Db)(accountId:String)(row:Option StoredSubscription):Db:=
 {db with rows:=Function.update db.rows accountId row}

def alreadyProcessed (db:Db)(eventId:ℕ):Bool:=db.processed.any (·.1==eventId)

def record (db:Db)(event:StripeEvent)(result:ProcessingResult):Db:=
 {db with processed:=(event.eventId,result)::db.processed}

/-- `_account_for_subscription`; an empty account id counts as none. -/
def accountForSubscription (accountOfCustomer:String→Option String)(event:StripeEvent)
 (state:StripeSubscriptionState):Option String:=
 (state.accountId.filter (· ≠ "")).or
  ((event.accountReference.filter (· ≠ "")).or (accountOfCustomer state.customerId))

def recordSynced (db:Db)(event:StripeEvent)(accountId:String) :
 Except SyncError (StoredSubscription × SyncAction)→Db
 | .error .stripeModeMismatch=>record db event .rejected
 | .error (.subscriptionConflict _ _)=>record db event .conflict
 | .ok (stored,action) =>
  record (setRow db accountId (some stored)) event
   (if action=.staleEventIgnored then .ignored else .applied)

/-- The part of `handle_event` that starts from the object read at Stripe. -/
def applyEvent (accountOfCustomer:String→Option String)(expectLivemode:Bool)(now:ℕ)
 (event:StripeEvent)(db:Db)(state:StripeSubscriptionState):Db:=
 match accountForSubscription accountOfCustomer event state with
 | none=>record db event .ignored
 | some accountId =>
  recordSynced db event accountId
   (synchronizeSubscription state (some event.created) expectLivemode now (db.rows accountId))

def handleEvent (fetchSubscription:String→Option StripeSubscriptionState)
 (accountOfCustomer:String→Option String)(expectLivemode:Bool)(now:ℕ)
 (event:StripeEvent)(db:Db):Db:=
 if alreadyProcessed db event.eventId then db
 else if event.livemode≠expectLivemode then record db event .rejected
 else if event.eventType∈acknowledgedEventTypes then record db event .ignored
 else if event.eventType∉handledEventTypes then record db event .unhandled
 else if event.eventType=.checkoutSessionExpired then record db event .ignored
 else
  match event.subscriptionId.bind fetchSubscription with
  | none=>record db event .ignored
  | some state=>applyEvent accountOfCustomer expectLivemode now event db state

def wholeSecond (t:ℕ):ℕ:=t/1000000*1000000

structure Stripe where
 clock:ℕ
 object:StripeSubscriptionState
 emitted:List StripeEvent

def emit (s:Stripe)(eventType:EventType):Stripe:=
 {s with
   emitted:=s.emitted ++
    [{ eventId:=s.emitted.length
       eventType
       created:=wholeSecond s.clock
       livemode:=s.object.livemode
       subscriptionId:=some s.object.subscriptionId
       accountReference:=none}]}

def wait (s:Stripe)(elapsed:ℕ):Stripe:={s with clock:=s.clock+elapsed}

def change (s:Stripe)(eventType:EventType)(next:StripeSubscriptionState):Stripe:=
 emit {s with
  object:={next with
   subscriptionId:=s.object.subscriptionId
   customerId:=s.object.customerId
   accountId:=s.object.accountId
   livemode:=s.object.livemode}} eventType

def fetchSubscription (s:Stripe)(subscriptionId:String):Option StripeSubscriptionState:=
 if subscriptionId=s.object.subscriptionId then some s.object else none

/-- What Stripe does with the calls of one plan change. A price change that
takes effect is a change of the object `elapsed` after the request. -/
structure Replies where
 price:Except GatewayError (Option StripePrice)
 release:Except GatewayError Unit
 change:Except GatewayError (ℕ × StripeSubscriptionState)
 schedule:Except GatewayError (Option StripeScheduledChange)

def gateway (replies:Replies):Gateway Stripe where
 priceForLookupKey _ s:=(replies.price,s)
 releasePendingPlanChange _ s:=(replies.release,s)
 scheduleSubscriptionPrice _ _ _ s:=(replies.schedule,s)
 changeSubscriptionPrice _ _ _ s:=
  match replies.change with
  | .error e=>(.error e,s)
  | .ok (elapsed,next) =>
   let s:=change (wait s elapsed) .subscriptionUpdated next
   (.ok s.object,s)

structure System where
 stripe:Stripe
 db:Db

inductive Step where
 | change (elapsed:ℕ)(deleted:Bool)(next:StripeSubscriptionState)
 | invoice (elapsed:ℕ)(eventType:EventType)
 | deliver (elapsed:ℕ)(event:ℕ)
 | requestPlanChange (elapsed:ℕ)(target:PlanCode)(replies:Replies)

section
variable (accountId:String)(accountOfCustomer:String→Option String)
 (customerId:Option String)(livemode:Bool)

/-- The subscription right after checkout: Stripe carries the account in its
metadata and has emitted one event, and the account has no row yet. -/
def start (clock:ℕ)(object:StripeSubscriptionState):System where
 stripe:=emit {clock,object:={object with accountId:=some accountId,livemode},emitted:=[]}
  .subscriptionCreated
 db:=⟨fun _=>none,[]⟩

def step (st:System):Step→System
 | .change elapsed deleted next =>
  {st with
    stripe:=change (wait st.stripe elapsed)
     (if deleted then .subscriptionDeleted else .subscriptionUpdated) next}
 | .invoice elapsed eventType=>{st with stripe:=emit (wait st.stripe elapsed) eventType}
 | .deliver elapsed event =>
  let stripe:=wait st.stripe elapsed
  match stripe.emitted[event]? with
  | none=>{st with stripe}
  | some event =>
   ⟨stripe,handleEvent (fetchSubscription stripe) accountOfCustomer livemode stripe.clock event
    st.db⟩
 | .requestPlanChange elapsed target replies =>
  let now:=st.stripe.clock+elapsed
  let (answer,stripe):=requestPlanChange (gateway replies) customerId target now livemode
   (st.db.rows accountId) (wait st.stripe elapsed)
  ⟨stripe,setRow st.db accountId (committed (st.db.rows accountId) answer Prod.fst)⟩

end

def Quiescent (st:System):Prop:=∀event∈st.stripe.emitted,alreadyProcessed st.db event.eventId=true

def InStep (accountId:String)(st:System):Prop:=
 ∃row,st.db.rows accountId=some row ∧ row.toSynchronized=synchronized st.stripe.object

def watermark (accountId:String)(st:System):Option ℕ:=
 (st.db.rows accountId).bind (·.lastStripeEventCreatedAt)

def Ahead (accountId:String)(st:System):Step→Prop
 | .change elapsed _ _ =>
  ∀previous∈watermark accountId st,previous≤wholeSecond (st.stripe.clock+elapsed)
 | _=>True

instance (accountId:String)(st:System):∀i,Decidable (Ahead accountId st i)
 | .change elapsed _ _=>inferInstanceAs (Decidable (∀previous∈watermark accountId st,
   previous≤wholeSecond (st.stripe.clock+elapsed)))
 | .invoice _ _=>.isTrue trivial
 | .deliver _ _=>.isTrue trivial
 | .requestPlanChange _ _ _=>.isTrue trivial

def EventType.synchronises (t:EventType):Prop:=
 t∈handledEventTypes ∧ t∉acknowledgedEventTypes ∧ t≠.checkoutSessionExpired

structure Own (accountId:String)(livemode:Bool)(s:Stripe)
  (existing:Option StoredSubscription):Prop where
 account:s.object.accountId=some accountId
 mode:s.object.livemode=livemode
 named:accountId≠""
 row:∀row,existing=some row → row.stripeSubscriptionId=s.object.subscriptionId

section
variable {accountId:String}{livemode:Bool}{s:Stripe}{db:Db}{event:StripeEvent}
 {accountOfCustomer:String→Option String}{now:ℕ}

lemma handleEvent_duplicate (seen:alreadyProcessed db event.eventId=true) :
 handleEvent (fetchSubscription s) accountOfCustomer livemode now event db=db:=by
 simp[handleEvent,seen]

lemma handleEvent_passive (new:alreadyProcessed db event.eventId=false)
 (mode:event.livemode=livemode)(passive:¬event.eventType.synchronises) :
 ∃result,handleEvent (fetchSubscription s) accountOfCustomer livemode now event db =
  record db event result:=by
 unfold handleEvent
 by_cases ack:event.eventType∈acknowledgedEventTypes
 · exact ⟨.ignored,by simp[new,mode,ack]⟩
 · by_cases handled:event.eventType∈handledEventTypes
   · have expired:event.eventType=.checkoutSessionExpired:=by
      by_contra other
      exact passive ⟨handled,ack,other⟩
     exact ⟨.ignored,by simp[new,mode,expired,handledEventTypes,acknowledgedEventTypes]⟩
   · exact ⟨.unhandled,by simp[new,mode,ack,handled]⟩

lemma handleEvent_synchronises (own:Own accountId livemode s (db.rows accountId))
 (new:alreadyProcessed db event.eventId=false)(mode:event.livemode=livemode)
 (about:event.subscriptionId=some s.object.subscriptionId)
 (active:event.eventType.synchronises) :
 ∃result,handleEvent (fetchSubscription s) accountOfCustomer livemode now event db =
  record (setRow db accountId
   (some (syncedRow (db.rows accountId) s.object (some event.created) now))) event result:=by
 obtain ⟨handled,ack,expired⟩:=active
 have account:accountForSubscription accountOfCustomer event s.object=some accountId:=by
  simp[accountForSubscription,own.account,own.named]
 obtain ⟨action,synced⟩:∃action,synchronizeSubscription s.object (some event.created) livemode
   now (db.rows accountId) =
    .ok (syncedRow (db.rows accountId) s.object (some event.created) now,action):=
  synchronizeSubscription_own own.mode own.row
 refine ⟨if action=.staleEventIgnored then .ignored else .applied,?_⟩
 have fetched:event.subscriptionId.bind (fetchSubscription s)=some s.object:=by
  simp[about,fetchSubscription]
 rw[handleEvent,if_neg (by simp[new]),if_neg (by simp[mode]),if_neg ack,
  if_neg (not_not.mpr handled),if_neg expired,fetched]
 simp only[applyEvent,account,synced,recordSynced]

@[simp] lemma rows_setRow_self (db:Db)(accountId:String)(row:Option StoredSubscription) :
 (setRow db accountId row).rows accountId=row:=Function.update_self ..

lemma setRow_self (db:Db)(accountId:String) : setRow db accountId (db.rows accountId)=db:=by
 rw[setRow,Function.update_eq_self]

lemma alreadyProcessed_record (db:Db)(event:StripeEvent)(result:ProcessingResult) (eventId:ℕ) :
 alreadyProcessed (record db event result) eventId=true ↔
  eventId=event.eventId ∨ alreadyProcessed db eventId=true:=by
 simp only[alreadyProcessed,record,List.any_cons,Bool.or_eq_true,beq_iff_eq]
 exact or_congr_left eq_comm

end

section
variable (accountId:String)(accountOfCustomer:String→Option String)
 (customerId:Option String)(livemode:Bool)

/-- Events are numbered as they are emitted, lie in the past and are about the
account's subscription. -/
structure Emitted (st:System):Prop where
 numbered:∀ (i:ℕ)(event:StripeEvent),st.stripe.emitted[i]?=some event→event.eventId=i
 past:∀event∈st.stripe.emitted,event.created ≤ st.stripe.clock
 mode:∀event∈st.stripe.emitted,event.livemode=livemode
 about:∀event∈st.stripe.emitted,event.subscriptionId=some st.stripe.object.subscriptionId
 known:∀p∈st.db.processed,p.1<st.stripe.emitted.length

def Watermarked (st:System):Prop:=∀row,st.db.rows accountId=some row →
  ∃previous,row.lastStripeEventCreatedAt=some previous ∧ previous ≤ st.stripe.clock

def Waiting (st:System):Prop:=∃event∈st.stripe.emitted,alreadyProcessed st.db event.eventId=false ∧
  event.eventType.synchronises ∧ ∀row,st.db.rows accountId=some row →
   ∀previous,row.lastStripeEventCreatedAt=some previous→previous≤event.created

structure Sound (st:System):Prop where
 own:Own accountId livemode st.stripe (st.db.rows accountId)
 emitted:Emitted livemode st
 watermarked:Watermarked accountId st
 pending:InStep accountId st ∨ Waiting accountId st

end

lemma wholeSecond_le (t:ℕ):wholeSecond t≤t:=Nat.div_mul_le_self _ _

section
variable {accountId:String}{accountOfCustomer:String→Option String}
 {customerId:Option String}{livemode:Bool}

variable {st:System}{s:Stripe}{event:StripeEvent}

lemma Sound.quiescent_inStep (h:Sound accountId livemode st)
 (quiet:Quiescent st):InStep accountId st:=by
 rcases h.pending with inStep|⟨event,he,unprocessed,-⟩
 · exact inStep
 · rw[quiet event he] at unprocessed
   cases unprocessed

lemma Emitted.emit (h:Emitted livemode st)(eventType:EventType)
 (later:st.stripe.clock ≤ s.clock)(emitted:s.emitted=st.stripe.emitted)
 (mode:s.object.livemode=livemode)
 (same:s.object.subscriptionId=st.stripe.object.subscriptionId) :
 Emitted livemode ⟨emit s eventType,st.db⟩:=by
 have cases':∀event∈(WebhookOrder.emit s eventType).emitted,
   event∈st.stripe.emitted ∨ (event.created=wholeSecond s.clock ∧ event.livemode=s.object.livemode ∧
    event.subscriptionId=some s.object.subscriptionId):=by
  intro event he
  simp only[WebhookOrder.emit,emitted,List.mem_append,List.mem_singleton] at he
  rcases he with old|rfl
  · exact .inl old
  · exact .inr ⟨rfl,rfl,rfl⟩
 refine ⟨?_,?_,?_,?_,?_⟩
 · intro i event he
   simp only[WebhookOrder.emit,emitted,List.getElem?_append] at he
   split at he
   · exact h.numbered i event he
   · obtain ⟨hi,rfl⟩:=List.getElem?_eq_some_iff.mp he
     simp only[List.length_singleton] at hi
     simp only[List.getElem_singleton]
     omega
 · intro event he
   rcases cases' event he with old|⟨created,-⟩
   · exact (h.past event old).trans later
   · exact created.le.trans (wholeSecond_le s.clock)
 · intro event he
   rcases cases' event he with old|⟨-,stamped,-⟩
   · exact h.mode event old
   · exact stamped.trans mode
 · intro event he
   rcases cases' event he with old|⟨-,-,about⟩
   · exact (h.about event old).trans (congrArg some same.symm)
   · exact about
 · intro p hp
   have:=h.known p hp
   simp only[WebhookOrder.emit,emitted,List.length_append,List.length_singleton]
   omega

lemma Emitted.unprocessed (h:Emitted livemode st){eventId:ℕ}
 (new:st.stripe.emitted.length≤eventId):alreadyProcessed st.db eventId=false:=by
 rw[alreadyProcessed,List.any_eq_false]
 intro p hp same
 have:=h.known p hp
 rw[beq_iff_eq] at same
 omega

lemma Waiting.emit (h:Waiting accountId st)(eventType:EventType)
 (emitted:s.emitted=st.stripe.emitted) :
 Waiting accountId ⟨WebhookOrder.emit s eventType,st.db⟩:=by
 obtain ⟨event,he,rest⟩:=h
 exact ⟨event,by simp[WebhookOrder.emit,emitted,he],rest⟩

lemma step_change (h:Sound accountId livemode st)(elapsed:ℕ)(deleted:Bool)
 (next:StripeSubscriptionState)(ahead:Ahead accountId st (.change elapsed deleted next)) :
 Sound accountId livemode
  (step accountId accountOfCustomer customerId livemode st (.change elapsed deleted next)):=by
 have later:st.stripe.clock ≤ st.stripe.clock+elapsed:=Nat.le_add_right _ _
 refine ⟨⟨h.own.account,h.own.mode,h.own.named,h.own.row⟩,
  h.emitted.emit _ later rfl h.own.mode rfl,?_,.inr ?_⟩
 · intro row found
   obtain ⟨previous,last,le⟩:=h.watermarked row found
   exact ⟨previous,last,le.trans later⟩
 · refine ⟨_,List.mem_append_right _ (List.mem_singleton_self _),
    h.emitted.unprocessed le_rfl,?_,fun row found previous last=>?_⟩
   · cases deleted <;> simp[EventType.synchronises,handledEventTypes,acknowledgedEventTypes]
   · exact ahead previous (Option.bind_eq_some_iff.mpr ⟨row,found,last⟩)

lemma step_invoice (h:Sound accountId livemode st)(elapsed:ℕ) (eventType:EventType) :
 Sound accountId livemode
  (step accountId accountOfCustomer customerId livemode st (.invoice elapsed eventType)):=by
 have later:st.stripe.clock ≤ st.stripe.clock+elapsed:=Nat.le_add_right _ _
 refine ⟨⟨h.own.account,h.own.mode,h.own.named,h.own.row⟩,
  h.emitted.emit _ later rfl h.own.mode rfl,?_,?_⟩
 · intro row found
   obtain ⟨previous,last,le⟩:=h.watermarked row found
   exact ⟨previous,last,le.trans later⟩
 · rcases h.pending with inStep|waiting
   · exact .inl inStep
   · exact .inr (waiting.emit eventType rfl)

lemma Emitted.wait (h:Emitted livemode st)(elapsed:ℕ) :
 Emitted livemode {st with stripe:=WebhookOrder.wait st.stripe elapsed}:=
 ⟨h.numbered,fun event he=>(h.past event he).trans (Nat.le_add_right _ _),h.mode,h.about,h.known⟩

lemma Sound.wait (h:Sound accountId livemode st)(elapsed:ℕ) :
 Sound accountId livemode {st with stripe:=WebhookOrder.wait st.stripe elapsed}:=by
 refine ⟨⟨h.own.account,h.own.mode,h.own.named,h.own.row⟩,h.emitted.wait elapsed,?_,h.pending⟩
 intro row found
 obtain ⟨previous,last,le⟩:=h.watermarked row found
 exact ⟨previous,last,le.trans (Nat.le_add_right _ _)⟩

/-- Noting an event as handled, with rows `rows`. -/
lemma Emitted.record (h:Emitted livemode st)
 (he:event∈st.stripe.emitted)(rows:String→Option StoredSubscription)
 (result:ProcessingResult) :
 Emitted livemode ⟨st.stripe,WebhookOrder.record {st.db with rows} event result⟩:=by
 refine ⟨h.numbered,h.past,h.mode,h.about,fun p hp=>?_⟩
 rcases List.mem_cons.mp hp with rfl|old
 · obtain ⟨i,hi,rfl⟩:=List.mem_iff_getElem.mp he
   have same:=h.numbered i _ (List.getElem?_eq_getElem hi)
   simpa[same] using hi
 · exact h.known p old

lemma Waiting.record (h:Waiting accountId st) (result:ProcessingResult)
 (other:∀waiting∈st.stripe.emitted,waiting.eventType.synchronises →
  (∀row,st.db.rows accountId=some row →
   ∀previous,row.lastStripeEventCreatedAt=some previous→previous≤waiting.created) →
  waiting.eventId≠event.eventId) :
 Waiting accountId ⟨st.stripe,WebhookOrder.record st.db event result⟩:=by
 obtain ⟨waiting,hw,unprocessed,active,ahead⟩:=h
 refine ⟨waiting,hw,?_,active,ahead⟩
 rw[Bool.eq_false_iff,ne_eq,alreadyProcessed_record]
 rintro (same|seen)
 · exact other waiting hw active ahead same
 · rw[unprocessed] at seen
   cases seen

lemma sound_handleEvent (h:Sound accountId livemode st) (he:event∈st.stripe.emitted) :
 Sound accountId livemode ⟨st.stripe,handleEvent (fetchSubscription st.stripe) accountOfCustomer
  livemode st.stripe.clock event st.db⟩:=by
 have same:∀other∈st.stripe.emitted,other.eventId=event.eventId → other=event:=by
  intro other ho eq
  obtain ⟨i,hi,rfl⟩:=List.mem_iff_getElem.mp ho
  obtain ⟨j,hj,rfl⟩:=List.mem_iff_getElem.mp he
  have numI:=h.emitted.numbered i _ (List.getElem?_eq_getElem hi)
  have numJ:=h.emitted.numbered j _ (List.getElem?_eq_getElem hj)
  have ij:i=j:=numI.symm.trans (eq.trans numJ)
  subst ij
  rfl
 by_cases seen:alreadyProcessed st.db event.eventId=true
 · rw[handleEvent_duplicate seen]
   exact h
 rw[Bool.not_eq_true] at seen
 by_cases active:event.eventType.synchronises
 · obtain ⟨result,handled⟩:∃result,handleEvent (fetchSubscription st.stripe)
     accountOfCustomer livemode st.stripe.clock event st.db=record (setRow st.db accountId
      (some (syncedRow (st.db.rows accountId) st.stripe.object (some event.created)
       st.stripe.clock))) event result:=
    handleEvent_synchronises h.own seen (h.emitted.mode event he) (h.emitted.about event he) active
   rw[handled]
   rcases syncedRow_cases (st.db.rows accountId) st.stripe.object event.created st.stripe.clock with
    ⟨mirror,last⟩ | ⟨row,previous,found,last,stale,unchanged⟩
   · refine ⟨⟨h.own.account,h.own.mode,h.own.named,?_⟩,h.emitted.record he _ result,?_,.inl ?_⟩
     · intro row found
       simp only[record,rows_setRow_self,Option.some.injEq] at found
       subst found
       exact congrArg Synchronized.stripeSubscriptionId mirror
     · intro row found
       simp only[record,rows_setRow_self,Option.some.injEq] at found
       subst found
       exact ⟨event.created,last,h.emitted.past event he⟩
     · exact ⟨_,rows_setRow_self ..,mirror⟩
   · -- a stale event leaves the row alone; what waits is a later event
     rw[unchanged,←found,setRow_self]
     refine ⟨⟨h.own.account,h.own.mode,h.own.named,h.own.row⟩,h.emitted.record he _ result,
      h.watermarked,?_⟩
     rcases h.pending with inStep|waiting
     · exact .inl inStep
     · refine .inr (waiting.record result fun other ho _ ahead eq=>?_)
       have:=ahead row found previous last
       rw[same other ho eq] at this
       omega
 · obtain ⟨result,handled⟩:∃result,handleEvent (fetchSubscription st.stripe)
     accountOfCustomer livemode st.stripe.clock event st.db=record st.db event result:=
    handleEvent_passive seen (h.emitted.mode event he) active
   rw[handled]
   refine ⟨⟨h.own.account,h.own.mode,h.own.named,h.own.row⟩,h.emitted.record he _ result,
    h.watermarked,?_⟩
   rcases h.pending with inStep|waiting
   · exact .inl inStep
   · refine .inr (waiting.record result fun other ho synchronises _ eq=>?_)
     rw[same other ho eq] at synchronises
     exact active synchronises

lemma authorisedPrice_kept {replies:Replies}{planCode:PlanCode}{currency:Currency}
 {s₁:Stripe}{price:Except PlanChangeError String}
 (h:authorisedPrice (gateway replies) planCode currency s=(price,s₁)):s₁=s:=by
 unfold authorisedPrice gateway at h
 split at h
 · exact (Prod.mk.inj h).2.symm
 · split at h
   · rename_i called
     rw[←(Prod.mk.inj h).2,←(Prod.mk.inj called).2]
   · rename_i called
     split at h <;> rw[←(Prod.mk.inj h).2,←(Prod.mk.inj called).2]

lemma upgrade_cases {replies:Replies}{on:Changeable}{target:PlanCode}{priceId:String}
 {now:ℕ}{s':Stripe}{answer:Answer}(own:Own accountId livemode s (some on.row))
 (h:upgrade (gateway replies) on target priceId now livemode s=(answer,s')) :
 (s'=s ∧ ∃e,answer=.error e) ∨ ∃elapsed next,
  s'=change (wait s elapsed) .subscriptionUpdated next ∧
  answer=.ok (clearScheduled (syncedRow (some on.row) s'.object (some now) now) now,
   ⟨.immediate,target,none⟩):=by
 have free:∀result,(if on.row.scheduledPlanCode.isSome then
   (gateway replies).releasePendingPlanChange on.row.stripeSubscriptionId s else (.ok (),s)) =
   result → result.2=s:=by
  rintro result rfl
  split <;> rfl
 unfold upgrade at h
 dsimp only at h
 split at h
 · rename_i released
   rw[←(Prod.mk.inj h).1,←(Prod.mk.inj h).2]
   exact .inl ⟨free _ released,_,rfl⟩
 · rename_i s₁ released
   have kept:s₁=s:=free _ released
   subst kept
   cases made:replies.change with
   | error e =>
    simp only[gateway,made,settle] at h
    rw[←(Prod.mk.inj h).1,←(Prod.mk.inj h).2]
    exact .inl ⟨rfl,_,rfl⟩
   | ok reply =>
    obtain ⟨elapsed,next⟩:=reply
    simp only[gateway,made,settle,writeUpgrade] at h
    obtain ⟨action,synced⟩:∃action,synchronizeSubscription
      (change (wait s₁ elapsed) .subscriptionUpdated next).object (some now) livemode now
      (some on.row)=.ok (syncedRow (some on.row)
       (change (wait s₁ elapsed) .subscriptionUpdated next).object (some now) now,action):=
     synchronizeSubscription_own own.mode own.row
    rw[synced] at h
    rw[←(Prod.mk.inj h).1,←(Prod.mk.inj h).2]
    exact .inr ⟨elapsed,next,rfl,rfl⟩

lemma Sound.rewritten (h:Sound accountId livemode st){row row':StoredSubscription}
 (found:st.db.rows accountId=some row)(same:row'.toSynchronized=row.toSynchronized)
 (last:row'.lastStripeEventCreatedAt=row.lastStripeEventCreatedAt) :
 Sound accountId livemode {st with db:=setRow st.db accountId (some row')}:=by
 have only:∀r,(setRow st.db accountId (some row')).rows accountId=some r → r=row':=by
  intro r hr
  rw[rows_setRow_self,Option.some.injEq] at hr
  exact hr.symm
 refine ⟨⟨h.own.account,h.own.mode,h.own.named,?_⟩,⟨h.emitted.numbered,h.emitted.past,
  h.emitted.mode,h.emitted.about,h.emitted.known⟩,?_,?_⟩
 · intro r hr
   rw[only r hr]
   exact (congrArg Synchronized.stripeSubscriptionId same).trans (h.own.row row found)
 · intro r hr
   rw[only r hr,last]
   exact h.watermarked row found
 · rcases h.pending with ⟨r,hr,mirror⟩|⟨event,he,unprocessed,active,ahead⟩
   · have eq:r=row:=Option.mem_unique hr found
     subst eq
     exact .inl ⟨row',rows_setRow_self ..,same.trans mirror⟩
   · refine .inr ⟨event,he,unprocessed,active,fun r hr=>?_⟩
     rw[only r hr,last]
     exact ahead row found

lemma step_requestPlanChange (h:Sound accountId livemode st)(elapsed:ℕ)
 (target:PlanCode)(replies:Replies) :
 Sound accountId livemode (step accountId accountOfCustomer customerId livemode st
  (.requestPlanChange elapsed target replies)):=by
 have waited:=h.wait elapsed
 simp only[step]
 cases made:requestPlanChange (gateway replies) customerId target (st.stripe.clock+elapsed)
   livemode (st.db.rows accountId) (wait st.stripe elapsed) with
 | mk answer s' =>
 have idle:s'=wait st.stripe elapsed →
   committed (st.db.rows accountId) answer Prod.fst=st.db.rows accountId →
   Sound accountId livemode ⟨s',setRow st.db accountId
    (committed (st.db.rows accountId) answer Prod.fst)⟩:=by
  rintro rfl same
  rw[same,setRow_self]
  exact waited
 cases requestPlanChange_cases made with
 | refused e error kept =>
  refine idle ?_ (by rw[error];rfl)
  rcases kept with ⟨same,-⟩|⟨lookupKey,same,-⟩
  · exact same
  · exact same
 | announced on found same repeated kept =>
  refine idle kept ?_
  rw[repeated,(changeable_ok found).1]
  rfl
 | upgraded on found new other priceId s₁ price wanted current rank rank' higher made =>
  obtain rfl:=authorisedPrice_kept price
  have own:Own accountId livemode (wait st.stripe elapsed) (some on.row):=by
   rw[←(changeable_ok found).1]
   exact waited.own
  rcases upgrade_cases own made with ⟨kept,e,error⟩|⟨later,next,rfl,ok⟩
  · exact idle kept (by rw[error];rfl)
  · -- the watermark lies before the request, so its state is applied
    have row:st.db.rows accountId=some on.row:=(changeable_ok found).1
    obtain ⟨previous,last,le⟩:=waited.watermarked on.row row
    have fresh:isStale on.row (some (st.stripe.clock+elapsed))=false:=by
     simp only[isStale,last]
     exact decide_eq_false (Nat.not_lt.mpr le)
    have after:(wait st.stripe elapsed).clock≤(wait (wait st.stripe elapsed) later).clock:=
     Nat.le_add_right _ _
    simp only[ok,committed,syncedRow,fresh,Bool.false_eq_true,↓reduceIte]
    refine ⟨⟨h.own.account,h.own.mode,h.own.named,?_⟩,?_,?_,.inl ⟨_,rows_setRow_self ..,rfl⟩⟩
    · intro r hr
      rw[rows_setRow_self,Option.some.injEq] at hr
      subst hr
      rfl
    · have emitted:=waited.emitted.emit
       (s:={ wait (wait st.stripe elapsed) later with
        object:=(change (wait (wait st.stripe elapsed) later) .subscriptionUpdated next).object})
       .subscriptionUpdated after rfl h.own.mode rfl
      exact ⟨emitted.numbered,emitted.past,emitted.mode,emitted.about,emitted.known⟩
    · intro r hr
      rw[rows_setRow_self,Option.some.injEq] at hr
      subst hr
      exact ⟨_,rfl,after⟩
 | downgraded on found new other priceId s₁ price wanted current rank rank' lower made =>
  obtain rfl:=authorisedPrice_kept price
  have row:st.db.rows accountId=some on.row:=(changeable_ok found).1
  dsimp only[gateway,settle] at made
  cases reply:replies.schedule with
  | error e =>
   rw[reply] at made
   exact idle (Prod.mk.inj made).2.symm (by rw[←(Prod.mk.inj made).1];rfl)
  | ok scheduled =>
   rw[reply] at made
   rw[←(Prod.mk.inj made).1,←(Prod.mk.inj made).2]
   exact waited.rewritten row rfl rfl

lemma step_sound (st:System)(i:Step)(h:Sound accountId livemode st) (ahead:Ahead accountId st i) :
 Sound accountId livemode (step accountId accountOfCustomer customerId livemode st i):=by
 cases i with
 | change elapsed deleted next=>exact step_change h elapsed deleted next ahead
 | invoice elapsed eventType=>exact step_invoice h elapsed eventType
 | deliver elapsed event =>
  simp only[step]
  split
  · exact h.wait elapsed
  · rename_i found
    exact sound_handleEvent (h.wait elapsed) (List.mem_of_getElem? found)
 | requestPlanChange elapsed target replies=>exact step_requestPlanChange h elapsed target replies

lemma sound_start (named:accountId≠"")(clock:ℕ)(object:StripeSubscriptionState) :
 Sound accountId livemode (start accountId livemode clock object):=by
 have noRow:∀row,(start accountId livemode clock object).db.rows accountId≠some row:=
  fun row found=>by cases found
 have none:Emitted livemode
   ⟨{clock,object:={object with accountId:=some accountId,livemode},emitted:=[]},
    ⟨fun _=>none,[]⟩⟩:=by
  refine ⟨fun i event h=>?_,fun event h=>?_,fun event h=>?_,fun event h=>?_,fun p h=>?_⟩
  · simp at h
  all_goals cases h
 refine ⟨⟨rfl,rfl,named,fun row found=>(noRow row found).elim⟩,
  none.emit .subscriptionCreated le_rfl rfl rfl rfl,fun row found=>(noRow row found).elim,
  .inr ⟨_,List.mem_singleton_self _,rfl,?_,fun row found=>(noRow row found).elim⟩⟩
 simp[EventType.synchronises,handledEventTypes,acknowledgedEventTypes]

/-- Whatever the order and the duplicates, once every event has been handled
the row says what Stripe's object says, provided that no upgrade has moved the
watermark past the second of a later change. -/
theorem quiescent_row_in_step (named:accountId≠"")(clock:ℕ)
 (object:StripeSubscriptionState)(run:List Step)
 (ahead:Runs.Along (step accountId accountOfCustomer customerId livemode) (Ahead accountId)
  (start accountId livemode clock object) run)
 (quiet:Quiescent (run.foldl (step accountId accountOfCustomer customerId livemode)
  (start accountId livemode clock object))) :
 InStep accountId (run.foldl (step accountId accountOfCustomer customerId livemode)
  (start accountId livemode clock object)):=by
 have sound:=Runs.Along.invariant (Sound accountId livemode)
  (fun st i h ok=>step_sound st i h ok) ahead (sound_start named clock object)
 exact sound.quiescent_inStep quiet

end

def sampleObject:StripeSubscriptionState where
 subscriptionId:="sub_1"
 customerId:="cus_1"
 status:=.active
 priceId:=some "price_essential"
 productId:=some "prod_essential"
 lookupKey:=some "kivou_essential_monthly_eur"
 currency:=some "eur"
 currentPeriodStart:=some 0
 currentPeriodEnd:=some 2592000000000
 cancelAtPeriodEnd:=false
 canceledAt:=none
 livemode:=false
 accountId:=some "acc"
 discountCouponId:=none
 scheduledCancellationAt:=none

def samplePro:StripeSubscriptionState:=
 {sampleObject with
   priceId:=some "price_pro"
   productId:=some "prod_pro"
   lookupKey:=some "kivou_pro_monthly_eur" }

/-- The subscription is created and handled; half a second into a second the
customer upgrades, and `later` after Stripe's change the customer cancels at the
end of the period in Stripe's portal. Then both events are handled. -/
def upgradeThenCancel (later:ℕ):List Step:=[.deliver 2000000 0,.requestPlanChange 3500000 .pro
   { price:=.ok (some ⟨"price_pro",true⟩)
     release:=.ok ()
     change:=.ok (100000,samplePro)
     schedule:=.error .unavailable},
  .change later false {samplePro with
   cancelAtPeriodEnd:=true
   scheduledCancellationAt:=some 2592000000000},
  .deliver 1000000 2,.deliver 0 1,.deliver 0 2]

def sampleEnd (later:ℕ):System:=
 (upgradeThenCancel later).foldl (step "acc" (fun _=>none) (some "cus_1") false)
  (start "acc" false 1000000000000 sampleObject)

/-- A second later, the cancellation is not lost. -/
theorem quiescent_row_in_step_sample :
 Quiescent (sampleEnd 1000000) ∧ InStep "acc" (sampleEnd 1000000):=by
 have quiet:Quiescent (sampleEnd 1000000):=by
  unfold Quiescent
  decide +kernel
 exact ⟨quiet,quiescent_row_in_step (by decide) 1000000000000 sampleObject
  (upgradeThenCancel 1000000) (by decide +kernel) quiet⟩

/-- In the same second, it is: every event has been handled, Stripe will cancel
and the row does not know. -/
theorem change_in_upgrade_second_is_lost :
 Quiescent (sampleEnd 200000) ∧ (sampleEnd 200000).stripe.object.cancelAtPeriodEnd=true ∧
  ((sampleEnd 200000).db.rows "acc").map (·.cancelAtPeriodEnd)=some false ∧
  ¬InStep "acc" (sampleEnd 200000):=by
 have quiet:Quiescent (sampleEnd 200000):=by
  unfold Quiescent
  decide +kernel
 have stripe:(sampleEnd 200000).stripe.object.cancelAtPeriodEnd=true:=by decide +kernel
 have stored:((sampleEnd 200000).db.rows "acc").map (·.cancelAtPeriodEnd)=some false:=by
  decide +kernel
 refine ⟨quiet,stripe,stored,?_⟩
 rintro ⟨row,found,mirror⟩
 have same:row.cancelAtPeriodEnd=(sampleEnd 200000).stripe.object.cancelAtPeriodEnd:=
  congrArg Synchronized.cancelAtPeriodEnd mirror
 rw[found,Option.map_some,same,stripe] at stored
 cases stored

end Kivou.WebhookOrder
