import Kivou.PlanChangeRuns

set_option autoImplicit false

/-! The row announces a scheduled downgrade, and a request for the announced plan is answered from
the row alone. -/
namespace Kivou.PlanAnnouncements
open BillingCatalogue BillingSubscription PlanChange PlanChangeRuns

def Held (prices:Prices)(s:Stripe)(plan:PlanCode):Prop:=
 ∃currency priceId,IsPrice prices plan currency priceId ∧ s.pending=some priceId

def Reliable (prices:Prices)(customerId:Option String)(st:System):Step→Prop
 | .request target _ _=>∀key,requestKey customerId target st.row=some key →
   (reply st.stripe (phasesKey key)).isSome→Held prices st.stripe target
 | .cancel _ fates=>∀row,st.row=some row → row.scheduledPlanCode.isSome →fates.release≠.lost
 | .synchronize next performed eventCreatedAt _=>performed=true ∨ next.status.isOpen=false →
   ∀row,st.row=some row → row.isOpen=true → row.scheduledPlanCode.isSome →
    isStale row eventCreatedAt=false

section
variable {prices:Prices}{customerId:Option String}{livemode:Bool}

structure Sound (prices:Prices)(livemode:Bool)(st:System):Prop extends Own livemode st where
 essential:∀row plan,st.row=some row → row.scheduledPlanCode=some plan →
  plan=.essential ∧ row.planCode≠some .essential
 held:∀row plan,st.row=some row → row.isOpen=true → row.scheduledPlanCode=some plan →
  Held prices st.stripe plan
 ended:∀row plan,st.row=some row → row.isOpen=false →
  row.scheduledPlanCode=some plan→st.stripe.object.status.isOpen=false

variable {st:System}{row:StoredSubscription}{plan target:PlanCode}{on:Changeable}
 {key priceId:String}{next:StripeSubscriptionState}{now:ℕ}{performed:Bool}

lemma sound_of_unannounced
 (own:∀row,st.row=some row → row.stripeSubscriptionId=st.stripe.object.subscriptionId)
 (mode:st.stripe.object.livemode=livemode)
 (unannounced:∀row,st.row=some row → row.scheduledPlanCode=none) :
 Sound prices livemode st:=by
 refine ⟨⟨own,mode⟩,fun row plan found announced=>?_,fun row plan found _ announced=>?_,
  fun row plan found _ announced=>?_⟩
 all_goals simp[unannounced row found] at announced

lemma sound_of_row (found:st.row=some row)
 (own:row.stripeSubscriptionId=st.stripe.object.subscriptionId)
 (mode:st.stripe.object.livemode=livemode)(unannounced:row.scheduledPlanCode=none) :
 Sound prices livemode st:=by
 refine sound_of_unannounced (fun other h=>?_) mode (fun other h=>?_)
 · obtain rfl:=Option.mem_unique found h
   exact own
 · obtain rfl:=Option.mem_unique found h
   exact unannounced

lemma sound_start (object:StripeSubscriptionState) : Sound prices livemode (start livemode object):=
 sound_of_unannounced (fun _ h=>(by cases h)) rfl (fun _ h=>(by cases h))

lemma planRank_eq {n:ℕ}(h:planRank plan=some n) : (plan=.essential ∧ n=0) ∨ (plan=.pro ∧ n=1):=by
 cases plan with
 | discovery=>simp[planRank] at h
 | essential=>exact .inl ⟨rfl,(Option.some.inj h).symm⟩
 | pro=>exact .inr ⟨rfl,(Option.some.inj h).symm⟩

lemma Sound.asked_unannounced (h:Sound prices livemode st){kind:ChangeKind}
 (asked:Asked customerId target st on kind key):on.row.scheduledPlanCode=none:=by
 obtain ⟨row,plan,-,-⟩:=changeable_ok asked.found
 obtain ⟨wanted,current,rank,rank',-⟩:=asked.higher
 cases announced:on.row.scheduledPlanCode with
 | none=>rfl
 | some announcedPlan =>
  obtain ⟨rfl,unpaid⟩:=h.essential on.row _ row announced
  have new:=asked.new
  have other:=asked.other
  rw[announced] at new
  rw[plan] at unpaid
  rcases planRank_eq rank with ⟨rfl,-⟩|⟨rfl,-⟩
  · exact absurd rfl new
  · rcases planRank_eq rank' with ⟨is,-⟩|⟨is,-⟩
    · exact absurd (congrArg some is) unpaid
    · exact absurd is.symm other

lemma asked_schedule (asked:Asked customerId target st on .schedule key) :
 target=.essential ∧ on.planCode=.pro:=by
 obtain ⟨wanted,current,rank,rank',higher⟩:=asked.higher
 have lower:¬current<wanted:=fun up=>by simpa using higher.mpr up
 rcases planRank_eq rank with ⟨rfl,rfl⟩|⟨rfl,rfl⟩ <;>
  rcases planRank_eq rank' with ⟨is,rfl⟩|⟨is,rfl⟩
 · exact absurd is.symm asked.other
 · exact ⟨rfl,is⟩
 · omega
 · exact absurd is.symm asked.other

lemma Sound.of_same {st':System}(h:Sound prices livemode st)(row:st'.row=st.row)
 (stripe:st'.stripe=st.stripe):Sound prices livemode st':=by
 obtain ⟨row',stripe',keys⟩:=st'
 subst row stripe
 exact ⟨⟨h.own,h.mode⟩,h.essential,h.held,h.ended⟩

lemma Sound.released_eq (h:Sound prices livemode st){kind:ChangeKind}{s₁:Stripe}
 (asked:Asked customerId target st on kind key)(before:released on st.stripe s₁) :
 s₁=st.stripe:=by
 rcases before with kept|⟨announced,-⟩
 · exact kept
 · simp[h.asked_unannounced asked] at announced

lemma Sound.changed (h:Sound prices livemode st)
 (asked:Asked customerId target st on .change key){next:Option StripeSubscriptionState}
 {fate:Fate}{a:Answer}
 (replied:a=settled (writeUpgrade on target now livemode) fate
  (handleChange prices priceId key next st.stripe).1)(keys:List String) :
 Sound prices livemode
  ⟨committed st.row a Prod.fst,(handleChange prices priceId key next st.stripe).2,keys⟩:=by
 obtain ⟨found,-,-,active⟩:=changeable_ok asked.found
 obtain ⟨sameId,sameMode⟩:=object_handleChange prices priceId key next st.stripe
 have own:=h.own on.row found
 have mode:=h.mode
 rw[←sameId] at own
 rw[←sameMode] at mode
 cases a with
 | error e=>exact sound_of_row found own mode (h.asked_unannounced asked)
 | ok written =>
  obtain ⟨row',outcome⟩:=written
  obtain ⟨state,-,made⟩:=settled_ok replied.symm
  obtain ⟨unannounced,same,-⟩:=writeUpgrade_ok active made
  exact sound_of_row rfl (same.trans own) mode unannounced

lemma Sound.scheduled (h:Sound prices livemode st)
 (asked:Asked customerId target st on .schedule key)
 (price:IsPrice prices target on.currency priceId)
 (kept:(reply st.stripe (phasesKey key)).isSome→Held prices st.stripe target)
 {change:Option StripeScheduledChange}{fate:Fate}{a:Answer}
 (replied:a=settled (writeDowngrade on target now) fate
  (handleSchedule priceId (phasesKey key) change st.stripe).1)(keys:List String) :
 Sound prices livemode
  ⟨committed st.row a Prod.fst,(handleSchedule priceId (phasesKey key) change st.stripe).2,keys⟩:=by
 obtain ⟨found,plan,-,active⟩:=changeable_ok asked.found
 have own:=h.own on.row found
 have mode:=h.mode
 rw[←object_handleSchedule priceId (phasesKey key) change st.stripe] at own mode
 cases a with
 | error e=>exact sound_of_row found own mode (h.asked_unannounced asked)
 | ok written =>
  obtain ⟨row',outcome⟩:=written
  obtain ⟨scheduled,confirmed,made⟩:=settled_ok replied.symm
  obtain ⟨rfl,pro⟩:=asked_schedule asked
  simp only[writeDowngrade,Except.ok.injEq,Prod.mk.injEq] at made
  obtain ⟨rfl,-⟩:=made
  have holds:Held prices (handleSchedule priceId (phasesKey key) change st.stripe).2 .essential:=by
   unfold handleSchedule at confirmed ⊢
   split
   · rename_i stored
     exact kept (by rw[stored];rfl)
   · rename_i stored
     simp_all
   · exact ⟨on.currency,priceId,price,rfl⟩
  refine ⟨⟨fun row hrow=>?_,mode⟩,fun row announced hrow same=>?_,
   fun row announced hrow _ same=>?_,fun row announced hrow closed _=>?_⟩
  all_goals
   simp only[committed,Option.some.injEq] at hrow
   subst hrow
  · exact own
  · refine ⟨(Option.some.inj same).symm,?_⟩
    simp[recordScheduled,plan,pro]
  · obtain rfl:=Option.some.inj same
    exact holds
  · have isOpen:=StoredSubscription.isOpen_of_active active
    simp[StoredSubscription.isOpen,recordScheduled] at closed isOpen
    simp[closed] at isOpen

lemma sound_request (h:Sound prices livemode st)
 {fates:Fates}(reliable:Reliable prices customerId st (.request target now fates)) :
 Sound prices livemode (step prices customerId livemode st (.request target now fates)):=by
 have result:RequestResult prices customerId livemode st target now fates _ _:=answer_cases rfl
 cases result with
 | idle kept error =>
  obtain ⟨e,error,-⟩:=error
  exact h.of_same (committed_error error) kept
 | announced on found same repeated kept =>
  refine h.of_same ?_ kept
  change committed st.row _ Prod.fst=st.row
  rw[repeated,(changeable_ok found).1]
  rfl
 | stopped on key asked before error =>
  obtain ⟨e,error,-⟩:=error
  exact h.of_same (committed_error error) (h.released_eq asked before)
 | changed on key asked known priceId price s₁ before stripe replied =>
  obtain rfl:=h.released_eq asked before
  have sound:=h.changed asked replied []
  rw[←stripe] at sound
  exact sound.of_same rfl rfl
 | scheduled on key asked priceId price stripe replied =>
  have sound:=h.scheduled asked price (reliable key asked.requestKey_eq) replied []
  rw[←stripe] at sound
  exact sound.of_same rfl rfl

lemma sound_cancel (h:Sound prices livemode st){fates:Fates}
 (reliable:Reliable prices customerId st (.cancel now fates)) :
 Sound prices livemode (step prices customerId livemode st (.cancel now fates)):=by
 unfold step cancelScheduledPlanChange
 cases found:changeable st.row customerId with
 | error e=>exact h
 | ok on =>
  have row:=(changeable_ok found).1
  by_cases unannounced:on.row.scheduledPlanCode=none
  · simp only[unannounced,↓reduceIte]
    exact h
  · have answered:=reliable on.row row (Option.isSome_iff_ne_none.mpr unannounced)
    cases fate:fates.release with
    | lost=>exact absurd fate answered
    | unreached =>
     simp only[unannounced,↓reduceIte,gateway,fate]
     exact h
    | delivered =>
     simp only[unannounced,↓reduceIte,gateway,fate,deliver]
     exact sound_of_row rfl (h.own on.row row) h.mode rfl

lemma moveOn_ended {s:Stripe}
 (ended:s.object.status.isOpen=false):moveOn prices next performed s=s:=by
 simp[moveOn,ended]

lemma resolvePlan_of_isPrice {currency:Currency}
 (price:IsPrice prices plan currency priceId){state:StripeSubscriptionState}
 (lookupKey:state.lookupKey=prices.lookupKeyOf priceId) :
 (resolvePlan state).1=some plan:=by
 obtain ⟨key,found,sold,active,rfl⟩:=price
 have purchasable:plan∈purchasablePlans:=by
  by_contra unsold
  simp[lookupKeyFor,unsold] at sold
 have resolved:planForLookupKey state.lookupKey=some (plan,currency):=by
  rw[lookupKey,prices.lookupKeyOf_price key found active,←sold]
  exact planForLookupKey_lookupKeyFor plan currency purchasable
 simp[resolvePlan,resolved]

lemma Held.moveOn {s:Stripe}(held:Held prices s plan) (next:StripeSubscriptionState)(performed:Bool)
 (alive:(moveOn prices next performed s).object.status.isOpen=true) :
 Held prices (moveOn prices next performed s) plan ∨
  (performed=true ∧ (resolvePlan (moveOn prices next performed s).object).1=some plan):=by
 obtain ⟨currency,priceId,price,pending⟩:=held
 by_cases ended:s.object.status.isOpen=false
 · rw[moveOn_ended ended]
   exact .inl ⟨currency,priceId,price,pending⟩
 · cases performed with
   | true =>
    refine .inr ⟨rfl,resolvePlan_of_isPrice price ?_⟩
    simp[PlanChangeRuns.moveOn,ended,pending,onPrice]
   | false =>
    refine .inl ⟨currency,priceId,price,?_⟩
    simp only[PlanChangeRuns.moveOn,ended,pending,↓reduceIte] at alive ⊢
    simp[alive]

lemma Sound.ignored (h:Sound prices livemode st) (found:st.row=some row)
 {eventCreatedAt:Option ℕ}(stale:isStale row eventCreatedAt=true)
 (reliable:Reliable prices customerId st (.synchronize next performed eventCreatedAt now))
 (keys:List String) :
 Sound prices livemode ⟨some row,moveOn prices next performed st.stripe,keys⟩:=by
 obtain ⟨sameId,sameMode⟩:=object_moveOn prices next performed st.stripe
 have own:=(h.own row found).trans sameId.symm
 have mode:=sameMode.trans h.mode
 cases announced:row.scheduledPlanCode with
 | none=>exact sound_of_row rfl own mode announced
 | some plan =>
  have essential:=h.essential row plan found announced
  by_cases isOpen:row.isOpen=true
  · have untouched:performed=false ∧ next.status.isOpen=true:=by
     by_contra touched
     have reason:performed=true ∨ next.status.isOpen=false:=by
      cases performed with
      | true=>exact .inl rfl
      | false=>exact .inr (by simpa using touched)
     have fresh:=reliable reason row found isOpen (by simp[announced])
     simp[stale] at fresh
    have held:Held prices (moveOn prices next performed st.stripe) plan:=by
     obtain ⟨currency,priceId,price,pending⟩:=h.held row plan found isOpen announced
     refine ⟨currency,priceId,price,?_⟩
     unfold moveOn
     split
     · simp[untouched,pending]
     · exact pending
    refine ⟨⟨?_,mode⟩,?_,?_,?_⟩
    · rintro r ⟨⟩
      exact own
    · rintro r p ⟨⟩ same
      exact h.essential row p found same
    · rintro r p ⟨⟩-same
      obtain rfl:=Option.mem_unique announced same
      exact held
    · rintro r p ⟨⟩ closed
      simp[isOpen] at closed
  · have ended:=h.ended row plan found (by simpa using isOpen) announced
    rw[moveOn_ended ended]
    exact h.of_same found.symm rfl

lemma Sound.applied (h:Sound prices livemode st)
 (found:st.row=some row)(next:StripeSubscriptionState)(performed:Bool)
 (eventCreatedAt:Option ℕ)(now:ℕ)(keys:List String) :
 Sound prices livemode
  ⟨some (updateRow row (moveOn prices next performed st.stripe).object eventCreatedAt now),
   moveOn prices next performed st.stripe,keys⟩:=by
 have mode:=(object_moveOn prices next performed st.stripe).2.trans h.mode
 generalize moved:(moveOn prices next performed st.stripe).object=object at *
 cases announced:(updateRow row object eventCreatedAt now).scheduledPlanCode with
 | none=>exact sound_of_row rfl (by rw[moved];rfl) (by rw[moved];exact mode) announced
 | some plan =>
  -- the announcement was there before, and the paid plan is another one
  have unreached:row.scheduledPlanCode=some plan ∧ (resolvePlan object).1≠some plan:=by
   simp only[updateRow] at announced
   split at announced
   · cases announced
   · rename_i new
     refine ⟨announced,fun reached=>new ?_⟩
     simp[announced,synchronized,reached]
  obtain ⟨before,other⟩:=unreached
  obtain ⟨rfl,-⟩:=h.essential row plan found before
  refine ⟨⟨?_,by rw[moved];exact mode⟩,?_,?_,?_⟩
  · rintro r ⟨⟩
    rw[moved]
    rfl
  · rintro r p ⟨⟩ same
    exact ⟨Option.mem_unique same announced,other⟩
  · rintro r p ⟨⟩ isOpen same
    obtain rfl:=Option.mem_unique announced same
    have alive:(moveOn prices next performed st.stripe).object.status.isOpen=true:=by
     rw[moved]
     exact isOpen
    have wasOpen:row.isOpen=true:=by
     by_contra closed
     have ended:=h.ended row _ found (by simpa using closed) before
     rw[moveOn_ended ended,ended] at alive
     cases alive
    rcases (h.held row _ found wasOpen before).moveOn next performed alive with held|⟨-,reached⟩
    · exact held
    · rw[moved] at reached
      exact absurd reached other
  · rintro r p ⟨⟩ closed -
    rw[moved]
    exact closed

lemma sound_synchronize (h:Sound prices livemode st){eventCreatedAt:Option ℕ}
 (reliable:Reliable prices customerId st (.synchronize next performed eventCreatedAt now)) :
 Sound prices livemode
  (step prices customerId livemode st (.synchronize next performed eventCreatedAt now)):=by
 have moved:=h.toOwn.moveOn prices next performed
 rw[step_synchronize h.toOwn]
 cases found:st.row with
 | none=>exact sound_of_row rfl rfl moved.1 rfl
 | some row =>
  by_cases stale:isStale row eventCreatedAt=true
  · simp only[syncedRow,stale,↓reduceIte]
    exact h.ignored found stale reliable st.committedKeys
  · simp only[syncedRow,stale,Bool.false_eq_true,↓reduceIte]
    exact h.applied found next performed eventCreatedAt now st.committedKeys

lemma sound_step (st:System)(i:Step)(h:Sound prices livemode st)
 (reliable:Reliable prices customerId st i) :
 Sound prices livemode (step prices customerId livemode st i):=by
 cases i with
 | request target now fates=>exact sound_request h reliable
 | cancel now fates=>exact sound_cancel h reliable
 | synchronize next performed eventCreatedAt now=>exact sound_synchronize h reliable

end

/-- Stripe's answer to the first request is lost, and the second finds it stored. -/
def retriedRun:List Step:=[sampleSync "price_pro",
  .request .essential 2 {sampleFates "price_essential" with
   schedule:=(.lost,some ⟨"sub_sched_1",some 900⟩)},
  .request .essential 3 (sampleFates "price_essential")]

def downgradeRun:List Step:=
 [sampleSync "price_pro",.request .essential 2 (sampleFates "price_essential")]

def lostReleaseRun:List Step:=
 downgradeRun++[.cancel 3 {sampleFates "price_essential" with release:=.lost}]

end Kivou.PlanAnnouncements
