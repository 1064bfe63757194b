import Mathlib.Data.Finset.Card
import Mathlib.Data.Finset.Dedup
import Kivou.BillingSubscription
import Kivou.CheckoutSessions
import Kivou.Tables

set_option autoImplicit false

/-! Five accounts may buy Pro at the founding price, each of them once. The seats are counted from
the rows of `billing_subscription` when a checkout is prepared; a session stays payable in between,
and a row only shows the subscription that was synchronised last. Checkouts of any number of
accounts, Stripe's subscriptions and their webhooks run side by side. -/
namespace Kivou.FoundingOffer
open BillingCatalogue BillingSubscription CheckoutAttempts
open CheckoutSessions (Reply)

def foundingMaximumAccounts:ℕ:=5
def foundingPlanCode:PlanCode:=.pro

/-- `billing_subscription`, unique by account. -/
structure Rows where
 entries:List (String × StoredSubscription)
 unique:(entries.map (·.1)).Nodup

lemma unique_replaced {entries:List (String × StoredSubscription)}
 (unique:(entries.map (·.1)).Nodup)(accountId:String)(row:StoredSubscription) :
 (((accountId,row)::entries.filter (·.1 != accountId)).map (·.1)).Nodup:=by
 rw[List.map_cons,List.nodup_cons]
 constructor
 · intro here
   obtain ⟨entry,kept,same⟩:=List.mem_map.mp here
   simpa[same] using (List.mem_filter.mp kept).2
 · exact unique.sublist (List.filter_sublist.map _)

def Rows.empty:Rows:=⟨[],List.nodup_nil⟩

def Rows.row (rows:Rows)(accountId:String):Option StoredSubscription:=
 (rows.entries.find? (·.1==accountId)).map (·.2)

def Rows.put (rows:Rows)(accountId:String)(row:StoredSubscription):Rows:=
 ⟨(accountId,row)::rows.entries.filter (·.1 != accountId),unique_replaced rows.unique accountId row⟩

/-- The accounts whose row carries `offer_code = 'founding'`. -/
def Rows.founding (rows:Rows):Finset String:=
 ((rows.entries.filter (·.2.foundingOffer)).map (·.1)).toFinset

/-- `founding_accounts`. -/
def foundingAccounts (rows:Rows):ℕ:=rows.founding.card

/-- `founding_available`. -/
def foundingAvailable (rows:Rows)(accountId:String):Bool:=
 accountId∉rows.founding&&foundingAccounts rows<foundingMaximumAccounts

structure Configuration where
 livemode:Bool
 foundingCouponId:Option String
 eligible:String→Bool

structure Sale where
 sessionId:String
 planCode:PlanCode
 currency:Currency
 (priceId customerId:String)
 couponId:Option String

/-- The checkouts, the rows, and what Stripe knows: the sales behind its
sessions and its subscriptions. `obtained` is the history of the accounts that
bought a subscription priced with the founding offer. -/
structure System where
 checkout:CheckoutSessions.System
 rows:Rows
 sales:List Sale
 subscriptions:List StripeSubscriptionState
 obtained:List String

def initial (clock:ℕ):System:=⟨CheckoutSessions.initial clock,.empty,[],[],[]⟩

inductive Event where
 | tick (elapsed:ℕ)
 | start (accountId:String)(planCode:PlanCode)(currency:Currency)
 /-- The checks of `start_checkout`, given the price and the customer. -/
 | observe (request:ℕ)(price:Option Price)(customerId:Except BillingError String)
 | reserve (request:ℕ)(attemptId:String)
 | call (request:ℕ)(reply:Reply)
 | finish (request:ℕ)
 /-- The customer pays a session, and Stripe opens the subscription. -/
 | complete (sessionId subscriptionId:String)
 | expired (sessionId:String)
 /-- Stripe changes a subscription: its status, its price, its discount. -/
 | change (state:StripeSubscriptionState)
 /-- A webhook about a subscription, and about the session that opened it. -/
 | webhook (subscriptionId:String)(sessionId:Option String)(createdAt:ℕ)

variable (configuration:Configuration)

/-- `founding` in `start_checkout`: nothing of it comes from the request. -/
def foundingGranted (rows:Rows)(accountId:String)(planCode:PlanCode):Bool:=
 planCode=foundingPlanCode&&configuration.foundingCouponId.isSome &&
  foundingAvailable rows accountId&&configuration.eligible accountId

def surroundings (rows:Rows)(q:CheckoutSessions.Request)(price:Option Price)
 (customerId:Except BillingError String):Surroundings:=
 { livemode:=configuration.livemode
   subscriptionOpen:=(rows.row q.accountId).any (·.isOpen)
   price
   founding:=foundingGranted configuration rows q.accountId q.planCode
   foundingCouponId:=configuration.foundingCouponId
   foundingAvailable:=foundingAvailable rows q.accountId
   customerId}

def sale? (before after:CheckoutSessions.System)(i:ℕ):Option Sale:=
 match before.requests[i]?,after.sessions.head? with
 | some q,some s =>
  match q.phase with
  | .prepared checkout =>
   if s∈before.sessions then none
   else some
    { sessionId:=s.sessionId
      planCode:=q.planCode
      currency:=q.currency
      priceId:=checkout.terms.priceId
      customerId:=checkout.terms.customerId
      couponId:=checkout.terms.couponId}
  | _=>none
 | _,_=>none

def opened (accountId:String)(sale:Sale)(subscriptionId:String) :
 StripeSubscriptionState:=
 { subscriptionId
   customerId:=sale.customerId
   status:=.active
   priceId:=some sale.priceId
   productId:=none
   lookupKey:=lookupKeyFor sale.planCode sale.currency
   currency:=some sale.currency.code
   currentPeriodStart:=none
   currentPeriodEnd:=none
   cancelAtPeriodEnd:=false
   canceledAt:=none
   livemode:=configuration.livemode
   accountId:=some accountId
   discountCouponId:=sale.couponId
   scheduledCancellationAt:=none}

def foundingPriced (state:StripeSubscriptionState):Bool:=(synchronized state).foundingOffer

def subscription? (st:System)(subscriptionId:String):Option StripeSubscriptionState:=
 st.subscriptions.find? (·.subscriptionId==subscriptionId)

def payment (st:System)(sessionId subscriptionId:String) :
 Option (String × StripeSubscriptionState):=
 match st.checkout.sessions.find? (fun s=>s.sessionId==sessionId&&s.live st.checkout.clock),
   st.sales.find? (·.sessionId==sessionId),subscription? st subscriptionId with
 | some s,some sale,none =>some (s.accountId,opened configuration s.accountId sale subscriptionId)
 | _,_,_=>none

def mayBecome (old new:StripeSubscriptionState):Bool:=
 new.subscriptionId=old.subscriptionId&&new.customerId=old.customerId &&
  new.accountId=old.accountId&&new.livemode=old.livemode &&
  (new.discountCouponId=none||new.discountCouponId=old.discountCouponId)

/-- The synchronisation at the end of `handle_event`. -/
def synchronize (st:System)(state:StripeSubscriptionState)(createdAt:ℕ):System:=
 match state.accountId with
 | none=>st
 | some accountId =>
  match synchronizeSubscription state (some createdAt) configuration.livemode st.checkout.clock
    (st.rows.row accountId) with
  | .error _=>st
  | .ok (row,_)=>{st with rows:=st.rows.put accountId row}

def checked (st:System)(e:CheckoutSessions.Event):System:=
 {st with checkout:=CheckoutSessions.step st.checkout e}

def step (st:System):Event→System
 | .tick elapsed=>checked st (.tick elapsed)
 | .start accountId planCode currency=>checked st (.start accountId planCode currency)
 | .observe i price customerId =>
  match st.checkout.requests[i]? with
  | none=>st
  | some q=>checked st (.observe i (surroundings configuration st.rows q price customerId))
 | .reserve i attemptId=>checked st (.reserve i attemptId)
 | .call i reply =>
  let called:=checked st (.call i reply)
  {called with sales:=(sale? st.checkout called.checkout i).toList++st.sales}
 | .finish i=>checked st (.finish i)
 | .complete sessionId subscriptionId =>
  match payment configuration st sessionId subscriptionId with
  | none=>st
  | some (accountId,state) =>
   { checked st (.complete sessionId) with
     subscriptions:=state::st.subscriptions
     obtained:=if foundingPriced state then accountId::st.obtained else st.obtained}
 | .expired sessionId=>checked st (.webhook sessionId)
 | .change state =>
  { st with subscriptions:=st.subscriptions.map fun old=>
     if mayBecome old state then state else old}
 | .webhook subscriptionId sessionId createdAt =>
  let closed:=match sessionId with
   | none=>st
   | some sessionId=>checked st (.webhook sessionId)
  match subscription? st subscriptionId with
  | none=>closed
  | some state=>synchronize configuration closed state createdAt

def SeatsHold (st:System):Prop:=
 st.obtained.Nodup ∧ st.obtained.toFinset.card≤foundingMaximumAccounts

def seats (st:System):Finset String:=
 st.rows.founding ∪ ((st.subscriptions.filter foundingPriced).filterMap (·.accountId)).toFinset

def overwrites (row:StoredSubscription)(state:StripeSubscriptionState)(createdAt:ℕ) :
 Bool:=
 state.livemode=configuration.livemode &&
  (if row.stripeSubscriptionId=state.subscriptionId then !isStale row (some createdAt)
   else !row.isOpen)

/-- A founding session is paid while a seat is left for its account; a
subscription loses its founding price only once its account's row is founding;
and a founding row is only overwritten by a subscription with that price. -/
def KeepsSeats (st:System):Event→Prop
 | .complete sessionId subscriptionId =>
  ∀paid∈payment configuration st sessionId subscriptionId,foundingPriced paid.2=true →
   paid.1∉seats st ∧ (seats st).card<foundingMaximumAccounts
 | .change state =>
  ∀old∈st.subscriptions,mayBecome old state=true→foundingPriced old=true →
   foundingPriced state=true ∨ ∀accountId∈old.accountId,accountId∈st.rows.founding
 | .webhook subscriptionId _ createdAt =>
  ∀state∈subscription? st subscriptionId,∀accountId∈state.accountId,
   ∀row∈st.rows.row accountId,row.foundingOffer=true →
    overwrites configuration row state createdAt=true→foundingPriced state=true
 | _=>True

instance (st:System):(e:Event)→Decidable (KeepsSeats configuration st e)
 | .complete sessionId subscriptionId =>
  inferInstanceAs (Decidable (∀paid∈payment configuration st sessionId subscriptionId,_))
 | .change state =>
  inferInstanceAs (Decidable (∀old∈st.subscriptions,mayBecome old state=true →
   foundingPriced old=true→foundingPriced state=true ∨
    ∀accountId∈old.accountId,accountId∈st.rows.founding))
 | .webhook subscriptionId _ _ =>
  inferInstanceAs (Decidable (∀state∈subscription? st subscriptionId,_))
 | .tick _ | .start _ _ _ | .observe _ _ _ | .reserve _ _ | .call _ _ | .finish _ | .expired _ =>
  .isTrue trivial

variable {rows:Rows}{accountId:String}{row:StoredSubscription}{st:System}
 {state:StripeSubscriptionState}

lemma Rows.mem_row : rows.row accountId=some row ↔ (accountId,row)∈rows.entries:=by
 constructor
 · intro found
   obtain ⟨⟨key,row'⟩,there,rfl⟩:=Option.map_eq_some_iff.mp found
   obtain ⟨mem,rfl⟩:=Tables.find?_key there
   exact mem
 · intro mem
   rw[Rows.row,Tables.find?_of_mem rows.unique mem]
   rfl

lemma Rows.mem_founding : accountId∈rows.founding ↔
  ∃row,rows.row accountId=some row ∧ row.foundingOffer=true:=by
 simp[Rows.founding,Rows.mem_row]

@[simp] lemma Rows.row_put (rows:Rows)(accountId:String)(row:StoredSubscription) (other:String) :
 (rows.put accountId row).row other=if other=accountId then some row else rows.row other:=by
 by_cases here:other=accountId
 · simp[Rows.put,Rows.row,here]
 · have there:(accountId==other)=false:=by simpa using Ne.symm here
   simp only[Rows.put,Rows.row,List.find?_cons,there,List.find?_filter,here,↓reduceIte]
   congr 2
   funext entry
   by_cases key:entry.1=other <;> simp[key,here]

lemma Rows.founding_put (kept:accountId∈rows.founding → row.foundingOffer=true) :
 rows.founding ⊆ (rows.put accountId row).founding:=by
 intro other here
 rw[Rows.mem_founding,Rows.row_put]
 by_cases same:other=accountId
 · subst same
   exact ⟨row,by simp,kept here⟩
 · simpa[same] using Rows.mem_founding.mp here

lemma mem_seats : accountId∈seats st ↔ accountId∈st.rows.founding ∨
  ∃state∈st.subscriptions,foundingPriced state=true ∧ state.accountId=some accountId:=by
 simp[seats,and_assoc]

structure Sound (st:System):Prop where
 holds:SeatsHold st
 seated:∀accountId∈st.obtained,accountId∈seats st

lemma sound_initial (clock:ℕ):Sound (initial clock):=by
 constructor
 · simp[SeatsHold,initial]
 · simp[initial]

lemma Sound.kept {st':System}(h:Sound st)(obtained:st'.obtained=st.obtained)
 (seated:seats st ⊆ seats st'):Sound st':=by
 constructor
 · rw[SeatsHold,obtained]
   exact h.holds
 · intro accountId mem
   exact seated (h.seated accountId (obtained ▸ mem))

lemma Sound.of_eq {st':System}(h:Sound st)(obtained:st'.obtained=st.obtained)
 (rows:st'.rows=st.rows)(subscriptions:st'.subscriptions=st.subscriptions) :
 Sound st':=by
 apply h.kept obtained
 rw[seats,seats,rows,subscriptions]

variable {configuration:Configuration}

lemma synchronized_founding {createdAt now:ℕ}
 {row':StoredSubscription}{action:SyncAction}(founding:row.foundingOffer=true)
 (kept:overwrites configuration row state createdAt=true→foundingPriced state=true)
 (h:synchronizeSubscription state (some createdAt) configuration.livemode now (some row) =
  .ok (row',action)):row'.foundingOffer=true:=by
 unfold synchronizeSubscription at h
 split at h
 · cases h
 rename_i mode
 have live:state.livemode=configuration.livemode:=not_not.mp mode
 dsimp only at h
 split at h
 · rename_i other
   split at h
   · cases h
   · rename_i closed
     cases h
     exact kept (by simp[overwrites,live,other,closed])
 · rename_i same
   have own:row.stripeSubscriptionId=state.subscriptionId:=not_not.mp same
   split at h
   · cases h
     exact founding
   · rename_i fresh
     cases h
     exact kept (by simp[overwrites,live,own,fresh])

lemma sound_synchronize (h:Sound st) {createdAt:ℕ}
 (kept:∀accountId∈state.accountId,∀row∈st.rows.row accountId,
  row.foundingOffer=true → overwrites configuration row state createdAt=true →
   foundingPriced state=true) :
 Sound (synchronize configuration st state createdAt):=by
 unfold synchronize
 split
 · exact h
 rename_i accountId owner
 split
 · exact h
 rename_i row' action synced
 refine h.kept rfl (Finset.union_subset_union_left (Rows.founding_put fun here=>?_))
 obtain ⟨row,found,founding⟩:=Rows.mem_founding.mp here
 rw[found] at synced
 exact synchronized_founding founding (kept accountId owner row found founding) synced

lemma sound_change (h:Sound st)
 (kept:∀old∈st.subscriptions,mayBecome old state=true→foundingPriced old=true →
  foundingPriced state=true ∨ ∀accountId∈old.accountId,accountId∈st.rows.founding) :
 Sound (step configuration st (.change state)):=by
 refine h.kept rfl fun accountId seated=>?_
 rw[mem_seats] at seated ⊢
 rcases seated with row|⟨old,mem,priced,owner⟩
 · exact .inl row
 by_cases becomes:mayBecome old state=true
 · rcases kept old mem becomes priced with still|reported
   · refine .inr ⟨state,List.mem_map.mpr ⟨old,mem,if_pos becomes⟩,still,?_⟩
     have same:state.accountId=old.accountId:=by
      simp only[mayBecome,Bool.and_eq_true,decide_eq_true_eq] at becomes
      exact becomes.1.1.2
     exact same.trans owner
   · exact .inl (reported accountId owner)
 · exact .inr ⟨old,List.mem_map.mpr ⟨old,mem,if_neg becomes⟩,priced,owner⟩

lemma payment_owner {sessionId subscriptionId:String}
 (paid:payment configuration st sessionId subscriptionId=some (accountId,state)) :
 state.accountId=some accountId:=by
 unfold payment at paid
 split at paid
 · cases paid
   rfl
 · cases paid

lemma sound_complete (h:Sound st){sessionId subscriptionId:String}
 (left:∀paid∈payment configuration st sessionId subscriptionId,
  foundingPriced paid.2=true →paid.1∉seats st ∧ (seats st).card<foundingMaximumAccounts) :
 Sound (step configuration st (.complete sessionId subscriptionId)):=by
 simp only[step]
 split
 · exact h
 rename_i accountId state paid
 have grows:∀seated∈seats st,seated∈seats
   {checked st (.complete sessionId) with subscriptions:=state::st.subscriptions}:=by
  intro seated there
  rw[mem_seats] at there ⊢
  rcases there with row|⟨old,mem,rest⟩
  · exact .inl row
  · exact .inr ⟨old,List.mem_cons_of_mem _ mem,rest⟩
 by_cases priced:foundingPriced state=true
 · obtain ⟨free,room⟩:=left _ paid priced
   have subset:st.obtained.toFinset ⊆ seats st:=by
    intro old mem
    exact h.seated old (List.mem_toFinset.mp mem)
   constructor
   · simp only[SeatsHold,priced,↓reduceIte,List.nodup_cons,List.toFinset_cons]
     refine ⟨⟨fun again=>free (h.seated _ again),h.holds.1⟩,?_⟩
     calc (insert accountId st.obtained.toFinset).card
       ≤ st.obtained.toFinset.card+1:=Finset.card_insert_le _ _
      _≤(seats st).card+1:=Nat.succ_le_succ (Finset.card_le_card subset)
      _≤foundingMaximumAccounts:=room
   · intro seated mem
     simp only[priced,↓reduceIte,List.mem_cons] at mem
     rcases mem with rfl|old
     · exact mem_seats.mpr (.inr ⟨state,List.mem_cons_self,priced,payment_owner paid⟩)
     · exact grows seated (h.seated seated old)
 · simp only[priced]
   exact h.kept rfl grows

lemma step_sound (st:System)(e:Event)(h:Sound st)(ok:KeepsSeats configuration st e) :
 Sound (step configuration st e):=by
 cases e with
 | tick | start | reserve | call | finish | expired=>exact h.of_eq rfl rfl rfl
 | observe i price customerId =>
  simp only[step]
  split
  · exact h
  · exact h.of_eq rfl rfl rfl
 | complete sessionId subscriptionId=>exact sound_complete h ok
 | change state=>exact sound_change h ok
 | webhook subscriptionId sessionId createdAt =>
  cases sessionId with
  | none =>
   simp only[step]
   split
   · exact h
   · rename_i state found
     exact sound_synchronize h (ok state found)
  | some sessionId =>
   have closed:Sound (checked st (.webhook sessionId)):=h.of_eq rfl rfl rfl
   simp only[step]
   split
   · exact closed
   · rename_i state found
     exact sound_synchronize closed (ok state found)

/-- However checkouts, sessions and webhooks of any accounts interleave, five
accounts at most obtain the founding price and none of them twice, as long as
seats are still free when they are paid for and no founding row is lost. -/
theorem founding_seats_hold (configuration:Configuration)(clock:ℕ)(events:List Event)
 (run:Runs.Along (step configuration) (KeepsSeats configuration) (initial clock) events) :
 ∀before,before <+: events→SeatsHold (before.foldl (step configuration) (initial clock)):=by
 rintro before ⟨rest,rfl⟩
 have reached:=((Runs.along_append _ _ _).mp run).1
 exact (reached.invariant Sound step_sound (sound_initial clock)).holds

def sampleConfiguration:Configuration:=⟨true,some "coupon_founding",fun _=>true⟩

/-- The `i`-th request: an account opens a checkout for a plan. -/
def opens (i:ℕ)(accountId:String)(planCode:PlanCode):List Event:=[.start accountId planCode .eur,
  .observe i (some ⟨"price_"++planCode.code,true,true,.eur⟩) (.ok ("cus_"++accountId)),
  .reserve i ("cka_"++toString i),
  .call i (.handled (.session ("cs_"++toString i)) true),.finish i]

def pays (i:ℕ):Event:=.complete ("cs_"++toString i) ("sub_"++toString i)

def reports (i createdAt:ℕ):Event:=
 .webhook ("sub_"++toString i) (some ("cs_"++toString i)) createdAt

def sixCheckouts:List Event:=
 [opens 0 "a" .pro,opens 1 "b" .pro,opens 2 "c" .pro,opens 3 "d" .pro,opens 4 "e" .pro,
  opens 5 "f" .pro,(List.range 6).map pays].flatten

/-- The subscription behind the `i`-th request, once it is cancelled. -/
def cancelled (i:ℕ)(planCode:PlanCode)(couponId:Option String):Event:=
 .change { opened sampleConfiguration "a" ⟨"",planCode,.eur,"price_"++planCode.code,"cus_a",
  couponId⟩ ("sub_"++toString i) with status:=.canceled}

def comesBack:List Event:=
 [opens 0 "a" .pro,[pays 0,reports 0 1,cancelled 0 .pro (some "coupon_founding"),reports 0 2],
  opens 1 "a" .essential,[pays 1,reports 1 3,cancelled 1 .essential none,reports 1 4],
  opens 2 "a" .pro,[pays 2,reports 2 5]].flatten

def after (events:List Event):System:=events.foldl (step sampleConfiguration) (initial 1000000)

/-- Seats counted from the rows alone are sold six times, and to one account twice. -/
theorem founding_oversold : ¬SeatsHold (after sixCheckouts) ∧ ¬SeatsHold (after comesBack):=by
 have sold:(after sixCheckouts).obtained=["f","e","d","c","b","a"] ∧
   (after comesBack).obtained=["a","a"]:=by decide +kernel
 constructor
 · simp[SeatsHold,sold.1,foundingMaximumAccounts]
 · simp[SeatsHold,sold.2]

def twoSeats:List Event:=[opens 0 "a" .pro,opens 1 "b" .pro,[pays 0,reports 0 1,pays 1,reports 1 1,
  cancelled 0 .pro (some "coupon_founding"),reports 0 2]].flatten

theorem twoSeats_hold : (after twoSeats).obtained=["b","a"] ∧ SeatsHold (after twoSeats):=by
 have run:(after twoSeats).obtained=["b","a"] ∧
   Runs.Along (step sampleConfiguration) (KeepsSeats sampleConfiguration) (initial 1000000)
    twoSeats:=by decide +kernel
 exact ⟨run.1,founding_seats_hold sampleConfiguration 1000000 twoSeats run.2 twoSeats
  (List.prefix_refl _)⟩

end Kivou.FoundingOffer
