import Kivou.PlanChangeRuns

set_option autoImplicit false

/-! The key of a request carries the counter of the row, which only a committed operation advances:
a request that was rolled back keeps its key, and a key is never committed twice. -/
namespace Kivou.PlanKeys
open BillingCatalogue BillingSubscription PlanChange PlanChangeRuns

lemma idempotencyKey_toList (kind:ChangeKind)(subscriptionId:String)
 (source target:PlanCode)(currency:Currency)(n:ℕ) :
 (idempotencyKey kind subscriptionId source target currency n).toList =
  "kivou-plan-".toList++(kind.code.toList ++ ':' :: (subscriptionId.toList ++
   ':' :: ((toString n).toList ++ ':' :: (source.code.toList++("->".toList ++
    (target.code.toList ++ ':' :: currency.code.toList)))))):=by
 have colon:":".toList=[':']:=by simp
 unfold idempotencyKey
 simp only[String.toList_append,List.append_assoc]
 rw[colon]
 simp only[List.singleton_append]

lemma idempotencyKey_sequence {kind kind':ChangeKind}{subscriptionId:String}
 {source source' target target':PlanCode}{currency currency':Currency}{n m:ℕ}
 (h:idempotencyKey kind subscriptionId source target currency n =
  idempotencyKey kind' subscriptionId source' target' currency' m):n=m:=by
 have chars:=congrArg String.toList h
 rw[idempotencyKey_toList,idempotencyKey_toList] at chars
 have parts:=List.append_cancel_left chars
 have noColon:∀k:ChangeKind,':' ∉ k.code.toList:=by
  intro k
  cases k <;> decide +kernel
 obtain ⟨-,rest⟩:=Texts.append_cons_inj (noColon kind) (noColon kind') parts
 exact (Texts.number_inj (by decide) (List.cons.inj (List.append_cancel_left rest)).2).1

def OnPrice (prices:Prices)(s:Stripe)(plan:PlanCode):Prop:=
 ∃currency priceId,IsPrice prices plan currency priceId ∧ s.object.priceId=some priceId

def Fresh (prices:Prices)(customerId:Option String)(st:System):Step→Prop
 | .request target _ fates=>fates.price=true→fates.change.1=.delivered →
   ∀key,requestKey customerId target st.row=some key → reply st.stripe key≠some .refused ∧
     ∀state,reply st.stripe key=some (.changed state)→OnPrice prices st.stripe target
 | _=>True

section
variable {prices:Prices}{customerId:Option String}{livemode:Bool}{st:System}
 {target:PlanCode}{now:ℕ}{fates:Fates}

def Answered (prices:Prices)(customerId:Option String)(livemode:Bool)(st:System)
 (target:PlanCode)(now:ℕ)(fates:Fates):Prop:=
 (∀row plan effectiveAt,(answer prices customerId livemode st target now fates).1 =
   .ok (row,⟨.immediate,plan,effectiveAt⟩) →
  OnPrice prices (answer prices customerId livemode st target now fates).2 plan) ∧
 ((answer prices customerId livemode st target now fates).1 =
   .error (.gateway .planChangePaymentFailed) →
  (answer prices customerId livemode st target now fates).2.tried=st.stripe.tried+1)

def RolledBack (prices:Prices)(customerId:Option String)(livemode:Bool)(st:System) : Step→Prop
 | .request target now fates =>∃e,(answer prices customerId livemode st target now fates).1=.error e
 | _=>False

structure Keyed (livemode:Bool)(st:System):Prop extends Own livemode st where
 distinct:st.committedKeys.Nodup
 older:∀key∈st.committedKeys,∃row kind source target currency n,st.row=some row ∧
  n<row.planChangeSequence ∧
   key=idempotencyKey kind st.stripe.object.subscriptionId source target currency n

lemma keyed_start (object:StripeSubscriptionState):Keyed livemode (start livemode object):=
 ⟨own_start object,List.nodup_nil,fun _ h=>(by cases h)⟩

lemma Keyed.grown (h:Keyed livemode st){st':System}(own:Own livemode st')
 (sameId:st'.stripe.object.subscriptionId=st.stripe.object.subscriptionId)
 (keys:st'.committedKeys=st.committedKeys)
 (row:∀row,st.row=some row→∃row',st'.row=some row' ∧
  row.planChangeSequence≤row'.planChangeSequence):Keyed livemode st':=by
 refine ⟨own,keys ▸ h.distinct,fun key mem=>?_⟩
 obtain ⟨before,kind,source,target,currency,n,found,less,eq⟩:=h.older key (keys ▸ mem)
 obtain ⟨after,found',le⟩:=row before found
 exact ⟨after,kind,source,target,currency,n,found',by omega,by rw[sameId,eq]⟩

lemma keyed_request (h:Keyed livemode st)(target:PlanCode)(now:ℕ)(fates:Fates) :
 Keyed livemode (step prices customerId livemode st (.request target now fates)):=by
 obtain ⟨own,sameId⟩:=own_step prices customerId (.request target now fates) h.toOwn
 obtain ⟨a,s',answered⟩ :
   ∃a s',answer prices customerId livemode st target now fates=(a,s'):=⟨_,_,rfl⟩
 have keys:=keys_request answered
 have writes:=row_request answered
 rcases committed_answer answered with
  ⟨kept,silent⟩ | ⟨on,kind,key,row',outcome,asked,ok,-,next⟩
 · refine h.grown own sameId ?_ fun row found=>
    ⟨row,(writes.trans kept).trans found,Nat.le_refl _⟩
   rw[keys]
   split
   · rename_i committed
     rw[silent committed]
     rfl
   · rfl
 · have found:=(changeable_ok asked.found).1
   have key_eq:key=idempotencyKey kind st.stripe.object.subscriptionId on.planCode target
     on.currency on.row.planChangeSequence:=by
    rw[asked.key_eq,h.own on.row found]
   have row:(step prices customerId livemode st (.request target now fates)).row=some row':=by
    rw[writes,ok,committed]
   have added:(step prices customerId livemode st (.request target now fates)).committedKeys =
     key::st.committedKeys:=by
    rw[keys,ok,asked.requestKey_eq]
    rfl
   refine ⟨own,?_,?_⟩
   · rw[added]
     refine List.nodup_cons.mpr ⟨fun mem=>?_,h.distinct⟩
     obtain ⟨before,kind',source,target',currency,n,found',less,eq⟩:=h.older key mem
     obtain rfl:=Option.mem_unique found found'
     have same:=idempotencyKey_sequence (key_eq.symm.trans eq)
     omega
   · intro other mem
     rw[added] at mem
     rw[sameId]
     rcases List.mem_cons.mp mem with rfl|mem
     · exact ⟨row',kind,_,_,_,_,row,by omega,key_eq⟩
     · obtain ⟨before,kind',source,target',currency,n,found',less,eq⟩:=h.older other mem
       obtain rfl:=Option.mem_unique found found'
       exact ⟨row',kind',source,target',currency,n,row,by omega,eq⟩

lemma keyed_step (st:System)(i:Step)(h:Keyed livemode st) :
 Keyed livemode (step prices customerId livemode st i):=by
 cases i with
 | request target now fates=>exact keyed_request h target now fates
 | cancel now fates =>
  obtain ⟨own,sameId⟩:=own_step prices customerId (.cancel now fates) h.toOwn
  refine h.grown own sameId rfl fun row found=>?_
  rcases (row_cancel prices customerId livemode st now fates).1 with
   kept | ⟨before,found',cleared⟩
  · exact ⟨row,kept.trans found,Nat.le_refl _⟩
  · obtain rfl:=Option.mem_unique found found'
    exact ⟨_,cleared,Nat.le_succ _⟩
 | synchronize next performed eventCreatedAt now =>
  obtain ⟨own,sameId⟩:=
   own_step prices customerId (.synchronize next performed eventCreatedAt now) h.toOwn
  refine h.grown own sameId ?_ fun row found=>?_
  · rw[step_synchronize h.toOwn]
  · rw[step_synchronize h.toOwn,found]
    refine ⟨_,rfl,?_⟩
    by_cases stale:isStale row eventCreatedAt=true
    · simp[syncedRow,stale]
    · simp[syncedRow,stale,updateRow]

lemma reply_cons (s:Stripe)(key key':String)(r:StoredReply) :
 reply {s with stored:=(key,r)::s.stored} key' =
  if key=key' then some r else reply s key':=by
 by_cases same:key=key'
 · simp[reply,same]
 · simp[reply,same]

structure BilledOnce (s:Stripe):Prop where
 distinct:s.billed.Nodup
 remembered:∀key∈s.billed,(reply s key).isSome

lemma BilledOnce.of_same {s s':Stripe}(h:BilledOnce s)(stored:s'.stored=s.stored)
 (billed:s'.billed=s.billed):BilledOnce s':=by
 refine ⟨billed ▸ h.distinct,fun key mem=>?_⟩
 have before:=h.remembered key (billed ▸ mem)
 simpa[reply,stored] using before

lemma BilledOnce.cons {s s':Stripe}(h:BilledOnce s){key:String}{r:StoredReply}
 (fresh:reply s key=none)(stored:s'.stored=(key,r)::s.stored)
 (billed:s'.billed=s.billed ∨ s'.billed=key::s.billed):BilledOnce s':=by
 have answered:∀key',reply s' key'=if key=key' then some r else reply s key':=by
  intro key'
  rw[←reply_cons]
  simp[reply,stored]
 have new:key∉s.billed:=fun mem=>by
  have remembered:=h.remembered key mem
  simp[fresh] at remembered
 refine ⟨?_,fun key' mem=>?_⟩
 · rcases billed with kept|added
   · exact kept ▸ h.distinct
   · exact added ▸ List.nodup_cons.mpr ⟨new,h.distinct⟩
 · rw[answered]
   split
   · rfl
   · rename_i other
     refine h.remembered key' ?_
     rcases billed with kept|added
     · exact kept ▸ mem
     · rw[added] at mem
       exact (List.mem_cons.mp mem).resolve_left fun same=>other same.symm

lemma billed_handleChange (prices:Prices)(priceId key:String)
 (next:Option StripeSubscriptionState)(s:Stripe)(h:BilledOnce s) :
 BilledOnce (handleChange prices priceId key next s).2 ∧
  ((handleChange prices priceId key next s).2.billed=s.billed ∨
   (handleChange prices priceId key next s).2.billed=key::s.billed):=by
 unfold handleChange
 split
 · exact ⟨h,.inl rfl⟩
 · exact ⟨h,.inl rfl⟩
 · exact ⟨h,.inl rfl⟩
 · rename_i fresh
   cases next with
   | none=>exact ⟨h.cons fresh rfl (.inl rfl),.inl rfl⟩
   | some next=>exact ⟨h.cons fresh rfl (.inr rfl),.inr rfl⟩

lemma billed_handleSchedule (priceId key:String)(change:Option StripeScheduledChange)
 (s:Stripe)(h:BilledOnce s) :
 BilledOnce (handleSchedule priceId key change s).2 ∧
  (handleSchedule priceId key change s).2.billed=s.billed:=by
 unfold handleSchedule
 split
 · exact ⟨h,rfl⟩
 · exact ⟨h,rfl⟩
 · rename_i fresh
   exact ⟨h.cons fresh rfl (.inl rfl),rfl⟩

lemma billed_answer {a:Answer}{s':Stripe}(h:BilledOnce st.stripe)
 (answered:answer prices customerId livemode st target now fates=(a,s')) :
 BilledOnce s' ∧ (s'.billed=st.stripe.billed ∨ ∃key,
  requestKey customerId target st.row=some key ∧ s'.billed=key::st.stripe.billed):=by
 cases answer_cases answered with
 | idle kept _=>exact ⟨kept ▸ h,.inl (by rw[kept])⟩
 | announced on _ _ _ kept=>exact ⟨kept ▸ h,.inl (by rw[kept])⟩
 | stopped on key asked before error =>
  obtain ⟨-,stored,billed,-⟩:=released_kept before
  exact ⟨h.of_same stored billed,.inl billed⟩
 | changed on key asked known priceId price s₁ before stripe replied =>
  obtain ⟨-,stored,billed,-⟩:=released_kept before
  obtain ⟨once,made⟩:=
   billed_handleChange prices priceId key fates.change.2 s₁ (h.of_same stored billed)
  rw[billed] at made
  rw[stripe]
  rcases made with kept|added
  · exact ⟨once,.inl kept⟩
  · exact ⟨once,.inr ⟨key,asked.requestKey_eq,added⟩⟩
 | scheduled on key asked priceId price stripe replied =>
  obtain ⟨once,kept⟩:=billed_handleSchedule priceId (phasesKey key) fates.schedule.2 st.stripe h
  rw[stripe]
  exact ⟨once,.inl kept⟩

lemma billed_step (st:System)(i:Step)(own:Own livemode st)(h:BilledOnce st.stripe) :
 BilledOnce (step prices customerId livemode st i).stripe:=by
 cases i with
 | request target now fates=>exact (billed_answer h rfl).1
 | cancel now fates =>
  obtain ⟨-,pending,stripe⟩:=row_cancel prices customerId livemode st now fates
  rw[stripe]
  exact h.of_same rfl rfl
 | synchronize next performed eventCreatedAt now =>
  rw[step_synchronize own]
  unfold moveOn
  split
  · split <;> exact h.of_same rfl rfl
  · exact h

def requests (target:PlanCode)(tries:List (ℕ × Fates)):List Step:=
 tries.map fun (now,fates)=>.request target now fates

lemma billed_requests {tries:List (ℕ × Fates)}(h:BilledOnce st.stripe)
 (rolled:Runs.Along (step prices customerId livemode)
  (RolledBack prices customerId livemode) st (requests target tries)) :
 let again:=(requests target tries).foldl (step prices customerId livemode) st
 again.row=st.row ∧ BilledOnce again.stripe ∧ (again.stripe.billed=st.stripe.billed ∨ ∃key,
   requestKey customerId target st.row=some key ∧ again.stripe.billed=key::st.stripe.billed):=by
 induction tries generalizing st with
 | nil=>exact ⟨rfl,h,.inl rfl⟩
 | cons first tries ih =>
  obtain ⟨now,fates⟩:=first
  obtain ⟨⟨e,error⟩,rest⟩:=rolled
  obtain ⟨once,billed⟩:=billed_answer h (Prod.ext error rfl)
  have row:(step prices customerId livemode st (.request target now fates)).row=st.row:=
   (row_request (Prod.ext error rfl)).trans (committed_error rfl)
  obtain ⟨row',once',billed'⟩:=ih once rest
  rw[row] at row' billed'
  refine ⟨row',once',?_⟩
  rcases billed with kept|⟨key,used,added⟩
  · rw[←kept]
    exact billed'
  · rcases billed' with kept' | ⟨key',used',added'⟩
    · exact .inr ⟨key,used,kept'.trans added⟩
    · -- the key is remembered since the first bill
      obtain rfl:=Option.mem_unique used used'
      have distinct:=once'.distinct
      rw[added'] at distinct
      have again:key∈(step prices customerId livemode st
        (.request target now fates)).stripe.billed:=added ▸ List.mem_cons_self
      exact absurd again (List.nodup_cons.mp distinct).1

lemma billed_again {tries:List (ℕ × Fates)}(h:BilledOnce st.stripe)
 (rolled:Runs.Along (step prices customerId livemode)
  (RolledBack prices customerId livemode) st (requests target tries))(now:ℕ)(fates:Fates) :
 (answer prices customerId livemode
  ((requests target tries).foldl (step prices customerId livemode) st) target now
   fates).2.billed.length ≤ st.stripe.billed.length+1:=by
 obtain ⟨row,once,billed⟩:=billed_requests h rolled
 generalize (requests target tries).foldl (step prices customerId livemode) st=again at *
 obtain ⟨a,s',answered⟩ :
   ∃a s',answer prices customerId livemode again target now fates=(a,s'):=⟨_,_,rfl⟩
 rw[answered]
 obtain ⟨once',billed'⟩:=billed_answer once answered
 rcases billed' with kept|⟨key,used,added⟩
 · rcases billed with kept' | ⟨key,-,added⟩
   · rw[kept,kept']
     exact Nat.le_succ _
   · rw[kept,added,List.length_cons]
 · rcases billed with kept' | ⟨key',used',added'⟩
   · rw[added,kept',List.length_cons]
   · rw[row] at used
     obtain rfl:=Option.mem_unique used used'
     have distinct:=once'.distinct
     rw[added,added'] at distinct
     exact absurd List.mem_cons_self (List.nodup_cons.mp distinct).1

lemma handleChange_answer {plan:PlanCode}{priceId key:String}{currency:Currency}
 (price:IsPrice prices plan currency priceId)(next:Option StripeSubscriptionState)
 (s:Stripe)(unrefused:reply s key≠some .refused)
 (still:∀state,reply s key=some (.changed state)→OnPrice prices s plan) :
 (∀state,(handleChange prices priceId key next s).1=.ok state →
   OnPrice prices (handleChange prices priceId key next s).2 plan) ∧
  ((handleChange prices priceId key next s).1=.error .planChangePaymentFailed →
   (handleChange prices priceId key next s).2.tried=s.tried+1):=by
 unfold handleChange
 split
 · rename_i state stored
   exact ⟨fun _ _=>still state stored,fun failed=>by cases failed⟩
 · rename_i stored
   exact absurd stored unrefused
 · exact ⟨fun _ made=>(by cases made),fun failed=>by cases failed⟩
 · cases next with
   | none=>exact ⟨fun _ made=>(by cases made),fun _=>rfl⟩
   | some next=>exact ⟨fun _ _=>⟨currency,priceId,price,rfl⟩,fun failed=>by cases failed⟩

lemma writeUpgrade_outcome {on:Changeable}{state:StripeSubscriptionState}
 {row:StoredSubscription}{outcome:PlanChangeOutcome}
 (h:writeUpgrade on target now livemode state=.ok (row,outcome)) :
 outcome.planCode=target:=by
 unfold writeUpgrade at h
 split at h
 · cases h
 · cases h
   rfl

lemma writeUpgrade_error {on:Changeable}{state:StripeSubscriptionState}
 {e:PlanChangeError}(h:writeUpgrade on target now livemode state=.error e) :
 ∃e',e=.sync e':=by
 unfold writeUpgrade at h
 split at h
 · rename_i e' _
   cases h
   exact ⟨e',rfl⟩
 · cases h

lemma settled_failed {α:Type}{write:α→Answer}{fate:Fate}{r:Except GatewayError α}
 (h:settled write fate r=.error (.gateway .planChangePaymentFailed))
 (unwritten:∀value,write value≠.error (.gateway .planChangePaymentFailed)) :
 fate=.delivered ∧ r=.error .planChangePaymentFailed:=by
 unfold settled at h
 split at h
 · rename_i delivered
   cases r with
   | error e =>
    cases h
    exact ⟨delivered,rfl⟩
   | ok value=>exact absurd h (unwritten value)
 · cases h

lemma answered_of_fresh (fresh:Fresh prices customerId st (.request target now fates)) :
 Answered prices customerId livemode st target now fates:=by
 unfold Answered
 obtain ⟨a,s',answered⟩ :
   ∃a s',answer prices customerId livemode st target now fates=(a,s'):=⟨_,_,rfl⟩
 rw[answered]
 cases answer_cases answered with
 | idle _ error =>
  obtain ⟨e,rfl,other⟩:=error
  exact ⟨fun _ _ _ ok=>(by cases ok),fun failed=>absurd (Except.error.inj failed) other⟩
 | announced on _ _ repeated _ =>
  subst repeated
  exact ⟨fun _ _ _ ok=>(by cases ok),fun failed=>by cases failed⟩
 | stopped on key asked before error =>
  obtain ⟨e,rfl,other⟩:=error
  exact ⟨fun _ _ _ ok=>(by cases ok),fun failed=>absurd (Except.error.inj failed) other⟩
 | scheduled on key asked priceId price stripe replied =>
  constructor
  · rintro row plan effectiveAt rfl
    obtain ⟨scheduled,-,made⟩:=settled_ok replied.symm
    cases made
  · rintro rfl
    obtain ⟨-,refused⟩:=settled_failed replied.symm fun _ made=>by cases made
    unfold handleSchedule at refused
    split at refused <;> cases refused
 | changed on key asked known priceId price s₁ before stripe replied =>
  obtain ⟨object,stored,-,tried⟩:=released_kept before
  by_cases delivered:fates.change.1=.delivered
  · obtain ⟨unrefused,still⟩:=fresh known delivered key asked.requestKey_eq
    have same:reply s₁ key=reply st.stripe key:=by rw[reply,stored,reply]
    obtain ⟨made,failed⟩:=handleChange_answer price fates.change.2 s₁ (same ▸ unrefused)
     fun state reached=>by
      obtain ⟨currency,priceId,price,on⟩:=still state (same ▸ reached)
      exact ⟨currency,priceId,price,by rw[object,on]⟩
    rw[stripe]
    constructor
    · rintro row plan effectiveAt rfl
      obtain ⟨state,ok,written⟩:=settled_ok replied.symm
      obtain rfl:plan=target:=writeUpgrade_outcome written
      exact made state ok
    · rintro rfl
      obtain ⟨-,refused⟩:=settled_failed replied.symm fun state written=>by
       obtain ⟨_,other⟩:=writeUpgrade_error written
       cases other
      rw[failed refused,tried]
  · unfold settled at replied
    rw[if_neg delivered] at replied
    subst replied
    exact ⟨fun _ _ _ ok=>(by cases ok),fun failed=>by cases failed⟩

/-- Committed keys are distinct, a request that is rolled back is billed once
however often it is repeated, and what a request answers is what Stripe does. -/
theorem plan_change_keys (object:StripeSubscriptionState)(run:List Step) :
 let reach:=fun steps=>List.foldl (step prices customerId livemode) (start livemode object) steps
 (reach run).committedKeys.Nodup ∧
 (∀target tries,Runs.Along (step prices customerId livemode)
   (RolledBack prices customerId livemode) (reach run) (requests target tries) →
  let again:=(requests target tries).foldl (step prices customerId livemode) (reach run)
  requestKey customerId target again.row=requestKey customerId target (reach run).row ∧
   ∀now fates,(answer prices customerId livemode again target now fates).2.billed.length ≤
    (reach run).stripe.billed.length+1) ∧
 (Runs.Along (step prices customerId livemode) (Fresh prices customerId)
   (start livemode object) run →
  ∀before target now fates,before++[.request target now fates] <+: run →
   Answered prices customerId livemode (reach before) target now fates):=by
 intro reach
 have kept:Keyed livemode (reach run) ∧ BilledOnce (reach run).stripe:=by
  refine Runs.invariant (fun st=>Keyed livemode st ∧ BilledOnce st.stripe)
   (fun st i h=>⟨keyed_step st i h.1,billed_step st i h.1.toOwn h.2⟩) run ?_
  exact ⟨keyed_start object,List.nodup_nil,fun _ mem=>by cases mem⟩
 obtain ⟨keyed,once⟩:=kept
 refine ⟨keyed.distinct,fun target tries rolled=>?_,fun fresh before target now fates reached=>?_⟩
 · refine ⟨by rw[(billed_requests once rolled).1],fun now fates=>?_⟩
   exact billed_again once rolled now fates
 · exact answered_of_fresh (fresh.at reached)

end

/-- Stripe's answer to the first request is lost, and the second finds it stored. -/
def upgradeRun:List Step:=[sampleSync "price_essential",
  .request .pro 2 {sampleFates "price_pro" with change:=(.lost,some (sampleObject "price_pro"))},
  .request .pro 3 (sampleFates "price_pro")]

theorem plan_change_keys_sample : (reply (sampleRun "price_essential" (upgradeRun.take 2)).stripe
   "kivou-plan-change:sub_1:0:essential->pro:chf").isSome ∧
  (sampleRun "price_essential" upgradeRun).committedKeys =
   ["kivou-plan-change:sub_1:0:essential->pro:chf"] ∧
  (sampleRun "price_essential" upgradeRun).committedKeys.Nodup ∧
  Answered samplePrices (some "cus_1") true
   (sampleRun "price_essential" (upgradeRun.take 2)) .pro 3 (sampleFates "price_pro"):=by
 have fresh:Runs.Along (step samplePrices (some "cus_1") true)
   (Fresh samplePrices (some "cus_1")) (start true (sampleObject "price_essential"))
   upgradeRun:=by
  refine ⟨trivial,fun _ lost=>(by cases lost),fun _ _ key used=>?_,trivial⟩
  have own:some "kivou-plan-change:sub_1:0:essential->pro:chf"=some key:=by
   rw[←used]
   decide +kernel
  cases own
  exact ⟨fun refused=>(by cases refused),fun _ _=>⟨.chf,"price_pro",⟨_,_,rfl,rfl,rfl⟩,by rfl⟩⟩
 obtain ⟨distinct,-,answered⟩:=@plan_change_keys samplePrices (some "cus_1") true
  (sampleObject "price_essential") upgradeRun
 exact ⟨by decide +kernel,by decide +kernel,distinct,answered fresh _ _ _ _ (List.prefix_refl _)⟩

def refusedRun:List Step:=[sampleSync "price_essential",
  .request .pro 2 {sampleFates "price_pro" with change:=(.delivered,none)}]

def lostRun:List Step:=[sampleSync "price_essential",
  .request .pro 2 { sampleFates "price_pro" with
   change:=(.lost,some (sampleObject "price_pro"))},
  .synchronize (sampleObject "price_pro") false (some 3) 3,
  .request .essential 4 {sampleFates "price_essential" with schedule:=(.lost,none)},
  .synchronize (sampleObject "price_essential") true (some 5) 5]

def nextUpgrade (run:List Step):Answer × Stripe:=
 answer samplePrices (some "cus_1") true (sampleRun "price_essential" run) .pro 6
  (sampleFates "price_pro")

/-- The new card is not tried, and the second upgrade is not made. -/
theorem stored_reply_answers_new_request :
 ((nextUpgrade refusedRun).1=.error (.gateway .planChangePaymentFailed) ∧
  (nextUpgrade refusedRun).2.tried=(sampleRun "price_essential" refusedRun).stripe.tried) ∧
 (nextUpgrade lostRun).1.toOption.map Prod.snd=some ⟨.immediate,.pro,none⟩ ∧
  (nextUpgrade lostRun).2.object.priceId=some "price_essential":=by
 exact ⟨⟨by rfl,by decide +kernel⟩,by decide +kernel,by decide +kernel⟩

end Kivou.PlanKeys
