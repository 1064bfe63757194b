import Kivou.CheckoutSessions

set_option autoImplicit false

/-! In every interleaving at most one Checkout session of an account can be paid at any time: every
attempt but the account's current one is over, and an attempt has one session. -/
namespace Kivou.CheckoutInvariant
open BillingCatalogue CheckoutAttempts CheckoutSessions

def OnePayable (st:System):Prop:=∀s∈st.sessions,∀t∈st.sessions,s.accountId=t.accountId →
  s.live st.clock=true→t.live st.clock=true→s=t

def Over (st:System)(i:Identity):Prop:=
 i.sentExpiry*1000000 ≤ st.clock ∨ i.idempotencyKey∈st.refused ∨
  ∃s∈st.sessions,s.idempotencyKey=i.idempotencyKey ∧ s.completed=true

structure RowSound (st:System)(row:StoredAttempt):Prop where
 issued:identity row∈st.issued
 terminal:row.isTerminal=true→Over st (identity row)
 linked:∀sessionId,row.stripeCheckoutSessionId=some sessionId →
  ∃s∈st.sessions,s.sessionId=sessionId ∧ s.idempotencyKey=row.idempotencyKey
 opened:row.status=.opened → row.stripeCheckoutSessionId.isSome

structure StripeSound (st:System):Prop where
 issued:∀s∈st.sessions,∃i∈st.issued,s.idempotencyKey=i.idempotencyKey ∧
  s.accountId=i.accountId ∧ s.expiresAt=i.sentExpiry
 keys:∀s∈st.sessions,∀t∈st.sessions,s.idempotencyKey=t.idempotencyKey→s=t
 ids:∀s∈st.sessions,∀t∈st.sessions,s.sessionId=t.sessionId→s=t
 refused:∀s∈st.sessions,s.idempotencyKey∉st.refused

/-- Each phase remembers only attempts that were reserved for its account. An
attempt it saw closed can be paid no more, whatever its row says by now. -/
def PhaseSound (st:System)(q:Request):Prop:=
 match q.phase with
 | .started | .finished | .observed none _=>True
 | .observed (some found) _ =>
  found.accountId=q.accountId ∧ identity found∈st.issued ∧
   (found.isOpen q.now=false→Over st (identity found))
 | .prepared checkout =>checkout.attempt.accountId=q.accountId ∧ identity checkout.attempt∈st.issued
 | .answered checkout (.session sessionId) =>
  checkout.attempt.accountId=q.accountId ∧ identity checkout.attempt∈st.issued ∧
   ∃s∈st.sessions,s.sessionId=sessionId ∧ s.idempotencyKey=checkout.attempt.idempotencyKey
 | .answered checkout .rejected =>
  checkout.attempt.accountId=q.accountId ∧ identity checkout.attempt∈st.issued ∧
   checkout.attempt.idempotencyKey∈st.refused

structure Sound (st:System):Prop where
 unique:(st.issued.map Identity.attemptId).Nodup
 owned:∀accountId row,st.attempts accountId=some row → row.accountId=accountId
 rows:∀accountId row,st.attempts accountId=some row→RowSound st row
 current:∀i∈st.issued,(∃row,st.attempts i.accountId=some row ∧ identity row=i) ∨ Over st i
 stripe:StripeSound st
 reported:∀sessionId∈st.reported,∃s∈st.sessions,s.sessionId=sessionId
 requests:∀q∈st.requests,q.now ≤ st.clock ∧ PhaseSound st q

lemma key_inj {i j:Identity}(h:i.idempotencyKey=j.idempotencyKey) : i.attemptId=j.attemptId:=by
 have:=congrArg String.toList h
 simp only[Identity.idempotencyKey,String.toList_append,List.append_cancel_left_eq] at this
 exact String.toList_injective this

variable {i now:ℕ}{st st':System}{row:StoredAttempt}{q:Request} {sessionId attemptId:String}

lemma Sound.identity_eq (h:Sound st){i j:Identity}(hi:i∈st.issued)
 (hj:j∈st.issued)(same:i.attemptId=j.attemptId):i=j:=
 List.inj_on_of_nodup_map h.unique hi hj same

lemma sound_initial (clock:ℕ):Sound (initial clock) where
 unique:=List.nodup_nil
 owned _ _ h:=by cases h
 rows _ _ h:=by cases h
 current _ h:=by cases h
 stripe:=⟨fun _ h=>(by cases h),fun _ h=>(by cases h),fun _ h=>(by cases h),fun _ h=>(by cases h)⟩
 reported _ h:=by cases h
 requests _ h:=by cases h

lemma Sound.onePayable (h:Sound st):OnePayable st:=by
 have mine:∀s∈st.sessions,s.live st.clock=true →
   ∃row,st.attempts s.accountId=some row ∧ row.idempotencyKey=s.idempotencyKey:=by
  intro s hs live
  simp only[Session.live,Bool.and_eq_true,Bool.not_eq_true',decide_eq_true_eq] at live
  obtain ⟨i,hi,key,account,expiry⟩:=h.stripe.issued s hs
  rcases h.current i hi with ⟨row,found,rfl⟩|past
  · exact ⟨row,account ▸ found,key.symm⟩
  · rcases past with past|refused|⟨t,ht,same,paid⟩
    · rw[expiry] at live
      omega
    · exact absurd (key ▸ refused) (h.stripe.refused s hs)
    · rw[h.stripe.keys t ht s hs (same.trans key.symm),live.1] at paid
      cases paid
 intro s hs t ht account liveS liveT
 obtain ⟨row,found,key⟩:=mine s hs liveS
 obtain ⟨row',found',key'⟩:=mine t ht liveT
 have same:row=row':=Option.some.inj (found.symm.trans (account ▸ found'))
 exact h.stripe.keys s hs t ht (key.symm.trans (same ▸ key'))

/-- Time passes, reservations and refusals are kept, sessions stay or complete. -/
structure Later (st st':System):Prop where
 clock:st.clock ≤ st'.clock
 issued:∀i∈st.issued,i∈st'.issued
 refused:∀key∈st.refused,key∈st'.refused
 sessions:∀s∈st.sessions,∃t∈st'.sessions,t.sessionId=s.sessionId ∧
  t.idempotencyKey=s.idempotencyKey ∧ (s.completed=true→t.completed=true)

lemma Over.later (l:Later st st'){i:Identity}(h:Over st i) :
 Over st' i:=by
 rcases h with past|refused|⟨s,hs,key,paid⟩
 · exact .inl (past.trans l.clock)
 · exact .inr (.inl (l.refused _ refused))
 · obtain ⟨t,ht,-,same,done⟩:=l.sessions s hs
   exact .inr (.inr ⟨t,ht,same.trans key,done paid⟩)

lemma RowSound.later (l:Later st st') (h:RowSound st row):RowSound st' row where
 issued:=l.issued _ h.issued
 terminal t:=(h.terminal t).later l
 linked sessionId hid:=by
  obtain ⟨s,hs,id,key⟩:=h.linked sessionId hid
  obtain ⟨t,ht,id',key',-⟩:=l.sessions s hs
  exact ⟨t,ht,id'.trans id,key'.trans key⟩
 opened:=h.opened

lemma PhaseSound.later (l:Later st st') (h:PhaseSound st q):PhaseSound st' q:=by
 unfold PhaseSound at h ⊢
 split at h
 · trivial
 · trivial
 · trivial
 · exact ⟨h.1,l.issued _ h.2.1,fun closed=>(h.2.2 closed).later l⟩
 · exact ⟨h.1,l.issued _ h.2⟩
 · obtain ⟨account,issued,s,hs,id,key⟩:=h
   obtain ⟨t,ht,id',key',-⟩:=l.sessions s hs
   exact ⟨account,l.issued _ issued,t,ht,id'.trans id,key'.trans key⟩
 · exact ⟨h.1,l.issued _ h.2.1,l.refused _ h.2.2⟩

lemma Later.of_eq (clock:st.clock ≤ st'.clock)(issued:st'.issued=st.issued)
 (refused:st'.refused=st.refused)(sessions:st'.sessions=st.sessions):Later st st' where
 clock:=clock
 issued:=by rw[issued];exact fun _ h=>h
 refused:=by rw[refused];exact fun _ h=>h
 sessions s hs:=⟨s,sessions ▸ hs,rfl,rfl,fun h=>h⟩

lemma StripeSound.of_eq (h:StripeSound st)
 (issued:∀i∈st.issued,i∈st'.issued)(refused:st'.refused=st.refused)
 (sessions:st'.sessions=st.sessions):StripeSound st':=by
 refine ⟨?_,?_,?_,?_⟩
 · rw[sessions]
   intro s hs
   obtain ⟨i,hi,rest⟩:=h.issued s hs
   exact ⟨i,issued i hi,rest⟩
 · rw[sessions]
   exact h.keys
 · rw[sessions]
   exact h.ids
 · rw[sessions,refused]
   exact h.refused

lemma Sound.reported_later (h:Sound st)(l:Later st st')(hr:sessionId∈st.reported) :
 ∃s∈st'.sessions,s.sessionId=sessionId:=by
 obtain ⟨s,hs,id⟩:=h.reported sessionId hr
 obtain ⟨t,ht,id',-⟩:=l.sessions s hs
 exact ⟨t,ht,id'.trans id⟩

lemma Sound.mapped (h:Sound st)(l:Later st st')
 (issued:st'.issued=st.issued)(f:String→StoredAttempt→StoredAttempt)
 (attempts:∀accountId,st'.attempts accountId=(st.attempts accountId).map (f accountId))
 (kept:∀accountId row,identity (f accountId row)=identity row)
 (rows:∀accountId row,st.attempts accountId=some row→RowSound st' (f accountId row))
 (stripe:StripeSound st')
 (reported:∀sessionId∈st'.reported,sessionId∈st.reported ∨
  ∃s∈st'.sessions,s.sessionId=sessionId)
 (requests:∀q∈st'.requests,q.now ≤ st'.clock ∧ PhaseSound st' q):Sound st' where
 unique:=issued ▸ h.unique
 owned accountId row hr:=by
  rw[attempts] at hr
  obtain ⟨old,hold,rfl⟩:=Option.map_eq_some_iff.mp hr
  have same:(f accountId old).accountId=old.accountId:=
   congrArg Identity.accountId (kept accountId old)
  exact same.trans (h.owned accountId old hold)
 rows accountId row hr:=by
  rw[attempts] at hr
  obtain ⟨old,hold,rfl⟩:=Option.map_eq_some_iff.mp hr
  exact rows accountId old hold
 current i hi:=by
  rcases h.current i (issued ▸ hi) with ⟨row,found,same⟩|past
  · exact .inl ⟨f i.accountId row,by rw[attempts,found,Option.map_some],(kept _ _).trans same⟩
  · exact .inr (past.later l)
 stripe:=stripe
 reported sessionId hr:=by
  rcases reported sessionId hr with old|new
  · exact h.reported_later l old
  · exact new
 requests:=requests

lemma Sound.kept (h:Sound st)(l:Later st st')
 (issued:st'.issued=st.issued)(attempts:st'.attempts=st.attempts)
 (reported:st'.reported=st.reported)(stripe:StripeSound st')
 (requests:∀q∈st'.requests,q.now ≤ st'.clock ∧ PhaseSound st' q):Sound st':=
 h.mapped l issued (fun _ row=>row) (fun accountId=>by rw[attempts];simp)
  (fun _ _=>rfl) (fun accountId row hr=>(h.rows accountId row hr).later l) stripe
  (fun _ hr=>.inl (reported ▸ hr)) requests

lemma Sound.requests_set (h:Sound st)(l:Later st st')
 (hq:st.requests[i]?=some q){phase:Phase}(new:PhaseSound st' {q with phase})
 (requests:st'.requests=st.requests.set i {q with phase}) :
 ∀q'∈st'.requests,q'.now ≤ st'.clock ∧ PhaseSound st' q':=by
 intro q' hq'
 rw[requests] at hq'
 rcases List.mem_or_eq_of_mem_set hq' with old|rfl
 · exact ⟨(h.requests q' old).1.trans l.clock,(h.requests q' old).2.later l⟩
 · exact ⟨(h.requests q (List.mem_of_getElem? hq)).1.trans l.clock,new⟩

lemma sound_setPhase (h:Sound st)
 (hq:st.requests[i]?=some q){phase:Phase}(new:PhaseSound st {q with phase}) :
 Sound (setPhase st i q phase):=by
 have l:Later st (setPhase st i q phase):=Later.of_eq le_rfl rfl rfl rfl
 exact h.kept l rfl rfl rfl (h.stripe.of_eq (fun _ hi=>hi) rfl rfl)
  (h.requests_set l hq (new.later l) rfl)

lemma sentExpiry_le (i:Identity):i.sentExpiry*1000000 ≤ i.expiresAt:=Nat.div_mul_le_self _ _

lemma sound_observe (h:Sound st)
 (hq:st.requests[i]?=some q)(on:Surroundings):Sound (observe st i q on):=by
 unfold observe
 split
 · exact sound_setPhase h hq trivial
 · refine sound_setPhase h hq ?_
   cases found:st.attempts q.accountId with
   | none=>trivial
   | some row =>
    have same:identity (row.expireStale q.now)=identity row:=by
     unfold StoredAttempt.expireStale
     split <;> rfl
    have sound:=h.rows q.accountId row found
    have began:=(h.requests q (List.mem_of_getElem? hq)).1
    have account:(row.expireStale q.now).accountId=q.accountId:=
     (congrArg Identity.accountId same).trans (h.owned q.accountId row found)
    refine ⟨account,same ▸ sound.issued,fun closed=>?_⟩
    rw[same]
    -- it was closed before, or its time had come when the request began
    by_cases terminal:row.isTerminal=true
    · exact sound.terminal terminal
    · have stale:row.expiresAt≤q.now:=by
       by_contra later
       simp[StoredAttempt.expireStale,later,StoredAttempt.isOpen,terminal] at closed
      exact .inl ((sentExpiry_le (identity row)).trans (stale.trans began))

lemma reserve_ok {rows rows':Attempts}{existing:Option StoredAttempt}{accountId:String}
 {planCode:PlanCode}{currency:Currency}{a:StoredAttempt}
 (h:reserve rows existing accountId planCode currency now attemptId=.ok (rows',a)) :
 (rows'=rows ∧ existing=some a) ∨
  (a.accountId=accountId ∧ a.attemptId=attemptId ∧
   (∃row,rows'=Function.update rows accountId (some row) ∧ identity row=identity a ∧
    row.status=.creating ∧ row.stripeCheckoutSessionId=none) ∧
   ∀old,rows accountId=some old→∃found,existing=some found ∧
    found.isOpen now=false ∧ old.attemptId=found.attemptId):=by
 unfold reserve at h
 cases existing with
 | none =>
  cases present:rows accountId with
  | none =>
   simp only[present,Except.ok.injEq,Prod.mk.injEq] at h
   obtain ⟨rfl,rfl⟩:=h
   exact .inr ⟨rfl,rfl,⟨_,rfl,rfl,rfl,rfl⟩,fun old ho=>by cases ho⟩
  | some loser=>simp[present] at h
 | some found =>
  by_cases live:found.isOpen now=true
  · by_cases same:found.status=.creating ∧ found.matchesPlan planCode currency
    · simp only[live,↓reduceIte,same,and_self,Except.ok.injEq,Prod.mk.injEq] at h
      obtain ⟨rfl,rfl⟩:=h
      exact .inl ⟨rfl,rfl⟩
    · simp[live,same] at h
  · cases present:rows accountId with
    | none=>simp[live,present] at h
    | some row =>
     by_cases still:row.attemptId=found.attemptId
     · simp only[live,Bool.false_eq_true,↓reduceIte,present,still,Except.ok.injEq,
        Prod.mk.injEq] at h
       obtain ⟨rfl,rfl⟩:=h
       refine .inr ⟨rfl,rfl,⟨_,rfl,rfl,rfl,rfl⟩,fun old ho=>?_⟩
       cases ho
       exact ⟨found,rfl,by simpa using live,still⟩
     · simp[live,present,still] at h

lemma Sound.replaced (h:Sound st)(l:Later st st')(row:StoredAttempt)
 (attempts:st'.attempts=Function.update st.attempts row.accountId (some row))
 (issued:st'.issued=identity row::st.issued)
 (fresh:∀j∈st.issued,j.attemptId≠row.attemptId)
 (closed:∀old,st.attempts row.accountId=some old→Over st (identity old))
 (reported:st'.reported=st.reported)(sound:RowSound st' row)(stripe:StripeSound st')
 (requests:∀q∈st'.requests,q.now ≤ st'.clock ∧ PhaseSound st' q):Sound st' where
 unique:=by
  rw[issued]
  refine List.nodup_cons.mpr ⟨fun dup=>?_,h.unique⟩
  obtain ⟨j,hj,hid⟩:=List.mem_map.mp dup
  exact fresh j hj hid
 owned accountId r hr:=by
  rw[attempts] at hr
  by_cases here:accountId=row.accountId
  · subst here
    rw[Function.update_self,Option.some.injEq] at hr
    rw[←hr]
  · rw[Function.update_of_ne here] at hr
    exact h.owned accountId r hr
 rows accountId r hr:=by
  rw[attempts] at hr
  by_cases here:accountId=row.accountId
  · subst here
    rw[Function.update_self,Option.some.injEq] at hr
    exact hr ▸ sound
  · rw[Function.update_of_ne here] at hr
    exact (h.rows accountId r hr).later l
 current j hj:=by
  rw[attempts]
  rcases List.mem_cons.mp (issued ▸ hj) with rfl|hj
  · exact .inl ⟨row,Function.update_self ..,rfl⟩
  · rcases h.current j hj with ⟨old,found,rfl⟩|past
    · by_cases here:(identity old).accountId=row.accountId
      · exact .inr ((closed old (here ▸ found)).later l)
      · exact .inl ⟨old,by rw[Function.update_of_ne here];exact found,rfl⟩
    · exact .inr (past.later l)
 stripe:=stripe
 reported _ hr:=h.reported_later l (reported ▸ hr)
 requests:=requests

lemma sound_reserve (h:Sound st)
 (hq:st.requests[i]?=some q){existing:Option StoredAttempt}{terms:Terms}
 (phase:q.phase=.observed existing terms)(attemptId:String) :
 Sound (reserveAndCommit st i q existing terms attemptId):=by
 have seen:PhaseSound st q:=(h.requests q (List.mem_of_getElem? hq)).2
 unfold reserveAndCommit
 split
 · exact h
 rename_i drawn
 have fresh:∀j∈st.issued,j.attemptId≠attemptId:=by simpa using drawn
 split
 · exact sound_setPhase h hq trivial
 rename_i attempts attempt reserved
 rcases reserve_ok reserved with ⟨rfl,rfl⟩|⟨account,new,⟨row,rfl,same,creating,unlinked⟩,closed⟩
 · simp only[PhaseSound,phase] at seen
   have other:attempt.attemptId≠attemptId:=fresh _ seen.2.1
   simp only[other,↓reduceIte]
   exact sound_setPhase h hq ⟨seen.1,seen.2.1⟩
 · simp only[new,↓reduceIte,←same]
   have rowAccount:row.accountId=q.accountId:=(congrArg Identity.accountId same).trans account
   have rowId:row.attemptId=attemptId:=(congrArg Identity.attemptId same).trans new
   have l:Later st { setPhase st i q (.prepared ⟨attempt,terms⟩) with
     attempts:=Function.update st.attempts q.accountId (some row)
     issued:=identity row::st.issued}:=
    ⟨le_rfl,fun _ hi=>List.mem_cons_of_mem _ hi,fun _ hk=>hk,fun s hs=>⟨s,hs,rfl,rfl,fun hc=>hc⟩⟩
   have past:∀old,st.attempts row.accountId=some old→Over st (identity old):=by
    intro old found
    rw[rowAccount] at found
    obtain ⟨e,rfl,shut,still⟩:=closed old found
    simp only[PhaseSound,phase] at seen
    have was:identity e=identity old:=
     h.identity_eq seen.2.1 (h.rows q.accountId old found).issued still.symm
    exact was ▸ seen.2.2 shut
   refine h.replaced l row (by rw[rowAccount]) rfl (rowId ▸ fresh) past rfl ?_
    (h.stripe.of_eq (fun _ hi=>List.mem_cons_of_mem _ hi) rfl rfl) (h.requests_set l hq ?_ rfl)
   · exact ⟨List.mem_cons_self,by simp[StoredAttempt.isTerminal,creating],
      by simp[unlinked],by simp[creating]⟩
   · exact ⟨account,same ▸ List.mem_cons_self⟩

/-! ### Stripe's side -/

lemma answer_later (st:System)(q:Request)(a:StoredAttempt)(fresh:Answer) :
 Later st (answer st q a fresh).1:=by
 unfold answer
 split
 · exact Later.of_eq le_rfl rfl rfl rfl
 · split
   · exact Later.of_eq le_rfl rfl rfl rfl
   · split
     · exact ⟨le_rfl,fun _ hi=>hi,fun _ hk=>List.mem_cons_of_mem _ hk,
        fun s hs=>⟨s,hs,rfl,rfl,fun hc=>hc⟩⟩
     · exact ⟨le_rfl,fun _ hi=>hi,fun _ hk=>hk,
        fun s hs=>⟨s,List.mem_cons_of_mem _ hs,rfl,rfl,fun hc=>hc⟩⟩

lemma answer_unchanged (st:System)(q:Request)(a:StoredAttempt)(fresh:Answer) :
 let st':=(answer st q a fresh).1
 st'.issued=st.issued ∧ st'.attempts=st.attempts ∧ st'.requests=st.requests ∧
  st'.reported=st.reported:=by
 unfold answer
 split
 · simp
 · split
   · simp
   · split <;> simp

def Answered (st:System)(a:StoredAttempt):Answer→Prop
 | .session sessionId=>∃s∈st.sessions,s.sessionId=sessionId ∧ s.idempotencyKey=a.idempotencyKey
 | .rejected=>a.idempotencyKey∈st.refused

lemma answer_answered (st:System)(q:Request)(a:StoredAttempt)(fresh:Answer) :
 Answered (answer st q a fresh).1 a (answer st q a fresh).2:=by
 unfold answer
 split
 · rename_i s found
   exact ⟨s,List.mem_of_find?_eq_some found,rfl,by simpa using List.find?_some found⟩
 · split
   · assumption
   · split
     · exact List.mem_cons_self
     · exact ⟨_,List.mem_cons_self,rfl,rfl⟩

lemma answer_stripe (h:StripeSound st){a:StoredAttempt}
 (account:a.accountId=q.accountId)(issued:identity a∈st.issued){fresh:Answer}
 (new:∀s∈st.sessions,fresh≠.session s.sessionId) :
 StripeSound (answer st q a fresh).1:=by
 unfold answer
 split
 · exact h
 rename_i unused
 have unused:∀s∈st.sessions,s.idempotencyKey≠a.idempotencyKey:=by
  simpa using unused
 split
 · exact h
 rename_i unrefused
 split
 · refine ⟨h.issued,h.keys,h.ids,fun s hs=>?_⟩
   intro refused
   rcases List.mem_cons.mp refused with eq|old
   · exact unused s hs eq
   · exact h.refused s hs old
 · rename_i sessionId
   refine ⟨?_,?_,?_,?_⟩
   · intro s hs
     rcases List.mem_cons.mp hs with rfl|hs
     · exact ⟨identity a,issued,rfl,account.symm,rfl⟩
     · exact h.issued s hs
   · intro s hs t ht eq
     rcases List.mem_cons.mp hs with rfl|hs <;> rcases List.mem_cons.mp ht with rfl|ht
     · rfl
     · exact absurd eq.symm (unused t ht)
     · exact absurd eq (unused s hs)
     · exact h.keys s hs t ht eq
   · intro s hs t ht eq
     rcases List.mem_cons.mp hs with rfl|hs <;> rcases List.mem_cons.mp ht with rfl|ht
     · rfl
     · exact absurd (congrArg Answer.session eq) (new t ht)
     · exact absurd (congrArg Answer.session eq.symm) (new s hs)
     · exact h.ids s hs t ht eq
   · intro s hs
     rcases List.mem_cons.mp hs with rfl|hs
     · exact unrefused
     · exact h.refused s hs

lemma sound_call (h:Sound st) (hq:st.requests[i]?=some q){checkout:PreparedCheckout}
 (phase:q.phase=.prepared checkout)(reply:Reply) :
 Sound (call st i q checkout reply):=by
 have seen:PhaseSound st q:=(h.requests q (List.mem_of_getElem? hq)).2
 simp only[PhaseSound,phase] at seen
 cases reply with
 | unreached=>exact sound_setPhase h hq trivial
 | handled fresh delivered =>
  unfold call
  dsimp only
  split
  · exact h
  rename_i used
  have new:∀s∈st.sessions,fresh≠.session s.sessionId:=by simpa using used
  have l:=answer_later st q checkout.attempt fresh
  obtain ⟨issued,attempts,requests,reported⟩:=answer_unchanged st q checkout.attempt fresh
  have told:=answer_answered st q checkout.attempt fresh
  have after:Sound (answer st q checkout.attempt fresh).1:=
   h.kept l issued attempts reported (answer_stripe h.stripe seen.1 seen.2 new) (by
    rw[requests]
    exact fun q' hq'=>⟨(h.requests q' hq').1.trans l.clock,(h.requests q' hq').2.later l⟩)
  refine sound_setPhase after (requests ▸ hq) ?_
  cases delivered with
  | false=>trivial
  | true =>
   cases given:(answer st q checkout.attempt fresh).2 with
   | session | rejected =>
    rw[given] at told
    exact ⟨seen.1,issued ▸ seen.2,told⟩

/-! ### The last transaction, payment and webhooks -/

lemma RowSound.recorded (h:RowSound st row) (given:row.attemptId=attemptId →
  ∃s∈st.sessions,s.sessionId=sessionId ∧ s.idempotencyKey=row.idempotencyKey) :
 RowSound st (row.recordSession attemptId sessionId now):=by
 unfold StoredAttempt.recordSession
 split
 · rename_i mine
   refine ⟨h.issued,by simp[StoredAttempt.isTerminal],fun id hid=>?_,fun _=>rfl⟩
   cases hid
   exact given mine
 · exact h

lemma RowSound.failed (h:RowSound st row)(refused:row.attemptId=attemptId →
 row.idempotencyKey∈st.refused):RowSound st (row.failAttempt attemptId now):=by
 unfold StoredAttempt.failAttempt
 split
 · rename_i mine
   exact ⟨h.issued,fun _=>.inr (.inl (refused mine.1)),h.linked,by simp⟩
 · exact h

lemma RowSound.closed (h:RowSound st row){status:AttemptStatus}(ended:status≠.opened)
 (past:row.stripeCheckoutSessionId=some sessionId→Over st (identity row)) :
 RowSound st (row.closeAttempt sessionId status now):=by
 unfold StoredAttempt.closeAttempt
 split
 · rename_i mine
   exact ⟨h.issued,fun _=>past mine,h.linked,fun eq=>absurd eq ended⟩
 · exact h

lemma identity_recordSession (row:StoredAttempt)(attemptId sessionId:String)(now:ℕ) :
 identity (row.recordSession attemptId sessionId now)=identity row:=by
 unfold StoredAttempt.recordSession
 split <;> rfl

lemma identity_failAttempt (row:StoredAttempt)(attemptId:String)(now:ℕ) :
 identity (row.failAttempt attemptId now)=identity row:=by
 unfold StoredAttempt.failAttempt
 split <;> rfl

lemma identity_closeAttempt (row:StoredAttempt)(sessionId:String)(status:AttemptStatus)
 (now:ℕ):identity (row.closeAttempt sessionId status now)=identity row:=by
 unfold StoredAttempt.closeAttempt
 split <;> rfl

lemma sound_modify (h:Sound st) (hq:st.requests[i]?=some q)(f:StoredAttempt→StoredAttempt)
 (kept:∀row,identity (f row)=identity row)
 (rows:∀row,st.attempts q.accountId=some row→RowSound st (f row)) :
 Sound {setPhase st i q .finished with attempts:=st.attempts.modify q.accountId f}:=by
 have l:Later st { setPhase st i q .finished with
   attempts:=st.attempts.modify q.accountId f}:=Later.of_eq le_rfl rfl rfl rfl
 refine h.mapped l rfl (fun accountId=>if accountId=q.accountId then f else id) ?_ ?_ ?_
  (h.stripe.of_eq (fun _ hi=>hi) rfl rfl) (fun _ hr=>.inl hr) ?_
 · intro accountId
   by_cases here:accountId=q.accountId
   · subst here
     simp[Attempts.modify]
   · simp[Attempts.modify,here]
 · intro accountId row
   split
   · exact kept row
   · rfl
 · intro accountId row found
   split
   · rename_i here
     exact (rows row (here ▸ found)).later l
   · exact (h.rows accountId row found).later l
 · have past:PhaseSound { setPhase st i q .finished with
     attempts:=st.attempts.modify q.accountId f} {q with phase:=.finished}:=trivial
   exact h.requests_set l hq past rfl

lemma sound_finish (h:Sound st) (hq:st.requests[i]?=some q){checkout:PreparedCheckout}{given:Answer}
 (phase:q.phase=.answered checkout given):Sound (finish st i q checkout given):=by
 have seen:PhaseSound st q:=(h.requests q (List.mem_of_getElem? hq)).2
 cases given with
 | session sessionId =>
  simp only[PhaseSound,phase] at seen
  refine sound_modify h hq _ (fun row=>identity_recordSession row _ _ _) fun row found=>?_
  refine (h.rows _ row found).recorded fun mine=>?_
  obtain ⟨s,hs,id,key⟩:=seen.2.2
  exact ⟨s,hs,id,by rw[key,StoredAttempt.idempotencyKey,StoredAttempt.idempotencyKey,mine]⟩
 | rejected =>
  simp only[PhaseSound,phase] at seen
  refine sound_modify h hq _ (fun row=>identity_failAttempt row _ _) fun row found=>?_
  refine (h.rows _ row found).failed fun mine=>?_
  rw[StoredAttempt.idempotencyKey,mine]
  exact seen.2.2

lemma sound_complete (h:Sound st)(sessionId:String) : Sound (completeSession st sessionId):=by
 set pay:Session→Session:=fun s=>
  if s.sessionId=sessionId ∧ s.live st.clock then {s with completed:=true} else s with hpay
 have same:∀s,(pay s).sessionId=s.sessionId ∧ (pay s).idempotencyKey=s.idempotencyKey ∧
   (pay s).accountId=s.accountId ∧ (pay s).expiresAt=s.expiresAt ∧
   (s.completed=true→(pay s).completed=true):=by
  intro s
  simp only[hpay]
  split <;> simp
 have l:Later st (completeSession st sessionId):=⟨le_rfl,fun _ hi=>hi,fun _ hk=>hk,fun s hs=>
   ⟨pay s,List.mem_map_of_mem hs,(same s).1,(same s).2.1,(same s).2.2.2.2⟩⟩
 refine h.kept l rfl rfl rfl ⟨?_,?_,?_,?_⟩ fun q hq=>⟨(h.requests q hq).1,(h.requests q hq).2.later l⟩
 · intro t ht
   obtain ⟨s,hs,rfl⟩:=List.mem_map.mp ht
   obtain ⟨i,hi,key,account,expiry⟩:=h.stripe.issued s hs
   exact ⟨i,hi,(same s).2.1.trans key,(same s).2.2.1.trans account,(same s).2.2.2.1.trans expiry⟩
 · intro t ht u hu eq
   obtain ⟨s,hs,rfl⟩:=List.mem_map.mp ht
   obtain ⟨s',hs',rfl⟩:=List.mem_map.mp hu
   rw[h.stripe.keys s hs s' hs' (((same s).2.1.symm.trans eq).trans (same s').2.1)]
 · intro t ht u hu eq
   obtain ⟨s,hs,rfl⟩:=List.mem_map.mp ht
   obtain ⟨s',hs',rfl⟩:=List.mem_map.mp hu
   rw[h.stripe.ids s hs s' hs' (((same s).1.symm.trans eq).trans (same s').1)]
 · intro t ht
   obtain ⟨s,hs,rfl⟩:=List.mem_map.mp ht
   change (pay s).idempotencyKey∉st.refused
   rw[(same s).2.1]
   exact h.stripe.refused s hs

lemma Sound.over_of_ended (h:Sound st){s:Session}(hs:s∈st.sessions)
 (ended:s.live st.clock=false){i:Identity}(hi:i∈st.issued)
 (key:s.idempotencyKey=i.idempotencyKey):Over st i:=by
 by_cases paid:s.completed=true
 · exact .inr (.inr ⟨s,hs,key,paid⟩)
 · obtain ⟨j,hj,key',-,expiry⟩:=h.stripe.issued s hs
   have same:j=i:=h.identity_eq hj hi (key_inj (key'.symm.trans key))
   simp only[Session.live,paid,Bool.not_false,Bool.true_and,decide_eq_false_iff_not,not_lt] at ended
   exact .inl (same ▸ expiry ▸ ended)

lemma sound_webhook (h:Sound st){s:Session}(hs:s∈st.sessions)
 (ended:s.live st.clock=false):Sound (webhook st s):=by
 have l:Later st (webhook st s):=Later.of_eq le_rfl rfl rfl rfl
 refine h.mapped l rfl _ (fun _=>rfl) (fun _ row=>identity_closeAttempt row _ _ _)
  (fun accountId row found=>?_) (h.stripe.of_eq (fun _ hi=>hi) rfl rfl) (fun id hr=>?_)
  fun q hq=>⟨(h.requests q hq).1,(h.requests q hq).2.later l⟩
 · have sound:=h.rows accountId row found
   refine RowSound.later l (sound.closed (by split <;> simp) fun mine=>?_)
   obtain ⟨t,ht,id,key⟩:=sound.linked _ mine
   have same:t=s:=h.stripe.ids t ht s hs id
   exact h.over_of_ended hs ended sound.issued (same ▸ key)
 · rcases List.mem_cons.mp hr with rfl|old
   · exact .inr ⟨s,hs,rfl⟩
   · exact .inl old

lemma step_sound (st:System)(e:Event)(h:Sound st):Sound (step st e):=by
 cases e with
 | tick elapsed =>
  have l:Later st (step st (.tick elapsed)):=Later.of_eq (Nat.le_add_right _ _) rfl rfl rfl
  exact h.kept l rfl rfl rfl (h.stripe.of_eq (fun _ hi=>hi) rfl rfl) fun q hq=>
   ⟨(h.requests q hq).1.trans l.clock,(h.requests q hq).2.later l⟩
 | start accountId planCode currency =>
  have l:Later st (step st (.start accountId planCode currency)):=Later.of_eq le_rfl rfl rfl rfl
  refine h.kept l rfl rfl rfl (h.stripe.of_eq (fun _ hi=>hi) rfl rfl) fun q hq=>?_
  rcases List.mem_append.mp hq with old|new
  · exact ⟨(h.requests q old).1,(h.requests q old).2.later l⟩
  · rw[List.mem_singleton.mp new]
    exact ⟨le_rfl,trivial⟩
 | observe i on =>
  simp only[step]
  split
  · split
    · exact sound_observe h ‹_› on
    · exact h
  · exact h
 | reserve i attemptId =>
  simp only[step]
  split
  · split
    · exact sound_reserve h ‹_› ‹_› attemptId
    · exact h
  · exact h
 | call i reply =>
  simp only[step]
  split
  · split
    · exact sound_call h ‹_› ‹_› reply
    · exact h
  · exact h
 | finish i =>
  simp only[step]
  split
  · split
    · exact sound_finish h ‹_› ‹_›
    · exact h
  · exact h
 | complete sessionId=>exact sound_complete h sessionId
 | webhook sessionId =>
  simp only[step]
  split
  · rename_i s found
    have ended:=List.find?_some found
    simp only[Bool.and_eq_true,Bool.not_eq_true'] at ended
    exact sound_webhook h (List.mem_of_find?_eq_some found) ended.2
  · exact h

end Kivou.CheckoutInvariant
