import Kivou.CheckoutInvariant
import Kivou.Runs

set_option autoImplicit false

/-! An attempt whose session was reported over stays closed as long as no request writes that
session down afterwards: `record_session` looks at neither the status nor the webhooks handled
before it. -/
namespace Kivou.CheckoutSafety
open BillingCatalogue CheckoutAttempts CheckoutSessions CheckoutInvariant

def Opened (st:System)(accountId key:String):Prop:=
 ∃row,st.attempts accountId=some row ∧ row.idempotencyKey=key ∧ row.status=.opened

def StaysClosed (st:System):Prop:=
 ∀s∈st.sessions,s.sessionId∈st.reported→¬Opened st s.accountId s.idempotencyKey

/-- A request writes its session down before that session's end is handled, or
after another attempt took the account's place. -/
def RecordsInTime (st:System):Event→Prop
 | .finish i=>∀q,st.requests[i]?=some q→∀checkout sessionId,
   q.phase=.answered checkout (.session sessionId)→∀row,st.attempts q.accountId=some row →
   row.attemptId=checkout.attempt.attemptId→sessionId∉st.reported
 | _=>True

variable {st st':System}{i:ℕ}{q:Request}{checkout:PreparedCheckout}

lemma StaysClosed.preserved (h:StaysClosed st)
 (reports:∀s∈st'.sessions,s.sessionId∈st'.reported→∃t∈st.sessions,
  t.sessionId∈st.reported ∧ t.accountId=s.accountId ∧ t.idempotencyKey=s.idempotencyKey)
 (opened:∀accountId key,Opened st' accountId key→Opened st accountId key) :
 StaysClosed st':=by
 intro s hs hr now
 obtain ⟨t,ht,old,account,key⟩:=reports s hs hr
 exact h t ht old (account ▸ key ▸ opened _ _ now)

lemma StaysClosed.of_eq (h:StaysClosed st)
 (sessions:st'.sessions=st.sessions)(reported:st'.reported=st.reported)
 (opened:∀accountId key,Opened st' accountId key→Opened st accountId key) :
 StaysClosed st':=
 h.preserved (fun s hs hr=>⟨s,sessions ▸ hs,reported ▸ hr,rfl,rfl⟩) opened

lemma opened_of_attempts_eq (attempts:st'.attempts=st.attempts)
 (accountId key:String)(h:Opened st' accountId key):Opened st accountId key:=by
 simpa only[Opened,attempts] using h

lemma staysClosed_setPhase (h:StaysClosed st)(i:ℕ)(q:Request)
 (phase:Phase):StaysClosed (setPhase st i q phase):=
 h.of_eq rfl rfl (opened_of_attempts_eq rfl)

lemma staysClosed_reserve (h:StaysClosed st)(i:ℕ)(q:Request)
 (existing:Option StoredAttempt)(terms:Terms)(attemptId:String) :
 StaysClosed (reserveAndCommit st i q existing terms attemptId):=by
 unfold reserveAndCommit
 split
 · exact h
 split
 · exact staysClosed_setPhase h i q .finished
 rename_i attempts attempt reserved
 refine h.of_eq rfl rfl fun accountId key=>?_
 rcases reserve_ok reserved with ⟨rfl,-⟩|⟨-,-,⟨row,rfl,-,creating,-⟩,-⟩
 · exact fun now=>now
 · rintro ⟨r,found,hkey,status⟩
   by_cases here:accountId=q.accountId
   · subst here
     simp only[Function.update_self,Option.some.injEq] at found
     rw[←found,creating] at status
     cases status
   · simp only[Function.update_of_ne here] at found
     exact ⟨r,found,hkey,status⟩

lemma staysClosed_call (sound:Sound st)(h:StaysClosed st)(i:ℕ)(q:Request)
 (checkout:PreparedCheckout)(reply:Reply) :
 StaysClosed (call st i q checkout reply):=by
 cases reply with
 | unreached=>exact staysClosed_setPhase h i q .finished
 | handled fresh delivered =>
  unfold call
  dsimp only
  split
  · exact h
  rename_i used
  have new:∀s∈st.sessions,fresh≠.session s.sessionId:=by simpa using used
  refine staysClosed_setPhase ?_ i q _
  unfold answer
  split
  · exact h
  split
  · exact h
  split
  · exact h.of_eq rfl rfl (opened_of_attempts_eq rfl)
  · rename_i sessionId
    refine h.preserved (fun s hs hr=>?_) (opened_of_attempts_eq rfl)
    rcases List.mem_cons.mp hs with rfl|hs
    · -- a session that did not exist cannot have been reported
      obtain ⟨t,ht,id⟩:=sound.reported sessionId hr
      exact absurd (congrArg Answer.session id.symm) (new t ht)
    · exact ⟨s,hs,hr,rfl,rfl⟩

lemma staysClosed_complete (h:StaysClosed st)(sessionId:String) :
 StaysClosed (completeSession st sessionId):=by
 refine h.preserved (fun t ht hr=>?_) (opened_of_attempts_eq rfl)
 obtain ⟨s,hs,rfl⟩:=List.mem_map.mp ht
 refine ⟨s,hs,?_,?_,?_⟩
 · split at hr <;> exact hr
 · split <;> rfl
 · split <;> rfl

lemma staysClosed_webhook (sound:Sound st)(h:StaysClosed st){s:Session}
 (hs:s∈st.sessions):StaysClosed (webhook st s):=by
 rintro t ht hr ⟨row,found,key,status⟩
 obtain ⟨old,hold,rfl⟩:=Option.map_eq_some_iff.mp found
 unfold StoredAttempt.closeAttempt at key status
 split at status
 · -- a row that was closed is not open
   split at status <;> cases status
 · rename_i unlinked
   simp only[unlinked,↓reduceIte] at key
   rcases List.mem_cons.mp hr with id|reported
   · -- the open row of the reported session's attempt is linked to that session
     have same:t=s:=sound.stripe.ids t ht s hs id
     subst same
     have rowSound:=sound.rows _ old hold
     obtain ⟨sessionId,linked⟩:=Option.isSome_iff_exists.mp (rowSound.opened status)
     obtain ⟨u,hu,id',key'⟩:=rowSound.linked sessionId linked
     have eq:u=t:=sound.stripe.keys u hu t ht (key'.trans key)
     subst eq
     exact unlinked (id' ▸ linked)
   · exact h t ht reported ⟨old,hold,key,status⟩

lemma opened_recordSession {sessionId accountId key:String}
 (h:Opened (finish st i q checkout (.session sessionId)) accountId key) :
 Opened st accountId key ∨ (accountId=q.accountId ∧ ∃row,st.attempts accountId=some row ∧
  row.attemptId=checkout.attempt.attemptId ∧ row.idempotencyKey=key):=by
 obtain ⟨row,found,hkey,status⟩:=h
 by_cases here:accountId=q.accountId
 · subst here
   simp only[finish,Attempts.modify,Function.update_self] at found
   obtain ⟨old,hold,rfl⟩:=Option.map_eq_some_iff.mp found
   by_cases mine:old.attemptId=checkout.attempt.attemptId
   · refine .inr ⟨rfl,old,hold,mine,?_⟩
     simpa[StoredAttempt.recordSession,mine,StoredAttempt.idempotencyKey] using hkey
   · simp only[StoredAttempt.recordSession,mine,↓reduceIte] at hkey status
     exact .inl ⟨old,hold,hkey,status⟩
 · simp only[finish,Attempts.modify,Function.update_of_ne here] at found
   exact .inl ⟨row,found,hkey,status⟩

lemma opened_failAttempt
 {accountId key:String}(h:Opened (finish st i q checkout .rejected) accountId key) :
 Opened st accountId key:=by
 obtain ⟨row,found,hkey,status⟩:=h
 by_cases here:accountId=q.accountId
 · subst here
   simp only[finish,Attempts.modify,Function.update_self] at found
   obtain ⟨old,hold,rfl⟩:=Option.map_eq_some_iff.mp found
   unfold StoredAttempt.failAttempt at hkey status
   split at status
   · cases status
   · rename_i other
     simp only[other,↓reduceIte] at hkey
     exact ⟨old,hold,hkey,status⟩
 · simp only[finish,Attempts.modify,Function.update_of_ne here] at found
   exact ⟨row,found,hkey,status⟩

lemma staysClosed_record_iff (sound:Sound st)(h:StaysClosed st)(hq:st.requests[i]?=some q)
 {sessionId:String}
 (phase:q.phase=.answered checkout (.session sessionId)) :
 StaysClosed (finish st i q checkout (.session sessionId)) ↔ ∀row,st.attempts q.accountId=some row →
   row.attemptId=checkout.attempt.attemptId→sessionId∉st.reported:=by
 have seen:PhaseSound st q:=(sound.requests q (List.mem_of_getElem? hq)).2
 simp only[PhaseSound,phase] at seen
 obtain ⟨account,issued,s,hs,id,key⟩:=seen
 obtain ⟨j,hj,keyJ,accountJ,-⟩:=sound.stripe.issued s hs
 have same:j=identity checkout.attempt:=sound.identity_eq hj issued (key_inj (keyJ.symm.trans key))
 have owner:s.accountId=q.accountId:=accountJ.trans (same ▸ account)
 have rowKey:∀row:StoredAttempt,row.attemptId=checkout.attempt.attemptId →
   row.idempotencyKey=s.idempotencyKey:=fun row mine=>by
  rw[key,StoredAttempt.idempotencyKey,StoredAttempt.idempotencyKey,mine]
 constructor
 · intro closed row found mine reported
   refine closed s hs (id ▸ reported) ⟨row.recordSession checkout.attempt.attemptId sessionId q.now,
    ?_,?_,?_⟩
   · simp[finish,Attempts.modify,owner,found]
   · simpa[StoredAttempt.recordSession,mine,StoredAttempt.idempotencyKey] using rowKey row mine
   · simp[StoredAttempt.recordSession,mine]
 · intro inTime t ht reported opened
   rcases opened_recordSession opened with before|⟨here,row,found,mine,hkey⟩
   · exact h t ht reported before
   · have eq:t=s:=sound.stripe.keys t ht s hs (hkey.symm.trans (rowKey row mine))
     subst eq
     exact inTime row (here ▸ found) mine (id ▸ reported)

lemma step_staysClosed_iff (st:System)(e:Event)(sound:Sound st)(h:StaysClosed st) :
 StaysClosed (step st e) ↔ RecordsInTime st e:=by
 cases e with
 | tick | start=>exact iff_of_true (h.of_eq rfl rfl (opened_of_attempts_eq rfl)) trivial
 | observe i on =>
  refine iff_of_true ?_ trivial
  simp only[step]
  split
  · split
    · unfold observe
      split <;> exact staysClosed_setPhase h i _ _
    · exact h
  · exact h
 | reserve i attemptId =>
  refine iff_of_true ?_ trivial
  simp only[step]
  split
  · split
    · exact staysClosed_reserve h i _ _ _ attemptId
    · exact h
  · exact h
 | call i reply =>
  refine iff_of_true ?_ trivial
  simp only[step]
  split
  · split
    · exact staysClosed_call sound h i _ _ reply
    · exact h
  · exact h
 | finish i =>
  simp only[step,RecordsInTime]
  cases hq:st.requests[i]? with
  | none=>simpa using h
  | some q =>
   simp only[Option.some.injEq,forall_eq']
   cases phase:q.phase with
   | answered checkout given =>
    cases given with
    | session sessionId =>
     refine (staysClosed_record_iff sound h hq phase).trans ⟨fun inTime c id eq=>?_,
      fun inTime=>inTime checkout sessionId rfl⟩
     cases eq
     exact inTime
    | rejected =>
     have closed:StaysClosed (finish st i q checkout .rejected):=
      h.of_eq rfl rfl fun _ _=>opened_failAttempt
     simpa using closed
   | started | observed | prepared | finished=>simpa using h
 | complete sessionId=>exact iff_of_true (staysClosed_complete h sessionId) trivial
 | webhook sessionId =>
  refine iff_of_true ?_ trivial
  simp only[step]
  split
  · exact staysClosed_webhook sound h (List.mem_of_find?_eq_some ‹_›)
  · exact h

/-- In every interleaving at most one session of an account can be paid at a
time; and attempts whose session was reported over never open again exactly
when every session is written down before its end is handled. -/
theorem checkout_safe_iff_recorded_in_time (clock:ℕ)(events:List Event) :
 (∀before,before <+: events→OnePayable (before.foldl step (initial clock))) ∧
  ((∀before,before <+: events→OnePayable (before.foldl step (initial clock)) ∧
    StaysClosed (before.foldl step (initial clock))) ↔
   Runs.Along step RecordsInTime (initial clock) events):=by
 have start:=sound_initial clock
 have closed:StaysClosed (initial clock):=fun _ hs=>by cases hs
 refine ⟨fun before _=>(Runs.invariant Sound step_sound before start).onePayable,?_⟩
 have exactly:∀st e,Sound st→OnePayable st ∧ StaysClosed st →
   (OnePayable (step st e) ∧ StaysClosed (step st e) ↔ RecordsInTime st e):=by
  intro st e sound safe
  rw[←step_staysClosed_iff st e sound safe.2]
  exact and_iff_right (step_sound st e sound).onePayable
 exact Runs.always_iff_along step_sound exactly start ⟨start.onePayable,closed⟩ events

/-- Two clicks on the same plan share the attempt and its session; the customer
pays and the webhook is handled before the second click's answer is written. -/
def lateRecord:List Event:=
 let on:Surroundings:=
  { livemode:=true
    subscriptionOpen:=false
    price:=some ⟨"price_pro",true,true,.eur⟩
    founding:=false
    foundingCouponId:=none
    foundingAvailable:=false
    customerId:=.ok "cus_1" }
 [.start "acc" .pro .eur,.observe 0 on,.reserve 0 "cka_1",
  .start "acc" .pro .eur,.observe 1 on,.reserve 1 "cka_2",
  .call 0 (.handled (.session "cs_1") true),.call 1 (.handled (.session "cs_2") true),
  .finish 0,.tick 60000000,.complete "cs_1",.webhook "cs_1",.finish 1]

theorem late_record_reopens :
 let st:=lateRecord.foldl step (initial 1000000000)
 (st.sessions.map (fun s=>(s.sessionId,s.completed))=[("cs_1",true)] ∧
  st.reported=["cs_1"] ∧ (st.attempts "acc").map (fun row=>
   (row.attemptId,row.stripeCheckoutSessionId,row.status)) =
    some ("cka_1",some "cs_1",.opened)) ∧ ¬StaysClosed st:=by
 intro st
 have shown:(st.sessions.map (fun s=>(s.sessionId,s.completed))=[("cs_1",true)] ∧
   st.reported=["cs_1"] ∧ (st.attempts "acc").map (fun row=>
    (row.attemptId,row.stripeCheckoutSessionId,row.status)) =
     some ("cka_1",some "cs_1",.opened)):=by decide +kernel
 refine ⟨shown,fun closed=>?_⟩
 have paid:⟨"acc","kivou-checkout:cka_1","cs_1",2800,true⟩∈st.sessions:=by decide +kernel
 have here:(st.attempts "acc").any (fun row=>
   row.idempotencyKey=="kivou-checkout:cka_1"&&row.status==.opened)=true:=by
  decide +kernel
 refine closed _ paid (by decide +kernel) ?_
 obtain ⟨row,found,rest⟩:=(Option.any_eq_true _ _).mp here
 simp only[Bool.and_eq_true,beq_iff_eq] at rest
 exact ⟨row,found,rest⟩

end Kivou.CheckoutSafety
