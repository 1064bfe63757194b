import Kivou.CheckoutAttempts
import Kivou.Runs

set_option autoImplicit false

/-! Requests of any number of accounts run side by side. A request reads the clock once, reads the
account's attempt, writes its reservation and commits, calls Stripe, and records what Stripe
answered; it may stop for good between any two of these. Stripe remembers its first answer to an
idempotency key and honours a session until its `expires_at`; the customer and Stripe's webhooks
come in at any time. -/
namespace Kivou.CheckoutSessions
open BillingCatalogue CheckoutAttempts

inductive Answer where
 | session (sessionId:String)
 | rejected
 deriving DecidableEq

/-- Where a request stands. `prepared` has committed its reservation;
`answered` has Stripe's answer and not yet written it down. -/
inductive Phase where
 | started
 | observed (existing:Option StoredAttempt)(terms:Terms)
 | prepared (checkout:PreparedCheckout)
 | answered (checkout:PreparedCheckout)(answer:Answer)
 | finished

structure Request where
 accountId:String
 planCode:PlanCode
 currency:Currency
 now:ℕ
 phase:Phase

/-- A Checkout session at Stripe, with the `expires_at` sent for it. -/
structure Session where
 (accountId idempotencyKey sessionId:String)
 expiresAt:ℕ
 completed:Bool
 deriving DecidableEq

structure Identity where
 (accountId attemptId:String)
 expiresAt:ℕ

def identity (a:StoredAttempt):Identity:=⟨a.accountId,a.attemptId,a.expiresAt⟩

def Identity.idempotencyKey (i:Identity):String:="kivou-checkout:"++i.attemptId
def Identity.sentExpiry (i:Identity):ℕ:=i.expiresAt/1000000

/-- The database, the requests in flight and Stripe. `issued` is the history of
reservations and `reported` that of the sessions whose end was handled. -/
structure System where
 clock:ℕ
 attempts:Attempts
 requests:List Request
 sessions:List Session
 refused:List String
 issued:List Identity
 reported:List String

def initial (clock:ℕ):System:=⟨clock,fun _=>none,[],[],[],[],[]⟩

/-- What becomes of a call: it never reaches Stripe, or Stripe handles it, as
`fresh` says if the key is new, and the answer may be lost on its way back. -/
inductive Reply where
 | unreached
 | handled (fresh:Answer)(delivered:Bool)

inductive Event where
 | tick (elapsed:ℕ)
 | start (accountId:String)(planCode:PlanCode)(currency:Currency)
 | observe (request:ℕ)(on:Surroundings)
 | reserve (request:ℕ)(attemptId:String)
 | call (request:ℕ)(reply:Reply)
 | finish (request:ℕ)
 | complete (sessionId:String)
 | webhook (sessionId:String)

def setPhase (st:System)(i:ℕ)(q:Request)(phase:Phase):System:=
 {st with requests:=st.requests.set i {q with phase}}

/-- `expire_stale`, the checks of `prepare_checkout` and the read of `reserve`.
The expiry is not seen by others: the transaction either replaces the expired
attempt or is rolled back. -/
def observe (st:System)(i:ℕ)(q:Request)(on:Surroundings):System:=
 match checkoutTerms on q.planCode q.currency with
 | .error _=>setPhase st i q .finished
 | .ok terms =>
  setPhase st i q (.observed ((st.attempts q.accountId).map (·.expireStale q.now)) terms)

/-- The write of `reserve` and the commit. Attempt ids are random and drawn once. -/
def reserveAndCommit (st:System)(i:ℕ)(q:Request)(existing:Option StoredAttempt)
 (terms:Terms)(attemptId:String):System:=
 if st.issued.any (·.attemptId==attemptId) then st
 else
  match reserve st.attempts existing q.accountId q.planCode q.currency q.now attemptId with
  | .error _=>setPhase st i q .finished
  | .ok (attempts,attempt) =>
   { setPhase st i q (.prepared ⟨attempt,terms⟩) with
     attempts
     issued:=if attempt.attemptId=attemptId then identity attempt::st.issued
      else st.issued}

def answer (st:System)(q:Request)(a:StoredAttempt)(fresh:Answer):System × Answer:=
 match st.sessions.find? (·.idempotencyKey==a.idempotencyKey) with
 | some s=>(st,.session s.sessionId)
 | none =>
  if a.idempotencyKey∈st.refused then (st,.rejected)
  else
   match fresh with
   | .rejected=>({st with refused:=a.idempotencyKey::st.refused},.rejected)
   | .session sessionId =>
    ({st with
        sessions:=⟨q.accountId,a.idempotencyKey,sessionId,a.sentExpiry,false⟩ ::st.sessions},
     .session sessionId)

def call (st:System)(i:ℕ)(q:Request)(checkout:PreparedCheckout):Reply→System
 | .unreached=>setPhase st i q .finished
 | .handled fresh delivered =>
  if st.sessions.any (fun s=>fresh==.session s.sessionId) then st
  else
   let (st,given):=answer st q checkout.attempt fresh
   setPhase st i q (if delivered then .answered checkout given else .finished)

/-- The last transaction: `record_session`, or `fail_attempt` on a refusal. -/
def finish (st:System)(i:ℕ)(q:Request)(checkout:PreparedCheckout):Answer→System
 | .session sessionId =>
  { setPhase st i q .finished with
    attempts:=st.attempts.modify q.accountId
     (·.recordSession checkout.attempt.attemptId sessionId q.now)}
 | .rejected =>
  { setPhase st i q .finished with
    attempts:=st.attempts.modify q.accountId (·.failAttempt checkout.attempt.attemptId q.now)}

def Session.live (s:Session)(clock:ℕ):Bool:=!s.completed&&clock<s.expiresAt*1000000

def completeSession (st:System)(sessionId:String):System:=
 {st with
   sessions:=st.sessions.map fun s=>
    if s.sessionId=sessionId ∧ s.live st.clock then {s with completed:=true} else s}

/-- The handling of `checkout.session.completed` or `checkout.session.expired`. -/
def webhook (st:System)(s:Session):System:=
 {st with
   attempts:=fun accountId=>(st.attempts accountId).map
    (·.closeAttempt s.sessionId (if s.completed then .completed else .expired) st.clock)
   reported:=s.sessionId::st.reported}

def step (st:System):Event→System
 | .tick elapsed=>{st with clock:=st.clock+elapsed}
 | .start accountId planCode currency =>
  {st with requests:=st.requests++[⟨accountId,planCode,currency,st.clock,.started⟩]}
 | .observe i on =>
  match st.requests[i]? with
  | some q=>match q.phase with
   | .started=>observe st i q on
   | _=>st
  | none=>st
 | .reserve i attemptId =>
  match st.requests[i]? with
  | some q=>match q.phase with
   | .observed existing terms=>reserveAndCommit st i q existing terms attemptId
   | _=>st
  | none=>st
 | .call i reply =>
  match st.requests[i]? with
  | some q=>match q.phase with
   | .prepared checkout=>call st i q checkout reply
   | _=>st
  | none=>st
 | .finish i =>
  match st.requests[i]? with
  | some q=>match q.phase with
   | .answered checkout given=>finish st i q checkout given
   | _=>st
  | none=>st
 | .complete sessionId=>completeSession st sessionId
 | .webhook sessionId =>
  -- Stripe reports a session once it is over
  match st.sessions.find? (fun s=>s.sessionId==sessionId&&!s.live st.clock) with
  | some s=>webhook st s
  | none=>st

end Kivou.CheckoutSessions
