import Kivou.ReadCommitted
import Mathlib.Data.Int.Notation

set_option autoImplicit false

/-! `signals.accounts.service`: the transactions of a login and of a password reset, statement by
statement. Tokens, identifiers and salts are drawn fresh; a token stands for its fingerprint. -/
namespace Kivou.Accounts
open ReadCommitted

/-- The columns of `auth_user` that no transaction here writes. -/
structure User where
 (userId emailNormalized:String)
 isActive:Bool
 deriving DecidableEq

structure Credentials where
 passwordHash:String
 lastLoginAt:Option ℤ

/-- `auth_session`, under the fingerprint of its token. -/
structure Session where
 userId:String
 expiresAt:ℤ
 revokedAt:Option ℤ

/-- `password_reset`, under the fingerprint of its token. -/
structure Reset where
 userId:String
 expiresAt:ℤ
 usedAt:Option ℤ
 deriving DecidableEq

structure Env where
 normalizeEmail:String→String
 verify:String→String→Bool
 checkNeedsRehash:String→Bool
 hash:ℕ→String→String

def Env.Verifies (env:Env):Prop:=
 ∀salt password other,env.verify (env.hash salt password) other=true ↔ other=password

def minimumPasswordLength:ℕ:=12
def maximumPasswordLength:ℕ:=1024

/-- `hash_password`; `none` is `WeakPassword`. -/
def Env.hashPassword (env:Env)(salt:ℕ)(password:String):Option String:=
 if password.length < minimumPasswordLength then none
 else if maximumPasswordLength<password.length then none
 else some (env.hash salt password)

/-- The statements of `log_in` after its `SELECT`. -/
inductive LogIn where
 | checked
 | updating (rehashed:Option String)(targets:List String)
 | updated
 | opened (session:ℕ)
 deriving DecidableEq

inductive LogOut where
 | begun
 | revoking (targets:List ℕ)
 | revoked
 deriving DecidableEq

/-- Of `request_password_reset`, after its `SELECT`. -/
inductive Request where
 | found
 | superseding (targets:List ℕ)
 | superseded
 | issued (token:ℕ)
 deriving DecidableEq

inductive Confirm where
 | begun
 | taking (targets:List ℕ)
 | taken (userId:String)
 | rehashing (userId:String)(passwordHash:String)(targets:List String)
 | rehashed (userId:String)
 | revoking (userId:String)(targets:List ℕ)
 | revoked (userId:String)
 deriving DecidableEq

inductive Txn where
 | logIn (userId:String)(passwordHash:String)(password:String)(now expiresAt:ℤ) (stage:LogIn)
 | openSession (session:ℕ)
 | logOut (session:ℕ)(now:ℤ)(stage:LogOut)
 | request (userId:String)(now expiresAt:ℤ)(stage:Request)
 | confirm (token:ℕ)(newPassword:String)(now:ℤ)(stage:Confirm)
 deriving DecidableEq

inductive Event where
 | issued (userId:String)(token:ℕ)
 | reset (userId:String)(token:ℕ)(password:String)

/-- The database, its open transactions, and the next random value. `log` has what was
committed, newest first, and `checked` the password that the login of a session checked. -/
structure World where
 users:List User
 credentials:Table String Credentials
 sessions:Table ℕ Session
 resets:Table ℕ Reset
 txns:ℕ→Option Txn
 nextId:ℕ
 log:List Event
 checked:ℕ→Option String

inductive Call where
 | logIn (email password:String)(now sessionTtl:ℤ)
 | openSession (userId:String)(now sessionTtl:ℤ)
 | logOut (session:ℕ)(now:ℤ)
 | requestPasswordReset (email:String)(now resetTtl:ℤ)
 | confirmPasswordReset (token:ℕ)(newPassword:String)(now:ℤ)

inductive Op where
 /-- A transaction begins with its first `SELECT`, or its first statement. -/
 | begin (t:ℕ)(call:Call)
 /-- Its next statement starts, or goes on when it need not wait, or it commits. -/
 | advance (t:ℕ)
 /-- It fails. -/
 | rollback (t:ℕ)

def World.userByEmail (w:World)(email:String):Option User:=
 w.users.find? fun user=>user.emailNormalized==email

def World.put (w:World)(t:ℕ)(txn:Txn):World:={w with txns:=Function.update w.txns t (some txn)}

def World.rollback (w:World)(t:ℕ):World:=
 {w with
   credentials:=w.credentials.rollback t
   sessions:=w.sessions.rollback t
   resets:=w.resets.rollback t
   txns:=Function.update w.txns t none}

def World.commit (w:World)(t:ℕ)(events:List Event):World:=
 {w with
   credentials:=w.credentials.commit t
   sessions:=w.sessions.commit t
   resets:=w.resets.commit t
   txns:=Function.update w.txns t none
   log:=events++w.log}

/-- The `INSERT` of `open_session`. -/
def World.insertSession (w:World)(t:ℕ)(userId:String)(expiresAt:ℤ) (checked:Option String):World:=
 {w with
   sessions:=w.sessions.insert t w.nextId ⟨userId,expiresAt,none⟩
   nextId:=w.nextId+1
   checked:=Function.update w.checked w.nextId checked}

section
variable (env:Env)

def World.begin (w:World)(t:ℕ):Call→World
 | .logIn email password now sessionTtl =>
  match w.userByEmail (env.normalizeEmail email) with
  | none=>w
  | some user =>
   match (w.credentials.cell user.userId).view t with
   | none=>w
   | some row =>
    if env.verify row.passwordHash password&&user.isActive then
     w.put t (.logIn user.userId row.passwordHash password now (now+sessionTtl) .checked)
    else w
 | .openSession userId now sessionTtl =>
  (w.insertSession t userId (now+sessionTtl) none).put t (.openSession w.nextId)
 | .logOut session now=>w.put t (.logOut session now .begun)
 | .requestPasswordReset email now resetTtl =>
  match w.userByEmail (env.normalizeEmail email) with
  | none=>w
  | some user =>
   if user.isActive then w.put t (.request user.userId now (now+resetTtl) .found) else w
 | .confirmPasswordReset token newPassword now=>w.put t (.confirm token newPassword now .begun)

def World.advanceLogIn (w:World)(t:ℕ)(userId passwordHash password:String)
 (now expiresAt:ℤ):LogIn→World
 | .checked =>
  let targets:=w.credentials.find t fun k _=>k==userId
  if env.checkNeedsRehash passwordHash then
   match env.hashPassword w.nextId password with
   | none=>w.rollback t
   | some rehashed =>
    {w with nextId:=w.nextId+1}.put t
     (.logIn userId passwordHash password now expiresAt (.updating (some rehashed) targets))
  else w.put t (.logIn userId passwordHash password now expiresAt (.updating none targets))
 | .updating rehashed targets =>
  if w.credentials.free t targets then
   { w with credentials:=w.credentials.write t targets (fun k _=>k==userId) fun row=>
      {row with lastLoginAt:=some now,passwordHash:=rehashed.getD row.passwordHash}}.put t
     (.logIn userId passwordHash password now expiresAt .updated)
  else w
 | .updated =>
  (w.insertSession t userId expiresAt (some password)).put t
   (.logIn userId passwordHash password now expiresAt (.opened w.nextId))
 | .opened _=>w.commit t []

/-- The condition of the `UPDATE` of `revoke_all_sessions`. -/
def Session.live (session:Session):Bool:=session.revokedAt.isNone

def World.advanceLogOut (w:World)(t session:ℕ)(now:ℤ):LogOut→World
 | .begun =>
  w.put t (.logOut session now (.revoking (w.sessions.find t fun k row=>k==session&&row.live)))
 | .revoking targets =>
  if w.sessions.free t targets then
   {w with
     sessions:=w.sessions.write t targets (fun k row=>k==session&&row.live) fun row=>
      {row with revokedAt:=some now}}.put t (.logOut session now .revoked)
  else w
 | .revoked=>w.commit t []

def Reset.unused (row:Reset):Bool:=row.usedAt.isNone

def World.advanceRequest (w:World)(t:ℕ)(userId:String)(now expiresAt:ℤ) : Request→World
 | .found =>
  w.put t (.request userId now expiresAt
   (.superseding (w.resets.find t fun _ row=>row.userId==userId&&row.unused)))
 | .superseding targets =>
  if w.resets.free t targets then
   {w with
     resets:=w.resets.write t targets (fun _ row=>row.userId==userId&&row.unused)
      fun row=>{row with usedAt:=some now}}.put t
     (.request userId now expiresAt .superseded)
  else w
 | .superseded =>
  {w with
    resets:=w.resets.insert t w.nextId ⟨userId,expiresAt,none⟩
    nextId:=w.nextId+1}.put t (.request userId now expiresAt (.issued w.nextId))
 | .issued token=>w.commit t [.issued userId token]

def Reset.usable (row:Reset)(now:ℤ):Bool:=row.unused&&decide (now<row.expiresAt)

def World.advanceConfirm (w:World)(t token:ℕ)(newPassword:String)(now:ℤ) : Confirm→World
 | .begun =>
  w.put t (.confirm token newPassword now
   (.taking (w.resets.find t fun k row=>k==token&&row.usable now)))
 | .taking targets =>
  if w.resets.free t targets then
   match (w.resets.cell token).view t with
   | none=>w.rollback t
   | some row =>
    if token∈targets ∧ row.usable now=true then
     {w with
       resets:=w.resets.write t targets (fun k row=>k==token&&row.usable now)
        fun row=>{row with usedAt:=some now}}.put t
       (.confirm token newPassword now (.taken row.userId))
    else w.rollback t
  else w
 | .taken userId =>
  match env.hashPassword w.nextId newPassword with
  | none=>w.rollback t
  | some passwordHash =>
   {w with nextId:=w.nextId+1}.put t (.confirm token newPassword now
    (.rehashing userId passwordHash (w.credentials.find t fun k _=>k==userId)))
 | .rehashing userId passwordHash targets =>
  if w.credentials.free t targets then
   {w with
     credentials:=w.credentials.write t targets (fun k _=>k==userId) fun row=>
      {row with passwordHash}}.put t (.confirm token newPassword now (.rehashed userId))
  else w
 | .rehashed userId =>
  w.put t (.confirm token newPassword now
   (.revoking userId (w.sessions.find t fun _ row=>row.userId==userId&&row.live)))
 | .revoking userId targets =>
  if w.sessions.free t targets then
   {w with
     sessions:=w.sessions.write t targets (fun _ row=>row.userId==userId&&row.live)
      fun row=>{row with revokedAt:=some now}}.put t
     (.confirm token newPassword now (.revoked userId))
  else w
 | .revoked userId=>w.commit t [.reset userId token newPassword]

def World.advance (w:World)(t:ℕ):Txn→World
 | .logIn userId passwordHash password now expiresAt stage =>
  w.advanceLogIn env t userId passwordHash password now expiresAt stage
 | .openSession _=>w.commit t []
 | .logOut session now stage=>w.advanceLogOut t session now stage
 | .request userId now expiresAt stage=>w.advanceRequest t userId now expiresAt stage
 | .confirm token newPassword now stage=>w.advanceConfirm env t token newPassword now stage

def step (w:World):Op→World
 | .begin t call=>if (w.txns t).isNone then w.begin env t call else w
 | .advance t=>(w.txns t).elim w (w.advance env t)
 | .rollback t=>w.rollback t

end

def World.start (users:List User)(credentials:String→Credentials):World where
 users:=users
 credentials:=.ofRows (users.map User.userId) credentials
 sessions:=.ofRows [] fun _=>⟨"",0,none⟩
 resets:=.ofRows [] fun _=>⟨"",0,none⟩
 txns _:=none
 nextId:=0
 log:=[]
 checked _:=none

/-- Whether `authenticate` accepts the token of a session. -/
def World.authenticates (w:World)(session:ℕ)(now:ℤ):Bool:=
 (w.sessions.cell session).committed.any fun row=>
  row.live&&w.users.any (fun user=>user.userId==row.userId&&user.isActive) &&
   decide (now<row.expiresAt)

/-- Whether `confirm_password_reset` accepts a token. -/
def World.accepts (w:World)(token:ℕ)(now:ℤ):Bool:=
 (w.resets.cell token).committed.any (Reset.usable · now)

def World.lastReset (w:World)(userId:String):Option String:=w.log.findSome? fun event=>
  match event with
  | .reset user _ password=>if user=userId then some password else none
  | .issued _ _=>none

end Kivou.Accounts
