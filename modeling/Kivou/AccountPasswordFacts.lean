import Kivou.AccountPasswords

set_option autoImplicit false

/-! Each locked row is explained by the transaction that has it locked, and each transaction has
locked what its stage says. Statements of one transaction leave what is said of the others as it is.
-/
namespace Kivou.Accounts
open ReadCommitted

def Txn.login?:Txn→Option (String × String)
 | .logIn userId _ password _ _ _=>some (userId,password)
 | .openSession _ | .logOut _ _ _ | .request _ _ _ _ | .confirm _ _ _ _=>none

def Confirm.userId?:Confirm→Option String
 | .begun | .taking _=>none
 | .taken userId | .rehashing userId _ _ | .rehashed userId | .revoking userId _ | .revoked userId =>
  some userId

def Txn.reset?:Txn→Option (String × String)
 | .confirm _ newPassword _ stage=>stage.userId?.map (·,newPassword)
 | .logIn _ _ _ _ _ _ | .openSession _ | .logOut _ _ _ | .request _ _ _ _=>none

def Txn.issued?:Txn→Option (String × ℕ)
 | .request userId _ _ (.issued token)=>some (userId,token)
 | .request _ _ _ .found | .request _ _ _ (.superseding _) | .request _ _ _ .superseded
 | .logIn _ _ _ _ _ _ | .openSession _ | .logOut _ _ _ | .confirm _ _ _ _=>none

def Txn.supersedes?:Txn→Option String
 | .request userId _ _ (.superseding _) | .request userId _ _ .superseded
 | .request userId _ _ (.issued _)=>some userId
 | .request _ _ _ .found
 | .logIn _ _ _ _ _ _ | .openSession _ | .logOut _ _ _ | .confirm _ _ _ _=>none

structure Txn.Extends (old new:Txn):Prop where
 login:∀x,old.login?=some x→new.login?=some x
 reset:∀x,old.reset?=some x→new.reset?=some x
 issued:∀x,old.issued?=some x→new.issued?=some x

section
variable (env:Env)(w:World)

def World.Known (userId:String):Prop:=∃row,(w.credentials.cell userId).committed=some row

def World.CredentialsWrite (txn:Txn)(userId:String)(row:Credentials):Prop:=
 ∃old,(w.credentials.cell userId).committed=some old ∧
  ((∃password,txn.login?=some (userId,password) ∧
    env.verify old.passwordHash password=true ∧
    (row.passwordHash=old.passwordHash ∨ ∃salt,row.passwordHash=env.hash salt password)) ∨
   ∃password salt,txn.reset?=some (userId,password) ∧ row.passwordHash=env.hash salt password)

def World.SessionWrite (txn:Txn)(session:ℕ)(row:Session):Prop:=
 ((w.sessions.cell session).committed=none ∧
   ∀password,w.checked session=some password→txn.login?=some (row.userId,password)) ∨
  ∃old,(w.sessions.cell session).committed=some old ∧ row.userId=old.userId ∧ row.live=false

def World.ResetWrite (txn:Txn)(token:ℕ)(row:Reset):Prop:=
 ((w.resets.cell token).committed=none ∧ txn.issued?=some (row.userId,token)) ∨
  ∃old,(w.resets.cell token).committed=some old ∧ row.userId=old.userId ∧ row.unused=false

/-- What `t` has locked is what its transaction has written. -/
structure World.Writes (t:ℕ):Prop where
 credentials:∀userId row,(w.credentials.cell userId).pending=some (t,row) →
  ∃txn,w.txns t=some txn ∧ w.CredentialsWrite env txn userId row
 sessions:∀session row,(w.sessions.cell session).pending=some (t,row) →
  ∃txn,w.txns t=some txn ∧ w.SessionWrite txn session row
 resets:∀token row,(w.resets.cell token).pending=some (t,row) →
  ∃txn,w.txns t=some txn ∧ w.ResetWrite txn token row

def World.Locks (t:ℕ)(userId:String):Prop:=∃row,(w.credentials.cell userId).pending=some (t,row)

/-- `t` has found, or written, all tokens of the user that are not used. -/
def World.Superseding (t:ℕ)(userId:String)(targets:List ℕ):Prop:=
 ∀token row,(w.resets.cell token).committed=some row → row.userId=userId →
  row.unused=true→token∈targets ∨ ∃row',(w.resets.cell token).pending=some (t,row')

def World.Revoking (t:ℕ)(userId:String)(targets:List ℕ):Prop:=
 ∀session row,(w.sessions.cell session).committed=some row → row.userId=userId →
  row.live=true→(w.checked session).isSome=true →
  session∈targets ∨ ∃row',(w.sessions.cell session).pending=some (t,row')

/-- `t` has taken the token, which nobody has used. -/
def World.Took (t token:ℕ)(userId:String):Prop:=
 ∃old row,(w.resets.cell token).committed=some old ∧ old.userId=userId ∧
  old.unused=true ∧ (w.resets.cell token).pending=some (t,row)

def World.LogInFacts (t:ℕ)(userId password:String):LogIn→Prop
 | .checked=>w.Known userId
 | .updating rehashed targets=>w.Known userId ∧ userId∈targets ∧
  ∀passwordHash,rehashed=some passwordHash→∃salt,passwordHash=env.hash salt password
 | .updated | .opened _=>w.Locks t userId

def World.RequestFacts (t:ℕ)(userId:String):Request→Prop
 | .found=>True
 | .superseding targets=>w.Superseding t userId targets
 | .superseded=>w.Superseding t userId []
 | .issued token=>w.Superseding t userId [] ∧
  ∃row,w.resets.cell token=⟨none,some (t,row)⟩ ∧ row.userId=userId

def World.ConfirmFacts (t token:ℕ)(newPassword:String):Confirm→Prop
 | .begun | .taking _=>True
 | .taken userId=>w.Took t token userId
 | .rehashing userId passwordHash targets=>w.Took t token userId ∧ userId∈targets ∧
  ∃salt,passwordHash=env.hash salt newPassword
 | .rehashed userId=>w.Took t token userId ∧ w.Locks t userId
 | .revoking userId targets =>w.Took t token userId ∧ w.Locks t userId ∧ w.Revoking t userId targets
 | .revoked userId=>w.Took t token userId ∧ w.Locks t userId ∧ w.Revoking t userId []

def World.Facts (t:ℕ):Txn→Prop
 | .logIn userId _ password _ _ stage=>w.LogInFacts env t userId password stage
 | .openSession _ | .logOut _ _ _=>True
 | .request userId _ _ stage=>w.Known userId ∧ w.RequestFacts t userId stage
 | .confirm token newPassword _ stage=>w.ConfirmFacts env t token newPassword stage

structure World.Inv:Prop where
 users:∀user∈w.users,w.Known user.userId
 fresh:∀id,w.nextId ≤ id→w.sessions.cell id=.absent ∧ w.resets.cell id=.absent
 known:∀token row,(w.resets.cell token).committed=some row→w.Known row.userId
 writes:∀t,w.Writes env t
 facts:∀t txn,w.txns t=some txn→w.Facts env t txn
 alone:∀t u txn txn' userId,w.txns t=some txn→w.txns u=some txn' →
  txn.supersedes?=some userId→txn'.supersedes?=some userId→t=u

end

/-- A statement of `t`, or its failure. -/
structure World.Local (t:ℕ)(w w':World):Prop where
 users:w'.users=w.users
 log:w'.log=w.log
 credentials:w.credentials.Local t w'.credentials
 sessions:w.sessions.Local t w'.sessions
 resets:w.resets.Local t w'.resets
 nextId:w.nextId≤w'.nextId
 others:∀u,u≠t→w'.txns u=w.txns u
 checked:∀session,session<w.nextId→w'.checked session=w.checked session

section
variable {env:Env}{w w':World}{t u:ℕ}

lemma World.Local.known (loc:World.Local t w w')(userId:String) :
 w'.Known userId ↔ w.Known userId:=by
 unfold World.Known
 rw[loc.credentials.committed]

lemma World.Local.took (loc:World.Local t w w')(other:u≠t){token:ℕ}{userId:String}
 (took:w.Took u token userId):w'.Took u token userId:=by
 obtain ⟨old,row,committed,of,unused,pending⟩:=took
 exact ⟨old,row,(loc.resets.committed token).trans committed,of,unused,
  (loc.resets.others token u row other).mpr pending⟩

lemma World.Local.locks (loc:World.Local t w w')(other:u≠t){userId:String}
 (locks:w.Locks u userId):w'.Locks u userId:=by
 obtain ⟨row,pending⟩:=locks
 exact ⟨row,(loc.credentials.others userId u row other).mpr pending⟩

lemma World.Local.superseding (loc:World.Local t w w')(other:u≠t){userId:String}
 {targets:List ℕ}(superseding:w.Superseding u userId targets) :
 w'.Superseding u userId targets:=by
 intro token row committed of unused
 rw[loc.resets.committed] at committed
 refine (superseding token row committed of unused).imp_right fun ⟨row',pending⟩=>?_
 exact ⟨row',(loc.resets.others token u row' other).mpr pending⟩

lemma World.Inv.lt_of_committed (inv:w.Inv env){session:ℕ}{row:Session}
 (committed:(w.sessions.cell session).committed=some row):session<w.nextId:=by
 by_contra later
 rw[(inv.fresh session (Nat.not_lt.mp later)).1] at committed
 cases committed

lemma World.Inv.lt_of_pending (inv:w.Inv env){session:ℕ}{write:ℕ × Session}
 (pending:(w.sessions.cell session).pending=some write):session<w.nextId:=by
 by_contra later
 rw[(inv.fresh session (Nat.not_lt.mp later)).1] at pending
 cases pending

lemma World.Local.revoking (loc:World.Local t w w')(inv:w.Inv env)(other:u≠t)
 {userId:String}{targets:List ℕ}(revoking:w.Revoking u userId targets) :
 w'.Revoking u userId targets:=by
 intro session row committed of live checked
 rw[loc.sessions.committed] at committed
 rw[loc.checked session (inv.lt_of_committed committed)] at checked
 refine (revoking session row committed of live checked).imp_right fun ⟨row',pending⟩=>?_
 exact ⟨row',(loc.sessions.others session u row' other).mpr pending⟩

lemma World.Local.facts (loc:World.Local t w w')(inv:w.Inv env)(other:u≠t){txn:Txn}
 (facts:w.Facts env u txn):w'.Facts env u txn:=by
 cases txn with
 | openSession session | logOut session now stage=>trivial
 | logIn userId passwordHash password now expiresAt stage =>
  cases stage with
  | checked=>exact (loc.known userId).mpr facts
  | updating rehashed targets=>exact ⟨(loc.known userId).mpr facts.1,facts.2⟩
  | updated | opened session=>exact loc.locks other facts
 | request userId now expiresAt stage =>
  refine ⟨(loc.known userId).mpr facts.1,?_⟩
  have staged:=facts.2
  cases stage with
  | found=>trivial
  | superseding targets | superseded=>exact loc.superseding other staged
  | issued token =>
   obtain ⟨superseding,row,cell,of⟩:=staged
   refine ⟨loc.superseding other superseding,row,?_,of⟩
   have committed:=loc.resets.committed token
   have pending:=(loc.resets.others token u row other).mpr (by rw[cell])
   rw[cell] at committed
   cases is:w'.resets.cell token
   rw[is] at committed pending
   exact congrArg₂ Cell.mk committed pending
 | confirm token newPassword now stage =>
  cases stage with
  | begun | taking targets=>trivial
  | taken userId=>exact loc.took other facts
  | rehashing userId passwordHash targets=>exact ⟨loc.took other facts.1,facts.2⟩
  | rehashed userId=>exact ⟨loc.took other facts.1,loc.locks other facts.2⟩
  | revoking userId targets | revoked userId =>
   exact ⟨loc.took other facts.1,loc.locks other facts.2.1,loc.revoking inv other facts.2.2⟩

lemma World.Local.writes (loc:World.Local t w w')(inv:w.Inv env)(other:u≠t) :
 w'.Writes env u:=by
 have writes:=inv.writes u
 refine ⟨fun userId row pending=>?_,fun session row pending=>?_,fun token row pending=>?_⟩
 · rw[loc.credentials.others userId u row other] at pending
   obtain ⟨txn,is,write⟩:=writes.credentials userId row pending
   refine ⟨txn,(loc.others u other).trans is,?_⟩
   unfold World.CredentialsWrite
   rw[loc.credentials.committed]
   exact write
 · rw[loc.sessions.others session u row other] at pending
   obtain ⟨txn,is,write⟩:=writes.sessions session row pending
   refine ⟨txn,(loc.others u other).trans is,?_⟩
   unfold World.SessionWrite
   rw[loc.sessions.committed,loc.checked session (inv.lt_of_pending pending)]
   exact write
 · rw[loc.resets.others token u row other] at pending
   obtain ⟨txn,is,write⟩:=writes.resets token row pending
   refine ⟨txn,(loc.others u other).trans is,?_⟩
   unfold World.ResetWrite
   rw[loc.resets.committed]
   exact write

lemma World.Inv.step (inv:w.Inv env)(loc:World.Local t w w')
 (fresh:∀id,w'.nextId ≤ id→w'.sessions.cell id=.absent ∧ w'.resets.cell id=.absent)
 (writes:w'.Writes env t)(facts:∀txn,w'.txns t=some txn→w'.Facts env t txn)
 (alone:∀txn userId,w'.txns t=some txn→txn.supersedes?=some userId →
  ∀u,u≠t→∀txn',w.txns u=some txn'→txn'.supersedes?≠some userId) :
 w'.Inv env where
 users user mem:=by
  rw[loc.users] at mem
  exact (loc.known _).mpr (inv.users user mem)
 fresh:=fresh
 known token row committed:=by
  rw[loc.resets.committed] at committed
  exact (loc.known _).mpr (inv.known token row committed)
 writes u:=by
  by_cases own:u=t
  · exact own ▸ writes
  · exact loc.writes inv own
 facts u txn is:=by
  by_cases own:u=t
  · subst own
    exact facts txn is
  · rw[loc.others u own] at is
    exact loc.facts inv own (inv.facts u txn is)
 alone u v txn txn' userId is is' supersedes supersedes':=by
  by_cases own:u=t
  · subst own
    by_contra differs
    rw[loc.others v (Ne.symm differs)] at is'
    exact alone txn userId is supersedes v (Ne.symm differs) txn' is' supersedes'
  · by_cases own':v=t
    · subst own'
      rw[loc.others u own] at is
      exact absurd supersedes (alone txn' userId is' supersedes' u own txn is)
    · rw[loc.others u own] at is
      rw[loc.others v own'] at is'
      exact inv.alone u v txn txn' userId is is' supersedes supersedes'

end

end Kivou.Accounts
