import Kivou.AccountPasswordFacts

set_option autoImplicit false

/-! Each statement leaves the other transactions alone, and does what its next stage says; a login
may not write on a hash that its password does not verify. -/
namespace Kivou.Accounts
open ReadCommitted

def Txn.Ready:Txn→Prop
 | .logIn _ _ _ _ _ stage=>∃session,stage=.opened session
 | .openSession _=>True
 | .logOut _ _ stage=>stage=.revoked
 | .request _ _ _ stage=>∃token,stage=.issued token
 | .confirm _ _ _ stage=>∃userId,stage=.revoked userId

section
variable {env:Env}{w w':World}{t:ℕ}{new:Txn}

variable {old:Txn}{userId:String}{token:ℕ}{targets:List ℕ}{expiresAt now:ℤ}

lemma extends_of_none (login:old.login?=none)(reset:old.reset?=none)
 (issued:old.issued?=none):old.Extends new where
 login x is:=by
  rw[login] at is
  cases is
 reset x is:=by
  rw[reset] at is
  cases is
 issued x is:=by
  rw[issued] at is
  cases is

lemma keep_credentials (inv:w.Inv env)
 (extends':∀old,w.txns t=some old → old.Extends new)(is:w'.txns t=some new)
 {row:Credentials}
 (committed:(w'.credentials.cell userId).committed=(w.credentials.cell userId).committed)
 (pending:(w.credentials.cell userId).pending=some (t,row)) :
 ∃txn,w'.txns t=some txn ∧ w'.CredentialsWrite env txn userId row:=by
 obtain ⟨old,was,before,there,write⟩:=(inv.writes t).credentials userId row pending
 have extends':=extends' old was
 refine ⟨new,is,before,committed.trans there,?_⟩
 rcases write with ⟨password,login,verified⟩|⟨password,salt,reset,rehashed⟩
 · exact .inl ⟨password,extends'.login _ login,verified⟩
 · exact .inr ⟨password,salt,extends'.reset _ reset,rehashed⟩

lemma keep_session (inv:w.Inv env)
 (extends':∀old,w.txns t=some old → old.Extends new)(is:w'.txns t=some new)
 {session:ℕ}{row:Session}
 (committed:(w'.sessions.cell session).committed=(w.sessions.cell session).committed)
 (checked:w'.checked session=w.checked session)
 (pending:(w.sessions.cell session).pending=some (t,row)) :
 ∃txn,w'.txns t=some txn ∧ w'.SessionWrite txn session row:=by
 obtain ⟨old,was,write⟩:=(inv.writes t).sessions session row pending
 have extends':=extends' old was
 refine ⟨new,is,?_⟩
 unfold World.SessionWrite
 rw[committed,checked]
 refine write.imp_left fun ⟨absent,login⟩=>⟨absent,fun password is'=>?_⟩
 exact extends'.login _ (login password is')

lemma keep_reset (inv:w.Inv env)
 (extends':∀old,w.txns t=some old → old.Extends new)(is:w'.txns t=some new){row:Reset}
 (committed:(w'.resets.cell token).committed=(w.resets.cell token).committed)
 (pending:(w.resets.cell token).pending=some (t,row)) :
 ∃txn,w'.txns t=some txn ∧ w'.ResetWrite txn token row:=by
 obtain ⟨old,was,write⟩:=(inv.writes t).resets token row pending
 have extends':=extends' old was
 refine ⟨new,is,?_⟩
 unfold World.ResetWrite
 rw[committed]
 exact write.imp_left fun ⟨absent,issued⟩=>⟨absent,extends'.issued _ issued⟩

lemma World.Inv.alone_of (inv:w.Inv env)(is:w.txns t=some old)
 (same:new.supersedes?=old.supersedes?):∀userId,new.supersedes?=some userId →
  ∀u,u≠t→∀txn',w.txns u=some txn'→txn'.supersedes?≠some userId:=by
 intro userId supersedes u other txn' there supersedes'
 exact other (inv.alone u t txn' old userId there is supersedes' (same.symm.trans supersedes))

/-- A step of `t` that leaves it at `new`. -/
lemma World.Inv.stepped (inv:w.Inv env)(loc:World.Local t w w') (is:w'.txns t=some new)
 (fresh:∀id,w'.nextId ≤ id→w'.sessions.cell id=.absent ∧ w'.resets.cell id=.absent)
 (writes:w'.Writes env t)(facts:w'.Facts env t new)
 (alone:∀userId,new.supersedes?=some userId →
  ∀u,u≠t→∀txn',w.txns u=some txn'→txn'.supersedes?≠some userId) :
 World.Local t w w' ∧ w'.Inv env:=by
 refine ⟨loc,inv.step loc fresh writes ?_ ?_⟩
 · intro txn is'
   obtain rfl:=Option.mem_unique is is'
   exact facts
 · intro txn userId is'
   obtain rfl:=Option.mem_unique is is'
   exact alone userId

lemma World.Inv.put (inv:w.Inv env)
 (extends':∀old,w.txns t=some old → old.Extends new)(facts:w.Facts env t new)
 (alone:∀userId,new.supersedes?=some userId →
  ∀u,u≠t→∀txn',w.txns u=some txn'→txn'.supersedes?≠some userId) :
 World.Local t w (w.put t new) ∧ (w.put t new).Inv env:=by
 have is:(w.put t new).txns t=some new:=Function.update_self _ _ _
 have loc:World.Local t w (w.put t new):=⟨rfl,rfl,.refl t _,.refl t _,.refl t _,Nat.le_refl _,
   fun u other=>Function.update_of_ne other _ _,fun _ _=>rfl⟩
 refine inv.stepped loc is inv.fresh ⟨?_,?_,?_⟩ facts alone
 · exact fun userId row pending=>keep_credentials inv extends' is rfl pending
 · exact fun session row pending=>keep_session inv extends' is rfl rfl pending
 · exact fun token row pending=>keep_reset inv extends' is rfl pending

lemma World.Inv.draw (inv:w.Inv env)(t:ℕ) :
 World.Local t w {w with nextId:=w.nextId+1} ∧ {w with nextId:=w.nextId+1}.Inv env:=by
 have loc:World.Local t w {w with nextId:=w.nextId+1}:=
  ⟨rfl,rfl,.refl t _,.refl t _,.refl t _,Nat.le_succ _,fun _ _=>rfl,fun _ _=>rfl⟩
 have writes:{w with nextId:=w.nextId+1}.Writes env t:=by
  have writes:=inv.writes t
  exact ⟨writes.credentials,writes.sessions,writes.resets⟩
 refine ⟨loc,inv.step loc (fun id later=>?_) writes (inv.facts t) ?_⟩
 · exact inv.fresh id (Nat.le_of_succ_le later)
 · intro txn userId is supersedes u other txn' is' supersedes'
   exact other (inv.alone u t txn' txn userId is' is supersedes' supersedes)

lemma World.Local.trans {w'':World}(first:World.Local t w w')(second:World.Local t w' w'') :
 World.Local t w w'' where
 users:=second.users.trans first.users
 log:=second.log.trans first.log
 credentials:=first.credentials.trans second.credentials
 sessions:=first.sessions.trans second.sessions
 resets:=first.resets.trans second.resets
 nextId:=Nat.le_trans first.nextId second.nextId
 others u other:=(second.others u other).trans (first.others u other)
 checked session earlier:=(second.checked session (Nat.lt_of_lt_of_le earlier first.nextId)).trans
  (first.checked session earlier)

lemma World.Inv.write_credentials (inv:w.Inv env){targets:List String}
 {p:String→Credentials→Bool}{f:Credentials→Credentials}
 (free:w.credentials.free t targets=true)
 (extends':∀old,w.txns t=some old → old.Extends new)
 (written:∀userId old,(w.credentials.cell userId).view t=some old→p userId old=true →
  w.CredentialsWrite env new userId (f old))
 (facts:{w with credentials:=w.credentials.write t targets p f}.Facts env t new)
 (alone:new.supersedes?=none) :
 World.Local t w ({w with credentials:=w.credentials.write t targets p f}.put t new) ∧
  ({w with credentials:=w.credentials.write t targets p f}.put t new).Inv env:=by
 have loc:World.Local t w ({w with credentials:=w.credentials.write t targets p f}.put t new):=
  ⟨rfl,rfl,Table.local_write free,.refl t _,.refl t _,Nat.le_refl _,
   fun u other=>Function.update_of_ne other _ _,fun _ _=>rfl⟩
 have is:({w with credentials:=w.credentials.write t targets p f}.put t new).txns t =
   some new:=Function.update_self _ _ _
 refine inv.stepped loc is inv.fresh ⟨fun userId row pending=>?_,?_,?_⟩ facts
  fun _ is'=>nomatch alone.symm.trans is'
 · change ((w.credentials.write t targets p f).cell userId).pending=some (t,row) at pending
   rcases Table.write_cases t p f w.credentials userId targets with ⟨same,-⟩|⟨old,-,seen,holds,cell⟩
   · rw[same] at pending
     exact keep_credentials inv extends' is (loc.credentials.committed userId) pending
   · rw[cell] at pending
     obtain rfl:=congrArg Prod.snd (Option.some.inj pending)
     refine ⟨new,is,?_⟩
     unfold World.CredentialsWrite
     rw[loc.credentials.committed]
     exact written userId old seen holds
 · exact fun session row pending=>keep_session inv extends' is rfl rfl pending
 · exact fun token row pending=>keep_reset inv extends' is rfl pending

lemma World.Inv.write_sessions (inv:w.Inv env){p:ℕ→Session→Bool}
 {f:Session→Session}(free:w.sessions.free t targets=true)
 (extends':∀old,w.txns t=some old → old.Extends new)
 (same:∀old,(f old).userId=old.userId)(revoked:∀old,(f old).live=false)
 (facts:{w with sessions:=w.sessions.write t targets p f}.Facts env t new)
 (alone:new.supersedes?=none) :
 World.Local t w ({w with sessions:=w.sessions.write t targets p f}.put t new) ∧
  ({w with sessions:=w.sessions.write t targets p f}.put t new).Inv env:=by
 have loc:World.Local t w ({w with sessions:=w.sessions.write t targets p f}.put t new):=
  ⟨rfl,rfl,.refl t _,Table.local_write free,.refl t _,Nat.le_refl _,
   fun u other=>Function.update_of_ne other _ _,fun _ _=>rfl⟩
 have is:({w with sessions:=w.sessions.write t targets p f}.put t new).txns t =
   some new:=Function.update_self _ _ _
 refine inv.stepped loc is (fun id later=>?_) ⟨?_,fun session row pending=>?_,?_⟩ facts
  fun _ is'=>nomatch alone.symm.trans is'
 · exact ⟨Table.write_absent (inv.fresh id later).1,(inv.fresh id later).2⟩
 · exact fun userId row pending=>keep_credentials inv extends' is rfl pending
 · change ((w.sessions.write t targets p f).cell session).pending=some (t,row) at pending
   rcases Table.write_cases t p f w.sessions session targets with
    ⟨unchanged,-⟩ | ⟨old,-,seen,-,cell⟩
   · rw[unchanged] at pending
     exact keep_session inv extends' is (loc.sessions.committed session) rfl pending
   · rw[cell] at pending
     obtain rfl:=congrArg Prod.snd (Option.some.inj pending)
     rcases Cell.of_view seen with held|⟨-,there⟩
     · obtain ⟨txn,is',write⟩:=keep_session inv extends' is
        (loc.sessions.committed session) rfl held
       refine ⟨txn,is',?_⟩
       rcases write with ⟨absent,login⟩|⟨before,there,of,-⟩
       · refine .inl ⟨absent,fun password checked=>?_⟩
         change txn.login?=some ((f old).userId,password)
         rw[same]
         exact login password checked
       · exact .inr ⟨before,there,(same old).trans of,revoked old⟩
     · exact ⟨new,is,.inr ⟨old,(loc.sessions.committed session).trans there,same old,revoked old⟩⟩
 · exact fun token row pending=>keep_reset inv extends' is rfl pending

lemma World.Inv.write_resets (inv:w.Inv env){p:ℕ→Reset→Bool}
 {f:Reset→Reset}(free:w.resets.free t targets=true)
 (was:w.txns t=some old)(extends':old.Extends new)(unissued:old.issued?=none)
 (same:∀old,(f old).userId=old.userId)(used:∀old,(f old).unused=false)
 (facts:{w with resets:=w.resets.write t targets p f}.Facts env t new)
 (alone:new.supersedes?=old.supersedes?) :
 World.Local t w ({w with resets:=w.resets.write t targets p f}.put t new) ∧
  ({w with resets:=w.resets.write t targets p f}.put t new).Inv env:=by
 have loc:World.Local t w ({w with resets:=w.resets.write t targets p f}.put t new):=
  ⟨rfl,rfl,.refl t _,.refl t _,Table.local_write free,Nat.le_refl _,
   fun u other=>Function.update_of_ne other _ _,fun _ _=>rfl⟩
 have is:({w with resets:=w.resets.write t targets p f}.put t new).txns t =
   some new:=Function.update_self _ _ _
 have extends'':∀txn,w.txns t=some txn→txn.Extends new:=by
  intro txn is'
  obtain rfl:=Option.mem_unique was is'
  exact extends'
 refine inv.stepped loc is (fun id later=>?_) ⟨?_,?_,fun token row pending=>?_⟩ facts
  (inv.alone_of was alone)
 · exact ⟨(inv.fresh id later).1,Table.write_absent (inv.fresh id later).2⟩
 · exact fun userId row pending=>keep_credentials inv extends'' is rfl pending
 · exact fun session row pending=>keep_session inv extends'' is rfl rfl pending
 · change ((w.resets.write t targets p f).cell token).pending=some (t,row) at pending
   rcases Table.write_cases t p f w.resets token targets with
    ⟨unchanged,-⟩ | ⟨before,-,seen,-,cell⟩
   · rw[unchanged] at pending
     exact keep_reset inv extends'' is (loc.resets.committed token) pending
   · rw[cell] at pending
     obtain rfl:=congrArg Prod.snd (Option.some.inj pending)
     refine ⟨new,is,.inr ?_⟩
     rcases Cell.of_view seen with held|⟨-,there⟩
     · obtain ⟨txn,is',write⟩:=(inv.writes t).resets token before held
       obtain rfl:=Option.mem_unique was is'
       rcases write with ⟨-,issued⟩|⟨first,there,of,-⟩
       · rw[unissued] at issued
         cases issued
       · exact ⟨first,(loc.resets.committed token).trans there,(same before).trans of,used before⟩
     · exact ⟨before,(loc.resets.committed token).trans there,same before,used before⟩

lemma World.Inv.insert_session (inv:w.Inv env)
 {checked:Option String}(extends':∀old,w.txns t=some old → old.Extends new)
 (login:∀password,checked=some password→new.login?=some (userId,password))
 (facts:(w.insertSession t userId expiresAt checked).Facts env t new)
 (alone:new.supersedes?=none) :
 World.Local t w ((w.insertSession t userId expiresAt checked).put t new) ∧
  ((w.insertSession t userId expiresAt checked).put t new).Inv env:=by
 have absent:=(inv.fresh w.nextId (Nat.le_refl _)).1
 have loc:World.Local t w ((w.insertSession t userId expiresAt checked).put t new):=
  ⟨rfl,rfl,.refl t _,Table.local_insert absent,.refl t _,Nat.le_succ _,
   fun u other=>Function.update_of_ne other _ _,
   fun session earlier=>Function.update_of_ne (Nat.ne_of_lt earlier) _ _⟩
 have is:((w.insertSession t userId expiresAt checked).put t new).txns t=some new:=
  Function.update_self _ _ _
 refine inv.stepped loc is (fun id later=>?_) ⟨?_,fun session row pending=>?_,?_⟩ facts
  fun _ is'=>nomatch alone.symm.trans is'
 · have earlier:w.nextId ≤ id:=Nat.le_of_succ_le later
   refine ⟨?_,(inv.fresh id earlier).2⟩
   exact (Table.insert_cell_of_ne (Nat.ne_of_gt later)).trans (inv.fresh id earlier).1
 · exact fun userId row pending=>keep_credentials inv extends' is rfl pending
 · change ((w.sessions.insert t w.nextId ⟨userId,expiresAt,none⟩).cell session).pending =
    some (t,row) at pending
   by_cases own:session=w.nextId
   · subst own
     rw[Table.insert_cell_self] at pending
     obtain rfl:=congrArg Prod.snd (Option.some.inj pending)
     refine ⟨new,is,.inl ⟨?_,fun password checked'=>login password ?_⟩⟩
     · rw[loc.sessions.committed,absent]
       rfl
     · change Function.update w.checked w.nextId checked w.nextId=some password at checked'
       rwa[Function.update_self] at checked'
   · rw[Table.insert_cell_of_ne own] at pending
     exact keep_session inv extends' is (loc.sessions.committed session)
      (Function.update_of_ne own _ _) pending
 · exact fun token row pending=>keep_reset inv extends' is rfl pending

lemma World.Inv.insert_reset (inv:w.Inv env)
 (was:w.txns t=some (.request userId now expiresAt .superseded)) :
 let w':={w with
  resets:=w.resets.insert t w.nextId ⟨userId,expiresAt,none⟩
  nextId:=w.nextId+1}.put t (.request userId now expiresAt (.issued w.nextId))
 World.Local t w w' ∧ w'.Inv env:=by
 intro w'
 have absent:=(inv.fresh w.nextId (Nat.le_refl _)).2
 have facts:=inv.facts t _ was
 have loc:World.Local t w w':=⟨rfl,rfl,.refl t _,.refl t _,Table.local_insert absent,Nat.le_succ _,
   fun u other=>Function.update_of_ne other _ _,fun _ _=>rfl⟩
 have is:w'.txns t=some (.request userId now expiresAt (.issued w.nextId)):=
  Function.update_self _ _ _
 have extends':∀old,w.txns t=some old →
   old.Extends (.request userId now expiresAt (.issued w.nextId)):=by
  intro old is'
  obtain rfl:=Option.mem_unique was is'
  exact extends_of_none rfl rfl rfl
 refine inv.stepped loc is (fun id later=>?_) ⟨?_,?_,fun token row pending=>?_⟩ ?_
  (inv.alone_of was rfl)
 · have earlier:w.nextId ≤ id:=Nat.le_of_succ_le later
   refine ⟨(inv.fresh id earlier).1,?_⟩
   exact (Table.insert_cell_of_ne (Nat.ne_of_gt later)).trans (inv.fresh id earlier).2
 · exact fun userId row pending=>keep_credentials inv extends' is rfl pending
 · exact fun session row pending=>keep_session inv extends' is rfl rfl pending
 · change ((w.resets.insert t w.nextId ⟨userId,expiresAt,none⟩).cell token).pending =
    some (t,row) at pending
   by_cases own:token=w.nextId
   · subst own
     rw[Table.insert_cell_self] at pending
     obtain rfl:=congrArg Prod.snd (Option.some.inj pending)
     refine ⟨_,is,.inl ⟨?_,rfl⟩⟩
     rw[loc.resets.committed,absent]
     rfl
   · rw[Table.insert_cell_of_ne own] at pending
     exact keep_reset inv extends' is (loc.resets.committed token) pending
 · refine ⟨(loc.known userId).mpr facts.1,?_,⟨userId,expiresAt,none⟩,?_,rfl⟩
   · intro token row there of unused
     rw[loc.resets.committed] at there
     refine (facts.2 token row there of unused).imp_right fun ⟨row',pending⟩=>⟨row',?_⟩
     have other:token≠w.nextId:=by
      rintro rfl
      rw[absent] at there
      cases there
     exact (congrArg Cell.pending (Table.insert_cell_of_ne other)).trans pending
   · refine Table.insert_cell_self.trans ?_
     rw[absent]
     rfl

lemma World.Inv.rollback (inv:w.Inv env)(t:ℕ) :
 World.Local t w (w.rollback t) ∧ (w.rollback t).Inv env:=by
 have loc:World.Local t w (w.rollback t):=
  ⟨rfl,rfl,Table.local_rollback,Table.local_rollback,Table.local_rollback,Nat.le_refl _,
   fun u other=>Function.update_of_ne other _ _,fun _ _=>rfl⟩
 have is:(w.rollback t).txns t=none:=Function.update_self _ _ _
 refine ⟨loc,inv.step loc (fun id later=>?_) ⟨?_,?_,?_⟩ ?_ ?_⟩
 · obtain ⟨session,reset⟩:=inv.fresh id later
   change (w.sessions.cell id).rollback t=.absent ∧ (w.resets.cell id).rollback t=.absent
   rw[session,reset]
   exact ⟨rfl,rfl⟩
 · exact fun userId row pending=>absurd pending Table.rollback_pending_ne
 · exact fun session row pending=>absurd pending Table.rollback_pending_ne
 · exact fun token row pending=>absurd pending Table.rollback_pending_ne
 · intro txn is'
   rw[is] at is'
   cases is'
 · intro txn userId is'
   rw[is] at is'
   cases is'

lemma World.Local.refl (t:ℕ)(w:World):World.Local t w w:=
 ⟨rfl,rfl,.refl t _,.refl t _,.refl t _,Nat.le_refl _,fun _ _=>rfl,fun _ _=>rfl⟩

lemma hashPassword_eq {salt:ℕ}{password passwordHash:String}
 (hashed:env.hashPassword salt password=some passwordHash) :
 passwordHash=env.hash salt password:=by
 unfold Env.hashPassword at hashed
 split at hashed
 · cases hashed
 · split at hashed
   · cases hashed
   · exact (Option.some.inj hashed).symm

lemma World.Known.view (known:w.Known userId)(t:ℕ) :
 ∃row,(w.credentials.cell userId).view t=some row:=by
 obtain ⟨row,there⟩:=known
 unfold Cell.view
 split
 · split
   · exact ⟨_,rfl⟩
   · exact ⟨row,there⟩
 · exact ⟨row,there⟩

/-- An `UPDATE` of the row of a user finds it, and locks it. -/
lemma World.Known.found (known:w.Known userId)(t:ℕ) :
 userId∈w.credentials.find t fun k _=>k==userId:=by
 obtain ⟨row,seen⟩:=known.view t
 exact Table.mem_find.mpr ⟨row,seen,beq_self_eq_true userId⟩

lemma World.Known.locks (known:w.Known userId){targets:List String}
 (mem:userId∈targets)(f:Credentials→Credentials) :
 {w with credentials:=w.credentials.write t targets (fun k _=>k==userId) f}.Locks t
  userId:=by
 obtain ⟨row,seen⟩:=known.view t
 rcases Table.write_cases t (fun k _=>k==userId) f w.credentials userId targets with
  ⟨-,fails⟩ | ⟨old,-,-,-,cell⟩
 · have fails:=fails mem row seen
   rw[beq_self_eq_true] at fails
   cases fails
 · exact ⟨f old,congrArg Cell.pending cell⟩

lemma World.Inv.advanceLogIn (inv:w.Inv env){passwordHash password:String}{stage:LogIn}
 (is:w.txns t=some (.logIn userId passwordHash password now expiresAt stage))
 (unready:∀session,stage≠.opened session)
 (verified:∀rehashed targets,stage=.updating rehashed targets →
  w.credentials.free t targets=true →
  ∀row,(w.credentials.cell userId).committed=some row →env.verify row.passwordHash password=true) :
 World.Local t w (w.advanceLogIn env t userId passwordHash password now expiresAt stage) ∧
  (w.advanceLogIn env t userId passwordHash password now expiresAt stage).Inv env:=by
 have facts:=inv.facts t _ is
 have extends' (stage':LogIn):∀old,w.txns t=some old →
   old.Extends (.logIn userId passwordHash password now expiresAt stage'):=by
  intro old is'
  obtain rfl:=Option.mem_unique is is'
  exact ⟨fun _ login=>login,fun _ reset=>(by cases reset),fun _ issued=>by cases issued⟩
 cases stage with
 | checked =>
  have found:=World.Known.found facts t
  unfold World.advanceLogIn
  dsimp only
  split
  · cases hashed:env.hashPassword w.nextId password with
    | none=>exact inv.rollback t
    | some rehashed =>
     obtain ⟨loc,inv'⟩:=inv.draw t
     refine (inv'.put (extends' (.updating (some rehashed) _)) ?_ ?_).imp_left loc.trans
     · refine ⟨facts,found,fun passwordHash is'=>⟨w.nextId,?_⟩⟩
       rw[←Option.some.inj is']
       exact hashPassword_eq hashed
     · intro userId none
       cases none
  · refine inv.put (extends' (.updating none _)) ⟨facts,found,fun _ none=>by cases none⟩ ?_
    intro userId none
    cases none
 | updating rehashed targets =>
  obtain ⟨known,mem,hashed⟩:=facts
  unfold World.advanceLogIn
  dsimp only
  split
  · rename_i free
    refine inv.write_credentials free (extends' .updated) ?_ (known.locks mem _) rfl
    intro userId' old seen own
    obtain rfl:userId'=userId:=beq_iff_eq.mp own
    have before:∃before,(w.credentials.cell userId').committed=some before ∧
      (old.passwordHash=before.passwordHash ∨
       ∃salt,old.passwordHash=env.hash salt password):=by
     rcases Cell.of_view seen with pending|⟨-,there⟩
     · obtain ⟨txn,is',before,there,write⟩:=(inv.writes t).credentials userId' old pending
       obtain rfl:=Option.mem_unique is is'
       rcases write with ⟨password',login,-,rest⟩|⟨password',salt,reset,-⟩
       · cases login
         exact ⟨before,there,rest⟩
       · cases reset
     · exact ⟨old,there,.inl rfl⟩
    obtain ⟨before,there,rest⟩:=before
    refine ⟨before,there,.inl ⟨password,rfl,verified _ _ rfl free before there,?_⟩⟩
    cases rehashed with
    | none=>exact rest
    | some passwordHash=>exact .inr (hashed passwordHash rfl)
  · exact ⟨.refl t w,inv⟩
 | updated =>
  refine inv.insert_session (extends' (.opened w.nextId)) ?_ facts rfl
  intro password' is'
  rw[←Option.some.inj is']
  rfl
 | opened session=>exact absurd rfl (unready session)

lemma World.Inv.advanceLogOut (inv:w.Inv env){session:ℕ}{stage:LogOut}
 (is:w.txns t=some (.logOut session now stage))(unready:stage≠.revoked) :
 World.Local t w (w.advanceLogOut t session now stage) ∧
  (w.advanceLogOut t session now stage).Inv env:=by
 have extends' (stage':LogOut):∀old,w.txns t=some old → old.Extends (.logOut session now stage'):=by
  intro old is'
  obtain rfl:=Option.mem_unique is is'
  exact extends_of_none rfl rfl rfl
 cases stage with
 | begun =>
  refine inv.put (extends' (.revoking _)) trivial ?_
  intro userId none
  cases none
 | revoking targets =>
  unfold World.advanceLogOut
  dsimp only
  split
  · exact inv.write_sessions ‹_› (extends' .revoked) (fun _=>rfl) (fun _=>rfl) trivial rfl
  · exact ⟨.refl t w,inv⟩
 | revoked=>exact absurd rfl unready

lemma World.Inv.advanceRequest (inv:w.Inv env)
 {stage:Request}(is:w.txns t=some (.request userId now expiresAt stage))
 (unready:∀token,stage≠.issued token)
 (alone:stage=.found→∀u txn,u≠t→w.txns u=some txn →
  txn.supersedes?≠some userId) :
 World.Local t w (w.advanceRequest t userId now expiresAt stage) ∧
  (w.advanceRequest t userId now expiresAt stage).Inv env:=by
 have facts:=inv.facts t _ is
 cases stage with
 | found =>
  refine inv.put (fun old is'=>?_) ⟨facts.1,?_⟩ ?_
  · obtain rfl:=Option.mem_unique is is'
    exact extends_of_none rfl rfl rfl
  · intro token row there of unused
    exact Table.mem_find_or_held there (by simp[of,unused])
  · intro userId' same u other txn' there
    obtain rfl:=Option.some.inj same
    exact alone rfl u txn' other there
 | superseding targets =>
  unfold World.advanceRequest
  dsimp only
  split
  · refine inv.write_resets ‹_› is (extends_of_none rfl rfl rfl) rfl (fun _=>rfl)
     (fun _=>rfl) ⟨facts.1,?_⟩ rfl
    intro token row there of unused
    rw[Table.write_committed] at there
    exact .inr (Table.held_of_write there (by simp[of,unused]) (facts.2 token row there of unused))
  · exact ⟨.refl t w,inv⟩
 | superseded=>exact inv.insert_reset is
 | issued token=>exact absurd rfl (unready token)

lemma World.Inv.took (inv:w.Inv env){newPassword:String}{row:Reset}
 (is:w.txns t=some (.confirm token newPassword now (.taking targets)))
 (seen:(w.resets.cell token).view t=some row)(mem:token∈targets)
 (usable:row.usable now=true)(f:Reset→Reset) :
 { w with resets:=w.resets.write t targets (fun k row=>k==token&&row.usable now) f
   }.Took t token row.userId:=by
 have unused:row.unused=true:=by
  rw[Reset.usable,Bool.and_eq_true] at usable
  exact usable.1
 have there:(w.resets.cell token).committed=some row:=by
  rcases Cell.of_view seen with pending|⟨-,there⟩
  · obtain ⟨txn,is',write⟩:=(inv.writes t).resets token row pending
    obtain rfl:=Option.mem_unique is is'
    rcases write with ⟨-,issued⟩|⟨-,-,-,used⟩
    · cases issued
    · rw[used] at unused
      cases unused
  · exact there
 rcases Table.write_cases t (fun k row=>k==token&&row.usable now) f w.resets token targets
  with ⟨-,fails⟩ | ⟨old,-,-,-,cell⟩
 · have fails:=fails mem row seen
   rw[beq_self_eq_true,usable] at fails
   cases fails
 · exact ⟨row,f old,Table.write_committed.trans there,rfl,unused,congrArg Cell.pending cell⟩

lemma World.Inv.advanceConfirm (inv:w.Inv env){newPassword:String}
 {stage:Confirm}(is:w.txns t=some (.confirm token newPassword now stage))
 (unready:∀userId,stage≠.revoked userId) :
 World.Local t w (w.advanceConfirm env t token newPassword now stage) ∧
  (w.advanceConfirm env t token newPassword now stage).Inv env:=by
 have facts:=inv.facts t _ is
 have extends' {stage':Confirm}(same:∀userId,stage.userId?=some userId →
   stage'.userId?=some userId):∀old,w.txns t=some old →
   old.Extends (.confirm token newPassword now stage'):=by
  intro old is'
  obtain rfl:=Option.mem_unique is is'
  refine ⟨fun _ login=>(by cases login),fun x reset=>?_,fun _ issued=>by cases issued⟩
  obtain ⟨userId,of,rfl⟩:=Option.map_eq_some_iff.mp reset
  exact Option.map_eq_some_iff.mpr ⟨userId,same userId of,rfl⟩
 have alone {stage':Confirm}(userId:String)
   (supersedes:(Txn.confirm token newPassword now stage').supersedes?=some userId) :
   ∀u,u≠t→∀txn',w.txns u=some txn'→txn'.supersedes?≠some userId:=by
  cases supersedes
 cases stage with
 | begun=>exact inv.put (extends' fun _ none=>by cases none) trivial alone
 | taking targets =>
  unfold World.advanceConfirm
  dsimp only
  split
  · cases seen:(w.resets.cell token).view t with
    | none=>exact inv.rollback t
    | some row =>
     dsimp only
     split
     · rename_i good
       exact inv.write_resets ‹_› is (extends_of_none rfl rfl rfl) rfl (fun _=>rfl)
        (fun _=>rfl) (inv.took is seen good.1 good.2 _) rfl
     · exact inv.rollback t
  · exact ⟨.refl t w,inv⟩
 | taken userId =>
  unfold World.advanceConfirm
  cases hashed:env.hashPassword w.nextId newPassword with
  | none=>exact inv.rollback t
  | some passwordHash =>
   obtain ⟨loc,inv'⟩:=inv.draw t
   have known:w.Known userId:=by
    obtain ⟨old,row,there,of,-⟩:=facts
    exact of ▸ inv.known token old there
   have next:∀old,w.txns t=some old → old.Extends (.confirm token newPassword now
     (.rehashing userId passwordHash (w.credentials.find t fun k _=>k==userId))):=
    extends' fun _ same=>same
   refine (inv'.put next ?_ alone).imp_left loc.trans
   exact ⟨facts,known.found t,w.nextId,hashPassword_eq hashed⟩
 | rehashing userId passwordHash targets =>
  obtain ⟨took,mem,salt,hashed⟩:=facts
  have known:w.Known userId:=by
   obtain ⟨old,row,there,of,-⟩:=took
   exact of ▸ inv.known token old there
  unfold World.advanceConfirm
  dsimp only
  split
  · refine inv.write_credentials ‹_› (extends' fun _ same=>same) ?_ ⟨took,known.locks mem _⟩ rfl
    intro userId' old seen own
    obtain rfl:userId'=userId:=beq_iff_eq.mp own
    obtain ⟨before,there⟩:=known
    exact ⟨before,there,.inr ⟨newPassword,salt,rfl,hashed⟩⟩
  · exact ⟨.refl t w,inv⟩
 | rehashed userId =>
  refine inv.put (extends' fun _ same=>same) ⟨facts.1,facts.2,?_⟩ alone
  intro session row there of live checked
  exact Table.mem_find_or_held there (by simp[of,live])
 | revoking userId targets =>
  unfold World.advanceConfirm
  dsimp only
  split
  · refine inv.write_sessions ‹_› (extends' fun _ same=>same) (fun _=>rfl) (fun _=>rfl)
     ⟨facts.1,facts.2.1,?_⟩ rfl
    intro session row there of live checked
    rw[Table.write_committed] at there
    exact .inr (Table.held_of_write there (by simp[of,live]) (facts.2.2 session row there of live checked))
  · exact ⟨.refl t w,inv⟩
 | revoked userId=>exact absurd rfl (unready userId)

lemma World.Inv.begin (inv:w.Inv env)(idle:w.txns t=none)(call:Call) :
 World.Local t w (w.begin env t call) ∧ (w.begin env t call).Inv env:=by
 have extends' {new:Txn}:∀old,w.txns t=some old → old.Extends new:=by
  intro old is
  rw[idle] at is
  cases is
 have known {email:String}{user:User}(found:w.userByEmail email=some user) :
   w.Known user.userId:=inv.users user (List.mem_of_find?_eq_some found)
 have same:World.Local t w w ∧ w.Inv env:=⟨.refl t w,inv⟩
 cases call with
 | logIn email password now sessionTtl =>
  unfold World.begin
  dsimp only
  cases found:w.userByEmail (env.normalizeEmail email) with
  | none=>exact same
  | some user =>
   dsimp only
   cases (w.credentials.cell user.userId).view t with
   | none=>exact same
   | some row =>
    dsimp only
    split
    · refine inv.put extends' (known found) ?_
      intro userId none
      cases none
    · exact same
 | openSession userId now sessionTtl =>
  refine inv.insert_session extends' (fun password none=>?_) trivial rfl
  cases none
 | logOut | confirmPasswordReset =>
  refine inv.put extends' trivial ?_
  intro userId none
  cases none
 | requestPasswordReset email now resetTtl =>
  unfold World.begin
  dsimp only
  cases found:w.userByEmail (env.normalizeEmail email) with
  | none=>exact same
  | some user =>
   dsimp only
   split
   · refine inv.put extends' ⟨known found,trivial⟩ ?_
     intro userId none
     cases none
   · exact same

end

end Kivou.Accounts
