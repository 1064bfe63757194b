import Kivou.AccountPasswordSteps
import Kivou.Runs

set_option autoImplicit false

/-! Where no two requests of a user supersede tokens together, and no login writes on a hash that it
has not checked, a reset leaves one password and no session of another, and a token is good for one
reset at most. -/
namespace Kivou.Accounts
open ReadCommitted

def Txn.event?:Txn→Option Event
 | .request userId _ _ (.issued token)=>some (.issued userId token)
 | .confirm token newPassword _ (.revoked userId)=>some (.reset userId token newPassword)
 | .request _ _ _ .found | .request _ _ _ (.superseding _) | .request _ _ _ .superseded
 | .confirm _ _ _ .begun | .confirm _ _ _ (.taking _) | .confirm _ _ _ (.taken _)
 | .confirm _ _ _ (.rehashing _ _ _) | .confirm _ _ _ (.rehashed _)
 | .confirm _ _ _ (.revoking _ _)
 | .logIn _ _ _ _ _ _ | .openSession _ | .logOut _ _ _=>none

section
variable {env:Env}{w:World}{t:ℕ}{txn:Txn}{userId password:String}{token:ℕ}

lemma event?_issued (event:txn.event?=some (.issued userId token)) :
 txn.issued?=some (userId,token):=by
 unfold Txn.event? at event
 split at event <;> cases event
 rfl

lemma issued?_eq (issued:txn.issued?=some (userId,token)) :
 ∃now expiresAt,txn=.request userId now expiresAt (.issued token):=by
 unfold Txn.issued? at issued
 split at issued <;> cases issued
 exact ⟨_,_,rfl⟩

lemma event?_reset (event:txn.event?=some (.reset userId token password)) :
 ∃now,txn=.confirm token password now (.revoked userId):=by
 unfold Txn.event? at event
 split at event <;> cases event
 exact ⟨_,rfl⟩

lemma Txn.Ready.locks (ready:txn.Ready)(facts:w.Facts env t txn)
 (login:txn.login?=some (userId,password)):w.Locks t userId:=by
 cases txn with
 | logIn userId' passwordHash password' now expiresAt stage =>
  obtain ⟨session,rfl⟩:=ready
  cases login
  exact facts
 | openSession | logOut | request | confirm=>cases login

lemma Txn.Ready.reset (ready:txn.Ready)(reset:txn.reset?=some (userId,password)) :
 ∃token now,txn=.confirm token password now (.revoked userId):=by
 cases txn with
 | confirm token newPassword now stage =>
  obtain ⟨userId',rfl⟩:=ready
  cases reset
  exact ⟨_,_,rfl⟩
 | logIn | openSession | logOut | request=>cases reset

end

section
variable (env:Env)(w:World)

def Event.taken?:Event→Option ℕ
 | .reset _ token _=>some token
 | .issued _ _=>none

def World.Used (token:ℕ):Prop:=∃row,(w.resets.cell token).committed=some row ∧ row.unused=false

def World.Supersedes (newer older:Event):Prop:=
 ∀userId token token',newer=.issued userId token → older=.issued userId token' →w.Used token'

structure World.Promised:Prop where
 issued:∀userId token,.issued userId token∈w.log →
  ∃row,(w.resets.cell token).committed=some row ∧ row.userId=userId
 taken:∀userId token password,.reset userId token password∈w.log→w.Used token
 once:(w.log.filterMap Event.taken?).Nodup
 single:∀token token' row row',(w.resets.cell token).committed=some row →
  (w.resets.cell token').committed=some row' → row.userId=row'.userId →
  row.unused=true → row'.unused=true→token=token'
 superseded:w.log.Pairwise w.Supersedes
 passwords:∀userId password,w.lastReset userId=some password →
  ∃row,(w.credentials.cell userId).committed=some row ∧
   ∀other,env.verify row.passwordHash other=true ↔ other=password
 sessions:∀userId password session row checked,w.lastReset userId=some password →
  (w.sessions.cell session).committed=some row → row.userId=userId → row.live=true →
  w.checked session=some checked→checked=password

end

section
variable {env:Env}{w w':World}{t:ℕ}

lemma World.Promised.local (promised:w.Promised env)(inv:w.Inv env)
 (loc:World.Local t w w'):w'.Promised env:=by
 have used (token:ℕ):w'.Used token ↔ w.Used token:=by
  unfold World.Used
  rw[loc.resets.committed]
 have last (userId:String):w'.lastReset userId=w.lastReset userId:=by
  unfold World.lastReset
  rw[loc.log]
 refine ⟨?_,?_,?_,?_,?_,?_,?_⟩
 · intro userId token mem
   rw[loc.log] at mem
   rw[loc.resets.committed]
   exact promised.issued userId token mem
 · intro userId token password mem
   rw[loc.log] at mem
   exact (used token).mpr (promised.taken userId token password mem)
 · rw[loc.log]
   exact promised.once
 · intro token token' row row' there there'
   rw[loc.resets.committed] at there there'
   exact promised.single token token' row row' there there'
 · rw[loc.log]
   refine promised.superseded.imp fun newer=>?_
   exact fun userId token token' is is'=>(used token').mpr (newer userId token token' is is')
 · intro userId password reset
   rw[last] at reset
   rw[loc.credentials.committed]
   exact promised.passwords userId password reset
 · intro userId password session row checked reset there of live is
   rw[last] at reset
   rw[loc.sessions.committed] at there
   rw[loc.checked session (inv.lt_of_committed there)] at is
   exact promised.sessions userId password session row checked reset there of live is

end

section
variable {env:Env}{w:World}{t:ℕ}{txn:Txn}

variable {events:List Event}{userId:String}{token:ℕ}

lemma known_commit (known:w.Known userId) : (w.commit t events).Known userId:=by
 obtain ⟨row,there⟩:=known
 change ∃row,((w.credentials.commit t).cell userId).committed=some row
 rw[Table.commit_cell,Cell.commit_committed]
 unfold Cell.view
 split
 · split
   · exact ⟨_,rfl⟩
   · exact ⟨row,there⟩
 · exact ⟨row,there⟩

lemma World.Inv.reset_kept (inv:w.Inv env){old:Reset}
 (there:(w.resets.cell token).committed=some old) :
 ∃row,((w.commit t events).resets.cell token).committed=some row ∧
  row.userId=old.userId ∧ (old.unused=false → row.unused=false):=by
 by_cases held:∃row,(w.resets.cell token).pending=some (t,row)
 · obtain ⟨row,pending⟩:=held
   refine ⟨row,Cell.commit_committed.trans (Cell.view_of_pending pending),?_⟩
   obtain ⟨txn,-,write⟩:=(inv.writes t).resets token row pending
   rcases write with ⟨none,-⟩|⟨old',there',of,used⟩
   · rw[none] at there
     cases there
   · rw[there] at there'
     rw[Option.some.inj there']
     exact ⟨of,fun _=>used⟩
 · have other:∀row,(w.resets.cell token).pending≠some (t,row):=
    fun row is=>held ⟨row,is⟩
   exact ⟨old,Cell.commit_committed.trans ((Cell.view_of_other other).trans there),rfl,id⟩

lemma World.Inv.used_commit (inv:w.Inv env) (used:w.Used token):(w.commit t events).Used token:=by
 obtain ⟨old,there,unused⟩:=used
 obtain ⟨row,there',-,keeps⟩:=inv.reset_kept there
 exact ⟨row,there',keeps unused⟩

lemma World.Inv.commit (inv:w.Inv env)(is:w.txns t=some txn)(ready:txn.Ready)
 (events:List Event):(w.commit t events).Inv env:=by
 have others {u:ℕ}{txn':Txn}(is':(w.commit t events).txns u=some txn') :
   u≠t ∧ w.txns u=some txn':=by
  change Function.update w.txns t none u=some txn' at is'
  rw[Function.update_apply] at is'
  split at is'
  · cases is'
  · exact ⟨‹_›,is'⟩
 have took {u token:ℕ}{userId:String}(other:u≠t)(took:w.Took u token userId) :
   (w.commit t events).Took u token userId:=by
  obtain ⟨old,row,there,of,unused,pending⟩:=took
  have same:(w.commit t events).resets.cell token=w.resets.cell token:=
   Table.commit_cell_of_other other pending
  unfold World.Took
  rw[same]
  exact ⟨old,row,there,of,unused,pending⟩
 have locks {u:ℕ}{userId:String}(other:u≠t)(locks:w.Locks u userId) :
   (w.commit t events).Locks u userId:=by
  obtain ⟨row,pending⟩:=locks
  exact ⟨row,Cell.commit_pending.mpr ⟨other,pending⟩⟩
 have superseding {u:ℕ}{txn':Txn}{userId:String}{targets:List ℕ}(other:u≠t)
   (is':w.txns u=some txn')(supersedes:txn'.supersedes?=some userId)
   (superseding:w.Superseding u userId targets) :
   (w.commit t events).Superseding u userId targets:=by
  intro token row there of unused
  rcases Table.committed_of_commit there with pending|⟨-,there⟩
  · obtain ⟨own,is'',write⟩:=(inv.writes t).resets token row pending
    rcases write with ⟨-,issued⟩|⟨-,-,-,used⟩
    · obtain ⟨now,expiresAt,rfl⟩:=issued?_eq issued
      rw[of] at is''
      exact absurd (inv.alone u t _ _ userId is' is'' supersedes rfl) other
    · rw[used] at unused
      cases unused
  · refine (superseding token row there of unused).imp_right fun ⟨row',pending⟩=>?_
    exact ⟨row',Cell.commit_pending.mpr ⟨other,pending⟩⟩
 have revoking {u:ℕ}{userId:String}{targets:List ℕ}(other:u≠t)
   (locked:w.Locks u userId)(revoking:w.Revoking u userId targets) :
   (w.commit t events).Revoking u userId targets:=by
  intro session row there of live checked
  rcases Table.committed_of_commit there with pending|⟨-,there⟩
  · obtain ⟨own,is',write⟩:=(inv.writes t).sessions session row pending
    rw[is] at is'
    obtain rfl:=Option.some.inj is'
    rcases write with ⟨-,login⟩|⟨-,-,-,revoked⟩
    · -- a login that is about to commit has the row of the user locked
      obtain ⟨password,checked⟩:=Option.isSome_iff_exists.mp checked
      have login:=login password checked
      rw[of] at login
      obtain ⟨row',held⟩:=ready.locks (inv.facts t txn is) login
      obtain ⟨row'',held'⟩:=locked
      rw[held] at held'
      exact absurd (congrArg Prod.fst (Option.some.inj held')).symm other
    · rw[revoked] at live
      cases live
  · refine (revoking session row there of live checked).imp_right fun ⟨row',pending⟩=>?_
    exact ⟨row',Cell.commit_pending.mpr ⟨other,pending⟩⟩
 refine ⟨fun user mem=>known_commit (inv.users user mem),?_,?_,?_,?_,?_⟩
 · intro id later
   obtain ⟨session,reset⟩:=inv.fresh id later
   change (w.sessions.cell id).commit t=.absent ∧ (w.resets.cell id).commit t=.absent
   rw[session,reset]
   exact ⟨rfl,rfl⟩
 · intro token row there
   refine known_commit ?_
   rcases Table.committed_of_commit there with pending|⟨-,there⟩
   · obtain ⟨own,is',write⟩:=(inv.writes t).resets token row pending
     rcases write with ⟨-,issued⟩|⟨old,there',of,-⟩
     · obtain ⟨now,expiresAt,rfl⟩:=issued?_eq issued
       exact (inv.facts t _ is').1
     · rw[of]
       exact inv.known token old there'
   · exact inv.known token row there
 · intro u
   refine ⟨fun userId row pending=>?_,fun session row pending=>?_,fun token row pending=>?_⟩
   · obtain ⟨other,held⟩:=Cell.commit_pending.mp pending
     obtain ⟨txn',is',write⟩:=(inv.writes u).credentials userId row held
     refine ⟨txn',(Function.update_of_ne other _ _).trans is',?_⟩
     unfold World.CredentialsWrite
     rwa[show (w.commit t events).credentials.cell userId=_ from
      Table.commit_cell_of_other other held]
   · obtain ⟨other,held⟩:=Cell.commit_pending.mp pending
     obtain ⟨txn',is',write⟩:=(inv.writes u).sessions session row held
     refine ⟨txn',(Function.update_of_ne other _ _).trans is',?_⟩
     unfold World.SessionWrite
     rwa[show (w.commit t events).sessions.cell session=_ from
      Table.commit_cell_of_other other held]
   · obtain ⟨other,held⟩:=Cell.commit_pending.mp pending
     obtain ⟨txn',is',write⟩:=(inv.writes u).resets token row held
     refine ⟨txn',(Function.update_of_ne other _ _).trans is',?_⟩
     unfold World.ResetWrite
     rwa[show (w.commit t events).resets.cell token=_ from
      Table.commit_cell_of_other other held]
 · intro u txn' is'
   obtain ⟨other,there⟩:=others is'
   have facts:=inv.facts u txn' there
   cases txn' with
   | openSession session | logOut session now stage=>trivial
   | logIn userId passwordHash password now expiresAt stage =>
    cases stage with
    | checked=>exact known_commit facts
    | updating rehashed targets=>exact ⟨known_commit facts.1,facts.2⟩
    | updated | opened session=>exact locks other facts
   | request userId now expiresAt stage =>
    refine ⟨known_commit facts.1,?_⟩
    have staged:=facts.2
    cases stage with
    | found=>trivial
    | superseding targets | superseded=>exact superseding other there rfl staged
    | issued token =>
     obtain ⟨superseded,row,cell,of⟩:=staged
     refine ⟨superseding other there rfl superseded,row,?_,of⟩
     exact (Table.commit_cell_of_other other (congrArg Cell.pending cell)).trans cell
   | confirm token newPassword now stage =>
    cases stage with
    | begun | taking targets=>trivial
    | taken userId=>exact took other facts
    | rehashing userId passwordHash targets=>exact ⟨took other facts.1,facts.2⟩
    | rehashed userId=>exact ⟨took other facts.1,locks other facts.2⟩
    | revoking userId targets | revoked userId =>
     exact ⟨took other facts.1,locks other facts.2.1,revoking other facts.2.1 facts.2.2⟩
 · intro u v txn' txn'' userId is' is''
   exact inv.alone u v txn' txn'' userId (others is').2 (others is'').2

lemma lastReset_reset {user set:String} : (w.commit t [.reset user token set]).lastReset userId =
  if user=userId then some set else w.lastReset userId:=by
 unfold World.lastReset World.commit
 rw[List.singleton_append,List.findSome?_cons]
 by_cases own:user=userId
 · simp[own]
 · simp[own]

lemma last_cases (ready:txn.Ready){password:String}
 (reset:(w.commit t txn.event?.toList).lastReset userId=some password) :
 (∃token now,txn=.confirm token password now (.revoked userId)) ∨
  w.lastReset userId=some password ∧ ∀password',txn.reset?≠some (userId,password'):=by
 by_cases own:∃password',txn.reset?=some (userId,password')
 · obtain ⟨password',is⟩:=own
   obtain ⟨token,now,rfl⟩:=ready.reset is
   change (w.commit t [.reset userId token password']).lastReset userId=some password at reset
   rw[lastReset_reset,if_pos rfl] at reset
   obtain rfl:=Option.some.inj reset
   exact .inl ⟨token,now,rfl⟩
 · refine .inr ⟨?_,fun password' is=>own ⟨password',is⟩⟩
   cases event:txn.event? with
   | none =>
    rw[event] at reset
    exact reset
   | some event' =>
    rw[event] at reset
    cases event' with
    | issued user token=>exact reset
    | reset user token set =>
     obtain ⟨now,rfl⟩:=event?_reset event
     have other:user≠userId:=by
      rintro rfl
      exact own ⟨set,rfl⟩
     rw[Option.toList_some,lastReset_reset,if_neg other] at reset
     exact reset

lemma World.Inv.reset_facts (inv:w.Inv env){password:String}{now:ℤ}
 (is:w.txns t=some (.confirm token password now (.revoked userId))) :
 w.Took t token userId ∧ w.Locks t userId ∧ w.Revoking t userId []:=inv.facts t _ is

lemma World.Inv.promised_commit (inv:w.Inv env)(law:env.Verifies)
 (promised:w.Promised env)(is:w.txns t=some txn)(ready:txn.Ready) :
 (w.commit t txn.event?.toList).Promised env:=by
 have facts:=inv.facts t txn is
 have mine {txn':Txn}(is':w.txns t=some txn'):txn'=txn:=Option.mem_unique is' is
 have log {event:Event}(mem:event∈(w.commit t txn.event?.toList).log) :
   txn.event?=some event ∨ event∈w.log:=by
  rcases List.mem_append.mp mem with new|old
  · exact .inl (Option.mem_toList.mp new)
  · exact .inr old
 -- the tokens before an issued one are locked, and used
 have superseded {userId:String}{token:ℕ}(issued:txn.issued?=some (userId,token)) :
   w.Superseding t userId []:=by
  obtain ⟨now,expiresAt,rfl⟩:=issued?_eq issued
  exact facts.2.1
 refine ⟨?_,?_,?_,?_,?_,?_,?_⟩
 · intro userId token mem
   rcases log mem with event|old
   · obtain ⟨now,expiresAt,rfl⟩:=issued?_eq (event?_issued event)
     obtain ⟨-,-,row,cell,of⟩:=facts
     refine ⟨row,Cell.commit_committed.trans (Cell.view_of_pending ?_),of⟩
     exact congrArg Cell.pending cell
   · obtain ⟨row,there,of⟩:=promised.issued userId token old
     obtain ⟨row',there',same,-⟩:=inv.reset_kept there
     exact ⟨row',there',same.trans of⟩
 · intro userId token password mem
   rcases log mem with event|old
   · obtain ⟨now,rfl⟩:=event?_reset event
     obtain ⟨⟨old,row,there,-,-,pending⟩,-⟩:=inv.reset_facts is
     refine ⟨row,Cell.commit_committed.trans (Cell.view_of_pending pending),?_⟩
     obtain ⟨txn',is',write⟩:=(inv.writes t).resets token row pending
     rcases write with ⟨none,-⟩|⟨-,-,-,used⟩
     · rw[none] at there
       cases there
     · exact used
   · exact inv.used_commit (promised.taken userId token password old)
 · change ((txn.event?.toList++w.log).filterMap Event.taken?).Nodup
   rw[List.filterMap_append]
   cases event:txn.event? with
   | none=>exact promised.once
   | some event' =>
    cases event' with
    | issued userId token=>exact promised.once
    | reset userId token password =>
     refine List.nodup_cons.mpr ⟨fun mem=>?_,promised.once⟩
     obtain ⟨event'',mem',taken⟩:=List.mem_filterMap.mp mem
     obtain ⟨now,rfl⟩:=event?_reset event
     obtain ⟨⟨old,-,there,-,unused,-⟩,-⟩:=inv.reset_facts is
     cases event'' with
     | issued=>cases taken
     | reset userId' token' password' =>
      obtain rfl:=Option.some.inj taken
      obtain ⟨row,there',used⟩:=promised.taken userId' token' password' mem'
      rw[there] at there'
      rw[Option.some.inj there',used] at unused
      cases unused
 · -- of two tokens, one that was not issued now would have been superseded
   have late {token token':ℕ}{row row':Reset}
     (pending:(w.resets.cell token).pending=some (t,row))(unused:row.unused=true)
     (there':((w.commit t txn.event?.toList).resets.cell token').committed=some row')
     (same:row'.userId=row.userId)(unused':row'.unused=true):token=token':=by
    obtain ⟨own,is',write⟩:=(inv.writes t).resets token row pending
    obtain rfl:=mine is'
    rcases write with ⟨-,issued⟩|⟨-,-,-,used⟩
    · rcases Table.committed_of_commit there' with pending' | ⟨other,there'⟩
      · obtain ⟨own',is',write'⟩:=(inv.writes t).resets token' row' pending'
        obtain rfl:=mine is'
        rcases write' with ⟨-,issued'⟩|⟨-,-,-,used⟩
        · rw[issued] at issued'
          exact congrArg Prod.snd (Option.some.inj issued')
        · rw[used] at unused'
          cases unused'
      · rcases superseded issued token' row' there' same unused' with none|⟨row'',pending'⟩
        · cases none
        · exact absurd pending' (other row'')
    · rw[used] at unused
      cases unused
   intro token token' row row' there there' same unused unused'
   rcases Table.committed_of_commit there with pending|⟨-,old⟩
   · exact late pending unused there' same.symm unused'
   · rcases Table.committed_of_commit there' with pending' | ⟨-,old'⟩
     · exact (late pending' unused' there same unused).symm
     · exact promised.single token token' row row' old old' same unused unused'
 · refine List.pairwise_append.mpr ⟨by cases txn.event? <;> simp,?_,?_⟩
   · refine promised.superseded.imp fun newer=>?_
     exact fun userId token token' new old=>inv.used_commit (newer userId token token' new old)
   · intro newer mem older mem' userId token token' new old
     subst new old
     have issued:=event?_issued (Option.mem_toList.mp mem)
     obtain ⟨row,there,of⟩:=promised.issued userId token' mem'
     cases unused:row.unused with
     | false=>exact inv.used_commit ⟨row,there,unused⟩
     | true =>
      rcases superseded issued token' row there of unused with none|⟨row',pending⟩
      · cases none
      · refine ⟨row',Cell.commit_committed.trans (Cell.view_of_pending pending),?_⟩
        obtain ⟨own,-,write⟩:=(inv.writes t).resets token' row' pending
        rcases write with ⟨none,-⟩|⟨-,-,-,used⟩
        · rw[none] at there
          cases there
        · exact used
 · intro userId password reset
   rcases last_cases ready reset with ⟨token,now,rfl⟩|⟨reset,other⟩
   · obtain ⟨-,⟨row,pending⟩,-⟩:=inv.reset_facts is
     refine ⟨row,Cell.commit_committed.trans (Cell.view_of_pending pending),?_⟩
     obtain ⟨own,is',old,-,write⟩:=(inv.writes t).credentials userId row pending
     obtain rfl:=mine is'
     rcases write with ⟨checked,login,-⟩|⟨password',salt,is'',rehashed⟩
     · cases login
     · cases is''
       rw[rehashed]
       exact law salt password
   · obtain ⟨old,there,only⟩:=promised.passwords userId password reset
     by_cases held:∃row,(w.credentials.cell userId).pending=some (t,row)
     · obtain ⟨row,pending⟩:=held
       refine ⟨row,Cell.commit_committed.trans (Cell.view_of_pending pending),?_⟩
       obtain ⟨own,is',old',there',write⟩:=(inv.writes t).credentials userId row pending
       obtain rfl:=mine is'
       rw[there] at there'
       obtain rfl:=Option.some.inj there'
       rcases write with ⟨checked,-,verified,same|⟨salt,rehashed⟩⟩|⟨password',-,is'',-⟩
       · rw[same]
         exact only
       · rw[rehashed,←(only checked).mp verified]
         exact law salt checked
       · exact absurd is'' (other password')
     · have free:∀row,(w.credentials.cell userId).pending≠some (t,row):=
        fun row pending=>held ⟨row,pending⟩
       exact ⟨old,Cell.commit_committed.trans ((Cell.view_of_other free).trans there),only⟩
 · intro userId password session row checked reset there of live is'
   rcases Table.committed_of_commit there with pending|⟨free,was⟩
   · obtain ⟨own,is'',write⟩:=(inv.writes t).sessions session row pending
     obtain rfl:=mine is''
     rcases write with ⟨-,login⟩|⟨-,-,-,revoked⟩
     · have login:=login checked is'
       rw[of] at login
       obtain ⟨row',held⟩:=ready.locks facts login
       obtain ⟨own',is'',old,there',write⟩:=(inv.writes t).credentials userId row' held
       obtain rfl:=mine is''
       rcases last_cases ready reset with ⟨token,now,rfl⟩|⟨reset,other⟩
       · cases login
       · obtain ⟨old',there'',only⟩:=promised.passwords userId password reset
         rw[there'] at there''
         obtain rfl:=Option.some.inj there''
         rcases write with ⟨checked',login',verified,-⟩|⟨password',-,is'',-⟩
         · rw[login] at login'
           cases login'
           exact (only checked).mp verified
         · exact absurd is'' (other password')
     · rw[revoked] at live
       cases live
   · rcases last_cases ready reset with ⟨token,now,rfl⟩|⟨reset,-⟩
     · obtain ⟨-,-,revoking⟩:=inv.reset_facts is
       have some':(w.checked session).isSome=true:=by
        change w.checked session=some checked at is'
        rw[is']
        rfl
       rcases revoking session row was of live some' with none|⟨row',pending⟩
       · cases none
       · exact absurd pending (free row')
     · exact promised.sessions userId password session row checked reset was of live is'

end

section
variable (env:Env)(w:World)

/-- A request starts to supersede while no other request of the user does, and a login
goes on where the hash still verifies the password that it checked. -/
def World.Undisturbed (t:ℕ):Txn→Prop
 | .request userId _ _ .found =>∀u txn,u≠t→w.txns u=some txn→txn.supersedes?≠some userId
 | .logIn userId _ password _ _ (.updating _ targets) =>
  w.credentials.free t targets=true →∀row,(w.credentials.cell userId).committed=some row →
    env.verify row.passwordHash password=true
 | .request _ _ _ (.superseding _) | .request _ _ _ .superseded | .request _ _ _ (.issued _)
 | .logIn _ _ _ _ _ .checked | .logIn _ _ _ _ _ .updated | .logIn _ _ _ _ _ (.opened _)
 | .openSession _ | .logOut _ _ _ | .confirm _ _ _ _=>True

def World.Safe:Op→Prop
 | .advance t=>∀txn,w.txns t=some txn→w.Undisturbed env t txn
 | .begin _ _ | .rollback _=>True

structure World.Kept:Prop where
 /-- A token changes a password once at most. -/
 once:(w.log.filterMap Event.taken?).Nodup
 /-- The tokens of requests that had committed before are not accepted. -/
 superseded:w.log.Pairwise fun newer older=>
  ∀userId token token',newer=.issued userId token → older=.issued userId token' →
   ∀now,w.accepts token' now=false
 single:∀token token' row row',(w.resets.cell token).committed=some row →
  (w.resets.cell token').committed=some row' → row.userId=row'.userId →
  row.unused=true → row'.unused=true→token=token'
 password:∀userId password,w.lastReset userId=some password →
  ∃row,(w.credentials.cell userId).committed=some row ∧
   ∀other,env.verify row.passwordHash other=true ↔ other=password
 sessions:∀userId password session row now checked,w.lastReset userId=some password →
  (w.sessions.cell session).committed=some row → row.userId=userId →
  w.authenticates session now=true→w.checked session=some checked→checked=password

end

section
variable {env:Env}{w:World}

lemma World.Promised.kept (promised:w.Promised env):w.Kept env where
 __:=promised
 superseded:=promised.superseded.imp fun newer userId token token' is is' now=>by
  obtain ⟨row,there,used⟩:=newer userId token token' is is'
  unfold World.accepts Reset.usable
  rw[there,Option.any_some,used,Bool.false_and]
 password:=promised.passwords
 sessions userId password session row now checked reset there of accepted:=by
  refine promised.sessions userId password session row checked reset there of ?_
  unfold World.authenticates at accepted
  rw[there,Option.any_some,Bool.and_eq_true,Bool.and_eq_true] at accepted
  exact accepted.1.1

lemma start_inv (users:List User)(credentials:String→Credentials) :
 (World.start users credentials).Inv env:=by
 refine ⟨fun user mem=>⟨credentials user.userId,?_⟩,fun _ _=>⟨rfl,rfl⟩,?_,fun t=>⟨?_,?_,?_⟩,?_,?_⟩
 · have key:user.userId∈users.map User.userId:=List.mem_map_of_mem mem
   exact congrArg Cell.committed (if_pos key)
 · intro token row there
   cases there
 · intro userId row pending
   change (if userId∈users.map User.userId then (⟨some (credentials userId),none⟩:Cell _)
    else .absent).pending=_ at pending
   split at pending <;> cases pending
 · intro session row pending
   cases pending
 · intro token row pending
   cases pending
 · intro t txn is
   cases is
 · intro t u txn txn' userId is
   cases is

lemma start_promised (users:List User)(credentials:String→Credentials) :
 (World.start users credentials).Promised env:=by
 refine ⟨?_,?_,List.nodup_nil,?_,.nil,?_,?_⟩
 · intro userId token mem
   cases mem
 · intro userId token password mem
   cases mem
 · intro token token' row row' there
   cases there
 · intro userId password reset
   cases reset
 · intro userId password session row checked reset
   cases reset

lemma step_kept (law:env.Verifies)(inv:w.Inv env)(promised:w.Promised env){op:Op}
 (safe:w.Safe env op):(step env w op).Inv env ∧ (step env w op).Promised env:=by
 have quiet {t:ℕ}{w':World}(stepped:World.Local t w w' ∧ w'.Inv env) :
   w'.Inv env ∧ w'.Promised env:=⟨stepped.2,promised.local inv stepped.1⟩
 cases op with
 | begin t call =>
  unfold step
  dsimp only
  split
  · exact quiet (inv.begin (Option.isNone_iff_eq_none.mp ‹_›) call)
  · exact ⟨inv,promised⟩
 | rollback t=>exact quiet (inv.rollback t)
 | advance t =>
  unfold step
  dsimp only
  cases is:w.txns t with
  | none=>exact ⟨inv,promised⟩
  | some txn =>
   have undisturbed:=safe txn is
   have commits (ready:txn.Ready):(w.commit t txn.event?.toList).Inv env ∧
     (w.commit t txn.event?.toList).Promised env:=
    ⟨inv.commit is ready _,inv.promised_commit law promised is ready⟩
   rw[Option.elim_some]
   cases txn with
   | logIn userId passwordHash password now expiresAt stage =>
    by_cases ready:∃session,stage=.opened session
    · obtain ⟨session,rfl⟩:=ready
      exact commits ⟨session,rfl⟩
    · refine quiet (inv.advanceLogIn is (fun session opened=>ready ⟨session,opened⟩) ?_)
      rintro rehashed targets rfl
      exact undisturbed
   | openSession session=>exact commits trivial
   | logOut session now stage =>
    by_cases ready:stage=.revoked
    · subst ready
      exact commits rfl
    · exact quiet (inv.advanceLogOut is ready)
   | request userId now expiresAt stage =>
    by_cases ready:∃token,stage=.issued token
    · obtain ⟨token,rfl⟩:=ready
      exact commits ⟨token,rfl⟩
    · refine quiet (inv.advanceRequest is (fun token issued=>ready ⟨token,issued⟩) ?_)
      rintro rfl
      exact undisturbed
   | confirm token newPassword now stage =>
    by_cases ready:∃userId,stage=.revoked userId
    · obtain ⟨userId,rfl⟩:=ready
      exact commits ⟨userId,rfl⟩
    · exact quiet (inv.advanceConfirm is fun userId revoked=>ready ⟨userId,revoked⟩)

end

/-- Where each step is undisturbed, every state that is reached keeps what is promised. -/
theorem resets_kept (env:Env)(law:env.Verifies)(users:List User)
 (credentials:String→Credentials)(ops:List Op)
 (safe:Runs.Along (step env) (World.Safe env) (World.start users credentials) ops) :
 ∀done,done <+: ops →(done.foldl (step env) (World.start users credentials)).Kept env:=by
 rintro done ⟨rest,rfl⟩
 have kept:∀ (w:World)(op:Op),w.Inv env ∧ w.Promised env→w.Safe env op →
   (step env w op).Inv env ∧ (step env w op).Promised env:=
  fun w op ⟨inv,promised⟩ safe=>step_kept law inv promised safe
 have run:=((Runs.along_append _ done rest).mp safe).1
 exact (Runs.Along.invariant _ kept run
  ⟨start_inv users credentials,start_promised users credentials⟩).2.kept

def plainEnv:Env where
 normalizeEmail email:=email
 verify passwordHash password:=
  passwordHash.toList == 'n' :: password.toList||passwordHash.toList == 'o' :: password.toList
 checkNeedsRehash passwordHash:=passwordHash.toList.head?==some 'o'
 hash _ password:=String.ofList ('n' :: password.toList)

lemma plainEnv_verifies:plainEnv.Verifies:=by
 intro salt password other
 simp only[plainEnv,String.toList_ofList,Bool.or_eq_true,beq_iff_eq]
 constructor
 · rintro (same|same)
   · exact (String.toList_injective (List.cons.inj same).2).symm
   · cases (List.cons.inj same).1
 · rintro rfl
   exact .inl rfl

def owner:User:=⟨"usr_a","a@example.com",true⟩

def World.sample:World:=.start [owner] fun _=>⟨"oancien mot de passe",none⟩

def issuing (t:ℕ):List Op:=
 [.begin t (.requestPasswordReset "a@example.com" 0 60),.advance t,.advance t,.advance t,.advance t]

def loginAround:List Op:=.begin 0 (.logIn "a@example.com" "ancien mot de passe" 0 60)::issuing 1 ++
  .begin 2 (.confirmPasswordReset 0 "nouveau mot de passe" 1)::List.replicate 7 (.advance 2) ++
  List.replicate 4 (.advance 0)

def together:List Op:=[.begin 0 (.requestPasswordReset "a@example.com" 0 60),
  .begin 1 (.requestPasswordReset "a@example.com" 0 60),.advance 0,.advance 1,.advance 0,
  .advance 1,.advance 0,.advance 1,.advance 0,.advance 1]

/-- The login restores the old password, and both tokens of the requests stay good. -/
theorem login_restores:plainEnv.Verifies ∧
 ¬(loginAround.foldl (step plainEnv) World.sample).Kept plainEnv ∧
 ¬(together.foldl (step plainEnv) World.sample).Kept plainEnv:=by
 refine ⟨plainEnv_verifies,fun kept=>?_,fun kept=>?_⟩
 · have reset:(loginAround.foldl (step plainEnv) World.sample).lastReset "usr_a" =
     some "nouveau mot de passe":=by decide +kernel
   have restored:((loginAround.foldl (step plainEnv) World.sample).credentials.cell
     "usr_a").committed.map Credentials.passwordHash=some "nancien mot de passe":=by
    decide +kernel
   obtain ⟨row,there,only⟩:=kept.password "usr_a" _ reset
   rw[there] at restored
   have is:=Option.some.inj restored
   have verified:plainEnv.verify row.passwordHash "ancien mot de passe"=true:=by
    rw[is]
    decide +kernel
   have same:=(only "ancien mot de passe").mp verified
   revert same
   decide +kernel
 · have first:((together.foldl (step plainEnv) World.sample).resets.cell 0).committed =
     some ⟨"usr_a",60,none⟩:=by decide +kernel
   have second:((together.foldl (step plainEnv) World.sample).resets.cell 1).committed =
     some ⟨"usr_a",60,none⟩:=by decide +kernel
   cases kept.single 0 1 _ _ first second rfl rfl rfl

def Op.transaction:Op→ℕ
 | .begin t _ | .advance t | .rollback t=>t

lemma step_others {env:Env}(w:World)(op:Op){u:ℕ}(other:u≠op.transaction) :
 (step env w op).txns u=w.txns u:=by
 have put (w':World)(txn:Txn):(w'.put op.transaction txn).txns u=w'.txns u:=
  Function.update_of_ne other _ _
 -- at a rollback and at a commit
 have gone (w':World):Function.update w'.txns op.transaction none u=w'.txns u:=
  Function.update_of_ne other _ _
 cases op with
 | rollback t=>exact gone w
 | begin t call =>
  unfold step
  dsimp only
  split
  · cases call with
    | logIn =>
     unfold World.begin
     repeat' split
     all_goals first | rfl | exact put _ _
    | openSession=>exact put _ _
    | logOut | confirmPasswordReset=>exact put _ _
    | requestPasswordReset =>
     unfold World.begin
     repeat' split
     all_goals first | rfl | exact put _ _
  · rfl
 | advance t =>
  unfold step
  dsimp only
  cases is:w.txns t with
  | none=>rfl
  | some txn =>
   rw[Option.elim_some]
   cases txn with
   | openSession session=>exact gone w
   | logIn _ _ _ _ _ stage | logOut _ _ stage | request _ _ _ stage | confirm _ _ _ stage =>
    cases stage <;> simp only[World.advance,World.advanceLogIn,World.advanceLogOut,
     World.advanceRequest,World.advanceConfirm]
    all_goals repeat' split
    all_goals first | rfl | exact put _ _ | exact gone _

lemma foldl_others {env:Env}(w:World)(ops:List Op){u:ℕ}
 (others:∀op∈ops,u≠op.transaction):(ops.foldl (step env) w).txns u=w.txns u:=by
 induction ops generalizing w with
 | nil=>rfl
 | cons op ops ih =>
  rw[List.foldl_cons,ih _ fun later mem=>others later (List.mem_cons_of_mem _ mem)]
  exact step_others w op (others op List.mem_cons_self)

/-- `World.Safe`, where the transactions from `n` on are idle. -/
def World.safeBelow (w:World)(n:ℕ):Op→Bool
 | .advance t =>
  match w.txns t with
  | some (.request userId _ _ .found) =>
   (List.range n).all fun u=>u==t||(w.txns u).all (·.supersedes? != some userId)
  | some (.logIn userId _ password _ _ (.updating _ _)) =>
   (w.credentials.cell userId).committed.all fun row=>plainEnv.verify row.passwordHash password
  | _=>true
 | _=>true

lemma safe_of_below {w:World}{n:ℕ}{op:Op}(idle:∀u,w.txns (n+u)=none)
 (safe:w.safeBelow n op=true):w.Safe plainEnv op:=by
 cases op with
 | begin | rollback=>trivial
 | advance t =>
  intro txn is
  simp only[World.safeBelow,is] at safe
  unfold World.Undisturbed
  split
  · intro u txn' other there
    have below:u<n:=by
     by_contra above
     obtain ⟨more,rfl⟩:=Nat.exists_eq_add_of_le (Nat.le_of_not_lt above)
     rw[idle] at there
     cases there
    have clear:=List.all_eq_true.mp safe u (List.mem_range.mpr below)
    rw[there] at clear
    simpa[other] using clear
  · intro _ row there
    change Option.all _ _=true at safe
    rw[there] at safe
    exact safe
  all_goals trivial

/-- A login that writes its password's new hash and a request, then a second request and the reset
with its token. -/
def renewed:List Op:=.begin 0 (.logIn "a@example.com" "ancien mot de passe" 0 60)::issuing 1 ++
  List.replicate 4 (.advance 0)++issuing 2 ++
  .begin 3 (.confirmPasswordReset 3 "nouveau mot de passe" 1)::List.replicate 7 (.advance 3)

theorem resets_kept_sample:plainEnv.Verifies ∧
 (renewed.foldl (step plainEnv) World.sample).lastReset "usr_a"=some "nouveau mot de passe" ∧
 ∀done,done <+: renewed→(done.foldl (step plainEnv) World.sample).Kept plainEnv:=by
 have safe:Runs.Along (step plainEnv) (World.Safe plainEnv) World.sample renewed:=by
  have below:∀op∈renewed,op.transaction<4:=by decide +kernel
  have checked:∀n:Fin renewed.length,((renewed.take n).foldl (step plainEnv)
    World.sample).safeBelow 4 (renewed.get n)=true:=by decide +kernel
  refine Runs.along_of_take fun n less=>safe_of_below (fun u=>?_) (checked ⟨n,less⟩)
  rw[foldl_others _ _ fun op mem=>?_]
  · rfl
  · have:=below op (List.mem_of_mem_take mem)
    omega
 exact ⟨plainEnv_verifies,by decide +kernel,resets_kept plainEnv plainEnv_verifies _ _ _ safe⟩

end Kivou.Accounts
