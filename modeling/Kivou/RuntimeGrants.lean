import Kivou.RuntimeApprovals

set_option autoImplicit false

/-! What a call does to the rows, and from it, over every interleaving: whoever consumed an approval
first is the only one that gets its grant. -/
namespace Kivou.RuntimeApprovals
open PythonValues AcquisitionRuntime

section Rows
variable {Digest:Type}{row:Row Digest}{id:String}

lemma Row.checked_ok {row':Row Digest}(h:row.checked=.ok row') : row'=row ∧ row.checks=true:=by
 unfold Row.checked at h
 split at h
 · rename_i checks
   cases h
   exact ⟨rfl,checks⟩
 · cases h

lemma requireOpen_ok {now:ℤ}{u:Unit}(h:requireOpen id row now=.ok u) :
 row.binding.requestedAt≤now ∧ now<row.binding.expiresAt:=by
 unfold requireOpen at h
 split at h
 · cases h
 · split at h
   · cases h
   · exact ⟨not_lt.mp (by assumption),not_le.mp (by assumption)⟩

lemma grant_ok {g:Grant}(h:grant id row=.ok g) :
 row.state=.consumed ∧ row.approvedAt=some g.issuedAt ∧
  g=row.binding.grant id g.issuedAt g.approvedByActorRef:=by
 unfold grant at h
 split at h
 · rename_i consumed approvedAt _
   cases h
   exact ⟨consumed,approvedAt,rfl⟩
 · cases h

lemma grant_of_checks (checks:row.checks=true)
 (consumed:row.state=.consumed):∃g,grant id row=.ok g:=by
 simp only[Row.checks,consumed,Bool.and_eq_true] at checks
 obtain ⟨-,⟨approvedBy,-⟩,approvedAt⟩:=checks
 obtain ⟨actorRef,hactor⟩:=Option.isSome_iff_exists.mp approvedBy
 obtain ⟨instant,hinstant,-⟩:=(Option.any_eq_true _ _).mp approvedAt
 exact ⟨row.binding.grant id instant actorRef,by simp only[grant,consumed,hinstant,hactor]⟩

lemma opens_of_checks (checks:row.checks=true){approvedAt:ℤ}
 (approved:row.approvedAt=some approvedAt) :
 row.binding.requestedAt≤approvedAt ∧ approvedAt<row.binding.expiresAt:=by
 simp only[Row.checks,Bool.and_eq_true] at checks
 obtain ⟨-,lifecycle⟩:=checks
 cases hstate:row.state with
 | pending=>simp[hstate,approved] at lifecycle
 | approved =>
  simp only[hstate,approved,Option.any_some,Row.opens,Bool.and_eq_true,
   decide_eq_true_eq] at lifecycle
  exact lifecycle.1.1.2
 | consumed =>
  simp only[hstate,approved,Option.any_some,Bool.and_eq_true,decide_eq_true_eq] at lifecycle
  obtain ⟨-,opened,ended⟩:=lifecycle
  obtain ⟨consumedAt,-,window⟩:=(Option.any_eq_true _ _).mp ended
  simp only[Bool.and_eq_true,decide_eq_true_eq] at window
  exact ⟨opened,window.1.trans_lt window.2⟩

end Rows

section Invariant
variable {Digest:Type}{approvalId:String→String}{bindingFingerprint:Binding→Digest} {w:World Digest}

variable (approvalId bindingFingerprint) in
/-- A row is the request's that was answered first, its approval was answered
too, and who got a grant of it is the one that it names. -/
structure Sound (w:World Digest):Prop where
 kept:∀ {id row},w.rows id=some row → row.checks=true ∧ approvalId row.binding.requestRef=id ∧
  row.bindingFingerprint=bindingFingerprint row.binding ∧
  ∃answer,(.request row.binding,.ok answer)∈w.log
 approved:∀ {id row},w.rows id=some row → row.state≠.pending →
  ∃actorRef now answer,row.approvedAt=some now ∧ (.approve id actorRef now,.ok answer)∈w.log
 requested:∀ {binding answer},(.request binding,.ok answer)∈w.log →
  ∃row,w.rows (approvalId binding.requestRef)=some row ∧ row.binding=binding
 consumed:∀ {id consumerRef now answer},(.consume id consumerRef now,.ok answer)∈w.log →
  ∃row g,w.rows id=some row ∧ row.consumedByRef=some consumerRef ∧
   grant id row=.ok g ∧ answer=.grant g
 waiting:∀ {p binding},w.waiting p=some (.request binding) →
  ∃row,w.rows (approvalId binding.requestRef)=some row

lemma sound_empty:Sound approvalId bindingFingerprint (World.empty:World Digest) where
 kept h:=by cases h
 approved h:=by cases h
 requested h:=absurd h List.not_mem_nil
 consumed h:=absurd h List.not_mem_nil
 waiting h:=by cases h

lemma Sound.logged (sound:Sound approvalId bindingFingerprint w){call:Call}
 {outcome:Except Failure Answer}
 (requested:∀ {binding answer},call=.request binding → outcome=.ok answer →
  ∃row,w.rows (approvalId binding.requestRef)=some row ∧ row.binding=binding)
 (consumed:∀ {id consumerRef now answer},call=.consume id consumerRef now →
  outcome=.ok answer→∃row g,w.rows id=some row ∧
   row.consumedByRef=some consumerRef ∧ grant id row=.ok g ∧ answer=.grant g) :
 Sound approvalId bindingFingerprint (w.answered call outcome) where
 kept stored:=by
  obtain ⟨checks,id,digest,answer,mem⟩:=sound.kept stored
  exact ⟨checks,id,digest,answer,List.mem_cons_of_mem _ mem⟩
 approved stored approved:=by
  obtain ⟨actorRef,now,answer,approvedAt,mem⟩:=sound.approved stored approved
  exact ⟨actorRef,now,answer,approvedAt,List.mem_cons_of_mem _ mem⟩
 requested mem:=by
  rcases List.mem_cons.mp mem with same|mem
  · cases same
    exact requested rfl rfl
  · exact sound.requested mem
 consumed mem:=by
  rcases List.mem_cons.mp mem with same|mem
  · cases same
    exact consumed rfl rfl
  · exact sound.consumed mem
 waiting:=sound.waiting

lemma Sound.rewritten (sound:Sound approvalId bindingFingerprint w){id:String}
 {row row':Row Digest}(stored:w.rows id=some row)(unconsumed:row.state≠.consumed)
 (binding:row'.binding=row.binding)
 (digest:row'.bindingFingerprint=row.bindingFingerprint)(checks:row'.checks=true)
 (approved:∃actorRef now answer,row'.approvedAt=some now ∧
  (.approve id actorRef now,.ok answer)∈w.log) :
 Sound approvalId bindingFingerprint {w with rows:=Function.update w.rows id (some row')}:=by
 constructor
 case kept =>
  intro other row₀ h
  simp only[Function.update_apply] at h
  split at h
  · rename_i same
    subst same
    cases h
    obtain ⟨-,hid,hdigest,answered⟩:=sound.kept stored
    exact ⟨checks,by rw[binding,hid],by rw[digest,hdigest,binding],binding ▸ answered⟩
  · exact sound.kept h
 case approved =>
  intro other row₀ h
  simp only[Function.update_apply] at h
  split at h
  · rename_i same
    subst same
    cases h
    exact fun _=>approved
  · exact sound.approved h
 case requested =>
  intro b answer mem
  obtain ⟨row₀,h,hb⟩:=sound.requested mem
  simp only[Function.update_apply]
  split
  · rename_i same
    rw[same,stored] at h
    cases h
    exact ⟨row',rfl,binding.trans hb⟩
  · exact ⟨row₀,h,hb⟩
 case consumed =>
  intro other consumerRef now answer mem
  obtain ⟨row₀,g,h,consumer,granted,hanswer⟩:=sound.consumed mem
  simp only[Function.update_apply]
  split
  · rename_i same
    rw[same,stored] at h
    cases h
    exact absurd (grant_ok granted).1 unconsumed
  · exact ⟨row₀,g,h,consumer,granted,hanswer⟩
 case waiting =>
  intro p b hwaits
  obtain ⟨row₀,h⟩:=sound.waiting hwaits
  simp only[Function.update_apply]
  split
  · exact ⟨row',rfl⟩
  · exact ⟨row₀,h⟩

lemma Sound.stored (sound:Sound approvalId bindingFingerprint w){binding:Binding}
 {answer:Answer}(absent:w.rows (approvalId binding.requestRef)=none)
 (checks:(RuntimeApprovals.requested bindingFingerprint binding).checks=true) :
 Sound approvalId bindingFingerprint (World.answered {w with
  rows:=Function.update w.rows (approvalId binding.requestRef)
   (some (RuntimeApprovals.requested bindingFingerprint binding))} (.request binding)
   (.ok answer)):=by
 constructor
 case kept =>
  intro other row₀ h
  simp only[World.answered,Function.update_apply] at h
  split at h
  · rename_i same
    subst same
    cases h
    exact ⟨checks,rfl,rfl,answer,List.mem_cons_self⟩
  · obtain ⟨hchecks,hid,hdigest,answered,mem⟩:=sound.kept h
    exact ⟨hchecks,hid,hdigest,answered,List.mem_cons_of_mem _ mem⟩
 case approved =>
  intro other row₀ h approved
  simp only[World.answered,Function.update_apply] at h
  split at h
  · cases h
    exact absurd rfl approved
  · obtain ⟨actorRef,now,answered,approvedAt,mem⟩:=sound.approved h approved
    exact ⟨actorRef,now,answered,approvedAt,List.mem_cons_of_mem _ mem⟩
 case requested =>
  intro b answer mem
  simp only[World.answered,Function.update_apply]
  rcases List.mem_cons.mp mem with same|mem
  · cases same
    exact ⟨_,if_pos rfl,rfl⟩
  · obtain ⟨row₀,h,hb⟩:=sound.requested mem
    refine ⟨row₀,(if_neg fun same=>?_).trans h,hb⟩
    rw[same,absent] at h
    cases h
 case consumed =>
  intro other consumerRef now answer mem
  rcases List.mem_cons.mp mem with same|mem
  · cases same
  · obtain ⟨row₀,g,h,rest⟩:=sound.consumed mem
    refine ⟨row₀,g,?_,rest⟩
    simp only[World.answered,Function.update_apply]
    refine (if_neg fun same=>?_).trans h
    rw[same,absent] at h
    cases h
 case waiting =>
  intro p b hwaits
  obtain ⟨row₀,h⟩:=sound.waiting hwaits
  simp only[World.answered,Function.update_apply]
  split
  · exact ⟨_,rfl⟩
  · exact ⟨row₀,h⟩

lemma Sound.waits (sound:Sound approvalId bindingFingerprint w){p:ℕ}{next:Option Call}
 (present:∀binding,next=some (.request binding) →
  ∃row,w.rows (approvalId binding.requestRef)=some row) :
 Sound approvalId bindingFingerprint {w with waiting:=Function.update w.waiting p next} where
 __:=sound
 waiting {q binding} hwaits:=by
  simp only[Function.update_apply] at hwaits
  split at hwaits
  · exact present binding hwaits
  · exact sound.waiting hwaits

variable {bindings:Set Binding}

/-- What is stored, or waits to be read again, was requested with one of the bindings. -/
structure Within (bindings:Set Binding)(w:World Digest):Prop where
 stored {id row}:w.rows id=some row → row.binding∈bindings
 waiting {p binding}:w.waiting p=some (.request binding)→binding∈bindings

lemma within_empty:Within bindings (World.empty:World Digest):=⟨nofun,nofun⟩

lemma Within.rewritten (within:Within bindings w){id:String}{row:Row Digest}
 (named:row.binding∈bindings)(call:Call)(result:Except Failure Answer) :
 Within bindings (World.answered {w with rows:=Function.update w.rows id (some row)}
  call result) where
 stored {other row'} there:=by
  simp only[World.answered,Function.update_apply] at there
  split at there
  · cases there
    exact named
  · exact within.stored there
 waiting:=within.waiting

lemma Within.queued (within:Within bindings w){p:ℕ}{next:Option Call}
 (named:∀binding,next=some (.request binding)→binding∈bindings) :
 Within bindings {w with waiting:=Function.update w.waiting p next} where
 stored:=within.stored
 waiting {q binding} there:=by
  simp only[Function.update_apply] at there
  split at there
  · exact named binding there
  · exact within.waiting there

end Invariant

section Grants
variable {Digest:Type}[DecidableEq Digest]{approvalId:String→String}
 {bindingFingerprint:Binding→Digest}{w:World Digest}

def Event.requests (binding:Binding)(e:Event):Prop:=
 ∃p cycleExists,e=.call p (.request binding) cycleExists

lemma Call.validated_request {call:Call}{binding:Binding}
 (h:call.validated=.ok (.request binding)):call=.request binding:=by
 cases call with
 | request=>cases h;rfl
 | approve | consume =>
  obtain ⟨_,-,h⟩:=bind_ok.mp h
  obtain ⟨_,-,h⟩:=bind_ok.mp h
  cases h

variable (approvalId bindingFingerprint) in
inductive Moves (w:World Digest):Event→World Digest→Prop
 | idle (e:Event):Moves w e w
 | refused (e:Event)(call:Call)(failure:Failure)
  (absent:∀binding,call=.request binding→w.rows (approvalId binding.requestRef)=none) :
  Moves w e (w.answered call (.error failure))
 | waits (e:Event)(p:ℕ)(call:Call) (present:∀binding,call=.request binding →
   ∃row,w.rows (approvalId binding.requestRef)=some row)
  (asked:∀binding,call=.request binding→e.requests binding) :
  Moves w e {w with waiting:=Function.update w.waiting p (some call)}
 | requests (e:Event)(binding:Binding)(answer:Answer)(asked:e.requests binding)
  (absent:w.rows (approvalId binding.requestRef)=none)
  (checks:(requested bindingFingerprint binding).checks=true) :
  Moves w e (World.answered {w with
   rows:=Function.update w.rows (approvalId binding.requestRef)
    (some (requested bindingFingerprint binding))} (.request binding) (.ok answer))
 | approves {id:String}{row:Row Digest}(e:Event)(actorRef:String)(now:ℤ)
  (answer:Answer)(stored:w.rows id=some row)(pending:row.state=.pending)
  (checks:(row.approve actorRef now).checks=true) :
  Moves w e (World.answered {w with
   rows:=Function.update w.rows id (some (row.approve actorRef now))} (.approve id actorRef now)
    (.ok answer))
 | consumes {id:String}{row:Row Digest}(e:Event)(consumerRef:String)(now:ℤ)(g:Grant)
  (stored:w.rows id=some row)(approved:row.state=.approved)
  (due:row.approvedAt.any (fun approvedAt=>decide (approvedAt≤now))=true)
  (unexpired:now<row.binding.expiresAt)(checks:(row.consume consumerRef now).checks=true)
  (granted:grant id (row.consume consumerRef now)=.ok g) :
  Moves w e (World.answered {w with
   rows:=Function.update w.rows id (some (row.consume consumerRef now))}
    (.consume id consumerRef now) (.ok (.grant g)))
 | reads (p:ℕ)(call:Call)(waiting:w.waiting p=some call) :
  Moves w (.select p) (World.answered {w with waiting:=Function.update w.waiting p none} call
   (call.answer approvalId bindingFingerprint false (w.rows (call.row approvalId))))

lemma execute_moves (p:ℕ)(call:Call)(cycleExists:Bool) :
 Moves approvalId bindingFingerprint w (.call p call cycleExists)
  (execute approvalId bindingFingerprint w p call cycleExists):=by
 have fresh:∀ {call:Call}{row:Except Failure (Row Digest)},call.writes bindingFingerprint
   (w.rows (call.row approvalId)) cycleExists=some row→∀binding,call=.request binding →
    w.rows (approvalId binding.requestRef)=none:=by
  rintro _ row hwrites binding rfl
  simp only[Call.writes,Call.row] at hwrites
  split at hwrites
  · cases hwrites
  · assumption
 unfold execute
 split
 · rename_i invalid
   refine .refused _ _ _ fun binding hcall=>?_
   subst hcall
   cases invalid
 · rename_i valid validated
   have asked:∀binding,valid=.request binding →Event.requests binding (.call p call cycleExists):=by
    rintro binding rfl
    rw[Call.validated_request validated]
    exact ⟨p,cycleExists,rfl⟩
   split
   · rename_i unwritten
     refine .waits _ p valid (fun binding hcall=>?_) asked
     subst hcall
     simp only[Call.writes,Call.row] at unwritten
     split at unwritten
     · exact ⟨_,by assumption⟩
     · cases unwritten
   · exact .refused _ _ _ (fresh (by assumption))
   · rename_i written hwrites
     split
     · exact .refused _ _ _ (fresh hwrites)
     · rename_i answer hanswer
       cases valid with
       | request binding =>
        simp only[Call.writes,Call.row] at hwrites
        split at hwrites
        · cases hwrites
        · rename_i absent
          split at hwrites
          · injection hwrites with hwrites
            obtain ⟨rfl,checks⟩:=Row.checked_ok hwrites
            exact .requests _ binding answer (asked binding rfl) absent checks
          · cases hwrites
       | approve id actorRef now =>
        simp only[Call.writes,Call.row] at hwrites
        split at hwrites
        · rename_i row stored
          split at hwrites
          · rename_i takes
            injection hwrites with hwrites
            obtain ⟨rfl,checks⟩:=Row.checked_ok hwrites
            exact .approves _ actorRef now answer stored takes.1 checks
          · cases hwrites
        · cases hwrites
       | consume id consumerRef now =>
        simp only[Call.writes,Call.row] at hwrites
        split at hwrites
        · rename_i row stored
          split at hwrites
          · rename_i takes
            injection hwrites with hwrites
            obtain ⟨rfl,checks⟩:=Row.checked_ok hwrites
            simp only[Call.answer,Call.row] at hanswer
            obtain ⟨_,-,hanswer⟩:=bind_ok.mp hanswer
            rw[if_neg (by simp)] at hanswer
            obtain ⟨g,granted,hanswer⟩:=bind_ok.mp hanswer
            cases hanswer
            exact .consumes _ consumerRef now g stored takes.1 takes.2.1 takes.2.2 checks granted
          · cases hwrites
        · cases hwrites

lemma step_moves (e:Event) :
 Moves approvalId bindingFingerprint w e (step approvalId bindingFingerprint w e):=by
 cases e with
 | call p call cycleExists =>
  simp only[step]
  split
  · exact .idle _
  · exact execute_moves p call cycleExists
 | select p =>
  simp only[step]
  split
  · exact .idle _
  · exact .reads p _ (by assumption)

lemma answer_request {binding:Binding}{row:Option (Row Digest)}{answer:Answer}
 (h:Call.answer approvalId bindingFingerprint false row (.request binding)=.ok answer) :
 ∃r,row=some r ∧ r.bindingFingerprint=bindingFingerprint binding:=by
 cases row with
 | none=>cases h
 | some r =>
  simp only[Call.answer] at h
  split at h
  · cases h
  · rename_i same
    rw[not_or,not_not,not_not] at same
    exact ⟨r,rfl,same.2⟩

lemma answer_consume {id consumerRef:String}{now:ℤ}{row:Option (Row Digest)} {answer:Answer}
 (h:Call.answer approvalId bindingFingerprint false row (.consume id consumerRef now)=.ok answer) :
 ∃r g,row=some r ∧ r.consumedByRef=some consumerRef ∧ grant id r=.ok g ∧
  answer=.grant g ∧ r.binding.requestedAt≤now ∧ now<r.binding.expiresAt:=by
 cases row with
 | none=>cases h
 | some r =>
  simp only[Call.answer,Call.row] at h
  obtain ⟨_,opened,h⟩:=bind_ok.mp h
  split at h
  · cases h
  · rename_i same
    rw[not_and,not_not] at same
    obtain ⟨g,granted,h⟩:=bind_ok.mp h
    cases h
    exact ⟨r,g,rfl,(same trivial).2,granted,rfl,requireOpen_ok opened⟩

variable {bindings:Set Binding}

lemma Within.next (within:Within bindings w){e:Event}
 (asked:∀binding,e.requests binding→binding∈bindings) :
 Within bindings (step approvalId bindingFingerprint w e):=by
 have moves:Moves approvalId bindingFingerprint w e (step approvalId bindingFingerprint w e):=
  step_moves e
 generalize step approvalId bindingFingerprint w e=w' at moves
 cases moves with
 | idle=>exact within
 | refused=>exact ⟨within.stored,within.waiting⟩
 | waits _ p call _ named =>
  exact within.queued fun binding h=>asked binding (named binding (Option.some.inj h))
 | requests _ binding answer named=>exact within.rewritten (asked binding named) _ _
 | @approves id row _ actorRef now _ stored =>
  exact @Within.rewritten _ w _ within id (row.approve actorRef now) (within.stored stored :) _ _
 | @consumes id row _ consumerRef now _ stored =>
  exact @Within.rewritten _ w _ within id (row.consume consumerRef now) (within.stored stored :) _ _
 | reads p call =>
  have taken:Within bindings {w with waiting:=Function.update w.waiting p none}:=within.queued nofun
  exact ⟨taken.stored,taken.waiting⟩

lemma Sound.next (collisionFree:Set.InjOn bindingFingerprint bindings)
 (within:Within bindings w)(sound:Sound approvalId bindingFingerprint w)(e:Event) :
 Sound approvalId bindingFingerprint (step approvalId bindingFingerprint w e):=by
 have moves:Moves approvalId bindingFingerprint w e (step approvalId bindingFingerprint w e):=
  step_moves e
 generalize step approvalId bindingFingerprint w e=w' at moves
 cases moves with
 | idle=>exact sound
 | refused _ call failure absent=>exact sound.logged nofun nofun
 | waits _ p call present =>exact sound.waits fun binding h=>present binding (Option.some.inj h)
 | requests _ binding answer _ absent checks=>exact sound.stored absent checks
 | @approves id row _ actorRef now answer stored pending checks =>
  have logged:Sound approvalId bindingFingerprint
    (w.answered (.approve id actorRef now) (.ok answer)):=sound.logged nofun nofun
  exact logged.rewritten stored (by rw[pending];nofun) rfl rfl checks
   ⟨actorRef,now,answer,rfl,List.mem_cons_self⟩
 | @consumes id row _ consumerRef now g stored approved due unexpired checks granted =>
  have earlier:=sound.approved stored (by rw[approved];nofun)
  have rewritten:Sound approvalId bindingFingerprint
    {w with rows:=Function.update w.rows id (some (row.consume consumerRef now))}:=
   sound.rewritten stored (by rw[approved];nofun) rfl rfl checks earlier
  refine rewritten.logged nofun fun h same=>?_
  cases h
  cases same
  exact ⟨_,g,Function.update_self ..,rfl,granted,rfl⟩
 | reads p call hwaits =>
  have waited:Sound approvalId bindingFingerprint
    {w with waiting:=Function.update w.waiting p none}:=sound.waits nofun
  cases hanswer:call.answer approvalId bindingFingerprint false (w.rows (call.row approvalId)) with
  | error failure=>exact waited.logged nofun nofun
  | ok answer =>
   refine waited.logged (fun h same=>?_) fun h same=>?_ <;> obtain rfl:=Except.ok.inj same
   · subst h
     obtain ⟨row,stored,digest⟩:=answer_request hanswer
     refine ⟨row,stored,collisionFree (within.stored stored) (within.waiting hwaits) ?_⟩
     exact (sound.kept stored).2.2.1.symm.trans digest
   · subst h
     obtain ⟨row,g,stored,consumer,granted,rfl,-⟩:=answer_consume hanswer
     exact ⟨row,g,stored,consumer,granted,rfl⟩

variable (approvalId bindingFingerprint) in
def Answers (w:World Digest)(e:Event)(call:Call)(result:Except Failure Answer):Prop:=
 (step approvalId bindingFingerprint w e).log=(call,result)::w.log

def Timely (w:World Digest)(e:Event):Prop:=
 ∀p id consumerRef now row,e=.select p→w.waiting p=some (.consume id consumerRef now) →
  w.rows id=some row → row.state=.consumed → row.consumedByRef=some consumerRef →
  row.opens now=true→∀approvedAt∈row.approvedAt,approvedAt≤now

/-- The bindings that a run requests. -/
def requestedIn (events:List Event):Set Binding:={binding | ∃e∈events,e.requests binding}

lemma sound_reached {events:List Event}
 (collisionFree:Set.InjOn bindingFingerprint (requestedIn events)){before:List Event}
 (part:before <+: events) :
 Within (requestedIn events) (reached approvalId bindingFingerprint before) ∧
  Sound approvalId bindingFingerprint (reached approvalId bindingFingerprint before):=by
 have asks:∀e∈before,∀_:World Digest,∀binding,e.requests binding →
   binding∈requestedIn events:=fun e mem _ _ asked=>⟨e,part.subset mem,asked⟩
 refine (Runs.along_of_mem World.empty asks).invariant
  (fun w=>Within (requestedIn events) w ∧ Sound approvalId bindingFingerprint w)
  (fun w e ⟨within,sound⟩ asked=>?_) ⟨within_empty,sound_empty⟩
 exact ⟨within.next asked,sound.next collisionFree within e⟩

lemma not_cons_self {α:Type}{a:α}{l:List α}:l≠a::l:=fun h=>by
 have:=congrArg List.length h
 simp at this

lemma Answers.moves {e:Event}{call:Call}{result:Except Failure Answer}
 (h:Answers approvalId bindingFingerprint w e call result) :
 ∃w',step approvalId bindingFingerprint w e=w' ∧
  Moves approvalId bindingFingerprint w e w' ∧ w'.log=(call,result)::w.log:=
 ⟨_,rfl,step_moves e,h⟩

lemma answers_consume {e:Event}{id consumerRef:String}{now:ℤ}{g:Grant}
 (h:Answers approvalId bindingFingerprint w e (.consume id consumerRef now) (.ok (.grant g))) :
 ∃row:Row Digest,w.rows id=some row ∧ row.state≠.pending ∧
  row.approvedAt=some g.issuedAt ∧ g=row.binding.grant id g.issuedAt g.approvedByActorRef ∧
  now<row.binding.expiresAt ∧ (g.issuedAt≤now ∨ row.state=.consumed ∧
   row.consumedByRef=some consumerRef ∧ row.opens now=true ∧
   ∃p,e=.select p ∧ w.waiting p=some (.consume id consumerRef now)):=by
 obtain ⟨w',-,moves,h⟩:=h.moves
 cases moves with
 | idle | waits=>exact absurd h not_cons_self
 | refused | requests | approves=>cases h
 | @consumes id row _ consumerRef now g stored approved due unexpired checks granted =>
  cases h
  obtain ⟨-,approvedAt,hg⟩:=grant_ok granted
  refine ⟨row,stored,by rw[approved];nofun,approvedAt,hg,unexpired,.inl ?_⟩
  change row.approvedAt=some g.issuedAt at approvedAt
  rw[approvedAt] at due
  exact of_decide_eq_true due
 | reads p call waiting =>
  obtain ⟨hcall,hanswer⟩:=Prod.mk.inj (List.cons.inj h).1
  subst hcall
  obtain ⟨row,g',stored,consumer,granted,same,opened,unexpired⟩:=answer_consume hanswer
  cases same
  obtain ⟨consumed,approvedAt,hg⟩:=grant_ok granted
  refine ⟨row,stored,by rw[consumed];nofun,approvedAt,hg,unexpired,
   .inr ⟨consumed,consumer,?_,p,rfl,waiting⟩⟩
  simp[Row.opens,opened,unexpired]

lemma answers_error {e:Event}{call:Call}{failure:Failure}
 (h:Answers approvalId bindingFingerprint w e call (.error failure)) :
 (step approvalId bindingFingerprint w e).rows=w.rows:=by
 obtain ⟨w',is,moves,h⟩:=h.moves
 rw[is]
 cases moves with
 | idle | refused | waits | reads=>rfl
 | requests | approves | consumes=>cases h

lemma answers_request (sound:Sound approvalId bindingFingerprint w)
 (within:Within bindings w){e:Event}
 {binding binding':Binding}{answer:Answer}{result:Except Failure Answer}
 (collisionFree:Set.InjOn bindingFingerprint bindings)
 (first:(.request binding,.ok answer)∈w.log)(ref:binding'.requestRef=binding.requestRef)
 (differs:binding'≠binding)
 (h:Answers approvalId bindingFingerprint w e (.request binding') result) :
 result=.error (.bindingConflict (approvalId binding.requestRef)):=by
 obtain ⟨row,stored,rfl⟩:=sound.requested first
 obtain ⟨w',-,moves,h⟩:=h.moves
 cases moves with
 | idle | waits=>exact absurd h not_cons_self
 | refused _ call failure absent =>
  cases h
  have none:=absent binding' rfl
  rw[ref,stored] at none
  cases none
 | requests _ binding answer _ absent =>
  cases h
  rw[ref,stored] at absent
  cases absent
 | approves | consumes=>cases h
 | reads p call waiting =>
  obtain ⟨hcall,hanswer⟩:=Prod.mk.inj (List.cons.inj h).1
  subst hcall
  have other:row.bindingFingerprint≠bindingFingerprint binding':=by
   intro same
   exact differs (collisionFree (within.stored stored) (within.waiting waiting)
    ((sound.kept stored).2.2.1.symm.trans same)).symm
  simp only[Call.answer,Call.row,ref,stored] at hanswer
  rw[if_pos (.inr other)] at hanswer
  exact hanswer.symm

lemma answers_repeated {p:ℕ}{id consumerRef:String}{now:ℤ}{row:Row Digest}{g:Grant}
 (waiting:w.waiting p=some (.consume id consumerRef now))(stored:w.rows id=some row)
 (consumed:row.state=.consumed)(consumer:row.consumedByRef=some consumerRef)
 (opened:row.opens now=true)(granted:grant id row=.ok g) :
 Answers approvalId bindingFingerprint w (.select p) (.consume id consumerRef now)
  (.ok (.grant g)):=by
 simp only[Row.opens,Bool.and_eq_true,decide_eq_true_eq] at opened
 have opens:requireOpen id row now=.ok ():=by
  rw[requireOpen,if_neg (not_lt.mpr opened.1),if_neg (not_le.mpr opened.2)]
 have answer:Call.answer approvalId bindingFingerprint false (some row)
   (.consume id consumerRef now)=.ok (.grant g):=by
  simp only[Call.answer,Call.row,opens,granted,consumed,consumer]
  rfl
 simp only[Answers,step,waiting,Call.row,stored,answer,World.answered]

lemma timely_iff {events:List Event}
 (collisionFree:Set.InjOn bindingFingerprint (requestedIn events)) :
 (∀before e after,events=before++e::after→∀id consumerRef now g,
  Answers approvalId bindingFingerprint (reached approvalId bindingFingerprint before) e
   (.consume id consumerRef now) (.ok (.grant g)) → g.issuedAt≤now ∧ now<g.expiresAt) ↔
 Runs.Along (step approvalId bindingFingerprint) Timely World.empty events:=by
 constructor
 · intro inside
   refine Runs.along_of_take fun n less p id consumerRef now row he waiting stored consumed
    consumer opened approvedAt mem=>?_
   have sound:Sound approvalId bindingFingerprint
     (reached approvalId bindingFingerprint (events.take n)):=
    (sound_reached collisionFree (List.take_prefix n events)).2
   obtain ⟨g,granted⟩:=grant_of_checks (sound.kept stored).1 consumed
   have split:events=events.take n++events[n]::events.drop (n+1):=by
    rw[List.getElem_cons_drop,List.take_append_drop]
   have answers:Answers approvalId bindingFingerprint
     (reached approvalId bindingFingerprint (events.take n)) events[n]
     (.consume id consumerRef now) (.ok (.grant g)):=by
    rw[he]
    exact answers_repeated waiting stored consumed consumer opened granted
   have window:=inside _ _ _ split id consumerRef now g answers
   obtain ⟨-,issued,-⟩:=grant_ok granted
   rw[Option.mem_def.mp mem] at issued
   cases issued
   exact window.1
 · rintro along before e after rfl id consumerRef now g answers
   obtain ⟨row,stored,-,approvedAt,hg,unexpired,timely|⟨consumed,consumer,opened,p,he,hwaits⟩⟩:=
    answers_consume answers
   · exact ⟨timely,by rw[hg];exact unexpired⟩
   · obtain ⟨-,here,-⟩:=(Runs.along_append _ before _).mp along
     exact ⟨here p id consumerRef now row he hwaits stored consumed consumer opened g.issuedAt approvedAt,
      by rw[hg];exact unexpired⟩

/-- An approval gives one grant to one consumer, for what was requested first
and after an approval of it; differing requests are refused, and an error
changes no row. A grant is given inside its window exactly in the runs that
repeat no consumption at an instant before the approval. -/
theorem grants_are_one_shot (approvalId:String→String)(bindingFingerprint:Binding→Digest)
 (events:List Event)(collisionFree:Set.InjOn bindingFingerprint (requestedIn events)) :
 (∀id consumerRef now g consumerRef' now' g',
  (.consume id consumerRef now,.ok (.grant g)) ∈
   (reached approvalId bindingFingerprint events).log →
  (.consume id consumerRef' now',.ok (.grant g')) ∈
   (reached approvalId bindingFingerprint events).log →
  consumerRef=consumerRef' ∧ g=g') ∧
 (∀before e after,events=before++e::after →
  (∀id consumerRef now g,
   Answers approvalId bindingFingerprint (reached approvalId bindingFingerprint before) e
    (.consume id consumerRef now) (.ok (.grant g)) →
   (∃actorRef answer,(.approve id actorRef g.issuedAt,.ok answer) ∈
    (reached approvalId bindingFingerprint before).log) ∧
   ∃binding answer,(.request binding,.ok answer) ∈
     (reached approvalId bindingFingerprint before).log ∧
    approvalId binding.requestRef=id ∧
    g=binding.grant id g.issuedAt g.approvedByActorRef ∧
    binding.requestedAt≤g.issuedAt ∧ g.issuedAt<binding.expiresAt) ∧
  (∀binding answer binding' result,
   (.request binding,.ok answer)∈(reached approvalId bindingFingerprint before).log →
   binding'.requestRef=binding.requestRef→binding'≠binding →
   Answers approvalId bindingFingerprint (reached approvalId bindingFingerprint before) e
    (.request binding') result →
   result=.error (.bindingConflict (approvalId binding.requestRef))) ∧
  ∀call failure,
   Answers approvalId bindingFingerprint (reached approvalId bindingFingerprint before) e call
    (.error failure) →
   (step approvalId bindingFingerprint (reached approvalId bindingFingerprint before) e).rows =
    (reached approvalId bindingFingerprint before).rows) ∧
 ((∀before e after,events=before++e::after→∀id consumerRef now g,
  Answers approvalId bindingFingerprint (reached approvalId bindingFingerprint before) e
   (.consume id consumerRef now) (.ok (.grant g)) → g.issuedAt≤now ∧ now<g.expiresAt) ↔
  Runs.Along (step approvalId bindingFingerprint) Timely World.empty events):=by
 refine ⟨?_,?_,timely_iff collisionFree⟩
 · intro id consumerRef now g consumerRef' now' g' first second
   have sound:Sound approvalId bindingFingerprint (reached approvalId bindingFingerprint events):=
    (sound_reached collisionFree (List.prefix_refl events)).2
   obtain ⟨row,_,stored,consumer,granted,same⟩:=sound.consumed first
   cases same
   obtain ⟨row',_,stored',consumer',granted',same⟩:=sound.consumed second
   cases same
   cases stored.symm.trans stored'
   cases consumer.symm.trans consumer'
   cases granted.symm.trans granted'
   exact ⟨rfl,rfl⟩
 · rintro before e after rfl
   obtain ⟨within,sound⟩:Within (requestedIn (before++e::after))
      (reached approvalId bindingFingerprint before) ∧
     Sound approvalId bindingFingerprint (reached approvalId bindingFingerprint before):=
    sound_reached collisionFree (List.prefix_append before (e::after))
   refine ⟨fun id consumerRef now g answers=>?_,fun binding answer binding' result first ref differs
    answers=>answers_request sound within collisionFree first ref differs answers,
    fun call failure answers=>answers_error answers⟩
   obtain ⟨row,stored,unpending,approvedAt,hg,-⟩:=answers_consume answers
   obtain ⟨checks,hid,-,answer,requested⟩:=sound.kept stored
   obtain ⟨actorRef,instant,answer',happroved,approved⟩:=sound.approved stored unpending
   cases happroved.symm.trans approvedAt
   exact ⟨⟨actorRef,answer',approved⟩,row.binding,answer,requested,hid,hg,
    opens_of_checks checks approvedAt⟩

end Grants

def sampleBinding:Binding where
 requestRef:="request"
 cycleRef:="cycle"
 stage:=.providerHandoff
 purpose:=.action
 command:="execute_provider_operations"
 targetRef:="target"
 acquisitionOpportunityId:="opportunity"
 actionFingerprint:="bd938c688f49b77c7fc537c6b9222e2c97ebddd63076b87f2feaec66fb9c05d0"
 policyVersion:="v1"
 policySnapshotId:="snapshot"
 controlRevision:=1
 scopeFingerprint:="5f161c9149882e0e10124bc5dd5c11f0fbe8ec452edd52bcec76b01e9252cb33"
 requestedAt:=0
 expiresAt:=10
 window:=by decide
 commanded:=rfl

/-- Another target under the same reference. -/
def reboundBinding:Binding:={sampleBinding with targetRef:="target-2"}

def sampleId:String:="af8f8b23eb3ba647e4e0eae38e71693bbe6deec2cd57efc7ed6146ffdbd828c3"

/-- The digests of the two bindings. -/
def sampleFingerprint (binding:Binding):String:=
 if binding=reboundBinding then "f368b4e32c4e49a4afb97167423a783b2ac2c615ffe4e062037922004321ff6c"
 else "ee6f7069f61cac22afb8eaa4313a79af913ade43366558414e1d55d6c97dd3e2"

def consumedRun:List Event:=
 [.call 0 (.request sampleBinding) true,.call 1 (.request reboundBinding) true,.select 1,
  .call 0 (.approve sampleId "actor" 5) true,.call 0 (.consume sampleId "consumer" 6) true]

lemma sampleFingerprint_injOn:Set.InjOn sampleFingerprint (requestedIn consumedRun):=by
 have asked:∀binding∈requestedIn consumedRun,binding=sampleBinding ∨ binding=reboundBinding:=by
  rintro binding ⟨e,mem,p,cycleExists,rfl⟩
  rcases (by simpa[consumedRun] using mem) with ⟨-,rfl,-⟩|⟨-,rfl,-⟩
  · exact .inl rfl
  · exact .inr rfl
 intro binding here binding' there same
 rcases asked binding here with rfl|rfl <;> rcases asked binding' there with rfl|rfl
 · rfl
 · exact absurd same (by decide +kernel)
 · exact absurd same (by decide +kernel)
 · rfl

theorem grants_are_one_shot_consumed : ∃g,(.consume sampleId "consumer" 6,.ok (.grant g)) ∈
   (reached (fun _=>sampleId) sampleFingerprint consumedRun).log ∧
  ∀consumerRef now g',(.consume sampleId consumerRef now,.ok (.grant g')) ∈
    (reached (fun _=>sampleId) sampleFingerprint consumedRun).log →
   "consumer"=consumerRef ∧ g=g':=by
 have given:(.consume sampleId "consumer" 6,.ok (.grant (sampleBinding.grant sampleId 5 "actor"))) ∈
    (reached (fun _=>sampleId) sampleFingerprint consumedRun).log:=by decide +kernel
 exact ⟨_,given,fun consumerRef now g' again=>(grants_are_one_shot (fun _=>sampleId)
  sampleFingerprint consumedRun sampleFingerprint_injOn).1 sampleId "consumer" 6 _ consumerRef now
   g' given again⟩

/-- The consumer comes again with a clock before the approval. -/
theorem grant_before_its_approval :
 ¬∀ (approvalId:String→String)(bindingFingerprint:Binding→String)(events:List Event),
  Set.InjOn bindingFingerprint (requestedIn events)→∀before e after,
  events=before++e::after→∀id consumerRef now g,
  Answers approvalId bindingFingerprint (reached approvalId bindingFingerprint before) e
   (.consume id consumerRef now) (.ok (.grant g)) → g.issuedAt≤now ∧ now<g.expiresAt:=by
 intro claim
 have answers:Answers (fun _=>sampleId) sampleFingerprint
   (reached (fun _=>sampleId) sampleFingerprint
    (consumedRun++[.call 0 (.consume sampleId "consumer" 3) true]))
   (.select 0) (.consume sampleId "consumer" 3)
   (.ok (.grant (sampleBinding.grant sampleId 5 "actor"))):=by
  unfold Answers
  decide +kernel
 have same:requestedIn (consumedRun++[.call 0 (.consume sampleId "consumer" 3) true,.select 0]) =
   requestedIn consumedRun:=by
  ext binding
  simp[requestedIn,Event.requests,or_and_right,exists_or]
 have inside:=claim (fun _=>sampleId) sampleFingerprint _ (same ▸ sampleFingerprint_injOn)
  _ _ [] (List.append_assoc consumedRun _ _).symm _ _ _ _ answers
 exact absurd inside.1 (by decide)

end Kivou.RuntimeApprovals
