import Kivou.CompanyResearchBooks
import Kivou.OwnSteps

set_option autoImplicit false

/-! Where a recovery reads back what its run was authorised for, where the directory and the
provider answer within their contracts and where no failed commit is recorded for a call that asked
nobody, each call closes the run that it obtained, within seven statements of its own. -/
namespace Kivou.CompanyResearch

def Books.Closed (b:Books)(runId:String):Prop:=∃run∈b.runs,run.start.runId=runId ∧ run.Terminal

structure World.Consistent (w:World):Prop where
 asks:∀lookup∈w.books.lookups,∃run∈w.books.runs,run.start.runId=lookup.runId ∧
  lookup.profile.providerOrganizationId=run.start.profile.providerOrganizationId
 authorised:∀run∈w.books.runs,w.books.Authorised run.start
 twice:∀runId,w.books.lookups.countP (·.runId=runId)≤2
 ready:∀run∈w.books.runs,run.Succeeded ↔ .companyReady run.start.runId∈w.books.stream
 nextAction:∀run∈w.books.runs,run.Succeeded ↔ .companyNextAction run.start.runId∈w.books.stream
 profiled:∀run∈w.books.runs,run.Succeeded→w.books.Profiled run.start
 counted:∀run∈w.books.runs,run.Terminal→w.books.Counted run
 /-- A call that obtained a run and did not die leaves it closed. -/
 closes:∀call runId,w.calls call=.left (some runId)→w.books.Closed runId

/-- The closed runs of `w` are as they are in `w'`. -/
def World.Keeps (w w':World):Prop:=∀run∈w.books.runs,run.Terminal → run∈w'.books.runs

lemma World.Keeps.refl (w:World):w.Keeps w:=fun _ mem _=>mem

lemma World.Keeps.trans {w w' w'':World}(first:w.Keeps w')(second:w'.Keeps w'') :
 w.Keeps w'':=
 fun run mem ended=>second run (first run mem ended) ended

def Phase.owned?:Phase→Option String
 | .reopening run | .rebinding run _ | .executing run _ _ | .asked run _ | .committing run _ _
 | .writing run _ _ _ | .failing run _ _ _=>some run.runId
 | _=>none

def Op.advances (call:ℕ):Op→Bool
 | .advance other _=>other==call
 | _=>false

/-- A call that executes a run has left it, or died, as soon as it was given `n` more
statements. -/
def Ends (env:Env)(n:ℕ)(w:World)(ops:List Op):Prop:=∀call runId,(w.calls call).owned?=some runId →
  n≤ops.countP (·.advances call) →(ops.foldl (step env) w).calls call=.left (some runId) ∨
    (ops.foldl (step env) w).calls call=.dead

def World.Resumable (env:Env)(w:World)(run:RunStart)(opportunity:Opportunity):Prop:=
 ∃supplier contact binding profile,w.checkedBinding env opportunity run.supplierRef run.contactRef =
    some (supplier,contact,binding) ∧
   opportunity.isPostPolicy run=true ∧ binding.profile supplier=some profile ∧
   (binding.apolloOrganizationId.isSome=true →
    profile.providerOrganizationId=run.profile.providerOrganizationId)

def World.Safe (env:Env)(w:World):Op→Prop
 | .advance call input =>
  match w.calls call with
  | .rebinding run opportunity=>w.Resumable env run opportunity
  | .executing _ supplier binding=>binding.apolloOrganizationId=none →
    w.directoryObservation env supplier.providerOrganizationId≠.error ()
  | .asked _ _=>input.answer≠.raises
  | .failing run called providerCalls _=>providerCalls=called.toNat ∨
    ∀row,w.books.run? run.runId=some row → row.status≠.started
  | _=>True
 | _=>True

namespace Books

structure Idle (b:Books)(call:ℕ):Prop where
 owners:∀owner∈b.owners,owner.1≠call
 lookups:¬b.Asked call
 closures:∀closure∈b.closures,closure.1≠call

structure Owns (b:Books)(call:ℕ)(run:RunStart):Prop where
 known:run∈b.starts
 granted:(call,run.runId)∈b.owners
 unclosed:∀closure∈b.closures,closure.1≠call

def Holds (b:Books)(call:ℕ):Phase→Prop
 | .absent | .findingRun _ | .findingEvaluation _ | .readingOpportunity _ | .readingBinding _ _
 | .loading _ | .authorizing _ | .claiming _=>b.Idle call
 | .evaluating _ reading =>
  b.Idle call ∧ reading.binding.profile reading.supplier=some reading.profile
 | .starting request reading =>
  b.Idle call ∧ reading.binding.profile reading.supplier=some reading.profile ∧
   ∃evaluation∈b.evaluations,evaluation.evaluationId=request.evaluationId ∧
    evaluation.action=reading.action ∧ evaluation.executable
 | .reopening run | .rebinding run _=>b.Owns call run ∧ ¬b.Asked call
 | .executing run supplier binding=>b.Owns call run ∧ ¬b.Asked call ∧
  ∃profile,binding.profile supplier=some profile ∧ (binding.apolloOrganizationId.isSome=true →
    profile.providerOrganizationId=run.profile.providerOrganizationId)
 | .asked run _=>b.Owns call run ∧ b.Asked call
 | .committing run _ called | .writing run _ called _ | .failing run called _ _ =>
  b.Owns call run ∧ (called=true ↔ b.Asked call)
 | .left none | .dead=>True
 | .left (some runId)=>b.Closed runId

variable {b b':Books}{call other:ℕ}

lemma Later.starts (later:b.Later call b'){run:RunStart}(mem:run∈b.starts) : run∈b'.starts:=by
 obtain ⟨row,there,rfl⟩:=mem_starts.mp mem
 obtain ⟨row',there',is,-⟩:=later.runs row there
 exact mem_starts.mpr ⟨row',there',is⟩

lemma Later.asked_iff (later:b.Later call b')(apart:other≠call) : b'.Asked other ↔ b.Asked other:=by
 constructor
 · rintro ⟨lookup,mem,rfl⟩
   rcases later.ownLookups lookup mem with mem|is
   · exact ⟨lookup,mem,rfl⟩
   · exact absurd is apart
 · rintro ⟨lookup,mem,is⟩
   exact ⟨lookup,later.lookups lookup mem,is⟩

lemma Later.unclosed (later:b.Later call b')(apart:other≠call)
 (unclosed:∀closure∈b.closures,closure.1≠other) :
 ∀closure∈b'.closures,closure.1≠other:=by
 intro closure mem
 rcases later.ownClosures closure mem with mem|is
 · exact unclosed closure mem
 · rw[is]
   exact apart.symm

lemma Idle.later (idle:b.Idle other)(later:b.Later call b')(apart:other≠call) : b'.Idle other where
 owners:=by
  intro owner mem
  rcases later.ownOwners owner mem with mem|is
  · exact idle.owners owner mem
  · rw[is]
    exact apart.symm
 lookups:=fun asked=>idle.lookups ((later.asked_iff apart).mp asked)
 closures:=later.unclosed apart idle.closures

lemma Owns.later {run:RunStart}(owns:b.Owns other run)(later:b.Later call b')
 (apart:other≠call):b'.Owns other run:=
 ⟨later.starts owns.known,later.owners _ owns.granted,later.unclosed apart owns.unclosed⟩

lemma Closed.later {runId:String}(closed:b.Closed runId)(later:b.Later call b') :
 b'.Closed runId:=by
 obtain ⟨run,mem,is,terminal⟩:=closed
 obtain ⟨run',mem',-,same⟩:=later.runs run mem
 obtain rfl:=same terminal
 exact ⟨run',mem',is,terminal⟩

lemma Holds.later {phase:Phase}(holds:b.Holds other phase)(later:b.Later call b')
 (apart:other≠call):b'.Holds other phase:=by
 have asked:=later.asked_iff apart
 cases phase with
 | absent=>exact Idle.later holds later apart
 | findingRun request=>exact Idle.later holds later apart
 | findingEvaluation | readingOpportunity | readingBinding | loading | authorizing | claiming =>
  exact Idle.later holds later apart
 | evaluating request reading=>exact ⟨holds.1.later later apart,holds.2⟩
 | starting request reading =>
  obtain ⟨idle,fits,evaluation,mem,rest⟩:=holds
  exact ⟨idle.later later apart,fits,evaluation,later.evaluations _ mem,rest⟩
 | reopening | rebinding=>exact ⟨holds.1.later later apart,fun is=>holds.2 (asked.mp is)⟩
 | executing run supplier binding =>
  exact ⟨holds.1.later later apart,fun is=>holds.2.1 (asked.mp is),holds.2.2⟩
 | asked run binding=>exact ⟨holds.1.later later apart,asked.mpr holds.2⟩
 | committing | writing | failing=>exact ⟨holds.1.later later apart,holds.2.trans asked.symm⟩
 | left obtained =>
  cases obtained with
  | none=>trivial
  | some runId=>exact Closed.later holds later
 | dead=>trivial

end Books

structure World.Inv (w:World):Prop where
 books:w.books.Inv
 holds:∀call,w.books.Holds call (w.calls call)

def Phase.away:Phase→ℕ
 | .reopening _=>6
 | .rebinding _ _=>5
 | .executing _ _ _=>4
 | .asked _ _=>3
 | .committing _ _ _=>2
 | .writing _ _ _ _=>1
 | _=>0

def tasks:OwnSteps.Tasks Phase String where
 absent:=.absent
 dead:=.dead
 task?:=Phase.owned?
 away:=Phase.away
 Over:=fun runId phase=>phase=.left (some runId) ∨ phase=.dead
 absent_idle:=rfl
 absent_fresh:=by simp
 dead_over:=by simp

/-- What a statement of `call` does, which had `before` before it. -/
abbrev World.Leads:World→ℕ→Phase→World→Prop:=tasks.Leads World.calls World.Inv World.Keeps

abbrev World.Moves:World→Op→World→Prop:=tasks.Moves World.calls Op.advances World.Inv World.Keeps

namespace World
variable {w:World}{call:ℕ}{before phase:Phase}

lemma Inv.went (inv:w.Inv)(holds:w.books.Holds call phase)
 (nearer:tasks.Nearer before phase):w.Leads call before (w.goto call phase) where
 inv:=⟨inv.books,(Function.forall_update_iff _ _).mpr ⟨holds,fun other _=>inv.holds other⟩⟩
 keeps:=fun _ mem _=>mem
 apart:=fun _ apart=>Function.update_of_ne apart ..
 nearer:=by
  rw[show (w.goto call phase).calls call=phase from Function.update_self ..]
  exact nearer

lemma Inv.wrote (inv:w.Inv){books:Books}(kept:books.Inv)
 (later:w.books.Later call books)(holds:books.Holds call phase)
 (nearer:tasks.Nearer before phase) :
 w.Leads call before (w.put call books phase) where
 inv:=⟨kept,(Function.forall_update_iff _ _).mpr
  ⟨holds,fun other apart=>(inv.holds other).later later apart⟩⟩
 keeps:=by
  intro run mem terminal
  obtain ⟨run',mem',-,same⟩:=later.runs run mem
  rwa[same terminal] at mem'
 apart:=fun _ apart=>Function.update_of_ne apart ..
 nearer:=by
  rw[show (w.put call books phase).calls call=phase from Function.update_self ..]
  exact nearer

lemma Inv.stays (inv:w.Inv)(none:before.owned?=none):w.Leads call before w:=
 ⟨inv,.refl w,fun _ _=>rfl,.idle none⟩

end World

section
variable {env:Env}{w:World}{call:ℕ}{input:Input}

variable {reading:Reading}{run:RunStart}{binding:SireneApolloBinding}{providerCalls:ℕ}

lemma reading_profile {opportunity:Opportunity} (read:w.reading env opportunity=some reading) :
 reading.binding.profile reading.supplier=some reading.profile:=by
 unfold World.reading at read
 split at read
 · obtain ⟨⟨supplier,contact,binding⟩,-,rest⟩:=Option.bind_eq_some_iff.mp read
   obtain ⟨profile,is,rfl⟩:=Option.map_eq_some_iff.mp rest
   exact is
 · cases read

lemma evaluating_inv (inv:w.Inv){request:Request} (at':w.calls call=.evaluating request reading) :
 w.Leads call (.evaluating request reading) (advance env w call input):=by
 have holds:=inv.holds call
 unfold advance
 rw[at'] at holds ⊢
 dsimp only
 cases is:w.books.evaluate ⟨request.evaluationId,reading.action,reading.streamVersion,
  (request.terms,input.terms),input.executable⟩ with
 | none=>exact inv.went trivial (.idle rfl)
 | some result =>
  obtain ⟨evaluation,books⟩:=result
  obtain ⟨named,asks,mem,opportunity,stream,evaluations,rfl,kept,ready,next⟩:=Books.evaluate_some is
  have later:w.books.Later call {w.books with opportunity,stream,evaluations}:=
   Books.Later.evaluated call kept
  dsimp only
  split
  · rename_i executable
    exact inv.wrote (inv.books.evaluated kept ready next) later
     ⟨⟨holds.1.owners,holds.1.lookups,holds.1.closures⟩,holds.2,evaluation,mem,named,asks,
      executable⟩ (.idle rfl)
  · exact inv.wrote (inv.books.evaluated kept ready next) later trivial (.idle rfl)

lemma starting_inv (inv:w.Inv){request:Request} (at':w.calls call=.starting request reading) :
 w.Leads call (.starting request reading) (advance env w call input):=by
 have holds:=inv.holds call
 unfold advance
 rw[at'] at holds ⊢
 dsimp only
 obtain ⟨idle,fits,evaluation,mem,named,asks,executable⟩:=holds
 cases is:w.books.startRun call (reading.start request input.now) with
 | none=>exact inv.went trivial (.idle rfl)
 | some books =>
  have kept:=inv.books.started is ⟨evaluation,mem,named,asks,executable⟩
  have later:=Books.Later.started is
  obtain ⟨-,rfl⟩:=Books.startRun_some is
  refine inv.wrote kept later ⟨⟨?_,?_,idle.closures⟩,idle.lookups,reading.profile,fits,
   fun _=>rfl⟩ (.idle rfl)
  · exact Books.mem_starts.mpr ⟨_,List.mem_append_right _ (List.mem_singleton_self _),rfl⟩
  · exact List.mem_append_right _ (List.mem_singleton_self _)

lemma claiming_inv (inv:w.Inv){runId:String}(at':w.calls call=.claiming runId) :
 w.Leads call (.claiming runId) (advance env w call input):=by
 have holds:=inv.holds call
 unfold advance
 rw[at'] at holds ⊢
 dsimp only
 cases is:w.books.claimRecovery call runId with
 | none=>exact inv.went trivial (.idle rfl)
 | some result =>
  obtain ⟨start,books⟩:=result
  have kept:=inv.books.claimed is
  have later:=Books.Later.claimed inv.books is
  obtain ⟨run,mem,rfl,-,-,-,rfl⟩:=Books.claimRecovery_some is
  refine inv.wrote kept later ⟨⟨?_,?_,holds.closures⟩,holds.lookups⟩ (.idle rfl)
  · exact later.starts (Books.mem_starts.mpr ⟨run,mem,rfl⟩)
  · exact List.mem_append_right _ (List.mem_singleton_self _)

lemma rebinding_inv (inv:w.Inv){opportunity:Opportunity}
 (at':w.calls call=.rebinding run opportunity)(safe:w.Resumable env run opportunity) :
 w.Leads call (.rebinding run opportunity) (advance env w call input):=by
 have holds:=inv.holds call
 unfold advance
 rw[at'] at holds ⊢
 obtain ⟨supplier,contact,binding,profile,checked,post,builds,asks⟩:=safe
 dsimp only
 rw[checked]
 dsimp only
 rw[if_pos post]
 exact inv.went ⟨holds.1,holds.2,profile,builds,asks⟩ (.on rfl rfl (Nat.le_of_ble_eq_true rfl))

lemma executing_inv (inv:w.Inv){supplier:SupplierRecord}
 (at':w.calls call=.executing run supplier binding)
 (safe:binding.apolloOrganizationId=none →
  w.directoryObservation env supplier.providerOrganizationId≠.error ()) :
 w.Leads call (.executing run supplier binding) (advance env w call input):=by
 have holds:=inv.holds call
 unfold advance
 rw[at'] at holds ⊢
 obtain ⟨owns,unasked,profile,builds,asks⟩:=holds
 dsimp only
 rw[builds]
 dsimp only
 split
 · rename_i named
   exact inv.wrote (inv.books.asked owns.known owns.granted unasked owns.unclosed (asks named))
    Books.Later.asked ⟨⟨owns.known,owns.granted,owns.unclosed⟩,
     ⟨call,run.runId,profile⟩,List.mem_append_right _ (List.mem_singleton_self _),rfl⟩
    (.on rfl rfl (Nat.le_of_ble_eq_true rfl))
 · rename_i unnamed
   have fits:=safe (by simpa using unnamed)
   have silent:false=true ↔ w.books.Asked call:=iff_of_false (by decide) unasked
   cases is:w.directoryObservation env supplier.providerOrganizationId with
   | error raised=>exact absurd is fits
   | ok found =>
    cases found with
    | none | some=>exact inv.went ⟨owns,silent⟩ (.on rfl rfl (Nat.le_of_ble_eq_true rfl))

lemma asked_inv (inv:w.Inv) (at':w.calls call=.asked run binding)(safe:input.answer≠.raises) :
 w.Leads call (.asked run binding) (advance env w call input):=by
 have holds:=inv.holds call
 unfold advance
 rw[at'] at holds ⊢
 have spoken:true=true ↔ w.books.Asked call:=iff_of_true rfl holds.2
 cases is:input.answer with
 | raises=>exact absurd is safe
 | failure category=>exact inv.went ⟨holds.1,spoken⟩ (.on rfl rfl (Nat.le_of_ble_eq_true rfl))
 | observation observation =>
  dsimp only
  split
  · exact inv.went ⟨holds.1,spoken⟩ (.on rfl rfl (Nat.le_of_ble_eq_true rfl))
  · split
    · exact inv.went ⟨holds.1,spoken⟩ (.on rfl rfl (Nat.le_of_ble_eq_true rfl))
    · exact inv.went ⟨holds.1,spoken⟩ (.on rfl rfl (Nat.le_of_ble_eq_true rfl))

lemma closed_of_unfinished (inv:w.books.Inv){status:RunStatus}{error:Option ErrorCategory}
 (known:run∈w.books.starts)
 (refused:w.books.finishRun call run.runId status providerCalls error=none) :
 w.books.Closed run.runId:=by
 obtain ⟨row,mem,rfl⟩:=Books.mem_starts.mp known
 refine ⟨row,mem,rfl,fun isOpen=>?_⟩
 rw[Books.finishRun,inv.run?_eq mem] at refused
 dsimp only at refused
 rw[if_pos isOpen] at refused
 cases refused

lemma closed_of_close {b:Books}{status:RunStatus}
 {error:Option ErrorCategory}(known:run∈b.starts)(ended:status≠.started) :
 (b.close call run.runId status providerCalls error).Closed run.runId:=by
 obtain ⟨row,mem,rfl⟩:=Books.mem_starts.mp known
 exact ⟨_,Tables.mem_update.mpr ⟨row,mem,if_pos (by simp)⟩,rfl,ended⟩

lemma writing_inv (inv:w.Inv){observation:Observation}{called:Bool}
 (at':w.calls call=.writing run observation called binding) :
 w.Leads call (.writing run observation called binding) (advance env w call input):=by
 have holds:=inv.holds call
 unfold advance
 rw[at'] at holds ⊢
 dsimp only
 cases is:w.books.commitSuccess env call run observation called binding input.stored with
 | error error=>exact inv.went holds (.on rfl rfl (Nat.le_of_ble_eq_true rfl))
 | ok books =>
  have committed:=inv.books.committed is holds.1.known holds.2
  refine inv.wrote committed.1 committed.2 ?_ (.ends rfl (.inl rfl))
  obtain ⟨row,mem,-,-,opportunity,stream,profile,status,rfl,well,-⟩:=Books.commitSuccess_ok is
  refine closed_of_close holds.1.known ?_
  rintro rfl
  rcases well with is|is <;> cases is

lemma failing_inv (inv:w.Inv){called:Bool}
 {error:ErrorCategory}(at':w.calls call=.failing run called providerCalls error)
 (safe:providerCalls=called.toNat ∨
  ∀row,w.books.run? run.runId=some row → row.status≠.started) :
 w.Leads call (.failing run called providerCalls error) (advance env w call input):=by
 have holds:=inv.holds call
 unfold advance
 rw[at'] at holds ⊢
 dsimp only
 cases is:w.books.finishRun call run.runId .failed providerCalls (some error) with
 | none =>
  have closed:w.books.Holds call (.left (some run.runId)):=
   closed_of_unfinished inv.books holds.1.known is
  exact inv.went closed (.ends rfl (.inl rfl))
 | some books =>
  have counts:providerCalls=called.toNat:=by
   rcases safe with counts|ended
   · exact counts
   · obtain ⟨row,mem,named,isOpen,-⟩:=Books.finishRun_some is
     exact absurd isOpen (ended row (named ▸ inv.books.run?_eq mem))
  subst counts
  have finished:=inv.books.finished is holds.1.known holds.2
  refine inv.wrote finished.1 finished.2 ?_ (.ends rfl (.inl rfl))
  obtain ⟨row,mem,-,-,rfl⟩:=Books.finishRun_some is
  exact closed_of_close holds.1.known (by decide)

lemma advance_inv (inv:w.Inv)(safe:w.Safe env (.advance call input)) :
 w.Leads call (w.calls call) (advance env w call input):=by
 have holds:=inv.holds call
 unfold World.Safe at safe
 dsimp only at safe
 cases at':w.calls call with
 | absent | left | dead=>unfold advance;rw[at'];exact inv.stays rfl
 | findingRun request =>
  unfold advance
  rw[at'] at holds ⊢
  dsimp only
  cases w.books.runByPolicy? request.evaluationId with
  | some run=>exact inv.went trivial (.idle rfl)
  | none=>exact inv.went holds (.idle rfl)
 | findingEvaluation request =>
  unfold advance
  rw[at'] at holds ⊢
  dsimp only
  cases w.books.evaluation? request.evaluationId with
  | some evaluation=>exact inv.went trivial (.idle rfl)
  | none=>exact inv.went holds (.idle rfl)
 | readingOpportunity | authorizing =>
  unfold advance
  rw[at'] at holds ⊢
  dsimp only
  split
  · exact inv.went holds (.idle rfl)
  · exact inv.went trivial (.idle rfl)
 | readingBinding request opportunity =>
  unfold advance
  rw[at'] at holds ⊢
  dsimp only
  cases is:w.reading env opportunity with
  | none=>exact inv.went trivial (.idle rfl)
  | some reading=>exact inv.went ⟨holds,reading_profile is⟩ (.idle rfl)
 | evaluating request reading=>exact evaluating_inv inv at'
 | starting request reading=>exact starting_inv inv at'
 | loading runId =>
  unfold advance
  rw[at'] at holds ⊢
  dsimp only
  cases w.books.run? runId with
  | none=>exact inv.went trivial (.idle rfl)
  | some run =>
   dsimp only
   split
   · exact inv.went holds (.idle rfl)
   · exact inv.went trivial (.idle rfl)
 | claiming runId=>exact claiming_inv inv at'
 | reopening run =>
  unfold advance
  rw[at'] at holds ⊢
  exact inv.went holds (.on rfl rfl (Nat.le_of_ble_eq_true rfl))
 | rebinding run opportunity =>
  rw[at'] at safe
  exact rebinding_inv inv at' safe
 | executing run supplier binding =>
  rw[at'] at safe
  exact executing_inv inv at' safe
 | asked run binding =>
  rw[at'] at safe
  exact asked_inv inv at' safe
 | committing run observation called =>
  unfold advance
  rw[at'] at holds ⊢
  dsimp only
  cases (env.suppliers run.supplierRef).bind w.requiredBinding with
  | some | none=>exact inv.went holds (.on rfl rfl (Nat.le_of_ble_eq_true rfl))
 | writing run observation called binding=>exact writing_inv inv at'
 | failing run called providerCalls error =>
  rw[at'] at safe
  exact failing_inv inv at' safe

lemma begin_moves (inv:w.Inv){phase:Phase}{op:Op}(none:∀other,op.advances other=false)
 (idle:w.books.Idle call→w.books.Holds call phase):w.Moves op (w.begin call phase):=by
 unfold World.begin
 split
 · rename_i free
   have holds:=inv.holds call
   rw[free] at holds
   have begun:w.Leads call .absent (w.goto call phase):=inv.went (idle holds) (.idle rfl)
   exact begun.begins free none
 · exact .idle inv (.refl w) rfl none

lemma step_moves (inv:w.Inv){op:Op}(safe:w.Safe env op):w.Moves op (step env w op):=by
 cases op with
 | bind | record=>exact .idle ⟨inv.books,inv.holds⟩ (fun _ mem _=>mem) rfl fun _=>rfl
 | research call request =>
  have idle:w.books.Idle call→w.books.Holds call (.findingRun request):=id
  exact begin_moves inv (fun _=>rfl) idle
 | resumeStarted call runId =>
  have idle:w.books.Idle call→w.books.Holds call (.loading runId):=id
  exact begin_moves inv (fun _=>rfl) idle
 | advance call input=>exact (advance_inv inv safe).moves fun _=>beq_iff_eq
 | crash call =>
  unfold step
  dsimp only
  have dies:w.Leads call .absent (w.goto call .dead):=inv.went trivial (.idle rfl)
  split
  · exact .idle inv (.refl w) rfl fun _=>rfl
  · exact .idle inv (.refl w) rfl fun _=>rfl
  · exact dies.dies (Function.update_self ..) fun _=>rfl

lemma progresses (env:Env):tasks.Progresses World.calls Op.advances World.Inv World.Keeps
 (step env) (World.Safe env) where
 moves:=fun inv safe=>step_moves inv safe
 still:=by
  intro w op call runId mine ended
  cases op with
  | advance other input =>
   obtain rfl:other=call:=by simpa[Op.advances] using mine
   change advance env w other input=w
   unfold advance
   rcases ended with is|is <;> rw[is]
  | _=>cases mine

end

lemma World.Inv.ends {env:Env}{w:World}(inv:w.Inv){ops:List Op}
 (safe:Runs.Along (step env) (World.Safe env) w ops):Ends env 7 w ops:=by
 intro call runId owned given
 refine (progresses env).ends inv safe owned (Nat.lt_of_lt_of_le ?_ given)
 change (w.calls call).away<7
 cases w.calls call <;> exact Nat.le_of_ble_eq_true rfl

variable {w:World}{env:Env}{call:ℕ}{input:Input}

lemma World.Inv.consistent (inv:w.Inv):w.Consistent where
 asks:=by
  intro lookup mem
  obtain ⟨run,there,is,asks⟩:=inv.books.asks lookup mem
  obtain ⟨row,here,rfl⟩:=Books.mem_starts.mp there
  exact ⟨row,here,is,asks⟩
 authorised:=fun run mem=>inv.books.authorised run.start (Books.mem_starts.mpr ⟨run,mem,rfl⟩)
 twice:=inv.books.lookups_le_two
 ready:=fun run mem=>(inv.books.faithful run mem).ready
 nextAction:=fun run mem=>(inv.books.faithful run mem).nextAction
 profiled:=fun run mem=>(inv.books.faithful run mem).profiled
 counted:=fun run mem=>(inv.books.faithful run mem).counted
 closes:=by
  intro call runId is
  have holds:=inv.holds call
  rw[is] at holds
  exact holds

def World.start (opportunity:Opportunity)(profile:Option Prebuild)
 (bindings:String→Option SireneApolloBinding)
 (directory:String→Option DirectoryRecord):World where
 books:=⟨opportunity,[],[],[],profile,[],[],[]⟩
 bindings:=bindings
 directory:=directory
 calls:=fun _=>.absent

lemma start_inv (opportunity:Opportunity)(profile:Option Prebuild)
 (bindings:String→Option SireneApolloBinding)
 (directory:String→Option DirectoryRecord) :
 (World.start opportunity profile bindings directory).Inv where
 books:=by constructor <;> simp[World.start,Books.starts]
 holds:=fun call=>by
  constructor
  · simp[World.start]
  · simp[World.start,Books.Asked]
  · simp[World.start]

theorem research_kept (env:Env)(opportunity:Opportunity)(profile:Option Prebuild)
 (bindings:String→Option SireneApolloBinding)
 (directory:String→Option DirectoryRecord)(ops:List Op)
 (safe:Runs.Along (step env) (World.Safe env)
  (World.start opportunity profile bindings directory) ops) :
 ∀done,done <+: ops →
  (done.foldl (step env) (World.start opportunity profile bindings directory)).Consistent ∧
   ∀earlier later,earlier++later=done →
    (earlier.foldl (step env) (World.start opportunity profile bindings directory)).Keeps
      (done.foldl (step env) (World.start opportunity profile bindings directory)) ∧
     Ends env 7 (earlier.foldl (step env)
      (World.start opportunity profile bindings directory)) later:=by
 intro done here
 have start:=start_inv opportunity profile bindings directory
 obtain ⟨inv,rest⟩:=(progresses env).run World.Keeps.refl World.Keeps.trans start safe here
 refine ⟨inv.consistent,fun earlier later is=>?_⟩
 obtain ⟨keeps,inv,safe⟩:=rest earlier later is
 exact ⟨keeps,inv.ends safe⟩

def sampleEnv:Env where
 suppliers:=fun ref=>
  if ref="supplier" then some ⟨"supplier",.sirene,"331364729",.sireneIdentified⟩ else none
 contacts:=fun ref=>
  if ref="contact" then some ⟨"contact","supplier",.providerVerified,.apollo,.verified,"roles-v1",1⟩
  else none
 hasDirectory:=true
 fingerprint:=fun _ _=>"digest"

def sampleOpportunity:Opportunity:=
 ⟨"signal",.enriching,some "supplier",some "contact",some "enrich_company",5⟩

def sampleObservation:Observation:=
 ⟨.apollo,"A","Alpha",some "alpha.fr",none,some "FR",some "works",some 12,none,none,[],1,"digest"⟩

def sampleRecord:DirectoryRecord:=⟨"Alpha",1,none,none,some "alpha.fr",some 1,none,none,none,[]⟩

def sampleStart (apollo domain:Option String):World:=
 .start sampleOpportunity none (fun _=>some ⟨apollo,domain⟩) fun _=>some sampleRecord

def sampleInput:Input:={answer:=.observation sampleObservation}

def advances (call n:ℕ):List Op:=List.replicate n (.advance call sampleInput)

/-- The research of one call, up to its `n`th statement. -/
def researched (n:ℕ):List Op:=.research 0 ⟨"evaluation","run",0⟩::advances 0 n

/-- A research that died and is taken up when its supplier is bound to `binding`. -/
def resumed (binding:SireneApolloBinding)(n:ℕ):List Op:=
 researched 6++[.crash 0,.bind "331364729" binding,.resumeStarted 1 "run"]++advances 1 n

def reboundLookup:World:=
 (resumed ⟨some "B",none⟩ 6).foldl (step sampleEnv) (sampleStart (some "A") none)

def unboundRecovery:World:=
 (resumed ⟨none,none⟩ 5).foldl (step sampleEnv) (sampleStart (some "A") none)

def boundCommit:World:=
 (researched 7++[Op.bind "331364729" ⟨some "B",none⟩]++advances 0 3).foldl (step sampleEnv)
  (sampleStart none (some "alpha.fr"))

theorem rebound_research :
 ¬reboundLookup.Consistent ∧ ¬unboundRecovery.Consistent ∧ ¬boundCommit.Consistent:=by
 refine ⟨fun consistent=>?_,fun consistent=>?_,fun consistent=>?_⟩
 · -- the recovery asks for B, the run was authorised for A
   exact absurd consistent.asks (by decide +kernel)
 · -- the recovery raises after it was claimed
   have left:unboundRecovery.calls 1=.left (some "run"):=by decide +kernel
   have stuck:¬∃run∈unboundRecovery.books.runs,
     run.start.runId="run" ∧ run.status≠.started:=by decide +kernel
   exact stuck (consistent.closes 1 "run" left)
 · -- the failed commit counts a request that nobody made
   have runs:∀run∈boundCommit.books.runs,run.status≠.started ∧ run.providerCalls=1:=by
    decide +kernel
   have silent:boundCommit.books.lookups=[]:=by decide +kernel
   have some':boundCommit.books.runs≠[]:=by decide +kernel
   obtain ⟨run,mem⟩:=List.exists_mem_of_ne_nil _ some'
   obtain ⟨call,-,-,counts⟩:=consistent.counted run mem (runs run mem).1
   obtain ⟨lookup,asked,-⟩:=counts.mp (runs run mem).2
   rw[silent] at asked
   cases asked

def Phase.quiet:Phase→Bool
 | .rebinding _ _ | .executing _ _ _ | .asked _ _ | .failing _ _ _ _=>false
 | _=>true

lemma safe_of_quiet (quiet:(w.calls call).quiet=true):w.Safe env (.advance call input):=by
 unfold World.Safe
 dsimp only
 split <;> first | trivial | (rename_i is;rw[is] at quiet;cases quiet)

lemma safe_of_executing {run:RunStart} {supplier:SupplierRecord}{binding:SireneApolloBinding}
 (is:w.calls call=.executing run supplier binding)
 (named:binding.apolloOrganizationId≠none):w.Safe env (.advance call input):=by
 unfold World.Safe
 dsimp only
 rw[is]
 exact fun unnamed=>absurd unnamed named

lemma safe_of_asked {run:RunStart} {binding:SireneApolloBinding}(is:w.calls call=.asked run binding)
 (answers:input.answer≠.raises):w.Safe env (.advance call input):=by
 unfold World.Safe
 dsimp only
 rw[is]
 exact answers

/-- A research of a supplier that stays bound, after `n` steps. -/
def boundResearch (n:ℕ):World:=
 ((researched 10).take n).foldl (step sampleEnv) (sampleStart (some "A") none)

lemma boundResearch_quiet : ∀n∈[1,2,3,4,5,6,9,10],((boundResearch n).calls 0).quiet=true:=by
 decide +kernel

lemma boundResearch_executing:(boundResearch 7).calls 0=.executing
 ⟨"run","supplier","contact","evaluation",⟨"A","331364729",("A","331364729")⟩,6,0⟩
 ⟨"supplier",.sirene,"331364729",.sireneIdentified⟩ ⟨some "A",none⟩:=by decide +kernel

lemma boundResearch_asked:(boundResearch 8).calls 0=.asked
 ⟨"run","supplier","contact","evaluation",⟨"A","331364729",("A","331364729")⟩,6,0⟩
 ⟨some "A",none⟩:=by decide +kernel

lemma boundResearch_safe:∀n<10,(boundResearch (n+1)).Safe sampleEnv (.advance 0 sampleInput):=by
 intro n less
 by_cases quiet:n+1∈[1,2,3,4,5,6,9,10]
 · exact safe_of_quiet (boundResearch_quiet _ quiet)
 · have either:n=6 ∨ n=7:=by
    simp only[List.mem_cons,List.not_mem_nil,or_false] at quiet
    omega
   rcases either with rfl|rfl
   · exact safe_of_executing boundResearch_executing (by decide)
   · exact safe_of_asked boundResearch_asked (by decide)

theorem research_kept_sample :
 let start:=sampleStart (some "A") none
 ∀done,done <+: researched 10 →(done.foldl (step sampleEnv) start).Consistent ∧
   ∀earlier later,earlier++later=done →
    (earlier.foldl (step sampleEnv) start).Keeps (done.foldl (step sampleEnv) start) ∧
     Ends sampleEnv 7 (earlier.foldl (step sampleEnv) start) later:=by
 intro start
 suffices safe:Runs.Along (step sampleEnv) (World.Safe sampleEnv) start (researched 10) from
  research_kept sampleEnv sampleOpportunity none _ _ (researched 10) safe
 refine Runs.along_of_take fun n less=>?_
 cases n with
 | zero=>trivial
 | succ n =>
  have op:(researched 10)[n+1]=.advance 0 sampleInput:=by
   simp only[researched,advances,List.getElem_cons_succ,List.getElem_replicate]
  rw[op]
  exact boundResearch_safe n (Nat.lt_of_succ_lt_succ less)

end Kivou.CompanyResearch
