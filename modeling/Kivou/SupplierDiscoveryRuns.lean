import Kivou.OwnSteps
import Kivou.SupplierDiscoveryBooks

set_option autoImplicit false

/-! Where every search of the register ends in a page that the contracts hold, and where a search is
narrowed only as long as the run may ask for another page, each call closes the run that it
obtained, after a bounded number of statements. -/
namespace Kivou.SupplierDiscovery
open RunLedger SireneSearch

structure World.Consistent (w:World):Prop where
 /-- A call that obtained a run and did not die leaves it closed. -/
 closes:∀call runId,w.calls call=.left (some runId)→w.books.runs.Closed runId
 recorded:∀run∈w.books.runs.rows,∀outcome,run.outcome=some outcome →Fits run.start outcome.counters
 /-- What one execution requests and accepts. -/
 pagesEach:∀run∈w.books.runs.rows,∀call,w.books.pages.count (call,run.id)≤run.start.profile.maxPages
 acceptedEach:∀run∈w.books.runs.rows,∀call,
  w.books.acceptances.count (call,run.id)≤run.start.profile.candidateCap
 familiesEach:∀run∈w.books.runs.rows,∀call,∀family∈run.start.profile.supplierFamilyKeys,
   (w.books.acceptancesOf family).count (call,run.id)≤25
 /-- And a run, which is executed again where it was taken up. -/
 pages:∀run∈w.books.runs.rows,w.books.pages.countP (·.2=run.id) ≤
   (1+run.recovered.toNat)*run.start.profile.maxPages
 accepted:∀run∈w.books.runs.rows,w.books.acceptances.countP (·.2=run.id) ≤
   (1+run.recovered.toNat)*run.start.profile.candidateCap
 families:∀run∈w.books.runs.rows,∀family∈run.start.profile.supplierFamilyKeys,
  (w.books.acceptancesOf family).countP (·.2=run.id)≤(1+run.recovered.toNat)*25
 opportunities:∀signalRef supplierRef,w.books.opportunities.countP
  (fun opportunity=>opportunity.signalRef=signalRef ∧
   opportunity.supplierRef=supplierRef)≤1

/-- The closed runs of `w` are as they are in `w'`. -/
def World.Keeps (w w':World):Prop:=
 ∀run∈w.books.runs.rows,run.outcome.isSome → run∈w'.books.runs.rows

lemma World.Keeps.refl (w:World):w.Keeps w:=fun _ mem _=>mem

lemma World.Keeps.trans {w w' w'':World}(first:w.Keeps w')(second:w'.Keeps w'') :
 w.Keeps w'':=
 fun run mem ended=>second run (first run mem ended) ended

def Phase.owned?:Phase→Option String
 | .requesting runId _ | .searching runId _ | .accepting runId _ _ _ | .finishing runId _ =>
  some runId
 | _=>none

def Op.advances (call:ℕ):Op→Bool
 | .advance other _=>other==call
 | _=>false

/-- A call that executes a run has left it, or died, as soon as it was given `n` more
statements. -/
def Ends (env:Env)(n:ℕ)(w:World)(ops:List Op):Prop:=∀call runId,(w.calls call).owned?=some runId →
  n≤ops.countP (·.advances call) →(ops.foldl (step env) w).calls call=.left (some runId) ∨
    (ops.foldl (step env) w).calls call=.dead

def Phase.Safe (env:Env)(input:Input):Phase→Prop
 | .searching _ l =>
  match searchPage env.texts env.catalog l.profile l.pageNumber input.surroundings with
  | some (.page page) =>
   l.profile.searchTooBroadThreshold<page.totalEntries→l.profile.narrowingLevel<2 →
    l.counters.pagesRequested<l.profile.maxPages
  | _=>False
 | .accepting _ _ _ (_::_)=>env.hasResolver=true→input.resolution≠.raises
 | _=>True

def World.Safe (env:Env)(w:World):Op→Prop
 | .advance call input=>(w.calls call).Safe env input
 | _=>True

instance (env:Env)(input:Input)(phase:Phase):Decidable (phase.Safe env input):=by
 unfold Phase.Safe
 split
 · split <;> infer_instance
 · infer_instance
 · infer_instance

instance (env:Env)(w:World):(op:Op)→Decidable (w.Safe env op)
 | .advance call input=>inferInstanceAs (Decidable ((w.calls call).Safe env input))
 | .discover _ _ | .resumeStarted _ _ | .crash _=>.isTrue trivial

structure Books.Executes (b:Books)(call:ℕ)(runId:String)(run:RunStart)(l:Locals) : Prop where
 owns:b.runs.Owns call runId run
 spent:b.Spent call l.counters
 fits:Fits run l.counters
 alike:Alike run l.profile
 first:l.pageNumber=1

namespace Books

def Holds (b:Books)(call:ℕ):Phase→Prop
 | .absent | .resolving _ | .evaluating _ _ | .starting _ _ | .loading _ | .authorizing _
 | .claiming _=>b.runs.Idle call
 | .requesting runId l=>∃run,b.Executes call runId run l ∧
   l.counters.pagesRequested<run.profile.maxPages
 | .searching runId l=>∃run,b.Executes call runId run l
 | .accepting runId l totalPages rest=>∃run,b.Executes call runId run l ∧ totalPages=1 ∧
   rest.length≤300
 | .finishing runId outcome=>∃run,b.runs.Owns call runId run ∧ Fits run outcome.counters
 | .left (some runId)=>b.runs.Closed runId
 | .left none | .dead=>True

variable {b b':Books}{call other:ℕ}

lemma Executes.later {runId:String}{run:RunStart}{l:Locals}
 (executes:b.Executes other runId run l)(later:b.Later call b')(apart:other≠call) :
 b'.Executes other runId run l:=
 ⟨executes.owns.later later.runs apart,executes.spent.later later apart,executes.fits,
  executes.alike,executes.first⟩

lemma Holds.later {phase:Phase}(holds:b.Holds other phase)(later:b.Later call b')
 (apart:other≠call):b'.Holds other phase:=by
 cases phase with
 | requesting runId l =>
  obtain ⟨run,executes,rest⟩:=holds
  exact ⟨run,executes.later later apart,rest⟩
 | searching runId l =>
  obtain ⟨run,executes⟩:=holds
  exact ⟨run,executes.later later apart⟩
 | accepting runId l totalPages rest =>
  obtain ⟨run,executes,rest⟩:=holds
  exact ⟨run,executes.later later apart,rest⟩
 | finishing runId outcome =>
  obtain ⟨run,owns,fits⟩:=holds
  exact ⟨run,owns.later later.runs apart,fits⟩
 | left obtained =>
  cases obtained with
  | none=>trivial
  | some runId=>exact Ledger.Closed.later holds later.runs
 | dead=>trivial
 | _=>exact Ledger.Idle.later holds later.runs apart

end Books

structure World.Inv (w:World):Prop where
 books:w.books.Inv
 holds:∀call,w.books.Holds call (w.calls call)

/-- A page that is read after the search has been narrowed to its last level is the last one. -/
def Phase.away:Phase→ℕ
 | .requesting _ l=>2*(2-l.profile.narrowingLevel)+303
 | .searching _ l=>2*(2-l.profile.narrowingLevel)+302
 | .accepting _ _ _ rest=>rest.length+1
 | _=>0

def tasks:OwnSteps.Tasks Phase String where
 absent:=.absent
 dead:=.dead
 task?:=Phase.owned?
 away:=Phase.away
 Over:=fun runId phase=>phase=.left (some runId) ∨ phase=.dead
 absent_idle:=rfl
 absent_fresh:=by simp
 dead_over:=by simp

/-- What a statement of `call` does, which had `before` before it. -/
abbrev World.Leads:World→ℕ→Phase→World→Prop:=tasks.Leads World.calls World.Inv World.Keeps

abbrev World.Moves:World→Op→World→Prop:=tasks.Moves World.calls Op.advances World.Inv World.Keeps

namespace World
variable {w:World}{call:ℕ}{before phase:Phase}

lemma Inv.went (inv:w.Inv)(holds:w.books.Holds call phase)
 (nearer:tasks.Nearer before phase):w.Leads call before (w.goto call phase) where
 inv:=⟨inv.books,(Function.forall_update_iff _ _).mpr ⟨holds,fun other _=>inv.holds other⟩⟩
 keeps:=fun _ mem _=>mem
 apart:=fun _ apart=>Function.update_of_ne apart ..
 nearer:=by
  rw[show (w.goto call phase).calls call=phase from Function.update_self ..]
  exact nearer

lemma Inv.wrote (inv:w.Inv){books:Books}(kept:books.Inv)
 (later:w.books.Later call books)(holds:books.Holds call phase)
 (nearer:tasks.Nearer before phase):w.Leads call before (w.put call books phase) where
 inv:=⟨kept,(Function.forall_update_iff _ _).mpr
  ⟨holds,fun other apart=>(inv.holds other).later later apart⟩⟩
 keeps:=fun _ mem outcome=>later.runs.keeps mem outcome
 apart:=fun _ apart=>Function.update_of_ne apart ..
 nearer:=by
  rw[show (w.put call books phase).calls call=phase from Function.update_self ..]
  exact nearer

lemma Inv.stays (inv:w.Inv)(none:before.owned?=none):w.Leads call before w:=
 ⟨inv,.refl w,fun _ _=>rfl,.idle none⟩

end World

section
variable {env:Env}{w:World}{call:ℕ}{input:Input}{runId:String}{l:Locals}

lemma evaluating_inv (inv:w.Inv){request:Request}{profile:SupplierSearchProfile}
 (there:w.calls call=.evaluating request profile) :
 w.Leads call (.evaluating request profile) (advance env w call input):=by
 have holds:=inv.holds call
 unfold advance
 rw[there] at holds ⊢
 dsimp only
 cases is:w.books.evaluate ⟨request.evaluationId,profile,(request.terms,input.terms),
  input.executable⟩ with
 | none=>exact inv.went trivial (.idle rfl)
 | some result =>
  obtain ⟨evaluation,books⟩:=result
  obtain ⟨evaluations,rfl⟩:=Books.evaluate_some is
  have later:w.books.Later call {w.books with evaluations}:=
   ⟨.refl call w.books.runs,fun _ _=>rfl,fun _ _=>rfl⟩
  dsimp only
  split
  · exact inv.wrote inv.books.evaluated later holds (.idle rfl)
  · exact inv.wrote inv.books.evaluated later trivial (.idle rfl)

variable {b:Books}{run:RunStart}{candidate:Candidate}{rest:List Candidate}{op:Op}
 {totalPages other:ℕ}

lemma obtained_holds (owns:b.runs.Owns call runId run)
 (spent:b.Spent call {}):b.Holds call (.requesting runId ⟨run.profile,1,none,{}⟩):=
 ⟨run,⟨owns,spent,⟨Nat.zero_le _,Nat.zero_le _,fun _ _=>Nat.zero_le _⟩,⟨rfl,rfl,rfl⟩,
  rfl⟩,run.profile.pages_bounds.1⟩

lemma starting_inv (inv:w.Inv){request:Request}{profile:SupplierSearchProfile}
 (there:w.calls call=.starting request profile) :
 w.Leads call (.starting request profile) (advance env w call input):=by
 have holds:=inv.holds call
 unfold advance
 rw[there] at holds ⊢
 dsimp only
 cases is:w.books.startRun call request.runId ⟨request.evaluationId,profile,input.now⟩ with
 | none=>exact inv.went trivial (.idle rfl)
 | some books =>
  obtain ⟨kept,later,owns,spent⟩:=inv.books.started is holds
  exact inv.wrote kept later (obtained_holds owns spent) (.idle rfl)

lemma claiming_inv (inv:w.Inv)(there:w.calls call=.claiming runId) :
 w.Leads call (.claiming runId) (advance env w call input):=by
 have holds:=inv.holds call
 unfold advance
 rw[there] at holds ⊢
 dsimp only
 cases is:w.books.claimRecovery call runId with
 | none=>exact inv.went trivial (.idle rfl)
 | some result =>
  obtain ⟨run,books⟩:=result
  obtain ⟨kept,later,owns,spent⟩:=inv.books.claimed is holds
  exact inv.wrote kept later (obtained_holds owns spent) (.idle rfl)

lemma requesting_inv (inv:w.Inv)(there:w.calls call=.requesting runId l) :
 w.Leads call (.requesting runId l) (advance env w call input):=by
 have holds:=inv.holds call
 unfold advance
 rw[there] at holds ⊢
 obtain ⟨run,executes,less⟩:=holds
 dsimp only
 split
 · refine inv.wrote (inv.books.requested executes.owns ?_) .requested ⟨run,?_⟩
    (.on rfl rfl (Nat.lt_succ_self _))
   · rw[executes.spent.pages]
     exact less
   · exact ⟨executes.owns,executes.spent.requested,
      ⟨less,executes.fits.accepted,executes.fits.families⟩,executes.alike,executes.first⟩
 · exact inv.went ⟨run,executes.owns,executes.fits⟩ (.on rfl rfl (Nat.succ_pos _))

lemma turn_nearer {before:Phase}(last:totalPages≤l.pageNumber)
 (owns:before.owned?=some runId)(more:0<before.away) :
 tasks.Nearer before (l.turn runId totalPages):=by
 rw[Locals.turn,if_pos (.inr last)]
 exact .on owns rfl more

lemma turn_holds (executes:b.Executes call runId run l) : b.Holds call (l.turn runId 1):=by
 rw[Locals.turn,if_pos (.inr executes.first.ge)]
 exact ⟨run,executes.owns,executes.fits⟩

lemma next_holds (executes:b.Executes call runId run l)
 {page:Page}(single:page.totalPages=1)(few:page.candidates.length≤300)
 (narrows:l.profile.searchTooBroadThreshold<page.totalEntries →
  l.profile.narrowingLevel<2→l.counters.pagesRequested<l.profile.maxPages) :
 b.Holds call (l.next runId page):=by
 have bounds:=narrow_bounds l.profile
 have fits:Fits run (l.counters.returned page):=
  ⟨executes.fits.pages,executes.fits.accepted,executes.fits.families⟩
 have spent:b.Spent call (l.counters.returned page):=
  ⟨executes.spent.pages,executes.spent.accepted,executes.spent.families⟩
 unfold Locals.next
 split
 · exact ⟨run,executes.owns,executes.fits⟩
 · split
   · rename_i broad
     split
     · rename_i narrow
       refine ⟨run,⟨executes.owns,spent,fits,⟨?_,?_,?_⟩,rfl⟩,?_⟩
       · exact bounds.1.trans executes.alike.pages
       · exact bounds.2.1.trans executes.alike.cap
       · exact bounds.2.2.1.trans executes.alike.keys
       · rw[←executes.alike.pages]
         rcases broad with broad|limited
         · exact narrows broad narrow.2
         · exact absurd limited narrow.1
     · exact ⟨run,executes.owns,fits⟩
   · split
     · exact ⟨run,executes.owns,fits⟩
     · exact ⟨run,⟨executes.owns,⟨spent.pages,spent.accepted,spent.families⟩,
        ⟨fits.pages,fits.accepted,fits.families⟩,executes.alike,executes.first⟩,single,few⟩

lemma next_nearer {page:Page}(few:page.candidates.length≤300) :
 tasks.Nearer (.searching runId l) (l.next runId page):=by
 have finishes:∀outcome,tasks.Nearer (.searching runId l) (.finishing runId outcome):=
  fun _=>.on rfl rfl (Nat.succ_pos _)
 unfold Locals.next
 split
 · exact finishes _
 · split
   · split
     · rename_i narrow
       refine .on rfl rfl ?_
       change 2*(2-(SireneSearch.narrow l.profile).narrowingLevel)+303 <
        2*(2-l.profile.narrowingLevel)+302
       rw[narrow_level narrow.2]
       omega
     · exact finishes _
   · split
     · exact finishes _
     · refine .on rfl rfl ?_
       change page.candidates.length+1<2*(2-l.profile.narrowingLevel)+302
       omega

lemma searching_inv (inv:w.Inv)(there:w.calls call=.searching runId l)
 (safe:(Phase.searching runId l).Safe env input) :
 w.Leads call (.searching runId l) (advance env w call input):=by
 have holds:=inv.holds call
 unfold advance
 rw[there] at holds ⊢
 obtain ⟨run,executes⟩:=holds
 unfold Phase.Safe at safe
 dsimp only at safe ⊢
 split at safe
 · rename_i page answered
   rw[answered]
   obtain ⟨single,-,-,-,few⟩:=searchPage_page answered
   exact inv.went (next_holds executes single few safe) (next_nearer few)
 · exact safe.elim

lemma refusal_none (resolves:l.refusal candidate=none)
 (alike:Alike run l.profile)(family:String)(is:candidate.family=some family)
 (requested:family∈run.profile.supplierFamilyKeys) :
 l.counters.familyTargets.count family<25:=by
 unfold Locals.refusal at resolves
 split at resolves
 · cases resolves
 · rename_i unfilled
   rw[←alike.keys] at requested
   by_contra filled
   refine unfilled ?_
   rw[is]
   simpa[requested] using filled

lemma accept_inv (inv:w.Inv)(executes:w.books.Executes call runId run l)(few:rest.length≤300)
 (safe:env.hasResolver=true→input.resolution≠.raises) :
 w.Leads call (.accepting runId l 1 (candidate::rest))
  (w.accept env call runId l 1 candidate rest input):=by
 have passes:∀reason,w.books.Holds call
   (.accepting runId {l with counters:=l.counters.rejected reason} 1 rest):=fun reason=>
  ⟨run,⟨executes.owns,⟨executes.spent.pages,executes.spent.accepted,
   executes.spent.families⟩,⟨executes.fits.pages,executes.fits.accepted,
   executes.fits.families⟩,executes.alike,executes.first⟩,rfl,few⟩
 have on:∀{l'},tasks.Nearer (.accepting runId l 1 (candidate::rest))
   (.accepting runId l' 1 rest):=.on rfl rfl (Nat.lt_succ_self _)
 unfold World.accept
 split
 · exact inv.went (turn_holds executes) (turn_nearer executes.first.ge rfl (Nat.succ_pos _))
 · rename_i room
   cases refused:l.refusal candidate with
   | some reason=>exact inv.went (passes reason) on
   | none =>
    dsimp only
    split
    · rename_i raised
      split at raised
      · rename_i resolver
        exact absurd raised (safe resolver)
      · cases raised
    · exact inv.went (passes _) on
    · cases is:w.books.persistCandidate l.profile candidate input.stored with
      | none=>exact inv.went ⟨run,executes.owns,executes.fits⟩ (.on rfl rfl (Nat.succ_pos _))
      | some result =>
       obtain ⟨supplierCreated,opportunityCreated,books⟩:=result
       obtain ⟨suppliers,opportunities,identities,rfl⟩:=
        Books.persistCandidate_some is inv.books.identities
       have less:l.counters.recordsAccepted<run.profile.candidateCap:=by
        rw[←executes.alike.cap]
        exact Nat.lt_of_not_le room
       have fewer:=refusal_none refused executes.alike
       refine inv.wrote (inv.books.accepted_one executes.owns executes.spent identities less
        fewer) .accepted_one ⟨run,?_,rfl,few⟩ on
       exact ⟨⟨executes.owns.row,executes.owns.granted,executes.owns.held⟩,executes.spent.accepted_one,
        executes.fits.accepted_one less fewer,executes.alike,executes.first⟩

lemma finishing_inv (inv:w.Inv){outcome:Outcome} (there:w.calls call=.finishing runId outcome) :
 w.Leads call (.finishing runId outcome) (advance env w call input):=by
 have holds:=inv.holds call
 unfold advance
 rw[there] at holds ⊢
 obtain ⟨run,owns,fits⟩:=holds
 dsimp only
 cases is:w.books.finishRun runId outcome with
 | none =>
  have closed:w.books.Holds call (.left (some runId)):=inv.books.closed_of_unfinished owns is
  exact inv.went closed (.ends rfl (.inl rfl))
 | some books =>
  obtain ⟨kept,later,closed⟩:=inv.books.finished is owns fits
  exact inv.wrote kept later closed (.ends rfl (.inl rfl))

lemma advance_inv (inv:w.Inv)(safe:w.Safe env (.advance call input)) :
 w.Leads call (w.calls call) (advance env w call input):=by
 have holds:=inv.holds call
 unfold World.Safe at safe
 dsimp only at safe
 cases there:w.calls call with
 | absent | left | dead=>unfold advance;rw[there];exact inv.stays rfl
 | resolving request =>
  unfold advance
  rw[there] at holds ⊢
  cases input.profile with
  | none=>exact inv.went trivial (.idle rfl)
  | some profile =>
   dsimp only
   split
   · exact inv.went holds (.idle rfl)
   · exact inv.went trivial (.idle rfl)
 | evaluating request profile=>exact evaluating_inv inv there
 | starting request profile=>exact starting_inv inv there
 | loading runId =>
  unfold advance
  rw[there] at holds ⊢
  dsimp only
  cases w.books.runs.row? runId with
  | none=>exact inv.went trivial (.idle rfl)
  | some row =>
   dsimp only
   split
   · exact inv.went holds (.idle rfl)
   · exact inv.went trivial (.idle rfl)
 | authorizing runId =>
  unfold advance
  rw[there] at holds ⊢
  dsimp only
  split
  · exact inv.went holds (.idle rfl)
  · exact inv.went trivial (.idle rfl)
 | claiming runId=>exact claiming_inv inv there
 | requesting runId l=>exact requesting_inv inv there
 | searching runId l =>
  rw[there] at safe
  exact searching_inv inv there safe
 | accepting runId l totalPages rest =>
  unfold advance
  rw[there] at holds safe ⊢
  obtain ⟨run,executes,rfl,few⟩:=holds
  cases rest with
  | nil=>exact inv.went (turn_holds executes) (turn_nearer executes.first.ge rfl Nat.one_pos)
  | cons candidate rest =>
   have fewer:rest.length≤300:=Nat.le_of_succ_le few
   exact accept_inv inv executes fewer safe
 | finishing runId outcome=>exact finishing_inv inv there

lemma begin_moves (inv:w.Inv){phase:Phase}{op:Op}(none:∀other,op.advances other=false)
 (idle:w.books.runs.Idle call→w.books.Holds call phase):w.Moves op (w.begin call phase):=by
 unfold World.begin
 split
 · rename_i free
   have holds:=inv.holds call
   rw[free] at holds
   have begun:w.Leads call .absent (w.goto call phase):=inv.went (idle holds) (.idle rfl)
   exact begun.begins free none
 · exact .idle inv (.refl w) rfl none

lemma step_moves (inv:w.Inv){op:Op}(safe:w.Safe env op):w.Moves op (step env w op):=by
 cases op with
 | discover call request =>
  have idle:w.books.runs.Idle call→w.books.Holds call (.resolving request):=id
  exact begin_moves inv (fun _=>rfl) idle
 | resumeStarted call runId =>
  have idle:w.books.runs.Idle call→w.books.Holds call (.loading runId):=id
  exact begin_moves inv (fun _=>rfl) idle
 | advance call input=>exact (advance_inv inv safe).moves fun _=>beq_iff_eq
 | crash call =>
  unfold step
  dsimp only
  have dies:w.Leads call .absent (w.goto call .dead):=inv.went trivial (.idle rfl)
  split
  · exact .idle inv (.refl w) rfl fun _=>rfl
  · exact .idle inv (.refl w) rfl fun _=>rfl
  · exact dies.dies (Function.update_self ..) fun _=>rfl

lemma progresses (env:Env):tasks.Progresses World.calls Op.advances World.Inv World.Keeps
 (step env) (World.Safe env) where
 moves:=fun inv safe=>step_moves inv safe
 still:=by
  intro w op call runId mine ended
  cases op with
  | advance other input =>
   obtain rfl:other=call:=by simpa[Op.advances] using mine
   change advance env w other input=w
   unfold advance
   rcases ended with is|is <;> rw[is]
  | _=>cases mine

end

lemma away_lt (phase:Phase)(few:∀runId l totalPages rest,
 phase=.accepting runId l totalPages rest → rest.length≤300):phase.away<308:=by
 cases phase with
 | requesting runId l =>
  change 2*(2-l.profile.narrowingLevel)+303<308
  omega
 | searching runId l =>
  change 2*(2-l.profile.narrowingLevel)+302<308
  omega
 | accepting runId l totalPages rest =>
  have:=few runId l totalPages rest rfl
  change rest.length+1<308
  omega
 | _=>exact Nat.succ_pos 307

lemma World.Inv.ends {env:Env}{w:World}(inv:w.Inv){ops:List Op}
 (safe:Runs.Along (step env) (World.Safe env) w ops):Ends env 308 w ops:=by
 intro call runId owned given
 refine (progresses env).ends inv safe owned (Nat.lt_of_lt_of_le (away_lt _ ?_) given)
 intro other l totalPages rest is
 have holds:=inv.holds call
 rw[is] at holds
 obtain ⟨run,-,-,few⟩:=holds
 exact few

lemma World.Inv.consistent {w:World}(inv:w.Inv):w.Consistent where
 closes:=by
  intro call runId is
  have holds:=inv.holds call
  rw[is] at holds
  exact holds
 recorded:=inv.books.recorded
 pagesEach:=fun run mem call=>inv.books.pages.each inv.books.runs mem call
 acceptedEach:=fun run mem call=>inv.books.accepted.each inv.books.runs mem call
 familiesEach:=by
  intro run mem call family requested
  have each:=(inv.books.families family).each inv.books.runs mem call
  rwa[familyCap,if_pos requested] at each
 pages:=fun run mem=>inv.books.pages.total inv.books.runs mem
 accepted:=fun run mem=>inv.books.accepted.total inv.books.runs mem
 families:=by
  intro run mem family requested
  have total:=(inv.books.families family).total inv.books.runs mem
  rwa[familyCap,if_pos requested] at total
 opportunities:=by
  intro signalRef supplierRef
  have same:w.books.opportunities.countP (fun opportunity=>
    opportunity.signalRef=signalRef ∧ opportunity.supplierRef=supplierRef) ≤
    (w.books.opportunities.map (·.identityKey)).count (identityFor signalRef supplierRef):=by
   rw[List.count,List.countP_map]
   refine List.countP_mono_left fun opportunity _ is=>?_
   obtain ⟨rfl,rfl⟩:=of_decide_eq_true is
   exact beq_self_eq_true _
  exact same.trans (List.nodup_iff_count_le_one.mp inv.books.identities _)

def World.start (suppliers:List SupplierUpserts.Ref)(opportunities:List Opportunity) : World where
 books:=⟨[],⟨[],[]⟩,suppliers,opportunities,[],[]⟩
 calls:=fun _=>.absent

lemma start_inv (suppliers:List SupplierUpserts.Ref){opportunities:List Opportunity}
 (identities:(opportunities.map (·.identityKey)).Nodup) :
 (World.start suppliers opportunities).Inv where
 books:=by
  constructor
  case runs=>exact .empty
  case identities=>exact identities
  case pages=>exact Ledger.within_nil
  case accepted=>exact Ledger.within_nil
  case families=>exact fun _=>Ledger.within_nil
  case recorded=>exact fun _ mem=>by cases mem
 holds:=fun call owner mem=>by cases mem

theorem discoveries_end (env:Env)(suppliers:List SupplierUpserts.Ref)
 (opportunities:List Opportunity)(ops:List Op)
 (identities:(opportunities.map (·.identityKey)).Nodup)
 (safe:Runs.Along (step env) (World.Safe env) (World.start suppliers opportunities) ops) :
 ∀done,done <+: ops →(done.foldl (step env) (World.start suppliers opportunities)).Consistent ∧
   ∀earlier later,earlier++later=done →
    (earlier.foldl (step env) (World.start suppliers opportunities)).Keeps
      (done.foldl (step env) (World.start suppliers opportunities)) ∧
     Ends env 308 (earlier.foldl (step env) (World.start suppliers opportunities)) later:=by
 intro done here
 have start:=start_inv suppliers identities
 obtain ⟨inv,rest⟩:=(progresses env).run World.Keeps.refl World.Keeps.trans start safe here
 refine ⟨inv.consistent,fun earlier later is=>?_⟩
 obtain ⟨keeps,inv,safe⟩:=rest earlier later is
 exact ⟨keeps,inv.ends safe⟩

def sampleTexts:Texts where
 casefold:=fun text=>String.ofList (text.toList.map Char.toLower)
 isAlpha:=Char.isAlpha
 isDigit:=Char.isDigit

def sampleFamilies:List SupplierFamily:=
 [⟨"concrete",["23.63Z"]⟩,⟨"steel",["24.10Z"]⟩,⟨"masonry",["43.99C"]⟩,
  ⟨"roofing",["43.91B"]⟩,⟨"carpentry",["43.91A"]⟩]

def sampleEnv:Env:=⟨sampleTexts,sampleFamilies,true⟩

def sampleProfile:SupplierSearchProfile:=
 ⟨"procurement-opportunity:key",["materials_or_components"],[],["building materials"],
  sampleFamilies.flatMap (·.nafCodes),["75"],sampleFamilies.map (·.key),[],[],1,100,100,
  100,0,by decide,by decide,by decide⟩

def sampleItem (name naf:String)(siren:ℕ):Item:=
 let establishment:Establishment:=⟨"A",naf,"75","75001","12","","Paris",""⟩
 ⟨some [some establishment],name,"",toString siren,naf,"12",""⟩

/-- The register answers each family with `n` companies on one page. -/
def registered (n:ℕ):List (List Response):=sampleFamilies.zipIdx.map fun (family,i)=>
  [.answer 200 1000 (some ⟨some ((List.range n).map fun j=>
   some (sampleItem "Alpha" (family.nafCodes.headD "") (100000000+1000*i+j))),none⟩)]

def answers (responses:List (List Response)):Input:=
 {profile:=some sampleProfile,surroundings:={responses}}

def discovered (input:Input)(n:ℕ):List Op:=
 .discover 0 ⟨"key","evaluation","run",0⟩::List.replicate n (.advance 0 input)

def ended (input:Input)(n:ℕ):World:=(discovered input n).foldl (step sampleEnv) (.start [] [])

def unavailable:World:=ended (answers [[.answer 503 0 none]]) 6

def exhausted:World:=(discovered (answers [[.answer 503 0 none]]) 6++Op.resumeStarted 1 "run" ::
  List.replicate 5 (Op.advance 1 (answers [[.answer 503 0 none]]))).foldl (step sampleEnv)
  (.start [] [])

/-- A failure of the register leaves the run open, also where its recovery is used up. -/
theorem discoveries_stay_open : (unavailable.calls 0=.left (some "run") ∧ ¬unavailable.Consistent) ∧
  exhausted.calls 1=.left (some "run") ∧
  exhausted.books.runs.rows.map (fun run=>(run.recovered,run.outcome))=[(true,none)]:=by
 have left':unavailable.calls 0=.left (some "run"):=by decide +kernel
 refine ⟨⟨left',fun consistent=>?_⟩,?_,?_⟩
 · obtain ⟨run,mem,-,closed⟩:=consistent.closes 0 "run" left'
   have open':unavailable.books.runs.rows.all (·.outcome.isNone)=true:=by decide +kernel
   rw[Option.isNone_iff_eq_none.mp (List.all_eq_true.mp open' run mem)] at closed
   cases closed
 · decide +kernel
 · decide +kernel

def recovered:List Op:=discovered (answers (registered 1)) 5++[.crash 0,.resumeStarted 1 "run"] ++
  List.replicate 12 (.advance 1 (answers (registered 1)))

theorem discoveries_end_sample : (recovered.foldl (step sampleEnv) (World.start [] [])).Consistent ∧
  Ends sampleEnv 308 (World.start [] []) recovered:=by
 obtain ⟨consistent,ends⟩:=discoveries_end sampleEnv [] [] recovered List.nodup_nil
  (by decide +kernel) recovered (List.prefix_refl recovered)
 exact ⟨consistent,(ends [] recovered rfl).2⟩

end Kivou.SupplierDiscovery
