import Kivou.ContactDiscoveryBooks
import Kivou.OwnSteps

set_option autoImplicit false

/-! Where a directory contact is one of the organization that the run was authorised for, and where
no answer leaves its contract, each call closes the run that it obtained, within fourteen statements
of its own, and raises at most because another call has closed it. -/
namespace Kivou.ContactDiscovery
open AcquisitionContracts RunLedger

structure World.Consistent (w:World):Prop where
 /-- At most one contact is attached. -/
 once:w.books.stream.countP Event.isSelected≤1
 current:∀runId ref,.contactSelected runId ref∈w.books.stream →
  w.books.opportunity.contactRef=some ref
 selected:∀run∈w.books.runs.rows,Run.Succeeded run ↔ ∃ref,.contactSelected run.id ref∈w.books.stream
 enriching:∀run∈w.books.runs.rows,Run.Succeeded run ↔ .contactEnriching run.id∈w.books.stream
 nextAction:∀run∈w.books.runs.rows,Run.Succeeded run ↔ .contactNextAction run.id∈w.books.stream
 searches:∀runId,w.books.searches.countP (·.2=runId)≤2
 enrichments:∀run∈w.books.runs.rows,
  w.books.enrichments.countP (·.2=run.id)≤2*run.start.profile.maxEnrichmentAttempts
 attached:∀run∈w.books.runs.rows,∀ref,.contactSelected run.id ref∈w.books.stream →
  w.books.Attached ref run.start
 /-- A call that obtained a run and did not die leaves it closed. -/
 closes:∀call runId,w.calls call=.returned runId ∨ w.calls call=.raised runId →
  w.books.runs.Closed runId
 /-- It raises at most where another call has the run too. -/
 raises:∀call runId,w.calls call=.raised runId →
  ∃other,other≠call ∧ (other,runId)∈w.books.runs.owners

/-- The closed runs of `w` are as they are in `w'`. -/
def World.Keeps (w w':World):Prop:=
 ∀run∈w.books.runs.rows,run.outcome.isSome → run∈w'.books.runs.rows

lemma World.Keeps.refl (w:World):w.Keeps w:=fun _ mem _=>mem

lemma World.Keeps.trans {w w' w'':World}(first:w.Keeps w')(second:w'.Keeps w'') :
 w.Keeps w'':=
 fun run mem ended=>second run (first run mem ended) ended

def Phase.owned?:Phase→Option String
 | .executing runId _ | .searching runId _ | .searched runId _ | .enriching runId _ _ _
 | .enriched runId _ _ _ _ | .fallingBack runId _ _ _ | .committing runId _ _ _
 | .completing runId _ _ _ | .remembering runId _ | .failing runId _ _=>some runId
 | _=>none

def Phase.Over (runId:String)(phase:Phase):Prop:=
 phase=.returned runId ∨ phase=.raised runId ∨ phase=.dead

def Op.advances (call:ℕ):Op→Bool
 | .advance other _=>other==call
 | _=>false

/-- A call that executes a run has returned, raised or died as soon as it was given `n` more
statements. -/
def Ends (env:Env)(n:ℕ)(w:World)(ops:List Op):Prop:=∀call runId,(w.calls call).owned?=some runId →
  n≤ops.countP (·.advances call)→((ops.foldl (step env) w).calls call).Over runId

def directoryAnswer (env:Env)(run:RunStart)(input:Input) : Except Unit (Option ContactObservation):=
 directoryContact env.texts run.profile run.supplierRef
  (if env.hasDirectory ∧ truthy run.profile.supplierSiren then input.fresh else none) input.now

def DirectoryFits (env:Env)(run:RunStart)(input:Input):Prop:=
 ∃found,directoryAnswer env run input=.ok found ∧
  ∀observation,found=some observation → observation.provider=.apollo →
   observation.providerOrganizationId=run.profile.providerOrganizationId

def PageFits:Answer SearchPage→Prop
 | .value page=>page.totalEntries≤2147483647
 | .failure _=>True
 | .raises=>False

def Phase.Safe (env:Env)(input:Input):Phase→Prop
 | .executing _ run=>DirectoryFits env run input
 | .searched _ _=>PageFits input.page
 | .enriching _ run (candidate::_) _ =>
  contactRefFor .apollo candidate.candidate.providerPersonId run.supplierRef≠none
 | .enriched _ _ _ _ _=>input.person≠.raises
 | .committing _ _ observation _=>observation.ref≠none
 | .remembering _ _=>env.hasDirectory=true→input.remembered.isNone
 | _=>True

def World.Safe (env:Env)(w:World):Op→Prop
 | .advance call input=>(w.calls call).Safe env input
 | _=>True

instance (env:Env)(run:RunStart)(input:Input):Decidable (DirectoryFits env run input):=
 match is:directoryAnswer env run input with
 | .error ()=>.isFalse fun ⟨_,answer,_⟩=>by rw[is] at answer;cases answer
 | .ok found=>decidable_of_iff (∀observation∈found,observation.provider=.apollo →
    observation.providerOrganizationId=run.profile.providerOrganizationId)
   ⟨fun employs=>⟨found,is,employs⟩,fun ⟨_,answer,employs⟩=>by
    rw[is] at answer
    exact Except.ok.inj answer ▸ employs⟩

instance:(answer:Answer SearchPage)→Decidable (PageFits answer)
 | .value page=>inferInstanceAs (Decidable (page.totalEntries≤2147483647))
 | .failure _=>.isTrue trivial
 | .raises=>.isFalse id

instance (env:Env)(input:Input)(phase:Phase):Decidable (phase.Safe env input):=by
 unfold Phase.Safe
 split <;> infer_instance

instance (env:Env)(w:World):(op:Op)→Decidable (w.Safe env op)
 | .advance call input=>inferInstanceAs (Decidable ((w.calls call).Safe env input))
 | .bind _ _ | .upsert _ | .find _ _ | .resumeStarted _ _ | .crash _=>.isTrue trivial

namespace Books

def Holds (b:Books)(call:ℕ):Phase→Prop
 | .absent | .findingRun _ | .findingEvaluation _ | .readingOpportunity _ | .readingBinding _ _
 | .requeueing _ _ _ _ | .evaluating _ _ _ _ | .starting _ _ _ _ | .loading _ | .authorizing _
 | .claiming _=>b.runs.Idle call
 | .executing runId run | .searching runId run =>
  b.runs.Owns call runId run ∧ b.searches.countP (·.1=call)=0 ∧ b.enrichments.countP (·.1=call)=0
 | .searched runId run=>b.runs.Owns call runId run ∧ b.enrichments.countP (·.1=call)=0
 | .enriching runId run ranked counters | .enriched runId run _ ranked counters =>
  b.runs.Owns call runId run ∧ counters.fit=true ∧
   b.enrichments.countP (·.1=call)+ranked.length≤run.profile.maxEnrichmentAttempts
 | .fallingBack runId run counters status | .completing runId run counters status =>
  b.runs.Owns call runId run ∧ counters.fit=true ∧ status≠.success
 | .committing runId run observation counters =>
  b.runs.Owns call runId run ∧ counters.fit=true ∧ (observation.provider=.apollo →
    observation.providerOrganizationId=run.profile.providerOrganizationId)
 | .failing runId counters _=>(∃run,b.runs.Owns call runId run) ∧ counters.fit=true
 | .remembering runId _ | .returned runId=>b.runs.Closed runId
 | .raised runId=>b.runs.Closed runId ∧ ∃other,other≠call ∧ (other,runId)∈b.runs.owners
 | .left | .dead=>True

variable {b b':Books}{call other:ℕ}

lemma Holds.later {phase:Phase}(holds:b.Holds other phase)(later:b.Later call b')
 (apart:other≠call):b'.Holds other phase:=by
 have searches:=later.searches other apart
 have enrichments:=later.enrichments other apart
 cases phase with
 | executing | searching =>
  exact ⟨holds.1.later later.runs apart,searches.trans holds.2.1,enrichments.trans holds.2.2⟩
 | searched runId run=>exact ⟨holds.1.later later.runs apart,enrichments.trans holds.2⟩
 | enriching | enriched =>exact ⟨holds.1.later later.runs apart,holds.2.1,enrichments ▸ holds.2.2⟩
 | fallingBack | completing | committing=>exact ⟨holds.1.later later.runs apart,holds.2⟩
 | failing runId counters error =>
  obtain ⟨⟨run,owns⟩,fit⟩:=holds
  exact ⟨⟨run,owns.later later.runs apart⟩,fit⟩
 | remembering | returned=>exact Ledger.Closed.later holds later.runs
 | raised runId =>
  obtain ⟨closed,third,differs,mem⟩:=holds
  exact ⟨closed.later later.runs,third,differs,later.runs.owners _ mem⟩
 | left | dead=>trivial
 | _=>exact Ledger.Idle.later holds later.runs apart

end Books

structure World.Inv (w:World):Prop where
 books:w.books.Inv
 holds:∀call,w.books.Holds call (w.calls call)

def Phase.away:Phase→ℕ
 | .executing _ run=>2*run.profile.maxEnrichmentAttempts+7
 | .searching _ run=>2*run.profile.maxEnrichmentAttempts+6
 | .searched _ run=>2*run.profile.maxEnrichmentAttempts+5
 | .enriching _ _ ranked _=>2*ranked.length+4
 | .enriched _ _ _ ranked _=>2*ranked.length+5
 | .fallingBack _ _ _ _=>3
 | .committing _ _ _ _=>2
 | .completing _ _ _ _ | .remembering _ _=>1
 | _=>0

def tasks:OwnSteps.Tasks Phase String where
 absent:=.absent
 dead:=.dead
 task?:=Phase.owned?
 away:=Phase.away
 Over:=Phase.Over
 absent_idle:=rfl
 absent_fresh:=by simp[Phase.Over]
 dead_over:=by simp[Phase.Over]

/-- What a statement of `call` does, which had `before` before it. -/
abbrev World.Leads:World→ℕ→Phase→World→Prop:=tasks.Leads World.calls World.Inv World.Keeps

abbrev World.Moves:World→Op→World→Prop:=tasks.Moves World.calls Op.advances World.Inv World.Keeps

namespace World
variable {w:World}{call:ℕ}{before phase:Phase}

lemma Inv.went (inv:w.Inv)(holds:w.books.Holds call phase)
 (nearer:tasks.Nearer before phase):w.Leads call before (w.goto call phase) where
 inv:=⟨inv.books,(Function.forall_update_iff _ _).mpr ⟨holds,fun other _=>inv.holds other⟩⟩
 keeps:=fun _ mem _=>mem
 apart:=fun _ apart=>Function.update_of_ne apart ..
 nearer:=by
  rw[show (w.goto call phase).calls call=phase from Function.update_self ..]
  exact nearer

lemma Inv.wrote (inv:w.Inv){books:Books}(kept:books.Inv)
 (later:w.books.Later call books)(holds:books.Holds call phase)
 (nearer:tasks.Nearer before phase):w.Leads call before (w.put call books phase) where
 inv:=⟨kept,(Function.forall_update_iff _ _).mpr
  ⟨holds,fun other apart=>(inv.holds other).later later apart⟩⟩
 keeps:=fun _ mem outcome=>later.runs.keeps mem outcome
 apart:=fun _ apart=>Function.update_of_ne apart ..
 nearer:=by
  rw[show (w.put call books phase).calls call=phase from Function.update_self ..]
  exact nearer

lemma Inv.stays (inv:w.Inv)(none:before.owned?=none):w.Leads call before w:=
 ⟨inv,.refl w,fun _ _=>rfl,.idle none⟩

end World

section
variable {env:Env}{w:World}{call:ℕ}{input:Input}{runId:String}{run:RunStart}

variable {request:Request}{supplierRef:String}{profile:SearchProfile}{counters:Counters}
 {texts:Texts}{observation:ContactObservation}

lemma requeueing_inv (inv:w.Inv){opportunity:Opportunity}
 (there:w.calls call=.requeueing request opportunity supplierRef profile) :
 w.Leads call (.requeueing request opportunity supplierRef profile) (advance env w call input):=by
 have holds:=inv.holds call
 unfold advance
 rw[there] at holds ⊢
 have go:∀ {books:Books}(current:Opportunity),books.runs=w.books.runs →
   books.Holds call (if current.isActionable then
    .evaluating request supplierRef profile current.streamVersion else .left):=by
  intro books current same
  split
  · change books.runs.Idle call
    rw[same]
    exact holds
  · trivial
 cases env.profileUpgradeRequeue with
 | none=>exact inv.went (go _ rfl) (.idle rfl)
 | some versions =>
  dsimp only
  split
  · split
    · cases is:w.books.requeueProfileUpgrade env versions.1 profile with
      | none=>exact inv.went trivial (.idle rfl)
      | some result =>
       obtain ⟨current,books⟩:=result
       obtain ⟨opportunity,stream,rfl,aside⟩:=Books.requeueProfileUpgrade_some is
       exact inv.wrote (inv.books.aside aside) (.aside call) (go _ rfl) (.idle rfl)
    · exact inv.went trivial (.idle rfl)
  · exact inv.went (go _ rfl) (.idle rfl)

lemma evaluating_inv (inv:w.Inv){streamVersion:ℕ}
 (there:w.calls call=.evaluating request supplierRef profile streamVersion) :
 w.Leads call (.evaluating request supplierRef profile streamVersion) (advance env w call input):=by
 have holds:=inv.holds call
 unfold advance
 rw[there] at holds ⊢
 dsimp only
 cases is:w.books.evaluate ⟨request.evaluationId,profile,streamVersion,
  (request.terms,input.terms),input.executable⟩ with
 | none=>exact inv.went trivial (.idle rfl)
 | some result =>
  obtain ⟨evaluation,books⟩:=result
  obtain ⟨opportunity,stream,evaluations,rfl,aside⟩:=Books.evaluate_some is
  dsimp only
  split
  · exact inv.wrote (inv.books.aside aside) (.aside call) holds (.idle rfl)
  · exact inv.wrote (inv.books.aside aside) (.aside call) trivial (.idle rfl)

lemma obtained_holds (inv:w.books.Inv)(idle:w.books.runs.Idle call){books:Books}
 (owns:books.runs.Owns call runId run)(searches:books.searches=w.books.searches)
 (enrichments:books.enrichments=w.books.enrichments) :
 books.Holds call (.executing runId run):=
 ⟨owns,searches ▸ inv.searches.unspent idle,enrichments ▸ inv.enrichments.unspent idle⟩

lemma starting_inv (inv:w.Inv){streamVersion:ℕ}
 (there:w.calls call=.starting request supplierRef profile streamVersion) :
 w.Leads call (.starting request supplierRef profile streamVersion) (advance env w call input):=by
 have holds:=inv.holds call
 unfold advance
 rw[there] at holds ⊢
 dsimp only
 cases is:w.books.startRun call request.runId
  ⟨supplierRef,request.evaluationId,profile,streamVersion+1,input.now⟩ with
 | none=>exact inv.went trivial (.idle rfl)
 | some books =>
  obtain ⟨kept,later,owns⟩:=inv.books.started is holds
  obtain ⟨-,rfl⟩:=Books.startRun_some is
  exact inv.wrote kept later (obtained_holds inv.books holds owns rfl rfl) (.idle rfl)

lemma claiming_inv (inv:w.Inv)(there:w.calls call=.claiming runId) : w.Leads call (.claiming runId)
  (advance env w call input):=by
 have holds:=inv.holds call
 unfold advance
 rw[there] at holds ⊢
 dsimp only
 cases is:w.books.claimRecovery call runId with
 | none=>exact inv.went trivial (.idle rfl)
 | some result =>
  obtain ⟨run,books⟩:=result
  obtain ⟨kept,later,owns⟩:=inv.books.claimed is holds
  obtain ⟨claim,-,same⟩:=Option.map_eq_some_iff.mp is
  obtain ⟨rfl,rfl⟩:=Prod.mk.inj same
  exact inv.wrote kept later (obtained_holds inv.books holds owns rfl rfl) (.idle rfl)

lemma executing_inv (inv:w.Inv)(there:w.calls call=.executing runId run)
 (fits:DirectoryFits env run input) :
 w.Leads call (.executing runId run) (advance env w call input):=by
 have holds:=inv.holds call
 unfold advance
 rw[there] at holds ⊢
 obtain ⟨found,answer,employs⟩:=fits
 unfold directoryAnswer at answer
 dsimp only
 rw[answer]
 cases found with
 | none =>
  dsimp only
  split
  · exact inv.went ⟨holds.1,rfl,by decide⟩ (.on rfl rfl (Nat.le_add_left 4 _))
  · exact inv.went holds (.on rfl rfl (Nat.lt_succ_self _))
 | some observation =>
  exact inv.went ⟨holds.1,rfl,employs observation rfl⟩
   (.on rfl rfl (Nat.lt_add_left _ (Nat.le_of_ble_eq_true rfl)))

lemma next_holds {b:Books}(owns:b.runs.Owns call runId run)
 (unenriched:b.enrichments.countP (·.1=call)=0){page:SearchPage}
 (fits:page.totalEntries≤2147483647):b.Holds call (page.next env runId run):=by
 have fit:page.counters.fit=true:=by
  simpa[SearchPage.counters,Counters.fit] using fits
 unfold SearchPage.next
 split
 · exact ⟨⟨run,owns⟩,fit⟩
 · split
   · exact ⟨owns,fit,by decide⟩
   · dsimp only
     split
     · exact ⟨owns,fit,by decide⟩
     · refine ⟨owns,fit,?_⟩
       rw[unenriched,List.length_take]
       omega

lemma next_nearer (page:SearchPage) :
 tasks.Nearer (.searched runId run) (page.next env runId run):=by
 unfold SearchPage.next
 split
 · exact .on rfl rfl (Nat.succ_pos _)
 · split
   · exact .on rfl rfl (Nat.lt_add_left _ (Nat.le_of_ble_eq_true rfl))
   · dsimp only
     split
     · exact .on rfl rfl (Nat.lt_add_left _ (Nat.le_of_ble_eq_true rfl))
     · refine .on rfl rfl ?_
       change 2*(List.take _ _).length+4<2*run.profile.maxEnrichmentAttempts+5
       rw[List.length_take]
       omega

lemma searched_inv (inv:w.Inv)(there:w.calls call=.searched runId run) (fits:PageFits input.page) :
 w.Leads call (.searched runId run) (advance env w call input):=by
 have holds:=inv.holds call
 unfold advance
 rw[there] at holds ⊢
 cases is:input.page with
 | raises =>
  rw[is] at fits
  exact fits.elim
 | failure category=>exact inv.went ⟨⟨run,holds.1⟩,rfl⟩ (.on rfl rfl (Nat.succ_pos _))
 | value page =>
  rw[is] at fits
  exact inv.went (next_holds holds.1 holds.2 fits) (next_nearer page)

lemma enriching_inv (inv:w.Inv){candidate:RankedCandidate}{ranked:List RankedCandidate}
 (there:w.calls call=.enriching runId run (candidate::ranked) counters)
 (named:contactRefFor .apollo candidate.candidate.providerPersonId run.supplierRef≠none) :
 w.Leads call (.enriching runId run (candidate::ranked) counters) (advance env w call input):=by
 have holds:=inv.holds call
 unfold advance
 rw[there] at holds ⊢
 obtain ⟨owns,fit,few⟩:=holds
 dsimp only
 cases is:contactRefFor .apollo candidate.candidate.providerPersonId run.supplierRef with
 | none=>exact absurd is named
 | some ref =>
  rw[List.length_cons] at few
  refine inv.wrote (inv.books.enriched owns (by omega)) .enriched ⟨owns,fit,?_⟩
   (.on rfl rfl (Nat.lt_succ_self _))
  rw[Ledger.countP_spent,if_pos rfl]
  omega

lemma validated_some {built:ContactObservation} (validated:built.validated texts=some observation) :
 observation.provider=built.provider ∧
  observation.providerOrganizationId=PythonValues.trim built.providerOrganizationId:=by
 unfold ContactObservation.validated at validated
 split at validated
 · obtain rfl:=Option.some.inj validated
   exact ⟨rfl,rfl⟩
 · cases validated

lemma enrichedContact_organization {ranked:RankedCandidate}{person:EnrichedPerson}
 (enriched:enrichedContact texts profile supplierRef ranked person=some observation) :
 observation.providerOrganizationId=profile.providerOrganizationId:=by
 unfold enrichedContact at enriched
 split at enriched
 · cases enriched
 · dsimp only at enriched
   split at enriched
   · exact (validated_some enriched).2.trans profile.organization_trimmed
   · cases enriched

lemma enriched_inv (inv:w.Inv){candidate:RankedCandidate}{ranked:List RankedCandidate}
 (there:w.calls call=.enriched runId run candidate ranked counters)
 (answers:input.person≠.raises) :
 w.Leads call (.enriched runId run candidate ranked counters) (advance env w call input):=by
 have holds:=inv.holds call
 unfold advance
 rw[there] at holds ⊢
 obtain ⟨owns,fit,few⟩:=holds
 cases is:input.person with
 | raises=>exact absurd is answers
 | failure category=>exact inv.went ⟨⟨run,owns⟩,fit⟩ (.on rfl rfl (Nat.succ_pos _))
 | value person =>
  dsimp only
  cases found:person.bind (enrichedContact env.texts run.profile run.supplierRef candidate) with
  | none=>exact inv.went ⟨owns,fit,few⟩ (.on rfl rfl (Nat.lt_succ_self _))
  | some observation =>
   obtain ⟨person,-,builds⟩:=Option.bind_eq_some_iff.mp found
   exact inv.went ⟨owns,fit,fun _=>enrichedContact_organization builds⟩
    (.on rfl rfl (Nat.lt_add_left _ (Nat.le_of_ble_eq_true rfl)))

lemma websiteContact_provider {found:Option WebsiteContact}{now:ℤ}
 (offers:websiteContact texts profile found now=some observation) :
 observation.provider=.companyWebsite:=by
 unfold websiteContact at offers
 split at offers
 · exact (validated_some offers).1
 · cases offers

lemma fallingBack_inv (inv:w.Inv){status:RunStatus}
 (there:w.calls call=.fallingBack runId run counters status) :
 w.Leads call (.fallingBack runId run counters status) (advance env w call input):=by
 have holds:=inv.holds call
 unfold advance
 rw[there] at holds ⊢
 dsimp only
 cases is:websiteContact env.texts run.profile (if env.hasFallback then input.website else none)
  input.now with
 | none=>exact inv.went holds (.on rfl rfl (Nat.le_of_ble_eq_true rfl))
 | some observation =>
  refine inv.went ⟨holds.1,holds.2.1,fun apollo=>?_⟩ (.on rfl rfl (Nat.le_of_ble_eq_true rfl))
  rw[websiteContact_provider is] at apollo
  cases apollo

lemma committing_inv (inv:w.Inv) (there:w.calls call=.committing runId run observation counters)
 (named:observation.ref≠none) :
 w.Leads call (.committing runId run observation counters) (advance env w call input):=by
 have holds:=inv.holds call
 unfold advance
 rw[there] at holds ⊢
 obtain ⟨owns,fit,employs⟩:=holds
 dsimp only
 cases is:w.books.commitSuccess runId run observation counters input.stored with
 | ok books =>
  obtain ⟨kept,later,closed⟩:=inv.books.committed is owns employs
  exact inv.wrote kept later closed (.on rfl rfl (Nat.le_of_ble_eq_true rfl))
 | error failure =>
  cases failure with
  | handled error=>exact inv.went ⟨⟨run,owns⟩,fit⟩ (.on rfl rfl (Nat.le_of_ble_eq_true rfl))
  | raised=>exact absurd (inv.books.commitSuccess_raised is) named

lemma completing_inv (inv:w.Inv){status:RunStatus}
 (there:w.calls call=.completing runId run counters status) :
 w.Leads call (.completing runId run counters status) (advance env w call input):=by
 have holds:=inv.holds call
 unfold advance
 rw[there] at holds ⊢
 dsimp only
 cases is:w.books.completeWithoutContact runId run status counters input.stored with
 | ok books =>
  obtain ⟨kept,later,closed⟩:=inv.books.completed is holds.1.granted holds.2.2
  exact inv.wrote kept later closed (.ends rfl (.inl rfl))
 | error error=>exact inv.went ⟨⟨run,holds.1⟩,holds.2.1⟩ (.on rfl rfl (Nat.le_of_ble_eq_true rfl))

lemma failing_inv (inv:w.Inv){error:ErrorCategory}
 (there:w.calls call=.failing runId counters error) :
 w.Leads call (.failing runId counters error) (advance env w call input):=by
 have holds:=inv.holds call
 unfold advance
 rw[there] at holds ⊢
 obtain ⟨⟨run,owns⟩,fit⟩:=holds
 dsimp only
 have unended:RunStatus.failed≠.success:=by decide
 cases is:w.books.finishRun runId ⟨.failed,none,counters,some error⟩ with
 | none =>
  have closed:w.books.Holds call (.raised runId):=inv.books.closed_of_unfinished owns fit is
  exact inv.went closed (.ends rfl (.inr (.inl rfl)))
 | some books =>
  obtain ⟨kept,later,closed⟩:=inv.books.finished is owns.granted unended
  exact inv.wrote kept later closed (.ends rfl (.inl rfl))

lemma advance_inv (inv:w.Inv)(safe:w.Safe env (.advance call input)) :
 w.Leads call (w.calls call) (advance env w call input):=by
 have holds:=inv.holds call
 unfold World.Safe at safe
 dsimp only at safe
 cases there:w.calls call with
 | absent | left | returned | raised | dead=>unfold advance;rw[there];exact inv.stays rfl
 | findingRun request =>
  unfold advance
  rw[there] at holds ⊢
  dsimp only
  cases w.books.runByPolicy? request.evaluationId with
  | some run=>exact inv.went trivial (.idle rfl)
  | none=>exact inv.went holds (.idle rfl)
 | findingEvaluation request =>
  unfold advance
  rw[there] at holds ⊢
  dsimp only
  cases w.books.evaluation? request.evaluationId with
  | some evaluation=>exact inv.went trivial (.idle rfl)
  | none=>exact inv.went holds (.idle rfl)
 | readingOpportunity | authorizing =>
  unfold advance
  rw[there] at holds ⊢
  dsimp only
  split
  · exact inv.went holds (.idle rfl)
  · exact inv.went trivial (.idle rfl)
 | readingBinding request opportunity =>
  unfold advance
  rw[there] at holds ⊢
  dsimp only
  cases w.profile env opportunity with
  | none=>exact inv.went trivial (.idle rfl)
  | some reading=>exact inv.went holds (.idle rfl)
 | requeueing request opportunity supplierRef profile=>exact requeueing_inv inv there
 | evaluating request supplierRef profile streamVersion=>exact evaluating_inv inv there
 | starting request supplierRef profile streamVersion=>exact starting_inv inv there
 | loading runId =>
  unfold advance
  rw[there] at holds ⊢
  dsimp only
  cases w.books.runs.row? runId with
  | none=>exact inv.went trivial (.idle rfl)
  | some row =>
   dsimp only
   split
   · exact inv.went holds (.idle rfl)
   · exact inv.went trivial (.idle rfl)
 | claiming runId=>exact claiming_inv inv there
 | executing runId run =>
  rw[there] at safe
  exact executing_inv inv there safe
 | searching runId run =>
  unfold advance
  rw[there] at holds ⊢
  obtain ⟨owns,unsearched,unenriched⟩:=holds
  exact inv.wrote (inv.books.searched owns unsearched) .searched ⟨owns,unenriched⟩
   (.on rfl rfl (Nat.lt_succ_self _))
 | searched runId run =>
  rw[there] at safe
  exact searched_inv inv there safe
 | enriching runId run ranked counters =>
  cases ranked with
  | nil =>
   unfold advance
   rw[there] at holds ⊢
   exact inv.went ⟨holds.1,holds.2.1,by decide⟩ (.on rfl rfl (Nat.le_of_ble_eq_true rfl))
  | cons candidate ranked =>
   rw[there] at safe
   exact enriching_inv inv there safe
 | enriched runId run candidate ranked counters =>
  rw[there] at safe
  exact enriched_inv inv there safe
 | fallingBack runId run counters status=>exact fallingBack_inv inv there
 | committing runId run observation counters =>
  rw[there] at safe
  exact committing_inv inv there safe
 | completing runId run counters status=>exact completing_inv inv there
 | remembering runId counters =>
  rw[there] at safe
  unfold advance
  rw[there] at holds ⊢
  have remembers:(if env.hasDirectory then input.remembered else none)=none:=by
   split
   · rename_i directory
     exact Option.isNone_iff_eq_none.mp (safe directory)
   · rfl
  dsimp only
  rw[remembers]
  exact inv.went holds (.ends rfl (.inl rfl))
 | failing runId counters error=>exact failing_inv inv there

lemma begin_moves (inv:w.Inv){phase:Phase}{op:Op}(none:∀other,op.advances other=false)
 (idle:w.books.runs.Idle call→w.books.Holds call phase):w.Moves op (w.begin call phase):=by
 unfold World.begin
 split
 · rename_i free
   have holds:=inv.holds call
   rw[free] at holds
   have begun:w.Leads call .absent (w.goto call phase):=inv.went (idle holds) (.idle rfl)
   exact begun.begins free none
 · exact .idle inv (.refl w) rfl none

lemma step_moves (inv:w.Inv){op:Op}(safe:w.Safe env op):w.Moves op (step env w op):=by
 cases op with
 | bind siren binding=>exact .idle ⟨inv.books,inv.holds⟩ (fun _ mem _=>mem) rfl fun _=>rfl
 | upsert observation =>
  unfold step
  dsimp only
  cases is:w.books.upsertContact observation with
  | error failure=>exact .idle inv (.refl w) rfl fun _=>rfl
  | ok result =>
   obtain ⟨persisted,contacts⟩:=result
   obtain ⟨-,-,-,keys,kept⟩:=Books.upsertContact_ok inv.books.keys is
   refine .idle ⟨inv.books.contacts keys kept,fun call=>?_⟩ (fun _ mem _=>mem) rfl fun _=>rfl
   have later:w.books.Later (call+1) {w.books with contacts}:=
    ⟨.refl _ w.books.runs,fun _ _=>rfl,fun _ _=>rfl⟩
   exact (inv.holds call).later later (Nat.ne_of_lt (Nat.lt_succ_self call))
 | find call request =>
  have idle:w.books.runs.Idle call→w.books.Holds call (.findingRun request):=id
  exact begin_moves inv (fun _=>rfl) idle
 | resumeStarted call runId =>
  have idle:w.books.runs.Idle call→w.books.Holds call (.loading runId):=id
  exact begin_moves inv (fun _=>rfl) idle
 | advance call input=>exact (advance_inv inv safe).moves fun _=>beq_iff_eq
 | crash call =>
  unfold step
  dsimp only
  have dies:w.Leads call .absent (w.goto call .dead):=inv.went trivial (.idle rfl)
  split
  · exact .idle inv (.refl w) rfl fun _=>rfl
  · exact .idle inv (.refl w) rfl fun _=>rfl
  · exact .idle inv (.refl w) rfl fun _=>rfl
  · exact .idle inv (.refl w) rfl fun _=>rfl
  · exact dies.dies (Function.update_self ..) fun _=>rfl

lemma progresses (env:Env):tasks.Progresses World.calls Op.advances World.Inv World.Keeps
 (step env) (World.Safe env) where
 moves:=fun inv safe=>step_moves inv safe
 still:=by
  intro w op call runId mine ended
  cases op with
  | advance other input =>
   obtain rfl:other=call:=by simpa[Op.advances] using mine
   change advance env w other input=w
   unfold advance
   rcases ended with is|is|is <;> rw[is]
  | _=>cases mine

end

lemma World.Inv.ends {env:Env}{w:World}(inv:w.Inv){ops:List Op}
 (safe:Runs.Along (step env) (World.Safe env) w ops):Ends env 14 w ops:=by
 intro call runId owned given
 refine (progresses env).ends inv safe owned (Nat.lt_of_lt_of_le ?_ given)
 change (w.calls call).away<14
 have holds:=inv.holds call
 cases is:w.calls call with
 | executing runId run =>
  have:=run.profile.attempts_bounds
  simp only[Phase.away]
  omega
 | searching runId run =>
  have:=run.profile.attempts_bounds
  simp only[Phase.away]
  omega
 | searched runId run =>
  have:=run.profile.attempts_bounds
  simp only[Phase.away]
  omega
 | enriching runId run ranked counters =>
  rw[is] at holds
  have:=run.profile.attempts_bounds
  have few:=holds.2.2
  simp only[Phase.away]
  omega
 | enriched runId run candidate ranked counters =>
  rw[is] at holds
  have:=run.profile.attempts_bounds
  have few:=holds.2.2
  simp only[Phase.away]
  omega
 | _=>exact Nat.le_of_ble_eq_true rfl

lemma World.Inv.consistent {w:World}(inv:w.Inv):w.Consistent where
 once:=inv.books.once
 current:=inv.books.current
 selected:=fun run mem=>(inv.books.faithful run mem).selected
 enriching:=fun run mem=>(inv.books.faithful run mem).enriching
 nextAction:=fun run mem=>(inv.books.faithful run mem).nextAction
 searches:=inv.books.searches.total_le inv.books.runs fun _=>le_rfl
 enrichments:=by
  intro run mem
  have total:=inv.books.enrichments.total inv.books.runs mem
  have most:1+run.recovered.toNat≤2:=by
   have:=Bool.toNat_le run.recovered
   omega
  exact total.trans (Nat.mul_le_mul_right _ most)
 attached:=by
  intro run mem ref there
  obtain ⟨row,here,is,attached⟩:=inv.books.attached run.id ref there
  obtain rfl:=inv.books.runs.unique here mem is
  exact attached
 closes:=by
  intro call runId is
  have holds:=inv.holds call
  rcases is with is|is
  · rw[is] at holds
    exact holds
  · rw[is] at holds
    exact holds.1
 raises:=by
  intro call runId is
  have holds:=inv.holds call
  rw[is] at holds
  exact holds.2

/-- An opportunity before its first discovery; `contacts` are those that others stored. -/
def World.start (opportunity:Opportunity)(contacts:List ContactObservation)
 (bindings:String→Option SireneApolloBinding):World where
 books:=⟨opportunity,[],[],⟨[],[]⟩,contacts,[],[]⟩
 bindings:=bindings
 calls:=fun _=>.absent

lemma start_inv (opportunity:Opportunity){contacts:List ContactObservation}
 (bindings:String→Option SireneApolloBinding)
 (keys:(contacts.map (·.key)).Nodup):(World.start opportunity contacts bindings).Inv where
 books:=by
  constructor
  case runs=>exact .empty
  case keys=>exact keys
  case searches=>exact Ledger.within_nil
  case enrichments=>exact Ledger.within_nil
  all_goals simp[World.start]
 holds:=fun call owner mem=>by cases mem

def sampleTexts:Texts where
 normalize:=fun text=>String.ofList (text.toList.map Char.toLower)
 casefold:=fun text=>String.ofList (text.toList.map Char.toLower)
 digest:=fun _=>"6a1f2b3c4d5e6f708192a3b4c5d6e7f8"

def sampleProfile:SearchProfile:=
 ⟨"fr-v1","supplier","A",some "331364729",some "Alpha",some "alpha.fr",3,50,"profile",by
  decide,by decide⟩

def sampleEnv:Env where
 texts:=sampleTexts
 suppliers:=fun ref=>
  if ref="supplier" then some ⟨"supplier",.sirene,"331364729","Alpha",none,some "alpha.fr"⟩
  else none
 hasFallback:=true
 hasDirectory:=true
 profileBuilder:=fun request=>
  if request.providerOrganizationId="A" then some sampleProfile else none
 profileUpgradeRequeue:=none

def sampleStart:World:=
 .start ⟨.discovered,some "supplier",none,some "find_decision_makers",3⟩ [] fun _=>
  some ⟨some "A","name",some "alpha.fr"⟩

def sampleRecord (email organization:String):DirectoryRecord:=
 ⟨"331364729",some email,some "Jeanne Martin",some "CEO",some .apollo,some organization,some 10⟩

def recorded (email organization:String):Input:=
 {now:=20,fresh:=some (sampleRecord email organization)}

def discovered (input:Input)(n:ℕ):List Op:=
 .find 0 ⟨"evaluation","run",0,false⟩::List.replicate n (.advance 0 input)

def otherEmployer:World:=
 (discovered (recorded "jeanne@alpha.fr" "B") 10).foldl (step sampleEnv) sampleStart

def genericMailbox:World:=
 (discovered (recorded "contact@alpha.fr" "A") 10).foldl (step sampleEnv) sampleStart

def largeTotal:World:=
 (discovered {page:=.value ⟨2147483648,[],1⟩} 12).foldl (step sampleEnv) sampleStart

def sampleInput:Input where
 now:=20
 page:=.value ⟨1,[⟨"person","CEO",true⟩],0⟩
 person:=.value (some ⟨"person",some "A",some "Jeanne",some "Martin",none,some "CEO",
  some "jeanne@alpha.fr",some "verified",20,"digest"⟩)

/-- The directory refuses the contact that was attached, for instance a title that is too long. -/
def refusedContact:World:=
 (discovered {sampleInput with remembered:=some (.handled .persistenceError)} 15).foldl
  (step sampleEnv) sampleStart

def sampleRef:ContactRef:=⟨.apollo,"directory-6a1f2b3c4d5e6f708192a3b4","supplier"⟩

def recovered:List Op:=discovered sampleInput 8++[.crash 0,.resumeStarted 1 "run"] ++
  List.replicate 17 (.advance 1 sampleInput)

end Kivou.ContactDiscovery
