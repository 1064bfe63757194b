import Kivou.RunLedger
import Kivou.SireneSearch
import Kivou.SupplierUpserts
import Mathlib.Logic.Function.Basic

set_option autoImplicit false

/-! `signals.supplier_discovery.service` with the provider of the company register: calls of
`discover` and `resume_started`, statement by statement. -/
namespace Kivou.SupplierDiscovery
open PythonValues RunLedger SireneSearch

structure Env where
 texts:Texts
 catalog:List SupplierFamily
 hasResolver:Bool

/-- `policy_evaluation`: `terms` stands for the rest of what is fingerprinted. -/
structure Evaluation where
 evaluationId:String
 profile:SupplierSearchProfile
 terms:ℕ × ℕ
 executable:Bool

/-- `DiscoveryRunStart`; the planned credit units are the pages of the profile. -/
structure RunStart where
 policyEvaluationId:String
 profile:SupplierSearchProfile
 startedAt:ℤ

structure Counters where
 pagesRequested:ℕ:=0
 providerTotalEntries:Option ℕ:=none
 partialResultsOnly:Option Bool:=none
 recordsReturned:ℕ:=0
 recordsAccepted:ℕ:=0
 recordsRejected:ℕ:=0
 rejectionReasons:List String:=[]
 familyResults:List String:=[]
 familyTargets:List String:=[]
 duplicates:ℕ:=0
 opportunitiesCreated:ℕ:=0
 deriving DecidableEq

inductive RunStatus where
 | success | partialResult | failed | searchTooBroad
 deriving DecidableEq

inductive ErrorCategory where
 | provider (category:String)
 | malformedResponse (detail:String)
 | providerLimit | searchTooBroad | persistenceError
 deriving DecidableEq

/-- What a closed run of `supplier_discovery_run` shows. -/
structure Outcome where
 status:RunStatus
 counters:Counters
 errorCategory:Option ErrorCategory
 deriving DecidableEq

abbrev Run:Type:=Row String RunStart Outcome

/-- What `acquisition_identity_for` digests. -/
structure IdentityKey where
 signalRef:String
 supplierRef:SupplierUpserts.Ref
 deriving DecidableEq

/-- `acquisition_opportunity`, as far as its creation goes. -/
structure Opportunity where
 signalRef:String
 supplierRef:SupplierUpserts.Ref
 deriving DecidableEq

def identityFor (signalRef:String)(supplierRef:SupplierUpserts.Ref):IdentityKey:=
 ⟨strip signalRef,supplierRef⟩

def Opportunity.identityKey (opportunity:Opportunity):IdentityKey:=
 identityFor opportunity.signalRef opportunity.supplierRef

structure Acceptance where
 call:ℕ
 runId:String
 family:Option String

/-- `pages` are the requests to the provider: the call and the run. -/
structure Books where
 evaluations:List Evaluation
 runs:Ledger String RunStart Outcome
 suppliers:List SupplierUpserts.Ref
 opportunities:List Opportunity
 pages:List (ℕ × String)
 accepted:List Acceptance

namespace Books

variable (b:Books)

def evaluation? (evaluationId:String):Option Evaluation:=
 b.evaluations.find? (·.evaluationId==evaluationId)

/-- `evaluate_and_record` -/
def evaluate (evaluation:Evaluation):Option (Evaluation × Books):=
 match b.evaluation? evaluation.evaluationId with
 | some existing =>
  if existing.profile=evaluation.profile ∧ existing.terms=evaluation.terms then some (existing,b)
  else none
 | none=>some (evaluation,{b with evaluations:=b.evaluations++[evaluation]})

/-- `start_run`, of a call that owns what it inserts. -/
def startRun (call:ℕ)(runId:String)(start:RunStart):Option Books:=
 if (b.runs.row? runId).isNone ∧
   b.runs.rows.all (·.start.policyEvaluationId != start.policyEvaluationId) then
  some {b with runs:=b.runs.start call runId start}
 else none

/-- `claim_recovery` -/
def claimRecovery (call:ℕ)(runId:String):Option (RunStart × Books):=
 (b.runs.claim call runId).map fun (start,runs)=>(start,{b with runs})

/-- `finish_run`; a run that is closed raises. -/
def finishRun (runId:String)(outcome:Outcome):Option Books:=
 (b.runs.close runId outcome).map fun runs=>{b with runs}

/-- `_durable_decision` -/
def durableDecision (run:RunStart):Bool:=(b.evaluation? run.policyEvaluationId).any fun evaluation=>
  evaluation.profile==run.profile&&evaluation.executable

/-- `create_opportunity_in_transaction` with its first action: whether the opportunity is
new, none where another one has its identity. -/
def createOpportunity (opportunity:Opportunity):Option (Bool × Books):=
 match b.opportunities.find? (·.identityKey==opportunity.identityKey) with
 | some existing=>if existing=opportunity then some (false,b) else none
 | none=>some (true,{b with opportunities:=b.opportunities++[opportunity]})

/-- `_persist_candidate`: whether the supplier and the opportunity are new. -/
def persistCandidate (profile:SupplierSearchProfile)(candidate:Candidate)
 (stored:Bool):Option (Bool × Bool × Books):=
 let ref:SupplierUpserts.Ref:=⟨.sirene,candidate.providerOrganizationId⟩
 let supplierCreated:=ref∉b.suppliers
 let suppliers:=if ref∈b.suppliers then b.suppliers else b.suppliers++[ref]
 if stored then
  ({b with suppliers}.createOpportunity ⟨profile.signalRef,ref⟩).map
   fun (created,b)=>(supplierCreated,created,b)
 else none

end Books

/-- The arguments of `discover`; `terms` stands for the rest of the authorization. -/
structure Request where
 (opportunityKey evaluationId runId:String)
 terms:ℕ
 deriving DecidableEq

/-- The locals of `_execute`: `expected` is what the first page said of all of them. -/
structure Locals where
 profile:SupplierSearchProfile
 pageNumber:ℕ
 expected:Option (ℕ × ℕ × Bool)
 counters:Counters
 deriving DecidableEq

/-- The statement a call has before it. `left` carries the run that the call obtained. -/
inductive Phase where
 | absent
 | resolving (request:Request)
 | evaluating (request:Request)(profile:SupplierSearchProfile)
 | starting (request:Request)(profile:SupplierSearchProfile)
 | loading (runId:String)
 | authorizing (runId:String)
 | claiming (runId:String)
 | requesting (runId:String)(l:Locals)
 | searching (runId:String)(l:Locals)
 | accepting (runId:String)(l:Locals)(totalPages:ℕ)(rest:List Candidate)
 | finishing (runId:String)(outcome:Outcome)
 | left (obtained:Option String)
 | dead
 deriving DecidableEq

inductive Resolution where
 | resolved | unresolved | raises
 deriving DecidableEq

structure Input where
 now:ℤ:=0
 terms:ℕ:=0
 profile:Option SupplierSearchProfile:=none
 executable:Bool:=true
 authorized:Bool:=true
 surroundings:Surroundings:={}
 resolution:Resolution:=.resolved
 stored:Bool:=true

structure World where
 books:Books
 calls:ℕ→Phase

namespace World

def goto (w:World)(call:ℕ)(phase:Phase):World:={w with calls:=Function.update w.calls call phase}

def put (w:World)(call:ℕ)(books:Books)(phase:Phase):World where
 books:=books
 calls:=Function.update w.calls call phase

end World

variable (counters:Counters)(l:Locals)(runId:String)(env:Env)(w:World)(call:ℕ)

def Counters.stopped (error:ErrorCategory):Outcome:=
 ⟨if 0<counters.recordsAccepted then .partialResult else .failed,counters,some error⟩

/-- What `_execute` counts of a page. -/
def Counters.returned (page:Page):Counters:=
 {counters with
   providerTotalEntries:=some page.totalEntries
   partialResultsOnly:=page.partialResultsOnly
   recordsReturned:=counters.recordsReturned+page.candidates.length+page.rejections.length
   recordsRejected:=counters.recordsRejected+page.rejections.length
   rejectionReasons:=counters.rejectionReasons++page.rejections}

def Counters.rejected (reason:String):Counters:=
 {counters with
   recordsRejected:=counters.recordsRejected+1
   rejectionReasons:=counters.rejectionReasons++[reason]}

def Counters.accepted (family:Option String) (supplierCreated opportunityCreated:Bool):Counters:=
 {counters with
   recordsAccepted:=counters.recordsAccepted+1
   familyTargets:=counters.familyTargets++family.toList
   duplicates:=counters.duplicates+(!supplierCreated).toNat
   opportunitiesCreated:=counters.opportunitiesCreated+opportunityCreated.toNat}

def Locals.continues (page:Page):Bool:=l.pageNumber==1 ||
  l.expected==some (page.totalEntries,page.totalPages,page.partialResultsOnly==some true)

/-- What `_execute` does with a page. -/
def Locals.next (page:Page):Phase:=
 if l.continues page=false then
  .finishing runId (l.counters.stopped (.malformedResponse "pagination_changed_during_run"))
 else
  let counters:=l.counters.returned page
  if l.profile.searchTooBroadThreshold<page.totalEntries ∨ page.partialResultsOnly=some true then
   if page.partialResultsOnly≠some true ∧ l.profile.narrowingLevel<2 then
    .requesting runId ⟨narrow l.profile,1,none,counters⟩
   else
    .finishing runId ⟨.searchTooBroad,counters,
     some (if page.partialResultsOnly=some true then .providerLimit else .searchTooBroad)⟩
  else if 0<page.totalEntries ∧ page.candidates=[] ∧ page.rejections=[] then
   .finishing runId (counters.stopped (.malformedResponse "unexpected_empty_page"))
  else
   .accepting runId ⟨l.profile,l.pageNumber,
     if l.pageNumber=1 then
      some (page.totalEntries,page.totalPages,page.partialResultsOnly==some true)
     else l.expected,
     {counters with
       familyResults:=counters.familyResults++page.candidates.filterMap Candidate.family}⟩
    page.totalPages page.candidates

def Locals.turn (totalPages:ℕ):Phase:=
 if l.profile.candidateCap≤l.counters.recordsAccepted ∨ totalPages≤l.pageNumber then
  .finishing runId ⟨.success,l.counters,none⟩
 else .requesting runId {l with pageNumber:=l.pageNumber+1}

def Locals.refusal (candidate:Candidate):Option String:=
 if candidate.family.any fun family=>l.profile.supplierFamilyKeys.contains family &&
   25≤l.counters.familyTargets.count family then
  some "family_candidate_cap"
 else none

def World.accept (runId:String)(l:Locals)
 (totalPages:ℕ)(candidate:Candidate)(rest:List Candidate)(input:Input):World:=
 if l.profile.candidateCap≤l.counters.recordsAccepted then w.goto call (l.turn runId totalPages)
 else
  let pass (reason:String):World:=
   w.goto call (.accepting runId {l with counters:=l.counters.rejected reason} totalPages rest)
  match l.refusal candidate with
  | some reason=>pass reason
  | none =>
   match if env.hasResolver then input.resolution else .resolved with
   | .raises=>w.goto call (.left (some runId))
   | .unresolved=>pass "contact_identity_unresolved"
   | .resolved =>
    match w.books.persistCandidate l.profile candidate input.stored with
    | none=>w.goto call (.finishing runId (l.counters.stopped .persistenceError))
    | some (supplierCreated,opportunityCreated,books) =>
     let counters:=l.counters.accepted candidate.family supplierCreated opportunityCreated
     w.put call {books with accepted:=books.accepted++[⟨call,runId,candidate.family⟩]}
      (.accepting runId {l with counters} totalPages rest)

def advance (input:Input):World:=
 match w.calls call with
 | .absent | .left _ | .dead=>w
 -- `discover`
 | .resolving request =>
  match input.profile with
  | some profile =>
   if profile.signalRef="procurement-opportunity:"++request.opportunityKey ∧
     profile.needCategories≠[] ∧ profile.keywordTags≠[] then
    w.goto call (.evaluating request profile)
   else w.goto call (.left none)
  | none=>w.goto call (.left none)
 | .evaluating request profile =>
  match w.books.evaluate ⟨request.evaluationId,profile,(request.terms,input.terms),
    input.executable⟩ with
  | some (evaluation,books) =>
   w.put call books (if evaluation.executable then .starting request profile else .left none)
  | none=>w.goto call (.left none)
 | .starting request profile =>
  match w.books.startRun call request.runId ⟨request.evaluationId,profile,input.now⟩ with
  | some books=>w.put call books (.requesting request.runId ⟨profile,1,none,{}⟩)
  | none=>w.goto call (.left none)
 -- `resume_started`
 | .loading runId =>
  match w.books.runs.row? runId with
  | some row =>
   if w.books.durableDecision row.start ∧ row.outcome.isNone then w.goto call (.authorizing runId)
   else w.goto call (.left none)
  | none=>w.goto call (.left none)
 | .authorizing runId =>w.goto call (if input.authorized then .claiming runId else .left none)
 | .claiming runId =>
  match w.books.claimRecovery call runId with
  | some (run,books)=>w.put call books (.requesting runId ⟨run.profile,1,none,{}⟩)
  | none=>w.goto call (.left none)
 -- `_execute`
 | .requesting runId l =>
  if l.pageNumber≤l.profile.maxPages then
   w.put call {w.books with pages:=w.books.pages++[(call,runId)]}
    (.searching runId {l with
     counters:={l.counters with pagesRequested:=l.counters.pagesRequested+1}})
  else w.goto call (.finishing runId ⟨.success,l.counters,none⟩)
 | .searching runId l =>
  match searchPage env.texts env.catalog l.profile l.pageNumber input.surroundings with
  | none=>w
  | some .raises=>w.goto call (.left (some runId))
  | some (.failure category) =>
   w.goto call (.finishing runId (l.counters.stopped (.provider category)))
  | some (.page page)=>w.goto call (l.next runId page)
 | .accepting runId l totalPages []=>w.goto call (l.turn runId totalPages)
 | .accepting runId l totalPages (candidate::rest) =>
  w.accept env call runId l totalPages candidate rest input
 | .finishing runId outcome =>
  match w.books.finishRun runId outcome with
  | some books=>w.put call books (.left (some runId))
  | none=>w.goto call (.left (some runId))

inductive Op where
 | discover (call:ℕ)(request:Request)
 | resumeStarted (call:ℕ)(runId:String)
 | advance (call:ℕ)(input:Input)
 /-- The process of the call dies. -/
 | crash (call:ℕ)

def World.begin (phase:Phase):World:=
 if w.calls call=.absent then w.goto call phase else w

def step:Op→World
 | .discover call request=>w.begin call (.resolving request)
 | .resumeStarted call runId=>w.begin call (.loading runId)
 | .advance call input=>Kivou.SupplierDiscovery.advance env w call input
 | .crash call =>
  match w.calls call with
  | .absent | .left _=>w
  | _=>w.goto call .dead

end Kivou.SupplierDiscovery
