import Kivou.AcquisitionContracts
import Kivou.ContactObservations
import Kivou.RunLedger
import Kivou.SupplierUpserts
import Mathlib.Logic.Function.Basic

set_option autoImplicit false

/-! `signals.contact_discovery.service` on one acquisition opportunity: calls of `find` and
`resume_started`, statement by statement. -/
namespace Kivou.ContactDiscovery
open AcquisitionContracts PythonValues RunLedger

structure SupplierRecord where
 supplierRef:String
 provider:SupplierUpserts.Provider
 (providerOrganizationId displayName:String)
 (location primaryDomain:Option String)

/-- `sirene_apollo_binding` -/
structure SireneApolloBinding where
 apolloOrganizationId:Option String
 resolutionMethod:String
 domain:Option String

structure ProfileRequest where
 (supplierRef providerOrganizationId supplierSiren bindingResolutionMethod organizationName:String)
 (organizationCity organizationDomain:Option String)

/-- How the service is composed; `suppliers` is not written during the calls. -/
structure Env where
 texts:Texts
 suppliers:String→Option SupplierRecord
 (hasFallback hasDirectory:Bool)
 profileBuilder:ProfileRequest→Option SearchProfile
 profileUpgradeRequeue:Option (String × String)

/-- `acquisition_opportunity` -/
structure Opportunity where
 state:AcquisitionState
 supplierRef:Option String
 contactRef:Option ContactRef
 nextAction:Option String
 streamVersion:ℕ
 deriving DecidableEq

inductive RunStatus where
 | success | noCandidate | noVerifiedContact | contactSearchTooBroad | failed
 deriving DecidableEq

inductive Event where
 | policyEvaluated (evaluationId:String)
 | contactSelected (runId:String)(contactRef:ContactRef)
 | contactEnriching (runId:String)
 | contactNextAction (runId:String)
 | contactHumanReview (runId:String)(reason:RunStatus)
 | contactProfileRequeue (previousRunId sourceVersion targetFingerprint:String)
 deriving DecidableEq

/-- `policy_evaluation`: `terms` stands for the rest of what is fingerprinted. -/
structure Evaluation where
 evaluationId:String
 profile:SearchProfile
 expectedVersion:ℕ
 terms:ℕ × ℕ
 executable:Bool

/-- `ContactRunStart` -/
structure RunStart where
 (supplierRef policyEvaluationId:String)
 profile:SearchProfile
 expectedPostPolicyVersion:ℕ
 startedAt:ℤ
 deriving DecidableEq

structure Counters where
 peopleSearchRequests:ℕ:=0
 providerTotalEntries:Option ℕ:=some 0
 searchResultsReturned:ℕ:=0
 searchResultsTruncated:Bool:=false
 candidatesEligible:ℕ:=0
 candidatesRejected:ℕ:=0
 enrichmentAttempts:ℕ:=0
 attemptedContactRefs:List ContactRef:=[]
 deriving DecidableEq

/-- The columns are `INTEGER`; the other counters are bounded by the page. -/
def Counters.fit (counters:Counters):Bool:=
 counters.providerTotalEntries.all fun total=>total≤2147483647

inductive ErrorCategory where
 | provider (category:String)
 | opportunityConcurrencyConflict | persistenceError
 deriving DecidableEq

/-- What a closed run of `contact_discovery_run` shows. -/
structure Outcome where
 status:RunStatus
 selectedContactRef:Option ContactRef
 counters:Counters
 errorCategory:Option ErrorCategory

abbrev Run:Type:=Row String RunStart Outcome

/-- The rows of the opportunity. `searches` and `enrichments` are the requests that were sent
to the provider: the call and the run. -/
structure Books where
 opportunity:Opportunity
 stream:List Event
 evaluations:List Evaluation
 runs:Ledger String RunStart Outcome
 contacts:List ContactObservation
 (searches enrichments:List (ℕ × String))

/-- How a transaction fails: with an exception that `_execute` handles, or another one. -/
inductive Failure where
 | handled (error:ErrorCategory)
 | raised

namespace Books

def runByPolicy? (b:Books)(evaluationId:String):Option Run:=
 b.runs.rows.find? (·.start.policyEvaluationId==evaluationId)

def evaluation? (b:Books)(evaluationId:String):Option Evaluation:=
 b.evaluations.find? (·.evaluationId==evaluationId)

/-- `append_in_transaction`: an event that is there answers a repetition. -/
def append (b:Books)(event:Event)(expectedVersion:ℕ) (reduce:Opportunity→Opportunity):Option Books:=
 if event∈b.stream then some b
 else if b.opportunity.streamVersion=expectedVersion then
  some {b with
   opportunity:={reduce b.opportunity with streamVersion:=expectedVersion+1}
   stream:=b.stream++[event]}
 else none

/-- `evaluate_and_record` -/
def evaluate (b:Books)(evaluation:Evaluation):Option (Evaluation × Books):=
 match b.evaluation? evaluation.evaluationId with
 | some existing =>
  if existing.profile=evaluation.profile ∧ existing.expectedVersion=evaluation.expectedVersion ∧
    existing.terms=evaluation.terms then some (existing,b)
  else none
 | none =>
  ({b with evaluations:=b.evaluations++[evaluation]}.append
   (.policyEvaluated evaluation.evaluationId) evaluation.expectedVersion id).map (evaluation,·)

/-- `start_run`, of a call that finds neither the run nor another of its evaluation. -/
def startRun (b:Books)(call:ℕ)(runId:String)(start:RunStart):Option Books:=
 if (b.runs.row? runId).isNone ∧ (b.runByPolicy? start.policyEvaluationId).isNone then
  some {b with runs:=b.runs.start call runId start}
 else none

/-- `claim_recovery` -/
def claimRecovery (b:Books)(call:ℕ)(runId:String):Option (RunStart × Books):=
 (b.runs.claim call runId).map fun (start,runs)=>(start,{b with runs})

/-- `finish_run_in_transaction`; a run that is closed raises, and so do counters that do not
fit. -/
def finishRun (b:Books)(runId:String)(outcome:Outcome):Option Books:=
 if outcome.counters.fit then (b.runs.close runId outcome).map fun runs=>{b with runs}
 else none

/-- `upsert_contact_in_transaction`: the row that is stored, and the rows. -/
def upsertContact (b:Books)(observation:ContactObservation) :
 Except Failure (ContactObservation × List ContactObservation):=
 match observation.ref with
 | none=>.error .raised
 | some ref =>
  let employed (row:ContactObservation):Bool:=row.provider==observation.provider &&
    row.providerPersonId==observation.providerPersonId &&
    row.supplierRef==observation.supplierRef
  match b.contacts.find? employed with
  | none =>
   if b.contacts.any fun row=>row.ref==some ref then .error (.handled .persistenceError)
   else .ok (observation,b.contacts++[observation])
  | some row =>
   if row.providerOrganizationId≠observation.providerOrganizationId then
    .error (.handled .persistenceError)
   else if observation.providerObservedAt<row.providerObservedAt then .ok (row,b.contacts)
   else if observation.providerObservedAt=row.providerObservedAt then
    if row.sourceFingerprint=observation.sourceFingerprint then .ok (row,b.contacts)
    else .error (.handled .persistenceError)
   else .ok (observation,b.contacts.map fun other=>
    if employed other then observation else other)

end Books

/-- `_require_actionable` -/
def Opportunity.isActionable (opportunity:Opportunity):Bool:=
 opportunity.state==.discovered&&opportunity.supplierRef.isSome &&
  opportunity.contactRef.isNone&&opportunity.nextAction==some "find_decision_makers"

/-- `_profile_upgrade_candidate` -/
def Opportunity.isUpgradeCandidate (env:Env)(opportunity:Opportunity):Bool:=
 env.profileUpgradeRequeue.isSome&&opportunity.state==.discovered &&
  opportunity.supplierRef.isSome&&opportunity.contactRef.isNone &&
  opportunity.nextAction==some "request_human_review"

/-- `_require_post_policy` -/
def Opportunity.isPostPolicy (opportunity:Opportunity)(run:RunStart):Bool:=
 opportunity.isActionable&&opportunity.streamVersion==run.expectedPostPolicyVersion &&
  opportunity.supplierRef==some run.supplierRef

/-- `binding.apollo_organization_id or f"siren-{siren}"` -/
def SireneApolloBinding.organization (binding:SireneApolloBinding)(siren:String):String:=
 match binding.apolloOrganizationId with
 | some id=>if id.isEmpty then "siren-"++siren else id
 | none=>"siren-"++siren

def SireneApolloBinding.profile (env:Env)(binding:SireneApolloBinding)
 (supplier:SupplierRecord):Option SearchProfile:=
 if supplier.provider=.sirene ∧ (binding.apolloOrganizationId.isSome ∨
   env.hasFallback=true ∧ binding.domain.isSome) then
  env.profileBuilder {
   supplierRef:=supplier.supplierRef
   providerOrganizationId:=binding.organization supplier.providerOrganizationId
   supplierSiren:=supplier.providerOrganizationId
   bindingResolutionMethod:=binding.resolutionMethod
   organizationName:=supplier.displayName
   organizationCity:=supplier.location
   organizationDomain:=
    if truthy binding.domain then binding.domain else supplier.primaryDomain}
 else none

namespace Books

/-- `_durable_decision` -/
def durableDecision (b:Books)(run:RunStart):Bool:=
 (b.evaluation? run.policyEvaluationId).any fun evaluation=>
  evaluation.profile==run.profile&&evaluation.executable

/-- `get_latest_run_for_opportunity_in_transaction` -/
def latestRun? (b:Books):Option Run:=b.runs.rows.foldl (fun latest row=>match latest with
  | none=>some row
  | some best =>
   if best.start.startedAt<row.start.startedAt ∨
     best.start.startedAt=row.start.startedAt ∧ best.id≤row.id then some row
   else some best) none

/-- The transaction of `_requeue_profile_upgrade`: the opportunity that the call goes on
with, none where it raises. -/
def requeueProfileUpgrade (env:Env)(b:Books)(sourceVersion:String)
 (profile:SearchProfile):Option (Opportunity × Books):=
 if b.opportunity.isUpgradeCandidate env=false then some (b.opportunity,b) else
 let requeued (run:Run)(outcome:Outcome):Bool:=
  outcome.status==.contactSearchTooBroad&&outcome.selectedContactRef.isNone &&
   b.opportunity.supplierRef==some run.start.supplierRef &&
   run.start.supplierRef==profile.supplierRef &&
   run.start.profile.profileVersion==sourceVersion &&
   run.start.profile.supplierRef==run.start.supplierRef &&
   run.start.profile.providerOrganizationId==profile.providerOrganizationId &&
   b.stream.getLast?==some (.contactHumanReview run.id .contactSearchTooBroad)
 match b.latestRun? with
 | some run =>
  if run.outcome.any (requeued run) then
   (b.append (.contactProfileRequeue run.id sourceVersion profile.profileFingerprint)
    b.opportunity.streamVersion
    fun o=>{o with nextAction:=some "find_decision_makers" }).bind fun after=>
     if after.opportunity.nextAction=some "find_decision_makers" then some (after.opportunity,after)
     else none
  else some (b.opportunity,b)
 | none=>some (b.opportunity,b)

def attach (b:Books)(runId:String)(run:RunStart)(ref:ContactRef):Option Books:=
 ((b.append (.contactSelected runId ref) run.expectedPostPolicyVersion
   fun o=>{o with contactRef:=some ref}).bind
  fun b=>b.append (.contactEnriching runId) b.opportunity.streamVersion
   fun o=>{o with state:=.enriching}).bind
  fun b=>b.append (.contactNextAction runId) b.opportunity.streamVersion
   fun o=>{o with nextAction:=some "enrich_company" }

/-- `_commit_success`: all of its writes or none. -/
def commitSuccess (b:Books)(runId:String)(run:RunStart)(observation:ContactObservation)
 (counters:Counters)(stored:Bool):Except Failure Books:=
 if b.opportunity.isPostPolicy run then
  match b.upsertContact observation with
  | .error failure=>.error failure
  | .ok (persisted,contacts) =>
   match persisted.ref with
   | none=>.error .raised
   | some ref =>
    if b.opportunity.supplierRef=some persisted.supplierRef ∧ persisted.isAttachable then
     match {b with contacts}.attach runId run ref with
     | none=>.error (.handled .opportunityConcurrencyConflict)
     | some b =>
      match b.finishRun runId ⟨.success,some ref,counters,none⟩ with
      | some done=>if stored then .ok done else .error (.handled .persistenceError)
      | none=>.error (.handled .persistenceError)
    else .error (.handled .persistenceError)
 else .error (.handled .opportunityConcurrencyConflict)

/-- `_complete_without_contact`: all of its writes or none. -/
def completeWithoutContact (b:Books)(runId:String)(run:RunStart)(status:RunStatus)
 (counters:Counters)(stored:Bool):Except ErrorCategory Books:=
 if b.opportunity.isPostPolicy run then
  match b.append (.contactHumanReview runId status) run.expectedPostPolicyVersion
    fun o=>{o with nextAction:=some "request_human_review" } with
  | none=>.error .opportunityConcurrencyConflict
  | some b =>
   match b.finishRun runId ⟨status,none,counters,none⟩ with
   | some done=>if stored then .ok done else .error .persistenceError
   | none=>.error .persistenceError
 else .error .opportunityConcurrencyConflict

end Books

/-- The arguments of `find`; `terms` stands for the rest of the authorization. -/
structure Request where
 (evaluationId runId:String)
 terms:ℕ
 authorizesUpgrade:Bool
 deriving DecidableEq

/-- The statement a call has before it. A call that obtains no run has `left`, one that obtained a
run has returned its result or raised. -/
inductive Phase where
 | absent
 | findingRun (request:Request)
 | findingEvaluation (request:Request)
 | readingOpportunity (request:Request)
 | readingBinding (request:Request)(opportunity:Opportunity)
 | requeueing (request:Request)(opportunity:Opportunity)(supplierRef:String) (profile:SearchProfile)
 | evaluating (request:Request)(supplierRef:String)(profile:SearchProfile) (streamVersion:ℕ)
 | starting (request:Request)(supplierRef:String)(profile:SearchProfile) (streamVersion:ℕ)
 | loading (runId:String)
 | authorizing (runId:String)
 | claiming (runId:String)
 | executing (runId:String)(run:RunStart)
 | searching (runId:String)(run:RunStart)
 | searched (runId:String)(run:RunStart)
 | enriching (runId:String)(run:RunStart)(ranked:List RankedCandidate) (counters:Counters)
 | enriched (runId:String)(run:RunStart)(candidate:RankedCandidate)
   (ranked:List RankedCandidate)(counters:Counters)
 | fallingBack (runId:String)(run:RunStart)(counters:Counters)(status:RunStatus)
 | committing (runId:String)(run:RunStart)(observation:ContactObservation) (counters:Counters)
 | completing (runId:String)(run:RunStart)(counters:Counters)(status:RunStatus)
 | remembering (runId:String)(counters:Counters)
 | failing (runId:String)(counters:Counters)(error:ErrorCategory)
 | left
 | returned (runId:String)
 | raised (runId:String)
 | dead
 deriving DecidableEq

/-- `PeopleSearchPage` -/
structure SearchPage where
 totalEntries:ℕ
 candidates:List Candidate
 rejections:ℕ

/-- What a request to the provider ends in; `raises` is any exception but an
`ApolloContactProviderError`. -/
inductive Answer (α:Type) where
 | value (value:α)
 | failure (category:String)
 | raises
 deriving DecidableEq

structure Input where
 now:ℤ:=0
 terms:ℕ:=0
 executable:Bool:=true
 authorized:Bool:=true
 /-- The answer of `SupplierDirectoryStore.fresh_email`. -/
 fresh:Option DirectoryRecord:=none
 page:Answer SearchPage:=.raises
 person:Answer (Option EnrichedPerson):=.raises
 website:Option WebsiteContact:=none
 stored:Bool:=true
 /-- How `SupplierDirectoryStore.record_email` fails. -/
 remembered:Option Failure:=none

structure World where
 books:Books
 bindings:String→Option SireneApolloBinding
 calls:ℕ→Phase

namespace World

def goto (w:World)(call:ℕ)(phase:Phase):World:={w with calls:=Function.update w.calls call phase}

def put (w:World)(call:ℕ)(books:Books)(phase:Phase):World:=
 {w with books,calls:=Function.update w.calls call phase}

def profile (env:Env)(w:World)(opportunity:Opportunity):Option (String × SearchProfile):=
 (opportunity.supplierRef.bind env.suppliers).bind fun supplier=>
  (w.bindings supplier.providerOrganizationId).bind fun binding=>
   (binding.profile env supplier).map (supplier.supplierRef,·)

end World

def SearchPage.counters (page:SearchPage):Counters:=
 let returned:=page.candidates.length+page.rejections
 { peopleSearchRequests:=1
   providerTotalEntries:=some page.totalEntries
   searchResultsReturned:=returned
   searchResultsTruncated:=returned<page.totalEntries
   candidatesRejected:=page.rejections}

/-- What `_execute` does with a page. -/
def SearchPage.next (env:Env)(page:SearchPage)(runId:String)(run:RunStart):Phase:=
 if 0<page.totalEntries ∧ page.candidates=[] ∧ page.rejections=0 then
  .failing runId page.counters (.provider "malformed_response")
 else if run.profile.searchTooBroadThreshold<page.totalEntries then
  .completing runId run page.counters .contactSearchTooBroad
 else
  let ranked:=rankCandidates env.texts (page.candidates.filter (·.hasEmail))
  let counters:={page.counters with
   candidatesEligible:=ranked.length
   candidatesRejected:=page.rejections+(page.candidates.length-ranked.length)}
  if ranked=[] then .fallingBack runId run counters .noCandidate
  else .enriching runId run (ranked.take run.profile.maxEnrichmentAttempts) counters

def advance (env:Env)(w:World)(call:ℕ)(input:Input):World:=
 match w.calls call with
 | .absent | .left | .returned _ | .raised _ | .dead=>w
 -- `find`
 | .findingRun request =>
  match w.books.runByPolicy? request.evaluationId with
  | some _=>w.goto call .left
  | none=>w.goto call (.findingEvaluation request)
 | .findingEvaluation request =>
  match w.books.evaluation? request.evaluationId with
  | some _=>w.goto call .left
  | none=>w.goto call (.readingOpportunity request)
 | .readingOpportunity request =>
  if w.books.opportunity.isUpgradeCandidate env||w.books.opportunity.isActionable then
   w.goto call (.readingBinding request w.books.opportunity)
  else w.goto call .left
 | .readingBinding request opportunity =>
  match w.profile env opportunity with
  | some (supplierRef,profile) =>w.goto call (.requeueing request opportunity supplierRef profile)
  | none=>w.goto call .left
 | .requeueing request opportunity supplierRef profile =>
  let go (opportunity:Opportunity):Phase:=
   if opportunity.isActionable then
    .evaluating request supplierRef profile opportunity.streamVersion
   else .left
  match env.profileUpgradeRequeue with
  | some (sourceVersion,targetVersion) =>
   if opportunity.isUpgradeCandidate env ∧ profile.profileVersion=targetVersion ∧
     request.authorizesUpgrade then
    if input.authorized then
     match w.books.requeueProfileUpgrade env sourceVersion profile with
     | some (current,books)=>w.put call books (go current)
     | none=>w.goto call .left
    else w.goto call .left
   else w.goto call (go opportunity)
  | none=>w.goto call (go opportunity)
 | .evaluating request supplierRef profile streamVersion =>
  match w.books.evaluate ⟨request.evaluationId,profile,streamVersion,
    (request.terms,input.terms),input.executable⟩ with
  | some (evaluation,books) =>
   w.put call books
    (if evaluation.executable then .starting request supplierRef profile streamVersion
    else .left)
  | none=>w.goto call .left
 | .starting request supplierRef profile streamVersion =>
  let run:RunStart:=⟨supplierRef,request.evaluationId,profile,streamVersion+1,input.now⟩
  match w.books.startRun call request.runId run with
  | some books=>w.put call books (.executing request.runId run)
  | none=>w.goto call .left
 -- `resume_started`
 | .loading runId =>
  match w.books.runs.row? runId with
  | some row =>
   if w.books.durableDecision row.start ∧ row.outcome.isNone then w.goto call (.authorizing runId)
   else w.goto call .left
  | none=>w.goto call .left
 | .authorizing runId =>w.goto call (if input.authorized then .claiming runId else .left)
 | .claiming runId =>
  match w.books.claimRecovery call runId with
  | some (run,books)=>w.put call books (.executing runId run)
  | none=>w.goto call .left
 -- `_execute`
 | .executing runId run =>
  match directoryContact env.texts run.profile run.supplierRef
    (if env.hasDirectory ∧ truthy run.profile.supplierSiren then input.fresh else none)
    input.now with
  | .error _=>w.goto call (.raised runId)
  | .ok (some observation) =>w.goto call (.committing runId run observation {candidatesEligible:=1})
  | .ok none =>
   if "siren-".toList <+: run.profile.providerOrganizationId.toList then
    w.goto call (.fallingBack runId run {} .noCandidate)
   else w.goto call (.searching runId run)
 | .searching runId run =>
  w.put call {w.books with searches:=w.books.searches++[(call,runId)]} (.searched runId run)
 | .searched runId run =>
  match input.page with
  | .raises=>w.goto call (.raised runId)
  | .failure category =>
   w.goto call (.failing runId {peopleSearchRequests:=1,providerTotalEntries:=none}
    (.provider category))
  | .value page=>w.goto call (page.next env runId run)
 | .enriching runId run [] counters =>
  w.goto call (.fallingBack runId run counters .noVerifiedContact)
 | .enriching runId run (candidate::ranked) counters =>
  match contactRefFor .apollo candidate.candidate.providerPersonId run.supplierRef with
  | none=>w.goto call (.raised runId)
  | some ref =>
   w.put call {w.books with enrichments:=w.books.enrichments++[(call,runId)]}
    (.enriched runId run candidate ranked {counters with
     enrichmentAttempts:=counters.enrichmentAttempts+1
     attemptedContactRefs:=counters.attemptedContactRefs++[ref]})
 | .enriched runId run candidate ranked counters =>
  match input.person with
  | .raises=>w.goto call (.raised runId)
  | .failure category=>w.goto call (.failing runId counters (.provider category))
  | .value person =>
   match person.bind (enrichedContact env.texts run.profile run.supplierRef candidate) with
   | some observation=>w.goto call (.committing runId run observation counters)
   | none=>w.goto call (.enriching runId run ranked
     {counters with candidatesRejected:=counters.candidatesRejected+1})
 | .fallingBack runId run counters status =>
  match websiteContact env.texts run.profile (if env.hasFallback then input.website else none)
    input.now with
  | some observation=>w.goto call (.committing runId run observation counters)
  | none=>w.goto call (.completing runId run counters status)
 | .committing runId run observation counters =>
  match w.books.commitSuccess runId run observation counters input.stored with
  | .ok books=>w.put call books (.remembering runId counters)
  | .error (.handled error)=>w.goto call (.failing runId counters error)
  | .error .raised=>w.goto call (.raised runId)
 | .completing runId run counters status =>
  match w.books.completeWithoutContact runId run status counters input.stored with
  | .ok books=>w.put call books (.returned runId)
  | .error error=>w.goto call (.failing runId counters error)
 -- `_remember_directory_contact`, which `_commit_success` ends with
 | .remembering runId counters =>
  match if env.hasDirectory then input.remembered else none with
  | none=>w.goto call (.returned runId)
  | some (.handled error)=>w.goto call (.failing runId counters error)
  | some .raised=>w.goto call (.raised runId)
 | .failing runId counters error =>
  match w.books.finishRun runId ⟨.failed,none,counters,some error⟩ with
  | some books=>w.put call books (.returned runId)
  | none=>w.goto call (.raised runId)

inductive Op where
 /-- `SireneApolloBindingStore.put` -/
 | bind (siren:String)(binding:SireneApolloBinding)
 /-- `upsert_contact_in_transaction` of another opportunity. -/
 | upsert (observation:ContactObservation)
 | find (call:ℕ)(request:Request)
 | resumeStarted (call:ℕ)(runId:String)
 | advance (call:ℕ)(input:Input)
 /-- The process of the call dies. -/
 | crash (call:ℕ)

def World.begin (w:World)(call:ℕ)(phase:Phase):World:=
 if w.calls call=.absent then w.goto call phase else w

def step (env:Env)(w:World):Op→World
 | .bind siren binding=>{w with bindings:=Function.update w.bindings siren (some binding)}
 | .upsert observation =>
  match w.books.upsertContact observation with
  | .ok (_,contacts)=>{w with books:={w.books with contacts}}
  | .error _=>w
 | .find call request=>w.begin call (.findingRun request)
 | .resumeStarted call runId=>w.begin call (.loading runId)
 | .advance call input=>Kivou.ContactDiscovery.advance env w call input
 | .crash call =>
  match w.calls call with
  | .absent | .left | .returned _ | .raised _=>w
  | _=>w.goto call .dead

end Kivou.ContactDiscovery
