import Kivou.AcquisitionContracts
import Kivou.SupplierUpserts
import Kivou.Tables
import Mathlib.Logic.Function.Basic

set_option autoImplicit false

/-! `signals.company_research.service` on one acquisition opportunity: calls of `research` and
`resume_started`, statement by statement, beside writes of the binding of its supplier and of the
supplier directory. A digest is what it digests. -/
namespace Kivou.CompanyResearch
open AcquisitionContracts PythonValues SupplierUpserts

def maxEmployeeCount:ℤ:=10000000
def maxDescriptionLength:ℕ:=2000
def maxKeywords:ℕ:=32
def maxKeywordLength:ℕ:=128

/-- `^[A-Za-z0-9][A-Za-z0-9_-]{0,127}$` -/
def isProviderId (text:String):Bool:=
 match text.toList with
 | []=>false
 | head::tail =>
  head.isAlphanum&&tail.all (fun c=>c.isAlphanum||c == '_' || c == '-') &&tail.length≤127

/-- `^\d{9}$` -/
def isSiren (text:String):Bool:=text.length==9&&text.toList.all Char.isDigit

/-- `CompanyResearchProfile`; the fingerprint is of the values as they were given, before
the model trims them. -/
structure CompanyResearchProfile where
 (providerOrganizationId siren:String)
 profileFingerprint:String × String
 deriving DecidableEq

def buildCompanyResearchProfile (providerOrganizationId siren:String) :
 Option CompanyResearchProfile:=
 if isProviderId (trim providerOrganizationId)&&isSiren (trim siren) then
  some ⟨trim providerOrganizationId,trim siren,(providerOrganizationId,siren)⟩
 else none

/-- What `policy_action_fingerprint` digests, beside the opportunity. -/
structure Action where
 profile:CompanyResearchProfile
 (supplierRef contactRef:String)
 deriving DecidableEq

structure SupplierRecord where
 supplierRef:String
 provider:Provider
 providerOrganizationId:String
 identityStatus:IdentityStatus
 deriving DecidableEq

inductive VerificationState where
 | providerVerified | deliverabilityVerified
 deriving DecidableEq

inductive VerificationProvider where
 | apollo | dnsMx
 deriving DecidableEq

inductive ProviderEmailStatus where
 | verified | mxAccepted
 deriving DecidableEq

structure ContactBinding where
 (contactRef supplierRef:String)
 verificationState:VerificationState
 verificationProvider:VerificationProvider
 providerEmailStatus:ProviderEmailStatus
 roleProfileVersion:String
 roleTier:ℕ
 deriving DecidableEq

/-- `is_attachable_contact` of a stored binding, which shows no provider, no address and
no name. -/
def ContactBinding.isAttachable (contact:ContactBinding):Bool:=
 (contact.verificationState==.providerVerified&&contact.verificationProvider==.apollo &&
   contact.providerEmailStatus==.verified) ||
  (contact.verificationState==.deliverabilityVerified &&
   contact.verificationProvider==.dnsMx&&contact.providerEmailStatus==.mxAccepted)

/-- `sirene_apollo_binding` -/
structure SireneApolloBinding where
 (apolloOrganizationId domain:Option String)
 deriving DecidableEq

def truthy (text:Option String):Bool:=text.any fun t=>!t.isEmpty

def SireneApolloBinding.usable (binding:SireneApolloBinding):Bool:=
 truthy binding.apolloOrganizationId||truthy binding.domain

/-- `binding.apollo_organization_id or f"siren-{siren}"` -/
def SireneApolloBinding.organization (binding:SireneApolloBinding)(siren:String):String:=
 match binding.apolloOrganizationId with
 | some id=>if id.isEmpty then "siren-"++siren else id
 | none=>"siren-"++siren

def SireneApolloBinding.profile (binding:SireneApolloBinding)(supplier:SupplierRecord) :
 Option CompanyResearchProfile:=
 buildCompanyResearchProfile (binding.organization supplier.providerOrganizationId)
  supplier.providerOrganizationId

/-- `ApolloOrganizationObservation` -/
structure Observation where
 provider:Provider
 (providerOrganizationId providerCompanyName:String)
 (providerPrimaryDomain providerWebsiteUrl providerCountry providerIndustry:Option String)
 (providerEmployeeCount providerFoundedYear:Option ℤ)
 providerShortDescription:Option String
 providerKeywords:List String
 providerObservedAt:ℤ
 providerSourceFingerprint:String
 deriving DecidableEq

def textWithin (limit:ℕ)(text:Option String):Bool:=text.all fun t=>(trim t).length≤limit

def Observation.fits (observation:Observation):Bool:=
 isProviderId (trim observation.providerOrganizationId) &&
  (1≤(trim observation.providerCompanyName).length &&
   (trim observation.providerCompanyName).length≤512) &&
  textWithin 253 observation.providerPrimaryDomain &&
  textWithin 2048 observation.providerWebsiteUrl &&
  textWithin 128 observation.providerCountry &&
  textWithin 256 observation.providerIndustry &&
  observation.providerEmployeeCount.all (fun n=>0≤n&&n ≤ maxEmployeeCount) &&
  observation.providerFoundedYear.all (fun n=>1000≤n&&n≤9999) &&
  textWithin maxDescriptionLength observation.providerShortDescription &&
  observation.providerKeywords.length ≤ maxKeywords &&
  observation.providerKeywords.all (fun k=>1≤(trim k).length&&(trim k).length ≤ maxKeywordLength)

/-- The columns of `supplier_directory` that an observation is made of. -/
structure DirectoryRecord where
 legalName:String
 legalNameObservedAt:ℤ
 nafCode:Option String
 nafObservedAt:Option ℤ
 domain:Option String
 domainObservedAt:Option ℤ
 websiteUrl:Option String
 (employees employeesObservedAt:Option ℤ)
 familyKeys:List String

def DirectoryRecord.observedAt (record:DirectoryRecord):ℤ:=
 ([record.nafObservedAt,record.domainObservedAt,record.employeesObservedAt].filterMap id).foldl
  max record.legalNameObservedAt

def DirectoryRecord.observation (fingerprint:String→DirectoryRecord→String)
 (record:DirectoryRecord)(siren:String):Observation where
 provider:=.sirene
 providerOrganizationId:="siren-"++siren
 providerCompanyName:=record.legalName
 providerPrimaryDomain:=record.domain
 providerWebsiteUrl:=record.websiteUrl
 providerCountry:=some "FR"
 providerIndustry:=record.nafCode
 providerEmployeeCount:=record.employees
 providerFoundedYear:=none
 providerShortDescription:=none
 providerKeywords:=record.familyKeys
 providerObservedAt:=record.observedAt
 providerSourceFingerprint:=fingerprint siren record

inductive CompanySizeBand where
 | unknown | micro | smb | midMarket | enterprise
 deriving DecidableEq

/-- `_size_band` -/
def sizeBand:Option ℤ → CompanySizeBand
 | none=>.unknown
 | some count =>
  if count≤9 then .micro else if count≤249 then .smb else if count≤999 then .midMarket
  else .enterprise

/-- `AcquisitionProspectPrebuild`, and the row of `acquisition_company_profile`. -/
structure Prebuild where
 (signalRef supplierRef contactRef:String)
 supplierIdentityStatus:IdentityStatus
 contactRoleProfileVersion:String
 contactRoleTier:ℕ
 observation:Observation
 sizeBand:CompanySizeBand
 deriving DecidableEq

def Observation.isComplete (observation:Observation):Bool:=
 (truthy observation.providerPrimaryDomain||truthy observation.providerWebsiteUrl) &&
  truthy observation.providerCountry&&truthy observation.providerIndustry &&
  observation.providerEmployeeCount.isSome

structure Env where
 suppliers:String→Option SupplierRecord
 contacts:String→Option ContactBinding
 hasDirectory:Bool
 fingerprint:String→DirectoryRecord→String

/-- `acquisition_opportunity` -/
structure Opportunity where
 signalRef:String
 state:AcquisitionState
 (supplierRef contactRef nextAction:Option String)
 streamVersion:ℕ
 deriving DecidableEq

inductive Event where
 | policyEvaluated (evaluationId:String)
 | companyReady (runId:String)
 | companyNextAction (runId:String)
 deriving DecidableEq

/-- `policy_evaluation`: `terms` stands for the rest of what is fingerprinted. -/
structure Evaluation where
 evaluationId:String
 action:Action
 expectedVersion:ℕ
 terms:ℕ × ℕ
 executable:Bool

inductive RunStatus where
 | started | success | limited | failed
 deriving DecidableEq

inductive ErrorCategory where
 | provider (category:String)
 | companyObservationConflict | opportunityConcurrencyConflict | persistenceError
 deriving DecidableEq

/-- `CompanyResearchRunStart` -/
structure RunStart where
 (runId supplierRef contactRef policyEvaluationId:String)
 profile:CompanyResearchProfile
 expectedPostPolicyVersion:ℕ
 startedAt:ℤ
 deriving DecidableEq

def RunStart.action (run:RunStart):Action:=⟨run.profile,run.supplierRef,run.contactRef⟩

/-- `company_research_run` -/
structure Run where
 start:RunStart
 (recoveryProviderCalls providerCalls:ℕ)
 status:RunStatus
 errorCategory:Option ErrorCategory

structure Lookup where
 call:ℕ
 runId:String
 profile:CompanyResearchProfile

/-- The rows of the opportunity. `owners`, `lookups` and `closures` tell which call obtained
a run, asked the provider for it and closed it. -/
structure Books where
 opportunity:Opportunity
 stream:List Event
 evaluations:List Evaluation
 runs:List Run
 profile:Option Prebuild
 owners:List (ℕ × String)
 lookups:List Lookup
 closures:List (ℕ × String)

namespace Books

variable (b:Books)(runId:String)(call:ℕ)

def run?:Option Run:=b.runs.find? (·.start.runId==runId)

def runByPolicy? (evaluationId:String):Option Run:=
 b.runs.find? (·.start.policyEvaluationId==evaluationId)

def evaluation? (evaluationId:String):Option Evaluation:=
 b.evaluations.find? (·.evaluationId==evaluationId)

def setRun (f:Run→Run):List Run:=Tables.update (·.start.runId==runId) f b.runs

/-- `append_in_transaction`: an event that is there answers a repetition. -/
def append (event:Event)(expectedVersion:ℕ)(reduce:Opportunity→Opportunity) :
 Option Books:=
 if event∈b.stream then some b
 else if b.opportunity.streamVersion=expectedVersion then
  some {b with
   opportunity:={reduce b.opportunity with streamVersion:=expectedVersion+1}
   stream:=b.stream++[event]}
 else none

/-- `evaluate_and_record` -/
def evaluate (evaluation:Evaluation):Option (Evaluation × Books):=
 match b.evaluation? evaluation.evaluationId with
 | some existing =>
  if existing.action=evaluation.action ∧ existing.expectedVersion=evaluation.expectedVersion ∧
    existing.terms=evaluation.terms then some (existing,b)
  else none
 | none =>
  ({b with evaluations:=b.evaluations++[evaluation]}.append
   (.policyEvaluated evaluation.evaluationId) evaluation.expectedVersion id).map (evaluation,·)

/-- `start_run`, of a call that finds neither the run nor another of its evaluation. -/
def startRun (start:RunStart):Option Books:=
 if (b.run? start.runId).isNone ∧ (b.runByPolicy? start.policyEvaluationId).isNone then
  some { b with runs:=b.runs++[⟨start,0,0,.started,none⟩]
                owners:=b.owners++[(call,start.runId)]}
 else none

/-- `claim_recovery` -/
def claimRecovery (runId:String):Option (RunStart × Books):=
 match b.run? runId with
 | some run =>
  if run.status=.started ∧ run.recoveryProviderCalls=0 then
   some (run.start,{b with
    runs:=b.setRun runId fun run=>{run with recoveryProviderCalls:=1}
    owners:=b.owners++[(call,runId)]})
  else none
 | none=>none

def close (runId:String)(status:RunStatus)(providerCalls:ℕ)
 (errorCategory:Option ErrorCategory):Books:=
 {b with
   runs:=b.setRun runId fun run=>{run with status,providerCalls,errorCategory}
   closures:=b.closures++[(call,runId)]}

/-- `finish_run_in_transaction`; a run that is closed raises. -/
def finishRun (runId:String)(status:RunStatus)(providerCalls:ℕ)
 (errorCategory:Option ErrorCategory):Option Books:=
 match b.run? runId with
 | some run =>
  if run.status=.started then some (b.close call runId status providerCalls errorCategory)
  else none
 | none=>none

/-- `upsert_profile_in_transaction`: the row that stays, unless the observation conflicts. -/
def upsertProfile (prebuild:Prebuild):Option Prebuild:=
 match b.profile with
 | none=>some prebuild
 | some row =>
  if row.supplierRef≠prebuild.supplierRef ∨ row.contactRef≠prebuild.contactRef ∨
    row.signalRef≠prebuild.signalRef then none
  else if prebuild.observation.providerObservedAt<row.observation.providerObservedAt then some row
  else if prebuild.observation.providerObservedAt=row.observation.providerObservedAt then
   if prebuild=row then some row else none
  else some prebuild

end Books

/-- `_require_actionable` -/
def Opportunity.isActionable (opportunity:Opportunity):Bool:=
 opportunity.state==.enriching&&opportunity.supplierRef.isSome &&
  opportunity.contactRef.isSome&&opportunity.nextAction==some "enrich_company"

/-- `_require_post_policy` -/
def Opportunity.isPostPolicy (opportunity:Opportunity)(run:RunStart):Bool:=
 opportunity.isActionable&&opportunity.streamVersion==run.expectedPostPolicyVersion &&
  opportunity.supplierRef==some run.supplierRef&&opportunity.contactRef==some run.contactRef

/-- `_require_bindings` -/
def bound (opportunity:Opportunity)(supplier:SupplierRecord)(contact:ContactBinding)
 (binding:SireneApolloBinding):Bool:=
 supplier.provider==.sirene&&binding.usable &&opportunity.supplierRef==some supplier.supplierRef &&
  opportunity.contactRef==some contact.contactRef &&
  contact.supplierRef==supplier.supplierRef&&contact.isAttachable

/-- `_durable_decision` -/
def Books.durableDecision (b:Books)(run:RunStart):Bool:=
 match buildCompanyResearchProfile run.profile.providerOrganizationId run.profile.siren,
  b.evaluation? run.policyEvaluationId with
 | some profile,some evaluation =>
  evaluation.action==⟨profile,run.supplierRef,run.contactRef⟩ &&
   run.profile.profileFingerprint==profile.profileFingerprint&&evaluation.executable
 | _,_=>false

/-- The arguments of `research`; `terms` stands for the rest of the authorization. -/
structure Request where
 (evaluationId runId:String)
 terms:ℕ
 deriving DecidableEq

/-- What `research` has read before it asks the policy. -/
structure Reading where
 supplier:SupplierRecord
 contact:ContactBinding
 binding:SireneApolloBinding
 profile:CompanyResearchProfile
 streamVersion:ℕ
 deriving DecidableEq

def Reading.action (reading:Reading):Action:=
 ⟨reading.profile,reading.supplier.supplierRef,reading.contact.contactRef⟩

def Reading.start (reading:Reading)(request:Request)(startedAt:ℤ):RunStart where
 runId:=request.runId
 supplierRef:=reading.supplier.supplierRef
 contactRef:=reading.contact.contactRef
 policyEvaluationId:=request.evaluationId
 profile:=reading.profile
 expectedPostPolicyVersion:=reading.streamVersion+1
 startedAt

/-- The statement a call has before it. `left` carries the run that the call obtained. -/
inductive Phase where
 | absent
 | findingRun (request:Request)
 | findingEvaluation (request:Request)
 | readingOpportunity (request:Request)
 | readingBinding (request:Request)(opportunity:Opportunity)
 | evaluating (request:Request)(reading:Reading)
 | starting (request:Request)(reading:Reading)
 | loading (runId:String)
 | authorizing (runId:String)
 | claiming (runId:String)
 | reopening (run:RunStart)
 | rebinding (run:RunStart)(opportunity:Opportunity)
 | executing (run:RunStart)(supplier:SupplierRecord)(binding:SireneApolloBinding)
 | asked (run:RunStart)(binding:SireneApolloBinding)
 | committing (run:RunStart)(observation:Observation)(providerCalled:Bool)
 | writing (run:RunStart)(observation:Observation)(providerCalled:Bool)
   (binding:SireneApolloBinding)
 | failing (run:RunStart)(providerCalled:Bool)(providerCalls:ℕ)(error:ErrorCategory)
 | left (obtained:Option String)
 | dead
 deriving DecidableEq

/-- What `fetch_organization` ends in; `raises` is any exception but a
`CompanyResearchProviderError`. -/
inductive Answer where
 | observation (observation:Observation)
 | failure (category:String)
 | raises
 deriving DecidableEq

structure Input where
 now:ℤ:=0
 terms:ℕ:=0
 executable:Bool:=true
 authorized:Bool:=true
 answer:Answer:=.raises
 stored:Bool:=true

structure World where
 books:Books
 bindings:String→Option SireneApolloBinding
 directory:String→Option DirectoryRecord
 calls:ℕ→Phase

namespace World

def goto (w:World)(call:ℕ)(phase:Phase):World:={w with calls:=Function.update w.calls call phase}

def put (w:World)(call:ℕ)(books:Books)(phase:Phase):World:=
 {w with books,calls:=Function.update w.calls call phase}

/-- `_required_binding` -/
def requiredBinding (w:World)(supplier:SupplierRecord):Option SireneApolloBinding:=
 if supplier.provider=.sirene then (w.bindings supplier.providerOrganizationId).filter (·.usable)
 else none

def checkedBinding (env:Env)(w:World)(opportunity:Opportunity) (supplierRef contactRef:String) :
 Option (SupplierRecord × ContactBinding × SireneApolloBinding):=
 match env.suppliers supplierRef,env.contacts contactRef with
 | some supplier,some contact =>
  ((w.requiredBinding supplier).filter (bound opportunity supplier contact)).map
   fun binding=>(supplier,contact,binding)
 | _,_=>none

def reading (env:Env)(w:World)(opportunity:Opportunity):Option Reading:=
 match opportunity.supplierRef,opportunity.contactRef with
 | some supplierRef,some contactRef =>
  (checkedBinding env w opportunity supplierRef contactRef).bind
   fun (supplier,contact,binding)=>(binding.profile supplier).map
    fun profile=>⟨supplier,contact,binding,profile,opportunity.streamVersion⟩
 | _,_=>none

/-- `_directory_observation`; an observation that does not fit its bounds raises. -/
def directoryObservation (env:Env)(w:World)(siren:String) : Except Unit (Option Observation):=
 if env.hasDirectory then
  match w.directory siren with
  | some record =>
   if truthy record.domain then
    if (record.observation env.fingerprint siren).fits then
     .ok (some (record.observation env.fingerprint siren))
    else .error ()
   else .ok none
  | none=>.ok none
 else .ok none

end World

/-- The checks of `_commit_success` that read nothing the calls write but the opportunity. -/
def prebuild (env:Env)(opportunity:Opportunity)(run:RunStart)(observation:Observation)
 (binding:SireneApolloBinding):Except ErrorCategory Prebuild:=
 if opportunity.isPostPolicy run then
  match env.suppliers run.supplierRef,env.contacts run.contactRef with
  | some supplier,some contact =>
   if bound opportunity supplier contact binding then
    if binding.apolloOrganizationId.all (· == observation.providerOrganizationId) then
     .ok { signalRef:=opportunity.signalRef
           supplierRef:=supplier.supplierRef
           contactRef:=contact.contactRef
           supplierIdentityStatus:=supplier.identityStatus
           contactRoleProfileVersion:=contact.roleProfileVersion
           contactRoleTier:=contact.roleTier
           observation
           sizeBand:=sizeBand observation.providerEmployeeCount}
    else .error .companyObservationConflict
   else .error .opportunityConcurrencyConflict
  | _,_=>.error .persistenceError
 else .error .opportunityConcurrencyConflict

def Books.appendReady (b:Books)(run:RunStart):Option Books:=
 (b.append (.companyReady run.runId) run.expectedPostPolicyVersion
   fun o=>{o with state:=.readyForDecision}).bind
  fun b=>b.append (.companyNextAction run.runId) b.opportunity.streamVersion
   fun o=>{o with nextAction:=some "evaluate_opportunity" }

/-- `_commit_success` after its reads: all of its writes or none. -/
def Books.commitSuccess (env:Env)(b:Books)(call:ℕ)(run:RunStart)
 (observation:Observation)(providerCalled:Bool)(binding:SireneApolloBinding)
 (stored:Bool):Except ErrorCategory Books:=
 match prebuild env b.opportunity run observation binding with
 | .error error=>.error error
 | .ok prebuild =>
  match b.upsertProfile prebuild with
  | none=>.error .companyObservationConflict
  | some row =>
   match {b with profile:=some row}.appendReady run with
   | none=>.error .opportunityConcurrencyConflict
   | some b =>
    match b.finishRun call run.runId
      (if observation.isComplete then .success else .limited) providerCalled.toNat none with
    | some done=>if stored then .ok done else .error .persistenceError
    | none=>.error .persistenceError

def advance (env:Env)(w:World)(call:ℕ)(input:Input):World:=
 match w.calls call with
 | .absent | .left _ | .dead=>w
 -- `research`
 | .findingRun request =>
  match w.books.runByPolicy? request.evaluationId with
  | some _=>w.goto call (.left none)
  | none=>w.goto call (.findingEvaluation request)
 | .findingEvaluation request =>
  match w.books.evaluation? request.evaluationId with
  | some _=>w.goto call (.left none)
  | none=>w.goto call (.readingOpportunity request)
 | .readingOpportunity request =>
  if w.books.opportunity.isActionable then w.goto call (.readingBinding request w.books.opportunity)
  else w.goto call (.left none)
 | .readingBinding request opportunity =>
  match w.reading env opportunity with
  | some reading=>w.goto call (.evaluating request reading)
  | none=>w.goto call (.left none)
 | .evaluating request reading =>
  match w.books.evaluate ⟨request.evaluationId,reading.action,reading.streamVersion,
    (request.terms,input.terms),input.executable⟩ with
  | some (evaluation,books) =>
   w.put call books (if evaluation.executable then .starting request reading else .left none)
  | none=>w.goto call (.left none)
 | .starting request reading =>
  match w.books.startRun call (reading.start request input.now) with
  | some books=>w.put call books
    (.executing (reading.start request input.now) reading.supplier reading.binding)
  | none=>w.goto call (.left none)
 -- `resume_started`
 | .loading runId =>
  match w.books.run? runId with
  | some run =>
   if w.books.durableDecision run.start ∧ run.status=.started then w.goto call (.authorizing runId)
   else w.goto call (.left none)
  | none=>w.goto call (.left none)
 | .authorizing runId =>w.goto call (if input.authorized then .claiming runId else .left none)
 | .claiming runId =>
  match w.books.claimRecovery call runId with
  | some (run,books)=>w.put call books (.reopening run)
  | none=>w.goto call (.left none)
 | .reopening run=>w.goto call (.rebinding run w.books.opportunity)
 | .rebinding run opportunity =>
  match w.checkedBinding env opportunity run.supplierRef run.contactRef with
  | some (supplier,_,binding) =>
   if opportunity.isPostPolicy run then w.goto call (.executing run supplier binding)
   else w.goto call (.left (some run.runId))
  | none=>w.goto call (.left (some run.runId))
 -- `_execute`
 | .executing run supplier binding =>
  match binding.profile supplier with
  | none=>w.goto call (.left (some run.runId))
  | some profile =>
   if binding.apolloOrganizationId.isSome then
    w.put call {w.books with lookups:=w.books.lookups++[⟨call,run.runId,profile⟩]}
     (.asked run binding)
   else
    match w.directoryObservation env supplier.providerOrganizationId with
    | .error _=>w.goto call (.left (some run.runId))
    | .ok none=>w.goto call (.failing run false 0 (.provider "not_found"))
    | .ok (some observation)=>w.goto call (.committing run observation false)
 | .asked run binding =>
  match input.answer with
  | .raises=>w.goto call (.left (some run.runId))
  | .failure category=>w.goto call (.failing run true 1 (.provider category))
  | .observation observation =>
   if binding.apolloOrganizationId≠some observation.providerOrganizationId then
    w.goto call (.failing run true 1 (.provider "provider_identity_mismatch"))
   else if observation.providerObservedAt<run.startedAt then
    w.goto call (.failing run true 1 (.provider "malformed_response"))
   else w.goto call (.committing run observation true)
 | .committing run observation providerCalled =>
  match (env.suppliers run.supplierRef).bind w.requiredBinding with
  | some binding=>w.goto call (.writing run observation providerCalled binding)
  | none=>w.goto call (.failing run providerCalled 1 .opportunityConcurrencyConflict)
 | .writing run observation providerCalled binding =>
  match w.books.commitSuccess env call run observation providerCalled binding input.stored with
  | .ok books=>w.put call books (.left (some run.runId))
  | .error error=>w.goto call (.failing run providerCalled 1 error)
 | .failing run _ providerCalls error =>
  match w.books.finishRun call run.runId .failed providerCalls (some error) with
  | some books=>w.put call books (.left (some run.runId))
  | none=>w.goto call (.left (some run.runId))

inductive Op where
 /-- `SireneApolloBindingStore.put` -/
 | bind (siren:String)(binding:SireneApolloBinding)
 /-- A write of the supplier directory. -/
 | record (siren:String)(record:Option DirectoryRecord)
 | research (call:ℕ)(request:Request)
 | resumeStarted (call:ℕ)(runId:String)
 | advance (call:ℕ)(input:Input)
 /-- The process of the call dies. -/
 | crash (call:ℕ)

def World.begin (w:World)(call:ℕ)(phase:Phase):World:=
 if w.calls call=.absent then w.goto call phase else w

def step (env:Env)(w:World):Op→World
 | .bind siren binding=>{w with bindings:=Function.update w.bindings siren (some binding)}
 | .record siren record=>{w with directory:=Function.update w.directory siren record}
 | .research call request=>w.begin call (.findingRun request)
 | .resumeStarted call runId=>w.begin call (.loading runId)
 | .advance call input=>Kivou.CompanyResearch.advance env w call input
 | .crash call =>
  match w.calls call with
  | .absent | .left _=>w
  | _=>w.goto call .dead

end Kivou.CompanyResearch
