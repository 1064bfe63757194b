import Kivou.Decimals
import Kivou.PythonNumbers
import Kivou.Tables

set_option autoImplicit false

/-! One census of `signals.acquisition_programs`: its run, its partitions, the paid calls with what
Apollo answered, the candidates, and the permits and plans that the calls are checked against. A
digest stands for what it is taken of. -/
namespace Kivou.Census
open Tables

inductive Phase where
 | coverage | coverageA0 | coverageA1Sample | contactYieldB0 | franceB1ReadyBase | enrichment
 deriving DecidableEq

inductive Kind where
 | orgSearch | orgEnrich | peopleSearch | personEnrich
 deriving DecidableEq

inductive RunStatus where
 | planned | active | paused | complete | reviewRequired
 deriving DecidableEq

inductive PartitionStatus where
 | planned | active | complete | incomplete | reviewRequired
 deriving DecidableEq

inductive CallStatus where
 | reserved | completed | rateLimited | reviewRequired
 deriving DecidableEq

inductive PlanStatus where
 | planned | completed | reviewRequired
 deriving DecidableEq

inductive Error where
 | value (text:String)
 | type (text:String)
 | integrity (constraint:String)
 | noResult
 | budgetExceeded (text:String)
 | reviewRequired (text:String)
 | retryLater (text:String)

/-- An organisation of a page; `apollo` is its class. -/
structure Organization where
 apollo:Bool
 providerOrganizationId:String
 (primaryDomain countryCode:Option String)
 deriving DecidableEq

/-- A `SupplierSearchPage`; a rejection is its reason code. -/
structure Page where
 (page perPage totalEntries totalPages:ℕ)
 partialResultsOnly:Option Bool
 candidates:List Organization
 rejections:List String
 deriving DecidableEq

def Page.seen (page:Page):ℕ:=page.candidates.length+page.rejections.length

/-- A `result_snapshot`. -/
inductive Snapshot where
 | page (page:Page)
 | other (text:String)
 deriving DecidableEq

structure Limits where
 enabled:Bool
 (maxPartitions maxPages maxCandidates maxEnrichments maxApolloCredits:ℕ)
 (maxCostChf chfPerCreditCeiling:ℚ)
 (creditsOrgSearchPage creditsOrgEnrichment creditsPersonEnrichmentMax creditsPeopleSearch:ℕ)
 authorizationRef:Option String
 deriving DecidableEq

structure Run where
 status:RunStatus
 limits:Option Limits
 activeSamplePlanId:Option String
 (pagesReserved candidateSlotsReserved enrichmentsReserved creditsReserved:ℕ)

structure Partition where
 partitionId:String
 (maxPages perPage:ℕ)
 status:PartitionStatus
 cursorPage:ℕ
 estimatedResultCount:Option ℕ
 (processedCount uniqueCount duplicateCount creditCount:ℕ)
 lastError:Option String

/-- What a `call_id` is the digest of, besides the census. -/
structure CallId where
 kind:Kind
 subject:String
 attempt:ℕ
 deriving DecidableEq

structure Call where
 callId:CallId
 permitId:String
 partitionId:Option String
 status:CallStatus
 (reservedCredits candidateSlots:ℕ)
 resultSnapshot:Option Snapshot
 errorCategory:Option String
 retryAfter:Option ℕ

structure Candidate where
 candidateId:String
 snapshot:Option Organization
 decided:Bool

inductive IdentityKind where
 | apolloOrg | domain | email
 deriving DecidableEq

structure Identity where
 kind:IdentityKind
 (value candidateId:String)
 deriving DecidableEq

structure Occurrence where
 (partitionId candidateId:String)
 firstPage:ℕ

structure Permit where
 (permitId censusId programKey country:String)
 phase:Phase
 (databaseId configurationHash:String)
 samplePlanHash:Option String
 allowedPartitions:List String
 (maxPages maxCandidates maxEnrichments maxCredits:ℕ)
 maxCostChf:ℚ
 priceChfPerCredit:Option ℚ
 (validFrom expiresAt:ℕ)
 active:Bool

/-- A plan of samples or of B0; `poolBefore` is null for samples. -/
structure Plan where
 (planId planHash:String)
 poolBefore:Option ℕ

structure B1Caps where
 enabled:Bool
 (maxNewCredits maxNewPages maxCompanies maxPersonSearches maxEnrichments:ℕ)

structure B1Plan where
 (planId seed:String)
 caps:B1Caps
 limits:Limits
 poolBefore:ℕ

structure PlannedPage where
 (planId partitionId:String)
 page:ℕ
 exploration:Bool
 status:PlanStatus
 callId:Option CallId

structure Entry where
 (planId candidateId:String)
 status:PlanStatus

structure Db where
 run:Run
 partitions:List Partition
 calls:List Call
 candidates:List Candidate
 identities:List Identity
 occurrences:List Occurrence
 permits:List Permit
 samplePlans:List Plan
 samplePages:List PlannedPage
 b0Plans:List Plan
 b0Entries:List Entry
 b1Plans:List B1Plan
 b1Pages:List PlannedPage
 b1Entries:List Entry

namespace Db
variable (db:Db)

def partition? (partitionId:String):Option Partition:=
 db.partitions.find? fun p=>p.partitionId==partitionId

def call? (callId:CallId):Option Call:=db.calls.find? fun c=>c.callId==callId

def permit? (permitId:String):Option Permit:=db.permits.find? fun p=>p.permitId==permitId

def updatePartition (partitionId:String)(f:Partition→Partition):Db:=
 {db with partitions:=update (fun p=>p.partitionId==partitionId) f db.partitions}

def updateCall (callId:CallId)(f:Call→Call):Db:=
 {db with calls:=update (fun c=>c.callId==callId) f db.calls}

end Db

def Kind.pages:Kind→ℕ
 | .orgSearch=>1
 | _=>0

def Kind.enrichments:Kind→ℕ
 | .orgEnrich | .personEnrich=>1
 | _=>0

structure Request where
 kind:Kind
 subject:String
 partitionId:Option String
 (credits candidateSlots:ℕ)

structure PermitContext where
 permitId:String
 phase:Phase
 (configurationHash databaseId:String)

def Phase.allows:Phase→Kind→Bool
 | .coverageA0,kind | .coverageA1Sample,kind=>kind==.orgSearch
 | .coverage,kind=>kind==.orgSearch||kind==.peopleSearch
 | .enrichment,kind=>kind != .orgSearch
 | .contactYieldB0,kind=>kind==.peopleSearch||kind==.personEnrich
 | .franceB1ReadyBase,kind=>kind != .orgEnrich

def afterPartition (partitionId:Option String)(subject:String):Option (List Char):=
 (partitionId.filter (· ≠ "")).bind fun partitionId=>
  (partitionId++":").toList.isPrefixOf? subject.toList

def pageNumber (text:List Char):Option ℕ:=
 if text≠[] ∧ text.all Char.isDigit then some (PythonNumbers.ofDigits (text.map fun c=>c.toNat-48))
 else none

def namedCandidate (subject:String):String:=String.ofList (subject.toList.takeWhile (· ≠ ':'))

def cost (credits:ℕ)(price:ℚ):ℚ:=Decimals.significant 28 (credits*price)

structure Usage where
 (credits candidateSlots pages enrichments:ℕ)

def usage (calls:List Call):Usage where
 credits:=(calls.map (·.reservedCredits)).sum
 candidateSlots:=(calls.map (·.candidateSlots)).sum
 pages:=(calls.map (·.callId.kind.pages)).sum
 enrichments:=(calls.map (·.callId.kind.enrichments)).sum

def Db.usageOf (db:Db)(permitId:String):Usage:=usage (db.calls.filter fun c=>c.permitId==permitId)

def Request.usage (request:Request):Usage:=
 ⟨request.credits,request.candidateSlots,request.kind.pages,request.kind.enrichments⟩

instance:Add Usage:=⟨fun a b=>⟨a.credits+b.credits,a.candidateSlots+b.candidateSlots,
 a.pages+b.pages,a.enrichments+b.enrichments⟩⟩

end Kivou.Census
