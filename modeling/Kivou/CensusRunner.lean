import Kivou.CensusProcesses
import Mathlib.Data.List.Sort

set_option autoImplicit false

/-! `CensusRunner.run`, but for the sampling of A1, one step for each row of a queue, call or page:
the contacts of the pending candidates, the pages of the partitions, and the assessment of what is
pending. What other code decides (which calls an assessment makes, which occurrence of a candidate
came first) is in the script of a step, with what Apollo does. -/
namespace Kivou.Census
open Tables

/-- What a pass of `execute_call` meets: its time, and what Apollo does unless
the process dies before it is recorded. -/
structure Meeting where
 now:ℕ
 outcome:Option Outcome

inductive Ending where
 | returned (result:Snapshot)(callId:CallId)
 | raised (error:Error)
 | interrupted

section
variable (db:Db)(censusId:String)(context:Option PermitContext)(request:Request)

/-- A pass with its call; `none` where the loop goes on. -/
def passWith (attempt start:ℕ)(meeting:Meeting):Db × Option Ending:=
 match pass db censusId context request attempt start meeting.now with
 | .error error=>(db,some (.raised error))
 | .ok (db,.cached result callId)=>(db,some (.returned result callId))
 | .ok (db,.again)=>(db,none)
 | .ok (db,.invoke callId) =>
  match meeting.outcome with
  | none=>(db,some .interrupted)
  | some outcome =>
   match settle db callId outcome with
   | .error error=>(db,some (.raised error))
   | .ok db =>
    match outcome with
    | .answered result=>(db,some (.returned result callId))
    | .failed category retryAfter =>
     match afterFailure attempt start category retryAfter with
     | .ok ()=>(db,none)
     | .error error=>(db,some (.raised error))

/-- `execute_call`, by a process that is alone on the census. -/
def executeCall (start:ℕ)(first second:Meeting):Db × Ending:=
 match passWith db censusId context request 1 start first with
 | (db,some ending)=>(db,ending)
 | (db,none) =>
  match passWith db censusId context request 2 start second with
  | (db,some ending)=>(db,ending)
  | (db,none)=>(db,.raised (.reviewRequired "Apollo retry limit reached"))

end

/-- `require_run_authorization`. -/
def Limits.authorized (limits:Limits)(phase:Phase):Bool:=
 limits.enabled&&limits.authorizationRef.any (· ≠ "")&&match phase with
 | .franceB1ReadyBase =>
  limits.maxPartitions==9&&90≤limits.maxPages&&limits.maxPages≤990 &&
   2431≤limits.maxCandidates&&limits.maxCandidates≤30000 &&
   89≤limits.maxEnrichments&&limits.maxEnrichments≤989 &&
   891<limits.maxApolloCredits&&limits.maxApolloCredits≤1791 &&
   limits.maxCostChf==0&&limits.chfPerCreditCeiling==0 &&
   limits.creditsOrgSearchPage==1&&limits.creditsPeopleSearch==0 &&
   limits.creditsPersonEnrichmentMax==1
 | .contactYieldB0 =>
  limits.maxPartitions==9&&limits.maxPages==90&&2255≤limits.maxCandidates &&
   limits.maxCandidates≤2452&&1≤limits.maxEnrichments&&limits.maxEnrichments≤400 &&
   90<limits.maxApolloCredits&&limits.maxApolloCredits≤1590 &&
   limits.maxCostChf==0&&limits.chfPerCreditCeiling==0 &&
   limits.creditsPeopleSearch==0&&9≤limits.creditsPersonEnrichmentMax
 | .coverageA0 =>
  limits.maxPartitions==9&&limits.maxPages==9&&limits.maxApolloCredits==9 &&
   limits.maxCandidates==225&&limits.maxEnrichments==0&&limits.maxCostChf==0 &&
   limits.chfPerCreditCeiling==0&&limits.creditsOrgSearchPage==1
 | .coverageA1Sample =>
  limits.maxPartitions==9&&10≤limits.maxPages&&limits.maxPages≤90 &&
   limits.maxApolloCredits==limits.maxPages&&limits.maxCandidates==limits.maxPages*25 &&
   limits.maxEnrichments==0&&limits.maxCostChf==0&&limits.chfPerCreditCeiling==0 &&
   limits.creditsOrgSearchPage==1&&limits.creditsPeopleSearch==0
 | .coverage =>
  limits.maxPartitions != 0&&limits.maxApolloCredits != 0&&limits.maxCostChf != 0 &&
   limits.chfPerCreditCeiling != 0&&0<limits.maxPages&&0<limits.maxCandidates
 | .enrichment =>
  limits.maxPartitions != 0&&limits.maxApolloCredits != 0&&limits.maxCostChf != 0 &&
   limits.chfPerCreditCeiling != 0&&0<limits.maxEnrichments

/-- What `require_run_authorization` raises. -/
def Phase.unauthorized:Phase→String
 | .franceB1ReadyBase=>"B1 requires cumulative caps and one-credit no-phone enrichment"
 | .contactYieldB0=>"B0 requires cumulative A1 caps and a bounded prepaid contact budget"
 | .coverageA0=>"A0 requires exactly nine prepaid pages and zero incremental cost"
 | .coverageA1Sample=>"A1 requires at most 81 new prepaid organization pages"
 | .coverage | .enrichment=>"explicit census authorization and nonzero limits are required"

def Db.withStatus (db:Db)(status:RunStatus):Db:={db with run:={db.run with status}}

/-- `CensusStore.start`, but for A1, B0 and B1, which ask for their plans. -/
def start (db:Db)(limits:Limits):Except Error Db:=
 let refused:Error:=.value "census limits changed or run requires review"
 match db.run.status with
 | .planned=>.ok {db with run:={db.run with status:=.active,limits:=some limits}}
 | .active | .paused =>
  if db.run.limits=some limits then .ok (db.withStatus .active) else .error refused
 | .complete=>if db.run.limits=some limits then .ok db else .error refused
 | .reviewRequired=>.error refused

def Partition.paused (reason:String)(review:Bool)(p:Partition):Partition:=
 {p with
   status:=if review then .reviewRequired else .incomplete
   lastError:=some (p.lastError.getD reason)}

/-- `CensusStore.pause`. -/
def pause (db:Db)(partitionId:String)(reason:String)(review:Bool):Db:=
 let stopped:=db.withStatus (if review then .reviewRequired else .paused)
 if partitionId="" then stopped
 else stopped.updatePartition partitionId (·.paused reason review)

/-- `CensusStore.record_decision`, of which the status is kept here. -/
def recordDecision (db:Db)(candidateId:String):Db:=
 let decided (c:Candidate):Candidate:={c with decided:=true}
 {db with candidates:=update (·.candidateId==candidateId) decided db.candidates}

/-- `CensusStore.finish`. -/
def finish (db:Db):Db:=
 let remaining:=db.partitions.any (·.status != .complete)
 let pending:=db.candidates.any (!·.decided)
 db.withStatus (if !remaining&&!pending then .complete else .paused)

/-- `purge_contact_cache` once the census is complete. -/
def purge (db:Db):Db:=
 match db.run.limits with
 | none=>db
 | some _=>{db with
   calls:=update (·.status==.completed) ({· with resultSnapshot:=none}) db.calls
   candidates:=db.candidates.map ({· with snapshot:=none})}

def pauseFor:Error→Option (String × Bool)
 | .budgetExceeded _=>some ("CENSUS_BUDGET_CAP",false)
 | .retryLater _=>some ("APOLLO_RATE_LIMIT",false)
 | .reviewRequired _=>some ("APOLLO_REVIEW_REQUIRED",true)
 | _=>none

/-- Where `_coverage_contacts` returns to: before the loop over the partitions,
or into the loop over the pages of one. -/
inductive After where
 | begin
 | page (part:Partition)(rest:List Partition)

inductive Point where
 | contacts (queue:List Candidate)(after:After)
 | rows (rest:List Partition)
 | page (part:Partition)(number:ℕ)(rest:List Partition)
 | found (part:Partition)(shown:Page)(callId:CallId)(rest:List Partition)
 | pending (queue:List Candidate)
 | assessing (candidate:Candidate)(partitionId:String)(queue:List Candidate)
 | finish
 | purge

structure Runner where
 limits:Limits
 context:PermitContext
 allowed:List String
 observedAt:ℕ
 smoke:Bool
 point:Point

/-- What an assessment does next: a call, its decision, or nothing, when an
official source asks to come back later. -/
inductive Work where
 | call (kind:Kind)(subject:String)
 | decide
 | retryLater

structure Script where
 (first second:Meeting)
 occurrence:ℕ
 work:Work

/-- What a step comes to: the tables, where the run stands unless it is over,
and what was paused, newly reserved or recorded in it. -/
structure Turn where
 db:Db
 point:Option Point
 paused:Option String
 searched:Option (String × ℕ)
 recorded:Option (String × Page)

def Turn.to (db:Db)(point:Point):Turn:=⟨db,some point,none,none,none⟩

def Turn.ended (db:Db):Turn:=⟨db,none,none,none,none⟩

def Turn.stopped (db:Db)(partitionId:String)(reason:String)(review:Bool):Turn:=
 ⟨pause db partitionId reason review,none,if partitionId="" then none else some partitionId,
  none,none⟩

def Turn.failed (db:Db)(partitionId:String)(error:Error):Turn:=
 match pauseFor error with
 | some (reason,review)=>.stopped db partitionId reason review
 | none=>.ended db

def Turn.after (partitionId:String)(onward:Db→Snapshot→CallId→Turn) : Db × Ending→Turn
 | (db,.returned result callId)=>onward db result callId
 | (db,.raised error)=>.failed db partitionId error
 | (db,.interrupted)=>.ended db

/-- `permitted_partition_for_candidate`; which occurrence came first is in the script. -/
def permittedPartition (db:Db)(allowed:List String)(candidateId:String)(occurrence:ℕ) :
 Option String:=
 let found:=(db.occurrences.filter fun o=>
  o.candidateId==candidateId&&o.partitionId∈allowed).map (·.partitionId)
 found[occurrence%found.length]?

def Limits.credits (limits:Limits):Kind→ℕ
 | .orgSearch=>limits.creditsOrgSearchPage
 | .orgEnrich=>limits.creditsOrgEnrichment
 | .peopleSearch=>limits.creditsPeopleSearch
 | .personEnrich=>limits.creditsPersonEnrichmentMax

/-- Whether `_coverage_contacts` passes over a candidate. -/
def Organization.skipped (organization:Organization)(includePeople:Bool):Bool:=
 organization.primaryDomain.all (· == "") ||organization.countryCode != some "FR" &&
   (includePeople||organization.countryCode.isSome)

section
variable (normalizeDomain:String→Option String)(rank:String→ℕ)
 (peopleSubject:Organization→String)(censusId:String)

def pendingCandidates (db:Db):List Candidate:=
 (db.candidates.filter (!·.decided)).insertionSort fun a b=>
  rank a.candidateId≤rank b.candidateId

def sortedPartitions (db:Db):List Partition:=
 db.partitions.insertionSort fun a b=>a.partitionId≤b.partitionId

def Runner.call (runner:Runner)(db:Db)(script:Script)(request:Request):Db × Ending:=
 executeCall db censusId (some runner.context) request runner.observedAt script.first script.second

/-- A row of `_coverage_contacts`. -/
def Runner.contact (runner:Runner)(db:Db)(script:Script)(candidate:Candidate)
 (queue:List Candidate)(after:After):Turn:=
 match candidate.snapshot with
 | none=>.ended db
 | some organization =>
  if organization.skipped (!runner.smoke) then .to db (.contacts queue after)
  else
   match permittedPartition db runner.allowed candidate.candidateId script.occurrence with
   | none=>.to db (.contacts queue after)
   | some partitionId =>
    if runner.smoke then .to db (.contacts queue after)
    else
     Turn.after partitionId (fun db _ _=>.to db (.contacts queue after))
      (runner.call censusId db script ⟨.peopleSearch,peopleSubject organization,
       some partitionId,runner.limits.credits .peopleSearch,0⟩)

def Runner.search (runner:Runner)(db:Db)(script:Script)(part:Partition)(number:ℕ)
 (rest:List Partition):Turn:=
 if number≤part.maxPages ∧ (runner.smoke=true→number=1) then
  let called:=runner.call censusId db script ⟨.orgSearch,s!"{part.partitionId}:{number}",
   some part.partitionId,runner.limits.credits .orgSearch,part.perPage⟩
  let turn:=Turn.after part.partitionId (fun db result callId=>
   match result with
   | .page shown=>.to db (.found part shown callId rest)
   | .other _=>.ended db) called
  { turn with searched:=
     if db.calls.length<called.1.calls.length then some (part.partitionId,number) else none}
 else .to db (.rows rest)

/-- `record_page`, and the contacts that it brings. -/
def Runner.recordFound (db:Db)(part:Partition)(shown:Page)(callId:CallId)
 (rest:List Partition):Turn:=
 match recordPage normalizeDomain [] db part.partitionId shown callId with
 | .error error=>.failed db part.partitionId error
 | .ok written =>
  { Turn.to written (.contacts (pendingCandidates rank written) (.page part rest)) with
    recorded:=
     if (db.partition? part.partitionId).any (·.cursorPage==shown.page) then
      some (part.partitionId,shown)
     else none}

/-- What `_process_pending` does on a candidate. -/
def Runner.assess (runner:Runner)(db:Db)(script:Script)(candidate:Candidate)
 (partitionId:String)(queue:List Candidate):Turn:=
 match script.work with
 | .call kind subject =>
  Turn.after partitionId (fun db _ _=>.to db (.assessing candidate partitionId queue))
   (runner.call censusId db script
    ⟨kind,subject,some partitionId,runner.limits.credits kind,0⟩)
 | .decide=>.to (recordDecision db candidate.candidateId) (.pending queue)
 | .retryLater=>.stopped db partitionId "OFFICIAL_SOURCE_RETRY_LATER" false

def Runner.turn (runner:Runner)(db:Db)(script:Script):Turn:=
 match runner.point with
 | .contacts [] .begin=>.to db (.rows (sortedPartitions db))
 | .contacts [] (.page part rest) =>
  match db.partition? part.partitionId with
  | none=>.ended db
  | some latest =>
   match latest.status with
   | .complete | .incomplete | .reviewRequired=>.to db (.rows rest)
   | .planned | .active=>.to db (.page part latest.cursorPage rest)
 | .contacts (candidate::queue) after =>
  runner.contact peopleSubject censusId db script candidate queue after
 | .rows []=>.ended db
 | .rows (row::rest) =>
  if row.status=.complete ∨ row.partitionId∉runner.allowed ∨
    runner.smoke=true ∧ 1<row.cursorPage then .to db (.rows rest)
  else .to db (.page row row.cursorPage rest)
 | .page part number rest=>runner.search censusId db script part number rest
 | .found part shown callId rest =>Runner.recordFound normalizeDomain rank db part shown callId rest
 | .pending []=>.to db .finish
 | .pending (candidate::queue) =>
  match candidate.snapshot with
  | none=>.ended db
  | some _ =>
   match permittedPartition db runner.allowed candidate.candidateId script.occurrence with
   | none=>.to db (.pending queue)
   | some partitionId=>.to db (.assessing candidate partitionId queue)
 | .assessing candidate partitionId queue =>
  runner.assess censusId db script candidate partitionId queue
 | .finish=>.to (Census.finish db) .purge
 | .purge=>.ended (if db.run.status=.complete then Census.purge db else db)

/-- The tables with the run in progress, and what was recorded last of each
partition, and searched knowing what. -/
structure Session where
 db:Db
 runner:Option Runner
 last:String→Option Page
 searches:List (String × ℕ × Option Page)

/-- What `run` is called with; A1 has a program of its own. -/
structure Settings where
 phase:Phase
 sequential:phase≠.coverageA1Sample
 limits:Limits
 (permitId configurationHash databaseId:String)
 observedAt:ℕ
 smoke:Bool

def Settings.context (settings:Settings):PermitContext:=
 ⟨settings.permitId,settings.phase,settings.configurationHash,settings.databaseId⟩

def Settings.permit? (settings:Settings)(db:Db)(now:ℕ):Option Permit:=
 (db.permit? settings.permitId).filter (·.validFor censusId settings.context none now)

/-- `CensusRunner.run` up to its first queue. -/
def Settings.begin (settings:Settings)(db:Db)(now:ℕ):Except Error (Db × Runner):=
 if settings.limits.authorized settings.phase=false then .error (.value settings.phase.unauthorized)
 else if settings.phase=.contactYieldB0 ∨ settings.phase=.franceB1ReadyBase then
  .error (.value "unsupported census phase")
 else if settings.smoke=true ∧ settings.phase=.enrichment then
  .error (.value "A0 is only available for COVERAGE")
 else if settings.phase=.coverageA0 ∧ settings.smoke=false then
  .error (.value "A0 must be first-page-only")
 else
  match settings.permit? censusId db now with
  | none=>.error (.value "execution permit invalid for this call")
  | some permit=>do
   let db ←Census.start db settings.limits
   let queue:=pendingCandidates rank db
   let point:Point:=
    if settings.phase=.enrichment then .pending queue else .contacts queue .begin
   return (db,⟨settings.limits,settings.context,permit.allowedPartitions,
    settings.observedAt,settings.smoke,point⟩)

inductive Event where
 | plan (partitionId:String)(maxPages perPage:ℕ)
 | permit (permit:Permit)
 | revoke (permitId:String)
 | begin (settings:Settings)(now:ℕ)
 | turn (script:Script)
 | interrupt

def Session.take (s:Session)(runner:Runner)(turn:Turn):Session where
 db:=turn.db
 runner:=turn.point.map fun point=>{runner with point}
 last:=match turn.recorded with
  | some (partitionId,shown)=>Function.update s.last partitionId (some shown)
  | none=>s.last
 searches:=match turn.searched with
  | some (partitionId,number)=>s.searches++[(partitionId,number,s.last partitionId)]
  | none=>s.searches

def Session.next (s:Session):Event→Session
 | .plan partitionId maxPages perPage =>
  {s with db:=s.db.change (.partition partitionId maxPages perPage)}
 | .permit permit=>{s with db:=s.db.change (.permit permit)}
 | .revoke permitId=>{s with db:=s.db.change (.revoke permitId)}
 | .begin settings now =>
  match s.runner with
  | some _=>s
  | none =>
   match settings.begin rank censusId s.db now with
   | .error _=>s
   | .ok (db,runner)=>{s with db,runner:=some runner}
 | .turn script =>
  match s.runner with
  | none=>s
  | some runner =>
   s.take runner (runner.turn normalizeDomain rank peopleSubject censusId s.db script)
 | .interrupt=>{s with runner:=none}

end

def Session.start:Session:=⟨.empty,none,fun _=>none,[]⟩

end Kivou.Census
