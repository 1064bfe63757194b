import Kivou.CensusTables

set_option autoImplicit false

/-! `PermitStore.check_call` and the calls of `CensusStore`: a call is reserved at its worst price
in one transaction, Apollo is asked outside of any, and a second transaction records the answer. -/
namespace Kivou.Census
open Tables

variable (permit:Permit)(db:Db)(callId:CallId)(category:String)(retryAfter:Option ℕ)

/-- `valid`: the permit is there, is this one, and is in force. -/
def Permit.validFor (censusId:String)(context:PermitContext)
 (partitionId:Option String)(now:ℕ):Bool:=
 permit.active&&permit.censusId==censusId&&permit.programKey=="milomail" &&
  permit.country=="FR"&&permit.phase==context.phase &&
  permit.databaseId==context.databaseId &&
  permit.configurationHash==context.configurationHash&&permit.validFrom≤now &&
  now<permit.expiresAt&&partitionId.all (· ∈ permit.allowedPartitions)

def checkSelection (permit:Permit)(request:Request):Except Error Unit:=
 match permit.phase with
 | .coverageA1Sample =>
  match afterPartition request.partitionId request.subject with
  | none=>.error (.value "A1 call must name a selected organization page")
  | some text =>
   match pageNumber text with
   | none=>.error (.value "A1 page number is invalid")
   | some page =>
    if db.samplePages.any fun row=>row.planId==permit.permitId &&
      request.partitionId==some row.partitionId&&row.page==page &&
      row.status==.planned&&db.samplePlans.any fun plan=>
       plan.planId==row.planId&&some plan.planHash==permit.samplePlanHash then .ok ()
    else .error (.value "A1 organization page is outside immutable sample plan")
 | .contactYieldB0 =>
  if db.b0Entries.any fun entry=>entry.planId==permit.permitId &&
    entry.candidateId==namedCandidate request.subject&&entry.status==.planned &&
    db.b0Plans.any fun plan=>
     plan.planId==entry.planId&&some plan.planHash==permit.samplePlanHash then .ok ()
  else .error (.value "B0 contact is outside frozen plan")
 | .franceB1ReadyBase =>
  if request.kind=.orgSearch then
   match (afterPartition request.partitionId request.subject).bind pageNumber with
   | none=>.error (.value "B1 page identity is invalid")
   | some page =>
    if db.b1Pages.any fun row=>row.planId==permit.permitId &&
      request.partitionId==some row.partitionId&&row.page==page &&
      row.status==.planned then .ok ()
    else .error (.value "B1 Apollo call is outside frozen selection")
  else if db.b1Entries.any fun entry=>entry.planId==permit.permitId &&
    entry.candidateId==namedCandidate request.subject&&entry.status==.planned then .ok ()
  else .error (.value "B1 Apollo call is outside frozen selection")
 | _=>.ok ()

def Permit.holds (used:Usage):Bool:=
 used.credits≤permit.maxCredits&&used.candidateSlots≤permit.maxCandidates &&
  used.pages≤permit.maxPages&&used.enrichments≤permit.maxEnrichments &&
  permit.priceChfPerCredit.all fun price=>cost used.credits price≤permit.maxCostChf

def checkPool (permit:Permit)(used:Usage):Except Error Unit:=
 match permit.phase with
 | .contactYieldB0 =>
  if ((db.b0Plans.find? fun plan=>plan.planId==permit.permitId).bind (·.poolBefore)).any
    fun pool=>used.credits+500≤pool then .ok ()
  else .error (.budgetExceeded "Apollo prepaid pool reserve would be breached")
 | .franceB1ReadyBase =>
  if (db.b1Plans.find? fun plan=>plan.planId==permit.permitId).any
    fun plan=>used.credits+1000≤plan.poolBefore then .ok ()
  else .error (.budgetExceeded "B1 Apollo prepaid reserve would be breached")
 | _=>.ok ()

/-- `PermitStore.check_call`. -/
def checkCall (censusId:String)(context:PermitContext)(request:Request)(now:ℕ) :
 Except Error Unit:=
 match (db.permit? context.permitId).filter
   (·.validFor censusId context request.partitionId now) with
 | none=>.error (.value "execution permit invalid for this call")
 | some permit =>
  if context.phase.allows request.kind=false then
   .error (.value "Apollo operation is outside permit phase")
  else do
   checkSelection db permit request
   let used:=db.usageOf permit.permitId+request.usage
   if permit.holds used=false then .error (.budgetExceeded "execution permit cap exhausted")
   else checkPool db permit used

def Limits.holds (limits:Limits)(run:Run):Bool:=
 run.pagesReserved≤limits.maxPages&&run.candidateSlotsReserved≤limits.maxCandidates &&
  run.enrichmentsReserved≤limits.maxEnrichments &&
  run.creditsReserved≤limits.maxApolloCredits &&
  cost run.creditsReserved limits.chfPerCreditCeiling≤limits.maxCostChf

def Run.reserved (run:Run)(request:Request):Run:=
 {run with
   pagesReserved:=run.pagesReserved+request.kind.pages
   candidateSlotsReserved:=run.candidateSlotsReserved+request.candidateSlots
   enrichmentsReserved:=run.enrichmentsReserved+request.kind.enrichments
   creditsReserved:=run.creditsReserved+request.credits}

def Db.searched:List String:=
 ((db.calls.filter fun c=>c.callId.kind==.orgSearch).filterMap (·.partitionId)).dedup

def exceedsPartitions (limits:Limits)(request:Request):Bool:=
 request.kind==.orgSearch&&request.partitionId.any fun partitionId=>
  partitionId∉db.searched&&limits.maxPartitions≤db.searched.length

def Request.call (request:Request)(permitId:String)(attempt:ℕ):Call where
 callId:=⟨request.kind,request.subject,attempt⟩
 permitId
 partitionId:=request.partitionId
 status:=.reserved
 reservedCredits:=request.credits
 candidateSlots:=request.candidateSlots
 resultSnapshot:=none
 errorCategory:=none
 retryAfter:=none

def Partition.charged (credits:ℕ)(p:Partition):Partition:=
 {p with creditCount:=p.creditCount+credits}

def Db.reserved (db:Db)(request:Request)(call:Call):Db:=
 let written:={db with calls:=db.calls++[call],run:=db.run.reserved request}
 match request.partitionId with
 | none=>written
 | some partitionId=>written.updatePartition partitionId (·.charged request.credits)

/-- `reserve_call` in a store that requires a permit; `true` with a call that
was reserved now. -/
def reserveCall (censusId:String)(context:Option PermitContext)(request:Request)
 (attempt now:ℕ):Except Error (Db × Call × Bool):=
 match db.call? ⟨request.kind,request.subject,attempt⟩ with
 | some existing =>
  if existing.partitionId=request.partitionId then .ok (db,existing,false)
  else .error (.value "census call identity conflict")
 | none =>
  match context with
  | none=>.error (.value "execution permit is mandatory before Apollo calls")
  | some context=>do
   checkCall db censusId context request now
   if context.phase=.coverageA0 ∧ 1<attempt ∧ request.kind≠.orgSearch then
    .error (.value "A0 retries are organization-search only")
   else
    match db.run.status,db.run.limits with
    | .active,some limits =>
     if exceedsPartitions db limits request then .error (.budgetExceeded "partition limit reached")
     else if limits.holds (db.run.reserved request)=false then
      .error (.budgetExceeded "census page, candidate, enrichment or cost cap reached")
     else
      let call:=request.call context.permitId attempt
      .ok (db.reserved request call,call,true)
    | _,_=>.error (.budgetExceeded "census is not active")

def Call.completed (result:Snapshot)(call:Call):Call:=
 {call with status:=.completed,resultSnapshot:=some result}

/-- `complete_call`. -/
def completeCall (result:Snapshot):Except Error Db:=
 match db.call? callId with
 | none=>.error .noResult
 | some call =>
  match call.status with
  | .completed =>
   if call.resultSnapshot=some result then .ok db
   else .error (.value "census call result conflict")
  | .reserved=>.ok (db.updateCall callId (·.completed result))
  | _=>.error (.reviewRequired "census call is not reservable")

def safeCategories:List String:=
 ["rate_limited","timeout","network_error","server_error","client_error","unauthorized",
  "forbidden","not_found","unprocessable_entity","malformed_response"]

def safeCategory:String:=
 if category∈safeCategories then category else "provider_error"

def isRateLimited:Bool:=safeCategory category=="rate_limited"

def Call.failed (call:Call):Call:=
 {call with
   status:=if isRateLimited category then .rateLimited else .reviewRequired
   errorCategory:=some (safeCategory category)
   retryAfter}

/-- `fail_call`. -/
def failCall :
 Except Error Db:=
 match db.call? callId with
 | none=>.error .noResult
 | some call =>
  if call.status≠.reserved then .error (.reviewRequired "census call outcome already recorded")
  else
   let written:=db.updateCall callId (·.failed category retryAfter)
   .ok (if isRateLimited category then written
    else {written with run:={written.run with status:=.reviewRequired}})

inductive Pass where
 | cached (result:Snapshot)(callId:CallId)
 | again
 | invoke (callId:CallId)

def pass (censusId:String)(context:Option PermitContext)(request:Request)
 (attempt start now:ℕ):Except Error (Db × Pass):=do
 let (db,call,claimedNow) ←reserveCall db censusId context request attempt now
 match call.status with
 | .completed =>
  match call.resultSnapshot with
  | none=>.error (.reviewRequired "purged Apollo response cannot be replayed")
  | some result=>.ok (db,.cached result call.callId)
 | .rateLimited =>
  if call.retryAfter.any (start < ·) then .error (.retryLater "Apollo rate limit has not elapsed")
  else .ok (db,.again)
 | .reserved =>
  if claimedNow then .ok (db,.invoke call.callId)
  else .error (.reviewRequired "ambiguous Apollo call requires manual review")
 | .reviewRequired=>.error (.reviewRequired "ambiguous Apollo call requires manual review")

inductive Outcome where
 | answered (result:Snapshot)
 | failed (category:String)(retryAfter:Option ℕ)

def Call.answered:Outcome→Call→Call
 | .answered result=>Call.completed result
 | .failed category retryAfter=>Call.failed category retryAfter

def settle:Outcome→Except Error Db
 | .answered result=>completeCall db callId result
 | .failed category retryAfter=>failCall db callId category retryAfter

def afterFailure (attempt start:ℕ)(category:String)(retryAfter:Option ℕ) :
 Except Error Unit:=
 if category="rate_limited" ∧ attempt=1 then
  if retryAfter.any (start < ·) then .error (.retryLater "Apollo rate limit requires later resume")
  else .ok ()
 else .error (.reviewRequired s!"Apollo {category}; no automatic replay")

end Kivou.Census
