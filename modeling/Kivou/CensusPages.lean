import Kivou.CensusCalls

set_option autoImplicit false

/-! The three transactions that turn a completed search into candidates: `record_page` moves the
cursor of its partition, `record_sample_page` and `B1PlanStore.record_page` tick a planned page.
`hidden` are the identities that other transactions commit while this one runs and that its reads
miss. -/
namespace Kivou.Census
open Tables

def identitiesOf (normalizeDomain:String→Option String)(organization:Organization) :
 List (IdentityKind × String):=
 (.apolloOrg,organization.providerOrganizationId) ::
  (((organization.primaryDomain.filter (· ≠ "")).bind normalizeDomain).map
   (IdentityKind.domain,·)).toList

def keptOf (normalizeDomain:String→Option String)(organization:Organization):Organization:=
 if (organization.primaryDomain.filter (· ≠ "")).all fun domain=>(normalizeDomain domain).isSome then
  organization
 else {organization with primaryDomain:=none}

def matched (hidden identities:List Identity)(keys:List (IdentityKind × String)):List String:=
 ((identities.filter fun i=>(i.kind,i.value)∈keys&&i∉hidden).map (·.candidateId)).dedup

/-- `insert_if_absent` of the identities of a candidate. -/
def remember (candidateId:String)(keys:List (IdentityKind × String))(identities:List Identity) :
 List Identity:=
 keys.foldl (fun identities key=>insertIfAbsent (fun i=>(i.kind,i.value))
  ⟨key.1,key.2,candidateId⟩ identities) identities

def Db.named (db:Db)(partitionId:String)(page:ℕ)(keys:List (IdentityKind × String))
 (candidateId:String):Db:=
 {db with
   identities:=remember candidateId keys db.identities
   occurrences:=insertIfAbsent (fun o=>(o.partitionId,o.candidateId))
    ⟨partitionId,candidateId,page⟩ db.occurrences}

section
variable (normalizeDomain:String→Option String)(hidden:List Identity)

/-- `_record_candidate_in_transaction`; `true` when the candidate is new. -/
def recordCandidate (db:Db)(partitionId:String)(page:ℕ)(organization:Organization) :
 Except Error (Db × Bool):=
 let keys:=identitiesOf normalizeDomain organization
 match matched hidden db.identities keys with
 | [] =>
  let candidateId:=organization.providerOrganizationId
  if db.candidates.any (·.candidateId==candidateId) then
   .error (.integrity "acquisition_census_candidate_pkey")
  else
   let created:Candidate:=⟨candidateId,some (keptOf normalizeDomain organization),false⟩
   .ok ({db with candidates:=db.candidates++[created]}.named partitionId page keys candidateId,true)
 | [candidateId]=>.ok (db.named partitionId page keys candidateId,false)
 | _=>.error (.reviewRequired "Apollo organization and domain identities disagree")

def recordCandidates (foreign:Error)(db:Db)(partitionId:String)(page:ℕ) :
 List Organization→Except Error (Db × ℕ × ℕ)
 | []=>.ok (db,0,0)
 | organization::rest =>
  if organization.apollo=false then .error foreign
  else do
   let (db,created) ←recordCandidate normalizeDomain hidden db partitionId page organization
   let (db,unique,duplicates) ←recordCandidates foreign db partitionId page rest
   return (db,unique+created.toNat,duplicates+(!created).toNat)

def refund (exceeds:Error)(db:Db)(call:Call)(seen:ℕ):Except Error Db:=
 if call.candidateSlots<seen then .error exceeds
 else if db.run.candidateSlotsReserved<call.candidateSlots-seen then
  .error (.integrity "ck_census_run_reservations")
 else .ok { db with run:={db.run with
  candidateSlotsReserved:=db.run.candidateSlotsReserved-(call.candidateSlots-seen)}}

def Partition.counted (p:Partition)(seen unique duplicates:ℕ):Partition:=
 {p with
   processedCount:=p.processedCount+seen
   uniqueCount:=p.uniqueCount+unique
   duplicateCount:=p.duplicateCount+duplicates}

def recordOrganizations (foreign exceeds:Error)(db:Db)(partitionId:String)(page:Page)
 (call:Call):Except Error Db:=do
 let (db,unique,duplicates) ←
  recordCandidates normalizeDomain hidden foreign db partitionId page.page page.candidates
 let db ←refund exceeds db call page.seen
 return db.updatePartition partitionId (·.counted page.seen unique duplicates)

end

def apolloDisplayLimit:ℕ:=50000
def maxApolloPagesPerSearch:ℕ:=500

def Page.coverageGap (page:Page):Bool:=
 apolloDisplayLimit≤page.totalEntries||page.partialResultsOnly==some true ||
  maxApolloPagesPerSearch<page.totalPages

def Page.finished (page:Page):Bool:=page.totalPages≤page.page||maxApolloPagesPerSearch≤page.page

def Page.status (page:Page):PartitionStatus:=
 if page.finished then if page.coverageGap then .incomplete else .complete else .active

def Partition.advanced (p:Partition)(page:Page):Partition:=
 {p with
   status:=page.status
   cursorPage:=page.page+1
   estimatedResultCount:=some page.totalEntries
   lastError:=if page.coverageGap then some "APOLLO_COVERAGE_LIMIT" else none}

section
variable (normalizeDomain:String→Option String)(hidden:List Identity)(db:Db)

/-- `CensusStore.record_page`. -/
def recordPage (partitionId:String)(page:Page)(callId:CallId):Except Error Db:=
 match db.partition? partitionId,db.call? callId with
 | some p,some call =>
  if call.partitionId≠some partitionId then .error (.value "census page/partition mismatch")
  else if call.status≠.completed ∨ call.callId.kind≠.orgSearch then
   .error (.reviewRequired "uncommitted Apollo page cannot advance cursor")
  else if call.resultSnapshot≠some (.page page) then
   .error (.value "census page differs from the cached Apollo response")
  else if page.page<p.cursorPage then .ok db
  else if p.cursorPage≠page.page ∨ page.perPage≠p.perPage then
   .error (.value "census page cursor mismatch")
  else do
   let db ←recordOrganizations normalizeDomain hidden
    (.type "Apollo census received a non-Apollo organization")
    (.value "Apollo page exceeds reserved candidate slots") db partitionId page call
   return db.updatePartition partitionId (·.advanced page)
 | _,_=>.error .noResult

def PlannedPage.is (row:PlannedPage)(planId partitionId:String)(page:ℕ):Bool:=
 row.planId==planId&&row.partitionId==partitionId&&row.page==page

def PlannedPage.ticked (callId:CallId)(row:PlannedPage):PlannedPage:=
 {row with status:=.completed,callId:=some callId}

def tick (planId partitionId:String)(page:ℕ)(callId:CallId) : List PlannedPage→List PlannedPage:=
 update (·.is planId partitionId page) (·.ticked callId)

/-- `CensusStore.record_sample_page` in a store that requires a permit. -/
def recordSamplePage (planId partitionId:String)(page:Page)(callId:CallId):Except Error Db:=
 match db.partition? partitionId,db.call? callId with
 | some p,some call =>
  match db.samplePages.find? (·.is planId partitionId page.page) with
  | none=>.error (.reviewRequired "A1 page does not match completed call and plan")
  | some sample =>
   if db.run.activeSamplePlanId≠some planId ∨ call.partitionId≠some partitionId ∨
     call.callId.kind≠.orgSearch ∨ call.status≠.completed ∨ call.permitId≠planId ∨
     page.perPage≠p.perPage ∨ call.resultSnapshot≠some (.page page) then
    .error (.reviewRequired "A1 page does not match completed call and plan")
   else
    match sample.status with
    | .completed =>
     if sample.callId=some callId then .ok db
     else .error (.reviewRequired "A1 checkpoint identity conflict")
    | .reviewRequired=>.error (.reviewRequired "A1 page is under manual review")
    | .planned=>do
     let db ←recordOrganizations normalizeDomain hidden
      (.type "A1 census received a non-Apollo organization")
      (.value "A1 page exceeds reserved candidate slots") db partitionId page call
     return {db with samplePages:=tick planId partitionId page.page callId db.samplePages}
 | _,_=>.error .noResult

/-- `B1PlanStore.record_page`. -/
def recordB1Page (permitId partitionId:String)(page:Page)(callId:CallId):Except Error Db:=
 match db.b1Pages.find? (·.is permitId partitionId page.page),db.call? callId with
 | some selected,some call =>
  if call.status≠.completed ∨ call.permitId≠permitId ∨ call.callId.kind≠.orgSearch ∨
    call.partitionId≠some partitionId ∨ call.resultSnapshot≠some (.page page) then
   .error (.reviewRequired "B1 page differs from the completed Apollo call")
  else
   match selected.status with
   | .completed =>
    if selected.callId=some callId then .ok db
    else .error (.reviewRequired "B1 page checkpoint conflict")
   | .reviewRequired=>.error (.reviewRequired "B1 page requires manual review")
   | .planned =>
    match db.partition? partitionId with
    | none=>.error .noResult
    | some p =>
     if page.perPage≠p.perPage then .error (.reviewRequired "B1 page size differs from partition")
     else do
      let db ←recordOrganizations normalizeDomain hidden
       (.reviewRequired "B1 page contains non-Apollo organization")
       (.reviewRequired "B1 page exceeds reserved candidate slots") db partitionId page call
      return {db with b1Pages:=tick permitId partitionId page.page callId db.b1Pages}
 | _,_=>.error .noResult

end

end Kivou.Census
