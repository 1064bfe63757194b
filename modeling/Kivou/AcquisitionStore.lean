import Kivou.AcquisitionReducer
import Kivou.Decimals
import Kivou.Tables
import Mathlib.Data.List.Sort

set_option autoImplicit false

/-! `signals.acquisition.store` over its two tables. A transaction is a list of mutations that
commit together or not at all; the optimistic check inside each of them is kept as the source writes
it. The database is a parameter: what a typed column keeps of a value, or that it refuses it. -/
namespace Kivou.AcquisitionStore
open PythonValues Columns AcquisitionContracts AcquisitionReducer

/-- How the engine's column types treat a value, with the documented laws the
store rests on. `timestamp` is what the driver hands back, naive or aware. -/
structure Backend where
 varchar:ℕ→String→Option String
 numeric:ℕ→ℕ→ℚ→Option ℚ
 timestamp:DateTime→Option DateTime
 varchar_fits:∀ {n s t},varchar n s=some t→s.length≤n→t=s
 numeric_stable:∀ {p s q r t},numeric p s q=some r→numeric p s r=some t→t=r
 numeric_nonneg:∀ {p s q r},numeric p s q=some r→0≤q→0≤r
 numeric_le_one:∀ {p s q r},numeric p s q=some r→0≤q→q≤1 → r≤1
 timestamp_stable:∀ {d t u},timestamp d=some t →
  timestamp {t with offset:=some (t.offset.getD 0)}=some u →
  ({u with offset:=some (u.offset.getD 0)}:DateTime).toUtc =
   ({t with offset:=some (t.offset.getD 0)}:DateTime).toUtc

/-- `varchar(n)` of PostgreSQL: too long a text is refused, unless only blanks
stand past the limit, which are cut; a NUL is always refused. -/
def postgresqlVarchar (n:ℕ)(s:String):Option String:=
 if s.toList.contains (Char.ofNat 0) then none
 else if s.length≤n then some s
 else if (s.toList.drop n).all (· == ' ') then some (String.ofList (s.toList.take n)) else none

/-- `timestamptz` keeps the instant and shows it in the session's zone. -/
def postgresqlTimestamp (zone:ℤ)(d:DateTime):DateTime:=⟨d.wall-d.offset.getD zone+zone,some zone⟩

def postgresql (zone:ℤ):Backend where
 varchar:=postgresqlVarchar
 numeric:=Decimals.numeric
 timestamp d:=some (postgresqlTimestamp zone d)
 varchar_fits:=by
  intro n s t h hl
  unfold postgresqlVarchar at h
  split at h
  · cases h
  · cases h
    rfl
 numeric_stable:=by
  intro p s q r t hq hr
  rw[Decimals.numeric_eq hr,Decimals.numeric_eq hq,Decimals.roundTo_roundTo]
 numeric_nonneg:=by
  intro p s q r h hq
  rw[Decimals.numeric_eq h]
  exact Decimals.roundTo_nonneg hq
 numeric_le_one:=by
  intro p s q r h hq h1
  rw[Decimals.numeric_eq h]
  exact Decimals.roundTo_le hq (Decimals.onScale_one s) h1
 timestamp_stable:=by
  intro d t u ht hu
  cases ht
  cases hu
  simp[postgresqlTimestamp,DateTime.toUtc]

/-- `_aware` of the store: a naive reading is taken to be UTC. -/
def assumeUtc (d:DateTime):DateTime:={d with offset:=some (d.offset.getD 0)}

structure Store where
 opportunities:List AcquisitionOpportunity
 events:List AcquisitionEvent

def empty:Store:=⟨[],[]⟩

def eventFromRow (row:AcquisitionEvent):Option AcquisitionEvent:=
 {row with
   occurredAt:=assumeUtc row.occurredAt
   recordedAt:=assumeUtc row.recordedAt}.modelValidate

def projectionFromRow (row:AcquisitionOpportunity):Option AcquisitionOpportunity:=
 {row with
   nextReviewAt:=row.nextReviewAt.map assumeUtc
   retryAt:=row.retryAt.map assumeUtc
   createdAt:=assumeUtc row.createdAt
   updatedAt:=assumeUtc row.updatedAt}.modelValidate

def eventValues (db:Backend)(e:AcquisitionEvent):Option AcquisitionEvent:=do
 let eventId ←db.varchar 64 e.eventId
 let acquisitionOpportunityId ←db.varchar 64 e.acquisitionOpportunityId
 let stateMachineVersion ←db.varchar 64 e.stateMachineVersion
 let occurredAt ←db.timestamp e.occurredAt
 let recordedAt ←db.timestamp e.recordedAt
 let actorRef ←whenPresent (db.varchar 256) e.actorRef
 let idempotencyKey ←db.varchar 128 e.idempotencyKey
 let semanticFingerprint ←db.varchar 64 e.semanticFingerprint
 let correlationId ←whenPresent (db.varchar 64) e.correlationId
 let causationId ←whenPresent (db.varchar 64) e.causationId
 let policyVersion ←whenPresent (db.varchar 100) e.policyVersion
 let skillVersion ←whenPresent (db.varchar 100) e.skillVersion
 let supervisorVersion ←whenPresent (db.varchar 100) e.supervisorVersion
 let confidence ←whenPresent (db.numeric 5 4) e.confidence
 let estimatedCost ←whenPresent (db.numeric 18 6) e.estimatedCost
 return { e with eventId,acquisitionOpportunityId,stateMachineVersion,occurredAt,recordedAt,
                 actorRef,idempotencyKey,semanticFingerprint,correlationId,causationId,
                 policyVersion,skillVersion,supervisorVersion,confidence,estimatedCost}

def projectionValues (db:Backend)(p:AcquisitionOpportunity) :
 Option AcquisitionOpportunity:=do
 let identityKey ←db.varchar 256 p.identityKey
 let stateMachineVersion ←db.varchar 64 p.stateMachineVersion
 let signalRef ←db.varchar 256 p.signalRef
 let supplierRef ←whenPresent (db.varchar 256) p.supplierRef
 let contactRef ←whenPresent (db.varchar 256) p.contactRef
 let campaignRef ←whenPresent (db.varchar 256) p.campaignRef
 let confidence ←whenPresent (db.numeric 5 4) p.confidence
 let nextAction ←whenPresent (db.varchar 100) p.nextAction
 let nextReviewAt ←whenPresent db.timestamp p.nextReviewAt
 let retryAt ←whenPresent db.timestamp p.retryAt
 let lastErrorCategory ←whenPresent (db.varchar 100) p.lastErrorCategory
 let policyVersion ←whenPresent (db.varchar 100) p.policyVersion
 let skillVersion ←whenPresent (db.varchar 100) p.skillVersion
 let supervisorVersion ←whenPresent (db.varchar 100) p.supervisorVersion
 let estimatedCost ←whenPresent (db.numeric 18 6) p.estimatedCost
 let lastEventId ←db.varchar 64 p.lastEventId
 let createdAt ←db.timestamp p.createdAt
 let updatedAt ←db.timestamp p.updatedAt
 return { p with identityKey,stateMachineVersion,signalRef,supplierRef,contactRef,
                 campaignRef,confidence,nextAction,nextReviewAt,retryAt,lastErrorCategory,
                 policyVersion,skillVersion,supervisorVersion,estimatedCost,lastEventId,
                 createdAt,updatedAt}

def validated {α:Type}:Option α→Result α
 | some a=>.ok a
 | none=>.error .validation

def accepted {α:Type}:Option α→Result α
 | some a=>.ok a
 | none=>.error .database

def getOpportunity (s:Store)(opportunityId:String):Result AcquisitionOpportunity:=
 match s.opportunities.find? (·.acquisitionOpportunityId==opportunityId) with
 | some row=>validated (projectionFromRow row)
 | none=>.error (.projectionNotFound opportunityId)

/-- The rows of one stream, `ORDER BY stream_sequence`. -/
def streamRows (s:Store)(opportunityId:String):List AcquisitionEvent:=
 (s.events.filter (·.acquisitionOpportunityId==opportunityId)).insertionSort
  (fun a b=>a.streamSequence≤b.streamSequence)

def listEvents (s:Store)(opportunityId:String):Result (List AcquisitionEvent):=
 (streamRows s opportunityId).mapM (fun row=>validated (eventFromRow row))

def verifyProjection (fromisoformat:String→Option DateTime)(s:Store)
 (opportunityId:String):Result ProjectionVerification:=do
 let current ←getOpportunity s opportunityId
 let events ←listEvents s opportunityId
 let rebuilt ←replay fromisoformat events
 return if current.view=rebuilt.view then .matches else .mismatch

structure SemanticInput where
 eventType:EventType
 stateMachineVersion:String
 actorType:ActorType
 actorRef:Option String
 (reasonCodes evidenceRefs:List String)
 (policyVersion skillVersion supervisorVersion:Option String)
 (confidence estimatedCost:Option ℚ)
 payload:Payload
 (correlationId causationId:Option String)
 occurredAt:Option DateTime

structure Runtime where
 fromisoformat:String→Option DateTime
 isoformat:DateTime→String
 fingerprint:SemanticInput→String

structure Draw where
 clock:DateTime
 (eventId opportunityId:String)

structure MutationResult where
 projection:AcquisitionOpportunity
 event:AcquisitionEvent
 replayed:Bool

/-- The arguments of `_append` and of `append_in_transaction`, whose bodies
differ only in who owns the transaction. -/
structure Append where
 opportunityId:String
 eventType:EventType
 expectedVersion:ℕ
 idempotencyKey:String
 payload:Payload
 actorType:ActorType:=.system
 actorRef:Option String:=none
 reasonCodes:List String:=[]
 evidenceRefs:List String:=[]
 policyVersion:Option String:=none
 skillVersion:Option String:=none
 supervisorVersion:Option String:=none
 confidence:Option ℚ:=none
 estimatedCost:Option ℚ:=none
 correlationId:Option String:=none
 causationId:Option String:=none
 occurredAt:Option DateTime:=none

structure Creation where
 (identityKey signalRef idempotencyKey:String)
 supplierRef:Option String:=none
 contactRef:Option String:=none
 campaignRef:Option String:=none
 actorType:ActorType:=.system
 actorRef:Option String:=none
 reasonCodes:List String:=[]
 evidenceRefs:List String:=[]
 confidence:Option ℚ:=none
 policyVersion:Option String:=none
 skillVersion:Option String:=none
 supervisorVersion:Option String:=none
 estimatedCost:Option ℚ:=none
 correlationId:Option String:=none
 causationId:Option String:=none
 occurredAt:Option DateTime:=none

def textOrNull:Option String→Json
 | some s=>.str s
 | none=>.null

def Creation.append (c:Creation)(opportunityId:String):Append:=
 {c with
   opportunityId
   eventType:=.opportunityCreated
   expectedVersion:=0
   payload:=[("identity_key",.str c.identityKey),("signal_ref",.str c.signalRef),
    ("supplier_ref",textOrNull c.supplierRef),("contact_ref",textOrNull c.contactRef),
    ("campaign_ref",textOrNull c.campaignRef)]}

def semanticInput (a:Append):SemanticInput:=
 {a with
   stateMachineVersion:=stateMachineVersion}

/-- The `AcquisitionEvent(...)` call shared by both writers. -/
def newEvent (rt:Runtime)(draw:Draw)(a:Append):Option AcquisitionEvent:=
 AcquisitionEvent.modelValidate
  {a with
    eventId:=draw.eventId
    acquisitionOpportunityId:=a.opportunityId
    streamSequence:=a.expectedVersion+1
    schemaVersion:=eventSchemaVersion
    stateMachineVersion:=stateMachineVersion
    occurredAt:=a.occurredAt.getD draw.clock
    recordedAt:=draw.clock
    semanticFingerprint:=rt.fingerprint (semanticInput a)}

/-- `INSERT INTO acquisition_event`, with its primary key and two unique pairs. -/
def insertEvent (db:Backend)(s:Store)(e:AcquisitionEvent):Result Store:=do
 let row ←accepted (eventValues db e)
 if s.events.any (fun other=>other.eventId==row.eventId ||
   other.acquisitionOpportunityId==row.acquisitionOpportunityId &&
    (other.streamSequence==row.streamSequence ||
     other.idempotencyKey==row.idempotencyKey)) then .error .database
 else .ok {s with events:=s.events++[row]}

def refuseUnless (c:Prop)[Decidable c](error:AcquisitionError):Result Unit:=
 if c then .ok () else .error error

/-- `UPDATE ... WHERE id AND stream_version = expected`, and its row count. -/
def updateProjection (s:Store)(opportunityId:String)(expectedVersion:ℕ)
 (values:AcquisitionOpportunity):Store × ℕ:=
 let matched:AcquisitionOpportunity→Bool:=fun row=>
  row.acquisitionOpportunityId==opportunityId&&row.streamVersion==expectedVersion
 ({s with
     opportunities:=Tables.update matched (fun row=>
      {values with acquisitionOpportunityId:=row.acquisitionOpportunityId})
      s.opportunities},
  s.opportunities.countP matched)

def replayedResult (rt:Runtime)(a:Append)(current:AcquisitionOpportunity)
 (row:AcquisitionEvent):Result MutationResult:=do
 let existing ←validated (eventFromRow row)
 refuseUnless (existing.semanticFingerprint=rt.fingerprint (semanticInput a))
  (.idempotencyConflict a.idempotencyKey)
 return ⟨current,existing,true⟩

def append (rt:Runtime)(db:Backend)(s:Store)(draw:Draw)(a:Append) :
 Result (Store × MutationResult):=do
 let current ←getOpportunity s a.opportunityId
 match s.events.find? (fun row=>row.acquisitionOpportunityId==a.opportunityId &&
   row.idempotencyKey==a.idempotencyKey) with
 | some row =>
  let result ←replayedResult rt a current row
  return (s,result)
 | none =>
  refuseUnless (current.streamVersion=a.expectedVersion) (.concurrencyConflict
   ("expected "++toString a.expectedVersion++", found "++toString current.streamVersion))
  let event ←validated (newEvent rt draw a)
  let nextProjection ←reduceEvent rt.fromisoformat (some current) event
  let values ←accepted (projectionValues db nextProjection)
  let (updated,rowcount):=updateProjection s a.opportunityId a.expectedVersion values
  refuseUnless (rowcount=1) (.concurrencyConflict a.opportunityId)
  let inserted ←insertEvent db updated event
  return (inserted,⟨nextProjection,event,false⟩)

def existingIdentity (rt:Runtime)(s:Store)(c:Creation)(a:Append)
 (existingRow:AcquisitionOpportunity):Result MutationResult:=do
 let existing ←validated (projectionFromRow existingRow)
 let creationRow ←accepted (s.events.find? (fun row=>
  row.acquisitionOpportunityId==existing.acquisitionOpportunityId &&row.streamSequence==1))
 let creation ←validated (eventFromRow creationRow)
 refuseUnless (creation.idempotencyKey=c.idempotencyKey) (.identityConflict c.identityKey)
 refuseUnless (creation.semanticFingerprint=rt.fingerprint (semanticInput a))
  (.idempotencyConflict c.idempotencyKey)
 return ⟨existing,creation,true⟩

def rowOfIdentity (s:Store)(identityKey:String):Option AcquisitionOpportunity:=
 s.opportunities.find? (·.identityKey==identityKey)

/-- `INSERT ... ON CONFLICT (identity_key) DO NOTHING RETURNING 1`; the primary
key still refuses a duplicate. -/
def insertOpportunityIfAbsent (db:Backend)(s:Store)(p:AcquisitionOpportunity) :
 Result (Option Store):=do
 let acquisitionOpportunityId ←accepted (db.varchar 64 p.acquisitionOpportunityId)
 let values ←accepted (projectionValues db p)
 let row:={values with acquisitionOpportunityId}
 if (rowOfIdentity s row.identityKey).isSome then .ok none
 else if s.opportunities.any (·.acquisitionOpportunityId==acquisitionOpportunityId) then
  .error .database
 else .ok (some {s with opportunities:=s.opportunities++[row]})

def createOpportunity (rt:Runtime)(db:Backend)(s:Store)(draw:Draw)(c:Creation) :
 Result (Store × MutationResult):=do
 let a:=c.append draw.opportunityId
 match rowOfIdentity s c.identityKey with
 | some existingRow =>
  let result ←existingIdentity rt s c a existingRow
  return (s,result)
 | none =>
  let event ←validated (newEvent rt draw a)
  let projection ←reduceEvent rt.fromisoformat none event
  match ←insertOpportunityIfAbsent db s projection with
  | none =>
   let existingRow ←accepted (rowOfIdentity s c.identityKey)
   let result ←existingIdentity rt s c a existingRow
   return (s,result)
  | some inserted =>
   let inserted ←insertEvent db inserted event
   return (inserted,⟨projection,event,false⟩)

inductive Mutation where
 | createOpportunity (creation:Creation)
 | transitionState (opportunityId:String)(targetState:AcquisitionState)
   (expectedVersion:ℕ)(idempotencyKey:String)(reasonCodes evidenceRefs:List String)
   (nextReviewAt:Option DateTime)(actorType:ActorType)
   (actorRef correlationId causationId:Option String)(occurredAt:Option DateTime)
 | recordDecision (opportunityId:String)(decision:Decision)
   (reasonCodes evidenceRefs:List String)(confidence:ℚ)
   (policyVersion skillVersion:String)(estimatedCost:ℚ)(expectedVersion:ℕ)
   (idempotencyKey:String)(nextReviewAt:Option DateTime)
   (supervisorVersion:Option String)(actorType:ActorType)
   (actorRef correlationId causationId:Option String)(occurredAt:Option DateTime)
 | setNextAction (opportunityId nextAction:String)(expectedVersion:ℕ)
   (idempotencyKey:String)(actorType:ActorType)(actorRef:Option String)
   (occurredAt:Option DateTime)
 | scheduleRetry (opportunityId:String)(retryAt:DateTime)(errorCategory:String)
   (reasonCodes:List String)(expectedVersion:ℕ)(idempotencyKey:String)
   (actorType:ActorType)(actorRef:Option String)(occurredAt:Option DateTime)
 | recordOutcome (opportunityId:String)(outcomeState:AcquisitionState)
   (expectedVersion:ℕ)(idempotencyKey:String)(reasonCodes evidenceRefs:List String)
   (actorType:ActorType)(actorRef:Option String)(occurredAt:Option DateTime)
 | recordSupervisorPlanObserved (opportunityId:String)(payload:Payload)
   (reasonCodes evidenceRefs:List String)(confidence estimatedCost:ℚ)
   (supervisorVersion skillVersion:String)(expectedVersion:ℕ)(idempotencyKey:String)
   (occurredAt:DateTime)
 | appendInTransaction (append:Append)

/-- `payload["next_review_at"] = next_review_at.isoformat()` where one is given. -/
def reviewPayload (rt:Runtime):Option DateTime→Payload
 | some d=>[("next_review_at",.str (rt.isoformat d))]
 | none=>[]

/-- The `_append` call a mutation makes; a creation has its own writer. -/
def Mutation.append (rt:Runtime)(draw:Draw):Mutation→Append
 | .createOpportunity creation=>creation.append draw.opportunityId
 | .transitionState opportunityId targetState expectedVersion idempotencyKey reasonCodes
   evidenceRefs nextReviewAt actorType actorRef correlationId causationId occurredAt =>
  { opportunityId,expectedVersion,idempotencyKey,reasonCodes,evidenceRefs,actorType,
    actorRef,correlationId,causationId,occurredAt
    eventType:=.stateTransitioned
    payload:=("target_state",.str targetState.value)::reviewPayload rt nextReviewAt}
 | .recordDecision opportunityId decision reasonCodes evidenceRefs confidence policyVersion
   skillVersion estimatedCost expectedVersion idempotencyKey nextReviewAt supervisorVersion
   actorType actorRef correlationId causationId occurredAt =>
  { opportunityId,expectedVersion,idempotencyKey,reasonCodes,evidenceRefs,
    supervisorVersion,actorType,actorRef,correlationId,causationId,occurredAt
    eventType:=.decisionRecorded
    policyVersion:=some policyVersion
    skillVersion:=some skillVersion
    confidence:=some confidence
    estimatedCost:=some estimatedCost
    payload:=("decision",.str decision.value)::reviewPayload rt nextReviewAt}
 | .setNextAction opportunityId nextAction expectedVersion idempotencyKey actorType actorRef
   occurredAt =>
  { opportunityId,expectedVersion,idempotencyKey,actorType,actorRef,occurredAt
    eventType:=.nextActionSet
    payload:=[("next_action",.str nextAction)]}
 | .scheduleRetry opportunityId retryAt errorCategory reasonCodes expectedVersion
   idempotencyKey actorType actorRef occurredAt =>
  { opportunityId,expectedVersion,idempotencyKey,reasonCodes,actorType,actorRef,occurredAt
    eventType:=.retryScheduled
    payload:=[("retry_at",.str (rt.isoformat retryAt)),("error_category",.str errorCategory)]}
 | .recordOutcome opportunityId outcomeState expectedVersion idempotencyKey reasonCodes
   evidenceRefs actorType actorRef occurredAt =>
  { opportunityId,expectedVersion,idempotencyKey,reasonCodes,evidenceRefs,actorType,
    actorRef,occurredAt
    eventType:=.outcomeRecorded
    payload:=[("outcome_state",.str outcomeState.value)]}
 | .recordSupervisorPlanObserved opportunityId payload reasonCodes evidenceRefs confidence
   estimatedCost supervisorVersion skillVersion expectedVersion idempotencyKey occurredAt =>
  { opportunityId,expectedVersion,idempotencyKey,reasonCodes,evidenceRefs,payload
    eventType:=.supervisorPlanObserved
    actorType:=.hermes
    actorRef:=some "kivou-acquisition-supervisor"
    skillVersion:=some skillVersion
    supervisorVersion:=some supervisorVersion
    confidence:=some confidence
    estimatedCost:=some estimatedCost
    occurredAt:=some occurredAt}
 | .appendInTransaction append=>append

def apply (rt:Runtime)(db:Backend)(s:Store)(call:Draw × Mutation):Result Store:=
 match call.2 with
 | .createOpportunity creation =>(createOpportunity rt db s call.1 creation).map Prod.fst
 | mutation=>(append rt db s call.1 (mutation.append rt call.1)).map Prod.fst

def transact (rt:Runtime)(db:Backend)(s:Store)(calls:List (Draw × Mutation)):Store:=
 match calls.foldlM (apply rt db) s with
 | .ok committed=>committed
 | .error _=>s

end Kivou.AcquisitionStore
