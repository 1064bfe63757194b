import Kivou.BounceBreaker
import Kivou.SafetyControls
import Mathlib.Data.List.Dedup
import Mathlib.Data.List.Sort

set_option autoImplicit false

/-! A scan reads what is recorded of one campaign, opens an incident for each fault that it finds
there, and lowers the autonomy of the acquisition after each. -/
namespace Kivou.ReliabilityObserver
open PythonValues PolicyControls SafetyControls OperationalIncidents BounceBreaker

structure ProviderEvent where
 providerEventRef:SafeRef
 providerEventType:String
 step:Option ℕ
 memberRef:Option SafeRef
 incidentCode:Option String

structure ResponseEvaluation where
 responseEvaluationId:SafeRef
 processingState:String
 classification:Option String

structure ProviderOperation where
 operationRef:SafeRef
 (kind state:String)
 errorCode:Option String

structure History where
 campaignRef:SafeRef
 internal:isInternalRef campaignRef.text=true
 wedge:SafeRef
 country:Country
 events:List ProviderEvent
 evaluations:List ResponseEvaluation
 operations:List ProviderOperation

def criticalTransportCodes:List String:=
 ["UNEXPECTED_EMAIL_SENT_AFTER_STOP","CONFLICTING_STEP1_TRANSPORT_TRUTH","DUPLICATE_BUSINESS_SEND",
  "TRANSPORT_STATE_CONFLICT"]

def positiveProviderKinds:List String:=
 ["CREATE_CAMPAIGN","CONFIGURE_CAMPAIGN","ADD_LEAD","ACTIVATE_CAMPAIGN"]

/-- `canonical_fingerprint`, in the domains of a scan. -/
structure ScanDigests extends Digests where
 ofBounces:SafeRef→List SafeRef→List SafeRef→SafeRef
 ofFailures:List SafeRef→SafeRef
 ofControl:SafetyPayload→String

def scope (h:History):BreakerScope:=⟨.campaign,h.campaignRef,h.internal⟩

/-- `sorted` of a set of references. -/
def sortedSet (refs:List SafeRef):List SafeRef:=refs.dedup.insertionSort (fun a b=>a.text≤b.text)

def sentMembers (h:History):List SafeRef:=sortedSet (h.events.filterMap fun row=>
  if row.providerEventType="email_sent" ∧ row.step=some 1 then row.memberRef else none)

def bouncedMembers (h:History):List SafeRef:=sortedSet (h.events.filterMap fun row=>
  if row.providerEventType="email_bounced" ∧ row.step=some 1 then
   row.memberRef.filter (fun m=>(sentMembers h).contains m)
  else none)

lemma mem_sortedSet {refs:List SafeRef}{r:SafeRef}:r∈sortedSet refs ↔ r∈refs:=by
 rw[sortedSet,(List.perm_insertionSort _ _).mem_iff,List.mem_dedup]

lemma sortedSet_nodup (refs:List SafeRef):(sortedSet refs).Nodup:=
 (List.perm_insertionSort _ _).nodup_iff.mpr refs.nodup_dedup

lemma bouncedMembers_subset (h:History):bouncedMembers h ⊆ sentMembers h:=by
 intro r mem
 obtain ⟨row,-,kept⟩:=List.mem_filterMap.mp (mem_sortedSet.mp mem)
 split at kept
 · obtain ⟨-,sent⟩:=Option.filter_eq_some_iff.mp kept
   simpa using sent
 · cases kept

lemma bouncedMembers_length (h:History)(bound:(sentMembers h).length≤100000) :
 (bouncedMembers h).length≤100000:=
 ((sortedSet_nodup _).subperm (bouncedMembers_subset h)).length_le.trans bound

/-- The observation of the bounces; `none` when its contract refuses the sample. -/
def bounceObservation (digests:ScanDigests)(h:History)(at':ℤ):Option BounceObservation:=
 if bound:(sentMembers h).length≤100000 then
  some
   { scope:=scope h
     authoritativeStep1Members:=sentMembers h
     bouncedStep1Members:=bouncedMembers h
     sourceStateRef:=digests.ofBounces h.campaignRef (sentMembers h) (bouncedMembers h)
     observedAt:=at'
     campaignRef:=some h.campaignRef
     mailboxRef:=none
     wedge:=some h.wedge
     country:=some h.country
     sentBound:=bound
     bouncedBound:=bouncedMembers_length h bound
     sentUnique:=sortedSet_nodup _
     bouncedUnique:=sortedSet_nodup _
     bouncedSent:=bouncedMembers_subset h}
 else none

def bounceTrigger (o:BounceObservation):Except Failure (Option IncidentTrigger):=
 if o.sentCount<bounceMinimumSample then .ok none
 else if o.rate≤bounceMaximumRate then .ok none
 else o.trigger.checked.map some

/-- `observe_complaint` and `observe_critical_transport`: the trigger of one row. -/
def campaignTrigger (h:History)(incidentType:IncidentType)(severity:IncidentSeverity)
 (sourceStateRef:SafeRef)(reasonCodes:List String)(at':ℤ):Trigger where
 incidentType
 severity
 scope:=scope h
 sourceStateRef
 triggeredAt:=at'
 reasonCodes
 observedValue:=none
 thresholdValue:=none
 metricVersion:=none
 campaignRef:=none
 mailboxRef:=none
 wedge:=none
 country:=none
 humanReviewRequired:=true
 pauseRequired:=true
 policyControlBefore:=none
 policyControlAfter:=none

def complaintTrigger (h:History)(responseEvaluationRef:SafeRef)(at':ℤ):Trigger:=
 campaignTrigger h .complaint .high responseEvaluationRef ["AUTHORITATIVE_COMPLAINT"] at'

def criticalTransportTrigger (h:History)(providerEventRef:SafeRef)(incidentCode:String)
 (at':ℤ):Trigger:=
 campaignTrigger h .unexpectedTransportTruth .critical providerEventRef
  [incidentCode,"AUTHORITATIVE_SENT_TRUTH_PRESERVED"] at'

def providerFailureBreakerVersion:SafeRef:=⟨"provider-failure-breaker-v1",rfl⟩
def providerFailureThreshold:ℕ:=3

/-- Whether an operation counts as a failure; `none` where the count ends. -/
def failing (operation:ProviderOperation)(code:String):Option Bool:=
 if operation.state="TERMINAL_FAILED" ∨ operation.state="RECONCILE_REQUIRED" then
  some (code != "RATE_LIMITED")
 else if operation.state="RETRYABLE_FAILED" ∧ code≠"RATE_LIMITED" then some true
 else none

def consecutiveFailures:ℕ→List ProviderOperation→List (SafeRef × String)
 | 0,_=>[]
 | _+1,[]=>[]
 | n+1,operation::rest =>
  if !positiveProviderKinds.contains operation.kind then consecutiveFailures (n+1) rest
  else
   -- An empty code is falsy: the state stands for it.
   let code:=(operation.errorCode.filter (· != "")).getD operation.state
   match failing operation code with
   | none=>[]
   | some false=>consecutiveFailures (n+1) rest
   | some true=>(operation.operationRef,code)::consecutiveFailures n rest

def ignoredFailureCodes:List String:=["RATE_LIMITED","SEND_WINDOW_CLOSED","NORMAL_WAITING"]

def providerFailureTrigger (digests:ScanDigests)(h:History)(failureRefs:List SafeRef)
 (qualifying:ℕ)(at':ℤ):Trigger where
 incidentType:=.providerFailure
 severity:=.high
 scope:=scope h
 sourceStateRef:=digests.ofFailures failureRefs
 triggeredAt:=at'
 reasonCodes:=["CONSECUTIVE_PROVIDER_FAILURES","RECONCILE_BEFORE_RETRY"]
 observedValue:=some qualifying
 thresholdValue:=some providerFailureThreshold
 metricVersion:=some providerFailureBreakerVersion
 campaignRef:=some h.campaignRef
 mailboxRef:=none
 wedge:=none
 country:=none
 humanReviewRequired:=true
 pauseRequired:=true
 policyControlBefore:=none
 policyControlAfter:=none

def providerTrigger (digests:ScanDigests)(h:History)(at':ℤ) :
 Except Failure (Option IncidentTrigger):=
 let failures:=consecutiveFailures providerFailureThreshold h.operations
 if !(failures.all (fun failure=>isSafeCode failure.2)&&decide (failures.map Prod.fst).Nodup) then
  .error .validationError
 else
  let qualifying:=failures.filter (fun failure=>!ignoredFailureCodes.contains failure.2)
  if qualifying.length<providerFailureThreshold then .ok none
  else
   (providerFailureTrigger digests h (failures.map Prod.fst) qualifying.length at').checked.map some

inductive Finding where
 | bounces
 | complaint (responseEvaluationRef:SafeRef)
 | criticalTransport (providerEventRef:SafeRef)(incidentCode:String)
 | providerFailures

def Finding.critical:Finding→Bool
 | .criticalTransport _ _=>true
 | _=>false

def isComplaint (e:ResponseEvaluation):Bool:=
 e.processingState=="FINALIZED"&&e.classification==some "COMPLAINT"

def criticalFinding (e:ProviderEvent):Option Finding:=
 (e.incidentCode.filter criticalTransportCodes.contains).map (.criticalTransport e.providerEventRef)

/-- What a scan looks for. The `SELECT` of the complaints has no order; the scans of one
history take them in one and the same, that of its list. -/
def findings (h:History):List Finding:=
 .bounces::(h.evaluations.filter isComplaint).map (fun e=>.complaint e.responseEvaluationId) ++
  h.events.filterMap criticalFinding++[.providerFailures]

variable (digests:ScanDigests)(h:History)

def observe (at':ℤ):Finding→Except Failure (Option IncidentTrigger)
 | .bounces =>
  match bounceObservation digests h at' with
  | none=>.error .validationError
  | some observation=>bounceTrigger observation
 | .complaint reference=>(complaintTrigger h reference at').checked.map some
 | .criticalTransport reference code=>(criticalTransportTrigger h reference code at').checked.map some
 | .providerFailures=>providerTrigger digests h at'

def record (db:Db):Except Failure (Option IncidentTrigger)→Except Failure (Option SaveResult) × Db
 | .error failure=>(.error failure,db)
 | .ok none=>(.ok none,db)
 | .ok (some trigger) =>
  ((openIncident digests.toDigests db trigger).1.map some,
   (openIncident digests.toDigests db trigger).2)

structure State where
 incidents:Db
 controls:Log

inductive ScanError where
 | incident (failure:Failure)
 | safety (error:SafetyError)

structure Outcome where
 incidentRef:String
 critical:Bool
 deriving DecidableEq

def Outcome.code (o:Outcome):String:=
 "INCIDENT_"++String.ofList ((o.incidentRef.toList.take 16).map Char.toUpper)

def Outcome.reasonCodes (o:Outcome):List String:=
 [if o.critical then "CRITICAL_OPERATIONAL_INCIDENT" else "OPERATIONAL_INCIDENT",o.code]

/-- The safety call that `_downgrade` makes for an incident. -/
def safetyCall (log:Log)(at':ℤ)(o:Outcome):Except SafetyError (Control × Log):=
 if o.critical then criticalStop digests.ofControl log at' o.reasonCodes
 else downgrade digests.ofControl log at' o.reasonCodes

/-- `_downgrade`. -/
def lowerAutonomy (at':ℤ)(o:Outcome)(s:State):Except ScanError Unit × State:=
 match getEffectiveControl s.controls at' with
 | none=>(.ok (),s)
 | some before =>
  match safetyCall digests s.controls at' o with
  | .error error=>(.error (.safety error),s)
  | .ok (after,log) =>
   match bindIncidentPolicyControls s.incidents o.incidentRef before.policySnapshotId
     after.policySnapshotId at' with
   | (.error failure,db)=>(.error (.incident failure),⟨db,log⟩)
   | (.ok _,db)=>(.ok (),⟨db,log⟩)

def scanFindings (at':ℤ):List Finding→State→Except ScanError (List String) × State
 | [],s=>(.ok [],s)
 | finding::rest,s =>
  match record digests s.incidents (observe digests h at' finding) with
  | (.error failure,db)=>(.error (.incident failure),⟨db,s.controls⟩)
  | (.ok none,db)=>scanFindings at' rest ⟨db,s.controls⟩
  | (.ok (some saved),db) =>
   match lowerAutonomy digests at' ⟨saved.row.incidentRef,finding.critical⟩ ⟨db,s.controls⟩ with
   | (.error error,s')=>(.error error,s')
   | (.ok _,s') =>
    ((scanFindings at' rest s').1.map (saved.row.incidentRef::·),(scanFindings at' rest s').2)

/-- `scan_campaign`: the references of the incidents, and what is written. -/
def scanCampaign (at':ℤ)(s:State):Except ScanError (List String) × State:=
 ((scanFindings digests h at' (findings h) s).1.map
   (fun refs=>refs.dedup.insertionSort (· ≤ ·)),
  (scanFindings digests h at' (findings h) s).2)

end Kivou.ReliabilityObserver
