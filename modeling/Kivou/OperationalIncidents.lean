import Kivou.Columns
import Kivou.Decimals
import Kivou.PolicyControls
import Kivou.Runs
import Kivou.Tables

set_option autoImplicit false

/-! The store of the incidents of the acquisition. An incident is written once for its trigger; a
trigger that comes again is compared with the row, and a breaker is open as long as an incident of
its scope is not resolved. -/
namespace Kivou.OperationalIncidents
open PythonValues Decimals Columns PolicyControls Tables

structure SafeRef where
 text:String
 form:boundedText 256 text=true
 deriving DecidableEq

def isCodeStart (c:Char):Bool:=(65≤c.toNat&&c.toNat≤90)||(48≤c.toNat&&c.toNat≤57)

/-- `^[A-Z0-9][A-Z0-9_:-]{0,99}$`. -/
def isSafeCode (text:String):Bool:=
 match text.toList with
 | []=>false
 | c::rest =>
  isCodeStart c&&rest.length≤99 &&rest.all (fun c=>isCodeStart c||c == '_' || c == ':' || c == '-')

/-- What `_internal_ref` accepts: neither an address nor a URL, and no white space. -/
def isInternalRef (text:String):Bool:=
 !(text.toList.contains '@' || decide ([':','/','/'] <:+: text.toList)||text.toList.any isSpace)

inductive ScopeType where
 | global | country | wedge | campaign | mailbox
 deriving DecidableEq

inductive IncidentType where
 | bounceRate | complaint | complianceFailure | providerFailure | unexpectedTransportTruth
 | budgetBreach | costDrift | conversionDegradation | retentionDegradation | mailboxUnavailable
 deriving DecidableEq

inductive IncidentSeverity where
 | warning | high | critical
 deriving DecidableEq

inductive IncidentState where
 | opened | acknowledged | resolved
 deriving DecidableEq

inductive Country where
 | ch | fr
 deriving DecidableEq

structure BreakerScope where
 scopeType:ScopeType
 scopeRef:SafeRef
 internal:isInternalRef scopeRef.text=true

/-- The values of an `IncidentTrigger`; instants are in microseconds. -/
structure Trigger where
 incidentType:IncidentType
 severity:IncidentSeverity
 scope:BreakerScope
 sourceStateRef:SafeRef
 triggeredAt:ℤ
 reasonCodes:List String
 (observedValue thresholdValue:Option ℚ)
 (metricVersion campaignRef mailboxRef wedge:Option SafeRef)
 country:Option Country
 (humanReviewRequired pauseRequired:Bool)
 (policyControlBefore policyControlAfter:Option SafeRef)

def isInternal (reference:Option SafeRef):Bool:=reference.all (fun r=>isInternalRef r.text)

def Trigger.accepted (t:Trigger):Bool:=
 1≤t.reasonCodes.length&&t.reasonCodes.length≤16&&t.reasonCodes.all isSafeCode &&
  isInternalRef t.sourceStateRef.text&&isInternal t.campaignRef&&isInternal t.mailboxRef &&
  isInternal t.wedge

structure IncidentTrigger extends Trigger where
 form:toTrigger.accepted=true

inductive Failure where
 | validationError
 | dataError
 | integrityError
 | keyError (incidentRef:String)
 | operationsConflict (message:String)

def Trigger.checked (t:Trigger):Except Failure IncidentTrigger:=
 if h:t.accepted=true then .ok ⟨t,h⟩ else .error .validationError

structure TriggerIdentity where
 incidentType:IncidentType
 scope:BreakerScope
 sourceStateRef:SafeRef
 metricVersion:Option SafeRef

def Trigger.identity (t:Trigger):TriggerIdentity:=
 ⟨t.incidentType,t.scope,t.sourceStateRef,t.metricVersion⟩

/-- `canonical_fingerprint`, in the two domains of an incident. -/
structure Digests where
 ofIdentity:TriggerIdentity→String
 ofFingerprint:String→String

variable (digests:Digests)

def Trigger.triggerFingerprint (t:Trigger):String:=digests.ofIdentity t.identity

def Trigger.incidentRef (t:Trigger):String:=digests.ofFingerprint (t.triggerFingerprint digests)

def breakerVersion:String:="acquisition-circuit-breaker-v1"

/-- A row of `acquisition_operational_incident`. -/
structure Incident where
 (incidentRef triggerFingerprint incidentVersion:String)
 incidentType:IncidentType
 severity:IncidentSeverity
 scopeType:ScopeType
 (scopeRef sourceStateRef:String)
 triggeredAt:ℤ
 (observedValue thresholdValue:Option ℚ)
 metricVersion:Option String
 reasonCodes:List String
 state:IncidentState
 (humanReviewRequired pauseRequired:Bool)
 (policyControlBefore policyControlAfter campaignRef mailboxRef wedge:Option String)
 country:Option Country
 (acknowledgedAt resolvedAt:Option ℤ)
 (createdAt updatedAt:ℤ)

/-- The values that `open_incident` writes for a trigger. -/
def Trigger.values (t:Trigger):Incident where
 __:=t
 incidentRef:=t.incidentRef digests
 triggerFingerprint:=t.triggerFingerprint digests
 incidentVersion:=breakerVersion
 scopeType:=t.scope.scopeType
 scopeRef:=t.scope.scopeRef.text
 sourceStateRef:=t.sourceStateRef.text
 metricVersion:=t.metricVersion.map SafeRef.text
 state:=.opened
 policyControlBefore:=t.policyControlBefore.map SafeRef.text
 policyControlAfter:=t.policyControlAfter.map SafeRef.text
 campaignRef:=t.campaignRef.map SafeRef.text
 mailboxRef:=t.mailboxRef.map SafeRef.text
 wedge:=t.wedge.map SafeRef.text
 acknowledgedAt:=none
 resolvedAt:=none
 createdAt:=t.triggeredAt
 updatedAt:=t.triggeredAt

/-- A `VARCHAR(n)` takes a text that is no longer and has no NUL. -/
def fitsColumn (n:ℕ)(text:String):Bool:=text.length≤n&&!text.toList.contains '\x00'

def Incident.fits (v:Incident):Bool:=
 fitsColumn 256 v.scopeRef&&fitsColumn 256 v.sourceStateRef&&v.metricVersion.all (fitsColumn 64) &&
  v.policyControlBefore.all (fitsColumn 64)&&v.policyControlAfter.all (fitsColumn 64) &&
  v.campaignRef.all (fitsColumn 64)&&v.mailboxRef.all (fitsColumn 100) &&
  v.wedge.all (fitsColumn 100)

def Incident.stored (v:Incident):Option Incident:=
 if v.fits then
  (whenPresent (numeric 24 8) v.observedValue).bind fun observed=>
   (whenPresent (numeric 24 8) v.thresholdValue).map fun threshold=>
    {v with observedValue:=observed,thresholdValue:=threshold}
 else none

structure Db where
 incidents:List Incident
 campaigns:List String

/-- `insert_if_absent` on the fingerprint: whether a row was written. -/
def insertIncident (db:Db)(values:Incident):Except Failure (Bool × Db):=
 match values.stored with
 | none=>.error .dataError
 | some row =>
  if db.incidents.any (fun r=>r.triggerFingerprint==row.triggerFingerprint) then .ok (false,db)
  else if db.incidents.any (fun r=>r.incidentRef==row.incidentRef) then .error .integrityError
  else if row.campaignRef.any (fun c=>!db.campaigns.contains c) then .error .integrityError
  else .ok (true,{db with incidents:=db.incidents++[row]})

def incident? (db:Db)(incidentRef:String):Option Incident:=
 db.incidents.find? (fun r=>r.incidentRef==incidentRef)

def incident (db:Db)(incidentRef:String):Except Failure Incident:=
 match incident? db incidentRef with
 | some row=>.ok row
 | none=>.error (.keyError incidentRef)

def Incident.compared (row values:Incident):List (String × Bool):=
 [("incident_ref",row.incidentRef==values.incidentRef),
  ("trigger_fingerprint",row.triggerFingerprint==values.triggerFingerprint),
  ("incident_version",row.incidentVersion==values.incidentVersion),
  ("incident_type",row.incidentType==values.incidentType),
  ("severity",row.severity==values.severity),
  ("scope_type",row.scopeType==values.scopeType),
  ("scope_ref",row.scopeRef==values.scopeRef),
  ("source_state_ref",row.sourceStateRef==values.sourceStateRef),
  ("observed_value",row.observedValue==values.observedValue),
  ("threshold_value",row.thresholdValue==values.thresholdValue),
  ("metric_version",row.metricVersion==values.metricVersion),
  ("reason_codes",row.reasonCodes==values.reasonCodes),
  ("human_review_required",row.humanReviewRequired==values.humanReviewRequired),
  ("pause_required",row.pauseRequired==values.pauseRequired),
  ("campaign_ref",row.campaignRef==values.campaignRef),
  ("mailbox_ref",row.mailboxRef==values.mailboxRef),
  ("wedge",row.wedge==values.wedge),
  ("country",row.country==values.country)]

def requireSame (row values:Incident):Except Failure Unit:=
 match (row.compared values).find? (fun column=>!column.2) with
 | some column=>.error (.operationsConflict ("conflicting replay for "++column.1))
 | none=>.ok ()

structure SaveResult where
 row:Incident
 replayed:Bool

/-- The transaction of `open_incident`. -/
def saveIncident (db:Db)(values:Incident):Except Failure (SaveResult × Db):=do
 let (inserted,db') ←insertIncident db values
 let row ←incident db' values.incidentRef
 requireSame row values
 return (⟨row,!inserted⟩,db')

def committed {α:Type}(db:Db)(result:Except Failure (α × Db)):Except Failure α × Db:=
 match result with
 | .ok (value,db')=>(.ok value,db')
 | .error failure=>(.error failure,db)

def openIncident (db:Db)(trigger:IncidentTrigger):Except Failure SaveResult × Db:=
 committed db (saveIncident db (trigger.values digests))

/-- `UPDATE ... WHERE incident_ref = ...`. -/
def Db.write (db:Db)(incidentRef:String)(f:Incident→Incident):Db:=
 {db with incidents:=update (fun r=>r.incidentRef==incidentRef) f db.incidents}

def Incident.acknowledge (at':ℤ)(r:Incident):Incident:=
 {r with state:=.acknowledged,acknowledgedAt:=some at',updatedAt:=at'}

def Incident.resolve (at':ℤ)(r:Incident):Incident:=
 {r with
   state:=.resolved
   resolvedAt:=some at'
   acknowledgedAt:=r.acknowledgedAt.or (some at')
   updatedAt:=at'}

def Incident.bind (beforeRef afterRef:String)(at':ℤ)(r:Incident):Incident:=
 {r with
   policyControlBefore:=r.policyControlBefore.or (some beforeRef)
   policyControlAfter:=r.policyControlAfter.or (some afterRef)
   updatedAt:=at'}

def acknowledgeIncident (db:Db)(incidentRef:String)(at':ℤ):Except Failure Incident × Db:=
 match incident? db incidentRef with
 | none=>(.error (.keyError incidentRef),db)
 | some row =>
  if row.state=.opened then
   let db':=db.write incidentRef (Incident.acknowledge at')
   (incident db' incidentRef,db')
  else (.ok row,db)

def resolveIncident (db:Db)(incidentRef:String)(at':ℤ):Except Failure Incident × Db:=
 match incident? db incidentRef with
 | none=>(.error (.keyError incidentRef),db)
 | some row =>
  if row.state=.resolved then (.ok row,db)
  else
   let db':=db.write incidentRef (Incident.resolve at')
   (incident db' incidentRef,db')

def bindIncidentPolicyControls (db:Db)(incidentRef beforeRef afterRef:String)(at':ℤ) :
 Except Failure Incident × Db:=
 match incident? db incidentRef with
 | none=>(.error (.keyError incidentRef),db)
 | some row =>
  if row.policyControlBefore.any (· != beforeRef)&&row.policyControlAfter.isNone then
   (.error (.operationsConflict "incident Policy predecessor conflicts"),db)
  else if row.policyControlAfter.any (· != afterRef) then (.ok row,db)
  else if !(row.policyControlBefore.isSome||fitsColumn 64 beforeRef) ||
    !(row.policyControlAfter.isSome||fitsColumn 64 afterRef) then
   (.error .dataError,db)
  else
   let db':=db.write incidentRef (Incident.bind beforeRef afterRef at')
   (incident db' incidentRef,db')

def Incident.blocks (scope:BreakerScope)(row:Incident):Bool:=
 row.state != .resolved&&(row.severity==.high||row.severity==.critical) &&
  ((row.scopeType==.global&&row.scopeRef=="acquisition") ||
   (row.scopeType==scope.scopeType&&row.scopeRef==scope.scopeRef.text))

def hasOpenBreaker (db:Db)(scope:BreakerScope):Bool:=db.incidents.any (Incident.blocks scope)

inductive Operation where
 | openIncident (trigger:IncidentTrigger)
 | acknowledge (incidentRef:String)(at':ℤ)
 | resolve (incidentRef:String)(at':ℤ)
 | bind (incidentRef beforeRef afterRef:String)(at':ℤ)

def step (db:Db):Operation→Db
 | .openIncident trigger=>(openIncident digests db trigger).2
 | .acknowledge incidentRef at'=>(acknowledgeIncident db incidentRef at').2
 | .resolve incidentRef at'=>(resolveIncident db incidentRef at').2
 | .bind incidentRef beforeRef afterRef at' =>
  (bindIncidentPolicyControls db incidentRef beforeRef afterRef at').2

variable {digests}{db db':Db}{values row:Incident}

lemma requireSame_ok : requireSame row values=.ok () ↔ ∀column∈row.compared values,column.2=true:=by
 unfold requireSame
 constructor
 · intro h column mem
   split at h
   · cases h
   · rename_i none
     simpa using List.find?_eq_none.mp none column mem
 · intro h
   have none:(row.compared values).find? (fun column=>!column.2)=none:=by
    apply List.find?_eq_none.mpr
    intro column mem
    simp[h column mem]
   rw[none]

lemma incident_ok {reference:String} :
 incident db reference=.ok row ↔ incident? db reference=some row:=by
 unfold incident
 cases incident? db reference <;> simp

lemma stored_fields (h:values.stored=some row) :
 row={values with observedValue:=row.observedValue,thresholdValue:=row.thresholdValue}:=by
 unfold Incident.stored at h
 split at h
 · obtain ⟨observed,-,kept⟩:=Option.bind_eq_some_iff.mp h
   obtain ⟨threshold,-,rfl⟩:=Option.map_eq_some_iff.mp kept
   rfl
 · cases h

inductive Inserted (db:Db)(values:Incident):Bool→Db→Prop
 | taken (there:∃r∈db.incidents,r.triggerFingerprint=values.triggerFingerprint) :
   Inserted db values false db
 | written (row:Incident)(stored:values.stored=some row)
   (fresh:∀r∈db.incidents,r.triggerFingerprint≠values.triggerFingerprint ∧
    r.incidentRef≠values.incidentRef)
   (known:∀c∈values.campaignRef,c∈db.campaigns) :
   Inserted db values true {db with incidents:=db.incidents++[row]}

lemma insertIncident_ok {inserted:Bool}(h:insertIncident db values=.ok (inserted,db')) :
 Inserted db values inserted db':=by
 unfold insertIncident at h
 split at h
 · cases h
 rename_i row stored
 have same:=stored_fields stored
 split at h
 · rename_i there
   cases h
   rw[same] at there
   exact .taken (by simpa using there)
 split at h
 · cases h
 split at h
 · cases h
 rename_i noFingerprint noRef known
 cases h
 rw[same] at noFingerprint noRef known
 refine .written row stored (fun r mem=>?_) (fun c named=>?_)
 · simp only[List.any_eq_true,beq_iff_eq,not_exists,not_and] at noFingerprint noRef
   exact ⟨noFingerprint r mem,noRef r mem⟩
 · simp only[Option.any_eq_true,not_exists,not_and,Bool.not_eq_true,Bool.not_eq_false'] at known
   simpa using known c named

lemma saveIncident_ok {saved:SaveResult}(h:saveIncident db values=.ok (saved,db')) :
 Inserted db values (!saved.replayed) db' ∧ incident? db' values.incidentRef=some saved.row ∧
  requireSame saved.row values=.ok ():=by
 obtain ⟨written,insert,h⟩:=PythonValues.bind_ok.mp h
 obtain ⟨row,read,h⟩:=PythonValues.bind_ok.mp h
 obtain ⟨_,same,h⟩:=PythonValues.bind_ok.mp h
 cases h
 rw[Bool.not_not]
 exact ⟨insertIncident_ok insert,incident_ok.mp read,same⟩

lemma saveIncident_of {inserted:Bool}(insert:insertIncident db values=.ok (inserted,db'))
 (found:incident? db' values.incidentRef=some row)(same:requireSame row values=.ok ()) :
 saveIncident db values=.ok (⟨row,!inserted⟩,db'):=by
 have read:=incident_ok.mpr found
 simp only[saveIncident,insert,read,same,bind,Except.bind,pure,Except.pure]

def Standing (values:Incident)(db:Db):Prop:=
 ∃row,incident? db values.incidentRef=some row ∧ requireSame row values=.ok () ∧ row.state≠.resolved

lemma Standing.inserted {other:Incident}{inserted:Bool}(standing:Standing values db)
 (h:Inserted db other inserted db'):Standing values db':=by
 cases h with
 | taken there=>exact standing
 | written new stored fresh known =>
  obtain ⟨row,found,same,state⟩:=standing
  refine ⟨row,?_,same,state⟩
  unfold incident? at found ⊢
  rw[List.find?_append,found]
  rfl

lemma Standing.write {reference:String}{f:Incident→Incident}(standing:Standing values db)
 (kept:∀r,(f r).incidentRef=r.incidentRef)
 (same:∀r,(f r).compared values=r.compared values)
 (state:values.incidentRef=reference→∀r,incident? db reference=some r →
  r.state≠.resolved→(f r).state≠.resolved) :
 Standing values (db.write reference f):=by
 obtain ⟨row,found,agrees,unresolved⟩:=standing
 have read:incident? (db.write reference f) values.incidentRef =
   if values.incidentRef=reference then (incident? db reference).map f
   else incident? db values.incidentRef:=find?_update kept _
 by_cases own:values.incidentRef=reference
 · rw[own] at found
   rw[if_pos own,found] at read
   refine ⟨f row,read,?_,state own row found unresolved⟩
   rw[requireSame_ok] at agrees ⊢
   rw[same]
   exact agrees
 · rw[if_neg own] at read
   exact ⟨row,read.trans found,agrees,unresolved⟩

lemma step_standing {op:Operation}(standing:Standing values db)
 (unresolved:∀at',op≠.resolve values.incidentRef at') :
 Standing values (step digests db op):=by
 cases op with
 | openIncident trigger =>
  change Standing values (committed db (saveIncident db _)).2
  cases save:saveIncident db (trigger.values digests) with
  | error failure=>exact standing
  | ok saved=>exact standing.inserted (saveIncident_ok save).1
 | acknowledge reference at' =>
  simp only[step,acknowledgeIncident]
  split
  · exact standing
  · split
    · apply standing.write
      · intro r
        rfl
      · intro r
        rfl
      · intro own r found state resolved
        cases resolved
    · exact standing
 | resolve reference at' =>
  simp only[step,resolveIncident]
  split
  · exact standing
  · split
    · exact standing
    · apply standing.write
      · intro r
        rfl
      · intro r
        rfl
      · intro own
        exact absurd (by rw[own]) (unresolved at')
 | bind reference beforeRef afterRef at' =>
  simp only[step,bindIncidentPolicyControls]
  split
  · exact standing
  · split_ifs
    · exact standing
    · exact standing
    · exact standing
    · apply standing.write
      · intro r
        rfl
      · intro r
        rfl
      · intro own r found state
        exact state

lemma requireSame_fields (same:requireSame row values=.ok ()) :
 row.triggerFingerprint=values.triggerFingerprint ∧ row.severity=values.severity ∧
  row.scopeType=values.scopeType ∧ row.scopeRef=values.scopeRef:=by
 have columns:=requireSame_ok.mp same
 simp only[Incident.compared,List.forall_mem_cons,beq_iff_eq] at columns
 obtain ⟨-,fingerprint,-,-,severity,scopeType,scopeRef,-⟩:=columns
 exact ⟨fingerprint,severity,scopeType,scopeRef⟩

lemma blocks_of_same {scope:BreakerScope}(same:requireSame row values=.ok ())
 (state:row.state≠.resolved)(severity:values.severity=.high)
 (scopeType:values.scopeType=scope.scopeType)(scopeRef:values.scopeRef=scope.scopeRef.text) :
 row.blocks scope=true:=by
 obtain ⟨-,severe,type,reference⟩:=requireSame_fields same
 rw[severity] at severe
 rw[scopeType] at type
 rw[scopeRef] at reference
 simp[Incident.blocks,state,severe,type,reference]

lemma Standing.breaker {scope:BreakerScope}(standing:Standing values db)
 (severity:values.severity=.high)(scopeType:values.scopeType=scope.scopeType)
 (scopeRef:values.scopeRef=scope.scopeRef.text):hasOpenBreaker db scope=true:=by
 obtain ⟨row,found,same,state⟩:=standing
 exact List.any_eq_true.mpr ⟨row,List.mem_of_find?_eq_some found,
  blocks_of_same same state severity scopeType scopeRef⟩

lemma Standing.replayed (standing:Standing values db)(stored:values.stored.isSome=true) :
 ∃row,saveIncident db values=.ok (⟨row,true⟩,db):=by
 obtain ⟨row,found,same,state⟩:=standing
 obtain ⟨kept,hk⟩:=Option.isSome_iff_exists.mp stored
 have fingerprint:=(requireSame_fields same).1
 have there:db.incidents.any (fun r=>r.triggerFingerprint==kept.triggerFingerprint)=true:=by
  rw[stored_fields hk]
  exact List.any_eq_true.mpr ⟨row,List.mem_of_find?_eq_some found,by simpa using fingerprint⟩
 have insert:insertIncident db values=.ok (false,db):=by
  unfold insertIncident
  rw[hk]
  exact if_pos there
 exact ⟨row,saveIncident_of insert found same⟩

lemma requireSame_stored (stored:values.stored=some row) :
 requireSame row values=.ok () ↔ row=values:=by
 rw[requireSame_ok]
 constructor
 · intro columns
   simp only[Incident.compared,List.forall_mem_cons,beq_iff_eq] at columns
   obtain ⟨-,-,-,-,-,-,-,-,observed,threshold,-⟩:=columns
   rw[stored_fields stored,observed,threshold]
 · rintro rfl
   simp[Incident.compared]

section
variable (fresh:∀r∈db.incidents,
 r.triggerFingerprint≠values.triggerFingerprint ∧ r.incidentRef≠values.incidentRef)
include fresh

lemma insertIncident_fresh (stored:values.stored=some row)
 (known:∀c∈values.campaignRef,c∈db.campaigns) :
 insertIncident db values=.ok (true,{db with incidents:=db.incidents++[row]}):=by
 have same:=stored_fields stored
 have noFingerprint:db.incidents.any (fun r=>r.triggerFingerprint==row.triggerFingerprint)
   = false:=by
  rw[same]
  simpa using fun r mem=>(fresh r mem).1
 have noRef:db.incidents.any (fun r=>r.incidentRef==row.incidentRef)=false:=by
  rw[same]
  simpa using fun r mem=>(fresh r mem).2
 have campaign:row.campaignRef.any (fun c=>!db.campaigns.contains c)=false:=by
  rw[same]
  apply Bool.eq_false_iff.mpr
  simpa[Option.any_eq_true] using known
 unfold insertIncident
 rw[stored]
 dsimp only
 rw[if_neg (by rw[noFingerprint];decide),if_neg (by rw[noRef];decide),
  if_neg (by rw[campaign];decide)]

lemma incident?_fresh (stored:values.stored=some row) :
 incident? {db with incidents:=db.incidents++[row]} values.incidentRef=some row:=by
 have absent:incident? db values.incidentRef=none:=by
  apply List.find?_eq_none.mpr
  intro r mem
  simpa using (fresh r mem).2
 have reference:row.incidentRef=values.incidentRef:=by rw[stored_fields stored]
 unfold incident? at absent ⊢
 rw[List.find?_append,absent]
 simp[reference]

lemma saveIncident_fresh {result:SaveResult × Db} : saveIncident db values=.ok result ↔
  (values.stored=some values ∧ ∀c∈values.campaignRef,c∈db.campaigns) ∧
   result=(⟨values,false⟩,{db with incidents:=db.incidents++[values]}):=by
 constructor
 · intro h
   obtain ⟨saved,db'⟩:=result
   obtain ⟨insert,found,same⟩:=saveIncident_ok h
   generalize shown:(!saved.replayed)=inserted at insert
   cases insert with
   | taken there =>
    have absent:=(fresh _ (List.mem_of_find?_eq_some found)).2
    exact absurd (by simpa using List.find?_some found) absent
   | written row stored _ known =>
    rw[incident?_fresh fresh stored] at found
    cases found
    have kept:=(requireSame_stored stored).mp same
    have first:saved.replayed=false:=by simpa using shown
    rw[kept] at stored ⊢
    refine ⟨⟨stored,known⟩,?_⟩
    rw[←kept,←first]
 · rintro ⟨⟨stored,known⟩,rfl⟩
   exact saveIncident_of (insertIncident_fresh fresh stored known) (incident?_fresh fresh stored)
    ((requireSame_stored stored).mpr rfl)

lemma saveIncident_differs (stored:values.stored=some row)
 (known:∀c∈values.campaignRef,c∈db.campaigns){failure:Failure}
 (differs:requireSame row values=.error failure):saveIncident db values=.error failure:=by
 have read:=incident_ok.mpr (incident?_fresh fresh stored)
 simp only[saveIncident,insertIncident_fresh fresh stored known,read,differs,bind,Except.bind]

end

/-- The instants of a row agree with its state. -/
def Incident.Coherent (row:Incident):Prop:=
 (row.state=.opened ↔ row.acknowledgedAt=none) ∧ (row.state=.resolved ↔ row.resolvedAt≠none)

/-- `row'` is `row` later on: what the trigger said stands, and the instants and the controls that
were written are still those. With them the state goes forward only. -/
structure Incident.Follows (row row':Incident):Prop where
 said:row'={row with
  state:=row'.state
  policyControlBefore:=row'.policyControlBefore
  policyControlAfter:=row'.policyControlAfter
  acknowledgedAt:=row'.acknowledgedAt
  resolvedAt:=row'.resolvedAt
  updatedAt:=row'.updatedAt}
 acknowledged:∀at'∈row.acknowledgedAt,row'.acknowledgedAt=some at'
 resolved:∀at'∈row.resolvedAt,row'.resolvedAt=some at'
 before:∀control∈row.policyControlBefore,row'.policyControlBefore=some control
 after:∀control∈row.policyControlAfter,row'.policyControlAfter=some control

namespace Incident.Follows

lemma refl (row:Incident):row.Follows row:=⟨rfl,fun _=>id,fun _=>id,fun _=>id,fun _=>id⟩

lemma trans {row' row'':Incident}(first:row.Follows row')(second:row'.Follows row'') :
 row.Follows row'' where
 said:=by
  have said:=second.said
  rw[first.said] at said
  exact said
 acknowledged at' mem:=second.acknowledged at' (first.acknowledged at' mem)
 resolved at' mem:=second.resolved at' (first.resolved at' mem)
 before control mem:=second.before control (first.before control mem)
 after control mem:=second.after control (first.after control mem)

lemma acknowledge (at':ℤ)(coherent:row.Coherent)(opened:row.state=.opened) :
 row.Follows (row.acknowledge at') where
 said:=rfl
 acknowledged was mem:=by
  rw[coherent.1.mp opened] at mem
  cases mem
 resolved _:=id
 before _:=id
 after _:=id

lemma resolve (at':ℤ)(coherent:row.Coherent)(unresolved:row.state≠.resolved) :
 row.Follows (row.resolve at') where
 said:=rfl
 acknowledged was mem:=by
  rw[Incident.resolve,Option.mem_def.mp mem]
  rfl
 resolved was mem:=absurd (coherent.2.mpr fun none=>by rw[none] at mem;cases mem) unresolved
 before _:=id
 after _:=id

lemma bind (beforeRef afterRef:String)(at':ℤ):row.Follows (row.bind beforeRef afterRef at') where
 said:=rfl
 acknowledged _:=id
 resolved _:=id
 before control mem:=by
  rw[Incident.bind,Option.mem_def.mp mem]
  rfl
 after control mem:=by
  rw[Incident.bind,Option.mem_def.mp mem]
  rfl

end Incident.Follows

structure Db.Coherent (db:Db):Prop where
 references:(db.incidents.map (·.incidentRef)).Nodup
 fingerprints:(db.incidents.map (·.triggerFingerprint)).Nodup
 rows:∀row∈db.incidents,row.Coherent

def Db.Continues (db db':Db):Prop:=∀row∈db.incidents,∃row'∈db'.incidents,row.Follows row'

lemma Db.Continues.refl (db:Db):db.Continues db:=fun row mem=>⟨row,mem,.refl row⟩

lemma Db.Continues.trans {a b c:Db}(first:a.Continues b)(second:b.Continues c) :
 a.Continues c:=by
 intro row mem
 obtain ⟨row',mem',follows⟩:=first row mem
 obtain ⟨row'',mem'',follows'⟩:=second row' mem'
 exact ⟨row'',mem'',follows.trans follows'⟩

/-- A write to the row of a reference, which its guard has read. -/
lemma Db.Coherent.write {reference:String}{f:Incident→Incident}(coherent:db.Coherent)
 (found:incident? db reference=some row)(kept:(f row).Coherent)(follows:row.Follows (f row)) :
 (db.write reference f).Coherent ∧ db.Continues (db.write reference f):=by
 obtain ⟨here,rfl⟩:=find?_key found
 have own:∀r∈db.incidents,(r.incidentRef==row.incidentRef)=true → r=row:=by
  intro r mem same
  have read:incident? db r.incidentRef=some r:=find?_of_mem coherent.references mem
  rw[beq_iff_eq.mp same] at read
  exact (Option.some.inj (found.symm.trans read)).symm
 have said:=follows.said
 refine ⟨⟨?_,?_,?_⟩,?_⟩
 · rw[Db.write,map_key_update fun r mem same=>?_]
   · exact coherent.references
   · rw[own r mem same,said]
 · rw[Db.write,map_key_update fun r mem same=>?_]
   · exact coherent.fingerprints
   · rw[own r mem same,said]
 · intro r mem
   obtain ⟨old,there,rfl⟩:=mem_update.mp mem
   split
   · rename_i same
     rwa[own old there same]
   · exact coherent.rows old there
 · intro r mem
   refine ⟨_,mem_update.mpr ⟨r,mem,rfl⟩,?_⟩
   split
   · rename_i same
     rwa[own r mem same]
   · exact .refl r

lemma Db.Coherent.inserted {values:Incident}{inserted:Bool}(coherent:db.Coherent)
 (new:values.Coherent)(h:Inserted db values inserted db'):db'.Coherent ∧ db.Continues db':=by
 cases h with
 | taken there=>exact ⟨coherent,.refl db⟩
 | written row stored fresh known =>
  have same:=stored_fields stored
  refine ⟨⟨?_,?_,?_⟩,fun r mem=>⟨r,List.mem_append_left _ mem,.refl r⟩⟩
  · refine nodup_append_fresh coherent.references fun r there taken=>?_
    exact (fresh r there).2 (taken.trans (by rw[same]))
  · refine nodup_append_fresh coherent.fingerprints fun r there taken=>?_
    exact (fresh r there).1 (taken.trans (by rw[same]))
  · intro r mem
    rcases List.mem_append.mp mem with old|last
    · exact coherent.rows r old
    · rw[List.mem_singleton.mp last,same]
      exact new

lemma step_coherent (digests:Digests)(op:Operation)(coherent:db.Coherent) :
 (step digests db op).Coherent ∧ db.Continues (step digests db op):=by
 have still:db.Coherent ∧ db.Continues db:=⟨coherent,.refl db⟩
 cases op with
 | openIncident trigger =>
  cases save:saveIncident db (trigger.values digests) with
  | error failure =>
   simp only[step,openIncident,save,committed]
   exact still
  | ok saved =>
   simp only[step,openIncident,save,committed]
   have new:(trigger.values digests).Coherent:=by simp[Incident.Coherent,Trigger.values]
   exact coherent.inserted new (saveIncident_ok save).1
 | acknowledge reference at' =>
  simp only[step,acknowledgeIncident]
  split
  · exact still
  · rename_i row found
    split
    · rename_i opened
      have was:=coherent.rows row (find?_key found).1
      refine coherent.write found ?_ (.acknowledge at' was opened)
      have unresolved:row.resolvedAt=none:=by
       by_contra resolved
       exact absurd (opened.symm.trans (was.2.mpr resolved)) nofun
      simp[Incident.Coherent,Incident.acknowledge,unresolved]
    · exact still
 | resolve reference at' =>
  simp only[step,resolveIncident]
  split
  · exact still
  · rename_i row found
    split
    · exact still
    · rename_i unresolved
      have was:=coherent.rows row (find?_key found).1
      refine coherent.write found ?_ (.resolve at' was unresolved)
      simp[Incident.Coherent,Incident.resolve]
 | bind reference beforeRef afterRef at' =>
  simp only[step,bindIncidentPolicyControls]
  split
  · exact still
  · rename_i row found
    split_ifs
    · exact still
    · exact still
    · exact still
    · exact coherent.write found (coherent.rows row (find?_key found).1) (.bind ..)

/-- Over any run of the store's transactions: no two incidents share a reference or a trigger, the
instants of each agree with its state, and what was written once is never taken back. -/
theorem incidents_only_go_forward (campaigns:List String)(past later:List Operation) :
 let db:=past.foldl (step digests) ⟨[],campaigns⟩
 db.Coherent ∧ db.Continues (later.foldl (step digests) db):=by
 intro db
 have kept:∀db op,Db.Coherent db→(step digests db op).Coherent:=
  fun db op coherent=>(step_coherent digests op coherent).1
 have coherent:db.Coherent:=
  Runs.invariant Db.Coherent kept past ⟨List.nodup_nil,List.nodup_nil,fun _ mem=>nomatch mem⟩
 exact ⟨coherent,Runs.related_of_invariant Db.Continues.refl Db.Continues.trans kept
  (fun db op coherent=>(step_coherent digests op coherent).2) coherent later⟩

end Kivou.OperationalIncidents
