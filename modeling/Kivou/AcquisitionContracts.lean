import Kivou.Columns
import Kivou.PythonValues
import Mathlib.Algebra.GroupWithZero.Nat
import Mathlib.Tactic.Common

set_option autoImplicit false

/-! The pydantic models of `signals.acquisition.contracts`. `modelValidate` is what building or
reading a model does: every text field is trimmed, then each field is held to its bounds.
`model_copy` is plain record update and does neither. -/
namespace Kivou.AcquisitionContracts
open PythonValues Columns

def stateMachineVersion:String:="acquisition-state-v1"
def eventSchemaVersion:ℕ:=1
def maxEventPayloadBytes:ℕ:=65536
def maxReasonCodes:ℕ:=50
def maxEvidenceRefs:ℕ:=100

inductive AcquisitionState where
 | discovered | enriching | readyForDecision | hold | noSend | review | send
 | queued | sent | replied | activated | paid | retained | churned
 deriving DecidableEq

namespace AcquisitionState

def value:AcquisitionState→String
 | discovered=>"DISCOVERED"
 | enriching=>"ENRICHING"
 | readyForDecision=>"READY_FOR_DECISION"
 | hold=>"HOLD"
 | noSend=>"NO_SEND"
 | review=>"REVIEW"
 | send=>"SEND"
 | queued=>"QUEUED"
 | sent=>"SENT"
 | replied=>"REPLIED"
 | activated=>"ACTIVATED"
 | paid=>"PAID"
 | retained=>"RETAINED"
 | churned=>"CHURNED"

def all:List AcquisitionState:=[discovered,enriching,readyForDecision,hold,noSend,review,send,
  queued,sent,replied,activated,paid,retained,churned]

/-- `AcquisitionState(value)`; anything but a member's text raises. -/
def parse:Json→Option AcquisitionState
 | .str s=>all.find? (fun a=>a.value==s)
 | _=>none

end AcquisitionState

inductive Decision where
 | send | hold | enrich | noSend | review
 deriving DecidableEq

namespace Decision

def value:Decision→String
 | send=>"SEND"
 | hold=>"HOLD"
 | enrich=>"ENRICH"
 | noSend=>"NO_SEND"
 | review=>"REVIEW"

def all:List Decision:=[send,hold,enrich,noSend,review]

def parse:Json→Option Decision
 | .str s=>all.find? (fun d=>d.value==s)
 | _=>none

end Decision

inductive ActorType where
 | system | hermes | human | external

inductive EventType where
 | opportunityCreated | stateTransitioned | decisionRecorded | nextActionSet | retryScheduled
 | supervisorPlanObserved | policyEvaluated | contactSelected | outcomeRecorded
 deriving DecidableEq

inductive ProjectionVerification where
 | matches | mismatch
 deriving DecidableEq

inductive AcquisitionError where
 | invalidTransition (message:String)
 | idempotencyConflict (key:String)
 | identityConflict (key:String)
 | concurrencyConflict (message:String)
 | unsupportedStateMachineVersion (version:String)
 | projectionNotFound (opportunityId:String)
 | validation
 | database
 deriving DecidableEq

/-- A `StringConstraints(strip_whitespace=True, min_length=1, max_length=n)`. -/
def text (n:ℕ)(s:String):Option String:=
 let t:=trim s
 if 1≤t.length ∧ t.length≤n then some t else none

def texts (n bound:ℕ)(xs:List String):Option (List String):=
 if xs.length≤bound then xs.mapM (text n) else none

def shortCode:=text 100
def stableRef:=text 256
def identifier:=text 64

def isHexDigit (c:Char):Bool:=('0' ≤ c&&c ≤ '9')||('a' ≤ c&&c ≤ 'f')

/-- `^[0-9a-f]{64}$`; the pattern is matched on the trimmed text. -/
def fingerprintField (s:String):Option String:=
 let t:=trim s
 if t.length=64 ∧ t.toList.all isHexDigit then some t else none

def awareField (d:DateTime):Option DateTime:=if d.aware then some d else none

def unitField (q:ℚ):Option ℚ:=if 0≤q ∧ q≤1 then some q else none
def nonNegativeField (q:ℚ):Option ℚ:=if 0≤q then some q else none
def positiveField (n:ℕ):Option ℕ:=if 1≤n then some n else none

variable {n:ℕ}{s t:String}{q r:ℚ}

lemma text_trimmed (h:text n s=some t) : trim t=t ∧ 1≤t.length ∧ t.length≤n:=by
 simp only[text,Option.ite_none_right_eq_some,Option.some.injEq] at h
 obtain ⟨hl,rfl⟩:=h
 exact ⟨trim_idem s,hl⟩

lemma text_eq_self (ht:trim s=s)(h1:1 ≤ s.length) (hn:s.length≤n):text n s=some s:=by
 simp[text,ht,h1,hn]

lemma text_idem (h:text n s=some t):text n t=some t:=by
 obtain ⟨ht,h1,hn⟩:=text_trimmed h
 exact text_eq_self ht h1 hn

lemma mapM_idem {α:Type}{check:α→Option α} (idem:∀ {a b},check a=some b→check b=some b)
 {xs ys:List α}(h:xs.mapM check=some ys) :
 ys.mapM check=some ys ∧ ys.length=xs.length:=by
 induction xs generalizing ys with
 | nil=>cases h;exact ⟨rfl,rfl⟩
 | cons x xs ih =>
  simp only[List.mapM_cons,Option.bind_eq_bind,Option.bind_eq_some_iff,Option.pure_def,
   Option.some.injEq] at h
  obtain ⟨y,hy,zs,hz,rfl⟩:=h
  obtain ⟨hm,hl⟩:=ih hz
  simp[List.mapM_cons,idem hy,hm,hl]

lemma texts_idem {bound:ℕ}{xs ys:List String}(h:texts n bound xs=some ys) :
 texts n bound ys=some ys:=by
 simp only[texts,Option.ite_none_right_eq_some] at h
 obtain ⟨hl,hm⟩:=h
 obtain ⟨hi,he⟩:=mapM_idem text_idem hm
 simp[texts,hi,he,hl]

lemma fingerprintField_idem (h:fingerprintField s=some t) : fingerprintField t=some t:=by
 simp only[fingerprintField,Option.ite_none_right_eq_some,Option.some.injEq] at h
 obtain ⟨hl,rfl⟩:=h
 simp[fingerprintField,trim_idem,hl]

lemma fingerprintField_length (h:fingerprintField s=some s):s.length=64:=by
 simp only[fingerprintField,Option.ite_none_right_eq_some,Option.some.injEq] at h
 rw[←h.2]
 exact h.1.1

lemma awareField_eq {d e:DateTime}(h:awareField d=some e):e=d ∧ d.aware=true:=by
 simp only[awareField,Option.ite_none_right_eq_some,Option.some.injEq] at h
 exact ⟨h.2.symm,h.1⟩

lemma unitField_eq (h:unitField q=some r):r=q ∧ 0≤q ∧ q≤1:=by
 simp only[unitField,Option.ite_none_right_eq_some,Option.some.injEq] at h
 exact ⟨h.2.symm,h.1⟩

lemma nonNegativeField_eq (h:nonNegativeField q=some r):r=q ∧ 0≤q:=by
 simp only[nonNegativeField,Option.ite_none_right_eq_some,Option.some.injEq] at h
 exact ⟨h.2.symm,h.1⟩

lemma positiveField_eq {m:ℕ}(h:positiveField n=some m):m=n ∧ 1≤n:=by
 simp only[positiveField,Option.ite_none_right_eq_some,Option.some.injEq] at h
 exact ⟨h.2.symm,h.1⟩

lemma awareField_idem {d e:DateTime}(h:awareField d=some e):awareField e=some e:=by
 obtain ⟨rfl,ha⟩:=awareField_eq h
 simp[awareField,ha]

lemma unitField_idem (h:unitField q=some r):unitField r=some r:=by
 obtain ⟨rfl,hr⟩:=unitField_eq h
 simp[unitField,hr]

lemma nonNegativeField_idem (h:nonNegativeField q=some r) : nonNegativeField r=some r:=by
 obtain ⟨rfl,hr⟩:=nonNegativeField_eq h
 simp[nonNegativeField,hr]

lemma positiveField_idem {m:ℕ}(h:positiveField n=some m) : positiveField m=some m:=by
 obtain ⟨rfl,hm⟩:=positiveField_eq h
 simp[positiveField,hm]

/-- `str.lower` as far as the key pattern can tell: outside ASCII only the Kelvin
sign and the dotted capital I lower to a letter of the pattern. -/
def lower (c:Char):List Char:=
 if 'A' ≤ c ∧ c ≤ 'Z' then [c.toLower]
 else if c.toNat=0x212A then ['k']
 else if c.toNat=0x130 then ['i',Char.ofNat 0x307]
 else [c]

def isKeyChar (c:Char):Bool:=('a' ≤ c&&c ≤ 'z')||('0' ≤ c&&c ≤ '9')

/-- `re.sub(r"(?<!^)(?=[A-Z])", "_", value)`. -/
def snake:List Char→List Char
 | []=>[]
 | c::cs=>c::cs.flatMap (fun d=>if 'A' ≤ d ∧ d ≤ 'Z' then ['_',d] else [d])

/-- `re.sub(r"[^a-z0-9]+", "_", _)`; the flag says that the gap is already marked. -/
def collapse:Bool→List Char→List Char
 | _,[]=>[]
 | gap,c::cs =>
  if isKeyChar c then c::collapse false cs
  else if gap then collapse true cs else '_' :: collapse true cs

def normalizedKey (value:String):String:=
 trimWith (· == '_') (String.ofList (collapse false ((snake value.toList).flatMap lower)))

def secretKeys:List String:=
 ["password","secret","api_key","authorization","access_token","refresh_token",
  "session_token","private_key","client_secret","bearer_token"]

def hiddenReasoningKeys:List String:=
 ["chain_of_thought","reasoning_trace","scratchpad","internal_reasoning","hidden_reasoning"]

def allowedKey (raw:String):Bool:=
 !secretKeys.contains (normalizedKey raw)&&!hiddenReasoningKeys.contains (normalizedKey raw)

mutual
def guardPayload:Json→Bool
 | .arr items=>guardItems items
 | .obj fields=>guardFields fields
 | _=>true
def guardItems:List Json→Bool
 | []=>true
 | v::vs=>guardPayload v&&guardItems vs
def guardFields:List (String × Json)→Bool
 | []=>true
 | (k,v)::fs=>allowedKey k&&guardPayload v&&guardFields fs
end

/-- Bytes of one character under `json.dumps` with its ASCII escapes. -/
def escapedLength (c:Char):ℕ:=
 let n:=c.toNat
 if n=34 ∨ n=92 ∨ (8≤n ∧ n≤13 ∧ n≠11) then 2
 else if 32≤n ∧ n≤126 then 1
 else if n<0x10000 then 6 else 12

def quotedLength (s:String):ℕ:=2+(s.toList.map escapedLength).sum

mutual
def dumpsLength:Json→ℕ
 | .null=>4
 | .bool b=>if b then 4 else 5
 | .num literal=>literal.length
 | .str s=>quotedLength s
 | .arr items=>2+(items.length-1)+itemsLength items
 | .obj fields=>2+(fields.length-1)+fieldsLength fields
def itemsLength:List Json→ℕ
 | []=>0
 | v::vs=>dumpsLength v+itemsLength vs
def fieldsLength:List (String × Json)→ℕ
 | []=>0
 | (k,v)::fs=>quotedLength k+1+dumpsLength v+fieldsLength fs
end

def validatePayload (p:Payload):Option Payload:=
 if guardPayload (.obj p) ∧ dumpsLength (.obj p) ≤ maxEventPayloadBytes then some p else none

lemma validatePayload_eq {p q:Payload}(h:validatePayload p=some q):q=p:=by
 simp only[validatePayload,Option.ite_none_right_eq_some,Option.some.injEq] at h
 exact h.2.symm

lemma validatePayload_idem {p q:Payload}(h:validatePayload p=some q) : validatePayload q=some q:=by
 rwa[←validatePayload_eq h] at h

structure AcquisitionEvent where
 (eventId acquisitionOpportunityId:String)
 streamSequence:ℕ
 eventType:EventType
 schemaVersion:ℕ
 stateMachineVersion:String
 (occurredAt recordedAt:DateTime)
 actorType:ActorType
 actorRef:Option String
 (idempotencyKey semanticFingerprint:String)
 (correlationId causationId:Option String)
 (reasonCodes evidenceRefs:List String)
 (policyVersion skillVersion supervisorVersion:Option String)
 (confidence estimatedCost:Option ℚ)
 payload:Payload

def AcquisitionEvent.modelValidate (e:AcquisitionEvent):Option AcquisitionEvent:=do
 let eventId ←identifier e.eventId
 let acquisitionOpportunityId ←identifier e.acquisitionOpportunityId
 let streamSequence ←positiveField e.streamSequence
 let schemaVersion ←positiveField e.schemaVersion
 let stateMachineVersion ←shortCode e.stateMachineVersion
 let occurredAt ←awareField e.occurredAt
 let recordedAt ←awareField e.recordedAt
 let actorRef ←whenPresent stableRef e.actorRef
 let idempotencyKey ←text 128 e.idempotencyKey
 let semanticFingerprint ←fingerprintField e.semanticFingerprint
 let correlationId ←whenPresent identifier e.correlationId
 let causationId ←whenPresent identifier e.causationId
 let reasonCodes ←texts 100 maxReasonCodes e.reasonCodes
 let evidenceRefs ←texts 100 maxEvidenceRefs e.evidenceRefs
 let policyVersion ←whenPresent shortCode e.policyVersion
 let skillVersion ←whenPresent shortCode e.skillVersion
 let supervisorVersion ←whenPresent shortCode e.supervisorVersion
 let confidence ←whenPresent unitField e.confidence
 let estimatedCost ←whenPresent nonNegativeField e.estimatedCost
 let payload ←validatePayload e.payload
 return { e with eventId,acquisitionOpportunityId,streamSequence,schemaVersion,
                 stateMachineVersion,occurredAt,recordedAt,actorRef,idempotencyKey,
                 semanticFingerprint,correlationId,causationId,reasonCodes,evidenceRefs,
                 policyVersion,skillVersion,supervisorVersion,confidence,estimatedCost,
                 payload}

/-- Field by field: validating `e` gives `f`. -/
structure AcquisitionEvent.Validates (e f:AcquisitionEvent):Prop where
 eventId:identifier e.eventId=some f.eventId
 acquisitionOpportunityId : identifier e.acquisitionOpportunityId=some f.acquisitionOpportunityId
 streamSequence:positiveField e.streamSequence=some f.streamSequence
 eventType:e.eventType=f.eventType
 schemaVersion:positiveField e.schemaVersion=some f.schemaVersion
 stateMachineVersion:shortCode e.stateMachineVersion=some f.stateMachineVersion
 occurredAt:awareField e.occurredAt=some f.occurredAt
 recordedAt:awareField e.recordedAt=some f.recordedAt
 actorType:e.actorType=f.actorType
 actorRef:whenPresent stableRef e.actorRef=some f.actorRef
 idempotencyKey:text 128 e.idempotencyKey=some f.idempotencyKey
 semanticFingerprint:fingerprintField e.semanticFingerprint=some f.semanticFingerprint
 correlationId:whenPresent identifier e.correlationId=some f.correlationId
 causationId:whenPresent identifier e.causationId=some f.causationId
 reasonCodes:texts 100 maxReasonCodes e.reasonCodes=some f.reasonCodes
 evidenceRefs:texts 100 maxEvidenceRefs e.evidenceRefs=some f.evidenceRefs
 policyVersion:whenPresent shortCode e.policyVersion=some f.policyVersion
 skillVersion:whenPresent shortCode e.skillVersion=some f.skillVersion
 supervisorVersion:whenPresent shortCode e.supervisorVersion=some f.supervisorVersion
 confidence:whenPresent unitField e.confidence=some f.confidence
 estimatedCost:whenPresent nonNegativeField e.estimatedCost=some f.estimatedCost
 payload:validatePayload e.payload=some f.payload

/-- Three checks made one after the other. -/
lemma of_three {α β γ δ:Type}{a:Option α}{b:α→Option β}{c:α→β→Option γ} {d:α→β→γ→Option δ}{r:δ}
 (h:(do let x ←a;let y ←b x;let z ←c x y;d x y z)=some r) :
 ∃x y z,a=some x ∧ b x=some y ∧ c x y=some z ∧ d x y z=some r:=by
 simpa only[Option.bind_eq_bind,Option.bind_eq_some_iff,exists_and_left] using h

lemma AcquisitionEvent.modelValidate_iff {e f:AcquisitionEvent} :
 e.modelValidate=some f ↔ e.Validates f:=by
 constructor
 · intro h
   obtain ⟨_,_,_,eventId,acquisitionOpportunityId,streamSequence,h⟩:=of_three h
   obtain ⟨_,_,_,schemaVersion,stateMachineVersion,occurredAt,h⟩:=of_three h
   obtain ⟨_,_,_,recordedAt,actorRef,idempotencyKey,h⟩:=of_three h
   obtain ⟨_,_,_,semanticFingerprint,correlationId,causationId,h⟩:=of_three h
   obtain ⟨_,_,_,reasonCodes,evidenceRefs,policyVersion,h⟩:=of_three h
   obtain ⟨_,_,_,skillVersion,supervisorVersion,confidence,h⟩:=of_three h
   obtain ⟨_,estimatedCost,h⟩:=Option.bind_eq_some_iff.mp h
   obtain ⟨_,payload,h⟩:=Option.bind_eq_some_iff.mp h
   cases h
   exact ⟨eventId,acquisitionOpportunityId,streamSequence,rfl,schemaVersion,
    stateMachineVersion,occurredAt,recordedAt,rfl,actorRef,idempotencyKey,
    semanticFingerprint,correlationId,causationId,reasonCodes,evidenceRefs,policyVersion,
    skillVersion,supervisorVersion,confidence,estimatedCost,payload⟩
 · intro h
   simp only[modelValidate,h.eventId,h.acquisitionOpportunityId,h.streamSequence,
    h.eventType,h.schemaVersion,h.stateMachineVersion,h.occurredAt,h.recordedAt,
    h.actorType,h.actorRef,h.idempotencyKey,h.semanticFingerprint,h.correlationId,
    h.causationId,h.reasonCodes,h.evidenceRefs,h.policyVersion,h.skillVersion,
    h.supervisorVersion,h.confidence,h.estimatedCost,h.payload,Option.bind_eq_bind,
    Option.bind_some,Option.pure_def]

lemma AcquisitionEvent.Validates.fixed {e f:AcquisitionEvent}(h:e.Validates f):f.Validates f where
 eventId:=text_idem h.eventId
 acquisitionOpportunityId:=text_idem h.acquisitionOpportunityId
 streamSequence:=positiveField_idem h.streamSequence
 eventType:=rfl
 schemaVersion:=positiveField_idem h.schemaVersion
 stateMachineVersion:=text_idem h.stateMachineVersion
 occurredAt:=awareField_idem h.occurredAt
 recordedAt:=awareField_idem h.recordedAt
 actorType:=rfl
 actorRef:=whenPresent_idem text_idem h.actorRef
 idempotencyKey:=text_idem h.idempotencyKey
 semanticFingerprint:=fingerprintField_idem h.semanticFingerprint
 correlationId:=whenPresent_idem text_idem h.correlationId
 causationId:=whenPresent_idem text_idem h.causationId
 reasonCodes:=texts_idem h.reasonCodes
 evidenceRefs:=texts_idem h.evidenceRefs
 policyVersion:=whenPresent_idem text_idem h.policyVersion
 skillVersion:=whenPresent_idem text_idem h.skillVersion
 supervisorVersion:=whenPresent_idem text_idem h.supervisorVersion
 confidence:=whenPresent_idem unitField_idem h.confidence
 estimatedCost:=whenPresent_idem nonNegativeField_idem h.estimatedCost
 payload:=validatePayload_idem h.payload

structure AcquisitionOpportunity where
 (acquisitionOpportunityId identityKey:String)
 state:AcquisitionState
 streamVersion:ℕ
 (stateMachineVersion signalRef:String)
 (supplierRef contactRef campaignRef:Option String)
 decision:Option Decision
 reasonCodes:List String
 confidence:Option ℚ
 evidenceRefs:List String
 nextAction:Option String
 nextReviewAt:Option DateTime
 retryCount:ℕ
 retryAt:Option DateTime
 (lastErrorCategory policyVersion skillVersion supervisorVersion:Option String)
 estimatedCost:Option ℚ
 lastEventId:String
 (createdAt updatedAt:DateTime)
 deriving DecidableEq

namespace AcquisitionOpportunity

def modelValidate (p:AcquisitionOpportunity):Option AcquisitionOpportunity:=do
 let acquisitionOpportunityId ←identifier p.acquisitionOpportunityId
 let identityKey ←stableRef p.identityKey
 let streamVersion ←positiveField p.streamVersion
 let stateMachineVersion ←shortCode p.stateMachineVersion
 let signalRef ←stableRef p.signalRef
 let supplierRef ←whenPresent stableRef p.supplierRef
 let contactRef ←whenPresent stableRef p.contactRef
 let campaignRef ←whenPresent stableRef p.campaignRef
 let reasonCodes ←texts 100 maxReasonCodes p.reasonCodes
 let confidence ←whenPresent unitField p.confidence
 let evidenceRefs ←texts 100 maxEvidenceRefs p.evidenceRefs
 let nextAction ←whenPresent shortCode p.nextAction
 let nextReviewAt ←whenPresent awareField p.nextReviewAt
 let retryAt ←whenPresent awareField p.retryAt
 let lastErrorCategory ←whenPresent shortCode p.lastErrorCategory
 let policyVersion ←whenPresent shortCode p.policyVersion
 let skillVersion ←whenPresent shortCode p.skillVersion
 let supervisorVersion ←whenPresent shortCode p.supervisorVersion
 let estimatedCost ←whenPresent nonNegativeField p.estimatedCost
 let lastEventId ←identifier p.lastEventId
 let createdAt ←awareField p.createdAt
 let updatedAt ←awareField p.updatedAt
 return { p with acquisitionOpportunityId,identityKey,streamVersion,stateMachineVersion,
                 signalRef,supplierRef,contactRef,campaignRef,reasonCodes,confidence,
                 evidenceRefs,nextAction,nextReviewAt,retryAt,lastErrorCategory,
                 policyVersion,skillVersion,supervisorVersion,estimatedCost,lastEventId,
                 createdAt,updatedAt}

/-- What `==` compares: aware instants count by their UTC reading. -/
def view (p:AcquisitionOpportunity):AcquisitionOpportunity:=
 {p with
   nextReviewAt:=p.nextReviewAt.map DateTime.toUtc
   retryAt:=p.retryAt.map DateTime.toUtc
   createdAt:=p.createdAt.toUtc
   updatedAt:=p.updatedAt.toUtc}

end AcquisitionOpportunity

/-- Field by field: validating `p` gives `q`. -/
structure AcquisitionOpportunity.Validates (p q:AcquisitionOpportunity):Prop where
 acquisitionOpportunityId : identifier p.acquisitionOpportunityId=some q.acquisitionOpportunityId
 identityKey:stableRef p.identityKey=some q.identityKey
 state:p.state=q.state
 streamVersion:positiveField p.streamVersion=some q.streamVersion
 stateMachineVersion:shortCode p.stateMachineVersion=some q.stateMachineVersion
 signalRef:stableRef p.signalRef=some q.signalRef
 supplierRef:whenPresent stableRef p.supplierRef=some q.supplierRef
 contactRef:whenPresent stableRef p.contactRef=some q.contactRef
 campaignRef:whenPresent stableRef p.campaignRef=some q.campaignRef
 decision:p.decision=q.decision
 reasonCodes:texts 100 maxReasonCodes p.reasonCodes=some q.reasonCodes
 confidence:whenPresent unitField p.confidence=some q.confidence
 evidenceRefs:texts 100 maxEvidenceRefs p.evidenceRefs=some q.evidenceRefs
 nextAction:whenPresent shortCode p.nextAction=some q.nextAction
 nextReviewAt:whenPresent awareField p.nextReviewAt=some q.nextReviewAt
 retryCount:p.retryCount=q.retryCount
 retryAt:whenPresent awareField p.retryAt=some q.retryAt
 lastErrorCategory:whenPresent shortCode p.lastErrorCategory=some q.lastErrorCategory
 policyVersion:whenPresent shortCode p.policyVersion=some q.policyVersion
 skillVersion:whenPresent shortCode p.skillVersion=some q.skillVersion
 supervisorVersion:whenPresent shortCode p.supervisorVersion=some q.supervisorVersion
 estimatedCost:whenPresent nonNegativeField p.estimatedCost=some q.estimatedCost
 lastEventId:identifier p.lastEventId=some q.lastEventId
 createdAt:awareField p.createdAt=some q.createdAt
 updatedAt:awareField p.updatedAt=some q.updatedAt

lemma AcquisitionOpportunity.modelValidate_iff {p q:AcquisitionOpportunity} :
 p.modelValidate=some q ↔ p.Validates q:=by
 constructor
 · intro h
   obtain ⟨_,_,_,acquisitionOpportunityId,identityKey,streamVersion,h⟩:=of_three h
   obtain ⟨_,_,_,stateMachineVersion,signalRef,supplierRef,h⟩:=of_three h
   obtain ⟨_,_,_,contactRef,campaignRef,reasonCodes,h⟩:=of_three h
   obtain ⟨_,_,_,confidence,evidenceRefs,nextAction,h⟩:=of_three h
   obtain ⟨_,_,_,nextReviewAt,retryAt,lastErrorCategory,h⟩:=of_three h
   obtain ⟨_,_,_,policyVersion,skillVersion,supervisorVersion,h⟩:=of_three h
   obtain ⟨_,_,_,estimatedCost,lastEventId,createdAt,h⟩:=of_three h
   obtain ⟨_,updatedAt,h⟩:=Option.bind_eq_some_iff.mp h
   cases h
   exact ⟨acquisitionOpportunityId,identityKey,rfl,streamVersion,stateMachineVersion,
    signalRef,supplierRef,contactRef,campaignRef,rfl,reasonCodes,confidence,evidenceRefs,
    nextAction,nextReviewAt,rfl,retryAt,lastErrorCategory,policyVersion,skillVersion,
    supervisorVersion,estimatedCost,lastEventId,createdAt,updatedAt⟩
 · intro h
   simp only[modelValidate,h.acquisitionOpportunityId,h.identityKey,h.state,h.streamVersion,
    h.stateMachineVersion,h.signalRef,h.supplierRef,h.contactRef,h.campaignRef,h.decision,
    h.reasonCodes,h.confidence,h.evidenceRefs,h.nextAction,h.nextReviewAt,h.retryCount,
    h.retryAt,h.lastErrorCategory,h.policyVersion,h.skillVersion,h.supervisorVersion,
    h.estimatedCost,h.lastEventId,h.createdAt,h.updatedAt,Option.bind_eq_bind,
    Option.bind_some,Option.pure_def]

lemma AcquisitionOpportunity.Validates.fixed {p q:AcquisitionOpportunity}(h:p.Validates q) :
 q.Validates q where
 acquisitionOpportunityId:=text_idem h.acquisitionOpportunityId
 identityKey:=text_idem h.identityKey
 state:=rfl
 streamVersion:=positiveField_idem h.streamVersion
 stateMachineVersion:=text_idem h.stateMachineVersion
 signalRef:=text_idem h.signalRef
 supplierRef:=whenPresent_idem text_idem h.supplierRef
 contactRef:=whenPresent_idem text_idem h.contactRef
 campaignRef:=whenPresent_idem text_idem h.campaignRef
 decision:=rfl
 reasonCodes:=texts_idem h.reasonCodes
 confidence:=whenPresent_idem unitField_idem h.confidence
 evidenceRefs:=texts_idem h.evidenceRefs
 nextAction:=whenPresent_idem text_idem h.nextAction
 nextReviewAt:=whenPresent_idem awareField_idem h.nextReviewAt
 retryCount:=rfl
 retryAt:=whenPresent_idem awareField_idem h.retryAt
 lastErrorCategory:=whenPresent_idem text_idem h.lastErrorCategory
 policyVersion:=whenPresent_idem text_idem h.policyVersion
 skillVersion:=whenPresent_idem text_idem h.skillVersion
 supervisorVersion:=whenPresent_idem text_idem h.supervisorVersion
 estimatedCost:=whenPresent_idem nonNegativeField_idem h.estimatedCost
 lastEventId:=text_idem h.lastEventId
 createdAt:=awareField_idem h.createdAt
 updatedAt:=awareField_idem h.updatedAt

end Kivou.AcquisitionContracts
