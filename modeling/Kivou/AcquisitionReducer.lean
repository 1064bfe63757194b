import Kivou.AcquisitionContracts

set_option autoImplicit false

/-! `signals.acquisition.state`: the transition, decision and outcome tables, one reducer per event
type, and `replay`. ISO-8601 parsing belongs to the runtime, so `fromisoformat` is a parameter of
everything that reads a date. -/
namespace Kivou.AcquisitionReducer
open PythonValues AcquisitionContracts

abbrev Result:=Except AcquisitionError

def raise {α:Type}(message:String):Result α:=.error (.invalidTransition message)

def require (c:Prop)[Decidable c](message:String):Result Unit:=
 if c then .ok () else raise message

def given (c:Prop)[Decidable c](check:Result Unit):Result Unit:=
 if c then check else .ok ()

def orRaise {α:Type}(x:Option α)(message:String):Result α:=
 match x with
 | some a=>.ok a
 | none=>raise message

lemma require_bind_ok {α:Type}{c:Prop}[Decidable c]{message:String} {f:Unit→Result α}{a:α} :
 (require c message >>= f)=.ok a ↔ c ∧ f ()=.ok a:=by
 unfold require raise
 split <;> simp_all[Bind.bind,Except.bind]

lemma require_ok {c:Prop}[Decidable c]{message:String} : require c message=.ok () ↔ c:=by
 unfold require raise
 split <;> simp_all

lemma given_ok {c:Prop}[Decidable c]{check:Result Unit} :
 given c check=.ok () ↔ (c→check=.ok ()):=by
 unfold given
 split <;> simp_all

lemma orRaise_ok {α:Type}{x:Option α}{message:String}{a:α} : orRaise x message=.ok a ↔ x=some a:=by
 cases x <;> simp[orRaise,raise]

def transitions:AcquisitionState→List AcquisitionState
 | .discovered=>[.enriching]
 | .enriching=>[.readyForDecision]
 | .readyForDecision=>[.enriching,.hold,.noSend,.review,.send]
 | .hold=>[.enriching,.readyForDecision,.review,.noSend]
 | .review=>[.enriching,.hold,.readyForDecision,.noSend,.send]
 | .send=>[.queued]
 | .queued=>[.sent]
 | _=>[]

def decisionStates:Decision→AcquisitionState
 | .enrich=>.enriching
 | .hold=>.hold
 | .noSend=>.noSend
 | .review=>.review
 | .send=>.send

def outcomeRank:AcquisitionState→Option ℕ
 | .send=>some 0
 | .queued=>some 1
 | .sent=>some 2
 | .replied=>some 3
 | .activated=>some 4
 | .paid=>some 5
 | .retained=>some 6
 | .churned=>some 7
 | _=>none

/-- `signals.supervisor.registry.ALLOWED_NEXT_ACTIONS`. -/
def allowedNextActions:List String:=
 ["discover_suppliers","find_decision_makers","enrich_company","evaluate_opportunity",
  "prepare_campaign","assess_campaign_compliance","schedule_campaign","pause_campaign",
  "classify_response","reallocate_volume","request_human_review","generate_weekly_report",
  "resolve_signal_seed","execute_provider_operations","reconcile_conversion"]

def datetimePayload (fromisoformat:String→Option DateTime)(payload:Payload)
 (key:String):Result (Option DateTime):=
 match payload.get key with
 | .null=>.ok none
 | .str value =>
  match fromisoformat value with
  | some parsed =>
   if parsed.aware then .ok (some parsed) else raise (key++" must be timezone-aware")
  | none=>raise (key++" must be an ISO-8601 datetime")
 | _=>raise (key++" must be an ISO-8601 datetime")

/-- An optional reference as the created model accepts it: text or `None`. -/
def optionalText:Json→Option (Option String)
 | .null=>some none
 | .str s=>some (some s)
 | _=>none

/-- `1 <= len(ref) <= 256 and ref.strip() == ref`. -/
def boundedRef (ref:String):Bool:=1≤ref.length&&ref.length≤256&&strip ref==ref

def commonUpdates (current:AcquisitionOpportunity)(event:AcquisitionEvent) :
 AcquisitionOpportunity:=
 {current with
   streamVersion:=event.streamSequence
   stateMachineVersion:=event.stateMachineVersion
   lastEventId:=event.eventId
   updatedAt:=event.recordedAt
   policyVersion:=event.policyVersion.or current.policyVersion
   skillVersion:=event.skillVersion.or current.skillVersion
   supervisorVersion:=event.supervisorVersion.or current.supervisorVersion
   estimatedCost:=event.estimatedCost.or current.estimatedCost}

def requireTransition (source target:AcquisitionState):Result Unit:=
 require (target∈transitions source) ("invalid transition: "++source.value++" -> "++target.value)

def requireHoldMetadata (event:AcquisitionEvent)(nextReviewAt:Option DateTime) :
 Result Unit:=
 require (event.reasonCodes≠[] ∧ nextReviewAt.isSome)
  "HOLD requires reason codes and next_review_at"

/-- `event.codes or current.codes`: an empty tuple leaves the field alone. -/
def orKeep (codes kept:List String):List String:=if codes=[] then kept else codes

/-- The arguments `created` builds its model from. -/
def createdFields (event:AcquisitionEvent)(identityKey signalRef:String)
 (supplierRef contactRef campaignRef:Option String):AcquisitionOpportunity:=
 {event with
   identityKey:=identityKey
   state:=.discovered
   streamVersion:=1
   signalRef:=signalRef
   supplierRef:=supplierRef
   contactRef:=contactRef
   campaignRef:=campaignRef
   decision:=none
   nextAction:=none
   nextReviewAt:=none
   retryCount:=0
   retryAt:=none
   lastErrorCategory:=none
   lastEventId:=event.eventId
   createdAt:=event.recordedAt
   updatedAt:=event.recordedAt}

def created (event:AcquisitionEvent):Result AcquisitionOpportunity:=do
 require (event.streamSequence=1) "OPPORTUNITY_CREATED must have sequence 1"
 match event.payload.get "identity_key",event.payload.get "signal_ref" with
 | .str identityKey,.str signalRef =>
  match optionalText (event.payload.get "supplier_ref"),
    optionalText (event.payload.get "contact_ref"),
    optionalText (event.payload.get "campaign_ref") with
  | some supplierRef,some contactRef,some campaignRef =>
   match (createdFields event identityKey signalRef supplierRef contactRef
     campaignRef).modelValidate with
   | some opportunity=>.ok opportunity
   | none=>.error .validation
  | _,_,_=>.error .validation
 | _,_=>raise "OPPORTUNITY_CREATED requires identity_key and signal_ref"

/-- The campaign reference after a transition: bound once, on a reasoned
`SEND -> QUEUED`, and otherwise the current one. -/
def campaignBinding (current:AcquisitionOpportunity)(target:AcquisitionState)
 (event:AcquisitionEvent):Result (Option String):=
 let refusal:="campaign_ref may bind once on a reasoned SEND -> QUEUED transition"
 if event.payload.has "campaign_ref" then
  match event.payload.get "campaign_ref" with
  | .str ref =>
   if current.state=.send ∧ target=.queued ∧ current.campaignRef=none ∧
     boundedRef ref ∧ event.reasonCodes≠[] then .ok (some ref) else raise refusal
  | _=>raise refusal
 else .ok current.campaignRef

def transitioned (fromisoformat:String→Option DateTime)(current:AcquisitionOpportunity)
 (event:AcquisitionEvent):Result AcquisitionOpportunity:=do
 let target ←orRaise (AcquisitionState.parse (event.payload.get "target_state"))
  "STATE_TRANSITIONED requires a known target_state"
 requireTransition current.state target
 let nextReviewAt ←datetimePayload fromisoformat event.payload "next_review_at"
 given (target=.hold) (requireHoldMetadata event nextReviewAt)
 let campaignRef ←campaignBinding current target event
 return { commonUpdates current event with
  state:=target
  reasonCodes:=orKeep event.reasonCodes current.reasonCodes
  evidenceRefs:=orKeep event.evidenceRefs current.evidenceRefs
  confidence:=event.confidence.or current.confidence
  nextReviewAt:=nextReviewAt.or current.nextReviewAt
  campaignRef:=campaignRef}

/-- The action a SPEC-023 decision must carry; `none` where it may not be emitted. -/
def expectedAction:Decision→Option (Option String)
 | .send=>some (some "prepare_campaign")
 | .review=>some (some "request_human_review")
 | .noSend=>some none
 | _=>none

def sameAction:Json→Option String→Bool
 | .null,none=>true
 | .str s,some t=>s==t
 | _,_=>false

def isNull:Json→Bool
 | .null=>true
 | _=>false

/-- The checks of a decision whose payload carries `next_action`; returns the
action to write. -/
def spec023 (decision:Decision)(event:AcquisitionEvent):Result (Option String):=do
 require (event.payload.within ["decision","next_action","next_review_at"])
  "SPEC-023 DECISION_RECORDED has unexpected payload keys"
 let action ←orRaise (expectedAction decision) "decision-policy-v1 cannot emit HOLD or ENRICH"
 require (sameAction (event.payload.get "next_action") action)
  "decision-policy-v1 next_action does not match decision"
 require (isNull (event.payload.get "next_review_at")) "decision-policy-v1 cannot schedule a review"
 require (event.reasonCodes≠[] ∧ event.evidenceRefs≠[])
  "SPEC-023 decision requires reasons and evidence"
 require (event.confidence=none) "decision-policy-v1 has no numeric confidence"
 return action

def decisionAction (decision:Decision)(current:AcquisitionOpportunity)
 (event:AcquisitionEvent):Result (Option String):=
 if event.payload.has "next_action" then spec023 decision event else .ok current.nextAction

def decisionRecorded (fromisoformat:String→Option DateTime)
 (current:AcquisitionOpportunity)(event:AcquisitionEvent) :
 Result AcquisitionOpportunity:=do
 let decision ←orRaise (Decision.parse (event.payload.get "decision"))
  "DECISION_RECORDED requires a known decision"
 requireTransition current.state (decisionStates decision)
 let nextAction ←decisionAction decision current event
 let nextReviewAt ←datetimePayload fromisoformat event.payload "next_review_at"
 given (decision=.hold) (requireHoldMetadata event nextReviewAt)
 return { commonUpdates current event with
  decision:=some decision
  state:=decisionStates decision
  reasonCodes:=event.reasonCodes
  evidenceRefs:=event.evidenceRefs
  confidence:=event.confidence
  nextReviewAt:=nextReviewAt
  nextAction:=nextAction}

def outcomeRecorded (current:AcquisitionOpportunity)(event:AcquisitionEvent) :
 Result AcquisitionOpportunity:=do
 let target ←orRaise (AcquisitionState.parse (event.payload.get "outcome_state"))
  "OUTCOME_RECORDED requires a known outcome_state"
 match outcomeRank current.state,outcomeRank target with
 | some held,some reached =>
  return { commonUpdates current event with
   state:=if held<reached then target else current.state
   reasonCodes:=orKeep event.reasonCodes current.reasonCodes
   evidenceRefs:=orKeep event.evidenceRefs current.evidenceRefs}
 | _,_ =>raise ("invalid outcome transition: "++current.state.value++" -> "++target.value)

def nextActionSet (current:AcquisitionOpportunity)(event:AcquisitionEvent) :
 Result AcquisitionOpportunity:=do
 require (event.payload.has "next_action") "next_action is required"
 match event.payload.get "next_action" with
 | .null =>
  require (event.reasonCodes≠[]) "clearing next_action requires a reason"
  return { commonUpdates current event with
   nextAction:=none
   reasonCodes:=event.reasonCodes}
 | .str action =>
  require (action∈allowedNextActions) "unknown next_action"
  return {commonUpdates current event with nextAction:=some action}
 | _=>raise "unknown next_action"

def retryScheduled (fromisoformat:String→Option DateTime)
 (current:AcquisitionOpportunity)(event:AcquisitionEvent) :
 Result AcquisitionOpportunity:=do
 let retryAt ←datetimePayload fromisoformat event.payload "retry_at"
 match retryAt,event.payload.get "error_category" with
 | some retryAt,.str errorCategory =>
  require (strip errorCategory≠"") "RETRY_SCHEDULED requires retry_at and error_category"
  return { commonUpdates current event with
   retryCount:=current.retryCount+1
   retryAt:=some retryAt
   lastErrorCategory:=some errorCategory
   reasonCodes:=orKeep event.reasonCodes current.reasonCodes}
 | _,_=>raise "RETRY_SCHEDULED requires retry_at and error_category"

def contactSelected (current:AcquisitionOpportunity)(event:AcquisitionEvent) :
 Result AcquisitionOpportunity:=do
 require (event.payload.within ["contact_ref","supplier_ref"] ∧
   event.payload.has "contact_ref" ∧ event.payload.has "supplier_ref")
  "CONTACT_SELECTED accepts only reference fields"
 require (current.state=.discovered) "CONTACT_SELECTED requires DISCOVERED state"
 match current.supplierRef,event.payload.get "supplier_ref" with
 | some bound,.str supplierRef =>
  require (bound≠"" ∧ boundedRef supplierRef) "CONTACT_SELECTED requires supplier_ref"
  require (supplierRef=bound) "CONTACT_SELECTED supplier_ref mismatch"
  require (current.contactRef=none) "CONTACT_SELECTED cannot replace contact_ref"
  match event.payload.get "contact_ref" with
  | .str contactRef =>
   require (boundedRef contactRef) "CONTACT_SELECTED requires contact_ref"
   return {commonUpdates current event with contactRef:=some contactRef}
  | _=>raise "CONTACT_SELECTED requires contact_ref"
 | _,_=>raise "CONTACT_SELECTED requires supplier_ref"

section
variable {fromisoformat:String→Option DateTime}
variable {current next:AcquisitionOpportunity}{event:AcquisitionEvent}

lemma created_ok:created event=.ok next ↔
 event.streamSequence=1 ∧ ∃identityKey signalRef supplierRef contactRef campaignRef,
  event.payload.get "identity_key"=.str identityKey ∧
  event.payload.get "signal_ref"=.str signalRef ∧
  optionalText (event.payload.get "supplier_ref")=some supplierRef ∧
  optionalText (event.payload.get "contact_ref")=some contactRef ∧
  optionalText (event.payload.get "campaign_ref")=some campaignRef ∧
  (createdFields event identityKey signalRef supplierRef contactRef campaignRef).Validates
   next:=by
 simp only[created,require_bind_ok]
 refine and_congr_right fun _=>?_
 constructor
 · intro h
   split at h
   · rename_i identityKey signalRef hi hs
     split at h
     · rename_i supplierRef contactRef campaignRef h1 h2 h3
       split at h
       · rename_i opportunity valid
         cases h
         exact ⟨identityKey,signalRef,supplierRef,contactRef,campaignRef,hi,hs,h1,h2,h3,
          AcquisitionOpportunity.modelValidate_iff.mp valid⟩
       · cases h
     · cases h
   · simp[raise] at h
 · rintro ⟨identityKey,signalRef,supplierRef,contactRef,campaignRef,hi,hs,h1,h2,h3,valid⟩
   simp only[hi,hs,h1,h2,h3,AcquisitionOpportunity.modelValidate_iff.mpr valid]

lemma outcomeRecorded_ok:outcomeRecorded current event=.ok next ↔ ∃target held reached,
  AcquisitionState.parse (event.payload.get "outcome_state")=some target ∧
  outcomeRank current.state=some held ∧ outcomeRank target=some reached ∧
  { commonUpdates current event with
    state:=if held<reached then target else current.state
    reasonCodes:=orKeep event.reasonCodes current.reasonCodes
    evidenceRefs:=orKeep event.evidenceRefs current.evidenceRefs}=next:=by
 simp only[outcomeRecorded,bind_ok,orRaise_ok]
 constructor
 · rintro ⟨target,known,h⟩
   split at h
   · rename_i held reached low high
     exact ⟨target,held,reached,known,low,high,Except.ok.inj h⟩
   · simp[raise] at h
 · rintro ⟨target,held,reached,known,low,high,rfl⟩
   exact ⟨target,known,by rw[low,high];rfl⟩

lemma nextActionSet_ok:nextActionSet current event=.ok next ↔ event.payload.has "next_action"=true ∧
  (isNull (event.payload.get "next_action")=true ∧ event.reasonCodes≠[] ∧
    { commonUpdates current event with
      nextAction:=none
      reasonCodes:=event.reasonCodes}=next ∨
   ∃action,event.payload.get "next_action"=.str action ∧ action∈allowedNextActions ∧
    {commonUpdates current event with nextAction:=some action}=next):=by
 simp only[nextActionSet,require_bind_ok]
 refine and_congr_right fun _=>?_
 cases event.payload.get "next_action" <;> simp[require_bind_ok,raise,isNull,pure,Except.pure]

lemma retryScheduled_ok:retryScheduled fromisoformat current event=.ok next ↔
 ∃retryAt errorCategory,datetimePayload fromisoformat event.payload "retry_at"=.ok (some retryAt) ∧
  event.payload.get "error_category"=.str errorCategory ∧ strip errorCategory≠"" ∧
  { commonUpdates current event with
    retryCount:=current.retryCount+1
    retryAt:=some retryAt
    lastErrorCategory:=some errorCategory
    reasonCodes:=orKeep event.reasonCodes current.reasonCodes}=next:=by
 simp only[retryScheduled,bind_ok]
 constructor
 · rintro ⟨retryAt,parsed,h⟩
   split at h
   · rename_i retryAt errorCategory text
     rw[require_bind_ok] at h
     exact ⟨retryAt,errorCategory,parsed,text,h.1,Except.ok.inj h.2⟩
   · simp[raise] at h
 · rintro ⟨retryAt,errorCategory,parsed,text,visible,rfl⟩
   exact ⟨_,parsed,by simp only[text,require_bind_ok];exact ⟨visible,rfl⟩⟩

lemma contactSelected_ok:contactSelected current event=.ok next ↔
 (event.payload.within ["contact_ref","supplier_ref"]=true ∧
  event.payload.has "contact_ref"=true ∧ event.payload.has "supplier_ref"=true) ∧
 current.state=.discovered ∧
 ∃supplierRef contactRef,current.supplierRef=some supplierRef ∧
  event.payload.get "supplier_ref"=.str supplierRef ∧
  (supplierRef≠"" ∧ boundedRef supplierRef=true) ∧ current.contactRef=none ∧
  event.payload.get "contact_ref"=.str contactRef ∧ boundedRef contactRef=true ∧
  {commonUpdates current event with contactRef:=some contactRef}=next:=by
 simp only[contactSelected,require_bind_ok]
 refine and_congr_right fun _=>and_congr_right fun _=>?_
 constructor
 · intro h
   split at h
   · rename_i bound supplierRef hb hs
     simp only[require_bind_ok] at h
     obtain ⟨bounded,rfl,fresh,h⟩:=h
     split at h
     · rename_i contactRef hc
       rw[require_bind_ok] at h
       exact ⟨supplierRef,contactRef,hb,hs,bounded,fresh,hc,h.1,Except.ok.inj h.2⟩
     · simp[raise] at h
   · simp[raise] at h
 · rintro ⟨supplierRef,contactRef,hb,hs,bounded,fresh,hc,reference,rfl⟩
   simp only[hb,hs,hc,require_bind_ok]
   exact ⟨bounded,trivial,fresh,reference,rfl⟩

end

def reduceV1 (fromisoformat:String→Option DateTime) :
 Option AcquisitionOpportunity→AcquisitionEvent→Result AcquisitionOpportunity
 | none,event =>
  if event.eventType=.opportunityCreated then created event
  else raise "the first event must be OPPORTUNITY_CREATED"
 | some current,event=>do
  require (event.acquisitionOpportunityId=current.acquisitionOpportunityId)
   "event belongs to a different acquisition opportunity"
  require (event.streamSequence=current.streamVersion+1)
   ("event sequence "++toString event.streamSequence++" does not follow " ++
    toString current.streamVersion)
  match event.eventType with
  | .stateTransitioned=>transitioned fromisoformat current event
  | .decisionRecorded=>decisionRecorded fromisoformat current event
  | .outcomeRecorded=>outcomeRecorded current event
  | .nextActionSet=>nextActionSet current event
  | .retryScheduled=>retryScheduled fromisoformat current event
  | .contactSelected=>contactSelected current event
  | .supervisorPlanObserved | .policyEvaluated=>.ok (commonUpdates current event)
  | .opportunityCreated=>raise "unsupported event type: OPPORTUNITY_CREATED"

def reduceEvent (fromisoformat:String→Option DateTime)
 (current:Option AcquisitionOpportunity)(event:AcquisitionEvent) :
 Result AcquisitionOpportunity:=
 if event.stateMachineVersion=stateMachineVersion then reduceV1 fromisoformat current event
 else .error (.unsupportedStateMachineVersion event.stateMachineVersion)

/-- The loop of `replay`, from any projection. -/
def replayFrom (fromisoformat:String→Option DateTime) :
 Option AcquisitionOpportunity→List AcquisitionEvent→Result (Option AcquisitionOpportunity)
 | current,[]=>.ok current
 | current,event::events=>do
  let next ←reduceEvent fromisoformat current event
  replayFrom fromisoformat (some next) events

def replay (fromisoformat:String→Option DateTime)(events:List AcquisitionEvent) :
 Result AcquisitionOpportunity:=do
 match ←replayFrom fromisoformat none events with
 | some projection=>return projection
 | none=>raise "cannot replay an empty acquisition event stream"

end Kivou.AcquisitionReducer
