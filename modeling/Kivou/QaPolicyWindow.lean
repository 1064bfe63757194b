import Kivou.SafetyControls

set_option autoImplicit false

/-! An operator opens `ASSISTED` authority for half an hour at most, and closes it again. The window
controller and the safety controller share the log: each call reads the head, then the control in
force, and writes by compare-and-swap; any other call may step in between. -/
namespace Kivou.QaPolicyWindow
open PythonValues PolicyControls SafetyControls

def maximumQaWindow:ℤ:=30*60*1000000
def maximumQaCost:ℚ:=50
def qaDailyVolume:ℕ:=1
def maxControlAppendAttempts:ℕ:=3
def qaWindowOpened:String:="ACQUISITION_RUNTIME_QA_WINDOW_OPEN"
def qaWindowClosed:String:="ACQUISITION_RUNTIME_QA_WINDOW_CLOSED"

def recoverableStopReasonSets:List (List String):=[["OPERATOR_QA_STOP"],["AUDIT_80_PRE_QA_STOP"]]

def runtimeCommands:List String:=
 ["resolve_signal_seed","discover_suppliers","find_decision_makers","enrich_company",
  "evaluate_opportunity","prepare_campaign","assess_campaign_compliance","schedule_campaign",
  "execute_provider_operations","classify_response","reconcile_conversion"]

def sendingCommands:List String:=["schedule_campaign","execute_provider_operations"]

def bootstrapAllowedCommands:List String:=
 runtimeCommands.filter (fun command=>!sendingCommands.contains command)

structure QaAuthority where
 (opportunityKey signalRef country language wedge:String)
 costCap:ℚ

inductive Environment where
 | staging | production
 deriving DecidableEq

inductive SelectionMode where
 | fixed | dynamic | catalog
 deriving DecidableEq

structure RuntimeSelection where
 mode:SelectionMode
 allowedOpportunityKeys:List String
 (vertical region:Option String)
 deriving DecidableEq

structure RuntimeQaScope where
 (country language wedge:String)
 (vertical region:Option String)
 deriving DecidableEq

structure RuntimeConfig where
 environment:Environment
 selection:Option RuntimeSelection
 qaScope:RuntimeQaScope
 maximumCycleCost:ℚ
 deriving DecidableEq

inductive WindowError where
 | environmentInvalid | restrictedToStaging | actorInvalid | reasonInvalid | expiryInvalid
 | requiresStagingSelection | requiresOneOpportunity | selectionScopeMismatch
 | dynamicOpportunityUnavailable | noEligibleOpportunity | noExactOpportunity
 | publicOpportunityUnavailable | publicScopeMismatch | authorityUnavailable | headUnrelated
 | headNotEffective | requiresChf | cannotBeOpened | criticalStop | authorityUnrelated
 | authorityUnsafe | authorityInvalid | changedConcurrently

def WindowError.message:WindowError→String
 | .environmentInvalid=>"runtime QA policy environment is invalid"
 | .restrictedToStaging=>"runtime QA policy is restricted to staging"
 | .actorInvalid=>"runtime QA policy actor is invalid"
 | .reasonInvalid=>"runtime QA policy reason is invalid"
 | .expiryInvalid=>"runtime QA policy expiry is invalid"
 | .requiresStagingSelection=>"runtime QA policy requires staging selection"
 | .requiresOneOpportunity=>"runtime QA policy requires one exact opportunity"
 | .selectionScopeMismatch=>"runtime QA dynamic selection does not match its QA scope"
 | .dynamicOpportunityUnavailable=>"runtime QA dynamic opportunity is unavailable"
 | .noEligibleOpportunity=>"runtime QA dynamic selection has no eligible opportunity"
 | .noExactOpportunity=>"runtime QA dynamic authority has no exact opportunity"
 | .publicOpportunityUnavailable=>"runtime QA public opportunity is unavailable"
 | .publicScopeMismatch=>"runtime QA public opportunity does not match its exact scope"
 | .authorityUnavailable=>"runtime QA policy authority is unavailable"
 | .headUnrelated=>"runtime QA policy durable head is unrelated"
 | .headNotEffective=>"runtime QA policy durable head is not effective"
 | .requiresChf=>"runtime QA policy requires CHF authority"
 | .cannotBeOpened=>"runtime QA policy cannot be opened"
 | .criticalStop=>"runtime QA policy critical stop must not be cleared"
 | .authorityUnrelated=>"runtime QA policy authority is unrelated"
 | .authorityUnsafe=>"runtime QA policy authority is unsafe"
 | .authorityInvalid=>"runtime QA policy authority is invalid"
 | .changedConcurrently=>"runtime QA policy authority changed concurrently"

def isRefChar (letter:Char→Bool)(marks:List Char)(c:Char):Bool:=
 letter c||(48≤c.toNat&&c.toNat≤57)||marks.contains c

/-- A letter or digit, and at most `n` more characters that may also be marks. -/
def isRef (letter:Char→Bool)(marks:List Char)(n:ℕ)(text:String):Bool:=
 match text.toList with
 | []=>false
 | c::rest=>isRefChar letter [] c&&rest.length≤n&&rest.all (isRefChar letter marks)

def isUpper (c:Char):Bool:=65≤c.toNat&&c.toNat≤90
def isLetter (c:Char):Bool:=isUpper c||(97≤c.toNat&&c.toNat≤122)

/-- `^[A-Za-z0-9][A-Za-z0-9._:-]{0,255}$`, once trimmed. -/
def opaqueRef (text:String):Except WindowError String:=
 if isRef isLetter ['.','_',':','-'] 255 (trim text) then .ok (trim text)
 else .error .actorInvalid

/-- `^[A-Z0-9][A-Z0-9_:-]{0,99}$`. -/
def machineCode (text:String):Except WindowError String:=
 if isRef isUpper ['_',':','-'] 99 text then .ok text else .error .reasonInvalid

def requireStaging:Option Environment→Except WindowError Unit
 | none=>.error .environmentInvalid
 | some .production=>.error .restrictedToStaging
 | some .staging=>.ok ()

def opportunityStart:String:="procurement-opportunity:"

def authorityForKey (config:RuntimeConfig)(opportunityKey:String) :
 Except WindowError QaAuthority:=
 if config.environment≠.staging then .error .requiresOneOpportunity
 else
  .ok ⟨opportunityKey,opportunityStart++opportunityKey,config.qaScope.country,
   config.qaScope.language,config.qaScope.wedge,min config.maximumCycleCost maximumQaCost⟩

def stagingSelection (config:RuntimeConfig):Except WindowError RuntimeSelection:=
 match config.environment,config.selection with
 | .staging,some selection=>.ok selection
 | _,_=>.error .requiresStagingSelection

def fixedKey (selection:RuntimeSelection):Except WindowError String:=
 match selection.allowedOpportunityKeys with
 | [key]=>.ok key
 | _=>.error .requiresOneOpportunity

/-- `selected` is what the selection of a production opportunity comes to: `none`
when it raises. -/
def openAuthority (config:RuntimeConfig)(selected:Option (Option String)) :
 Except WindowError QaAuthority:=do
 let selection ←stagingSelection config
 if selection.mode=.fixed then authorityForKey config (←fixedKey selection)
 else if selection.vertical≠config.qaScope.vertical ∨ selection.region≠config.qaScope.region then
  .error .selectionScopeMismatch
 else
  match selected with
  | none=>.error .dynamicOpportunityUnavailable
  | some none=>.error .noEligibleOpportunity
  | some (some key)=>authorityForKey config key

def closeAuthority (config:RuntimeConfig)(current:Control):Except WindowError QaAuthority:=do
 let selection ←stagingSelection config
 if selection.mode=.fixed then authorityForKey config (←fixedKey selection)
 else
  match current.qaSignalRef with
  | none=>.error .noExactOpportunity
  | some signal =>
   if !signal.startsWith opportunityStart then .error .noExactOpportunity
   else
    let key:=String.ofList (signal.toList.drop opportunityStart.length)
    if key="" then .error .noExactOpportunity else authorityForKey config key

/-- `countries` are the countries of the public opportunity, `none` when they
cannot be read. -/
def verifyPublicAuthority (authority:QaAuthority) : Option (List String)→Except WindowError Unit
 | none=>.error .publicOpportunityUnavailable
 | some countries=>if countries=[authority.country] then .ok () else .error .publicScopeMismatch

/-- A call of `open`, with what it reads of its surroundings. -/
structure OpenCall where
 (at' expiresAt:ℤ)
 (actorRef reasonCode:String)
 config:RuntimeConfig
 deployed:Option Environment
 selected:Option (Option String)
 countries:Option (List String)
 deriving DecidableEq

structure CloseCall where
 at':ℤ
 (actorRef reasonCode:String)
 config:RuntimeConfig
 deployed:Option Environment
 deriving DecidableEq

def sameQaAuthority (c:Control)(authority:QaAuthority):Bool:=
 c.allowedCommands==runtimeCommands&&c.qaSignalRef==some authority.signalRef &&
  c.allowedCountries==[authority.country]&&c.allowedLanguages==[authority.language] &&
  c.allowedWedges==[authority.wedge]&&c.currency=="CHF" &&
  c.dailyCostCap==authority.costCap&&c.dailyVolumeCap==qaDailyVolume

def sameOpenWindow (c:Control)(authority:QaAuthority)(at' expiresAt:ℤ)
 (actorRef reasonCode:String):Bool:=
 c.autonomyMode==.assisted&&c.shadowTargetMode.isNone&&!c.readOnly&&!c.killSwitch &&
  sameQaAuthority c authority&&c.effectiveAt≤at'&&c.expiresAt==some expiresAt &&
  c.createdByActorRef==actorRef&&c.reasonCodes==[qaWindowOpened,reasonCode]

def isExpectedExpiredWindow (c:Control)(authority:QaAuthority)(at':ℤ):Bool:=
 c.autonomyMode==.assisted&&c.shadowTargetMode.isNone&&!c.readOnly&&!c.killSwitch &&
  sameQaAuthority c authority&&c.effectiveAt≤at'&&expiredBy at' c &&
  c.createdByActorType==.human&&c.reasonCodes.length==2 &&
  c.reasonCodes.head?==some qaWindowOpened

def sameClosedWindow (c:Control)(authority:QaAuthority):Bool:=
 c.autonomyMode==.shadow&&c.shadowTargetMode==some .assisted&&c.readOnly &&
  !c.killSwitch&&sameQaAuthority c authority&&c.expiresAt.isNone &&
  c.createdByActorType==.human&&c.reasonCodes.contains qaWindowClosed

/-- `previous` is the control right below `c`. -/
def recoverableQaStop (c:Control)(previous:Option Control)(authority:QaAuthority):Bool:=
 c.autonomyMode==.shadow&&c.shadowTargetMode==some .assisted&&c.readOnly&&c.killSwitch &&
  c.expiresAt.isNone&&c.createdByActorType==.system &&
  c.createdByActorRef==safetyControllerRef&&recoverableStopReasonSets.contains c.reasonCodes &&
  sameQaAuthority c authority&&previous.any (sameClosedWindow · authority)

structure WindowPayload where
 (previous durableHead:String)
 controlRevision:ℕ
 authority:QaAuthority
 autonomyMode:AutonomyMode
 shadowTargetMode:Option AutonomyMode
 readOnly:Bool
 effectiveAt:ℤ
 expiresAt:Option ℤ
 actorRef:String
 reasonCodes:List String

variable (fingerprint:SafetyPayload→String)(windowFingerprint:WindowPayload→String)

/-- The control that `_append` writes: an open window, or a closed one. -/
def windowControl (current head:Control)(authority:QaAuthority)(at':ℤ)
 (expiresAt:Option ℤ)(actorRef:String)(reasonCodes:List String)
 (autonomyMode:AutonomyMode)(shadowTargetMode:Option AutonomyMode)(readOnly:Bool) :
 Control:=
 let digest:=windowFingerprint ⟨current.policySnapshotId,head.policySnapshotId,
  head.controlRevision+1,authority,autonomyMode,shadowTargetMode,readOnly,at',expiresAt,
  actorRef,reasonCodes⟩
 {current with
   policySnapshotId:=digest
   controlRevision:=head.controlRevision+1
   autonomyMode
   shadowTargetMode
   readOnly
   killSwitch:=false
   qaSignalRef:=some authority.signalRef
   allowedCommands:=runtimeCommands
   allowedCountries:=[authority.country]
   allowedLanguages:=[authority.language]
   allowedWedges:=[authority.wedge]
   currency:="CHF"
   dailyCostCap:=authority.costCap
   dailyVolumeCap:=qaDailyVolume
   effectiveAt:=at'
   expiresAt
   snapshotFingerprint:=digest
   createdAt:=at'
   createdByActorType:=.human
   createdByActorRef:=actorRef
   reasonCodes}

def checkedWindow (replacement:Control)(expected:ℕ):Decision WindowError:=
 if replacement.valid then .append replacement expected else .failed .authorityInvalid

def requireChf (c:Control):Except WindowError Unit:=
 if c.currency≠"CHF" then .error .requiresChf else .ok ()

/-- What `open` knows before it reads the log. -/
def OpenCall.prepared (c:OpenCall):Except WindowError (QaAuthority × String × String):=do
 requireStaging c.deployed
 let authority ←openAuthority c.config c.selected
 verifyPublicAuthority authority c.countries
 let actor ←opaqueRef c.actorRef
 let reason ←machineCode c.reasonCode
 if c.at'<c.expiresAt ∧ c.expiresAt≤c.at'+maximumQaWindow then .ok (authority,actor,reason)
 else .error .expiryInvalid

def orFailed:Except WindowError (Decision WindowError)→Decision WindowError
 | .ok decision=>decision
 | .error error=>.failed error

/-- An attempt of `open`, on the head and the control in force that it read. -/
def openDecision (c:OpenCall)(head current:Control):Decision WindowError:=orFailed do
  let (authority,actor,reason) ←c.prepared
  if head.controlRevision<current.controlRevision then return .retry
  if current.controlRevision≠head.controlRevision ∧
    !isExpectedExpiredWindow head authority c.at' then
   return .failed .headUnrelated
  requireChf current
  if sameOpenWindow current authority c.at' c.expiresAt actor reason then return .returned current
  if current.autonomyMode≠.shadow ∨ !current.readOnly then return .failed .cannotBeOpened
  if current.killSwitch ∧ current.createdByActorRef=safetyControllerRef then
   return .failed .criticalStop
  return checkedWindow (windowControl windowFingerprint current head authority c.at'
   (some c.expiresAt) actor [qaWindowOpened,reason] .assisted none false) head.controlRevision

/-- The control that `close` replaces: the head, when it is a window that expired
unclosed, or the one in force. -/
def closeTarget (c:CloseCall)(head current:Control):Except WindowError (Control × QaAuthority):=
 if current.controlRevision≠head.controlRevision then do
  let authority ←closeAuthority c.config head
  if !isExpectedExpiredWindow head authority c.at' then .error .headNotEffective
  else .ok (head,authority)
 else do
  let authority ←closeAuthority c.config current
  .ok (current,authority)

/-- An attempt of `close`; `log` is what it reads the control below in. -/
def closeDecision (c:CloseCall)(log:Log)(head current:Control):Decision WindowError:=orFailed do
  requireStaging c.deployed
  let actor ←opaqueRef c.actorRef
  let reason ←machineCode c.reasonCode
  if head.controlRevision<current.controlRevision then return .retry
  let (target,authority) ←closeTarget c head current
  requireChf target
  if sameClosedWindow target authority then return .returned target
  if target.autonomyMode=.assisted then
   if !sameQaAuthority target authority ∨ !target.reasonCodes.contains qaWindowOpened then
    return .failed .authorityUnrelated
  else if !recoverableQaStop target (getPreviousControl log target.controlRevision) authority then
   return .failed .authorityUnsafe
  return checkedWindow (windowControl windowFingerprint target head authority c.at' none actor
   [qaWindowClosed,reason] .shadow (some .assisted) true) head.controlRevision

/-- What `open` has found where it writes: the head in force or a window that
expired, and in force a `SHADOW` control that no safety call has stopped. -/
structure Opens (c:OpenCall)(head current replacement:Control)(expected:ℕ):Prop where
 bounded:c.expiresAt≤c.at'+maximumQaWindow
 expected:expected=head.controlRevision
 valid:replacement.valid=true
 headed:current.controlRevision≠head.controlRevision→head.autonomyMode=.assisted
 unstopped:¬(current.killSwitch=true ∧ current.createdByActorRef=safetyControllerRef)
 written:∃authority actor reason,replacement=windowControl windowFingerprint current head
  authority c.at' (some c.expiresAt) actor [qaWindowOpened,reason] .assisted none false

/-- What `close` has found where it writes: a window of its own authority, or a
stop that it may recover from. -/
structure Closes (c:CloseCall)(log:Log)(head current replacement:Control)(expected:ℕ) : Prop where
 expected:expected=head.controlRevision
 valid:replacement.valid=true
 found:∃target authority actor reason,closeTarget c head current=.ok (target,authority) ∧
  (target.autonomyMode=.assisted ∨
   recoverableQaStop target (getPreviousControl log target.controlRevision) authority=true) ∧
  replacement=windowControl windowFingerprint target head authority c.at' none actor
   [qaWindowClosed,reason] .shadow (some .assisted) true

variable {windowFingerprint}

variable {replacement c head current:Control}{expected:ℕ}

lemma checkedWindow_append {e:ℕ} (h:checkedWindow replacement expected=.append c e) :
 c=replacement ∧ e=expected ∧ replacement.valid=true:=by
 unfold checkedWindow at h
 split at h
 · cases h
   exact ⟨rfl,rfl,‹_›⟩
 · cases h

lemma checkedWindow_ne_returned : checkedWindow replacement expected≠.returned c:=by
 unfold checkedWindow
 split <;> simp

lemma orFailed_append {x:Except WindowError (Decision WindowError)}{e:ℕ}
 (h:orFailed x=.append c e):x=.ok (.append c e):=by
 cases x with
 | ok decision=>exact congrArg Except.ok h
 | error error=>cases h

lemma orFailed_returned {x:Except WindowError (Decision WindowError)}
 (h:orFailed x=.returned c):x=.ok (.returned c):=by
 cases x with
 | ok decision=>exact congrArg Except.ok h
 | error error=>cases h

lemma prepared_bounded {c:OpenCall}{prepared:QaAuthority × String × String}
 (h:c.prepared=.ok prepared):c.expiresAt≤c.at'+maximumQaWindow:=by
 simp only[OpenCall.prepared,bind_ok] at h
 obtain ⟨_,-,_,-,_,-,_,-,_,-,h⟩:=h
 split at h
 · rename_i window
   exact window.2
 · cases h

lemma isExpectedExpiredWindow_assisted {authority:QaAuthority}{at':ℤ}
 (h:isExpectedExpiredWindow c authority at'=true):c.autonomyMode=.assisted:=by
 simp only[isExpectedExpiredWindow,Bool.and_eq_true,beq_iff_eq] at h
 exact h.1.1.1.1.1.1.1.1.1

lemma openDecision_append {c:OpenCall}
 (h:openDecision windowFingerprint c head current=.append replacement expected) :
 Opens windowFingerprint c head current replacement expected:=by
 simp only[openDecision] at h
 replace h:=orFailed_append h
 simp only[bind_ok] at h
 obtain ⟨⟨authority,actor,reason⟩,prepared,h⟩:=h
 simp only at h
 split at h
 · cases h
 · split at h
   · cases h
   · rename_i headed
     obtain ⟨_,-,h⟩:=bind_ok.mp h
     split at h
     · cases h
     · split at h
       · cases h
       · split at h
         · cases h
         · rename_i unstopped
           obtain ⟨rfl,rfl,valid⟩:=checkedWindow_append (Except.ok.inj h)
           refine ⟨prepared_bounded prepared,rfl,valid,fun other=>?_,unstopped,_,_,_,rfl⟩
           have expired:isExpectedExpiredWindow head authority c.at'=true:=by
            simpa[other] using headed
           exact isExpectedExpiredWindow_assisted expired

/-- A window that `open` returns without writing ends when the caller asks. -/
lemma openDecision_returned {c:OpenCall}{control:Control}
 (h:openDecision windowFingerprint c head current=.returned control) :
 control=current ∧ current.autonomyMode=.assisted ∧ current.expiresAt=some c.expiresAt:=by
 simp only[openDecision] at h
 replace h:=orFailed_returned h
 simp only[bind_ok] at h
 obtain ⟨⟨authority,actor,reason⟩,-,h⟩:=h
 simp only at h
 split at h
 · cases h
 · split at h
   · cases h
   · obtain ⟨_,-,h⟩:=bind_ok.mp h
     split at h
     · rename_i same
       cases h
       simp only[sameOpenWindow,Bool.and_eq_true,beq_iff_eq] at same
       exact ⟨rfl,same.1.1.1.1.1.1.1.1,same.1.1.2⟩
     · split at h
       · cases h
       · split at h
         · cases h
         · exact absurd (Except.ok.inj h) checkedWindow_ne_returned

lemma closeDecision_append {c:CloseCall}{log:Log}
 (h:closeDecision windowFingerprint c log head current=.append replacement expected) :
 Closes windowFingerprint c log head current replacement expected:=by
 simp only[closeDecision] at h
 replace h:=orFailed_append h
 simp only[bind_ok] at h
 obtain ⟨_,-,actor,-,reason,-,h⟩:=h
 split at h
 · cases h
 · obtain ⟨⟨target,authority⟩,found,h⟩:=bind_ok.mp h
   obtain ⟨_,-,h⟩:=bind_ok.mp h
   simp only at h
   split at h
   · cases h
   · split at h
     · rename_i assisted
       split at h
       · cases h
       · obtain ⟨rfl,rfl,valid⟩:=checkedWindow_append (Except.ok.inj h)
         exact ⟨rfl,valid,_,_,_,_,found,.inl assisted,rfl⟩
     · split at h
       · cases h
       · rename_i recoverable
         obtain ⟨rfl,rfl,valid⟩:=checkedWindow_append (Except.ok.inj h)
         exact ⟨rfl,valid,_,_,_,_,found,.inr (by simpa using recoverable),rfl⟩

/-- The control that `close` replaces is the head of its log. -/
lemma closeTarget_ok {c:CloseCall}{target:Control}{authority:QaAuthority}
 (h:closeTarget c head current=.ok (target,authority)) :
 target=head ∧ head.autonomyMode=.assisted ∨
  target=current ∧ current.controlRevision=head.controlRevision:=by
 unfold closeTarget at h
 split at h
 · obtain ⟨other,-,h⟩:=bind_ok.mp h
   split at h
   · cases h
   · rename_i expired
     cases h
     exact .inl ⟨rfl,isExpectedExpiredWindow_assisted (by simpa using expired)⟩
 · rename_i headed
   obtain ⟨other,-,h⟩:=bind_ok.mp h
   cases h
   exact .inr ⟨rfl,by simpa using headed⟩

end Kivou.QaPolicyWindow
