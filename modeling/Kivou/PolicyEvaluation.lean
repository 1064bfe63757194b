import Kivou.PolicyControls

set_option autoImplicit false

/-! A pure function of a request, the control that decides at the time, and what has been used of
the budget. Every check that fails is noted with its reason; the first one noted with a status gives
the decision its status. -/
namespace Kivou.PolicyEvaluation
open PolicyControls

inductive RiskClass where
 | readOnly | preparatory | commercialMutation | riskReduction | humanReview
 deriving DecidableEq

inductive TargetScope where
 | opportunity | signal | global | either
 deriving DecidableEq

structure CommandPolicy where
 riskClass:RiskClass
 targetScope:TargetScope
 requiredEvidence:List String:=[]
 usesBudget:Bool:=false
 usesVolume:Bool:=false
 usesProviderQuota:Bool:=false
 usesSendControls:Bool:=false
 requiresControlPlane:Bool:=false
 requiresCompliance:Bool:=false
 targetRefStart:Option String:=none

def campaignEvidence:List String:=
 ["ACQUISITION_DECISION","PUBLIC_EVIDENCE","VERIFIED_CONTACT","ACQUISITION_PROSPECT_PREBUILD",
  "PERSONALIZATION_ARTIFACT","COMPLIANCE_ASSESSMENT","CAMPAIGN_PLAN","MAILBOX_READINESS",
  "SEND_WINDOW"]

def sendingPolicy:CommandPolicy where
 riskClass:=.commercialMutation
 targetScope:=.opportunity
 requiredEvidence:=campaignEvidence
 usesBudget:=true
 usesVolume:=true
 usesProviderQuota:=true
 usesSendControls:=true
 requiresControlPlane:=true
 requiresCompliance:=true

def providerPolicy (evidence:List String):CommandPolicy where
 riskClass:=.preparatory
 targetScope:=.opportunity
 requiredEvidence:=evidence
 usesBudget:=true
 usesProviderQuota:=true
 requiresControlPlane:=true

def commandPolicies:List (String × CommandPolicy):=
 [("resolve_signal_seed",{riskClass:=.readOnly,targetScope:=.either}),("discover_suppliers",
   { providerPolicy ["PUBLIC_OPPORTUNITY","PUBLIC_EVIDENCE","SUPPLIER_SEARCH_PROFILE"] with
     targetScope:=.signal
     targetRefStart:=some "procurement-opportunity:" }),
  ("find_decision_makers",providerPolicy ["SUPPLIER","CONTACT_SEARCH_PROFILE"]),
  ("enrich_company",providerPolicy ["SUPPLIER","VERIFIED_CONTACT","COMPANY_RESEARCH_PROFILE"]),
  ("evaluate_opportunity",
   { riskClass:=.preparatory
     targetScope:=.opportunity
     requiredEvidence:=["PUBLIC_OPPORTUNITY","PUBLIC_EVIDENCE",
      "ACQUISITION_PROSPECT_PREBUILD","VERIFIED_CONTACT","DECISION_INPUT"]}),
  ("prepare_campaign",
   { riskClass:=.commercialMutation
     targetScope:=.opportunity
     requiredEvidence:=["ACQUISITION_DECISION","PUBLIC_EVIDENCE","VERIFIED_CONTACT",
      "ACQUISITION_PROSPECT_PREBUILD","PERSONALIZATION_INPUT"]}),
  ("assess_campaign_compliance",
   { riskClass:=.preparatory
     targetScope:=.opportunity
     requiredEvidence:=["ACQUISITION_DECISION","PUBLIC_EVIDENCE","VERIFIED_CONTACT",
      "ACQUISITION_PROSPECT_PREBUILD","PERSONALIZATION_ARTIFACT","COMPLIANCE_INPUT"]}),
  ("schedule_campaign",sendingPolicy),
  ("execute_provider_operations",sendingPolicy),
  ("pause_campaign",
   {riskClass:=.riskReduction,targetScope:=.either,requiresControlPlane:=true}),
  ("classify_response",providerPolicy ["RESPONSE"]),
  ("reconcile_conversion",{riskClass:=.preparatory,targetScope:=.opportunity}),
  ("reallocate_volume",
   { riskClass:=.commercialMutation
     targetScope:=.global
     requiredEvidence:=["LEARNING_SNAPSHOT","ALLOCATION_ENVELOPE","CONVERSION_RETENTION"]
     requiresControlPlane:=true}),
  ("request_human_review",{riskClass:=.humanReview,targetScope:=.either}),
  ("generate_weekly_report",{riskClass:=.readOnly,targetScope:=.global})]

def commandPolicy (command:String):Option CommandPolicy:=
 (commandPolicies.find? (fun entry=>entry.1==command)).map Prod.snd

def policyVersion:String:="acquisition-policy-v1"

inductive PolicyStatus where
 | approved | denied | approvalRequired | budgetExceeded | complianceBlocked
 | insufficientEvidence | rateLimited
 deriving DecidableEq

inductive ApprovalPurpose where
 | action | complianceReview
 deriving DecidableEq

inductive ComplianceState where
 | allowed | blocked | reviewRequired | unknown
 deriving DecidableEq

inductive EvidenceStatus where
 | ready | insufficient | stale | unknown
 deriving DecidableEq

inductive ReadinessState where
 | ready | exhausted | unknown
 deriving DecidableEq

inductive AvailabilityState where
 | available | unavailable | unknown
 deriving DecidableEq

inductive WindowState where
 | isOpen | closed | unknown
 deriving DecidableEq

structure Scope where
 (country language wedge:Option String)

structure ApprovalGrant where
 approvalId:String
 purpose:ApprovalPurpose
 (command targetRef:String)
 acquisitionOpportunityId:Option String
 (actionFingerprint policyVersion policySnapshotId:String)
 controlRevision:ℕ
 scopeFingerprint:String
 (issuedAt expiresAt:ℤ)
 oneShot:Bool
 consumedAt:Option ℤ

structure EvidenceReadiness where
 status:EvidenceStatus
 claims:List String
 observedAt:ℤ
 validUntil:Option ℤ

structure ComplianceAssessment where
 state:ComplianceState
 observedAt:ℤ
 validUntil:Option ℤ

structure OperationalReadiness where
 runtimeRevision:String
 (providerQuota mailboxQuota:ReadinessState)
 sendWindow:WindowState
 providerControlPlane:AvailabilityState
 (retryAfter validUntil:Option ℤ)

structure PolicyRequest where
 (evaluationId requestId command targetRef:String)
 (acquisitionOpportunityId qaSignalRef:Option String)
 actionFingerprint:String
 scope:Scope
 proposedCost:ℚ
 currency:String
 proposedVolume:ℕ
 evidenceRefs:List String
 evidence:EvidenceReadiness
 compliance:ComplianceAssessment
 operational:OperationalReadiness
 expectedPolicyVersion:String
 approvalGrants:List ApprovalGrant

structure BudgetUsage where
 costUsed:ℚ
 volumeUsed:ℕ
 periodEnd:Option ℤ

structure PolicyDecision where
 (evaluationId requestId:String)
 status:PolicyStatus
 counterfactualStatus:Option PolicyStatus
 executable:Bool
 (command targetRef:String)
 acquisitionOpportunityId:Option String
 actionFingerprint:String
 reasonCodes:List String
 (policyVersion policySnapshotId:String)
 controlRevision:ℕ
 runtimeRevision:String
 evaluatedAt:ℤ
 validUntil:Option ℤ
 currency:String
 estimatedCost:ℚ
 proposedVolume:ℕ
 costRemaining:ℚ
 volumeRemaining:ℤ
 retryAfter:Option ℤ
 usedGrants:List ApprovalGrant
 evidenceRefs:List String

/-- A check of the evaluator: whether it fails, and what is then noted. Only the
exception for a command that is safe under a stop notes no status. -/
structure Check where
 fails:Bool
 status:Option PolicyStatus
 reason:String

structure Findings where
 primary:Option PolicyStatus
 reasons:List String

def Findings.examine (f:Findings)(checks:List Check):Findings:=checks.foldl (fun f check=>
  if check.fails then ⟨f.primary.or check.status,f.reasons++[check.reason]⟩ else f) f

variable (scopeFingerprint:Scope→String)

def grantMatches (grant:ApprovalGrant)(purpose:ApprovalPurpose)(request:PolicyRequest)
 (control:Control)(evaluatedAt:ℤ):Bool:=
 grant.purpose==purpose&&grant.command==request.command &&grant.targetRef==request.targetRef &&
  grant.acquisitionOpportunityId==request.acquisitionOpportunityId &&
  grant.actionFingerprint==request.actionFingerprint &&
  grant.scopeFingerprint==scopeFingerprint request.scope &&
  grant.policyVersion==control.policyVersion &&
  grant.policySnapshotId==control.policySnapshotId &&
  grant.controlRevision==control.controlRevision &&
  (grant.issuedAt≤evaluatedAt&&evaluatedAt<grant.expiresAt) &&
  grant.consumedAt.isNone&&grant.oneShot

def findGrant (purpose:ApprovalPurpose)(request:PolicyRequest)(control:Control)
 (evaluatedAt:ℤ):Option ApprovalGrant:=
 request.approvalGrants.find? (fun grant=>
  grantMatches scopeFingerprint grant purpose request control evaluatedAt)

variable (request:PolicyRequest)(control:Control)(evaluatedAt:ℤ)(profile:CommandPolicy)
 (usage:BudgetUsage)

def effectiveMode:Option AutonomyMode:=
 if control.autonomyMode=.shadow then control.shadowTargetMode else some control.autonomyMode

def safeUnderHardStop (profile:Option CommandPolicy):Bool:=
 profile.any (fun p=>p.riskClass==.readOnly||p.riskClass==.preparatory ||
  p.riskClass==.riskReduction||p.riskClass==.humanReview)

def positiveMutation (profile:Option CommandPolicy):Bool:=
 profile.any (fun p=>p.riskClass==.commercialMutation)

def authorityChecks (profile:Option CommandPolicy):List Check:=
 [⟨control.qaSignalRef.isSome&&request.qaSignalRef != control.qaSignalRef,some .denied,
   "qa_signal_scope_mismatch"⟩,
  ⟨control.killSwitch&&!safeUnderHardStop profile,some .denied,"kill_switch_active"⟩,
  ⟨control.killSwitch&&safeUnderHardStop profile,none,"kill_switch_active_safe_exception"⟩,
  ⟨control.readOnly&&positiveMutation profile,some .denied,"read_only_mutation_blocked"⟩,
  ⟨control.policyVersion != policyVersion ||
   request.expectedPolicyVersion != control.policyVersion,some .denied,
   "unsupported_policy_version"⟩,
  ⟨profile.isNone,some .denied,"unknown_command"⟩]

def envelopeChecks :
 List Check:=
 [⟨!control.allowedCommands.contains request.command,some .denied,"command_not_allowed"⟩,
  ⟨profile.targetScope==.opportunity&&request.acquisitionOpportunityId.isNone,some .denied,
   "opportunity_required"⟩,
  ⟨profile.targetScope==.global&&request.acquisitionOpportunityId.isSome,some .denied,
   "global_command_scope_mismatch"⟩,
  ⟨profile.targetScope==.signal&&request.acquisitionOpportunityId.isSome,some .denied,
   "signal_command_scope_mismatch"⟩,
  ⟨profile.targetRefStart.any (fun start=>!request.targetRef.startsWith start),some .denied,
   "signal_target_invalid"⟩,
  ⟨request.scope.country.any (fun x=>!control.allowedCountries.contains x),some .denied,
   "country_not_allowed"⟩,
  ⟨request.scope.language.any (fun x=>!control.allowedLanguages.contains x),some .denied,
   "language_not_allowed"⟩,
  ⟨request.scope.wedge.any (fun x=>!control.allowedWedges.contains x),some .denied,
   "wedge_not_allowed"⟩,
  ⟨request.command=="reallocate_volume"&&effectiveMode control != some .adaptiveVolume,
   some .denied,"adaptive_volume_required"⟩]

def complianceGrant :
 Option ApprovalGrant:=
 findGrant scopeFingerprint .complianceReview request control evaluatedAt

/-- An assessment is looked at in order: dated later, expired, blocked, unknown,
and last to be reviewed, which a grant answers. -/
def complianceCheck:Check:=
 let compliance:=request.compliance
 if evaluatedAt<compliance.observedAt then
  ⟨true,some .complianceBlocked,"compliance_assessment_future_dated"⟩
 else if compliance.validUntil.any (fun until'=>until'≤evaluatedAt) then
  ⟨true,some .complianceBlocked,"compliance_assessment_expired"⟩
 else
  match compliance.state with
  | .blocked=>⟨true,some .complianceBlocked,"compliance_blocked"⟩
  | .unknown=>⟨true,some .complianceBlocked,"compliance_state_unknown"⟩
  | .reviewRequired =>
   ⟨(complianceGrant scopeFingerprint request control evaluatedAt).isNone,
    some .approvalRequired,"compliance_review_approval_required"⟩
  | .allowed=>⟨false,none,""⟩

def usedComplianceGrant (evaluatedAt:ℤ):List ApprovalGrant:=
 let compliance:=request.compliance
 if profile.requiresCompliance&&compliance.observedAt≤evaluatedAt &&
   compliance.validUntil.all (fun until'=>evaluatedAt<until') &&
   compliance.state==.reviewRequired then
  (complianceGrant scopeFingerprint request control evaluatedAt).toList
 else []

def evidenceCheck (evaluatedAt:ℤ):Check:=
 let evidence:=request.evidence
 if evaluatedAt<evidence.observedAt then ⟨true,some .insufficientEvidence,"evidence_future_dated"⟩
 else if evidence.validUntil.any (fun until'=>until'≤evaluatedAt) then
  ⟨true,some .insufficientEvidence,"evidence_expired"⟩
 else
  ⟨evidence.status != .ready ||
   profile.requiredEvidence.any (fun item=>!evidence.claims.contains item),
   some .insufficientEvidence,"insufficient_evidence"⟩

def costRemaining:ℚ:=control.dailyCostCap-usage.costUsed

def volumeRemaining:ℤ:=control.dailyVolumeCap-usage.volumeUsed

def budgetChecks (profile:CommandPolicy):List Check:=
 [⟨profile.usesBudget&&request.currency != control.currency,some .budgetExceeded,
   "currency_mismatch"⟩,
  ⟨profile.usesBudget&&costRemaining control usage<request.proposedCost,some .budgetExceeded,
   "daily_cost_cap_exceeded"⟩,
  ⟨profile.usesVolume&&volumeRemaining control usage<request.proposedVolume,
   some .budgetExceeded,"daily_volume_cap_exceeded"⟩]

def usesOperational:Bool:=
 profile.usesProviderQuota||profile.usesSendControls||profile.requiresControlPlane

def operationalChecks (evaluatedAt:ℤ) :
 List Check:=
 let op:=request.operational
 if usesOperational profile&&op.validUntil.any (fun until'=>until'≤evaluatedAt) then
  [⟨true,some .rateLimited,"operational_readiness_expired"⟩]
 else
  [⟨(profile.usesProviderQuota||profile.usesSendControls)&&op.providerQuota != .ready,
    some .rateLimited,"provider_quota_unavailable"⟩,
   ⟨profile.usesSendControls&&op.mailboxQuota != .ready,some .rateLimited,
    "mailbox_quota_unavailable"⟩,
   ⟨profile.usesSendControls&&op.sendWindow != .isOpen,some .rateLimited,"send_window_unavailable"⟩,
   ⟨profile.requiresControlPlane&&op.providerControlPlane != .available,some .rateLimited,
    "provider_control_plane_unavailable"⟩]

def actionRequired:Bool:=
 profile.riskClass==.commercialMutation&&effectiveMode control==some .assisted

def actionGrant :
 Option ApprovalGrant:=
 findGrant scopeFingerprint .action request control evaluatedAt

def actionCheck (evaluatedAt:ℤ):Check:=⟨actionRequired control profile &&
  (actionGrant scopeFingerprint request control evaluatedAt).isNone,some .approvalRequired,
  "action_approval_required"⟩

def profileChecks (evaluatedAt:ℤ)(profile:CommandPolicy):List Check:=
 envelopeChecks request control profile ++
  (if profile.requiresCompliance then [complianceCheck scopeFingerprint request control evaluatedAt]
   else []) ++
  (if profile.requiredEvidence≠[] then [evidenceCheck request profile evaluatedAt] else []) ++
  budgetChecks request control usage profile++operationalChecks request profile evaluatedAt ++
  [actionCheck scopeFingerprint request control profile evaluatedAt]

def checks (evaluatedAt:ℤ) :
 List Check:=
 let profile:=commandPolicy request.command
 authorityChecks request control profile ++
  (profile.map (profileChecks scopeFingerprint request control usage evaluatedAt)).getD []

def usedGrants :
 List ApprovalGrant:=
 match commandPolicy request.command with
 | none=>[]
 | some profile =>
  usedComplianceGrant scopeFingerprint request control profile evaluatedAt ++
   (if actionRequired control profile then
    (actionGrant scopeFingerprint request control evaluatedAt).toList
   else [])

def knownBoundaries (used:List ApprovalGrant):Option ℤ:=
 let profile:=commandPolicy request.command
 let asked (p:CommandPolicy→Bool)(bound:Option ℤ):List ℤ:=
  if profile.any p then bound.toList else []
 (control.expiresAt.toList ++
  asked (fun p=>p.usesBudget||p.usesVolume) usage.periodEnd ++
  asked (fun p=>p.requiredEvidence != []) request.evidence.validUntil ++
  asked (·.requiresCompliance) request.compliance.validUntil ++
  asked usesOperational request.operational.validUntil ++
  used.map ApprovalGrant.expiresAt).min?

def evaluatePolicy (evaluatedAt:ℤ):PolicyDecision:=
 let found:=(Findings.mk none []).examine (checks scopeFingerprint request control usage evaluatedAt)
 let shadow:Bool:=control.autonomyMode==.shadow
 let judged:=found.primary.getD .approved
 let status:=if shadow&&judged==.approved then .denied else judged
 let reasons:=found.reasons ++
  (if shadow&&judged==.approved then ["shadow_mode_execution_blocked"] else [])
 let used:=usedGrants scopeFingerprint request control evaluatedAt
 { evaluationId:=request.evaluationId
   requestId:=request.requestId
   status
   counterfactualStatus:=if shadow then some judged else none
   executable:=status==.approved&&!shadow
   command:=request.command
   targetRef:=request.targetRef
   acquisitionOpportunityId:=request.acquisitionOpportunityId
   actionFingerprint:=request.actionFingerprint
   reasonCodes:=(if reasons=[] then ["policy_envelope_satisfied"] else reasons).eraseDups
   policyVersion:=control.policyVersion
   policySnapshotId:=control.policySnapshotId
   controlRevision:=control.controlRevision
   runtimeRevision:=request.operational.runtimeRevision
   evaluatedAt
   validUntil:=knownBoundaries request control usage used
   currency:=request.currency
   estimatedCost:=request.proposedCost
   proposedVolume:=request.proposedVolume
   costRemaining:=costRemaining control usage
   volumeRemaining:=volumeRemaining control usage
   retryAfter:=if status=.rateLimited then request.operational.retryAfter else none
   usedGrants:=used
   evidenceRefs:=request.evidenceRefs}

def Passes (checks:List Check):Prop:=∀check∈checks,check.fails=true→check.status=none

lemma passes_append {a b:List Check}:Passes (a++b) ↔ Passes a ∧ Passes b:=by
 simp only[Passes,List.mem_append]
 exact ⟨fun h=>⟨fun c mem=>h c (.inl mem),fun c mem=>h c (.inr mem)⟩,
  fun h c mem=>mem.elim (h.1 c) (h.2 c)⟩

lemma passes_cons {check:Check}{rest:List Check} :
 Passes (check::rest) ↔ (check.fails=true→check.status=none) ∧ Passes rest:=by
 simp[Passes]

lemma passes_nil:Passes []:=by simp[Passes]

lemma examine_primary (f:Findings)(checks:List Check) :
 (f.examine checks).primary=none ↔ f.primary=none ∧ Passes checks:=by
 induction checks generalizing f with
 | nil=>simp[Findings.examine,Passes]
 | cons check rest ih =>
  rw[passes_cons]
  simp only[Findings.examine,List.foldl_cons] at ih ⊢
  by_cases fails:check.fails=true
  · rw[if_pos fails,ih,Option.or_eq_none_iff]
    simp[fails,and_assoc]
  · rw[if_neg fails,ih]
    simp[fails]

lemma examine_status {f:Findings}{checks:List Check}{status:PolicyStatus}
 (h:(f.examine checks).primary=some status) :
 f.primary=some status ∨ ∃check∈checks,check.status=some status:=by
 induction checks generalizing f with
 | nil=>exact .inl h
 | cons check rest ih =>
  simp only[Findings.examine,List.foldl_cons] at ih h
  rcases ih h with found|⟨later,mem,noted⟩
  · split at found
    · rcases Option.or_eq_some_iff.mp found with before|⟨-,noted⟩
      · exact .inl before
      · exact .inr ⟨check,List.mem_cons_self,noted⟩
    · exact .inl found
  · exact .inr ⟨later,List.mem_cons_of_mem _ mem,noted⟩

lemma never_approved {request:PolicyRequest}{control:Control}{usage:BudgetUsage}
 {evaluatedAt:ℤ}{check:Check}
 (mem:check∈checks scopeFingerprint request control usage evaluatedAt) :
 check.status≠some .approved:=by
 have compliance:(complianceCheck scopeFingerprint request control evaluatedAt).status ≠
   some .approved:=by
  unfold complianceCheck
  simp only
  split
  · simp
  · split
    · simp
    · split <;> simp
 have evidence:∀profile,(evidenceCheck request profile evaluatedAt).status≠some .approved:=by
  intro profile
  unfold evidenceCheck
  simp only
  split
  · simp
  · split <;> simp
 have operational:∀profile,∀check∈operationalChecks request profile evaluatedAt,
   check.status≠some .approved:=by
  intro profile check mem
  unfold operationalChecks at mem
  simp only at mem
  split at mem
  · simp only[List.mem_singleton] at mem
    simp[mem]
  · simp only[List.mem_cons,List.not_mem_nil,or_false] at mem
    rcases mem with rfl|rfl|rfl|rfl <;> simp
 rcases List.mem_append.mp mem with authority|known
 · simp only[authorityChecks,List.mem_cons,List.not_mem_nil,or_false] at authority
   rcases authority with rfl|rfl|rfl|rfl|rfl|rfl <;> simp
 · cases profile:commandPolicy request.command with
   | none=>simp[profile] at known
   | some p =>
    simp only[profile,Option.map_some,Option.getD_some,profileChecks,List.mem_append] at known
    rcases known with ((((envelope|asked)|asked)|budget)|op)|action
    · simp only[envelopeChecks,List.mem_cons,List.not_mem_nil,or_false] at envelope
      rcases envelope with rfl|rfl|rfl|rfl|rfl|rfl|rfl|rfl|rfl <;> simp
    · split at asked
      · exact List.mem_singleton.mp asked ▸ compliance
      · cases asked
    · split at asked
      · exact List.mem_singleton.mp asked ▸ evidence p
      · cases asked
    · simp only[budgetChecks,List.mem_cons,List.not_mem_nil,or_false] at budget
      rcases budget with rfl|rfl|rfl <;> simp
    · exact operational p check op
    · rw[List.mem_singleton.mp action]
      simp[actionCheck]

lemma executable_iff {request:PolicyRequest}{control:Control}{usage:BudgetUsage} {evaluatedAt:ℤ} :
 (evaluatePolicy scopeFingerprint request control usage evaluatedAt).executable=true ↔
  control.autonomyMode≠.shadow ∧
   Passes (checks scopeFingerprint request control usage evaluatedAt):=by
 have found:=examine_primary ⟨none,[]⟩ (checks scopeFingerprint request control usage evaluatedAt)
 simp only[true_and] at found
 by_cases shadow:control.autonomyMode=.shadow
 · simp[evaluatePolicy,shadow]
 · simp only[evaluatePolicy,beq_eq_false_iff_ne.mpr shadow,Bool.false_and,Bool.false_eq_true,
    if_false,Bool.not_false,Bool.and_true,beq_iff_eq,ne_eq,shadow,not_false_eq_true,true_and]
   rw[←found]
   cases primary:((Findings.mk none []).examine
     (checks scopeFingerprint request control usage evaluatedAt)).primary with
   | none=>simp
   | some status =>
    rcases examine_status primary with none' | ⟨check,mem,noted⟩
    · cases none'
    · have other:=never_approved scopeFingerprint mem
      rw[noted] at other
      simpa using fun same=>other (congrArg some same)

end Kivou.PolicyEvaluation
