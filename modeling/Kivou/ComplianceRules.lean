import Kivou.ComplianceSuppressions
import Kivou.PolicyEvaluation

set_option autoImplicit false

/-! The ordered matrix of the ruleset: what it asks of an input, and the proposal that it answers.
Fingerprints are SHA-256 digests of canonical JSON. -/
namespace Kivou.ComplianceRules
open PythonValues ComplianceSuppressions
open PolicyEvaluation (ComplianceState)

inductive Jurisdiction where
 | ch
 | fr
 | euMemberStateUnconfigured
 | outOfScope
 | unresolved
 deriving DecidableEq

inductive BusinessContextState where
 | professionalContextVerified
 | businessContextInsufficient
 deriving DecidableEq

inductive EmailProvenance where
 | providerVerifiedBusinessContact
 | unknown
 deriving DecidableEq

inductive LegalBasis where
 | consentProven
 | existingCustomerSimilarProven
 | unproven
 deriving DecidableEq

inductive Purpose where
 | kivouAcquisitionSignalRelevance
 | milomailGmailAuditB2b
 deriving DecidableEq

inductive NextAction where
 | scheduleCampaign
 | requestHumanReview

structure JurisdictionResolution where
 jurisdiction:Jurisdiction
 countryCode:Option String
 resolvable:Bool
 evidenceRefs:List String

structure SenderComplianceConfig where
 (configVersion senderProfileRef:String)
 (senderIdentityReady optOutReady privacyNoticeReady sourceNoticeReady:Bool)
 validUntil:Option ℤ
 configFingerprint:String

structure ComplianceRulesetConfig where
 (rulesetVersion legalReviewRef:String)
 effectiveFrom:ℤ
 validUntil:Option ℤ
 allowedTtlHours:ℤ
 configuredCountryRulesets:List String
 configFingerprint:String

/-- The values of a `ComplianceInput` that its fingerprint is taken of. -/
structure InputValues where
 (acquisitionOpportunityId supplierRef contactRef personalizationArtifactId:String)
 (personalizationArtifactFingerprint personalizationInputFingerprint:String)
 (personalizationProposalFingerprint personalizationPolicyActionFingerprint language:String)
 (supplierIdentityStatus contactVerificationState contactVerificationProvider:String)
 (contactProviderEmailStatus contactSourceFingerprint contactRoleProfileVersion:String)
 contactRoleTier:ℕ
 jurisdiction:JurisdictionResolution
 businessContextState:BusinessContextState
 emailProvenance:EmailProvenance
 senderConfig:SenderComplianceConfig
 acquisitionPurpose:Purpose
 chLegalBasis:LegalBasis
 suppressionMatchState:MatchState
 (suppressionKeyVersionsConsidered evidenceRefs:List String)
 (rulesetVersion rulesetConfigFingerprint rulesetLegalReviewRef:String)
 rulesetEffectiveFrom:ℤ
 rulesetValidUntil:Option ℤ
 assessedAt:ℤ

structure ComplianceInput extends InputValues where
 complianceInputFingerprint:String

/-- The values of a `ComplianceProposal` that its fingerprint is taken of. -/
structure ProposalValues where
 state:ComplianceState
 (reasonCodes evidenceRefs:List String)
 nextAction:Option NextAction
 validUntil:Option ℤ
 (inputFingerprint rulesetVersion rulesetConfigFingerprint:String)

structure ComplianceProposal extends ProposalValues where
 proposalFingerprint:String

inductive RulesFailure where
 | purposeMismatch
 | rulesetMismatch

/-- `dict.fromkeys` keeps the first of equal values. -/
def dedupe (values:List String)(limit:ℕ):List String:=(values.reverse.dedup.reverse).take limit

def hourMicroseconds:ℤ:=3600000000

variable (semanticFingerprint:ProposalValues→String)

/-- `_proposal`. -/
def proposal (value:ComplianceInput)(config:ComplianceRulesetConfig)(state:ComplianceState)
 (reasons:List String)(nextAction:Option NextAction):ComplianceProposal:=
 let validity:=if state=.allowed then
   some ((value.senderConfig.validUntil.toList++config.validUntil.toList).foldl min
    (value.assessedAt+config.allowedTtlHours*hourMicroseconds))
  else none
 let values:ProposalValues:={
  state
  reasonCodes:=reasons
  evidenceRefs:=dedupe (value.evidenceRefs++value.jurisdiction.evidenceRefs) 16
  nextAction
  validUntil:=validity
  inputFingerprint:=value.complianceInputFingerprint
  rulesetVersion:=config.rulesetVersion
  rulesetConfigFingerprint:=config.configFingerprint}
 {values with proposalFingerprint:=semanticFingerprint values}

def Jurisdiction.value:Jurisdiction→String
 | .ch=>"CH"
 | .fr=>"FR"
 | .euMemberStateUnconfigured=>"EU_MEMBER_STATE_UNCONFIGURED"
 | .outOfScope=>"OUT_OF_SCOPE"
 | .unresolved=>"UNRESOLVED"

def SenderComplianceConfig.reasons (config:SenderComplianceConfig)(assessedAt:ℤ):List String:=
 (if config.validUntil.any (fun validUntil=>decide (validUntil≤assessedAt)) then
  ["SENDER_CONFIG_EXPIRED"] else []) ++
 (if config.senderIdentityReady then [] else ["REQUIRED_SENDER_IDENTITY_MISSING"]) ++
 (if config.optOutReady then [] else ["REQUIRED_OPT_OUT_MECHANISM_MISSING"])

def countryReasons (value:ComplianceInput):List String:=
 if value.jurisdiction.jurisdiction=.ch then
  (if value.chLegalBasis=.unproven then ["LEGAL_BASIS_UNRESOLVED"] else []) ++
   value.senderConfig.reasons value.assessedAt
 else
  value.senderConfig.reasons value.assessedAt ++
  (if value.senderConfig.privacyNoticeReady then [] else ["REQUIRED_PRIVACY_NOTICE_MISSING"]) ++
  (if value.senderConfig.sourceNoticeReady then [] else ["REQUIRED_SOURCE_NOTICE_MISSING"]) ++
  (if value.businessContextState=.professionalContextVerified then []
   else ["BUSINESS_CONTEXT_INSUFFICIENT"]) ++
  (if value.emailProvenance=.providerVerifiedBusinessContact then []
   else ["EMAIL_PROVENANCE_UNRESOLVED"])

def allowedReasons (jurisdiction:Jurisdiction):List String:=
 if jurisdiction=.ch then ["CH_LEGAL_PREDICATE_VERIFIED","SENDER_AND_OBJECTION_MECHANISM_VERIFIED"]
 else
  ["JURISDICTION_RULESET_SATISFIED","BUSINESS_CONTEXT_VERIFIED",
   "SENDER_AND_OBJECTION_MECHANISM_VERIFIED"]

def evaluateCompliance (value:ComplianceInput)(config:ComplianceRulesetConfig) :
 Except RulesFailure ComplianceProposal:=
 let propose:=proposal semanticFingerprint value config
 let jurisdiction:=value.jurisdiction.jurisdiction
 if value.acquisitionPurpose≠.kivouAcquisitionSignalRelevance then .error .purposeMismatch
 else if value.rulesetVersion≠config.rulesetVersion ∨
   value.rulesetConfigFingerprint≠config.configFingerprint ∨
   value.rulesetLegalReviewRef≠config.legalReviewRef ∨
   value.rulesetEffectiveFrom≠config.effectiveFrom ∨
   value.rulesetValidUntil≠config.validUntil then .error .rulesetMismatch
 else if value.suppressionMatchState=.matched then .ok (propose .blocked ["SUPPRESSION_MATCH"] none)
 else if value.suppressionMatchState=.coverageUnsafe then
  .ok (propose .unknown ["SUPPRESSION_KEY_COVERAGE_UNSAFE"] none)
 else if value.assessedAt<config.effectiveFrom ∨
   config.validUntil.any (fun validUntil=>decide (validUntil≤value.assessedAt)) then
  .ok (propose .reviewRequired ["RULESET_NOT_EFFECTIVE"] (some .requestHumanReview))
 else if jurisdiction=.unresolved then
  .ok (propose .unknown ["JURISDICTION_UNRESOLVED"]
   (if value.jurisdiction.resolvable then some .requestHumanReview else none))
 else if jurisdiction=.outOfScope then .ok (propose .blocked ["JURISDICTION_OUT_OF_SCOPE"] none)
 else if jurisdiction=.euMemberStateUnconfigured then
  .ok (propose .reviewRequired ["COUNTRY_RULESET_UNCONFIGURED"] (some .requestHumanReview))
 else if jurisdiction.value∉config.configuredCountryRulesets then
  .ok (propose .reviewRequired ["COUNTRY_RULESET_UNCONFIGURED"] (some .requestHumanReview))
 else if countryReasons value≠[] then
  .ok (propose .reviewRequired (dedupe (countryReasons value) 8) (some .requestHumanReview))
 else .ok (propose .allowed (allowedReasons jurisdiction) (some .scheduleCampaign))

section Rules
variable {semanticFingerprint}{value:ComplianceInput}{config:ComplianceRulesetConfig}
 {answer:ComplianceProposal}

lemma allowed_clear (h:evaluateCompliance semanticFingerprint value config=.ok answer)
 (allowed:answer.state=.allowed):value.suppressionMatchState=.clear:=by
 simp only[evaluateCompliance] at h
 split at h
 · cases h
 · split at h
   · cases h
   · split at h
     · cases h
       cases allowed
     · split at h
       · cases h
         cases allowed
       · rename_i unmatched covered
         cases hstate:value.suppressionMatchState with
         | clear=>rfl
         | matched=>exact absurd hstate unmatched
         | coverageUnsafe=>exact absurd hstate covered

end Rules

end Kivou.ComplianceRules
