import Kivou.SafetyControls

set_option autoImplicit false

/-! The instant that an executable decision carries as its end: before it, the same request would be
executable again. -/
namespace Kivou.PolicyEvaluation
open PolicyControls

lemma lt_of_min? {bounds:List ℤ}{t:ℤ}(before:∀v,bounds.min?=some v→t<v){v:ℤ} (mem:v∈bounds):t<v:=by
 obtain ⟨least,is⟩:=Option.isSome_iff_exists.mp (List.isSome_min?_of_mem mem)
 exact lt_of_lt_of_le (before least is) ((List.min?_eq_some_iff.mp is).2 v mem)

variable {scopeFingerprint:Scope→String}{request:PolicyRequest}{control:Control}
 {usage:BudgetUsage}{profile:CommandPolicy}{t₀ t:ℤ}

lemma any_due {bound:Option ℤ}(h:t₀≤t)(later:∀v∈bound,t<v) :
 bound.any (fun until'=>until'≤t)=bound.any (fun until'=>until'≤t₀):=by
 cases bound with
 | none=>rfl
 | some v =>
  have early:=later v rfl
  simp only[Option.any_some,decide_eq_decide]
  omega

/-- A grant that is found answers as long as it has not expired. -/
lemma findGrant_later {purpose:ApprovalPurpose}{grant:ApprovalGrant}(h:t₀≤t)
 (found:findGrant scopeFingerprint purpose request control t₀=some grant)
 (unexpired:t<grant.expiresAt) :
 (findGrant scopeFingerprint purpose request control t).isSome:=by
 refine List.find?_isSome.mpr ⟨grant,List.mem_of_find?_eq_some found,?_⟩
 have matched:=List.find?_some found
 simp only[grantMatches,Bool.and_eq_true,decide_eq_true_eq] at matched ⊢
 obtain ⟨⟨⟨binding,issued,-⟩,unused⟩,oneShot⟩:=matched
 exact ⟨⟨⟨binding,issued.trans h,unexpired⟩,unused⟩,oneShot⟩

lemma complianceCheck_later (h:t₀≤t)(later:∀v∈request.compliance.validUntil,t<v)
 (asked:profile.requiresCompliance=true)
 (granted:∀grant∈usedComplianceGrant scopeFingerprint request control profile t₀,
  t<grant.expiresAt)
 (passes:Passes [complianceCheck scopeFingerprint request control t₀]) :
 Passes [complianceCheck scopeFingerprint request control t]:=by
 simp only[passes_cons,passes_nil,and_true] at passes ⊢
 by_cases future:t₀<request.compliance.observedAt
 · simp[complianceCheck,future] at passes
 · have past:¬t<request.compliance.observedAt:=by omega
   simp only[complianceCheck,future,past,if_false,any_due h later] at passes ⊢
   by_cases expired:request.compliance.validUntil.any (fun until'=>until'≤t₀)=true
   · simp[expired] at passes
   · rw[if_neg expired] at passes ⊢
     cases state:request.compliance.state with
     | blocked | unknown=>simp[state] at passes
     | allowed=>simp
     | reviewRequired =>
      cases found:complianceGrant scopeFingerprint request control t₀ with
      | none=>simp[state,found] at passes
      | some grant =>
       have open':request.compliance.validUntil.all (fun until'=>t₀<until')=true:=by
        cases bound:request.compliance.validUntil with
        | none=>rfl
        | some v =>
         have early:=later v bound
         simp only[Option.all_some,decide_eq_true_eq]
         omega
       have used:grant∈usedComplianceGrant scopeFingerprint request control profile t₀:=by
        simp[usedComplianceGrant,asked,not_lt.mp future,open',state,found]
       have again:=findGrant_later h found (granted grant used)
       simp[complianceGrant,Option.isNone_iff_eq_none,Option.ne_none_iff_isSome.mpr again]

lemma evidenceCheck_later (h:t₀≤t)(later:∀v∈request.evidence.validUntil,t<v)
 (passes:Passes [evidenceCheck request profile t₀]) :
 Passes [evidenceCheck request profile t]:=by
 simp only[passes_cons,passes_nil,and_true] at passes ⊢
 by_cases future:t₀<request.evidence.observedAt
 · simp[evidenceCheck,future] at passes
 · have past:¬t<request.evidence.observedAt:=by omega
   simp only[evidenceCheck,future,past,if_false,any_due h later] at passes ⊢
   exact passes

lemma operationalChecks_later (h:t₀≤t)
 (later:usesOperational profile=true→∀v∈request.operational.validUntil,t<v) :
 operationalChecks request profile t=operationalChecks request profile t₀:=by
 cases uses:usesOperational profile with
 | false=>simp[operationalChecks,uses]
 | true=>simp only[operationalChecks,uses,any_due h (later uses)]

lemma actionCheck_later (h:t₀≤t) (granted:actionRequired control profile=true →
  ∀grant∈actionGrant scopeFingerprint request control t₀,t<grant.expiresAt)
 (passes:Passes [actionCheck scopeFingerprint request control profile t₀]) :
 Passes [actionCheck scopeFingerprint request control profile t]:=by
 simp only[passes_cons,passes_nil,and_true] at passes ⊢
 cases required:actionRequired control profile with
 | false=>simp[actionCheck,required]
 | true =>
  cases found:actionGrant scopeFingerprint request control t₀ with
  | none=>simp[actionCheck,required,found] at passes
  | some grant =>
   have again:=findGrant_later h found (granted required grant found)
   simp[actionCheck,actionGrant,Option.ne_none_iff_isSome.mpr again]

/-- What the end of a decision bounds, for a command of profile `profile`. -/
structure Bounded (request:PolicyRequest)(profile:CommandPolicy)(used:List ApprovalGrant)
  (t:ℤ):Prop where
 evidence:profile.requiredEvidence≠[]→∀v∈request.evidence.validUntil,t<v
 compliance:profile.requiresCompliance=true→∀v∈request.compliance.validUntil,t<v
 operational:usesOperational profile=true→∀v∈request.operational.validUntil,t<v
 grants:∀grant∈used,t<grant.expiresAt

lemma knownBoundaries_bounded {used:List ApprovalGrant}
 (known:commandPolicy request.command=some profile)
 (before:∀v,knownBoundaries request control usage used=some v→t<v) :
 Bounded request profile used t:=by
 have later:=fun v=>@lt_of_min? _ _ before v
 simp only[known,Option.any_some,List.mem_append] at later
 refine ⟨fun asked v is=>?_,fun asked v is=>?_,fun asked v is=>?_,fun grant mem=>?_⟩
 · refine later v (.inl (.inl (.inl (.inr ?_))))
   rw[if_pos (by simpa using asked)]
   exact Option.mem_toList.mpr is
 · refine later v (.inl (.inl (.inr ?_)))
   rw[if_pos asked]
   exact Option.mem_toList.mpr is
 · refine later v (.inl (.inr ?_))
   rw[if_pos asked]
   exact Option.mem_toList.mpr is
 · exact later _ (.inr (List.mem_map_of_mem mem))

lemma profileChecks_later (h:t₀≤t)
 (bounded:Bounded request profile (usedComplianceGrant scopeFingerprint request control profile t₀ ++
  (if actionRequired control profile then
   (actionGrant scopeFingerprint request control t₀).toList else [])) t)
 (passes:Passes (profileChecks scopeFingerprint request control usage t₀ profile)) :
 Passes (profileChecks scopeFingerprint request control usage t profile):=by
 simp only[profileChecks,passes_append] at passes ⊢
 obtain ⟨⟨⟨⟨⟨envelope,compliance⟩,evidence⟩,budget⟩,operational⟩,action⟩:=passes
 refine ⟨⟨⟨⟨⟨envelope,?_⟩,?_⟩,budget⟩,?_⟩,?_⟩
 · split at compliance
   · rename_i asked
     rw[if_pos asked]
     exact complianceCheck_later h (bounded.compliance asked) asked
      (fun grant mem=>bounded.grants grant (List.mem_append_left _ mem)) compliance
   · rename_i free
     rw[if_neg free]
     exact passes_nil
 · split at evidence
   · rename_i asked
     rw[if_pos asked]
     exact evidenceCheck_later h (bounded.evidence asked) evidence
   · rename_i free
     rw[if_neg free]
     exact passes_nil
 · rw[operationalChecks_later h bounded.operational]
   exact operational
 · refine actionCheck_later h (fun required grant found=>bounded.grants grant ?_) action
   rw[if_pos required]
   exact List.mem_append_right _ (Option.mem_toList.mpr found)

lemma checks_later (h:t₀≤t)
 (before:∀v,(evaluatePolicy scopeFingerprint request control usage t₀).validUntil=some v →
  t<v)
 (passes:Passes (checks scopeFingerprint request control usage t₀)) :
 Passes (checks scopeFingerprint request control usage t):=by
 simp only[checks,passes_append] at passes ⊢
 refine ⟨passes.1,?_⟩
 cases known:commandPolicy request.command with
 | none=>exact passes_nil
 | some profile =>
  have bounded:=knownBoundaries_bounded known before
  simp only[usedGrants,known] at bounded
  simp only[known,Option.map_some,Option.getD_some] at passes ⊢
  exact profileChecks_later h bounded passes.2

/-- What no executable decision at `t` goes past. -/
structure Authorised (scopeFingerprint:Scope→String)(request:PolicyRequest)
  (control:Control)(t:ℤ):Prop where
 live:control.autonomyMode≠.shadow
 running:control.killSwitch=true →safeUnderHardStop (commandPolicy request.command)=true
 approved:∀profile,commandPolicy request.command=some profile →
  actionRequired control profile=true→∃grant∈request.approvalGrants,
   grantMatches scopeFingerprint grant .action request control t=true
 reviewed:∀profile,commandPolicy request.command=some profile →
  profile.requiresCompliance=true → request.compliance.state=.reviewRequired →
  ∃grant∈request.approvalGrants,
   grantMatches scopeFingerprint grant .complianceReview request control t=true

lemma findGrant_some {purpose:ApprovalPurpose}
 (found:findGrant scopeFingerprint purpose request control t≠none) :
 ∃grant∈request.approvalGrants,grantMatches scopeFingerprint grant purpose request control t=true:=
 List.find?_isSome.mp (Option.ne_none_iff_isSome.mp found)

lemma authorised_of_executable
 (executable:(evaluatePolicy scopeFingerprint request control usage t).executable=true) :
 Authorised scopeFingerprint request control t:=by
 obtain ⟨live,passes⟩:=(executable_iff scopeFingerprint).mp executable
 simp only[checks,passes_append] at passes
 have within {profile:CommandPolicy}(known:commandPolicy request.command=some profile) :
   Passes (profileChecks scopeFingerprint request control usage t profile):=by
  have asked:=passes.2
  rw[known] at asked
  exact asked
 refine ⟨live,fun stopped=>?_,fun profile known required=>?_,fun profile known asked review=>?_⟩
 · have stop:=passes.1 _ (List.mem_cons_of_mem _ List.mem_cons_self)
   simpa[stopped] using stop
 · have action:=(passes_append.mp (within known)).2 _ (List.mem_singleton_self _)
   refine findGrant_some fun missing=>?_
   simp[actionCheck,required,actionGrant,missing] at action
 · have passes:=within known
   simp only[profileChecks,passes_append,if_pos asked] at passes
   have compliance:=passes.1.1.1.1.2 _ (List.mem_singleton_self _)
   refine findGrant_some fun missing=>?_
   unfold complianceCheck at compliance
   simp only[review,complianceGrant,missing] at compliance
   split at compliance
   · simp at compliance
   · split at compliance <;> simp at compliance

/-- Up to the end that an executable decision carries, and for ever where it
carries none, the same evaluation is executable again. -/
theorem valid_until_is_sound (h:t₀≤t)
 (executable:(evaluatePolicy scopeFingerprint request control usage t₀).executable=true)
 (before:∀v,(evaluatePolicy scopeFingerprint request control usage t₀).validUntil=some v →
  t<v) :
 (evaluatePolicy scopeFingerprint request control usage t).executable=true ∧
  Authorised scopeFingerprint request control t:=by
 obtain ⟨live,passes⟩:=(executable_iff scopeFingerprint).mp executable
 have again:=(executable_iff scopeFingerprint).mpr ⟨live,checks_later h before passes⟩
 exact ⟨again,authorised_of_executable again⟩

/-- An approval of the preparation of a campaign, until two hours. -/
def preparationGrant:ApprovalGrant where
 approvalId:="approval-1"
 purpose:=.action
 command:="prepare_campaign"
 targetRef:="prospect"
 acquisitionOpportunityId:=some "opportunity-1"
 actionFingerprint:=SafetyControls.firstFingerprint
 policyVersion:=policyVersion
 policySnapshotId:="snapshot-1"
 controlRevision:=1
 scopeFingerprint:=SafetyControls.firstFingerprint
 issuedAt:=0
 expiresAt:=2*SafetyControls.hour
 oneShot:=true
 consumedAt:=none

def preparation:PolicyRequest:=
 {SafetyControls.readRequest with
   command:="prepare_campaign"
   targetRef:="prospect"
   acquisitionOpportunityId:=some "opportunity-1"
   evidence:=⟨.ready,campaignEvidence++["PERSONALIZATION_INPUT"],0,some (4*SafetyControls.hour)⟩
   approvalGrants:=[preparationGrant]}

def assistedControl:Control:=
 {SafetyControls.lastingControl with
   autonomyMode:=.assisted
   allowedCommands:=["prepare_campaign"]}

theorem valid_until_is_sound_sample :
 (evaluatePolicy SafetyControls.sampleScope preparation assistedControl ⟨0,0,none⟩
  (2*SafetyControls.hour-1)).executable=true ∧
 Authorised SafetyControls.sampleScope preparation assistedControl (2*SafetyControls.hour-1):=by
 have ends:(evaluatePolicy SafetyControls.sampleScope preparation assistedControl ⟨0,0,none⟩
   SafetyControls.hour).validUntil=some (2*SafetyControls.hour):=by decide +kernel
 refine valid_until_is_sound (show SafetyControls.hour≤_ by decide) (by decide +kernel) fun v is=>?_
 obtain rfl:=Option.mem_unique ends is
 decide

/-- `b` differs from `a` by switches that are off, longer lists and higher caps at most, and less of
them is used. -/
structure Wider (a b:Control)(usage usage':BudgetUsage):Prop where
 same:{a with
  killSwitch:=b.killSwitch
  readOnly:=b.readOnly
  allowedCommands:=b.allowedCommands
  allowedCountries:=b.allowedCountries
  allowedLanguages:=b.allowedLanguages
  allowedWedges:=b.allowedWedges
  dailyCostCap:=b.dailyCostCap
  dailyVolumeCap:=b.dailyVolumeCap}=b
 killSwitch:b.killSwitch=true→a.killSwitch=true
 readOnly:b.readOnly=true→a.readOnly=true
 commands:a.allowedCommands ⊆ b.allowedCommands
 countries:a.allowedCountries ⊆ b.allowedCountries
 languages:a.allowedLanguages ⊆ b.allowedLanguages
 wedges:a.allowedWedges ⊆ b.allowedWedges
 cost:costRemaining a usage≤costRemaining b usage'
 volume:volumeRemaining a usage≤volumeRemaining b usage'

section
variable {a b:Control}{usage':BudgetUsage}

lemma Wider.authority (wider:Wider a b usage usage'){profile:Option CommandPolicy}
 (passes:Passes (authorityChecks request a profile)) :
 Passes (authorityChecks request b profile):=by
 have version:b.policyVersion=a.policyVersion:=by rw[←wider.same]
 have signal:b.qaSignalRef=a.qaSignalRef:=by rw[←wider.same]
 have killed:=wider.killSwitch
 have locked:=wider.readOnly
 simp only[authorityChecks,passes_cons,version,signal] at passes ⊢
 grind

lemma listed_mono {old new:List String}(longer:old ⊆ new)(asked:Option String)
 (listed:asked.any (fun x=>!old.contains x)≠true) :
 asked.any (fun x=>!new.contains x)≠true:=by
 cases asked with
 | none=>exact listed
 | some x =>
  have known:x∈old:=by simpa using listed
  simpa using longer known

lemma Wider.envelope (wider:Wider a b usage usage'){profile:CommandPolicy}
 (passes:Passes (envelopeChecks request a profile)) :
 Passes (envelopeChecks request b profile):=by
 have mode:effectiveMode b=effectiveMode a:=by rw[←wider.same];rfl
 have commands:=listed_mono wider.commands (some request.command)
 have countries:=listed_mono wider.countries request.scope.country
 have languages:=listed_mono wider.languages request.scope.language
 have wedges:=listed_mono wider.wedges request.scope.wedge
 simp only[envelopeChecks,passes_cons,mode] at passes ⊢
 grind

lemma Wider.budget (wider:Wider a b usage usage'){profile:CommandPolicy}
 (passes:Passes (budgetChecks request a usage profile)) :
 Passes (budgetChecks request b usage' profile):=by
 have currency:b.currency=a.currency:=by rw[←wider.same]
 have cost:=wider.cost
 have volume:=wider.volume
 simp only[budgetChecks,passes_cons,currency] at passes ⊢
 grind

/-- More use of the budget, a switch that is set, a shorter list or a lower cap never makes a
decision executable. -/
theorem widening_keeps_executable (wider:Wider a b usage usage')
 (executable:(evaluatePolicy scopeFingerprint request a usage t).executable=true) :
 (evaluatePolicy scopeFingerprint request b usage' t).executable=true:=by
 rw[executable_iff] at executable ⊢
 obtain ⟨live,passes⟩:=executable
 have mode:b.autonomyMode=a.autonomyMode:=by rw[←wider.same]
 refine ⟨mode ▸ live,?_⟩
 rw[checks,passes_append] at passes ⊢
 refine ⟨wider.authority passes.1,?_⟩
 cases known:commandPolicy request.command with
 | none=>exact passes_nil
 | some profile =>
  have compliance:complianceCheck scopeFingerprint request b t =
    complianceCheck scopeFingerprint request a t:=by rw[←wider.same];rfl
  have action:actionCheck scopeFingerprint request b profile t =
    actionCheck scopeFingerprint request a profile t:=by rw[←wider.same];rfl
  have asked:=passes.2
  simp only[known,Option.map_some,Option.getD_some,profileChecks,passes_append,compliance,
   action] at asked ⊢
  obtain ⟨⟨⟨⟨⟨envelope,reviewed⟩,evidence⟩,budget⟩,operational⟩,approved⟩:=asked
  exact ⟨⟨⟨⟨⟨wider.envelope envelope,reviewed⟩,evidence⟩,wider.budget budget⟩,operational⟩,approved⟩

end

/-- The same authority, with a country and more volume, and less of it used. -/
def widerControl:Control:=
 {assistedControl with
  allowedCountries:="BE"::assistedControl.allowedCountries
  dailyVolumeCap:=assistedControl.dailyVolumeCap+1}

theorem widening_keeps_executable_sample :
 (evaluatePolicy SafetyControls.sampleScope preparation widerControl ⟨0,0,none⟩
  SafetyControls.hour).executable=true:=
 widening_keeps_executable (a:=assistedControl)
  ⟨rfl,id,id,List.Subset.refl _,List.subset_cons_self ..,List.Subset.refl _,List.Subset.refl _,
   le_rfl,by simp[volumeRemaining,widerControl]⟩ (by decide +kernel)

end Kivou.PolicyEvaluation
