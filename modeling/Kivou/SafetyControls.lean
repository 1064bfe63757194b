import Kivou.PolicyEvaluation

set_option autoImplicit false

/-! `downgrade` puts the next safer mode above the log, `criticalStop` a control that executes
nothing but what is safe. -/
namespace Kivou.SafetyControls
open PythonValues PolicyControls PolicyEvaluation

def safetyControllerRef:String:="kivou-safety-controller"

def nextSafer:AutonomyMode→AutonomyMode
 | .adaptiveVolume=>.autonomousCapped
 | .autonomousCapped=>.assisted
 | .assisted=>.shadow
 | .shadow=>.shadow

inductive SafetyError where
 | unavailable | headNotEffective | invalid | storage | changedConcurrently
 deriving DecidableEq

structure SafetyPayload where
 (previous durableHead:String)
 controlRevision:ℕ
 target:AutonomyMode
 (killSwitch readOnly:Bool)
 reasonCodes:List String
 effectiveAt:ℤ
 deriving DecidableEq

variable (fingerprint:SafetyPayload→String)

/-- The control that `_append_safer` puts in place of `current`. -/
def saferControl (current head:Control)(at':ℤ)(target:AutonomyMode)
 (killSwitch readOnly:Bool)(reasonCodes:List String):Control:=
 let digest:=fingerprint ⟨current.policySnapshotId,head.policySnapshotId,
  head.controlRevision+1,target,killSwitch,readOnly,reasonCodes,at'⟩
 {current with
   policySnapshotId:=digest
   controlRevision:=head.controlRevision+1
   autonomyMode:=target
   shadowTargetMode:=if target=.shadow then some .assisted else none
   killSwitch
   readOnly
   effectiveAt:=at'
   expiresAt:=none
   snapshotFingerprint:=digest
   createdAt:=at'
   createdByActorType:=.system
   createdByActorRef:=safetyControllerRef
   reasonCodes:=reasonCodes.map trim}

/-- What an attempt comes to: a control to return, one to write when the head is
still the one that was read, or another attempt. -/
inductive Decision (ε:Type) where
 | returned (control:Control)
 | append (replacement:Control)(expected:ℕ)
 | retry
 | failed (error:ε)

def validated (replacement:Control)(expected:ℕ):Decision SafetyError:=
 if replacement.valid then .append replacement expected else .failed .invalid

def expiredBy (at':ℤ)(c:Control):Bool:=c.expiresAt.any (fun expires=>expires≤at')

/-- An attempt of `downgrade`, on the head and the control in force that it read. -/
def downgradeDecision (at':ℤ)(reasonCodes:List String)(head current:Control) :
 Decision SafetyError:=
 if head.controlRevision<current.controlRevision then .retry
 else if current.controlRevision≠head.controlRevision ∧ !expiredBy at' head then
  .failed .headNotEffective
 else if current.createdByActorRef=safetyControllerRef ∧ current.reasonCodes=reasonCodes then
  .returned current
 else if nextSafer current.autonomyMode=current.autonomyMode then .returned current
 else
  validated (saferControl fingerprint current head at' (nextSafer current.autonomyMode)
   current.killSwitch current.readOnly reasonCodes) head.controlRevision

def isExactCriticalStop (c:Control):Bool:=
 c.autonomyMode==.shadow&&c.shadowTargetMode==some .assisted&&c.killSwitch&&c.readOnly &&
  c.expiresAt.isNone

/-- An attempt of `critical_stop`. -/
def criticalStopDecision (at':ℤ)(reasonCodes:List String)(head current:Control) :
 Decision SafetyError:=
 if head.controlRevision<current.controlRevision then .retry
 else if isExactCriticalStop current then .returned current
 else
  validated (saferControl fingerprint current head at' .shadow true true reasonCodes)
   head.controlRevision

def attempt (decide:Control → Control→Decision SafetyError)(log:Log)(at':ℤ) :
 Except SafetyError (Option (Control × Log)):=
 match getLatestControl log,getEffectiveControl log at' with
 | some head,some current =>
  match decide head current with
  | .returned control=>.ok (some (control,log))
  | .append replacement expected =>
   match appendControlIfLatest log replacement (some expected) with
   | .written log'=>.ok (some (replacement,log'))
   | .refused=>.ok none
   | .raised=>.error .storage
  | .retry=>.ok none
  | .failed error=>.error error
 | _,_=>.error .unavailable

def attempts (decide:Control → Control→Decision SafetyError)(log:Log)(at':ℤ) :
 Except SafetyError (Control × Log):=
 match attempt decide log at' with
 | .ok (some result)=>.ok result
 | .ok none=>.error .changedConcurrently
 | .error error=>.error error

def downgrade (log:Log)(at':ℤ)(reasonCodes:List String):Except SafetyError (Control × Log):=
 attempts (downgradeDecision fingerprint at' reasonCodes) log at'

def criticalStop (log:Log)(at':ℤ)(reasonCodes:List String) : Except SafetyError (Control × Log):=
 attempts (criticalStopDecision fingerprint at' reasonCodes) log at'

inductive Operation where
 | append (control:Control)(valid:control.valid=true)
 | appendIfLatest (control:Control)(valid:control.valid=true)(expected:Option ℕ)
 | downgrade (at':ℤ)(reasonCodes:List String)
 | criticalStop (at':ℤ)(reasonCodes:List String)

def step (log:Log):Operation→Log
 | .append c _=>(appendControl log c).getD log
 | .appendIfLatest c _ expected =>
  match appendControlIfLatest log c expected with
  | .written log'=>log'
  | _=>log
 | .downgrade at' reasonCodes =>
  match downgrade fingerprint log at' reasonCodes with
  | .ok (_,log')=>log'
  | .error _=>log
 | .criticalStop at' reasonCodes =>
  match criticalStop fingerprint log at' reasonCodes with
  | .ok (_,log')=>log'
  | .error _=>log

def logAfter (ops:List Operation):Log:=ops.foldl (step fingerprint) []

/-- What a call that returns has done: nothing, or a control written above the
head, in place of the one in force. -/
inductive Effect (decide:Control → Control→Decision SafetyError)(log:Log)(at':ℤ):Log→Prop
 | kept {current:Control}:getEffectiveControl log at'=some current →
   (∃head,getLatestControl log=some head ∧ decide head current=.returned current) →
   Effect decide log at' log
 | written {head current replacement row:Control}:getLatestControl log=some head →
   getEffectiveControl log at'=some current →
   decide head current=.append replacement head.controlRevision → replacement.valid=true →
   replacement.stored=some row →
   (∀old∈log,old.controlRevision<replacement.controlRevision) →
   Effect decide log at' (log++[row])

def Sensible (decide:Control → Control→Decision SafetyError):Prop:=
 (∀head current control,decide head current=.returned control→control=current) ∧
  ∀head current replacement expected,decide head current=.append replacement expected →
   replacement.valid=true ∧ expected=head.controlRevision

variable {replacement head current control:Control}{expected:ℕ}{at':ℤ}
 {reasonCodes:List String}{log:Log}

lemma validated_append {c:Control}{e:ℕ} (h:validated replacement expected=.append c e) :
 c=replacement ∧ e=expected ∧ replacement.valid=true:=by
 unfold validated at h
 split at h
 · cases h
   exact ⟨rfl,rfl,‹_›⟩
 · cases h

lemma validated_ne_returned {c:Control} : validated replacement expected≠.returned c:=by
 unfold validated
 split <;> simp

variable {fingerprint}

lemma downgradeDecision_append
 (h:downgradeDecision fingerprint at' reasonCodes head current=.append replacement expected) :
 replacement=saferControl fingerprint current head at' (nextSafer current.autonomyMode)
   current.killSwitch current.readOnly reasonCodes ∧ expected=head.controlRevision ∧
  replacement.valid=true ∧ nextSafer current.autonomyMode≠current.autonomyMode ∧
  ¬(current.createdByActorRef=safetyControllerRef ∧ current.reasonCodes=reasonCodes) ∧
  ¬(current.controlRevision≠head.controlRevision ∧ !expiredBy at' head):=by
 unfold downgradeDecision at h
 split at h
 · cases h
 · split at h
   · cases h
   · rename_i headed
     split at h
     · cases h
     · rename_i fresh
       split at h
       · cases h
       · rename_i lower
         obtain ⟨rfl,rfl,valid⟩:=validated_append h
         exact ⟨rfl,rfl,valid,lower,fresh,headed⟩

lemma downgradeDecision_returned
 (h:downgradeDecision fingerprint at' reasonCodes head current=.returned control) :
 control=current:=by
 unfold downgradeDecision at h
 split at h
 · cases h
 · split at h
   · cases h
   · split at h
     · cases h
       rfl
     · split at h
       · cases h
         rfl
       · exact absurd h validated_ne_returned

lemma criticalStopDecision_append (h:criticalStopDecision fingerprint at' reasonCodes head current =
  .append replacement expected) :
 replacement=saferControl fingerprint current head at' .shadow true true reasonCodes ∧
  expected=head.controlRevision ∧ replacement.valid=true:=by
 unfold criticalStopDecision at h
 split at h
 · cases h
 · split at h
   · cases h
   · obtain ⟨rfl,rfl,valid⟩:=validated_append h
     exact ⟨rfl,rfl,valid⟩

lemma criticalStopDecision_returned
 (h:criticalStopDecision fingerprint at' reasonCodes head current=.returned control) :
 control=current ∧ isExactCriticalStop current=true:=by
 unfold criticalStopDecision at h
 split at h
 · cases h
 · split at h
   · cases h
     exact ⟨rfl,‹_›⟩
   · exact absurd h validated_ne_returned

lemma downgrade_sensible (at':ℤ)(reasonCodes:List String) :
 Sensible (downgradeDecision fingerprint at' reasonCodes):=
 ⟨fun _ _ _=>downgradeDecision_returned,fun _ _ _ _ h=>
  ⟨(downgradeDecision_append h).2.2.1,(downgradeDecision_append h).2.1⟩⟩

lemma criticalStop_sensible (at':ℤ)(reasonCodes:List String) :
 Sensible (criticalStopDecision fingerprint at' reasonCodes):=
 ⟨fun _ _ _ h=>(criticalStopDecision_returned h).1,fun _ _ _ _ h=>
  ⟨(criticalStopDecision_append h).2.2,(criticalStopDecision_append h).2.1⟩⟩

lemma attempts_effect {decide:Control → Control→Decision SafetyError}(sensible:Sensible decide)
 {log':Log}
 (h:attempts decide log at'=.ok (control,log')):Effect decide log at' log':=by
 unfold attempts at h
 split at h
 · rename_i result returned
   cases h
   unfold attempt at returned
   split at returned
   · rename_i head current latest effective
     split at returned
     · rename_i given decided
       cases returned
       cases sensible.1 _ _ _ decided
       exact .kept effective ⟨head,latest,decided⟩
     · rename_i replacement expected decided
       obtain ⟨valid,rfl⟩:=sensible.2 _ _ _ _ decided
       split at returned
       · rename_i written
         cases returned
         obtain ⟨row,stored,rfl,-,-,above⟩:=appendControlIfLatest_written written
         exact .written latest effective decided valid stored above
       · cases returned
       · cases returned
     · cases returned
     · cases returned
   · cases returned
 · cases h
 · cases h

lemma Effect.logWritten {decide:Control → Control→Decision SafetyError}{log':Log}
 (h:Effect decide log at' log')(written:Written log):Written log':=by
 cases h with
 | kept=>exact written
 | written _ _ _ valid stored above=>exact written.append valid stored above

lemma step_written (h:Written log)(op:Operation) : Written (step fingerprint log op):=by
 cases op with
 | append c valid =>
  simp only[step]
  cases appended:appendControl log c with
  | none=>exact h
  | some log' =>
   obtain ⟨row,stored,rfl,above⟩:=appendControl_some appended
   exact h.append valid stored above
 | appendIfLatest c valid expected =>
  simp only[step]
  split
  · rename_i written
    obtain ⟨row,stored,rfl,-,-,above⟩:=appendControlIfLatest_written written
    exact h.append valid stored above
  · exact h
 | downgrade at' reasonCodes =>
  simp only[step]
  split
  · rename_i returned
    exact (attempts_effect (downgrade_sensible at' reasonCodes) returned).logWritten h
  · exact h
 | criticalStop at' reasonCodes =>
  simp only[step]
  split
  · rename_i returned
    exact (attempts_effect (criticalStop_sensible at' reasonCodes) returned).logWritten h
  · exact h

lemma logAfter_written (ops:List Operation):Written (logAfter fingerprint ops):=
 Runs.invariant Written (fun _ op h=>step_written h op) ops written_nil

variable {scopeFingerprint:Scope→String}

/-- Two controls that differ at most in their identity, their mode and their times. -/
structure SameEnvelope (a b:Control):Prop where
 policyVersion:a.policyVersion=b.policyVersion
 readOnly:a.readOnly=b.readOnly
 killSwitch:a.killSwitch=b.killSwitch
 qaSignalRef:a.qaSignalRef=b.qaSignalRef
 allowedCommands:a.allowedCommands=b.allowedCommands
 allowedCountries:a.allowedCountries=b.allowedCountries
 allowedLanguages:a.allowedLanguages=b.allowedLanguages
 allowedWedges:a.allowedWedges=b.allowedWedges
 currency:a.currency=b.currency
 dailyCostCap:a.dailyCostCap=b.dailyCostCap
 dailyVolumeCap:a.dailyVolumeCap=b.dailyVolumeCap

section
variable {a b:Control}{request:PolicyRequest}{usage:BudgetUsage}{t:ℤ}

lemma SameEnvelope.authority (same:SameEnvelope a b)(profile:Option CommandPolicy) :
 authorityChecks request a profile=authorityChecks request b profile:=by
 simp only[authorityChecks,same.qaSignalRef,same.killSwitch,same.readOnly,same.policyVersion]

lemma SameEnvelope.budget (same:SameEnvelope a b)(profile:CommandPolicy) :
 budgetChecks request a usage profile=budgetChecks request b usage profile:=by
 unfold budgetChecks costRemaining volumeRemaining
 rw[same.currency,same.dailyCostCap,same.dailyVolumeCap]

lemma SameEnvelope.envelope (same:SameEnvelope a b)
 (capped:effectiveMode a≠some .adaptiveVolume){profile:CommandPolicy}
 (passes:Passes (envelopeChecks request a profile)) :
 Passes (envelopeChecks request b profile):=by
 simp only[envelopeChecks,passes_cons,same.allowedCommands,same.allowedCountries,
  same.allowedLanguages,same.allowedWedges] at passes ⊢
 have other:(request.command=="reallocate_volume")=false:=by
  have refused:=passes.2.2.2.2.2.2.2.2.1
  cases command:request.command=="reallocate_volume" with
  | false=>rfl
  | true=>simp[command,capped] at refused
 refine ⟨passes.1,passes.2.1,passes.2.2.1,passes.2.2.2.1,passes.2.2.2.2.1,
  passes.2.2.2.2.2.1,passes.2.2.2.2.2.2.1,passes.2.2.2.2.2.2.2.1,?_,passes_nil⟩
 simp[other]

def Unreviewed (request:PolicyRequest)(c:Control):Prop:=
 ∀grant∈request.approvalGrants,grant.purpose=.complianceReview →
  grant.controlRevision≠c.controlRevision

lemma complianceGrant_none (h:Unreviewed request a) :
 complianceGrant scopeFingerprint request a t=none:=by
 refine List.find?_eq_none.mpr fun grant mem=>?_
 by_contra found
 simp only[grantMatches,Bool.and_eq_true,beq_iff_eq] at found
 exact h grant mem found.1.1.1.1.1.1.1.1.1.1.1 found.1.1.1.2

lemma compliance_passes (unreviewed:Unreviewed request a)
 (passes:Passes [complianceCheck scopeFingerprint request a t]) :
 Passes [complianceCheck scopeFingerprint request b t]:=by
 rw[passes_cons] at passes ⊢
 refine ⟨?_,passes_nil⟩
 have first:=passes.1
 unfold complianceCheck at first ⊢
 simp only at first ⊢
 split
 · rename_i future
   simp[future] at first
 · rename_i dated
   rw[if_neg dated] at first
   split
   · rename_i expired
     simp[expired] at first
   · rename_i current
     rw[if_neg current] at first
     cases state:request.compliance.state with
     | allowed=>simp
     | blocked | unknown=>simp[state] at first
     | reviewRequired =>
      rw[state] at first
      simp[complianceGrant_none unreviewed] at first

lemma lower_executable (same:SameEnvelope a b)(unreviewed:Unreviewed request a)
 (capped:effectiveMode a≠some .adaptiveVolume)
 (higher:b.autonomyMode=.autonomousCapped ∨ b.autonomyMode=.adaptiveVolume)
 (h:(evaluatePolicy scopeFingerprint request a usage t).executable=true) :
 (evaluatePolicy scopeFingerprint request b usage t).executable=true:=by
 rw[executable_iff] at h ⊢
 obtain ⟨-,passes⟩:=h
 have mode:b.autonomyMode≠.shadow:=by
  rcases higher with eq|eq <;> simp[eq]
 have unasked:∀profile,actionRequired b profile=false:=by
  intro profile
  rcases higher with eq|eq <;> simp[actionRequired,effectiveMode,eq]
 refine ⟨mode,?_⟩
 rw[checks,passes_append] at passes ⊢
 refine ⟨same.authority _ ▸ passes.1,?_⟩
 cases profile:commandPolicy request.command with
 | none=>exact passes_nil
 | some p =>
  have known:=passes.2
  simp only[profile,Option.map_some,Option.getD_some,profileChecks,passes_append] at known ⊢
  obtain ⟨⟨⟨⟨⟨envelope,compliance⟩,evidence⟩,budget⟩,operational⟩,-⟩:=known
  refine ⟨⟨⟨⟨⟨same.envelope capped envelope,?_⟩,evidence⟩,?_⟩,operational⟩,?_⟩
  · split
    · rename_i asked
      rw[if_pos asked] at compliance
      exact compliance_passes unreviewed compliance
    · exact passes_nil
  · exact same.budget p ▸ budget
  · simp[passes_cons,passes_nil,actionCheck,unasked]

lemma shadow_idle (h:a.autonomyMode=.shadow) :
 (evaluatePolicy scopeFingerprint request a usage t).executable=false:=by
 simp[evaluatePolicy,h]

end

/-- What runs from `at'` on under the log after the call ran under the one before,
for the requests `ok`. -/
def Monotone (scopeFingerprint:Scope→String)(log log':Log)(at':ℤ) (ok:PolicyRequest→Prop):Prop:=
 ∀t,at'≤t→∀request,ok request→∀usage c,getEffectiveControl log' t=some c →
  (evaluatePolicy scopeFingerprint request c usage t).executable=true →
  ∃before,getEffectiveControl log t=some before ∧
   (evaluatePolicy scopeFingerprint request before usage t).executable=true

def isStop (c:Control):Bool:=c.autonomyMode==.shadow&&c.readOnly&&c.killSwitch

def StoppedFrom (log:Log)(at':ℤ):Prop:=∀t,at'≤t→∀c,getEffectiveControl log t=some c→isStop c=true

/-- No control above `current` is still to come into force. -/
def NothingAhead (log:Log)(at':ℤ)(current:Control):Prop:=
 ∀row∈log,current.controlRevision<row.controlRevision → row.effectiveAt≤at'

def DowngradeLasts (log:Log)(at':ℤ)(reasonCodes:List String):Prop:=
 ∀current,getEffectiveControl log at'=some current →
  current.autonomyMode=.shadow ∨ current.autonomyMode=.assisted ∨
  (current.createdByActorRef=safetyControllerRef ∧ current.reasonCodes=reasonCodes) ∨
  current.expiresAt=none ∧ NothingAhead log at' current

def StopLasts (log:Log)(at':ℤ):Prop:=
 ∀current,getEffectiveControl log at'=some current→isExactCriticalStop current=true →
  ∀row∈log,current.controlRevision<row.controlRevision → row.effectiveAt≤at' ∨ isStop row=true

def GrantedBefore (log:Log)(request:PolicyRequest):Prop:=
 ∀grant∈request.approvalGrants,grant.purpose=.complianceReview →
  ∃row∈log,grant.controlRevision≤row.controlRevision

lemma monotone_refl (log:Log)(at':ℤ)(ok:PolicyRequest→Prop) :
 Monotone scopeFingerprint log log at' ok:=
 fun _ _ _ _ _ c effective executable=>⟨c,effective,executable⟩

variable {log log':Log}{at':ℤ}{reasonCodes:List String}

lemma decides_on (written:Written log){t:ℤ}(later:at'≤t)
 {current:Control}(effective:getEffectiveControl log at'=some current)
 (lasting:current.expiresAt=none)(ahead:NothingAhead log at' current) :
 getEffectiveControl log t=some current:=by
 obtain ⟨mem,force⟩:=effective_mem effective
 simp only[Control.inForce,lasting,Option.all_none,Bool.and_true,decide_eq_true_eq] at force
 refine written.effective_of_le mem ?_ fun row hr inForce=>?_
 · simp only[Control.inForce,lasting,Option.all_none,Bool.and_true,decide_eq_true_eq]
   omega
 · by_contra above
   have before:=ahead row hr (by omega)
   -- What has not expired at the later time has not expired at the earlier one.
   have earlier:row.inForce at'=true:=by
    simp only[Control.inForce,Bool.and_eq_true,decide_eq_true_eq] at inForce ⊢
    refine ⟨before,?_⟩
    cases expires:row.expiresAt with
    | none=>rfl
    | some e =>
     simp only[expires,Option.all_some,decide_eq_true_eq] at inForce ⊢
     omega
   have le:=effective_le effective hr earlier
   omega

lemma saferControl_same (current head:Control)(at':ℤ)(target:AutonomyMode)
 (reasonCodes:List String) :
 SameEnvelope (saferControl fingerprint current head at' target current.killSwitch
  current.readOnly reasonCodes) current:=
 ⟨rfl,rfl,rfl,rfl,rfl,rfl,rfl,rfl,rfl,rfl,rfl⟩

lemma stored_copy (written:Written log){current replacement row:Control}
 (mem:current∈log)(cap:replacement.dailyCostCap=current.dailyCostCap)
 (stored:replacement.stored=some row):row=replacement:=by
 obtain ⟨same,kept⟩:=stored_fields stored
 have own:=(stored_fields (written.kept current mem)).2
 rw[cap,own] at kept
 rw[same,←Option.some.inj kept,←cap]

lemma written_effective {row:Control}(written:Written (log++[row])){t:ℤ}
 (since:row.effectiveAt≤t)(lasting:row.expiresAt=none) :
 getEffectiveControl (log++[row]) t=some row:=
 written.effective_append (by simp[Control.inForce,lasting,since])

lemma downgrade_monotone (written:Written log)(lasts:DowngradeLasts log at' reasonCodes)
 (effect:Effect (downgradeDecision fingerprint at' reasonCodes) log at' log') :
 Monotone scopeFingerprint log log' at' (GrantedBefore log):=by
 have grown:=effect.logWritten written
 cases effect with
 | kept=>exact monotone_refl log at' _
 | @written head current replacement row latest effective decided valid stored above =>
  obtain ⟨rfl,-,-,lower,fresh,-⟩:=downgradeDecision_append decided
  have mem:=(effective_mem effective).1
  have same:=stored_copy written mem (by rfl) stored
  subst same
  intro t later request granted usage c inForce executable
  have top:=written_effective grown (t:=t) (by exact later) rfl
  rw[top] at inForce
  cases inForce
  rcases lasts current effective with shadow|assisted|replayed|⟨lasting,ahead⟩
  · exact absurd (by rw[shadow];rfl) lower
  · rw[shadow_idle (by simp[saferControl,assisted,nextSafer])] at executable
    cases executable
  · exact absurd replayed fresh
  · refine ⟨current,decides_on written later effective lasting ahead,?_⟩
    have unreviewed:Unreviewed request (saferControl fingerprint current head at'
      (nextSafer current.autonomyMode) current.killSwitch current.readOnly reasonCodes):=by
     intro grant mem' purpose same
     obtain ⟨old,held,le⟩:=granted grant mem' purpose
     have less:=above old held
     omega
    cases mode:current.autonomyMode with
    | shadow=>exact absurd (by rw[mode];rfl) lower
    | assisted =>
     rw[shadow_idle (by simp[saferControl,mode,nextSafer])] at executable
     cases executable
    | autonomousCapped =>
     exact lower_executable (saferControl_same ..) unreviewed
      (by simp[effectiveMode,saferControl,mode,nextSafer]) (.inl mode) executable
    | adaptiveVolume =>
     exact lower_executable (saferControl_same ..) unreviewed
      (by simp[effectiveMode,saferControl,mode,nextSafer]) (.inr mode) executable

lemma criticalStop_monotone (written:Written log)
 (effect:Effect (criticalStopDecision fingerprint at' reasonCodes) log at' log') :
 Monotone scopeFingerprint log log' at' (fun _=>True):=by
 have grown:=effect.logWritten written
 cases effect with
 | kept=>exact monotone_refl log at' _
 | @written head current replacement row latest effective decided valid stored above =>
  obtain ⟨rfl,-,-⟩:=criticalStopDecision_append decided
  have same:=stored_copy written (effective_mem effective).1 (by rfl) stored
  subst same
  intro t later request _ usage c inForce executable
  rw[written_effective grown (by exact later) rfl] at inForce
  cases inForce
  rw[shadow_idle rfl] at executable
  cases executable

lemma isExactCriticalStop_stop {c:Control}(h:isExactCriticalStop c=true) :
 isStop c=true ∧ c.expiresAt=none:=by
 simp only[isExactCriticalStop,isStop,Bool.and_eq_true,Option.isNone_iff_eq_none] at h ⊢
 exact ⟨⟨⟨h.1.1.1.1,h.1.2⟩,h.1.1.2⟩,h.2⟩

lemma criticalStop_stopped (written:Written log)(lasts:StopLasts log at')
 (effect:Effect (criticalStopDecision fingerprint at' reasonCodes) log at' log') :
 StoppedFrom log' at':=by
 have grown:=effect.logWritten written
 cases effect with
 | @kept current effective decided =>
  obtain ⟨head,-,decided⟩:=decided
  have exact':=(criticalStopDecision_returned decided).2
  obtain ⟨stop,lasting⟩:=isExactCriticalStop_stop exact'
  intro t later c inForce
  by_cases same:c=current
  · exact same ▸ stop
  obtain ⟨mem,force⟩:=effective_mem effective
  obtain ⟨held,cforce⟩:=effective_mem inForce
  have still:current.inForce t=true:=by
   simp only[Control.inForce,lasting,Option.all_none,Bool.and_true,decide_eq_true_eq] at force ⊢
   omega
  have le:=effective_le inForce mem still
  have less:current.controlRevision<c.controlRevision:=by
   rcases Nat.lt_or_eq_of_le le with less|eq
   · exact less
   · exact absurd (written.eq_of_revision held mem eq.symm) same
  rcases lasts current effective exact' c held less with before|stopped
  · have earlier:c.inForce at'=true:=by
     simp only[Control.inForce,Bool.and_eq_true,decide_eq_true_eq] at cforce ⊢
     refine ⟨before,?_⟩
     cases expires:c.expiresAt with
     | none=>rfl
     | some e =>
      simp only[expires,Option.all_some,decide_eq_true_eq] at cforce ⊢
      omega
    have contra:=effective_le effective held earlier
    omega
  · exact stopped
 | @written head current replacement row latest effective decided valid stored above =>
  obtain ⟨rfl,-,-⟩:=criticalStopDecision_append decided
  have same:=stored_copy written (effective_mem effective).1 (by rfl) stored
  subst same
  intro t later c inForce
  rw[written_effective grown (by exact later) rfl] at inForce
  cases inForce
  rfl

/-- In every log that the writers have built: a downgrade that writes nothing
executable or replaces a control that decides for good, and every critical stop,
leaves nothing to run that did not run before; and a critical stop that finds no
other stop in force, or one that only stops are ahead of, stops for good. -/
theorem safety_calls_are_monotone (ops:List Operation)(at':ℤ)(reasonCodes:List String)
 (control:Control)(log':Log) :
 let log:=logAfter fingerprint ops
 (DowngradeLasts log at' reasonCodes →
  downgrade fingerprint log at' reasonCodes=.ok (control,log') →
  Monotone scopeFingerprint log log' at' (GrantedBefore log)) ∧
 (criticalStop fingerprint log at' reasonCodes=.ok (control,log') →
  Monotone scopeFingerprint log log' at' (fun _=>True)) ∧
 (StopLasts log at'→criticalStop fingerprint log at' reasonCodes=.ok (control,log') →
  StoppedFrom log' at'):=by
 intro log
 have written:Written log:=logAfter_written ops
 refine ⟨fun lasts returned=>?_,fun returned=>?_,fun lasts returned=>?_⟩
 · exact downgrade_monotone written lasts
    (attempts_effect (downgrade_sensible at' reasonCodes) returned)
 · exact criticalStop_monotone written
    (attempts_effect (criticalStop_sensible at' reasonCodes) returned)
 · exact criticalStop_stopped written lasts
    (attempts_effect (criticalStop_sensible at' reasonCodes) returned)

def hour:ℤ:=3600000000

def sampleFingerprint:SafetyPayload→String:=fun p=>
 if p=⟨"snapshot-1","snapshot-1",2,.assisted,false,false,["OPERATIONS_INCIDENT"],5*hour⟩
 then "35ed2a6c58c385dd88202b52bcc55417fcb0cffd9a72d6f1ff2bf8dbd46dfd65"
 else if p=⟨"snapshot-1","snapshot-1",2,.shadow,true,true,["OPERATIONS_INCIDENT"],5*hour⟩
 then "87793c9e6ac8426c11bee81bcce7f4ecdd2a7b1224ce8a6fbb5e0477d99780e1"
 else "f7bc0f3f58f2e665d1eb945f9fa066def63e8c732bdf02771fcfe9dd4df40ffb"

def sampleControl (policySnapshotId:String)(controlRevision:ℕ)(autonomyMode:AutonomyMode)
 (stopped:Bool)(effectiveAt:ℤ)(expiresAt:Option ℤ)(snapshotFingerprint:String) :
 Control where
 policySnapshotId
 controlRevision
 policyVersion:=policyVersion
 autonomyMode
 shadowTargetMode:=if autonomyMode=.shadow then some .assisted else none
 readOnly:=stopped
 killSwitch:=stopped
 qaSignalRef:=none
 allowedCommands:=["resolve_signal_seed"]
 allowedCountries:=["CH"]
 allowedLanguages:=["fr"]
 allowedWedges:=[]
 currency:="CHF"
 dailyCostCap:=10
 dailyVolumeCap:=1
 effectiveAt
 expiresAt
 snapshotFingerprint
 createdAt:=0
 createdByActorType:=.human
 createdByActorRef:="operator"
 reasonCodes:=[]

def firstFingerprint:String:="1111111111111111111111111111111111111111111111111111111111111111"
def secondFingerprint:String:="2222222222222222222222222222222222222222222222222222222222222222"

def stopControl:Control:=sampleControl "snapshot-1" 1 .shadow true 0 none firstFingerprint
def shadowControl:Control:=sampleControl "snapshot-1" 1 .shadow false 0 none firstFingerprint
def lastingControl:Control:=sampleControl "snapshot-1" 1 .autonomousCapped false 0 none firstFingerprint

def futureControl:Control:=
 sampleControl "snapshot-2" 2 .assisted false (10*hour) none secondFingerprint

def temporaryControl:Control:=
 sampleControl "snapshot-2" 2 .autonomousCapped false 0 (some (10*hour)) secondFingerprint

lemma sampleControls_valid :
 ∀c∈[stopControl,shadowControl,lastingControl,futureControl,temporaryControl],c.valid=true:=by
 decide +kernel

lemma stopControl_valid:stopControl.valid=true:=sampleControls_valid _ (by simp)
lemma shadowControl_valid:shadowControl.valid=true:=sampleControls_valid _ (by simp)
lemma lastingControl_valid:lastingControl.valid=true:=sampleControls_valid _ (by simp)
lemma futureControl_valid:futureControl.valid=true:=sampleControls_valid _ (by simp)
lemma temporaryControl_valid:temporaryControl.valid=true:=sampleControls_valid _ (by simp)

def aheadOps:List Operation:=
 [.append stopControl stopControl_valid,.append futureControl futureControl_valid]

def temporaryOps:List Operation:=
 [.append shadowControl shadowControl_valid,.append temporaryControl temporaryControl_valid]

def lastingOps:List Operation:=[.append lastingControl lastingControl_valid]

def readRequest:PolicyRequest where
 evaluationId:="evaluation-1"
 requestId:="request-1"
 command:="resolve_signal_seed"
 targetRef:="seed"
 acquisitionOpportunityId:=none
 qaSignalRef:=none
 actionFingerprint:=firstFingerprint
 scope:=⟨none,none,none⟩
 proposedCost:=0
 currency:="CHF"
 proposedVolume:=0
 evidenceRefs:=[]
 evidence:=⟨.ready,[],0,none⟩
 compliance:=⟨.allowed,0,none⟩
 operational:=⟨"runtime-1",.ready,.ready,.isOpen,.available,none,none⟩
 expectedPolicyVersion:=policyVersion
 approvalGrants:=[]

def sampleScope:Scope→String:=fun _=>firstFingerprint

def incident:List String:=["OPERATIONS_INCIDENT"]

def lowered (current:Control):Control:=
 saferControl sampleFingerprint current current (5*hour) .assisted false false incident

def stopped (current:Control):Control:=
 saferControl sampleFingerprint current current (5*hour) .shadow true true incident

lemma lasting_calls : logAfter sampleFingerprint lastingOps=[lastingControl] ∧
 getEffectiveControl [lastingControl] (5*hour)=some lastingControl ∧
 downgrade sampleFingerprint (logAfter sampleFingerprint lastingOps) (5*hour) incident =
  .ok (lowered lastingControl,[lastingControl,lowered lastingControl]) ∧
 criticalStop sampleFingerprint (logAfter sampleFingerprint lastingOps) (5*hour) incident =
  .ok (stopped lastingControl,[lastingControl,stopped lastingControl]):=by
 decide +kernel

theorem safety_calls_are_monotone_sample :
 Monotone sampleScope [lastingControl] [lastingControl,lowered lastingControl] (5*hour)
   (GrantedBefore [lastingControl]) ∧
  StoppedFrom [lastingControl,stopped lastingControl] (5*hour):=by
 obtain ⟨lastingOps_log,current,lasting_downgrade,lasting_criticalStop⟩:=lasting_calls
 have first:=(@safety_calls_are_monotone sampleFingerprint sampleScope lastingOps (5*hour)
  incident _ _).1 ?_ lasting_downgrade
 · have second:=(@safety_calls_are_monotone sampleFingerprint sampleScope lastingOps (5*hour)
    incident _ _).2.2 ?_ lasting_criticalStop
   · rw[lastingOps_log] at first
     exact ⟨first,second⟩
   · rw[lastingOps_log]
     intro c inForce stop
     rw[current] at inForce
     cases inForce
     cases stop
 · rw[lastingOps_log]
   intro c inForce
   rw[current] at inForce
   cases inForce
   refine .inr (.inr (.inr ⟨rfl,fun row mem above=>?_⟩))
   rw[List.mem_singleton.mp mem] at above
   exact absurd above (Nat.lt_irrefl _)

/-- A critical stop that finds a stop in force leaves the executable control that
is ahead of it; a downgrade of a control that expires runs on when it would have. -/
theorem stop_and_downgrade_outlasted :
 (∃control log',criticalStop sampleFingerprint (logAfter sampleFingerprint aheadOps) (5*hour)
   incident=.ok (control,log') ∧ ¬StoppedFrom log' (5*hour)) ∧
 ∃control log',downgrade sampleFingerprint (logAfter sampleFingerprint temporaryOps) (5*hour)
   incident=.ok (control,log') ∧
  ¬Monotone sampleScope (logAfter sampleFingerprint temporaryOps) log' (5*hour)
   (fun request=>request.approvalGrants=[]):=by
 constructor
 · refine ⟨stopControl,[stopControl,futureControl],by decide +kernel,fun lasts=>?_⟩
   have later:=lasts (10*hour) (by decide) futureControl (by decide +kernel)
   revert later
   decide
 · refine ⟨lowered temporaryControl,[shadowControl,temporaryControl,lowered temporaryControl],
    by decide +kernel,fun monotone=>?_⟩
   have inForce:getEffectiveControl [shadowControl,temporaryControl,lowered temporaryControl]
     (20*hour)=some (lowered temporaryControl):=by decide +kernel
   have runs:(evaluatePolicy sampleScope readRequest (lowered temporaryControl) ⟨0,0,some (24*hour)⟩
     (20*hour)).executable=true:=by decide +kernel
   obtain ⟨before,effective,ran⟩:=
    monotone (20*hour) (by decide) readRequest rfl ⟨0,0,some (24*hour)⟩ _ inForce runs
   have idle:getEffectiveControl (logAfter sampleFingerprint temporaryOps) (20*hour) =
     some shadowControl:=by decide +kernel
   rw[idle] at effective
   cases effective
   rw[shadow_idle rfl] at ran
   cases ran

end Kivou.SafetyControls
