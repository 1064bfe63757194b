import Kivou.QaPolicyWindow

set_option autoImplicit false

/-! Every call of the two controllers is a process of its own: it reads the head, then the control
in force, decides, and writes if the head is still the one it read. -/
namespace Kivou.PolicyInterleavings
open PythonValues PolicyControls SafetyControls QaPolicyWindow

inductive Call where
 | downgrade (at':ℤ)(reasonCodes:List String)
 | criticalStop (at':ℤ)(reasonCodes:List String)
 | openWindow (c:OpenCall)
 | closeWindow (c:CloseCall)
 deriving DecidableEq

inductive CallError where
 | safety (error:SafetyError)
 | window (error:WindowError)
 | crashed

def Call.at':Call→ℤ
 | .downgrade at' _=>at'
 | .criticalStop at' _=>at'
 | .openWindow c=>c.at'
 | .closeWindow c=>c.at'

def Call.unavailable:Call→CallError
 | .downgrade ..=>.safety .unavailable
 | .criticalStop ..=>.safety .unavailable
 | .openWindow _=>.window .authorityUnavailable
 | .closeWindow _=>.window .authorityUnavailable

def Call.storage:Call→CallError
 | .downgrade ..=>.safety .storage
 | .criticalStop ..=>.safety .storage
 | .openWindow _=>.window .authorityUnavailable
 | .closeWindow _=>.window .authorityUnavailable

def Call.changed:Call→CallError
 | .downgrade ..=>.safety .changedConcurrently
 | .criticalStop ..=>.safety .changedConcurrently
 | .openWindow _=>.window .changedConcurrently
 | .closeWindow _=>.window .changedConcurrently

def mapError {ε δ:Type}(f:ε→δ):Decision ε→Decision δ
 | .returned control=>.returned control
 | .append replacement expected=>.append replacement expected
 | .retry=>.retry
 | .failed error=>.failed (f error)

variable (fingerprint:SafetyPayload→String)(windowFingerprint:WindowPayload→String)

/-- What a call decides of the head and the control in force that it read; `log`
is what it can still read. -/
def Call.decide (log:Log)(head current:Control):Call→Decision CallError
 | .downgrade at' reasonCodes =>
  mapError .safety (downgradeDecision fingerprint at' reasonCodes head current)
 | .criticalStop at' reasonCodes =>
  mapError .safety (criticalStopDecision fingerprint at' reasonCodes head current)
 | .openWindow c=>mapError .window (openDecision windowFingerprint c head current)
 | .closeWindow c=>mapError .window (closeDecision windowFingerprint c log head current)

inductive Phase where
 | starting
 | headRead (head:Control)
 | bothRead (head current:Control)
 | deciding (replacement:Control)(expected:ℕ)
 | lost
 | finished (result:Except CallError Control)

structure Process where
 call:Call
 attempt:ℕ
 phase:Phase

def Process.finish (p:Process)(result:Except CallError Control):Process:=
 {p with phase:=.finished result}

def Process.again (p:Process):Process:=
 if p.attempt+1 < maxControlAppendAttempts then {p with attempt:=p.attempt+1,phase:=.starting}
 else p.finish (.error p.call.changed)

def Process.refused (p:Process):Process:=
 match p.call with
 | .criticalStop ..=>{p with phase:=.lost}
 | _=>p.again

def Process.advance (log:Log)(p:Process):Log × Process:=
 match p.phase with
 | .starting =>
  match getLatestControl log with
  | none=>(log,p.finish (.error p.call.unavailable))
  | some head=>(log,{p with phase:=.headRead head})
 | .headRead head =>
  match getEffectiveControl log p.call.at' with
  | none=>(log,p.finish (.error p.call.unavailable))
  | some current=>(log,{p with phase:=.bothRead head current})
 | .bothRead head current =>
  match p.call.decide fingerprint windowFingerprint log head current with
  | .returned control=>(log,p.finish (.ok control))
  | .append replacement expected=>(log,{p with phase:=.deciding replacement expected})
  | .retry=>(log,p.again)
  | .failed error=>(log,p.finish (.error error))
 | .deciding replacement expected =>
  match appendControlIfLatest log replacement (some expected) with
  | .written log'=>(log',p.finish (.ok replacement))
  | .refused=>(log,p.refused)
  | .raised=>(log,p.finish (.error p.call.storage))
 | .lost =>
  match getEffectiveControl log p.call.at' with
  | none=>(log,p.finish (.error p.call.unavailable))
  | some winner =>
   if isExactCriticalStop winner then (log,p.finish (.ok winner)) else (log,p.again)
 | .finished _=>(log,p)

structure BootstrapCall where
 at':ℤ
 (actorRef reasonCode:String)
 dailyCostCap:ℚ
 (country language wedge:String)

inductive BootstrapError where
 | scopeInvalid | costCapInvalid | controlAlreadyExists | controlInvalid | storage

variable (bootstrapFingerprint:BootstrapCall→String)

def bootstrapControl (b:BootstrapCall):Control where
 policySnapshotId:=bootstrapFingerprint b
 controlRevision:=1
 policyVersion:=PolicyEvaluation.policyVersion
 autonomyMode:=.assisted
 shadowTargetMode:=none
 readOnly:=false
 killSwitch:=false
 qaSignalRef:=none
 allowedCommands:=bootstrapAllowedCommands
 allowedCountries:=[trim b.country]
 allowedLanguages:=[trim b.language]
 allowedWedges:=[trim b.wedge]
 currency:="CHF"
 dailyCostCap:=b.dailyCostCap
 dailyVolumeCap:=0
 effectiveAt:=b.at'
 expiresAt:=none
 snapshotFingerprint:=bootstrapFingerprint b
 createdAt:=b.at'
 createdByActorType:=.human
 createdByActorRef:=trim b.actorRef
 reasonCodes:=[trim b.reasonCode]

def bootstrapPolicyControl (log:Log)(b:BootstrapCall):Except BootstrapError Log:=
 if !(["CH","FR"].contains b.country)||!(["fr","en"].contains b.language)||b.wedge="" then
  .error .scopeInvalid
 else if b.dailyCostCap≤0 then .error .costCapInvalid
 else if (getLatestControl log).isSome then .error .controlAlreadyExists
 else if !(bootstrapControl bootstrapFingerprint b).valid then .error .controlInvalid
 else
  match appendControl log (bootstrapControl bootstrapFingerprint b) with
  | some log'=>.ok log'
  | none=>.error .storage

structure System where
 log:Log
 processes:List Process

/-- A step of the system: a first control, a call that begins, a process that
moves on, and one that dies where it is. -/
inductive Step where
 | bootstrap (b:BootstrapCall)
 | start (call:Call)
 | advance (i:ℕ)
 | crash (i:ℕ)

def step (s:System):Step→System
 | .bootstrap b =>
  match bootstrapPolicyControl bootstrapFingerprint s.log b with
  | .ok log'=>{s with log:=log'}
  | .error _=>s
 | .start call=>{s with processes:=s.processes++[⟨call,0,.starting⟩]}
 | .advance i =>
  match s.processes[i]? with
  | none=>s
  | some p =>
   let (log',p'):=p.advance fingerprint windowFingerprint s.log
   ⟨log',s.processes.set i p'⟩
 | .crash i =>
  match s.processes[i]? with
  | none=>s
  | some p=>{s with processes:=s.processes.set i (p.finish (.error .crashed))}

def after (steps:List Step):System:=
 steps.foldl (step fingerprint windowFingerprint bootstrapFingerprint) ⟨[],[]⟩

/-- What a call writes, as one step on the log: above its head, in place of the
control in force, what the call decides on that very log. -/
structure Writes (call:Call)(log:Log)(replacement row:Control):Prop where
 intro ::
 decided:∃head current,getLatestControl log=some head ∧
  getEffectiveControl log call.at'=some current ∧
  call.decide fingerprint windowFingerprint log head current =
   .append replacement head.controlRevision
 valid:replacement.valid=true
 stored:replacement.stored=some row
 above:∀old∈log,old.controlRevision<replacement.controlRevision

def Seen (log:Log)(p:Process):Prop:=
 match p.phase with
 | .headRead head=>∃e,e <+: log ∧ getLatestControl e=some head
 | .bothRead head current=>∃e e',e <+: e' ∧ e' <+: log ∧ getLatestControl e=some head ∧
   getEffectiveControl e' p.call.at'=some current
 | .deciding replacement expected=>∃e e' e'' head current,e <+: e' ∧ e' <+: e'' ∧ e'' <+: log ∧
   getLatestControl e=some head ∧ getEffectiveControl e' p.call.at'=some current ∧
   p.call.decide fingerprint windowFingerprint e'' head current=.append replacement expected
 | .lost=>∃at' reasonCodes,p.call=.criticalStop at' reasonCodes
 | _=>True

variable {fingerprint windowFingerprint bootstrapFingerprint}

variable {c current replacement stop:Control}{call:Call}{log:Log}{p:Process}

lemma mapError_append {ε δ:Type}{f:ε→δ}{d:Decision ε}{e:ℕ}
 (h:mapError f d=.append c e):d=.append c e:=by
 cases d with
 | append=>cases h;rfl
 | returned | retry | failed=>cases h

lemma mapError_returned {ε δ:Type}{f:ε→δ}{d:Decision ε}
 (h:mapError f d=.returned c):d=.returned c:=by
 cases d with
 | returned=>cases h;rfl
 | append | retry | failed=>cases h

lemma decide_append {head:Control}{expected:ℕ}
 (h:call.decide fingerprint windowFingerprint log head current =
  .append replacement expected) :
 expected=head.controlRevision ∧ replacement.valid=true:=by
 cases call with
 | downgrade at' reasonCodes =>
  have d:=downgradeDecision_append (mapError_append h)
  exact ⟨d.2.1,d.2.2.1⟩
 | criticalStop at' reasonCodes =>
  have d:=criticalStopDecision_append (mapError_append h)
  exact ⟨d.2.1,d.2.2⟩
 | openWindow c =>
  have d:=openDecision_append (mapError_append h)
  exact ⟨d.expected,d.valid⟩
 | closeWindow c =>
  have d:=closeDecision_append (mapError_append h)
  exact ⟨d.expected,d.valid⟩

lemma same_head {e:Log}(written:Written log)(earlier:e <+: log){head:Control}
 (latest:getLatestControl e=some head)(still:maximum log=some head.controlRevision) :
 e=log:=by
 obtain ⟨rest,rfl⟩:=earlier
 cases rest with
 | nil=>rw[List.append_nil]
 | cons row rest =>
  have less:=(List.pairwise_append.mp written.rising).2.2 head (highest_mem latest) row (by simp)
  have le:=below_maximum still (List.mem_append_right e (List.mem_cons_self (a:=row) (l:=rest)))
  omega

lemma Seen.grow {log':Log}(grown:log <+: log')
 (h:Seen fingerprint windowFingerprint log p):Seen fingerprint windowFingerprint log' p:=by
 unfold Seen at h ⊢
 split
 · rename_i head phase
   rw[phase] at h
   obtain ⟨e,earlier,latest⟩:=h
   exact ⟨e,earlier.trans grown,latest⟩
 · rename_i head current phase
   rw[phase] at h
   obtain ⟨e,e',before,earlier,rest⟩:=h
   exact ⟨e,e',before,earlier.trans grown,rest⟩
 · rename_i replacement expected phase
   rw[phase] at h
   obtain ⟨e,e',e'',head,current,before,before',earlier,rest⟩:=h
   exact ⟨e,e',e'',head,current,before,before',earlier.trans grown,rest⟩
 · rename_i phase
   rw[phase] at h
   exact h
 · trivial

lemma again_seen (log:Log)(p:Process):Seen fingerprint windowFingerprint log p.again:=by
 unfold Process.again
 split <;> trivial

lemma refused_seen (log:Log)(p:Process):Seen fingerprint windowFingerprint log p.refused:=by
 unfold Process.refused
 split
 · rename_i at' reasonCodes stopping
   exact ⟨at',reasonCodes,stopping⟩
 · exact again_seen log p

lemma again_call (p:Process):p.again.call=p.call:=by
 unfold Process.again
 split <;> rfl

lemma refused_call (p:Process):p.refused.call=p.call:=by
 unfold Process.refused
 split
 · rfl
 · exact again_call p

lemma advance_cases (written:Written log) (seen:Seen fingerprint windowFingerprint log p) :
 let moved:=p.advance fingerprint windowFingerprint log
 moved.2.call=p.call ∧ Seen fingerprint windowFingerprint moved.1 moved.2 ∧
  (moved.1=log ∨ ∃replacement row,moved.1=log++[row] ∧
   Writes fingerprint windowFingerprint p.call log replacement row):=by
 obtain ⟨call,attempt,phase⟩:=p
 cases phase with
 | starting =>
  simp only[Process.advance]
  split
  · exact ⟨rfl,trivial,.inl rfl⟩
  · rename_i head latest
    exact ⟨rfl,⟨log,List.prefix_rfl,latest⟩,.inl rfl⟩
 | headRead head =>
  obtain ⟨e,earlier,latest⟩:=seen
  simp only[Process.advance]
  split
  · exact ⟨rfl,trivial,.inl rfl⟩
  · rename_i current effective
    exact ⟨rfl,⟨e,log,earlier,List.prefix_rfl,latest,effective⟩,.inl rfl⟩
 | bothRead head current =>
  obtain ⟨e,e',before,earlier,latest,effective⟩:=seen
  simp only[Process.advance]
  split
  · exact ⟨rfl,trivial,.inl rfl⟩
  · rename_i replacement expected decided
    exact ⟨rfl,⟨e,e',log,head,current,before,earlier,List.prefix_rfl,latest,effective,
     decided⟩,.inl rfl⟩
  · exact ⟨again_call _,again_seen _ _,.inl rfl⟩
  · exact ⟨rfl,trivial,.inl rfl⟩
 | deciding replacement expected =>
  obtain ⟨e,e',e'',head,current,before,before',earlier,latest,effective,decided⟩:=seen
  obtain ⟨rfl,valid⟩:=decide_append decided
  simp only[Process.advance]
  split
  · rename_i log' appended
    obtain ⟨row,stored,rfl,still,-,above⟩:=appendControlIfLatest_written appended
    -- The head it compares with is the one it read, so nothing was written since.
    have first:=same_head written ((before.trans before').trans earlier) latest still
    subst first
    have second:=before.eq_of_length_le (before'.trans earlier).length_le
    subst second
    have third:=before'.eq_of_length_le earlier.length_le
    subst third
    exact ⟨rfl,trivial,.inr ⟨replacement,row,rfl,
     ⟨head,current,latest,effective,decided⟩,valid,stored,above⟩⟩
  · exact ⟨refused_call _,refused_seen _ _,.inl rfl⟩
  · exact ⟨rfl,trivial,.inl rfl⟩
 | lost =>
  simp only[Process.advance]
  split
  · exact ⟨rfl,trivial,.inl rfl⟩
  · split
    · exact ⟨rfl,trivial,.inl rfl⟩
    · exact ⟨again_call _,again_seen _ _,.inl rfl⟩
 | finished result=>exact ⟨rfl,trivial,.inl rfl⟩

/-- Only `SHADOW` and `ASSISTED`, and no `ASSISTED` control that expires lasts
longer than a window. -/
def Modest (c:Control):Prop:=c.autonomyMode=.shadow ∨
  c.autonomyMode=.assisted ∧ ∀e,c.expiresAt=some e→e≤c.effectiveAt+maximumQaWindow

/-- What `open` returns is a window. -/
def Yields (p:Process):Prop:=∀oc c,p.call=.openWindow oc→p.phase=.finished (.ok c) →
  ∃e,c.expiresAt=some e ∧ e≤c.effectiveAt+maximumQaWindow

variable (fingerprint windowFingerprint) in
structure Sound (s:System):Prop where
 written:Written s.log
 modest:∀c∈s.log,Modest c
 seen:∀p∈s.processes,Seen fingerprint windowFingerprint s.log p
 yields:∀p∈s.processes,Yields p

lemma Modest.row {row:Control}(h:Modest c)(stored:c.stored=some row):Modest row:=by
 rw[(stored_fields stored).1]
 exact h

lemma writes_modest {row:Control} (modest:∀c∈log,Modest c)
 (h:Writes fingerprint windowFingerprint call log replacement row):Modest replacement:=by
 obtain ⟨head,current,-,effective,decided⟩:=h.decided
 cases call with
 | downgrade at' reasonCodes =>
  obtain ⟨rfl,-,-,lower,-,-⟩:=downgradeDecision_append (mapError_append decided)
  rcases modest current (effective_mem effective).1 with shadow|⟨assisted,-⟩
  · exact absurd (by rw[shadow];rfl) lower
  · exact .inl (by simp[saferControl,assisted,nextSafer])
 | criticalStop at' reasonCodes =>
  obtain ⟨rfl,-,-⟩:=criticalStopDecision_append (mapError_append decided)
  exact .inl rfl
 | openWindow c =>
  have opens:=openDecision_append (mapError_append decided)
  obtain ⟨authority,actor,reason,rfl⟩:=opens.written
  refine .inr ⟨rfl,fun e expires=>?_⟩
  cases expires
  exact opens.bounded
 | closeWindow c =>
  have closes:=closeDecision_append (mapError_append decided)
  obtain ⟨target,authority,actor,reason,-,-,rfl⟩:=closes.found
  exact .inl rfl

lemma openWindow_writes {c:OpenCall}{head:Control}
 {expected:ℕ}(h:(Call.openWindow c).decide fingerprint windowFingerprint log head current =
  .append replacement expected) :
 replacement.expiresAt=some c.expiresAt ∧ c.expiresAt≤replacement.effectiveAt+maximumQaWindow:=by
 have opens:=openDecision_append (mapError_append h)
 obtain ⟨authority,actor,reason,rfl⟩:=opens.written
 exact ⟨rfl,opens.bounded⟩

lemma again_yields (p:Process):Yields p.again:=by
 intro oc c _ finished
 unfold Process.again at finished
 split at finished <;> cases finished

lemma refused_yields (p:Process):Yields p.refused:=by
 intro oc c opening finished
 unfold Process.refused at finished
 split at finished
 · cases finished
 · exact again_yields p oc c (by rwa[refused_call,←again_call p] at opening) finished

lemma advance_yields (modest:∀c∈log,Modest c)
 (seen:Seen fingerprint windowFingerprint log p)(h:Yields p) :
 Yields (p.advance fingerprint windowFingerprint log).2:=by
 obtain ⟨call,attempt,phase⟩:=p
 cases phase with
 | starting | headRead =>
  simp only[Process.advance]
  split <;> exact fun _ _ _ finished=>by cases finished
 | bothRead head current =>
  obtain ⟨e,e',-,earlier,-,effective⟩:=seen
  simp only[Process.advance]
  split
  · rename_i control decided
    intro oc c opening finished
    cases opening
    cases finished
    obtain ⟨rfl,assisted,expires⟩:=openDecision_returned (mapError_returned decided)
    rcases modest control (earlier.subset (effective_mem effective).1) with shadow|⟨-,bounded⟩
    · rw[shadow] at assisted
      cases assisted
    · exact ⟨_,expires,bounded _ expires⟩
  · exact fun _ _ _ finished=>by cases finished
  · exact again_yields _
  · exact fun _ _ _ finished=>by cases finished
 | deciding replacement expected =>
  obtain ⟨-,-,e'',head,current,-,-,-,-,-,decided⟩:=seen
  simp only[Process.advance]
  split
  · intro oc c opening finished
    cases opening
    cases finished
    exact ⟨_,openWindow_writes decided⟩
  · exact refused_yields _
  · exact fun _ _ _ finished=>by cases finished
 | lost =>
  simp only[Process.advance]
  split
  · exact fun _ _ _ finished=>by cases finished
  · split
    · obtain ⟨at',reasonCodes,stopping⟩:=seen
      intro oc c opening _
      cases stopping
      cases opening
    · exact again_yields _
 | finished result=>exact h

lemma bootstrap_cases {log':Log}{b:BootstrapCall}
 (h:bootstrapPolicyControl bootstrapFingerprint log b=.ok log') :
 ∃row,log=[] ∧ log'=[row] ∧ (bootstrapControl bootstrapFingerprint b).valid=true ∧
  (bootstrapControl bootstrapFingerprint b).stored=some row:=by
 unfold bootstrapPolicyControl at h
 split at h
 · cases h
 · split at h
   · cases h
   · split at h
     · cases h
     · rename_i absent
       split at h
       · cases h
       · rename_i valid
         split at h
         · rename_i log' appended
           cases h
           have empty:log=[]:=by
            simpa[getLatestControl,highest,List.argmax_eq_none] using absent
           subst empty
           obtain ⟨row,stored,rfl,-⟩:=appendControl_some appended
           exact ⟨row,rfl,rfl,by simpa using valid,stored⟩
         · cases h

variable (bootstrapFingerprint)

lemma step_log {s:System}(h:Sound fingerprint windowFingerprint s)(i:Step) :
 let s':=step fingerprint windowFingerprint bootstrapFingerprint s i
 s'.log=s.log ∨
  (∃b row,s.log=[] ∧ s'.log=[row] ∧ (bootstrapControl bootstrapFingerprint b).valid=true ∧
   (bootstrapControl bootstrapFingerprint b).stored=some row) ∨
  ∃p replacement row,p∈s.processes ∧ s'.log=s.log++[row] ∧
   Writes fingerprint windowFingerprint p.call s.log replacement row:=by
 cases i with
 | bootstrap b =>
  simp only[step]
  split
  · rename_i log' written
    obtain ⟨row,empty,rfl,rest⟩:=bootstrap_cases written
    exact .inr (.inl ⟨b,row,empty,rfl,rest⟩)
  · exact .inl rfl
 | start call=>exact .inl rfl
 | advance i =>
  simp only[step]
  split
  · exact .inl rfl
  · rename_i p found
    have mem:=List.mem_of_getElem? found
    rcases (advance_cases h.written (h.seen p mem)).2.2 with same|⟨replacement,row,log',writes⟩
    · exact .inl same
    · exact .inr (.inr ⟨p,replacement,row,mem,log',writes⟩)
 | crash i =>
  simp only[step]
  split <;> exact .inl rfl

lemma log_grows {s:System}(h:Sound fingerprint windowFingerprint s)(i:Step) :
 s.log <+: (step fingerprint windowFingerprint bootstrapFingerprint s i).log:=by
 rcases step_log bootstrapFingerprint h i with
  same | ⟨_,row,empty,log',-⟩ | ⟨_,_,row,-,log',-⟩
 · rw[same]
 · rw[empty]
   exact List.nil_prefix
 · rw[log']
   exact List.prefix_append _ _

lemma step_sound {s:System}(h:Sound fingerprint windowFingerprint s)(i:Step) :
 Sound fingerprint windowFingerprint
  (step fingerprint windowFingerprint bootstrapFingerprint s i):=by
 have grows:=log_grows bootstrapFingerprint h i
 have logged:Written (step fingerprint windowFingerprint bootstrapFingerprint s i).log ∧
   ∀c∈(step fingerprint windowFingerprint bootstrapFingerprint s i).log,Modest c:=by
  rcases step_log bootstrapFingerprint h i with
   same | ⟨b,row,empty,log',valid,stored⟩ | ⟨p,replacement,row,-,log',writes⟩
  · rw[same]
    exact ⟨h.written,h.modest⟩
  · rw[log']
    refine ⟨?_,fun c mem=>?_⟩
    · exact written_nil.append valid stored (by simp)
    · rw[List.mem_singleton.mp mem]
      exact Modest.row (.inr ⟨rfl,fun e expires=>by cases expires⟩) stored
  · rw[log']
    refine ⟨h.written.append writes.valid writes.stored writes.above,fun c mem=>?_⟩
    rcases List.mem_append.mp mem with old|new
    · exact h.modest c old
    · rw[List.mem_singleton.mp new]
      exact (writes_modest h.modest writes).row writes.stored
 refine ⟨logged.1,logged.2,fun q mem=>?_,fun q mem=>?_⟩
 · cases i with
   | bootstrap b =>
    have kept:q∈s.processes:=by
     simp only[step] at mem
     split at mem <;> exact mem
    exact (h.seen q kept).grow grows
   | start call =>
    rcases List.mem_append.mp mem with old|new
    · exact (h.seen q old).grow grows
    · rw[List.mem_singleton.mp new]
      trivial
   | advance i =>
    cases found:s.processes[i]? with
    | none =>
     simp only[step,found] at mem ⊢
     exact h.seen q mem
    | some p =>
     simp only[step,found] at mem grows ⊢
     have known:=List.mem_of_getElem? found
     rcases List.mem_or_eq_of_mem_set mem with old|rfl
     · exact (h.seen q old).grow grows
     · exact (advance_cases h.written (h.seen p known)).2.1
   | crash i =>
    cases found:s.processes[i]? with
    | none =>
     simp only[step,found] at mem ⊢
     exact h.seen q mem
    | some p =>
     simp only[step,found] at mem ⊢
     rcases List.mem_or_eq_of_mem_set mem with old|rfl
     · exact h.seen q old
     · trivial
 · cases i with
   | bootstrap b =>
    have kept:q∈s.processes:=by
     simp only[step] at mem
     split at mem <;> exact mem
    exact h.yields q kept
   | start call =>
    rcases List.mem_append.mp mem with old|new
    · exact h.yields q old
    · rw[List.mem_singleton.mp new]
      exact fun _ _ _ finished=>by cases finished
   | advance i =>
    simp only[step] at mem
    split at mem
    · exact h.yields q mem
    · rename_i p found
      have known:=List.mem_of_getElem? found
      rcases List.mem_or_eq_of_mem_set mem with old|rfl
      · exact h.yields q old
      · exact advance_yields h.modest (h.seen p known) (h.yields p known)
   | crash i =>
    simp only[step] at mem
    split at mem
    · exact h.yields q mem
    · rcases List.mem_or_eq_of_mem_set mem with old|rfl
      · exact h.yields q old
      · exact fun _ _ _ finished=>by cases finished

lemma after_sound (steps:List Step):Sound fingerprint windowFingerprint
 (after fingerprint windowFingerprint bootstrapFingerprint steps):=
 Runs.invariant (Sound fingerprint windowFingerprint)
  (fun _ i h=>step_sound bootstrapFingerprint h i) steps
  ⟨written_nil,by simp,by simp,by simp⟩

def HardStop (c:Control):Prop:=isExactCriticalStop c=true ∧ c.createdByActorRef=safetyControllerRef

/-- A stop of the log that is not recoverable, with nothing but stops above it. -/
structure Final (stop:Control)(log:Log):Prop where
 mem:stop∈log
 unrecoverable:stop.reasonCodes∉recoverableStopReasonSets
 hard:∀row∈log,stop.controlRevision≤row.controlRevision→HardStop row

lemma HardStop.facts (h:HardStop c) :
 c.autonomyMode=.shadow ∧ c.killSwitch=true ∧ c.expiresAt=none:=by
 have stop:=h.1
 simp only[isExactCriticalStop,Bool.and_eq_true,beq_iff_eq,Option.isNone_iff_eq_none] at stop
 exact ⟨stop.1.1.1.1,stop.1.1.2,stop.2⟩

lemma HardStop.row {row:Control}(h:HardStop c)(stored:c.stored=some row) :
 HardStop row:=by
 rw[(stored_fields stored).1]
 exact h

lemma saferControl_hard (current head:Control)(at':ℤ)(reasonCodes:List String) :
 HardStop (saferControl fingerprint current head at' .shadow true true reasonCodes):=⟨rfl,rfl⟩

lemma Final.head {head:Control}(h:Final stop log)
 (latest:getLatestControl log=some head):HardStop head:=
 h.hard head (highest_mem latest) (latest_le latest h.mem)

lemma current_head {at':ℤ}{head:Control}(written:Written log)
 (latest:getLatestControl log=some head)
 (effective:getEffectiveControl log at'=some current)
 (same:current.controlRevision=head.controlRevision):current=head:=
 written.eq_of_revision (effective_mem effective).1 (highest_mem latest) same

lemma Final.unrecovered {head:Control}(written:Written log)
 (h:Final stop log)(latest:getLatestControl log=some head)(authority:QaAuthority) :
 recoverableQaStop head (getPreviousControl log head.controlRevision) authority=false:=by
 rw[←Bool.not_eq_true]
 intro recoverable
 simp only[recoverableQaStop,Bool.and_eq_true] at recoverable
 obtain ⟨⟨⟨-,reasons⟩,-⟩,below⟩:=recoverable
 by_cases same:head=stop
 · subst same
   exact h.unrecoverable (by simpa using reasons)
 · have less:stop.controlRevision<head.controlRevision:=by
    have le:=latest_le latest h.mem
    have other:stop.controlRevision≠head.controlRevision:=fun eq=>
     same (written.eq_of_revision h.mem (highest_mem latest) eq).symm
    omega
   cases found:getPreviousControl log head.controlRevision with
   | none=>simp[found] at below
   | some previous =>
    have held:previous∈log:=(List.mem_filter.mp (highest_mem found)).1
    have above:stop.controlRevision≤previous.controlRevision:=
     highest_le found (List.mem_filter.mpr ⟨h.mem,by simpa using less⟩)
    have killed:=(h.hard previous held above).facts.2.1
    simp[found,sameClosedWindow,killed] at below

lemma writes_final {row:Control} (written:Written log)(h:Final stop log)
 (writes:Writes fingerprint windowFingerprint call log replacement row):HardStop row:=by
 obtain ⟨head,current,latest,effective,decided⟩:=writes.decided
 have top:=h.head latest
 have facts:=top.facts
 cases call with
 | downgrade at' reasonCodes =>
  obtain ⟨-,-,-,lower,-,headed⟩:=downgradeDecision_append (mapError_append decided)
  have same:current.controlRevision=head.controlRevision:=by
   by_contra other
   exact headed ⟨other,by simp[expiredBy,facts.2.2]⟩
  rw[current_head written latest effective same,facts.1] at lower
  exact absurd rfl lower
 | criticalStop at' reasonCodes =>
  obtain ⟨rfl,-,-⟩:=criticalStopDecision_append (mapError_append decided)
  exact (saferControl_hard ..).row writes.stored
 | openWindow c =>
  have opens:=openDecision_append (mapError_append decided)
  have same:current.controlRevision=head.controlRevision:=by
   by_contra other
   have assisted:=opens.headed other
   rw[facts.1] at assisted
   cases assisted
  have unstopped:=opens.unstopped
  rw[current_head written latest effective same] at unstopped
  exact absurd ⟨facts.2.1,top.2⟩ unstopped
 | closeWindow c =>
  have closes:=closeDecision_append (mapError_append decided)
  obtain ⟨target,authority,actor,reason,found,allowed,-⟩:=closes.found
  have same:target=head:=by
   rcases closeTarget_ok found with ⟨same,-⟩|⟨rfl,same⟩
   · exact same
   · exact current_head written latest effective same
  subst same
  rcases allowed with assisted|recoverable
  · rw[facts.1] at assisted
    cases assisted
  · rw[h.unrecovered written latest authority] at recoverable
    cases recoverable

lemma step_final {s:System}(sound:Sound fingerprint windowFingerprint s)
 (h:Final stop s.log)(i:Step) :
 Final stop (step fingerprint windowFingerprint bootstrapFingerprint s i).log:=by
 rcases step_log bootstrapFingerprint sound i with
  same | ⟨b,row,empty,-⟩ | ⟨p,replacement,row,-,log',writes⟩
 · rw[same]
   exact h
 · have mem:=h.mem
   rw[empty] at mem
   cases mem
 · have hard:=writes_final sound.written h writes
   rw[log']
   refine ⟨List.mem_append_left _ h.mem,h.unrecoverable,fun c mem above=>?_⟩
   rcases List.mem_append.mp mem with old|new
   · exact h.hard c old above
   · exact List.mem_singleton.mp new ▸ hard

lemma run_final {s:System}(sound:Sound fingerprint windowFingerprint s)
 (h:Final stop s.log)(steps:List Step) :
 Final stop (steps.foldl (step fingerprint windowFingerprint bootstrapFingerprint) s).log:=
 (Runs.invariant
  (fun s=>Sound fingerprint windowFingerprint s ∧ Final stop s.log)
  (fun _ i held=>⟨step_sound bootstrapFingerprint held.1 i,
   step_final bootstrapFingerprint held.1 held.2 i⟩) steps ⟨sound,h⟩).2

lemma Final.killed {t:ℤ}(h:Final stop log)
 (since:stop.effectiveAt≤t)(effective:getEffectiveControl log t=some c) :
 c.killSwitch=true:=by
 have lasting:=(h.hard stop h.mem (Nat.le_refl _)).facts.2.2
 have force:stop.inForce t=true:=by simp[Control.inForce,lasting,since]
 exact (h.hard c (effective_mem effective).1 (effective_le effective h.mem force)).facts.2.1

lemma stop_final {s:System}(sound:Sound fingerprint windowFingerprint s){i:ℕ}(found:s.processes[i]?=some p){at':ℤ}{reasonCodes:List String}
 (stopping:p.call=.criticalStop at' reasonCodes)
 (wrote:(step fingerprint windowFingerprint bootstrapFingerprint s (.advance i)).log =
  s.log++[stop])
 (unrecoverable:stop.reasonCodes∉recoverableStopReasonSets) :
 Final stop (s.log++[stop]):=by
 have grown:=(step_sound bootstrapFingerprint sound (.advance i)).written
 rw[wrote] at grown
 have own:=advance_cases sound.written (sound.seen p (List.mem_of_getElem? found))
 simp only[step,found] at wrote
 rcases own.2.2 with same|⟨replacement,row,log',writes⟩
 · rw[same] at wrote
   simp at wrote
 · rw[log'] at wrote
   cases List.singleton_inj.mp (List.append_cancel_left wrote)
   obtain ⟨head,current,-,-,decided⟩:=writes.decided
   rw[stopping] at decided
   obtain ⟨rfl,-,-⟩:=criticalStopDecision_append (mapError_append decided)
   have hard:=(saferControl_hard current head at' reasonCodes).row writes.stored
   refine ⟨by simp,unrecoverable,fun c mem above=>?_⟩
   rcases List.mem_append.mp mem with old|new
   · have less:=(List.pairwise_append.mp grown.rising).2.2 c old stop (by simp)
     omega
   · exact List.mem_singleton.mp new ▸ hard

/-- In every interleaving of the controllers: once a critical stop has written a
stop that is not recoverable, whatever is in force from its time on is stopped;
`open` yields windows of half an hour at most; and no autonomous control is
ever written. -/
theorem controllers_never_reopen (steps:List Step) :
 (∀before i rest,steps=before++.advance i::rest→∀p at' reasonCodes stop,
  (after fingerprint windowFingerprint bootstrapFingerprint before).processes[i]?=some p →
  p.call=.criticalStop at' reasonCodes →
  (after fingerprint windowFingerprint bootstrapFingerprint (before++[.advance i])).log =
   (after fingerprint windowFingerprint bootstrapFingerprint before).log++[stop] →
  stop.reasonCodes∉recoverableStopReasonSets→∀t,stop.effectiveAt≤t→∀c,
  getEffectiveControl (after fingerprint windowFingerprint bootstrapFingerprint steps).log t =
   some c→c.killSwitch=true) ∧
 (∀p∈(after fingerprint windowFingerprint bootstrapFingerprint steps).processes,∀oc c,
  p.call=.openWindow oc→p.phase=.finished (.ok c) →
  ∃e,c.expiresAt=some e ∧ e≤c.effectiveAt+maximumQaWindow) ∧
 ∀c∈(after fingerprint windowFingerprint bootstrapFingerprint steps).log,
  c.autonomyMode≠.autonomousCapped ∧ c.autonomyMode≠.adaptiveVolume:=by
 have sound:Sound fingerprint windowFingerprint
   (after fingerprint windowFingerprint bootstrapFingerprint steps):=
  after_sound bootstrapFingerprint steps
 refine ⟨?_,fun p mem oc c opening finished=>sound.yields p mem oc c opening finished,?_⟩
 · rintro before i rest rfl p at' reasonCodes stop found stopping wrote unrecoverable t since c effective
   have reached:Sound fingerprint windowFingerprint
     (after fingerprint windowFingerprint bootstrapFingerprint before):=
    after_sound bootstrapFingerprint before
   have stepped:after fingerprint windowFingerprint bootstrapFingerprint (before++[.advance i]) =
     step fingerprint windowFingerprint bootstrapFingerprint
      (after fingerprint windowFingerprint bootstrapFingerprint before) (.advance i):=by
    simp[after]
   rw[stepped] at wrote
   have final:=stop_final bootstrapFingerprint reached found stopping wrote unrecoverable
   rw[←wrote] at final
   have ends:=run_final bootstrapFingerprint
    (step_sound bootstrapFingerprint reached (.advance i)) final rest
   rw[←stepped,after,←List.foldl_append] at ends
   refine ends.killed since ?_
   simpa[after] using effective
 · intro c mem
   rcases sound.modest c mem with shadow|⟨assisted,-⟩
   · simp[shadow]
   · simp[assisted]

def firstCall:BootstrapCall:=⟨0,"operator","FIRST_AUTHORITY",10,"CH","fr","construction"⟩

def sampleBootstrap:BootstrapCall→String:=fun _=>
 "d6b482a40d9c24fa0f1ad137917b40c8ee46a863b23665d40bc9a9caafcbcbd3"

def sampleStop:SafetyPayload→String:=fun _=>
 "9fd3b71cfd9af3d6df6cc005d2e5609351f9fabdd1852b10b056eb236218fb16"

def sampleWindow:WindowPayload→String:=fun _=>""

def stopping:List Step:=
 [.bootstrap firstCall,.start (.criticalStop (5*hour) ["POST_STOP_SEND"]),.advance 0,
  .advance 0,.advance 0]

def stopped:List Step:=stopping++.advance 0 ::
  [.start (.closeWindow ⟨6*hour,"operator","DONE",⟨.staging,
   some ⟨.fixed,["opp_1"],none,none⟩,⟨"CH","fr","construction",none,none⟩,10⟩,
   some .staging⟩),.advance 1,.advance 1,.advance 1]

def sampleAfter (steps:List Step):System:=after sampleStop sampleWindow sampleBootstrap steps

def stopRow:Control:=saferControl sampleStop (bootstrapControl sampleBootstrap firstCall)
  (bootstrapControl sampleBootstrap firstCall) (5*hour) .shadow true true ["POST_STOP_SEND"]

lemma stopped_run : getEffectiveControl (sampleAfter stopped).log (6*hour)=some stopRow ∧
  ((sampleAfter stopping).processes[0]?).map Process.call =
   some (.criticalStop (5*hour) ["POST_STOP_SEND"]) ∧
  (sampleAfter (stopping++[.advance 0])).log=(sampleAfter stopping).log++[stopRow]:=by
 decide +kernel

theorem controllers_never_reopen_sample :
 getEffectiveControl (sampleAfter stopped).log (6*hour)=some stopRow ∧ stopRow.killSwitch=true:=by
 obtain ⟨inForce,call,wrote⟩:=stopped_run
 refine ⟨inForce,?_⟩
 obtain ⟨p,found,called⟩:=Option.map_eq_some_iff.mp call
 exact (controllers_never_reopen sampleBootstrap stopped).1 stopping 0 _ rfl p _ _ stopRow found
  called wrote (by decide) (6*hour) (by decide) stopRow inForce

end Kivou.PolicyInterleavings
