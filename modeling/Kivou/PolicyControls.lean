import Kivou.AwardDomain
import Kivou.Decimals
import Kivou.Runs
import Mathlib.Data.List.MinMax

set_option autoImplicit false

/-! The authority of the acquisition is an append-only log of controls. Instants are in
microseconds. -/
namespace Kivou.PolicyControls
open PythonValues Decimals

inductive AutonomyMode where
 | shadow | assisted | autonomousCapped | adaptiveVolume
 deriving DecidableEq

inductive ActorType where
 | system | human
 deriving DecidableEq

/-- The data of a `PolicyControlSnapshot`. -/
structure Control where
 policySnapshotId:String
 controlRevision:ℕ
 policyVersion:String
 autonomyMode:AutonomyMode
 shadowTargetMode:Option AutonomyMode
 (readOnly killSwitch:Bool)
 qaSignalRef:Option String
 (allowedCommands allowedCountries allowedLanguages allowedWedges:List String)
 currency:String
 dailyCostCap:ℚ
 dailyVolumeCap:ℕ
 effectiveAt:ℤ
 expiresAt:Option ℤ
 snapshotFingerprint:String
 createdAt:ℤ
 createdByActorType:ActorType
 createdByActorRef:String
 reasonCodes:List String
 deriving DecidableEq

/-- A text that is trimmed, not empty, and of `n` characters at most. -/
def boundedText (n:ℕ)(text:String):Bool:=AwardDomain.isFilled text&&text.length≤n

def isHex (c:Char):Bool:=(48≤c.toNat&&c.toNat≤57)||(97≤c.toNat&&c.toNat≤102)

def isFingerprint (text:String):Bool:=text.toList.length==64&&text.toList.all isHex

/-- `^[a-z][a-z0-9_]{0,63}$`. -/
def isCommandName (text:String):Bool:=
 match text.toList with
 | []=>false
 | c::rest =>
  let lower:=fun (c:Char)=>97≤c.toNat&&c.toNat≤122
  lower c&&rest.length≤63 &&rest.all (fun c=>lower c||(48≤c.toNat&&c.toNat≤57)||c == '_')

/-- A mode other than `SHADOW` names no target; `SHADOW` names one that is not itself. -/
def shadowCoherent (mode:AutonomyMode)(target:Option AutonomyMode):Bool:=
 if mode=.shadow then target.isSome&&target != some .shadow else target.isNone

def Control.valid (c:Control):Bool:=
 boundedText 128 c.policySnapshotId&&1≤c.controlRevision&&boundedText 100 c.policyVersion &&
  c.qaSignalRef.all (boundedText 256) &&
  (c.allowedCommands.length≤32&&c.allowedCommands.all isCommandName) &&
  (c.allowedCountries.length≤64&&c.allowedCountries.all (boundedText 100)) &&
  (c.allowedLanguages.length≤64&&c.allowedLanguages.all (boundedText 100)) &&
  (c.allowedWedges.length≤64&&c.allowedWedges.all (boundedText 100)) &&
  AwardDomain.isCurrencyCode c.currency&&0≤c.dailyCostCap &&
  isFingerprint c.snapshotFingerprint&&boundedText 256 c.createdByActorRef &&
  (c.reasonCodes.length≤32&&c.reasonCodes.all (boundedText 100)) &&
  c.expiresAt.all (fun expires=>c.effectiveAt<expires) &&
  shadowCoherent c.autonomyMode c.shadowTargetMode

/-- What the row of a control keeps; `none` when a column refuses it. -/
def Control.stored (c:Control):Option Control:=
 if c.policySnapshotId.length≤64&&c.policyVersion.length≤64 then
  (numeric 18 6 c.dailyCostCap).map (fun cap=>{c with dailyCostCap:=cap})
 else none

abbrev Log:=List Control

def highest (log:Log):Option Control:=log.argmax Control.controlRevision

def getLatestControl (log:Log):Option Control:=highest log

def getPreviousControl (log:Log)(revision:ℕ):Option Control:=
 highest (log.filter (fun c=>c.controlRevision<revision))

def Control.inForce (at':ℤ)(c:Control):Bool:=
 c.effectiveAt≤at'&&c.expiresAt.all (fun expires=>at'<expires)

def getEffectiveControl (log:Log)(at':ℤ):Option Control:=highest (log.filter (Control.inForce at'))

def maximum (log:Log):Option ℕ:=(highest log).map Control.controlRevision

def taken (log:Log)(c:Control):Bool:=log.any (fun row=>row.policySnapshotId==c.policySnapshotId ||
  row.controlRevision==c.controlRevision||row.snapshotFingerprint==c.snapshotFingerprint)

/-- `append_control`: the log it leaves, `none` when it raises. -/
def appendControl (log:Log)(c:Control):Option Log:=
 if (maximum log).any (fun m=>c.controlRevision ≤ m) then none
 else if taken log c then none
 else c.stored.map (fun row=>log++[row])

inductive Appended where
 | written (log:Log)
 | refused
 | raised

/-- `append_control_if_latest`. -/
def appendControlIfLatest (log:Log)(c:Control)(expected:Option ℕ):Appended:=
 let nextRevision:=((maximum log).map (· + 1)).getD 1
 if maximum log≠expected ∨ c.controlRevision≠nextRevision then .refused
 else if taken log c then .refused
 else
  match c.stored with
  | some row=>.written (log++[row])
  | none=>.raised

/-- A log that only appends have written: revisions rise, and every row is what
the columns keep of a valid control. -/
structure Written (log:Log):Prop where
 rising:log.Pairwise (fun a b=>a.controlRevision<b.controlRevision)
 valid:∀c∈log,c.valid=true
 kept:∀c∈log,c.stored=some c

lemma written_nil:Written []:=⟨.nil,by simp,by simp⟩

lemma stored_fields {c row:Control}(h:c.stored=some row) :
 row={c with dailyCostCap:=row.dailyCostCap} ∧ numeric 18 6 c.dailyCostCap=some row.dailyCostCap:=by
 unfold Control.stored at h
 split at h
 · obtain ⟨cap,kept,rfl⟩:=Option.map_eq_some_iff.mp h
   exact ⟨rfl,kept⟩
 · cases h

lemma numeric_idem {p s:ℕ}{q r:ℚ}(h:numeric p s q=some r):numeric p s r=some r:=by
 unfold numeric at h ⊢
 split at h
 · rename_i fits
   cases h
   rw[roundTo_eq_self (onScale_roundTo s q),if_pos fits]
 · cases h

lemma stored_valid {c row:Control}(h:c.stored=some row)(valid:c.valid=true) : row.valid=true:=by
 obtain ⟨same,kept⟩:=stored_fields h
 have cap:0≤row.dailyCostCap:=by
  unfold numeric at kept
  split at kept
  · rw[←Option.some.inj kept]
    simp only[Control.valid,Bool.and_eq_true,decide_eq_true_eq] at valid
    exact roundTo_nonneg valid.1.1.1.1.1.2
  · cases kept
 rw[same]
 simp only[Control.valid,Bool.and_eq_true,decide_eq_true_eq] at valid ⊢
 exact ⟨⟨⟨⟨⟨⟨valid.1.1.1.1.1.1,cap⟩,valid.1.1.1.1.2⟩,valid.1.1.1.2⟩,valid.1.1.2⟩,valid.1.2⟩,valid.2⟩

lemma stored_stored {c row:Control}(h:c.stored=some row):row.stored=some row:=by
 obtain ⟨same,kept⟩:=stored_fields h
 unfold Control.stored at h ⊢
 split at h
 · rename_i fits
   rw[same]
   simp only at fits ⊢
   rw[if_pos fits,numeric_idem kept]
   rfl
 · cases h

section
variable {log:Log}{c row:Control}

lemma highest_mem (h:highest log=some c):c∈log:=List.argmax_mem h

lemma highest_le (h:highest log=some c)(mem:row∈log) :
 row.controlRevision≤c.controlRevision:=List.le_of_mem_argmax mem h

lemma highest_isSome (mem:row∈log):∃top,highest log=some top:=by
 cases found:highest log with
 | some top=>exact ⟨top,rfl⟩
 | none =>
  rw[highest,List.argmax_eq_none] at found
  rw[found] at mem
  cases mem

lemma Written.eq_of_revision (h:Written log)(hc:c∈log)(hr:row∈log)
 (same:c.controlRevision=row.controlRevision):c=row:=by
 have distinct:(log.map Control.controlRevision).Nodup:=by
  rw[List.Nodup,List.pairwise_map]
  exact h.rising.imp fun less=>Nat.ne_of_lt less
 exact List.inj_on_of_nodup_map distinct hc hr same

lemma highest_of_le (mem:c∈log)(le:∀row∈log,row.controlRevision≤c.controlRevision)
 (single:∀row∈log,row.controlRevision=c.controlRevision → row=c) :
 highest log=some c:=by
 obtain ⟨top,found⟩:=highest_isSome mem
 have same:top.controlRevision=c.controlRevision:=
  Nat.le_antisymm (le top (highest_mem found)) (highest_le found mem)
 rw[found,single top (highest_mem found) same]

lemma effective_mem {at':ℤ}(h:getEffectiveControl log at'=some c) : c∈log ∧ c.inForce at'=true:=by
 simpa using highest_mem h

lemma effective_le {at':ℤ}(h:getEffectiveControl log at'=some c)(mem:row∈log)
 (force:row.inForce at'=true):row.controlRevision≤c.controlRevision:=
 highest_le h (List.mem_filter.mpr ⟨mem,force⟩)

lemma Written.effective_of_le (h:Written log){at':ℤ}(mem:c∈log) (force:c.inForce at'=true)
 (le:∀row∈log,row.inForce at'=true → row.controlRevision≤c.controlRevision) :
 getEffectiveControl log at'=some c:=by
 refine highest_of_le (List.mem_filter.mpr ⟨mem,force⟩) (fun row hr=>?_) fun row hr same=>?_
 · rw[List.mem_filter] at hr
   exact le row hr.1 hr.2
 · rw[List.mem_filter] at hr
   exact h.eq_of_revision hr.1 mem same

lemma latest_le (h:getLatestControl log=some c)(mem:row∈log) :
 row.controlRevision≤c.controlRevision:=highest_le h mem

lemma Written.append (h:Written log)(valid:c.valid=true)(stored:c.stored=some row)
 (above:∀old∈log,old.controlRevision<c.controlRevision):Written (log++[row]):=by
 have revision:row.controlRevision=c.controlRevision:=by
  rw[(stored_fields stored).1]
 refine ⟨List.pairwise_append.mpr ⟨h.rising,List.pairwise_singleton ..,?_⟩,?_,?_⟩
 · intro old mem new eq
   cases List.mem_singleton.mp eq
   exact revision ▸ above old mem
 · intro x mem
   rcases List.mem_append.mp mem with old|new
   · exact h.valid x old
   · exact List.mem_singleton.mp new ▸ stored_valid stored valid
 · intro x mem
   rcases List.mem_append.mp mem with old|new
   · exact h.kept x old
   · exact List.mem_singleton.mp new ▸ stored_stored stored

lemma below_maximum {m:ℕ}(h:maximum log=some m)(mem:row∈log) : row.controlRevision ≤ m:=by
 obtain ⟨top,found,rfl⟩:=Option.map_eq_some_iff.mp h
 exact highest_le found mem

lemma maximum_none (h:maximum log=none):log=[]:=by
 rw[maximum,Option.map_eq_none_iff] at h
 exact List.argmax_eq_none.mp h

lemma appendControlIfLatest_written {expected:Option ℕ}{log':Log}
 (h:appendControlIfLatest log c expected=.written log') :
 ∃row,c.stored=some row ∧ log'=log++[row] ∧ maximum log=expected ∧
  c.controlRevision=(expected.map (· + 1)).getD 1 ∧
  ∀old∈log,old.controlRevision<c.controlRevision:=by
 unfold appendControlIfLatest at h
 simp only at h
 split at h
 · cases h
 · rename_i seen
   simp only[not_or,not_not] at seen
   split at h
   · cases h
   · split at h
     · rename_i row stored
       cases h
       refine ⟨row,stored,rfl,seen.1,by rw[←seen.1];exact seen.2,fun old mem=>?_⟩
       cases top:maximum log with
       | none=>simp[maximum_none top] at mem
       | some m =>
        have le:=below_maximum top mem
        have next:c.controlRevision=m+1:=by simpa[top] using seen.2
        omega
     · cases h

lemma appendControl_some {log':Log}(h:appendControl log c=some log') :
 ∃row,c.stored=some row ∧ log'=log++[row] ∧ ∀old∈log,old.controlRevision<c.controlRevision:=by
 unfold appendControl at h
 split at h
 · cases h
 · rename_i above
   split at h
   · cases h
   · obtain ⟨row,stored,rfl⟩:=Option.map_eq_some_iff.mp h
     refine ⟨row,stored,rfl,fun old mem=>?_⟩
     cases top:maximum log with
     | none=>simp[maximum_none top] at mem
     | some m =>
      have le:=below_maximum top mem
      have less:m<c.controlRevision:=by simpa[top] using above
      omega

end

lemma Written.effective_append {log:Log}{row:Control}(h:Written (log++[row])){at':ℤ}
 (force:row.inForce at'=true):getEffectiveControl (log++[row]) at'=some row:=by
 refine h.effective_of_le (by simp) force fun old mem _=>?_
 rcases List.mem_append.mp mem with before|last
 · have less:=(List.pairwise_append.mp h.rising).2.2 old before row (by simp)
   omega
 · rw[List.mem_singleton.mp last]

end Kivou.PolicyControls
