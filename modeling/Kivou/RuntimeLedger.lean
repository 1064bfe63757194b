import Kivou.RuntimeRows
import Kivou.Tables
import Mathlib.Tactic.Linarith

set_option autoImplicit false

/-! Each attempt of a stage has one row, which charges the larger of what it reserved and what it
observed. -/
namespace Kivou.AcquisitionRuntime
open PythonValues Tables

/-- `uq_acquisition_runtime_stage_attempt`. -/
def AttemptRow.key (a:AttemptRow):Stage × ℕ:=(a.stage,a.attemptCount)

section Attempts
variable {c c':Cycle}{stage:Stage}{n:ℕ}{a:AttemptRow}{f:AttemptRow→AttemptRow}

lemma AttemptRow.is_eq (stage:Stage)(n:ℕ) : AttemptRow.is stage n=fun a=>a.key==(stage,n):=rfl

lemma Cycle.attempt?_eq:c.attempt? stage n=c.attempts.find? fun a=>a.key==(stage,n):=rfl

lemma Cycle.updateAttempt_attempts :
 (c.updateAttempt stage n f).attempts=update (fun a=>a.key==(stage,n)) f c.attempts:=rfl

lemma Cycle.attempt?_some (h:c.attempt? stage n=some a) :
 a∈c.attempts ∧ a.stage=stage ∧ a.attemptCount=n:=by
 rw[Cycle.attempt?_eq] at h
 obtain ⟨mem,key⟩:=find?_key h
 exact ⟨mem,(Prod.mk.inj key).1,(Prod.mk.inj key).2⟩

lemma Cycle.attempt?_update (kept:∀a,(f a).key=a.key) :
 (c.updateAttempt stage n f).attempt? stage n=(c.attempt? stage n).map f:=by
 rw[Cycle.attempt?_eq,Cycle.updateAttempt_attempts,find?_update kept,if_pos rfl]
 rfl

lemma Cycle.attempt?_missing (h:c.attempt? stage n=none) : ∀r∈c.attempts,r.key≠(stage,n):=by
 simpa[Cycle.attempt?_eq,List.find?_eq_none] using h

lemma spentCost_kept (charge:∀a,(f a).charge=a.charge) :
 (c.updateAttempt stage n f).spentCost=c.spentCost:=by
 rw[Cycle.spentCost,Cycle.spentCost,Cycle.updateAttempt_attempts,update,List.map_map]
 congr 1
 refine List.map_congr_left fun r _=>?_
 simp only[Function.comp_apply]
 split
 · exact charge r
 · rfl

lemma spentCost_updated (unique:(c.attempts.map AttemptRow.key).Nodup)
 (found:c.attempt? stage n=some a) :
 (c.updateAttempt stage n f).spentCost=c.spentCost-a.charge+(f a).charge:=by
 obtain ⟨mem,rfl,rfl⟩:=Cycle.attempt?_some found
 exact sum_update AttemptRow.charge unique mem

lemma spentCost_append (attempts:List AttemptRow)(a:AttemptRow)(row:CycleRow)
 (stages:Stage→StageRow) :
 (Cycle.mk row stages (attempts++[a])).spentCost =
  (Cycle.mk row stages attempts).spentCost+a.charge:=by
 simp[Cycle.spentCost]

lemma Cycle.spentCost_congr (attempts:c'.attempts=c.attempts):c'.spentCost=c.spentCost:=by
 rw[Cycle.spentCost,attempts,Cycle.spentCost]

lemma Stage.cost_nonneg (stage:Stage):0 ≤ stage.cost:=by
 cases stage <;> norm_num [Stage.cost]

lemma AttemptRow.charge_of_le (h:a.observedCost≤a.reservedCost):a.charge=a.reservedCost:=
 max_eq_left h

def AttemptRow.Reserved (a:AttemptRow):Prop:=
 a.reservedCost=a.stage.cost ∨ a.reservedCost=0 ∧ a.observedCost=0 ∧ a.proposal=none

/-- One row for an attempt, none of an attempt to come; a bound proposal costs
what its attempt has reserved. -/
structure Ledger (attempts:List AttemptRow)(counts:Stage→ℕ):Prop where
 unique:(attempts.map AttemptRow.key).Nodup
 counted:∀a∈attempts,a.attemptCount≤counts a.stage
 reserved:∀a∈attempts,a.Reserved
 observed:∀a∈attempts,0≤a.observedCost
 proposed:∀a∈attempts,∀q∈a.proposal,q.estimatedCost=a.reservedCost

variable {attempts:List AttemptRow}{counts counts':Stage→ℕ}

lemma Ledger.nil:Ledger [] counts where
 unique:=List.nodup_nil
 counted _ mem:=absurd mem List.not_mem_nil
 reserved _ mem:=absurd mem List.not_mem_nil
 observed _ mem:=absurd mem List.not_mem_nil
 proposed _ mem:=absurd mem List.not_mem_nil

lemma Ledger.mono (ledger:Ledger attempts counts)(grow:∀stage,counts stage≤counts' stage) :
 Ledger attempts counts':=
 ⟨ledger.unique,fun a mem=>(ledger.counted a mem).trans (grow a.stage),ledger.reserved,
  ledger.observed,ledger.proposed⟩

lemma Ledger.nonneg (ledger:Ledger attempts counts)(mem:a∈attempts):0≤a.reservedCost:=by
 rcases ledger.reserved a mem with cost|⟨none,-⟩
 · rw[cost]
   exact a.stage.cost_nonneg
 · exact none.ge

lemma Ledger.update (ledger:Ledger attempts counts)(kept:∀a,(f a).key=a.key)
 (row:∀a∈attempts,a.key=(stage,n)→(f a).Reserved ∧ 0≤(f a).observedCost ∧
  ∀q∈(f a).proposal,q.estimatedCost=(f a).reservedCost) :
 Ledger (Tables.update (fun a=>a.key==(stage,n)) f attempts) counts:=by
 have rows:∀a∈Tables.update (fun a=>a.key==(stage,n)) f attempts,
   a.attemptCount≤counts a.stage ∧ a.Reserved ∧ 0≤a.observedCost ∧
    ∀q∈a.proposal,q.estimatedCost=a.reservedCost:=by
  intro a mem
  obtain ⟨r,hr,rfl⟩:=mem_update.mp mem
  split
  · rename_i here
    have key:(f r).stage=r.stage ∧ (f r).attemptCount=r.attemptCount:=Prod.mk.inj (kept r)
    refine ⟨?_,row r hr (beq_iff_eq.mp here)⟩
    rw[key.1,key.2]
    exact ledger.counted r hr
  · exact ⟨ledger.counted r hr,ledger.reserved r hr,ledger.observed r hr,ledger.proposed r hr⟩
 refine ⟨?_,fun a mem=>(rows a mem).1,fun a mem=>(rows a mem).2.1,
  fun a mem=>(rows a mem).2.2.1,fun a mem=>(rows a mem).2.2.2⟩
 rw[map_key_update fun a _ _=>kept a]
 exact ledger.unique

lemma Ledger.append (ledger:Ledger attempts counts)(fresh:∀r∈attempts,r.key≠a.key)
 (counted:a.attemptCount≤counts a.stage)(reserved:a.Reserved)
 (observed:0≤a.observedCost)(proposed:∀q∈a.proposal,q.estimatedCost=a.reservedCost) :
 Ledger (attempts++[a]) counts:=by
 have rows:∀ {P:AttemptRow→Prop},(∀r∈attempts,P r)→P a→∀r∈attempts++[a],P r:=by
  intro P old new r mem
  rcases List.mem_append.mp mem with mem|mem
  · exact old r mem
  · rwa[List.mem_singleton.mp mem]
 exact ⟨nodup_append_fresh ledger.unique fresh,rows ledger.counted counted,
  rows ledger.reserved reserved,rows ledger.observed observed,rows ledger.proposed proposed⟩

lemma Cycle.attempt?_update_other {other:Stage}{m:ℕ}(kept:∀a,(f a).key=a.key)
 (different:other≠stage) :
 (c.updateAttempt stage n f).attempt? other m=c.attempt? other m:=by
 rw[Cycle.attempt?_eq,Cycle.updateAttempt_attempts,find?_update kept,
  if_neg fun h=>different (Prod.mk.inj h).1]
 rfl

lemma find?_append_attempt (fresh:∀r∈attempts,r.key≠a.key)(other:Stage)(m:ℕ) :
 (attempts++[a]).find? (AttemptRow.is other m) =
  if other=a.stage ∧ m=a.attemptCount then some a
  else attempts.find? (AttemptRow.is other m):=by
 rw[AttemptRow.is_eq,find?_append_fresh fresh]
 simp only[AttemptRow.key,Prod.mk.injEq]

end Attempts

end Kivou.AcquisitionRuntime
