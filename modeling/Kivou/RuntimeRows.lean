import Kivou.RuntimeStore

set_option autoImplicit false

/-! One statement for each operation on the rows of a cycle: what it asks of the rows that it finds,
and the rows that it leaves. -/
namespace Kivou.AcquisitionRuntime
open PythonValues

section Rows
variable {c c':Cycle}{stage other:Stage}{attemptCount:ℕ}{now:ℤ}

@[simp] lemma Cycle.updateAttempt_row (f:AttemptRow→AttemptRow) :
 (c.updateAttempt stage attemptCount f).row=c.row:=rfl
@[simp] lemma Cycle.updateAttempt_stages (f:AttemptRow→AttemptRow) :
 (c.updateAttempt stage attemptCount f).stages=c.stages:=rfl
variable (f:StageRow→StageRow)

@[simp] lemma Cycle.updateStage_row : (c.updateStage stage f).row=c.row:=rfl
@[simp] lemma Cycle.updateStage_attempts : (c.updateStage stage f).attempts=c.attempts:=rfl
@[simp] lemma Cycle.updateStage_self :
 (c.updateStage stage f).stages stage=f (c.stages stage):=Function.update_self ..
@[simp] lemma Cycle.updateStage_other (h:other≠stage) :
 (c.updateStage stage f).stages other=c.stages other:=Function.update_of_ne h ..
@[simp] lemma Cycle.updateRow_row (f:CycleRow→CycleRow):(c.updateRow f).row=f c.row:=rfl
@[simp] lemma Cycle.updateRow_stages (f:CycleRow→CycleRow) : (c.updateRow f).stages=c.stages:=rfl
@[simp] lemma Cycle.updateRow_attempts (f:CycleRow→CycleRow) :
 (c.updateRow f).attempts=c.attempts:=rfl

lemma Cycle.checked_ok (h:c.checked=.ok c'):c'=c ∧ c.checked=.ok c:=by
 have kept:=h
 unfold Cycle.checked at h
 split at h
 · cases h;exact ⟨rfl,kept⟩
 · cases h

lemma Stage.mem_all (stage:Stage):stage∈Stage.all:=by
 cases stage <;> decide

lemma Cycle.checked_iff :
 c.checked=.ok c ↔ c.row.lifecycle=true ∧ (∀stage,(c.stages stage).checks=true) ∧
  ∀a∈c.attempts,a.checks=true:=by
 unfold Cycle.checked
 split
 · rename_i h
   simp only[Bool.and_eq_true,List.all_eq_true] at h
   exact iff_of_true rfl ⟨h.1.1,fun stage=>h.1.2 stage stage.mem_all,h.2⟩
 · rename_i h
   refine iff_of_false nofun fun hall=>h ?_
   simp only[Bool.and_eq_true,List.all_eq_true]
   exact ⟨⟨hall.1,fun stage _=>hall.2.1 stage⟩,hall.2.2⟩

lemma Status.terminal_iff {status:Status} :
 status.terminal=true ↔ status=.succeeded ∨ status=.suppressed:=by
 cases status <;> decide

lemma CycleRow.unended {row:CycleRow}(h:row.lifecycle=true)(next:row.nextStage=some stage) :
 row.status.terminal=false:=by
 cases hended:row.status.terminal with
 | false=>rfl
 | true=>simp[CycleRow.lifecycle,hended,next] at h

lemma StageRow.attempted {row:StageRow}(h:row.checks=true)(status:row.status≠.pending) :
 0<row.attemptCount:=by
 simp only[StageRow.checks,Bool.and_eq_true] at h
 cases hstatus:row.status <;> simp_all <;> omega

lemma StageRow.unattempted {row:StageRow}(h:row.checks=true)(status:row.status=.pending) :
 row.attemptCount=0:=by
 simp only[StageRow.checks,status,Bool.and_eq_true,beq_iff_eq] at h
 exact h.2.1.1

lemma AttemptRow.attempted {a:AttemptRow}(h:a.checks=true):1≤a.attemptCount:=by
 simp only[AttemptRow.checks,Bool.and_eq_true,decide_eq_true_eq] at h
 exact h.2

/-- What `begin_stage` finds, and the rows that it leaves. -/
inductive Begun (stage:Stage)(now:ℤ)(c:Cycle):Cycle→Prop
 | postponed (status:(c.stages stage).status=.waiting)
  (later:(c.stages stage).retryAt.any (fun retryAt=>decide (now<retryAt))=true) :
  Begun stage now c c
 | running (status:(c.stages stage).status=.running):Begun stage now c c
 | replayed {attempt:AttemptRow}(status:(c.stages stage).status=.waiting)
  (replay:(c.stages stage).replaySameAttempt=true)
  (found:c.attempt? stage (c.stages stage).attemptCount=some attempt)
  (waiting:attempt.status=.waiting)(replays:attempt.replaySameAttempt=true)
  (checked:(c.replay stage now).checked=.ok (c.replay stage now)) :
  Begun stage now c (c.replay stage now)
 | restarted (unended:(c.stages stage).status≠.succeeded ∧ (c.stages stage).status≠.suppressed)
  (stopped:(c.stages stage).status≠.running)
  (fresh:(c.stages stage).status=.waiting→(c.stages stage).replaySameAttempt=false)
  (checked:(c.restart stage now).checked=.ok (c.restart stage now)) :
  Begun stage now c (c.restart stage now)

lemma beginStage_ok {snapshot:StageSnapshot}(h:beginStage stage now c=.ok (c',snapshot)) :
 snapshot=(c'.stages stage).snapshot ∧ Begun stage now c c':=by
 simp only[beginStage] at h
 split at h
 · rename_i later
   cases h
   exact ⟨rfl,.postponed later.1 later.2⟩
 · split at h
   · cases h
   · rename_i unended
     rw[not_or] at unended
     split at h
     · rename_i status
       cases h
       exact ⟨rfl,.running status⟩
     · rename_i stopped
       split at h
       · rename_i replay
         split at h
         · cases h
         · rename_i attempt found
           split at h
           · cases h
           · rename_i drifted
             obtain ⟨c₁,hc₁,h⟩:=bind_ok.mp h
             cases h
             obtain ⟨rfl,checked⟩:=Cycle.checked_ok hc₁
             rw[not_or,not_not,Bool.not_eq_false] at drifted
             exact ⟨rfl,.replayed replay.1 replay.2 found drifted.1 drifted.2 checked⟩
       · rename_i fresh
         obtain ⟨c₁,hc₁,h⟩:=bind_ok.mp h
         cases h
         obtain ⟨rfl,checked⟩:=Cycle.checked_ok hc₁
         refine ⟨rfl,.restarted unended stopped (fun status=>?_) checked⟩
         simpa[status] using fresh

/-- What `reserve_stage_cost` finds, the rows that it leaves and its answer. -/
inductive Reserved (stage:Stage)(attemptCount:ℕ)(cost maximum:ℚ)(now:ℤ)(c:Cycle) :
  Cycle→Reservation→Prop
 | refused (exceeds:maximum<c.spentCost+cost) :
  Reserved stage attemptCount cost maximum now c c ⟨false,false,cost,c.spentCost,none⟩
 | resumed {attempt:AttemptRow}(found:c.attempt? stage attemptCount=some attempt)
  (unreserved:unreservedInterruption attempt cost=true)(within:c.spentCost+cost ≤ maximum) :
  Reserved stage attemptCount cost maximum now c
   ((c.updateAttempt stage attemptCount fun a=>{a with reservedCost:=cost}).charge stage cost
    (c.spentCost+cost) now) ⟨true,true,cost,c.spentCost+cost,none⟩
 | again {attempt:AttemptRow}(found:c.attempt? stage attemptCount=some attempt)
  (status:attempt.status=.running)(same:attempt.reservedCost=cost)
  (unobserved:attempt.observedCost=0) :
  Reserved stage attemptCount cost maximum now c c ⟨true,false,cost,c.spentCost,attempt.proposal⟩
 | opened (missing:c.attempt? stage attemptCount=none)(within:c.spentCost+cost ≤ maximum) :
  Reserved stage attemptCount cost maximum now c
   (({c with attempts:=c.attempts++[reservedAttempt stage attemptCount cost]}:Cycle).charge
    stage cost (c.spentCost+cost) now) ⟨true,true,cost,c.spentCost+cost,none⟩

lemma reservation_ok {accepted created:Bool}{cost total:ℚ}{proposal:Option Proposal}
 {r:Reservation}(h:reservation accepted created cost total proposal=.ok r) :
 r=⟨accepted,created,cost,total,proposal⟩ ∧ 0≤total ∧ total≤50 ∧
  ∀p∈proposal,p.estimatedCost=cost:=by
 unfold reservation at h
 split at h
 · rename_i shown
   cases h
   refine ⟨rfl,shown.1,shown.2.1,fun p hp=>?_⟩
   simpa[Option.mem_def.mp hp] using shown.2.2
 · cases h

lemma reserveStageCost_ok {cost maximum:ℚ}{r:Reservation}
 (h:reserveStageCost stage attemptCount cost maximum now c=.ok (c',r)) :
 (c.stages stage).status=.running ∧ (c.stages stage).attemptCount=attemptCount ∧
  Reserved stage attemptCount cost maximum now c c' r ∧ (c'=c ∨ c'.checked=.ok c'):=by
 simp only[reserveStageCost] at h
 split at h
 · cases h
 · rename_i owned
   rw[not_or,not_not,not_not] at owned
   refine ⟨owned.1,owned.2,?_⟩
   cases hfound:c.attempt? stage attemptCount with
   | none =>
    simp only[hfound] at h
    split at h
    · rename_i exceeds
      obtain ⟨r',hr,h⟩:=bind_ok.mp h
      cases h
      obtain ⟨rfl,-⟩:=reservation_ok hr
      exact ⟨.refused exceeds,.inl rfl⟩
    · rename_i within
      obtain ⟨r',hr,h⟩:=bind_ok.mp h
      obtain ⟨c₁,hc₁,h⟩:=bind_ok.mp h
      cases h
      obtain ⟨rfl,checked⟩:=Cycle.checked_ok hc₁
      obtain ⟨rfl,-⟩:=reservation_ok hr
      exact ⟨.opened hfound (not_lt.mp within),.inr checked⟩
   | some attempt =>
    simp only[hfound] at h
    split at h
    · rename_i unreserved
      split at h
      · rename_i exceeds
        obtain ⟨r',hr,h⟩:=bind_ok.mp h
        cases h
        obtain ⟨rfl,-⟩:=reservation_ok hr
        exact ⟨.refused exceeds,.inl rfl⟩
      · rename_i within
        obtain ⟨r',hr,h⟩:=bind_ok.mp h
        obtain ⟨c₁,hc₁,h⟩:=bind_ok.mp h
        cases h
        obtain ⟨rfl,checked⟩:=Cycle.checked_ok hc₁
        obtain ⟨rfl,-⟩:=reservation_ok hr
        exact ⟨.resumed hfound unreserved (not_lt.mp within),.inr checked⟩
    · split at h
      · cases h
      · rename_i safe
        simp only[not_or,not_not] at safe
        obtain ⟨r',hr,h⟩:=bind_ok.mp h
        cases h
        obtain ⟨rfl,-⟩:=reservation_ok hr
        exact ⟨.again hfound safe.1 safe.2.1 safe.2.2.1,.inl rfl⟩

/-- What `bind_stage_proposal` leaves: the proposal of the attempt, once. -/
def Cycle.bound (c:Cycle)(stage:Stage)(attemptCount:ℕ)(proposal:Proposal)(now:ℤ) :
 Cycle:=
 (c.updateAttempt stage attemptCount fun a=>{a with proposal:=some proposal}).updateStage stage
  fun row=>{ row with planRef:=some proposal.planRef,command:=some proposal.command,
                        argumentFingerprint:=some proposal.argumentFingerprint,
                        updatedAt:=now}

lemma bindStageProposal_ok {proposal answer:Proposal}
 (h:bindStageProposal stage attemptCount proposal now c=.ok (c',answer)) :
 answer=proposal ∧ (c.stages stage).status=.running ∧ (c.stages stage).attemptCount=attemptCount ∧
  ∃attempt,c.attempt? stage attemptCount=some attempt ∧ attempt.status=.running ∧
   attempt.reservedCost=proposal.estimatedCost ∧
   (c'=c ∧ attempt.proposal=some proposal ∨
    c'=c.bound stage attemptCount proposal now ∧ attempt.proposal=none ∧ c'.checked=.ok c'):=by
 simp only[bindStageProposal] at h
 split at h
 · cases h
 · rename_i attempt found
   split at h
   · cases h
   · rename_i owned
     simp only[not_or,not_not] at owned
     obtain ⟨status,count,running,cost⟩:=owned
     split at h
     · rename_i stored hstored
       split at h
       · cases h
       · rename_i same
         rw[not_not] at same
         cases h
         exact ⟨same,status,count,attempt,found,running,cost,.inl ⟨rfl,by rw[hstored,same]⟩⟩
     · rename_i unbound
       obtain ⟨c₁,hc₁,h⟩:=bind_ok.mp h
       cases h
       obtain ⟨rfl,checked⟩:=Cycle.checked_ok hc₁
       exact ⟨rfl,status,count,attempt,found,running,cost,.inr ⟨rfl,unbound,checked⟩⟩

def AttemptRow.replayed (a:AttemptRow):AttemptRow:=
 {a with status:=.running,retryAt:=none,replaySameAttempt:=false,completedAt:=none}

def AttemptRow.charged (cost:ℚ)(a:AttemptRow):AttemptRow:={a with reservedCost:=cost}

def AttemptRow.bound (proposal:Proposal)(a:AttemptRow):AttemptRow:={a with proposal:=some proposal}

def AttemptRow.finalized (result:ActionResult)(now:ℤ)(a:AttemptRow):AttemptRow:=
 { a with status:=result.status,observedCost:=numeric result.observedCost,
          retryAt:=result.retryAt,replaySameAttempt:=result.replaySameAttempt,
          completedAt:=some now}

inductive Finalized (stage:Stage)(result:ActionResult)(proposal:Option Proposal)(now:ℤ)
  (c:Cycle):List AttemptRow→Prop
 | inserted (missing:c.attempt? stage (c.stages stage).attemptCount=none) :
  Finalized stage result proposal now c (c.attempts++[{
   stage
   attemptCount:=(c.stages stage).attemptCount
   status:=result.status
   reservedCost:=numeric result.reservedCost
   observedCost:=numeric result.observedCost
   proposal
   retryAt:=result.retryAt
   replaySameAttempt:=result.replaySameAttempt
   completedAt:=some now}])
 | updated {attempt:AttemptRow} (found:c.attempt? stage (c.stages stage).attemptCount=some attempt)
  (running:attempt.status=.running)(bound:proposal.isSome→attempt.proposal=proposal) :
  Finalized stage result proposal now c
   (c.updateAttempt stage (c.stages stage).attemptCount (AttemptRow.finalized result now)).attempts

/-- What `finish_stage` finds and leaves. -/
structure Finished (stage:Stage)(result:ActionResult)(proposal:Option Proposal)(now:ℤ)
  (c c':Cycle):Prop where
 running:(c.stages stage).status=.running
 finalized:Finalized stage result proposal now c c'.attempts
 checked:c'.checked=.ok c'
 status:c'.row.status=if result.status=.succeeded then .running else result.status
 nextStage:c'.row.nextStage=nextStageAfter stage result.status
 spentCost:c'.row.spentCost=c'.spentCost
 stageStatus:(c'.stages stage).status=result.status
 attemptCount:(c'.stages stage).attemptCount=(c.stages stage).attemptCount
 retryAt:(c'.stages stage).retryAt=result.retryAt
 replaySameAttempt:(c'.stages stage).replaySameAttempt=result.replaySameAttempt
 others:∀other,other≠stage→c'.stages other=c.stages other

lemma finalizeAttempt_ok {result:ActionResult}{proposal:Option Proposal}
 (h:finalizeAttempt stage result proposal now c=.ok c') :
 Finalized stage result proposal now c c'.attempts ∧ c'.row=c.row ∧ c'.stages=c.stages:=by
 simp only[finalizeAttempt] at h
 split at h
 · rename_i missing
   cases h
   exact ⟨.inserted missing,rfl,rfl⟩
 · rename_i attempt found
   split at h
   · cases h
   · rename_i running
     split at h
     · cases h
     · split at h
       · cases h
       · rename_i bound
         cases h
         rw[not_and,not_not] at bound
         exact ⟨.updated found (not_not.mp running) bound,rfl,rfl⟩

lemma finishStage_ok {result:ActionResult}{proposal:Option Proposal}
 (h:finishStage stage result proposal now c=.ok c') :
 Finished stage result proposal now c c':=by
 simp only[finishStage] at h
 split at h
 · cases h
 · rename_i running
   obtain ⟨c₁,hc₁,h⟩:=bind_ok.mp h
   obtain ⟨finalized,row,stages⟩:=finalizeAttempt_ok hc₁
   obtain ⟨rfl,checked⟩:=Cycle.checked_ok h
   exact {
    running:=not_not.mp running
    finalized:=finalized
    checked:=checked
    status:=rfl
    nextStage:=rfl
    spentCost:=rfl
    stageStatus:=by simp
    attemptCount:=by simp[stages]
    retryAt:=by simp
    replaySameAttempt:=by simp
    others:=by
     intro other hother
     simp[hother,stages]}

/-- What `finish_cycle` finds and leaves. -/
structure Ended (final:Status)(c c':Cycle):Prop where
 complete:final=.succeeded→c.row.nextStage=none
 checked:c'.checked=.ok c'
 status:c'.row.status=final
 nextStage:c'.row.nextStage=if final.terminal then none else c.row.nextStage
 spentCost:c'.row.spentCost=c.row.spentCost
 stages:c'.stages=c.stages
 attempts:c'.attempts=c.attempts

lemma finishCycle_ok {status:Status}{reasonCode:Option String}
 (h:finishCycle status reasonCode now c=.ok c'):Ended status c c':=by
 simp only[finishCycle] at h
 split at h
 · cases h
 · rename_i complete
   obtain ⟨rfl,checked⟩:=Cycle.checked_ok h
   refine ⟨fun succeeded=>?_,checked,rfl,rfl,rfl,rfl,rfl⟩
   simpa[succeeded] using complete

end Rows

end Kivou.AcquisitionRuntime
