import Kivou.RuntimeLedger
import Kivou.RuntimeStages

set_option autoImplicit false

/-! Whatever its runs do, the cycle shows the sum of what its attempts charge, and the attempt that
a stage is in says what the stage says. -/
namespace Kivou.AcquisitionRuntime
open PythonValues Tables

structure Cycle.Booked (c:Cycle):Prop where
 ledger:Ledger c.attempts fun stage=>(c.stages stage).attemptCount
 spent:c.row.spentCost=c.spentCost
 current:∀stage a,c.attempt? stage (c.stages stage).attemptCount=some a →
  a.status=(c.stages stage).status ∧ a.replaySameAttempt=(c.stages stage).replaySameAttempt
 replayable:∀stage,(c.stages stage).replaySameAttempt=true →
  (c.attempt? stage (c.stages stage).attemptCount).isSome=true

def Cycle.Reserves (c:Cycle)(stage:Stage)(n:ℕ):Prop:=
 ∃a,c.attempt? stage n=some a ∧ a.reservedCost=stage.cost

/-- A result that its attempt can be charged with: one of an attempt that has
reserved its cost, or one that the runner makes up. -/
structure Settled (stage:Stage)(proposal:Option Proposal)(result:ActionResult)(c:Cycle) : Prop where
 observed:0≤result.observedCost
 reserved:c.Reserves stage (c.stages stage).attemptCount ∨
  result.reservedCost=0 ∧ result.observedCost=0 ∧ proposal=none

section Books
variable {c c':Cycle}{stage:Stage}{n:ℕ}{now:ℤ}

lemma numeric_zero:numeric 0=0:=Decimals.roundTo_eq_self (Decimals.onScale_zero 6)

lemma numeric_nonneg {cost:ℚ}(h:0≤cost):0≤numeric cost:=Decimals.roundTo_nonneg h

lemma booked_createCycle (now:ℤ):(createCycle now).Booked where
 ledger:=.nil
 spent:=rfl
 current _ _ found:=by cases found
 replayable _ replays:=by cases replays

variable (stage) in
lemma Cycle.Booked.change (booked:c.Booked)
 (ledger:Ledger c'.attempts fun stage=>(c'.stages stage).attemptCount)
 (spent:c'.row.spentCost=c'.spentCost)
 (others:∀other,other≠stage→c'.stages other=c.stages other ∧
  ∀m,c'.attempt? other m=c.attempt? other m)
 (current:∀a,c'.attempt? stage (c'.stages stage).attemptCount=some a →
  a.status=(c'.stages stage).status ∧ a.replaySameAttempt=(c'.stages stage).replaySameAttempt)
 (replayable:(c'.stages stage).replaySameAttempt=true →
  (c'.attempt? stage (c'.stages stage).attemptCount).isSome=true):c'.Booked:=by
 refine ⟨ledger,spent,fun other a found=>?_,fun other replays=>?_⟩
 · by_cases same:other=stage
   · subst same
     exact current a found
   · obtain ⟨row,attempts⟩:=others other same
     rw[row,attempts] at found
     rw[row]
     exact booked.current other a found
 · by_cases same:other=stage
   · subst same
     exact replayable replays
   · obtain ⟨row,attempts⟩:=others other same
     rw[row] at replays
     rw[row,attempts]
     exact booked.replayable other replays

lemma Cycle.Booked.updated (booked:c.Booked){f:AttemptRow→AttemptRow}{row:StageRow}
 (kept:∀a,(f a).key=a.key)
 (rows:∀a∈c.attempts,a.key=(stage,n)→(f a).Reserved ∧ 0≤(f a).observedCost ∧
  ∀q∈(f a).proposal,q.estimatedCost=(f a).reservedCost)
 (attempts:c'.attempts=(c.updateAttempt stage n f).attempts)
 (stages:c'.stages=Function.update c.stages stage row)
 (number:(c.stages stage).attemptCount=n)(number':row.attemptCount=n)
 (spent:c'.row.spentCost=c'.spentCost)
 (current:∀a,c.attempt? stage n=some a →
  (f a).status=row.status ∧ (f a).replaySameAttempt=row.replaySameAttempt)
 (replayable:row.replaySameAttempt=true→(c.attempt? stage n).isSome=true):c'.Booked:=by
 have here:c'.stages stage=row:=by rw[stages,Function.update_self]
 have found:c'.attempt? stage n=(c.attempt? stage n).map f:=by
  rw[Cycle.attempt?_eq,attempts]
  exact Cycle.attempt?_update kept
 refine booked.change stage ?_ spent (fun other different=>⟨?_,fun m=>?_⟩) ?_ ?_
 · rw[attempts,Cycle.updateAttempt_attempts]
   refine (booked.ledger.update kept rows).mono fun other=>?_
   rw[stages,Function.update_apply]
   split
   · rename_i same
     rw[same,number,number']
   · exact le_rfl
 · rw[stages,Function.update_of_ne different]
 · rw[Cycle.attempt?_eq,attempts]
   exact Cycle.attempt?_update_other kept different
 · intro a ha
   rw[here,number',found] at ha
   obtain ⟨a₀,ha₀,rfl⟩:=Option.map_eq_some_iff.mp ha
   rw[here]
   exact current a₀ ha₀
 · rw[here,number',found,Option.isSome_map]
   exact replayable

lemma Cycle.Booked.appended (booked:c.Booked){a:AttemptRow}{row:StageRow}
 (missing:c.attempt? a.stage a.attemptCount=none)
 (reserved:a.Reserved)(observed:0≤a.observedCost)
 (proposed:∀q∈a.proposal,q.estimatedCost=a.reservedCost)
 (attempts:c'.attempts=c.attempts++[a])
 (stages:c'.stages=Function.update c.stages a.stage row)
 (number:(c.stages a.stage).attemptCount=a.attemptCount)
 (number':row.attemptCount=a.attemptCount)(spent:c'.row.spentCost=c'.spentCost)
 (current:a.status=row.status ∧ a.replaySameAttempt=row.replaySameAttempt):c'.Booked:=by
 have fresh:=Cycle.attempt?_missing missing
 have here:c'.stages a.stage=row:=by rw[stages,Function.update_self]
 have found:∀other m,c'.attempt? other m =
   if other=a.stage ∧ m=a.attemptCount then some a else c.attempt? other m:=by
  intro other m
  rw[Cycle.attempt?,attempts]
  exact find?_append_attempt fresh other m
 refine booked.change a.stage ?_ spent (fun other different=>⟨?_,fun m=>?_⟩) ?_ ?_
 · rw[attempts]
   refine Ledger.append (booked.ledger.mono fun other=>?_) fresh ?_ reserved observed proposed
   · rw[stages,Function.update_apply]
     split
     · rename_i same
       rw[same,number,number']
     · exact le_rfl
   · rw[here,number']
 · rw[stages,Function.update_of_ne different]
 · rw[found,if_neg fun h=>different h.1]
 · intro b hb
   rw[here,number',found,if_pos ⟨rfl,rfl⟩] at hb
   cases hb
   rwa[here]
 · rw[here,number',found,if_pos ⟨rfl,rfl⟩]
   exact fun _=>rfl

lemma Cycle.Booked.ended {final:Status}(booked:c.Booked)(ended:Ended final c c') :
 c'.Booked:=by
 have found:∀stage m,c'.attempt? stage m=c.attempt? stage m:=by
  intro stage m
  rw[Cycle.attempt?,ended.attempts,Cycle.attempt?]
 refine ⟨?_,?_,fun stage a ha=>?_,fun stage replays=>?_⟩
 · rw[ended.attempts,ended.stages]
   exact booked.ledger
 · rw[ended.spentCost,booked.spent,Cycle.spentCost_congr ended.attempts]
 · rw[found,ended.stages] at ha
   rw[ended.stages]
   exact booked.current stage a ha
 · rw[ended.stages] at replays
   rw[found,ended.stages]
   exact booked.replayable stage replays

lemma Cycle.Booked.begun (booked:c.Booked)(begun:Begun stage now c c'):c'.Booked:=by
 cases begun with
 | postponed=>exact booked
 | running=>exact booked
 | replayed status replay found waiting replays checked =>
  refine booked.updated (f:=AttemptRow.replayed) (fun _=>rfl) (fun a mem _=>?_) rfl rfl rfl rfl
   ?_ (fun _ _=>⟨rfl,rfl⟩) nofun
  · exact ⟨booked.ledger.reserved a mem,booked.ledger.observed a mem,booked.ledger.proposed a mem⟩
  · exact booked.spent.trans (spentCost_kept (f:=AttemptRow.replayed) fun _=>rfl).symm
 | restarted unended stopped fresh checked =>
  have number:((c.restart stage now).stages stage).attemptCount =
    (c.stages stage).attemptCount+1:=by simp[Cycle.restart]
  have missing:∀a∈c.attempts,a.stage=stage→a.attemptCount≤(c.stages stage).attemptCount:=by
   rintro a mem rfl
   exact booked.ledger.counted a mem
  refine booked.change stage (booked.ledger.mono fun other=>?_) booked.spent
   (fun other different=>⟨by simp[Cycle.restart,different],fun m=>rfl⟩) (fun a ha=>?_) ?_
  · by_cases same:other=stage
    · subst same
      omega
    · simp[Cycle.restart,same]
  · obtain ⟨mem,here,count⟩:=Cycle.attempt?_some ha
    have:=missing a mem here
    omega
  · simp[Cycle.restart]

lemma Cycle.Booked.reserved_total {cost maximum:ℚ}{r:Reservation}(booked:c.Booked)
 (cost_nonneg:0≤cost)(reserved:Reserved stage n cost maximum now c c' r) :
 c'.row.spentCost=c'.spentCost ∧ c'.spentCost=r.totalCycleCost:=by
 cases reserved with
 | refused | again=>exact ⟨booked.spent,rfl⟩
 | opened missing within =>
  have total:(Cycle.mk c.row c.stages (c.attempts++[reservedAttempt stage n cost])).spentCost =
    c.spentCost+cost:=by
   rw[spentCost_append]
   congr 1
   exact AttemptRow.charge_of_le cost_nonneg
  exact ⟨total.symm,total⟩
 | @resumed attempt found unreserved within =>
  have free:attempt.reservedCost=0 ∧ attempt.observedCost=0:=by
   simp only[unreservedInterruption,Bool.and_eq_true,decide_eq_true_eq] at unreserved
   exact ⟨unreserved.1.1.1.1.1.2,unreserved.1.1.1.2⟩
  have total:(c.updateAttempt stage n (AttemptRow.charged cost)).spentCost=c.spentCost+cost:=by
   rw[spentCost_updated booked.ledger.unique found,AttemptRow.charge,AttemptRow.charge,
    AttemptRow.charged,free.1,free.2,max_self,max_eq_left cost_nonneg,sub_zero]
  exact ⟨total.symm,total⟩

lemma Cycle.Booked.reserved {maximum:ℚ}{r:Reservation}(booked:c.Booked)
 (checked:c.checked=.ok c)(running:(c.stages stage).status=.running)
 (number:(c.stages stage).attemptCount=n)
 (reserved:Reserved stage n stage.cost maximum now c c' r) :
 c'.Booked ∧ (r.accepted=true→∃a,c'.attempt? stage n=some a ∧
  a.reservedCost=stage.cost ∧ a.proposal=r.proposal):=by
 subst number
 obtain ⟨spent,-⟩:=booked.reserved_total stage.cost_nonneg reserved
 have single:(c.stages stage).replaySameAttempt=false:=by
  have checks:=(Cycle.checked_iff.mp checked).2.1 stage
  simp only[StageRow.checks,retryChecks,running,Bool.and_eq_true] at checks
  simpa using checks.1.2
 cases reserved with
 | refused=>exact ⟨booked,fun accepted=>by cases accepted⟩
 | again found status same unobserved=>exact ⟨booked,fun _=>⟨_,found,same,rfl⟩⟩
 | opened missing within =>
  have fresh:=Cycle.attempt?_missing missing
  refine ⟨booked.appended (a:=reservedAttempt stage (c.stages stage).attemptCount stage.cost)
   missing (.inl rfl) le_rfl (fun _ hq=>by cases hq) rfl rfl rfl rfl spent
   ⟨running.symm,single.symm⟩,fun _=>⟨reservedAttempt stage (c.stages stage).attemptCount
    stage.cost,?_,rfl,rfl⟩⟩
  exact (find?_append_attempt fresh stage _).trans (if_pos ⟨rfl,rfl⟩)
 | @resumed attempt found unreserved within =>
  obtain ⟨status,unbound⟩:attempt.status=.running ∧ attempt.proposal=none:=by
   simp only[unreservedInterruption,Bool.and_eq_true,beq_iff_eq,Option.isNone_iff_eq_none]
    at unreserved
   exact ⟨unreserved.1.1.1.1.1.1,unreserved.1.1.2⟩
  have only:∀a∈c.attempts,a.key=(stage,(c.stages stage).attemptCount)→a=attempt:=by
   intro a mem key
   have here:=find?_of_mem booked.ledger.unique mem
   rw[key] at here
   exact Option.mem_unique here found
  refine ⟨booked.updated (f:=AttemptRow.charged stage.cost) (fun _=>rfl) (fun a mem key=>?_)
   rfl rfl rfl rfl spent (fun a ha=>?_) (fun _=>by rw[found];rfl),fun _=>⟨attempt.charged stage.cost,?_,rfl,?_⟩⟩
  · obtain rfl:=only a mem key
    refine ⟨.inl ?_,booked.ledger.observed a mem,fun q hq=>?_⟩
    · rw[AttemptRow.charged,(Prod.mk.inj key).1]
    · change q∈a.proposal at hq
      rw[unbound] at hq
      cases hq
  · cases found.symm.trans ha
    exact booked.current stage attempt found
  · refine (Cycle.attempt?_update (f:=AttemptRow.charged stage.cost) fun _=>rfl).trans ?_
    rw[found]
    rfl
  · exact unbound

lemma Cycle.Booked.bound {proposal:Proposal}{attempt:AttemptRow}(booked:c.Booked)
 (number:(c.stages stage).attemptCount=n)(found:c.attempt? stage n=some attempt)
 (reserved:attempt.reservedCost=proposal.estimatedCost)(cost:attempt.reservedCost=stage.cost) :
 (c.bound stage n proposal now).Booked ∧ (c.bound stage n proposal now).Reserves stage n:=by
 have only:∀a∈c.attempts,a.key=(stage,n)→a=attempt:=by
  intro a mem key
  have here:=find?_of_mem booked.ledger.unique mem
  rw[key] at here
  exact Option.mem_unique here found
 subst number
 refine ⟨booked.updated (f:=AttemptRow.bound proposal) (fun _=>rfl) (fun a mem key=>?_)
  rfl rfl rfl rfl ?_ (fun a ha=>?_) (fun _=>by rw[found];rfl),⟨attempt.bound proposal,?_,?_⟩⟩
 · obtain rfl:=only a mem key
   refine ⟨.inl ?_,booked.ledger.observed a mem,fun q hq=>?_⟩
   · rw[(Prod.mk.inj key).1.symm] at cost
     exact cost
   · cases hq
     exact reserved.symm
 · exact booked.spent.trans (spentCost_kept (f:=AttemptRow.bound proposal) fun _=>rfl).symm
 · cases found.symm.trans ha
   exact booked.current stage attempt found
 · refine (Cycle.attempt?_update (f:=AttemptRow.bound proposal) fun _=>rfl).trans ?_
   rw[found]
   rfl
 · exact cost

lemma Cycle.Booked.finished {proposal:Option Proposal}{result:ActionResult}
 (booked:c.Booked)(settled:Settled stage proposal result c)
 (finished:Finished stage result proposal now c c'):c'.Booked:=by
 have stages:c'.stages=Function.update c.stages stage (c'.stages stage):=by
  funext other
  rw[Function.update_apply]
  split
  · rename_i same
    rw[same]
  · rename_i different
    exact finished.others other different
 have finalized:=finished.finalized
 generalize hattempts:c'.attempts=attempts at finalized
 cases finalized with
 | inserted missing =>
  have free:result.reservedCost=0 ∧ result.observedCost=0 ∧ proposal=none:=by
   refine settled.reserved.resolve_left ?_
   rintro ⟨a,found,-⟩
   rw[missing] at found
   cases found
  refine booked.appended (a:=⟨stage,(c.stages stage).attemptCount,result.status,
    numeric result.reservedCost,numeric result.observedCost,proposal,result.retryAt,
    result.replaySameAttempt,some now⟩) missing (.inr ⟨?_,?_,free.2.2⟩)
   (numeric_nonneg settled.observed) (fun q hq=>?_) hattempts stages rfl finished.attemptCount
   finished.spentCost ⟨finished.stageStatus.symm,finished.replaySameAttempt.symm⟩
  · exact (congrArg numeric free.1).trans numeric_zero
  · exact (congrArg numeric free.2.1).trans numeric_zero
  · rw[free.2.2] at hq
    cases hq
 | @updated attempt found running bound =>
  refine booked.updated (f:=AttemptRow.finalized result now) (fun _=>rfl) (fun a mem key=>?_)
   hattempts stages rfl finished.attemptCount finished.spentCost
   (fun _ _=>⟨finished.stageStatus.symm,finished.replaySameAttempt.symm⟩)
   (fun _=>by rw[found];rfl)
  have here:=find?_of_mem booked.ledger.unique mem
  rw[key] at here
  obtain rfl:a=attempt:=Option.mem_unique here found
  refine ⟨?_,numeric_nonneg settled.observed,booked.ledger.proposed a mem⟩
  rcases booked.ledger.reserved a mem with cost|⟨none,unobserved,unbound⟩
  · exact .inl cost
  · rcases settled.reserved with ⟨b,found',cost⟩|⟨-,free,-⟩
    · cases found.symm.trans found'
      rw[←(Cycle.attempt?_some found).2.1] at cost
      exact .inl cost
    · exact .inr ⟨none,(congrArg numeric free).trans numeric_zero,unbound⟩

def Booking (run:Run)(c:Cycle):Point→Prop
 | .propose stage _=>∃a,c.attempt? stage run.currentAttempt=some a ∧
   a.reservedCost=stage.cost ∧ a.proposal=none
 | .bind stage _ _=>∃a,c.attempt? stage run.currentAttempt=some a ∧
   a.reservedCost=stage.cost ∧ a.proposal=none
 | .execute stage _ _=>c.Reserves stage run.currentAttempt
 | .beat stage proposal result=>Settled stage proposal result c
 | .finish stage proposal result _=>Settled stage proposal result c
 | _=>True

variable {configs:String → Config}{run run':Run}{choice:Choice}{point point':Point}
 {snap:CycleSnapshot}

lemma booking_raised {fault:Fault}{thrown:Point}
 (h:raised run point fault=some (run,thrown)):Booking run c thrown:=by
 have handler:=raised_handler h
 cases thrown <;> cases handler <;> trivial

lemma settled_free {proposal:Option Proposal}{result:ActionResult}
 (reserved:c.Reserves stage (c.stages stage).attemptCount ∨ proposal=none)
 (free:result.reservedCost=0 ∧ result.observedCost=0):Settled stage proposal result c:=
 ⟨free.2.ge,reserved.imp_right fun none=>⟨free.1,free.2,none⟩⟩

lemma booking_proposed {r:Reservation}{proposal:Proposal}
 (number:(c.stages stage).attemptCount=run.currentAttempt)
 (reserves:c.Reserves stage run.currentAttempt):Booking run c (proposed stage r proposal):=by
 unfold proposed
 split
 · exact settled_free (.inl (number ▸ reserves)) ⟨rfl,rfl⟩
 · split
   · exact settled_free (.inl (number ▸ reserves)) ⟨rfl,rfl⟩
   · exact reserves

lemma booked_turned (checked:c.checked=.ok c)(booked:c.Booked)
 (agrees:Agrees run snap c point)(booking:Booking run c point)
 (turn:Turn configs run snap choice point c c' run' point') :
 c'.Booked ∧ Booking run' c' point':=by
 cases turn with
 | enter | leave | conclude | postpone | noted | record | recordFault=>exact ⟨booked,trivial⟩
 | loop =>
  refine ⟨booked,?_⟩
  split <;> trivial
 | begin h=>exact ⟨booked.begun (beginStage_ok h).2,trivial⟩
 | unauthorized=>exact ⟨booked,settled_free (.inr rfl) ⟨rfl,rfl⟩⟩
 | refused h accepted =>
  obtain ⟨running,number,reserved,-⟩:=reserveStageCost_ok h
  exact ⟨(booked.reserved checked running number reserved).1,settled_free (.inr rfl) ⟨rfl,rfl⟩⟩
 | reserved h accepted unbound =>
  obtain ⟨running,number,reserved,-⟩:=reserveStageCost_ok h
  obtain ⟨booked',reserves⟩:=booked.reserved checked running number reserved
  obtain ⟨a,found,cost,proposal⟩:=reserves accepted
  exact ⟨booked',a,found,cost,proposal.trans unbound⟩
 | replayed h accepted bound =>
  obtain ⟨running,number,reserved,-⟩:=reserveStageCost_ok h
  obtain ⟨booked',reserves⟩:=booked.reserved checked running number reserved
  obtain ⟨a,found,cost,-⟩:=reserves accepted
  exact ⟨booked',booking_proposed ((reserved.alike.attemptCount _).trans number) ⟨a,found,cost⟩⟩
 | propose | beat=>exact ⟨booked,booking⟩
 | @bind c c' stage r proposal bound h =>
  obtain ⟨a,found,cost,-⟩:=booking
  obtain ⟨-,-,number,attempt,found',-,reserved,⟨rfl,-⟩|⟨rfl,-⟩⟩:=bindStageProposal_ok h
  · exact ⟨booked,booking_proposed number ⟨a,found,cost⟩⟩
  · cases found.symm.trans found'
    obtain ⟨booked',reserves⟩:=booked.bound number found reserved cost
    exact ⟨booked',booking_proposed
     (((alike_bound c stage run.currentAttempt proposal run.now).attemptCount stage).trans number)
     reserves⟩
 | execute =>
  refine ⟨booked,?_,.inl (agrees.attempt ▸ booking)⟩
  unfold settled
  split <;> exact choice.result.2.observed.1
 | succeed h | «end» h | halt h=>exact ⟨booked.finished booking (finishStage_ok h),trivial⟩
 | complete h | stop h | timeUp h | close h | interruptedCycle h | failedCycle h =>
  exact ⟨booked.ended (finishCycle_ok h),trivial⟩
 | interrupted h | failed h =>
  exact ⟨booked.finished (settled_free (.inr rfl) ⟨rfl,rfl⟩) (finishStage_ok h),trivial⟩

end Books

end Kivou.AcquisitionRuntime
