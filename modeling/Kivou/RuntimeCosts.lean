import Kivou.RuntimeBooks

set_option autoImplicit false

/-! Where no attempt that may be replayed observed more than it reserved, and none of a free stage
is interrupted unreserved past the maximum, what the attempts of a cycle charge never falls and no
accepted reservation takes it past the maximum. -/
namespace Kivou.AcquisitionRuntime
open PythonValues Tables

def AttemptRow.Live (a:AttemptRow):Prop:=
 a.status=.running ∨ a.status=.waiting ∧ a.replaySameAttempt=true

def Cycle.Charged (maximum:ℚ)(c:Cycle):Prop:=∀stage a,c.row.nextStage=some stage →
  c.attempt? stage (c.stages stage).attemptCount=some a→a.Live →
   a.observedCost≤a.reservedCost ∧ (a.reservedCost=stage.cost→c.spentCost ≤ maximum)

/-- A result to be replayed observes no more than its attempt has reserved; one
of an attempt without a row observes nothing, within the maximum. -/
def Replays (maximum:ℚ)(stage:Stage)(result:ActionResult)(c:Cycle):Prop:=
 result.status=.waiting → result.replaySameAttempt=true →
  (∀a,c.attempt? stage (c.stages stage).attemptCount=some a →
   numeric result.observedCost≤a.reservedCost) ∧
  (c.attempt? stage (c.stages stage).attemptCount=none →
   result.observedCost=0 ∧ (stage.cost=0→c.spentCost ≤ maximum))

section Charges
variable {c c':Cycle}{stage:Stage}{n:ℕ}{maximum:ℚ}{now:ℤ}

lemma charged_createCycle (maximum:ℚ)(now:ℤ):(createCycle now).Charged maximum:=
 fun _ _ _ found=>by cases found

lemma Cycle.Charged.updated (charged:c.Charged maximum){f:AttemptRow→AttemptRow}
 (kept:∀a,(f a).key=a.key)
 (cost:∀a,(f a).reservedCost=a.reservedCost ∧ (f a).observedCost=a.observedCost)
 (attempts:c'.attempts=(c.updateAttempt stage n f).attempts)
 (number:(c.stages stage).attemptCount=n)(number':(c'.stages stage).attemptCount=n)
 (next:c.row.nextStage=some stage)(next':c'.row.nextStage=some stage)
 (live:∀a,c.attempt? stage n=some a→(f a).Live→a.Live) :
 c'.Charged maximum ∧ c'.spentCost=c.spentCost:=by
 have total:c'.spentCost=c.spentCost:=by
  rw[Cycle.spentCost_congr attempts]
  refine spentCost_kept fun a=>?_
  rw[AttemptRow.charge,AttemptRow.charge,(cost a).1,(cost a).2]
 refine ⟨fun other a hother found hlive=>?_,total⟩
 cases next'.symm.trans hother
 rw[number',Cycle.attempt?_eq,attempts] at found
 obtain ⟨a₀,found₀,rfl⟩:=Option.map_eq_some_iff.mp ((Cycle.attempt?_update kept).symm.trans found)
 rw[(cost a₀).1,(cost a₀).2,total]
 exact charged stage a₀ next (by rwa[number]) (live a₀ found₀ hlive)

lemma Cycle.Charged.begun (charged:c.Charged maximum)(booked:c.Booked)
 (next:c.row.nextStage=some stage)(begun:Begun stage now c c') :
 c'.Charged maximum ∧ c'.spentCost=c.spentCost:=by
 cases begun with
 | postponed | running=>exact ⟨charged,rfl⟩
 | replayed status replay found waiting replays checked =>
  refine charged.updated (f:=AttemptRow.replayed) (fun _=>rfl) (fun _=>⟨rfl,rfl⟩) rfl rfl
   (by simp[Cycle.replay]) next next fun a found' _=>?_
  cases found.symm.trans found'
  exact .inr ⟨waiting,replays⟩
 | restarted unended stopped fresh checked =>
  refine ⟨fun other a hother found _=>?_,rfl⟩
  cases hother
  obtain ⟨mem,rfl,count⟩:=Cycle.attempt?_some found
  have counted:a.attemptCount≤(c.stages a.stage).attemptCount:=booked.ledger.counted a mem
  have number:((c.restart a.stage now).stages a.stage).attemptCount =
    (c.stages a.stage).attemptCount+1:=by simp[Cycle.restart]
  omega

lemma Cycle.Charged.reserved {r:Reservation}(charged:c.Charged maximum)(booked:c.Booked)
 (next:c.row.nextStage=some stage)(number:(c.stages stage).attemptCount=n)
 (reserved:Reserved stage n stage.cost maximum now c c' r) :
 c'.Charged maximum ∧ c.spentCost≤c'.spentCost ∧ (r.accepted=true→c'.spentCost ≤ maximum):=by
 obtain ⟨-,total⟩:=booked.reserved_total stage.cost_nonneg reserved
 have more:c.spentCost≤c.spentCost+stage.cost:=by linarith [stage.cost_nonneg]
 have alike:=reserved.alike
 cases reserved with
 | refused exceeds=>exact ⟨charged,le_rfl,nofun⟩
 | again found status same unobserved =>
  subst number
  exact ⟨charged,le_rfl,fun _=>(charged stage _ next found (.inl status)).2 same⟩
 | @opened missing within =>
  refine ⟨fun other a hother found _=>?_,more.trans total.ge,fun _=>total.trans_le within⟩
  cases (alike.nextStage.trans next).symm.trans hother
  rw[alike.attemptCount,number] at found
  have found':=(find?_append_attempt (a:=reservedAttempt stage n stage.cost)
   (Cycle.attempt?_missing missing) stage n).symm.trans found
  rw[if_pos ⟨rfl,rfl⟩] at found'
  cases found'
  exact ⟨stage.cost_nonneg,fun _=>total.trans_le within⟩
 | @resumed attempt found unreserved within =>
  have free:attempt.observedCost=0:=by
   simp only[unreservedInterruption,Bool.and_eq_true,decide_eq_true_eq] at unreserved
   exact unreserved.1.1.1.2
  refine ⟨fun other a hother hfound _=>?_,more.trans total.ge,fun _=>total.trans_le within⟩
  cases (alike.nextStage.trans next).symm.trans hother
  rw[alike.attemptCount,number] at hfound
  have found':=(Cycle.attempt?_update (f:=AttemptRow.charged stage.cost) fun _=>rfl).symm.trans
   hfound
  rw[found] at found'
  cases found'
  exact ⟨free.trans_le stage.cost_nonneg,fun _=>total.trans_le within⟩

lemma Cycle.Charged.bound {proposal:Proposal}(charged:c.Charged maximum)
 (next:c.row.nextStage=some stage)(number:(c.stages stage).attemptCount=n) :
 (c.bound stage n proposal now).Charged maximum ∧
  (c.bound stage n proposal now).spentCost=c.spentCost:=
 charged.updated (f:=AttemptRow.bound proposal) (fun _=>rfl) (fun _=>⟨rfl,rfl⟩) rfl number
  (((alike_bound c stage n proposal now).attemptCount stage).trans number) next next
  fun _ _ live=>live

lemma Cycle.Charged.finalized {result:ActionResult}{proposal:Option Proposal}
 (charged:c.Charged maximum)(booked:c.Booked)(next:c.row.nextStage=some stage)
 (settled:Settled stage proposal result c)(replays:Replays maximum stage result c)
 (ends:result.ends)(finalized:Finalized stage result proposal now c c'.attempts) :
 c.spentCost≤c'.spentCost ∧ ∀a,c'.attempt? stage (c.stages stage).attemptCount=some a→a.Live →
   a.observedCost≤a.reservedCost ∧ (a.reservedCost=stage.cost→c'.spentCost ≤ maximum):=by
 have waits:∀ {a:AttemptRow},a.Live→a.status=result.status →
   a.replaySameAttempt=result.replaySameAttempt →
   result.status=.waiting ∧ result.replaySameAttempt=true:=by
  intro a live status replay
  rcases live with running|⟨waiting,replays⟩
  · exact absurd (status.symm.trans running) ends.2
  · exact ⟨status.symm.trans waiting,replay.symm.trans replays⟩
 generalize hattempts:c'.attempts=attempts at finalized
 cases finalized with
 | inserted missing =>
  have free:numeric result.reservedCost=0:=by
   have none:=settled.reserved.resolve_left fun ⟨a,found,_⟩=>by
    rw[missing] at found
    cases found
   rw[none.1,numeric_zero]
  have total:c'.spentCost=c.spentCost+numeric result.observedCost:=by
   rw[Cycle.spentCost_congr (c:=⟨c.row,c.stages,_⟩) hattempts,spentCost_append]
   congr 1
   rw[AttemptRow.charge,free,max_eq_right (numeric_nonneg settled.observed)]
  refine ⟨?_,fun a found live=>?_⟩
  · rw[total]
    linarith [numeric_nonneg settled.observed]
  · rw[Cycle.attempt?,hattempts,find?_append_attempt (Cycle.attempt?_missing missing),
     if_pos ⟨rfl,rfl⟩] at found
    cases found
    obtain ⟨waiting,again⟩:=waits live rfl rfl
    obtain ⟨observed,within⟩:=(replays waiting again).2 missing
    have nothing:numeric result.observedCost=0:=by rw[observed,numeric_zero]
    refine ⟨nothing.trans free.symm |>.le,fun cost=>?_⟩
    rw[total,nothing,add_zero]
    exact within (cost.symm.trans free)
 | @updated attempt found running bound =>
  obtain ⟨below,within⟩:=charged stage attempt next found (.inl running)
  have total:c'.spentCost=c.spentCost-attempt.reservedCost +
    max attempt.reservedCost (numeric result.observedCost):=by
   rw[Cycle.spentCost_congr hattempts,spentCost_updated booked.ledger.unique found,
    AttemptRow.charge_of_le below]
   rfl
  refine ⟨?_,fun a found' live=>?_⟩
  · rw[total]
    linarith [le_max_left attempt.reservedCost (numeric result.observedCost)]
  · rw[Cycle.attempt?_eq,hattempts,←Cycle.attempt?_eq] at found'
    rw[Cycle.attempt?_update (f:=AttemptRow.finalized result now) fun _=>rfl,found] at found'
    cases found'
    obtain ⟨waiting,again⟩:=waits live rfl rfl
    have observed:=(replays waiting again).1 attempt found
    refine ⟨observed,fun cost=>?_⟩
    rw[total,max_eq_left observed,sub_add_cancel]
    exact within cost

lemma Cycle.Charged.finished {result:ActionResult}{proposal:Option Proposal}
 (charged:c.Charged maximum)(booked:c.Booked)(ordered:∃n,c.InOrder n)
 (next:c.row.nextStage=some stage)(settled:Settled stage proposal result c)
 (replays:Replays maximum stage result c)(ends:result.ends)
 (finished:Finished stage result proposal now c c') :
 c'.Charged maximum ∧ c.spentCost≤c'.spentCost:=by
 obtain ⟨more,live⟩:=charged.finalized booked next settled replays ends finished.finalized
 refine ⟨fun other a hother found hlive=>?_,more⟩
 rw[finished.nextStage] at hother
 by_cases same:other=stage
 · subst same
   rw[finished.attemptCount] at found
   exact live a found hlive
 · -- The stage after the finished one has not begun, so that it has no attempt.
   obtain ⟨n,ordered⟩:=ordered
   have after:stage.after=some other:=by
    cases hstatus:result.status <;> rw[hstatus] at hother <;>
     first | exact hother | exact absurd (Option.some.inj hother).symm same | cases hother
   have index:=ordered.index_of_running finished.running
   have later:n<other.index:=by
    rw[Stage.index_of_all after]
    omega
   have checks:=Cycle.checked_iff.mp finished.checked
   have pending:(c'.stages other).status=.pending:=by
    rw[finished.others other same,ordered.later other later]
   have none:=StageRow.unattempted (checks.2.1 other) pending
   obtain ⟨mem,-,number⟩:=Cycle.attempt?_some found
   have some:=AttemptRow.attempted (checks.2.2 a mem)
   omega

lemma Cycle.Charged.ended {final:Status}(charged:c.Charged maximum)(ended:Ended final c c') :
 c'.Charged maximum ∧ c.spentCost≤c'.spentCost:=by
 have total:=Cycle.spentCost_congr ended.attempts
 refine ⟨fun stage a hnext found live=>?_,total.ge⟩
 rw[ended.stages,Cycle.attempt?,ended.attempts] at found
 rw[total]
 refine charged stage a ?_ found live
 rw[ended.nextStage] at hnext
 split at hnext
 · cases hnext
 · exact hnext

end Charges

end Kivou.AcquisitionRuntime
