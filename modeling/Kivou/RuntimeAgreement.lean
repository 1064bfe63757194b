import Kivou.RuntimeFence

set_option autoImplicit false

/-! At each point of its run the holder's locals agree with the stored rows, and a raise takes it to
a handler that finds what it expects. -/
namespace Kivou.AcquisitionRuntime
open PythonValues

variable {configs:String → Config}

structure Inside (run:Run)(snap:CycleSnapshot)(c:Cycle):Prop where
 running:∀stage,run.currentStage=some stage→0<run.currentAttempt →
  (c.stages stage).status=.running→c.row.nextStage=some stage
 suppressed:run.currentStage=none ∨ run.currentAttempt=0→c.row.status=.suppressed →
  snap.status=.suppressed

structure Attempting (run:Run)(stage:Stage)(c:Cycle):Prop where
 current:run.currentStage=some stage
 attempt:(c.stages stage).attemptCount=run.currentAttempt
 attempted:0<run.currentAttempt
 next:c.row.nextStage=some stage

structure Working (run:Run)(stage:Stage)(c:Cycle):Prop extends Attempting run stage c where
 running:(c.stages stage).status=.running

structure Entering (run:Run)(stage:Stage)(c:Cycle):Prop where
 current:run.currentStage=some stage
 attempt:run.currentAttempt=0
 next:c.row.nextStage=some stage

def ActionResult.ends (result:ActionResult):Prop:=result.status≠.pending ∧ result.status≠.running

def Agrees (run:Run)(snap:CycleSnapshot)(c:Cycle):Point→Prop
 | .greet=>Inside run snap c ∧ c.row.status=snap.status ∧ c.row.nextStage=snap.nextStage
 | .complete=>Inside run snap c ∧ c.row.status≠.suppressed
 | .loop stage=>Entering run stage c
 | .begin stage=>Entering run stage c
 | .note stage snapshot=>Attempting run stage c ∧ snapshot=(c.stages stage).snapshot ∧
   ((c.stages stage).status=.running ∨ (c.stages stage).status=.waiting ∧
    (c.stages stage).retryAt.any (fun retryAt=>decide (run.now<retryAt))=true)
 | .reserve stage=>Working run stage c
 | .propose stage _=>Working run stage c
 | .bind stage _ _=>Working run stage c
 | .execute stage _ _=>Working run stage c
 | .beat stage _ result=>Working run stage c ∧ result.ends
 | .finish stage _ result _=>Working run stage c ∧ result.ends
 | .stop result=>Inside run snap c ∧ c.row.status=result.status ∧ result.ends ∧
   result.status≠.succeeded ∧ (result.status=.suppressed→c.row.nextStage=none)
 | .timeUp=>run.currentAttempt=0 ∧ c.row.status≠.suppressed
 | .close=>Inside run snap c ∧ c.row.nextStage=none ∧ c.row.status≠.suppressed
 | .record=>Inside run snap c
 | .interrupted stage=>(c.stages stage).status=.running→c.row.nextStage=some stage
 | .interruptedCycle _=>c.row.status≠.suppressed
 | .failed stage=>(c.stages stage).status=.running→c.row.nextStage=some stage
 | .failedCycle=>c.row.status=.suppressed→snap.status=.suppressed
 | .observe | .resume | .recordFault _ | .release=>True

/-- The points of `run_once` outside its handlers, once it has a cycle. -/
def Point.guarded:Point→Bool
 | .observe | .resume | .interrupted _ | .interruptedCycle _ | .failed _ | .failedCycle
 | .recordFault _ | .release=>false
 | _=>true

section Agreement
variable {run run':Run}{choice:Choice}{point point':Point}{snap:CycleSnapshot}
 {c c':Cycle}{stage:Stage}

lemma unsuppressed (checked:c.checked=.ok c)(next:c.row.nextStage=some stage) :
 c.row.status≠.suppressed:=by
 intro hsuppressed
 have unended:=CycleRow.unended (Cycle.checked_iff.mp checked).1 next
 rw[hsuppressed] at unended
 cases unended

lemma Entering.inside (entering:Entering run stage c)(checked:c.checked=.ok c) :
 Inside run snap c where
 running _ _ attempted:=by
  have:=entering.attempt
  omega
 suppressed _ hsuppressed:=absurd hsuppressed (unsuppressed checked entering.next)

lemma Attempting.inside (attempting:Attempting run stage c):Inside run snap c where
 running other current _ _:=by
  rw[←current,attempting.current,attempting.next]
 suppressed idle _:=by
  have:=attempting.attempted
  rcases idle with idle|idle
  · rw[attempting.current] at idle
    cases idle
  · omega

lemma Agrees.inside (checked:c.checked=.ok c)(agrees:Agrees run snap c point)
 (inTry:point.guarded=true):Inside run snap c:=by
 cases point with
 | greet | complete | stop | close=>exact agrees.1
 | loop | begin=>exact agrees.inside checked
 | note=>exact agrees.1.inside
 | reserve | propose | bind | execute=>exact agrees.toAttempting.inside
 | beat | finish=>exact agrees.1.toAttempting.inside
 | timeUp =>
  refine ⟨fun _ _ attempted=>?_,fun _ hsuppressed=>absurd hsuppressed agrees.2⟩
  have:=agrees.1
  omega
 | record=>exact agrees
 | _=>cases inTry

lemma Inside.thrown (inside:Inside run snap c)(fault:Fault) :
 Agrees run snap c (run.raise fault):=by
 have released:Agrees run snap c .release:=trivial
 cases fault with
 | baseException=>exact released
 | interruptedError =>
  simp only[Run.raise]
  split
  · rename_i stage _ current
    split
    · exact inside.running stage current (by assumption)
    · exact released
  · exact released
 | exception =>
  simp only[Run.raise]
  split
  · exact released
  · rename_i current
    exact inside.suppressed (.inl current)
  · rename_i stage _ current
    split
    · exact inside.running stage current (by assumption)
    · rename_i idle
      exact inside.suppressed (.inr (Nat.eq_zero_of_not_pos idle))

lemma agrees_raised_of_inside {thrown:Point}{fault:Fault}
 (inside:point.guarded=true→Inside run snap c)(early:point.early=false)
 (h:raised run point fault=some (run,thrown)) :
 Agrees run snap c thrown:=by
 cases point with
 | observe | resume=>cases early
 | interrupted | interruptedCycle | failed | failedCycle | recordFault =>
  cases h
  trivial
 | release=>cases h
 | _ =>
  cases h
  exact (inside rfl).thrown fault

/-- Neither a reservation nor a bound proposal changes what the runner goes by. -/
structure Alike (c c':Cycle):Prop where
 status:c'.row.status=c.row.status
 nextStage:c'.row.nextStage=c.row.nextStage
 stageStatus:∀stage,(c'.stages stage).status=(c.stages stage).status
 attemptCount:∀stage,(c'.stages stage).attemptCount=(c.stages stage).attemptCount

lemma Alike.refl:Alike c c:=⟨rfl,rfl,fun _=>rfl,fun _=>rfl⟩

lemma alike_updateStage (f:StageRow→StageRow)(status:∀row,(f row).status=row.status)
 (attemptCount:∀row,(f row).attemptCount=row.attemptCount)(g:CycleRow→CycleRow)
 (rowStatus:∀row,(g row).status=row.status)
 (nextStage:∀row,(g row).nextStage=row.nextStage)(row:c'.row=g c.row)
 (stages:c'.stages=Function.update c.stages stage (f (c.stages stage))):Alike c c' where
 status:=by rw[row,rowStatus]
 nextStage:=by rw[row,nextStage]
 stageStatus other:=by
  rw[stages,Function.update_apply]
  split
  · rename_i h
    rw[status,h]
  · rfl
 attemptCount other:=by
  rw[stages,Function.update_apply]
  split
  · rename_i h
    rw[attemptCount,h]
  · rfl

lemma Reserved.alike {attemptCount:ℕ}{cost maximum:ℚ}{now:ℤ}{r:Reservation}
 (h:Reserved stage attemptCount cost maximum now c c' r):Alike c c':=by
 cases h with
 | refused | again=>exact .refl
 | resumed | opened =>
  exact alike_updateStage
   (fun row=>{row with reservedCost:=cost,updatedAt:=now}) (fun _=>rfl) (fun _=>rfl)
   (fun row=>{row with spentCost:=c.spentCost+cost,updatedAt:=now})
   (fun _=>rfl) (fun _=>rfl) rfl rfl

lemma alike_bound (c:Cycle)(stage:Stage)(attemptCount:ℕ)(proposal:Proposal)(now:ℤ) :
 Alike c (c.bound stage attemptCount proposal now):=
 alike_updateStage
  (fun row=>{ row with planRef:=some proposal.planRef,command:=some proposal.command,
                         argumentFingerprint:=some proposal.argumentFingerprint,
                         updatedAt:=now}) (fun _=>rfl) (fun _=>rfl)
  (fun row=>row) (fun _=>rfl) (fun _=>rfl) rfl rfl

lemma Working.alike (working:Working run stage c)(alike:Alike c c'):Working run stage c' where
 __:=working
 attempt:=(alike.attemptCount stage).trans working.attempt
 next:=alike.nextStage.trans working.next
 running:=(alike.stageStatus stage).trans working.running

lemma agrees_proposed {r:Reservation}{proposal:Proposal}(working:Working run stage c) :
 Agrees run snap c (proposed stage r proposal):=by
 have blocked:∀reason,(blockedResult reason).ends:=fun _=>⟨nofun,nofun⟩
 unfold proposed
 split
 · exact ⟨working,blocked _⟩
 · split
   · exact ⟨working,blocked _⟩
   · exact working

lemma ends_settled (maximum:ℚ)(r:Reservation)(proposal:Proposal)
 (result:{r:ActionResult // r.Accepted}):(settled maximum r proposal result.1).ends:=by
 unfold settled
 split
 · exact ⟨nofun,nofun⟩
 · exact result.2.bounded

/-- What `begin_stage` leaves is an attempt of the next stage. -/
lemma Entering.begun {now:ℤ}(entering:Entering run stage c)(checked:c.checked=.ok c)
 (begun:Begun stage now c c') :
 c'.checked=.ok c' ∧ c'.row.nextStage=some stage ∧ 0<(c'.stages stage).attemptCount ∧
  ((c'.stages stage).status=.running ∨ (c'.stages stage).status=.waiting ∧
   (c'.stages stage).retryAt.any (fun retryAt=>decide (now<retryAt))=true):=by
 cases begun with
 | postponed status later =>
  have checks:=(Cycle.checked_iff.mp checked).2.1 stage
  exact ⟨checked,entering.next,StageRow.attempted checks (by simp[status]),.inr ⟨status,later⟩⟩
 | running status =>
  have checks:=(Cycle.checked_iff.mp checked).2.1 stage
  exact ⟨checked,entering.next,StageRow.attempted checks (by simp[status]),.inl status⟩
 | replayed status replay found waiting replays checked' =>
  have running:((c.replay stage now).stages stage).status=.running:=by simp[Cycle.replay]
  have checks:=(Cycle.checked_iff.mp checked').2.1 stage
  exact ⟨checked',entering.next,StageRow.attempted checks (by simp[running]),.inl running⟩
 | restarted unended stopped fresh checked' =>
  have running:((c.restart stage now).stages stage).status=.running:=by simp[Cycle.restart]
  have checks:=(Cycle.checked_iff.mp checked').2.1 stage
  exact ⟨checked',rfl,StageRow.attempted checks (by simp[running]),.inl running⟩

lemma Working.finished {result:ActionResult}{proposal:Option Proposal}{now:ℤ}
 (working:Working run stage c)(finished:Finished stage result proposal now c c')
 (ends:result.ends):Inside run snap c' where
 running other current _ running:=by
  rw[working.current] at current
  cases current
  rw[finished.stageStatus] at running
  exact absurd running ends.2
 suppressed idle _:=by
  have:=working.attempted
  rcases idle with idle|idle
  · rw[working.current] at idle
    cases idle
  · omega

lemma Inside.later (inside:Inside run snap c){now:ℤ}:Inside {run with now} snap c:=
 ⟨inside.running,inside.suppressed⟩

lemma Inside.ended {final:Status}(inside:Inside run snap c)(ended:Ended final c c')
 (next:final.terminal=true→c.row.nextStage=none)
 (suppressed:final=.suppressed→c.row.status=.suppressed):Inside run snap c' where
 running stage current attempted running:=by
  rw[ended.stages] at running
  have hnext:=inside.running stage current attempted running
  rw[ended.nextStage]
  split
  · rename_i terminal
    rw[next terminal] at hnext
    cases hnext
  · exact hnext
 suppressed idle hsuppressed:=by
  rw[ended.status] at hsuppressed
  exact inside.suppressed idle (suppressed hsuppressed)

lemma Agrees.turned (checked:c.checked=.ok c)(agrees:Agrees run snap c point)
 (turn:Turn configs run snap choice point c c' run' point') :
 c'.checked=.ok c' ∧ Agrees run' snap c' point' ∧ (point.guarded=true→Inside run snap c'):=by
 cases turn with
 | enter next =>
  have entering:Entering (run.enter _).1 _ c:=⟨rfl,rfl,agrees.2.2.trans next⟩
  exact ⟨checked,entering,fun _=>agrees.1⟩
 | leave next ended=>exact ⟨checked,trivial,fun _=>agrees.1⟩
 | conclude next unended =>
  refine ⟨checked,⟨agrees.1,fun hsuppressed=>?_⟩,fun _=>agrees.1⟩
  rw[←agrees.2.1,hsuppressed] at unended
  cases unended
 | complete h =>
  have ended:=finishCycle_ok h
  have inside:Inside run snap c':=agrees.1.ended ended (fun _=>ended.complete rfl) nofun
  exact ⟨ended.checked,inside,fun _=>inside⟩
 | loop =>
  have inside:Inside run snap c:=Agrees.inside checked agrees rfl
  refine ⟨checked,?_,fun _=>inside⟩
  split
  · exact ⟨agrees.attempt,unsuppressed checked agrees.next⟩
  · exact ⟨agrees.current,agrees.attempt,agrees.next⟩
 | begin h =>
  obtain ⟨rfl,begun⟩:=beginStage_ok h
  obtain ⟨checked',next,attempted,status⟩:=agrees.begun checked begun
  have entering:Entering run _ c':=⟨agrees.current,agrees.attempt,next⟩
  exact ⟨checked',⟨⟨agrees.current,rfl,attempted,next⟩,rfl,status⟩,fun _=>entering.inside checked'⟩
 | postpone=>exact ⟨checked,trivial,fun _=>agrees.1.inside⟩
 | unauthorized due =>
  obtain ⟨attempting,rfl,running|waiting⟩:=agrees
  · exact ⟨checked,⟨⟨attempting,running⟩,nofun,nofun⟩,fun _=>attempting.inside⟩
  · exact absurd waiting due
 | noted due =>
  obtain ⟨attempting,rfl,running|waiting⟩:=agrees
  · exact ⟨checked,⟨attempting,running⟩,fun _=>attempting.inside⟩
  · exact absurd waiting due
 | refused h accepted =>
  obtain ⟨-,-,reserved,same|checked'⟩:=reserveStageCost_ok h
  · subst same
    exact ⟨checked,⟨agrees,nofun,nofun⟩,fun _=>agrees.toAttempting.inside⟩
  · have working:=agrees.alike reserved.alike
    exact ⟨checked',⟨working,nofun,nofun⟩,fun _=>working.toAttempting.inside⟩
 | reserved h accepted unbound =>
  obtain ⟨-,-,reserved,same|checked'⟩:=reserveStageCost_ok h
  · subst same
    exact ⟨checked,agrees,fun _=>agrees.toAttempting.inside⟩
  · have working:=agrees.alike reserved.alike
    exact ⟨checked',working,fun _=>working.toAttempting.inside⟩
 | replayed h accepted bound =>
  obtain ⟨-,-,reserved,same|checked'⟩:=reserveStageCost_ok h
  · subst same
    exact ⟨checked,agrees_proposed agrees,fun _=>agrees.toAttempting.inside⟩
  · have working:=agrees.alike reserved.alike
    exact ⟨checked',agrees_proposed working,fun _=>working.toAttempting.inside⟩
 | propose=>exact ⟨checked,agrees,fun _=>agrees.toAttempting.inside⟩
 | @bind c c' stage r proposal bound h =>
  obtain ⟨-,-,-,attempt,-,-,-,⟨rfl,-⟩|⟨rfl,-,checked'⟩⟩:=bindStageProposal_ok h
  · exact ⟨checked,agrees_proposed agrees,fun _=>agrees.toAttempting.inside⟩
  · have working:=agrees.alike (alike_bound c stage run.currentAttempt proposal run.now)
    exact ⟨checked',agrees_proposed working,fun _=>working.toAttempting.inside⟩
 | execute =>exact ⟨checked,⟨agrees,ends_settled _ _ _ _⟩,fun _=>agrees.toAttempting.inside⟩
 | beat=>exact ⟨checked,agrees,fun _=>agrees.1.toAttempting.inside⟩
 | succeed h status after =>
  have finished:=finishStage_ok h
  have inside:Inside run snap c':=agrees.1.finished finished agrees.2
  refine ⟨finished.checked,⟨rfl,rfl,?_⟩,fun _=>inside⟩
  rw[finished.nextStage,status]
  exact after
 | «end» h status after =>
  have finished:=finishStage_ok h
  have inside:Inside run snap c':=agrees.1.finished finished agrees.2
  refine ⟨finished.checked,⟨inside.later,?_,?_⟩,fun _=>inside⟩
  · rw[finished.nextStage,status]
    exact after
  · rw[finished.status,if_pos status]
    nofun
 | halt h status =>
  have finished:=finishStage_ok h
  have inside:Inside run snap c':=agrees.1.finished finished agrees.2
  refine ⟨finished.checked,⟨inside.later,?_,agrees.2,status,fun hsuppressed=>?_⟩,fun _=>inside⟩
  · rw[finished.status,if_neg status]
  · rw[finished.nextStage,hsuppressed]
    rfl
 | stop h =>
  have ended:=finishCycle_ok h
  obtain ⟨inside,status,ends,unfinished,next⟩:=agrees
  have inside:Inside run snap c':=by
   refine inside.ended ended (fun terminal=>?_) (status.trans ·)
   rcases Status.terminal_iff.mp terminal with succeeded|suppressed
   · exact absurd succeeded unfinished
   · exact next suppressed
  exact ⟨ended.checked,inside,fun _=>inside⟩
 | timeUp h =>
  have ended:=finishCycle_ok h
  have inside:Inside run snap c:=Agrees.inside checked agrees rfl
  have inside:Inside run snap c':=inside.ended ended nofun nofun
  exact ⟨ended.checked,inside,fun _=>inside⟩
 | close h =>
  have ended:=finishCycle_ok h
  have inside:Inside run snap c':=agrees.1.ended ended (fun _=>ended.complete rfl) nofun
  exact ⟨ended.checked,inside,fun _=>inside⟩
 | record=>exact ⟨checked,trivial,fun _=>agrees⟩
 | interrupted h =>
  have finished:=finishStage_ok h
  refine ⟨finished.checked,?_,nofun⟩
  change c'.row.status≠.suppressed
  rw[finished.status]
  nofun
 | interruptedCycle h=>exact ⟨(finishCycle_ok h).checked,trivial,nofun⟩
 | failed h =>
  have finished:=finishStage_ok h
  refine ⟨finished.checked,fun hsuppressed=>?_,nofun⟩
  rw[finished.status] at hsuppressed
  cases hsuppressed
 | failedCycle h=>exact ⟨(finishCycle_ok h).checked,trivial,nofun⟩
 | recordFault=>exact ⟨checked,trivial,nofun⟩

lemma snapshot_ok (h:c.snapshot=.ok snap) :
 snap=⟨c.row.status,c.row.nextStage,c.row.spentCost⟩ ∧ 0≤c.row.spentCost ∧ c.row.spentCost≤50:=by
 unfold Cycle.snapshot at h
 split at h
 · rename_i shown
   cases h
   exact ⟨rfl,shown⟩
 · cases h

lemma agrees_resumed {ref:CycleRef}(entered:run.currentStage=none)
 (shown:c.snapshot=.ok snap):Agrees {run with cycle:=some (ref,snap)} snap c .greet:=by
 obtain ⟨rfl,-⟩:=snapshot_ok shown
 refine ⟨⟨fun stage current=>?_,fun _ hsuppressed=>hsuppressed⟩,rfl,rfl⟩
 change run.currentStage=some stage at current
 rw[entered] at current
 cases current

lemma Turn.late (turn:Turn configs run snap choice point c c' run' point') : point.early=false:=by
 cases turn <;> rfl

lemma agrees_upkeep {F:CycleRef→Prop}{R:CycleRef→Cycle→Prop}
 {G:Run→CycleSnapshot→Choice→Point→Cycle→Prop}
 (created:∀ {ref:CycleRef}(now:ℤ),F ref→R ref (createCycle now))
 (checked:∀ {ref:CycleRef}{c:Cycle},R ref c→c.checked=.ok c)
 (turned:∀ {ref:CycleRef}{run run':Run}{snap:CycleSnapshot}{choice:Choice}
  {point point':Point}{c c':Cycle},ref.configFingerprint=run.configFingerprint →
  R ref c→Agrees run snap c point→G run snap choice point c →
  Turn configs run snap choice point c c' run' point'→c'.checked=.ok c'→R ref c') :
 Upkeep configs F R Agrees G where
 created:=created
 resumed entered _ shown:=agrees_resumed entered shown
 turned _ fingerprint kept agrees guarded turn:=by
  obtain ⟨checked',agrees',inside⟩:=agrees.turned (checked kept) turn
  exact ⟨turned fingerprint kept agrees guarded turn checked',agrees',fun fault thrown hraised=>
   agrees_raised_of_inside inside turn.late hraised⟩
 raised late kept agrees hraised:=
  agrees_raised_of_inside (agrees.inside (checked kept)) late hraised

end Agreement

end Kivou.AcquisitionRuntime
