import Kivou.RuntimeResumption

set_option autoImplicit false

/-! An abandonment takes no lease, so a run over the cycle may write its own view back. -/
namespace Kivou.AcquisitionRuntime
open PythonValues

def Point.idle:Point→Bool
 | .recordFault _=>true
 | .release=>true
 | _=>false

def Unrevived (_:Run)(snap:CycleSnapshot)(_:Choice)(point:Point)(_:Cycle):Prop:=
 point=.failedCycle→snap.status≠.suppressed

def Unhindered (w:World)(e:Event):Prop:=Guarded Unrevived w e ∧
  ∀ref reason clock s,e=.abandon ref reason clock →
   abandonCycle ref reason clock w.store=.ok (s,true) →
   ∀p run point snap,w.runs p=some (run,point) → run.cycle=some (ref,snap) →
    run.fencingToken=w.store.lease.generation→point.idle=true

section Abandonment
variable {configs:String → Config}{run run':Run}{choice:Choice}{point point':Point}
 {snap:CycleSnapshot}{c c':Cycle}{ref:CycleRef}{w:World}

/-- The holder of the lease cannot write the abandoned cycle `c`. -/
def Dormant (ref:CycleRef)(run:Run)(snap:CycleSnapshot)(_:Cycle)(point:Point):Prop:=
 run.cycle=some (ref,snap)→point.idle=true ∨
  snap.status=.suppressed ∧ snap.nextStage=none ∧ run.currentStage=none ∧
   (point=.greet ∨ point=.failedCycle)

lemma dormant_raised {fault:Fault}{thrown:Point}(dormant:Dormant ref run snap c point)
 (h:raised run point fault=some (run,thrown)):Dormant ref run snap c' thrown:=by
 intro hcycle
 rcases dormant hcycle with idle|⟨status,next,current,rfl|rfl⟩
 · cases point <;> cases idle
   · cases h
     exact .inl rfl
   · cases h
 · cases h
   cases fault with
   | baseException=>exact .inl rfl
   | interruptedError =>
    simp only[Run.raise,hcycle,current]
    exact .inl rfl
   | exception =>
    simp only[Run.raise,hcycle,current]
    exact .inr ⟨status,next,trivial,.inr trivial⟩
 · cases h
   exact .inl rfl

variable (configs ref) in
lemma dormant_upkeep (kept:Cycle)(status:kept.row.status=.suppressed)
 (next:kept.row.nextStage=none) :
 Upkeep configs (· ≠ ref) (fun other c=>other=ref→c=kept) (Dormant ref) Unrevived where
 created now fresh same:=absurd same fresh
 resumed entered same shown hcycle:=by
  cases hcycle
  obtain ⟨rfl,-⟩:=snapshot_ok shown
  rw[same rfl]
  exact .inr ⟨status,next,entered,.inl rfl⟩
 turned:=by
  intro other run run' snap choice point point' c c' hcycle _ same dormant guarded turn
  have here:other=ref→c'=c ∧ Dormant ref run' snap c' point':=by
   rintro rfl
   rcases dormant hcycle with idle|⟨status,next,current,rfl|rfl⟩
   · cases turn <;> cases idle
     exact ⟨rfl,fun _=>.inl rfl⟩
   · cases turn with
     | enter some =>
      rw[next] at some
      cases some
     | leave=>exact ⟨rfl,fun _=>.inl rfl⟩
     | conclude _ unended =>
      rw[status] at unended
      cases unended
   · exact absurd status (guarded rfl)
  refine ⟨fun href=>(here href).1.trans (same href),fun hcycle'=>?_,fun fault thrown=>?_⟩
  · obtain ⟨-,cycle,-,-⟩:=turn.same
    rw[cycle,hcycle] at hcycle'
    exact (here (Prod.mk.inj (Option.some.inj hcycle')).1).2 (cycle.trans (by rw[hcycle,hcycle']))
  · exact dormant_raised dormant
 raised late same dormant hraised:=dormant_raised dormant hraised

lemma abandonRows_taken {now:ℤ}(h:abandonRows now c=(c',true)) :
 c'.row.status=.suppressed ∧ c'.row.nextStage=none:=by
 unfold abandonRows at h
 split at h <;> cases h
 exact ⟨rfl,rfl⟩

lemma abandonRows_ended {now:ℤ}{taken:Bool}(ended:c.row.status.terminal=true)
 (h:abandonRows now c=(c',taken)):c'=c ∧ taken=false:=by
 rw[abandonRows,if_pos ended] at h
 cases h
 exact ⟨rfl,rfl⟩

lemma stays_abandoned (kept:Cycle)(status:kept.row.status=.suppressed)
 (next:kept.row.nextStage=none){events:List Event}
 (unhindered:Runs.Along (step configs) Unhindered w events)(fenced:Fenced w)
 (start:Kept (· ≠ ref) (fun other c=>other=ref→c=kept) (Dormant ref) w) :
 (events.foldl (step configs) w).store.cycles ref=some kept:=by
 have keep:=dormant_upkeep configs ref kept status next
 have stays:Fenced (events.foldl (step configs) w) ∧
   Kept (· ≠ ref) (fun other c=>other=ref→c=kept) (Dormant ref) (events.foldl (step configs) w):=by
  refine unhindered.invariant (fun w=>Fenced w ∧ Kept (· ≠ ref)
   (fun other c=>other=ref→c=kept) (Dormant ref) w) ?_ ⟨fenced,start⟩
  intro w e ⟨fenced,held⟩ ok
  refine ⟨fenced.next e,?_⟩
  cases e with
  | abandon other reason clock =>
   have ended:∀c,w.store.cycles other=some c → other=ref →c=kept ∧ c.row.status.terminal=true:=by
    intro c hc href
    obtain rfl:=held.stored hc href
    exact ⟨rfl,by rw[status];rfl⟩
   refine held.abandoned (fun c c' taken hc hrows _ href=>?_) ?_
   · obtain ⟨same,terminal⟩:=ended c hc href
     exact (abandonRows_ended terminal hrows).1.trans same
   · intro c c' p run point snap hc hrows _ _ hcycle _ hcycle'
     have href:other=ref:=(Prod.mk.inj (Option.mem_unique hcycle hcycle')).1
     cases (abandonRows_ended (ended c hc href).2 hrows).2
  | _=>exact held.next keep fenced rfl ok.1
 cases hc:(events.foldl (step configs) w).store.cycles ref with
 | none=>exact absurd rfl (stays.2.fresh hc)
 | some c=>rw[stays.2.stored hc rfl]

lemma abandoned_rows {reason:String}{clock:ℤ}{s:Store} (ok:Unhindered w (.abandon ref reason clock))
 (taken:abandonCycle ref reason clock w.store=.ok (s,true)) :
 ∃c,s.cycles ref=some c ∧ c.row.status=.suppressed ∧ c.row.nextStage=none ∧
  Kept (· ≠ ref) (fun other c'=>other=ref→c'=c) (Dormant ref)
   (step configs w (.abandon ref reason clock)):=by
 obtain ⟨c,c',hc,hrows,-,rfl⟩:=abandonCycle_ok taken
 obtain ⟨status,next⟩:=abandonRows_taken hrows
 have hstep:step configs w (.abandon ref reason clock)={w with store:=w.store.put ref c'}:=by
  simp only[step,taken]
 refine ⟨c',by simp,status,next,?_⟩
 rw[hstep]
 refine ⟨fun {other} hnone href=>?_,fun {other c₀} hc₀ href=>?_,?_⟩
 · subst href
   simp at hnone
 · subst href
   change (w.store.put other c').cycles other=some c₀ at hc₀
   rw[Store.put_cycles,Function.update_self] at hc₀
   exact (Option.some.inj hc₀).symm
 · intro p run point other snap c₀ hrun hcycle token _ hcycle'
   cases hcycle.symm.trans hcycle'
   exact .inl (ok.2 ref reason clock _ rfl taken p run point snap hrun hcycle token)

def Cycle.Truthful (c:Cycle):Prop:=c.checked=.ok c ∧ (c.row.status≠.suppressed →
  (∃n,c.InOrder n) ∧ ∀stage,(c.stages stage).status≠.suppressed)

lemma unsuppressed_turned (checked:c.checked=.ok c)(agrees:Agrees run snap c point)
 (unrevived:Unrevived run snap choice point c)
 (turn:Turn configs run snap choice point c c' run' point')
 (unsuppressed':c'.row.status≠.suppressed):c.row.status≠.suppressed:=by
 cases turn with
 | complete | timeUp=>exact agrees.2
 | close h=>exact agrees.2.2
 | begin h | refused h | reserved h | replayed h | bind h=>exact unsuppressed checked agrees.next
 | succeed h | «end» h | halt h=>exact unsuppressed checked agrees.1.next
 | stop h =>
  rw[(finishCycle_ok h).status] at unsuppressed'
  rwa[agrees.2.1]
 | interrupted h | failed h=>exact unsuppressed checked (agrees (finishStage_ok h).running)
 | interruptedCycle h=>exact agrees
 | failedCycle h=>exact fun hsuppressed=>unrevived rfl (agrees hsuppressed)
 | _=>exact unsuppressed'

lemma unsuppressedStages_turned (turn:Turn configs run snap choice point c c' run' point')
 (unsuppressed':c'.row.status≠.suppressed)
 (stages:∀stage,(c.stages stage).status≠.suppressed) :
 ∀stage,(c'.stages stage).status≠.suppressed:=by
 have finished:∀ {stage:Stage}{result:ActionResult}{proposal:Option Proposal}{now:ℤ},
   Finished stage result proposal now c c'→∀stage,(c'.stages stage).status≠.suppressed:=by
  intro stage result proposal now finished other
  by_cases same:other=stage
  · subst same
    rw[finished.stageStatus]
    intro hsuppressed
    rw[finished.status,hsuppressed] at unsuppressed'
    exact unsuppressed' rfl
  · rw[finished.others other same]
    exact stages other
 have ended:∀ {final:Status},Ended final c c' →∀stage,(c'.stages stage).status≠.suppressed:=by
  intro final ended
  rwa[ended.stages]
 have alike:Alike c c'→∀stage,(c'.stages stage).status≠.suppressed:=by
  intro alike stage
  rw[alike.stageStatus]
  exact stages stage
 cases turn with
 | @begin c c' stage snapshot h =>
  intro other
  have begun:=(beginStage_ok h).2
  by_cases same:other=stage
  · subst same
    cases begun with
    | postponed | running=>exact stages other
    | replayed=>simp[Cycle.replay]
    | restarted=>simp[Cycle.restart]
  · cases begun with
    | postponed | running=>exact stages other
    | replayed=>simpa[Cycle.replay,same] using stages other
    | restarted=>simpa[Cycle.restart,same] using stages other
 | refused h | reserved h | replayed h=>exact alike (reserveStageCost_ok h).2.2.1.alike
 | @bind c c' stage r proposal bound h =>
  obtain ⟨-,-,-,attempt,-,-,-,⟨rfl,-⟩|⟨rfl,-⟩⟩:=bindStageProposal_ok h
  · exact stages
  · exact alike (alike_bound c stage run.currentAttempt proposal run.now)
 | succeed h | «end» h | halt h | interrupted h | failed h=>exact finished (finishStage_ok h)
 | complete h | close h | stop h | timeUp h | interruptedCycle h | failedCycle h =>
  exact ended (finishCycle_ok h)
 | _=>exact stages

lemma truthful_upkeep : Upkeep configs (fun _=>True) (fun _=>Cycle.Truthful) Agrees Unrevived:=
 agrees_upkeep (fun now _=>⟨rfl,fun _=>⟨⟨0,inOrder_createCycle now⟩,fun _=>nofun⟩⟩)
  (fun truthful=>truthful.1) fun _ truthful agrees unrevived turn checked=>
   ⟨checked,fun unsuppressed'=>
    have kept:=truthful.2 (unsuppressed_turned truthful.1 agrees unrevived turn unsuppressed')
    ⟨inOrder_turned agrees turn kept.1,unsuppressedStages_turned turn unsuppressed' kept.2⟩⟩

lemma agrees_idle (idle:point.idle=true):Agrees run snap c point:=by
 cases point <;> cases idle <;> trivial

lemma Cycle.Truthful.complete (truthful:c.Truthful)(succeeded:c.row.status=.succeeded) :
 ∀stage,(c.stages stage).status=.succeeded:=by
 obtain ⟨⟨n,ordered⟩,unsuppressed⟩:=truthful.2 (by rw[succeeded];nofun)
 have next:c.row.nextStage=none:=by
  cases hnext:c.row.nextStage with
  | none=>rfl
  | some stage =>
   have unended:=CycleRow.unended (Cycle.checked_iff.mp truthful.1).1 hnext
   rw[succeeded] at unended
   cases unended
 intro stage
 refine (ordered.succeeded stage).mpr ?_
 by_contra later
 have less:n<Stage.all.length:=
  lt_of_le_of_lt (not_lt.mp later) (List.getElem?_eq_some_iff.mp stage.all_index).1
 have here:=ordered.next_of_here (Stage.index_of_all (List.getElem?_eq_getElem less))
  (unsuppressed _)
 rw[next] at here
 cases here

lemma truthful_reached {events:List Event}
 (unhindered:Runs.Along (step configs) Unhindered World.empty events) :
 Fenced (reached configs events) ∧
  Kept (fun _=>True) (fun _=>Cycle.Truthful) Agrees (reached configs events):=by
 refine unhindered.invariant (fun w=>Fenced w ∧
  Kept (fun _=>True) (fun _=>Cycle.Truthful) Agrees w) ?_
  ⟨Fenced.empty,Kept.empty fun _=>trivial⟩
 intro w e ⟨fenced,kept⟩ ok
 refine ⟨fenced.next e,?_⟩
 cases e with
 | abandon ref reason clock =>
  refine kept.abandoned (fun c c' taken hc hrows checked=>⟨checked,fun unsuppressed=>?_⟩) ?_
  · cases taken with
    | true=>exact absurd (abandonRows_taken hrows).1 unsuppressed
    | false =>
     have same:c'=c:=by
      unfold abandonRows at hrows
      split at hrows <;> cases hrows
      rfl
     subst same
     exact (kept.stored hc).2 unsuppressed
  · intro c c' p run point snap hc hrows taken hrun hcycle token
    exact agrees_idle (ok.2 ref reason clock _ rfl taken p run point snap hrun hcycle token)
 | _=>exact kept.next truthful_upkeep fenced rfl ok.1

end Abandonment

/-- Where no run may still write a cycle that is abandoned, and none revives a
suppressed one, an abandoned cycle keeps its rows for ever, and a cycle is
succeeded only with all of its stages. -/
theorem abandonment_is_final (configs:String → Config)(events:List Event)
 (unhindered:Runs.Along (step configs) Unhindered World.empty events) :
 (∀before ref reason clock after s,events=before++.abandon ref reason clock::after →
  abandonCycle ref reason clock (reached configs before).store=.ok (s,true) →
  ∃c,s.cycles ref=some c ∧ c.row.status=.suppressed ∧
   (reached configs events).store.cycles ref=some c) ∧
 ∀ref c,(reached configs events).store.cycles ref=some c→c.row.status=.succeeded →
  ∀stage,(c.stages stage).status=.succeeded:=by
 constructor
 · rintro before ref reason clock after s rfl taken
   obtain ⟨-,here,later⟩:=(Runs.along_append _ before _).mp unhindered
   obtain ⟨c,hc,status,next,kept⟩:=abandoned_rows here taken
   refine ⟨c,hc,status,?_⟩
   have stays:=stays_abandoned c status next later ((fenced_reached before).next _) kept
   rwa[reached,List.foldl_append,List.foldl_cons]
 · intro ref c hc succeeded
   exact ((truthful_reached unhindered).2.stored hc).complete succeeded

def takes (answer:Except Failure (Store × Bool)):Bool:=
 match answer with
 | .ok (_,taken)=>taken
 | .error _=>false

lemma takes_iff {answer:Except Failure (Store × Bool)} :
 takes answer=true ↔ ∃s,answer=.ok (s,true):=by
 unfold takes
 split
 · rename_i s taken
   simp
 · simp

/-- The result of the stage is written over the abandonment. -/
theorem abandonment_is_overwritten :
 ¬∀ (configs:String → Config)(before:List Event)(ref:CycleRef)(reason:String)
  (clock:ℤ)(after:List Event)(s:Store),
  abandonCycle ref reason clock (reached configs before).store=.ok (s,true) →
  ∀c,(reached configs (before++.abandon ref reason clock::after)).store.cycles ref=some c →
   c.row.status=.suppressed:=by
 intro claim
 have taken:takes (abandonCycle ⟨"config","key"⟩ "stop" 0
   (reached (fun _=>sampleConfig) executedRun).store)=true:=by decide +kernel
 obtain ⟨s,hs⟩:=takes_iff.mp taken
 have overwritten:((reached (fun _=>sampleConfig) (executedRun++.abandon ⟨"config","key"⟩ "stop" 0 ::
   List.replicate 2 (.step 0 (sampleChoice .signalSeed ⟨_,succeeded_accepted⟩)))).store.cycles
    ⟨"config","key"⟩).map (fun c=>c.row.status)=some .running:=by decide +kernel
 obtain ⟨c,hc,running⟩:=Option.map_eq_some_iff.mp overwritten
 have suppressed:=claim (fun _=>sampleConfig) executedRun _ _ _ _ s hs c hc
 rw[running] at suppressed
 cases suppressed

def crashedRun:List Event:=.start 0 "worker" "config" ["key"] true true 0 0 ::
  (List.replicate 2 (.step 0 (sampleChoice .signalSeed ⟨_,succeeded_accepted⟩))++[.crash 0])

lemma crashedRun_ends (p:ℕ):(reached (fun _=>sampleConfig) crashedRun).runs p=none:=by
 by_cases here:p=0
 · subst here
   rfl
 · have others:∀e∈crashedRun,e.process=some 0:=by decide
   have along:Runs.Along (step fun _=>sampleConfig) (fun _ e=>e.process=some 0) World.empty
     crashedRun:=Runs.along_of_mem World.empty fun e he _=>others e he
   have idle:=along.invariant (fun w=>w.runs p=none) ?_ rfl
   · exact idle
   · intro w e hnone process
     rw[step_runs_other w (by rw[process];exact fun h=>here (Option.some.inj h).symm)]
     exact hnone

def steady (w:World):Event→Bool
 | .step p _=>(w.runs p).all fun run=>run.2 != .failedCycle
 | .abandon _ _ _=>false
 | _=>true

lemma unhindered_of_steady (w:World)(e:Event)(h:steady w e=true):Unhindered w e:=by
 constructor
 · rintro p choice run point ref snap c rfl hrun - - rfl
   simp[steady,hrun] at h
 · rintro ref reason clock s rfl
   cases h

lemma crashedRun_unhindered:Runs.Along (step fun _=>sampleConfig) Unhindered World.empty
 (crashedRun++[.abandon ⟨"config","key"⟩ "stop" 0]):=by
 have steps:Runs.Along (step fun _=>sampleConfig) (fun w e=>steady w e=true) World.empty
   crashedRun:=by decide +kernel
 refine (Runs.along_append _ _ _).mpr ⟨steps.imp unhindered_of_steady,⟨?_,?_⟩,trivial⟩
 · intro p choice run point ref snap c he
   cases he
 · intro ref reason clock s _ _ p run point snap hrun
   have ends:=crashedRun_ends p
   rw[reached] at ends
   rw[ends] at hrun
   cases hrun

theorem abandonment_is_final_crashed : ∃c,(reached (fun _=>sampleConfig)
  (crashedRun++[.abandon ⟨"config","key"⟩ "stop" 0])).store.cycles ⟨"config","key"⟩=some c ∧
   c.row.status=.suppressed:=by
 have taken:takes (abandonCycle ⟨"config","key"⟩ "stop" 0
   (reached (fun _=>sampleConfig) crashedRun).store)=true:=by decide +kernel
 obtain ⟨s,hs⟩:=takes_iff.mp taken
 obtain ⟨c,-,suppressed,hc⟩:=(abandonment_is_final (fun _=>sampleConfig) _
  crashedRun_unhindered).1 crashedRun _ _ _ [] s rfl hs
 exact ⟨c,hc,suppressed⟩

end Kivou.AcquisitionRuntime
