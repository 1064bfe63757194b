import Kivou.RuntimeRunner

set_option autoImplicit false

/-! `Turn` lists once what each step of a run reads and writes on the rows of its cycle. -/
namespace Kivou.AcquisitionRuntime
open PythonValues

variable (configs:String → Config)

inductive Turn (run:Run)(snap:CycleSnapshot)(choice:Choice) : Point→Cycle→Cycle→Run→Point→Prop
 | enter {c:Cycle}{stage:Stage}(next:snap.nextStage=some stage) :
  Turn run snap choice .greet c c (run.enter stage).1 (run.enter stage).2
 | leave {c:Cycle}(next:snap.nextStage=none)(ended:snap.status.terminal=true) :
  Turn run snap choice .greet c c run .release
 | conclude {c:Cycle}(next:snap.nextStage=none)(unended:snap.status.terminal=false) :
  Turn run snap choice .greet c c run .complete
 | complete {c c':Cycle}(h:finishCycle .succeeded none run.now c=.ok c') :
  Turn run snap choice .complete c c' run .record
 | loop {c:Cycle}{stage:Stage} : Turn run snap choice (.loop stage) c c {run with now:=choice.clock}
   (if (run.config configs).maximumWallSeconds*1000000≤choice.clock-run.startedAt
    then .timeUp else .begin stage)
 | begin {c c':Cycle}{stage:Stage}{snapshot:StageSnapshot}
  (h:beginStage stage run.now c=.ok (c',snapshot)) :
  Turn run snap choice (.begin stage) c c' {run with currentAttempt:=snapshot.attemptCount}
   (.note stage snapshot)
 | postpone {c:Cycle}{stage:Stage}{snapshot:StageSnapshot} :
  Turn run snap choice (.note stage snapshot) c c run .release
 | unauthorized {c:Cycle}{stage:Stage}{snapshot:StageSnapshot} (due:¬(snapshot.status=.waiting ∧
   snapshot.retryAt.any (fun retryAt=>decide (run.now<retryAt))=true)) :
  Turn run snap choice (.note stage snapshot) c c run (.beat stage none unauthorizedResult)
 | noted {c:Cycle}{stage:Stage}{snapshot:StageSnapshot} (due:¬(snapshot.status=.waiting ∧
   snapshot.retryAt.any (fun retryAt=>decide (run.now<retryAt))=true)) :
  Turn run snap choice (.note stage snapshot) c c run (.reserve stage)
 | refused {c c':Cycle}{stage:Stage}{r:Reservation}
  (h:reserveStageCost stage run.currentAttempt stage.cost (run.config configs).maximumCycleCost
   run.now c=.ok (c',r))(accepted:r.accepted=false) :
  Turn run snap choice (.reserve stage) c c' run
   (.beat stage none (blockedResult "CYCLE_BUDGET_EXCEEDED"))
 | reserved {c c':Cycle}{stage:Stage}{r:Reservation}
  (h:reserveStageCost stage run.currentAttempt stage.cost (run.config configs).maximumCycleCost
   run.now c=.ok (c',r))(accepted:r.accepted=true)(unbound:r.proposal=none) :
  Turn run snap choice (.reserve stage) c c' run (.propose stage r)
 | replayed {c c':Cycle}{stage:Stage}{r:Reservation}{proposal:Proposal}
  (h:reserveStageCost stage run.currentAttempt stage.cost (run.config configs).maximumCycleCost
   run.now c=.ok (c',r))(accepted:r.accepted=true)(bound:r.proposal=some proposal) :
  Turn run snap choice (.reserve stage) c c' run (proposed stage r proposal)
 | propose {c:Cycle}{stage:Stage}{r:Reservation} :
  Turn run snap choice (.propose stage r) c c run (.bind stage r choice.proposal)
 | bind {c c':Cycle}{stage:Stage}{r:Reservation}{proposal bound:Proposal}
  (h:bindStageProposal stage run.currentAttempt proposal run.now c=.ok (c',bound)) :
  Turn run snap choice (.bind stage r proposal) c c' run (proposed stage r bound)
 | execute {c:Cycle}{stage:Stage}{r:Reservation}{proposal:Proposal} :
  Turn run snap choice (.execute stage r proposal) c c run (.beat stage (some proposal)
   (settled (run.config configs).maximumCycleCost r proposal choice.result.1))
 | beat {c:Cycle}{stage:Stage}{proposal:Option Proposal}{result:ActionResult} :
  Turn run snap choice (.beat stage proposal result) c c run
   (.finish stage proposal result choice.clock)
 | succeed {c c':Cycle}{stage next:Stage}{proposal:Option Proposal}{result:ActionResult}
  {checkpointAt:ℤ}(h:finishStage stage result proposal checkpointAt c=.ok c')
  (status:result.status=.succeeded)(after:stage.after=some next) :
  Turn run snap choice (.finish stage proposal result checkpointAt) c c'
   ({run with now:=checkpointAt}.enter next).1 ({run with now:=checkpointAt}.enter next).2
 | end {c c':Cycle}{stage:Stage}{proposal:Option Proposal}{result:ActionResult}
  {checkpointAt:ℤ}(h:finishStage stage result proposal checkpointAt c=.ok c')
  (status:result.status=.succeeded)(after:stage.after=none) :
  Turn run snap choice (.finish stage proposal result checkpointAt) c c'
   {run with now:=checkpointAt} .close
 | halt {c c':Cycle}{stage:Stage}{proposal:Option Proposal}{result:ActionResult}
  {checkpointAt:ℤ}(h:finishStage stage result proposal checkpointAt c=.ok c')
  (status:result.status≠.succeeded) :
  Turn run snap choice (.finish stage proposal result checkpointAt) c c'
   {run with now:=checkpointAt} (.stop result)
 | stop {c c':Cycle}{result:ActionResult}
  (h:finishCycle result.status result.reasonCodes.head? run.now c=.ok c') :
  Turn run snap choice (.stop result) c c' run .record
 | timeUp {c c':Cycle}
  (h:finishCycle .waiting (some "CYCLE_TIME_BUDGET_REACHED") run.now c=.ok c') :
  Turn run snap choice .timeUp c c' run .record
 | close {c c':Cycle}(h:finishCycle .succeeded none run.now c=.ok c') :
  Turn run snap choice .close c c' run .record
 | record {c:Cycle}:Turn run snap choice .record c c run .release
 | interrupted {c c':Cycle}{stage:Stage}
  (h:finishStage stage (waitingResult choice.clock) none choice.clock c=.ok c') :
  Turn run snap choice (.interrupted stage) c c' run (.interruptedCycle choice.clock)
 | interruptedCycle {c c':Cycle}{checkpointAt:ℤ}
  (h:finishCycle .waiting (some "CURRENT_RUN_INTERRUPTED") checkpointAt c=.ok c') :
  Turn run snap choice (.interruptedCycle checkpointAt) c c' run (.recordFault checkpointAt)
 | failed {c c':Cycle}{stage:Stage} (h:finishStage stage failedResult none run.now c=.ok c') :
  Turn run snap choice (.failed stage) c c' run .failedCycle
 | failedCycle {c c':Cycle}
  (h:finishCycle .failed (some "CURRENT_RUN_TECHNICAL_FAILURE") run.now c=.ok c') :
  Turn run snap choice .failedCycle c c' run (.recordFault run.now)
 | recordFault {c:Cycle}{now:ℤ}:Turn run snap choice (.recordFault now) c c run .release

def Point.early:Point→Bool
 | .observe=>true
 | .resume=>true
 | _=>false

section Inversion
variable {configs}{run:Run}{choice:Choice}{s s':Store}{ref:CycleRef} {snap:CycleSnapshot}{c:Cycle}

def Run.holds (run:Run)(s:Store)(observedAt:ℤ):Prop:=
 s.lease.heldBy run.ownerRef run.fencingToken observedAt=true

variable {owner:String}{token:ℕ}{observedAt now:ℤ}

lemma requireActiveLease_ok {u:Unit} (h:requireActiveLease s owner token observedAt=.ok u) :
 s.lease.heldBy owner token observedAt=true:=by
 unfold requireActiveLease at h
 split at h
 · assumption
 · cases h

lemma Run.onCycle_ok {α:Type}{f:Cycle→Except Failure (Cycle × α)}{a:α}
 (hcycle:run.cycle=some (ref,snap))(hc:s.cycles ref=some c)
 (h:run.onCycle observedAt s f=.ok (s',a)) :
 run.holds s observedAt ∧ ∃c',f c=.ok (c',a) ∧ s'=s.put ref c':=by
 simp only[Run.onCycle,hcycle] at h
 obtain ⟨u,lease,h⟩:=bind_ok.mp h
 simp only[Store.onCycle,hc] at h
 obtain ⟨⟨c',a'⟩,hf,h⟩:=bind_ok.mp h
 cases h
 exact ⟨requireActiveLease_ok lease,c',hf,rfl⟩

lemma Run.write_ok {f:Cycle→Except Failure Cycle}{u:Unit}
 (hcycle:run.cycle=some (ref,snap))(hc:s.cycles ref=some c)
 (h:run.write observedAt s f=.ok (s',u)) :
 run.holds s observedAt ∧ ∃c',f c=.ok c' ∧ s'=s.put ref c':=by
 obtain ⟨held,c',hf,rfl⟩:=Run.onCycle_ok hcycle hc h
 obtain ⟨written,hwritten,hpair⟩:=bind_ok.mp hf
 cases hpair
 exact ⟨held,c',hwritten,rfl⟩

lemma recordRuntimeObservation_ok (h:recordRuntimeObservation now s=.ok s') :
 s'={s with heartbeatAt:=some now}:=by
 unfold recordRuntimeObservation at h
 split at h
 · cases h;rfl
 · cases h

lemma recordCycleObservation_ok (h:recordCycleObservation ref now s=.ok s') :
 s'={s with heartbeatAt:=some now}:=by
 unfold recordCycleObservation at h
 split at h
 · cases h
 · cases h
 · repeat' split at h
   all_goals cases h
   rfl

lemma Run.recordCycle_ok (h:run.recordCycle observedAt now s=.ok s') :
 s'={s with heartbeatAt:=some now}:=by
 unfold Run.recordCycle at h
 split at h
 · cases h
 · obtain ⟨u,lease,h⟩:=bind_ok.mp h
   exact recordCycleObservation_ok h

lemma heartbeatLease_ok {seconds:ℤ}{lease lease':Lease}
 (h:heartbeatLease owner token observedAt seconds lease=.ok lease') :
 lease.heldBy owner token observedAt=true ∧ lease'.generation=lease.generation:=by
 unfold heartbeatLease at h
 split at h
 · cases h;exact ⟨by assumption,rfl⟩
 · cases h

@[simp] lemma releaseLease_generation (owner:String)(token:ℕ)(lease:Lease) :
 (releaseLease owner token lease).generation=lease.generation:=by
 unfold releaseLease
 split <;> rfl

lemma Lease.generation_of_heldBy {lease:Lease}
 (h:lease.heldBy owner token observedAt=true):lease.generation=token:=by
 simp only[Lease.heldBy,Bool.and_eq_true,beq_iff_eq] at h
 exact h.1.2

@[simp] lemma Store.put_cycles (s:Store)(ref:CycleRef)(c:Cycle) :
 (s.put ref c).cycles=Function.update s.cycles ref (some c):=rfl
@[simp] lemma Store.put_lease (s:Store)(ref:CycleRef)(c:Cycle) : (s.put ref c).lease=s.lease:=rfl

lemma cycles_of_eq (hc:s.cycles ref=some c) : s.cycles=Function.update s.cycles ref (some c):=
 (Function.update_eq_self_iff.mpr hc.symm).symm

end Inversion

def Run.located (run:Run)(point:Point)(s:Store):Prop:=
 match run.cycle with
 | none=>(point.early=true ∨ point=.release) ∧ run.currentStage=none
 | some (ref,_)=>point.early=false ∧ (s.cycles ref).isSome=true ∧
   ref.configFingerprint=run.configFingerprint

inductive Performed (run:Run)(choice:Choice)(s:Store) : Point→Store→Option (Run × Point)→Prop
 | observed {s':Store}{point:Point}(cycles:s'.cycles=s.cycles)
  (lease:s'.lease=s.lease)(next:point=.resume ∨ point=.release) :
  Performed run choice s .observe s' (some (run,point))
 | resumed {ref:CycleRef}{c:Cycle}{snap:CycleSnapshot}(entered:run.currentStage=none)
  (fingerprint:ref.configFingerprint=run.configFingerprint)(hc:s.cycles ref=some c)
  (shown:c.snapshot=.ok snap) :
  Performed run choice s .resume s (some ({run with cycle:=some (ref,snap)},.greet))
 | created {ref:CycleRef}{snap:CycleSnapshot}(entered:run.currentStage=none)
  (held:run.holds s choice.observedAt)
  (fingerprint:ref.configFingerprint=run.configFingerprint)(fresh:s.cycles ref=none)
  (shown:(createCycle run.now).snapshot=.ok snap) :
  Performed run choice s .resume (s.put ref (createCycle run.now))
   (some ({run with cycle:=some (ref,snap)},.greet))
 | released {s':Store}(cycles:s'.cycles=s.cycles) (lease:s'.lease.generation=s.lease.generation) :
  Performed run choice s .release s' none
 | turned {ref:CycleRef}{snap:CycleSnapshot}{c c':Cycle}{s':Store}{run':Run}
  {point point':Point}(hcycle:run.cycle=some (ref,snap))(hc:s.cycles ref=some c)
  (held:c'=c ∨ run.holds s choice.observedAt)
  (cycles:s'.cycles=Function.update s.cycles ref (some c'))
  (lease:s'.lease.generation=s.lease.generation)
  (turn:Turn configs run snap choice point c c' run' point') :
  Performed run choice s point s' (some (run',point'))

section Performing
variable {configs}{run:Run}{choice:Choice}{s s':Store}{ref:CycleRef} {snap:CycleSnapshot}{c:Cycle}

lemma resumeOrCreateCycle_ok {fingerprint:String}{keys:List String}{now:ℤ}
 (h:resumeOrCreateCycle fingerprint keys now s=.ok (s',ref,snap)) :
 ref.configFingerprint=fingerprint ∧ ((s'=s ∧ ∃c,s.cycles ref=some c ∧ c.snapshot=.ok snap) ∨
   (s.cycles ref=none ∧ s'=s.put ref (createCycle now) ∧
    (createCycle now).snapshot=.ok snap)):=by
 have stored:∀ {found:CycleRef},found∈keys.map (CycleRef.mk fingerprint) →
   found.configFingerprint=fingerprint:=by
  intro found hfound
  obtain ⟨key,-,rfl⟩:=List.mem_map.mp hfound
  rfl
 have shown:∀ {found:CycleRef},found∈keys.map (CycleRef.mk fingerprint) →
   (do let c ←(s.cycles found).elim (.error .keyError) .ok
       .ok (s,found,←c.snapshot):Except Failure (Store × CycleRef × CycleSnapshot)) =
    .ok (s',ref,snap) →
   ref.configFingerprint=fingerprint ∧ s'=s ∧ ∃c,s.cycles ref=some c ∧ c.snapshot=.ok snap:=by
  intro found hfound hshown
  obtain ⟨c,hc,hshown⟩:=bind_ok.mp hshown
  obtain ⟨shown,hsnap,hpair⟩:=bind_ok.mp hshown
  cases hpair
  cases hcycle:s.cycles ref with
  | none=>rw[hcycle] at hc;cases hc
  | some stored' =>
   rw[hcycle] at hc
   cases hc
   exact ⟨stored hfound,rfl,c,rfl,hsnap⟩
 simp only[resumeOrCreateCycle] at h
 split at h
 · rename_i found hfound
   obtain ⟨hfp,hs,hc⟩:=shown (List.mem_of_find?_eq_some hfound) h
   exact ⟨hfp,.inl ⟨hs,hc⟩⟩
 · split at h
   · rename_i found hfound
     obtain ⟨shown,hsnap,hpair⟩:=bind_ok.mp h
     cases hpair
     have fresh:=List.find?_some hfound
     exact ⟨stored (List.mem_of_find?_eq_some hfound),.inr ⟨by simpa using fresh,rfl,hsnap⟩⟩
   · split at h
     · cases h
     · rename_i found hfound
       obtain ⟨hfp,hs,hc⟩:=shown (List.mem_of_head? hfound) h
       exact ⟨hfp,.inl ⟨hs,hc⟩⟩

variable {run':Run}{point point':Point}

lemma Performed.unwritten (hcycle:run.cycle=some (ref,snap))
 (hc:s.cycles ref=some c)(cycles:s'.cycles=s.cycles)
 (lease:s'.lease.generation=s.lease.generation)
 (turn:Turn configs run snap choice point c c run' point') :
 Performed configs run choice s point s' (some (run',point')):=
 .turned hcycle hc (.inl rfl) (cycles.trans (cycles_of_eq hc)) lease turn

lemma Performed.written {c':Cycle} (hcycle:run.cycle=some (ref,snap))(hc:s.cycles ref=some c)
 (held:run.holds s choice.observedAt)
 (turn:Turn configs run snap choice point c c' run' point') :
 Performed configs run choice s point (s.put ref c') (some (run',point')):=
 .turned hcycle hc (.inr held) rfl rfl turn

lemma Performed.wrote {f:Cycle→Except Failure Cycle}{next:Option (Run × Point)}(hcycle:run.cycle=some (ref,snap))
 (hc:s.cycles ref=some c)
 (h:(do
  let (s',_) ←run.write choice.observedAt s f
  .ok (s',some (run',point')))=.ok (s',next))
 (turn:∀ {c'},f c=.ok c'→Turn configs run snap choice point c c' run' point') :
 Performed configs run choice s point s' next:=by
 obtain ⟨⟨s₁,u⟩,hs₁,h⟩:=bind_ok.mp h
 obtain ⟨held,c',hc',rfl⟩:=Run.write_ok hcycle hc hs₁
 cases h
 exact .written hcycle hc held (turn hc')

lemma perform_ok {next:Option (Run × Point)}(located:run.located point s)
 (h:perform configs run point choice s=.ok (s',next)) :
 Performed configs run choice s point s' next:=by
 cases hcycle:run.cycle with
 | none =>
  simp only[Run.located,hcycle] at located
  obtain ⟨located,entered⟩:=located
  cases point <;> first | (simp[Point.early] at located;done) | skip
  case observe =>
   simp only[perform] at h
   obtain ⟨u,lease,h⟩:=bind_ok.mp h
   obtain ⟨s₁,hs₁,h⟩:=bind_ok.mp h
   cases h
   rw[recordRuntimeObservation_ok hs₁]
   exact .observed rfl rfl (by cases run.ready <;> simp)
  case resume =>
   simp only[perform] at h
   obtain ⟨u,lease,h⟩:=bind_ok.mp h
   obtain ⟨⟨s₁,ref,snap⟩,hs₁,h⟩:=bind_ok.mp h
   cases h
   obtain ⟨fingerprint,⟨rfl,c,hc,shown⟩|⟨fresh,rfl,shown⟩⟩:=resumeOrCreateCycle_ok hs₁
   · exact .resumed entered fingerprint hc shown
   · exact .created entered (requireActiveLease_ok lease) fingerprint fresh shown
  case release =>
   cases h
   exact .released rfl (by simp)
 | some cycle =>
  obtain ⟨ref,snap⟩:=cycle
  simp only[Run.located,hcycle] at located
  obtain ⟨late,stored,-⟩:=located
  obtain ⟨c,hc⟩:=Option.isSome_iff_exists.mp stored
  cases point with
  | observe=>cases late
  | resume=>cases late
  | release =>
   cases h
   exact .released rfl (by simp)
  | greet =>
   simp only[perform] at h
   obtain ⟨s₁,hs₁,h⟩:=bind_ok.mp h
   obtain rfl:=Run.recordCycle_ok hs₁
   cases hnext:snap.nextStage with
   | some stage =>
    simp only[hcycle,Option.bind_some,hnext,Except.ok.injEq,Prod.mk.injEq] at h
    obtain ⟨rfl,rfl⟩:=h
    exact .unwritten hcycle hc rfl rfl (.enter hnext)
   | none =>
    simp only[hcycle,Option.bind_some,hnext,Option.any_some,Except.ok.injEq,Prod.mk.injEq] at h
    obtain ⟨rfl,rfl⟩:=h
    cases hended:snap.status.terminal with
    | true=>exact .unwritten hcycle hc rfl rfl (.leave hnext hended)
    | false=>exact .unwritten hcycle hc rfl rfl (.conclude hnext hended)
  | complete =>exact .wrote hcycle hc h .complete
  | loop stage =>
   cases h
   exact .unwritten hcycle hc rfl rfl .loop
  | begin stage =>
   obtain ⟨⟨s₁,snapshot⟩,hs₁,h⟩:=bind_ok.mp h
   obtain ⟨held,c',hc',rfl⟩:=Run.onCycle_ok hcycle hc hs₁
   cases h
   exact .written hcycle hc held (.begin hc')
  | note stage snapshot =>
   simp only[perform] at h
   obtain ⟨s₁,hs₁,h⟩:=bind_ok.mp h
   obtain rfl:=Run.recordCycle_ok hs₁
   split at h
   · cases h
     exact .unwritten hcycle hc rfl rfl .postpone
   · rename_i due
     split at h
     · cases h
       exact .unwritten hcycle hc rfl rfl (.unauthorized due)
     · cases h
       exact .unwritten hcycle hc rfl rfl (.noted due)
  | reserve stage =>
   simp only[perform] at h
   obtain ⟨⟨s₁,r⟩,hs₁,h⟩:=bind_ok.mp h
   obtain ⟨held,c',hc',rfl⟩:=Run.onCycle_ok hcycle hc hs₁
   split at h
   · rename_i accepted
     cases h
     exact .written hcycle hc held (.refused hc' accepted)
   · rename_i accepted
     rw[Bool.not_eq_false] at accepted
     cases hproposal:r.proposal with
     | none =>
      simp only[hproposal,Except.ok.injEq,Prod.mk.injEq] at h
      obtain ⟨rfl,rfl⟩:=h
      exact .written hcycle hc held (.reserved hc' accepted hproposal)
     | some proposal =>
      simp only[hproposal,Except.ok.injEq,Prod.mk.injEq] at h
      obtain ⟨rfl,rfl⟩:=h
      exact .written hcycle hc held (.replayed hc' accepted hproposal)
  | propose stage r =>
   cases h
   exact .unwritten hcycle hc rfl rfl .propose
  | bind stage r proposal =>
   obtain ⟨⟨s₁,bound⟩,hs₁,h⟩:=bind_ok.mp h
   obtain ⟨held,c',hc',rfl⟩:=Run.onCycle_ok hcycle hc hs₁
   cases h
   exact .written hcycle hc held (.bind hc')
  | execute stage r proposal =>
   cases h
   exact .unwritten hcycle hc rfl rfl .execute
  | beat stage proposal result =>
   obtain ⟨lease,hlease,h⟩:=bind_ok.mp h
   cases h
   exact .unwritten hcycle hc rfl (heartbeatLease_ok hlease).2 .beat
  | finish stage proposal result checkpointAt =>
   simp only[perform] at h
   obtain ⟨⟨s₁,u⟩,hs₁,h⟩:=bind_ok.mp h
   obtain ⟨held,c',hc',rfl⟩:=Run.write_ok hcycle hc hs₁
   split at h
   · rename_i status
     cases hafter:stage.after with
     | none =>
      simp only[hafter,Except.ok.injEq,Prod.mk.injEq] at h
      obtain ⟨rfl,rfl⟩:=h
      exact .written hcycle hc held (.end hc' status hafter)
     | some next =>
      simp only[hafter,Except.ok.injEq,Prod.mk.injEq] at h
      obtain ⟨rfl,rfl⟩:=h
      exact .written hcycle hc held (.succeed hc' status hafter)
   · rename_i status
     cases h
     exact .written hcycle hc held (.halt hc' status)
  | stop result =>exact .wrote hcycle hc h .stop
  | timeUp =>exact .wrote hcycle hc h .timeUp
  | close =>exact .wrote hcycle hc h .close
  | record =>
   obtain ⟨s₁,hs₁,h⟩:=bind_ok.mp h
   obtain rfl:=Run.recordCycle_ok hs₁
   cases h
   exact .unwritten hcycle hc rfl rfl .record
  | interrupted stage =>exact .wrote hcycle hc h .interrupted
  | interruptedCycle checkpointAt =>exact .wrote hcycle hc h .interruptedCycle
  | failed stage =>exact .wrote hcycle hc h .failed
  | failedCycle =>exact .wrote hcycle hc h .failedCycle
  | recordFault now =>
   obtain ⟨s₁,hs₁,h⟩:=bind_ok.mp h
   obtain rfl:=Run.recordCycle_ok hs₁
   cases h
   exact .unwritten hcycle hc rfl rfl .recordFault

end Performing

end Kivou.AcquisitionRuntime
