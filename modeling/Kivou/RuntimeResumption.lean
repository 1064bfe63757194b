import Kivou.RuntimeBudget

set_option autoImplicit false

/-! Whatever became of the runs before it, a run that holds the lease finds rows that its operations
accept: an interrupted attempt is resumed, not refused. -/
namespace Kivou.AcquisitionRuntime
open PythonValues Tables

section Operations
variable {c c':Cycle}{stage:Stage}{n:ℕ}{now:ℤ}

lemma StageRow.checks_running {row:StageRow}(attempted:1≤row.attemptCount)
 (started:row.startedAt.isSome=true)(status:row.status=.running)
 (unended:row.completedAt=none)(retry:row.retryAt=none)
 (single:row.replaySameAttempt=false):row.checks=true:=by
 simp only[StageRow.checks,retryChecks,status,unended,retry,single,started]
 simpa using attempted

lemma AttemptRow.checks_running {a:AttemptRow}(attempted:1≤a.attemptCount)
 (status:a.status=.running)(unended:a.completedAt=none)(retry:a.retryAt=none)
 (single:a.replaySameAttempt=false):a.checks=true:=by
 simp only[AttemptRow.checks,retryChecks,status,unended,retry,single]
 simpa using attempted

lemma AttemptRow.running_checks {a:AttemptRow}(checks:a.checks=true) (status:a.status=.running) :
 a.retryAt=none ∧ a.replaySameAttempt=false ∧ a.completedAt=none:=by
 simp only[AttemptRow.checks,retryChecks,status,Bool.and_eq_true] at checks
 simp_all

lemma StageRow.started {row:StageRow}(checks:row.checks=true)(status:row.status=.waiting) :
 0<row.attemptCount ∧ row.startedAt.isSome=true:=by
 simp only[StageRow.checks,status,Bool.and_eq_true,decide_eq_true_eq] at checks
 exact ⟨checks.2.1.1,checks.2.1.2⟩

lemma checked_updateStage {f:StageRow→StageRow}{g:CycleRow→CycleRow}
 {attempts:List AttemptRow}(checked:c.checked=.ok c)
 (row:(g c.row).lifecycle=true)(here:(f (c.stages stage)).checks=true)
 (rows:∀a∈attempts,a.checks=true) :
 (((Cycle.mk c.row c.stages attempts).updateStage stage f).updateRow g).checked =
  .ok (((Cycle.mk c.row c.stages attempts).updateStage stage f).updateRow g):=by
 refine Cycle.checked_iff.mpr ⟨row,fun other=>?_,rows⟩
 by_cases same:other=stage
 · subst same
   simpa using here
 · simpa[same] using (Cycle.checked_iff.mp checked).2.1 other

variable (stage) in
lemma rows_update {f:AttemptRow→AttemptRow}(checked:c.checked=.ok c)
 (here:∀a∈c.attempts,a.key=(stage,n)→(f a).checks=true) :
 ∀a∈(c.updateAttempt stage n f).attempts,a.checks=true:=by
 intro a mem
 rw[Cycle.updateAttempt_attempts] at mem
 obtain ⟨r,hr,rfl⟩:=mem_update.mp mem
 split
 · rename_i key
   exact here r hr (beq_iff_eq.mp key)
 · exact (Cycle.checked_iff.mp checked).2.2 r hr

lemma beginStage_accepted (orderly:c.Orderly)(booked:c.Booked)
 (next:c.row.nextStage=some stage)(now:ℤ) :
 ∃c',beginStage stage now c=.ok (c',(c'.stages stage).snapshot) ∧ Begun stage now c c':=by
 obtain ⟨checked,m,ordered⟩:=orderly
 have checks:=Cycle.checked_iff.mp checked
 have index:=ordered.here_of_next next
 have unsucceeded:(c.stages stage).status≠.succeeded:=by
  rw[ne_eq,ordered.succeeded]
  omega
 have unsuppressed:(c.stages stage).status≠.suppressed:=by
  have filtered:=ordered.next.symm.trans next
  rw[Option.filter_eq_some_iff] at filtered
  exact of_decide_eq_true filtered.2
 have unended:c.row.completedAt=none:=by
  have lifecycle:=checks.1
  rw[CycleRow.lifecycle,CycleRow.unended checks.1 next] at lifecycle
  simpa using lifecycle
 have accepted:∃done,beginStage stage now c=.ok done:=by
  simp only[beginStage]
  split
  · exact ⟨_,rfl⟩
  · rw[if_neg (not_or.mpr ⟨unsucceeded,unsuppressed⟩)]
    split
    · exact ⟨_,rfl⟩
    · split
      · rename_i waiting
        obtain ⟨attempt,found⟩:=Option.isSome_iff_exists.mp (booked.replayable stage waiting.2)
        obtain ⟨status,replays⟩:=booked.current stage attempt found
        rw[found]
        simp only
        rw[if_neg (by rw[status,replays,waiting.1,waiting.2];simp)]
        have replayed:(c.replay stage now).checked=.ok (c.replay stage now):=by
         have started:=StageRow.started (checks.2.1 stage) waiting.1
         refine checked_updateStage checked ?_ ?_ (rows_update _ checked fun a mem _=>?_)
         · simp[CycleRow.lifecycle,Status.terminal,unended]
         · exact StageRow.checks_running started.1 started.2 rfl rfl rfl rfl
         · have attempted:=AttemptRow.attempted (checks.2.2 a mem)
           exact AttemptRow.checks_running (a:=a.replayed) attempted rfl rfl rfl rfl
        exact ⟨_,by rw[replayed];rfl⟩
      · have restarted:(c.restart stage now).checked=.ok (c.restart stage now):=by
         refine checked_updateStage checked ?_ ?_ checks.2.2
         · simp[CycleRow.lifecycle,Status.terminal]
         · exact StageRow.checks_running (Nat.succ_pos _) rfl rfl rfl rfl rfl
        exact ⟨_,by rw[restarted];rfl⟩
 obtain ⟨⟨c',snapshot⟩,h⟩:=accepted
 obtain ⟨rfl,begun⟩:=beginStage_ok h
 exact ⟨c',h,begun⟩

lemma checked_charge {cost total:ℚ}{attempts:List AttemptRow}(checked:c.checked=.ok c)
 (rows:∀a∈attempts,a.checks=true) :
 ((Cycle.mk c.row c.stages attempts).charge stage cost total now).checked =
  .ok ((Cycle.mk c.row c.stages attempts).charge stage cost total now):=
 have checks:=Cycle.checked_iff.mp checked
 checked_updateStage checked checks.1 (checks.2.1 stage) rows

lemma reservation_shown {accepted created:Bool}{cost total:ℚ}{proposal:Option Proposal}
 (shown:0≤total ∧ total≤50)(same:∀p∈proposal,p.estimatedCost=cost) :
 reservation accepted created cost total proposal =.ok ⟨accepted,created,cost,total,proposal⟩:=by
 refine if_pos ⟨shown.1,shown.2,?_⟩
 cases proposal with
 | none=>rfl
 | some p=>simpa using same p rfl

lemma reserved_in_range {accepted created:Bool}{cost total:ℚ}(shown:0≤total ∧ total≤50) :
 reservation accepted created cost total none=.ok ⟨accepted,created,cost,total,none⟩:=
 reservation_shown shown fun _ h=>by cases h

lemma Cycle.Booked.reservable {attempt:AttemptRow}(checked:c.checked=.ok c)
 (booked:c.Booked)(running:(c.stages stage).status=.running)
 (number:(c.stages stage).attemptCount=n)(found:c.attempt? stage n=some attempt)
 (unobserved:attempt.observedCost=0) :
 unreservedInterruption attempt stage.cost=true ∨
  ¬(attempt.status≠.running ∨ attempt.reservedCost≠stage.cost ∨
   attempt.observedCost≠0 ∨ attempt.retryAt.isSome ∨ attempt.completedAt.isSome):=by
 obtain ⟨mem,here,-⟩:=Cycle.attempt?_some found
 have status:=(booked.current stage attempt (by rwa[number])).1.trans running
 obtain ⟨retry,-,unended⟩:=
  AttemptRow.running_checks ((Cycle.checked_iff.mp checked).2.2 attempt mem) status
 have stands:attempt.reservedCost=stage.cost →
   ¬(attempt.status≠.running ∨ attempt.reservedCost≠stage.cost ∨
    attempt.observedCost≠0 ∨ attempt.retryAt.isSome ∨ attempt.completedAt.isSome):=by
  intro cost
  simp[status,cost,unobserved,retry,unended]
 rcases booked.ledger.reserved attempt mem with cost|⟨free,-,unbound⟩
 · exact .inr (stands (here ▸ cost))
 · rcases stage.cost_nonneg.eq_or_lt with none|positive
   · exact .inr (stands (free.trans none))
   · exact .inl (by simp[unreservedInterruption,status,free,positive,unobserved,unbound,
      retry,unended])

lemma reserveStageCost_accepted {maximum:ℚ}(checked:c.checked=.ok c)(booked:c.Booked)
 (running:(c.stages stage).status=.running)(number:(c.stages stage).attemptCount=n)
 (unobserved:∀a,c.attempt? stage n=some a→a.observedCost=0)
 (shown:0≤c.spentCost ∧ c.spentCost≤50)(bounded:maximum≤50)(now:ℤ) :
 ∃c' r,reserveStageCost stage n stage.cost maximum now c=.ok (c',r):=by
 have checks:=Cycle.checked_iff.mp checked
 have more:0≤c.spentCost+stage.cost:=by linarith [stage.cost_nonneg]
 have attempted:1≤n:=by
  rw[←number]
  exact StageRow.attempted (checks.2.1 stage) (by rw[running];nofun)
 simp only[reserveStageCost]
 rw[if_neg (by rw[running,number];simp)]
 cases hfound:c.attempt? stage n with
 | none =>
  simp only
  split
  · exact ⟨_,_,by rw[reserved_in_range shown];rfl⟩
  · rename_i within
    have total:c.spentCost+stage.cost≤50:=(not_lt.mp within).trans bounded
    have rows:∀a∈c.attempts++[reservedAttempt stage n stage.cost],a.checks=true:=by
     intro a mem
     rcases List.mem_append.mp mem with old|new
     · exact checks.2.2 a old
     · rw[List.mem_singleton.mp new]
       exact AttemptRow.checks_running attempted rfl rfl rfl rfl
    exact ⟨_,_,by rw[reserved_in_range ⟨more,total⟩,checked_charge checked rows];rfl⟩
 | some attempt =>
  simp only
  split
  · split
    · exact ⟨_,_,by rw[reserved_in_range shown];rfl⟩
    · rename_i within
      have total:c.spentCost+stage.cost≤50:=(not_lt.mp within).trans bounded
      have rows:=rows_update stage (n:=n) (f:=AttemptRow.charged stage.cost) checked
       fun a mem _=>checks.2.2 a mem
      have written:((c.updateAttempt stage n fun a=>{a with reservedCost:=stage.cost}).charge
        stage stage.cost (c.spentCost+stage.cost) now).checked=.ok _:=
       checked_charge checked rows
      exact ⟨_,_,by rw[reserved_in_range ⟨more,total⟩,written];rfl⟩
  · rename_i reserved
    have stands:=(booked.reservable checked running number hfound
     (unobserved attempt hfound)).resolve_left reserved
    obtain ⟨mem,here,-⟩:=Cycle.attempt?_some hfound
    rw[if_neg stands,reservation_shown shown]
    · exact ⟨_,_,rfl⟩
    · intro proposal bound
      rw[booked.ledger.proposed attempt mem proposal bound]
      exact not_not.mp fun other=>stands (.inr (.inl other))

lemma reserveStageCost_unrefused {maximum:ℚ}(checked:c.checked=.ok c)(booked:c.Booked)
 (running:(c.stages stage).status=.running)(number:(c.stages stage).attemptCount=n)
 (unobserved:∀a,c.attempt? stage n=some a→a.observedCost=0)(message:String) :
 reserveStageCost stage n stage.cost maximum now c≠.error (.conflict message):=by
 have reserving:∀ (accepted created:Bool)(total:ℚ)(proposal:Option Proposal)
   (next:Except Failure Cycle),next≠.error (.conflict message) →
   (do
    let r ←reservation accepted created stage.cost total proposal
    let c' ←next
    .ok (c',r):Except Failure (Cycle × Reservation))≠.error (.conflict message):=by
  intro accepted created total proposal next unrefused
  unfold reservation
  split
  · cases next with
    | ok c' =>rintro ⟨⟩
    | error failure =>
     rintro ⟨⟩
     exact unrefused rfl
  · rintro ⟨⟩
 have unchecked:∀written:Cycle,written.checked≠.error (.conflict message):=by
  intro written
  unfold Cycle.checked
  split <;> rintro ⟨⟩
 have kept:(Except.ok c:Except Failure Cycle)≠.error (.conflict message):=by rintro ⟨⟩
 simp only[reserveStageCost]
 rw[if_neg (by rw[running,number];simp)]
 cases hfound:c.attempt? stage n with
 | none =>
  simp only
  split
  · exact reserving _ _ _ _ (.ok c) kept
  · exact reserving _ _ _ _ _ (unchecked _)
 | some attempt =>
  simp only
  split
  · split
    · exact reserving _ _ _ _ (.ok c) kept
    · exact reserving _ _ _ _ _ (unchecked _)
  · rename_i reserved
    rw[if_neg ((booked.reservable checked running number hfound
     (unobserved attempt hfound)).resolve_left reserved)]
    exact reserving _ _ _ _ (.ok c) kept

lemma bindStageProposal_accepted {proposal:Proposal}{attempt:AttemptRow}
 (checked:c.checked=.ok c)(booked:c.Booked)
 (running:(c.stages stage).status=.running)(number:(c.stages stage).attemptCount=n)
 (found:c.attempt? stage n=some attempt)(unbound:attempt.proposal=none)
 (reserved:attempt.reservedCost=proposal.estimatedCost)(now:ℤ) :
 ∃c',bindStageProposal stage n proposal now c=.ok (c',proposal):=by
 have checks:=Cycle.checked_iff.mp checked
 have status:=(booked.current stage attempt (by rwa[number])).1.trans running
 have rows:=rows_update stage (n:=n) (f:=AttemptRow.bound proposal) checked
  fun a mem _=>checks.2.2 a mem
 have written:(c.bound stage n proposal now).checked=.ok (c.bound stage n proposal now):=by
  refine Cycle.checked_iff.mpr ⟨checks.1,fun other=>?_,rows⟩
  by_cases same:other=stage
  · subst same
    simpa[Cycle.bound,StageRow.checks] using checks.2.1 other
  · simpa[Cycle.bound,same] using checks.2.1 other
 refine ⟨c.bound stage n proposal now,?_⟩
 simp only[bindStageProposal,found]
 rw[if_neg (by simp[running,number,status,reserved]),unbound]
 exact congrArg (fun x=>do let c' ←x;.ok (c',proposal)) written

end Operations

structure Request where
 (ownerRef configFingerprint:String)
 opportunityKeys:List String
 (allowQaProviderMutations ready:Bool)
 (clock observedAt:ℤ)

section Further
variable (configs:String → Config)

/-- The process starts, and takes `n` steps of its own. -/
def further (w:World)(p:ℕ)(request:Request)(choices:ℕ→Choice):ℕ→World
 | 0=>start configs w p request.ownerRef request.configFingerprint request.opportunityKeys
   request.allowQaProviderMutations request.ready request.clock request.observedAt
 | n+1=>step configs (further w p request choices n) (.step p (choices n))

def Request.config (request:Request):Config:=configs request.configFingerprint

def Request.acquires (request:Request)(s:Store):Prop:=
 (acquireLease request.ownerRef request.observedAt (request.config configs).leaseSeconds
  s.lease).isSome=true

/-- Nothing disturbs the run, its lease lasts, and its clock stays within the wall time. -/
structure Calm (request:Request)(choices:ℕ→Choice):Prop where
 undisturbed:∀n,(choices n).fault=none
 leased:∀n,(choices n).observedAt <request.observedAt+(request.config configs).leaseSeconds*1000000
 later:∀n,request.clock≤(choices n).clock
 within:∀n,(choices n).clock-request.clock <(request.config configs).maximumWallSeconds*1000000

inductive TakesUp (request:Request)(s:Store):CycleRef→Cycle→Prop
 | unfinished {ref:CycleRef}{c:Cycle}
   (first:(request.opportunityKeys.map (CycleRef.mk request.configFingerprint)).find?
    (fun ref=>(s.cycles ref).any fun c=>!c.row.status.terminal)=some ref)
   (stored:s.cycles ref=some c):TakesUp request s ref c
 | fresh {ref:CycleRef}
   (finished:(request.opportunityKeys.map (CycleRef.mk request.configFingerprint)).find?
    (fun ref=>(s.cycles ref).any fun c=>!c.row.status.terminal)=none)
   (first:(request.opportunityKeys.map (CycleRef.mk request.configFingerprint)).find?
    (fun ref=>(s.cycles ref).isNone)=some ref) :
   TakesUp request s ref (createCycle request.clock)

/-- The run has come to the supervisor or the registry with the stage, or blocks it. -/
inductive Resumed (stage:Stage):Point→Prop
 | propose (r:Reservation):Resumed stage (.propose stage r)
 | execute (r:Reservation)(proposal:Proposal):Resumed stage (.execute stage r proposal)
 | exceeded (proposal:Option Proposal) :
   Resumed stage (.beat stage proposal (blockedResult "CYCLE_BUDGET_EXCEEDED"))
 | mismatched {proposal:Proposal}(other:proposal.command≠stage.command) :
   Resumed stage (.beat stage (some proposal) (blockedResult "SUPERVISOR_ACTION_MISMATCH"))

variable {configs}{w:World}{p:ℕ}{request:Request}{choices:ℕ→Choice}{s s':Store}
 {run run':Run}{point point':Point}{c c':Cycle}{ref:CycleRef}{stage:Stage}
 {snap:CycleSnapshot}{observedAt now:ℤ}

lemma resumed_proposed (r:Reservation)(proposal:Proposal) :
 Resumed stage (proposed stage r proposal):=by
 unfold proposed
 split
 · exact .mismatched (by assumption)
 · split
   · exact .exceeded _
   · exact .execute r proposal

lemma TakesUp.congr (taken:TakesUp request s ref c)(cycles:s'.cycles=s.cycles) :
 TakesUp request s' ref c:=by
 cases taken with
 | unfinished first stored=>exact .unfinished (by rwa[cycles]) (by rwa[cycles])
 | fresh finished first=>exact .fresh (by rwa[cycles]) (by rwa[cycles])

lemma TakesUp.resumed (taken:TakesUp request s ref c)
 (shown:0≤c.row.spentCost ∧ c.row.spentCost≤50) :
 ∃s',resumeOrCreateCycle request.configFingerprint request.opportunityKeys request.clock s =
   .ok (s',ref,⟨c.row.status,c.row.nextStage,c.row.spentCost⟩) ∧
  s'.cycles ref=some c ∧ s'.lease=s.lease ∧ s'.heartbeatAt=s.heartbeatAt:=by
 have snapshot:c.snapshot=.ok ⟨c.row.status,c.row.nextStage,c.row.spentCost⟩:=if_pos shown
 cases taken with
 | unfinished first stored =>
  refine ⟨s,?_,stored,rfl,rfl⟩
  simp only[resumeOrCreateCycle,first,stored,Option.elim_some]
  change (do .ok (s,ref,←c.snapshot))=_
  rw[snapshot]
  rfl
 | fresh finished first =>
  refine ⟨s.put ref (createCycle request.clock),?_,by simp,rfl,rfl⟩
  simp only[resumeOrCreateCycle,finished,first,snapshot]
  rfl

lemma step_calm {choice:Choice}{next:Option (Run × Point)}
 (hrun:w.runs p=some (run,point))(calm:choice.fault=none)
 (h:perform configs run point choice w.store=.ok (s,next)) :
 (step configs w (.step p choice)).runs p=next ∧
  (step configs w (.step p choice)).store=s:=by
 simp only[step,hrun,advance,calm,h,World.set_runs,World.set_store,if_true]
 exact ⟨trivial,trivial⟩

/-- Where the run is after its `n`-th step. -/
def Stands (configs:String → Config)(w:World)(p:ℕ)(request:Request)
 (choices:ℕ→Choice)(n:ℕ)(run:Run)(point:Point)(s:Store):Prop:=
 (further configs w p request choices n).runs p=some (run,point) ∧
  (further configs w p request choices n).store=s

lemma Stands.next {n:ℕ}(here:Stands configs w p request choices n run point s)
 (calm:Calm configs request choices)
 (h:perform configs run point (choices n) s=.ok (s',some (run',point'))) :
 Stands configs w p request choices (n+1) run' point' s':=by
 obtain ⟨hrun,rfl⟩:=here
 exact step_calm hrun (calm.undisturbed n) h

lemma onCycle_accepted {α:Type}{f:Cycle→Except Failure (Cycle × α)}{a:α}
 (held:requireActiveLease s run.ownerRef run.fencingToken observedAt=.ok ())
 (hcycle:run.cycle=some (ref,snap))(hc:s.cycles ref=some c)(h:f c=.ok (c',a)) :
 run.onCycle observedAt s f=.ok (s.put ref c',a):=by
 simp only[Run.onCycle,hcycle,held,Store.onCycle,hc,h]
 rfl

lemma recordCycle_accepted
 (held:requireActiveLease s run.ownerRef run.fencingToken observedAt=.ok ())
 (hcycle:run.cycle=some (ref,snap))(hc:s.cycles ref=some c)
 (beaten:∃heartbeatAt,s.heartbeatAt=some heartbeatAt ∧ heartbeatAt≤now)
 (updated:c.row.updatedAt≤now) :
 run.recordCycle observedAt now s=.ok {s with heartbeatAt:=some now}:=by
 obtain ⟨heartbeatAt,beats,before⟩:=beaten
 simp only[Run.recordCycle,hcycle,held,recordCycleObservation,hc,beats]
 rw[if_neg (not_lt.mpr updated),if_neg (not_lt.mpr before)]
 rfl

def Cycle.Unobserved (c:Cycle)(stage:Stage):Prop:=
 (c.stages stage).status=.running ∨ (c.stages stage).replaySameAttempt=true →
  ∀a,c.attempt? stage (c.stages stage).attemptCount=some a→a.observedCost=0

lemma Begun.due (begun:Begun stage now c c')(booked:c.Booked)
 (due:∀retryAt∈(c.stages stage).retryAt,retryAt≤now)(unobserved:c.Unobserved stage)
 (updated:c.row.updatedAt≤now) :
 (c'.stages stage).status=.running ∧ c'.row.spentCost=c.row.spentCost ∧
  c'.row.updatedAt≤now ∧
  ∀a,c'.attempt? stage (c'.stages stage).attemptCount=some a→a.observedCost=0:=by
 cases begun with
 | postponed status later =>
  obtain ⟨retryAt,mem,after⟩:=(Option.any_eq_true _ _).mp later
  exact absurd (of_decide_eq_true after) (not_lt.mpr (due retryAt mem))
 | running status=>exact ⟨status,rfl,updated,unobserved (.inl status)⟩
 | replayed status replay found waiting replays checked =>
  refine ⟨by simp[Cycle.replay],rfl,le_rfl,fun a ha=>?_⟩
  have number:((c.replay stage now).stages stage).attemptCount=(c.stages stage).attemptCount:=by
   simp[Cycle.replay]
  rw[number] at ha
  have replayed:(c.replay stage now).attempt? stage (c.stages stage).attemptCount =
    (c.attempt? stage (c.stages stage).attemptCount).map AttemptRow.replayed:=
   Cycle.attempt?_update (f:=AttemptRow.replayed) fun _=>rfl
  rw[replayed,found] at ha
  cases ha
  have free:=unobserved (.inr replay) _ found
  exact free
 | restarted unended stopped fresh checked =>
  refine ⟨by simp[Cycle.restart],rfl,le_rfl,fun a ha=>?_⟩
  have number:((c.restart stage now).stages stage).attemptCount =
    (c.stages stage).attemptCount+1:=by simp[Cycle.restart]
  rw[number] at ha
  obtain ⟨mem,here,count⟩:=Cycle.attempt?_some ha
  have counted:=booked.ledger.counted a mem
  rw[here] at counted
  omega

lemma Cycle.Booked.spent_nonneg (booked:c.Booked):0≤c.row.spentCost:=by
 rw[booked.spent]
 refine List.sum_nonneg fun charge mem=>?_
 obtain ⟨a,ha,rfl⟩:=List.mem_map.mp mem
 exact (booked.ledger.nonneg ha).trans (le_max_left _ _)

structure Going (request:Request)(choices:ℕ→Choice)(ref:CycleRef)(snap:CycleSnapshot)
  (run:Run)(s:Store):Prop where
 cycle:run.cycle=some (ref,snap)
 held:∀n,requireActiveLease s run.ownerRef run.fencingToken (choices n).observedAt=.ok ()
 configured:run.configFingerprint=request.configFingerprint
 authorized:run.allowQaProviderMutations=request.allowQaProviderMutations
 beaten:∃heartbeatAt,s.heartbeatAt=some heartbeatAt ∧ heartbeatAt≤run.now
 later:request.clock≤run.now

lemma further_begins (idle:w.runs p=none)(ready:request.ready=true)
 (acquires:request.acquires configs w.store)
 (beaten:∀heartbeatAt∈w.store.heartbeatAt,heartbeatAt≤request.clock)
 (taken:TakesUp request w.store ref c)(updated:c.row.updatedAt≤request.clock)
 (shown:0≤c.row.spentCost ∧ c.row.spentCost≤50)(next:c.row.nextStage=some stage)
 (calm:Calm configs request choices) :
 ∃snap run s,Stands configs w p request choices 4 run (.begin stage) s ∧
  Going request choices ref snap run s ∧ s.cycles ref=some c:=by
 obtain ⟨⟨lease,token⟩,hlease⟩:=Option.isSome_iff_exists.mp acquires
 have held:∀ (s:Store) n,s.lease=lease →
   requireActiveLease s request.ownerRef token (choices n).observedAt=.ok ():=by
  rintro s n rfl
  simp only[acquireLease] at hlease
  split at hlease
  · injection hlease with hpair
    obtain ⟨hl,rfl⟩:=Prod.mk.inj hpair
    simp[requireActiveLease,←hl,Lease.heldBy,calm.leased n]
  · cases hlease
 let run₀:Run:={
  ownerRef:=request.ownerRef
  fencingToken:=token
  configFingerprint:=request.configFingerprint
  opportunityKeys:=request.opportunityKeys
  allowQaProviderMutations:=request.allowQaProviderMutations
  ready:=request.ready
  startedAt:=request.clock
  now:=request.clock}
 have started:Stands configs w p request choices 0 run₀ .observe {w.store with lease}:=by
  have hlease':acquireLease request.ownerRef request.observedAt
    (configs request.configFingerprint).leaseSeconds w.store.lease=some (lease,token):=hlease
  simp only[Stands,further,start,idle,hlease',World.set_runs,World.set_store,if_true]
  exact ⟨rfl,trivial⟩
 -- The observation is recorded, and the run is ready.
 have observed:Stands configs w p request choices 1 run₀ .resume
   {w.store with lease,heartbeatAt:=some request.clock}:=by
  refine started.next calm ?_
  have recorded:recordRuntimeObservation request.clock {w.store with lease} =
    .ok {w.store with lease,heartbeatAt:=some request.clock}:=by
   refine if_pos ((Option.all_eq_true _ _).mpr fun heartbeatAt mem=>?_)
   exact decide_eq_true (beaten heartbeatAt mem)
  simp only[perform,run₀,held _ 0,recorded,ready,if_true]
  rfl
 have taken':TakesUp request {w.store with lease,heartbeatAt:=some request.clock} ref c:=
  taken.congr rfl
 obtain ⟨s,hresume,hc,hl,hbeat⟩:=taken'.resumed shown
 have resumed:Stands configs w p request choices 2
   {run₀ with cycle:=some (ref,⟨c.row.status,c.row.nextStage,c.row.spentCost⟩)} .greet s:=by
  refine observed.next calm ?_
  simp only[perform,run₀,held _ 1,hresume]
  rfl
 let run₁:Run:={run₀ with cycle:=some (ref,⟨c.row.status,c.row.nextStage,c.row.spentCost⟩)}
 have greeted:Stands configs w p request choices 3 (run₁.enter stage).1 (.loop stage)
   {s with heartbeatAt:=some request.clock}:=by
  refine resumed.next calm ?_
  have recorded:run₁.recordCycle (choices 2).observedAt request.clock s =
    .ok {s with heartbeatAt:=some request.clock}:=
   recordCycle_accepted (held s 2 hl) rfl hc ⟨request.clock,hbeat,le_rfl⟩ updated
  simp only[run₁,run₀,next] at recorded
  simp only[perform,run₁,run₀,next,recorded,Option.bind_some]
  rfl
 refine ⟨_,{(run₁.enter stage).1 with now:=(choices 3).clock},
  {s with heartbeatAt:=some request.clock},?_,⟨rfl,fun n=>held _ n hl,rfl,rfl,
   ⟨request.clock,rfl,calm.later 3⟩,calm.later 3⟩,hc⟩
 refine greeted.next calm ?_
 have time:¬(configs request.configFingerprint).maximumWallSeconds*1000000 ≤
   (choices 3).clock-request.clock:=not_le.mpr (calm.within 3)
 simp only[perform]
 exact congrArg (fun point=>Except.ok ({s with heartbeatAt:=some request.clock},
  some (_,point))) (if_neg time)

lemma further_reserves {m:ℕ}(begins:Stands configs w p request choices m run (.begin stage) s)
 (going:Going request choices ref snap run s)(hc:s.cycles ref=some c)
 (h:beginStage stage run.now c=.ok (c',(c'.stages stage).snapshot))
 (running:(c'.stages stage).status=.running)(updated:c'.row.updatedAt≤run.now)
 (authorized:stage=.providerHandoff → request.allowQaProviderMutations=true)
 (calm:Calm configs request choices) :
 ∃run' s',Stands configs w p request choices (m+2) run' (.reserve stage) s' ∧
  Going request choices ref snap run' s' ∧ s'.cycles ref=some c' ∧
  run'.currentAttempt=(c'.stages stage).attemptCount:=by
 have begun:Stands configs w p request choices (m+1)
   {run with currentAttempt:=(c'.stages stage).attemptCount}
   (.note stage (c'.stages stage).snapshot) (s.put ref c'):=by
  refine begins.next calm ?_
  have began:=onCycle_accepted (going.held m) going.cycle hc h
  simp only[perform,began]
  rfl
 have hc':(s.put ref c').cycles ref=some c':=by simp
 refine ⟨{run with currentAttempt:=(c'.stages stage).attemptCount},
  {s.put ref c' with heartbeatAt:=some run.now},begun.next calm ?_,
  ⟨going.cycle,fun n=>going.held n,going.configured,going.authorized,⟨run.now,rfl,le_rfl⟩,
   going.later⟩,hc',rfl⟩
 have due:¬((c'.stages stage).snapshot.status=.waiting ∧
   (c'.stages stage).snapshot.retryAt.any (fun retryAt=>decide (run.now<retryAt))):=by
  simp[StageRow.snapshot,running]
 have allowed:¬(stage=.providerHandoff ∧ run.allowQaProviderMutations=false):=by
  rintro ⟨handoff,refused⟩
  rw[going.authorized,authorized handoff] at refused
  cases refused
 have recorded:({run with currentAttempt:=(c'.stages stage).attemptCount}:Run).recordCycle
   (choices (m+1)).observedAt run.now (s.put ref c') =
    .ok {s.put ref c' with heartbeatAt:=some run.now}:=recordCycle_accepted
  (going.held (m+1)) going.cycle hc' going.beaten updated
 simp only[perform]
 rw[recorded]
 change (if _ then _ else _)=_
 rw[if_neg due,if_neg allowed]

lemma perform_reserve {choice:Choice}{r:Reservation}
 (h:run.onCycle choice.observedAt s (reserveStageCost stage run.currentAttempt stage.cost
  (run.config configs).maximumCycleCost run.now)=.ok (s',r)) :
 ∃point,perform configs run (.reserve stage) choice s=.ok (s',some (run,point)) ∧
  Resumed stage point:=by
 simp only[perform,h]
 by_cases accepted:r.accepted=false
 · exact ⟨_,if_pos accepted,.exceeded none⟩
 · cases hproposal:r.proposal with
   | none=>exact ⟨_,(if_neg accepted).trans (by rw[hproposal]),.propose r⟩
   | some proposal =>
    exact ⟨_,(if_neg accepted).trans (by rw[hproposal]),resumed_proposed r proposal⟩

/-- A further run on a cycle whose next stage is due: the lease is free for it,
what it depends on is ready, and no clock is behind what is stored. -/
structure Due (configs:String → Config)(w:World)(p:ℕ)(request:Request)
  (choices:ℕ→Choice)(ref:CycleRef)(c:Cycle)(stage:Stage):Prop where
 idle:w.runs p=none
 ready:request.ready=true
 acquires:request.acquires configs w.store
 beaten:∀heartbeatAt∈w.store.heartbeatAt,heartbeatAt≤request.clock
 taken:TakesUp request w.store ref c
 updated:c.row.updatedAt≤request.clock
 shown:c.row.spentCost≤50
 next:c.row.nextStage=some stage
 due:∀retryAt∈(c.stages stage).retryAt,retryAt≤request.clock
 unobserved:c.Unobserved stage
 calm:Calm configs request choices

lemma Due.resumes (due:Due configs w p request choices ref c stage)
 (bounded:∀fingerprint,(configs fingerprint).maximumCycleCost≤50)(orderly:c.Orderly)
 (booked:c.Booked)
 (authorized:stage=.providerHandoff → request.allowQaProviderMutations=true) :
 ∃n run point,(further configs w p request choices n).runs p=some (run,point) ∧
  Resumed stage point:=by
 obtain ⟨snap,run,s,begins,going,hc⟩:=further_begins due.idle due.ready due.acquires due.beaten
  due.taken due.updated ⟨booked.spent_nonneg,due.shown⟩ due.next due.calm
 obtain ⟨c',h,begun⟩:=beginStage_accepted orderly booked due.next run.now
 obtain ⟨running,spent,updated,free⟩:=begun.due booked
  (fun retryAt mem=>(due.due retryAt mem).trans going.later) due.unobserved
  (due.updated.trans going.later)
 obtain ⟨run',s',reserves,going',hc',number⟩:=
  further_reserves begins going hc h running updated authorized due.calm
 have checked:c'.checked=.ok c':=by
  obtain ⟨checked,-⟩:=orderly
  cases begun with
  | postponed | running=>exact checked
  | replayed _ _ _ _ _ checked'=>exact checked'
  | restarted _ _ _ checked'=>exact checked'
 have booked':=booked.begun begun
 have shown:0≤c'.spentCost ∧ c'.spentCost≤50:=by
  rw[←booked'.spent]
  exact ⟨booked'.spent_nonneg,spent ▸ due.shown⟩
 obtain ⟨c₂,r,reserved⟩:=reserveStageCost_accepted checked booked' running number.symm
  (number ▸ free) shown (bounded run'.configFingerprint) run'.now
 obtain ⟨point,hperform,resumes⟩:=perform_reserve
  (onCycle_accepted (going'.held 6) going'.cycle hc' reserved)
 exact ⟨7,run',point,(reserves.next due.calm hperform).1,resumes⟩

end Further

section Histories
variable {configs:String → Config}

lemma books_upkeep : Upkeep configs (fun _=>True) (fun _ c=>c.Orderly ∧ c.Booked)
  (fun run snap c point=>Agrees run snap c point ∧ Booking run c point)
  fun _ _ _ _ _=>True where
 created now _:=⟨⟨rfl,0,inOrder_createCycle now⟩,booked_createCycle now⟩
 resumed entered _ shown:=⟨agrees_resumed entered shown,trivial⟩
 turned:=by
  intro ref run run' snap choice point point' c c' _ _ kept holder _ turn
  obtain ⟨orderly,booked⟩:=kept
  obtain ⟨agrees,booking⟩:=holder
  obtain ⟨checked',agrees',inside⟩:=agrees.turned orderly.1 turn
  obtain ⟨booked',booking'⟩:=booked_turned orderly.1 booked agrees booking turn
  exact ⟨⟨⟨checked',inOrder_turned agrees turn orderly.2⟩,booked'⟩,⟨agrees',booking'⟩,
   fun fault thrown hraised=>
    ⟨agrees_raised_of_inside inside turn.late hraised,booking_raised hraised⟩⟩
 raised late kept holder hraised:=
  ⟨agrees_raised_of_inside (holder.1.inside kept.1.1) late hraised,booking_raised hraised⟩

variable (configs) in
lemma books_reached {events:List Event}(unabandoned:∀e∈events,e.abandons=false) :
 Kept (fun _=>True) (fun _ c=>c.Orderly ∧ c.Booked)
  (fun run snap c point=>Agrees run snap c point ∧ Booking run c point)
  (reached configs events):=by
 have guarded:Runs.Along (step configs) (Guarded fun _ _ _ _ _=>True) World.empty events:=
  Runs.along_of_mem World.empty fun _ _ _ _ _ _ _ _ _ _ _ _ _ _=>trivial
 exact (Kept.reached books_upkeep (fun _=>trivial) unabandoned guarded).2

end Histories

/-- After any history, a further run that is due, and may hand over to the
provider where that is next, comes to the work of the stage or blocks it for
its cost or its command; and no run that holds the lease is refused when it
begins a stage, reserves for an attempt without an observed cost, or binds a
proposal at the stage's cost. -/
theorem interrupted_attempts_resume (configs:String → Config)
 (bounded:∀fingerprint,(configs fingerprint).maximumCycleCost≤50)(events:List Event)
 (unabandoned:∀e∈events,e.abandons=false) :
 (∀p request choices ref c stage,
  Due configs (reached configs events) p request choices ref c stage →
  (stage=.providerHandoff → request.allowQaProviderMutations=true) →
  ∃n run point,
   (further configs (reached configs events) p request choices n).runs p=some (run,point) ∧
    Resumed stage point) ∧
 ∀p run snap point ref c,(reached configs events).runs p=some (run,point) →
  run.cycle=some (ref,snap) →
  run.fencingToken=(reached configs events).store.lease.generation →
  (reached configs events).store.cycles ref=some c →
  (∀stage,point=.begin stage →
   ∃c' snapshot,beginStage stage run.now c=.ok (c',snapshot)) ∧
  (∀stage,point=.reserve stage →
   (∀a,c.attempt? stage run.currentAttempt=some a→a.observedCost=0) →
   ∀message,reserveStageCost stage run.currentAttempt stage.cost
    (run.config configs).maximumCycleCost run.now c≠.error (.conflict message)) ∧
  ∀stage r proposal,point=.bind stage r proposal→proposal.estimatedCost=stage.cost →
   ∃c',bindStageProposal stage run.currentAttempt proposal run.now c=.ok (c',proposal):=by
 have kept:=books_reached configs unabandoned
 refine ⟨fun p request choices ref c stage due authorized=>?_,?_⟩
 · obtain ⟨orderly,booked⟩:c.Orderly ∧ c.Booked:=by
    cases due.taken with
    | unfinished first stored=>exact kept.stored stored
    | fresh finished first =>
     exact ⟨⟨rfl,0,inOrder_createCycle request.clock⟩,booked_createCycle request.clock⟩
   exact due.resumes bounded orderly booked authorized
 · intro p run snap point ref c hrun hcycle holder hc
   obtain ⟨orderly,booked⟩:=kept.stored hc
   obtain ⟨agrees,booking⟩:=kept.held hrun hcycle holder hc
   refine ⟨?_,?_,?_⟩
   · rintro stage rfl
     obtain ⟨c',h,-⟩:=beginStage_accepted orderly booked agrees.next run.now
     exact ⟨c',_,h⟩
   · rintro stage rfl unobserved message
     exact reserveStageCost_unrefused orderly.1 booked agrees.running agrees.attempt unobserved message
   · rintro stage r proposal rfl cost
     obtain ⟨a,found,reserved,unbound⟩:=booking
     exact bindStageProposal_accepted orderly.1 booked agrees.running agrees.attempt found unbound
      (reserved.trans cost.symm) run.now

def interruptedRun:List Event:=.start 0 "worker" "config" ["key"] true true 0 0 ::
  List.replicate 8 (.step 0 (sampleChoice .signalSeed ⟨_,succeeded_accepted⟩))++[.crash 0]

def sampleRequest (allowQaProviderMutations:Bool):Request:=
 ⟨"worker","config",["key"],allowQaProviderMutations,true,0,0⟩

def sampleChoices (stage:Stage):ℕ→Choice:=fun _=>sampleChoice stage ⟨_,succeeded_accepted⟩

def Cycle.awaits (stage:Stage)(c:Cycle):Bool:=
 c.row.status==.running&&decide (c.row.updatedAt≤0)&&decide (c.row.spentCost≤50) &&
  c.row.nextStage==some stage&&(c.stages stage).retryAt.isNone &&
  c.attempts.all fun a=>decide (a.observedCost=0)

lemma sample_due {allow:Bool}{events:List Event}{stage:Stage}
 (idle:((reached (fun _=>sampleConfig) events).runs 0).isNone=true)
 (lease:(reached (fun _=>sampleConfig) events).store.lease.ownerRef=some "worker")
 (beaten:(reached (fun _=>sampleConfig) events).store.heartbeatAt=some 0)
 (rows:((reached (fun _=>sampleConfig) events).store.cycles ⟨"config","key"⟩).any
  (Cycle.awaits stage)=true) :
 ∃c,Due (fun _=>sampleConfig) (reached (fun _=>sampleConfig) events) 0
  (sampleRequest allow) (sampleChoices stage) ⟨"config","key"⟩ c stage:=by
 obtain ⟨c,hc,awaits⟩:=(Option.any_eq_true _ _).mp rows
 simp only[Cycle.awaits,Bool.and_eq_true,beq_iff_eq,decide_eq_true_eq,
  Option.isNone_iff_eq_none] at awaits
 obtain ⟨⟨⟨⟨⟨running,updated⟩,shown⟩,next⟩,retry⟩,free⟩:=awaits
 refine ⟨c,?_⟩
 constructor
 case idle=>exact Option.isNone_iff_eq_none.mp idle
 case ready=>rfl
 case acquires=>simp[Request.acquires,acquireLease,lease,sampleRequest]
 case beaten=>simp[beaten,sampleRequest]
 case taken=>exact .unfinished (by simp[sampleRequest,hc,running,Status.terminal]) hc
 case updated=>exact updated
 case shown=>exact shown
 case next=>exact next
 case due=>simp[retry]
 case unobserved =>
  intro _ a found
  exact of_decide_eq_true (List.all_eq_true.mp free a (Cycle.attempt?_some found).1)
 case calm =>
  refine ⟨fun _=>rfl,fun _=>?_,fun _=>le_rfl,fun _=>?_⟩
  · change (0:ℤ)<0+60*1000000
    norm_num
  · change (0:ℤ)-0<600*1000000
    norm_num

theorem interrupted_attempts_resume_again :
 ∃n run point,(further (fun _=>sampleConfig) (reached (fun _=>sampleConfig) interruptedRun) 0
  (sampleRequest false) (sampleChoices .signalSeed) n).runs 0=some (run,point) ∧
   Resumed .signalSeed point:=by
 obtain ⟨c,due⟩:∃c,Due (fun _=>sampleConfig) (reached (fun _=>sampleConfig) interruptedRun) 0
   (sampleRequest false) (sampleChoices .signalSeed) ⟨"config","key"⟩ c .signalSeed:=
  sample_due (by decide +kernel) (by decide +kernel) (by decide +kernel) (by decide +kernel)
 exact (interrupted_attempts_resume (fun _=>sampleConfig) (fun _=>le_rfl) interruptedRun
  (by decide)).1 0 _ _ _ c .signalSeed due nofun

def handoffRun:List Event:=.start 0 "worker" "config" ["key"] false true 0 0 ::
  (List.replicate 3 (.step 0 (sampleChoices .signalSeed 0)) ++
   (Stage.all.take 8).flatMap fun stage=>List.replicate 9 (.step 0 (sampleChoices stage 0))) ++
  [.crash 0]

def Point.resumes:Point→Bool
 | .propose _ _ | .execute _ _ _=>true
 | .beat _ _ result=>result.status==.blocked
 | _=>false

lemma Resumed.resumes {stage:Stage}{point:Point}(h:Resumed stage point) : point.resumes=true:=by
 cases h <;> rfl

lemma further_ended {configs:String → Config}{w:World}{p n:ℕ}{request:Request}
 {choices:ℕ→Choice}(ended:(further configs w p request choices n).runs p=none)(m:ℕ) :
 (further configs w p request choices (n+m)).runs p=none:=by
 induction m with
 | zero=>exact ended
 | succ m ih =>
  rw[←Nat.add_assoc]
  simp only[further,step,ih]

/-- A further run that may not hand over to the provider waits. -/
theorem unauthorized_handoff_waits : ¬∀ (configs:String → Config),
  (∀fingerprint,(configs fingerprint).maximumCycleCost≤50)→∀events:List Event,
  (∀e∈events,e.abandons=false)→∀p request choices ref c stage,
  Due configs (reached configs events) p request choices ref c stage →
  ∃n run point,
   (further configs (reached configs events) p request choices n).runs p=some (run,point) ∧
    Resumed stage point:=by
 intro claim
 obtain ⟨c,due⟩:∃c,Due (fun _=>sampleConfig) (reached (fun _=>sampleConfig) handoffRun) 0
   (sampleRequest false) (sampleChoices .providerHandoff) ⟨"config","key"⟩ c .providerHandoff:=
  sample_due (by decide +kernel) (by decide +kernel) (by decide +kernel) (by decide +kernel)
 obtain ⟨n,run,point,hrun,resumed⟩:=claim (fun _=>sampleConfig) (fun _=>le_rfl) handoffRun
  (by decide) 0 _ _ _ c .providerHandoff due
 have ended:((further (fun _=>sampleConfig) (reached (fun _=>sampleConfig) handoffRun) 0
   (sampleRequest false) (sampleChoices .providerHandoff) 11).runs 0).isNone=true:=by
  decide +kernel
 have waits:∀n<11,((further (fun _=>sampleConfig)
   (reached (fun _=>sampleConfig) handoffRun) 0 (sampleRequest false)
   (sampleChoices .providerHandoff) n).runs 0).any (fun entry=>entry.2.resumes)=false:=by
  decide +kernel
 by_cases early:n<11
 · have none:=waits n early
   rw[hrun] at none
   exact absurd resumed.resumes (by simpa using none)
 · have none:=further_ended (Option.isNone_iff_eq_none.mp ended) (n-11)
   rw[Nat.add_sub_cancel' (not_lt.mp early),hrun] at none
   cases none

end Kivou.AcquisitionRuntime
