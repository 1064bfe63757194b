import Kivou.RuntimeStore

set_option autoImplicit false

/-! A run of `run_once` goes from one point to the next, and each step of it is one transaction of
the store or one call outside. A step may be interrupted or raise before its transaction or after
it; the handlers of `run_once` are points of their own. -/
namespace Kivou.AcquisitionRuntime

structure Config where
 maximumCycleCost:ℚ
 (maximumWallSeconds leaseSeconds:ℤ)

structure Run where
 ownerRef:String
 fencingToken:ℕ
 configFingerprint:String
 opportunityKeys:List String
 (allowQaProviderMutations ready:Bool)
 (startedAt now:ℤ)
 cycle:Option (CycleRef × CycleSnapshot):=none
 currentStage:Option Stage:=none
 currentAttempt:ℕ:=0

inductive Point where
 | observe
 | resume
 | greet
 | complete
 | loop (stage:Stage)
 | begin (stage:Stage)
 | note (stage:Stage)(snapshot:StageSnapshot)
 | reserve (stage:Stage)
 | propose (stage:Stage)(r:Reservation)
 | bind (stage:Stage)(r:Reservation)(proposal:Proposal)
 | execute (stage:Stage)(r:Reservation)(proposal:Proposal)
 | beat (stage:Stage)(proposal:Option Proposal)(result:ActionResult)
 | finish (stage:Stage)(proposal:Option Proposal)(result:ActionResult)(checkpointAt:ℤ)
 | stop (result:ActionResult)
 | timeUp
 | close
 | record
 | interrupted (stage:Stage)
 | interruptedCycle (checkpointAt:ℤ)
 | failed (stage:Stage)
 | failedCycle
 | recordFault (now:ℤ)
 | release
 deriving DecidableEq

inductive Fault where
 | interruptedError
 | exception
 | baseException

structure Choice where
 (clock observedAt:ℤ)
 proposal:Proposal
 result:{r:ActionResult // r.Accepted}
 fault:Option Fault
 committed:Bool

/-- Where a raise is caught; the last statement is `finally`. -/
def Run.raise (run:Run):Fault→Point
 | .baseException=>.release
 | .interruptedError =>
  match run.cycle,run.currentStage with
  | some _,some stage=>if 0<run.currentAttempt then .interrupted stage else .release
  | _,_=>.release
 | .exception =>
  match run.cycle,run.currentStage with
  | none,_=>.release
  | some _,none=>.failedCycle
  | some _,some stage=>if 0<run.currentAttempt then .failed stage else .failedCycle

def raised (run:Run)(point:Point)(fault:Fault):Option (Run × Point):=
 match point with
 | .interrupted _=>some (run,.release)
 | .interruptedCycle _=>some (run,.release)
 | .failed _=>some (run,.release)
 | .failedCycle=>some (run,.release)
 | .recordFault _=>some (run,.release)
 | .release=>none
 | _=>some (run,run.raise fault)

def waitingResult (checkpointAt:ℤ):ActionResult where
 status:=.waiting
 reasonCodes:=["CURRENT_RUN_INTERRUPTED"]
 retryAt:=some (checkpointAt+60000000)
 replaySameAttempt:=true

def failedResult:ActionResult where
 status:=.failed
 reasonCodes:=["CURRENT_RUN_TECHNICAL_FAILURE"]

def blockedResult (reason:String):ActionResult where
 status:=.blocked
 reasonCodes:=[reason]

def unauthorizedResult:ActionResult where
 status:=.waiting
 reasonCodes:=["QA_PROVIDER_MUTATION_NOT_AUTHORIZED"]

variable (configs:String → Config)

def Run.config (run:Run):Config:=configs run.configFingerprint

def remainingBefore (maximumCycleCost:ℚ)(r:Reservation):ℚ:=
 maximumCycleCost-r.totalCycleCost+r.reservedCost

def proposed (stage:Stage)(r:Reservation)(proposal:Proposal):Point:=
 if proposal.command≠stage.command then
  .beat stage (some proposal) (blockedResult "SUPERVISOR_ACTION_MISMATCH")
 else if proposal.estimatedCost≠stage.cost then
  .beat stage (some proposal) (blockedResult "CYCLE_BUDGET_EXCEEDED")
 else .execute stage r proposal

def settled (maximumCycleCost:ℚ)(r:Reservation)(proposal:Proposal)(result:ActionResult) :
 ActionResult:=
 if remainingBefore maximumCycleCost r<result.observedCost then
  {result with
    status:=.failed
    reservedCost:=proposal.estimatedCost
    reasonCodes:=["OBSERVED_CYCLE_COST_EXCEEDED"]}
 else {result with reservedCost:=proposal.estimatedCost}

def Run.enter (run:Run)(stage:Stage):Run × Point:=
 ({run with currentStage:=some stage,currentAttempt:=0},.loop stage)

def Run.onCycle {α:Type}(run:Run)(observedAt:ℤ)(s:Store)
 (f:Cycle→Except Failure (Cycle × α)):Except Failure (Store × α):=
 match run.cycle with
 | none=>.error .keyError
 | some (ref,_)=>do
  requireActiveLease s run.ownerRef run.fencingToken observedAt
  s.onCycle ref f

def Run.write (run:Run)(observedAt:ℤ)(s:Store)(f:Cycle→Except Failure Cycle) :
 Except Failure (Store × Unit):=
 run.onCycle observedAt s fun c=>do .ok (←f c,())

def Run.recordCycle (run:Run)(observedAt now:ℤ)(s:Store):Except Failure Store:=
 match run.cycle with
 | none=>.error .keyError
 | some (ref,_)=>do
  requireActiveLease s run.ownerRef run.fencingToken observedAt
  recordCycleObservation ref now s

def perform (run:Run)(point:Point)(choice:Choice)(s:Store) :
 Except Failure (Store × Option (Run × Point)):=
 let observedAt:=choice.observedAt
 match point with
 | .observe=>do
  requireActiveLease s run.ownerRef run.fencingToken observedAt
  let s ←recordRuntimeObservation run.now s
  .ok (s,some (run,if run.ready then .resume else .release))
 | .resume=>do
  requireActiveLease s run.ownerRef run.fencingToken observedAt
  let (s,ref,snapshot) ← resumeOrCreateCycle run.configFingerprint run.opportunityKeys run.now s
  .ok (s,some ({run with cycle:=some (ref,snapshot)},.greet))
 | .greet=>do
  let s ←run.recordCycle observedAt run.now s
  match run.cycle.bind fun cycle=>cycle.2.nextStage with
  | some stage=>.ok (s,some (run.enter stage))
  | none =>
   let terminal:=run.cycle.any fun cycle=>cycle.2.status.terminal
   .ok (s,some (run,if terminal then .release else .complete))
 | .complete=>do
  let (s,_) ←run.write observedAt s (finishCycle .succeeded none run.now)
  .ok (s,some (run,.record))
 | .loop stage =>
  let run:={run with now:=choice.clock}
  let up:=(run.config configs).maximumWallSeconds*1000000≤run.now-run.startedAt
  .ok (s,some (run,if up then .timeUp else .begin stage))
 | .begin stage=>do
  let (s,snapshot) ←run.onCycle observedAt s (beginStage stage run.now)
  .ok (s,some ({run with currentAttempt:=snapshot.attemptCount},.note stage snapshot))
 | .note stage snapshot=>do
  let s ←run.recordCycle observedAt run.now s
  if snapshot.status=.waiting ∧ snapshot.retryAt.any (fun retryAt=>decide (run.now<retryAt)) then
   .ok (s,some (run,.release))
  else if stage=.providerHandoff ∧ run.allowQaProviderMutations=false then
   .ok (s,some (run,.beat stage none unauthorizedResult))
  else .ok (s,some (run,.reserve stage))
 | .reserve stage=>do
  let (s,r) ←run.onCycle observedAt s (reserveStageCost stage run.currentAttempt stage.cost
    (run.config configs).maximumCycleCost run.now)
  if r.accepted=false then
   .ok (s,some (run,.beat stage none (blockedResult "CYCLE_BUDGET_EXCEEDED")))
  else
   match r.proposal with
   | none=>.ok (s,some (run,.propose stage r))
   | some proposal=>.ok (s,some (run,proposed stage r proposal))
 | .propose stage r=>.ok (s,some (run,.bind stage r choice.proposal))
 | .bind stage r proposal=>do
  let (s,bound) ←run.onCycle observedAt s
   (bindStageProposal stage run.currentAttempt proposal run.now)
  .ok (s,some (run,proposed stage r bound))
 | .execute stage r proposal =>
  .ok (s,some (run,.beat stage (some proposal)
   (settled (run.config configs).maximumCycleCost r proposal choice.result.1)))
 | .beat stage proposal result=>do
  let lease ←heartbeatLease run.ownerRef run.fencingToken observedAt
   (run.config configs).leaseSeconds s.lease
  .ok ({s with lease:=lease},some (run,.finish stage proposal result choice.clock))
 | .finish stage proposal result checkpointAt=>do
  let (s,_) ←run.write observedAt s (finishStage stage result proposal checkpointAt)
  let run:={run with now:=checkpointAt}
  if result.status=.succeeded then
   match stage.after with
   | some next=>.ok (s,some (run.enter next))
   | none=>.ok (s,some (run,.close))
  else .ok (s,some (run,.stop result))
 | .stop result=>do
  let (s,_) ←run.write observedAt s (finishCycle result.status result.reasonCodes.head? run.now)
  .ok (s,some (run,.record))
 | .timeUp=>do
  let (s,_) ←run.write observedAt s
   (finishCycle .waiting (some "CYCLE_TIME_BUDGET_REACHED") run.now)
  .ok (s,some (run,.record))
 | .close=>do
  let (s,_) ←run.write observedAt s (finishCycle .succeeded none run.now)
  .ok (s,some (run,.record))
 | .record=>do
  let s ←run.recordCycle observedAt run.now s
  .ok (s,some (run,.release))
 | .interrupted stage=>do
  let (s,_) ←run.write observedAt s
   (finishStage stage (waitingResult choice.clock) none choice.clock)
  .ok (s,some (run,.interruptedCycle choice.clock))
 | .interruptedCycle checkpointAt=>do
  let (s,_) ←run.write observedAt s
   (finishCycle .waiting (some "CURRENT_RUN_INTERRUPTED") checkpointAt)
  .ok (s,some (run,.recordFault checkpointAt))
 | .failed stage=>do
  let (s,_) ←run.write observedAt s (finishStage stage failedResult none run.now)
  .ok (s,some (run,.failedCycle))
 | .failedCycle=>do
  let (s,_) ←run.write observedAt s
   (finishCycle .failed (some "CURRENT_RUN_TECHNICAL_FAILURE") run.now)
  .ok (s,some (run,.recordFault run.now))
 | .recordFault now=>do
  let s ←run.recordCycle observedAt now s
  .ok (s,some (run,.release))
 | .release=>.ok ({s with lease:=releaseLease run.ownerRef run.fencingToken s.lease},none)

structure World where
 store:Store
 runs:ℕ→Option (Run × Point)

def World.empty:World:=⟨Store.empty,fun _=>none⟩

inductive Event where
 | start (p:ℕ)(ownerRef configFingerprint:String)(opportunityKeys:List String)
   (allowQaProviderMutations ready:Bool)(clock observedAt:ℤ)
 | step (p:ℕ)(choice:Choice)
 | crash (p:ℕ)
 | protect (p:ℕ)(observedAt:ℤ)
 | abandon (ref:CycleRef)(reason:String)(clock:ℤ)

def World.set (w:World)(p:ℕ)(run:Option (Run × Point)):World:=
 {w with runs:=Function.update w.runs p run}

def start (w:World)(p:ℕ)(ownerRef configFingerprint:String)
 (opportunityKeys:List String)(allowQaProviderMutations ready:Bool)
 (clock observedAt:ℤ):World:=
 match w.runs p with
 | some _=>w
 | none =>
  match acquireLease ownerRef observedAt (configs configFingerprint).leaseSeconds w.store.lease with
  | none=>w
  | some (lease,fencingToken) =>
   ({w with store:={w.store with lease:=lease}}).set p (some ({
    ownerRef
    fencingToken
    configFingerprint
    opportunityKeys
    allowQaProviderMutations
    ready
    startedAt:=clock
    now:=clock},.observe))

def advance (w:World)(p:ℕ)(run:Run)(point:Point)(choice:Choice):World:=
 match choice.fault,perform configs run point choice w.store with
 | none,.ok (s,next)=>World.set {w with store:=s} p next
 | none,.error _=>w.set p (raised run point .exception)
 | some fault,.ok (s,_) =>
  World.set (if choice.committed then {w with store:=s} else w) p (raised run point fault)
 | some fault,.error _=>w.set p (raised run point fault)

def protect (w:World)(run:Run)(observedAt:ℤ):World:=
 match heartbeatLease run.ownerRef run.fencingToken observedAt (run.config configs).leaseSeconds
   w.store.lease with
 | .ok lease=>{w with store:={w.store with lease:=lease}}
 | .error _=>w

def step (w:World):Event→World
 | .start p ownerRef configFingerprint opportunityKeys allow ready clock observedAt =>
  start configs w p ownerRef configFingerprint opportunityKeys allow ready clock observedAt
 | .step p choice =>
  match w.runs p with
  | none=>w
  | some (run,point)=>advance configs w p run point choice
 | .crash p=>w.set p none
 | .protect p observedAt =>
  match w.runs p with
  | none=>w
  | some (run,_)=>protect configs w run observedAt
 | .abandon ref reason clock =>
  match abandonCycle ref reason clock w.store with
  | .ok (s,_)=>{w with store:=s}
  | .error _=>w

def reached (events:List Event):World:=events.foldl (step configs) World.empty

end Kivou.AcquisitionRuntime
