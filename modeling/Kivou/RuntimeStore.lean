import Kivou.Decimals
import Kivou.PythonValues
import Mathlib.Algebra.BigOperators.Group.List.Basic
import Mathlib.Logic.Function.Basic

set_option autoImplicit false

/-! One lease row, the last observation, and for each cycle its row, its eleven stages and the
attempts of each. Every operation is one transaction: it gives the rows that it leaves, or the
failure after which nothing is written. Amounts are columns of six decimals. -/
namespace Kivou.AcquisitionRuntime
open PythonValues

inductive Stage where
 | signalSeed
 | supplierDiscovery
 | contactDiscovery
 | companyResearch
 | decision
 | personalization
 | compliance
 | campaign
 | providerHandoff
 | response
 | attributionConversion
 deriving DecidableEq

def Stage.command:Stage→String
 | .signalSeed=>"resolve_signal_seed"
 | .supplierDiscovery=>"discover_suppliers"
 | .contactDiscovery=>"find_decision_makers"
 | .companyResearch=>"enrich_company"
 | .decision=>"evaluate_opportunity"
 | .personalization=>"prepare_campaign"
 | .compliance=>"assess_campaign_compliance"
 | .campaign=>"schedule_campaign"
 | .providerHandoff=>"execute_provider_operations"
 | .response=>"classify_response"
 | .attributionConversion=>"reconcile_conversion"

def Stage.all:List Stage:=
 [.signalSeed,.supplierDiscovery,.contactDiscovery,.companyResearch,.decision,
  .personalization,.compliance,.campaign,.providerHandoff,.response,.attributionConversion]

def Stage.index (stage:Stage):ℕ:=Stage.all.idxOf stage

def Stage.after (stage:Stage):Option Stage:=Stage.all[stage.index+1]?

/-- `KIVOU_STAGE_COSTS`. -/
def Stage.cost:Stage→ℚ
 | .supplierDiscovery=>2
 | .contactDiscovery=>6
 | .companyResearch=>2
 | _=>0

/-- The members that `RuntimeStageStatus` and `RuntimeCycleStatus` both have. -/
inductive Status where
 | pending
 | running
 | waiting
 | succeeded
 | blocked
 | failed
 | suppressed
 | cancelled
 deriving DecidableEq

structure Proposal where
 planRef:String
 actionIndex:ℕ
 (command targetRef argumentFingerprint:String)
 estimatedCost:ℚ
 (reasonCodes evidenceRefs:List String)
 deriving DecidableEq

/-- `RuntimeActionResult`, before its validation. -/
structure ActionResult where
 status:Status
 resultRefs:List String:=[]
 reservedCost:ℚ:=0
 observedCost:ℚ:=0
 reasonCodes:List String:=[]
 retryAt:Option ℤ:=none
 replaySameAttempt:Bool:=false
 deriving DecidableEq

/-- What the validators of `RuntimeActionResult` let through. -/
structure ActionResult.Accepted (r:ActionResult):Prop where
 bounded:r.status≠.pending ∧ r.status≠.running
 reasoned:r.status≠.succeeded → r.reasonCodes≠[]
 reserved:0≤r.reservedCost ∧ r.reservedCost≤50
 observed:0≤r.observedCost ∧ r.observedCost≤50
 retried:r.retryAt.isSome → r.status=.waiting
 replayed:r.replaySameAttempt=true → r.status=.waiting ∧ r.retryAt.isSome

inductive Failure where
 | conflict (message:String)
 | integrityError
 | validationError
 | noResultFound
 | keyError

/-- `cycle_ref` is the SHA-256 of these two. -/
structure CycleRef where
 (configFingerprint opportunityKey:String)
 deriving DecidableEq

structure CycleRow where
 status:Status
 nextStage:Option Stage
 spentCost:ℚ
 lastReasonCode:Option String
 (startedAt updatedAt:ℤ)
 completedAt:Option ℤ

structure StageRow where
 status:Status
 attemptCount:ℕ
 (planRef command argumentFingerprint:Option String)
 resultRefs:List String
 (reservedCost observedCost:ℚ)
 reasonCodes:List String
 retryAt:Option ℤ
 replaySameAttempt:Bool
 (startedAt completedAt:Option ℤ)
 updatedAt:ℤ

structure AttemptRow where
 stage:Stage
 attemptCount:ℕ
 status:Status
 (reservedCost observedCost:ℚ)
 proposal:Option Proposal
 retryAt:Option ℤ
 replaySameAttempt:Bool
 completedAt:Option ℤ

structure Cycle where
 row:CycleRow
 stages:Stage→StageRow
 attempts:List AttemptRow

/-- `Numeric(12, 6)`. -/
def numeric (cost:ℚ):ℚ:=Decimals.roundTo 6 cost

def Status.terminal:Status→Bool
 | .succeeded=>true
 | .suppressed=>true
 | _=>false

/-- `ck_acquisition_runtime_cycle_lifecycle`. -/
def CycleRow.lifecycle (row:CycleRow):Bool:=
 if row.status.terminal then row.completedAt.isSome&&row.nextStage.isNone
 else row.completedAt.isNone

def retryChecks (status:Status)(retryAt:Option ℤ)(replaySameAttempt:Bool):Bool:=
 (retryAt.isNone||status==.waiting) &&
  (!replaySameAttempt||(status==.waiting&&retryAt.isSome))

def StageRow.checks (row:StageRow):Bool:=retryChecks row.status row.retryAt row.replaySameAttempt &&
  match row.status with
  | .pending=>row.attemptCount==0&&row.startedAt.isNone&&row.completedAt.isNone
  | .running=>decide (1≤row.attemptCount)&&row.startedAt.isSome&&row.completedAt.isNone
  | _=>decide (1≤row.attemptCount)&&row.startedAt.isSome&&row.completedAt.isSome

def AttemptRow.checks (row:AttemptRow):Bool:=
 retryChecks row.status row.retryAt row.replaySameAttempt &&
  row.status != .pending&&(row.status==.running)==row.completedAt.isNone &&
  decide (1≤row.attemptCount)

def Cycle.checked (c:Cycle):Except Failure Cycle:=
 if c.row.lifecycle&&Stage.all.all (fun stage=>(c.stages stage).checks) &&
   c.attempts.all AttemptRow.checks then
  .ok c
 else .error .integrityError

def AttemptRow.charge (a:AttemptRow):ℚ:=max a.reservedCost a.observedCost

/-- `_spent_cost`. -/
def Cycle.spentCost (c:Cycle):ℚ:=(c.attempts.map AttemptRow.charge).sum

def AttemptRow.is (stage:Stage)(attemptCount:ℕ)(a:AttemptRow):Bool:=
 a.stage==stage&&a.attemptCount==attemptCount

def Cycle.attempt? (c:Cycle)(stage:Stage)(attemptCount:ℕ):Option AttemptRow:=
 c.attempts.find? (AttemptRow.is stage attemptCount)

/-- `UPDATE` of one attempt. -/
def Cycle.updateAttempt (c:Cycle)(stage:Stage)(attemptCount:ℕ) (f:AttemptRow→AttemptRow):Cycle:=
 {c with attempts:=c.attempts.map fun a=>if a.is stage attemptCount then f a else a}

/-- `UPDATE` of one stage. -/
def Cycle.updateStage (c:Cycle)(stage:Stage)(f:StageRow→StageRow):Cycle:=
 {c with stages:=Function.update c.stages stage (f (c.stages stage))}

def Cycle.updateRow (c:Cycle)(f:CycleRow→CycleRow):Cycle:={c with row:=f c.row}

/-- What `_create_cycle` inserts. -/
def createCycle (now:ℤ):Cycle where
 row:={
  status:=.pending
  nextStage:=some .signalSeed
  spentCost:=0
  lastReasonCode:=none
  startedAt:=now
  updatedAt:=now
  completedAt:=none}
 stages _:={
  status:=.pending
  attemptCount:=0
  planRef:=none
  command:=none
  argumentFingerprint:=none
  resultRefs:=[]
  reservedCost:=0
  observedCost:=0
  reasonCodes:=[]
  retryAt:=none
  replaySameAttempt:=false
  startedAt:=none
  completedAt:=none
  updatedAt:=now}
 attempts:=[]

structure CycleSnapshot where
 status:Status
 nextStage:Option Stage
 spentCost:ℚ

/-- `_snapshot`; the model bounds the cost that it can show. -/
def Cycle.snapshot (c:Cycle):Except Failure CycleSnapshot:=
 if 0≤c.row.spentCost ∧ c.row.spentCost≤50 then .ok ⟨c.row.status,c.row.nextStage,c.row.spentCost⟩
 else .error .validationError

structure StageSnapshot where
 status:Status
 attemptCount:ℕ
 resultRefs:List String
 retryAt:Option ℤ
 replaySameAttempt:Bool
 deriving DecidableEq

def StageRow.snapshot (row:StageRow):StageSnapshot:=
 ⟨row.status,row.attemptCount,row.resultRefs,row.retryAt,row.replaySameAttempt⟩

def Cycle.replay (c:Cycle)(stage:Stage)(now:ℤ):Cycle:=
 ((c.updateAttempt stage (c.stages stage).attemptCount fun a=>
   { a with status:=.running,retryAt:=none,replaySameAttempt:=false,
            completedAt:=none}).updateStage stage fun row=>
   { row with status:=.running,reasonCodes:=[],retryAt:=none,
              replaySameAttempt:=false,completedAt:=none,updatedAt:=now}).updateRow
  fun row=>{row with status:=.running,lastReasonCode:=none,updatedAt:=now}

def Cycle.restart (c:Cycle)(stage:Stage)(now:ℤ):Cycle:=(c.updateStage stage fun row=>
  { row with status:=.running,attemptCount:=row.attemptCount+1,planRef:=none,
             command:=none,argumentFingerprint:=none,reservedCost:=0,
             observedCost:=0,reasonCodes:=[],retryAt:=none,replaySameAttempt:=false,
             startedAt:=some now,completedAt:=none,updatedAt:=now}).updateRow
  fun row=>{ row with status:=.running,nextStage:=some stage,lastReasonCode:=none,
                        completedAt:=none,updatedAt:=now}

def beginStage (stage:Stage)(now:ℤ)(c:Cycle):Except Failure (Cycle × StageSnapshot):=
 let row:=c.stages stage
 if row.status=.waiting ∧ row.retryAt.any (fun retryAt=>decide (now<retryAt)) then
  .ok (c,row.snapshot)
 else if row.status=.succeeded ∨ row.status=.suppressed then
  .error (.conflict "terminal runtime stage cannot restart")
 else if row.status=.running then .ok (c,row.snapshot)
 else if row.status=.waiting ∧ row.replaySameAttempt then
  match c.attempt? stage row.attemptCount with
  | none=>.error .noResultFound
  | some attempt =>
   if attempt.status≠.waiting ∨ attempt.replaySameAttempt=false then
    .error (.conflict "runtime same-attempt replay checkpoint drifted")
   else do
    let c' ←(c.replay stage now).checked
    .ok (c',(c'.stages stage).snapshot)
 else do
  let c' ←(c.restart stage now).checked
  .ok (c',(c'.stages stage).snapshot)

structure Reservation where
 (accepted created:Bool)
 (reservedCost totalCycleCost:ℚ)
 proposal:Option Proposal
 deriving DecidableEq

/-- `RuntimeStageReservation`; the model bounds the total that it can show. -/
def reservation (accepted created:Bool)(reservedCost total:ℚ)(proposal:Option Proposal) :
 Except Failure Reservation:=
 if 0≤total ∧ total≤50 ∧ proposal.all (fun p=>decide (p.estimatedCost=reservedCost)) then
  .ok ⟨accepted,created,reservedCost,total,proposal⟩
 else .error .validationError

def Cycle.charge (c:Cycle)(stage:Stage)(reservedCost total:ℚ)(now:ℤ):Cycle:=
 (c.updateStage stage fun row=>{row with reservedCost:=reservedCost,updatedAt:=now}).updateRow
  fun row=>{row with spentCost:=total,updatedAt:=now}

def unreservedInterruption (attempt:AttemptRow)(reservedCost:ℚ):Bool:=
 attempt.status==.running&&decide (attempt.reservedCost=0)&&decide (0<reservedCost) &&
  decide (attempt.observedCost=0)&&attempt.proposal.isNone&&attempt.retryAt.isNone &&
  attempt.completedAt.isNone

def reservedAttempt (stage:Stage)(attemptCount:ℕ)(reservedCost:ℚ):AttemptRow where
 stage
 attemptCount
 status:=.running
 reservedCost
 observedCost:=0
 proposal:=none
 retryAt:=none
 replaySameAttempt:=false
 completedAt:=none

def reserveStageCost (stage:Stage)(attemptCount:ℕ)(reservedCost maximumCycleCost:ℚ)
 (now:ℤ)(c:Cycle):Except Failure (Cycle × Reservation):=
 let row:=c.stages stage
 let total:=c.spentCost
 if row.status≠.running ∨ row.attemptCount≠attemptCount then
  .error (.conflict "runtime attempt cannot reserve cost")
 else
  match c.attempt? stage attemptCount with
  | some attempt =>
   if unreservedInterruption attempt reservedCost then
    if maximumCycleCost<total+reservedCost then do
     let r ←reservation false false reservedCost total none
     .ok (c,r)
    else do
     let r ←reservation true true reservedCost (total+reservedCost) none
     let c' ←((c.updateAttempt stage attemptCount fun a=>
      {a with reservedCost:=reservedCost}).charge stage reservedCost
       (total+reservedCost) now).checked
     .ok (c',r)
   else if attempt.status≠.running ∨ attempt.reservedCost≠reservedCost ∨
     attempt.observedCost≠0 ∨ attempt.retryAt.isSome ∨ attempt.completedAt.isSome then
    .error (.conflict "runtime attempt reservation is not replay safe")
   else do
    let r ←reservation true false reservedCost total attempt.proposal
    .ok (c,r)
  | none =>
   if maximumCycleCost<total+reservedCost then do
    let r ←reservation false false reservedCost total none
    .ok (c,r)
   else do
    let r ←reservation true true reservedCost (total+reservedCost) none
    let c' ←(({ c with attempts:=
     c.attempts++[reservedAttempt stage attemptCount reservedCost]}:Cycle).charge stage
      reservedCost (total+reservedCost) now).checked
    .ok (c',r)

def bindStageProposal (stage:Stage)(attemptCount:ℕ)(proposal:Proposal)(now:ℤ)
 (c:Cycle):Except Failure (Cycle × Proposal):=
 let row:=c.stages stage
 match c.attempt? stage attemptCount with
 | none=>.error .noResultFound
 | some attempt =>
  if row.status≠.running ∨ row.attemptCount≠attemptCount ∨ attempt.status≠.running ∨
    attempt.reservedCost≠proposal.estimatedCost then
   .error (.conflict "runtime proposal does not match its reserved attempt")
  else
   match attempt.proposal with
   | some stored =>
    if stored≠proposal then .error (.conflict "runtime proposal changed during replay")
    else .ok (c,stored)
   | none=>do
    let c' ←((c.updateAttempt stage attemptCount fun a=>
     {a with proposal:=some proposal}).updateStage stage fun row=>
      { row with planRef:=some proposal.planRef,command:=some proposal.command,
                 argumentFingerprint:=some proposal.argumentFingerprint,
                 updatedAt:=now}).checked
    .ok (c',proposal)

/-- `_next_stage_after`. -/
def nextStageAfter (stage:Stage)(status:Status):Option Stage:=
 match status with
 | .suppressed=>none
 | .succeeded=>stage.after
 | _=>some stage

def finalizeAttempt (stage:Stage)(result:ActionResult)(proposal:Option Proposal)(now:ℤ)
 (c:Cycle):Except Failure Cycle:=
 let attemptCount:=(c.stages stage).attemptCount
 match c.attempt? stage attemptCount with
 | none =>
  .ok { c with attempts:=c.attempts++[{
   stage
   attemptCount
   status:=result.status
   reservedCost:=numeric result.reservedCost
   observedCost:=numeric result.observedCost
   proposal
   retryAt:=result.retryAt
   replaySameAttempt:=result.replaySameAttempt
   completedAt:=some now}]}
 | some attempt =>
  if attempt.status≠.running then .error (.conflict "runtime attempt was already finalized")
  else if result.reservedCost≠0 ∧ result.reservedCost≠attempt.reservedCost then
   .error (.conflict "runtime attempt reserved cost changed")
  else if proposal.isSome ∧ attempt.proposal≠proposal then
   .error (.conflict "runtime attempt proposal changed")
  else
   .ok (c.updateAttempt stage attemptCount fun a=>
    { a with status:=result.status,observedCost:=numeric result.observedCost,
             retryAt:=result.retryAt,replaySameAttempt:=result.replaySameAttempt,
             completedAt:=some now})

def finishedReservation (stage:Stage)(result:ActionResult)(c:Cycle):ℚ:=
 ((c.attempt? stage (c.stages stage).attemptCount).map AttemptRow.reservedCost).getD
  (numeric result.reservedCost)

def finishStage (stage:Stage)(result:ActionResult)(proposal:Option Proposal)(now:ℤ)
 (c:Cycle):Except Failure Cycle:=
 if (c.stages stage).status≠.running then
  .error (.conflict "runtime stage is not owned for completion")
 else do
  let c₁ ←finalizeAttempt stage result proposal now c
  let c₂:=c₁.updateStage stage fun row=>
   {row with
     status:=result.status
     planRef:=(proposal.map Proposal.planRef).or row.planRef
     command:=(proposal.map Proposal.command).or row.command
     argumentFingerprint:=(proposal.map Proposal.argumentFingerprint).or row.argumentFingerprint
     resultRefs:=result.resultRefs
     reservedCost:=finishedReservation stage result c
     observedCost:=numeric result.observedCost
     reasonCodes:=result.reasonCodes
     retryAt:=result.retryAt
     replaySameAttempt:=result.replaySameAttempt
     completedAt:=some now
     updatedAt:=now}
  (c₂.updateRow fun row=>
   {row with
     status:=if result.status=.succeeded then .running else result.status
     nextStage:=nextStageAfter stage result.status
     spentCost:=c₁.spentCost
     lastReasonCode:=result.reasonCodes.head?
     completedAt:=if result.status=.suppressed then some now else none
     updatedAt:=now}).checked

def finishCycle (status:Status)(reasonCode:Option String)(now:ℤ)(c:Cycle) :
 Except Failure Cycle:=
 if status=.succeeded ∧ c.row.nextStage.isSome then
  .error (.conflict "incomplete runtime cycle cannot succeed")
 else
  (c.updateRow fun row=>
   {row with
     status:=status
     nextStage:=if status.terminal then none else row.nextStage
     lastReasonCode:=reasonCode
     completedAt:=if status.terminal then some now else none
     updatedAt:=now}).checked

/-- `UPDATE` of `abandon_cycle`, and whether it took the row. -/
def abandonRows (now:ℤ)(c:Cycle):Cycle × Bool:=
 if c.row.status.terminal then (c,false)
 else
  (c.updateRow fun row=>
   { row with status:=.suppressed,nextStage:=none,
              lastReasonCode:=some "OPERATOR_ABANDONED",completedAt:=some now,
              updatedAt:=now},true)

structure Lease where
 ownerRef:Option String:=none
 expiresAt:Option ℤ:=none
 generation:ℕ:=0

def Lease.heldBy (lease:Lease)(ownerRef:String)(fencingToken:ℕ)(observedAt:ℤ):Bool:=
 lease.ownerRef==some ownerRef&&lease.generation==fencingToken &&
  lease.expiresAt.any fun expiresAt=>decide (observedAt<expiresAt)

def acquireLease (ownerRef:String)(observedAt leaseSeconds:ℤ)(lease:Lease) : Option (Lease × ℕ):=
 if lease.ownerRef=none ∨ lease.ownerRef=some ownerRef ∨
   lease.expiresAt.any (fun expiresAt=>decide (expiresAt≤observedAt)) then
  let generation:=lease.generation+1
  some (⟨some ownerRef,some (observedAt+leaseSeconds*1000000),generation⟩,generation)
 else none

def heartbeatLease (ownerRef:String)(fencingToken:ℕ)(observedAt leaseSeconds:ℤ)
 (lease:Lease):Except Failure Lease:=
 if lease.heldBy ownerRef fencingToken observedAt then
  .ok {lease with expiresAt:=some (observedAt+leaseSeconds*1000000)}
 else .error (.conflict "runtime lease ownership was lost")

def releaseLease (ownerRef:String)(fencingToken:ℕ)(lease:Lease):Lease:=
 if lease.ownerRef=some ownerRef ∧ lease.generation=fencingToken then
  {lease with ownerRef:=none,expiresAt:=none}
 else lease

/-- The lease row is there from the first acquisition on; its values then are
the defaults. The observation is the heartbeat of the last one recorded. -/
structure Store where
 lease:Lease
 heartbeatAt:Option ℤ
 cycles:CycleRef→Option Cycle

def Store.empty:Store:=⟨{},none,fun _=>none⟩

def Store.put (s:Store)(ref:CycleRef)(c:Cycle):Store:=
 {s with cycles:=Function.update s.cycles ref (some c)}

/-- `_require_active_lease`. -/
def requireActiveLease (s:Store)(ownerRef:String)(fencingToken:ℕ)(observedAt:ℤ) :
 Except Failure Unit:=
 if s.lease.heldBy ownerRef fencingToken observedAt then .ok ()
 else .error (.conflict "runtime observation requires the active lease owner")

def recordRuntimeObservation (now:ℤ)(s:Store):Except Failure Store:=
 if s.heartbeatAt.all fun heartbeatAt=>decide (heartbeatAt≤now) then
  .ok {s with heartbeatAt:=some now}
 else .error (.conflict "runtime observation timestamp moved backwards")

def recordCycleObservation (ref:CycleRef)(now:ℤ)(s:Store):Except Failure Store:=
 match s.heartbeatAt,s.cycles ref with
 | none,_=>.error (.conflict "runtime observation is unavailable")
 | some _,none=>.error .keyError
 | some heartbeatAt,some c =>
  if now<c.row.updatedAt then .error (.conflict "runtime cycle observation follows its heartbeat")
  else if now<heartbeatAt then
   .error (.conflict "runtime cycle observation timestamp moved backwards")
  else .ok {s with heartbeatAt:=some now}

def Store.onCycle {α:Type}(s:Store)(ref:CycleRef)
 (f:Cycle→Except Failure (Cycle × α)):Except Failure (Store × α):=
 match s.cycles ref with
 | none=>.error .keyError
 | some c=>do
  let (c',a) ←f c
  .ok (s.put ref c',a)

/-- `abandon_cycle` takes no lease; the answer is whether it took the row. -/
def abandonCycle (ref:CycleRef)(reason:String)(now:ℤ)(s:Store) : Except Failure (Store × Bool):=
 let cleaned:=strip reason
 if cleaned.isEmpty ∨ 200<cleaned.length then .error .validationError
 else s.onCycle ref fun c=>do
  let (c',taken):=abandonRows now c
  .ok (←c'.checked,taken)

/-- The cycle of the first key that has an unfinished one, else a new cycle of
the first key that has none, else that of the first key. -/
def resumeOrCreateCycle (configFingerprint:String)(opportunityKeys:List String)(now:ℤ)
 (s:Store):Except Failure (Store × CycleRef × CycleSnapshot):=
 let refs:=opportunityKeys.map (CycleRef.mk configFingerprint)
 match refs.find? fun ref=>(s.cycles ref).any fun c=>!c.row.status.terminal with
 | some ref=>do
  let c ←(s.cycles ref).elim (.error .keyError) .ok
  .ok (s,ref,←c.snapshot)
 | none =>
  match refs.find? fun ref=>(s.cycles ref).isNone with
  | some ref=>do
   let c:=createCycle now
   .ok (s.put ref c,ref,←c.snapshot)
  | none =>
   match refs.head? with
   | none=>.error .validationError
   | some ref=>do
    let c ←(s.cycles ref).elim (.error .keyError) .ok
    .ok (s,ref,←c.snapshot)

end Kivou.AcquisitionRuntime
