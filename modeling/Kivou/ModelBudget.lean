import Kivou.Decimals
import Kivou.PythonValues
import Kivou.Tables

set_option autoImplicit false

/-! `signals.model_runtime.budget` on PostgreSQL: a daily counter per usage and a journal of calls.
Amounts are Python decimals, added with the 28 digits of the default context, and columns are
`NUMERIC(14, 8)`. The local day of an instant is a parameter; nothing depends on the zone it is read
in. -/
namespace Kivou.ModelBudget
open PythonValues

inductive ModelUsage where
 | enrichmentJudge | enrichmentArbiter | forYou | hermes | documentClassifier | chiefOfStaff
 deriving DecidableEq

structure ModelRoute where
 usage:ModelUsage
 model:String
 dailyBudgetUsd:ℚ

inductive CallStatus where
 | reserved | succeeded | failed | rejectedBudget
 deriving DecidableEq

/-- A row of `model_daily_budget`. -/
structure Counter where
 usageDate:ℤ
 usage:ModelUsage
 (reservedUsd actualUsd:ℚ)
 updatedAt:ℤ

def Counter.key (c:Counter):ℤ × ModelUsage:=(c.usageDate,c.usage)

/-- A row of `model_call_journal`. -/
structure Call where
 callId:String
 usage:ModelUsage
 model:String
 (siren batchId:Option String)
 reservedUsd:ℚ
 actualUsd:Option ℚ
 (inputTokens outputTokens:Option ℤ)
 status:CallStatus
 errorCode:Option String
 calledAt:ℤ
 completedAt:Option ℤ

structure Ledger where
 counters:List Counter
 calls:List Call

def empty:Ledger:=⟨[],[]⟩

inductive Outcome where
 | done
 | exhausted (usage:ModelUsage)(capUsd actualUsd reservedUsd requestedUsd:ℚ)
 | raised
 deriving DecidableEq

def add (a b:ℚ):ℚ:=Decimals.significant 28 (a+b)
def sub (a b:ℚ):ℚ:=Decimals.significant 28 (a-b)

/-- What a `NUMERIC(14, 8)` column keeps. -/
def usd (q:ℚ):Option ℚ:=Decimals.numeric 14 8 q

variable (L:Ledger)(usageDate:ℤ)(usage:ModelUsage)(callId:String)(day:ℤ→ℤ)

def findCounter:Option Counter:=L.counters.find? (fun c=>c.key==(usageDate,usage))

def findCall:Option Call:=L.calls.find? (fun c=>c.callId==callId)

def ensureCounter (now:ℤ):Ledger:=
 if (findCounter L usageDate usage).isSome then L
 else {L with counters:=L.counters++[⟨usageDate,usage,0,0,now⟩]}

def setCounter (f:Counter → Counter) :
 Ledger:=
 {L with counters:=Tables.update (fun c=>c.key==(usageDate,usage)) f L.counters}

def setCall (f:Call→Call):Ledger:={L with calls:=Tables.update (fun c=>c.callId==callId) f L.calls}

def insertCall (row:Call):Option Ledger:=do
 let reservedUsd ←usd row.reservedUsd
 if (findCall L row.callId).isSome then none
 else some {L with calls:=L.calls++[{row with reservedUsd}]}

/-- `_active_call`: a known call whose reservation is still open. -/
def activeCall:Option Call:=(findCall L callId).filter (fun c=>c.status==.reserved)

def reserve (now:ℤ)(route:ModelRoute)(estimatedUsd:ℚ)(callId:String)
 (siren batchId:Option String)(L:Ledger):Option (Ledger × Outcome):=do
 guard (0≤estimatedUsd)
 let usageDate:=day now
 let L:=ensureCounter L usageDate route.usage now
 let counter ←findCounter L usageDate route.usage
 let call:Call:=
  { callId,siren,batchId
    usage:=route.usage
    model:=route.model
    reservedUsd:=estimatedUsd
    actualUsd:=none
    inputTokens:=none
    outputTokens:=none
    status:=.reserved
    errorCode:=none
    calledAt:=now
    completedAt:=none}
 if route.dailyBudgetUsd<add (add counter.actualUsd counter.reservedUsd) estimatedUsd then
  let L ←insertCall L
   {call with
     status:=.rejectedBudget
     errorCode:=some "DAILY_MODEL_BUDGET_EXHAUSTED"
     completedAt:=some now}
  return (L,.exhausted route.usage route.dailyBudgetUsd counter.actualUsd counter.reservedUsd
   estimatedUsd)
 else
  let reservedUsd ←usd (add counter.reservedUsd estimatedUsd)
  let L:=setCounter L usageDate route.usage (fun c=>{c with reservedUsd,updatedAt:=now})
  let L ←insertCall L call
  return (L,.done)

def succeed (now:ℤ)(callId:String)(actualUsd:ℚ)
 (inputTokens outputTokens:ℤ)(L:Ledger):Option (Ledger × Outcome):=do
 guard (0≤actualUsd)
 guard (0 ≤ inputTokens ∧ 0≤outputTokens)
 let call ←activeCall L callId
 let usageDate:=day call.calledAt
 let counter ←findCounter L usageDate call.usage
 let reservedTotal ←usd (sub counter.reservedUsd call.reservedUsd)
 guard (0≤reservedTotal)
 let actualTotal ←usd (add counter.actualUsd actualUsd)
 let actual ←usd actualUsd
 let L:=setCounter L usageDate call.usage (fun c=>
  {c with reservedUsd:=reservedTotal,actualUsd:=actualTotal,updatedAt:=now})
 let L:=setCall L callId (fun c=>
  {c with
    actualUsd:=some actual
    inputTokens:=some inputTokens
    outputTokens:=some outputTokens
    status:=.succeeded
    completedAt:=some now})
 return (L,.done)

def fail (now:ℤ)(callId errorCode:String)(L:Ledger) : Option (Ledger × Outcome):=do
 guard (strip errorCode≠"" ∧ errorCode.length≤128)
 let call ←activeCall L callId
 let usageDate:=day call.calledAt
 let counter ←findCounter L usageDate call.usage
 let reservedTotal ←usd (sub counter.reservedUsd call.reservedUsd)
 guard (0≤reservedTotal)
 let L:=setCounter L usageDate call.usage (fun c=>
  {c with reservedUsd:=reservedTotal,updatedAt:=now})
 let L:=setCall L callId (fun c=>
  {c with status:=.failed,errorCode:=some errorCode,completedAt:=some now})
 return (L,.done)

inductive Operation where
 | reserve (route:ModelRoute)(estimatedUsd:ℚ)(callId:String) (siren batchId:Option String)
 | succeed (callId:String)(actualUsd:ℚ)(inputTokens outputTokens:ℤ)
 | fail (callId errorCode:String)

/-- One call of the store: its clock, and whether the database broke it off for
a reason of its own, such as a text too long for its column. -/
structure Request where
 clock:DateTime
 operation:Operation
 interrupted:Bool

def attempt (r:Request)(L:Ledger):Option (Ledger × Outcome):=do
 guard (r.clock.aware ∧ r.interrupted=false)
 let now:=r.clock.toUtc.wall
 match r.operation with
 | .reserve route estimatedUsd callId siren batchId =>
  reserve day now route estimatedUsd callId siren batchId L
 | .succeed callId actualUsd inputTokens outputTokens =>
  succeed day now callId actualUsd inputTokens outputTokens L
 | .fail callId errorCode=>fail day now callId errorCode L

def execute (L:Ledger)(r:Request):Ledger × Outcome:=(attempt day r L).getD (L,.raised)

def run (requests:List Request):Ledger:=requests.foldl (fun L r=>(execute day L r).1) empty

def reservedUsd (L:Ledger)(usageDate:ℤ)(usage:ModelUsage):ℚ:=
 ((findCounter L usageDate usage).map Counter.reservedUsd).getD 0

def actualUsd (L:Ledger)(usageDate:ℤ)(usage:ModelUsage):ℚ:=
 ((findCounter L usageDate usage).map Counter.actualUsd).getD 0

def outstanding (usageDate:ℤ)(usage:ModelUsage)(c:Call):ℚ:=
 if c.status=.reserved ∧ day c.calledAt=usageDate ∧ c.usage=usage then c.reservedUsd else 0

def spent (usageDate:ℤ)(usage:ModelUsage)(c:Call):ℚ:=
 if c.status=.succeeded ∧ day c.calledAt=usageDate ∧ c.usage=usage then c.actualUsd.getD 0
 else 0

end Kivou.ModelBudget
