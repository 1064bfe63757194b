import Mathlib.Data.List.Dedup
import Mathlib.Logic.Function.Basic
import Kivou.Runs

set_option autoImplicit false

/-! `signals.personalization.for_you_worker` and its queue. A run claims a batch under a lease,
generates outside any transaction and writes the whole batch back, row by row, matched on
`for_you_id` alone. What the purge and the priority read in other tables is in the label of the
claim: the rows they mean. Instants are microseconds since the epoch. -/
namespace Kivou.ForYouQueue

inductive State where
 | pending | running | completed
 deriving DecidableEq

inductive Provenance where
 | fallback | generated

inductive Fit where
 | strong | weak | none

/-- A row of `for_you_sentence`, by the columns that the queue writes. -/
structure Row where
 (sentence fallbackSentence:String)
 provenance:Provenance
 state:State
 (validationReason validationDetail:Option String)
 (attemptDay leaseOwner leaseExpiresAt:Option ℕ)
 rawProviderResponse:Option String
 rawResponseExpiresAt:Option ℕ
 modelFit:Option Fit
 (createdAt updatedAt:ℕ)
 completedAt:Option ℕ

def day:ℕ:=24*3600*1000000
def leaseTtl:ℕ:=15*60*1000000
def rawResponseRetention:ℕ:=30*day

/-- The row that `_persist` deposits. -/
def deposited (fallback:String)(now:ℕ):Row:=
 { sentence:=fallback
   fallbackSentence:=fallback
   provenance:=.fallback
   state:=.pending
   validationReason:=none
   validationDetail:=none
   attemptDay:=none
   leaseOwner:=none
   leaseExpiresAt:=none
   rawProviderResponse:=none
   rawResponseExpiresAt:=none
   modelFit:=none
   createdAt:=now
   updatedAt:=now
   completedAt:=none}

def reclaimable (now:ℕ)(row:Row):Bool:=
 row.state==.pending||row.state==.running&&row.leaseExpiresAt.any (· ≤ now)

def forgetRaw (now:ℕ)(row:Row):Row:=
 if row.rawResponseExpiresAt.any (· ≤ now) then
  {row with rawProviderResponse:=none,rawResponseExpiresAt:=none}
 else row

def purged (now:ℕ)(doomed:List String)(rows:String→Option Row)(id:String):Option Row:=
 ((rows id).map (forgetRaw now)).filter fun row=>!(reclaimable now row&&doomed.contains id)

def leased (now worker:ℕ)(row:Row):Row:=
 {row with
   state:=.running
   attemptDay:=some (now/day)
   leaseOwner:=some worker
   leaseExpiresAt:=some (now+leaseTtl)
   updatedAt:=now}

def claimed (now:ℕ)(rows:String→Option Row)(chosen:List String):List String:=
 chosen.dedup.filter fun id=>(rows id).any (reclaimable now)

def claimRows (now worker:ℕ)(batch:List String)(rows:String→Option Row)(id:String) :
 Option Row:=
 if id∈batch then (rows id).map (leased now worker) else rows id

/-- `_Outcome`, without the id of its row. -/
structure Outcome where
 (sentence reason detail rawResponse:Option String)
 modelFit:Option Fit

inductive Attempt where
 | answered (outcome:Outcome)
 | exhausted

/-- The loop of `run`: what is submitted, collected and left. -/
structure Pool where
 (left pending:List String)
 outcomes:List (String × Outcome)
 requeued:List String
 budgetExhausted:Bool

namespace Pool

def start (concurrency:ℕ)(batch:List String):Pool:=
 ⟨batch.drop concurrency,batch.take concurrency,[],[],false⟩

def submitNext (pool:Pool):Pool:=
 match pool.left with
 | []=>pool
 | id::left=>{pool with left,pending:=pool.pending++[id]}

def collect (pool:Pool)(done:String × Attempt):Pool:=
 if done.1∈pool.pending then
  let pool:={pool with pending:=pool.pending.erase done.1}
  match done.2 with
  | .exhausted=>{pool with requeued:=pool.requeued++[done.1],budgetExhausted:=true}
  | .answered outcome =>
   let pool:={pool with outcomes:=pool.outcomes++[(done.1,outcome)]}
   if pool.budgetExhausted then pool else pool.submitNext
 else pool

def requeueIds (pool:Pool):List String:=
 if pool.budgetExhausted then pool.requeued++pool.left else pool.requeued

end Pool

def complete (now:ℕ)(outcome:Outcome)(row:Row):Row:=
 {row with
   state:=.completed
   provenance:=if outcome.sentence.isSome then .generated else .fallback
   validationReason:=outcome.reason
   validationDetail:=outcome.detail
   leaseOwner:=none
   leaseExpiresAt:=none
   updatedAt:=now
   completedAt:=some now
   rawProviderResponse:=outcome.rawResponse
   modelFit:=outcome.modelFit
   rawResponseExpiresAt:=outcome.rawResponse.map fun _=>now+rawResponseRetention
   sentence:=outcome.sentence.getD row.sentence}

def requeue (now:ℕ)(row:Row):Row:=
 {row with
   state:=.pending
   attemptDay:=none
   leaseOwner:=none
   leaseExpiresAt:=none
   updatedAt:=now}

def writeOutcomes (now:ℕ)(outcomes:List (String × Outcome))(rows:String→Option Row) :
 String→Option Row:=
 outcomes.foldl
  (fun rows done=>Function.update rows done.1 ((rows done.1).map (complete now done.2))) rows

def writeBack (now:ℕ)(pool:Pool)(rows:String→Option Row)(id:String):Option Row:=
 let completed:=writeOutcomes now pool.outcomes rows
 if id∈pool.requeueIds then (completed id).map (requeue now) else completed id

structure Run where
 (worker now:ℕ)
 batch:List String

/-- `issued` counts the worker ids drawn so far. `generated` is not a column:
it tells whether `sentence` was last written by a completion. -/
structure World where
 rows:String→Option Row
 generated:String→Bool
 runs:ℕ→Option Run
 issued:ℕ

def World.empty:World:=⟨fun _=>none,fun _=>false,fun _=>none,0⟩

inductive Step where
 | deposit (id fallback:String)(now:ℕ)
 | claim (process now:ℕ)(doomed chosen:List String)
 | crash (process:ℕ)
 | finish (process concurrency:ℕ)(completions:List (String × Attempt))

def Run.pool (run:Run)(concurrency:ℕ)(completions:List (String × Attempt)):Pool:=
 completions.foldl Pool.collect (Pool.start concurrency run.batch)

def claim (w:World)(process now:ℕ)(doomed chosen:List String):World:=
 let rows:=purged now doomed w.rows
 let batch:=claimed now rows chosen
 {w with
   rows:=claimRows now w.issued batch rows
   runs:=Function.update w.runs process (some ⟨w.issued,now,batch⟩)
   issued:=w.issued+1}

def finish (w:World)(process:ℕ)(run:Run)(pool:Pool):World:=
 {w with
   rows:=writeBack run.now pool w.rows
   generated:=fun id=>w.generated id||pool.outcomes.any fun done=>done.1==id&&done.2.sentence.isSome
   runs:=Function.update w.runs process none}

def next (w:World):Step→World
 | .deposit id fallback now =>
  match w.rows id with
  | some _=>w
  | none =>
   {w with
     rows:=Function.update w.rows id (some (deposited fallback now))
     generated:=Function.update w.generated id false}
 | .claim process now doomed chosen =>
  match w.runs process with
  | some _=>w
  | none=>claim w process now doomed chosen
 | .crash process=>{w with runs:=Function.update w.runs process none}
 | .finish process concurrency completions =>
  match w.runs process with
  | none=>w
  | some run =>
   let pool:=run.pool concurrency completions
   if pool.pending=[] then finish w process run pool else w

def reached (steps:List Step):World:=steps.foldl next World.empty

end Kivou.ForYouQueue
