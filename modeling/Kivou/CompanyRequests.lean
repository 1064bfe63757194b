import Kivou.CompanyAliases
import Mathlib.Logic.Function.Basic

set_option autoImplicit false

/-! `signals.company_research.company_requests`: a click queues the job of a company, one click
after the other; workers claim jobs under leases, and finish them or not. -/
namespace Kivou.CompanyRequests
open CompanyIdentity Tables

def Siren:={siren:String // NineDigits siren}

instance:DecidableEq Siren:=inferInstanceAs (DecidableEq {siren:String // NineDigits siren})

inductive Field where
 | website | phone | email
 deriving DecidableEq

def fieldNames:List Field:=[.website,.phone,.email]

inductive Status where
 | queued | running | budgetWait | ready | partialResult | failed
 deriving DecidableEq

/-- `_ACTIVE` -/
def Status.active:Status→Bool
 | .queued | .running | .budgetWait=>true
 | .ready | .partialResult | .failed=>false

inductive ErrorCode where
 | workerInterrupted | dailyBudgetReached | companyEnrichmentFailed

inductive Outcome where
 | enriched | noChange
 deriving DecidableEq

/-- `company_directory_enrichment_job`. Instants are in seconds. -/
structure Job where
 siren:Siren
 jobId:ℕ
 status:Status
 attemptCount:ℕ
 queuedAt:ℤ
 (startedAt finishedAt:Option ℤ)
 leaseId:Option ℕ
 (leaseExpiresAt retryAfter:Option ℤ)
 errorCode:Option ErrorCode
 outcome:Option Outcome
 addedFields:List Field
 baselineFields:List (Field × String)

/-- The `company_enrichment_requested` events of the accounts. -/
structure Event where
 accountId:String
 jobId:ℕ

/-- What the directory shows of a company, and since when. `publicFields` is the
projection of `directory_company`, without empty values. -/
structure DirectoryRow where
 suppressed:Bool
 enrichmentObservedAt:Option ℤ
 publicFields:List (Field × String)
 observedAt:Field→Option ℤ

structure Db where
 jobs:List Job
 events:List Event
 directory:Siren→Option DirectoryRow

def cooldown:ℤ:=3600
def lease:ℤ:=30*60
def freshness:ℤ:=90*24*3600
def maxAttempts:ℕ:=3
def maxPendingRequests:ℕ:=100
def maxAccountPendingRequests:ℕ:=5

def Db.job? (db:Db)(siren:Siren):Option Job:=db.jobs.find? fun job=>job.siren==siren

/-- `_pending` -/
def Job.pending (job:Job):Bool:=
 job.status.active||(job.status==.failed&&job.attemptCount < maxAttempts)

def Db.owned (db:Db)(accountId:String)(job:Job):Bool:=
 db.events.any fun event=>event.accountId==accountId&&event.jobId==job.jobId

def Db.pendingCount (db:Db):ℕ:=db.jobs.countP Job.pending

def Db.accountPending (db:Db)(accountId:String):ℕ:=
 db.jobs.countP fun job=>job.pending&&db.owned accountId job

def publicFields (directory:Option DirectoryRow):List (Field × String):=
 directory.elim [] DirectoryRow.publicFields

/-- `_stale_fields`, in the order of `_FIELDS`. -/
def staleFields (directory:Option DirectoryRow)(fields:List (Field × String))(now:ℤ) :
 List Field:=
 fieldNames.filter fun field=>
  (fields.map Prod.fst).contains field &&
   !(directory.bind fun row=>row.observedAt field).any fun observed=>
    0≤now-observed&&now-observed≤freshness

inductive ViewState where
 | identityUnavailable | available
 | job (status:Status)
 deriving DecidableEq

structure View where
 state:ViewState
 canRefresh:Bool
 (missingFields staleFields addedFields:List Field)
 retryAfter:Option ℤ
 jobId:Option ℕ
 outcome:Option Outcome

def ViewState.active:ViewState→Bool
 | .job status=>status.active
 | _=>false

def Job.displayed (job:Job)(fresh:Bool)(missing stale:List Field):ViewState:=
 let state:=
  if job.status=.failed ∧ job.attemptCount < maxAttempts ∧ job.retryAfter.isSome then .queued
  else job.status
 if (state=.ready ∨ state=.partialResult) ∧ fresh=false then .available
 else if (state=.ready ∨ state=.partialResult) ∧ missing=[] ∧ stale=[] then .job .ready
 else if state=.ready ∧ (missing≠[] ∨ stale≠[]) then .job .partialResult
 else .job state

def Db.enrichmentView (db:Db)(siren:Siren)(now:ℤ):View:=
 let directory:=db.directory siren
 let suppressed:=directory.any DirectoryRow.suppressed
 let fields:=if suppressed then [] else publicFields directory
 let missing:=fieldNames.filter fun field=>!(fields.map Prod.fst).contains field
 let stale:=staleFields directory fields now
 let fresh:=(directory.bind DirectoryRow.enrichmentObservedAt).any fun observed=>
  now-observed≤freshness
 let shown (state:ViewState):ViewState:=if suppressed then .job .failed else state
 match db.job? siren with
 | none =>
  let state:ViewState:=
   if fresh=true ∧ missing=[] ∧ stale=[] then .job .ready else .available
  ⟨shown state,!suppressed&&state != .job .ready,missing,stale,[],none,none,none⟩
 | some job =>
  let state:=job.displayed fresh missing stale
  let cooled:=job.finishedAt.getD job.queuedAt+cooldown
  let canRefresh:=!suppressed&&!state.active&&state != .job .ready&&decide (cooled≤now)
  let retry:=
   if state.active=false ∧ canRefresh=false ∧ state≠.job .ready then
    some (job.retryAfter.elim cooled (max cooled))
   else job.retryAfter
  ⟨shown state,canRefresh,missing,stale,job.addedFields,retry,some job.jobId,job.outcome⟩

inductive Admission where
 | counting | countingAccount | writing

structure Request where
 siren:Siren
 accountId:Option String
 now:ℤ
 stage:Admission

def newJob (jobId:ℕ)(siren:Siren)(now:ℤ)(fields:List (Field × String)):Job:=
 ⟨siren,jobId,.queued,0,now,none,none,none,none,none,none,none,[],fields⟩

/-- The job is written where there was none, or in place of one that is not active. The
second component is `changed`. -/
def Db.queue (db:Db)(jobId:ℕ)(request:Request):Db × Bool:=
 let values:=newJob jobId request.siren request.now (publicFields (db.directory request.siren))
 let (jobs,changed):=
  match db.job? request.siren with
  | some previous =>
   let replaced:=fun job:Job=>
    job.siren==request.siren&&job.jobId==previous.jobId&&!job.status.active
   (update replaced (fun _=>values) db.jobs,db.jobs.any replaced)
  | none=>(db.jobs++[values],true)
 let events:=
  match request.accountId with
  | some accountId=>if changed then db.events++[⟨accountId,jobId⟩] else db.events
  | none=>db.events
 ({db with jobs,events},changed)

/-- The condition `due` of a claim. -/
def Job.due (job:Job)(now:ℤ):Bool:=job.attemptCount < maxAttempts &&
  (((job.status==.queued||job.status==.failed||job.status==.budgetWait) &&
    job.retryAfter.all (· ≤ now)) ||
   (job.status==.running&&job.leaseExpiresAt.any (· ≤ now)))

def Job.interrupted (job:Job)(now:ℤ):Bool:=
 job.status==.running&&job.leaseExpiresAt.any (· ≤ now)&&maxAttempts≤job.attemptCount

def Job.interrupt (job:Job)(now:ℤ):Job:=
 {job with
   status:=.failed
   errorCode:=some .workerInterrupted
   finishedAt:=some now
   leaseId:=none
   leaseExpiresAt:=none}

/-- The order of `queued_at, siren`. -/
def Job.before (job other:Job):Bool:=job.queuedAt<other.queuedAt ||
  (job.queuedAt==other.queuedAt&&decide (job.siren.val<other.siren.val))

def firstOf:List Job→Option Job
 | []=>none
 | job::jobs=>some (jobs.foldl (fun best job=>if job.before best then job else best) job)

def Job.claimed (job:Job)(leaseId:ℕ)(now:ℤ):Job:=
 {job with
   status:=.running
   attemptCount:=job.attemptCount+1
   leaseId:=some leaseId
   leaseExpiresAt:=some (now+lease)
   startedAt:=some now
   finishedAt:=none
   errorCode:=none}

/-- `_claim` with a limit of one. Rows that other transactions have locked are skipped. -/
def Db.claim (db:Db)(leaseId:ℕ)(locked:List Siren)(now:ℤ):Db × Option Job:=
 let jobs:=update (·.interrupted now) (·.interrupt now) db.jobs
 match firstOf (jobs.filter fun job=>job.due now&&!locked.contains job.siren) with
 | none=>({db with jobs},none)
 | some row =>
  ({db with
      jobs:=update (fun job=>job.siren==row.siren&&job.jobId==row.jobId&&job.due now)
       (·.claimed leaseId now) jobs},some (row.claimed leaseId now))

inductive Finding where
 | completed (status:Status)(addedFields:List Field)(outcome:Outcome)
 | exhausted
 | raised
 deriving DecidableEq

section
variable (nextBudgetDay:ℤ→ℤ)

/-- The values that `_finish` is called with. -/
def Job.finished (job:Job)(claimed:Job)(now:ℤ):Finding→Job
 | .completed status addedFields outcome =>
  {job with
    status:=status
    finishedAt:=some now
    retryAfter:=none
    addedFields:=addedFields
    outcome:=some outcome
    leaseId:=none
    leaseExpiresAt:=none}
 | .exhausted =>
  {job with
    status:=.budgetWait
    retryAfter:=some (nextBudgetDay now)
    attemptCount:=claimed.attemptCount-1
    errorCode:=some .dailyBudgetReached
    leaseId:=none
    leaseExpiresAt:=none}
 | .raised =>
  {job with
    status:=.failed
    finishedAt:=some now
    retryAfter:=some (now+10*60)
    errorCode:=some .companyEnrichmentFailed
    leaseId:=none
    leaseExpiresAt:=none}

def Job.holds (job claimed:Job):Bool:=
 job.siren==claimed.siren&&job.jobId==claimed.jobId&&job.leaseId==claimed.leaseId &&
  job.status==.running

def Db.finish (db:Db)(claimed:Job)(now:ℤ)(finding:Finding):Db:=
 {db with
   jobs:=update (·.holds claimed) (fun job=>job.finished nextBudgetDay claimed now finding) db.jobs}

end

inductive Phase where
 | claimed | enriching | enriched
 | found (now:ℤ)(finding:Finding)
 deriving DecidableEq

structure Work where
 row:Job
 phase:Phase

inductive Enrichment where
 | returned | budgetExhausted | raised

def Work.finds (work:Work)(now:ℤ)(finding:Finding):Work:={work with phase:=.found now finding}

def observedSince (directory:Option DirectoryRow)(queuedAt:ℤ):Bool:=
 (directory.bind DirectoryRow.enrichmentObservedAt).any (queuedAt ≤ ·)

def Work.look (work:Work)(directory:Option DirectoryRow)(now:ℤ):Work:=
 if directory.any DirectoryRow.suppressed then work.finds now .raised
 else if observedSince directory work.row.queuedAt then {work with phase:=.enriched}
 else {work with phase:=.enriching}

def Work.enrich (work:Work)(now:ℤ):Enrichment→Work
 | .returned=>{work with phase:=.enriched}
 | .budgetExhausted=>work.finds now .exhausted
 | .raised=>work.finds now .raised

def Work.check (work:Work)(directory:Option DirectoryRow)(now:ℤ):Work:=
 if directory.any DirectoryRow.suppressed||!observedSince directory work.row.queuedAt then
  work.finds now .raised
 else
  let fields:=publicFields directory
  let known (field:Field):Bool:=(fields.map Prod.fst).contains field
  let baseline (field:Field):Option String:=
   (work.row.baselineFields.find? fun entry=>entry.1==field).map Prod.snd
  let added:=fieldNames.filter fun field=>known field&&(baseline field).isNone
  let changed:=fields.any fun entry=>baseline entry.1 != some entry.2
  let complete:=fieldNames.all known&&(staleFields directory fields now).isEmpty
  work.finds now (.completed (if complete then .ready else .partialResult) added
   (if changed then .enriched else .noChange))

/-- The database, the request that holds the admission lock, the workers, and the next
identifier of `uuid4`. The last two say which claims there were, each with its job and
its lease, and which of them ended in a `budget_wait` that was written. -/
structure World where
 db:Db
 admission:Option Request
 workers:ℕ→Option Work
 nextId:ℕ
 (claims exhausted:List (ℕ × ℕ))

inductive Op where
 /-- A request takes the lock and reads the view. -/
 | request (siren:Siren)(accountId:Option String)(now:ℤ)
 /-- Its next statement. -/
 | proceed
 /-- It fails. -/
 | abort
 /-- A worker claims a job. -/
 | claim (worker:ℕ)(locked:List Siren)(now:ℤ)
 /-- A worker reads the directory, before its work or after it. -/
 | look (worker:ℕ)(now:ℤ)
 | enrich (worker:ℕ)(now:ℤ)(enrichment:Enrichment)
 | check (worker:ℕ)(now:ℤ)
 | finish (worker:ℕ)
 | crash (worker:ℕ)
 /-- Anyone writes the directory. -/
 | observe (siren:Siren)(row:Option DirectoryRow)

def World.put (w:World)(worker:ℕ)(work:Option Work):World:=
 {w with workers:=Function.update w.workers worker work}

def World.turn (w:World)(worker:ℕ)(phase:Phase)(next:Work→Work):World:=
 match w.workers worker with
 | some work=>if work.phase=phase then w.put worker (some (next work)) else w
 | none=>w

/-- The next statement of the request that holds the lock; `none` is the end of its
transaction, also where it raises `CompanyEnrichmentQueueFull`. -/
def World.proceed (w:World)(request:Request):World:=
 match request.stage with
 | .counting =>
  if maxPendingRequests≤w.db.pendingCount then {w with admission:=none}
  else
   let stage:=if request.accountId.isSome then .countingAccount else .writing
   {w with admission:=some {request with stage}}
 | .countingAccount =>
  if request.accountId.any fun accountId=>
    maxAccountPendingRequests≤w.db.accountPending accountId then {w with admission:=none}
  else {w with admission:=some {request with stage:=.writing}}
 | .writing =>{w with db:=(w.db.queue w.nextId request).1,admission:=none,nextId:=w.nextId+1}

section
variable (nextBudgetDay:ℤ→ℤ)

def step (w:World):Op→World
 | .request siren accountId now =>
  if w.admission.isNone ∧ (w.db.enrichmentView siren now).canRefresh=true then
   {w with admission:=some ⟨siren,accountId,now,.counting⟩}
  else w
 | .proceed=>w.admission.elim w w.proceed
 | .abort=>{w with admission:=none}
 | .claim worker locked now =>
  if (w.workers worker).isSome then w
  else
   let (db,claimed):=w.db.claim w.nextId locked now
   match claimed with
   | none=>{w with db}
   | some row =>
    { w.put worker (some ⟨row,.claimed⟩) with
      db
      nextId:=w.nextId+1
      claims:=w.claims++[(row.jobId,w.nextId)]}
 | .look worker now =>w.turn worker .claimed fun work=>work.look (w.db.directory work.row.siren) now
 | .enrich worker now enrichment=>w.turn worker .enriching fun work=>work.enrich now enrichment
 | .check worker now =>
  w.turn worker .enriched fun work=>work.check (w.db.directory work.row.siren) now
 | .finish worker =>
  match w.workers worker with
  | some ⟨row,.found now finding⟩ =>
   { w.put worker none with
     db:=w.db.finish nextBudgetDay row now finding
     exhausted:=
      if finding=.exhausted ∧ (w.db.jobs.any fun job=>job.holds row)=true then
       w.exhausted++row.leaseId.toList.map (row.jobId,·)
      else w.exhausted}
  | _=>w
 | .crash worker=>w.put worker none
 | .observe siren row =>{w with db:={w.db with directory:=Function.update w.db.directory siren row}}

end

def World.start (directory:Siren→Option DirectoryRow):World:=
 ⟨⟨[],[],directory⟩,none,fun _=>none,0,[],[]⟩

end Kivou.CompanyRequests
