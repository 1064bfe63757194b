import Kivou.CensusPages
import Kivou.Runs

set_option autoImplicit false

/-! Any number of processes execute calls and record pages on the tables; each transaction is one
step, and a process may stop between two. -/
namespace Kivou.Census
open Tables

/-- Where `execute_call` stands between two transactions. -/
inductive Stage where
 | claimed (callId:CallId)
 | answered (callId:CallId)(outcome:Outcome)
 | again

/-- An `execute_call` in progress. -/
structure Job where
 context:Option PermitContext
 request:Request
 (attempt start:ℕ)
 stage:Stage

inductive Path where
 | cursor | sample | b1
 deriving DecidableEq

structure World where
 censusId:String
 db:Db
 jobs:ℕ→Option Job
 invoked:List CallId
 recorded:List (Path × CallId)

structure Recording where
 path:Path
 (planId partitionId:String)
 page:Page
 callId:CallId
 hidden:List Identity

/-- What operators and the other services change: the census is started, paused
or finished, permits are issued and revoked, partitions and plans are added. -/
inductive Change where
 | run (status:RunStatus)(limits:Option Limits)(activeSamplePlanId:Option String)
 | partition (partitionId:String)(maxPages perPage:ℕ)
 | permit (permit:Permit)
 | revoke (permitId:String)
 | samplePlan (plan:Plan)(pages:List (String × ℕ))
 | b0Plan (plan:Plan)(candidateIds:List String)
 | b1Plan (plan:B1Plan)(pages:List (String × ℕ × Bool))(candidateIds:List String)

inductive Step where
 | execute (process:ℕ)(context:Option PermitContext)(request:Request)(start now:ℕ)
 | retry (process now:ℕ)
 | invoke (process:ℕ)(outcome:Outcome)
 | settle (process:ℕ)
 | crash (process:ℕ)
 | record (recording:Recording)
 | change (change:Change)

def Pass.job (context:Option PermitContext)(request:Request)(attempt start:ℕ) : Pass→Option Job
 | .cached _ _=>none
 | .again=>if attempt=1 then some ⟨context,request,attempt,start,.again⟩ else none
 | .invoke callId=>some ⟨context,request,attempt,start,.claimed callId⟩

def World.setJob (w:World)(process:ℕ)(job:Option Job):World:=
 {w with jobs:=Function.update w.jobs process job}

def World.pass (w:World)(process:ℕ)(context:Option PermitContext)(request:Request)
 (attempt start now:ℕ):World:=
 match Census.pass w.db w.censusId context request attempt start now with
 | .error _=>w.setJob process none
 | .ok (db,reached) =>{w with db}.setJob process (reached.job context request attempt start)

def Job.settled (job:Job):Outcome→Option Job
 | .answered _=>none
 | .failed category retryAfter =>
  match afterFailure job.attempt job.start category retryAfter with
  | .ok ()=>some {job with stage:=.again}
  | .error _=>none

section
variable (normalizeDomain:String→Option String)

def Recording.record (r:Recording)(db:Db):Except Error Db:=
 match r.path with
 | .cursor=>recordPage normalizeDomain r.hidden db r.partitionId r.page r.callId
 | .sample=>recordSamplePage normalizeDomain r.hidden db r.planId r.partitionId r.page r.callId
 | .b1=>recordB1Page normalizeDomain r.hidden db r.planId r.partitionId r.page r.callId

def Recording.due (r:Recording)(db:Db):Bool:=
 match r.path with
 | .cursor=>(db.partition? r.partitionId).any (·.cursorPage==r.page.page)
 | .sample=>(db.samplePages.find? (·.is r.planId r.partitionId r.page.page)).any
   (·.status==.planned)
 | .b1=>(db.b1Pages.find? (·.is r.planId r.partitionId r.page.page)).any (·.status==.planned)

def World.record (w:World)(r:Recording):World:=
 match r.record normalizeDomain w.db with
 | .error _=>w
 | .ok db=>{w with
   db
   recorded:=if r.due w.db then w.recorded++[(r.path,r.callId)] else w.recorded}

def addPages (planId:String)(pages:List (String × ℕ × Bool))(rows:List PlannedPage) :
 List PlannedPage:=
 pages.foldl (fun rows page=>insertIfAbsent (fun r=>(r.planId,r.partitionId,r.page))
  ⟨planId,page.1,page.2.1,page.2.2,.planned,none⟩ rows) rows

def addEntries (planId:String)(candidateIds:List String)(rows:List Entry):List Entry:=
 candidateIds.foldl (fun rows candidateId=>insertIfAbsent (fun e=>(e.planId,e.candidateId))
  ⟨planId,candidateId,.planned⟩ rows) rows

def Db.change (db:Db):Change→Db
 | .run status limits activeSamplePlanId =>
  {db with run:={db.run with status,limits,activeSamplePlanId}}
 | .partition partitionId maxPages perPage =>
  let planned:Partition:=⟨partitionId,maxPages,perPage,.planned,1,none,0,0,0,0,none⟩
  {db with partitions:=insertIfAbsent (·.partitionId) planned db.partitions}
 | .permit permit=>{db with permits:=insertIfAbsent (·.permitId) permit db.permits}
 | .revoke permitId =>
  let revoked (p:Permit):Permit:={p with active:=false}
  {db with permits:=update (·.permitId==permitId) revoked db.permits}
 | .samplePlan plan pages =>
  {db with
    samplePlans:=insertIfAbsent (·.planId) plan db.samplePlans
    samplePages:=addPages plan.planId (pages.map fun page=>(page.1,page.2,false)) db.samplePages}
 | .b0Plan plan candidateIds =>
  {db with
    b0Plans:=insertIfAbsent (·.planId) plan db.b0Plans
    b0Entries:=addEntries plan.planId candidateIds db.b0Entries}
 | .b1Plan plan pages candidateIds =>
  {db with
    b1Plans:=insertIfAbsent (·.planId) plan db.b1Plans
    b1Pages:=addPages plan.planId pages db.b1Pages
    b1Entries:=addEntries plan.planId candidateIds db.b1Entries}

def next (w:World):Step→World
 | .execute process context request start now =>
  match w.jobs process with
  | some _=>w
  | none=>w.pass process context request 1 start now
 | .retry process now =>
  match w.jobs process with
  | some ⟨context,request,_,start,.again⟩=>w.pass process context request 2 start now
  | _=>w
 | .invoke process outcome =>
  match w.jobs process with
  | some ⟨context,request,attempt,start,.claimed callId⟩ =>
   {w with invoked:=w.invoked++[callId]}.setJob process
    (some ⟨context,request,attempt,start,.answered callId outcome⟩)
  | _=>w
 | .settle process =>
  match w.jobs process with
  | some ⟨context,request,attempt,start,.answered callId outcome⟩ =>
   match Census.settle w.db callId outcome with
   | .error _=>w.setJob process none
   | .ok db=>{w with db}.setJob process (Job.settled ⟨context,request,attempt,start,.again⟩ outcome)
  | _=>w
 | .crash process=>w.setJob process none
 | .record recording=>w.record normalizeDomain recording
 | .change change=>{w with db:=w.db.change change}

end

def Db.empty:Db where
 run:=⟨.planned,none,none,0,0,0,0⟩
 partitions:=[]
 calls:=[]
 candidates:=[]
 identities:=[]
 occurrences:=[]
 permits:=[]
 samplePlans:=[]
 samplePages:=[]
 b0Plans:=[]
 b0Entries:=[]
 b1Plans:=[]
 b1Pages:=[]
 b1Entries:=[]

def World.start (censusId:String):World:=⟨censusId,.empty,fun _=>none,[],[]⟩

def reached (normalizeDomain:String→Option String)(censusId:String)(steps:List Step) :
 World:=
 steps.foldl (next normalizeDomain) (World.start censusId)

end Kivou.Census
