import Kivou.CompanyRequests

set_option autoImplicit false

/-! The view, the admission and the claim read the same three columns of a job. -/
namespace Kivou.CompanyRequests
open Tables

section
variable {p:Job→Bool}{f:Job→Job}{jobs:List Job}{db db':Db}{siren:Siren}

lemma update_of_none (none:∀job∈jobs,p job=false):update p f jobs=jobs:=by
 refine (List.map_congr_left fun job mem=>?_).trans (List.map_id jobs)
 rw[none job mem]
 rfl

lemma countP_update_le {q:Job→Bool} (back:∀job∈jobs,p job=true→q (f job)=true→q job=true) :
 (update p f jobs).countP q≤jobs.countP q:=by
 rw[update,List.countP_map]
 refine List.countP_mono_left fun job mem counted=>?_
 rw[Function.comp_apply] at counted
 split at counted
 · exact back job mem ‹_› counted
 · exact counted

structure Calmer (db db':Db):Prop where
 events:db'.events=db.events
 directory:db'.directory=db.directory
 keys:db'.jobs.map Job.siren=db.jobs.map Job.siren
 ids:db'.jobs.map Job.jobId=db.jobs.map Job.jobId
 kept:∀siren job,db.job? siren=some job →∃job',db'.job? siren=some job' ∧ job'.jobId=job.jobId
 idle:∀siren,(∀job,db.job? siren=some job→job.pending=false) →
  ∀job,db'.job? siren=some job→job.pending=false
 fewer:db'.pendingCount≤db.pendingCount
 fewerOf:∀accountId,db'.accountPending accountId≤db.accountPending accountId

lemma Calmer.trans {db'':Db}(first:Calmer db db')(second:Calmer db' db'') : Calmer db db'' where
 events:=second.events.trans first.events
 directory:=second.directory.trans first.directory
 keys:=second.keys.trans first.keys
 ids:=second.ids.trans first.ids
 kept siren job found:=by
  obtain ⟨job',found',same'⟩:=first.kept siren job found
  obtain ⟨job'',found'',same''⟩:=second.kept siren job' found'
  exact ⟨job'',found'',same''.trans same'⟩
 idle siren idle:=second.idle siren (first.idle siren idle)
 fewer:=second.fewer.trans first.fewer
 fewerOf accountId:=(second.fewerOf accountId).trans (first.fewerOf accountId)

structure Writes (p:Job→Bool)(f:Job→Job):Prop where
 siren:∀job,(f job).siren=job.siren
 jobId:∀job,(f job).jobId=job.jobId
 pending:∀job,p job=true→(f job).pending=true→job.pending=true

lemma Writes.job? (writes:Writes p f)(db:Db)(siren:Siren) :
 ({db with jobs:=update p f db.jobs}:Db).job? siren =
  (db.job? siren).map fun job=>if p job then f job else job:=
 find?_update_where writes.siren siren

lemma Writes.calmer (writes:Writes p f)(db:Db) :
 Calmer db {db with jobs:=update p f db.jobs} where
 events:=rfl
 directory:=rfl
 keys:=map_key_update fun job _ _=>writes.siren job
 ids:=map_key_update fun job _ _=>writes.jobId job
 kept siren job found:=by
  refine ⟨if p job then f job else job,by rw[writes.job?,found];rfl,?_⟩
  split
  · exact writes.jobId job
  · rfl
 idle siren idle job found:=by
  rw[writes.job?,Option.map_eq_some_iff] at found
  obtain ⟨old,there,rfl⟩:=found
  split
  · rename_i taken
    cases pending:(f old).pending with
    | false=>rfl
    | true=>exact absurd (writes.pending old taken pending) (by simp[idle old there])
  · exact idle old there
 fewer:=countP_update_le fun job _=>writes.pending job
 fewerOf accountId:=by
  refine countP_update_le fun job _ taken counted=>?_
  simp only[Bool.and_eq_true] at counted ⊢
  refine ⟨writes.pending job taken counted.1,?_⟩
  have owned:=counted.2
  unfold Db.owned at owned ⊢
  rw[writes.jobId] at owned
  exact owned

lemma interrupt_writes (now:ℤ):Writes (·.interrupted now) (·.interrupt now) where
 siren _:=rfl
 jobId _:=rfl
 pending job taken pending:=by
  simp only[Job.interrupted,Bool.and_eq_true,beq_iff_eq,decide_eq_true_eq] at taken
  simp[Job.pending,taken.1.1,Status.active]

lemma pending_of_due {job:Job}{now:ℤ}(due:job.due now=true):job.pending=true:=by
 simp only[Job.due,Bool.and_eq_true,Bool.or_eq_true,beq_iff_eq,decide_eq_true_eq] at due
 unfold Job.pending
 rcases due with ⟨left,⟨(queued|failed)|waits,-⟩|⟨runs,-⟩⟩
 · simp[queued,Status.active]
 · simp[failed,left]
 · simp[waits,Status.active]
 · simp[runs,Status.active]

lemma claimed_writes (row:Job)(leaseId:ℕ)(now:ℤ) :
 Writes (fun job=>job.siren==row.siren&&job.jobId==row.jobId&&job.due now)
  (·.claimed leaseId now) where
 siren _:=rfl
 jobId _:=rfl
 pending job taken _:=by
  rw[Bool.and_eq_true] at taken
  exact pending_of_due taken.2

lemma finished_writes (nextBudgetDay:ℤ→ℤ)(claimed:Job)(now:ℤ)(finding:Finding) :
 Writes (·.holds claimed) (fun job=>job.finished nextBudgetDay claimed now finding) where
 siren job:=by cases finding <;> rfl
 jobId job:=by cases finding <;> rfl
 pending job taken _:=by
  simp only[Job.holds,Bool.and_eq_true,beq_iff_eq] at taken
  simp[Job.pending,taken.2,Status.active]

end

def Job.Settled (job:Job):Prop:=
 match job.status with
 | .queued | .budgetWait=>job.attemptCount < maxAttempts
 | .failed=>job.attemptCount < maxAttempts→job.retryAfter.isSome
 | .running=>job.leaseExpiresAt.isSome
 | .ready | .partialResult=>True

structure Job.Sound (job:Job):Prop where
 attempts:job.attemptCount ≤ maxAttempts
 settled:job.Settled

lemma newJob_sound (jobId:ℕ)(siren:Siren)(now:ℤ)(fields:List (Field × String)) :
 (newJob jobId siren now fields).Sound:=
 ⟨Nat.zero_le _,Nat.succ_pos 2⟩

variable {job:Job}{now:ℤ}

lemma Job.Sound.interrupt (sound:job.Sound)
 (taken:job.interrupted now=true):(job.interrupt now).Sound:=by
 simp only[Job.interrupted,Bool.and_eq_true,decide_eq_true_eq] at taken
 exact ⟨sound.attempts,fun less=>absurd taken.2 (Nat.not_le.mpr less)⟩

lemma attempts_of_due (due:job.due now=true) : job.attemptCount < maxAttempts:=by
 simp only[Job.due,Bool.and_eq_true,decide_eq_true_eq] at due
 exact due.1

lemma sound_claimed (leaseId:ℕ)(due:job.due now=true) : (job.claimed leaseId now).Sound:=
 ⟨attempts_of_due due,rfl⟩

def Finding.Proper:Finding→Prop
 | .completed status _ _=>status=.ready ∨ status=.partialResult
 | .exhausted | .raised=>True

lemma Job.Sound.finished {nextBudgetDay:ℤ→ℤ}{claimed:Job}(sound:job.Sound)
 (same:job.attemptCount=claimed.attemptCount)(once:1≤claimed.attemptCount)(now:ℤ)
 {finding:Finding}(proper:finding.Proper) :
 (job.finished nextBudgetDay claimed now finding).Sound:=by
 have attempts:=sound.attempts
 cases finding with
 | completed status added outcome =>rcases proper with rfl|rfl <;> exact ⟨attempts,trivial⟩
 | exhausted =>
  have less:claimed.attemptCount-1 < maxAttempts:=by omega
  exact ⟨less.le,less⟩
 | raised=>exact ⟨attempts,fun _=>rfl⟩

lemma Job.Sound.claimable (sound:job.Sound)(pending:job.pending=true)
 (left:job.status=.running→job.attemptCount < maxAttempts) :
 ∃later,∀now,later≤now→job.due now=true:=by
 have settled:=sound.settled
 unfold Job.Settled at settled
 unfold Job.pending at pending
 unfold Job.due
 cases status:job.status with
 | running =>
  rw[status] at settled
  obtain ⟨expiry,expires⟩:=Option.isSome_iff_exists.mp settled
  exact ⟨expiry,fun now later=>by simp[left status,expires,later]⟩
 | queued | budgetWait =>
  rw[status] at settled
  cases retry:job.retryAfter with
  | none=>exact ⟨0,fun now _=>by simp[settled]⟩
  | some time=>exact ⟨time,fun now later=>by simp[settled,later]⟩
 | failed =>
  rw[status] at settled pending
  have less:job.attemptCount < maxAttempts:=by simpa[Status.active] using pending
  obtain ⟨time,retry⟩:=Option.isSome_iff_exists.mp (settled less)
  exact ⟨time,fun now later=>by simp[less,retry,later]⟩
 | ready | partialResult =>
  rw[status] at pending
  cases pending

lemma Job.Settled.displayed_active (settled:job.Settled)
 (pending:job.pending=true)(fresh:Bool)(missing stale:List Field) :
 (job.displayed fresh missing stale).active=true:=by
 unfold Job.Settled at settled
 unfold Job.pending at pending
 unfold Job.displayed
 cases status:job.status with
 | queued | running | budgetWait=>simp[ViewState.active,Status.active]
 | failed =>
  rw[status] at settled pending
  have less:job.attemptCount < maxAttempts:=by simpa[Status.active] using pending
  simp[less,settled less,ViewState.active,Status.active]
 | ready | partialResult =>
  rw[status] at pending
  cases pending

lemma idle_of_canRefresh {db:Db}(sound:∀job∈db.jobs,job.Sound){siren:Siren}
 (can:(db.enrichmentView siren now).canRefresh=true)(job:Job)
 (found:db.job? siren=some job):job.pending=false:=by
 have settled:=(sound job (find?_key found).1).settled
 unfold Db.enrichmentView at can
 rw[found] at can
 simp only[Bool.and_eq_true,Bool.not_eq_true'] at can
 obtain ⟨⟨⟨-,inactive⟩,-⟩,-⟩:=can
 cases pending:job.pending with
 | false=>rfl
 | true =>
  rw[settled.displayed_active pending] at inactive
  cases inactive

section
variable {db:Db}{jobId:ℕ}{request:Request}

def Db.queued (db:Db)(jobId:ℕ)(request:Request):Job:=
 newJob jobId request.siren request.now (publicFields (db.directory request.siren))

variable (jobId) in
lemma queue_jobs (keyed:(db.jobs.map Job.siren).Nodup)
 (idle:∀job,db.job? request.siren=some job→job.pending=false) :
 (db.queue jobId request).2=true ∧
  (db.queue jobId request).1.jobs.Perm
   (db.queued jobId request::db.jobs.filter fun job=>job.siren≠request.siren):=by
 unfold Db.queue Db.queued
 cases found:db.job? request.siren with
 | none =>
  have others:∀job∈db.jobs,job.siren≠request.siren:=by
   intro job mem
   have other:=List.find?_eq_none.mp found job mem
   simpa using other
  have kept:db.jobs.filter (fun job=>job.siren≠request.siren)=db.jobs:=
   List.filter_eq_self.mpr fun job mem=>by simpa using others job mem
  refine ⟨rfl,?_⟩
  rw[kept]
  exact List.perm_append_singleton _ _
 | some previous =>
  obtain ⟨mem,same⟩:=find?_key found
  have inactive:previous.status.active=false:=by
   have pending:=idle previous found
   simp only[Job.pending,Bool.or_eq_false_iff] at pending
   exact pending.1
  obtain ⟨front,back,split⟩:=List.append_of_mem mem
  rw[split] at keyed
  simp only[List.map_append,List.map_cons,List.nodup_append,List.nodup_cons,List.mem_map,
   List.mem_cons,not_exists,not_and] at keyed
  obtain ⟨-,⟨behind,-⟩,before⟩:=keyed
  have inFront:∀job∈front,job.siren≠request.siren:=fun job there is=>
   before job.siren ⟨job,there,rfl⟩ previous.siren (.inl rfl) (is.trans same.symm)
  have inBack:∀job∈back,job.siren≠request.siren:=fun job there is=>
   behind job there (is.trans same.symm)
  have kept {jobs:List Job}(others:∀job∈jobs,job.siren≠request.siren) :
    jobs.filter (fun job=>job.siren≠request.siren)=jobs:=
   List.filter_eq_self.mpr fun job there=>by simpa using others job there
  have unchanged {jobs:List Job}(others:∀job∈jobs,job.siren≠request.siren) :
    update (fun job=>job.siren==request.siren&&job.jobId==previous.jobId &&
     !job.status.active) (fun _=>db.queued jobId request) jobs=jobs:=
   update_of_none fun job there=>by simp[others job there]
  refine ⟨?_,?_⟩
  · exact List.any_eq_true.mpr ⟨previous,mem,by simp[same,inactive]⟩
  · change (update _ (fun _=>db.queued jobId request) db.jobs).Perm _
    rw[split,List.filter_append,kept inFront,List.filter_cons_of_neg (by simp[same]),kept inBack]
    have replaced:update (fun job=>job.siren==request.siren &&
      job.jobId==previous.jobId&&!job.status.active) (fun _=>db.queued jobId request)
      (front++previous::back)=front++db.queued jobId request::back:=by
     have front':=unchanged inFront
     have back':=unchanged inBack
     unfold update at front' back' ⊢
     rw[List.map_append,List.map_cons,front',back']
     simp[same,inactive]
    rw[replaced]
    exact List.perm_middle

variable (jobId) in
lemma queue_keyed (keyed:(db.jobs.map Job.siren).Nodup)
 (idle:∀job,db.job? request.siren=some job→job.pending=false) :
 ((db.queue jobId request).1.jobs.map Job.siren).Nodup:=by
 obtain ⟨-,perm⟩:=queue_jobs jobId keyed idle
 refine (perm.map Job.siren).nodup_iff.mpr (List.nodup_cons.mpr ⟨?_,?_⟩)
 · intro there
   obtain ⟨job,kept,same⟩:=List.mem_map.mp there
   have other:job.siren≠request.siren:=by simpa using (List.mem_filter.mp kept).2
   exact other same
 · exact keyed.sublist (List.filter_sublist.map Job.siren)

variable (jobId) in
lemma queue_job? (keyed:(db.jobs.map Job.siren).Nodup)
 (idle:∀job,db.job? request.siren=some job→job.pending=false)(siren:Siren) :
 (db.queue jobId request).1.job? siren =
  if siren=request.siren then some (db.queued jobId request) else db.job? siren:=by
 obtain ⟨-,perm⟩:=queue_jobs jobId keyed idle
 have keyed':=queue_keyed jobId keyed idle
 by_cases same:siren=request.siren
 · rw[if_pos same,same]
   exact find?_of_mem keyed' (perm.mem_iff.mpr List.mem_cons_self)
 · rw[if_neg same]
   cases found:db.job? siren with
   | some job =>
    obtain ⟨mem,is⟩:=find?_key found
    have there:job∈(db.queue jobId request).1.jobs:=
     perm.mem_iff.mpr (List.mem_cons_of_mem _ (List.mem_filter.mpr ⟨mem,by simpa[is] using same⟩))
    rw[←is]
    exact find?_of_mem keyed' there
   | none =>
    refine List.find?_eq_none.mpr fun job there is=>?_
    rcases List.mem_cons.mp (perm.mem_iff.mp there) with rfl|old
    · exact same (beq_iff_eq.mp is).symm
    · exact List.find?_eq_none.mp found job (List.mem_filter.mp old).1 is

lemma queue_events (changed:(db.queue jobId request).2=true) : (db.queue jobId request).1.events =
  db.events++request.accountId.toList.map (⟨·,jobId⟩):=by
 unfold Db.queue at changed ⊢
 cases found:db.job? request.siren with
 | none=>cases request.accountId <;> simp
 | some previous =>
  rw[found] at changed
  simp only at changed
  cases request.accountId <;> simp[changed]

end

structure Request.Admitted (request:Request)(db:Db):Prop where
 idle:∀job,db.job? request.siren=some job→job.pending=false
 room:request.stage≠.counting→db.pendingCount < maxPendingRequests
 roomOf:request.stage=.writing→∀accountId,request.accountId=some accountId →
  db.accountPending accountId < maxAccountPendingRequests

structure Bounded (db:Db)(admission:Option Request)(nextId:ℕ):Prop where
 keyed:(db.jobs.map Job.siren).Nodup
 ids:(db.jobs.map Job.jobId).Nodup
 jobs:∀job∈db.jobs,job.Sound
 fresh:∀job∈db.jobs,job.jobId<nextId
 events:∀event∈db.events,event.jobId<nextId
 total:db.pendingCount ≤ maxPendingRequests
 accounts:∀accountId,db.accountPending accountId ≤ maxAccountPendingRequests
 admission:∀request,admission=some request → request.Admitted db

section
variable {db:Db}{admission:Option Request}{nextId:ℕ}

lemma Bounded.of_admission (bounded:Bounded db admission nextId){admission':Option Request}
 (admitted:∀request,admission'=some request → request.Admitted db) :
 Bounded db admission' nextId:=
 {bounded with admission:=admitted}

lemma Bounded.later (bounded:Bounded db admission nextId):Bounded db admission (nextId+1):=
 {bounded with
   fresh:=fun job mem=>(bounded.fresh job mem).trans (Nat.lt_succ_self _)
   events:=fun event mem=>(bounded.events event mem).trans (Nat.lt_succ_self _)}

lemma Bounded.writes {p:Job→Bool}{f:Job→Job}(bounded:Bounded db admission nextId)
 (writes:Writes p f)(sound:∀job∈db.jobs,p job=true→(f job).Sound) :
 Bounded {db with jobs:=update p f db.jobs} admission nextId where
 keyed:=(writes.calmer db).keys ▸ bounded.keyed
 ids:=(writes.calmer db).ids ▸ bounded.ids
 jobs job mem:=by
  obtain ⟨old,there,rfl⟩:=mem_update.mp mem
  split
  · exact sound old there ‹_›
  · exact bounded.jobs old there
 fresh job mem:=by
  obtain ⟨old,there,rfl⟩:=mem_update.mp mem
  split
  · rw[writes.jobId]
    exact bounded.fresh old there
  · exact bounded.fresh old there
 events:=bounded.events
 total:=(writes.calmer db).fewer.trans bounded.total
 accounts accountId:=((writes.calmer db).fewerOf accountId).trans (bounded.accounts accountId)
 admission request holds:=by
  have admitted:=bounded.admission request holds
  exact ⟨(writes.calmer db).idle request.siren admitted.idle,
   fun stage=>(writes.calmer db).fewer.trans_lt (admitted.room stage),
   fun stage accountId is=>
    ((writes.calmer db).fewerOf accountId).trans_lt (admitted.roomOf stage accountId is)⟩

lemma owned_queue {request:Request}(changed:(db.queue nextId request).2=true)
 (accountId:String)(job:Job) :
 (db.queue nextId request).1.owned accountId job =
  (db.owned accountId job||(request.accountId==some accountId&&nextId==job.jobId)):=by
 unfold Db.owned
 rw[queue_events changed,List.any_append]
 congr 1
 cases request.accountId <;> simp

lemma Bounded.queued (bounded:Bounded db admission nextId){request:Request}
 (admitted:request.Admitted db)(writing:request.stage=.writing) :
 Bounded (db.queue nextId request).1 none (nextId+1):=by
 obtain ⟨changed,perm⟩:=queue_jobs nextId bounded.keyed admitted.idle
 have events:=queue_events changed
 have mem (job:Job):job∈(db.queue nextId request).1.jobs →
   job=db.queued nextId request ∨ job∈db.jobs:=fun there=>
  (List.mem_cons.mp (perm.mem_iff.mp there)).imp_right fun kept=>(List.mem_filter.mp kept).1
 have fewer (q:Job→Bool):(db.jobs.filter fun job=>job.siren≠request.siren).countP q ≤
   db.jobs.countP q:=List.Sublist.countP_le List.filter_sublist
 refine ⟨?_,?_,?_,?_,?_,?_,?_,fun _ none=>by cases none⟩
 · exact queue_keyed nextId bounded.keyed admitted.idle
 · refine (perm.map Job.jobId).nodup_iff.mpr (List.nodup_cons.mpr ⟨?_,?_⟩)
   · intro there
     obtain ⟨job,kept,same⟩:=List.mem_map.mp there
     have less:=bounded.fresh job (List.mem_filter.mp kept).1
     rw[same] at less
     exact absurd less (lt_irrefl _)
   · exact bounded.ids.sublist (List.filter_sublist.map Job.jobId)
 · intro job there
   rcases mem job there with rfl|old
   · exact newJob_sound _ _ _ _
   · exact bounded.jobs job old
 · intro job there
   rcases mem job there with rfl|old
   · exact Nat.lt_succ_self _
   · exact (bounded.fresh job old).trans (Nat.lt_succ_self _)
 · intro event there
   rw[events,List.mem_append] at there
   rcases there with old|new
   · exact (bounded.events event old).trans (Nat.lt_succ_self _)
   · obtain ⟨accountId,-,rfl⟩:=List.mem_map.mp new
     exact Nat.lt_succ_self _
 · have room:=admitted.room (by simp[writing])
   have counts:=fewer Job.pending
   unfold Db.pendingCount at room ⊢
   rw[perm.countP_eq,List.countP_cons]
   split <;> omega
 · intro accountId
   have least:=bounded.accounts accountId
   have old:((db.jobs.filter fun job=>job.siren≠request.siren).countP fun job=>
     job.pending&&(db.queue nextId request).1.owned accountId job) ≤
      db.accountPending accountId:=by
    refine le_trans (le_of_eq (List.countP_congr fun job there=>?_)) (fewer _)
    have less:=bounded.fresh job (List.mem_filter.mp there).1
    rw[owned_queue changed,beq_eq_false_iff_ne.mpr (Nat.ne_of_gt less),Bool.and_false,Bool.or_false]
   unfold Db.accountPending at least old ⊢
   rw[perm.countP_eq,List.countP_cons]
   by_cases own:request.accountId=some accountId
   · have room:=admitted.roomOf writing accountId own
     unfold Db.accountPending at room
     split <;> omega
   · have foreign:(db.queue nextId request).1.owned accountId (db.queued nextId request) =
       false:=by
      rw[owned_queue changed,beq_eq_false_iff_ne.mpr own,Bool.false_and,Bool.or_false]
      refine List.any_eq_false.mpr fun event there=>?_
      have less:=bounded.events event there
      have differs:event.jobId≠nextId:=Nat.ne_of_lt less
      simp[Db.queued,newJob,differs]
     rw[foreign,Bool.and_false]
     simpa using old.trans least

end

end Kivou.CompanyRequests
