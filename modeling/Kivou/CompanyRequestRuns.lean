import Kivou.CompanyRequestBounds
import Kivou.Runs

set_option autoImplicit false

/-! In every interleaving of requests and workers a pending job is counted once and replaced never,
no job is claimed more often than its attempts allow, and the view offers what a request would
queue. -/
namespace Kivou.CompanyRequests
open CompanyIdentity Tables

/-- The claims of a job that did not end in a `budget_wait`. -/
def World.unended (w:World)(jobId:ℕ):ℕ:=
 w.claims.countP fun claim=>claim.1==jobId&&!w.exhausted.contains claim

def World.Leased (w:World)(job:Job):Prop:=
 ∃leaseId,job.leaseId=some leaseId ∧ (job.jobId,leaseId)∈w.claims ∧
  (job.jobId,leaseId)∉w.exhausted ∧ ∀claim∈w.claims,claim.1=job.jobId→claim.2≤leaseId

structure World.Holds (w:World)(work:Work):Prop where
 lease:∃leaseId,work.row.leaseId=some leaseId ∧ (work.row.jobId,leaseId)∈w.claims
 once:1≤work.row.attemptCount
 same:∀job∈w.db.jobs,job.holds work.row=true→job.attemptCount=work.row.attemptCount
 proper:∀now finding,work.phase=.found now finding→finding.Proper

structure World.Counted (w:World):Prop where
 claims:∀claim∈w.claims,claim.1<w.nextId ∧ claim.2<w.nextId
 exhausted:∀claim∈w.exhausted,claim∈w.claims
 counted:∀job∈w.db.jobs,w.unended job.jobId≤job.attemptCount
 unended:∀jobId,w.unended jobId ≤ maxAttempts
 running:∀job∈w.db.jobs,job.status=.running→w.Leased job
 held:∀worker work,w.workers worker=some work→w.Holds work

section
variable {w:World}

lemma holds_iff {job row:Job}:job.holds row=true ↔ job.siren=row.siren ∧
 job.jobId=row.jobId ∧ job.leaseId=row.leaseId ∧ job.status=.running:=by
 simp only[Job.holds,Bool.and_eq_true,beq_iff_eq,and_assoc]

lemma eq_of_jobId (ids:(w.db.jobs.map Job.jobId).Nodup){job other:Job}
 (mem:job∈w.db.jobs)(mem':other∈w.db.jobs)(same:job.jobId=other.jobId) :
 job=other:=
 List.inj_on_of_nodup_map ids mem mem' same

/-- Jobs stop to run, some of them in a `budget_wait`. -/
lemma World.Counted.ended (counted:w.Counted)(ids:(w.db.jobs.map Job.jobId).Nodup)
 {p:Job→Bool}{f:Job→Job}(ended:List (ℕ × ℕ))(writes:Writes p f)
 (stops:∀job∈w.db.jobs,p job=true→(f job).status≠.running)
 (from':∀claim∈ended,claim∈w.claims ∧
  ∃job∈w.db.jobs,p job=true ∧ job.jobId=claim.1)
 (attempts:∀job∈w.db.jobs,p job=true →
  {w with exhausted:=w.exhausted++ended}.unended job.jobId≤(f job).attemptCount) :
 {w with
   db:={w.db with jobs:=update p f w.db.jobs}
   exhausted:=w.exhausted++ended}.Counted:=by
 have fewer (jobId:ℕ) : {w with exhausted:=w.exhausted++ended}.unended jobId≤w.unended jobId:=by
  refine List.countP_mono_left fun claim _ left=>?_
  simp only[Bool.and_eq_true,List.contains_append,Bool.not_or] at left ⊢
  exact ⟨left.1,left.2.1⟩
 have still {job:Job}(mem:job∈update p f w.db.jobs)(runs:job.status=.running) :
   job∈w.db.jobs ∧ p job=false:=by
  obtain ⟨old,there,rfl⟩:=mem_update.mp mem
  cases taken:p old with
  | true =>
   rw[taken] at runs
   exact absurd runs (stops old there taken)
  | false=>simp[there,taken]
 refine ⟨counted.claims,?_,?_,fun jobId=>(fewer jobId).trans (counted.unended jobId),?_,?_⟩
 · intro claim mem
   rcases List.mem_append.mp mem with old|new
   · exact counted.exhausted claim old
   · exact (from' claim new).1
 · intro job mem
   obtain ⟨old,there,rfl⟩:=mem_update.mp mem
   split
   · rename_i taken
     rw[writes.jobId]
     exact attempts old there taken
   · exact (fewer old.jobId).trans (counted.counted old there)
 · intro job mem runs
   obtain ⟨there,kept⟩:=still mem runs
   obtain ⟨leaseId,leased,claimed,left,last⟩:=counted.running job there runs
   refine ⟨leaseId,leased,claimed,?_,last⟩
   intro gone
   rcases List.mem_append.mp gone with old|new
   · exact left old
   · obtain ⟨-,other,there',taken,same⟩:=from' _ new
     rw[eq_of_jobId ids there' there same,kept] at taken
     cases taken
 · intro worker work is
   have held:=counted.held worker work is
   refine ⟨held.lease,held.once,fun job mem holds=>?_,held.proper⟩
   exact held.same job (still mem (holds_iff.mp holds).2.2.2).1 holds

lemma World.Counted.interrupted (counted:w.Counted)(ids:(w.db.jobs.map Job.jobId).Nodup) (now:ℤ) :
 { w with db:={w.db with jobs:=update (·.interrupted now) (·.interrupt now) w.db.jobs}
   }.Counted:=by
 have ended:=counted.ended ids [] (interrupt_writes now) (fun job _ _ stops=>by cases stops)
  (fun claim none=>by cases none) fun job mem _=>by
   simpa[Job.interrupt,World.unended] using counted.counted job mem
 simpa using ended

lemma World.Counted.put (counted:w.Counted)(worker:ℕ){work:Option Work}
 (holds:∀work',work=some work'→w.Holds work'):(w.put worker work).Counted:=
 {counted with
   held:=by
    intro other work' is
    change Function.update w.workers worker work other=some work' at is
    rw[Function.update_apply] at is
    have held:w.Holds work':=by
     split at is
     · exact holds work' is
     · exact counted.held other work' is
    exact ⟨held.lease,held.once,held.same,held.proper⟩}

lemma World.Counted.put_admission (counted:w.Counted)(admission:Option Request) :
 {w with admission}.Counted:=
 {counted with
   held:=by
    intro worker work is
    have held:=counted.held worker work is
    exact ⟨held.lease,held.once,held.same,held.proper⟩}

lemma World.Counted.finished (counted:w.Counted)(ids:(w.db.jobs.map Job.jobId).Nodup)
 (nextBudgetDay:ℤ→ℤ){row:Job}{now:ℤ}{finding:Finding}
 (held:w.Holds ⟨row,.found now finding⟩) :
 {w with
   db:=w.db.finish nextBudgetDay row now finding
   exhausted:=
     if finding=Finding.exhausted ∧ (w.db.jobs.any fun job=>job.holds row)=true then
      w.exhausted++row.leaseId.toList.map (row.jobId,·)
     else w.exhausted}.Counted:=by
 have stops:∀job∈w.db.jobs,job.holds row=true →
   (job.finished nextBudgetDay row now finding).status≠.running:=by
  intro job _ _ runs
  have proper:=held.proper now finding rfl
  cases finding with
  | completed status added outcome =>rcases proper with rfl|rfl <;> cases runs
  | exhausted | raised=>cases runs
 by_cases ends:finding=.exhausted ∧ (w.db.jobs.any fun job=>job.holds row)=true
 · rw[if_pos ends]
   obtain ⟨rfl,any⟩:=ends
   obtain ⟨job,mem,holds⟩:=List.any_eq_true.mp any
   obtain ⟨-,sameId,sameLease,runs⟩:=holds_iff.mp holds
   obtain ⟨leaseId,leased,claimed,left,-⟩:=counted.running job mem runs
   rw[sameId] at claimed left
   have lease:row.leaseId=some leaseId:=sameLease.symm.trans leased
   rw[lease]
   refine counted.ended ids _ (finished_writes nextBudgetDay row now .exhausted) stops ?_ ?_
   · intro claim new
     obtain rfl:claim=(row.jobId,leaseId):=by simpa using new
     exact ⟨claimed,job,mem,holds,sameId⟩
   · intro other there taken
     have same:=held.same other there taken
     have bound:=counted.counted other there
     have less:{ w with exhausted:=
       w.exhausted++(some leaseId).toList.map (row.jobId,·)}.unended other.jobId <
        w.unended other.jobId:=by
      rw[(holds_iff.mp taken).2.1]
      refine countP_lt_countP (fun claim _ still=>?_) claimed ?_ ?_
      · simp only[Bool.and_eq_true,List.contains_append,Bool.not_or] at still ⊢
        exact ⟨still.1,still.2.1⟩
      · simp[left]
      · simp
     change _≤row.attemptCount-1
     change other.attemptCount=row.attemptCount at same
     omega
 · rw[if_neg ends]
   have ended:=counted.ended ids [] (finished_writes nextBudgetDay row now finding) stops
    (fun claim none=>by cases none) fun job mem taken=>by
     have kept:(job.finished nextBudgetDay row now finding).attemptCount=job.attemptCount:=by
      cases finding with
      | completed | raised=>rfl
      | exhausted=>exact absurd ⟨rfl,List.any_eq_true.mpr ⟨job,mem,taken⟩⟩ ends
     rw[kept]
     simpa[World.unended] using counted.counted job mem
   rw[List.append_nil] at ended
   exact ended

lemma World.Counted.claimed (counted:w.Counted)(bounded:Bounded w.db w.admission w.nextId)
 (worker:ℕ){row:Job}{now:ℤ}(mem:row∈w.db.jobs)(due:row.due now=true) :
 { w.put worker (some ⟨row.claimed w.nextId now,.claimed⟩) with
   db:={w.db with
    jobs:=update (fun job=>job.siren==row.siren&&job.jobId==row.jobId&&job.due now)
     (·.claimed w.nextId now) w.db.jobs}
   nextId:=w.nextId+1
   claims:=w.claims++[(row.jobId,w.nextId)]}.Counted:=by
 have fresh:=bounded.fresh row mem
 have unused:(row.jobId,w.nextId)∉w.exhausted:=fun gone=>
  absurd (counted.claims _ (counted.exhausted _ gone)).2 (lt_irrefl _)
 have cases' {job:Job}(there:job∈update
   (fun job=>job.siren==row.siren&&job.jobId==row.jobId&&job.due now)
   (·.claimed w.nextId now) w.db.jobs) :
   job=row.claimed w.nextId now ∨ (job∈w.db.jobs ∧ job.jobId≠row.jobId):=by
  obtain ⟨old,there',rfl⟩:=mem_update.mp there
  by_cases same:old.jobId=row.jobId
  · obtain rfl:=eq_of_jobId bounded.ids there' mem same
    simp[due]
  · simp[same,there']
 have counts (jobId:ℕ):(w.claims++[(row.jobId,w.nextId)]).countP (fun claim=>
   claim.1==jobId&&!w.exhausted.contains claim) =
    w.unended jobId+if row.jobId=jobId then 1 else 0:=by
  rw[List.countP_append,List.countP_singleton]
  unfold World.unended
  by_cases same:row.jobId=jobId
  · subst same
    simp[unused]
  · simp[same]
 refine ⟨?_,?_,?_,?_,?_,?_⟩
 · intro claim there
   rcases List.mem_append.mp there with old|new
   · have less:=counted.claims claim old
     change claim.1<w.nextId+1 ∧ claim.2<w.nextId+1
     omega
   · obtain rfl:=List.mem_singleton.mp new
     change row.jobId<w.nextId+1 ∧ w.nextId<w.nextId+1
     omega
 · intro claim there
   exact List.mem_append_left _ (counted.exhausted claim there)
 · intro job there
   refine (counts job.jobId).le.trans ?_
   rcases cases' there with rfl|⟨old,other⟩
   · have own:row.jobId=(row.claimed w.nextId now).jobId:=rfl
     rw[if_pos own]
     exact Nat.succ_le_succ (counted.counted row mem)
   · rw[if_neg (Ne.symm other)]
     exact counted.counted job old
 · intro jobId
   refine (counts jobId).le.trans ?_
   have least:=counted.unended jobId
   split
   · rename_i same
     have bound:=counted.counted row mem
     have less:=attempts_of_due due
     rw[same] at bound
     omega
   · exact least
 · intro job there runs
   rcases cases' there with rfl|⟨old,other⟩
   · refine ⟨w.nextId,rfl,List.mem_append_right _ (List.mem_singleton.mpr rfl),unused,?_⟩
     intro claim there' _
     rcases List.mem_append.mp there' with older|new
     · exact (counted.claims claim older).2.le
     · rw[List.mem_singleton.mp new]
   · obtain ⟨leaseId,leased,claimed,left,last⟩:=counted.running job old runs
     refine ⟨leaseId,leased,List.mem_append_left _ claimed,left,?_⟩
     intro claim there' of
     rcases List.mem_append.mp there' with older|new
     · exact last claim older of
     · rw[List.mem_singleton.mp new] at of
       exact absurd of.symm other
 · intro other work is
   change Function.update w.workers worker _ other=some work at is
   rw[Function.update_apply] at is
   split at is
   · obtain rfl:=Option.some.inj is
     refine ⟨⟨w.nextId,rfl,List.mem_append_right _ (List.mem_singleton.mpr rfl)⟩,
      Nat.succ_pos _,fun job there holds=>?_,fun _ _ phase=>by cases phase⟩
     obtain ⟨-,sameId,-⟩:=holds_iff.mp holds
     rcases cases' there with rfl|⟨-,differs⟩
     · rfl
     · exact absurd sameId differs
   · have held:=counted.held other work is
     obtain ⟨leaseId,leased,claimed⟩:=held.lease
     refine ⟨⟨leaseId,leased,List.mem_append_left _ claimed⟩,held.once,fun job there holds=>?_,
      held.proper⟩
     rcases cases' there with rfl|⟨old,-⟩
     · have lease:some w.nextId=work.row.leaseId:=(holds_iff.mp holds).2.2.1
       rw[leased] at lease
       have less:=(counted.claims _ claimed).2
       rw[Option.some.inj lease] at less
       exact absurd less (lt_irrefl _)
     · exact held.same job old holds

lemma World.Counted.queued (counted:w.Counted){request:Request}
 (perm:(w.db.queue w.nextId request).1.jobs.Perm
  (w.db.queued w.nextId request::w.db.jobs.filter fun job=>job.siren≠request.siren)) :
 {w with
   db:=(w.db.queue w.nextId request).1
   admission:=none
   nextId:=w.nextId+1}.Counted:=by
 have mem (job:Job)(there:job∈(w.db.queue w.nextId request).1.jobs) :
   job=w.db.queued w.nextId request ∨ job∈w.db.jobs:=
  (List.mem_cons.mp (perm.mem_iff.mp there)).imp_right fun kept=>(List.mem_filter.mp kept).1
 refine ⟨?_,counted.exhausted,?_,counted.unended,?_,?_⟩
 · intro claim there
   have less:=counted.claims claim there
   change claim.1<w.nextId+1 ∧ claim.2<w.nextId+1
   omega
 · intro job there
   rcases mem job there with rfl|old
   · have none:w.unended w.nextId=0:=by
      refine List.countP_eq_zero.mpr fun claim there'=>?_
      simp[Nat.ne_of_lt (counted.claims claim there').1]
     exact none.le
   · exact counted.counted job old
 · intro job there runs
   rcases mem job there with rfl|old
   · cases runs
   · exact counted.running job old runs
 · intro worker work is
   have held:=counted.held worker work is
   refine ⟨held.lease,held.once,fun job there holds=>?_,held.proper⟩
   rcases mem job there with rfl|old
   · cases (holds_iff.mp holds).2.2.2
   · exact held.same job old holds

end

structure World.Sound (w:World):Prop where
 bounded:Bounded w.db w.admission w.nextId
 counted:w.Counted

lemma start_sound (directory:Siren→Option DirectoryRow):(World.start directory).Sound:=by
 refine ⟨⟨List.nodup_nil,List.nodup_nil,?_,?_,?_,Nat.zero_le _,fun _=>Nat.zero_le _,?_⟩,
  ⟨?_,?_,?_,fun _=>Nat.zero_le _,?_,?_⟩⟩
 · intro job mem
   cases mem
 · intro job mem
   cases mem
 · intro event mem
   cases mem
 · intro request is
   cases is
 · intro claim mem
   cases mem
 · intro claim mem
   cases mem
 · intro job mem
   cases mem
 · intro job mem
   cases mem
 · intro worker work is
   cases is

lemma mem_of_firstOf {jobs:List Job}{row:Job}(first:firstOf jobs=some row) : row∈jobs:=by
 cases jobs with
 | nil=>cases first
 | cons job jobs =>
  have least (best:Job) :
    jobs.foldl (fun best job=>if job.before best then job else best) best∈best::jobs:=by
   clear first
   induction jobs generalizing best with
   | nil=>exact List.mem_singleton.mpr rfl
   | cons next jobs ih =>
    rw[List.foldl_cons]
    split
    · exact List.mem_cons_of_mem _ (ih next)
    · rcases List.mem_cons.mp (ih best) with is|later
      · rw[is]
        exact List.mem_cons_self
      · exact List.mem_cons_of_mem _ (List.mem_cons_of_mem _ later)
  have is:=Option.some.inj first
  exact is ▸ least job

section
variable {w:World}

lemma World.Sound.turn (sound:w.Sound)(worker:ℕ)(phase:Phase){next:Work→Work}
 (row:∀work,(next work).row=work.row)
 (proper:∀work now finding,(next work).phase=.found now finding→finding.Proper) :
 (w.turn worker phase next).Sound:=by
 unfold World.turn
 cases is:w.workers worker with
 | none=>exact sound
 | some work =>
  dsimp only
  split
  · have held:=sound.counted.held worker work is
    refine ⟨sound.bounded,sound.counted.put worker fun work' is'=>?_⟩
    obtain rfl:=Option.some.inj is'
    refine ⟨?_,?_,?_,proper work⟩
    · rw[row]
      exact held.lease
    · rw[row]
      exact held.once
    · rw[row]
      exact held.same
  · exact sound

variable (directory:Option DirectoryRow)(now:ℤ)(work:Work)(at':ℤ)(finding:Finding)

lemma look_row : (work.look directory now).row=work.row:=by
 unfold Work.look
 repeat' split
 all_goals rfl

lemma check_row : (work.check directory now).row=work.row:=by
 unfold Work.check
 split <;> rfl

lemma look_proper (phase:(work.look directory now).phase=.found at' finding) :
 finding.Proper:=by
 unfold Work.look at phase
 split at phase
 · cases phase
   trivial
 · split at phase <;> cases phase

lemma check_proper (phase:(work.check directory now).phase=.found at' finding) :
 finding.Proper:=by
 unfold Work.check at phase
 split at phase
 · cases phase
   trivial
 · cases phase
   change ite _ _ _=_ ∨ ite _ _ _=_
   split
   · exact .inl rfl
   · exact .inr rfl

lemma enrich_proper (enrichment:Enrichment)(work:Work)(at':ℤ)
 (finding:Finding)(phase:(work.enrich now enrichment).phase=.found at' finding) :
 finding.Proper:=by
 cases enrichment with
 | returned=>cases phase
 | budgetExhausted | raised =>
  cases phase
  trivial

lemma World.Sound.proceed (sound:w.Sound){request:Request}
 (holds:w.admission=some request):(w.proceed request).Sound:=by
 have admitted:=sound.bounded.admission request holds
 unfold World.proceed
 cases stage:request.stage with
 | counting =>
  dsimp only
  split
  · refine ⟨sound.bounded.of_admission ?_,sound.counted.put_admission none⟩
    intro request' is
    cases is
  · rename_i room
    refine ⟨sound.bounded.of_admission fun request' is=>?_,sound.counted.put_admission _⟩
    obtain rfl:=Option.some.inj is
    refine ⟨admitted.idle,fun _=>Nat.not_le.mp room,fun writing accountId own=>?_⟩
    change request.accountId=some accountId at own
    simp[own] at writing
 | countingAccount =>
  dsimp only
  split
  · refine ⟨sound.bounded.of_admission ?_,sound.counted.put_admission none⟩
    intro request' is
    cases is
  · rename_i room
    refine ⟨sound.bounded.of_admission fun request' is=>?_,sound.counted.put_admission _⟩
    obtain rfl:=Option.some.inj is
    refine ⟨admitted.idle,fun _=>admitted.room (by simp[stage]),fun _ accountId own=>?_⟩
    change request.accountId=some accountId at own
    rw[own] at room
    simpa using room
 | writing =>
  obtain ⟨-,perm⟩:=queue_jobs w.nextId sound.bounded.keyed admitted.idle
  exact ⟨sound.bounded.queued admitted stage,sound.counted.queued perm⟩

lemma World.Sound.claim (sound:w.Sound)(nextBudgetDay:ℤ→ℤ)(worker:ℕ) (locked:List Siren)(now:ℤ) :
 (step nextBudgetDay w (.claim worker locked now)).Sound:=by
 have writes:=interrupt_writes now
 have bounded:=sound.bounded.writes writes fun job mem taken=>
  (sound.bounded.jobs job mem).interrupt taken
 have counted:=sound.counted.interrupted sound.bounded.ids now
 unfold step
 dsimp only
 split
 · exact sound
 · unfold Db.claim
   dsimp only
   cases first:firstOf ((update (·.interrupted now) (·.interrupt now) w.db.jobs).filter
     fun job=>job.due now&&!locked.contains job.siren) with
   | none=>exact ⟨bounded,counted⟩
   | some row =>
    obtain ⟨mem,free⟩:=List.mem_filter.mp (mem_of_firstOf first)
    rw[Bool.and_eq_true] at free
    have claimed:=bounded.writes (claimed_writes row w.nextId now) fun job _ taken=>by
     rw[Bool.and_eq_true] at taken
     exact sound_claimed w.nextId taken.2
    exact ⟨claimed.later,counted.claimed bounded worker mem free.1⟩

lemma World.Sound.finish (sound:w.Sound)(nextBudgetDay:ℤ→ℤ)(worker:ℕ) :
 (step nextBudgetDay w (.finish worker)).Sound:=by
 unfold step
 dsimp only
 split
 · rename_i row now finding is
   have held:=sound.counted.held worker _ is
   have proper:=held.proper now finding rfl
   refine ⟨?_,?_⟩
   · refine sound.bounded.writes (finished_writes nextBudgetDay row now finding)
      fun job mem taken=>?_
     exact (sound.bounded.jobs job mem).finished (held.same job mem taken) held.once now proper
   · have finished:=sound.counted.finished sound.bounded.ids nextBudgetDay held
     exact finished.put worker fun _ none=>by cases none
 · exact sound

lemma step_sound (nextBudgetDay:ℤ→ℤ)(sound:w.Sound)(op:Op) : (step nextBudgetDay w op).Sound:=by
 cases op with
 | request siren accountId now =>
  unfold step
  dsimp only
  split
  · rename_i open'
    refine ⟨sound.bounded.of_admission fun request is=>?_,sound.counted.put_admission _⟩
    obtain rfl:=Option.some.inj is
    exact ⟨idle_of_canRefresh sound.bounded.jobs open'.2,fun counting=>absurd rfl counting,
     fun writing=>by cases writing⟩
  · exact sound
 | proceed =>
  unfold step
  cases holds:w.admission with
  | none=>exact sound
  | some request=>exact sound.proceed holds
 | abort =>
  refine ⟨sound.bounded.of_admission ?_,sound.counted.put_admission none⟩
  intro request is
  cases is
 | claim worker locked now=>exact sound.claim nextBudgetDay worker locked now
 | look worker now =>
  exact sound.turn worker .claimed (fun work=>look_row _ now work) fun work=>look_proper _ now work
 | enrich worker now enrichment =>
  exact sound.turn worker .enriching (fun work=>by cases enrichment <;> rfl)
   fun work=>enrich_proper now enrichment work
 | check worker now =>
  exact sound.turn worker .enriched (fun work=>check_row _ now work)
   fun work=>check_proper _ now work
 | finish worker=>exact sound.finish nextBudgetDay worker
 | crash worker=>exact ⟨sound.bounded,sound.counted.put worker fun _ none=>by cases none⟩
 | observe siren row =>
  refine ⟨{sound.bounded with admission:=?_},{sound.counted with held:=?_}⟩
  · intro request is
    have admitted:=sound.bounded.admission request is
    exact ⟨admitted.idle,admitted.room,admitted.roomOf⟩
  · intro worker work is
    have held:=sound.counted.held worker work is
    exact ⟨held.lease,held.once,held.same,held.proper⟩

end

section
variable (nextBudgetDay:ℤ→ℤ)

def World.TakenOver (w:World)(row:Job):Prop:=
 ∃leaseId,row.leaseId=some leaseId ∧ ∃claim∈w.claims,claim.1=row.jobId ∧ leaseId<claim.2

def World.requested (w:World)(siren:Siren)(accountId:Option String)(now:ℤ):World:=
 [Op.request siren accountId now,.proceed,.proceed,.proceed].foldl (step nextBudgetDay) w

structure World.Kept (w:World):Prop where
 total:w.db.pendingCount ≤ maxPendingRequests
 accounts:∀accountId,w.db.accountPending accountId ≤ maxAccountPendingRequests
 single:(w.db.jobs.map Job.siren).Nodup
 /-- No operation takes the place of a pending job. -/
 stays:∀op siren job,w.db.job? siren=some job→job.pending=true →
  ∃job',(step nextBudgetDay w op).db.job? siren=some job' ∧ job'.jobId=job.jobId
 stale:∀worker row now finding,w.workers worker=some ⟨row,.found now finding⟩ →
  w.TakenOver row→(step nextBudgetDay w (.finish worker)).db=w.db
 /-- Unless its third attempt runs. -/
 claimable:∀job∈w.db.jobs,job.pending=true →(job.status=.running→job.attemptCount < maxAttempts) →
  ∃later,∀now,later≤now→job.due now=true
 attempts:∀jobId,w.unended jobId ≤ maxAttempts
 /-- A request that nothing interrupts queues a job where the view says that it can,
 caps aside. -/
 refreshes:w.admission=none→∀siren accountId now,
  (∃job,(w.requested nextBudgetDay siren accountId now).db.job? siren=some job ∧
   job.jobId=w.nextId) ↔
  (w.db.enrichmentView siren now).canRefresh=true ∧ w.db.pendingCount < maxPendingRequests ∧
   ∀account,accountId=some account→w.db.accountPending account < maxAccountPendingRequests
 /-- And whatever comes between, its last statement does. -/
 queues:∀request,w.admission=some request → request.stage=.writing →
  (step nextBudgetDay w .proceed).db.job? request.siren=some (w.db.queued w.nextId request)

end

section
variable {w:World}

lemma step_proceed (nextBudgetDay:ℤ→ℤ){request:Request}
 (is:w.admission=some request):step nextBudgetDay w .proceed=w.proceed request:=by
 unfold step
 rw[is]
 rfl

lemma step_proceed_none (nextBudgetDay:ℤ→ℤ)(free:w.admission=none) :
 step nextBudgetDay w .proceed=w:=by
 unfold step
 rw[free]
 rfl

lemma turn_db (worker:ℕ)(phase:Phase)(next:Work→Work) : (w.turn worker phase next).db=w.db:=by
 unfold World.turn
 cases w.workers worker with
 | none=>rfl
 | some work =>
  dsimp only
  split <;> rfl

lemma World.Sound.stays (sound:w.Sound)(nextBudgetDay:ℤ→ℤ)(op:Op){siren:Siren}
 {job:Job}(found:w.db.job? siren=some job)(pending:job.pending=true) :
 ∃job',(step nextBudgetDay w op).db.job? siren=some job' ∧ job'.jobId=job.jobId:=by
 have same {w':World}(db:w'.db=w.db) : ∃job',w'.db.job? siren=some job' ∧ job'.jobId=job.jobId:=by
  rw[db]
  exact ⟨job,found,rfl⟩
 cases op with
 | request other accountId now =>
  unfold step
  dsimp only
  split <;> exact same rfl
 | proceed =>
  cases is:w.admission with
  | none=>exact same (by rw[step_proceed_none nextBudgetDay is])
  | some request =>
   have admitted:=sound.bounded.admission request is
   rw[step_proceed nextBudgetDay is]
   unfold World.proceed
   cases request.stage with
   | counting | countingAccount =>
    dsimp only
    split <;> exact same rfl
   | writing =>
    rw[queue_job? w.nextId sound.bounded.keyed admitted.idle]
    -- an admitted request is for a company without a pending job
    have other:siren≠request.siren:=by
     rintro rfl
     rw[admitted.idle job found] at pending
     cases pending
    rw[if_neg other]
    exact ⟨job,found,rfl⟩
 | claim worker locked now =>
  have first:=(interrupt_writes now).calmer w.db
  unfold step
  dsimp only
  split
  · exact same rfl
  · unfold Db.claim
    dsimp only
    cases firstOf ((update (·.interrupted now) (·.interrupt now) w.db.jobs).filter
      fun job=>job.due now&&!locked.contains job.siren) with
    | none=>exact first.kept siren job found
    | some row =>
     exact (first.trans ((claimed_writes row w.nextId now).calmer _)).kept siren job found
 | look worker now | enrich worker now _ | check worker now=>exact same (turn_db _ _ _)
 | finish worker =>
  unfold step
  dsimp only
  split
  · rename_i row now finding is
    exact ((finished_writes nextBudgetDay row now finding).calmer w.db).kept siren job found
  · exact same rfl
 | abort | crash worker | observe other row=>exact ⟨job,found,rfl⟩

lemma World.Sound.stale (sound:w.Sound)(nextBudgetDay:ℤ→ℤ){worker:ℕ}{row:Job}
 {now:ℤ}{finding:Finding}(is:w.workers worker=some ⟨row,.found now finding⟩)
 (taken:w.TakenOver row):(step nextBudgetDay w (.finish worker)).db=w.db:=by
 obtain ⟨leaseId,lease,claim,mem,of,later⟩:=taken
 have gone:∀job∈w.db.jobs,job.holds row=false:=by
  intro job there
  rw[Bool.eq_false_iff]
  intro holds
  obtain ⟨-,sameId,sameLease,runs⟩:=holds_iff.mp holds
  obtain ⟨current,leased,-,-,last⟩:=sound.counted.running job there runs
  have least:=last claim mem (of.trans sameId.symm)
  rw[sameLease,lease] at leased
  have is':=Option.some.inj leased
  omega
 unfold step
 dsimp only
 rw[is]
 dsimp only
 unfold Db.finish
 rw[update_of_none gone]

lemma World.Sound.refreshes (sound:w.Sound)(nextBudgetDay:ℤ→ℤ)(free:w.admission=none)
 (siren:Siren)(accountId:Option String)(now:ℤ) :
 (∃job,(w.requested nextBudgetDay siren accountId now).db.job? siren=some job ∧
  job.jobId=w.nextId) ↔
 (w.db.enrichmentView siren now).canRefresh=true ∧ w.db.pendingCount < maxPendingRequests ∧
  ∀account,accountId=some account →w.db.accountPending account < maxAccountPendingRequests:=by
 have old {w':World}(db:w'.db=w.db) : ¬∃job,w'.db.job? siren=some job ∧ job.jobId=w.nextId:=by
  rintro ⟨job,found,is⟩
  rw[db] at found
  have less:=sound.bounded.fresh job (find?_key found).1
  omega
 have still {w':World}(free':w'.admission=none) :
   step nextBudgetDay w' .proceed=w':=step_proceed_none nextBudgetDay free'
 have proceeded (request:Request) :
   step nextBudgetDay {w with admission:=some request} .proceed =
    {w with admission:=some request}.proceed request:=
  step_proceed nextBudgetDay rfl
 have opened:step nextBudgetDay w (.request siren accountId now) =
   if (w.db.enrichmentView siren now).canRefresh=true then
    {w with admission:=some ⟨siren,accountId,now,.counting⟩}
   else w:=by
  unfold step
  simp[free]
 unfold World.requested
 simp only[List.foldl_cons,List.foldl_nil]
 rw[opened]
 by_cases can:(w.db.enrichmentView siren now).canRefresh=true
 · have idle:=idle_of_canRefresh sound.bounded.jobs can
   have written (accountId':Option String) :
     ∃job,(w.db.queue w.nextId ⟨siren,accountId',now,.writing⟩).1.job? siren=some job ∧
      job.jobId=w.nextId:=
    ⟨_,(queue_job? w.nextId sound.bounded.keyed idle siren).trans (if_pos rfl),rfl⟩
   rw[if_pos can,proceeded]
   unfold World.proceed
   by_cases full:maxPendingRequests≤w.db.pendingCount
   · rw[if_pos full,still rfl,still rfl]
     refine iff_of_false (old rfl) ?_
     rintro ⟨-,room,-⟩
     omega
   rw[if_neg full]
   cases accountId with
   | none =>
    rw[proceeded]
    rw[Option.isSome_none,if_neg Bool.false_ne_true]
    rw[still rfl]
    exact iff_of_true (written none) ⟨can,by omega,fun account is=>by cases is⟩
   | some account =>
    rw[proceeded]
    unfold World.proceed
    rw[Option.isSome_some,if_pos rfl]
    dsimp only
    by_cases fullOf:maxAccountPendingRequests≤w.db.accountPending account
    · rw[if_pos (by simpa using fullOf),still rfl]
      refine iff_of_false (old rfl) ?_
      rintro ⟨-,-,room⟩
      have less:=room account rfl
      omega
    · rw[if_neg (by simpa using fullOf),proceeded]
      refine iff_of_true (written (some account)) ⟨can,by omega,?_⟩
      rintro account' is
      obtain rfl:=Option.some.inj is
      omega
 · rw[if_neg can,still free,still free,still free]
   exact iff_of_false (old rfl) fun holds=>can holds.1

end

/-- In every interleaving, from an empty queue on. -/
theorem requests_kept (nextBudgetDay:ℤ→ℤ)(directory:Siren→Option DirectoryRow) (ops:List Op) :
 (ops.foldl (step nextBudgetDay) (World.start directory)).Kept nextBudgetDay:=by
 have kept:∀ (w:World)(op:Op),w.Sound→(step nextBudgetDay w op).Sound:=
  fun w op sound=>step_sound nextBudgetDay sound op
 have sound:=Runs.invariant World.Sound kept ops (start_sound directory)
 refine ⟨sound.bounded.total,sound.bounded.accounts,sound.bounded.keyed,?_,?_,?_,
  sound.counted.unended,?_,?_⟩
 · exact fun op siren job found pending=>sound.stays nextBudgetDay op found pending
 · exact fun worker row now finding is taken=>sound.stale nextBudgetDay is taken
 · exact fun job mem pending left=>(sound.bounded.jobs job mem).claimable pending left
 · exact sound.refreshes nextBudgetDay
 · intro request is writing
   rw[step_proceed nextBudgetDay is]
   unfold World.proceed
   rw[writing]
   exact (queue_job? _ sound.bounded.keyed (sound.bounded.admission request is).idle _).trans
    (if_pos rfl)

lemma requestedSiren_digits:NineDigits "356000000":=by decide +kernel

def requestedSiren:Siren:=⟨"356000000",requestedSiren_digits⟩

def crashes:List Op:=
 [.request requestedSiren none 0,.proceed,.proceed,.claim 0 [] 0,.crash 0,.claim 0 [] 1800,
  .crash 0,.claim 0 [] 3600,.crash 0]

/-- The job is running and counted, and never claimed again. -/
theorem crashed_third_attempt : ∃job∈(crashes.foldl (step id) (World.start fun _=>none)).db.jobs,
  job.status=.running ∧ job.pending=true ∧ ∀now,job.due now=false:=by
 have run:∃job∈(crashes.foldl (step id) (World.start fun _=>none)).db.jobs,
   job.status=.running ∧ job.attemptCount=maxAttempts:=by
  decide +kernel
 obtain ⟨job,mem,runs,attempts⟩:=run
 exact ⟨job,mem,runs,by simp[Job.pending,runs,Status.active],fun now=>by
  simp[Job.due,attempts]⟩

end Kivou.CompanyRequests
