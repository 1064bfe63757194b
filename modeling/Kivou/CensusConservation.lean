import Kivou.CensusBooks

set_option autoImplicit false

/-! What the processes hold, what was invoked and what was recorded agree with the tables after
every step, whoever takes it. -/
namespace Kivou.Census
open Tables PythonValues Runs

def Reserved (db:Db)(id:CallId):Prop:=∃call,db.call? id=some call ∧ call.status=.reserved

def Limited (db:Db)(id:CallId):Prop:=∃call,db.call? id=some call ∧ call.status=.rateLimited

def Job.callId (job:Job):CallId:=⟨job.request.kind,job.request.subject,job.attempt⟩

def Job.held (job:Job):Option CallId:=
 match job.stage with
 | .claimed callId | .answered callId _=>some callId
 | .again=>none

structure Job.Sound (db:Db)(invoked:List CallId)(job:Job):Prop where
 held:∀id,job.held=some id→id=job.callId ∧ Reserved db id
 claimed:∀id,job.stage=.claimed id→id∉invoked
 again:job.stage=.again→Limited db ⟨job.request.kind,job.request.subject,1⟩

def RecordedOn (db:Db)(path:Path)(id:CallId):Prop:=
 ∃call partitionId page,db.call? id=some call ∧ call.status=.completed ∧
  call.partitionId=some partitionId ∧ call.resultSnapshot=some (.page page) ∧
  Done db call.permitId partitionId page.page path

structure Sound (w:World):Prop where
 balanced:Balanced w.db
 jobs:∀process job,w.jobs process=some job→job.Sound w.db w.invoked
 alone:∀process process' job job' id,w.jobs process=some job →
  w.jobs process'=some job'→job.held=some id→job'.held=some id→process=process'
 once:w.invoked.Nodup
 asked:∀id∈w.invoked,∃call,w.db.call? id=some call
 recorded:∀entry∈w.recorded,RecordedOn w.db entry.1 entry.2

lemma Later.limited {db db':Db}(later:Later db db'){id:CallId}(limited:Limited db id) :
 Limited db' id:=by
 obtain ⟨call,found,status⟩:=limited
 obtain ⟨call',found',same⟩:=later.call id call found
 have kept:=same (by rw[status];exact CallStatus.noConfusion)
 exact ⟨call',found',by rw[kept,status]⟩

lemma Later.recordedOn {db db':Db}(later:Later db db'){path:Path}{id:CallId}
 (recorded:RecordedOn db path id):RecordedOn db' path id:=by
 obtain ⟨call,partitionId,page,found,completed,partition,answer,done⟩:=recorded
 obtain ⟨call',found',same⟩:=later.call id call found
 have kept:=same (by rw[completed];exact CallStatus.noConfusion)
 subst kept
 exact ⟨call',partitionId,page,found',completed,partition,answer,later.done done⟩

lemma Later.asked {db db':Db}(later:Later db db'){id:CallId}
 (asked:∃call,db.call? id=some call):∃call,db'.call? id=some call:=by
 obtain ⟨call,found⟩:=asked
 obtain ⟨call',found',-⟩:=later.call id call found
 exact ⟨call',found'⟩

lemma Job.Sound.mono {db db':Db}{invoked:List CallId}{job:Job}
 (sound:job.Sound db invoked)(later:Later db db')
 (kept:∀id,job.held=some id→Reserved db' id):job.Sound db' invoked where
 held id h:=⟨(sound.held id h).1,kept id h⟩
 claimed:=sound.claimed
 again h:=later.limited (sound.again h)

section
variable {w:World}{process:ℕ}{db':Db}

lemma again_job {context:Option PermitContext}{request:Request}{attempt start:ℕ}{job:Job}
 (h:Pass.again.job context request attempt start=some job) :
 attempt=1 ∧ job=⟨context,request,attempt,start,.again⟩:=by
 have unfolded:Pass.again.job context request attempt start =
   if attempt=1 then some ⟨context,request,attempt,start,.again⟩ else none:=rfl
 rw[unfolded] at h
 split at h
 · rename_i first
   exact ⟨first,(Option.some.inj h).symm⟩
 · cases h

lemma jobs_setJob {w:World}{process other:ℕ} {job?:Option Job} :
 (w.setJob process job?).jobs other=if other=process then job? else w.jobs other:=by
 unfold World.setJob
 dsimp only
 rw[Function.update_apply]

lemma Sound.moved (sound:Sound w) (job?:Option Job)(balanced:Balanced db') (later:Later w.db db')
 (kept:∀other job id,other≠process→w.jobs other=some job→job.held=some id →
  Reserved db' id)
 (own:∀job,job?=some job→job.Sound db' w.invoked)
 (apart:∀job id,job?=some job→job.held=some id →
  ∀other job',other≠process→w.jobs other=some job'→job'.held≠some id) :
 Sound ({w with db:=db'}.setJob process job?) where
 balanced:=balanced
 jobs other job h:=by
  rw[jobs_setJob] at h
  split at h
  · exact own job h
  · rename_i different
    exact (sound.jobs other job h).mono later fun id held=>kept other job id different h held
 alone first second job job' id hfirst hsecond held held':=by
  rw[jobs_setJob] at hfirst hsecond
  split at hfirst
  · rename_i same
    split at hsecond
    · rename_i same'
      rw[same,same']
    · rename_i different
      exact absurd held' (apart job id hfirst held second job' different hsecond)
  · rename_i different
    split at hsecond
    · exact absurd held (apart job' id hsecond held' first job different hfirst)
    · exact sound.alone first second job job' id hfirst hsecond held held'
 once:=sound.once
 asked id mem:=later.asked (sound.asked id mem)
 recorded entry mem:=later.recordedOn (sound.recorded entry mem)

lemma Sound.stopped (sound:Sound w)(process:ℕ):Sound (w.setJob process none):=by
 refine sound.moved none sound.balanced (Later.refl w.db) ?_ ?_ ?_
 · intro other job id _ h held
   exact ((sound.jobs other job h).held id held).2
 · rintro job ⟨⟩
 · rintro job id ⟨⟩

lemma Sound.pass (sound:Sound w){context:Option PermitContext}{request:Request}
 {attempt start now:ℕ}
 (turn:attempt=1 ∨ attempt=2 ∧ Limited w.db ⟨request.kind,request.subject,1⟩) :
 Sound (w.pass process context request attempt start now):=by
 unfold World.pass
 split
 · exact sound.stopped process
 · rename_i db reached passed
   have kept:∀other job id,other≠process→w.jobs other=some job→job.held=some id →Reserved w.db id:=
    fun other job id _ h held=>((sound.jobs other job h).held id held).2
   rcases pass_ok passed with ⟨call,result,-,-,-,rfl,rfl⟩|⟨call,found,limited,rfl,rfl⟩ |
     ⟨bound,call,rfl,reserves,rfl⟩
   · refine sound.moved none sound.balanced (Later.refl _) kept ?_ ?_
     · rintro job ⟨⟩
     · rintro job id ⟨⟩
   · refine sound.moved _ sound.balanced (Later.refl _) kept ?_ ?_
     · intro job h
       obtain ⟨first,rfl⟩:=again_job h
       refine ⟨?_,?_,fun _=>⟨call,first ▸ found,limited⟩⟩
       · rintro id ⟨⟩
       · rintro id ⟨⟩
     · intro job id h held
       obtain ⟨-,rfl⟩:=again_job h
       cases held
   · have later:=reserves.later
     have fresh:=reserves.fresh
     have asked:=reserves.asked
     refine sound.moved _ (sound.balanced.reserved reserves turn) later ?_ ?_ ?_
     · intro other job id different h held
       obtain ⟨c,found,status⟩:=kept other job id different h held
       refine ⟨c,?_,status⟩
       rw[reserves.call?,if_neg,found]
       rintro rfl
       rw[fresh] at found
       cases found
     · intro job h
       cases h
       refine ⟨?_,?_,fun again=>by cases again⟩
       · rintro id ⟨⟩
         refine ⟨rfl,call,?_,by rw[asked];rfl⟩
         rw[reserves.call?,if_pos rfl]
       · rintro id ⟨⟩ mem
         obtain ⟨c,found⟩:=sound.asked _ mem
         rw[fresh] at found
         cases found
     · rintro job id ⟨⟩ ⟨⟩ other job' different h held
       obtain ⟨c,found,-⟩:=kept other job' _ different h held
       rw[fresh] at found
       cases found

lemma Sound.invoked (sound:Sound w){job:Job}{callId:CallId}
 (h:w.jobs process=some job)(claimed:job.stage=.claimed callId)(outcome:Outcome) :
 Sound ({w with invoked:=w.invoked++[callId]}.setJob process
  (some {job with stage:=.answered callId outcome})):=by
 have held:job.held=some callId:=by rw[Job.held,claimed]
 obtain ⟨same,reserved⟩:=(sound.jobs process job h).held callId held
 have new:=(sound.jobs process job h).claimed callId claimed
 refine ⟨sound.balanced,?_,?_,?_,?_,sound.recorded⟩
 · intro other job' h'
   rw[jobs_setJob] at h'
   split at h'
   · cases h'
     refine ⟨?_,?_,?_⟩
     · rintro id ⟨⟩
       exact ⟨same,reserved⟩
     · rintro id ⟨⟩
     · rintro ⟨⟩
   · rename_i different
     have before:=sound.jobs other job' h'
     refine ⟨before.held,fun id stage mem=>?_,before.again⟩
     rcases List.mem_append.mp mem with old|now
     · exact before.claimed id stage old
     · have held':job'.held=some id:=by rw[Job.held,stage]
       rw[List.mem_singleton.mp now] at held'
       exact different (sound.alone other process job' job callId h' h held' held)
 · intro first second job₁ job₂ id h₁ h₂ held₁ held₂
   rw[jobs_setJob] at h₁ h₂
   split at h₁
   · rename_i first_eq
     cases h₁
     cases held₁
     split at h₂
     · rename_i second_eq
       rw[first_eq,second_eq]
     · rename_i different
       exact absurd (sound.alone second process job₂ job callId h₂ h held₂ held) different
   · rename_i different
     split at h₂
     · cases h₂
       cases held₂
       exact absurd (sound.alone first process job₁ job callId h₁ h held₁ held) different
     · exact sound.alone first second job₁ job₂ id h₁ h₂ held₁ held₂
 · exact sound.once.append (List.nodup_singleton _) (List.disjoint_singleton.mpr new)
 · intro id mem
   rcases List.mem_append.mp mem with old|now
   · exact sound.asked id old
   · obtain ⟨call,found,-⟩:=reserved
     exact ⟨call,List.mem_singleton.mp now ▸ found⟩

lemma afterFailure_ok {attempt start:ℕ}{category:String}{retryAfter:Option ℕ}{u:Unit}
 (h:afterFailure attempt start category retryAfter=.ok u) :
 attempt=1 ∧ isRateLimited category=true:=by
 unfold afterFailure at h
 split at h
 · rename_i first
   refine ⟨first.2,?_⟩
   rw[first.1]
   decide
 · cases h

lemma Job.settled_some {job next:Job}{outcome:Outcome}(h:job.settled outcome=some next) :
 next={job with stage:=.again} ∧ job.attempt=1 ∧
  ∀call:Call,(call.answered outcome).status=.rateLimited:=by
 cases outcome with
 | answered result=>cases h
 | failed category retryAfter =>
  unfold Job.settled at h
  dsimp only at h
  split at h
  · rename_i passed
    obtain ⟨first,limited⟩:=afterFailure_ok passed
    cases h
    exact ⟨rfl,first,fun call=>if_pos limited⟩
  · cases h

lemma Sound.settled (sound:Sound w){job:Job}{callId:CallId}{outcome:Outcome}
 (h:w.jobs process=some job)(answered:job.stage=.answered callId outcome){db':Db}
 (settled:settle w.db callId outcome=.ok db') :
 Sound ({w with db:=db'}.setJob process (job.settled outcome)):=by
 have held:job.held=some callId:=by rw[Job.held,answered]
 obtain ⟨same,reserved⟩:=(sound.jobs process job h).held callId held
 obtain ⟨call,found,status⟩:=reserved
 obtain ⟨call',found',outcomes⟩:=settle_ok settled
 rw[found] at found'
 cases found'
 rcases outcomes with ⟨completed,-⟩|⟨-,runStatus,rfl⟩
 · rw[status] at completed
   cases completed
 · have later:=later_settled found status outcome runStatus
   refine sound.moved _ (sound.balanced.settled found status outcome runStatus) later ?_ ?_ ?_
   · intro other job' id different h' held'
     obtain ⟨c,hc,reserved⟩:=((sound.jobs other job' h').held id held').2
     refine ⟨c,?_,reserved⟩
     have apart:id≠callId:=by
      rintro rfl
      exact different (sound.alone other process job' job id h' h held' held)
     exact (call?_settled callId outcome runStatus id).trans (by rw[if_neg apart,hc])
   · intro job' hjob'
     obtain ⟨rfl,first,limited⟩:=Job.settled_some hjob'
     refine ⟨?_,?_,fun _=>⟨call.answered outcome,?_,limited call⟩⟩
     · rintro id ⟨⟩
     · rintro id ⟨⟩
     · have key:(⟨job.request.kind,job.request.subject,1⟩:CallId)=callId:=by
        rw[same,Job.callId,first]
       refine (call?_settled callId outcome runStatus _).trans ?_
       rw[if_pos key,found]
       rfl
   · intro job' id hjob' held'
     obtain ⟨rfl,-,-⟩:=Job.settled_some hjob'
     cases held'

end

section
variable {w:World}

lemma Sound.written (sound:Sound w){db':Db}(balanced:Balanced db')(later:Later w.db db')
 (calls:db'.calls=w.db.calls){recorded:List (Path × CallId)}
 (known:∀entry∈recorded,RecordedOn db' entry.1 entry.2) :
 Sound {w with db:=db',recorded} where
 balanced:=balanced
 jobs process job h:=by
  have before:=sound.jobs process job h
  refine before.mono later fun id held=>?_
  obtain ⟨call,found,reserved⟩:=(before.held id held).2
  exact ⟨call,by rw[Db.call?,calls];exact found,reserved⟩
 __:=sound
 asked id mem:=later.asked (sound.asked id mem)
 recorded:=known

lemma record_writes {normalizeDomain:String→Option String}{r:Recording}{db':Db}
 (balanced:Balanced w.db)(h:r.record normalizeDomain w.db=.ok db') :
 Balanced db' ∧ Later w.db db' ∧ db'.calls=w.db.calls ∧
  (r.due w.db=true→RecordedOn db' r.path r.callId):=by
 obtain ⟨call,agrees,⟨passed,rfl⟩|⟨due,⟨p,hp⟩,mid,records,rfl⟩⟩:=record_ok h
 · exact ⟨balanced,Later.refl _,rfl,fun due=>by rw[passed] at due;cases due⟩
 · have due':r.due mid=true:=by rw[records.due,due]
   have calls:(r.mark mid).calls=w.db.calls:=(mark_calls r mid).trans records.calls
   refine ⟨(balanced.recorded hp records).marked,records.later.trans (later_marked due'),calls,
    fun _=>⟨call,r.partitionId,r.page,?_,agrees.completed,agrees.partition,agrees.answer,?_⟩⟩
   · rw[Db.call?,calls]
     exact agrees.found
   · have done:=done_marked due'
     cases hpath:r.path with
     | cursor =>
      rw[hpath] at done
      exact done
     | sample =>
      rw[hpath] at done
      rw[agrees.plan (by rw[hpath];exact Path.noConfusion)]
      exact done
     | b1 =>
      rw[hpath] at done
      rw[agrees.plan (by rw[hpath];exact Path.noConfusion)]
      exact done

lemma Sound.recording (sound:Sound w)(normalizeDomain:String→Option String)
 (r:Recording):Sound (w.record normalizeDomain r):=by
 unfold World.record
 split
 · exact sound
 · rename_i db' h
   obtain ⟨balanced,later,calls,done⟩:=record_writes sound.balanced h
   refine sound.written balanced later calls fun entry mem=>?_
   split at mem
   · rename_i due
     rcases List.mem_append.mp mem with old|now
     · exact later.recordedOn (sound.recorded entry old)
     · rw[List.mem_singleton.mp now]
       exact done due
   · exact later.recordedOn (sound.recorded entry mem)

lemma Sound.next (sound:Sound w)(normalizeDomain:String→Option String)(step:Step) :
 Sound (next normalizeDomain w step):=by
 cases step with
 | execute process context request start now =>
  unfold Census.next
  dsimp only
  split
  · exact sound
  · exact sound.pass (.inl rfl)
 | retry process now =>
  unfold Census.next
  dsimp only
  split
  · rename_i context request attempt start h
    exact sound.pass (.inr ⟨rfl,(sound.jobs process _ h).again rfl⟩)
  · exact sound
 | invoke process outcome =>
  unfold Census.next
  dsimp only
  split
  · rename_i context request attempt start callId h
    exact sound.invoked h rfl outcome
  · exact sound
 | settle process =>
  unfold Census.next
  dsimp only
  split
  · rename_i context request attempt start callId outcome h
    split
    · exact sound.stopped process
    · rename_i db' settled
      have done:=sound.settled h rfl settled
      cases outcome <;> exact done
  · exact sound
 | crash process=>exact sound.stopped process
 | record r=>exact sound.recording normalizeDomain r
 | change change =>
  have later:=@later_changed w.db change
  exact sound.written (sound.balanced.changed change) later (change_calls change)
   fun entry mem=>later.recordedOn (sound.recorded entry mem)

lemma sound_start (censusId:String):Sound (World.start censusId) where
 balanced:=by
  refine ⟨List.nodup_nil,List.nodup_nil,rfl,rfl,rfl,rfl,?_⟩
  rintro id call ⟨⟩
 jobs:=by rintro process job ⟨⟩
 alone:=by rintro process process' job job' id ⟨⟩
 once:=List.nodup_nil
 asked:=by rintro id ⟨⟩
 recorded:=by rintro entry ⟨⟩

end

end Kivou.Census
