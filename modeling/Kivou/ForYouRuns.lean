import Kivou.ForYouQueue

set_option autoImplicit false

/-! The last transaction of a run writes its whole batch, also the rows that another run has claimed
meanwhile. -/
namespace Kivou.ForYouQueue

def Pool.ids (pool:Pool):List String:=
 pool.outcomes.map Prod.fst++pool.requeued++pool.pending++pool.left

lemma ids_submitNext (pool:Pool):pool.submitNext.ids.Perm pool.ids:=by
 unfold Pool.submitNext
 split
 · exact .refl _
 · rename_i id left hleft
   simp only[Pool.ids,hleft,List.append_assoc,List.singleton_append,List.Perm.refl]

lemma ids_collect (pool:Pool)(done:String × Attempt) : (pool.collect done).ids.Perm pool.ids:=by
 obtain ⟨id,attempt⟩:=done
 unfold Pool.collect
 split
 · rename_i mem
   have moved:(id::pool.pending.erase id).Perm pool.pending:=(List.perm_cons_erase mem).symm
   cases attempt with
   | exhausted =>
    simp only[Pool.ids,List.append_assoc,List.singleton_append]
    exact ((moved.append_right _).append_left _).append_left _
   | answered outcome =>
    have counted:(Pool.ids {pool with
      pending:=pool.pending.erase id
      outcomes:=pool.outcomes++[(id,outcome)]}).Perm pool.ids:=by
     simp only[Pool.ids,List.map_append,List.map_cons,List.map_nil,List.append_assoc,
      List.singleton_append]
     refine List.Perm.append_left _ ?_
     refine List.perm_middle.symm.trans ?_
     exact (moved.append_right _).append_left _
    dsimp only
    split
    · exact counted
    · exact (ids_submitNext _).trans counted
 · exact .refl _

lemma ids_fold (completions:List (String × Attempt))(pool:Pool) :
 (completions.foldl Pool.collect pool).ids.Perm pool.ids:=by
 induction completions generalizing pool with
 | nil=>exact .refl _
 | cons done rest ih=>exact (ih (pool.collect done)).trans (ids_collect pool done)

lemma ids_pool (run:Run)(concurrency:ℕ)(completions:List (String × Attempt)) :
 (run.pool concurrency completions).ids.Perm run.batch:=by
 have start:(Pool.start concurrency run.batch).ids=run.batch:=by
  simp[Pool.ids,Pool.start]
 exact (ids_fold completions _).trans (.of_eq start)

lemma ids_written (pool:Pool) : (pool.outcomes.map Prod.fst++pool.requeueIds).Sublist pool.ids:=by
 unfold Pool.ids Pool.requeueIds
 split
 · simp only[List.append_assoc]
   exact ((List.sublist_append_right _ _).append_left _).append_left _
 · simp only[List.append_assoc]
   exact (List.sublist_append_left _ _).append_left _

lemma written_nodup {run:Run}(unique:run.batch.Nodup)(concurrency:ℕ)
 (completions:List (String × Attempt)) :
 ((run.pool concurrency completions).outcomes.map Prod.fst ++
  (run.pool concurrency completions).requeueIds).Nodup:=
 (ids_written _).nodup ((ids_pool run concurrency completions).nodup_iff.mpr unique)

section
variable {rows:String→Option Row}{now:ℕ}{pool:Pool}{id:String}{outcome:Outcome}

lemma writeOutcomes_of_notMem {outcomes:List (String × Outcome)}
 (apart:id∉outcomes.map Prod.fst):writeOutcomes now outcomes rows id=rows id:=by
 induction outcomes generalizing rows with
 | nil=>rfl
 | cons done rest ih =>
  rw[List.map_cons,List.mem_cons,not_or] at apart
  refine (ih apart.2).trans ?_
  exact Function.update_of_ne apart.1 _ _

lemma writeOutcomes_of_mem {outcomes:List (String × Outcome)}
 (unique:(outcomes.map Prod.fst).Nodup)(mem:(id,outcome)∈outcomes) :
 writeOutcomes now outcomes rows id=(rows id).map (complete now outcome):=by
 induction outcomes generalizing rows with
 | nil=>cases mem
 | cons done rest ih =>
  rw[List.map_cons,List.nodup_cons] at unique
  rcases List.mem_cons.mp mem with rfl|later
  · refine (writeOutcomes_of_notMem unique.1).trans ?_
    exact Function.update_self ..
  · have other:id≠done.1:=by
     rintro rfl
     exact unique.1 (List.mem_map.mpr ⟨_,later,rfl⟩)
    refine (ih unique.2 later).trans ?_
    exact congrArg (Option.map (complete now outcome)) (Function.update_of_ne other _ _)

variable (unique:(pool.outcomes.map Prod.fst++pool.requeueIds).Nodup)
include unique

lemma writeBack_outcome (mem:(id,outcome)∈pool.outcomes) :
 writeBack now pool rows id=(rows id).map (complete now outcome):=by
 obtain ⟨first,-,apart⟩:=List.nodup_append.mp unique
 have here:id∈pool.outcomes.map Prod.fst:=List.mem_map.mpr ⟨_,mem,rfl⟩
 rw[writeBack,if_neg fun requeued=>apart id here id requeued rfl]
 exact writeOutcomes_of_mem first mem

lemma writeBack_requeue (mem:id∈pool.requeueIds) :
 writeBack now pool rows id=(rows id).map (requeue now):=by
 obtain ⟨-,-,apart⟩:=List.nodup_append.mp unique
 rw[writeBack,if_pos mem,writeOutcomes_of_notMem fun here=>apart id here id mem rfl]

omit unique in
lemma writeBack_other (out:id∉pool.outcomes.map Prod.fst)(unqueued:id∉pool.requeueIds) :
 writeBack now pool rows id=rows id:=by
 rw[writeBack,if_neg unqueued]
 exact writeOutcomes_of_notMem out

variable (rows now) in
lemma writeBack_cases (id:String) : (∃outcome,(id,outcome)∈pool.outcomes ∧
  writeBack now pool rows id=(rows id).map (complete now outcome)) ∨
 (id∈pool.requeueIds ∧ id∉pool.outcomes.map Prod.fst ∧
  writeBack now pool rows id=(rows id).map (requeue now)) ∨
 (id∉pool.outcomes.map Prod.fst ∧ writeBack now pool rows id=rows id):=by
 by_cases out:id∈pool.outcomes.map Prod.fst
 · obtain ⟨⟨_,outcome⟩,mem,rfl⟩:=List.mem_map.mp out
   exact .inl ⟨outcome,mem,writeBack_outcome unique mem⟩
 · by_cases unqueued:id∈pool.requeueIds
   · exact .inr (.inl ⟨unqueued,out,writeBack_requeue unique unqueued⟩)
   · exact .inr (.inr ⟨out,writeBack_other out unqueued⟩)

end

def KeepsCompleted (w w':World):Prop:=∀id row,w.rows id=some row → row.state=.completed →
  ∃row',w'.rows id=some row' ∧ row'.state=.completed

def Honest (w:World):Prop:=∀id row,w.rows id=some row →
  (row.provenance=.generated ↔ w.generated id=true) ∧
   (row.provenance≠.generated → row.sentence=row.fallbackSentence)

def KeepsFit (w:World)(step:Step)(w':World):Prop:=
 ∀process concurrency completions run,step=.finish process concurrency completions →
  w.runs process=some run→∀done∈(run.pool concurrency completions).outcomes,
   ∀row,w.rows done.1=some row → row.leaseOwner≠some run.worker →∀fit,row.modelFit=some fit →
     ∃row',w'.rows done.1=some row' ∧ row'.modelFit=some fit

structure Meets (w:World)(step:Step):Prop where
 completed:KeepsCompleted w (next w step)
 honest:Honest (next w step)
 fit:KeepsFit w step (next w step)

def Requeueable (run:Run)(row:Row):Prop:=row.leaseOwner=some run.worker ∨ row.state≠.completed

def Completable (run:Run)(outcome:Outcome)(row:Row):Prop:=row.leaseOwner=some run.worker ∨
  (outcome.sentence=none → row.provenance≠.generated) ∧
   ∀fit,row.modelFit=some fit → outcome.modelFit=some fit

/-- The last transaction of a run finds each row of its batch gone, still under
its lease, or in a state that what it writes does no harm to. -/
def Fenced (w:World):Step→Prop
 | .finish process concurrency completions =>
  ∀run,w.runs process=some run→(run.pool concurrency completions).pending=[] →
   (∀id∈(run.pool concurrency completions).requeueIds,∀row,w.rows id=some row →
    Requeueable run row) ∧
   ∀done∈(run.pool concurrency completions).outcomes,∀row,w.rows done.1=some row →
    Completable run done.2 row
 | _=>True

structure Sound (w:World):Prop where
 honest:Honest w
 settled:∀id row,w.rows id=some row → row.provenance=.generated → row.state=.completed
 leased:∀id row,w.rows id=some row → row.leaseOwner≠none → row.state=.running
 batches:∀process run,w.runs process=some run → run.batch.Nodup

lemma sound_empty:Sound World.empty where
 honest id row h:=by cases h
 settled id row h:=by cases h
 leased id row h:=by cases h
 batches process run h:=by cases h

section
variable {now:ℕ}{row:Row}

@[simp] lemma forgetRaw_state:(forgetRaw now row).state=row.state:=by
 unfold forgetRaw
 split <;> rfl

@[simp] lemma forgetRaw_provenance:(forgetRaw now row).provenance=row.provenance:=by
 unfold forgetRaw
 split <;> rfl

@[simp] lemma forgetRaw_sentence:(forgetRaw now row).sentence=row.sentence:=by
 unfold forgetRaw
 split <;> rfl

@[simp] lemma forgetRaw_fallbackSentence :
 (forgetRaw now row).fallbackSentence=row.fallbackSentence:=by
 unfold forgetRaw
 split <;> rfl

@[simp] lemma forgetRaw_leaseOwner:(forgetRaw now row).leaseOwner=row.leaseOwner:=by
 unfold forgetRaw
 split <;> rfl

lemma reclaimable_completed (completed:row.state=.completed):reclaimable now row=false:=by
 simp[reclaimable,completed]

end

section
variable {w:World}{process now:ℕ}{doomed chosen:List String}{id:String}{row row':Row}

lemma purged_some (h:purged now doomed w.rows id=some row') :
 ∃row,w.rows id=some row ∧ row'=forgetRaw now row:=by
 obtain ⟨h,-⟩:=Option.filter_eq_some_iff.mp h
 obtain ⟨row,found,rfl⟩:=Option.map_eq_some_iff.mp h
 exact ⟨row,found,rfl⟩

lemma claim_rows (h:(claim w process now doomed chosen).rows id=some row') :
 ∃row,w.rows id=some row ∧ (row'=forgetRaw now row ∨ reclaimable now (forgetRaw now row)=true ∧
   row'=leased now w.issued (forgetRaw now row)):=by
 change claimRows now w.issued (claimed now (purged now doomed w.rows) chosen)
  (purged now doomed w.rows) id=some row' at h
 unfold claimRows at h
 split at h
 · rename_i taken
   obtain ⟨kept,found,rfl⟩:=Option.map_eq_some_iff.mp h
   obtain ⟨row,before,rfl⟩:=purged_some found
   have free:=(List.mem_filter.mp taken).2
   rw[found,Option.any_some] at free
   exact ⟨row,before,.inr ⟨free,rfl⟩⟩
 · obtain ⟨row,before,same⟩:=purged_some h
   exact ⟨row,before,.inl same⟩

lemma claim_completed (found:w.rows id=some row)(completed:row.state=.completed) :
 (claim w process now doomed chosen).rows id=some (forgetRaw now row):=by
 have settled:reclaimable now (forgetRaw now row)=false:=
  reclaimable_completed (by simpa using completed)
 have kept:purged now doomed w.rows id=some (forgetRaw now row):=by
  simp[purged,found,settled]
 have free:id∉claimed now (purged now doomed w.rows) chosen:=by
  intro taken
  have open':=(List.mem_filter.mp taken).2
  rw[kept,Option.any_some,settled] at open'
  cases open'
 change claimRows now w.issued _ _ id=_
 rw[claimRows,if_neg free,kept]

variable (process now doomed chosen) in
lemma claim_meets (sound:Sound w) : KeepsCompleted w (claim w process now doomed chosen) ∧
  Sound (claim w process now doomed chosen):=by
 refine ⟨fun id row found completed=>
  ⟨forgetRaw now row,claim_completed found completed,by simpa using completed⟩,?_,?_,?_,?_⟩
 · intro id row' h
   obtain ⟨row,found,rfl|⟨-,rfl⟩⟩:=claim_rows h
   · simpa[claim] using sound.honest id row found
   · simpa[claim,leased] using sound.honest id row found
 · intro id row' h generated
   obtain ⟨row,found,rfl|⟨free,rfl⟩⟩:=claim_rows h
   · simpa using sound.settled id row found (by simpa using generated)
   · have completed:=sound.settled id row found (by simpa[leased] using generated)
     rw[reclaimable_completed (by simpa using completed)] at free
     cases free
 · intro id row' h held
   obtain ⟨row,found,rfl|⟨-,rfl⟩⟩:=claim_rows h
   · simpa using sound.leased id row found (by simpa using held)
   · rfl
 · intro p run h
   change Function.update w.runs process _ p=some run at h
   rw[Function.update_apply] at h
   split at h
   · cases h
     exact (List.nodup_dedup chosen).filter _
   · exact sound.batches p run h

variable {run:Run}{pool:Pool}

lemma finish_runs (sound:Sound w){p:ℕ}{other:Run}
 (h:(finish w process run pool).runs p=some other):other.batch.Nodup:=by
 change Function.update w.runs process none p=some other at h
 rw[Function.update_apply] at h
 split at h
 · cases h
 · exact sound.batches p other h

lemma finish_generated {outcome:Outcome}(unique:(pool.outcomes.map Prod.fst).Nodup)
 (mem:(id,outcome)∈pool.outcomes) :
 (finish w process run pool).generated id=(w.generated id||outcome.sentence.isSome):=by
 change (w.generated id||pool.outcomes.any _)=_
 congr 1
 rw[Bool.eq_iff_iff,List.any_eq_true]
 constructor
 · rintro ⟨⟨other,found⟩,here,hit⟩
   rw[Bool.and_eq_true,beq_iff_eq] at hit
   obtain ⟨rfl,some⟩:=hit
   have same:found=outcome:=by
    have both:=List.inj_on_of_nodup_map unique here mem rfl
    exact congrArg Prod.snd both
   exact same ▸ some
 · intro some
   exact ⟨(id,outcome),mem,by simpa using some⟩

lemma finish_generated_other (out:id∉pool.outcomes.map Prod.fst) :
 (finish w process run pool).generated id=w.generated id:=by
 change (w.generated id||pool.outcomes.any _)=_
 have none:pool.outcomes.any (fun done=>done.1==id&&done.2.sentence.isSome)=false:=by
  rw[List.any_eq_false]
  intro done mem hit
  rw[Bool.and_eq_true,beq_iff_eq] at hit
  exact out (List.mem_map.mpr ⟨done,mem,hit.1⟩)
 rw[none,Bool.or_false]

variable (process) in
lemma finish_meets (sound:Sound w)(unique:(pool.outcomes.map Prod.fst++pool.requeueIds).Nodup)
 (requeueable:∀id∈pool.requeueIds,∀row,w.rows id=some row→Requeueable run row)
 (completable:∀done∈pool.outcomes,∀row,w.rows done.1=some row →
  Completable run done.2 row) :
 KeepsCompleted w (finish w process run pool) ∧ Sound (finish w process run pool) ∧
  ∀done∈pool.outcomes,∀row,w.rows done.1=some row → row.leaseOwner≠some run.worker →
   ∀fit,row.modelFit=some fit →
    ∃row',(finish w process run pool).rows done.1=some row' ∧ row'.modelFit=some fit:=by
 have first:(pool.outcomes.map Prod.fst).Nodup:=(List.nodup_append.mp unique).1
 -- a row still under a lease is running, so nothing was completed on it
 have unfinished:∀id row,w.rows id=some row → row.leaseOwner=some run.worker →
   row.state≠.completed:=by
  intro id row found held completed
  have running:=sound.leased id row found (by rw[held];nofun)
  rw[running] at completed
  cases completed
 refine ⟨?_,⟨?_,?_,?_,fun p other=>finish_runs sound⟩,?_⟩
 · intro id row found completed
   rcases writeBack_cases w.rows run.now unique id with
    ⟨outcome,mem,written⟩ | ⟨mem,-,written⟩ | ⟨-,written⟩
   · exact ⟨complete run.now outcome row,written.trans (by rw[found];rfl),rfl⟩
   · rcases requeueable id mem row found with held|open'
     · exact absurd completed (unfinished id row found held)
     · exact absurd completed open'
   · exact ⟨row,written.trans found,completed⟩
 · intro id row' h
   rcases writeBack_cases w.rows run.now unique id with
    ⟨outcome,mem,written⟩ | ⟨-,out,written⟩ | ⟨out,written⟩
   · obtain ⟨row,found,rfl⟩:=Option.map_eq_some_iff.mp (written.symm.trans h)
     rw[finish_generated first mem]
     cases hsentence:outcome.sentence with
     | some sentence=>simp[complete,hsentence]
     | none =>
      have plain:row.provenance≠.generated:=by
       rcases completable (id,outcome) mem row found with held|harmless
       · exact fun generated=>unfinished id row found held (sound.settled id row found generated)
       · exact harmless.1 hsentence
      obtain ⟨same,fallback⟩:=sound.honest id row found
      have unwritten:w.generated id=false:=by
       simpa using fun generated=>plain (same.mpr generated)
      simp[complete,hsentence,unwritten,fallback plain]
   · obtain ⟨row,found,rfl⟩:=Option.map_eq_some_iff.mp (written.symm.trans h)
     rw[finish_generated_other out]
     simpa[requeue] using sound.honest id row found
   · rw[finish_generated_other out]
     exact sound.honest id row' (written.symm.trans h)
 · intro id row' h generated
   rcases writeBack_cases w.rows run.now unique id with
    ⟨outcome,-,written⟩ | ⟨mem,-,written⟩ | ⟨-,written⟩
   · obtain ⟨row,-,rfl⟩:=Option.map_eq_some_iff.mp (written.symm.trans h)
     rfl
   · obtain ⟨row,found,rfl⟩:=Option.map_eq_some_iff.mp (written.symm.trans h)
     have completed:=sound.settled id row found generated
     rcases requeueable id mem row found with held|open'
     · exact absurd completed (unfinished id row found held)
     · exact absurd completed open'
   · exact sound.settled id row' (written.symm.trans h) generated
 · intro id row' h held
   rcases writeBack_cases w.rows run.now unique id with
    ⟨outcome,-,written⟩ | ⟨-,-,written⟩ | ⟨-,written⟩
   · obtain ⟨row,-,rfl⟩:=Option.map_eq_some_iff.mp (written.symm.trans h)
     exact absurd rfl held
   · obtain ⟨row,-,rfl⟩:=Option.map_eq_some_iff.mp (written.symm.trans h)
     exact absurd rfl held
   · exact sound.leased id row' (written.symm.trans h) held
 · rintro ⟨id,outcome⟩ mem row found lost fit stored
   refine ⟨complete run.now outcome row,(writeBack_outcome unique mem).trans (by rw[found];rfl),?_⟩
   rcases completable (id,outcome) mem row found with held|harmless
   · exact absurd held lost
   · exact harmless.2 fit stored

variable (process) in
lemma finish_fenced (sound:Sound w)(unique:(pool.outcomes.map Prod.fst++pool.requeueIds).Nodup)
 (completed:KeepsCompleted w (finish w process run pool))
 (honest:Honest (finish w process run pool))
 (fit:∀done∈pool.outcomes,∀row,w.rows done.1=some row →
  row.leaseOwner≠some run.worker→∀fit,row.modelFit=some fit →
   ∃row',(finish w process run pool).rows done.1=some row' ∧ row'.modelFit=some fit) :
 (∀id∈pool.requeueIds,∀row,w.rows id=some row→Requeueable run row) ∧
  ∀done∈pool.outcomes,∀row,w.rows done.1=some row → Completable run done.2 row:=by
 have first:(pool.outcomes.map Prod.fst).Nodup:=(List.nodup_append.mp unique).1
 constructor
 · intro id mem row found
   refine .inr fun done=>?_
   obtain ⟨row',found',still⟩:=completed id row found done
   have written:(finish w process run pool).rows id=some (requeue run.now row):=
    (writeBack_requeue unique mem).trans (by rw[found];rfl)
   rw[written] at found'
   cases found'
   cases still
 · rintro ⟨id,outcome⟩ mem row found
   have written:(finish w process run pool).rows id=some (complete run.now outcome row):=
    (writeBack_outcome unique mem).trans (by rw[found];rfl)
   by_cases held:row.leaseOwner=some run.worker
   · exact .inl held
   · refine .inr ⟨fun unanswered generated=>?_,fun f stored=>?_⟩
     · have marked:(finish w process run pool).generated id=true:=by
        rw[finish_generated first mem,(sound.honest id row found).1.mp generated,Bool.true_or]
       have claimed:=(honest id _ written).1.mpr marked
       exact absurd unanswered (by simpa[complete] using claimed)
     · obtain ⟨row',found',kept⟩:=fit (id,outcome) mem row found held f stored
       rw[written] at found'
       cases found'
       exact kept

end

lemma deposit_meets {w:World}{id:String}(sound:Sound w)(absent:w.rows id=none)
 (fallback:String)(now:ℕ) :
 KeepsCompleted w (next w (.deposit id fallback now)) ∧
  Sound (next w (.deposit id fallback now)):=by
 have after:next w (.deposit id fallback now) =
   {w with
     rows:=Function.update w.rows id (some (deposited fallback now))
     generated:=Function.update w.generated id false}:=by
  simp only[next,absent]
 rw[after]
 refine ⟨?_,?_,?_,?_,sound.batches⟩
 · intro other row found completed
   have apart:other≠id:=by
    rintro rfl
    rw[absent] at found
    cases found
   exact ⟨row,(Function.update_of_ne apart _ _).trans found,completed⟩
 · intro other row h
   simp only[Function.update_apply] at h ⊢
   split at h
   · rename_i same
     cases h
     simp[same,deposited]
   · rename_i apart
     rw[if_neg apart]
     exact sound.honest other row h
 · intro other row h generated
   simp only[Function.update_apply] at h
   split at h
   · cases h
     cases generated
   · exact sound.settled other row h generated
 · intro other row h held
   simp only[Function.update_apply] at h
   split at h
   · cases h
     exact absurd rfl held
   · exact sound.leased other row h held

lemma meets_of_next {w w':World}{step:Step}(after:next w step=w')
 (completed:KeepsCompleted w w')(sound':Sound w')(fit:KeepsFit w step w') :
 Meets w step ∧ Sound (next w step):=by
 subst after
 exact ⟨⟨completed,sound'.honest,fit⟩,sound'⟩

lemma meets_and_sound {w:World}(sound:Sound w)(step:Step)(fenced:Fenced w step) :
 Meets w step ∧ Sound (next w step):=by
 have still:KeepsCompleted w w:=fun id row found completed=>⟨row,found,completed⟩
 cases step with
 | deposit id fallback now =>
  cases absent:w.rows id with
  | some row=>exact meets_of_next (by simp only[next,absent]) still sound nofun
  | none =>
   obtain ⟨completed,sound'⟩:=deposit_meets sound absent fallback now
   exact meets_of_next rfl completed sound' nofun
 | claim process now doomed chosen =>
  cases hrun:w.runs process with
  | some run=>exact meets_of_next (by simp only[next,hrun]) still sound nofun
  | none =>
   obtain ⟨completed,sound'⟩:=claim_meets process now doomed chosen sound
   exact meets_of_next (by simp only[next,hrun]) completed sound' nofun
 | crash process =>
  refine meets_of_next rfl still ⟨sound.honest,sound.settled,sound.leased,?_⟩ nofun
  intro p run h
  simp only[next,Function.update_apply] at h
  split at h
  · cases h
  · exact sound.batches p run h
 | finish process concurrency completions =>
  cases hrun:w.runs process with
  | none =>
   refine meets_of_next (by simp only[next,hrun]) still sound ?_
   rintro _ _ _ run ⟨⟩ hrun'
   rw[hrun] at hrun'
   cases hrun'
  | some run =>
   by_cases drained:(run.pool concurrency completions).pending=[]
   · obtain ⟨requeueable,completable⟩:=fenced run hrun drained
     obtain ⟨completed,sound',fit⟩:=finish_meets process sound
      (written_nodup (sound.batches process run hrun) concurrency completions)
      requeueable completable
     refine meets_of_next (by simp only[next,hrun,if_pos drained]) completed sound' ?_
     rintro _ _ _ run' ⟨⟩ hrun'
     rw[hrun] at hrun'
     cases hrun'
     exact fit
   · refine meets_of_next (by simp only[next,hrun,if_neg drained]) still sound ?_
     rintro _ _ _ run' ⟨⟩ hrun' done mem row found lost fit stored
     exact ⟨row,found,stored⟩

lemma meets_fenced {w:World}(sound:Sound w)(step:Step)(meets:Meets w step) :
 Fenced w step:=by
 cases step with
 | finish process concurrency completions =>
  intro run hrun drained
  have after:next w (.finish process concurrency completions) =
    finish w process run (run.pool concurrency completions):=by
   simp only[next,hrun,if_pos drained]
  refine finish_fenced process sound
   (written_nodup (sound.batches process run hrun) concurrency completions)
   (after ▸ meets.completed) (after ▸ meets.honest) ?_
  exact after ▸ meets.fit process concurrency completions run rfl hrun
 | _=>trivial

/-- Over every interleaving of deposits, claims, crashes and last transactions:
each step keeps what was completed, keeps the provenance true of the sentence
and lets no lost attempt overwrite a stored fit, if and only if every last
transaction is fenced where it is made. -/
theorem completions_hold_iff (steps:List Step) :
 Runs.Along next Meets World.empty steps ↔ Runs.Along next Fenced World.empty steps:=by
 have kept:∀w step,Sound w→Meets w step→Sound (next w step):=by
  intro w step sound meets
  exact (meets_and_sound sound step (meets_fenced sound step meets)).2
 refine Runs.along_congr_of_kept kept ?_ sound_empty steps
 intro w step sound
 exact ⟨meets_fenced sound step,fun fenced=>(meets_and_sound sound step fenced).1⟩

/-- No claim finds a run whose lease on a row has ended. -/
def Timely (w:World):Step→Prop
 | .claim _ now _ _=>∀process run,w.runs process=some run→∀id∈run.batch,
  ∀row∈w.rows id,reclaimable now row=false
 | _=>True

/-- Each run still has the lease of every row of its batch, and a worker id of its own. -/
structure Leased (w:World):Prop where
 rows:∀process run,w.runs process=some run→∀id∈run.batch,
  ∃row∈w.rows id,row.leaseOwner=some run.worker
 issued:∀process run,w.runs process=some run → run.worker<w.issued
 workers:∀process other run run',w.runs process=some run→w.runs other=some run' →
  run.worker=run'.worker→process=other
 batches:∀process run,w.runs process=some run → run.batch.Nodup

section
variable {w:World}{process now:ℕ}{doomed chosen:List String}

lemma Leased.fewer (leased:Leased w){w':World}(issued:w'.issued=w.issued)
 (runs:∀other run,w'.runs other=some run→w.runs other=some run ∧
  ∀id∈run.batch,∀row∈w.rows id,row.leaseOwner=some run.worker →
   ∃row'∈w'.rows id,row'.leaseOwner=some run.worker):Leased w' where
 rows:=by
  intro other run is id mem
  obtain ⟨was,kept⟩:=runs other run is
  obtain ⟨row,found,held⟩:=leased.rows other run was id mem
  exact kept id mem row found held
 issued:=fun other run is=>issued ▸ leased.issued other run (runs other run is).1
 workers:=fun p q run run' is is'=>leased.workers p q run run' (runs p run is).1 (runs q run' is').1
 batches:=fun other run is=>leased.batches other run (runs other run is).1

lemma Leased.claim (leased:Leased w)(timely:Timely w (.claim process now doomed chosen)) :
 Leased (claim w process now doomed chosen):=by
 have runs:∀p run,(ForYouQueue.claim w process now doomed chosen).runs p=some run →
   (p=process ∧ run=⟨w.issued,now,claimed now (purged now doomed w.rows) chosen⟩) ∨
    w.runs p=some run:=by
  intro p run is
  simp only[ForYouQueue.claim,Function.update_apply] at is
  split at is
  · rename_i same
    exact .inl ⟨same,(Option.some.inj is).symm⟩
  · exact .inr is
 refine ⟨?_,?_,?_,?_⟩
 · intro p run is id mem
   rcases runs p run is with ⟨-,rfl⟩|was
   · obtain ⟨row,found,-⟩:=(Option.any_eq_true ..).mp (List.mem_filter.mp mem).2
     refine ⟨ForYouQueue.leased now w.issued row,?_,rfl⟩
     change claimRows now w.issued _ _ id=_
     rw[claimRows,if_pos mem,found,Option.map_some]
   · obtain ⟨row,found,held⟩:=leased.rows p run was id mem
     have kept:reclaimable now (forgetRaw now row)=false:=by
      have fresh:=timely p run was id mem row found
      unfold forgetRaw
      split <;> exact fresh
     have stays:purged now doomed w.rows id=some (forgetRaw now row):=by
      rw[purged,found,Option.map_some,Option.filter_some,kept]
      rfl
     have free:id∉claimed now (purged now doomed w.rows) chosen:=by
      intro taken
      have reclaims:=(List.mem_filter.mp taken).2
      rw[stays,Option.any_some,kept] at reclaims
      cases reclaims
     refine ⟨forgetRaw now row,?_,by rw[forgetRaw_leaseOwner,held]⟩
     change claimRows now w.issued _ _ id=_
     rw[claimRows,if_neg free,stays]
 · intro p run is
   change run.worker<w.issued+1
   rcases runs p run is with ⟨-,rfl⟩|was
   · exact Nat.lt_succ_self _
   · exact Nat.lt_succ_of_lt (leased.issued p run was)
 · intro p q run run' is is' same
   rcases runs p run is with ⟨rfl,rfl⟩|was <;> rcases runs q run' is' with ⟨rfl,rfl⟩|was'
   · rfl
   · exact absurd same (Nat.ne_of_gt (leased.issued q run' was'))
   · exact absurd same (Nat.ne_of_lt (leased.issued p run was))
   · exact leased.workers p q run run' was was' same
 · intro p run is
   rcases runs p run is with ⟨-,rfl⟩|was
   · exact (List.nodup_dedup chosen).filter _
   · exact leased.batches p run was

lemma Leased.next (leased:Leased w)(step:Step)(timely:Timely w step) : Leased (next w step):=by
 cases step with
 | deposit id fallback now =>
  cases there:w.rows id with
  | some row=>simpa only[ForYouQueue.next,there] using leased
  | none =>
   simp only[ForYouQueue.next,there]
   refine leased.fewer rfl fun other run is=>⟨is,fun id' _ row found held=>⟨row,?_,held⟩⟩
   refine (Function.update_of_ne ?_ _ _).trans found
   rintro rfl
   cases there.symm.trans found
 | claim process now doomed chosen =>
  cases there:w.runs process with
  | some run=>simpa only[ForYouQueue.next,there] using leased
  | none =>
   simp only[ForYouQueue.next,there]
   exact leased.claim timely
 | crash process =>
  refine leased.fewer rfl fun other run is=>?_
  simp only[ForYouQueue.next,Function.update_apply] at is
  split at is
  · cases is
  · exact ⟨is,fun _ _ row found held=>⟨row,found,held⟩⟩
 | finish process concurrency completions =>
  cases there:w.runs process with
  | none=>simpa only[ForYouQueue.next,there] using leased
  | some run =>
   simp only[ForYouQueue.next,there]
   split
   · refine leased.fewer rfl fun other run' is=>?_
     simp only[finish,Function.update_apply] at is
     split at is
     · cases is
     · rename_i apart
       refine ⟨is,fun id mem row found held=>⟨row,?_,held⟩⟩
       -- the rows of the two batches have different owners
       have free:id∉run.batch:=by
        intro mine
        obtain ⟨row',found',held'⟩:=leased.rows process run there id mine
        obtain rfl:=Option.some.inj (found.symm.trans found')
        exact apart (leased.workers other process run' run is there
         (Option.some.inj (held.symm.trans held')))
       have out:id∉(run.pool concurrency completions).outcomes.map Prod.fst ++
         (run.pool concurrency completions).requeueIds:=fun written=>
        free ((ids_pool run concurrency completions).mem_iff.mp ((ids_written _).mem written))
       rw[List.mem_append,not_or] at out
       exact (writeBack_other out.1 out.2).trans found
   · exact leased

end

/-- Where every run makes its last transaction before its leases end, or at least before the next
claim, each last transaction is fenced. -/
lemma fenced_of_timely {steps:List Step}(timely:Runs.Along next Timely World.empty steps) :
 Runs.Along next Fenced World.empty steps:=by
 have start:Leased World.empty:=⟨nofun,nofun,nofun,nofun⟩
 have fenced:∀w step,Leased w→Timely w step→Fenced w step:=by
  intro w step leased _
  cases step with
  | finish process concurrency completions =>
   intro run is _
   have owned:∀id∈(run.pool concurrency completions).outcomes.map Prod.fst ++
     (run.pool concurrency completions).requeueIds,∀row,w.rows id=some row →
      row.leaseOwner=some run.worker:=by
    intro id written row found
    obtain ⟨row',found',held⟩:=leased.rows process run is id
     ((ids_pool run concurrency completions).mem_iff.mp ((ids_written _).mem written))
    obtain rfl:=Option.some.inj (found.symm.trans found')
    exact held
   refine ⟨fun id mem row found=>.inl (owned id (List.mem_append_right _ mem) row found),
    fun done mem row found=>.inl (owned done.1 (List.mem_append_left _ ?_) row found)⟩
   exact List.mem_map_of_mem mem
  | _=>trivial
 exact (Runs.along_congr_of_kept (fun w step leased timely=>leased.next step timely)
  (fun w step leased=>⟨fun timely=>⟨timely,fenced w step leased timely⟩,And.left⟩) start
  steps).mp timely |>.imp fun _ _=>And.right

def sampleOutcome:Outcome:=⟨some "generated",none,none,none,some .strong⟩

def takenOver:List Step:=
 [.deposit "row" "fallback" 0,.claim 0 0 [] ["row"],.claim 1 leaseTtl [] ["row"],
  .finish 1 4 [("row",.answered sampleOutcome)]]

def lateRequeue:Step:=.finish 0 4 [("row",.exhausted)]

theorem late_requeue_reopens_completed : ¬∀steps,Runs.Along next Meets World.empty steps:=by
 intro claim
 have run:=(Runs.along_append World.empty takenOver [lateRequeue]).mp
  (claim (takenOver++[lateRequeue]))
 have before:((reached takenOver).rows "row").map (·.state)=some .completed:=by
  decide +kernel
 have after:((next (reached takenOver) lateRequeue).rows "row").map (·.state)=some .pending:=by
  decide +kernel
 obtain ⟨row,found,completed⟩:=Option.map_eq_some_iff.mp before
 obtain ⟨row',found',still⟩:=run.2.1.completed "row" row found completed
 change (next (reached takenOver) lateRequeue).rows "row"=some row' at found'
 rw[found',Option.map_some,still] at after
 cases after

section
variable {P:Row→Prop}{now:ℕ}{rows:String→Option Row}

lemma writeOutcomes_all (completed:∀outcome row,P row→P (complete now outcome row))
 (outcomes:List (String × Outcome))(all:∀id,∀row∈rows id,P row)(id:String) :
 ∀row∈writeOutcomes now outcomes rows id,P row:=by
 induction outcomes generalizing rows with
 | nil=>exact all id
 | cons done rest ih =>
  refine ih fun other row found=>?_
  simp only[Function.update_apply] at found
  split at found
  · obtain ⟨before,stood,rfl⟩:=Option.map_eq_some_iff.mp found
    exact completed _ _ (all _ before stood)
  · exact all other row found

lemma writeBack_all (completed:∀outcome row,P row→P (complete now outcome row))
 (requeued:∀row,P row→P (requeue now row))(pool:Pool)
 (all:∀id,∀row∈rows id,P row)(id:String):∀row∈writeBack now pool rows id,P row:=by
 intro row found
 have written:=writeOutcomes_all completed pool.outcomes all id
 unfold writeBack at found
 split at found
 · obtain ⟨before,stood,rfl⟩:=Option.map_eq_some_iff.mp found
   exact requeued _ (written before stood)
 · exact written row found

end

/-- A raw response is kept with the end of its retention, a month from the completion it is of. -/
structure Row.Retained (row:Row):Prop where
 dated:row.rawProviderResponse≠none ↔ row.rawResponseExpiresAt≠none
 month:∀expiry∈row.rawResponseExpiresAt,∃done∈row.completedAt,expiry=done+rawResponseRetention

def World.Retained (w:World):Prop:=∀id,∀row∈w.rows id,row.Retained

lemma retained_forgetRaw (now:ℕ){row:Row}(retained:row.Retained) : (forgetRaw now row).Retained:=by
 unfold forgetRaw
 split
 · exact ⟨iff_of_false (not_not_intro rfl) (not_not_intro rfl),nofun⟩
 · exact retained

lemma retained_complete (now:ℕ)(outcome:Outcome)(row:Row) : (complete now outcome row).Retained:=by
 cases raw:outcome.rawResponse with
 | none=>exact ⟨by simp[complete,raw],by simp[complete,raw]⟩
 | some text=>exact ⟨by simp[complete,raw],by simp[complete,raw]⟩

lemma retained_next (w:World)(step:Step)(retained:w.Retained) : (next w step).Retained:=by
 intro id row found
 cases step with
 | deposit id' fallback now =>
  simp only[next] at found
  split at found
  · exact retained id row found
  · simp only[Function.update_apply] at found
    split at found
    · cases found
      exact ⟨iff_of_false (not_not_intro rfl) (not_not_intro rfl),nofun⟩
    · exact retained id row found
 | claim process now doomed chosen =>
  simp only[next] at found
  split at found
  · exact retained id row found
  · obtain ⟨before,stood,rfl|⟨-,rfl⟩⟩:=claim_rows found
    · exact retained_forgetRaw now (retained id before stood)
    -- A lease writes none of the three columns.
    · obtain ⟨dated,month⟩:=retained_forgetRaw now (retained id before stood)
      exact ⟨dated,month⟩
 | crash process=>exact retained id row found
 | finish process concurrency completions =>
  simp only[next] at found
  split at found
  · exact retained id row found
  · rename_i run _
    split at found
    · exact writeBack_all (fun outcome before _=>retained_complete run.now outcome before)
       (fun _ ⟨dated,month⟩=>⟨dated,month⟩) _ retained id row found
    · exact retained id row found

/-- In every interleaving a row holds a raw response of the provider exactly with an expiry, a month
after the completion it is of, and once a worker has claimed at an instant none is left whose expiry
had come. -/
theorem raw_responses_expire (steps:List Step) : (reached steps).Retained ∧
 ∀process now doomed chosen,(reached steps).runs process=none →
  ∀id,∀row∈(next (reached steps) (.claim process now doomed chosen)).rows id,
   row.rawProviderResponse≠none→∃expiry∈row.rawResponseExpiresAt,now<expiry:=by
 have retained:(reached steps).Retained:=
  Runs.invariant World.Retained retained_next steps (by rintro _ _ ⟨⟩)
 refine ⟨retained,fun process now doomed chosen idle id row found raw=>?_⟩
 have kept:=retained_next _ (.claim process now doomed chosen) retained id row found
 obtain ⟨expiry,ends⟩:=Option.ne_none_iff_exists'.mp (kept.dated.mp raw)
 have unexpired (before:Row):(forgetRaw now before).rawResponseExpiresAt.any (· ≤ now)≠true:=by
  unfold forgetRaw
  split
  · nofun
  · assumption
 have asked:row.rawResponseExpiresAt.any (· ≤ now)≠true:=by
  simp only[next,idle] at found
  obtain ⟨before,-,rfl|⟨-,rfl⟩⟩:=claim_rows found
  · exact unexpired before
  · exact unexpired before
 rw[ends,Option.any_some] at asked
 exact ⟨expiry,ends,Nat.lt_of_not_le fun due=>asked (decide_eq_true due)⟩

end Kivou.ForYouQueue
