import Kivou.ProspectReservations

set_option autoImplicit false

/-! Every writer of a target, by what it does to the status: a change is checked against the version
it expects, and a message that is sent stays sent. -/
namespace Kivou.ProspectStatuses
open ProspectRecords ProspectDelivery ProspectWorker ProspectProcess ProspectActions ProspectRuns
open ProspectLeases ProspectStranding ProspectGuards ProspectReservations

def Checked (st:System)(targetId:String)(t:Target):Step→Prop
 | .approve id expectedVersion | .correct id expectedVersion _ _ _
 | .reject id expectedVersion _ _=>id=targetId ∧ t.version=expectedVersion
 | .work leaseId _=>∃w r item,st.workers leaseId=some w ∧ w.targetId=targetId ∧
   st.db.request? w.requestId=some r ∧ r.item? targetId=some item ∧
   t.version=item.expectedVersion
 | _=>False

def Firm (st:System):Step→Prop
 | .correct targetId expectedVersion _ _ message=>∀t,st.db.target? targetId=some t →
   t.version=expectedVersion→t.status=.rejected→message.passed=true
 | _=>True

structure Moved (st:System)(i:Step)(t t':Target):Prop where
 version:t'.status≠t.status→t'.version=t.version+1 ∧ Checked st t.targetId t i
 sent:t.status=.sent→t'.status=.sent
 rejected:Firm st i→t.status=.rejected→t'.status=.rejected

section
variable {st:System}{i:Step}{t t':Target}

lemma moved_of_status (same:t'.status=t.status):Moved st i t t':=
 ⟨fun other=>absurd same other,fun sent=>same.trans sent,fun _ rejected=>same.trans rejected⟩

lemma moved_of_open (version:t'.version=t.version+1)(checked:Checked st t.targetId t i)
 (status:t.status=.pendingReview ∨ t.status=.approved):Moved st i t t':=by
 refine ⟨fun _=>⟨version,checked⟩,fun sent=>?_,fun _ rejected=>?_⟩
 · rcases status with status|status <;> rw[sent] at status <;> cases status
 · rcases status with status|status <;> rw[rejected] at status <;> cases status

lemma edit_moved (found:st.db.target? t.targetId=some t)(edit:Edit i t t') :
 Moved st i t t':=by
 cases edit with
 | same | regenerated | projected=>exact moved_of_status rfl
 | approved =>
  rename_i status
  exact moved_of_open rfl ⟨rfl,rfl⟩ (.inl status)
 | corrected =>
  rename_i changed verified message emailAddress mx status
  refine ⟨fun _=>⟨rfl,rfl,rfl⟩,fun sent=>absurd sent status,fun firm rejected=>?_⟩
  have passed:=firm t found rfl rejected
  unfold corrected
  rw[if_pos passed]
  exact rejected
 | rejected =>
  rename_i status
  exact moved_of_open rfl ⟨rfl,rfl⟩ status

lemma batch_moved {policy:Policy}{c:SendCommand}{at':ℕ}{around:Surroundings}
 {targets:List Target}{f:Target→Target}(keys:∀t,(f t).targetId=t.targetId)
 (status:∀t,(f t).status=t.status)
 (checked:checkBatch policy c at' around st.db=.ok targets){targetId:String}
 (found:st.db.target? targetId=some t) :
 ∃t',(setTargets st.db (targets.map f)).target? targetId=some t' ∧ Moved st i t t':=by
 obtain ⟨_,_,prepared⟩:=checkBatch_ok checked
 rcases batch_target? keys prepared targetId with ⟨row,mem,rfl,read⟩|⟨_,same⟩
 · obtain ⟨entry,_,ready⟩:=prepared_mem prepared mem
   obtain ⟨before,was,named,kept,_⟩:=ready.review
   rw[←named,found] at was
   obtain rfl:=Option.some.inj was
   exact ⟨f row,read,moved_of_status ((status row).trans (review_status kept))⟩
 · exact ⟨t,same.trans found,moved_of_status rfl⟩

lemma guarded_moved {leaseId:ℕ}{o:Oracle}{w:Worker}{s s':Scope} (held:st.workers leaseId=some w)
 (opened:openGuard st.db leaseId w.requestId w.targetId=some s)
 (guarded:Guarded w.targetId s s'):Moved st (.work leaseId o) s.target s'.target:=by
 obtain ⟨requested,targeted,_⟩:=openGuard_some opened
 have id:=(Db.target?_some targeted).2
 obtain ⟨_,_,item,item',own,_,_,outcome⟩:=guarded
 have checked:Unchanged item s→Checked st s.target.targetId s.target (.work leaseId o):=
  fun unchanged=>⟨w,s.request,item,held,id.symm,requested,by rw[id];exact own,unchanged.version⟩
 cases outcome with
 | carried _ _ same | pending _ _ same | already _ _ _ same =>
  exact moved_of_status (review_status same)
 | cancelled _ _ _ _ same =>
  refine moved_of_status ((review_status same).trans ?_)
  rw[freeTarget_target]
  split <;> rfl
 | sent unchanged _ now =>
  exact moved_of_open (congrArg (·.2.1) now) (checked unchanged) (.inr unchanged.approved)
 | failed _ unchanged _ _ _ now =>
  exact moved_of_open (congrArg (·.2.1) now) (checked unchanged) (.inr unchanged.approved)

end

lemma step_moved (policy:Policy){st:System}(i:Step)(h:Reserved st){targetId:String}
 {t:Target}(found:st.db.target? targetId=some t) :
 ∃t',(step policy st i).db.target? targetId=some t' ∧ Moved st i t t':=by
 have stepped:=step_stepped policy st h.keyed i
 have id:=(Db.target?_some found).2
 generalize step policy st i=st' at stepped
 cases stepped with
 | kept | claimed | crashed=>exact ⟨t,found,moved_of_status rfl⟩
 | outside _ db edited =>
  have edit:=edited.targets targetId
  rw[found] at edit
  generalize db.target? targetId=row at edit
  cases edit with
  | some edit=>exact ⟨_,rfl,edit_moved (by rw[id];exact found) edit⟩
 | conflicted c at' around targets r checked _ _ =>
  have batch:=batch_moved (f:=fun t=>t) (i:=.enqueueSend c at' around) (fun _=>rfl)
   (fun _=>rfl) checked found
  rwa[List.map_id'] at batch
 | reserved c at' around targets checked _ _ =>
  exact batch_moved (f:=fun t=>{t with sendRequestId:=some c.requestId}) (fun _=>rfl)
   (fun _=>rfl) checked found
 | worked leaseId o st' worked =>
  cases worked with
  | absent | stopped | counted | dropped | turned=>exact ⟨t,found,moved_of_status rfl⟩
  | committed w s s' next p' operations held opened way =>
   obtain ⟨_,targeted,_,_,item,own,_⟩:=openGuard_some opened
   have guarded:=way_guarded own (h.left held opened way).1 way
   rw[closeGuard_target? opened guarded.contact]
   split
   · rename_i same
     rw[same,targeted] at found
     obtain rfl:=Option.some.inj found
     exact ⟨s'.target,rfl,guarded_moved held opened guarded⟩
   · exact ⟨t,found,moved_of_status rfl⟩

def Absorbing (status:ProspectStatus):Prop:=status=.rejected ∨ status=.sent

lemma run_absorbing (policy:Policy){st:System}(h:Reserved st){steps:List Step}
 (firm:Runs.Along (step policy) Firm st steps){targetId:String}{t:Target}
 (found:st.db.target? targetId=some t)(absorbing:Absorbing t.status) :
 ∃t',(steps.foldl (step policy) st).db.target? targetId=some t' ∧ t'.status=t.status:=by
 induction steps generalizing st t with
 | nil=>exact ⟨t,found,rfl⟩
 | cons i steps ih =>
  obtain ⟨t',found',moved⟩:=step_moved policy i h found
  have same:t'.status=t.status:=by
   rcases absorbing with rejected|sent
   · rw[rejected]
     exact moved.rejected firm.1 rejected
   · rw[sent]
     exact moved.sent sent
  obtain ⟨t'',found'',same'⟩:=
   ih (step_reserved policy st i h) firm.2 found' (by rw[same];exact absorbing)
  exact ⟨t'',found'',same'.trans same⟩

/-- In a run that corrects no rejected target into a message that fails, a target
that is rejected or sent stays so, and every change of a status adds one to the
version that the step expected. -/
theorem rejected_and_sent_are_absorbing (policy:Policy)(opening:Opening)(steps:List Step)
 (firm:Runs.Along (step policy) Firm (start opening) steps) :
 (∀js ks targetId t,js++ks <+: steps →
   (js.foldl (step policy) (start opening)).db.target? targetId=some t →
   Absorbing t.status →
   ∃t',((js++ks).foldl (step policy) (start opening)).db.target? targetId=some t' ∧
    t'.status=t.status) ∧
  ∀js i targetId t t',js++[i] <+: steps →
   (js.foldl (step policy) (start opening)).db.target? targetId=some t →
   ((js++[i]).foldl (step policy) (start opening)).db.target? targetId=some t' →
   t'.status≠t.status →
   t'.version=t.version+1 ∧ Checked (js.foldl (step policy) (start opening)) targetId t i:=by
 constructor
 · rintro js ks targetId t ⟨rest,rfl⟩ found absorbing
   rw[List.append_assoc,Runs.along_append,Runs.along_append] at firm
   rw[List.foldl_append]
   exact run_absorbing policy (run_reserved policy opening js) firm.2.1 found absorbing
 · intro js i targetId t t' _ found found' changed
   obtain ⟨t'',read,moved⟩:=step_moved policy i (run_reserved policy opening js) found
   rw[List.foldl_append] at found'
   obtain rfl:=Option.mem_unique read found'
   rw[←(Db.target?_some found).2]
   exact moved.version changed

def failedMessage:Rendered:=⟨sampleMail,false⟩

theorem rejected_and_sent_are_absorbing_sample :
 ∃t',([Step.reject "t1" 0 .other 0,.correct "t1" 1 none false ⟨sampleMail,true⟩].foldl
  (step samplePolicy) (start sampleOpening)).db.target? "t1"=some t' ∧
   t'.status=.rejected:=by
 have found:([Step.reject "t1" 0 .other 0].foldl (step samplePolicy)
   (start sampleOpening)).db.target? "t1" =
   some {sampleTarget "t1" "alpha" with version:=1,status:=.rejected}:=by
  decide +kernel
 exact (rejected_and_sent_are_absorbing samplePolicy sampleOpening
  [.reject "t1" 0 .other 0,.correct "t1" 1 none false ⟨sampleMail,true⟩]
  ⟨trivial,fun _ _ _ _=>rfl,trivial⟩).1 [.reject "t1" 0 .other 0]
  [.correct "t1" 1 none false ⟨sampleMail,true⟩] "t1" _ (List.prefix_refl _) found (.inl rfl)

theorem correction_revives_rejected : (([Step.reject "t1" 0 .other 0].foldl (step samplePolicy)
   (start sampleOpening)).db.target? "t1").map (·.status)=some .rejected ∧
  (([Step.reject "t1" 0 .other 0,.correct "t1" 1 none false failedMessage].foldl
   (step samplePolicy) (start sampleOpening)).db.target? "t1").map (·.status) =
    some .pendingReview:=by
 decide +kernel

end Kivou.ProspectStatuses
