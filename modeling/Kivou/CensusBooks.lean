import Kivou.CensusSpecs
import Mathlib.Algebra.BigOperators.Ring.Finset

set_option autoImplicit false

/-! What the run has reserved is what its calls reserve, but for the slots that recorded pages gave
back. -/
namespace Kivou.Census
open Tables

section
variable {db:Db}{id:CallId}

lemma call?_reserved {request:Request}{call:Call}(fresh:db.call? call.callId=none) :
 (db.reserved request call).call? id =
  if id=call.callId then some call else db.call? id:=by
 have unknown:∀c∈db.calls,c.callId≠call.callId:=by
  intro c mem same
  have none:=List.find?_eq_none.mp fresh c mem
  exact none (beq_iff_eq.mpr same)
 have same:(db.reserved request call).calls=db.calls++[call]:=by
  unfold Db.reserved
  cases request.partitionId <;> rfl
 unfold Db.call?
 rw[same]
 exact find?_append_fresh unknown id

end

def PlannedPage.key (row:PlannedPage):String × String × ℕ:=(row.planId,row.partitionId,row.page)

lemma PlannedPage.is_eq (planId partitionId:String)(page:ℕ) :
 (fun row:PlannedPage=>row.is planId partitionId page) =
  fun row=>row.key==(planId,partitionId,page):=by
 funext row
 rw[Bool.eq_iff_iff]
 simp[PlannedPage.is,PlannedPage.key,and_assoc]

def Ticked (rows:List PlannedPage)(planId partitionId:String)(page:ℕ):Prop:=
 ∃row,rows.find? (fun r=>r.key==(planId,partitionId,page))=some row ∧ row.status=.completed

def Done (db:Db)(planId partitionId:String)(page:ℕ):Path→Prop
 | .cursor=>∃p,db.partition? partitionId=some p ∧ page<p.cursorPage
 | .sample=>Ticked db.samplePages planId partitionId page
 | .b1=>Ticked db.b1Pages planId partitionId page

structure Later (db db':Db):Prop where
 call:∀id call,db.call? id=some call→∃call',db'.call? id=some call' ∧
  (call.status≠.reserved→call'=call)
 cursor:∀id p,db.partition? id=some p →∃p',db'.partition? id=some p' ∧ p.cursorPage≤p'.cursorPage
 sample:∀planId partitionId page,Ticked db.samplePages planId partitionId page →
  Ticked db'.samplePages planId partitionId page
 b1:∀planId partitionId page,Ticked db.b1Pages planId partitionId page →
  Ticked db'.b1Pages planId partitionId page

lemma Later.refl (db:Db):Later db db where
 call _ call found:=⟨call,found,fun _=>rfl⟩
 cursor _ p found:=⟨p,found,le_rfl⟩
 sample _ _ _:=id
 b1 _ _ _:=id

variable {db:Db}{planId partitionId:String}{page:ℕ}{rows:List PlannedPage}

lemma Later.done {db':Db}(later:Later db db')
 {path:Path}(done:Done db planId partitionId page path) :
 Done db' planId partitionId page path:=by
 cases path with
 | cursor =>
  obtain ⟨p,found,passed⟩:=done
  obtain ⟨p',found',further⟩:=later.cursor partitionId p found
  exact ⟨p',found',passed.trans_le further⟩
 | sample=>exact later.sample _ _ _ done
 | b1=>exact later.b1 _ _ _ done

lemma ticked_append {more:List PlannedPage}
 (ticked:Ticked rows planId partitionId page):Ticked (rows++more) planId partitionId page:=by
 obtain ⟨row,found,completed⟩:=ticked
 exact ⟨row,by rw[List.find?_append,found];rfl,completed⟩

lemma find?_tick (planId partitionId:String)(page:ℕ) (callId:CallId)(key:String × String × ℕ) :
 (tick planId partitionId page callId rows).find? (fun r=>r.key==key) =
  if key=(planId,partitionId,page) then
   (rows.find? fun r=>r.key==(planId,partitionId,page)).map (·.ticked callId)
  else rows.find? fun r=>r.key==key:=by
 have kept:∀row:PlannedPage,(row.ticked callId).key=row.key:=fun _=>rfl
 unfold tick
 rw[PlannedPage.is_eq]
 exact find?_update kept key

lemma ticked_tick {planId' partitionId':String}
 {page':ℕ}(callId:CallId)(ticked:Ticked rows planId partitionId page) :
 Ticked (tick planId' partitionId' page' callId rows) planId partitionId page:=by
 obtain ⟨row,found,completed⟩:=ticked
 unfold Ticked
 rw[find?_tick]
 split
 · rename_i same
   rw[←same,found]
   exact ⟨_,rfl,rfl⟩
 · exact ⟨row,found,completed⟩

lemma ticked_of_tick
 (callId:CallId)(due:(rows.find? (·.is planId partitionId page)).any (·.status==.planned)) :
 Ticked (tick planId partitionId page callId rows) planId partitionId page:=by
 obtain ⟨row,found,-⟩:=(Option.any_eq_true _ _).mp due
 rw[PlannedPage.is_eq] at found
 unfold Ticked
 rw[find?_tick,if_pos rfl,found]
 exact ⟨_,rfl,rfl⟩

lemma ticked_addPages {newPlan:String}
 (pages:List (String × ℕ × Bool))(ticked:Ticked rows planId partitionId page) :
 Ticked (addPages newPlan pages rows) planId partitionId page:=by
 induction pages generalizing rows with
 | nil=>exact ticked
 | cons first rest ih =>
  refine ih ?_
  dsimp only[insertIfAbsent]
  split
  · exact ticked
  · exact ticked_append ticked

lemma partition?_updatePartition {f:Partition→Partition}
 (kept:∀p,(f p).partitionId=p.partitionId)(id:String) :
 (db.updatePartition partitionId f).partition? id =
  if id=partitionId then (db.partition? partitionId).map f else db.partition? id:=
 find?_update kept id

lemma cursor_updatePartition {f:Partition→Partition} (kept:∀p,(f p).partitionId=p.partitionId)
 (further:∀p,db.partition? partitionId=some p→p.cursorPage≤(f p).cursorPage)
 (id:String)(p:Partition)(found:db.partition? id=some p) :
 ∃p',(db.updatePartition partitionId f).partition? id=some p' ∧ p.cursorPage≤p'.cursorPage:=by
 rw[partition?_updatePartition kept]
 split
 · rename_i same
   subst same
   exact ⟨f p,by rw[found];rfl,further p found⟩
 · exact ⟨p,found,le_rfl⟩

structure Balanced (db:Db):Prop where
 callIds:(db.calls.map (·.callId)).Nodup
 partitionIds:(db.partitions.map (·.partitionId)).Nodup
 credits:db.run.creditsReserved=(usage db.calls).credits
 pages:db.run.pagesReserved=(usage db.calls).pages
 enrichments:db.run.enrichmentsReserved=(usage db.calls).enrichments
 candidates:(db.partitions.map (·.uniqueCount)).sum=db.candidates.length
 attempts:∀id call,db.call? id=some call→id.attempt=1 ∨ id.attempt=2 ∧
  ∃first,db.call? ⟨id.kind,id.subject,1⟩=some first ∧ first.status=.rateLimited

lemma usage_append (calls:List Call)(call:Call) : usage (calls++[call])=usage calls +
  ⟨call.reservedCredits,call.candidateSlots,call.callId.kind.pages,call.callId.kind.enrichments⟩:=by
 simp only[usage,List.map_append,List.map_singleton,List.sum_append,List.sum_singleton]
 rfl

lemma usage_update {calls:List Call}{p:Call→Bool}{f:Call→Call}
 (credits:∀c,(f c).reservedCredits=c.reservedCredits)
 (slots:∀c,(f c).candidateSlots=c.candidateSlots)(ids:∀c,(f c).callId=c.callId) :
 usage (update p f calls)=usage calls:=by
 unfold usage
 rw[map_key_update fun c _ _=>credits c,map_key_update fun c _ _=>slots c,
  map_key_update (fun c _ _=>congrArg (fun id=>id.kind.pages) (ids c)),
  map_key_update (fun c _ _=>congrArg (fun id=>id.kind.enrichments) (ids c))]

lemma sum_counted {partitions:List Partition}(unique:(partitions.map (·.partitionId)).Nodup)
 {p:Partition}
 (found:partitions.find? (fun q=>q.partitionId==partitionId)=some p)
 (f:Partition→Partition)(more:ℕ)(grown:(f p).uniqueCount=p.uniqueCount+more) :
 ((update (fun q=>q.partitionId==partitionId) f partitions).map (·.uniqueCount)).sum =
  (partitions.map (·.uniqueCount)).sum+more:=by
 obtain ⟨mem,rfl⟩:=find?_key found
 have moved:=sum_update (f:=f) (fun q=>(q.uniqueCount:ℤ)) unique mem
 rw[grown] at moved
 have cast:∀rows:List Partition,(rows.map fun q=>(q.uniqueCount:ℤ)).sum =
   ((rows.map (·.uniqueCount)).sum:ℕ):=by
  intro rows
  rw[Nat.cast_list_sum,List.map_map]
  rfl
 rw[cast,cast] at moved
 omega

section
variable {db db':Db}{censusId:String}{context:PermitContext}{request:Request}
 {attempt now:ℕ}{call:Call}

lemma Reserves.calls (reserves:Reserves db censusId context request attempt now call db') :
 db'.calls=db.calls++[call]:=by
 rw[reserves.written]
 unfold Db.reserved
 cases request.partitionId <;> rfl

lemma Reserves.run (reserves:Reserves db censusId context request attempt now call db') :
 db'.run=db.run.reserved request:=by
 rw[reserves.written]
 unfold Db.reserved
 cases request.partitionId <;> rfl

lemma Reserves.call? (reserves:Reserves db censusId context request attempt now call db')
 (id:CallId):db'.call? id =
  if id=⟨request.kind,request.subject,attempt⟩ then some call else db.call? id:=by
 have asked:=reserves.asked
 subst asked
 rw[reserves.written]
 exact call?_reserved reserves.fresh

lemma Reserves.partitions (reserves:Reserves db censusId context request attempt now call db') :
 ∃p:Partition→Bool,db'.partitions=update p (·.charged request.credits) db.partitions:=by
 rw[reserves.written]
 unfold Db.reserved
 cases request.partitionId with
 | none=>exact ⟨fun _=>false,by simp[update]⟩
 | some partitionId=>exact ⟨_,rfl⟩

lemma Reserves.others (reserves:Reserves db censusId context request attempt now call db') :
 db'.candidates=db.candidates ∧ db'.samplePages=db.samplePages ∧ db'.b1Pages=db.b1Pages:=by
 rw[reserves.written]
 unfold Db.reserved
 cases request.partitionId <;> exact ⟨rfl,rfl,rfl⟩

lemma Balanced.reserved (balanced:Balanced db)
 (reserves:Reserves db censusId context request attempt now call db')
 (turn:attempt=1 ∨ attempt=2 ∧ ∃first,db.call? ⟨request.kind,request.subject,1⟩ =
  some first ∧ first.status=.rateLimited):Balanced db':=by
 have asked:=reserves.asked
 have used:=usage_append db.calls call
 rw[←reserves.calls] at used
 obtain ⟨p,partitions⟩:=reserves.partitions
 refine ⟨?_,?_,?_,?_,?_,?_,?_⟩
 · rw[reserves.calls]
   refine nodup_append_fresh balanced.callIds fun c mem same=>?_
   have none:=List.find?_eq_none.mp reserves.fresh c mem
   subst asked
   exact none (beq_iff_eq.mpr same)
 · rw[partitions,map_key_update (f:=Partition.charged request.credits) fun _ _ _=>rfl]
   exact balanced.partitionIds
 · rw[used,reserves.run,asked]
   exact congrArg (· + request.credits) balanced.credits
 · rw[used,reserves.run,asked]
   exact congrArg (· + request.kind.pages) balanced.pages
 · rw[used,reserves.run,asked]
   exact congrArg (· + request.kind.enrichments) balanced.enrichments
 · rw[partitions,map_key_update (f:=Partition.charged request.credits) fun _ _ _=>rfl,
    reserves.others.1]
   exact balanced.candidates
 · -- the first attempt is there before the second, and stays rate-limited
   have kept:∀id first,db.call? id=some first→db'.call? id=some first:=by
    intro id first found
    rw[reserves.call?,if_neg,found]
    rintro rfl
    rw[reserves.fresh] at found
    cases found
   intro id c found
   rw[reserves.call?] at found
   split at found
   · rename_i same
     subst same
     refine turn.imp_right fun ⟨second,first,hfirst,limited⟩=>⟨second,first,?_,limited⟩
     exact kept _ first hfirst
   · refine (balanced.attempts id c found).imp_right ?_
     rintro ⟨second,first,hfirst,limited⟩
     exact ⟨second,first,kept _ first hfirst,limited⟩

lemma Reserves.later (reserves:Reserves db censusId context request attempt now call db') :
 Later db db' where
 call id c found:=by
  refine ⟨c,?_,fun _=>rfl⟩
  rw[reserves.call?,if_neg,found]
  rintro rfl
  rw[reserves.fresh] at found
  cases found
 cursor id p found:=by
  rw[reserves.written]
  unfold Db.reserved
  cases request.partitionId with
  | none=>exact ⟨p,found,le_rfl⟩
  | some partitionId =>
   exact cursor_updatePartition (f:=Partition.charged request.credits) (fun _=>rfl)
    (fun _ _=>le_rfl) id p found
 sample _ _ _:=by rw[reserves.others.2.1];exact id
 b1 _ _ _:=by rw[reserves.others.2.2];exact id

end

section
variable {db db':Db}

lemma Call.answered_callId (outcome:Outcome)(call:Call) :
 (call.answered outcome).callId=call.callId:=by
 cases outcome <;> rfl

lemma Call.answered_reservedCredits (outcome:Outcome)(call:Call) :
 (call.answered outcome).reservedCredits=call.reservedCredits:=by
 cases outcome <;> rfl

lemma Call.answered_candidateSlots (outcome:Outcome)(call:Call) :
 (call.answered outcome).candidateSlots=call.candidateSlots:=by
 cases outcome <;> rfl

def Db.settled (db:Db)(callId:CallId)(outcome:Outcome)(status:RunStatus):Db:=
 {db.updateCall callId (·.answered outcome) with run:={db.run with status}}

lemma call?_settled (callId:CallId)(outcome:Outcome)(status:RunStatus)(id:CallId) :
 (db.settled callId outcome status).call? id =
  if id=callId then (db.call? callId).map (·.answered outcome) else db.call? id:=
 find?_update (Call.answered_callId outcome) id

lemma usage_settled (db:Db)(callId:CallId)(outcome:Outcome)(status:RunStatus) :
 usage (db.settled callId outcome status).calls=usage db.calls:=
 usage_update (Call.answered_reservedCredits outcome) (Call.answered_candidateSlots outcome)
  (Call.answered_callId outcome)

lemma later_settled {callId:CallId}{call:Call}(found:db.call? callId=some call)
 (reserved:call.status=.reserved)(outcome:Outcome)(status:RunStatus) :
 Later db (db.settled callId outcome status) where
 call id c hc:=by
  rw[call?_settled]
  split
  · rename_i same
    subst same
    rw[hc]
    rw[found] at hc
    cases hc
    exact ⟨_,rfl,fun settled=>absurd reserved settled⟩
  · exact ⟨c,hc,fun _=>rfl⟩
 cursor _ p hp:=⟨p,hp,le_rfl⟩
 sample _ _ _:=id
 b1 _ _ _:=id

lemma Balanced.settled (balanced:Balanced db){callId:CallId}{call:Call}
 (found:db.call? callId=some call)(reserved:call.status=.reserved)(outcome:Outcome)
 (status:RunStatus):Balanced (db.settled callId outcome status):=by
 have used:=usage_settled db callId outcome status
 have later:=later_settled found reserved outcome status
 refine ⟨?_,balanced.partitionIds,?_,?_,?_,balanced.candidates,?_⟩
 · have kept:(db.settled callId outcome status).calls.map (·.callId)=db.calls.map (·.callId):=
    map_key_update fun c _ _=>Call.answered_callId outcome c
   rw[kept]
   exact balanced.callIds
 · rw[used]
   exact balanced.credits
 · rw[used]
   exact balanced.pages
 · rw[used]
   exact balanced.enrichments
 · intro id c hc
   obtain ⟨before,hbefore⟩:∃before,db.call? id=some before:=by
    rw[call?_settled] at hc
    split at hc
    · rename_i same
      exact ⟨call,same ▸ found⟩
    · exact ⟨c,hc⟩
   refine (balanced.attempts id before hbefore).imp_right ?_
   rintro ⟨second,first,hfirst,limited⟩
   obtain ⟨first',hfirst',same⟩:=later.call _ first hfirst
   have kept:=same (by rw[limited];exact CallStatus.noConfusion)
   exact ⟨second,first',hfirst',by rw[kept,limited]⟩

lemma Balanced.of_calls (balanced:Balanced db)(calls:db'.calls=db.calls)
 (credits:db'.run.creditsReserved=db.run.creditsReserved)
 (pages:db'.run.pagesReserved=db.run.pagesReserved)
 (enrichments:db'.run.enrichmentsReserved=db.run.enrichmentsReserved)
 (ids:(db'.partitions.map (·.partitionId)).Nodup)
 (candidates:(db'.partitions.map (·.uniqueCount)).sum=db'.candidates.length) :
 Balanced db':=by
 have found:∀id,db'.call? id=db.call? id:=fun id=>by rw[Db.call?,calls];rfl
 refine ⟨?_,ids,?_,?_,?_,candidates,?_⟩
 · rw[calls]
   exact balanced.callIds
 · rw[calls,credits]
   exact balanced.credits
 · rw[calls,pages]
   exact balanced.pages
 · rw[calls,enrichments]
   exact balanced.enrichments
 · intro id call
   rw[found,found]
   exact balanced.attempts id call

lemma partitionIds_update {partitions:List Partition}(p:Partition→Bool)
 {f:Partition→Partition}(kept:∀q,(f q).partitionId=q.partitionId)
 (unique:(partitions.map (·.partitionId)).Nodup) :
 ((update p f partitions).map (·.partitionId)).Nodup:=by
 rw[map_key_update fun q _ _=>kept q]
 exact unique

section
variable {r:Recording}{call:Call}{mid:Db}

lemma Records.run (records:Records db r.partitionId r.page call mid) :
 mid.run={ db.run with candidateSlotsReserved:=
   db.run.candidateSlotsReserved-(call.candidateSlots-r.page.seen)}:=by
 obtain ⟨candidates,identities,occurrences,unique,duplicates,length,rfl⟩:=records.written
 rfl

lemma Records.calls (records:Records db r.partitionId r.page call mid):mid.calls=db.calls:=by
 obtain ⟨candidates,identities,occurrences,unique,duplicates,length,rfl⟩:=records.written
 rfl

lemma Balanced.recorded (balanced:Balanced db){p:Partition}
 (found:db.partition? r.partitionId=some p)
 (records:Records db r.partitionId r.page call mid):Balanced mid:=by
 obtain ⟨candidates,identities,occurrences,unique,duplicates,length,rfl⟩:=records.written
 refine balanced.of_calls rfl rfl rfl rfl (partitionIds_update _ (fun _=>rfl)
  balanced.partitionIds) ?_
 have total:=sum_counted balanced.partitionIds found
  (·.counted r.page.seen unique duplicates) unique rfl
 exact total.trans ((congrArg (· + unique) balanced.candidates).trans length.symm)

lemma Records.later (records:Records db r.partitionId r.page call mid):Later db mid:=by
 obtain ⟨candidates,identities,occurrences,unique,duplicates,length,rfl⟩:=records.written
 refine ⟨fun _ c hc=>⟨c,hc,fun _=>rfl⟩,fun id p hp=>?_,fun _ _ _=>id,fun _ _ _=>id⟩
 exact cursor_updatePartition (f:=(·.counted r.page.seen unique duplicates)) (fun _=>rfl)
  (fun _ _=>le_rfl) id p hp

lemma Records.due (records:Records db r.partitionId r.page call mid):r.due mid=r.due db:=by
 obtain ⟨candidates,identities,occurrences,unique,duplicates,length,rfl⟩:=records.written
 unfold Recording.due
 cases r.path with
 | cursor =>
  rw[partition?_updatePartition (f:=(·.counted r.page.seen unique duplicates)) fun _=>rfl,
   if_pos rfl,Option.any_map]
  rfl
 | sample=>rfl
 | b1=>rfl

lemma mark_calls (r:Recording)(mid:Db):(r.mark mid).calls=mid.calls:=by
 unfold Recording.mark
 cases r.path <;> rfl

lemma mark_run (r:Recording)(mid:Db):(r.mark mid).run=mid.run:=by
 unfold Recording.mark
 cases r.path <;> rfl

lemma Balanced.marked (balanced:Balanced mid):Balanced (r.mark mid):=by
 have run:=mark_run r mid
 refine balanced.of_calls (mark_calls r mid) (by rw[run]) (by rw[run]) (by rw[run]) ?_ ?_
 · unfold Recording.mark
   cases r.path with
   | cursor=>exact partitionIds_update _ (fun _=>rfl) balanced.partitionIds
   | sample=>exact balanced.partitionIds
   | b1=>exact balanced.partitionIds
 · unfold Recording.mark
   cases r.path with
   | cursor =>
    have same:(update (fun q=>q.partitionId==r.partitionId) (·.advanced r.page)
      mid.partitions).map (·.uniqueCount)=mid.partitions.map (·.uniqueCount):=
     map_key_update fun _ _ _=>rfl
    exact (congrArg List.sum same).trans balanced.candidates
   | sample=>exact balanced.candidates
   | b1=>exact balanced.candidates

lemma later_marked (due:r.due mid=true):Later mid (r.mark mid) where
 call id c found:=by
  refine ⟨c,?_,fun _=>rfl⟩
  rw[Db.call?,mark_calls]
  exact found
 cursor id p found:=by
  unfold Recording.due at due
  unfold Recording.mark
  cases hpath:r.path with
  | cursor =>
   rw[hpath] at due
   refine cursor_updatePartition (f:=(·.advanced r.page)) (fun _=>rfl) (fun q hq=>?_) id p found
   rw[hq,Option.any_some,beq_iff_eq] at due
   rw[due]
   exact Nat.le_succ _
  | sample=>exact ⟨p,found,le_rfl⟩
  | b1=>exact ⟨p,found,le_rfl⟩
 sample planId partitionId page ticked:=by
  unfold Recording.mark
  cases r.path with
  | cursor=>exact ticked
  | sample=>exact ticked_tick _ ticked
  | b1=>exact ticked
 b1 planId partitionId page ticked:=by
  unfold Recording.mark
  cases r.path with
  | cursor=>exact ticked
  | sample=>exact ticked
  | b1=>exact ticked_tick _ ticked

lemma done_marked (due:r.due mid=true) :
 Done (r.mark mid) r.planId r.partitionId r.page.page r.path:=by
 unfold Recording.due at due
 unfold Recording.mark
 cases hpath:r.path with
 | cursor =>
  rw[hpath] at due
  obtain ⟨p,found,-⟩:=(Option.any_eq_true _ _).mp due
  refine ⟨p.advanced r.page,?_,Nat.lt_succ_self _⟩
  rw[partition?_updatePartition (f:=(·.advanced r.page)) fun _=>rfl,if_pos rfl,found]
  rfl
 | sample =>
  rw[hpath] at due
  exact ticked_of_tick _ due
 | b1 =>
  rw[hpath] at due
  exact ticked_of_tick _ due

end

lemma Later.trans {mid:Db}(first:Later db mid)(second:Later mid db'):Later db db' where
 call id c found:=by
  obtain ⟨c',found',same⟩:=first.call id c found
  obtain ⟨c'',found'',same'⟩:=second.call id c' found'
  refine ⟨c'',found'',fun settled=>?_⟩
  obtain rfl:=same settled
  exact same' settled
 cursor id p found:=by
  obtain ⟨p',found',further⟩:=first.cursor id p found
  obtain ⟨p'',found'',further'⟩:=second.cursor id p' found'
  exact ⟨p'',found'',further.trans further'⟩
 sample planId partitionId page ticked:=
  second.sample planId partitionId page (first.sample planId partitionId page ticked)
 b1 planId partitionId page ticked:=
  second.b1 planId partitionId page (first.b1 planId partitionId page ticked)

lemma change_calls (change:Change):(db.change change).calls=db.calls:=by
 cases change <;> rfl

lemma change_reserved (db:Db)(change:Change) :
 (db.change change).run.creditsReserved=db.run.creditsReserved ∧
  (db.change change).run.pagesReserved=db.run.pagesReserved ∧
  (db.change change).run.enrichmentsReserved=db.run.enrichmentsReserved ∧
  (db.change change).run.candidateSlotsReserved=db.run.candidateSlotsReserved:=by
 cases change <;> exact ⟨rfl,rfl,rfl,rfl⟩

lemma change_partitions (db:Db)(change:Change):(db.change change).partitions=db.partitions ∨
 ∃p:Partition,p.uniqueCount=0 ∧
  (db.change change).partitions=insertIfAbsent (·.partitionId) p db.partitions:=by
 cases change with
 | partition partitionId maxPages perPage=>exact .inr ⟨_,rfl,rfl⟩
 | _=>exact .inl rfl

lemma Balanced.changed (balanced:Balanced db)(change:Change):Balanced (db.change change):=by
 obtain ⟨credits,pages,enrichments,-⟩:=change_reserved db change
 have candidates:(db.change change).candidates=db.candidates:=by cases change <;> rfl
 refine balanced.of_calls (change_calls change) credits pages enrichments ?_ ?_
 · rcases change_partitions db change with same|⟨p,-,new⟩
   · rw[same]
     exact balanced.partitionIds
   · rw[new]
     exact nodup_insertIfAbsent balanced.partitionIds p
 · rw[candidates,←balanced.candidates]
   rcases change_partitions db change with same|⟨p,none,new⟩
   · rw[same]
   · rw[new]
     unfold insertIfAbsent
     split
     · rfl
     · rw[List.map_append,List.sum_append,List.map_singleton,List.sum_singleton,none,add_zero]

lemma later_changed (change:Change):Later db (db.change change) where
 call id c found:=⟨c,by rw[Db.call?,change_calls];exact found,fun _=>rfl⟩
 cursor id p found:=by
  refine ⟨p,?_,le_rfl⟩
  rcases change_partitions db change with same|⟨new,-,same⟩
  · rw[Db.partition?,same]
    exact found
  · rw[Db.partition?,same,find?_insertIfAbsent]
    change (db.partition? id).or _=_
    rw[found]
    rfl
 sample _ _ _ ticked:=by
  cases change with
  | samplePlan plan pages=>exact ticked_addPages _ ticked
  | _=>exact ticked
 b1 _ _ _ ticked:=by
  cases change with
  | b1Plan plan pages candidateIds=>exact ticked_addPages _ ticked
  | _=>exact ticked

end

end Kivou.Census
