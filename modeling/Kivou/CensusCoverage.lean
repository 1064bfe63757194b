import Kivou.CensusRunner
import Kivou.CensusRefunds

set_option autoImplicit false

/-! A partition is covered by its cursor and its status. -/
namespace Kivou.Census
open Tables PythonValues Runs

def Partition.place (p:Partition):PartitionStatus × ℕ:=(p.status,p.cursorPage)

def Db.place? (db:Db)(partitionId:String):Option (PartitionStatus × ℕ):=
 (db.partition? partitionId).map (·.place)

structure SamePlaces (db db':Db):Prop where
 ids:db'.partitions.map (·.partitionId)=db.partitions.map (·.partitionId)
 place:∀id,db'.place? id=db.place? id

section
variable {db mid db':Db}

lemma SamePlaces.refl (db:Db):SamePlaces db db:=⟨rfl,fun _=>rfl⟩

lemma SamePlaces.trans (first:SamePlaces db mid)(second:SamePlaces mid db') :
 SamePlaces db db':=
 ⟨second.ids.trans first.ids,fun id=>(second.place id).trans (first.place id)⟩

lemma samePlaces_of_eq (same:db'.partitions=db.partitions):SamePlaces db db':=by
 refine ⟨congrArg _ same,fun id=>?_⟩
 unfold Db.place? Db.partition?
 rw[same]

lemma samePlaces_update {p:Partition→Bool}{f:Partition→Partition}
 (partitions:db'.partitions=update p f db.partitions)
 (ids:∀q,(f q).partitionId=q.partitionId)(place:∀q,(f q).place=q.place) :
 SamePlaces db db':=by
 refine ⟨by rw[partitions,map_key_update fun q _ _=>ids q],fun id=>?_⟩
 unfold Db.place? Db.partition?
 rw[partitions,find?_update_where ids,Option.map_map]
 congr 1
 funext q
 rw[Function.comp_apply]
 split
 · exact place q
 · rfl

lemma place?_some {id:String}{place:PartitionStatus × ℕ}(h:db.place? id=some place) :
 ∃p,db.partition? id=some p ∧ p.place=place:=Option.map_eq_some_iff.mp h

lemma place?_of_found {id:String}{p:Partition}(found:db.partition? id=some p) :
 db.place? id=some p.place:=congrArg (Option.map _) found

lemma place?_updatePartition {partitionId:String}{f:Partition→Partition}
 (ids:∀q,(f q).partitionId=q.partitionId)(id:String) :
 (db.updatePartition partitionId f).place? id =
  if id=partitionId then (db.partition? partitionId).map fun q=>(f q).place
  else db.place? id:=by
 unfold Db.place?
 rw[partition?_updatePartition ids]
 split
 · rw[Option.map_map]
   rfl
 · rfl

lemma ids_updatePartition {partitionId:String}{f:Partition→Partition}
 (ids:∀q,(f q).partitionId=q.partitionId) :
 (db.updatePartition partitionId f).partitions.map (·.partitionId) =
  db.partitions.map (·.partitionId):=map_key_update fun q _ _=>ids q

end

section
variable {db db':Db}{censusId:String}{context:Option PermitContext}{request:Request}

lemma Reserves.samePlaces {bound:PermitContext}{attempt now:ℕ}{call:Call}
 (reserves:Reserves db censusId bound request attempt now call db'):SamePlaces db db':=by
 obtain ⟨p,partitions⟩:=reserves.partitions
 exact samePlaces_update partitions (fun _=>rfl) fun _=>rfl

lemma pass_samePlaces {attempt start now:ℕ}{reached:Pass}
 (h:pass db censusId context request attempt start now=.ok (db',reached)) :
 SamePlaces db db':=by
 rcases pass_ok h with ⟨_,_,_,_,_,rfl,_⟩|⟨_,_,_,rfl,_⟩|⟨_,_,_,reserves,_⟩
 · exact .refl _
 · exact .refl _
 · exact reserves.samePlaces

lemma Records.samePlaces {partitionId:String}{shown:Page}{call:Call}
 (records:Records db partitionId shown call db'):SamePlaces db db':=by
 obtain ⟨candidates,identities,occurrences,unique,duplicates,-,rfl⟩:=records.written
 exact samePlaces_update (p:=(·.partitionId==partitionId))
  (f:=(·.counted shown.seen unique duplicates)) rfl (fun _=>rfl) fun _=>rfl

lemma settle_samePlaces {callId:CallId}{outcome:Outcome}
 (h:settle db callId outcome=.ok db'):SamePlaces db db':=by
 obtain ⟨call,-,⟨-,rfl⟩|⟨-,status,rfl⟩⟩:=settle_ok h
 · exact .refl _
 · exact samePlaces_of_eq rfl

lemma passWith_samePlaces (db:Db)(censusId:String)(context:Option PermitContext)
 (request:Request)(attempt start:ℕ)(meeting:Meeting) :
 SamePlaces db (passWith db censusId context request attempt start meeting).1:=by
 unfold passWith
 split
 · exact .refl _
 · exact pass_samePlaces ‹_›
 · exact pass_samePlaces ‹_›
 · rename_i reserved callId passed
   have reserves:=pass_samePlaces passed
   split
   · exact reserves
   · split
     · exact reserves
     · rename_i settled
       have settles:=reserves.trans (settle_samePlaces settled)
       split
       · exact settles
       · split <;> exact settles

lemma executeCall_samePlaces (db:Db)(censusId:String)(context:Option PermitContext)
 (request:Request)(start:ℕ)(first second:Meeting) :
 SamePlaces db (executeCall db censusId context request start first second).1:=by
 have once:=passWith_samePlaces db censusId context request 1 start first
 unfold executeCall
 split
 · rename_i h
   rw[h] at once
   exact once
 · rename_i mid h
   rw[h] at once
   have again:=passWith_samePlaces mid censusId context request 2 start second
   split
   · rename_i h'
     rw[h'] at again
     exact once.trans again
   · rename_i h'
     rw[h'] at again
     exact once.trans again

end

structure Turn.Keeps (db:Db)(turn:Turn):Prop where
 ids:turn.db.partitions.map (·.partitionId)=db.partitions.map (·.partitionId)
 place:∀id,turn.paused≠some id→turn.db.place? id=db.place? id
 paused:∀id,turn.paused=some id→turn.point=none ∧ ∀place,db.place? id=some place →
  ∃status,status≠.complete ∧ turn.db.place? id=some (status,place.2)
 recorded:turn.recorded=none

section
variable {db mid:Db}

lemma to_keeps (same:SamePlaces db mid)(point:Point):(Turn.to mid point).Keeps db where
 ids:=same.ids
 place id _:=same.place id
 paused:=by rintro id ⟨⟩
 recorded:=rfl

lemma ended_keeps (same:SamePlaces db mid):(Turn.ended mid).Keeps db where
 ids:=same.ids
 place id _:=same.place id
 paused:=by rintro id ⟨⟩
 recorded:=rfl

lemma stopped_keeps (same:SamePlaces db mid)(partitionId reason:String)(review:Bool) :
 (Turn.stopped mid partitionId reason review).Keeps db:=by
 have halted:SamePlaces db (mid.withStatus (if review then .reviewRequired else .paused)):=
  same.trans (samePlaces_of_eq rfl)
 unfold Turn.stopped pause
 by_cases unnamed:partitionId=""
 · rw[if_pos unnamed,if_pos unnamed]
   exact ended_keeps halted
 · rw[if_neg unnamed,if_neg unnamed]
   have moved:=fun id=>@place?_updatePartition
    (mid.withStatus (if review then .reviewRequired else .paused)) partitionId
    (·.paused reason review) (fun _=>rfl) id
   have ids:=@ids_updatePartition (mid.withStatus (if review then .reviewRequired else .paused))
    partitionId (·.paused reason review) fun _=>rfl
   refine ⟨ids.trans same.ids,?_,?_,rfl⟩
   · intro id other
     have apart:id≠partitionId:=fun h=>other (congrArg some h.symm)
     exact (moved id).trans (by rw[if_neg apart,halted.place])
   · rintro id ⟨⟩
     refine ⟨rfl,fun place h=>?_⟩
     rw[←halted.place] at h
     obtain ⟨p,found,rfl⟩:=place?_some h
     refine ⟨if review then .reviewRequired else .incomplete,by cases review <;> decide,?_⟩
     refine (moved _).trans ?_
     rw[if_pos rfl,found]
     rfl

lemma failed_keeps (same:SamePlaces db mid)(partitionId:String)(error:Error) :
 (Turn.failed mid partitionId error).Keeps db:=by
 unfold Turn.failed
 split
 · exact stopped_keeps same _ _ _
 · exact ended_keeps same

lemma after_keeps {partitionId:String}{onward:Db→Snapshot→CallId→Turn}{called:Db × Ending}
 (same:SamePlaces db called.1)
 (keeps:∀mid,SamePlaces db mid→∀result callId,(onward mid result callId).Keeps db) :
 (Turn.after partitionId onward called).Keeps db:=by
 unfold Turn.after
 split
 · exact keeps _ same _ _
 · exact failed_keeps same _ _
 · exact ended_keeps same

end

section
variable {normalizeDomain:String→Option String}{rank:String→ℕ}
 {peopleSubject:Organization→String}{censusId:String}{db:Db}{runner:Runner}
 {script:Script}

lemma call_samePlaces (request:Request) : SamePlaces db (runner.call censusId db script request).1:=
 executeCall_samePlaces _ _ _ _ _ _ _

lemma contact_keeps (candidate:Candidate)(queue:List Candidate)(after:After) :
 (runner.contact peopleSubject censusId db script candidate queue after).Keeps db:=by
 unfold Runner.contact
 split
 · exact ended_keeps (.refl _)
 · split
   · exact to_keeps (.refl _) _
   · split
     · exact to_keeps (.refl _) _
     · split
       · exact to_keeps (.refl _) _
       · exact after_keeps (call_samePlaces _) fun mid same _ _=>to_keeps same _

lemma Turn.Keeps.withSearched {turn:Turn}(kept:turn.Keeps db)
 (searched:Option (String × ℕ)):Turn.Keeps db {turn with searched:=searched}:=
 ⟨kept.ids,kept.place,kept.paused,kept.recorded⟩

lemma search_keeps (part:Partition)(number:ℕ)(rest:List Partition) :
 (runner.search censusId db script part number rest).Keeps db:=by
 unfold Runner.search
 split
 · refine (after_keeps (call_samePlaces _) fun mid same result callId=>?_).withSearched _
   cases result with
   | page shown=>exact to_keeps same _
   | other text=>exact ended_keeps same
 · exact to_keeps (.refl _) _

lemma assess_keeps (candidate:Candidate)(partitionId:String)(queue:List Candidate) :
 (runner.assess censusId db script candidate partitionId queue).Keeps db:=by
 unfold Runner.assess
 split
 · exact after_keeps (call_samePlaces _) fun mid same _ _=>to_keeps same _
 · have same:SamePlaces db (recordDecision db candidate.candidateId):=samePlaces_of_eq rfl
   exact to_keeps same _
 · exact stopped_keeps (.refl _) _ _ _

lemma purge_samePlaces:SamePlaces db (purge db):=by
 unfold purge
 split
 · exact .refl _
 · exact samePlaces_of_eq rfl

structure Turn.Records (db:Db)(part:Partition)(shown:Page)(turn:Turn):Prop where
 ids:turn.db.partitions.map (·.partitionId)=db.partitions.map (·.partitionId)
 other:∀id,id≠part.partitionId→turn.db.place? id=db.place? id
 moved:turn.db.place? part.partitionId=some (shown.status,shown.page+1)
 quiet:turn.paused=none ∧ turn.searched=none
 recorded:turn.recorded=some (part.partitionId,shown)

lemma recordFound_turn (part:Partition)(shown:Page)(callId:CallId)(rest:List Partition) :
 (Runner.recordFound normalizeDomain rank db part shown callId rest).Keeps db ∨
  (Runner.recordFound normalizeDomain rank db part shown callId rest).Records db part shown:=by
 unfold Runner.recordFound
 split
 · exact .inl (failed_keeps (.refl _) _ _)
 · rename_i written h
   have accepted:(⟨.cursor,"",part.partitionId,shown,callId,[]⟩:Recording).record
     normalizeDomain db=.ok written:=h
   obtain ⟨call,-,⟨passed,rfl⟩|⟨due,⟨p,hp⟩,mid,records,rfl⟩⟩:=record_ok accepted
   · have unrecorded:(written.partition? part.partitionId).any (·.cursorPage==shown.page) =
       false:=passed
     rw[if_neg (by rw[unrecorded];exact Bool.false_ne_true)]
     have kept:=@to_keeps written written (.refl _)
      (.contacts (pendingCandidates rank written) (.page part rest))
     exact .inl ⟨kept.ids,kept.place,kept.paused,kept.recorded⟩
   · have here:(db.partition? part.partitionId).any (·.cursorPage==shown.page)=true:=due
     rw[if_pos here]
     right
     have same:=records.samePlaces
     have ids:=@ids_updatePartition mid part.partitionId (·.advanced shown) fun _=>rfl
     have places:=fun id=>@place?_updatePartition mid part.partitionId (·.advanced shown)
      (fun _=>rfl) id
     refine ⟨ids.trans same.ids,fun id apart=>?_,?_,⟨rfl,rfl⟩,rfl⟩
     · exact (places id).trans (by rw[if_neg apart,same.place])
     · have before:=same.place part.partitionId
       rw[place?_of_found hp] at before
       obtain ⟨q,found,-⟩:=place?_some before
       exact (places part.partitionId).trans (by rw[if_pos rfl,found];rfl)

lemma turn_keeps (normalizeDomain:String→Option String)(rank:String→ℕ)
 (peopleSubject:Organization→String)(censusId:String)(runner:Runner)(db:Db)
 (script:Script) :
 (runner.turn normalizeDomain rank peopleSubject censusId db script).Keeps db ∨
  ∃part shown callId rest,runner.point=.found part shown callId rest ∧
   (runner.turn normalizeDomain rank peopleSubject censusId db script).Records db part shown:=by
 unfold Runner.turn
 split
 · exact .inl (to_keeps (.refl _) _)
 · split
   · exact .inl (ended_keeps (.refl _))
   · split <;> exact .inl (to_keeps (.refl _) _)
 · exact .inl (contact_keeps _ _ _)
 · exact .inl (ended_keeps (.refl _))
 · split <;> exact .inl (to_keeps (.refl _) _)
 · exact .inl (search_keeps _ _ _)
 · rename_i part shown callId rest here
   exact (recordFound_turn part shown callId rest).imp_right fun records=>
    ⟨part,shown,callId,rest,here,records⟩
 · exact .inl (to_keeps (.refl _) _)
 · split
   · exact .inl (ended_keeps (.refl _))
   · split <;> exact .inl (to_keeps (.refl _) _)
 · exact .inl (assess_keeps _ _ _)
 · have same:SamePlaces db (Census.finish db):=samePlaces_of_eq rfl
   exact .inl (to_keeps same _)
 · split
   · exact .inl (ended_keeps purge_samePlaces)
   · exact .inl (ended_keeps (.refl _))

end

def Rows (db:Db)(rest:List Partition):Prop:=
 (rest.map (·.partitionId)).Nodup ∧ ∀row∈rest,db.place? row.partitionId=some row.place

def Rest (db:Db)(part:Partition)(rest:List Partition):Prop:=
 part.partitionId∉rest.map (·.partitionId) ∧ Rows db rest

def Open (db:Db)(part:Partition)(number:ℕ):Prop:=
 ∃status,status≠.complete ∧ db.place? part.partitionId=some (status,number)

def Point.Coherent (db:Db):Point→Prop
 | .contacts _ (.page part rest)=>Rest db part rest
 | .rows rest=>Rows db rest
 | .page part number rest=>Open db part number ∧ Rest db part rest
 | .found part _ _ rest=>(∃number,Open db part number) ∧ Rest db part rest
 | _=>True

section
variable {db db':Db}

lemma Rows.mono {rest:List Partition}(rows:Rows db rest)
 (same:∀row∈rest,∀place,db.place? row.partitionId=some place →
  db'.place? row.partitionId=some place):Rows db' rest:=
 ⟨rows.1,fun row mem=>same row mem _ (rows.2 row mem)⟩

lemma Rest.mono {part:Partition}{rest:List Partition}(h:Rest db part rest)
 (same:∀id,id≠part.partitionId→∀place,db.place? id=some place →
  db'.place? id=some place):Rest db' part rest:=by
 refine ⟨h.1,h.2.mono fun row mem=>same _ ?_⟩
 intro is
 exact h.1 (is ▸ List.mem_map_of_mem mem)

lemma Point.Coherent.mono {point:Point}(coherent:point.Coherent db)
 (same:∀id place,db.place? id=some place→db'.place? id=some place) :
 point.Coherent db':=by
 cases point with
 | contacts queue after =>
  cases after with
  | begin=>trivial
  | page part rest=>exact Rest.mono coherent fun id _=>same id
 | rows rest=>exact Rows.mono coherent fun row _=>same _
 | page part number rest =>
  obtain ⟨⟨status,incomplete,place⟩,rest⟩:=coherent
  exact ⟨⟨status,incomplete,same _ _ place⟩,rest.mono fun id _=>same id⟩
 | found part shown callId rest =>
  obtain ⟨⟨number,status,incomplete,place⟩,rest⟩:=coherent
  exact ⟨⟨number,status,incomplete,same _ _ place⟩,rest.mono fun id _=>same id⟩
 | _=>trivial

lemma rows_sorted (unique:(db.partitions.map (·.partitionId)).Nodup) :
 Rows db (sortedPartitions db):=by
 have perm:=List.perm_insertionSort (fun a b:Partition=>a.partitionId≤b.partitionId) db.partitions
 refine ⟨(perm.map _).nodup_iff.mpr unique,fun row mem=>?_⟩
 exact place?_of_found (find?_of_mem unique (perm.mem_iff.mp mem))

lemma after_point {partitionId:String}{onward:Db→Snapshot→CallId→Turn}
 {called:Db × Ending}{point:Point}
 (h:(Turn.after partitionId onward called).point=some point) :
 ∃mid result callId,called.1=mid ∧ (onward mid result callId).point=some point:=by
 unfold Turn.after at h
 split at h
 · exact ⟨_,_,_,rfl,h⟩
 · unfold Turn.failed at h
   split at h
   · cases h
   · cases h
 · cases h

end

section
variable {normalizeDomain:String→Option String}{rank:String→ℕ}
 {peopleSubject:Organization→String}{censusId:String}{db:Db}{runner:Runner}
 {script:Script}{point:Point}

lemma contact_point {candidate:Candidate}{queue:List Candidate}{after:After}
 (h:(runner.contact peopleSubject censusId db script candidate queue after).point=some point) :
 point=.contacts queue after:=by
 unfold Runner.contact at h
 split at h
 · cases h
 · split at h
   · cases h
     rfl
   · split at h
     · cases h
       rfl
     · split at h
       · cases h
         rfl
       · obtain ⟨mid,result,callId,-,onward⟩:=after_point h
         cases onward
         rfl

lemma search_point {part:Partition}{number:ℕ}{rest:List Partition}
 (h:(runner.search censusId db script part number rest).point=some point) :
 point=.rows rest ∨ ∃shown callId,point=.found part shown callId rest:=by
 unfold Runner.search at h
 split at h
 · obtain ⟨mid,result,callId,-,onward⟩:=after_point h
   cases result with
   | page shown =>
    cases onward
    exact .inr ⟨shown,callId,rfl⟩
   | other text=>cases onward
 · cases h
   exact .inl rfl

lemma recordFound_point {part:Partition}{shown:Page}{callId:CallId}{rest:List Partition}
 (h:(Runner.recordFound normalizeDomain rank db part shown callId rest).point=some point) :
 ∃queue,point=.contacts queue (.page part rest):=by
 unfold Runner.recordFound at h
 split at h
 · unfold Turn.failed at h
   split at h <;> cases h
 · cases h
   exact ⟨_,rfl⟩

lemma assess_point {candidate:Candidate}{partitionId:String}{queue:List Candidate}
 (h:(runner.assess censusId db script candidate partitionId queue).point=some point) :
 point.Coherent db:=by
 unfold Runner.assess at h
 split at h
 · obtain ⟨mid,result,callId,-,onward⟩:=after_point h
   cases onward
   trivial
 · cases h
   trivial
 · cases h

lemma turn_point (unique:(db.partitions.map (·.partitionId)).Nodup)
 (coherent:runner.point.Coherent db)
 (h:(runner.turn normalizeDomain rank peopleSubject censusId db script).point=some point) :
 point.Coherent db:=by
 unfold Runner.turn at h
 split at h
 · cases h
   exact rows_sorted unique
 · rename_i part rest here
   rw[here] at coherent
   split at h
   · cases h
   · rename_i latest found
     have place:=place?_of_found found
     split at h
     · cases h
       exact coherent.2
     · cases h
       exact coherent.2
     · cases h
       exact coherent.2
     · rename_i status
       cases h
       exact ⟨⟨latest.status,by rw[status];decide,place⟩,coherent⟩
     · rename_i status
       cases h
       exact ⟨⟨latest.status,by rw[status];decide,place⟩,coherent⟩
 · rename_i candidate queue after here
   rw[here] at coherent
   obtain rfl:=contact_point h
   cases after with
   | begin=>trivial
   | page part rest=>exact coherent
 · cases h
 · rename_i row rest here
   rw[here] at coherent
   have tail:Rows db rest:=
    ⟨(List.nodup_cons.mp coherent.1).2,fun r mem=>coherent.2 r (List.mem_cons_of_mem _ mem)⟩
   split at h
   · cases h
     exact tail
   · rename_i taken
     cases h
     have place:=coherent.2 row List.mem_cons_self
     exact ⟨⟨row.status,(not_or.mp taken).1,place⟩,(List.nodup_cons.mp coherent.1).1,tail⟩
 · rename_i part number rest here
   rw[here] at coherent
   rcases search_point h with rfl|⟨shown,callId,rfl⟩
   · exact coherent.2.2
   · exact ⟨⟨number,coherent.1⟩,coherent.2⟩
 · rename_i part shown callId rest here
   rw[here] at coherent
   obtain ⟨queue,rfl⟩:=recordFound_point h
   exact coherent.2
 · cases h
   trivial
 · split at h
   · cases h
   · split at h <;> (cases h;trivial)
 · exact assess_point h
 · cases h
   trivial
 · cases h

lemma turn_stands (unique:(db.partitions.map (·.partitionId)).Nodup)
 (coherent:runner.point.Coherent db)
 (h:(runner.turn normalizeDomain rank peopleSubject censusId db script).point=some point) :
 point.Coherent (runner.turn normalizeDomain rank peopleSubject censusId db script).db:=by
 have before:=turn_point unique coherent h
 rcases turn_keeps normalizeDomain rank peopleSubject censusId runner db script with
  keeps | ⟨part,shown,callId,rest,here,records⟩
 · refine before.mono fun id place there=>(keeps.place id fun paused=>?_).trans there
   rw[(keeps.paused id paused).1] at h
   cases h
 · have turned:runner.turn normalizeDomain rank peopleSubject censusId db script =
     Runner.recordFound normalizeDomain rank db part shown callId rest:=by
    unfold Runner.turn
    rw[here]
   rw[turned] at h
   obtain ⟨queue,rfl⟩:=recordFound_point h
   exact Rest.mono before fun id apart _ there=>(records.other id apart).trans there

end

/-- `execute_call` gives up in a way that `run` notes as a pause. -/
def Ending.pauses:Ending→Bool
 | .raised error=>(pauseFor error).isSome
 | _=>false

/-- The call of a contact search or of an assessment that the runner makes next. -/
def Runner.due (peopleSubject:Organization→String)(runner:Runner)(db:Db)(script:Script) :
 Option (String × Request):=
 match runner.point with
 | .contacts (candidate::_) _ =>
  candidate.snapshot.bind fun organization=>
   if organization.skipped (!runner.smoke)||runner.smoke then none
   else
    (permittedPartition db runner.allowed candidate.candidateId script.occurrence).map
     fun partitionId=>(partitionId,⟨.peopleSearch,peopleSubject organization,some partitionId,
      runner.limits.credits .peopleSearch,0⟩)
 | .assessing _ partitionId _ =>
  match script.work with
  | .call kind subject =>
   some (partitionId,⟨kind,subject,some partitionId,runner.limits.credits kind,0⟩)
  | _=>none
 | _=>none

/-- The work on contacts is refused on a partition: by the permit, the caps or Apollo, or by an
official source that asks to come back later. -/
inductive Disturbs (peopleSubject:Organization→String)(censusId:String)(runner:Runner)(db:Db)
  (script:Script):String→Prop where
 | call (partitionId:String)(request:Request)
   (due:runner.due peopleSubject db script=some (partitionId,request))
   (refused:(runner.call censusId db script request).2.pauses=true) :
   Disturbs peopleSubject censusId runner db script partitionId
 | source (candidate:Candidate)(partitionId:String)(queue:List Candidate)
   (stands:runner.point=.assessing candidate partitionId queue)
   (later:script.work=.retryLater) :
   Disturbs peopleSubject censusId runner db script partitionId

/-- The permit and the caps let a new call be reserved. -/
def Grants (db:Db)(censusId:String)(context:Option PermitContext)(request:Request)
 (attempt now:ℕ):Prop:=
 ∃db' call,reserveCall db censusId context request attempt now=.ok (db',call,true)

def Runner.pageRequest (runner:Runner)(part:Partition)(number:ℕ):Request:=
 ⟨.orgSearch,s!"{part.partitionId}:{number}",some part.partitionId,
  runner.limits.credits .orgSearch,part.perPage⟩

/-- The runner asks for the page before which it stands, as a new call: its first attempt, or a
second one where the first was rate limited before. -/
def Runner.Asks (runner:Runner)(censusId:String)(db:Db)(script:Script)(part:Partition)
 (number:ℕ):Prop:=
 number≤part.maxPages ∧ (runner.smoke=true→number=1) ∧
  (Grants db censusId (some runner.context) (runner.pageRequest part number) 1 script.first.now ∨
   pass db censusId (some runner.context) (runner.pageRequest part number) 1 runner.observedAt
    script.first.now=.ok (db,.again) ∧
    Grants db censusId (some runner.context) (runner.pageRequest part number) 2 script.second.now)

section
variable {db:Db}{censusId:String}{context:Option PermitContext}{request:Request}
 {attempt start:ℕ}{meeting:Meeting}

lemma settle_calls {db db':Db}{callId:CallId}{outcome:Outcome}
 (h:settle db callId outcome=.ok db'):db'.calls.length=db.calls.length:=by
 obtain ⟨call,-,⟨-,rfl⟩|⟨-,status,rfl⟩⟩:=settle_ok h
 · rfl
 · exact List.length_map ..

lemma reserved_calls (db:Db)(request:Request)(call:Call) :
 (db.reserved request call).calls=db.calls++[call]:=by
 unfold Db.reserved
 dsimp only
 split <;> rfl

variable (start) in
lemma passWith_granted (granted:Grants db censusId context request attempt meeting.now) :
 db.calls.length<(passWith db censusId context request attempt start meeting).1.calls.length:=by
 obtain ⟨written,call,reserved⟩:=granted
 obtain ⟨⟨⟩,-⟩|⟨-,bound,rfl,reserves⟩:=reserveCall_ok reserved
 have asked:=reserves.asked
 subst asked
 have more:db.calls.length<written.calls.length:=by
  rw[reserves.written,reserved_calls,List.length_append]
  exact Nat.lt_succ_self _
 have passed:pass db censusId (some bound) request attempt start meeting.now =
   .ok (written,.invoke ⟨request.kind,request.subject,attempt⟩):=by
  unfold pass
  rw[reserved]
  rfl
 unfold passWith
 rw[passed]
 dsimp only
 split
 · exact more
 · split
   · exact more
   · rename_i settled
     rw[←settle_calls settled] at more
     split
     · exact more
     · split <;> exact more

variable (start) in
lemma passWith_ungranted (refused:¬Grants db censusId context request attempt meeting.now) :
 (passWith db censusId context request attempt start meeting).1=db ∧
  ((passWith db censusId context request attempt start meeting).2=none ↔
   pass db censusId context request attempt start meeting.now=.ok (db,.again)):=by
 unfold passWith
 split
 · rename_i passed
   exact ⟨rfl,iff_of_false nofun (by rw[passed];nofun)⟩
 · rename_i result callId passed
   rcases pass_ok passed with ⟨_,_,_,_,_,rfl,_⟩|⟨_,_,_,_,⟨⟩⟩|⟨_,_,_,_,⟨⟩⟩
   exact ⟨rfl,iff_of_false nofun (by rw[passed];nofun)⟩
 · rename_i passed
   rcases pass_ok passed with ⟨_,_,_,_,_,_,⟨⟩⟩|⟨_,_,_,rfl,_⟩|⟨_,_,_,_,⟨⟩⟩
   exact ⟨rfl,iff_of_true rfl passed⟩
 · rename_i written callId passed
   obtain ⟨⟨mid,call,claimed⟩,reserved,-⟩:=bind_ok.mp passed
   rcases reserveCall_ok reserved with ⟨rfl,rfl,found,-⟩|⟨rfl,-⟩
   · rcases pass_ok passed with ⟨_,_,_,_,_,_,⟨⟩⟩|⟨_,_,_,_,⟨⟩⟩|⟨_,_,_,reserves,_⟩
     rw[reserves.fresh] at found
     cases found
   · exact absurd ⟨_,_,reserved⟩ refused

lemma passWith_mono (db:Db)(censusId:String)(context:Option PermitContext)(request:Request)
 (attempt start:ℕ)(meeting:Meeting) :
 db.calls.length≤(passWith db censusId context request attempt start meeting).1.calls.length:=by
 by_cases granted:Grants db censusId context request attempt meeting.now
 · exact (passWith_granted _ granted).le
 · rw[(passWith_ungranted _ granted).1]

/-- `execute_call` reserves a new call exactly where a pass of it is granted one. -/
lemma executeCall_reserves (db:Db)(censusId:String)(context:Option PermitContext)
 (request:Request)(start:ℕ)(first second:Meeting) :
 db.calls.length<(executeCall db censusId context request start first second).1.calls.length ↔
  Grants db censusId context request 1 first.now ∨
   pass db censusId context request 1 start first.now=.ok (db,.again) ∧
   Grants db censusId context request 2 second.now:=by
 unfold executeCall
 by_cases granted:Grants db censusId context request 1 first.now
 · refine iff_of_true ?_ (.inl granted)
   have more:=passWith_granted start granted
   split
   · rename_i once
     rwa[once] at more
   · rename_i mid once
     rw[once] at more
     have again:=passWith_mono mid censusId context request 2 start second
     split
     · rename_i twice
       rw[twice] at again
       exact more.trans_le again
     · rename_i twice
       rw[twice] at again
       exact more.trans_le again
 · obtain ⟨same,retried⟩:=passWith_ungranted start granted
   rw[or_iff_right granted,←retried]
   split
   · rename_i once
     rw[once] at same ⊢
     rw[show _=db from same]
     exact iff_of_false (lt_irrefl _) fun is=>by cases is.1
   · rename_i mid once
     rw[once] at same ⊢
     obtain rfl:mid=db:=same
     rw[and_iff_right rfl]
     by_cases second':Grants mid censusId context request 2 second.now
     · refine iff_of_true ?_ second'
       have more:=passWith_granted start second'
       split
       · rename_i twice
         rwa[twice] at more
       · rename_i twice
         rwa[twice] at more
     · refine iff_of_false ?_ second'
       obtain ⟨same',-⟩:=passWith_ungranted start second'
       split
       · rename_i twice
         rw[twice] at same'
         rw[show _=mid from same']
         exact lt_irrefl _
       · rename_i twice
         rw[twice] at same'
         rw[show _=mid from same']
         exact lt_irrefl _

end

section
variable {partitionId:String}{onward:Db→Snapshot→CallId→Turn}{called:Db × Ending}

lemma failed_paused (mid:Db)(partitionId:String)(error:Error) :
 (Turn.failed mid partitionId error).paused =
  if partitionId≠"" ∧ (pauseFor error).isSome=true then some partitionId else none:=by
 unfold Turn.failed
 split
 · rename_i reason review known
   by_cases unnamed:partitionId=""
   · simp[Turn.stopped,unnamed]
   · simp[Turn.stopped,unnamed,known]
 · rename_i known
   simp[Turn.ended,known]

lemma after_paused (quiet:∀mid result callId,(onward mid result callId).paused=none) :
 (Turn.after partitionId onward called).paused =
  if partitionId≠"" ∧ called.2.pauses=true then some partitionId else none:=by
 unfold Turn.after
 split
 · rw[quiet]
   simp[Ending.pauses]
 · exact failed_paused _ _ _
 · simp[Turn.ended,Ending.pauses]

lemma failed_searched (mid:Db)(partitionId:String)(error:Error) :
 (Turn.failed mid partitionId error).searched=none:=by
 unfold Turn.failed
 split <;> rfl

lemma after_searched (quiet:∀mid result callId,(onward mid result callId).searched=none) :
 (Turn.after partitionId onward called).searched=none:=by
 unfold Turn.after
 split
 · exact quiet _ _ _
 · exact failed_searched _ _ _
 · rfl

end

section
variable {normalizeDomain:String→Option String}{rank:String→ℕ}
 {peopleSubject:Organization→String}{censusId:String}{db:Db}{runner:Runner}
 {script:Script}{id:String}

lemma call_paused {partitionId:String}{onward:Db→Snapshot→CallId→Turn}{request:Request}
 (quiet:∀mid result callId,(onward mid result callId).paused=none) :
 (Turn.after partitionId onward (runner.call censusId db script request)).paused=some id ↔
  id≠"" ∧ ∃request',some (partitionId,request)=some (id,request') ∧
   (runner.call censusId db script request').2.pauses=true:=by
 rw[after_paused quiet]
 constructor
 · intro h
   split at h
   · rename_i refused
     cases h
     exact ⟨refused.1,request,rfl,refused.2⟩
   · cases h
 · rintro ⟨named,request',⟨⟩,refused⟩
   rw[if_pos ⟨named,refused⟩]

lemma contact_paused {candidate:Candidate}{queue:List Candidate}{after:After}
 (stands:runner.point=.contacts (candidate::queue) after) :
 (runner.contact peopleSubject censusId db script candidate queue after).paused=some id ↔
  id≠"" ∧ ∃request,runner.due peopleSubject db script=some (id,request) ∧
   (runner.call censusId db script request).2.pauses=true:=by
 have idle:∀point,(Turn.to db point).paused=some id ↔ id≠"" ∧ ∃request,
   (none:Option (String × Request))=some (id,request) ∧
    (runner.call censusId db script request).2.pauses=true:=by
  simp[Turn.to]
 unfold Runner.contact Runner.due
 rw[stands]
 dsimp only
 cases candidate.snapshot with
 | none=>simp[Turn.ended]
 | some organization =>
  rw[Option.bind_some]
  dsimp only
  split
  · rename_i skipped
    rw[if_pos (by rw[skipped];rfl)]
    exact idle _
  · rename_i taken
    cases permittedPartition db runner.allowed candidate.candidateId script.occurrence with
    | none =>
     rw[Option.map_none,ite_self]
     exact idle _
    | some partitionId =>
     dsimp only
     split
     · rename_i smoke
       rw[if_pos (by rw[smoke,Bool.or_true])]
       exact idle _
     · rename_i whole
       rw[if_neg (by simpa using ⟨Bool.eq_false_iff.mpr taken,Bool.eq_false_iff.mpr whole⟩)]
       exact call_paused fun _ _ _=>rfl

variable (peopleSubject) in
lemma assess_paused {candidate:Candidate}{partitionId:String}{queue:List Candidate}
 (stands:runner.point=.assessing candidate partitionId queue) :
 (runner.assess censusId db script candidate partitionId queue).paused=some id ↔
  id≠"" ∧ ((∃request,runner.due peopleSubject db script=some (id,request) ∧
   (runner.call censusId db script request).2.pauses=true) ∨
   partitionId=id ∧ script.work=.retryLater):=by
 unfold Runner.assess Runner.due
 rw[stands]
 dsimp only
 cases script.work with
 | call kind subject =>
  dsimp only
  rw[call_paused fun _ _ _=>rfl]
  simp
 | decide=>simp[Turn.to]
 | retryLater =>
  change (if partitionId="" then none else some partitionId)=some id ↔ _
  constructor
  · intro h
    split at h
    · cases h
    · rename_i named
      cases h
      exact ⟨named,.inr ⟨rfl,rfl⟩⟩
  · rintro ⟨named,⟨_,⟨⟩,_⟩|⟨rfl,-⟩⟩
    exact if_neg named

/-- A step pauses a partition for the work on contacts, or the one whose page it asks for or records. -/
lemma turn_paused
 (h:(runner.turn normalizeDomain rank peopleSubject censusId db script).paused=some id) :
 id≠"" ∧ Disturbs peopleSubject censusId runner db script id ∨
  (∃part number rest,runner.point=.page part number rest ∧ part.partitionId=id) ∨
  ∃part shown callId rest,runner.point=.found part shown callId rest ∧ part.partitionId=id:=by
 unfold Runner.turn at h
 split at h
 · cases h
 · split at h
   · cases h
   · split at h <;> cases h
 · rename_i stands
   obtain ⟨named,request,due,refused⟩:=(contact_paused stands).mp h
   exact .inl ⟨named,.call id request due refused⟩
 · cases h
 · split at h <;> cases h
 · rename_i part number rest stands
   refine .inr (.inl ⟨part,number,rest,stands,?_⟩)
   unfold Runner.search at h
   split at h
   · dsimp only at h
     rw[after_paused fun _ result _=>by cases result <;> rfl] at h
     split at h
     · exact Option.some.inj h
     · cases h
   · cases h
 · rename_i part shown callId rest stands
   refine .inr (.inr ⟨part,shown,callId,rest,stands,?_⟩)
   unfold Runner.recordFound at h
   split at h
   · rw[failed_paused] at h
     split at h
     · exact Option.some.inj h
     · cases h
   · cases h
 · cases h
 · split at h
   · cases h
   · split at h <;> cases h
 · rename_i candidate partitionId queue stands
   obtain ⟨named,⟨request,due,refused⟩|⟨rfl,later⟩⟩:=(assess_paused peopleSubject stands).mp h
   · exact .inl ⟨named,.call id request due refused⟩
   · exact .inl ⟨named,.source candidate _ queue stands later⟩
 · cases h
 · split at h <;> cases h

lemma Disturbs.paused (h:Disturbs peopleSubject censusId runner db script id)(named:id≠"") :
 (runner.turn normalizeDomain rank peopleSubject censusId db script).paused=some id:=by
 cases h with
 | call _ request due refused =>
  have asked:=due
  unfold Runner.due at asked
  unfold Runner.turn
  split at asked
  · rename_i stands
    rw[stands]
    exact (contact_paused stands).mpr ⟨named,request,due,refused⟩
  · rename_i stands
    rw[stands]
    exact (assess_paused _ stands).mpr ⟨named,.inl ⟨request,due,refused⟩⟩
  · cases asked
 | source candidate _ queue stands later =>
  unfold Runner.turn
  rw[stands]
  exact (assess_paused peopleSubject stands).mpr ⟨named,.inr ⟨rfl,later⟩⟩

lemma turn_searched {number:ℕ} :
 (runner.turn normalizeDomain rank peopleSubject censusId db script).searched=some (id,number) ↔
  ∃part rest,runner.point=.page part number rest ∧ part.partitionId=id ∧
   runner.Asks censusId db script part number:=by
 constructor
 · intro h
   unfold Runner.turn at h
   split at h
   · cases h
   · split at h
     · cases h
     · split at h <;> cases h
   · unfold Runner.contact at h
     split at h
     · cases h
     · split at h
       · cases h
       · split at h
         · cases h
         · split at h
           · cases h
           · rw[after_searched fun _ _ _=>rfl] at h
             cases h
   · cases h
   · split at h <;> cases h
   · rename_i part asked rest stands
     unfold Runner.search at h
     split at h
     · rename_i due
       dsimp only at h
       split at h
       · rename_i reserved
         cases h
         exact ⟨part,rest,stands,rfl,due.1,due.2,(executeCall_reserves _ _ _ _ _ _ _).mp reserved⟩
       · cases h
     · cases h
   · unfold Runner.recordFound at h
     split at h
     · rw[failed_searched] at h
       cases h
     · cases h
   · cases h
   · split at h
     · cases h
     · split at h <;> cases h
   · unfold Runner.assess at h
     split at h
     · rw[after_searched fun _ _ _=>rfl] at h
       cases h
     · cases h
     · unfold Turn.stopped at h
       cases h
   · cases h
   · split at h <;> cases h
 · rintro ⟨part,rest,stands,rfl,few,first,granted⟩
   unfold Runner.turn
   rw[stands]
   dsimp only
   unfold Runner.search
   rw[if_pos ⟨few,first⟩]
   exact if_pos ((executeCall_reserves _ _ _ _ _ _ _).mpr granted)

end

def Clean (last:Option Page):Prop:=
 ∃shown,last=some shown ∧ shown.finished=true ∧ shown.coverageGap=false

def Short (last:Option Page):Prop:=
 ∃shown,last=some shown ∧ shown.coverageGap=true ∧ shown.totalPages ≤ shown.page

structure Coherent (s:Session):Prop where
 ids:(s.db.partitions.map (·.partitionId)).Nodup
 last:∀id shown,s.last id=some shown→∃status,s.db.place? id=some (status,shown.page+1)
 point:∀runner,s.runner=some runner → runner.point.Coherent s.db

/-- No page was reserved that its partition does not have, and what was covered
without a gap is complete. -/
structure Kept (s:Session):Prop where
 within:∀search∈s.searches,∀shown,search.2.2=some shown→search.2.1 ≤ shown.totalPages
 complete:∀id status cursor,s.db.place? id=some (status,cursor)→Clean (s.last id) →status=.complete

section
variable (peopleSubject:Organization→String)(censusId:String)

/-- The work on contacts is refused on no partition that was covered without a gap, and no page is
asked for of one that was covered with a gap. -/
def Undisturbed (s:Session):Event→Prop
 | .turn script=>∀runner,s.runner=some runner →
   (∀id,id≠""→Disturbs peopleSubject censusId runner s.db script id→¬Clean (s.last id)) ∧
   ∀part number rest,runner.point=.page part number rest →
    runner.Asks censusId s.db script part number→¬Short (s.last part.partitionId)
 | _=>True

end

section
variable {s:Session}{runner:Runner}{turn:Turn}

lemma Coherent.taken (coherent:Coherent s) (turned:turn.Keeps s.db ∨ ∃part shown callId rest,
  runner.point=.found part shown callId rest ∧ turn.Records s.db part shown)
 (stands:∀point,turn.point=some point→point.Coherent turn.db) :
 Coherent (s.take runner turn):=by
 refine ⟨?_,?_,?_⟩
 · rcases turned with keeps|⟨part,shown,callId,rest,-,records⟩
   · exact keeps.ids ▸ coherent.ids
   · exact records.ids ▸ coherent.ids
 · intro id shown h
   rcases turned with keeps|⟨part,found,callId,rest,-,records⟩
   · unfold Session.take at h
     rw[keeps.recorded] at h
     obtain ⟨status,place⟩:=coherent.last id shown h
     by_cases paused:turn.paused=some id
     · obtain ⟨-,moved⟩:=keeps.paused id paused
       obtain ⟨status',-,place'⟩:=moved _ place
       exact ⟨status',place'⟩
     · exact ⟨status,(keeps.place id paused).trans place⟩
   · unfold Session.take at h
     rw[records.recorded] at h
     dsimp only at h
     rw[Function.update_apply] at h
     split at h
     · rename_i same
       cases h
       subst same
       exact ⟨_,records.moved⟩
     · rename_i apart
       obtain ⟨status,place⟩:=coherent.last id shown h
       exact ⟨status,(records.other id apart).trans place⟩
 · intro runner' h
   obtain ⟨point,reached,rfl⟩:=Option.map_eq_some_iff.mp h
   exact stands point reached

lemma kept_of_keeps (coherent:Coherent s)(kept:Kept s)(keeps:turn.Keeps s.db) :
 Kept (s.take runner turn) ↔ (∀id,turn.paused=some id→¬Clean (s.last id)) ∧
  ∀id number,turn.searched=some (id,number) →
   ∀shown,s.last id=some shown→number ≤ shown.totalPages:=by
 have last:(s.take runner turn).last=s.last:=by
  unfold Session.take
  rw[keeps.recorded]
 have searches:(s.take runner turn).searches=s.searches ++
   (turn.searched.map fun search=>(search.1,search.2,s.last search.1)).toList:=by
  unfold Session.take
  cases turn.searched with
  | none=>exact (List.append_nil _).symm
  | some search=>rfl
 constructor
 · intro after
   refine ⟨fun id paused clean=>?_,fun id number searched shown h=>?_⟩
   · have covered:Clean ((s.take runner turn).last id):=by rw[last];exact clean
     obtain ⟨shown,h,-⟩:=clean
     obtain ⟨status,place⟩:=coherent.last id shown h
     obtain ⟨status',incomplete,place'⟩:=(keeps.paused id paused).2 _ place
     exact incomplete (after.complete id status' _ place' covered)
   · refine after.within (id,number,s.last id) ?_ shown h
     rw[searches,searched]
     exact List.mem_append_right _ List.mem_cons_self
 · rintro ⟨paused,searched⟩
   refine ⟨fun search mem shown h=>?_,fun id status cursor place clean=>?_⟩
   · rw[searches] at mem
     rcases List.mem_append.mp mem with old|new
     · exact kept.within search old shown h
     · obtain ⟨⟨id,number⟩,now,rfl⟩:=Option.map_eq_some_iff.mp (Option.mem_toList.mp new)
       exact searched id number now shown h
   · rw[last] at clean
     have unpaused:turn.paused≠some id:=fun is=>paused id is clean
     have before:=(keeps.place id unpaused).symm.trans place
     exact kept.complete id status cursor before clean

lemma kept_of_records (kept:Kept s){part:Partition}{shown:Page}
 (records:turn.Records s.db part shown):Kept (s.take runner turn):=by
 have last:(s.take runner turn).last=Function.update s.last part.partitionId (some shown):=by
  unfold Session.take
  rw[records.recorded]
 have searches:(s.take runner turn).searches=s.searches:=by
  unfold Session.take
  rw[records.quiet.2]
 refine ⟨by rw[searches];exact kept.within,fun id status cursor place clean=>?_⟩
 rw[last,Function.update_apply] at clean
 split at clean
 · rename_i same
   subst same
   obtain ⟨found,⟨⟩,finished,whole⟩:=clean
   have moved:=records.moved.symm.trans place
   cases moved
   unfold Page.status
   rw[if_pos finished,whole]
   rfl
 · rename_i apart
   exact kept.complete id status cursor ((records.other id apart).symm.trans place) clean

end

section
variable {normalizeDomain:String→Option String}{rank:String→ℕ}
 {peopleSubject:Organization→String}{censusId:String}{s:Session}

lemma Kept.open_unclean (kept:Kept s){part:Partition}{number:ℕ}(stands:Open s.db part number) :
 ¬Clean (s.last part.partitionId):=by
 obtain ⟨status,incomplete,place⟩:=stands
 exact fun clean=>incomplete (kept.complete _ status number place clean)

lemma open_within (coherent:Coherent s)(kept:Kept s){part:Partition}{number:ℕ}
 (stands:Open s.db part number) :
 (∀shown,s.last part.partitionId=some shown→number ≤ shown.totalPages) ↔
  ¬Short (s.last part.partitionId):=by
 obtain ⟨status,incomplete,place⟩:=stands
 have next:∀shown,s.last part.partitionId=some shown→number=shown.page+1:=by
  intro shown h
  obtain ⟨status',place'⟩:=coherent.last _ shown h
  rw[place] at place'
  cases place'
  rfl
 constructor
 · rintro within ⟨shown,h,-,few⟩
   have bound:=within shown h
   have cursor:=next shown h
   omega
 · intro long shown h
   have cursor:=next shown h
   by_contra few
   have last:shown.totalPages ≤ shown.page:=by omega
   have finished:shown.finished=true:=by
    unfold Page.finished
    simp[last]
   cases gap:shown.coverageGap with
   | true=>exact long ⟨shown,h,gap,last⟩
   | false=>exact incomplete (kept.complete _ status number place ⟨shown,h,finished,gap⟩)

lemma kept_turn (coherent:Coherent s)(kept:Kept s)(script:Script) :
 Kept (s.next normalizeDomain rank peopleSubject censusId (.turn script)) ↔
  Undisturbed peopleSubject censusId s (.turn script):=by
 unfold Session.next Undisturbed
 dsimp only
 split
 · rename_i idle
   refine iff_of_true kept fun runner h=>?_
   rw[idle] at h
   cases h
 · rename_i runner running
   have stands:=coherent.point runner running
   have only:∀P:Runner→Prop,(∀other,s.runner=some other→P other) ↔ P runner:=by
    intro P
    rw[running]
    exact ⟨fun h=>h runner rfl,fun h other same=>Option.some.inj same ▸ h⟩
   rw[only]
   rcases turn_keeps normalizeDomain rank peopleSubject censusId runner s.db script with
    keeps | ⟨part,shown,callId,rest,here,records⟩
   · rw[kept_of_keeps coherent kept keeps]
     refine and_congr ⟨fun spared id named disturbs=>spared id (disturbs.paused named),?_⟩ ?_
     · intro spared id paused clean
       rcases turn_paused paused with ⟨named,disturbs⟩|⟨part,number,rest,here,rfl⟩ |
        ⟨part,shown,callId,rest,here,rfl⟩
       · exact spared id named disturbs clean
       · rw[here] at stands
         exact kept.open_unclean stands.1 clean
       · rw[here] at stands
         obtain ⟨number,stands⟩:=stands.1
         exact kept.open_unclean stands clean
     · constructor
       · intro within part number rest here asks
         rw[here] at stands
         exact (open_within coherent kept stands.1).mp
          (within _ number (turn_searched.mpr ⟨part,rest,here,rfl,asks⟩))
       · intro long id number searched
         obtain ⟨part,rest,here,rfl,asks⟩:=turn_searched.mp searched
         rw[here] at stands
         exact (open_within coherent kept stands.1).mpr (long part number rest here asks)
   · refine iff_of_true (kept_of_records kept records) ⟨fun id named disturbs=>?_,?_⟩
     · have paused:(runner.turn normalizeDomain rank peopleSubject censusId s.db script).paused =
       some id:=disturbs.paused named
       rw[records.quiet.1] at paused
       cases paused
     · intro part' number rest' other
       rw[here] at other
       cases other

lemma place?_planned {db:Db}(partitionId:String)(maxPages perPage:ℕ){id:String}
 {place:PartitionStatus × ℕ}(h:db.place? id=some place) :
 (db.change (.partition partitionId maxPages perPage)).place? id=some place:=by
 obtain ⟨p,found,rfl⟩:=place?_some h
 have kept:(db.change (.partition partitionId maxPages perPage)).partition? id=some p:=by
  unfold Db.partition? at found ⊢
  change (insertIfAbsent _ _ db.partitions).find? _=_
  rw[find?_insertIfAbsent,found]
  rfl
 exact place?_of_found kept

lemma begin_ok {settings:Settings}{now:ℕ}{db db':Db}{runner:Runner}
 (h:settings.begin rank censusId db now=.ok (db',runner)) :
 db'.partitions=db.partitions ∧ runner.point.Coherent db':=by
 unfold Settings.begin at h
 split at h
 · cases h
 split at h
 · cases h
 split at h
 · cases h
 split at h
 · cases h
 split at h
 · cases h
 · obtain ⟨started,hstarted,h⟩:=bind_ok.mp h
   have same:started.partitions=db.partitions:=by
    unfold start at hstarted
    split at hstarted
    · cases hstarted
      rfl
    · split at hstarted
      · cases hstarted
        rfl
      · cases hstarted
    · split at hstarted
      · cases hstarted
        rfl
      · cases hstarted
    · split at hstarted
      · cases hstarted
        rfl
      · cases hstarted
    · cases hstarted
   cases h
   refine ⟨same,?_⟩
   split <;> trivial

lemma Coherent.next (coherent:Coherent s)(event:Event) :
 Coherent (s.next normalizeDomain rank peopleSubject censusId event):=by
 cases event with
 | plan partitionId maxPages perPage =>
  refine ⟨nodup_insertIfAbsent coherent.ids _,fun id shown h=>?_,fun runner running=>?_⟩
  · obtain ⟨status,place⟩:=coherent.last id shown h
    exact ⟨status,place?_planned partitionId maxPages perPage place⟩
  · exact (coherent.point runner running).mono fun id place=>
     place?_planned partitionId maxPages perPage
 | permit | revoke=>exact ⟨coherent.ids,coherent.last,coherent.point⟩
 | begin settings now =>
  unfold Session.next
  dsimp only
  split
  · exact coherent
  · split
    · exact coherent
    · rename_i db runner begun
      obtain ⟨same,stands⟩:=begin_ok begun
      have places:=samePlaces_of_eq same
      refine ⟨same ▸ coherent.ids,fun id shown h=>?_,?_⟩
      · obtain ⟨status,place⟩:=coherent.last id shown h
        exact ⟨status,(places.place id).trans place⟩
      · rintro other ⟨⟩
        exact stands
 | turn script =>
  unfold Session.next
  dsimp only
  split
  · exact coherent
  · rename_i runner running
    exact coherent.taken (turn_keeps _ _ _ _ _ _ _) fun point=>
     turn_stands coherent.ids (coherent.point runner running)
 | interrupt=>exact ⟨coherent.ids,coherent.last,by rintro runner ⟨⟩⟩

lemma kept_next (coherent:Coherent s)(kept:Kept s)(event:Event) :
 Kept (s.next normalizeDomain rank peopleSubject censusId event) ↔
  Undisturbed peopleSubject censusId s event:=by
 cases event with
 | plan partitionId maxPages perPage =>
  refine iff_of_true ⟨kept.within,fun id status cursor place clean=>?_⟩ trivial
  obtain ⟨shown,last,whole⟩:=clean
  obtain ⟨status',before⟩:=coherent.last id shown last
  have after:=place?_planned partitionId maxPages perPage before
  cases after.symm.trans place
  exact kept.complete id _ _ before ⟨shown,last,whole⟩
 | permit | revoke | interrupt=>exact iff_of_true ⟨kept.within,kept.complete⟩ trivial
 | begin settings now =>
  refine iff_of_true ?_ trivial
  unfold Session.next
  dsimp only
  split
  · exact kept
  · split
    · exact kept
    · rename_i db runner begun
      have places:=samePlaces_of_eq (begin_ok begun).1
      exact ⟨kept.within,fun id status cursor place clean=>
       kept.complete id status cursor ((places.place id).symm.trans place) clean⟩
 | turn script=>exact kept_turn coherent kept script

lemma coherent_start:Coherent (Session.start) where
 ids:=List.nodup_nil
 last:=by rintro id shown ⟨⟩
 point:=by rintro runner ⟨⟩

/-- What holds of a state: the searches that were reserved, the partitions that
were covered without a gap, and what `finish` would come to. -/
structure Covered (s:Session):Prop where
 within:∀id number shown,(id,number,some shown)∈s.searches→number ≤ shown.totalPages
 complete:∀p∈s.db.partitions,Clean (s.last p.partitionId)→p.status=.complete
 finishes:(∀p∈s.db.partitions,Clean (s.last p.partitionId)) →
  (∀c∈s.db.candidates,c.decided=true)→(finish s.db).run.status=.complete

lemma covered_iff (coherent:Coherent s):Covered s ↔ Kept s:=by
 constructor
 · intro covered
   refine ⟨?_,fun id status cursor place clean=>?_⟩
   · rintro ⟨id,number,last⟩ mem shown rfl
     exact covered.within id number shown mem
   · obtain ⟨p,found,is⟩:=place?_some place
     obtain ⟨mem,rfl⟩:=find?_key found
     exact (congrArg Prod.fst is).symm.trans (covered.complete p mem clean)
 · intro kept
   have complete:∀p∈s.db.partitions,Clean (s.last p.partitionId)→p.status=.complete:=
    fun p mem clean=>kept.complete p.partitionId p.status p.cursorPage
     (place?_of_found (find?_of_mem coherent.ids mem)) clean
   refine ⟨fun id number shown mem=>kept.within _ mem shown rfl,complete,?_⟩
   intro clean decided
   have none:(s.db.partitions.any fun p=>p.status != .complete)=false:=by
    rw[List.any_eq_false]
    intro p mem
    rw[complete p mem (clean p mem)]
    exact Bool.false_ne_true
   have all:(s.db.candidates.any fun c=>!c.decided)=false:=by
    rw[List.any_eq_false]
    intro c mem
    rw[decided c mem]
    exact Bool.false_ne_true
   unfold finish
   rw[none,all]
   rfl

end

def Session.reached (normalizeDomain:String→Option String)(rank:String→ℕ)
 (peopleSubject:Organization→String)(censusId:String)(events:List Event):Session:=
 events.foldl (Session.next normalizeDomain rank peopleSubject censusId) (Session.start)

/-- In every sequence of runs, coverage is kept in every state exactly when it
is undisturbed. -/
theorem covered_iff_undisturbed (normalizeDomain:String→Option String)(rank:String→ℕ)
 (peopleSubject:Organization→String)(censusId:String)(events:List Event) :
 (∀done,done <+: events →
  Covered (Session.reached normalizeDomain rank peopleSubject censusId done)) ↔
  Along (Session.next normalizeDomain rank peopleSubject censusId)
   (Undisturbed peopleSubject censusId) (Session.start) events:=by
 have step:∀s event,Coherent s→Kept s →
   (Kept (s.next normalizeDomain rank peopleSubject censusId event) ↔
    Undisturbed peopleSubject censusId s event):=
  fun s event coherent kept=>kept_next coherent kept event
 have always:=always_iff_along (fun s event coherent=>Coherent.next coherent event) step
  coherent_start ⟨by rintro search ⟨⟩,by rintro id status cursor ⟨⟩⟩ events
 refine Iff.trans (forall₂_congr fun done _=>?_) always
 have coherent:Coherent (Session.reached normalizeDomain rank peopleSubject censusId done):=
  invariant Coherent (fun s event coherent=>Coherent.next coherent event) done coherent_start
 exact covered_iff coherent

def onlyPage:Page:=⟨1,25,1,1,none,[⟨true,"one",some "one.fr",some "FR"⟩],[]⟩

def sampleSettings:Settings:=
 ⟨.coverage,by decide,sampleLimits,"permit","configuration","database",1,false⟩

def sampleTurn (outcome:Outcome):Event:=.turn ⟨⟨1,some outcome⟩,⟨1,some outcome⟩,0,.decide⟩

def limitedContacts:List Event:=
 [.plan "partition" 500 25,.permit (samplePermit "permit" .coverage none),.begin sampleSettings 1] ++
 List.replicate 4 (sampleTurn (.answered (.page onlyPage))) ++
 [sampleTurn (.failed "rate_limited" (some 60))]

theorem complete_partition_is_paused_by_contacts :
 ¬Covered (Session.reached some (fun _=>0) (fun _=>"people") "census" limitedContacts):=by
 intro covered
 have partitions:(Session.reached some (fun _=>0) (fun _=>"people") "census"
   limitedContacts).db.partitions.map (fun p=>(p.partitionId,p.status)) =
    [("partition",.incomplete)]:=by decide +kernel
 have last:(Session.reached some (fun _=>0) (fun _=>"people") "census"
   limitedContacts).last "partition"=some onlyPage:=by decide +kernel
 obtain ⟨p,mem,is⟩:=List.mem_map.mp (partitions ▸ List.mem_cons_self)
 obtain ⟨id,status⟩:=Prod.mk.inj is
 have complete:=covered.complete p mem (by rw[id];exact ⟨onlyPage,last,rfl,rfl⟩)
 rw[status] at complete
 cases complete

end Kivou.Census
