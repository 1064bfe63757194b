import Mathlib.Algebra.Order.BigOperators.Group.List
import Mathlib.Algebra.Order.Group.Nat
import Kivou.ProspectGuards

set_option autoImplicit false

/-! A target is held by the request that it names, and the quota of a day counts what its requests
may still send. -/
namespace Kivou.ProspectReservations
open ProspectRecords ProspectDelivery ProspectWorker ProspectProcess ProspectActions ProspectRuns
open ProspectLeases ProspectStranding ProspectGuards

section
variable {α β γ ε:Type}

lemma mapM_ok {f:α→Except ε β}{xs:List α}{ys:List β}(h:xs.mapM f=.ok ys) :
 List.Forall₂ (fun x y=>f x=.ok y) xs ys:=by
 induction xs generalizing ys with
 | nil =>
  obtain rfl:=Except.ok.inj h
  exact .nil
 | cons x xs ih =>
  rw[List.mapM_cons] at h
  obtain ⟨y,first,h⟩:=PythonValues.bind_ok.mp h
  obtain ⟨ys',rest,h⟩:=PythonValues.bind_ok.mp h
  obtain rfl:=Except.ok.inj h
  exact .cons first (ih rest)

lemma forM_ok {f:α→Except ε Unit}{xs:List α}(h:xs.forM f=.ok ()) : ∀x∈xs,f x=.ok ():=by
 induction xs with
 | nil=>simp
 | cons x xs ih =>
  obtain ⟨_,first,h⟩:=PythonValues.bind_ok.mp h
  intro y mem
  rcases List.mem_cons.mp mem with rfl|mem
  · exact first
  · exact ih h y mem

lemma forall₂_through {R:α→β→Prop}{P:β→Prop}{S:β→γ→Prop}{xs:List α}
 {ys:List β}{zs:List γ}(rs:List.Forall₂ R xs ys)(all:∀y∈ys,P y)
 (ss:List.Forall₂ S ys zs):List.Forall₂ (fun x z=>∃y,R x y ∧ P y ∧ S y z) xs zs:=by
 induction rs generalizing zs with
 | nil =>
  cases ss
  exact .nil
 | cons first rest ih =>
  cases ss with
  | cons first' rest' =>
   exact .cons ⟨_,first,all _ List.mem_cons_self,first'⟩
    (ih (fun y mem=>all y (List.mem_cons_of_mem _ mem)) rest')

end

section
variable {policy:Policy}{db:Db}{c:SendCommand}{at':ℕ}{around:Surroundings} {targets:List Target}

def Prepared (policy:Policy)(db:Db)(at':ℕ)(message:String→Rendered)
 (entry:String × ℕ)(t:Target):Prop:=
 ∃before,reservable db entry=.ok before ∧ admissible policy db at' before=.ok () ∧
  prepareTarget message before=.ok t

lemma checkBatch_ok (h:checkBatch policy c at' around db=.ok targets) : around.killSwitch=false ∧
  reservedOn (at'/microsecondsPerDay) db.requests+c.targets.length≤dailySendCap ∧
  List.Forall₂ (Prepared policy db at' around.message) c.targets targets:=by
 unfold checkBatch at h
 simp only[bind,Except.bind,throw,throwThe,MonadExceptOf.throw] at h
 split at h
 · cases h
 · rename_i allowed
   split at h
   · cases h
   · rename_i within
     split at h
     · cases h
     · split at h
       · cases h
       · rename_i befores reserved
         split at h
         · cases h
         · rename_i admitted
           exact ⟨Bool.eq_false_iff.mpr allowed,by omega,
            forall₂_through (mapM_ok reserved) (forM_ok admitted) (mapM_ok h)⟩

lemma reservable_ok {entry:String × ℕ}{t:Target}(h:reservable db entry=.ok t) :
 db.target? entry.1=some t ∧ t.version=entry.2 ∧ t.status=.approved ∧
  truthy t.sendRequestId=none ∧ PythonValues.strip t.opportunityKey≠"":=by
 unfold reservable at h
 split at h
 · cases h
 · rename_i row found
   split at h
   · cases h
   · rename_i version
     split at h
     · cases h
     · rename_i free
       split at h
       · cases h
       · rename_i promised
         split at h
         · cases h
         · obtain rfl:=Except.ok.inj h
           simp only[not_or,not_not,Bool.not_eq_true,Option.isSome_eq_false_iff,
            Option.isNone_iff_eq_none] at free
           exact ⟨found,not_not.mp version,free.1,free.2,promised⟩

lemma prepareTarget_ok {message:String→Rendered}{before t:Target}
 (h:prepareTarget message before=.ok t) :
 t=Target.unbound (Target.rendered before (message before.targetId)):=by
 unfold prepareTarget at h
 dsimp only at h
 split at h
 · exact (Except.ok.inj h).symm
 · cases h

lemma Prepared.review {entry:String × ℕ}{t:Target}
 (h:Prepared policy db at' around.message entry t) :
 ∃before,db.target? entry.1=some before ∧ t.targetId=entry.1 ∧
  review t=review before ∧ before.version=entry.2 ∧ before.status=.approved:=by
 obtain ⟨before,reserved,_,prepared⟩:=h
 obtain ⟨found,version,approved,_⟩:=reservable_ok reserved
 obtain rfl:=prepareTarget_ok prepared
 exact ⟨before,found,(Db.target?_some found).2,rfl,version,approved⟩

lemma prepared_ids (h:List.Forall₂ (Prepared policy db at' around.message) c.targets targets) :
 targets.map (·.targetId)=c.targets.map Prod.fst:=by
 generalize c.targets=entries at h
 induction h with
 | nil=>rfl
 | cons first rest ih =>
  obtain ⟨_,_,id,_⟩:=first.review
  rw[List.map_cons,List.map_cons,ih,id]

lemma target?_setTargets (unique:(targets.map (·.targetId)).Nodup)(targetId:String) :
 (setTargets db targets).target? targetId =
  (db.target? targetId).map fun t=>
   (targets.find? (fun t=>t.targetId==targetId)).getD t:=by
 induction targets generalizing db with
 | nil =>
  change db.target? targetId=_
  simp
 | cons t targets ih =>
  rw[List.map_cons,List.nodup_cons] at unique
  change (setTargets (db.setTarget t) targets).target? targetId=_
  rw[ih unique.2,Db.target?_setTarget]
  split
  · rename_i same
    subst same
    have absent:targets.find? (fun other=>other.targetId==t.targetId)=none:=by
     rw[List.find?_eq_none]
     intro other mem is
     exact unique.1 (List.mem_map.mpr ⟨other,mem,beq_iff_eq.mp is⟩)
    have head:(t::targets).find? (fun other=>other.targetId==t.targetId)=some t:=
     List.find?_cons_of_pos (beq_self_eq_true _)
    rw[absent,head,Option.map_map]
    rfl
  · rename_i other
    have tail:(t::targets).find? (fun row=>row.targetId==targetId) =
      targets.find? (fun row=>row.targetId==targetId):=
     List.find?_cons_of_neg fun is=>other (beq_iff_eq.mp is).symm
    rw[tail]

lemma prepared_mem (h:List.Forall₂ (Prepared policy db at' around.message) c.targets targets)
 {t:Target}(mem:t∈targets) :
 ∃entry∈c.targets,Prepared policy db at' around.message entry t:=by
 generalize c.targets=entries at h
 induction h with
 | nil=>cases mem
 | cons first rest ih =>
  rcases List.mem_cons.mp mem with rfl|mem
  · exact ⟨_,List.mem_cons_self,first⟩
  · obtain ⟨entry,there,prepared⟩:=ih mem
    exact ⟨entry,List.mem_cons_of_mem _ there,prepared⟩

lemma batch_target? {f:Target→Target}(keys:∀t,(f t).targetId=t.targetId)
 (h:List.Forall₂ (Prepared policy db at' around.message) c.targets targets)
 (targetId:String) :
 (∃t∈targets,t.targetId=targetId ∧ (setTargets db (targets.map f)).target? targetId=some (f t)) ∨
  targetId∉c.targets.map Prod.fst ∧
   (setTargets db (targets.map f)).target? targetId=db.target? targetId:=by
 have ids:=prepared_ids h
 have kept:(targets.map f).map (·.targetId)=targets.map (·.targetId):=by
  rw[List.map_map]
  exact List.map_congr_left fun t _=>keys t
 rw[target?_setTargets (by rw[kept,ids];exact c.distinct)]
 cases found:(targets.map f).find? (fun t=>t.targetId==targetId) with
 | none =>
  refine .inr ⟨?_,by simp⟩
  rw[←ids,←kept]
  intro mem
  obtain ⟨t,there,eq⟩:=List.mem_map.mp mem
  exact List.find?_eq_none.mp found t there (beq_iff_eq.mpr eq)
 | some row =>
  obtain ⟨there,id⟩:=Tables.find?_key found
  obtain ⟨t,mem,rfl⟩:=List.mem_map.mp there
  rw[keys] at id
  refine .inl ⟨t,mem,id,?_⟩
  obtain ⟨entry,_,prepared⟩:=prepared_mem h mem
  obtain ⟨before,was,named,_⟩:=prepared.review
  rw[←id,named,was]
  rfl

lemma batch_column {β:Type}{f:Target→Target}(column:Target→β)
 (keys:∀t,(f t).targetId=t.targetId)(kept:∀t,column (f t)=column t)
 (unprepared:∀t r,column (Target.unbound (Target.rendered t r))=column t)
 (checked:checkBatch policy c at' around db=.ok targets){targetId:String}{t':Target}
 (found:(setTargets db (targets.map f)).target? targetId=some t') :
 ∃t,db.target? targetId=some t ∧ column t'=column t:=by
 obtain ⟨_,_,prepared⟩:=checkBatch_ok checked
 rcases batch_target? keys prepared targetId with ⟨row,mem,rfl,read⟩|⟨_,same⟩
 · obtain rfl:=Option.mem_unique read found
   obtain ⟨entry,_,before,reserved,_,ready⟩:=prepared_mem prepared mem
   have was:=(reservable_ok reserved).1
   have id:before.targetId=row.targetId:=by
    rw[prepareTarget_ok ready]
    rfl
   refine ⟨before,?_,?_⟩
   · rw[←id,(Db.target?_some was).2]
     exact was
   · rw[kept,prepareTarget_ok ready,unprepared]
 · exact ⟨t',same.symm.trans found,rfl⟩

end

section
variable {r claimedRow:SendRequest}{now claimedAt leaseId:ℕ}{skipped:List String} {targetId:String}

lemma claimLocked_open
 (claim:claimLocked r now claimedAt skipped leaseId=some (claimedRow,targetId)) :
 r.status.isFinal=false:=by
 unfold claimLocked at claim
 split at claim
 · cases claim
 · rename_i chosen
   have open':=(candidate_some chosen).1
   cases status:r.status <;> simp_all[reclaimable,RequestStatus.isFinal,RequestStatus.isLive]

lemma claimLocked_item? (h:Sound False r)
 (claim:claimLocked r now claimedAt skipped leaseId=some (claimedRow,targetId))(other:String) :
 ∀item',claimedRow.item? other=some item'→∃item,r.item? other=some item ∧
  record item'=(item'.status,item.errorCode,item.instantlyId,item.expectedVersion) ∧
  item'.status.isTerminal=item.status.isTerminal ∧
  (item.status.isTerminal=true→item'=item):=by
 unfold claimLocked at claim
 split at claim
 · cases claim
 · rename_i item chosen
   obtain ⟨_,mem,_,_⟩:=candidate_some chosen
   split at claim
   · obtain ⟨rfl,rfl⟩:=Prod.mk.inj (Option.some.inj claim)
     split
     · exact fun item' found=>⟨item',found,rfl,rfl,fun _=>rfl⟩
     · rename_i open'
       obtain ⟨others,own⟩:=setItem_reads (fun i:SendItem=>{i with status:=.running})
        (fun _=>rfl) (h.basic.item?_of_mem mem)
       intro item' found
       by_cases same:other=item.targetId
       · subst same
         obtain rfl:=Option.mem_unique own found
         refine ⟨item,h.basic.item?_of_mem mem,rfl,?_,fun past=>absurd past open'⟩
         exact (Bool.eq_false_iff.mpr open').symm
       · exact ⟨item',(others other same).symm.trans found,rfl,rfl,fun _=>rfl⟩
   · cases claim

end
def Pending (db:Db):Prop:=
 ∀requestId targetId r item,db.request? requestId=some r → r.item? targetId=some item →
  item.status.isTerminal=false→∃t,db.target? targetId=some t ∧
   t.sendRequestId=some requestId ∧ t.status≠.sent

lemma edit_held {i:Step}{t t':Target}(h:Edit i t t') :
 t'.sendRequestId=t.sendRequestId ∧ (t.status≠.sent→t'.status≠.sent):=by
 cases h with
 | same | regenerated | projected=>exact ⟨rfl,id⟩
 | approved | rejected=>exact ⟨rfl,fun _=>by simp⟩
 | corrected changed verified message emailAddress mx status =>
  refine ⟨rfl,fun open'=>?_⟩
  unfold corrected
  split
  · exact open'
  · simp

section
variable {db db':Db}

lemma Pending.of_targets (h:Pending db)(requests:db'.requests=db.requests)
 (targets:∀targetId t,db.target? targetId=some t→∃t',db'.target? targetId=some t' ∧
  t'.sendRequestId=t.sendRequestId ∧ (t.status≠.sent→t'.status≠.sent)):Pending db':=by
 intro requestId targetId r item found own open'
 have found:db.request? requestId=some r:=by
  rw[←found,Db.request?,Db.request?,requests]
 obtain ⟨t,read,held,unsent⟩:=h requestId targetId r item found own open'
 obtain ⟨t',read',same,still⟩:=targets targetId t read
 exact ⟨t',read',same.trans held,still unsent⟩

lemma Pending.outside {i:Step}(h:Pending db)(edited:Outside i db db'):Pending db':=by
 refine h.of_targets edited.requests fun targetId t read=>?_
 have edit:=edited.targets targetId
 rw[read] at edit
 generalize eq:db'.target? targetId=row at edit
 cases edit with
 | some edit=>exact ⟨_,rfl,edit_held edit⟩

section
variable {policy:Policy}{c:SendCommand}{at':ℕ}{around:Surroundings} {targets:List Target}

lemma Pending.conflicted (h:Pending db)
 (checked:checkBatch policy c at' around db=.ok targets):Pending (setTargets db targets):=by
 obtain ⟨_,_,prepared⟩:=checkBatch_ok checked
 refine h.of_targets (setTargets_tables targets db).1 fun targetId t read=>?_
 have batch:=batch_target? (f:=id) (fun _=>rfl) prepared targetId
 rw[List.map_id] at batch
 rcases batch with ⟨t',mem,rfl,found⟩|⟨_,same⟩
 · obtain ⟨entry,_,row⟩:=prepared_mem prepared mem
   obtain ⟨before,was,named,same,_⟩:=row.review
   rw[←named,read] at was
   obtain rfl:=Option.some.inj was
   refine ⟨t',found,review_holder same,fun open'=>?_⟩
   rw[review_status same]
   exact open'
 · exact ⟨t,same.trans read,rfl,id⟩

lemma Pending.reserved (h:Pending db) (checked:checkBatch policy c at' around db=.ok targets)
 (free:∀t∈targets,t.sendRequestId=none) :
 Pending { setTargets db (targets.map fun t=>{t with
   sendRequestId:=some c.requestId}) with
  requests:=newRequest c at'::db.requests}:=by
 obtain ⟨_,_,prepared⟩:=checkBatch_ok checked
 have batch:=batch_target? (f:=fun t=>{t with sendRequestId:=some c.requestId})
  (fun _=>rfl) prepared
 intro requestId targetId r item found own open'
 have found:(if c.requestId=requestId then some (newRequest c at')
   else db.request? requestId)=some r:=(request?_cons _ _ _).symm.trans found
 split at found
 · rename_i same
   obtain rfl:=Option.some.inj found
   have listed:targetId∈c.targets.map Prod.fst:=by
    obtain ⟨mem,id⟩:=SendRequest.item?_some own
    obtain ⟨position,inside,rfl⟩:=List.mem_mapIdx.mp mem
    exact List.mem_map.mpr ⟨_,List.getElem_mem inside,id⟩
   rcases batch targetId with ⟨t,mem,id,read⟩|⟨absent,_⟩
   · obtain ⟨entry,_,row⟩:=prepared_mem prepared mem
     obtain ⟨before,_,_,kept,_,approved⟩:=row.review
     refine ⟨_,read,congrArg some same,?_⟩
     rw[review_status kept,approved]
     simp
   · exact absurd listed absent
 · obtain ⟨t,read,held,unsent⟩:=h requestId targetId r item found own open'
   rcases batch targetId with ⟨t',mem,id,_⟩|⟨_,same⟩
   · -- a target of the batch was free
     obtain ⟨entry,_,row⟩:=prepared_mem prepared mem
     obtain ⟨before,was,named,kept,_⟩:=row.review
     rw[←named,id,read] at was
     obtain rfl:=Option.some.inj was
     have none':=free t' mem
     rw[review_holder kept,held] at none'
     cases none'
   · exact ⟨t,same.trans read,held,unsent⟩

end

lemma Pending.claimed (h:Pending db){r claimedRow:SendRequest}{now claimedAt leaseId:ℕ}
 {skipped:List String}{requestId targetId:String}(sound:Sound False r)
 (found:db.request? requestId=some r)
 (claim:claimLocked r now claimedAt skipped leaseId=some (claimedRow,targetId)) :
 Pending (db.setRequest claimedRow):=by
 have id:claimedRow.requestId=requestId:=
  (congrArg Prod.fst (claimLocked_held sound claim False.elim).same).trans (Db.request?_some found).2
 intro other targetId' row item read own open'
 rw[Db.request?_setRequest,id] at read
 split at read
 · rename_i same
   rw[same,found] at read
   obtain rfl:=Option.some.inj read
   obtain ⟨before,was,_,past,_⟩:=claimLocked_item? sound claim targetId' item own
   rw[past] at open'
   rw[same]
   exact h requestId targetId' r before found was open'
 · exact h other targetId' row item read own open'

lemma Pending.closed (h:Pending db){leaseId renewedAt:ℕ}{requestId targetId:String}
 {s s':Scope}(opened:openGuard db leaseId requestId targetId=some s)
 (same:s'.request.requestId=s.request.requestId)(guarded:Guarded targetId s s') :
 Pending (closeGuard db leaseId renewedAt s'):=by
 obtain ⟨found,targeted,_⟩:=openGuard_some opened
 obtain ⟨contact',others,item,item',own,own',_,outcome⟩:=guarded
 have id:=(Db.request?_some found).2
 intro requestId' targetId' r row read ownRow open'
 rw[closeGuard_request? opened same] at read
 rw[closeGuard_target? opened contact']
 by_cases mine:requestId'=requestId
 · rw[if_pos mine] at read
   obtain rfl:=Option.some.inj read
   rw[item?_congr renew_items] at ownRow
   subst mine
   by_cases target:targetId'=targetId
   · subst target
     rw[if_pos rfl]
     obtain rfl:=Option.mem_unique own' ownRow
     cases outcome with
     | carried past same _ =>
      rw[show item'.status=item.status from congrArg Prod.fst same,past] at open'
      cases open'
     | pending unchanged _ review' =>
      obtain ⟨t,read,held,unsent⟩:=h _ _ _ item found own unchanged.live
      obtain rfl:=Option.mem_unique targeted read
      refine ⟨s'.target,rfl,(review_holder review').trans held,?_⟩
      rw[review_status review']
      exact unsent
     | already _ _ sent _ | sent _ sent _ =>
      rw[sent] at open'
      cases open'
     | cancelled _ _ failed _ _ | failed _ _ failed _ _ _ =>
      rw[failed] at open'
      cases open'
   · rw[if_neg target]
     rw[others targetId' target] at ownRow
     exact h _ _ _ row found ownRow open'
 · rw[if_neg mine] at read
   obtain ⟨t,readTarget,held,unsent⟩:=h _ _ _ row read ownRow open'
   by_cases target:targetId'=targetId
   · subst target
     rw[if_pos rfl]
     obtain rfl:=Option.mem_unique targeted readTarget
     -- the target is held by another request than the one of the guard
     have foreign:s.target.sendRequestId≠some s.request.requestId:=by
      rw[held,id]
      exact fun is=>mine (Option.some.inj is)
     have kept:∀review',review'=review s.target → review s'.target=review' →
       s'.target.sendRequestId=some requestId' ∧ s'.target.status≠.sent:=by
      rintro _ rfl review'
      refine ⟨(review_holder review').trans held,?_⟩
      rw[review_status review']
      exact unsent
     refine ⟨s'.target,rfl,?_⟩
     cases outcome with
     | carried _ _ review'=>exact kept _ rfl review'
     | pending _ _ review'=>exact kept _ rfl review'
     | already _ _ _ review'=>exact kept _ rfl review'
     | cancelled _ _ _ _ review' =>
      refine kept _ ?_ review'
      rw[freeTarget_target,if_neg fun is=>foreign is.1]
     | sent unchanged _ _=>exact absurd unchanged.reserved foreign
     | failed _ unchanged _ _ _ _=>exact absurd unchanged.reserved foreign
   · rw[if_neg target]
     exact ⟨t,readTarget,held,unsent⟩

end

lemma sent_le_contribution {r:SendRequest}(h:Sound False r) : r.sent≤SendRequest.contribution r:=by
 have bound:r.sent≤r.items.length:=List.countP_le_length
 have reserved:=h.basic.reserved
 unfold SendRequest.contribution
 split
 · omega
 · rename_i past
   cases h with
   | idle _ status=>rcases status with status|status <;> simp[status,RequestStatus.isLive] at past
   | busy _ _ busy=>simp[busy.running,RequestStatus.isLive] at past
   | final _ _ _ counted=>omega

lemma contribution_le_reserved {r:SendRequest}(h:Sound False r) :
 SendRequest.contribution r≤r.reservedCount:=by
 have bound:r.sent≤r.items.length:=List.countP_le_length
 have reserved:=h.basic.reserved
 unfold SendRequest.contribution
 split
 · exact le_rfl
 · rename_i past
   cases h with
   | idle _ status=>rcases status with status|status <;> simp[status,RequestStatus.isLive] at past
   | busy _ _ busy=>simp[busy.running,RequestStatus.isLive] at past
   | final _ _ _ counted=>omega

lemma reservedOn_cons (day:ℕ)(r:SendRequest)(rows:List SendRequest) : reservedOn day (r::rows) =
  (if r.requestDay=day then SendRequest.contribution r else 0)+reservedOn day rows:=by
 unfold reservedOn
 by_cases same:r.requestDay=day <;> simp[same]

section
variable {db:Db}

lemma reservedOn_setRequest {request:SendRequest}(day:ℕ)
 (kept:∀r∈db.requests,r.requestId=request.requestId →
  request.requestDay=r.requestDay ∧ SendRequest.contribution request≤SendRequest.contribution r) :
 reservedOn day (db.setRequest request).requests≤reservedOn day db.requests:=by
 unfold Db.setRequest
 dsimp only
 generalize db.requests=rows at kept ⊢
 induction rows with
 | nil=>exact le_rfl
 | cons r rows ih =>
  have rest:=ih fun row mem=>kept row (List.mem_cons_of_mem _ mem)
  rw[Tables.update,List.map_cons,←Tables.update,reservedOn_cons,reservedOn_cons]
  have head:(if (if r.requestId==request.requestId then request else r).requestDay=day
    then SendRequest.contribution (if r.requestId==request.requestId then request else r)
    else 0) ≤ if r.requestDay=day then SendRequest.contribution r else 0:=by
   by_cases same:r.requestId=request.requestId
   · obtain ⟨sameDay,le⟩:=kept r List.mem_cons_self same
     simp only[same,beq_self_eq_true,↓reduceIte,sameDay]
     split
     · exact le
     · exact le_rfl
   · simp only[beq_eq_false_iff_ne.mpr same,Bool.false_eq_true,↓reduceIte,le_refl]
  omega

lemma setRequest_ids (request:SendRequest) :
 (db.setRequest request).requests.map (·.requestId)=db.requests.map (·.requestId):=
 Tables.map_key_update fun _ _ same=>(beq_iff_eq.mp same).symm

lemma reservedOn_written (ids:(db.requests.map (·.requestId)).Nodup){r r':SendRequest}
 {requestId:String}(found:db.request? requestId=some r)(live:r.status.isLive=true)
 (sound:Sound False r')(same:identity r'=identity r)(day:ℕ) :
 reservedOn day (db.setRequest r').requests≤reservedOn day db.requests:=by
 have id:r'.requestId=r.requestId:=congrArg Prod.fst same
 have sameDay:r'.requestDay=r.requestDay:=congrArg (·.2.2.1) same
 have reserved:r'.reservedCount=r.reservedCount:=congrArg (·.2.2.2.1) same
 refine reservedOn_setRequest day fun row mem named=>?_
 have own:db.request? row.requestId=some row:=Tables.find?_of_mem ids mem
 rw[named,id,(Db.request?_some found).2,found] at own
 obtain rfl:=Option.some.inj own
 have whole:SendRequest.contribution r=r.reservedCount:=by
  simp only[SendRequest.contribution,live,↓reduceIte]
 exact ⟨sameDay,by rw[whole,←reserved];exact contribution_le_reserved sound⟩

end

structure Reserved (st:System):Prop extends Inv False st where
 ids:(st.db.requests.map (·.requestId)).Nodup
 quota:∀day,reservedOn day st.db.requests≤dailySendCap
 pending:Pending st.db

lemma start_reserved (opening:Opening):Reserved (start opening):=by
 refine ⟨start_inv opening,List.nodup_nil,fun day=>Nat.zero_le _,?_⟩
 intro requestId targetId r item found
 cases found

lemma step_reserved (policy:Policy)(st:System)(i:Step)(h:Reserved st) :
 Reserved (step policy st i):=by
 have inv:=step_inv policy st i h.toInv nofun
 have stepped:=step_stepped policy st h.keyed i
 generalize step policy st i=st' at inv stepped
 cases stepped with
 | kept=>exact h
 | outside _ db edited =>
  refine ⟨inv,?_,?_,h.pending.outside edited⟩
  · rw[edited.requests]
    exact h.ids
  · rw[edited.requests]
    exact h.quota
 | conflicted c at' around targets r checked _ _ =>
  have requests:=(setTargets_tables targets st.db).1
  refine ⟨inv,?_,?_,h.pending.conflicted checked⟩
  · rw[requests]
    exact h.ids
  · rw[requests]
    exact h.quota
 | reserved c at' around targets checked fresh free =>
  refine ⟨inv,?_,fun day=>?_,h.pending.reserved checked free⟩
  · have absent:∀r∈st.db.requests,r.requestId≠c.requestId:=fun r mem is=>
     List.find?_eq_none.mp fresh r mem (beq_iff_eq.mpr is)
    exact List.nodup_cons.mpr ⟨fun mem=>by
     obtain ⟨r,there,is⟩:=List.mem_map.mp mem
     exact absent r there is,h.ids⟩
  · have within:=(checkBatch_ok checked).2.1
    have before:=h.quota day
    have new:SendRequest.contribution (newRequest c at')=c.targets.length:=rfl
    change reservedOn day (newRequest c at'::st.db.requests)≤_
    rw[reservedOn_cons,new]
    split
    · rename_i today
      obtain rfl:at'/microsecondsPerDay=day:=today
      omega
    · omega
 | claimed requestId now claimedAt skipped r claimedRow targetId found claim =>
  obtain ⟨mem,_⟩:=Db.request?_some found
  have sound:=h.sound r mem
  have held:=claimLocked_held sound claim False.elim
  refine ⟨inv,?_,fun day=>?_,h.pending.claimed sound found claim⟩
  · change ((st.db.setRequest claimedRow).requests.map _).Nodup
    rw[setRequest_ids]
    exact h.ids
  · have live:r.status.isLive=true:=by
     cases sound with
     | idle _ status=>rcases status with status|status <;> rw[status] <;> rfl
     | busy _ _ busy=>rw[busy.running];rfl
     | final _ status done _ =>
      rw[claimLocked_open claim] at status
      cases status
    exact (reservedOn_written h.ids found live (.busy _ _ held.busy) held.same day).trans
     (h.quota day)
 | crashed leaseId=>exact ⟨inv,h.ids,h.quota,h.pending⟩
 | worked leaseId o st' worked =>
  cases worked with
  | absent | stopped | counted | dropped | turned=>exact ⟨inv,h.ids,h.quota,h.pending⟩
  | committed w s s' next p' operations held opened way =>
   obtain ⟨found,_,running,_,item,own,_⟩:=openGuard_some opened
   obtain ⟨standing,left,same⟩:=h.left held opened way
   have sound:=(left_sound o.renewedAt left).1
   have guarded:=way_guarded own standing way
   have id:s'.request.requestId=s.request.requestId:=congrArg Prod.fst same
   refine ⟨inv,?_,fun day=>?_,h.pending.closed opened id guarded⟩
   · change ((st.db.setRequest (renew leaseId o.renewedAt s'.request)).requests.map _).Nodup
     rw[setRequest_ids]
     exact h.ids
   · have live:s.request.status.isLive=true:=by rw[running];rfl
     exact (reservedOn_written h.ids found live sound (renew_identity.trans same) day).trans
      (h.quota day)

lemma run_reserved (policy:Policy)(opening:Opening)(steps:List Step) :
 Reserved (steps.foldl (step policy) (start opening)):=
 Runs.invariant Reserved (step_reserved policy) steps (start_reserved opening)

/-- A request that is not final, and a target it has reserved or still has to handle. -/
structure Holds (db:Db)(r:SendRequest)(targetId:String):Prop where
 mem:r∈db.requests
 live:r.status.isFinal=false
 held:(∃t,db.target? targetId=some t ∧ t.sendRequestId=some r.requestId) ∨
  ∃item∈r.items,item.targetId=targetId ∧ item.status.isTerminal=false

lemma Holds.unique {st:System}(h:Reserved st){r₁ r₂:SendRequest}{targetId:String}
 (h₁:Holds st.db r₁ targetId)(h₂:Holds st.db r₂ targetId):r₁=r₂:=by
 have holder:∀r,Holds st.db r targetId →
   ∃t,st.db.target? targetId=some t ∧ t.sendRequestId=some r.requestId:=by
  intro r holds
  rcases holds.held with held|⟨item,mem,rfl,open'⟩
  · exact held
  · have found:st.db.request? r.requestId=some r:=Tables.find?_of_mem h.ids holds.mem
    obtain ⟨t,read,held,_⟩:=h.pending _ _ r item found
     ((h.sound r holds.mem).basic.item?_of_mem mem) open'
    exact ⟨t,read,held⟩
 obtain ⟨t₁,read₁,held₁⟩:=holder r₁ h₁
 obtain ⟨t₂,read₂,held₂⟩:=holder r₂ h₂
 obtain rfl:=Option.mem_unique read₁ read₂
 exact List.inj_on_of_nodup_map h.ids h₁.mem h₂.mem (Option.mem_unique held₁ held₂)

lemma sent_le_reserved (rows:List SendRequest)(sound:∀r∈rows,Sound False r)(day:ℕ) :
 ((rows.filter (·.requestDay=day)).map SendRequest.sent).sum≤reservedOn day rows:=
 List.sum_le_sum fun r mem=>sent_le_contribution (sound r (List.mem_of_mem_filter mem))

def Separate (policy:Policy)(st:System):Step→Prop
 | .enqueueSend c at' around=>∀r targets,lookUp st.db c at' around=none →
   st.db.request? c.requestId=some r →
   checkBatch policy c at' around st.db=.ok targets → r.payload=c.targets
 | _=>True

lemma enqueueSend_error {policy:Policy}{st:System}{c:SendCommand}{at':ℕ}
 {around:Surroundings}{e:ActionError}
 (separate:Separate policy st (.enqueueSend c at' around))
 (raised:(enqueueSend policy c at' around st.db).1=.error e) :
 (enqueueSend policy c at' around st.db).2=st.db:=by
 unfold enqueueSend at raised ⊢
 split
 · rfl
 · rename_i unseen
   split
   · rfl
   · rename_i targets checked
     rw[unseen] at raised
     rw[checked] at raised
     split
     · rename_i r there
       rw[there] at raised
       dsimp only at raised
       rw[if_pos (separate r targets unseen there checked)] at raised
       cases raised
     · rename_i fresh
       rw[fresh] at raised
       dsimp only at raised
       split
       · rfl
       · rename_i free
         rw[if_neg free] at raised
         cases raised

/-- Over every interleaving, no day sends more than its quota and no target is
reserved by two requests that are not final. A reservation that raises leaves the
database as it was, as long as no insert meets an unseen request with another batch. -/
theorem reservations_are_atomic (policy:Policy)(opening:Opening)(steps:List Step) :
 (∀day,(((steps.foldl (step policy) (start opening)).db.requests.filter
   (·.requestDay=day)).map SendRequest.sent).sum≤dailySendCap) ∧
  (∀targetId r₁ r₂,Holds (steps.foldl (step policy) (start opening)).db r₁ targetId →
   Holds (steps.foldl (step policy) (start opening)).db r₂ targetId → r₁=r₂) ∧
  (Runs.Along (step policy) (Separate policy) (start opening) steps →
   ∀js c at' around e,js++[Step.enqueueSend c at' around] <+: steps →
    (enqueueSend policy c at' around (js.foldl (step policy) (start opening)).db).1 =
     .error e →
    (enqueueSend policy c at' around (js.foldl (step policy) (start opening)).db).2 =
     (js.foldl (step policy) (start opening)).db):=by
 have reserved:=run_reserved policy opening steps
 refine ⟨fun day=>?_,fun targetId r₁ r₂ h₁ h₂=>h₁.unique reserved h₂,?_⟩
 · exact (sent_le_reserved _ reserved.sound day).trans (reserved.quota day)
 · intro separate js c at' around e reached raised
   exact enqueueSend_error (separate.at reached) raised

def lateAround:Surroundings:=
 {sampleAround with missed:=true,message:=fun _=>⟨⟨"Objet","Autre","Autre"⟩,true⟩}

lemma secondRequest_named:"r2"≠"":=by decide

lemma thirdRequest_named:"r3"≠"":=by decide

def sampleReservations:List Step:=
 [.enqueueSend (sampleCommand "r1" "t1" sampleRequest_named) 0 sampleAround,
  .enqueueSend (sampleCommand "r2" "t1" secondRequest_named) 0 sampleAround,
  .enqueueSend (sampleCommand "r3" "t2" thirdRequest_named) 0 sampleAround]

lemma separate_of_absent {policy:Policy}{st:System}{c:SendCommand}{at':ℕ}
 {around:Surroundings}(absent:(st.db.request? c.requestId).isNone=true) :
 Separate policy st (.enqueueSend c at' around):=by
 intro r _ _ there
 rw[there] at absent
 cases absent

lemma sampleReservations_separate :
 Runs.Along (step samplePolicy) (Separate samplePolicy) (start sampleOpening)
  sampleReservations:=
 ⟨separate_of_absent rfl,separate_of_absent (by decide +kernel),
  separate_of_absent (by decide +kernel),trivial⟩

/-- The second batch asks for the target of the first. -/
theorem reservations_are_atomic_sample :
 ((((sampleReservations.foldl (step samplePolicy) (start sampleOpening)).db.requests.filter
   (·.requestDay=0)).map SendRequest.sent).sum≤dailySendCap) ∧
  (enqueueSend samplePolicy (sampleCommand "r2" "t1" secondRequest_named) 0 sampleAround
   ((sampleReservations.take 1).foldl (step samplePolicy) (start sampleOpening)).db).2 =
   ((sampleReservations.take 1).foldl (step samplePolicy) (start sampleOpening)).db:=by
 obtain ⟨quota,_,raising⟩:=reservations_are_atomic samplePolicy sampleOpening sampleReservations
 exact ⟨quota 0,raising sampleReservations_separate (sampleReservations.take 1)
  (sampleCommand "r2" "t1" secondRequest_named) 0 sampleAround .invalidTargetStatus ⟨_,rfl⟩ rfl⟩

theorem conflicting_reservation_rewrites_target :
 let db:=([Step.enqueueSend (sampleCommand "r1" "t1" (by decide)) 0 sampleAround].foldl
  (step samplePolicy) (start sampleOpening)).db
 let raised:=enqueueSend samplePolicy (sampleCommand "r1" "t2" (by decide)) microsecondsPerDay
  lateAround db
 raised.1=.error .sendRequestIdempotencyConflict ∧ raised.2.targets≠db.targets:=
 ⟨rfl,by decide +kernel⟩

end Kivou.ProspectReservations
