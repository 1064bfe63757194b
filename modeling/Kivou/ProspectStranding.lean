import Kivou.ProspectLeases

set_option autoImplicit false

/-! What every step keeps of the requests: each is idle, under one lease, or final. -/
namespace Kivou.ProspectStranding
open ProspectRecords ProspectDelivery ProspectWorker ProspectProcess ProspectActions ProspectRuns
open ProspectLeases

lemma before_total (a b:SendItem) : SendItem.before a b=true ∨ SendItem.before b a=true:=by
 simp only[SendItem.before,Bool.or_eq_true,Bool.and_eq_true,decide_eq_true_eq]
 omega

lemma before_trans {a b c:SendItem}(ab:SendItem.before a b=true)
 (bc:SendItem.before b c=true):SendItem.before a c=true:=by
 simp only[SendItem.before,Bool.or_eq_true,Bool.and_eq_true,decide_eq_true_eq] at ab bc ⊢
 omega

lemma before_antisymm {a b:SendItem}(ab:SendItem.before a b=true)
 (ba:SendItem.before b a=true):a.position=b.position:=by
 simp only[SendItem.before,Bool.or_eq_true,Bool.and_eq_true,decide_eq_true_eq] at ab ba
 omega

lemma exists_first {due:List SendItem}(some':due≠[]) :
 ∃item∈due,∀other∈due,SendItem.before item other=true:=by
 induction due with
 | nil=>exact absurd rfl some'
 | cons item rest ih =>
  have self:SendItem.before item item=true:=(before_total item item).elim id id
  by_cases last:rest=[]
  · subst last
    exact ⟨item,List.mem_cons_self,by simpa using self⟩
  · obtain ⟨first,mem,le⟩:=ih last
    rcases before_total item first with before|before
    · refine ⟨item,List.mem_cons_self,fun other mem'=>?_⟩
      rcases List.mem_cons.mp mem' with rfl|mem'
      · exact self
      · exact before_trans before (le other mem')
    · refine ⟨first,List.mem_cons_of_mem _ mem,fun other mem'=>?_⟩
      rcases List.mem_cons.mp mem' with rfl|mem'
      · exact before
      · exact le other mem'

lemma candidate_some {r:SendRequest}{now:ℕ}{skipped:List String}{item:SendItem}
 (h:candidate r now skipped=some item) :
 reclaimable r now=true ∧ item∈r.items ∧ itemDue r now item=true ∧
  ∀other∈r.items,itemDue r now other=true → other.targetId∉skipped →
   SendItem.before item other=true:=by
 unfold candidate at h
 split at h
 · rename_i open'
   have mem:=List.mem_of_find?_eq_some h
   have first:=List.find?_some h
   rw[List.mem_filter,Bool.and_eq_true] at mem
   rw[List.all_eq_true] at first
   refine ⟨open',mem.1,mem.2.1,fun other mem' due got=>first other ?_⟩
   exact List.mem_filter.mpr ⟨mem',by simpa[due] using got⟩
 · cases h

lemma candidate_isSome {r:SendRequest}{now:ℕ}{item:SendItem}
 (open':reclaimable r now=true)(mem:item∈r.items)(due:itemDue r now item=true) :
 (candidate r now []).isSome=true:=by
 have some':r.items.filter (fun item=>itemDue r now item&&!([]:List String).contains
   item.targetId)≠[]:=List.ne_nil_of_mem (List.mem_filter.mpr ⟨mem,by simpa using due⟩)
 obtain ⟨first,among,le⟩:=exists_first some'
 unfold candidate
 rw[if_pos open',List.find?_isSome]
 exact ⟨first,among,List.all_eq_true.mpr le⟩

/-- The query passes over no item that is due. -/
def Plain (r:SendRequest)(now:ℕ)(skipped:List String):Prop:=
 ∀item∈r.items,itemDue r now item=true→item.targetId∉skipped

section
variable {inOrder:Prop}{r claimedRow:SendRequest}{now claimedAt leaseId:ℕ}{targetId:String}
 {skipped:List String}

lemma candidate_first (h:Sound inOrder r)(ordered:inOrder)(plain:Plain r now skipped)
 {item:SendItem}(chosen:candidate r now skipped=some item)
 (open':item.status.isTerminal=false) :
 (∀other∈r.items,other.status=.running → other=item) ∧
  ∀other∈r.items,other.status.isTerminal=false→SendItem.before item other=true:=by
 obtain ⟨free,mem,due,among⟩:=candidate_some chosen
 have first:∀other∈r.items,itemDue r now other=true→SendItem.before item other=true:=
  fun other mem' dueOther=>among other mem' dueOther (plain other mem' dueOther)
 -- an item that is not due comes later than the candidate
 have later:∀other∈r.items,other.status.isTerminal=false → other.status≠.running →
   item.status≠.running→SendItem.before item other=true:=by
  intro other mem' openOther waiting mine
  by_cases dueOther:itemDue r now other=true
  · exact first other mem' dueOther
  · have soon:item.nextAttemptAt≤now:=by
     cases status:item.status <;> simp_all[itemDue,ItemStatus.isTerminal]
    have late:now<other.nextAttemptAt:=by
     cases status:other.status <;> simp_all[itemDue,ItemStatus.isTerminal]
    simp only[SendItem.before,Bool.or_eq_true,decide_eq_true_eq]
    exact .inl (by omega)
 cases h with
 | idle basic status unleased scheduled calm =>
  exact ⟨fun other mem' is=>absurd is (calm ordered other mem'),fun other mem' openOther=>
   later other mem' openOther (calm ordered other mem') (calm ordered item mem)⟩
 | busy leaseId targetId busy =>
  have expired:r.leaseExpiresAt.any (· ≤ now)=true:=by
   simpa[reclaimable,busy.running] using free
  have only:∀other∈r.items,other.status=.running → other=item:=by
   intro other mem' is
   have dueOther:itemDue r now other=true:=by simpa only[itemDue,is] using expired
   exact (busy.toBasic.eq_of_position mem mem' (before_antisymm (first other mem' dueOther)
    (busy.first ordered other mem' is item mem open'))).symm
  refine ⟨only,fun other mem' openOther=>?_⟩
  by_cases mine:item.status=.running
  · exact busy.first ordered item mem mine other mem' openOther
  · exact later other mem' openOther (fun is=>mine (only other mem' is ▸ is)) mine
 | final basic status done counted =>
  rw[done item mem] at open'
  cases open'

lemma claimLocked_held (h:Sound inOrder r)
 (claim:claimLocked r now claimedAt skipped leaseId=some (claimedRow,targetId))
 (plain:inOrder→Plain r now skipped) :
 Held inOrder leaseId targetId r claimedRow .process:=by
 have basic:=h.basic
 unfold claimLocked at claim
 split at claim
 · cases claim
 · rename_i item chosen
   obtain ⟨free,mem,due,_⟩:=candidate_some chosen
   have scheduled:r.nextAttemptAt.isSome=true:=by
    cases h with
    | idle _ _ _ scheduled=>exact scheduled
    | busy _ _ busy=>exact busy.scheduled
    | final _ status=>cases eq:r.status <;> simp_all[reclaimable,RequestStatus.isFinal,
      RequestStatus.isLive]
   split at claim
   · obtain ⟨rfl,rfl⟩:=Prod.mk.inj (Option.some.inj claim)
     split
     · rename_i past
       -- a carrier: nothing is left but the activation
       have done:Done r:=by
        have all:r.items.all (·.status.isTerminal)=true:=by
         cases status:item.status <;> simp_all[itemDue,ItemStatus.isTerminal]
        exact List.all_eq_true.mp all
       refine ⟨⟨⟨basic.nonempty,basic.reserved,basic.targets,basic.positions,basic.ordinary⟩,
        rfl,rfl,rfl,scheduled,?_,?_⟩,rfl,.inr done⟩
       · exact fun _ other mem' is=>absurd is (done.calm other mem')
       · exact fun _ other mem' is=>absurd is (done.calm other mem')
     · rename_i open'
       let run:=fun i:SendItem=>{i with status:=.running}
       have touch:Touch run:=⟨fun _=>rfl,fun _=>rfl,fun _=>rfl,fun _ h=>h⟩
       -- the item that is running now is the candidate
       have running:inOrder→∀i∈(r.setItem item.targetId run).items,i.status=.running→i=run item:=by
        intro ordered i mem' is
        obtain ⟨only,_⟩:=
         candidate_first h ordered (plain ordered) chosen (Bool.eq_false_iff.mpr open')
        obtain ⟨was,there,rfl⟩:=mem_setItem.mp mem'
        split
        · rename_i same
          rw[basic.eq_of_targetId there mem (beq_iff_eq.mp same)]
        · rename_i other
          rw[if_neg other] at is
          exact absurd (beq_iff_eq.mpr (only was there is ▸ rfl)) other
       have base:Basic (r.setItem item.targetId _):=basic.setItem touch
       refine ⟨⟨⟨base.nonempty,base.reserved,base.targets,base.positions,base.ordinary⟩,
        rfl,rfl,rfl,scheduled,?_,?_⟩,identity_setItem touch,.inl ?_⟩
       · intro ordered i mem' is
         rw[running ordered i mem' is]
       · intro ordered i mem' is other memOther openOther
         rw[running ordered i mem' is]
         obtain ⟨_,before⟩:=
          candidate_first h ordered (plain ordered) chosen (Bool.eq_false_iff.mpr open')
         obtain ⟨was,there,rfl⟩:=mem_setItem.mp memOther
         split
         · rename_i same
           rw[basic.eq_of_targetId there mem (beq_iff_eq.mp same)]
           exact (before_total _ _).elim id id
         · rename_i other
           rw[if_neg other] at openOther
           exact before was there openOther
       · have found:r.item? item.targetId=some item:=basic.item?_of_mem mem
         have read:(r.setItem item.targetId run).item? item.targetId=some (run item):=by
          rw[SendRequest.item?_setItem r item.targetId touch.targetId,found]
          rfl
         exact (congrArg (Option.any fun i=>decide (i.status=.running)) read).trans rfl
   · cases claim

end
section
variable {inOrder:Prop}{r r':SendRequest}{leaseId renewedAt:ℕ}{targetId:String}

lemma renew_eq:renew leaseId renewedAt r=r ∨ r.leaseId=some leaseId ∧
  renew leaseId renewedAt r={r with leaseExpiresAt:=some (renewedAt+lease)}:=by
 unfold renew
 split
 · rename_i leased
   exact .inr ⟨leased.2,rfl⟩
 · exact .inl rfl

lemma renew_items:(renew leaseId renewedAt r).items=r.items:=by
 rcases renew_eq with eq|⟨_,eq⟩ <;> rw[eq]

lemma renew_leaseId:(renew leaseId renewedAt r).leaseId=r.leaseId:=by
 rcases renew_eq with eq|⟨_,eq⟩ <;> rw[eq]

lemma renew_identity:identity (renew leaseId renewedAt r)=identity r:=by
 rcases renew_eq with eq|⟨_,eq⟩ <;> rw[eq]
 rfl

lemma busy_renew (h:Busy inOrder leaseId targetId r) :
 Busy inOrder leaseId targetId (renew leaseId renewedAt r):=by
 rcases renew_eq with eq|⟨_,eq⟩ <;> rw[eq]
 · exact h
 · exact ⟨⟨h.nonempty,h.reserved,h.targets,h.positions,h.ordinary⟩,h.running,h.leased,rfl,
    h.scheduled,h.only,h.first⟩

lemma finalStatus_congr (same:r'.items=r.items):r'.finalStatus=r.finalStatus:=by
 unfold SendRequest.finalStatus SendRequest.processed SendRequest.failed SendRequest.sent
 rw[same]

lemma standing_of_items {phase:Phase}(h:Standing targetId r phase)
 (same:r'.items=r.items):Standing targetId r' phase:=by
 cases phase with
 | finalizing _ status=>exact (finalStatus_congr same).trans h
 | _=>simpa only[Standing,Claimed,Done,SendRequest.item?,same] using h

variable (renewedAt) in
lemma left_sound {next:Option Phase}(left:Left inOrder leaseId targetId r r' next) :
 Sound inOrder (renew leaseId renewedAt r') ∧ identity r'=identity r ∧
  (r'.leaseId=none ∨ r'.leaseId=some leaseId):=by
 cases next with
 | none =>
  have released:Released inOrder r r':=left
  refine ⟨?_,released.same,.inl released.unleased⟩
  rcases renew_eq with eq|⟨leased,_⟩
  · rw[eq]
    exact released.sound
  · rw[released.unleased] at leased
    cases leased
 | some phase =>
  have held:Held inOrder leaseId targetId r r' phase:=left
  exact ⟨.busy leaseId targetId (busy_renew held.busy),held.same,.inr held.busy.leased⟩

end

lemma newRequest_sound {inOrder:Prop}(c:SendCommand)(at':ℕ) : Sound inOrder (newRequest c at'):=by
 have targets:(newRequest c at').items.map (·.targetId)=c.targets.map Prod.fst:=
  List.ext_getElem (by simp[newRequest]) fun _ _ _=>by simp[newRequest]
 have positions:(newRequest c at').items.map (·.position)=List.range c.targets.length:=
  List.ext_getElem (by simp[newRequest]) fun _ _ _=>by simp[newRequest]
 have queued:∀item∈(newRequest c at').items,item.status=.queued ∧ item.errorCode=none:=by
  intro item mem
  obtain ⟨position,_,rfl⟩:=List.mem_mapIdx.mp mem
  exact ⟨rfl,rfl⟩
 refine .idle ⟨?_,?_,?_,?_,?_⟩ (.inl rfl) rfl rfl ?_
 · simpa[newRequest] using c.nonempty
 · simp[newRequest]
 · rw[targets]
   exact c.distinct
 · rw[positions]
   exact List.nodup_range
 · intro item mem
   rw[(queued item mem).2]
   simp
 · intro _ item mem
   rw[(queued item mem).1]
   simp

/-- What holds between two transactions: a worker whose lease still stands finds
its request as its phase expects it. -/
structure Inv (inOrder:Prop)(st:System):Prop where
 keyed:Keyed st
 sound:∀r∈st.db.requests,Sound inOrder r
 fresh:∀r∈st.db.requests,∀leaseId,r.leaseId=some leaseId→leaseId<st.nextLease
 issued:∀leaseId w,st.workers leaseId=some w→leaseId<st.nextLease
 standing:∀leaseId w,st.workers leaseId=some w→∀r,
  st.db.request? w.requestId=some r → r.leaseId=some leaseId →
   Busy inOrder leaseId w.targetId r ∧ Standing w.targetId r w.phase

/-- How a turn leaves the request that it commits. -/
lemma Inv.left {inOrder:Prop}{st:System}(h:Inv inOrder st){leaseId:ℕ}{w:Worker}
 (held:st.workers leaseId=some w){s s':Scope}
 (opened:openGuard st.db leaseId w.requestId w.targetId=some s)
 {casefold:String→String}{o:Oracle}{p p':Provider}{next:Option Phase}
 {operations:Operations}(way:Way casefold o w s p ⟨.commit s' next,p',operations⟩) :
 Standing w.targetId s.request w.phase ∧ Left inOrder leaseId w.targetId s.request s'.request next ∧
  identity s'.request=identity s.request:=by
 obtain ⟨read,_,_,leased,item,found,_⟩:=openGuard_some opened
 obtain ⟨busy,standing⟩:=h.standing leaseId w held s.request read leased
 have left:=way_left busy standing (by rw[found];rfl) way
 exact ⟨standing,left,(left_sound 0 left).2.1⟩

lemma start_inv {inOrder:Prop}(opening:Opening):Inv inOrder (start opening):=by
 refine ⟨opening.keys,?_,?_,?_,?_⟩
 · intro r mem
   cases mem
 · intro r mem
   cases mem
 · intro leaseId w held
   cases held
 · intro leaseId w held
   cases held

lemma setWorker_some {st:System}{leaseId l:ℕ}{worker:Option Worker}{w:Worker}
 (h:(st.setWorker leaseId worker).workers l=some w) :
 l=leaseId ∧ worker=some w ∨ l≠leaseId ∧ st.workers l=some w:=by
 unfold System.setWorker at h
 dsimp only at h
 split at h
 · exact .inl ⟨‹_›,h⟩
 · exact .inr ⟨‹_›,h⟩

section
variable {inOrder:Prop}{st:System}

lemma Inv.of_requests (h:Inv inOrder st){st':System}(keyed:Keyed st')
 (requests:st'.db.requests=st.db.requests)(next:st'.nextLease=st.nextLease)
 (workers:∀leaseId w',st'.workers leaseId=some w'→∃w,st.workers leaseId=some w ∧
  w'.requestId=w.requestId ∧ w'.targetId=w.targetId ∧
  ∀r,st.db.request? w.requestId=some r→Standing w.targetId r w.phase →
   Standing w.targetId r w'.phase):Inv inOrder st':=by
 have found:∀requestId,st'.db.request? requestId=st.db.request? requestId:=by
  intro requestId
  unfold Db.request?
  rw[requests]
 refine ⟨keyed,?_,?_,?_,?_⟩
 · rw[requests]
   exact h.sound
 · rw[requests,next]
   exact h.fresh
 · intro leaseId w' held
   obtain ⟨w,was,_⟩:=workers leaseId w' held
   rw[next]
   exact h.issued leaseId w was
 · intro leaseId w' held r read leased
   obtain ⟨w,was,request,target,go⟩:=workers leaseId w' held
   rw[found,request] at read
   rw[target]
   obtain ⟨busy,standing⟩:=h.standing leaseId w was r read leased
   exact ⟨busy,go r read standing⟩

lemma Inv.committed (h:Inv inOrder st){leaseId renewedAt:ℕ}{w:Worker}{s s':Scope}
 {next:Option Phase}{operations:Operations}{p':Provider}
 (held:st.workers leaseId=some w)
 (opened:openGuard st.db leaseId w.requestId w.targetId=some s)
 (left:Left inOrder leaseId w.targetId s.request s'.request next) :
 Inv inOrder { st.setWorker leaseId (next.map (w.goOn operations)) with
  db:=closeGuard st.db leaseId renewedAt s'
  provider:=p'}:=by
 obtain ⟨read,targeted,running,leased,_⟩:=openGuard_some opened
 obtain ⟨sound,same,lease⟩:=left_sound renewedAt left
 have named:s'.request.requestId=w.requestId:=
  (congrArg Prod.fst same).trans (Db.request?_some read).2
 have renewedId:(renew leaseId renewedAt s'.request).requestId=w.requestId:=
  (congrArg Prod.fst renew_identity).trans named
 -- a row after the commit is the one the guard leaves, or another request's
 have rows:∀r∈(closeGuard st.db leaseId renewedAt s').requests,
   r=renew leaseId renewedAt s'.request ∨ r∈st.db.requests:=
  fun r mem=>(mem_setRequest mem).imp id fun other=>other.1
 refine ⟨?_,?_,?_,?_,?_⟩
 · unfold Keyed closeGuard
   rw[setTarget_keys]
   exact h.keyed
 · intro r mem
   rcases rows r mem with rfl|mem
   · exact sound
   · exact h.sound r mem
 · intro r mem l leasedTo
   rcases rows r mem with rfl|mem
   · rw[renew_leaseId] at leasedTo
     rcases lease with none' | mine
     · rw[none'] at leasedTo
       cases leasedTo
     · obtain rfl:=Option.mem_unique mine leasedTo
       exact h.issued _ w held
   · exact h.fresh r mem l leasedTo
 · intro l w' held'
   rcases setWorker_some held' with ⟨rfl,_⟩|⟨_,held'⟩
   · exact h.issued _ w held
   · exact h.issued l w' held'
 · intro l w' held' r read' leasedTo
   have found:r=renew leaseId renewedAt s'.request ∧ w'.requestId=w.requestId ∨
     st.db.request? w'.requestId=some r ∧ w'.requestId≠w.requestId:=by
    change (st.db.setRequest (renew leaseId renewedAt s'.request)).request? _=some r at read'
    rw[Db.request?_setRequest,renewedId] at read'
    split at read'
    · rename_i same
      rw[same,read] at read'
      exact .inl ⟨(Option.some.inj read').symm,same⟩
    · exact .inr ⟨read',‹_›⟩
   rcases setWorker_some held' with ⟨rfl,mine⟩|⟨other,held'⟩
   · obtain ⟨phase,rfl,rfl⟩:=Option.map_eq_some_iff.mp mine
     rcases found with ⟨rfl,_⟩|⟨_,no⟩
     · have held'':Held inOrder _ w.targetId s.request s'.request phase:=left
       exact ⟨busy_renew held''.busy,standing_of_items held''.standing renew_items⟩
     · exact absurd rfl no
   · rcases found with ⟨rfl,_⟩|⟨read',_⟩
     · rw[renew_leaseId] at leasedTo
       rcases lease with none' | mine
       · rw[none'] at leasedTo
         cases leasedTo
       · exact absurd (Option.mem_unique leasedTo mine) other
     · exact h.standing l w' held' r read' leasedTo

lemma request?_cons (request:SendRequest)(rows:List SendRequest)(requestId:String) :
 (request::rows).find? (fun r=>r.requestId==requestId) =
  if request.requestId=requestId then some request
  else rows.find? (fun r=>r.requestId==requestId):=by
 split
 · exact List.find?_cons_of_pos (beq_iff_eq.mpr ‹_›)
 · exact List.find?_cons_of_neg (by simpa using ‹_›)

lemma Inv.reserved (h:Inv inOrder st){db:Db}{request:SendRequest}
 (keyed:(db.targets.map (·.targetId)).Nodup)(requests:db.requests=request::st.db.requests)
 (sound:Sound inOrder request)(unleased:request.leaseId=none):Inv inOrder {st with db}:=by
 refine ⟨keyed,?_,?_,h.issued,?_⟩
 · intro r mem
   rw[requests] at mem
   rcases List.mem_cons.mp mem with rfl|mem
   · exact sound
   · exact h.sound r mem
 · intro r mem leaseId leased
   rw[requests] at mem
   rcases List.mem_cons.mp mem with rfl|mem
   · rw[unleased] at leased
     cases leased
   · exact h.fresh r mem leaseId leased
 · intro leaseId w held r read leased
   unfold Db.request? at read
   rw[requests,request?_cons] at read
   split at read
   · obtain rfl:=Option.some.inj read
     rw[unleased] at leased
     cases leased
   · exact h.standing leaseId w held r read leased

lemma Inv.claimed (h:Inv inOrder st){requestId targetId:String}{now claimedAt:ℕ}
 {skipped:List String}{r claimedRow:SendRequest}(found:st.db.request? requestId=some r)
 (claim:claimLocked r now claimedAt skipped st.nextLease=some (claimedRow,targetId))
 (plain:inOrder→Plain r now skipped) :
 Inv inOrder { st.setWorker st.nextLease (some (ProspectProcess.claimed requestId targetId)) with
  db:=st.db.setRequest claimedRow
  nextLease:=st.nextLease+1}:=by
 obtain ⟨mem,rfl⟩:=Db.request?_some found
 have held:=claimLocked_held (h.sound r mem) claim plain
 have id:claimedRow.requestId=r.requestId:=congrArg Prod.fst held.same
 have leased:claimedRow.leaseId=some st.nextLease:=held.busy.leased
 refine ⟨h.keyed,?_,?_,?_,?_⟩
 · intro row there
   rcases mem_setRequest there with rfl|⟨there,_⟩
   · exact .busy _ _ held.busy
   · exact h.sound row there
 · intro row there l leasedTo
   rcases mem_setRequest there with rfl|⟨there,_⟩
   · obtain rfl:=Option.mem_unique leased leasedTo
     exact Nat.lt_succ_self _
   · exact Nat.lt_succ_of_lt (h.fresh row there l leasedTo)
 · intro l w held'
   rcases setWorker_some held' with ⟨rfl,_⟩|⟨_,held'⟩
   · exact Nat.lt_succ_self _
   · exact Nat.lt_succ_of_lt (h.issued l w held')
 · intro l w held' row read leasedTo
   change (st.db.setRequest claimedRow).request? _=some row at read
   rw[Db.request?_setRequest,id] at read
   rcases setWorker_some held' with ⟨rfl,mine⟩|⟨other,held'⟩
   · obtain rfl:=Option.some.inj mine
     change (if r.requestId=r.requestId then (st.db.request? r.requestId).map _ else _) =
      some row at read
     rw[if_pos rfl,found] at read
     obtain rfl:=Option.some.inj read
     exact ⟨held.busy,held.standing⟩
   · split at read
     · rename_i same
       rw[same,found] at read
       obtain rfl:=Option.some.inj read
       exact absurd (Option.mem_unique leasedTo leased) other
     · exact h.standing l w held' row read leasedTo

/-- A claim takes the first of the due items of its request. -/
def TakesFirst (st:System):Step→Prop
 | .claim requestId now _ skipped=>∀r,st.db.request? requestId=some r→Plain r now skipped
 | _=>True

lemma step_inv (policy:Policy)(st:System)(i:Step)(h:Inv inOrder st)
 (first:inOrder→TakesFirst st i):Inv inOrder (step policy st i):=by
 have keyed:=step_keyed policy st i h.keyed
 have stepped:=step_stepped policy st h.keyed i
 generalize step policy st i=st' at keyed stepped
 -- the workers that are left are in the phases they were in
 have same:∀ {leaseId l:ℕ}{w:Worker},(st.setWorker leaseId none).workers l=some w →
   ∃was,st.workers l=some was ∧ w.requestId=was.requestId ∧ w.targetId=was.targetId ∧
    ∀r,st.db.request? was.requestId=some r→Standing was.targetId r was.phase →
     Standing was.targetId r w.phase:=by
  intro leaseId l w held
  rcases setWorker_some held with ⟨_,none'⟩|⟨_,held⟩
  · cases none'
  · exact ⟨w,held,rfl,rfl,fun _ _=>id⟩
 cases stepped with
 | kept=>exact h
 | outside _ db edited =>
  exact h.of_requests keyed edited.requests rfl fun _ w held=>⟨w,held,rfl,rfl,fun _ _=>id⟩
 | conflicted c at' around targets r _ _ _ =>
  exact h.of_requests keyed (setTargets_tables targets st.db).1 rfl
   fun _ w held=>⟨w,held,rfl,rfl,fun _ _=>id⟩
 | reserved c at' around targets _ _ _ =>exact h.reserved keyed rfl (newRequest_sound c at') rfl
 | claimed requestId now claimedAt skipped r claimedRow targetId found claim =>
  exact h.claimed found claim fun ordered=>first ordered r found
 | crashed leaseId=>exact h.of_requests keyed rfl rfl fun _ _ held=>same held
 | worked leaseId o st' worked =>
  cases worked with
  | absent=>exact h
  | stopped=>exact h.of_requests keyed rfl rfl fun _ _ held=>same held
  | dropped w s t held opened way=>exact h.of_requests keyed rfl rfl fun _ _ held=>same held
  | counted w c r status held phase found final =>
   refine h.of_requests keyed rfl rfl fun l w' held'=>?_
   rcases setWorker_some held' with ⟨rfl,mine⟩|⟨_,held'⟩
   · obtain rfl:=Option.some.inj mine
     refine ⟨w,held,rfl,rfl,fun row read _=>?_⟩
     obtain rfl:=Option.mem_unique found read
     exact final
   · exact ⟨w',held',rfl,rfl,fun _ _=>id⟩
  | turned w s t phase held opened way turn =>
   refine h.of_requests keyed rfl rfl fun l w' held'=>?_
   rcases setWorker_some held' with ⟨rfl,mine⟩|⟨_,held'⟩
   · obtain rfl:=Option.some.inj mine
     refine ⟨w,held,rfl,rfl,fun row _ standing=>?_⟩
     rcases turn with rfl|⟨declaration,rfl,_⟩ <;> exact standing.either
   · exact ⟨w',held',rfl,rfl,fun _ _=>id⟩
  | committed w s s' next p' operations held opened way =>
   exact h.committed held opened (h.left held opened way).2.1

lemma run_inv (policy:Policy){opening:Opening}{steps:List Step}
 (first:Runs.Along (step policy) TakesFirst (start opening) steps) :
 Inv True (steps.foldl (step policy) (start opening)):=
 first.invariant (Inv True) (fun st i h is=>step_inv policy st i h fun _=>is) (start_inv opening)

end

section
variable {r:SendRequest}

def Reclaimed (r:SendRequest):Prop:=∃t,∀now claimedAt leaseId,t≤now→now≤claimedAt →
  (claimLocked r now claimedAt [] leaseId).isSome=true

def EventuallyDue (r:SendRequest)(item:SendItem):Prop:=∃t,∀now,t≤now→itemDue r now item=true

lemma any_le {expires:Option ℕ}(set:expires.isSome=true) :
 ∃t,∀now,t≤now→expires.any (· ≤ now)=true:=by
 obtain ⟨t,rfl⟩:=Option.isSome_iff_exists.mp set
 exact ⟨t,fun now late=>by simpa using late⟩

lemma sound_due (h:Sound True r){item:SendItem}(mem:item∈r.items)
 (open':item.status.isTerminal=false):EventuallyDue r item:=by
 have scheduled:item.status≠.running→EventuallyDue r item:=fun waiting=>
  ⟨item.nextAttemptAt,fun now late=>by
   cases status:item.status <;> simp_all[itemDue,ItemStatus.isTerminal]⟩
 cases h with
 | idle basic status unleased _ calm=>exact scheduled (calm trivial item mem)
 | busy leaseId targetId busy =>
  by_cases running:item.status=.running
  · obtain ⟨t,due⟩:=any_le busy.expires
    exact ⟨t,fun now late=>by simpa only[itemDue,running] using due now late⟩
  · exact scheduled running
 | final basic status done counted =>
  rw[done item mem] at open'
  cases open'

lemma sound_some_due (h:Sound True r)(live:r.status.isFinal=false) :
 ∃item∈r.items,EventuallyDue r item:=by
 by_cases done:Done r
 · obtain ⟨item,mem⟩:=List.exists_mem_of_ne_nil _ h.basic.nonempty
   have scheduled:r.nextAttemptAt.isSome=true:=by
    cases h with
    | idle _ _ _ scheduled=>exact scheduled
    | busy _ _ busy=>exact busy.scheduled
    | final _ status =>
     rw[status] at live
     cases live
   obtain ⟨t,due⟩:=any_le scheduled
   have all:r.items.all (·.status.isTerminal)=true:=List.all_eq_true.mpr done
   have ordinary:=h.basic.ordinary item mem
   have past:=done item mem
   refine ⟨item,mem,t,fun now late=>?_⟩
   cases status:item.status <;> simp_all[itemDue,ItemStatus.isTerminal]
 · simp only[Done,not_forall,Bool.not_eq_true] at done
   obtain ⟨item,mem,open'⟩:=done
   exact ⟨item,mem,sound_due h mem open'⟩

lemma sound_reclaimed (h:Sound True r)(live:r.status.isFinal=false):Reclaimed r:=by
 obtain ⟨item,mem,due,isDue⟩:=sound_some_due h live
 have free:∃t,∀now claimedAt,t≤now→now≤claimedAt → reclaimable r now=true ∧
   (r.leaseId=none ∨ r.leaseExpiresAt.any (· ≤ claimedAt)=true):=by
  cases h with
  | idle _ status unleased =>
   refine ⟨0,fun now claimedAt _ _=>⟨?_,.inl unleased⟩⟩
   rcases status with status|status <;> simp[reclaimable,status]
  | busy leaseId targetId busy =>
   obtain ⟨t,expired⟩:=any_le busy.expires
   refine ⟨t,fun now claimedAt late later=>⟨?_,.inr (expired claimedAt (by omega))⟩⟩
   simp[reclaimable,busy.running,expired now late]
  | final _ status =>
   rw[status] at live
   cases live
 obtain ⟨t,free⟩:=free
 refine ⟨max t due,fun now claimedAt leaseId late later=>?_⟩
 obtain ⟨open',unleased⟩:=free now claimedAt (by omega) later
 obtain ⟨first,chosen⟩:=
  Option.isSome_iff_exists.mp (candidate_isSome open' mem (isDue now (by omega)))
 simp only[claimLocked,chosen,unleased,↓reduceIte,Option.isSome_some]

lemma sound_running (h:Sound True r)(running:r.status=.running) :
 r.items.countP (·.status=.running)≤1:=by
 cases h with
 | idle _ status=>rcases status with status|status <;> simp[running] at status
 | busy leaseId targetId busy =>
  calc r.items.countP (·.status=.running)
    ≤ r.items.countP (·.targetId==targetId):=List.countP_mono_left fun item mem is=>
      beq_iff_eq.mpr (busy.only trivial item mem (of_decide_eq_true is))
   _=(r.items.map (·.targetId)).count targetId:=by
     rw[List.count,List.countP_map]
     rfl
   _≤1:=List.nodup_iff_count_le_one.mp busy.targets targetId
 | final _ status=>simp[running,RequestStatus.isFinal,RequestStatus.isLive] at status

/-- Nothing but the expiry of its lease makes a running item due. -/
lemma candidate_none {now:ℕ}{skipped:List String}(released:r.leaseExpiresAt=none)
 {item:SendItem}(mem:item∈r.items)(running:item.status=.running)
 (rest:∀other∈r.items,other.status=.running ∨ other.status.isTerminal=true) :
 candidate r now skipped=none:=by
 have live:r.items.all (·.status.isTerminal)=false:=by
  rw[List.all_eq_false]
  exact ⟨item,mem,by simp[running,ItemStatus.isTerminal]⟩
 have none':∀other∈r.items,itemDue r now other=false:=by
  intro other mem'
  rcases rest other mem' with is|past
  · simp[itemDue,is,released]
  · cases status:other.status <;> simp_all[itemDue,ItemStatus.isTerminal]
 unfold candidate
 split
 · rw[List.find?_eq_none]
   intro other among
   have due:=(List.mem_filter.mp among).2
   rw[none' other (List.mem_of_mem_filter among)] at due
   cases due
 · rfl

end

/-- In every state reached by a run whose claims each take the first due item: a queued or waiting
request has no running item, a running one has at most one, a request that is not final is
claimed again once enough time has passed, and only a final request has no item that will be
due, all its items being finished. -/
theorem no_item_is_stranded (policy:Policy)(opening:Opening)(steps:List Step)
 (first:Runs.Along (step policy) TakesFirst (start opening) steps)
 (r:SendRequest)(mem:r∈(steps.foldl (step policy) (start opening)).db.requests) :
 (r.status=.queued ∨ r.status=.waiting→∀item∈r.items,item.status≠.running) ∧
  (r.status=.running → r.items.countP (·.status=.running)≤1) ∧
  (r.status.isFinal=false→Reclaimed r) ∧
  (∀item∈r.items,item.status.isTerminal=false→EventuallyDue r item) ∧
  (r.status.isFinal=true→Done r):=by
 have sound:=(run_inv policy first).sound r mem
 refine ⟨fun status=>?_,sound_running sound,sound_reclaimed sound,
  fun item there open'=>sound_due sound there open',fun final=>?_⟩
 · cases sound with
   | idle _ _ _ _ calm=>exact calm trivial
   | busy _ _ busy=>rcases status with status|status <;> simp[busy.running] at status
   | final _ _ done=>exact done.calm
 · cases sound with
   | idle _ status=>rcases status with status|status <;>
     simp[status,RequestStatus.isFinal,RequestStatus.isLive] at final
   | busy _ _ busy=>simp[busy.running,RequestStatus.isFinal,RequestStatus.isLive] at final
   | final _ _ done=>exact done

def sampleBatch:SendCommand where
 requestId:="r1"
 targets:=[("t1",0),("t2",0)]
 named:=sampleRequest_named
 nonempty:=by simp
 atMost:=by simp
 distinct:=by simp

/-- The first worker dies while it has `t1`, and `t2` is rejected. The second claim comes once the
lease has expired, and takes `t1` again unless it passes over it. -/
def takeover (skipped:List String):List Step:=
 [.enqueueSend sampleBatch 0 sampleAround,.claim "r1" 0 0 [],.crash 0,
  .enqueueSend (sampleCommand "r2" "t3" (by decide)) 0 sampleAround,
  .reject "t2" 0 .other 1,.claim "r1" lease lease skipped,.work 1 sampleOracle]

lemma takeover_first:∀i∈takeover [],∀st,TakesFirst st i:=by
 intro i mem st
 simp only[takeover,List.mem_cons,List.not_mem_nil,or_false] at mem
 rcases mem with rfl|rfl|rfl|rfl|rfl|rfl|rfl
 all_goals first
  | trivial
  | exact fun _ _ _ _ _=>List.not_mem_nil

theorem no_item_is_stranded_sample :
 ∃r,((takeover []).foldl (step samplePolicy) (start sampleOpening)).db.request? "r1"=some r ∧
  r.status=.running ∧ r.items.countP (·.status=.running)≤1 ∧ Reclaimed r:=by
 obtain ⟨r,found⟩:=Option.isSome_iff_exists.mp (show
  (((takeover []).foldl (step samplePolicy) (start sampleOpening)).db.request? "r1").isSome from
   by decide +kernel)
 have status:(((takeover []).foldl (step samplePolicy) (start sampleOpening)).db.request?
   "r1").map (·.status)=some .running:=by decide +kernel
 rw[found,Option.map_some,Option.some.injEq] at status
 have kept:=no_item_is_stranded samplePolicy sampleOpening (takeover [])
  (Runs.along_of_mem _ takeover_first) r (Db.request?_some found).1
 exact ⟨r,found,status,kept.2.1 status,kept.2.2.1 (by rw[status];rfl)⟩

theorem passed_over_item_is_stranded :
 ∃r,((takeover ["t1"]).foldl (step samplePolicy) (start sampleOpening)).db.request? "r1" =
  some r ∧ r.status=.waiting ∧ (∃item∈r.items,item.status=.running) ∧ ¬Reclaimed r:=by
 obtain ⟨r,found⟩:=Option.isSome_iff_exists.mp (show (((takeover ["t1"]).foldl
  (step samplePolicy) (start sampleOpening)).db.request? "r1").isSome from by decide +kernel)
 have row:(((takeover ["t1"]).foldl (step samplePolicy) (start sampleOpening)).db.request?
   "r1").map (fun r=>(r.status,r.leaseExpiresAt,r.items.map (·.status))) =
    some (.waiting,none,[.running,.failed]):=by decide +kernel
 rw[found,Option.map_some,Option.some.injEq,Prod.mk.injEq,Prod.mk.injEq] at row
 obtain ⟨status,released,items⟩:=row
 obtain ⟨item,mem,running⟩:∃item∈r.items,item.status=.running:=
  List.mem_map.mp (items ▸ List.mem_cons_self)
 have rest:∀other∈r.items,other.status=.running ∨ other.status.isTerminal=true:=by
  intro other mem'
  have among:other.status∈[ItemStatus.running,.failed]:=items ▸ List.mem_map_of_mem mem'
  rcases List.mem_pair.mp among with is|is <;> simp[is,ItemStatus.isTerminal]
 refine ⟨r,found,status,⟨item,mem,running⟩,?_⟩
 rintro ⟨t,again⟩
 have taken:=again t t 0 le_rfl le_rfl
 simp[claimLocked,candidate_none released mem running rest] at taken

end Kivou.ProspectStranding
