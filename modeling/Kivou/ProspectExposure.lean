import Kivou.ProspectBindings

set_option autoImplicit false

/-! A lead is imported with the message its target had when it was reserved. -/
namespace Kivou.ProspectExposure
open ProspectRecords ProspectDelivery ProspectWorker ProspectProcess ProspectActions ProspectRuns
open ProspectLeases ProspectStranding ProspectGuards ProspectReservations ProspectAccounting
open ProspectBindings

structure Carried (t t':Target):Prop where
 owner:t'.siren=t.siren ∧ t'.opportunityKey=t.opportunityKey
 version:t.version≤t'.version
 same:(truthy t.sendRequestId).isSome→t'.version=t.version→contact t'=contact t
 sent:t.status=.sent→t'.status=.sent ∧ contact t'=contact t

lemma Carried.refl (t:Target):Carried t t:=⟨⟨rfl,rfl⟩,le_rfl,fun _ _=>rfl,fun sent=>⟨sent,rfl⟩⟩

lemma edit_carried {i:Step}{t t':Target}(h:Edit i t t'):Carried t t':=by
 have next:t.version≤t.version+1:=Nat.le_succ _
 have newer:t.version+1≠t.version:=Nat.succ_ne_self _
 cases h with
 | same=>exact .refl t
 | approved =>
  rename_i status
  exact ⟨⟨rfl,rfl⟩,next,fun _ same=>absurd same newer,fun sent=>(by rw[status] at sent;cases sent)⟩
 | corrected =>
  rename_i changed verified message emailAddress mx status
  exact ⟨⟨rfl,rfl⟩,next,fun _ same=>absurd same newer,fun sent=>absurd sent status⟩
 | rejected =>
  rename_i reason at' status
  refine ⟨⟨rfl,rfl⟩,next,fun _ same=>absurd same newer,fun sent=>?_⟩
  rcases status with status|status <;> rw[sent] at status <;> cases status
 | regenerated =>
  rename_i message status
  refine ⟨⟨rfl,rfl⟩,next,fun _ same=>absurd same newer,fun sent=>?_⟩
  rcases status with status|status <;> rw[sent] at status <;> cases status
 | projected=>exact ⟨⟨rfl,rfl⟩,next,fun _ same=>absurd same newer,fun sent=>⟨sent,rfl⟩⟩

section
variable {policy:Policy}{db:Db}{c:SendCommand}{at':ℕ}{around:Surroundings} {targets:List Target}

lemma batch_carried {f:Target→Target}(keys:∀t,(f t).targetId=t.targetId)
 (owner:∀t,(f t).siren=t.siren ∧ (f t).opportunityKey=t.opportunityKey)
 (version:∀t,(f t).version=t.version)
 (checked:checkBatch policy c at' around db=.ok targets){targetId:String}{t:Target}
 (found:db.target? targetId=some t) :
 ∃t',(setTargets db (targets.map f)).target? targetId=some t' ∧ Carried t t':=by
 obtain ⟨_,_,prepared⟩:=checkBatch_ok checked
 rcases batch_target? keys prepared targetId with ⟨row,mem,rfl,read⟩|⟨_,same⟩
 · obtain ⟨entry,_,ready⟩:=prepared_mem prepared mem
   obtain ⟨before,reserved,_,made⟩:=ready
   obtain ⟨was,_,approved,free,_⟩:=reservable_ok reserved
   obtain rfl:=prepareTarget_ok made
   have named:before.targetId=entry.1:=(Db.target?_some was).2
   change db.target? before.targetId=some t at found
   rw[named,was] at found
   obtain rfl:=Option.some.inj found
   have kept:before.version=(f (Target.unbound (Target.rendered before
     (around.message before.targetId)))).version:=
    (version (Target.unbound (Target.rendered before (around.message before.targetId)))).symm
   refine ⟨_,read,owner _,kept.le,fun held=>?_,fun sent=>?_⟩
   · rw[free] at held
     cases held
   · rw[approved] at sent
     cases sent
 · exact ⟨t,same.trans found,.refl t⟩

end

variable {t:Target}{targetId requestId:String}{s s':Scope}

lemma contact_owner {t':Target}(same:contact t'=contact t) :
 t'.siren=t.siren ∧ t'.opportunityKey=t.opportunityKey:=
 ⟨congrArg (·.2.1) same,congrArg (·.2.2.1) same⟩

lemma guarded_carried (h:Guarded targetId s s') : Carried s.target s'.target:=by
 obtain ⟨contact',_,item,item',_,_,_,outcome⟩:=h
 have kept:review s'.target=review s.target→Carried s.target s'.target:=fun same=>
  ⟨contact_owner contact',(review_version same).ge,fun _ _=>contact',
   fun sent=>⟨(review_status same).trans sent,contact'⟩⟩
 have moved:s.target.status=.approved→s'.target.version=s.target.version+1 →
   Carried s.target s'.target:=by
  intro approved version
  refine ⟨contact_owner contact',by omega,fun _ _=>contact',fun sent=>?_⟩
  rw[approved] at sent
  cases sent
 cases outcome with
 | carried _ _ same | pending _ _ same | already _ _ _ same=>exact kept same
 | cancelled _ _ _ _ same =>
  rw[freeTarget_target] at same
  split at same
  · refine ⟨contact_owner contact',(congrArg (·.2.1) same).ge,fun _ _=>contact',
     fun sent=>⟨(congrArg Prod.fst same).trans sent,contact'⟩⟩
  · exact kept same
 | sent unchanged _ now | failed _ unchanged _ _ _ now =>
  exact moved unchanged.approved (congrArg (·.2.1) now)

lemma guarded_holder (h:Guarded targetId s s') (held:s'.target.sendRequestId=some requestId) :
 s.target.sendRequestId=some requestId:=by
 obtain ⟨_,_,item,item',_,_,_,outcome⟩:=h
 cases outcome with
 | carried _ _ same | pending _ _ same | already _ _ _ same =>
  exact (review_holder same).symm.trans held
 | cancelled _ _ _ _ same =>
  have same:=review_holder same
  rw[held,freeTarget_target] at same
  split at same
  · cases same
  · exact same.symm
 | sent _ _ now=>exact (congrArg (·.2.2) now).symm.trans held
 | failed _ _ _ _ _ now =>
  have now:s'.target.sendRequestId=none:=congrArg (·.2.2) now
  rw[held] at now
  cases now

lemma step_carried (policy:Policy){st:System}(i:Step)(h:Reserved st)
 (found:st.db.target? targetId=some t) :
 ∃t',(step policy st i).db.target? targetId=some t' ∧ Carried t t':=by
 have stepped:=step_stepped policy st h.keyed i
 generalize step policy st i=st' at stepped
 cases stepped with
 | kept | claimed | crashed=>exact ⟨t,found,.refl t⟩
 | outside _ db edited =>
  have edit:=edited.targets targetId
  rw[found] at edit
  generalize db.target? targetId=row at edit
  cases edit with
  | some edit=>exact ⟨_,rfl,edit_carried edit⟩
 | conflicted c at' around targets r checked _ _ =>
  have batch:=batch_carried (f:=fun t=>t) (fun _=>rfl) (fun _=>⟨rfl,rfl⟩) (fun _=>rfl) checked found
  rwa[List.map_id'] at batch
 | reserved c at' around targets checked _ _ =>
  exact batch_carried (f:=fun t=>{t with sendRequestId:=some c.requestId}) (fun _=>rfl)
   (fun _=>⟨rfl,rfl⟩) (fun _=>rfl) checked found
 | worked leaseId o st' worked =>
  cases worked with
  | absent | stopped | counted | dropped | turned=>exact ⟨t,found,.refl t⟩
  | committed w s s' next p' operations held opened way =>
   obtain ⟨_,targeted,_,_,item,own,_⟩:=openGuard_some opened
   have guarded:=way_guarded own (h.left held opened way).1 way
   rw[closeGuard_target? opened guarded.contact]
   split
   · rename_i same
     rw[same,targeted] at found
     obtain rfl:=Option.some.inj found
     exact ⟨s'.target,rfl,guarded_carried guarded⟩
   · exact ⟨t,found,.refl t⟩

structure Advanced (db db':Db)(targetId:String)(item item':SendItem):Prop where
 expected:item'.expectedVersion=item.expectedVersion
 live:item'.status.isTerminal=false→item.status.isTerminal=false
 sent:item'.status=.sent→item.status=.sent ∨ item.status.isTerminal=false ∧
  ∃t t',db.target? targetId=some t ∧ db'.target? targetId=some t' ∧
   t.version=item.expectedVersion ∧ t'.status=.sent ∧ contact t'=contact t

lemma Advanced.refl (db db':Db)(targetId:String)(item:SendItem) :
 Advanced db db' targetId item item:=
 ⟨rfl,id,.inl⟩

structure Continued (db db':Db)(r r':SendRequest):Prop where
 same:identity r'=identity r
 final:r.status.isFinal=true → r'.status.isFinal=true
 receipts:∀key,(receipt r key).isSome=true→(receipt r' key).isSome=true
 items:∀targetId item,r.item? targetId=some item →
  ∃item',r'.item? targetId=some item' ∧ Advanced db db' targetId item item'

lemma Continued.refl (db db':Db)(r:SendRequest):Continued db db' r r:=
 ⟨rfl,id,fun _=>id,fun targetId item found=>⟨item,found,.refl db db' targetId item⟩⟩

lemma guarded_advanced {db:Db}{leaseId renewedAt:ℕ}{item:SendItem}(pending:Pending db)
 (opened:openGuard db leaseId requestId targetId=some s)
 (found:s.request.item? targetId=some item)(guarded:Guarded targetId s s') :
 ∃item',s'.request.item? targetId=some item' ∧
  Advanced db (closeGuard db leaseId renewedAt s') targetId item item':=by
 obtain ⟨requested,targeted,_⟩:=openGuard_some opened
 have written:(closeGuard db leaseId renewedAt s').target? targetId=some s'.target:=by
  rw[closeGuard_target? opened guarded.contact,if_pos rfl]
 obtain ⟨contact',_,was,item',own,own',version,outcome⟩:=guarded
 obtain rfl:=Option.mem_unique found own
 refine ⟨item',own',version,?_,?_⟩
 · intro live
   cases outcome with
   | carried _ same _ =>
    rw[←show item'.status=item.status from congrArg Prod.fst same]
    exact live
   | pending unchanged _ _=>exact unchanged.live
   | already _ _ sent _ | sent _ sent _ =>
    rw[sent] at live
    cases live
   | cancelled _ _ failed _ _ | failed _ _ failed _ _ _ =>
    rw[failed] at live
    cases live
 · intro sent
   cases outcome with
   | carried _ same _=>exact .inl ((congrArg Prod.fst same).symm.trans sent)
   | pending _ open' _ =>
    rw[sent] at open'
    cases open'
   | already running before _ _ =>
    have live:item.status.isTerminal=false:=by
     rw[running]
     rfl
    obtain ⟨t,read,_,unsent⟩:=pending requestId targetId s.request item requested found live
    obtain rfl:=Option.mem_unique targeted read
    exact absurd before unsent
   | cancelled _ _ failed _ _ | failed _ _ failed _ _ _ =>
    rw[sent] at failed
    cases failed
   | sent unchanged _ now =>
    exact .inr ⟨unchanged.live,s.target,s'.target,targeted,written,unchanged.version,
     congrArg Prod.fst now,contact'⟩

lemma step_continued (policy:Policy){st:System}(i:Step)(h:Reserved st){r:SendRequest}
 (found:st.db.request? requestId=some r) :
 ∃r',(step policy st i).db.request? requestId=some r' ∧
  Continued st.db (step policy st i).db r r':=by
 have stepped:=step_stepped policy st h.keyed i
 generalize step policy st i=st' at stepped
 cases stepped with
 | kept | crashed=>exact ⟨r,found,.refl _ _ r⟩
 | outside _ db edited =>
  refine ⟨r,?_,.refl _ _ r⟩
  rw[←found,Db.request?,Db.request?,edited.requests]
 | conflicted c at' around targets _ _ _ _ =>
  refine ⟨r,?_,.refl _ _ r⟩
  rw[←found,Db.request?,Db.request?,(setTargets_tables targets st.db).1]
 | reserved c at' around targets _ fresh _ =>
  refine ⟨r,(request?_cons (newRequest c at') st.db.requests requestId).trans ?_,.refl _ _ r⟩
  split
  · rename_i same
    have fresh:st.db.request? requestId=none:=same ▸ fresh
    rw[found] at fresh
    cases fresh
  · exact found
 | claimed requestId' now claimedAt skipped row claimedRow targetId read claim =>
  change ∃r',(st.db.setRequest claimedRow).request? requestId=some r' ∧ _
  have sound:=h.sound row (Db.request?_some read).1
  have same:=(claimLocked_held sound claim False.elim).same
  have id:claimedRow.requestId=requestId':=(congrArg Prod.fst same).trans (Db.request?_some read).2
  rw[Db.request?_setRequest,id]
  split
  · rename_i eq
    subst eq
    rw[read] at found
    obtain rfl:=Option.some.inj found
    refine ⟨claimedRow,by rw[read];rfl,same,fun final=>?_,?_,fun other item own=>?_⟩
    · rw[claimLocked_open claim] at final
      cases final
    · intro key declared
      rwa[receipt,(claimLocked_result claim).1]
    · have there:(claimedRow.item? other).isSome=true:=by
       rw[item?_isSome,identity_items same,←item?_isSome,own]
       rfl
      obtain ⟨item',own'⟩:=Option.isSome_iff_exists.mp there
      obtain ⟨was,own'',kept,past,same'⟩:=claimLocked_item? sound claim other item' own'
      obtain rfl:=Option.mem_unique own own''
      refine ⟨item',own',congrArg (·.2.2.2) kept,fun live=>past.symm.trans live,fun sent=>.inl ?_⟩
      rw[sent] at past
      rw[same' past.symm] at sent
      exact sent
  · exact ⟨r,found,.refl _ _ r⟩
 | worked leaseId o st' worked =>
  cases worked with
  | absent | stopped | counted | dropped | turned=>exact ⟨r,found,.refl _ _ r⟩
  | committed w s s' next p' operations held opened way =>
   obtain ⟨requested,_,running,_,item,own,_⟩:=openGuard_some opened
   obtain ⟨standing,_,same⟩:=h.left held opened way
   have guarded:=way_guarded own standing way
   have accounted:=way_accounted way
   rw[closeGuard_request? opened (congrArg Prod.fst same)]
   split
   · rename_i eq
     rw[eq,requested] at found
     obtain rfl:=Option.some.inj found
     refine ⟨_,rfl,renew_identity.trans same,fun final=>?_,fun key declared=>?_,
      fun other item' found'=>?_⟩
     · rw[running] at final
       cases final
     · rw[receipt,renew_result]
       exact accounted_grows accounted declared
     · rw[item?_congr renew_items]
       by_cases mine:other=w.targetId
       · subst mine
         exact guarded_advanced h.pending opened found' guarded
       · exact ⟨item',(guarded.others other mine).trans found',.refl _ _ other item'⟩
   · exact ⟨r,found,.refl _ _ r⟩

def SameMessage (t:Target)(l:Lead):Prop:=t.mail=l.mail ∧ t.emailAddress=l.email

lemma SameMessage.of_contact {t':Target}{l:Lead}(h:SameMessage t l)
 (same:contact t'=contact t):SameMessage t' l:=
 ⟨(congrArg (·.2.2.2.2.1) same).trans h.1,(congrArg (·.2.2.2.1) same).trans h.2⟩

/-- A lead has an item and a declared import. It has the message of its target, for
as long as the item can still be sent and from when it is. -/
def Delivered (db:Db)(l:Lead):Prop:=
 ∃r item t,db.request? l.requestId=some r ∧ r.item? l.targetId=some item ∧
  db.target? l.targetId=some t ∧ (receipt r (.leadImport l.targetId)).isSome=true ∧
  (item.status.isTerminal=false→item.expectedVersion≤t.version ∧
   (t.version=item.expectedVersion→SameMessage t l)) ∧
  (item.status=.sent→t.status=.sent ∧ SameMessage t l)

def Pictured (db:Db)(w:Worker)(r:SendRequest):Prop:=
 ∀c,(w.phase=.campaign c ∨ ∃campaignId,w.phase=.lead c campaignId) →
  ∃item t,r.item? w.targetId=some item ∧ db.target? w.targetId=some t ∧
   c.target.version=item.expectedVersion ∧ c.target.version≤t.version ∧
   (t.version=c.target.version→contact t=contact c.target)

structure Informed (db:Db)(w:Worker)(r:SendRequest):Prop where
 facts:Facts w.targetId r w.phase
 permitted:w.phase≠.retrying→Permitted w.operations r
 pictured:Pictured db w r

structure Exposed (st:System) extends Reserved st where
 named:∀requestId r,st.db.request? requestId=some r → requestId≠""
 bound:∀targetId t requestId,st.db.target? targetId=some t →
  t.sendRequestId=some requestId→∃r,st.db.request? requestId=some r ∧ Bound r t
 traced:∀requestId r,st.db.request? requestId=some r→Traced r
 promised:∀requestId r targetId item,st.db.request? requestId=some r →
  r.item? targetId=some item→∃t,st.db.target? targetId=some t ∧
   PythonValues.strip t.opportunityKey≠""
 informed:∀leaseId w r,st.workers leaseId=some w →
  st.db.request? w.requestId=some r → r.leaseId=some leaseId→Informed st.db w r
 leads:∀l∈st.provider.leads,Delivered st.db l

lemma start_exposed (opening:Opening):Exposed (start opening):=by
 refine ⟨start_reserved opening,?_,?_,?_,?_,?_,?_⟩
 · intro requestId r found
   cases found
 · intro targetId t requestId found held
   rw[opening.unreserved t (Db.target?_some found).1] at held
   cases held
 · intro requestId r found
   cases found
 · intro requestId r targetId item found
   cases found
 · intro leaseId w r held
   cases held
 · intro l mem
   cases mem

section
variable {st:System}

lemma Exposed.holds (h:Exposed st){requestId targetId:String}{r:SendRequest}
 {item:SendItem}{t:Target}(found:st.db.request? requestId=some r)
 (own:r.item? targetId=some item)(live:item.status.isTerminal=false)
 (read:st.db.target? targetId=some t) :
 t.sendRequestId=some requestId ∧ (truthy t.sendRequestId).isSome=true ∧ t.status≠.sent:=by
 obtain ⟨row,there,held,unsent⟩:=h.pending requestId targetId r item found own live
 obtain rfl:=Option.mem_unique read there
 refine ⟨held,?_,unsent⟩
 rw[held,truthy_named (h.named requestId r found)]
 rfl

lemma Exposed.delivered (h:Exposed st)(policy:Policy)(i:Step){l:Lead}
 (delivered:Delivered st.db l):Delivered (step policy st i).db l:=by
 obtain ⟨r,item,t,found,own,read,declared,pending,sent⟩:=delivered
 obtain ⟨r',found',continued⟩:=step_continued policy i h.toReserved found
 obtain ⟨t',read',carried⟩:=step_carried policy i h.toReserved read
 obtain ⟨item',own',advanced⟩:=continued.items l.targetId item own
 refine ⟨r',item',t',found',own',read',continued.receipts _ declared,fun live=>?_,fun past=>?_⟩
 · have live:=advanced.live live
   obtain ⟨_,held,_⟩:=h.holds found own live read
   obtain ⟨le,same⟩:=pending live
   have later:=carried.version
   rw[advanced.expected]
   refine ⟨le.trans later,fun version=>?_⟩
   have unmoved:t.version=item.expectedVersion:=by omega
   exact (same unmoved).of_contact (carried.same held (version.trans unmoved.symm))
 · rcases advanced.sent past with was|⟨live,row,row',there,there',version,status,contact'⟩
   · obtain ⟨status,message⟩:=sent was
     obtain ⟨status',contact'⟩:=carried.sent status
     exact ⟨status',message.of_contact contact'⟩
   · obtain rfl:=Option.mem_unique read there
     obtain rfl:=Option.mem_unique read' there'
     exact ⟨status,((pending live).2 version).of_contact contact'⟩

lemma effect_delivered (h:Exposed st){policy:Policy}{leaseId:ℕ}{o:Oracle}{w:Worker}
 {s s':Scope}{p':Provider}(held:st.workers leaseId=some w)
 (opened:openGuard st.db leaseId w.requestId w.targetId=some s)
 (reached:Reached w.targetId o.now s s')
 (effect:Effect policy.casefold o w s' st.provider p') :
 ∀l∈p'.leads,Delivered st.db l:=by
 cases effect with
 | nothing | campaign | activation=>exact h.leads
 | lead c campaignId listed permitted phase unlisted allowed permit current =>
  intro l mem
  rcases List.mem_cons.mp mem with rfl|mem
  · obtain ⟨found,read,_,leased,item,own,_⟩:=openGuard_some opened
    have standing:=(h.standing leaseId w held s.request found leased).2
    have informed:=h.informed leaseId w s.request held found leased
    obtain ⟨was,t,own',read',version,le,same⟩:=informed.pictured c (.inr ⟨campaignId,phase⟩)
    obtain rfl:=Option.mem_unique own own'
    obtain rfl:=Option.mem_unique read read'
    have id:s'.request.requestId=w.requestId:=(congrArg Prod.fst (books_of_reached reached)).trans
      (Db.request?_some found).2
    rw[phase] at standing
    have live:item.status.isTerminal=false:=Claimed.live standing own
    -- the import was declared
    have declared:(receipt s.request (.leadImport w.targetId)).isSome=true:=by
     refine informed.permitted (by rw[phase];exact Phase.noConfusion) w.targetId ?_
     have ready:=(requireMutation_done permit).1
     rwa[scan_permits unlisted] at ready
    -- the target has the version that was reserved
    have unmoved:s.target.version=item.expectedVersion:=by
     rcases reached with rfl|checked
     · exact (current item own live).2.2
     · exact (goOn_working own live checked).1.version
    have message:SameMessage s.target ⟨o.newId,campaignId,c.target.emailAddress,
      c.target.mail,s'.request.requestId,w.targetId⟩:=by
     have picture:=same (unmoved.trans version.symm)
     exact ⟨congrArg (·.2.2.2.2.1) picture,congrArg (·.2.2.2.1) picture⟩
    refine ⟨s.request,item,s.target,id.symm ▸ found,own,read,declared,
     fun _=>⟨unmoved.ge,fun _=>message⟩,fun past=>?_⟩
    rw[past] at live
    cases live
  · exact h.leads l mem

end

section
variable {st:System}{policy:Policy}

variable {requestId targetId:String}{db:Db}{r:SendRequest}{leaseId:ℕ}{s:Scope} {t:Target}{w:Worker}

lemma step_request (h:Reserved st){i:Step}{r':SendRequest}
 (found:(step policy st i).db.request? requestId=some r') :
 (∃r,st.db.request? requestId=some r ∧ Continued st.db (step policy st i).db r r') ∨
  ∃c at' around targets,i=.enqueueSend c at' around ∧ requestId=c.requestId ∧
   r'=newRequest c at' ∧ checkBatch policy c at' around st.db=.ok targets ∧
   (∀t∈targets,t.sendRequestId=none) ∧
   (step policy st i).db.targets=(setTargets st.db (targets.map fun t=>{t with
    sendRequestId:=some c.requestId})).targets:=by
 cases before:st.db.request? requestId with
 | some r =>
  obtain ⟨r'',found'',continued⟩:=step_continued policy i h before
  obtain rfl:=Option.mem_unique found found''
  exact .inl ⟨r,rfl,continued⟩
 | none =>
  have absent:∀db:Db,db.requests=st.db.requests→db.request? requestId=none:=by
   intro db same
   rw[←before,Db.request?,Db.request?,same]
  have stepped:=step_stepped policy st h.keyed i
  generalize step policy st i=st' at found stepped ⊢
  cases stepped with
  | kept | crashed=>cases before.symm.trans found
  | outside _ db edited=>cases (absent db edited.requests).symm.trans found
  | conflicted c at' around targets r _ _ _ =>
   cases (absent _ (setTargets_tables targets st.db).1).symm.trans found
  | reserved c at' around targets checked fresh free =>
   have found:=(request?_cons (newRequest c at') st.db.requests requestId).symm.trans found
   split at found
   · rename_i same
     obtain rfl:=Option.some.inj found
     exact .inr ⟨c,at',around,targets,rfl,same.symm,rfl,checked,free,rfl⟩
   · cases before.symm.trans found
  | claimed requestId' now claimedAt skipped r claimedRow targetId read claim =>
   change (st.db.setRequest claimedRow).request? requestId=some r' at found
   rw[Db.request?_setRequest,before] at found
   split at found <;> cases found
  | worked leaseId o st' worked =>
   cases worked with
   | absent | stopped | counted | dropped | turned=>cases before.symm.trans found
   | committed w s s' next p' operations held opened way =>
    change (st.db.setRequest (renew leaseId o.renewedAt s'.request)).request? requestId =
     some r' at found
    rw[Db.request?_setRequest,before] at found
    split at found <;> cases found

lemma item?_of_continued {db':Db}{r':SendRequest}(h:Continued db db' r r')
 {item':SendItem}(own:r'.item? targetId=some item') :
 ∃item,r.item? targetId=some item ∧ Advanced db db' targetId item item':=by
 have there:(r.item? targetId).isSome=true:=by
  rw[item?_isSome,←identity_items h.same,←item?_isSome,own]
  rfl
 obtain ⟨item,found⟩:=Option.isSome_iff_exists.mp there
 obtain ⟨item'',own',advanced⟩:=h.items targetId item found
 obtain rfl:=Option.mem_unique own own'
 exact ⟨item,found,advanced⟩

lemma step_named (h:Exposed st)(i:Step)
 (found:(step policy st i).db.request? requestId=some r):requestId≠"":=by
 rcases step_request h.toReserved found with ⟨before,was,_⟩|⟨c,_,_,_,_,rfl,_⟩
 · exact h.named requestId before was
 · exact c.named

lemma step_promised (h:Exposed st)(i:Step)
 {item:SendItem}(found:(step policy st i).db.request? requestId=some r)
 (own:r.item? targetId=some item) :
 ∃t,(step policy st i).db.target? targetId=some t ∧ PythonValues.strip t.opportunityKey≠"":=by
 rcases step_request h.toReserved found with ⟨before,was,continued⟩ |
  ⟨c,at',around,targets,_,_,rfl,checked,_,rows⟩
 · obtain ⟨item₀,own₀,_⟩:=item?_of_continued continued own
   obtain ⟨t,read,promised⟩:=h.promised requestId before targetId item₀ was own₀
   obtain ⟨t',read',carried⟩:=step_carried policy i h.toReserved read
   exact ⟨t',read',by rw[carried.owner.2];exact promised⟩
 · have listed:targetId∈c.targets.map Prod.fst:=by
    obtain ⟨mem,id⟩:=SendRequest.item?_some own
    obtain ⟨position,inside,rfl⟩:=List.mem_mapIdx.mp mem
    exact List.mem_map.mpr ⟨_,List.getElem_mem inside,id⟩
   obtain ⟨_,_,prepared⟩:=checkBatch_ok checked
   rw[target?_congr rows]
   rcases batch_target? (f:=fun t=>{t with sendRequestId:=some c.requestId})
    (fun _=>rfl) prepared targetId with ⟨t,mem,_,read⟩ | ⟨absent,_⟩
   · obtain ⟨entry,_,before,reserved,_,made⟩:=prepared_mem prepared mem
     obtain rfl:=prepareTarget_ok made
     exact ⟨_,read,(reservable_ok reserved).2.2.2.2⟩
   · exact absurd listed absent

lemma renew_campaign {renewedAt:ℕ} :
 (renew leaseId renewedAt r).providerCampaignId=r.providerCampaignId:=by
 rcases renew_eq with eq|⟨_,eq⟩ <;> rw[eq]

lemma renew_traced (h:Traced r)(leaseId renewedAt:ℕ) : Traced (renew leaseId renewedAt r):=by
 rcases renew_eq (r:=r) with eq|⟨_,eq⟩ <;> rw[eq]
 · exact h
 · exact ⟨h.intents,h.items⟩

lemma claimLocked_traced {claimedRow:SendRequest}{now claimedAt:ℕ}(h:Traced r)
 {skipped:List String}(sound:Sound False r)
 (claim:claimLocked r now claimedAt skipped leaseId=some (claimedRow,targetId)) :
 Traced claimedRow:=by
 obtain ⟨result,campaign⟩:=claimLocked_result claim
 refine ⟨?_,fun other item' own'=>?_⟩
 · unfold receipt
   rw[result,campaign]
   exact h.intents
 · obtain ⟨item,own,kept,past,same⟩:=claimLocked_item? sound claim other item' own'
   have before:=h.items other item own
   unfold receipt at before ⊢
   rw[result,campaign]
   cases live:item.status.isTerminal with
   | true =>
    rw[same live]
    exact before
   | false =>
    refine sourced_of_open (live_ne_failed (past.trans live)) fun named=>before.named ?_
    rwa[←show item'.instantlyId=item.instantlyId from congrArg (·.2.2.1) kept]

lemma Exposed.coherent (h:Exposed st)
 (opened:openGuard st.db leaseId requestId targetId=some s):Coherent targetId s s:=by
 obtain ⟨requested,targeted,_⟩:=openGuard_some opened
 have id:=(Db.request?_some requested).2
 refine ⟨h.traced _ _ requested,fun held=>?_,fun _=>rfl,fun _ _ _=>rfl,
  fun item found live=>(h.holds requested found live targeted).2.2⟩
 obtain ⟨r,found,bound⟩:=h.bound targetId s.target s.request.requestId targeted held
 rw[id,requested] at found
 obtain rfl:=Option.some.inj found
 exact bound held

lemma step_traced (h:Exposed st)(i:Step)
 (found:(step policy st i).db.request? requestId=some r):Traced r:=by
 have stepped:=step_stepped policy st h.keyed i
 generalize step policy st i=st' at found stepped
 cases stepped with
 | kept | crashed=>exact h.traced requestId r found
 | outside _ db edited =>
  refine h.traced requestId r ?_
  rw[←found,Db.request?,Db.request?,edited.requests]
 | conflicted c at' around targets _ _ _ _ =>
  refine h.traced requestId r ?_
  rw[←found,Db.request?,Db.request?,(setTargets_tables targets st.db).1]
 | reserved c at' around targets _ _ _ =>
  have found:=(request?_cons (newRequest c at') st.db.requests requestId).symm.trans found
  split at found
  · obtain rfl:=Option.some.inj found
    refine ⟨fun _ _ declared=>(by cases declared),fun targetId item own=>?_⟩
    obtain ⟨position,inside,rfl⟩:=List.mem_mapIdx.mp (SendRequest.item?_some own).1
    exact sourced_of_open (by simp) fun named=>(by cases named)
  · exact h.traced requestId r found
 | claimed requestId' now claimedAt skipped row claimedRow targetId read claim =>
  change (st.db.setRequest claimedRow).request? requestId=some r at found
  rw[Db.request?_setRequest] at found
  split at found
  · obtain ⟨_,_,rfl⟩:=Option.map_eq_some_iff.mp found
    exact claimLocked_traced (h.traced _ _ read) (h.sound row (Db.request?_some read).1) claim
  · exact h.traced requestId r found
 | worked leaseId o st' worked =>
  cases worked with
  | absent | stopped | counted | dropped | turned=>exact h.traced requestId r found
  | committed w s s' next p' operations held opened way =>
   obtain ⟨requested,_,_,leased,item,own,_⟩:=openGuard_some opened
   obtain ⟨standing,_,same⟩:=h.left held opened way
   have informed:=h.informed leaseId w s.request held requested leased
   rw[closeGuard_request? opened (congrArg Prod.fst same)] at found
   split at found
   · obtain rfl:=Option.some.inj found
     exact renew_traced
      (way_coherent (h.coherent opened) own standing informed.facts way).traced _ _
   · exact h.traced requestId r found

lemma edit_binding {i:Step}{t':Target}(h:Edit i t t') :
 t'.sendRequestId=t.sendRequestId ∧ (t'.providerCampaignId=t.providerCampaignId ∨
  t'.providerCampaignId=none):=by
 cases h with
 | same | approved | projected=>exact ⟨rfl,.inl rfl⟩
 | corrected | rejected | regenerated=>exact ⟨rfl,.inr rfl⟩

lemma bound_none (none':t.providerCampaignId=none) :
 Bound r t:=by
 intro _ campaignId known
 rw[none'] at known
 cases known

lemma batch_bound {c:SendCommand}{at':ℕ}{around:Surroundings}{targets:List Target}
 (checked:checkBatch policy c at' around st.db=.ok targets)(mem:t∈targets) :
 t.providerCampaignId=none ∧ ∃before,st.db.target? t.targetId=some before ∧
  t.sendRequestId=before.sendRequestId:=by
 obtain ⟨_,_,prepared⟩:=checkBatch_ok checked
 obtain ⟨entry,_,before,reserved,_,made⟩:=prepared_mem prepared mem
 obtain rfl:=prepareTarget_ok made
 have was:=(reservable_ok reserved).1
 refine ⟨rfl,before,?_,rfl⟩
 change st.db.target? before.targetId=some before
 rw[(Db.target?_some was).2]
 exact was

lemma step_bound (h:Exposed st)(i:Step) (read:(step policy st i).db.target? targetId=some t)
 (held:t.sendRequestId=some requestId) :
 ∃r,(step policy st i).db.request? requestId=some r ∧ Bound r t:=by
 have stepped:=step_stepped policy st h.keyed i
 generalize step policy st i=st' at read stepped ⊢
 cases stepped with
 | kept | crashed=>exact h.bound targetId t requestId read held
 | outside _ db edited =>
  have edit:=edited.targets targetId
  rw[read] at edit
  generalize before:st.db.target? targetId=row at edit
  cases edit with
  | some edit =>
   obtain ⟨holder,campaign⟩:=edit_binding edit
   obtain ⟨r,found,bound⟩:=h.bound targetId _ requestId before (holder.symm.trans held)
   refine ⟨r,?_,fun own other known=>?_⟩
   · rw[←found,Db.request?,Db.request?,edited.requests]
   · rcases campaign with same|none'
     · exact bound (holder.symm.trans own) other (by rw[←same];exact known)
     · exact bound_none none' own other known
 | conflicted c at' around targets r checked _ _ =>
  have same:∀r,st.db.request? requestId=some r →
    (setTargets st.db targets).request? requestId=some r:=by
   intro r found
   rw[←found,Db.request?,Db.request?,(setTargets_tables targets st.db).1]
  obtain ⟨_,_,prepared⟩:=checkBatch_ok checked
  have batch:=batch_target? (f:=id) (fun _=>rfl) prepared targetId
  rw[List.map_id] at batch
  rcases batch with ⟨row,mem,id,there⟩|⟨_,kept⟩
  · obtain rfl:=Option.mem_unique there read
    obtain ⟨none',before,was,holder⟩:=batch_bound checked mem
    obtain ⟨r,found,_⟩:=h.bound row.targetId before requestId was (holder.symm.trans held)
    exact ⟨r,same r found,bound_none none'⟩
  · obtain ⟨r,found,bound⟩:=h.bound targetId t requestId (kept.symm.trans read) held
    exact ⟨r,same r found,bound⟩
 | reserved c at' around targets checked fresh free =>
  have rows:=request?_cons (newRequest c at') st.db.requests requestId
  obtain ⟨_,_,prepared⟩:=checkBatch_ok checked
  rcases batch_target? (f:=fun t=>{t with sendRequestId:=some c.requestId})
   (fun _=>rfl) prepared targetId with ⟨row,mem,_,there⟩ | ⟨_,kept⟩
  · obtain rfl:=Option.mem_unique there read
    obtain rfl:=Option.some.inj held
    exact ⟨_,rows.trans (if_pos rfl),bound_none (batch_bound checked mem).1⟩
  · obtain ⟨r,found,bound⟩:=h.bound targetId t requestId (kept.symm.trans read) held
    refine ⟨r,rows.trans ((if_neg fun same=>?_).trans found),bound⟩
    have fresh:st.db.request? requestId=none:=same ▸ fresh
    rw[found] at fresh
    cases fresh
 | claimed requestId' now claimedAt skipped row claimedRow target found' claim =>
  obtain ⟨r,found,bound⟩:=h.bound targetId t requestId read held
  change ∃r,(st.db.setRequest claimedRow).request? requestId=some r ∧ _
  have same:=(claimLocked_held (h.sound row (Db.request?_some found').1) claim False.elim).same
  have id:claimedRow.requestId=row.requestId:=congrArg Prod.fst same
  rw[Db.request?_setRequest,id,(Db.request?_some found').2]
  split
  · rename_i eq
    subst eq
    obtain rfl:=Option.mem_unique found' found
    refine ⟨claimedRow,by rw[found];rfl,fun own other known=>?_⟩
    rw[(claimLocked_result claim).2]
    exact bound (by rw[own,id]) other known
  · exact ⟨r,found,bound⟩
 | worked leaseId o st' worked =>
  cases worked with
  | absent | stopped | counted | dropped | turned=>exact h.bound targetId t requestId read held
  | committed w s s' next p' operations holder opened way =>
   obtain ⟨requested,targeted,_,leased,item,own,_⟩:=openGuard_some opened
   obtain ⟨standing,_,left⟩:=h.left holder opened way
   have informed:=h.informed leaseId w s.request holder requested leased
   have guarded:=way_guarded own standing way
   have coherent:=way_coherent (h.coherent opened) own standing informed.facts way
   have id:s'.request.requestId=w.requestId:=
    (congrArg Prod.fst left).trans (Db.request?_some requested).2
   have renewed:(renew leaseId o.renewedAt s'.request).requestId=s'.request.requestId:=
    congrArg Prod.fst renew_identity
   rw[closeGuard_request? opened (congrArg Prod.fst left)]
   rw[closeGuard_target? opened guarded.contact] at read
   split at read
   · -- the target of the guard
     obtain rfl:=Option.some.inj read
     split
     · refine ⟨_,rfl,fun is other known=>?_⟩
       rw[renew_campaign]
       exact coherent.bound (by rw[is,renewed]) other known
     · rename_i _ foreign
       have kept:=coherent.foreign requestId held fun is=>foreign (is.trans id)
       have before:=guarded_holder guarded held
       obtain ⟨r,found,bound⟩:=h.bound w.targetId s.target requestId targeted before
       refine ⟨r,found,fun _ other known=>bound ?_ other (by rw[←kept];exact known)⟩
       rw[before,(Db.request?_some found).2]
   · -- another target, maybe of the same request
     obtain ⟨r,found,bound⟩:=h.bound targetId t requestId read held
     split
     · rename_i mine
       subst mine
       obtain rfl:=Option.mem_unique requested found
       refine ⟨_,rfl,fun _ other known=>?_⟩
       have was:=bound (by rw[held,(Db.request?_some found).2]) other known
       rw[renew_campaign,coherent.campaign (by rw[was];rfl)]
       exact was
     · exact ⟨r,found,bound⟩

lemma leadPhase_snapshot {c c':Snapshot}{campaignId:String}
 (h:leadPhase c campaignId=.campaign c' ∨ ∃id,leadPhase c campaignId=.lead c' id) :
 c'=c:=by
 unfold leadPhase at h
 split at h
 · rcases h with h|⟨id,h⟩
   · cases h
   · injection h with same
     exact same.symm
 · rcases h with h|⟨id,h⟩ <;> cases h

lemma route_snapshot {c c':Snapshot} (h:route c=.campaign c' ∨ ∃id,route c=.lead c' id) :
 c'=c ∧ c.item.status.isTerminal=false:=by
 unfold route at h
 split at h
 · rcases h with h|⟨id,h⟩ <;> cases h
 · rename_i live
   refine ⟨?_,Bool.eq_false_iff.mpr live⟩
   split at h
   · rcases h with h|⟨id,h⟩ <;> cases h
   · split at h
     · rcases h with h|⟨id,h⟩
       · injection h with same
         exact same.symm
       · cases h
     · exact leadPhase_snapshot h

lemma way_pictured {o:Oracle}{s':Scope}{p p':Provider} {next:Phase}{operations:Operations}
 (opened:openGuard st.db leaseId w.requestId w.targetId=some s)
 (pictured:Pictured st.db w s.request)(guarded:Guarded w.targetId s s')
 (way:Way policy.casefold o w s p ⟨.commit s' (some next),p',operations⟩)(c:Snapshot)
 (goes:next=.campaign c ∨ ∃campaignId,next=.lead c campaignId) :
 ∃item,s'.request.item? w.targetId=some item ∧ c.target.version=item.expectedVersion ∧
  c.target.version ≤ s'.target.version ∧
  (s'.target.version=c.target.version→contact s'.target=contact c.target):=by
 have targeted:=(openGuard_some opened).2.1
 generalize turn:(⟨.commit s' (some next),p',operations⟩:Turn)=t at way
 cases way with
 | completed | retried | declared | vanished | pending | finalized=>cases turn
 | routed s₁ item _ _ _ checked found =>
  cases turn
  obtain ⟨rfl,live⟩:=route_snapshot goes
  exact ⟨item,found,(goOn_current checked item found live).2.2,le_rfl,fun _=>rfl⟩
 | campaign c' s₁ campaignId _ _ _ phase _ _ _ =>
  cases turn
  obtain rfl:=leadPhase_snapshot goes
  obtain ⟨item,t,own,read,version,le,same⟩:=pictured c (.inl phase)
  obtain rfl:=Option.mem_unique targeted read
  have later:=(guarded_carried guarded).version
  obtain ⟨contact',_,was,item',own',found,expected,_⟩:=guarded
  obtain rfl:=Option.mem_unique own own'
  refine ⟨item',found,version.trans expected.symm,le.trans later,fun unmoved=>?_⟩
  exact contact'.trans (same (by omega))
 | lead | verification =>
  cases turn
  rcases goes with goes|⟨id,goes⟩ <;> cases goes
 | refused | unpromised | accepted =>
  injection turn with ending
  injection ending with _ is
  obtain ⟨status,_,rfl⟩:=Option.map_eq_some_iff.mp is.symm
  rcases goes with goes|⟨id,goes⟩ <;> cases goes
 | permitted =>
  cases turn
  split at goes
  · rcases goes with goes|⟨id,goes⟩ <;> cases goes
  · rcases goes with goes|⟨id,goes⟩ <;> cases goes

lemma Exposed.kept (h:Exposed st)(i:Step)
 (held:st.workers leaseId=some w)(found:st.db.request? w.requestId=some r)
 (leased:r.leaseId=some leaseId):Informed (step policy st i).db w r:=by
 obtain ⟨facts,permitted,pictured⟩:=h.informed leaseId w r held found leased
 refine ⟨facts,permitted,fun c phase=>?_⟩
 obtain ⟨item,t,own,read,version,le,same⟩:=pictured c phase
 obtain ⟨t',read',carried⟩:=step_carried policy i h.toReserved read
 have live:item.status.isTerminal=false:=by
  have standing:=(h.standing leaseId w held r found leased).2
  let s:Scope:=⟨r,t⟩
  have claimed:Claimed w.targetId s.request:=by
   rcases phase with phase|⟨id,phase⟩ <;> rw[phase] at standing <;> exact standing
  exact Claimed.live claimed own
 have later:=carried.version
 refine ⟨item,t',own,read',version,le.trans later,fun unmoved=>?_⟩
 exact (carried.same (h.holds found own live read).2.1 (by omega)).trans (same (by omega))

lemma informed_idle (facts:Facts w.targetId r w.phase)
 (permitted:w.phase≠.retrying→Permitted w.operations r)
 (campaign:∀c,w.phase≠.campaign c)(lead:∀c id,w.phase≠.lead c id) :
 Informed db w r:=by
 refine ⟨facts,permitted,fun c phase=>?_⟩
 rcases phase with phase|⟨id,phase⟩
 · exact absurd phase (campaign c)
 · exact absurd phase (lead c id)

lemma turned_informed {o:Oracle}{p:Provider}{t:Turn} {phase:Phase}(informed:Informed db w s.request)
 (standing:Standing w.targetId s.request w.phase)
 (way:Way policy.casefold o w s p t)
 (turn:phase=.retrying ∨
  ∃declaration,phase=.declaring declaration ∧ t.ending=.declare declaration) :
 Informed db {w with phase,operations:=t.operations} s.request:=by
 rcases turn with rfl|⟨declaration,rfl,ended⟩
 · exact informed_idle trivial (fun other=>absurd rfl other) (fun c=>Phase.noConfusion)
    fun c id=>Phase.noConfusion
 · cases way with
   | declared declaration' operations within active imports =>
    injection ended with same
    subst same
    refine informed_idle (fun other key=>?_) (fun _=>?_) (fun c=>Phase.noConfusion)
     fun c id=>Phase.noConfusion
    · obtain ⟨rfl,c,campaignId,phase⟩:=imports other key
      have facts:=informed.facts
      rw[phase] at facts standing
      refine ⟨rfl,standing,?_⟩
      rw[facts.1,truthy_named facts.2]
      rfl
    · exact fun other ready=>informed.permitted active other (within _ ready)
   | _=>cases ended

lemma step_informed (h:Exposed st)(i:Step) (held:(step policy st i).workers leaseId=some w)
 (found:(step policy st i).db.request? w.requestId=some r)
 (leased:r.leaseId=some leaseId):Informed (step policy st i).db w r:=by
 have kept:st.workers leaseId=some w→st.db.request? w.requestId=some r →
   Informed (step policy st i).db w r:=fun held found=>h.kept i held found leased
 have stepped:=step_stepped policy st h.keyed i
 generalize step policy st i=st' at held found kept stepped ⊢
 have stays:(∃l,st'.workers=(st.setWorker l none).workers)→st'.db=st.db →Informed st'.db w r:=by
  rintro ⟨l,workers⟩ same
  rw[workers] at held
  rw[same] at found
  rcases setWorker_some held with ⟨_,none'⟩|⟨_,held⟩
  · cases none'
  · exact kept held found
 cases stepped with
 | kept=>exact kept held found
 | crashed l=>exact stays ⟨l,rfl⟩ rfl
 | outside _ db edited =>
  refine kept held ?_
  rw[←found,Db.request?,Db.request?,edited.requests]
 | conflicted c at' around targets _ _ _ _ =>
  refine kept held ?_
  rw[←found,Db.request?,Db.request?,(setTargets_tables targets st.db).1]
 | reserved c at' around targets _ _ _ =>
  refine kept held ?_
  have found:=(request?_cons (newRequest c at') st.db.requests w.requestId).symm.trans found
  split at found
  · obtain rfl:=Option.some.inj found
    cases leased
  · exact found
 | claimed requestId now claimedAt skipped row claimedRow targetId read claim =>
  rcases setWorker_some held with ⟨_,mine⟩|⟨other,held⟩
  · obtain rfl:=Option.some.inj mine
    refine informed_idle trivial (fun _ _ ready=>?_) (fun c=>Phase.noConfusion)
     fun c id=>Phase.noConfusion
    cases ready
  · change (st.db.setRequest claimedRow).request? w.requestId=some r at found
    rw[Db.request?_setRequest] at found
    split at found
    · obtain ⟨_,_,rfl⟩:=Option.map_eq_some_iff.mp found
      have lease:=
       (claimLocked_held (h.sound row (Db.request?_some read).1) claim False.elim).busy.leased
      exact absurd (Option.mem_unique leased lease) other
    · exact kept held found
 | worked l o st' worked =>
  cases worked with
  | absent=>exact kept held found
  | stopped | dropped=>exact stays ⟨l,rfl⟩ rfl
  | counted w₀ c row status held₀ phase read final =>
   rcases setWorker_some held with ⟨rfl,mine⟩|⟨_,held⟩
   · obtain rfl:=Option.some.inj mine
     have informed:=h.informed leaseId w₀ r held₀ found leased
     refine informed_idle trivial (fun _=>informed.permitted ?_) (fun c=>Phase.noConfusion)
      fun c id=>Phase.noConfusion
     rw[phase]
     exact Phase.noConfusion
   · exact kept held found
  | turned w₀ s t phase held₀ opened way turn =>
   obtain ⟨requested,_,_,leased₀,_⟩:=openGuard_some opened
   rcases setWorker_some held with ⟨rfl,mine⟩|⟨_,held⟩
   · obtain rfl:=Option.some.inj mine
     obtain rfl:=Option.mem_unique requested found
     exact turned_informed (h.informed leaseId w₀ s.request held₀ requested leased₀)
      (h.standing leaseId w₀ held₀ s.request requested leased₀).2 way turn
   · exact kept held found
  | committed w₀ s s' next p' operations held₀ opened way =>
   obtain ⟨requested,targeted,_,leased₀,item,own,_⟩:=openGuard_some opened
   obtain ⟨standing,left,same⟩:=h.left held₀ opened way
   have lease:=(left_sound o.renewedAt left).2.2
   have informed:=h.informed l w₀ s.request held₀ requested leased₀
   have guarded:=way_guarded own standing way
   have rows:(closeGuard st.db l o.renewedAt s').request? w.requestId=_:=
    closeGuard_request? opened (congrArg Prod.fst same) w.requestId
   rcases setWorker_some held with ⟨rfl,mine⟩|⟨other,held⟩
   · obtain ⟨phase,rfl,rfl⟩:=Option.map_eq_some_iff.mp mine
     obtain rfl:=Option.some.inj (found.symm.trans (rows.trans (if_pos rfl)))
     obtain ⟨t,promise,promised⟩:=h.promised w₀.requestId s.request w₀.targetId item requested own
     obtain rfl:=Option.mem_unique targeted promise
     have facts:=way_facts (h.coherent opened) own informed.facts promised way
     refine ⟨?_,fun _=>?_,fun c goes=>?_⟩
     · rcases renew_eq (r:=s'.request) with eq|⟨_,eq⟩ <;> rw[eq]
       · exact facts
       · exact facts_of_lease facts
     · unfold Permitted receipt
       rw[renew_result]
       by_cases retrying:w₀.phase=.retrying
       · exact (retrying_over retrying way).elim
       · exact way_permitted (informed.permitted retrying) way
     · obtain ⟨item',found',version,le,same'⟩:=
        way_pictured opened informed.pictured guarded way c goes
       refine ⟨item',s'.target,?_,?_,version,le,same'⟩
       · rw[item?_congr renew_items]
         exact found'
       · exact (closeGuard_target? opened guarded.contact w₀.targetId).trans (if_pos rfl)
   · have found:=rows.symm.trans found
     split at found
     · obtain rfl:=Option.some.inj found
       rw[renew_leaseId] at leased
       rcases lease with none' | mine
       · rw[none'] at leased
         cases leased
       · exact absurd (Option.mem_unique leased mine) other
     · exact kept held found

lemma step_exposed (policy:Policy)(st:System)(i:Step)(h:Exposed st) :
 Exposed (step policy st i) where
 toReserved:=step_reserved policy st i h.toReserved
 named _ _ found:=step_named h i found
 bound _ _ _ read held:=step_bound h i read held
 traced _ _ found:=step_traced h i found
 promised _ _ _ _ found own:=step_promised h i found own
 informed _ _ _ held found leased:=step_informed h i held found leased
 leads l mem:=by
  refine h.delivered policy i ?_
  rcases stepped_effect (step_stepped policy st h.keyed i) with
   same | ⟨leaseId,o,w,s,s',rfl,held,opened,reached,effect⟩
  · rw[same] at mem
    exact h.leads l mem
  · exact effect_delivered h held opened reached effect l mem

lemma run_exposed (policy:Policy)(opening:Opening)(steps:List Step) :
 Exposed (steps.foldl (step policy) (start opening)):=
 Runs.invariant Exposed (step_exposed policy) steps (start_exposed opening)

end

structure Spared (st:System)(r:SendRequest)(item:SendItem):Prop where
 unknown:truthy item.instantlyId=none
 undeclared:receipt r (.leadImport item.targetId)=none
 absent:∀l∈st.provider.leads,¬(l.requestId=r.requestId ∧ l.targetId=item.targetId)

def Faithful (st:System)(item:SendItem)(l:Lead):Prop:=item.status=.sent ∧
   (∃t,st.db.target? l.targetId=some t ∧ t.status=.sent ∧ SameMessage t l) ∨
  item.status=.failed ∧ ∃error,item.errorCode=some (.verification error)

lemma finalStatus_sent {r:SendRequest}{status:RequestStatus}(basic:Basic r)
 (final:r.finalStatus=some status)(sent:status=.completed ∨ status=.partlySent) :
 0<r.sent:=by
 have done:=(finalStatus_some final).1
 unfold SendRequest.finalStatus at final
 split at final
 · obtain rfl:=Option.some.inj final
   split at sent
   · -- none has failed, and there is one
     rename_i unfailed
     obtain ⟨item,mem⟩:=List.exists_mem_of_ne_nil _ basic.nonempty
     have past:=done item mem
     have kept:item.status≠.failed:=by
      simpa using List.countP_eq_zero.mp unfailed item mem
     refine List.countP_pos_iff.mpr ⟨item,mem,decide_eq_true ?_⟩
     cases status:item.status <;> simp_all[ItemStatus.isTerminal]
   · split at sent
     · exact Nat.pos_of_ne_zero ‹_›
     · rcases sent with sent|sent <;> cases sent
 · cases final

section
variable {st:System}

lemma Exposed.faithful (h:Exposed st){r:SendRequest}{requestId:String}
 (found:st.db.request? requestId=some r)(done:Done r)
 (unblocked:r.result.activationBlocked=none){l:Lead}(mem:l∈st.provider.leads)
 (own:l.requestId=requestId) :
 ∃item∈r.items,item.targetId=l.targetId ∧ Faithful st item l:=by
 obtain ⟨row,item,t,found',there,read,declared,_,sent⟩:=h.leads l mem
 rw[own,found] at found'
 obtain rfl:=Option.some.inj found'
 obtain ⟨listed,id⟩:=SendRequest.item?_some there
 refine ⟨item,listed,id,?_⟩
 have sourced:=(h.traced requestId r found).items l.targetId item there
 have past:=done item listed
 cases status:item.status with
 | sent=>exact .inl ⟨status,t,read,sent status⟩
 | failed =>
  rcases sourced.refused status with ⟨code,cause⟩|refused
  · -- the evidence of the lead would have blocked the activation
    have blocked:=sourced.cancelled code status cause (.inr declared)
    rw[unblocked] at blocked
    cases blocked
  · exact .inr ⟨status,refused⟩
 | _ =>
  rw[status] at past
  cases past

lemma Exposed.spared (h:Exposed st){r:SendRequest}{requestId:String}
 (found:st.db.request? requestId=some r)(unblocked:r.result.activationBlocked=none)
 {item:SendItem}(mem:item∈r.items){code:CancelCode}(failed:item.status=.failed)
 (cause:item.errorCode=some (.cancelled code)):Spared st r item:=by
 have there:=(h.sound r (Db.request?_some found).1).basic.item?_of_mem mem
 have sourced:=(h.traced requestId r found).items item.targetId item there
 have hidden:¬((truthy item.instantlyId).isSome=true ∨
   (receipt r (.leadImport item.targetId)).isSome=true):=by
  intro evidence
  have blocked:=sourced.cancelled code failed cause evidence
  rw[unblocked] at blocked
  cases blocked
 rw[not_or,Bool.not_eq_true,Bool.not_eq_true,Option.isSome_eq_false_iff,
  Option.isSome_eq_false_iff,Option.isNone_iff_eq_none,Option.isNone_iff_eq_none] at hidden
 refine ⟨hidden.1,hidden.2,fun l there' own=>?_⟩
 obtain ⟨row,_,_,found',_,_,declared,_⟩:=h.leads l there'
 rw[own.1,(Db.request?_some found).2,found] at found'
 obtain rfl:=Option.some.inj found'
 rw[own.2,hidden.2] at declared
 cases declared

end

/-- In every run, a campaign is activated for a request whose items are all over,
one of them at least sent, and none given up that may have a lead in a campaign.
Every lead of the request then has the message of its target, which stays sent, or
was refused by the verification. -/
theorem activated_only_unexposed (policy:Policy)(opening:Opening)(js:List Step)(i:Step)
 (issued:(step policy (js.foldl (step policy) (start opening)) i).provider.activations ≠
  (js.foldl (step policy) (start opening)).provider.activations) :
 ∃requestId campaignId r,
  (step policy (js.foldl (step policy) (start opening)) i).provider.activations =
   (requestId,campaignId)::(js.foldl (step policy) (start opening)).provider.activations ∧
  (js.foldl (step policy) (start opening)).db.request? requestId=some r ∧
  Done r ∧ 0<r.sent ∧
  (∀item∈r.items,∀code,item.status=.failed→item.errorCode=some (.cancelled code) →
   Spared (js.foldl (step policy) (start opening)) r item) ∧
  ∀l∈(js.foldl (step policy) (start opening)).provider.leads,l.requestId=requestId →
   ∃item∈r.items,item.targetId=l.targetId ∧
    Faithful (js.foldl (step policy) (start opening)) item l:=by
 have h:=run_exposed policy opening js
 generalize js.foldl (step policy) (start opening)=st at h issued ⊢
 have effects:=stepped_effect (step_stepped policy st h.keyed i)
 generalize (step policy st i).provider=p' at issued effects ⊢
 rcases effects with rfl|⟨leaseId,o,w,s,s',rfl,held,opened,reached,effect⟩
 · exact absurd rfl issued
 · cases effect with
   | nothing | campaign | lead=>exact absurd rfl issued
   | activation campaignId status listed permitted phase unblocked sent inactive allowed permit =>
    obtain ⟨found,_,_,leased,item,own,_⟩:=openGuard_some opened
    obtain ⟨busy,standing⟩:=h.standing leaseId w held s.request found leased
    rw[phase] at standing
    have done:=(finalStatus_some standing).1
    have past:=done item (SendRequest.item?_some own).1
    -- a guard that finds the item over works on the rows it opened
    obtain rfl:s'=s:=by
     rcases reached with same|checked
     · exact same
     · rcases goOn_cases own checked with ⟨_,same⟩|⟨unchanged,_⟩
       · exact same
       · rw[unchanged.live] at past
         cases past
    have id:=(Db.request?_some found).2
    refine ⟨s'.request.requestId,campaignId,s'.request,rfl,by rw[id];exact found,done,
     finalStatus_sent busy.toBasic standing sent,?_,?_⟩
    · exact fun item mem code failed cause=>h.spared found unblocked mem failed cause
    · exact fun l mem own=>h.faithful found done unblocked mem (own.trans id)

theorem activated_only_unexposed_sample :
 ∃r,((sampleSteps 28).foldl (step samplePolicy) (start sampleOpening)).db.request? "r1" =
  some r ∧ Done r ∧ 0<r.sent:=by
 obtain ⟨requestId,campaignId,r,activations,found,done,sent,_⟩:=
  activated_only_unexposed samplePolicy sampleOpening (sampleSteps 28) (.work 0 sampleOracle)
   (by decide +kernel)
 have named:((step samplePolicy ((sampleSteps 28).foldl (step samplePolicy)
   (start sampleOpening)) (.work 0 sampleOracle)).provider.activations.head?).map Prod.fst =
   some "r1":=by
  decide +kernel
 rw[activations] at named
 obtain rfl:=Option.some.inj named
 exact ⟨r,found,done,sent⟩

def pairTargets:List (String × ℕ):=[("t2",0),("t1",0)]

lemma pairTargets_distinct:(pairTargets.map Prod.fst).Nodup:=by decide

def pairCommand:SendCommand where
 requestId:="r1"
 targets:=pairTargets
 named:=sampleRequest_named
 nonempty:=by simp[pairTargets]
 atMost:=by simp[pairTargets]
 distinct:=pairTargets_distinct

def refusingOracle:Oracle:={sampleOracle with leadStatus:=some (some (-1))}

def correctedSteps (works:ℕ):List Step:=
 .enqueueSend pairCommand 0 sampleAround::.claim "r1" 0 0 [] ::
  (List.replicate 20 (.work 0 refusingOracle) ++
   .correct "t2" 1 none false ⟨⟨"Objet","Autre","Autre"⟩,true⟩::.claim "r1" 0 0 [] ::
    List.replicate works (.work 1 sampleOracle))

theorem corrected_message_is_activated :
 let imported:=((correctedSteps 21).take 22).foldl (step samplePolicy) (start sampleOpening)
 let edited:=(correctedSteps 21).foldl (step samplePolicy) (start sampleOpening)
 let activated:=(correctedSteps 22).foldl (step samplePolicy) (start sampleOpening)
 let lead:Lead:=⟨"new","new","contact@beta.fr",sampleMail,"r1","t2"⟩
 lead∈imported.provider.leads ∧ (imported.db.target? "t2").map (·.mail)=some lead.mail ∧
  (edited.db.target? "t2").map (·.mail)≠some lead.mail ∧
  edited.provider.activations=[] ∧ activated.provider.activations=[("r1","new")] ∧
  lead∈activated.provider.leads:=by
 decide +kernel

end Kivou.ProspectExposure
