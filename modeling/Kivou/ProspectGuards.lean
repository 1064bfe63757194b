import Kivou.ProspectStranding

set_option autoImplicit false

/-! A guard commits one request and one target. Beside the request's own accounting it changes the
claimed item and how its target stands in the review. -/
namespace Kivou.ProspectGuards
open ProspectRecords ProspectDelivery ProspectWorker ProspectProcess ProspectActions ProspectRuns
open ProspectLeases ProspectStranding

def contact (t:Target):String × String × String × String × Mail × Bool × Bool:=
 (t.targetId,t.siren,t.opportunityKey,t.emailAddress,t.mail,t.mxVerified,
  t.mailContractPassed)

def review (t:Target):ProspectStatus × ℕ × Option String:=(t.status,t.version,t.sendRequestId)

lemma review_status {t t':Target}(h:review t'=review t):t'.status=t.status:=congrArg Prod.fst h

lemma review_version {t t':Target}(h:review t'=review t):t'.version=t.version:=congrArg (·.2.1) h

lemma review_holder {t t':Target}(h:review t'=review t) : t'.sendRequestId=t.sendRequestId:=
 congrArg (·.2.2) h

def record (item:SendItem):ItemStatus × Option ItemError × Option String × ℕ:=
 (item.status,item.errorCode,item.instantlyId,item.expectedVersion)

inductive Outcome (targetId:String)(s s':Scope)(item item':SendItem):Prop where
 | carried (past:item.status.isTerminal=true)(same:record item'=record item)
   (target:review s'.target=review s.target)
 | pending (unchanged:Unchanged item s)(open':item'.status.isTerminal=false)
   (target:review s'.target=review s.target)
 | already (live:item.status=.running)(before:s.target.status=.sent)
   (sent:item'.status=.sent)(target:review s'.target=review s.target)
 | cancelled (code:CancelCode)(live:item.status.isTerminal=false)
   (failed:item'.status=.failed)(cause:item'.errorCode=some (.cancelled code))
   (target:review s'.target=review (freeTarget s).target)
 | sent (unchanged:Unchanged item s)(sent:item'.status=.sent)
   (target:review s'.target=(.sent,s.target.version+1,s.target.sendRequestId))
 | failed (error:ItemError)(unchanged:Unchanged item s)(failed:item'.status=.failed)
   (cause:item'.errorCode=some error)(own:∀code,error≠.cancelled code)
   (target:review s'.target=(.approved,s.target.version+1,none))

structure Guarded (targetId:String)(s s':Scope):Prop where
 contact:contact s'.target=contact s.target
 others:∀other,other≠targetId→s'.request.item? other=s.request.item? other
 outcome:∃item item',s.request.item? targetId=some item ∧
  s'.request.item? targetId=some item' ∧ item'.expectedVersion=item.expectedVersion ∧
  Outcome targetId s s' item item'

section
variable {targetId:String}{now:ℕ}{s s':Scope}{item:SendItem}

lemma setItem_reads {r:SendRequest}(f:SendItem→SendItem)
 (touch:∀item,(f item).targetId=item.targetId)(found:r.item? targetId=some item) :
 (∀other,other≠targetId→(r.setItem targetId f).item? other=r.item? other) ∧
  (r.setItem targetId f).item? targetId=some (f item):=by
 have read:∀other,(r.setItem targetId f).item? other =
   if other=targetId then (r.item? targetId).map f else r.item? other:=
  Tables.find?_update touch
 refine ⟨fun other ne=>?_,?_⟩
 · rw[read,if_neg ne]
 · rw[read,if_pos rfl,found]
   rfl

lemma goOn_cases (found:s.request.item? targetId=some item)
 (checked:checkTarget targetId now s=.goOn s') :
 item.status.isTerminal=true ∧ s'=s ∨ Unchanged item s ∧ s'=adoptBinding targetId item s:=by
 have way:=checkTarget_cases targetId now s
 rw[checked] at way
 cases way with
 | carrier past=>exact .inl ⟨past item found,rfl⟩
 | unchanged item' found' same =>
  obtain rfl:=Option.mem_unique found found'
  exact .inr ⟨same,rfl⟩

structure Working (targetId:String)(s s':Scope)(item item':SendItem):Prop where
 contact:contact s'.target=contact s.target
 review:review s'.target=review s.target
 request:s'.request.requestId=s.request.requestId
 others:∀other,other≠targetId→s'.request.item? other=s.request.item? other
 found:s'.request.item? targetId=some item'
 status:item'.status=item.status
 error:item'.errorCode=item.errorCode
 version:item'.expectedVersion=item.expectedVersion

lemma adoptBinding_working (found:s.request.item? targetId=some item) :
 ∃item',Working targetId s (adoptBinding targetId item s) item item':=by
 obtain ⟨campaignId,eq⟩:=adoptCampaign_eq s
 unfold adoptBinding
 rw[eq]
 split
 · obtain ⟨others,own⟩:=setItem_reads (fun item:SendItem=>{item with
    instantlyId:=truthy s.target.instantlyId}) (fun _=>rfl) found
   exact ⟨_,rfl,rfl,rfl,others,own,rfl,rfl,rfl⟩
 · exact ⟨item,rfl,rfl,rfl,fun _ _=>rfl,found,rfl,rfl,rfl⟩

lemma adoptBinding_target:(adoptBinding targetId item s).target=s.target:=by
 obtain ⟨campaignId,eq⟩:=adoptCampaign_eq s
 unfold adoptBinding
 rw[eq]
 split <;> rfl

lemma goOn_working (found:s.request.item? targetId=some item)
 (live:item.status.isTerminal=false)(checked:checkTarget targetId now s=.goOn s') :
 Unchanged item s ∧ ∃item',Working targetId s s' item item':=by
 rcases goOn_cases found checked with ⟨past,_⟩|⟨unchanged,rfl⟩
 · rw[live] at past
   cases past
 · exact ⟨unchanged,adoptBinding_working found⟩

lemma freeTarget_target:(freeTarget s).target =
 if s.target.sendRequestId=some s.request.requestId ∧ s.target.status≠.sent then
  {s.target with sendRequestId:=none}
 else s.target:=by
 unfold freeTarget
 split <;> rfl

lemma releaseCancelled_items:(releaseCancelled now s).request.items=s.request.items ∧
 (releaseCancelled now s).target=s.target:=by
 unfold releaseCancelled
 dsimp only
 split
 · exact ⟨rfl,rfl⟩
 · split <;> exact ⟨rfl,rfl⟩

lemma blockActivation_items (code:CancelCode) :
 (blockActivation targetId code s).request.items=s.request.items ∧
  (blockActivation targetId code s).target=s.target:=by
 unfold blockActivation
 split <;> exact ⟨rfl,rfl⟩

lemma item?_congr {r r':SendRequest}(same:r'.items=r.items)(other:String) :
 r'.item? other=r.item? other:=by
 unfold SendRequest.item?
 rw[same]

lemma rejectChangedTarget_guarded (found:s.request.item? targetId=some item)
 (live:item.status.isTerminal=false)(code:CancelCode) :
 Guarded targetId s (rejectChangedTarget targetId now code s):=by
 let cancel:=fun item:SendItem=>{item with
  status:=.failed
  errorCode:=some (.cancelled code)}
 have items:(rejectChangedTarget targetId now code s).request.items =
   (s.request.setItem targetId cancel).items:=by
  unfold rejectChangedTarget
  rw[releaseCancelled_items.1,(blockActivation_items code).1,freeTarget_request]
  rfl
 have target:(rejectChangedTarget targetId now code s).target=(freeTarget s).target:=by
  unfold rejectChangedTarget
  rw[releaseCancelled_items.2,(blockActivation_items code).2,freeTarget_target,freeTarget_target]
  rfl
 obtain ⟨others,own⟩:=setItem_reads cancel (fun _=>rfl) found
 refine ⟨?_,fun other ne=>?_,item,cancel item,found,?_,rfl,?_⟩
 · rw[target,freeTarget_target]
   split <;> rfl
 · rw[item?_congr items]
   exact others other ne
 · rw[item?_congr items]
   exact own
 · exact .cancelled code live rfl rfl (congrArg review target)

lemma finishAlreadySent_guarded (done:finishAlreadySent targetId now s=some s') :
 Guarded targetId s s':=by
 unfold finishAlreadySent at done
 split at done
 · rename_i already
   obtain ⟨item,found,running⟩:=(Option.any_eq_true _ _).mp already.2
   let sent:=fun item:SendItem=>{item with
    status:=.sent
    instantlyId:=(truthy s.target.instantlyId).or item.instantlyId
    errorCode:=none}
   have rows:s'.request.items=(s.request.setItem targetId sent).items ∧ s'.target=s.target:=by
    dsimp only at done
    split at done
    · split at done <;> obtain rfl:=Option.some.inj done <;> exact ⟨rfl,rfl⟩
    · obtain rfl:=Option.some.inj done
      exact ⟨rfl,rfl⟩
   obtain ⟨others,own⟩:=setItem_reads sent (fun _=>rfl) found
   refine ⟨by rw[rows.2],fun other ne=>?_,item,sent item,found,?_,rfl,?_⟩
   · rw[item?_congr rows.1]
     exact others other ne
   · rw[item?_congr rows.1]
     exact own
   · exact .already (of_decide_eq_true running) already.1 rfl (congrArg review rows.2)
 · cases done

lemma completed_guarded (checked:checkTarget targetId now s=.completed s') :
 Guarded targetId s s':=by
 have way:=checkTarget_cases targetId now s
 rw[checked] at way
 cases way with
 | sent _ done=>exact finishAlreadySent_guarded done
 | cancelled code item found live=>exact rejectChangedTarget_guarded found live code

section
variable {s₁:Scope}{item₁:SendItem}

lemma Working.guarded (w:Working targetId s s' item item₁)
 (found:s.request.item? targetId=some item)(unchanged:Unchanged item s) :
 Guarded targetId s s':=by
 refine ⟨w.contact,w.others,item,item₁,found,w.found,w.version,?_⟩
 exact .pending unchanged (by rw[w.status];exact unchanged.live) w.review

lemma Working.of_items (w:Working targetId s s₁ item item₁)
 (items:s'.request.items=s₁.request.items)
 (request:s'.request.requestId=s₁.request.requestId)
 (contact':ProspectGuards.contact s'.target=ProspectGuards.contact s₁.target)
 (review':ProspectGuards.review s'.target=ProspectGuards.review s₁.target) :
 Working targetId s s' item item₁:=
 ⟨contact'.trans w.contact,review'.trans w.review,request.trans w.request,
  fun other ne=>(item?_congr items other).trans (w.others other ne),
  (item?_congr items targetId).trans w.found,w.status,w.error,w.version⟩

lemma persistCampaign_working (w:Working targetId s s₁ item item₁)(campaignId:String) :
 Working targetId s (persistCampaign campaignId s₁) item item₁:=by
 refine w.of_items rfl rfl ?_ ?_
 · unfold persistCampaign
   split <;> rfl
 · unfold persistCampaign
   split <;> rfl

lemma persistLead_working (w:Working targetId s s₁ item item₁) (campaignId instantlyId:String) :
 Working targetId s (persistLead targetId campaignId instantlyId s₁) item
  {item₁ with instantlyId:=some instantlyId}:=by
 obtain ⟨others,own⟩:=setItem_reads (fun item:SendItem=>{item with
  instantlyId:=some instantlyId}) (fun _=>rfl) w.found
 refine ⟨?_,?_,w.request,fun other ne=>(others other ne).trans (w.others other ne),own,
  w.status,w.error,w.version⟩
 · refine Eq.trans ?_ w.contact
   unfold persistLead
   dsimp only
   split <;> rfl
 · refine Eq.trans ?_ w.review
   unfold persistLead
   dsimp only
   split <;> rfl

lemma confirmImport_working (w:Working targetId s s₁ item item₁) :
 Working targetId s (confirmImport targetId s₁) item item₁:=by
 refine w.of_items ?_ ?_ ?_ ?_ <;>
 · unfold confirmImport
   split <;> rfl

lemma settle_rows (s:Scope):(settle now s).1.request.items=s.request.items ∧
 (settle now s).1.target=s.target:=by
 unfold settle
 split <;> exact ⟨rfl,rfl⟩

lemma accepted_guarded (found:s.request.item? targetId=some item)
 (live:item.status.isTerminal=false)(campaignId instantlyId:String) :
 Guarded targetId s (accepted targetId now campaignId instantlyId s).1:=by
 unfold accepted
 split
 · exact completed_guarded ‹_›
 · rename_i s₁ checked
   obtain ⟨unchanged,item₁,w⟩:=goOn_working found live checked
   obtain ⟨others,own⟩:=setItem_reads (fun item:SendItem=>{item with
    status:=.sent,instantlyId:=some instantlyId,errorCode:=none}) (fun _=>rfl) w.found
   have version:s₁.target.version=s.target.version:=review_version w.review
   have holder:s₁.target.sendRequestId=s.target.sendRequestId:=review_holder w.review
   have reserved:s₁.target.sendRequestId=some s₁.request.requestId:=by
    rw[w.request,←unchanged.reserved,holder]
   dsimp only
   split
   · refine ⟨?_,fun other ne=>?_,item,
      {item₁ with status:=.sent,instantlyId:=some instantlyId,errorCode:=none},found,
      ?_,w.version,.sent unchanged rfl ?_⟩
     · rw[(settle_rows _).2]
       exact w.contact
     · rw[item?_congr (settle_rows _).1]
       exact (others other ne).trans (w.others other ne)
     · rw[item?_congr (settle_rows _).1]
       exact own
     · rw[(settle_rows _).2,←version,←holder]
       rfl
   · rename_i other
     exact absurd reserved other

lemma failed_guarded (found:s.request.item? targetId=some item)
 (live:item.status.isTerminal=false)(campaignId instantlyId:String){error:ItemError}
 (own':∀code,error≠.cancelled code) :
 Guarded targetId s (failed targetId now campaignId instantlyId error s).1:=by
 unfold failed
 split
 · exact completed_guarded ‹_›
 · rename_i s₁ checked
   obtain ⟨unchanged,item₁,w⟩:=goOn_working found live checked
   obtain ⟨others,own⟩:=setItem_reads (fun item:SendItem=>{item with
    status:=.failed,instantlyId:=some instantlyId,errorCode:=some error}) (fun _=>rfl)
    w.found
   have version:s₁.target.version=s.target.version:=review_version w.review
   have holder:s₁.target.sendRequestId=s.target.sendRequestId:=review_holder w.review
   have reserved:s₁.target.sendRequestId=some s₁.request.requestId:=by
    rw[w.request,←unchanged.reserved,holder]
   dsimp only
   split
   · refine ⟨?_,fun other ne=>?_,item,
      {item₁ with status:=.failed,instantlyId:=some instantlyId,errorCode:=some error},
      found,?_,w.version,.failed error unchanged rfl rfl own' ?_⟩
     · rw[(settle_rows _).2]
       exact w.contact
     · rw[item?_congr (settle_rows _).1]
       exact (others other ne).trans (w.others other ne)
     · rw[item?_congr (settle_rows _).1]
       exact own
     · rw[(settle_rows _).2,←version]
       rfl
   · rename_i other
     exact absurd reserved other

lemma wait_guarded (found:s.request.item? targetId=some item)(failing:Bool)
 {pendingLead:Option String}(own:pendingLead=none ∨ item.status.isTerminal=false) :
 Guarded targetId s (wait targetId now failing pendingLead s):=by
 unfold wait
 split
 · exact completed_guarded ‹_›
 · rename_i s₁ checked
   let delay:=fun item:SendItem=>
    if item.status.isTerminal then
     {item with
       instantlyId:=(truthy pendingLead).or item.instantlyId,nextAttemptAt:=now+retryDelay}
    else {item with
     status:=if (truthy pendingLead).isSome then .verificationPending else .queued
     instantlyId:=(truthy pendingLead).or item.instantlyId
     errorCode:=if failing then some .instantlyProviderError else none
     nextAttemptAt:=now+retryDelay}
   have touch:∀item,(delay item).targetId=item.targetId ∧
     (delay item).expectedVersion=item.expectedVersion:=by
    intro item
    dsimp only[delay]
    split <;> exact ⟨rfl,rfl⟩
   rcases goOn_cases found checked with ⟨past,rfl⟩|⟨unchanged,rfl⟩
   · obtain ⟨others,own'⟩:=setItem_reads delay (fun item=>(touch item).1) found
     refine ⟨rfl,others,item,delay item,found,own',(touch item).2,.carried past ?_ rfl⟩
     have none':pendingLead=none:=by
      rcases own with none' | live
      · exact none'
      · rw[past] at live
        cases live
     simp only[delay,past,none',record,truthy,Option.filter_none,Option.none_or,↓reduceIte]
   · obtain ⟨item₁,w⟩:=adoptBinding_working found
     obtain ⟨others,own'⟩:=setItem_reads delay (fun item=>(touch item).1) w.found
     refine ⟨w.contact,fun other ne=>(others other ne).trans (w.others other ne),item,
      delay item₁,found,own',(touch item₁).2.trans w.version,.pending unchanged ?_ w.review⟩
     have live:item₁.status.isTerminal=false:=by
      rw[w.status]
      exact unchanged.live
     simp only[delay,live,Bool.false_eq_true,↓reduceIte]
     split <;> rfl

lemma Claimed.live (claimed:Claimed targetId s.request)
 (found:s.request.item? targetId=some item):item.status.isTerminal=false:=by
 simp only[Claimed,found,Option.any_some,decide_eq_true_eq] at claimed
 rw[claimed]
 rfl

lemma Working.then (w:Working targetId s s₁ item item₁)(target:s₁.target=s.target)
 (found:s.request.item? targetId=some item)(unchanged:Unchanged item s)
 (g:Guarded targetId s₁ s'):Guarded targetId s s':=by
 obtain ⟨contact',others,item₂,item',found₂,found',version,outcome⟩:=g
 obtain rfl:=Option.mem_unique w.found found₂
 have live:item₁.status.isTerminal=false:=by
  rw[w.status]
  exact unchanged.live
 refine ⟨contact'.trans w.contact,fun other ne=>(others other ne).trans (w.others other ne),
  item,item',found,found',version.trans w.version,?_⟩
 cases outcome with
 | carried past same target' =>
  rw[live] at past
  cases past
 | pending _ open' target'=>exact .pending unchanged open' (target'.trans w.review)
 | already _ before _ _ =>
  rw[target,unchanged.approved] at before
  cases before
 | cancelled code _ failed cause target' =>
  refine .cancelled code unchanged.live failed cause (target'.trans ?_)
  rw[freeTarget_target,freeTarget_target,target,w.request]
 | sent _ sent target' =>
  rw[target] at target'
  exact .sent unchanged sent target'
 | failed error _ failed cause own target' =>
  rw[target] at target'
  exact .failed error unchanged failed cause own target'

lemma guarded_over (found:s.request.item? targetId=some item)
 (past:item.status.isTerminal=true)(items:s'.request.items=s.request.items)
 (contact':contact s'.target=contact s.target)
 (review':review s'.target=review s.target):Guarded targetId s s':=
 ⟨contact',fun other _=>item?_congr items other,item,item,found,
  (item?_congr items targetId).trans found,rfl,.carried past rfl review'⟩

lemma declareOperation_working (w:Working targetId s s₁ item item₁) (declaration:Declaration) :
 Working targetId s (declareOperation declaration s₁) item item₁:=
 w.of_items rfl rfl rfl rfl

lemma way_guarded {casefold:String→String}{o:Oracle}{w:Worker}{p p':Provider}
 {next:Option Phase}{operations:Operations}
 (found:s.request.item? w.targetId=some item)
 (standing:Standing w.targetId s.request w.phase)
 (way:Way casefold o w s p ⟨.commit s' next,p',operations⟩) :
 Guarded w.targetId s s':=by
 generalize turn:(⟨.commit s' next,p',operations⟩:Turn)=t at way
 cases way with
 | completed _ _ checked =>
  cases turn
  exact completed_guarded checked
 | retried s₁ _ _ reached _ =>
  cases turn
  rcases reached with rfl|checked
  · exact wait_guarded found _ (.inl rfl)
  · rcases goOn_cases found checked with ⟨_,rfl⟩|⟨unchanged,rfl⟩
    · exact wait_guarded found _ (.inl rfl)
    · obtain ⟨item₁,working⟩:=adoptBinding_working found
      exact working.then adoptBinding_target found unchanged
       (wait_guarded working.found _ (.inl rfl))
 | declared=>cases turn
 | vanished s₁ _ checked missing =>
  cases turn
  rcases goOn_cases found checked with ⟨past,rfl⟩|⟨unchanged,rfl⟩
  · exact guarded_over found past rfl rfl rfl
  · obtain ⟨item₁,working⟩:=adoptBinding_working found
    exact working.guarded found unchanged
 | routed s₁ _ _ _ phase checked _ =>
  cases turn
  rcases goOn_cases found checked with ⟨past,rfl⟩|⟨unchanged,rfl⟩
  · exact guarded_over found past rfl rfl rfl
  · obtain ⟨item₁,working⟩:=adoptBinding_working found
    exact working.guarded found unchanged
 | campaign c s₁ campaignId _ _ _ phase checked _ _ =>
  cases turn
  rw[phase] at standing
  obtain ⟨unchanged,item₁,working⟩:=goOn_working found (Claimed.live standing found) checked
  exact (persistCampaign_working working campaignId).guarded found unchanged
 | lead c campaignId instantlyId s₁ _ _ _ phase checked _ _ =>
  cases turn
  rw[phase] at standing
  obtain ⟨unchanged,item₁,working⟩:=goOn_working found (Claimed.live standing found) checked
  exact (confirmImport_working (persistLead_working working campaignId instantlyId)).guarded found
   unchanged
 | verification campaignId instantlyId s₁ _ _ phase checked =>
  cases turn
  rw[phase] at standing
  obtain ⟨unchanged,item₁,working⟩:=goOn_working found (Claimed.live standing found) checked
  exact working.guarded found unchanged
 | pending campaignId instantlyId _ phase =>
  cases turn
  rw[phase] at standing
  exact wait_guarded found _ (.inr (Claimed.live standing found))
 | refused campaignId instantlyId error _ _ phase =>
  cases turn
  rw[phase] at standing
  exact failed_guarded found (Claimed.live standing found) campaignId instantlyId (by simp)
 | unpromised _ _ phase =>
  cases turn
  rw[phase] at standing
  exact failed_guarded found (Claimed.live standing found) "" "" (by simp)
 | accepted campaignId instantlyId _ _ phase =>
  cases turn
  rw[phase] at standing
  exact accepted_guarded found (Claimed.live standing found) campaignId instantlyId
 | finalized campaignId status activated _ _ phase _ =>
  cases turn
  rw[phase] at standing
  have past:=(finalStatus_some standing).1 item (SendRequest.item?_some found).1
  exact guarded_over found past rfl rfl rfl
 | permitted declaration s₁ phase checked =>
  cases turn
  rcases goOn_cases found checked with ⟨past,rfl⟩|⟨unchanged,rfl⟩
  · exact guarded_over found past rfl rfl rfl
  · obtain ⟨item₁,working⟩:=adoptBinding_working found
    exact (declareOperation_working working declaration).guarded found unchanged

end

end
section
variable {db:Db}{leaseId renewedAt:ℕ}{requestId targetId:String}{s s':Scope}

lemma closeGuard_request? (opened:openGuard db leaseId requestId targetId=some s)
 (same:s'.request.requestId=s.request.requestId)(other:String) :
 (closeGuard db leaseId renewedAt s').request? other =
  if other=requestId then some (renew leaseId renewedAt s'.request)
  else db.request? other:=by
 have found:=(openGuard_some opened).1
 have id:(renew leaseId renewedAt s'.request).requestId=requestId:=
  (congrArg Prod.fst renew_identity).trans (same.trans (Db.request?_some found).2)
 change (db.setRequest (renew leaseId renewedAt s'.request)).request? other=_
 rw[Db.request?_setRequest,id]
 split
 · rename_i eq
   rw[eq,found]
   rfl
 · rfl

lemma closeGuard_target? (opened:openGuard db leaseId requestId targetId=some s)
 (same:contact s'.target=contact s.target)(other:String) :
 (closeGuard db leaseId renewedAt s').target? other =
  if other=targetId then some s'.target else db.target? other:=by
 have found:=(openGuard_some opened).2.1
 have id:s'.target.targetId=targetId:=(congrArg Prod.fst same).trans (Db.target?_some found).2
 change ((db.setRequest (renew leaseId renewedAt s'.request)).setTarget s'.target).target? other=_
 rw[Db.target?_setTarget,id]
 split
 · rename_i eq
   rw[eq]
   change (db.target? targetId).map _=_
   rw[found]
   rfl
 · rfl

end

end Kivou.ProspectGuards
