import Kivou.ProspectAccounting

set_option autoImplicit false

/-! A lead may be in the campaign of its request once its import was declared or its id is known. -/
namespace Kivou.ProspectBindings
open ProspectRecords ProspectDelivery ProspectWorker ProspectProcess ProspectActions ProspectRuns
open ProspectLeases ProspectStranding ProspectGuards ProspectReservations ProspectAccounting

/-- What an item says of its lead, in a request with this campaign, an import
intent for the item or none, and its activation blocked or not. -/
structure Sourced (campaignId:Option String)(intended blocked:Bool)(item:SendItem) : Prop where
 named:(truthy item.instantlyId).isSome→(truthy campaignId).isSome
 cancelled:∀code,item.status=.failed→item.errorCode=some (.cancelled code) →
  (truthy item.instantlyId).isSome ∨ intended=true→blocked=true
 refused:item.status=.failed→(∃code,item.errorCode=some (.cancelled code)) ∨
  ∃error,item.errorCode=some (.verification error)

structure Traced (r:SendRequest):Prop where
 intents:∀targetId due,receipt r (.leadImport targetId)=some due →
  due.zeroMatches=true ∧ due.campaignId=r.providerCampaignId ∧ (truthy r.providerCampaignId).isSome
 items:∀targetId item,r.item? targetId=some item →
  Sourced r.providerCampaignId (receipt r (.leadImport targetId)).isSome
   r.result.activationBlocked.isSome item

def Bound (r:SendRequest)(t:Target):Prop:=
 t.sendRequestId=some r.requestId→∀campaignId,truthy t.providerCampaignId=some campaignId →
  truthy r.providerCampaignId=some campaignId

/-- What a guard keeps of its two rows, `base` being what it found. -/
structure Coherent (targetId:String)(base s:Scope):Prop where
 traced:Traced s.request
 bound:Bound s.request s.target
 campaign:(truthy base.request.providerCampaignId).isSome →
  s.request.providerCampaignId=base.request.providerCampaignId
 foreign:∀requestId,s.target.sendRequestId=some requestId → requestId≠s.request.requestId →
  s.target.providerCampaignId=base.target.providerCampaignId
 unsent:∀item,s.request.item? targetId=some item→item.status.isTerminal=false →s.target.status≠.sent

lemma truthy_or (a b:Option String) :
 (truthy ((truthy a).or b)).isSome→(truthy a).isSome ∨ (truthy b).isSome:=by
 cases eq:truthy a with
 | none=>exact fun is=>.inr is
 | some id=>exact fun _=>.inl rfl

lemma live_ne_failed {item:SendItem}(live:item.status.isTerminal=false) : item.status≠.failed:=by
 intro is
 rw[is] at live
 cases live

lemma sourced_of_open {campaignId:Option String}{intended blocked:Bool}{item:SendItem}
 (unfailed:item.status≠.failed)
 (named:(truthy item.instantlyId).isSome→(truthy campaignId).isSome) :
 Sourced campaignId intended blocked item:=
 ⟨named,fun _ failed=>absurd failed unfailed,fun failed=>absurd failed unfailed⟩

section
variable {targetId:String}{r r':SendRequest}{f:SendItem→SendItem}

lemma item?_setItem (r:SendRequest)(targetId:String)
 (touch:∀item,(f item).targetId=item.targetId)(other:String) :
 (r.setItem targetId f).item? other =
  if other=targetId then (r.item? targetId).map f else r.item? other:=
 Tables.find?_update touch other

lemma Traced.setItem (h:Traced r)(touch:∀item,(f item).targetId=item.targetId)
 (own:∀item,r.item? targetId=some item→Sourced r.providerCampaignId
  (receipt r (.leadImport targetId)).isSome r.result.activationBlocked.isSome (f item)) :
 Traced (r.setItem targetId f):=by
 refine ⟨h.intents,fun other item found=>?_⟩
 rw[item?_setItem r targetId touch] at found
 split at found
 · rename_i same
   subst same
   obtain ⟨before,was,rfl⟩:=Option.map_eq_some_iff.mp found
   exact own before was
 · exact h.items other item found

lemma Traced.receive (h:Traced r)(items:r'.items=r.items)
 (campaign:r'.providerCampaignId=r.providerCampaignId)
 (blocked:r'.result.activationBlocked=r.result.activationBlocked)
 (receipts:∀targetId due,receipt r' (.leadImport targetId)=some due →
  (due.zeroMatches=true ∧ due.campaignId=r.providerCampaignId ∧
   (truthy r.providerCampaignId).isSome) ∧
  ((receipt r (.leadImport targetId)).isSome ∨
   ∀item,r.item? targetId=some item→item.status≠.failed)):Traced r':=by
 refine ⟨fun targetId due declared=>?_,fun targetId item found=>?_⟩
 · rw[campaign]
   exact (receipts targetId due declared).1
 · rw[item?_congr items] at found
   rw[campaign,blocked]
   have own:=h.items targetId item found
   refine ⟨own.named,fun code failed cause evidence=>own.cancelled code failed cause ?_,own.refused⟩
   rcases evidence with known|intended
   · exact .inl known
   · obtain ⟨due,declared⟩:=Option.isSome_iff_exists.mp intended
     rcases (receipts targetId due declared).2 with there|unfailed
     · exact .inr there
     · exact absurd failed (unfailed item found)

end

section
variable {targetId:String}{now:ℕ}{s s':Scope}{item:SendItem}{base:Scope}

lemma Coherent.release (h:Coherent targetId base s)(status:RequestStatus)
 (next:Option ℕ):Coherent targetId base (s.release status next):=
 ⟨⟨h.traced.intents,h.traced.items⟩,h.bound,h.campaign,h.foreign,h.unsent⟩

lemma Coherent.setItem {f:SendItem→SendItem}(h:Coherent targetId base s)
 (touch:∀item,(f item).targetId=item.targetId)
 (past:∀item,s.request.item? targetId=some item →
  (f item).status.isTerminal=item.status.isTerminal)
 (own:∀item,s.request.item? targetId=some item→Sourced s.request.providerCampaignId
  (receipt s.request (.leadImport targetId)).isSome
  s.request.result.activationBlocked.isSome (f item)) :
 Coherent targetId base (s.setItem targetId f):=by
 refine ⟨h.traced.setItem touch own,h.bound,h.campaign,h.foreign,fun item found live=>?_⟩
 rw[show (s.setItem targetId f).request=s.request.setItem targetId f from rfl,
  SendRequest.item?_setItem _ _ touch] at found
 obtain ⟨was,there,rfl⟩:=Option.map_eq_some_iff.mp found
 exact h.unsent was there ((past was there).symm.trans live)

lemma not_already (h:Coherent targetId base s):finishAlreadySent targetId now s=none:=by
 unfold finishAlreadySent
 split
 · rename_i already
   obtain ⟨item,found,running⟩:=(Option.any_eq_true _ _).mp already.2
   refine absurd already.1 (h.unsent item found ?_)
   rw[of_decide_eq_true running]
   rfl
 · rfl

lemma exposed_of_evidence (traced:Traced s.request) (found:s.request.item? targetId=some item)
 (evidence:(truthy item.instantlyId).isSome ∨
  (receipt s.request (.leadImport targetId)).isSome=true):exposed targetId s=true:=by
 have named:(truthy s.request.providerCampaignId).isSome=true:=by
  rcases evidence with known|intended
  · exact (traced.items targetId item found).named known
  · obtain ⟨due,declared⟩:=Option.isSome_iff_exists.mp intended
    exact (traced.intents targetId due declared).2.2
 unfold exposed
 rw[named,Bool.true_and,Bool.or_eq_true,found,Option.bind_some]
 rcases evidence with known|intended
 · exact .inl known
 · obtain ⟨due,declared⟩:=Option.isSome_iff_exists.mp intended
   obtain ⟨zero,campaign,_⟩:=traced.intents targetId due declared
   unfold receipt at declared
   refine .inr ?_
   rw[declared,Option.any_some,zero,campaign]
   simp

/-- `cancelItem`, of the item. -/
def cancelled (code:CancelCode)(item:SendItem):SendItem:=
 {item with
   status:=.failed
   errorCode:=some (.cancelled code)}

lemma Traced.cancel {r:SendRequest}(h:Traced r)(code:CancelCode)
 (blocked:Option CancelCode)(kept:r.result.activationBlocked.isSome→blocked.isSome)
 (evident:∀item,r.item? targetId=some item→(truthy item.instantlyId).isSome ∨
  (receipt r (.leadImport targetId)).isSome=true→blocked.isSome) :
 Traced { r.setItem targetId (cancelled code) with
  result:={r.result with activationBlocked:=blocked}}:=by
 refine ⟨h.intents,fun other item found=>?_⟩
 have found:(r.setItem targetId (cancelled code)).item? other=some item:=found
 rw[item?_setItem (f:=cancelled code) r targetId fun _=>rfl] at found
 split at found
 · rename_i same
   subst same
   obtain ⟨was,there,rfl⟩:=Option.map_eq_some_iff.mp found
   exact ⟨(h.items other was there).named,fun _ _ _ evidence=>evident was there evidence,
    fun _=>.inl ⟨code,rfl⟩⟩
 · have own:=h.items other item found
   exact ⟨own.named,fun code failed cause evidence=>
    kept (own.cancelled code failed cause evidence),own.refused⟩

lemma freeTarget_cases (s:Scope) :
 ∃t,freeTarget s={s with target:=t} ∧ (t=s.target ∨ t.sendRequestId=none):=by
 unfold freeTarget
 split
 · exact ⟨_,rfl,.inr rfl⟩
 · exact ⟨_,rfl,.inl rfl⟩

lemma cancelled_coherent (h:Coherent targetId base s)(code:CancelCode) : Coherent targetId base
  (blockActivation targetId code (freeTarget (cancelItem targetId code s))):=by
 obtain ⟨t,free,own⟩:=freeTarget_cases (cancelItem targetId code s)
 rw[free]
 have bound:Bound s.request t:=by
  rcases own with rfl|none'
  · exact h.bound
  · intro held
    rw[none'] at held
    cases held
 have foreign:∀requestId,t.sendRequestId=some requestId → requestId≠s.request.requestId →
   t.providerCampaignId=base.target.providerCampaignId:=by
  rcases own with rfl|none'
  · exact h.foreign
  · intro requestId held
    rw[none'] at held
    cases held
 have read:(cancelItem targetId code s).request.item? targetId =
   (s.request.item? targetId).map (cancelled code):=
  SendRequest.item?_setItem s.request targetId fun _=>rfl
 -- the item has failed
 have past:∀item,(cancelItem targetId code s).request.item? targetId=some item →
   item.status.isTerminal=false→t.status≠.sent:=by
  intro item found live
  obtain ⟨was,_,rfl⟩:=Option.map_eq_some_iff.mp (read.symm.trans found)
  cases live
 unfold blockActivation
 split
 · exact ⟨h.traced.cancel code (some code) (fun _=>rfl) (fun _ _ _=>rfl),bound,h.campaign,
    foreign,past⟩
 · rename_i hidden
   refine ⟨h.traced.cancel code _ id fun was there evidence=>?_,bound,h.campaign,foreign,past⟩
   have shown:exposed targetId {cancelItem targetId code s with target:=t} =
     exposed targetId s:=by
    unfold exposed
    rw[read,there]
    rfl
   rw[shown,exposed_of_evidence h.traced there evidence] at hidden
   exact absurd rfl hidden

lemma releaseCancelled_coherent (h:Coherent targetId base s) :
 Coherent targetId base (releaseCancelled now s):=by
 unfold releaseCancelled
 dsimp only
 split
 · exact h.release _ _
 · split <;> exact h.release _ _

lemma completed_coherent (h:Coherent targetId base s)
 (checked:checkTarget targetId now s=.completed s'):Coherent targetId base s':=by
 have way:=checkTarget_cases targetId now s
 rw[checked] at way
 cases way with
 | sent _ done =>
  rw[not_already h] at done
  cases done
 | cancelled code item _ _=>exact releaseCancelled_coherent (cancelled_coherent h code)

lemma adoptCampaign_same (h:Coherent targetId base s)(same:Unchanged item s) : adoptCampaign s=s:=by
 refine if_neg fun adopts=>?_
 obtain ⟨campaignId,known⟩:=Option.isSome_iff_exists.mp adopts.1
 rw[h.bound same.reserved campaignId known] at adopts
 cases adopts.2

lemma adoptBinding_coherent (h:Coherent targetId base s)
 (found:s.request.item? targetId=some item)(same:Unchanged item s) :
 Coherent targetId base (adoptBinding targetId item s) ∧
  (adoptBinding targetId item s).request.providerCampaignId=s.request.providerCampaignId:=by
 unfold adoptBinding
 rw[adoptCampaign_same h same]
 split
 · rename_i adopts
   refine ⟨h.setItem (fun _=>rfl) (fun _ _=>rfl) fun was there=>?_,rfl⟩
   obtain rfl:=Option.mem_unique found there
   refine sourced_of_open (live_ne_failed same.live) fun _=>?_
   -- a lead without a campaign would have been a conflict
   have campaigns:=same.campaigns
   unfold campaignConflict at campaigns
   rw[adopts.1,Bool.true_and,Bool.or_eq_false_iff,Option.isNone_eq_false_iff] at campaigns
   obtain ⟨campaignId,known⟩:=Option.isSome_iff_exists.mp campaigns.1
   rw[h.bound same.reserved campaignId known]
   rfl
 · exact ⟨h,rfl⟩

lemma goOn_coherent (h:Coherent targetId base s) (found:s.request.item? targetId=some item)
 (checked:checkTarget targetId now s=.goOn s'):Coherent targetId base s' ∧
  s'.request.providerCampaignId=s.request.providerCampaignId:=by
 rcases goOn_cases found checked with ⟨_,rfl⟩|⟨unchanged,rfl⟩
 · exact ⟨h,rfl⟩
 · exact adoptBinding_coherent h found unchanged

end

section
variable {targetId:String}{now:ℕ}{s s':Scope}{item:SendItem}{base:Scope}

lemma wait_coherent (h:Coherent targetId base s)
 (found:s.request.item? targetId=some item)(failing:Bool){pendingLead:Option String}
 (own:pendingLead=none ∨
  item.status.isTerminal=false ∧ (truthy s.request.providerCampaignId).isSome) :
 Coherent targetId base (wait targetId now failing pendingLead s):=by
 unfold wait
 split
 · exact completed_coherent h ‹_›
 · rename_i s₁ checked
   obtain ⟨h₁,same⟩:=goOn_coherent h found checked
   refine Coherent.release (h₁.setItem (fun i=>?_) (fun i _=>?_) fun i there=>?_) _ _
   · split <;> rfl
   · split
     · rfl
     · rename_i live
       rw[Bool.not_eq_true] at live
       rw[live]
       split <;> rfl
   · have known:=h₁.traced.items targetId i there
     split
     · rename_i past
       have none':pendingLead=none:=by
        rcases own with none' | ⟨live,_⟩
        · exact none'
        · obtain ⟨_,item₁,w⟩:=goOn_working found live checked
          obtain rfl:=Option.mem_unique w.found there
          rw[w.status,live] at past
          cases past
       rw[none']
       exact ⟨known.named,known.cancelled,known.refused⟩
     · refine sourced_of_open ?_ fun named=>?_
       · split <;> simp
       · rcases truthy_or _ _ named with pending|old
         · rcases own with rfl|⟨_,campaign⟩
           · cases pending
           · rw[same]
             exact campaign
         · exact known.named old

lemma Coherent.settled {f:SendItem→SendItem}(h:Coherent targetId base s)
 (touch:∀item,(f item).targetId=item.targetId)
 (past:∀item,(f item).status.isTerminal=true)
 (own:∀item,s.request.item? targetId=some item→Sourced s.request.providerCampaignId
  (receipt s.request (.leadImport targetId)).isSome
  s.request.result.activationBlocked.isSome (f item))
 {t:Target}(bound:Bound s.request t)
 (foreign:∀requestId,t.sendRequestId=some requestId → requestId≠s.request.requestId →
  t.providerCampaignId=base.target.providerCampaignId) :
 Coherent targetId base ⟨s.request.setItem targetId f,t⟩:=by
 refine ⟨h.traced.setItem touch own,bound,h.campaign,foreign,fun item found live=>?_⟩
 rw[SendRequest.item?_setItem _ _ touch] at found
 obtain ⟨was,_,rfl⟩:=Option.map_eq_some_iff.mp found
 rw[past was] at live
 cases live

lemma settle_coherent (h:Coherent targetId base s) : Coherent targetId base (settle now s).1:=by
 unfold settle
 split
 · exact h.release _ _
 · exact h

variable {campaignId:String}

lemma truthy_named (named:campaignId≠"") : truthy (some campaignId)=some campaignId:=by
 simp[truthy,named]

lemma accepted_coherent (h:Coherent targetId base s) (found:s.request.item? targetId=some item)
 (known:s.request.providerCampaignId=some campaignId)(named:campaignId≠"")
 (instantlyId:String) :
 Coherent targetId base (accepted targetId now campaignId instantlyId s).1:=by
 unfold accepted
 split
 · exact completed_coherent h ‹_›
 · rename_i s₁ checked
   obtain ⟨h₁,same⟩:=goOn_coherent h found checked
   rw[known] at same
   let sent:=fun i:SendItem=>{i with
    status:=.sent
    instantlyId:=some instantlyId
    errorCode:=none}
   have own:∀i,s₁.request.item? targetId=some i→Sourced s₁.request.providerCampaignId
     (receipt s₁.request (.leadImport targetId)).isSome
     s₁.request.result.activationBlocked.isSome (sent i):=by
    intro i _
    refine sourced_of_open (by simp[sent]) fun _=>?_
    rw[same,truthy_named named]
    rfl
   refine settle_coherent ?_
   split
   · rename_i held
     refine h₁.settled (f:=sent) (fun _=>rfl) (fun _=>rfl) own ?_ ?_
     · intro _ other is
       rw[same]
       exact is
     · exact fun other is foreign=>absurd (Option.mem_unique is held) foreign
   · exact h₁.settled (f:=sent) (fun _=>rfl) (fun _=>rfl) own h₁.bound h₁.foreign

lemma failed_coherent (h:Coherent targetId base s) (found:s.request.item? targetId=some item)
 (known:s.request.providerCampaignId=some campaignId)(named:campaignId≠"")
 (instantlyId:String)(error:VerificationError) :
 Coherent targetId base (failed targetId now campaignId instantlyId (.verification error) s).1:=by
 unfold failed
 split
 · exact completed_coherent h ‹_›
 · rename_i s₁ checked
   obtain ⟨h₁,same⟩:=goOn_coherent h found checked
   rw[known] at same
   let refused:=fun i:SendItem=>{i with
    status:=.failed
    instantlyId:=some instantlyId
    errorCode:=some (.verification error)}
   have own:∀i,s₁.request.item? targetId=some i→Sourced s₁.request.providerCampaignId
     (receipt s₁.request (.leadImport targetId)).isSome
     s₁.request.result.activationBlocked.isSome (refused i):=by
    intro i _
    refine ⟨fun _=>?_,fun code _ cause=>(by cases cause),fun _=>.inr ⟨error,rfl⟩⟩
    rw[same,truthy_named named]
    rfl
   refine settle_coherent ?_
   split
   · refine h₁.settled (f:=refused) (fun _=>rfl) (fun _=>rfl) own ?_ ?_
     · intro held
       cases held
     · intro other held
       cases held
   · exact h₁.settled (f:=refused) (fun _=>rfl) (fun _=>rfl) own h₁.bound h₁.foreign

lemma persistCampaign_coherent (h:Coherent targetId base s)
 (unknown:truthy s.request.providerCampaignId=none)
 (named:campaignId≠""):Coherent targetId base (persistCampaign campaignId s):=by
 have known:=truthy_named named
 refine ⟨⟨fun other due declared=>?_,fun other item found=>?_⟩,?_,fun was=>?_,?_,?_⟩
 · -- no import is declared before the campaign is known
   have campaign:=(h.traced.intents other due declared).2.2
   rw[unknown] at campaign
   cases campaign
 · have own:=h.traced.items other item found
   refine ⟨fun _=>?_,own.cancelled,own.refused⟩
   change (truthy (some campaignId)).isSome=true
   rw[known]
   rfl
 · unfold persistCampaign
   split
   · exact fun _ _ is=>is
   · exact fun held=>absurd held ‹_›
 · rw[←h.campaign was,unknown] at was
   cases was
 · unfold persistCampaign
   split
   · rename_i held
     exact fun other is foreign=>absurd (Option.mem_unique is held) foreign
   · exact h.foreign
 · intro item found live
   unfold persistCampaign
   split <;> exact h.unsent item found live

lemma persistLead_coherent (h:Coherent targetId base s)
 (found:s.request.item? targetId=some item)(live:item.status.isTerminal=false)
 (known:s.request.providerCampaignId=some campaignId)
 (named:campaignId≠"")(instantlyId:String) :
 Coherent targetId base (persistLead targetId campaignId instantlyId s):=by
 have row:Coherent targetId base
   (s.setItem targetId fun item=>{item with instantlyId:=some instantlyId}):=by
  refine h.setItem (fun _=>rfl) (fun _ _=>rfl) fun i there=>?_
  obtain rfl:=Option.mem_unique found there
  refine sourced_of_open (live_ne_failed live) fun _=>?_
  rw[known,truthy_named named]
  rfl
 refine ⟨row.traced,?_,row.campaign,?_,fun i there open'=>?_⟩
 · unfold persistLead
   dsimp only
   split
   · intro _ other is
     exact (congrArg truthy known).trans is
   · exact fun held=>absurd held ‹_›
 · unfold persistLead
   dsimp only
   split
   · rename_i held
     exact fun other is foreign=>absurd (Option.mem_unique is held) foreign
   · exact row.foreign
 · have unsent:=row.unsent i there open'
   unfold persistLead
   dsimp only
   split <;> exact unsent

lemma confirmImport_request (s:Scope) :
 (confirmImport targetId s).request.providerCampaignId=s.request.providerCampaignId ∧
  (confirmImport targetId s).request.items=s.request.items:=by
 unfold confirmImport
 split <;> exact ⟨rfl,rfl⟩

lemma confirmImport_coherent (h:Coherent targetId base s) :
 Coherent targetId base (confirmImport targetId s):=by
 unfold confirmImport
 split
 · exact h
 · rename_i receipt' due
   unfold importDue at due
   rw[Option.filter_eq_some_iff] at due
   refine ⟨h.traced.receive rfl rfl rfl fun other row declared=>?_,h.bound,h.campaign,
    h.foreign,h.unsent⟩
   unfold receipt at declared
   dsimp only[Scope.setResult] at declared
   rw[receipt_setReceipt] at declared
   split at declared
   · rename_i same
     injection same with same
     subst same
     obtain rfl:=Option.some.inj declared
     exact ⟨h.traced.intents other receipt' due.1,.inl (by rw[receipt,due.1];rfl)⟩
   · exact ⟨h.traced.intents other row declared,.inl (by rw[receipt,declared];rfl)⟩

lemma Claimed.unfailed (claimed:Claimed targetId s.request)
 (found:s.request.item? targetId=some item):item.status≠.failed:=by
 have live:item.status.isTerminal=false:=Claimed.live claimed found
 exact live_ne_failed live

lemma declareOperation_coherent (h:Coherent targetId base s){declaration:Declaration}
 (imports:∀other,declaration.key=some (.leadImport other) →
  other=targetId ∧ Claimed targetId s.request ∧ (truthy s.request.providerCampaignId).isSome) :
 Coherent targetId base (declareOperation declaration s):=by
 refine ⟨h.traced.receive rfl rfl rfl fun other row declared=>?_,h.bound,h.campaign,
  h.foreign,h.unsent⟩
 unfold receipt declareOperation at declared
 dsimp only[Scope.setResult] at declared
 rw[receipt_countReads] at declared
 split at declared
 · rename_i key is
   rw[receipt_setReceipt] at declared
   split at declared
   · rename_i same
     subst same
     obtain ⟨rfl,claimed,campaign⟩:=imports other is
     obtain rfl:=Option.some.inj declared
     refine ⟨⟨?_,rfl,campaign⟩,.inr fun item found=>Claimed.unfailed claimed found⟩
     -- the first intent is written after a complete listing without the lead
     unfold declaredReceipt
     cases previous:Accounting.receipt s.request.result.accounting (.leadImport other) with
     | none=>rfl
     | some old=>exact (h.traced.intents other old previous).1
   · exact ⟨h.traced.intents other row declared,.inl (by rw[receipt,declared];rfl)⟩
 · exact ⟨h.traced.intents other row declared,.inl (by rw[receipt,declared];rfl)⟩

end

def Facts (targetId:String)(r:SendRequest):Phase→Prop
 | .unpromised=>False
 | .campaign _=>truthy r.providerCampaignId=none
 | .lead _ campaignId | .verification campaignId _ | .verified campaignId _ =>
  r.providerCampaignId=some campaignId ∧ campaignId≠""
 | .declaring declaration=>∀other,declaration.key=some (.leadImport other) →
  other=targetId ∧ Claimed targetId r ∧ (truthy r.providerCampaignId).isSome
 | .process | .counting _ | .finalizing _ _ | .retrying=>True

section
variable {targetId:String}{s s':Scope}{item:SendItem}{base:Scope}

lemma leadPhase_facts {r:SendRequest}{campaignId:String}
 (known:r.providerCampaignId=some campaignId ∧ campaignId≠"")(c:Snapshot) :
 Facts targetId r (leadPhase c campaignId):=by
 unfold leadPhase
 split <;> exact known

lemma route_facts (h:Coherent targetId base s)
 (held:item.status.isTerminal=false→s.target.sendRequestId=some s.request.requestId)
 (promised:PythonValues.strip s.target.opportunityKey≠"") :
 Facts targetId s.request (route ⟨s.request,item,s.target⟩):=by
 unfold route
 rw[if_neg promised]
 split
 · trivial
 · rename_i open'
   have held:=held (Bool.eq_false_iff.mpr open')
   split
   · rename_i unknown
     exact (Option.or_eq_none_iff.mp unknown).1
   · rename_i campaignId known
     refine leadPhase_facts ?_ _
     unfold Snapshot.campaignId at known
     cases own:truthy s.request.providerCampaignId with
     | some id =>
      rw[own] at known
      obtain rfl:=Option.some.inj known
      exact truthy_some own
     | none =>
      rw[own,Option.none_or] at known
      rw[h.bound held campaignId known] at own
      cases own

variable {casefold:String→String}{o:Oracle}{w:Worker}{p p':Provider}{next:Phase}
 {operations:Operations}

lemma way_coherent {next:Option Phase}(h:Coherent w.targetId base s)
 (found:s.request.item? w.targetId=some item)
 (standing:Standing w.targetId s.request w.phase)
 (facts:Facts w.targetId s.request w.phase)
 (way:Way casefold o w s p ⟨.commit s' next,p',operations⟩) :
 Coherent w.targetId base s':=by
 generalize turn:(⟨.commit s' next,p',operations⟩:Turn)=t at way
 cases way with
 | completed _ _ checked =>
  cases turn
  exact completed_coherent h checked
 | retried s₁ _ _ reached _ =>
  cases turn
  rcases reached with rfl|checked
  · exact wait_coherent h found true (.inl rfl)
  · rcases goOn_cases found checked with ⟨_,rfl⟩|⟨_,rfl⟩
    · exact wait_coherent h found true (.inl rfl)
    · obtain ⟨item₁,working⟩:=adoptBinding_working found
      exact wait_coherent (goOn_coherent h found checked).1 working.found true (.inl rfl)
 | declared=>cases turn
 | vanished s₁ _ checked _ | routed s₁ _ _ _ _ checked _ | verification _ _ s₁ _ _ _ checked =>
  cases turn
  exact (goOn_coherent h found checked).1
 | campaign c s₁ campaignId _ _ _ phase checked _ named =>
  cases turn
  obtain ⟨h₁,same⟩:=goOn_coherent h found checked
  rw[phase] at facts
  exact persistCampaign_coherent h₁ ((congrArg truthy same).trans facts) named
 | lead c campaignId instantlyId s₁ _ _ _ phase checked _ _ =>
  cases turn
  obtain ⟨h₁,same⟩:=goOn_coherent h found checked
  rw[phase] at facts standing
  obtain ⟨_,item₁,working⟩:=goOn_working found (Claimed.live standing found) checked
  have live:item₁.status.isTerminal=false:=by
   rw[working.status]
   exact Claimed.live standing found
  exact confirmImport_coherent (persistLead_coherent h₁ working.found live
   (same.trans facts.1) facts.2 instantlyId)
 | pending campaignId instantlyId _ phase =>
  cases turn
  rw[phase] at facts standing
  refine wait_coherent h found false (.inr ⟨Claimed.live standing found,?_⟩)
  rw[facts.1,truthy_named facts.2]
  rfl
 | refused campaignId instantlyId error _ _ phase =>
  cases turn
  rw[phase] at facts
  exact failed_coherent h found facts.1 facts.2 instantlyId error
 | unpromised _ _ phase =>
  rw[phase] at facts
  exact facts.elim
 | accepted campaignId instantlyId _ _ phase =>
  cases turn
  rw[phase] at facts
  exact accepted_coherent h found facts.1 facts.2 instantlyId
 | finalized campaignId status activated _ _ _ _ =>
  cases turn
  exact ⟨⟨h.traced.intents,h.traced.items⟩,h.bound,h.campaign,h.foreign,h.unsent⟩
 | permitted declaration s₁ phase checked =>
  cases turn
  obtain ⟨h₁,same⟩:=goOn_coherent h found checked
  rw[phase] at facts
  refine declareOperation_coherent h₁ fun other key=>?_
  obtain ⟨own,claimed,campaign⟩:=facts other key
  refine ⟨own,?_,by rw[same];exact campaign⟩
  obtain ⟨_,item₁,working⟩:=goOn_working found (Claimed.live claimed found) checked
  simp only[Claimed,found,working.found,Option.any_some,working.status] at claimed ⊢
  exact claimed

lemma way_facts (h:Coherent w.targetId base s) (found:s.request.item? w.targetId=some item)
 (facts:Facts w.targetId s.request w.phase)
 (promised:PythonValues.strip s.target.opportunityKey≠"")
 (way:Way casefold o w s p ⟨.commit s' (some next),p',operations⟩) :
 Facts w.targetId s'.request next:=by
 generalize turn:(⟨.commit s' (some next),p',operations⟩:Turn)=t at way
 cases way with
 | completed | retried | declared | vanished | pending | finalized=>cases turn
 | routed s₁ item₁ _ _ _ checked own =>
  cases turn
  refine route_facts (goOn_coherent h found checked).1 (fun live=>?_) ?_
  · rcases goOn_cases found checked with ⟨past,rfl⟩|⟨unchanged,rfl⟩
    · obtain rfl:=Option.mem_unique found own
      rw[past] at live
      cases live
    · obtain ⟨_,working⟩:=adoptBinding_working found
      rw[adoptBinding_target,working.request]
      exact unchanged.reserved
  · rcases goOn_cases found checked with ⟨_,rfl⟩|⟨_,rfl⟩
    · exact promised
    · rw[adoptBinding_target]
      exact promised
 | campaign c s₁ campaignId _ _ _ _ _ _ named =>
  cases turn
  exact leadPhase_facts ⟨rfl,named⟩ c
 | lead c campaignId instantlyId s₁ _ _ _ phase checked _ _ =>
  cases turn
  rw[phase] at facts
  refine ⟨?_,facts.2⟩
  rw[(confirmImport_request _).1]
  exact (goOn_coherent h found checked).2.trans facts.1
 | verification campaignId instantlyId s₁ _ _ phase checked =>
  cases turn
  rw[phase] at facts
  exact ⟨(goOn_coherent h found checked).2.trans facts.1,facts.2⟩
 | refused | unpromised | accepted =>
  injection turn with ending
  injection ending with _ is
  obtain ⟨status,_,rfl⟩:=Option.map_eq_some_iff.mp is.symm
  trivial
 | permitted =>
  cases turn
  split <;> trivial

lemma retrying_over (retrying:w.phase=.retrying)
 (way:Way casefold o w s p ⟨.commit s' (some next),p',operations⟩):False:=by
 generalize turn:(⟨.commit s' (some next),p',operations⟩:Turn)=t at way
 cases way with
 | completed | retried | declared | vanished | pending | finalized=>cases turn
 | routed _ _ _ _ phase | campaign _ _ _ _ _ _ phase | lead _ _ _ _ _ _ _ phase
 | verification _ _ _ _ _ phase | refused _ _ _ _ _ phase | unpromised _ _ phase
 | accepted _ _ _ _ phase | permitted _ _ phase =>
  rw[retrying] at phase
  cases phase

lemma facts_of_lease {targetId:String}{r:SendRequest}{phase:Phase}
 {leaseExpiresAt:Option ℕ}(h:Facts targetId r phase) :
 Facts targetId {r with leaseExpiresAt} phase:=by
 cases phase <;> exact h

lemma accounted_grows (h:Accounted targetId s s'){key:MutationKey}
 (declared:(receipt s.request key).isSome=true):(receipt s'.request key).isSome=true:=by
 cases h with
 | kept same=>rwa[receipt_of_books same]
 | declared own r _ receipts _ =>
  rw[receipts]
  split
  · rfl
  · exact declared
 | counted receipts _=>rwa[receipts]
 | charged due intent _ receipts _ =>
  rw[receipts]
  split
  · rfl
  · exact declared

def Permitted (operations:Operations)(r:SendRequest):Prop:=
 ∀targetId,.leadImport targetId∈operations.readyMutations →
  (receipt r (.leadImport targetId)).isSome=true

lemma Permitted.within (h:Permitted w.operations s.request)
 (within:Within w operations)(accounted:Accounted targetId s s') :
 Permitted operations s'.request:=
 fun other ready=>accounted_grows accounted (h other (within _ ready))

lemma way_permitted (h:Permitted w.operations s.request)
 (way:Way casefold o w s p ⟨.commit s' (some next),p',operations⟩) :
 Permitted operations s'.request:=by
 have accounted:=way_accounted way
 generalize turn:(⟨.commit s' (some next),p',operations⟩:Turn)=t at way
 cases way with
 | completed | retried | declared | vanished | pending | finalized=>cases turn
 | routed _ _ _ within | campaign _ _ _ _ _ within | lead _ _ _ _ _ _ within
 | verification _ _ _ _ within =>
  cases turn
  exact h.within within accounted
 | refused _ _ _ _ within | unpromised _ within | accepted _ _ _ within =>
  obtain ⟨_,rfl⟩:p'=p ∧ operations=_:=by
   injection turn with _ provider own
   exact ⟨provider,own⟩
  exact h.within within accounted
 | permitted declaration s₁ _ checked =>
  cases turn
  intro other ready
  rcases List.mem_append.mp ready with key|ready
  · have key:declaration.key=some (.leadImport other):=by simpa using key
    unfold receipt declareOperation
    dsimp only[Scope.setResult]
    rw[receipt_countReads,key]
    rw[receipt_setReceipt,if_pos rfl]
    rfl
  · exact accounted_grows accounted (h other ready)

end

end Kivou.ProspectBindings
