import Kivou.ProspectAccounting
import Kivou.Texts

set_option autoImplicit false

/-! The provider offers no idempotency: a campaign or a lead is created in the guard that has just
read a complete listing without it. -/
namespace Kivou.ProspectCreations
open ProspectRecords ProspectDelivery ProspectWorker ProspectProcess ProspectActions ProspectRuns
open ProspectLeases ProspectStranding ProspectGuards ProspectReservations ProspectAccounting

lemma space_notMem_isoDate (day:ℕ) : ' ' ∉ (isoDate day).toList:=by
 have digits:∀n:ℕ,' ' ∉ (toString n).toList:=Texts.notMem_digits (by decide)
 have two:∀n:ℕ,' ' ∉ (if n<10 then "0"++toString n else toString n).toList:=by
  intro n
  split
  · rw[String.toList_append,List.mem_append]
    exact fun mem=>mem.elim (by decide) (digits n)
  · exact digits n
 unfold isoDate
 generalize civilDate day=date
 obtain ⟨year,month,dayOfMonth⟩:=date
 simp only[String.toList_append,List.mem_append,not_or]
 exact ⟨⟨⟨⟨digits _,by decide⟩,two _⟩,by decide⟩,two _⟩

lemma fullCampaignName_inj {day day':ℕ}{id id':String}
 (h:fullCampaignName day id=fullCampaignName day' id'):id=id':=by
 have texts:"Kivou assisted ".toList++((isoDate day).toList ++ ' ' :: id.toList) =
   "Kivou assisted ".toList++((isoDate day').toList ++ ' ' :: id'.toList):=by
  have lists:("Kivou assisted "++isoDate day++" "++id).toList =
    ("Kivou assisted "++isoDate day'++" "++id').toList:=congrArg String.toList h
  have space:" ".toList=[' ']:=by decide
  simp only[String.toList_append,List.append_assoc,space] at lists
  exact lists
 have rest:=List.append_cancel_left texts
 have ids:=Texts.append_cons_inj (space_notMem_isoDate day) (space_notMem_isoDate day') rest
 exact String.toList_inj.mp ids.2

def Named (r:SendRequest):Prop:=∀due,receipt r .campaignCreate=some due →
  due.campaignName=some (fullCampaignName r.requestDay r.requestId)

lemma Named.campaignName {r:SendRequest}(h:Named r){name:String}
 (named:campaignName r=some name):name=fullCampaignName r.requestDay r.requestId:=by
 unfold ProspectDelivery.campaignName at named
 split at named
 · exact (Option.some.inj named).symm
 · rename_i due found
   have own:=h due found
   rw[own] at named
   dsimp only at named
   split at named
   · exact (Option.some.inj named).symm
   · cases named

lemma Named.of_books {r r':SendRequest}(h:Named r)
 (same:(r'.requestId,r'.requestDay,r'.result.accounting) =
  (r.requestId,r.requestDay,r.result.accounting)):Named r':=by
 simp only[Prod.mk.injEq] at same
 obtain ⟨id,day,accounting⟩:=same
 intro due found
 rw[id,day]
 refine h due ?_
 unfold receipt at found ⊢
 rw[←accounting]
 exact found

lemma Named.accounted {targetId:String}{s s':Scope}(h:Named s.request)
 (accounted:Accounted targetId s s')
 (same:(s'.request.requestId,s'.request.requestDay) =
  (s.request.requestId,s.request.requestDay)):Named s'.request:=by
 obtain ⟨id,day⟩:=Prod.mk.inj same
 intro due found
 rw[id,day]
 cases accounted with
 | kept books' =>
  rw[receipt_of_books books'] at found
  exact h due found
 | counted receipts _ =>
  rw[receipts] at found
  exact h due found
 | declared key r own receipts _ =>
  rw[receipts] at found
  split at found
  · rename_i is
    obtain rfl:=Option.some.inj found
    obtain ⟨id',rest⟩:=Prod.mk.inj own
    obtain ⟨day',_⟩:=Prod.mk.inj rest
    rw[←is,←id',←day']
    rfl
  · exact h due found
 | charged _ _ _ receipts _ =>
  rw[receipts,if_neg (by simp)] at found
  exact h due found

def confirmed (targetId:String)(r:SendRequest):Bool:=
 (receipt r (.leadImport targetId)).any (·.confirmed)

lemma confirmed_of_receipt {r r':SendRequest}{targetId:String}
 (same:receipt r' (.leadImport targetId)=receipt r (.leadImport targetId)) :
 confirmed targetId r'=confirmed targetId r:=by
 unfold confirmed
 rw[same]

lemma accounted_confirmed {targetId:String}{s s':Scope}(h:Accounted targetId s s') :
 (∀other,other≠targetId→confirmed other s'.request=confirmed other s.request) ∧
  s'.target.instantlyCreditUnits+(if confirmed targetId s.request then 1 else 0) =
   s.target.instantlyCreditUnits+if confirmed targetId s'.request then 1 else 0:=by
 cases h with
 | kept same =>
  have credits:s'.target.instantlyCreditUnits=s.target.instantlyCreditUnits:=congrArg (·.2.2.2) same
  have all:=fun other=>confirmed_of_receipt (receipt_of_books same (.leadImport other))
  exact ⟨fun other _=>all other,by rw[credits,all]⟩
 | counted receipts credits =>
  have all:=fun other=>confirmed_of_receipt (receipts (.leadImport other))
  exact ⟨fun other _=>all other,by rw[credits,all]⟩
 | declared key r own receipts credits =>
  have all:∀other,confirmed other s'.request=confirmed other s.request:=by
   intro other
   unfold confirmed
   rw[receipts]
   split
   · rename_i is
     have before:receipt r key=receipt s.request (.leadImport other):=by
      rw[is]
      exact congrArg (fun own=>Accounting.receipt own.2.2 key) own
     unfold receipt at before
     simp only[declaredReceipt,before,Option.any_some]
     unfold receipt
     cases Accounting.receipt s.request.result.accounting (.leadImport other) <;> rfl
   · rfl
  exact ⟨fun other _=>all other,by rw[credits,all]⟩
 | charged due intent fresh receipts credits =>
  refine ⟨fun other ne=>confirmed_of_receipt ?_,?_⟩
  · rw[receipts,if_neg (by simpa using ne)]
  · have before:confirmed targetId s.request=false:=by
     simp only[confirmed,intent,Option.any_some,fresh]
    have after':confirmed targetId s'.request=true:=by
     simp only[confirmed,receipts,↓reduceIte,Option.any_some]
    rw[before,after',credits]
    simp

def Charged (opening:Opening)(db:Db):Prop:=
 ∀targetId t,db.target? targetId=some t→∃before∈opening.targets,
  before.targetId=targetId ∧ t.instantlyCreditUnits =
   before.instantlyCreditUnits+db.requests.countP (confirmed targetId)

section
variable {opening:Opening}{db db':Db}

lemma Charged.of_credits (h:Charged opening db)
 (counts:∀targetId,db'.requests.countP (confirmed targetId) =
  db.requests.countP (confirmed targetId))
 (credits:∀targetId t',db'.target? targetId=some t'→∃t,db.target? targetId=some t ∧
  t'.instantlyCreditUnits=t.instantlyCreditUnits):Charged opening db':=by
 intro targetId t' found
 obtain ⟨t,was,same⟩:=credits targetId t' found
 obtain ⟨before,mem,id,sum⟩:=h targetId t was
 exact ⟨before,mem,id,by rw[same,counts,sum]⟩

lemma edit_credits {i:Step}{t t':Target}(h:Edit i t t') :
 t'.instantlyCreditUnits=t.instantlyCreditUnits:=by
 cases h <;> rfl

lemma countP_setRequest (ids:(db.requests.map (·.requestId)).Nodup){r r':SendRequest}
 {requestId:String}(found:db.request? requestId=some r)
 (id:r'.requestId=r.requestId)(q:SendRequest→Bool) :
 (db.setRequest r').requests.countP q+(if q r then 1 else 0) =
  db.requests.countP q+if q r' then 1 else 0:=by
 unfold Db.setRequest
 rw[id]
 exact Tables.countP_update (f:=fun _=>r') q ids (Db.request?_some found).1

end

lemma step_charged (policy:Policy)(opening:Opening)(st:System)(i:Step)
 (h:Reserved st ∧ Charged opening st.db) :
 Reserved (step policy st i) ∧ Charged opening (step policy st i).db:=by
 obtain ⟨reserved,charged⟩:=h
 refine ⟨step_reserved policy st i reserved,?_⟩
 have stepped:=step_stepped policy st reserved.keyed i
 generalize step policy st i=st' at stepped
 cases stepped with
 | kept | crashed=>exact charged
 | outside _ db edited =>
  refine charged.of_credits (fun _=>by rw[edited.requests]) fun targetId t' found=>?_
  have edit:=edited.targets targetId
  rw[found] at edit
  generalize st.db.target? targetId=row at edit
  cases edit with
  | some edit=>exact ⟨_,rfl,edit_credits edit⟩
 | conflicted c at' around targets r checked _ _ =>
  have credits:=fun targetId t'
    (found:(setTargets st.db (targets.map fun t=>t)).target? targetId=some t') =>
   batch_column (·.instantlyCreditUnits) (fun _=>rfl) (fun _=>rfl) (fun _ _=>rfl) checked found
  rw[List.map_id'] at credits
  exact charged.of_credits (fun _=>by rw[(setTargets_tables targets st.db).1]) credits
 | reserved c at' around targets checked _ _ =>
  refine charged.of_credits (fun _=>?_)
   fun targetId t'=>batch_column (f:=fun t=>{t with sendRequestId:=some c.requestId})
    (·.instantlyCreditUnits) (fun _=>rfl) (fun _=>rfl) (fun _ _=>rfl) checked
  exact List.countP_cons_of_neg Bool.false_ne_true
 | claimed requestId now claimedAt skipped r claimedRow targetId found claim =>
  have sound:=reserved.sound r (Db.request?_some found).1
  have id:claimedRow.requestId=r.requestId:=
   congrArg Prod.fst (claimLocked_held sound claim False.elim).same
  refine charged.of_credits (fun other=>?_) fun other t' read=>⟨t',read,rfl⟩
  have moved:=countP_setRequest reserved.ids found id (confirmed other)
  have same:confirmed other claimedRow=confirmed other r:=by
   refine confirmed_of_receipt ?_
   unfold receipt
   rw[(claimLocked_result claim).1]
  rw[same] at moved
  exact Nat.add_right_cancel moved
 | worked leaseId o st' worked =>
  cases worked with
  | absent | stopped | counted | dropped | turned=>exact charged
  | committed w s s' next p' operations held opened way =>
   obtain ⟨requested,targeted,_,_,item,own,_⟩:=openGuard_some opened
   obtain ⟨standing,_,same⟩:=reserved.left held opened way
   have guarded:=way_guarded own standing way
   obtain ⟨others,credits⟩:=accounted_confirmed (way_accounted way)
   have id:s'.request.requestId=s.request.requestId:=congrArg Prod.fst same
   have renewed:∀other,confirmed other (renew leaseId o.renewedAt s'.request) =
     confirmed other s'.request:=by
    intro other
    refine confirmed_of_receipt ?_
    unfold receipt
    rw[renew_result]
   have counted:∀other,(closeGuard st.db leaseId o.renewedAt s').requests.countP
     (confirmed other)+(if confirmed other s.request then 1 else 0) =
     st.db.requests.countP (confirmed other) +
      if confirmed other s'.request then 1 else 0:=by
    intro other
    have renewedId:(renew leaseId o.renewedAt s'.request).requestId=s.request.requestId:=
     (congrArg Prod.fst renew_identity).trans id
    have moved:=countP_setRequest reserved.ids requested renewedId (confirmed other)
    rw[renewed] at moved
    exact moved
   intro targetId t found
   rw[closeGuard_target? opened guarded.contact] at found
   split at found
   · rename_i same
     obtain rfl:=Option.some.inj found
     obtain ⟨before,mem,named,sum⟩:=charged w.targetId s.target targeted
     refine ⟨before,mem,named.trans same.symm,?_⟩
     have count:=counted targetId
     rw[same] at count ⊢
     dsimp only
     omega
   · rename_i ne
     obtain ⟨before,mem,named,sum⟩:=charged targetId t found
     have count:=counted targetId
     rw[others targetId ne] at count
     refine ⟨before,mem,named,?_⟩
     dsimp only
     omega

/-- What the provider promises of a listing that ends: it shows every campaign
that was created for the request, and every lead that was created in the campaign. -/
def Shown (policy:Policy)(st:System):Step→Prop
 | .work leaseId o=>∀w,st.workers leaseId=some w →(∀snapshot items,w.phase=.campaign snapshot →
    listed o.campaigns maxReconciliationPages none=some items →
    ∀c∈st.provider.campaigns,c.requestId=w.requestId →∃item∈items,item.name=some c.name) ∧
   ∀snapshot campaignId items,w.phase=.lead snapshot campaignId →
    listed o.leads maxReconciliationPages none=some items →
    ∀l∈st.provider.leads,l.campaignId=campaignId→∃item∈items,∃email,
     item.email=some email ∧ policy.casefold email=policy.casefold l.email
 | _=>True

def leadKey (policy:Policy)(l:Lead):String × String:=(l.campaignId,policy.casefold l.email)

/-- The campaigns and leads that the workers have created, and the names that
they create campaigns under. -/
structure Created (policy:Policy)(st:System):Prop extends Reserved st where
 named:∀requestId r,st.db.request? requestId=some r→Named r
 snapshots:∀leaseId w c,st.workers leaseId=some w→w.phase=.campaign c →
  Named c.request ∧ c.request.requestId=w.requestId
 campaigns:∀c∈st.provider.campaigns,∃day,c.name=fullCampaignName day c.requestId
 campaignOnce:(st.provider.campaigns.map (·.name)).Nodup
 leadOnce:(st.provider.leads.map (leadKey policy)).Nodup

section
variable {policy:Policy}{st:System}{leaseId:ℕ}{o:Oracle}{w:Worker}{s:Scope} {p':Provider}

lemma unlisted_campaign {c:Snapshot}{name:String}{operations:Operations}
 (shown:∀items,listed o.campaigns maxReconciliationPages none=some items →
  ∀c∈st.provider.campaigns,c.requestId=w.requestId→∃item∈items,item.name=some c.name)
 (campaigns:∀c∈st.provider.campaigns,∃day,c.name=fullCampaignName day c.requestId)
 (own:Named c.request ∧ c.request.requestId=w.requestId)
 (named:campaignName c.request=some name)
 (unlisted:findCampaign name o.campaigns w.atReads=.done none operations) :
 (∃day,name=fullCampaignName day w.requestId) ∧
  ∀other∈st.provider.campaigns,other.name≠name:=by
 have full:=own.1.campaignName named
 rw[own.2] at full
 refine ⟨⟨_,full⟩,fun other mem same=>?_⟩
 obtain ⟨day,is⟩:=campaigns other mem
 have id:other.requestId=w.requestId:=fullCampaignName_inj (is.symm.trans (same.trans full))
 obtain ⟨items,whole,none'⟩:=scan_none unlisted
 obtain ⟨item,there,shows⟩:=shown items whole other mem id
 have unselected:=none' item there
 rw[same] at shows
 unfold selectCampaign at unselected
 rw[shows] at unselected
 split at unselected
 · rename_i itemName id' read _
   obtain rfl:=Option.some.inj (truthy_some read).1
   rw[if_pos rfl] at unselected
   cases Option.some.inj unselected
 · cases unselected

lemma unlisted_lead {campaignId email:String}{operations:Operations}
 (shown:∀items,listed o.leads maxReconciliationPages none=some items →
  ∀l∈st.provider.leads,l.campaignId=campaignId→∃item∈items,∃email,
   item.email=some email ∧ policy.casefold email=policy.casefold l.email)
 (unlisted:findLead policy.casefold w.targetId campaignId email o.leads w.atReads =
  .done none operations) :
 ∀other∈st.provider.leads,leadKey policy other≠(campaignId,policy.casefold email):=by
 intro other mem same
 obtain ⟨inside,address⟩:=Prod.mk.inj same
 obtain ⟨items,whole,none'⟩:=scan_none unlisted
 obtain ⟨item,there,shownEmail,shows,folds⟩:=shown items whole other mem inside
 have unselected:=none' item there
 unfold selectLead at unselected
 rw[shows] at unselected
 split at unselected
 · rename_i id itemEmail _ is
   obtain rfl:=Option.some.inj is
   split at unselected
   · cases unselected
   · rw[if_pos (folds.trans address)] at unselected
     cases Option.some.inj unselected
 · cases unselected

lemma effect_created (h:Created policy st)(held:st.workers leaseId=some w)
 (shown:Shown policy st (.work leaseId o))(id:s.request.requestId=w.requestId)
 (effect:Effect policy.casefold o w s st.provider p') :
 (∀c∈p'.campaigns,∃day,c.name=fullCampaignName day c.requestId) ∧
  (p'.campaigns.map (·.name)).Nodup ∧ (p'.leads.map (leadKey policy)).Nodup:=by
 obtain ⟨shownCampaigns,shownLeads⟩:=shown w held
 cases effect with
 | nothing | activation=>exact ⟨h.campaigns,h.campaignOnce,h.leadOnce⟩
 | campaign c name listed permitted phase named unlisted allowed permit =>
  obtain ⟨⟨day,full⟩,fresh⟩:=unlisted_campaign (fun items=>shownCampaigns c items phase)
   h.campaigns (h.snapshots leaseId w c held phase) named unlisted
  refine ⟨fun other mem=>?_,?_,h.leadOnce⟩
  · rcases List.mem_cons.mp mem with rfl|mem
    · exact ⟨day,full.trans (congrArg (fullCampaignName day) id.symm)⟩
    · exact h.campaigns other mem
  · refine List.nodup_cons.mpr ⟨fun mem=>?_,h.campaignOnce⟩
    obtain ⟨other,there,same⟩:=List.mem_map.mp mem
    exact fresh other there same
 | lead c campaignId listed permitted phase unlisted allowed permit current =>
  have fresh:=unlisted_lead (fun items=>shownLeads c campaignId items phase) unlisted
  refine ⟨h.campaigns,h.campaignOnce,List.nodup_cons.mpr ⟨fun mem=>?_,h.leadOnce⟩⟩
  obtain ⟨other,there,same⟩:=List.mem_map.mp mem
  exact fresh other there same

end

lemma leadPhase_ne_campaign (c c':Snapshot)(campaignId:String) :
 leadPhase c campaignId≠.campaign c':=by
 unfold leadPhase
 split <;> exact Phase.noConfusion

lemma way_campaign {casefold:String→String}{o:Oracle}{w:Worker}{s s':Scope}
 {p p':Provider}{c:Snapshot}{operations:Operations}
 (way:Way casefold o w s p ⟨.commit s' (some (.campaign c)),p',operations⟩) :
 ∃s₁,checkTarget w.targetId o.now s=.goOn s₁ ∧ c.request=s₁.request:=by
 generalize turn:(⟨.commit s' (some (.campaign c)),p',operations⟩:Turn)=t at way
 cases way with
 | routed s₁ item _ _ _ checked _ =>
  injection turn with ending
  injection ending with _ next
  have routed:=(Option.some.inj next).symm
  refine ⟨s₁,checked,?_⟩
  unfold route at routed
  split at routed
  · cases routed
  · split at routed
    · cases routed
    · split at routed
      · injection routed with is
        rw[←is]
      · exact absurd routed (leadPhase_ne_campaign _ _ _)
 | campaign c' _ campaignId _ _ _ _ _ _ _ =>
  injection turn with ending
  injection ending with _ next
  exact absurd (Option.some.inj next).symm (leadPhase_ne_campaign _ _ _)
 | permitted _ _ _ _ =>
  injection turn with ending
  injection ending with _ next
  have is:=(Option.some.inj next).symm
  split at is <;> cases is
 | refused | unpromised | accepted =>
  injection turn with ending
  injection ending with _ next
  obtain ⟨status,_,is⟩:=Option.map_eq_some_iff.mp next.symm
  cases is
 | _=>cases turn

lemma start_created (policy:Policy)(opening:Opening):Created policy (start opening):=by
 refine ⟨start_reserved opening,?_,?_,?_,List.nodup_nil,List.nodup_nil⟩
 · intro requestId r found
   cases found
 · intro leaseId w c held
   cases held
 · intro c mem
   cases mem

lemma step_created (policy:Policy)(st:System)(i:Step)(h:Created policy st)
 (shown:Shown policy st i):Created policy (step policy st i):=by
 have reserved:=step_reserved policy st i h.toReserved
 have stepped:=step_stepped policy st h.keyed i
 generalize step policy st i=st' at reserved stepped
 have provided:(∀c∈st'.provider.campaigns,∃day,c.name=fullCampaignName day c.requestId) ∧
   (st'.provider.campaigns.map (·.name)).Nodup ∧
   (st'.provider.leads.map (leadKey policy)).Nodup:=by
  rcases stepped_effect stepped with same|⟨leaseId,o,w,s,s',rfl,held,opened,reached,effect⟩
  · rw[same]
    exact ⟨h.campaigns,h.campaignOnce,h.leadOnce⟩
  · have id:s'.request.requestId=w.requestId:=
     (congrArg Prod.fst (books_of_reached reached)).trans
      (Db.request?_some (openGuard_some opened).1).2
    exact effect_created h held shown id effect
 suffices rest:(∀requestId r,st'.db.request? requestId=some r→Named r) ∧
   ∀leaseId w c,st'.workers leaseId=some w→w.phase=.campaign c →
    Named c.request ∧ c.request.requestId=w.requestId from
  ⟨reserved,rest.1,rest.2,provided.1,provided.2.1,provided.2.2⟩
 have left:∀leaseId l w c,(st.setWorker leaseId none).workers l=some w →
   w.phase=.campaign c→Named c.request ∧ c.request.requestId=w.requestId:=by
  intro leaseId l w c held phase
  rcases setWorker_some held with ⟨_,none'⟩|⟨_,held⟩
  · cases none'
  · exact h.snapshots l w c held phase
 clear reserved provided
 cases stepped with
 | kept=>exact ⟨h.named,h.snapshots⟩
 | crashed leaseId=>exact ⟨h.named,left leaseId⟩
 | outside _ db edited =>
  refine ⟨fun requestId r found=>h.named requestId r ?_,h.snapshots⟩
  rw[←found,Db.request?,Db.request?,edited.requests]
 | conflicted c at' around targets r _ _ _ =>
  refine ⟨fun requestId r found=>h.named requestId r ?_,h.snapshots⟩
  rw[←found,Db.request?,Db.request?,(setTargets_tables targets st.db).1]
 | reserved c at' around targets _ _ _ =>
  refine ⟨fun requestId r found=>?_,h.snapshots⟩
  have found:=(request?_cons (newRequest c at') st.db.requests requestId).symm.trans found
  split at found
  · obtain rfl:=Option.some.inj found
    intro due declared
    cases declared
  · exact h.named requestId r found
 | claimed requestId now claimedAt skipped r claimedRow targetId found claim =>
  have sound:=h.sound r (Db.request?_some found).1
  have same:=(claimLocked_held sound claim False.elim).same
  constructor
  · intro other row read
    change (st.db.setRequest claimedRow).request? other=some row at read
    rw[Db.request?_setRequest] at read
    split at read
    · obtain ⟨_,_,rfl⟩:=Option.map_eq_some_iff.mp read
      have id:claimedRow.requestId=r.requestId:=congrArg Prod.fst same
      have day:claimedRow.requestDay=r.requestDay:=congrArg (·.2.2.1) same
      refine (h.named requestId r found).of_books ?_
      rw[(claimLocked_result claim).1,id,day]
    · exact h.named other row read
  · intro l w c held phase
    rcases setWorker_some held with ⟨_,mine⟩|⟨_,held⟩
    · obtain rfl:=Option.some.inj mine
      cases phase
    · exact h.snapshots l w c held phase
 | worked leaseId o st' worked =>
  cases worked with
  | absent=>exact ⟨h.named,h.snapshots⟩
  | stopped | dropped=>exact ⟨h.named,left leaseId⟩
  | counted w c r status held phase found final =>
   refine ⟨h.named,fun l w' c' held' phase'=>?_⟩
   rcases setWorker_some held' with ⟨_,mine⟩|⟨_,held'⟩
   · obtain rfl:=Option.some.inj mine
     cases phase'
   · exact h.snapshots l w' c' held' phase'
  | turned w s t phase held opened way turn =>
   refine ⟨h.named,fun l w' c' held' phase'=>?_⟩
   rcases setWorker_some held' with ⟨_,mine⟩|⟨_,held'⟩
   · obtain rfl:=Option.some.inj mine
     rcases turn with rfl|⟨declaration,rfl,_⟩ <;> cases phase'
   · exact h.snapshots l w' c' held' phase'
  | committed w s s' next p' operations held opened way =>
   have requested:=(openGuard_some opened).1
   obtain ⟨_,_,same⟩:=h.left held opened way
   have id:s'.request.requestId=s.request.requestId:=congrArg Prod.fst same
   have day:s'.request.requestDay=s.request.requestDay:=congrArg (·.2.2.1) same
   have before:=h.named w.requestId s.request requested
   constructor
   · intro requestId r read
     rw[closeGuard_request? opened id] at read
     split at read
     · obtain rfl:=Option.some.inj read
       have renewedId:(renew leaseId o.renewedAt s'.request).requestId =
         s'.request.requestId:=congrArg Prod.fst renew_identity
       have renewedDay:(renew leaseId o.renewedAt s'.request).requestDay =
         s'.request.requestDay:=congrArg (·.2.2.1) renew_identity
       refine (before.accounted (way_accounted way) (Prod.ext id day)).of_books ?_
       rw[renew_result,renewedId,renewedDay]
     · exact h.named requestId r read
   · intro l w' c held' phase
     rcases setWorker_some held' with ⟨_,mine⟩|⟨_,held'⟩
     · obtain ⟨next,rfl,rfl⟩:=Option.map_eq_some_iff.mp mine
       obtain rfl:next=.campaign c:=phase
       obtain ⟨s₁,checked,is⟩:=way_campaign way
       have read:=goOn_books checked
       rw[is]
       refine ⟨before.of_books ?_,(congrArg Prod.fst read).trans (Db.request?_some requested).2⟩
       exact congrArg (fun b=>(b.1,b.2.1,b.2.2.1)) read
     · exact h.snapshots l w' c held' phase

/-- Over every interleaving of workers that crash, lose their lease or lose an
answer of the provider, as long as complete listings show what was created: at
most one campaign has the name of a request, at most one lead has an address in a
campaign, and the credits of a target are one for each confirmed import intent. -/
theorem created_at_most_once (policy:Policy)(opening:Opening)(steps:List Step)
 (shown:Runs.Along (step policy) (Shown policy) (start opening) steps) :
 (∀r∈(steps.foldl (step policy) (start opening)).db.requests,∀name,campaignName r=some name →
   (steps.foldl (step policy) (start opening)).provider.campaigns.countP
    (·.name=name)≤1) ∧
  (∀campaignId email,(steps.foldl (step policy) (start opening)).provider.leads.countP
   (fun l=>l.campaignId=campaignId ∧
    policy.casefold l.email=policy.casefold email)≤1) ∧
  Charged opening (steps.foldl (step policy) (start opening)).db:=by
 have created:=shown.invariant (Created policy) (step_created policy) (start_created policy opening)
 have charged:Reserved (steps.foldl (step policy) (start opening)) ∧
   Charged opening (steps.foldl (step policy) (start opening)).db:=
  Runs.invariant (fun st=>Reserved st ∧ Charged opening st.db) (step_charged policy opening)
   steps ⟨start_reserved opening,fun targetId t found=>
    ⟨t,(Db.target?_some found).1,(Db.target?_some found).2,rfl⟩⟩
 refine ⟨fun r mem name named=>?_,fun campaignId email=>?_,charged.2⟩
 · refine le_trans (le_of_eq ?_) (List.nodup_iff_count_le_one.mp created.campaignOnce name)
   rw[List.count,List.countP_map]
   exact List.countP_congr fun c _=>by simp
 · refine le_trans (le_of_eq ?_) (List.nodup_iff_count_le_one.mp created.leadOnce
    (campaignId,policy.casefold email))
   rw[List.count,List.countP_map]
   exact List.countP_congr fun l _=>by simp[leadKey]

lemma shown_of_nothing {policy:Policy}{st:System}{i:Step}
 (nothing:st.provider.campaigns=[] ∧ st.provider.leads=[]):Shown policy st i:=by
 cases i with
 | work leaseId o =>
  intro w _
  rw[nothing.1,nothing.2]
  exact ⟨fun _ _ _ _ _ mem=>(by cases mem),fun _ _ _ _ _ _ mem=>(by cases mem)⟩
 | _=>trivial

def sampleName:String:="Kivou assisted 1970-01-01 r1"

/-- A minute later, a listing that shows the campaign. -/
def listingOracle:Oracle:=
 {sampleOracle with
  now:=60000000
  renewedAt:=60000000
  campaigns:=fun _=>some ⟨[⟨some sampleName,some "new"⟩],none⟩}

def lostSteps:List Step:=sampleSteps 7++[.work 0 {sampleOracle with fate:=.lost}]

def takenOver:List Step:=.claim "r1" 60000000 60000000 []::List.replicate 12 (.work 1 listingOracle)

/-- The answer to the creation is lost, and the worker that takes over finds the campaign. -/
theorem created_at_most_once_sample :
 let reached:=(lostSteps++takenOver).foldl (step samplePolicy) (start sampleOpening)
 reached.provider.leads.length=1 ∧ reached.provider.campaigns.countP (·.name=sampleName)≤1 ∧
  Charged sampleOpening reached.db:=by
 intro reached
 have quiet:∀n<10,((lostSteps.take n).foldl (step samplePolicy)
   (start sampleOpening)).provider=⟨[],[],[]⟩:=by
  decide +kernel
 have made:∀n<13,((takenOver.take n).foldl (step samplePolicy) (lostSteps.foldl
   (step samplePolicy) (start sampleOpening))).provider=⟨[⟨"new",sampleName,"r1"⟩],[],[]⟩:=by
  decide +kernel
 have shown:Runs.Along (step samplePolicy) (Shown samplePolicy) (start sampleOpening)
   (lostSteps++takenOver):=by
  refine (Runs.along_append ..).mpr ⟨Runs.along_of_take fun n less=>shown_of_nothing
   (by rw[quiet n less];exact ⟨rfl,rfl⟩),Runs.along_of_take fun n less=>?_⟩
  cases n with
  | zero=>trivial
  | succ n =>
   have worked:takenOver[n+1]=.work 1 listingOracle:=List.getElem_replicate _
   rw[worked]
   intro w _
   rw[made (n+1) less]
   refine ⟨fun _ items _ listing c mem _=>?_,fun _ _ _ _ _ l mem=>(by cases mem)⟩
   cases listing
   cases List.mem_singleton.mp mem
   exact ⟨_,List.mem_singleton_self _,rfl⟩
 obtain ⟨r,mem,named⟩:∃r∈reached.db.requests,campaignName r=some sampleName:=by
  decide +kernel
 obtain ⟨campaigns,-,charged⟩:=
  created_at_most_once samplePolicy sampleOpening (lostSteps++takenOver) shown
 exact ⟨by decide +kernel,campaigns r mem _ named,charged⟩

end Kivou.ProspectCreations
