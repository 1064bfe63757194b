import Mathlib.Data.Finset.Max
import Kivou.ProspectRuns

set_option autoImplicit false

/-! An item left running by a crashed worker is due only through the lease of its request, which the
next release clears. -/
namespace Kivou.ProspectLeases
open ProspectRecords ProspectDelivery ProspectWorker ProspectProcess ProspectActions ProspectRuns

def identity (r:SendRequest):String × List (String × ℕ) × ℕ × ℕ × List (String × ℕ × ℕ):=
 (r.requestId,r.payload,r.requestDay,r.reservedCount,
  r.items.map fun item=>(item.targetId,item.position,item.expectedVersion))

structure Basic (r:SendRequest):Prop where
 nonempty:r.items≠[]
 reserved:r.reservedCount=r.items.length
 targets:(r.items.map (·.targetId)).Nodup
 positions:(r.items.map (·.position)).Nodup
 ordinary:∀item∈r.items,item.errorCode≠some .recoveryAlreadyAccepted

def Calm (r:SendRequest):Prop:=∀item∈r.items,item.status≠.running
def Done (r:SendRequest):Prop:=∀item∈r.items,item.status.isTerminal=true

/-- A request under a lease. As long as the claims have kept to the order of the items (`inOrder`),
at most the claimed item is running, and it comes before all that are left. -/
structure Busy (inOrder:Prop)(leaseId:ℕ)(targetId:String)(r:SendRequest):Prop extends Basic r where
 running:r.status=.running
 leased:r.leaseId=some leaseId
 expires:r.leaseExpiresAt.isSome
 scheduled:r.nextAttemptAt.isSome
 only:inOrder→∀item∈r.items,item.status=.running→item.targetId=targetId
 first:inOrder→∀item∈r.items,item.status=.running→∀other∈r.items,
  other.status.isTerminal=false→SendItem.before item other=true

inductive Sound (inOrder:Prop)(r:SendRequest):Prop where
 | idle (basic:Basic r)(status:r.status=.queued ∨ r.status=.waiting)
   (unleased:r.leaseId=none)(scheduled:r.nextAttemptAt.isSome)(calm:inOrder→Calm r)
 | busy (leaseId:ℕ)(targetId:String)(busy:Busy inOrder leaseId targetId r)
 | final (basic:Basic r)(status:r.status.isFinal=true)(done:Done r) (counted:r.sentCount=r.sent)

section
variable {inOrder:Prop}{r:SendRequest}{targetId:String}{leaseId:ℕ}{f:SendItem→SendItem}

lemma Basic.eq_of_position (h:Basic r){a b:SendItem}(ma:a∈r.items)(mb:b∈r.items)
 (same:a.position=b.position):a=b:=
 List.inj_on_of_nodup_map h.positions ma mb same

lemma Basic.eq_of_targetId (h:Basic r){a b:SendItem}(ma:a∈r.items)(mb:b∈r.items)
 (same:a.targetId=b.targetId):a=b:=
 List.inj_on_of_nodup_map h.targets ma mb same

lemma Sound.basic (h:Sound inOrder r):Basic r:=by
 cases h with
 | idle basic=>exact basic
 | busy _ _ busy=>exact busy.toBasic
 | final basic=>exact basic

lemma Basic.item?_of_mem (h:Basic r){item:SendItem}(mem:item∈r.items) :
 r.item? item.targetId=some item:=
 Tables.find?_of_mem h.targets mem

lemma mem_setItem {item:SendItem} : item∈(r.setItem targetId f).items ↔
  ∃before∈r.items,(if before.targetId==targetId then f before else before)=item:=
 Tables.mem_update

structure Touch (f:SendItem→SendItem):Prop where
 targetId:∀item,(f item).targetId=item.targetId
 position:∀item,(f item).position=item.position
 expectedVersion:∀item,(f item).expectedVersion=item.expectedVersion
 ordinary:∀item,item.errorCode≠some .recoveryAlreadyAccepted →
  (f item).errorCode≠some .recoveryAlreadyAccepted

lemma identity_setItem (touch:Touch f):identity (r.setItem targetId f)=identity r:=by
 unfold identity SendRequest.setItem
 rw[Tables.map_key_update]
 intro item _ _
 rw[touch.targetId,touch.position,touch.expectedVersion]

lemma Basic.of_identity {r':SendRequest}(h:Basic r)(same:identity r'=identity r)
 (ordinary:∀item∈r'.items,item.errorCode≠some .recoveryAlreadyAccepted):Basic r':=by
 simp only[identity,Prod.mk.injEq] at same
 obtain ⟨-,-,-,reserved,items⟩:=same
 have targets:=congrArg (List.map fun entry=>entry.1) items
 have positions:=congrArg (List.map fun entry=>entry.2.1) items
 have length:=congrArg List.length items
 simp only[List.map_map,List.length_map] at targets positions length
 refine ⟨?_,?_,?_,?_,ordinary⟩
 · rw[←List.length_pos_iff,length,List.length_pos_iff]
   exact h.nonempty
 · rw[reserved,length]
   exact h.reserved
 · exact (show r'.items.map (·.targetId)=_ from targets) ▸ h.targets
 · exact (show r'.items.map (·.position)=_ from positions) ▸ h.positions

lemma Basic.setItem (h:Basic r)(touch:Touch f):Basic (r.setItem targetId f):=by
 refine h.of_identity (identity_setItem touch) fun item mem=>?_
 obtain ⟨before,was,rfl⟩:=mem_setItem.mp mem
 split
 · exact touch.ordinary before (h.ordinary before was)
 · exact h.ordinary before was

lemma Busy.setItem (h:Busy inOrder leaseId targetId r)(touch:Touch f)
 (status:∀item,(f item).status=item.status)
 (next:∀item,(f item).nextAttemptAt=item.nextAttemptAt) :
 Busy inOrder leaseId targetId (r.setItem targetId f):=by
 have kept:∀item:SendItem,(if item.targetId==targetId then f item else item).status=item.status ∧
   (if item.targetId==targetId then f item else item).nextAttemptAt=item.nextAttemptAt ∧
   (if item.targetId==targetId then f item else item).position=item.position ∧
   (if item.targetId==targetId then f item else item).targetId=item.targetId:=by
  intro item
  split
  · exact ⟨status item,next item,touch.position item,touch.targetId item⟩
  · exact ⟨rfl,rfl,rfl,rfl⟩
 refine ⟨h.toBasic.setItem touch,h.running,h.leased,h.expires,h.scheduled,?_,?_⟩
 · intro ordered item mem is
   obtain ⟨before,was,rfl⟩:=mem_setItem.mp mem
   rw[(kept before).1] at is
   rw[(kept before).2.2.2]
   exact h.only ordered before was is
 · intro ordered item mem is other mem' open'
   obtain ⟨before,was,rfl⟩:=mem_setItem.mp mem
   obtain ⟨before',was',rfl⟩:=mem_setItem.mp mem'
   rw[(kept before).1] at is
   rw[(kept before').1] at open'
   have le:=h.first ordered before was is before' was' open'
   simp only[SendItem.before,kept] at le ⊢
   exact le

lemma Busy.calm (h:Busy inOrder leaseId targetId r)(touch:Touch f)
 (stopped:∀item∈r.items,(f item).status≠.running) :
 Busy inOrder leaseId targetId (r.setItem targetId f) ∧ (inOrder→Calm (r.setItem targetId f)):=by
 have calm:inOrder→Calm (r.setItem targetId f):=by
  intro ordered item mem
  obtain ⟨before,was,rfl⟩:=mem_setItem.mp mem
  split
  · exact stopped before was
  · rename_i other
    intro is
    exact other (beq_iff_eq.mpr (h.only ordered before was is))
 refine ⟨⟨h.toBasic.setItem touch,h.running,h.leased,h.expires,h.scheduled,?_,?_⟩,calm⟩
 · exact fun ordered item mem is=>absurd is (calm ordered item mem)
 · exact fun ordered item mem is=>absurd is (calm ordered item mem)

lemma Busy.of_result (h:Busy inOrder leaseId targetId r)(result:SendResult)
 (providerCampaignId:Option String) :
 Busy inOrder leaseId targetId {r with result,providerCampaignId}:=
 ⟨⟨h.nonempty,h.reserved,h.targets,h.positions,h.ordinary⟩,h.running,h.leased,h.expires,
  h.scheduled,h.only,h.first⟩

lemma finalStatus_some {status:RequestStatus}(h:r.finalStatus=some status) :
 Done r ∧ status.isFinal=true:=by
 unfold SendRequest.finalStatus at h
 split at h
 · rename_i all
   refine ⟨fun item mem=>(List.countP_eq_length.mp all) item mem,?_⟩
   obtain rfl:=Option.some.inj h
   split
   · rfl
   · split <;> rfl
 · cases h

lemma Done.calm (h:Done r):Calm r:=fun item mem is=>by
 have terminal:=h item mem
 rw[is] at terminal
 cases terminal

lemma Busy.release_waiting (h:Busy inOrder leaseId targetId r)(calm:inOrder→Calm r)(next:ℕ) :
 Sound inOrder (r.release .waiting (some next)):=
 .idle ⟨h.nonempty,h.reserved,h.targets,h.positions,h.ordinary⟩ (.inr rfl) rfl rfl calm

lemma Busy.release_final (h:Busy inOrder leaseId targetId r){status:RequestStatus}
 (final:r.finalStatus=some status):Sound inOrder (r.release status none):=
 .final ⟨h.nonempty,h.reserved,h.targets,h.positions,h.ordinary⟩ (finalStatus_some final).2
  (finalStatus_some final).1 rfl

structure Released (inOrder:Prop)(r r':SendRequest):Prop where
 sound:Sound inOrder r'
 same:identity r'=identity r
 unleased:r'.leaseId=none

end

section
variable {inOrder:Prop}{leaseId:ℕ}{targetId:String}{now:ℕ}{s s':Scope}

lemma finishAlreadySent_released (h:Busy inOrder leaseId targetId s.request)
 (done:finishAlreadySent targetId now s=some s'):Released inOrder s.request s'.request:=by
 unfold finishAlreadySent at done
 split at done
 · have touch:Touch fun item:SendItem=>{item with
     status:=.sent
     instantlyId:=(truthy s.target.instantlyId).or item.instantlyId
     errorCode:=none}:=
    ⟨fun _=>rfl,fun _=>rfl,fun _=>rfl,fun _ _=>by simp⟩
   obtain ⟨busy,calm⟩:=h.calm touch fun _ _=>by simp
   have same:identity (s.request.setItem targetId _)=identity s.request:=identity_setItem touch
   dsimp only at done
   split at done
   · rename_i final eq
     split at done
     · obtain rfl:=Option.some.inj done
       exact ⟨busy.release_waiting calm now,same,rfl⟩
     · obtain rfl:=Option.some.inj done
       exact ⟨busy.release_final eq,same,rfl⟩
   · obtain rfl:=Option.some.inj done
     exact ⟨busy.release_waiting calm now,same,rfl⟩
 · cases done

lemma releaseCancelled_released (h:Busy inOrder leaseId targetId s.request)(calm:inOrder→Calm s.request) :
 Released inOrder s.request (releaseCancelled now s).request:=by
 unfold releaseCancelled
 dsimp only
 split
 · exact ⟨h.release_waiting calm _,rfl,rfl⟩
 · rename_i final eq
   split
   · exact ⟨h.release_waiting calm _,rfl,rfl⟩
   · exact ⟨h.release_final eq,rfl,rfl⟩

lemma freeTarget_request (s:Scope):(freeTarget s).request=s.request:=by
 unfold freeTarget
 split <;> rfl

lemma rejectChangedTarget_released (h:Busy inOrder leaseId targetId s.request)(code:CancelCode) :
 Released inOrder s.request (rejectChangedTarget targetId now code s).request:=by
 have touch:Touch fun item:SendItem=>{item with
   status:=.failed
   errorCode:=some (.cancelled code)}:=
  ⟨fun _=>rfl,fun _=>rfl,fun _=>rfl,fun _ _=>by simp⟩
 have cancelled:Busy inOrder leaseId targetId (cancelItem targetId code s).request ∧
   (inOrder→Calm (cancelItem targetId code s).request):=h.calm touch fun _ _=>by simp
 have same:identity (cancelItem targetId code s).request=identity s.request:=identity_setItem touch
 rw[←freeTarget_request] at cancelled same
 have blocked:Busy inOrder leaseId targetId
   (blockActivation targetId code (freeTarget (cancelItem targetId code s))).request ∧
   (inOrder →
    Calm (blockActivation targetId code (freeTarget (cancelItem targetId code s))).request) ∧
   identity (blockActivation targetId code (freeTarget (cancelItem targetId code s))).request =
    identity s.request:=by
  unfold blockActivation
  split
  · exact ⟨cancelled.1.of_result _ _,cancelled.2,same⟩
  · exact ⟨cancelled.1,cancelled.2,same⟩
 have released:Released inOrder _ (rejectChangedTarget targetId now code s).request:=
  releaseCancelled_released blocked.1 blocked.2.1
 exact ⟨released.sound,released.same.trans blocked.2.2,released.unleased⟩

def Claimed (targetId:String)(r:SendRequest):Prop:=(r.item? targetId).any (·.status=.running)=true

variable {r:SendRequest}{f:SendItem→SendItem}

lemma Claimed.setItem (h:Claimed targetId r)
 (touch:Touch f)(status:∀item,(f item).status=item.status) :
 Claimed targetId (r.setItem targetId f):=by
 unfold Claimed at h ⊢
 rw[SendRequest.item?_setItem r targetId touch.targetId]
 cases found:r.item? targetId with
 | none=>simp[found] at h
 | some item=>simpa[found,status] using h

lemma Done.setItem (h:Done r)
 (status:∀item,(f item).status=item.status):Done (r.setItem targetId f):=by
 intro item mem
 obtain ⟨before,was,rfl⟩:=mem_setItem.mp mem
 split
 · rw[status]
   exact h before was
 · exact h before was

structure Kept (inOrder:Prop)(leaseId:ℕ)(targetId:String)(r r':SendRequest):Prop where
 busy:Busy inOrder leaseId targetId r'
 same:identity r'=identity r
 claimed:Claimed targetId r→Claimed targetId r'
 done:Done r→Done r'

lemma Busy.kept (h:Busy inOrder leaseId targetId r):Kept inOrder leaseId targetId r r:=⟨h,rfl,id,id⟩

lemma Kept.of_result {r':SendRequest}(h:Kept inOrder leaseId targetId r r')(result:SendResult)
 (providerCampaignId:Option String) :
 Kept inOrder leaseId targetId r {r' with result,providerCampaignId}:=
 ⟨h.busy.of_result result providerCampaignId,h.same,h.claimed,h.done⟩

lemma Kept.setItem {r':SendRequest}(h:Kept inOrder leaseId targetId r r')(touch:Touch f)
 (status:∀item,(f item).status=item.status)
 (next:∀item,(f item).nextAttemptAt=item.nextAttemptAt) :
 Kept inOrder leaseId targetId r (r'.setItem targetId f):=
 ⟨h.busy.setItem touch status next,(identity_setItem touch).trans h.same,
  fun claimed=>(h.claimed claimed).setItem touch status,fun done=>(h.done done).setItem status⟩

lemma adoptBinding_kept (h:Busy inOrder leaseId targetId s.request)(item:SendItem) :
 Kept inOrder leaseId targetId s.request (adoptBinding targetId item s).request:=by
 obtain ⟨campaignId,eq⟩:=adoptCampaign_eq s
 have adopted:Kept inOrder leaseId targetId s.request (adoptCampaign s).request:=by
  rw[eq]
  exact h.kept.of_result s.request.result campaignId
 unfold adoptBinding
 split
 · exact adopted.setItem ⟨fun _=>rfl,fun _=>rfl,fun _=>rfl,fun _ h=>h⟩ (fun _=>rfl) (fun _=>rfl)
 · exact adopted

lemma checkTarget_completed (h:Busy inOrder leaseId targetId s.request)
 (checked:checkTarget targetId now s=.completed s'):Released inOrder s.request s'.request:=by
 have way:=checkTarget_cases targetId now s
 rw[checked] at way
 cases way with
 | sent _ done=>exact finishAlreadySent_released h done
 | cancelled code item found live=>exact rejectChangedTarget_released h code

lemma checkTarget_goOn (h:Busy inOrder leaseId targetId s.request)
 (checked:checkTarget targetId now s=.goOn s') :
 Kept inOrder leaseId targetId s.request s'.request:=by
 have way:=checkTarget_cases targetId now s
 rw[checked] at way
 cases way with
 | carrier past=>exact h.kept
 | unchanged item found same=>exact adoptBinding_kept h item

end
section
variable {inOrder:Prop}{leaseId:ℕ}{targetId:String}{now:ℕ}{s s':Scope}

lemma wait_released (h:Busy inOrder leaseId targetId s.request)(failing:Bool)
 (pendingLead:Option String) :
 Released inOrder s.request (wait targetId now failing pendingLead s).request:=by
 unfold wait
 split
 · exact checkTarget_completed h ‹_›
 · rename_i s' checked
   have kept:=checkTarget_goOn h checked
   let f:=fun item:SendItem=>
    if item.status.isTerminal then
     {item with
       instantlyId:=(truthy pendingLead).or item.instantlyId,nextAttemptAt:=now+retryDelay}
    else {item with
     status:=if (truthy pendingLead).isSome then .verificationPending else .queued
     instantlyId:=(truthy pendingLead).or item.instantlyId
     errorCode:=if failing then some .instantlyProviderError else none
     nextAttemptAt:=now+retryDelay}
   have touch:Touch f:=by
    refine ⟨fun item=>?_,fun item=>?_,fun item=>?_,fun item ordinary=>?_⟩
    · dsimp only[f]
      split <;> rfl
    · dsimp only[f]
      split <;> rfl
    · dsimp only[f]
      split <;> rfl
    · dsimp only[f]
      split
      · exact ordinary
      · cases failing <;> simp
   have stopped:∀item∈s'.request.items,(f item).status≠.running:=by
    intro item _
    dsimp only[f]
    split
    · rename_i past
      rintro is
      rw[is] at past
      cases past
    · split <;> simp
   have calm:=kept.busy.calm touch stopped
   exact ⟨calm.1.release_waiting calm.2 _,(identity_setItem touch).trans kept.same,rfl⟩

def Standing (targetId:String)(r:SendRequest):Phase→Prop
 | .process | .declaring _ | .retrying=>Claimed targetId r ∨ Done r
 | .counting _=>Done r
 | .finalizing _ status=>r.finalStatus=some status
 | .unpromised | .campaign _ | .lead _ _ | .verification _ _ | .verified _ _=>Claimed targetId r

structure Held (inOrder:Prop)(leaseId:ℕ)(targetId:String)(r r':SendRequest)(next:Phase) : Prop where
 busy:Busy inOrder leaseId targetId r'
 same:identity r'=identity r
 standing:Standing targetId r' next

def Left (inOrder:Prop)(leaseId:ℕ)(targetId:String)(r r':SendRequest):Option Phase→Prop
 | none=>Released inOrder r r'
 | some next=>Held inOrder leaseId targetId r r' next

variable {r:SendRequest}

lemma settle_left {f:SendItem→SendItem}
 (kept:Kept inOrder leaseId targetId r s.request)(touch:Touch f)
 (past:∀item,(f item).status.isTerminal=true)(activated:Option String)
 (request:s'.request=s.request.setItem targetId f) :
 Left inOrder leaseId targetId r (settle now s').1.request
  ((settle now s').2.map fun status=>.finalizing activated status):=by
 have stopped:∀item∈s.request.items,(f item).status≠.running:=by
  intro item _ is
  have terminal:=past item
  rw[is] at terminal
  cases terminal
 have calm:=kept.busy.calm touch stopped
 have same:identity (s.request.setItem targetId f)=identity r:=
  (identity_setItem touch).trans kept.same
 rw[←request] at calm same
 unfold settle
 split
 · exact ⟨calm.1.release_waiting calm.2 _,same,rfl⟩
 · rename_i final eq
   exact ⟨calm.1,same,eq⟩

lemma accepted_left (h:Busy inOrder leaseId targetId s.request)(campaignId instantlyId:String)
 (activated:Option String) :
 Left inOrder leaseId targetId s.request (accepted targetId now campaignId instantlyId s).1.request
  ((accepted targetId now campaignId instantlyId s).2.map fun status=>
   .finalizing activated status):=by
 unfold accepted
 split
 · exact checkTarget_completed h ‹_›
 · rename_i s' checked
   have touch:Touch fun item:SendItem=>{item with
     status:=.sent
     instantlyId:=some instantlyId
     errorCode:=none}:=
    ⟨fun _=>rfl,fun _=>rfl,fun _=>rfl,fun _ _=>by simp⟩
   refine settle_left (checkTarget_goOn h checked) touch (fun _=>rfl) activated ?_
   split <;> rfl

lemma failed_left (h:Busy inOrder leaseId targetId s.request)(campaignId instantlyId:String)
 {error:ItemError}(ordinary:error≠.recoveryAlreadyAccepted)(activated:Option String) :
 Left inOrder leaseId targetId s.request (failed targetId now campaignId instantlyId error s).1.request
  ((failed targetId now campaignId instantlyId error s).2.map fun status=>
   .finalizing activated status):=by
 unfold failed
 split
 · exact checkTarget_completed h ‹_›
 · rename_i s' checked
   have touch:Touch fun item:SendItem=>{item with
     status:=.failed
     instantlyId:=some instantlyId
     errorCode:=some error}:=
    ⟨fun _=>rfl,fun _=>rfl,fun _=>rfl,fun _ _=>by simpa using ordinary⟩
   refine settle_left (checkTarget_goOn h checked) touch (fun _=>rfl) activated ?_
   split <;> rfl

lemma persistLead_kept (kept:Kept inOrder leaseId targetId r s.request)
 (campaignId instantlyId:String) :
 Kept inOrder leaseId targetId r (persistLead targetId campaignId instantlyId s).request:=
 kept.setItem ⟨fun _=>rfl,fun _=>rfl,fun _=>rfl,fun _ h=>h⟩ (fun _=>rfl) (fun _=>rfl)

lemma confirmImport_kept (kept:Kept inOrder leaseId targetId r s.request) :
 Kept inOrder leaseId targetId r (confirmImport targetId s).request:=by
 unfold confirmImport
 split
 · exact kept
 · exact kept.of_result _ _

lemma Claimed.leadPhase (claimed:Claimed targetId r)(c:Snapshot)
 (campaignId:String):Standing targetId r (leadPhase c campaignId):=by
 unfold ProspectProcess.leadPhase
 split <;> exact claimed

lemma route_standing {item:SendItem}{t:Target}
 (found:r.item? targetId=some item)(standing:Claimed targetId r ∨ Done r) :
 Standing targetId r (route ⟨r,item,t⟩):=by
 unfold route
 split
 · rename_i past
   rcases standing with claimed|done
   · simp only[Claimed,found,Option.any_some,decide_eq_true_eq] at claimed
     simp[claimed,ItemStatus.isTerminal] at past
   · exact done
 · rename_i open'
   have claimed:Claimed targetId r:=by
    rcases standing with claimed|done
    · exact claimed
    · exact absurd (done item (SendRequest.item?_some found).1) open'
   split
   · exact claimed
   · split
     · exact claimed
     · exact claimed.leadPhase _ _

lemma Standing.either {phase:Phase}(h:Standing targetId r phase) : Claimed targetId r ∨ Done r:=by
 cases phase with
 | process | declaring _ | retrying=>exact h
 | counting _=>exact .inr h
 | finalizing _ status=>exact .inr (finalStatus_some h).1
 | unpromised | campaign _ | lead _ _ | verification _ _ | verified _ _=>exact .inl h

lemma item?_isSome : (r.item? targetId).isSome ↔ targetId∈r.items.map (·.targetId):=by
 simp[SendRequest.item?,List.find?_isSome]

lemma identity_items {r':SendRequest}(same:identity r'=identity r) :
 r'.items.map (·.targetId)=r.items.map (·.targetId):=by
 have items:=congrArg (fun i=>i.2.2.2.2.map Prod.fst) same
 simpa[identity,Function.comp_def] using items

lemma way_left {casefold:String→String}{o:Oracle}{w:Worker}{p p':Provider}
 {next:Option Phase}{operations:Operations}
 (h:Busy inOrder leaseId w.targetId s.request)(standing:Standing w.targetId s.request w.phase)
 (present:(s.request.item? w.targetId).isSome=true)
 (way:Way casefold o w s p ⟨.commit s' next,p',operations⟩) :
 Left inOrder leaseId w.targetId s.request s'.request next:=by
 generalize turn:(⟨.commit s' next,p',operations⟩:Turn)=t at way
 cases way with
 | completed _ _ checked =>
  cases turn
  exact checkTarget_completed h checked
 | retried s₁ _ _ reached _ =>
  cases turn
  rcases reached with rfl|checked
  · exact wait_released h _ _
  · have kept:=checkTarget_goOn h checked
    have released:Released inOrder s₁.request (wait w.targetId o.now true none s₁).request:=
     wait_released kept.busy true none
    exact ⟨released.sound,released.same.trans kept.same,released.unleased⟩
 | declared=>cases turn
 | vanished s₁ _ checked missing =>
  have kept:=checkTarget_goOn h checked
  rw[item?_isSome,←identity_items kept.same,←item?_isSome,missing] at present
  cases present
 | routed s₁ item _ _ phase checked found =>
  cases turn
  have kept:=checkTarget_goOn h checked
  rw[phase] at standing
  exact ⟨kept.busy,kept.same,route_standing found (standing.imp kept.claimed kept.done)⟩
 | campaign c s₁ campaignId _ _ _ phase checked _ _ =>
  cases turn
  have kept:=(checkTarget_goOn h checked).of_result s₁.request.result (some campaignId)
  rw[phase] at standing
  exact ⟨kept.busy,kept.same,(kept.claimed standing).leadPhase c campaignId⟩
 | lead c campaignId instantlyId s₁ _ _ _ phase checked _ _ =>
  cases turn
  have kept:=confirmImport_kept
   (persistLead_kept (checkTarget_goOn h checked) campaignId instantlyId)
  rw[phase] at standing
  exact ⟨kept.busy,kept.same,kept.claimed standing⟩
 | verification campaignId instantlyId s₁ _ _ phase checked =>
  cases turn
  have kept:=checkTarget_goOn h checked
  rw[phase] at standing
  exact ⟨kept.busy,kept.same,kept.claimed standing⟩
 | pending campaignId instantlyId _ phase =>
  cases turn
  exact wait_released h _ _
 | refused campaignId instantlyId error _ _ phase =>
  cases turn
  exact failed_left h campaignId instantlyId (by simp) _
 | unpromised _ _ phase =>
  cases turn
  exact failed_left h "" "" (by simp) _
 | accepted campaignId instantlyId _ _ phase =>
  cases turn
  exact accepted_left h campaignId instantlyId _
 | finalized campaignId status activated _ _ phase _ =>
  cases turn
  rw[phase] at standing
  exact ⟨(h.of_result _ _).release_final standing,rfl,rfl⟩
 | permitted declaration s₁ phase checked =>
  cases turn
  have kept:=checkTarget_goOn h checked
  rw[phase] at standing
  have either:Claimed w.targetId s₁.request ∨ Done s₁.request:=standing.imp kept.claimed kept.done
  refine ⟨kept.busy.of_result _ _,kept.same,?_⟩
  split <;> exact either

end

end Kivou.ProspectLeases
