import Kivou.ProspectDelivery

set_option autoImplicit false

/-! `signals.prospection_actions.worker`. A worker claims one item under a lease and takes it
through guard transactions, each holding the row locks of its request, item and target from the
check of the lease to the commit; what the provider has done meanwhile stays done whether or not the
guard commits. Inside a guard the lease holds, so that the lease conditions of its statements are
left out. -/
namespace Kivou.ProspectWorker
open ProspectRecords ProspectDelivery

def lease:ℕ:=5*60000000
def retryDelay:ℕ:=60000000

/-- `request_reclaimable` -/
def reclaimable (r:SendRequest)(now:ℕ):Bool:=r.status=.queued||r.status=.waiting ||
  (r.status=.running&&r.leaseExpiresAt.any (· ≤ now))

/-- `item_due` -/
def itemDue (r:SendRequest)(now:ℕ)(item:SendItem):Bool:=
 match item.status with
 | .queued | .verificationPending=>item.nextAttemptAt≤now
 | .running=>r.leaseExpiresAt.any (· ≤ now)
 | .sent | .failed =>
  -- a carrier of activation retries, once no ordinary item is left
  item.errorCode≠some .recoveryAlreadyAccepted&&r.items.all (·.status.isTerminal) &&
   r.nextAttemptAt.any (· ≤ now)

/-- `ORDER BY next_attempt_at, position` -/
def SendItem.before (a b:SendItem):Bool:=
 a.nextAttemptAt<b.nextAttemptAt||(a.nextAttemptAt=b.nextAttemptAt&&a.position≤b.position)

/-- The first due item whose row the query gets, if it is still due once the request is locked. The
query goes through the rows of its snapshot and locks the request of each with `SKIP LOCKED`: it
passes over the items of `skipped`, whose turn came while the lock was held or which
an older snapshot has elsewhere. -/
def candidate (r:SendRequest)(now:ℕ)(skipped:List String):Option SendItem:=
 if reclaimable r now then
  let due:=r.items.filter fun item=>itemDue r now item&&!skipped.contains item.targetId
  due.find? fun item=>due.all (SendItem.before item)
 else none

/-- `_claim_locked`, for the request whose row it locks. Time may pass between
the query and the update. -/
def claimLocked (r:SendRequest)(now claimedAt:ℕ)(skipped:List String)(leaseId:ℕ) :
 Option (SendRequest × String):=
 match candidate r now skipped with
 | none=>none
 | some item =>
  if r.leaseId=none ∨ r.leaseExpiresAt.any (· ≤ claimedAt) then
   let claimed:={r with
    status:=.running
    leaseId:=some leaseId
    leaseExpiresAt:=some (claimedAt+lease)}
   some (if item.status.isTerminal then claimed
     else claimed.setItem item.targetId fun i=>{i with status:=.running},
     item.targetId)
  else none

structure Scope where
 request:SendRequest
 target:Target

def Scope.setItem (s:Scope)(targetId:String)(f:SendItem→SendItem):Scope:=
 {s with request:=s.request.setItem targetId f}

def Scope.setResult (s:Scope)(f:SendResult→SendResult):Scope:=
 {s with request:={s.request with result:=f s.request.result}}

def Scope.release (s:Scope)(status:RequestStatus)(nextAttempt:Option ℕ):Scope:=
 {s with request:=s.request.release status nextAttempt}

/-- The conditions `_mutation_guard` opens under. -/
def openGuard (db:Db)(leaseId:ℕ)(requestId targetId:String):Option Scope:=
 match db.request? requestId,db.target? targetId with
 | some request,some target =>
  if request.status=.running ∧ request.leaseId=some leaseId then
   match request.item? targetId with
   | some item =>
    if item.status=.running ∨ item.status.isTerminal then some ⟨request,target⟩ else none
   | none=>none
  else none
 | _,_=>none

def renew (leaseId renewedAt:ℕ)(r:SendRequest):SendRequest:=
 if r.status=.running ∧ r.leaseId=some leaseId then {r with leaseExpiresAt:=some (renewedAt+lease)}
 else r

def closeGuard (db:Db)(leaseId renewedAt:ℕ)(s:Scope):Db:=
 (db.setRequest (renew leaseId renewedAt s.request)).setTarget s.target

/-- `_activation_due` -/
def activationDue (campaignId:Option String)(result:SendResult):Bool:=
 (truthy campaignId).isSome&&!result.activated

inductive Checked where
 | completed (s:Scope)
 | goOn (s:Scope)

section
variable (targetId:String)(now:ℕ)

/-- `_finish_already_sent` -/
def finishAlreadySent (s:Scope):Option Scope:=
 if s.target.status=.sent ∧ (s.request.item? targetId).any (·.status=.running) then
  let s:=s.setItem targetId fun item=>{item with
   status:=.sent
   instantlyId:=(truthy s.target.instantlyId).or item.instantlyId
   errorCode:=none}
  let due:=s.request.sent≠0&&activationDue s.request.providerCampaignId s.request.result
  match s.request.finalStatus with
  | some final =>
   if due then some (s.release .waiting (some now)) else some (s.release final none)
  | none=>some (s.release .waiting (some now))
 else none

def exposed (s:Scope):Bool:=(truthy s.request.providerCampaignId).isSome &&
  (((s.request.item? targetId).bind (fun item=>truthy item.instantlyId)).isSome ||
   (Accounting.receipt s.request.result.accounting (.leadImport targetId)).any fun receipt=>
    receipt.zeroMatches&&receipt.campaignId=s.request.providerCampaignId)

def cancelItem (code:CancelCode)(s:Scope):Scope:=
 s.setItem targetId fun item=>{item with
  status:=.failed
  errorCode:=some (.cancelled code)}

def freeTarget (s:Scope):Scope:=
 if s.target.sendRequestId=some s.request.requestId ∧ s.target.status≠.sent then
  {s with target:={s.target with sendRequestId:=none}}
 else s

def blockActivation (code:CancelCode)(s:Scope):Scope:=
 if exposed targetId s then s.setResult fun result=>{result with activationBlocked:=some code}
 else s

def releaseCancelled (s:Scope):Scope:=
 let blocked:=s.request.result.activationBlocked.isSome
 let due:=s.request.sent≠0&&activationDue s.request.providerCampaignId s.request.result
 let waiting:=s.release .waiting (some (if blocked then now+retryDelay else now))
 match s.request.finalStatus with
 | none=>waiting
 | some final=>if blocked||due then waiting else s.release final none

/-- `_reject_changed_target` -/
def rejectChangedTarget (code:CancelCode)(s:Scope):Scope:=
 releaseCancelled now (blockActivation targetId code (freeTarget (cancelItem targetId code s)))

def leadConflict (item:SendItem)(t:Target):Bool:=
 (truthy item.instantlyId).isSome&&(truthy t.instantlyId).isSome &&
  truthy item.instantlyId≠truthy t.instantlyId

def campaignConflict (r:SendRequest)(t:Target):Bool:=
 ((truthy t.instantlyId).isSome&&(truthy t.providerCampaignId).isNone) ||
  ((truthy r.providerCampaignId).isSome&&(truthy t.providerCampaignId).isSome &&
   truthy r.providerCampaignId≠truthy t.providerCampaignId)

def adoptCampaign (s:Scope):Scope:=
 if (truthy s.target.providerCampaignId).isSome ∧ truthy s.request.providerCampaignId=none then
  {s with request:={s.request with providerCampaignId:=truthy s.target.providerCampaignId}}
 else s

def adoptBinding (item:SendItem)(s:Scope):Scope:=
 if (truthy s.target.instantlyId).isSome ∧ truthy item.instantlyId=none then
  (adoptCampaign s).setItem targetId fun item=>{item with
   instantlyId:=truthy s.target.instantlyId}
 else adoptCampaign s

/-- `_check_target` -/
def checkTarget (s:Scope):Checked:=
 match finishAlreadySent targetId now s with
 | some s=>.completed s
 | none =>
  match s.request.item? targetId with
  | none=>.goOn s
  | some item =>
   if item.status.isTerminal then .goOn s
   else if s.target.status≠.approved ∨ s.target.sendRequestId≠some s.request.requestId ∨
     s.target.version≠item.expectedVersion then
    .completed (rejectChangedTarget targetId now .targetChangedAfterEnqueue s)
   else if leadConflict item s.target then
    .completed (rejectChangedTarget targetId now .leadBindingConflict s)
   else if campaignConflict s.request s.target then
    .completed (rejectChangedTarget targetId now .campaignBindingConflict s)
   else .goOn (adoptBinding targetId item s)

/-- `_wait`, `pendingLead` being the lead whose verification is pending. -/
def wait (failing:Bool)(pendingLead:Option String)(s:Scope):Scope:=
 match checkTarget targetId now s with
 | .completed s=>s
 | .goOn s =>
  let next:=now+retryDelay
  let s:=s.setItem targetId fun item=>
   if item.status.isTerminal then
    {item with instantlyId:=(truthy pendingLead).or item.instantlyId,nextAttemptAt:=next}
   else {item with
    status:=if (truthy pendingLead).isSome then .verificationPending else .queued
    instantlyId:=(truthy pendingLead).or item.instantlyId
    errorCode:=if failing then some .instantlyProviderError else none
    nextAttemptAt:=next}
  s.release .waiting (some next)

abbrev Settled:=Scope × Option RequestStatus

/-- The end of `_accepted` and of `_failed`. -/
def settle (s:Scope):Settled:=
 match s.request.finalStatus with
 | none=>(s.release .waiting (some now),none)
 | some final=>(s,some final)

/-- `_accepted` -/
def accepted (campaignId instantlyId:String)(s:Scope):Settled:=
 match checkTarget targetId now s with
 | .completed s=>(s,none)
 | .goOn s =>
  let s:=s.setItem targetId fun item=>{item with
   status:=.sent
   instantlyId:=some instantlyId
   errorCode:=none}
  let s:=if s.target.sendRequestId=some s.request.requestId then
    { s with target:={s.target with
      status:=.sent
      providerCampaignId:=some campaignId
      instantlyId:=some instantlyId
      version:=s.target.version+1}}
   else s
  settle now s

/-- `_failed` -/
def failed (campaignId instantlyId:String)(error:ItemError)(s:Scope):Settled:=
 match checkTarget targetId now s with
 | .completed s=>(s,none)
 | .goOn s =>
  let s:=s.setItem targetId fun item=>{item with
   status:=.failed
   instantlyId:=some instantlyId
   errorCode:=some error}
  let s:=if s.target.sendRequestId=some s.request.requestId then
    { s with target:={s.target with
      status:=.approved
      providerCampaignId:=some campaignId
      instantlyId:=some instantlyId
      sendRequestId:=none
      version:=s.target.version+1}}
   else s
  settle now s

end

def Accounting.setReceipt (accounting:Accounting)(key:MutationKey)(receipt:MutationReceipt) :
 Accounting:=
 {accounting with
   mutations:=(key,receipt)::accounting.mutations.filter (fun entry=>entry.1≠key)}

def Accounting.readCount (accounting:Accounting)(phase:ReadPhase):ℕ:=
 ((accounting.reads.find? (fun entry=>entry.1==phase)).map Prod.snd).getD 0

def Accounting.countRead (accounting:Accounting)(phase:ReadPhase):Accounting:=
 {accounting with
   reads:=(phase,Accounting.readCount accounting phase+1) ::
    accounting.reads.filter (fun entry=>entry.1≠phase)}

def declaredReceipt (r:SendRequest)(key:MutationKey):MutationReceipt:=
 let previous:=Accounting.receipt r.result.accounting key
 { confirmed:=(previous.map (·.confirmed)).getD false
   zeroMatches:=(previous.map (·.zeroMatches)).getD true
   attemptCount:=(previous.map (·.attemptCount)).getD 0+1
   campaignId:=r.providerCampaignId
   campaignName:=
    if key=.campaignCreate then some (fullCampaignName r.requestDay r.requestId)
    else previous.bind (·.campaignName)}

/-- `_declare_operation`, inside its guard. -/
def declareOperation (declaration:Declaration)(s:Scope):Scope:=
 let accounting:=s.request.result.accounting
 let accounting:=match declaration.key with
  | some key=>Accounting.setReceipt accounting key (declaredReceipt s.request key)
  | none=>accounting
 let accounting:=declaration.replayReads.foldl
  (fun accounting label=>Accounting.countRead accounting label.phase) accounting
 let requests:=declaration.key.toList.length+declaration.replayReads.length
 { (s.setResult fun result=>{result with accounting}) with
   target:={s.target with
    instantlyRequestCount:=s.target.instantlyRequestCount+requests}}

def Operations.permit (operations:Operations)(declaration:Declaration):Operations:=
 {operations with
   readyReads:=declaration.replayReads
   readyMutations:=declaration.key.toList++operations.readyMutations}

def importDue (s:Scope)(targetId:String):Option MutationReceipt:=
 (Accounting.receipt s.request.result.accounting (.leadImport targetId)).filter
  fun receipt=>receipt.zeroMatches&&!receipt.confirmed

/-- `_confirm_import` -/
def confirmImport (targetId:String)(s:Scope):Scope:=
 match importDue s targetId with
 | none=>s
 | some receipt =>
  { (s.setResult fun result=>{result with
     accounting:=Accounting.setReceipt result.accounting (.leadImport targetId)
      {receipt with confirmed:=true}}) with
    target:={s.target with
     instantlyCreditUnits:=s.target.instantlyCreditUnits+1}}

/-- `_persist_campaign` -/
def persistCampaign (campaignId:String)(s:Scope):Scope:=
 { request:={s.request with providerCampaignId:=some campaignId}
   target:=
    if s.target.sendRequestId=some s.request.requestId then
     {s.target with providerCampaignId:=some campaignId}
    else s.target}

/-- `_persist_lead` -/
def persistLead (targetId campaignId instantlyId:String)(s:Scope):Scope:=
 let s:=s.setItem targetId fun item=>{item with instantlyId:=some instantlyId}
 {s with
   target:=
    if s.target.sendRequestId=some s.request.requestId then
     {s.target with
       providerCampaignId:=some campaignId
       instantlyId:=some instantlyId}
    else s.target}

lemma adoptCampaign_eq (s:Scope):∃providerCampaignId,
 adoptCampaign s={s with request:={s.request with providerCampaignId}}:=by
 unfold adoptCampaign
 split
 · exact ⟨_,rfl⟩
 · exact ⟨s.request.providerCampaignId,rfl⟩

structure Unchanged (item:SendItem)(s:Scope):Prop where
 live:item.status.isTerminal=false
 approved:s.target.status=.approved
 reserved:s.target.sendRequestId=some s.request.requestId
 version:s.target.version=item.expectedVersion
 leads:leadConflict item s.target=false
 campaigns:campaignConflict s.request s.target=false

inductive CheckCase (targetId:String)(now:ℕ)(s:Scope):Checked→Prop where
 | sent (s':Scope)(done:finishAlreadySent targetId now s=some s') :
   CheckCase targetId now s (.completed s')
 | cancelled (code:CancelCode)(item:SendItem)(found:s.request.item? targetId=some item)
   (live:item.status.isTerminal=false) :
   CheckCase targetId now s (.completed (rejectChangedTarget targetId now code s))
 | carrier (past:∀item,s.request.item? targetId=some item→item.status.isTerminal=true) :
   CheckCase targetId now s (.goOn s)
 | unchanged (item:SendItem)(found:s.request.item? targetId=some item) (same:Unchanged item s) :
   CheckCase targetId now s (.goOn (adoptBinding targetId item s))

lemma checkTarget_cases (targetId:String)(now:ℕ)(s:Scope) :
 CheckCase targetId now s (checkTarget targetId now s):=by
 unfold checkTarget
 split
 · exact .sent _ ‹_›
 · split
   · rename_i missing
     exact .carrier fun item found=>by simp[missing] at found
   · rename_i item found
     split
     · rename_i past
       refine .carrier fun other found'=>?_
       obtain rfl:=Option.mem_unique found found'
       exact past
     · rename_i live
       have live:item.status.isTerminal=false:=by simpa using live
       split
       · exact .cancelled _ item found live
       · rename_i same
         split
         · exact .cancelled _ item found live
         · rename_i leads
           split
           · exact .cancelled _ item found live
           · rename_i campaigns
             simp only[ne_eq,not_or,not_not] at same
             exact .unchanged item found ⟨live,same.1,same.2.1,same.2.2,
              Bool.eq_false_iff.mpr leads,Bool.eq_false_iff.mpr campaigns⟩

def Current (targetId:String)(s:Scope):Prop:=
 ∀item,s.request.item? targetId=some item→item.status.isTerminal=false →
  s.target.status=.approved ∧ s.target.sendRequestId=some s.request.requestId ∧
   s.target.version=item.expectedVersion

lemma goOn_current {targetId:String}{now:ℕ}{s s':Scope}
 (checked:checkTarget targetId now s=.goOn s'):Current targetId s':=by
 have way:=checkTarget_cases targetId now s
 rw[checked] at way
 cases way with
 | carrier past =>
  intro item found live
  rw[past item found] at live
  cases live
 | unchanged item found same =>
  obtain ⟨campaignId,eq⟩:=adoptCampaign_eq s
  intro item' found' _
  unfold adoptBinding at found' ⊢
  rw[eq] at found' ⊢
  split at found'
  · rename_i adopts
    have read:=SendRequest.item?_setItem {s.request with providerCampaignId:=campaignId}
     targetId (f:=fun item=>{item with instantlyId:=truthy s.target.instantlyId})
     fun _=>rfl
    obtain ⟨was,there,rfl⟩:=Option.map_eq_some_iff.mp (read.symm.trans found')
    obtain rfl:=Option.mem_unique found there
    rw[if_pos adopts]
    exact ⟨same.approved,same.reserved,same.version⟩
  · rename_i adopts
    obtain rfl:=Option.mem_unique found found'
    rw[if_neg adopts]
    exact ⟨same.approved,same.reserved,same.version⟩

end Kivou.ProspectWorker
