import Kivou.PythonValues
import Kivou.Tables

set_option autoImplicit false

/-! Targets the founder reviews, send requests with their items, the supplier directory and the
suppressions. Instants are microseconds, days are counted from the epoch, and an id that Python
takes for false may be null or empty. -/
namespace Kivou.ProspectRecords

/-- What Python's `value or None` keeps of a text column. -/
def truthy (id:Option String):Option String:=id.filter (· ≠ "")

inductive ProspectStatus where
 | pendingReview | approved | rejected | sent
 deriving DecidableEq

inductive ItemStatus where
 | queued | running | verificationPending | sent | failed
 deriving DecidableEq

/-- `_TERMINAL` -/
def ItemStatus.isTerminal:ItemStatus→Bool
 | .sent | .failed=>true
 | _=>false

/-- `partlySent` is the source's `partial`; `started` is left by older releases. -/
inductive RequestStatus where
 | started | queued | running | waiting | completed | partlySent | failed
 deriving DecidableEq

def RequestStatus.isLive:RequestStatus→Bool
 | .started | .queued | .running | .waiting=>true
 | _=>false

def RequestStatus.isFinal (s:RequestStatus):Bool:=!s.isLive

inductive CancelCode where
 | targetChangedAfterEnqueue | leadBindingConflict | campaignBindingConflict
 deriving DecidableEq

/-- `_VERIFICATION_ERRORS` -/
inductive VerificationError where
 | invalid | risky | catchAll | jobChange
 deriving DecidableEq

inductive ItemError where
 | cancelled (code:CancelCode)
 | missingOpportunityKey
 | instantlyProviderError
 | verification (error:VerificationError)
 | recoveryAlreadyAccepted
 deriving DecidableEq

/-- A row of `prospect_send_item`. -/
structure SendItem where
 targetId:String
 (position expectedVersion:ℕ)
 status:ItemStatus
 instantlyId:Option String
 errorCode:Option ItemError
 nextAttemptAt:ℕ
 deriving DecidableEq

inductive MutationKey where
 | campaignCreate
 | leadImport (targetId:String)
 | campaignActivate
 deriving DecidableEq

structure MutationReceipt where
 (confirmed zeroMatches:Bool)
 attemptCount:ℕ
 (campaignId campaignName:Option String)
 deriving DecidableEq

inductive ReadPhase where
 | campaignList
 | leadList (targetId:String)
 | leadVerification (targetId:String)
 | campaignStatus
 deriving DecidableEq

structure Accounting where
 mutations:List (MutationKey × MutationReceipt)
 reads:List (ReadPhase × ℕ)
 deriving DecidableEq

/-- The `result` of a request. -/
structure SendResult where
 accounting:Accounting
 activationBlocked:Option CancelCode
 activated:Bool
 deriving DecidableEq

/-- A row of `prospect_send_request`. The payload stands for its fingerprint. -/
structure SendRequest where
 requestId:String
 payload:List (String × ℕ)
 (requestDay reservedCount sentCount processedCount failedCount:ℕ)
 status:RequestStatus
 providerCampaignId:Option String
 (nextAttemptAt leaseId leaseExpiresAt:Option ℕ)
 result:SendResult
 items:List SendItem
 deriving DecidableEq

structure Mail where
 (subject text html:String)
 deriving DecidableEq

inductive DeliveryStatus where
 | notSent | delivered | opened | clicked | replied | bounced | unsubscribed
 deriving DecidableEq

inductive ReplyClassification where
 | humanReply | autoReply
 deriving DecidableEq

structure Delivery where
 status:DeliveryStatus
 (sentAt openedAt clickedAt repliedAt bouncedAt unsubscribedAt:Option ℕ)
 replyClassification:Option ReplyClassification
 deriving DecidableEq

/-- A row of `prospect_target`. -/
structure Target where
 targetId:String
 version:ℕ
 (siren opportunityKey emailAddress:String)
 mxVerified:Bool
 mail:Mail
 mailContractPassed:Bool
 status:ProspectStatus
 delivery:Delivery
 (providerCampaignId instantlyId sendRequestId:Option String)
 (instantlyCreditUnits instantlyRequestCount:ℕ)
 deriving DecidableEq

/-- A row of `supplier_directory`, as far as it admits a message. -/
structure DirectoryRow where
 (domain domainValidationMethod professionalEmail:Option String)
 (reverificationRequiredAt suppressedAt:Option ℕ)

/-- `acquisition_contact_suppression`, with the identity it is stored under. -/
structure Suppression where
 identity:String
 effectiveAt:ℕ
 deriving DecidableEq

inductive ProviderEventType where
 | emailSent | emailBounced | emailOpened | emailLinkClicked | linkClicked | replyReceived
 | autoReplyReceived | leadUnsubscribed | campaignCompleted | accountError
 deriving DecidableEq

/-- A row of `prospect_delivery_event`; a type that is not known is none. -/
structure DeliveryEvent where
 fingerprint:String
 targetId:Option String
 providerCampaignId:String
 eventType:Option ProviderEventType
 occurredAt:ℕ

structure Db where
 requests:List SendRequest
 targets:List Target
 directory:String→Option DirectoryRow
 suppressions:List Suppression
 deliveryEvents:List DeliveryEvent

def Db.request? (db:Db)(requestId:String):Option SendRequest:=
 db.requests.find? (fun r=>r.requestId==requestId)

def Db.target? (db:Db)(targetId:String):Option Target:=
 db.targets.find? (fun t=>t.targetId==targetId)

def Db.setTarget (db:Db)(target:Target):Db:=
 {db with
   targets:=Tables.update (fun t=>t.targetId==target.targetId) (fun _=>target) db.targets}

/-- `UPDATE supplier_directory ... WHERE siren`. -/
def Db.updateDirectory (db:Db)(siren:String)(f:DirectoryRow→DirectoryRow):Db:=
 {db with
   directory:=fun key=>if key=siren then (db.directory key).map f else db.directory key}

def Db.setRequest (db:Db)(request:SendRequest):Db:=
 {db with
   requests:=Tables.update (fun r=>r.requestId==request.requestId) (fun _=>request) db.requests}

def SendRequest.item? (r:SendRequest)(targetId:String):Option SendItem:=
 r.items.find? (fun item=>item.targetId==targetId)

def SendRequest.setItem (r:SendRequest)(targetId:String)(f:SendItem→SendItem) :
 SendRequest:=
 {r with items:=Tables.update (fun item=>item.targetId==targetId) f r.items}

def SendRequest.processed (r:SendRequest):ℕ:=r.items.countP (·.status.isTerminal)
def SendRequest.sent (r:SendRequest):ℕ:=r.items.countP (·.status=.sent)
def SendRequest.failed (r:SendRequest):ℕ:=r.items.countP (·.status=.failed)

/-- The fourth of `_counts`: the status of a request that has no item left. -/
def SendRequest.finalStatus (r:SendRequest):Option RequestStatus:=
 if r.processed=r.items.length then
  some (if r.failed=0 then .completed else if r.sent≠0 then .partlySent else .failed)
 else none

/-- `_release_with_counts` -/
def SendRequest.release (r:SendRequest)(status:RequestStatus)(nextAttempt:Option ℕ) :
 SendRequest:=
 {r with
   status
   processedCount:=r.processed
   sentCount:=r.sent
   failedCount:=r.failed
   nextAttemptAt:=nextAttempt
   leaseId:=none
   leaseExpiresAt:=none}

lemma Db.request?_setRequest (db:Db)(request:SendRequest)(requestId:String) :
 (db.setRequest request).request? requestId =
  if requestId=request.requestId then (db.request? requestId).map (fun _=>request)
  else db.request? requestId:=by
 have read:(db.setRequest request).request? requestId =
   if requestId=request.requestId then
    (db.requests.find? (fun r=>r.requestId==request.requestId)).map (fun _=>request)
   else db.requests.find? (fun r=>r.requestId==requestId):=
  Tables.find?_update_of (fun _ _=>rfl) requestId
 rw[read]
 split
 · subst requestId
   rfl
 · rfl

lemma Db.target?_setTarget (db:Db)(target:Target)(targetId:String) :
 (db.setTarget target).target? targetId =
  if targetId=target.targetId then (db.target? targetId).map (fun _=>target)
  else db.target? targetId:=by
 have read:(db.setTarget target).target? targetId =
   if targetId=target.targetId then
    (db.targets.find? (fun t=>t.targetId==target.targetId)).map (fun _=>target)
   else db.targets.find? (fun t=>t.targetId==targetId):=
  Tables.find?_update_of (fun _ _=>rfl) targetId
 rw[read]
 split
 · subst targetId
   rfl
 · rfl

lemma Db.target?_some {db:Db}{targetId:String}{t:Target}
 (h:db.target? targetId=some t):t∈db.targets ∧ t.targetId=targetId:=
 Tables.find?_key h

lemma Db.request?_some {db:Db}{requestId:String}{r:SendRequest}
 (h:db.request? requestId=some r):r∈db.requests ∧ r.requestId=requestId:=
 Tables.find?_key h

lemma SendRequest.item?_some {r:SendRequest}{targetId:String}{item:SendItem}
 (h:r.item? targetId=some item):item∈r.items ∧ item.targetId=targetId:=
 Tables.find?_key h

lemma SendRequest.item?_setItem (r:SendRequest)(targetId:String){f:SendItem→SendItem}
 (kept:∀item,(f item).targetId=item.targetId) :
 (r.setItem targetId f).item? targetId=(r.item? targetId).map f:=by
 have read:(r.setItem targetId f).item? targetId =
   if targetId=targetId then (r.item? targetId).map f else r.item? targetId:=
  Tables.find?_update kept targetId
 rw[read,if_pos rfl]

end Kivou.ProspectRecords
