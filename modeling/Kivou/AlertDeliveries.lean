import Kivou.Tables
import Mathlib.Data.List.Dedup
import Mathlib.Data.List.Sort

set_option autoImplicit false

/-! The rows of `signal_alert_delivery`, one for each signal of an account, and the transitions of a
batch: rows that are queued together, leased together for an attempt, and finished together.
Instants and durations are in microseconds. -/
namespace Kivou.AlertDeliveries
open Tables

inductive Status where
 | queued | sending | sent | failed | unknownDeliveryState | suppressed
 deriving DecidableEq

inductive SuppressionReason where
 | entitlementLost | notificationsDisabled | recipientContextChanged
 | recipientContextUnverifiable | signalInaccessible

structure Row where
 (accountId signalKey:String)
 status:Status
 cadence:String
 (recipientContextFingerprint batchKey deliveryMessageId:Option String)
 queuedAt:ℤ
 (sentAt failedAt:Option ℤ)
 attemptCount:ℕ
 retryable:Option Bool
 (attemptStartedAt leaseExpiresAt nextAttemptAt:Option ℤ)
 (providerMessageId lastErrorCode:Option String)
 suppressedAt:Option ℤ
 suppressionReasonCode:Option SuppressionReason
 (createdAt updatedAt:ℤ)

def Row.key (r:Row):String × String:=(r.accountId,r.signalKey)

structure DeliveryBatch where
 accountId:String
 signalKeys:List String
 (batchKey messageId:String)
 recipientContextFingerprint:Option String
 attemptCount:ℕ
 status:Status
 deriving DecidableEq

/-- `DeliveryStateConflict`, with the batch it names. -/
structure DeliveryStateConflict where
 batchKey:String

/-- The digests of a batch: of the account and the sorted set of its signals,
and of the account and the batch. -/
structure Digests where
 ofBatch:String→List String→String
 ofMessage:String→String→String

variable (digests:Digests)(accountId:String)(signalKeys:List String)(rows:List Row)
 (b:DeliveryBatch)(now:ℤ)(recipientContextFingerprint errorCode:String)

def logicalBatchKey:String:=digests.ofBatch accountId (signalKeys.dedup.insertionSort (· ≤ ·))

def messageId (accountId batchKey:String):String:=digests.ofMessage accountId batchKey

def day:ℤ:=86400000000

def retryDelay (base:ℤ)(attemptCount:ℕ):ℤ:=min (base*2^(attemptCount-1)) day

def row? (accountId signalKey:String):Option Row:=rows.find? (fun r=>r.key==(accountId,signalKey))

def isFree (accountId signalKey:String):Bool:=
 (row? rows accountId signalKey).all fun r=>r.status=.queued&&r.batchKey.isNone

def newRow (cadence:String)(now:ℤ)(signalKey:String):Row where
 accountId:=b.accountId
 signalKey
 status:=.queued
 cadence
 recipientContextFingerprint:=b.recipientContextFingerprint
 batchKey:=some b.batchKey
 deliveryMessageId:=some b.messageId
 queuedAt:=now
 sentAt:=none
 failedAt:=none
 attemptCount:=0
 retryable:=none
 attemptStartedAt:=none
 leaseExpiresAt:=none
 nextAttemptAt:=none
 providerMessageId:=none
 lastErrorCode:=none
 suppressedAt:=none
 suppressionReasonCode:=none
 createdAt:=now
 updatedAt:=now

def Row.adopted (r:Row):Row:=
 {r with
   batchKey:=some b.batchKey
   deliveryMessageId:=some b.messageId
   recipientContextFingerprint:=b.recipientContextFingerprint
   updatedAt:=now}

def newBatch:DeliveryBatch where
 accountId
 signalKeys
 batchKey:=logicalBatchKey digests accountId signalKeys
 messageId:=messageId digests accountId (logicalBatchKey digests accountId signalKeys)
 recipientContextFingerprint:=some recipientContextFingerprint
 attemptCount:=0
 status:=.queued

def queueBatch (accountId:String)(signalKeys:List String)
 (cadence recipientContextFingerprint:String)(now:ℤ):Option DeliveryBatch × List Row:=
 let accepted:=signalKeys.eraseDups.filter (isFree rows accountId)
 let batch:=newBatch digests accountId accepted recipientContextFingerprint
 let adopts (r:Row):Bool:=r.accountId=accountId&&accepted.contains r.signalKey &&
  r.status=.queued&&r.batchKey.isNone
 let fresh:=accepted.filter fun key=>(row? rows accountId key).isNone
 if accepted=[] then (none,rows)
 else (some batch,update adopts (Row.adopted batch now) rows++fresh.map (newRow batch cadence now))

def reached (instant:Option ℤ)(now:ℤ):Bool:=instant.any (· ≤ now)

/-- `_due`. -/
def due (r:Row):Bool:=
 match r.status with
 | .queued=>true
 | .failed | .unknownDeliveryState=>r.retryable=some true&&reached r.nextAttemptAt now
 | .sending=>reached r.leaseExpiresAt now
 | .sent | .suppressed=>false

def sooner (r r':Row):Prop:=
 r.queuedAt<r'.queuedAt ∨ r.queuedAt=r'.queuedAt ∧ r.batchKey.getD ""≤r'.batchKey.getD ""

instance:DecidableRel sooner:=fun _ _=>inferInstanceAs (Decidable (_ ∨ _))

/-- The due rows of a batch, and what `next_due_batch` makes of them. -/
def batchOf (candidate:Row)(rows:List Row) : Except DeliveryStateConflict (Option DeliveryBatch):=
 match rows,candidate.batchKey,candidate.deliveryMessageId with
 | first::rest,some batchKey,some messageId =>
  if rest.all (fun r=>r.status=first.status) &&(first::rest).all (fun r=>
     r.recipientContextFingerprint=candidate.recipientContextFingerprint) then
   .ok (some
    { accountId:=candidate.accountId
      signalKeys:=(first::rest).map (·.signalKey)
      batchKey
      messageId
      recipientContextFingerprint:=candidate.recipientContextFingerprint
      attemptCount:=((first::rest).map (·.attemptCount)).foldl max 0
      status:=first.status})
  else .error ⟨batchKey⟩
 | _,_,_=>.ok none

def nextDueBatch (accountId:String)(now:ℤ) : Except DeliveryStateConflict (Option DeliveryBatch):=
 let candidates:=(rows.filter fun r=>r.accountId=accountId&&r.batchKey.isSome &&
  r.deliveryMessageId.isSome&&due now r).insertionSort sooner
 match candidates.head? with
 | none=>.ok none
 | some candidate =>
  batchOf candidate ((rows.filter fun r=>r.accountId=accountId &&
   r.batchKey=candidate.batchKey&&r.deliveryMessageId=candidate.deliveryMessageId &&
   due now r).insertionSort fun r r'=>r.signalKey≤r'.signalKey)

/-- `_owned_rows`. -/
def owned (signalKeys:List String)(r:Row):Bool:=
 r.accountId=b.accountId&&signalKeys.contains r.signalKey&&r.batchKey=some b.batchKey &&
  r.deliveryMessageId=some b.messageId &&
  r.recipientContextFingerprint=b.recipientContextFingerprint

def updateAll (signalKeys:List String)(guard:Row→Bool)(f:Row→Row)
 (rows:List Row):Except DeliveryStateConflict (List Row):=
 let p r:=owned b signalKeys r&&guard r
 if rows.countP p=signalKeys.length then .ok (update p f rows) else .error ⟨b.batchKey⟩

def Row.leased (now leaseTtl:ℤ)(r:Row):Row:=
 {r with
   status:=.sending
   attemptCount:=r.attemptCount+1
   attemptStartedAt:=some now
   leaseExpiresAt:=some (now+leaseTtl)
   nextAttemptAt:=none
   retryable:=none
   updatedAt:=now}

def markSending (now leaseTtl:ℤ)(maxAttempts:ℕ)(rows:List Row) :
 Except DeliveryStateConflict (DeliveryBatch × List Row):=do
 let rows ←updateAll b b.signalKeys (fun r=>due now r&&r.attemptCount < maxAttempts)
  (Row.leased now leaseTtl) rows
 .ok ({b with attemptCount:=b.attemptCount+1,status:=.sending},rows)

def Row.exhausted (terminalStatus:Status)(interrupted:Bool)(now:ℤ)(r:Row):Row:=
 {r with
   status:=terminalStatus
   retryable:=some false
   leaseExpiresAt:=none
   nextAttemptAt:=none
   failedAt:=if interrupted then some now else r.failedAt
   lastErrorCode:=if interrupted then some "attempt_budget_exhausted" else r.lastErrorCode
   updatedAt:=now}

def DeliveryBatch.terminalStatus:Status:=
 if b.status=.sending then .unknownDeliveryState else b.status

def markAttemptBudgetExhausted (maxAttempts:ℕ)(rows:List Row) :
 Except DeliveryStateConflict (Status × List Row):=
 if b.terminalStatus=.failed ∨ b.terminalStatus=.unknownDeliveryState then do
  let rows ←updateAll b b.signalKeys (fun r=>due now r&&maxAttempts≤r.attemptCount)
   (Row.exhausted b.terminalStatus (b.status=.sending) now) rows
  .ok (b.terminalStatus,rows)
 else .error ⟨b.batchKey⟩

def Row.delivered (providerMessageId:String)(now:ℤ)(r:Row):Row:=
 {r with
   status:=.sent
   sentAt:=some now
   failedAt:=none
   providerMessageId:=some providerMessageId
   lastErrorCode:=none
   retryable:=some false
   leaseExpiresAt:=none
   nextAttemptAt:=none
   updatedAt:=now}

def markSent (providerMessageId:String)(now:ℤ)(rows:List Row) :
 Except DeliveryStateConflict (List Row):=
 updateAll b b.signalKeys (fun r=>r.status=.sending) (Row.delivered providerMessageId now) rows

def Row.undelivered (status:Status)(errorCode:String)(willRetry:Bool)
 (nextAttemptAt:Option ℤ)(now:ℤ)(r:Row):Row:=
 {r with
   status
   failedAt:=some now
   lastErrorCode:=some errorCode
   retryable:=some willRetry
   leaseExpiresAt:=none
   nextAttemptAt
   updatedAt:=now}

structure RetryPolicy where
 retryBase:ℤ
 maxAttempts:ℕ

def markUnsuccessful (status:Status)(errorCode:String)(retryable:Bool)
 (now:ℤ)(policy:RetryPolicy)(rows:List Row):Except DeliveryStateConflict (List Row):=
 let willRetry:=retryable&&decide (b.attemptCount<policy.maxAttempts)
 let nextAttemptAt:=if willRetry then some (now+retryDelay policy.retryBase b.attemptCount) else none
 updateAll b b.signalKeys (fun r=>r.status=.sending)
  (Row.undelivered status errorCode willRetry nextAttemptAt now) rows

def markFailed (retryable:Bool)(now:ℤ)
 (policy:RetryPolicy)(rows:List Row):Except DeliveryStateConflict (List Row):=
 markUnsuccessful b .failed errorCode retryable now policy rows

def markUnknown (now:ℤ)(policy:RetryPolicy)
 (rows:List Row):Except DeliveryStateConflict (List Row):=
 markUnsuccessful b .unknownDeliveryState errorCode true now policy rows

def Row.suppress (reasonCode:SuppressionReason)(now:ℤ)(r:Row):Row:=
 {r with
   status:=.suppressed
   retryable:=some false
   leaseExpiresAt:=none
   nextAttemptAt:=none
   suppressedAt:=some now
   suppressionReasonCode:=some reasonCode
   updatedAt:=now}

def markSuppressed (signalKeys:List String)(reasonCode:SuppressionReason)
 (now:ℤ)(rows:List Row):Except DeliveryStateConflict (List Row):=
 updateAll b signalKeys (fun r=>r.status≠.sent) (Row.suppress reasonCode now) rows

/-- `_last_successful_send`. -/
def lastSuccessfulSend (accountId:String):Option ℤ:=
 (rows.filterMap fun r=>if r.accountId=accountId ∧ r.status=.sent then r.sentAt else none).max?

/-- `_registered_deliveries`: the signals in a batch, or with a terminal history. -/
def isRegistered (accountId signalKey:String):Bool:=
 rows.any fun r=>r.accountId=accountId&&r.signalKey=signalKey &&
  (r.status≠.queued||r.batchKey.isSome)

def hasPermanentRecipientRefusal (accountId recipientContextFingerprint:String) :
 Bool:=
 rows.any fun r=>r.accountId=accountId &&
  r.recipientContextFingerprint=some recipientContextFingerprint&&r.status=.failed &&
  r.retryable=some false&&r.lastErrorCode=some "smtp_recipient_refused"

end Kivou.AlertDeliveries
