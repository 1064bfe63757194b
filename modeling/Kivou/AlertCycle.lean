import Kivou.AlertDeliveries

set_option autoImplicit false

/-! A cycle holds the lease of the job, and visits the accounts one by one. A visit prepares what
there is to send in one transaction, hands it to the gateway, and records the outcome in another.
What a visit reads of the billing, of the preferences and of the feed stands in its label. -/
namespace Kivou.AlertCycle
open AlertDeliveries

def maximumSignalsPerEmail:ℕ:=10

/-- `MINIMUM_INTERVAL`; a cadence that is not there has no interval. -/
def minimumInterval:String→Option ℤ
 | "weekly"=>some (7*day)
 | "daily"=>some day
 | "priority"=>some 0
 | _=>none

def sendingCadences:List String:=["weekly","daily","priority"]

def isDue (cadence:String)(lastSentAt:Option ℤ)(now:ℤ):Bool:=
 match minimumInterval cadence with
 | none=>false
 | some interval =>
  match lastSentAt with
  | none=>true
  | some lastSentAt=>interval≤now-lastSentAt

structure Lease where
 ownerId:String
 (acquiredAt leaseExpiresAt updatedAt:ℤ)

inductive LeaseAcquisition where
 | acquired | alreadyRunning
 deriving DecidableEq

/-- `acquire`: the row of the job, when there is one, is taken once it has expired. -/
def acquire (lease:Option Lease)(ownerId:String)(now ttl:ℤ):LeaseAcquisition × Option Lease:=
 let taken:Lease:=⟨ownerId,now,now+ttl,now⟩
 match lease with
 | none=>(.acquired,some taken)
 | some held =>
  if held.leaseExpiresAt≤now then (.acquired,some taken)
  else (.alreadyRunning,some held)

def release (lease:Option Lease)(ownerId:String):Option Lease:=
 lease.filter fun held=>held.ownerId≠ownerId

/-- What a visit reads of its account: the entitlements of its plan, its
preference, the digest of both, the unlocked signals of the pages of its feed,
and those signals that it may still see. -/
structure AccountView where
 (accountId alertCadence:String)
 (isDiscovery canReceiveEmail:Bool)
 recipientContextFingerprint:String
 pages:List (List String)
 accessible:List String

structure Settings where
 publicAppUrl:Option String
 deliveryLeaseTtl:ℤ
 retry:RetryPolicy

inductive Result where
 | notEligible | notificationsDisabled | notDue | recipientRefused | nothingToSend | blocked
 | suppressed | persistenceFailed | unknownDeliveryState | failed | sent
 deriving DecidableEq

structure AlertOutcome where
 (accountId cadence:String)
 result:Result
 signalCount:ℕ:=0
 detail:Option String:=none
 retryable:Option Bool:=none
 attempt:ℕ:=0

def reasonText:SuppressionReason→String
 | .entitlementLost=>"entitlement_lost"
 | .notificationsDisabled=>"notifications_disabled"
 | .recipientContextChanged=>"recipient_context_changed"
 | .recipientContextUnverifiable=>"recipient_context_unverifiable"
 | .signalInaccessible=>"signal_inaccessible"

def accessibleSignals (enough:ℕ)(excluded:String→Bool) : List String→List (List String)→List String
 | unlocked,[]=>unlocked
 | unlocked,page::pages =>
  let unlocked:=unlocked++page
  if pages=[] ∨ enough≤unlocked.countP (fun key=>!excluded key) then unlocked
  else accessibleSignals enough excluded unlocked pages

variable (rows:List Row)(account:AccountView)(batch:DeliveryBatch)(settings:Settings)
 (digests:Digests)

def eligibleSignals (limit:ℕ):List String:=
 let registered:=isRegistered rows account.accountId
 ((accessibleSignals limit registered [] account.pages).filter fun key=>!registered key).take limit

inductive Prepared where
 | ended (outcome:AlertOutcome)
 | send (batch:DeliveryBatch)

abbrev Prepare:=Except DeliveryStateConflict (Prepared × List Row)

def suppressWhole (reasonCode:SuppressionReason) (now:ℤ)(rows:List Row):Prepare:=do
 let rows ←markSuppressed batch batch.signalKeys reasonCode now rows
 .ok (.ended ⟨account.accountId,account.alertCadence,.suppressed,batch.signalKeys.length,
  some (reasonText reasonCode),some false,batch.attemptCount⟩,rows)

def inaccessible:List String:=batch.signalKeys.filter fun key=>!account.accessible.contains key

def suppressInaccessible (now:ℤ)(rows:List Row) : Except DeliveryStateConflict (List Row):=
 if inaccessible account batch=[] then .ok rows
 else markSuppressed batch (inaccessible account batch) .signalInaccessible now rows

def leaseBatch (account:AccountView)(batch:DeliveryBatch)(now:ℤ) (rows:List Row):Prepare:=
 if settings.retry.maxAttempts≤batch.attemptCount then do
  let (terminalStatus,rows) ←markAttemptBudgetExhausted batch now settings.retry.maxAttempts rows
  .ok (.ended ⟨account.accountId,account.alertCadence,
   if terminalStatus=.failed then .failed else .unknownDeliveryState,batch.signalKeys.length,
   some "attempt_budget_exhausted",some false,batch.attemptCount⟩,rows)
 else do
  let (batch,rows) ←markSending batch now settings.deliveryLeaseTtl settings.retry.maxAttempts rows
  .ok (.send batch,rows)

def dispatch (account:AccountView)(batch:DeliveryBatch)(now:ℤ) (rows:List Row):Prepare:=
 let accessibleKeys:=batch.signalKeys.filter account.accessible.contains
 if settings.publicAppUrl.getD ""="" then
  .ok (.ended ⟨account.accountId,account.alertCadence,.blocked,batch.signalKeys.length,
   some "public_app_url_missing",some false,batch.attemptCount⟩,rows)
 else do
  let rows ←suppressInaccessible account batch now rows
  if accessibleKeys=[] then
   .ok (.ended ⟨account.accountId,account.alertCadence,.suppressed,
    (inaccessible account batch).length,some (reasonText .signalInaccessible),some false,
    batch.attemptCount⟩,rows)
  else leaseBatch settings account {batch with signalKeys:=accessibleKeys} now rows

def signalLimit:ℕ:=
 if account.isDiscovery then 1 else maximumSignalsPerEmail

def renew (settings:Settings)(account:AccountView)(now:ℤ) (rows:List Row):Prepare:=
 let ended (result:Result)(detail:Option String)(retryable:Option Bool):Prepare:=
  .ok (.ended ⟨account.accountId,account.alertCadence,result,0,detail,retryable,0⟩,rows)
 if !isDue account.alertCadence (lastSuccessfulSend rows account.accountId) now then
  ended .notDue none none
 else if hasPermanentRecipientRefusal rows account.accountId account.recipientContextFingerprint then
  ended .recipientRefused (some "smtp_recipient_refused") (some false)
 else
  let newItems:=eligibleSignals rows account (signalLimit account)
  if newItems=[] then ended .nothingToSend none none
  else
   match queueBatch digests rows account.accountId newItems account.alertCadence
     account.recipientContextFingerprint now with
   | (none,_)=>ended .nothingToSend none none
   | (some batch,rows)=>dispatch settings account batch now rows

/-- The first transaction of `_run_for_account`. -/
def prepare (settings:Settings)(account:AccountView)(now:ℤ) (rows:List Row):Prepare:=do
 let waiting ←nextDueBatch rows account.accountId now
 if account.alertCadence∉sendingCadences then
  match waiting with
  | some batch=>suppressWhole account batch .entitlementLost now rows
  | none=>.ok (.ended ⟨account.accountId,account.alertCadence,.notEligible,0,none,none,0⟩,rows)
 else if !account.canReceiveEmail then
  match waiting with
  | some batch=>suppressWhole account batch .notificationsDisabled now rows
  | none=>.ok (.ended
    ⟨account.accountId,account.alertCadence,.notificationsDisabled,0,none,none,0⟩,rows)
 else
  match waiting with
  | none=>renew digests settings account now rows
  | some batch =>
   if batch.recipientContextFingerprint=some account.recipientContextFingerprint then
    dispatch settings account batch now rows
   else
    suppressWhole account batch
     (if batch.recipientContextFingerprint=none then .recipientContextUnverifiable
      else .recipientContextChanged) now rows

inductive GatewayOutcome where
 | accepted (providerMessageId:String)
 | uncertain (code:String)
 | refused (code:String)(retryable:Bool)

def record (batch:DeliveryBatch)(now:ℤ)(rows:List Row) :
 GatewayOutcome→Except DeliveryStateConflict (List Row)
 | .accepted providerMessageId=>markSent batch providerMessageId now rows
 | .uncertain code=>markUnknown batch code now settings.retry rows
 | .refused code retryable=>markFailed batch code retryable now settings.retry rows

/-- The second transaction of `_run_for_account`. `stored` says whether the
database takes it; one that fails leaves the rows under their lease. -/
def complete (account:AccountView)(batch:DeliveryBatch)(now:ℤ)
 (gateway:GatewayOutcome)(stored:Bool)(rows:List Row):AlertOutcome × List Row:=
 let willRetry:=decide (batch.attemptCount<settings.retry.maxAttempts)
 let outcome (result:Result)(detail:String)(retryable:Bool):AlertOutcome:=
  ⟨account.accountId,account.alertCadence,result,batch.signalKeys.length,some detail,
   some retryable,batch.attemptCount⟩
 match stored,record settings batch now rows gateway with
 | true,.ok rows =>
  match gateway with
  | .accepted _=>(outcome .sent "smtp_submission_accepted" false,rows)
  | .uncertain code=>(outcome .unknownDeliveryState code willRetry,rows)
  | .refused code retryable=>(outcome .failed code (retryable&&willRetry),rows)
 | _,_=>(outcome .persistenceFailed "delivery_state_persistence_failed" willRetry,rows)

/-- `gateway` is how `gateway.send` ends, none by an exception that is no `AlertDeliveryError`: the
message may refuse a header (`EmailMessage` raises `ValueError` on a `To` whose encoded words hide a
line feed). -/
structure Visit where
 account:AccountView
 gateway:Option GatewayOutcome
 stored:Bool

/-- What a visit does not catch. -/
inductive CycleError where
 | conflict (conflict:DeliveryStateConflict)
 | gateway

structure Progress where
 rows:List Row
 outcomes:List AlertOutcome
 raised:Option CycleError

/-- `_run_for_account`, and the loop over the accounts that it stands in. -/
def runForAccount (settings:Settings)(now:ℤ)(p:Progress)(v:Visit) :
 Progress:=
 if p.raised.isSome then p
 else
  match prepare digests settings v.account now p.rows with
  | .error conflict=>{p with raised:=some (.conflict conflict)}
  | .ok (.ended outcome,rows)=>{p with rows,outcomes:=p.outcomes++[outcome]}
  | .ok (.send batch,rows) =>
   match v.gateway with
   | none=>{p with rows,raised:=some .gateway}
   | some gateway =>
    let (outcome,rows):=complete settings v.account batch now gateway v.stored rows
    {p with rows,outcomes:=p.outcomes++[outcome]}

structure Store where
 rows:List Row
 lease:Option Lease

structure Cycle where
 now:ℤ
 ownerId:String
 jobLeaseTtl:ℤ
 settings:Settings
 visits:List Visit

inductive ExecutionStatus where
 | completed | alreadyRunning | raised (error:CycleError)

structure CycleReport where
 outcomes:List AlertOutcome
 executionStatus:ExecutionStatus

/-- `CycleReport.sent`. -/
def CycleReport.sent (report:CycleReport):List AlertOutcome:=report.outcomes.filter (·.result=.sent)

def runAlertCycle (s:Store)(c:Cycle):CycleReport × Store:=
 match acquire s.lease c.ownerId c.now c.jobLeaseTtl with
 | (.alreadyRunning,lease)=>(⟨[],.alreadyRunning⟩,{s with lease})
 | (.acquired,lease) =>
  let p:=c.visits.foldl (runForAccount digests c.settings c.now) ⟨s.rows,[],none⟩
  let status:=match p.raised with
   | none=>.completed
   | some error=>.raised error
  (⟨p.outcomes,status⟩,⟨p.rows,release lease c.ownerId⟩)

end Kivou.AlertCycle
