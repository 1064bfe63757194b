import Kivou.ProspectRecords

set_option autoImplicit false

/-! `signals.prospection_actions.service` and `.queue`: the review of a target and the reservation
of a batch. An action that raises changes nothing, except where its transaction has committed before
the error is raised. -/
namespace Kivou.ProspectActions
open ProspectRecords

structure Policy where
 (casefold sqlLower:String→String)
 (rejectedSupplierDomain isPlaceholderEmail isConsumerMailbox:String→Bool)
 suppressionIdentity:String→String

inductive ActionError where
 | targetNotFound | targetVersionConflict | invalidTargetStatus | mailContractFailed
 | directoryReverificationRequired | resourceLockBusy | killSwitchActive
 | dailySendCapExceeded | missingOpportunityKey | placeholderEmail | consumerMailboxHeld
 | emailNotMxVerified | emailSuppressed | sendRequestIdempotencyConflict

structure Rendered where
 mail:Mail
 passed:Bool

/-- `_INVALIDATED_PROVIDER_BINDING` -/
def Target.unbound (t:Target):Target:={t with providerCampaignId:=none,instantlyId:=none}

def Target.rendered (t:Target)(r:Rendered):Target:=
 {t with mail:=r.mail,mailContractPassed:=r.passed}

/-- `_load` -/
def load (db:Db)(targetId:String)(expectedVersion:ℕ):Except ActionError Target:=
 match db.target? targetId with
 | none=>.error .targetNotFound
 | some t=>if t.version=expectedVersion then .ok t else .error .targetVersionConflict

/-- `_validate_live_directory_contact` -/
def liveDirectoryContact (policy:Policy)(t:Target)(directory:Option DirectoryRow):Bool:=
 match directory with
 | none=>false
 | some row =>
  row.suppressedAt.isNone&&row.reverificationRequiredAt.isNone &&
   row.domainValidationMethod.isSome &&
   row.domain.any (fun domain=>!policy.rejectedSupplierDomain domain) &&
   row.professionalEmail.any fun email=>policy.casefold email=policy.casefold t.emailAddress

def approve (policy:Policy)(targetId:String)(expectedVersion:ℕ)(db:Db) :
 Except ActionError Db:=do
 let t ←load db targetId expectedVersion
 if t.status≠.pendingReview then throw .invalidTargetStatus
 if !t.mailContractPassed then throw .mailContractFailed
 if !liveDirectoryContact policy t (db.directory t.siren) then
  throw .directoryReverificationRequired
 return db.setTarget {t with status:=.approved,version:=t.version+1}

/-- `correct`, with the new address if it changes, what its verification said,
and the message as it is rendered anew. -/
def correct (policy:Policy)(targetId:String)(expectedVersion:ℕ)
 (emailAddress:Option String)(verified:Bool)(message:Rendered)(db:Db) :
 Except ActionError Db:=do
 let t ←load db targetId expectedVersion
 if t.status=.sent then throw .invalidTargetStatus
 let (readdressed,db):=match emailAddress with
  | none=>(t,db)
  | some email =>
   let email:=policy.casefold email
   ({t with emailAddress:=email,mxVerified:=verified},
    db.updateDirectory t.siren fun row=>{row with professionalEmail:=some email})
 let corrected:={ Target.unbound (Target.rendered readdressed message) with
  version:=t.version+1
  status:=if message.passed then t.status else .pendingReview}
 return db.setTarget corrected

inductive RejectionReason where
 | wrongCompany | wrongAddress | offTopic | other
 deriving DecidableEq

def reject (targetId:String)(expectedVersion:ℕ)(reason:RejectionReason)(at':ℕ)(db:Db) :
 Except ActionError Db:=do
 let t ←load db targetId expectedVersion
 if t.status≠.pendingReview ∧ t.status≠.approved then throw .invalidTargetStatus
 let db:=if reason=.wrongAddress then
   db.updateDirectory t.siren fun row=>{row with reverificationRequiredAt:=some at'}
  else db
 return db.setTarget {Target.unbound t with status:=.rejected,version:=t.version+1}

/-- `regenerate_pending_mail_v2` -/
def regeneratePendingMail (message:String→Rendered)(db:Db):Db:=
 {db with
   targets:=Tables.update (fun t=>t.status=.pendingReview||t.status=.approved)
    (fun t=>{ Target.unbound (Target.rendered t (message t.targetId)) with
     version:=t.version+1}) db.targets}

structure SendCommand where
 requestId:String
 targets:List (String × ℕ)
 named:requestId≠""
 nonempty:targets≠[]
 atMost:targets.length≤25
 distinct:(targets.map Prod.fst).Nodup

def microsecondsPerDay:ℕ:=86400000000

def dailySendCap:ℕ:=25

def SendRequest.contribution (r:SendRequest):ℕ:=
 if r.status.isLive then r.reservedCount else r.sentCount

/-- `reserved_today` -/
def reservedOn (day:ℕ)(requests:List SendRequest):ℕ:=
 ((requests.filter (·.requestDay=day)).map SendRequest.contribution).sum

/-- The first loop of `reserve_send`, for one target. -/
def reservable (db:Db)(entry:String × ℕ):Except ActionError Target:=
 match db.target? entry.1 with
 | none=>.error .targetNotFound
 | some t =>
  if t.version≠entry.2 then .error .targetVersionConflict
  else if t.status≠.approved ∨ (truthy t.sendRequestId).isSome then .error .invalidTargetStatus
  else if PythonValues.strip t.opportunityKey="" then .error .missingOpportunityKey
  else if !t.mailContractPassed then .error .mailContractFailed
  else .ok t

/-- `is_suppressed` -/
def isSuppressed (policy:Policy)(suppressions:List Suppression)(email:String)(at':ℕ) :
 Bool:=
 suppressions.any fun s=>s.identity=policy.suppressionIdentity email&&s.effectiveAt≤at'

def admissible (policy:Policy)(db:Db)(at':ℕ)(t:Target):Except ActionError Unit:=do
 if !liveDirectoryContact policy t (db.directory t.siren) then
  throw .directoryReverificationRequired
 if policy.isPlaceholderEmail t.emailAddress then throw .placeholderEmail
 if policy.isConsumerMailbox t.emailAddress then throw .consumerMailboxHeld
 if !t.mxVerified then throw .emailNotMxVerified
 if isSuppressed policy db.suppressions t.emailAddress at' then throw .emailSuppressed

/-- `prepare_target`: a fresh link, and the message rendered with it. -/
def prepareTarget (message:String→Rendered)(t:Target):Except ActionError Target:=
 let prepared:=Target.unbound (Target.rendered t (message t.targetId))
 if prepared.mailContractPassed then .ok prepared else .error .mailContractFailed

def setTargets (db:Db)(targets:List Target):Db:=targets.foldl Db.setTarget db

def newRequest (c:SendCommand)(at':ℕ):SendRequest where
 requestId:=c.requestId
 payload:=c.targets
 requestDay:=at'/microsecondsPerDay
 reservedCount:=c.targets.length
 sentCount:=0
 processedCount:=0
 failedCount:=0
 status:=.queued
 providerCampaignId:=none
 nextAttemptAt:=some at'
 leaseId:=none
 leaseExpiresAt:=none
 result:=⟨⟨[],[]⟩,none,false⟩
 items:=c.targets.mapIdx fun position entry=>⟨entry.1,position,entry.2,.queued,none,none,at'⟩

/-- What a reservation finds beside the tables: the kill switch, a busy lock,
and a reservation of the same id on another day that its look-ups missed, since
only those of one day are serialised. -/
structure Surroundings where
 (killSwitch busy missed:Bool)
 message:String→Rendered

def lookUp (db:Db)(c:SendCommand)(at':ℕ)(around:Surroundings):Option SendRequest:=
 (db.request? c.requestId).filter fun r=>
  !(around.missed&&r.requestDay≠at'/microsecondsPerDay)

/-- The checks of `reserve_send`, up to the insert: the prepared targets. -/
def checkBatch (policy:Policy)(c:SendCommand)(at':ℕ)(around:Surroundings)(db:Db) :
 Except ActionError (List Target):=do
 if around.killSwitch then throw .killSwitchActive
 if reservedOn (at'/microsecondsPerDay) db.requests+c.targets.length > dailySendCap then
  throw .dailySendCapExceeded
 if around.busy then throw .resourceLockBusy
 let targets ←c.targets.mapM (reservable db)
 targets.forM (admissible policy db at')
 targets.mapM (prepareTarget around.message)

/-- `enqueue_send`: its answer, and the database after its transaction. -/
def enqueueSend (policy:Policy)(c:SendCommand)(at':ℕ)(around:Surroundings)(db:Db) :
 Except ActionError String × Db:=
 let existing:=fun (r:SendRequest)=>
  if r.payload=c.targets then .ok r.requestId else .error .sendRequestIdempotencyConflict
 match lookUp db c at' around with
 | some r=>(existing r,db)
 | none =>
  match checkBatch policy c at' around db with
  | .error e=>(.error e,db)
  | .ok targets =>
   match db.request? c.requestId with
   | some r =>
    -- the insert conflicts: the savepoint is gone, the prepared targets stay
    (existing r,setTargets db targets)
   | none =>
    -- the update of a target asks for a null, where the check took an empty id too
    if targets.any (·.sendRequestId.isSome) then (.error .invalidTargetStatus,db)
    else
     let reserved:=targets.map fun t=>{t with sendRequestId:=some c.requestId}
     (.ok c.requestId,
      {setTargets db reserved with requests:=newRequest c at'::db.requests})

end Kivou.ProspectActions
