import Kivou.ProspectActions

set_option autoImplicit false

/-! The writers that take a recipient out of the directory or suppress an address: the provider's
webhooks, the privacy service and the audit of the domains. -/
namespace Kivou.ProspectOptOuts
open ProspectRecords ProspectActions

/-- `InstantlyWebhookPayload`, with its keyed fingerprint. -/
structure WebhookPayload where
 eventType:Option ProviderEventType
 providerCampaignId:String
 leadEmail:Option String
 timestamp:ℕ
 fingerprint:String

/-- `_DELIVERY_PRECEDENCE` -/
def DeliveryStatus.precedence:DeliveryStatus→ℕ
 | .notSent=>0
 | .delivered=>1
 | .opened=>2
 | .clicked=>3
 | .replied=>4
 | .bounced=>5
 | .unsubscribed=>6

/-- `values[column] is None or occurred_at < values[column]`. -/
def earliest (column:Option ℕ)(occurredAt:ℕ):Option ℕ:=
 match column with
 | none=>some occurredAt
 | some before=>some (if occurredAt<before then occurredAt else before)

def Delivery.raise (d:Delivery)(status:DeliveryStatus):Delivery:=
 {d with
   status:=
    if DeliveryStatus.precedence d.status<DeliveryStatus.precedence status then status
    else d.status}

/-- One turn of the loop of `_target_values`. -/
def Delivery.project (d:Delivery)(event:DeliveryEvent):Delivery:=
 let occurredAt:=event.occurredAt
 match event.eventType with
 | some .emailSent=>Delivery.raise {d with sentAt:=earliest d.sentAt occurredAt} .delivered
 | some .emailOpened =>
  Delivery.raise {d with openedAt:=earliest d.openedAt occurredAt} .opened
 | some .emailLinkClicked | some .linkClicked =>
  Delivery.raise {d with clickedAt:=earliest d.clickedAt occurredAt} .clicked
 | some .replyReceived =>
  Delivery.raise {d with
   repliedAt:=earliest d.repliedAt occurredAt
   replyClassification:=some .humanReply} .replied
 | some .autoReplyReceived =>
  Delivery.raise {d with
   repliedAt:=earliest d.repliedAt occurredAt
   replyClassification:=some .autoReply} .replied
 | some .emailBounced =>
  Delivery.raise {d with bouncedAt:=earliest d.bouncedAt occurredAt} .bounced
 | some .leadUnsubscribed =>
  Delivery.raise {d with unsubscribedAt:=earliest d.unsubscribedAt occurredAt} .unsubscribed
 | some .campaignCompleted | some .accountError | none=>d

/-- `ORDER BY occurred_at, event_fingerprint`. -/
def eventsOf (db:Db)(targetId:String):List DeliveryEvent:=
 (db.deliveryEvents.filter (·.targetId=some targetId)).mergeSort fun a b=>
  a.occurredAt<b.occurredAt||(a.occurredAt=b.occurredAt&&!(b.fingerprint<a.fingerprint))

/-- `_target_values` -/
def targetValues (t:Target)(events:List DeliveryEvent):Target:=
 {t with version:=t.version+1,delivery:=events.foldl Delivery.project t.delivery}

def maxEventSkew:ℕ:=7*microsecondsPerDay

def memberRequired (eventType:Option ProviderEventType):Bool:=
 eventType∉[none,some .campaignCompleted,some .accountError]

def boundTargets (policy:Policy)(payload:WebhookPayload)(targets:List Target) :
 List Target:=
 targets.filter fun t=>t.providerCampaignId=some payload.providerCampaignId &&
  payload.leadEmail.all fun email=>policy.sqlLower t.emailAddress=policy.casefold email

def recordOptOut (policy:Policy)(payload:WebhookPayload)(t:Target)(receivedAt:ℕ) (db:Db):Db:=
 match payload.eventType with
 | some .emailBounced =>
  db.updateDirectory t.siren fun row=>{row with reverificationRequiredAt:=some receivedAt}
 | some .leadUnsubscribed =>
  { db.updateDirectory t.siren fun row=>{row with suppressedAt:=some receivedAt} with
    suppressions:=⟨policy.suppressionIdentity t.emailAddress,payload.timestamp⟩::db.suppressions}
 | _=>db

/-- `ingest_payload`: none if it raises. -/
def ingestPayload (policy:Policy)(payload:WebhookPayload)(receivedAt:ℕ)(db:Db) :
 Option Db:=
 if payload.timestamp+maxEventSkew<receivedAt ∨ receivedAt+maxEventSkew<payload.timestamp
 then none
 else
  let bound:=boundTargets policy payload db.targets
  if memberRequired payload.eventType ∧ bound.length≠1 then none
  else
   let row:=if bound.length=1 then bound.head? else none
   let known:=db.deliveryEvents.any (·.fingerprint=payload.fingerprint)
   let db:=if known then db
    else {db with
     deliveryEvents:=⟨payload.fingerprint,row.map (·.targetId),payload.providerCampaignId,
      payload.eventType,payload.timestamp⟩::db.deliveryEvents}
   match row with
   | none=>some db
   | some t =>
    let db:=db.setTarget (targetValues t (eventsOf db t.targetId))
    some (if known then db else recordOptOut policy payload t receivedAt db)

/-- `SupplierDirectoryPrivacyService.suppress`; the address is suppressed too if
the acquisition knows a contact by it. -/
def suppress (policy:Policy)(siren:String)(known:Bool)(receivedAt:ℕ)(db:Db) :
 Option Db:=
 (db.directory siren).map fun row=>
  let identities:=if known then row.professionalEmail.toList.map policy.suppressionIdentity
   else []
  { db.updateDirectory siren fun row=>{row with
     professionalEmail:=none
     suppressedAt:=some receivedAt} with
    suppressions:=identities.map (⟨·,receivedAt⟩)++db.suppressions}

def blockedDomain (policy:Policy)(row:DirectoryRow):Bool:=
 row.suppressedAt.isNone&&row.domainValidationMethod.isSome &&
  row.domain.any policy.rejectedSupplierDomain

/-- `_started_send_exists` -/
def startedSendExists (policy:Policy)(db:Db):Bool:=db.targets.any fun t=>
  (db.directory t.siren).any (blockedDomain policy) &&
   (t.sendRequestId.bind db.request?).any (·.status=.started)

/-- `audit_confirmed_domains` with `apply`: none on a conflict. -/
def auditConfirmedDomains (policy:Policy)(observedAt:ℕ)(db:Db):Option Db:=
 if startedSendExists policy db then none
 else some {db with
  directory:=fun siren=>(db.directory siren).map fun row=>
   if blockedDomain policy row then {row with
    domain:=none
    domainValidationMethod:=none
    professionalEmail:=none
    reverificationRequiredAt:=some observedAt}
   else row}

end Kivou.ProspectOptOuts
