import Kivou.PythonValues
import Kivou.Tables
import Mathlib.Data.List.MinMax

set_option autoImplicit false

/-! The rows that the campaign store keeps, the calendar of a sequence and the reservation of a
member. A reservation is one serialised transaction: it gives the store that it leaves, or the error
after which nothing is written.

Dates are day ordinals, instants and times of day are microseconds. -/
namespace Kivou.Campaigns
open Tables

inductive Country where
 | ch
 | fr
 deriving DecidableEq

inductive Language where
 | fr
 | en

inductive Lifecycle where
 | building
 | sealed
 | active
 | paused
 | completed
 | failed
 deriving DecidableEq

inductive ExecutionState where
 | reserved
 | enrolled
 | queued
 | stopped
 | sent
 | failed

inductive SequenceState where
 | pendingStep1
 | waitingStep2
 | completed
 | stopped
 | failed

inductive OperationKind where
 | createCampaign
 | configureCampaign
 | addLead
 | activateCampaign
 | pauseCampaign
 | pauseLead
 deriving DecidableEq

inductive OperationState where
 | planned
 | inFlight
 | confirmed
 | reconcileRequired
 | retryableFailed
 | terminalFailed

def seconds (n:ℤ):ℤ:=n*1000000

def hours (n:ℤ):ℤ:=seconds (n*3600)

def days (n:ℤ):ℤ:=hours (n*24)

/-- A zone of the time zone database: the local date and time of an instant,
and the instant of a local date and time. -/
structure Zone where
 clock:ℤ→ℤ × ℤ
 instant:ℤ→ℤ→ℤ

def Zone.date (zone:Zone)(t:ℤ):ℤ:=(zone.clock t).1

structure Zones where
 (zurich paris:Zone)

/-- `Europe/Zurich` for Switzerland, else `Europe/Paris`. -/
def Zones.of (zones:Zones):Country→Zone
 | .ch=>zones.zurich
 | .fr=>zones.paris

def weekday (date:ℤ):ℤ:=(date+6)%7

/-- The loop of `_next_weekday` makes at most two rounds. -/
def nextWeekday (date:ℤ):ℤ:=
 if weekday date<5 then date else if weekday (date+1)<5 then date+1 else date+2

structure SequenceWindow where
 timezone:Country
 (step1ExecutionDate step1AuthorizationDeadline step2ExecutionDate step2AuthorizationDeadline:ℤ)

inductive Refusal where
 | valueError (message:String)
 | noResultFound
 | integrityError
 | campaignIdempotencyConflict (message:String)
 | campaignPacingExceeded (message:String)
 | campaignInputChanged (message:String)

section
variable (zones:Zones)

def sequenceWindow (jurisdiction:Country)(step1ExecutionDate:ℤ) :
 Except Refusal SequenceWindow:=
 if 5≤weekday step1ExecutionDate then .error (.valueError "step_1_execution_date must be a weekday")
 else
  let zone:=zones.of jurisdiction
  let step2ExecutionDate:=nextWeekday (step1ExecutionDate+4)
  .ok {
   timezone:=jurisdiction
   step1ExecutionDate
   step1AuthorizationDeadline:=zone.instant step1ExecutionDate (hours 17)
   step2ExecutionDate
   step2AuthorizationDeadline:=zone.instant step2ExecutionDate (hours 17)}

end

/-- What `campaign_group_key` is taken of: the input without its date. -/
structure Dimensions where
 (wedge wedgeVersion:String)
 (jurisdiction country:Country)
 language:Language
 (selectedNeedCategory selectedNeedVersion personalizationCatalogVersion:String)
 (personalizationTemplateVersion languagePolicyVersion envelopeCatalogVersion:String)
 (senderProfileRef mailboxPoolVersion complianceRulesetFingerprint:String)

structure CampaignFactoryInput extends Dimensions where
 step1ExecutionDate:ℤ

/-- `semantic_fingerprint`, for each kind of document that a store key is taken of. -/
structure Digests where
 ofGroup:Dimensions→String
 ofCampaign:String→ℕ→String
 ofMember:String→String
 ofOperation:OperationKind→String→Option String→String→String

structure CampaignPlan where
 (campaignGroupKey campaignRef:String)
 batchGeneration:ℕ
 country:Country
 wedge:String
 sequenceWindow:SequenceWindow

variable (digests:Digests)(zones:Zones)

/-- `CampaignFactory.build`; the generations count from one. -/
def build (value:CampaignFactoryInput)(batchGeneration:ℕ):Except Refusal CampaignPlan:=do
 let campaignGroupKey:=digests.ofGroup value.toDimensions
 let window ←sequenceWindow zones value.jurisdiction value.step1ExecutionDate
 .ok {
  campaignGroupKey
  campaignRef:=digests.ofCampaign campaignGroupKey batchGeneration
  batchGeneration
  country:=value.country
  wedge:=value.wedge
  sequenceWindow:=window}

/-- A row of `acquisition_campaign`. -/
structure Campaign where
 (campaignRef campaignGroupKey:String)
 batchGeneration:ℕ
 country:Country
 (wedge providerWorkspaceRef desiredProviderConfigFingerprint:String)
 window:SequenceWindow
 lifecycle:Lifecycle:=.building
 reservedMemberCount:ℕ:=0
 memberCapacity:ℕ:=10
 firstMemberReservedAt:Option ℤ:=none
 membershipCloseAt:Option ℤ:=none
 membershipClosedAt:Option ℤ:=none

/-- A row of `acquisition_campaign_member`. -/
structure Member where
 (memberRef campaignRef acquisitionOpportunityId supplierRef contactRef policyEvaluationId:String)
 (inputFingerprint envelopeFingerprint policyActionFingerprint mailboxRef:String)
 executionState:ExecutionState:=.reserved
 sequenceState:SequenceState:=.pendingStep1
 createdAt:ℤ

/-- A row of `acquisition_provider_operation`; its reference is its key. -/
structure ProviderOperation where
 operationRef:String
 kind:OperationKind
 state:OperationState:=.planned
 campaignRef:String
 memberRef:Option String
 desiredRequestFingerprint:String
 attempt:ℕ:=0

structure Store where
 campaigns:List Campaign
 members:List Member
 operations:List ProviderOperation

def Store.empty:Store:=⟨[],[],[]⟩

def Store.campaign? (s:Store)(campaignRef:String):Option Campaign:=
 s.campaigns.find? fun c=>c.campaignRef==campaignRef

def Store.joined (s:Store):List (Member × Campaign):=
 s.members.filterMap fun m=>(s.campaign? m.campaignRef).map fun c=>(m,c)

structure CampaignMemberReservation where
 (acquisitionOpportunityId supplierRef contactRef policyEvaluationId inputFingerprint:String)
 (envelopeFingerprint policyActionFingerprint mailboxRef:String)

/-- What a call of `reserve_member` is given. -/
structure Reservation where
 factoryInput:CampaignFactoryInput
 member:CampaignMemberReservation
 (providerWorkspaceRef desiredProviderConfigFingerprint:String)
 reservedAt:ℤ
 (expectedCampaignRef operationCorrelationId:Option String)
 effectiveMailboxDailyCap:Option ℤ

def Reservation.day (r:Reservation):ℤ × ℤ:=
 let zone:=zones.of r.factoryInput.jurisdiction
 let dayStart:=zone.instant (zone.date r.reservedAt) 0
 let start:=zone.clock dayStart
 (dayStart,zone.instant (start.1+1) start.2)

def Reservation.checks (r:Reservation)(effectiveMailboxDailyCap:ℤ) :
 List (String × ℤ × (Member × Campaign→Bool)):=
 [("global",5,fun _=>true),("country",5,fun row=>row.2.country==r.factoryInput.country),
  ("wedge",3,fun row=>row.2.wedge==r.factoryInput.wedge),
  ("mailbox",min 3 effectiveMailboxDailyCap,
   fun row=>row.1.mailboxRef==r.member.mailboxRef)]

def Store.dayCount (s:Store)(day:ℤ × ℤ)(counts:Member × Campaign→Bool):ℕ:=s.joined.countP fun row=>
  decide (day.1≤row.1.createdAt)&&decide (row.1.createdAt<day.2)&&counts row

def requirePacingCapacity (s:Store)(r:Reservation)(effectiveMailboxDailyCap:ℤ) :
 Except Refusal Unit:=
 let reached:=(r.checks effectiveMailboxDailyCap).find? fun check=>
  decide (check.2.1≤0)||decide (check.2.1≤(s.dayCount (r.day zones) check.2.2:ℤ))
 match reached with
 | some check=>.error (.campaignPacingExceeded (check.1++" daily campaign cap reached"))
 | none =>
  let companyCount:=s.members.countP fun m=>
   m.supplierRef==r.member.supplierRef&&decide (r.reservedAt-days 30 ≤ m.createdAt)
  if 1≤companyCount then
   .error (.campaignPacingExceeded "company rolling 30-day contact cap reached")
  else .ok ()

def plannedOperation (kind:OperationKind)(campaignRef:String)(memberRef:Option String)
 (desiredRequestFingerprint:String):ProviderOperation where
 operationRef:=digests.ofOperation kind campaignRef memberRef desiredRequestFingerprint
 kind
 campaignRef
 memberRef
 desiredRequestFingerprint

def planInitialOperations (campaignRef memberRef providerConfigFingerprint
 memberInputFingerprint:String)(operations:List ProviderOperation) :
 List ProviderOperation:=
 [plannedOperation digests .createCampaign campaignRef none providerConfigFingerprint,
  plannedOperation digests .configureCampaign campaignRef none providerConfigFingerprint,
  plannedOperation digests .addLead campaignRef (some memberRef) memberInputFingerprint].foldl
  (fun rows row=>insertIfAbsent ProviderOperation.operationRef row rows) operations

structure CampaignReservationResult where
 (campaignRef memberRef:String)
 batchGeneration:ℕ
 replayed:Bool:=false

def Reservation.plan (r:Reservation)(campaignRef memberRef:String)
 (operations:List ProviderOperation):List ProviderOperation:=
 match r.operationCorrelationId with
 | some _ =>
  planInitialOperations digests campaignRef memberRef r.desiredProviderConfigFingerprint
   r.member.inputFingerprint operations
 | none=>operations

def replayMember (r:Reservation)(existing:Member)(s:Store) :
 Except Refusal (Store × CampaignReservationResult):=
 let memberRef:=digests.ofMember r.member.acquisitionOpportunityId
 if existing.memberRef≠memberRef ∨ existing.inputFingerprint≠r.member.inputFingerprint ∨
   existing.envelopeFingerprint≠r.member.envelopeFingerprint ∨
   existing.policyActionFingerprint≠r.member.policyActionFingerprint then
  .error (.campaignIdempotencyConflict "opportunity already has different campaign semantics")
 else
  match s.campaign? existing.campaignRef with
  | none=>.error .noResultFound
  | some campaign =>
   .ok ({s with operations:=r.plan digests existing.campaignRef memberRef s.operations},
    { campaignRef:=existing.campaignRef
      memberRef
      batchGeneration:=campaign.batchGeneration
      replayed:=true})

def Campaign.isOpen (c:Campaign)(t:ℤ):Bool:=c.lifecycle==.building&&c.membershipClosedAt==none &&
  decide (c.reservedMemberCount<c.memberCapacity) &&
  c.membershipCloseAt.all fun close=>decide (t<close)

def availableCampaign (campaignGroupKey:String)(t:ℤ)(s:Store):Option Campaign:=
 (s.campaigns.filter fun c=>c.campaignGroupKey==campaignGroupKey&&c.isOpen t).argmin
  Campaign.batchGeneration

def nextGeneration (campaignGroupKey:String)(s:Store):ℕ:=
 match ((s.campaigns.filter fun c=>c.campaignGroupKey==campaignGroupKey).map
   Campaign.batchGeneration).max? with
 | none=>1
 | some maximum=>maximum+1

/-- `INSERT` of a campaign, with the unique columns of its table. -/
def insertCampaign (c:Campaign)(campaigns:List Campaign):Except Refusal (List Campaign):=
 if campaigns.any fun other=>other.campaignRef==c.campaignRef ||
   other.campaignGroupKey==c.campaignGroupKey &&other.batchGeneration==c.batchGeneration then
  .error .integrityError
 else .ok (campaigns++[c])

/-- `INSERT` of a member, with the unique columns of its table. -/
def insertMember (m:Member)(members:List Member):Except Refusal (List Member):=
 if members.any fun other=>other.memberRef==m.memberRef ||
   other.acquisitionOpportunityId==m.acquisitionOpportunityId ||
   other.policyEvaluationId==m.policyEvaluationId then
  .error .integrityError
 else .ok (members++[m])

def campaignFor (r:Reservation)(s:Store):Except Refusal (Campaign × List Campaign):=do
 let probe ←build digests zones r.factoryInput 1
 match availableCampaign probe.campaignGroupKey r.reservedAt s with
 | some campaign=>.ok (campaign,s.campaigns)
 | none =>
  let plan ←build digests zones r.factoryInput (nextGeneration probe.campaignGroupKey s)
  let campaign:Campaign:={
   campaignRef:=plan.campaignRef
   campaignGroupKey:=plan.campaignGroupKey
   batchGeneration:=plan.batchGeneration
   country:=plan.country
   wedge:=plan.wedge
   providerWorkspaceRef:=r.providerWorkspaceRef
   desiredProviderConfigFingerprint:=r.desiredProviderConfigFingerprint
   window:=plan.sequenceWindow}
  let campaigns ←insertCampaign campaign s.campaigns
  .ok (campaign,campaigns)

def Reservation.row (r:Reservation)(campaignRef:String):Member where
 memberRef:=digests.ofMember r.member.acquisitionOpportunityId
 campaignRef
 acquisitionOpportunityId:=r.member.acquisitionOpportunityId
 supplierRef:=r.member.supplierRef
 contactRef:=r.member.contactRef
 policyEvaluationId:=r.member.policyEvaluationId
 inputFingerprint:=r.member.inputFingerprint
 envelopeFingerprint:=r.member.envelopeFingerprint
 policyActionFingerprint:=r.member.policyActionFingerprint
 mailboxRef:=r.member.mailboxRef
 createdAt:=r.reservedAt

def Campaign.joinedAt (reservedAt:ℤ)(c:Campaign):Campaign:=
 let nextCount:=c.reservedMemberCount+1
 {c with
   reservedMemberCount:=nextCount
   firstMemberReservedAt:=if nextCount=1 then some reservedAt else c.firstMemberReservedAt
   membershipCloseAt:=
    if nextCount=1 then some (reservedAt+seconds 900) else c.membershipCloseAt
   membershipClosedAt:=if nextCount=10 then some reservedAt else c.membershipClosedAt}

def requirePacing (r:Reservation)(s:Store):Except Refusal Unit:=
 match r.effectiveMailboxDailyCap with
 | some cap=>requirePacingCapacity zones s r cap
 | none=>.ok ()

def requireExpected (r:Reservation)(campaignRef:String):Except Refusal Unit:=
 if r.expectedCampaignRef.any fun expected=>campaignRef != expected then
  .error (.campaignInputChanged "campaign batch generation changed before reservation")
 else .ok ()

def admitMember (r:Reservation)(s:Store) : Except Refusal (Store × CampaignReservationResult):=do
 requirePacing zones r s
 let (campaign,campaigns) ←campaignFor digests zones r s
 requireExpected r campaign.campaignRef
 let row:=r.row digests campaign.campaignRef
 let members ←insertMember row s.members
 .ok ({
  campaigns:=update (fun c=>c.campaignRef==campaign.campaignRef) (Campaign.joinedAt r.reservedAt)
    campaigns
  members
  operations:=r.plan digests campaign.campaignRef row.memberRef s.operations},
  { campaignRef:=campaign.campaignRef
    memberRef:=row.memberRef
    batchGeneration:=campaign.batchGeneration})

/-- `CampaignStore.reserve_member`. -/
def reserveMember (r:Reservation)(s:Store) : Except Refusal (Store × CampaignReservationResult):=
 match s.members.find? fun m=>m.acquisitionOpportunityId==r.member.acquisitionOpportunityId with
 | some existing=>replayMember digests r existing s
 | none=>admitMember digests zones r s

/-- `CampaignStore.close_due_batches`. -/
def closeDueBatches (now:ℤ)(s:Store):Store:=
 {s with
   campaigns:=update (fun c=>c.lifecycle==.building&&c.membershipClosedAt==none &&
     c.membershipCloseAt.any fun close=>decide (close≤now))
    (fun c=>{c with membershipClosedAt:=c.membershipCloseAt}) s.campaigns}

end Kivou.Campaigns
