import Mathlib.Data.Finset.Card
import Kivou.BillingCatalogue
import Kivou.PythonValues
import Kivou.Tables

set_option autoImplicit false

/-! `signals.billing.discovery` and the landing row of `signals.accounts.service`. A signal is open
to a Discovery account when it was granted or is the one its landing page promised. Four writers
change that set; each runs in a transaction, and one that raises (`none`) leaves the database as it
was. What a writer reads outside the three tables here (the plan, the feed page, the evidence and
the materialized signals) comes with the call. -/
namespace Kivou.DiscoveryGrants
open BillingCatalogue PythonValues

/-- A row of `discovery_signal_grant`, unique by account and signal. -/
structure Grant where
 (accountId signalKey opportunityKey:String)
 (grantedAt createdAt:ℤ)

/-- A row of `account_landing_signal`, unique by account. -/
structure Landing where
 accountId:String
 (opportunityKey signalKey tokenFingerprint:Option String)
 qa:Bool
 createdAt:ℤ
 deriving DecidableEq

structure LandingSignal where
 accountId:String
 (opportunityKey signalKey tokenFingerprint:Option String)
 createdAt:ℤ

structure Db where
 accounts:List String
 grants:List Grant
 landings:List Landing

def initial (accounts:List String):Db:=⟨accounts,[],[]⟩

def findLanding (db:Db)(accountId:String):Option Landing:=
 db.landings.find? (fun row=>row.accountId==accountId)

def grantedSignalKeys (db:Db)(accountId:String):Finset String:=
 ((db.grants.filter (fun row=>row.accountId==accountId)).map (·.signalKey)).toFinset

def landingSignalKeys (db:Db)(accountId:String):Finset String:=
 match (findLanding db accountId).bind (·.signalKey) with
 | some key=>{key}
 | none=>∅

def openedSignalKeys (db:Db)(accountId:String):Finset String:=
 grantedSignalKeys db accountId ∪ landingSignalKeys db accountId

def remainingSlots (db:Db)(accountId:String):ℕ:=
 discoveryGrantLimit-(openedSignalKeys db accountId).card

/-- `_lock_account`: an unknown account raises. -/
def lockAccount (db:Db)(accountId:String):Option Unit:=guard (accountId∈db.accounts)

/-- `insert_if_absent`, with whether this call wrote the row. -/
def insertIfAbsent (db:Db)(row:Grant):Db × Bool:=
 if db.grants.any (fun g=>g.accountId==row.accountId&&g.signalKey==row.signalKey) then (db,false)
 else ({db with grants:=db.grants++[row]},true)

/-- Python's `or` on optional texts: an empty text counts as absent. -/
def orElse (a b:Option String):Option String:=
 if a.any (fun s=>s≠"") then a else b

/-- The columns a repeated landing fills in: the signal key whenever it comes
with one, the fingerprint only while there is none, `qa` once and for all. -/
def updateLanding (signalKey tokenFingerprint:Option String)(qa:Bool)(row:Landing) :
 Landing:=
 {row with
   signalKey:=if signalKey.isSome then signalKey else row.signalKey
   qa:=row.qa||qa
   tokenFingerprint:=if row.tokenFingerprint.isNone then tokenFingerprint
    else row.tokenFingerprint}

def setLanding (db:Db)(accountId:String)(f:Landing→Landing):Db:=
 {db with landings:=Tables.update (fun row=>row.accountId==accountId) f db.landings}

def insertLanding (db:Db)(row:Landing):Db:={db with landings:=db.landings++[row]}

def recordLandingSignal (accountId:String)(opportunityKey signalKey tokenFingerprint:Option String)
 (qa:Bool)(now:ℤ)(db:Db):Option (Db × LandingSignal):=
 match findLanding db accountId with
 | none=>do
  -- the insert: the foreign key refuses an account that does not exist
  guard (accountId∈db.accounts)
  let row:Landing:={accountId,opportunityKey,signalKey,tokenFingerprint,qa,createdAt:=now}
  return (insertLanding db row,⟨accountId,opportunityKey,signalKey,tokenFingerprint,now⟩)
 | some row =>
  if updateLanding signalKey tokenFingerprint qa row=row then
   some (db,⟨accountId,row.opportunityKey,row.signalKey,row.tokenFingerprint,row.createdAt⟩)
  else
   some (setLanding db accountId (updateLanding signalKey tokenFingerprint qa),
    ⟨accountId,row.opportunityKey,orElse signalKey row.signalKey,
     orElse row.tokenFingerprint tokenFingerprint,row.createdAt⟩)

inductive FeedStatus where
 | recentAward | recentlyNotifiedContract | recentlyPublishedAward | agingAward | staleAward
 | invalidAwardDate | awardDateUnknown | unlisted
 deriving DecidableEq

def FeedStatus.rankOf:FeedStatus→ℤ
 | .recentAward=>0
 | .recentlyNotifiedContract=>1
 | .recentlyPublishedAward=>2
 | .agingAward=>3
 | .staleAward=>4
 | .invalidAwardDate=>5
 | .awardDateUnknown=>6
 | .unlisted=>7

inductive MatchBand where
 | strong | promising | weak | unlisted

def MatchBand.rank:MatchBand→ℤ
 | .strong=>0
 | .promising=>1
 | .weak=>2
 | .unlisted=>3

structure FeedItem where
 (signalKey materializationAwardKey:String)
 icpMatchBand:MatchBand
 icpMatchNormalizedScore:Option ℤ
 status:FeedStatus
 eventDate:Option ℤ
 displayed:Bool
 (title sourceUrl sourceNoticeId cpvMain:Option String)
 amount:Option ℚ
 currency:Option String
 hasPlaceOfPerformance:Bool
 procedureBuyers:List String
 (awardDate contractNotificationDate contractStartDate contractEndDate durationValue:Option ℤ)
 durationUnit:Option String

structure Evidence where
 awardKey:String
 sourceUrl:Option String

/-- `bool((text or "").strip())` -/
def filled (text:Option String):Bool:=strip (text.getD "")≠""

/-- `_evidence_by_award` at one award. -/
def evidenceByAward (rows:List Evidence)(awardKey:String):ℕ × Bool:=
 let own:=rows.filter (fun row=>row.awardKey==awardKey)
 (own.length,own.any (fun row=>filled row.sourceUrl))

def documentScore (item:FeedItem)(evidenceCount:ℕ):ℕ:=min evidenceCount 8 +
  [filled item.sourceUrl,filled item.sourceNoticeId,filled item.title,
   item.cpvMain.any (· ≠ ""),item.amount.isSome&&item.currency.isSome,
   item.hasPlaceOfPerformance,!item.procedureBuyers.isEmpty,item.awardDate.isSome,
   item.contractNotificationDate.isSome,item.contractStartDate.isSome,
   item.contractEndDate.isSome,item.durationValue.isSome&&item.durationUnit.isSome].count true

def commercialTimingKey (item:FeedItem)(asOf:ℤ):List ℤ:=
 match item.contractStartDate.filter (asOf ≤ ·),item.contractEndDate.filter (asOf ≤ ·) with
 | some start,_=>[0,start-asOf]
 | none,some stop=>[1,stop-asOf]
 | none,none=>if item.durationValue.isSome&&item.durationUnit.isSome then [2,0] else [3,0]

def candidateSortKey (item:FeedItem)(evidenceCount:ℕ)(asOf:ℤ):List ℤ × String:=
 ([item.icpMatchBand.rank,-item.icpMatchNormalizedScore.getD (-1),item.status.rankOf,
   -(documentScore item evidenceCount:ℤ)]++commercialTimingKey item asOf ++
   [-item.eventDate.getD 0],
  item.signalKey)

def sortKeyLe (a b:List ℤ × String):Bool:=decide (a.1<b.1)||(a.1==b.1&&decide (a.2≤b.2))

/-- What a backfill reads besides the grants: the plan before and under the
account lock, the active profiles, the matched feed page and its evidence. -/
structure BackfillReads where
 (planCode lockedPlanCode:PlanCode)
 allowedTargetIcpIds:List String
 matched:List FeedItem
 evidence:List Evidence

def isEligible (proof:ℕ × Bool)(item:FeedItem):Bool:=
 item.displayed&&filled item.title&&(filled item.sourceUrl||proof.2) &&
  item.eventDate.isSome&&item.status≠.invalidAwardDate&&item.status≠.awardDateUnknown

def eligibleSignalKeys (reads:BackfillReads)(asOf:ℤ):List String:=
 let proof item:=evidenceByAward reads.evidence item.materializationAwardKey
 let sortKey item:=candidateSortKey item (proof item).1 asOf
 ((reads.matched.filter (fun item=>isEligible (proof item) item)).mergeSort
  (fun a b=>sortKeyLe (sortKey a) (sortKey b))).map (·.signalKey)

/-- The `proposed_signal_keys` of `preview_initial_backfill`. -/
def proposedSignalKeys (accountId:String)(reads:BackfillReads)(asOf:ℤ)(db:Db) :
 List String:=
 let existing:=openedSignalKeys db accountId
 if reads.lockedPlanCode≠.discovery ∨ discoveryGrantLimit≤existing.card then []
 else if reads.allowedTargetIcpIds=[] then []
 else ((eligibleSignalKeys reads asOf).filter (· ∉ existing)).take
  (discoveryGrantLimit-existing.card)

def grantKnown (accountId:String)(opportunities:String→Option String)(now:ℤ) :
 List String→Db→Db × List String
 | [],db=>(db,[])
 | key::keys,db =>
  match opportunities key with
  | none=>grantKnown accountId opportunities now keys db
  | some opportunityKey =>
   let (db,inserted):=insertIfAbsent db ⟨accountId,key,opportunityKey,now,now⟩
   let (db,newly):=grantKnown accountId opportunities now keys db
   (db,if inserted then key::newly else newly)

def reconcileInitialBackfill (accountId:String)(reads:BackfillReads)
 (opportunities:String→Option String)(asOf now:ℤ)(db:Db) :
 Option (Db × List String):=
 if reads.planCode≠.discovery then some (db,[])
 else if remainingSlots db accountId=0 then some (db,[])
 else do
  lockAccount db accountId
  let proposed:=proposedSignalKeys accountId reads asOf db
  if reads.lockedPlanCode≠.discovery ∨ proposed=[] then return (db,[])
  else return grantKnown accountId opportunities now proposed db

def neighbours (db:Db)(accountId:String)(signalKeys:List String):List String:=
 ((signalKeys.eraseDups.take discoveryGrantLimit).filter
  (· ∉ landingSignalKeys db accountId)).take (discoveryGrantLimit-1)

def grantLandingCohort (accountId:String)(signalKeys:List String)
 (opportunities:String→Option String)(now:ℤ)(db:Db):Option (Db × List String):=do
 lockAccount db accountId
 return grantKnown accountId opportunities now (neighbours db accountId signalKeys) db

structure Candidate where
 (signalKey opportunityKey:String)

def grantCandidates (accountId:String)(now:ℤ) : ℕ→Finset String→List Candidate→Db→Db × List String
 | 0,_,_,db=>(db,[])
 | _+1,_,[],db=>(db,[])
 | slots+1,already,item::items,db =>
  if item.signalKey∈already then grantCandidates accountId now (slots+1) already items db
  else
   let row:Grant:=⟨accountId,item.signalKey,item.opportunityKey,now,now⟩
   match insertIfAbsent db row with
   | (db,false) =>grantCandidates accountId now (slots+1) (already ∪ {item.signalKey}) items db
   | (db,true) =>
    let (db,newly):=grantCandidates accountId now slots (already ∪ {item.signalKey}) items db
    (db,item.signalKey::newly)

def grantUpToLimit (accountId:String)(candidates:List Candidate)(now:ℤ)(db:Db) :
 Option (Db × List String):=do
 lockAccount db accountId
 let slots:=remainingSlots db accountId
 return grantCandidates accountId now slots (openedSignalKeys db accountId) candidates db

inductive Op where
 | signUp (accountId:String)
 | recordLandingSignal (accountId:String)
   (opportunityKey signalKey tokenFingerprint:Option String)(qa:Bool)(now:ℤ)
 | reconcileInitialBackfill (accountId:String)(reads:BackfillReads)
   (opportunities:String→Option String)(asOf now:ℤ)
 | grantLandingCohort (accountId:String)(signalKeys:List String)
   (opportunities:String→Option String)(now:ℤ)
 | grantUpToLimit (accountId:String)(candidates:List Candidate)(now:ℤ)

def step (db:Db):Op→Db
 | .signUp accountId =>
  if accountId∈db.accounts then db else {db with accounts:=db.accounts++[accountId]}
 | .recordLandingSignal accountId opportunityKey signalKey tokenFingerprint qa now =>
  ((recordLandingSignal accountId opportunityKey signalKey tokenFingerprint qa now db).map
   Prod.fst).getD db
 | .reconcileInitialBackfill accountId reads opportunities asOf now =>
  ((reconcileInitialBackfill accountId reads opportunities asOf now db).map Prod.fst).getD db
 | .grantLandingCohort accountId signalKeys opportunities now =>
  ((grantLandingCohort accountId signalKeys opportunities now db).map Prod.fst).getD db
 | .grantUpToLimit accountId candidates now =>
  ((grantUpToLimit accountId candidates now db).map Prod.fst).getD db

end Kivou.DiscoveryGrants
