import Kivou.Calendar
import Kivou.OpportunityIdentity
import Kivou.Tables

set_option autoImplicit false

/-! `signals.documents.early_capture` over its table: a notice's documents are stored as they are
captured, an award is joined with those of its procedure, and what was never joined expires. -/
namespace Kivou.ProcedureDocuments
open PythonValues AwardDomain OpportunityIdentity

inductive AccessStatus where
 | available | external | authRequired | notFound | unsupported | downloadFailed | tooLarge
 | encrypted | portalBlocked | cguRestricted

inductive JoinStatus where
 | unlinked | linked | reviewRequired
 deriving DecidableEq

inductive ExtractionMethod where
 | pdfText | docxParagraph | xlsxCell | htmlText | plainText | xmlText

structure TextBlock where
 (locator text:String)
 method:ExtractionMethod
 page:Option ℕ:=none

structure ProcedureDocumentRecord where
 sourceSystem:SourceSystem
 sourceNoticeId:NonEmptyStr
 sourceProcedureId:Option NonEmptyStr
 (buyerFingerprint objectNormalized cpvMain:Option String)
 submissionDeadline:Option DateTime
 sourceUrl:String
 accessStatus:AccessStatus
 content:Option (List UInt8)
 (contentHash mediaType:Option String)
 blocks:List TextBlock
 capturedAt:DateTime
 accessDetail:Option String:=none
 joinStatus:JoinStatus:=.unlinked
 linkedAwardKey:Option String:=none

/-- A row of `procedure_documents`. -/
structure Document where
 procedureDocumentKey:String
 sourceSystem:SourceSystem
 sourceNoticeId:NonEmptyStr
 sourceProcedureId:Option NonEmptyStr
 (buyerFingerprint objectNormalized cpvMain:Option String)
 submissionDeadline:Option DateTime
 (sourceUrl host:String)
 accessStatus:AccessStatus
 accessDetail:Option String
 classifiedRequirementsCount:ℕ
 (contentHash mediaType:Option String)
 byteSize:ℕ
 archiveContent:Option (List UInt8)
 blocks:List TextBlock
 joinStatus:JoinStatus
 linkedAwardKey:Option String
 capturedAt:DateTime
 expiresAt:Option DateTime
 createdAt:DateTime

abbrev Dossiers:=List Document

/-- What the capture reads texts and archives with. An extraction or an analysis
that is none raised, and so does a row that its columns refuse. -/
structure Tools where
 sha:Hexdigest
 hexdigest:∀text,(sha text).length=64
 identityText:SourceSystem→String→String→Option String→String
 buyersText:List OrganizationRef→String
 (foldAccents host:String→String)
 extract:List UInt8→String→Option String→Option (List TextBlock)
 analyze:Dossiers→PublicEvent → ContractAward→Option ℕ
 accepted:Document→Bool

variable (t:Tools)

/-- `_key` -/
def keyOf (record:ProcedureDocumentRecord):String:=
 firstChars 40 (t.sha (t.identityText record.sourceSystem record.sourceNoticeId.text
  record.sourceUrl record.contentHash))

def microsecondsPerDay:ℤ:=86400000000

/-- `_plus_twelve_months`, at the same reading of the clock; past the year 9999 it raises. -/
def plusTwelveMonths (value:DateTime):Option DateTime:=
 let civil:=Calendar.ofOrdinal (value.wall/microsecondsPerDay+1).toNat
 let later:Calendar.Civil:={civil with year:=civil.year+1}
 let later:=if later.valid then later else {later with day:=28}
 if later.valid then
  some { value with wall:=value.wall +
   ((Calendar.toOrdinal later:ℤ)-Calendar.toOrdinal civil)*microsecondsPerDay}
 else none

def expiry (record:ProcedureDocumentRecord):Option (Option DateTime):=
 match record.submissionDeadline with
 | none=>some none
 | some deadline=>(plusTwelveMonths deadline).map some

def storedBytes (d:Dossiers):ℕ:=(d.map (·.byteSize)).sum

def recaptured (record:ProcedureDocumentRecord)(expiresAt:Option DateTime)(row:Document) :
 Document:=
 {row with
   accessStatus:=record.accessStatus
   accessDetail:=record.accessDetail
   capturedAt:=record.capturedAt
   expiresAt}

def inserted (record:ProcedureDocumentRecord)(expiresAt:Option DateTime):Document:=
 {record with
   procedureDocumentKey:=keyOf t record
   host:=t.host record.sourceUrl
   classifiedRequirementsCount:=0
   byteSize:=(record.content.getD []).length
   archiveContent:=record.content
   expiresAt
   createdAt:=record.capturedAt}

/-- `store_procedure_document`, with whether it created the document. -/
def storeProcedureDocument (record:ProcedureDocumentRecord)(quotaBytes:ℤ)(d:Dossiers) :
 Option (Dossiers × Bool):=
 if quotaBytes<0 then none
 else if d.any (·.procedureDocumentKey==keyOf t record) then
  (expiry record).map fun expiresAt=>
   (Tables.update (·.procedureDocumentKey==keyOf t record) (recaptured record expiresAt) d,false)
 else if quotaBytes<storedBytes d+(record.content.getD []).length then none
 else (expiry record).bind fun expiresAt=>
  if t.accepted (inserted t record expiresAt) then some (d++[inserted t record expiresAt],true)
  else none

structure TenderNotice where
 event:PublicEvent
 title:Option NonEmptyStr
 cpvMain:Option String
 submissionDeadline:Option DateTime
 documentUrls:List NonEmptyStr
 authRequired:Bool
 cpvForm:cpvMain.all isCpvRoot=true

/-- A `FetchResult`. -/
structure Fetched where
 accessStatus:AccessStatus
 content:Option (List UInt8)
 (mediaType contentHash:Option String)
 retrievedAt:Option DateTime
 detail:Option String

def isWordChar (c:Char):Bool:=97≤c.toNat&&c.toNat≤122||48≤c.toNat&&c.toNat≤57

/-- `re.findall(r"[a-z0-9]+", text)` -/
def words (text:String):List String:=
 ((text.toList.splitOnP (!isWordChar ·)).filter (· ≠ [])).map String.ofList

/-- `normalize_object` -/
def normalizeObject (value:Option String):Option String:=(value.filter (· ≠ "")).bind fun text=>
  let joined:=" ".intercalate (words (t.foldAccents text))
  if joined="" then none else some joined

/-- `event_buyer_fingerprint` -/
def eventBuyerFingerprint (event:PublicEvent):Option String:=
 if event.procedureBuyers=[] then none
 else some (firstChars 40 (t.sha (t.buyersText event.procedureBuyers)))

def noticeRecord (notice:TenderNotice)(url:NonEmptyStr)(fetched:Fetched)(now:DateTime) :
 Option ProcedureDocumentRecord:=
 let answer:=if notice.authRequired then none else some fetched
 let content:=answer.bind (·.content)
 let blocks:=match content with
  | none=>some []
  | some content=>t.extract content url.text (answer.bind (·.mediaType))
 blocks.map fun blocks=>
  { sourceSystem:=notice.event.provenance.sourceSystem
    sourceNoticeId:=notice.event.provenance.sourceNoticeId
    sourceProcedureId:=notice.event.provenance.sourceProcedureId
    buyerFingerprint:=eventBuyerFingerprint t notice.event
    objectNormalized:=normalizeObject t (notice.title.map NonEmptyStr.text)
    cpvMain:=notice.cpvMain
    submissionDeadline:=notice.submissionDeadline
    sourceUrl:=url.text
    accessStatus:=(answer.map (·.accessStatus)).getD .authRequired
    accessDetail:=answer.bind (·.detail)
    content
    contentHash:=answer.bind (·.contentHash)
    mediaType:=answer.bind (·.mediaType)
    blocks
    capturedAt:=((answer.bind (·.retrievedAt)).or notice.event.provenance.retrievedAt).getD now}

def captureDocument (notice:TenderNotice)(fetch:String→Fetched)(now:DateTime)
 (quotaBytes:ℤ)(state:Dossiers × ℕ)(url:NonEmptyStr):Option (Dossiers × ℕ):=do
 let record ←noticeRecord t notice url (fetch url.text) now
 let stored ←storeProcedureDocument t record quotaBytes state.1
 return (stored.1,state.2+if stored.2 then 1 else 0)

/-- `capture_tender_notice`, with how many documents it created. -/
def captureTenderNotice (notice:TenderNotice)(fetch:String→Fetched)(now:DateTime)
 (quotaBytes:ℤ)(d:Dossiers):Option (Dossiers × ℕ):=
 notice.documentUrls.foldlM (captureDocument t notice fetch now quotaBytes) (d,0)

/-- `purge_expired_unlinked` -/
def purgeExpiredUnlinked (now:DateTime)(d:Dossiers):Dossiers:=
 d.filter fun row=>!(row.joinStatus=.unlinked &&
  row.expiresAt.any fun expiresAt=>expiresAt.toUtc.wall≤now.toUtc.wall)

inductive MatchMode where
 | explicitNotice | procedureId | fingerprint
 deriving DecidableEq

/-- `buyer_identity or event_buyer_fingerprint(event)`, the other two beside it. -/
def weakIdentity (event:PublicEvent)(award:ContractAward)(buyerIdentity:Option String) :
 Option (String × String × String):=do
 let identity ←(buyerIdentity.filter (· ≠ "")).or (eventBuyerFingerprint t event)
 let normalized ←normalizeObject t ((award.title.map NonEmptyStr.text).or award.description)
 let cpv ←award.cpvMain.map CpvCode.code
 return (identity,normalized,cpv)

def common (event:PublicEvent)(d:Dossiers):Dossiers:=
 d.filter (·.sourceSystem=event.provenance.sourceSystem)

def byNotice (event:PublicEvent)(d:Dossiers):Dossiers:=
 (common event d).filter fun row=>event.sourceNoticeLinks.contains row.sourceNoticeId

def byProcedure (event:PublicEvent)(d:Dossiers):Dossiers:=(common event d).filter fun row=>
  row.sourceProcedureId.isSome&&row.sourceProcedureId=event.provenance.sourceProcedureId

def byFingerprint (event:PublicEvent)(award:ContractAward)(buyerIdentity:Option String)
 (d:Dossiers):Dossiers:=
 match weakIdentity t event award buyerIdentity with
 | none=>[]
 | some (identity,normalized,cpv)=>(common event d).filter fun row=>
   row.buyerFingerprint=some identity&&row.objectNormalized=some normalized &&row.cpvMain=some cpv

def matchedDocuments (event:PublicEvent)(award:ContractAward)(buyerIdentity:Option String)
 (d:Dossiers):Option (MatchMode × Dossiers):=
 if byNotice event d≠[] then some (.explicitNotice,byNotice event d)
 else if byProcedure event d≠[] then some (.procedureId,byProcedure event d)
 else if byFingerprint t event award buyerIdentity d≠[] then
  some (.fingerprint,byFingerprint t event award buyerIdentity d)
 else none

def quarantined (reference:String)(row:Document):Document:=
 {row with joinStatus:=.reviewRequired,linkedAwardKey:=some reference}

def joined (reference:String)(requirements:ℕ)(row:Document):Document:=
 {row with
   joinStatus:=.linked
   linkedAwardKey:=some reference
   classifiedRequirementsCount:=requirements}

inductive ResolutionStatus where
 | linked | reviewRequired | unresolved

/-- An `AwardDocumentResolution`, with the number of requirements its analysis found. -/
structure Resolution where
 status:ResolutionStatus
 matchMode:Option MatchMode:=none
 blocks:List TextBlock:=[]
 requirements:Option ℕ:=none
 linkedAwardKey:Option String:=none

/-- `resolve_award_documents`: only a weak match needs no analysis, and is written
without one. -/
def resolveAwardDocuments (event:PublicEvent)(award:ContractAward)
 (buyerIdentity:Option String)(d:Dossiers):Option (Dossiers × Resolution):=
 match matchedDocuments t event award buyerIdentity d with
 | none=>some (d,{status:=.unresolved})
 | some (mode,rows) =>
  let keys:=rows.map (·.procedureDocumentKey)
  let reference:=awardKey t.sha award
  if mode=.fingerprint then
   some (Tables.update (keys.contains ·.procedureDocumentKey) (quarantined reference) d,
    {status:=.reviewRequired,matchMode:=mode,linkedAwardKey:=reference})
  else (t.analyze rows event award).map fun requirements=>
   (Tables.update (keys.contains ·.procedureDocumentKey) (joined reference requirements) d,
    { status:=.linked,matchMode:=mode,blocks:=rows.flatMap (·.blocks),requirements,
      linkedAwardKey:=reference})

def confirmed (row:Document):Document:={row with joinStatus:=.linked}

/-- `confirm_document_join` -/
def confirmDocumentJoin (linkedAwardKey:Option String)(d:Dossiers):Dossiers:=
 match linkedAwardKey.filter (· ≠ "") with
 | none=>d
 | some reference=>Tables.update
   (fun row=>row.linkedAwardKey=some reference&&row.joinStatus=.reviewRequired) confirmed d

inductive Op where
 | capture (notice:TenderNotice)(fetch:String→Fetched)(now:DateTime)(quotaBytes:ℤ)
 | resolve (event:PublicEvent)(award:ContractAward)(buyerIdentity:Option String)
 | confirm (linkedAwardKey:Option String)
 | purge (now:DateTime)

def step (d:Dossiers):Op→Dossiers
 | .capture notice fetch now quotaBytes =>
  ((captureTenderNotice t notice fetch now quotaBytes d).map Prod.fst).getD d
 | .resolve event award buyerIdentity =>
  ((resolveAwardDocuments t event award buyerIdentity d).map Prod.fst).getD d
 | .confirm linkedAwardKey=>confirmDocumentJoin linkedAwardKey d
 | .purge now=>purgeExpiredUnlinked now d

def run (ops:List Op):Dossiers:=ops.foldl (step t) []

end Kivou.ProcedureDocuments
