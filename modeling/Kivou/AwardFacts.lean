import Kivou.Columns
import Kivou.Decimals
import Kivou.OperationalIncidents
import Kivou.OpportunityIdentity
import Kivou.Tables

set_option autoImplicit false

/-! `persist_award_facts`: a publication is a row of `source_event`, a contract a row of
`contract_award`, and neither is ever rewritten; the contract is then attached to an opportunity. A
row that a column refuses ends the transaction. -/
namespace Kivou.AwardFacts
open AwardDomain OpportunityIdentity Decimals Columns
open OperationalIncidents (fitsColumn)

structure SourceEventRow where
 eventKey:String
 sourceSystem:SourceSystem
 sourceNoticeId:NonEmptyStr
 noticeVersion:Option NonEmptyStr
 sourceCountry:CountryCode
 (sourceProcedureId sourceUrl:Option NonEmptyStr)
 eventType:EventType
 publishedAt:Option PublicationInstant
 discoveredAt:Option PythonValues.DateTime
 procedureBuyers:List OrganizationRef

structure ContractAwardRow where
 (awardKey eventKey:String)
 sourceAwardId:Option NonEmptyStr
 lot:Option LotRef
 (contractReference title:Option NonEmptyStr)
 description:Option String
 cpvMain:Option CpvCode
 cpvAdditional:List CpvCode
 amount:Option ℚ
 currency:Option CurrencyCode
 vatCategory:Option VatCategory
 winnerStatus:WinnerStatus
 awardeeParties:List AwardeeParty
 contractSignatories:List OrganizationRef
 placeOfPerformance:Option Location
 (awardDate contractSignatureDate contractNotificationDate contractStartDate:Option Date)
 contractEndDate:Option Date
 duration:Option Duration

/-- The values of `_upsert_source_event`. -/
def eventRow (event:PublicEvent):SourceEventRow:=
 { eventKey:=event.ref.key
   sourceSystem:=event.provenance.sourceSystem
   sourceNoticeId:=event.provenance.sourceNoticeId
   noticeVersion:=event.provenance.noticeVersion
   sourceCountry:=event.provenance.sourceCountry
   sourceProcedureId:=event.provenance.sourceProcedureId
   sourceUrl:=event.provenance.sourceUrl
   eventType:=event.eventType
   publishedAt:=event.publishedAt
   discoveredAt:=event.provenance.retrievedAt
   procedureBuyers:=event.procedureBuyers}

variable (sha:Hexdigest)

/-- The values of `_upsert_award`. -/
def awardRow (event:PublicEvent)(award:ContractAward):ContractAwardRow:=
 {award with
   awardKey:=awardKey sha award
   eventKey:=event.ref.key
   amount:=award.value.map Money.amount
   currency:=award.value.map Money.currency
   vatCategory:=award.value.bind Money.vatCategory}

/-- A `TEXT` takes any text without a NUL. -/
def fitsText (text:String):Bool:=!text.toList.contains '\x00'

def SourceEventRow.fits (row:SourceEventRow):Bool:=
 fitsColumn 256 row.eventKey&&fitsColumn 256 row.sourceNoticeId.text &&
  row.noticeVersion.all (fitsColumn 32 ·.text)&&row.sourceProcedureId.all (fitsColumn 256 ·.text) &&
  row.sourceUrl.all (fitsText ·.text)

def ContractAwardRow.fits (row:ContractAwardRow):Bool:=
 row.sourceAwardId.all (fitsColumn 256 ·.text)&&row.lot.all (fitsColumn 256 ·.identifier.text) &&
  row.lot.all (fun lot=>lot.title.all (fitsText ·.text)) &&
  row.contractReference.all (fitsText ·.text)&&row.title.all (fitsText ·.text) &&
  row.description.all fitsText&&row.duration.all (·.value<2^31)

def SourceEventRow.stored (row:SourceEventRow):Option SourceEventRow:=
 if row.fits then some row else none

/-- `amount` is a `NUMERIC(18, 2)`. -/
def ContractAwardRow.stored (row:ContractAwardRow):Option ContractAwardRow:=
 if row.fits then (whenPresent (numeric 18 2) row.amount).map fun amount=>{row with amount}
 else none

lemma SourceEventRow.stored_key {row kept:SourceEventRow}(h:row.stored=some kept) :
 kept.eventKey=row.eventKey:=by
 simp only[stored,Option.ite_none_right_eq_some,Option.some.injEq] at h
 rw[←h.2]

lemma ContractAwardRow.stored_key {row kept:ContractAwardRow}(h:row.stored=some kept) :
 kept.awardKey=row.awardKey:=by
 simp only[stored,Option.ite_none_right_eq_some,Option.map_eq_some_iff] at h
 obtain ⟨-,amount,-,rfl⟩:=h
 rfl

lemma SourceEventRow.stored_eq {row kept:SourceEventRow}(h:row.stored=some kept) : kept=row:=by
 simp only[stored,Option.ite_none_right_eq_some,Option.some.injEq] at h
 exact h.2.symm

lemma ContractAwardRow.stored_eq {row kept:ContractAwardRow}(h:row.stored=some kept) :
 kept={row with amount:=row.amount.map (roundTo 2)}:=by
 simp only[stored,Option.ite_none_right_eq_some,Option.map_eq_some_iff] at h
 obtain ⟨-,amount,written,rfl⟩:=h
 cases paid:row.amount with
 | none =>
  rw[paid] at written
  cases written
  rfl
 | some value =>
  rw[paid] at written
  obtain ⟨rounded,within,rfl⟩:=Option.map_eq_some_iff.mp written
  rw[numeric_eq within]
  rfl

structure Db where
 events:List SourceEventRow
 awards:List ContractAwardRow
 representations:Representations

def Db.empty:Db:=⟨[],[],[]⟩

def Db.event? (db:Db)(eventKey:String):Option SourceEventRow:=db.events.find? (·.eventKey==eventKey)

def Db.award? (db:Db)(awardKey:String):Option ContractAwardRow:=
 db.awards.find? (·.awardKey==awardKey)

/-- `_insert_if_absent`; nothing when a column refuses the row. -/
def insertIfAbsent {α:Type}(key:α→String)(stored:α→Option α)(row:α) (rows:List α):Option (List α):=
 if (rows.find? (fun r=>key r==key row)).isSome then some rows
 else (stored row).map fun kept=>rows++[kept]

/-- `persist_award_facts`; a conflict of opportunities is raised with the facts
written, and it is for the caller to keep them. -/
def persistAwardFacts (db:Db)(event:PublicEvent)(c:Call) :
 Option (Except OpportunityConflict ResolvedOpportunity × Db):=do
 let events ←insertIfAbsent SourceEventRow.eventKey SourceEventRow.stored (eventRow event) db.events
 let awards ←insertIfAbsent ContractAwardRow.awardKey ContractAwardRow.stored
  (awardRow sha event c.award) db.awards
 let (resolved,representations):=resolveOrCreateOpportunity sha db.representations c
 return (resolved,⟨events,awards,representations⟩)

def persistPublished (db:Db)(event:PublicEvent)(c:Call):Option Db:=
 match persistAwardFacts sha db event c with
 | none=>none
 | some (.ok _,written)=>some written
 | some (.error _,written)=>(persistAwardFacts sha written event c.unlinked).map Prod.snd

section Rows
variable {α:Type}{key:α→String}{stored:α→Option α}{rows rows':List α}

lemma find?_insertIfAbsent (keys:∀ {row kept},stored row=some kept→key kept=key row)
 {row:α}(h:insertIfAbsent key stored row rows=some rows')(k:String) :
 rows'.find? (fun r=>key r==k) =
  (rows.find? (fun r=>key r==k)).or (if k=key row then stored row else none):=by
 unfold insertIfAbsent at h
 split at h
 · rename_i there
   cases h
   by_cases same:k=key row
   · subst same
     obtain ⟨r,found⟩:=Option.isSome_iff_exists.mp there
     simp[found]
   · simp[same]
 · obtain ⟨kept,accepted,rfl⟩:=Option.map_eq_some_iff.mp h
   rw[List.find?_append]
   congr 1
   by_cases same:k=key row
   · simp[same,accepted,keys accepted]
   · have other:key kept≠k:=fun is=>same (is.symm.trans (keys accepted))
     simp[same,other]

lemma insertIfAbsent_present {row:α}(there:(rows.find? (fun r=>key r==key row)).isSome) :
 insertIfAbsent key stored row rows=some rows:=by
 rw[insertIfAbsent,if_pos there]

lemma insertIfAbsent_absent {row:α}(absent:rows.find? (fun r=>key r==key row)=none) :
 insertIfAbsent key stored row rows=(stored row).map fun kept=>rows++[kept]:=by
 rw[insertIfAbsent,absent]
 rfl

end Rows

variable {sha:Hexdigest}

lemma insertIfAbsent_again {α:Type}{key:α→String}{stored:α→Option α}
 (keys:∀ {row kept},stored row=some kept→key kept=key row){row:α}
 {rows rows':List α}(h:insertIfAbsent key stored row rows=some rows') :
 insertIfAbsent key stored row rows'=some rows':=by
 apply insertIfAbsent_present
 rw[find?_insertIfAbsent keys h,if_pos rfl]
 unfold insertIfAbsent at h
 split at h
 · rename_i there
   obtain ⟨r,found⟩:=Option.isSome_iff_exists.mp there
   simp[found]
 · obtain ⟨kept,accepted,-⟩:=Option.map_eq_some_iff.mp h
   simp[accepted]

variable (sha) in
lemma persistPublished_facts (db:Db)(event:PublicEvent)(c:Call) :
 (persistPublished sha db event c).map (fun written=>(written.events,written.awards)) =
  (insertIfAbsent SourceEventRow.eventKey SourceEventRow.stored (eventRow event) db.events).bind
   fun events=>(insertIfAbsent ContractAwardRow.awardKey ContractAwardRow.stored
    (awardRow sha event c.award) db.awards).map fun awards=>(events,awards):=by
 cases inserted:insertIfAbsent SourceEventRow.eventKey SourceEventRow.stored (eventRow event)
   db.events with
 | none=>simp[persistPublished,persistAwardFacts,inserted]
 | some events =>
  cases inserted':insertIfAbsent ContractAwardRow.awardKey ContractAwardRow.stored
    (awardRow sha event c.award) db.awards with
  | none=>simp[persistPublished,persistAwardFacts,inserted,inserted']
  | some awards =>
   have again:=insertIfAbsent_again SourceEventRow.stored_key inserted
   have again':=insertIfAbsent_again ContractAwardRow.stored_key inserted'
   cases resolved:(resolveOrCreateOpportunity sha db.representations c).1 with
   | ok o=>simp[persistPublished,persistAwardFacts,inserted,inserted',resolved]
   | error e =>
    simp[persistPublished,persistAwardFacts,inserted,inserted',resolved,Call.unlinked,again,again']

end Kivou.AwardFacts
