import Kivou.HistoryCursors
import Kivou.Keyset
import Mathlib.Data.Int.ConditionallyCompleteOrder
import Mathlib.Data.Prod.Lex
import Mathlib.Data.String.Basic
import Mathlib.Order.WithBot

set_option autoImplicit false

/-! Which signals an account owns, in which order the history lists them, and which of them a
consultation keeps: some filters are in the query, the others are read off each row. -/
namespace Kivou.HistorySelection
open PythonValues PythonNumbers AwardDomain StoredCursors DecimalTexts HistoryCursors

structure DisplayIdentity where
 name:String
 (country identifierScheme identifierValue:Option String)
 fromAwardKey:String

structure Organization where
 (legalName country:Option String)
 identifiers:List (String × String)

structure Representation where
 awardKey:String
 awardees:List Organization

structure Readings where
 /-- `official_holders_for_opportunities`. -/
 officialHolder:String→Option DisplayIdentity
 /-- The representations of an opportunity by award key. -/
 representations:String→List Representation
 /-- `_has_display_object`. -/
 hasDisplayObject:StoredSignal→Bool
 /-- The status of `current_recency`. -/
 recencyStatus:Day→StoredSignal→String
 customerEventType:String→Option String
 /-- `location_subdivision` of the place of performance. -/
 subdivision:StoredSignal→Option String
 objectShort:String→Option String
 normalizeText:String→String

def identifierLike (text:String):List Char:=text.toList.filter fun c=>!" -.·/".toList.contains c

def looksLikeIdentifier (name:String)(identifier:Option String):Bool:=
 let stripped:=identifierLike (strip name)
 let reference:=identifierLike (strip (identifier.getD ""))
 stripped==[]||stripped.all isDigit||(reference != []&&stripped==reference)

def isCustomerDisplayName (name identifier:Option String):Bool:=
 let cleaned:=strip (name.getD "")
 cleaned != ""&&!looksLikeIdentifier cleaned identifier

def isCustomerReady (s:StoredSignal):Bool:=
 isCustomerDisplayName s.winnerName s.winnerIdentifierValue

/-- `_named_identity` of one representation. -/
def namedIdentity (r:Representation):Option DisplayIdentity:=r.awardees.findSome? fun organization=>
  let name:=strip (organization.legalName.getD "")
  let identifier:=organization.identifiers.head?
  if isCustomerDisplayName (some name) (identifier.map Prod.snd) then
   some ⟨name,organization.country,identifier.map Prod.fst,identifier.map Prod.snd,r.awardKey⟩
  else none

/-- `resolve_display_identity` of one signal; it reads the opportunities of a batch
apart from each other. -/
def displayIdentity (r:Readings)(s:StoredSignal):Option DisplayIdentity:=
 if isCustomerReady s then
  some ⟨strip (s.winnerName.getD ""),s.winnerCountry,s.winnerIdentifierScheme,
   s.winnerIdentifierValue,s.materializationAwardKey⟩
 else
  (r.officialHolder s.opportunityKey).or
   ((r.representations s.opportunityKey).findSome? namedIdentity)

structure TargetIcp where
 (targetIcpId accountId label status:String)
 planLimitCode:Option String
 matchingRevision:ℕ

/-- A row of `materialized_signal` with its award and its event. -/
structure SignalRow where
 signal:StoredSignal
 targetIcpRevision:ℕ
 invalidated:Bool

structure Database where
 targetIcps:List TargetIcp
 signals:List SignalRow
 distinct:(signals.map fun row=>row.signal.signalKey.text).Nodup

def feedingIcpStatus:String:="active"

def ownedTargetIcps (db:Database)(accountId:String):List TargetIcp:=
 db.targetIcps.filter fun p=>p.accountId==accountId

def ownershipScoped (db:Database)(accountId:String):List StoredSignal:=
 (db.signals.filter fun row=>db.targetIcps.any fun p=>
  p.targetIcpId==row.signal.targetIcpId&&p.accountId==accountId &&
   p.status==feedingIcpStatus&&p.planLimitCode.isNone&&!row.invalidated &&
   row.targetIcpRevision==p.matchingRevision).map SignalRow.signal

inductive UnifiedStatus where
 | new | saved | ignored | contacted
 deriving DecidableEq

structure Consultation where
 accountId:String
 asOf:Day
 targetIcpId:Option String
 allowedTargetIcpIds:Option (List String)
 (primaryEvent country subdivisionCode status cpvPrefix:Option String)
 (dateFrom dateTo:Option Day)
 minAmount:Option Decimal
 (textQuery winner:Option String)
 limit:ℤ
 scanCap:Option ℤ
 statusOf:Option (String→UnifiedStatus)
 statuses:Option (List UnifiedStatus)
 consultationScope:Option (StoredSignal→Bool)
 sort:SortOrder
 contextTag:Option ContextTag

def effective (s:StoredSignal):Option Day:=(effectiveHistoryDate s).1

/-- SQL `LIKE`, with the backslash as the escape character. -/
def like:List Char→List Char→Bool
 | [],cs=>cs==[]
 | '%' :: pattern,cs=>cs.tails.any (like pattern)
 | '_' :: pattern,cs=>cs != []&&like pattern cs.tail
 | '\\' :: c::pattern,cs=>cs.head?==some c&&like pattern cs.tail
 | c::pattern,cs=>cs.head?==some c&&like pattern cs.tail

def given {α:Type}(argument:Option α)(holds:α→Bool):Bool:=argument.all holds

/-- The `WHERE` of a consultation. -/
def wheres (c:Consultation)(s:StoredSignal):Bool:=
 given c.targetIcpId (s.targetIcpId == ·) &&
 given c.allowedTargetIcpIds (·.contains s.targetIcpId) &&
 given c.country (s.sourceCountry == ·) &&
 given c.winner (fun w=>s.winnerIdentifierValue==some w||s.winnerName==some w) &&
 given c.cpvPrefix (fun cpv=>s.cpvMain.any fun main=>like (cpv.toList++['%']) main.toList) &&
 given c.dateFrom (fun day=>(effective s).any fun d=>day.ordinal≤d.ordinal) &&
 given c.dateTo (fun day=>(effective s).any fun d=>d.ordinal≤day.ordinal) &&
 given c.minAmount (fun least=>s.amount.any fun a=>least.value≤a.decimal.value)

structure FeedSignal where
 signal:StoredSignal
 (accountId targetIcpLabel:String)
 display:DisplayIdentity

def textHaystack (r:Readings)(s:StoredSignal)(display:DisplayIdentity):List String:=
 (if display.name="" then [] else [display.name]) ++
  match s.title with
  | none=>[]
  | some title=>if title="" then [] else title::(r.objectShort title).toList

def matchesTextQuery (r:Readings)(s:StoredSignal)(display:DisplayIdentity)(needle:String) :
 Bool:=
 (textHaystack r s display).any fun text=>
  (r.normalizeText text).toList.tails.any needle.toList.isPrefixOf

inductive Verdict where
 | withoutName
 | filtered
 | otherStatus (unified:UnifiedStatus)
 | admitted (unified:UnifiedStatus)(item:FeedSignal)

def judge (r:Readings)(db:Database)(c:Consultation)(s:StoredSignal):Verdict:=
 match displayIdentity r s with
 | none=>.withoutName
 | some display =>
  if !r.hasDisplayObject s then .filtered
  else
   let label:=((ownedTargetIcps db c.accountId).find? fun p=>
    p.targetIcpId==s.targetIcpId).map TargetIcp.label
   let status:=r.recencyStatus c.asOf s
   if !given c.consultationScope (· s)||!given c.subdivisionCode (r.subdivision s==some ·) ||
     !given c.status (status == ·)||!given c.primaryEvent (r.customerEventType status==some ·) ||
     !given (c.textQuery.map r.normalizeText) (matchesTextQuery r s display) then .filtered
   else
    let unified:=(c.statusOf.map fun resolver=>resolver s.signalKey.text).getD .new
    if !given c.statuses (·.contains unified) then .otherStatus unified
    else .admitted unified ⟨s,c.accountId,label.getD "",display⟩

def itemOf (r:Readings)(db:Database)(c:Consultation)(s:StoredSignal):Option FeedSignal:=
 match judge r db c s with
 | .admitted _ item=>some item
 | _=>none

variable {s:StoredSignal}{a:Amount}{u:CurrencyCode}{rows:List StoredSignal}

lemma itemOf_signal {r:Readings}{db:Database}{c:Consultation}
 {item:FeedSignal}(h:itemOf r db c s=some item):item.signal=s:=by
 unfold itemOf at h
 split at h
 · rename_i unified admitted is
   obtain rfl:=Option.some.inj h
   unfold judge at is
   split at is
   · cases is
   · split at is
     · cases is
     · simp only at is
       split at is
       · cases is
       · split at is
         · cases is
         · obtain ⟨-,rfl⟩:=Verdict.admitted.inj is
           rfl
 · cases h

def dateRank (s:StoredSignal):WithBot ℤ:=
 match effective s with
 | some d=>(d.ordinal:ℤ)
 | none=>⊥

def recentKey (s:StoredSignal):ℕ ×ₗ (WithBot ℤ)ᵒᵈ ×ₗ String:=
 toLex (if (effective s).isNone then 1 else 0,
  toLex (OrderDual.toDual (dateRank s),s.signalKey.text))

def isUnknown (s:StoredSignal):Bool:=s.amount.isNone||s.currency.isNone

def amountRank (s:StoredSignal):WithBot ℕ:=
 match s.amount with
 | some a=>if isUnknown s then ⊥ else (a.cents:ℕ)
 | none=>⊥

def currencyRank (s:StoredSignal):String:=
 match s.currency with
 | some u=>if isUnknown s then "" else u.code
 | none=>""

def amountKey (s:StoredSignal):ℕ ×ₗ String ×ₗ (WithBot ℕ)ᵒᵈ ×ₗ String:=
 toLex (if isUnknown s then 1 else 0,toLex (currencyRank s,
  toLex (OrderDual.toDual (amountRank s),s.signalKey.text)))

def orderBy:SortOrder→List StoredSignal→List StoredSignal
 | .recent=>Keyset.ordered recentKey
 | .amount=>Keyset.ordered amountKey

/-- `s` stands before `t` in the order. -/
def Precedes:SortOrder→StoredSignal→StoredSignal→Prop
 | .recent=>fun s t=>recentKey s<recentKey t
 | .amount=>fun s t=>amountKey s<amountKey t

/-- `_history_after`. -/
def historyAfter (c:HistoryCursor)(s:StoredSignal):Bool:=
 let behind:=decide (c.signalKey.text<s.signalKey.text)
 match c.sort with
 | .amount =>
  match c.amount,c.currency with
  | some amount,some currency =>
   isUnknown s||s.currency.any (fun u=>currency<u.code) ||
    (s.currency.any (fun u=>u.code==currency) &&
     s.amount.any fun a=>decide (a.decimal.value<amount.value)) ||
    (s.currency.any (fun u=>u.code==currency) &&
     s.amount.any (fun a=>a.decimal.value==amount.value)&&behind)
  | _,_=>isUnknown s&&behind
 | .recent =>
  match c.date with
  | none=>(effective s).isNone&&behind
  | some date =>
   (effective s).any (fun d=>d.ordinal<date.ordinal) ||
    ((effective s).any (fun d=>d==date)&&behind)||(effective s).isNone

lemma recentKey_lt {t:StoredSignal} : recentKey s<recentKey t ↔
  (if (effective s).isNone then 1 else 0)<(if (effective t).isNone then 1 else 0) ∨
  (if (effective s).isNone then 1 else 0)=(if (effective t).isNone then 1 else 0) ∧
   (dateRank t<dateRank s ∨ dateRank s=dateRank t ∧ s.signalKey.text<t.signalKey.text):=by
 simp only[recentKey,Prod.Lex.toLex_lt_toLex,OrderDual.toDual_lt_toDual,OrderDual.toDual_inj]

lemma amountKey_lt {t:StoredSignal} : amountKey s<amountKey t ↔
  (if isUnknown s then 1 else 0)<(if isUnknown t then 1 else 0) ∨
  (if isUnknown s then 1 else 0)=(if isUnknown t then 1 else 0) ∧
   (currencyRank s<currencyRank t ∨ currencyRank s=currencyRank t ∧
    (amountRank t<amountRank s ∨ amountRank s=amountRank t ∧
     s.signalKey.text<t.signalKey.text)):=by
 simp only[amountKey,Prod.Lex.toLex_lt_toLex,OrderDual.toDual_lt_toDual,OrderDual.toDual_inj]

lemma value_lt {b:Amount}:a.decimal.value<b.decimal.value ↔ a.cents<b.cents:=by
 simp only[Amount.decimal,Decimal.value,Bool.false_eq_true,if_false,one_mul]
 have scale:(0:ℚ)<10^(-2:ℤ):=by positivity
 rw[mul_lt_mul_iff_left₀ scale,Nat.cast_lt]

lemma value_eq {b:Amount}:a.decimal.value=b.decimal.value ↔ a.cents=b.cents:=by
 simp only[Amount.decimal,Decimal.value,Bool.false_eq_true,if_false,one_mul]
 have scale:(10:ℚ)^(-2:ℤ)≠0:=by positivity
 rw[mul_left_inj' scale,Nat.cast_inj]

lemma day_eq {d e:Day}:e=d ↔ d.ordinal=e.ordinal:=by
 cases d
 cases e
 simp[eq_comm]

lemma historyAfter_recent (s t:StoredSignal)(tag:Option ContextTag) :
 historyAfter (cursorForSignal s tag .recent) t=true ↔ recentKey s<recentKey t:=by
 rw[recentKey_lt]
 unfold dateRank
 change ((match effective s with
  | none=>(effective t).isNone&&decide (s.signalKey.text<t.signalKey.text)
  | some date =>
   (effective t).any (fun d=>d.ordinal<date.ordinal) ||
    ((effective t).any (fun d=>d==date)&&decide (s.signalKey.text<t.signalKey.text)) ||
     (effective t).isNone)=true) ↔ _
 cases effective s with
 | none =>
  cases effective t with
  | none=>simp
  | some e=>simp
 | some d =>
  cases effective t with
  | none=>simp
  | some e=>simp[day_eq]

lemma isUnknown_eq (amount:s.amount=some a) (currency:s.currency=some u):isUnknown s=false:=by
 simp[isUnknown,amount,currency]

lemma known (h:isUnknown s=false) : ∃a u,s.amount=some a ∧ s.currency=some u:=by
 simp only[isUnknown,Bool.or_eq_false_iff,Option.isNone_eq_false_iff] at h
 obtain ⟨a,amount⟩:=Option.isSome_iff_exists.mp h.1
 obtain ⟨u,currency⟩:=Option.isSome_iff_exists.mp h.2
 exact ⟨a,u,amount,currency⟩

lemma ranks_unknown (h:isUnknown s=true) : amountRank s=⊥ ∧ currencyRank s="":=by
 unfold amountRank currencyRank
 rw[h]
 constructor
 · split <;> rfl
 · split <;> rfl

lemma ranks_known (amount:s.amount=some a) (currency:s.currency=some u) :
 amountRank s=(a.cents:WithBot ℕ) ∧ currencyRank s=u.code:=by
 have known:=isUnknown_eq amount currency
 unfold amountRank currencyRank
 rw[known,amount,currency]
 exact ⟨rfl,rfl⟩

lemma historyAfter_unknown (t:StoredSignal)(tag:Option ContextTag) (h:isUnknown s=true) :
 historyAfter (cursorForSignal s tag .amount) t =
  (isUnknown t&&decide (s.signalKey.text<t.signalKey.text)):=by
 unfold historyAfter cursorForSignal
 cases amount:s.amount with
 | none=>rfl
 | some a =>
  cases currency:s.currency with
  | none=>rfl
  | some u =>
   rw[isUnknown_eq amount currency] at h
   cases h

lemma historyAfter_known (t:StoredSignal)
 (tag:Option ContextTag)(amount:s.amount=some a)(currency:s.currency=some u) :
 historyAfter (cursorForSignal s tag .amount) t =
  (isUnknown t||t.currency.any (fun v=>u.code<v.code) ||
   (t.currency.any (fun v=>v.code==u.code) &&
    t.amount.any fun b=>decide (b.decimal.value<a.decimal.value)) ||
   (t.currency.any (fun v=>v.code==u.code) &&
    t.amount.any (fun b=>b.decimal.value==a.decimal.value) &&
    decide (s.signalKey.text<t.signalKey.text))):=by
 unfold historyAfter cursorForSignal
 rw[amount,currency]
 rfl

lemma historyAfter_amount (s t:StoredSignal)(tag:Option ContextTag) :
 historyAfter (cursorForSignal s tag .amount) t=true ↔ amountKey s<amountKey t:=by
 rw[amountKey_lt]
 cases left:isUnknown s with
 | true =>
  rw[historyAfter_unknown t tag left]
  cases right:isUnknown t with
  | true=>simp[ranks_unknown left,ranks_unknown right]
  | false=>simp
 | false =>
  obtain ⟨a,u,amount,currency⟩:=known left
  rw[historyAfter_known t tag amount currency]
  cases right:isUnknown t with
  | true=>simp
  | false =>
   obtain ⟨b,v,amount',currency'⟩:=known right
   obtain ⟨rank,code⟩:=ranks_known amount currency
   obtain ⟨rank',code'⟩:=ranks_known amount' currency'
   have same:b.cents=a.cents ↔ a.cents=b.cents:=eq_comm
   have codes:v.code=u.code ↔ u.code=v.code:=eq_comm
   simp only[rank,code,rank',code',amount',currency',value_lt,value_eq,same,codes,
    Option.any_some,Bool.false_or,Bool.or_eq_true,Bool.and_eq_true,decide_eq_true_eq,
    beq_iff_eq,lt_irrefl,false_or,true_and,Nat.cast_lt,Nat.cast_inj]
   tauto

lemma historyAfter_cursor (s t:StoredSignal)(tag:Option ContextTag)(sort:SortOrder) :
 historyAfter (cursorForSignal s tag sort) t=true ↔ Precedes sort s t:=by
 cases sort with
 | recent=>exact historyAfter_recent s t tag
 | amount=>exact historyAfter_amount s t tag

lemma historyAfter_carried (c:HistoryCursor)(s:StoredSignal) :
 historyAfter (carried c) s=historyAfter c s:=by
 unfold carried
 split
 · rfl
 · rename_i bare
   have recent:c.sort=.recent:=by
    simp only[not_or,not_not] at bare
    exact bare.2
   unfold historyAfter
   simp only[recent]

lemma precedes_asymm {sort:SortOrder}(s t:StoredSignal)(h:Precedes sort s t) :
 ¬Precedes sort t s:=by
 cases sort with
 | recent | amount=>exact lt_asymm h

lemma mem_orderBy {sort:SortOrder} : s∈orderBy sort rows ↔ s∈rows:=by
 cases sort with
 | recent | amount=>exact Keyset.mem_ordered

def Keyed (rows:List StoredSignal):Prop:=(rows.map fun s=>s.signalKey.text).Nodup

lemma Keyed.recent (keyed:Keyed rows) : (rows.map recentKey).Nodup:=by
 refine List.Nodup.of_map (fun k=>(ofLex (ofLex k).2).2) ?_
 rw[List.map_map]
 exact keyed

lemma Keyed.amount (keyed:Keyed rows) : (rows.map amountKey).Nodup:=by
 refine List.Nodup.of_map (fun k=>(ofLex (ofLex (ofLex k).2).2).2) ?_
 rw[List.map_map]
 exact keyed

lemma Keyed.orderBy (keyed:Keyed rows)(sort:SortOrder) : Keyed (orderBy sort rows):=by
 cases sort with
 | recent | amount=>exact ((List.mergeSort_perm rows _).map _).nodup_iff.mpr keyed

lemma orderBy_strict (keyed:Keyed rows)(sort:SortOrder) :
 (orderBy sort rows).Pairwise (Precedes sort):=by
 cases sort with
 | recent=>exact Keyset.ordered_strict keyed.recent
 | amount=>exact Keyset.ordered_strict keyed.amount

lemma orderBy_filter (keyed:Keyed rows)(sort:SortOrder)
 (p:StoredSignal→Bool):orderBy sort (rows.filter p)=(orderBy sort rows).filter p:=by
 cases sort with
 | recent=>exact Keyset.ordered_filter keyed.recent p
 | amount=>exact Keyset.ordered_filter keyed.amount p

lemma keyed_ownershipScoped (db:Database)(accountId:String) :
 Keyed (ownershipScoped db accountId):=by
 rw[Keyed,ownershipScoped,List.map_map]
 exact db.distinct.sublist (List.filter_sublist.map _)

end Kivou.HistorySelection
