import Kivou.Base64
import Kivou.DecimalTexts
import Kivou.JsonText
import Kivou.StoredCursors

set_option autoImplicit false

/-! A cursor names the place of a signal in the history: its effective date and its key, and for a
tagged or amount-ordered consultation the tag, the order, the amount and the currency. -/
namespace Kivou.HistoryCursors
open PythonValues PythonNumbers AwardDomain StoredCursors DecimalTexts JsonText

def isLowerHex (c:Char):Bool:=c.isDigit||(97≤c.toNat&&c.toNat≤102)

/-- `^[0-9a-f]{40,64}$`. -/
def isSignalKey (text:String):Bool:=
 40≤text.toList.length&&text.toList.length≤64&&text.toList.all isLowerHex

/-- `[a-f0-9]{24}`. -/
def isContextTag (text:String):Bool:=text.toList.length==24&&text.toList.all isLowerHex

structure SignalKey where
 text:String
 form:isSignalKey text=true

structure ContextTag where
 text:String
 form:isContextTag text=true
 deriving DecidableEq

/-- A `NUMERIC(18, 2)` that is not negative, in hundredths. -/
structure Amount where
 cents:ℕ
 fits:cents<10^18

def Amount.decimal (a:Amount):Decimal:=⟨false,a.cents,-2⟩

structure StoredSignal where
 signalKey:SignalKey
 (opportunityKey materializationAwardKey targetIcpId:String)
 (winnerName winnerCountry winnerIdentifierScheme winnerIdentifierValue:Option String)
 sourceCountry:String
 publishedOn:Option Day
 (title cpvMain:Option String)
 amount:Option Amount
 currency:Option CurrencyCode
 (awardDate contractNotificationDate:Option Day)

inductive HistoryDateKind where
 | award | notification | publication | unknown

def effectiveHistoryDate (s:StoredSignal):Option Day × HistoryDateKind:=
 match s.awardDate,s.contractNotificationDate,s.publishedOn with
 | some d,_,_=>(some d,.award)
 | none,some d,_=>(some d,.notification)
 | none,none,some d=>(some d,.publication)
 | none,none,none=>(none,.unknown)

inductive SortOrder where
 | recent | amount
 deriving DecidableEq

def SortOrder.name:SortOrder→String
 | .recent=>"recent"
 | .amount=>"amount"

def sortOrder? (name:String):Option SortOrder:=
 if name="recent" then some .recent else if name="amount" then some .amount else none

structure HistoryCursor where
 date:Option Day
 signalKey:SignalKey
 contextTag:Option ContextTag
 sort:SortOrder
 amount:Option Decimal
 currency:Option String

def cursorForSignal (s:StoredSignal)(contextTag:Option ContextTag)(sort:SortOrder) :
 HistoryCursor:=
 ⟨(effectiveHistoryDate s).1,s.signalKey,contextTag,sort,s.amount.map Amount.decimal,
  s.currency.map CurrencyCode.code⟩

/-- What `decode_history_cursor` may raise; the second one is what `Decimal` makes
of a list whose integers are too large, and not caught. -/
inductive CursorError where
 | invalidHistoryCursor | overflow

def orNull (text:Option String):Json:=(text.map Json.str).getD .null

/-- `_CURSOR_VERSION`. -/
def cursorVersion:String:="1"

/-- `_MAX_ENCODED_CURSOR_LENGTH`. -/
def maxEncodedCursorLength:ℕ:=512

def extra (c:HistoryCursor):Payload:=
 if c.contextTag.isSome ∨ c.sort≠.recent then
  [("x",.obj [("f",orNull (c.contextTag.map ContextTag.text)),("s",.str c.sort.name),
   ("a",orNull (c.amount.map fun a=>String.ofList a.str)),("u",orNull c.currency)])]
 else []

def payload (c:HistoryCursor):Json:=
 .obj ([("v",.num cursorVersion),("d",orNull (c.date.map Day.isoformat)),
  ("k",.str c.signalKey.text)]++extra c)

def encodeHistoryCursor (c:HistoryCursor):String:=
 String.ofList ((Base64.encode ((dumps (payload c)).map Char.toNat)).rdropWhile (· = '='))

def isInteger (literal:String):Bool:=literal.toList.all fun c=>c == '-' || c.isDigit

/-- A number that equals one, `True` included. -/
def isOne:Json→Bool
 | .bool b=>b
 | .num literal =>
  if isInteger literal then int literal==some 1
  else
   match floatLiteral literal with
   | some (.finite negative digits exponent) =>
    nearestDouble (toRat negative digits exponent)==some 1
   | _=>false
 | _=>false

/-- `isinstance(value, int)`. -/
def integer?:Json→Option ℤ
 | .bool b=>some (if b then 1 else 0)
 | .num literal=>if isInteger literal then int literal else none
 | _=>none

/-- The integer as a C `long`. -/
def asLong (json:Json):Except CursorError ℤ:=
 match integer? json with
 | none=>.error .invalidHistoryCursor
 | some n=>if -2^63≤n ∧ n<2^63 then .ok n else .error .overflow

def finite (text:String):Except CursorError Decimal:=
 match Decimal.ofText text with
 | some d=>.ok d
 | none=>.error .invalidHistoryCursor

def ofFloat (literal:String):Except CursorError Decimal:=
 match floatLiteral literal with
 | some (.finite negative digits exponent) =>
  match nearestDouble (toRat negative digits exponent) with
  | some q=>.ok ⟨negative,q.num.natAbs*5^Nat.log2 q.den,-(Nat.log2 q.den:ℤ)⟩
  | none=>.error .invalidHistoryCursor
 | _=>.error .invalidHistoryCursor

def digitOf (json:Json):Except CursorError Char:=do
 let n ←asLong json
 if 0≤n ∧ n≤9 then .ok (Char.ofNat (48+n.toNat)) else .error .invalidHistoryCursor

def powerOf:Json→Except CursorError (Option ℤ)
 | .str special=>if special∈["F","n","N"] then .ok none else .error .invalidHistoryCursor
 | json=>(asLong json).map some

/-- `Decimal((sign, digits, exponent))`; a list does as well as a tuple. -/
def ofTriple (sign digits exponent:Json):Except CursorError Decimal:=do
 let negative ←asLong sign
 if negative≠0 ∧ negative≠1 then .error .invalidHistoryCursor
 else
  let power ←powerOf exponent
  match digits with
  | .arr digits=>do
   let digits ←digits.mapM digitOf
   let coefficient:=if digits=[] then ['0'] else digits
   match power with
   | some power=>finite (String.ofList
     ((if negative=1 then '-' else '+')::coefficient ++ 'E' :: Decimal.signed power))
   | none=>.error .invalidHistoryCursor
  | _=>.error .invalidHistoryCursor

/-- `Decimal(value)`, when it is finite. -/
def decimalOf:Json→Except CursorError Decimal
 | .str text=>finite text
 | .num literal =>
  if isInteger literal then
   match int literal with
   | some n=>.ok ⟨n<0,n.natAbs,0⟩
   | none=>.error .invalidHistoryCursor
  else ofFloat literal
 | .bool b=>.ok ⟨false,if b then 1 else 0,0⟩
 | .arr [sign,digits,exponent]=>ofTriple sign digits exponent
 | _=>.error .invalidHistoryCursor

def keysAre (fields:Payload)(keys:List String):Bool:=fields.within keys&&keys.all fields.has

/-- `HistoryCursor(...)` of decoded values, with what `__post_init__` checks. -/
def historyCursor (date:Option Day)(signalKey:String)(contextTag:Json)(sort:Json)
 (amount:Option Decimal)(currency:Option String):Except CursorError HistoryCursor:=
 if key:isSignalKey signalKey=true then
  match sort with
  | .str name =>
   match sortOrder? name,contextTag with
   | some sort,.null=>.ok ⟨date,⟨signalKey,key⟩,none,sort,amount,currency⟩
   | some sort,.str tag =>
    if form:isContextTag tag=true then
     .ok ⟨date,⟨signalKey,key⟩,some ⟨tag,form⟩,sort,amount,currency⟩
    else .error .invalidHistoryCursor
   | _,_=>.error .invalidHistoryCursor
  | _=>.error .invalidHistoryCursor
 else .error .invalidHistoryCursor

def decodeAmount:Json→Except CursorError (Option Decimal)
 | .null=>.ok none
 | json=>do
  let amount ←decimalOf json
  if amount.value<0 then .error .invalidHistoryCursor else .ok (some amount)

def decodeCurrency:Json→Except CursorError (Option String)
 | .null=>.ok none
 | .str code=>if isCurrencyCode code then .ok (some code) else .error .invalidHistoryCursor
 | _=>.error .invalidHistoryCursor

def decodeDate:Json→Except CursorError (Option Day)
 | .null=>.ok none
 | .str text =>
  match Day.fromisoformat text with
  | some day=>.ok (some day)
  | none=>.error .invalidHistoryCursor
 | _=>.error .invalidHistoryCursor

def decodePayload (fields:Payload):Except CursorError HistoryCursor:=do
 if !(keysAre fields ["v","d","k"]||keysAre fields ["v","d","k","x"]) then
  .error .invalidHistoryCursor
 else if !isOne (fields.get "v") then .error .invalidHistoryCursor
 else
  match fields.get "k" with
  | .str key=>do
   let date ←decodeDate (fields.get "d")
   match fields.get "x" with
   | .null=>historyCursor date key .null (.str SortOrder.recent.name) none none
   | .obj context =>
    if keysAre context ["f","s","a","u"] then do
     let amount ←decodeAmount (Payload.get context "a")
     let currency ←decodeCurrency (Payload.get context "u")
     historyCursor date key (Payload.get context "f") (Payload.get context "s") amount currency
    else .error .invalidHistoryCursor
   | _=>.error .invalidHistoryCursor
  | _=>.error .invalidHistoryCursor

def decodeHistoryCursor (value:String):Except CursorError HistoryCursor:=
 let cs:=value.toList
 if cs=[] ∨ maxEncodedCursorLength<cs.length ∨ cs.any (fun c=>128≤c.toNat) then
  .error .invalidHistoryCursor
 else
  match (Base64.decode (cs++Base64.padding cs.length)).bind loads with
  | some (.obj fields)=>decodePayload fields
  | _=>.error .invalidHistoryCursor

def carried (c:HistoryCursor):HistoryCursor:=
 if c.contextTag.isSome ∨ c.sort≠.recent then c else {c with amount:=none,currency:=none}

lemma isLowerHex_plain {c:Char}(h:isLowerHex c=true):isPlain c=true:=by
 have range:48≤c.toNat ∧ c.toNat≤57 ∨ 97≤c.toNat ∧ c.toNat≤102:=by
  simpa[isLowerHex,isDigit_iff] using h
 refine isPlain_iff.mpr ⟨by omega,by omega,?_,?_⟩
 · rintro rfl
   revert range
   decide
 · rintro rfl
   revert range
   decide

lemma SignalKey.plain (k:SignalKey):∀c∈k.text.toList,isPlain c=true:=by
 have form:=k.form
 simp only[isSignalKey,Bool.and_eq_true,List.all_eq_true] at form
 exact fun c mem=>isLowerHex_plain (form.2 c mem)

lemma ContextTag.plain (t:ContextTag):∀c∈t.text.toList,isPlain c=true:=by
 have form:=t.form
 simp only[isContextTag,Bool.and_eq_true,List.all_eq_true] at form
 exact fun c mem=>isLowerHex_plain (form.2 c mem)

lemma SortOrder.plain (s:SortOrder):∀c∈s.name.toList,isPlain c=true:=by
 cases s with
 | recent | amount=>exact List.all_eq_true.mp rfl

lemma currency_plain (u:CurrencyCode):∀c∈u.code.toList,isPlain c=true:=by
 have form:=u.form
 simp only[isCurrencyCode,Bool.and_eq_true,List.all_eq_true,isUpper,decide_eq_true_eq] at form
 intro c mem
 have range:=form.2 c mem
 refine isPlain_iff.mpr ⟨by omega,by omega,?_,?_⟩
 · rintro rfl
   revert range
   decide
 · rintro rfl
   revert range
   decide

lemma plain_of_isDigit {c:Char}(h:c.isDigit=true):isPlain c=true:=
 isLowerHex_plain (by rw[isLowerHex,h,Bool.true_or])

lemma digit_plain (n:ℕ):isPlain (Calendar.digit n)=true:=by
 have less:n%10<10:=Nat.mod_lt _ (by decide)
 unfold Calendar.digit
 interval_cases n%10 <;> rfl

lemma isoformat_plain (d:Day):∀c∈d.isoformat.toList,isPlain c=true:=by
 intro c mem
 rw[Day.isoformat,Calendar.isoformat,String.toList_ofList,Calendar.isoChars] at mem
 simp only[List.mem_cons,List.not_mem_nil,or_false] at mem
 rcases mem with rfl|rfl|rfl|rfl|rfl|rfl|rfl|rfl|rfl|rfl
 · exact digit_plain _
 · exact digit_plain _
 · exact digit_plain _
 · exact digit_plain _
 · rfl
 · exact digit_plain _
 · exact digit_plain _
 · rfl
 · exact digit_plain _
 · exact digit_plain _

lemma amount_plain (a:Amount):∀c∈a.decimal.str,isPlain c=true:=by
 obtain ⟨whole,fraction,text,pointed⟩:=str_pointed a.cents
 intro c mem
 rcases pointed.shape c (text ▸ mem) with digit|rfl
 · exact plain_of_isDigit digit
 · rfl

/-- The texts of a cursor that is produced from a signal: they stand for
themselves in a string, and they are short. -/
structure Carriable (c:HistoryCursor):Prop where
 amount:∀a∈c.amount,∃amount:Amount,a=amount.decimal
 currency:∀u∈c.currency,∃code:CurrencyCode,u=code.code

lemma carriable_cursorForSignal (s:StoredSignal)(tag:Option ContextTag)(sort:SortOrder) :
 Carriable (cursorForSignal s tag sort):=by
 refine ⟨fun a is=>?_,fun u is=>?_⟩
 · obtain ⟨amount,-,same⟩:=Option.map_eq_some_iff.mp (Option.mem_def.mp is)
   exact ⟨amount,same.symm⟩
 · obtain ⟨code,-,same⟩:=Option.map_eq_some_iff.mp (Option.mem_def.mp is)
   exact ⟨code,same.symm⟩

lemma reads_orNull {text:Option String}(plain:∀s∈text,∀c∈s.toList,isPlain c=true)
 (depth:ℕ):Reads (depth+1) (dumps (orNull text)) (orNull text):=by
 cases text with
 | none=>exact reads_null depth
 | some s=>exact reads_str (plain s rfl) depth

/-! ### The object -/

def dateJson (c:HistoryCursor):Json:=orNull (c.date.map Day.isoformat)
def amountJson (c:HistoryCursor):Json:=orNull (c.amount.map fun a=>String.ofList a.str)
def tagJson (c:HistoryCursor):Json:=orNull (c.contextTag.map ContextTag.text)

def contextFields (c:HistoryCursor):Payload:=
 [("a",amountJson c),("f",tagJson c),("s",.str c.sort.name),("u",orNull c.currency)]

def fields (c:HistoryCursor):Payload:=
 [("d",dateJson c),("k",.str c.signalKey.text),("v",.num cursorVersion)] ++
  if c.contextTag.isSome ∨ c.sort≠.recent then [("x",.obj (contextFields c))] else []

def written (p:Payload):List Written:=p.map fun f=>⟨f.1,dumps f.2,f.2⟩

lemma collected_written {p:Payload}(distinct:(p.map Prod.fst).Nodup) :
 collected (written p) []=p:=by
 have keys:(written p).map Written.key=p.map Prod.fst:=by
  rw[written,List.map_map]
  rfl
 have back:(written p).map (fun w=>(w.key,w.json))=p:=by
  rw[written,List.map_map]
  exact List.map_id p
 rw[collected_eq (by rw[keys];exact distinct),back,List.nil_append]

lemma sorted_context (f s a u:List Char) : [("f",f),("s",s),("a",a),("u",u)].insertionSort keyLe =
  [("a",a),("f",f),("s",s),("u",u)]:=by
 simp +decide [List.insertionSort,List.orderedInsert,keyLe]

lemma sorted_bare (v d k:List Char) :
 [("v",v),("d",d),("k",k)].insertionSort keyLe=[("d",d),("k",k),("v",v)]:=by
 simp +decide [List.insertionSort,List.orderedInsert,keyLe]

lemma sorted_tagged (v d k x:List Char) : [("v",v),("d",d),("k",k),("x",x)].insertionSort keyLe =
  [("d",d),("k",k),("v",v),("x",x)]:=by
 simp +decide [List.insertionSort,List.orderedInsert,keyLe]

lemma sorted_sorted (a f s u:List Char) : [("a",a),("f",f),("s",s),("u",u)].insertionSort keyLe =
  [("a",a),("f",f),("s",s),("u",u)]:=by
 simp +decide [List.insertionSort,keyLe]

def object (p:Payload):List Char := '{' :: (joined ((written p).map Written.member)++['}'])

lemma dumps_context (c:HistoryCursor) :
 dumps (.obj [("f",tagJson c),("s",.str c.sort.name),("a",amountJson c),
  ("u",orNull c.currency)])=object (contextFields c):=by
 rw[dumps]
 simp only[dumpsFields]
 rw[sorted_context]
 rfl

lemma dumps_contextFields (c:HistoryCursor) :
 dumps (.obj (contextFields c))=object (contextFields c):=by
 rw[dumps,contextFields]
 simp only[dumpsFields]
 rw[sorted_sorted]
 rfl

lemma dumps_payload (c:HistoryCursor):dumps (payload c)=object (fields c):=by
 by_cases tagged:c.contextTag.isSome ∨ c.sort≠.recent
 · have extra_eq:extra c=[("x",.obj [("f",tagJson c),("s",.str c.sort.name),
     ("a",amountJson c),("u",orNull c.currency)])]:=if_pos tagged
   rw[payload,extra_eq,dumps,fields,if_pos tagged]
   simp only[List.cons_append,List.nil_append,dumpsFields]
   rw[sorted_tagged,dumps_context,←dumps_contextFields]
   rfl
 · have extra_eq:extra c=[]:=if_neg tagged
   rw[payload,extra_eq,dumps,fields,if_neg tagged]
   simp only[List.append_nil,dumpsFields]
   rw[sorted_bare]
   rfl

lemma reads_object {depth:ℕ}{p:Payload}(filled:p≠[])(distinct:(p.map Prod.fst).Nodup)
 (keys:(p.map Prod.fst).all (fun key=>key.toList.all isPlain)=true)
 (reads:∀f∈p,Reads depth (dumps f.2) f.2):Reads (depth+1) (object p) (.obj p):=by
 have filled':written p≠[]:=fun none'=>filled (List.map_eq_nil_iff.mp none')
 have each:∀w∈written p,w.Reads depth:=by
  intro w mem
  obtain ⟨f,listed,rfl⟩:=List.mem_map.mp mem
  exact ⟨List.all_eq_true.mp (List.all_eq_true.mp keys f.1 (List.mem_map_of_mem listed)),
   reads f listed⟩
 have all:=reads_members filled' each
 rw[collected_written distinct] at all
 exact all

lemma reads_date (c:HistoryCursor)(depth:ℕ) : Reads (depth+1) (dumps (dateJson c)) (dateJson c):=by
 refine reads_orNull (fun s is=>?_) depth
 obtain ⟨d,-,rfl⟩:=Option.map_eq_some_iff.mp (Option.mem_def.mp is)
 exact isoformat_plain d

lemma reads_tag (c:HistoryCursor)(depth:ℕ) : Reads (depth+1) (dumps (tagJson c)) (tagJson c):=by
 refine reads_orNull (fun s is=>?_) depth
 obtain ⟨t,-,rfl⟩:=Option.map_eq_some_iff.mp (Option.mem_def.mp is)
 exact t.plain

variable {c:HistoryCursor}

lemma reads_amount (ok:Carriable c)(depth:ℕ) :
 Reads (depth+1) (dumps (amountJson c)) (amountJson c):=by
 refine reads_orNull (fun s is=>?_) depth
 obtain ⟨a,there,rfl⟩:=Option.map_eq_some_iff.mp (Option.mem_def.mp is)
 obtain ⟨amount,rfl⟩:=ok.amount a there
 rw[String.toList_ofList]
 exact amount_plain amount

lemma reads_currency (ok:Carriable c)(depth:ℕ) :
 Reads (depth+1) (dumps (orNull c.currency)) (orNull c.currency):=by
 refine reads_orNull (fun s is=>?_) depth
 obtain ⟨code,rfl⟩:=ok.currency s is
 exact currency_plain code

lemma keys_context (c:HistoryCursor) : (contextFields c).map Prod.fst=["a","f","s","u"]:=rfl

lemma keys_fields (c:HistoryCursor) :
 (fields c).map Prod.fst=["d","k","v"] ∨ (fields c).map Prod.fst=["d","k","v","x"]:=by
 unfold fields
 split
 · exact Or.inr rfl
 · exact Or.inl rfl

lemma reads_context (ok:Carriable c)(depth:ℕ) :
 Reads (depth+1+1) (dumps (.obj (contextFields c))) (.obj (contextFields c)):=by
 rw[dumps_contextFields]
 refine reads_object (List.cons_ne_nil _ _) ?_ ?_ ?_
 · rw[keys_context]
   decide
 · rw[keys_context]
   rfl
 · intro f mem
   simp only[contextFields,List.mem_cons,List.not_mem_nil,or_false] at mem
   rcases mem with rfl|rfl|rfl|rfl
   · exact reads_amount ok depth
   · exact reads_tag c depth
   · exact reads_str c.sort.plain depth
   · exact reads_currency ok depth

lemma reads_payload (ok:Carriable c)(depth:ℕ) :
 Reads (depth+1+1+1) (dumps (payload c)) (.obj (fields c)):=by
 rw[dumps_payload]
 refine reads_object (List.cons_ne_nil _ _) ?_ ?_ ?_
 · rcases keys_fields c with keys|keys
   · rw[keys]
     decide
   · rw[keys]
     decide
 · rcases keys_fields c with keys|keys
   · rw[keys]
     rfl
   · rw[keys]
     rfl
 · intro f mem
   simp only[fields,List.mem_append,List.mem_cons,List.not_mem_nil,or_false] at mem
   rcases mem with (rfl|rfl|rfl)|mem
   · exact reads_date c _
   · exact reads_str c.signalKey.plain _
   · exact reads_one _
   · split at mem
     · obtain rfl:=List.mem_singleton.mp mem
       exact reads_context ok depth
     · cases mem

/-! ### Its reading -/

lemma decodeDate_dateJson (c:HistoryCursor):decodeDate (dateJson c)=.ok c.date:=by
 unfold dateJson decodeDate
 cases c.date with
 | none=>rfl
 | some d =>
  change (match Day.fromisoformat d.isoformat with
   | some day=>(.ok (some day):Except CursorError (Option Day))
   | none=>.error .invalidHistoryCursor)=_
  rw[Day.fromisoformat_isoformat]

lemma decodeAmount_amountJson (ok:Carriable c) : decodeAmount (amountJson c)=.ok c.amount:=by
 unfold amountJson
 cases is:c.amount with
 | none=>rfl
 | some a =>
  obtain ⟨amount,rfl⟩:=ok.amount a is
  have read:decimalOf (.str (String.ofList amount.decimal.str))=.ok amount.decimal:=by
   rw[decimalOf,finite,Amount.decimal,ofText_str amount.fits]
  have positive:¬amount.decimal.value<0:=by
   refine not_lt.mpr ?_
   rw[Decimal.value,Amount.decimal]
   simp only[Bool.false_eq_true,if_false]
   positivity
  change (do
   let amount ←decimalOf (.str (String.ofList amount.decimal.str))
   if amount.value<0 then .error .invalidHistoryCursor else .ok (some amount))=_
  rw[read]
  exact if_neg positive

lemma decodeCurrency_currency (ok:Carriable c) :
 decodeCurrency (orNull c.currency)=.ok c.currency:=by
 cases is:c.currency with
 | none=>rfl
 | some code =>
  obtain ⟨u,rfl⟩:=ok.currency code is
  exact if_pos u.form

lemma historyCursor_tagged (c:HistoryCursor) :
 historyCursor c.date c.signalKey.text (tagJson c) (.str c.sort.name) c.amount c.currency =.ok c:=by
 have sort:sortOrder? c.sort.name=some c.sort:=by cases c.sort <;> rfl
 unfold historyCursor tagJson
 rw[dif_pos c.signalKey.form]
 simp only[sort]
 cases is:c.contextTag with
 | none =>
  cases c
  cases is
  rfl
 | some tag =>
  simp only[orNull,Option.map_some,Option.getD_some,tag.form,dif_pos]
  cases c
  cases is
  rfl

lemma decodePayload_bare {date key:Json} :
  decodePayload [("d",date),("k",key),("v",.num cursorVersion)] =
   match key with
   | .str key=>do
    let date ←decodeDate date
    historyCursor date key .null (.str SortOrder.recent.name) none none
   | _=>.error .invalidHistoryCursor:=by
 have one:isOne (.num cursorVersion)=true:=by decide
 unfold decodePayload
 simp +decide [keysAre,Payload.within,Payload.has,Payload.get,one]

lemma decodePayload_tagged {date key:Json}{context:Payload} :
  decodePayload [("d",date),("k",key),("v",.num cursorVersion),("x",.obj context)] =
   match key with
   | .str key=>do
    let date ←decodeDate date
    if keysAre context ["f","s","a","u"] then do
     let amount ←decodeAmount (Payload.get context "a")
     let currency ←decodeCurrency (Payload.get context "u")
     historyCursor date key (Payload.get context "f") (Payload.get context "s") amount currency
    else .error .invalidHistoryCursor
   | _=>.error .invalidHistoryCursor:=by
 have one:isOne (.num cursorVersion)=true:=by decide
 unfold decodePayload
 simp +decide [keysAre,Payload.within,Payload.has,Payload.get,one]

lemma decodePayload_fields (ok:Carriable c) : decodePayload (fields c)=.ok (carried c):=by
 by_cases tagged:c.contextTag.isSome ∨ c.sort≠.recent
 · have keys:keysAre (contextFields c) ["f","s","a","u"]=true:=by
    simp +decide [keysAre,contextFields,Payload.within,Payload.has]
   have amount:Payload.get (contextFields c) "a"=amountJson c:=rfl
   have currency:Payload.get (contextFields c) "u"=orNull c.currency:=rfl
   have tag:Payload.get (contextFields c) "f"=tagJson c:=rfl
   have sort:Payload.get (contextFields c) "s"=.str c.sort.name:=rfl
   rw[fields,if_pos tagged,carried,if_pos tagged]
   refine decodePayload_tagged.trans ?_
   simp only[decodeDate_dateJson,keys,if_true,amount,currency,tag,sort,
    decodeAmount_amountJson ok,decodeCurrency_currency ok]
   exact historyCursor_tagged c
 · have untagged:c.contextTag=none ∧ c.sort=.recent:=by
    simpa[not_or] using tagged
   have bare:historyCursor c.date c.signalKey.text .null (.str SortOrder.recent.name) none none =
     .ok {c with amount:=none,currency:=none}:=by
    have same:=historyCursor_tagged {c with amount:=none,currency:=none}
    rw[tagJson,untagged.1,untagged.2] at same
    rw[untagged.1,untagged.2]
    exact same
   rw[fields,if_neg tagged,carried,if_neg tagged]
   refine decodePayload_bare.trans ?_
   simp only[decodeDate_dateJson]
   exact bare

/-! ### Its length -/

lemma length_quoted {s:String}(plain:∀c∈s.toList,isPlain c=true) :
 (quoted s).length=s.toList.length+2:=by
 rw[quoted_plain plain,List.length_cons,List.length_append,List.length_singleton]

lemma length_orNull {text:Option String}{n:ℕ}(null:4≤n)
 (short:∀s∈text,(∀c∈s.toList,isPlain c=true) ∧ s.toList.length+2≤n) :
 (dumps (orNull text)).length≤n:=by
 cases text with
 | none=>exact null
 | some s =>
  obtain ⟨plain,length⟩:=short s rfl
  change (dumps (.str s)).length≤n
  rw[dumps,length_quoted plain]
  exact length

lemma length_isoformat (d:Day):d.isoformat.toList.length=10:=by
 rw[Day.isoformat,Calendar.isoformat,String.toList_ofList]
 rfl

lemma length_amount (a:Amount):a.decimal.str.length≤19:=by
 obtain ⟨whole,fraction,text,pointed⟩:=str_pointed a.cents
 have digits:(Nat.toDigits 10 a.cents).length≤18:=
  (Nat.length_toDigits_le_iff (by decide) (by decide)).mpr a.fits
 have bound:=pointed.length
 rw[Amount.decimal,text,List.length_append,List.length_cons,pointed.pair]
 omega

lemma length_date (c:HistoryCursor):(dumps (dateJson c)).length≤12:=by
 refine length_orNull (by decide) fun s is=>?_
 obtain ⟨d,-,rfl⟩:=Option.map_eq_some_iff.mp (Option.mem_def.mp is)
 exact ⟨isoformat_plain d,by rw[length_isoformat]⟩

lemma length_key (c:HistoryCursor):(dumps (.str c.signalKey.text)).length≤66:=by
 have form:=c.signalKey.form
 simp only[isSignalKey,Bool.and_eq_true,decide_eq_true_eq] at form
 rw[dumps,length_quoted c.signalKey.plain]
 omega

lemma length_tag (c:HistoryCursor):(dumps (tagJson c)).length≤26:=by
 refine length_orNull (by decide) fun s is=>?_
 obtain ⟨t,-,rfl⟩:=Option.map_eq_some_iff.mp (Option.mem_def.mp is)
 have form:=t.form
 simp only[isContextTag,Bool.and_eq_true,beq_iff_eq] at form
 exact ⟨t.plain,by rw[form.1]⟩

lemma length_amountJson (ok:Carriable c) : (dumps (amountJson c)).length≤21:=by
 refine length_orNull (by decide) fun s is=>?_
 obtain ⟨a,there,rfl⟩:=Option.map_eq_some_iff.mp (Option.mem_def.mp is)
 obtain ⟨amount,rfl⟩:=ok.amount a there
 rw[String.toList_ofList]
 exact ⟨amount_plain amount,Nat.add_le_add_right (length_amount amount) 2⟩

lemma length_currency (ok:Carriable c) : (dumps (orNull c.currency)).length≤5:=by
 refine length_orNull (by decide) fun s is=>?_
 obtain ⟨code,rfl⟩:=ok.currency s is
 have form:=code.form
 simp only[isCurrencyCode,Bool.and_eq_true,beq_iff_eq] at form
 exact ⟨currency_plain code,by rw[form.1]⟩

lemma length_sort (c:HistoryCursor):(dumps (.str c.sort.name)).length=8:=by
 rw[dumps,length_quoted c.sort.plain]
 cases c.sort with
 | recent=>rfl
 | amount=>rfl

lemma length_member {key:String}(plain:key.toList.all isPlain=true)
 (single:key.toList.length=1)(text:List Char) :
 (member (key,text)).length=text.length+4:=by
 rw[member,List.length_append,length_quoted (List.all_eq_true.mp plain),single,List.length_cons]
 change 1+2+(text.length+1)=_
 omega

lemma length_context (ok:Carriable c) : (dumps (.obj (contextFields c))).length≤81:=by
 have amount:=length_amountJson ok
 have currency:=length_currency ok
 have tag:=length_tag c
 have sort:=length_sort c
 rw[dumps_contextFields,object]
 simp only[contextFields,written,List.map_cons,List.map_nil,Written.member,joined,
  List.length_cons,List.length_append,List.length_nil]
 rw[length_member rfl rfl,length_member rfl rfl,length_member rfl rfl,length_member rfl rfl]
 omega

lemma length_payload (ok:Carriable c) : (dumps (payload c)).length≤181:=by
 have date:=length_date c
 have key:=length_key c
 have context:=length_context ok
 have version:(dumps (.num cursorVersion)).length=1:=by
  rw[dumps]
  rfl
 rw[dumps_payload,object,fields]
 split
 · simp only[List.cons_append,List.nil_append,written,List.map_cons,List.map_nil,
    Written.member,joined,List.length_cons,List.length_append,List.length_nil]
   rw[length_member rfl rfl,length_member rfl rfl,length_member rfl rfl,length_member rfl rfl]
   omega
 · simp only[List.append_nil,written,List.map_cons,List.map_nil,Written.member,joined,
    List.length_cons,List.length_append,List.length_nil]
   rw[length_member rfl rfl,length_member rfl rfl,length_member rfl rfl]
   omega

/-! ### The text -/

lemma printable_payload (ok:Carriable c) : ∀b∈(dumps (payload c)).map Char.toNat,b<256:=by
 intro b mem
 obtain ⟨d,listed,rfl⟩:=List.mem_map.mp mem
 have range:=(reads_payload ok 0).printable d listed
 omega

lemma encode_toList (ok:Carriable c) :
 (encodeHistoryCursor c).toList=Base64.symbols ((dumps (payload c)).map Char.toNat):=by
 rw[encodeHistoryCursor,String.toList_ofList,Base64.rdropWhile_encode (printable_payload ok)]

lemma length_encodeHistoryCursor (ok:Carriable c) :
 (encodeHistoryCursor c).toList.length ≤ maxEncodedCursorLength:=by
 have bound:=length_payload ok
 rw[encode_toList ok,Base64.length_symbols,List.length_map,maxEncodedCursorLength]
 omega

lemma decode_encode (ok:Carriable c) :
 decodeHistoryCursor (encodeHistoryCursor c)=.ok (carried c):=by
 have small:=printable_payload ok
 have filled:2≤(dumps (payload c)).length:=by
  rw[dumps_payload,object,List.length_cons,List.length_append,List.length_singleton]
  omega
 have length:=length_encodeHistoryCursor ok
 have loaded:loads ((dumps (payload c)).map Char.toNat)=some (.obj (fields c)):=by
  have depth:(dumps (payload c)).length+1=(dumps (payload c)).length-2+1+1+1:=by omega
  refine loads_written ?_
  rw[depth]
  exact reads_payload ok _
 have accepted:¬((encodeHistoryCursor c).toList=[] ∨
   maxEncodedCursorLength<(encodeHistoryCursor c).toList.length ∨
   ((encodeHistoryCursor c).toList.any fun d=>128≤d.toNat)=true):=by
  rintro (none' | long|other)
  · have same:=congrArg List.length (none'.symm.trans (encode_toList ok))
    rw[Base64.length_symbols,List.length_map,List.length_nil] at same
    omega
  · omega
  · obtain ⟨d,mem,high⟩:=List.any_eq_true.mp other
    rw[encode_toList ok] at mem
    have low:=Base64.ascii_symbols small d mem
    rw[decide_eq_true_eq] at high
    omega
 unfold decodeHistoryCursor
 simp only
 rw[if_neg accepted,encode_toList ok,←Base64.encode_eq,Base64.decode_encode small,
  Option.bind_some,loaded]
 exact decodePayload_fields ok

end Kivou.HistoryCursors
