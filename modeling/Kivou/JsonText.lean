import Kivou.PythonValues
import Mathlib.Data.List.Lex
import Mathlib.Data.List.Sort

set_option autoImplicit false

/-! What `json.dumps` writes of a value when it sorts the keys and leaves no blanks, and what
`json.loads` reads from bytes. -/
namespace Kivou.JsonText
open PythonValues

abbrev Reader (α:Type):=List Char→Option (α × List Char)

def isSurrogate (n:ℕ):Bool:=0xD800≤n&&n≤0xDFFF

def scalar (n:ℕ):Char:=if isSurrogate n then Char.ofNat 0xFFFD else Char.ofNat n

def paired (high low:ℕ):ℕ:=0x10000+(high-0xD800)*0x400+(low-0xDC00)

def isHigh (n:ℕ):Bool:=0xD800≤n&&n≤0xDBFF
def isLow (n:ℕ):Bool:=0xDC00≤n&&n≤0xDFFF

def isTail (b:ℕ):Bool:=0x80≤b&&b≤0xBF

def utf8:List ℕ→Option (List Char)
 | []=>some []
 | a::bytes =>
  if a<0x80 then (utf8 bytes).map (scalar a::·)
  else
   match bytes with
   | []=>none
   | b::bytes =>
    if 0xC2≤a ∧ a≤0xDF ∧ isTail b then (utf8 bytes).map (scalar ((a-0xC0)*0x40+(b-0x80))::·)
    else
     match bytes with
     | []=>none
     | c::bytes =>
      let n:=(a-0xE0)*0x1000+(b-0x80)*0x40+(c-0x80)
      if 0xE0≤a ∧ a≤0xEF ∧ isTail b ∧ isTail c ∧ 0x800≤n then (utf8 bytes).map (scalar n::·)
      else
       match bytes with
       | []=>none
       | d::bytes =>
        let n:=(a-0xF0)*0x40000+(b-0x80)*0x1000+(c-0x80)*0x40+(d-0x80)
        if 0xF0≤a ∧ isTail b ∧ isTail c ∧ isTail d ∧ 0x10000≤n ∧ n≤0x10FFFF then
         (utf8 bytes).map (scalar n::·)
        else none

def units (big:Bool):List ℕ→Option (List ℕ)
 | []=>some []
 | [_]=>none
 | a::b::bytes=>(units big bytes).map ((if big then a*0x100+b else b*0x100+a)::·)

def ofUnits:List ℕ→List Char
 | []=>[]
 | [n]=>[scalar n]
 | n::m::ns =>
  if isHigh n&&isLow m then scalar (paired n m)::ofUnits ns else scalar n::ofUnits (m::ns)

def utf16 (big:Bool)(bytes:List ℕ):Option (List Char):=(units big bytes).map ofUnits

def utf32 (big:Bool):List ℕ→Option (List Char)
 | []=>some []
 | a::b::c::d::bytes =>
  let n:=if big then ((a*0x100+b)*0x100+c)*0x100+d
   else ((d*0x100+c)*0x100+b)*0x100+a
  if n≤0x10FFFF then (utf32 big bytes).map (scalar n::·) else none
 | _=>none

/-- The text of the bytes in the encoding that `detect_encoding` finds. -/
def text (bytes:List ℕ):Option (List Char):=
 if bytes.take 4=[0,0,0xFE,0xFF] then utf32 true (bytes.drop 4)
 else if bytes.take 4=[0xFF,0xFE,0,0] then utf32 false (bytes.drop 4)
 else if bytes.take 2=[0xFE,0xFF] then utf16 true (bytes.drop 2)
 else if bytes.take 2=[0xFF,0xFE] then utf16 false (bytes.drop 2)
 else if bytes.take 3=[0xEF,0xBB,0xBF] then utf8 (bytes.drop 3)
 else if 4≤bytes.length ∧ bytes[0]?=some 0 then
  if bytes[1]?=some 0 then utf32 true bytes else utf16 true bytes
 else if 4≤bytes.length ∧ bytes[1]?=some 0 then
  if bytes[2]?=some 0 ∧ bytes[3]?=some 0 then utf32 false bytes else utf16 false bytes
 else if bytes.length=2 ∧ bytes[0]?=some 0 then utf16 true bytes
 else if bytes.length=2 ∧ bytes[1]?=some 0 then utf16 false bytes
 else utf8 bytes

def isBlank (c:Char):Bool:=c == ' ' || c == '\t' || c == '\n' || c == '\r'

def skip (cs:List Char):List Char:=cs.dropWhile isBlank

def dropWord:List Char→List Char→Option (List Char)
 | [],cs=>some cs
 | w::ws,c::cs=>if w=c then dropWord ws cs else none
 | _::_,[]=>none

def hexDigit? (c:Char):Option ℕ:=
 let n:=c.toNat
 if 48≤n ∧ n≤57 then some (n-48)
 else if 97≤n ∧ n≤102 then some (n-87)
 else if 65≤n ∧ n≤70 then some (n-55)
 else none

def hexFour:Reader ℕ
 | a::b::c::d::cs=>do
  let a ←hexDigit? a
  let b ←hexDigit? b
  let c ←hexDigit? c
  let d ←hexDigit? d
  some (((a*16+b)*16+c)*16+d,cs)
 | _=>none

/-- The character of a `\u` escape, of two of them for a pair of surrogates. -/
def unicodeEscape (cs:List Char):Option (Char × List Char):=do
 let (high,rest) ←hexFour cs
 match isHigh high,rest with
 | true,'\\' :: 'u' :: cs=>do
  let (low,cs) ←hexFour cs
  some (if isLow low then (scalar (paired high low),cs) else (scalar high,rest))
 | _,_=>some (scalar high,rest)

def character:Reader Char
 | '\\' :: 'u' :: cs=>unicodeEscape cs
 | '\\' :: e::cs =>
  match e with
  | '"' | '\\' | '/' => some (e,cs)
  | 'b' => some (Char.ofNat 8,cs)
  | 'f' => some (Char.ofNat 12,cs)
  | 'n' => some ('\n',cs)
  | 'r' => some ('\r',cs)
  | 't' => some ('\t',cs)
  | _=>none
 | c::cs=>if c = '\\' ∨ c.toNat<32 then none else some (c,cs)
 | []=>none

def characters:ℕ→Reader (List Char)
 | 0,_=>none
 | _+1,'"' :: cs=>some ([],cs)
 | n+1,cs=>do
  let (c,cs) ←character cs
  let (more,cs) ←characters n cs
  some (c::more,cs)

def string (cs:List Char):Option (String × List Char):=
 (characters (cs.length+1) cs).map fun (s,rest)=>(String.ofList s,rest)

def marked (mark:List Char)(cs:List Char):List Char × List Char:=
 (mark++cs.takeWhile Char.isDigit,cs.dropWhile Char.isDigit)

def startsWithDigit (cs:List Char):Bool:=cs.head?.any Char.isDigit

def fraction:List Char→List Char × List Char
 | '.' :: cs=>if startsWithDigit cs then marked ['.'] cs else ([],'.' :: cs)
 | cs=>([],cs)

def exponent:List Char→List Char × List Char
 | e::cs =>
  if e = 'e' ∨ e = 'E' then
   match cs with
   | s::ds =>
    if (s = '+' ∨ s = '-') ∧ startsWithDigit ds then marked [e,s] ds
    else if startsWithDigit cs then marked [e] cs
    else ([],e::cs)
   | []=>([],[e])
  else ([],e::cs)
 | []=>([],[])

def whole:Reader (List Char)
 | '0' :: cs=>some (['0'],cs)
 | cs=>if startsWithDigit cs then some (cs.takeWhile Char.isDigit,cs.dropWhile Char.isDigit) else none

def number (cs:List Char):Option (Json × List Char):=do
 let (sign,cs):=match cs with
  | '-' :: cs=>(['-'],cs)
  | cs=>([],cs)
 let (digits,cs) ←whole cs
 let (tenths,cs):=fraction cs
 let (power,cs):=exponent cs
 some (.num (String.ofList (sign++digits++tenths++power)),cs)

def constants:List (List Char × Json):=
 [("null".toList,.null),("true".toList,.bool true),("false".toList,.bool false),
  ("NaN".toList,.num "NaN"),("Infinity".toList,.num "Infinity"),
  ("-Infinity".toList,.num "-Infinity")]

def constant (cs:List Char):Option (Json × List Char):=
 constants.findSome? fun c=>(dropWord c.1 cs).map (c.2,·)

def setKey (fields:Payload)(key:String)(value:Json):Payload:=
 if fields.has key then fields.map fun f=>if f.1==key then (key,value) else f
 else fields++[(key,value)]

def members (value:Reader Json):ℕ→Payload→Reader Payload
 | 0,_,_=>none
 | n+1,fields,cs=>do
  let cs ←dropWord ['"'] cs
  let (key,cs) ←string cs
  let cs ←dropWord [':'] (skip cs)
  let (item,cs) ←value (skip cs)
  match skip cs with
  | ',' :: cs=>members value n (setKey fields key item) (skip cs)
  | '}' :: cs=>some (setKey fields key item,cs)
  | _=>none

def items (value:Reader Json):ℕ→Reader (List Json)
 | 0,_=>none
 | n+1,cs=>do
  let (item,cs) ←value cs
  match skip cs with
  | ',' :: cs=>do
   let (more,cs) ←items value n (skip cs)
   some (item::more,cs)
  | ']' :: cs=>some ([item],cs)
  | _=>none

/-- A value whose nesting is less than `depth`. -/
def value:ℕ→Reader Json
 | 0,_=>none
 | _+1,'"' :: cs=>(string cs).map fun (s,rest)=>(.str s,rest)
 | depth+1,'{' :: cs =>
  match skip cs with
  | '}' :: cs=>some (.obj [],cs)
  | cs=>(members (value depth) (cs.length+1) [] cs).map fun (fields,rest)=>(.obj fields,rest)
 | depth+1,'[' :: cs =>
  match skip cs with
  | ']' :: cs=>some (.arr [],cs)
  | cs=>(items (value depth) (cs.length+1) cs).map fun (items,rest)=>(.arr items,rest)
 | _+1,cs=>(constant cs).or (number cs)

/-- `json.loads` of bytes; none for a text that is no JSON or no text. -/
def loads (bytes:List ℕ):Option Json:=do
 let cs ←text bytes
 let (json,rest) ←value (cs.length+1) (skip cs)
 if skip rest=[] then some json else none

def hexDigit (n:ℕ):Char:=if n<10 then Char.ofNat (48+n) else Char.ofNat (87+n)

def escapedUnit (n:ℕ):List Char:=
 ['\\','u',hexDigit (n/0x1000%16),hexDigit (n/0x100%16),hexDigit (n/0x10%16),hexDigit (n%16)]

/-- A character as `ensure_ascii` writes it. -/
def escaped (c:Char):List Char:=
 match c with
 | '"' => ['\\','"']
 | '\\' => ['\\','\\']
 | '\n' => ['\\','n']
 | '\r' => ['\\','r']
 | '\t' => ['\\','t']
 | c =>
  let n:=c.toNat
  if n=8 then ['\\','b']
  else if n=12 then ['\\','f']
  else if 32≤n ∧ n≤126 then [c]
  else if n<0x10000 then escapedUnit n
  else escapedUnit (0xD800+(n-0x10000)/0x400)++escapedUnit (0xDC00+(n-0x10000)%0x400)

def quoted (s:String):List Char := '"' :: (s.toList.flatMap escaped++['"'])

/-- `sort_keys` sorts by code points. -/
def keyLe (f g:String × List Char):Prop:=f.1.toList.map Char.toNat≤g.1.toList.map Char.toNat

instance:DecidableRel keyLe:=fun _ _=>inferInstanceAs (Decidable (_≤_))

def joined:List (List Char)→List Char
 | []=>[]
 | [text]=>text
 | text::texts=>text ++ ',' :: joined texts

def member (f:String × List Char):List Char:=quoted f.1 ++ ':' :: f.2

mutual

/-- `json.dumps` with sorted keys and compact separators. -/
def dumps:Json→List Char
 | .null=>"null".toList
 | .bool b=>if b then "true".toList else "false".toList
 | .num literal=>literal.toList
 | .str s=>quoted s
 | .arr items => '[' :: (joined (dumpsItems items)++[']'])
 | .obj fields => '{' :: (joined (((dumpsFields fields).insertionSort keyLe).map member)++['}'])

def dumpsItems:List Json→List (List Char)
 | []=>[]
 | item::items=>dumps item::dumpsItems items

def dumpsFields:List (String × Json)→List (String × List Char)
 | []=>[]
 | (key,item)::fields=>(key,dumps item)::dumpsFields fields

end

def isPlain (c:Char):Bool:=32≤c.toNat&&c.toNat≤126&&c != '"' && c != '\\'

variable {c:Char}{cs:List Char}{s:String}{n depth:ℕ}

lemma isPlain_iff : isPlain c=true ↔ 32≤c.toNat ∧ c.toNat≤126 ∧ c ≠ '"' ∧ c ≠ '\\' := by
 simp[isPlain,and_assoc]

lemma utf8_ascii (ascii:∀c∈cs,c.toNat<128) : utf8 (cs.map Char.toNat)=some cs:=by
 induction cs with
 | nil=>rfl
 | cons c cs ih =>
  have head:c.toNat<128:=ascii c List.mem_cons_self
  have single:scalar c.toNat=c:=by
   have small:isSurrogate c.toNat=false:=by
    simp[isSurrogate]
    omega
   rw[scalar,small,if_neg Bool.false_ne_true,Char.ofNat_toNat]
  rw[List.map_cons,utf8.eq_def]
  simp only[if_pos head,ih fun d mem=>ascii d (List.mem_cons_of_mem c mem),Option.map_some,single]

lemma text_ascii (ascii:∀c∈cs,0<c.toNat ∧ c.toNat<128) : text (cs.map Char.toNat)=some cs:=by
 have bounds:∀b∈cs.map Char.toNat,0<b ∧ b<128:=by
  intro b mem
  obtain ⟨c,listed,rfl⟩:=List.mem_map.mp mem
  exact ascii c listed
 have mark:∀ {k:ℕ}{bom:List ℕ},(∃b∈bom,b=0 ∨ 128≤b) →(cs.map Char.toNat).take k≠bom:=by
  rintro k bom ⟨b,listed,odd⟩ is
  have range:=bounds b (List.mem_of_mem_take (is ▸ listed))
  omega
 have null:∀i:ℕ,(cs.map Char.toNat)[i]?≠some 0:=by
  intro i is
  have range:=bounds 0 (List.mem_of_getElem? is)
  omega
 unfold text
 rw[if_neg (mark ⟨0,by decide⟩),if_neg (mark ⟨0,by decide⟩),if_neg (mark ⟨0xFE,by decide⟩),
  if_neg (mark ⟨0xFE,by decide⟩),if_neg (mark ⟨0xEF,by decide⟩),if_neg fun h=>null 0 h.2,
  if_neg fun h=>null 1 h.2,if_neg fun h=>null 0 h.2,if_neg fun h=>null 1 h.2]
 exact utf8_ascii fun c mem=>(ascii c mem).2

lemma escaped_plain (plain:isPlain c=true):escaped c=[c]:=by
 obtain ⟨low,high,quote,slash⟩:=isPlain_iff.mp plain
 unfold escaped
 split
 · exact absurd rfl quote
 · exact absurd rfl slash
 · exact absurd low (by decide)
 · exact absurd low (by decide)
 · exact absurd low (by decide)
 · simp only
   rw[if_neg (by omega),if_neg (by omega),if_pos ⟨low,high⟩]

lemma quoted_plain (plain:∀c∈s.toList,isPlain c=true) : quoted s = '"' :: (s.toList++['"']):=by
 have each:s.toList.flatMap escaped=s.toList.flatMap fun c=>[c]:=
  List.flatMap_congr fun c mem=>escaped_plain (plain c mem)
 rw[quoted,each,List.flatMap_singleton']

lemma character_plain (plain:isPlain c=true)(cs:List Char) : character (c::cs)=some (c,cs):=by
 obtain ⟨low,-,-,slash⟩:=isPlain_iff.mp plain
 unfold character
 split
 · rename_i is
   exact absurd (List.cons.inj is).1 slash
 · rename_i is
   exact absurd (List.cons.inj is).1 slash
 · rename_i is
   obtain ⟨rfl,rfl⟩:=List.cons.inj is
   rw[if_neg]
   rintro (is|below)
   · exact slash is
   · omega
 · rename_i is
   cases is

lemma characters_plain {rest:List Char}(plain:∀c∈cs,isPlain c=true)
 (enough:cs.length<n):characters n (cs ++ '"' :: rest)=some (cs,rest):=by
 induction cs generalizing n with
 | nil =>
  obtain ⟨n,rfl⟩:=Nat.exists_eq_succ_of_ne_zero (Nat.ne_of_gt enough)
  rfl
 | cons c cs ih =>
  obtain ⟨n,rfl⟩:=Nat.exists_eq_succ_of_ne_zero (Nat.ne_of_gt (Nat.zero_lt_of_lt enough))
  have head:isPlain c=true:=plain c List.mem_cons_self
  have tail:=ih (fun d mem=>plain d (List.mem_cons_of_mem c mem)) (Nat.lt_of_succ_lt_succ enough)
  have quote:c ≠ '"' := (isPlain_iff.mp head).2.2.1
  rw[List.cons_append,characters]
  · rw[character_plain head]
    simp only[Option.bind_eq_bind,Option.bind_some,tail]
  · exact fun _ is=>quote (List.cons.inj is).1

lemma string_plain (plain:∀c∈s.toList,isPlain c=true)(rest:List Char) :
 string (s.toList ++ '"' :: rest)=some (s,rest):=by
 rw[string,characters_plain plain]
 · simp only[Option.map_some,String.ofList_toList]
 · rw[List.length_append]
   omega

def Ended (rest:List Char):Prop:=∀c∈rest.head?,c = ',' ∨ c = '}' ∨ c = ']'

/-- The text is read as the value wherever it ends, at a nesting of `depth`. -/
structure Reads (depth:ℕ)(written:List Char)(json:Json):Prop where
 printable:∀c∈written,32≤c.toNat ∧ c.toNat≤126
 starts:∀rest,skip (written++rest)=written++rest
 read:∀rest,Ended rest→value depth (written++rest)=some (json,rest)

lemma printable_of_all (all:(cs.all fun c=>Nat.ble 32 c.toNat&&Nat.ble c.toNat 126)=true) :
 ∀c∈cs,32≤c.toNat ∧ c.toNat≤126:=by
 intro c mem
 have each:=List.all_eq_true.mp all c mem
 rw[Bool.and_eq_true] at each
 exact ⟨Nat.le_of_ble_eq_true each.1,Nat.le_of_ble_eq_true each.2⟩

lemma reads_null (depth:ℕ):Reads (depth+1) (dumps .null) .null:=
 ⟨printable_of_all rfl,fun _=>rfl,fun _ _=>rfl⟩

lemma printable_quoted (plain:∀c∈cs,isPlain c=true) :
 ∀c ∈ '"' :: (cs++['"']),32≤c.toNat ∧ c.toNat≤126:=by
 intro c mem
 rw[List.mem_cons,List.mem_append,List.mem_singleton] at mem
 rcases mem with rfl|mem|rfl
 · decide
 · obtain ⟨low,high,-⟩:=isPlain_iff.mp (plain c mem)
   exact ⟨low,high⟩
 · decide

lemma reads_str (plain:∀c∈s.toList,isPlain c=true)(depth:ℕ) :
 Reads (depth+1) (dumps (.str s)) (.str s):=by
 have written:dumps (.str s) = '"' :: (s.toList++['"']):=by rw[dumps,quoted_plain plain]
 refine ⟨?_,fun rest=>?_,fun rest _=>?_⟩
 · rw[written]
   exact printable_quoted plain
 · rw[written]
   rfl
 · rw[written,List.cons_append,List.append_assoc]
   change (string (s.toList ++ '"' :: rest)).map _=_
   rw[string_plain plain]
   rfl

lemma reads_one (depth:ℕ):Reads (depth+1) (dumps (.num "1")) (.num "1"):=by
 refine ⟨printable_of_all rfl,fun _=>rfl,fun rest ended=>?_⟩
 change number ('1' :: rest)=_
 cases rest with
 | nil=>rfl
 | cons c cs =>
  rcases ended c rfl with rfl|rfl|rfl
  · rfl
  · rfl
  · rfl

structure Written where
 key:String
 text:List Char
 json:Json

variable {ws:List Written}

def Written.member (w:Written):List Char:=JsonText.member (w.key,w.text)

def Written.Reads (depth:ℕ)(w:Written):Prop:=
 (∀c∈w.key.toList,isPlain c=true) ∧ JsonText.Reads depth w.text w.json

def collected (ws:List Written)(fields:Payload):Payload:=
 ws.foldl (fun fields w=>setKey fields w.key w.json) fields

lemma Written.member_eq {w:Written}(reads:w.Reads depth) :
 w.member = '"' :: (w.key.toList ++ '"' :: ':' :: w.text):=by
 change quoted w.key ++ ':' :: w.text=_
 rw[quoted_plain reads.1]
 simp only[List.cons_append,List.append_assoc,List.nil_append]

lemma members_member {w:Written}(reads:w.Reads depth)(fields:Payload)
  {rest:List Char}(ended:Ended rest) :
  members (value depth) (n+1) fields (w.member++rest) =
   match skip rest with
   | ',' :: cs=>members (value depth) n (setKey fields w.key w.json) (skip cs)
   | '}' :: cs=>some (setKey fields w.key w.json,cs)
   | _=>none:=by
 have shape:w.member++rest = '"' :: (w.key.toList ++ '"' :: ':' :: (w.text++rest)):=by
  rw[w.member_eq reads]
  simp only[List.cons_append,List.append_assoc]
 rw[shape,members]
 have quote:dropWord ['"'] ('"' :: (w.key.toList ++ '"' :: ':' :: (w.text++rest))) =
   some (w.key.toList ++ '"' :: ':' :: (w.text++rest)):=rfl
 have colon:dropWord [':'] (skip (':' :: (w.text++rest)))=some (w.text++rest):=rfl
 simp only[quote,colon,string_plain reads.1,reads.2.starts,reads.2.read rest ended,
  Option.bind_eq_bind,Option.bind_some]

lemma joined_quote (filled:ws≠[])
 (reads:∀w∈ws,w.Reads depth):∃cs,joined (ws.map Written.member) = '"' :: cs:=by
 cases ws with
 | nil=>exact absurd rfl filled
 | cons w ws =>
  have first:=w.member_eq (reads w List.mem_cons_self)
  cases ws with
  | nil=>exact ⟨_,first⟩
  | cons v ws =>
   change ∃cs,w.member ++ ',' :: joined ((v::ws).map Written.member)=_
   rw[first]
   exact ⟨_,rfl⟩

lemma length_joined (texts:List (List Char))(filled:∀t∈texts,t≠[]) :
 texts.length≤(joined texts).length:=by
 induction texts with
 | nil=>exact Nat.zero_le _
 | cons t texts ih =>
  have head:0<t.length:=List.length_pos_iff.mpr (filled t List.mem_cons_self)
  have tail:=ih fun u mem=>filled u (List.mem_cons_of_mem t mem)
  cases texts with
  | nil=>exact head
  | cons u texts =>
   change _≤(t ++ ',' :: joined (u::texts)).length
   simp only[List.length_append,List.length_cons] at tail ⊢
   omega

lemma members_joined (filled:ws≠[]) (reads:∀w∈ws,w.Reads depth)(enough:ws.length≤n)(fields:Payload)
 (rest:List Char) :
 members (value depth) n fields (joined (ws.map Written.member) ++ '}' :: rest) =
  some (collected ws fields,rest):=by
 induction ws generalizing n fields with
 | nil=>exact absurd rfl filled
 | cons w ws ih =>
  obtain ⟨n,rfl⟩:=Nat.exists_eq_succ_of_ne_zero (Nat.ne_of_gt (Nat.zero_lt_of_lt enough))
  have head:w.Reads depth:=reads w List.mem_cons_self
  cases ws with
  | nil =>
   change members (value depth) (n+1) fields (w.member ++ '}' :: rest)=_
   rw[members_member head fields fun c is=>by simp at is;simp[←is]]
   rfl
  | cons v ws =>
   obtain ⟨more,quote⟩:=joined_quote (List.cons_ne_nil v ws)
    fun u mem=>reads u (List.mem_cons_of_mem w mem)
   change members (value depth) (n+1) fields
    ((w.member ++ ',' :: joined ((v::ws).map Written.member)) ++ '}' :: rest)=_
   rw[List.append_assoc,members_member head fields fun c is=>by simp at is;simp[←is]]
   change members (value depth) n (setKey fields w.key w.json)
    (skip (joined ((v::ws).map Written.member) ++ '}' :: rest))=_
   have blank:skip (joined ((v::ws).map Written.member) ++ '}' :: rest) =
     joined ((v::ws).map Written.member) ++ '}' :: rest:=by
    rw[quote]
    rfl
   rw[blank]
   exact ih (List.cons_ne_nil v ws) (fun u mem=>reads u (List.mem_cons_of_mem w mem))
    (Nat.le_of_succ_le_succ enough) _

lemma printable_joined (reads:∀w∈ws,w.Reads depth) :
 ∀c∈joined (ws.map Written.member),32≤c.toNat ∧ c.toNat≤126:=by
 have each:∀w∈ws,∀c∈w.member,32≤c.toNat ∧ c.toNat≤126:=by
  intro w listed c mem
  have shape:w.member=('"' :: (w.key.toList++['"'])) ++ ':' :: w.text:=by
   rw[w.member_eq (reads w listed)]
   simp only[List.cons_append,List.append_assoc,List.nil_append]
  rw[shape,List.mem_append] at mem
  rcases mem with mem|mem
  · exact printable_quoted (reads w listed).1 c mem
  · rcases List.mem_cons.mp mem with rfl|mem
    · decide
    · exact (reads w listed).2.printable c mem
 clear reads
 induction ws with
 | nil=>nofun
 | cons w ws ih =>
  have first:=each w List.mem_cons_self
  have others:=ih fun v mem=>each v (List.mem_cons_of_mem w mem)
  cases ws with
  | nil=>exact first
  | cons v ws =>
   intro c mem
   change c∈w.member ++ ',' :: joined ((v::ws).map Written.member) at mem
   rw[List.mem_append,List.mem_cons] at mem
   rcases mem with mem|rfl|mem
   · exact first c mem
   · decide
   · exact others c mem

lemma reads_members (filled:ws≠[]) (reads:∀w∈ws,w.Reads depth) :
 Reads (depth+1) ('{' :: (joined (ws.map Written.member)++['}'])) (.obj (collected ws [])):=by
 refine ⟨?_,fun rest=>rfl,fun rest _=>?_⟩
 · intro c mem
   rw[List.mem_cons,List.mem_append,List.mem_singleton] at mem
   rcases mem with rfl|mem|rfl
   · decide
   · exact printable_joined reads c mem
   · decide
 obtain ⟨more,quote⟩:=joined_quote filled reads
 have length:=length_joined (ws.map Written.member) fun t mem=>by
  obtain ⟨w,listed,rfl⟩:=List.mem_map.mp mem
  rw[w.member_eq (reads w listed)]
  exact List.cons_ne_nil _ _
 have enough:ws.length≤((joined (ws.map Written.member)) ++ '}' :: rest).length+1:=by
  rw[List.length_map] at length
  rw[List.length_append]
  omega
 have all:=members_joined filled reads enough [] rest
 rw[quote] at all ⊢
 have shape : '{' :: ('"' :: more++['}'])++rest = '{' :: '"' :: (more ++ '}' :: rest):=by
  rw[List.cons_append,List.append_assoc]
  rfl
 rw[shape]
 exact congrArg (Option.map _) all

lemma collected_eq {fields:Payload} (distinct:(fields.map Prod.fst++ws.map Written.key).Nodup) :
 collected ws fields=fields++ws.map fun w=>(w.key,w.json):=by
 induction ws generalizing fields with
 | nil=>exact (List.append_nil fields).symm
 | cons w ws ih =>
  have fresh:fields.has w.key=false:=by
   refine Bool.eq_false_iff.mpr fun there=>?_
   obtain ⟨f,listed,same⟩:=List.any_eq_true.mp there
   have key:f.1=w.key:=beq_iff_eq.mp same
   exact (List.nodup_append.mp distinct).2.2 f.1 (List.mem_map_of_mem listed) w.key
    List.mem_cons_self key
  have stored:setKey fields w.key w.json=fields++[(w.key,w.json)]:=by
   rw[setKey,fresh,if_neg Bool.false_ne_true]
  change collected ws (setKey fields w.key w.json)=_
  rw[stored,ih]
  · rw[List.append_assoc]
    rfl
  · rw[List.map_append,List.append_assoc]
    exact distinct

/-- A value that stands alone is what `loads` reads. -/
lemma loads_written {written:List Char}{json:Json} (reads:Reads (written.length+1) written json) :
 loads (written.map Char.toNat)=some json:=by
 have ascii:∀c∈written,0<c.toNat ∧ c.toNat<128:=by
  intro c mem
  have range:=reads.printable c mem
  omega
 have starts:=reads.starts []
 have read:=reads.read [] nofun
 rw[List.append_nil] at starts read
 rw[loads,text_ascii ascii]
 simp only[Option.bind_eq_bind,Option.bind_some,starts,read]
 rfl

end Kivou.JsonText
