import Kivou.PythonValues

set_option autoImplicit false

/-! A text names the object of a contract unless it is a label of the form, a lot number or a
referral to another document. It is first reduced to the letters a to z and the digits. -/
namespace Kivou.ObjectText
open PythonValues

def maxReferenceTokens:ℕ:=3

def documentReferrals:List String:=
 ["siehe ausschreibungsunterlagen","siehe unterlagen","gemass ausschreibungsunterlagen",
  "se referer au cahier des charges","voir cahier des charges","voir le cahier des charges",
  "selon cahier des charges","vedi capitolato","lo indicado en los pliegos","segun pliegos",
  "zie bestek","zgodnie z zapisami swz i formularza cenowego","zgodnie z swz",
  "conform caiet de sarcini","se upphandlingsdokumentet","see tender documents",
  "as per tender documents"]

def formScaffolding:List String:=
 ["wegleitung inhalt und eckdaten","inhalt und eckdaten","hauptauftrag","default lot"]

def lotWords:List String:=["lot","los","lote","lotto","part","partia","pakiet","czesc","dio",
  "grupa predmeta nabave","reihen"]

def numberWords:List String:=["nr","no","n","num","nb"]

/-- What a part of the pattern may leave of the text: every number of characters of a class. -/
def many (p:Char→Bool):List Char→List (List Char)
 | []=>[[]]
 | c::s=>(c::s)::if p c then many p s else []

def word (words:List String)(s:List Char):List (List Char):=
 words.filterMap fun w=>if w.toList <+: s then some (s.drop w.toList.length) else none

def isSeparator (c:Char):Bool:=isSpace c||[' ','.',':','#','-'].contains c

/-- `_LOT_PLACEHOLDER.match`, of a text whose blanks are single. -/
def lotPlaceholder (s:List Char):Bool:=
 let afterDefault:=s::(word ["default "] s).flatMap (many isSpace)
 let afterLot:=afterDefault.flatMap fun s=>s::word lotWords s
 let afterNumber:=afterLot.flatMap fun s=>s::(many isSpace s).flatMap (word numberWords)
 ((afterNumber.flatMap (many isSeparator)).flatMap (many Char.isDigit)).contains []

/-- The blank stands for every character that is not kept; no two of them meet. -/
def collapse (keep:Char→Bool)(s:List Char):List Char:=
 [' '].intercalate (((s.map fun c=>if keep c then c else ' ').splitOn ' ').filter (· ≠ []))

def isPlain (c:Char):Bool:=97≤c.toNat&&c.toNat≤122||48≤c.toNat&&c.toNat≤57

/-- A referral, with no more than a short reference behind it. -/
def isReferral (s:List Char):Bool:=documentReferrals.any fun referral=>s==referral.toList ||
  (referral.toList++[' ']).isPrefixOf s &&
   ((s.drop referral.toList.length).splitOnP isSpace |>.filter (· ≠ [])).length ≤ maxReferenceTokens

def isForm (s:List Char):Bool:=
 formScaffolding.any (s == ·.toList)||s != []&&lotPlaceholder s||isReferral s

/-- What `unicodedata` and `str` know of characters; `isalnum` is a letter or a digit of any script. -/
structure Unicode where
 nfkd:List Char→List Char
 combining:Char→Bool
 lower:List Char→List Char
 isalnum:Char→Bool
 plain:∀c,isPlain c=true→isalnum c=true
 apart:∀c,isSeparator c=true→isalnum c=false

namespace Unicode
variable (u:Unicode)

def fold (text:String):List Char:=u.lower ((u.nfkd text.toList).filter (!u.combining ·))

def normalise (text:Option String):List Char:=collapse isPlain (u.fold (text.getD ""))

def describesObject (text:Option String):Bool:=u.normalise text != []&&!isForm (u.normalise text)

def publishedObject (title description:Option String):Option String × String:=
 if u.describesObject description then (some (strip (description.getD "")),"description")
 else if u.describesObject title then (some (strip (title.getD "")),"title")
 else (none,"none")

/-- The whole text with its case, accents and punctuation folded, in whatever script. -/
def whole (text:String):List Char:=collapse u.isalnum (u.fold text)

/-- Every letter and digit of the text is one of those that the reduction keeps. -/
def Kept (text:String):Prop:=∀c∈u.fold text,u.isalnum c=true→isPlain c=true

end Unicode

section
variable {c:Char}{s:List Char}{keep:Char→Bool}

lemma mem_intercalate {ls:List (List Char)}(other:c ≠ ' ') : c∈[' '].intercalate ls ↔ ∃l∈ls,c∈l:=by
 induction ls with
 | nil=>simp
 | cons l ls ih =>
  cases ls with
  | nil=>simp
  | cons l' ls =>
   rw[List.intercalate_cons_cons,List.mem_append,List.mem_append,ih]
   simp only[List.mem_singleton,other,or_false,List.mem_cons (b:=l),
    or_and_right,exists_or,exists_eq_left]

lemma mem_collapse_iff (other:c ≠ ' '):c∈collapse keep s ↔ c∈s ∧ keep c=true:=by
 let spaced:=s.map fun c=>if keep c then c else ' '
 have pieces:c∈collapse keep s ↔ ∃l∈spaced.splitOn ' ',c∈l:=by
  rw[collapse,mem_intercalate other]
  simp only[List.mem_filter,decide_eq_true_eq,and_assoc]
  exact exists_congr fun l=>and_congr_right fun _=>
   and_iff_right_of_imp fun mem=>List.ne_nil_of_mem mem
 rw[pieces,←mem_intercalate other,List.intercalate_splitOn,List.mem_map]
 constructor
 · rintro ⟨d,mem,is⟩
   split at is
   · rename_i kept
     exact is ▸ ⟨mem,kept⟩
   · exact absurd is.symm other
 · rintro ⟨mem,kept⟩
   exact ⟨c,mem,if_pos kept⟩

lemma collapse_eq_nil (none:∀c∈s,keep c=false):collapse keep s=[]:=by
 induction s with
 | nil=>rfl
 | cons c s ih =>
  have blank:keep c=false:=none c List.mem_cons_self
  have rest:=ih fun d mem=>none d (List.mem_cons_of_mem c mem)
  rw[collapse,List.map_cons,blank,if_neg Bool.false_ne_true,List.splitOn_cons_eq_if_modifyHead,
   if_pos (beq_self_eq_true _),List.filter_cons_of_neg (by simp)]
  exact rest

/-- A character that the forms are written with. -/
def Known (c:Char):Prop:=isPlain c=true ∨ isSeparator c=true

def written (words:List String):Bool:=words.all fun w=>w.toList.all fun c=>isPlain c||isSeparator c

lemma known_of_written {words:List String}(all:written words=true){w:String}
 (listed:w∈words):∀c∈w.toList,Known c:=fun c inside=>
 (Bool.or_eq_true _ _).mp (List.all_eq_true.mp (List.all_eq_true.mp all w listed) c inside)

/-- Whatever the pattern has read of the text is made of known characters. -/
def Reads (s:List Char)(rests:List (List Char)):Prop:=∀r∈rests,∀c∈s,Known c ∨ c∈r

lemma Reads.skip {rests:List (List Char)}(reads:Reads s rests):Reads s (s::rests):=by
 intro r mem c inside
 rcases List.mem_cons.mp mem with rfl|mem
 · exact .inr inside
 · exact reads r mem c inside

lemma Reads.bind {rests:List (List Char)}{f:List Char→List (List Char)}
 (reads:Reads s rests)(more:∀r,Reads r (f r)):Reads s (rests.flatMap f):=by
 intro r mem c inside
 obtain ⟨r',there,mem⟩:=List.mem_flatMap.mp mem
 rcases reads r' there c inside with known|left
 · exact .inl known
 · exact more r' r mem c left

lemma reads_many {p:Char→Bool}(known:∀c,p c=true→Known c)(s:List Char) : Reads s (many p s):=by
 induction s with
 | nil=>exact fun _ _ _=>nofun
 | cons d s ih =>
  refine Reads.skip fun r mem c inside=>?_
  split at mem
  · rename_i more
    rcases List.mem_cons.mp inside with rfl|inside
    · exact .inl (known c more)
    · exact ih r mem c inside
  · cases mem

lemma reads_word {words:List String}(all:written words=true)(s:List Char) :
 Reads s (word words s):=by
 intro r mem c inside
 obtain ⟨w,listed,is⟩:=List.mem_filterMap.mp mem
 split at is
 · rename_i starts
   obtain ⟨rest,rfl⟩:=starts
   cases is
   rw[List.drop_left]
   exact (List.mem_append.mp inside).imp (known_of_written all listed c) id
 · cases is

lemma known_of_space (c:Char)(space:isSpace c=true):Known c:=
 .inr (by rw[isSeparator,space,Bool.true_or])

lemma known_of_digit (c:Char)(digit:c.isDigit=true):Known c:=by
 simp only[Char.isDigit,ge_iff_le,Bool.and_eq_true,decide_eq_true_eq] at digit
 refine .inl ?_
 simp only[isPlain,Bool.or_eq_true,Bool.and_eq_true,decide_eq_true_eq]
 exact .inr digit

lemma known_of_placeholder (form:lotPlaceholder s=true):∀c∈s,Known c:=by
 have numbers:=@reads_word numberWords (by decide)
 have lots:=@reads_word lotWords (by decide)
 have defaults:=@reads_word ["default "] (by decide)
 have blanks:=reads_many known_of_space
 have read:=(((((defaults s).bind blanks).skip.bind fun r=>(lots r).skip).bind fun r=>
  ((blanks r).bind numbers).skip).bind (reads_many fun c is=>Or.inr is)).bind
   (reads_many known_of_digit) [] (List.contains_iff_mem.mp form)
 exact fun c inside=>(read c inside).resolve_right List.not_mem_nil

lemma known_of_form (form:isForm s=true)(other:isReferral s=false) : ∀c∈s,Known c:=by
 rw[isForm,other,Bool.or_false,Bool.or_eq_true,Bool.and_eq_true] at form
 rcases form with label|⟨-,placeholder⟩
 · have all:written formScaffolding=true:=by decide
   obtain ⟨w,listed,is⟩:=List.any_eq_true.mp label
   exact beq_iff_eq.mp is ▸ known_of_written all listed
 · exact known_of_placeholder placeholder

/-- A label and a referral have a letter, and a placeholder has a character. -/
lemma form_cases (form:isForm s=true) : (∃c∈s,isPlain c=true) ∨ s≠[] ∧ ∀c∈s,Known c:=by
 have lettered:∀w∈formScaffolding++documentReferrals,w.toList.any isPlain=true:=by decide
 simp only[isForm,Bool.or_eq_true,Bool.and_eq_true,bne_iff_ne] at form
 rcases form with (label|⟨some,placeholder⟩)|referral
 · obtain ⟨w,listed,is⟩:=List.any_eq_true.mp label
   rw[beq_iff_eq.mp is]
   exact .inl (List.any_eq_true.mp (lettered w (List.mem_append_left _ listed)))
 · exact .inr ⟨some,known_of_placeholder placeholder⟩
 · obtain ⟨w,listed,is⟩:=List.any_eq_true.mp referral
   obtain ⟨c,inside,plain⟩:=List.any_eq_true.mp (lettered w (List.mem_append_right _ listed))
   refine .inl ⟨c,?_,plain⟩
   rw[Bool.or_eq_true,beq_iff_eq,Bool.and_eq_true] at is
   rcases is with rfl|⟨starts,-⟩
   · exact inside
   · exact (List.isPrefixOf_iff_prefix.mp starts).subset (List.mem_append_left _ inside)

end

namespace Unicode
variable {u:Unicode}{text:String}{c:Char}

lemma ne_blank (keep:u.isalnum c=true):c ≠ ' ' := by
 rintro rfl
 exact Bool.false_ne_true ((u.apart ' ' (by decide)).symm.trans keep)

lemma plain_of_known (known:Known c)(keep:u.isalnum c=true):isPlain c=true:=
 known.resolve_right fun separator=>Bool.false_ne_true ((u.apart c separator).symm.trans keep)

lemma whole_of_kept (kept:u.Kept text):u.whole text=u.normalise (some text):=by
 have same:(u.fold text).map (fun c=>if u.isalnum c then c else ' ') =
   (u.fold text).map fun c=>if isPlain c then c else ' ' := by
  refine List.map_congr_left fun c inside=>?_
  rw[Bool.eq_iff_iff.mpr ⟨kept c inside,u.plain c⟩]
 rw[whole,normalise,collapse,same]
 rfl

/-- A form keeps a letter or a digit through the reduction. -/
lemma normalise_of_form (form:isForm (u.whole text)=true):u.normalise (some text)≠[]:=by
 have some:∃c∈u.fold text,isPlain c=true:=by
  rcases form_cases form with ⟨c,inside,plain⟩|⟨some,known⟩
  · have other:=ne_blank (u.plain c plain)
    exact ⟨c,((mem_collapse_iff other).mp inside).1,plain⟩
  · by_contra none
    refine some (collapse_eq_nil fun c inside=>Bool.eq_false_iff.mpr fun keep=>none ⟨c,inside,?_⟩)
    exact plain_of_known (known c ((mem_collapse_iff (ne_blank keep)).mpr ⟨inside,keep⟩)) keep
 obtain ⟨c,inside,plain⟩:=some
 exact List.ne_nil_of_mem ((mem_collapse_iff (ne_blank (u.plain c plain))).mpr ⟨inside,plain⟩)

lemma kept_of_form (form:isForm (u.whole text)=true)
 (other:isReferral (u.whole text)=false):u.Kept text:=fun c inside keep=>
 plain_of_known (known_of_form form other c
  ((mem_collapse_iff (ne_blank keep)).mpr ⟨inside,keep⟩)) keep

variable (u)

lemma describesObject_eq_false {text:Option String} :
 u.describesObject text=false ↔ u.normalise text=[] ∨ isForm (u.normalise text)=true:=by
 simp[describesObject,←Bool.not_eq_true,imp_iff_not_or]

/-- What the reduction leaves is not empty, and where it is a form, so is the whole text. -/
def ReadsWhole (text:String):Prop:=u.normalise (some text)≠[] ∧
  (isForm (u.normalise (some text))=true→u.Kept text ∨ isReferral (u.whole text)=true)

/-- A text is refused for a form alone exactly when the reduction leaves its form to be seen. -/
theorem refused_iff_form : (∀text,(u.describesObject (some text)=false→isForm (u.whole text)=true) ↔
  u.ReadsWhole text) ∧
 ∀title description,(u.describesObject description=true →
   u.publishedObject title description=(some (strip (description.getD "")),"description")) ∧
  ∀text,title=some text ∨ description=some text→u.ReadsWhole text →
   isForm (u.whole text)=false→(u.publishedObject title description).1.isSome:=by
 have refused:∀text,(u.describesObject (some text)=false→isForm (u.whole text)=true) ↔
   u.ReadsWhole text:=by
  intro text
  rw[u.describesObject_eq_false]
  constructor
  · intro only
    refine ⟨fun empty=>normalise_of_form (only (.inl empty)) empty,fun form=>?_⟩
    cases referral:isReferral (u.whole text) with
    | true=>exact .inr rfl
    | false=>exact .inl (kept_of_form (only (.inr form)) referral)
  · rintro ⟨some,forms⟩ (empty|form)
    · exact absurd empty some
    · rcases forms form with kept|referral
      · rwa[whole_of_kept kept]
      · rw[isForm,referral,Bool.or_true]
 refine ⟨refused,fun title description=>⟨fun describes=>if_pos describes,?_⟩⟩
 intro text is reads named
 have describes:u.describesObject (some text)=true:=by
  rw[←Bool.not_eq_false]
  intro no
  exact Bool.false_ne_true (named.symm.trans ((refused text).mpr reads no))
 unfold publishedObject
 split
 · rfl
 · rename_i silent
   rcases is with rfl|rfl
   · rw[if_pos describes]
     rfl
   · exact absurd describes silent

end Unicode

/-- ASCII and Cyrillic, in lower case. -/
def cyrillic:Unicode where
 nfkd s:=s
 combining _:=false
 lower s:=s
 isalnum c:=isPlain c||0x430≤c.toNat&&c.toNat≤0x44F
 plain c is:=by rw[is,Bool.true_or]
 apart c is:=by
  rcases Bool.or_eq_true_iff.mp is with space|sign
  · simp only[isSpace,Bool.or_eq_true,Bool.and_eq_true,decide_eq_true_eq,beq_iff_eq] at space
    simp only[isPlain,Bool.or_eq_false_iff,Bool.and_eq_false_iff,decide_eq_false_iff_not]
    omega
  · simp only[List.contains_iff_mem,List.mem_cons,List.not_mem_nil,or_false] at sign
    rcases sign with rfl|rfl|rfl|rfl|rfl <;> decide

/-- A heading in Cyrillic, and one that keeps its number only. -/
theorem cyrillic_refused :
 (cyrillic.describesObject (some "ремонт")=false ∧ isForm (cyrillic.whole "ремонт")=false) ∧
 cyrillic.describesObject (some "мост 3")=false ∧ isForm (cyrillic.whole "мост 3")=false ∧
 cyrillic.publishedObject (some "ремонт") (some "мост 3")=(none,"none"):=by
 decide +kernel

end Kivou.ObjectText
