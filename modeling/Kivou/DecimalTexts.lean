import Kivou.PythonNumbers

set_option autoImplicit false

/-! A finite `Decimal` is a coefficient and the power of ten it counts in; `str` writes both, so
that `Decimal` reads the very same number back. -/
namespace Kivou.DecimalTexts
open PythonValues PythonNumbers AwardDomain

/-- A finite `decimal.Decimal`. -/
structure Decimal where
 negative:Bool
 coefficient:ℕ
 exponent:ℤ

namespace Decimal

def value (d:Decimal):ℚ:=(if d.negative then -1 else 1)*d.coefficient*(10:ℚ)^d.exponent

def ofLiteral:Literal→Option Decimal
 | .finite negative digits exponent=>some ⟨negative,ofDigits digits,exponent⟩
 | _=>none

/-- `Decimal(text)`, when it is finite. -/
def ofText (text:String):Option Decimal:=(decimal text).bind ofLiteral

def digits (d:Decimal):List Char:=Nat.toDigits 10 d.coefficient

def signed (n:ℤ):List Char:=(if n<0 then '-' else '+')::Nat.toDigits 10 n.natAbs

def zeros (n:ℤ):List Char:=List.replicate n.toNat '0'

/-- `str`: plain as long as the number is no integer that ends in zeros and no
fraction that starts with six of them. -/
def str (d:Decimal):List Char:=
 let left:=d.exponent+d.digits.length
 let point:=if d.exponent≤0 ∧ -6<left then left else 1
 let plain:=
  if point≤0 then '0' :: '.' :: (zeros (-point)++d.digits)
  else if d.digits.length≤point then d.digits++zeros (point-d.digits.length)
  else d.digits.take point.toNat ++ '.' :: d.digits.drop point.toNat
 (if d.negative then ['-'] else [])++plain ++
  if left=point then [] else 'E' :: signed (left-point)

end Decimal

lemma isDigit_iff {c:Char}:c.isDigit=true ↔ 48≤c.toNat ∧ c.toNat≤57:=by
 simp[Char.isDigit,UInt32.le_iff_toNat_le]

lemma decimalDigit_ascii {c:Char}(digit:c.isDigit=true) : decimalDigit c=some (c.toNat-48):=by
 obtain ⟨low,high⟩:=isDigit_iff.mp digit
 have first:decimalZeros.find? (fun z=>z≤c.toNat&&c.toNat<z+10)=some 0x30:=by
  refine List.find?_cons_of_pos ?_
  simp only[Bool.and_eq_true,decide_eq_true_eq]
  omega
 rw[decimalDigit,first]
 rfl

lemma isDecimal_ascii {c:Char}(digit:c.isDigit=true):isDecimal c=true:=by
 rw[isDecimal,decimalDigit_ascii digit]
 rfl

lemma isDigit_toDigits (n:ℕ):∀c∈Nat.toDigits 10 n,c.isDigit=true:=fun _ mem=>
 Nat.isDigit_of_mem_toDigits (by decide) (by decide) mem

lemma readDigits_ascii {ds rest:List Char}(ascii:∀c∈ds,c.isDigit=true)
 (stop:∀c∈rest.head?,isDecimal c=false) :
 readDigits (ds++rest)=(ds.map fun c=>c.toNat-48,rest):=by
 have decimals:∀c∈ds,isDecimal c=true:=fun c mem=>isDecimal_ascii (ascii c mem)
 have values:ds.filterMap decimalDigit=ds.map fun c=>c.toNat-48:=by
  rw[←List.filterMap_eq_map]
  exact List.filterMap_congr fun c mem=>decimalDigit_ascii (ascii c mem)
 rw[readDigits,List.takeWhile_append_of_pos decimals,List.dropWhile_append_of_pos decimals]
 cases rest with
 | nil=>rw[List.takeWhile_nil,List.append_nil,values,List.dropWhile_nil]
 | cons c rest =>
  have mark:¬isDecimal c=true:=by
   rw[stop c rfl]
   exact Bool.false_ne_true
  rw[List.takeWhile_cons_of_neg mark,List.append_nil,values,List.dropWhile_cons_of_neg mark]

lemma ofDigits_map (cs:List Char) : ofDigits (cs.map fun c=>c.toNat-48)=Nat.ofDigitChars 10 cs 0:=by
 rw[ofDigits,List.foldl_map,Nat.ofDigitChars_eq_foldl]
 rfl

structure Pointed (whole fraction:List Char)(n:ℕ):Prop where
 filled:whole≠[]
 pair:fraction.length=2
 digits:∀c∈whole++fraction,c.isDigit=true
 number:Nat.ofDigitChars 10 (whole++fraction) 0=n
 length:whole.length ≤ max 1 ((Nat.toDigits 10 n).length-2)

lemma str_pointed (n:ℕ):∃whole fraction,
 Decimal.str ⟨false,n,-2⟩=whole ++ '.' :: fraction ∧ Pointed whole fraction n:=by
 have some':0<(Nat.toDigits 10 n).length:=Nat.length_toDigits_pos
 have left:(-2:ℤ)≤0 ∧ -6<(-2:ℤ)+(Nat.toDigits 10 n).length:=by omega
 unfold Decimal.str Decimal.digits
 simp only[if_pos left,Bool.false_eq_true,if_false,List.nil_append,if_true,List.append_nil]
 by_cases short:(Nat.toDigits 10 n).length≤2
 · rw[if_pos (by omega)]
   refine ⟨['0'],_,rfl,by simp,?_,?_,?_,by simp⟩
   · simp only[Decimal.zeros,List.length_append,List.length_replicate]
     omega
   · intro c mem
     simp only[Decimal.zeros,List.mem_append,List.mem_singleton,List.mem_replicate] at mem
     rcases mem with rfl|⟨-,rfl⟩|mem
     · rfl
     · rfl
     · exact isDigit_toDigits n c mem
   · have zero:Nat.ofDigitChars 10 ['0'] 0=0:=rfl
     rw[Nat.ofDigitChars_append,Nat.ofDigitChars_append,Decimal.zeros,zero,
      Nat.ofDigitChars_replicate_zero,Nat.mul_zero,Nat.ofDigitChars_ten_toDigits]
 · rw[if_neg (by omega),if_neg (by omega)]
   have point:(-2+((Nat.toDigits 10 n).length:ℤ)).toNat=(Nat.toDigits 10 n).length-2:=by
    omega
   rw[point]
   refine ⟨_,_,rfl,?_,?_,?_,?_,?_⟩
   · refine List.ne_nil_of_length_pos ?_
     rw[List.length_take]
     omega
   · rw[List.length_drop]
     omega
   · rw[List.take_append_drop]
     exact isDigit_toDigits n
   · rw[List.take_append_drop,Nat.ofDigitChars_ten_toDigits]
   · rw[List.length_take]
     omega

namespace Pointed

variable {whole fraction:List Char}{n:ℕ}

lemma shape (p:Pointed whole fraction n) :
 ∀c∈whole ++ '.' :: fraction,c.isDigit=true ∨ c = '.' := by
 intro c mem
 rw[List.mem_append,List.mem_cons] at mem
 rcases mem with mem|rfl|mem
 · exact Or.inl (p.digits c (List.mem_append_left _ mem))
 · exact Or.inr rfl
 · exact Or.inl (p.digits c (List.mem_append_right _ mem))

lemma absent (p:Pointed whole fraction n){c:Char}(digit:c.isDigit=false)
 (point:c ≠ '.'):c∉whole ++ '.' :: fraction:=by
 intro mem
 rcases p.shape c mem with is|is
 · rw[digit] at is
   cases is
 · exact point is

lemma isSpace_eq (p:Pointed whole fraction n) : ∀c∈whole ++ '.' :: fraction,isSpace c=false:=by
 intro c mem
 rcases p.shape c mem with digit|rfl
 · obtain ⟨low,high⟩:=isDigit_iff.mp digit
   simp only[isSpace,Bool.or_eq_false_iff,Bool.and_eq_false_iff,decide_eq_false_iff_not,
    beq_eq_false_iff_ne]
   omega
 · rfl

lemma strip_eq (p:Pointed whole fraction n) :
 strip (String.ofList (whole ++ '.' :: fraction))=String.ofList (whole ++ '.' :: fraction):=by
 refine (trimWith_eq_self_iff isSpace _).mpr ⟨fun h is=>?_,fun h is=>?_⟩
 · rw[p.isSpace_eq _ (by simp)] at is
   exact Bool.false_ne_true is
 · rw[p.isSpace_eq _ (by simp)] at is
   exact Bool.false_ne_true is

lemma readNumber_eq (p:Pointed whole fraction n) : readNumber (whole ++ '.' :: fraction) =
  some ((whole++fraction).map fun c=>c.toNat-48,-2):=by
 have before:readDigits (whole ++ '.' :: fraction) =(whole.map fun c=>c.toNat-48,'.' :: fraction):=
  readDigits_ascii (fun c mem=>p.digits c (List.mem_append_left _ mem)) (by rintro c ⟨rfl⟩;rfl)
 have after:readDigits (fraction++[])=(fraction.map fun c=>c.toNat-48,[]):=
  readDigits_ascii (fun c mem=>p.digits c (List.mem_append_right whole mem)) nofun
 rw[List.append_nil] at after
 have some':(whole.map fun c=>c.toNat-48)++(fraction.map fun c=>c.toNat-48)≠[]:=by
  rw[←List.map_append]
  exact fun none'=>p.filled (List.append_eq_nil_iff.mp (List.map_eq_nil_iff.mp none')).1
 unfold readNumber
 simp only[before,after,if_neg some',readExponent,Option.map_some,List.length_map,p.pair,
  List.map_append]
 rfl

lemma ofText_eq (p:Pointed whole fraction n)(fits:n<10^18) :
 Decimal.ofText (String.ofList (whole ++ '.' :: fraction))=some ⟨false,n,-2⟩:=by
 have length:(Nat.toDigits 10 n).length≤18:=
  (Nat.length_toDigits_le_iff (by decide) (by decide)).mpr fits
 have bare:(whole ++ '.' :: fraction).filter (· != '_')=whole ++ '.' :: fraction:=by
  refine List.filter_eq_self.mpr fun c mem=>bne_iff_ne.mpr ?_
  rintro rfl
  exact p.absent rfl (by decide) mem
 have unsigned:readSign (whole ++ '.' :: fraction)=(false,whole ++ '.' :: fraction):=by
  unfold readSign
  split
  · rename_i is
    exact absurd (is ▸ List.mem_cons_self) (p.absent (c := '-') rfl (by decide))
  · rename_i is
    exact absurd (is ▸ List.mem_cons_self) (p.absent (c := '+') rfl (by decide))
  · rfl
 have range:decimalRange ((whole++fraction).map fun c=>c.toNat-48) (-2)=true:=by
  have shorter:=((whole++fraction).map fun c=>c.toNat-48).length_dropWhile_le (· = 0)
  have bound:=p.length
  rw[List.length_map,List.length_append,p.pair] at shorter
  simp only[decimalRange,Bool.and_eq_true,decide_eq_true_eq]
  omega
 rw[Decimal.ofText,decimal,p.strip_eq,String.toList_ofList,bare]
 simp only[unsigned,p.readNumber_eq,range,if_true,Option.bind_some,Decimal.ofLiteral,
  ofDigits_map,p.number]

end Pointed

lemma ofText_str {n:ℕ}(fits:n<10^18) :
 Decimal.ofText (String.ofList (Decimal.str ⟨false,n,-2⟩))=some ⟨false,n,-2⟩:=by
 obtain ⟨whole,fraction,text,pointed⟩:=str_pointed n
 rw[text]
 exact pointed.ofText_eq fits

end Kivou.DecimalTexts
