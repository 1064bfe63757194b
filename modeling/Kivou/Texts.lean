import Mathlib.Data.List.Basic

set_option autoImplicit false

/-! What can be read back from a text that was put together from fixed parts, numbers and names. -/
namespace Kivou.Texts

lemma append_cons_inj {α:Type}{mark:α}{xs ys rest rest':List α}(hx:mark∉xs)
 (hy:mark∉ys)(h:xs++mark::rest=ys++mark::rest'):xs=ys ∧ rest=rest':=by
 induction xs generalizing ys with
 | nil =>
  cases ys with
  | nil=>exact ⟨rfl,(List.cons.inj h).2⟩
  | cons y ys =>
   have head:mark=y:=(List.cons.inj h).1
   exact absurd (head ▸ List.mem_cons_self) hy
 | cons x xs ih =>
  cases ys with
  | nil =>
   have head:x=mark:=(List.cons.inj h).1
   exact absurd (head ▸ List.mem_cons_self) hx
  | cons y ys =>
   obtain ⟨rfl,tail⟩:=List.cons.inj h
   obtain ⟨rfl,rfl⟩:=ih (fun m=>hx (List.mem_cons_of_mem _ m))
    (fun m=>hy (List.mem_cons_of_mem _ m)) tail
   exact ⟨rfl,rfl⟩

lemma notMem_digits {mark:Char}(h:mark.isDigit=false)(n:ℕ) : mark∉(toString n).toList:=by
 intro mem
 have listed:mark∈Nat.toDigits 10 n:=by
  simpa[Nat.toString_eq_ofList_toDigits] using mem
 have digit:=Nat.isDigit_of_mem_toDigits (by decide) (by decide) listed
 rw[h] at digit
 cases digit

lemma toString_inj {n m:ℕ}(h:(toString n).toList=(toString m).toList):n=m:=by
 have digits:Nat.toDigits 10 n=Nat.toDigits 10 m:=by
  simpa[Nat.toString_eq_ofList_toDigits] using h
 have parsed:=congrArg (fun ds=>Nat.ofDigitChars 10 ds 0) digits
 simpa using parsed

lemma number_inj {mark:Char}(h:mark.isDigit=false){n m:ℕ}{rest rest':List Char}
 (eq:(toString n).toList++mark::rest=(toString m).toList++mark::rest') :
 n=m ∧ rest=rest':=by
 obtain ⟨digits,tail⟩:=append_cons_inj (notMem_digits h n) (notMem_digits h m) eq
 exact ⟨toString_inj digits,tail⟩

def listedChars:List String→List Char
 | []=>[]
 | text::texts=>(toString text.length).toList ++ ':' :: (text.toList++listedChars texts)

def listed (texts:List String):String:=String.ofList (listedChars texts)

lemma listedChars_inj {texts texts':List String}(h:listedChars texts=listedChars texts') :
 texts=texts':=by
 induction texts generalizing texts' with
 | nil =>
  cases texts' with
  | nil=>rfl
  | cons text' texts'=>simp[listedChars] at h
 | cons text texts ih =>
  cases texts' with
  | nil=>simp[listedChars] at h
  | cons text' texts' =>
   obtain ⟨length,rest⟩:=number_inj (by decide) h
   have lengths:text.toList.length=text'.toList.length:=by
    rw[String.length_toList,String.length_toList,length]
   obtain ⟨head,tail⟩:=List.append_inj rest lengths
   rw[String.toList_injective head,ih tail]

lemma listed_injective:Function.Injective listed:=fun texts texts' h=>
 listedChars_inj (by simpa[listed] using congrArg String.toList h)

end Kivou.Texts
