import Mathlib.Data.List.DropRight
import Mathlib.Data.Rat.Defs

set_option autoImplicit false

/-! Text is trimmed in two ways: `str.strip` in Kivou's own checks, and the `strip_whitespace` of
pydantic, whose core trims by the Unicode `White_Space` property. -/
namespace Kivou.PythonValues

def isSpace (c:Char):Bool:=
 let n:=c.toNat
 (9≤n&&n≤13)||(28≤n&&n≤32)||n==0x85||n==0xA0||n==0x1680 ||
  (0x2000≤n&&n≤0x200A)||n==0x2028||n==0x2029||n==0x202F||n==0x205F ||
  n==0x3000

def isWhiteSpace (c:Char):Bool:=isSpace c&&!(28≤c.toNat&&c.toNat≤31)

variable (p:Char→Bool)(s:String)(l:List Char)

def trimWith:String:=String.ofList ((s.toList.dropWhile p).rdropWhile p)

def strip:String:=trimWith isSpace s
def trim:String:=trimWith isWhiteSpace s

/-- Neither end of the text is dropped by `p`. -/
def EndsClear:Prop:=(∀h:0<l.length,¬p (l.get ⟨0,h⟩)) ∧ ∀h:l≠[],¬p (l.getLast h)

lemma trimmed_iff : (l.dropWhile p).rdropWhile p=l ↔ EndsClear p l:=by
 constructor
 · intro h
   have hd:l.dropWhile p=l:=by
    have hp:(l.dropWhile p).rdropWhile p <+: l.dropWhile p:=List.rdropWhile_prefix ..
    have hs:l.dropWhile p <:+ l:=List.dropWhile_suffix ..
    have h1:=hp.length_le
    rw[h] at h1
    exact hs.eq_of_length (le_antisymm hs.length_le h1)
   rw[hd] at h
   exact ⟨List.dropWhile_eq_self_iff.mp hd,List.rdropWhile_eq_self_iff.mp h⟩
 · rintro ⟨hf,hb⟩
   rw[List.dropWhile_eq_self_iff.mpr hf,List.rdropWhile_eq_self_iff.mpr hb]

lemma endsClear_trimmed : EndsClear p ((l.dropWhile p).rdropWhile p):=by
 constructor
 · intro h
   obtain ⟨t,ht⟩:(l.dropWhile p).rdropWhile p <+: l.dropWhile p:=List.rdropWhile_prefix ..
   have hl:0<(l.dropWhile p).length:=by rw[←ht,List.length_append];omega
   have hh:=List.dropWhile_get_zero_not p l hl
   have he:((l.dropWhile p).rdropWhile p).get ⟨0,h⟩=(l.dropWhile p).get ⟨0,hl⟩:=by
    simp only[List.get_eq_getElem]
    conv_rhs=>rw[←List.getElem_of_eq ht (by rw[ht];exact hl)]
    exact (List.getElem_append_left h).symm
   rw[he]
   exact hh
 · intro h
   exact List.rdropWhile_last_not p _ h

lemma trimWith_eq_self_iff : trimWith p s=s ↔ EndsClear p s.toList:=by
 rw[←trimmed_iff,trimWith]
 constructor
 · intro h
   conv_rhs=>rw[←h]
   rw[String.toList_ofList]
 · intro h
   rw[h,String.ofList_toList]

lemma trimWith_idem:trimWith p (trimWith p s)=trimWith p s:=by
 rw[trimWith_eq_self_iff,trimWith,String.toList_ofList]
 exact endsClear_trimmed p _

lemma trim_idem:trim (trim s)=trim s:=trimWith_idem isWhiteSpace s

/-- What `str.strip` leaves alone, pydantic leaves alone. -/
lemma trim_of_strip {s:String}(h:strip s=s):trim s=s:=by
 obtain ⟨hf,hb⟩:=(trimWith_eq_self_iff isSpace s).mp h
 have weaker:∀c,isWhiteSpace c→isSpace c:=fun c hc=>by
  simp only[isWhiteSpace,Bool.and_eq_true] at hc
  exact hc.1
 exact (trimWith_eq_self_iff isWhiteSpace s).mpr
  ⟨fun l hc=>hf l (weaker _ hc),fun l hc=>hb l (weaker _ hc)⟩

/-- A `datetime`: the reading of its own wall clock and its offset from UTC,
both in microseconds; a naive value has no offset. -/
structure DateTime where
 wall:ℤ
 offset:Option ℤ
 deriving DecidableEq

namespace DateTime

def aware (d:DateTime):Bool:=d.offset.isSome

def toUtc (d:DateTime):DateTime:=
 match d.offset with
 | some o=>⟨d.wall-o,some 0⟩
 | none=>d

end DateTime

lemma bind_ok {ε α β:Type}{x:Except ε α}{f:α→Except ε β}{b:β} :
 (x >>= f)=.ok b ↔ ∃a,x=.ok a ∧ f a=.ok b:=by
 cases x <;> simp[Bind.bind,Except.bind]

/-- A decoded JSON value. `null` is Python's `None`; a number keeps its literal. -/
inductive Json where
 | null
 | bool (b:Bool)
 | num (literal:String)
 | str (s:String)
 | arr (items:List Json)
 | obj (fields:List (String × Json))

abbrev Payload:=List (String × Json)

namespace Payload

def has (p:Payload)(key:String):Bool:=p.any (fun f=>f.1==key)

/-- `payload.get(key)`. -/
def get (p:Payload)(key:String):Json:=((p.find? (fun f=>f.1==key)).map Prod.snd).getD .null

/-- `set(payload) - allowed` is empty. -/
def within (p:Payload)(allowed:List String):Bool:=p.all (fun f=>allowed.contains f.1)

end Payload

end Kivou.PythonValues
