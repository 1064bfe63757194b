import Mathlib.Tactic.Common

set_option autoImplicit false

/-! What a table column does to a value: `write` is what the database keeps of it, `read` what the
reader makes of that, and `view` the part of a value that readers compare. -/
namespace Kivou.Columns

structure Column (α:Type) where
 (write read:α→Option α)
 view:α→α

def whenPresent {α β:Type}(check:α→Option β):Option α→Option (Option β)
 | none=>some none
 | some a=>(check a).map some

lemma whenPresent_idem {α:Type}{check:α→Option α} (idem:∀ {a b},check a=some b→check b=some b)
 {x y:Option α}(h:whenPresent check x=some y):whenPresent check y=some y:=by
 cases x with
 | none=>cases h;rfl
 | some a =>
  simp only[whenPresent,Option.map_eq_some_iff] at h
  obtain ⟨b,hb,rfl⟩:=h
  simp[whenPresent,idem hb]

namespace Column
variable {α:Type}

def nullable (c:Column α):Column (Option α):=
 ⟨whenPresent c.write,whenPresent c.read,Option.map c.view⟩

def Reads (c:Column α)(a b:α):Prop:=∀t,c.write a=some t→∃d,c.read t=some d ∧ c.view d=c.view b

def Stable (c:Column α):Prop:=∀a t b,c.write a=some t→c.read t=some b→c.Reads b b

variable {c:Column α}

lemma Reads.none:c.nullable.Reads none none:=by
 intro t h
 cases h
 exact ⟨_,rfl,rfl⟩

lemma Reads.some {a b:α}(h:c.Reads a b):c.nullable.Reads (some a) (some b):=by
 intro t ht
 simp only[nullable,whenPresent,Option.map_eq_some_iff] at ht
 obtain ⟨u,hu,rfl⟩:=ht
 obtain ⟨d,hd,hv⟩:=h u hu
 exact ⟨Option.some d,by simp[nullable,whenPresent,hd],by simp[nullable,hv]⟩

lemma Reads.trans {a b d:α}(h:c.Reads a b)(hv:c.view b=c.view d):c.Reads a d:=by
 intro t ht
 obtain ⟨e,he,hb⟩:=h t ht
 exact ⟨e,he,hb.trans hv⟩

/-- `a or b` reads as its parts do. -/
lemma Reads.or {a a' b b':Option α}(ha:c.nullable.Reads a a')(hb:c.nullable.Reads b b') :
 c.nullable.Reads (a.or b) (a'.or b'):=by
 cases a with
 | none =>
  obtain ⟨d,hd,hv⟩:=ha Option.none rfl
  cases hd
  cases a' with
  | none=>exact hb
  | some=>simp[Column.nullable] at hv
 | some a =>
  intro t ht
  change c.nullable.write (Option.some a)=Option.some t at ht
  obtain ⟨d,hd,hv⟩:=ha t ht
  cases a' with
  | some=>exact ⟨d,hd,hv⟩
  | none =>
   -- A present value that was kept is read as present.
   simp only[Column.nullable,whenPresent,Option.map_eq_some_iff] at ht
   obtain ⟨u,-,rfl⟩:=ht
   simp only[Column.nullable,whenPresent,Option.map_eq_some_iff] at hd
   obtain ⟨e,-,rfl⟩:=hd
   simp[Column.nullable] at hv

lemma Stable.nullable (h:c.Stable):c.nullable.Stable:=by
 intro a t b ha hb
 cases a with
 | none=>cases ha;cases hb;exact .none
 | some a =>
  simp only[Column.nullable,whenPresent,Option.map_eq_some_iff] at ha
  obtain ⟨u,hu,rfl⟩:=ha
  simp only[Column.nullable,whenPresent,Option.map_eq_some_iff] at hb
  obtain ⟨d,hd,rfl⟩:=hb
  exact (h a u d hu hd).some

lemma Stable.reread (h:c.Stable){a b t:α}(hr:c.Reads a b)(ht:c.write a=some t) :
 ∃d,c.read t=some d ∧ c.view d=c.view b ∧ c.Reads d b:=by
 obtain ⟨d,hd,hv⟩:=hr t ht
 exact ⟨d,hd,hv,(h a t d ht hd).trans hv⟩

end Column

end Kivou.Columns
