import Mathlib.Algebra.BigOperators.Group.Finset.Basic
import Kivou.Runs

set_option autoImplicit false

/-! Each step has a cost, a state what it has paid for and a potential: what is paid for and not
spent yet. -/
namespace Kivou.Potentials
universe u v
variable {σ:Type u}{ι:Type v}(step:σ→ι→σ)

def spent (cost:σ→ι→ℕ):σ→List ι→ℕ
 | _,[]=>0
 | s,i::is=>cost s i+spent cost (step s i) is

lemma spent_append (cost:σ→ι→ℕ)(s:σ)(is js:List ι) :
 spent step cost s (is++js)=spent step cost s is+spent step cost (is.foldl step s) js:=by
 induction is generalizing s with
 | nil=>exact (Nat.zero_add _).symm
 | cons i is ih =>
  change cost s i+spent step cost (step s i) (is++js)=_
  rw[ih,←Nat.add_assoc]
  rfl

structure Pays (cost:σ→ι→ℕ)(paid potential:σ→ℕ)(s:σ)(i:ι):Prop where
 spends:cost s i≤potential s
 pays:cost s i+potential (step s i)+paid s≤potential s+paid (step s i)

variable {step}{cost:σ→ι→ℕ}{paid potential:σ→ℕ}{Inv:σ→Prop}

lemma spent_potential (kept:∀s i,Inv s→Inv (step s i))
 (pays:∀s i,Inv s→Pays step cost paid potential s i){s:σ}(start:Inv s)
 (is:List ι):spent step cost s is+potential (is.foldl step s)+paid s ≤
  potential s+paid (is.foldl step s):=by
 induction is generalizing s with
 | nil =>
  change 0+potential s+paid s≤potential s+paid s
  omega
 | cons i is ih =>
  have first:=(pays s i start).pays
  have rest:=ih (kept s i start)
  change cost s i+spent step cost (step s i) is+potential (is.foldl step (step s i))+paid s ≤
   potential s+paid (is.foldl step (step s i))
  omega

lemma spent_le_paid (kept:∀s i,Inv s→Inv (step s i))
 (pays:∀s i,Inv s→Pays step cost paid potential s i){s:σ}(start:Inv s)
 (empty:potential s=0)(is:List ι)(i:ι) :
 spent step cost s (is++[i])+paid s≤paid (is.foldl step s):=by
 have before:=spent_potential kept pays start is
 have invariant:Inv (is.foldl step s):=Runs.invariant Inv kept is start
 have next:=(pays (is.foldl step s) i invariant).spends
 rw[spent_append]
 change spent step cost s is+(cost (is.foldl step s) i+0)+paid s≤_
 omega

lemma sum_range_change {n k:ℕ}(less:k<n){f g:ℕ→ℕ}(same:∀l,l≠k → g l=f l) :
 ∑ l∈Finset.range n,g l+f k=∑ l∈Finset.range n,f l+g k:=by
 have mem:k∈Finset.range n:=Finset.mem_range.mpr less
 have rest:∑ l∈(Finset.range n).erase k,g l=∑ l∈(Finset.range n).erase k,f l:=
  Finset.sum_congr rfl fun l there=>same l (Finset.ne_of_mem_erase there)
 rw[←Finset.add_sum_erase _ g mem,←Finset.add_sum_erase _ f mem,rest]
 omega

end Kivou.Potentials
