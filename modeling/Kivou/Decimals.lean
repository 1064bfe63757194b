import Mathlib.Algebra.Order.Round
import Mathlib.Data.Int.Log
import Mathlib.Data.Rat.Floor
import Mathlib.Tactic.FieldSimp
import Mathlib.Tactic.Linarith
import Mathlib.Tactic.Positivity

set_option autoImplicit false

/-! `NUMERIC(precision, scale)`: values with `scale` decimals, to which a written value is rounded,
halves away from zero, and refused when its integer part needs more than `precision - scale` digits.
-/
namespace Kivou.Decimals

def unit (scale:ℕ):ℚ:=1/10^scale

def OnScale (scale:ℕ)(q:ℚ):Prop:=∃k:ℤ,q=k*unit scale

def roundTo (scale:ℕ)(q:ℚ):ℚ:=
 if 0≤q then ⌊q*10^scale+1/2⌋ * unit scale
 else -(⌊-q*10^scale+1/2⌋ * unit scale)

def numeric (precision scale:ℕ)(q:ℚ):Option ℚ:=
 if |roundTo scale q| < 10^(precision-scale) then some (roundTo scale q) else none

variable {s:ℕ}{q r:ℚ}

lemma unit_pos (s:ℕ):0<unit s:=by
 unfold unit
 positivity

lemma unit_mul (s:ℕ):unit s*10^s=1:=by
 unfold unit
 field_simp

lemma onScale_roundTo (s:ℕ)(q:ℚ):OnScale s (roundTo s q):=by
 unfold roundTo
 split
 · exact ⟨_,rfl⟩
 · exact ⟨-⌊-q*10^s+1/2⌋,by push_cast;ring⟩

lemma floor_half (k:ℤ):⌊(k:ℚ)+1/2⌋=k:=by
 rw[Int.floor_eq_iff]
 constructor <;> linarith

lemma roundTo_eq_self (h:OnScale s q):roundTo s q=q:=by
 obtain ⟨k,rfl⟩:=h
 have scaled:(k:ℚ)*unit s*10^s=k:=by rw[mul_assoc,unit_mul,mul_one]
 unfold roundTo
 split
 · rw[scaled,floor_half]
 · have negated:-((k:ℚ)*unit s)*10^s=((-k:ℤ):ℚ):=by
    push_cast
    rw[neg_mul,scaled]
   rw[negated,floor_half]
   push_cast
   ring

lemma roundTo_roundTo (s:ℕ)(q:ℚ):roundTo s (roundTo s q)=roundTo s q:=
 roundTo_eq_self (onScale_roundTo s q)

lemma roundTo_nonneg (h:0≤q):0≤roundTo s q:=by
 have whole:(0:ℤ)≤⌊q*10^s+1/2⌋:=Int.floor_nonneg.mpr (by positivity)
 rw[roundTo,if_pos h]
 exact mul_nonneg (by exact_mod_cast whole) (unit_pos s).le

lemma roundTo_of_nonneg (h:0≤q):roundTo s q=⌊q*10^s+1/2⌋ * unit s:=by
 rw[roundTo,if_pos h]

lemma roundTo_le_of_lt (hq:0≤q)(hr:OnScale s r)(h:q<r+unit s/2) : roundTo s q≤r:=by
 obtain ⟨k,rfl⟩:=hr
 have scaled:q*10^s<k+1/2:=by
  calc q*10^s<(k*unit s+unit s/2)*10^s:=
     mul_lt_mul_of_pos_right h (by positivity)
   _=(k+1/2)*(unit s*10^s):=by ring
   _=k+1/2:=by rw[unit_mul,mul_one]
 have whole:⌊q*10^s+1/2⌋≤k:=by
  rw[←Int.lt_add_one_iff,Int.floor_lt]
  push_cast
  linarith
 rw[roundTo_of_nonneg hq]
 exact mul_le_mul_of_nonneg_right (by exact_mod_cast whole) (unit_pos s).le

lemma roundTo_le (hq:0≤q)(hr:OnScale s r)(h:q≤r):roundTo s q≤r:=
 roundTo_le_of_lt hq hr (by linarith [unit_pos s])

lemma le_roundTo (hr:OnScale s r)(h0:0≤r)(h:r≤q):r≤roundTo s q:=by
 obtain ⟨k,rfl⟩:=hr
 have scaled:(k:ℚ)≤q*10^s:=by
  calc (k:ℚ)=k*unit s*10^s:=by rw[mul_assoc,unit_mul,mul_one]
   _≤q*10^s:=mul_le_mul_of_nonneg_right h (by positivity)
 have whole:k≤⌊q*10^s+1/2⌋:=Int.le_floor.mpr (by linarith)
 rw[roundTo_of_nonneg (h0.trans h)]
 exact mul_le_mul_of_nonneg_right (by exact_mod_cast whole) (unit_pos s).le

lemma roundTo_add (hr:OnScale s r)(h0:0≤r)(hq:0≤q) : roundTo s (r+q)=r+roundTo s q:=by
 obtain ⟨k,rfl⟩:=hr
 have scaled:((k:ℚ)*unit s+q)*10^s+1/2=(q*10^s+1/2)+k:=by
  rw[add_mul,mul_assoc,unit_mul,mul_one]
  ring
 rw[roundTo_of_nonneg (add_nonneg h0 hq),roundTo_of_nonneg hq,scaled,Int.floor_add_intCast]
 push_cast
 ring

lemma OnScale.add (hq:OnScale s q)(hr:OnScale s r):OnScale s (q+r):=by
 obtain ⟨k,rfl⟩:=hq
 obtain ⟨m,rfl⟩:=hr
 exact ⟨k+m,by push_cast;ring⟩

lemma OnScale.sub (hq:OnScale s q)(hr:OnScale s r):OnScale s (q-r):=by
 obtain ⟨k,rfl⟩:=hq
 obtain ⟨m,rfl⟩:=hr
 exact ⟨k-m,by push_cast;ring⟩

lemma OnScale.mono {t:ℕ}(h:OnScale s q)(hst:s≤t):OnScale t q:=by
 obtain ⟨k,rfl⟩:=h
 refine ⟨k*10^(t-s),?_⟩
 have split:(10:ℚ)^t=10^(t-s)*10^s:=by rw[←pow_add,Nat.sub_add_cancel hst]
 unfold unit
 rw[split]
 push_cast
 field_simp

lemma onScale_zero (s:ℕ):OnScale s 0:=⟨0,by simp⟩

lemma onScale_pow (s m:ℕ):OnScale s (10^m):=by
 refine ⟨10^m*10^s,?_⟩
 push_cast
 rw[mul_assoc,mul_comm (10^s) (unit s),unit_mul,mul_one]

lemma onScale_one (s:ℕ):OnScale s 1:=⟨10^s,by push_cast;rw[mul_comm,unit_mul]⟩

lemma numeric_eq {p:ℕ}(h:numeric p s q=some r):r=roundTo s q:=by
 simp only[numeric,Option.ite_none_right_eq_some,Option.some.injEq] at h
 exact h.2.symm

lemma numeric_lt {p:ℕ}(h:numeric p s q=some r):r<10^(p-s):=by
 have he:=numeric_eq h
 simp only[numeric,Option.ite_none_right_eq_some] at h
 rw[he]
 exact (le_abs_self _).trans_lt h.1

def roundEven (q:ℚ):ℤ:=
 let rest:=q - ⌊q⌋
 if rest<1/2 then ⌊q⌋
 else if 1/2<rest then ⌊q⌋ + 1
 else if ⌊q⌋ % 2=0 then ⌊q⌋ else ⌊q⌋ + 1

/-- The decimal exponent of the last of `digits` significant digits, negated. -/
def places (digits:ℕ)(q:ℚ):ℤ:=digits-1-Int.log 10 |q|

def significant (digits:ℕ)(q:ℚ):ℚ:=
 if q=0 then 0 else roundEven (q*10^places digits q)*10^(-places digits q)

lemma roundEven_intCast (k:ℤ):roundEven k=k:=by
 simp[roundEven]

lemma le_roundEven {n:ℤ}(h:(n:ℚ)≤q):n≤roundEven q:=by
 have floor:n≤⌊q⌋:=Int.le_floor.mpr h
 unfold roundEven
 dsimp only
 split_ifs <;> omega

lemma le_roundEven_add_half (q:ℚ):q≤roundEven q+1/2:=by
 have below:=Int.lt_floor_add_one q
 unfold roundEven
 dsimp only
 split_ifs <;> push_cast <;> linarith

lemma roundEven_le_add_half (q:ℚ):roundEven q≤q+1/2:=by
 have above:=Int.floor_le q
 unfold roundEven
 dsimp only
 split_ifs <;> push_cast <;> linarith

variable {d m t:ℕ}

lemma places_ge (h0:0<q)(h:q<10^m)(hm:m≤d):((d-m:ℕ):ℤ)≤places d q:=by
 have log:Int.log 10 q < m:=by
  rw[←Int.lt_zpow_iff_log_lt (by norm_num) h0]
  exact_mod_cast h
 unfold places
 rw[abs_of_pos h0]
 omega

lemma significant_eq_self (h0:0≤q)(h:q<10^m)(ht:OnScale t q)(fits:t+m≤d) : significant d q=q:=by
 rcases h0.eq_or_lt with rfl|pos
 · simp[significant]
 obtain ⟨k,hk⟩:=ht
 have enough:((d-m:ℕ):ℤ)≤places d q:=places_ge pos h (by omega)
 obtain ⟨n,hn⟩:∃n:ℕ,places d q=t+n:=⟨(places d q-t).toNat,by omega⟩
 have whole:q*10^places d q=((k*10^n:ℤ):ℚ):=by
  rw[hn,zpow_add₀ (by norm_num),zpow_natCast,zpow_natCast,hk]
  push_cast
  rw[mul_assoc (k:ℚ),←mul_assoc (unit t),unit_mul,one_mul]
 rw[significant,if_neg pos.ne',whole,roundEven_intCast,←whole,mul_assoc,
  ←zpow_add₀ (by norm_num),add_neg_cancel,zpow_zero,mul_one]

lemma le_significant (hd:1≤d)(h:10^m≤q):10^m ≤ significant d q:=by
 have pos:0<q:=lt_of_lt_of_le (by positivity) h
 have log:(m:ℤ)≤Int.log 10 q:=by
  have mono:=Int.log_mono_right (b:=10) (show (0:ℚ)<10^m by positivity) h
  have known:Int.log 10 ((10:ℚ)^m)=m:=by
   have:=Int.log_zpow (R:=ℚ) (b:=10) (by norm_num) m
   rwa[zpow_natCast,Nat.cast_ofNat] at this
  rwa[known] at mono
 have lead:(10:ℚ)^Int.log 10 q≤q:=by
  exact_mod_cast Int.zpow_log_le_self (b:=10) (by norm_num) pos
 have scaled:((10^(d-1):ℤ):ℚ)≤q*10^places d q:=by
  calc ((10^(d-1):ℤ):ℚ)=10^Int.log 10 q*10^places d q:=by
        rw[←zpow_add₀ (by norm_num),places,abs_of_pos pos]
        have exponent:Int.log 10 q+(d-1-Int.log 10 q)=((d-1:ℕ):ℤ):=by omega
        rw[exponent,zpow_natCast]
        push_cast
        rfl
   _≤q*10^places d q:=mul_le_mul_of_nonneg_right lead (zpow_pos (by norm_num) _).le
 have whole:=le_roundEven scaled
 rw[significant,if_neg pos.ne']
 calc (10:ℚ)^m≤10^Int.log 10 q:=by
       rw[←zpow_natCast]
       exact zpow_le_zpow_right₀ (by norm_num) log
  _=((10^(d-1):ℤ):ℚ)*10^(-places d q):=by
    rw[places,abs_of_pos pos]
    push_cast
    rw[←zpow_natCast,←zpow_add₀ (by norm_num)]
    congr 1
    omega
  _≤roundEven (q*10^places d q)*10^(-places d q):=
    mul_le_mul_of_nonneg_right (by exact_mod_cast whole) (zpow_pos (by norm_num) _).le

lemma significant_nonneg (h:0≤q):0 ≤ significant d q:=by
 unfold significant
 split
 · exact le_refl 0
 · have scaled:((0:ℤ):ℚ)≤q*10^places d q:=by
    push_cast
    exact mul_nonneg h (zpow_pos (by norm_num) _).le
   have whole:(0:ℚ)≤roundEven (q*10^places d q):=by exact_mod_cast le_roundEven scaled
   exact mul_nonneg whole (zpow_pos (by norm_num) _).le

lemma zpow_places_le (pos:0<q)(h:q<10^m)(hm:m≤d) : (10:ℚ)^(-places d q)≤unit (d-m):=by
 have enough:=places_ge pos h hm
 rw[unit,one_div,←zpow_natCast,←zpow_neg]
 exact zpow_le_zpow_right₀ (by norm_num) (by omega)

lemma scaled_places (q:ℚ):q*10^places d q*10^(-places d q)=q:=by
 rw[mul_assoc,←zpow_add₀ (by norm_num),add_neg_cancel,zpow_zero,mul_one]

lemma le_significant_add (h0:0≤q)(h:q<10^m)(hm:m≤d) : q ≤ significant d q+unit (d-m)/2:=by
 rcases h0.eq_or_lt with rfl|pos
 · simp only[significant,if_pos,zero_add]
   exact (half_pos (unit_pos _)).le
 have half:=le_roundEven_add_half (q*10^places d q)
 have small:=zpow_places_le pos h hm
 rw[significant,if_neg pos.ne']
 calc q=q*10^places d q*10^(-places d q):=(scaled_places q).symm
  _≤(roundEven (q*10^places d q)+1/2)*10^(-places d q):=
    mul_le_mul_of_nonneg_right half (zpow_pos (by norm_num) _).le
  _=roundEven (q*10^places d q)*10^(-places d q)+10^(-places d q)/2:=by ring
  _≤roundEven (q*10^places d q)*10^(-places d q)+unit (d-m)/2:=by linarith

lemma significant_le_add (h0:0≤q)(h:q<10^m)(hm:m≤d) : significant d q≤q+unit (d-m)/2:=by
 rcases h0.eq_or_lt with rfl|pos
 · simp only[significant,if_pos,zero_add]
   exact (half_pos (unit_pos _)).le
 have half:=roundEven_le_add_half (q*10^places d q)
 have small:=zpow_places_le pos h hm
 rw[significant,if_neg pos.ne']
 calc roundEven (q*10^places d q)*10^(-places d q)
   ≤ (q*10^places d q+1/2)*10^(-places d q):=
    mul_le_mul_of_nonneg_right half (zpow_pos (by norm_num) _).le
  _=q*10^places d q*10^(-places d q)+10^(-places d q)/2:=by ring
  _≤q+unit (d-m)/2:=by rw[scaled_places];linarith

end Kivou.Decimals
