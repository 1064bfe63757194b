import Kivou.DecpCycle

set_option autoImplicit false

/-! `_safe_windows` halves an interval of days until the provider counts less than its ceiling in
each part. -/
namespace Kivou.DecpCycle
open Calendar StoredCursors

/-- A `DecpCursor` with an end, which never precedes its start. -/
structure Window where
 (since through:Day)
 ordered:since.ordinal≤through.ordinal

namespace Window

def Contains (w:Window)(day:Day):Prop:=w.since.ordinal≤day.ordinal ∧ day.ordinal≤w.through.ordinal

def days (w:Window):ℕ:=(w.through.ordinal-w.since.ordinal).toNat

lemma isDate_of_contains (w:Window){n:ℤ}(low:w.since.ordinal≤n)
 (high:n≤w.through.ordinal):isDate n=true:=by
 have first:=w.since.inRange
 have last:=w.through.inRange
 simp only[isDate,Bool.and_eq_true,decide_eq_true_eq] at first last ⊢
 omega

def midpoint (w:Window):Day where
 ordinal:=w.since.ordinal+(w.through.ordinal-w.since.ordinal)/2
 inRange:=w.isDate_of_contains (by have:=w.ordered;omega) (by have:=w.ordered;omega)

lemma midpoint_bounds (w:Window)(wide:w.since≠w.through) :
 w.since.ordinal≤w.midpoint.ordinal ∧ w.midpoint.ordinal<w.through.ordinal:=by
 have apart:w.since.ordinal≠w.through.ordinal:=fun same=>wide (Option.some.inj
  ((Day.of_ordinal _).symm.trans ((congrArg Day.of same).trans (Day.of_ordinal _))))
 have ordered:=w.ordered
 change _≤w.since.ordinal+(w.through.ordinal-w.since.ordinal)/2 ∧
  w.since.ordinal+(w.through.ordinal-w.since.ordinal)/2<_
 omega

def first (w:Window)(wide:w.since≠w.through):Window:=⟨w.since,w.midpoint,(w.midpoint_bounds wide).1⟩

def second (w:Window)(wide:w.since≠w.through):Window where
 since:=⟨w.midpoint.ordinal+1,
  w.isDate_of_contains (by have:=w.midpoint_bounds wide;omega) (w.midpoint_bounds wide).2⟩
 through:=w.through
 ordered:=(w.midpoint_bounds wide).2

variable {w:Window}(wide:w.since≠w.through)

lemma first_days:(w.first wide).days<w.days:=by
 have bounds:=w.midpoint_bounds wide
 change (w.midpoint.ordinal-w.since.ordinal).toNat<(w.through.ordinal-w.since.ordinal).toNat
 omega

lemma second_days:(w.second wide).days<w.days:=by
 have bounds:=w.midpoint_bounds wide
 change (w.through.ordinal-(w.midpoint.ordinal+1)).toNat <(w.through.ordinal-w.since.ordinal).toNat
 omega

lemma contains_iff_halves (day:Day) :
 w.Contains day ↔ (w.first wide).Contains day ∨ (w.second wide).Contains day:=by
 have bounds:=w.midpoint_bounds wide
 change _ ↔ (w.since.ordinal≤day.ordinal ∧ day.ordinal≤w.midpoint.ordinal) ∨
  (w.midpoint.ordinal+1≤day.ordinal ∧ day.ordinal≤w.through.ordinal)
 unfold Contains
 omega

lemma halves_apart {day later:Day}(left:(w.first wide).Contains day)
 (right:(w.second wide).Contains later):day.ordinal<later.ordinal:=
 Int.lt_of_le_of_lt left.2 (Int.lt_of_lt_of_le (Int.lt_succ _) right.1)

lemma contains_since (w:Window):w.Contains w.since:=⟨Int.le_refl _,w.ordered⟩
lemma contains_through (w:Window):w.Contains w.through:=⟨w.ordered,Int.le_refl _⟩

end Window

/-- What a generator has yielded when it ends or raises. -/
structure Yielded where
 windows:List (Window × ℕ)
 failure:Option Failure

/-- `yield from`, twice. -/
def Yielded.andThen (left right:Yielded):Yielded:=
 if left.failure.isSome then left else ⟨left.windows++right.windows,right.failure⟩

def safeWindows (countContracts:Day→Day→ℕ)(w:Window):Yielded:=
 let total:=countContracts w.since w.through
 if total<resultCeiling then ⟨[(w,total)],none⟩
 else if wide:w.since=w.through then
  ⟨[],some (.windowLimit ("DECP day "++w.since.isoformat++" contains "++toString total ++
   " records at the provider ceiling"))⟩
 else
  (safeWindows countContracts (w.first wide)).andThen (safeWindows countContracts (w.second wide))
termination_by w.days
decreasing_by
 · exact Window.first_days wide
 · exact Window.second_days wide

section
variable (countContracts:Day→Day→ℕ)

/-- The windows stand in date order, no day is in two of them, and their days are those of `w`. -/
structure Tiles (w:Window)(windows:List (Window × ℕ)):Prop where
 apart:windows.Pairwise fun v v'=>v.1.through.ordinal<v'.1.since.ordinal
 covers:∀day,(∃v∈windows,v.1.Contains day) ↔ w.Contains day

def Counted (windows:List (Window × ℕ)):Prop:=
 ∀v∈windows,v.2=countContracts v.1.since v.1.through ∧ v.2<resultCeiling

variable {countContracts}{w:Window}{xs ys:List (Window × ℕ)}

lemma Tiles.append {wide:w.since≠w.through}(left:Tiles (w.first wide) xs)
 (right:Tiles (w.second wide) ys):Tiles w (xs++ys) where
 apart:=by
  refine List.pairwise_append.mpr ⟨left.apart,right.apart,fun v before v' after=>?_⟩
  have ends:=(left.covers v.1.through).mp ⟨v,before,v.1.contains_through⟩
  have starts:=(right.covers v'.1.since).mp ⟨v',after,v'.1.contains_since⟩
  exact Window.halves_apart wide ends starts
 covers day:=by
  rw[Window.contains_iff_halves wide,←left.covers,←right.covers]
  simp only[List.mem_append,or_and_right,exists_or]

lemma Tiles.single (total:ℕ):Tiles w [(w,total)] where
 apart:=List.pairwise_singleton _ _
 covers day:=by simp only[List.mem_singleton,exists_eq_left]

/-- Each half is an interval of its own, and a day that stops one of them is a day of both. -/
theorem safeWindows_sound (countContracts:Day→Day→ℕ)(w:Window) :
  Counted countContracts (safeWindows countContracts w).windows ∧
   match (safeWindows countContracts w).failure with
   | none=>Tiles w (safeWindows countContracts w).windows
   | some _=>∃day,w.Contains day ∧ resultCeiling≤countContracts day day:=by
 induction w using safeWindows.induct countContracts with
 | case1 w total below =>
  rw[safeWindows,if_pos below]
  exact ⟨fun v only=>by rw[List.mem_singleton.mp only];exact ⟨rfl,below⟩,Tiles.single total⟩
 | case2 w total full same =>
  rw[safeWindows,if_neg full,dif_pos same]
  refine ⟨nofun,w.since,w.contains_since,?_⟩
  have most:=Nat.le_of_not_lt full
  rwa[show total=countContracts w.since w.through from rfl,←same] at most
 | case3 w total full wide left right =>
  rw[safeWindows,if_neg full,dif_neg wide,Yielded.andThen]
  cases stopped:(safeWindows countContracts (w.first wide)).failure with
  | some failure =>
   rw[stopped] at left
   obtain ⟨counted,day,inside,most⟩:=left
   rw[Option.isSome_some,if_pos rfl,stopped]
   exact ⟨counted,day,(Window.contains_iff_halves wide day).mpr (.inl inside),most⟩
  | none =>
   rw[stopped] at left
   rw[Option.isSome_none,if_neg Bool.false_ne_true]
   refine ⟨fun v listed=>(List.mem_append.mp listed).elim (left.1 v) (right.1 v),?_⟩
   obtain ⟨-,right⟩:=right
   change match (safeWindows countContracts (w.second wide)).failure with
    | none=>_
    | some _=>_
   split at right
   · exact left.2.append right
   · obtain ⟨day,inside,most⟩:=right
     exact ⟨day,(Window.contains_iff_halves wide day).mpr (.inr inside),most⟩

end

end Kivou.DecpCycle
