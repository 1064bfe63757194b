import Mathlib.Data.List.Sort
import Mathlib.Order.Basic

set_option autoImplicit false

/-! Rows with distinct keys are listed in the order of their keys, page by page. -/
namespace Kivou.Keyset

section ordered

variable {α κ:Type}[LinearOrder κ](key:α→κ)

/-- `ORDER BY key`. -/
def ordered (rows:List α):List α:=rows.mergeSort fun s t=>decide (key s≤key t)

variable {key}{rows:List α}

lemma mem_ordered {s:α}:s∈ordered key rows ↔ s∈rows:=(List.mergeSort_perm rows _).mem_iff

lemma ordered_strict (distinct:(rows.map key).Nodup) :
 (ordered key rows).Pairwise fun s t=>key s<key t:=by
 have sorted:(ordered key rows).Pairwise fun s t=>key s≤key t:=by
  have trans:∀s t u,decide (key s≤key t)=true→decide (key t≤key u)=true →
    decide (key s≤key u)=true:=fun s t u st tu=>
   decide_eq_true (le_trans (of_decide_eq_true st) (of_decide_eq_true tu))
  have total:∀s t,(decide (key s≤key t)||decide (key t≤key s))=true:=fun s t=>by
   simpa using le_total (key s) (key t)
  exact (List.pairwise_mergeSort trans total rows).imp of_decide_eq_true
 have apart:(ordered key rows).Pairwise fun s t=>key s≠key t:=
  List.pairwise_map.mp (((List.mergeSort_perm rows _).map key).nodup_iff.mpr distinct)
 exact (sorted.and apart).imp fun both=>lt_of_le_of_ne both.1 both.2

lemma ordered_filter (distinct:(rows.map key).Nodup)(p:α→Bool) :
 ordered key (rows.filter p)=(ordered key rows).filter p:=by
 have fewer:((rows.filter p).map key).Nodup:=distinct.sublist (List.filter_sublist.map key)
 have asymm:∀s t,s∈ordered key (rows.filter p)→t∈(ordered key rows).filter p →
   key s<key t→key t<key s→s=t:=fun s t _ _ lt gt=>absurd gt (lt_asymm lt)
 exact List.Perm.eq_of_pairwise asymm (ordered_strict fewer)
  ((ordered_strict distinct).sublist List.filter_sublist)
  ((List.mergeSort_perm _ _).trans ((List.mergeSort_perm rows _).filter p).symm)

end ordered

section pages

variable {α β κ:Type}(after:κ→α→Bool)(mark:α→κ)(keep:α→Option β)

def remaining (rows:List α):Option κ→List α
 | none=>rows
 | some c=>rows.filter (after c)

structure Marks (before:α→α→Prop)(rows:List α):Prop where
 strict:rows.Pairwise before
 asymm:∀s t,before s t→¬before t s
 tells:∀s∈rows,∀t∈rows,after (mark s) t=true ↔ before s t

inductive Page (rest:List α):List β→Option κ→Prop
 | last:Page rest (rest.filterMap keep) none
 | cut {front back:List α}{s:α}:rest=front++s::back →
   Page rest ((front++[s]).filterMap keep) (some (mark s))

variable {after mark keep}{before:α→α→Prop}{rows:List α}

lemma Marks.remaining_mark (marks:Marks after mark before rows){front back:List α}{s:α}
 (split:rows=front++s::back):remaining after rows (some (mark s))=back:=by
 have here:s∈rows:=split ▸ List.mem_append_right front List.mem_cons_self
 have order:=marks.strict
 rw[split,List.pairwise_append,List.pairwise_cons] at order
 obtain ⟨-,⟨behind,-⟩,ahead⟩:=order
 have self:after (mark s) s=false:=by
  refine Bool.eq_false_iff.mpr fun is=>?_
  have loop:=(marks.tells s here s here).mp is
  exact marks.asymm s s loop loop
 have none':front.filter (after (mark s))=[]:=by
  refine List.filter_eq_nil_iff.mpr fun t mem is=>?_
  have there:t∈rows:=split ▸ List.mem_append_left _ mem
  exact marks.asymm t s (ahead t mem s List.mem_cons_self) ((marks.tells s here t there).mp is)
 have all:back.filter (after (mark s))=back:=by
  refine List.filter_eq_self.mpr fun t mem=>?_
  have there:t∈rows:=split ▸ List.mem_append_right front (List.mem_cons_of_mem s mem)
  exact (marks.tells s here t there).mpr (behind t mem)
 rw[remaining,split,List.filter_append,none',List.nil_append,
  List.filter_cons_of_neg (by rw[self];exact Bool.false_ne_true),all]

lemma Marks.remaining_suffix (marks:Marks after mark before rows){cursor:Option κ}
 (known:∀c∈cursor,∃s∈rows,c=mark s) :
 ∃front,rows=front++remaining after rows cursor:=by
 cases cursor with
 | none=>exact ⟨[],rfl⟩
 | some c =>
  obtain ⟨s,here,rfl⟩:=known c rfl
  obtain ⟨front,back,split⟩:=List.append_of_mem here
  refine ⟨front++[s],?_⟩
  rw[marks.remaining_mark split,List.append_assoc]
  exact split

variable {ε π:Type}

def walk (fetch:Option κ→Except ε π)(next:π→Option (Option κ)) : ℕ→Option κ→Except ε (List π)
 | 0,_=>.ok []
 | n+1,cursor=>do
  let page ←fetch cursor
  match next page with
  | none=>.ok [page]
  | some cursor=>do
   let pages ←walk fetch next n cursor
   .ok (page::pages)

def Complete (next:π→Option (Option κ))(pages:List π):Prop:=
 ∃page,pages.getLast?=some page ∧ next page=none

lemma walk_from {fetch:Option κ→Except ε π}{next:π→Option (Option κ)}
 {items:π→List β}(marks:Marks after mark before rows)
 (serves:∀cursor,(∀c∈cursor,∃s∈rows,c=mark s)→∃page more,
  fetch cursor=.ok page ∧ next page=more.map some ∧
  Page mark keep (remaining after rows cursor) (items page) more)
 (n:ℕ)(cursor:Option κ)(known:∀c∈cursor,∃s∈rows,c=mark s){read:List α}
 (split:rows=read++remaining after rows cursor)
 (enough:(remaining after rows cursor).length<n) :
 ∃pages,walk fetch next n cursor=.ok pages ∧ Complete next pages ∧
  pages.flatMap items=(remaining after rows cursor).filterMap keep:=by
 induction n generalizing cursor read with
 | zero=>exact absurd enough (Nat.not_lt_zero _)
 | succ n ih =>
  obtain ⟨page,more,fetched,follows,served⟩:=serves cursor known
  generalize listed:items page=is at served
  cases served with
  | last =>
   refine ⟨[page],?_,⟨page,rfl,follows⟩,?_⟩
   · simp only[walk,fetched,bind,Except.bind,follows,Option.map_none]
   · rw[List.flatMap_singleton,listed]
  | @cut front back s left =>
   have whole:rows=(read++front)++s::back:=by
    rw[List.append_assoc,←left]
    exact split
   have after':=marks.remaining_mark whole
   have further:rows=(read++front++[s])++remaining after rows (some (mark s)):=by
    rw[after',List.append_assoc _ [s]]
    exact whole
   have fewer:(remaining after rows (some (mark s))).length<n:=by
    rw[left,List.length_append,List.length_cons] at enough
    rw[after']
    omega
   have here:s∈rows:=whole ▸ List.mem_append_right _ List.mem_cons_self
   obtain ⟨pages,walked,⟨final,last,ends⟩,rest⟩:=ih (some (mark s))
    (fun c is=>⟨s,here,(Option.some.inj is).symm⟩) further fewer
   refine ⟨page::pages,?_,⟨final,?_,ends⟩,?_⟩
   · simp only[walk,fetched,bind,Except.bind,follows,Option.map_some,walked]
   · cases pages with
     | nil=>cases last
     | cons first pages=>rw[List.getLast?_cons_cons,last]
   · rw[List.flatMap_cons,listed,rest,after',left,←List.filterMap_append,List.append_assoc]
     rfl

lemma walk_complete {fetch:Option κ→Except ε π}{next:π→Option (Option κ)}
 {items:π→List β}(marks:Marks after mark before rows)
 (serves:∀cursor,(∀c∈cursor,∃s∈rows,c=mark s)→∃page more,
  fetch cursor=.ok page ∧ next page=more.map some ∧
  Page mark keep (remaining after rows cursor) (items page) more) :
 ∃pages,walk fetch next (rows.length+1) none=.ok pages ∧ Complete next pages ∧
  pages.flatMap items=rows.filterMap keep:=
 walk_from marks serves _ none nofun (List.nil_append rows).symm (Nat.lt_succ_self _)

end pages

end Kivou.Keyset
