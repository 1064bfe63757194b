import Mathlib.Algebra.BigOperators.Group.List.Basic
import Mathlib.Data.List.Nodup
import Mathlib.Data.List.Perm.Subperm
import Mathlib.Tactic.Abel

set_option autoImplicit false

/-! A table is the list of its rows. A unique column is one whose values have no duplicates, and a
row is found by it. -/
namespace Kivou.Tables
variable {α κ:Type}

/-- `UPDATE ... SET f WHERE p`. -/
def update (p:α→Bool)(f:α→α)(rows:List α):List α:=rows.map (fun row=>if p row then f row else row)

variable {p:α→Bool}{f:α→α}{key:α→κ}{rows:List α}

lemma mem_update {x:α} :
 x∈update p f rows ↔ ∃row∈rows,(if p row then f row else row)=x:=List.mem_map

lemma map_key_update (h:∀row∈rows,p row=true→key (f row)=key row) :
 (update p f rows).map key=rows.map key:=by
 rw[update,List.map_map]
 refine List.map_congr_left fun row hr=>?_
 change key (if p row then f row else row)=key row
 split
 · exact h row hr ‹_›
 · rfl

lemma find?_update_where [BEq κ](kept:∀row,key (f row)=key row)(k:κ) :
 (update p f rows).find? (fun r=>key r==k) =
  (rows.find? (fun r=>key r==k)).map (fun r=>if p r then f r else r):=by
 have same:(fun r=>key r==k) ∘ (fun r=>if p r then f r else r)=fun r=>key r==k:=by
  funext r
  simp only[Function.comp_apply]
  split
  · rw[kept]
  · rfl
 rw[update,List.find?_map,same]

section
variable [BEq κ][LawfulBEq κ]

lemma find?_key {k:κ}{row:α}(h:rows.find? (fun r=>key r==k)=some row) : row∈rows ∧ key row=k:=
 ⟨List.mem_of_find?_eq_some h,by simpa using List.find?_some h⟩

lemma find?_of_mem (unique:(rows.map key).Nodup){row:α}(h:row∈rows) :
 rows.find? (fun r=>key r==key row)=some row:=by
 induction rows with
 | nil=>cases h
 | cons r rows ih =>
  simp only[List.map_cons,List.nodup_cons,List.mem_map,not_exists,not_and] at unique
  rcases List.mem_cons.mp h with rfl|hm
  · simp
  · have other:key r≠key row:=fun he=>unique.1 row hm he.symm
    rw[List.find?_cons_of_neg (by simpa using other)]
    exact ih unique.2 hm

/-- After an update of the rows with key `k`, only that key is found changed. -/
lemma find?_update_of [DecidableEq κ]{k:κ}(kept:∀row,key row=k→key (f row)=k) (j:κ) :
 (update (fun r=>key r==k) f rows).find? (fun r=>key r==j) =
  if j=k then (rows.find? (fun r=>key r==k)).map f
  else rows.find? (fun r=>key r==j):=by
 induction rows with
 | nil=>simp[update]
 | cons r rows ih =>
  have head:key (if key r==k then f r else r)=key r:=by
   split
   · rename_i same
     exact (kept r (beq_iff_eq.mp same)).trans (beq_iff_eq.mp same).symm
   · rfl
  change List.find? _ ((if key r==k then f r else r)::update _ f rows)=_
  by_cases hr:key r=j
  · rw[List.find?_cons_of_pos (by rw[head];exact beq_iff_eq.mpr hr)]
    subst hr
    by_cases hk:key r=k <;> simp[hk]
  · rw[List.find?_cons_of_neg (by rw[head];simpa using hr),ih]
    by_cases hj:j=k
    · subst hj
      simp[hr]
    · simp[hj,hr]

lemma find?_update [DecidableEq κ]{k:κ}(kept:∀row,key (f row)=key row)(j:κ) :
 (update (fun r=>key r==k) f rows).find? (fun r=>key r==j) =
  if j=k then (rows.find? (fun r=>key r==k)).map f
  else rows.find? (fun r=>key r==j):=
 find?_update_of (fun row same=>(kept row).trans same) j

lemma find?_append_fresh [DecidableEq κ]{row:α}(fresh:∀r∈rows,key r≠key row)(j:κ) :
 (rows++[row]).find? (fun r=>key r==j) =
  if j=key row then some row else rows.find? (fun r=>key r==j):=by
 rw[List.find?_append]
 by_cases hj:j=key row
 · subst hj
   have none:rows.find? (fun r=>key r==key row)=none:=by
    simpa[List.find?_eq_none] using fresh
   simp[none]
 · have other:key row≠j:=fun h=>hj h.symm
   simp[hj,other]

/-- Updating the one row with key `k` moves a column's total by that row's change. -/
lemma sum_update {M:Type}[AddCommGroup M](g:α→M)(unique:(rows.map key).Nodup) {row:α}(h:row∈rows) :
 ((update (fun r=>key r==key row) f rows).map g).sum =
  (rows.map g).sum-g row+g (f row):=by
 induction rows with
 | nil=>cases h
 | cons r rows ih =>
  simp only[List.map_cons,List.nodup_cons,List.mem_map,not_exists,not_and] at unique
  simp only[update,List.map_cons,List.sum_cons] at ih ⊢
  rcases List.mem_cons.mp h with rfl|hm
  · have rest:rows.map (fun r=>if key r==key row then f r else r)=rows:=by
     conv_rhs=>rw[←List.map_id rows]
     exact List.map_congr_left fun r hr=>by simp[unique.1 r hr]
    rw[rest]
    simp only[beq_self_eq_true,↓reduceIte]
    abel
  · have other:key r≠key row:=fun he=>unique.1 row hm he.symm
    rw[ih unique.2 hm]
    simp only[beq_eq_false_iff_ne.mpr other,Bool.false_eq_true,↓reduceIte]
    abel

/-- Updating the one row with key `k` moves a count by that row's change. -/
lemma countP_update (q:α→Bool)(unique:(rows.map key).Nodup){row:α}(h:row∈rows) :
 (update (fun r=>key r==key row) f rows).countP q+(if q row then 1 else 0) =
  rows.countP q+if q (f row) then 1 else 0:=by
 induction rows with
 | nil=>cases h
 | cons r rows ih =>
  simp only[List.map_cons,List.nodup_cons,List.mem_map,not_exists,not_and] at unique
  simp only[update,List.map_cons,List.countP_cons] at ih ⊢
  rcases List.mem_cons.mp h with rfl|hm
  · have rest:rows.map (fun r=>if key r==key row then f r else r)=rows:=by
     conv_rhs=>rw[←List.map_id rows]
     exact List.map_congr_left fun r hr=>by simp[unique.1 r hr]
    rw[rest]
    simp only[beq_self_eq_true,↓reduceIte]
    omega
  · have other:key r≠key row:=fun he=>unique.1 row hm he.symm
    have tail:=ih unique.2 hm
    simp only[beq_eq_false_iff_ne.mpr other,Bool.false_eq_true,↓reduceIte]
    omega

end

lemma countP_of_keys {ks:List κ}(unique:(rows.map key).Nodup)(distinct:ks.Nodup)
 (within:∀row∈rows,p row=true→key row∈ks)
 (found:∀k∈ks,∃row∈rows,p row=true ∧ key row=k):rows.countP p=ks.length:=by
 have same:((rows.filter p).map key).Perm ks:=by
  refine (List.perm_ext_iff_of_nodup (unique.sublist (List.filter_sublist.map key)) distinct).mpr ?_
  intro k
  constructor
  · intro mem
    obtain ⟨row,hr,rfl⟩:=List.mem_map.mp mem
    obtain ⟨there,hp⟩:=List.mem_filter.mp hr
    exact within row there hp
  · intro mem
    obtain ⟨row,there,hp,rfl⟩:=found k mem
    exact List.mem_map_of_mem (List.mem_filter.mpr ⟨there,hp⟩)
 rw[List.countP_eq_length_filter,←List.length_map key,same.length_eq]

lemma countP_lt_countP {q q':α→Bool}{l:List α}
 (weaker:∀x∈l,q' x=true→q x=true){x:α}(mem:x∈l)(holds:q x=true)
 (fails:q' x=false):l.countP q'<l.countP q:=by
 induction l with
 | nil=>cases mem
 | cons y l ih =>
  have rest:l.countP q'≤l.countP q:=
   List.countP_mono_left fun z there=>weaker z (List.mem_cons_of_mem _ there)
  rw[List.countP_cons,List.countP_cons]
  rcases List.mem_cons.mp mem with rfl|mem'
  · rw[holds,fails,if_pos rfl,if_neg Bool.false_ne_true]
    omega
  · have less:=ih (fun z there=>weaker z (List.mem_cons_of_mem _ there)) mem'
    have first:=weaker y List.mem_cons_self
    split <;> split
    · omega
    · exact absurd (first ‹_›) ‹_›
    · omega
    · omega

section
variable [BEq α][LawfulBEq α]

lemma eraseDups_nodup (l:List α):l.eraseDups.Nodup:=by
 induction h:l.length using Nat.strongRecOn generalizing l with
 | ind n ih =>
  cases l with
  | nil=>simp
  | cons a l =>
   rw[List.eraseDups_cons,List.nodup_cons]
   constructor
   · simp[List.mem_eraseDups]
   · refine ih _ ?_ _ rfl
     have less:=List.length_filter_le (fun b=>!b==a) l
     rw[←h,List.length_cons]
     omega

lemma eraseDups_length_le (l:List α):l.eraseDups.length≤l.length:=by
 have within:l.eraseDups ⊆ l:=fun a mem=>List.mem_eraseDups.mp mem
 exact ((eraseDups_nodup l).subperm within).length_le

end

/-- `INSERT` of a row whose key is not there yet. -/
def insertIfAbsent [BEq κ](key:α→κ)(row:α)(rows:List α):List α:=
 if (rows.find? (fun r=>key r==key row)).isSome then rows else rows++[row]

section
variable [BEq κ][LawfulBEq κ][DecidableEq κ]

lemma find?_insertIfAbsent (row:α)(j:κ) : (insertIfAbsent key row rows).find? (fun r=>key r==j) =
  (rows.find? (fun r=>key r==j)).or (if j=key row then some row else none):=by
 unfold insertIfAbsent
 split
 · rename_i there
   by_cases same:j=key row
   · subst same
     obtain ⟨r,found⟩:=Option.isSome_iff_exists.mp there
     rw[found]
     rfl
   · rw[if_neg same,Option.or_none]
 · rw[List.find?_append]
   congr 1
   by_cases same:j=key row
   · simp[same]
   · have other:key row≠j:=fun is=>same is.symm
     simp[same,other]

lemma find?_foldl_insertIfAbsent (new:List α)(j:κ) :
 (new.foldl (fun rows row=>insertIfAbsent key row rows) rows).find? (fun r=>key r==j) =
  (rows++new).find? (fun r=>key r==j):=by
 induction new generalizing rows with
 | nil=>simp
 | cons row new ih =>
  rw[List.foldl_cons,ih,List.find?_append,find?_insertIfAbsent,List.find?_append,Option.or_assoc]
  congr 1
  by_cases same:j=key row
  · simp[same]
  · have other:key row≠j:=fun is=>same is.symm
    simp[same,other]

end

lemma nodup_append_fresh (unique:(rows.map key).Nodup){row:α}
 (fresh:∀r∈rows,key r≠key row):((rows++[row]).map key).Nodup:=by
 rw[List.map_append,List.map_singleton]
 refine List.Nodup.append unique (List.nodup_singleton _) ?_
 intro k hk hs
 obtain ⟨r,hr,rfl⟩:=List.mem_map.mp hk
 exact fresh r hr (List.mem_singleton.mp hs)

lemma nodup_insertIfAbsent [BEq κ][LawfulBEq κ](unique:(rows.map key).Nodup)(row:α) :
 ((insertIfAbsent key row rows).map key).Nodup:=by
 unfold insertIfAbsent
 split
 · exact unique
 · rename_i absent
   refine nodup_append_fresh unique fun r mem same=>absent ?_
   exact List.find?_isSome.mpr ⟨r,mem,beq_iff_eq.mpr same⟩

end Kivou.Tables
