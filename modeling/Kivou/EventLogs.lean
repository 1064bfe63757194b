import Mathlib.Data.List.Nodup
import Mathlib.Data.List.Perm.Basic
import Mathlib.Order.Bounds.Basic
import Mathlib.Order.Lattice

set_option autoImplicit false

/-! A log keeps one event of each key. -/
namespace Kivou.EventLogs
variable {ε κ σ β:Type}

section
variable [DecidableEq κ]{key:ε→κ}{log log':List ε}

/-- `INSERT ... ON CONFLICT DO NOTHING`, by the key of the event. -/
def record (key:ε→κ)(log:List ε)(e:ε):List ε:=
 if log.any (key · = key e) then log else e::log

lemma any_key {e:ε}:log.any (key · = key e)=true ↔ ∃old∈log,key old=key e:=by
 simp

lemma record_known {e:ε}(known:∃old∈log,key old=key e):record key log e=log:=
 if_pos (any_key.mpr known)

lemma record_fresh {e:ε}(fresh:¬∃old∈log,key old=key e) : record key log e=e::log:=
 if_neg fun known=>fresh (any_key.mp known)

lemma nodup_record (distinct:(log.map key).Nodup)(e:ε) : ((record key log e).map key).Nodup:=by
 by_cases known:∃old∈log,key old=key e
 · rw[record_known known]
   exact distinct
 · rw[record_fresh known,List.map_cons,List.nodup_cons]
   constructor
   · intro mem
     exact known (List.mem_map.mp mem)
   · exact distinct

lemma nodup_foldl_record (distinct:(log.map key).Nodup)(es:List ε) :
 ((es.foldl (record key) log).map key).Nodup:=by
 induction es generalizing log with
 | nil=>exact distinct
 | cons e es ih=>exact ih (nodup_record distinct e)

lemma mem_foldl_record {es:List ε}(faithful:∀a∈es,∀b∈es,key a=key b→a=b)
 {x:ε}:x∈es.foldl (record key) log ↔
  x∈log ∨ x∈es ∧ ¬∃old∈log,key old=key x:=by
 induction es generalizing log with
 | nil=>simp
 | cons e es ih =>
  have rest:∀a∈es,∀b∈es,key a=key b→a=b:=fun a ha b hb=>
   faithful a (List.mem_cons_of_mem e ha) b (List.mem_cons_of_mem e hb)
  rw[List.foldl_cons,ih rest]
  by_cases known:∃old∈log,key old=key e
  · rw[record_known known]
    constructor
    · rintro (old|⟨mem,fresh⟩)
      · exact .inl old
      · exact .inr ⟨List.mem_cons_of_mem e mem,fresh⟩
    · rintro (old|⟨mem,fresh⟩)
      · exact .inl old
      · rcases List.mem_cons.mp mem with rfl|mem
        · exact absurd known fresh
        · exact .inr ⟨mem,fresh⟩
  · rw[record_fresh known]
    constructor
    · rintro (old|⟨mem,fresh⟩)
      · rcases List.mem_cons.mp old with rfl|old
        · exact .inr ⟨List.mem_cons_self,known⟩
        · exact .inl old
      · refine .inr ⟨List.mem_cons_of_mem e mem,?_⟩
        rintro ⟨old,there,same⟩
        exact fresh ⟨old,List.mem_cons_of_mem e there,same⟩
    · rintro (old|⟨mem,fresh⟩)
      · exact .inl (List.mem_cons_of_mem e old)
      · by_cases same:key e=key x
        · have is:e=x:=faithful e List.mem_cons_self x mem same
          exact .inl (is ▸ List.mem_cons_self)
        · rcases List.mem_cons.mp mem with rfl|mem
          · exact absurd rfl same
          · refine .inr ⟨mem,?_⟩
            rintro ⟨old,there,clash⟩
            rcases List.mem_cons.mp there with rfl|there
            · exact same clash
            · exact fresh ⟨old,there,clash⟩

omit [DecidableEq κ] in
lemma mergeSort_eq {le:ε→ε→Bool}(trans:∀a b c,le a b→le b c→le a c)
 (total:∀a b,le a b||le b a)(antisymm:∀a b,le a b→le b a→key a=key b)
 (distinct:(log.map key).Nodup)(distinct':(log'.map key).Nodup)
 (same:∀e,e∈log ↔ e∈log'):log.mergeSort le=log'.mergeSort le:=by
 have perm:log.Perm log':=(List.perm_ext_iff_of_nodup (List.Nodup.of_map key distinct)
   (List.Nodup.of_map key distinct')).mpr same
 have sorted:=((List.mergeSort_perm log le).trans perm).trans (List.mergeSort_perm log' le).symm
 refine @List.Perm.eq_of_pairwise _ (fun a b=>le a b=true) _ _ ?_
  (List.pairwise_mergeSort trans total log) (List.pairwise_mergeSort trans total log') sorted
 intro a b ha hb ab ba
 have there:a∈log:=List.mem_mergeSort.mp ha
 have there':b∈log:=(same b).mpr (List.mem_mergeSort.mp hb)
 exact List.inj_on_of_nodup_map distinct there there' (antisymm a b ab ba)

end

def Absorbs (project:σ→ε→σ):Prop:=∀ (s:σ)(part whole:List ε),part ⊆ whole →
  whole.foldl project (part.foldl project s)=whole.foldl project s

section
variable {project:σ→ε→σ}

lemma foldl_comm (comm:∀s a b,project (project s a) b=project (project s b) a)(s:σ)
 (a:ε)(es:List ε):es.foldl project (project s a)=project (es.foldl project s) a:=by
 induction es generalizing s with
 | nil=>rfl
 | cons e es ih=>rw[List.foldl_cons,comm,ih,List.foldl_cons]

lemma absorbs_of_comm (comm:∀s a b,project (project s a) b=project (project s b) a)
 (idem:∀s a,project (project s a) a=project s a):Absorbs project:=by
 have again:∀ (s:σ)(a:ε)(es:List ε),a∈es →project (es.foldl project s) a=es.foldl project s:=by
  intro s a es mem
  obtain ⟨before,later,rfl⟩:=List.append_of_mem mem
  rw[List.foldl_append,List.foldl_cons,←foldl_comm comm,idem]
 intro s part whole sub
 induction part generalizing s with
 | nil=>rfl
 | cons a part ih =>
  rw[List.foldl_cons,ih (project s a) fun e mem=>sub (List.mem_cons_of_mem a mem),
   foldl_comm comm,again s a whole (sub List.mem_cons_self)]

lemma absorbs_of_overwrites (last:∀s s' a,project s a=project s' a):Absorbs project:=by
 intro s part whole sub
 cases whole with
 | nil =>
  rw[List.subset_nil.mp sub]
  rfl
 | cons e whole=>rw[List.foldl_cons,List.foldl_cons,last _ s e]

end

lemma Absorbs.filterMap {write:σ→β→σ}(absorbs:Absorbs write)(f:ε→Option β)
 (s:σ){part whole:List ε}(sub:part ⊆ whole) :
 (whole.filterMap f).foldl write ((part.filterMap f).foldl write s) =
  (whole.filterMap f).foldl write s:=by
 apply absorbs
 intro b mem
 obtain ⟨e,there,is⟩:=List.mem_filterMap.mp mem
 exact List.mem_filterMap.mpr ⟨e,sub there,is⟩

section
variable [DecidableEq κ](key:ε→κ)(own:ε→Bool)(le:ε→ε→Bool)(project:σ→ε→σ)

def ordered (log:List ε):List ε:=(log.filter own).mergeSort le

def arrive (state:List ε × σ)(e:ε):List ε × σ:=
 let log:=record key state.1 e
 (log,(ordered own le log).foldl project state.2)

lemma ordered_subset {log log':List ε}(sub:log ⊆ log') :
 ordered own le log ⊆ ordered own le log':=by
 intro e mem
 have there:=List.mem_filter.mp (List.mem_mergeSort.mp mem)
 exact List.mem_mergeSort.mpr (List.mem_filter.mpr ⟨sub there.1,there.2⟩)

lemma subset_record (log:List ε)(e:ε):log ⊆ record key log e:=by
 unfold record
 split
 · exact fun _ mem=>mem
 · exact List.subset_cons_self e log

lemma foldl_arrive (absorbs:Absorbs project)(log:List ε)(s:σ)(e:ε)(es:List ε) :
 (e::es).foldl (arrive key own le project) (log,s) =
  ((e::es).foldl (record key) log,
   (ordered own le ((e::es).foldl (record key) log)).foldl project s):=by
 induction es generalizing log s e with
 | nil=>rfl
 | cons next es ih =>
  have grown:record key log e ⊆ (next::es).foldl (record key) (record key log e):=by
   generalize record key log e=before
   generalize next::es=arrivals
   induction arrivals generalizing before with
   | nil=>exact fun _ mem=>mem
   | cons a arrivals ih=>exact fun _ mem=>ih _ (subset_record key before a mem)
  rw[List.foldl_cons]
  change (next::es).foldl _ (record key log e,_)=_
  rw[ih,absorbs _ _ _ (ordered_subset own le grown)]
  rfl

variable {key le}

lemma arrive_converges (absorbs:Absorbs project)
 (trans:∀a b c,le a b→le b c→le a c)(total:∀a b,le a b||le b a)
 (antisymm:∀a b,le a b→le b a→key a=key b)
 {log:List ε}(distinct:(log.map key).Nodup){first second:List ε}
 (faithful:∀a∈first,∀b∈first,key a=key b→a=b)
 (same:∀e,e∈first ↔ e∈second)(s:σ) :
 (first.foldl (arrive key own le project) (log,s)).2 =
  (second.foldl (arrive key own le project) (log,s)).2:=by
 have faithful':∀a∈second,∀b∈second,key a=key b→a=b:=fun a ha b hb=>
  faithful a ((same a).mpr ha) b ((same b).mpr hb)
 have order:ordered own le (first.foldl (record key) log) =
   ordered own le (second.foldl (record key) log):=by
  have restrict:∀ {rows:List ε},(rows.map key).Nodup→((rows.filter own).map key).Nodup:=
   fun h=>h.sublist (List.filter_sublist.map key)
  apply mergeSort_eq trans total antisymm (restrict (nodup_foldl_record distinct first))
   (restrict (nodup_foldl_record distinct second))
  intro e
  rw[List.mem_filter,List.mem_filter,mem_foldl_record faithful,mem_foldl_record faithful',same e]
 cases first with
 | nil =>
  cases second with
  | nil=>rfl
  | cons e es=>exact absurd ((same e).mpr List.mem_cons_self) List.not_mem_nil
 | cons e es =>
  cases second with
  | nil=>exact absurd ((same e).mp List.mem_cons_self) List.not_mem_nil
  | cons e' es' =>
   rw[foldl_arrive key own le project absorbs,foldl_arrive key own le project absorbs]
   rw[order]

end

end Kivou.EventLogs
