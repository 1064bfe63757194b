import Kivou.Tables
import Mathlib.Algebra.Order.BigOperators.Group.List
import Mathlib.Algebra.Group.Action.Defs
import Mathlib.Algebra.Order.Group.Nat

set_option autoImplicit false

/-! Work that is done at most twice: a run is started by one call, and while it is open one more
call may take it up. -/
namespace Kivou.RunLedger
variable {κ σ μ:Type}

/-- `outcome` is none while the run is open. -/
structure Row (κ σ μ:Type) where
 id:κ
 start:σ
 recovered:Bool
 outcome:Option μ

/-- `owners` tells which call obtained which run. -/
structure Ledger (κ σ μ:Type) where
 rows:List (Row κ σ μ)
 owners:List (ℕ × κ)

namespace Ledger

def start (l:Ledger κ σ μ)(call:ℕ)(id:κ)(start:σ):Ledger κ σ μ where
 rows:=l.rows++[⟨id,start,false,none⟩]
 owners:=l.owners++[(call,id)]

section
variable [DecidableEq κ]

def row? (l:Ledger κ σ μ)(id:κ):Option (Row κ σ μ):=l.rows.find? (·.id==id)

def claim (l:Ledger κ σ μ)(call:ℕ)(id:κ):Option (σ × Ledger κ σ μ):=
 match l.row? id with
 | some row =>
  if row.outcome.isNone ∧ row.recovered=false then
   some (row.start,{
    rows:=Tables.update (·.id==id) (fun row=>{row with recovered:=true}) l.rows
    owners:=l.owners++[(call,id)]})
  else none
 | none=>none

def close (l:Ledger κ σ μ)(id:κ)(outcome:μ):Option (Ledger κ σ μ):=
 match l.row? id with
 | some row =>
  if row.outcome.isNone then
   some {l with
    rows:=Tables.update (·.id==id) (fun row=>{row with outcome:=some outcome}) l.rows}
  else none
 | none=>none

structure Inv (l:Ledger κ σ μ):Prop where
 ids:(l.rows.map (·.id)).Nodup
 owners:∀row∈l.rows,l.owners.countP (·.2=row.id)=1+row.recovered.toNat
 known:∀owner∈l.owners,∃row∈l.rows,row.id=owner.2
 calls:(l.owners.map (·.1)).Nodup

end

/-- What a write of `call` leaves to the other calls. -/
structure Later (call:ℕ)(l l':Ledger κ σ μ):Prop where
 rows:∀row∈l.rows,∃row'∈l'.rows,row'.id=row.id ∧ row'.start=row.start ∧
  (row.outcome.isSome → row'=row)
 owners:∀owner∈l.owners,owner∈l'.owners
 own:∀owner∈l'.owners,owner∈l.owners ∨ owner.1=call
 opens:∀row∈l.rows,row.outcome=none →
  (∃row'∈l'.rows,row'.id=row.id ∧ row'.outcome=none) ∨ (call,row.id)∈l'.owners

def Idle (l:Ledger κ σ μ)(call:ℕ):Prop:=∀owner∈l.owners,owner.1≠call

/-- The run is open, or another call has it too. -/
def Held (l:Ledger κ σ μ)(call:ℕ)(id:κ):Prop:=
 (∃row∈l.rows,row.id=id ∧ row.outcome=none) ∨ ∃other,other≠call ∧ (other,id)∈l.owners

structure Owns (l:Ledger κ σ μ)(call:ℕ)(id:κ)(start:σ):Prop where
 row:∃row∈l.rows,row.id=id ∧ row.start=start
 granted:(call,id)∈l.owners
 held:l.Held call id

def Closed (l:Ledger κ σ μ)(id:κ):Prop:=∃row∈l.rows,row.id=id ∧ row.outcome.isSome

variable {l l':Ledger κ σ μ}{call:ℕ}{id:κ}

lemma Later.refl (call:ℕ)(l:Ledger κ σ μ):l.Later call l:=
 ⟨fun row mem=>⟨row,mem,rfl,rfl,fun _=>rfl⟩,fun _ mem=>mem,fun _ mem=>.inl mem,
  fun row mem isOpen=>.inl ⟨row,mem,rfl,isOpen⟩⟩

lemma Held.later {other:ℕ}(held:l.Held other id)(later:l.Later call l')
 (apart:other≠call):l'.Held other id:=by
 rcases held with ⟨row,mem,rfl,isOpen⟩|⟨third,differs,mem⟩
 · exact (later.opens row mem isOpen).imp_right fun owner=>⟨call,apart.symm,owner⟩
 · exact .inr ⟨third,differs,later.owners _ mem⟩

lemma Owns.later {other:ℕ}{start:σ}(owns:l.Owns other id start)(later:l.Later call l')
 (apart:other≠call):l'.Owns other id start:=by
 obtain ⟨⟨row,mem,rfl,rfl⟩,granted,held⟩:=owns
 obtain ⟨row',mem',is,starts,-⟩:=later.rows row mem
 exact ⟨⟨row',mem',is,starts⟩,later.owners _ granted,held.later later apart⟩

lemma Idle.later {other:ℕ}(idle:l.Idle other)(later:l.Later call l')
 (apart:other≠call):l'.Idle other:=by
 intro owner mem
 rcases later.own owner mem with mem|is
 · exact idle owner mem
 · rw[is]
   exact apart.symm

lemma Closed.later (closed:l.Closed id)(later:l.Later call l'):l'.Closed id:=by
 obtain ⟨row,mem,rfl,outcome⟩:=closed
 obtain ⟨row',mem',is,-,same⟩:=later.rows row mem
 exact ⟨row',mem',is,by rw[same outcome];exact outcome⟩

lemma Later.keeps (later:l.Later call l'){row:Row κ σ μ}(mem:row∈l.rows)
 (outcome:row.outcome.isSome):row∈l'.rows:=by
 obtain ⟨row',mem',-,-,same⟩:=later.rows row mem
 rwa[same outcome] at mem'

lemma mem_start {s:σ}{row:Row κ σ μ} :
 row∈(l.start call id s).rows ↔ row∈l.rows ∨ row=⟨id,s,false,none⟩:=by
 simp[start]

lemma Later.started {s:σ}:l.Later call (l.start call id s) where
 rows:=fun row mem=>⟨row,mem_start.mpr (.inl mem),rfl,rfl,fun _=>rfl⟩
 owners:=fun owner mem=>List.mem_append_left _ mem
 own:=fun owner mem=>(List.mem_append.mp mem).imp_right fun new=>by
  rw[List.mem_singleton.mp new]
 opens:=fun row mem isOpen=>.inl ⟨row,mem_start.mpr (.inl mem),rfl,isOpen⟩

lemma owns_start {s:σ}:(l.start call id s).Owns call id s:=
 ⟨⟨_,mem_start.mpr (.inr rfl),rfl,rfl⟩,List.mem_append_right _ (List.mem_singleton_self _),
  .inl ⟨_,mem_start.mpr (.inr rfl),rfl,rfl⟩⟩

def Within (l:Ledger κ σ μ)(entries:List (ℕ × κ))(limit:σ→ℕ):Prop:=
 ∀entry∈entries,entry∈l.owners ∧ ∃row∈l.rows,row.id=entry.2 ∧
  entries.countP (·.1=entry.1)≤limit row.start

section
variable {entries:List (ℕ × κ)}{limit:σ→ℕ}

lemma within_nil:l.Within [] limit:=fun _ mem=>by cases mem

lemma Within.later (within:l.Within entries limit)(later:l.Later call l') :
 l'.Within entries limit:=by
 intro entry mem
 obtain ⟨owned,row,there,is,few⟩:=within entry mem
 obtain ⟨row',there',same,starts,-⟩:=later.rows row there
 exact ⟨later.owners entry owned,row',there',same.trans is,starts ▸ few⟩

lemma Within.unspent (within:l.Within entries limit)(idle:l.Idle call) :
 entries.countP (·.1=call)=0:=by
 rw[List.countP_eq_zero]
 intro entry mem
 simpa using idle entry (within entry mem).1

lemma countP_spent (entries:List (ℕ × κ))(call other:ℕ)(id:κ) :
 (entries++[(call,id)]).countP (·.1=other) =
  entries.countP (·.1=other)+if call=other then 1 else 0:=by
 rw[List.countP_append,List.countP_singleton]
 simp only[decide_eq_true_eq]

end

variable [DecidableEq κ]

lemma Inv.empty:Inv (⟨[],[]⟩:Ledger κ σ μ):=⟨List.nodup_nil,by simp,by simp,List.nodup_nil⟩

lemma row?_some {row:Row κ σ μ}(found:l.row? id=some row):row∈l.rows ∧ row.id=id:=
 Tables.find?_key found

lemma row?_none (none:l.row? id=none):∀row∈l.rows,row.id≠id:=by
 intro row mem
 simpa using List.find?_eq_none.mp none row mem

lemma Inv.row?_eq (inv:l.Inv){row:Row κ σ μ}(mem:row∈l.rows) :
 l.row? row.id=some row:=Tables.find?_of_mem inv.ids mem

lemma Inv.unique (inv:l.Inv){row row':Row κ σ μ}(mem:row∈l.rows)
 (mem':row'∈l.rows)(same:row.id=row'.id):row=row':=
 List.inj_on_of_nodup_map inv.ids mem mem' same

lemma Inv.obtained (inv:l.Inv){id':κ}(mem:(call,id)∈l.owners) (mem':(call,id')∈l.owners):id=id':=
 congrArg Prod.snd (List.inj_on_of_nodup_map inv.calls mem mem' rfl)

lemma Inv.calls_append (inv:l.Inv)(idle:l.Idle call) : ((l.owners++[(call,id)]).map (·.1)).Nodup:=by
 rw[List.map_append,List.nodup_append]
 refine ⟨inv.calls,List.nodup_singleton _,fun other mem new is=>?_⟩
 obtain ⟨owner,there,rfl⟩:=List.mem_map.mp mem
 obtain rfl:=List.mem_singleton.mp is
 exact idle owner there

lemma Inv.started (inv:l.Inv){s:σ}(free:∀row∈l.rows,row.id≠id)
 (idle:l.Idle call):(l.start call id s).Inv where
 calls:=inv.calls_append idle
 ids:=by
  rw[start,List.map_append,List.nodup_append]
  refine ⟨inv.ids,List.nodup_singleton _,fun other mem new is=>?_⟩
  obtain ⟨row,there,rfl⟩:=List.mem_map.mp mem
  obtain rfl:=List.mem_singleton.mp is
  exact free row there
 owners:=by
  intro row mem
  rcases mem_start.mp mem with mem|rfl
  · have differs:id≠row.id:=(free row mem).symm
    simpa[start,List.countP_append,differs] using inv.owners row mem
  · have none:l.owners.countP (·.2=id)=0:=by
     rw[List.countP_eq_zero]
     intro owner mem
     obtain ⟨row,there,is⟩:=inv.known owner mem
     simpa[←is] using free row there
    simp[start,List.countP_append,none]
 known:=by
  intro owner mem
  rcases List.mem_append.mp mem with mem|new
  · obtain ⟨row,there,is⟩:=inv.known owner mem
    exact ⟨row,mem_start.mpr (.inl there),is⟩
  · obtain rfl:=List.mem_singleton.mp new
    exact ⟨_,mem_start.mpr (.inr rfl),rfl⟩

section
variable {f:Row κ σ μ→Row κ σ μ}

lemma mem_update {row:Row κ σ μ}(mem:row∈Tables.update (·.id==id) f l.rows) :
 (row∈l.rows ∧ row.id≠id) ∨ ∃before∈l.rows,before.id=id ∧ row=f before:=by
 obtain ⟨before,there,is⟩:=Tables.mem_update.mp mem
 split at is
 · rename_i named
   exact .inr ⟨before,there,by simpa using named,is.symm⟩
 · rename_i other
   subst is
   exact .inl ⟨there,by simpa using other⟩

variable (l id f) in
lemma update_ids (ids:∀row,(f row).id=row.id) :
 (Tables.update (·.id==id) f l.rows).map (·.id)=l.rows.map (·.id):=
 Tables.map_key_update fun row _ _=>ids row

lemma update_later (inv:l.Inv){row:Row κ σ μ}(mem:row∈l.rows)
 (isOpen:row.outcome=none)(ids:∀row,(f row).id=row.id)
 (starts:∀row,(f row).start=row.start) :
 ∀other∈l.rows,∃other'∈Tables.update (·.id==row.id) f l.rows,
  other'.id=other.id ∧ other'.start=other.start ∧ (other.outcome.isSome → other'=other):=by
 intro other there
 by_cases is:other.id=row.id
 · obtain rfl:=inv.unique there mem is
   refine ⟨f other,Tables.mem_update.mpr ⟨other,there,by simp⟩,ids other,starts other,?_⟩
   simp[isOpen]
 · exact ⟨other,Tables.mem_update.mpr ⟨other,there,by simp[is]⟩,rfl,rfl,fun _=>rfl⟩

end

lemma claim_some {s:σ}(claimed:l.claim call id=some (s,l')) :
 ∃row∈l.rows,row.id=id ∧ row.start=s ∧ row.outcome=none ∧ row.recovered=false ∧
  l'=⟨Tables.update (·.id==id) (fun row=>{row with recovered:=true}) l.rows,
   l.owners++[(call,id)]⟩:=by
 unfold claim at claimed
 cases is:l.row? id with
 | none=>rw[is] at claimed;cases claimed
 | some row =>
  rw[is] at claimed
  dsimp only at claimed
  split at claimed
  · rename_i free
    obtain ⟨rfl,rfl⟩:=Prod.mk.inj (Option.some.inj claimed)
    have found:=row?_some is
    exact ⟨row,found.1,found.2,rfl,Option.isNone_iff_eq_none.mp free.1,free.2,rfl⟩
  · cases claimed

lemma Inv.claimed (inv:l.Inv){s:σ}(claimed:l.claim call id=some (s,l'))
 (idle:l.Idle call):l'.Inv ∧ l.Later call l' ∧ l'.Owns call id s:=by
 obtain ⟨row,mem,rfl,rfl,isOpen,unclaimed,rfl⟩:=claim_some claimed
 have later:=update_later (f:=fun row=>{row with recovered:=true}) inv mem isOpen
  (fun _=>rfl) fun _=>rfl
 have ids:=update_ids l row.id (fun row=>{row with recovered:=true}) fun _=>rfl
 have opens:∀other∈l.rows,other.outcome=none →
   ∃other'∈Tables.update (·.id==row.id) (fun row=>{row with recovered:=true}) l.rows,
    other'.id=other.id ∧ other'.outcome=none:=by
  intro other there is
  refine ⟨_,Tables.mem_update.mpr ⟨other,there,rfl⟩,?_⟩
  split <;> exact ⟨rfl,is⟩
 refine ⟨⟨?_,?_,?_,inv.calls_append idle⟩,⟨later,?_,?_,?_⟩,?_,?_,.inl (opens row mem isOpen)⟩
 · exact ids ▸ inv.ids
 · intro other there
   rcases mem_update there with ⟨earlier,differs⟩|⟨before,earlier,is,rfl⟩
   · simpa[List.countP_append,differs.symm] using inv.owners other earlier
   · obtain rfl:=inv.unique earlier mem is
     have owners:=inv.owners before mem
     simp only[unclaimed,Bool.toNat_false] at owners
     simp only[List.countP_append,List.countP_singleton,decide_true,if_true,owners,Bool.toNat_true]
 · intro owner there
   have known:∃row∈l.rows,row.id=owner.2:=by
    rcases List.mem_append.mp there with there|new
    · exact inv.known owner there
    · obtain rfl:=List.mem_singleton.mp new
      exact ⟨row,mem,rfl⟩
   obtain ⟨row,here,is⟩:=known
   obtain ⟨row',here',same,-⟩:=later row here
   exact ⟨row',here',same.trans is⟩
 · exact fun owner there=>List.mem_append_left _ there
 · exact fun owner there=>(List.mem_append.mp there).imp_right fun new=>by
    rw[List.mem_singleton.mp new]
 · exact fun other there is=>.inl (opens other there is)
 · obtain ⟨row',here',same,starts,-⟩:=later row mem
   exact ⟨row',here',same,starts⟩
 · exact List.mem_append_right _ (List.mem_singleton_self _)

lemma close_some {outcome:μ}(closed:l.close id outcome=some l') :
 ∃row∈l.rows,row.id=id ∧ row.outcome=none ∧
  l'={l with
   rows:=Tables.update (·.id==id) (fun row=>{row with outcome:=some outcome}) l.rows}:=by
 unfold close at closed
 cases is:l.row? id with
 | none=>rw[is] at closed;cases closed
 | some row =>
  rw[is] at closed
  dsimp only at closed
  split at closed
  · rename_i free
    have found:=row?_some is
    exact ⟨row,found.1,found.2,Option.isNone_iff_eq_none.mp free,(Option.some.inj closed).symm⟩
  · cases closed

lemma Inv.closed (inv:l.Inv){outcome:μ}(closed:l.close id outcome=some l')
 (owner:(call,id)∈l.owners) :
 l'.Inv ∧ l.Later call l' ∧ l'.Closed id:=by
 obtain ⟨row,mem,rfl,isOpen,rfl⟩:=close_some closed
 have later:=update_later (f:=fun row=>{row with outcome:=some outcome}) inv mem isOpen
  (fun _=>rfl) fun _=>rfl
 have ids:=update_ids l row.id (fun row=>{row with outcome:=some outcome}) fun _=>rfl
 refine ⟨⟨?_,?_,?_,inv.calls⟩,⟨later,fun _ there=>there,fun _ there=>.inl there,?_⟩,?_⟩
 · exact ids ▸ inv.ids
 · intro other there
   rcases mem_update there with ⟨earlier,-⟩|⟨before,earlier,-,rfl⟩
   · exact inv.owners other earlier
   · exact inv.owners before earlier
 · intro owner there
   obtain ⟨row,here,is⟩:=inv.known owner there
   obtain ⟨row',here',same,-⟩:=later row here
   exact ⟨row',here',same.trans is⟩
 · intro other there is
   by_cases mine:other.id=row.id
   · exact .inr (mine ▸ owner)
   · exact .inl ⟨other,Tables.mem_update.mpr ⟨other,there,by simp[mine]⟩,rfl,is⟩
 · exact ⟨_,Tables.mem_update.mpr ⟨row,mem,if_pos (by simp)⟩,rfl,rfl⟩

lemma claimed_rows {s:σ}(claimed:l.claim call id=some (s,l')){row:Row κ σ μ}
 (mem:row∈l'.rows):∃before∈l.rows,before.id=row.id ∧ before.start=row.start ∧
  before.outcome=row.outcome:=by
 obtain ⟨-,-,-,-,-,-,rfl⟩:=claim_some claimed
 rcases mem_update mem with ⟨earlier,-⟩|⟨before,earlier,-,rfl⟩
 · exact ⟨row,earlier,rfl,rfl,rfl⟩
 · exact ⟨before,earlier,rfl,rfl,rfl⟩

lemma Inv.closed_rows (inv:l.Inv){outcome:μ}(closed:l.close id outcome=some l')
 {row:Row κ σ μ}(mem:row∈l'.rows):(row∈l.rows ∧ row.id≠id) ∨
  ∃before∈l.rows,before.id=id ∧ before.outcome=none ∧ row={before with outcome:=some outcome}:=by
 obtain ⟨found,there,rfl,isOpen,rfl⟩:=close_some closed
 refine (mem_update mem).imp_right ?_
 rintro ⟨before,earlier,is,rfl⟩
 obtain rfl:=inv.unique earlier there is
 exact ⟨before,earlier,rfl,isOpen,rfl⟩

lemma closed_of_none (inv:l.Inv){outcome:μ}{row:Row κ σ μ}(mem:row∈l.rows)
 (refused:l.close row.id outcome=none):l.Closed row.id:=by
 refine ⟨row,mem,rfl,?_⟩
 rw[close,inv.row?_eq mem] at refused
 by_contra isOpen
 simp[Option.not_isSome_iff_eq_none.mp isOpen] at refused

lemma countP_le_sum {entries:List (ℕ × κ)}{id:κ}(owners:List (ℕ × κ))
 (owned:∀entry∈entries,entry.2=id→entry∈owners) :
 entries.countP (·.2=id) ≤(owners.map fun owner=>entries.countP (·.1=owner.1)).sum:=by
 induction entries with
 | nil=>simp
 | cons entry entries ih =>
  have rest:=ih fun entry mem=>owned entry (List.mem_cons_of_mem _ mem)
  have split:(owners.map fun owner=>(entry::entries).countP (·.1=owner.1)) =
    owners.map fun owner=>entries.countP (·.1=owner.1)+if entry.1=owner.1 then 1 else 0:=
   List.map_congr_left fun owner _=>by simp[List.countP_cons]
  rw[split,List.sum_map_add,List.countP_cons]
  by_cases is:entry.2=id
  · have mine:=owned entry List.mem_cons_self is
    have one:1≤(owners.map fun owner=>if entry.1=owner.1 then 1 else 0).sum:=by
     refine List.single_le_sum (fun _ _=>Nat.zero_le _) 1 (List.mem_map.mpr ⟨entry,mine,?_⟩)
     simp
    simp only[is,decide_true,if_true]
    omega
  · simp only[is,decide_false,Bool.false_eq_true,if_false]
    omega

variable {entries:List (ℕ × κ)}{limit:σ→ℕ}

lemma Within.spent (within:l.Within entries limit)(inv:l.Inv){start:σ}
 (owns:l.Owns call id start)(few:entries.countP (·.1=call)+1≤limit start) :
 l.Within (entries++[(call,id)]) limit:=by
 obtain ⟨row,there,rfl,rfl⟩:=owns.row
 have more:(entries++[(call,row.id)]).countP (·.1=call)≤limit row.start:=by
  rwa[countP_spent,if_pos rfl]
 intro entry mem
 rcases List.mem_append.mp mem with mem|new
 · obtain ⟨owned,other,here,is,bound⟩:=within entry mem
   by_cases same:call=entry.1
   · -- the call has obtained one run only
     have granted:(call,entry.2)∈l.owners:=same ▸ owned
     exact ⟨owned,row,there,inv.obtained owns.granted granted,same ▸ more⟩
   · refine ⟨owned,other,here,is,?_⟩
     rwa[countP_spent,if_neg same]
 · obtain rfl:=List.mem_singleton.mp new
   exact ⟨owns.granted,row,there,rfl,more⟩

lemma Within.each (within:l.Within entries limit)(inv:l.Inv){row:Row κ σ μ}
 (mem:row∈l.rows)(call:ℕ):entries.count (call,row.id)≤limit row.start:=by
 by_cases spent:(call,row.id)∈entries
 · obtain ⟨-,other,there,is,few⟩:=within _ spent
   obtain rfl:=inv.unique there mem is
   refine le_trans ?_ few
   rw[List.count]
   refine List.countP_mono_left fun entry _ is=>?_
   rw[beq_iff_eq.mp is]
   exact decide_eq_true rfl
 · rw[List.count_eq_zero_of_not_mem spent]
   exact Nat.zero_le _

lemma Within.total (within:l.Within entries limit)(inv:l.Inv){row:Row κ σ μ} (mem:row∈l.rows) :
 entries.countP (·.2=row.id)≤(1+row.recovered.toNat)*limit row.start:=by
 have bound:=countP_le_sum ((l.owners.filter (·.2=row.id)).filter (· ∈ entries))
  fun entry mem is=>List.mem_filter.mpr
   ⟨List.mem_filter.mpr ⟨(within entry mem).1,by simpa using is⟩,by simpa using mem⟩
 have each:∀count∈((l.owners.filter (·.2=row.id)).filter (· ∈ entries)).map
   fun owner=>entries.countP (·.1=owner.1),count≤limit row.start:=by
  intro count counted
  obtain ⟨owner,kept,rfl⟩:=List.mem_map.mp counted
  obtain ⟨mine,spent⟩:=List.mem_filter.mp kept
  obtain ⟨-,other,here,is,few⟩:=within owner (by simpa using spent)
  have same:owner.2=row.id:=by simpa using (List.mem_filter.mp mine).2
  obtain rfl:=inv.unique here mem (is.trans same)
  exact few
 have total:=List.sum_le_card_nsmul _ _ each
 have shorter:=(List.filter_sublist (p:=(· ∈ entries)) (l:=l.owners.filter (·.2=row.id))).length_le
 have owners:=inv.owners row mem
 rw[List.countP_eq_length_filter] at owners
 rw[List.length_map,smul_eq_mul] at total
 calc entries.countP (·.2=row.id)≤_:=bound
  _≤_:=total
  _≤(1+row.recovered.toNat)*limit row.start:=Nat.mul_le_mul_right _ (owners ▸ shorter)

lemma Within.total_le (within:l.Within entries limit)(inv:l.Inv){n:ℕ}
 (few:∀start,limit start≤n)(id:κ):entries.countP (·.2=id)≤2*n:=by
 by_cases known:∃row∈l.rows,row.id=id
 · obtain ⟨row,mem,rfl⟩:=known
   have most:1+row.recovered.toNat≤2:=by
    have:=Bool.toNat_le row.recovered
    omega
   exact (within.total inv mem).trans (Nat.mul_le_mul most (few row.start))
 · have none:entries.countP (·.2=id)=0:=by
    rw[List.countP_eq_zero]
    intro entry mem
    obtain ⟨-,row,there,is,-⟩:=within entry mem
    simp only[decide_eq_true_eq]
    rintro rfl
    exact known ⟨row,there,is⟩
   omega

end Ledger
end Kivou.RunLedger
