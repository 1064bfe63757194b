import Mathlib.Data.List.Dedup
import Mathlib.Logic.Function.Basic
import Mathlib.Data.Nat.Notation

set_option autoImplicit false

/-! Statements of concurrent transactions on tables of versioned rows. A transaction reads what is
committed and what it wrote itself. An `UPDATE` finds its rows at its start, waits for those that
other transactions have locked, and checks its condition again on what was committed meanwhile; its
locks last until the transaction ends. -/
namespace Kivou.ReadCommitted

variable {κ α:Type}

structure Cell (α:Type) where
 committed:Option α
 pending:Option (ℕ × α)

namespace Cell

def absent:Cell α:=⟨none,none⟩

/-- What transaction `t` reads. -/
def view (t:ℕ)(cell:Cell α):Option α:=
 match cell.pending with
 | some (writer,row)=>if writer=t then some row else cell.committed
 | none=>cell.committed

def free (t:ℕ)(cell:Cell α):Bool:=cell.pending.all fun write=>write.1==t

/-- An `UPDATE` that has the row: the condition is checked again. -/
def write (t:ℕ)(p:α→Bool)(f:α→α)(cell:Cell α):Cell α:=
 match cell.view t with
 | some row=>if p row then {cell with pending:=some (t,f row)} else cell
 | none=>cell

def commit (t:ℕ)(cell:Cell α):Cell α:=
 match cell.pending with
 | some (writer,row)=>if writer=t then ⟨some row,none⟩ else cell
 | none=>cell

def rollback (t:ℕ)(cell:Cell α):Cell α:=
 match cell.pending with
 | some (writer,_)=>if writer=t then ⟨cell.committed,none⟩ else cell
 | none=>cell

variable {t u:ℕ}{p:α→Bool}{f:α→α}{cell:Cell α}{row:α}

lemma view_of_pending (held:cell.pending=some (t,row)):cell.view t=some row:=by
 simp[view,held]

lemma view_of_other (other:∀row,cell.pending≠some (t,row)) : cell.view t=cell.committed:=by
 unfold view
 cases pending:cell.pending with
 | none=>rfl
 | some write =>
  obtain ⟨writer,row⟩:=write
  have differs:writer≠t:=by
   rintro rfl
   exact other row pending
  simp[differs]

lemma of_view (seen:cell.view t=some row) : cell.pending=some (t,row) ∨
  (∀row',cell.pending≠some (t,row')) ∧ cell.committed=some row:=by
 by_cases held:∃row',cell.pending=some (t,row')
 · obtain ⟨row',held⟩:=held
   rw[view_of_pending held] at seen
   rw[Option.some.inj seen] at held
   exact .inl held
 · have other:∀row',cell.pending≠some (t,row'):=fun row' is=>held ⟨row',is⟩
   rw[view_of_other other] at seen
   exact .inr ⟨other,seen⟩

@[simp] lemma write_committed:(cell.write t p f).committed=cell.committed:=by
 unfold write
 repeat' split
 all_goals rfl

@[simp] lemma commit_committed:(cell.commit t).committed=cell.view t:=by
 unfold commit view
 repeat' split
 all_goals rfl

@[simp] lemma rollback_committed:(cell.rollback t).committed=cell.committed:=by
 unfold rollback
 repeat' split
 all_goals rfl

/-- What an `UPDATE` does to a row. -/
lemma write_cases : (cell.write t p f=cell ∧ ∀row,cell.view t=some row→p row=false) ∨
  ∃row,cell.view t=some row ∧ p row=true ∧ cell.write t p f=⟨cell.committed,some (t,f row)⟩:=by
 unfold write
 cases seen:cell.view t with
 | none=>exact .inl ⟨rfl,fun row is=>by cases is⟩
 | some row =>
  cases holds:p row with
  | true=>exact .inr ⟨row,rfl,holds,by simp[holds]⟩
  | false =>
   refine .inl ⟨by simp[holds],fun row' is=>?_⟩
   rw[←Option.some.inj is]
   exact holds

variable (t cell) in
lemma commit_cases : (∃row,cell.pending=some (t,row) ∧ cell.commit t=⟨some row,none⟩) ∨
  (∀row,cell.pending≠some (t,row)) ∧ cell.commit t=cell:=by
 by_cases held:∃row,cell.pending=some (t,row)
 · obtain ⟨row,held⟩:=held
   exact .inl ⟨row,held,by simp[commit,held]⟩
 · have free:∀row,cell.pending≠some (t,row):=fun row is=>held ⟨row,is⟩
   refine .inr ⟨free,?_⟩
   unfold commit
   split
   · rename_i writer row pending
     have other:writer≠t:=by
      rintro rfl
      exact free row pending
     exact if_neg other
   · rfl

lemma commit_pending : (cell.commit t).pending=some (u,row) ↔ u≠t ∧ cell.pending=some (u,row):=by
 unfold commit
 split
 · rename_i writer written pending
   rw[pending]
   split
   · rename_i own
     refine iff_of_false (fun held=>by cases held) ?_
     rintro ⟨other,held⟩
     cases held
     exact other own
   · rename_i other
     rw[pending]
     refine ⟨fun held=>⟨?_,held⟩,And.right⟩
     cases held
     exact other
 · rename_i pending
   rw[pending]
   exact iff_of_false (fun held=>by cases held) fun held=>by cases held.2

lemma rollback_pending :
 (cell.rollback t).pending=some (u,row) ↔ u≠t ∧ cell.pending=some (u,row):=by
 have same:(cell.rollback t).pending=(cell.commit t).pending:=by
  unfold rollback commit
  split
  · split <;> rfl
  · rfl
 rw[same,commit_pending]

end Cell

structure Table (κ α:Type) where
 keys:List κ
 cell:κ→Cell α
 nodup:keys.Nodup
 within:∀k,k∉keys→cell k=.absent

namespace Table

/-- The rows that an `UPDATE` of `t` finds at its start. -/
def find (t:ℕ)(p:κ→α→Bool)(table:Table κ α):List κ:=
 table.keys.filter fun k=>((table.cell k).view t).any (p k)

/-- The `UPDATE` need not wait. -/
def free (t:ℕ)(targets:List κ)(table:Table κ α):Bool:=targets.all fun k=>(table.cell k).free t

section
variable [DecidableEq κ]

def write (t:ℕ)(targets:List κ)(p:κ→α→Bool)(f:α→α)(table:Table κ α) : Table κ α where
 keys:=table.keys
 cell k:=if k∈targets then (table.cell k).write t (p k) f else table.cell k
 nodup:=table.nodup
 within k other:=by
  rw[table.within k other]
  split <;> rfl

def insert (t:ℕ)(k:κ)(row:α)(table:Table κ α):Table κ α where
 keys:=table.keys.insert k
 cell:=Function.update table.cell k {table.cell k with pending:=some (t,row)}
 nodup:=table.nodup.insert
 within j other:=by
  rw[List.mem_insert_iff,not_or] at other
  rw[Function.update_of_ne other.1,table.within j other.2]

end

def commit (t:ℕ)(table:Table κ α):Table κ α where
 keys:=table.keys
 cell k:=(table.cell k).commit t
 nodup:=table.nodup
 within k other:=by
  rw[table.within k other]
  rfl

def rollback (t:ℕ)(table:Table κ α):Table κ α where
 keys:=table.keys
 cell k:=(table.cell k).rollback t
 nodup:=table.nodup
 within k other:=by
  rw[table.within k other]
  rfl

def ofRows [DecidableEq κ](keys:List κ)(row:κ→α):Table κ α where
 keys:=keys.dedup
 cell k:=if k∈keys then ⟨some (row k),none⟩ else .absent
 nodup:=keys.nodup_dedup
 within _ other:=if_neg fun mem=>other (List.mem_dedup.mpr mem)

variable {t:ℕ}{p:κ→α→Bool}{f:α→α}{table:Table κ α}{k:κ}{row:α}

lemma nodup_find:(table.find t p).Nodup:=table.nodup.filter _

lemma mem_find:k∈table.find t p ↔ ∃row,(table.cell k).view t=some row ∧ p k row=true:=by
 rw[find,List.mem_filter,Option.any_eq_true]
 refine ⟨And.right,fun seen=>⟨?_,seen⟩⟩
 by_contra other
 obtain ⟨row,is,-⟩:=seen
 rw[table.within k other] at is
 cases is

/-- A committed row that meets the condition is found, unless the transaction holds it. -/
lemma mem_find_or_held (there:(table.cell k).committed=some row)(holds:p k row=true) :
 k∈table.find t p ∨ ∃row',(table.cell k).pending=some (t,row'):=by
 by_cases held:∃row',(table.cell k).pending=some (t,row')
 · exact .inr held
 · have free:∀row',(table.cell k).pending≠some (t,row'):=
    fun row' pending=>held ⟨row',pending⟩
   exact .inl (mem_find.mpr ⟨row,(Cell.view_of_other free).trans there,holds⟩)

@[simp] lemma commit_cell:(table.commit t).cell k=(table.cell k).commit t:=rfl

section
variable [DecidableEq κ]{targets:List κ}

lemma write_cell_of_not_mem (other:k∉targets) :
 (table.write t targets p f).cell k=table.cell k:=if_neg other

variable (t targets p f table k) in
/-- What an `UPDATE` does to a row. -/
lemma write_cases : ((table.write t targets p f).cell k=table.cell k ∧
   (k∈targets→∀row,(table.cell k).view t=some row→p k row=false)) ∨
  ∃row,k∈targets ∧ (table.cell k).view t=some row ∧ p k row=true ∧
   (table.write t targets p f).cell k=⟨(table.cell k).committed,some (t,f row)⟩:=by
 by_cases mem:k∈targets
 · have here:(table.write t targets p f).cell k=(table.cell k).write t (p k) f:=if_pos mem
   rw[here]
   rcases Cell.write_cases with ⟨same,fails⟩|⟨row,seen,holds,is⟩
   · exact .inl ⟨same,fun _=>fails⟩
   · exact .inr ⟨row,mem,seen,holds,is⟩
 · exact .inl ⟨write_cell_of_not_mem mem,fun mem'=>absurd mem' mem⟩

lemma held_of_write (there:(table.cell k).committed=some row)(holds:p k row=true)
 (found:k∈targets ∨ ∃row',(table.cell k).pending=some (t,row')) :
 ∃row',((table.write t targets p f).cell k).pending=some (t,row'):=by
 rcases write_cases t p f table k targets with ⟨same,fails⟩|⟨old,-,-,-,cell⟩
 · rw[same]
   rcases found with mem|held
   · by_contra free
     have free:∀row',(table.cell k).pending≠some (t,row'):=fun row' pending=>free ⟨row',pending⟩
     cases (fails mem row ((Cell.view_of_other free).trans there)).symm.trans holds
   · exact held
 · exact ⟨_,congrArg Cell.pending cell⟩

variable (t targets f table k) in
/-- What `t` sees after an `UPDATE` of the rows it has found. -/
lemma view_write:((table.write t targets (fun _ _=>true) f).cell k).view t =
 if k∈targets then ((table.cell k).view t).map f else (table.cell k).view t:=by
 rcases write_cases t (fun _ _=>true) f table k targets with
  ⟨same,fails⟩ | ⟨row,mem,seen,-,is⟩
 · rw[same]
   split
   · rename_i mem
     cases seen:(table.cell k).view t with
     | none=>rfl
     | some row=>cases fails mem row seen
   · rfl
 · rw[is,if_pos mem,seen]
   exact Cell.view_of_pending rfl

lemma write_absent (absent:table.cell k=.absent) : (table.write t targets p f).cell k=.absent:=by
 rcases write_cases t p f table k targets with ⟨same,-⟩|⟨row,-,seen,-⟩
 · exact same.trans absent
 · rw[absent] at seen
   cases seen

@[simp] lemma write_committed :
 ((table.write t targets p f).cell k).committed=(table.cell k).committed:=by
 change (if k∈targets then _ else _:Cell α).committed=_
 split
 · exact Cell.write_committed
 · rfl

lemma insert_cell_self : (table.insert t k row).cell k={table.cell k with pending:=some (t,row)}:=
 Function.update_self _ _ _

lemma insert_cell_of_ne {j:κ}(other:j≠k):(table.insert t k row).cell j=table.cell j:=
 Function.update_of_ne other _ _

@[simp] lemma insert_committed {j:κ} :
 ((table.insert t k row).cell j).committed=(table.cell j).committed:=by
 by_cases same:j=k
 · subst same
   rw[insert_cell_self]
 · rw[insert_cell_of_ne same]

end

/-- A statement of `t` commits nothing, and takes no lock from another transaction. -/
structure Local (t:ℕ)(table table':Table κ α):Prop where
 committed:∀k,(table'.cell k).committed=(table.cell k).committed
 others:∀k u row,u≠t →((table'.cell k).pending=some (u,row) ↔ (table.cell k).pending=some (u,row))

lemma Local.refl (t:ℕ)(table:Table κ α):Local t table table:=⟨fun _=>rfl,fun _ _ _ _=>Iff.rfl⟩

lemma Local.view {table':Table κ α}(loc:Local t table table'){u:ℕ}(other:u≠t)(k:κ) :
 (table'.cell k).view u=(table.cell k).view u:=by
 by_cases held:∃row,(table.cell k).pending=some (u,row)
 · obtain ⟨row,held⟩:=held
   rw[Cell.view_of_pending held,Cell.view_of_pending ((loc.others k u row other).mpr held)]
 · have free:∀row,(table.cell k).pending≠some (u,row):=fun row is=>held ⟨row,is⟩
   have free':∀row,(table'.cell k).pending≠some (u,row):=fun row is=>
    free row ((loc.others k u row other).mp is)
   rw[Cell.view_of_other free,Cell.view_of_other free',loc.committed]

lemma Local.trans {table' table'':Table κ α}(first:Local t table table')
 (second:Local t table' table''):Local t table table'' where
 committed k:=(second.committed k).trans (first.committed k)
 others k u row other:=(second.others k u row other).trans (first.others k u row other)

section
variable [DecidableEq κ]{targets:List κ}

lemma local_write (free:table.free t targets=true) : Local t table (table.write t targets p f) where
 committed _:=write_committed
 others k u row other:=by
  have cases':(table.write t targets p f).cell k=table.cell k ∨ k∈targets ∧
    ∃new,(table.write t targets p f).cell k=⟨(table.cell k).committed,some (t,new)⟩:=
   (write_cases t p f table k targets).imp And.left fun ⟨old,mem,_,_,is⟩=>⟨mem,f old,is⟩
  rcases cases' with same|⟨mem,new,is⟩
  · rw[same]
  · rw[is]
    refine iff_of_false (fun held=>?_) fun held=>?_
    · exact other (congrArg Prod.fst (Option.some.inj held)).symm
    · have here:=List.all_eq_true.mp free k mem
      rw[Cell.free,held] at here
      exact other (beq_iff_eq.mp here)

lemma local_insert (absent:table.cell k=.absent):Local t table (table.insert t k row) where
 committed _:=insert_committed
 others j u row' other:=by
  by_cases same:j=k
  · subst same
    rw[insert_cell_self,absent]
    refine iff_of_false (fun held=>?_) fun held=>by cases held
    exact other (congrArg Prod.fst (Option.some.inj held)).symm
  · rw[insert_cell_of_ne same]

end

lemma local_rollback:Local t table (table.rollback t) where
 committed _:=Cell.rollback_committed
 others _ _ _ other:=Cell.rollback_pending.trans (and_iff_right other)

lemma rollback_pending_ne:((table.rollback t).cell k).pending≠some (t,row):=
 fun held=>(Cell.rollback_pending.mp held).1 rfl

lemma commit_cell_of_other {u:ℕ}(other:u≠t)
 (held:(table.cell k).pending=some (u,row)):(table.commit t).cell k=table.cell k:=by
 rw[commit_cell,Cell.commit,held]
 exact if_neg other

/-- A committed row is the old one, or what `t` wrote. -/
lemma committed_of_commit (there:((table.commit t).cell k).committed=some row) :
 (table.cell k).pending=some (t,row) ∨
  (∀row',(table.cell k).pending≠some (t,row')) ∧ (table.cell k).committed=some row:=
 Cell.of_view (Cell.commit_committed.symm.trans there)

end Table

end Kivou.ReadCommitted
