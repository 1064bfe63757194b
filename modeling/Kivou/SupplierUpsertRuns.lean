import Kivou.SupplierUpsertSteps
import Kivou.Runs

set_option autoImplicit false

/-! Where an upsert writes over the row that it has read, and no SIRENE supplier is the only one
with its domain, every committed row shows its last observation and says whether its domain is
shared. -/
namespace Kivou.SupplierUpserts
open ReadCommitted

section
variable {digest:String→String}{lockKey:String→ℤ}{w w':World}{t u:ℕ}
 {candidate:Candidate}{old:Option String}{updated:Bool}

lemma World.Written.domains_of_pending (written:w.Written t candidate old updated){ref:Ref}
 {row:Supplier}(pending:(w.suppliers.cell ref).pending=some (t,row)) :
 (∀domain,row.observed.primaryDomain=some domain →
   domain∈domains old candidate.observed.primaryDomain) ∧
  ∀before,(w.suppliers.cell ref).committed=some before →
   ∀domain,before.observed.primaryDomain=some domain →
    domain∈domains old candidate.observed.primaryDomain:=by
 rcases written.marks ref row pending with ⟨rfl,is⟩|⟨before,there,same,domain,mem,has⟩
 · obtain ⟨row',pending',shows,-,before⟩:=written.own is
   obtain rfl:=congrArg Prod.snd (Option.mem_unique pending' pending)
   refine ⟨fun domain has=>mem_domains.mpr (.inr ?_),fun old' there=>(before old' there).1⟩
   rw[shows] at has
   exact has
 · refine ⟨fun domain' has'=>?_,fun before' there' domain' has'=>?_⟩
   · rw[same,has] at has'
     exact Option.some.inj has' ▸ mem
   · obtain rfl:=Option.mem_unique there' there
     rw[has] at has'
     exact Option.some.inj has' ▸ mem

lemma see_commit (written:w.Written t candidate old updated)
 (holds:∀domain∈domains old candidate.observed.primaryDomain,w.Holds lockKey t domain)
 (other:u≠t){domain:String}(held:w.Holds lockKey u domain)(ref:Ref)
 (row:Supplier) :
 (w.commit t candidate).see u ref=some row ∧ row.observed.primaryDomain=some domain ↔
  w.see u ref=some row ∧ row.observed.primaryDomain=some domain:=by
 have outside:domain∉domains old candidate.observed.primaryDomain:=by
  intro mem
  exact other (Option.some.inj (held.symm.trans (holds domain mem)))
 unfold World.see
 change ((w.suppliers.cell ref).commit t).view u=some row ∧ _ ↔ _
 rcases Cell.commit_cases t (w.suppliers.cell ref) with
  ⟨row',pending,is⟩ | ⟨-,is⟩
 · obtain ⟨new,before⟩:=written.domains_of_pending pending
   have free:∀row,(w.suppliers.cell ref).pending≠some (u,row):=by
    intro row'' pending'
    rw[pending] at pending'
    exact other (congrArg Prod.fst (Option.some.inj pending')).symm
   rw[is,Cell.view_of_other free]
   refine iff_of_false ?_ ?_
   · rintro ⟨there,has⟩
     obtain rfl:=Option.some.inj there
     exact outside (new domain has)
   · rintro ⟨there,has⟩
     exact outside (before row there domain has)
 · rw[is]

lemma shares_commit (written:w.Written t candidate old updated)
 (holds:∀domain∈domains old candidate.observed.primaryDomain,w.Holds lockKey t domain)
 (other:u≠t){domain:String}(held:w.Holds lockKey u domain)(ref:Ref) :
 Shares ((w.commit t candidate).see u) ref domain ↔ Shares (w.see u) ref domain:=by
 have same:=see_commit written holds other held
 refine ⟨fun ⟨ref',row,differs,seen⟩=>?_,fun ⟨ref',row,differs,seen⟩=>?_⟩
 · exact ⟨ref',row,differs,(same ref' row).mp seen⟩
 · exact ⟨ref',row,differs,(same ref' row).mpr seen⟩

def World.Advances (w w':World):Prop:=∀ref before,(w.suppliers.cell ref).committed=some before →
  ∃row,(w'.suppliers.cell ref).committed=some row ∧
   before.observed.providerObservedAt≤row.observed.providerObservedAt ∧
   (ref.provider=.sirene→known before.observed.industry=true →
    row.observed.industry=before.observed.industry)

lemma World.Written.advances (written:w.Written t candidate old updated) :
 w.Advances (w.commit t candidate):=by
 intro ref before there
 change ∃row,((w.suppliers.cell ref).commit t).committed=some row ∧ _
 rcases Cell.commit_cases t (w.suppliers.cell ref) with
  ⟨row,pending,is⟩ | ⟨-,is⟩
 · rw[is]
   refine ⟨row,rfl,?_⟩
   rcases written.marks ref row pending with ⟨rfl,own⟩|⟨before',there',same,-⟩
   · obtain ⟨row',pending',shows,-,since⟩:=written.own own
     obtain rfl:=congrArg Prod.snd (Option.mem_unique pending' pending)
     obtain ⟨-,later,kept⟩:=since before there
     refine ⟨?_,kept⟩
     rw[shows]
     exact later
   · obtain rfl:=Option.mem_unique there there'
     rw[same]
     exact ⟨Int.le_refl _,fun _ _=>rfl⟩
 · rw[is]
   exact ⟨before,there,Int.le_refl _,fun _ _=>rfl⟩

lemma World.Written.recorded (written:w.Written t candidate old updated)
 (inv:w.Inv digest lockKey)(ref:Ref)(row:Supplier)
 (there:((w.commit t candidate).suppliers.cell ref).committed=some row) :
 (w.commit t candidate).Recorded ref row:=by
 -- an older observation of a row that was there already
 have kept {before:Supplier}(there':(w.suppliers.cell ref).committed=some before)
   (same:row.observed=before.observed)
   (behind:ref=candidate.ref→w.Behind candidate) :
   (w.commit t candidate).Recorded ref row:=by
  obtain ⟨shown,mem,of,shows,industry,last⟩:=inv.recorded ref before there'
  rw[←same] at shows industry last
  refine ⟨shown,List.mem_cons_of_mem _ mem,of,shows,?_,fun other mem' of'=>?_⟩
  · exact industry.imp_right fun ⟨is,sirene,older,mem',rest⟩=>
     ⟨is,sirene,older,List.mem_cons_of_mem _ mem',rest⟩
  · rcases List.mem_cons.mp mem' with rfl|older
    · obtain ⟨before',there'',later⟩:=behind of'.symm
      rw[of',there'] at there''
      rw[same,Option.some.inj there'']
      exact later
    · exact last other older of'
 rcases Table.committed_of_commit there with pending|⟨free,was⟩
 · rcases written.marks ref row pending with ⟨rfl,own⟩|⟨before,was,same,-⟩
   · obtain ⟨row',pending',shows,industry,since⟩:=written.own own
     obtain rfl:=congrArg Prod.snd (Option.mem_unique pending' pending)
     refine ⟨candidate,List.mem_cons_self,rfl,shows,?_,fun other mem of=>?_⟩
     · exact industry.imp_right fun ⟨is,sirene,older,mem',rest⟩=>
        ⟨is,sirene,older,List.mem_cons_of_mem _ mem',rest⟩
     · have at':row'.observed.providerObservedAt=candidate.observed.providerObservedAt:=by
        rw[shows]
       rw[at']
       rcases List.mem_cons.mp mem with rfl|older
       · exact Int.le_refl _
       · obtain ⟨before,there'⟩:=inv.there other older
         rw[of] at there'
         obtain ⟨-,-,-,-,-,last⟩:=inv.recorded candidate.ref before there'
         exact Int.le_trans (last other older of) (since before there').2.1
   · refine kept was same fun is=>?_
     cases updated with
     | false=>exact written.behind rfl
     | true =>
      obtain ⟨row',pending',shows,-,since⟩:=written.own rfl
      rw[←is] at pending' since
      obtain rfl:=congrArg Prod.snd (Option.mem_unique pending' pending)
      exact ⟨before,is ▸ was,Int.le_of_eq (by rw[←same,shows])⟩
 · refine kept was rfl fun is=>?_
   cases updated with
   | false=>exact written.behind rfl
   | true =>
    obtain ⟨row',pending',-⟩:=written.own rfl
    rw[←is] at pending'
    exact absurd pending' (free row')

/-- What `t` sees is what it commits. -/
lemma committed_commit (ref:Ref) :
 ((w.commit t candidate).suppliers.cell ref).committed=w.see t ref:=
 Cell.commit_committed

lemma World.Reconciling.right (reconciling:w.Reconciling digest lockKey t candidate old updated [])
 (inv:w.Inv digest lockKey)(ref:Ref)(row:Supplier)(seen:w.see t ref=some row) :
 Right digest (w.see t) ref row:=by
 have written:=reconciling.toWritten
 cases has:row.observed.primaryDomain with
 | none =>
  refine ⟨fun domain is=>absurd (has.symm.trans is) (by simp),fun _=>?_⟩
  rcases Cell.of_view seen with pending|⟨-,was⟩
  · exact reconciling.neutral ref row pending has
  · refine (inv.right ref row was).neutral fun domain is=>?_
    rw[has] at is
    cases is
 | some domain =>
  by_cases mem:domain∈domains old candidate.observed.primaryDomain
  · rcases reconciling.reconciled domain mem with none|reconciled
    · cases none
    · exact (reconciled ref row seen has).2
  · have was:(w.suppliers.cell ref).committed=some row:=by
     rcases Cell.of_view seen with pending|⟨-,was⟩
     · exact absurd ((written.domains_of_pending pending).1 domain has) mem
     · exact was
    -- the suppliers of this domain are those that it had
    have same (other:Ref)(row':Supplier) :
      w.see t other=some row' ∧ row'.observed.primaryDomain=some domain ↔
       (w.suppliers.cell other).committed=some row' ∧
        row'.observed.primaryDomain=some domain:=by
     by_cases held:∃row'',(w.suppliers.cell other).pending=some (t,row'')
     · obtain ⟨row'',pending⟩:=held
       obtain ⟨new,before⟩:=written.domains_of_pending pending
       unfold World.see
       rw[Cell.view_of_pending pending]
       refine iff_of_false ?_ ?_
       · rintro ⟨there,has'⟩
         obtain rfl:=Option.some.inj there
         exact mem (new domain has')
       · rintro ⟨there,has'⟩
         exact mem (before row' there domain has')
     · have free:∀row'',(w.suppliers.cell other).pending≠some (t,row''):=
        fun row'' pending=>held ⟨row'',pending⟩
       unfold World.see
       rw[Cell.view_of_other free]
    refine (inv.right ref row was).congr fun domain' has'=>?_
    obtain rfl:=Option.mem_unique has has'
    refine ⟨fun ⟨ref',row',differs,seen'⟩=>?_,fun ⟨ref',row',differs,seen'⟩=>?_⟩
    · exact ⟨ref',row',differs,(same ref' row').mp seen'⟩
    · exact ⟨ref',row',differs,(same ref' row').mpr seen'⟩

section
variable {own:Candidate}{old':Option String}{updated':Bool}

lemma written_commit (other:u≠t)(advances:w.Advances (w.commit t candidate))
 (written:w.Written u own old' updated') :
 (w.commit t candidate).Written u own old' updated' where
 own is:=by
  obtain ⟨row,pending,shows,industry,before⟩:=written.own is
  have same:(w.commit t candidate).suppliers.cell own.ref=w.suppliers.cell own.ref:=
   Table.commit_cell_of_other other pending
  unfold World.Own
  rw[same]
  refine ⟨row,pending,shows,?_,before⟩
  exact industry.imp_right fun ⟨is,sirene,older,mem',rest⟩=>
   ⟨is,sirene,older,List.mem_cons_of_mem _ mem',rest⟩
 behind is:=by
  obtain ⟨before,there,later⟩:=written.behind is
  obtain ⟨row,there',forward,-⟩:=advances own.ref before there
  exact ⟨row,there',Int.le_trans later forward⟩
 marks ref row pending:=by
  have held:=(Cell.commit_pending.mp pending).2
  have same:(w.commit t candidate).suppliers.cell ref=w.suppliers.cell ref:=
   Table.commit_cell_of_other other held
  rw[same]
  exact written.marks ref row held

lemma settled_commit (other:u≠t)(advances:w.Advances (w.commit t candidate))
 (settled:w.Settled u own old' updated') :
 (w.commit t candidate).Settled u own old' updated' where
 toWritten:=written_commit other advances settled.toWritten
 neutral ref row pending:=settled.neutral ref row (Cell.commit_pending.mp pending).2

lemma holds_commit (other:u≠t){domain:String}(holds:w.Holds lockKey u domain) :
 (w.commit t candidate).Holds lockKey u domain:=by
 change (if w.locks (lockKey domain)=some t then none else w.locks (lockKey domain))=some u
 rw[holds,if_neg fun is=>other (Option.some.inj is)]

lemma reconciling_commit (other:u≠t)
 (closing:w.Reconciling digest lockKey t candidate old updated []){rest:List String}
 (reconciling:w.Reconciling digest lockKey u own old' updated' rest) :
 (w.commit t candidate).Reconciling digest lockKey u own old' updated' rest where
 toSettled:=settled_commit other closing.advances reconciling.toSettled
 holds domain mem:=holds_commit other (reconciling.holds domain mem)
 within:=reconciling.within
 reconciled domain mem:=by
  have held:=reconciling.holds domain mem
  refine (reconciling.reconciled domain mem).imp_right fun reconciled ref row seen is=>?_
  have seen':=(see_commit closing.toWritten closing.holds other held ref row).mp ⟨seen,is⟩
  obtain ⟨⟨row',pending⟩,right⟩:=reconciled ref row seen'.1 is
  refine ⟨⟨row',Cell.commit_pending.mpr ⟨other,pending⟩⟩,right.congr fun domain' is'=>?_⟩
  obtain rfl:=Option.mem_unique is is'
  exact shares_commit closing.toWritten closing.holds other held ref

end

lemma World.Reconciling.commit (closing:w.Reconciling digest lockKey t candidate old updated [])
 (inv:w.Inv digest lockKey):(w.commit t candidate).Inv digest lockKey:=by
 have advances:=closing.advances
 have still (v:ℕ):(w.commit t candidate).txns v=if v=t then none else w.txns v:=
  Function.update_apply _ _ _ _
 have idle {v:ℕ}(idle:w.Idle v):(w.commit t candidate).Idle v:=
  fun ref row pending=>idle ref row (Cell.commit_pending.mp pending).2
 have there {ref:Ref}(there:∃before,(w.suppliers.cell ref).committed=some before) :
   ∃before,((w.commit t candidate).suppliers.cell ref).committed=some before:=by
  obtain ⟨before,there⟩:=there
  obtain ⟨row,there',-⟩:=advances ref before there
  exact ⟨row,there'⟩
 have read {own:Candidate}{existing:Supplier}(read:w.Read own existing) :
   (w.commit t candidate).Read own existing:=by
  refine ⟨there read.there,fun is=>?_⟩
  obtain ⟨before,mem,rest⟩:=read.industry is
  exact ⟨before,List.mem_cons_of_mem _ mem,rest⟩
 refine ⟨?_,?_,?_,?_,?_⟩
 · intro v txn is
   rw[still] at is
   split at is
   · cases is
   rename_i other
   have facts:=inv.facts v txn is
   obtain ⟨own,stage⟩:=txn
   cases stage with
   | begun=>exact idle facts
   | inserted created =>
    cases created with
    | false=>exact ⟨idle facts.1,there facts.2⟩
    | true =>
     have pending:(w.suppliers.cell own.ref).pending=some (v,own.insertValues):=by
      rw[facts.1]
     refine ⟨(Table.commit_cell_of_other other pending).trans facts.1,fun ref row held=>?_⟩
     exact facts.2 ref row (Cell.commit_pending.mp held).2
   | selected existing=>exact ⟨idle facts.1,read facts.2⟩
   | updating existing targets =>
    refine ⟨idle facts.1,read facts.2.1,facts.2.2.imp_right ?_⟩
    rintro ⟨before,was,later⟩
    obtain ⟨row,there',forward,-⟩:=advances own.ref before was
    exact ⟨row,there',Int.le_trans later forward⟩
   | settling old' updated'=>exact written_commit other advances facts
   | locking old' updated' rest =>
    refine ⟨settled_commit other advances facts.1,facts.2.1,fun domain mem=>?_⟩
    exact (facts.2.2 domain mem).imp_right (holds_commit other)
   | reconciling old' updated' rest=>exact reconciling_commit other closing facts
   | marking old' updated' domain refs rest =>
    obtain ⟨reconciling,nodup,mem⟩:=facts
    have held:=reconciling.holds domain (reconciling.within domain List.mem_cons_self)
    refine ⟨reconciling_commit other closing reconciling,nodup,fun ref=>(mem ref).trans ?_⟩
    exact exists_congr fun row=>(see_commit closing.toWritten closing.holds other held ref row).symm
 · intro v is
   rw[still] at is
   split at is
   · rename_i own
     subst own
     exact fun ref row pending=>(Cell.commit_pending.mp pending).1 rfl
   · exact idle (inv.owned v is)
 · exact closing.toWritten.recorded inv
 · intro before mem
   rcases List.mem_cons.mp mem with rfl|older
   · cases updated with
     | false =>
      obtain ⟨row,was,-⟩:=closing.behind rfl
      exact there ⟨row,was⟩
     | true =>
      obtain ⟨row,pending,-⟩:=closing.own rfl
      exact ⟨row,Cell.commit_committed.trans (Cell.view_of_pending pending)⟩
   · exact there (inv.there before older)
 · intro ref row is
   have same:(fun ref=>((w.commit t candidate).suppliers.cell ref).committed)=w.see t:=
    funext committed_commit
   rw[same]
   rw[committed_commit] at is
   exact closing.right inv ref row is

lemma World.Local.advances (loc:World.Local t w w'):w.Advances w':=by
 intro ref before there
 rw[loc.suppliers.committed]
 exact ⟨before,there,Int.le_refl _,fun _ _=>rfl⟩

lemma World.Advances.trans {w'':World}(first:w.Advances w')(second:w'.Advances w'') :
 w.Advances w'':=by
 intro ref before there
 obtain ⟨row,there',forward,kept⟩:=first ref before there
 obtain ⟨row',there'',forward',kept'⟩:=second ref row there'
 refine ⟨row',there'',Int.le_trans forward forward',fun sirene industry=>?_⟩
 have same:=kept sirene industry
 rw[←same] at industry
 exact (kept' sirene industry).trans same

end

/-- An upsert writes over the row that it has read, as far as its domain and a SIRENE
industry go, and marks no SIRENE supplier that is the only one of its domain. -/
def World.Undisturbed (w:World)(t:ℕ)(candidate:Candidate):Stage→Prop
 | .updating existing targets=>w.suppliers.free t targets=true →
  ∀row,(w.suppliers.cell candidate.ref).committed=some row →
   row.observed.providerObservedAt≤candidate.observed.providerObservedAt →
   (∀domain,row.observed.primaryDomain=some domain→domain ∈
    domains existing.observed.primaryDomain candidate.observed.primaryDomain) ∧
   (candidate.ref.provider=.sirene→known row.observed.industry=true →
    existing.observed.industry=row.observed.industry)
 | .marking _ _ _ refs _=>w.suppliers.free t refs=true →∀ref,refs=[ref] → ref.provider≠.sirene
 | .begun | .inserted _ | .selected _ | .settling _ _ | .locking _ _ _ | .reconciling _ _ _=>True

def World.Safe (w:World):Op→Prop
 | .advance t=>∀txn,w.txns t=some txn→w.Undisturbed t txn.candidate txn.stage
 | .begin _ _ | .rollback _=>True

instance (w:World)(t:ℕ)(candidate:Candidate)(stage:Stage) :
 Decidable (w.Undisturbed t candidate stage):=by
 cases stage with
 | updating existing targets =>
  have domain:∀row:Supplier,Decidable (∀domain,row.observed.primaryDomain=some domain →
    domain∈domains existing.observed.primaryDomain candidate.observed.primaryDomain):=
   fun row=>inferInstanceAs (Decidable (∀domain∈row.observed.primaryDomain,_))
  exact inferInstanceAs (Decidable (_→∀row∈(w.suppliers.cell candidate.ref).committed,
   _→_ ∧ (_→_→_)))
 | marking old updated domain refs rest =>
  refine decidable_of_iff (w.suppliers.free t refs=true →
   ∀ref∈refs,refs=[ref] → ref.provider≠.sirene) ?_
  refine imp_congr_right fun _=>forall_congr' fun ref=>⟨fun all is=>all ?_ is,fun all _=>all⟩
  rw[is]
  exact List.mem_singleton_self _
 | _=>exact inferInstanceAs (Decidable True)

instance (w:World)(op:Op):Decidable (w.Safe op):=by
 cases op with
 | advance t=>exact inferInstanceAs (Decidable (∀txn∈w.txns t,_))
 | _=>exact inferInstanceAs (Decidable True)

/-- The committed rows say whether their domains are shared, and show what was observed last. -/
structure World.Consistent (digest:String→String)(w:World):Prop where
 right:∀ref row,(w.suppliers.cell ref).committed=some row →
  Right digest (fun ref=>(w.suppliers.cell ref).committed) ref row
 recorded:∀ref row,(w.suppliers.cell ref).committed=some row→w.Recorded ref row

section
variable {digest:String→String}{lockKey:String→ℤ}{w:World}

lemma start_inv:World.start.Inv digest lockKey:=by
 refine ⟨?_,?_,?_,?_,?_⟩
 · intro t txn is
   cases is
 · intro t _ ref row pending
   cases pending
 · intro ref row there
   cases there
 · intro before mem
   cases mem
 · intro ref row there
   cases there

lemma step_inv (inv:w.Inv digest lockKey){op:Op}(safe:w.Safe op) :
 (step digest lockKey w op).Inv digest lockKey ∧ w.Advances (step digest lockKey w op):=by
 have quiet {t:ℕ}{w':World}(stepped:World.Local t w w' ∧ w'.Inv digest lockKey) :
   w'.Inv digest lockKey ∧ w.Advances w':=⟨stepped.2,stepped.1.advances⟩
 cases op with
 | begin t candidate =>
  unfold step
  dsimp only
  split
  · rename_i free
    have idle:w.Idle t:=inv.owned t (Option.isNone_iff_eq_none.mp free)
    have begun:w.Facts digest lockKey t candidate .begun:=idle
    exact quiet (inv.put begun)
  · exact quiet (inv.same t)
 | rollback t=>exact quiet (inv.rollback t)
 | advance t =>
  unfold step
  dsimp only
  cases is:w.txns t with
  | none=>exact quiet (inv.same t)
  | some txn =>
   have undisturbed:=safe txn is
   rw[Option.elim_some]
   obtain ⟨candidate,stage⟩:=txn
   cases stage with
   | begun=>exact quiet (inv.advance_begun is)
   | inserted created=>exact quiet (inv.advance_inserted is)
   | selected existing=>exact quiet (inv.advance_selected is)
   | updating existing targets=>exact quiet (inv.advance_updating is undisturbed)
   | settling old updated=>exact quiet (inv.advance_settling is)
   | locking old updated rest=>exact quiet (inv.advance_locking is)
   | reconciling old updated rest =>
    cases rest with
    | nil =>
     have closing:w.Reconciling digest lockKey t candidate old updated []:=inv.facts t _ is
     exact ⟨closing.commit inv,closing.advances⟩
    | cons domain rest=>exact quiet (inv.advance_reconciling is)
   | marking old updated domain refs rest=>exact quiet (inv.advance_marking is undisturbed)

end

/-- Where each step is undisturbed, every state reached is consistent, and no row went
back on the way. -/
theorem upserts_consistent (digest:String→String)(lockKey:String→ℤ)(ops:List Op)
 (safe:Runs.Along (step digest lockKey) World.Safe World.start ops) :
 ∀done,done <+: ops →(done.foldl (step digest lockKey) World.start).Consistent digest ∧
   ∀earlier,earlier <+: done →(earlier.foldl (step digest lockKey) World.start).Advances
     (done.foldl (step digest lockKey) World.start):=by
 intro done here
 have refl:∀w:World,w.Advances w:=fun w ref before there=>⟨before,there,Int.le_refl _,fun _ _=>rfl⟩
 have start:World.start.Inv digest lockKey:=start_inv
 obtain ⟨inv,advances⟩:=Runs.Along.forward refl World.Advances.trans
  (fun _ _ inv safe=>step_inv inv safe) safe start here
 exact ⟨⟨inv.right,inv.recorded⟩,advances⟩

def sampleCandidate (provider:Provider)(name:String)(domain:Option String)(at':ℤ) :
 Candidate:=
 ⟨⟨provider,name⟩,⟨name,name,domain,none,none,none,none,none,at', ""⟩⟩

def upsert (t:ℕ)(candidate:Candidate)(statements:ℕ):List Op:=
 .begin t candidate::List.replicate statements (.advance t)

def sireneAlone:List Op:=upsert 0 (sampleCandidate .sirene "331364729" (some "a.fr") 1) 8

def readBefore:List Op:=upsert 0 (sampleCandidate .apollo "a" none 1) 5 ++
  upsert 1 (sampleCandidate .apollo "b" (some "a.fr") 1) 8 ++
  upsert 2 (sampleCandidate .apollo "a" none 3) 3 ++
  upsert 3 (sampleCandidate .apollo "a" (some "a.fr") 2) 10++List.replicate 4 (.advance 2)

theorem upserts_disturbed : ¬(sireneAlone.foldl (step id fun _=>0) World.start).Consistent id ∧
  ¬(readBefore.foldl (step id fun _=>0) World.start).Consistent id:=by
 refine ⟨fun consistent=>?_,fun consistent=>?_⟩
 · have row:((sireneAlone.foldl (step id fun _=>0) World.start).suppliers.cell
     ⟨.sirene,"331364729"⟩).committed=some ⟨(sampleCandidate .sirene "331364729" (some "a.fr")
      1).observed,.providerIdentified,none⟩:=by decide +kernel
   have right:=consistent.right _ _ row
   have keys:(sireneAlone.foldl (step id fun _=>0) World.start).suppliers.keys =
     [⟨.sirene,"331364729"⟩]:=by decide +kernel
   have alone:=right.neutral fun domain _=>?_
   · cases alone.1
   · rintro ⟨other,row',differs,there,-⟩
     have outside:=(sireneAlone.foldl (step id fun _=>0) World.start).suppliers.within other
      (by rw[keys];simpa using differs)
     dsimp only at there
     rw[outside] at there
     cases there
 · have row:((readBefore.foldl (step id fun _=>0) World.start).suppliers.cell
     ⟨.apollo,"b"⟩).committed=some ⟨(sampleCandidate .apollo "b" (some "a.fr") 1).observed,
      .domainConflict,some "a.fr"⟩:=by decide +kernel
   have bare:((readBefore.foldl (step id fun _=>0) World.start).suppliers.cell
     ⟨.apollo,"a"⟩).committed=some ⟨(sampleCandidate .apollo "a" none 3).observed,
      .providerIdentified,none⟩:=by decide +kernel
   have keys:(readBefore.foldl (step id fun _=>0) World.start).suppliers.keys =
     [⟨.apollo,"b"⟩,⟨.apollo,"a"⟩]:=by decide +kernel
   have alone:=(consistent.right _ _ row).neutral fun domain _=>?_
   · cases alone.1
   · rintro ⟨other,row',differs,there,has⟩
     by_cases is:other=⟨.apollo,"a"⟩
     · subst is
       obtain rfl:=Option.mem_unique bare there
       cases has
     · have outside:=(readBefore.foldl (step id fun _=>0) World.start).suppliers.within other
        (by rw[keys];simp[differs,is])
       dsimp only at there
       rw[outside] at there
       cases there

/-- A second supplier of a domain waits for the first one, which moves to another domain later. -/
def movedAway:List Op:=upsert 0 (sampleCandidate .apollo "a" (some "a.fr") 1) 4 ++
  upsert 1 (sampleCandidate .apollo "b" (some "a.fr") 1) 6++List.replicate 4 (.advance 0) ++
  List.replicate 5 (.advance 1) ++
  upsert 2 (sampleCandidate .apollo "a" (some "b.fr") 2) 13

theorem upserts_consistent_sample :
 ((movedAway.take 22).foldl (step id fun _=>0) World.start).txns 1=none ∧
  (((movedAway.take 22).foldl (step id fun _=>0) World.start).suppliers.cell
   ⟨.apollo,"b"⟩).committed.map (·.identityStatus)=some .domainConflict ∧
  ((movedAway.foldl (step id fun _=>0) World.start).suppliers.cell
   ⟨.apollo,"b"⟩).committed.map (·.identityStatus)=some .providerIdentified ∧
  (movedAway.foldl (step id fun _=>0) World.start).Consistent id:=by
 have safe:Runs.Along (step id fun _=>0) World.Safe World.start movedAway:=by decide +kernel
 exact ⟨by decide +kernel,by decide +kernel,by decide +kernel,
  (upserts_consistent id (fun _=>0) movedAway safe movedAway (List.prefix_refl _)).1⟩

end Kivou.SupplierUpserts
