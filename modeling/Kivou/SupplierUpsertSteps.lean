import Kivou.SupplierUpsertFacts

set_option autoImplicit false

/-! Each statement leaves the other upserts alone and does what its next stage says, where it writes
over the row that was read, and marks no SIRENE supplier as an Apollo one. -/
namespace Kivou.SupplierUpserts
open ReadCommitted

section
variable {digest:String→String}{lockKey:String→ℤ}{w:World}{t:ℕ} {candidate:Candidate}

variable {v:ℕ}{other:Candidate}{stage:Stage}

lemma World.Settled.put {old:Option String}
 {updated:Bool}(settled:w.Settled t candidate old updated) :
 (w.put v other stage).Settled t candidate old updated:=
 ⟨⟨settled.own,settled.behind,settled.marks⟩,settled.neutral⟩

lemma World.Reconciling.put {old:Option String} {updated:Bool}{rest:List String}
 (reconciling:w.Reconciling digest lockKey t candidate old updated rest) :
 (w.put v other stage).Reconciling digest lockKey t candidate old updated rest:=
 ⟨reconciling.toSettled.put,reconciling.holds,reconciling.within,reconciling.reconciled⟩

lemma World.Facts.put {stage':Stage} (facts:w.Facts digest lockKey t candidate stage) :
 (w.put v other stage').Facts digest lockKey t candidate stage:=by
 cases stage with
 | begun=>exact facts
 | inserted created=>cases created <;> exact facts
 | selected existing=>exact ⟨facts.1,facts.2.there,facts.2.industry⟩
 | updating existing targets =>exact ⟨facts.1,⟨facts.2.1.there,facts.2.1.industry⟩,facts.2.2⟩
 | settling old updated=>exact ⟨facts.own,facts.behind,facts.marks⟩
 | locking old updated rest=>exact ⟨facts.1.put,facts.2⟩
 | reconciling old updated rest=>exact World.Reconciling.put facts
 | marking old updated domain refs rest =>exact ⟨facts.1.put,facts.2.nodup,facts.2.mem⟩

lemma World.Inv.put (inv:w.Inv digest lockKey) (facts:w.Facts digest lockKey t candidate stage) :
 World.Local t w (w.put t candidate stage) ∧ (w.put t candidate stage).Inv digest lockKey:=by
 have loc:World.Local t w (w.put t candidate stage):=
  ⟨.refl t _,fun _ _ _=>id,fun u other=>Function.update_of_ne other _ _,rfl⟩
 have is:(w.put t candidate stage).txns t=some ⟨candidate,stage⟩:=Function.update_self _ _ _
 refine ⟨loc,inv.step loc (fun txn is'=>?_) fun none=>?_⟩
 · obtain rfl:=Option.mem_unique is is'
   exact facts.put
 · rw[is] at none
   cases none

lemma World.Inv.write (inv:w.Inv digest lockKey){suppliers:Table Ref Supplier}
 (loc:w.suppliers.Local t suppliers)
 (facts:{w with suppliers}.Facts digest lockKey t candidate stage) :
 World.Local t w ({w with suppliers}.put t candidate stage) ∧
  ({w with suppliers}.put t candidate stage).Inv digest lockKey:=by
 have loc:World.Local t w ({w with suppliers}.put t candidate stage):=
  ⟨loc,fun _ _ _=>id,fun u other=>Function.update_of_ne other _ _,rfl⟩
 have is:({w with suppliers}.put t candidate stage).txns t=some ⟨candidate,stage⟩:=
  Function.update_self _ _ _
 refine ⟨loc,inv.step loc (fun txn is'=>?_) fun none=>?_⟩
 · obtain rfl:=Option.mem_unique is is'
   exact facts.put
 · rw[is] at none
   cases none

lemma World.Inv.rollback (inv:w.Inv digest lockKey)(t:ℕ) :
 World.Local t w (w.rollback t) ∧ (w.rollback t).Inv digest lockKey:=by
 have is:(w.rollback t).txns t=none:=Function.update_self _ _ _
 have loc:World.Local t w (w.rollback t):=by
  refine ⟨Table.local_rollback,fun u other key held=>?_,
   fun u other=>Function.update_of_ne other _ _,rfl⟩
  change (if w.locks key=some t then none else w.locks key)=some u
  rw[held,if_neg fun is=>other (Option.some.inj is)]
 refine ⟨loc,inv.step loc (fun txn is'=>?_) fun _ ref row=>Table.rollback_pending_ne⟩
 rw[is] at is'
 cases is'

lemma World.Idle.committed (idle:w.Idle t)(ref:Ref) :
 w.see t ref=(w.suppliers.cell ref).committed:=Cell.view_of_other (idle ref)

/-- The `INSERT`. -/
lemma World.Inv.advance_begun (inv:w.Inv digest lockKey) (is:w.txns t=some ⟨candidate,.begun⟩) :
 World.Local t w (w.advance digest lockKey t candidate .begun) ∧
  (w.advance digest lockKey t candidate .begun).Inv digest lockKey:=by
 have idle:w.Idle t:=inv.facts t _ is
 unfold World.advance
 dsimp only
 split
 · rename_i free
   cases seen:w.see t candidate.ref with
   | none =>
    rw[idle.committed] at seen
    have unlocked:(w.suppliers.cell candidate.ref).pending=none:=by
     cases pending:(w.suppliers.cell candidate.ref).pending with
     | none=>rfl
     | some write =>
      obtain ⟨writer,row⟩:=write
      unfold Cell.free at free
      rw[pending,Option.all_some,beq_iff_eq] at free
      subst free
      exact absurd pending (idle _ row)
    have absent:w.suppliers.cell candidate.ref=.absent:=by
     cases cell:w.suppliers.cell candidate.ref
     rw[cell] at seen unlocked
     exact congrArg₂ Cell.mk seen unlocked
    refine inv.write (Table.local_insert absent) ⟨?_,fun ref row pending=>?_⟩
    · refine Table.insert_cell_self.trans ?_
      rw[absent]
      rfl
    · by_contra other
      change ((w.suppliers.insert t candidate.ref candidate.insertValues).cell ref).pending =
       some (t,row) at pending
      rw[Table.insert_cell_of_ne other] at pending
      exact idle ref row pending
   | some before =>
    rw[idle.committed] at seen
    exact inv.put ⟨idle,before,seen⟩
 · exact ⟨⟨.refl t _,fun _ _ _=>id,fun _ _=>rfl,rfl⟩,inv⟩

/-- The `SELECT` of the existing row. -/
lemma World.Inv.advance_inserted (inv:w.Inv digest lockKey){created:Bool}
 (is:w.txns t=some ⟨candidate,.inserted created⟩) :
 World.Local t w (w.advance digest lockKey t candidate (.inserted created)) ∧
  (w.advance digest lockKey t candidate (.inserted created)).Inv digest lockKey:=by
 have facts:=inv.facts t _ is
 unfold World.advance
 cases seen:w.see t candidate.ref with
 | none=>exact inv.rollback t
 | some existing =>
  cases created with
  | true =>
   obtain ⟨cell,only⟩:=facts
   have written:w.Written t candidate none true:=by
    refine ⟨fun _=>?_,fun is'=>(by cases is'),?_⟩
    · refine ⟨candidate.insertValues,congrArg Cell.pending cell,rfl,.inl rfl,?_⟩
      intro before there
      rw[cell] at there
      cases there
    · exact fun ref row pending=>.inl ⟨only ref row pending,rfl⟩
   exact inv.put written
  | false =>
   obtain ⟨idle,there⟩:=facts
   have was:(w.suppliers.cell candidate.ref).committed=some existing:=
    (idle.committed _).symm.trans seen
   dsimp only
   rw[if_neg Bool.false_ne_true]
   split
   · refine inv.put ⟨idle,there,fun _=>?_⟩
     obtain ⟨shown,mem,of,-,industry,-⟩:=inv.recorded _ existing was
     rcases industry with same|⟨-,-,before,mem',of',same⟩
     · exact ⟨shown,mem,of,same.symm⟩
     · exact ⟨before,mem',of'.trans of,same⟩
   · rename_i later
     have written:w.Written t candidate existing.observed.primaryDomain false:=
      ⟨fun is'=>(by cases is'),fun _=>⟨existing,was,by omega⟩,
       fun ref row pending=>absurd pending (idle ref row)⟩
     exact inv.put written

/-- The `UPDATE` finds the row, or the row is not older. -/
lemma World.Inv.advance_selected (inv:w.Inv digest lockKey){existing:Supplier}
 (is:w.txns t=some ⟨candidate,.selected existing⟩) :
 World.Local t w (w.advance digest lockKey t candidate (.selected existing)) ∧
  (w.advance digest lockKey t candidate (.selected existing)).Inv digest lockKey:=by
 obtain ⟨idle,read⟩:=inv.facts t _ is
 refine inv.put ⟨idle,read,?_⟩
 obtain ⟨before,there⟩:=read.there
 by_cases earlier:before.observed.providerObservedAt≤candidate.observed.providerObservedAt
 · refine .inl (Table.mem_find.mpr ⟨before,(idle.committed _).trans there,?_⟩)
   simpa[Candidate.updates] using earlier
 · exact .inr ⟨before,there,by omega⟩

lemma World.Inv.same (inv:w.Inv digest lockKey)(t:ℕ) : World.Local t w w ∧ w.Inv digest lockKey:=
 ⟨⟨.refl t _,fun _ _ _=>id,fun _ _=>rfl,rfl⟩,inv⟩

/-- The `UPDATE` of a row that was there, where it still is what was read. -/
lemma World.Inv.advance_updating (inv:w.Inv digest lockKey){existing:Supplier}
 {targets:List Ref}(is:w.txns t=some ⟨candidate,.updating existing targets⟩)
 (undisturbed:w.suppliers.free t targets=true →
  ∀row,(w.suppliers.cell candidate.ref).committed=some row →
   row.observed.providerObservedAt≤candidate.observed.providerObservedAt →
   (∀domain,row.observed.primaryDomain=some domain→domain ∈
    domains existing.observed.primaryDomain candidate.observed.primaryDomain) ∧
   (candidate.ref.provider=.sirene→known row.observed.industry=true →
    existing.observed.industry=row.observed.industry)) :
 World.Local t w (w.advance digest lockKey t candidate (.updating existing targets)) ∧
  (w.advance digest lockKey t candidate (.updating existing targets)).Inv digest lockKey:=by
 obtain ⟨idle,read,found⟩:=inv.facts t _ is
 unfold World.advance
 dsimp only
 split
 · rename_i free
   refine inv.write (Table.local_write free) ?_
   have committed (ref:Ref):((w.suppliers.write t targets candidate.updates fun row=>
     {row with observed:=candidate.values existing}).cell ref).committed =
      (w.suppliers.cell ref).committed:=Table.write_committed
   have write (ref:Ref):=Table.write_cases t candidate.updates (fun row:Supplier=>
    {row with observed:=candidate.values existing}) w.suppliers ref targets
   have hit:(targets.any fun ref=>(w.see t ref).any (candidate.updates ref))=true ↔
     candidate.ref∈targets ∧ ∃row,w.see t candidate.ref=some row ∧
      row.observed.providerObservedAt≤candidate.observed.providerObservedAt:=by
    rw[List.any_eq_true]
    constructor
    · rintro ⟨ref,mem,any⟩
      obtain ⟨row,seen,updates⟩:=(Option.any_eq_true _ _).mp any
      simp only[Candidate.updates,Bool.and_eq_true,beq_iff_eq,decide_eq_true_eq] at updates
      obtain ⟨rfl,earlier⟩:=updates
      exact ⟨mem,row,seen,earlier⟩
    · rintro ⟨mem,row,seen,earlier⟩
      refine ⟨_,mem,(Option.any_eq_true _ _).mpr ⟨row,seen,?_⟩⟩
      simpa[Candidate.updates] using earlier
   refine ⟨fun updated=>?_,fun missed=>?_,fun ref row pending=>?_⟩
   · obtain ⟨mem,row,seen,earlier⟩:=hit.mp updated
     have was:(w.suppliers.cell candidate.ref).committed=some row:=
      (idle.committed _).symm.trans seen
     obtain ⟨within,kept⟩:=undisturbed free row was earlier
     have updates:candidate.updates candidate.ref row=true:=by
      simpa[Candidate.updates] using earlier
     rcases write candidate.ref with ⟨-,fails⟩|⟨row',-,seen',-,cell⟩
     · rw[fails mem row seen] at updates
       cases updates
     refine ⟨_,congrArg Cell.pending cell,rfl,?_,fun before there=>?_⟩
     · change World.Industry _ candidate (candidate.values existing).industry
       by_cases keeps:candidate.ref.provider=.sirene ∧ known existing.observed.industry=true
       · have industry:(candidate.values existing).industry=existing.observed.industry:=
          if_pos keeps
         rw[industry]
         exact .inr ⟨keeps.1,keeps.2,read.industry keeps.2⟩
       · exact .inl (if_neg keeps)
     · obtain rfl:=Option.some.inj (was.symm.trans ((committed _).symm.trans there))
       refine ⟨within,earlier,fun sirene industry=>?_⟩
       have same:=kept sirene industry
       rw[←same] at industry ⊢
       exact if_pos ⟨sirene,industry⟩
   · have missed:¬(candidate.ref∈targets ∧ ∃row,w.see t candidate.ref=some row ∧
       row.observed.providerObservedAt≤candidate.observed.providerObservedAt):=by
      rw[←hit,missed]
      exact Bool.false_ne_true
     change ∃before,_=some before ∧ _
     rw[committed]
     rcases found with mem|behind
     · obtain ⟨before,there⟩:=read.there
       refine ⟨before,there,?_⟩
       by_contra later
       exact missed ⟨mem,before,(idle.committed _).trans there,by omega⟩
     · exact behind
   · change ((w.suppliers.write t targets candidate.updates _).cell ref).pending=_ at pending
     rcases write ref with ⟨same,-⟩|⟨row',mem,seen,updates,-⟩
     · rw[same] at pending
       exact absurd pending (idle ref row)
     · have own:ref=candidate.ref:=by
        simp only[Candidate.updates,Bool.and_eq_true,beq_iff_eq] at updates
        exact updates.1
       refine .inl ⟨own,List.any_eq_true.mpr ⟨ref,mem,?_⟩⟩
       exact (Option.any_eq_true _ _).mpr ⟨row',seen,updates⟩
 · exact inv.same t

section
variable {refs:List Ref}{f:Supplier→Supplier}{old:Option String}{updated:Bool}

/-- An `UPDATE` of statuses. -/
def World.mark (w:World)(t:ℕ)(refs:List Ref)(f:Supplier→Supplier):World:=
 {w with suppliers:=w.suppliers.write t refs (fun _ _=>true) f}

lemma pending_mark {ref:Ref}{row:Supplier}
 (pending:((w.mark t refs f).suppliers.cell ref).pending=some (t,row)) :
 (ref∉refs ∨ w.see t ref=none) ∧ (w.suppliers.cell ref).pending=some (t,row) ∨
  ∃before,ref∈refs ∧ w.see t ref=some before ∧ row=f before:=by
 change ((w.suppliers.write t refs (fun _ _=>true) f).cell ref).pending=_ at pending
 rcases Table.write_cases t (fun _ _=>true) f w.suppliers ref refs with
  ⟨same,fails⟩ | ⟨before,mem,seen,-,cell⟩
 · rw[same] at pending
   refine .inl ⟨?_,pending⟩
   by_cases mem:ref∈refs
   · cases fails mem row (Cell.view_of_pending pending)
   · exact .inl mem
 · rw[cell] at pending
   exact .inr ⟨before,mem,seen,(congrArg Prod.snd (Option.some.inj pending)).symm⟩

lemma see_mark (ref:Ref) :
 (w.mark t refs f).see t ref=if ref∈refs then (w.see t ref).map f else w.see t ref:=
 Table.view_write t f w.suppliers ref refs

lemma World.Written.mark (written:w.Written t candidate old updated)
 (same:∀row,(f row).observed=row.observed)
 (listed:∀ref∈refs,∀row,w.see t ref=some row→(ref=candidate.ref ∧ updated=true) ∨
  ∃domain∈domains old candidate.observed.primaryDomain,row.observed.primaryDomain=some domain) :
 (w.mark t refs f).Written t candidate old updated:=by
 have committed (ref:Ref):((w.mark t refs f).suppliers.cell ref).committed =
   (w.suppliers.cell ref).committed:=Table.write_committed
 refine ⟨fun is=>?_,fun is=>?_,fun ref row pending=>?_⟩
 · obtain ⟨row,pending,shows,industry,before⟩:=written.own is
   have seen:w.see t candidate.ref=some row:=Cell.view_of_pending pending
   unfold World.Own
   rw[committed]
   rcases Table.write_cases t (fun _ _=>true) f w.suppliers candidate.ref refs with
    ⟨unchanged,-⟩ | ⟨row',-,seen',-,cell⟩
   · exact ⟨row,(congrArg Cell.pending unchanged).trans pending,shows,industry,before⟩
   · obtain rfl:=Option.mem_unique seen seen'
     refine ⟨f row,congrArg Cell.pending cell,?_,?_,?_⟩
     · rw[same]
       exact shows
     · rw[same]
       exact industry
     · rw[same]
       exact before
 · unfold World.Behind
   rw[committed]
   exact written.behind is
 · rw[committed]
   rcases pending_mark pending with ⟨-,was⟩|⟨before,mem,seen,rfl⟩
   · exact written.marks ref row was
   · rw[same]
     rcases Cell.of_view seen with was|⟨-,there⟩
     · exact written.marks ref before was
     · exact (listed ref mem before seen).imp_right fun ⟨domain,mem',has⟩=>
        ⟨before,there,rfl,domain,mem',has⟩

end

variable {old:Option String}{updated:Bool}

lemma World.Inv.advance_settling (inv:w.Inv digest lockKey)
 (is:w.txns t=some ⟨candidate,.settling old updated⟩) :
 World.Local t w (w.advance digest lockKey t candidate (.settling old updated)) ∧
  (w.advance digest lockKey t candidate (.settling old updated)).Inv digest lockKey:=by
 have written:w.Written t candidate old updated:=inv.facts t _ is
 -- a row that was only marked has a domain
 have marked {ref:Ref}{row:Supplier}(pending:(w.suppliers.cell ref).pending=some (t,row))
   (none:row.observed.primaryDomain=none):ref=candidate.ref ∧ updated=true:=by
  rcases written.marks ref row pending with own|⟨before,-,same,domain,-,has⟩
  · exact own
  · rw[same,has] at none
    cases none
 unfold World.advance
 dsimp only
 split
 · rename_i bare
   rw[Bool.and_eq_true] at bare
   split
   · rename_i free
     have free:w.suppliers.free t [candidate.ref]=true:=by
      simp[Table.free,free]
     refine inv.write (Table.local_write free) ⟨⟨?_,fun ref row pending none=>?_⟩,
      fun _=>id,fun _=>.inl⟩
     · exact written.mark (fun _=>rfl) fun ref mem row _=>.inl ⟨List.mem_singleton.mp mem,bare.1⟩
     · rcases pending_mark pending with ⟨missed,was⟩|⟨before,mem,-,rfl⟩
       · obtain ⟨rfl,-⟩:=marked was none
         rcases missed with missed|unseen
         · exact absurd (List.mem_singleton.mpr rfl) missed
         · exact absurd ((Cell.view_of_pending was).symm.trans unseen) (by simp)
       · obtain rfl:=List.mem_singleton.mp mem
         exact ⟨rfl,rfl⟩
   · exact inv.same t
 · rename_i bare
   refine inv.put ⟨⟨written,fun ref row pending none=>?_⟩,fun _=>id,fun _=>.inl⟩
   obtain ⟨rfl,is'⟩:=marked pending none
   obtain ⟨row',pending',shows,-⟩:=written.own is'
   obtain rfl:=congrArg Prod.snd (Option.mem_unique pending' pending)
   rw[shows] at none
   exact absurd (by simp[is',show candidate.observed.primaryDomain=Option.none from none]) bare

lemma World.Inv.advance_locking (inv:w.Inv digest lockKey){rest:List String}
 (is:w.txns t=some ⟨candidate,.locking old updated rest⟩) :
 World.Local t w (w.advance digest lockKey t candidate (.locking old updated rest)) ∧
  (w.advance digest lockKey t candidate (.locking old updated rest)).Inv digest lockKey:=by
 obtain ⟨settled,within,holds⟩:=inv.facts t _ is
 cases rest with
 | nil =>
  refine inv.put ⟨settled,fun domain mem=>?_,fun _=>id,fun _=>.inl⟩
  rcases holds domain mem with none|holds
  · cases none
  · exact holds
 | cons domain rest =>
  unfold World.advance
  dsimp only
  split
  · rename_i free
    have taken (u:ℕ)(other:u≠t)(key:ℤ)(held:w.locks key=some u) :
      Function.update w.locks (lockKey domain) (some t) key=some u:=by
     rw[Function.update_apply]
     split
     · rename_i same
       rw[←same,held,Option.all_some,beq_iff_eq] at free
       exact absurd free other
     · exact held
    have loc:World.Local t w ({w with
      locks:=Function.update w.locks (lockKey domain) (some t)}.put t candidate
      (.locking old updated rest)):=
     ⟨.refl t _,taken,fun u other=>Function.update_of_ne other _ _,rfl⟩
    have at':({w with
      locks:=Function.update w.locks (lockKey domain) (some t)}.put t candidate
      (.locking old updated rest)).txns t=some ⟨candidate,.locking old updated rest⟩:=
     Function.update_self _ _ _
    refine ⟨loc,inv.step loc (fun txn is'=>?_) fun none=>?_⟩
    · obtain rfl:=Option.mem_unique at' is'
      refine ⟨⟨⟨settled.own,settled.behind,settled.marks⟩,settled.neutral⟩,
       fun other mem=>within other (List.mem_cons_of_mem _ mem),fun other mem=>?_⟩
      change other∈rest ∨ Function.update w.locks (lockKey domain) (some t) (lockKey other)=some t
      rcases holds other mem with mem' | held
      · rcases List.mem_cons.mp mem' with rfl|later
        · exact .inr (Function.update_self _ _ _)
        · exact .inl later
      · right
        rw[Function.update_apply]
        split
        · rfl
        · exact held
    · rw[at'] at none
      cases none
  · exact inv.same t

lemma World.Inv.advance_reconciling (inv:w.Inv digest lockKey){domain:String}{rest:List String}
 (is:w.txns t=some ⟨candidate,.reconciling old updated (domain::rest)⟩) :
 World.Local t w (w.advance digest lockKey t candidate (.reconciling old updated (domain::rest))) ∧
  (w.advance digest lockKey t candidate
   (.reconciling old updated (domain::rest))).Inv digest lockKey:=by
 have reconciling:w.Reconciling digest lockKey t candidate old updated (domain::rest):=
  inv.facts t _ is
 have mem (ref:Ref) : ref∈w.suppliers.find t (fun _ row=>row.observed.primaryDomain==some domain) ↔
    ∃row,w.see t ref=some row ∧ row.observed.primaryDomain=some domain:=by
  rw[Table.mem_find]
  simp only[beq_iff_eq]
  rfl
 unfold World.advance
 dsimp only
 split
 · rename_i none
   have reconciling':w.Reconciling digest lockKey t candidate old updated rest:=by
    refine ⟨reconciling.toSettled,reconciling.holds,
     fun other mem'=>reconciling.within other (List.mem_cons_of_mem _ mem'),
     fun other mem'=>?_⟩
    rcases reconciling.reconciled other mem' with mem'' | done
    · rcases List.mem_cons.mp mem'' with rfl|later
      · right
        intro ref row seen has
        have listed:=(mem ref).mpr ⟨row,seen,has⟩
        rw[List.isEmpty_iff.mp none] at listed
        cases listed
      · exact .inl later
    · exact .inr done
   exact inv.put reconciling'
 · exact inv.put ⟨reconciling,Table.nodup_find,mem⟩

section
variable {domain:String}{refs:List Ref}

lemma marked_observed (row:Supplier) : (marked digest domain refs row).observed=row.observed:=by
 unfold marked
 split <;> rfl

lemma see_marked (listed:w.Listed t domain refs){ref:Ref}{row:Supplier}{other:String} :
 (w.mark t refs (marked digest domain refs)).see t ref=some row ∧
   row.observed.primaryDomain=some other ↔
  other≠domain ∧ w.see t ref=some row ∧ row.observed.primaryDomain=some other ∨
   other=domain ∧ ref∈refs ∧ ∃before,w.see t ref=some before ∧
    row=marked digest domain refs before:=by
 rw[see_mark]
 by_cases mem:ref∈refs
 · obtain ⟨before,seen,has⟩:=(listed.mem ref).mp mem
   rw[if_pos mem,seen,Option.map_some]
   constructor
   · rintro ⟨is,has'⟩
     obtain rfl:=Option.some.inj is
     rw[marked_observed,has] at has'
     exact .inr ⟨(Option.some.inj has').symm,mem,before,rfl,rfl⟩
   · rintro (⟨differs,is,has'⟩|⟨rfl,-,before',is,rfl⟩)
     · obtain rfl:=Option.some.inj is
       exact absurd (Option.mem_unique has' has) differs
     · obtain rfl:=Option.some.inj is
       refine ⟨rfl,?_⟩
       rw[marked_observed]
       exact has
 · rw[if_neg mem]
   constructor
   · rintro ⟨seen,has⟩
     refine .inl ⟨?_,seen,has⟩
     rintro rfl
     exact mem ((listed.mem ref).mpr ⟨row,seen,has⟩)
   · rintro (⟨-,seen,has⟩|⟨-,mem',-⟩)
     · exact ⟨seen,has⟩
     · exact absurd mem' mem

lemma one_lt_length {a b:Ref}(mem:a∈refs)(mem':b∈refs)(differs:a≠b) : 1<refs.length:=by
 rcases refs with _|⟨first,_|⟨second,rest⟩⟩
 · cases mem
 · rw[List.mem_singleton] at mem mem'
   exact absurd (mem.trans mem'.symm) differs
 · simp

lemma exists_ne_of_nodup (nodup:refs.Nodup)(several:1<refs.length)(ref:Ref) :
 ∃other∈refs,other≠ref:=by
 rcases refs with _|⟨first,_|⟨second,rest⟩⟩
 · simp at several
 · simp at several
 · by_cases same:first=ref
   · refine ⟨second,by simp,fun same'=>?_⟩
     rw[List.nodup_cons] at nodup
     exact nodup.1 (by simp[same,same'])
   · exact ⟨first,by simp,same⟩

lemma shares_marked (listed:w.Listed t domain refs){ref:Ref}(mem:ref∈refs) :
 Shares ((w.mark t refs (marked digest domain refs)).see t) ref domain ↔ 1<refs.length:=by
 constructor
 · rintro ⟨other,row,differs,seen,has⟩
   rcases (see_marked listed).mp ⟨seen,has⟩ with ⟨wrong,-⟩|⟨-,mem',-⟩
   · exact absurd rfl wrong
   · exact one_lt_length mem mem' differs.symm
 · intro several
   obtain ⟨other,mem',differs⟩:=exists_ne_of_nodup listed.nodup several ref
   obtain ⟨before,seen,has⟩:=(listed.mem other).mp mem'
   have marks:(w.mark t refs (marked digest domain refs)).see t other =
     some (marked digest domain refs before) ∧
      (marked digest domain refs before).observed.primaryDomain=some domain:=
    (see_marked listed).mpr (.inr ⟨rfl,mem',before,seen,rfl⟩)
   obtain ⟨is,has'⟩:=marks
   exact ⟨other,_,differs,is,has'⟩

end

lemma World.Inv.advance_marking (inv:w.Inv digest lockKey){old:Option String}
 {updated:Bool}{domain:String}{refs:List Ref}{rest:List String}
 (is:w.txns t=some ⟨candidate,.marking old updated domain refs rest⟩)
 (undisturbed:w.suppliers.free t refs=true→∀ref,refs=[ref] → ref.provider≠.sirene) :
 World.Local t w (w.advance digest lockKey t candidate (.marking old updated domain refs rest)) ∧
  (w.advance digest lockKey t candidate
   (.marking old updated domain refs rest)).Inv digest lockKey:=by
 obtain ⟨reconciling,nodup,mem⟩:=inv.facts t _ is
 have inside:=reconciling.within domain List.mem_cons_self
 unfold World.advance
 dsimp only
 split
 · rename_i free
   have reconciling':(w.mark t refs (marked digest domain refs)).Reconciling digest lockKey t
     candidate old updated rest:=by
    refine ⟨⟨reconciling.toWritten.mark marked_observed fun ref listed row seen=>?_,
     fun ref row pending none=>?_⟩,reconciling.holds,
     fun other mem'=>reconciling.within other (List.mem_cons_of_mem _ mem'),
     fun other mem'=>?_⟩
    · obtain ⟨row',seen',has⟩:=(mem ref).mp listed
      obtain rfl:=Option.mem_unique seen seen'
      exact .inr ⟨domain,inside,has⟩
    · rcases pending_mark pending with ⟨-,was⟩|⟨before,listed,seen,rfl⟩
      · exact reconciling.neutral ref row was none
      · obtain ⟨row',seen',has⟩:=(mem ref).mp listed
        obtain rfl:=Option.mem_unique seen seen'
        rw[marked_observed,has] at none
        cases none
    · by_cases own:other=domain
      · subst own
        refine .inr fun ref row seen has=>?_
        rcases (see_marked ⟨nodup,mem⟩).mp ⟨seen,has⟩ with
         ⟨wrong,-⟩ | ⟨-,listed,before,seen',rfl⟩
        · exact absurd rfl wrong
        refine ⟨?_,⟨fun other' has' shared=>?_,fun alone=>?_⟩⟩
        · rcases Table.write_cases t (fun _ _=>true) (marked digest other refs) w.suppliers ref
           refs with ⟨-,fails⟩ | ⟨before',-,-,-,cell⟩
          · cases fails listed before seen'
          · exact ⟨_,congrArg Cell.pending cell⟩
        · obtain rfl:=Option.mem_unique has has'
          unfold marked
          rw[if_pos ((shares_marked ⟨nodup,mem⟩ listed).mp shared)]
          exact ⟨rfl,rfl⟩
        · have single:=alone other has
          rw[shares_marked ⟨nodup,mem⟩ listed] at single
          have only:refs=[ref]:=by
           rcases refs with _|⟨first,_|⟨second,others⟩⟩
           · cases listed
           · rw[List.mem_singleton.mp listed]
           · simp at single
          have apollo:ref.provider=.apollo:=by
           cases provider:ref.provider with
           | apollo=>rfl
           | sirene=>exact absurd provider (undisturbed free ref only)
          unfold marked
          rw[if_neg single,apollo]
          exact ⟨rfl,rfl⟩
      · rcases reconciling.reconciled other mem' with mem'' | done
        · exact .inl ((List.mem_cons.mp mem'').resolve_left own)
        · refine .inr fun ref row seen has=>?_
          have stays (ref':Ref)(row':Supplier) :
            (w.mark t refs (marked digest domain refs)).see t ref'=some row' ∧
              row'.observed.primaryDomain=some other ↔
             w.see t ref'=some row' ∧ row'.observed.primaryDomain=some other:=
           (see_marked ⟨nodup,mem⟩).trans
            ⟨fun is=>(is.resolve_right fun wrong=>own wrong.1).2,fun is=>.inl ⟨own,is⟩⟩
          have was:=((stays ref row).mp ⟨seen,has⟩).1
          obtain ⟨⟨row',pending⟩,right⟩:=done ref row was has
          have unlisted:ref∉refs:=by
           intro listed
           obtain ⟨before,seen',has'⟩:=(mem ref).mp listed
           obtain rfl:=Option.mem_unique was seen'
           exact own (Option.mem_unique has has')
          refine ⟨⟨row',?_⟩,right.congr fun other' has'=>?_⟩
          · exact (congrArg Cell.pending (Table.write_cell_of_not_mem unlisted)).trans pending
          · obtain rfl:=Option.mem_unique has has'
            refine ⟨fun ⟨ref',row',differs,is⟩=>?_,fun ⟨ref',row',differs,is⟩=>?_⟩
            · exact ⟨ref',row',differs,(stays ref' row').mp is⟩
            · exact ⟨ref',row',differs,(stays ref' row').mpr is⟩
   exact inv.write (Table.local_write free) reconciling'
 · exact inv.same t

end

end Kivou.SupplierUpserts
