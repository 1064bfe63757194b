import Kivou.SupplierUpserts

set_option autoImplicit false

/-! The rows that an upsert has locked, and the domains whose suppliers it has marked. -/
namespace Kivou.SupplierUpserts
open ReadCommitted

lemma mem_domains {old new:Option String}{domain:String} :
 domain∈domains old new ↔ old=some domain ∨ new=some domain:=by
 cases old with
 | none=>cases new <;> simp[domains,eq_comm]
 | some a =>
  cases new with
  | none=>simp[domains,eq_comm]
  | some b =>
   unfold domains
   dsimp only
   split
   · simp_all[eq_comm]
   · split
     · simp[eq_comm]
     · simp[eq_comm,or_comm]

def Shares (see:Ref→Option Supplier)(ref:Ref)(domain:String):Prop:=
 ∃other row,other≠ref ∧ see other=some row ∧ row.observed.primaryDomain=some domain

structure Right (digest:String→String)(see:Ref→Option Supplier)(ref:Ref) (row:Supplier):Prop where
 conflict:∀domain,row.observed.primaryDomain=some domain→Shares see ref domain →
  row.identityStatus=.domainConflict ∧ row.identityConflictFingerprint=some (digest domain)
 neutral:(∀domain,row.observed.primaryDomain=some domain→¬Shares see ref domain) →
  row.identityStatus=ref.provider.status ∧ row.identityConflictFingerprint=none

lemma Right.congr {digest:String→String}{see see':Ref→Option Supplier}{ref:Ref}
 {row:Supplier}(same:∀domain,row.observed.primaryDomain=some domain →
  (Shares see' ref domain ↔ Shares see ref domain))(right:Right digest see ref row) :
 Right digest see' ref row where
 conflict domain is shared:=right.conflict domain is ((same domain is).mp shared)
 neutral alone:=right.neutral fun domain is shared=>alone domain is ((same domain is).mpr shared)

section
variable (digest:String→String)(lockKey:String→ℤ)(w:World)(t:ℕ) (candidate:Candidate)

def World.Industry (industry:Option String):Prop:=industry=candidate.observed.industry ∨
  candidate.ref.provider=.sirene ∧ known industry=true ∧
   ∃before∈w.observations,before.ref=candidate.ref ∧ before.observed.industry=industry

def World.Recorded (ref:Ref)(row:Supplier):Prop:=∃shown∈w.observations,shown.ref=ref ∧
  row.observed={shown.observed with industry:=row.observed.industry} ∧
  w.Industry shown row.observed.industry ∧
  ∀other∈w.observations,other.ref=ref →
   other.observed.providerObservedAt≤row.observed.providerObservedAt

/-- `t` has written the candidate over an older row, of a domain that it will reconcile. -/
def World.Own (old:Option String):Prop:=∃row,(w.suppliers.cell candidate.ref).pending=some (t,row) ∧
  row.observed={candidate.observed with industry:=row.observed.industry} ∧
  w.Industry candidate row.observed.industry ∧
  ∀before,(w.suppliers.cell candidate.ref).committed=some before →
   (∀domain,before.observed.primaryDomain=some domain →
    domain∈domains old candidate.observed.primaryDomain) ∧
   before.observed.providerObservedAt≤candidate.observed.providerObservedAt ∧
   (candidate.ref.provider=.sirene→known before.observed.industry=true →
    row.observed.industry=before.observed.industry)

def World.Behind:Prop:=∃before,(w.suppliers.cell candidate.ref).committed=some before ∧
  candidate.observed.providerObservedAt≤before.observed.providerObservedAt

/-- What `t` has locked is its own row, or one of a domain that it reconciles, of which it
writes the status only. -/
def World.Marks (old:Option String)(updated:Bool):Prop:=
 ∀ref row,(w.suppliers.cell ref).pending=some (t,row) →(ref=candidate.ref ∧ updated=true) ∨
   ∃before,(w.suppliers.cell ref).committed=some before ∧ row.observed=before.observed ∧
    ∃domain∈domains old candidate.observed.primaryDomain,before.observed.primaryDomain=some domain

structure World.Written (old:Option String)(updated:Bool):Prop where
 own:updated=true→w.Own t candidate old
 behind:updated=false→w.Behind candidate
 marks:w.Marks t candidate old updated

/-- A row that `t` leaves without a domain has the status of its provider. -/
def World.Neutral:Prop:=
 ∀ref row,(w.suppliers.cell ref).pending=some (t,row) → row.observed.primaryDomain=none →
  row.identityStatus=ref.provider.status ∧ row.identityConflictFingerprint=none

def World.Idle:Prop:=∀ref row,(w.suppliers.cell ref).pending≠some (t,row)

structure World.Read (existing:Supplier):Prop where
 there:∃before,(w.suppliers.cell candidate.ref).committed=some before
 industry:known existing.observed.industry=true→∃before∈w.observations,
  before.ref=candidate.ref ∧ before.observed.industry=existing.observed.industry

/-- All suppliers of a domain that `t` sees are locked, and have the right status. -/
def World.Reconciled (domain:String):Prop:=
 ∀ref row,w.see t ref=some row → row.observed.primaryDomain=some domain →
  (∃row',(w.suppliers.cell ref).pending=some (t,row')) ∧ Right digest (w.see t) ref row

def World.Holds (domain:String):Prop:=w.locks (lockKey domain)=some t

structure World.Settled (old:Option String)(updated:Bool):Prop extends
  w.Written t candidate old updated where
 neutral:w.Neutral t

structure World.Reconciling (old:Option String)(updated:Bool)(rest:List String):Prop
  extends w.Settled t candidate old updated where
 holds:∀domain∈domains old candidate.observed.primaryDomain,w.Holds lockKey t domain
 within:∀domain∈rest,domain∈domains old candidate.observed.primaryDomain
 reconciled:∀domain∈domains old candidate.observed.primaryDomain,
  domain∈rest ∨ w.Reconciled digest t domain

/-- The rows of a domain, as `t` has read them. -/
structure World.Listed (domain:String)(refs:List Ref):Prop where
 nodup:refs.Nodup
 mem:∀ref,ref∈refs ↔ ∃row,w.see t ref=some row ∧ row.observed.primaryDomain=some domain

def World.Facts:Stage→Prop
 | .begun=>w.Idle t
 | .inserted true =>
  (w.suppliers.cell candidate.ref)=⟨none,some (t,candidate.insertValues)⟩ ∧
   ∀ref row,(w.suppliers.cell ref).pending=some (t,row) → ref=candidate.ref
 | .inserted false =>w.Idle t ∧ ∃before,(w.suppliers.cell candidate.ref).committed=some before
 | .selected existing=>w.Idle t ∧ w.Read candidate existing
 | .updating existing targets =>
  w.Idle t ∧ w.Read candidate existing ∧ (candidate.ref∈targets ∨ w.Behind candidate)
 | .settling old updated=>w.Written t candidate old updated
 | .locking old updated rest=>w.Settled t candidate old updated ∧
  (∀domain∈rest,domain∈domains old candidate.observed.primaryDomain) ∧
  ∀domain∈domains old candidate.observed.primaryDomain,domain∈rest ∨ w.Holds lockKey t domain
 | .reconciling old updated rest=>w.Reconciling digest lockKey t candidate old updated rest
 | .marking old updated domain refs rest =>
  w.Reconciling digest lockKey t candidate old updated (domain::rest) ∧ w.Listed t domain refs

/-- Every open upsert has done what its stage says, and the committed rows are right. -/
structure World.Inv:Prop where
 facts:∀t txn,w.txns t=some txn→w.Facts digest lockKey t txn.candidate txn.stage
 owned:∀t,w.txns t=none→w.Idle t
 recorded:∀ref row,(w.suppliers.cell ref).committed=some row→w.Recorded ref row
 there:∀before∈w.observations,∃row,(w.suppliers.cell before.ref).committed=some row
 right:∀ref row,(w.suppliers.cell ref).committed=some row →
  Right digest (fun ref=>(w.suppliers.cell ref).committed) ref row

end

/-- A statement of `t`, or its failure. -/
structure World.Local (t:ℕ)(w w':World):Prop where
 suppliers:w.suppliers.Local t w'.suppliers
 locks:∀u,u≠t→∀key,w.locks key=some u→w'.locks key=some u
 others:∀u,u≠t→w'.txns u=w.txns u
 observations:w'.observations=w.observations

section
variable {digest:String→String}{lockKey:String→ℤ}{w w':World}{t u:ℕ}
 {candidate:Candidate}{old:Option String}{updated:Bool}

lemma World.Local.written (loc:World.Local t w w')(other:u≠t)
 (written:w.Written u candidate old updated):w'.Written u candidate old updated where
 own is:=by
  obtain ⟨row,pending,shows,industry,before⟩:=written.own is
  unfold World.Own World.Industry
  rw[loc.suppliers.committed,loc.observations]
  exact ⟨row,(loc.suppliers.others _ u row other).mpr pending,shows,industry,before⟩
 behind is:=by
  unfold World.Behind
  rw[loc.suppliers.committed]
  exact written.behind is
 marks ref row pending:=by
  rw[loc.suppliers.committed]
  exact written.marks ref row ((loc.suppliers.others ref u row other).mp pending)

lemma World.Local.see (loc:World.Local t w w')(other:u≠t):w'.see u=w.see u:=
 funext fun ref=>loc.suppliers.view other ref

lemma World.Local.reconciled (loc:World.Local t w w')(other:u≠t){domain:String}
 (reconciled:w.Reconciled digest u domain):w'.Reconciled digest u domain:=by
 intro ref row
 rw[loc.see other]
 intro seen is
 obtain ⟨⟨row',pending⟩,right⟩:=reconciled ref row seen is
 exact ⟨⟨row',(loc.suppliers.others ref u row' other).mpr pending⟩,right⟩

lemma World.Local.settled (loc:World.Local t w w')(other:u≠t)
 (settled:w.Settled u candidate old updated):w'.Settled u candidate old updated where
 toWritten:=loc.written other settled.toWritten
 neutral ref row pending:=
  settled.neutral ref row ((loc.suppliers.others ref u row other).mp pending)

lemma World.Local.reconciling (loc:World.Local t w w')(other:u≠t){rest:List String}
 (reconciling:w.Reconciling digest lockKey u candidate old updated rest) :
 w'.Reconciling digest lockKey u candidate old updated rest where
 toSettled:=loc.settled other reconciling.toSettled
 holds domain mem:=loc.locks u other _ (reconciling.holds domain mem)
 within:=reconciling.within
 reconciled domain mem:=(reconciling.reconciled domain mem).imp_right (loc.reconciled other)

lemma World.Local.idle (loc:World.Local t w w')(other:u≠t)(idle:w.Idle u):w'.Idle u:=
 fun ref row pending=>idle ref row ((loc.suppliers.others ref u row other).mp pending)

lemma World.Local.read (loc:World.Local t w w'){existing:Supplier}
 (read:w.Read candidate existing):w'.Read candidate existing:=by
 refine ⟨?_,?_⟩
 · rw[loc.suppliers.committed]
   exact read.there
 · rw[loc.observations]
   exact read.industry

lemma World.Local.facts (loc:World.Local t w w')(other:u≠t){stage:Stage}
 (facts:w.Facts digest lockKey u candidate stage) :
 w'.Facts digest lockKey u candidate stage:=by
 have behind:w.Behind candidate→w'.Behind candidate:=by
  unfold World.Behind
  rw[loc.suppliers.committed]
  exact id
 cases stage with
 | begun=>exact loc.idle other facts
 | inserted created =>
  cases created with
  | false =>
   refine ⟨loc.idle other facts.1,?_⟩
   rw[loc.suppliers.committed]
   exact facts.2
  | true =>
   refine ⟨?_,fun ref row pending=>
    facts.2 ref row ((loc.suppliers.others ref u row other).mp pending)⟩
   have committed:=loc.suppliers.committed candidate.ref
   have pending:=(loc.suppliers.others candidate.ref u candidate.insertValues other).mpr
    (by rw[facts.1])
   rw[facts.1] at committed
   cases is:w'.suppliers.cell candidate.ref
   rw[is] at committed pending
   exact congrArg₂ Cell.mk committed pending
 | selected existing=>exact ⟨loc.idle other facts.1,loc.read facts.2⟩
 | updating existing targets =>
  exact ⟨loc.idle other facts.1,loc.read facts.2.1,facts.2.2.imp_right behind⟩
 | settling old updated=>exact loc.written other facts
 | locking old updated rest =>
  refine ⟨loc.settled other facts.1,facts.2.1,fun domain mem=>?_⟩
  exact (facts.2.2 domain mem).imp_right fun holds=>loc.locks u other _ holds
 | reconciling old updated rest=>exact loc.reconciling other facts
 | marking old updated domain refs rest =>
  refine ⟨loc.reconciling other facts.1,facts.2.nodup,?_⟩
  rw[loc.see other]
  exact facts.2.mem

lemma World.Inv.step (inv:w.Inv digest lockKey)(loc:World.Local t w w')
 (facts:∀txn,w'.txns t=some txn→w'.Facts digest lockKey t txn.candidate txn.stage)
 (owned:w'.txns t=none→w'.Idle t):w'.Inv digest lockKey where
 facts v txn is:=by
  by_cases own:v=t
  · subst own
    exact facts txn is
  · rw[loc.others v own] at is
    exact loc.facts own (inv.facts v txn is)
 owned v is:=by
  by_cases own:v=t
  · subst own
    exact owned is
  · rw[loc.others v own] at is
    exact loc.idle own (inv.owned v is)
 recorded ref row there:=by
  rw[loc.suppliers.committed] at there
  have recorded:=inv.recorded ref row there
  unfold World.Recorded World.Industry at recorded ⊢
  rw[loc.observations]
  exact recorded
 there before mem:=by
  rw[loc.observations] at mem
  rw[loc.suppliers.committed]
  exact inv.there before mem
 right ref row there:=by
  have same:(fun ref=>(w'.suppliers.cell ref).committed) =
    fun ref=>(w.suppliers.cell ref).committed:=funext loc.suppliers.committed
  rw[same]
  rw[loc.suppliers.committed] at there
  exact inv.right ref row there

end

end Kivou.SupplierUpserts
