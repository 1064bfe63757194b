import Kivou.ReadCommitted
import Mathlib.Data.Int.Notation

set_option autoImplicit false

/-! `signals.supplier_discovery.store`: what `upsert_supplier_in_transaction` reads and writes,
statement by statement. -/
namespace Kivou.SupplierUpserts
open ReadCommitted

inductive Provider where
 | apollo | sirene
 deriving DecidableEq

/-- What `supplier_ref_for` is made of. -/
structure Ref where
 provider:Provider
 providerOrganizationId:String
 deriving DecidableEq

inductive IdentityStatus where
 | providerIdentified | sireneIdentified | domainConflict
 deriving DecidableEq

structure Observed where
 (displayName normalizedName:String)
 (primaryDomain websiteUrl linkedinCompanyUrl countryCode location industry:Option String)
 providerObservedAt:ℤ
 sourceFingerprint:String
 deriving DecidableEq

/-- `acquisition_supplier` -/
structure Supplier where
 observed:Observed
 identityStatus:IdentityStatus
 identityConflictFingerprint:Option String
 deriving DecidableEq

structure Candidate where
 ref:Ref
 observed:Observed
 deriving DecidableEq

def Provider.status:Provider→IdentityStatus
 | .sirene=>.sireneIdentified
 | .apollo=>.providerIdentified

def known (industry:Option String):Bool:=industry.any (· ≠ "")

/-- The values of the `INSERT`. -/
def Candidate.insertValues (candidate:Candidate):Supplier:=
 ⟨candidate.observed,candidate.ref.provider.status,none⟩

/-- And of the `UPDATE`, where the `SELECT` has read `existing`. -/
def Candidate.values (candidate:Candidate)(existing:Supplier):Observed:=
 {candidate.observed with
   industry:=
    if candidate.ref.provider=.sirene ∧ known existing.observed.industry=true then
     existing.observed.industry
    else candidate.observed.industry}

/-- `sorted({old_domain, candidate.primary_domain} - {None})` -/
def domains (old new:Option String):List String:=
 match old,new with
 | none,none=>[]
 | some domain,none | none,some domain=>[domain]
 | some a,some b=>if a=b then [a] else if a<b then [a,b] else [b,a]

/-- How far an upsert is. `old` is `old_domain`, and `updated` is `metadata_updated`. -/
inductive Stage where
 | begun
 | inserted (created:Bool)
 | selected (existing:Supplier)
 | updating (existing:Supplier)(targets:List Ref)
 | settling (old:Option String)(updated:Bool)
 | locking (old:Option String)(updated:Bool)(rest:List String)
 | reconciling (old:Option String)(updated:Bool)(rest:List String)
 | marking (old:Option String)(updated:Bool)(domain:String)(refs:List Ref) (rest:List String)
 deriving DecidableEq

structure Txn where
 candidate:Candidate
 stage:Stage
 deriving DecidableEq

/-- The suppliers, the advisory locks, the open transactions, and the candidates of those
that were committed. -/
structure World where
 suppliers:Table Ref Supplier
 locks:ℤ→Option ℕ
 txns:ℕ→Option Txn
 observations:List Candidate

inductive Op where
 | begin (t:ℕ)(candidate:Candidate)
 /-- The next statement starts, or goes on when it need not wait, or the transaction
 commits. -/
 | advance (t:ℕ)
 /-- It fails, or is the victim of a deadlock. -/
 | rollback (t:ℕ)

/-- What `t` sees. -/
def World.see (w:World)(t:ℕ)(ref:Ref):Option Supplier:=(w.suppliers.cell ref).view t

def World.put (w:World)(t:ℕ)(candidate:Candidate)(stage:Stage):World:=
 {w with txns:=Function.update w.txns t (some ⟨candidate,stage⟩)}

def World.unlock (w:World)(t:ℕ):ℤ→Option ℕ:=
 fun key=>if w.locks key=some t then none else w.locks key

def World.rollback (w:World)(t:ℕ):World:=
 {w with
   suppliers:=w.suppliers.rollback t
   locks:=w.unlock t
   txns:=Function.update w.txns t none}

def World.commit (w:World)(t:ℕ)(candidate:Candidate):World where
 suppliers:=w.suppliers.commit t
 locks:=w.unlock t
 txns:=Function.update w.txns t none
 observations:=candidate::w.observations

/-- The condition of the `UPDATE` of a row that was there. -/
def Candidate.updates (candidate:Candidate)(ref:Ref)(row:Supplier):Bool:=
 ref==candidate.ref&&row.observed.providerObservedAt≤candidate.observed.providerObservedAt

section
variable (digest:String→String)(lockKey:String→ℤ)

/-- The values of `_reconcile_domain`. -/
def marked (domain:String)(refs:List Ref)(row:Supplier):Supplier:=
 if 1<refs.length then
  {row with
    identityStatus:=.domainConflict
    identityConflictFingerprint:=some (digest domain)}
 else
  {row with
    identityStatus:=.providerIdentified
    identityConflictFingerprint:=none}

/-- The values of the `UPDATE` of a supplier without a domain. -/
def neutral (provider:Provider)(row:Supplier):Supplier:=
 {row with identityStatus:=provider.status,identityConflictFingerprint:=none}

def World.advance (w:World)(t:ℕ)(candidate:Candidate):Stage→World
 | .begun =>
  if (w.suppliers.cell candidate.ref).free t then
   match w.see t candidate.ref with
   | none =>
    {w with
      suppliers:=w.suppliers.insert t candidate.ref candidate.insertValues}.put t candidate
      (.inserted true)
   | some _=>w.put t candidate (.inserted false)
  else w
 | .inserted created =>
  match w.see t candidate.ref with
  | none=>w.rollback t
  | some existing =>
   if created then w.put t candidate (.settling none true)
   else if existing.observed.providerObservedAt≤candidate.observed.providerObservedAt then
    w.put t candidate (.selected existing)
   else w.put t candidate (.settling existing.observed.primaryDomain false)
 | .selected existing =>
  w.put t candidate (.updating existing (w.suppliers.find t candidate.updates))
 | .updating existing targets =>
  if w.suppliers.free t targets then
   let updated:=targets.any fun ref=>(w.see t ref).any (candidate.updates ref)
   {w with
     suppliers:=w.suppliers.write t targets candidate.updates fun row=>
      {row with observed:=candidate.values existing}}.put t candidate
     (.settling existing.observed.primaryDomain updated)
  else w
 | .settling old updated =>
  let next:=.locking old updated (domains old candidate.observed.primaryDomain)
  if updated&&candidate.observed.primaryDomain.isNone then
   if (w.suppliers.cell candidate.ref).free t then
    {w with
      suppliers:=w.suppliers.write t [candidate.ref] (fun _ _=>true)
       (neutral candidate.ref.provider)}.put t candidate next
   else w
  else w.put t candidate next
 | .locking old updated [] =>
  w.put t candidate (.reconciling old updated (domains old candidate.observed.primaryDomain))
 | .locking old updated (domain::rest) =>
  if (w.locks (lockKey domain)).all (· == t) then
   {w with locks:=Function.update w.locks (lockKey domain) (some t)}.put t candidate
    (.locking old updated rest)
  else w
 | .reconciling _ _ []=>w.commit t candidate
 | .reconciling old updated (domain::rest) =>
  let refs:=w.suppliers.find t fun _ row=>row.observed.primaryDomain==some domain
  if refs.isEmpty then w.put t candidate (.reconciling old updated rest)
  else w.put t candidate (.marking old updated domain refs rest)
 | .marking old updated domain refs rest =>
  if w.suppliers.free t refs then
   {w with
     suppliers:=w.suppliers.write t refs (fun _ _=>true) (marked digest domain refs)}.put t
     candidate (.reconciling old updated rest)
  else w

def step (w:World):Op→World
 | .begin t candidate=>if (w.txns t).isNone then w.put t candidate .begun else w
 | .advance t =>(w.txns t).elim w fun txn=>w.advance digest lockKey t txn.candidate txn.stage
 | .rollback t=>w.rollback t

end

def World.start:World where
 suppliers:=.ofRows [] fun _=>⟨⟨"","",none,none,none,none,none,none,0,""⟩,.domainConflict,none⟩
 locks _:=none
 txns _:=none
 observations:=[]

end Kivou.SupplierUpserts
