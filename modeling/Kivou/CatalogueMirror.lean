import Kivou.Runs
import Kivou.SupplierDirectory

set_option autoImplicit false

/-! `signals.supplier_directory.catalogue_mirror`: a snapshot of the source's public rows is merged
into the directory of staging, fact group by fact group. A record of a snapshot is a row whose other
columns are empty. -/
namespace Kivou.CatalogueMirror
open PythonValues SupplierDirectory

/-- `_FACT_GROUPS`, by the facts whose observation each of them dates. -/
inductive FactGroup where
 | legalName | naf | nafLabel | families | department | city | employees | domain | directors
 | director | email | phone | contactForm | enrichment
 deriving DecidableEq

inductive FactValue where
 | text (value:Option String)
 | texts (value:List String)
 | number (value:Option ℚ)
 | count (value:Option ℕ)
 | source (value:Option Source)
 | status (value:Option FamilyStatus)
 | method (value:Option ValidationMethod)
 | people (value:List Director)

namespace FactGroup

def all:List FactGroup:=
 [legalName,naf,nafLabel,families,department,city,employees,domain,directors,director,
  email,phone,contactForm,enrichment]

def observedAt (row:Supplier):FactGroup→Option ℤ
 | legalName=>some row.legalNameObservedAt
 | naf=>row.nafObservedAt
 | nafLabel=>row.nafLabelObservedAt
 | families=>some row.familiesObservedAt
 | department=>row.departmentObservedAt
 | city=>row.cityObservedAt
 | employees=>row.employeesObservedAt
 | domain=>row.domainObservedAt
 | directors=>row.directorsObservedAt
 | director=>row.directorObservedAt
 | email=>row.emailObservedAt
 | phone=>row.phoneObservedAt
 | contactForm=>row.contactFormObservedAt
 | enrichment=>row.enrichmentObservedAt

def fields (row:Supplier):FactGroup→List FactValue
 | legalName=>[.text (some row.legalName)]
 | naf=>[.text row.nafCode]
 | nafLabel=>[.text row.nafLabel]
 | families=>[.texts row.familyKeys,.texts row.familyReviewKeys,.source row.familySource,
   .number row.familyConfidence,.status row.familyConfirmationStatus]
 | department=>[.text row.department]
 | city=>[.text row.city]
 | employees=>[.count row.employees]
 | domain=>[.text row.domain,.text row.websiteUrl,.text row.domainSource,
   .method row.domainValidationMethod,.text row.domainValidationEvidenceUrl]
 | directors=>[.people row.directors]
 | director=>[.text row.directorDisplayName,.source row.directorSource]
 | email=>[.text row.professionalEmail,.source row.emailSource,.text row.emailEvidenceUrl]
 | phone=>[.text row.phone,.source row.phoneSource]
 | contactForm=>[.text row.contactFormUrl]
 | enrichment=>[]

/-- `not incoming[fields[0]]`; a group without facts has none that is empty. -/
def empty (row:Supplier):FactGroup→Bool
 | legalName=>row.legalName=""
 | naf=>!truthy row.nafCode
 | nafLabel=>!truthy row.nafLabel
 | families=>row.familyKeys.isEmpty
 | department=>!truthy row.department
 | city=>!truthy row.city
 | employees=>row.employees.all (· = 0)
 | domain=>!truthy row.domain
 | directors=>row.directors.isEmpty
 | director=>!truthy row.directorDisplayName
 | email=>!truthy row.professionalEmail
 | phone=>!truthy row.phone
 | contactForm=>!truthy row.contactFormUrl
 | enrichment=>false

/-- `{field: incoming[field] for field in (*fields, observed_at)}` -/
def copy (incoming row:Supplier):FactGroup→Supplier
 | legalName =>
  {row with legalName:=incoming.legalName,legalNameObservedAt:=incoming.legalNameObservedAt}
 | naf=>{row with nafCode:=incoming.nafCode,nafObservedAt:=incoming.nafObservedAt}
 | nafLabel =>{row with nafLabel:=incoming.nafLabel,nafLabelObservedAt:=incoming.nafLabelObservedAt}
 | families =>
  {row with
    familyKeys:=incoming.familyKeys
    familyReviewKeys:=incoming.familyReviewKeys
    familySource:=incoming.familySource
    familyConfidence:=incoming.familyConfidence
    familyConfirmationStatus:=incoming.familyConfirmationStatus
    familiesObservedAt:=incoming.familiesObservedAt}
 | department =>
  {row with
    department:=incoming.department
    departmentObservedAt:=incoming.departmentObservedAt}
 | city=>{row with city:=incoming.city,cityObservedAt:=incoming.cityObservedAt}
 | employees =>
  {row with employees:=incoming.employees,employeesObservedAt:=incoming.employeesObservedAt}
 | domain =>
  {row with
    domain:=incoming.domain
    websiteUrl:=incoming.websiteUrl
    domainSource:=incoming.domainSource
    domainValidationMethod:=incoming.domainValidationMethod
    domainValidationEvidenceUrl:=incoming.domainValidationEvidenceUrl
    domainObservedAt:=incoming.domainObservedAt}
 | directors =>
  {row with directors:=incoming.directors,directorsObservedAt:=incoming.directorsObservedAt}
 | director =>
  {row with
    directorDisplayName:=incoming.directorDisplayName
    directorSource:=incoming.directorSource
    directorObservedAt:=incoming.directorObservedAt}
 | email =>
  {row with
    professionalEmail:=incoming.professionalEmail
    emailSource:=incoming.emailSource
    emailEvidenceUrl:=incoming.emailEvidenceUrl
    emailObservedAt:=incoming.emailObservedAt}
 | phone =>
  {row with
    phone:=incoming.phone
    phoneSource:=incoming.phoneSource
    phoneObservedAt:=incoming.phoneObservedAt}
 | contactForm =>
  {row with
    contactFormUrl:=incoming.contactFormUrl
    contactFormObservedAt:=incoming.contactFormObservedAt}
 | enrichment=>{row with enrichmentObservedAt:=incoming.enrichmentObservedAt}

end FactGroup

abbrev Digest:=List FactValue→String

/-- A row of `catalogue_mirror_entry`. -/
structure Entry where
 siren:String
 sourceUpdatedAt:ℤ
 sourceFactHashes:FactGroup→Option String
 mirroredAt:ℤ
 withdrawnAt:Option ℤ

variable (digest:Digest)(row existing incoming:Supplier)(ownership:Option Entry)(env:Env)

/-- `_fact_hashes` -/
def factHashes (group:FactGroup):Option String:=
 if group.fields row=[] then none else some (digest (group.fields row))

def withdrawn (group:FactGroup):Bool:=
 match group.observedAt existing,group.observedAt incoming with
 | some old,none=>group.empty incoming &&
   ((ownership.bind fun entry=>entry.sourceFactHashes group)=factHashes digest existing group
    : Bool)&&old ≤ incoming.updatedAt
 | _,_=>false

def takes (group:FactGroup):Bool:=
 if group=.email ∧ (existing.emailSource=some .manual ∨ existing.emailSource=some .apollo)
 then false
 else withdrawn digest existing incoming ownership group ||
  match group.observedAt existing,group.observedAt incoming with
  | none,_=>true
  | some _,none=>false
  | some old,some new=>old≤new

/-- `normalize_domain` -/
def normalizeDomain (domain:Option String):String:=
 stripDots (removeWww (env.casefold (domain.getD "")))

def combined :
 Supplier:=
 FactGroup.all.foldl (fun row group=>
  if takes digest existing incoming ownership group then group.copy incoming row else row) existing

def withPublishedEmail (row:Supplier):Supplier:=
 if row.emailSource=some .site ∧
   env.publishedEmailEvidence {row with suppressedAt:=none}=none then
  {row with
    professionalEmail:=none
    emailSource:=none
    emailEvidenceUrl:=none
    emailObservedAt:=none}
 else row

def withBinding (existing:Supplier)(domain:Option String)(row:Supplier) :
 Supplier:=
 if normalizeDomain env domain=normalizeDomain env existing.domain then row
 else {row with apolloOrganizationId:=none,apolloStatus:=none,apolloObservedAt:=none}

def touched (updatedAt:ℤ)(row:Supplier):Supplier:={row with updatedAt}

/-- `_merge_facts`, applied to the row. -/
def mergeFacts (digest:Digest)(existing incoming:Supplier) (ownership:Option Entry):Supplier:=
 let row:=combined digest existing incoming ownership
 touched (max existing.updatedAt incoming.updatedAt)
  (withBinding env existing row.domain (withPublishedEmail env row))

structure Snapshot where
 generatedAt:ℤ
 rows:List Supplier
 digest:String

/-- The row of `catalogue_mirror_state`. -/
structure Checkpoint where
 generatedAt:ℤ
 digest:String
 mirroredAt:ℤ

structure Mirror where
 directory:Directory
 entries:List Entry
 checkpoint:Option Checkpoint

inductive MirrorError where
 | destination | validation | future | stale | conflicting

namespace Mirror

def entry? (m:Mirror)(siren:String):Option Entry:=m.entries.find? (·.siren==siren)

end Mirror

def mirrorSuppressed (existing:Option Supplier)(ownership:Option Entry):Bool:=
 match existing.bind (·.suppressedAt),ownership.bind (·.withdrawnAt) with
 | some suppressed,some withdrawal=>suppressed=withdrawal
 | _,_=>false

def restored (lifted:Bool)(row:Supplier):Supplier:=
 {row with suppressedAt:=if lifted then none else row.suppressedAt}

def applyRow (env:Env)(digest:Digest)(ownership:Option Entry)(values:Supplier)
 (d:Directory):Directory:=
 let existing:=d.row? values.siren
 let lifted:=mirrorSuppressed existing ownership
 match existing with
 | none=>d++[values]
 | some row =>
  if row.suppressedAt.isSome&&!lifted then d
  else if lifted||ownership.all fun entry=>entry.sourceUpdatedAt<values.updatedAt then
   (d.updateWhere
    (fun other=>other.siren==values.siren&&other.suppressedAt=row.suppressedAt)
    fun row=>restored lifted (mergeFacts env digest row values ownership)).1
  else d

def mirroredEntry (digest:Digest)(now:ℤ)(values:Supplier):Entry:=
 ⟨values.siren,values.updatedAt,factHashes digest values,now,none⟩

def applyEntry (digest:Digest)(now:ℤ)(ownership:Option Entry)(values:Supplier)
 (entries:List Entry):List Entry:=
 if ownership.isSome then
  Tables.update (·.siren==values.siren) (fun _=>mirroredEntry digest now values) entries
 else entries++[mirroredEntry digest now values]

def applyRecord (env:Env)(digest:Digest)(now:ℤ)(owned:List Entry)(m:Mirror)
 (values:Supplier):Mirror:=
 let ownership:=owned.find? (·.siren==values.siren)
 {m with
   directory:=applyRow env digest ownership values m.directory
   entries:=applyEntry digest now ownership values m.entries}

def visible (siren:String)(row:Supplier):Bool:=row.siren==siren&&row.suppressedAt.isNone

def hidden (now:ℤ)(row:Supplier):Supplier:={row with suppressedAt:=some now}

def withdraw (now:ℤ)(rows:List Supplier)(m:Mirror)(ownership:Entry):Mirror:=
 if rows.any (·.siren==ownership.siren)||ownership.withdrawnAt.isSome then m
 else {m with
  directory:=(m.directory.updateWhere (visible ownership.siren) (hidden now)).1
  entries:=if m.directory.any (visible ownership.siren) then
    Tables.update (·.siren==ownership.siren) (fun entry=>
     {entry with withdrawnAt:=some now,mirroredAt:=now}) m.entries
   else m.entries}

/-- `apply_snapshot`, without the counts that it reports. `staging` is what the
destination and its database are checked for, `valid` the validation of a snapshot
and of its records. -/
def applySnapshot (env:Env)(digest:Digest)(valid:Snapshot→Bool)(staging:Bool)
 (snapshot:Snapshot)(now:ℤ)(m:Mirror):Except MirrorError Mirror:=
 if !staging then .error .destination
 else if !valid snapshot then .error .validation
 else if now+300000000<snapshot.generatedAt then .error .future
 else
  let applied:=snapshot.rows.foldl (applyRecord env digest now m.entries) m
  let settled:=m.entries.foldl (withdraw now snapshot.rows) applied
  let state:Checkpoint:=⟨snapshot.generatedAt,snapshot.digest,now⟩
  match m.checkpoint with
  | none=>.ok {settled with checkpoint:=some state}
  | some checkpoint =>
   if snapshot.generatedAt<checkpoint.generatedAt then .error .stale
   else if snapshot.generatedAt=checkpoint.generatedAt then
    if checkpoint.digest=snapshot.digest then .ok m else .error .conflicting
   else .ok {settled with checkpoint:=some state}

def standing (row:Supplier):String × Option ℤ:=(row.siren,row.suppressedAt)

lemma siren_of_standing {a b:Supplier}(h:standing a=standing b):a.siren=b.siren:=congrArg Prod.fst h

lemma suppressedAt_of_standing {a b:Supplier}(h:standing a=standing b) :
 a.suppressedAt=b.suppressedAt:=
 congrArg Prod.snd h

lemma copy_standing (incoming row:Supplier)(group:FactGroup) :
 standing (group.copy incoming row)=standing row:=by
 cases group <;> rfl

lemma combined_standing (digest:Digest)(existing incoming:Supplier) (ownership:Option Entry) :
 standing (combined digest existing incoming ownership)=standing existing:=by
 unfold combined
 generalize FactGroup.all=groups
 suffices h:∀row:Supplier,standing (groups.foldl (fun row group=>
   if takes digest existing incoming ownership group then group.copy incoming row else row)
   row)=standing row from h existing
 induction groups with
 | nil=>exact fun _=>rfl
 | cons group groups ih =>
  intro row
  rw[List.foldl_cons,ih]
  split
  · exact copy_standing incoming row group
  · rfl

lemma withPublishedEmail_standing (env:Env)(row:Supplier) :
 standing (withPublishedEmail env row)=standing row:=by
 unfold withPublishedEmail
 split <;> rfl

lemma withBinding_standing (env:Env)(existing:Supplier)(domain:Option String)
 (row:Supplier):standing (withBinding env existing domain row)=standing row:=by
 unfold withBinding
 split <;> rfl

lemma mergeFacts_standing (env:Env)(digest:Digest)(existing incoming:Supplier)
 (ownership:Option Entry) :
 standing (mergeFacts env digest existing incoming ownership)=standing existing:=by
 have kept:∀t row,standing (touched t row)=standing row:=fun _ _=>rfl
 simp only[mergeFacts,kept,withBinding_standing,withPublishedEmail_standing,combined_standing]

lemma mergeFacts_siren (env:Env)(digest:Digest)(existing incoming:Supplier)
 (ownership:Option Entry) :
 (mergeFacts env digest existing incoming ownership).siren=existing.siren:=
 siren_of_standing (mergeFacts_standing env digest existing incoming ownership)

lemma mergeFacts_suppressedAt (env:Env)(digest:Digest)(existing incoming:Supplier)
 (ownership:Option Entry) :
 (mergeFacts env digest existing incoming ownership).suppressedAt=existing.suppressedAt:=
 suppressedAt_of_standing (mergeFacts_standing env digest existing incoming ownership)

lemma restored_siren (lifted:Bool)(row:Supplier) : (restored lifted row).siren=row.siren:=rfl

lemma restored_suppressedAt (lifted:Bool)(row:Supplier) :
 (restored lifted row).suppressedAt=if lifted then none else row.suppressedAt:=rfl

/-- `email_source in {"manual", "apollo"}` -/
def Owned (row:Supplier):Prop:=row.emailSource=some .manual ∨ row.emailSource=some .apollo

def contact (row:Supplier):Option String × Option Source × Option String × Option ℤ:=
 (row.professionalEmail,row.emailSource,row.emailEvidenceUrl,row.emailObservedAt)

/-- `row'` is `row` after merges: of the same company, dated no earlier, and with the same contact
where staging owns it. -/
structure Kept (row row':Supplier):Prop where
 siren:row'.siren=row.siren
 updatedAt:row.updatedAt≤row'.updatedAt
 contact:Owned row→contact row'=contact row

variable {digest row incoming ownership env}{row':Supplier}

lemma Kept.refl (row:Supplier):Kept row row:=⟨rfl,Int.le_refl _,fun _=>rfl⟩

lemma Kept.trans {row'':Supplier}(first:Kept row row')(second:Kept row' row'') :
 Kept row row'' where
 siren:=second.siren.trans first.siren
 updatedAt:=Int.le_trans first.updatedAt second.updatedAt
 contact owned:=by
  have same:=first.contact owned
  have source:row'.emailSource=row.emailSource:=congrArg (·.2.1) same
  exact (second.contact (by unfold Owned;rwa[source])).trans same

lemma Kept.restored (kept:Kept row row')(lifted:Bool):Kept row (restored lifted row'):=
 ⟨kept.siren,kept.updatedAt,kept.contact⟩

lemma contact_touched (updatedAt:ℤ)(row:Supplier):contact (touched updatedAt row)=contact row:=rfl

lemma touched_max (at':ℤ)(row:Supplier):at'≤(touched (max at' incoming.updatedAt) row).updatedAt:=
 Int.le_max_left _ _

variable (digest incoming ownership) in
lemma combined_contact (owned:Owned row) :
 contact (combined digest row incoming ownership)=contact row:=by
 unfold combined
 generalize FactGroup.all=groups
 suffices h:∀taken:Supplier,contact (groups.foldl (fun taken group=>
   if takes digest row incoming ownership group then group.copy incoming taken else taken)
   taken)=contact taken from h row
 induction groups with
 | nil=>exact fun _=>rfl
 | cons group groups ih =>
  intro taken
  rw[List.foldl_cons,ih]
  cases group with
  | email =>
   have left:takes digest row incoming ownership .email=false:=if_pos ⟨rfl,owned⟩
   rw[left]
   rfl
  | _=>split <;> rfl

lemma mergeFacts_kept:Kept row (mergeFacts env digest row incoming ownership) where
 siren:=mergeFacts_siren env digest row incoming ownership
 updatedAt:=touched_max ..
 contact owned:=by
  have same:=combined_contact digest incoming ownership owned
  have source:(combined digest row incoming ownership).emailSource≠some .site:=by
   have is:(combined digest row incoming ownership).emailSource=row.emailSource:=
    congrArg (·.2.1) same
   rw[is]
   rcases owned with is|is <;> simp[is]
  have published:withPublishedEmail env (combined digest row incoming ownership) =
    combined digest row incoming ownership:=if_neg fun h=>source h.1
  have bound:∀domain taken,contact (withBinding env row domain taken)=contact taken:=by
   intro domain taken
   unfold withBinding
   split <;> rfl
  rw[mergeFacts,published,contact_touched,bound]
  exact same

def KeptIn (d d':Directory):Prop:=∀row∈d,∃row'∈d',Kept row row'

lemma KeptIn.refl (d:Directory):KeptIn d d:=fun row mem=>⟨row,mem,.refl row⟩

lemma KeptIn.trans {a b c:Directory}(first:KeptIn a b)(second:KeptIn b c):KeptIn a c:=by
 intro row mem
 obtain ⟨row',mem',kept⟩:=first row mem
 obtain ⟨row'',mem'',kept'⟩:=second row' mem'
 exact ⟨row'',mem'',kept.trans kept'⟩

lemma updateWhere_kept {matched:Supplier→Bool}{values:Supplier→Supplier}
 (kept:∀row,Kept row (values row))(d:Directory):KeptIn d (d.updateWhere matched values).1:=by
 intro row mem
 refine ⟨if matched row then values row else row,Tables.mem_update.mpr ⟨row,mem,rfl⟩,?_⟩
 split
 · exact kept row
 · exact .refl row

lemma applyRow_kept (d:Directory):KeptIn d (applyRow env digest ownership incoming d):=by
 simp only[applyRow]
 split
 · exact fun row mem=>⟨row,List.mem_append_left _ mem,.refl row⟩
 · split_ifs
   · exact .refl d
   · exact updateWhere_kept (fun _=>mergeFacts_kept.restored _) d
   · exact .refl d

lemma withdraw_kept (now:ℤ)(rows:List Supplier)(m:Mirror)(entry:Entry) :
 KeptIn m.directory (withdraw now rows m entry).directory:=by
 unfold withdraw
 split
 · exact .refl _
 · have kept (row:Supplier):Kept row (hidden now row):=⟨rfl,Int.le_refl _,fun _=>rfl⟩
   exact updateWhere_kept kept m.directory

/-- One call of `apply_snapshot`; where it raises nothing is written. -/
structure Application where
 staging:Bool
 snapshot:Snapshot
 now:ℤ

def Mirror.after (env:Env)(digest:Digest)(valid:Snapshot→Bool)(m:Mirror)(a:Application) :
 Mirror:=
 match applySnapshot env digest valid a.staging a.snapshot a.now m with
 | .ok m'=>m'
 | .error _=>m

def Mirror.Continues (m m':Mirror):Prop:=
 KeptIn m.directory m'.directory ∧
 ∀state∈m.checkpoint,∃state'∈m'.checkpoint,state'=state ∨ state.generatedAt<state'.generatedAt

lemma Mirror.Continues.refl (m:Mirror):m.Continues m:=⟨.refl _,fun state mem=>⟨state,mem,.inl rfl⟩⟩

lemma Mirror.Continues.trans {a b c:Mirror}(first:a.Continues b)(second:b.Continues c) :
 a.Continues c:=by
 refine ⟨first.1.trans second.1,fun state mem=>?_⟩
 obtain ⟨state',mem',later⟩:=first.2 state mem
 obtain ⟨state'',mem'',later'⟩:=second.2 state' mem'
 refine ⟨state'',mem'',?_⟩
 rcases later with rfl|less
 · exact later'
 · rcases later' with rfl|less'
   · exact .inr less
   · exact .inr (Int.lt_trans less less')

lemma continues_after (valid:Snapshot→Bool)(m:Mirror)(a:Application) :
 m.Continues (m.after env digest valid a):=by
 have applied:KeptIn m.directory
   (a.snapshot.rows.foldl (applyRecord env digest a.now m.entries) m).directory:=
  Runs.related (R:=fun m m':Mirror=>KeptIn m.directory m'.directory) (fun _=>.refl _)
   KeptIn.trans (fun _ _=>applyRow_kept _) m a.snapshot.rows
 have settled:=applied.trans (Runs.related
  (R:=fun m m':Mirror=>KeptIn m.directory m'.directory) (fun _=>.refl _) KeptIn.trans
  (withdraw_kept a.now a.snapshot.rows)
  (a.snapshot.rows.foldl (applyRecord env digest a.now m.entries) m) m.entries)
 unfold Mirror.after applySnapshot
 split_ifs
 · exact .refl m
 · exact .refl m
 · exact .refl m
 · cases state:m.checkpoint with
   | none =>
    refine ⟨settled,fun was mem=>?_⟩
    rw[state] at mem
    cases mem
   | some was =>
    dsimp only
    split_ifs with stale same equal
    · exact .refl m
    · exact .refl m
    · exact .refl m
    · refine ⟨settled,fun before mem=>⟨_,rfl,.inr ?_⟩⟩
      obtain rfl:=Option.some.inj (state.symm.trans mem)
      exact Int.lt_iff_le_and_ne.mpr ⟨Int.not_lt.mp stale,Ne.symm same⟩

/-- However many snapshots are applied, in whichever order they come: no row is lost or dated back,
a contact that staging owns is never written over, and the checkpoint goes forward only. -/
theorem snapshots_keep_owned_contacts (valid:Snapshot→Bool)(m:Mirror)
 (applications:List Application) :
 m.Continues (applications.foldl (Mirror.after env digest valid) m):=
 Runs.related Mirror.Continues.refl Mirror.Continues.trans (continues_after valid) m applications

end Kivou.CatalogueMirror
