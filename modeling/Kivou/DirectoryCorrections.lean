import Kivou.CatalogueMirror
import Kivou.ProspectActions

set_option autoImplicit false

/-! `SupplierDirectoryPrivacyService.suppress` and `ProspectionActions.correct` beside the store and
the mirror. Each operation is one transaction: where it raises, nothing is written. -/
namespace Kivou.DirectoryCorrections
open PythonValues SupplierDirectory CatalogueMirror ProspectRecords ProspectActions

/-- An `IssuedProspectLink`. -/
structure IssuedLink where
 (url memberRef tokenFingerprint:String)
 payload:Json
 unsubscribeUrl:Option String

/-- A row of `prospect_target`, with the columns that a correction writes. -/
structure ReviewedTarget extends Target where
 companyName:String
 (directorName directorTitle:Option String)
 directorSource:Option Source
 emailSource:Source
 (attributionUrl attributionMemberRef:String)
 attributionPayload:Json
 (attributionTokenFingerprint unsubscribeUrl:String)
 mailWordCount:ℕ
 mailContractFailure:Option String
 approved:Option (ℤ × String)
 deliveryError:Option String
 updatedAt:ℤ

structure Contact where
 (contactRef provider providerOrganizationId businessEmail:String)

/-- A row of `acquisition_contact_suppression`, as it was recorded. -/
structure ContactSuppression where
 contactRef:String
 receivedAt:ℤ

structure World where
 mirror:Mirror
 targets:List ReviewedTarget
 contacts:List Contact
 suppressions:List ContactSuppression

namespace World

def row? (w:World)(siren:String):Option Supplier:=w.mirror.directory.row? siren

def withDirectory (w:World)(d:Directory):World:={w with mirror:={w.mirror with directory:=d}}

end World

def contactRefs (siren:String)(email:Option String)(contacts:List Contact):List String:=
 (contacts.filter fun contact=>contact.provider=="sirene" &&
  contact.providerOrganizationId==siren&&email==some contact.businessEmail).map (·.contactRef)

/-- `suppress`. `accepted` is whether the suppression of a contact can be recorded. -/
def suppress (accepted:String→Bool)(siren:String)(receivedAt:ℤ)(w:World) :
 Option World:=do
 let row ←w.row? siren
 let refs:=contactRefs siren row.professionalEmail w.contacts
 guard (refs.all accepted)
 let removed:=w.mirror.directory.updateWhere (·.siren==siren) (suppressionValues receivedAt)
 return { w.withDirectory removed.1 with
  suppressions:=w.suppressions++refs.map fun ref=>⟨ref,receivedAt⟩}

structure CorrectionChanges where
 (companyName directorName emailAddress:Option String)

structure CorrectCommand where
 targetId:String
 expectedVersion:ℕ
 changes:CorrectionChanges

structure RenderedMail extends Rendered where
 wordCount:ℕ
 contractFailure:Option String

structure Review where
 casefold:String→String
 verify:String→Bool
 issue:ReviewedTarget→String→ℤ→Option IssuedLink
 render:ReviewedTarget→Option RenderedMail

/-- `str(row.get("director_title") or "dirigeant")` -/
def ReviewedTarget.title (t:ReviewedTarget):String:=
 if SupplierDirectory.truthy t.directorTitle then t.directorTitle.getD "" else "dirigeant"

def ReviewedTarget.renamed (changes:CorrectionChanges)(t:ReviewedTarget):ReviewedTarget:=
 let named:={t with companyName:=changes.companyName.getD t.companyName}
 match changes.directorName with
 | none=>named
 | some name =>
  {named with
    directorName:=some name
    directorSource:=some .manual
    directorTitle:=some t.title}

def ReviewedTarget.readdressed (t:ReviewedTarget)(email:String)(verified:Bool)
 (link:IssuedLink):ReviewedTarget:=
 {t with
   emailAddress:=email
   emailSource:=.manual
   mxVerified:=verified
   attributionUrl:=link.url
   attributionMemberRef:=link.memberRef
   attributionPayload:=link.payload
   attributionTokenFingerprint:=link.tokenFingerprint
   unsubscribeUrl:=link.unsubscribeUrl.getD t.unsubscribeUrl}

def corrected (review:Review)(changes:CorrectionChanges)(at':ℤ)(t:ReviewedTarget) :
 Option ReviewedTarget:=do
 let named:=t.renamed changes
 let addressed ←match changes.emailAddress with
  | none=>some named
  | some email=>do
   let folded:=review.casefold email
   let link ←review.issue named folded at'
   return named.readdressed folded (review.verify email) link
 let message ←review.render addressed
 let unbound:=Target.unbound (Target.rendered addressed.toTarget message.toRendered)
 return {addressed with
  toTarget:={unbound with
   version:=t.version+1
   status:=if message.passed then t.status else .pendingReview}
  mailWordCount:=message.wordCount
  mailContractFailure:=message.contractFailure
  approved:=if message.passed then t.approved else none
  deliveryError:=none
  updatedAt:=at'}

/-- What the constraints of `prospect_target` ask of the corrected row. -/
def storable (targets:List ReviewedTarget)(t:ReviewedTarget):Bool:=
 1≤t.mailWordCount&&t.mailWordCount≤110 &&(t.mailContractPassed==t.mailContractFailure.isNone) &&
  targets.all fun other=>other.targetId==t.targetId ||
   other.attributionMemberRef != t.attributionMemberRef &&
    !(other.opportunityKey==t.opportunityKey&&other.emailAddress==t.emailAddress)

def correctedSupplier (review:Review)(changes:CorrectionChanges)(at':ℤ)
 (t:ReviewedTarget)(row:Supplier):Supplier:=
 let named:=match changes.companyName with
  | none=>row
  | some name=>{row with legalName:=name,legalNameObservedAt:=at',updatedAt:=at'}
 let directed:=match changes.directorName with
  | none=>named
  | some name =>
   {named with
     directors:=[⟨some name,some t.title,some "personne physique",none⟩]
     directorsObservedAt:=some at'
     updatedAt:=at'}
 match changes.emailAddress with
 | none=>directed
 | some email =>
  {directed with
    professionalEmail:=some (review.casefold email)
    emailSource:=some .manual
    emailVerificationStatus:=some (if review.verify email then "mx_verified" else "mx_failed")
    emailObservedAt:=some at'
    updatedAt:=at'}

/-- `_load`, past a target that was sent. -/
def correctable (w:World)(command:CorrectCommand):Option ReviewedTarget:=
 (w.targets.find? (·.targetId==command.targetId)).filter fun t=>
  t.version=command.expectedVersion&&t.status≠.sent

/-- `correct` -/
def correct (review:Review)(command:CorrectCommand)(at':ℤ)(w:World):Option World:=do
 let t ←correctable w command
 let settled ←corrected review command.changes at' t
 guard (storable w.targets settled)
 let d:=w.mirror.directory.updateWhere (·.siren==t.siren)
  (correctedSupplier review command.changes at' t)
 return { w.withDirectory d.1 with
  targets:=Tables.update (·.targetId==t.targetId) (fun _=>settled) w.targets}

inductive Op where
 | write (w:Write)
 | suppress (siren:String)(receivedAt:ℤ)
 | applySnapshot (staging:Bool)(snapshot:Snapshot)(now:ℤ)
 | correct (command:CorrectCommand)(at':ℤ)

structure Surroundings where
 env:Env
 digest:Digest
 valid:Snapshot→Bool
 accepted:String→Bool
 review:Review

def step (s:Surroundings)(w:World):Op→World
 | .write write=>w.withDirectory (SupplierDirectory.write s.env w.mirror.directory write)
 | .suppress siren receivedAt=>(suppress s.accepted siren receivedAt w).getD w
 | .applySnapshot staging snapshot now =>
  match CatalogueMirror.applySnapshot s.env s.digest s.valid staging snapshot now w.mirror with
  | .ok mirror=>{w with mirror}
  | .error _=>w
 | .correct command at'=>(correct s.review command at' w).getD w

end Kivou.DirectoryCorrections
