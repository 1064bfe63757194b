import Kivou.PythonValues
import Kivou.Runs
import Kivou.Tables

set_option autoImplicit false

/-! `signals.supplier_directory.store` over its table. Instants are microseconds; a writer given a
naive one raises before it writes, and so does a value that its column refuses. Every writer is one
transaction. -/
namespace Kivou.SupplierDirectory
open PythonValues

inductive Source where
 | apollo | site | manual | model | naf
 deriving DecidableEq

inductive FamilyStatus where
 | confirmed | unconfirmed
 deriving DecidableEq

inductive ValidationMethod where
 | nameWord | registrationNumber | model

inductive ApolloStatus where
 | resolved | unresolved

/-- An entry of the `directors` column: a JSON object with some of these keys. -/
structure Director where
 (name title entityType firstName:Option String)

/-- A row of `supplier_directory`. -/
structure Supplier where
 (siren legalName:String)
 legalNameObservedAt:ℤ
 nafCode:Option String:=none
 nafObservedAt:Option ℤ:=none
 nafLabel:Option String:=none
 nafLabelObservedAt:Option ℤ:=none
 familyKeys:List String
 familyReviewKeys:List String:=[]
 familySource:Option Source:=none
 familyConfidence:Option ℚ:=none
 familyConfirmationStatus:Option FamilyStatus:=none
 familiesObservedAt:ℤ
 department:Option String:=none
 departmentObservedAt:Option ℤ:=none
 city:Option String:=none
 cityObservedAt:Option ℤ:=none
 employees:Option ℕ:=none
 employeesObservedAt:Option ℤ:=none
 domain:Option String:=none
 websiteUrl:Option String:=none
 websiteTitle:Option String:=none
 websiteTitleObservedAt:Option ℤ:=none
 domainSource:Option String:=none
 domainConfidence:Option ℚ:=none
 domainValidationMethod:Option ValidationMethod:=none
 domainValidationEvidenceUrl:Option String:=none
 domainObservedAt:Option ℤ:=none
 apolloOrganizationId:Option String:=none
 apolloStatus:Option ApolloStatus:=none
 apolloObservedAt:Option ℤ:=none
 directors:List Director:=[]
 directorsObservedAt:Option ℤ:=none
 directorDisplayName:Option String:=none
 directorSource:Option Source:=none
 directorObservedAt:Option ℤ:=none
 professionalEmail:Option String:=none
 emailSource:Option Source:=none
 emailConfidence:Option ℚ:=none
 emailVerificationStatus:Option String:=none
 emailContactName:Option String:=none
 emailContactTitle:Option String:=none
 emailEvidenceUrl:Option String:=none
 emailObservedAt:Option ℤ:=none
 contactFormUrl:Option String:=none
 contactFormObservedAt:Option ℤ:=none
 phone:Option String:=none
 phoneSource:Option Source:=none
 phoneObservedAt:Option ℤ:=none
 enrichmentNotes:Option String:=none
 enrichmentModelId:Option String:=none
 enrichmentCallId:Option String:=none
 enrichmentCostUsd:Option ℚ:=none
 enrichmentInputTokens:Option ℕ:=none
 enrichmentOutputTokens:Option ℕ:=none
 enrichmentEvidence:Json:=.null
 enrichmentDecision:Json:=.null
 enrichmentObservedAt:Option ℤ:=none
 reverificationRequiredAt:Option ℤ:=none
 reverificationReason:Option String:=none
 websiteFailureCount:ℕ:=0
 websiteNextRetryAt:Option ℤ:=none
 websiteUnreachableAt:Option ℤ:=none
 websiteSearchQueriesCompleted:ℕ:=0
 websiteSearchResultsExamined:ℕ:=0
 suppressedAt:Option ℤ:=none
 (createdAt updatedAt:ℤ)

abbrev Directory:=List Supplier

namespace Directory

def row? (d:Directory)(siren:String):Option Supplier:=d.find? (·.siren==siren)

/-- `UPDATE supplier_directory ... WHERE`, and whether it took one row. -/
def updateWhere (matched:Supplier→Bool)(values:Supplier→Supplier)(d:Directory) : Directory × Bool:=
 (Tables.update matched values d,d.countP matched=1)

end Directory

/-- What the store reads texts with: `lower()` of the database, `str.casefold`,
`urlsplit(url).hostname`, the digits of `re`, and `published_email_evidence`. -/
structure Env where
 (sqlLower casefold:String→String)
 hostname:String→Option String
 isDigit:Char→Bool
 publishedEmailEvidence:Supplier→Option (String × String)

/-- `text[:n]` -/
def clip (n:ℕ)(text:String):String:=String.ofList (text.toList.take n)

def truthy (text:Option String):Bool:=text.any (· != "")

def microsecondsPerDay:ℤ:=86400000000

/-- `_fresh`, within 90 days. -/
def fresh (observedAt:Option ℤ)(at':ℤ):Bool:=
 observedAt.any fun observed=>at'-observed≤90*microsecondsPerDay

def removeWww (text:String):String:=
 if "www.".toList.isPrefixOf text.toList then String.ofList (text.toList.drop 4) else text

def stripDots (text:String):String:=String.ofList (text.toList.rdropWhile (· == '.'))

/-- `urlsplit(url).hostname or ""`, folded and without its leading `www.`. -/
def Env.site (env:Env)(url:String):String:=removeWww (env.casefold ((env.hostname url).getD ""))

/-- The arguments of `upsert_identity`. -/
structure Identity where
 (siren legalName:String)
 nafCode:Option String
 familyKey:String
 (department city:Option String)
 employees:Option ℕ
 observedAt:ℤ
 nafLabel:Option String:=none
 preserveKnownFields:Bool:=false

def observed (value:Option String)(at':ℤ):Option String × Option ℤ:=
 (value,if truthy value then some at' else none)

def orKnown (keep:Bool)(new known:Option String × Option ℤ):Option String × Option ℤ:=
 if keep&&!truthy new.1 then known else new

def Supplier.familiesFresh (row:Supplier)(at':ℤ):Bool:=
 (row.familySource=some .model||row.familySource=some .naf)&&!row.familyKeys.isEmpty &&
  fresh (some row.familiesObservedAt) at'

def Identity.families (identity:Identity):List String:=
 if identity.familyKey="" then [] else [identity.familyKey]

def Identity.insert (identity:Identity):Supplier:=
 let at':=identity.observedAt
 { siren:=identity.siren
   legalName:=identity.legalName
   legalNameObservedAt:=at'
   nafCode:=identity.nafCode
   nafObservedAt:=(observed identity.nafCode at').2
   nafLabel:=identity.nafLabel
   nafLabelObservedAt:=(observed identity.nafLabel at').2
   familyKeys:=identity.families
   familySource:=if identity.familyKey="" then none else some .naf
   familyConfirmationStatus:=if identity.familyKey="" then none else some .unconfirmed
   familiesObservedAt:=at'
   department:=identity.department
   departmentObservedAt:=(observed identity.department at').2
   city:=identity.city
   cityObservedAt:=(observed identity.city at').2
   employees:=identity.employees
   employeesObservedAt:=identity.employees.map fun _=>at'
   createdAt:=at'
   updatedAt:=at'}

def Identity.update (identity:Identity)(row:Supplier):Supplier:=
 let at':=identity.observedAt
 let keep:=identity.preserveKnownFields
 let naf:=orKnown keep (observed identity.nafCode at') (row.nafCode,row.nafObservedAt)
 -- An old activity label is not associated with a new NAF code.
 let nafLabel:=orKnown (keep&&!(truthy identity.nafCode&&identity.nafCode != row.nafCode))
  (observed identity.nafLabel at') (row.nafLabel,row.nafLabelObservedAt)
 let department:=orKnown keep (observed identity.department at')
  (row.department,row.departmentObservedAt)
 let city:=orKnown keep (observed identity.city at') (row.city,row.cityObservedAt)
 let employees:=if keep&&identity.employees.isNone then (row.employees,row.employeesObservedAt)
  else (identity.employees,identity.employees.map fun _=>at')
 let familiesFresh:=row.familiesFresh at'
 let keepFamilies:=keep&&!row.familyKeys.isEmpty &&
  (row.familyConfirmationStatus=some .confirmed||familiesFresh||identity.familyKey="")
 let named:=!(identity.familyKey="":Bool)
 {row with
   legalName:=identity.legalName
   legalNameObservedAt:=at'
   nafCode:=naf.1
   nafObservedAt:=naf.2
   nafLabel:=nafLabel.1
   nafLabelObservedAt:=nafLabel.2
   familyKeys:=if keepFamilies||familiesFresh then row.familyKeys else identity.families
   familySource:=if keepFamilies||familiesFresh then row.familySource
    else if named then some .naf else none
   familyConfidence:=if keepFamilies||familiesFresh then row.familyConfidence else none
   familyConfirmationStatus:=if keepFamilies||familiesFresh then row.familyConfirmationStatus
    else if named then some .unconfirmed else none
   familiesObservedAt:=if keepFamilies then row.familiesObservedAt else at'
   department:=department.1
   departmentObservedAt:=department.2
   city:=city.1
   cityObservedAt:=city.2
   employees:=employees.1
   employeesObservedAt:=employees.2
   updatedAt:=at'}

/-- `upsert_identity`; the table holds SIREN numbers of nine characters only. -/
def upsertIdentity (identity:Identity)(d:Directory):Directory × Option Supplier:=
 let written:=match d.row? identity.siren with
  | some _=>(d.updateWhere (·.siren==identity.siren) identity.update).1
  | none=>if identity.siren.length=9 then d++[identity.insert] else d
 (written,written.row? identity.siren)

/-- The arguments of `record_domain`. -/
structure DomainRecord where
 (domain websiteUrl source:String)
 validationMethod:ValidationMethod
 validationEvidenceUrl:Option String
 observedAt:ℤ
 websiteTitle:Option String:=none

def DomainRecord.trusted (r:DomainRecord)(row:Supplier):Supplier:=
 {row with
   domain:=some r.domain
   websiteUrl:=some r.websiteUrl
   websiteTitle:=r.websiteTitle
   websiteTitleObservedAt:=(observed r.websiteTitle r.observedAt).2
   domainSource:=some r.source
   domainValidationMethod:=some r.validationMethod
   domainValidationEvidenceUrl:=r.validationEvidenceUrl
   domainObservedAt:=some r.observedAt
   reverificationRequiredAt:=none
   reverificationReason:=none
   websiteFailureCount:=0
   websiteNextRetryAt:=none
   websiteUnreachableAt:=none
   updatedAt:=r.observedAt}

def DomainRecord.untrusted (r:DomainRecord)(row:Supplier):Supplier:=
 {row with
   domainValidationMethod:=none
   domainValidationEvidenceUrl:=none
   apolloOrganizationId:=none
   apolloStatus:=none
   apolloObservedAt:=none
   professionalEmail:=none
   emailSource:=none
   emailVerificationStatus:=none
   emailContactName:=none
   emailContactTitle:=none
   emailEvidenceUrl:=none
   emailObservedAt:=none
   reverificationRequiredAt:=some r.observedAt
   reverificationReason:=some "shared_domain_blocklist"
   updatedAt:=r.observedAt}

/-- `lower(domain) = ...`, false where there is no domain. -/
def Env.holds (env:Env)(name:String)(row:Supplier):Bool:=
 row.domain.any fun domain=>env.sqlLower domain==name

/-- `record_domain`: a domain that another row holds is trusted nowhere any more. -/
def recordDomain (env:Env)(siren:String)(r:DomainRecord)(d:Directory) : Directory × Bool:=
 let name:=env.casefold r.domain
 if d.any (fun row=>env.holds name row&&row.siren != siren) then
  let demoted:=(d.updateWhere (env.holds name) r.untrusted).1
  ((demoted.updateWhere (·.siren==siren) fun row=>
   { r.untrusted row with
     domain:=some r.domain
     websiteUrl:=some r.websiteUrl
     domainSource:=some r.source
     domainObservedAt:=some r.observedAt}).1,false)
 else d.updateWhere (·.siren==siren) r.trusted

def recordApollo (siren:String)(organizationId:Option String)(status:ApolloStatus)
 (observedAt:ℤ)(d:Directory):Directory:=
 (d.updateWhere (·.siren==siren) fun row=>
  {row with
    apolloOrganizationId:=organizationId
    apolloStatus:=some status
    apolloObservedAt:=some observedAt
    updatedAt:=observedAt}).1

def markWithoutWebsite (siren:String)(searchQueriesCompleted searchResultsExamined:ℕ)
 (observedAt:ℤ)(d:Directory):Directory × Bool:=
 if searchQueriesCompleted<3 ∨ searchResultsExamined<30 then (d,false)
 else d.updateWhere (·.siren==siren) fun row=>
  {row with
    domain:=none
    websiteUrl:=none
    domainSource:=some "no_website"
    domainValidationMethod:=none
    domainValidationEvidenceUrl:=none
    domainObservedAt:=some observedAt
    reverificationRequiredAt:=none
    reverificationReason:=some "no_website"
    websiteSearchQueriesCompleted:=searchQueriesCompleted
    websiteSearchResultsExamined:=searchResultsExamined
    updatedAt:=observedAt}

def recordWebsiteConnectionFailure (siren:String)(observedAt:ℤ)(d:Directory) : Directory × Bool:=
 d.updateWhere (·.siren==siren) fun row=>
  let failures:=min 3 (row.websiteFailureCount+1)
  {row with
    websiteFailureCount:=failures
    websiteNextRetryAt:=if failures≤2 then some (observedAt+microsecondsPerDay) else none
    websiteUnreachableAt:=if 3≤failures then some observedAt else none
    reverificationReason:=
     some (if 3≤failures then "website_unreachable" else "website_retry_pending")
    updatedAt:=observedAt}

/-- `_reverification_values` -/
def reverificationValues (reason:String)(observedAt:ℤ)(row:Supplier):Supplier:=
 {row with
   domain:=none
   websiteUrl:=none
   websiteTitle:=none
   websiteTitleObservedAt:=none
   domainSource:=none
   domainConfidence:=none
   domainValidationMethod:=none
   domainValidationEvidenceUrl:=none
   domainObservedAt:=none
   apolloOrganizationId:=none
   apolloStatus:=none
   apolloObservedAt:=none
   professionalEmail:=none
   emailSource:=none
   emailConfidence:=none
   emailVerificationStatus:=none
   emailContactName:=none
   emailContactTitle:=none
   emailEvidenceUrl:=none
   emailObservedAt:=none
   contactFormUrl:=none
   contactFormObservedAt:=none
   reverificationRequiredAt:=some observedAt
   reverificationReason:=some (clip 128 reason)
   updatedAt:=observedAt}

def markForReverification (env:Env)(siren reason:String)(observedAt:ℤ)
 (expectedDomain:Option String)(d:Directory):Directory × Bool:=
 d.updateWhere (fun row=>row.siren==siren&&expectedDomain.all fun expected=>
   env.holds (env.casefold expected) row&&row.domainValidationMethod.isSome &&
    row.suppressedAt.isNone)
  (reverificationValues reason observedAt)

structure DirectorItem where
 (name title entityType firstName:Option String)

def DirectorItem.entity (item:DirectorItem):String:=
 clip 32 (if truthy item.entityType then item.entityType.getD "" else "personne physique")

def DirectorItem.given (item:DirectorItem):Option String:=
 if truthy item.firstName then item.firstName.map (clip 128) else none

/-- The entries as `record_directors` stores them; one without a name or a title raises. -/
def boundedDirectors (directors:List DirectorItem):Option (List Director):=
 (directors.take 20).mapM fun item=>do
  let name ←item.name
  let title ←item.title
  return { name:=some (clip 256 name),title:=some (clip 256 title),
           entityType:=some item.entity,firstName:=item.given}

def recordDirectors (siren:String)(directors:List DirectorItem)(observedAt:ℤ)
 (d:Directory):Directory:=
 match boundedDirectors directors with
 | none=>d
 | some bounded =>
  (d.updateWhere (fun row=>row.siren==siren&&row.suppressedAt.isNone) fun row=>
   {row with
     directors:=bounded
     directorsObservedAt:=some observedAt
     updatedAt:=observedAt}).1

/-- The arguments of `record_email`. -/
structure EmailRecord where
 email:String
 source:Source
 (verificationStatus contactName contactTitle:String)
 evidenceUrl:Option String:=none
 observedAt:ℤ

/-- `address.rsplit("@", 1)[-1]` -/
def mailboxDomain (address:String):String:=String.ofList (address.toList.rtakeWhile (· != '@'))

/-- `trusted_address`, on the address as it is folded. -/
def EmailRecord.trusted (env:Env)(r:EmailRecord)(row:Supplier):Bool:=
 env.holds (mailboxDomain (env.casefold r.email)) row||r.source=.manual||r.source=.model ||
  r.source=.site&&r.evidenceUrl.any fun url=>
   url != ""&&env.site url != ""&&env.holds (env.site url) row

def recordEmail (env:Env)(siren:String)(r:EmailRecord)(d:Directory) : Directory × Bool:=
 if !(env.casefold r.email).toList.contains '@' then (d,false)
 else d.updateWhere (fun row=>row.siren==siren&&r.trusted env row &&
   row.domainValidationMethod.isSome&&row.reverificationRequiredAt.isNone &&
   row.suppressedAt.isNone) fun row=>
  {row with
    professionalEmail:=some (env.casefold r.email)
    emailSource:=some r.source
    emailConfidence:=none
    emailVerificationStatus:=some r.verificationStatus
    emailContactName:=some r.contactName
    emailContactTitle:=some r.contactTitle
    emailEvidenceUrl:=r.evidenceUrl
    emailObservedAt:=some r.observedAt
    updatedAt:=r.observedAt}

def recordContactForm (siren url:String)(observedAt:ℤ)(d:Directory):Directory × Bool:=
 d.updateWhere (·.siren==siren) fun row=>
  {row with
    contactFormUrl:=some (clip 2048 url)
    contactFormObservedAt:=some observedAt
    updatedAt:=observedAt}

def suppressionValues (at':ℤ)(row:Supplier):Supplier:=
 {row with
   directors:=[]
   directorsObservedAt:=some at'
   professionalEmail:=none
   emailSource:=none
   emailVerificationStatus:=none
   emailContactName:=none
   emailContactTitle:=none
   emailEvidenceUrl:=none
   emailObservedAt:=some at'
   suppressedAt:=some at'
   updatedAt:=at'}

/-- `suppress_personal_data`, with the address it took; without a row it raises. -/
def suppressPersonalData (siren:String)(at':ℤ)(d:Directory) : Directory × Option String:=
 ((d.updateWhere (·.siren==siren) (suppressionValues at')).1,
  (d.row? siren).bind (·.professionalEmail))

/-- `usable_phone` -/
def usablePhone (env:Env)(value:Option String):Option String:=value.bind fun text=>
  let digits:=text.toList.countP env.isDigit
  if text≠"" ∧ text.toList.all (fun c=>env.isDigit c||isSpace c||"+().-".toList.contains c)
    ∧ 9≤digits ∧ digits≤15 then some (strip text) else none

/-- The arguments of `record_model_enrichment`. -/
structure ModelEnrichment where
 website:Option String
 websiteConfidence:Option ℚ
 (websiteEvidenceUrl email:Option String)
 emailConfidence:Option ℚ
 (emailEvidenceUrl family:Option String)
 familyConfidence:Option ℚ
 familyConfirmed:Bool
 directorDisplayName:Option String
 directorTitle:String
 phone:Option String
 directors:List DirectorItem
 notes:String
 callId:Option String
 model:String
 costUsd:ℚ
 (inputTokens outputTokens:ℕ)
 (evidence decision:Json)
 reverificationReason:Option String
 observedAt:ℤ

namespace ModelEnrichment
variable (env:Env)(m:ModelEnrichment)

def boundedDirectors:List Director:=
 ((m.directors.take 20).filter fun item=>truthy item.name).map fun item=>
  { name:=item.name.map (clip 256)
    title:=some (clip 256 (if truthy item.title then item.title.getD "" else "Dirigeant"))
    entityType:=some item.entity
    firstName:=item.given}

def unchangedDomain (row:Supplier):Bool:=m.website.all fun website=>row.domain.any fun domain=>
  removeWww (env.sqlLower (stripDots domain))==stripDots (removeWww (env.casefold website))

def withWebsite (row:Supplier):Supplier:=
 match m.website with
 | none=>row
 | some website =>
  let named:=website != ""
  {row with
    domain:=some website
    websiteUrl:=if named then some ("https://"++website) else none
    websiteTitle:=none
    websiteTitleObservedAt:=none
    domainSource:=if named then some "model" else none
    domainConfidence:=m.websiteConfidence
    domainValidationMethod:=if named then some .model else none
    domainValidationEvidenceUrl:=m.websiteEvidenceUrl
    domainObservedAt:=some m.observedAt}

def withApollo (before row:Supplier):Supplier:=
 if m.unchangedDomain env before then row
 else {row with apolloOrganizationId:=none,apolloStatus:=none,apolloObservedAt:=none}

def withFamily (row:Supplier):Supplier:=
 if !m.familyConfirmed&&row.familyConfirmationStatus=some .confirmed then row
 else
  let named:=truthy m.family
  {row with
    familyKeys:=if named then m.family.toList else []
    familySource:=if m.familyConfirmed then some .model else if named then some .naf else none
    familyConfidence:=m.familyConfidence
    familyConfirmationStatus:=if m.familyConfirmed then some .confirmed
     else if named then some .unconfirmed else none
    familiesObservedAt:=m.observedAt}

def withDirectors (row:Supplier):Supplier:=
 if m.boundedDirectors=[] then row
 else {row with
  directors:=m.boundedDirectors
  directorsObservedAt:=some m.observedAt}

def withDisplayName (row:Supplier):Supplier:=
 match m.directorDisplayName with
 | none=>row
 | some name =>
  {row with
    directorDisplayName:=some name
    directorSource:=if name="" then none else some .model
    directorObservedAt:=if name="" then none else some m.observedAt}

/-- The mailbox's columns. Without an address the known one stays with its
website, and one that is published counts as the site's. -/
def withEmail (before row:Supplier):Supplier:=
 match m.email with
 | some email =>
  let named:=email != ""
  {row with
    professionalEmail:=some email
    emailSource:=if named then some .model else none
    emailConfidence:=m.emailConfidence
    emailVerificationStatus:=if named then some "mx_verified" else none
    emailContactName:=if !named then none
     else if truthy m.directorDisplayName then m.directorDisplayName else some before.legalName
    emailContactTitle:=if named then some m.directorTitle else none
    emailEvidenceUrl:=m.emailEvidenceUrl
    emailObservedAt:=if named then some m.observedAt else none}
 | none =>
  if m.unchangedDomain env before then
   {row with
     emailSource:=if before.emailSource=some .model ∧
       (env.publishedEmailEvidence before).isSome then some .site else before.emailSource}
  else {row with
   professionalEmail:=none
   emailSource:=none
   emailConfidence:=none
   emailVerificationStatus:=none
   emailContactName:=none
   emailContactTitle:=none
   emailEvidenceUrl:=none
   emailObservedAt:=none}

def withPhone (row:Supplier):Supplier:=
 match usablePhone env m.phone with
 | none=>row
 | some phone =>
  {row with
    phone:=some phone
    phoneSource:=some .model
    phoneObservedAt:=some m.observedAt}

def withJournal (row:Supplier):Supplier:=
 {row with
   enrichmentNotes:=some (clip 2000 m.notes)
   enrichmentCallId:=m.callId
   enrichmentModelId:=some m.model
   enrichmentCostUsd:=some m.costUsd
   enrichmentInputTokens:=some m.inputTokens
   enrichmentOutputTokens:=some m.outputTokens
   enrichmentEvidence:=m.evidence
   enrichmentDecision:=m.decision
   enrichmentObservedAt:=some m.observedAt
   reverificationRequiredAt:=if truthy m.reverificationReason then some m.observedAt else none
   reverificationReason:=m.reverificationReason
   websiteFailureCount:=0
   websiteNextRetryAt:=none
   websiteUnreachableAt:=none
   updatedAt:=m.observedAt}

def values (row:Supplier):Supplier:=
 m.withJournal (m.withPhone env (m.withEmail env row (m.withDisplayName (m.withDirectors
  (m.withFamily (m.withApollo env row (m.withWebsite row)))))))

end ModelEnrichment

/-- `record_model_enrichment`, which passes by a suppressed row. -/
def recordModelEnrichment (env:Env)(siren:String)(m:ModelEnrichment)(d:Directory) :
 Directory × Bool:=
 d.updateWhere (fun row=>row.siren==siren&&row.suppressedAt.isNone) (m.values env)

inductive Write where
 | upsertIdentity (identity:Identity)
 | recordDomain (siren:String)(r:DomainRecord)
 | recordApollo (siren:String)(organizationId:Option String)(status:ApolloStatus) (observedAt:ℤ)
 | markWithoutWebsite (siren:String)(searchQueriesCompleted searchResultsExamined:ℕ) (observedAt:ℤ)
 | recordWebsiteConnectionFailure (siren:String)(observedAt:ℤ)
 | recordDirectors (siren:String)(directors:List DirectorItem)(observedAt:ℤ)
 | recordEmail (siren:String)(r:EmailRecord)
 | recordContactForm (siren url:String)(observedAt:ℤ)
 | markForReverification (siren reason:String)(observedAt:ℤ)(expectedDomain:Option String)
 | recordModelEnrichment (siren:String)(m:ModelEnrichment)
 | suppressPersonalData (siren:String)(at':ℤ)

def write (env:Env)(d:Directory):Write→Directory
 | .upsertIdentity identity=>(upsertIdentity identity d).1
 | .recordDomain siren r=>(recordDomain env siren r d).1
 | .recordApollo siren organizationId status observedAt =>
  recordApollo siren organizationId status observedAt d
 | .markWithoutWebsite siren queries results observedAt =>
  (markWithoutWebsite siren queries results observedAt d).1
 | .recordWebsiteConnectionFailure siren observedAt =>
  (recordWebsiteConnectionFailure siren observedAt d).1
 | .recordDirectors siren directors observedAt=>recordDirectors siren directors observedAt d
 | .recordEmail siren r=>(recordEmail env siren r d).1
 | .recordContactForm siren url observedAt=>(recordContactForm siren url observedAt d).1
 | .markForReverification siren reason observedAt expectedDomain =>
  (markForReverification env siren reason observedAt expectedDomain d).1
 | .recordModelEnrichment siren m=>(recordModelEnrichment env siren m d).1
 | .suppressPersonalData siren at'=>(suppressPersonalData siren at' d).1

/-- `fresh_domain` -/
def freshDomain (siren:String)(at':ℤ)(d:Directory):Option Supplier:=
 (d.row? siren).filter fun row=>truthy row.domain&&row.domainValidationMethod.isSome &&
  row.reverificationRequiredAt.isNone&&fresh row.domainObservedAt at'

/-- `fresh_email` -/
def freshEmail (env:Env)(siren:String)(at':ℤ)(d:Directory):Option Supplier:=
 (d.row? siren).filter fun row=>row.suppressedAt.isNone&&truthy row.professionalEmail &&
  truthy row.domain&&row.domainValidationMethod.isSome&&row.reverificationRequiredAt.isNone &&
  (row.domain.any fun domain=>
   env.casefold (mailboxDomain (row.professionalEmail.getD ""))==env.casefold domain ||
    row.emailSource=some .manual||row.emailSource=some .model ||
    row.emailSource=some .site&&row.emailEvidenceUrl.any fun url=>
     env.site url==env.casefold domain) &&
  fresh row.emailObservedAt at'

end Kivou.SupplierDirectory
