import Kivou.PythonValues
import Mathlib.Data.List.Infix
import Mathlib.Data.List.Sort

set_option autoImplicit false

/-! `signals.contact_discovery`: what a provider, the supplier directory or a website offers as a
contact, the ranking of titles and the contract that an observation is held to. Unicode folding is a
parameter. -/
namespace Kivou.ContactDiscovery
open PythonValues

/-- The functions that come from outside: `_normalize` of titles, `str.casefold` and the
SHA-256 digests. -/
structure Texts where
 (normalize casefold:String→String)
 digest:List String→String

def personTitles:List String:=
 ["Head of Sales","Sales Director","VP Sales","Commercial Director","Chief Revenue Officer",
  "Business Development Director","Head of Business Development","VP Business Development",
  "Sales Manager","Business Development Manager","Managing Director","CEO","Founder","Owner",
  "Directeur commercial","Directrice commerciale","Directeur des ventes",
  "Directrice des ventes","Directeur du développement commercial",
  "Directrice du développement commercial","Responsable du développement commercial",
  "Responsable développement commercial","Responsable commercial","Responsable commerciale",
  "Responsable des ventes","Directeur général","Directrice générale","Fondateur","Fondatrice",
  "Dirigeant","Dirigeante"]

def tierPatterns:List (ℕ × List String):=
 [(1,["head of sales","sales director","vp sales","commercial director",
   "chief revenue officer","directeur commercial","directrice commerciale",
   "directeur des ventes","directrice des ventes"]),
  (2,["business development director","head of business development",
   "vp business development","directeur du developpement commercial",
   "directrice du developpement commercial","responsable du developpement commercial",
   "responsable developpement commercial"]),
  (3,["sales manager","business development manager","responsable commercial",
   "responsable commerciale","responsable des ventes"]),
  (4,["managing director","ceo","founder","owner","directeur general",
   "directrice generale","fondateur","fondatrice","dirigeant","dirigeante"])]

def seniorityTerms:List (String × ℕ):=
 [("chief",1),("ceo",1),("vp",2),("head",3),("director",4),("directeur",4),
  ("directrice",4),("manager",5),("responsable",5),("founder",6),("fondateur",6),
  ("fondatrice",6),("owner",7),("dirigeant",7),("dirigeante",7)]

/-- `pattern in text` -/
def contains (text pattern:String):Bool:=pattern.toList <:+: text.toList

structure TitleClassification where
 normalizedTitle:String
 roleTier:ℕ
 exactTitleMatch:Bool
 seniorityPriority:ℕ
 deriving DecidableEq

def classifyTitle (texts:Texts)(title:String):Option TitleClassification:=
 let normalized:=texts.normalize title
 (tierPatterns.find? fun tier=>tier.2.any (contains normalized)).map fun tier=>
  { normalizedTitle:=normalized
    roleTier:=tier.1
    exactTitleMatch:=(personTitles.map texts.normalize).contains normalized
    seniorityPriority:=
     ((seniorityTerms.find? fun term=>contains normalized term.1).map (·.2)).getD 20}

/-- `PeopleSearchCandidate` -/
structure Candidate where
 (providerPersonId title:String)
 hasEmail:Bool
 deriving DecidableEq

structure RankedCandidate where
 candidate:Candidate
 classification:TitleClassification
 deriving DecidableEq

def RankedCandidate.before (a b:RankedCandidate):Bool:=
 let x:=a.classification
 let y:=b.classification
 x.roleTier<y.roleTier||x.roleTier==y.roleTier &&
  (x.exactTitleMatch&&!y.exactTitleMatch||x.exactTitleMatch==y.exactTitleMatch &&
   (x.seniorityPriority<y.seniorityPriority||x.seniorityPriority==y.seniorityPriority &&
    (x.normalizedTitle<y.normalizedTitle||x.normalizedTitle==y.normalizedTitle &&
     a.candidate.providerPersonId≤b.candidate.providerPersonId)))

def firstOfEach:List String→List Candidate→List Candidate
 | _,[]=>[]
 | seen,candidate::rest =>
  if candidate.providerPersonId∈seen then firstOfEach seen rest
  else candidate::firstOfEach (candidate.providerPersonId::seen) rest

def rankCandidates (texts:Texts)(candidates:List Candidate):List RankedCandidate:=
 ((firstOfEach [] candidates).filterMap fun candidate=>
  (classifyTitle texts candidate.title).map (⟨candidate,·⟩)).insertionSort
   fun a b=>a.before b=true

inductive Provider where
 | apollo | companyWebsite
 deriving DecidableEq

/-- `ContactObservation`, and the row of `acquisition_contact`. -/
structure ContactObservation where
 supplierRef:String
 provider:Provider
 (providerPersonId providerOrganizationId:String)
 (firstName lastName displayName title:Option String)
 (normalizedTitle roleProfileVersion:String)
 roleTier:ℕ
 (businessEmail providerEmailStatus:String)
 (providerObservedAt emailObservedAt:ℤ)
 sourceFingerprint:String
 deriving DecidableEq

def ContactObservation.trimmed (observation:ContactObservation):ContactObservation:=
 {observation with
   supplierRef:=trim observation.supplierRef
   providerPersonId:=trim observation.providerPersonId
   providerOrganizationId:=trim observation.providerOrganizationId
   firstName:=observation.firstName.map trim
   lastName:=observation.lastName.map trim
   displayName:=observation.displayName.map trim
   title:=observation.title.map trim
   normalizedTitle:=trim observation.normalizedTitle
   roleProfileVersion:=trim observation.roleProfileVersion
   businessEmail:=trim observation.businessEmail
   providerEmailStatus:=trim observation.providerEmailStatus}

def sized (least most:ℕ)(text:String):Bool:=least≤text.length&&text.length ≤ most

/-- `^[^\s@]+@[^\s@]+\.[^\s@]+$` -/
def isEmail (text:String):Bool:=
 match text.toList.span (· != '@') with
 | (local', '@' :: domain) =>
  !local'.isEmpty&&local'.all (fun c=>!isSpace c) &&
   domain.all (fun c=>!isSpace c&&c != '@')&&(domain.drop 1).dropLast.contains '.'
 | _=>false

def genericMailboxes:List String:=["contact","info","hello","office","admin"]

/-- `email.split("@", 1)[0]` -/
def localPart (email:String):String:=String.ofList (email.toList.takeWhile (· != '@'))

/-- `verified_contact_contract` -/
def ContactObservation.verified (texts:Texts)(observation:ContactObservation):Bool:=
 match observation.provider with
 | .apollo=>observation.providerEmailStatus=="verified" &&
  !genericMailboxes.contains (texts.casefold (localPart observation.businessEmail))
 | .companyWebsite=>observation.displayName.isSome &&observation.providerEmailStatus=="mx_accepted"

def ContactObservation.fits (texts:Texts)(observation:ContactObservation):Bool:=
 sized 1 256 observation.supplierRef&&sized 1 128 observation.providerPersonId &&
  sized 1 128 observation.providerOrganizationId&&observation.firstName.all (sized 1 512) &&
  observation.lastName.all (sized 1 512)&&observation.displayName.all (sized 1 512) &&
  observation.title.all (sized 1 512)&&sized 1 512 observation.normalizedTitle &&
  sized 1 512 observation.roleProfileVersion &&
  (1≤observation.roleTier&&observation.roleTier≤4) &&
  sized 0 320 observation.businessEmail&&isEmail observation.businessEmail &&
  observation.verified texts

/-- `ContactObservation(...)`; none is a `ValidationError`. -/
def ContactObservation.validated (texts:Texts)(observation:ContactObservation) :
 Option ContactObservation:=
 if observation.trimmed.fits texts then some observation.trimmed else none

/-- `is_attachable_contact` of a stored contact. -/
def ContactObservation.isAttachable (contact:ContactObservation):Bool:=
 !contact.businessEmail.isEmpty &&
  match contact.provider with
  | .apollo=>contact.providerEmailStatus=="verified"
  | .companyWebsite=>contact.providerEmailStatus=="mx_accepted" &&
   contact.displayName.any fun name=>!name.isEmpty

/-- What `contact_ref_for` digests. -/
structure ContactRef where
 provider:Provider
 (providerPersonId supplierRef:String)
 deriving DecidableEq

/-- `contact_ref_for`, which raises on a blank text. -/
def contactRefFor (provider:Provider)(providerPersonId supplierRef:String) :
 Option ContactRef:=
 if (strip providerPersonId).isEmpty||(strip supplierRef).isEmpty then none
 else some ⟨provider,strip providerPersonId,strip supplierRef⟩

def ContactObservation.ref (observation:ContactObservation):Option ContactRef:=
 contactRefFor observation.provider observation.providerPersonId observation.supplierRef

/-- `DecisionMakerSearchProfile`, whose texts are trimmed. -/
structure SearchProfile where
 (profileVersion supplierRef providerOrganizationId:String)
 (supplierSiren organizationName organizationDomain:Option String)
 (maxEnrichmentAttempts searchTooBroadThreshold:ℕ)
 profileFingerprint:String
 organization_trimmed:trim providerOrganizationId=providerOrganizationId
 attempts_bounds:1 ≤ maxEnrichmentAttempts ∧ maxEnrichmentAttempts≤3
 deriving DecidableEq

inductive EmailSource where
 | apollo | site | manual | model
 deriving DecidableEq

/-- The columns of a `SupplierDirectoryRecord` that a contact is made of. -/
structure DirectoryRecord where
 siren:String
 (professionalEmail emailContactName emailContactTitle:Option String)
 emailSource:Option EmailSource
 apolloOrganizationId:Option String
 emailObservedAt:Option ℤ

def truthy (text:Option String):Bool:=text.any fun t=>!t.isEmpty

/-- `name.split()[0]`, which raises on a blank name. -/
def firstWord (name:String):Option String:=
 match (name.toList.dropWhile isSpace).takeWhile (fun c=>!isSpace c) with
 | []=>none
 | word=>some (String.ofList word)

def DirectoryRecord.observation (texts:Texts)(record:DirectoryRecord)(profile:SearchProfile)
 (supplierRef email name title:String)(provider:Provider)
 (providerOrganizationId:String)(now:ℤ):Option ContactObservation:=
 let digest:=texts.digest ["directory",record.siren,email]
 let classification:=classifyTitle texts title
 let observation (firstName:Option String):ContactObservation:=
  { supplierRef,provider,providerOrganizationId,firstName
    providerPersonId:="directory-"++String.ofList (digest.toList.take 24)
    lastName:=none
    displayName:=some name
    title:=some title
    normalizedTitle:=(classification.map (·.normalizedTitle)).getD "dirigeant"
    roleProfileVersion:=profile.profileVersion
    roleTier:=(classification.map (·.roleTier)).getD 1
    businessEmail:=email
    providerEmailStatus:=match provider with
     | .apollo=>"verified"
     | .companyWebsite=>"mx_accepted"
    providerObservedAt:=record.emailObservedAt.getD now
    emailObservedAt:=record.emailObservedAt.getD now
    sourceFingerprint:=digest}
 if title="Entreprise" then some (observation none)
 else (firstWord name).map fun word=>observation (some word)

/-- `_directory_contact` of what `fresh_email` returned; an error is an exception. -/
def directoryContact (texts:Texts)(profile:SearchProfile)(supplierRef:String)
 (fresh:Option DirectoryRecord)(now:ℤ):Except Unit (Option ContactObservation):=
 match fresh with
 | none=>.ok none
 | some record =>
  match record.professionalEmail,record.emailContactName,record.emailContactTitle with
  | some email,some name,some title =>
   if email.isEmpty||name.isEmpty||title.isEmpty then .ok none
   else if record.emailSource=some .apollo ∧ truthy record.apolloOrganizationId=false then .ok none
   else
    let built:=if record.emailSource=some .apollo then
      record.observation texts profile supplierRef email name title .apollo
       (record.apolloOrganizationId.getD "") now
     else
      record.observation texts profile supplierRef email name title .companyWebsite record.siren now
    match built.bind (·.validated texts) with
    | some observation=>.ok (some observation)
    | none=>.error ()
  | _,_,_=>.ok none

/-- `ApolloEnrichedPerson` -/
structure EnrichedPerson where
 providerPersonId:String
 (providerOrganizationId firstName lastName displayName title businessEmail:Option String)
 providerEmailStatus:Option String
 providerObservedAt:ℤ
 sourceFingerprint:String
 deriving DecidableEq

def enrichedContact (texts:Texts)(profile:SearchProfile)(supplierRef:String)
 (ranked:RankedCandidate)(person:EnrichedPerson):Option ContactObservation:=
 if person.providerPersonId≠ranked.candidate.providerPersonId ∨
   person.providerOrganizationId≠some profile.providerOrganizationId then none
 else
  let classification:=match person.title with
   | none=>some ranked.classification
   | some title=>classifyTitle texts title
  match classification,person.businessEmail,person.providerEmailStatus with
  | some classification,some email,some status =>
   let observation:ContactObservation:=
    { supplierRef
      provider:=.apollo
      providerPersonId:=person.providerPersonId
      providerOrganizationId:=profile.providerOrganizationId
      firstName:=person.firstName
      lastName:=person.lastName
      displayName:=person.displayName
      title:=if truthy person.title then person.title else some ranked.candidate.title
      normalizedTitle:=classification.normalizedTitle
      roleProfileVersion:=profile.profileVersion
      roleTier:=classification.roleTier
      businessEmail:=email
      providerEmailStatus:=status
      providerObservedAt:=person.providerObservedAt
      emailObservedAt:=person.providerObservedAt
      sourceFingerprint:=person.sourceFingerprint}
   observation.validated texts
  | _,_,_=>none

structure WebsiteContact where
 (providerPersonId displayName:String)
 firstName:Option String
 title:String
 isDirector:Bool
 (businessEmail sourceFingerprint:String)

/-- `PublishedWebsiteContactProvider.find`; whatever raises in it is no contact. -/
def websiteContact (texts:Texts)(profile:SearchProfile)(found:Option WebsiteContact)
 (now:ℤ):Option ContactObservation:=
 match profile.supplierSiren,found with
 | some siren,some contact =>
  let observation:ContactObservation:=
   { supplierRef:=profile.supplierRef
     provider:=.companyWebsite
     providerPersonId:=contact.providerPersonId
     providerOrganizationId:=siren
     firstName:=contact.firstName
     lastName:=none
     displayName:=some contact.displayName
     title:=some contact.title
     normalizedTitle:=if contact.isDirector then "dirigeant" else "entreprise"
     roleProfileVersion:=profile.profileVersion
     roleTier:=if contact.isDirector then 1 else 4
     businessEmail:=contact.businessEmail
     providerEmailStatus:="mx_accepted"
     providerObservedAt:=now
     emailObservedAt:=now
     sourceFingerprint:=contact.sourceFingerprint}
  observation.validated texts
 | _,_=>none

end Kivou.ContactDiscovery
