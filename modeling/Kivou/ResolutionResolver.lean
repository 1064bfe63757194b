import Kivou.ResolutionNames

set_option autoImplicit false

/-! `signals.resolution.resolver`: a mention is attached to the first known company that one of four
tiers recognises it by, or it makes a new company, or nothing is concluded. -/
namespace Kivou.Resolution

/-- An `OrganizationRef`. -/
structure Organization where
 legalName:String
 identifiers:List Identifier
 (country address:Option String)

structure Company where
 legalName:String
 identifiers:List Identifier
 (country address:Option String)
 aliases:List String

/-- A `_Record`. `published` is not one of its fields: the countries that the
mentions attached to it publish. -/
structure Record where
 company:Company
 verified:Bool
 sources:List String
 mentions:ℕ
 officialKeys:List (String × String)
 localKeys:List (String × String × String)
 unattributedKeys:List (String × String × String × Option String)
 nameKeys:List (String × String × String)
 published:List String

inductive MatchMethod where
 | officialIdentifier | sourceLocalIdentifier | unattributedIdentifier
 | registryLookup | nameAndAddress | fuzzyName

structure Basis where
 method:MatchMethod
 supports:Bool

inductive ResolutionStatus where
 | verified | probable | reviewRequired | unresolved | conflict | registryUnavailable
 deriving DecidableEq

structure Candidate where
 company:ℕ
 score:ℚ

structure CompanyResolution where
 sourceSystem:String
 status:ResolutionStatus
 company:Option ℕ
 basis:List Basis
 candidates:List Candidate

structure VatCheck where
 valid:Option Bool
 name:Option String
 unavailable:Bool

def VatCheck.disclosesHolder (check:VatCheck):Bool:=
 check.name.any fun name=>name.toList.any fun c=>c != '-' && c != ' '

structure Settings where
 text:Text
 candidateSimilarity:ℚ
 minCoreLength:ℕ:=4

def add {α:Type}[DecidableEq α](set:List α)(a:α):List α:=
 if a∈set then set else set++[a]

variable (settings:Settings)

/-- `_contradicts`: another value of a registry that the company is known in.
The dictionary keeps one value a registry, the last in the set's order. -/
def contradicts (record:Record)(identifiers:List ClassifiedIdentifier):Bool:=
 identifiers.any fun i=>i.strength==.official &&
  match (settings.text.iterate record.officialKeys).reverse.find? (·.1==i.key.1) with
  | some known=>known.2 != i.key.2
  | none=>false

def scan (holds refused:Record→Bool)(method:MatchMethod) :
 List Record→ℕ→List Basis→Option ℕ × List Basis
 | [],_,basis=>(none,basis)
 | record::records,n,basis =>
  if holds record then
   if refused record then
    scan holds refused method records (n+1) (basis++[⟨.officialIdentifier,false⟩])
   else (some n,basis++[⟨method,true⟩])
  else scan holds refused method records (n+1) basis

def matchIdentifiers (records:List Record)(holds:ClassifiedIdentifier→Record→Bool)
 (refused:Record→Bool)(method:MatchMethod) :
 List ClassifiedIdentifier→List Basis→Option ℕ × List Basis
 | [],basis=>(none,basis)
 | i::identifiers,basis =>
  match scan (holds i) refused method records 0 basis with
  | (some n,basis)=>(some n,basis)
  | (none,basis)=>matchIdentifiers records holds refused method identifiers basis

def ofStrength (strength:IdentifierStrength)(identifiers:List ClassifiedIdentifier) :
 List ClassifiedIdentifier:=
 identifiers.filter (·.strength==strength)

variable (records:List Record)(organization:Organization)

def matchOfficial (identifiers:List ClassifiedIdentifier) : List Basis→Option ℕ × List Basis:=
 matchIdentifiers records (fun i record=>i.key∈record.officialKeys) (fun _=>false)
  .officialIdentifier (ofStrength .official identifiers)

def matchSourceLocal (identifiers:List ClassifiedIdentifier)
 (sourceSystem:String):List Basis→Option ℕ × List Basis:=
 matchIdentifiers records (fun i record=>(sourceSystem,i.scheme,i.matchingValue)∈record.localKeys)
  (fun record=>contradicts settings record identifiers) .sourceLocalIdentifier
  (ofStrength .sourceLocal identifiers)

def matchUnattributed (identifiers:List ClassifiedIdentifier)(sourceSystem:String) :
 List Basis→Option ℕ × List Basis:=
 matchIdentifiers records
  (fun i record=>(sourceSystem,i.scheme,i.matchingValue,organization.country) ∈
   record.unattributedKeys)
  (fun record=>contradicts settings record identifiers) .unattributedIdentifier
  (ofStrength .unattributed identifiers)

/-- `_name_key`: name, country and postal code, all three. -/
def nameKey:Option (String × String × String):=do
 let country ←organization.country
 let postal ←organization.address.bind settings.text.postalCode
 let name:=matchingName settings.text organization.legalName
 guard (name≠"")
 return (name,country,postal)

def matchNameAddress
 (identifiers:List ClassifiedIdentifier)(basis:List Basis):Option ℕ × List Basis:=
 match nameKey settings organization with
 | none=>(none,basis)
 | some key =>
  scan (fun record=>key∈record.nameKeys)
   (fun record=>contradicts settings record identifiers) .nameAndAddress records 0 basis

/-- The four tiers, joined by `or`, with the status each gives. -/
def recognise (identifiers:List ClassifiedIdentifier)(sourceSystem:String) :
 Option (ℕ × ResolutionStatus) × List Basis:=
 match matchOfficial records identifiers [] with
 | (some n,basis)=>(some (n,.verified),basis)
 | (none,basis) =>
  match matchSourceLocal settings records identifiers sourceSystem basis with
  | (some n,basis)=>(some (n,.probable),basis)
  | (none,basis) =>
   match matchUnattributed settings records organization identifiers sourceSystem basis with
   | (some n,basis)=>(some (n,.probable),basis)
   | (none,basis) =>
    match matchNameAddress settings records organization identifiers basis with
    | (some n,basis)=>(some (n,.probable),basis)
    | (none,basis)=>(none,basis)

/-- `_detect_conflicts`: an official identifier of a company of another country. -/
def detectConflicts (identifiers:List ClassifiedIdentifier):Bool:=
 (ofStrength .official identifiers).any fun i=>records.any fun record=>
  i.key∈record.officialKeys &&
   match record.company.country,organization.country with
   | some known,some published=>known != published
   | _,_=>false

/-- `_index`. -/
def indexed (sourceSystem:String) (identifiers:List ClassifiedIdentifier)(record:Record):Record:=
 {record with
   mentions:=record.mentions+1
   sources:=add record.sources sourceSystem
   officialKeys:=((ofStrength .official identifiers).map (·.key)).foldl add record.officialKeys
   localKeys:=((ofStrength .sourceLocal identifiers).map fun i=>
    (sourceSystem,i.scheme,i.matchingValue)).foldl add record.localKeys
   unattributedKeys:=((ofStrength .unattributed identifiers).map fun i=>
    (sourceSystem,i.scheme,i.matchingValue,organization.country)).foldl add
     record.unattributedKeys
   nameKeys:=(nameKey settings organization).elim record.nameKeys (add record.nameKeys)
   published:=organization.country.elim record.published (add record.published)}

/-- `with_alias`. -/
def Company.withAlias (company:Company)(mention:Organization):Company:=
 if mention.legalName=company.legalName ∨ mention.legalName∈company.aliases then company
 else {company with aliases:=company.aliases++[mention.legalName]}

/-- `_attach`. -/
def attached (sourceSystem:String)
 (identifiers:List ClassifiedIdentifier)(verified:Bool)(record:Record):Record:=
 indexed settings organization sourceSystem identifiers
  {record with
    company:=record.company.withAlias organization
    verified:=record.verified||verified}

/-- `_create`. -/
def created (sourceSystem:String) (identifiers:List ClassifiedIdentifier)(verified:Bool):Record:=
 indexed settings organization sourceSystem identifiers
  { company:=⟨organization.legalName,organization.identifiers,organization.country,
     organization.address,[]⟩
    verified
    sources:=[]
    mentions:=0
    officialKeys:=[]
    localKeys:=[]
    unattributedKeys:=[]
    nameKeys:=[]
    published:=[]}

/-- `_fuzzy_candidates`: at most five, the closest first. -/
def fuzzyCandidates:List Candidate:=
 if (nameCore settings.text organization.legalName).length<settings.minCoreLength then []
 else
  let scored:=records.zipIdx.filterMap fun (record,n)=>
   let score:=nameSimilarity settings.text organization.legalName record.company.legalName
   let apart:Bool:=match organization.country,record.company.country with
    | some here,some there=>here != there
    | _,_=>false
   if apart then none
   else if settings.candidateSimilarity ≤ score then some ⟨n,score⟩ else none
  (scored.insertionSort fun a b=>b.score≤a.score).take 5

inductive RegistryAnswer where
 | verified | probable | conflict | unavailable
 deriving DecidableEq

/-- `_consult_registry`, on the numbers that are published and no others. -/
def consultRegistry (vies:Option (String→String→VatCheck))(organization:Organization) :
 List ClassifiedIdentifier→List Basis→Option RegistryAnswer × List Basis
 | [],basis=>(none,basis)
 | i::identifiers,basis =>
  match vies,vatParts settings.text i.publishedValue with
  | none,_=>(none,basis)
  | _,none=>consultRegistry vies organization identifiers basis
  | some check,some (country,number) =>
   if organization.country.any (· != vatCountry country) then
    consultRegistry vies organization identifiers basis
   else
    let check:=check country number
    if check.unavailable then (some .unavailable,basis++[⟨.registryLookup,false⟩])
    else if check.valid≠some true then
     if i.strength=.official then (some .conflict,basis++[⟨.registryLookup,false⟩])
     else consultRegistry vies organization identifiers basis
    else if ¬check.disclosesHolder then (some .probable,basis++[⟨.registryLookup,true⟩])
    else if settings.candidateSimilarity ≤
      nameSimilarity settings.text organization.legalName (check.name.getD "") then
     (some .verified,basis++[⟨.registryLookup,true⟩])
    else (some .conflict,basis++[⟨.registryLookup,false⟩])

/-- `_has_enough_published`. -/
def hasEnoughPublished (identifiers:List ClassifiedIdentifier) :
 Bool:=
 !identifiers.isEmpty ||
  organization.country.isSome&&(organization.address.bind settings.text.postalCode).isSome

/-- `_resolve_new`. -/
def resolveNew (vies:Option (String→String→VatCheck))(records:List Record)
 (organization:Organization)(identifiers:List ClassifiedIdentifier)(sourceSystem:String)
 (basis:List Basis):List Record × CompanyResolution:=
 let candidates:=fuzzyCandidates settings records organization
 let (registry,basis):=consultRegistry settings vies organization identifiers basis
 let refused (status:ResolutionStatus)(basis:List Basis):List Record × CompanyResolution:=
  (records,⟨sourceSystem,status,none,basis,candidates⟩)
 if registry=some .conflict then refused .conflict basis
 else
  let distinguishing:=identifiers.any (·.strength != .unknown)
  let basis:=if candidates=[] then basis else basis++[⟨.fuzzyName,false⟩]
  if candidates≠[] ∧ distinguishing=false ∧ registry≠some .verified then
   refused .reviewRequired basis
  else if hasEnoughPublished settings organization identifiers=false then
   refused .unresolved (basis++[⟨.nameAndAddress,false⟩])
  else if registry=some .unavailable ∧ basis=[] then refused .registryUnavailable basis
  else
   let verified:Bool:=registry=some .verified
   let basis:=if basis=[] then [⟨.nameAndAddress,true⟩] else basis
   (records++[created settings organization sourceSystem identifiers verified],
    ⟨sourceSystem,if verified then .verified else .probable,some records.length,basis,candidates⟩)

/-- `resolve`. -/
def resolve (vies:Option (String→String→VatCheck))(records:List Record)
 (organization:Organization)(sourceSystem:String):List Record × CompanyResolution:=
 let identifiers:=organization.identifiers.map (classify settings.text)
 if detectConflicts records organization identifiers then
  (records,⟨"manual",.conflict,none,[⟨.officialIdentifier,false⟩],[]⟩)
 else
  match recognise settings records organization identifiers sourceSystem with
  | (some (n,status),basis) =>
   (records.modify n (attached settings organization sourceSystem identifiers (status==.verified)),
    ⟨sourceSystem,status,some n,basis,[]⟩)
  | (none,basis) =>resolveNew settings vies records organization identifiers sourceSystem basis

end Kivou.Resolution
