import Kivou.Calendar
import Kivou.PythonNumbers

set_option autoImplicit false

/-! `signals.connectors.decp.parser`: one record of the French essential data of public contracts
gives one event and its one contract. -/
namespace Kivou.DecpContracts
open PythonValues PythonNumbers AwardDomain

/-- The fields that are present and not `None`, each with the `str` of its value. -/
abbrev Record:=List (String × String)

variable (record:Record)(value:Option String)

def Record.get (field:String):Option String:=(record.find? (·.1==field)).map (·.2)

def fillerValues:List String:=["CDL","NC","N/A","-"]

inductive ParseError where
 | noIdentifier
 | validation
 | invalidOperation
 | badInteger
 | overflow

/-- `_text`: filler counts for nothing. -/
def text:Option NonEmptyStr:=value.bind fun value=>
  if strip value∈fillerValues then none else NonEmptyStr.of (strip value)

def date:Option Date:=
 (text value).bind fun said=>Calendar.fromisoformat (String.ofList (said.text.toList.take 10))

/-- `text.partition("-")`, without the mark. -/
def partition (text:String):String × String:=(String.ofList (text.toList.takeWhile (· != '-')),
  String.ofList ((text.toList.dropWhile (· != '-')).drop 1))

/-- `CpvCode(code=..., check_digit=...)`. -/
def cpvCode (code:String)(checkDigit:Option String):Except ParseError CpvCode:=
 if codeForm:isCpvRoot code=true then
  if checkForm:checkDigit.all isCheckDigit=true then .ok ⟨code,checkDigit,codeForm,checkForm⟩
  else .error .validation
 else .error .validation

def cpv:Except ParseError (Option CpvCode):=
 match text value with
 | none=>.ok none
 | some said =>
  let (root,check):=partition said.text
  if allDigits root ∧ root.toList.length=8 then
   (cpvCode root (if allDigits check ∧ check.toList.length=1 then some check else none)).map some
  else .ok none

def siretScheme:NonEmptyStr:=⟨"SIRET",rfl⟩
def france:CountryCode:=⟨"FR",rfl⟩

def identifier (index:ℕ):Option OrganizationIdentifier:=
 match text (record.get ("titulaire_typeidentifiant_"++toString index)),
   text (record.get ("titulaire_id_"++toString index)) with
 | some scheme,some value=>some ⟨scheme,value⟩
 | _,_=>none

/-- `buyer_siret`. -/
def buyerSiret:Option NonEmptyStr:=(text (record.get "acheteur_id")).filter fun value=>
  allDigits value.text&&value.text.toList.length==14

def winner (identifier:OrganizationIdentifier):OrganizationRef:=
 { legalName:=identifier.value
   identifiers:=[identifier]
   country:=if identifier.scheme=siretScheme then some france else none
   address:=none
   website:=none
   location:=none}

def groupedRole (members:List OrganizationRef):AwardeeRole:=
 if members.length=1 then .sole else .consortiumMember

lemma membersCoherent_grouped {members:List OrganizationRef}(some':members≠[]) :
 membersCoherent (members.map fun m=>⟨m,groupedRole members⟩)=true:=by
 match members with
 | []=>exact absurd rfl some'
 | [member]=>rfl
 | first::second::rest =>
  have role:groupedRole (first::second::rest)=.consortiumMember:=by simp[groupedRole]
  have leads:(rest.map fun m=>(⟨m,.consortiumMember⟩:Awardee)).countP
    (fun m=>m.role==.consortiumLead)=0:=by
   simp[List.countP_eq_zero]
  simp[role,membersCoherent,leads]

def party (members:List OrganizationRef)(some':members≠[]):AwardeeParty:=
 ⟨members.map fun m=>⟨m,groupedRole members⟩,none,membersCoherent_grouped some'⟩

/-- `_winners`: several holders of one contract form a group. -/
def winners:List AwardeeParty:=
 let members:=([1,2,3].filterMap (identifier record)).map winner
 if some':members≠[] then [party members some'] else []

def departments:List String:=
 ["01","02","03","04","05","06","07","08","09","10","11","12","13","14","15","16",
  "17","18","19","2A","2B","21","22","23","24","25","26","27","28","29","30","31",
  "32","33","34","35","36","37","38","39","40","41","42","43","44","45","46","47",
  "48","49","50","51","52","53","54","55","56","57","58","59","60","61","62","63",
  "64","65","66","67","68","69","70","71","72","73","74","75","76","77","78","79",
  "80","81","82","83","84","85","86","87","88","89","90","91","92","93","94","95",
  "971","972","973","974","976"]

/-- `department_from_postal_code`; a digit that is not decimal is not read by `int`. -/
def departmentFromPostalCode (postalCode:String):Except ParseError (Option String):=
 let code:=(strip postalCode).toList
 if code.length≠5 ∨ ¬allDigits (strip postalCode) then .ok none
 else if code.take 2=['2','0'] then
  match int (strip postalCode) with
  | none=>.error .badInteger
  | some n=>.ok (some (if n<20200 then "2A" else "2B"))
 else
  let candidate:=String.ofList
   (if code.take 2=['9','7'] ∨ code.take 2=['9','8'] then code.take 3 else code.take 2)
  .ok (if candidate∈departments then some candidate else none)

/-- `^(\d{2,3}|2A|2B)$`. -/
def isDepartment (code:String):Bool:=
 (code.toList.all isDecimal&&(code.toList.length==2||code.toList.length==3)) ||
  code=="2A"||code=="2B"

def subdivision (department:String):Option (NonEmptyStr × SubdivisionScheme):=
 (NonEmptyStr.of ("FR-"++department)).map fun code=>(code,.iso3166_2)

def inFrance (subdivision:Option (NonEmptyStr × SubdivisionScheme))
 (postalCode:Option NonEmptyStr):Location:=
 {country:=some france,subdivision,locality:=none,postalCode,known:=rfl}

def place:Except ParseError (Option Location):=
 match text (record.get "lieuexecution_code") with
 | none=>.ok none
 | some code =>
  let kind:=(text (record.get "lieuexecution_typecode")).map NonEmptyStr.text
  if kind=some "Code postal" then do
   match ←departmentFromPostalCode code.text with
   | none=>return some (inFrance none (some code))
   | some department=>return some (inFrance (subdivision department) (some code))
  else if kind=some "Code département" ∧ isDepartment code.text then
   .ok (some (inFrance (subdivision code.text) none))
  else .ok (some (inFrance none none))

def euro:CurrencyCode:=⟨"EUR",rfl⟩

/-- `_money`: `NaN` cannot be compared, and an infinite amount is no `Money`. -/
def money:Except ParseError (Option Money):=
 match record.get "montant" with
 | none=>.ok none
 | some raw =>
  if (text (some raw)).isNone then .ok none
  else
   match decimal raw with
   | none=>.ok none
   | some .nan=>.error .invalidOperation
   | some (.infinite negative)=>if negative then .ok none else .error .validation
   | some (.finite negative digits exponent) =>
    if nonneg:0≤toRat negative digits exponent then
     .ok (some ⟨toRat negative digits exponent,euro,none,nonneg⟩)
    else .ok none

def duration:Except ParseError (Option Duration):=
 match text (record.get "dureemois") with
 | none=>.ok none
 | some said =>
  match intOfFloat said.text with
  | .error .value=>.ok none
  | .error .overflow=>.error .overflow
  | .ok months=>.ok (if positive:0 < months then some ⟨months,.month,positive⟩ else none)

def buyers:List OrganizationRef:=
 match buyerSiret record with
 | none=>[]
 | some siret =>
  [{ legalName:=siret,identifiers:=[⟨siretScheme,siret⟩],country:=some france
     address:=none,website:=none,location:=none}]

def sourceUrl (identifier:NonEmptyStr):Option NonEmptyStr:=
 NonEmptyStr.of ("https://data.economie.gouv.fr/explore/dataset/decp-2022-marches-valides/table/?q=" ++
  identifier.text)

def event (identifier:NonEmptyStr)(retrievedAt:Option DateTime) :
 PublicEvent:=
 { provenance:=
    { sourceSystem:=.decp
      sourceCountry:=france
      sourceNoticeId:=identifier
      noticeVersion:=none
      sourceProcedureId:=none
      sourceUrl:=sourceUrl identifier
      retrievedAt}
   eventType:=.awardNotice
   publishedAt:=(date (record.get "datepublicationdonnees")).map .date
   eventDate:=none
   corrects:=none
   procedureBuyers:=buyers record
   sourceNoticeLinks:=[]
   coherent:=rfl}

def winnerStatus (parties:List AwardeeParty):WinnerStatus:=
 if parties.isEmpty then .undisclosed else .identified

lemma winnersCoherent_winnerStatus (parties:List AwardeeParty) :
 winnersCoherent (winnerStatus parties) parties=true:=by
 cases parties <;> rfl

/-- `parse_contract`. -/
def parseContract (retrievedAt:Option DateTime) :
 Except ParseError (PublicEvent × ContractAward):=do
 match text (record.get "id") with
 | none=>throw .noIdentifier
 | some identifier =>
  let event:=event record identifier retrievedAt
  let cpvMain ←cpv (record.get "codecpv")
  let value ←money record
  let placeOfPerformance ←place record
  let duration ←duration record
  return (event,
   { eventRef:=event.ref
     sourceAwardId:=some identifier
     lot:=none
     contractReference:=text (record.get "idaccordcadre")
     title:=text (record.get "objet")
     description:=none
     cpvMain
     cpvAdditional:=[]
     value
     contractSignatories:=[]
     winnerStatus:=winnerStatus (winners record)
     awardeeParties:=winners record
     placeOfPerformance
     awardDate:=none
     contractSignatureDate:=none
     contractNotificationDate:=date (record.get "datenotification")
     contractStartDate:=none
     contractEndDate:=none
     duration
     winners:=winnersCoherent_winnerStatus (winners record)
     dates:=rfl})

end Kivou.DecpContracts
