import Kivou.PythonValues

set_option autoImplicit false

/-! The canonical values every connector translates to. A value the source refuses cannot be built:
the checks of each model are fields of its structure. -/
namespace Kivou.AwardDomain
open PythonValues

abbrev Date:=ℤ

def isFilled (text:String):Bool:=trim text==text&&text != ""

structure NonEmptyStr where
 text:String
 form:isFilled text=true
 deriving DecidableEq

namespace NonEmptyStr

lemma filled {text:String}(h:trim text≠""):isFilled (trim text)=true:=by
 simp[isFilled,trim_idem,h]

def of (text:String):Option NonEmptyStr:=
 if h:trim text≠"" then some ⟨trim text,filled h⟩ else none

lemma ext {a b:NonEmptyStr}(same:a.text=b.text):a=b:=by
 cases a
 cases b
 simpa using same

end NonEmptyStr

def isUpper (c:Char):Bool:=65≤c.toNat&&c.toNat≤90

/-- ISO 3166-1 alpha-2: `^[A-Z]{2}$`. -/
def isCountryCode (text:String):Bool:=text.toList.length==2&&text.toList.all isUpper

/-- ISO 4217: `^[A-Z]{3}$`. -/
def isCurrencyCode (text:String):Bool:=text.toList.length==3&&text.toList.all isUpper

structure CountryCode where
 code:String
 form:isCountryCode code=true

structure CurrencyCode where
 code:String
 form:isCurrencyCode code=true

/-- The zeros of the decimal digits of Unicode (category `Nd`), in blocks of ten. -/
def decimalZeros:List ℕ:=
 [0x30,0x660,0x6F0,0x7C0,0x966,0x9E6,0xA66,0xAE6,0xB66,0xBE6,0xC66,0xCE6,0xD66,0xDE6,
  0xE50,0xED0,0xF20,0x1040,0x1090,0x17E0,0x1810,0x1946,0x19D0,0x1A80,0x1A90,0x1B50,
  0x1BB0,0x1C40,0x1C50,0xA620,0xA8D0,0xA900,0xA9D0,0xA9F0,0xAA50,0xABF0,0xFF10,0x104A0,
  0x10D30,0x11066,0x110F0,0x11136,0x111D0,0x112F0,0x11450,0x114D0,0x11650,0x116C0,
  0x11730,0x118E0,0x11950,0x11C50,0x11D50,0x11DA0,0x11F50,0x16A60,0x16AC0,0x16B50,
  0x1D7CE,0x1D7D8,0x1D7E2,0x1D7EC,0x1D7F6,0x1E140,0x1E2F0,0x1E4F0,0x1E950,0x1FBF0]

/-- The value of a decimal digit: what `\d` matches and `int` reads. -/
def decimalDigit (c:Char):Option ℕ:=
 (decimalZeros.find? (fun z=>z≤c.toNat&&c.toNat<z+10)).map (c.toNat-·)

def isDecimal (c:Char):Bool:=(decimalDigit c).isSome

/-- `^\d{8}$`. -/
def isCpvRoot (text:String):Bool:=text.toList.length==8&&text.toList.all isDecimal

/-- `^\d$`. -/
def isCheckDigit (text:String):Bool:=text.toList.length==1&&text.toList.all isDecimal

structure CpvCode where
 code:String
 checkDigit:Option String
 codeForm:isCpvRoot code=true
 checkForm:checkDigit.all isCheckDigit=true

inductive VatCategory where
 | none | standard | special | reduced | foreign

structure Money where
 amount:ℚ
 currency:CurrencyCode
 vatCategory:Option VatCategory
 nonneg:0≤amount

inductive DurationUnit where
 | day | week | month | year

structure Duration where
 value:ℤ
 unit:DurationUnit
 positive:0<value

inductive SubdivisionScheme where
 | nuts | iso3166_2

structure Location where
 country:Option CountryCode
 subdivision:Option (NonEmptyStr × SubdivisionScheme)
 (locality postalCode:Option NonEmptyStr)
 known:country.isSome||subdivision.isSome||locality.isSome||postalCode.isSome

structure OrganizationIdentifier where
 (scheme value:NonEmptyStr)

structure OrganizationRef where
 legalName:NonEmptyStr
 identifiers:List OrganizationIdentifier
 country:Option CountryCode
 (address website:Option NonEmptyStr)
 location:Option Location

inductive SourceSystem where
 | simap | ted | boamp | decp | intelliprocure | manual
 deriving DecidableEq

def SourceSystem.name:SourceSystem→String
 | .simap=>"simap"
 | .ted=>"ted"
 | .boamp=>"boamp"
 | .decp=>"decp"
 | .intelliprocure=>"intelliprocure"
 | .manual=>"manual"

structure EventRef where
 sourceSystem:SourceSystem
 sourceNoticeId:NonEmptyStr
 noticeVersion:Option NonEmptyStr
 deriving DecidableEq

def EventRef.key (r:EventRef):String:=r.sourceSystem.name++":"++r.sourceNoticeId.text++":" ++
  (r.noticeVersion.map NonEmptyStr.text).getD ""

structure Provenance where
 sourceSystem:SourceSystem
 sourceCountry:CountryCode
 sourceNoticeId:NonEmptyStr
 (noticeVersion sourceProcedureId sourceUrl:Option NonEmptyStr)
 retrievedAt:Option DateTime

def Provenance.ref (p:Provenance):EventRef:=⟨p.sourceSystem,p.sourceNoticeId,p.noticeVersion⟩

inductive EventType where
 | tenderNotice | awardNotice | awardCorrection | awardCancellation | other
 deriving DecidableEq

inductive PublicationInstant where
 | date (day:Date)
 | instant (time:DateTime)

def correctionCoherent (ref:EventRef)(type:EventType):Option EventRef→Bool
 | none=>true
 | some corrects =>
  (type==.awardCorrection||type==.awardCancellation) &&
   corrects.sourceSystem==ref.sourceSystem&&corrects != ref

structure PublicEvent where
 provenance:Provenance
 eventType:EventType
 publishedAt:Option PublicationInstant
 eventDate:Option Date
 corrects:Option EventRef
 procedureBuyers:List OrganizationRef
 sourceNoticeLinks:List NonEmptyStr
 coherent:correctionCoherent provenance.ref eventType corrects=true

def PublicEvent.ref (e:PublicEvent):EventRef:=e.provenance.ref

inductive AwardeeRole where
 | sole | consortiumLead | consortiumMember
 deriving DecidableEq

structure Awardee where
 organization:OrganizationRef
 role:AwardeeRole

def membersCoherent:List Awardee→Bool
 | []=>false
 | [member]=>member.role==.sole
 | members =>
  members.all (fun m=>m.role != .sole) &&members.countP (fun m=>m.role==.consortiumLead)≤1

structure AwardeeParty where
 members:List Awardee
 name:Option NonEmptyStr
 coherent:membersCoherent members=true

structure LotRef where
 identifier:NonEmptyStr
 title:Option NonEmptyStr

inductive WinnerStatus where
 | identified | ambiguous | undisclosed
 deriving DecidableEq

def winnersCoherent (status:WinnerStatus)(parties:List AwardeeParty):Bool:=
 if status=.undisclosed then parties.isEmpty else !parties.isEmpty

def datesCoherent:Option Date→Option Date→Bool
 | some start,some finish=>start≤finish
 | _,_=>true

structure ContractAward where
 eventRef:EventRef
 sourceAwardId:Option NonEmptyStr
 lot:Option LotRef
 (contractReference title:Option NonEmptyStr)
 description:Option String
 cpvMain:Option CpvCode
 cpvAdditional:List CpvCode
 value:Option Money
 contractSignatories:List OrganizationRef
 winnerStatus:WinnerStatus
 awardeeParties:List AwardeeParty
 placeOfPerformance:Option Location
 (awardDate contractSignatureDate contractNotificationDate contractStartDate:Option Date)
 contractEndDate:Option Date
 duration:Option Duration
 winners:winnersCoherent winnerStatus awardeeParties=true
 dates:datesCoherent contractStartDate contractEndDate=true

end Kivou.AwardDomain
