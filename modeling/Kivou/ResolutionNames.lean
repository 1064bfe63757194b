import Kivou.PythonValues
import Mathlib.Data.Finset.Card
import Mathlib.Data.List.Sort
import Mathlib.Data.Rat.Defs

set_option autoImplicit false

/-! `signals.resolution.identifiers` and `signals.resolution.normalize`: how strong a published
identifier is, and the comparison forms of a name. -/
namespace Kivou.Resolution
open PythonValues

/-- Python's text functions on arbitrary Unicode, and the order in which a set
is iterated, which no program may rely on. `words` are the words of
`_letters_and_digits(strip_accents(name).casefold())`. -/
structure Text where
 upper:String→String
 words:String→List String
 postalCode:String→Option String
 iterate:List (String × String)→List (String × String)

inductive IdentifierStrength where
 | official | sourceLocal | unattributed | unknown
 deriving DecidableEq

def officialSchemes:List (String × String):=
 [("CHE-UID","ch-uid"),("CH-UID","ch-uid"),("IDE","ch-uid"),("EU-VAT","eu-vat"),
  ("VAT","eu-vat"),("LEI","lei"),("NIF","nif"),("NIPC","nif")]

def sourceLocalSchemes:List String:=["SIMAP-VENDOR-ID","SIMAP-ORG-ID","TED-ORG-ID"]
def unattributedSchemes:List String:=["TED-BT-501"]

/-- An `OrganizationIdentifier`. -/
structure Identifier where
 (scheme value:String)

structure ClassifiedIdentifier where
 (scheme publishedValue matchingValue:String)
 strength:IdentifierStrength
 registry:Option String

def ClassifiedIdentifier.key (i:ClassifiedIdentifier):String × String:=
 (i.registry.getD i.scheme,i.matchingValue)

def isSeparator (c:Char):Bool:=isSpace c||c == '.' || c == '-' || c == '/'

variable (text:Text)(name:String)

/-- `normalize_value`; both of its branches do the same. -/
def normalizeValue (value:String):String:=
 text.upper (String.ofList (value.toList.filter fun c=>!isSeparator c))

def registryOf (scheme:String):Option String:=
 (officialSchemes.find? fun entry=>entry.1==text.upper scheme).map Prod.snd

def classify (identifier:Identifier):ClassifiedIdentifier:=
 let matching:=normalizeValue text identifier.value
 match registryOf text identifier.scheme with
 | some registry=>⟨identifier.scheme,identifier.value,matching,.official,some registry⟩
 | none =>
  let strength:IdentifierStrength:=
   if identifier.scheme∈sourceLocalSchemes then .sourceLocal
   else if identifier.scheme∈unattributedSchemes then .unattributed
   else .unknown
  ⟨identifier.scheme,identifier.value,matching,strength,none⟩

def vatPrefixes:List String:=
 ["AT","BE","BG","HR","CY","CZ","DK","EE","FI","FR","DE","EL","HU","IE","IT","LV",
  "LT","LU","MT","NL","PL","PT","RO","SK","SI","ES","SE","XI"]

/-- `_VAT`: a known prefix, then two to twelve digits or capitals. -/
def vatParts (value:String):Option (String × String):=
 let compact:=(normalizeValue text value).toList
 let country:=String.ofList (compact.take 2)
 let number:=compact.drop 2
 if country∈vatPrefixes ∧ 2≤number.length ∧ number.length≤12 ∧
   number.all (fun c=>('0' ≤ c&&c ≤ '9')||('A' ≤ c&&c ≤ 'Z')) then
  some (country,String.ofList number)
 else none

def vatCountry (country:String):String:=
 if country="EL" then "GR" else if country="XI" then "GB" else country

/-- `_join_initials`: runs of single letters are put together again. -/
def joinInitials (tokens:List String):List String:=
 let done:=tokens.foldl (fun (acc:List String × String) token=>
   if token.length=1 then (acc.1,acc.2++token)
   else (if acc.2="" then acc.1++[token] else acc.1++[acc.2,token],""))
  ([],"")
 if done.2="" then done.1 else done.1++[done.2]

def nameTokens:List String:=joinInitials (text.words name)

def matchingName:String:=" ".intercalate (nameTokens text name)

def legalForms:List String:=
 ["sa","s.a.","ag","sàrl","sarl","s.à.r.l.","gmbh","sagl","sagl.","société anonyme",
  "aktiengesellschaft","s.a.r.l","sprl","scrl","gmbh & co. kg","kg","ohg","eg","e.g.",
  "mbh","se","srl","s.r.l.","spa","s.p.a.","sl","s.l.","slu","sau","lda","s.a","bv",
  "b.v.","nv","n.v.","as","a/s","ab","oy","aps","asa","s.r.o.","sro","spol. s r.o.",
  "sp. z o.o.","sp. z o. o.","zoo","d.o.o.","d. o. o.","s. r. o.","kft","zrt","nyrt",
  "sa.","s.c.","ltd","ltd.","limited","plc","llc","inc","inc."]

def formTokens:List (List String):=
 (legalForms.map (nameTokens text)).insertionSort fun a b=>b.length≤a.length

/-- One pass of `strip`: the first form found at the end or at the beginning. -/
def stripForm (forms:List (List String))(tokens:List String):Option (List String):=
 forms.firstM fun form=>
  if form=[] ∨ tokens.length≤form.length then none
  else if tokens.drop (tokens.length-form.length)=form then
   some (tokens.take (tokens.length-form.length))
  else if tokens.take form.length=form then some (tokens.drop form.length)
  else none

/-- The loop of `name_core`; every pass that changes anything drops a token. -/
def stripForms (forms:List (List String)):ℕ→List String→List String
 | 0,tokens=>tokens
 | fuel+1,tokens =>
  match stripForm forms tokens with
  | some rest=>stripForms forms fuel rest
  | none=>tokens

def coreTokens:List String:=
 stripForms (formTokens text) (nameTokens text name).length (nameTokens text name)

def nameCore:String:=" ".intercalate (coreTokens text name)

def nameSimilarity (left right:String):ℚ:=
 let l:=(coreTokens text left).toFinset
 let r:=(coreTokens text right).toFinset
 if l=∅ ∨ r=∅ then 0 else ((l ∩ r).card:ℚ)/(l ∪ r).card

end Kivou.Resolution
