import Kivou.PythonValues
import Kivou.Tables

set_option autoImplicit false

/-! `signals.client_value.company_identity`: an exact SIREN joins the keys under which one French
company is known, and each account reconciles what it wrote under them before. -/
namespace Kivou.CompanyIdentity
open PythonValues Tables

def luhn (digits:List Char):Bool:=
 let numbers:=digits.reverse.zipIdx.map fun entry=>
  (entry.1.toNat - '0'.toNat)*(if entry.2%2=1 then 2 else 1)
 (numbers.map fun number=>if 9<number then number-9 else number).sum%10==0

/-- One of `official_identifiers`. A value that is no text is `none`. -/
structure Identifier where
 scheme:String
 value:Option String

/-- `str.casefold`, as far as it can lead to one of the kinds below. -/
def foldLetter (c:Char):Char:=if c = 'ſ' then 's' else c.toLower

def hasKind (scheme kind:String):Bool:=scheme.toList.map foldLetter==kind.toList

/-- `[0-9\s]+`, without its blanks. -/
def digitsOf (value:String):Option (List Char):=
 let chars:=value.toList
 if !chars.isEmpty&&chars.all (fun c=>c.isDigit||isSpace c) then some (chars.filter (!isSpace ·))
 else none

def digitSum (digits:List Char):ℕ:=(digits.map fun c=>c.toNat - '0'.toNat).sum

/-- The SIREN of the legal entity whose establishments La Poste documents as an
exception: the digits of their SIRETs add up to a multiple of five. -/
def exceptionalSiren:String:="356000000"

def provenDigits (scheme:String)(digits:List Char):Option (List Char):=
 if hasKind scheme "siren"&&digits.length==9&&luhn digits then some digits
 else if (hasKind scheme "siret"||hasKind scheme "boamp-company-id")&&digits.length==14 then
  let valid:=luhn digits ||(digits.take 9==exceptionalSiren.toList&&digitSum digits%5==0)
  if valid&&luhn (digits.take 9) then some (digits.take 9) else none
 else none

def sirenOf (identifier:Identifier):Option (List Char):=do
 provenDigits identifier.scheme (←digitsOf (←identifier.value))

def exactFrenchSiren (identifiers:List Identifier)(country:Option String):Option String:=
 if country=none ∨ country=some "FR" then
  match (identifiers.filterMap sirenOf).eraseDups with
  | [siren]=>some (String.ofList siren)
  | _=>none
 else none

/-- Nine digits, as both callers of `register_alias` have them. -/
def NineDigits (siren:String):Prop:=siren.toList.length=9 ∧ siren.toList.all Char.isDigit

instance (siren:String):Decidable (NineDigits siren):=inferInstanceAs (Decidable (_ ∧ _))

def directoryPrefix:String:="cmp_directory_"

/-- `f"cmp_directory_{siren}"` -/
def canonicalKey (siren:String):String:=directoryPrefix++siren

/-- `cmp_directory_(\d{9})`. Digits of other scripts are refused by
`register_alias`, and are left out here. -/
def directorySiren (key:String):Option String:=
 let siren:=String.ofList (key.toList.drop directoryPrefix.length)
 if key=canonicalKey siren ∧ NineDigits siren then some siren else none

lemma toList_canonicalKey (siren:String) :
 (canonicalKey siren).toList=directoryPrefix.toList++siren.toList:=String.toList_append

lemma drop_canonicalKey (siren:String) :
 String.ofList ((canonicalKey siren).toList.drop directoryPrefix.length)=siren:=by
 rw[toList_canonicalKey,←String.length_toList,List.drop_left,String.ofList_toList]

lemma canonicalKey_inj {s t:String}(same:canonicalKey s=canonicalKey t):s=t:=by
 rw[←drop_canonicalKey s,same,drop_canonicalKey]

lemma directorySiren_canonicalKey {siren:String}(digits:NineDigits siren) :
 directorySiren (canonicalKey siren)=some siren:=by
 unfold directorySiren
 rw[drop_canonicalKey]
 exact if_pos ⟨rfl,digits⟩

lemma eq_of_directorySiren {key siren:String}(is:directorySiren key=some siren) :
 key=canonicalKey siren:=by
 simp only[directorySiren,Option.ite_none_right_eq_some,Option.some.injEq] at is
 rw[←is.2]
 exact is.1.1

inductive ResolutionStatus where
 | exact | unresolved
 deriving DecidableEq

/-- `company_subject_alias` -/
structure AliasRow where
 (aliasCompanyKey canonicalCompanyKey identifierValue:String)
 resolutionStatus:ResolutionStatus

inductive Mode where
 | isolated | resolved

/-- `account_company_alias_override` -/
structure OverrideRow where
 (accountId aliasCompanyKey privateSubjectKey:String)
 mode:Mode

/-- A private row: what `_private_values` compares of it, and its revision (one
where the table has none). -/
structure PrivateRow (ν:Type) where
 (accountId companyKey:String)
 values:ν
 revision:ℕ

inductive ContactStatus where
 | toContact | contacted | replied
 deriving DecidableEq

structure ContactValues where
 status:ContactStatus
 contactedAt:Option ℕ
 deriving DecidableEq

structure ManualContactValues where
 (name role email phone:Option String)
 deletedAt:Option ℕ
 deriving DecidableEq

inductive PrivateTable where
 | companyNote | companyContact | companyManualContact | accountCompanyMembership
 deriving DecidableEq

/-- The columns of `_private_values`. -/
@[reducible] def PrivateTable.Values:PrivateTable→Type
 | .companyNote=>String
 | .companyContact=>ContactValues
 | .companyManualContact=>ManualContactValues
 | .accountCompanyMembership=>Unit

instance:(t:PrivateTable)→DecidableEq t.Values
 | .companyNote=>inferInstanceAs (DecidableEq String)
 | .companyContact=>inferInstanceAs (DecidableEq ContactValues)
 | .companyManualContact=>inferInstanceAs (DecidableEq ManualContactValues)
 | .accountCompanyMembership=>inferInstanceAs (DecidableEq Unit)

def PrivateTable.all:List PrivateTable:=
 [.companyNote,.companyContact,.companyManualContact,.accountCompanyMembership]

lemma PrivateTable.mem_all (t:PrivateTable):t∈all:=by cases t <;> decide

structure Db where
 accounts:List String
 aliases:List AliasRow
 overrides:List OverrideRow
 privateRows:(t:PrivateTable)→List (PrivateRow t.Values)

def AliasRow.key (row:AliasRow):String:=row.aliasCompanyKey
def OverrideRow.key (row:OverrideRow):String × String:=(row.accountId,row.aliasCompanyKey)
def PrivateRow.key {ν:Type}(row:PrivateRow ν):String × String:=(row.accountId,row.companyKey)

def Db.alias? (db:Db)(key:String):Option AliasRow:=db.aliases.find? fun row=>row.key==key

def Db.override? (db:Db)(accountId key:String):Option OverrideRow:=
 db.overrides.find? fun row=>row.key==(accountId,key)

def Db.private? (db:Db)(t:PrivateTable)(accountId key:String) : Option (PrivateRow t.Values):=
 (db.privateRows t).find? fun row=>row.key==(accountId,key)

def Db.inserted (db:Db)(companyKey siren:String):List AliasRow:=
 [companyKey,canonicalKey siren].foldl
  (fun rows key=>insertIfAbsent AliasRow.key ⟨key,canonicalKey siren,siren,.exact⟩ rows)
  db.aliases

def AliasRow.quarantined (row:AliasRow):AliasRow:={row with resolutionStatus:=.unresolved}

def registerAlias (db:Db)(companyKey siren:String):Db × String:=
 if exactFrenchSiren [⟨"siren",some siren⟩] (some "FR")=none then (db,companyKey)
 else
  let canonical:=canonicalKey siren
  let rows:=db.inserted companyKey siren
  match rows.find? fun row=>row.key==companyKey with
  | none=>(db,companyKey)
  | some binding =>
   if binding.canonicalCompanyKey≠canonical then
    ({db with aliases:=update (fun row=>row.key==companyKey) .quarantined rows},
     companyKey)
   else
    ({db with aliases:=rows},
     if binding.resolutionStatus=.exact then canonical else companyKey)

inductive Resolution where
 | unresolved | isolated | resolved

structure CompanySubject where
 (companyKey canonicalCompanyKey privateSubjectKey:String)
 resolution:Resolution

def Mode.resolution:Mode→Resolution
 | .isolated=>.isolated
 | .resolved=>.resolved

def Db.rowsUnder (db:Db)(t:PrivateTable)(accountId:String)(keys:List String) :
 List (PrivateRow t.Values):=
 (db.privateRows t).filter fun row=>row.accountId==accountId&&keys.contains row.companyKey

/-- `len({_private_values(table, row) for row in rows}) > 1` -/
def disagree {t:PrivateTable}(rows:List (PrivateRow t.Values)):Bool:=
 1<(rows.map PrivateRow.values).eraseDups.length

/-- `max(rows, key=revision)`: the first of the highest. -/
def newest {ν:Type}:List (PrivateRow ν)→Option (PrivateRow ν)
 | []=>none
 | row::rows =>
  some (rows.foldl (fun best row=>if best.revision<row.revision then row else best) row)

def Db.group (db:Db)(canonical:String):List String:=(db.aliases.filter fun row=>
  row.canonicalCompanyKey==canonical&&row.resolutionStatus==.exact).map AliasRow.key

def Db.candidateKeys (db:Db)(accountId canonical:String):List String:=
 (db.group canonical).filter fun key=>(db.override? accountId key).isNone||key==canonical

def Db.conflicting (db:Db)(accountId canonical:String):Bool:=PrivateTable.all.any fun t=>
  disagree (db.rowsUnder t accountId (db.candidateKeys accountId canonical))

def Db.copied (db:Db)(accountId canonical:String)(t:PrivateTable) : List (PrivateRow t.Values):=
 match newest (db.rowsUnder t accountId (db.candidateKeys accountId canonical)) with
 | none=>db.privateRows t
 | some selected =>
  insertIfAbsent PrivateRow.key {selected with companyKey:=canonical} (db.privateRows t)

def Db.overridden (db:Db)(accountId canonical:String):List OverrideRow:=
 let conflicting:=db.conflicting accountId canonical
 ((db.group canonical).filter fun key=>(db.override? accountId key).isNone).foldl
  (fun rows key=>insertIfAbsent OverrideRow.key
   ⟨accountId,key,if conflicting then key else canonical,
    if conflicting then .isolated else .resolved⟩ rows) db.overrides

def Db.reconcile (db:Db)(accountId canonical:String):Db:=
 {db with
   overrides:=db.overridden accountId canonical
   privateRows:=
    if db.conflicting accountId canonical then db.privateRows
    else db.copied accountId canonical}

/-- `none` where an account or a row that is asked for with `one` is missing,
which ends the transaction. -/
def resolveSubject (db:Db)(accountId companyKey:String):Option (Db × CompanySubject):=
 let itself:=(db,CompanySubject.mk companyKey companyKey companyKey .unresolved)
 match db.alias? companyKey with
 | none=>some itself
 | some row =>
  if row.resolutionStatus≠.exact then some itself
  else
   let canonical:=row.canonicalCompanyKey
   if accountId∉db.accounts then none
   else
    match db.override? accountId companyKey with
    | some prior =>some (db,⟨companyKey,canonical,prior.privateSubjectKey,prior.mode.resolution⟩)
    | none =>
     let db:=db.reconcile accountId canonical
     (db.override? accountId companyKey).map fun selected=>
      (db,⟨companyKey,canonical,selected.privateSubjectKey,selected.mode.resolution⟩)

/-- What `saas_company` holds for a key, which is `cmp_` and thirty-two letters of a
random token. -/
structure SaasCompany where
 companyKey:String
 officialIdentifiers:List Identifier
 officialCountry:Option String
 generated:companyKey.toList.length=36

def SaasCompany.siren (row:SaasCompany):Option String:=
 exactFrenchSiren row.officialIdentifiers row.officialCountry

lemma SaasCompany.ne_canonicalKey (row:SaasCompany){siren:String}
 (digits:NineDigits siren):row.companyKey≠canonicalKey siren:=by
 intro same
 have long:=row.generated
 rw[same,toList_canonicalKey,List.length_append,digits.1] at long
 exact absurd long (by decide)

def provenSiren (companies:List SaasCompany)(companyKey:String):Option String:=
 match directorySiren companyKey with
 | some siren=>some siren
 | none=>(companies.find? fun row=>row.companyKey==companyKey).bind SaasCompany.siren

def registerProven (db:Db)(companies:List SaasCompany)(companyKey:String):Db:=
 match provenSiren companies companyKey with
 | some siren=>(registerAlias db companyKey siren).1
 | none=>db

def resolveCompanySubject (db:Db)(companies:List SaasCompany)(accountId companyKey:String) :
 Option (Db × CompanySubject):=
 resolveSubject (registerProven db companies companyKey) accountId companyKey

end Kivou.CompanyIdentity
