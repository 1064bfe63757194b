import Kivou.PythonValues
import Mathlib.Data.List.Infix
import Mathlib.Data.List.ReduceOption
import Mathlib.Data.List.Sort

set_option autoImplicit false

/-! `signals.companies.sirene` and `signals.supplier_discovery.sirene_provider`: the pages that the
register answers with, the companies that are taken from them and the candidates that a search
profile makes of these. Unicode is a parameter. -/
namespace Kivou.SireneSearch
open PythonValues

/-- The functions that come from outside: `str.casefold`, `str.isalpha` of a character and
the digits of a pattern. -/
structure Texts where
 casefold:String→String
 (isAlpha isDigit:Char→Bool)

/-- An establishment of a result, whose texts are `str(value or "")`. -/
structure Establishment where
 (etatAdministratif activitePrincipale departement codePostal trancheEffectif siret:String)
 (libelleCommune libelleActivite:String)

/-- A result; `matching` is none where it is no list, and holds none for what is no
dictionary. -/
structure Item where
 matching:Option (List (Option Establishment))
 (nomRaisonSociale nomComplet siren activitePrincipale trancheEffectif libelleActivite:String)

/-- What the body of a response parses to; `results` is none where there is no such list,
and `total` where it is no number from 0 on. -/
structure Payload where
 results:Option (List (Option Item))
 total:Option ℕ

/-- A request of the client ends in an error of the network or in a response; `payload` is
none where the body is no JSON. -/
inductive Response where
 | failure
 | answer (status length:ℕ)(payload:Option Payload)

def maxResponseBytes:ℕ:=1048576

def Response.read:Response→Option (List (Option Item) × Option ℕ)
 | .failure=>none
 | .answer status length payload =>
  if status≠200 ∨ maxResponseBytes<length then none
  else payload.bind fun payload=>payload.results.map (·,payload.total)

structure SireneSearchCriteria where
 (nafCodes departments:List String)
 minEmployees:ℕ:=5
 maxEmployees:ℕ:=250
 limit:ℕ:=25

structure SireneCompany where
 (legalName siren:String)
 (siret city department:Option String)
 employees:Option ℕ
 nafCode:Option String
 observedAt:ℤ
 nafLabel:Option String

/-- `text or None` -/
def given (text:String):Option String:=if text.isEmpty then none else some text

def trancheMax:List (String × ℕ):=
 [("00",0),("01",2),("02",5),("03",9),("11",19),("12",49),("21",99),("22",199),
  ("31",249),("32",499),("41",999)]

def trancheEmployees (code:String):Option ℕ:=trancheMax.lookup (strip code)

/-- `_department` -/
def Establishment.department (establishment:Establishment):Option String:=
 match given (strip establishment.departement) with
 | some explicit=>some explicit
 | none=>given (String.ofList ((strip establishment.codePostal).toList.take 2))

/-- `department_rank`, which keeps the last place of a repeated department. -/
def SireneSearchCriteria.rank (criteria:SireneSearchCriteria)(department:Option String):ℕ:=
 let department:=department.getD ""
 if criteria.departments.contains department then
  criteria.departments.length-1-criteria.departments.reverse.idxOf department
 else criteria.departments.eraseDups.length

def SireneSearchCriteria.isMatch (criteria:SireneSearchCriteria)
 (establishment:Establishment):Bool:=
 establishment.etatAdministratif=="A" &&
  criteria.nafCodes.contains (strip establishment.activitePrincipale) &&
  establishment.department.any criteria.departments.contains

def SireneSearchCriteria.before (criteria:SireneSearchCriteria)(a b:Establishment):Bool:=
 let size (e:Establishment):ℕ:=(trancheEmployees e.trancheEffectif).getD 0
 let x:=criteria.rank a.department
 let y:=criteria.rank b.department
 x<y||x==y&&(size b<size a||size a==size b&&a.siret≤b.siret)

/-- `_matching_establishment` -/
def SireneSearchCriteria.matching (criteria:SireneSearchCriteria)(item:Item) :
 Option Establishment:=
 item.matching.bind fun establishments=>
  ((establishments.reduceOption.filter criteria.isMatch).insertionSort
   fun a b=>criteria.before a b=true).head?

/-- `now` stands for what the clock says at each of the companies. -/
def SireneSearchCriteria.company (texts:Texts)(criteria:SireneSearchCriteria)(now:ℤ)
 (item:Item):Option SireneCompany:=
 (criteria.matching item).bind fun establishment=>
  let name:=strip ((given item.nomRaisonSociale).getD item.nomComplet)
  let siren:=strip item.siren
  let employees:=trancheEmployees item.trancheEffectif
  if name.isEmpty ∨ name.toList.any texts.isAlpha=false ∨ siren.length≠9 ∨
    criteria.nafCodes.contains (strip item.activitePrincipale)=false ∨
    employees.any (fun n=>n<criteria.minEmployees||criteria.maxEmployees<n) then none
  else some {
   legalName:=name
   siren
   siret:=given establishment.siret
   city:=given establishment.libelleCommune
   department:=establishment.department
   employees
   nafCode:=given establishment.activitePrincipale
   observedAt:=now
   nafLabel:=given (strip ((given establishment.libelleActivite).getD item.libelleActivite))}

def SireneSearchCriteria.take (texts:Texts)(criteria:SireneSearchCriteria)(now:ℤ) :
 List SireneCompany→List (Option Item)→List SireneCompany
 | found,[]=>found
 | found,item::items =>
  match item.bind (criteria.company texts now) with
  | some company =>
   if company.siren∈found.map (·.siren) then criteria.take texts now found items
   else
    let found:=found++[company]
    if criteria.limit≤found.length then found else criteria.take texts now found items
  | none=>criteria.take texts now found items

def SireneSearchCriteria.beforeCompany (texts:Texts)(criteria:SireneSearchCriteria)
 (a b:SireneCompany):Bool:=
 let size (c:SireneCompany):ℕ:=c.employees.getD 0
 let x:=criteria.rank a.department
 let y:=criteria.rank b.department
 size b<size a||size a==size b&&(x<y||x==y &&
  (texts.casefold a.legalName<texts.casefold b.legalName ||
   texts.casefold a.legalName==texts.casefold b.legalName&&a.siren≤b.siren))

inductive Search where
 | unfinished
 | raised
 | found (companies:List SireneCompany)

/-- `max(1, math.ceil(total / 25))` -/
def pagesOf (total:ℕ):ℕ:=max 1 ((total+24)/25)

/-- The loop of `find`, one response a page. -/
def SireneSearchCriteria.pages (texts:Texts)(criteria:SireneSearchCriteria)(now:ℤ)
 (page totalPages:ℕ)(found:List SireneCompany)(responses:List Response):Search:=
 if page≤totalPages ∧ found.length<criteria.limit then
  match responses with
  | []=>.unfinished
  | response::responses =>
   match response.read with
   | none=>.raised
   | some (results,total) =>
    let totalPages:=(total.map pagesOf).getD totalPages
    let found:=criteria.take texts now found results
    if results.isEmpty then
     .found ((found.insertionSort fun a b=>criteria.beforeCompany texts a b=true).take
      criteria.limit)
    else criteria.pages texts now (page+1) totalPages found responses
 else
  .found ((found.insertionSort fun a b=>criteria.beforeCompany texts a b=true).take criteria.limit)

/-- `SireneCompanySearch.find` -/
def find (texts:Texts)(criteria:SireneSearchCriteria)(now:ℤ)(responses:List Response) :
 Search:=
 if criteria.nafCodes=[] ∨ criteria.departments=[] ∨ criteria.limit=0 ∨
   100<criteria.limit then .raised
 else criteria.pages texts now 1 1 [] responses

/-- `SupplierSearchProfile`, without the texts that no search of the register reads. -/
structure SupplierSearchProfile where
 signalRef:String
 (needCategories tradeTerms keywordTags sireneNafCodes sireneDepartments:List String)
 (supplierFamilyKeys organizationLocations excludedDomains:List String)
 (maxPages perPage candidateCap searchTooBroadThreshold narrowingLevel:ℕ)
 pages_bounds:1 ≤ maxPages ∧ maxPages≤5
 cap_bounds:1≤candidateCap ∧ candidateCap≤500
 level_bound:narrowingLevel≤2
 deriving DecidableEq

/-- `tuple(sorted(set(values)))` -/
def sortedSet (values:List String):List String:=values.dedup.insertionSort fun a b=>(a≤b:Bool)=true

/-- `narrow_supplier_search_profile` -/
def narrow (profile:SupplierSearchProfile):SupplierSearchProfile:=
 if less:2≤profile.narrowingLevel then profile
 else {profile with
  keywordTags:=sortedSet
   (profile.keywordTags++(profile.tradeTerms.drop profile.narrowingLevel).take 1)
  organizationLocations:=profile.organizationLocations.map fun location=>
   location++", rayon "++toString (100-profile.narrowingLevel*25)++" km"
  narrowingLevel:=profile.narrowingLevel+1
  level_bound:=by omega}

/-- `SupplierFamily`, as far as the provider reads it. -/
structure SupplierFamily where
 key:String
 nafCodes:List String

/-- `SireneOrganizationCandidate` -/
structure Candidate where
 (providerOrganizationId displayName normalizedName:String)
 (location department:Option String)
 industry:String
 providerObservedAt:ℤ
 deriving DecidableEq

/-- `industry.split(":", 1)[0]`, where it is not empty. -/
def Candidate.family (candidate:Candidate):Option String:=
 if candidate.industry.toList.contains ':' then
  given (String.ofList (candidate.industry.toList.takeWhile (· != ':')))
 else none

/-- `SupplierSearchPage` -/
structure Page where
 (totalEntries totalPages:ℕ)
 partialResultsOnly:Option Bool
 candidates:List Candidate
 rejections:List String

/-- What a provider answers; `failure` is an `ApolloProviderError` and `raises` any other
exception. -/
inductive Answer where
 | page (page:Page)
 | failure (category:String)
 | raises

def sized (least most:ℕ)(text:String):Bool:=least≤text.length&&text.length ≤ most

/-- `SireneOrganizationCandidate(...)` of a company, whose texts are trimmed; none is a
`ValidationError`. -/
def SireneCompany.candidate (texts:Texts)(company:SireneCompany)(family:String)
 (observedAt:ℤ):Option Candidate:=
 let words:=(texts.casefold company.legalName).toList.splitOnP isSpace
 let candidate:Candidate:=
  { providerOrganizationId:=trim company.siren
    displayName:=trim company.legalName
    normalizedName:=trim (" ".intercalate ((words.filter (!·.isEmpty)).map String.ofList))
    location:=company.city.map trim
    department:=company.department.map trim
    industry:=trim (family++":"++company.nafCode.getD "")
    providerObservedAt:=observedAt}
 if candidate.providerOrganizationId.toList.length=9 ∧
   candidate.providerOrganizationId.toList.all texts.isDigit ∧
   sized 1 512 candidate.displayName ∧ sized 1 512 candidate.normalizedName ∧
   candidate.location.all (sized 0 512) ∧ candidate.department.all (sized 2 3) ∧
   sized 0 256 candidate.industry then some candidate
 else none

inductive Entry where
 | kept | passedOver | raises

def nafGroups (catalog:List SupplierFamily)(profile:SupplierSearchProfile) :
 List (Option SupplierFamily × List String):=
 match profile.supplierFamilyKeys.filterMap fun key=>catalog.find? (·.key==key) with
 | []=>[(none,profile.sireneNafCodes)]
 | families=>families.map fun family=>(some family,family.nafCodes)

def searches (texts:Texts)(departments:List String)(now:ℤ) :
 List (Option SupplierFamily × List String)→List (List Response) →
  Option (Option (List (Option SupplierFamily × SireneCompany)))
 | [],_=>some (some [])
 | (family,nafCodes)::groups,responses =>
  match find texts ⟨nafCodes,departments,5,250,100⟩ now (responses.headD []) with
  | .unfinished=>none
  | .raised=>some none
  | .found companies =>
   (searches texts departments now groups responses.tail).map fun rest=>
    rest.map (companies.map (family,·)++·)

def candidates (texts:Texts)(entry:SireneCompany→String→Entry)(observedAt:ℤ) :
 List (Option SupplierFamily × SireneCompany)→Option (List Candidate)
 | []=>some []
 | (none,_)::companies=>candidates texts entry observedAt companies
 | (some family,company)::companies =>
  match entry company family.key with
  | .raises=>none
  | .passedOver=>candidates texts entry observedAt companies
  | .kept =>
   (company.candidate texts family.key observedAt).bind fun candidate=>
    (candidates texts entry observedAt companies).map (candidate::·)

/-- What the surroundings answer one `search_page`. -/
structure Surroundings where
 now:ℤ:=0
 responses:List (List Response):=[]
 entry:SireneCompany→String→Entry:=fun _ _=>.kept

/-- `SireneOrganizationSearchProvider.search_page`, none while a search goes on. -/
def searchPage (texts:Texts)(catalog:List SupplierFamily)(profile:SupplierSearchProfile)
 (page:ℕ)(input:Surroundings):Option Answer:=
 if page≠1 ∨ profile.sireneNafCodes=[] ∨ profile.sireneDepartments=[] then
  some (.page ⟨0,1,none,[],[]⟩)
 else
  (searches texts profile.sireneDepartments input.now (nafGroups catalog profile)
   input.responses).map fun companies=>
    match companies.bind (candidates texts input.entry input.now) with
    | some candidates =>
     if candidates.length≤300 then .page ⟨candidates.length,1,none,candidates,[]⟩
     else .raises
    | none=>.raises

lemma searchPage_page {texts:Texts}{catalog:List SupplierFamily}
 {profile:SupplierSearchProfile}{number:ℕ}{input:Surroundings}{page:Page}
 (answered:searchPage texts catalog profile number input=some (.page page)) :
 page.totalPages=1 ∧ page.partialResultsOnly=none ∧ page.rejections=[] ∧
  page.totalEntries=page.candidates.length ∧ page.candidates.length≤300:=by
 unfold searchPage at answered
 split at answered
 · obtain rfl:=Answer.page.inj (Option.some.inj answered)
   exact ⟨rfl,rfl,rfl,rfl,Nat.zero_le _⟩
 · obtain ⟨companies,-,built⟩:=Option.map_eq_some_iff.mp answered
   split at built
   · split at built
     · rename_i few
       obtain rfl:=Answer.page.inj built
       exact ⟨rfl,rfl,rfl,rfl,few⟩
     · cases built
   · cases built

lemma narrow_level {profile:SupplierSearchProfile}(less:profile.narrowingLevel<2) :
 (narrow profile).narrowingLevel=profile.narrowingLevel+1:=by
 rw[narrow,dif_neg (Nat.not_le.mpr less)]

lemma narrow_bounds (profile:SupplierSearchProfile) : (narrow profile).maxPages=profile.maxPages ∧
  (narrow profile).candidateCap=profile.candidateCap ∧
  (narrow profile).supplierFamilyKeys=profile.supplierFamilyKeys ∧
  (narrow profile).signalRef=profile.signalRef:=by
 unfold narrow
 split <;> exact ⟨rfl,rfl,rfl,rfl⟩

def Response.items (response:Response):List Item:=((response.read.map (·.1)).getD []).reduceOption

section
variable (texts:Texts)(criteria:SireneSearchCriteria)(now:ℤ)

/-- What was found of the results read so far: each company once, up to the limit, and every one
that matches while there is room. -/
structure SireneSearchCriteria.Covers (items:List Item)(found:List SireneCompany):Prop where
 few:found.length≤criteria.limit
 distinct:(found.map (·.siren)).Nodup
 sound:∀company∈found,∃item∈items,criteria.company texts now item=some company
 complete:found.length<criteria.limit→∀item∈items,
  ∀company∈criteria.company texts now item,company.siren∈found.map (·.siren)

variable {texts criteria now}{items:List Item}{found:List SireneCompany}

namespace SireneSearchCriteria.Covers

lemma perm {found':List SireneCompany}(covers:criteria.Covers texts now items found)
 (same:found.Perm found'):criteria.Covers texts now items found' where
 few:=same.length_eq ▸ covers.few
 distinct:=(same.map _).nodup_iff.mp covers.distinct
 sound company mem:=covers.sound company (same.mem_iff.mpr mem)
 complete room item mem company is:=
  (same.map _).mem_iff.mp (covers.complete (same.length_eq ▸ room) item mem company is)

/-- Results that give no new company, or that no room is left for. -/
lemma pass (covers:criteria.Covers texts now items found){rest:List Item}
 (known:found.length<criteria.limit→∀item∈rest,
  ∀company∈criteria.company texts now item,company.siren∈found.map (·.siren)) :
 criteria.Covers texts now (items++rest) found where
 few:=covers.few
 distinct:=covers.distinct
 sound company mem:=by
  obtain ⟨item,read,is⟩:=covers.sound company mem
  exact ⟨item,List.mem_append_left _ read,is⟩
 complete room item mem:=by
  rcases List.mem_append.mp mem with read|new
  · exact covers.complete room item read
  · exact known room item new

lemma add (covers:criteria.Covers texts now items found)
 (room:found.length<criteria.limit){item:Item}{company:SireneCompany}
 (is:criteria.company texts now item=some company)
 (new:company.siren∉found.map (·.siren)) :
 criteria.Covers texts now (items++[item]) (found++[company]) where
 few:=by
  rw[List.length_append]
  exact room
 distinct:=by
  rw[List.map_append,List.nodup_append_comm]
  exact List.nodup_cons.mpr ⟨new,covers.distinct⟩
 sound other mem:=by
  rcases List.mem_append.mp mem with old|last
  · obtain ⟨source,read,was⟩:=covers.sound other old
    exact ⟨source,List.mem_append_left _ read,was⟩
  · obtain rfl:=List.mem_singleton.mp last
    exact ⟨item,List.mem_append_right _ List.mem_cons_self,is⟩
 complete _ source mem other was:=by
  rw[List.map_append]
  rcases List.mem_append.mp mem with read|last
  · exact List.mem_append_left _ (covers.complete room source read other was)
  · obtain rfl:=List.mem_singleton.mp last
    obtain rfl:=Option.some.inj (is.symm.trans was)
    exact List.mem_append_right _ List.mem_cons_self

end SireneSearchCriteria.Covers

lemma take_covers (results:List (Option Item))(covers:criteria.Covers texts now items found)
 (room:found.length<criteria.limit) :
 criteria.Covers texts now (items++results.reduceOption) (criteria.take texts now found results):=by
 induction results generalizing items found with
 | nil =>
  rw[SireneSearchCriteria.take]
  exact covers.pass fun _ item mem=>nomatch mem
 | cons result rest ih =>
  have split:items++(result::rest).reduceOption=items++result.toList++rest.reduceOption:=by
   cases result <;> simp
  rw[split,SireneSearchCriteria.take]
  cases is:result.bind (criteria.company texts now) with
  | none =>
   refine ih (covers.pass fun _ item mem company was=>?_) room
   rw[Option.mem_toList.mp mem,Option.bind_some] at is
   rw[is] at was
   cases was
  | some company =>
   obtain ⟨item,rfl,was⟩:=Option.bind_eq_some_iff.mp is
   dsimp only
   by_cases known:company.siren∈found.map (·.siren)
   · rw[if_pos known]
     refine ih (covers.pass fun _ other mem company' was'=>?_) room
     obtain rfl:=List.mem_singleton.mp mem
     rwa[Option.some.inj (was'.symm.trans was)]
   · have added:=covers.add room was known
     rw[if_neg known]
     split
     · rename_i full
       exact added.pass fun less=>absurd less (Nat.not_lt.mpr full)
     · rename_i less
       exact ih added (Nat.not_le.mp less)

variable (texts criteria) in
lemma beforeCompany_order :
 (∀a b,criteria.beforeCompany texts a b=true ∨ criteria.beforeCompany texts b a=true) ∧
 ∀a b c,criteria.beforeCompany texts a b=true→criteria.beforeCompany texts b c=true →
  criteria.beforeCompany texts a c=true:=by
 simp only[SireneSearchCriteria.beforeCompany]
 refine ⟨?_,?_⟩ <;> grind

/-- `found.sort(...)` and `found[: criteria.limit]` -/
lemma sorted_covers (covers:criteria.Covers texts now items found) :
 let companies:=(found.insertionSort fun a b=>
  criteria.beforeCompany texts a b=true).take criteria.limit
 criteria.Covers texts now items companies ∧
 companies.Pairwise fun a b=>criteria.beforeCompany texts a b=true:=by
 intro companies
 have whole:companies=found.insertionSort fun a b=>criteria.beforeCompany texts a b=true:=
  List.take_of_length_le ((List.length_insertionSort ..).trans_le covers.few)
 obtain ⟨total,trans⟩:=beforeCompany_order texts criteria
 have:Std.Total fun a b=>criteria.beforeCompany texts a b=true:=⟨total⟩
 have:IsTrans _ fun a b=>criteria.beforeCompany texts a b=true:=⟨trans⟩
 rw[whole]
 exact ⟨covers.perm (List.perm_insertionSort _ found).symm,List.pairwise_insertionSort ..⟩

variable {companies:List SireneCompany}

lemma pages_covers {page totalPages:ℕ}{responses:List Response}
 (covers:criteria.Covers texts now items found)
 (ended:criteria.pages texts now page totalPages found responses=.found companies) :
 ∃answers rest,responses=answers++rest ∧ (∀response∈answers,response.read≠none) ∧
  criteria.Covers texts now (items++answers.flatMap Response.items) companies ∧
  companies.Pairwise fun a b=>criteria.beforeCompany texts a b=true:=by
 induction responses generalizing page totalPages items found with
 | nil =>
  unfold SireneSearchCriteria.pages at ended
  split at ended
  · cases ended
  · obtain rfl:=Search.found.inj ended
    exact ⟨[],[],rfl,nofun,by simpa using sorted_covers covers⟩
 | cons response rest ih =>
  unfold SireneSearchCriteria.pages at ended
  split at ended
  · rename_i going
    dsimp only at ended
    split at ended
    · cases ended
    · rename_i results total answer
      have named:results.reduceOption=response.items:=by simp[Response.items,answer]
      have taken:=named ▸ take_covers results covers going.2
      split at ended
      · obtain rfl:=Search.found.inj ended
        exact ⟨[response],rest,rfl,by simp[answer],by simpa using sorted_covers taken⟩
      · obtain ⟨answers,left,rfl,readable,covers',sorted⟩:=ih taken ended
        refine ⟨response::answers,left,rfl,by simpa[answer] using readable,?_,sorted⟩
        simpa using covers'
  · obtain rfl:=Search.found.inj ended
    exact ⟨[],_,rfl,nofun,by simpa using sorted_covers covers⟩

/-- What the criteria ask of a company. -/
structure SireneSearchCriteria.Answers (texts:Texts)(criteria:SireneSearchCriteria)
  (company:SireneCompany):Prop where
 named:company.legalName.toList.any texts.isAlpha=true
 siren:company.siren.length=9
 activity:strip (company.nafCode.getD "")∈criteria.nafCodes
 place:∃department∈criteria.departments,company.department=some department
 employees:∀n∈company.employees,criteria.minEmployees≤n ∧ n≤criteria.maxEmployees

lemma given_getD (text:String):(given text).getD ""=text:=by
 unfold given
 split
 · rename_i empty
   simpa using empty.symm
 · rfl

lemma company_answers {item:Item}{company:SireneCompany}
 (is:criteria.company texts now item=some company):criteria.Answers texts company:=by
 obtain ⟨establishment,chosen,built⟩:=Option.bind_eq_some_iff.mp is
 dsimp only at built
 split at built
 · cases built
 · rename_i asked
   obtain rfl:=Option.some.inj built
   obtain ⟨establishments,-,first⟩:=Option.bind_eq_some_iff.mp chosen
   have matched:criteria.isMatch establishment=true:=
    (List.mem_filter.mp ((List.mem_insertionSort _).mp (List.mem_of_mem_head? first))).2
   simp only[SireneSearchCriteria.isMatch,Bool.and_eq_true,List.contains_iff_mem] at matched
   obtain ⟨⟨-,activity⟩,place⟩:=matched
   obtain ⟨department,at',listed⟩:=(Option.any_eq_true ..).mp place
   simp only[not_or,Bool.not_eq_true,Bool.not_eq_false] at asked
   refine ⟨asked.2.1,not_not.mp asked.2.2.1,?_,⟨department,by simpa using listed,at'⟩,?_⟩
   · rwa[given_getD]
   · intro n counted
     have within:=asked.2.2.2.2
     rw[show trancheEmployees item.trancheEffectif=some n from counted,Option.any_some] at within
     grind

/-- A search that ends has read the first of the answers, all of them well: it found the companies
that the criteria ask for, each once, in their order and up to the limit, and passed over none
while there was room. -/
theorem found_companies_cover_the_answers {responses:List Response}
 (ended:find texts criteria now responses=.found companies) :
 (∃answers rest,responses=answers++rest ∧ (∀response∈answers,response.read≠none) ∧
  criteria.Covers texts now (answers.flatMap Response.items) companies) ∧
 companies.Pairwise (fun a b=>criteria.beforeCompany texts a b=true) ∧
 ∀company∈companies,criteria.Answers texts company:=by
 have empty:criteria.Covers texts now [] []:=⟨Nat.zero_le _,List.nodup_nil,nofun,nofun⟩
 unfold find at ended
 split at ended
 · cases ended
 · obtain ⟨answers,rest,split,readable,covers,sorted⟩:=pages_covers empty ended
   refine ⟨⟨answers,rest,split,readable,covers⟩,sorted,fun company mem=>?_⟩
   obtain ⟨item,-,is⟩:=covers.sound company mem
   exact company_answers is

end

def sampleTexts:Texts:=⟨id,Char.isAlpha,Char.isDigit⟩

def sampleCriteria:SireneSearchCriteria:=⟨["43.21A"],["35"],5,250,2⟩

def sampleEstablishment:Establishment:=⟨"A","43.21A","35","","11","","",""⟩

def sampleItem (siren:String):Item:=
 ⟨some [some sampleEstablishment],"Volt","",siren,"43.21A","11",""⟩

/-- The same company twice, and a result of another activity. -/
def samplePage:Payload:=⟨some [some (sampleItem "200000008"),some (sampleItem "200000008"),none,
  some {sampleItem "300000007" with activitePrincipale:="62.01Z"}],some 1⟩

def sampleCompany:SireneCompany:=
 ⟨"Volt","200000008",none,none,some "35",some 19,some "43.21A",0,none⟩

theorem found_companies_cover_the_answers_sample :
 sampleCriteria.Answers sampleTexts sampleCompany:=by
 have ended:find sampleTexts sampleCriteria 0 [.answer 200 2 (some samplePage)] =
   .found [sampleCompany]:=rfl
 exact (found_companies_cover_the_answers ended).2.2 _ List.mem_cons_self

end Kivou.SireneSearch
