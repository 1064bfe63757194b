import Kivou.ObjectText
import Kivou.OpportunityIdentity
import Kivou.SireneSearch
import Mathlib.Data.List.Dedup
import Mathlib.Data.List.Infix
import Mathlib.Data.List.Perm.Subperm
import Mathlib.Data.Prod.Lex
import Mathlib.Data.String.Basic

set_option autoImplicit false

/-! `signals.supplier_discovery`: the families of suppliers that the facts of an award call for, and
the search profile that is made of them. -/
namespace Kivou.SupplierFamilies
open AwardDomain ObjectText PythonValues
open SireneSearch (sortedSet)

section
variable {α:Type}[DecidableEq α]{le:α→α→Prop}[DecidableRel le][IsTrans α le] [Std.Total le]
 {s t:List α}{n:ℕ}

/-- Some elements of a list are its first in order when all others come after them. -/
lemma perm_take_insertionSort (order:∀a∈s,∀b∈s,le a b→le b a→a=b)
 (nodup:s.Nodup)(nodup':t.Nodup)(few:t.length≤n) :
 t.Perm ((s.insertionSort le).take n) ↔ t ⊆ s ∧ ∀b∈s,b∉t→t.length=n ∧ ∀a∈t,le a b:=by
 have all {a:α}{l:List α}:a∈l.insertionSort le ↔ a∈l:=List.mem_insertionSort le
 constructor
 · intro same
   have sorted:=List.pairwise_insertionSort le s
   rw[←List.take_append_drop n (s.insertionSort le),List.pairwise_append] at sorted
   refine ⟨fun a mem=>all.mp (List.mem_of_mem_take (same.mem_iff.mp mem)),fun b mem other=>?_⟩
   have late:b∈(s.insertionSort le).drop n:=by
    have mem:=all.mpr mem
    rw[←List.take_append_drop n (s.insertionSort le)] at mem
    exact (List.mem_append.mp mem).resolve_left fun early=>other (same.mem_iff.mpr early)
   have more:=List.length_pos_of_mem late
   rw[List.length_drop] at more
   refine ⟨?_,fun a early=>sorted.2.2 a (same.mem_iff.mp early) b late⟩
   rw[same.length_eq,List.length_take]
   omega
 · rintro ⟨inside,after⟩
   let rest:=s.filter (· ∉ t)
   have others:∀b∈rest,b∈s ∧ b∉t:=fun b mem=>by simpa[rest] using mem
   have parts:s.Perm (t++rest):=by
    refine (List.perm_ext_iff_of_nodup nodup
     (nodup'.append (nodup.filter _) fun a mem mem'=>(others a mem').2 mem)).mpr fun a=>?_
    by_cases mem:a∈t
    · simp[mem,inside mem]
    · simp[mem]
   have sorted:s.insertionSort le=t.insertionSort le++rest.insertionSort le:=by
    refine List.Perm.eq_of_pairwise
     (fun a b mem mem'=>order a (all.mp mem) b (parts.mem_iff.mpr ?_))
     (List.pairwise_insertionSort le s) (List.pairwise_append.mpr ⟨List.pairwise_insertionSort le t,
      List.pairwise_insertionSort le rest,fun a mem b mem'=>?_⟩)
     ((List.perm_insertionSort le s).trans (parts.trans ((List.perm_insertionSort le t).append
      (List.perm_insertionSort le rest)).symm))
    · simpa only[List.mem_append,all] using mem'
    · obtain ⟨mem',other⟩:=others b (all.mp mem')
      exact (after b mem' other).2 a (all.mp mem)
   rw[sorted]
   cases left:rest with
   | nil =>
    rw[List.insertionSort_nil,List.append_nil,List.take_of_length_le (by simpa using few)]
    exact (List.perm_insertionSort le t).symm
   | cons b rest' =>
    obtain ⟨mem,other⟩:=others b (left ▸ List.mem_cons_self)
    rw[List.take_left' ((List.length_insertionSort le t).trans (after b mem other).1)]
    exact (List.perm_insertionSort le t).symm

end

/-- `SupplierFamily`, without the words that no profile is made of. -/
structure SupplierFamily where
 key:String
 priority:ℕ
 (cpvPrefixes objectTerms nafCodes:List String)
 deriving DecidableEq

def catalog:List (String × List SupplierFamily):=[("general_building",[
  ⟨"ready_mix_concrete",1,["452623"],["gros œuvre","béton"],["23.63Z"]⟩,
  ⟨"reinforcement_steel",2,["452623","452624"],["armatures","ferraillage"],["24.10Z","25.11Z"]⟩,
  ⟨"subcontracted_structural_work",3,["45262"],["gros œuvre","maçonnerie"],["43.99C"]⟩,
  ⟨"formwork",4,["452623"],["coffrage"],["43.99C"]⟩,
  ⟨"scaffolding",5,["442123","45261"],["échafaudage"],["43.99C"]⟩]),
 ("interior_finishing",[
  ⟨"plastering",1,["4541"],["plâtrerie","placo"],["43.31Z"]⟩,
  ⟨"flooring",2,["4543"],["sol","revêtement"],["43.33Z","43.34Z"]⟩,
  ⟨"exterior_joinery",3,["4542"],["menuiserie extérieure","fenêtres"],["43.32A","43.32B"]⟩]),
 ("technical_installation",[
  ⟨"plumbing",1,["4533"],["plomberie"],["43.22A","43.22B","43.29A"]⟩,
  ⟨"electrical",2,["4531"],["électricité","courant fort"],["43.21A"]⟩,
  ⟨"hvac",3,["4533"],["chauffage","ventilation","climatisation"],["43.22A","43.22B"]⟩,
  ⟨"insulation",4,["4532"],["isolation","calorifuge"],["43.29A"]⟩]),
 ("roadworks_civil",[
  ⟨"road_construction",1,["4523"],["voirie","route"],["42.11Z"]⟩,
  ⟨"asphalt",2,["4411"],["enrobé","asphalte"],["42.11Z"]⟩,
  ⟨"road_markings",3,["4523"],["signalisation"],["42.11Z"]⟩]),
 ("earthworks_demolition",[
  ⟨"earthmoving",1,["4511"],["terrassement","excavation"],["43.12A","43.12B"]⟩,
  ⟨"demolition",2,["4511"],["démolition"],["43.12A","43.12B"]⟩,
  ⟨"waste_removal",3,["9051"],["déchets","évacuation"],["38.11Z"]⟩]),
 ("special_civil",[
  ⟨"waterproofing",1,["452614"],["étanchéité"],["43.99C"]⟩,
  ⟨"structural_steel",2,["452624"],["charpente métallique"],["43.91A","43.91B"]⟩,
  ⟨"facade_cladding",3,["4526265"],["bardage","façade"],["43.91A","43.91B"]⟩,
  ⟨"timber_carpentry",4,["452611"],["charpente","bois"],["16.23Z","43.91A"]⟩,
  ⟨"roofing",5,["45261"],["couverture","zinguerie"],["43.91B"]⟩])]

def families:List SupplierFamily:=catalog.flatMap Prod.snd

/-- The order of `(priority, key)`. -/
def Before:SupplierFamily→SupplierFamily→Prop:=
 Order.Preimage (fun f=>toLex (f.priority,f.key)) (· ≤ ·)

instance:DecidableRel Before:=fun _ _=>inferInstanceAs (Decidable (_≤_))
instance:IsTrans SupplierFamily Before:=⟨fun _ _ _=>le_trans (α:=ℕ ×ₗ String)⟩
instance:Std.Total Before:=⟨fun _ _=>le_total (α:=ℕ ×ₗ String) _ _⟩

/-- What `str` and `unicodedata` make of a text: `fold` is its case-folded NFKD form without the
combining characters. The terms of the catalogue are in lower case. -/
structure Folding where
 casefold:String→String
 fold:String→List Char
 lower:∀f∈families,∀term∈f.objectTerms,casefold term=term

variable (u:Folding)

def normalizedWords (value:String):List Char:=collapse isPlain (u.fold value)

def spaced (words:List Char):List Char:=[' ']++words++[' ']

/-- One of the terms of the family stands in the text as whole words. -/
def named (text:String)(f:SupplierFamily):Bool:=
 f.objectTerms.any fun term=>normalizedWords u term != [] &&
  decide (spaced (normalizedWords u term) <:+: spaced (normalizedWords u text))

def familiesNamedInObject (text:String):List SupplierFamily:=
 (families.filter (named u text)).insertionSort Before

def undashed (text:String):List Char:=text.toList.filter (· != '-')

def coded (codes:List String)(f:SupplierFamily):Bool:=
 codes.any fun code=>f.cpvPrefixes.any fun start=>(undashed start).isPrefixOf (undashed code)

/-- What `families_for_signal` finds, before it cuts and sorts. -/
def matched (codes:List String)(text:String):List SupplierFamily:=
 families.filter fun f=>coded codes f||(familiesNamedInObject u text).contains f

def familiesForSignal (vertical:String)(codes:List String)(text:String) :
 Except String (List SupplierFamily):=
 if vertical∈catalog.map Prod.fst then .ok (((matched u codes text).take 5).insertionSort Before)
 else .error ("unknown supplier family vertical: "++vertical)

def auraNeighbours:List (String × List String):=
 [("01",["38","39","69","71","73","74"]),("03",["18","23","42","58","63","71"]),
  ("07",["26","30","43","48","84"]),("15",["12","19","43","46","48","63"]),
  ("26",["04","05","07","38","84"]),("38",["01","05","26","69","73"]),
  ("41",["18","28","36","37","45","72"]),("42",["03","43","63","69","71"]),
  ("43",["07","15","42","48","63"]),("63",["03","15","19","23","42","43"]),
  ("69",["01","38","42","71"]),("73",["01","05","38","74"]),("74",["01","73"])]

def nutsDepartments:List (String × String):=
 [("FRK11","01"),("FRK12","03"),("FRK13","07"),("FRK14","15"),("FRK21","26"),
  ("FRK22","38"),("FRK23","42"),("FRK24","43"),("FRK25","63"),("FRK26","69"),
  ("FRK27","73"),("FRK28","74"),("FRB01","18"),("FRB02","28"),("FRB03","36"),
  ("FRB04","37"),("FRB05","41"),("FRB06","45")]

def departmentFromSubdivision (subdivision:String):Option String:=
 match subdivision.toList with
 | 'F' :: 'R' :: '-' :: [c,d]=>some (String.ofList [c,d])
 | _=>(nutsDepartments.find? (·.1==subdivision)).map Prod.snd

def departmentAndNeighbours (department:String):List String:=
 department::((auraNeighbours.find? (·.1==department)).map Prod.snd).getD []

/-- `_KEYWORDS`; its keys are the seven values of `NeedCategory`. -/
def keywords:List (String × List String):=
 [("workforce_capacity",["staffing","workforce solutions"]),
  ("equipment_or_rental",["equipment rental","industrial equipment"]),
  ("materials_or_components",["building materials","industrial components"]),
  ("logistics_and_transport",["logistics","transportation services"]),
  ("specialist_subcontracting",["specialty contractor","subcontracting"]),
  ("safety_and_ppe",["personal protective equipment","workplace safety"]),
  ("waste_and_environment",["environmental services","waste management"])]

def cpvKeywords:List (String × String):=
 [("452612","couverture"),("4526265","bardage"),("452613","zinguerie")]

/-- `SupplierTargetingConfig`, which is checked on its own. -/
structure SupplierTargetingConfig where
 (organizationLocations organizationNotLocations employeeRanges excludedDomains:List String)
 (maxPages perPage candidateCap searchTooBroadThreshold:ℕ)

/-- The values of a `SupplierSearchProfile`; those of the targeting are copied into it. -/
structure Values where
 (signalRef representativeAwardKey:String)
 (needCategories cpvCodes tradeTerms keywordTags sireneNafCodes sireneDepartments:List String)
 supplierFamilyKeys:List String
 targeting:SupplierTargetingConfig

structure SupplierSearchProfile extends Values where
 profileFingerprint:String

def sized (most:ℕ)(text:String):Bool:=
 decide (1≤(trim text).length)&&decide ((trim text).length ≤ most)

def isSeedRef (text:String):Bool:=
 sized 256 text&&"procurement-opportunity:".toList.isPrefixOf (trim text).toList

def fieldAccepted (most:ℕ)(xs:List String):Bool:=decide (xs.length ≤ most)&&xs.all (sized 512)

def Values.bounds (v:Values):List (ℕ × List String):=
 [(7,v.needCategories),(32,v.cpvCodes),(32,v.tradeTerms),(32,v.keywordTags),
  (32,v.sireneNafCodes),(32,v.sireneDepartments),(5,v.supplierFamilyKeys)]

/-- The checks of the profile, but for those that the targeting has passed: an employee range is
bounded here alone. -/
def Values.accepted (v:Values):Bool:=isSeedRef v.signalRef&&sized 256 v.representativeAwardKey &&
  v.bounds.all (fun field=>fieldAccepted field.1 field.2) &&
  v.targeting.employeeRanges.all (sized 512)

def Values.trimmed (v:Values):Values where
 signalRef:=trim v.signalRef
 representativeAwardKey:=trim v.representativeAwardKey
 needCategories:=v.needCategories.map trim
 cpvCodes:=v.cpvCodes.map trim
 tradeTerms:=v.tradeTerms.map trim
 keywordTags:=v.keywordTags.map trim
 sireneNafCodes:=v.sireneNafCodes.map trim
 sireneDepartments:=v.sireneDepartments.map trim
 supplierFamilyKeys:=v.supplierFamilyKeys.map trim
 targeting:=v.targeting

/-- `AcquisitionSeed`, with the values of its understanding and of its needs that a profile reads. -/
structure AcquisitionSeed where
 (signalRef representativeAwardKey:String)
 award:ContractAward
 tradeDomain:Option String
 needCategories:List String
 refs:(isSeedRef signalRef&&sized 256 representativeAwardKey)=true
 literal:∀category∈needCategories,category∈keywords.map Prod.fst

variable (fingerprint:Values→String)

def explicitTerms (tradeTerms:List String):List String:=
 (tradeTerms.filter (strip · != "")).map (u.casefold ∘ strip)

def keywordTags (needCategories cpvCodes tradeTerms:List String):List String:=
 (keywords.filter (needCategories.contains ·.1)).flatMap Prod.snd ++
  (cpvKeywords.filter fun k=>cpvCodes.any fun code=>k.1.toList.isPrefixOf (undashed code)).map
   Prod.snd++explicitTerms u tradeTerms

def values (signalRef representativeAwardKey:String)(needCategories:List String)
 (targeting:SupplierTargetingConfig)
 (cpvCodes tradeTerms nafCodes departments familyKeys:List String):Values:=
 ⟨signalRef,representativeAwardKey,sortedSet needCategories,sortedSet cpvCodes,
  sortedSet (explicitTerms u tradeTerms),sortedSet (keywordTags u needCategories cpvCodes tradeTerms),
  sortedSet nafCodes,sortedSet departments,sortedSet familyKeys,targeting⟩

def buildSupplierSearchProfile (signalRef representativeAwardKey:String)
 (needCategories:List String)(targeting:SupplierTargetingConfig)
 (cpvCodes tradeTerms nafCodes departments familyKeys:List String) :
 Except String SupplierSearchProfile:=
 if ∃category∈needCategories,category∉keywords.map Prod.fst then
  .error "unsupported need categories"
 else if keywordTags u needCategories cpvCodes tradeTerms=[] then .error "no_supplier_need"
 else
  let v:=values u signalRef representativeAwardKey needCategories targeting cpvCodes tradeTerms
   nafCodes departments familyKeys
  if v.accepted then .ok {v.trimmed with profileFingerprint:=fingerprint v}
  else .error "ValidationError"

def cpvText (code:CpvCode):String:=(code.checkDigit.map (code.code++"-" ++ ·)).getD code.code

def cpvCodesOf (award:ContractAward):List String:=
 ((award.cpvMain.map CpvCode.code).toList++award.cpvAdditional.map cpvText).filter (· != "")

def titleOf (award:ContractAward):String:=(award.title.map NonEmptyStr.text).getD ""
def descriptionOf (award:ContractAward):String:=award.description.getD ""

def objectText (award:ContractAward):String:=
 " ".intercalate ([titleOf award,descriptionOf award].filter (· != ""))

def departmentsOf (award:ContractAward):List String:=
 (((award.placeOfPerformance.bind Location.subdivision).bind fun s=>
  departmentFromSubdivision s.1.text).map departmentAndNeighbours).getD []

def buildProfileFromSeed (seed:AcquisitionSeed)(targeting:SupplierTargetingConfig) :
 Except String SupplierSearchProfile:=
 if seed.needCategories=[] then .error "no_supplier_need"
 else do
  let chosen ←familiesForSignal u (seed.tradeDomain.getD "") (cpvCodesOf seed.award)
   (objectText seed.award)
  buildSupplierSearchProfile u fingerprint seed.signalRef seed.representativeAwardKey
   seed.needCategories targeting (cpvCodesOf seed.award) (chosen.flatMap SupplierFamily.objectTerms)
   (chosen.flatMap SupplierFamily.nafCodes) (departmentsOf seed.award) (chosen.map SupplierFamily.key)

section
variable {xs ys:List String}{fs:List SupplierFamily}{text:String}

lemma mem_sortedSet {x:String}:x∈sortedSet xs ↔ x∈xs:=by
 rw[sortedSet,List.mem_insertionSort,List.mem_dedup]

lemma length_sortedSet:(sortedSet xs).length=xs.dedup.length:=List.length_insertionSort _ _

lemma length_sortedSet_le (inside:xs ⊆ ys):(sortedSet xs).length≤ys.length:=by
 rw[length_sortedSet]
 exact ((List.nodup_dedup xs).subperm fun x mem=>inside (List.mem_dedup.mp mem)).length_le

lemma field_accepted (most:ℕ)(inside:xs ⊆ ys)(few:ys.length ≤ most) (all:∀x∈xs,sized 512 x=true) :
 fieldAccepted most (sortedSet xs)=true:=by
 rw[fieldAccepted,decide_eq_true ((length_sortedSet_le inside).trans few),Bool.true_and,List.all_eq_true]
 exact fun x mem=>all x (mem_sortedSet.mp mem)

lemma sortedSet_congr (same:xs.Perm ys):sortedSet xs=sortedSet ys:=by
 have trans:IsTrans String fun a b=>(a≤b:Bool)=true:=
  ⟨fun _ _ _ left right=>decide_eq_true (le_trans (of_decide_eq_true left) (of_decide_eq_true right))⟩
 have total:Std.Total fun a b:String=>(a≤b:Bool)=true:=
  ⟨fun a b=>(le_total a b).imp decide_eq_true decide_eq_true⟩
 refine List.Perm.eq_of_pairwise
  (fun a b _ _ left right=>le_antisymm (of_decide_eq_true left) (of_decide_eq_true right))
  (List.pairwise_insertionSort _ _) (List.pairwise_insertionSort _ _) ?_
 exact (List.perm_insertionSort _ _).trans (same.dedup.trans (List.perm_insertionSort _ _).symm)

lemma length_flatMap_le {g:SupplierFamily→List String}(few:∀f∈fs,(g f).length≤3) :
 (fs.flatMap g).length≤3*fs.length:=by
 induction fs with
 | nil=>exact Nat.le_refl _
 | cons f fs ih =>
  have head:=few f List.mem_cons_self
  have tail:=ih fun f mem=>few f (List.mem_cons_of_mem _ mem)
  rw[List.flatMap_cons,List.length_append,List.length_cons]
  omega

lemma trim_of_clear (clear:∀c∈text.toList,isWhiteSpace c=false):trim text=text:=by
 refine (trimWith_eq_self_iff ..).mpr ⟨fun some=>?_,fun some=>?_⟩
 · rw[clear _ (List.get_mem _ _)]
   exact Bool.false_ne_true
 · rw[clear _ (List.getLast_mem some)]
   exact Bool.false_ne_true

lemma decimal_clear {c:Char}(decimal:isDecimal c=true):isWhiteSpace c=false:=by
 obtain ⟨n,is⟩:=Option.isSome_iff_exists.mp decimal
 obtain ⟨start,found,rfl⟩:=Option.map_eq_some_iff.mp is
 have listed:=List.mem_of_find?_eq_some found
 have within:=List.find?_some found
 simp only[Bool.and_eq_true,decide_eq_true_eq] at within
 have all:(decimalZeros.all fun z=>(List.range 10).all fun k=>
   !isWhiteSpace (Char.ofNat (z+k)))=true:=by decide +kernel
 have clear:=List.all_eq_true.mp (List.all_eq_true.mp all start listed) (c.toNat-start)
  (List.mem_range.mpr (by omega))
 rwa[Nat.add_sub_cancel' within.1,Char.ofNat_toNat,Bool.not_eq_true'] at clear

lemma sized_of_clear (clear:∀c∈text.toList,isWhiteSpace c=false)
 (some:1≤text.toList.length)(short:text.toList.length≤512):sized 512 text=true:=by
 rw[sized,trim_of_clear clear,←String.length_toList,decide_eq_true some,decide_eq_true short]
 rfl

lemma sized_cpvCode (code:CpvCode):sized 512 code.code=true ∧ sized 512 (cpvText code)=true:=by
 have form:=code.codeForm
 have check:=code.checkForm
 simp only[isCpvRoot,Bool.and_eq_true,beq_iff_eq,List.all_eq_true] at form
 have clear:∀c∈code.code.toList,isWhiteSpace c=false:=fun c mem=>decimal_clear (form.2 c mem)
 have root:sized 512 code.code=true:=sized_of_clear clear (by omega) (by omega)
 refine ⟨root,?_⟩
 unfold cpvText
 cases is:code.checkDigit with
 | none=>exact root
 | some digit =>
  rw[is,Option.all_some,isCheckDigit,Bool.and_eq_true,beq_iff_eq,List.all_eq_true] at check
  have text:(code.code++"-"++digit).toList=code.code.toList++['-']++digit.toList:=by
   rw[String.toList_append,String.toList_append]
   rfl
  have length:=congrArg List.length text
  rw[List.length_append,List.length_append,List.length_singleton] at length
  refine sized_of_clear (fun c mem=>?_) (by simp only[Option.map_some,Option.getD_some];omega)
   (by simp only[Option.map_some,Option.getD_some];omega)
  change c∈(code.code++"-"++digit).toList at mem
  rw[text,List.mem_append,List.mem_append] at mem
  rcases mem with (root|dash)|digit
  · exact clear c root
  · rw[List.mem_singleton.mp dash]
    decide
  · exact decimal_clear (check.2 c digit)

end

/-- The tables are within the bounds of the profile. -/
lemma tables_formed:((families.all fun f=>decide (f.objectTerms.length≤3) &&
  decide (f.nafCodes.length≤3)&&trim f.key==f.key&&sized 512 f.key &&
  f.nafCodes.all (sized 512) &&
  f.objectTerms.all fun term=>strip term==term&&term != ""&&sized 512 term)=true ∧
 (keywords.all fun k=>k.2 != []&&sized 512 k.1&&k.2.all (sized 512))=true) ∧
 (cpvKeywords.all fun k=>sized 512 k.2)=true ∧
 (auraNeighbours.all fun n=>decide (n.2.length≤6)&&n.2.all (sized 512))=true ∧
 (nutsDepartments.all fun n=>sized 512 n.2)=true ∧ (families.map SupplierFamily.key).Nodup:=by
 decide +kernel

lemma keys_nodup:(families.map SupplierFamily.key).Nodup:=tables_formed.2.2.2.2

lemma sized_department (place:NonEmptyStr){department:String}
 (is:departmentFromSubdivision place.text=some department):sized 512 department=true:=by
 unfold departmentFromSubdivision at is
 split at is
 · rename_i c d chars
   have form:=place.form
   rw[isFilled,Bool.and_eq_true,beq_iff_eq] at form
   have last:=((trimWith_eq_self_iff ..).mp form.1).2 (by rw[chars];exact List.cons_ne_nil _ _)
   simp only[chars,List.getLast_cons_cons,List.getLast_singleton,Bool.not_eq_true] at last
   cases is
   cases first:isWhiteSpace c <;>
    simp[sized,trim,trimWith,List.dropWhile,List.rdropWhile,first,last]
 · obtain ⟨entry,found,rfl⟩:=Option.map_eq_some_iff.mp is
   exact List.all_eq_true.mp tables_formed.2.2.2.1 entry (List.mem_of_find?_eq_some found)

lemma departmentsOf_sized (award:ContractAward) :
 (departmentsOf award).length≤32 ∧ ∀d∈departmentsOf award,sized 512 d=true:=by
 unfold departmentsOf
 cases place:award.placeOfPerformance.bind Location.subdivision with
 | none=>exact ⟨Nat.zero_le _,nofun⟩
 | some s =>
  cases is:departmentFromSubdivision s.1.text with
  | none =>simp[is]
  | some department =>
   have own:=sized_department s.1 is
   simp only[Option.bind_some,is,Option.map_some,Option.getD_some,departmentAndNeighbours,
    List.length_cons,List.forall_mem_cons]
   cases found:auraNeighbours.find? (·.1==department) with
   | none=>simpa using own
   | some entry =>
    have formed:=List.all_eq_true.mp tables_formed.2.2.1 entry (List.mem_of_find?_eq_some found)
    simp only[Bool.and_eq_true,decide_eq_true_eq,List.all_eq_true] at formed
    exact ⟨by simp only[Option.map_some,Option.getD_some];omega,own,formed.2⟩

section
variable {u:Folding}{chosen:List SupplierFamily}

lemma explicitTerms_eq (inside:chosen ⊆ families) :
 explicitTerms u (chosen.flatMap SupplierFamily.objectTerms) =
  chosen.flatMap SupplierFamily.objectTerms:=by
 have formed:∀term∈chosen.flatMap SupplierFamily.objectTerms,
   (strip term != "")=true ∧ u.casefold (strip term)=term:=by
  intro term mem
  obtain ⟨f,listed,mem⟩:=List.mem_flatMap.mp mem
  have formed:=List.all_eq_true.mp tables_formed.1.1 f (inside listed)
  simp only[Bool.and_eq_true,List.all_eq_true,beq_iff_eq] at formed
  obtain ⟨⟨trimmed,some⟩,-⟩:=formed.2 term mem
  rw[trimmed]
  exact ⟨some,u.lower f (inside listed) term mem⟩
 rw[explicitTerms,List.filter_eq_self.mpr fun term mem=>(formed term mem).1]
 exact (List.map_congr_left fun term mem=>(formed term mem).2).trans (List.map_id' _)

/-- Of all checks of a profile, the number of codes and the employee ranges are left. -/
lemma values_accepted (seed:AcquisitionSeed)(targeting:SupplierTargetingConfig)
 (inside:chosen ⊆ families)(few:chosen.length≤5) :
 (values u seed.signalRef seed.representativeAwardKey seed.needCategories targeting
  (cpvCodesOf seed.award) (chosen.flatMap SupplierFamily.objectTerms)
  (chosen.flatMap SupplierFamily.nafCodes) (departmentsOf seed.award)
  (chosen.map SupplierFamily.key)).accepted=true ↔
 (cpvCodesOf seed.award).dedup.length≤32 ∧ targeting.employeeRanges.all (sized 512)=true:=by
 have formed:∀f∈chosen,_:=fun f mem=>List.all_eq_true.mp tables_formed.1.1 f (inside mem)
 simp only[Bool.and_eq_true,List.all_eq_true,beq_iff_eq,decide_eq_true_eq] at formed
 have keyword:∀k∈keywords,_:=fun k mem=>List.all_eq_true.mp tables_formed.1.2 k mem
 have cpvKeyword:∀k∈cpvKeywords,_:=fun k mem=>List.all_eq_true.mp tables_formed.2.1 k mem
 simp only[Bool.and_eq_true,List.all_eq_true] at keyword cpvKeyword
 have terms:=length_flatMap_le fun f mem=>(formed f mem).1.1.1.1.1
 have nafs:=length_flatMap_le fun f mem=>(formed f mem).1.1.1.1.2
 have termSized:∀term∈chosen.flatMap SupplierFamily.objectTerms,sized 512 term=true:=by
  intro term mem
  obtain ⟨f,listed,mem⟩:=List.mem_flatMap.mp mem
  exact ((formed f listed).2 term mem).2
 have nafSized:∀naf∈chosen.flatMap SupplierFamily.nafCodes,sized 512 naf=true:=by
  intro naf mem
  obtain ⟨f,listed,mem⟩:=List.mem_flatMap.mp mem
  exact (formed f listed).1.2 naf mem
 have keySized:∀key∈chosen.map SupplierFamily.key,sized 512 key=true:=by
  intro key mem
  obtain ⟨f,listed,rfl⟩:=List.mem_map.mp mem
  exact (formed f listed).1.1.2
 have codeSized:∀code∈cpvCodesOf seed.award,sized 512 code=true:=by
  intro code mem
  rcases List.mem_append.mp (List.mem_of_mem_filter mem) with main|additional
  · obtain ⟨code,-,rfl⟩:=Option.map_eq_some_iff.mp (Option.mem_toList.mp main)
    exact (sized_cpvCode code).1
  · obtain ⟨code,-,rfl⟩:=List.mem_map.mp additional
    exact (sized_cpvCode code).2
 have categorySized:∀category∈seed.needCategories,sized 512 category=true:=by
  intro category mem
  obtain ⟨k,listed,rfl⟩:=List.mem_map.mp (seed.literal category mem)
  exact (keyword k listed).1.2
 let tags:=keywordTags u seed.needCategories (cpvCodesOf seed.award)
  (chosen.flatMap SupplierFamily.objectTerms)
 have tagged:tags ⊆ keywords.flatMap Prod.snd++cpvKeywords.map Prod.snd ++
   chosen.flatMap SupplierFamily.objectTerms:=by
  intro tag mem
  simp only[tags,keywordTags,explicitTerms_eq inside,List.mem_append] at mem ⊢
  refine mem.imp_left fun mem=>mem.imp (fun mem=>?_) fun mem=>?_
  · obtain ⟨k,listed,mem⟩:=List.mem_flatMap.mp mem
    exact List.mem_flatMap.mpr ⟨k,List.mem_of_mem_filter listed,mem⟩
  · exact List.map_subset _ (List.filter_subset_self _) mem
 have tagSized:∀tag∈tags,sized 512 tag=true:=by
  intro tag mem
  rcases List.mem_append.mp (tagged mem) with known|term
  · rcases List.mem_append.mp known with tag|tag
    · obtain ⟨k,listed,mem⟩:=List.mem_flatMap.mp tag
      exact (keyword k listed).2 _ mem
    · obtain ⟨k,listed,rfl⟩:=List.mem_map.mp tag
      exact cpvKeyword k listed
  · exact termSized _ term
 have places:=departmentsOf_sized seed.award
 have tagsAccepted:fieldAccepted 32 (sortedSet (keywordTags u seed.needCategories
   (cpvCodesOf seed.award) (chosen.flatMap SupplierFamily.objectTerms)))=true:=by
  refine field_accepted 32 tagged ?_ tagSized
  have fixed:(keywords.flatMap Prod.snd++cpvKeywords.map Prod.snd).length=17:=by decide
  rw[List.length_append,fixed]
  omega
 have codes:fieldAccepted 32 (sortedSet (cpvCodesOf seed.award))=true ↔
   (cpvCodesOf seed.award).dedup.length≤32:=by
  rw[fieldAccepted,length_sortedSet,Bool.and_eq_true,decide_eq_true_eq,List.all_eq_true]
  exact and_iff_left fun code mem=>codeSized code (mem_sortedSet.mp mem)
 simp only[Values.accepted,values,Values.bounds,explicitTerms_eq inside,seed.refs,List.all_cons,
  List.all_nil,Bool.and_true,Bool.true_and,Bool.and_eq_true,codes,
  field_accepted 7 seed.literal (by decide) categorySized,
  field_accepted 32 (List.Subset.refl _) (by omega) termSized,
  tagsAccepted,
  field_accepted 32 (List.Subset.refl _) (by omega) nafSized,
  field_accepted 32 (List.Subset.refl _) places.1 places.2,
  field_accepted 5 (List.Subset.refl _) ((List.length_map _).trans_le few) keySized]

end

section
variable (u:Folding)(fingerprint:Values→String)

/-- The families that the code, the title or the description of the award supports. -/
def supported (award:ContractAward):List SupplierFamily:=
 families.filter fun f=>coded (cpvCodesOf award) f||named u (titleOf award) f ||
  named u (descriptionOf award) f

def foundIn (award:ContractAward):List SupplierFamily:=
 (matched u (cpvCodesOf award) (objectText award)).take 5

/-- The first five families in the order of the file are also the first by priority. -/
def Prior (award:ContractAward):Prop:=
 foundIn u award ⊆ supported u award ∧ ∀f∈supported u award,f∉foundIn u award →
  (foundIn u award).length=5 ∧ ∀g∈foundIn u award,Before g f

lemma foundIn_perm_iff (award:ContractAward) : ((foundIn u award).map SupplierFamily.key).Perm
  ((((supported u award).insertionSort Before).take 5).map SupplierFamily.key) ↔ Prior u award:=by
 have nodup:families.Nodup:=keys_nodup.of_map _
 have within:foundIn u award ⊆ families:=fun f mem=>
  List.mem_of_mem_filter (List.mem_of_mem_take mem)
 have within':supported u award ⊆ families:=List.filter_subset_self _
 have found:(foundIn u award).Nodup:=(nodup.filter _).sublist (List.take_sublist _ _)
 have first:(((supported u award).insertionSort Before).take 5).Nodup:=
  (((List.perm_insertionSort _ _).nodup_iff).mpr (nodup.filter _)).sublist (List.take_sublist _ _)
 have firstWithin:((supported u award).insertionSort Before).take 5 ⊆ families:=fun f mem=>
  within' ((List.mem_insertionSort _).mp (List.mem_of_mem_take mem))
 have keyed {xs ys:List SupplierFamily}(left:xs ⊆ families)(right:ys ⊆ families)
   (same:(xs.map SupplierFamily.key).Perm (ys.map SupplierFamily.key)):xs ⊆ ys:=by
  intro f mem
  obtain ⟨g,mem',is⟩:=List.mem_map.mp (same.subset (List.mem_map_of_mem mem))
  rwa[←List.inj_on_of_nodup_map keys_nodup (right mem') (left mem) is]
 refine Iff.trans ⟨fun same=>?_,List.Perm.map _⟩ (perm_take_insertionSort ?_ (nodup.filter _) found
  (List.length_take_le _ _))
 · exact (List.perm_ext_iff_of_nodup found first).mpr fun f=>
    ⟨@keyed _ _ within firstWithin same f,@keyed _ _ firstWithin within same.symm f⟩
 · intro f mem g mem' before after
   have same:toLex (f.priority,f.key)=toLex (g.priority,g.key):=le_antisymm before after
   exact List.inj_on_of_nodup_map keys_nodup (within' mem) (within' mem')
    (congrArg Prod.snd (toLex.injective same))

/-- What a seed with needs and a vertical of the catalogue comes to. -/
lemma buildProfileFromSeed_eq {seed:AcquisitionSeed}(targeting:SupplierTargetingConfig)
 (vertical:seed.tradeDomain.getD ""∈catalog.map Prod.fst)(needed:seed.needCategories≠[]) :
 let chosen:=(foundIn u seed.award).insertionSort Before
 let v:=values u seed.signalRef seed.representativeAwardKey seed.needCategories targeting
  (cpvCodesOf seed.award) (chosen.flatMap SupplierFamily.objectTerms)
  (chosen.flatMap SupplierFamily.nafCodes) (departmentsOf seed.award)
  (chosen.map SupplierFamily.key)
 buildProfileFromSeed u fingerprint seed targeting =
  if v.accepted then .ok {v.trimmed with profileFingerprint:=fingerprint v}
  else .error "ValidationError":=by
 intro chosen v
 have known:¬∃category∈seed.needCategories,category∉keywords.map Prod.fst:=
  fun ⟨category,mem,other⟩=>other (seed.literal category mem)
 have tagged:keywordTags u seed.needCategories (cpvCodesOf seed.award)
   (chosen.flatMap SupplierFamily.objectTerms)≠[]:=by
  obtain ⟨category,mem⟩:=List.exists_mem_of_ne_nil _ needed
  obtain ⟨k,listed,rfl⟩:=List.mem_map.mp (seed.literal category mem)
  have formed:=List.all_eq_true.mp tables_formed.1.2 k listed
  simp only[Bool.and_eq_true,bne_iff_ne] at formed
  obtain ⟨tag,tag_mem⟩:=List.exists_mem_of_ne_nil _ formed.1.1
  refine List.ne_nil_of_mem (a:=tag) (List.mem_append_left _ (List.mem_append_left _ ?_))
  exact List.mem_flatMap.mpr ⟨k,List.mem_filter.mpr ⟨listed,List.contains_iff_mem.mpr mem⟩,tag_mem⟩
 have served:familiesForSignal u (seed.tradeDomain.getD "") (cpvCodesOf seed.award)
   (objectText seed.award)=.ok chosen:=if_pos vertical
 rw[buildProfileFromSeed,if_neg needed,served]
 change buildSupplierSearchProfile u fingerprint _ _ _ _ _ _ _ _ _=_
 rw[buildSupplierSearchProfile,if_neg known,if_neg tagged]

lemma buildProfileFromSeed_congr (seed:AcquisitionSeed)(targeting:SupplierTargetingConfig)
 {additional:List CpvCode}(same:additional.Perm seed.award.cpvAdditional) :
 buildProfileFromSeed u fingerprint
   {seed with award:={seed.award with cpvAdditional:=additional}} targeting =
  buildProfileFromSeed u fingerprint seed targeting:=by
 have codes:(cpvCodesOf {seed.award with cpvAdditional:=additional}).Perm
   (cpvCodesOf seed.award):=((same.map cpvText).append_left _).filter _
 have alike:∀p:String→Bool,(cpvCodesOf {seed.award with cpvAdditional:=additional}).any p =
   (cpvCodesOf seed.award).any p:=fun p=>codes.any_eq
 simp only[buildProfileFromSeed,familiesForSignal,matched,coded,alike,buildSupplierSearchProfile,
  values,keywordTags,sortedSet_congr codes]
 rfl

/-- The profile shows the families that the award supports, the first by priority, exactly when no
bound is passed and the first in the file are the first by priority; it never shows how the
additional codes were ordered. -/
theorem profile_iff (seed:AcquisitionSeed)(targeting:SupplierTargetingConfig)
 (vertical:seed.tradeDomain.getD ""∈catalog.map Prod.fst)(needed:seed.needCategories≠[]) :
 ((∃profile,buildProfileFromSeed u fingerprint seed targeting=.ok profile ∧
   profile.supplierFamilyKeys.Perm
    ((((supported u seed.award).insertionSort Before).take 5).map SupplierFamily.key)) ↔
  ((cpvCodesOf seed.award).dedup.length≤32 ∧ targeting.employeeRanges.all (sized 512)=true) ∧
   Prior u seed.award) ∧
 ∀additional,additional.Perm seed.award.cpvAdditional →buildProfileFromSeed u fingerprint
   {seed with award:={seed.award with cpvAdditional:=additional}} targeting =
   buildProfileFromSeed u fingerprint seed targeting:=by
 refine ⟨?_,fun additional same=>buildProfileFromSeed_congr u fingerprint seed targeting same⟩
 have sorted:=List.perm_insertionSort Before (foundIn u seed.award)
 have inside:(foundIn u seed.award).insertionSort Before ⊆ families:=fun f mem=>
  List.mem_of_mem_filter (List.mem_of_mem_take ((List.mem_insertionSort _).mp mem))
 have accepted:=values_accepted (u:=u) seed targeting inside
  (sorted.length_eq.trans_le (List.length_take_le _ _))
 have nodup:((foundIn u seed.award).map SupplierFamily.key).Nodup:=
  keys_nodup.sublist (((List.take_sublist _ _).trans List.filter_sublist).map _)
 have shown:((sortedSet (((foundIn u seed.award).insertionSort Before).map SupplierFamily.key)).map
   trim).Perm ((foundIn u seed.award).map SupplierFamily.key):=by
  rw[(List.map_congr_left fun key mem=>?_).trans (List.map_id' _),sortedSet]
  · refine (List.perm_insertionSort _ _).trans ?_
    rw[((sorted.map _).nodup_iff.mpr nodup).dedup]
    exact sorted.map _
  · obtain ⟨f,listed,rfl⟩:=List.mem_map.mp (mem_sortedSet.mp mem)
    have formed:=List.all_eq_true.mp tables_formed.1.1 f (inside listed)
    simp only[Bool.and_eq_true,beq_iff_eq] at formed
    exact formed.1.1.1.2
 rw[buildProfileFromSeed_eq u fingerprint targeting vertical needed,←accepted,←foundIn_perm_iff]
 constructor
 · rintro ⟨profile,is,same⟩
   split at is
   · rename_i ok
     cases is
     exact ⟨ok,shown.symm.trans same⟩
   · cases is
 · rintro ⟨ok,same⟩
   exact ⟨_,if_pos ok,shown.trans same⟩

end

def ascii:Folding where
 casefold:=id
 fold:=String.toList
 lower _ _ _ _:=rfl

def sampleCode (code:String)(form:isCpvRoot code=true):CpvCode:=⟨code,none,form,Option.all_none⟩

def sampleSeed (additional:List CpvCode):AcquisitionSeed where
 signalRef:="procurement-opportunity:opp_1"
 representativeAwardKey:="award-1"
 award:={ OpportunityIdentity.bareAward .boamp ⟨"n-9",rfl⟩ ⟨"a-9",rfl⟩ with
  cpvMain:=some (sampleCode "45262311" (by decide)),cpvAdditional:=additional}
 tradeDomain:=some "general_building"
 needCategories:=["materials_or_components"]
 refs:=by decide
 literal:=by decide

def sampleTargeting:SupplierTargetingConfig:=⟨["France"],[],["10,50"],[],1,100,100,10000⟩

def finishings:List CpvCode:=[sampleCode "45410000" (by decide),sampleCode "45330000" (by decide)]

/-- Plumbing and ventilation come before formwork by priority, and after it in the file. -/
theorem families_cut_by_file :
 (buildProfileFromSeed ascii (fun _=>"") (sampleSeed finishings) sampleTargeting).toOption.map
  (·.supplierFamilyKeys)=some ["formwork","plastering","ready_mix_concrete",
   "reinforcement_steel","subcontracted_structural_work"] ∧
 (((supported ascii (sampleSeed finishings).award).insertionSort Before).take 5).map
  SupplierFamily.key =
   ["plastering","plumbing","ready_mix_concrete","reinforcement_steel","hvac"]:=by
 decide +kernel

theorem profile_iff_sample :
 ∃profile,buildProfileFromSeed ascii (fun _=>"") (sampleSeed []) sampleTargeting=.ok profile ∧
  profile.supplierFamilyKeys.Perm ((((supported ascii (sampleSeed []).award).insertionSort
   Before).take 5).map SupplierFamily.key):=by
 refine (profile_iff ascii (fun _=>"") (sampleSeed []) sampleTargeting (by decide)
  (List.cons_ne_nil _ _)).1.mpr ⟨⟨by decide +kernel,by decide +kernel⟩,?_⟩
 unfold Prior
 decide +kernel

end Kivou.SupplierFamilies
