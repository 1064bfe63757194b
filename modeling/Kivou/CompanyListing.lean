import Kivou.CompanyHistories

set_option autoImplicit false

/-! `signals.companies.listing` groups the keys of an account in one pass over its rows, without the
copies that the resolver makes. -/
namespace Kivou.CompanyIdentity
open PythonValues Tables

/-- The dictionaries `quarantined` and `public` of the list. -/
structure Identities where
 quarantined:String→Bool
 canonical:String→Option String

def Identities.learn (known:Identities)(row:SaasCompany):Identities:=
 match row.siren with
 | none=>known
 | some siren =>
  if known.quarantined row.companyKey then known
  else
   match known.canonical row.companyKey with
   | none =>
    { known with canonical:=
       Function.update known.canonical row.companyKey (some (canonicalKey siren))}
   | some other =>
    if other≠canonicalKey siren then
     { quarantined:=Function.update known.quarantined row.companyKey true
       canonical:=Function.update known.canonical row.companyKey none}
    else known

structure Listing where
 db:Db
 companies:List SaasCompany
 accountId:String
 /-- The accessible signals, with their companies. -/
 signals:List (String × String)
 /-- The SIRENs of `supplier_directory`. -/
 directory:List String

/-- A row before the filters of the request choose among them; `signals` is what `_Accumulator`
takes in. -/
structure CompanyRow where
 companyKey:String
 signals:List (String × String)
 contactStatus:ContactStatus
 contactedAt:Option ℕ
 tracked:Bool

namespace Listing
variable (l:Listing)

def rowsOf (t:PrivateTable):List (PrivateRow t.Values):=
 (l.db.privateRows t).filter fun row=>row.accountId==l.accountId

def keysOf (t:PrivateTable):List String:=(l.rowsOf t).map PrivateRow.companyKey

def signalKeys:List String:=l.signals.map Prod.snd

def relevantKeys:List String:=
 l.signalKeys++l.keysOf .accountCompanyMembership++l.keysOf .companyNote ++
  l.keysOf .companyContact++l.keysOf .companyManualContact

def bindings:Identities where
 quarantined key:=l.relevantKeys.contains key &&
  (l.db.alias? key).any fun row=>row.resolutionStatus≠.exact
 canonical key:=
  if l.relevantKeys.contains key then
   ((l.db.alias? key).filter fun row=>row.resolutionStatus==.exact).map
    AliasRow.canonicalCompanyKey
  else none

def identities:Identities:=
 (l.companies.filter fun row=>l.relevantKeys.contains row.companyKey).foldl .learn l.bindings

def override? (key:String):Option String:=
 if l.identities.quarantined key then none
 else (l.db.override? l.accountId key).map OverrideRow.privateSubjectKey

def canonicalOf (key:String):String:=(l.identities.canonical key).getD key

def counts (canonical key:String):Bool:=
 !(l.override? key).any (· != key)&&l.canonicalOf key==canonical

def conflicts (canonical:String):Bool:=
 [PrivateTable.companyNote,.companyContact,.companyManualContact].any fun t=>
  disagree ((l.rowsOf t).filter fun row=>l.counts canonical row.companyKey)

/-- `subject`, the function by which the list groups. -/
def subject (key:String):String:=
 if l.identities.quarantined key then key
 else (l.override? key).getD (if l.conflicts (l.canonicalOf key) then key else l.canonicalOf key)

def memberships:List String:=(l.keysOf .accountCompanyMembership).map l.subject

/-- The keys of `accumulators`. -/
def subjects:List String:=(l.signalKeys.map l.subject++l.memberships).eraseDups

/-- The row's company has a name, in `saas_company` or in the directory. -/
def named (subject:String):Bool:=
 (l.companies.any fun row=>(l.subjects++l.signalKeys).contains row.companyKey &&
   l.subject row.companyKey==subject) ||
  l.directory.any (canonicalKey · == subject)

/-- `(key == subject(key), key)` -/
def contactOrder (a b:PrivateRow ContactValues):Bool:=
 if (l.subject a.companyKey==a.companyKey)=(l.subject b.companyKey==b.companyKey) then
  a.companyKey≤b.companyKey
 else l.subject b.companyKey==b.companyKey

def contacts (subject:String):Option ContactValues:=
 (((l.rowsOf .companyContact).mergeSort l.contactOrder).filter fun row=>
  l.subject row.companyKey==subject).getLast?.map PrivateRow.values

def rows:List CompanyRow:=(l.subjects.filter l.named).map fun subject=>
  { companyKey:=subject
    signals:=l.signals.filter fun signal=>l.subject signal.2==subject
    contactStatus:=((l.contacts subject).map ContactValues.status).getD .toContact
    contactedAt:=(l.contacts subject).bind ContactValues.contactedAt
    tracked:=l.memberships.contains subject}

def companySiren (key:String):Option String:=
 (l.companies.find? fun row=>row.companyKey==key).bind SaasCompany.siren

/-- The key has an alias, which is isolated for everyone or names another company than the
identifiers stored for the key. -/
def Contradicted (key:String):Prop:=∃row,l.db.alias? key=some row ∧
 (row.resolutionStatus=.unresolved ∨
  ∃siren,l.companySiren key=some siren ∧ canonicalKey siren≠row.canonicalCompanyKey)

/-- The alias of the key names the canonical one, or the stored identifiers where it has none. -/
def LeadsTo (key canonical:String):Prop:=
 (∃row,l.db.alias? key=some row ∧ row.canonicalCompanyKey=canonical) ∨
  l.db.alias? key=none ∧ (l.companySiren key).map canonicalKey=some canonical

def Registered (canonical other:String):Prop:=∃row,l.db.alias? other=some row ∧
 row.resolutionStatus=.exact ∧ row.canonicalCompanyKey=canonical

def Undecided (other:String):Prop:=l.db.override? l.accountId other=none

/-- Rows that both count: under the two keys, and under aliases left to decide. -/
def Common (key canonical other:String):Prop:=other=canonical ∨ other=key ∨
 l.Registered canonical other ∧ ¬l.Contradicted other ∧ l.Undecided other

/-- Aliases that the account keeps apart, and companies that nobody has registered. -/
def OnlyListed (key canonical other:String):Prop:=other≠key ∧
 (l.Registered canonical other ∧ ¬l.Contradicted other ∧
   (∃o,l.db.override? l.accountId other=some o ∧ o.privateSubjectKey=other) ∨
  l.db.alias? other=none ∧ (l.companySiren other).map canonicalKey=some canonical)

/-- Aliases left to decide that nobody has noticed to be contradicted. -/
def OnlyResolved (canonical other:String):Prop:=
 l.Registered canonical other ∧ l.Contradicted other ∧ l.Undecided other

end Listing

/-- Two rows of one table of the account differ, under keys with `P`. -/
def Db.Disagree (db:Db)(accountId:String)(P:String→Prop):Prop:=
 ∃t,∃r∈db.privateRows t,∃r'∈db.privateRows t,r.accountId=accountId ∧
  r'.accountId=accountId ∧ P r.companyKey ∧ P r'.companyKey ∧ r.values≠r'.values

/-- A row under a key with `Q` differs from another, under a key with `P` or with `Q`. -/
def Db.Adds (db:Db)(accountId:String)(P Q:String→Prop):Prop:=
 ∃t,∃r∈db.privateRows t,∃r'∈db.privateRows t,r.accountId=accountId ∧
  r'.accountId=accountId ∧ Q r.companyKey ∧ (P r'.companyKey ∨ Q r'.companyKey) ∧
  r.values≠r'.values

/-- The key has nothing left to decide, or the rows that both count differ already, or those that
only one of them counts add a difference on both sides or on none. -/
def Listing.Agrees (l:Listing)(key:String):Prop:=
 l.Contradicted key ∨ ¬l.Undecided key ∨ ∀canonical,l.LeadsTo key canonical→canonical=key ∨
  l.db.Disagree l.accountId (l.Common key canonical) ∨
  (l.db.Adds l.accountId (l.Common key canonical) (l.OnlyListed key canonical) ↔
   l.db.Adds l.accountId (l.Common key canonical) (l.OnlyResolved canonical))

/-- The list's row of a subject has the signals of the key and what is stored under the subject,
which its page reads in `db'`. -/
structure Listing.Carries (l:Listing)(db':Db)(key subject:String):Prop where
 once:(l.rows.map CompanyRow.companyKey).Nodup
 signals:∀row∈l.rows,∀signal∈l.signals,signal.2=key →(signal∈row.signals ↔ row.companyKey=subject)
 contact:∀stored,l.db.private? .companyContact l.accountId subject=some stored →
  db'.private? .companyContact l.accountId subject=some stored ∧
  ∀row∈l.rows,row.companyKey=subject →
   row.contactStatus=stored.values.status ∧ row.contactedAt=stored.values.contactedAt
 membership:∀stored,l.db.private? .accountCompanyMembership l.accountId subject=some stored →
  db'.private? .accountCompanyMembership l.accountId subject=some stored ∧
  ∀row∈l.rows,row.companyKey=subject → row.tracked=true
 listed:(key∈l.signalKeys ∨
   ∃stored,l.db.private? .accountCompanyMembership l.accountId subject=some stored) →
  l.named subject=true→∃row∈l.rows,row.companyKey=subject

section
variable {l:Listing}{key siren canonical:String}{t:PrivateTable}

lemma conflicts_iff : l.conflicts canonical=true ↔
  l.db.Disagree l.accountId fun k=>l.counts canonical k=true:=by
 simp only[Listing.conflicts,Listing.rowsOf,List.any_eq_true,disagree_iff,List.mem_filter,
  beq_iff_eq,Db.Disagree]
 constructor
 · rintro ⟨t,-,r,⟨⟨mem,own⟩,counted⟩,r',⟨⟨mem',own'⟩,counted'⟩,differ⟩
   exact ⟨t,r,mem,r',mem',own,own',counted,counted',differ⟩
 · rintro ⟨t,r,mem,r',mem',own,own',counted,counted',differ⟩
   have three:t∈[PrivateTable.companyNote,.companyContact,.companyManualContact]:=by
    cases t with
    | accountCompanyMembership=>exact absurd rfl differ
    | _=>decide
   exact ⟨t,three,r,⟨⟨mem,own⟩,counted⟩,r',⟨⟨mem',own'⟩,counted'⟩,differ⟩

lemma conflicting_iff_disagree {db:Db}{accountId:String} : db.conflicting accountId canonical=true ↔
  db.Disagree accountId (· ∈ db.candidateKeys accountId canonical):=by
 simp only[conflicting_iff,mem_rowsUnder,Db.Disagree]
 constructor
 · rintro ⟨t,r,⟨mem,own,is⟩,r',⟨mem',own',is'⟩,differ⟩
   exact ⟨t,r,mem,r',mem',own,own',is,is',differ⟩
 · rintro ⟨t,r,mem,r',mem',own,own',is,is',differ⟩
   exact ⟨t,r,⟨mem,own,is⟩,r',⟨mem',own',is'⟩,differ⟩

lemma disagree_or {db:Db}{accountId:String}{P Q:String→Prop} :
 db.Disagree accountId (fun k=>P k ∨ Q k) ↔ db.Disagree accountId P ∨ db.Adds accountId P Q:=by
 constructor
 · rintro ⟨t,r,mem,r',mem',own,own',is|is,is',differ⟩
   · rcases is' with is' | is'
     · exact .inl ⟨t,r,mem,r',mem',own,own',is,is',differ⟩
     · exact .inr ⟨t,r',mem',r,mem,own',own,is',.inl is,differ.symm⟩
   · exact .inr ⟨t,r,mem,r',mem',own,own',is,is',differ⟩
 · rintro (⟨t,r,mem,r',mem',own,own',is,is',differ⟩|⟨t,r,mem,r',mem',own,own',is,is',differ⟩)
   · exact ⟨t,r,mem,r',mem',own,own',.inl is,.inl is',differ⟩
   · exact ⟨t,r,mem,r',mem',own,own',.inr is,is',differ⟩

lemma disagree_congr {P Q:String→Prop}(same:∀k∈l.relevantKeys,P k ↔ Q k) :
 l.db.Disagree l.accountId P ↔ l.db.Disagree l.accountId Q:=by
 -- every row of the account stands under a key that the list looks at
 have relevant:∀t,∀r∈l.db.privateRows t,r.accountId=l.accountId → r.companyKey∈l.relevantKeys:=by
  intro t r mem own
  have key:r.companyKey∈l.keysOf t:=
   List.mem_map_of_mem (List.mem_filter.mpr ⟨mem,beq_iff_eq.mpr own⟩)
  unfold Listing.relevantKeys
  cases t <;> simp[key]
 constructor <;> rintro ⟨t,r,mem,r',mem',own,own',is,is',differ⟩
 · exact ⟨t,r,mem,r',mem',own,own',(same _ (relevant t r mem own)).mp is,
    (same _ (relevant t r' mem' own')).mp is',differ⟩
 · exact ⟨t,r,mem,r',mem',own,own',(same _ (relevant t r mem own)).mpr is,
    (same _ (relevant t r' mem' own')).mpr is',differ⟩

def settled (siren:Option String)(known:Bool × Option String):Bool × Option String:=
 match siren with
 | none=>known
 | some siren =>
  if known.1 then known
  else
   match known.2 with
   | none=>(false,some (canonicalKey siren))
   | some other=>if other≠canonicalKey siren then (true,none) else known

def Identities.of (known:Identities)(key:String):Bool × Option String:=
 (known.quarantined key,known.canonical key)

lemma learn_of (known:Identities)(row:SaasCompany)(key:String) : (known.learn row).of key =
  if row.companyKey=key then settled row.siren (known.of key) else known.of key:=by
 unfold Identities.learn settled
 by_cases own:row.companyKey=key
 · subst own
   rw[if_pos rfl]
   cases row.siren with
   | none=>rfl
   | some siren =>
    cases quarantined:known.quarantined row.companyKey with
    | true=>simp[Identities.of,quarantined]
    | false =>
     cases canonical:known.canonical row.companyKey with
     | none=>simp[Identities.of,quarantined,canonical]
     | some other =>
      by_cases differs:other=canonicalKey siren
      · simp[Identities.of,quarantined,canonical,differs]
      · simp[Identities.of,quarantined,canonical,differs]
 · have other:key≠row.companyKey:=fun same=>own same.symm
   rw[if_neg own]
   cases row.siren with
   | none=>rfl
   | some siren =>
    dsimp only
    split
    · rfl
    · split
      · simp[Identities.of,Function.update_of_ne other]
      · split
        · simp[Identities.of,Function.update_of_ne other]
        · rfl

lemma foldl_learn_of {rows:List SaasCompany}
 (unique:(rows.map SaasCompany.companyKey).Nodup)(known:Identities)(key:String) :
 (rows.foldl .learn known).of key =
  settled ((rows.find? fun row=>row.companyKey==key).bind SaasCompany.siren) (known.of key):=by
 induction rows generalizing known with
 | nil=>rfl
 | cons row rows ih =>
  rw[List.map_cons,List.nodup_cons] at unique
  rw[List.foldl_cons,ih unique.2,learn_of]
  by_cases own:row.companyKey=key
  · have absent:rows.find? (fun row=>row.companyKey==key)=none:=by
     rw[List.find?_eq_none]
     intro other mem same
     exact unique.1 (List.mem_map.mpr ⟨other,mem,by rw[own];exact beq_iff_eq.mp same⟩)
    rw[absent,if_pos own,List.find?_cons,beq_iff_eq.mpr own]
    rfl
  · rw[if_neg own,List.find?_cons_of_neg (by simpa using own)]

lemma identities_of (unique:(l.companies.map SaasCompany.companyKey).Nodup)
 (relevant:key∈l.relevantKeys) :
 l.identities.of key=settled (l.companySiren key) (l.bindings.of key):=by
 unfold Listing.identities
 rw[foldl_learn_of (unique.sublist (List.filter_sublist.map _)),Listing.companySiren]
 congr 2
 rw[List.find?_filter]
 congr 1
 funext row
 by_cases own:row.companyKey=key
 · simp[own,relevant]
 · simp[own]

lemma bindings_of (relevant:key∈l.relevantKeys){row:AliasRow}
 (found:l.db.alias? key=some row):l.bindings.of key =
  if row.resolutionStatus=.exact then (false,some row.canonicalCompanyKey)
  else (true,none):=by
 cases status:row.resolutionStatus <;> simp[Identities.of,Listing.bindings,relevant,found,status]

lemma bindings_of_none (found:l.db.alias? key=none):l.bindings.of key=(false,none):=by
 simp[Identities.of,Listing.bindings,found]

lemma hasKind_siren:hasKind "siren" "siren"=true:=by decide

lemma provenDigits_luhn {scheme:String}{all digits:List Char}
 (is:provenDigits scheme all=some digits):luhn digits=true:=by
 unfold provenDigits at is
 split at is
 · rename_i kind
   cases is
   exact (Bool.and_eq_true _ _ |>.mp kind).2
 · split at is
   · simp only[Option.ite_none_right_eq_some,Option.some.injEq,Bool.and_eq_true] at is
     exact is.2 ▸ is.1.2
   · cases is

lemma isSpace_of_isDigit {c:Char}(digit:c.isDigit=true):isSpace c=false:=by
 have low:48≤c.toNat:=by
  simp only[Char.isDigit,Bool.and_eq_true,decide_eq_true_eq] at digit
  exact digit.1
 have high:c.toNat≤57:=by
  simp only[Char.isDigit,Bool.and_eq_true,decide_eq_true_eq] at digit
  exact digit.2
 simp only[isSpace,Bool.or_eq_false_iff,Bool.and_eq_false_iff,decide_eq_false_iff_not,
  beq_eq_false_iff_ne]
 omega

lemma digitsOf_ofList {digits:List Char}(long:digits.length=9)
 (plain:digits.all Char.isDigit):digitsOf (String.ofList digits)=some digits:=by
 rw[List.all_eq_true] at plain
 unfold digitsOf
 rw[String.toList_ofList]
 rw[if_pos,List.filter_eq_self.mpr]
 · intro c mem
   rw[isSpace_of_isDigit (plain c mem)]
   rfl
 · rw[Bool.and_eq_true,List.all_eq_true]
   refine ⟨?_,fun c mem=>by rw[plain c mem];rfl⟩
   cases digits with
   | nil=>cases long
   | cons=>rfl

lemma exactFrenchSiren_again {identifiers:List Identifier}{country:Option String}
 (is:exactFrenchSiren identifiers country=some siren) :
 exactFrenchSiren [⟨"siren",some siren⟩] (some "FR")≠none:=by
 obtain ⟨identifier,mem,digits,proves,rfl⟩:=exactFrenchSiren_proof is
 obtain ⟨long,plain⟩:=sirenOf_digits proves
 obtain ⟨value,-,read⟩:=Option.bind_eq_some_iff.mp proves
 obtain ⟨all,-,proven⟩:=Option.bind_eq_some_iff.mp read
 have again:provenDigits "siren" digits=some digits:=by
  unfold provenDigits
  rw[if_pos]
  rw[hasKind_siren,long,provenDigits_luhn proven]
  rfl
 have single:sirenOf ⟨"siren",some (String.ofList digits)⟩=some digits:=by
  unfold sirenOf
  simp only[Option.bind_eq_bind,Option.bind_some,digitsOf_ofList long plain,again]
 unfold exactFrenchSiren
 rw[if_pos (Or.inr rfl),List.filterMap_cons,single]
 exact Option.some_ne_none _

variable {db:Db}{companies:List SaasCompany}

lemma registerProven_accounts (db:Db)(companies:List SaasCompany)(key:String) :
 (registerProven db companies key).accounts=db.accounts ∧
  (registerProven db companies key).overrides=db.overrides ∧
  (registerProven db companies key).privateRows=db.privateRows:=by
 unfold registerProven
 split
 · exact registerAlias_accounts db key _
 · exact ⟨rfl,rfl,rfl⟩

lemma registerProven_coherent (coherent:db.Coherent)(companies:List SaasCompany)
 (key:String):(registerProven db companies key).Coherent:=by
 unfold registerProven
 cases proven:provenSiren companies key with
 | none=>exact coherent
 | some siren =>
  obtain ⟨digits,own⟩:=provenSiren_registers proven
  exact coherent.register ⟨key,siren,digits,own⟩

lemma registerProven_kept (companies:List SaasCompany){row:AliasRow}
 (found:db.alias? key=some row) :
 ∃row',(registerProven db companies key).alias? key=some row' ∧
  row'.canonicalCompanyKey=row.canonicalCompanyKey ∧
  (row.resolutionStatus=.unresolved → row'.resolutionStatus=.unresolved):=by
 unfold registerProven
 split
 · rename_i siren _
   rcases registerAlias_kept found key siren with same|changed
   · exact ⟨row,same,rfl,id⟩
   · exact ⟨_,changed,(contradicted_canonical key siren row).1,contradicted_unresolved⟩
 · exact ⟨row,found,rfl,id⟩

lemma provenSiren_of_company (proves:l.companySiren key=some siren) :
 provenSiren l.companies key=some siren ∧ NineDigits siren ∧ key≠canonicalKey siren ∧
  exactFrenchSiren [⟨"siren",some siren⟩] (some "FR")≠none:=by
 obtain ⟨row,found,exact⟩:=Option.bind_eq_some_iff.mp proves
 have own:row.companyKey=key:=by simpa using List.find?_some found
 have digits:=exactFrenchSiren_digits exact
 refine ⟨?_,digits,own ▸ row.ne_canonicalKey digits,exactFrenchSiren_again exact⟩
 unfold provenSiren
 cases read:directorySiren key with
 | none=>exact proves
 | some other =>
  have is:=eq_of_directorySiren read
  rw[←own] at is
  simp only[directorySiren,Option.ite_none_right_eq_some,Option.some.injEq] at read
  exact absurd is (row.ne_canonicalKey (read.2 ▸ read.1.2))

lemma registerProven_of_company (proves:l.companySiren key=some siren) :
 registerProven l.db l.companies key=(registerAlias l.db key siren).1:=by
 unfold registerProven
 rw[(provenSiren_of_company proves).1]

lemma alias?_registerAlias_of_agree (valid:exactFrenchSiren [⟨"siren",some siren⟩] (some "FR")≠none)
 (agree:∀row,db.alias? key=some row → row.canonicalCompanyKey=canonicalKey siren)
 (k:String) :
 (registerAlias db key siren).1.alias? k=(db.alias? k).or (registered key siren k):=by
 rw[alias?_registerAlias valid]
 cases shown:(db.alias? k).or (registered key siren k) with
 | none=>rfl
 | some row =>
  rw[Option.map_some,contradicted,if_neg]
  rintro ⟨own,differs⟩
  rcases Option.or_eq_some_iff.mp shown with old|⟨-,new⟩
  · have same:k=key:=(find?_key old).2.symm.trans own
    exact differs (agree row (same ▸ old))
  · simp only[registered,Option.ite_none_right_eq_some,Option.some.injEq] at new
    exact differs (new.2 ▸ rfl)

lemma registerProven_of_none (proves:l.companySiren key=none) :
 registerProven l.db l.companies key=l.db ∨ ∃siren,NineDigits siren ∧ key=canonicalKey siren:=by
 unfold registerProven provenSiren
 cases read:directorySiren key with
 | none =>
  left
  unfold Listing.companySiren at proves
  rw[proves]
 | some siren =>
  right
  have is:=eq_of_directorySiren read
  simp only[directorySiren,Option.ite_none_right_eq_some,Option.some.injEq] at read
  exact ⟨siren,read.2 ▸ read.1.2,is⟩

section
variable (coherent:l.db.Coherent)(unique:(l.companies.map SaasCompany.companyKey).Nodup)
 (relevant:key∈l.relevantKeys)
include coherent unique relevant

omit coherent in
lemma quarantined_iff:l.identities.quarantined key=true ↔ l.Contradicted key:=by
 change (l.identities.of key).1=true ↔ _
 rw[identities_of unique relevant]
 unfold Listing.Contradicted
 cases found:l.db.alias? key with
 | none =>
  rw[bindings_of_none found]
  cases l.companySiren key <;> simp[settled]
 | some row =>
  rw[bindings_of relevant found]
  cases status:row.resolutionStatus with
  | unresolved=>cases l.companySiren key <;> simp[settled,status]
  | exact =>
   cases l.companySiren key with
   | none=>simp[settled,status]
   | some siren =>
    by_cases differs:row.canonicalCompanyKey=canonicalKey siren
    · simp[settled,status,differs]
    · simp[settled,status,differs,Ne.symm differs]

omit coherent in
lemma canonicalOf_of_quarantined (quarantined:l.identities.quarantined key=true) :
 l.canonicalOf key=key:=by
 have is:(l.identities.of key).1=true:=quarantined
 have canonical:l.canonicalOf key=((l.identities.of key).2).getD key:=rfl
 rw[canonical]
 rw[identities_of unique relevant] at is ⊢
 cases found:l.db.alias? key with
 | none =>
  rw[bindings_of_none found] at is
  cases proves:l.companySiren key <;> simp[settled,proves] at is
 | some row =>
  rw[bindings_of relevant found] at is ⊢
  cases status:row.resolutionStatus with
  | unresolved=>cases l.companySiren key <;> simp[settled]
  | exact =>
   cases proves:l.companySiren key with
   | none=>simp[settled,status,proves] at is
   | some siren =>
    by_cases differs:row.canonicalCompanyKey=canonicalKey siren
    · simp[settled,status,proves,differs] at is
    · simp[settled,differs]

omit coherent in
lemma quarantined_registered (quarantined:l.identities.quarantined key=true) :
 ∃row,(registerProven l.db l.companies key).alias? key=some row ∧
  row.resolutionStatus=.unresolved:=by
 have is:(settled (l.companySiren key) (l.bindings.of key)).1=true:=by
  rw[←identities_of unique relevant]
  exact quarantined
 cases found:l.db.alias? key with
 | none =>
  rw[bindings_of_none found] at is
  unfold settled at is
  split at is <;> cases is
 | some row =>
  by_cases exact:row.resolutionStatus=.exact
  · rw[bindings_of relevant found,if_pos exact] at is
    cases proves:l.companySiren key with
    | none=>rw[proves] at is;cases is
    | some siren =>
     have differs:row.canonicalCompanyKey≠canonicalKey siren:=by
      intro same
      simp[settled,proves,same] at is
     obtain ⟨-,-,-,valid⟩:=provenSiren_of_company proves
     rw[registerProven_of_company proves,alias?_registerAlias valid,found]
     refine ⟨_,rfl,?_⟩
     rw[contradicted,if_pos ⟨(find?_key found).2,differs⟩]
     rfl
  · have unresolved:row.resolutionStatus=.unresolved:=by
     cases status:row.resolutionStatus with
     | exact=>exact absurd status exact
     | unresolved=>rfl
    obtain ⟨row',there,-,stays⟩:=registerProven_kept l.companies found
    exact ⟨row',there,stays unresolved⟩

omit coherent in
lemma canonicalOf_of_none (found:l.db.alias? key=none) :
 l.canonicalOf key=((l.companySiren key).map canonicalKey).getD key:=by
 have known:=identities_of unique relevant
 rw[bindings_of_none found] at known
 have canonical:l.canonicalOf key =((settled (l.companySiren key) (false,none)).2).getD key:=by
  rw[←known]
  rfl
 rw[canonical]
 cases l.companySiren key <;> rfl

omit coherent in
lemma canonicalOf_of_some (clear:l.identities.quarantined key=false){row:AliasRow}
 (found:l.db.alias? key=some row) :
 row.resolutionStatus=.exact ∧ l.canonicalOf key=row.canonicalCompanyKey ∧
  ∀siren,l.companySiren key=some siren → row.canonicalCompanyKey=canonicalKey siren:=by
 have known:=identities_of unique relevant
 have canonical:l.canonicalOf key=((l.identities.of key).2).getD key:=rfl
 have unquarantined:(l.identities.of key).1=false:=clear
 rw[known,bindings_of relevant found] at canonical unquarantined
 by_cases exact:row.resolutionStatus=.exact
 · rw[if_pos exact] at canonical unquarantined
   cases proves:l.companySiren key with
   | none =>
    rw[proves] at canonical
    exact ⟨exact,canonical,fun _ other=>by cases other⟩
   | some siren =>
    rw[proves] at canonical unquarantined
    have agree:row.canonicalCompanyKey=canonicalKey siren:=by
     by_contra differs
     simp[settled,differs] at unquarantined
    refine ⟨exact,by simpa[settled,agree] using canonical,fun other same=>?_⟩
    cases same
    exact agree
 · rw[if_neg exact] at unquarantined
   unfold settled at unquarantined
   split at unquarantined <;> cases unquarantined

omit coherent in
lemma canonicalOf_of_leads (clear:l.identities.quarantined key=false)
 (leads:l.LeadsTo key canonical):l.canonicalOf key=canonical:=by
 rcases leads with ⟨row,found,of⟩|⟨found,proves⟩
 · rw[(canonicalOf_of_some unique relevant clear found).2.1,of]
 · rw[canonicalOf_of_none unique relevant found,proves,Option.getD_some]

omit coherent in
lemma leads_canonicalOf (clear:l.identities.quarantined key=false)
 (other:l.canonicalOf key≠key):l.LeadsTo key (l.canonicalOf key):=by
 cases found:l.db.alias? key with
 | some row=>exact .inl ⟨row,found,(canonicalOf_of_some unique relevant clear found).2.1.symm⟩
 | none =>
  have is:=canonicalOf_of_none unique relevant found
  cases proves:l.companySiren key with
  | none =>
   rw[proves] at is
   exact absurd is other
  | some siren =>
   rw[proves] at is
   exact .inr ⟨found,by rw[proves,is];rfl⟩

lemma registered_alias? (clear:l.identities.quarantined key=false) (other:l.canonicalOf key≠key) :
 ∃siren,l.canonicalOf key=canonicalKey siren ∧ NineDigits siren ∧
  (∀row,l.db.alias? key=some row → row.resolutionStatus=.exact ∧
   row.canonicalCompanyKey=l.canonicalOf key) ∧
  ∀k,(registerProven l.db l.companies key).alias? k =(l.db.alias? k).or (registered key siren k):=by
 cases found:l.db.alias? key with
 | none =>
  have canonical:=canonicalOf_of_none unique relevant found
  cases proves:l.companySiren key with
  | none =>
   rw[proves] at canonical
   exact absurd canonical other
  | some siren =>
   rw[proves] at canonical
   obtain ⟨-,digits,-,valid⟩:=provenSiren_of_company proves
   refine ⟨siren,canonical,digits,fun row there=>(by cases there),fun k=>?_⟩
   rw[registerProven_of_company proves]
   refine alias?_registerAlias_of_agree valid (fun row there=>?_) k
   rw[found] at there
   cases there
 | some row =>
  obtain ⟨exact,canonical,agree⟩:=canonicalOf_of_some unique relevant clear found
  obtain ⟨digits,named,directory⟩:=coherent.proven key row found
  have old:∀row',some row=some row' → row'.resolutionStatus=.exact ∧
    row'.canonicalCompanyKey=l.canonicalOf key:=by
   intro row' there
   cases there
   exact ⟨exact,canonical.symm⟩
  cases proves:l.companySiren key with
  | none =>
   refine ⟨row.identifierValue,canonical.trans named,digits,old,fun k=>?_⟩
   rcases registerProven_of_none proves with same|⟨siren,digits,is⟩
   · rw[same]
     cases before:l.db.alias? k with
     | some _=>rfl
     | none =>
      rw[Option.none_or,registered,if_neg]
      rintro (rfl|rfl)
      · rw[found] at before
        cases before
      · rw[←named,directory] at before
        cases before
   · have own:=coherent.directory siren digits row (is ▸ found)
     rw[canonical,own,is] at other
     exact absurd rfl other
  | some siren =>
   obtain ⟨-,digits,-,valid⟩:=provenSiren_of_company proves
   refine ⟨siren,canonical.trans (agree siren proves),digits,old,fun k=>?_⟩
   rw[registerProven_of_company proves]
   refine alias?_registerAlias_of_agree valid (fun row' there=>?_) k
   rw[found] at there
   cases there
   exact agree siren proves

lemma canonical_registered (clear:l.identities.quarantined key=false)
 (other:l.canonicalOf key≠key) :
 (∃row,(registerProven l.db l.companies key).alias? key=some row ∧
  row.resolutionStatus=.exact ∧ row.canonicalCompanyKey=l.canonicalOf key) ∧
 ∀k,k∈(registerProven l.db l.companies key).group (l.canonicalOf key) ↔
  k=l.canonicalOf key ∨ k=key ∨ k∈l.db.group (l.canonicalOf key):=by
 obtain ⟨siren,named,digits,old,shown⟩:=registered_alias? coherent unique relevant clear other
 have keyed:=(registerProven_coherent coherent l.companies key).keyed
 have own:∃row,(registerProven l.db l.companies key).alias? key=some row ∧
   row.resolutionStatus=.exact ∧ row.canonicalCompanyKey=l.canonicalOf key:=by
  rw[shown]
  cases found:l.db.alias? key with
  | some row=>exact ⟨row,rfl,old row found⟩
  | none=>exact ⟨_,by rw[Option.none_or,registered,if_pos (.inl rfl)],rfl,named.symm⟩
 refine ⟨own,fun k=>?_⟩
 rw[mem_group keyed,mem_group coherent.keyed]
 constructor
 · rintro ⟨row,found,of,exact⟩
   rw[shown] at found
   rcases Option.or_eq_some_iff.mp found with there|⟨-,new⟩
   · exact .inr (.inr ⟨row,there,of,exact⟩)
   · simp only[registered,Option.ite_none_right_eq_some] at new
     rw[named]
     tauto
 · rintro (rfl|rfl|⟨row,there,of,exact⟩)
   · rw[shown,named]
     cases found:l.db.alias? (canonicalKey siren) with
     | some row =>
      obtain rfl:=coherent.directory siren digits row found
      exact ⟨_,rfl,rfl,rfl⟩
     | none=>exact ⟨_,by rw[Option.none_or,registered,if_pos (.inr rfl)],rfl,rfl⟩
   · obtain ⟨row,found,exact,of⟩:=own
     exact ⟨row,found,of,exact⟩
   · exact ⟨row,by rw[shown,there];rfl,of,exact⟩

lemma subject_itself (clear:l.identities.quarantined key=false)
 (itself:l.canonicalOf key=key):l.subject key=key:=by
 unfold Listing.subject Listing.override?
 rw[clear,itself]
 cases decided:l.db.override? l.accountId key with
 | none=>simp
 | some o =>
  obtain ⟨row,found,subject⟩:=coherent.decided _ _ _ decided
  rw[←(canonicalOf_of_some unique relevant clear found).2.1,itself,or_self] at subject
  exact subject

lemma own_subject (clear:l.identities.quarantined key=false)
 (itself:l.canonicalOf key=key){db':Db}{subject:CompanySubject}
 (resolution:Resolved (registerProven l.db l.companies key) l.accountId key db' subject) :
 subject.privateSubjectKey=key:=by
 have coherent':=registerProven_coherent coherent l.companies key
 rcases resolution.subject_cases coherent' with own|⟨row,there,-,is⟩
 · exact own
 rw[is]
 cases found:l.db.alias? key with
 | some before =>
  obtain ⟨row',there',same,-⟩:=registerProven_kept l.companies found
  obtain rfl:row=row':=Option.mem_unique there there'
  rw[same,←(canonicalOf_of_some unique relevant clear found).2.1,itself]
 | none =>
  have canonical:=canonicalOf_of_none unique relevant found
  cases proves:l.companySiren key with
  | some siren =>
   rw[itself,proves] at canonical
   exact absurd canonical (provenSiren_of_company proves).2.2.1
  | none =>
   rcases registerProven_of_none proves with same|⟨siren,digits,own⟩
   · rw[same,found] at there
     cases there
   · rw[own] at there ⊢
     rw[coherent'.directory siren digits row (own ▸ there)]
     rfl

lemma subject_cases:l.subject key=key ∨
 l.identities.quarantined key=false ∧ l.subject key=l.canonicalOf key:=by
 cases clear:l.identities.quarantined key with
 | true=>exact .inl (if_pos clear)
 | false =>
  unfold Listing.subject Listing.override?
  rw[clear]
  cases decided:l.db.override? l.accountId key with
  | none=>cases l.conflicts (l.canonicalOf key) <;> simp
  | some o =>
   obtain ⟨row,found,subject⟩:=coherent.decided _ _ _ decided
   rw[←(canonicalOf_of_some unique relevant clear found).2.1] at subject
   exact subject.imp id fun is=>⟨rfl,is⟩

/-- A canonical key leads nowhere else. -/
lemma canonicalOf_again (clear:l.identities.quarantined key=false)
 (there:l.canonicalOf key∈l.relevantKeys) :
 l.canonicalOf (l.canonicalOf key)=l.canonicalOf key ∧
  l.identities.quarantined (l.canonicalOf key)=false:=by
 by_cases itself:l.canonicalOf key=key
 · rw[itself]
   exact ⟨itself,clear⟩
 obtain ⟨siren,named,digits,-⟩:=registered_alias? coherent unique relevant clear itself
 have unproven:l.companySiren (canonicalKey siren)=none:=by
  cases proves:l.companySiren (canonicalKey siren) with
  | none=>rfl
  | some other =>
   obtain ⟨row,found,-⟩:=Option.bind_eq_some_iff.mp proves
   have own:row.companyKey=canonicalKey siren:=by simpa using List.find?_some found
   exact absurd own (row.ne_canonicalKey digits)
 rw[named] at there ⊢
 have good:l.identities.quarantined (canonicalKey siren)=false:=by
  rw[←Bool.not_eq_true,quarantined_iff unique there]
  rintro ⟨row,found,unresolved|⟨other,proves,-⟩⟩
  · rw[coherent.directory siren digits row found] at unresolved
    cases unresolved
  · rw[unproven] at proves
    cases proves
 refine ⟨?_,good⟩
 cases found:l.db.alias? (canonicalKey siren) with
 | none=>rw[canonicalOf_of_none unique there found,unproven];rfl
 | some row =>
  rw[(canonicalOf_of_some unique there good found).2.1,coherent.directory siren digits row found]
  rfl

lemma subject_again (there:l.subject key∈l.relevantKeys) :
 l.subject (l.subject key)=l.subject key:=by
 rcases subject_cases coherent unique relevant with own|⟨clear,is⟩
 · rw[own,own]
 · rw[is] at there ⊢
   obtain ⟨again,good⟩:=canonicalOf_again coherent unique relevant clear there
   exact subject_itself coherent unique there good again

lemma conflicting_registered (clear:l.identities.quarantined key=false)
 (other:l.canonicalOf key≠key)(undecided:l.Undecided key) :
 (registerProven l.db l.companies key).conflicting l.accountId (l.canonicalOf key)=true ↔
  l.db.Disagree l.accountId fun k=>
   l.Common key (l.canonicalOf key) k ∨ l.OnlyResolved (l.canonicalOf key) k:=by
 obtain ⟨-,group⟩:=canonical_registered coherent unique relevant clear other
 obtain ⟨-,overrides,rows⟩:=registerProven_accounts l.db l.companies key
 have decided:∀k,(registerProven l.db l.companies key).override? l.accountId k =
   l.db.override? l.accountId k:=fun k=>by unfold Db.override?;rw[overrides]
 rw[conflicting_iff_disagree]
 unfold Db.Disagree
 rw[rows]
 have same:∀k,k∈(registerProven l.db l.companies key).candidateKeys l.accountId
   (l.canonicalOf key) ↔ l.Common key (l.canonicalOf key) k ∨
    l.OnlyResolved (l.canonicalOf key) k:=by
  intro k
  have registered:k∈l.db.group (l.canonicalOf key) ↔ l.Registered (l.canonicalOf key) k:=by
   rw[mem_group coherent.keyed]
   exact exists_congr fun row=>and_congr_right fun _=>and_comm
  unfold Db.candidateKeys Listing.Common Listing.OnlyResolved
  rw[List.mem_filter,group,registered,decided,Bool.or_eq_true,beq_iff_eq,Option.isNone_iff_eq_none]
  change _ ∧ (l.Undecided k ∨ _) ↔ _
  by_cases own:k=key
  · subst own
    tauto
  · tauto
 simp only[same]

lemma counts_iff (clear:l.identities.quarantined key=false)(other:l.canonicalOf key≠key)
 (undecided:l.Undecided key){k:String}(there:k∈l.relevantKeys) :
 l.counts (l.canonicalOf key) k=true ↔
  l.Common key (l.canonicalOf key) k ∨ l.OnlyListed key (l.canonicalOf key) k:=by
 by_cases first:k=l.canonicalOf key
 · subst first
   obtain ⟨again,good⟩:=canonicalOf_again coherent unique relevant clear there
   have own:=subject_itself coherent unique there good again
   refine iff_of_true ?_ (.inl (.inl rfl))
   simp only[Listing.counts,again,beq_self_eq_true,Bool.and_true]
   unfold Listing.subject at own
   rw[good,again] at own
   cases decided:l.override? (l.canonicalOf key) with
   | none=>rfl
   | some o=>rw[decided] at own;simpa using own
 by_cases second:k=key
 · subst second
   refine iff_of_true ?_ (.inl (.inr (.inl rfl)))
   have none:l.db.override? l.accountId k=none:=undecided
   simp[Listing.counts,Listing.override?,none]
 cases quarantined:l.identities.quarantined k with
 | true =>
  have bad:=(quarantined_iff unique there).mp quarantined
  have itself:=canonicalOf_of_quarantined unique there quarantined
  refine iff_of_false ?_ ?_
  · simp[Listing.counts,itself,first]
  · rintro ((is|is|is)|⟨-,is|⟨none,-⟩⟩)
    · exact first is
    · exact second is
    · exact is.2.1 bad
    · exact is.2.1 bad
    · obtain ⟨row,found,-⟩:=bad
      rw[none] at found
      cases found
 | false =>
  have good:¬l.Contradicted k:=fun bad=>by
   rw[(quarantined_iff unique there).mpr bad] at quarantined
   cases quarantined
  have leads:l.canonicalOf k=l.canonicalOf key ↔ l.LeadsTo k (l.canonicalOf key):=by
   refine ⟨fun same=>?_,canonicalOf_of_leads unique there quarantined⟩
   rw[←same]
   exact leads_canonicalOf unique there quarantined fun itself=>first (itself.symm.trans same)
  have registered:∀row,l.db.alias? k=some row → row.resolutionStatus=.exact:=
   fun row found=>(canonicalOf_of_some unique there quarantined found).1
  have kept:(!(l.override? k).any (· != k))=true ↔
    l.Undecided k ∨ ∃o,l.db.override? l.accountId k=some o ∧ o.privateSubjectKey=k:=by
   unfold Listing.override? Listing.Undecided
   rw[quarantined]
   cases l.db.override? l.accountId k <;> simp
  unfold Listing.counts
  rw[Bool.and_eq_true,kept,beq_iff_eq,leads]
  unfold Listing.LeadsTo Listing.Common Listing.OnlyListed Listing.Registered
  constructor
  · rintro ⟨open_,⟨row,found,of⟩|unregistered⟩
    · have is:=registered row found
      rcases open_ with open_|isolated
      · exact .inl (.inr (.inr ⟨⟨row,found,is,of⟩,good,open_⟩))
      · exact .inr ⟨second,.inl ⟨⟨row,found,is,of⟩,good,isolated⟩⟩
    · exact .inr ⟨second,.inr unregistered⟩
  · rintro ((is|is|⟨⟨row,found,-,of⟩,-,open_⟩) | ⟨-,⟨⟨row,found,-,of⟩,-,isolated⟩ | ⟨none,proves⟩⟩)
    · exact absurd is first
    · exact absurd is second
    · exact ⟨.inl open_,.inl ⟨row,found,of⟩⟩
    · exact ⟨.inr isolated,.inl ⟨row,found,of⟩⟩
    · refine ⟨.inl ?_,.inr ⟨none,proves⟩⟩
      cases decided:l.db.override? l.accountId k with
      | none=>exact decided
      | some o =>
       obtain ⟨row,found,-⟩:=coherent.decided _ _ _ decided
       rw[none] at found
       cases found

end

/-- Two rows of one company do not exist, so its own row comes last. -/
lemma contacts_own (keys:((l.db.privateRows .companyContact).map PrivateRow.key).Nodup)
 {stored:PrivateRow ContactValues}
 (found:l.db.private? .companyContact l.accountId key=some stored)
 (itself:l.subject key=key):l.contacts key=some stored.values:=by
 obtain ⟨mem,own⟩:=find?_key found
 obtain ⟨ofAccount,ofKey⟩:=Prod.mk.inj own
 have trans:∀a b c,l.contactOrder a b→l.contactOrder b c→l.contactOrder a c:=by
  intro a b c
  unfold Listing.contactOrder
  cases l.subject a.companyKey==a.companyKey <;> cases l.subject b.companyKey==b.companyKey <;>
   cases l.subject c.companyKey==c.companyKey <;> simp <;> exact String.le_trans
 have total:∀a b,(l.contactOrder a b||l.contactOrder b a)=true:=by
  intro a b
  unfold Listing.contactOrder
  cases l.subject a.companyKey==a.companyKey <;>
   cases l.subject b.companyKey==b.companyKey <;> simp[String.le_total]
 have sorted:=List.pairwise_mergeSort trans total (l.rowsOf .companyContact)
 unfold Listing.contacts
 generalize grouped:((l.rowsOf .companyContact).mergeSort l.contactOrder).filter
  (fun row=>l.subject row.companyKey==key)=rows
 have there:stored∈rows:=by
  rw[←grouped]
  refine List.mem_filter.mpr ⟨List.mem_mergeSort.mpr ?_,by rw[ofKey,itself];exact beq_self_eq_true _⟩
  exact List.mem_filter.mpr ⟨mem,beq_iff_eq.mpr ofAccount⟩
 have sorted':rows.Pairwise fun a b=>l.contactOrder a b=true:=grouped ▸ sorted.filter _
 obtain rfl|⟨before,last,rfl⟩:=List.eq_nil_or_concat' rows
 · cases there
 have same:last=stored:=by
  rcases List.mem_append.mp there with earlier|here
  · have order:=(List.pairwise_append.mp sorted').2.2 stored earlier last (List.mem_singleton_self _)
    have mem':last∈before++[last]:=List.mem_append_right _ (List.mem_singleton_self _)
    rw[←grouped] at mem'
    obtain ⟨there',groups⟩:=List.mem_filter.mp mem'
    obtain ⟨there',own'⟩:=List.mem_filter.mp (List.mem_mergeSort.mp there')
    rw[beq_iff_eq] at groups own'
    unfold Listing.contactOrder at order
    rw[ofKey,itself,groups,beq_self_eq_true] at order
    have ofKey':last.companyKey=key:=by
     by_contra other
     rw[beq_eq_false_iff_ne.mpr (Ne.symm other)] at order
     cases order
    exact List.inj_on_of_nodup_map keys there' mem (own.trans (by rw[←own',←ofKey'];rfl)).symm
  · exact (List.mem_singleton.mp here).symm
 rw[List.getLast?_concat,same]
 rfl

lemma mem_rows {row:CompanyRow}(mem:row∈l.rows):row.companyKey∈l.subjects ∧
 row.signals=(l.signals.filter fun signal=>l.subject signal.2==row.companyKey) ∧
 row.contactStatus=((l.contacts row.companyKey).map ContactValues.status).getD .toContact ∧
 row.contactedAt=(l.contacts row.companyKey).bind ContactValues.contactedAt ∧
 row.tracked=l.memberships.contains row.companyKey:=by
 obtain ⟨subject,there,rfl⟩:=List.mem_map.mp mem
 exact ⟨(List.mem_filter.mp there).1,rfl,rfl,rfl,rfl⟩

lemma carries (coherent:l.db.Coherent)(unique:(l.companies.map SaasCompany.companyKey).Nodup)
 (relevant:key∈l.relevantKeys)
 (keys:((l.db.privateRows .companyContact).map PrivateRow.key).Nodup){db':Db}
 {subject:CompanySubject}
 (resolution:Resolved (registerProven l.db l.companies key) l.accountId key db' subject) :
 l.Carries db' key (l.subject key):=by
 obtain ⟨-,-,rows⟩:=registerProven_accounts l.db l.companies key
 have stays:∀ {t}{stored:PrivateRow t.Values},
   l.db.private? t l.accountId (l.subject key)=some stored →
   l.subject (l.subject key)=l.subject key ∧ l.subject key∈l.keysOf t ∧
    db'.private? t l.accountId (l.subject key)=some stored:=by
  intro t stored found
  obtain ⟨mem,own⟩:=find?_key found
  obtain ⟨ofAccount,ofKey⟩:=Prod.mk.inj own
  have there:l.subject key∈l.keysOf t:=
   List.mem_map.mpr ⟨stored,List.mem_filter.mpr ⟨mem,beq_iff_eq.mpr ofAccount⟩,ofKey⟩
  have looked:l.subject key∈l.relevantKeys:=by
   unfold Listing.relevantKeys
   cases t <;> simp[there]
  refine ⟨subject_again coherent unique relevant looked,there,resolution.stored ?_⟩
  unfold Db.private? at found ⊢
  rw[rows]
  exact found
 refine ⟨?_,fun row mem signal there own=>?_,fun stored found=>?_,fun stored found=>?_,
  fun known named=>?_⟩
 · have same:l.rows.map CompanyRow.companyKey=l.subjects.filter l.named:=by
    rw[Listing.rows,List.map_map]
    exact List.map_id _
   rw[same]
   exact (eraseDups_nodup _).filter _
 · rw[(mem_rows mem).2.1,List.mem_filter,own,beq_iff_eq,eq_comm]
   exact and_iff_right there
 · obtain ⟨again,-,read⟩:=stays found
   refine ⟨read,fun row mem is=>?_⟩
   obtain ⟨-,-,status,contacted,-⟩:=mem_rows mem
   rw[status,contacted,is,contacts_own keys found again]
   exact ⟨rfl,rfl⟩
 · obtain ⟨again,there,read⟩:=stays found
   refine ⟨read,fun row mem is=>?_⟩
   rw[(mem_rows mem).2.2.2.2,is,List.contains_iff_mem]
   exact List.mem_map.mpr ⟨_,there,again⟩
 · refine ⟨_,List.mem_map_of_mem (List.mem_filter.mpr ⟨List.mem_eraseDups.mpr ?_,named⟩),rfl⟩
   rcases known with signal|⟨stored,found⟩
   · exact List.mem_append_left _ (List.mem_map_of_mem signal)
   · obtain ⟨again,there,-⟩:=stays found
     exact List.mem_append_right _ (List.mem_map.mpr ⟨_,there,again⟩)

def thirdKey:String:="cmp_cccccccccccccccccccccccccccccccc"

lemma firstKey_generated:firstKey.toList.length=36:=by decide +kernel

lemma secondKey_generated:secondKey.toList.length=36:=by decide +kernel

lemma thirdKey_generated:thirdKey.toList.length=36:=by decide +kernel

/-- The notes under the first two keys differ, and the account has resolved them. A
signal shows the company under a third key. -/
def isolatedListing:Listing where
 db:=[Op.register (sampleRegistration firstKey firstKey_generated),
  .register (sampleRegistration secondKey secondKey_generated),
  .resolve "account_a" firstKey].foldl step sampleDb
 companies:=[sampleCompany firstKey firstKey_generated,sampleCompany secondKey secondKey_generated,
  sampleCompany thirdKey thirdKey_generated]
 accountId:="account_a"
 signals:=[("award-1",firstKey),("award-2",thirdKey)]
 directory:=["331364729"]

end
end Kivou.CompanyIdentity
