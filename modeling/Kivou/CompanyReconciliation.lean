import Kivou.CompanyAliases
import Mathlib.Data.Finset.Card

set_option autoImplicit false

/-! What a registration and a resolution write. The values of an account stay readable through each
of its aliases: they are copied where they agree, and the aliases are kept apart where they do not.
-/
namespace Kivou.CompanyIdentity
open Tables

section
variable {db db':Db}{accountId account' key x siren canonical:String}{t:PrivateTable}

/-- A proof given to `register_alias`: a directory key only with its own SIREN. -/
structure Registration where
 (companyKey siren:String)
 digits:NineDigits siren
 own:∀s,NineDigits s→companyKey=canonicalKey s→s=siren

variable {digits:List Char}{row:AliasRow}

lemma digitsOf_digits {value:String}(is:digitsOf value=some digits) : digits.all Char.isDigit:=by
 simp only[digitsOf,Option.ite_none_right_eq_some,Bool.and_eq_true,List.all_eq_true,
  Bool.or_eq_true,Option.some.injEq] at is
 obtain ⟨⟨-,each⟩,rfl⟩:=is
 simp only[List.all_eq_true,List.mem_filter,Bool.not_eq_true',and_imp]
 intro c mem space
 rcases each c mem with digit|blank
 · exact digit
 · rw[space] at blank
   cases blank

lemma provenDigits_digits {scheme:String}{all:List Char}
 (plain:all.all Char.isDigit)(is:provenDigits scheme all=some digits) :
 digits.length=9 ∧ digits.all Char.isDigit:=by
 unfold provenDigits at is
 split at is
 · rename_i kind
   simp only[Bool.and_eq_true,beq_iff_eq] at kind
   cases is
   exact ⟨kind.1.2,plain⟩
 · split at is
   · rename_i kind
     simp only[Bool.and_eq_true,beq_iff_eq] at kind
     simp only[Option.ite_none_right_eq_some,Option.some.injEq] at is
     rw[←is.2]
     constructor
     · rw[List.length_take,kind.2]
       rfl
     · rw[List.all_eq_true] at plain ⊢
       exact fun c mem=>plain c (List.mem_of_mem_take mem)
   · cases is

lemma sirenOf_digits {identifier:Identifier}
 (is:sirenOf identifier=some digits):digits.length=9 ∧ digits.all Char.isDigit:=by
 obtain ⟨value,-,read⟩:=Option.bind_eq_some_iff.mp is
 obtain ⟨all,found,proven⟩:=Option.bind_eq_some_iff.mp read
 exact provenDigits_digits (digitsOf_digits found) proven

lemma exactFrenchSiren_proof {identifiers:List Identifier}{country:Option String}
 (is:exactFrenchSiren identifiers country=some siren) :
 ∃identifier∈identifiers,∃digits,sirenOf identifier=some digits ∧ siren=String.ofList digits:=by
 unfold exactFrenchSiren at is
 split at is
 · split at is
   · rename_i digits only
     cases is
     have mem:digits∈identifiers.filterMap sirenOf:=by
      rw[←List.mem_eraseDups,only]
      exact List.mem_singleton_self _
     obtain ⟨identifier,mem,proves⟩:=List.mem_filterMap.mp mem
     exact ⟨identifier,mem,digits,proves,rfl⟩
   · cases is
 · cases is

lemma exactFrenchSiren_digits {identifiers:List Identifier}{country:Option String}
 (is:exactFrenchSiren identifiers country=some siren):NineDigits siren:=by
 obtain ⟨identifier,-,digits,proves,rfl⟩:=exactFrenchSiren_proof is
 unfold NineDigits
 rw[String.toList_ofList]
 exact sirenOf_digits proves

/-- `resolve_company_subject` registers such proofs only. -/
lemma provenSiren_registers {companies:List SaasCompany}
 (proven:provenSiren companies key=some siren) :
 NineDigits siren ∧ ∀s,NineDigits s→key=canonicalKey s→s=siren:=by
 unfold provenSiren at proven
 cases read:directorySiren key with
 | some own =>
  rw[read] at proven
  cases proven
  have is:=eq_of_directorySiren read
  constructor
  · simp only[directorySiren,Option.ite_none_right_eq_some,Option.some.injEq] at read
    rw[←read.2]
    exact read.1.2
  · intro s _ same
    exact canonicalKey_inj (same.symm.trans is)
 | none =>
  rw[read] at proven
  obtain ⟨row,-,exact⟩:=Option.bind_eq_some_iff.mp proven
  refine ⟨exactFrenchSiren_digits exact,fun s digits same=>?_⟩
  rw[same,directorySiren_canonicalKey digits] at read
  cases read

/-- So do `register_known_aliases` and the audit of the registry, row by row. -/
def SaasCompany.registration (row:SaasCompany)(proven:row.siren=some siren):Registration:=
 ⟨row.companyKey,siren,exactFrenchSiren_digits proven,
  fun _ digits same=>absurd same (row.ne_canonicalKey digits)⟩

def registered (companyKey siren key:String):Option AliasRow:=
 if key=companyKey ∨ key=canonicalKey siren then some ⟨key,canonicalKey siren,siren,.exact⟩
 else none

def contradicted (companyKey siren:String)(row:AliasRow):AliasRow:=
 if row.key=companyKey ∧ row.canonicalCompanyKey≠canonicalKey siren then row.quarantined
 else row

lemma find?_inserted (companyKey k:String) :
 (db.inserted companyKey siren).find? (fun row=>row.key==k) =
  (db.alias? k).or (registered companyKey siren k):=by
 simp only[Db.inserted,List.foldl_cons,List.foldl_nil,find?_insertIfAbsent,Option.or_assoc]
 congr 1
 change (if k=companyKey then _ else _:Option AliasRow).or (if k=canonicalKey siren then _ else _)=_
 unfold registered
 by_cases first:k=companyKey
 · simp[first]
 · by_cases second:k=canonicalKey siren
   · rw[if_neg first,if_pos second,if_pos (.inr second),second]
     rfl
   · simp[first,second]

lemma alias?_registerAlias (valid:exactFrenchSiren [⟨"siren",some siren⟩] (some "FR")≠none)
 (companyKey k:String) :
 (registerAlias db companyKey siren).1.alias? k =
  ((db.alias? k).or (registered companyKey siren k)).map (contradicted companyKey siren):=by
 have own:∀ {j row},(db.alias? j).or (registered companyKey siren j)=some row → row.key=j:=by
  intro j row found
  rcases Option.or_eq_some_iff.mp found with old|⟨-,new⟩
  · exact (find?_key old).2
  · simp only[registered,Option.ite_none_right_eq_some,Option.some.injEq] at new
    rw[←new.2]
    rfl
 have others:∀ {row},(db.alias? k).or (registered companyKey siren k)=some row →
   k≠companyKey→contradicted companyKey siren row=row:=by
  intro row found other
  rw[contradicted,if_neg]
  rw[own found]
  exact fun both=>other both.1
 unfold registerAlias
 rw[if_neg valid]
 dsimp only
 rw[find?_inserted]
 cases bound:(db.alias? companyKey).or (registered companyKey siren companyKey) with
 | none=>simp[registered] at bound
 | some binding =>
  dsimp only
  split
  · rename_i differs
    have kept:∀row,AliasRow.key (AliasRow.quarantined row)=AliasRow.key row:=fun _=>rfl
    change (update (fun row=>AliasRow.key row==companyKey) AliasRow.quarantined _).find? _=_
    rw[find?_update kept,find?_inserted,find?_inserted]
    by_cases same:k=companyKey
    · rw[if_pos same,same,bound,Option.map_some,Option.map_some,contradicted,
       if_pos ⟨own bound,differs⟩]
    · rw[if_neg same]
      cases found:(db.alias? k).or (registered companyKey siren k) with
      | none=>rfl
      | some row=>rw[Option.map_some,others found same]
  · rename_i agrees
    rw[not_not] at agrees
    change (db.inserted companyKey siren).find? (fun row=>row.key==k)=_
    rw[find?_inserted]
    cases found:(db.alias? k).or (registered companyKey siren k) with
    | none=>rfl
    | some row =>
     rw[Option.map_some]
     by_cases same:k=companyKey
     · rw[same,bound] at found
       cases found
       rw[contradicted,if_neg fun both=>both.2 agrees]
     · rw[others found same]

lemma registerAlias_invalid (invalid:exactFrenchSiren [⟨"siren",some siren⟩] (some "FR")=none)
 (companyKey:String):registerAlias db companyKey siren=(db,companyKey):=if_pos invalid

lemma registerAlias_accounts (db:Db)(companyKey siren:String) :
 (registerAlias db companyKey siren).1.accounts=db.accounts ∧
  (registerAlias db companyKey siren).1.overrides=db.overrides ∧
  (registerAlias db companyKey siren).1.privateRows=db.privateRows:=by
 unfold registerAlias
 split
 · exact ⟨rfl,rfl,rfl⟩
 · dsimp only
   split
   · exact ⟨rfl,rfl,rfl⟩
   · split <;> exact ⟨rfl,rfl,rfl⟩

lemma contradicted_canonical (companyKey siren:String)(row:AliasRow) :
 (contradicted companyKey siren row).canonicalCompanyKey=row.canonicalCompanyKey ∧
  (contradicted companyKey siren row).identifierValue=row.identifierValue:=by
 unfold contradicted
 split <;> exact ⟨rfl,rfl⟩

lemma contradicted_unresolved {companyKey:String} (already:row.resolutionStatus=.unresolved) :
 (contradicted companyKey siren row).resolutionStatus=.unresolved:=by
 unfold contradicted
 split
 · rfl
 · exact already

lemma registerAlias_kept (found:db.alias? key=some row) (companyKey siren:String) :
 (registerAlias db companyKey siren).1.alias? key=some row ∨
  (registerAlias db companyKey siren).1.alias? key =
   some (contradicted companyKey siren row):=by
 by_cases valid:exactFrenchSiren [⟨"siren",some siren⟩] (some "FR")=none
 · left
   rw[registerAlias_invalid valid,found]
 · right
   rw[alias?_registerAlias valid,found]
   rfl

lemma registerAlias_row (valid:exactFrenchSiren [⟨"siren",some siren⟩] (some "FR")≠none)
 {companyKey k:String}
 (found:(registerAlias db companyKey siren).1.alias? k=some row) :
 (∃before,db.alias? k=some before ∧ row=contradicted companyKey siren before) ∨
  (k=companyKey ∨ k=canonicalKey siren) ∧
   row=contradicted companyKey siren ⟨k,canonicalKey siren,siren,.exact⟩:=by
 rw[alias?_registerAlias valid,Option.map_eq_some_iff] at found
 obtain ⟨before,source,rfl⟩:=found
 rcases Option.or_eq_some_iff.mp source with old|⟨-,new⟩
 · exact .inl ⟨before,old,rfl⟩
 · simp only[registered,Option.ite_none_right_eq_some,Option.some.injEq] at new
   exact .inr ⟨new.1,by rw[new.2]⟩

def directoryRow (siren:String):AliasRow:=⟨canonicalKey siren,canonicalKey siren,siren,.exact⟩

structure Db.Coherent (db:Db):Prop where
 keyed:(db.aliases.map AliasRow.key).Nodup
 proven:∀k row,db.alias? k=some row →
  NineDigits row.identifierValue ∧ row.canonicalCompanyKey=canonicalKey row.identifierValue ∧
   db.alias? row.canonicalCompanyKey=some (directoryRow row.identifierValue)
 directory:∀siren,NineDigits siren→∀row,db.alias? (canonicalKey siren)=some row →
  row=directoryRow siren
 decided:∀account k o,db.override? account k=some o →∃row,db.alias? k=some row ∧
   (o.privateSubjectKey=k ∨ o.privateSubjectKey=row.canonicalCompanyKey)

lemma inserted_nodup (keyed:(db.aliases.map AliasRow.key).Nodup)(companyKey siren:String) :
 ((db.inserted companyKey siren).map AliasRow.key).Nodup:=by
 unfold Db.inserted
 rw[List.foldl_cons,List.foldl_cons,List.foldl_nil]
 exact nodup_insertIfAbsent (nodup_insertIfAbsent keyed _) _

lemma registerAlias_nodup (keyed:(db.aliases.map AliasRow.key).Nodup) (companyKey siren:String) :
 ((registerAlias db companyKey siren).1.aliases.map AliasRow.key).Nodup:=by
 have inserted:=inserted_nodup keyed companyKey siren
 unfold registerAlias
 split
 · exact keyed
 · dsimp only
   split
   · exact keyed
   · split
     · have kept:(update (fun row=>row.key==companyKey) AliasRow.quarantined
         (db.inserted companyKey siren)).map AliasRow.key =
         (db.inserted companyKey siren).map AliasRow.key:=map_key_update fun _ _ _=>rfl
       exact kept ▸ inserted
     · exact inserted

lemma Db.Coherent.register (coherent:db.Coherent)(r:Registration) :
 (registerAlias db r.companyKey r.siren).1.Coherent:=by
 obtain ⟨-,overrides,-⟩:=registerAlias_accounts db r.companyKey r.siren
 by_cases valid:exactFrenchSiren [⟨"siren",some r.siren⟩] (some "FR")=none
 · rw[registerAlias_invalid valid]
   exact coherent
 have shown:∀k,(registerAlias db r.companyKey r.siren).1.alias? k =
   ((db.alias? k).or (registered r.companyKey r.siren k)).map
    (contradicted r.companyKey r.siren):=alias?_registerAlias valid r.companyKey
 -- A directory key is only ever registered with its own SIREN.
 have never:∀s,NineDigits s →contradicted r.companyKey r.siren (directoryRow s)=directoryRow s:=by
  intro s digits
  rw[contradicted,if_neg]
  rintro ⟨same,differs⟩
  exact differs (congrArg canonicalKey (r.own s digits same.symm))
 have directory:∀siren,NineDigits siren→∀row,
   (registerAlias db r.companyKey r.siren).1.alias? (canonicalKey siren)=some row →
   row=directoryRow siren:=by
  intro s digits row found
  rcases registerAlias_row valid found with ⟨before,old,rfl⟩|⟨named,rfl⟩
  · rw[coherent.directory s digits before old,never s digits]
  · obtain rfl:s=r.siren:=by
     rcases named with first|second
     · exact r.own s digits first.symm
     · exact canonicalKey_inj second
    exact never r.siren digits
 have present:∀s,NineDigits s→(∃row,db.alias? (canonicalKey s)=some row) ∨ s=r.siren →
   (registerAlias db r.companyKey r.siren).1.alias? (canonicalKey s) =
    some (directoryRow s):=by
  intro s digits there
  have some:((registerAlias db r.companyKey r.siren).1.alias? (canonicalKey s)).isSome:=by
   rw[shown,Option.isSome_map,Option.isSome_or]
   rcases there with ⟨row,old⟩|rfl
   · simp[old]
   · simp[registered]
  obtain ⟨row,found⟩:=Option.isSome_iff_exists.mp some
  rw[found,directory s digits row found]
 refine ⟨registerAlias_nodup coherent.keyed _ _,?_,directory,?_⟩
 · intro k row found
   rcases registerAlias_row valid found with ⟨before,old,rfl⟩|⟨-,rfl⟩
   · obtain ⟨digits,canonical,directoryOld⟩:=coherent.proven k before old
     obtain ⟨sameKey,sameValue⟩:=contradicted_canonical r.companyKey r.siren before
     rw[sameKey,sameValue]
     refine ⟨digits,canonical,?_⟩
     rw[canonical] at directoryOld ⊢
     exact present _ digits (.inl ⟨_,directoryOld⟩)
   · obtain ⟨sameKey,sameValue⟩:=contradicted_canonical r.companyKey r.siren
      ⟨k,canonicalKey r.siren,r.siren,.exact⟩
     rw[sameKey,sameValue]
     exact ⟨r.digits,rfl,present _ r.digits (.inr rfl)⟩
 · intro account k o found
   have old:db.override? account k=some o:=by
    unfold Db.override? at found ⊢
    rw[←overrides]
    exact found
   obtain ⟨row,there,subject⟩:=coherent.decided account k o old
   rcases registerAlias_kept there r.companyKey r.siren with same|changed
   · exact ⟨row,same,subject⟩
   · refine ⟨_,changed,?_⟩
     rw[(contradicted_canonical r.companyKey r.siren row).1]
     exact subject

def Db.decision (db:Db)(accountId canonical k:String):OverrideRow:=
 ⟨accountId,k,if db.conflicting accountId canonical then k else canonical,
  if db.conflicting accountId canonical then .isolated else .resolved⟩

lemma find?_decisions (keys:List String)(account k:String) :
 (keys.map (db.decision accountId canonical)).find? (fun row=>row.key==(account,k)) =
  if account=accountId ∧ k∈keys then some (db.decision accountId canonical k)
  else none:=by
 induction keys with
 | nil=>simp
 | cons first keys ih =>
  rw[List.map_cons,List.find?_cons]
  by_cases here:account=accountId ∧ k=first
  · obtain ⟨rfl,rfl⟩:=here
    simp[Db.decision,OverrideRow.key]
  · have other:((db.decision accountId canonical first).key==(account,k))=false:=by
     refine beq_eq_false_iff_ne.mpr fun same=>here ?_
     obtain ⟨rfl,rfl⟩:=Prod.mk.inj same
     exact ⟨rfl,rfl⟩
    rw[other,ih]
    simp only[List.mem_cons]
    by_cases same:account=accountId
    · have differs:k≠first:=fun eq=>here ⟨same,eq⟩
      simp[same,differs]
    · simp[same]

lemma override?_reconcile (account k:String) :
 (db.reconcile accountId canonical).override? account k =
  (db.override? account k).or
   (if account=accountId ∧ k∈db.group canonical then
    some (db.decision accountId canonical k) else none):=by
 have rows:(db.reconcile accountId canonical).overrides =
   (((db.group canonical).filter fun key=>(db.override? accountId key).isNone).map
    (db.decision accountId canonical)).foldl
    (fun rows row=>insertIfAbsent OverrideRow.key row rows) db.overrides:=by
  rw[List.foldl_map]
  rfl
 unfold Db.override? at rows ⊢
 rw[rows,find?_foldl_insertIfAbsent,List.find?_append,find?_decisions]
 cases old:db.overrides.find? fun row=>row.key==(account,k) with
 | some o=>rfl
 | none =>
  rw[Option.none_or,Option.none_or]
  congr 1
  simp only[List.mem_filter,eq_iff_iff,and_congr_right_iff,and_iff_left_iff_imp]
  rintro rfl -
  rw[old]
  rfl

lemma newest_mem {ν:Type}{rows:List (PrivateRow ν)}{row:PrivateRow ν}
 (is:newest rows=some row):row∈rows:=by
 cases rows with
 | nil=>cases is
 | cons first rows =>
  rw[newest,Option.some.injEq] at is
  subst is
  induction rows generalizing first with
  | nil=>exact List.mem_singleton_self _
  | cons second rows ih =>
   rw[List.foldl_cons]
   split
   · exact List.mem_cons_of_mem _ (ih second)
   · rcases List.mem_cons.mp (ih first) with same|later
     · rw[same]
       exact List.mem_cons_self
     · exact List.mem_cons_of_mem _ (List.mem_cons_of_mem _ later)

lemma newest_isSome {ν:Type}{rows:List (PrivateRow ν)}{row:PrivateRow ν}
 (mem:row∈rows):∃best,newest rows=some best:=by
 cases rows with
 | nil=>cases mem
 | cons first rows=>exact ⟨_,rfl⟩

lemma one_lt_eraseDups {α:Type}[DecidableEq α](l:List α) : 1<l.eraseDups.length ↔ ∃a∈l,∃b∈l,a≠b:=by
 rw[←List.toFinset_card_of_nodup (eraseDups_nodup l),Finset.one_lt_card]
 simp only[List.mem_toFinset,List.mem_eraseDups]

lemma disagree_iff {rows:List (PrivateRow t.Values)} :
 disagree rows=true ↔ ∃r∈rows,∃r'∈rows,r.values≠r'.values:=by
 rw[disagree,decide_eq_true_iff,one_lt_eraseDups]
 simp only[List.mem_map,exists_exists_and_eq_and]

lemma mem_rowsUnder {keys:List String}{row:PrivateRow t.Values} :
 row∈db.rowsUnder t accountId keys ↔
  row∈db.privateRows t ∧ row.accountId=accountId ∧ row.companyKey∈keys:=by
 simp[Db.rowsUnder]

lemma conflicting_iff:db.conflicting accountId canonical=true ↔
 ∃t,∃r∈db.rowsUnder t accountId (db.candidateKeys accountId canonical),
  ∃r'∈db.rowsUnder t accountId (db.candidateKeys accountId canonical),r.values≠r'.values:=by
 simp only[Db.conflicting,List.any_eq_true,disagree_iff,PrivateTable.mem_all,true_and]

lemma private?_reconcile_of_some {account k:String}{row:PrivateRow t.Values}
 (found:db.private? t account k=some row) :
 (db.reconcile accountId canonical).private? t account k=some row:=by
 unfold Db.private? Db.reconcile
 dsimp only
 split
 · exact found
 · unfold Db.copied
   split
   · exact found
   · unfold Db.private? at found
     rw[find?_insertIfAbsent,found,Option.some_or]

lemma private?_reconcile (agree:db.conflicting accountId canonical=false) {row:PrivateRow t.Values}
 (mem:row∈db.rowsUnder t accountId (db.candidateKeys accountId canonical)) :
 ∃held,(db.reconcile accountId canonical).private? t accountId canonical=some held ∧
  (db.private? t accountId canonical=some held ∨
   ∃selected∈db.rowsUnder t accountId (db.candidateKeys accountId canonical),
    held={selected with companyKey:=canonical}):=by
 obtain ⟨selected,chosen⟩:=newest_isSome mem
 have own:=newest_mem chosen
 have key:PrivateRow.key {selected with companyKey:=canonical}=(accountId,canonical):=
  congrArg (·,canonical) (mem_rowsUnder.mp own).2.1
 have rows:(db.reconcile accountId canonical).privateRows t=insertIfAbsent PrivateRow.key
   {selected with companyKey:=canonical} (db.privateRows t):=by
  simp only[Db.reconcile,agree,Bool.false_eq_true,if_false,Db.copied,chosen]
 unfold Db.private?
 rw[rows,find?_insertIfAbsent,key,if_pos rfl]
 cases (db.privateRows t).find? fun row=>row.key==(accountId,canonical) with
 | some held=>exact ⟨held,rfl,.inl rfl⟩
 | none=>exact ⟨_,rfl,.inr ⟨selected,own,rfl⟩⟩

def Db.privateKey (db:Db)(accountId key:String):String:=
 match db.alias? key with
 | none=>key
 | some row =>
  if row.resolutionStatus=.exact then
   match db.override? accountId key with
   | none=>key
   | some o=>o.privateSubjectKey
  else key

lemma privateKey_exact (found:db.alias? key=some row)
 (exact:row.resolutionStatus=.exact):db.privateKey accountId key =
  ((db.override? accountId key).map OverrideRow.privateSubjectKey).getD key:=by
 simp only[Db.privateKey,found,exact,if_true]
 cases db.override? accountId key <;> rfl

lemma privateKey_else (none:∀row,db.alias? key=some row → row.resolutionStatus≠.exact) :
 db.privateKey accountId key=key:=by
 unfold Db.privateKey
 cases found:db.alias? key with
 | none=>rfl
 | some row=>exact if_neg (none row found)

lemma privateKey_congr (aliases:db'.alias? key=db.alias? key)
 (decisions:db'.override? accountId key=db.override? accountId key) :
 db'.privateKey accountId key=db.privateKey accountId key:=by
 unfold Db.privateKey
 rw[aliases,decisions]

def Db.readable (db:Db)(t:PrivateTable)(accountId key:String):Option t.Values:=
 (db.private? t accountId (db.privateKey accountId key)).map PrivateRow.values

lemma mem_group (keyed:(db.aliases.map AliasRow.key).Nodup) :
 key∈db.group canonical ↔ ∃row,db.alias? key=some row ∧
  row.canonicalCompanyKey=canonical ∧ row.resolutionStatus=.exact:=by
 simp only[Db.group,List.mem_map,List.mem_filter,Bool.and_eq_true,beq_iff_eq]
 constructor
 · rintro ⟨row,⟨mem,of⟩,rfl⟩
   exact ⟨row,find?_of_mem keyed mem,of⟩
 · rintro ⟨row,found,of⟩
   obtain ⟨mem,own⟩:=find?_key found
   exact ⟨row,⟨mem,of⟩,own⟩

lemma privateKey_reconcile (db:Db)(accountId canonical account x:String) :
 (db.reconcile accountId canonical).privateKey account x=db.privateKey account x ∨
  account=accountId ∧ x∈db.candidateKeys accountId canonical ∧
   db.conflicting accountId canonical=false ∧ db.privateKey account x=x ∧
   (db.reconcile accountId canonical).privateKey account x=canonical:=by
 have aliases:(db.reconcile accountId canonical).alias? x=db.alias? x:=rfl
 by_cases exact:∃row,db.alias? x=some row ∧ row.resolutionStatus=.exact
 · obtain ⟨row,found,exact⟩:=exact
   rw[privateKey_exact (aliases.trans found) exact,privateKey_exact found exact,override?_reconcile]
   cases old:db.override? account x with
   | some o=>exact .inl rfl
   | none =>
    rw[Option.none_or]
    split
    · rename_i decided
      obtain ⟨rfl,mem⟩:=decided
      cases agree:db.conflicting account canonical with
      | true =>
       left
       simp[Db.decision,agree]
      | false =>
       refine .inr ⟨rfl,List.mem_filter.mpr ⟨mem,by simp[old]⟩,rfl,rfl,?_⟩
       simp[Db.decision,agree]
    · exact .inl rfl
 · have none:∀row,db.alias? x=some row → row.resolutionStatus≠.exact:=
    fun row found is=>exact ⟨row,found,is⟩
   left
   rw[privateKey_else none]
   exact privateKey_else none

lemma readable_reconcile (coherent:db.Coherent)
 (there:db.alias? key=some row){account:String}{v:t.Values}
 (read:db.readable t account x=some v) :
 (db.reconcile accountId row.canonicalCompanyKey).readable t account x=some v:=by
 obtain ⟨before,found,rfl⟩:=Option.map_eq_some_iff.mp read
 unfold Db.readable
 rcases privateKey_reconcile db accountId row.canonicalCompanyKey account x with
  same | ⟨rfl,candidate,agree,own,new⟩
 · rw[same,private?_reconcile_of_some found]
   rfl
 -- The row is a candidate, and so is the one under the canonical key.
 rw[own] at found
 obtain ⟨-,-,directory⟩:=coherent.proven key row there
 have alike:∀r∈db.rowsUnder t account (db.candidateKeys account row.canonicalCompanyKey),
   r.values=before.values:=by
  intro r mem
  by_contra differs
  obtain ⟨there,own⟩:=find?_key found
  obtain ⟨ofAccount,ofKey⟩:=Prod.mk.inj own
  have also:=mem_rowsUnder.mpr ⟨there,ofAccount,ofKey ▸ candidate⟩
  rw[conflicting_iff.mpr ⟨t,r,mem,before,also,differs⟩] at agree
  cases agree
 have canonicalCandidate:row.canonicalCompanyKey ∈
   db.candidateKeys account row.canonicalCompanyKey:=by
  refine List.mem_filter.mpr ⟨(mem_group coherent.keyed).mpr ⟨_,directory,?_,rfl⟩,by simp⟩
  exact (coherent.proven key row there).2.1.symm
 obtain ⟨mem,own⟩:=find?_key found
 obtain ⟨ofAccount,ofKey⟩:=Prod.mk.inj own
 obtain ⟨held,shown,there|⟨selected,mem,rfl⟩⟩:=
  private?_reconcile agree (mem_rowsUnder.mpr ⟨mem,ofAccount,ofKey ▸ candidate⟩)
 · obtain ⟨mem,own⟩:=find?_key there
   obtain ⟨ofAccount,ofKey⟩:=Prod.mk.inj own
   rw[new,shown,Option.map_some,
    alike held (mem_rowsUnder.mpr ⟨mem,ofAccount,ofKey ▸ canonicalCandidate⟩)]
 · rw[new,shown,Option.map_some]
   exact congrArg some (alike selected mem)

inductive Resolved (db:Db)(accountId key:String):Db → CompanySubject→Prop
 | itself (unproven:∀row,db.alias? key=some row → row.resolutionStatus≠.exact) :
   Resolved db accountId key db ⟨key,key,key,.unresolved⟩
 | prior {row:AliasRow}{o:OverrideRow}(found:db.alias? key=some row)
   (exact:row.resolutionStatus=.exact)(decided:db.override? accountId key=some o) :
   Resolved db accountId key db ⟨key,row.canonicalCompanyKey,o.privateSubjectKey,o.mode.resolution⟩
 | now {row:AliasRow}{o:OverrideRow}(found:db.alias? key=some row)
   (exact:row.resolutionStatus=.exact)
   (decided :
    (db.reconcile accountId row.canonicalCompanyKey).override? accountId key=some o) :
   Resolved db accountId key (db.reconcile accountId row.canonicalCompanyKey)
    ⟨key,row.canonicalCompanyKey,o.privateSubjectKey,o.mode.resolution⟩

lemma resolveSubject_resolved {subject:CompanySubject}
 (resolved:resolveSubject db accountId key=some (db',subject)) :
 Resolved db accountId key db' subject:=by
 unfold resolveSubject at resolved
 cases found:db.alias? key with
 | none =>
  simp only[found,Option.some.injEq,Prod.mk.injEq] at resolved
  obtain ⟨rfl,rfl⟩:=resolved
  exact .itself fun row there=>by rw[found] at there;cases there
 | some row =>
  simp only[found] at resolved
  split at resolved
  · rename_i unproven
    simp only[Option.some.injEq,Prod.mk.injEq] at resolved
    obtain ⟨rfl,rfl⟩:=resolved
    exact .itself fun other there=>by rw[found] at there;cases there;exact unproven
  · rename_i exact
    rw[ne_eq,not_not] at exact
    split at resolved
    · cases resolved
    · cases decided:db.override? accountId key with
      | some o =>
       simp only[decided,Option.some.injEq,Prod.mk.injEq] at resolved
       obtain ⟨rfl,rfl⟩:=resolved
       exact .prior found exact decided
      | none =>
       simp only[decided,Option.map_eq_some_iff,Prod.mk.injEq] at resolved
       obtain ⟨o,now,rfl,rfl⟩:=resolved
       exact .now found exact now

lemma resolveSubject_isSome (coherent:db.Coherent)(there:accountId∈db.accounts)
 (key:String):(resolveSubject db accountId key).isSome:=by
 unfold resolveSubject
 cases found:db.alias? key with
 | none=>rfl
 | some row =>
  by_cases exact:row.resolutionStatus=.exact
  case neg =>
   dsimp only
   rw[if_pos exact]
   rfl
  case pos =>
   dsimp only
   rw[if_neg (not_not.mpr exact),if_neg (not_not.mpr there)]
   cases decided:db.override? accountId key with
   | some o=>rfl
   | none =>
    have mem:=(mem_group coherent.keyed).mpr ⟨row,found,rfl,exact⟩
    rw[override?_reconcile,decided,if_pos ⟨rfl,mem⟩]
    rfl

lemma Db.Coherent.reconcile (coherent:db.Coherent)(accountId canonical:String) :
 (db.reconcile accountId canonical).Coherent:=by
 refine ⟨coherent.keyed,coherent.proven,coherent.directory,fun account k o found=>?_⟩
 rw[override?_reconcile] at found
 rcases Option.or_eq_some_iff.mp found with old|⟨-,new⟩
 · exact coherent.decided account k o old
 · simp only[Option.ite_none_right_eq_some,Option.some.injEq] at new
   obtain ⟨⟨-,mem⟩,rfl⟩:=new
   obtain ⟨row,there,of,-⟩:=(mem_group coherent.keyed).mp mem
   refine ⟨row,there,?_⟩
   unfold Db.decision
   split
   · exact .inl rfl
   · exact .inr of.symm

section
variable {subject:CompanySubject}(resolution:Resolved db accountId key db' subject)
include resolution

lemma Resolved.coherent (coherent:db.Coherent):db'.Coherent:=by
 cases resolution with
 | itself | prior=>exact coherent
 | now=>exact coherent.reconcile _ _

lemma Resolved.alias? (k:String):db'.alias? k=db.alias? k:=by
 cases resolution <;> rfl

lemma Resolved.privateKey:subject.privateSubjectKey=db'.privateKey accountId key:=by
 cases resolution with
 | itself unproven=>exact (privateKey_else unproven).symm
 | prior found exact decided =>
  rw[privateKey_exact found exact,decided]
  rfl
 | @now row _ found exact decided =>
  have same:(db.reconcile accountId row.canonicalCompanyKey).alias? key=some row:=found
  rw[privateKey_exact same exact,decided]
  rfl

lemma Resolved.readable (coherent:db.Coherent){account:String}{v:t.Values}
 (read:db.readable t account x=some v):db'.readable t account x=some v:=by
 cases resolution with
 | itself | prior=>exact read
 | now found=>exact readable_reconcile coherent found read

lemma Resolved.stored {account k:String}{row:PrivateRow t.Values}
 (found:db.private? t account k=some row):db'.private? t account k=some row:=by
 cases resolution with
 | itself | prior=>exact found
 | now=>exact private?_reconcile_of_some found

lemma Resolved.of_prior {row:AliasRow}{o:OverrideRow}(found:db.alias? key=some row)
 (exact:row.resolutionStatus=.exact)(decided:db.override? accountId key=some o) :
 subject.privateSubjectKey=o.privateSubjectKey:=by
 cases resolution with
 | itself unproven=>exact absurd exact (unproven row found)
 | prior _ _ prior =>
  rw[decided] at prior
  cases prior
  rfl
 | now _ _ now =>
  rw[override?_reconcile,decided,Option.some_or] at now
  cases now
  rfl

lemma Resolved.of_none (keyed:(db.aliases.map AliasRow.key).Nodup){row:AliasRow}
 (found:db.alias? key=some row)(exact:row.resolutionStatus=.exact)
 (undecided:db.override? accountId key=none):subject.privateSubjectKey =
  if db.conflicting accountId row.canonicalCompanyKey then key
  else row.canonicalCompanyKey:=by
 cases resolution with
 | itself unproven=>exact absurd exact (unproven row found)
 | prior _ _ prior =>
  rw[undecided] at prior
  cases prior
 | now there _ now =>
  rw[found] at there
  cases there
  have mem:=(mem_group keyed).mpr ⟨row,found,rfl,exact⟩
  rw[override?_reconcile,undecided,Option.none_or,if_pos ⟨rfl,mem⟩] at now
  cases now
  rfl

lemma Resolved.override? {account k:String}{o:OverrideRow}
 (found:db.override? account k=some o):db'.override? account k=some o:=by
 cases resolution with
 | itself | prior=>exact found
 | now =>
  rw[override?_reconcile,found]
  rfl

end

lemma Resolved.subject_cases (coherent:db.Coherent){subject:CompanySubject}
 (resolution:Resolved db accountId key db' subject) :
 subject.privateSubjectKey=key ∨ ∃row,db.alias? key=some row ∧ row.resolutionStatus=.exact ∧
   subject.privateSubjectKey=row.canonicalCompanyKey:=by
 cases resolution with
 | itself=>exact .inl rfl
 | prior found exact decided =>
  obtain ⟨row,there,subject⟩:=coherent.decided _ _ _ decided
  rw[found] at there
  cases there
  exact subject.imp_right fun is=>⟨_,found,exact,is⟩
 | now found exact decided =>
  obtain ⟨row,there,subject⟩:=(coherent.reconcile _ _).decided _ _ _ decided
  obtain rfl:_=row:=Option.mem_unique found there
  exact subject.imp_right fun is=>⟨_,found,exact,is⟩

lemma separate (coherent:db.Coherent){y:String}(other:x≠y){dbx dby:Db}
 {sx sy:CompanySubject}(rx:Resolved db accountId x dbx sx)
 (ry:Resolved db accountId y dby sy)(shared:sx.privateSubjectKey=sy.privateSubjectKey) :
 ∃ax ay,db.alias? x=some ax ∧ db.alias? y=some ay ∧ ax.resolutionStatus=.exact ∧
  ay.resolutionStatus=.exact ∧ ax.identifierValue=ay.identifierValue:=by
 rcases rx.subject_cases coherent with ownx|⟨ax,foundx,exactx,isx⟩ <;>
  rcases ry.subject_cases coherent with owny|⟨ay,foundy,exacty,isy⟩
 · exact absurd (ownx.symm.trans (shared.trans owny)) other
 · obtain ⟨-,canonical,directory⟩:=coherent.proven y ay foundy
   rw[←isy,←shared,ownx] at directory
   exact ⟨_,ay,directory,foundy,rfl,exacty,rfl⟩
 · obtain ⟨-,canonical,directory⟩:=coherent.proven x ax foundx
   rw[←isx,shared,owny] at directory
   exact ⟨ax,_,foundx,directory,exactx,rfl,rfl⟩
 · obtain ⟨-,canonicalx,-⟩:=coherent.proven x ax foundx
   obtain ⟨-,canonicaly,-⟩:=coherent.proven y ay foundy
   refine ⟨ax,ay,foundx,foundy,exactx,exacty,canonicalKey_inj ?_⟩
   rw[←canonicalx,←canonicaly,←isx,←isy,shared]

end
end Kivou.CompanyIdentity
