import Kivou.ResolutionResolver
import Kivou.Runs

set_option autoImplicit false

/-! What a sequence of mentions may do to the known companies. -/
namespace Kivou.Resolution

section
variable {α:Type}[DecidableEq α]{a b:α}

lemma mem_add {set:List α}:b∈add set a ↔ b∈set ∨ b=a:=by
 unfold add
 split
 · rename_i mem
   constructor
   · exact .inl
   · rintro (old|rfl)
     · exact old
     · exact mem
 · simp

lemma mem_foldl_add (more set:List α):b∈more.foldl add set ↔ b∈set ∨ b∈more:=by
 induction more generalizing set with
 | nil=>simp
 | cons a more ih=>rw[List.foldl_cons,ih,mem_add,List.mem_cons,or_assoc]

end

section
variable {settings:Settings}{records:List Record}{organization:Organization}
 {identifiers:List ClassifiedIdentifier}{sourceSystem:String}
 {vies:Option (String→String→VatCheck)}

lemma scan_none {holds refused:Record→Bool}{method:MatchMethod}{n:ℕ}{basis:List Basis}
 (h:(scan holds refused method records n basis).1=none) :
 ∀record∈records,holds record=true → refused record=true:=by
 induction records generalizing n basis with
 | nil=>nofun
 | cons first rest ih =>
  intro record mem held
  unfold scan at h
  split at h
  · split at h
    · rename_i refused'
      rcases List.mem_cons.mp mem with rfl|later
      · exact refused'
      · exact ih h record later held
    · cases h
  · rename_i other
    rcases List.mem_cons.mp mem with rfl|later
    · exact absurd held other
    · exact ih h record later held

lemma matchIdentifiers_none {holds:ClassifiedIdentifier→Record→Bool}
 {refused:Record→Bool}{method:MatchMethod}{basis:List Basis}
 (h:(matchIdentifiers records holds refused method identifiers basis).1=none) :
 ∀i∈identifiers,∀record∈records,holds i record=true → refused record=true:=by
 induction identifiers generalizing basis with
 | nil=>nofun
 | cons first rest ih =>
  intro i mem
  unfold matchIdentifiers at h
  split at h
  · cases h
  · rename_i found hscan
    rcases List.mem_cons.mp mem with rfl|later
    · exact scan_none (congrArg Prod.fst hscan)
    · exact ih h i later

def officialKeysOf (identifiers:List ClassifiedIdentifier):List (String × String):=
 (ofStrength .official identifiers).map (·.key)

lemma recognise_none (h:(recognise settings records organization identifiers sourceSystem).1=none)
 {key:String × String}(mine:key∈officialKeysOf identifiers) :
 ∀record∈records,key∉record.officialKeys:=by
 have official:(matchOfficial records identifiers []).1=none:=by
  unfold recognise at h
  split at h
  · cases h
  · rename_i basis hmatch
    rw[hmatch]
 obtain ⟨i,mem,rfl⟩:=List.mem_map.mp mine
 intro record inside held
 have refused:=matchIdentifiers_none official i mem record inside (by simpa using held)
 cases refused

lemma recognise_status {n:ℕ}{status:ResolutionStatus}{basis:List Basis}
 (h:recognise settings records organization identifiers sourceSystem =
  (some (n,status),basis)):status=.verified ∨ status=.probable:=by
 unfold recognise at h
 split at h
 · cases h
   exact .inl rfl
 · split at h
   · cases h
     exact .inr rfl
   · split at h
     · cases h
       exact .inr rfl
     · split at h
       · cases h
         exact .inr rfl
       · cases h

lemma mem_indexed_officialKeys {record:Record}{key:String × String} :
 key∈(indexed settings organization sourceSystem identifiers record).officialKeys ↔
  key∈record.officialKeys ∨ key∈officialKeysOf identifiers:=mem_foldl_add ..

lemma mem_indexed_published {record:Record}{country:String} :
 country∈(indexed settings organization sourceSystem identifiers record).published ↔
  country∈record.published ∨ organization.country=some country:=by
 unfold indexed
 cases organization.country with
 | none=>simp
 | some here=>simp[mem_add,eq_comm]

/-- No two companies share an official identifier, none holds two values of one
registry, and the mentions of each publish at most one country. -/
structure Apart (records:List Record):Prop where
 owner:∀ (n k:ℕ)(record other:Record)(key:String × String),records[n]?=some record →
  records[k]?=some other→key∈record.officialKeys→key∈other.officialKeys→n=k
 value:∀ (n:ℕ)(record:Record)(registry value value':String),records[n]?=some record →
  (registry,value)∈record.officialKeys→(registry,value')∈record.officialKeys →
   value=value'
 country:∀ (n:ℕ)(record:Record)(country country':String),records[n]?=some record →
  country∈record.published→country'∈record.published→country=country'

def Single (keys:List (String × String)):Prop:=
 ∀registry value value',(registry,value)∈keys→(registry,value')∈keys→value=value'

/-- The mention and the company that it is attached to agree: the mention has
one value a registry and no other than the company's, no other company holds
one of its official identifiers, and its country is that of the mentions
attached before. -/
structure Joins (records:List Record)(n:ℕ)(record:Record)(organization:Organization)
  (keys:List (String × String)):Prop where
 single:Single keys
 value:∀registry value value',(registry,value)∈keys →
  (registry,value')∈record.officialKeys→value=value'
 owner:∀ (k:ℕ)(other:Record)(key:String × String),records[k]?=some other →
  key∈keys→key∈other.officialKeys→n=k
 country:∀country country',organization.country=some country →
  country'∈record.published→country=country'

lemma apart_empty:Apart [] where
 owner _ _ _ _ _ h:=nomatch h
 value _ _ _ _ _ h:=nomatch h
 country _ _ _ _ h:=nomatch h

lemma modify_found {f:Record→Record}{n k:ℕ}{x:Record} : (records.modify n f)[k]?=some x ↔
  ∃record,records[k]?=some record ∧ x=if n=k then f record else record:=by
 rw[List.getElem?_modify]
 cases records[k]? with
 | none=>simp
 | some record =>
  simp only[Option.map_eq_map,Option.map_some,Option.some.injEq,exists_eq_left',eq_comm]

section
variable {n:ℕ}{record:Record}{verified:Bool}

lemma mem_attached_officialKeys {key:String × String} :
 key∈(attached settings organization sourceSystem identifiers verified record).officialKeys ↔
  key∈record.officialKeys ∨ key∈officialKeysOf identifiers:=mem_indexed_officialKeys

lemma mem_attached_published {country:String} :
 country∈(attached settings organization sourceSystem identifiers verified record).published ↔
  country∈record.published ∨ organization.country=some country:=mem_indexed_published

lemma joins_of_apart_attached (found:records[n]?=some record) (apart:Apart (records.modify n
  (attached settings organization sourceSystem identifiers verified))) :
 Joins records n record organization (officialKeysOf identifiers):=by
 have here:(records.modify n (attached settings organization sourceSystem identifiers verified))[n]?
   = some (attached settings organization sourceSystem identifiers verified record):=
  modify_found.mpr ⟨record,found,(if_pos rfl).symm⟩
 refine ⟨?_,?_,?_,?_⟩
 · intro registry value value' mine mine'
   exact apart.value n _ registry value value' here (mem_attached_officialKeys.mpr (.inr mine))
    (mem_attached_officialKeys.mpr (.inr mine'))
 · intro registry value value' mine known
   exact apart.value n _ registry value value' here (mem_attached_officialKeys.mpr (.inr mine))
    (mem_attached_officialKeys.mpr (.inl known))
 · intro k other key hother mine held
   by_cases same:n=k
   · exact same
   · have there:=modify_found (f:=attached settings organization sourceSystem identifiers
      verified).mpr ⟨other,hother,(if_neg same).symm⟩
     exact apart.owner n k _ other key here there (mem_attached_officialKeys.mpr (.inr mine)) held
 · intro country country' mine known
   exact apart.country n _ country country' here (mem_attached_published.mpr (.inr mine))
    (mem_attached_published.mpr (.inl known))

lemma apart_attached_of_joins (apart:Apart records)(found:records[n]?=some record)
 (joins:Joins records n record organization (officialKeysOf identifiers)) :
 Apart (records.modify n (attached settings organization sourceSystem identifiers verified)):=by
 -- an official identifier of a company afterwards was its own, or the mention's at `n`
 have before:∀k x,(records.modify n
   (attached settings organization sourceSystem identifiers verified))[k]?=some x →
   ∃r,records[k]?=some r ∧ (∀key∈x.officialKeys,key∈r.officialKeys ∨
     n=k ∧ key∈officialKeysOf identifiers) ∧
    ∀country∈x.published,country∈r.published ∨ n=k ∧ organization.country=some country:=by
  intro k x hx
  obtain ⟨r,hr,rfl⟩:=modify_found.mp hx
  refine ⟨r,hr,fun key mem=>?_,fun country mem=>?_⟩
  · split at mem
    · rename_i same
      exact (mem_attached_officialKeys.mp mem).imp_right fun mine=>⟨same,mine⟩
    · exact .inl mem
  · split at mem
    · rename_i same
      exact (mem_attached_published.mp mem).imp_right fun mine=>⟨same,mine⟩
    · exact .inl mem
 refine ⟨?_,?_,?_⟩
 · intro i k x y key hx hy held held'
   obtain ⟨r,hr,keys,-⟩:=before i x hx
   obtain ⟨q,hq,keys',-⟩:=before k y hy
   rcases keys key held with old|⟨rfl,mine⟩
   · rcases keys' key held' with old' | ⟨rfl,mine⟩
     · exact apart.owner i k r q key hr hq old old'
     · exact (joins.owner i r key hr mine old).symm
   · rcases keys' key held' with old' | ⟨same,-⟩
     · exact joins.owner k q key hq mine old'
     · exact same
 · intro k x registry value value' hx held held'
   obtain ⟨r,hr,keys,-⟩:=before k x hx
   rcases keys _ held with old|⟨rfl,mine⟩
   · rcases keys _ held' with old' | ⟨rfl,mine'⟩
     · exact apart.value k r registry value value' hr old old'
     · rw[found] at hr
       cases hr
       exact (joins.value registry value' value mine' old).symm
   · rw[found] at hr
     cases hr
     rcases keys _ held' with old' | ⟨-,mine'⟩
     · exact joins.value registry value value' mine old'
     · exact joins.single registry value value' mine mine'
 · intro k x country country' hx held held'
   obtain ⟨r,hr,-,countries⟩:=before k x hx
   rcases countries _ held with old|⟨rfl,mine⟩
   · rcases countries _ held' with old' | ⟨rfl,mine'⟩
     · exact apart.country k r country country' hr old old'
     · rw[found] at hr
       cases hr
       exact (joins.country country' country mine' old).symm
   · rw[found] at hr
     cases hr
     rcases countries _ held' with old' | ⟨-,mine'⟩
     · exact joins.country country country' mine old'
     · exact Option.mem_unique mine mine'

lemma apart_attached (apart:Apart records)(found:records[n]?=some record) : Apart (records.modify n
  (attached settings organization sourceSystem identifiers verified)) ↔
  Joins records n record organization (officialKeysOf identifiers):=
 ⟨joins_of_apart_attached found,apart_attached_of_joins apart found⟩

lemma append_found {x:Record}{k:ℕ}:(records++[record])[k]?=some x ↔
 records[k]?=some x ∨ k=records.length ∧ x=record:=by
 rw[List.getElem?_append]
 split
 · rename_i inside
   simp[inside.ne]
 · rename_i outside
   have none:records[k]?=none:=List.getElem?_eq_none (Nat.le_of_not_lt outside)
   rw[none,List.getElem?_singleton]
   by_cases last:k=records.length
   · simp[last,eq_comm]
   · have apart:k-records.length≠0:=by omega
     simp[apart,last]

lemma apart_created (apart:Apart records)
 (strange:∀key∈officialKeysOf identifiers,∀r∈records,key∉r.officialKeys) :
 Apart (records++[created settings organization sourceSystem identifiers verified]) ↔
  Single (officialKeysOf identifiers):=by
 have keys:∀key,key∈(created settings organization sourceSystem identifiers
   verified).officialKeys ↔ key∈officialKeysOf identifiers:=fun key=>
  mem_indexed_officialKeys.trans (or_iff_right (List.not_mem_nil))
 have countries:∀country,country∈(created settings organization sourceSystem identifiers
   verified).published ↔ organization.country=some country:=fun country=>
  mem_indexed_published.trans (or_iff_right (List.not_mem_nil))
 constructor
 · intro after registry value value' mine mine'
   exact after.value records.length _ registry value value' (append_found.mpr (.inr ⟨rfl,rfl⟩))
    ((keys _).mpr mine) ((keys _).mpr mine')
 · intro single
   refine ⟨?_,?_,?_⟩
   · intro i k x y key hx hy held held'
     rcases append_found.mp hx with old|⟨rfl,rfl⟩
     · rcases append_found.mp hy with old' | ⟨rfl,rfl⟩
       · exact apart.owner i k x y key old old' held held'
       · exact absurd held (strange key ((keys key).mp held') x (List.mem_of_getElem? old))
     · rcases append_found.mp hy with old' | ⟨rfl,-⟩
       · exact absurd held' (strange key ((keys key).mp held) y (List.mem_of_getElem? old'))
       · rfl
   · intro k x registry value value' hx held held'
     rcases append_found.mp hx with old|⟨rfl,rfl⟩
     · exact apart.value k x registry value value' old held held'
     · exact single registry value value' ((keys _).mp held) ((keys _).mp held')
   · intro k x country country' hx held held'
     rcases append_found.mp hx with old|⟨rfl,rfl⟩
     · exact apart.country k x country country' old held held'
     · exact Option.some.inj (((countries _).mp held).symm.trans ((countries _).mp held'))

end

lemma consultRegistry_unavailable {basis:List Basis}
 (h:(consultRegistry settings vies organization identifiers basis).1=some .unavailable) :
 (consultRegistry settings vies organization identifiers basis).2≠[]:=by
 induction identifiers with
 | nil=>cases h
 | cons i rest ih =>
  unfold consultRegistry at h ⊢
  split at h
  · cases h
  · exact ih h
  · dsimp only at h ⊢
    split at h
    · rename_i elsewhere
      rw[if_pos elsewhere]
      exact ih h
    · rename_i here
      rw[if_neg here]
      split at h
      · rename_i silent
        rw[if_pos silent]
        simp
      · rename_i answered
        rw[if_neg answered]
        split at h
        · rename_i invalid
          rw[if_pos invalid]
          split at h
          · cases h
          · rename_i weak
            rw[if_neg weak]
            exact ih h
        · split at h
          · cases h
          · split at h <;> cases h

lemma officialKeysOf_unknown (h:identifiers.any (·.strength != .unknown)=false) :
 officialKeysOf identifiers=[]:=by
 rw[List.any_eq_false] at h
 unfold officialKeysOf ofStrength
 rw[List.map_eq_nil_iff,List.filter_eq_nil_iff]
 intro i mem official
 have unknown:i.strength=.unknown:=by simpa using h i mem
 rw[unknown] at official
 cases official

lemma single_nil:Single []:=fun _ _ _ h=>nomatch h

lemma resolveNew_records (basis:List Basis) :
 (consultRegistry settings vies organization identifiers basis).1=some .conflict ∧
   (resolveNew settings vies records organization identifiers sourceSystem basis).1=records ∨
  (consultRegistry settings vies organization identifiers basis).1≠some .conflict ∧
   (officialKeysOf identifiers=[] ∧
     (resolveNew settings vies records organization identifiers sourceSystem basis).1 =
      records ∨
    ∃verified,(resolveNew settings vies records organization identifiers sourceSystem
     basis).1=records++[created settings organization sourceSystem identifiers verified]):=by
 have traced:=@consultRegistry_unavailable settings organization identifiers vies basis
 unfold resolveNew
 generalize consultRegistry settings vies organization identifiers basis=answer at traced ⊢
 obtain ⟨registry,trace⟩:=answer
 dsimp only at traced ⊢
 have extended:registry=some .unavailable →
   (if fuzzyCandidates settings records organization=[] then trace
    else trace++[⟨.fuzzyName,false⟩])≠[]:=by
  intro silent
  split
  · exact traced silent
  · simp
 split
 · rename_i conflict
   exact .inl ⟨conflict,rfl⟩
 · rename_i quiet
   refine .inr ⟨quiet,?_⟩
   split
   · rename_i review
     exact .inl ⟨officialKeysOf_unknown review.2.1,rfl⟩
   · split
     · rename_i bare
       refine .inl ⟨?_,rfl⟩
       have empty:identifiers.isEmpty=true:=by
        simpa using (Bool.or_eq_false_iff.mp bare).1
       rw[List.isEmpty_iff.mp empty]
       rfl
     · -- where VIES did not answer there is a trace, so the last refusal is never made
       rw[if_neg fun silent=>extended silent.1 silent.2]
       exact .inr ⟨_,rfl⟩

lemma apart_resolveNew (apart:Apart records)(basis:List Basis)
 (strange:∀key∈officialKeysOf identifiers,∀r∈records,key∉r.officialKeys) :
 Apart (resolveNew settings vies records organization identifiers sourceSystem basis).1 ↔
  ((consultRegistry settings vies organization identifiers basis).1≠some .conflict →
   Single (officialKeysOf identifiers)):=by
 rcases @resolveNew_records settings records organization identifiers sourceSystem vies basis with
  ⟨conflict,same⟩ | ⟨quiet,⟨empty,same⟩ | ⟨verified,new⟩⟩
 · rw[same]
   exact iff_of_true apart fun quiet=>absurd conflict quiet
 · rw[same,empty]
   exact iff_of_true apart fun _=>single_nil
 · rw[new,apart_created apart strange]
   exact ⟨fun single _=>single,fun single=>single quiet⟩

end

/-- A call of `resolve`, with what VIES answers during it. -/
structure Mention where
 organization:Organization
 sourceSystem:String
 vies:Option (String→String→VatCheck)

def Mention.identifiers (settings:Settings)(mention:Mention):List ClassifiedIdentifier:=
 mention.organization.identifiers.map (classify settings.text)

def Mention.resolved (settings:Settings)(records:List Record)(mention:Mention) :
 List Record × CompanyResolution:=
 resolve settings mention.vies records mention.organization mention.sourceSystem

def next (settings:Settings)(records:List Record)(mention:Mention):List Record:=
 (mention.resolved settings records).1

def reached (settings:Settings)(mentions:List Mention):List Record:=
 mentions.foldl (next settings) []

def Fits (settings:Settings)(records:List Record)(mention:Mention):Prop:=
 detectConflicts records mention.organization (mention.identifiers settings)=false →
  match recognise settings records mention.organization (mention.identifiers settings)
    mention.sourceSystem with
  | (some (n,_),_)=>∀record,records[n]?=some record →
    Joins records n record mention.organization (officialKeysOf (mention.identifiers settings))
  | (none,basis) =>
    (consultRegistry settings mention.vies mention.organization (mention.identifiers settings)
      basis).1≠some .conflict →
     Single (officialKeysOf (mention.identifiers settings))

section
variable {settings:Settings}{records:List Record}

lemma modify_none {f:Record→Record}{n:ℕ}(h:records[n]?=none) : records.modify n f=records:=by
 apply List.ext_getElem?
 intro k
 rw[List.getElem?_modify]
 split
 · rename_i same
   subst same
   rw[h]
   rfl
 · simp

lemma apart_next (apart:Apart records)(mention:Mention) :
 Apart (next settings records mention) ↔ Fits settings records mention:=by
 unfold next Mention.resolved resolve Fits
 change Apart (if detectConflicts records mention.organization (mention.identifiers settings) then _
  else _:List Record × CompanyResolution).1 ↔ _
 split
 · rename_i conflict
   refine iff_of_true apart fun free=>?_
   rw[conflict] at free
   cases free
 · rename_i free
   rw[Bool.not_eq_true] at free
   rw[imp_iff_right free]
   change Apart (match recognise settings records mention.organization
    (mention.identifiers settings) mention.sourceSystem with
    | (some (n,status),basis)=>_
    | (none,basis)=>_:List Record × CompanyResolution).1 ↔ _
   split
   · rename_i n status basis hmatch
     cases hfound:records[n]? with
     | none =>
      rw[modify_none hfound]
      exact iff_of_true apart fun record h=>nomatch h
     | some record =>
      rw[apart_attached apart hfound]
      constructor
      · rintro joins _ ⟨⟩
        exact joins
      · exact fun joins=>joins record rfl
   · rename_i basis hmatch
     exact apart_resolveNew apart basis fun key mine=>recognise_none (congrArg Prod.fst hmatch) mine

def ResolutionStatus.open:ResolutionStatus→Bool
 | .verified | .probable=>false
 | .reviewRequired | .unresolved | .conflict | .registryUnavailable=>true

lemma resolveNew_open {organization:Organization}{identifiers:List ClassifiedIdentifier}
 {sourceSystem:String}{vies:Option (String→String→VatCheck)}{basis:List Basis}
 (h:(resolveNew settings vies records organization identifiers sourceSystem
  basis).2.status.open=true) :
 (resolveNew settings vies records organization identifiers sourceSystem basis).1=records:=by
 unfold resolveNew at h ⊢
 generalize consultRegistry settings vies organization identifiers basis=answer at h ⊢
 dsimp only at h ⊢
 split
 · rfl
 · rename_i quiet
   rw[if_neg quiet] at h
   split
   · rfl
   · rename_i clear
     rw[if_neg clear] at h
     split
     · rfl
     · rename_i enough
       rw[if_neg enough] at h
       generalize (if fuzzyCandidates settings records organization=[] then answer.2
        else answer.2++[⟨.fuzzyName,false⟩])=trace at h ⊢
       split
       · rfl
       · rename_i heard
         rw[if_neg heard] at h
         split at h <;> cases h

lemma next_open {mention:Mention} (h:(mention.resolved settings records).2.status.open=true) :
 next settings records mention=records:=by
 unfold next
 unfold Mention.resolved resolve at h ⊢
 dsimp only at h ⊢
 split
 · rfl
 · rename_i free
   rw[if_neg free] at h
   split
   · rename_i n status basis hmatch
     rw[hmatch] at h
     rcases recognise_status hmatch with rfl|rfl <;> cases h
   · rename_i basis hmatch
     rw[hmatch] at h
     exact resolveNew_open h

end

/-- The known companies are told apart after every sequence of calls, and open
mentions leave them alone, exactly where every mention fits where it is made. -/
theorem merges_are_sound_iff (settings:Settings)(mentions:List Mention) :
 ((∀done,done <+: mentions→Apart (reached settings done)) ∧
  ∀done mention,done++[mention] <+: mentions →
   (mention.resolved settings (reached settings done)).2.status.open=true →
    reached settings (done++[mention])=reached settings done) ↔
  Runs.Along (next settings) (Fits settings) [] mentions:=by
 have kept:∀records mention,True→Apart records →
   (Apart (next settings records mention) ↔ Fits settings records mention):=
  fun records mention _ apart=>apart_next apart mention
 have exact:=Runs.always_iff_along (fun _ _ _=>trivial) kept trivial apart_empty mentions
 refine (and_iff_left_of_imp ?_).trans exact
 intro _ done mention _ left
 unfold reached at left ⊢
 rw[List.foldl_append]
 exact next_open left

def sampleSettings:Settings where
 text:=⟨id,fun name=>[name],fun _=>none,id⟩
 candidateSimilarity:=3/5

def betaMention (vat:String):Mention where
 organization:=⟨"Beta AG",[⟨"CHE-UID","CHE-111.111.111"⟩,⟨"EU-VAT",vat⟩],none,none⟩
 sourceSystem:="simap"
 vies:=none

/-- One shared identifier joins what another registry tells apart. -/
theorem official_tier_merges_two_vat_numbers :
 ¬∀mentions done,done <+: mentions→Apart (reached sampleSettings done):=by
 intro claim
 have apart:=claim [betaMention "DE123456789",betaMention "FR12345678901"] _ List.prefix_rfl
 have keys:((reached sampleSettings [betaMention "DE123456789",
   betaMention "FR12345678901"])[0]?).map (·.officialKeys) =
   some [("ch-uid","CHE111111111"),("eu-vat","DE123456789"),("eu-vat","FR12345678901")]:=by
  decide +kernel
 obtain ⟨record,found,held⟩:=Option.map_eq_some_iff.mp keys
 have same:=apart.value 0 record "eu-vat" "DE123456789" "FR12345678901" found
  (by rw[held];decide) (by rw[held];decide)
 exact absurd same (by decide)

section
variable {settings:Settings}{records:List Record}{holds refused:Record→Bool}
 {method:MatchMethod}{basis:List Basis}{n:ℕ}{mention:Mention}

lemma scan_some {m:ℕ}(h:(scan holds refused method records m basis).1=some n) :
 m≤n ∧ ∃record,records[n-m]?=some record ∧ holds record=true:=by
 induction records generalizing m basis with
 | nil=>cases h
 | cons first rest ih =>
  have later {basis:List Basis} (h:(scan holds refused method rest (m+1) basis).1=some n) :
    m≤n ∧ ∃record,(first::rest)[n-m]?=some record ∧ holds record=true:=by
   obtain ⟨past,record,found,held⟩:=ih h
   refine ⟨by omega,record,?_,held⟩
   rw[show n-m=n-(m+1)+1 by omega,List.getElem?_cons_succ]
   exact found
  unfold scan at h
  split at h
  · rename_i held
    split at h
    · exact later h
    · cases h
      exact ⟨le_rfl,first,by simp,held⟩
  · exact later h

lemma matchOfficial_some {identifiers:List ClassifiedIdentifier}
 (h:(matchOfficial records identifiers basis).1=some n) :
 ∃record,records[n]?=some record ∧ ∃key∈officialKeysOf identifiers,key∈record.officialKeys:=by
 unfold matchOfficial officialKeysOf at *
 generalize ofStrength .official identifiers=mine at h ⊢
 induction mine generalizing basis with
 | nil=>cases h
 | cons i rest ih =>
  unfold matchIdentifiers at h
  split at h
  · rename_i found hscan
    cases h
    obtain ⟨-,record,there,held⟩:=scan_some (congrArg Prod.fst hscan)
    exact ⟨record,there,i.key,List.mem_cons_self,of_decide_eq_true held⟩
  · obtain ⟨record,there,key,mem,held⟩:=ih h
    exact ⟨record,there,key,List.mem_cons_of_mem _ mem,held⟩

/-- Every company keeps its place, what it was made with and its official identifiers. -/
def Continues (records records':List Record):Prop:=
 ∀ (n:ℕ)(record:Record),records[n]?=some record→∃record',records'[n]?=some record' ∧
  {record'.company with aliases:=[]}={record.company with aliases:=[]} ∧
  record.officialKeys ⊆ record'.officialKeys

lemma Continues.refl (records:List Record):Continues records records:=
 fun _ record found=>⟨record,found,rfl,List.Subset.refl _⟩

lemma continues_next:Continues records (next settings records mention):=by
 unfold next Mention.resolved resolve
 dsimp only
 split
 · exact .refl records
 · split
   · rename_i k status trace hmatch
     intro n record found
     refine ⟨_,modify_found.mpr ⟨record,found,rfl⟩,?_⟩
     split
     · refine ⟨?_,fun key held=>mem_attached_officialKeys.mpr (.inl held)⟩
       unfold attached indexed Company.withAlias
       dsimp only
       split <;> rfl
     · exact ⟨rfl,List.Subset.refl _⟩
   · rename_i trace hmatch
     rcases resolveNew_records trace with ⟨-,same⟩|⟨-,⟨-,same⟩|⟨verified,new⟩⟩
     · rw[same]
       exact .refl records
     · rw[same]
       exact .refl records
     · rw[new]
       exact fun n record found=>⟨record,append_found.mpr (.inl found),rfl,List.Subset.refl _⟩

/-- Through every sequence of mentions the companies keep their places and official identifiers,
and a mention of a known official identifier makes no company: it conflicts and changes nothing, or
it is attached, as verified, to a company that holds one of its official identifiers. -/
theorem known_identifiers_make_no_company (settings:Settings)(mentions:List Mention) :
 (∀earlier,earlier <+: mentions →
  Continues (reached settings earlier) (reached settings mentions)) ∧
 ∀mention:Mention,∀record∈reached settings mentions,∀key∈record.officialKeys,
  key∈officialKeysOf (mention.identifiers settings) →
  let answer:=mention.resolved settings (reached settings mentions)
  answer.1.length=(reached settings mentions).length ∧
   (answer.2.status=.conflict ∧ answer.2.company=none ∧ answer.1=reached settings mentions ∨
    answer.2.status=.verified ∧ ∃n other,answer.2.company=some n ∧
     (reached settings mentions)[n]?=some other ∧
     ∃shared∈officialKeysOf (mention.identifiers settings),shared∈other.officialKeys):=by
 constructor
 · rintro earlier ⟨later,rfl⟩
   unfold reached
   rw[List.foldl_append]
   refine Runs.related Continues.refl (fun first second n record found=>?_)
    (fun _ _=>continues_next) _ later
   obtain ⟨middle,there,same,held⟩:=first n record found
   obtain ⟨last,there',same',held'⟩:=second n middle there
   exact ⟨last,there',same'.trans same,List.Subset.trans held held'⟩
 · intro mention record mem key held published
   unfold Mention.identifiers at *
   unfold Mention.resolved resolve
   dsimp only
   split
   · exact ⟨rfl,.inl ⟨rfl,rfl,rfl⟩⟩
   · cases hmatch:(matchOfficial (reached settings mentions)
      (mention.organization.identifiers.map (classify settings.text)) []).1 with
    | some n =>
     obtain ⟨other,there,shared⟩:=matchOfficial_some hmatch
     unfold recognise
     rw[←Prod.mk.eta (p:=matchOfficial _ _ _),hmatch]
     exact ⟨List.length_modify ..,.inr ⟨rfl,n,other,rfl,there,shared⟩⟩
    | none =>
     obtain ⟨i,mine,rfl⟩:=List.mem_map.mp published
     cases matchIdentifiers_none hmatch i mine record mem (decide_eq_true held)

end

end Kivou.Resolution
