import Kivou.ComplianceRules

set_option autoImplicit false

/-! Suppressions are only ever added, so an address that was suppressed in a scope stays so for
every keyring that keeps the secrets of its versions. -/
namespace Kivou.ComplianceOptOuts
open PythonValues ComplianceSuppressions ComplianceRules

section OptOuts
variable {p:Primitives}{s s':Store}{keyring:Keyring}{scope:Scope}
 {secrets:String→List UInt8}{address:String}

def Agrees (secrets:String→List UInt8)(keyring:Keyring):Prop:=∀key∈keyring.keys,key.2=secrets key.1

variable (p secrets scope address) in
def Names (row:String × Suppression):Prop:=row.2.scope=scope ∧
  row.2.identityHmac=hexdigest (p.hmac (secrets row.2.identityKeyVersion) scope address)

instance (row:String × Suppression):Decidable (Names p scope secrets address row):=
 inferInstanceAs (Decidable (_ ∧ _))

lemma Store.append_ok {values row:Suppression}(h:s.append p values=.ok (s',row)) :
 row=values ∧ (∀r∈s.rows,r∈s'.rows) ∧ (∃id,(id,values)∈s'.rows) ∧
  ∀r∈s'.rows,r∈s.rows ∨ r=(hexdigest (p.suppressionId values),values):=by
 simp only[Store.append] at h
 split at h
 · cases h
   refine ⟨rfl,fun r mem=>List.mem_append_left _ mem,
    ⟨_,List.mem_append_right _ (List.mem_singleton.mpr rfl)⟩,fun r mem=>?_⟩
   exact (List.mem_append.mp mem).imp_right List.mem_singleton.mp
 · rename_i row' found
   split at h
   · rename_i same
     cases h
     exact ⟨same,fun r mem=>mem,⟨row'.1,same ▸ List.mem_of_find?_eq_some found⟩,fun r mem=>.inl mem⟩
   · cases h

lemma identity_ok {email version identity:String}{identities:List (String × String)}
 (agrees:Agrees secrets keyring)(normal:normalizeBusinessEmail p email=.ok address)
 (h:keyring.identitiesForEmail p scope email=.ok identities)
 (found:identityOf identities version=.ok identity) :
 identity=hexdigest (p.hmac (secrets version) scope address):=by
 obtain ⟨address',normal',h⟩:=bind_ok.mp h
 rw[normal] at normal'
 cases normal'
 cases h
 unfold identityOf at found
 cases hfound:(keyring.keys.map fun key=>(key.1,hexdigest (p.hmac key.2 scope address))).find?
   (·.1==version) with
 | none=>simp[hfound] at found
 | some entry =>
  rw[hfound] at found
  cases found
  obtain ⟨key,mem,rfl⟩:=List.mem_map.mp (List.mem_of_find?_eq_some hfound)
  have named:=List.find?_some hfound
  rw[beq_iff_eq] at named
  change key.1=version at named
  subst named
  change hexdigest (p.hmac key.2 scope address)=_
  rw[agrees key mem]

variable {contactRef:String}{contact:Contact}

lemma Store.contact_ok (h:s.contact contactRef=.ok contact):s.contacts contactRef=some contact:=by
 unfold Store.contact at h
 cases hfound:s.contacts contactRef with
 | none=>simp[hfound] at h
 | some contact' =>
  rw[hfound] at h
  cases h
  rfl

lemma recordForContact_ok {evidenceRef:String}{source:Source}
 {reasonCode:ReasonCode}{receivedAt:DateTime}{effectiveAt:Option DateTime}
 {keyVersion:Option String}{row:Suppression}
 (h:recordForContact p keyring scope contactRef source reasonCode evidenceRef receivedAt
  effectiveAt keyVersion s=.ok (s',row)) :
 ∃contact identities,s.contacts contactRef=some contact ∧
  keyring.identitiesForEmail p scope contact.businessEmail=.ok identities ∧
  identityOf identities row.identityKeyVersion=.ok row.identityHmac ∧ row.scope=scope ∧
  s.append p row=.ok (s',row):=by
 obtain ⟨received,-,h⟩:=bind_ok.mp h
 obtain ⟨effective,-,h⟩:=bind_ok.mp h
 split at h
 · cases h
 · obtain ⟨-,-,h⟩:=bind_ok.mp h
   obtain ⟨contact,hcontact,h⟩:=bind_ok.mp h
   obtain ⟨identities,hidentities,h⟩:=bind_ok.mp h
   obtain ⟨retention,-,h⟩:=bind_ok.mp h
   obtain ⟨identity,hidentity,h⟩:=bind_ok.mp h
   have same:=(Store.append_ok h).1
   subst same
   exact ⟨contact,identities,Store.contact_ok hcontact,hidentities,hidentity,rfl,h⟩

lemma recordForEmail_ok {email evidenceRef:String}{source:Source}{reasonCode:ReasonCode}
 {receivedAt:DateTime}{row:Suppression}
 (h:recordForEmail p keyring scope email source reasonCode evidenceRef receivedAt s =
  .ok (s',row)) :
 ∃identities,keyring.identitiesForEmail p scope email=.ok identities ∧
  identityOf identities row.identityKeyVersion=.ok row.identityHmac ∧ row.scope=scope ∧
  s.append p row=.ok (s',row):=by
 obtain ⟨received,-,h⟩:=bind_ok.mp h
 split at h
 · cases h
 · obtain ⟨identities,hidentities,h⟩:=bind_ok.mp h
   obtain ⟨retention,-,h⟩:=bind_ok.mp h
   obtain ⟨identity,hidentity,h⟩:=bind_ok.mp h
   have same:=(Store.append_ok h).1
   subst same
   exact ⟨identities,hidentities,hidentity,rfl,h⟩

inductive Event where
 | contact (contactRef:String)(contact:Contact)
 | recordForContact (keyring:Keyring)(scope:Scope)(contactRef:String)(source:Source)
  (reasonCode:ReasonCode)(evidenceRef:String)(receivedAt:DateTime)
  (effectiveAt:Option DateTime)(keyVersion:Option String)
 | recordForEmail (keyring:Keyring)(scope:Scope)(email:String)(source:Source)
  (reasonCode:ReasonCode)(evidenceRef:String)(receivedAt:DateTime)

variable (p) in
def apply (s:Store):Event→Except Failure Store
 | .contact contactRef contact =>
  .ok {s with contacts:=Function.update s.contacts contactRef (some contact)}
 | .recordForContact keyring scope contactRef source reasonCode evidenceRef receivedAt effectiveAt
   keyVersion =>
  (recordForContact p keyring scope contactRef source reasonCode evidenceRef receivedAt effectiveAt
   keyVersion s).map Prod.fst
 | .recordForEmail keyring scope email source reasonCode evidenceRef receivedAt =>
  (recordForEmail p keyring scope email source reasonCode evidenceRef receivedAt s).map Prod.fst

variable (p) in
def step (s:Store)(e:Event):Store:=(apply p s e).toOption.getD s

def Store.empty:Store:=⟨[],fun _=>none⟩

variable (p) in
def reached (events:List Event):Store:=events.foldl (step p) Store.empty

def Event.agrees (secrets:String→List UInt8):Event→Prop
 | .contact _ _=>True
 | .recordForContact keyring ..=>Agrees secrets keyring
 | .recordForEmail keyring ..=>Agrees secrets keyring

variable (p scope address) in
def Suppresses (s:Store)(e:Event):Prop:=(∃s',apply p s e=.ok s') ∧
  match e with
  | .contact _ _=>False
  | .recordForContact _ scope' contactRef ..=>scope'=scope ∧ ∃contact,
    s.contacts contactRef=some contact ∧ normalizeBusinessEmail p contact.businessEmail=.ok address
  | .recordForEmail _ scope' email ..=>scope'=scope ∧ normalizeBusinessEmail p email=.ok address

lemma map_ok {α β:Type}{f:α→β}{x:Except Failure α}{b:β}(h:x.map f=.ok b) : ∃a,x=.ok a ∧ b=f a:=by
 cases x with
 | error failure=>cases h
 | ok a =>
  cases h
  exact ⟨a,rfl,rfl⟩

lemma contacts_written (s:Store)(contactRef:String)(contact:Contact) :
 (step p s (.contact contactRef contact)).contacts contactRef=some contact:=by
 simp[step,apply,Except.toOption]

lemma apply_ok {e:Event}(h:apply p s e=.ok s') :
 s'.rows=s.rows ∨ ∃row,s.append p row=.ok (s',row):=by
 cases e with
 | contact contactRef contact =>
  cases h
  exact .inl rfl
 | recordForContact keyring scope contactRef source reasonCode evidenceRef receivedAt effectiveAt
   keyVersion =>
  obtain ⟨⟨s'',row⟩,h,rfl⟩:=map_ok h
  obtain ⟨contact,identities,-,-,-,-,appended⟩:=recordForContact_ok h
  exact .inr ⟨row,appended⟩
 | recordForEmail keyring scope email source reasonCode evidenceRef receivedAt =>
  obtain ⟨⟨s'',row⟩,h,rfl⟩:=map_ok h
  obtain ⟨identities,-,-,-,appended⟩:=recordForEmail_ok h
  exact .inr ⟨row,appended⟩

lemma step_eq (e:Event):step p s e=s ∨ apply p s e=.ok (step p s e):=by
 unfold step
 cases apply p s e with
 | error failure=>exact .inl rfl
 | ok s'=>exact .inr rfl

lemma mem_step (e:Event){row:String × Suppression}(mem:row∈s.rows) : row∈(step p s e).rows:=by
 cases step_eq e with
 | inl same=>rwa[same]
 | inr applied =>
  cases apply_ok applied with
  | inl same=>rwa[same]
  | inr appended =>
   obtain ⟨values,appended⟩:=appended
   exact (Store.append_ok appended).2.1 row mem

lemma mem_steps (events:List Event){row:String × Suppression}(mem:row∈s.rows) :
 row∈(events.foldl (step p) s).rows:=by
 induction events generalizing s with
 | nil=>exact mem
 | cons e events ih=>exact ih (mem_step e mem)

def Identified (s:Store):Prop:=∀row∈s.rows,∃digest:Digest,row.1=hexdigest digest

lemma identified_step (identified:Identified s)(e:Event):Identified (step p s e):=by
 intro row mem
 cases step_eq (p:=p) (s:=s) e with
 | inl same=>exact identified row (same ▸ mem)
 | inr applied =>
  cases apply_ok applied with
  | inl same=>exact identified row (same ▸ mem)
  | inr appended =>
   obtain ⟨values,appended⟩:=appended
   cases (Store.append_ok appended).2.2.2 row mem with
   | inl old=>exact identified row old
   | inr fresh=>exact ⟨p.suppressionId values,by rw[fresh]⟩

lemma identified_steps (events:List Event)(identified:Identified s) :
 Identified (events.foldl (step p) s):=by
 induction events generalizing s with
 | nil=>exact identified
 | cons e events ih=>exact ih (identified_step identified e)

lemma reached_identified (events:List Event):Identified (reached p events):=
 identified_steps events fun _ mem=>absurd mem List.not_mem_nil

lemma suppresses_names {e:Event}(agrees:e.agrees secrets) (h:Suppresses p scope address s e) :
 ∃row∈(step p s e).rows,Names p scope secrets address row:=by
 obtain ⟨⟨s',applied⟩,target⟩:=h
 have stepped:step p s e=s':=by rw[step,applied];rfl
 rw[stepped]
 cases e with
 | contact contactRef contact=>exact target.elim
 | recordForContact keyring scope' contactRef source reasonCode evidenceRef receivedAt effectiveAt
   keyVersion =>
  obtain ⟨rfl,contact,known,normal⟩:=target
  obtain ⟨⟨s'',row⟩,applied,rfl⟩:=map_ok applied
  obtain ⟨contact',identities,known',computed,found,within,appended⟩:=recordForContact_ok applied
  rw[known] at known'
  cases known'
  obtain ⟨-,-,⟨id,mem⟩,-⟩:=Store.append_ok appended
  exact ⟨(id,row),mem,within,identity_ok agrees normal computed found⟩
 | recordForEmail keyring scope' email source reasonCode evidenceRef receivedAt =>
  obtain ⟨rfl,normal⟩:=target
  obtain ⟨⟨s'',row⟩,applied,rfl⟩:=map_ok applied
  obtain ⟨identities,computed,found,within,appended⟩:=recordForEmail_ok applied
  obtain ⟨-,-,⟨id,mem⟩,-⟩:=Store.append_ok appended
  exact ⟨(id,row),mem,within,identity_ok agrees normal computed found⟩

lemma hexdigest_isWhiteSpace {digest:Digest}{c:Char}(mem:c∈(hexdigest digest).toList) :
 isWhiteSpace c=false:=by
 have checked:∀n:Fin 16,isWhiteSpace (hexDigit n)=false:=by decide
 rw[hexdigest,String.toList_ofList] at mem
 obtain ⟨i,-,rfl⟩:=List.mem_map.mp mem
 exact checked ⟨_,Nat.mod_lt _ (by decide)⟩

lemma length_hexdigest (digest:Digest):(hexdigest digest).toList.length=64:=by
 rw[hexdigest,String.toList_ofList,List.length_map,List.length_reverse,List.length_range]

lemma bounded_ref (digest:Digest) :
 bounded 256 ("acquisition-suppression:"++hexdigest digest)=true:=by
 have letters:("acquisition-suppression:"++hexdigest digest).toList =
   'a' :: ("cquisition-suppression:".toList++(hexdigest digest).toList):=by
  rw[String.toList_append]
  rfl
 have filled:(hexdigest digest).toList≠[]:=
  List.ne_nil_of_length_pos (by rw[length_hexdigest];decide)
 have kept:trim ("acquisition-suppression:"++hexdigest digest) =
   "acquisition-suppression:"++hexdigest digest:=by
  refine (trimWith_eq_self_iff isWhiteSpace _).mpr ⟨?_,?_⟩
  · rw[letters]
    intro _ white
    change isWhiteSpace 'a' = true at white
    exact absurd white (by decide)
  · rw[letters]
    intro some white
    rw[List.getLast_cons (List.append_ne_nil_of_right_ne_nil _ filled),
     List.getLast_append_of_ne_nil _ filled] at white
    rw[hexdigest_isWhiteSpace (List.getLast_mem filled)] at white
    cases white
 have size:("acquisition-suppression:"++hexdigest digest).toList.length=88:=by
  rw[letters,List.length_cons,List.length_append,length_hexdigest]
  rfl
 unfold bounded
 rw[kept,size,Bool.and_eq_true]
 refine ⟨?_,rfl⟩
 rw[Bool.not_eq_true',String.isEmpty_eq_false_iff]
 intro empty
 rw[empty] at size
 cases size

def Keyring.Legible (keyring:Keyring):Prop:=∀key∈keyring.keys,trim key.1≠""

lemma length_trim (text:String):(trim text).toList.length≤text.toList.length:=by
 rw[trim,trimWith,String.toList_ofList]
 have kept:((text.toList.dropWhile isWhiteSpace).rdropWhile isWhiteSpace).length ≤
   (text.toList.dropWhile isWhiteSpace).length:=(List.rdropWhile_prefix _ _).length_le
 exact kept.trans (List.dropWhile_suffix _).length_le

lemma versions_bounded (keyring:Keyring) :
 keyring.versions.all (bounded 100)=true ↔ Keyring.Legible keyring:=by
 have short:∀key∈keyring.keys,(trim key.1).toList.length≤100:=fun key mem=>
  ((length_trim key.1).trans (keyring.named key mem).2).trans (by omega)
 rw[List.all_eq_true]
 constructor
 · intro all key mem blank
   have shown:=all key.1 ((List.mem_insertionSort _).mpr (List.mem_map.mpr ⟨key,mem,rfl⟩))
   rw[bounded,blank] at shown
   cases shown
 · intro legible version mem
   obtain ⟨key,known,rfl⟩:=List.mem_map.mp ((List.mem_insertionSort _).mp mem)
   rw[bounded,Bool.and_eq_true,Bool.not_eq_true',String.isEmpty_eq_false_iff,decide_eq_true_eq]
   exact ⟨legible key known,short key known⟩

def Withholds (answer:Except Failure SuppressionMatch):Prop:=
 ∃found,answer=.ok found ∧ found.state≠.clear ∧
  ∀ (semanticFingerprint:ProposalValues→String)(value:ComplianceInput)
   (config:ComplianceRulesetConfig)(proposed:ComplianceProposal),
   value.suppressionMatchState=found.state →
   evaluateCompliance semanticFingerprint value config=.ok proposed→proposed.state≠.allowed

lemma withholds_validated {m:SuppressionMatch}(versions:m.keyVersionsConsidered=keyring.versions)
 (refs:m.suppressionRefs.all (bounded 256)=true) :
 Withholds m.validated ↔ Keyring.Legible keyring ∧ m.state≠.clear ∧ m.suppressionRefs.length≤16:=by
 have length:keyring.versions.length=keyring.keys.length:=by
  rw[Keyring.versions,List.length_insertionSort,List.length_map]
 have least:1≤keyring.keys.length:=by
  have current:=List.length_pos_of_mem keyring.current
  rwa[List.length_map] at current
 unfold SuppressionMatch.validated
 rw[versions,length]
 constructor
 · rintro ⟨found,h,state,-⟩
   split at h
   · rename_i valid
     cases h
     exact ⟨(versions_bounded keyring).mp valid.2.2.1,state,valid.2.2.2.1⟩
   · cases h
 · rintro ⟨legible,state,few⟩
   rw[if_pos ⟨least,keyring.bounded,(versions_bounded keyring).mpr legible,few,refs⟩]
   refine ⟨_,rfl,state,?_⟩
   intro semanticFingerprint value config proposed same h allowed
   exact state (same.symm.trans (allowed_clear h allowed))

variable (p secrets scope address) in
def Store.effective (s:Store)(assessedAt:Option DateTime):List (String × Suppression):=
 s.rows.filter fun row=>decide (Names p scope secrets address row) &&
  (assessedAt.bind instant).all fun now=>decide (row.2.effectiveAt≤now)

def Covers (keyring:Keyring)(scope:Scope)(s:Store):Prop:=
 ∀version∈s.retained scope,version∈keyring.keys.map Prod.fst

lemma mem_retained {row:String × Suppression}(mem:row∈s.rows)(within:row.2.scope=scope) :
 row.2.identityKeyVersion∈s.retained scope:=by
 refine List.mem_dedup.mpr (List.mem_map.mpr ⟨row,List.mem_filter.mpr ⟨mem,?_⟩,rfl⟩)
 rw[within]
 exact beq_self_eq_true scope

lemma selected_eq (agrees:Agrees secrets keyring)(covers:Covers keyring scope s)
 (assessedAt:Option DateTime) :
 Store.selected s scope (keyring.keys.map fun key=>(key.1,hexdigest (p.hmac key.2 scope address)))
  (assessedAt.bind instant)=Store.effective p scope secrets address s assessedAt:=by
 refine List.filter_congr fun row mem=>?_
 congr 1
 rw[Bool.eq_iff_iff,Bool.and_eq_true,beq_iff_eq,List.contains_iff_mem,decide_eq_true_eq]
 constructor
 · rintro ⟨within,found⟩
   obtain ⟨key,known,same⟩:=List.mem_map.mp found
   obtain ⟨version,hmac⟩:=Prod.mk.inj same
   exact ⟨within,by rw[←hmac,←version,agrees key known]⟩
 · rintro ⟨within,hmac⟩
   obtain ⟨key,known,version⟩:=List.mem_map.mp (covers _ (mem_retained mem within))
   exact ⟨within,List.mem_map.mpr ⟨key,known,by rw[hmac,←version,agrees key known]⟩⟩

def Timely (p:Primitives)(secrets:String→List UInt8)(scope:Scope)(address:String)
 (s:Store)(assessedAt:Option DateTime):Prop:=
 ∀d∈assessedAt,∃now,instant d=some now ∧
  ∃row∈s.rows,Names p scope secrets address row ∧ row.2.effectiveAt≤now

lemma effective_ne_nil {assessedAt:Option DateTime}
 (suppressed:∃row∈s.rows,Names p scope secrets address row)
 (timely:Timely p secrets scope address s assessedAt) :
 Store.effective p scope secrets address s assessedAt≠[]:=by
 cases assessedAt with
 | none =>
  obtain ⟨row,mem,names⟩:=suppressed
  refine List.ne_nil_of_mem (List.mem_filter.mpr ⟨mem,?_⟩)
  rw[Bool.and_eq_true,decide_eq_true_eq]
  exact ⟨names,rfl⟩
 | some d =>
  obtain ⟨now,named,row,mem,names,effective⟩:=timely d rfl
  refine List.ne_nil_of_mem (List.mem_filter.mpr ⟨mem,?_⟩)
  rw[Bool.and_eq_true,decide_eq_true_eq,Option.bind_some,named]
  exact ⟨names,decide_eq_true effective⟩

lemma timely_of_effective {assessedAt:Option DateTime} (timed:∀d∈assessedAt,(instant d).isSome)
 (found:Store.effective p scope secrets address s assessedAt≠[]) :
 Timely p secrets scope address s assessedAt:=by
 intro d given
 obtain ⟨now,named⟩:=Option.isSome_iff_exists.mp (timed d given)
 obtain ⟨row,mem⟩:=List.exists_mem_of_ne_nil _ found
 obtain ⟨mem,shown⟩:=List.mem_filter.mp mem
 rw[Bool.and_eq_true,decide_eq_true_eq,given,Option.bind_some,named] at shown
 exact ⟨now,named,row,mem,shown.1,of_decide_eq_true shown.2⟩

lemma clock_ok {assessedAt:Option DateTime}{message:String}
 (timed:∀d∈assessedAt,(instant d).isSome) :
 (assessedAt.elim (.ok none) fun d=>do .ok (some (←awareInstant message d)) :
  Except Failure (Option ℤ))=.ok (assessedAt.bind instant):=by
 cases assessedAt with
 | none=>rfl
 | some d =>
  obtain ⟨now,named⟩:=Option.isSome_iff_exists.mp (timed d rfl)
  simp only[Option.elim_some,awareInstant,Option.bind_some,named]
  rfl

lemma clock_error {assessedAt:Option DateTime}{message:String}
 (timed:¬ ∀d∈assessedAt,(instant d).isSome) :
 (assessedAt.elim (.ok none) fun d=>do .ok (some (←awareInstant message d)) :
  Except Failure (Option ℤ))=.error (.valueError message):=by
 cases assessedAt with
 | none=>exact absurd (fun d given=>by cases given) timed
 | some d =>
  have naive:instant d=none:=by
   cases named:instant d with
   | none=>rfl
   | some now=>exact absurd (fun d' given=>by cases given;rw[named];rfl) timed
  simp only[Option.elim_some,awareInstant,naive]
  rfl

lemma withholds_found {rows:List (String × Suppression)}
 (identified:∀row∈rows,∃digest:Digest,row.1=hexdigest digest) :
 Withholds (keyring.found rows) ↔ Keyring.Legible keyring ∧ rows≠[] ∧ rows.length≤16:=by
 let found:=(rows.map Prod.fst).insertionSort (· ≤ ·)
 have length:found.length=rows.length:=by
  rw[List.length_insertionSort,List.length_map]
 have refs:(found.map ("acquisition-suppression:" ++ ·)).all (bounded 256)=true:=by
  rw[List.all_eq_true]
  intro ref mem
  obtain ⟨id,listed,rfl⟩:=List.mem_map.mp mem
  obtain ⟨row,stored,rfl⟩:=List.mem_map.mp ((List.mem_insertionSort _).mp listed)
  obtain ⟨digest,same⟩:=identified row stored
  rw[same]
  exact bounded_ref digest
 have state:(if found.isEmpty then MatchState.clear else .matched)≠.clear ↔ rows≠[]:=by
  rw[←List.length_pos_iff,←length,List.length_pos_iff]
  cases found with
  | nil=>simp
  | cons id ids=>simp
 change Withholds (SuppressionMatch.validated _) ↔ _
 rw[withholds_validated rfl refs,List.length_map,length]
 exact and_congr_right fun _=>and_congr_left fun _=>state

lemma withholds_coverageUnsafe:Withholds keyring.coverageUnsafe ↔ Keyring.Legible keyring:=by
 have reason:["suppression-keyring:coverage-unsafe"].all (bounded 256)=true:=by decide
 unfold Keyring.coverageUnsafe
 rw[withholds_validated rfl reason]
 exact ⟨fun h=>h.1,fun h=>⟨h,MatchState.noConfusion,Nat.le_of_ble_eq_true rfl⟩⟩

lemma covers_iff:keyring.covers (s.retained scope)=true ↔ Covers keyring scope s:=by
 rw[Keyring.covers,List.all_eq_true]
 exact forall₂_congr fun version _=>List.contains_iff_mem

lemma matchContact_eq (assessedAt:Option DateTime) (known:s.contacts contactRef=some contact)
 (normal:normalizeBusinessEmail p contact.businessEmail=.ok address) :
 matchContact p keyring scope contactRef assessedAt s =
  if keyring.covers (s.retained scope) then do
   let now ←assessedAt.elim (.ok none) fun d=>do
    .ok (some (←awareInstant "suppression assessment time must be timezone-aware" d))
   keyring.found (s.selected scope (keyring.keys.map fun key=>
    (key.1,hexdigest (p.hmac key.2 scope address))) now)
  else keyring.coverageUnsafe:=by
 have read:s.contact contactRef=.ok contact:=by rw[Store.contact,known];rfl
 have computed:keyring.identitiesForEmail p scope contact.businessEmail =
   .ok (keyring.keys.map fun key=>(key.1,hexdigest (p.hmac key.2 scope address))):=by
  rw[Keyring.identitiesForEmail,normal]
  rfl
 unfold matchContact
 rw[read]
 change (keyring.identitiesForEmail p scope contact.businessEmail >>= _)=_
 rw[computed]
 rfl

lemma matchContact_found {assessedAt:Option DateTime}
 (agrees:Agrees secrets keyring)(known:s.contacts contactRef=some contact)
 (normal:normalizeBusinessEmail p contact.businessEmail=.ok address)
 (covers:Covers keyring scope s)(timed:∀d∈assessedAt,(instant d).isSome) :
 matchContact p keyring scope contactRef assessedAt s =
  keyring.found (Store.effective p scope secrets address s assessedAt):=by
 rw[matchContact_eq assessedAt known normal,if_pos (covers_iff.mpr covers),clock_ok timed]
 change keyring.found _=_
 rw[selected_eq agrees covers]

lemma matchContact_raises {assessedAt:Option DateTime}
 (agrees:Agrees secrets keyring)(known:s.contacts contactRef=some contact)
 (normal:normalizeBusinessEmail p contact.businessEmail=.ok address)
 (covers:Covers keyring scope s)(timed:∀d∈assessedAt,(instant d).isSome)
 (many:16<(Store.effective p scope secrets address s assessedAt).length) :
 matchContact p keyring scope contactRef assessedAt s=.error .validationError:=by
 rw[matchContact_found agrees known normal covers timed]
 refine if_neg fun valid=>?_
 have few:=valid.2.2.2.1
 rw[List.length_map,List.length_insertionSort,List.length_map] at few
 exact absurd few (Nat.not_le.mpr many)

lemma matchContact_withholds {assessedAt:Option DateTime}
 (agrees:Agrees secrets keyring)(identified:Identified s)
 (known:s.contacts contactRef=some contact)
 (normal:normalizeBusinessEmail p contact.businessEmail=.ok address)
 (suppressed:∃row∈s.rows,Names p scope secrets address row) :
 Withholds (matchContact p keyring scope contactRef assessedAt s) ↔
  Keyring.Legible keyring ∧ (¬Covers keyring scope s ∨
   (Timely p secrets scope address s assessedAt ∧
    (Store.effective p scope secrets address s assessedAt).length≤16)):=by
 by_cases covers:Covers keyring scope s
 · by_cases timed:∀d∈assessedAt,(instant d).isSome
   · rw[matchContact_found agrees known normal covers timed]
     refine (withholds_found fun row mem=>identified row (List.mem_of_mem_filter mem)).trans ?_
     constructor
     · rintro ⟨legible,found,few⟩
       exact ⟨legible,.inr ⟨timely_of_effective timed found,few⟩⟩
     · rintro ⟨legible,uncovered|⟨timely,few⟩⟩
       · exact absurd covers uncovered
       · exact ⟨legible,effective_ne_nil suppressed timely,few⟩
   · rw[matchContact_eq assessedAt known normal,if_pos (covers_iff.mpr covers),clock_error timed]
     constructor
     · rintro ⟨found,h,-⟩
       cases h
     · rintro ⟨-,uncovered|⟨timely,-⟩⟩
       · exact absurd covers uncovered
       · refine absurd (fun d given=>?_) timed
         obtain ⟨now,named,-⟩:=timely d given
         rw[named]
         rfl
 · rw[matchContact_eq assessedAt known normal,if_neg (covers_iff.not.mpr covers),
    withholds_coverageUnsafe]
   exact ⟨fun legible=>⟨legible,.inl covers⟩,fun h=>h.1⟩

/-- Over every history of suppressions, what a suppressed address is answered:
the answer withholds exactly when no version of the keyring is blank and the
keyring lacks a retained version, or a row is in effect by the time that the
lookup gives and sixteen references are enough. -/
theorem opt_outs_hold (p:Primitives)(secrets:String→List UInt8)(events:List Event)(e:Event)
 (later:List Event)(keyring:Keyring)(scope:Scope)(address contactRef:String)
 (contact:Contact)(assessedAt:Option DateTime)
 (recorded:∀event∈events++e::later,event.agrees secrets)(agrees:Agrees secrets keyring)
 (suppressed:Suppresses p scope address (reached p events) e)
 (known:(reached p (events++e::later)).contacts contactRef=some contact)
 (normal:normalizeBusinessEmail p contact.businessEmail=.ok address) :
 let s:=reached p (events++e::later)
 Withholds (matchContact p keyring scope contactRef assessedAt s) ↔
  Keyring.Legible keyring ∧ (¬Covers keyring scope s ∨
   (Timely p secrets scope address s assessedAt ∧
    (Store.effective p scope secrets address s assessedAt).length≤16)):=by
 intro s
 obtain ⟨row,mem,names⟩:=suppresses_names (recorded e (by simp)) suppressed
 have stays:row∈s.rows:=by
  change row∈((events++e::later).foldl (step p) Store.empty).rows
  rw[List.foldl_append]
  exact mem_steps later mem
 exact matchContact_withholds agrees (reached_identified _) known normal ⟨row,stays,names⟩

end OptOuts

def digestOf (n:ℕ):Digest:=⟨n%2^256,Nat.mod_lt n (by decide)⟩

def sampleDigests:List Digest:=List.map digestOf
 [0x2d63fd19131b18741903d0af9001ad9656cf90cadaac40aa726d31629c99893e,
  0x0411305ec1ef9c9e8c4213fa454e79407d7742d1a18c5b32ffa0ecb8cef3bd76,
  0x52637d07bbe588459f705391a2399cc152eb1086adae61061ad416636fa630ba,
  0x83bb9fa138229a2578f239ce79a2cf4d0d703cf92de272b3427a027369d6136e,
  0x4fcef170d2b63c26271df5a847833d39f6361a0b7671ab1cbac5f5823c0624b1,
  0xab3c41c0a30bdc80b60498041f9784a43d208e1c29791e3d46d5698e402306e4,
  0x27804f74e2c2fd795743712d95897abe533dcb828846f2b60f3092a839180e35,
  0xac21bf9b60e679a0b09d29244572138b9b2a8f9d02f77e8cfbbc6316e63f1e09,
  0xa55337aa268e3ba10fa28c047624867bbc858bfbda10d7a07fa0f33d68a8c4db,
  0x9383d5ab819c65b17da8765654efcb94851201d3c359082afaa0a0587508f89a,
  0xdf230e383d64948b0d7babea148936f40f4ba31dcbbde9dfbf8240642489fa57,
  0x7c52107ec097d4337cf40edb2f3743dfd526b085098bf311d56d56bcdbf802a8,
  0xdbfd11681830fb665061e666c4097de699301171196dd5d0c557e1436ba1122d,
  0xe707c882ed603bf4fe1708bd5a95930563ec37924f59a669dd1e2de618b80516,
  0x29d0fed3632fb34736b362e41b6b5bc2aaf8c17cb94735eb3c97559aff07534c,
  0x4e746bb6512da79363a0426d573cac3ac02ef61319580bd14aa15eeaafc1756d,
  0xedddacd28dd18d44dd773482da1c8e5ce5f4aca62df7a17ec37095ba21b331d0]

def sampleHour (hour:ℕ):DateTime:=⟨739616*dayMicroseconds+hour*hourMicroseconds,some 0⟩

def samplePrimitives:Primitives where
 casefold text:=String.ofList (text.toList.map Char.toLower)
 upper text:=String.ofList (text.toList.map Char.toUpper)
 hmac _ _ _:=digestOf 0x1ab84923ec8ce64e3836fa2fcfb7a6f0805238f83b79be75947646df9f73d8de
 suppressionId values:=sampleDigests.getD
  ((values.receivedAt-739616*dayMicroseconds)/hourMicroseconds).toNat (digestOf 0)

def sampleSecrets (_:String):List UInt8:=[48,49,50,51,52,53,54,55]

def sampleKeyring:Keyring where
 currentKeyVersion:="v1"
 keys:=[("v1",sampleSecrets "v1")]
 unique:=by decide
 current:=by decide
 bounded:=by decide
 named:=by decide
 long:=by decide

def sampleContact:Contact where
 contactRef:="contact-1"
 supplierRef:="supplier-1"
 businessEmail:="A.Keller@example.ch"
 verificationState:="PROVIDER_VERIFIED"
 verificationProvider:="apollo"
 providerEmailStatus:="verified"
 sourceFingerprint:="9f86d081884c7d659a2feaa0c55ad015a3bf4f1b2b0b822cd15d6c15b0f00a08"
 roleProfileVersion:="decision-maker-search-v1"
 roleTier:=1

def optOut (hour:ℕ):Event:=
 .recordForEmail sampleKeyring .kivouAcquisitionEmail "a.keller@example.ch" .unsubscribe .unsubscribed
  "suppression-evidence:a59e19fe6ceafde9b799b380cfce4c262e419f5ed464939d8c15025835987d89"
  (sampleHour hour)

def optOuts (hours:ℕ):List Event:=
 (List.range hours).map optOut++[.contact "contact-1" sampleContact]

lemma sampleKeyring_agrees:Agrees sampleSecrets sampleKeyring:=by
 intro key mem
 cases List.mem_singleton.mp mem
 rfl

lemma sampleKeyring_legible:Keyring.Legible sampleKeyring:=by
 intro key mem
 cases List.mem_singleton.mp mem
 decide

lemma optOuts_agree (hours:ℕ):∀e∈optOuts hours,e.agrees sampleSecrets:=by
 intro e mem
 cases List.mem_append.mp mem with
 | inl mem =>
  obtain ⟨hour,-,rfl⟩:=List.mem_map.mp mem
  exact sampleKeyring_agrees
 | inr contact =>
  rw[List.mem_singleton.mp contact]
  trivial

lemma sampleContact_normal :
 normalizeBusinessEmail samplePrimitives sampleContact.businessEmail=.ok "a.keller@example.ch":=by
 decide +kernel

lemma sampleContact_known (hours:ℕ) :
 (reached samplePrimitives (optOuts hours)).contacts "contact-1"=some sampleContact:=by
 rw[reached,optOuts,List.foldl_append]
 exact contacts_written (p:=samplePrimitives) _ "contact-1" sampleContact

lemma sample_rows :
 (reached samplePrimitives (optOuts 17)).rows.map (fun row=>(row.2.identityKeyVersion,
  decide (Names samplePrimitives .kivouAcquisitionEmail sampleSecrets "a.keller@example.ch" row))) =
  List.replicate 17 ("v1",true):=by
 decide +kernel

lemma optOut_suppresses:Suppresses samplePrimitives .kivouAcquisitionEmail "a.keller@example.ch"
 (reached samplePrimitives []) (optOut 0):=by
 refine ⟨⟨_,rfl⟩,rfl,?_⟩
 decide +kernel

/-- One opt-out withholds. -/
theorem opt_outs_hold_once :
 Withholds (matchContact samplePrimitives sampleKeyring .kivouAcquisitionEmail "contact-1" none
  (reached samplePrimitives (optOuts 1))):=
 (opt_outs_hold samplePrimitives sampleSecrets [] (optOut 0) [.contact "contact-1" sampleContact]
  sampleKeyring .kivouAcquisitionEmail "a.keller@example.ch" "contact-1" sampleContact none
  (optOuts_agree 1) sampleKeyring_agrees optOut_suppresses (sampleContact_known 1)
  sampleContact_normal).mpr
  ⟨sampleKeyring_legible,.inr ⟨fun _ given=>absurd given (Option.not_mem_none _),
   (List.length_filter_le _ _).trans (by decide +kernel)⟩⟩

/-- The address has seventeen suppressions, and its lookup raises. -/
theorem seventeen_opt_outs_raise:let s:=reached samplePrimitives (optOuts 17)
 (∀e∈optOuts 17,e.agrees sampleSecrets) ∧ Agrees sampleSecrets sampleKeyring ∧
  Suppresses samplePrimitives .kivouAcquisitionEmail "a.keller@example.ch"
   (reached samplePrimitives []) (optOut 0) ∧ (optOuts 17).head?=some (optOut 0) ∧
  s.contacts "contact-1"=some sampleContact ∧
  normalizeBusinessEmail samplePrimitives sampleContact.businessEmail=.ok "a.keller@example.ch" ∧
  matchContact samplePrimitives sampleKeyring .kivouAcquisitionEmail "contact-1" none s =
   .error .validationError:=by
 intro s
 have known:s.contacts "contact-1"=some sampleContact:=sampleContact_known 17
 have rows:s.rows.map (fun row=>(row.2.identityKeyVersion,decide (Names samplePrimitives
   .kivouAcquisitionEmail sampleSecrets "a.keller@example.ch" row))) =
   List.replicate 17 ("v1",true):=sample_rows
 -- From here on the store is what these two say of it.
 clear_value s
 have kept:∀row∈s.rows,row.2.identityKeyVersion="v1" ∧
   Names samplePrimitives .kivouAcquisitionEmail sampleSecrets "a.keller@example.ch" row:=by
  intro row mem
  have shown:=List.mem_map_of_mem (f:=fun row:String × Suppression=>
   (row.2.identityKeyVersion,decide (Names samplePrimitives .kivouAcquisitionEmail sampleSecrets
    "a.keller@example.ch" row))) mem
  rw[rows] at shown
  obtain ⟨version,names⟩:=Prod.mk.inj (List.eq_of_mem_replicate shown)
  exact ⟨version,of_decide_eq_true names⟩
 have covers:Covers sampleKeyring .kivouAcquisitionEmail s:=by
  intro version mem
  obtain ⟨row,stored,rfl⟩:=List.mem_map.mp (List.mem_dedup.mp mem)
  rw[(kept row (List.mem_of_mem_filter stored)).1]
  exact List.mem_singleton.mpr rfl
 have many:16<(Store.effective samplePrimitives .kivouAcquisitionEmail sampleSecrets
   "a.keller@example.ch" s none).length:=by
  have length:s.rows.length=17:=by
   have counted:=congrArg List.length rows
   rwa[List.length_map,List.length_replicate] at counted
  have all:Store.effective samplePrimitives .kivouAcquisitionEmail sampleSecrets
    "a.keller@example.ch" s none=s.rows:=by
   refine List.filter_eq_self.mpr fun row mem=>?_
   rw[decide_eq_true (kept row mem).2]
   rfl
  rw[all,length]
  decide
 exact ⟨optOuts_agree 17,sampleKeyring_agrees,optOut_suppresses,rfl,known,
  sampleContact_normal,matchContact_raises sampleKeyring_agrees known sampleContact_normal covers
   (fun _ given=>absurd given (Option.not_mem_none _)) many⟩

end Kivou.ComplianceOptOuts
