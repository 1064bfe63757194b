import Kivou.Base64
import Kivou.JsonText

set_option autoImplicit false

/-! A token carries a signature of its payload and no payload: the verifier rebuilds the payload and
tries the forms that may have been signed. -/
namespace Kivou.JsonText
open PythonValues

lemma hexFour_unit {n:ℕ}(small:n<0x10000)(rest:List Char) :
 hexFour ((escapedUnit n).drop 2++rest)=some (n,rest):=by
 have digit:∀k<16,hexDigit? (hexDigit k)=some k:=by decide
 change hexFour (hexDigit _::hexDigit _::hexDigit _::hexDigit _::rest)=_
 simp only[hexFour,digit _ (Nat.mod_lt _ (by decide:16 > 0)),Option.bind_eq_bind,
  Option.bind_some,Option.some.injEq,Prod.mk.injEq,and_true]
 omega

lemma unicodeEscape_pair {high low:ℕ}(first:isHigh high=true)(second:isLow low=true)
 (rest:List Char):unicodeEscape ((escapedUnit high).drop 2 ++ '\\' :: 'u' ::
  ((escapedUnit low).drop 2++rest))=some (scalar (paired high low),rest):=by
 have bounds:=first
 have bounds':=second
 simp only[isHigh,isLow,Bool.and_eq_true,decide_eq_true_eq] at bounds bounds'
 have small:high<0x10000:=by omega
 have small':low<0x10000:=by omega
 simp only[unicodeEscape,hexFour_unit small,hexFour_unit small',Option.bind_eq_bind,
  Option.bind_some,first,second,if_true]

lemma not_surrogate (c:Char):c.toNat<0xD800 ∨ 0xDFFF<c.toNat ∧ c.toNat<0x110000:=c.valid

lemma scalar_toNat (c:Char):scalar c.toNat=c:=by
 have valid:=not_surrogate c
 have clear:isSurrogate c.toNat=false:=by
  simp only[isSurrogate,Bool.and_eq_false_iff,decide_eq_false_iff_not]
  omega
 rw[scalar,clear,if_neg Bool.false_ne_true,Char.ofNat_toNat]

lemma halves_of_astral {n:ℕ}(astral:0x10000≤n)(valid:n<0x110000) :
 isHigh (0xD800+(n-0x10000)/0x400)=true ∧ isLow (0xDC00+(n-0x10000)%0x400)=true ∧
 paired (0xD800+(n-0x10000)/0x400) (0xDC00+(n-0x10000)%0x400)=n:=by
 refine ⟨?_,?_,?_⟩
 · simp only[isHigh,Bool.and_eq_true,decide_eq_true_eq]
   omega
 · simp only[isLow,Bool.and_eq_true,decide_eq_true_eq]
   omega
 · unfold paired
   omega

/-- Every escape is read back as the character it was written for. -/
lemma character_escaped (c:Char)(rest:List Char) : character (escaped c++rest)=some (c,rest):=by
 unfold escaped
 split
 · rfl
 · rfl
 · rfl
 · rfl
 · rfl
 · rename_i quote slash newline carriage tab
   have valid:=not_surrogate c
   have named:∀n,c.toNat=n→c=Char.ofNat n:=by
    rintro n rfl
    exact (Char.ofNat_toNat c).symm
   simp only
   split_ifs with eight twelve plain basic
   · rw[named 8 eight]
     rfl
   · rw[named 12 twelve]
     rfl
   · exact character_plain (isPlain_iff.mpr ⟨plain.1,plain.2,quote,slash⟩) rest
   · change unicodeEscape ((escapedUnit c.toNat).drop 2++rest)=_
     have low:isHigh c.toNat=false:=by
      simp only[isHigh,Bool.and_eq_false_iff,decide_eq_false_iff_not]
      omega
     simp only[unicodeEscape,hexFour_unit basic,Option.bind_eq_bind,Option.bind_some,low,
      scalar_toNat]
   · have halves:=halves_of_astral (n:=c.toNat) (by omega) (by omega)
     generalize 0xD800+(c.toNat-0x10000)/0x400=high at halves ⊢
     generalize 0xDC00+(c.toNat-0x10000)%0x400=low at halves ⊢
     change unicodeEscape ((escapedUnit high).drop 2++escapedUnit low++rest)=_
     rw[List.append_assoc]
     refine (unicodeEscape_pair halves.1 halves.2.1 rest).trans ?_
     rw[halves.2.2,scalar_toNat]

lemma escaped_cons (c:Char):∃d ds,escaped c=d::ds ∧ d ≠ '"' := by
 have read:=character_escaped c []
 cases shape:escaped c with
 | nil =>
  rw[shape] at read
  cases read
 | cons d ds =>
  refine ⟨d,ds,rfl,?_⟩
  rintro rfl
  rw[shape] at read
  have single : '"' = c ∧ ds=[]:=by simpa[character] using read
  rw[←single.1] at shape
  exact absurd shape (by rw[single.2];decide)

/-- A quoted text ends where it was closed. -/
lemma quoted_inj {s t:String}{rest rest':List Char}
 (same:quoted s++rest=quoted t++rest'):s=t ∧ rest=rest':=by
 have read:∀ (cs rest:List Char)(n:ℕ),cs.length<n →
   characters n (cs.flatMap escaped ++ '"' :: rest)=some (cs,rest):=by
  intro cs rest
  induction cs with
  | nil =>
   intro n enough
   obtain ⟨n,rfl⟩:=Nat.exists_eq_succ_of_ne_zero (Nat.ne_of_gt enough)
   rfl
  | cons c cs ih =>
   intro n enough
   obtain ⟨n,rfl⟩:=Nat.exists_eq_succ_of_ne_zero (Nat.ne_of_gt (Nat.zero_lt_of_lt enough))
   rw[List.flatMap_cons,List.append_assoc,characters]
   · rw[character_escaped]
     simp only[Option.bind_eq_bind,Option.bind_some,ih n (Nat.lt_of_succ_lt_succ enough)]
   · intro more is
     obtain ⟨d,ds,shape,other⟩:=escaped_cons c
     rw[shape] at is
     exact other (List.cons.inj is).1
 have left:=read s.toList rest (s.toList.length+t.toList.length+1) (by omega)
 have right:=read t.toList rest' (s.toList.length+t.toList.length+1) (by omega)
 simp only[quoted,List.cons_append,List.append_assoc,List.nil_append,List.cons.injEq,
  true_and] at same
 rw[same,right] at left
 obtain ⟨texts,rests⟩:=Prod.mk.inj (Option.some.inj left)
 exact ⟨(String.toList_inj.mp texts).symm,rests.symm⟩

end Kivou.JsonText

namespace Kivou.AttributionTokens
open JsonText

inductive Country where
 | ch | fr
 deriving DecidableEq

def Country.name:Country→String
 | .ch=>"CH"
 | .fr=>"FR"

/-- An `AttributionTokenPayload`, with its instants in UTC. -/
structure Payload where
 keyVersion:Option String
 (campaignRef memberRef acquisitionOpportunityId wedge wedgeVersion:String)
 country:Country
 (sectorRef needRef needVersion:String)
 opportunityKey:Option String
 (issuedAt expiresAt:ℤ)
 deriving DecidableEq

def Payload.keyed (p:Payload)(version:String):Payload:={p with keyVersion:=some version}
def Payload.unpromised (p:Payload):Payload:={p with opportunityKey:=none}

/-- `hmac.new(…, hashlib.sha256).digest()`, and how pydantic writes an instant. -/
structure Tools where
 hmac:List ℕ→List Char→List ℕ
 digestSize:∀secret text,(hmac secret text).length=32
 bytes:∀secret text,∀b∈hmac secret text,b<256
 isoformat:ℤ→String

def isKeyVersion (text:List Char):Bool:=1≤text.length&&text.length≤100&&text.all fun c=>
  c.isAlphanum||c == '_' || c == '-'

def isFingerprint (text:List Char):Bool:=
 text.length==64&&text.all fun c=>c.isDigit || 'a' ≤ c&&c ≤ 'f'

def secretOf (keys:List (String × List ℕ))(version:String):Option (List ℕ):=
 (keys.find? (·.1==version)).map Prod.snd

/-- An `AttributionTokenKeyring` that its constructor accepts. -/
structure Keyring where
 currentKeyVersion:String
 keys:List (String × List ℕ)
 current:(secretOf keys currentKeyVersion).isSome=true
 few:keys.length≤8
 named:∀key∈keys,isKeyVersion key.1.toList=true ∧ 16≤key.2.length

inductive TokenError where
 | value (message:String)
 | invalid (message:String)
 | expired

structure Issued where
 rawToken:String
 tokenFingerprint:List ℕ
 keyVersion:String
 payload:Payload

structure Lookup where
 (keyVersion memberRef:String)
 signature:List ℕ

def valueText:Option String→List Char
 | none=>"null".toList
 | some text=>quoted text

/-- Fields behind their commas, to the end of the object. -/
def closed:List (String × Option String)→List Char
 | []=>['}']
 | (key,value)::fields => ',' :: (member (key,valueText value)++closed fields)

variable (t:Tools)

/-- The fields in the order of their names; an absent opportunity is not among them. -/
def fields (p:Payload):List (String × Option String):=
 [("acquisition_opportunity_id",some p.acquisitionOpportunityId),
  ("campaign_ref",some p.campaignRef),("country",some p.country.name),
  ("expires_at",some (t.isoformat p.expiresAt)),("issued_at",some (t.isoformat p.issuedAt)),
  ("key_version",p.keyVersion),("member_ref",some p.memberRef),("need_ref",some p.needRef),
  ("need_version",some p.needVersion)] ++
 (p.opportunityKey.map fun key=>("opportunity_key",some key)).toList ++
 [("sector_ref",some p.sectorRef),("token_version",some "conversion-attribution-token-v1"),
  ("wedge",some p.wedge),("wedge_version",some p.wedgeVersion)]

def canonical (p:Payload):List Char := '{' :: (closed (fields t p)).tail

/-- What signs a form: its text behind the domain of signatures. -/
def signature (secret:List ℕ)(form:List Char):List ℕ:=
 t.hmac secret ("kivou:conversion-attribution-token:v1\x00".toList++form)

def tokenFingerprint (secret:List ℕ)(form:List Char):List ℕ:=
 t.hmac secret ("kivou:conversion-attribution-fingerprint:v1\x00".toList++form)

def signableForms (p:Payload):List (List Char):=
 if p.opportunityKey=none then [canonical t p]
 else [canonical t p,canonical t p.unpromised]

def Keyring.issue (k:Keyring)(p:Payload):Except TokenError Issued:=
 let keyed:=p.keyed k.currentKeyVersion
 match secretOf k.keys k.currentKeyVersion with
 | none=>.error (.value "KeyError")
 | some secret =>
  if isFingerprint keyed.memberRef.toList then
   .ok ⟨".".intercalate ["kat1",k.currentKeyVersion,keyed.memberRef,
     String.ofList ((Base64.encode (signature t secret (canonical t keyed))).rdropWhile (· = '='))],
    tokenFingerprint t secret (canonical t keyed),k.currentKeyVersion,keyed⟩
  else .error (.value "attribution member ref must be an opaque fingerprint")

def parse (rawToken:String):Except TokenError Lookup:=
 if 512<rawToken.length then .error (.invalid "attribution token is invalid")
 else
  match rawToken.toList.splitOn '.' with
  | [marker,keyVersion,memberRef,text] =>
   if marker≠"kat1".toList ∨ isKeyVersion keyVersion=false ∨ isFingerprint memberRef=false then
    .error (.invalid "attribution token is invalid")
   else
    match Base64.decode (text++Base64.padding text.length) with
    | none=>.error (.invalid "attribution token encoding is invalid")
    | some signature =>
     if signature.length≠32 then .error (.invalid "attribution token signature is invalid")
     else .ok ⟨String.ofList keyVersion,String.ofList memberRef,signature⟩
  | _=>.error (.invalid "attribution token is invalid")

def Keyring.verify (k:Keyring)(rawToken:String)(p:Payload)(instant:ℤ) :
 Except TokenError Issued:=
 match parse rawToken with
 | .error failure=>.error failure
 | .ok lookup =>
  if p.memberRef≠lookup.memberRef then .error (.invalid "attribution token payload is invalid")
  else if p.keyVersion≠none ∧ p.keyVersion≠some lookup.keyVersion then
   .error (.invalid "attribution token key binding is invalid")
  else
   match secretOf k.keys lookup.keyVersion with
   | none=>.error (.invalid "attribution token key is unavailable")
   | some secret =>
    let keyed:=p.keyed lookup.keyVersion
    match (signableForms t keyed).find? (signature t secret · == lookup.signature) with
    | none=>.error (.invalid "attribution token signature is invalid")
    | some form =>
     if instant<p.issuedAt then .error (.invalid "attribution token is not active")
     else if p.expiresAt ≤ instant then .error .expired
     else .ok ⟨rawToken,tokenFingerprint t secret form,lookup.keyVersion,
      if form=canonical t keyed then keyed else keyed.unpromised⟩

lemma member_inj {key key':String}{value value':Option String}{rest rest':List Char}
 (same:member (key,valueText value)++rest=member (key',valueText value')++rest') :
 key=key' ∧ value=value' ∧ rest=rest':=by
 simp only[member,List.append_assoc,List.cons_append] at same
 obtain ⟨keys,same⟩:=quoted_inj same
 have texts:=(List.cons.inj same).2
 refine ⟨keys,?_⟩
 cases value with
 | none =>
  cases value' with
  | none=>exact ⟨rfl,List.append_cancel_left texts⟩
  | some=>exact absurd (List.cons.inj texts).1 (by decide)
 | some text =>
  cases value' with
  | none=>exact absurd (List.cons.inj texts).1 (by decide)
  | some text' =>
   obtain ⟨rfl,rests⟩:=quoted_inj texts
   exact ⟨rfl,rests⟩

lemma closed_injective:Function.Injective closed:=by
 intro xs
 induction xs with
 | nil =>
  intro ys same
  cases ys with
  | nil=>rfl
  | cons=>exact absurd (List.cons.inj same).1 (by decide)
 | cons x xs ih =>
  intro ys same
  cases ys with
  | nil=>exact absurd (List.cons.inj same).1 (by decide)
  | cons y ys =>
   obtain ⟨keys,values,rests⟩:=member_inj (List.cons.inj same).2
   rw[ih rests,Prod.ext keys values]

section
variable {t:Tools}{p q:Payload}

/-- The two payloads have one form only if they are the same, their instants being told apart. -/
lemma canonical_inj (issued:t.isoformat p.issuedAt=t.isoformat q.issuedAt→p.issuedAt=q.issuedAt)
 (expires:t.isoformat p.expiresAt=t.isoformat q.expiresAt→p.expiresAt=q.expiresAt)
 (same:canonical t p=canonical t q):p=q:=by
 have all:fields t p=fields t q:=closed_injective (congrArg (',' :: ·) (List.cons.inj same).2)
 have countries:∀c c':Country,c.name=c'.name→c=c':=by
  intro c c' names
  cases c <;> cases c' <;> first | rfl | exact absurd names (by decide)
 obtain ⟨kv,a,b,c,d,e,f,g,h,i,opportunity,x,y⟩:=p
 obtain ⟨kv',a',b',c',d',e',f',g',h',i',opportunity',x',y'⟩:=q
 cases opportunity with
 | none =>
  cases opportunity' with
  | none =>
   simp[fields] at all
   grind
  | some key=>simp[fields] at all
 | some key =>
  cases opportunity' with
  | none=>simp[fields] at all
  | some key' =>
   simp[fields] at all
   grind

/-- What a payload shares with the one that was signed under a key version. -/
def Agrees (version:String)(p q:Payload):Prop:=(q.keyVersion=none ∨ q.keyVersion=some version) ∧
  (q.opportunityKey=p.opportunityKey ∨ p.opportunityKey=none) ∧
  {q with keyVersion:=p.keyVersion,opportunityKey:=p.opportunityKey}=p

lemma signed_iff (version:String) (dates:∀a∈[p.issuedAt,p.expiresAt],∀b∈[q.issuedAt,q.expiresAt],
  t.isoformat a=t.isoformat b→a=b) :
 canonical t (p.keyed version)∈signableForms t (q.keyed version) ↔
  (q.opportunityKey=p.opportunityKey ∨ p.opportunityKey=none) ∧
   {q with keyVersion:=p.keyVersion,opportunityKey:=p.opportunityKey}=p:=by
 have first:=dates p.issuedAt (by simp) q.issuedAt (by simp)
 have second:=dates p.expiresAt (by simp) q.expiresAt (by simp)
 have one:canonical t (p.keyed version)=canonical t (q.keyed version) ↔
   p.keyed version=q.keyed version:=⟨canonical_inj first second,fun same=>by rw[same]⟩
 have other:canonical t (p.keyed version)=canonical t (q.keyed version).unpromised ↔
   p.keyed version=(q.keyed version).unpromised:=
  ⟨canonical_inj first second,fun same=>by rw[same]⟩
 have forms:canonical t (p.keyed version)∈signableForms t (q.keyed version) ↔
   p.keyed version=q.keyed version ∨
    q.opportunityKey≠none ∧ p.keyed version=(q.keyed version).unpromised:=by
  rw[signableForms]
  by_cases absent:(q.keyed version).opportunityKey=none
  · rw[if_pos absent,List.mem_singleton,one]
    exact ⟨.inl,fun or=>or.resolve_right fun away=>away.1 absent⟩
  · rw[if_neg absent,List.mem_cons,List.mem_singleton,one,other]
    exact or_congr_right (and_iff_right absent).symm
 have kept:∀r r':Payload,r=r'→({ r with keyVersion:=p.keyVersion,opportunityKey:=
   p.opportunityKey}:Payload)={ r' with keyVersion:=p.keyVersion,opportunityKey:=
   p.opportunityKey}:=fun r r' same=>by rw[same]
 rw[forms]
 constructor
 · rintro (same|⟨-,same⟩)
   · exact ⟨.inl (congrArg Payload.opportunityKey same).symm,(kept _ _ same).symm⟩
   · exact ⟨.inr (congrArg Payload.opportunityKey same),(kept _ _ same).symm⟩
 · rintro ⟨promised,same⟩
   have signed:=congrArg (Payload.keyed · version) same
   by_cases is:q.opportunityKey=p.opportunityKey
   · refine .inl (signed.symm.trans ?_)
     rw[←is]
     rfl
   · have absent:=promised.resolve_left is
     refine .inr ⟨fun none=>is (none.trans absent.symm),signed.symm.trans ?_⟩
     rw[absent]
     rfl

lemma not_dot {text:List Char}(all:isKeyVersion text=true ∨ isFingerprint text=true) :
 '.' ∉ text:=by
 intro dot
 rcases all with all|all
 · rw[isKeyVersion,Bool.and_eq_true] at all
   exact absurd (List.all_eq_true.mp all.2 '.' dot) (by decide)
 · rw[isFingerprint,Bool.and_eq_true] at all
   exact absurd (List.all_eq_true.mp all.2 '.' dot) (by decide)

lemma parse_issued {version member:String}{digest:List ℕ}
 (named:isKeyVersion version.toList=true)(printed:isFingerprint member.toList=true)
 (size:digest.length=32)(bytes:∀b∈digest,b<256) :
 parse (".".intercalate ["kat1",version,member,
  String.ofList ((Base64.encode digest).rdropWhile (· = '='))])=.ok ⟨version,member,digest⟩:=by
 have clear : '.' ∉ Base64.symbols digest:=by
  intro dot
  obtain ⟨n,small,is⟩:=Base64.mem_symbols bytes _ dot
  have none:∀n<64,Base64.symbol n ≠ '.' := by decide
  exact none n small is.symm
 have texts:(".".intercalate ["kat1",version,member,
   String.ofList ((Base64.encode digest).rdropWhile (· = '='))]).toList =
   ['.'].intercalate ["kat1".toList,version.toList,member.toList,Base64.symbols digest]:=by
  rw[String.toList_intercalate,Base64.rdropWhile_encode bytes]
  simp
 have lengths:=named
 have lengths':=printed
 simp only[isKeyVersion,isFingerprint,Bool.and_eq_true,decide_eq_true_eq,beq_iff_eq] at lengths lengths'
 have short:(".".intercalate ["kat1",version,member,
   String.ofList ((Base64.encode digest).rdropWhile (· = '='))]).length≤512:=by
  rw[←String.length_toList,texts]
  simp only[List.intercalate_cons_cons,List.intercalate_singleton,List.length_append,
   Base64.length_symbols,size,List.length_singleton]
  have four:"kat1".toList.length=4:=by decide
  omega
 rw[parse,if_neg (Nat.not_lt.mpr short),texts,List.splitOn_intercalate]
 · simp only[named,printed,ne_eq,not_true_eq_false,Bool.true_eq_false,or_false,if_false,
    ←Base64.encode_eq,Base64.decode_encode bytes,size,String.ofList_toList]
 · intro l listed
   simp only[List.mem_cons,List.not_mem_nil,or_false] at listed
   rcases listed with rfl|rfl|rfl|rfl
   · decide
   · exact not_dot (.inl named)
   · exact not_dot (.inr printed)
   · exact clear
 · exact List.cons_ne_nil _ _

lemma Keyring.current_named (k:Keyring):isKeyVersion k.currentKeyVersion.toList=true:=by
 obtain ⟨secret,held⟩:=Option.isSome_iff_exists.mp k.current
 obtain ⟨key,found,-⟩:=Option.map_eq_some_iff.mp held
 have same:=List.find?_some found
 rw[beq_iff_eq] at same
 exact same ▸ (k.named key (List.mem_of_find?_eq_some found)).1

variable {k k':Keyring}{issued:Issued}{secret:List ℕ}

lemma issue_ok (held:secretOf k.keys k.currentKeyVersion=some secret)
 (accepted:k.issue t p=.ok issued) :
 isFingerprint p.memberRef.toList=true ∧ issued =
  ⟨".".intercalate ["kat1",k.currentKeyVersion,p.memberRef,String.ofList ((Base64.encode
    (signature t secret (canonical t (p.keyed k.currentKeyVersion)))).rdropWhile (· = '='))],
   tokenFingerprint t secret (canonical t (p.keyed k.currentKeyVersion)),k.currentKeyVersion,
   p.keyed k.currentKeyVersion⟩:=by
 simp only[Keyring.issue,held] at accepted
 split at accepted
 · rename_i printed
   exact ⟨printed,(Except.ok.inj accepted).symm⟩
 · cases accepted

/-- What a verification that succeeds has found. -/
lemma verify_ok {raw:String}{lookup:Lookup}{instant:ℤ}{r:Issued} (parsed:parse raw=.ok lookup) :
 k.verify t raw q instant=.ok r ↔ q.memberRef=lookup.memberRef ∧
  (q.keyVersion=none ∨ q.keyVersion=some lookup.keyVersion) ∧
  ∃other form,secretOf k.keys lookup.keyVersion=some other ∧
   (signableForms t (q.keyed lookup.keyVersion)).find?
    (signature t other · == lookup.signature)=some form ∧
   (q.issuedAt ≤ instant ∧ instant<q.expiresAt) ∧
   ⟨raw,tokenFingerprint t other form,lookup.keyVersion,if form =
    canonical t (q.keyed lookup.keyVersion) then q.keyed lookup.keyVersion else
     (q.keyed lookup.keyVersion).unpromised⟩=r:=by
 simp only[Keyring.verify,parsed]
 by_cases member:q.memberRef=lookup.memberRef
 swap
 · rw[if_pos member]
   exact ⟨nofun,fun all=>absurd all.1 member⟩
 by_cases version:q.keyVersion=none ∨ q.keyVersion=some lookup.keyVersion
 swap
 · rw[if_neg (not_not.mpr member),if_pos (not_or.mp version)]
   exact ⟨nofun,fun all=>absurd all.2.1 version⟩
 rw[if_neg (not_not.mpr member),if_neg fun other=>version.elim other.1 other.2]
 cases held:secretOf k.keys lookup.keyVersion with
 | none =>
  refine ⟨nofun,?_⟩
  rintro ⟨-,-,other,form,none,-⟩
  cases none
 | some secret =>
  cases found:(signableForms t (q.keyed lookup.keyVersion)).find?
   (signature t secret · == lookup.signature) with
  | none =>
   refine ⟨fun ok=>?_,?_⟩
   · simp only[found] at ok
     cases ok
   · rintro ⟨-,-,other,form,same,found',-⟩
     cases same
     cases found.symm.trans found'
  | some form =>
   simp only[found]
   constructor
   · intro ok
     split at ok
     · cases ok
     split at ok
     · cases ok
     · rename_i early late
       exact ⟨member,version,secret,form,rfl,found,⟨Int.not_lt.mp early,Int.not_le.mp late⟩,
        Except.ok.inj ok⟩
   · rintro ⟨-,-,other,form',same,found',⟨start,finish⟩,is⟩
     cases same
     cases found.symm.trans found'
     rw[if_neg (Int.not_lt.mpr start),if_neg (Int.not_le.mpr finish),is]

/-- A token is verified exactly within its life and with the payload that was signed, and its
fingerprint is then the one it was issued with. -/
theorem verify_issued (instant:ℤ)(held:secretOf k.keys k.currentKeyVersion=some secret)
 (accepted:k.issue t p=.ok issued)
 (later:secretOf k'.keys k.currentKeyVersion=some secret)
 (unforged:∀form,signature t secret form=signature t secret (canonical t issued.payload) →
  form=canonical t issued.payload)
 (dates:∀a∈[p.issuedAt,p.expiresAt],∀b∈[q.issuedAt,q.expiresAt],
  t.isoformat a=t.isoformat b→a=b) :
 parse issued.rawToken=.ok ⟨k.currentKeyVersion,p.memberRef,
  signature t secret (canonical t issued.payload)⟩ ∧
 ((∃r,k'.verify t issued.rawToken q instant=.ok r) ↔
  (p.issuedAt ≤ instant ∧ instant<p.expiresAt) ∧ Agrees k.currentKeyVersion p q) ∧
 (∀r,k'.verify t issued.rawToken q instant=.ok r →
  r.tokenFingerprint=issued.tokenFingerprint) ∧
 ∀raw lookup,parse raw=.ok lookup→(∀other,secretOf k'.keys lookup.keyVersion=some other →
   ∀form∈signableForms t (q.keyed lookup.keyVersion),signature t other form≠lookup.signature) →
  ∀r,k'.verify t raw q instant≠.ok r:=by
 obtain ⟨printed,rfl⟩:=issue_ok held accepted
 simp only at unforged ⊢
 have parsed:=@parse_issued k.currentKeyVersion p.memberRef
  (signature t secret (canonical t (p.keyed k.currentKeyVersion))) k.current_named printed
  (t.digestSize _ _) (t.bytes _ _)
 have found:∀form,(signableForms t (q.keyed k.currentKeyVersion)).find? (signature t secret · ==
   signature t secret (canonical t (p.keyed k.currentKeyVersion)))=some form →
   form=canonical t (p.keyed k.currentKeyVersion):=fun form is=>
  unforged form (beq_iff_eq.mp (List.find?_some is :))
 refine ⟨parsed,?_,fun r ok=>?_,fun raw lookup read foreign r ok=>?_⟩
 · constructor
   · rintro ⟨r,ok⟩
     obtain ⟨-,version,other,form,is,there,life,-⟩:=(verify_ok parsed).mp ok
     cases later.symm.trans is
     obtain ⟨promised,same⟩:=(signed_iff k.currentKeyVersion dates).mp
      (found form there ▸ List.mem_of_find?_eq_some there)
     have starts:p.issuedAt=q.issuedAt:=by rw[←same]
     have ends:p.expiresAt=q.expiresAt:=by rw[←same]
     rw[starts,ends]
     exact ⟨life,version,promised,same⟩
   · rintro ⟨life,version,signed⟩
     have member:q.memberRef=p.memberRef:=by rw[←signed.2]
     have starts:p.issuedAt=q.issuedAt:=by rw[←signed.2]
     have ends:p.expiresAt=q.expiresAt:=by rw[←signed.2]
     rw[starts,ends] at life
     have mem:=(signed_iff k.currentKeyVersion dates).mpr signed
     have tried:((signableForms t (q.keyed k.currentKeyVersion)).find? (signature t secret · ==
       signature t secret (canonical t (p.keyed k.currentKeyVersion)))).isSome=true:=
      List.find?_isSome.mpr ⟨_,mem,beq_self_eq_true _⟩
     obtain ⟨form,there⟩:=Option.isSome_iff_exists.mp tried
     exact ⟨_,(verify_ok parsed).mpr ⟨member,version,secret,form,later,there,life,rfl⟩⟩
 · obtain ⟨-,-,other,form,is,there,-,rfl⟩:=(verify_ok parsed).mp ok
   cases later.symm.trans is
   simp only[found form there]
 · obtain ⟨-,-,other,form,is,there,-⟩:=(verify_ok read).mp ok
   exact foreign other is form (List.mem_of_find?_eq_some there) (beq_iff_eq.mp (List.find?_some there :))

end

def samplePayload:Payload where
 keyVersion:=none
 campaignRef:="c"
 memberRef:=String.ofList (List.replicate 64 'a')
 acquisitionOpportunityId:="o"
 wedge:="w"
 wedgeVersion:="1"
 country:=.fr
 sectorRef:="s"
 needRef:="n"
 needVersion:="1"
 opportunityKey:=none
 issuedAt:=0
 expiresAt:=86400000000

def signedText:List Char:=("kivou:conversion-attribution-token:v1\x00\x7b" ++
 "\"acquisition_opportunity_id\":\"o\",\"campaign_ref\":\"c\",\"country\":\"FR\"," ++
 "\"expires_at\":\"1970-01-02T00:00:00Z\",\"issued_at\":\"1970-01-01T00:00:00Z\"," ++
 "\"key_version\":\"k1\",\"member_ref\":\""++samplePayload.memberRef++"\",\"need_ref\":\"n\"," ++
 "\"need_version\":\"1\",\"sector_ref\":\"s\"," ++
 "\"token_version\":\"conversion-attribution-token-v1\",\"wedge\":\"w\"," ++
 "\"wedge_version\":\"1\"\x7d").toList

def digest:List ℕ:=[89,45,232,52,89,157,95,166,144,252,13,78,112,73,24,157,32,119,18,137,
  213,140,81,33,109,104,26,64,228,35,84,127]

def sampleHmac (text:List Char):List ℕ:=
 if text=signedText then digest else List.replicate 32 0

/-- The digest of the sample under the key of sixteen sevens, and the texts of its two instants. -/
def sampleTools:Tools where
 hmac _:=sampleHmac
 digestSize _ text:=by unfold sampleHmac;split <;> rfl
 bytes _ text:=by unfold sampleHmac;split <;> decide
 isoformat n:=if n=0 then "1970-01-01T00:00:00Z" else "1970-01-02T00:00:00Z"

lemma sampleTools_hmac (secret:List ℕ)(text:List Char) :
 sampleTools.hmac secret text=sampleHmac text:=rfl

def sampleKeyring:Keyring where
 currentKeyVersion:="k1"
 keys:=[("k1",List.replicate 16 7)]
 current:=rfl
 few:=by decide
 named:=by decide

lemma signedText_eq:"kivou:conversion-attribution-token:v1\x00".toList ++
 canonical sampleTools (samplePayload.keyed "k1")=signedText:=by decide +kernel

theorem verify_issued_sample:∃issued,sampleKeyring.issue sampleTools samplePayload=.ok issued ∧
 ∃r,sampleKeyring.verify sampleTools issued.rawToken
  {samplePayload with opportunityKey:=some "opp_1" } 5=.ok r:=by
 have accepted:∃issued,sampleKeyring.issue sampleTools samplePayload=.ok issued ∧
   issued.payload=samplePayload.keyed "k1":=⟨_,rfl,rfl⟩
 obtain ⟨issued,accepted,keyed⟩:=accepted
 have held:secretOf sampleKeyring.keys sampleKeyring.currentKeyVersion =
   some (List.replicate 16 7):=rfl
 refine ⟨issued,accepted,(verify_issued 5 held accepted held ?_ ?_).2.1.mpr
  ⟨by decide,.inl rfl,.inr rfl,rfl⟩⟩
 · intro form same
   rw[keyed] at same ⊢
   by_contra other
   have away:"kivou:conversion-attribution-token:v1\x00".toList++form≠signedText:=fun is=>
    other (List.append_cancel_left (is.trans signedText_eq.symm))
   have left:sampleHmac ("kivou:conversion-attribution-token:v1\x00".toList++form) =
     List.replicate 32 0:=if_neg away
   have right:sampleHmac ("kivou:conversion-attribution-token:v1\x00".toList ++
     canonical sampleTools (samplePayload.keyed "k1"))=digest:=if_pos signedText_eq
   rw[signature,signature,sampleTools_hmac,sampleTools_hmac,left,right] at same
   exact absurd same (by decide)
 · decide

end Kivou.AttributionTokens
