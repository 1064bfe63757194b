import Kivou.Calendar
import Kivou.PythonValues
import Mathlib.Data.List.Sort
import Mathlib.Logic.Function.Basic

set_option autoImplicit false

/-! An address is never stored: a suppression holds the HMAC of its normalised form under one
version of the keys, within one scope. -/
namespace Kivou.ComplianceSuppressions
open PythonValues

inductive Scope where
 | kivouAcquisitionEmail
 | milomailAcquisitionEmail
 deriving DecidableEq

inductive Source where
 | unsubscribe
 | recipientObjection
 | manualVerified
 | systemImport
 deriving DecidableEq

inductive ReasonCode where
 | unsubscribed
 | recipientObjected
 | manualDoNotContact
 | importedSuppression
 | identityRekeyProof
 deriving DecidableEq

inductive MatchState where
 | clear
 | matched
 | coverageUnsafe
 deriving DecidableEq

inductive Failure where
 | identityUnavailable (message:String)
 | valueError (message:String)
 | noResultFound
 | validationError
 | idempotencyConflict (suppressionId:String)
 deriving DecidableEq

structure Suppression where
 (identityHmac identityKeyVersion:String)
 scope:Scope
 source:Source
 reasonCode:ReasonCode
 evidenceRef:String
 (contactRef supplierRef:Option String)
 (receivedAt effectiveAt minimumRetentionUntil:ℤ)
 supersedesSuppressionId:Option String
 createdAt:ℤ
 deriving DecidableEq

structure Contact where
 (contactRef supplierRef businessEmail verificationState verificationProvider:String)
 (providerEmailStatus sourceFingerprint roleProfileVersion:String)
 roleTier:ℕ

structure SuppressionMatch where
 state:MatchState
 (keyVersionsConsidered suppressionRefs:List String)

def isHex (c:Char):Bool:=c.isDigit||('a' ≤ c&&c ≤ 'f')

abbrev Digest:=Fin (2^256)

def hexDigit (n:ℕ):Char:=Char.ofNat (if n<10 then 48+n else 87+n)

def hexdigest (digest:Digest):String:=
 String.ofList ((List.range 64).reverse.map fun i=>hexDigit (digest.val/16^i%16))

/-- `str.casefold`, `str.upper`, the HMAC of an address within a scope, and the digest of
a suppression. -/
structure Primitives where
 (casefold upper:String→String)
 hmac:List UInt8→Scope→String→Digest
 suppressionId:Suppression→Digest

/-- `^[^\s@]+@[^\s@]+\.[^\s@]+$` -/
def isAddress (chars:List Char):Bool:=
 let user:=chars.takeWhile (· != '@')
 let domain:=(chars.dropWhile (· != '@')).tail
 !user.isEmpty&&user.all (!isSpace ·)&&domain.all (fun c=>!isSpace c&&c != '@') &&
  domain.tail.dropLast.contains '.'

variable (p:Primitives)

def normalizeBusinessEmail (value:String):Except Failure String:=
 let normalized:=p.casefold (strip value)
 if normalized.isEmpty ∨ 320<normalized.toList.length ∨ isAddress normalized.toList=false then
  .error (.identityUnavailable "business email is unusable for suppression")
 else .ok normalized

/-- `SuppressionIdentityKeyring`, as `__post_init__` lets it through. -/
structure Keyring where
 currentKeyVersion:String
 keys:List (String × List UInt8)
 unique:(keys.map Prod.fst).Nodup
 current:currentKeyVersion∈keys.map Prod.fst
 bounded:keys.length≤8
 named:∀key∈keys,key.1≠"" ∧ key.1.toList.length≤64
 long:∀key∈keys,8≤key.2.length

def Keyring.versions (keyring:Keyring):List String:=
 (keyring.keys.map Prod.fst).insertionSort (· ≤ ·)

def Keyring.identitiesForEmail (keyring:Keyring)(scope:Scope)(email:String) :
 Except Failure (List (String × String)):=do
 let normalized ←normalizeBusinessEmail p email
 .ok (keyring.keys.map fun key=>(key.1,hexdigest (p.hmac key.2 scope normalized)))

def Keyring.covers (keyring:Keyring)(retained:List String):Bool:=
 retained.all (keyring.keys.map Prod.fst).contains

def Keyring.requireVersionsCovered (keyring:Keyring)(retained:List String) :
 Except Failure Unit:=
 if keyring.covers retained then .ok ()
 else .error (.identityUnavailable "suppression key coverage unavailable")

def dayMicroseconds:ℤ:=86400000000

def instant (d:DateTime):Option ℤ:=d.offset.map (d.wall-·)

def awareInstant (message:String)(d:DateTime):Except Failure ℤ:=
 (instant d).elim (.error (.valueError message)) .ok

def minimumRetentionUntil (receivedAt:DateTime):Except Failure ℤ:=do
 let now ←awareInstant "received_at must be timezone-aware" receivedAt
 let civil:=Calendar.ofOrdinal (receivedAt.wall/dayMicroseconds+1).toNat
 if 9999<civil.year+3 then .error (.valueError "year is out of range")
 else
  let later:Calendar.Civil:={civil with year:=civil.year+3}
  let later:=if later.valid then later else {later with day:=28}
  .ok (now+((Calendar.toOrdinal later:ℤ)-Calendar.toOrdinal civil)*dayMicroseconds)

structure Store where
 rows:List (String × Suppression)
 contacts:String→Option Contact

def evidencePrefix:String:="suppression-evidence:"

def opaqueEvidence (evidenceRef:String):Option (List Char):=
 if evidencePrefix.toList.isPrefixOf evidenceRef.toList ∧
   evidenceRef.toList.length=evidencePrefix.toList.length+64 then
  some (evidenceRef.toList.drop evidencePrefix.toList.length)
 else none

def Store.contact (s:Store)(contactRef:String):Except Failure Contact:=
 (s.contacts contactRef).elim (.error .noResultFound) .ok

/-- `_append_in_transaction`. -/
def Store.append (s:Store)(values:Suppression):Except Failure (Store × Suppression):=
 let id:=hexdigest (p.suppressionId values)
 match s.rows.find? (·.1==id) with
 | none=>.ok ({s with rows:=s.rows++[(id,values)]},values)
 | some row=>if row.2=values then .ok (s,row.2) else .error (.idempotencyConflict id)

def identityOf (identities:List (String × String))(version:String):Except Failure String:=
 ((identities.find? (·.1==version)).map Prod.snd).elim
  (.error (.identityUnavailable "suppression key coverage unavailable")) .ok

/-- `record_for_contact_in_transaction`. -/
def recordForContact (keyring:Keyring)(scope:Scope)(contactRef:String)(source:Source)
 (reasonCode:ReasonCode)(evidenceRef:String)(receivedAt:DateTime)
 (effectiveAt:Option DateTime)(keyVersion:Option String)(s:Store) :
 Except Failure (Store × Suppression):=do
 let received ←awareInstant "received_at must be timezone-aware" receivedAt
 let effective ←effectiveAt.elim (.ok received) (awareInstant "effective_at must be timezone-aware")
 if (opaqueEvidence evidenceRef).any (·.all isHex)=false then
  .error (.valueError "suppression evidence_ref must be opaque")
 else
  let version:=(keyVersion.filter (· ≠ "")).getD keyring.currentKeyVersion
  keyring.requireVersionsCovered [version]
  let contact ←s.contact contactRef
  let identities ←keyring.identitiesForEmail p scope contact.businessEmail
  let retention ←minimumRetentionUntil receivedAt
  s.append p {
   identityHmac:=←identityOf identities version
   identityKeyVersion:=version
   scope
   source
   reasonCode
   evidenceRef
   contactRef:=some contact.contactRef
   supplierRef:=some contact.supplierRef
   receivedAt:=received
   effectiveAt:=effective
   minimumRetentionUntil:=retention
   supersedesSuppressionId:=none
   createdAt:=received}

/-- `record_for_email_in_transaction`. -/
def recordForEmail (keyring:Keyring)(scope:Scope)(email:String)(source:Source)
 (reasonCode:ReasonCode)(evidenceRef:String)(receivedAt:DateTime)(s:Store) :
 Except Failure (Store × Suppression):=do
 let received ←awareInstant "received_at must be timezone-aware" receivedAt
 if (opaqueEvidence evidenceRef).isNone then
  .error (.valueError "suppression evidence_ref must be opaque")
 else
  let identities ←keyring.identitiesForEmail p scope email
  let version:=keyring.currentKeyVersion
  let retention ←minimumRetentionUntil receivedAt
  s.append p {
   identityHmac:=←identityOf identities version
   identityKeyVersion:=version
   scope
   source
   reasonCode
   evidenceRef
   contactRef:=none
   supplierRef:=none
   receivedAt:=received
   effectiveAt:=received
   minimumRetentionUntil:=retention
   supersedesSuppressionId:=none
   createdAt:=received}

/-- A text of the models: trimmed, and of one to `most` characters. -/
def bounded (most:ℕ)(value:String):Bool:=!(trim value).isEmpty&&(trim value).toList.length ≤ most

/-- The validation of a `SuppressionMatch`. -/
def SuppressionMatch.validated (m:SuppressionMatch):Except Failure SuppressionMatch:=
 if 1 ≤ m.keyVersionsConsidered.length ∧ m.keyVersionsConsidered.length≤8 ∧
   m.keyVersionsConsidered.all (bounded 100) ∧ m.suppressionRefs.length≤16 ∧
   m.suppressionRefs.all (bounded 256) then
  .ok {m with
   keyVersionsConsidered:=m.keyVersionsConsidered.map trim
   suppressionRefs:=m.suppressionRefs.map trim}
 else .error .validationError

def Store.selected (s:Store)(scope:Scope)(identities:List (String × String))
 (now:Option ℤ):List (String × Suppression):=
 s.rows.filter fun row=>row.2.scope==scope &&
  identities.contains (row.2.identityKeyVersion,row.2.identityHmac) &&
  now.all fun now=>decide (row.2.effectiveAt≤now)

def Store.retained (s:Store)(scope:Scope):List String:=
 ((s.rows.filter (·.2.scope==scope)).map (·.2.identityKeyVersion)).dedup

def Keyring.found (keyring:Keyring)(rows:List (String × Suppression)) :
 Except Failure SuppressionMatch:=
 let found:=(rows.map Prod.fst).insertionSort (· ≤ ·)
 SuppressionMatch.validated {
  state:=if found.isEmpty then .clear else .matched
  keyVersionsConsidered:=keyring.versions
  suppressionRefs:=found.map ("acquisition-suppression:" ++ ·)}

def Keyring.coverageUnsafe (keyring:Keyring):Except Failure SuppressionMatch:=
 SuppressionMatch.validated {
  state:=.coverageUnsafe
  keyVersionsConsidered:=keyring.versions
  suppressionRefs:=["suppression-keyring:coverage-unsafe"]}

/-- `match_contact_in_transaction`. -/
def matchContact (keyring:Keyring)(scope:Scope)(contactRef:String)
 (assessedAt:Option DateTime)(s:Store):Except Failure SuppressionMatch:=do
 let contact ←s.contact contactRef
 let identities ←keyring.identitiesForEmail p scope contact.businessEmail
 if keyring.covers (s.retained scope) then
  let now ←assessedAt.elim (.ok none) fun d=>do
   .ok (some (←awareInstant "suppression assessment time must be timezone-aware" d))
  keyring.found (s.selected scope identities now)
 else keyring.coverageUnsafe

end Kivou.ComplianceSuppressions
