import Kivou.Tables
import Mathlib.Data.List.Sort

set_option autoImplicit false

/-! `signals.client_value.notice_backfill`: a bounded number of BOAMP events is looked up in one
execution, and a cursor file is checkpointed before each lookup and after what came of it. -/
namespace Kivou.NoticeBackfill

structure NoticeBackfillAttempt where
 eventKey:String
 attempts:ℕ
 reason:Option String:=none
 deriving DecidableEq

structure NoticeBackfillCursor where
 selectionHash:Option String:=none
 afterEventKey:String:=""
 pending:List NoticeBackfillAttempt:=[]
 terminal:List NoticeBackfillAttempt:=[]
 terminalCount:ℕ:=0
 deriving DecidableEq

def isHexChar (c:Char):Bool:=48≤c.toNat&&c.toNat≤57||97≤c.toNat&&c.toNat≤102

/-- `^[0-9a-f]{64}$` -/
def isSha256 (text:String):Bool:=text.length=64&&text.toList.all isHexChar

def NoticeBackfillAttempt.valid (a:NoticeBackfillAttempt):Bool:=
 1≤a.eventKey.length&&a.eventKey.length≤256&&1≤a.attempts&&a.attempts≤3 &&
  a.reason.all (·.length≤128)

namespace NoticeBackfillCursor

def valid (c:NoticeBackfillCursor):Bool:=c.selectionHash.all isSha256&&c.afterEventKey.length≤256 &&
  c.pending.length≤100&&c.pending.all (·.valid) &&
  c.terminal.length≤100&&c.terminal.all (·.valid) &&
  (c.pending.map (·.eventKey)).Nodup

end NoticeBackfillCursor

def escape (c:Char):List Char:=
 if c = '"' then ['\\','"']
 else if c = '\\' then ['\\','\\']
 else if c.toNat=8 then ['\\','b']
 else if c.toNat=9 then ['\\','t']
 else if c.toNat=10 then ['\\','n']
 else if c.toNat=12 then ['\\','f']
 else if c.toNat=13 then ['\\','r']
 else if c.toNat<32 then ['\\','u','0','0',Nat.digitChar (c.toNat/16),Nat.digitChar (c.toNat%16)]
 else [c]

def quoted (text:String):List Char:=['"']++text.toList.flatMap escape++['"']

def nullable (text:Option String):List Char:=text.elim "null".toList quoted

def number (n:ℕ):List Char:=Nat.toDigits 10 n

def array (items:List (List Char)):List Char:=['[']++(items.intersperse [',']).flatten++[']']

def NoticeBackfillAttempt.json (a:NoticeBackfillAttempt):List Char:=
 "\x7b\"event_key\":".toList++quoted a.eventKey++",\"attempts\":".toList ++
  number a.attempts++",\"reason\":".toList++nullable a.reason++['\x7d']

/-- `model_dump_json` -/
def NoticeBackfillCursor.json (c:NoticeBackfillCursor):List Char:=
 "\x7b\"selection_hash\":".toList++nullable c.selectionHash ++
  ",\"after_event_key\":".toList++quoted c.afterEventKey ++
  ",\"pending\":".toList++array (c.pending.map (·.json)) ++
  ",\"terminal\":".toList++array (c.terminal.map (·.json)) ++
  ",\"terminal_count\":".toList++number c.terminalCount++['\x7d']

def utf8Size (text:List Char):ℕ:=(text.map Char.utf8Size).sum

def NoticeBackfillCursor.loads (c:NoticeBackfillCursor):Bool:=utf8Size c.json≤256*1024&&c.valid

/-- The BOAMP events of `source_event`, by their keys, as the database compares
them; and the selection that every execution is given. -/
structure Setting where
 events:List String
 precedes:String→String→Bool
 eventKeys:Option (List String)
 hash:List String→String
 distinct:events.Nodup
 bounded:∀key∈events,1≤key.length ∧ key.length≤256
 few:events.length<2^63
 trans:∀a b c,precedes a b=true→precedes b c=true→precedes a c=true
 total:∀a b,(precedes a b||precedes b a)=true
 hexdigest:∀keys,isSha256 (hash keys)=true

def Setting.selects (s:Setting)(key:String):Bool:=s.eventKeys.all (·.contains key)

/-- The keys of a selection, if they are ones that `_bind_selection` takes. -/
def Setting.admits (s:Setting):Bool:=s.eventKeys.all fun keys=>1≤keys.length&&keys.length≤100 &&
  keys.all (fun key=>1≤key.length&&key.length≤256)&&keys.Nodup &&
  keys.all s.events.contains

def Setting.selectionHash (s:Setting):Option String:=
 s.eventKeys.map fun keys=>s.hash (keys.insertionSort (· ≤ ·))

def NoticeBackfillCursor.pristine (c:NoticeBackfillCursor):Bool:=
 c.selectionHash.isNone&&c.afterEventKey=""&&c.pending.isEmpty&&c.terminal.isEmpty &&
  c.terminalCount=0

def NoticeBackfillCursor.keys (c:NoticeBackfillCursor):List String:=
 (c.pending++c.terminal).map (·.eventKey) ++
  if c.afterEventKey="" then [] else [c.afterEventKey]

/-- `_bind_selection` -/
def bindSelection (s:Setting)(c:NoticeBackfillCursor):Option NoticeBackfillCursor:=
 if !s.admits then none
 else if c.selectionHash≠s.selectionHash ∧ !c.pristine then none
 else
  let bound:={c with selectionHash:=s.selectionHash}
  if bound.keys.all s.selects then some bound else none

def NoticeBackfillCursor.retried (c:NoticeBackfillCursor)(limit:ℕ):List String:=
 (c.pending.take limit).map (·.eventKey)

/-- The pending events of `_selected`, in the order of the database. -/
def pendingRows (s:Setting)(c:NoticeBackfillCursor)(limit:ℕ):List String:=
 (s.events.filter fun key=>(c.retried limit).contains key&&s.selects key).insertionSort
  fun a b=>s.precedes a b

def candidates (s:Setting)(c:NoticeBackfillCursor)(needs:String→Bool)(limit:ℕ) :
 List String:=
 (s.events.filter fun key=>s.selects key&&!s.precedes key c.afterEventKey &&
  !(c.retried limit).contains key&&needs key).insertionSort fun a b=>s.precedes a b

def freshRows (s:Setting)(c:NoticeBackfillCursor)(needs:String→Bool)(limit:ℕ) :
 List String:=
 (candidates s c needs limit).take
  (min (limit-(pendingRows s c limit).length) (100-c.pending.length))

/-- `_selected`, by the keys of its rows. -/
def selected (s:Setting)(c:NoticeBackfillCursor)(needs:String→Bool)(limit:ℕ) :
 List String:=pendingRows s c limit++freshRows s c needs limit

inductive FailureCategory where
 | timeout | rateLimited | serverError | unauthorized | clientError | network | malformed

def FailureCategory.name:FailureCategory→String
 | .timeout=>"timeout"
 | .rateLimited=>"rate_limited"
 | .serverError=>"server_error"
 | .unauthorized=>"unauthorized"
 | .clientError=>"client_error"
 | .network=>"network"
 | .malformed=>"malformed"

/-- `_SAFE_FAILURE_REASONS` -/
inductive SafeFailureReason where
 | noticeIdentityMismatch | eventIdentityMismatch | storedAwardAlignmentMismatch
 | sourceFactsAlignmentRejected | noticeReaderRequired | noticeNotFound | relatedNoticeLimit
 | relatedNoticeNotFound

def SafeFailureReason.name:SafeFailureReason→String
 | .noticeIdentityMismatch=>"notice_identity_mismatch"
 | .eventIdentityMismatch=>"event_identity_mismatch"
 | .storedAwardAlignmentMismatch=>"stored_award_alignment_mismatch"
 | .sourceFactsAlignmentRejected=>"source_facts_alignment_rejected"
 | .noticeReaderRequired=>"notice_reader_required"
 | .noticeNotFound=>"notice_not_found"
 | .relatedNoticeLimit=>"related_notice_limit"
 | .relatedNoticeNotFound=>"related_notice_not_found"

def isIdentifier (text:String):Bool:=text.toList.all fun c=>c.isAlphanum||c == '_'

/-- The name of an exception's class. One that is too long for a reason is not
caught, and ends the execution. -/
structure ClassName where
 text:String
 form:isIdentifier text=true
 length:text.length≤128

inductive Failure where
 | category (category:FailureCategory)
 | safe (reason:SafeFailureReason)
 | unnamed (type:ClassName)

def Failure.reason:Failure→String
 | .category c=>c.name
 | .safe r=>r.name
 | .unnamed type=>type.text

inductive Answer where
 | stored (needed:Bool)
 | unsupported
 | failed (failure:Failure)

/-- How far the turn of an event comes: the execution ends before its first
checkpoint, after it, or during its lookup; or there is an answer, and the last
checkpoint is written or the execution ends before it. -/
inductive Fate where
 | lost
 | noted
 | lookedUp
 | answered (answer:Answer)(written:Bool)

inductive Mark where
 | checkpoint (cursor:NoticeBackfillCursor)
 | lookup (eventKey:String)
 | stored (eventKey:String)
 | unsupported (eventKey:String)
 | exhausted (eventKey:String)(attempts:ℕ)
 deriving DecidableEq

/-- The file, the events that `_needs_facts` selects, and what was done so far. -/
structure World where
 file:NoticeBackfillCursor
 needs:String→Bool
 trace:List Mark

def World.checkpoint (w:World)(c:NoticeBackfillCursor):World:=
 {w with file:=c,trace:=w.trace++[.checkpoint c]}

def World.mark (w:World)(m:Mark):World:={w with trace:=w.trace++[m]}

/-- The event's place in `pending`; a new one comes last. -/
def setPending (a:NoticeBackfillAttempt)(pending:List NoticeBackfillAttempt) :
 List NoticeBackfillAttempt:=
 if pending.any (·.eventKey==a.eventKey) then
  Tables.update (·.eventKey==a.eventKey) (fun _=>a) pending
 else pending++[a]

namespace NoticeBackfillCursor

def attemptsOf (c:NoticeBackfillCursor)(key:String):ℕ:=
 ((c.pending.find? (·.eventKey==key)).map (·.attempts)).getD 0

def popped (c:NoticeBackfillCursor)(key:String):NoticeBackfillCursor:=
 {c with pending:=c.pending.filter (·.eventKey != key)}

/-- Without its place in `pending`, and among the last hundred outcomes. -/
def ended (c:NoticeBackfillCursor)(a:NoticeBackfillAttempt):NoticeBackfillCursor:=
 { c.popped a.eventKey with
   terminal:=(c.terminal++[a]).drop (c.terminal.length+1-100)
   terminalCount:=c.terminalCount+1}

def noted (c:NoticeBackfillCursor)(key:String):NoticeBackfillCursor:=
 {c with
   afterEventKey:=if c.afterEventKey<key then key else c.afterEventKey
   pending:=setPending {eventKey:=key,attempts:=c.attemptsOf key+1} c.pending}

def settled (c:NoticeBackfillCursor)(key:String):Answer→NoticeBackfillCursor
 | .stored _=>c.popped key
 | .unsupported=>c.ended ⟨key,c.attemptsOf key,some "unsupported_notice_family"⟩
 | .failed failure =>
  let attempt:NoticeBackfillAttempt:=⟨key,c.attemptsOf key,some failure.reason⟩
  if 3≤c.attemptsOf key then c.ended attempt
  else {c with pending:=setPending attempt c.pending}

def exhausts (c:NoticeBackfillCursor)(key:String):Answer→Bool
 | .failed _=>3≤c.attemptsOf key
 | _=>false

end NoticeBackfillCursor

def World.answered (w:World)(key:String):Answer→World
 | .stored needed =>
  {w with
    needs:=fun other=>if other=key then needed else w.needs other
    trace:=w.trace++[.stored key]}
 | .unsupported=>w.mark (.unsupported key)
 | .failed _=>w

def turn (c:NoticeBackfillCursor)(w:World)(key:String)(fate:Fate) :
 World × Option NoticeBackfillCursor:=
 if 3≤c.attemptsOf key then
  let ended:=c.ended ⟨key,3,some "attempt_limit"⟩
  match fate with
  | .lost=>(w,none)
  | _=>((w.mark (.exhausted key 3)).checkpoint ended,some ended)
 else
  let noted:=c.noted key
  match fate with
  | .lost=>(w,none)
  | .noted=>(w.checkpoint noted,none)
  | .lookedUp=>((w.checkpoint noted).mark (.lookup key),none)
  | .answered answer written =>
   let known:=((w.checkpoint noted).mark (.lookup key)).answered key answer
   if !written then (known,none)
   else
    let settled:=noted.settled key answer
    let marked:=if noted.exhausts key answer then
     known.mark (.exhausted key (noted.attemptsOf key)) else known
    (marked.checkpoint settled,some settled)

def process (c:NoticeBackfillCursor)(w:World):List String→List Fate→World
 | key::keys,fate::fates =>
  match turn c w key fate with
  | (w,some c)=>process c w keys fates
  | (w,none)=>w
 | _,_=>w

structure Execution where
 limit:ℕ
 fates:List Fate

/-- `backfill_notice_facts` from its file; where it refuses to start, nothing changes. -/
def execute (s:Setting)(w:World)(e:Execution):World:=
 if e.limit<1 ∨ 100<e.limit ∨ !w.file.loads then w
 else match bindSelection s w.file with
  | none=>w
  | some c=>process c w (selected s c w.needs e.limit) e.fates

end Kivou.NoticeBackfill
