import Kivou.PythonValues
import Kivou.RuntimeStore
import Kivou.Runs

set_option autoImplicit false

/-! A request, its approval and the one grant that it gives are three transactions on one row. -/
namespace Kivou.RuntimeApprovals
open PythonValues AcquisitionRuntime

inductive Purpose where
 | action
 | complianceReview
 deriving DecidableEq

/-- `RuntimeApprovalBinding`, as its validators let it through. -/
structure Binding where
 (requestRef cycleRef:String)
 stage:Stage
 purpose:Purpose
 (command targetRef acquisitionOpportunityId actionFingerprint policyVersion:String)
 policySnapshotId:String
 controlRevision:ℕ
 scopeFingerprint:String
 (requestedAt expiresAt:ℤ)
 window:requestedAt<expiresAt
 commanded:command=stage.command
 deriving DecidableEq

inductive State where
 | pending
 | approved
 | consumed
 deriving DecidableEq

inductive Failure where
 | validationError
 | integrityError
 | notFound (approvalId:String)
 | bindingConflict (approvalId:String)
 | stateConflict (approvalId:String)
 | expired (approvalId:String)
 deriving DecidableEq

structure Snapshot where
 approvalId:String
 binding:Binding
 status:State
 approvedByActorRef:Option String
 approvedAt:Option ℤ
 consumedByRef:Option String
 consumedAt:Option ℤ
 deriving DecidableEq

/-- `ApprovalGrant`. -/
structure Grant where
 approvalId:String
 purpose:Purpose
 (command targetRef acquisitionOpportunityId actionFingerprint policyVersion:String)
 policySnapshotId:String
 controlRevision:ℕ
 scopeFingerprint:String
 (issuedAt expiresAt:ℤ)
 oneShot:Bool:=true
 consumedAt:Option ℤ:=none
 approvedByActorRef:String
 deriving DecidableEq

structure Row (Digest:Type) where
 binding:Binding
 bindingFingerprint:Digest
 state:State
 approvedByActorRef:Option String
 approvedAt:Option ℤ
 consumedByRef:Option String
 consumedAt:Option ℤ
 updatedAt:ℤ

section Rows
variable {Digest:Type}

def Row.opens (row:Row Digest)(now:ℤ):Bool:=
 decide (row.binding.requestedAt≤now)&&decide (now<row.binding.expiresAt)

/-- `ck_acquisition_runtime_approval_window` and `…_lifecycle`. -/
def Row.checks (row:Row Digest):Bool:=decide (row.binding.requestedAt≤row.updatedAt) &&
  match row.state with
  | .pending=>row.approvedByActorRef.isNone&&row.approvedAt.isNone &&
    row.consumedByRef.isNone&&row.consumedAt.isNone
  | .approved=>row.approvedByActorRef.isSome&&row.approvedAt.any row.opens &&
    row.consumedByRef.isNone&&row.consumedAt.isNone
  | .consumed=>row.approvedByActorRef.isSome&&row.consumedByRef.isSome &&
    row.approvedAt.any (fun approvedAt=>decide (row.binding.requestedAt≤approvedAt) &&
     row.consumedAt.any fun consumedAt=>
      decide (approvedAt≤consumedAt)&&decide (consumedAt<row.binding.expiresAt))

def Row.checked (row:Row Digest):Except Failure (Row Digest):=
 if row.checks then .ok row else .error .integrityError

def Row.approve (row:Row Digest)(actorRef:String)(now:ℤ):Row Digest:=
 { row with state:=.approved,approvedByActorRef:=some actorRef,approvedAt:=some now,
            updatedAt:=now}

def Row.consume (row:Row Digest)(consumerRef:String)(now:ℤ):Row Digest:=
 { row with state:=.consumed,consumedByRef:=some consumerRef,consumedAt:=some now,
            updatedAt:=now}

/-- `_snapshot`. -/
def Row.snapshot (approvalId:String)(row:Row Digest):Snapshot:=
 ⟨approvalId,row.binding,row.state,row.approvedByActorRef,row.approvedAt,row.consumedByRef,
  row.consumedAt⟩

/-- `_require_open`. -/
def requireOpen (approvalId:String)(row:Row Digest)(now:ℤ):Except Failure Unit:=
 if now<row.binding.requestedAt then .error (.stateConflict approvalId)
 else if row.binding.expiresAt≤now then .error (.expired approvalId)
 else .ok ()

def Binding.grant (binding:Binding)(approvalId:String)(issuedAt:ℤ)(approvedBy:String) : Grant where
 __:=binding
 approvalId
 issuedAt
 approvedByActorRef:=approvedBy

/-- `_grant`. -/
def grant (approvalId:String)(row:Row Digest):Except Failure Grant:=
 match row.state,row.approvedAt,row.approvedByActorRef with
 | .consumed,some approvedAt,some approvedBy =>
  .ok (row.binding.grant approvalId approvedAt approvedBy)
 | _,_,_=>.error (.stateConflict approvalId)

end Rows

inductive Call where
 | request (binding:Binding)
 | approve (approvalId approvedByActorRef:String)(now:ℤ)
 | consume (approvalId consumerRef:String)(now:ℤ)
 deriving DecidableEq

inductive Answer where
 | snapshot (s:Snapshot)
 | grant (g:Grant)
 deriving DecidableEq

def isHex (c:Char):Bool:=c.isDigit||('a' ≤ c&&c ≤ 'f')

/-- `^[0-9a-f]{64}$`. -/
def validatedFingerprint (value:String):Except Failure String:=
 if value.toList.length=64 ∧ value.toList.all isHex then .ok value else .error .validationError

def isRefStart (c:Char):Bool:=c.isAlphanum
def isRefPart (c:Char):Bool:=c.isAlphanum||c == '.' || c == '_' || c == ':' || c == '-'

/-- `^[A-Za-z0-9][A-Za-z0-9._:-]{0,255}$`, once trimmed. -/
def validatedRef (value:String):Except Failure String:=
 match (trim value).toList with
 | c::cs =>
  if isRefStart c ∧ cs.length≤255 ∧ cs.all isRefPart then .ok (trim value)
  else .error .validationError
 | []=>.error .validationError

def Call.validated:Call→Except Failure Call
 | .request binding=>.ok (.request binding)
 | .approve approvalId actorRef now=>do
  .ok (.approve (←validatedFingerprint approvalId) (←validatedRef actorRef) now)
 | .consume approvalId consumerRef now=>do
  .ok (.consume (←validatedFingerprint approvalId) (←validatedRef consumerRef) now)

section System
variable {Digest:Type}[DecidableEq Digest](approvalId:String→String)
 (bindingFingerprint:Binding→Digest)

def Call.row:Call→String
 | .request binding=>approvalId binding.requestRef
 | .approve id _ _=>id
 | .consume id _ _=>id

/-- What `request_approval` inserts. -/
def requested (binding:Binding):Row Digest where
 binding
 bindingFingerprint:=bindingFingerprint binding
 state:=.pending
 approvedByActorRef:=none
 approvedAt:=none
 consumedByRef:=none
 consumedAt:=none
 updatedAt:=binding.requestedAt

/-- The first statement of a call: the row as it writes it, none when it takes
none. The cycle that a request names has to exist. -/
def Call.writes (row:Option (Row Digest))(cycleExists:Bool) :
 Call→Option (Except Failure (Row Digest))
 | .request binding =>
  match row with
  | some _=>none
  | none=>some (if cycleExists then (requested bindingFingerprint binding).checked
    else .error .integrityError)
 | .approve _ actorRef now =>
  match row with
  | some row =>
   if row.state=.pending ∧ row.opens now=true then some (row.approve actorRef now).checked
   else none
  | none=>none
 | .consume _ consumerRef now =>
  match row with
  | some row =>
   if row.state=.approved ∧ row.approvedAt.any (fun approvedAt=>decide (approvedAt≤now)) ∧
     now<row.binding.expiresAt then some (row.consume consumerRef now).checked
   else none
  | none=>none

/-- What a call answers of the row that it reads, `wrote` when it took that row itself. -/
def Call.answer (wrote:Bool)(row:Option (Row Digest))(call:Call):Except Failure Answer:=
 let id:=call.row approvalId
 match call,row with
 | .request binding,some row =>
  if row.binding.requestRef≠binding.requestRef ∨
    row.bindingFingerprint≠bindingFingerprint binding then .error (.bindingConflict id)
  else .ok (.snapshot (row.snapshot id))
 | .request _,none=>.error (.bindingConflict id)
 | .approve _ actorRef now,some row =>
  if wrote then .ok (.snapshot (row.snapshot id))
  else do
   requireOpen id row now
   if row.state≠.pending ∧ row.approvedByActorRef=some actorRef then
    .ok (.snapshot (row.snapshot id))
   else .error (.stateConflict id)
 | .consume _ consumerRef now,some row=>do
  requireOpen id row now
  if wrote=false ∧ ¬(row.state=.consumed ∧ row.consumedByRef=some consumerRef) then
   .error (.stateConflict id)
  else .ok (.grant (←grant id row))
 | .approve _ _ _,none=>.error (.notFound id)
 | .consume _ _ _,none=>.error (.notFound id)

structure World (Digest:Type) where
 rows:String→Option (Row Digest)
 waiting:ℕ→Option Call
 log:List (Call × Except Failure Answer)

def World.empty:World Digest:=⟨fun _=>none,fun _=>none,[]⟩

inductive Event where
 | call (p:ℕ)(call:Call)(cycleExists:Bool)
 | select (p:ℕ)

def World.answered (w:World Digest)(call:Call)(result:Except Failure Answer) :
 World Digest:=
 {w with log:=(call,result)::w.log}

def execute (w:World Digest)(p:ℕ)(call:Call)(cycleExists:Bool):World Digest:=
 match call.validated with
 | .error failure=>w.answered call (.error failure)
 | .ok call =>
  match call.writes bindingFingerprint (w.rows (call.row approvalId)) cycleExists with
  | none=>{w with waiting:=Function.update w.waiting p (some call)}
  | some (.error failure)=>w.answered call (.error failure)
  | some (.ok row) =>
   match call.answer approvalId bindingFingerprint true (some row) with
   | .error failure=>w.answered call (.error failure)
   | .ok answer =>
    World.answered {w with rows:=Function.update w.rows (call.row approvalId) (some row)} call
     (.ok answer)

def step (w:World Digest):Event→World Digest
 | .call p call cycleExists =>
  match w.waiting p with
  | some _=>w
  | none=>execute approvalId bindingFingerprint w p call cycleExists
 | .select p =>
  match w.waiting p with
  | none=>w
  | some call =>
   World.answered {w with waiting:=Function.update w.waiting p none} call
    (call.answer approvalId bindingFingerprint false (w.rows (call.row approvalId)))

def reached (events:List Event):World Digest:=
 events.foldl (step approvalId bindingFingerprint) World.empty

end System

end Kivou.RuntimeApprovals
