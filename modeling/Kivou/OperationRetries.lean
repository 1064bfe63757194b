import Mathlib.Order.Interval.Finset.Nat
import Kivou.CampaignRecords
import Kivou.Runs

set_option autoImplicit false

/-! `CampaignWorker.process` and the claims of `signals.campaigns.store`. What an attempt comes to
is in the label of a step. Instants are microseconds since the epoch. -/
namespace Kivou.OperationRetries
open Campaigns Tables

structure Operation where
 operationRef:String
 kind:OperationKind
 state:OperationState
 campaignRef:String
 memberRef:Option String
 attempt:ℕ
 leaseOwner:Option String
 (leaseExpiresAt retryAfter:Option ℤ)
 errorCode:Option String
 /-- No column: the attempts that passed the check of the dependencies. -/
 passed:Finset ℕ
 /-- No column: the calls that passed it, also those that went on with an attempt of before. -/
 checks:ℕ

def Operation.confirmed (op:Operation):Bool:=
 match op.state with
 | .confirmed=>true
 | _=>false

def providerOperationMaxAttempts:ℕ:=3

def Operation.start (op:Operation)(workerRef:String)(now:ℤ):Operation:=
 if op.retryAfter.any (now < ·) then op
 else {op with
  state:=.inFlight
  attempt:=op.attempt+1
  leaseOwner:=some workerRef
  leaseExpiresAt:=some (now+seconds 60)
  retryAfter:=none}

def claimOperation (op:Operation)(workerRef:String)(now:ℤ):Operation:=
 match op.state with
 | .inFlight =>
  if op.leaseExpiresAt.any (· ≤ now) then {op with
   state:=.reconcileRequired
   errorCode:=some "LEASE_EXPIRED_REMOTE_OUTCOME_UNKNOWN" }
  else op
 | .retryableFailed =>
  if providerOperationMaxAttempts≤op.attempt then {op with
   state:=.terminalFailed
   leaseOwner:=none
   leaseExpiresAt:=none
   retryAfter:=none
   errorCode:=some "RETRY_BUDGET_EXHAUSTED" }
  else op.start workerRef now
 | .planned=>op.start workerRef now
 | _=>op

def setOperationState (op:Operation)(state:OperationState)(errorCode:Option String)
 (retryAfter:Option ℤ):Operation:=
 {op with state,errorCode,retryAfter}

def required:OperationKind→List OperationKind
 | .configureCampaign=>[.createCampaign]
 | .addLead=>[.createCampaign,.configureCampaign]
 | _=>[]

def dependenciesConfirmed (ops:List Operation)(kind:OperationKind)(campaignRef:String) :
 Bool:=
 ((required kind).all fun dependency=>
  (ops.find? fun op=>op.campaignRef==campaignRef&&op.kind==dependency).any
   (·.confirmed)) &&
 (kind != .activateCampaign||ops.all fun op=>
  op.campaignRef != campaignRef||(op.kind != .pauseLead&&op.kind != .pauseCampaign) ||op.confirmed)

inductive InstantlyErrorCode where
 | auth | permission | planRequired | rateLimited | timeout | network | serverError
 | clientContractError | malformedResponse | remoteStateConflict

def InstantlyErrorCode.value:InstantlyErrorCode→String
 | auth=>"AUTH"
 | permission=>"PERMISSION"
 | planRequired=>"PLAN_REQUIRED"
 | rateLimited=>"RATE_LIMITED"
 | timeout=>"TIMEOUT"
 | network=>"NETWORK"
 | serverError=>"SERVER_ERROR"
 | clientContractError=>"CLIENT_CONTRACT_ERROR"
 | malformedResponse=>"MALFORMED_RESPONSE"
 | remoteStateConflict=>"REMOTE_STATE_CONFLICT"

/-- What comes of an attempt whose dependencies are confirmed; `remoteAttempted` tells whether the
provider was already called. -/
inductive Outcome where
 /-- The call is over before it records anything. -/
 | lost
 | confirmed (errorCode:Option String)(other:errorCode≠some "RETRY_BUDGET_EXHAUSTED")
 | providerError (code:InstantlyErrorCode)(reconciliationRequired remoteAttempted:Bool)
  (retryAt:Option ℤ)
 | campaignInputChanged (remoteAttempted:Bool)
 | raised (remoteAttempted:Bool)

def failedState (code:InstantlyErrorCode)(reconciliationRequired remoteAttempted:Bool) :
 OperationState:=
 match code,reconciliationRequired,remoteAttempted with
 | _,true,_ | .timeout,_,true | .network,_,true | .serverError,_,true
 | .malformedResponse,_,true=>.reconcileRequired
 | .auth,_,_ | .permission,_,_ | .planRequired,_,_ | .clientContractError,_,_
 | .remoteStateConflict,_,_=>.terminalFailed
 | _,_,_=>.retryableFailed

def unknownOrTerminal (remoteAttempted:Bool):OperationState:=
 if remoteAttempted then .reconcileRequired else .terminalFailed

def Outcome.record (op:Operation):Outcome→Operation
 | .lost=>op
 | .confirmed errorCode _=>setOperationState op .confirmed errorCode none
 | .providerError code reconciliationRequired remoteAttempted retryAt =>
  let state:=failedState code reconciliationRequired remoteAttempted
  setOperationState op state (some code.value) (match state with
   | .retryableFailed=>retryAt
   | _=>none)
 | .campaignInputChanged remoteAttempted =>
  setOperationState op (unknownOrTerminal remoteAttempted) (some "CAMPAIGN_INPUT_CHANGED") none
 | .raised remoteAttempted =>
  setOperationState op (unknownOrTerminal remoteAttempted) (some "REMOTE_STATE_CONFLICT") none

/-- What `_reconcile` finds at the provider. -/
inductive Reconciliation where
 /-- Nothing is written: it raised, or the operation names no member. -/
 | lost
 | confirmed (errorCode:Option String)(other:errorCode≠some "RETRY_BUDGET_EXHAUSTED")
 | provedAbsence | provedNotActivated | provedNotPaused | provedLeadSendable | conflict

def Reconciliation.record (op:Operation):Reconciliation→Operation
 | .lost=>op
 | .confirmed errorCode _=>setOperationState op .confirmed errorCode none
 | .provedAbsence =>
  setOperationState op .retryableFailed (some "RECONCILIATION_PROVED_ABSENCE") none
 | .provedNotActivated =>
  setOperationState op .retryableFailed (some "RECONCILIATION_PROVED_NOT_ACTIVATED") none
 | .provedNotPaused =>
  setOperationState op .retryableFailed (some "RECONCILIATION_PROVED_NOT_PAUSED") none
 | .provedLeadSendable =>
  setOperationState op .retryableFailed (some "RECONCILIATION_PROVED_LEAD_SENDABLE") none
 | .conflict=>setOperationState op .terminalFailed (some "REMOTE_STATE_CONFLICT") none

/-- A call of `process` on one operation. -/
structure Call where
 workerRef:String
 now:ℤ
 /-- It is over right after its claim. -/
 stops:Bool
 outcome:Outcome
 reconciliation:Reconciliation

/-- The worker holds the claim of the operation. -/
def Operation.heldBy (op:Operation)(workerRef:String):Bool:=
 match op.state with
 | .inFlight=>op.leaseOwner==some workerRef
 | _=>false

def process (ops:List Operation)(call:Call)(op:Operation):Operation:=
 match op.state with
 | .confirmed=>op
 | .reconcileRequired=>call.reconciliation.record op
 | _ =>
  let claimed:=claimOperation op call.workerRef call.now
  if !claimed.heldBy call.workerRef||call.stops then claimed
  else if !dependenciesConfirmed ops claimed.kind claimed.campaignRef then
   setOperationState claimed .planned (some "DEPENDENCY_NOT_CONFIRMED") none
  else call.outcome.record {claimed with
   passed:=insert claimed.attempt claimed.passed
   checks:=claimed.checks+1}

inductive Step where
 | plan (operationRef:String)(kind:OperationKind)(campaignRef:String) (memberRef:Option String)
 | process (operationRef:String)(call:Call)

def step (ops:List Operation):Step→List Operation
 | .plan operationRef kind campaignRef memberRef =>
  insertIfAbsent Operation.operationRef
   ⟨operationRef,kind,.planned,campaignRef,memberRef,0,none,none,none,none,∅,0⟩ ops
 | .process operationRef call =>update (·.operationRef==operationRef) (process ops call) ops

def Operation.exhausted (op:Operation):Bool:=
 match op.state with
 | .terminalFailed=>op.errorCode==some "RETRY_BUDGET_EXHAUSTED"
 | _=>false

/-- No call stops at its claim, or gives it back because a dependency is unconfirmed. -/
def Unhindered (ops:List Operation):Step→Prop
 | .plan ..=>True
 | .process operationRef call=>∀op∈ops,op.operationRef=operationRef →
  (claimOperation op call.workerRef call.now).heldBy call.workerRef=true →
   call.stops=false ∧ dependenciesConfirmed ops op.kind op.campaignRef=true

structure Sound (op:Operation):Prop where
 passed:Finset.Icc 1 op.attempt ⊆ op.passed
 exhausted:op.exhausted=true→providerOperationMaxAttempts≤op.attempt

/-- What a record of a result leaves of an operation. -/
structure Kept (op op':Operation):Prop where
 attempt:op'.attempt=op.attempt
 passed:op'.passed=op.passed
 checks:op'.checks=op.checks
 exhausted:op'.exhausted=true → op.exhausted=true

lemma Kept.sound {op op':Operation}(kept:Kept op op')(sound:Sound op):Sound op' where
 passed:=kept.attempt ▸ kept.passed ▸ sound.passed
 exhausted:=fun spent=>kept.attempt ▸ sound.exhausted (kept.exhausted spent)

lemma setOperationState_kept (op:Operation){state:OperationState}{errorCode:Option String}
 {retryAfter:Option ℤ}(other:errorCode≠some "RETRY_BUDGET_EXHAUSTED") :
 Kept op (setOperationState op state errorCode retryAfter) where
 attempt:=rfl
 passed:=rfl
 checks:=rfl
 exhausted:=fun spent=>by
  cases state <;> simp_all[Operation.exhausted,setOperationState]

lemma InstantlyErrorCode.value_ne (code:InstantlyErrorCode) :
 some code.value≠some "RETRY_BUDGET_EXHAUSTED":=by
 cases code <;> decide

lemma Outcome.record_kept (op:Operation)(outcome:Outcome):Kept op (outcome.record op):=by
 cases outcome with
 | lost=>exact ⟨rfl,rfl,rfl,id⟩
 | confirmed errorCode other=>exact setOperationState_kept op other
 | providerError code=>exact setOperationState_kept op code.value_ne
 | campaignInputChanged | raised=>exact setOperationState_kept op (by decide)

lemma Reconciliation.record_kept (op:Operation)(found:Reconciliation) :
 Kept op (found.record op):=by
 cases found with
 | lost=>exact ⟨rfl,rfl,rfl,id⟩
 | confirmed errorCode other=>exact setOperationState_kept op other
 | provedAbsence | provedNotActivated | provedNotPaused | provedLeadSendable | conflict =>
  exact setOperationState_kept op (by decide)

variable {ops:List Operation}{op:Operation}{workerRef:String}{now:ℤ}{call:Call}

structure Claimed (op claimed:Operation)(workerRef:String):Prop where
 kind:claimed.kind=op.kind
 campaignRef:claimed.campaignRef=op.campaignRef
 passed:claimed.passed=op.passed
 checks:claimed.checks=op.checks
 attempt:claimed.attempt=op.attempt ∨ claimed.attempt=op.attempt+1 ∧ claimed.heldBy workerRef=true
 exhausted:claimed.exhausted=true → op.exhausted=true ∨ providerOperationMaxAttempts≤claimed.attempt

lemma start_claimed:Claimed op (op.start workerRef now) workerRef:=by
 unfold Operation.start
 split
 · exact ⟨rfl,rfl,rfl,rfl,.inl rfl,.inl⟩
 · exact ⟨rfl,rfl,rfl,rfl,.inr ⟨rfl,by simp[Operation.heldBy]⟩,nofun⟩

lemma claimOperation_claimed:Claimed op (claimOperation op workerRef now) workerRef:=by
 unfold claimOperation
 split
 · split
   · exact ⟨rfl,rfl,rfl,rfl,.inl rfl,nofun⟩
   · exact ⟨rfl,rfl,rfl,rfl,.inl rfl,.inl⟩
 · split
   · rename_i spent
     exact ⟨rfl,rfl,rfl,rfl,.inl rfl,fun _=>.inr spent⟩
   · exact start_claimed
 · exact start_claimed
 · exact ⟨rfl,rfl,rfl,rfl,.inl rfl,.inl⟩

lemma Claimed.spent {claimed:Operation}(claims:Claimed op claimed workerRef)
 (sound:Sound op)(spent:claimed.exhausted=true) :
 providerOperationMaxAttempts≤claimed.attempt:=by
 rcases claims.exhausted spent with spent|enough
 · have enough:=sound.exhausted spent
   rcases claims.attempt with same|⟨next,-⟩ <;> omega
 · exact enough

lemma process_sound (sound:Sound op)
 (unhindered:(claimOperation op call.workerRef call.now).heldBy call.workerRef=true →
  call.stops=false ∧ dependenciesConfirmed ops op.kind op.campaignRef=true) :
 Sound (process ops call op):=by
 unfold process
 split
 · exact sound
 · exact (Reconciliation.record_kept op _).sound sound
 · have claims:=@claimOperation_claimed op call.workerRef call.now
   dsimp only
   cases held:(claimOperation op call.workerRef call.now).heldBy call.workerRef with
   | false =>
    simp only[Bool.not_false,Bool.true_or,if_true]
    rcases claims.attempt with same|⟨-,is⟩
    · exact ⟨by rw[same,claims.passed];exact sound.passed,claims.spent sound⟩
    · cases held.symm.trans is
   | true =>
    obtain ⟨goesOn,confirmed⟩:=unhindered held
    rw[←claims.kind,←claims.campaignRef] at confirmed
    simp only[goesOn,confirmed,Bool.not_true,Bool.or_self,Bool.false_eq_true,if_false]
    refine (Outcome.record_kept _ _).sound ⟨fun n mem=>?_,claims.spent sound⟩
    obtain ⟨first,last⟩:=Finset.mem_Icc.mp mem
    rcases Nat.lt_or_eq_of_le last with before|rfl
    · change n<(claimOperation op call.workerRef call.now).attempt at before
      refine Finset.mem_insert_of_mem (claims.passed ▸ sound.passed (Finset.mem_Icc.mpr ⟨first,?_⟩))
      rcases claims.attempt with same|⟨next,-⟩ <;> omega
    · exact Finset.mem_insert_self _ _

lemma Sound.step {ops:List Operation}(sound:∀op∈ops,Sound op){i:Step}
 (unhindered:Unhindered ops i):∀op∈step ops i,Sound op:=by
 cases i with
 | plan operationRef kind campaignRef memberRef =>
  unfold OperationRetries.step insertIfAbsent
  dsimp only
  split
  · exact sound
  · intro op mem
    rcases List.mem_append.mp mem with mem|mem
    · exact sound op mem
    · obtain rfl:=List.mem_singleton.mp mem
      exact ⟨by simp,nofun⟩
 | process operationRef call =>
  intro op mem
  obtain ⟨before,there,rfl⟩:=mem_update.mp mem
  split
  · rename_i named
    exact process_sound (sound before there) (unhindered before there (beq_iff_eq.mp named))
  · exact sound before there

/-- A waiting operation loses an attempt at each check. Where no claim is given back or dies before
the check, an operation ends on a spent budget only after three attempts that passed it. -/
theorem budget_is_spent_on_passed_attempts (steps:List Step)
 (unhindered:Runs.Along step Unhindered [] steps) :
 ∀op∈steps.foldl step [],op.exhausted=true →providerOperationMaxAttempts≤op.passed.card:=by
 intro op mem spent
 have sound:=unhindered.invariant (fun ops=>∀op∈ops,Sound op)
  (fun _ _ sound unhindered=>Sound.step sound unhindered) (fun _ none=>nomatch none) op mem
 calc providerOperationMaxAttempts
  _≤op.attempt:=sound.exhausted spent
  _=(Finset.Icc 1 op.attempt).card:=by simp
  _≤op.passed.card:=Finset.card_le_card sound.passed

def limited:Outcome:=.providerError .rateLimited false true none

def processed (operationRef:String)(outcome:Outcome)(now:ℤ):Step:=
 .process operationRef ⟨"worker",now,false,outcome,.lost⟩

/-- The configuration waits for its campaign at three calls, and one refusal ends it. -/
def poisoning:List Step:=[.plan "create" .createCampaign "campaign" none,
  .plan "configure" .configureCampaign "campaign" none,processed "configure" limited 0,
  processed "configure" limited 1,processed "configure" limited 2,
  processed "create" (.confirmed none nofun) 3,processed "configure" limited 4,
  processed "configure" limited 5]

theorem waiting_spends_the_budget:¬ ∀op∈poisoning.foldl step [],op.exhausted=true →
 providerOperationMaxAttempts≤op.passed.card:=by
 decide

def refusing:List Step:=
 [.plan "create" .createCampaign "campaign" none,processed "create" limited 0,
  processed "create" limited 1,processed "create" limited 2,processed "create" limited 3]

/-- An operation that is refused three times ends at the next call. -/
theorem refused_three_times:∃op∈refusing.foldl step [],
 op.exhausted=true ∧ providerOperationMaxAttempts≤op.passed.card:=by
 have ended:∃op∈refusing.foldl step [],op.exhausted=true:=by decide
 obtain ⟨op,mem,spent⟩:=ended
 refine ⟨op,mem,spent,budget_is_spent_on_passed_attempts refusing ?_ op mem spent⟩
 refine ⟨trivial,?_,?_,?_,?_,trivial⟩ <;> simp only[processed,Unhindered] <;> decide

/-- The columns that no write of an operation changes. -/
def Operation.identity (op:Operation):String × String × OperationKind:=
 (op.operationRef,op.campaignRef,op.kind)

def Operation.settled (op:Operation):Bool:=
 match op.state with
 | .confirmed | .terminalFailed=>true
 | _=>false

structure Processed (ops:List Operation)(op op':Operation):Prop where
 identity:op'.identity=op.identity
 settled:op.settled=true → op'=op
 checks:op'.checks=op.checks ∨ dependenciesConfirmed ops op.kind op.campaignRef=true

lemma identity_columns {op op':Operation}(same:op'.identity=op.identity) :
 op'.operationRef=op.operationRef ∧ op'.campaignRef=op.campaignRef ∧ op'.kind=op.kind:=by
 simpa[Operation.identity] using same

lemma claimOperation_identity:(claimOperation op workerRef now).identity=op.identity:=by
 unfold claimOperation Operation.start
 split <;> repeat' split
 all_goals rfl

lemma Outcome.record_identity (outcome:Outcome):(outcome.record op).identity=op.identity:=by
 cases outcome <;> rfl

lemma Reconciliation.record_identity (found:Reconciliation) :
 (found.record op).identity=op.identity:=by
 cases found <;> rfl

lemma process_processed:Processed ops op (process ops call op):=by
 have claims:=@claimOperation_claimed op call.workerRef call.now
 have same:=@claimOperation_identity op call.workerRef call.now
 unfold process
 split
 · exact ⟨rfl,fun _=>rfl,.inl rfl⟩
 · rename_i state
   exact ⟨Reconciliation.record_identity _,by simp[Operation.settled,state],
    .inl (Reconciliation.record_kept op _).checks⟩
 · rename_i open' _
   have ended (settled:op.settled=true):claimOperation op call.workerRef call.now=op ∧
     op.heldBy call.workerRef=false:=by
    cases state:op.state with
    | terminalFailed=>simp[claimOperation,Operation.heldBy,state]
    | confirmed=>exact absurd state open'
    | planned | inFlight | reconcileRequired | retryableFailed =>
     simp[Operation.settled,state] at settled
   dsimp only
   split
   · exact ⟨same,fun settled=>(ended settled).1,.inl claims.checks⟩
   · rename_i held
     have running (settled:op.settled=true):False:=by
      simp[ended settled] at held
     split
     · exact ⟨same,fun settled=>(running settled).elim,.inl claims.checks⟩
     · rename_i confirmed
       rw[claims.kind,claims.campaignRef] at confirmed
       exact ⟨(Outcome.record_identity _).trans same,fun settled=>(running settled).elim,
        .inr (by simpa using confirmed)⟩

/-- What the kind of an operation requires of its campaign is confirmed. -/
def Prepared (ops:List Operation)(op:Operation):Prop:=∀kind∈required op.kind,
  (ops.find? fun other=>other.campaignRef==op.campaignRef&&other.kind==kind).any
   (·.confirmed)=true

structure Ordered (ops:List Operation):Prop where
 refs:(ops.map Operation.operationRef).Nodup
 prepared:∀op∈ops,0<op.checks→Prepared ops op

section
variable {op':Operation}{i:Step}

lemma mem_step (mem:op'∈step ops i) : op'.checks=0 ∨ ∃op∈ops,Processed ops op op':=by
 cases i with
 | plan operationRef kind campaignRef memberRef =>
  unfold step insertIfAbsent at mem
  dsimp only at mem
  split at mem
  · exact .inr ⟨op',mem,⟨rfl,fun _=>rfl,.inl rfl⟩⟩
  · rcases List.mem_append.mp mem with old|new
    · exact .inr ⟨op',old,⟨rfl,fun _=>rfl,.inl rfl⟩⟩
    · obtain rfl:=List.mem_singleton.mp new
      exact .inl rfl
 | process operationRef call =>
  obtain ⟨op,there,rfl⟩:=mem_update.mp mem
  refine .inr ⟨op,there,?_⟩
  split
  · exact process_processed
  · exact ⟨rfl,fun _=>rfl,.inl rfl⟩

lemma settled_step (mem:op∈ops)(settled:op.settled=true):op∈step ops i:=by
 cases i with
 | plan operationRef kind campaignRef memberRef =>
  unfold step insertIfAbsent
  dsimp only
  split
  · exact mem
  · exact List.mem_append_left _ mem
 | process operationRef call =>
  refine mem_update.mpr ⟨op,mem,?_⟩
  split
  · exact process_processed.settled settled
  · rfl

/-- The operation that is found confirmed stays the one that is found. -/
lemma found_step {campaignRef:String}{kind:OperationKind}
 (found:(ops.find? fun op=>op.campaignRef==campaignRef&&op.kind==kind).any
  (·.confirmed)=true) :
 ((step ops i).find? fun op=>op.campaignRef==campaignRef&&op.kind==kind).any
  (·.confirmed)=true:=by
 obtain ⟨op,is,confirmed⟩:=(Option.any_eq_true ..).mp found
 cases i with
 | plan operationRef kind campaignRef memberRef =>
  unfold step insertIfAbsent
  dsimp only
  split
  · exact found
  · rw[List.find?_append,is]
    exact confirmed
 | process operationRef call =>
  have kept:∀other:Operation,
    (if other.operationRef==operationRef then process ops call other else other).identity =
     other.identity:=by
   intro other
   split
   · exact process_processed.identity
   · rfl
  have same:(fun op:Operation=>op.campaignRef==campaignRef&&op.kind==kind) ∘
    (fun op=>if op.operationRef==operationRef then process ops call op else op) =
     fun op=>op.campaignRef==campaignRef&&op.kind==kind:=by
   funext other
   obtain ⟨-,campaign,same⟩:=identity_columns (kept other)
   simp only[Function.comp_apply,campaign,same]
  have settled:op.settled=true:=by
   unfold Operation.confirmed at confirmed
   unfold Operation.settled
   split at confirmed <;> simp_all
  unfold step update
  rw[List.find?_map,same,is,Option.map_some,Option.any_some]
  split
  · rw[process_processed.settled settled]
    exact confirmed
  · exact confirmed

lemma Ordered.step (ordered:Ordered ops)(i:Step):Ordered (step ops i) where
 refs:=by
  cases i with
  | plan=>exact nodup_insertIfAbsent ordered.refs _
  | process operationRef call =>
   unfold OperationRetries.step
   rw[map_key_update fun op _ _=>(identity_columns process_processed.identity).1]
   exact ordered.refs
 prepared:=by
  intro op' mem checked kind needed
  rcases mem_step mem with none|⟨op,there,processed⟩
  · omega
  · obtain ⟨-,campaign,same⟩:=identity_columns processed.identity
    rw[same] at needed
    rw[campaign]
    refine found_step ?_
    rcases processed.checks with before|confirmed
    · exact ordered.prepared op there (before ▸ checked) kind needed
    · simp only[dependenciesConfirmed,Bool.and_eq_true,List.all_eq_true] at confirmed
      exact confirmed.1 kind needed

end

/-- In every run an operation is planned once, one that is confirmed or has ended stays as it is,
and no call goes on to the provider before what its kind requires is confirmed; every call that goes
on with an activation finds every pause that is planned by then confirmed. -/
theorem attempts_follow_their_dependencies (steps:List Step) : Ordered (steps.foldl step []) ∧
 (∀before,before <+: steps→∀op∈before.foldl step [],op.settled=true →
  op∈steps.foldl step []) ∧
 ∀before i,before++[i] <+: steps→∀op'∈(before++[i]).foldl step [],
  op'.kind=.activateCampaign→0<op'.checks →
  (∃op∈before.foldl step [],op.operationRef=op'.operationRef ∧ op.checks=op'.checks) ∨
   ∀pause∈before.foldl step [],pause.campaignRef=op'.campaignRef →
    pause.kind=.pauseLead ∨ pause.kind=.pauseCampaign→pause.confirmed=true:=by
 refine ⟨Runs.invariant Ordered (fun _ i ordered=>ordered.step i) steps
  ⟨List.nodup_nil,fun _ mem=>nomatch mem⟩,?_,?_⟩
 · rintro before ⟨later,rfl⟩ op mem settled
   rw[List.foldl_append]
   have kept:∀ops i,op∈ops → op∈step ops i:=fun _ _ mem=>settled_step mem settled
   exact Runs.invariant (op ∈ ·) kept later mem
 · intro before i _ op' mem activates checked
   rw[List.foldl_append] at mem
   rcases mem_step mem with none|⟨op,there,processed⟩
   · omega
   · obtain ⟨ref,campaign,same⟩:=identity_columns processed.identity
     rcases processed.checks with before|confirmed
     · exact .inl ⟨op,there,ref.symm,before.symm⟩
     · refine .inr fun pause mem' of kind=>?_
       rw[activates] at same
       rw[campaign] at of
       simp only[dependenciesConfirmed,←same,Bool.and_eq_true] at confirmed
       have all:=List.all_eq_true.mp confirmed.2 pause mem'
       rcases kind with kind|kind <;> simpa[of,kind] using all

end Kivou.OperationRetries
