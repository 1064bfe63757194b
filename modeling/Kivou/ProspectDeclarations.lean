import Kivou.Potentials
import Kivou.ProspectReservations

set_option autoImplicit false

/-! The requests that a worker makes of the provider, guard by guard, whatever they come to: each
page of a listing, each creation, import and activation, each look at a campaign, and the
verification that is read after its guard. -/
namespace Kivou.ProspectDeclarations
open ProspectRecords ProspectDelivery ProspectWorker ProspectProcess ProspectActions ProspectRuns
open ProspectLeases ProspectStranding ProspectGuards ProspectReservations

/-- The pages that `scan` asks for. -/
def scanCalls {α:Type}(label:Option String→ReadLabel)(listing:Listing α)
 (select:α→Option (Option String)) :
 ℕ→Option String→List String→List String→Operations→ℕ
 | 0,_,_,_,_=>0
 | fuel+1,cursor,seen,found,operations =>
  match requireRead (label cursor) operations with
  | .failed | .declare _=>0
  | .done () operations =>
   -- the page is asked for, whatever comes back
   1+match listing cursor with
    | none=>0
    | some page =>
     if followingCursor page.nextStartingAfter seen then
      match page.items.mapM select with
      | none=>0
      | some selected =>
       let found:=found++selected.reduceOption
       if found.length > 1 then 0
       else
        match page.nextStartingAfter with
        | none=>0
        | some next =>scanCalls label listing select fuel (some next) (next::seen) found operations
     else 0

section
variable (targetId:String)(o:Oracle)

def mutationCalls (key:MutationKey)(operations:Operations):ℕ:=
 if o.killSwitch then 0
 else
  match requireMutation key operations with
  | .failed | .declare _=>0
  | .done () _=>1

def reconciledCalls (pages:ℕ)(key:MutationKey)(found:Attempt (Option String)):ℕ:=
 pages+match found with
  | .done none operations=>mutationCalls o key operations
  | _=>0

def checkedCalls (s:Scope)(calls:ℕ):ℕ:=
 match checkTarget targetId o.now s with
 | .completed _=>0
 | .goOn _=>calls

def campaignCalls (c:Snapshot)(s:Scope)(operations:Operations):ℕ:=
 let operations:={operations with phaseReads:=[]}
 checkedCalls targetId o s (match campaignName c.request with
  | none=>0
  | some name =>
   reconciledCalls o
    (scanCalls .campaignList o.campaigns (selectCampaign name) maxReconciliationPages none [] []
     operations)
    .campaignCreate (findCampaign name o.campaigns operations))

def leadCalls (casefold:String→String)(c:Snapshot)(campaignId:String)(s:Scope)
 (operations:Operations):ℕ:=
 let operations:={operations with phaseReads:=[]}
 checkedCalls targetId o s (reconciledCalls o
   (scanCalls (.leadList targetId) o.leads (selectLead casefold campaignId c.target.emailAddress)
    maxReconciliationPages none [] [] operations)
   (.leadImport targetId)
   (findLead casefold targetId campaignId c.target.emailAddress o.leads operations))

def finalizeCalls (campaignId:Option String)(status:RequestStatus)(s:Scope)
 (operations:Operations):ℕ:=
 let operations:={operations with phaseReads:=[]}
 if s.request.result.activationBlocked.isSome then 0
 else if status≠.completed ∧ status≠.partlySent then 0
 else if s.request.result.activated then 0
 else
  match campaignId with
  | none=>0
  | some _ =>
   match requireRead .campaignStatus operations with
   | .failed | .declare _=>0
   | .done () operations =>
    1+if o.campaignActive=some false then mutationCalls o .campaignActivate operations else 0

end

def guardCalls (casefold:String→String)(o:Oracle)(w:Worker)(s:Scope):ℕ:=
 match w.phase with
 | .campaign c=>campaignCalls w.targetId o c s w.operations
 | .lead c campaignId=>leadCalls w.targetId o casefold c campaignId s w.operations
 | .finalizing campaignId status=>finalizeCalls o campaignId status s w.operations
 | _=>0

def unguardedCalls (w:Worker):ℕ:=
 match w.phase with
 | .verified _ _=>1
 | _=>0

def calls (policy:Policy)(targetId:String)(st:System):Step→ℕ
 | .work leaseId o =>
  match st.workers leaseId with
  | none=>0
  | some w =>
   if w.targetId=targetId then
    unguardedCalls w +
     match openGuard st.db leaseId w.requestId w.targetId with
     | none=>0
     | some s=>guardCalls policy.casefold o w s
   else 0
 | _=>0

/-- `instantly_request_count` -/
def requestCount (targetId:String)(st:System):ℕ:=
 ((st.db.target? targetId).map (·.instantlyRequestCount)).getD 0

def Operations.left (operations:Operations):ℕ:=
 operations.readyReads.length+operations.readyMutations.length

/-- The requests a worker may still make before it declares again. The reads of
a declaration replace those at hand, and a worker that reschedules its item makes
none. -/
def Phase.permits (operations:Operations):Phase→ℕ
 | .retrying=>0
 | .declaring _=>operations.readyMutations.length
 | .verified _ _=>Operations.left operations+1
 | _=>Operations.left operations

def Worker.permits (w:Worker):ℕ:=Phase.permits w.operations w.phase

def Ending.permits (operations:Operations):Ending→ℕ
 | .commit _ next=>(next.map (Phase.permits operations)).getD 0
 | .declare declaration=>Phase.permits operations (.declaring declaration)

def Ending.requests (s:Scope):Ending→ℕ
 | .commit s' _=>s'.target.instantlyRequestCount
 | .declare _=>s.target.instantlyRequestCount

/-- A guard makes the requests that its worker may make, and declares those it adds. -/
structure Declared (w:Worker)(s:Scope)(made:ℕ)(t:Turn):Prop where
 permitted:made≤Worker.permits w
 declared:made+Ending.permits t.operations t.ending+s.target.instantlyRequestCount ≤
  Worker.permits w+Ending.requests s t.ending

section
variable {operations operations':Operations}

lemma requireRead_left {label:ReadLabel}(h:requireRead label operations=.done () operations') :
 Operations.left operations'+1=Operations.left operations:=by
 unfold requireRead at h
 split at h
 · rename_i ready
   injection h with _ same
   have positive:=List.length_pos_of_mem ready
   have shorter:=List.length_erase_of_mem ready
   rw[←same]
   unfold Operations.left
   dsimp only
   omega
 · cases h

lemma requireMutation_left {key:MutationKey}
 (h:requireMutation key operations=.done () operations') :
 Operations.left operations'+1=Operations.left operations:=by
 unfold requireMutation at h
 split at h
 · rename_i ready
   injection h with _ same
   have positive:=List.length_pos_of_mem ready
   have shorter:=List.length_erase_of_mem ready
   rw[←same]
   unfold Operations.left
   dsimp only
   omega
 · cases h

lemma mutationCalls_left (o:Oracle)(key:MutationKey)(operations:Operations) :
 mutationCalls o key operations≤Operations.left operations:=by
 unfold mutationCalls
 split
 · exact Nat.zero_le _
 · split
   · exact Nat.zero_le _
   · exact Nat.zero_le _
   · rename_i operations' permit
     have left:=requireMutation_left permit
     omega

variable {α:Type}{label:Option String→ReadLabel}{listing:Listing α}
 {select:α→Option (Option String)}

lemma scanCalls_left (fuel:ℕ)(cursor:Option String)(seen found:List String)
 (operations:Operations) :
 scanCalls label listing select fuel cursor seen found operations≤operations.readyReads.length ∧
  ∀answer operations',
   scan label listing select fuel cursor seen found operations=.done answer operations' →
    scanCalls label listing select fuel cursor seen found operations +
     Operations.left operations'=Operations.left operations:=by
 induction fuel generalizing cursor seen found operations with
 | zero =>
  constructor
  · exact Nat.zero_le _
  · intro answer operations' h
    cases h
 | succ fuel ih =>
  unfold scanCalls scan
  cases read:requireRead (label cursor) operations with
  | failed | declare =>
   constructor
   · exact Nat.zero_le _
   · intro answer operations' h
     cases h
  | done value after =>
   have left:=requireRead_left read
   have kept:=requireRead_done read
   have reads:after.readyReads.length+1=operations.readyReads.length:=by
    unfold Operations.left at left
    rw[kept] at left
    omega
   cases listing cursor with
   | none =>
    constructor
    · dsimp only
      omega
    · intro answer operations' h
      cases h
   | some page =>
    dsimp only
    split
    · cases page.items.mapM select with
      | none =>
       constructor
       · dsimp only
         omega
       · intro answer operations' h
         cases h
      | some selected =>
       dsimp only
       split
       · constructor
         · omega
         · intro answer operations' h
           cases h
       · cases page.nextStartingAfter with
         | none =>
          constructor
          · dsimp only
            omega
          · intro answer operations' h
            injection h with _ same
            subst same
            dsimp only
            omega
         | some next =>
          obtain ⟨bound,used⟩:=ih (some next) (next::seen) (found++selected.reduceOption) after
          constructor
          · dsimp only
            omega
          · intro answer operations' h
            have rest:=used answer operations' h
            dsimp only
            omega
    · constructor
      · omega
      · intro answer operations' h
        cases h

end

def requested (s:Scope):ℕ:=s.target.instantlyRequestCount

section
variable {targetId:String}{now:ℕ}{s s':Scope}

lemma finishAlreadySent_requested (done:finishAlreadySent targetId now s=some s') :
 requested s'=requested s:=by
 unfold finishAlreadySent at done
 split at done
 · dsimp only at done
   split at done
   · split at done <;> obtain rfl:=Option.some.inj done <;> rfl
   · obtain rfl:=Option.some.inj done
     rfl
 · cases done

lemma rejectChangedTarget_requested (code:CancelCode) :
 requested (rejectChangedTarget targetId now code s)=requested s:=by
 have freed:requested (freeTarget (cancelItem targetId code s))=requested s:=by
  unfold freeTarget
  split <;> rfl
 unfold rejectChangedTarget releaseCancelled blockActivation
 dsimp only
 split <;> split <;> first | exact freed | (split <;> exact freed)

lemma adoptBinding_requested (item:SendItem) :
 requested (adoptBinding targetId item s)=requested s:=by
 obtain ⟨campaignId,eq⟩:=adoptCampaign_eq s
 unfold adoptBinding
 rw[eq]
 split <;> rfl

lemma completed_requested (checked:checkTarget targetId now s=.completed s') :
 requested s'=requested s:=by
 have way:=checkTarget_cases targetId now s
 rw[checked] at way
 cases way with
 | sent _ done=>exact finishAlreadySent_requested done
 | cancelled code _ _ _=>exact rejectChangedTarget_requested code

lemma goOn_requested (checked:checkTarget targetId now s=.goOn s') : requested s'=requested s:=by
 have way:=checkTarget_cases targetId now s
 rw[checked] at way
 cases way with
 | carrier=>rfl
 | unchanged item _ _=>exact adoptBinding_requested item

lemma wait_requested (failing:Bool)(pendingLead:Option String) :
 requested (wait targetId now failing pendingLead s)=requested s:=by
 unfold wait
 split
 · exact completed_requested ‹_›
 · rename_i s₁ checked
   have same:requested s₁=requested s:=goOn_requested checked
   exact same

lemma settle_requested:requested (settle now s).1=requested s:=by
 unfold settle
 split <;> rfl

variable (campaignId instantlyId:String)

lemma accepted_requested :
 requested (accepted targetId now campaignId instantlyId s).1=requested s:=by
 unfold accepted
 split
 · exact completed_requested ‹_›
 · rename_i s₁ checked
   refine settle_requested.trans (Eq.trans ?_ (goOn_requested checked))
   split <;> rfl

lemma failed_requested (error:ItemError) :
 requested (failed targetId now campaignId instantlyId error s).1=requested s:=by
 unfold failed
 split
 · exact completed_requested ‹_›
 · rename_i s₁ checked
   refine settle_requested.trans (Eq.trans ?_ (goOn_requested checked))
   split <;> rfl

lemma persistCampaign_requested : requested (persistCampaign campaignId s)=requested s:=by
 unfold persistCampaign requested
 split <;> rfl

lemma persistLead_requested :
 requested (confirmImport targetId (persistLead targetId campaignId instantlyId s)) =
  requested s:=by
 have persisted:requested (persistLead targetId campaignId instantlyId s)=requested s:=by
  unfold persistLead requested
  dsimp only
  split <;> rfl
 unfold confirmImport
 split
 · exact persisted
 · exact persisted

end

section
variable {w:Worker}{s s':Scope}{made:ℕ}{p:Provider}{operations:Operations}

lemma declared_of_commit {next:Option Phase}(same:requested s'=requested s)
 (left:made+(next.map (Phase.permits operations)).getD 0≤Worker.permits w) :
 Declared w s made ⟨.commit s' next,p,operations⟩:=by
 unfold requested at same
 constructor
 · omega
 · change made+(next.map (Phase.permits operations)).getD 0+s.target.instantlyRequestCount ≤
    Worker.permits w+s'.target.instantlyRequestCount
   omega

lemma declared_of_declare {declaration:Declaration}
 (left:made+operations.readyMutations.length≤Worker.permits w) :
 Declared w s made ⟨.declare declaration,p,operations⟩:=by
 constructor
 · omega
 · change made+operations.readyMutations.length+s.target.instantlyRequestCount ≤
    Worker.permits w+s.target.instantlyRequestCount
   omega

lemma retry_declared {targetId:String}{o:Oracle}(same:requested s'=requested s)
 (left:made≤Worker.permits w):Declared w s made (retry targetId o s' p operations):=
 declared_of_commit ((wait_requested true none).trans same) left

lemma checked_declared {o:Oracle}{body:Scope→Turn}
 (go:∀s',requested s'=requested s→Declared w s made (body s')) :
 Declared w s (checkedCalls w.targetId o s made) (checked w.targetId o s p operations body):=by
 unfold checkedCalls checked
 cases verdict:checkTarget w.targetId o.now s with
 | completed s'=>exact declared_of_commit (completed_requested verdict) (Nat.zero_le _)
 | goOn s'=>exact go s' (goOn_requested verdict)

lemma leadPhase_permits (c:Snapshot)(campaignId:String)(operations:Operations) :
 Phase.permits operations (leadPhase c campaignId)=Operations.left operations:=by
 unfold leadPhase
 split <;> rfl

lemma route_permits (c:Snapshot)(operations:Operations) :
 Phase.permits operations (route c)=Operations.left operations:=by
 unfold route
 split
 · rfl
 · split
   · rfl
   · split
     · rfl
     · exact leadPhase_permits c _ operations

structure Reconciled (o:Oracle)(operations:Operations)(pages:ℕ)(key:MutationKey)
  (found:Attempt (Option String)):Prop where
 reads:pages≤operations.readyReads.length
 used:∀answer operations',found=.done answer operations' →
  pages+Operations.left operations'=Operations.left operations

lemma reconciledCalls_left {o:Oracle}{pages:ℕ}{key:MutationKey}
 {found:Attempt (Option String)}(reconciled:Reconciled o operations pages key found) :
 reconciledCalls o pages key found≤Operations.left operations:=by
 have reads:operations.readyReads.length≤Operations.left operations:=Nat.le_add_right _ _
 unfold reconciledCalls
 split
 · rename_i listed
   have used:=reconciled.used none listed rfl
   have mutation:=mutationCalls_left o key listed
   omega
 · have pages:=reconciled.reads
   omega

lemma processTurn_declared (o:Oracle)(phase:w.phase=.process) :
 Declared w s 0 (processTurn w.targetId o s p w.operations):=by
 have permits:Worker.permits w=Operations.left w.operations:=by
  rw[Worker.permits,phase]
  rfl
 have turn:Declared w s (checkedCalls w.targetId o s 0)
   (processTurn w.targetId o s p w.operations):=by
  refine checked_declared fun s' same=>?_
  cases s'.request.item? w.targetId with
  | none=>exact declared_of_commit same (Nat.zero_le _)
  | some item =>
   apply declared_of_commit same
   change 0+Phase.permits w.operations (route _)≤_
   rw[route_permits,permits]
   omega
 unfold checkedCalls at turn
 split at turn <;> exact turn

/-- The turn once the pages are read: it commits what they list, or makes the
mutation that is missing. -/
def listedTurn (targetId:String)(o:Oracle)(key:MutationKey)(s:Scope)(p:Provider)
 (operations:Operations)(persist:String→Scope)(next:String→Phase)
 (mutate:Option String × Provider):Attempt (Option String)→Turn
 | .failed=>retry targetId o s p operations
 | .declare declaration=>⟨.declare declaration,p,operations⟩
 | .done (some id) operations=>⟨.commit (persist id) (some (next id)),p,operations⟩
 | .done none operations =>
  if o.killSwitch then retry targetId o s p operations
  else
   match requireMutation key operations with
   | .failed=>retry targetId o s p operations
   | .declare declaration=>⟨.declare declaration,p,operations⟩
   | .done () operations =>
    match mutate with
    | (none,p)=>retry targetId o s p operations
    | (some id,p)=>⟨.commit (persist id) (some (next id)),p,operations⟩

lemma listedTurn_declared {o:Oracle}{pages:ℕ}{key:MutationKey}
 {found:Attempt (Option String)}(reconciled:Reconciled o operations pages key found)
 (permits:Worker.permits w=Operations.left operations)(same:requested s'=requested s)
 {persist:String→Scope}{next:String→Phase}{mutate:Option String × Provider}
 (kept:∀id,requested (persist id)=requested s')
 (onward:∀operations id,Phase.permits operations (next id)=Operations.left operations) :
 Declared w s (reconciledCalls o pages key found)
  (listedTurn w.targetId o key s' p operations persist next mutate found):=by
 have within:=reconciledCalls_left reconciled
 cases found with
 | failed=>exact retry_declared same (by omega)
 | declare declaration =>
  have reads:=reconciled.reads
  apply declared_of_declare
  change pages+0+operations.readyMutations.length≤_
  rw[permits]
  unfold Operations.left
  omega
 | done answer listed =>
  have used:=reconciled.used answer listed rfl
  cases answer with
  | some id =>
   apply declared_of_commit ((kept id).trans same)
   change pages+0+Phase.permits listed (next id)≤_
   rw[onward]
   omega
  | none =>
   unfold reconciledCalls mutationCalls at within ⊢
   unfold listedTurn
   dsimp only at within ⊢
   split
   · exact retry_declared same (by simp_all)
   · rename_i allowed
     simp only[allowed,Bool.false_eq_true,↓reduceIte] at within ⊢
     cases permit:requireMutation key listed with
     | failed=>exact retry_declared same (by simp_all)
     | declare declaration =>
      apply declared_of_declare
      dsimp only
      have part:listed.readyMutations.length≤Operations.left listed:=Nat.le_add_left _ _
      omega
     | done value permitted =>
      have left:=requireMutation_left permit
      dsimp only
      obtain ⟨id,p'⟩:=mutate
      cases id with
      | none=>exact retry_declared same (by omega)
      | some id =>
       apply declared_of_commit ((kept id).trans same)
       change pages+1+Phase.permits permitted (next id)≤_
       rw[onward]
       omega

lemma campaignTurn_declared (o:Oracle){c:Snapshot}(phase:w.phase=.campaign c) :
 Declared w s (campaignCalls w.targetId o c s w.operations)
  (campaignTurn w.targetId o c s p w.operations):=by
 have permits:Worker.permits w=Operations.left {w.operations with phaseReads:=[]}:=by
  rw[Worker.permits,phase]
  rfl
 apply checked_declared
 intro s' same
 cases campaignName c.request with
 | none=>exact retry_declared same (Nat.zero_le _)
 | some name =>
  have scanned:=@scanCalls_left _ .campaignList o.campaigns (selectCampaign name)
   maxReconciliationPages none [] [] {w.operations with phaseReads:=[]}
  exact listedTurn_declared ⟨scanned.1,scanned.2⟩ permits same
   persistCampaign_requested fun operations id=>leadPhase_permits c id operations

lemma leadTurn_declared (casefold:String→String)(o:Oracle){c:Snapshot}
 {campaignId:String}(phase:w.phase=.lead c campaignId) :
 Declared w s (leadCalls w.targetId o casefold c campaignId s w.operations)
  (leadTurn w.targetId o casefold c campaignId s p w.operations):=by
 have permits:Worker.permits w=Operations.left {w.operations with phaseReads:=[]}:=by
  rw[Worker.permits,phase]
  rfl
 apply checked_declared
 intro s' same
 have scanned:=@scanCalls_left _ (.leadList w.targetId) o.leads
  (selectLead casefold campaignId c.target.emailAddress) maxReconciliationPages none [] []
  {w.operations with phaseReads:=[]}
 exact listedTurn_declared ⟨scanned.1,scanned.2⟩ permits same
  (fun id=>persistLead_requested campaignId id) fun _ _=>rfl

lemma verificationTurn_declared (o:Oracle){campaignId instantlyId:String}
 (phase:w.phase=.verification campaignId instantlyId) :
 Declared w s 0 (verificationTurn w.targetId o campaignId instantlyId s p w.operations):=by
 have permits:Worker.permits w=Operations.left {w.operations with phaseReads:=[]}:=by
  rw[Worker.permits,phase]
  rfl
 unfold verificationTurn checked
 generalize {w.operations with phaseReads:=[]}=operations at permits ⊢
 cases verdict:checkTarget w.targetId o.now s with
 | completed s'=>exact declared_of_commit (completed_requested verdict) (Nat.zero_le _)
 | goOn s' =>
  dsimp only
  cases read:requireRead (.leadVerification w.targetId) operations with
  | failed=>exact retry_declared (goOn_requested verdict) (Nat.zero_le _)
  | declare declaration =>
   apply declared_of_declare
   rw[permits]
   unfold Operations.left
   omega
  | done value after =>
   have left:=requireRead_left read
   apply declared_of_commit (goOn_requested verdict)
   change 0+(Operations.left after+1)≤_
   omega

lemma settled_declared {campaignId:Option String}{settled:Settled}
 (same:requested settled.1=requested s)
 (left:made+Operations.left operations≤Worker.permits w) :
 Declared w s made (settledTurn campaignId settled p operations):=by
 apply declared_of_commit same
 cases settled.2 with
 | none =>
  change made+0≤_
  omega
 | some status =>
  change made+Operations.left operations≤_
  exact left

lemma verifiedTurn_declared (o:Oracle){campaignId instantlyId:String}
 (phase:w.phase=.verified campaignId instantlyId) :
 Declared w s 1 (verifiedTurn w.targetId o campaignId instantlyId s p w.operations):=by
 have permits:Worker.permits w=Operations.left w.operations+1:=by
  rw[Worker.permits,phase]
  rfl
 unfold verifiedTurn
 split
 · exact retry_declared rfl (by omega)
 · apply declared_of_commit (wait_requested false (some instantlyId))
   change 1+0≤_
   omega
 · exact settled_declared (failed_requested campaignId instantlyId _) (by omega)
 · exact settled_declared (accepted_requested campaignId instantlyId) (by omega)

lemma finalizeTurn_declared (o:Oracle){campaignId:Option String}{status:RequestStatus}
 (phase:w.phase=.finalizing campaignId status) :
 Declared w s (finalizeCalls o campaignId status s w.operations)
  (finalizeTurn w.targetId o campaignId status s p w.operations):=by
 have permits:Worker.permits w=Operations.left {w.operations with phaseReads:=[]}:=by
  rw[Worker.permits,phase]
  rfl
 unfold finalizeCalls finalizeTurn
 generalize {w.operations with phaseReads:=[]}=operations at permits ⊢
 split
 · exact retry_declared rfl (Nat.zero_le _)
 · split
   · exact declared_of_commit rfl (Nat.zero_le _)
   · split
     · exact declared_of_commit rfl (Nat.zero_le _)
     · cases campaignId with
       | none=>exact retry_declared rfl (Nat.zero_le _)
       | some id =>
        dsimp only
        cases read:requireRead .campaignStatus operations with
        | failed=>exact retry_declared rfl (Nat.zero_le _)
        | declare declaration =>
         apply declared_of_declare
         rw[permits]
         unfold Operations.left
         dsimp only
         omega
        | done value listed =>
         have left:=requireRead_left read
         have within:=mutationCalls_left o .campaignActivate listed
         cases answer:o.campaignActive with
         | none=>exact retry_declared rfl (by simp;omega)
         | some active =>
          cases active with
          | true=>exact declared_of_commit rfl (by simp;omega)
          | false =>
           simp only[↓reduceIte]
           unfold mutationCalls at within ⊢
           split
           · exact retry_declared rfl (by omega)
           · rename_i allowed
             simp only[allowed,Bool.false_eq_true,↓reduceIte] at within
             cases permit:requireMutation .campaignActivate listed with
             | failed=>exact retry_declared rfl (by dsimp only;omega)
             | declare declaration =>
              apply declared_of_declare
              have part:listed.readyMutations.length≤Operations.left listed:=Nat.le_add_left _ _
              dsimp only
              omega
             | done value permitted =>
              have used:=requireMutation_left permit
              dsimp only
              generalize activate o.fate _ id p=activation
              obtain ⟨activated,p'⟩:=activation
              cases activated with
              | false=>exact retry_declared rfl (by omega)
              | true =>
               refine declared_of_commit rfl ?_
               change 1+1+0≤_
               omega

lemma declareTurn_declared (o:Oracle){declaration:Declaration}
 (phase:w.phase=.declaring declaration) :
 Declared w s 0 (declareTurn w.targetId o declaration w.rounds s p w.operations):=by
 have permits:Worker.permits w=w.operations.readyMutations.length:=by
  rw[Worker.permits,phase]
  rfl
 unfold declareTurn checked
 cases verdict:checkTarget w.targetId o.now s with
 | completed s'=>exact declared_of_commit (completed_requested verdict) (Nat.zero_le _)
 | goOn s' =>
  have same:=goOn_requested verdict
  unfold requested at same
  constructor
  · exact Nat.zero_le _
  · have granted:Phase.permits (Operations.permit w.operations declaration)
      (if w.rounds+1 < maxRounds then .process else .retrying) ≤
      declaration.replayReads.length+declaration.key.toList.length +
       w.operations.readyMutations.length:=by
     split
     · change declaration.replayReads.length +
        (declaration.key.toList++w.operations.readyMutations).length≤_
       rw[List.length_append]
       omega
     · exact Nat.zero_le _
    change 0+Phase.permits (Operations.permit w.operations declaration)
     (if w.rounds+1 < maxRounds then .process else .retrying) +
      s.target.instantlyRequestCount≤Worker.permits w+(s'.target.instantlyRequestCount +
       (declaration.key.toList.length+declaration.replayReads.length))
    omega

lemma turn_declared (casefold:String→String)(o:Oracle)(w:Worker)(s:Scope) (p:Provider) :
 Declared w s (unguardedCalls w+guardCalls casefold o w s) (turn casefold o w s p):=by
 unfold unguardedCalls guardCalls turn
 cases phase:w.phase with
 | process=>exact processTurn_declared o phase
 | counting=>exact declared_of_commit rfl (Nat.zero_le _)
 | unpromised =>
  have permits:Worker.permits w=Operations.left w.operations:=by
   rw[Worker.permits,phase]
   rfl
  exact @settled_declared w s 0 _ _ _ _ (failed_requested "" "" _) (by omega)
 | campaign c =>
  rw[Nat.zero_add]
  exact campaignTurn_declared o phase
 | lead c campaignId =>
  rw[Nat.zero_add]
  exact leadTurn_declared casefold o phase
 | verification campaignId instantlyId=>exact verificationTurn_declared o phase
 | verified campaignId instantlyId=>exact verifiedTurn_declared o phase
 | finalizing campaignId status =>
  rw[Nat.zero_add]
  exact finalizeTurn_declared o phase
 | declaring declaration=>exact declareTurn_declared o phase
 | retrying=>exact retry_declared rfl (Nat.zero_le _)

end

def load (targetId:String):Option Worker→ℕ
 | none=>0
 | some w=>if w.targetId=targetId then Worker.permits w else 0

def outstanding (targetId:String)(st:System):ℕ:=
 ∑ leaseId∈Finset.range st.nextLease,load targetId (st.workers leaseId)

section
variable {policy:Policy}{targetId:String}{st:System}

variable {leaseId:ℕ}{w:Worker}

lemma outstanding_setWorker (targetId:String)(issued:leaseId<st.nextLease) (worker:Option Worker) :
 outstanding targetId (st.setWorker leaseId worker)+load targetId (st.workers leaseId) =
  outstanding targetId st+load targetId worker:=by
 have change':=Potentials.sum_range_change issued (f:=fun l=>load targetId (st.workers l))
  (g:=fun l=>load targetId ((st.setWorker leaseId worker).workers l)) fun l other=>by
   simp only[System.setWorker,if_neg other]
 have there:(st.setWorker leaseId worker).workers leaseId=worker:=if_pos rfl
 rw[there] at change'
 exact change'

lemma outstanding_claimed (requestId claimedId:String)(db:Db) : outstanding targetId
   { st.setWorker st.nextLease (some (ProspectProcess.claimed requestId claimedId)) with
     db,nextLease:=st.nextLease+1}=outstanding targetId st:=by
 have none:load targetId (some (ProspectProcess.claimed requestId claimedId))=0:=by
  change (if claimedId=targetId then 0 else 0)=0
  split <;> rfl
 unfold outstanding
 rw[Finset.sum_range_succ]
 have last:(st.setWorker st.nextLease
   (some (ProspectProcess.claimed requestId claimedId))).workers st.nextLease =
    some (ProspectProcess.claimed requestId claimedId):=if_pos rfl
 rw[last,none,Nat.add_zero]
 apply Finset.sum_congr rfl
 intro l less
 have other:l≠st.nextLease:=(Finset.mem_range.mp less).ne
 simp only[System.setWorker,if_neg other]

lemma edit_count {i:Step}{t t':Target}(edit:Edit i t t') :
 t'.instantlyRequestCount=t.instantlyRequestCount:=by
 cases edit <;> rfl

lemma requestCount_of_rel {db db':Db}
 (same:Option.Rel (fun t t':Target=>t'.instantlyRequestCount=t.instantlyRequestCount)
  (db.target? targetId) (db'.target? targetId))(st st':System) :
 requestCount targetId {st' with db:=db'}=requestCount targetId {st with db}:=by
 unfold requestCount
 generalize db.target? targetId=before at same ⊢
 generalize db'.target? targetId=after at same ⊢
 cases same with
 | some count=>exact count
 | none=>rfl

lemma batch_count {c:SendCommand}{at':ℕ}{around:Surroundings}{targets:List Target}
 {f:Target→Target}{db:Db}(keys:∀t,(f t).targetId=t.targetId)
 (kept:∀t,(f t).instantlyRequestCount=t.instantlyRequestCount)
 (checked:checkBatch policy c at' around db=.ok targets)(targetId:String) :
 Option.Rel (fun t t':Target=>t'.instantlyRequestCount=t.instantlyRequestCount)
  (db.target? targetId) ((setTargets db (targets.map f)).target? targetId):=by
 cases found:(setTargets db (targets.map f)).target? targetId with
 | none =>
  obtain ⟨_,_,prepared⟩:=checkBatch_ok checked
  rcases batch_target? keys prepared targetId with ⟨_,_,_,read⟩|⟨_,same⟩
  · rw[found] at read
    cases read
  · rw[←same,found]
    exact .none
 | some t' =>
  obtain ⟨t,was,count⟩:=batch_column (·.instantlyRequestCount) keys kept (fun _ _=>rfl)
   checked found
  rw[was]
  exact .some count

lemma quiet_step (policy:Policy)(targetId:String)(h:Reserved st){i:Step}
 (quiet:∀leaseId o,i≠.work leaseId o) :
 requestCount targetId (step policy st i)=requestCount targetId st ∧
  outstanding targetId (step policy st i)≤outstanding targetId st:=by
 have stepped:=step_stepped policy st h.keyed i
 generalize step policy st i=st' at stepped
 cases stepped with
 | kept=>exact ⟨rfl,le_rfl⟩
 | outside _ db edited =>
  refine ⟨requestCount_of_rel ?_ st st,le_rfl⟩
  have edit:=edited.targets targetId
  generalize st.db.target? targetId=before at edit
  generalize db.target? targetId=after at edit
  cases edit with
  | some edit=>exact .some (edit_count edit)
  | none=>exact .none
 | conflicted c at' around targets r checked _ _ =>
  have count:=batch_count (f:=fun t=>t) (fun _=>rfl) (fun _=>rfl) checked targetId
  rw[List.map_id'] at count
  exact ⟨requestCount_of_rel count st st,le_rfl⟩
 | reserved c at' around targets checked _ _ =>
  have count:=batch_count (f:=fun t=>{t with sendRequestId:=some c.requestId})
   (fun _=>rfl) (fun _=>rfl) checked targetId
  exact ⟨requestCount_of_rel count st st,le_rfl⟩
 | claimed requestId now claimedAt skipped r claimedRow claimedId _ _ =>
  exact ⟨rfl,(outstanding_claimed requestId claimedId _).le⟩
 | worked leaseId o=>exact absurd rfl (quiet leaseId o)
 | crashed leaseId =>
  refine ⟨rfl,?_⟩
  cases held:st.workers leaseId with
  | none =>
   have same:st.setWorker leaseId none=st:=by
    unfold System.setWorker
    congr 1
    funext l
    split
    · rename_i is
      rw[is,held]
    · rfl
   rw[same]
  | some w =>
   have changed:=outstanding_setWorker targetId (h.issued leaseId w held) none
   have nothing:load targetId none=0:=rfl
   omega

lemma unguardedCalls_permitted (w:Worker):unguardedCalls w≤Worker.permits w:=by
 unfold unguardedCalls Worker.permits
 split
 · rename_i phase
   rw[phase]
   exact Nat.le_add_left 1 _
 · exact Nat.zero_le _

lemma requestCount_closeGuard (targetId:String){requestId own:String}{s s':Scope}
 (opened:openGuard st.db leaseId requestId own=some s)(renewedAt:ℕ)
 (same:contact s'.target=contact s.target)(st':System) :
 requestCount targetId {st' with db:=closeGuard st.db leaseId renewedAt s'} +
   (if own=targetId then requested s else 0) =
  requestCount targetId st+if own=targetId then requested s' else 0:=by
 unfold requestCount
 rw[closeGuard_target? opened same]
 by_cases is:own=targetId
 · subst is
   rw[(openGuard_some opened).2.1]
   simp only[↓reduceIte,Option.map_some,Option.getD_some]
   exact Nat.add_comm _ _
 · have other:targetId≠own:=fun eq=>is eq.symm
   simp only[if_neg is,if_neg other]

lemma pays_of_load (held:st.workers leaseId=some w)
 (issued:leaseId<st.nextLease){made:ℕ}(worker:Option Worker)(db:Db)(p:Provider)
 (left:made+load targetId worker+requestCount targetId st ≤
  load targetId (some w)+requestCount targetId {st with db}) :
 made+outstanding targetId {st.setWorker leaseId worker with db,provider:=p} +
   requestCount targetId st ≤
  outstanding targetId st +
   requestCount targetId {st.setWorker leaseId worker with db,provider:=p}:=by
 have changed:=outstanding_setWorker targetId issued worker
 rw[held] at changed
 have same:outstanding targetId {st.setWorker leaseId worker with db,provider:=p} =
   outstanding targetId (st.setWorker leaseId worker):=rfl
 have count:requestCount targetId {st.setWorker leaseId worker with db,provider:=p} =
   requestCount targetId {st with db}:=rfl
 omega

lemma conclude_pays (h:Reserved st){o:Oracle}{s:Scope} (held:st.workers leaseId=some w)
 (opened:openGuard st.db leaseId w.requestId w.targetId=some s)
 (guarded:∀c,w.phase≠.counting c) :
 (if w.targetId=targetId then unguardedCalls w+guardCalls policy.casefold o w s else 0) +
   outstanding targetId (conclude st leaseId w o (turn policy.casefold o w s st.provider)) +
   requestCount targetId st ≤
  outstanding targetId st +
   requestCount targetId (conclude st leaseId w o (turn policy.casefold o w s st.provider)):=by
 have issued:=h.issued leaseId w held
 have way:=turn_way policy.casefold o guarded s st.provider
 obtain ⟨permitted,declared⟩:=turn_declared policy.casefold o w s st.provider
 generalize turn policy.casefold o w s st.provider=t at way declared ⊢
 generalize unguardedCalls w+guardCalls policy.casefold o w s=made at permitted declared ⊢
 obtain ⟨ending,p',operations⟩:=t
 have was:load targetId (some w)=if w.targetId=targetId then Worker.permits w else 0:=rfl
 unfold conclude
 generalize o.transaction=transaction
 cases transaction with
 | crash =>
  apply pays_of_load held issued none st.db p'
  change _+0+_≤load targetId (some w)+requestCount targetId st
  rw[was]
  split <;> omega
 | abort =>
  have left:load targetId (w.interrupted operations)=0:=by
   unfold Worker.interrupted
   split
   · rfl
   · rfl
   · change (if w.targetId=targetId then 0 else 0)=0
     split <;> rfl
  apply pays_of_load held issued (w.interrupted operations) st.db p'
  change _+_+_≤load targetId (some w)+requestCount targetId st
  rw[was,left]
  split <;> omega
 | commit =>
  cases ending with
  | declare declaration =>
   apply pays_of_load held issued (some {w with phase:=.declaring declaration,operations}) st.db p'
   change _+(if w.targetId=targetId then operations.readyMutations.length else 0)+_ ≤
    load targetId (some w)+requestCount targetId st
   change made+operations.readyMutations.length+s.target.instantlyRequestCount ≤
    Worker.permits w+s.target.instantlyRequestCount at declared
   rw[was]
   split <;> omega
  | commit s' next =>
   obtain ⟨requested',targeted,_,leased,item,own,_⟩:=openGuard_some opened
   have standing:=(h.standing leaseId w held s.request requested' leased).2
   have contact:=(way_guarded own standing way).contact
   have count:=requestCount_closeGuard targetId opened o.renewedAt contact st
   have next':load targetId (next.map (w.goOn operations)) =
     if w.targetId=targetId then (next.map (Phase.permits operations)).getD 0 else 0:=by
    cases next with
    | none =>
     change 0=if w.targetId=targetId then 0 else 0
     split <;> rfl
    | some phase=>rfl
   apply pays_of_load held issued (next.map (w.goOn operations))
    (closeGuard st.db leaseId o.renewedAt s') p'
   change made+(next.map (Phase.permits operations)).getD 0+requested s ≤
    Worker.permits w+requested s' at declared
   rw[was,next']
   by_cases own:w.targetId=targetId
   · simp only[if_pos own] at count ⊢
     omega
   · simp only[if_neg own] at count ⊢
     omega

lemma workStep_guarded {o:Oracle} (held:st.workers leaseId=some w)(guarded:∀c,w.phase≠.counting c) :
  workStep policy st leaseId o =
   match openGuard st.db leaseId w.requestId w.targetId with
   | none=>st.setWorker leaseId none
   | some s=>conclude st leaseId w o (turn policy.casefold o w s st.provider):=by
 unfold workStep
 rw[held]
 dsimp only
 cases phase:w.phase with
 | counting c=>exact absurd phase (guarded c)
 | _=>rfl

lemma work_pays (h:Reserved st)(leaseId:ℕ)(o:Oracle) :
 Potentials.Pays (step policy) (calls policy targetId) (requestCount targetId)
  (outstanding targetId) st (.work leaseId o):=by
 cases held:st.workers leaseId with
 | none =>
  have idle:step policy st (.work leaseId o)=st:=by
   change workStep policy st leaseId o=st
   unfold workStep
   rw[held]
  have free:calls policy targetId st (.work leaseId o)=0:=by
   change (match st.workers leaseId with | none=>0 | some w=>_)=0
   rw[held]
  constructor
  · rw[free]
    exact Nat.zero_le _
  · rw[free,idle]
    omega
 | some w =>
  have issued:=h.issued leaseId w held
  have within:load targetId (some w)≤outstanding targetId st:=by
   have dropped:=outstanding_setWorker targetId issued none
   rw[held] at dropped
   have nothing:load targetId none=0:=rfl
   omega
  have was:load targetId (some w)=if w.targetId=targetId then Worker.permits w else 0:=rfl
  have unguarded:=unguardedCalls_permitted w
  have made:calls policy targetId st (.work leaseId o) =
    if w.targetId=targetId then unguardedCalls w +
     match openGuard st.db leaseId w.requestId w.targetId with
     | none=>0
     | some s=>guardCalls policy.casefold o w s
    else 0:=by
   change (match st.workers leaseId with | none=>0 | some w=>_)=_
   rw[held]
  rw[was] at within
  constructor
  · rw[made]
    by_cases own:w.targetId=targetId
    · rw[if_pos own] at within ⊢
      cases openGuard st.db leaseId w.requestId w.targetId with
      | none =>
       dsimp only
       omega
      | some s =>
       have permitted:=(turn_declared policy.casefold o w s st.provider).permitted
       dsimp only
       omega
    · rw[if_neg own]
      exact Nat.zero_le _
  · rw[made]
    change _+outstanding targetId (workStep policy st leaseId o)+_ ≤
     _+requestCount targetId (workStep policy st leaseId o)
    by_cases counting:∃c,w.phase=.counting c
    · obtain ⟨c,phase⟩:=counting
      have silent:unguardedCalls w+(match openGuard st.db leaseId w.requestId w.targetId with
        | none=>0
        | some s=>guardCalls policy.casefold o w s)=0:=by
       unfold unguardedCalls guardCalls
       rw[phase]
       cases openGuard st.db leaseId w.requestId w.targetId <;> rfl
      have permits:Worker.permits w=Operations.left w.operations:=by
       rw[Worker.permits,phase]
       rfl
      have counted:workStep policy st leaseId o=st.setWorker leaseId
        (((st.db.request? w.requestId).bind SendRequest.finalStatus).map fun status=>
         w.goOn w.operations (.finalizing c.campaignId status)):=by
       unfold workStep
       rw[held]
       dsimp only
       rw[phase]
      rw[silent,counted]
      apply pays_of_load held issued _ st.db st.provider
      change _+_+_≤load targetId (some w)+requestCount targetId st
      rw[was,permits]
      cases (st.db.request? w.requestId).bind SendRequest.finalStatus with
      | none =>
       change _+0+_≤_
       split <;> omega
      | some status =>
       change _+(if w.targetId=targetId then Operations.left w.operations else 0)+_≤_
       split <;> omega
    · have guarded:∀c,w.phase≠.counting c:=fun c is=>counting ⟨c,is⟩
      rw[workStep_guarded held guarded]
      cases opened:openGuard st.db leaseId w.requestId w.targetId with
      | none =>
       apply pays_of_load held issued none st.db st.provider
       change _+0+_≤load targetId (some w)+requestCount targetId st
       rw[was]
       dsimp only
       split <;> omega
      | some s=>exact conclude_pays h held opened guarded

lemma step_pays (h:Reserved st)(i:Step) :
 Potentials.Pays (step policy) (calls policy targetId) (requestCount targetId)
  (outstanding targetId) st i:=by
 by_cases work:∃leaseId o,i=.work leaseId o
 · obtain ⟨leaseId,o,rfl⟩:=work
   exact work_pays h leaseId o
 · have quiet:∀leaseId o,i≠.work leaseId o:=fun leaseId o is=>work ⟨leaseId,o,is⟩
   obtain ⟨count,left⟩:=quiet_step policy targetId h quiet
   have free:calls policy targetId st i=0:=by
    cases i with
    | work leaseId o=>exact absurd rfl (quiet leaseId o)
    | _=>rfl
   constructor
   · rw[free]
     exact Nat.zero_le _
   · rw[free,count]
     omega

end

/-- At every instant of every run, the requests made so far on behalf of a
target, those of the transaction in progress included, have been counted on its
row by transactions that committed before. -/
theorem requests_declared (policy:Policy)(opening:Opening)(targetId:String)
 (steps:List Step)(i:Step) :
 Potentials.spent (step policy) (calls policy targetId) (start opening) (steps++[i]) ≤
  requestCount targetId (steps.foldl (step policy) (start opening)):=by
 have pays:∀st i,Reserved st→Potentials.Pays (step policy) (calls policy targetId)
   (requestCount targetId) (outstanding targetId) st i:=fun st i h=>step_pays h i
 have paid:=Potentials.spent_le_paid (step_reserved policy) pays (start_reserved opening) rfl steps i
 omega

/-- The first listing of campaigns is asked for in the fifth transaction of the
worker; its declaration has committed in the third. -/
example:Potentials.spent (step samplePolicy) (calls samplePolicy "t1") (start sampleOpening)
 (sampleSteps 5)=1:=by
 decide +kernel

end Kivou.ProspectDeclarations
