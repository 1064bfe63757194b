import Kivou.ProspectWorker

set_option autoImplicit false

/-! `ProspectSendWorker.run_once`: after its claim a worker goes from guard to guard. -/
namespace Kivou.ProspectProcess
open ProspectRecords ProspectDelivery ProspectWorker

structure Snapshot where
 request:SendRequest
 item:SendItem
 target:Target

inductive Phase where
 | process
 | counting (snapshot:Snapshot)
 | unpromised
 | campaign (snapshot:Snapshot)
 | lead (snapshot:Snapshot)(campaignId:String)
 | verification (campaignId instantlyId:String)
 | verified (campaignId instantlyId:String)
 | finalizing (campaignId:Option String)(status:RequestStatus)
 | declaring (declaration:Declaration)
 | retrying

structure Worker where
 (requestId targetId:String)
 phase:Phase
 operations:Operations
 rounds:ℕ

def claimed (requestId targetId:String):Worker:=⟨requestId,targetId,.process,⟨[],[],[]⟩,0⟩

/-- `for _ in range(100)` -/
def maxRounds:ℕ:=100

def Snapshot.campaignId (c:Snapshot):Option String:=
 (truthy c.request.providerCampaignId).or (truthy c.target.providerCampaignId)

def Snapshot.instantlyId (c:Snapshot):Option String:=
 (truthy c.item.instantlyId).or (truthy c.target.instantlyId)

def leadPhase (c:Snapshot)(campaignId:String):Phase:=
 match c.instantlyId with
 | none=>.lead c campaignId
 | some instantlyId=>.verification campaignId instantlyId

def route (c:Snapshot):Phase:=
 if c.item.status.isTerminal then .counting c
 else if PythonValues.strip c.target.opportunityKey="" then .unpromised
 else
  match c.campaignId with
  | none=>.campaign c
  | some campaignId=>leadPhase c campaignId

inductive Transaction where
 | commit | abort | crash

/-- What the environment chooses in one step: the clock, the kill switch, what
the provider answers, and what becomes of the transaction. -/
structure Oracle where
 (now renewedAt:ℕ)
 killSwitch:Bool
 campaigns:Listing CampaignItem
 leads:Listing LeadItem
 fate:Fate
 newId:String
 leadStatus:Option (Option ℤ)
 campaignActive:Option Bool
 transaction:Transaction

inductive Ending where
 | commit (scope:Scope)(next:Option Phase)
 | declare (declaration:Declaration)

structure Turn where
 ending:Ending
 provider:Provider
 operations:Operations

section
variable (targetId:String)(o:Oracle)

def retry (s:Scope)(provider:Provider)(operations:Operations):Turn:=
 ⟨.commit (wait targetId o.now true none s) none,provider,operations⟩

def checked (s:Scope)(provider:Provider)(operations:Operations) (body:Scope→Turn):Turn:=
 match checkTarget targetId o.now s with
 | .completed s=>⟨.commit s none,provider,operations⟩
 | .goOn s=>body s

def processTurn (s:Scope)(provider:Provider)(operations:Operations):Turn:=
 checked targetId o s provider operations fun s=>
  match s.request.item? targetId with
  | none=>⟨.commit s none,provider,operations⟩
  | some item=>⟨.commit s (some (route ⟨s.request,item,s.target⟩)),provider,operations⟩

def campaignTurn (c:Snapshot)(s:Scope)(provider:Provider)(operations:Operations) :
 Turn:=
 let operations:={operations with phaseReads:=[]}
 checked targetId o s provider operations fun s=>
  match campaignName c.request with
  | none=>retry targetId o s provider operations
  | some name =>
   match findCampaign name o.campaigns operations with
   | .failed=>retry targetId o s provider operations
   | .declare declaration=>⟨.declare declaration,provider,operations⟩
   | .done (some campaignId) operations =>
    ⟨.commit (persistCampaign campaignId s) (some (leadPhase c campaignId)),provider,operations⟩
   | .done none operations =>
    if o.killSwitch then retry targetId o s provider operations
    else
     match requireMutation .campaignCreate operations with
     | .failed=>retry targetId o s provider operations
     | .declare declaration=>⟨.declare declaration,provider,operations⟩
     | .done () operations =>
      match ensureCampaign o.fate ⟨o.newId,name,s.request.requestId⟩ provider with
      | (none,provider)=>retry targetId o s provider operations
      | (some campaignId,provider) =>
       ⟨.commit (persistCampaign campaignId s) (some (leadPhase c campaignId)),provider,operations⟩

def leadTurn (casefold:String→String)(c:Snapshot)(campaignId:String)(s:Scope)(provider:Provider)
 (operations:Operations):Turn:=
 let operations:={operations with phaseReads:=[]}
 let persist:=fun (instantlyId:String)(s:Scope)=>
  confirmImport targetId (persistLead targetId campaignId instantlyId s)
 checked targetId o s provider operations fun s=>
  match findLead casefold targetId campaignId c.target.emailAddress o.leads operations with
  | .failed=>retry targetId o s provider operations
  | .declare declaration=>⟨.declare declaration,provider,operations⟩
  | .done (some instantlyId) operations =>
   ⟨.commit (persist instantlyId s) (some (.verification campaignId instantlyId)),provider,
    operations⟩
  | .done none operations =>
   if o.killSwitch then retry targetId o s provider operations
   else
    match requireMutation (.leadImport targetId) operations with
    | .failed=>retry targetId o s provider operations
    | .declare declaration=>⟨.declare declaration,provider,operations⟩
    | .done () operations =>
     match importTarget o.fate ⟨o.newId,campaignId,c.target.emailAddress,c.target.mail,
       s.request.requestId,targetId⟩ provider with
     | (none,provider)=>retry targetId o s provider operations
     | (some instantlyId,provider) =>
      ⟨.commit (persist instantlyId s) (some (.verification campaignId instantlyId)),
       provider,operations⟩

def verificationTurn (campaignId instantlyId:String)(s:Scope)(provider:Provider)
 (operations:Operations):Turn:=
 let operations:={operations with phaseReads:=[]}
 checked targetId o s provider operations fun s=>
  match requireRead (.leadVerification targetId) operations with
  | .failed=>retry targetId o s provider operations
  | .declare declaration=>⟨.declare declaration,provider,operations⟩
  | .done () operations =>⟨.commit s (some (.verified campaignId instantlyId)),provider,operations⟩

def settledTurn (campaignId:Option String)(settled:Settled)(provider:Provider)
 (operations:Operations):Turn:=
 ⟨.commit settled.1 (settled.2.map fun status=>.finalizing campaignId status),provider,operations⟩

def verifiedTurn (campaignId instantlyId:String)(s:Scope)(provider:Provider)
 (operations:Operations):Turn:=
 match o.leadStatus.map verification with
 | none=>retry targetId o s provider operations
 | some .pending =>
  ⟨.commit (wait targetId o.now false (some instantlyId) s) none,provider,operations⟩
 | some (.failed error) =>
  settledTurn (truthy (some campaignId))
   (failed targetId o.now campaignId instantlyId (.verification error) s) provider operations
 | some .accepted =>
  settledTurn (truthy (some campaignId)) (accepted targetId o.now campaignId instantlyId s)
   provider operations

/-- The guard of `_finalize`. -/
def finalizeTurn (campaignId:Option String)(status:RequestStatus)(s:Scope)
 (provider:Provider)(operations:Operations):Turn:=
 let operations:={operations with phaseReads:=[]}
 let released:=fun (s:Scope)=>s.release status none
 let active:=fun (s:Scope)=>released (s.setResult fun r=>{r with activated:=true})
 if s.request.result.activationBlocked.isSome then retry targetId o s provider operations
 else if status≠.completed ∧ status≠.partlySent then ⟨.commit (released s) none,provider,operations⟩
 else if s.request.result.activated then ⟨.commit (active s) none,provider,operations⟩
 else
  match campaignId with
  | none=>retry targetId o s provider operations
  | some campaignId =>
   match requireRead .campaignStatus operations with
   | .failed=>retry targetId o s provider operations
   | .declare declaration=>⟨.declare declaration,provider,operations⟩
   | .done () operations =>
    match o.campaignActive with
    | none=>retry targetId o s provider operations
    | some true=>⟨.commit (active s) none,provider,operations⟩
    | some false =>
     if o.killSwitch then retry targetId o s provider operations
     else
      match requireMutation .campaignActivate operations with
      | .failed=>retry targetId o s provider operations
      | .declare declaration=>⟨.declare declaration,provider,operations⟩
      | .done () operations =>
       match activate o.fate s.request.requestId campaignId provider with
       | (false,provider)=>retry targetId o s provider operations
       | (true,provider)=>⟨.commit (active s) none,provider,operations⟩

/-- The guard of `_declare_operation`. -/
def declareTurn (declaration:Declaration)(rounds:ℕ)(s:Scope)(provider:Provider)
 (operations:Operations):Turn:=
 checked targetId o s provider operations fun s=>
  ⟨.commit (declareOperation declaration s)
    (some (if rounds+1 < maxRounds then .process else .retrying)),
   provider,Operations.permit operations declaration⟩

end

def turn (casefold:String→String)(o:Oracle)(w:Worker)(s:Scope)(provider:Provider):Turn:=
 let operations:=w.operations
 match w.phase with
 | .process=>processTurn w.targetId o s provider operations
 | .unpromised =>
  settledTurn none (failed w.targetId o.now "" "" .missingOpportunityKey s) provider operations
 | .campaign c=>campaignTurn w.targetId o c s provider operations
 | .lead c campaignId=>leadTurn w.targetId o casefold c campaignId s provider operations
 | .verification campaignId instantlyId =>
  verificationTurn w.targetId o campaignId instantlyId s provider operations
 | .verified campaignId instantlyId =>
  verifiedTurn w.targetId o campaignId instantlyId s provider operations
 | .finalizing campaignId status =>finalizeTurn w.targetId o campaignId status s provider operations
 | .declaring declaration=>declareTurn w.targetId o declaration w.rounds s provider operations
 | .retrying=>retry w.targetId o s provider operations
 | .counting _=>⟨.commit s none,provider,operations⟩

section
variable (casefold:String→String)(o:Oracle)(w:Worker)(s:Scope)(p:Provider)

def Worker.atReads (w:Worker):Operations:={w.operations with phaseReads:=[]}

inductive Effect:Provider→Prop where
 | nothing:Effect p
 | campaign (c:Snapshot)(name:String)(listed permitted:Operations)
   (phase:w.phase=.campaign c)(named:campaignName c.request=some name)
   (unlisted:findCampaign name o.campaigns w.atReads=.done none listed)
   (allowed:o.killSwitch=false)
   (permit:requireMutation .campaignCreate listed=.done () permitted) :
   Effect {p with campaigns:=⟨o.newId,name,s.request.requestId⟩::p.campaigns}
 | lead (c:Snapshot)(campaignId:String)(listed permitted:Operations)
   (phase:w.phase=.lead c campaignId)
   (unlisted:findLead casefold w.targetId campaignId c.target.emailAddress o.leads w.atReads =
    .done none listed)
   (allowed:o.killSwitch=false)
   (permit:requireMutation (.leadImport w.targetId) listed=.done () permitted)
   (current:Current w.targetId s) :
   Effect { p with leads:=⟨o.newId,campaignId,c.target.emailAddress,c.target.mail,
    s.request.requestId,w.targetId⟩::p.leads}
 | activation (campaignId:String)(status:RequestStatus)(listed permitted:Operations)
   (phase:w.phase=.finalizing (some campaignId) status)
   (unblocked:s.request.result.activationBlocked=none)
   (sent:status=.completed ∨ status=.partlySent)
   (inactive:s.request.result.activated=false)
   (allowed:o.killSwitch=false)
   (permit:requireMutation .campaignActivate listed=.done () permitted) :
   Effect {p with activations:=(s.request.requestId,campaignId)::p.activations}

def Reached (targetId:String)(now:ℕ)(s s':Scope):Prop:=s'=s ∨ checkTarget targetId now s=.goOn s'

def Within (w:Worker)(operations:Operations):Prop:=
 ∀key∈operations.readyMutations,key∈w.operations.readyMutations

inductive Way:Turn→Prop where
 | completed (s':Scope)(operations:Operations)
   (checked:checkTarget w.targetId o.now s=.completed s') :
   Way ⟨.commit s' none,p,operations⟩
 | retried (s':Scope)(p':Provider)(operations:Operations)
   (reached:Reached w.targetId o.now s s')(effect:Effect casefold o w s' p p') :
   Way ⟨.commit (wait w.targetId o.now true none s') none,p',operations⟩
 | declared (declaration:Declaration)(operations:Operations)(within:Within w operations)
   (active:w.phase≠.retrying)
   (imports:∀targetId,declaration.key=some (.leadImport targetId) →
    targetId=w.targetId ∧ ∃c campaignId,w.phase=.lead c campaignId) :
   Way ⟨.declare declaration,p,operations⟩
 | vanished (s':Scope)(operations:Operations) (checked:checkTarget w.targetId o.now s=.goOn s')
   (missing:s'.request.item? w.targetId=none) :
   Way ⟨.commit s' none,p,operations⟩
 | routed (s':Scope)(item:SendItem)(operations:Operations)
   (within:Within w operations)(phase:w.phase=.process)
   (checked:checkTarget w.targetId o.now s=.goOn s')
   (found:s'.request.item? w.targetId=some item) :
   Way ⟨.commit s' (some (route ⟨s'.request,item,s'.target⟩)),p,operations⟩
 | campaign (c:Snapshot)(s':Scope)(campaignId:String)(p':Provider)
   (operations:Operations)(within:Within w operations)(phase:w.phase=.campaign c)
   (checked:checkTarget w.targetId o.now s=.goOn s')
   (effect:Effect casefold o w s' p p')(named:campaignId≠"") :
   Way ⟨.commit (persistCampaign campaignId s') (some (leadPhase c campaignId)),p',operations⟩
 | lead (c:Snapshot)(campaignId instantlyId:String)(s':Scope)(p':Provider)
   (operations:Operations)(within:Within w operations)(phase:w.phase=.lead c campaignId)
   (checked:checkTarget w.targetId o.now s=.goOn s')
   (effect:Effect casefold o w s' p p')(named:instantlyId≠"") :
   Way ⟨.commit (confirmImport w.targetId (persistLead w.targetId campaignId instantlyId s'))
    (some (.verification campaignId instantlyId)),p',operations⟩
 | verification (campaignId instantlyId:String)(s':Scope)(operations:Operations)
   (within:Within w operations)(phase:w.phase=.verification campaignId instantlyId)
   (checked:checkTarget w.targetId o.now s=.goOn s') :
   Way ⟨.commit s' (some (.verified campaignId instantlyId)),p,operations⟩
 | pending (campaignId instantlyId:String)(operations:Operations)
   (phase:w.phase=.verified campaignId instantlyId) :
   Way ⟨.commit (wait w.targetId o.now false (some instantlyId) s) none,p,operations⟩
 | refused (campaignId instantlyId:String)(error:VerificationError)(operations:Operations)
   (within:Within w operations)(phase:w.phase=.verified campaignId instantlyId) :
   Way (settledTurn (truthy (some campaignId))
    (failed w.targetId o.now campaignId instantlyId (.verification error) s) p operations)
 | unpromised (operations:Operations)(within:Within w operations) (phase:w.phase=.unpromised) :
   Way (settledTurn none (failed w.targetId o.now "" "" .missingOpportunityKey s) p operations)
 | accepted (campaignId instantlyId:String)(operations:Operations)
   (within:Within w operations)(phase:w.phase=.verified campaignId instantlyId) :
   Way (settledTurn (truthy (some campaignId))
    (accepted w.targetId o.now campaignId instantlyId s) p operations)
 | finalized (campaignId:Option String)(status:RequestStatus)(activated:Bool)
   (p':Provider)(operations:Operations)(phase:w.phase=.finalizing campaignId status)
   (effect:Effect casefold o w s p p') :
   Way ⟨.commit ((s.setResult fun r=>{r with activated}).release status none) none,p',operations⟩
 | permitted (declaration:Declaration)(s':Scope)(phase:w.phase=.declaring declaration)
   (checked:checkTarget w.targetId o.now s=.goOn s') :
   Way ⟨.commit (declareOperation declaration s')
    (some (if w.rounds+1 < maxRounds then .process else .retrying)),p,
    Operations.permit w.operations declaration⟩

end

/-- What is left of a worker whose transaction raised: the exceptions of these
two phases leave `run_once`. -/
def Worker.interrupted (w:Worker)(operations:Operations):Option Worker:=
 match w.phase with
 | .declaring _ | .retrying=>none
 | _=>some {w with phase:=.retrying,operations}

def Worker.goOn (w:Worker)(operations:Operations)(next:Phase):Worker:=
 {w with
   phase:=next
   operations
   rounds:=match w.phase with
    | .declaring _=>w.rounds+1
    | _=>w.rounds}

section
variable {casefold:String→String}{o:Oracle}{w:Worker}{s:Scope}{p:Provider}

lemma checked_way {operations:Operations}{body:Scope→Turn}
 (go:∀s',checkTarget w.targetId o.now s=.goOn s'→Way casefold o w s p (body s')) :
 Way casefold o w s p (checked w.targetId o s p operations body):=by
 unfold checked
 split
 · exact .completed _ _ ‹_›
 · exact go _ ‹_›

lemma retry_way {s':Scope}{p':Provider}{operations:Operations}
 (reached:Reached w.targetId o.now s s')(effect:Effect casefold o w s' p p') :
 Way casefold o w s p (retry w.targetId o s' p' operations):=
 .retried s' p' operations reached effect

lemma processTurn_way (phase:w.phase=.process) :
 Way casefold o w s p (processTurn w.targetId o s p w.operations):=by
 refine checked_way fun s' checked=>?_
 split
 · exact .vanished s' w.operations checked ‹_›
 · exact .routed s' _ w.operations (fun _ mem=>mem) phase checked ‹_›

lemma campaignTurn_way {c:Snapshot}(phase:w.phase=.campaign c) :
 Way casefold o w s p (campaignTurn w.targetId o c s p w.operations):=by
 refine checked_way fun s' checked=>?_
 have again:∀operations,Way casefold o w s p (retry w.targetId o s' p operations):=
  fun operations=>retry_way (.inr checked) .nothing
 split
 · exact again _
 · rename_i name named
   split
   · exact again _
   · rename_i declared
     exact .declared _ _ (fun _ mem=>mem) (by simp[phase]) fun targetId is=>by
      rw[scan_declare declared] at is
      cases is
   · rename_i campaignId operations found
     obtain ⟨items,-,item,-,selected⟩:=scan_some found
     have within:Within w operations:=fun key mem=>by rwa[scan_permits found] at mem
     exact .campaign c s' campaignId p operations within phase checked .nothing
      (selectCampaign_some selected).2.2
   · rename_i listed unlisted
     have within:Within w listed:=fun key mem=>by rwa[scan_permits unlisted] at mem
     split
     · exact again _
     · rename_i allowed
       split
       · exact again _
       · rename_i declared
         exact .declared _ _ within (by simp[phase]) fun targetId is=>by
          rw[requireMutation_declare declared] at is
          cases is
       · rename_i permitted permit
         have effect:Effect casefold o w s' p
           {p with campaigns:=⟨o.newId,name,s'.request.requestId⟩::p.campaigns}:=
          .campaign c name listed permitted phase named unlisted (Bool.eq_false_iff.mpr allowed)
           permit
         have within:Within w permitted:=fun key mem=>
          within key ((requireMutation_done permit).2 key mem)
         unfold ensureCampaign
         split
         · rename_i p' eq
           split at eq
           · obtain rfl:=(Prod.mk.inj eq).2
             exact again _
           · obtain rfl:=(Prod.mk.inj eq).2
             exact retry_way (.inr checked) effect
         · rename_i campaignId p' eq
           split at eq
           · cases (Prod.mk.inj eq).1
           · obtain ⟨answered,rfl⟩:=Prod.mk.inj eq
             exact .campaign c s' campaignId _ _ within phase checked effect
              (created_some answered).2

lemma leadTurn_way {c:Snapshot}{campaignId:String}(phase:w.phase=.lead c campaignId) :
 Way casefold o w s p (leadTurn w.targetId o casefold c campaignId s p w.operations):=by
 refine checked_way fun s' checked=>?_
 have again:∀operations,Way casefold o w s p (retry w.targetId o s' p operations):=
  fun operations=>retry_way (.inr checked) .nothing
 split
 · exact again _
 · rename_i declared
   exact .declared _ _ (fun _ mem=>mem) (by simp[phase]) fun targetId is=>by
    rw[scan_declare declared] at is
    cases is
 · rename_i instantlyId operations found
   obtain ⟨items,-,item,-,selected⟩:=scan_some found
   have within:Within w operations:=fun key mem=>by rwa[scan_permits found] at mem
   exact .lead c campaignId instantlyId s' p operations within phase checked .nothing
    (selectLead_some selected).2
 · rename_i listed unlisted
   have within:Within w listed:=fun key mem=>by rwa[scan_permits unlisted] at mem
   split
   · exact again _
   · rename_i allowed
     split
     · exact again _
     · rename_i declared
       exact .declared _ _ within (by simp[phase]) fun targetId is=>by
        rw[requireMutation_declare declared] at is
        obtain rfl:=MutationKey.leadImport.inj (Option.some.inj is)
        exact ⟨rfl,c,campaignId,phase⟩
     · rename_i permitted permit
       have effect:Effect casefold o w s' p {p with
         leads:=⟨o.newId,campaignId,c.target.emailAddress,c.target.mail,
          s'.request.requestId,w.targetId⟩::p.leads}:=
        .lead c campaignId listed permitted phase unlisted (Bool.eq_false_iff.mpr allowed) permit
         (goOn_current checked)
       have within:Within w permitted:=fun key mem=>
        within key ((requireMutation_done permit).2 key mem)
       unfold importTarget
       split
       · rename_i p' eq
         split at eq
         · obtain rfl:=(Prod.mk.inj eq).2
           exact again _
         · obtain rfl:=(Prod.mk.inj eq).2
           exact retry_way (.inr checked) effect
       · rename_i instantlyId p' eq
         split at eq
         · cases (Prod.mk.inj eq).1
         · obtain ⟨answered,rfl⟩:=Prod.mk.inj eq
           exact .lead c campaignId instantlyId s' _ _ within phase checked effect
            (created_some answered).2

lemma verificationTurn_way {campaignId instantlyId:String}
 (phase:w.phase=.verification campaignId instantlyId) :
 Way casefold o w s p (verificationTurn w.targetId o campaignId instantlyId s p w.operations):=by
 refine checked_way fun s' checked=>?_
 split
 · exact retry_way (.inr checked) .nothing
 · rename_i declared
   exact .declared _ _ (fun _ mem=>mem) (by simp[phase]) fun targetId is=>by
    rw[requireRead_declare declared] at is
    cases is
 · rename_i operations read
   have within:Within w operations:=fun key mem=>by rwa[requireRead_done read] at mem
   exact .verification campaignId instantlyId s' _ within phase checked

lemma verifiedTurn_way {campaignId instantlyId:String}
 (phase:w.phase=.verified campaignId instantlyId) :
 Way casefold o w s p (verifiedTurn w.targetId o campaignId instantlyId s p w.operations):=by
 unfold verifiedTurn
 split
 · exact retry_way (.inl rfl) .nothing
 · exact .pending campaignId instantlyId _ phase
 · exact .refused campaignId instantlyId _ _ (fun _ mem=>mem) phase
 · exact .accepted campaignId instantlyId _ (fun _ mem=>mem) phase

lemma finalizeTurn_way {campaignId:Option String}{status:RequestStatus}
 (phase:w.phase=.finalizing campaignId status) :
 Way casefold o w s p (finalizeTurn w.targetId o campaignId status s p w.operations):=by
 have again:∀operations,Way casefold o w s p (retry w.targetId o s p operations):=
  fun operations=>retry_way (.inl rfl) .nothing
 have released:∀operations,
   Way casefold o w s p ⟨.commit (s.release status none) none,p,operations⟩:=
  fun operations=>
   .finalized campaignId status s.request.result.activated p operations phase .nothing
 have active:∀operations,Way casefold o w s p
   ⟨.commit ((s.setResult fun r=>{r with activated:=true}).release status none) none,p,operations⟩:=
  fun operations=>.finalized campaignId status true p operations phase .nothing
 unfold finalizeTurn
 dsimp only
 split
 · exact again _
 · rename_i unblocked
   split
   · exact released _
   · rename_i sent
     split
     · exact active _
     · rename_i inactive
       split
       · exact again _
       · rename_i _ id
         split
         · exact again _
         · rename_i declared
           exact .declared _ _ (fun _ mem=>mem) (by simp[phase]) fun targetId is=>by
            rw[requireRead_declare declared] at is
            cases is
         · rename_i listed read
           split
           · exact again _
           · exact active _
           · split
             · exact again _
             · rename_i allowed
               split
               · exact again _
               · rename_i declared
                 refine .declared _ _ (fun key mem=>?_) (by simp[phase]) fun targetId is=>?_
                 · rwa[requireRead_done read] at mem
                 · rw[requireMutation_declare declared] at is
                   cases is
               · rename_i permitted permit
                 have effect:Effect casefold o w s p
                   {p with activations:=(s.request.requestId,id)::p.activations}:=
                  .activation id status listed permitted phase (by simpa using unblocked)
                   (by tauto) (Bool.eq_false_iff.mpr inactive)
                   (Bool.eq_false_iff.mpr allowed) permit
                 unfold activate
                 split
                 · rename_i p' eq
                   split at eq
                   · obtain rfl:=(Prod.mk.inj eq).2
                     exact again _
                   · obtain rfl:=(Prod.mk.inj eq).2
                     exact retry_way (.inl rfl) effect
                 · rename_i p' eq
                   split at eq
                   · cases (Prod.mk.inj eq).1
                   · obtain rfl:=(Prod.mk.inj eq).2
                     exact .finalized _ status true _ _ phase effect

lemma declareTurn_way {declaration:Declaration}(phase:w.phase=.declaring declaration) :
 Way casefold o w s p (declareTurn w.targetId o declaration w.rounds s p w.operations):=
 checked_way fun s' checked=>.permitted declaration s' phase checked

lemma turn_way (casefold:String→String)(o:Oracle){w:Worker}
 (guarded:∀c,w.phase≠.counting c)(s:Scope)(p:Provider) :
 Way casefold o w s p (turn casefold o w s p):=by
 unfold turn
 split
 · exact processTurn_way ‹_›
 · exact .unpromised _ (fun _ mem=>mem) ‹_›
 · exact campaignTurn_way ‹_›
 · exact leadTurn_way ‹_›
 · exact verificationTurn_way ‹_›
 · exact verifiedTurn_way ‹_›
 · exact finalizeTurn_way ‹_›
 · exact declareTurn_way ‹_›
 · exact retry_way (.inl rfl) .nothing
 · exact absurd ‹_› (guarded _)

end

lemma way_effect {casefold:String→String}{o:Oracle}{w:Worker}{s:Scope}
 {p:Provider}{t:Turn}(way:Way casefold o w s p t) :
 ∃s',Reached w.targetId o.now s s' ∧ Effect casefold o w s' p t.provider:=by
 cases way with
 | retried s' _ _ reached effect=>exact ⟨s',reached,effect⟩
 | campaign _ s' _ _ _ _ _ checked effect=>exact ⟨s',.inr checked,effect⟩
 | lead _ _ _ s' _ _ _ _ checked effect=>exact ⟨s',.inr checked,effect⟩
 | finalized _ _ _ _ _ _ effect=>exact ⟨s,.inl rfl,effect⟩
 | _=>exact ⟨s,.inl rfl,.nothing⟩

end Kivou.ProspectProcess
