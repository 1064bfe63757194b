import Kivou.ProspectOptOuts
import Kivou.ProspectProcess
import Kivou.Runs

set_option autoImplicit false

/-! Any number of workers, the founder and the writers of opt-outs on one database, and the
provider. A lease is numbered by its claim, so that no two claims share one; a worker may stop for
good between any two of its transactions. -/
namespace Kivou.ProspectRuns
open ProspectRecords ProspectDelivery ProspectWorker ProspectProcess ProspectActions
open ProspectOptOuts

/-- `workers` are the claims being processed, by their lease. -/
structure System where
 db:Db
 provider:Provider
 workers:ℕ→Option Worker
 nextLease:ℕ

def System.setWorker (st:System)(leaseId:ℕ)(worker:Option Worker):System:=
 {st with workers:=fun l=>if l=leaseId then worker else st.workers l}

inductive Step where
 | enqueueSend (command:SendCommand)(at':ℕ)(around:Surroundings)
 | approve (targetId:String)(expectedVersion:ℕ)
 | correct (targetId:String)(expectedVersion:ℕ)(emailAddress:Option String)
   (verified:Bool)(message:Rendered)
 | reject (targetId:String)(expectedVersion:ℕ)(reason:RejectionReason)(at':ℕ)
 | regeneratePendingMail (message:String→Rendered)
 | ingest (payload:WebhookPayload)(receivedAt:ℕ)
 | suppress (siren:String)(known:Bool)(receivedAt:ℕ)
 | audit (observedAt:ℕ)
 | claim (requestId:String)(now claimedAt:ℕ)(skipped:List String)
 | work (leaseId:ℕ)(oracle:Oracle)
 | crash (leaseId:ℕ)

section
variable (policy:Policy)

def after (db:Db):Except ActionError Db→Db
 | .ok db=>db
 | .error _=>db

/-- `_claim`, for the request it gets the lock of. -/
def claimStep (st:System)(requestId:String)(now claimedAt:ℕ)(skipped:List String):System:=
 match st.db.request? requestId with
 | none=>st
 | some r =>
  match claimLocked r now claimedAt skipped st.nextLease with
  | none=>st
  | some (claimedRow,targetId) =>
   { st.setWorker st.nextLease (some (claimed requestId targetId)) with
     db:=st.db.setRequest claimedRow
     nextLease:=st.nextLease+1}

def conclude (st:System)(leaseId:ℕ)(w:Worker)(o:Oracle)(t:Turn):System:=
 let st:={st with provider:=t.provider}
 match o.transaction,t.ending with
 | .crash,_=>st.setWorker leaseId none
 | .abort,_=>st.setWorker leaseId (w.interrupted t.operations)
 | .commit,.declare declaration =>
  st.setWorker leaseId (some {w with
   phase:=.declaring declaration
   operations:=t.operations})
 | .commit,.commit s next =>
  { st.setWorker leaseId (next.map (w.goOn t.operations)) with
    db:=closeGuard st.db leaseId o.renewedAt s}

def workStep (st:System)(leaseId:ℕ)(o:Oracle):System:=
 match st.workers leaseId with
 | none=>st
 | some w =>
  match w.phase with
  | .counting c =>
   let status:=(st.db.request? w.requestId).bind SendRequest.finalStatus
   st.setWorker leaseId (status.map fun status=>
    w.goOn w.operations (.finalizing c.campaignId status))
  | _ =>
   match openGuard st.db leaseId w.requestId w.targetId with
   | none=>st.setWorker leaseId none
   | some s=>conclude st leaseId w o (turn policy.casefold o w s st.provider)

def step (st:System):Step→System
 | .enqueueSend command at' around =>{st with db:=(enqueueSend policy command at' around st.db).2}
 | .approve targetId expectedVersion =>
  {st with db:=after st.db (approve policy targetId expectedVersion st.db)}
 | .correct targetId expectedVersion emailAddress verified message =>
  {st with
    db:=after st.db (correct policy targetId expectedVersion emailAddress verified message st.db)}
 | .reject targetId expectedVersion reason at' =>
  {st with db:=after st.db (reject targetId expectedVersion reason at' st.db)}
 | .regeneratePendingMail message=>{st with db:=regeneratePendingMail message st.db}
 | .ingest payload receivedAt =>
  {st with db:=(ingestPayload policy payload receivedAt st.db).getD st.db}
 | .suppress siren known receivedAt =>
  {st with db:=(suppress policy siren known receivedAt st.db).getD st.db}
 | .audit observedAt =>{st with db:=(auditConfirmedDomains policy observedAt st.db).getD st.db}
 | .claim requestId now claimedAt skipped=>claimStep st requestId now claimedAt skipped
 | .work leaseId oracle=>workStep policy st leaseId oracle
 | .crash leaseId=>st.setWorker leaseId none

end

structure Opening where
 targets:List Target
 directory:String→Option DirectoryRow
 suppressions:List Suppression
 keys:(targets.map (·.targetId)).Nodup
 unreserved:∀t∈targets,t.sendRequestId=none

def start (opening:Opening):System where
 db:=⟨[],opening.targets,opening.directory,opening.suppressions,[]⟩
 provider:=⟨[],[],[]⟩
 workers _:=none
 nextLease:=0

lemma openGuard_some {db:Db}{leaseId:ℕ}{requestId targetId:String}{s:Scope}
 (h:openGuard db leaseId requestId targetId=some s) :
 db.request? requestId=some s.request ∧ db.target? targetId=some s.target ∧
  s.request.status=.running ∧ s.request.leaseId=some leaseId ∧
  ∃item,s.request.item? targetId=some item ∧ (item.status=.running ∨ item.status.isTerminal):=by
 unfold openGuard at h
 split at h
 · rename_i request target requested targeted
   split at h
   · rename_i leased
     split at h
     · rename_i item found
       split at h
       · rename_i shown
         obtain rfl:=Option.some.inj h
         exact ⟨requested,targeted,leased.1,leased.2,item,found,shown⟩
       · cases h
     · cases h
   · cases h
 · cases h

section
variable (policy:Policy)(st:System)(leaseId:ℕ)(o:Oracle)

/-- The ways a step of a worker can go: its guard may not open, and of a guard
that opens the provider's side always stays. -/
inductive Worked:System→Prop where
 | absent:Worked st
 | stopped:Worked (st.setWorker leaseId none)
 | counted (w:Worker)(c:Snapshot)(r:SendRequest)(status:RequestStatus)
   (held:st.workers leaseId=some w)(phase:w.phase=.counting c)
   (found:st.db.request? w.requestId=some r)(final:r.finalStatus=some status) :
   Worked (st.setWorker leaseId (some (w.goOn w.operations (.finalizing c.campaignId status))))
 | dropped (w:Worker)(s:Scope)(t:Turn)(held:st.workers leaseId=some w)
   (opened:openGuard st.db leaseId w.requestId w.targetId=some s)
   (way:Way policy.casefold o w s st.provider t) :
   Worked {st.setWorker leaseId none with provider:=t.provider}
 | turned (w:Worker)(s:Scope)(t:Turn)(phase:Phase) (held:st.workers leaseId=some w)
   (opened:openGuard st.db leaseId w.requestId w.targetId=some s)
   (way:Way policy.casefold o w s st.provider t)
   (turn:phase=.retrying ∨
    ∃declaration,phase=.declaring declaration ∧ t.ending=.declare declaration) :
   Worked { st.setWorker leaseId (some {w with phase,operations:=t.operations}) with
    provider:=t.provider}
 | committed (w:Worker)(s s':Scope)(next:Option Phase)(p':Provider)
   (operations:Operations)(held:st.workers leaseId=some w)
   (opened:openGuard st.db leaseId w.requestId w.targetId=some s)
   (way:Way policy.casefold o w s st.provider ⟨.commit s' next,p',operations⟩) :
   Worked { st.setWorker leaseId (next.map (w.goOn operations)) with
    db:=closeGuard st.db leaseId o.renewedAt s'
    provider:=p'}

lemma conclude_worked {w:Worker}{s:Scope}{t:Turn}(held:st.workers leaseId=some w)
 (opened:openGuard st.db leaseId w.requestId w.targetId=some s)
 (way:Way policy.casefold o w s st.provider t) :
 Worked policy st leaseId o (conclude st leaseId w o t):=by
 obtain ⟨ending,p',operations⟩:=t
 unfold conclude
 dsimp only
 split
 · exact .dropped w s _ held opened way
 · unfold Worker.interrupted
   split
   · exact .dropped w s _ held opened way
   · exact .dropped w s _ held opened way
   · exact .turned w s _ .retrying held opened way (.inl rfl)
 · exact .turned w s _ _ held opened way (.inr ⟨_,rfl,rfl⟩)
 · exact .committed w s _ _ p' operations held opened way

lemma workStep_worked:Worked policy st leaseId o (workStep policy st leaseId o):=by
 unfold workStep
 split
 · exact .absent
 · rename_i w held
   split
   · rename_i c phase
     cases found:st.db.request? w.requestId with
     | none=>exact .stopped
     | some r =>
      cases final:r.finalStatus with
      | none=>simpa[final] using Worked.stopped
      | some status =>simpa[final] using Worked.counted w c r status held phase found final
   · rename_i guarded
     split
     · exact .stopped
     · rename_i s opened
       exact conclude_worked policy st leaseId o held opened (turn_way _ _ guarded _ _)

end

lemma mem_setRequest {db:Db}{request r:SendRequest} (h:r∈(db.setRequest request).requests) :
 r=request ∨ r∈db.requests ∧ r.requestId≠request.requestId:=by
 obtain ⟨row,was,eq⟩:=Tables.mem_update.mp h
 split at eq
 · exact .inl eq.symm
 · rename_i other
   subst eq
   exact .inr ⟨was,by simpa using other⟩

def corrected (t:Target)(emailAddress:String)(verified:Bool)(message:Rendered):Target:=
 { Target.unbound (Target.rendered {t with emailAddress,mxVerified:=verified} message) with
   version:=t.version+1
   status:=if message.passed then t.status else .pendingReview}

inductive Edit:Step→Target→Target→Prop where
 | same (i:Step)(t:Target):Edit i t t
 | approved (t:Target)(status:t.status=.pendingReview) : Edit (.approve t.targetId t.version) t
    {t with status:=.approved,version:=t.version+1}
 | corrected (t:Target)(changed:Option String)(verified:Bool)(message:Rendered)
   (emailAddress:String)(mx:Bool)(status:t.status≠.sent) :
   Edit (.correct t.targetId t.version changed verified message) t
    (corrected t emailAddress mx message)
 | rejected (t:Target)(reason:RejectionReason)(at':ℕ)
   (status:t.status=.pendingReview ∨ t.status=.approved) :
   Edit (.reject t.targetId t.version reason at') t
    {Target.unbound t with status:=.rejected,version:=t.version+1}
 | regenerated (t:Target)(message:String→Rendered)
   (status:t.status=.pendingReview ∨ t.status=.approved) :
   Edit (.regeneratePendingMail message) t
    {Target.unbound (Target.rendered t (message t.targetId)) with version:=t.version+1}
 | projected (t:Target)(payload:WebhookPayload)(receivedAt:ℕ)(delivery:Delivery) :
   Edit (.ingest payload receivedAt) t {t with version:=t.version+1,delivery}

lemma Edit.targetId {i:Step}{t t':Target}(h:Edit i t t'):t'.targetId=t.targetId:=by
 cases h <;> rfl

structure Outside (i:Step)(db db':Db):Prop where
 requests:db'.requests=db.requests
 keys:db'.targets.map (·.targetId)=db.targets.map (·.targetId)
 targets:∀targetId,Option.Rel (Edit i) (db.target? targetId) (db'.target? targetId)

lemma target?_congr {db db':Db}(targets:db'.targets=db.targets)(targetId:String) :
 db'.target? targetId=db.target? targetId:=by
 unfold Db.target?
 rw[targets]

lemma setTarget_keys (db:Db)(t:Target) :
 (db.setTarget t).targets.map (·.targetId)=db.targets.map (·.targetId):=
 Tables.map_key_update fun _ _ same=>(beq_iff_eq.mp same).symm

lemma Outside.refl (i:Step)(db:Db):Outside i db db:=by
 refine ⟨rfl,rfl,fun targetId=>?_⟩
 cases db.target? targetId with
 | none=>exact .none
 | some t=>exact .some (.same i t)

lemma Outside.then {i:Step}{db base db':Db}(h:Outside i db base)
 (requests:db'.requests=base.requests)(targets:db'.targets=base.targets) :
 Outside i db db':=by
 refine ⟨requests.trans h.requests,?_,fun targetId=>?_⟩
 · rw[targets,h.keys]
 · rw[target?_congr targets]
   exact h.targets targetId

lemma outside_setTarget {i:Step}{db:Db}{t t':Target}
 (found:db.target? t.targetId=some t)(edit:Edit i t t') :
 Outside i db (db.setTarget t'):=by
 refine ⟨rfl,setTarget_keys db t',fun targetId=>?_⟩
 rw[Db.target?_setTarget,edit.targetId]
 split
 · rename_i same
   rw[same,found]
   exact .some edit
 · exact (Outside.refl i db).targets targetId

lemma load_ok {db:Db}{targetId:String}{expectedVersion:ℕ}{t:Target}
 (h:load db targetId expectedVersion=.ok t) :
 db.target? t.targetId=some t ∧ t.targetId=targetId ∧ t.version=expectedVersion:=by
 unfold load at h
 split at h
 · cases h
 · rename_i found
   split at h
   · rename_i version
     obtain rfl:=Except.ok.inj h
     have key:=(Db.target?_some found).2
     exact ⟨key ▸ found,key,version⟩
   · cases h

section
variable {policy:Policy}{db db':Db}{targetId:String}{expectedVersion:ℕ}

lemma approve_ok (h:approve policy targetId expectedVersion db=.ok db') :
 ∃t,load db targetId expectedVersion=.ok t ∧ t.status=.pendingReview ∧
  db'=db.setTarget {t with status:=.approved,version:=t.version+1}:=by
 obtain ⟨t,loaded,h⟩:=PythonValues.bind_ok.mp h
 simp only[bind,Except.bind,pure,Except.pure,throw,throwThe,MonadExceptOf.throw] at h
 split at h
 · cases h
 · rename_i pending
   split at h
   · cases h
   · split at h
     · cases h
     · exact ⟨t,loaded,by simpa using pending,(Except.ok.inj h).symm⟩

lemma correct_ok {emailAddress:Option String}{verified:Bool}{message:Rendered}
 (h:correct policy targetId expectedVersion emailAddress verified message db=.ok db') :
 ∃ (t:Target)(base:Db)(email:String)(mx:Bool),
  load db targetId expectedVersion=.ok t ∧ t.status≠.sent ∧
  base.requests=db.requests ∧ base.targets=db.targets ∧
  db'=base.setTarget (corrected t email mx message):=by
 obtain ⟨t,loaded,h⟩:=PythonValues.bind_ok.mp h
 simp only[bind,Except.bind,pure,Except.pure,throw,throwThe,MonadExceptOf.throw] at h
 split at h
 · cases h
 · rename_i open'
   cases emailAddress with
   | none =>exact ⟨t,db,t.emailAddress,t.mxVerified,loaded,open',rfl,rfl,(Except.ok.inj h).symm⟩
   | some email =>
    exact ⟨t,db.updateDirectory t.siren fun row=>{row with
      professionalEmail:=some (policy.casefold email)},
     policy.casefold email,verified,loaded,open',rfl,rfl,(Except.ok.inj h).symm⟩

lemma reject_ok {reason:RejectionReason}{at':ℕ}
 (h:reject targetId expectedVersion reason at' db=.ok db') :
 ∃ (t:Target)(base:Db),load db targetId expectedVersion=.ok t ∧
  (t.status=.pendingReview ∨ t.status=.approved) ∧
  base.requests=db.requests ∧ base.targets=db.targets ∧
  db'=base.setTarget { Target.unbound t with
   status:=.rejected,version:=t.version+1}:=by
 obtain ⟨t,loaded,h⟩:=PythonValues.bind_ok.mp h
 simp only[bind,Except.bind,pure,Except.pure,throw,throwThe,MonadExceptOf.throw] at h
 split at h
 · cases h
 · rename_i open'
   have status:t.status=.pendingReview ∨ t.status=.approved:=by tauto
   refine ⟨t,if reason=.wrongAddress then db.updateDirectory t.siren fun row=>{row with
     reverificationRequiredAt:=some at'} else db,loaded,status,?_,?_,
    (Except.ok.inj h).symm⟩
   · split <;> rfl
   · split <;> rfl

lemma setTarget_outside {i:Step}{base:Db}{t t':Target}
 (loaded:load db targetId expectedVersion=.ok t)(requests:base.requests=db.requests)
 (targets:base.targets=db.targets)(edit:Edit i t t') :
 Outside i db (base.setTarget t'):=by
 refine (outside_setTarget (load_ok loaded).1 edit).then requests ?_
 unfold Db.setTarget
 rw[targets]

lemma approve_outside (h:approve policy targetId expectedVersion db=.ok db') :
 Outside (.approve targetId expectedVersion) db db':=by
 obtain ⟨t,loaded,pending,rfl⟩:=approve_ok h
 obtain ⟨_,rfl,rfl⟩:=load_ok loaded
 exact setTarget_outside loaded rfl rfl (.approved t pending)

lemma correct_outside {emailAddress:Option String}{verified:Bool}{message:Rendered}
 (h:correct policy targetId expectedVersion emailAddress verified message db=.ok db') :
 Outside (.correct targetId expectedVersion emailAddress verified message) db db':=by
 obtain ⟨t,base,email,mx,loaded,open',requests,targets,rfl⟩:=correct_ok h
 obtain ⟨_,rfl,rfl⟩:=load_ok loaded
 exact setTarget_outside loaded requests targets
  (.corrected t emailAddress verified message email mx open')

lemma reject_outside {reason:RejectionReason}{at':ℕ}
 (h:reject targetId expectedVersion reason at' db=.ok db') :
 Outside (.reject targetId expectedVersion reason at') db db':=by
 obtain ⟨t,base,loaded,open',requests,targets,rfl⟩:=reject_ok h
 obtain ⟨_,rfl,rfl⟩:=load_ok loaded
 exact setTarget_outside loaded requests targets (.rejected t reason at' open')

lemma regenerate_outside (message:String→Rendered)(db:Db) :
 Outside (.regeneratePendingMail message) db (regeneratePendingMail message db):=by
 let revise:=fun t:Target=>
  {Target.unbound (Target.rendered t (message t.targetId)) with version:=t.version+1}
 let pending:=fun t:Target=>decide (t.status=.pendingReview)||decide (t.status=.approved)
 have edit:∀t,Edit (.regeneratePendingMail message) t (if pending t then revise t else t):=by
  intro t
  split
  · rename_i status
    exact .regenerated t message (by simpa[pending] using status)
  · exact .same _ t
 refine ⟨rfl,Tables.map_key_update fun _ _ _=>rfl,fun targetId=>?_⟩
 have read:(regeneratePendingMail message db).target? targetId =
   (db.target? targetId).map fun t=>if pending t then revise t else t:=
  Tables.find?_update_where (p:=pending) (f:=revise) (fun _=>rfl) targetId
 rw[read]
 cases db.target? targetId with
 | none=>exact .none
 | some t=>exact .some (edit t)

lemma recordOptOut_tables (payload:WebhookPayload)(t:Target)(receivedAt:ℕ)(db:Db) :
 (recordOptOut policy payload t receivedAt db).requests=db.requests ∧
  (recordOptOut policy payload t receivedAt db).targets=db.targets:=by
 unfold recordOptOut
 split <;> exact ⟨rfl,rfl⟩

lemma ingest_outside {payload:WebhookPayload}{receivedAt:ℕ}
 (keys:(db.targets.map (·.targetId)).Nodup)
 (h:ingestPayload policy payload receivedAt db=some db') :
 Outside (.ingest payload receivedAt) db db':=by
 unfold ingestPayload at h
 split at h
 · cases h
 · dsimp only at h
   split at h
   · cases h
   · generalize eq:(if db.deliveryEvents.any (·.fingerprint=payload.fingerprint)=true then db
      else _)=recorded at h
     have requests:recorded.requests=db.requests:=by
      rw[←eq]
      split <;> rfl
     have targets:recorded.targets=db.targets:=by
      rw[←eq]
      split <;> rfl
     split at h
     · obtain rfl:=Option.some.inj h
       exact (Outside.refl _ db).then requests targets
     · rename_i t bound
       have mem:t∈db.targets:=by
        split at bound
        · exact List.mem_of_mem_filter (List.mem_of_head? bound)
        · cases bound
       have found:db.target? t.targetId=some t:=Tables.find?_of_mem keys mem
       obtain rfl:=Option.some.inj h
       have edited:=outside_setTarget found (.projected t payload receivedAt
        (targetValues t (eventsOf recorded t.targetId)).delivery)
       have projected:Outside (.ingest payload receivedAt) db
         (recorded.setTarget (targetValues t (eventsOf recorded t.targetId))):=by
        refine edited.then requests ?_
        unfold Db.setTarget
        rw[targets]
        rfl
       split
       · exact projected
       · obtain ⟨requests',targets'⟩:=recordOptOut_tables payload t receivedAt
          (recorded.setTarget (targetValues t (eventsOf recorded t.targetId)))
         exact projected.then requests' targets'

lemma suppress_outside {siren:String}{known:Bool}{receivedAt:ℕ}
 (h:suppress policy siren known receivedAt db=some db') :
 Outside (.suppress siren known receivedAt) db db':=by
 unfold suppress at h
 cases read:db.directory siren with
 | none=>simp[read] at h
 | some row =>
  rw[read] at h
  obtain rfl:=Option.some.inj h
  exact (Outside.refl _ db).then rfl rfl

lemma audit_outside {observedAt:ℕ} (h:auditConfirmedDomains policy observedAt db=some db') :
 Outside (.audit observedAt) db db':=by
 unfold auditConfirmedDomains at h
 split at h
 · cases h
 · obtain rfl:=Option.some.inj h
   exact (Outside.refl _ db).then rfl rfl

end

section
variable (policy:Policy)(st:System)

inductive Stepped:Step→System→Prop where
 | kept (i:Step):Stepped i st
 | outside (i:Step)(db:Db)(edited:Outside i st.db db):Stepped i {st with db}
 | conflicted (c:SendCommand)(at':ℕ)(around:Surroundings)(targets:List Target)
   (r:SendRequest)(checked:checkBatch policy c at' around st.db=.ok targets)
   (unseen:lookUp st.db c at' around=none)
   (there:st.db.request? c.requestId=some r) :
   Stepped (.enqueueSend c at' around) {st with db:=setTargets st.db targets}
 | reserved (c:SendCommand)(at':ℕ)(around:Surroundings)(targets:List Target)
   (checked:checkBatch policy c at' around st.db=.ok targets)
   (fresh:st.db.request? c.requestId=none)
   (free:∀t∈targets,t.sendRequestId=none) :
   Stepped (.enqueueSend c at' around) {st with
    db:={ setTargets st.db (targets.map fun t=>{t with
      sendRequestId:=some c.requestId}) with
     requests:=newRequest c at'::st.db.requests}}
 | claimed (requestId:String)(now claimedAt:ℕ)(skipped:List String)(r claimedRow:SendRequest)
   (targetId:String)(found:st.db.request? requestId=some r)
   (claim:claimLocked r now claimedAt skipped st.nextLease=some (claimedRow,targetId)) :
   Stepped (.claim requestId now claimedAt skipped)
    { st.setWorker st.nextLease (some (ProspectProcess.claimed requestId targetId)) with
      db:=st.db.setRequest claimedRow
      nextLease:=st.nextLease+1}
 | worked (leaseId:ℕ)(o:Oracle)(st':System)(worked:Worked policy st leaseId o st') :
   Stepped (.work leaseId o) st'
 | crashed (leaseId:ℕ):Stepped (.crash leaseId) (st.setWorker leaseId none)

lemma after_stepped {i:Step}{answer:Except ActionError Db}
 (edited:∀db,answer=.ok db→Outside i st.db db) :
 Stepped policy st i {st with db:=after st.db answer}:=by
 cases answer with
 | error e=>exact .kept i
 | ok db=>exact .outside i db (edited db rfl)

lemma getD_stepped {i:Step}{answer:Option Db} (edited:∀db,answer=some db→Outside i st.db db) :
 Stepped policy st i {st with db:=answer.getD st.db}:=by
 cases answer with
 | none=>exact .kept i
 | some db=>exact .outside i db (edited db rfl)

lemma step_stepped (keys:(st.db.targets.map (·.targetId)).Nodup)(i:Step) :
 Stepped policy st i (step policy st i):=by
 cases i with
 | enqueueSend c at' around =>
  unfold step enqueueSend
  dsimp only
  split
  · exact .kept _
  · rename_i unseen
    split
    · exact .kept _
    · rename_i targets checked
      split
      · exact .conflicted c at' around targets _ checked unseen ‹_›
      · split
        · exact .kept _
        · rename_i free
          exact .reserved c at' around targets checked ‹_› (by simpa using free)
 | approve targetId expectedVersion =>exact after_stepped policy st fun _ h=>approve_outside h
 | correct targetId expectedVersion emailAddress verified message =>
  exact after_stepped policy st fun _ h=>correct_outside h
 | reject targetId expectedVersion reason at' =>
  exact after_stepped policy st fun _ h=>reject_outside h
 | regeneratePendingMail message=>exact .outside _ _ (regenerate_outside message st.db)
 | ingest payload receivedAt=>exact getD_stepped policy st fun _ h=>ingest_outside keys h
 | suppress siren known receivedAt=>exact getD_stepped policy st fun _ h=>suppress_outside h
 | audit observedAt=>exact getD_stepped policy st fun _ h=>audit_outside h
 | claim requestId now claimedAt skipped =>
  unfold step claimStep
  dsimp only
  split
  · exact .kept _
  · rename_i r found
    split
    · exact .kept _
    · rename_i claimedRow targetId claim
      exact .claimed requestId now claimedAt skipped r claimedRow targetId found claim
 | work leaseId o=>exact .worked leaseId o _ (workStep_worked policy st leaseId o)
 | crash leaseId=>exact .crashed leaseId

end

lemma stepped_effect {policy:Policy}{st st':System}{i:Step}
 (stepped:Stepped policy st i st'):st'.provider=st.provider ∨
  ∃leaseId o w s s',i=.work leaseId o ∧ st.workers leaseId=some w ∧
   openGuard st.db leaseId w.requestId w.targetId=some s ∧
   Reached w.targetId o.now s s' ∧
   Effect policy.casefold o w s' st.provider st'.provider:=by
 cases stepped with
 | worked leaseId o st' worked =>
  cases worked with
  | absent | stopped | counted=>exact .inl rfl
  | dropped w s t held opened way =>
   obtain ⟨s',reached,effect⟩:=way_effect way
   exact .inr ⟨leaseId,o,w,s,s',rfl,held,opened,reached,effect⟩
  | turned w s t phase held opened way turn =>
   obtain ⟨s',reached,effect⟩:=way_effect way
   exact .inr ⟨leaseId,o,w,s,s',rfl,held,opened,reached,effect⟩
  | committed w s s₁ next p' operations held opened way =>
   obtain ⟨s',reached,effect⟩:=way_effect way
   exact .inr ⟨leaseId,o,w,s,s',rfl,held,opened,reached,effect⟩
 | _=>exact .inl rfl

lemma setTargets_tables (targets:List Target)(db:Db) :
 (setTargets db targets).requests=db.requests ∧
  (setTargets db targets).targets.map (·.targetId)=db.targets.map (·.targetId):=by
 induction targets generalizing db with
 | nil=>exact ⟨rfl,rfl⟩
 | cons t targets ih =>
  obtain ⟨requests,keys⟩:=ih (db.setTarget t)
  exact ⟨requests,keys.trans (setTarget_keys db t)⟩

def Keyed (st:System):Prop:=(st.db.targets.map (·.targetId)).Nodup

lemma step_keyed (policy:Policy)(st:System)(i:Step)(h:Keyed st) : Keyed (step policy st i):=by
 have stepped:=step_stepped policy st h i
 generalize step policy st i=st' at stepped
 unfold Keyed at h ⊢
 cases stepped with
 | kept | claimed | crashed=>exact h
 | outside _ db edited =>
  rw[edited.keys]
  exact h
 | conflicted c at' around targets r _ _ _ =>
  rw[(setTargets_tables targets st.db).2]
  exact h
 | reserved c at' around targets _ _ _ =>
  rw[(setTargets_tables _ st.db).2]
  exact h
 | worked leaseId o st' worked =>
  cases worked with
  | absent | stopped | counted | dropped | turned=>exact h
  | committed w s s' next p' operations held opened way =>
   dsimp only[closeGuard]
   rw[setTarget_keys]
   exact h

def samplePolicy:Policy where
 casefold:=id
 sqlLower:=id
 rejectedSupplierDomain domain:=domain="annuaire.fr"
 isPlaceholderEmail _:=false
 isConsumerMailbox _:=false
 suppressionIdentity:=id

def sampleMail:Mail:=⟨"Objet","Texte","<p>Texte</p>"⟩

def sampleTarget (targetId siren:String):Target where
 targetId
 version:=0
 siren
 opportunityKey:="opportunity"
 emailAddress:="contact@"++siren++".fr"
 mxVerified:=true
 mail:=sampleMail
 mailContractPassed:=true
 status:=.approved
 delivery:=⟨.notSent,none,none,none,none,none,none,none⟩
 providerCampaignId:=none
 instantlyId:=none
 sendRequestId:=none
 instantlyCreditUnits:=0
 instantlyRequestCount:=0

def sampleDirectory (siren:String):Option DirectoryRow:=
 some ⟨some (siren++".fr"),some "site",some ("contact@"++siren++".fr"),none,none⟩

def sampleOpening:Opening where
 targets:=[sampleTarget "t1" "alpha",sampleTarget "t2" "beta",sampleTarget "t3" "alpha"]
 directory:=sampleDirectory
 suppressions:=[]
 keys:=by decide
 unreserved:=by simp[sampleTarget]

def sampleCommand (requestId targetId:String)(named:requestId≠""):SendCommand where
 requestId
 targets:=[(targetId,0)]
 named
 nonempty:=by simp
 atMost:=by simp
 distinct:=by simp

lemma sampleRequest_named:"r1"≠"":=by decide

def sampleAround:Surroundings:=⟨false,false,false,fun _=>⟨sampleMail,true⟩⟩

def sampleOracle:Oracle where
 now:=0
 renewedAt:=0
 killSwitch:=false
 campaigns _:=some ⟨[],none⟩
 leads _:=some ⟨[],none⟩
 fate:=.delivered
 newId:="new"
 leadStatus:=some (some 1)
 campaignActive:=some false
 transaction:=.commit

def sampleSteps (works:ℕ):List Step:=
 .enqueueSend (sampleCommand "r1" "t1" (by decide)) 0 sampleAround::.claim "r1" 0 0 [] ::
  List.replicate works (.work 0 sampleOracle)

end Kivou.ProspectRuns
