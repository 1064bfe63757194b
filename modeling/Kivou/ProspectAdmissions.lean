import Kivou.ProspectExposure

set_option autoImplicit false

/-! A reservation admits a target whose address is not suppressed and whose company is live in the
directory. -/
namespace Kivou.ProspectAdmissions
open ProspectRecords ProspectDelivery ProspectWorker ProspectProcess ProspectActions ProspectRuns
open ProspectOptOuts ProspectLeases ProspectStranding ProspectGuards ProspectReservations
open ProspectAccounting ProspectBindings ProspectExposure

structure Admitted (policy:Policy)(db:Db)(t:Target):Prop where
 unsuppressed:∀s∈db.suppressions,s.identity≠policy.suppressionIdentity t.emailAddress
 live:liveDirectoryContact policy t (db.directory t.siren)=true

def Takes (r:SendRequest)(item:SendItem)(t:Target):Prop:=
 item.status.isTerminal=false ∧ t.version=item.expectedVersion ∨
  item.status=.sent ∧ r.status.isFinal=false

def Engaged (db:Db)(t:Target):Prop:=
 ∃requestId r item,db.request? requestId=some r ∧ r.item? t.targetId=some item ∧ Takes r item t

/-- No target that is engaged loses its gates to this step: a writer of opt-outs
does not meet its company or its address, unless it raises the version of the
target itself while its item is pending. -/
def Spares (policy:Policy)(st:System):Step→Prop
 | .enqueueSend c at' _=>∀entry∈c.targets,∀t,st.db.target? entry.1=some t →
   ∀s∈st.db.suppressions,s.identity=policy.suppressionIdentity t.emailAddress →s.effectiveAt≤at'
 | .correct targetId expectedVersion emailAddress _ _=>∀email,emailAddress=some email →
   ∀own,st.db.target? targetId=some own → own.version=expectedVersion →
    own.status≠.sent→∀t,st.db.target? t.targetId=some t→Engaged st.db t →
     t.targetId≠targetId→t.siren=own.siren →
      policy.casefold (policy.casefold email)=policy.casefold t.emailAddress
 | .reject targetId expectedVersion reason _=>reason=.wrongAddress →
   ∀own,st.db.target? targetId=some own → own.version=expectedVersion →
    own.status=.pendingReview ∨ own.status=.approved →
    ∀t,st.db.target? t.targetId=some t→Engaged st.db t →t.targetId≠targetId→t.siren≠own.siren
 | .ingest payload receivedAt =>
   receivedAt≤payload.timestamp+maxEventSkew→payload.timestamp≤receivedAt+maxEventSkew →
   st.db.deliveryEvents.any (·.fingerprint=payload.fingerprint)=false →
   ∀own,boundTargets policy payload st.db.targets=[own] →
    ∀t,st.db.target? t.targetId=some t→Engaged st.db t →t.targetId≠own.targetId ∨ t.status=.sent →
     (payload.eventType=some .emailBounced→t.siren≠own.siren) ∧
     (payload.eventType=some .leadUnsubscribed→t.siren≠own.siren ∧
      policy.suppressionIdentity t.emailAddress ≠policy.suppressionIdentity own.emailAddress)
 | .suppress siren known _=>∀row,st.db.directory siren=some row →
   ∀t,st.db.target? t.targetId=some t→Engaged st.db t→t.siren≠siren ∧
    (known=true→∀email,row.professionalEmail=some email →
     policy.suppressionIdentity email≠policy.suppressionIdentity t.emailAddress)
 | _=>True

section
variable {policy:Policy}{db db':Db}{targetId:String}{expectedVersion:ℕ}

def Unwritten (db db':Db):Prop:=db'.directory=db.directory ∧ db'.suppressions=db.suppressions

lemma setTargets_unwritten (targets:List Target)(db:Db) : Unwritten db (setTargets db targets):=by
 induction targets generalizing db with
 | nil=>exact ⟨rfl,rfl⟩
 | cons t targets ih=>exact ih (db.setTarget t)

lemma enqueueSend_unwritten (c:SendCommand)(at':ℕ)(around:Surroundings) :
 Unwritten db (enqueueSend policy c at' around db).2:=by
 unfold enqueueSend
 split
 · exact ⟨rfl,rfl⟩
 · split
   · exact ⟨rfl,rfl⟩
   · split
     · exact setTargets_unwritten _ db
     · split
       · exact ⟨rfl,rfl⟩
       · exact setTargets_unwritten _ db

lemma written_version {db:Db}{t t':Target}{targetId:String}{version:ℕ}
 (read:(db.setTarget t).target? targetId=some t')(id:t.targetId=targetId)
 (is:t.version=version):t'.version=version:=by
 rw[Db.target?_setTarget,if_pos id.symm] at read
 obtain ⟨_,_,rfl⟩:=Option.map_eq_some_iff.mp read
 exact is

lemma correct_written {emailAddress:Option String}{verified:Bool}{message:Rendered}
 (h:correct policy targetId expectedVersion emailAddress verified message db=.ok db') :
 ∃own,db.target? targetId=some own ∧ own.version=expectedVersion ∧ own.status≠.sent ∧
  (∀t',db'.target? targetId=some t'→t'.version=own.version+1) ∧
  db'.suppressions=db.suppressions ∧ ∀siren,db'.directory siren=db.directory siren ∨
   siren=own.siren ∧ ∃email,emailAddress=some email ∧
    db'.directory siren=(db.directory siren).map fun row=>{row with
     professionalEmail:=some (policy.casefold email)}:=by
 obtain ⟨own,loaded,h⟩:=PythonValues.bind_ok.mp h
 obtain ⟨found,id,version⟩:=load_ok loaded
 simp only[bind,Except.bind,pure,Except.pure,throw,throwThe,MonadExceptOf.throw] at h
 split at h
 · cases h
 · rename_i unsent
   refine ⟨own,id ▸ found,version,unsent,?_⟩
   cases emailAddress with
   | none =>
    obtain rfl:=Except.ok.inj h
    exact ⟨fun t' read=>written_version read id rfl,rfl,fun siren=>.inl rfl⟩
   | some email =>
    obtain rfl:=Except.ok.inj h
    refine ⟨fun t' read=>written_version read id rfl,rfl,fun siren=>?_⟩
    by_cases mine:siren=own.siren
    · exact .inr ⟨mine,email,rfl,if_pos mine⟩
    · exact .inl (if_neg mine)

lemma reject_written {reason:RejectionReason}{at':ℕ}
 (h:reject targetId expectedVersion reason at' db=.ok db') :
 ∃own,db.target? targetId=some own ∧ own.version=expectedVersion ∧
  (own.status=.pendingReview ∨ own.status=.approved) ∧
  (∀t',db'.target? targetId=some t'→t'.version=own.version+1) ∧
  db'.suppressions=db.suppressions ∧ ∀siren,db'.directory siren=db.directory siren ∨
   reason=.wrongAddress ∧ siren=own.siren ∧
    db'.directory siren=(db.directory siren).map fun row=>{row with
     reverificationRequiredAt:=some at'}:=by
 obtain ⟨own,loaded,h⟩:=PythonValues.bind_ok.mp h
 obtain ⟨found,id,version⟩:=load_ok loaded
 simp only[bind,Except.bind,pure,Except.pure,throw,throwThe,MonadExceptOf.throw] at h
 split at h
 · cases h
 · rename_i status
   obtain rfl:=Except.ok.inj h
   refine ⟨own,id ▸ found,version,by tauto,fun t' read=>written_version read id rfl,?_⟩
   split
   · rename_i wrong
     refine ⟨rfl,fun siren=>?_⟩
     by_cases mine:siren=own.siren
     · exact .inr ⟨wrong,mine,if_pos mine⟩
     · exact .inl (if_neg mine)
   · exact ⟨rfl,fun siren=>.inl rfl⟩

inductive Recorded (policy:Policy)(payload:WebhookPayload)(receivedAt:ℕ)(db db':Db) : Prop where
 | unwritten (same:Unwritten db db')
 | bounced (own:Target)(bound:boundTargets policy payload db.targets=[own])
   (fresh:db.deliveryEvents.any (·.fingerprint=payload.fingerprint)=false)
   (type:payload.eventType=some .emailBounced)
   (raised:∀t',db'.target? own.targetId=some t'→t'.version=own.version+1)
   (suppressions:db'.suppressions=db.suppressions)
   (directory:∀siren,db'.directory siren=if siren=own.siren then
    (db.directory siren).map fun row=>{row with reverificationRequiredAt:=some receivedAt}
    else db.directory siren)
 | unsubscribed (own:Target)(bound:boundTargets policy payload db.targets=[own])
   (fresh:db.deliveryEvents.any (·.fingerprint=payload.fingerprint)=false)
   (type:payload.eventType=some .leadUnsubscribed)
   (raised:∀t',db'.target? own.targetId=some t'→t'.version=own.version+1)
   (suppressions:db'.suppressions =
    ⟨policy.suppressionIdentity own.emailAddress,payload.timestamp⟩::db.suppressions)
   (directory:∀siren,db'.directory siren=if siren=own.siren then
    (db.directory siren).map fun row=>{row with suppressedAt:=some receivedAt}
    else db.directory siren)

lemma ingest_recorded {payload:WebhookPayload}{receivedAt:ℕ}
 (h:ingestPayload policy payload receivedAt db=some db') :
 receivedAt≤payload.timestamp+maxEventSkew ∧ payload.timestamp≤receivedAt+maxEventSkew ∧
  Recorded policy payload receivedAt db db':=by
 unfold ingestPayload at h
 split at h
 · cases h
 · rename_i timely
   refine ⟨by omega,by omega,?_⟩
   dsimp only at h
   split at h
   · cases h
   · generalize eq:(if db.deliveryEvents.any (·.fingerprint=payload.fingerprint)=true then db
      else _)=recorded at h
     have same:Unwritten db recorded:=by
      rw[←eq]
      split <;> exact ⟨rfl,rfl⟩
     split at h
     · obtain rfl:=Option.some.inj h
       exact .unwritten same
     · rename_i own one
       split at one
       · rename_i single
         have bound:boundTargets policy payload db.targets=[own]:=by
          obtain ⟨only,is⟩:=List.length_eq_one_iff.mp single
          rw[is] at one ⊢
          rw[Option.some.inj one]
         obtain rfl:=Option.some.inj h
         split
         · exact .unwritten same
         · rename_i fresh
           rw[Bool.not_eq_true] at fresh
           unfold recordOptOut
           split
           · rename_i type
             refine .bounced own bound fresh type (fun t' read=>?_) same.2 fun siren=>?_
             · exact written_version read rfl rfl
             rw[←same.1]
             rfl
           · rename_i type
             refine .unsubscribed own bound fresh type (fun t' read=>?_) ?_ fun siren=>?_
             · exact written_version read rfl rfl
             · rw[←same.2]
               rfl
             · rw[←same.1]
               rfl
           · exact .unwritten same
       · cases one

lemma suppress_written {siren:String}{known:Bool}{receivedAt:ℕ}
 (h:suppress policy siren known receivedAt db=some db') :
 ∃row,db.directory siren=some row ∧ (∀s∈db'.suppressions,s∈db.suppressions ∨ known=true ∧
   ∃email,row.professionalEmail=some email ∧ s.identity=policy.suppressionIdentity email) ∧
  ∀other,db'.directory other=if other=siren then
   (db.directory other).map fun row=>{row with
    professionalEmail:=none,suppressedAt:=some receivedAt}
   else db.directory other:=by
 obtain ⟨row,found,rfl⟩:=Option.map_eq_some_iff.mp h
 refine ⟨row,found,fun s mem=>?_,fun other=>rfl⟩
 rcases List.mem_append.mp mem with new|old
 · obtain ⟨identity,there,rfl⟩:=List.mem_map.mp new
   split at there
   · rename_i is
     obtain ⟨email,own,rfl⟩:=List.mem_map.mp there
     exact .inr ⟨is,email,Option.mem_toList.mp own,rfl⟩
   · cases there
 · exact .inl old

lemma audit_written {observedAt:ℕ} (h:auditConfirmedDomains policy observedAt db=some db') :
 db'.suppressions=db.suppressions ∧ ∀siren,
  (∀row,db.directory siren=some row→blockedDomain policy row=false) →
   db'.directory siren=db.directory siren:=by
 unfold auditConfirmedDomains at h
 split at h
 · cases h
 · obtain rfl:=Option.some.inj h
   refine ⟨rfl,fun siren clean=>?_⟩
   dsimp only
   cases found:db.directory siren with
   | none=>rfl
   | some row=>simp only[Option.map_some,clean row found,Bool.false_eq_true,↓reduceIte]

end

structure Vetted (policy:Policy)(st:System) extends Exposed st where
 aged:∀requestId r targetId item t,st.db.request? requestId=some r →
  r.item? targetId=some item→item.status.isTerminal=false →
  st.db.target? targetId=some t→item.expectedVersion≤t.version
 settled:∀requestId r targetId item t,st.db.request? requestId=some r →
  r.item? targetId=some item→item.status=.sent→st.db.target? targetId=some t →
  t.status=.sent
 vetted:∀requestId r targetId item t,st.db.request? requestId=some r →
  r.item? targetId=some item→st.db.target? targetId=some t →
  ∀row,st.db.directory t.siren=some row → row.domain.any policy.rejectedSupplierDomain=false

structure Compliant (policy:Policy)(st:System) extends Vetted policy st where
 admitted:∀targetId t,st.db.target? targetId=some t→Engaged st.db t →Admitted policy st.db t

lemma start_vetted (policy:Policy)(opening:Opening):Vetted policy (start opening):=by
 refine ⟨start_exposed opening,?_,?_,?_⟩
 · intro requestId r targetId item t found
   cases found
 · intro requestId r targetId item t found
   cases found
 · intro requestId r targetId item t found
   cases found

lemma start_compliant (policy:Policy)(opening:Opening) : Compliant policy (start opening):=by
 refine ⟨start_vetted policy opening,?_⟩
 rintro targetId t _ ⟨requestId,r,item,found,_⟩
 cases found

section
variable {policy:Policy}{st:System}{c:SendCommand}{at':ℕ}{around:Surroundings} {targets:List Target}

variable {t t':Target}{targetId requestId:String}{i:Step}{r':SendRequest}
 {item':SendItem}{db db':Db}

lemma batch_admissible (checked:checkBatch policy c at' around st.db=.ok targets)
 (mem:t∈targets):∃before,(before.targetId,before.version)∈c.targets ∧
  st.db.target? before.targetId=some before ∧ admissible policy st.db at' before=.ok () ∧
  t=Target.unbound (Target.rendered before (around.message before.targetId)):=by
 obtain ⟨_,_,prepared⟩:=checkBatch_ok checked
 obtain ⟨entry,listed,before,reserved,gates,made⟩:=prepared_mem prepared mem
 obtain ⟨was,version,_⟩:=reservable_ok reserved
 have named:=(Db.target?_some was).2
 refine ⟨before,?_,by rw[named];exact was,gates,prepareTarget_ok made⟩
 rw[named,version]
 exact listed

lemma admissible_ok (h:admissible policy st.db at' t=.ok ()) :
 liveDirectoryContact policy t (st.db.directory t.siren)=true ∧
  isSuppressed policy st.db.suppressions t.emailAddress at'=false:=by
 unfold admissible at h
 simp only[bind,Except.bind,throw,throwThe,MonadExceptOf.throw] at h
 split at h
 · cases h
 · rename_i live
   refine ⟨by simpa using live,?_⟩
   split at h
   · cases h
   · split at h
     · cases h
     · split at h
       · cases h
       · split at h
         · cases h
         · rename_i clear
           exact Bool.eq_false_iff.mpr clear

lemma live_domain {row:DirectoryRow} (live:liveDirectoryContact policy t (some row)=true) :
 row.domain.any policy.rejectedSupplierDomain=false:=by
 simp only[liveDirectoryContact,Bool.and_eq_true] at live
 obtain ⟨⟨_,domain⟩,_⟩:=live
 cases known:row.domain with
 | none=>rfl
 | some domain' =>
  rw[known] at domain
  simpa using domain

lemma newRequest_item? (checked:checkBatch policy c at' around st.db=.ok targets)
 {item:SendItem}(own:(newRequest c at').item? targetId=some item) :
 item.status=.queued ∧ ∃before,st.db.target? targetId=some before ∧
  item.expectedVersion=before.version ∧ (targetId,before.version)∈c.targets ∧
  admissible policy st.db at' before=.ok () ∧
  (setTargets st.db (targets.map fun t=>{t with sendRequestId:=some c.requestId})).target?
   targetId=some { Target.unbound (Target.rendered before (around.message targetId)) with
    sendRequestId:=some c.requestId}:=by
 obtain ⟨mem,id⟩:=SendRequest.item?_some own
 obtain ⟨position,inside,rfl⟩:=List.mem_mapIdx.mp mem
 have listed:c.targets[position]∈c.targets:=List.getElem_mem inside
 have there:targetId∈c.targets.map Prod.fst:=List.mem_map.mpr ⟨_,listed,id⟩
 obtain ⟨_,_,prepared⟩:=checkBatch_ok checked
 refine ⟨rfl,?_⟩
 rcases batch_target? (f:=fun t=>{t with sendRequestId:=some c.requestId})
  (fun _=>rfl) prepared targetId with ⟨t,mem,named,read⟩ | ⟨absent,_⟩
 · obtain ⟨before,own',was,gates,rfl⟩:=batch_admissible checked mem
   obtain rfl:before.targetId=targetId:=named
   have same:(before.targetId,before.version)=c.targets[position]:=
    List.inj_on_of_nodup_map c.distinct own' listed id.symm
   refine ⟨before,was,?_,own',gates,read⟩
   rw[←same]
 · exact absurd there absent

lemma step_item (h:Exposed st)(found:(step policy st i).db.request? requestId=some r')
 (own:r'.item? targetId=some item')
 (read:(step policy st i).db.target? targetId=some t') :
 (∃r item t,st.db.request? requestId=some r ∧ r.item? targetId=some item ∧
   st.db.target? targetId=some t ∧ Continued st.db (step policy st i).db r r' ∧
   Advanced st.db (step policy st i).db targetId item item' ∧ Carried t t') ∨
  ∃c at' around before,i=.enqueueSend c at' around ∧
   (targetId,before.version)∈c.targets ∧ st.db.target? targetId=some before ∧
   admissible policy st.db at' before=.ok () ∧ item'.status=.queued ∧
   item'.expectedVersion=before.version ∧
   t'={ Target.unbound (Target.rendered before (around.message targetId)) with
    sendRequestId:=some c.requestId}:=by
 rcases step_request h.toReserved found with ⟨r,was,continued⟩ |
  ⟨c,at',around,targets,rfl,_,rfl,checked,_,rows⟩
 · obtain ⟨item,own₀,advanced⟩:=item?_of_continued continued own
   obtain ⟨t,read₀,_⟩:=h.promised requestId r targetId item was own₀
   obtain ⟨t'',read'',carried⟩:=step_carried policy i h.toReserved read₀
   obtain rfl:=Option.mem_unique read'' read
   exact .inl ⟨r,item,t,was,own₀,read₀,continued,advanced,carried⟩
 · obtain ⟨queued,before,was,expected,listed,gates,read'⟩:=newRequest_item? checked own
   rw[target?_congr rows,read'] at read
   exact .inr ⟨c,at',around,before,rfl,listed,was,gates,queued,expected,(Option.some.inj read).symm⟩

lemma step_aged (h:Vetted policy st)(i:Step)
 (found:(step policy st i).db.request? requestId=some r')
 (own:r'.item? targetId=some item')(live:item'.status.isTerminal=false)
 (read:(step policy st i).db.target? targetId=some t') :
 item'.expectedVersion≤t'.version:=by
 rcases step_item h.toExposed found own read with
  ⟨r,item,t,was,own₀,read₀,_,advanced,carried⟩ |
  ⟨c,at',around,before,_,_,_,_,_,expected,rfl⟩
 · rw[advanced.expected]
   exact (h.aged requestId r targetId item t was own₀ (advanced.live live) read₀).trans
    carried.version
 · exact expected.le

lemma step_settled (h:Vetted policy st)(i:Step)
 (found:(step policy st i).db.request? requestId=some r')
 (own:r'.item? targetId=some item')(sent:item'.status=.sent)
 (read:(step policy st i).db.target? targetId=some t'):t'.status=.sent:=by
 rcases step_item h.toExposed found own read with
  ⟨r,item,t,was,own₀,read₀,_,advanced,carried⟩ |
  ⟨c,at',around,before,_,_,_,_,queued,_⟩
 · rcases advanced.sent sent with before|⟨_,row,row',_,there',_,status,_⟩
   · exact (carried.sent (h.settled requestId r targetId item t was own₀ before read₀)).1
   · obtain rfl:=Option.mem_unique read there'
     exact status
 · rw[sent] at queued
   cases queued

lemma step_engaged (h:Vetted policy st)(i:Step)
 (read:(step policy st i).db.target? targetId=some t')
 (engaged:Engaged (step policy st i).db t') :
 (∃t,st.db.target? targetId=some t ∧ Engaged st.db t ∧ t'.siren=t.siren ∧
   t'.emailAddress=t.emailAddress ∧
   (t.status=.sent ∨ t'.version=t.version ∨ t'.status=.sent ∧ t.status≠.sent)) ∨
  ∃c at' around before,i=.enqueueSend c at' around ∧
   (targetId,before.version)∈c.targets ∧ st.db.target? targetId=some before ∧
   admissible policy st.db at' before=.ok () ∧ t'.siren=before.siren ∧
   t'.emailAddress=before.emailAddress:=by
 obtain ⟨requestId,r',item',found,own,takes⟩:=engaged
 rw[(Db.target?_some read).2] at own
 rcases step_item h.toExposed found own read with
  ⟨r,item,t,was,own₀,read₀,continued,advanced,carried⟩ |
  ⟨c,at',around,before,is,listed,there,gates,_,_,rfl⟩
 · have id:=(Db.target?_some read₀).2
   have owned:r.item? t.targetId=some item:=by rwa[id]
   refine .inl ⟨t,read₀,?_⟩
   rcases takes with ⟨live,version⟩|⟨sent,open'⟩
   · -- the item is pending, and was
     have live:=advanced.live live
     have expected:=advanced.expected
     have le:=h.aged requestId r targetId item t was own₀ live read₀
     have later:=carried.version
     have unmoved:t'.version=t.version:=by omega
     have contact':=carried.same (h.holds was own₀ live read₀).2.1 unmoved
     exact ⟨⟨requestId,r,item,was,owned,.inl ⟨live,by omega⟩⟩,congrArg (·.2.1) contact',
      congrArg (·.2.2.2.1) contact',.inr (.inl unmoved)⟩
   · rcases advanced.sent sent with before|⟨live,row,row',there,there',version,status,contact'⟩
     · have past:=h.settled requestId r targetId item t was own₀ before read₀
       have contact':=(carried.sent past).2
       have still:r.status.isFinal=false:=by
        refine Bool.eq_false_iff.mpr fun final=>?_
        rw[continued.final final] at open'
        cases open'
       exact ⟨⟨requestId,r,item,was,owned,.inr ⟨before,still⟩⟩,congrArg (·.2.1) contact',
        congrArg (·.2.2.2.1) contact',.inl past⟩
     · obtain rfl:=Option.mem_unique read₀ there
       obtain rfl:=Option.mem_unique read there'
       have unsent:=(h.holds was own₀ live read₀).2.2
       exact ⟨⟨requestId,r,item,was,owned,.inl ⟨live,version⟩⟩,congrArg (·.2.1) contact',
        congrArg (·.2.2.2.1) contact',.inr (.inr ⟨status,unsent⟩)⟩
 · exact .inr ⟨c,at',around,before,is,listed,there,gates,rfl,rfl⟩

lemma contact_live (email:t'.emailAddress=t.emailAddress) (row:Option DirectoryRow) :
 liveDirectoryContact policy t' row=liveDirectoryContact policy t row:=by
 unfold liveDirectoryContact
 rw[email]

lemma Admitted.written (h:Admitted policy db t)
 (siren:t'.siren=t.siren)(email:t'.emailAddress=t.emailAddress)
 (suppressions:∀s∈db'.suppressions,s∈db.suppressions ∨
  s.identity≠policy.suppressionIdentity t.emailAddress)
 (directory:db'.directory t.siren=db.directory t.siren ∨
  liveDirectoryContact policy t (db'.directory t.siren)=true) :
 Admitted policy db' t':=by
 refine ⟨fun s mem=>?_,?_⟩
 · rw[email]
   rcases suppressions s mem with old|other
   · exact h.unsuppressed s old
   · exact other
 · rw[contact_live email,siren]
   rcases directory with same|live
   · rw[same]
     exact h.live
   · exact live

lemma Admitted.unwritten (h:Admitted policy db t)
 (siren:t'.siren=t.siren)(email:t'.emailAddress=t.emailAddress)
 (same:Unwritten db db'):Admitted policy db' t':=
 h.written siren email (fun s mem=>.inl (by rw[←same.2];exact mem)) (.inl (by rw[same.1]))

def Neutral:Step→Prop
 | .correct .. | .reject .. | .ingest .. | .suppress .. | .audit _=>False
 | _=>True

lemma neutral_unwritten (st:System)(neutral:Neutral i) : Unwritten st.db (step policy st i).db:=by
 cases i with
 | enqueueSend c at' around=>exact enqueueSend_unwritten c at' around
 | approve targetId expectedVersion =>
  change Unwritten st.db (after st.db (approve policy targetId expectedVersion st.db))
  cases answer:approve policy targetId expectedVersion st.db with
  | error e=>exact ⟨rfl,rfl⟩
  | ok db =>
   obtain ⟨t,_,_,rfl⟩:=approve_ok answer
   exact ⟨rfl,rfl⟩
 | regeneratePendingMail | crash=>exact ⟨rfl,rfl⟩
 | claim requestId now claimedAt skipped =>
  change Unwritten st.db (claimStep st requestId now claimedAt skipped).db
  unfold claimStep
  split
  · exact ⟨rfl,rfl⟩
  · split <;> exact ⟨rfl,rfl⟩
 | work leaseId o =>
  have worked:=workStep_worked policy st leaseId o
  change Unwritten st.db (workStep policy st leaseId o).db
  generalize workStep policy st leaseId o=st' at worked
  cases worked <;> exact ⟨rfl,rfl⟩
 | correct | reject | ingest | suppress | audit=>exact neutral.elim

lemma outside_unsent (edited:Outside i db db')(read:db.target? targetId=some t)
 (read':db'.target? targetId=some t'):¬(t'.status=.sent ∧ t.status≠.sent):=by
 rintro ⟨sent,unsent⟩
 have edit:=edited.targets targetId
 rw[read,read'] at edit
 cases edit with
 | some edit=>exact (edit_held edit).2 unsent sent

lemma live_readdressed {row:Option DirectoryRow}{email:String}
 (live:liveDirectoryContact policy t row=true)
 (same:policy.casefold (policy.casefold email)=policy.casefold t.emailAddress) :
 liveDirectoryContact policy t (row.map fun row=>{row with
  professionalEmail:=some (policy.casefold email)})=true:=by
 cases row with
 | none=>cases live
 | some row =>
  simp only[liveDirectoryContact,Bool.and_eq_true] at live
  simp only[Option.map_some,liveDirectoryContact,Bool.and_eq_true]
  exact ⟨live.1,by simpa using same⟩

lemma step_spared (h:Compliant policy st)(spares:Spares policy st i)
 (read:st.db.target? targetId=some t)
 (engaged:Engaged st.db t)(read':(step policy st i).db.target? targetId=some t')
 (siren:t'.siren=t.siren)(email:t'.emailAddress=t.emailAddress)
 (stays:t.status=.sent ∨ t'.version=t.version ∨ t'.status=.sent ∧ t.status≠.sent) :
 Admitted policy (step policy st i).db t':=by
 have admitted:=h.admitted targetId t read engaged
 have id:=(Db.target?_some read).2
 have own:st.db.target? t.targetId=some t:=by rwa[id]
 cases i with
 | enqueueSend | approve | regeneratePendingMail | claim | work | crash =>
  exact admitted.unwritten siren email (neutral_unwritten st trivial)
 | correct targetId' expectedVersion emailAddress verified message =>
  change Admitted policy (after st.db _) t'
  change (after st.db _).target? targetId=some t' at read'
  cases answer:correct policy targetId' expectedVersion emailAddress verified message st.db with
  | error e=>exact admitted.unwritten siren email ⟨rfl,rfl⟩
  | ok db' =>
   rw[answer] at read'
   obtain ⟨target,found,version,unsent,raised,same,directory⟩:=correct_written answer
   have other:t.targetId≠targetId':=by
    rintro rfl
    obtain rfl:=Option.mem_unique found own
    have newer:=raised t' (by rw[id];exact read')
    rcases stays with sent|kept|moved
    · exact unsent sent
    · omega
    · exact outside_unsent (correct_outside answer) read read' moved
   refine admitted.written siren email (fun s mem=>.inl (by rw[←same];exact mem)) ?_
   rcases directory t.siren with kept|⟨mine,address,given,written⟩
   · exact .inl kept
   · refine .inr ?_
     have spared:=spares address given target found version unsent t own engaged other mine
     exact (congrArg _ written).trans (live_readdressed admitted.live spared)
 | reject targetId' expectedVersion reason at' =>
  change Admitted policy (after st.db _) t'
  change (after st.db _).target? targetId=some t' at read'
  cases answer:reject targetId' expectedVersion reason at' st.db with
  | error e=>exact admitted.unwritten siren email ⟨rfl,rfl⟩
  | ok db' =>
   rw[answer] at read'
   obtain ⟨target,found,version,open',raised,same,directory⟩:=reject_written answer
   have other:t.targetId≠targetId':=by
    rintro rfl
    obtain rfl:=Option.mem_unique found own
    have newer:=raised t' (by rw[id];exact read')
    rcases stays with sent|kept|moved
    · rcases open' with open' | open' <;> rw[sent] at open' <;> cases open'
    · omega
    · exact outside_unsent (reject_outside answer) read read' moved
   refine admitted.written siren email (fun s mem=>.inl (by rw[←same];exact mem)) ?_
   rcases directory t.siren with kept|⟨wrong,mine,_⟩
   · exact .inl kept
   · exact absurd mine (spares wrong target found version open' t own engaged other)
 | ingest payload receivedAt =>
  change Admitted policy (Option.getD _ st.db) t'
  change (Option.getD _ st.db).target? targetId=some t' at read'
  cases answer:ingestPayload policy payload receivedAt st.db with
  | none=>exact admitted.unwritten siren email ⟨rfl,rfl⟩
  | some db' =>
   rw[answer] at read'
   obtain ⟨early,late,recorded⟩:=ingest_recorded answer
   -- the event is about another target, or about one that is sent
   have other:∀target:Target,
     (∀row,db'.target? target.targetId=some row → row.version=target.version+1) →
     target∈st.db.targets→t.targetId≠target.targetId ∨ t.status=.sent:=by
    intro target raised mem
    refine or_iff_not_imp_left.mpr fun same=>?_
    have found:st.db.target? target.targetId=some target:=Tables.find?_of_mem h.keyed mem
    rw[←not_not.mp same,own] at found
    obtain rfl:=Option.some.inj found
    have newer:=raised t' (by rw[id];exact read')
    rcases stays with sent|kept|moved
    · exact sent
    · omega
    · exact absurd moved (outside_unsent (ingest_outside h.keyed answer) read read')
   cases recorded with
   | unwritten same=>exact admitted.unwritten siren email same
   | bounced target bound fresh type raised same directory =>
    have mem:target∈st.db.targets:=List.mem_of_mem_filter (bound ▸ List.mem_singleton_self _)
    have spared:=spares early late fresh target bound t own engaged (other target raised mem)
    refine admitted.written siren email (fun s mem=>.inl (by rw[←same];exact mem)) (.inl ?_)
    exact (directory t.siren).trans (if_neg (spared.1 type))
   | unsubscribed target bound fresh type raised same directory =>
    have mem:target∈st.db.targets:=List.mem_of_mem_filter (bound ▸ List.mem_singleton_self _)
    have spared:=spares early late fresh target bound t own engaged (other target raised mem)
    obtain ⟨company,address⟩:=spared.2 type
    refine admitted.written siren email (fun s mem=>?_) (.inl ?_)
    · change s∈db'.suppressions at mem
      rw[same] at mem
      rcases List.mem_cons.mp mem with rfl|mem
      · exact .inr address.symm
      · exact .inl mem
    · exact (directory t.siren).trans (if_neg company)
 | suppress siren' known receivedAt =>
  change Admitted policy (Option.getD _ st.db) t'
  cases answer:suppress policy siren' known receivedAt st.db with
  | none=>exact admitted.unwritten siren email ⟨rfl,rfl⟩
  | some db' =>
   obtain ⟨row,found,suppressions,directory⟩:=suppress_written answer
   obtain ⟨company,address⟩:=spares row found t own engaged
   refine admitted.written siren email (fun s mem=>?_) (.inl ?_)
   · rcases suppressions s mem with old|⟨is,email',known',identity⟩
     · exact .inl old
     · exact .inr (by rw[identity];exact address is email' known')
   · exact (directory t.siren).trans (if_neg company)
 | audit observedAt =>
  change Admitted policy (Option.getD _ st.db) t'
  cases answer:auditConfirmedDomains policy observedAt st.db with
  | none=>exact admitted.unwritten siren email ⟨rfl,rfl⟩
  | some db' =>
   obtain ⟨same,directory⟩:=audit_written answer
   refine admitted.written siren email (fun s mem=>.inl (by rw[←same];exact mem))
    (.inl (directory t.siren fun row found=>?_))
   have live:=admitted.live
   rw[found] at live
   unfold blockedDomain
   rw[live_domain live,Bool.and_false]

lemma step_admitted (h:Compliant policy st)(spares:Spares policy st i)
 (read:(step policy st i).db.target? targetId=some t')
 (engaged:Engaged (step policy st i).db t'):Admitted policy (step policy st i).db t':=by
 rcases step_engaged h.toVetted i read engaged with ⟨t,was,before,siren,email,stays⟩ |
  ⟨c,at',around,before,rfl,listed,was,gates,siren,email⟩
 · exact step_spared h spares was before read siren email stays
 · obtain ⟨live,clear⟩:=admissible_ok gates
   have admitted:Admitted policy st.db before:=by
    refine ⟨fun s mem identity=>?_,live⟩
    have effective:=spares _ listed before was s mem identity
    have blocked:isSuppressed policy st.db.suppressions before.emailAddress at'=true:=
     List.any_eq_true.mpr ⟨s,mem,by simp[identity,effective]⟩
    rw[clear] at blocked
    cases blocked
   exact admitted.unwritten siren email (neutral_unwritten st trivial)

def Domains (db db':Db):Prop:=∀siren row',db'.directory siren=some row' →
  ∃row,db.directory siren=some row ∧ (row'.domain=row.domain ∨ row'.domain=none)

lemma Domains.of_rows {f:DirectoryRow→DirectoryRow}
 (rows:∀siren,db'.directory siren=db.directory siren ∨
  db'.directory siren=(db.directory siren).map f)
 (kept:∀row,(f row).domain=row.domain):Domains db db':=by
 intro siren row' found
 rcases rows siren with same|written
 · exact ⟨row',same ▸ found,.inl rfl⟩
 · rw[written] at found
   obtain ⟨row,was,rfl⟩:=Option.map_eq_some_iff.mp found
   exact ⟨row,was,.inl (kept row)⟩

lemma Domains.of_unwritten (same:Unwritten db db'):Domains db db':=
 Domains.of_rows (f:=id) (fun siren=>.inl (by rw[same.1])) fun _=>rfl

lemma Domains.of_company {f:DirectoryRow→DirectoryRow}{own:String}
 (rows:∀siren,db'.directory siren =
  if siren=own then (db.directory siren).map f else db.directory siren)
 (kept:∀row,(f row).domain=row.domain):Domains db db':=by
 refine Domains.of_rows (fun siren=>?_) kept
 rw[rows siren]
 split
 · exact .inr rfl
 · exact .inl rfl

lemma step_domains (policy:Policy)(st:System)(i:Step) : Domains st.db (step policy st i).db:=by
 have refl:Domains st.db st.db:=.of_unwritten ⟨rfl,rfl⟩
 cases i with
 | enqueueSend | approve | regeneratePendingMail | claim | work | crash =>
  exact .of_unwritten (neutral_unwritten st trivial)
 | correct targetId expectedVersion emailAddress verified message =>
  change Domains st.db (after st.db _)
  cases answer:correct policy targetId expectedVersion emailAddress verified message st.db with
  | error e=>exact refl
  | ok db' =>
   obtain ⟨own,_,_,_,_,_,directory⟩:=correct_written answer
   intro siren row' found
   change db'.directory siren=some row' at found
   rcases directory siren with same|⟨_,email,_,written⟩
   · exact ⟨row',same ▸ found,.inl rfl⟩
   · rw[written] at found
     obtain ⟨row,was,rfl⟩:=Option.map_eq_some_iff.mp found
     exact ⟨row,was,.inl rfl⟩
 | reject targetId expectedVersion reason at' =>
  change Domains st.db (after st.db _)
  cases answer:reject targetId expectedVersion reason at' st.db with
  | error e=>exact refl
  | ok db' =>
   obtain ⟨own,_,_,_,_,_,directory⟩:=reject_written answer
   have rows:=fun siren=>(directory siren).imp_right (·.2.2)
   exact .of_rows rows fun _=>rfl
 | ingest payload receivedAt =>
  change Domains st.db (Option.getD _ st.db)
  cases answer:ingestPayload policy payload receivedAt st.db with
  | none=>exact refl
  | some db' =>
   cases (ingest_recorded answer).2.2 with
   | unwritten same=>exact .of_unwritten same
   | bounced own _ _ _ _ _ directory=>exact .of_company directory fun _=>rfl
   | unsubscribed own _ _ _ _ _ directory=>exact .of_company directory fun _=>rfl
 | suppress siren known receivedAt =>
  change Domains st.db (Option.getD _ st.db)
  cases answer:suppress policy siren known receivedAt st.db with
  | none=>exact refl
  | some db' =>
   obtain ⟨_,_,_,directory⟩:=suppress_written answer
   exact .of_company directory fun _=>rfl
 | audit observedAt =>
  change Domains st.db (Option.getD _ st.db)
  cases answer:auditConfirmedDomains policy observedAt st.db with
  | none=>exact refl
  | some db' =>
   unfold auditConfirmedDomains at answer
   split at answer
   · cases answer
   · obtain rfl:=Option.some.inj answer
     intro siren row' found
     obtain ⟨row,was,rfl⟩:=Option.map_eq_some_iff.mp found
     refine ⟨row,was,?_⟩
     split
     · exact .inr rfl
     · exact .inl rfl

lemma step_vetted (h:Vetted policy st)(i:Step)
 (found:(step policy st i).db.request? requestId=some r')
 (own:r'.item? targetId=some item')
 (read:(step policy st i).db.target? targetId=some t'){row':DirectoryRow}
 (there:(step policy st i).db.directory t'.siren=some row') :
 row'.domain.any policy.rejectedSupplierDomain=false:=by
 obtain ⟨row,was,domain⟩:=step_domains policy st i t'.siren row' there
 have before:row.domain.any policy.rejectedSupplierDomain=false:=by
  rcases step_item h.toExposed found own read with
   ⟨r,item,t,requested,own₀,read₀,_,_,carried⟩ |
   ⟨c,at',around,before,_,_,_,gates,_,_,rfl⟩
  · rw[carried.owner.1] at was
    exact h.vetted requestId r targetId item t requested own₀ read₀ row was
  · have live:=(admissible_ok gates).1
    rw[show st.db.directory before.siren=some row from was] at live
    exact live_domain live
 rcases domain with same|gone
 · rw[same]
   exact before
 · rw[gone]
   rfl

variable (i) in
lemma vetted_step (h:Vetted policy st):Vetted policy (step policy st i) where
 toExposed:=step_exposed policy st i h.toExposed
 aged _ _ _ _ _ found own live read:=step_aged h i found own live read
 settled _ _ _ _ _ found own sent read:=step_settled h i found own sent read
 vetted _ _ _ _ _ found own read _ there:=step_vetted h i found own read there

lemma step_compliant (h:Compliant policy st)(spares:Spares policy st i) :
 Compliant policy (step policy st i) where
 toVetted:=vetted_step i h.toVetted
 admitted _ _ read engaged:=step_admitted h spares read engaged

end

lemma along_compliant {policy:Policy}{opening:Opening}{steps:List Step}
 (spared:Runs.Along (step policy) (Spares policy) (start opening) steps) :
 Compliant policy (steps.foldl (step policy) (start opening)):=
 spared.invariant (Compliant policy) (fun _ _ h spares=>step_compliant h spares)
  (start_compliant policy opening)

section
variable {policy:Policy}{st:System}

lemma lead_engaged (h:Exposed st){leaseId:ℕ}{w:Worker}{s s':Scope}{c:Snapshot}
 {campaignId:String}{now:ℕ}(held:st.workers leaseId=some w)
 (opened:openGuard st.db leaseId w.requestId w.targetId=some s)
 (reached:Reached w.targetId now s s')(phase:w.phase=.lead c campaignId)
 (current:Current w.targetId s'):Engaged st.db s.target:=by
 obtain ⟨found,read,_,leased,item,own,_⟩:=openGuard_some opened
 have standing:=(h.standing leaseId w held s.request found leased).2
 rw[phase] at standing
 have live:item.status.isTerminal=false:=Claimed.live standing own
 have unmoved:s.target.version=item.expectedVersion:=by
  rcases reached with rfl|checked
  · exact (current item own live).2.2
  · exact (goOn_working own live checked).1.version
 rw[←(Db.target?_some read).2] at own
 exact ⟨w.requestId,s.request,item,found,own,.inl ⟨live,unmoved⟩⟩

lemma audit_spared (h:Vetted policy st){observedAt:ℕ}{requestId targetId:String}
 {r:SendRequest}{item:SendItem}{t:Target}(found:st.db.request? requestId=some r)
 (own:r.item? targetId=some item)(read:st.db.target? targetId=some t) :
 (step policy st (.audit observedAt)).db.directory t.siren=st.db.directory t.siren:=by
 change (Option.getD _ st.db).directory t.siren=_
 cases answer:auditConfirmedDomains policy observedAt st.db with
 | none=>rfl
 | some db' =>
  refine (audit_written answer).2 t.siren fun row there=>?_
  unfold blockedDomain
  rw[h.vetted requestId r targetId item t found own read row there,Bool.and_false]

end

/-- In every run whose opt-outs spare the targets that are engaged, a lead is imported of a
target that is admitted, and a campaign is activated whose sent targets are; in every run
the audit quarantines no company that a request has a target of. -/
theorem exposed_only_admitted (policy:Policy)(opening:Opening)(steps:List Step)(js:List Step)
 (i:Step)(reached:js++[i] <+: steps) :
 (Runs.Along (step policy) (Spares policy) (start opening) steps →
  ((step policy (js.foldl (step policy) (start opening)) i).provider.leads ≠
    (js.foldl (step policy) (start opening)).provider.leads →
   ∃l t,(step policy (js.foldl (step policy) (start opening)) i).provider.leads =
     l::(js.foldl (step policy) (start opening)).provider.leads ∧
    (js.foldl (step policy) (start opening)).db.target? l.targetId=some t ∧
    Admitted policy (js.foldl (step policy) (start opening)).db t) ∧
  ((step policy (js.foldl (step policy) (start opening)) i).provider.activations ≠
    (js.foldl (step policy) (start opening)).provider.activations →
   ∃requestId campaignId r,
    (step policy (js.foldl (step policy) (start opening)) i).provider.activations =
     (requestId,campaignId) ::
      (js.foldl (step policy) (start opening)).provider.activations ∧
    (js.foldl (step policy) (start opening)).db.request? requestId=some r ∧
    ∀item∈r.items,item.status=.sent →
     ∃t,(js.foldl (step policy) (start opening)).db.target? item.targetId=some t ∧
      Admitted policy (js.foldl (step policy) (start opening)).db t)) ∧
  ∀observedAt,i=.audit observedAt →
   ∀r∈(js.foldl (step policy) (start opening)).db.requests,∀item∈r.items,∀t,
    (js.foldl (step policy) (start opening)).db.target? item.targetId=some t →
     (step policy (js.foldl (step policy) (start opening)) i).db.directory t.siren =
      (js.foldl (step policy) (start opening)).db.directory t.siren:=by
 have vetted:=Runs.invariant (Vetted policy) (fun _ i h=>vetted_step i h) js
  (start_vetted policy opening)
 have compliant:Runs.Along (step policy) (Spares policy) (start opening) steps →
   Compliant policy (js.foldl (step policy) (start opening)):=by
  obtain ⟨rest,rfl⟩:=reached
  rw[List.append_assoc,Runs.along_append]
  exact fun spared=>along_compliant spared.1
 generalize js.foldl (step policy) (start opening)=st at vetted compliant ⊢
 have effects:=stepped_effect (step_stepped policy st vetted.keyed i)
 refine ⟨fun spared=>?_,?_⟩
 · have h:=compliant spared
   clear compliant
   refine ⟨fun imported=>?_,fun activated=>?_⟩
   · rcases effects with same|⟨leaseId,o,w,s,s',rfl,held,opened,reached,effect⟩
     · exact absurd (congrArg Provider.leads same) imported
     · generalize (step policy st (.work leaseId o)).provider=p' at imported effect ⊢
       cases effect with
       | nothing | campaign | activation=>exact absurd rfl imported
       | lead c campaignId listed permitted phase unlisted allowed permit current =>
        have engaged:=lead_engaged h.toExposed held opened reached phase current
        have read:=(openGuard_some opened).2.1
        exact ⟨_,s.target,rfl,read,h.admitted w.targetId s.target read engaged⟩
   · rcases effects with same|⟨leaseId,o,w,s,s',rfl,held,opened,reached,effect⟩
     · exact absurd (congrArg Provider.activations same) activated
     · generalize (step policy st (.work leaseId o)).provider=p' at activated effect ⊢
       cases effect with
       | nothing | campaign | lead=>exact absurd rfl activated
       | activation campaignId status listed permitted phase unblocked sent inactive allowed permit =>
        obtain ⟨found,_,running,leased,item,own,_⟩:=openGuard_some opened
        have id:s'.request.requestId=s.request.requestId:=
         congrArg Prod.fst (books_of_reached reached)
        have named:=(Db.request?_some found).2
        refine ⟨s'.request.requestId,campaignId,s.request,rfl,?_,fun item mem past=>?_⟩
        · rw[id,named]
          exact found
        · have basic:=(h.sound s.request (Db.request?_some found).1).basic
          have there:=basic.item?_of_mem mem
          obtain ⟨t,read,_⟩:=h.promised w.requestId s.request item.targetId item found there
          refine ⟨t,read,h.admitted item.targetId t read ⟨w.requestId,s.request,item,found,?_⟩⟩
          rw[(Db.target?_some read).2]
          exact ⟨there,.inr ⟨past,by rw[running];rfl⟩⟩
 · rintro observedAt rfl r mem item listed t read
   have found:st.db.request? r.requestId=some r:=Tables.find?_of_mem vetted.ids mem
   exact audit_spared vetted found ((vetted.sound r mem).basic.item?_of_mem listed) read

def suppressedSteps (siren:String)(works:ℕ):List Step:=
 .enqueueSend (sampleCommand "r1" "t1" sampleRequest_named) 0 sampleAround ::
  .suppress siren true 1::.claim "r1" 1 1 []::List.replicate works (.work 0 sampleOracle)

lemma suppressedSteps_spared (works:ℕ) :
 Runs.Along (step samplePolicy) (Spares samplePolicy) (start sampleOpening)
  (suppressedSteps "beta" works):=by
 refine ⟨fun _ _ _ _ s mem=>(by cases mem),?_,trivial,Runs.along_of_mem _ fun i mem s=>?_⟩
 · -- the only engaged target is of another company
   rintro row found t read ⟨requestId,r,item,there,own,_⟩
   set db:=(step samplePolicy (start sampleOpening)
    (.enqueueSend (sampleCommand "r1" "t1" sampleRequest_named) 0 sampleAround)).db
   have requests:db.requests.map (fun r=>r.items.map (·.targetId))=[["t1"]]:=by
    decide +kernel
   have owner:(db.target? "t1").map (fun t=>(t.siren,t.emailAddress)) =
     some ("alpha","contact@alpha.fr"):=by decide +kernel
   have removed:(db.directory "beta").map (·.professionalEmail)=some (some "contact@beta.fr"):=
    by decide +kernel
   have items:r.items.map (·.targetId)∈db.requests.map fun r=>r.items.map (·.targetId):=
    List.mem_map_of_mem (Db.request?_some there).1
   obtain ⟨mem,id⟩:=SendRequest.item?_some own
   have listed:item.targetId∈r.items.map (·.targetId):=List.mem_map_of_mem mem
   rw[requests,List.mem_singleton] at items
   rw[items,List.mem_singleton,id] at listed
   rw[listed] at read
   rw[read,Option.map_some,Option.some.injEq,Prod.mk.injEq] at owner
   rw[found,Option.map_some,Option.some.injEq] at removed
   obtain ⟨siren,address⟩:=owner
   refine ⟨by rw[siren];decide,fun _ email known=>?_⟩
   rw[removed,Option.some.injEq] at known
   rw[←known,address]
   decide
 · rw[List.eq_of_mem_replicate mem]
   trivial

theorem exposed_only_admitted_sample :
 ∃l t,(step samplePolicy ((suppressedSteps "beta" 14).foldl (step samplePolicy)
   (start sampleOpening)) (.work 0 sampleOracle)).provider.leads=[l] ∧
  ((suppressedSteps "beta" 14).foldl (step samplePolicy) (start sampleOpening)).db.target?
   l.targetId=some t ∧
  Admitted samplePolicy
   ((suppressedSteps "beta" 14).foldl (step samplePolicy) (start sampleOpening)).db t:=by
 have none':((suppressedSteps "beta" 14).foldl (step samplePolicy)
   (start sampleOpening)).provider.leads=[]:=by
  decide +kernel
 obtain ⟨l,t,leads,read,admitted⟩:=((exposed_only_admitted samplePolicy sampleOpening
  (suppressedSteps "beta" 15) (suppressedSteps "beta" 14) (.work 0 sampleOracle)
  ⟨[],rfl⟩).1 (suppressedSteps_spared 15)).1 (by decide +kernel)
 exact ⟨l,t,none' ▸ leads,read,admitted⟩

def removedSteps (works:ℕ):List Step:=suppressedSteps "alpha" works

theorem removed_recipient_is_exposed :
 let before:=(removedSteps 14).foldl (step samplePolicy) (start sampleOpening)
 let imported:=step samplePolicy before (.work 0 sampleOracle)
 let activated:=(removedSteps 29).foldl (step samplePolicy) (start sampleOpening)
 before.db.suppressions=[⟨"contact@alpha.fr",1⟩] ∧ before.provider.leads=[] ∧
  imported.provider.leads=[⟨"new","new","contact@alpha.fr",sampleMail,"r1","t1"⟩] ∧
  activated.provider.activations=[("r1","new")] ∧
  (activated.db.request? "r1").map (fun r=>r.items.map (·.status))=some [.sent] ∧
  (activated.db.target? "t1").map (fun t=>
   liveDirectoryContact samplePolicy t (before.db.directory t.siren))=some false:=by
 decide +kernel

end Kivou.ProspectAdmissions
