import Kivou.CensusConservation

set_option autoImplicit false

/-! A page whose call is recorded on a second path gives its unused slots back once more. -/
namespace Kivou.Census
open Tables PythonValues Runs

def Snapshot.seen:Snapshot→ℕ
 | .page shown=>shown.seen
 | .other _=>0

def Db.refundOf (db:Db)(id:CallId):ℕ:=((db.call? id).map fun call=>
  call.candidateSlots-(call.resultSnapshot.map Snapshot.seen).getD 0).getD 0

def refunds (db:Db)(recorded:List (Path × CallId)):ℕ:=
 ∑ id∈(recorded.map Prod.snd).toFinset,db.refundOf id

def Slots (db:Db)(recorded:List (Path × CallId)):Prop:=
 db.run.candidateSlotsReserved+refunds db recorded=(usage db.calls).candidateSlots

def RecordsOnce (normalizeDomain:String→Option String)(w:World):Step→Prop
 | .record r=>r.due w.db=true→(∃db',r.record normalizeDomain w.db=.ok db') →
   r.callId∈w.recorded.map Prod.snd→∀call,w.db.call? r.callId=some call →
    call.candidateSlots≤r.page.seen
 | _=>True

section
variable {db db':Db}{recorded:List (Path × CallId)}

lemma Later.refundOf (later:Later db db'){path:Path}{id:CallId}
 (on:RecordedOn db path id):db'.refundOf id=db.refundOf id:=by
 obtain ⟨call,_,_,found,completed,-⟩:=on
 obtain ⟨call',found',same⟩:=later.call id call found
 have kept:=same (by rw[completed];exact CallStatus.noConfusion)
 unfold Db.refundOf
 rw[found',found,kept]

lemma Later.refunds (later:Later db db') (known:∀entry∈recorded,RecordedOn db entry.1 entry.2) :
 refunds db' recorded=refunds db recorded:=by
 refine Finset.sum_congr rfl fun id mem=>?_
 rw[List.mem_toFinset] at mem
 obtain ⟨entry,hentry,rfl⟩:=List.mem_map.mp mem
 exact later.refundOf (known entry hentry)

lemma slots_of_later (later:Later db db') (known:∀entry∈recorded,RecordedOn db entry.1 entry.2)
 (same:db'.run.candidateSlotsReserved+(usage db.calls).candidateSlots =
  db.run.candidateSlotsReserved+(usage db'.calls).candidateSlots) :
 Slots db' recorded ↔ Slots db recorded:=by
 unfold Slots
 rw[later.refunds known]
 omega

lemma slots_reserved {censusId:String}{context:PermitContext}{request:Request}
 {attempt now:ℕ}{call:Call}
 (reserves:Reserves db censusId context request attempt now call db')
 (known:∀entry∈recorded,RecordedOn db entry.1 entry.2) :
 Slots db' recorded ↔ Slots db recorded:=by
 have used:=congrArg Usage.candidateSlots (usage_append db.calls call)
 rw[←reserves.calls] at used
 have asked:call.candidateSlots=request.candidateSlots:=by rw[reserves.asked];rfl
 have total:(usage db'.calls).candidateSlots =
   (usage db.calls).candidateSlots+call.candidateSlots:=used
 refine slots_of_later reserves.later known ?_
 rw[reserves.run,total,asked]
 unfold Run.reserved
 dsimp only
 omega

lemma slots_pass {w:World}(sound:Sound w){process:ℕ}{context:Option PermitContext}
 {request:Request}{attempt start now:ℕ} :
 Slots (w.pass process context request attempt start now).db w.recorded ↔ Slots w.db w.recorded:=by
 unfold World.pass
 split
 · exact Iff.rfl
 · rename_i db' reached passed
   rcases pass_ok passed with ⟨call,result,-,-,-,rfl,-⟩|⟨call,-,-,rfl,-⟩ | ⟨bound,call,-,reserves,-⟩
   · exact Iff.rfl
   · exact Iff.rfl
   · exact slots_reserved reserves sound.recorded

lemma slots_settled {callId:CallId}{outcome:Outcome} (settled:settle db callId outcome=.ok db')
 (known:∀entry∈recorded,RecordedOn db entry.1 entry.2) :
 Slots db' recorded ↔ Slots db recorded:=by
 obtain ⟨call,found,⟨-,rfl⟩|⟨reserved,status,rfl⟩⟩:=settle_ok settled
 · exact Iff.rfl
 · refine slots_of_later (later_settled found reserved outcome status) known ?_
   have used:=congrArg Usage.candidateSlots (usage_settled db callId outcome status)
   exact congrArg (db.run.candidateSlotsReserved+·) used.symm

lemma slots_changed (change:Change) (known:∀entry∈recorded,RecordedOn db entry.1 entry.2) :
 Slots (db.change change) recorded ↔ Slots db recorded:=by
 refine slots_of_later (later_changed change) known ?_
 rw[change_calls,(change_reserved db change).2.2.2]

lemma refunds_append (path:Path)(id:CallId):refunds db (recorded++[(path,id)]) =
 if id∈recorded.map Prod.snd then refunds db recorded
 else refunds db recorded+db.refundOf id:=by
 unfold refunds
 rw[List.map_append,List.toFinset_append,List.map_singleton]
 have single:([(path,id).2]:List CallId).toFinset={id}:=by simp
 rw[single,Finset.union_comm,←Finset.insert_eq]
 split
 · rename_i mem
   rw[Finset.insert_eq_of_mem (List.mem_toFinset.mpr mem)]
 · rename_i new
   rw[Finset.sum_insert (by rwa[List.mem_toFinset]),add_comm]

end

lemma slots_recorded {normalizeDomain:String→Option String}{w:World}(sound:Sound w)
 (slots:Slots w.db w.recorded)(r:Recording) :
 Slots (w.record normalizeDomain r).db (w.record normalizeDomain r).recorded ↔
  RecordsOnce normalizeDomain w (.record r):=by
 unfold World.record RecordsOnce
 split
 · rename_i error refused
   refine iff_of_true slots ?_
   rintro-⟨db',accepted⟩
   rw[refused] at accepted
   cases accepted
 · rename_i db' accepted
   obtain ⟨-,later,calls,-⟩:=record_writes sound.balanced accepted
   obtain ⟨call,agrees,⟨passed,rfl⟩|⟨due,-,mid,records,rfl⟩⟩:=record_ok accepted
   · dsimp only
     rw[passed]
     exact iff_of_true slots fun due=>by cases due
   · rw[if_pos due]
     have same:=later.refunds sound.recorded
     have enough:=records.enough
     have reserved:=records.reserved
     have run:(r.mark mid).run.candidateSlotsReserved =
       w.db.run.candidateSlotsReserved-(call.candidateSlots-r.page.seen):=by
      rw[mark_run,records.run]
     have refund:(r.mark mid).refundOf r.callId=call.candidateSlots-r.page.seen:=by
      unfold Db.refundOf Db.call?
      rw[calls]
      change ((w.db.call? r.callId).map _).getD 0=_
      rw[agrees.found,Option.map_some,agrees.answer]
      rfl
     unfold Slots at slots ⊢
     rw[refunds_append,same,run,refund,calls]
     constructor
     · intro balanced _ _ mem call' found
       rw[agrees.found] at found
       cases found
       rw[if_pos mem] at balanced
       omega
     · intro once
       split
       · rename_i mem
         have filled:=once due ⟨_,accepted⟩ mem call agrees.found
         omega
       · omega

lemma slots_next {normalizeDomain:String→Option String}{w:World}(sound:Sound w)
 (slots:Slots w.db w.recorded)(step:Step) :
 Slots (next normalizeDomain w step).db (next normalizeDomain w step).recorded ↔
  RecordsOnce normalizeDomain w step:=by
 cases step with
 | execute process context request start now =>
  refine iff_of_true ?_ trivial
  unfold next
  dsimp only
  split
  · exact slots
  · have kept:(w.pass process context request 1 start now).recorded=w.recorded:=by
     unfold World.pass
     split <;> rfl
    rw[kept]
    exact (slots_pass sound).mpr slots
 | retry process now =>
  refine iff_of_true ?_ trivial
  unfold next
  dsimp only
  split
  · rename_i context request attempt start h
    have kept:(w.pass process context request 2 start now).recorded=w.recorded:=by
     unfold World.pass
     split <;> rfl
    rw[kept]
    exact (slots_pass sound).mpr slots
  · exact slots
 | invoke process outcome =>
  refine iff_of_true ?_ trivial
  unfold next
  dsimp only
  split <;> exact slots
 | settle process =>
  refine iff_of_true ?_ trivial
  unfold next
  dsimp only
  split
  · split
    · exact slots
    · rename_i settled
      exact (slots_settled settled sound.recorded).mpr slots
  · exact slots
 | crash process=>exact iff_of_true slots trivial
 | record r=>exact slots_recorded sound slots r
 | change change=>exact iff_of_true ((slots_changed change sound.recorded).mpr slots) trivial

section
variable {w:World}

def CallId.sameCall (a b:CallId):Prop:=a.kind=b.kind ∧ a.subject=b.subject

instance (a b:CallId):Decidable (a.sameCall b):=inferInstanceAs (Decidable (_ ∧ _))

/-- What holds of a state, of the invocations that come next and of the
reservations that may. -/
structure Conserved (w:World):Prop where
 credits:w.db.run.creditsReserved=(usage w.db.calls).credits
 pages:w.db.run.pagesReserved=(usage w.db.calls).pages
 enrichments:w.db.run.enrichmentsReserved=(usage w.db.calls).enrichments
 slots:Slots w.db w.recorded
 candidates:(w.db.partitions.map (·.uniqueCount)).sum=w.db.candidates.length
 twice:∀id:CallId,(w.invoked.filter fun other=>id.sameCall other).length≤2
 invocations:∀process job id,w.jobs process=some job→job.stage=.claimed id →
  Reserved w.db id ∧ ∀other∈w.invoked,id.sameCall other→Limited w.db other
 reservations:∀context request attempt now db' call,
  reserveCall w.db w.censusId context request attempt now=.ok (db',call,true) →
   (∃limits,db'.run.limits=some limits ∧ limits.holds db'.run=true) ∧
    ∃permit,db'.permit? call.permitId=some permit ∧ permit.holds (db'.usageOf call.permitId)=true
 refused:∀process context request attempt start now error,
  reserveCall w.db w.censusId context request attempt now=.error error →
   (w.pass process context request attempt start now).db=w.db

variable {db db':Db}{censusId:String}{request:Request}{attempt now:ℕ}{call:Call}

lemma usageOf_reserved {context:PermitContext}
 (reserves:Reserves db censusId context request attempt now call db') :
 db'.usageOf call.permitId=db.usageOf call.permitId+request.usage:=by
 have single:[call].filter (fun c=>c.permitId==call.permitId)=[call]:=
  List.filter_eq_self.mpr fun c mem=>by rw[List.mem_singleton.mp mem];exact beq_self_eq_true _
 unfold Db.usageOf
 rw[reserves.calls,List.filter_append,single,usage_append,reserves.asked]
 rfl

lemma permit?_reserved {context:PermitContext}
 (reserves:Reserves db censusId context request attempt now call db')(permitId:String) :
 db'.permit? permitId=db.permit? permitId:=by
 rw[reserves.written]
 unfold Db.reserved
 cases request.partitionId <;> rfl

lemma reservation_holds {context:Option PermitContext}
 (h:reserveCall db censusId context request attempt now=.ok (db',call,true)) :
 (∃limits,db'.run.limits=some limits ∧ limits.holds db'.run=true) ∧
  ∃permit,db'.permit? call.permitId=some permit ∧ permit.holds (db'.usageOf call.permitId)=true:=by
 rcases reserveCall_ok h with ⟨claimed,-⟩|⟨-,bound,rfl,reserves⟩
 · cases claimed
 · obtain ⟨limits,limited,held⟩:=reserves.limited
   obtain ⟨permit,found,-,-,-,within⟩:=checkCall_ok reserves.checked
   have same:call.permitId=permit.permitId:=by
    rw[reserves.asked]
    exact (find?_key found).2.symm
   refine ⟨⟨limits,?_,?_⟩,permit,?_,?_⟩
   · rw[reserves.run]
     exact limited
   · rw[reserves.run]
     exact held
   · rw[permit?_reserved reserves,same,(find?_key found).2]
     exact found
   · rw[usageOf_reserved reserves,same]
     exact within

lemma Sound.attempts (sound:Sound w){id:CallId}(mem:id∈w.invoked) : id.attempt=1 ∨ id.attempt=2:=by
 obtain ⟨call,found⟩:=sound.asked id mem
 exact (sound.balanced.attempts id call found).imp_right And.left

lemma Sound.twice (sound:Sound w)(id:CallId) :
 (w.invoked.filter fun other=>id.sameCall other).length≤2:=by
 have distinct:(w.invoked.filter fun other=>id.sameCall other).Nodup:=sound.once.filter _
 have attempts:(w.invoked.filter fun other=>id.sameCall other) ⊆
   [⟨id.kind,id.subject,1⟩,⟨id.kind,id.subject,2⟩]:=by
  intro other mem
  obtain ⟨mem,same⟩:=List.mem_filter.mp mem
  obtain ⟨kind,subject⟩:=of_decide_eq_true same
  obtain ⟨otherKind,otherSubject,attempt⟩:=other
  subst kind subject
  rcases sound.attempts mem with rfl|rfl
  · exact List.mem_cons_self
  · exact List.mem_cons_of_mem _ List.mem_cons_self
 exact (distinct.subperm attempts).length_le

lemma Sound.invocation (sound:Sound w){process:ℕ}{job:Job}{id:CallId}
 (h:w.jobs process=some job)(claimed:job.stage=.claimed id) :
 Reserved w.db id ∧ ∀other∈w.invoked,id.sameCall other→Limited w.db other:=by
 have mine:=sound.jobs process job h
 have reserved:=(mine.held id (by rw[Job.held,claimed])).2
 have new:=mine.claimed id claimed
 refine ⟨reserved,fun other mem same=>?_⟩
 obtain ⟨call,found,status⟩:=reserved
 obtain ⟨kind,subject⟩:=same
 obtain ⟨otherCall,otherFound⟩:=sound.asked other mem
 have ours:=sound.balanced.attempts id call found
 have theirs:=sound.balanced.attempts other otherCall otherFound
 have different:id.attempt≠other.attempt:=by
  intro attempt
  have same:id=other:=by
   obtain ⟨_,_,_⟩:=id
   obtain ⟨_,_,_⟩:=other
   subst kind subject attempt
   rfl
  exact new (same ▸ mem)
 rcases theirs with one|⟨two,first,hfirst,limited⟩
 · rcases ours with one' | ⟨-,first,hfirst,limited⟩
   · exact absurd (one'.trans one.symm) different
   · refine ⟨first,?_,limited⟩
     have key:(⟨id.kind,id.subject,1⟩:CallId)=other:=by rw[kind,subject,←one]
     rw[←key]
     exact hfirst
 · -- a second attempt was asked, so that ours is the first, which is limited
   rcases ours with one' | ⟨two',-⟩
   · have key:(⟨other.kind,other.subject,1⟩:CallId)=id:=by rw[←kind,←subject,←one']
     rw[key,found] at hfirst
     cases hfirst
     rw[status] at limited
     cases limited
   · exact absurd (two'.trans two.symm) different

lemma Sound.conserved (sound:Sound w)(slots:Slots w.db w.recorded):Conserved w where
 credits:=sound.balanced.credits
 pages:=sound.balanced.pages
 enrichments:=sound.balanced.enrichments
 slots:=slots
 candidates:=sound.balanced.candidates
 twice:=sound.twice
 invocations _ _ _:=sound.invocation
 reservations _ _ _ _ _ _:=reservation_holds
 refused process context request attempt start now error refused:=by
  have raised:Census.pass w.db w.censusId context request attempt start now=.error error:=by
   unfold Census.pass
   rw[refused]
   rfl
  unfold World.pass
  rw[raised]
  rfl

end

/-- In every run, the census is conserved in every state exactly when no
recorded page is recorded on another path with slots to give back. -/
theorem conserved_iff_recordsOnce (normalizeDomain:String→Option String)(censusId:String)
 (steps:List Step) :
 (∀done,done <+: steps → Conserved (reached normalizeDomain censusId done)) ↔
  Along (next normalizeDomain) (RecordsOnce normalizeDomain) (World.start censusId) steps:=by
 have kept:∀w step,Sound w→Slots w.db w.recorded →
   (Slots (next normalizeDomain w step).db (next normalizeDomain w step).recorded ↔
    RecordsOnce normalizeDomain w step):=
  fun w step sound slots=>slots_next sound slots step
 have always:=always_iff_along (fun w step sound=>Sound.next sound normalizeDomain step) kept
  (sound_start censusId) rfl steps
 refine Iff.trans ⟨fun conserved done hdone=>(conserved done hdone).slots,?_⟩ always
 intro slots done hdone
 have sound:Sound (reached normalizeDomain censusId done):=
  invariant Sound (fun w step sound=>Sound.next sound normalizeDomain step) done
   (sound_start censusId)
 exact sound.conserved (slots done hdone)

def sampleLimits:Limits:=⟨true,9,90,1000,500,2000,1000,1/10,1,1,9,0,some "authorization"⟩

def samplePermit (permitId:String)(phase:Phase)(samplePlanHash:Option String):Permit:=
 ⟨permitId,"census","milomail","FR",phase,"database","configuration",samplePlanHash,
  ["partition"],10,100,10,100,100,some (1/10),0,100,true⟩

def sampleContext (permitId:String)(phase:Phase):Option PermitContext:=
 some ⟨permitId,phase,"configuration","database"⟩

def sampleOrganization (providerOrganizationId:String):Organization:=
 ⟨true,providerOrganizationId,none,some "FR"⟩

def firstPage:Page:=⟨1,2,3,2,none,[sampleOrganization "one",sampleOrganization "two"],[]⟩

def secondPage:Page:=⟨2,2,3,2,none,[sampleOrganization "three"],[]⟩

def sampleSearch (permitId:String)(phase:Phase)(subject:String)(page:Page):List Step:=
 [.execute 0 (sampleContext permitId phase) ⟨.orgSearch,subject,some "partition",1,2⟩ 1 1,
  .invoke 0 (.answered (.page page)),.settle 0]

def sampledPage:List Step:=
 [.change (.partition "partition" 10 2),.change (.run .active (some sampleLimits) (some "A1")),
  .change (.permit (samplePermit "A0" .coverageA0 none)),
  .change (.permit (samplePermit "A1" .coverageA1Sample (some "hash"))),
  .change (.samplePlan ⟨"A1","hash",none⟩ [("partition",2)])] ++
 sampleSearch "A0" .coverageA0 "partition:1" firstPage ++
 [.record ⟨.cursor,"","partition",firstPage,⟨.orgSearch,"partition:1",1⟩,[]⟩] ++
 sampleSearch "A1" .coverageA1Sample "partition:2" secondPage ++
 [.record ⟨.sample,"A1","partition",secondPage,⟨.orgSearch,"partition:2",1⟩,[]⟩,
  .record ⟨.cursor,"","partition",secondPage,⟨.orgSearch,"partition:2",1⟩,[]⟩]

theorem sampled_page_is_refunded_twice : ¬Conserved (reached some "census" sampledPage):=by
 intro conserved
 have slots:=conserved.slots
 have books:(reached some "census" sampledPage).db.run.candidateSlotsReserved=2 ∧
   (usage (reached some "census" sampledPage).db.calls).candidateSlots=4 ∧
   (reached some "census" sampledPage).recorded =
    [(.cursor,⟨.orgSearch,"partition:1",1⟩),(.sample,⟨.orgSearch,"partition:2",1⟩),
     (.cursor,⟨.orgSearch,"partition:2",1⟩)] ∧
   (reached some "census" sampledPage).db.refundOf ⟨.orgSearch,"partition:1",1⟩=0 ∧
   (reached some "census" sampledPage).db.refundOf ⟨.orgSearch,"partition:2",1⟩=1:=by
  decide +kernel
 obtain ⟨reserved,used,recorded,first,second⟩:=books
 unfold Slots refunds at slots
 rw[reserved,used,recorded] at slots
 have ids:([(.cursor,⟨.orgSearch,"partition:1",1⟩),(.sample,⟨.orgSearch,"partition:2",1⟩),
   (.cursor,⟨.orgSearch,"partition:2",1⟩)]:List (Path × CallId)).map Prod.snd =
   [⟨.orgSearch,"partition:1",1⟩,⟨.orgSearch,"partition:2",1⟩,⟨.orgSearch,"partition:2",1⟩]:=rfl
 have distinct:([⟨.orgSearch,"partition:1",1⟩,⟨.orgSearch,"partition:2",1⟩,
   ⟨.orgSearch,"partition:2",1⟩]:List CallId).toFinset =
   {⟨.orgSearch,"partition:1",1⟩,⟨.orgSearch,"partition:2",1⟩}:=by decide
 rw[ids,distinct,Finset.sum_pair (by decide),first,second] at slots
 omega

end Kivou.Census
