import Kivou.CensusProcesses

set_option autoImplicit false

/-! What each transaction of a census may write. -/
namespace Kivou.Census
open Tables PythonValues

variable {db db':Db}{censusId:String}{request:Request}{attempt start now:ℕ}{call:Call}

lemma checkCall_ok {context:PermitContext}(h:checkCall db censusId context request now=.ok ()) :
 ∃permit,db.permit? context.permitId=some permit ∧
  permit.validFor censusId context request.partitionId now=true ∧
  context.phase.allows request.kind=true ∧ checkSelection db permit request=.ok () ∧
  permit.holds (db.usageOf permit.permitId+request.usage)=true:=by
 unfold checkCall at h
 split at h
 · cases h
 · rename_i permit hpermit
   obtain ⟨found,valid⟩:=Option.filter_eq_some_iff.mp hpermit
   split at h
   · cases h
   · rename_i allowed
     obtain ⟨_,selected,h⟩:=bind_ok.mp h
     dsimp only at h
     split at h
     · cases h
     · rename_i held
       exact ⟨permit,found,valid,by simpa using allowed,selected,by simpa using held⟩

/-- A reservation that is written: of a new call, under a permit, within the limits. -/
structure Reserves (db:Db)(censusId:String)(context:PermitContext)(request:Request)
  (attempt now:ℕ)(call:Call)(db':Db):Prop where
 fresh:db.call? ⟨request.kind,request.subject,attempt⟩=none
 checked:checkCall db censusId context request now=.ok ()
 active:db.run.status=.active
 limited:∃limits,db.run.limits=some limits ∧ limits.holds (db.run.reserved request)=true
 asked:call=request.call context.permitId attempt
 written:db'=db.reserved request call

lemma reserveCall_ok {context:Option PermitContext}{claimed:Bool}
 (h:reserveCall db censusId context request attempt now=.ok (db',call,claimed)) :
 claimed=false ∧ db'=db ∧ db.call? ⟨request.kind,request.subject,attempt⟩=some call ∧
   call.partitionId=request.partitionId ∨
  claimed=true ∧ ∃bound,context=some bound ∧
   Reserves db censusId bound request attempt now call db':=by
 unfold reserveCall at h
 split at h
 · rename_i existing found
   split at h
   · rename_i same
     cases h
     exact .inl ⟨rfl,rfl,found,same⟩
   · cases h
 · rename_i fresh
   split at h
   · cases h
   · rename_i bound
     obtain ⟨_,checked,h⟩:=bind_ok.mp h
     split at h
     · cases h
     · split at h
       · rename_i limits active limited
         split at h
         · cases h
         · split at h
           · cases h
           · rename_i held
             cases h
             refine .inr ⟨rfl,bound,rfl,fresh,checked,active,⟨limits,limited,?_⟩,rfl,rfl⟩
             simpa using held
       · cases h

lemma pass_ok {context:Option PermitContext}{reached:Pass}
 (h:pass db censusId context request attempt start now=.ok (db',reached)) :
 (∃call result,db.call? ⟨request.kind,request.subject,attempt⟩=some call ∧
   call.status=.completed ∧ call.resultSnapshot=some result ∧ db'=db ∧
   reached=.cached result call.callId) ∨
  (∃call,db.call? ⟨request.kind,request.subject,attempt⟩=some call ∧
   call.status=.rateLimited ∧ db'=db ∧ reached=.again) ∨
  ∃bound call,context=some bound ∧ Reserves db censusId bound request attempt now call db' ∧
   reached=.invoke ⟨request.kind,request.subject,attempt⟩:=by
 obtain ⟨⟨written,call,claimed⟩,reserved,passed⟩:=bind_ok.mp h
 dsimp only at passed
 rcases reserveCall_ok reserved with ⟨rfl,rfl,found,-⟩|⟨rfl,bound,rfl,reserves⟩
 · split at passed
   · rename_i completed
     split at passed
     · cases passed
     · rename_i result kept
       cases passed
       exact .inl ⟨call,result,found,completed,kept,rfl,rfl⟩
   · rename_i limited
     split at passed
     · cases passed
     · cases passed
       exact .inr (.inl ⟨call,found,limited,rfl,rfl⟩)
   · cases passed
   · cases passed
 · have asked:=reserves.asked
   subst asked
   cases passed
   exact .inr (.inr ⟨bound,_,rfl,reserves,rfl⟩)

lemma settle_ok {callId:CallId}{outcome:Outcome}(h:settle db callId outcome=.ok db') :
 ∃call,db.call? callId=some call ∧ (call.status=.completed ∧ db'=db ∨
   call.status=.reserved ∧ ∃status,db' =
    {db.updateCall callId (Call.answered outcome) with run:={db.run with status}}):=by
 cases outcome with
 | answered result =>
  unfold settle completeCall at h
  dsimp only at h
  split at h
  · cases h
  · rename_i call found
    refine ⟨call,found,?_⟩
    split at h
    · rename_i completed
      split at h
      · cases h
        exact .inl ⟨completed,rfl⟩
      · cases h
    · rename_i reserved
      cases h
      exact .inr ⟨reserved,db.run.status,rfl⟩
    · cases h
 | failed category retryAfter =>
  unfold settle failCall at h
  dsimp only at h
  split at h
  · cases h
  · rename_i call found
    refine ⟨call,found,?_⟩
    split at h
    · cases h
    · rename_i reserved
      cases h
      by_cases limited:isRateLimited category=true
      · exact .inr ⟨not_not.mp reserved,db.run.status,by rw[if_pos limited];rfl⟩
      · exact .inr ⟨not_not.mp reserved,.reviewRequired,by rw[if_neg limited];rfl⟩

section
variable {normalizeDomain:String→Option String}{hidden:List Identity}{partitionId:String}

lemma recordCandidate_ok {page:ℕ}{organization:Organization}{created:Bool}
 (h:recordCandidate normalizeDomain hidden db partitionId page organization=.ok (db',created)) :
 ∃candidates identities occurrences,db'={db with candidates,identities,occurrences} ∧
  candidates.length=db.candidates.length+created.toNat:=by
 unfold recordCandidate at h
 dsimp only at h
 split at h
 · split at h
   · cases h
   · cases h
     exact ⟨_,_,_,rfl,by simp⟩
 · cases h
   exact ⟨_,_,_,rfl,rfl⟩
 · cases h

lemma recordCandidates_ok {foreign:Error}{page:ℕ}{organizations:List Organization}
 {unique duplicates:ℕ}(h:recordCandidates normalizeDomain hidden foreign db partitionId page
  organizations=.ok (db',unique,duplicates)) :
 ∃candidates identities occurrences,db'={db with candidates,identities,occurrences} ∧
  candidates.length=db.candidates.length+unique:=by
 induction organizations generalizing db db' unique duplicates with
 | nil =>
  cases h
  exact ⟨_,_,_,rfl,rfl⟩
 | cons organization rest ih =>
  unfold recordCandidates at h
  split at h
  · cases h
  · obtain ⟨⟨first,created⟩,hfirst,h⟩:=bind_ok.mp h
    obtain ⟨⟨last,unique,duplicates⟩,hrest,h⟩:=bind_ok.mp h
    cases h
    obtain ⟨candidates,identities,occurrences,rfl,one⟩:=recordCandidate_ok hfirst
    obtain ⟨candidates',identities',occurrences',rfl,more⟩:=ih hrest
    exact ⟨candidates',identities',occurrences',rfl,by dsimp only at more;omega⟩

/-- What a path that records a page writes of it: the candidates that are new,
one refund, and the counts of the partition. -/
structure Records (db:Db)(partitionId:String)(page:Page)(call:Call)(db':Db):Prop where
 enough:page.seen≤call.candidateSlots
 reserved:call.candidateSlots-page.seen≤db.run.candidateSlotsReserved
 written:∃candidates identities occurrences unique duplicates,
  candidates.length=db.candidates.length+unique ∧
   db'={ db with candidates,identities,occurrences,run:={db.run with
    candidateSlotsReserved:=db.run.candidateSlotsReserved -
     (call.candidateSlots-page.seen)}}.updatePartition partitionId
      (·.counted page.seen unique duplicates)

lemma recordOrganizations_ok {foreign exceeds:Error}{page:Page}
 (h:recordOrganizations normalizeDomain hidden foreign exceeds db partitionId page call=.ok db') :
 Records db partitionId page call db':=by
 obtain ⟨⟨found,unique,duplicates⟩,hfound,h⟩:=bind_ok.mp h
 obtain ⟨refunded,hrefund,h⟩:=bind_ok.mp h
 obtain ⟨candidates,identities,occurrences,rfl,length⟩:=recordCandidates_ok hfound
 unfold refund at hrefund
 split at hrefund
 · cases hrefund
 · split at hrefund
   · cases hrefund
   · rename_i enough reserved
     cases hrefund
     cases h
     exact ⟨not_lt.mp enough,not_lt.mp reserved,candidates,identities,occurrences,unique,
      duplicates,length,rfl⟩

end

def Recording.mark (r:Recording)(db:Db):Db:=
 match r.path with
 | .cursor=>db.updatePartition r.partitionId (·.advanced r.page)
 | .sample=>{db with
   samplePages:=tick r.planId r.partitionId r.page.page r.callId db.samplePages}
 | .b1=>{db with b1Pages:=tick r.planId r.partitionId r.page.page r.callId db.b1Pages}

/-- The page is the answer of the call, a completed search of the partition,
under the plan of the path if it has one. -/
structure Recording.Matches (r:Recording)(db:Db)(call:Call):Prop where
 found:db.call? r.callId=some call
 partition:call.partitionId=some r.partitionId
 completed:call.status=.completed
 kind:call.callId.kind=.orgSearch
 answer:call.resultSnapshot=some (.page r.page)
 plan:r.path≠.cursor→call.permitId=r.planId

lemma record_ok {normalizeDomain:String→Option String}{r:Recording}
 (h:r.record normalizeDomain db=.ok db') :
 ∃call,r.Matches db call ∧ (r.due db=false ∧ db'=db ∨
  r.due db=true ∧ (∃p,db.partition? r.partitionId=some p) ∧
   ∃mid,Records db r.partitionId r.page call mid ∧ db'=r.mark mid):=by
 obtain ⟨path,planId,partitionId,page,callId,hidden⟩:=r
 cases path with
 | cursor =>
  change recordPage normalizeDomain hidden db partitionId page callId=.ok db' at h
  unfold recordPage at h
  split at h
  · rename_i p call hp hcall
    split at h
    · cases h
    rename_i partition
    split at h
    · cases h
    rename_i search
    obtain ⟨completed,kind⟩:=not_or.mp search
    split at h
    · cases h
    rename_i answer
    refine ⟨call,⟨hcall,not_not.mp partition,not_not.mp completed,not_not.mp kind,
     not_not.mp answer,fun other=>absurd rfl other⟩,?_⟩
    change (db.partition? partitionId).any (·.cursorPage==page.page)=false ∧ _ ∨
     (db.partition? partitionId).any (·.cursorPage==page.page)=true ∧ _
    rw[hp,Option.any_some]
    split at h
    · rename_i passed
      cases h
      exact .inl ⟨by simpa using passed.ne',rfl⟩
    · split at h
      · cases h
      · rename_i due
        obtain ⟨due,-⟩:=not_or.mp due
        obtain ⟨mid,recorded,h⟩:=bind_ok.mp h
        cases h
        exact .inr ⟨by simpa using due,⟨p,rfl⟩,mid,recordOrganizations_ok recorded,rfl⟩
  · cases h
 | sample =>
  change recordSamplePage normalizeDomain hidden db planId partitionId page callId=.ok db' at h
  unfold recordSamplePage at h
  split at h
  · rename_i p call hp hcall
    split at h
    · cases h
    · rename_i row hrow
      split at h
      · cases h
      rename_i agreed
      simp only[not_or,not_not] at agreed
      obtain ⟨-,partition,kind,completed,permit,-,answer⟩:=agreed
      refine ⟨call,⟨hcall,partition,completed,kind,answer,fun _=>permit⟩,?_⟩
      change (db.samplePages.find? _).any (·.status==.planned)=false ∧ _ ∨
       (db.samplePages.find? _).any (·.status==.planned)=true ∧ _
      rw[hrow,Option.any_some]
      split at h
      · rename_i status
        split at h
        · cases h
          exact .inl ⟨by rw[status];rfl,rfl⟩
        · cases h
      · cases h
      · rename_i status
        obtain ⟨mid,recorded,h⟩:=bind_ok.mp h
        cases h
        exact .inr ⟨by rw[status];rfl,⟨p,hp⟩,mid,recordOrganizations_ok recorded,rfl⟩
  · cases h
 | b1 =>
  change recordB1Page normalizeDomain hidden db planId partitionId page callId=.ok db' at h
  unfold recordB1Page at h
  split at h
  · rename_i row call hrow hcall
    split at h
    · cases h
    rename_i agreed
    simp only[not_or,not_not] at agreed
    obtain ⟨completed,permit,kind,partition,answer⟩:=agreed
    refine ⟨call,⟨hcall,partition,completed,kind,answer,fun _=>permit⟩,?_⟩
    change (db.b1Pages.find? _).any (·.status==.planned)=false ∧ _ ∨
     (db.b1Pages.find? _).any (·.status==.planned)=true ∧ _
    rw[hrow,Option.any_some]
    split at h
    · rename_i status
      split at h
      · cases h
        exact .inl ⟨by rw[status];rfl,rfl⟩
      · cases h
    · cases h
    · rename_i status
      split at h
      · cases h
      · rename_i p hp
        split at h
        · cases h
        · obtain ⟨mid,recorded,h⟩:=bind_ok.mp h
          cases h
          exact .inr ⟨by rw[status];rfl,⟨p,hp⟩,mid,recordOrganizations_ok recorded,rfl⟩
  · cases h

end Kivou.Census
