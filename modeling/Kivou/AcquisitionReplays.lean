import Kivou.AcquisitionProjection

set_option autoImplicit false

/-! `_append` and `create_opportunity_in_transaction` look a repeated call up by the key as the
caller wrote it, while the models store keys trimmed. -/
namespace Kivou.AcquisitionReplays
open PythonValues Columns AcquisitionContracts AcquisitionReducer AcquisitionStore
open AcquisitionProjection

variable {db:Backend}{rt:Runtime}{s t:Store}{draw:Draw}{m:Mutation}
variable {a:Append}{c:Creation}{result:MutationResult}

def creation?:Mutation→Option Creation
 | .createOpportunity creation=>some creation
 | _=>none

def mutate (rt:Runtime)(db:Backend)(s:Store)(draw:Draw)(m:Mutation) :
 Result (Store × MutationResult):=
 match creation? m with
 | some creation=>createOpportunity rt db s draw creation
 | none=>append rt db s draw (m.append rt draw)

lemma creation?_some (h:creation? m=some c):m=.createOpportunity c:=by
 cases m <;> cases h
 rfl

lemma append_draw (h:creation? m=none)(draw draw':Draw) : m.append rt draw=m.append rt draw':=by
 cases m <;> first | rfl | cases h

lemma apply_eq (call:Draw × Mutation) :
 apply rt db s call=(mutate rt db s call.1 call.2).map Prod.fst:=by
 obtain ⟨draw,m⟩:=call
 cases m <;> rfl

def lookupKeys (rt:Runtime)(draw:Draw)(m:Mutation):List String:=
 (m.append rt draw).idempotencyKey::((creation? m).map (·.identityKey)).toList

def Trimmed (rt:Runtime)(draw:Draw)(m:Mutation):Prop:=∀key∈lookupKeys rt draw m,trim key=key

lemma trimmed_creation : Trimmed rt draw (.createOpportunity c) ↔
  trim c.idempotencyKey=c.idempotencyKey ∧ trim c.identityKey=c.identityKey:=by
 simp[Trimmed,lookupKeys,creation?,Mutation.append,Creation.append]

lemma trimmed_append (h:creation? m=none) : Trimmed rt draw m ↔
  trim (m.append rt draw).idempotencyKey=(m.append rt draw).idempotencyKey:=by
 simp[Trimmed,lookupKeys,h]

/-- Reissuing `m` answers with the event that `result` reported, out of a row
that `s` already held, and leaves `t` as it is. -/
def Replays (rt:Runtime)(db:Backend)(s:Store)(result:MutationResult)(t:Store) (m:Mutation):Prop:=
 ∀draw,∃again,mutate rt db t draw m=.ok (t,again) ∧ again.replayed=true ∧
  again.event.eventId=result.event.eventId ∧
  ∃row∈s.events,eventFromRow row=some again.event

/-- The call raises `error`, and its transaction leaves the store as it was. -/
def Refused (rt:Runtime)(db:Backend)(s:Store)(draw:Draw)(m:Mutation) (error:AcquisitionError):Prop:=
 mutate rt db s draw m=.error error ∧ transact rt db s [(draw,m)]=s

def Differ (rt:Runtime)(a b:Append):Prop:=
 rt.fingerprint (semanticInput a)≠rt.fingerprint (semanticInput b)

/-- Another input under the key of `m` is refused: of the same identity for a
creation, of the same stream for the rest. -/
def Conflicts (rt:Runtime)(db:Backend)(t:Store)(draw:Draw)(m:Mutation):Prop:=
 match creation? m with
 | some c=>∀draw' c',c'.identityKey=c.identityKey →(c'.idempotencyKey≠c.idempotencyKey →
    Refused rt db t draw' (.createOpportunity c') (.identityConflict c'.identityKey)) ∧
   (c'.idempotencyKey=c.idempotencyKey →
    Differ rt (c'.append draw'.opportunityId) (c.append draw.opportunityId) →
    Refused rt db t draw' (.createOpportunity c') (.idempotencyConflict c'.idempotencyKey))
 | none=>∀draw' m',creation? m'=none →
   (m'.append rt draw').opportunityId=(m.append rt draw).opportunityId →
   (m'.append rt draw').idempotencyKey=(m.append rt draw).idempotencyKey →
   Differ rt (m'.append rt draw') (m.append rt draw) →
   Refused rt db t draw' m' (.idempotencyConflict (m'.append rt draw').idempotencyKey)

lemma refused_of_error {error:AcquisitionError}(h:mutate rt db s draw m=.error error) :
 Refused rt db s draw m error:=by
 refine ⟨h,?_⟩
 simp[transact,List.foldlM,apply_eq,h,Except.map,Bind.bind,Except.bind]

/-- `varchar(n)` keeps at most `n` characters and never blanks a visible text. -/
structure Strict (db:Backend):Prop where
 bounded:∀ {n s t},db.varchar n s=some t→t.length≤n
 visible:∀ {n s t},db.varchar n s=some t→strip s≠""→strip t≠""

def Digests (rt:Runtime):Prop:=
 ∀input,fingerprintField (rt.fingerprint input)=some (rt.fingerprint input)

lemma trimWith_eq_empty {p:Char→Bool}{s:String} : trimWith p s="" ↔ ∀c∈s.toList,p c=true:=by
 rw[trimWith,←String.toList_inj,String.toList_ofList,String.toList_empty,List.rdropWhile_eq_nil_iff]
 constructor
 · intro h
   rw[←List.dropWhile_eq_nil_iff]
   by_contra ne
   have clear:=List.dropWhile_get_zero_not p s.toList (List.length_pos_iff.mpr ne)
   exact clear (h _ (List.get_mem ..))
 · intro h c hc
   exact h c ((List.dropWhile_suffix p).subset hc)

lemma trim_ne_empty {s:String}(h:strip s≠""):trim s≠"":=by
 intro blank
 apply h
 rw[strip,trimWith_eq_empty]
 intro c hc
 have white:=trimWith_eq_empty.mp blank c hc
 simp only[isWhiteSpace,Bool.and_eq_true] at white
 exact white.1

lemma trim_length (s:String):(trim s).length ≤ s.length:=by
 rw[←String.length_toList,←String.length_toList,trim,trimWith,String.toList_ofList]
 exact (List.rdropWhile_prefix _ _).length_le.trans (List.dropWhile_suffix _).length_le

lemma postgresql_strict (zone:ℤ):Strict (postgresql zone):=by
 have shape:∀ {n:ℕ}{s t:String},postgresqlVarchar n s=some t →
   t=s ∧ s.length≤n ∨ t.toList=s.toList.take n ∧ (s.toList.drop n).all (· == ' ')=true:=by
  intro n s t h
  unfold postgresqlVarchar at h
  split at h
  · cases h
  · split at h
    · cases h
      exact .inl ⟨rfl,‹_›⟩
    · split at h
      · cases h
        exact .inr ⟨String.toList_ofList,‹_›⟩
      · cases h
 constructor
 · intro n s t h
   rcases shape h with ⟨rfl,fits⟩|⟨cut,-⟩
   · exact fits
   · rw[←String.length_toList,cut,List.length_take]
     omega
 · intro n s t h visible
   rcases shape h with ⟨rfl,-⟩|⟨cut,blanks⟩
   · exact visible
   · intro blank
     apply visible
     rw[strip,trimWith_eq_empty] at blank ⊢
     intro c hc
     rw[←List.take_append_drop n s.toList,List.mem_append] at hc
     rcases hc with kept|lost
     · exact blank c (cut ▸ kept)
     · have space:=List.all_eq_true.mp blanks c lost
       rw[beq_iff_eq.mp space]
       decide

section
-- Matching a column's `read` against the model's check must not run the check.
attribute [local irreducible] texts fingerprintField awareField

lemma dateColumn_reads (db:Backend)(d:DateTime):∃b,(dateColumn db).Reads d b:=by
 cases kept:db.timestamp d with
 | none=>exact ⟨d,fun t ht=>by simp[dateColumn,kept] at ht⟩
 | some u =>
  refine ⟨assumeUtc u,fun t ht=>?_⟩
  obtain rfl:u=t:=Option.mem_unique kept ht
  exact ⟨_,awareField_assumeUtc u,rfl⟩

lemma nullableDate_reads (db:Backend)(d:Option DateTime):∃b,(dateColumn db).nullable.Reads d b:=by
 cases d with
 | none=>exact ⟨none,.none⟩
 | some d =>
  obtain ⟨b,hb⟩:=dateColumn_reads db d
  exact ⟨some b,hb.some⟩

lemma category_reads (strict:Strict db){category:String}(visible:strip category≠"") :
 ∃b,(textColumn db 100 100).Reads category b:=by
 cases kept:db.varchar 100 category with
 | none=>exact ⟨category,fun t ht=>by simp[textColumn,kept] at ht⟩
 | some u =>
  refine ⟨trim u,fun t ht=>?_⟩
  obtain rfl:u=t:=Option.mem_unique kept ht
  have ne:=trim_ne_empty (strict.visible kept visible)
  have positive:1≤(trim u).length:=by
   rw[Nat.one_le_iff_ne_zero,Ne,String.length_eq_zero_iff]
   exact ne
  have short:(trim u).length≤100:=(trim_length u).trans (strict.bounded kept)
  exact ⟨trim u,by simp[textColumn,text,positive,short],rfl⟩

section
variable {p q r:AcquisitionOpportunity}{e f:AcquisitionEvent}
variable {fromisoformat:String→Option DateTime}

lemma reduceEvent_readable (strict:Strict db)(same:p.view=r.view)(m:Mirrors db p r)
 (valid:p.Validates p)(x:Reread db e f)
 (version:e.stateMachineVersion=stateMachineVersion)
 (h:reduceEvent fromisoformat (some p) e=.ok q):∃s,Mirrors db q s:=by
 have common:=commonUpdates_mirrors m x version
 unfold reduceEvent at h
 rw[if_pos version] at h
 simp only[reduceV1,require_bind_ok] at h
 obtain ⟨-,-,h⟩:=h
 split at h
 · simp only[transitioned,bind_ok] at h
   obtain ⟨t,_,_,_,review,_,_,_,ref,href,h⟩:=h
   cases h
   obtain ⟨b,hb⟩:=nullableDate_reads db (review.or p.nextReviewAt)
   exact ⟨{ commonUpdates r f with
    state:=t
    reasonCodes:=orKeep e.reasonCodes p.reasonCodes
    evidenceRefs:=orKeep e.evidenceRefs p.evidenceRefs
    confidence:=f.confidence.or r.confidence
    nextReviewAt:=b
    campaignRef:=ref},{common with
    state:=rfl
    reasonCodes:=texts_orKeep x.written.reasonCodes valid.reasonCodes
    evidenceRefs:=texts_orKeep x.written.evidenceRefs valid.evidenceRefs
    confidence:=x.confidence.or m.confidence
    nextReviewAt:=hb
    campaignRef:=campaignBinding_reads (nullableText_reads valid.campaignRef le_rfl) href}⟩
 · simp only[decisionRecorded,bind_ok] at h
   obtain ⟨t,_,_,_,action,ha,review,_,_,_,h⟩:=h
   cases h
   obtain ⟨b,hb⟩:=nullableDate_reads db review
   exact ⟨{ commonUpdates r f with
    decision:=some t
    state:=decisionStates t
    reasonCodes:=e.reasonCodes
    evidenceRefs:=e.evidenceRefs
    confidence:=f.confidence
    nextReviewAt:=b
    nextAction:=action},{common with
    decision:=rfl
    state:=rfl
    reasonCodes:=x.written.reasonCodes
    evidenceRefs:=x.written.evidenceRefs
    confidence:=x.confidence
    nextReviewAt:=hb
    nextAction:=decisionAction_reads (nullableText_reads valid.nextAction le_rfl) ha}⟩
 · obtain ⟨s,-,hs⟩:=outcomeRecorded_mirrors same m x version h
   exact ⟨s,hs⟩
 · obtain ⟨s,-,hs⟩:=nextActionSet_mirrors same m x version h
   exact ⟨s,hs⟩
 · obtain ⟨retryAt,category,-,-,visible,rfl⟩:=retryScheduled_ok.mp h
   obtain ⟨b,hb⟩:=dateColumn_reads db retryAt
   obtain ⟨d,hd⟩:=category_reads strict visible
   exact ⟨{ commonUpdates r f with
    retryCount:=r.retryCount+1
    retryAt:=some b
    lastErrorCategory:=some d
    reasonCodes:=orKeep e.reasonCodes p.reasonCodes},{common with
    retryCount:=congrArg (· + 1) m.retryCount
    retryAt:=hb.some
    lastErrorCategory:=hd.some
    reasonCodes:=texts_orKeep x.written.reasonCodes valid.reasonCodes}⟩
 · obtain ⟨s,-,hs⟩:=contactSelected_mirrors same m x version h
   exact ⟨s,hs⟩
 · cases h
   exact ⟨_,common⟩
 · cases h
   exact ⟨_,common⟩
 · simp[raise] at h

lemma reduceEvent_identity (h:reduceEvent fromisoformat (some p) e=.ok q) :
 q.identityKey=p.identityKey:=by
 unfold reduceEvent at h
 split at h
 · simp only[reduceV1,require_bind_ok] at h
   obtain ⟨-,-,h⟩:=h
   split at h
   · simp only[transitioned,bind_ok] at h
     obtain ⟨_,_,_,_,_,_,_,_,_,_,h⟩:=h
     cases h
     rfl
   · simp only[decisionRecorded,bind_ok] at h
     obtain ⟨_,_,_,_,_,_,_,_,_,_,h⟩:=h
     cases h
     rfl
   · obtain ⟨-,-,-,-,-,-,rfl⟩:=outcomeRecorded_ok.mp h
     rfl
   · obtain ⟨-,⟨-,-,rfl⟩|⟨-,-,-,rfl⟩⟩:=nextActionSet_ok.mp h <;> rfl
   · obtain ⟨-,-,-,-,-,rfl⟩:=retryScheduled_ok.mp h
     rfl
   · obtain ⟨-,-,-,-,-,-,-,-,-,-,rfl⟩:=contactSelected_ok.mp h
     rfl
   · cases h
     rfl
   · cases h
     rfl
   · simp[raise] at h
 · cases h

end

end

variable {row:AcquisitionOpportunity}{event:AcquisitionEvent}{id eventId:String}

lemma projectionValues_identity {p:AcquisitionOpportunity}
 (hs:projectionValues db p=some row):db.varchar 256 p.identityKey=some row.identityKey:=by
 obtain ⟨identityKey,written,hs⟩:=Option.bind_eq_some_iff.mp hs
 iterate 17 obtain ⟨_,-,hs⟩:=Option.bind_eq_some_iff.mp hs
 cases hs
 exact written

def Readable (db:Backend)(row:AcquisitionOpportunity):Prop:=
 ∃p r,projectionValues db p=some row ∧ Mirrors db p r ∧
  r.acquisitionOpportunityId=row.acquisitionOpportunityId

lemma Readable.read (h:Readable db row) :
 ∃q r,projectionFromRow row=some q ∧ q.view=r.view ∧ Mirrors db q r ∧ q.Validates q ∧
  q.acquisitionOpportunityId=row.acquisitionOpportunityId ∧
  q.identityKey=trim row.identityKey:=by
 obtain ⟨p,r,stored,mirrors,named⟩:=h
 obtain ⟨q,hq,same,m,-⟩:=mirrors.reread stored
 have v:=AcquisitionOpportunity.modelValidate_iff.mp hq
 have sameId:q.view.acquisitionOpportunityId=r.view.acquisitionOpportunityId:=by rw[same]
 have trimmed:=v.identityKey
 simp only[stableRef,text,Option.ite_none_right_eq_some,Option.some.injEq] at trimmed
 exact ⟨q,r,hq,same,m,v.fixed,sameId.trans named,trimmed.2.symm⟩

lemma Readable.next (strict:Strict db){q next values:AcquisitionOpportunity} {erow:AcquisitionEvent}
 {fromisoformat:String→Option DateTime}(h:Readable db row)
 (hq:projectionFromRow row=some q)(valid:event.Validates event)
 (machine:event.stateMachineVersion=stateMachineVersion)
 (reduced:reduceEvent fromisoformat (some q) event=.ok next)
 (hvalues:projectionValues db next=some values)
 (hrow:eventValues db event=some erow) :
 Readable db values ∧ values.acquisitionOpportunityId=row.acquisitionOpportunityId ∧
  values.identityKey=trim row.identityKey:=by
 obtain ⟨q',r,hq',same,m,v,named,trimmed⟩:=h.read
 obtain rfl:q'=q:=Option.mem_unique hq' hq
 obtain ⟨f,-,x,-,-⟩:=eventFromRow_reread valid machine hrow
 obtain ⟨s,ms⟩:=reduceEvent_readable strict same m v x machine reduced
 have advance:=AcquisitionLifecycle.reduceEvent_advance reduced
 obtain ⟨-,-,-,-,kept⟩:=ms.reread hvalues
 have sid:s.acquisitionOpportunityId=next.acquisitionOpportunityId:=by
  have known:=ms.acquisitionOpportunityId
  rw[advance.named] at known ⊢
  exact Option.mem_unique known v.acquisitionOpportunityId
 refine ⟨⟨next,s,hvalues,ms,sid.trans kept.symm⟩,kept.trans (advance.named.trans named),?_⟩
 have written:=projectionValues_identity hvalues
 rw[reduceEvent_identity reduced] at written
 exact (varchar_text v.identityKey le_rfl written).trans trimmed

def rowKeys (s:Store):List (String × String):=
 s.opportunities.map fun row=>(row.acquisitionOpportunityId,row.identityKey)

def Written (db:Backend)(row:AcquisitionEvent):Prop:=
 ∃e:AcquisitionEvent,e.Validates e ∧ e.stateMachineVersion=stateMachineVersion ∧
  eventValues db e=some row

lemma eventValues_key {e row:AcquisitionEvent}(hs:eventValues db e=some row) :
 db.varchar 128 e.idempotencyKey=some row.idempotencyKey:=by
 iterate 6 obtain ⟨_,-,hs⟩:=Option.bind_eq_some_iff.mp hs
 obtain ⟨idempotencyKey,written,hs⟩:=Option.bind_eq_some_iff.mp hs
 iterate 8 obtain ⟨_,-,hs⟩:=Option.bind_eq_some_iff.mp hs
 cases hs
 exact written

lemma written_read {e row:AcquisitionEvent}(valid:e.Validates e)
 (machine:e.stateMachineVersion=stateMachineVersion)
 (stored:eventValues db e=some row) :
 (row.acquisitionOpportunityId=e.acquisitionOpportunityId ∧
  row.streamSequence=e.streamSequence ∧ row.idempotencyKey=e.idempotencyKey) ∧
  ∃f,eventFromRow row=some f ∧ f.eventId=e.eventId ∧
   f.idempotencyKey=e.idempotencyKey ∧ f.semanticFingerprint=e.semanticFingerprint:=by
 obtain ⟨f,hf,x,owner,sequence⟩:=eventFromRow_reread valid machine stored
 have key:=varchar_text valid.idempotencyKey le_rfl (eventValues_key stored)
 refine ⟨⟨owner,sequence,key⟩,f,hf,?_⟩
 rw[x.shape]
 exact ⟨rfl,rfl,rfl⟩

lemma Written.key_trimmed {row:AcquisitionEvent}(h:Written db row) :
 trim row.idempotencyKey=row.idempotencyKey:=by
 obtain ⟨e,valid,machine,stored⟩:=h
 rw[(written_read valid machine stored).1.2.2]
 exact (text_trimmed valid.idempotencyKey).1

structure Kept (db:Backend)(s:Store):Prop where
 unique:(s.opportunities.map (·.acquisitionOpportunityId)).Nodup
 readable:∀row∈s.opportunities,Readable db row ∧ trim row.identityKey=row.identityKey
 owned:∀e∈s.events,e.acquisitionOpportunityId∈s.opportunities.map (·.acquisitionOpportunityId)
 written:∀row∈s.events,Written db row

lemma kept_empty:Kept db empty:=
 ⟨List.nodup_nil,fun _ h=>(by cases h),fun _ h=>(by cases h),fun _ h=>(by cases h)⟩

structure Extends (s t:Store):Prop where
 keys:rowKeys s <+: rowKeys t
 events:s.events <+: t.events

lemma Extends.refl (s:Store):Extends s s:=⟨List.prefix_rfl,List.prefix_rfl⟩

lemma Extends.trans {u:Store}(h:Extends s t)(k:Extends t u):Extends s u:=
 ⟨h.keys.trans k.keys,h.events.trans k.events⟩

lemma append_kept (strict:Strict db)(kept:Kept db s)
 (h:append rt db s draw a=.ok (t,result)):Kept db t ∧ Extends s t:=by
 rcases append_ok h with rfl|⟨current,event,next,values,erow,found,version,hevent,
  reduced,hvalues,hrow,rfl⟩
 · exact ⟨kept,.refl t⟩
 obtain ⟨row,hm,hid,hcurrent⟩:=getOpportunity_ok found
 obtain ⟨valid,machine,-,-,-⟩:=newEvent_validates hevent
 obtain ⟨readable,trimmed⟩:=kept.readable row hm
 obtain ⟨q,-,hq,-,-,-,named,-⟩:=readable.read
 obtain rfl:q=current:=Option.mem_unique hq hcurrent
 obtain ⟨after,sameId,sameKey⟩:=readable.next strict hcurrent valid machine reduced hvalues hrow
 have owner:erow.acquisitionOpportunityId=row.acquisitionOpportunityId:=by
  obtain ⟨-,-,-,eid,-⟩:=eventFromRow_reread valid machine hrow
  exact eid.trans ((AcquisitionLifecycle.reduceEvent_owner reduced).trans named)
 -- The optimistic update can only take the row that was read.
 have taken:∀other∈s.opportunities,(other.acquisitionOpportunityId==a.opportunityId &&
   other.streamVersion==a.expectedVersion)=true → other=row:=by
  intro other ho matched
  simp only[Bool.and_eq_true,beq_iff_eq] at matched
  exact List.inj_on_of_nodup_map kept.unique ho hm (matched.1.trans hid.symm)
 have keys:rowKeys (updateProjection s a.opportunityId a.expectedVersion values).1 =
   rowKeys s:=by
  refine Tables.map_key_update fun other ho matched=>?_
  rw[taken other ho matched,sameKey,trimmed]
 have ids:(updateProjection s a.opportunityId a.expectedVersion values).1.opportunities.map
   (·.acquisitionOpportunityId)=s.opportunities.map (·.acquisitionOpportunityId):=
  Tables.map_key_update fun _ _ _=>rfl
 refine ⟨⟨ids ▸ kept.unique,?_,?_,?_⟩,⟨keys ▸ List.prefix_rfl,List.prefix_append ..⟩⟩
 · intro x hx
   obtain ⟨other,ho,rfl⟩:=Tables.mem_update.mp hx
   split
   · rename_i matched
     obtain rfl:=taken other ho matched
     rw[←sameId]
     exact ⟨after,by rw[sameKey,trim_idem]⟩
   · exact kept.readable other ho
 · intro e he
   rw[ids]
   rcases List.mem_append.mp he with old|new
   · exact kept.owned e old
   · rw[List.mem_singleton.mp new,owner]
     exact List.mem_map_of_mem hm
 · intro e he
   rcases List.mem_append.mp he with old|new
   · exact kept.written e old
   · rw[List.mem_singleton.mp new]
     exact ⟨event,valid,machine,hrow⟩

lemma reduceEvent_none_identity {projection:AcquisitionOpportunity}
 {fromisoformat:String→Option DateTime}
 (payload:event.payload=(c.append id).payload)
 (h:reduceEvent fromisoformat none event=.ok projection) :
 stableRef c.identityKey=some projection.identityKey ∧ projection.Validates projection:=by
 unfold reduceEvent at h
 split at h
 · simp only[reduceV1] at h
   split at h
   · obtain ⟨-,identityKey,_,_,_,_,given,-,-,-,-,fields⟩:=created_ok.mp h
     rw[payload] at given
     obtain rfl:c.identityKey=identityKey:=Json.str.inj given
     exact ⟨fields.identityKey,fields.fixed⟩
   · simp[raise] at h
 · cases h

lemma createOpportunity_kept (kept:Kept db s)
 (h:createOpportunity rt db s draw c=.ok (t,result)):Kept db t ∧ Extends s t:=by
 rcases createOpportunity_ok h with rfl|⟨event,projection,id,values,erow,hevent,reduced,
  hid,hvalues,hrow,fresh,rfl⟩
 · exact ⟨kept,.refl t⟩
 obtain ⟨valid,machine,-,-,payload⟩:=newEvent_validates hevent
 obtain ⟨f,-,x,eid,-⟩:=eventFromRow_reread valid machine hrow
 obtain ⟨⟨r,-,m⟩,named⟩:=reduceEvent_none_mirrors x machine reduced
 obtain ⟨-,v⟩:=reduceEvent_none_identity payload reduced
 obtain ⟨-,-,-,-,sameId⟩:=m.reread hvalues
 obtain rfl:id=projection.acquisitionOpportunityId:=
  varchar_text v.acquisitionOpportunityId le_rfl hid
 have unchanged:{values with
   acquisitionOpportunityId:=projection.acquisitionOpportunityId}=values:=by
  rw[←sameId]
 have sameKey:values.identityKey=projection.identityKey:=
  varchar_text v.identityKey le_rfl (projectionValues_identity hvalues)
 have rid:r.acquisitionOpportunityId=projection.acquisitionOpportunityId:=
  Option.mem_unique m.acquisitionOpportunityId v.acquisitionOpportunityId
 rw[unchanged]
 refine ⟨⟨?_,?_,?_,?_⟩,⟨?_,List.prefix_append ..⟩⟩
 · exact Tables.nodup_append_fresh kept.unique fun other ho=>by
    rw[sameId]
    exact fresh other ho
 · intro row hrow
   rcases List.mem_append.mp hrow with old|new
   · exact kept.readable row old
   · rw[List.mem_singleton.mp new]
     exact ⟨⟨projection,r,hvalues,m,rid.trans sameId.symm⟩,by
      rw[sameKey]
      exact (text_trimmed v.identityKey).1⟩
 · intro e he
   rw[List.map_append,List.map_singleton,List.mem_append,List.mem_singleton]
   rcases List.mem_append.mp he with old|new
   · exact .inl (kept.owned e old)
   · rw[List.mem_singleton.mp new,eid,sameId]
     exact .inr named.symm
 · intro e he
   rcases List.mem_append.mp he with old|new
   · exact kept.written e old
   · rw[List.mem_singleton.mp new]
     exact ⟨event,valid,machine,hrow⟩
 · rw[rowKeys,rowKeys,List.map_append]
   exact List.prefix_append ..

lemma mutate_kept (strict:Strict db)(kept:Kept db s)
 (h:mutate rt db s draw m=.ok (t,result)):Kept db t ∧ Extends s t:=by
 unfold mutate at h
 split at h
 · exact createOpportunity_kept kept h
 · exact append_kept strict kept h

lemma foldlM_kept (strict:Strict db){calls:List (Draw × Mutation)}(kept:Kept db s)
 (h:calls.foldlM (apply rt db) s=.ok t):Kept db t ∧ Extends s t:=by
 induction calls generalizing s with
 | nil =>
  cases h
  exact ⟨kept,.refl _⟩
 | cons call calls ih =>
  rw[List.foldlM_cons,bind_ok] at h
  obtain ⟨u,hu,h⟩:=h
  rw[apply_eq,map_ok] at hu
  obtain ⟨⟨u,result⟩,hu,rfl⟩:=hu
  obtain ⟨keptU,first⟩:=mutate_kept strict kept hu
  obtain ⟨keptT,rest⟩:=ih keptU h
  exact ⟨keptT,first.trans rest⟩

lemma transact_kept (rt:Runtime)(strict:Strict db)(kept:Kept db s) (calls:List (Draw × Mutation)) :
 Kept db (transact rt db s calls) ∧ Extends s (transact rt db s calls):=by
 unfold transact
 split
 · exact foldlM_kept strict kept ‹_›
 · exact ⟨kept,.refl s⟩

lemma transactions_kept (rt:Runtime)(strict:Strict db)(kept:Kept db s)
 (transactions:List (List (Draw × Mutation))) :
 Kept db (transactions.foldl (transact rt db) s) ∧
  Extends s (transactions.foldl (transact rt db) s):=by
 have stepped:=fun u (k:Kept db u) calls=>transact_kept rt strict k calls
 exact ⟨Runs.invariant (Kept db) (fun u calls k=>(stepped u k calls).1) transactions kept,
  Runs.related_of_invariant Extends.refl Extends.trans (fun u calls k=>(stepped u k calls).1)
   (fun u calls k=>(stepped u k calls).2) kept transactions⟩

/-- The stream holds an answer to `a` under its key, the event `eventId`. -/
def Answered (rt:Runtime)(s:Store)(a:Append)(eventId:String):Prop:=
 a.opportunityId∈s.opportunities.map (·.acquisitionOpportunityId) ∧ ∃row existing,
  s.events.find? (fun row=>row.acquisitionOpportunityId==a.opportunityId &&
   row.idempotencyKey==a.idempotencyKey)=some row ∧
  eventFromRow row=some existing ∧
  existing.semanticFingerprint=rt.fingerprint (semanticInput a) ∧ existing.eventId=eventId

lemma getOpportunity_of_kept (kept:Kept db s)
 (known:id∈s.opportunities.map (·.acquisitionOpportunityId)) :
 ∃current,getOpportunity s id=.ok current:=by
 obtain ⟨row,hm,rfl⟩:=List.mem_map.mp known
 obtain ⟨q,-,hq,-⟩:=(kept.readable row hm).1.read
 refine ⟨q,?_⟩
 unfold getOpportunity
 rw[Tables.find?_of_mem kept.unique hm]
 exact validated_ok.mpr hq

lemma replayedResult_ok {current:AcquisitionOpportunity}{row:AcquisitionEvent} :
 replayedResult rt a current row=.ok result ↔ ∃existing,eventFromRow row=some existing ∧
  existing.semanticFingerprint=rt.fingerprint (semanticInput a) ∧
  result=⟨current,existing,true⟩:=by
 simp only[replayedResult,bind_ok,validated_ok,refuseUnless_ok,exists_and_left,pure,
  Except.pure,Except.ok.injEq,eq_comm (b:=result)]
 simp

lemma Extends.find? (ext:Extends s t){p:AcquisitionEvent→Bool}{row:AcquisitionEvent}
 (h:s.events.find? p=some row):t.events.find? p=some row:=by
 obtain ⟨later,hl⟩:=ext.events
 rw[←hl,List.find?_append,h]
 rfl

lemma Extends.known (ext:Extends s t) (h:id∈s.opportunities.map (·.acquisitionOpportunityId)) :
 id∈t.opportunities.map (·.acquisitionOpportunityId):=by
 obtain ⟨row,hm,rfl⟩:=List.mem_map.mp h
 have here:(row.acquisitionOpportunityId,row.identityKey)∈rowKeys s:=List.mem_map.mpr ⟨row,hm,rfl⟩
 obtain ⟨other,ho,same⟩:=List.mem_map.mp (ext.keys.subset here)
 exact List.mem_map.mpr ⟨other,ho,congrArg Prod.fst same⟩

lemma newEvent_keys (digests:Digests rt)(trimmed:trim a.idempotencyKey=a.idempotencyKey)
 (h:newEvent rt draw a=some event) :
 event.idempotencyKey=a.idempotencyKey ∧
  event.semanticFingerprint=rt.fingerprint (semanticInput a):=by
 have v:=AcquisitionEvent.modelValidate_iff.mp h
 have key:=v.idempotencyKey
 simp only[text,trimmed,Option.ite_none_right_eq_some,Option.some.injEq] at key
 exact ⟨key.2.symm,(Option.some.inj ((digests _).symm.trans v.semanticFingerprint)).symm⟩

lemma append_answered (digests:Digests rt)(kept:Kept db s)
 (trimmed:trim a.idempotencyKey=a.idempotencyKey)
 (h:append rt db s draw a=.ok (t,result)):Answered rt t a result.event.eventId:=by
 simp only[append,bind_ok] at h
 obtain ⟨current,found,h⟩:=h
 obtain ⟨row,hm,hid,hcurrent⟩:=getOpportunity_ok found
 have known:a.opportunityId∈s.opportunities.map (·.acquisitionOpportunityId):=
  List.mem_map.mpr ⟨row,hm,hid⟩
 split at h
 · rename_i stored hs
   simp only[bind_ok,replayedResult_ok] at h
   obtain ⟨answer,⟨existing,hf,same,rfl⟩,h⟩:=h
   cases h
   exact ⟨known,stored,existing,hs,hf,same,rfl⟩
 · rename_i absent
   simp only[bind_ok,validated_ok,accepted_ok,refuseUnless_ok] at h
   obtain ⟨_,version,event,hevent,next,reduced,values,hvalues,_,-,u,inserted,h⟩:=h
   cases h
   obtain ⟨erow,hrow,rfl⟩:=insertEvent_ok inserted
   obtain ⟨valid,machine,-,-,-⟩:=newEvent_validates hevent
   obtain ⟨key,digest⟩:=newEvent_keys digests trimmed hevent
   obtain ⟨⟨owner,-,sameKey⟩,f,hf,eid,-,fingerprint⟩:=written_read valid machine hrow
   obtain ⟨q,-,hq,-,-,-,named,-⟩:=(kept.readable row hm).1.read
   obtain rfl:q=current:=Option.mem_unique hq hcurrent
   have ours:erow.acquisitionOpportunityId=a.opportunityId:=by
    rw[owner,AcquisitionLifecycle.reduceEvent_owner reduced,named,hid]
   refine ⟨?_,erow,f,?_,hf,fingerprint.trans digest,eid⟩
   · have ids:(updateProjection s a.opportunityId a.expectedVersion values).1.opportunities.map
       (·.acquisitionOpportunityId)=s.opportunities.map (·.acquisitionOpportunityId):=
      Tables.map_key_update fun _ _ _=>rfl
     exact ids ▸ known
   · change (s.events++[erow]).find? _=some erow
     rw[List.find?_append,absent,Option.none_or,List.find?_singleton,ours,sameKey,key]
     simp

lemma Answered.replay (answered:Answered rt s a eventId) (ext:Extends s t)(kept:Kept db t) :
 ∃again,append rt db t draw a=.ok (t,again) ∧ again.replayed=true ∧
  again.event.eventId=eventId ∧ ∃row∈s.events,eventFromRow row=some again.event:=by
 obtain ⟨known,row,existing,hs,hf,same,rfl⟩:=answered
 obtain ⟨current,found⟩:=getOpportunity_of_kept kept (ext.known known)
 have replayed:replayedResult rt a current row=.ok ⟨current,existing,true⟩:=
  replayedResult_ok.mpr ⟨existing,hf,same,rfl⟩
 refine ⟨⟨current,existing,true⟩,?_,rfl,rfl,row,List.mem_of_find?_eq_some hs,hf⟩
 simp only[append,found,ext.find? hs,replayed,Bind.bind,Except.bind,pure,Except.pure]

lemma Answered.conflict {b:Append}(answered:Answered rt s a eventId)
 (ext:Extends s t)(kept:Kept db t)(sameId:b.opportunityId=a.opportunityId)
 (sameKey:b.idempotencyKey=a.idempotencyKey)(differ:Differ rt b a) :
 append rt db t draw b=.error (.idempotencyConflict b.idempotencyKey):=by
 obtain ⟨known,row,existing,hs,hf,same,rfl⟩:=answered
 obtain ⟨current,found⟩:=getOpportunity_of_kept kept (ext.known known)
 rw[←sameId,←sameKey] at hs
 rw[←sameId] at found
 have refused:replayedResult rt b current row =.error (.idempotencyConflict b.idempotencyKey):=by
  have apart:¬existing.semanticFingerprint=rt.fingerprint (semanticInput b):=
   fun equal=>differ (equal.symm.trans same)
  simp[replayedResult,hf,validated,refuseUnless,apart,Bind.bind,Except.bind]
 simp only[append,found,ext.find? hs,refused,Bind.bind,Except.bind]

lemma append_not_replayed (kept:Kept db s) (blank:trim a.idempotencyKey≠a.idempotencyKey)
 (h:append rt db s draw a=.ok (t,result)):result.replayed=false:=by
 simp only[append,bind_ok] at h
 obtain ⟨current,found,h⟩:=h
 split at h
 · rename_i stored hs
   have hm:=List.mem_of_find?_eq_some hs
   have found:=List.find?_some hs
   simp only[Bool.and_eq_true,beq_iff_eq] at found
   exact absurd (found.2 ▸ (kept.written stored hm).key_trimmed) blank
 · simp only[bind_ok] at h
   obtain ⟨_,_,event,_,next,_,values,_,_,_,u,_,h⟩:=h
   cases h
   rfl

/-- The creation event of one stream, as `existingIdentity` looks it up. -/
def creationRow (s:Store)(opportunityId:String):Option AcquisitionEvent:=s.events.find? (fun row=>
  row.acquisitionOpportunityId==opportunityId&&row.streamSequence==1)

/-- The identity of `c` has a stream, and it starts with the event `eventId` of
`c`'s own key and input. -/
def Founded (rt:Runtime)(s:Store)(c:Creation)(eventId:String):Prop:=
 ∃opportunity row existing,rowOfIdentity s c.identityKey=some opportunity ∧
  creationRow s opportunity.acquisitionOpportunityId=some row ∧
  eventFromRow row=some existing ∧ existing.idempotencyKey=c.idempotencyKey ∧
  existing.semanticFingerprint =
   rt.fingerprint (semanticInput (c.append opportunity.acquisitionOpportunityId)) ∧
  existing.eventId=eventId

lemma semanticInput_creation (i j:String) :
 semanticInput (c.append i)=semanticInput (c.append j):=rfl

lemma Extends.identity (ext:Extends s t){key:String}
 (h:rowOfIdentity s key=some row):∃row',rowOfIdentity t key=some row' ∧
  row'.acquisitionOpportunityId=row.acquisitionOpportunityId:=by
 have shown:∀u:Store,(rowKeys u).find? (fun k=>k.2==key) =
   (rowOfIdentity u key).map fun row=>(row.acquisitionOpportunityId,row.identityKey):=by
  intro u
  rw[rowKeys,List.find?_map]
  rfl
 obtain ⟨later,hl⟩:=ext.keys
 have found:=shown t
 rw[←hl,List.find?_append,shown s,h] at found
 obtain ⟨row',hr,same⟩:=Option.map_eq_some_iff.mp found.symm
 exact ⟨row',hr,congrArg Prod.fst same⟩

lemma existingIdentity_ok (readable:Readable db row) :
 existingIdentity rt s c a row=.ok result ↔ ∃q erow existing,projectionFromRow row=some q ∧
  creationRow s row.acquisitionOpportunityId=some erow ∧
  eventFromRow erow=some existing ∧ existing.idempotencyKey=c.idempotencyKey ∧
  existing.semanticFingerprint=rt.fingerprint (semanticInput a) ∧
  result=⟨q,existing,true⟩:=by
 obtain ⟨q,-,hq,-,-,-,named,-⟩:=readable.read
 simp only[existingIdentity,bind_ok,validated_ok,accepted_ok,refuseUnless_ok,creationRow]
 constructor
 · rintro ⟨q',hq',erow,he,existing,hx,_,key,_,same,h⟩
   obtain rfl:q=q':=Option.mem_unique hq hq'
   cases h
   exact ⟨q,erow,existing,hq,named ▸ he,hx,key,same,rfl⟩
 · rintro ⟨q',erow,existing,hq',he,hx,key,same,rfl⟩
   obtain rfl:q=q':=Option.mem_unique hq hq'
   exact ⟨q,hq,erow,by rw[named];exact he,existing,hx,(),key,(),same,rfl⟩

lemma rowOfIdentity_mem {key:String}
 (h:rowOfIdentity s key=some row):row∈s.opportunities ∧ row.identityKey=key:=
 Tables.find?_key h

lemma createOpportunity_founded (digests:Digests rt)(kept:Kept db s)
 (trimmedIdentity:trim c.identityKey=c.identityKey)
 (trimmed:trim c.idempotencyKey=c.idempotencyKey)
 (h:createOpportunity rt db s draw c=.ok (t,result)) :
 Founded rt t c result.event.eventId:=by
 simp only[createOpportunity] at h
 split at h
 · rename_i row hs
   obtain ⟨readable,-⟩:=kept.readable row (rowOfIdentity_mem hs).1
   simp only[bind_ok,existingIdentity_ok readable] at h
   obtain ⟨answer,⟨q,erow,existing,hq,he,hx,key,same,rfl⟩,h⟩:=h
   cases h
   exact ⟨row,erow,existing,hs,he,hx,key,same,rfl⟩
 · rename_i absent
   simp only[bind_ok,validated_ok] at h
   obtain ⟨event,hevent,projection,reduced,inserted,hinserted,h⟩:=h
   cases inserted with
   | none=>simp[absent,accepted,Bind.bind,Except.bind] at h
   | some u =>
    simp only[bind_ok] at h
    obtain ⟨v,hv,h⟩:=h
    cases h
    obtain ⟨erow,hrow,rfl⟩:=insertEvent_ok hv
    obtain ⟨id,values,hid,hvalues,fresh,rfl⟩:=insertOpportunityIfAbsent_ok hinserted
    obtain ⟨valid,machine,sequence,-,payload⟩:=newEvent_validates hevent
    obtain ⟨key,digest⟩:=newEvent_keys (a:=c.append draw.opportunityId) digests trimmed hevent
    obtain ⟨⟨owner,number,-⟩,f,hf,eid,fkey,fingerprint⟩:=written_read valid machine hrow
    obtain ⟨identity,pv⟩:=reduceEvent_none_identity payload reduced
    obtain ⟨g,-,x,-,-⟩:=eventFromRow_reread valid machine hrow
    obtain ⟨-,named⟩:=reduceEvent_none_mirrors x machine reduced
    have sameId:id=projection.acquisitionOpportunityId:=
     varchar_text pv.acquisitionOpportunityId le_rfl hid
    have sameKey:values.identityKey=c.identityKey:=by
     simp only[stableRef,text,trimmedIdentity,Option.ite_none_right_eq_some,
      Option.some.injEq] at identity
     rw[varchar_text pv.identityKey le_rfl (projectionValues_identity hvalues),identity.2]
    refine ⟨{values with acquisitionOpportunityId:=id},erow,f,?_,?_,hf,
     fkey.trans key,fingerprint.trans digest,eid⟩
    · rw[rowOfIdentity,List.find?_append]
      rw[rowOfIdentity] at absent
      rw[absent,Option.none_or,List.find?_singleton,sameKey]
      simp
    · have before:creationRow s id=none:=by
       refine List.find?_eq_none.mpr fun other ho=>?_
       obtain ⟨owning,hm,same⟩:=List.mem_map.mp (kept.owned other ho)
       simp only[Bool.and_eq_true,beq_iff_eq,not_and]
       exact fun taken=>absurd (same.trans taken) (fresh owning hm)
      change (s.events++[erow]).find? _=some erow
      rw[creationRow] at before
      rw[List.find?_append,before,Option.none_or,List.find?_singleton,owner,number,
       sequence,sameId,named]
      simp[Creation.append]

lemma Founded.replay (founded:Founded rt s c eventId)(ext:Extends s t) (kept:Kept db t) :
 ∃again,createOpportunity rt db t draw c=.ok (t,again) ∧ again.replayed=true ∧
  again.event.eventId=eventId ∧ ∃row∈s.events,eventFromRow row=some again.event:=by
 obtain ⟨opportunity,row,existing,hs,he,hx,key,same,rfl⟩:=founded
 obtain ⟨held,ht,sameId⟩:=ext.identity hs
 obtain ⟨readable,-⟩:=kept.readable held (rowOfIdentity_mem ht).1
 obtain ⟨q,-,hq,-⟩:=readable.read
 have answer:existingIdentity rt t c (c.append draw.opportunityId) held =.ok ⟨q,existing,true⟩:=
  (existingIdentity_ok readable).mpr
   ⟨q,row,existing,hq,sameId ▸ ext.find? he,hx,key,same,rfl⟩
 refine ⟨⟨q,existing,true⟩,?_,rfl,rfl,row,List.mem_of_find?_eq_some he,hx⟩
 simp only[createOpportunity,ht,answer,Bind.bind,Except.bind,pure,Except.pure]

lemma Founded.conflict {d:Creation}(founded:Founded rt s c eventId)
 (draw:Draw)(ext:Extends s t)(kept:Kept db t)(sameIdentity:d.identityKey=c.identityKey) :
 (d.idempotencyKey≠c.idempotencyKey →
  createOpportunity rt db t draw d=.error (.identityConflict d.identityKey)) ∧
 (d.idempotencyKey=c.idempotencyKey →
  Differ rt (d.append draw.opportunityId) (c.append draw.opportunityId) →
  createOpportunity rt db t draw d=.error (.idempotencyConflict d.idempotencyKey)):=by
 obtain ⟨opportunity,row,existing,hs,he,hx,key,same,rfl⟩:=founded
 obtain ⟨held,ht,sameId⟩:=ext.identity hs
 obtain ⟨readable,-⟩:=kept.readable held (rowOfIdentity_mem ht).1
 obtain ⟨q,-,hq,-,-,-,named,-⟩:=readable.read
 have first:t.events.find? (fun row=>
   row.acquisitionOpportunityId==q.acquisitionOpportunityId&&row.streamSequence==1) =
    some row:=by
  rw[named,sameId]
  exact ext.find? he
 rw[←sameIdentity] at ht
 constructor
 · intro other
   have apart:¬existing.idempotencyKey=d.idempotencyKey:=fun equal=>other (equal.symm.trans key)
   simp[createOpportunity,ht,existingIdentity,hq,first,hx,validated,accepted,
    refuseUnless,apart,Bind.bind,Except.bind]
 · intro sameKey differ
   have apart:¬existing.semanticFingerprint =
     rt.fingerprint (semanticInput (d.append draw.opportunityId)):=fun equal=>
    differ (equal.symm.trans (same.trans (congrArg rt.fingerprint (semanticInput_creation _ _))))
   simp[createOpportunity,ht,existingIdentity,hq,first,hx,validated,accepted,
    refuseUnless,key,sameKey,apart,Bind.bind,Except.bind]

lemma createOpportunity_not_replayed (kept:Kept db s)
 (blank:trim c.identityKey≠c.identityKey ∨ trim c.idempotencyKey≠c.idempotencyKey)
 (h:createOpportunity rt db s draw c=.ok (t,result)):result.replayed=false:=by
 simp only[createOpportunity] at h
 split at h
 · rename_i row hs
   obtain ⟨hm,hk⟩:=rowOfIdentity_mem hs
   obtain ⟨readable,trimmed⟩:=kept.readable row hm
   simp only[bind_ok,existingIdentity_ok readable] at h
   obtain ⟨answer,⟨q,erow,existing,hq,he,hx,key,same,rfl⟩,h⟩:=h
   exfalso
   rcases blank with identity|stream
   · exact identity (hk ▸ trimmed)
   · obtain ⟨e,valid,machine,stored⟩:=kept.written erow (List.mem_of_find?_eq_some he)
     obtain ⟨-,f,hf,-,fkey,-⟩:=written_read valid machine stored
     obtain rfl:f=existing:=Option.mem_unique hf hx
     rw[←key,fkey] at stream
     exact stream (text_trimmed valid.idempotencyKey).1
 · rename_i absent
   simp only[bind_ok] at h
   obtain ⟨event,_,projection,_,inserted,_,h⟩:=h
   cases inserted with
   | none=>simp[absent,accepted,Bind.bind,Except.bind] at h
   | some u =>
    simp only[bind_ok] at h
    obtain ⟨v,_,h⟩:=h
    cases h
    rfl

/-- `m` succeeded once and was committed, and any transactions followed: issued
again it replays its event, and another input under its key is refused, exactly
when its keys are written the way the models store them. -/
theorem reissue_iff_trimmed (rt:Runtime)(db:Backend)(strict:Strict db)
 (digests:Digests rt)(before later:List (List (Draw × Mutation)))(draw:Draw)
 (m:Mutation)(s:Store)(result:MutationResult)
 (first:mutate rt db (before.foldl (transact rt db) empty) draw m=.ok (s,result)) :
 (Replays rt db s result (later.foldl (transact rt db) s) m ∧
  Conflicts rt db (later.foldl (transact rt db) s) draw m) ↔ Trimmed rt draw m:=by
 obtain ⟨kept₀,-⟩:=transactions_kept rt strict kept_empty before
 obtain ⟨keptS,-⟩:=mutate_kept strict kept₀ first
 obtain ⟨kept,ext⟩:=transactions_kept rt strict keptS later
 generalize later.foldl (transact rt db) s=t at kept ext ⊢
 cases kind:creation? m with
 | some c =>
  obtain rfl:=creation?_some kind
  change createOpportunity rt db _ draw c=_ at first
  rw[trimmed_creation]
  constructor
  · rintro ⟨replays,-⟩
    obtain ⟨again,h,replayed,-⟩:=replays draw
    by_contra blank
    rw[not_and_or,or_comm] at blank
    rw[createOpportunity_not_replayed kept blank h] at replayed
    cases replayed
  · rintro ⟨stream,identity⟩
    have founded:=createOpportunity_founded digests kept₀ identity stream first
    refine ⟨fun _=>founded.replay ext kept,fun draw' c' sameIdentity=>?_⟩
    obtain ⟨otherKey,otherInput⟩:=founded.conflict draw' ext kept sameIdentity
    exact ⟨fun other=>refused_of_error (otherKey other),
     fun same differ=>refused_of_error (otherInput same differ)⟩
 | none =>
  unfold mutate at first
  rw[kind] at first
  change append rt db _ draw (m.append rt draw)=_ at first
  rw[trimmed_append kind]
  constructor
  · rintro ⟨replays,-⟩
    obtain ⟨again,h,replayed,-⟩:=replays draw
    unfold mutate at h
    rw[kind] at h
    by_contra blank
    rw[append_not_replayed kept blank h] at replayed
    cases replayed
  · intro stream
    have answered:=append_answered digests kept₀ stream first
    refine ⟨fun draw'=>?_,?_⟩
    · unfold mutate
      rw[kind,append_draw kind draw' draw]
      exact answered.replay ext kept
    · unfold Conflicts
      rw[kind]
      intro draw' m' other sameId sameKey differ
      refine refused_of_error ?_
      unfold mutate
      rw[other]
      exact answered.conflict ext kept sameId sameKey differ

lemma sampleRuntime_digests:Digests sampleRuntime:=by
 have digits:∀d∈["62ff05e4a85ba4a73feaf7b0e7796a20c171d0c39b9e9b02ceb8e867343c38a8",
   "e799b0b920e4ca3a816d65571dfe3399c5a1ada7afd14e4749888301ab857828",
   "b553b21668e30c15fcabfe2123a2abd72f7367914c486407ab08f8a1e1e2c354"],
   fingerprintField d=some d:=by decide +kernel
 intro input
 apply digits
 simp only[sampleRuntime]
 split <;> simp

def sampleAction (idempotencyKey:String):Mutation:=
 .setNextAction "o1" "find_decision_makers" 1 idempotencyKey .system none none

def sampleDraw:Draw:=⟨⟨1788249600000000,some 0⟩,"e2","o2"⟩

def sampleAnswer (idempotencyKey:String):Result (Store × MutationResult):=
 mutate sampleRuntime (postgresql 0) (((sampleTransactions "timeout").take 1).foldl
  (transact sampleRuntime (postgresql 0)) empty) sampleDraw (sampleAction idempotencyKey)

def sampleLater:List (List (Draw × Mutation)):=
 [[(⟨⟨1788249600000000,some 0⟩,"e3","o3"⟩,.scheduleRetry "o1" ⟨1788336000000000,some 0⟩
  "timeout" ["provider_timeout"] 2 "retry-1" .system none none)]]

theorem reissue_iff_trimmed_sample:∃s result,sampleAnswer "next-1"=.ok (s,result) ∧
 Replays sampleRuntime (postgresql 0) s result
  (sampleLater.foldl (transact sampleRuntime (postgresql 0)) s) (sampleAction "next-1") ∧
 Conflicts sampleRuntime (postgresql 0)
  (sampleLater.foldl (transact sampleRuntime (postgresql 0)) s) sampleDraw
  (sampleAction "next-1"):=by
 have accepted:(sampleAnswer "next-1").toBool=true:=by decide +kernel
 cases first:sampleAnswer "next-1" with
 | error e=>simp[first,Except.toBool] at accepted
 | ok answer =>
  obtain ⟨s,result⟩:=answer
  refine ⟨s,result,rfl,(reissue_iff_trimmed sampleRuntime (postgresql 0) (postgresql_strict 0)
   sampleRuntime_digests _ sampleLater sampleDraw (sampleAction "next-1") s result first).mpr ?_⟩
  intro key hk
  obtain rfl:key="next-1":=List.mem_singleton.mp hk
  decide

/-- Under a key with a leading blank the first issue succeeds, and the second
one, not found under that key, meets the version check. -/
theorem blank_key_not_replayed:∃s result,sampleAnswer " next-1"=.ok (s,result) ∧
 mutate sampleRuntime (postgresql 0) s sampleDraw (sampleAction " next-1") =
  .error (.concurrencyConflict "expected 1, found 2") ∧
 ¬Replays sampleRuntime (postgresql 0) s result s (sampleAction " next-1"):=by
 have refused:(match sampleAnswer " next-1" with
   | .ok (s,_) =>
    match mutate sampleRuntime (postgresql 0) s sampleDraw (sampleAction " next-1") with
    | .error e=>decide (e=.concurrencyConflict "expected 1, found 2")
    | .ok _=>false
   | .error _=>false)=true:=by decide +kernel
 cases first:sampleAnswer " next-1" with
 | error e=>simp[first] at refused
 | ok answer =>
  obtain ⟨s,result⟩:=answer
  rw[first] at refused
  cases second:mutate sampleRuntime (postgresql 0) s sampleDraw (sampleAction " next-1") with
  | ok again=>simp[second] at refused
  | error e =>
   simp only[second,decide_eq_true_eq] at refused
   subst refused
   refine ⟨s,result,rfl,second,fun replays=>?_⟩
   obtain ⟨again,h,-⟩:=replays sampleDraw
   rw[second] at h
   cases h

end Kivou.AcquisitionReplays
