import Kivou.AcquisitionReducer

set_option autoImplicit false

/-! The graph of states that the three tables allow together, and the proof that every reducer moves
along it. -/
namespace Kivou.AcquisitionLifecycle
open PythonValues AcquisitionContracts AcquisitionReducer

inductive Move:AcquisitionState→AcquisitionState→Prop where
 | stay (s:AcquisitionState):Move s s
 | table {s t:AcquisitionState}(listed:t∈transitions s):Move s t
 | climb {s t:AcquisitionState}{a b:ℕ}(low:outcomeRank s=some a)
   (high:outcomeRank t=some b)(higher:a<b):Move s t

variable {s t:AcquisitionState}{es:List AcquisitionEvent}

lemma Move.noSend (h:Move s t)(hs:s=.noSend):t=.noSend:=by
 subst hs
 cases h with
 | stay=>rfl
 | table listed=>simp[transitions] at listed
 | climb low=>simp[outcomeRank] at low

lemma Move.rank (h:Move s t){a:ℕ}(hs:outcomeRank s=some a) : ∃b,outcomeRank t=some b ∧ a≤b:=by
 cases h with
 | stay=>exact ⟨a,hs,le_refl a⟩
 | table listed =>
  -- Only SEND and QUEUED are both ranked and in the table, each with one successor.
  cases s <;> simp[outcomeRank] at hs <;> simp[transitions] at listed <;> subst listed hs
  · exact ⟨1,rfl,by omega⟩
  · exact ⟨2,rfl,by omega⟩
 | climb low high higher =>
  rw[hs,Option.some.injEq] at low
  exact ⟨_,high,by omega⟩

lemma Move.enters (h:Move s t)(hs:outcomeRank s=none) (ht:outcomeRank t≠none):t=.send:=by
 cases h with
 | stay=>exact absurd hs ht
 | table listed=>cases s <;> cases t <;> simp_all[outcomeRank,transitions]
 | climb low=>simp[hs] at low

def HoldReady (p:AcquisitionOpportunity):Prop:=p.reasonCodes≠[] ∧ p.nextReviewAt.isSome

/-- What one accepted event does to the parts of a projection the lifecycle is about. -/
structure Advance (p q:AcquisitionOpportunity):Prop where
 named:q.acquisitionOpportunityId=p.acquisitionOpportunityId
 version:q.streamVersion=p.streamVersion+1
 move:Move p.state q.state
 contact:∀r,p.contactRef=some r→q.contactRef=some r
 campaign:∀r,p.campaignRef=some r→q.campaignRef=some r
 held:q.state=.hold→p.state=.hold ∧ (HoldReady p→HoldReady q) ∨ HoldReady q

variable {fromisoformat:String→Option DateTime}
variable {p q:AcquisitionOpportunity}{e:AcquisitionEvent}

lemma orKeep_ne_nil {codes kept:List String}(h:kept≠[]):orKeep codes kept≠[]:=by
 unfold orKeep
 split <;> assumption

lemma orKeep_of_ne_nil {codes kept:List String}(h:codes≠[]):orKeep codes kept=codes:=by
 simp[orKeep,h]

lemma campaignBinding_kept {c:Option String}
 (h:campaignBinding p t e=.ok c)(r:String)(hr:p.campaignRef=some r) :
 c=some r:=by
 unfold campaignBinding at h
 split at h
 · split at h
   · simp[hr,raise] at h
   · simp[raise] at h
 · cases h
   exact hr

lemma transitioned_advance (hv:e.streamSequence=p.streamVersion+1)
 (h:transitioned fromisoformat p e=.ok q):Advance p q:=by
 simp only[transitioned,bind_ok,orRaise_ok,requireTransition,pure,Except.pure,Except.ok.injEq] at h
 obtain ⟨t,_,_,listed,review,_,_,hold,c,hc,rfl⟩:=h
 refine ⟨rfl,hv,.table (require_ok.mp listed),fun _ hr=>hr,campaignBinding_kept hc,?_⟩
 rintro (rfl:t=.hold)
 have hold:=require_ok.mp (given_ok.mp hold rfl)
 refine .inr ⟨?_,?_⟩
 · simpa[orKeep_of_ne_nil hold.1] using hold.1
 · obtain ⟨d,hd⟩:=Option.isSome_iff_exists.mp hold.2
   simp[hd]

lemma decisionRecorded_advance (hv:e.streamSequence=p.streamVersion+1)
 (h:decisionRecorded fromisoformat p e=.ok q):Advance p q:=by
 simp only[decisionRecorded,bind_ok,orRaise_ok,requireTransition,pure,Except.pure,
  Except.ok.injEq] at h
 obtain ⟨d,_,_,listed,action,_,review,_,_,hold,rfl⟩:=h
 refine ⟨rfl,hv,.table (require_ok.mp listed),fun _ hr=>hr,fun _ hr=>hr,fun hs=>.inr ?_⟩
 have hd:d=.hold:=by cases d <;> simp_all[decisionStates]
 have ready:e.reasonCodes≠[] ∧ review.isSome:=require_ok.mp (given_ok.mp hold hd)
 exact ready

lemma outcomeRecorded_advance (hv:e.streamSequence=p.streamVersion+1)
 (h:outcomeRecorded p e=.ok q):Advance p q:=by
 obtain ⟨t,held,reached,-,low,high,rfl⟩:=outcomeRecorded_ok.mp h
 refine ⟨rfl,hv,?_,fun _ hr=>hr,fun _ hr=>hr,?_⟩
 · by_cases higher:held<reached
   · simpa only[higher,↓reduceIte] using Move.climb low high higher
   · simpa only[higher,↓reduceIte] using Move.stay p.state
 · intro hs
   -- A ranked state is not HOLD, whichever of the two was kept.
   split at hs
   · subst hs
     simp[outcomeRank] at high
   · change p.state=.hold at hs
     rw[hs] at low
     simp[outcomeRank] at low

lemma nextActionSet_advance (hv:e.streamSequence=p.streamVersion+1)
 (h:nextActionSet p e=.ok q):Advance p q:=by
 obtain ⟨-,⟨-,reasons,rfl⟩|⟨action,-,-,rfl⟩⟩:=nextActionSet_ok.mp h
 · exact ⟨rfl,hv,.stay _,fun _ hr=>hr,fun _ hr=>hr,fun hs=>.inl ⟨hs,fun ready=>⟨reasons,ready.2⟩⟩⟩
 · exact ⟨rfl,hv,.stay _,fun _ hr=>hr,fun _ hr=>hr,fun hs=>.inl ⟨hs,id⟩⟩

lemma retryScheduled_advance (hv:e.streamSequence=p.streamVersion+1)
 (h:retryScheduled fromisoformat p e=.ok q):Advance p q:=by
 obtain ⟨retryAt,errorCategory,-,-,-,rfl⟩:=retryScheduled_ok.mp h
 exact ⟨rfl,hv,.stay _,fun _ hr=>hr,fun _ hr=>hr,
  fun hs=>.inl ⟨hs,fun ready=>⟨orKeep_ne_nil ready.1,ready.2⟩⟩⟩

lemma contactSelected_advance (hv:e.streamSequence=p.streamVersion+1)
 (h:contactSelected p e=.ok q):Advance p q:=by
 obtain ⟨-,-,supplierRef,contactRef,-,-,-,fresh,-,-,rfl⟩:=contactSelected_ok.mp h
 refine ⟨rfl,hv,.stay _,fun r hr=>?_,fun _ hr=>hr,fun hs=>.inl ⟨hs,id⟩⟩
 rw[fresh] at hr
 cases hr

lemma commonUpdates_advance (hv:e.streamSequence=p.streamVersion+1) :
 Advance p (commonUpdates p e):=
 ⟨rfl,hv,.stay _,fun _ hr=>hr,fun _ hr=>hr,fun hs=>.inl ⟨hs,id⟩⟩

lemma reduceEvent_advance (h:reduceEvent fromisoformat (some p) e=.ok q):Advance p q:=by
 unfold reduceEvent at h
 split at h
 · simp only[reduceV1,require_bind_ok] at h
   obtain ⟨-,hv,h⟩:=h
   split at h
   · exact transitioned_advance hv h
   · exact decisionRecorded_advance hv h
   · exact outcomeRecorded_advance hv h
   · exact nextActionSet_advance hv h
   · exact retryScheduled_advance hv h
   · exact contactSelected_advance hv h
   · cases h;exact commonUpdates_advance hv
   · cases h;exact commonUpdates_advance hv
   · simp[raise] at h
 · cases h

lemma reduceEvent_owner (h:reduceEvent fromisoformat (some p) e=.ok q) :
 e.acquisitionOpportunityId=p.acquisitionOpportunityId:=by
 unfold reduceEvent at h
 split at h
 · simp only[reduceV1,require_bind_ok] at h
   exact h.1
 · cases h

lemma reduceEvent_created (h:reduceEvent fromisoformat none e=.ok q) :
 q.state=.discovered ∧ q.streamVersion=1:=by
 unfold reduceEvent at h
 split at h
 · simp only[reduceV1] at h
   split at h
   · obtain ⟨-,_,_,_,_,_,-,-,-,-,-,fields⟩:=created_ok.mp h
     exact ⟨fields.state.symm,(positiveField_eq fields.streamVersion).1⟩
   · simp[raise] at h
 · cases h

structure Follows (p q:AcquisitionOpportunity):Prop where
 noSend:p.state=.noSend→q.state=.noSend
 rank:∀a,outcomeRank p.state=some a→∃b,outcomeRank q.state=some b ∧ a≤b
 contact:∀r,p.contactRef=some r→q.contactRef=some r
 campaign:∀r,p.campaignRef=some r→q.campaignRef=some r

lemma Follows.refl (p:AcquisitionOpportunity):Follows p p:=
 ⟨id,fun a h=>⟨a,h,le_refl a⟩,fun _ h=>h,fun _ h=>h⟩

lemma Follows.trans {p q r:AcquisitionOpportunity}(h:Follows p q)(k:Follows q r) :
 Follows p r:=by
 refine ⟨k.noSend ∘ h.noSend,fun a ha=>?_,fun x hx=>k.contact x (h.contact x hx),
  fun x hx=>k.campaign x (h.campaign x hx)⟩
 obtain ⟨b,hb,ab⟩:=h.rank a ha
 obtain ⟨c,hc,bc⟩:=k.rank b hb
 exact ⟨c,hc,ab.trans bc⟩

lemma Advance.follows (h:Advance p q):Follows p q:=
 ⟨h.move.noSend,fun _=>h.move.rank,h.contact,h.campaign⟩

/-- A projection reached after `n` events. -/
structure Settled (n:ℕ)(p:AcquisitionOpportunity):Prop where
 version:p.streamVersion=n
 hold:p.state=.hold→HoldReady p

lemma Advance.settled {n:ℕ}(h:Advance p q)(hp:Settled n p):Settled (n+1) q:=by
 refine ⟨by rw[h.version,hp.version],fun hs=>?_⟩
 rcases h.held hs with ⟨was,kept⟩|ready
 · exact kept (hp.hold was)
 · exact ready

lemma replayFrom_append (c:Option AcquisitionOpportunity)(xs ys:List AcquisitionEvent) :
 replayFrom fromisoformat c (xs++ys) =
  replayFrom fromisoformat c xs >>= fun d=>replayFrom fromisoformat d ys:=by
 induction xs generalizing c with
 | nil=>rfl
 | cons x xs ih =>
  simp only[List.cons_append,replayFrom,bind_assoc]
  exact bind_congr fun d=>ih (some d)

lemma replayFrom_some {n:ℕ}(hp:Settled n p)
 {d:Option AcquisitionOpportunity}(h:replayFrom fromisoformat (some p) es=.ok d) :
 ∃q,d=some q ∧ Follows p q ∧ Settled (n+es.length) q:=by
 induction es generalizing p n with
 | nil=>cases h;exact ⟨p,rfl,.refl p,hp⟩
 | cons e es ih =>
  simp only[replayFrom,bind_ok] at h
  obtain ⟨r,hr,h⟩:=h
  have adv:=reduceEvent_advance hr
  obtain ⟨q,rfl,follows,settled⟩:=ih (adv.settled hp) h
  refine ⟨q,rfl,adv.follows.trans follows,?_⟩
  simpa[Nat.add_comm,Nat.add_left_comm] using settled

lemma replayFrom_none (ne:es≠[])
 {d:Option AcquisitionOpportunity}(h:replayFrom fromisoformat none es=.ok d) :
 ∃q,d=some q ∧ Settled es.length q:=by
 cases es with
 | nil=>exact absurd rfl ne
 | cons e es =>
  simp only[replayFrom,bind_ok] at h
  obtain ⟨r,hr,h⟩:=h
  obtain ⟨hs,hv⟩:=reduceEvent_created hr
  have start:Settled 1 r:=⟨hv,fun hold=>by simp[hs] at hold⟩
  obtain ⟨q,rfl,-,settled⟩:=replayFrom_some start h
  exact ⟨q,rfl,by simpa[Nat.add_comm] using settled⟩

lemma replay_ok {q:AcquisitionOpportunity} :
 replay fromisoformat es=.ok q ↔ replayFrom fromisoformat none es=.ok (some q):=by
 simp only[replay,bind_ok]
 constructor
 · rintro ⟨d,hd,h⟩
   cases d with
   | none=>simp[raise] at h
   | some d=>cases h;exact hd
 · intro h
   exact ⟨some q,h,rfl⟩

lemma replay_prefix {xs ys:List AcquisitionEvent}(ne:xs≠[])
 (h:replay fromisoformat (xs++ys)=.ok q) :
 ∃p,replay fromisoformat xs=.ok p ∧ Settled xs.length p ∧
  replayFrom fromisoformat (some p) ys=.ok (some q):=by
 rw[replay_ok,replayFrom_append,bind_ok] at h
 obtain ⟨d,hd,h⟩:=h
 obtain ⟨p,rfl,settled⟩:=replayFrom_none ne hd
 exact ⟨p,replay_ok.mpr hd,settled,h⟩

/-- The lifecycle over whole streams: for every accepted stream and every two of
its prefixes, the longer one keeps NO_SEND, the outcome rank and the bound
references of the shorter, counts its events, and holds with a reason and a
date; the ranked states are entered at SEND only. -/
theorem replay_lifecycle (fromisoformat:String→Option DateTime)
 (events:List AcquisitionEvent)(final:AcquisitionOpportunity)
 (accepted:replay fromisoformat events=.ok final) :
 (∀xs ys zs,events=xs++ys++zs→xs≠[] →
  ∃p q,replay fromisoformat xs=.ok p ∧ replay fromisoformat (xs++ys)=.ok q ∧
   Settled xs.length p ∧ Settled (xs++ys).length q ∧ Follows p q) ∧
 (∀xs e zs,events=xs++e::zs→∀q,replay fromisoformat (xs++[e])=.ok q →
  outcomeRank q.state≠none→q.state=.send ∨
   ∃p,replay fromisoformat xs=.ok p ∧ outcomeRank p.state≠none):=by
 constructor
 · rintro xs ys zs rfl ne
   obtain ⟨q,hq,sq,-⟩:= replay_prefix (by simp[ne]) accepted
   obtain ⟨p,hp,sp,hpq⟩:= replay_prefix ne hq
   obtain ⟨q',he,follows,-⟩:=replayFrom_some sp hpq
   cases he
   exact ⟨p,q,hp,hq,sp,sq,follows⟩
 · rintro xs e zs rfl q hq ranked
   by_cases ne:xs=[]
   · subst ne
     rw[replay_ok] at hq
     simp only[List.nil_append,replayFrom,bind_ok,Except.ok.injEq,Option.some.injEq] at hq
     obtain ⟨r,hr,rfl⟩:=hq
     rw[(reduceEvent_created hr).1] at ranked
     exact absurd rfl ranked
   · obtain ⟨p,hp,-,hpq⟩:= replay_prefix ne hq
     simp only[replayFrom,bind_ok,Except.ok.injEq,Option.some.injEq] at hpq
     obtain ⟨r,hr,rfl⟩:=hpq
     by_cases was:outcomeRank p.state=none
     · exact .inl ((reduceEvent_advance hr).move.enters was ranked)
     · exact .inr ⟨p,hp,was⟩

def sampleEvent (sequence:ℕ)(eventType:EventType)(reasonCodes:List String)
 (payload:Payload):AcquisitionEvent:=
 { eventId:="e"++toString sequence
   acquisitionOpportunityId:="o"
   streamSequence:=sequence
   eventType:=eventType
   schemaVersion:=eventSchemaVersion
   stateMachineVersion:=stateMachineVersion
   occurredAt:=⟨1788249600000000,some 0⟩
   recordedAt:=⟨1788249600000000,some 0⟩
   actorType:=.system
   actorRef:=none
   idempotencyKey:="k"++toString sequence
   semanticFingerprint:=String.ofList (List.replicate 64 '0')
   correlationId:=none
   causationId:=none
   reasonCodes:=reasonCodes
   evidenceRefs:=[]
   policyVersion:=none
   skillVersion:=none
   supervisorVersion:=none
   confidence:=none
   estimatedCost:=none
   payload:=payload}

def sampleStream:List AcquisitionEvent:=[sampleEvent 1 .opportunityCreated []
   [("identity_key",.str "i"),("signal_ref",.str "s"),("supplier_ref",.str "p")],
  sampleEvent 2 .contactSelected [] [("contact_ref",.str "c"),("supplier_ref",.str "p")],
  sampleEvent 3 .stateTransitioned [] [("target_state",.str "ENRICHING")],
  sampleEvent 4 .stateTransitioned [] [("target_state",.str "READY_FOR_DECISION")],
  sampleEvent 5 .decisionRecorded ["wait"]
   [("decision",.str "HOLD"),("next_review_at",.str "2026-10-01T09:00:00+00:00")],
  sampleEvent 6 .nextActionSet ["none_left"] [("next_action",.null)],
  sampleEvent 7 .stateTransitioned [] [("target_state",.str "REVIEW")],
  sampleEvent 8 .decisionRecorded ["fit"] [("decision",.str "SEND")],
  sampleEvent 9 .stateTransitioned ["due"]
   [("target_state",.str "QUEUED"),("campaign_ref",.str "m")],
  sampleEvent 10 .outcomeRecorded [] [("outcome_state",.str "PAID")],
  sampleEvent 11 .outcomeRecorded [] [("outcome_state",.str "REPLIED")]]

def sampleDates (s:String):Option DateTime:=
 if s="2026-10-01T09:00:00+00:00" then some ⟨1790845200000000,some 0⟩ else none

theorem replay_lifecycle_sample:∃p q,
 replay sampleDates (sampleStream.take 5)=.ok p ∧ replay sampleDates sampleStream=.ok q ∧
  p.state=.hold ∧ HoldReady p ∧ q.state=.paid ∧ q.streamVersion=11 ∧ Follows p q:=by
 have accepted:∃final,replay sampleDates sampleStream=.ok final ∧ final.state=.paid:=⟨_,rfl,rfl⟩
 obtain ⟨final,hf,paid⟩:=accepted
 obtain ⟨p,q,hp,hq,sp,sq,follows⟩:=(replay_lifecycle sampleDates sampleStream final hf).1
  (sampleStream.take 5) (sampleStream.drop 5) [] (by simp) (by decide)
 have held:∃r,replay sampleDates (sampleStream.take 5)=.ok r ∧ r.state=.hold:=⟨_,rfl,rfl⟩
 obtain ⟨r,hr,hold⟩:=held
 rw[hr] at hp
 cases hp
 rw[List.take_append_drop] at hq sq
 rw[hf] at hq
 cases hq
 exact ⟨p,final,hr,hf,hold,sp.hold hold,paid,sq.version,follows⟩

end Kivou.AcquisitionLifecycle
