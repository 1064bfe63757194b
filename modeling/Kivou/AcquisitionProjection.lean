import Kivou.AcquisitionLifecycle
import Kivou.AcquisitionStore
import Kivou.Runs

set_option autoImplicit false

/-! A projection row is written from the reducer's result and read through the model's validation;
the replay reduces events that were themselves written and read. Both sides are compared column by
column. -/
namespace Kivou.AcquisitionProjection
open PythonValues Columns AcquisitionContracts AcquisitionReducer AcquisitionStore
open AcquisitionLifecycle (replayFrom_append replay_ok)

variable {db:Backend}{rt:Runtime}

section
-- Matching a column's `read` against the model's check must not run the check.
attribute [local irreducible] text texts fingerprintField awareField

def textColumn (db:Backend)(size limit:ℕ):Column String:=⟨db.varchar size,text limit,id⟩

def numberColumn (db:Backend)(precision scale:ℕ)(check:ℚ→Option ℚ):Column ℚ:=
 ⟨db.numeric precision scale,check,id⟩

def dateColumn (db:Backend):Column DateTime:=
 ⟨db.timestamp,fun t=>awareField (assumeUtc t),DateTime.toUtc⟩

lemma awareField_assumeUtc (d:DateTime):awareField (assumeUtc d)=some (assumeUtc d):=by
 unfold awareField
 simp[assumeUtc,DateTime.aware]

variable {size n s:ℕ}{d:Decision}{action:Option String}

lemma textColumn_reads {s:String}(h:text n s=some s)(hn:n ≤ size) :
 (textColumn db size n).Reads s s:=by
 intro t ht
 have fits:s.length ≤ size:=(text_trimmed h).2.2.trans hn
 obtain rfl:=db.varchar_fits ht fits
 exact ⟨t,h,rfl⟩

lemma textColumn_stable (hn:n ≤ size):(textColumn db size n).Stable:=
 fun _ _ _ _ hb=>textColumn_reads (text_idem hb) hn

lemma nullableText_reads {s:Option String}(h:whenPresent (text n) s=some s)
 (hn:n ≤ size):(textColumn db size n).nullable.Reads s s:=by
 cases s with
 | none=>exact .none
 | some s =>
  simp only[whenPresent,Option.map_eq_some_iff,Option.some.injEq,exists_eq_right] at h
  exact (textColumn_reads h hn).some

lemma unitColumn_stable {p:ℕ}:(numberColumn db p s unitField).Stable:=by
 intro a t b ha hb u hu
 obtain ⟨rfl,hr⟩:=unitField_eq hb
 obtain rfl:=db.numeric_stable ha hu
 exact ⟨u,hb,rfl⟩

lemma nonNegativeColumn_stable {p:ℕ}:(numberColumn db p s nonNegativeField).Stable:=by
 intro a t b ha hb u hu
 obtain ⟨rfl,hr⟩:=nonNegativeField_eq hb
 obtain rfl:=db.numeric_stable ha hu
 exact ⟨u,hb,rfl⟩

lemma dateColumn_stable:(dateColumn db).Stable:=by
 intro a t b ha hb u hu
 obtain ⟨rfl,-⟩:=awareField_eq hb
 exact ⟨_,awareField_assumeUtc u,db.timestamp_stable ha hu⟩

lemma whenPresent_assumeUtc (d:Option DateTime) :
 whenPresent awareField (d.map assumeUtc)=(dateColumn db).nullable.read d:=by
 cases d <;> rfl

lemma shortCode_version:shortCode stateMachineVersion=some stateMachineVersion:=
 text_eq_self (by decide) (by decide) (by decide)

/-- The row written for `p` reads as `r`. -/
structure Mirrors (db:Backend)(p r:AcquisitionOpportunity):Prop where
 acquisitionOpportunityId : identifier p.acquisitionOpportunityId=some r.acquisitionOpportunityId
 identityKey:(textColumn db 256 256).Reads p.identityKey r.identityKey
 state:p.state=r.state
 streamVersion:positiveField p.streamVersion=some r.streamVersion
 stateMachineVersion:p.stateMachineVersion=AcquisitionContracts.stateMachineVersion ∧
  r.stateMachineVersion=AcquisitionContracts.stateMachineVersion
 signalRef:(textColumn db 256 256).Reads p.signalRef r.signalRef
 supplierRef:(textColumn db 256 256).nullable.Reads p.supplierRef r.supplierRef
 contactRef:(textColumn db 256 256).nullable.Reads p.contactRef r.contactRef
 campaignRef:(textColumn db 256 256).nullable.Reads p.campaignRef r.campaignRef
 decision:p.decision=r.decision
 reasonCodes:texts 100 maxReasonCodes p.reasonCodes=some r.reasonCodes
 confidence:(numberColumn db 5 4 unitField).nullable.Reads p.confidence r.confidence
 evidenceRefs:texts 100 maxEvidenceRefs p.evidenceRefs=some r.evidenceRefs
 nextAction:(textColumn db 100 100).nullable.Reads p.nextAction r.nextAction
 nextReviewAt:(dateColumn db).nullable.Reads p.nextReviewAt r.nextReviewAt
 retryCount:p.retryCount=r.retryCount
 retryAt:(dateColumn db).nullable.Reads p.retryAt r.retryAt
 lastErrorCategory : (textColumn db 100 100).nullable.Reads p.lastErrorCategory r.lastErrorCategory
 policyVersion:(textColumn db 100 100).nullable.Reads p.policyVersion r.policyVersion
 skillVersion:(textColumn db 100 100).nullable.Reads p.skillVersion r.skillVersion
 supervisorVersion : (textColumn db 100 100).nullable.Reads p.supervisorVersion r.supervisorVersion
 estimatedCost :
  (numberColumn db 18 6 nonNegativeField).nullable.Reads p.estimatedCost r.estimatedCost
 lastEventId:(textColumn db 64 64).Reads p.lastEventId r.lastEventId
 createdAt:(dateColumn db).Reads p.createdAt r.createdAt
 updatedAt:(dateColumn db).Reads p.updatedAt r.updatedAt

lemma Mirrors.reread {p r row:AcquisitionOpportunity}(m:Mirrors db p r)
 (hs:projectionValues db p=some row) :
 ∃q,projectionFromRow row=some q ∧ q.view=r.view ∧ Mirrors db q r ∧
  row.acquisitionOpportunityId=p.acquisitionOpportunityId:=by
 obtain ⟨_,_,_,w1,w2,w3,hs⟩:=of_three hs
 obtain ⟨_,_,_,w4,w5,w6,hs⟩:=of_three hs
 obtain ⟨_,_,_,w7,w8,w9,hs⟩:=of_three hs
 obtain ⟨_,_,_,w10,w11,w12,hs⟩:=of_three hs
 obtain ⟨_,_,_,w13,w14,w15,hs⟩:=of_three hs
 obtain ⟨_,_,_,w16,w17,w18,hs⟩:=of_three hs
 cases hs
 obtain ⟨a1,r1,v1,m1⟩:=(textColumn_stable le_rfl).reread m.identityKey w1
 obtain ⟨a3,r3,v3,m3⟩:=(textColumn_stable le_rfl).reread m.signalRef w3
 obtain ⟨a4,r4,v4,m4⟩:=(textColumn_stable le_rfl).nullable.reread m.supplierRef w4
 obtain ⟨a5,r5,v5,m5⟩:=(textColumn_stable le_rfl).nullable.reread m.contactRef w5
 obtain ⟨a6,r6,v6,m6⟩:=(textColumn_stable le_rfl).nullable.reread m.campaignRef w6
 obtain ⟨a7,r7,v7,m7⟩:=unitColumn_stable.nullable.reread m.confidence w7
 obtain ⟨a8,r8,v8,m8⟩:=(textColumn_stable le_rfl).nullable.reread m.nextAction w8
 obtain ⟨a9,r9,v9,m9⟩:=dateColumn_stable.nullable.reread m.nextReviewAt w9
 obtain ⟨a10,r10,v10,m10⟩:=dateColumn_stable.nullable.reread m.retryAt w10
 obtain ⟨a11,r11,v11,m11⟩:=(textColumn_stable le_rfl).nullable.reread m.lastErrorCategory w11
 obtain ⟨a12,r12,v12,m12⟩:=(textColumn_stable le_rfl).nullable.reread m.policyVersion w12
 obtain ⟨a13,r13,v13,m13⟩:=(textColumn_stable le_rfl).nullable.reread m.skillVersion w13
 obtain ⟨a14,r14,v14,m14⟩:=(textColumn_stable le_rfl).nullable.reread m.supervisorVersion w14
 obtain ⟨a15,r15,v15,m15⟩:=nonNegativeColumn_stable.nullable.reread m.estimatedCost w15
 obtain ⟨a16,r16,v16,m16⟩:=(textColumn_stable le_rfl).reread m.lastEventId w16
 obtain ⟨a17,r17,v17,m17⟩:=dateColumn_stable.reread m.createdAt w17
 obtain ⟨a18,r18,v18,m18⟩:=dateColumn_stable.reread m.updatedAt w18
 rw[m.stateMachineVersion.1] at w2
 obtain rfl:=db.varchar_fits w2 (by decide)
 refine ⟨{r with
  identityKey:=a1,signalRef:=a3,supplierRef:=a4,contactRef:=a5,campaignRef:=a6,
  confidence:=a7,nextAction:=a8,nextReviewAt:=a9,retryAt:=a10,
  lastErrorCategory:=a11,policyVersion:=a12,skillVersion:=a13,
  supervisorVersion:=a14,estimatedCost:=a15,lastEventId:=a16,createdAt:=a17,
  updatedAt:=a18},?_,?_,?_,rfl⟩
 · refine AcquisitionOpportunity.modelValidate_iff.mpr ⟨m.acquisitionOpportunityId,r1,m.state,
    m.streamVersion,?_,r3,r4,r5,r6,m.decision,m.reasonCodes,r7,m.evidenceRefs,r8,?_,
    m.retryCount,?_,r11,r12,r13,r14,r15,r16,r17,r18⟩
   · rw[m.stateMachineVersion.2]
     exact shortCode_version
   · rw[←r9]
     exact whenPresent_assumeUtc _
   · rw[←r10]
     exact whenPresent_assumeUtc _
 · simp only[textColumn,numberColumn,dateColumn,Column.nullable,Option.map_id_fun,id]
    at v1 v3 v4 v5 v6 v7 v8 v9 v10 v11 v12 v13 v14 v15 v16 v17 v18
   simp only[AcquisitionOpportunity.view,v1,v3,v4,v5,v6,v7,v8,v9,v10,v11,v12,v13,
    v14,v15,v16,v17,v18]
 · exact {
    acquisitionOpportunityId:=text_idem m.acquisitionOpportunityId
    identityKey:=m1
    state:=rfl
    streamVersion:=positiveField_idem m.streamVersion
    stateMachineVersion:=⟨m.stateMachineVersion.2,m.stateMachineVersion.2⟩
    signalRef:=m3
    supplierRef:=m4
    contactRef:=m5
    campaignRef:=m6
    decision:=rfl
    reasonCodes:=texts_idem m.reasonCodes
    confidence:=m7
    evidenceRefs:=texts_idem m.evidenceRefs
    nextAction:=m8
    nextReviewAt:=m9
    retryCount:=rfl
    retryAt:=m10
    lastErrorCategory:=m11
    policyVersion:=m12
    skillVersion:=m13
    supervisorVersion:=m14
    estimatedCost:=m15
    lastEventId:=m16
    createdAt:=m17
    updatedAt:=m18}

/-- `f` is the validated event `e` after a round trip through its row: only the
numbers and the dates can differ. -/
structure Reread (db:Backend)(e f:AcquisitionEvent):Prop where
 shape:f={e with
  occurredAt:=f.occurredAt
  recordedAt:=f.recordedAt
  confidence:=f.confidence
  estimatedCost:=f.estimatedCost}
 written:e.Validates e
 read:f.Validates f
 recordedAt:(dateColumn db).Reads e.recordedAt f.recordedAt
 confidence:(numberColumn db 5 4 unitField).nullable.Reads e.confidence f.confidence
 estimatedCost :
  (numberColumn db 18 6 nonNegativeField).nullable.Reads e.estimatedCost f.estimatedCost
 absent:f.confidence=none ↔ e.confidence=none

lemma varchar_text {s t:String}(hs:text n s=some s)(hn:n ≤ size) (h:db.varchar size s=some t):t=s:=
 db.varchar_fits h ((text_trimmed hs).2.2.trans hn)

lemma varchar_nullableText {s t:Option String} (hs:whenPresent (text n) s=some s)(hn:n ≤ size)
 (h:whenPresent (db.varchar size) s=some t):t=s:=by
 cases s with
 | none=>cases h;rfl
 | some s =>
  simp only[whenPresent,Option.map_eq_some_iff,Option.some.injEq,exists_eq_right] at hs h
  obtain ⟨u,hu,rfl⟩:=h
  rw[varchar_text hs hn hu]

lemma nullableNumber_read {p:ℕ}{check:ℚ→Option ℚ}{q t:Option ℚ}
 (kept:∀ {q r},check q=some q→db.numeric p s q=some r→check r=some r)
 (hq:whenPresent check q=some q)(h:whenPresent (db.numeric p s) q=some t) :
 whenPresent check t=some t ∧ (numberColumn db p s check).nullable.Reads q t ∧ (t=none ↔ q=none):=by
 cases q with
 | none=>cases h;exact ⟨rfl,.none,Iff.rfl⟩
 | some q =>
  simp only[whenPresent,Option.map_eq_some_iff,Option.some.injEq,exists_eq_right] at hq h
  obtain ⟨u,hu,rfl⟩:=h
  have checked:=kept hq hu
  refine ⟨by simp[whenPresent,checked],Column.Reads.some fun v hv=>?_,by simp⟩
  obtain rfl:u=v:=Option.mem_unique hu hv
  exact ⟨u,checked,rfl⟩

lemma unitField_written {p:ℕ}{q r:ℚ}(hq:unitField q=some q)
 (h:db.numeric p s q=some r):unitField r=some r:=by
 obtain ⟨-,h0,h1⟩:=unitField_eq hq
 simp[unitField,db.numeric_nonneg h h0,db.numeric_le_one h h0 h1]

lemma nonNegativeField_written {p:ℕ}{q r:ℚ}(hq:nonNegativeField q=some q)
 (h:db.numeric p s q=some r):nonNegativeField r=some r:=by
 obtain ⟨-,h0⟩:=nonNegativeField_eq hq
 simp[nonNegativeField,db.numeric_nonneg h h0]

lemma eventFromRow_reread {e row:AcquisitionEvent}(v:e.Validates e)
 (version:e.stateMachineVersion=stateMachineVersion)
 (hs:eventValues db e=some row) :
 ∃f,eventFromRow row=some f ∧ Reread db e f ∧
  row.acquisitionOpportunityId=e.acquisitionOpportunityId ∧
  row.streamSequence=e.streamSequence:=by
 obtain ⟨_,_,_,w1,w2,w3,hs⟩:=of_three hs
 obtain ⟨o,r,_,w4,w5,w6,hs⟩:=of_three hs
 obtain ⟨_,_,_,w7,w8,w9,hs⟩:=of_three hs
 obtain ⟨_,_,_,w10,w11,w12,hs⟩:=of_three hs
 obtain ⟨_,c,k,w13,w14,w15,hs⟩:=of_three hs
 cases hs
 obtain rfl:=varchar_text v.eventId le_rfl w1
 obtain rfl:=varchar_text v.acquisitionOpportunityId le_rfl w2
 obtain rfl:=db.varchar_fits w3 (by rw[version];decide)
 obtain rfl:=varchar_nullableText v.actorRef le_rfl w6
 obtain rfl:=varchar_text v.idempotencyKey le_rfl w7
 obtain rfl:=db.varchar_fits w8 (fingerprintField_length v.semanticFingerprint).le
 obtain rfl:=varchar_nullableText v.correlationId le_rfl w9
 obtain rfl:=varchar_nullableText v.causationId le_rfl w10
 obtain rfl:=varchar_nullableText v.policyVersion le_rfl w11
 obtain rfl:=varchar_nullableText v.skillVersion le_rfl w12
 obtain rfl:=varchar_nullableText v.supervisorVersion le_rfl w13
 obtain ⟨c1,c2,c3⟩:=nullableNumber_read unitField_written v.confidence w14
 obtain ⟨k1,k2,-⟩:=nullableNumber_read nonNegativeField_written v.estimatedCost w15
 let f:AcquisitionEvent:={e with
  occurredAt:=assumeUtc o,recordedAt:=assumeUtc r,confidence:=c,estimatedCost:=k}
 have valid:f.Validates f:={v with
  occurredAt:=awareField_assumeUtc o
  recordedAt:=awareField_assumeUtc r
  confidence:=c1
  estimatedCost:=k1}
 refine ⟨f,AcquisitionEvent.modelValidate_iff.mpr valid,⟨rfl,v,valid,?_,c2,k2,c3⟩,rfl,rfl⟩
 intro t ht
 obtain rfl:r=t:=Option.some.inj (w5.symm.trans ht)
 exact ⟨_,awareField_assumeUtc r,rfl⟩

/-- What the columns leave alone of the texts a payload writes into the
projection unchecked: the error category, and the instants of its dates. -/
structure Faithful (db:Backend)(fromisoformat:String→Option DateTime)
  (eventType:EventType)(payload:Payload):Prop where
 errorCategory:eventType=.retryScheduled→∀s,payload.get "error_category"=.str s →
  strip s≠""→(textColumn db 100 100).Reads s s
 dates:∀key∈["next_review_at","retry_at"],∀v d,payload.get key=.str v →
  fromisoformat v=some d→d.aware=true→(dateColumn db).Reads d d

variable {fromisoformat:String→Option DateTime}
variable {p q r:AcquisitionOpportunity}{e f:AcquisitionEvent}

lemma eq_of_view (same:p.view=r.view) :
 ∃a b c d,r={p with nextReviewAt:=a,retryAt:=b,createdAt:=c,updatedAt:=d}:=by
 refine ⟨r.nextReviewAt,r.retryAt,r.createdAt,r.updatedAt,?_⟩
 cases p
 cases r
 simp only[AcquisitionOpportunity.view,AcquisitionOpportunity.mk.injEq] at same ⊢
 simp only[same,and_self]

lemma Reread.exists (x:Reread db e f) :
 ∃o d c k,f={e with occurredAt:=o,recordedAt:=d,confidence:=c,estimatedCost:=k}:=
 ⟨_,_,_,_,x.shape⟩

lemma datetimePayload_reads (faithful:Faithful db fromisoformat e.eventType e.payload)
 {key:String}(hk:key∈["next_review_at","retry_at"]){d:Option DateTime}
 (h:datetimePayload fromisoformat e.payload key=.ok d) :
 (dateColumn db).nullable.Reads d d:=by
 unfold datetimePayload at h
 split at h
 · cases h
   exact .none
 · rename_i v hv
   split at h
   · rename_i parsed hp
     split at h
     · rename_i aware
       cases h
       exact (faithful.dates key hk v parsed hv hp aware).some
     · simp[raise] at h
   · simp[raise] at h
 · simp[raise] at h

lemma texts_orKeep {bound:ℕ}{codes kept:List String}
 (hc:texts n bound codes=some codes)(hk:texts n bound kept=some kept) :
 texts n bound (orKeep codes kept)=some (orKeep codes kept):=by
 unfold orKeep
 split <;> assumption

lemma boundedRef_text {ref:String}(h:boundedRef ref=true):text 256 ref=some ref:=by
 simp only[boundedRef,Bool.and_eq_true,decide_eq_true_eq,beq_iff_eq] at h
 exact text_eq_self (trim_of_strip h.2) h.1.1 h.1.2

lemma commonUpdates_mirrors (m:Mirrors db p r)(x:Reread db e f)
 (version:e.stateMachineVersion=stateMachineVersion) :
 Mirrors db (commonUpdates p e) (commonUpdates r f):=by
 obtain ⟨o,d,c,k,rfl⟩:=x.exists
 exact {m with
  streamVersion:=x.written.streamSequence
  stateMachineVersion:=⟨version,version⟩
  policyVersion:=(nullableText_reads x.written.policyVersion le_rfl).or m.policyVersion
  skillVersion:=(nullableText_reads x.written.skillVersion le_rfl).or m.skillVersion
  supervisorVersion:=(nullableText_reads x.written.supervisorVersion le_rfl).or m.supervisorVersion
  estimatedCost:=x.estimatedCost.or m.estimatedCost
  lastEventId:=textColumn_reads x.written.eventId le_rfl
  updatedAt:=x.recordedAt}

lemma campaignBinding_reads (m:(textColumn db 256 256).nullable.Reads p.campaignRef p.campaignRef)
 {t:AcquisitionState}{ref:Option String}(h:campaignBinding p t e=.ok ref) :
 (textColumn db 256 256).nullable.Reads ref ref:=by
 unfold campaignBinding at h
 split at h
 · split at h
   · split at h
     · rename_i bound
       cases h
       exact (textColumn_reads (boundedRef_text bound.2.2.2.1) le_rfl).some
     · simp[raise] at h
   · simp[raise] at h
 · cases h
   exact m

lemma expectedAction_text
 (h:expectedAction d=some action):whenPresent (text 100) action=some action:=by
 have send:text 100 "prepare_campaign"=some "prepare_campaign":=
  text_eq_self (by decide) (by decide) (by decide)
 have review:text 100 "request_human_review"=some "request_human_review":=
  text_eq_self (by decide) (by decide) (by decide)
 cases d <;> simp only[expectedAction,Option.some.injEq,reduceCtorEq] at h <;> subst h <;>
  simp[whenPresent,send,review]

lemma decisionAction_reads (m:(textColumn db 100 100).nullable.Reads p.nextAction p.nextAction)
 (h:decisionAction d p e=.ok action) :
 (textColumn db 100 100).nullable.Reads action action:=by
 unfold decisionAction at h
 split at h
 · simp only[spec023,bind_ok,orRaise_ok] at h
   obtain ⟨_,_,_,expected,_,_,_,_,_,_,_,_,h⟩:=h
   cases h
   exact nullableText_reads (expectedAction_text expected) le_rfl
 · cases h
   exact m

lemma spec023_reread (x:Reread db e f) (h:spec023 d e=.ok action):spec023 d f=.ok action:=by
 have absent:=x.absent
 obtain ⟨o,i,n,k,rfl⟩:=x.exists
 simp only[spec023,bind_ok,orRaise_ok] at h ⊢
 obtain ⟨_,within,a,expected,_,action,_,review,_,reasons,_,given,h⟩:=h
 exact ⟨_,within,a,expected,_,action,_,review,_,reasons,_,
  require_ok.mpr (absent.mpr (require_ok.mp given)),h⟩

lemma allowedNextActions_text {action:String}(h:action∈allowedNextActions) :
 text 100 action=some action:=by
 have all:∀a∈allowedNextActions,trim a=a ∧ 1≤a.length ∧ a.length≤100:=by decide
 obtain ⟨ht,h1,hn⟩:=all action h
 exact text_eq_self ht h1 hn

section
variable (same:p.view=r.view)(m:Mirrors db p r)(x:Reread db e f)
 (version:e.stateMachineVersion=stateMachineVersion)
include same m x version

lemma outcomeRecorded_mirrors (h:outcomeRecorded p e=.ok q) :
 ∃s,outcomeRecorded r f=.ok s ∧ Mirrors db q s:=by
 have common:=commonUpdates_mirrors m x version
 obtain ⟨a,b,c,d,rfl⟩:=eq_of_view same
 obtain ⟨o,i,n,k,rfl⟩:=x.exists
 obtain ⟨t,held,reached,known,low,high,rfl⟩:=outcomeRecorded_ok.mp h
 exact ⟨_,outcomeRecorded_ok.mpr ⟨t,held,reached,known,low,high,rfl⟩,{common with
  state:=rfl
  reasonCodes:=texts_orKeep x.written.reasonCodes m.reasonCodes
  evidenceRefs:=texts_orKeep x.written.evidenceRefs m.evidenceRefs}⟩

lemma nextActionSet_mirrors (h:nextActionSet p e=.ok q) :
 ∃s,nextActionSet r f=.ok s ∧ Mirrors db q s:=by
 have common:=commonUpdates_mirrors m x version
 obtain ⟨a,b,c,d,rfl⟩:=eq_of_view same
 obtain ⟨o,i,n,k,rfl⟩:=x.exists
 obtain ⟨given,⟨null,reasons,rfl⟩|⟨action,text,allowed,rfl⟩⟩:=nextActionSet_ok.mp h
 · exact ⟨_,nextActionSet_ok.mpr ⟨given,.inl ⟨null,reasons,rfl⟩⟩,{common with
    nextAction:=.none
    reasonCodes:=x.written.reasonCodes}⟩
 · exact ⟨_,nextActionSet_ok.mpr ⟨given,.inr ⟨action,text,allowed,rfl⟩⟩,{common with
    nextAction:=(textColumn_reads (allowedNextActions_text allowed) le_rfl).some}⟩

lemma contactSelected_mirrors (h:contactSelected p e=.ok q) :
 ∃s,contactSelected r f=.ok s ∧ Mirrors db q s:=by
 have common:=commonUpdates_mirrors m x version
 obtain ⟨a,b,c,d,rfl⟩:=eq_of_view same
 obtain ⟨o,i,n,k,rfl⟩:=x.exists
 obtain ⟨keys,discovered,supplierRef,contactRef,hb,hs,bounded,fresh,hc,reference,rfl⟩:=
  contactSelected_ok.mp h
 exact ⟨_,contactSelected_ok.mpr ⟨keys,discovered,supplierRef,contactRef,hb,hs,bounded,
  fresh,hc,reference,rfl⟩,{common with
   contactRef:=(textColumn_reads (boundedRef_text reference) le_rfl).some}⟩

variable (faithful:Faithful db fromisoformat e.eventType e.payload)
include faithful

lemma transitioned_mirrors (h:transitioned fromisoformat p e=.ok q) :
 ∃s,transitioned fromisoformat r f=.ok s ∧ Mirrors db q s:=by
 have common:=commonUpdates_mirrors m x version
 obtain ⟨a,b,c,d,rfl⟩:=eq_of_view same
 obtain ⟨o,i,n,k,rfl⟩:=x.exists
 simp only[transitioned,bind_ok] at h ⊢
 obtain ⟨t,ht,_,listed,review,hr,_,hold,ref,href,h⟩:=h
 cases h
 refine ⟨_,⟨t,ht,_,listed,review,hr,_,hold,ref,href,rfl⟩,{common with
  state:=rfl
  reasonCodes:=texts_orKeep x.written.reasonCodes m.reasonCodes
  evidenceRefs:=texts_orKeep x.written.evidenceRefs m.evidenceRefs
  confidence:=x.confidence.or m.confidence
  nextReviewAt:=(datetimePayload_reads faithful (by simp) hr).or m.nextReviewAt
  campaignRef:=campaignBinding_reads m.campaignRef href}⟩

lemma decisionRecorded_mirrors (h:decisionRecorded fromisoformat p e=.ok q) :
 ∃s,decisionRecorded fromisoformat r f=.ok s ∧ Mirrors db q s:=by
 have common:=commonUpdates_mirrors m x version
 have again:∀d action,spec023 d e=.ok action→spec023 d f=.ok action:=fun _ _=>spec023_reread x
 obtain ⟨a,b,c,d,rfl⟩:=eq_of_view same
 obtain ⟨o,i,n,k,rfl⟩:=x.exists
 simp only[decisionRecorded,bind_ok] at h ⊢
 obtain ⟨t,ht,_,listed,action,ha,review,hr,_,hold,h⟩:=h
 cases h
 refine ⟨_,⟨t,ht,_,listed,action,?_,review,hr,_,hold,rfl⟩,{common with
  decision:=rfl
  state:=rfl
  reasonCodes:=x.written.reasonCodes
  evidenceRefs:=x.written.evidenceRefs
  confidence:=x.confidence
  nextReviewAt:=datetimePayload_reads faithful (by simp) hr
  nextAction:=decisionAction_reads m.nextAction ha}⟩
 unfold decisionAction at ha ⊢
 split at ha
 · rename_i given
   rw[if_pos given]
   exact again t action ha
 · rename_i absent
   rw[if_neg absent]
   exact ha

lemma retryScheduled_mirrors (retry:e.eventType=.retryScheduled)
 (h:retryScheduled fromisoformat p e=.ok q) :
 ∃s,retryScheduled fromisoformat r f=.ok s ∧ Mirrors db q s:=by
 have common:=commonUpdates_mirrors m x version
 obtain ⟨a,b,c,d,rfl⟩:=eq_of_view same
 obtain ⟨o,i,n,k,rfl⟩:=x.exists
 obtain ⟨retryAt,category,parsed,text,visible,rfl⟩:=retryScheduled_ok.mp h
 exact ⟨_,retryScheduled_ok.mpr ⟨retryAt,category,parsed,text,visible,rfl⟩,{common with
  retryCount:=congrArg (· + 1) m.retryCount
  retryAt:=datetimePayload_reads faithful (by simp) parsed
  lastErrorCategory:=(faithful.errorCategory retry category text visible).some
  reasonCodes:=texts_orKeep x.written.reasonCodes m.reasonCodes}⟩

lemma reduceEvent_mirrors (h:reduceEvent fromisoformat (some p) e=.ok q) :
 ∃s,reduceEvent fromisoformat (some r) f=.ok s ∧ Mirrors db q s:=by
 have shape:f.stateMachineVersion=e.stateMachineVersion ∧ f.eventType=e.eventType ∧
   f.acquisitionOpportunityId=e.acquisitionOpportunityId ∧
   f.streamSequence=e.streamSequence:=by
  rw[x.shape]
  exact ⟨rfl,rfl,rfl,rfl⟩
 obtain ⟨hversion,htype,hid,hseq⟩:=shape
 have sameId:p.view.acquisitionOpportunityId=r.view.acquisitionOpportunityId:=by rw[same]
 have sameVersion:p.view.streamVersion=r.view.streamVersion:=by rw[same]
 change p.acquisitionOpportunityId=r.acquisitionOpportunityId at sameId
 change p.streamVersion=r.streamVersion at sameVersion
 unfold reduceEvent at h ⊢
 rw[if_pos version] at h
 rw[if_pos (hversion.trans version)]
 simp only[reduceV1,require_bind_ok,hid,hseq,htype,←sameId,←sameVersion] at h ⊢
 obtain ⟨owner,follows,h⟩:=h
 simp only[owner,follows,true_and]
 split at h
 · exact transitioned_mirrors same m x version faithful h
 · exact decisionRecorded_mirrors same m x version faithful h
 · exact outcomeRecorded_mirrors same m x version h
 · exact nextActionSet_mirrors same m x version h
 · rename_i retry
   exact retryScheduled_mirrors same m x version faithful retry h
 · exact contactSelected_mirrors same m x version h
 · cases h
   exact ⟨_,rfl,commonUpdates_mirrors m x version⟩
 · cases h
   exact ⟨_,rfl,commonUpdates_mirrors m x version⟩
 · simp[raise] at h

end

lemma created_mirrors (x:Reread db e f)
 (version:e.stateMachineVersion=stateMachineVersion)(h:created e=.ok q) :
 ∃s,created f=.ok s ∧ Mirrors db q s:=by
 have read:=x.read
 obtain ⟨o,i,n,k,rfl⟩:=x.exists
 obtain ⟨first,identityKey,signalRef,supplierRef,contactRef,campaignRef,hi,hs,h1,h2,h3,
  v⟩:=created_ok.mp h
 refine ⟨{q with confidence:=n,estimatedCost:=k,createdAt:=i,updatedAt:=i},
  created_ok.mpr ⟨first,identityKey,signalRef,supplierRef,contactRef,campaignRef,hi,hs,
   h1,h2,h3,{v with
    confidence:=read.confidence
    estimatedCost:=read.estimatedCost
    createdAt:=read.recordedAt
    updatedAt:=read.recordedAt}⟩,?_⟩
 have fixed:=v.fixed
 have confidence:e.confidence=q.confidence:=Option.mem_unique x.written.confidence v.confidence
 have estimatedCost:e.estimatedCost=q.estimatedCost:=
  Option.mem_unique x.written.estimatedCost v.estimatedCost
 have createdAt:e.recordedAt=q.createdAt:=Option.mem_unique x.written.recordedAt v.createdAt
 have updatedAt:e.recordedAt=q.updatedAt:=Option.mem_unique x.written.recordedAt v.updatedAt
 have nextReviewAt:none=q.nextReviewAt:=Option.some.inj v.nextReviewAt
 have retryAt:none=q.retryAt:=Option.some.inj v.retryAt
 have kept:q.stateMachineVersion=stateMachineVersion:=
  (Option.mem_unique x.written.stateMachineVersion v.stateMachineVersion).symm.trans
   version
 exact {
  acquisitionOpportunityId:=fixed.acquisitionOpportunityId
  identityKey:=textColumn_reads fixed.identityKey le_rfl
  state:=rfl
  streamVersion:=fixed.streamVersion
  stateMachineVersion:=⟨kept,kept⟩
  signalRef:=textColumn_reads fixed.signalRef le_rfl
  supplierRef:=nullableText_reads fixed.supplierRef le_rfl
  contactRef:=nullableText_reads fixed.contactRef le_rfl
  campaignRef:=nullableText_reads fixed.campaignRef le_rfl
  decision:=rfl
  reasonCodes:=fixed.reasonCodes
  confidence:=confidence ▸ x.confidence
  evidenceRefs:=fixed.evidenceRefs
  nextAction:=nullableText_reads fixed.nextAction le_rfl
  nextReviewAt:=nextReviewAt ▸ Column.Reads.none
  retryCount:=rfl
  retryAt:=retryAt ▸ Column.Reads.none
  lastErrorCategory:=nullableText_reads fixed.lastErrorCategory le_rfl
  policyVersion:=nullableText_reads fixed.policyVersion le_rfl
  skillVersion:=nullableText_reads fixed.skillVersion le_rfl
  supervisorVersion:=nullableText_reads fixed.supervisorVersion le_rfl
  estimatedCost:=estimatedCost ▸ x.estimatedCost
  lastEventId:=textColumn_reads fixed.lastEventId le_rfl
  createdAt:=createdAt ▸ x.recordedAt
  updatedAt:=updatedAt ▸ x.recordedAt}

variable {s t:Store}{draw:Draw}{a:Append}{c:Creation}{result:MutationResult}

lemma validated_ok {α:Type}{o:Option α}{x:α}:validated o=.ok x ↔ o=some x:=by
 cases o <;> simp[validated]

lemma accepted_ok {α:Type}{o:Option α}{x:α}:accepted o=.ok x ↔ o=some x:=by
 cases o <;> simp[accepted]

lemma refuseUnless_ok {c:Prop}[Decidable c]{error:AcquisitionError}{u:Unit} :
 refuseUnless c error=.ok u ↔ c:=by
 unfold refuseUnless
 split <;> simp_all

lemma map_ok {α β:Type}{x:Result α}{f:α→β}{b:β} : x.map f=.ok b ↔ ∃a,x=.ok a ∧ f a=b:=by
 cases x <;> simp[Except.map]

lemma insertEvent_ok (h:insertEvent db s e=.ok t) :
 ∃row,eventValues db e=some row ∧ t={s with events:=s.events++[row]}:=by
 simp only[insertEvent,bind_ok,accepted_ok] at h
 obtain ⟨row,hr,h⟩:=h
 split at h
 · cases h
 · cases h
   exact ⟨row,hr,rfl⟩

lemma append_ok (h:append rt db s draw a=.ok (t,result)) : t=s ∨ ∃current event next values row,
  getOpportunity s a.opportunityId=.ok current ∧
  current.streamVersion=a.expectedVersion ∧ newEvent rt draw a=some event ∧
  reduceEvent rt.fromisoformat (some current) event=.ok next ∧
  projectionValues db next=some values ∧ eventValues db event=some row ∧
  t={ (updateProjection s a.opportunityId a.expectedVersion values).1 with
   events:=s.events++[row]}:=by
 simp only[append,bind_ok] at h
 obtain ⟨current,found,h⟩:=h
 split at h
 · simp only[bind_ok] at h
   obtain ⟨result,-,h⟩:=h
   cases h
   exact .inl rfl
 · simp only[bind_ok,validated_ok,accepted_ok,refuseUnless_ok] at h
   obtain ⟨_,version,event,hevent,next,reduced,values,hvalues,_,-,u,inserted,h⟩:=h
   cases h
   obtain ⟨row,hrow,rfl⟩:=insertEvent_ok inserted
   exact .inr ⟨current,event,next,values,row,found,version,hevent,reduced,hvalues,hrow,rfl⟩

lemma insertOpportunityIfAbsent_ok (h:insertOpportunityIfAbsent db s p=.ok (some t)) :
 ∃id values,db.varchar 64 p.acquisitionOpportunityId=some id ∧ projectionValues db p=some values ∧
  (∀other∈s.opportunities,other.acquisitionOpportunityId≠id) ∧
  t={s with
   opportunities:=s.opportunities++[{values with acquisitionOpportunityId:=id}]}:=by
 simp only[insertOpportunityIfAbsent,bind_ok,accepted_ok] at h
 obtain ⟨id,hid,values,hvalues,h⟩:=h
 split at h
 · cases h
 · split at h
   · cases h
   · rename_i fresh
     cases h
     simp only[List.any_eq_true,beq_iff_eq,not_exists,not_and] at fresh
     exact ⟨id,values,hid,hvalues,fresh,rfl⟩

lemma createOpportunity_ok (h:createOpportunity rt db s draw c=.ok (t,result)) :
 t=s ∨ ∃event projection id values row,newEvent rt draw (c.append draw.opportunityId)=some event ∧
  reduceEvent rt.fromisoformat none event=.ok projection ∧
  db.varchar 64 projection.acquisitionOpportunityId=some id ∧
  projectionValues db projection=some values ∧ eventValues db event=some row ∧
  (∀other∈s.opportunities,other.acquisitionOpportunityId≠id) ∧
  t=⟨s.opportunities++[{values with acquisitionOpportunityId:=id}],s.events++[row]⟩:=by
 simp only[createOpportunity] at h
 split at h
 · simp only[bind_ok] at h
   obtain ⟨result,-,h⟩:=h
   cases h
   exact .inl rfl
 · simp only[bind_ok,validated_ok] at h
   obtain ⟨event,hevent,projection,reduced,inserted,hinserted,h⟩:=h
   cases inserted with
   | none =>
    simp only[bind_ok] at h
    obtain ⟨_,-,result,-,h⟩:=h
    cases h
    exact .inl rfl
   | some u =>
    simp only[bind_ok] at h
    obtain ⟨v,hv,h⟩:=h
    cases h
    obtain ⟨row,hrow,rfl⟩:=insertEvent_ok hv
    obtain ⟨id,values,hid,hvalues,fresh,rfl⟩:=insertOpportunityIfAbsent_ok hinserted
    exact .inr ⟨event,projection,id,values,row,hevent,reduced,hid,hvalues,hrow,fresh,rfl⟩

def eventRows (s:Store)(opportunityId:String):List AcquisitionEvent:=
 s.events.filter (·.acquisitionOpportunityId==opportunityId)

/-- The row is the stored form of a projection that mirrors the replay of its
own event rows, and those are numbered in the order they were written. -/
structure Tracks (db:Backend)(fromisoformat:String→Option DateTime)
  (rows:List AcquisitionEvent)(row p r:AcquisitionOpportunity)
  (events:List AcquisitionEvent):Prop where
 stored:projectionValues db p=some row
 mirrors:Mirrors db p r
 named:r.acquisitionOpportunityId=row.acquisitionOpportunityId
 loaded:rows.mapM eventFromRow=some events
 replayed:replay fromisoformat events=.ok r
 numbered:rows.map (·.streamSequence)=List.range' 1 rows.length

structure Sound (db:Backend)(fromisoformat:String→Option DateTime)(s:Store):Prop where
 unique:(s.opportunities.map (·.acquisitionOpportunityId)).Nodup
 owned:∀e∈s.events,e.acquisitionOpportunityId∈s.opportunities.map (·.acquisitionOpportunityId)
 tracked:∀row∈s.opportunities,∃p r events,
  Tracks db fromisoformat (eventRows s row.acquisitionOpportunityId) row p r events

lemma sound_empty:Sound db fromisoformat empty:=
 ⟨List.nodup_nil,fun _ h=>(by cases h),fun _ h=>(by cases h)⟩

section
variable {rows events:List AcquisitionEvent}{row:AcquisitionOpportunity}

lemma mapM_length {α β:Type}{f:α→Option β}{xs:List α}{ys:List β}
 (h:xs.mapM f=some ys):ys.length=xs.length:=by
 induction xs generalizing ys with
 | nil=>cases h;rfl
 | cons x xs ih =>
  simp only[List.mapM_cons,Option.bind_eq_bind,Option.bind_eq_some_iff,Option.pure_def,
   Option.some.injEq] at h
  obtain ⟨y,-,zs,hz,rfl⟩:=h
  simp[ih hz]

lemma mapM_append_singleton {α β:Type}{f:α→Option β}{xs:List α}{ys:List β}{x:α}
 {y:β}(hs:xs.mapM f=some ys)(h:f x=some y) :
 (xs++[x]).mapM f=some (ys++[y]):=by
 simp[List.mapM_append,hs,h]

lemma Tracks.read (k:Tracks db fromisoformat rows row p r events) :
 ∃q,projectionFromRow row=some q ∧ q.view=r.view ∧ Mirrors db q r ∧
  q.acquisitionOpportunityId=row.acquisitionOpportunityId ∧
  q.streamVersion=row.streamVersion:=by
 obtain ⟨q,hq,same,m,-⟩:=k.mirrors.reread k.stored
 have named:q.view.acquisitionOpportunityId=r.view.acquisitionOpportunityId:=by rw[same]
 exact ⟨q,hq,same,m,named.trans k.named,
  (positiveField_eq (AcquisitionOpportunity.modelValidate_iff.mp hq).streamVersion).1⟩

lemma Tracks.version (k:Tracks db fromisoformat rows row p r events) :
 row.streamVersion=rows.length:=by
 obtain ⟨q,-,same,-,-,version⟩:=k.read
 have shown:q.view.streamVersion=r.view.streamVersion:=by rw[same]
 have replayed:=replay_ok.mp k.replayed
 have nonempty:events≠[]:=by
  rintro rfl
  cases replayed
 obtain ⟨r',he,settled⟩:=AcquisitionLifecycle.replayFrom_none nonempty replayed
 cases he
 calc row.streamVersion=q.streamVersion:=version.symm
  _=r.streamVersion:=shown
  _=events.length:=settled.version
  _=rows.length:=mapM_length k.loaded

lemma newEvent_validates (h:newEvent rt draw a=some e) :
 e.Validates e ∧ e.stateMachineVersion=stateMachineVersion ∧
  e.streamSequence=a.expectedVersion+1 ∧ e.eventType=a.eventType ∧
  e.payload=a.payload:=by
 have v:=AcquisitionEvent.modelValidate_iff.mp h
 refine ⟨v.fixed,?_,(positiveField_eq v.streamSequence).1,v.eventType.symm,
  validatePayload_eq v.payload⟩
 exact Option.mem_unique v.stateMachineVersion shortCode_version

lemma Tracks.extend (k:Tracks db fromisoformat rows row p r events)
 (hq:projectionFromRow row=some q)(valid:e.Validates e)
 (version:e.stateMachineVersion=stateMachineVersion)
 (follows:e.streamSequence=row.streamVersion+1)
 (faithful:Faithful db fromisoformat e.eventType e.payload)
 {next values:AcquisitionOpportunity}{erow:AcquisitionEvent}
 (reduced:reduceEvent fromisoformat (some q) e=.ok next)
 (hvalues:projectionValues db next=some values)(hrow:eventValues db e=some erow) :
 ∃s events',Tracks db fromisoformat (rows++[erow])
  {values with acquisitionOpportunityId:=row.acquisitionOpportunityId} next s events':=by
 obtain ⟨q',hq',same,m,named,at_⟩:=k.read
 obtain rfl:q'=q:=Option.mem_unique hq' hq
 obtain ⟨f,hf,x,-,sequence⟩:=eventFromRow_reread valid version hrow
 obtain ⟨s,hs,ms⟩:=reduceEvent_mirrors same m x version faithful reduced
 have written:=AcquisitionLifecycle.reduceEvent_advance reduced
 have replayed:=AcquisitionLifecycle.reduceEvent_advance hs
 obtain ⟨-,-,-,-,kept⟩:=ms.reread hvalues
 have unchanged:{values with acquisitionOpportunityId:=row.acquisitionOpportunityId} =
   values:=by
  rw[←named,←written.named,←kept]
 refine ⟨s,events++[f],by rw[unchanged];exact hvalues,ms,replayed.named.trans k.named,
  mapM_append_singleton k.loaded hf,?_,?_⟩
 · have before:=replay_ok.mp k.replayed
   rw[replay_ok,replayFrom_append,bind_ok]
   exact ⟨some r,before,by simp[replayFrom,hs,Bind.bind,Except.bind]⟩
 · rw[List.map_append,List.map_singleton,k.numbered,List.length_append,List.length_singleton,
    List.range'_concat,sequence,follows,k.version]
   simp[Nat.add_comm]

end

lemma eventRows_append (s:Store)(id:String)(opportunities:List AcquisitionOpportunity)
 (row:AcquisitionEvent) :
 eventRows ⟨opportunities,s.events++[row]⟩ id =
  if row.acquisitionOpportunityId=id then eventRows s id++[row] else eventRows s id:=by
 unfold eventRows
 rw[List.filter_append]
 split <;> simp_all

lemma getOpportunity_ok (h:getOpportunity s a.opportunityId=.ok q) :
 ∃row∈s.opportunities,row.acquisitionOpportunityId=a.opportunityId ∧
  projectionFromRow row=some q:=by
 unfold getOpportunity at h
 split at h
 · rename_i row found
   obtain ⟨hm,hk⟩:=Tables.find?_key found
   exact ⟨row,hm,hk,validated_ok.mp h⟩
 · cases h

lemma append_sound (sound:Sound db rt.fromisoformat s)
 (faithful:Faithful db rt.fromisoformat a.eventType a.payload)
 (h:append rt db s draw a=.ok (t,result)):Sound db rt.fromisoformat t:=by
 rcases append_ok h with rfl|⟨current,event,next,values,erow,found,version,hevent,
  reduced,hvalues,hrow,rfl⟩
 · exact sound
 obtain ⟨row,hm,hid,hcurrent⟩:=getOpportunity_ok found
 obtain ⟨p,r,events,k⟩:=sound.tracked row hm
 obtain ⟨q,hq,-,-,named,sameVersion⟩:=k.read
 obtain rfl:q=current:=Option.mem_unique hq hcurrent
 obtain ⟨valid,machine,sequence,type,payload⟩:=newEvent_validates hevent
 have owner:event.acquisitionOpportunityId=row.acquisitionOpportunityId:=
  (AcquisitionLifecycle.reduceEvent_owner reduced).trans named
 obtain ⟨f,hf,x,eid,-⟩:=eventFromRow_reread valid machine hrow
 have matched:∀other∈s.opportunities,(other.acquisitionOpportunityId==a.opportunityId &&
   other.streamVersion==a.expectedVersion)=true ↔ other=row:=by
  intro other ho
  simp only[Bool.and_eq_true,beq_iff_eq]
  constructor
  · rintro ⟨same,-⟩
    exact List.inj_on_of_nodup_map sound.unique ho hm (same.trans hid.symm)
  · rintro rfl
    exact ⟨hid,sameVersion.symm.trans version⟩
 have keys:(updateProjection s a.opportunityId a.expectedVersion values).1.opportunities.map
   (·.acquisitionOpportunityId)=s.opportunities.map (·.acquisitionOpportunityId):=
  Tables.map_key_update fun _ _ _=>rfl
 refine ⟨keys ▸ sound.unique,?_,?_⟩
 · intro e he
   rw[keys]
   rcases List.mem_append.mp he with old|new
   · exact sound.owned e old
   · rw[List.mem_singleton.mp new,eid,owner]
     exact List.mem_map_of_mem hm
 · intro x hx
   obtain ⟨other,ho,rfl⟩:=Tables.mem_update.mp hx
   simp only[eventRows_append,eid,owner]
   by_cases here:other=row
   · subst here
     rw[if_pos ((matched other ho).mpr rfl),if_pos rfl]
     obtain ⟨s',events',k'⟩:=k.extend hq valid machine
      (by rw[sequence,←version,sameVersion]) (by rw[type,payload];exact faithful)
      reduced hvalues hrow
     exact ⟨next,s',events',k'⟩
   · have apart:row.acquisitionOpportunityId≠other.acquisitionOpportunityId:=
      fun same=>here (List.inj_on_of_nodup_map sound.unique ho hm same.symm)
     rw[if_neg (mt (matched other ho).mp here),if_neg apart]
     exact sound.tracked other ho

lemma reduceEvent_none_mirrors (x:Reread db e f) (version:e.stateMachineVersion=stateMachineVersion)
 (h:reduceEvent fromisoformat none e=.ok q) :
 (∃r,reduceEvent fromisoformat none f=.ok r ∧ Mirrors db q r) ∧
  q.acquisitionOpportunityId=e.acquisitionOpportunityId:=by
 have shape:f.stateMachineVersion=e.stateMachineVersion ∧ f.eventType=e.eventType:=by
  rw[x.shape]
  exact ⟨rfl,rfl⟩
 unfold reduceEvent at h ⊢
 rw[if_pos version] at h
 rw[if_pos (shape.1.trans version)]
 simp only[reduceV1,shape.2] at h ⊢
 split at h
 · rename_i first
   rw[if_pos first]
   refine ⟨created_mirrors x version h,?_⟩
   obtain ⟨-,_,_,_,_,_,-,-,-,-,-,fields⟩:=created_ok.mp h
   exact Option.some.inj (fields.acquisitionOpportunityId.symm.trans
    x.written.acquisitionOpportunityId)
 · simp[raise] at h

lemma createOpportunity_sound (sound:Sound db rt.fromisoformat s)
 (h:createOpportunity rt db s draw c=.ok (t,result)):Sound db rt.fromisoformat t:=by
 rcases createOpportunity_ok h with rfl|⟨event,projection,id,values,erow,hevent,reduced,
  hid,hvalues,hrow,fresh,rfl⟩
 · exact sound
 obtain ⟨valid,machine,sequence,-,-⟩:=newEvent_validates hevent
 obtain ⟨f,hf,x,eid,eseq⟩:=eventFromRow_reread valid machine hrow
 obtain ⟨⟨r,hr,m⟩,named⟩:=reduceEvent_none_mirrors x machine reduced
 obtain ⟨q,hq,same,mq,kept⟩:=m.reread hvalues
 have clean:identifier projection.acquisitionOpportunityId =
   some projection.acquisitionOpportunityId:=by
  rw[named]
  exact valid.acquisitionOpportunityId
 obtain rfl:id=projection.acquisitionOpportunityId:=varchar_text clean le_rfl hid
 have unchanged:{values with
   acquisitionOpportunityId:=projection.acquisitionOpportunityId}=values:=by
  rw[←kept]
 have owner:erow.acquisitionOpportunityId=projection.acquisitionOpportunityId:=eid.trans named.symm
 rw[unchanged]
 have none_yet:eventRows s projection.acquisitionOpportunityId=[]:=by
  refine List.filter_eq_nil_iff.mpr fun e he=>?_
  obtain ⟨other,ho,same⟩:=List.mem_map.mp (sound.owned e he)
  simpa[←same] using fresh other ho
 refine ⟨?_,?_,?_⟩
 · exact Tables.nodup_append_fresh sound.unique fun other ho=>by rw[kept];exact fresh other ho
 · intro e he
   rw[List.map_append,List.map_singleton,List.mem_append,List.mem_singleton]
   rcases List.mem_append.mp he with old|new
   · exact .inl (sound.owned e old)
   · rw[List.mem_singleton.mp new,owner,kept]
     exact .inr rfl
 · intro row hrow
   simp only[eventRows_append,owner]
   rcases List.mem_append.mp hrow with old|new
   · rw[if_neg (fresh row old).symm]
     exact sound.tracked row old
   · rw[List.mem_singleton.mp new,kept,if_pos rfl,none_yet]
     refine ⟨projection,r,[f],hvalues,m,?_,by simp[hf],?_,?_⟩
     · rw[kept]
       exact Option.mem_unique m.acquisitionOpportunityId clean
     · rw[replay_ok]
       simp[replayFrom,hr,Bind.bind,Except.bind]
     · simp[eseq,sequence,Creation.append]

lemma apply_sound {call:Draw × Mutation}(sound:Sound db rt.fromisoformat s)
 (faithful:Faithful db rt.fromisoformat (call.2.append rt call.1).eventType
  (call.2.append rt call.1).payload)
 (h:apply rt db s call=.ok t):Sound db rt.fromisoformat t:=by
 obtain ⟨draw,mutation⟩:=call
 cases mutation with
 | createOpportunity creation =>
  obtain ⟨⟨u,result⟩,hc,rfl⟩:=map_ok.mp h
  exact createOpportunity_sound sound hc
 | _ =>
  obtain ⟨⟨u,result⟩,ha,rfl⟩:=map_ok.mp h
  exact append_sound sound faithful ha

lemma foldlM_sound {calls:List (Draw × Mutation)}(sound:Sound db rt.fromisoformat s)
 (faithful:∀call∈calls,Faithful db rt.fromisoformat
  (call.2.append rt call.1).eventType (call.2.append rt call.1).payload)
 (h:calls.foldlM (apply rt db) s=.ok t):Sound db rt.fromisoformat t:=by
 induction calls generalizing s with
 | nil=>cases h;exact sound
 | cons call calls ih =>
  rw[List.foldlM_cons,bind_ok] at h
  obtain ⟨u,hu,h⟩:=h
  exact ih (apply_sound sound (faithful call List.mem_cons_self) hu)
   (fun other ho=>faithful other (List.mem_cons_of_mem _ ho)) h

def KeepsTexts (rt:Runtime)(db:Backend)(_:Store)(calls:List (Draw × Mutation)):Prop:=
 ∀call∈calls,Faithful db rt.fromisoformat
  (call.2.append rt call.1).eventType (call.2.append rt call.1).payload

lemma transact_sound {calls:List (Draw × Mutation)}(sound:Sound db rt.fromisoformat s)
 (faithful:KeepsTexts rt db s calls) :
 Sound db rt.fromisoformat (transact rt db s calls):=by
 unfold transact
 split
 · rename_i t h
   exact foldlM_sound sound faithful h
 · exact sound

lemma mapM_validated {rows events:List AcquisitionEvent} (h:rows.mapM eventFromRow=some events) :
 rows.mapM (fun row=>validated (eventFromRow row))=.ok events:=by
 induction rows generalizing events with
 | nil=>cases h;rfl
 | cons row rows ih =>
  simp only[List.mapM_cons,Option.bind_eq_bind,Option.bind_eq_some_iff,Option.pure_def,
   Option.some.injEq] at h
  obtain ⟨e,he,es,hs,rfl⟩:=h
  rw[List.mapM_cons,he,ih hs]
  rfl

lemma streamRows_eq {id:String}
 (numbered:(eventRows s id).map (·.streamSequence)=List.range' 1 (eventRows s id).length) :
 streamRows s id=eventRows s id:=by
 apply List.Pairwise.insertionSort_eq
 have sorted:((eventRows s id).map (·.streamSequence)).Pairwise (· ≤ ·):=by
  rw[numbered]
  exact List.pairwise_le_range'
 exact List.pairwise_map.mp sorted

lemma Sound.verify (sound:Sound db fromisoformat s){row:AcquisitionOpportunity}
 (hm:row∈s.opportunities) :
 (streamRows s row.acquisitionOpportunityId).map (·.streamSequence) =
   List.range' 1 row.streamVersion ∧
  verifyProjection fromisoformat s row.acquisitionOpportunityId=.ok .matches:=by
 obtain ⟨p,r,events,k⟩:=sound.tracked row hm
 obtain ⟨q,hq,same,-,-,-⟩:=k.read
 have sorted:=streamRows_eq k.numbered
 refine ⟨by rw[sorted,k.numbered,k.version],?_⟩
 have found:getOpportunity s row.acquisitionOpportunityId=.ok q:=by
  unfold getOpportunity
  rw[Tables.find?_of_mem sound.unique hm]
  exact validated_ok.mpr hq
 have listed:listEvents s row.acquisitionOpportunityId=.ok events:=by
  unfold listEvents
  rw[sorted]
  exact mapM_validated k.loaded
 simp[verifyProjection,found,listed,k.replayed,same,Bind.bind,Except.bind,pure,Except.pure]

lemma getLast_eq_of_all {l:List Char}{c:Char}(h:l.all (· == c)=true)(ne:l≠[]) : l.getLast ne=c:=by
 simpa using List.all_eq_true.mp h _ (List.getLast_mem ne)

lemma postgresqlVarchar_trimmed {n:ℕ}{s t:String}(trimmed:trim s=s)
 (h:postgresqlVarchar n s=some t):t=s ∧ s.length≤n:=by
 unfold postgresqlVarchar at h
 split at h
 · cases h
 · split at h
   · rename_i fits
     cases h
     exact ⟨rfl,fits⟩
   · rename_i long
     split at h
     · rename_i blanks
       have ne:s.toList.drop n≠[]:=by
        rw[Ne,List.drop_eq_nil_iff,String.length_toList]
        exact long
       have last:=getLast_eq_of_all blanks ne
       rw[List.getLast_drop] at last
       have clear:=((trimWith_eq_self_iff isWhiteSpace s).mp trimmed).2
        (List.ne_nil_of_drop_ne_nil ne)
       rw[last] at clear
       exact absurd (by decide) clear
     · cases h

lemma faithful_postgresql {zone:ℤ}{fromisoformat:String→Option DateTime}
 {eventType:EventType}{payload:Payload}
 (trimmed:eventType=.retryScheduled →
  ∀s,payload.get "error_category"=.str s→trim s=s) :
 Faithful (postgresql zone) fromisoformat eventType payload:=by
 constructor
 · intro retry s hs visible t ht
   obtain ⟨rfl,fits⟩:=postgresqlVarchar_trimmed (trimmed retry s hs) ht
   have positive:1≤t.length:=by
    rw[Nat.one_le_iff_ne_zero]
    intro zero
    rw[String.length_eq_zero_iff.mp zero] at visible
    exact visible (by decide)
   exact ⟨t,text_eq_self (trimmed retry t hs) positive fits,rfl⟩
 · intro key _ v d _ _ aware t ht
   cases ht
   refine ⟨_,awareField_assumeUtc _,?_⟩
   obtain ⟨offset,ho⟩:=Option.isSome_iff_exists.mp aware
   simp[dateColumn,postgresqlTimestamp,assumeUtc,DateTime.toUtc,ho]

end

/-- Over every run of transactions whose texts survive their columns, each
stream is numbered from one without a gap, its row carries the last number, and
the row reads as the replay of the stream. -/
theorem projection_matches_stream (db:Backend)(rt:Runtime)
 (transactions:List (List (Draw × Mutation)))
 (kept:Runs.Along (transact rt db) (KeepsTexts rt db) empty transactions) :
 ∀row∈(transactions.foldl (transact rt db) empty).opportunities,
  (streamRows (transactions.foldl (transact rt db) empty) row.acquisitionOpportunityId).map
    (·.streamSequence)=List.range' 1 row.streamVersion ∧
   verifyProjection rt.fromisoformat (transactions.foldl (transact rt db) empty)
    row.acquisitionOpportunityId=.ok .matches:=by
 have sound:Sound db rt.fromisoformat (transactions.foldl (transact rt db) empty):=
  kept.invariant (Sound db rt.fromisoformat)
   (fun _ _ sound faithful=>transact_sound sound faithful) sound_empty
 exact fun row hm=>sound.verify hm

def sampleRuntime:Runtime where
 fromisoformat s:=
  if s="2026-09-02T08:00:00+00:00" then some ⟨1788336000000000,some 0⟩ else none
 isoformat _:="2026-09-02T08:00:00+00:00"
 fingerprint input:=
  match input.eventType,input.payload.get "error_category" with
  | .retryScheduled,.str " timeout" =>
   "62ff05e4a85ba4a73feaf7b0e7796a20c171d0c39b9e9b02ceb8e867343c38a8"
  | .retryScheduled,_=>"e799b0b920e4ca3a816d65571dfe3399c5a1ada7afd14e4749888301ab857828"
  | _,_=>"b553b21668e30c15fcabfe2123a2abd72f7367914c486407ab08f8a1e1e2c354"

def sampleTransactions (errorCategory:String):List (List (Draw × Mutation)):=
 let clock:DateTime:=⟨1788249600000000,some 0⟩
 [[(⟨clock,"e1","o1"⟩,.createOpportunity
   {identityKey:="company:1",signalRef:="signal:1",idempotencyKey:="create-1" })],
  [(⟨clock,"e2","o2"⟩,.scheduleRetry "o1" ⟨1788336000000000,some 0⟩ errorCategory
   ["provider_timeout"] 1 "retry-1" .system none none)]]

theorem projection_matches_stream_sample :
 Runs.Along (transact sampleRuntime (postgresql 0)) (KeepsTexts sampleRuntime (postgresql 0))
   empty (sampleTransactions "timeout") ∧
  ∃row∈((sampleTransactions "timeout").foldl (transact sampleRuntime (postgresql 0))
    empty).opportunities,
   row.lastErrorCategory=some "timeout" ∧ row.streamVersion=2 ∧
   verifyProjection sampleRuntime.fromisoformat
    ((sampleTransactions "timeout").foldl (transact sampleRuntime (postgresql 0)) empty)
    row.acquisitionOpportunityId=.ok .matches:=by
 have kept:Runs.Along (transact sampleRuntime (postgresql 0))
   (KeepsTexts sampleRuntime (postgresql 0)) empty (sampleTransactions "timeout"):=by
  refine ⟨?_,?_,trivial⟩ <;> intro call hc <;> rw[List.mem_singleton.mp hc]
  · exact faithful_postgresql fun retry=>by cases retry
  · refine faithful_postgresql fun _ s hs=>?_
    cases hs
    decide
 obtain ⟨row,hm,category,version⟩ :
   ∃row∈((sampleTransactions "timeout").foldl (transact sampleRuntime (postgresql 0))
    empty).opportunities,row.lastErrorCategory=some "timeout" ∧ row.streamVersion=2:=by
  decide +kernel
 exact ⟨kept,row,hm,category,version,
  (projection_matches_stream (postgresql 0) sampleRuntime _ kept row hm).2⟩

/-- A category with a leading blank is accepted; the row is read without the
blank, and the replay keeps it. -/
theorem blank_error_category_mismatch :
 ∃row∈((sampleTransactions " timeout").foldl (transact sampleRuntime (postgresql 0))
   empty).opportunities,
  verifyProjection sampleRuntime.fromisoformat
   ((sampleTransactions " timeout").foldl (transact sampleRuntime (postgresql 0)) empty)
   row.acquisitionOpportunityId=.ok .mismatch:=by
 decide +kernel

end Kivou.AcquisitionProjection
