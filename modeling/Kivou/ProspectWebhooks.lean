import Kivou.EventLogs
import Kivou.ProspectRuns

set_option autoImplicit false

/-! `signals.prospection_actions.webhook`: the provider's events are recorded by a keyed
fingerprint, and the log of a target is projected onto its row at every arrival. Instants are
compared as the database stores them, without their zone. -/
namespace Kivou.ProspectWebhooks
open ProspectRecords ProspectActions ProspectOptOuts EventLogs

/-- `ProviderEventType` -/
def ProviderEventType.value:ProviderEventType→String
 | .emailSent=>"email_sent"
 | .emailBounced=>"email_bounced"
 | .emailOpened=>"email_opened"
 | .emailLinkClicked=>"email_link_clicked"
 | .linkClicked=>"link_clicked"
 | .replyReceived=>"reply_received"
 | .autoReplyReceived=>"auto_reply_received"
 | .leadUnsubscribed=>"lead_unsubscribed"
 | .campaignCompleted=>"campaign_completed"
 | .accountError=>"account_error"

/-- `ProviderEventType(value)`: none where the source catches the error. -/
def ProviderEventType.parse (value:String):Option ProviderEventType:=
 [.emailSent,.emailBounced,.emailOpened,.emailLinkClicked,.linkClicked,.replyReceived,
  .autoReplyReceived,.leadUnsubscribed,.campaignCompleted,.accountError].find?
  (ProviderEventType.value · = value)

/-- `InstantlyWebhookPayload`, as far as the projector reads it. -/
structure InstantlyWebhookPayload where
 eventTypeTransportOnly:String
 timestamp:ℕ
 (providerWorkspaceRef providerCampaignId:String)
 (providerEmailEventId leadEmail replyText replyTextSnippet replySubject:Option String)
 deriving DecidableEq

/-- `event_type`, which the normalisation reads off the transported text. -/
def InstantlyWebhookPayload.eventType (payload:InstantlyWebhookPayload) :
 Option ProviderEventType:=
 ProviderEventType.parse payload.eventTypeTransportOnly

/-- The values that `_fingerprint` takes the digest of. -/
structure StableEvent where
 (eventType workspace campaignId:String)
 (emailId leadEmail:Option String)
 timestamp:ℕ
 reply:Option String
 deriving DecidableEq

def InstantlyWebhookPayload.stable (payload:InstantlyWebhookPayload):StableEvent where
 eventType:=payload.eventTypeTransportOnly
 workspace:=payload.providerWorkspaceRef
 campaignId:=payload.providerCampaignId
 emailId:=payload.providerEmailEventId
 leadEmail:=payload.leadEmail
 timestamp:=payload.timestamp
 reply:=(truthy payload.replyText).or ((truthy payload.replyTextSnippet).or payload.replySubject)

/-- `AssistedProspectWebhookProjector`. `digest` is the keyed digest of the
encoded values, under the current key. -/
structure Projector where
 policy:Policy
 workspace:String
 digest:StableEvent→String

structure Delivered where
 payload:InstantlyWebhookPayload
 receivedAt:ℕ

/-- `_fingerprint`, with what the transaction reads of the payload. -/
def Projector.event (p:Projector)(payload:InstantlyWebhookPayload):WebhookPayload where
 eventType:=payload.eventType
 providerCampaignId:=payload.providerCampaignId
 leadEmail:=payload.leadEmail
 timestamp:=payload.timestamp
 fingerprint:=p.digest payload.stable

/-- `AssistedProspectWebhookProjector.ingest_payload`: none if it raises. -/
def Projector.ingestPayload (p:Projector)(d:Delivered)(db:Db):Option Db:=
 if d.payload.providerWorkspaceRef≠p.workspace then none
 else ProspectOptOuts.ingestPayload p.policy (p.event d.payload) d.receivedAt db

def Projector.ingest (p:Projector)(db:Db)(d:Delivered):Db:=(p.ingestPayload d db).getD db

def Projector.admits (p:Projector)(d:Delivered):Bool:=d.payload.providerWorkspaceRef=p.workspace &&
  d.receivedAt≤d.payload.timestamp+maxEventSkew &&
  d.payload.timestamp≤d.receivedAt+maxEventSkew

def Projector.Binds (p:Projector)(db:Db)(t:Target)(payload:InstantlyWebhookPayload) :
 Prop:=
 boundTargets p.policy (p.event payload) db.targets=[t]

structure Keyed (db:Db):Prop where
 targets:(db.targets.map (·.targetId)).Nodup
 events:(db.deliveryEvents.map (·.fingerprint)).Nodup

/-- `_DELIVERY_TIMESTAMPS` -/
inductive Stamp where
 | sentAt | openedAt | clickedAt | repliedAt | bouncedAt | unsubscribedAt
 deriving DecidableEq

def Delivery.stamp (d:Delivery):Stamp→Option ℕ
 | .sentAt=>d.sentAt
 | .openedAt=>d.openedAt
 | .clickedAt=>d.clickedAt
 | .repliedAt=>d.repliedAt
 | .bouncedAt=>d.bouncedAt
 | .unsubscribedAt=>d.unsubscribedAt

/-- `_EVENT_DELIVERY_PROJECTIONS`, with the branch for a message that was sent. -/
def projection:Option ProviderEventType→Option (DeliveryStatus × Stamp)
 | some .emailSent=>some (.delivered,.sentAt)
 | some .emailOpened=>some (.opened,.openedAt)
 | some .emailLinkClicked | some .linkClicked=>some (.clicked,.clickedAt)
 | some .replyReceived | some .autoReplyReceived=>some (.replied,.repliedAt)
 | some .emailBounced=>some (.bounced,.bouncedAt)
 | some .leadUnsubscribed=>some (.unsubscribed,.unsubscribedAt)
 | some .campaignCompleted | some .accountError | none=>none

def reply:Option ProviderEventType→Option ReplyClassification
 | some .replyReceived=>some .humanReply
 | some .autoReplyReceived=>some .autoReply
 | _=>none

def occurrence (stamp:Stamp)(event:DeliveryEvent):Option ℕ:=
 if (projection event.eventType).map Prod.snd=some stamp then some event.occurredAt else none

def rank (event:DeliveryEvent):Option ℕ:=
 (projection event.eventType).map fun raised=>DeliveryStatus.precedence raised.1

lemma project_stamp (d:Delivery)(event:DeliveryEvent)(stamp:Stamp) :
 Delivery.stamp (Delivery.project d event) stamp =
  (occurrence stamp event).elim (Delivery.stamp d stamp) (earliest (Delivery.stamp d stamp)):=by
 rcases event with ⟨fingerprint,targetId,campaignId,type,occurredAt⟩
 cases type with
 | none=>rfl
 | some type=>cases type <;> cases stamp <;> rfl

lemma project_rank (d:Delivery)(event:DeliveryEvent) :
 DeliveryStatus.precedence (Delivery.project d event).status =
  (rank event).elim (DeliveryStatus.precedence d.status)
   (max (DeliveryStatus.precedence d.status)):=by
 rcases event with ⟨fingerprint,targetId,campaignId,type,occurredAt⟩
 have raised:∀ (d:Delivery)(status:DeliveryStatus),
   DeliveryStatus.precedence (Delivery.raise d status).status =
    max (DeliveryStatus.precedence d.status) (DeliveryStatus.precedence status):=by
  intro d status
  change DeliveryStatus.precedence (if _ then _ else _)=_
  split <;> omega
 cases type with
 | none=>rfl
 | some type=>cases type <;> first | rfl | exact raised _ _

lemma project_reply (d:Delivery)(event:DeliveryEvent) :
 (Delivery.project d event).replyClassification =
  (reply event.eventType).or d.replyClassification:=by
 rcases event with ⟨fingerprint,targetId,campaignId,type,occurredAt⟩
 cases type with
 | none=>rfl
 | some type=>cases type <;> rfl

lemma precedence_injective:Function.Injective DeliveryStatus.precedence:=by
 intro a b same
 cases a <;> cases b <;> first | rfl | cases same

lemma delivery_ext {d d':Delivery}
 (status:DeliveryStatus.precedence d.status=DeliveryStatus.precedence d'.status)
 (stamps:∀stamp,Delivery.stamp d stamp=Delivery.stamp d' stamp)
 (replies:d.replyClassification=d'.replyClassification):d=d':=by
 cases d
 cases d'
 have sent:=stamps .sentAt
 have opened:=stamps .openedAt
 have clicked:=stamps .clickedAt
 have replied:=stamps .repliedAt
 have bounced:=stamps .bouncedAt
 have unsubscribed:=stamps .unsubscribedAt
 dsimp only[Delivery.stamp] at *
 rw[precedence_injective status]
 congr

lemma foldl_stamp (d:Delivery)(events:List DeliveryEvent)(stamp:Stamp) :
 Delivery.stamp (events.foldl Delivery.project d) stamp =
  (events.filterMap (occurrence stamp)).foldl (fun column at'=>earliest column at')
   (Delivery.stamp d stamp):=by
 induction events generalizing d with
 | nil=>rfl
 | cons event events ih =>
  rw[List.foldl_cons,ih,project_stamp,List.filterMap_cons]
  cases occurrence stamp event <;> rfl

lemma foldl_rank (d:Delivery)(events:List DeliveryEvent) :
 DeliveryStatus.precedence (events.foldl Delivery.project d).status =
  (events.filterMap rank).foldl max (DeliveryStatus.precedence d.status):=by
 induction events generalizing d with
 | nil=>rfl
 | cons event events ih =>
  rw[List.foldl_cons,ih,project_rank,List.filterMap_cons]
  cases rank event <;> rfl

lemma foldl_reply (d:Delivery)(events:List DeliveryEvent) :
 (events.foldl Delivery.project d).replyClassification =
  (events.filterMap fun event=>reply event.eventType).foldl (fun _ last=>some last)
   d.replyClassification:=by
 induction events generalizing d with
 | nil=>rfl
 | cons event events ih =>
  rw[List.foldl_cons,ih,project_reply,List.filterMap_cons]
  cases reply event.eventType <;> rfl

lemma earliest_eq (column:Option ℕ)(occurredAt:ℕ) :
 earliest column occurredAt=some (column.elim occurredAt (min occurredAt)):=by
 cases column with
 | none=>rfl
 | some before =>
  change some (if occurredAt<before then occurredAt else before)=some (min occurredAt before)
  congr 1
  split <;> omega

lemma earliest_absorbs:Absorbs fun column at'=>earliest column at':=by
 apply absorbs_of_comm
 · intro column a b
   simp only[earliest_eq,Option.elim_some]
   cases column with
   | none=>exact congrArg some (Nat.min_comm b a)
   | some before=>exact congrArg some (Nat.min_left_comm b a before)
 · intro column a
   simp only[earliest_eq,Option.elim_some]
   cases column with
   | none=>exact congrArg some (Nat.min_self a)
   | some before=>exact congrArg some (by change min a (min a before)=min a before;omega)

lemma max_absorbs:Absorbs (max:ℕ→ℕ→ℕ):=absorbs_of_comm (fun s a b=>by omega) fun s a=>by omega

lemma project_absorbs:Absorbs Delivery.project:=by
 intro d part whole sub
 apply delivery_ext
 · rw[foldl_rank,foldl_rank,foldl_rank]
   exact max_absorbs.filterMap rank _ sub
 · intro stamp
   rw[foldl_stamp,foldl_stamp,foldl_stamp]
   exact earliest_absorbs.filterMap (occurrence stamp) _ sub
 · rw[foldl_reply,foldl_reply,foldl_reply]
   have overwritten:Absorbs fun (_:Option ReplyClassification) last=>some last:=
    absorbs_of_overwrites fun _ _ _=>rfl
   exact overwritten.filterMap (fun event=>reply event.eventType) _ sub

def Projector.row (p:Projector)(targetId:String)(payload:InstantlyWebhookPayload) :
 DeliveryEvent:=
 ⟨p.digest payload.stable,some targetId,payload.providerCampaignId,payload.eventType,
  payload.timestamp⟩

lemma row_stable (p:Projector)(targetId:String){a b:InstantlyWebhookPayload}
 (same:a.stable=b.stable):p.row targetId a=p.row targetId b:=by
 have type:a.eventTypeTransportOnly=b.eventTypeTransportOnly:=congrArg (·.eventType) same
 have campaign:a.providerCampaignId=b.providerCampaignId:=congrArg (·.campaignId) same
 have instant:a.timestamp=b.timestamp:=congrArg (·.timestamp) same
 simp only[Projector.row,InstantlyWebhookPayload.eventType,same,type,campaign,instant]

def ownedBy (targetId:String)(event:DeliveryEvent):Bool:=event.targetId=some targetId

/-- The order of `eventsOf`. -/
def inOrder (a b:DeliveryEvent):Bool:=
 a.occurredAt<b.occurredAt||(a.occurredAt=b.occurredAt&&!(b.fingerprint<a.fingerprint))

lemma inOrder_iff {a b:DeliveryEvent}:inOrder a b=true ↔
 a.occurredAt<b.occurredAt ∨ a.occurredAt=b.occurredAt ∧ a.fingerprint≤b.fingerprint:=by
 simp only[inOrder,Bool.or_eq_true,Bool.and_eq_true,decide_eq_true_eq,Bool.not_eq_true',
  decide_eq_false_iff_not,String.not_lt]

lemma inOrder_trans (a b c:DeliveryEvent)(ab:inOrder a b)(bc:inOrder b c) :
 inOrder a c:=by
 rw[inOrder_iff] at *
 rcases ab with ab|⟨ab,first⟩
 · rcases bc with bc|⟨bc,second⟩
   · left
     omega
   · left
     omega
 · rcases bc with bc|⟨bc,second⟩
   · left
     omega
   · exact .inr ⟨ab.trans bc,String.le_trans first second⟩

lemma inOrder_total (a b:DeliveryEvent):inOrder a b||inOrder b a:=by
 rw[Bool.or_eq_true,inOrder_iff,inOrder_iff]
 rcases lt_trichotomy a.occurredAt b.occurredAt with less|same|more
 · exact .inl (.inl less)
 · rcases String.le_total a.fingerprint b.fingerprint with le|ge
   · exact .inl (.inr ⟨same,le⟩)
   · exact .inr (.inr ⟨same.symm,ge⟩)
 · exact .inr (.inl more)

lemma inOrder_antisymm (a b:DeliveryEvent)(ab:inOrder a b)(ba:inOrder b a) :
 a.fingerprint=b.fingerprint:=by
 rw[inOrder_iff] at *
 rcases ab with ab|⟨ab,first⟩
 · rcases ba with ba|⟨ba,second⟩ <;> omega
 · rcases ba with ba|⟨ba,second⟩
   · omega
   · exact String.le_antisymm first second

def Arrival (targetId:String):List DeliveryEvent × Delivery→DeliveryEvent →
 List DeliveryEvent × Delivery:=
 arrive (·.fingerprint) (ownedBy targetId) inOrder Delivery.project

def projected (t:Target)(log:List DeliveryEvent):Target:=
 {t with
   version:=t.version+1
   delivery:=(ordered (ownedBy t.targetId) inOrder log).foldl Delivery.project t.delivery}

section
variable {p:Projector}{db:Db}{t:Target}{d:Delivered}

lemma ingest_refused (refused:p.admits d=false):p.ingest db d=db:=by
 have none:p.ingestPayload d db=none:=by
  unfold Projector.ingestPayload
  split
  · rfl
  · rename_i here
    rw[ne_eq,not_not] at here
    unfold ProspectOptOuts.ingestPayload
    rw[if_pos]
    simp only[Projector.admits,here,decide_true,Bool.true_and,Bool.and_eq_false_iff,
     decide_eq_false_iff_not,Nat.not_le] at refused
    exact refused
 rw[Projector.ingest,none,Option.getD_none]

lemma ingest_admitted (admitted:p.admits d=true)(binds:p.Binds db t d.payload) :
 (p.ingest db d).deliveryEvents =
   record (·.fingerprint) db.deliveryEvents (p.row t.targetId d.payload) ∧
  (p.ingest db d).targets=Tables.update (fun r=>r.targetId==t.targetId)
   (fun _=>projected t
    (record (·.fingerprint) db.deliveryEvents (p.row t.targetId d.payload))) db.targets:=by
 simp only[Projector.admits,Bool.and_eq_true,decide_eq_true_eq] at admitted
 obtain ⟨⟨here,early⟩,late⟩:=admitted
 have timely:¬((p.event d.payload).timestamp+maxEventSkew<d.receivedAt ∨
   d.receivedAt+maxEventSkew<(p.event d.payload).timestamp):=by
  change ¬(d.payload.timestamp+maxEventSkew<d.receivedAt ∨
   d.receivedAt+maxEventSkew<d.payload.timestamp)
  omega
 rw[Projector.ingest,Projector.ingestPayload,if_neg (not_not.mpr here),
  ProspectOptOuts.ingestPayload,if_neg timely,binds]
 simp only[List.length_singleton,ne_eq,not_true_eq_false,and_false,↓reduceIte,
  List.head?_cons,Option.getD_some]
 have recorded:∀db':Db,(recordOptOut p.policy (p.event d.payload) t d.receivedAt
    db').deliveryEvents=db'.deliveryEvents ∧
   (recordOptOut p.policy (p.event d.payload) t d.receivedAt db').targets=db'.targets:=by
  intro db'
  unfold recordOptOut
  split <;> exact ⟨rfl,rfl⟩
 by_cases known:db.deliveryEvents.any (·.fingerprint=(p.event d.payload).fingerprint)=true
 · have log:record (·.fingerprint) db.deliveryEvents (p.row t.targetId d.payload) =
     db.deliveryEvents:=if_pos known
   simp only[known,↓reduceIte]
   rw[log]
   exact ⟨rfl,rfl⟩
 · have log:record (·.fingerprint) db.deliveryEvents (p.row t.targetId d.payload) =
     p.row t.targetId d.payload::db.deliveryEvents:=if_neg known
   simp only[known,Bool.false_eq_true,↓reduceIte]
   rw[log,(recorded _).1,(recorded _).2]
   exact ⟨rfl,rfl⟩

lemma binds_projected (keys:(db.targets.map (·.targetId)).Nodup)
 {payload:InstantlyWebhookPayload}(binds:p.Binds db t payload){db':Db}
 {log:List DeliveryEvent}
 (written:db'.targets=Tables.update (fun r=>r.targetId==t.targetId)
  (fun _=>projected t log) db.targets) :
 p.Binds db' (projected t log) payload:=by
 unfold Projector.Binds at binds ⊢
 unfold boundTargets at binds ⊢
 have mem:t∈db.targets:=by
  apply List.mem_of_mem_filter (p:=_)
  rw[binds]
  exact List.mem_singleton_self t
 rw[written,Tables.update,List.filter_map]
 have same:∀r∈db.targets,(((fun r:Target=>
    r.providerCampaignId=some (p.event payload).providerCampaignId &&
     (p.event payload).leadEmail.all fun email=>
      p.policy.sqlLower r.emailAddress=p.policy.casefold email) ∘
    fun r=>if r.targetId==t.targetId then projected t log else r) r) =
   (r.providerCampaignId=some (p.event payload).providerCampaignId &&
    (p.event payload).leadEmail.all fun email=>
     p.policy.sqlLower r.emailAddress=p.policy.casefold email):=by
  intro r there
  by_cases own:r.targetId=t.targetId
  · obtain rfl:r=t:=List.inj_on_of_nodup_map keys there mem own
    simp[projected]
  · simp[own]
 rw[List.filter_congr same,binds]
 simp

end

section
variable (p:Projector){db:Db}{t:Target}

lemma ingestAll_arrivals (keys:(db.targets.map (·.targetId)).Nodup)
 (found:db.target? t.targetId=some t)(ds:List Delivered)
 (binds:∀d∈ds,p.Binds db t d.payload) :
 ∃t',(ds.foldl p.ingest db).target? t.targetId=some t' ∧
  ((ds.foldl p.ingest db).deliveryEvents,t'.delivery) =
   ((ds.filter p.admits).map fun d=>p.row t.targetId d.payload).foldl (Arrival t.targetId)
    (db.deliveryEvents,t.delivery):=by
 induction ds generalizing db t with
 | nil=>exact ⟨t,found,rfl⟩
 | cons d ds ih =>
  have own:=binds d List.mem_cons_self
  have rest:∀d'∈ds,p.Binds db t d'.payload:=fun d' mem=>binds d' (List.mem_cons_of_mem d mem)
  rw[List.foldl_cons]
  cases admitted:p.admits d with
  | false =>
   rw[ingest_refused admitted,List.filter_cons_of_neg (by simp[admitted])]
   exact ih keys found rest
  | true =>
   rw[List.filter_cons_of_pos admitted]
   obtain ⟨events,targets⟩:=ingest_admitted admitted own
   generalize p.ingest db d=db' at events targets ⊢
   generalize grown:record (·.fingerprint) db.deliveryEvents (p.row t.targetId d.payload) =
    log at events targets
   have keys':(db'.targets.map (·.targetId)).Nodup:=by
    have kept:db'.targets.map (·.targetId)=db.targets.map (·.targetId):=by
     rw[targets]
     exact Tables.map_key_update fun row _ same=>(beq_iff_eq.mp same).symm
    rw[kept]
    exact keys
   have found':db'.target? (projected t log).targetId=some (projected t log):=by
    have read:db'.target? t.targetId=(db.setTarget (projected t log)).target? t.targetId:=by
     unfold Db.target?
     rw[targets]
     rfl
    change db'.target? t.targetId=_
    rw[read,Db.target?_setTarget,found]
    exact if_pos rfl
   obtain ⟨t',read,is⟩:=ih keys' found' fun d' mem=>binds_projected keys (rest d' mem) targets
   refine ⟨t',read,is.trans ?_⟩
   rw[List.map_cons,List.foldl_cons,events,←grown]
   rfl

def Projector.deliveryAfter (db:Db)(ds:List Delivered)(targetId:String):Option Delivery:=
 ((ds.foldl p.ingest db).target? targetId).map (·.delivery)

def Projector.arrivals (targetId:String)(ds:List Delivered):List DeliveryEvent:=
 (ds.filter p.admits).map fun d=>p.row targetId d.payload

lemma deliveryAfter_eq (keys:(db.targets.map (·.targetId)).Nodup)
 (found:db.target? t.targetId=some t){ds:List Delivered}
 (binds:∀d∈ds,p.Binds db t d.payload) :
 p.deliveryAfter db ds t.targetId=some ((p.arrivals t.targetId ds).foldl (Arrival t.targetId)
  (db.deliveryEvents,t.delivery)).2:=by
 obtain ⟨t',read,is⟩:=ingestAll_arrivals p keys found ds binds
 rw[Projector.deliveryAfter,read,Projector.arrivals,←is]
 rfl

lemma mem_arrivals {targetId:String}{ds:List Delivered}{event:DeliveryEvent} :
 event∈p.arrivals targetId ds ↔ ∃d∈ds,p.admits d=true ∧ p.row targetId d.payload=event:=by
 simp[Projector.arrivals,and_assoc]

lemma arrivals_faithful {ds:List Delivered}(targetId:String)
 (collisionFree:∀d∈ds,∀d'∈ds,p.digest d.payload.stable=p.digest d'.payload.stable →
  d.payload.stable=d'.payload.stable) :
 ∀a∈p.arrivals targetId ds,∀b∈p.arrivals targetId ds,a.fingerprint=b.fingerprint→a=b:=by
 intro a ha b hb same
 obtain ⟨d,mem,-,rfl⟩:=(mem_arrivals p).mp ha
 obtain ⟨d',mem',-,rfl⟩:=(mem_arrivals p).mp hb
 exact row_stable p targetId (collisionFree d mem d' mem' same)

end

lemma arrival_rank (targetId:String)(state:List DeliveryEvent × Delivery)
 (events:List DeliveryEvent) :
 DeliveryStatus.precedence state.2.status ≤
  DeliveryStatus.precedence (events.foldl (Arrival targetId) state).2.status:=by
 have grows:∀ (ranks:List ℕ)(least:ℕ),least≤ranks.foldl max least:=by
  intro ranks
  induction ranks with
  | nil=>exact fun least=>le_rfl
  | cons rank ranks ih=>exact fun least=>(le_max_left least rank).trans (ih _)
 induction events generalizing state with
 | nil=>exact le_rfl
 | cons event events ih =>
  apply le_trans _ (ih _)
  change _≤DeliveryStatus.precedence (List.foldl Delivery.project state.2 _).status
  rw[foldl_rank]
  exact grows _ _

lemma foldl_earliest {column:Option ℕ}{instants:List ℕ}{at':ℕ} :
 instants.foldl (fun column at'=>earliest column at') column=some at' ↔
  IsLeast {x | column=some x ∨ x∈instants} at':=by
 induction instants generalizing column with
 | nil =>
  constructor
  · intro is
    refine ⟨.inl is,?_⟩
    rintro x (seen|seen)
    · exact (Option.mem_unique is seen).le
    · cases seen
  · rintro ⟨seen|seen,-⟩
    · exact seen
    · cases seen
 | cons a instants ih =>
  rw[List.foldl_cons,ih,earliest_eq]
  constructor
  · rintro ⟨seen,least⟩
    have below:at'≤column.elim a (min a):=least (.inl rfl)
    constructor
    · rcases seen with seen|seen
      · have is:=Option.some.inj seen
        cases column with
        | none=>exact .inr (is ▸ List.mem_cons_self)
        | some before =>
         change min a before=at' at is
         rcases le_total a before with le|ge
         · rw[min_eq_left le] at is
           exact .inr (is ▸ List.mem_cons_self)
         · rw[min_eq_right ge] at is
           exact .inl (congrArg some is)
      · exact .inr (List.mem_cons_of_mem a seen)
    · rintro x (seen|seen)
      · rw[seen] at below
        exact below.trans (min_le_right a x)
      · rcases List.mem_cons.mp seen with rfl|seen
        · cases column with
          | none=>exact below
          | some before=>exact below.trans (min_le_left x before)
        · exact least (.inr seen)
  · rintro ⟨seen,least⟩
    have first:at'≤a:=least (.inr List.mem_cons_self)
    constructor
    · rcases seen with seen|seen
      · left
        rw[seen]
        exact congrArg some (min_eq_right first)
      · rcases List.mem_cons.mp seen with rfl|seen
        · left
          cases column with
          | none=>rfl
          | some before=>exact congrArg some (min_eq_left (least (.inl rfl)))
        · exact .inr seen
    · rintro x (seen|seen)
      · have is:=Option.some.inj seen
        cases column with
        | none=>exact is ▸ first
        | some before=>exact is ▸ le_min first (least (.inl rfl))
      · exact least (.inr (List.mem_cons_of_mem a seen))

def Undelivered (db:Db)(t:Target):Prop:=t.delivery=⟨.notSent,none,none,none,none,none,none,none⟩ ∧
  ∀event∈db.deliveryEvents,event.targetId≠some t.targetId

/-- The instants of the delivered events that set a column. A payload whose fingerprint was
logged before, also for another target, is no event of this one: it projects nothing. -/
def Projector.instants (p:Projector)(db:Db)(ds:List Delivered)(stamp:Stamp):Set ℕ:=
 {x | ∃d∈ds,p.admits d=true ∧ d.payload.timestamp=x ∧
   (projection d.payload.eventType).map Prod.snd=some stamp ∧
   ∀event∈db.deliveryEvents,event.fingerprint≠p.digest d.payload.stable}

lemma stamps_earliest (p:Projector){db:Db}{t:Target}(blank:Undelivered db t) {ds:List Delivered}
 (faithful:∀a∈p.arrivals t.targetId ds,∀b∈p.arrivals t.targetId ds,
  a.fingerprint=b.fingerprint→a=b)(stamp:Stamp)(at':ℕ) :
 Delivery.stamp ((p.arrivals t.targetId ds).foldl (Arrival t.targetId)
  (db.deliveryEvents,t.delivery)).2 stamp=some at' ↔
   IsLeast (p.instants db ds stamp) at':=by
 have unset:Delivery.stamp t.delivery stamp=none:=by
  rw[blank.1]
  cases stamp <;> rfl
 have projects:((p.arrivals t.targetId ds).foldl (Arrival t.targetId)
   (db.deliveryEvents,t.delivery)).2=(ordered (ownedBy t.targetId) inOrder
    ((p.arrivals t.targetId ds).foldl (record (·.fingerprint)) db.deliveryEvents)).foldl
     Delivery.project t.delivery:=by
  cases p.arrivals t.targetId ds with
  | nil =>
   have empty:db.deliveryEvents.filter (ownedBy t.targetId)=[]:=by
    apply List.filter_eq_nil_iff.mpr
    intro event mem
    simpa[ownedBy] using blank.2 event mem
   change t.delivery=List.foldl _ _ (List.mergeSort (List.filter _ db.deliveryEvents) _)
   rw[empty,List.mergeSort_nil]
   rfl
  | cons event events =>
   unfold Arrival
   rw[foldl_arrive _ _ _ _ project_absorbs]
 rw[projects,foldl_stamp,unset,foldl_earliest]
 have same:{x | none=some x ∨ x∈(ordered (ownedBy t.targetId) inOrder
   ((p.arrivals t.targetId ds).foldl (record (·.fingerprint)) db.deliveryEvents)).filterMap
    (occurrence stamp)}=p.instants db ds stamp:=by
  ext x
  simp only[Set.mem_ofPred_eq,reduceCtorEq,false_or,List.mem_filterMap,ordered,
   List.mem_mergeSort,List.mem_filter,mem_foldl_record faithful,mem_arrivals]
  constructor
  · rintro ⟨event,⟨old|⟨⟨d,mem,admitted,rfl⟩,fresh⟩,own⟩,occurs⟩
    · exact absurd (by simpa[ownedBy] using own) (blank.2 event old)
    · unfold occurrence at occurs
      split at occurs
      · rename_i column
        refine ⟨d,mem,admitted,Option.some.inj occurs,column,?_⟩
        intro event there clash
        exact fresh ⟨event,there,clash⟩
      · cases occurs
  · rintro ⟨d,mem,admitted,rfl,column,fresh⟩
    refine ⟨p.row t.targetId d.payload,⟨.inr ⟨⟨d,mem,admitted,rfl⟩,?_⟩,?_⟩,if_pos column⟩
    · rintro ⟨event,there,clash⟩
      exact fresh event there clash
    · simp[ownedBy,Projector.row]
 rw[same]

/-- Payloads that bind to a target may come in any order and any number of
times: they leave one projection, whose status never fell on the way. -/
theorem ingestion_converges (p:Projector){db:Db}(keys:Keyed db){t:Target}
 (found:db.target? t.targetId=some t){first second:List Delivered}
 (binds:∀d∈first++second,p.Binds db t d.payload)
 (collisionFree:∀d∈first++second,∀d'∈first++second,
  p.digest d.payload.stable=p.digest d'.payload.stable →d.payload.stable=d'.payload.stable)
 (same:∀payload,(∃d∈first,p.admits d=true ∧ d.payload=payload) ↔
  ∃d∈second,p.admits d=true ∧ d.payload=payload) :
 ∃delivery,p.deliveryAfter db first t.targetId=some delivery ∧
  p.deliveryAfter db second t.targetId=some delivery ∧
  (∀earlier later,first=earlier++later →
   ∃before,p.deliveryAfter db earlier t.targetId=some before ∧
    DeliveryStatus.precedence before.status≤DeliveryStatus.precedence delivery.status) ∧
  (Undelivered db t→∀stamp at',Delivery.stamp delivery stamp=some at' ↔
   IsLeast (p.instants db first stamp) at'):=by
 have inFirst:∀d∈first,d∈first++second:=fun d mem=>List.mem_append_left second mem
 have faithful:=@arrivals_faithful p first t.targetId fun d mem d' mem'=>
  collisionFree d (inFirst d mem) d' (inFirst d' mem')
 refine ⟨_,deliveryAfter_eq p keys.targets found fun d mem=>binds d (inFirst d mem),?_,?_,?_⟩
 · rw[deliveryAfter_eq p keys.targets found fun d mem=>binds d (List.mem_append_right first mem)]
   congr 1
   refine (arrive_converges (ownedBy t.targetId) Delivery.project project_absorbs inOrder_trans
    inOrder_total inOrder_antisymm keys.events faithful ?_ t.delivery).symm
   intro event
   rw[mem_arrivals,mem_arrivals]
   constructor
   · rintro ⟨d,mem,admitted,rfl⟩
     obtain ⟨d',mem',admitted',is⟩:=(same d.payload).mp ⟨d,mem,admitted,rfl⟩
     exact ⟨d',mem',admitted',by rw[is]⟩
   · rintro ⟨d,mem,admitted,rfl⟩
     obtain ⟨d',mem',admitted',is⟩:=(same d.payload).mpr ⟨d,mem,admitted,rfl⟩
     exact ⟨d',mem',admitted',by rw[is]⟩
 · rintro earlier later rfl
   refine ⟨_,deliveryAfter_eq p keys.targets found fun d mem=>
    binds d (inFirst d (List.mem_append_left later mem)),?_⟩
   unfold Projector.arrivals
   rw[List.filter_append,List.map_append,List.foldl_append]
   exact arrival_rank t.targetId _ _
 · exact fun blank stamp at'=>stamps_earliest p blank faithful stamp at'

/-! ### A message that was opened and answered -/

def sampleProjector:Projector where
 policy:=ProspectRuns.samplePolicy
 workspace:="workspace"
 digest event:=event.eventType

def samplePayload (eventType:String)(timestamp:ℕ):InstantlyWebhookPayload where
 eventTypeTransportOnly:=eventType
 timestamp
 providerWorkspaceRef:="workspace"
 providerCampaignId:="campaign"
 providerEmailEventId:=none
 leadEmail:=some "contact@alpha.fr"
 replyText:=none
 replyTextSnippet:=none
 replySubject:=none

def sampleBound:Target:=
 {ProspectRuns.sampleTarget "t1" "alpha" with providerCampaignId:=some "campaign" }

def sampleDb:Db:=⟨[],[sampleBound],ProspectRuns.sampleDirectory,[],[]⟩

def inTurn:List Delivered:=[⟨samplePayload "email_opened" 4,5⟩,⟨samplePayload "reply_received" 6,7⟩]

def outOfTurn:List Delivered:=
 [⟨samplePayload "reply_received" 6,7⟩,⟨samplePayload "email_opened" 4,8⟩,
  ⟨samplePayload "reply_received" 6,9⟩]

theorem ingestion_converges_sample :
 ∃delivery,sampleProjector.deliveryAfter sampleDb inTurn "t1"=some delivery ∧
  sampleProjector.deliveryAfter sampleDb outOfTurn "t1"=some delivery:=by
 have binds:∀d∈inTurn++outOfTurn,boundTargets sampleProjector.policy
   (sampleProjector.event d.payload) sampleDb.targets=[sampleBound]:=by
  decide +kernel
 have admitted:∀ds:List Delivered,∀payload,
   (∃d∈ds,sampleProjector.admits d=true ∧ d.payload=payload) ↔
    payload∈(ds.filter sampleProjector.admits).map (·.payload):=by
  simp[and_assoc]
 obtain ⟨delivery,first,second,-⟩:=@ingestion_converges sampleProjector sampleDb
  ⟨by decide,by decide⟩ sampleBound (by decide +kernel) inTurn outOfTurn binds
  (by decide +kernel) fun payload=>by
   rw[admitted,admitted]
   have left:(inTurn.filter sampleProjector.admits).map (·.payload) =
     [samplePayload "email_opened" 4,samplePayload "reply_received" 6]:=by decide +kernel
   have right:(outOfTurn.filter sampleProjector.admits).map (·.payload) =
     [samplePayload "reply_received" 6,samplePayload "email_opened" 4,
      samplePayload "reply_received" 6]:=by decide +kernel
   rw[left,right]
   simp only[List.mem_cons,List.not_mem_nil,or_false]
   tauto
 exact ⟨delivery,first,second⟩

end Kivou.ProspectWebhooks
