import Kivou.ReliabilityObserver

set_option autoImplicit false

/-! A scan of the same rows obtains the same incidents again, whatever else it finds in their table:
a replay compares neither the state of an incident nor its times nor the controls that it is bound
to. -/
namespace Kivou.ReliabilityIncidents
open PythonValues PolicyControls SafetyControls OperationalIncidents BounceBreaker ReliabilityObserver

def content (r:Incident):Incident:=
 {r with
   state:=.opened
   triggeredAt:=0
   policyControlBefore:=none
   policyControlAfter:=none
   acknowledgedAt:=none
   resolvedAt:=none
   createdAt:=0
   updatedAt:=0}

structure SameContent (db db':Db):Prop where
 incidents:db.incidents.map content=db'.incidents.map content
 campaigns:db.campaigns=db'.campaigns

def Unbound (v:Incident):Prop:=v.policyControlBefore=none ∧ v.policyControlAfter=none

variable {db db':Db}{v v':Incident}

lemma SameContent.refl (db:Db):SameContent db db:=⟨rfl,rfl⟩

lemma SameContent.trans {db'':Db}(h:SameContent db db')(h':SameContent db' db'') :
 SameContent db db'':=⟨h.incidents.trans h'.incidents,h.campaigns.trans h'.campaigns⟩

lemma stored_content (unbound:Unbound v) : (content v).stored=v.stored.map content:=by
 have fits:(content v).fits=v.fits:=by
  simp[Incident.fits,content,unbound.1,unbound.2]
 unfold Incident.stored
 rw[fits]
 split
 · change (Columns.whenPresent _ v.observedValue).bind _=_
   cases Columns.whenPresent (Decimals.numeric 24 8) v.observedValue with
   | none=>rfl
   | some observed =>
    change (Columns.whenPresent _ v.thresholdValue).map _=_
    cases threshold:Columns.whenPresent (Decimals.numeric 24 8) v.thresholdValue with
    | none=>simp
    | some t=>simp[content]
 · rfl

lemma any_content (same:db.incidents.map content=db'.incidents.map content)
 (p:Incident→Bool)(reads:∀r,p r=p (content r)) :
 db.incidents.any p=db'.incidents.any p:=by
 have through:∀rows:List Incident,rows.any p=(rows.map content).any p:=by
  intro rows
  rw[List.any_map]
  exact congrArg (List.any rows) (funext reads)
 rw[through,same,←through]

lemma incident?_content (same:db.incidents.map content=db'.incidents.map content)(ref:String) :
 (incident? db ref).map content=(incident? db' ref).map content:=by
 have through:∀rows:List Incident,(rows.find? (fun r=>r.incidentRef==ref)).map content =
   (rows.map content).find? (fun r=>r.incidentRef==ref):=by
  intro rows
  rw[List.find?_map]
  rfl
 unfold incident?
 rw[through,same,←through]

lemma content_keys {r r':Incident}(same:content r=content r') :
 r.triggerFingerprint=r'.triggerFingerprint ∧ r.incidentRef=r'.incidentRef ∧
  r.campaignRef=r'.campaignRef:=by
 have fingerprint:=congrArg Incident.triggerFingerprint same
 have reference:=congrArg Incident.incidentRef same
 have campaign:=congrArg Incident.campaignRef same
 exact ⟨fingerprint,reference,campaign⟩

def shown (result:SaveResult × Db):Incident × Bool × List Incident × List String:=
 (content result.1.row,result.1.replayed,result.2.incidents.map content,result.2.campaigns)

lemma insertIncident_content (same:SameContent db db')(values:content v=content v')
 (unbound:Unbound v)(unbound':Unbound v') :
 (insertIncident db v).map (fun r=>(r.1,r.2.incidents.map content,r.2.campaigns)) =
  (insertIncident db' v').map (fun r=>(r.1,r.2.incidents.map content,r.2.campaigns)):=by
 have kept:v.stored.map content=v'.stored.map content:=by
  rw[←stored_content unbound,←stored_content unbound',values]
 unfold insertIncident
 cases stored:v.stored with
 | none =>
  rw[stored] at kept
  rw[Option.map_eq_none_iff.mp kept.symm]
 | some row =>
  rw[stored] at kept
  obtain ⟨row',stored',equal⟩:=Option.map_eq_some_iff.mp kept.symm
  rw[stored']
  obtain ⟨fingerprint,reference,campaign⟩:=content_keys equal
  dsimp only
  rw[fingerprint,reference,campaign,←same.campaigns,
   any_content same.incidents (fun r=>r.triggerFingerprint==row.triggerFingerprint) (fun _=>rfl),
   any_content same.incidents (fun r=>r.incidentRef==row.incidentRef) (fun _=>rfl)]
  split_ifs
  · simp[Except.map,same.incidents,same.campaigns]
  · rfl
  · rfl
  · simp[Except.map,same.incidents,same.campaigns,equal]

lemma saveIncident_content (same:SameContent db db')(values:content v=content v')
 (unbound:Unbound v)(unbound':Unbound v') :
 (saveIncident db v).map shown=(saveIncident db' v').map shown:=by
 have inserts:=insertIncident_content same values unbound unbound'
 have reference:v'.incidentRef=v.incidentRef:=(content_keys values.symm).2.1
 unfold saveIncident
 cases insert:insertIncident db v with
 | error failure =>
  rw[insert] at inserts
  cases insert':insertIncident db' v' with
  | error failure' =>
   rw[insert'] at inserts
   cases inserts
   rfl
  | ok result' =>
   rw[insert'] at inserts
   cases inserts
 | ok result =>
  rw[insert] at inserts
  cases insert':insertIncident db' v' with
  | error failure' =>
   rw[insert'] at inserts
   cases inserts
  | ok result' =>
   rw[insert'] at inserts
   simp only[Except.map,Except.ok.injEq,Prod.mk.injEq] at inserts
   obtain ⟨inserted,rows,campaigns⟩:=inserts
   have found:=incident?_content rows v.incidentRef
   simp only[bind,Except.bind,pure,Except.pure,OperationalIncidents.incident,reference]
   cases read:incident? result.2 v.incidentRef with
   | none =>
    rw[read] at found
    rw[Option.map_eq_none_iff.mp found.symm]
   | some row =>
    rw[read] at found
    obtain ⟨row',read',equal⟩:=Option.map_eq_some_iff.mp found.symm
    rw[read']
    have compared:requireSame row v=requireSame row' v':=by
     change requireSame (content row) (content v)=requireSame (content row') (content v')
     rw[equal,values]
    dsimp only
    rw[←compared]
    cases requireSame row v with
    | error failure=>rfl
    | ok _=>simp[Except.map,shown,equal,inserted,rows,campaigns]

variable (digests:ScanDigests)(h:History)

inductive Alike:Except Failure (Option IncidentTrigger)→Except Failure (Option IncidentTrigger)→Prop
 | failed (failure:Failure):Alike (.error failure) (.error failure)
 | nothing:Alike (.ok none) (.ok none)
 | trigger {t t':IncidentTrigger}
   (same:content (t.values digests.toDigests)=content (t'.values digests.toDigests))
   (unbound:Unbound (t.values digests.toDigests))(unbound':Unbound (t'.values digests.toDigests)) :
   Alike (.ok (some t)) (.ok (some t'))

lemma checked_alike (t:Trigger)(before:t.policyControlBefore=none)
 (after:t.policyControlAfter=none)(time:ℤ) :
 Alike digests (t.checked.map some) ({t with triggeredAt:=time}.checked.map some):=by
 have accepted:{t with triggeredAt:=time}.accepted=t.accepted:=rfl
 unfold Trigger.checked
 by_cases form:t.accepted=true
 · rw[dif_pos form,dif_pos (accepted.trans form)]
   apply Alike.trigger
   · rfl
   · simp[Unbound,Trigger.values,before,after]
   · simp[Unbound,Trigger.values,before,after]
 · rw[dif_neg form,dif_neg (by rwa[accepted])]
   exact .failed _

lemma bounceTrigger_alike (o:BounceObservation)(time:ℤ) :
 Alike digests (bounceTrigger o) (bounceTrigger (o.again time)):=by
 have count:(o.again time).sentCount=o.sentCount:=rfl
 have rate:(o.again time).rate=o.rate:=rfl
 unfold bounceTrigger
 rw[count,rate]
 split_ifs
 · exact .nothing
 · exact .nothing
 · exact checked_alike digests o.trigger rfl rfl time

lemma observe_alike (time time':ℤ)(finding:Finding) :
 Alike digests (observe digests h time finding) (observe digests h time' finding):=by
 cases finding with
 | bounces =>
  unfold observe bounceObservation
  by_cases bound:(sentMembers h).length≤100000
  · rw[dif_pos bound,dif_pos bound]
    exact bounceTrigger_alike digests _ time'
  · rw[dif_neg bound,dif_neg bound]
    exact .failed _
 | complaint reference=>exact checked_alike digests (complaintTrigger h reference time) rfl rfl time'
 | criticalTransport reference code =>
  exact checked_alike digests (criticalTransportTrigger h reference code time) rfl rfl time'
 | providerFailures =>
  unfold observe providerTrigger
  dsimp only
  split_ifs
  · exact .failed _
  · exact .nothing
  · exact checked_alike digests (providerFailureTrigger digests h _ _ time) rfl rfl time'

def obtained (result:Except Failure (Option SaveResult) × Db):Except Failure (Option String):=
 result.1.map (Option.map (fun saved=>saved.row.incidentRef))

variable {digests h}

lemma record_content {x x':Except Failure (Option IncidentTrigger)}(alike:Alike digests x x')
 (same:SameContent db db') :
 obtained (record digests db x)=obtained (record digests db' x') ∧
  SameContent (record digests db x).2 (record digests db' x').2:=by
 cases alike with
 | failed | nothing=>exact ⟨rfl,same⟩
 | @trigger t t' values unbound unbound' =>
  have saves:=saveIncident_content same values unbound unbound'
  simp only[obtained,record,openIncident]
  cases save:saveIncident db (t.values digests.toDigests) with
  | error failure =>
   rw[save] at saves
   cases save':saveIncident db' (t'.values digests.toDigests) with
   | error failure' =>
    rw[save'] at saves
    cases saves
    exact ⟨rfl,same⟩
   | ok result' =>
    rw[save'] at saves
    cases saves
  | ok result =>
   rw[save] at saves
   cases save':saveIncident db' (t'.values digests.toDigests) with
   | error failure' =>
    rw[save'] at saves
    cases saves
   | ok result' =>
    rw[save'] at saves
    simp only[Except.map,shown,Except.ok.injEq,Prod.mk.injEq] at saves
    obtain ⟨row,-,rows,campaigns⟩:=saves
    exact ⟨congrArg (fun r=>Except.ok (some r)) (content_keys row).2.1,rows,campaigns⟩

def refs (db:Db):List String:=db.incidents.map Incident.incidentRef

lemma SameContent.refs (same:SameContent db db'):refs db=refs db':=by
 have keys:=congrArg (List.map Incident.incidentRef) same.incidents
 rw[List.map_map,List.map_map] at keys
 exact keys

def insertRef (column:List String)(reference:String):List String:=
 if reference∈column then column else column++[reference]

lemma saveIncident_refs {saved:SaveResult}(save:saveIncident db v=.ok (saved,db')) :
 saved.row.incidentRef=v.incidentRef ∧ refs db'=insertRef (refs db) saved.row.incidentRef:=by
 obtain ⟨inserted,found,-⟩:=saveIncident_ok save
 have own:saved.row.incidentRef=v.incidentRef:=by simpa using List.find?_some found
 refine ⟨own,?_⟩
 have there:saved.row∈db'.incidents:=List.mem_of_find?_eq_some found
 generalize (!saved.replayed)=written at inserted
 cases inserted with
 | taken =>
  have mem:saved.row.incidentRef∈refs db:=List.mem_map_of_mem there
  rw[insertRef,if_pos mem]
 | written row stored fresh known =>
  have reference:row.incidentRef=saved.row.incidentRef:=by rw[stored_fields stored,own]
  have absent:saved.row.incidentRef∉refs db:=by
   intro mem
   obtain ⟨r,old,eq⟩:=List.mem_map.mp mem
   exact (fresh r old).2 (eq.trans own)
  rw[insertRef,if_neg absent,←reference]
  simp[refs]

def Recorded (v:Incident)(db:Db):Prop:=
 v.stored.isSome=true ∧ ∃row,incident? db v.incidentRef=some row ∧ requireSame row v=.ok ()

lemma Recorded.inserted {inserted:Bool}{other:Incident}(recorded:Recorded v db)
 (done:Inserted db other inserted db'):Recorded v db':=by
 obtain ⟨stored,row,found,same⟩:=recorded
 refine ⟨stored,row,?_,same⟩
 cases done with
 | taken=>exact found
 | written =>
  unfold incident? at found ⊢
  rw[List.find?_append,found]
  rfl

lemma Recorded.record (recorded:Recorded v db)(x:Except Failure (Option IncidentTrigger)) :
 Recorded v (record digests db x).2:=by
 cases x with
 | error failure=>exact recorded
 | ok trigger =>
  cases trigger with
  | none=>exact recorded
  | some trigger =>
   simp only[ReliabilityObserver.record,openIncident]
   cases save:saveIncident db (trigger.values digests.toDigests) with
   | error failure=>exact recorded
   | ok result=>exact recorded.inserted (saveIncident_ok save).1

lemma record_cases (digests:ScanDigests)(db:Db)(x:Except Failure (Option IncidentTrigger)) :
 (∃failure,record digests db x=(.error failure,db)) ∨
  (x=.ok none ∧ record digests db x=(.ok none,db)) ∨
  ∃trigger saved db',x=.ok (some trigger) ∧ record digests db x=(.ok (some saved),db') ∧
   saveIncident db (trigger.values digests.toDigests)=.ok (saved,db'):=by
 cases x with
 | error failure=>exact .inl ⟨failure,rfl⟩
 | ok trigger =>
  cases trigger with
  | none=>exact .inr (.inl ⟨rfl,rfl⟩)
  | some trigger =>
   simp only[record,openIncident]
   cases save:saveIncident db (trigger.values digests.toDigests) with
   | error failure=>exact .inl ⟨failure,rfl⟩
   | ok result=>exact .inr (.inr ⟨trigger,result.1,result.2,rfl,rfl,save⟩)

lemma recorded_of_saved {saved:SaveResult}(save:saveIncident db v=.ok (saved,db')) :
 Recorded v db':=by
 obtain ⟨-,found,same⟩:=saveIncident_ok save
 refine ⟨?_,saved.row,found,same⟩
 cases stored:v.stored with
 | some row=>rfl
 | none =>
  rw[saveIncident,insertIncident,stored] at save
  cases save

lemma Recorded.again {trigger:IncidentTrigger}
 (recorded:Recorded (trigger.values digests.toDigests) db) :
 ∃row,ReliabilityObserver.record digests db (.ok (some trigger))=(.ok (some ⟨row,true⟩),db) ∧
  row.incidentRef=trigger.incidentRef digests.toDigests:=by
 obtain ⟨stored,row,found,same⟩:=recorded
 obtain ⟨kept,hk⟩:=Option.isSome_iff_exists.mp stored
 have fingerprint:=(requireSame_fields same).1
 have there:db.incidents.any (fun r=>r.triggerFingerprint==kept.triggerFingerprint)=true:=by
  rw[stored_fields hk]
  exact List.any_eq_true.mpr ⟨row,List.mem_of_find?_eq_some found,by simpa using fingerprint⟩
 have insert:insertIncident db (trigger.values digests.toDigests)=.ok (false,db):=by
  unfold insertIncident
  rw[hk]
  exact if_pos there
 refine ⟨row,?_,by simpa[Trigger.values] using List.find?_some found⟩
 rw[ReliabilityObserver.record,openIncident,saveIncident_of insert found same]
 rfl

variable (digests h)

/-- The incidents that a scan obtains, no more than `n` of them, and what it
records on the way, if nothing but a recording ends it. -/
def recordFirst (at':ℤ):List Finding→ℕ→Db→List Outcome × Db
 | [],_,db=>([],db)
 | _::_,0,db=>([],db)
 | finding::rest,n+1,db =>
  match record digests db (observe digests h at' finding) with
  | (.error _,db')=>([],db')
  | (.ok none,db')=>recordFirst at' rest (n+1) db'
  | (.ok (some saved),db') =>
   (⟨saved.row.incidentRef,finding.critical⟩::(recordFirst at' rest n db').1,
    (recordFirst at' rest n db').2)

variable {digests h}

lemma recordFirst_content {time time':ℤ}{rest:List Finding}{n:ℕ}(same:SameContent db db') :
 (recordFirst digests h time rest n db).1=(recordFirst digests h time' rest n db').1 ∧
  SameContent (recordFirst digests h time rest n db).2 (recordFirst digests h time' rest n db').2:=by
 induction rest generalizing n db db' with
 | nil=>exact ⟨rfl,same⟩
 | cons finding rest ih =>
  cases n with
  | zero=>exact ⟨rfl,same⟩
  | succ n =>
   obtain ⟨shows,leaves⟩:=record_content (observe_alike digests h time time' finding) same
   unfold recordFirst
   revert shows leaves
   rcases record digests db (observe digests h time finding) with ⟨failure|saved|saved,d⟩ <;>
    rcases record digests db' (observe digests h time' finding) with
     ⟨failure' | saved' | saved',d'⟩ <;> intro shows leaves
   all_goals first | cases shows | skip
   · exact ⟨rfl,leaves⟩
   · exact ih leaves
   · simp only[obtained,Except.map,Option.map,Except.ok.injEq,Option.some.injEq] at shows
     dsimp only
     rw[shows,(ih leaves).1]
     exact ⟨rfl,(ih leaves).2⟩

lemma Recorded.recordFirst (recorded:Recorded v db)(time:ℤ)(rest:List Finding)(n:ℕ) :
 Recorded v (recordFirst digests h time rest n db).2:=by
 induction rest generalizing n db with
 | nil=>exact recorded
 | cons finding rest ih =>
  cases n with
  | zero=>exact recorded
  | succ n =>
   have next:Recorded v (ReliabilityObserver.record digests db (observe digests h time finding)).2:=
    recorded.record _
   unfold ReliabilityIncidents.recordFirst
   revert next
   rcases ReliabilityObserver.record digests db (observe digests h time finding) with
    ⟨failure | saved | saved,d⟩ <;> intro next
   · exact next
   · exact ih next _
   · exact ih next _

variable (time:ℤ)(rest:List Finding)(n:ℕ)

lemma recordFirst_again (n m:ℕ)(db:Db) :
 (recordFirst digests h time rest m (recordFirst digests h time rest n db).2).1 =
  (recordFirst digests h time rest m db).1:=by
 induction rest generalizing n m db with
 | nil=>rfl
 | cons finding rest ih =>
  cases n with
  | zero=>rfl
  | succ n =>
   cases m with
   | zero=>rfl
   | succ m =>
    rcases record_cases digests db (observe digests h time finding) with
     ⟨failure,done⟩ | ⟨seen,done⟩ | ⟨trigger,saved,db',seen,done,save⟩
    · simp only[recordFirst,done]
    · simp only[recordFirst,done]
      rw[seen]
      exact ih (n+1) (m+1) db
    · have still:Recorded _ (recordFirst digests h time rest n db').2:=
       (recorded_of_saved save).recordFirst time rest n
      obtain ⟨row,again,reference⟩:=still.again
      simp only[recordFirst,done]
      rw[seen,again]
      dsimp only
      rw[reference,(saveIncident_refs save).1,ih n m db']
      rfl

lemma recordFirst_refs (db:Db) : refs (recordFirst digests h time rest n db).2 =
  ((recordFirst digests h time rest n db).1.map Outcome.incidentRef).foldl insertRef (refs db):=by
 induction rest generalizing n db with
 | nil=>rfl
 | cons finding rest ih =>
  cases n with
  | zero=>rfl
  | succ n =>
   rcases record_cases digests db (observe digests h time finding) with
    ⟨failure,done⟩ | ⟨-,done⟩ | ⟨trigger,saved,db',-,done,save⟩
   · simp only[recordFirst,done,List.map_nil,List.foldl_nil]
   · simp only[recordFirst,done]
     exact ih (n+1) db
   · simp only[recordFirst,done,List.map_cons,List.foldl_cons]
     rw[ih n db',(saveIncident_refs save).2]

lemma recordFirst_take {n m:ℕ}(le:n ≤ m)(db:Db) :
 (recordFirst digests h time rest n db).1=(recordFirst digests h time rest m db).1.take n:=by
 induction rest generalizing n m db with
 | nil=>simp[recordFirst]
 | cons finding rest ih =>
  cases n with
  | zero=>simp[recordFirst]
  | succ n =>
   cases m with
   | zero=>omega
   | succ m =>
    rcases record_cases digests db (observe digests h time finding) with
     ⟨failure,done⟩ | ⟨-,done⟩ | ⟨trigger,saved,db',-,done,save⟩
    · simp[recordFirst,done]
    · simp only[recordFirst,done]
      exact ih le db
    · simp only[recordFirst,done,List.take_succ_cons]
      rw[ih (Nat.le_of_succ_le_succ le) db']

lemma recordFirst_length (db:Db) : (recordFirst digests h time rest n db).1.length≤rest.length:=by
 induction rest generalizing n db with
 | nil=>exact le_rfl
 | cons finding rest ih =>
  cases n with
  | zero=>exact Nat.zero_le _
  | succ n =>
   rcases record_cases digests db (observe digests h time finding) with
    ⟨failure,done⟩ | ⟨-,done⟩ | ⟨trigger,saved,db',-,done,save⟩
   · simp[recordFirst,done]
   · simp only[recordFirst,done]
     exact (ih (n+1) db).trans (Nat.le_succ _)
   · simp only[recordFirst,done,List.length_cons]
     exact Nat.succ_le_succ (ih n db')

def Paired (db:Db):Prop:=
 ∀r∈db.incidents,r.policyControlBefore.isSome=true → r.policyControlAfter.isSome=true

lemma Paired.record (paired:Paired db)(time:ℤ)(finding:Finding) :
 Paired (record digests db (observe digests h time finding)).2:=by
 rcases record_cases digests db (observe digests h time finding) with
  ⟨failure,done⟩ | ⟨-,done⟩ | ⟨trigger,saved,db',seen,done,save⟩
 · rw[done]
   exact paired
 · rw[done]
   exact paired
 · rw[done]
   have unbound:Unbound (trigger.values digests.toDigests):=by
    have alike:=observe_alike digests h time time finding
    rw[seen] at alike
    cases alike with
    | trigger same unbound unbound'=>exact unbound
   have inserted:=(saveIncident_ok save).1
   generalize (!saved.replayed)=written at inserted
   cases inserted with
   | taken=>exact paired
   | written row stored fresh known =>
    intro r mem bound
    rcases List.mem_append.mp mem with old|new
    · exact paired r old bound
    · rw[List.mem_singleton.mp new,stored_fields stored] at bound
      rw[unbound.1] at bound
      cases bound

lemma bind_done {reference before after:String}(paired:Paired db)
 (there:(incident? db reference).isSome=true)(first:fitsColumn 64 before=true)
 (second:fitsColumn 64 after=true) :
 ∃row db',bindIncidentPolicyControls db reference before after time=(.ok row,db') ∧
  SameContent db' db ∧ Paired db':=by
 obtain ⟨row,found⟩:=Option.isSome_iff_exists.mp there
 have pair:=paired row (List.mem_of_find?_eq_some found)
 unfold bindIncidentPolicyControls
 rw[found]
 dsimp only
 have same:¬(row.policyControlBefore.any (· != before)&&row.policyControlAfter.isNone)=true:=by
  intro conflict
  simp only[Bool.and_eq_true,Option.isNone_iff_eq_none] at conflict
  obtain ⟨differs,unbound⟩:=conflict
  cases bound:row.policyControlBefore with
  | none=>simp[bound] at differs
  | some b =>
   have other:=pair (by rw[bound];rfl)
   rw[unbound] at other
   cases other
 have fit:¬(!(row.policyControlBefore.isSome||fitsColumn 64 before) ||
   !(row.policyControlAfter.isSome||fitsColumn 64 after))=true:=by
  simp[first,second]
 rw[if_neg same,if_neg fit]
 split_ifs
 · exact ⟨row,db,rfl,.refl db,paired⟩
 · have kept:∀r:Incident,(r.bind before after time).incidentRef=r.incidentRef:=fun _=>rfl
   have read:incident? (db.write reference (Incident.bind before after time)) reference =
     some (Incident.bind before after time row):=by
    have look:incident? (db.write reference (Incident.bind before after time)) reference =
      if reference=reference then (incident? db reference).map (Incident.bind before after time)
      else incident? db reference:=Tables.find?_update kept reference
    rw[look,if_pos rfl,found]
    rfl
   refine ⟨_,_,Prod.ext (incident_ok.mpr read) rfl,⟨?_,rfl⟩,?_⟩
   · exact Tables.map_key_update fun _ _ _=>rfl
   · intro r mem bound
     obtain ⟨old,there',rfl⟩:=Tables.mem_update.mp mem
     split
     · cases h:old.policyControlAfter <;> simp[Incident.bind,h]
     · rename_i other
       rw[if_neg other] at bound
       exact paired old there' bound

end Kivou.ReliabilityIncidents
