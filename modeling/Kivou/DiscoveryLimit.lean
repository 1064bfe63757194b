import Kivou.DiscoveryGrants
import Kivou.Runs

set_option autoImplicit false

/-! A run of grant operations keeps every account at three open signals exactly when each landing
fits the slots that are left: a landing cohort does not count what is already open, and recording a
landing signal does not count the grants. -/
namespace Kivou.DiscoveryLimit
open BillingCatalogue DiscoveryGrants

/-- `new` was granted to the account, and nothing else changed. -/
structure Granted (accountId:String)(new:Finset String)(db db':Db):Prop where
 accounts:db'.accounts=db.accounts
 landings:db'.landings=db.landings
 keys:∀b,grantedSignalKeys db' b =
  if b=accountId then grantedSignalKeys db b ∪ new else grantedSignalKeys db b
 owners:∀row∈db'.grants,row∈db.grants ∨ row.accountId=accountId

lemma Granted.refl (accountId:String)(db:Db):Granted accountId ∅ db db:=
 ⟨rfl,rfl,by simp,fun _ h=>.inl h⟩

variable {accountId:String}{new:Finset String}{db db':Db}

lemma Granted.trans {new':Finset String}{db'':Db}
 (h:Granted accountId new db db')(h':Granted accountId new' db' db'') :
 Granted accountId (new ∪ new') db db'' where
 accounts:=h'.accounts.trans h.accounts
 landings:=h'.landings.trans h.landings
 keys b:=by
  rw[h'.keys b,h.keys b]
  by_cases hb:b=accountId
  · simp[hb,Finset.union_assoc]
  · simp[hb]
 owners row hr:=by
  rcases h'.owners row hr with hr|hr
  · exact h.owners row hr
  · exact .inr hr

lemma mem_grantedSignalKeys {key:String} : key∈grantedSignalKeys db accountId ↔
  ∃row∈db.grants,row.accountId=accountId ∧ row.signalKey=key:=by
 simp[grantedSignalKeys,and_assoc]

lemma insertIfAbsent_granted (db:Db)(row:Grant) :
 Granted row.accountId {row.signalKey} db (insertIfAbsent db row).1:=by
 unfold insertIfAbsent
 split
 · rename_i present
   have held:row.signalKey∈grantedSignalKeys db row.accountId:=by
    rw[mem_grantedSignalKeys]
    simpa using present
   refine ⟨rfl,rfl,fun b=>?_,fun _ h=>.inl h⟩
   by_cases hb:b=row.accountId
   · subst hb
     simp[Finset.insert_eq_of_mem held]
   · simp[hb]
 · refine ⟨rfl,rfl,fun b=>?_,fun r hr=>?_⟩
   · by_cases hb:b=row.accountId
     · subst hb
       simp[grantedSignalKeys]
     · have other:¬row.accountId=b:=fun h=>hb h.symm
       simp[grantedSignalKeys,hb,other]
   · rcases List.mem_append.mp hr with hr|hr
     · exact .inl hr
     · exact .inr (by rw[List.mem_singleton.mp hr])

/-- The keys a loop over `keys` grants: those whose opportunity is known. -/
def knownKeys (opportunities:String→Option String)(keys:List String):Finset String:=
 (keys.filter (fun key=>(opportunities key).isSome)).toFinset

lemma grantKnown_granted (accountId:String)(opportunities:String→Option String)(now:ℤ)
 (keys:List String)(db:Db) :
 Granted accountId (knownKeys opportunities keys) db
  (grantKnown accountId opportunities now keys db).1:=by
 induction keys generalizing db with
 | nil=>exact Granted.refl accountId db
 | cons key keys ih =>
  unfold grantKnown
  cases known:opportunities key with
  | none =>
   have same:knownKeys opportunities (key::keys)=knownKeys opportunities keys:=by
    simp[knownKeys,known]
   rw[same]
   exact ih db
  | some opportunityKey =>
   have more:knownKeys opportunities (key::keys) ={key} ∪ knownKeys opportunities keys:=by
    simp[knownKeys,known]
   rw[more]
   exact (insertIfAbsent_granted db ⟨accountId,key,opportunityKey,now,now⟩).trans (ih _)

lemma card_knownKeys_le (opportunities:String→Option String)(keys:List String) :
 (knownKeys opportunities keys).card≤keys.length:=
 (List.toFinset_card_le _).trans (List.length_filter_le _ _)

lemma grantCandidates_granted (accountId:String)(now:ℤ)(slots:ℕ)
 (already:Finset String)(items:List Candidate)(db:Db) :
 ∃new,new.card ≤ slots ∧
  Granted accountId new db (grantCandidates accountId now slots already items db).1:=by
 induction items generalizing slots already db with
 | nil=>cases slots <;> exact ⟨∅,by simp,Granted.refl accountId db⟩
 | cons item items ih =>
  cases slots with
  | zero=>exact ⟨∅,by simp,Granted.refl accountId db⟩
  | succ slots =>
   unfold grantCandidates
   by_cases open':item.signalKey∈already
   · simpa only[open',↓reduceIte] using ih (slots+1) already db
   · simp only[open',↓reduceIte]
     have written:=insertIfAbsent_granted db ⟨accountId,item.signalKey,item.opportunityKey,now,now⟩
     cases inserted:insertIfAbsent db ⟨accountId,item.signalKey,item.opportunityKey,now,now⟩ with
     | mk db' b =>
      rw[inserted] at written
      cases b with
      | false =>
       have unchanged:db'=db:=by
        unfold insertIfAbsent at inserted
        split at inserted <;> simp_all
       subst unchanged
       exact ih (slots+1) _ db'
      | true =>
       obtain ⟨new,few,more⟩:=ih slots (already ∪ {item.signalKey}) db'
       refine ⟨{item.signalKey} ∪ new,?_,written.trans more⟩
       have:=Finset.card_union_le {item.signalKey} new
       simp only[Finset.card_singleton] at this
       omega

lemma Granted.landingSignalKeys_eq (h:Granted accountId new db db')(b:String) :
 landingSignalKeys db' b=landingSignalKeys db b:=by
 simp only[landingSignalKeys,findLanding,h.landings]

lemma Granted.openedSignalKeys_eq (h:Granted accountId new db db')(b:String) :
 openedSignalKeys db' b =
  if b=accountId then openedSignalKeys db b ∪ new else openedSignalKeys db b:=by
 simp only[openedSignalKeys,h.landingSignalKeys_eq,h.keys b]
 by_cases hb:b=accountId
 · simp only[hb,↓reduceIte]
   exact Finset.union_right_comm _ _ _
 · simp[hb]

lemma Granted.subset (h:Granted accountId new db db')(b:String) :
 grantedSignalKeys db b ⊆ grantedSignalKeys db' b:=by
 rw[h.keys]
 split
 · exact Finset.subset_union_left
 · exact Finset.Subset.refl _

/-- Recording a landing signal changes the account's landing key only, and
only to a key it was given. -/
structure Recorded (accountId:String)(signalKey:Option String)(db db':Db):Prop where
 accounts:db'.accounts=db.accounts
 grants:db'.grants=db.grants
 keys:∀b,landingSignalKeys db' b =
  match signalKey with
  | some key=>if b=accountId then {key} else landingSignalKeys db b
  | none=>landingSignalKeys db b
 owners:∀row∈db'.landings,row.accountId∈db.accounts ∨ ∃r∈db.landings,r.accountId=row.accountId

lemma landingSignalKeys_of_find {b:String}
 (h:findLanding db' b=findLanding db b):landingSignalKeys db' b=landingSignalKeys db b:=by
 simp only[landingSignalKeys,h]

lemma inserted_recorded (row:Landing)
 (absent:findLanding db row.accountId=none)(known:row.accountId∈db.accounts) :
 Recorded row.accountId row.signalKey db (insertLanding db row):=by
 have fresh:∀r∈db.landings,r.accountId≠row.accountId:=by
  simpa[findLanding] using absent
 have found:∀b,findLanding (insertLanding db row) b =
   if b=row.accountId then some row else findLanding db b:=
  Tables.find?_append_fresh fresh
 refine ⟨rfl,rfl,fun b=>?_,fun r hr=>?_⟩
 · by_cases hb:b=row.accountId
   · subst hb
     cases hk:row.signalKey <;> simp[landingSignalKeys,found,absent,hk]
   · have same:=landingSignalKeys_of_find ((found b).trans (if_neg hb))
     cases row.signalKey <;> simp[same,hb]
 · rcases List.mem_append.mp hr with hr|hr
   · exact .inr ⟨r,hr,rfl⟩
   · exact .inl (by rw[List.mem_singleton.mp hr];exact known)

lemma updated_recorded {row:Landing}
 (present:findLanding db accountId=some row)(signalKey tokenFingerprint:Option String)
 (qa:Bool) :
 Recorded accountId signalKey db
  (setLanding db accountId (updateLanding signalKey tokenFingerprint qa)):=by
 have found:∀b,findLanding
   (setLanding db accountId (updateLanding signalKey tokenFingerprint qa)) b =
   if b=accountId then (findLanding db accountId).map (updateLanding signalKey tokenFingerprint qa)
   else findLanding db b:=
  Tables.find?_update (fun _=>rfl)
 refine ⟨rfl,rfl,fun b=>?_,fun r hr=>?_⟩
 · by_cases hb:b=accountId
   · subst hb
     cases signalKey <;> simp[landingSignalKeys,found,present,updateLanding]
   · have same:=landingSignalKeys_of_find ((found b).trans (if_neg hb))
     cases signalKey <;> simp[same,hb]
 · obtain ⟨r',hr',rfl⟩:=Tables.mem_update.mp hr
   refine .inr ⟨r',hr',?_⟩
   split <;> rfl

lemma unchanged_recorded {row:Landing}
 (present:findLanding db accountId=some row){signalKey tokenFingerprint:Option String}
 {qa:Bool}(same:updateLanding signalKey tokenFingerprint qa row=row) :
 Recorded accountId signalKey db db:=by
 refine ⟨rfl,rfl,fun b=>?_,fun r hr=>.inr ⟨r,hr,rfl⟩⟩
 cases signalKey with
 | none=>rfl
 | some key =>
  have held:row.signalKey=some key:=by rw[←same];rfl
  by_cases hb:b=accountId
  · subst hb
    simp[landingSignalKeys,present,held]
  · simp[hb]

lemma step_recordLandingSignal (db:Db)(accountId:String)
 (opportunityKey signalKey tokenFingerprint:Option String)(qa:Bool)(now:ℤ) :
 let db':=step db (.recordLandingSignal accountId opportunityKey signalKey tokenFingerprint qa now)
 (db'=db ∧ accountId∉db.accounts) ∨ Recorded accountId signalKey db db':=by
 simp only[step,recordLandingSignal]
 cases present:findLanding db accountId with
 | none =>
  by_cases known:accountId∈db.accounts
  · refine .inr ?_
    simpa[known] using inserted_recorded
     ⟨accountId,opportunityKey,signalKey,tokenFingerprint,qa,now⟩ present known
  · exact .inl ⟨by simp[known,failure],known⟩
 | some row =>
  refine .inr ?_
  by_cases same:updateLanding signalKey tokenFingerprint qa row=row
  · simpa[same] using unchanged_recorded present same
  · simpa[same] using updated_recorded present signalKey tokenFingerprint qa

lemma step_grantLandingCohort (db:Db)(accountId:String)(signalKeys:List String)
 (opportunities:String→Option String)(now:ℤ) :
 let db':=step db (.grantLandingCohort accountId signalKeys opportunities now)
 (db'=db ∧ accountId∉db.accounts) ∨ (accountId∈db.accounts ∧
  Granted accountId (knownKeys opportunities (neighbours db accountId signalKeys)) db db'):=by
 simp only[step,grantLandingCohort,lockAccount]
 by_cases known:accountId∈db.accounts
 · refine .inr ⟨known,?_⟩
   simpa[known] using grantKnown_granted accountId opportunities now
    (neighbours db accountId signalKeys) db
 · exact .inl ⟨by simp[known,failure],known⟩

lemma length_proposedSignalKeys_le (accountId:String)(reads:BackfillReads)(asOf:ℤ) (db:Db) :
 (proposedSignalKeys accountId reads asOf db).length≤remainingSlots db accountId:=by
 unfold proposedSignalKeys remainingSlots
 dsimp only
 split_ifs
 · simp
 · simp
 · exact List.length_take_le _ _

def Filled (accountId:String)(db db':Db):Prop:=db'=db ∨ (accountId∈db.accounts ∧
  ∃new,new.card≤remainingSlots db accountId ∧ Granted accountId new db db')

lemma step_reconcileInitialBackfill (db:Db)(accountId:String)(reads:BackfillReads)
 (opportunities:String→Option String)(asOf now:ℤ) :
 Filled accountId db (step db (.reconcileInitialBackfill accountId reads opportunities asOf now)):=by
 have proposed:=grantKnown_granted accountId opportunities now
  (proposedSignalKeys accountId reads asOf db) db
 have few:=(card_knownKeys_le opportunities _).trans
  (length_proposedSignalKeys_le accountId reads asOf db)
 by_cases known:accountId∈db.accounts
 · simp only[step,reconcileInitialBackfill,lockAccount,known,guard,↓reduceIte]
   split_ifs
   · exact .inl rfl
   · exact .inl rfl
   · exact .inl rfl
   · exact .inr ⟨known,_,few,proposed⟩
 · simp only[step,reconcileInitialBackfill,lockAccount,known,guard,↓reduceIte]
   split_ifs <;> exact .inl rfl

lemma step_grantUpToLimit (db:Db)(accountId:String)(candidates:List Candidate)
 (now:ℤ):Filled accountId db (step db (.grantUpToLimit accountId candidates now)):=by
 simp only[step,grantUpToLimit,lockAccount]
 by_cases known:accountId∈db.accounts
 · refine .inr ⟨known,?_⟩
   simpa[known] using grantCandidates_granted accountId now (remainingSlots db accountId)
    (openedSignalKeys db accountId) candidates db
 · exact .inl (by simp[known,failure])

def WithinLimit (db:Db):Prop:=∀accountId,(openedSignalKeys db accountId).card≤discoveryGrantLimit

/-- Whether an operation fits the account's slots: a landing signal must be
granted already or leave the grants below the limit, and the neighbours that a
cohort would newly open must not outnumber the slots left. -/
def Fits (db:Db):Op→Prop
 | .recordLandingSignal accountId _ (some key) _ _ _ =>
  key∈grantedSignalKeys db accountId ∨ (grantedSignalKeys db accountId).card<discoveryGrantLimit
 | .grantLandingCohort accountId signalKeys opportunities _ =>
  (knownKeys opportunities (neighbours db accountId signalKeys) \
   openedSignalKeys db accountId).card≤remainingSlots db accountId
 | _=>True

structure Referenced (db:Db):Prop where
 grants:∀row∈db.grants,row.accountId∈db.accounts
 landings:∀row∈db.landings,row.accountId∈db.accounts

lemma Referenced.openedSignalKeys_eq_empty (h:Referenced db)
 (unknown:accountId∉db.accounts):openedSignalKeys db accountId=∅:=by
 have landing:findLanding db accountId=none:=by
  rw[findLanding,List.find?_eq_none]
  intro row hr he
  exact unknown (beq_iff_eq.mp he ▸ h.landings row hr)
 rw[openedSignalKeys,Finset.union_eq_empty]
 constructor
 · refine Finset.eq_empty_of_forall_notMem fun key hk=>?_
   obtain ⟨row,hr,owner,-⟩:=mem_grantedSignalKeys.mp hk
   exact unknown (owner ▸ h.grants row hr)
 · simp[landingSignalKeys,landing]

lemma Granted.referenced
 (h:Granted accountId new db db')(known:accountId∈db.accounts)(hr:Referenced db) :
 Referenced db':=by
 constructor
 · intro row hrow
   rw[h.accounts]
   rcases h.owners row hrow with hrow|owner
   · exact hr.grants row hrow
   · exact owner ▸ known
 · rw[h.accounts,h.landings]
   exact hr.landings

lemma Recorded.referenced {signalKey:Option String}
 (h:Recorded accountId signalKey db db')(hr:Referenced db):Referenced db':=by
 constructor
 · rw[h.accounts,h.grants]
   exact hr.grants
 · intro row hrow
   rw[h.accounts]
   rcases h.owners row hrow with known|⟨r,hmem,owner⟩
   · exact known
   · exact owner ▸ hr.landings r hmem

lemma Filled.referenced (h:Filled accountId db db') (hr:Referenced db):Referenced db':=by
 rcases h with rfl|⟨known,new,-,granted⟩
 · exact hr
 · exact granted.referenced known hr

lemma step_referenced (db:Db)(op:Op)(hr:Referenced db):Referenced (step db op):=by
 cases op with
 | signUp accountId =>
  simp only[step]
  split
  · exact hr
  · exact ⟨fun row h=>List.mem_append_left _ (hr.grants row h),
     fun row h=>List.mem_append_left _ (hr.landings row h)⟩
 | recordLandingSignal accountId opportunityKey signalKey tokenFingerprint qa now =>
  rcases step_recordLandingSignal db accountId opportunityKey signalKey tokenFingerprint qa now
   with ⟨same,-⟩ | recorded
  · rw[same]
    exact hr
  · exact recorded.referenced hr
 | reconcileInitialBackfill accountId reads opportunities asOf now =>
  exact (step_reconcileInitialBackfill ..).referenced hr
 | grantLandingCohort accountId signalKeys opportunities now =>
  rcases step_grantLandingCohort db accountId signalKeys opportunities now
   with ⟨same,-⟩ | ⟨known,granted⟩
  · rw[same]
    exact hr
  · exact granted.referenced known hr
 | grantUpToLimit accountId candidates now=>exact (step_grantUpToLimit ..).referenced hr

/-- Granting `new` keeps the limit exactly when what it newly opens fits. -/
lemma Granted.withinLimit_iff (h:Granted accountId new db db')(within:WithinLimit db) :
 WithinLimit db' ↔ (new \ openedSignalKeys db accountId).card≤remainingSlots db accountId:=by
 have before:=within accountId
 have split:(openedSignalKeys db accountId ∪ new).card =
   (new \ openedSignalKeys db accountId).card+(openedSignalKeys db accountId).card:=by
  rw[Finset.card_sdiff_add_card,Finset.union_comm]
 constructor
 · intro after
   have here:=after accountId
   rw[h.openedSignalKeys_eq,if_pos rfl,split] at here
   unfold remainingSlots
   omega
 · intro fits b
   rw[h.openedSignalKeys_eq]
   by_cases hb:b=accountId
   · subst hb
     rw[if_pos rfl,split]
     unfold remainingSlots at fits
     omega
   · rw[if_neg hb]
     exact within b

lemma Filled.withinLimit (h:Filled accountId db db') (within:WithinLimit db):WithinLimit db':=by
 rcases h with rfl|⟨-,new,few,granted⟩
 · exact within
 · refine (granted.withinLimit_iff within).mpr ?_
   exact (Finset.card_le_card Finset.sdiff_subset).trans few

lemma Recorded.withinLimit_iff {key:String}
 (h:Recorded accountId (some key) db db')(within:WithinLimit db) :
 WithinLimit db' ↔ key∈grantedSignalKeys db accountId ∨
  (grantedSignalKeys db accountId).card<discoveryGrantLimit:=by
 have granted:∀b,grantedSignalKeys db' b=grantedSignalKeys db b:=fun b=>by
  simp only[grantedSignalKeys,h.grants]
 have opened:∀b,openedSignalKeys db' b =
   if b=accountId then insert key (grantedSignalKeys db b) else openedSignalKeys db b:=by
  intro b
  simp only[openedSignalKeys,granted,h.keys]
  split
  · exact Finset.union_comm _ _
  · rfl
 have before:(grantedSignalKeys db accountId).card≤discoveryGrantLimit:=
  (Finset.card_le_card Finset.subset_union_left).trans (within accountId)
 constructor
 · intro after
   by_cases held:key∈grantedSignalKeys db accountId
   · exact .inl held
   · have here:=after accountId
     rw[opened,if_pos rfl,Finset.card_insert_of_notMem held] at here
     exact .inr here
 · intro fits b
   rw[opened]
   by_cases hb:b=accountId
   · subst hb
     rw[if_pos rfl]
     rcases fits with held|below
     · rw[Finset.insert_eq_of_mem held]
       exact before
     · have:=Finset.card_insert_le key (grantedSignalKeys db b)
       omega
   · rw[if_neg hb]
     exact within b

lemma step_withinLimit_iff (db:Db)(op:Op)(hr:Referenced db)(within:WithinLimit db) :
 WithinLimit (step db op) ↔ Fits db op:=by
 cases op with
 | signUp accountId =>
  have same:WithinLimit (step db (.signUp accountId)):=by
   simp only[step]
   split <;> exact within
  simpa[Fits] using same
 | recordLandingSignal accountId opportunityKey signalKey tokenFingerprint qa now =>
  rcases step_recordLandingSignal db accountId opportunityKey signalKey tokenFingerprint qa now
   with ⟨same,unknown⟩ | recorded
  · have none:grantedSignalKeys db accountId=∅:=
     (Finset.union_eq_empty.mp (hr.openedSignalKeys_eq_empty unknown)).1
    rw[same]
    cases signalKey <;> simp[Fits,within,none,discoveryGrantLimit]
  · cases signalKey with
    | none =>
     refine iff_of_true (fun b=>?_) trivial
     simpa only[openedSignalKeys,grantedSignalKeys,recorded.grants,recorded.keys]
      using within b
    | some key=>exact recorded.withinLimit_iff within
 | reconcileInitialBackfill accountId reads opportunities asOf now =>
  exact iff_of_true ((step_reconcileInitialBackfill ..).withinLimit within) trivial
 | grantLandingCohort accountId signalKeys opportunities now =>
  rcases step_grantLandingCohort db accountId signalKeys opportunities now
   with ⟨same,unknown⟩ | ⟨-,granted⟩
  · rw[same]
    refine iff_of_true within ?_
    -- an unknown account has every slot left, and a cohort opens two at most
    have all:remainingSlots db accountId=discoveryGrantLimit:=by
     simp[remainingSlots,hr.openedSignalKeys_eq_empty unknown]
    have two:(neighbours db accountId signalKeys).length≤discoveryGrantLimit-1:=
     List.length_take_le _ _
    have few:=card_knownKeys_le opportunities (neighbours db accountId signalKeys)
    have sub:=Finset.card_le_card (Finset.sdiff_subset
     (s:=knownKeys opportunities (neighbours db accountId signalKeys))
     (t:=openedSignalKeys db accountId))
    change _≤remainingSlots db accountId
    omega
  · exact granted.withinLimit_iff within
 | grantUpToLimit accountId candidates now =>
  exact iff_of_true ((step_grantUpToLimit ..).withinLimit within) trivial

lemma Filled.granted_subset (h:Filled accountId db db')
 (b:String):grantedSignalKeys db b ⊆ grantedSignalKeys db' b:=by
 rcases h with rfl|⟨-,new,-,granted⟩
 · exact Finset.Subset.refl _
 · exact granted.subset b

lemma step_granted_subset (db:Db)(op:Op)(b:String) :
 grantedSignalKeys db b ⊆ grantedSignalKeys (step db op) b:=by
 cases op with
 | signUp accountId =>
  simp only[step]
  split <;> exact Finset.Subset.refl _
 | recordLandingSignal accountId opportunityKey signalKey tokenFingerprint qa now =>
  rcases step_recordLandingSignal db accountId opportunityKey signalKey tokenFingerprint qa now
   with ⟨same,-⟩ | recorded
  · rw[same]
  · rw[grantedSignalKeys,grantedSignalKeys,recorded.grants]
 | reconcileInitialBackfill accountId reads opportunities asOf now =>
  exact (step_reconcileInitialBackfill ..).granted_subset b
 | grantLandingCohort accountId signalKeys opportunities now =>
  rcases step_grantLandingCohort db accountId signalKeys opportunities now
   with ⟨same,-⟩ | ⟨-,granted⟩
  · rw[same]
  · exact granted.subset b
 | grantUpToLimit accountId candidates now=>exact (step_grantUpToLimit ..).granted_subset b

/-- A run opens at most three signals to every account, in every state on the
way, and never takes one back, exactly when every landing on it fits the
account's slots. -/
theorem limit_kept_iff_landings_fit (accounts:List String)(ops:List Op) :
 ((∀before,before <+: ops→WithinLimit (before.foldl step (initial accounts))) ∧
  ∀before after,before++after <+: ops→∀accountId,
   grantedSignalKeys (before.foldl step (initial accounts)) accountId ⊆
    grantedSignalKeys ((before++after).foldl step (initial accounts)) accountId) ↔
  Runs.Along step Fits (initial accounts) ops:=by
 have kept:∀ (before after:List Op)(accountId:String),
   grantedSignalKeys (before.foldl step (initial accounts)) accountId ⊆
    grantedSignalKeys ((before++after).foldl step (initial accounts)) accountId:=by
  intro before after accountId
  rw[List.foldl_append]
  exact Runs.related
   (R:=fun db db'=>grantedSignalKeys db accountId ⊆ grantedSignalKeys db' accountId)
   (fun _=>Finset.Subset.refl _) Finset.Subset.trans
   (fun db op=>step_granted_subset db op accountId) _ after
 have referenced:Referenced (initial accounts):=
  ⟨fun _ h=>(List.not_mem_nil h).elim,fun _ h=>(List.not_mem_nil h).elim⟩
 have start:WithinLimit (initial accounts):=fun _=>Nat.zero_le _
 rw[←Runs.always_iff_along step_referenced step_withinLimit_iff referenced start ops]
 exact ⟨fun h=>h.1,fun h=>⟨h,fun before after _ accountId=>kept before after accountId⟩⟩

def twoLandings:List Op:=
 let opportunities key:=some ("opportunity of "++key)
 [.recordLandingSignal "acc" (some "opp-1") (some "s1") (some "token") false 1,
  .grantLandingCohort "acc" ["s1","s2","s3"] opportunities 1,
  .recordLandingSignal "acc" (some "opp-1") (some "s1") (some "token") false 2,
  .grantLandingCohort "acc" ["s1","s4","s5"] opportunities 2]

theorem second_landing_exceeds_limit :
 openedSignalKeys (twoLandings.foldl step (initial ["acc"])) "acc"={"s1","s2","s3","s4","s5"} ∧
  discoveryGrantLimit <(openedSignalKeys (twoLandings.foldl step (initial ["acc"])) "acc").card:=by
 decide +kernel

end Kivou.DiscoveryLimit
