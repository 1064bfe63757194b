import Kivou.ProcedureDocuments

set_option autoImplicit false

/-! What each call leaves of a dossier, and the matches that a run has made of it. -/
namespace Kivou.DocumentJoins
open PythonValues AwardDomain ProcedureDocuments
open OpportunityIdentity (awardKey firstChars)

variable {t:Tools}{d:Dossiers}

def content (row:Document):Document:=
 {row with
   accessStatus:=.available
   accessDetail:=none
   capturedAt:=row.createdAt
   expiresAt:=none}

variable {a b:Document}{after:Dossiers}{p:Document→Bool}{f:Document→Document}
 {quotaBytes:ℤ}{notice:TenderNotice}{now:DateTime}{fetch:String→Fetched}

lemma key_of_content (same:content a=content b) : a.procedureDocumentKey=b.procedureDocumentKey:=by
 change (content a).procedureDocumentKey=(content b).procedureDocumentKey
 rw[same]

lemma status_of_content (same:content a=content b) : a.joinStatus=b.joinStatus:=by
 change (content a).joinStatus=(content b).joinStatus
 rw[same]

lemma award_of_content (same:content a=content b) : a.linkedAwardKey=b.linkedAwardKey:=by
 change (content a).linkedAwardKey=(content b).linkedAwardKey
 rw[same]

def Captured (before after:Dossiers):Prop:=
 ∃new:Dossiers,after.map content=before.map content++new.map content ∧
  (new.map (·.procedureDocumentKey)).Nodup ∧ ∀row∈new,row.joinStatus=.unlinked ∧
   row.procedureDocumentKey∉before.map (·.procedureDocumentKey)

lemma keys_of_content {a b:Dossiers}(same:a.map content=b.map content) :
 a.map (·.procedureDocumentKey)=b.map (·.procedureDocumentKey):=by
 have keys:=congrArg (List.map (·.procedureDocumentKey)) same
 rw[List.map_map,List.map_map] at keys
 exact keys

lemma Captured.refl (d:Dossiers):Captured d d:=⟨[],by simp,by simp,by simp⟩

lemma Captured.keys {before:Dossiers}(h:Captured before after) :
 before.map (·.procedureDocumentKey) ⊆ after.map (·.procedureDocumentKey):=by
 obtain ⟨new,same,-⟩:=h
 rw[←List.map_append] at same
 rw[keys_of_content same,List.map_append]
 exact List.subset_append_left _ _

lemma Captured.trans {a b c:Dossiers}(h:Captured a b)(k:Captured b c):Captured a c:=by
 have within:=h.keys
 obtain ⟨new,same,distinct,fresh⟩:=h
 have added:new.map (·.procedureDocumentKey) ⊆ b.map (·.procedureDocumentKey):=by
  rw[←List.map_append] at same
  rw[keys_of_content same,List.map_append]
  exact List.subset_append_right _ _
 obtain ⟨newer,same',distinct',fresh'⟩:=k
 refine ⟨new++newer,?_,?_,?_⟩
 · rw[same',same,List.map_append,List.append_assoc]
 · rw[List.map_append]
   refine distinct.append distinct' fun key early late=>?_
   obtain ⟨row,mem,rfl⟩:=List.mem_map.mp late
   exact (fresh' row mem).2 (added early)
 · intro row mem
   rcases List.mem_append.mp mem with early|late
   · exact fresh row early
   · exact ⟨(fresh' row late).1,fun there=>(fresh' row late).2 (within there)⟩

lemma content_update (kept:∀row,content (f row)=content row) :
 (Tables.update p f d).map content=d.map content:=
 Tables.map_key_update fun row _ _=>kept row

lemma storedBytes_of_content {a b:Dossiers}(same:a.map content=b.map content) :
 storedBytes a=storedBytes b:=by
 have sizes:=congrArg (List.map (·.byteSize)) same
 rw[List.map_map,List.map_map] at sizes
 exact congrArg List.sum sizes

structure Bounded (quotaBytes:ℤ)(before after:Dossiers)(created:Bool):Prop where
 captured:Captured before after
 within:created=true→storedBytes after≤quotaBytes
 kept:created=false→storedBytes after=storedBytes before

lemma store_bounded {record:ProcedureDocumentRecord}
 {created:Bool}(fresh:record.joinStatus=.unlinked)
 (h:storeProcedureDocument t record quotaBytes d=some (after,created)) :
 Bounded quotaBytes d after created:=by
 unfold storeProcedureDocument at h
 split at h
 · cases h
 · split at h
   · obtain ⟨expiresAt,-,written⟩:=Option.map_eq_some_iff.mp h
     cases written
     have same:=content_update (p:=(·.procedureDocumentKey==keyOf t record))
      (f:=recaptured record expiresAt) (d:=d) fun _=>rfl
     exact ⟨⟨[],by simp[same],by simp,by simp⟩,Bool.noConfusion,fun _=>storedBytes_of_content same⟩
   · rename_i absent
     split at h
     · cases h
     · rename_i room
       obtain ⟨expiresAt,-,rest⟩:=Option.bind_eq_some_iff.mp h
       split at rest
       · cases rest
         refine ⟨⟨[inserted t record expiresAt],by simp,by simp,?_⟩,fun _=>?_,Bool.noConfusion⟩
         · intro row mem
           rw[List.mem_singleton.mp mem]
           refine ⟨fresh,fun there=>absent ?_⟩
           obtain ⟨other,mem',same⟩:=List.mem_map.mp there
           exact List.any_eq_true.mpr ⟨other,mem',beq_iff_eq.mpr same⟩
         · have total:storedBytes (d++[inserted t record expiresAt]) =
             storedBytes d+(record.content.getD []).length:=by
            simp[storedBytes,inserted]
           omega
       · cases rest

lemma noticeRecord_unlinked {url:NonEmptyStr}{fetched:Fetched}{record:ProcedureDocumentRecord}
 (h:noticeRecord t notice url fetched now=some record):record.joinStatus=.unlinked:=by
 obtain ⟨blocks,-,rfl⟩:=Option.map_eq_some_iff.mp h
 rfl

lemma captureDocument_bounded {url:NonEmptyStr}{state state':Dossiers × ℕ}
 (h:captureDocument t notice fetch now quotaBytes state url=some state') :
 ∃created,Bounded quotaBytes state.1 state'.1 created ∧
  state'.2=state.2+if created then 1 else 0:=by
 obtain ⟨record,read,rest⟩:=Option.bind_eq_some_iff.mp h
 obtain ⟨⟨after,created⟩,stored,written⟩:=Option.bind_eq_some_iff.mp rest
 cases written
 exact ⟨created,store_bounded (noticeRecord_unlinked read) stored,rfl⟩

lemma captureAll_bounded (urls:List NonEmptyStr){state state':Dossiers × ℕ}
 (h:urls.foldlM (captureDocument t notice fetch now quotaBytes) state=some state') :
 state.2 ≤ state'.2 ∧ Bounded quotaBytes state.1 state'.1 (state.2<state'.2):=by
 induction urls generalizing state with
 | nil =>
  cases h
  exact ⟨Nat.le_refl _,.refl _,by simp,by simp⟩
 | cons url urls ih =>
  rw[List.foldlM_cons] at h
  obtain ⟨next,turn,rest⟩:=Option.bind_eq_some_iff.mp h
  obtain ⟨created,one,count⟩:=captureDocument_bounded turn
  obtain ⟨more,all⟩:=ih rest
  refine ⟨by omega,one.captured.trans all.captured,?_,?_⟩
  · intro some
    by_cases later:next.2<state'.2
    · exact all.within (by simpa using later)
    · rw[all.kept (by simpa using later)]
      refine one.within ?_
      have made:state.2<state'.2:=by simpa using some
      cases created with
      | true=>rfl
      | false =>
       simp only[Bool.false_eq_true,if_false] at count
       omega
  · intro none
    have unmade:¬state.2<state'.2:=by simpa using none
    have settled:¬next.2<state'.2:=by omega
    rw[all.kept (by simpa using settled)]
    refine one.kept ?_
    cases created with
    | false=>rfl
    | true =>
     simp only[if_true] at count
     omega

lemma capture_bounded {created:ℕ}
 (h:captureTenderNotice t notice fetch now quotaBytes d=some (after,created)) :
 Bounded quotaBytes d after (0<created):=
 (captureAll_bounded _ (show _=some (after,created) from h)).2

lemma capture_captured (notice:TenderNotice)(fetch:String→Fetched)(now:DateTime)
 (quotaBytes:ℤ)(d:Dossiers) :
 Captured d (step t d (.capture notice fetch now quotaBytes)):=by
 simp only[step]
 cases answer:captureTenderNotice t notice fetch now quotaBytes d with
 | none=>exact .refl d
 | some state=>exact (capture_bounded answer).captured

structure Match where
 mode:MatchMode
 award:String
 keys:List String

variable {log:List Match}{op:Op}{m:Match}

def Match.weak (m:Match):Bool:=m.mode=.fingerprint

def matchOf (t:Tools)(d:Dossiers):Op→Option Match
 | .resolve event award buyerIdentity =>
  match matchedDocuments t event award buyerIdentity d with
  | none=>none
  | some (mode,rows) =>
   if mode=.fingerprint ∨ (t.analyze rows event award).isSome then
    some ⟨mode,awardKey t.sha award,rows.map (·.procedureDocumentKey)⟩
   else none
 | _=>none

def creationOf (t:Tools)(d:Dossiers):Op→Option ℤ
 | .capture notice fetch now quotaBytes =>
  match captureTenderNotice t notice fetch now quotaBytes d with
  | some (_,created)=>if 0<created then some quotaBytes else none
  | none=>none
 | _=>none

def trail {α:Type}(t:Tools)(trace:Dossiers→Op→Option α):Dossiers→List Op→List α
 | _,[]=>[]
 | d,op::ops=>(trace d op).toList++trail t trace (step t d op) ops

lemma trail_snoc {α:Type}(trace:Dossiers→Op→Option α)(d:Dossiers)(ops:List Op)
 (op:Op):trail t trace d (ops++[op]) =
  trail t trace d ops++(trace (ops.foldl (step t) d) op).toList:=by
 induction ops generalizing d with
 | nil=>simp[trail]
 | cons head ops ih=>rw[List.cons_append,trail,trail,ih,List.append_assoc,List.foldl_cons]

def history (t:Tools)(ops:List Op):List Match:=trail t (matchOf t) [] ops

def lastMatch (log:List Match)(key:String):Option Match:=log.reverse.find? (·.keys.contains key)

lemma lastMatch_snoc (log:List Match)(m:Match)(key:String) :
 lastMatch (log++[m]) key=if m.keys.contains key then some m else lastMatch log key:=by
 unfold lastMatch
 rw[List.reverse_append,List.reverse_singleton,List.singleton_append,List.find?_cons]
 cases m.keys.contains key <;> rfl

lemma lastMatch_eq_none {key:String} : lastMatch log key=none ↔ ∀m∈log,key∉m.keys:=by
 simp[lastMatch,List.find?_eq_none]

lemma run_snoc (ops:List Op)(op:Op):run t (ops++[op])=step t (run t ops) op:=by
 simp[run]

def Match.write (m:Match)(requirements:ℕ)(row:Document):Document:=
 if m.weak then quarantined m.award row else joined m.award requirements row

lemma Match.write_key (m:Match)(requirements:ℕ)(row:Document) :
 (m.write requirements row).procedureDocumentKey=row.procedureDocumentKey:=by
 unfold Match.write
 split <;> rfl

lemma resolve_eq (event:PublicEvent)(award:ContractAward)(buyerIdentity:Option String) :
  ∃requirements,step t d (.resolve event award buyerIdentity) =
   match matchOf t d (.resolve event award buyerIdentity) with
   | none=>d
   | some m=>Tables.update (m.keys.contains ·.procedureDocumentKey) (m.write requirements) d:=by
 simp only[step,matchOf,resolveAwardDocuments]
 cases matchedDocuments t event award buyerIdentity d with
 | none=>exact ⟨0,rfl⟩
 | some found =>
  obtain ⟨mode,rows⟩:=found
  by_cases weak:mode=.fingerprint
  · refine ⟨0,?_⟩
    simp only[weak,if_true,true_or]
    rfl
  · cases analysis:t.analyze rows event award with
    | none =>
     refine ⟨0,?_⟩
     simp only[weak,analysis,if_false,false_or]
     rfl
    | some requirements =>
     refine ⟨requirements,?_⟩
     have strong:Match.write ⟨mode,awardKey t.sha award,rows.map (·.procedureDocumentKey)⟩
       requirements=joined (awardKey t.sha award) requirements:=by
      funext row
      simp[Match.write,Match.weak,weak]
     simp only[weak,analysis,if_false,false_or,Option.isSome_some,if_true,strong]
     rfl

lemma matchedDocuments_subset {event:PublicEvent}{award:ContractAward}
 {buyerIdentity:Option String}{mode:MatchMode}{rows:Dossiers}
 (h:matchedDocuments t event award buyerIdentity d=some (mode,rows)):rows ⊆ d:=by
 have weak:byFingerprint t event award buyerIdentity d ⊆ d:=by
  unfold byFingerprint
  split
  · exact List.nil_subset d
  · exact fun row mem=>List.mem_of_mem_filter (List.mem_of_mem_filter mem)
 unfold matchedDocuments at h
 split at h
 · cases h
   exact fun row mem=>List.mem_of_mem_filter (List.mem_of_mem_filter mem)
 · split at h
   · cases h
     exact fun row mem=>List.mem_of_mem_filter (List.mem_of_mem_filter mem)
   · split at h
     · cases h
       exact weak
     · cases h

lemma matchOf_resolve (h:matchOf t d op=some m) :
 ∃event award buyerIdentity,op=.resolve event award buyerIdentity ∧
  m.keys ⊆ d.map (·.procedureDocumentKey):=by
 cases op with
 | resolve event award buyerIdentity =>
  refine ⟨event,award,buyerIdentity,rfl,?_⟩
  simp only[matchOf] at h
  cases found:matchedDocuments t event award buyerIdentity d with
  | none=>simp[found] at h
  | some result =>
   simp only[found,Option.ite_none_right_eq_some,Option.some.injEq] at h
   rw[←h.2]
   exact List.map_subset _ (matchedDocuments_subset found)
 | capture | confirm | purge=>cases h

def Tracked:Option Match→Document→Prop
 | none,row=>row.joinStatus=.unlinked
 | some m,row=>row.linkedAwardKey=some m.award ∧ row.joinStatus≠.unlinked ∧
   (m.weak=false → row.joinStatus=.linked)

structure Tracks (log:List Match)(d:Dossiers):Prop where
 rows:∀row∈d,Tracked (lastMatch log row.procedureDocumentKey) row
 known:∀m∈log,m.keys ⊆ d.map (·.procedureDocumentKey)

lemma Tracked.of_content {last:Option Match}(h:Tracked last a)
 (same:content b=content a):Tracked last b:=by
 have status:=status_of_content same
 have award:=award_of_content same
 cases last with
 | none=>exact status.trans h
 | some m=>exact ⟨award.trans h.1,status ▸ h.2.1,fun strong=>status.trans (h.2.2 strong)⟩

lemma Tracks.capture (h:Tracks log d) (captured:Captured d after):Tracks log after:=by
 refine ⟨?_,fun m mem=>List.Subset.trans (h.known m mem) captured.keys⟩
 obtain ⟨new,same,-,fresh⟩:=captured
 intro row mem
 have there:content row∈d.map content++new.map content:=same ▸ List.mem_map_of_mem mem
 rcases List.mem_append.mp there with old|added
 · obtain ⟨before,mem',is⟩:=List.mem_map.mp old
   rw[←key_of_content is]
   exact (h.rows before mem').of_content is.symm
 · obtain ⟨made,mem',is⟩:=List.mem_map.mp added
   obtain ⟨unlinked,unknown⟩:=fresh made mem'
   have untouched:lastMatch log row.procedureDocumentKey=none:=by
    rw[lastMatch_eq_none,←key_of_content is]
    exact fun m mem there=>unknown (h.known m mem there)
   rw[untouched]
   exact (status_of_content is).symm.trans unlinked

lemma Tracks.resolve (h:Tracks log d)
 (known:m.keys ⊆ d.map (·.procedureDocumentKey))(requirements:ℕ) :
 Tracks (log++[m])
  (Tables.update (m.keys.contains ·.procedureDocumentKey) (m.write requirements) d):=by
 have kept:=m.write_key requirements
 constructor
 · intro row' mem
   obtain ⟨row,there,rfl⟩:=Tables.mem_update.mp mem
   rw[lastMatch_snoc]
   cases found:m.keys.contains row.procedureDocumentKey with
   | true =>
    rw[if_pos rfl,kept,found,if_pos rfl]
    unfold Match.write
    cases weak:m.weak with
    | true=>exact ⟨rfl,by simp[quarantined],by simp[weak]⟩
    | false=>exact ⟨rfl,by simp[joined],fun _=>rfl⟩
   | false =>
    simp only[Bool.false_eq_true,if_false,found]
    exact h.rows row there
 · intro k mem
   rw[Tables.map_key_update fun row _ _=>kept row]
   rcases List.mem_append.mp mem with old|new
   · exact h.known k old
   · rw[List.mem_singleton.mp new]
     exact known

lemma Tracks.confirm (h:Tracks log d)(linkedAwardKey:Option String) :
 Tracks log (confirmDocumentJoin linkedAwardKey d):=by
 unfold confirmDocumentJoin
 split
 · exact h
 · rename_i reference _
   constructor
   · intro row' mem
     obtain ⟨row,there,rfl⟩:=Tables.mem_update.mp mem
     have tracked:=h.rows row there
     split
     · rename_i taken
       have review:row.joinStatus=.reviewRequired:=by simp_all
       change Tracked (lastMatch log row.procedureDocumentKey) _
       cases last:lastMatch log row.procedureDocumentKey with
       | none =>
        rw[last] at tracked
        cases review.symm.trans tracked
       | some m =>
        rw[last] at tracked
        exact ⟨tracked.1,by simp[confirmed],fun _=>rfl⟩
     · exact tracked
   · intro m mem
     rw[Tables.map_key_update (f:=confirmed) fun _ _ _=>rfl]
     exact h.known m mem

lemma Tracks.purge (h:Tracks log d)(now:DateTime) : Tracks log (purgeExpiredUnlinked now d):=by
 constructor
 · exact fun row mem=>h.rows row (List.mem_of_mem_filter mem)
 · intro m mem key found
   obtain ⟨row,there,rfl⟩:=List.mem_map.mp (h.known m mem found)
   refine List.mem_map_of_mem (List.mem_filter.mpr ⟨there,?_⟩)
   have tracked:=h.rows row there
   cases last:lastMatch log row.procedureDocumentKey with
   | none=>exact absurd found (lastMatch_eq_none.mp last m mem)
   | some other =>
    rw[last] at tracked
    simp[tracked.2.1]

lemma tracks_step (h:Tracks log d)(op:Op) : Tracks (log++(matchOf t d op).toList) (step t d op):=by
 cases op with
 | capture notice fetch now quotaBytes =>
  simpa[matchOf] using h.capture (capture_captured notice fetch now quotaBytes d)
 | resolve event award buyerIdentity =>
  obtain ⟨requirements,written⟩:=resolve_eq (t:=t) (d:=d) event award buyerIdentity
  rw[written]
  cases made:matchOf t d (.resolve event award buyerIdentity) with
  | none=>simpa using h
  | some m =>
   obtain ⟨_,_,_,_,known⟩:=matchOf_resolve made
   exact h.resolve known requirements
 | confirm linkedAwardKey=>simpa[matchOf,step] using h.confirm linkedAwardKey
 | purge now=>simpa[matchOf,step] using h.purge now

lemma tracks_run (ops:List Op):Tracks (history t ops) (run t ops):=by
 induction ops using List.reverseRecOn with
 | nil=>exact ⟨by simp[run],by simp[history,trail]⟩
 | append_singleton ops op ih =>
  rw[run_snoc,history,trail_snoc]
  exact tracks_step ih op

def Respects (t:Tools)(d:Dossiers)(op:Op):Prop:=∀m,matchOf t d op=some m→m.weak=true →
  ∀row∈d,row.procedureDocumentKey∈m.keys → row.joinStatus≠.linked

def StaysJoined (before after:Dossiers):Prop:=∀row∈before,row.joinStatus=.linked→∃row'∈after,
  row'.procedureDocumentKey=row.procedureDocumentKey ∧ row'.joinStatus=.linked

lemma StaysJoined.trans {a b c:Dossiers}(h:StaysJoined a b)(k:StaysJoined b c) :
 StaysJoined a c:=by
 intro row mem linked
 obtain ⟨row',mem',same,linked'⟩:=h row mem linked
 obtain ⟨row'',mem'',same',linked''⟩:=k row' mem' linked'
 exact ⟨row'',mem'',same'.trans same,linked''⟩

lemma StaysJoined.update (kept:∀row,(f row).procedureDocumentKey=row.procedureDocumentKey)
 (linked:∀row,(f row).joinStatus=.linked):StaysJoined d (Tables.update p f d):=by
 intro row mem already
 refine ⟨_,Tables.mem_update.mpr ⟨row,mem,rfl⟩,?_⟩
 split
 · exact ⟨kept row,linked row⟩
 · exact ⟨rfl,already⟩

lemma untouched_of_respects (respects:Respects t d op)
 (made:matchOf t d op=some m)(weak:m.weak=true){row:Document}(mem:row∈d)
 (linked:row.joinStatus=.linked):row∈step t d op:=by
 obtain ⟨event,award,buyerIdentity,rfl,-⟩:=matchOf_resolve made
 obtain ⟨requirements,written⟩:=resolve_eq (t:=t) (d:=d) event award buyerIdentity
 rw[written,made]
 refine Tables.mem_update.mpr ⟨row,mem,if_neg fun found=>?_⟩
 exact respects m made weak row mem (by simpa using found) linked

lemma staysJoined_iff (op:Op):StaysJoined d (step t d op) ↔ Respects t d op:=by
 constructor
 · intro stays m made weak row mem found linked
   obtain ⟨event,award,buyerIdentity,rfl,-⟩:=matchOf_resolve made
   obtain ⟨requirements,written⟩:=resolve_eq (t:=t) (d:=d) event award buyerIdentity
   rw[written,made] at stays
   obtain ⟨row',mem',same,linked'⟩:=stays row mem linked
   obtain ⟨other,-,rfl⟩:=Tables.mem_update.mp mem'
   by_cases taken:m.keys.contains other.procedureDocumentKey=true
   · rw[if_pos taken,Match.write,if_pos weak] at linked'
     cases linked'
   · rw[if_neg taken] at same
     rw[same] at taken
     exact taken (by simpa using found)
 · intro respects
   cases op with
   | capture notice fetch now quotaBytes =>
    intro row mem linked
    obtain ⟨new,same,-⟩:=capture_captured (t:=t) notice fetch now quotaBytes d
    have there:content row∈(step t d (.capture notice fetch now quotaBytes)).map content:=by
     rw[same]
     exact List.mem_append_left _ (List.mem_map_of_mem mem)
    obtain ⟨row',mem',is⟩:=List.mem_map.mp there
    exact ⟨row',mem',key_of_content is,(status_of_content is).trans linked⟩
   | resolve event award buyerIdentity =>
    cases made:matchOf t d (.resolve event award buyerIdentity) with
    | none =>
     obtain ⟨requirements,written⟩:=resolve_eq (t:=t) (d:=d) event award buyerIdentity
     rw[written,made]
     exact fun row mem linked=>⟨row,mem,rfl,linked⟩
    | some m =>
     cases weak:m.weak with
     | true =>
      exact fun row mem linked=>⟨row,untouched_of_respects respects made weak mem linked,rfl,linked⟩
     | false =>
      obtain ⟨requirements,written⟩:=resolve_eq (t:=t) (d:=d) event award buyerIdentity
      rw[written,made]
      refine StaysJoined.update (m.write_key requirements) fun row=>?_
      simp[Match.write,weak,joined]
   | confirm linkedAwardKey =>
    simp only[step,confirmDocumentJoin]
    split
    · exact fun row mem linked=>⟨row,mem,rfl,linked⟩
    · exact StaysJoined.update (f:=confirmed) (fun _=>rfl) fun _=>rfl
   | purge now =>
    intro row mem linked
    exact ⟨row,List.mem_filter.mpr ⟨mem,by simp[linked]⟩,rfl,linked⟩

def quarantinedFor (log:List Match)(award key:String):Bool:=
 (lastMatch log key).any fun m=>m.weak&&m.award=award

lemma firstChars_ne {text:String}(length:text.length=64):firstChars 40 text≠"":=by
 intro empty
 have chars:(firstChars 40 text).length=40:=by
  rw[firstChars,String.length_ofList,List.length_take,String.length_toList,length]
  rfl
 rw[empty] at chars
 cases chars

lemma awardKey_ne (award:ContractAward):awardKey t.sha award≠"":=firstChars_ne (t.hexdigest _)

lemma confirm_eq (h:Tracks log d){award:String}(named:award≠"") :
 confirmDocumentJoin (some award) d=d.map fun row=>
  if quarantinedFor log award row.procedureDocumentKey then confirmed row else row:=by
 have given:(some award).filter (· ≠ "")=some award:=by simp[named]
 simp only[confirmDocumentJoin,given,Tables.update]
 refine List.map_congr_left fun row mem=>?_
 have tracked:=h.rows row mem
 unfold quarantinedFor
 cases last:lastMatch log row.procedureDocumentKey with
 | none =>
  rw[last] at tracked
  have unlinked:row.joinStatus=.unlinked:=tracked
  simp[unlinked]
 | some m =>
  rw[last] at tracked
  obtain ⟨reference,status,strong⟩:=tracked
  cases weak:m.weak with
  | false=>simp[strong weak,weak]
  | true =>
   by_cases same:m.award=award
   · have either:row.joinStatus=.reviewRequired ∨ row.joinStatus=.linked:=by
      cases now:row.joinStatus <;> simp_all
     rcases either with review|linked
     · simp[reference,same,weak,review]
     · have already:confirmed row=row:=by rw[confirmed,←linked]
       simp[already]
   · simp[reference,same]

lemma storedBytes_update
 (kept:∀row,(f row).byteSize=row.byteSize):storedBytes (Tables.update p f d)=storedBytes d:=
 congrArg List.sum (Tables.map_key_update fun row _ _=>kept row)

lemma storedBytes_filter (p:Document→Bool)(d:Dossiers) :
 storedBytes (d.filter p) ≤ storedBytes d:=by
 induction d with
 | nil=>exact Nat.le_refl _
 | cons row d ih =>
  rw[List.filter_cons]
  simp only[storedBytes,List.map_cons,List.sum_cons] at ih ⊢
  split
  · simp only[List.map_cons,List.sum_cons]
    omega
  · omega

lemma storedBytes_step (uncreated:creationOf t d op=none) :
 storedBytes (step t d op) ≤ storedBytes d:=by
 cases op with
 | capture notice fetch now quotaBytes =>
  simp only[step,creationOf] at uncreated ⊢
  cases answer:captureTenderNotice t notice fetch now quotaBytes d with
  | none=>exact Nat.le_refl _
  | some state =>
   obtain ⟨after,created⟩:=state
   simp only[answer,ite_eq_right_iff,reduceCtorEq,imp_false] at uncreated
   exact ((capture_bounded answer).kept (by simpa using uncreated)).le
 | resolve event award buyerIdentity =>
  obtain ⟨requirements,written⟩:=resolve_eq (t:=t) (d:=d) event award buyerIdentity
  rw[written]
  split
  · exact Nat.le_refl _
  · rename_i m _
    refine (storedBytes_update fun row=>?_).le
    unfold Match.write
    split <;> rfl
 | confirm linkedAwardKey =>
  simp only[step,confirmDocumentJoin]
  split
  · exact Nat.le_refl _
  · exact (storedBytes_update (f:=confirmed) fun _=>rfl).le
 | purge now=>exact storedBytes_filter _ d

lemma storedBytes_le (ops:List Op) (last:(trail t (creationOf t) [] ops).getLast?=some quotaBytes) :
 storedBytes (run t ops)≤quotaBytes:=by
 induction ops using List.reverseRecOn with
 | nil=>cases last
 | append_singleton ops op ih =>
  rw[trail_snoc] at last
  rw[run_snoc]
  cases made:creationOf t (run t ops) op with
  | none =>
   have before:creationOf t (ops.foldl (step t) []) op=none:=made
   rw[before,Option.toList_none,List.append_nil] at last
   have less:=storedBytes_step made
   have within:=ih last
   omega
  | some quota =>
   have now:creationOf t (ops.foldl (step t) []) op=some quota:=made
   rw[now,Option.toList_some,List.getLast?_append,List.getLast?_singleton] at last
   cases last
   cases op with
   | capture notice fetch now' quotaBytes =>
    simp only[creationOf] at made
    cases answer:captureTenderNotice t notice fetch now' quotaBytes (run t ops) with
    | none=>simp[answer] at made
    | some state =>
     obtain ⟨after,created⟩:=state
     simp only[answer,Option.ite_none_right_eq_some,Option.some.injEq] at made
     simp only[step,answer,Option.map_some,Option.getD_some]
     rw[←made.2]
     exact (capture_bounded answer).within (by simpa using made.1)
   | resolve | confirm | purge=>cases made

structure Kept (t:Tools)(ops:List Op):Prop where
 /-- What is joined stays joined. -/
 joined:∀before during,before++during <+: ops →StaysJoined (run t before) (run t (before++during))
 /-- A weak match never replaces the award of what is joined. -/
 award:∀before op m,before++[op] <+: ops→matchOf t (run t before) op=some m →
  m.weak=true→∀row∈run t before,row.joinStatus=.linked→∃row'∈run t (before++[op]),
   row'.procedureDocumentKey=row.procedureDocumentKey ∧ row'.linkedAwardKey=row.linkedAwardKey
 /-- A confirmation links the documents last quarantined for its award, and no other. -/
 confirmed:∀before (award:ContractAward),before++[.confirm (some (awardKey t.sha award))] <+: ops →
   run t (before++[.confirm (some (awardKey t.sha award))])=(run t before).map fun row=>
    if quarantinedFor (history t before) (awardKey t.sha award) row.procedureDocumentKey then
     confirmed row
    else row
 /-- What a match has found is never purged. -/
 purged:∀before now,before++[.purge now] <+: ops→∀row∈run t before,
  row.joinStatus≠.unlinked → row∈run t (before++[.purge now])
 /-- A capture leaves the join and the content of what is there. -/
 recaptured:∀before notice fetch now quotaBytes,
  before++[.capture notice fetch now quotaBytes] <+: ops→∀row∈run t before,
   ∃row'∈run t (before++[.capture notice fetch now quotaBytes]),content row'=content row
 /-- What is stored is within the quota of the last call that created a document. -/
 quota:∀before,before <+: ops→∀quotaBytes,
  (trail t (creationOf t) [] before).getLast?=some quotaBytes →
   storedBytes (run t before)≤quotaBytes

lemma run_staysJoined {before during:List Op}
 (respects:Runs.Along (step t) (Respects t) (run t before) during) :
 StaysJoined (run t before) (run t (before++during)):=by
 induction during using List.reverseRecOn with
 | nil =>
  rw[List.append_nil]
  exact fun row mem linked=>⟨row,mem,rfl,linked⟩
 | append_singleton during op ih =>
  rw[Runs.along_append] at respects
  rw[←List.append_assoc,run_snoc]
  refine (ih respects.1).trans ((staysJoined_iff op).mpr ?_)
  rw[run,List.foldl_append]
  exact respects.2.1

/-- All of it holds exactly of the runs in which no weak match finds a document
that is linked; the rest holds of every run. -/
theorem kept_iff_respected (t:Tools)(ops:List Op) :
 Kept t ops ↔ Runs.Along (step t) (Respects t) [] ops:=by
 constructor
 · intro kept
   refine Runs.along_of_take fun n less=>?_
   have reached:ops.take n++[ops[n]] <+: ops:=by
    rw[List.take_append_getElem]
    exact List.take_prefix _ _
   have stays:=kept.joined _ _ reached
   rw[run_snoc] at stays
   exact (staysJoined_iff _).mp stays
 · intro respects
   have step_respects:∀before op,before++[op] <+: ops→Respects t (run t before) op:=
    fun before op reached=>respects.at reached
   refine ⟨?_,?_,?_,?_,?_,fun before _ _ last=>storedBytes_le before last⟩
   · rintro before during ⟨rest,rfl⟩
     rw[List.append_assoc,Runs.along_append,Runs.along_append] at respects
     exact run_staysJoined respects.2.1
   · intro before op m reached made weak row mem linked
     rw[run_snoc]
     exact ⟨row,untouched_of_respects (step_respects before op reached) made weak mem linked,rfl,rfl⟩
   · intro before award _
     rw[run_snoc]
     exact confirm_eq (tracks_run before) (awardKey_ne award)
   · intro before now _ row mem matched
     rw[run_snoc]
     exact List.mem_filter.mpr ⟨mem,by simp[matched]⟩
   · intro before notice fetch now quotaBytes _ row mem
     rw[run_snoc]
     obtain ⟨new,same,-⟩:=capture_captured (t:=t) notice fetch now quotaBytes (run t before)
     refine List.mem_map.mp ?_
     rw[same]
     exact List.mem_append_left _ (List.mem_map_of_mem mem)

def sampleTools:Tools where
 sha _:="0000000000000000000000000000000000000000000000000000000000000000"
 hexdigest _:=by decide
 identityText _ _ url _:=url
 buyersText _:=""
 foldAccents text:=text
 host _:="portail.fr"
 extract _ _ _:=some []
 analyze _ _ _:=some 0
 accepted _:=true

def sampleText (text:String)(form:isFilled text=true:=by decide):NonEmptyStr:=⟨text,form⟩

def sampleBuyer:OrganizationRef:=⟨sampleText "Ville",[],none,none,none,none⟩

def sampleProvenance (notice:NonEmptyStr):Provenance:=
 ⟨.boamp,⟨"FR",by decide⟩,notice,none,none,none,none⟩

def sampleEvent (notice:NonEmptyStr)(type:EventType):PublicEvent:=
 { provenance:=sampleProvenance notice,eventType:=type,publishedAt:=none
   eventDate:=none,corrects:=none,procedureBuyers:=[sampleBuyer]
   sourceNoticeLinks:=[],coherent:=rfl}

def sampleNotice:TenderNotice:=
 { event:=sampleEvent (sampleText "a-1") .tenderNotice,title:=some (sampleText "ecole")
   cpvMain:=some "45000000",submissionDeadline:=none
   documentUrls:=[sampleText "https://portail.fr/dce"],authRequired:=true
   cpvForm:=by decide}

def sampleAward:ContractAward:=
 { OpportunityIdentity.bareAward .boamp (sampleText "r-1") (sampleText "lot") with
   sourceAwardId:=none,title:=some (sampleText "ecole")
   cpvMain:=some ⟨"45000000",some "7",by decide,by decide⟩}

def sampleRun:List Op:=
 [.capture sampleNotice (fun _=>⟨.available,none,none,none,none,none⟩) ⟨0,some 0⟩ 100,
  .resolve (sampleEvent (sampleText "r-1") .awardNotice) sampleAward none,
  .confirm (some (awardKey sampleTools.sha sampleAward)),
  .resolve (sampleEvent (sampleText "r-1") .awardNotice) sampleAward none]

theorem confirmed_join_reopened :
 (run sampleTools (sampleRun.take 3)).map (·.joinStatus)=[.linked] ∧
  (run sampleTools sampleRun).map (·.joinStatus)=[.reviewRequired] ∧
  ¬Kept sampleTools sampleRun:=by
 have before:(run sampleTools (sampleRun.take 3)).map (·.joinStatus)=[.linked]:=by
  decide +kernel
 have after:(run sampleTools sampleRun).map (·.joinStatus)=[.reviewRequired]:=by
  decide +kernel
 refine ⟨before,after,fun kept=>?_⟩
 have stays:=kept.joined (sampleRun.take 3) (sampleRun.drop 3) (by simp)
 rw[List.take_append_drop] at stays
 have linked:JoinStatus.linked∈(run sampleTools (sampleRun.take 3)).map (·.joinStatus):=by
  simp[before]
 obtain ⟨row,mem,is⟩:=List.mem_map.mp linked
 obtain ⟨row',mem',-,is'⟩:=stays row mem is
 have there:=List.mem_map_of_mem (f:=(·.joinStatus)) mem'
 rw[after,is'] at there
 simp at there

end Kivou.DocumentJoins
