import Kivou.DirectoryCorrections
import Kivou.DirectoryTrust

set_option autoImplicit false

/-! The store's own writers leave a removed person's data erased; a correction and a snapshot can
bring it back, and neither of the two suppressions erases the name that a company displays. -/
namespace Kivou.DirectoryRemovals
open SupplierDirectory CatalogueMirror DirectoryCorrections

variable {d:Directory}{siren:String}{row:Supplier}

structure Erased (row:Supplier):Prop where
 suppressed:row.suppressedAt.isSome=true
 directors:row.directors=[]
 directorDisplayName:row.directorDisplayName=none
 professionalEmail:row.professionalEmail=none
 emailContactName:row.emailContactName=none
 emailContactTitle:row.emailContactTitle=none

def personal (row:Supplier):=
 (row.suppressedAt,row.directors,row.directorDisplayName,row.professionalEmail,
  row.emailContactName,row.emailContactTitle)

lemma Erased.of_same {other:Supplier}(gone:Erased row)(same:personal other=personal row) :
 Erased other:=by
 simp only[personal,Prod.mk.injEq] at same
 obtain ⟨suppressed,directors,displayed,email,contact,title⟩:=same
 exact ⟨suppressed ▸ gone.suppressed,directors ▸ gone.directors,
  displayed ▸ gone.directorDisplayName,email ▸ gone.professionalEmail,
  contact ▸ gone.emailContactName,title ▸ gone.emailContactTitle⟩

def RemovedIn (siren:String)(d:Directory):Prop:=∃row,d.row? siren=some row ∧ Erased row

lemma removedIn_iff (found:d.row? siren=some row):RemovedIn siren d ↔ Erased row:=by
 constructor
 · rintro ⟨other,here,erased⟩
   rw[found] at here
   cases here
   exact erased
 · exact fun erased=>⟨row,found,erased⟩

section
variable {p:Supplier→Bool}{f:Supplier→Supplier}

lemma row?_update (kept:∀row,(f row).siren=row.siren)(found:d.row? siren=some row) :
 Directory.row? (Tables.update p f d) siren=some (if p row then f row else row):=by
 have read:=@Tables.find?_update_where _ _ p f (·.siren) d _ kept siren
 rw[Directory.row?] at found ⊢
 rw[read,found,Option.map_some]

lemma removedIn_update_iff (kept:∀row,(f row).siren=row.siren) (found:d.row? siren=some row) :
 RemovedIn siren (Tables.update p f d) ↔ Erased (if p row then f row else row):=
 removedIn_iff (row?_update kept found)

lemma RemovedIn.update (h:RemovedIn siren d)(kept:∀row,(f row).siren=row.siren)
 (erased:∀row,p row=true→Erased row→Erased (f row)) :
 RemovedIn siren (Tables.update p f d):=by
 obtain ⟨row,found,gone⟩:=h
 rw[removedIn_update_iff kept found]
 split
 · exact erased row ‹_› gone
 · exact gone

lemma RemovedIn.update_rest (h:RemovedIn siren d)(kept:∀row,(f row).siren=row.siren)
 (same:∀row,personal (f row)=personal row):RemovedIn siren (Tables.update p f d):=
 h.update kept fun row _ gone=>gone.of_same (same row)

lemma RemovedIn.update_visible (h:RemovedIn siren d)(kept:∀row,(f row).siren=row.siren)
 (visible:∀row,p row=true → row.suppressedAt=none) :
 RemovedIn siren (Tables.update p f d):=by
 refine h.update kept fun row taken gone=>?_
 have suppressed:=gone.suppressed
 rw[visible row taken] at suppressed
 cases suppressed

end

lemma row?_append {new:List Supplier}(found:d.row? siren=some row) :
 Directory.row? (d++new) siren=some row:=by
 rw[Directory.row?] at found ⊢
 rw[List.find?_append,found,Option.some_or]

lemma RemovedIn.append (h:RemovedIn siren d)(new:List Supplier) : RemovedIn siren (d++new):=by
 obtain ⟨row,found,gone⟩:=h
 exact ⟨row,row?_append found,gone⟩

lemma erased_suppressionValues_iff (at':ℤ) :
 Erased (suppressionValues at' row) ↔ row.directorDisplayName=none:=
 ⟨fun erased=>erased.directorDisplayName,fun none=>⟨rfl,rfl,none,rfl,rfl,rfl⟩⟩

lemma write_removedIn (env:Env)(h:RemovedIn siren d)(w:Write) : RemovedIn siren (write env d w):=by
 cases w with
 | upsertIdentity identity =>
  change RemovedIn siren (upsertIdentity identity d).1
  unfold upsertIdentity
  split
  · exact h.update_rest (fun _=>rfl) fun _=>rfl
  · split
    · exact h.append _
    · exact h
 | recordDomain other r =>
  change RemovedIn siren (recordDomain env other r d).1
  unfold recordDomain
  by_cases conflict:d.any (fun row=>env.holds (env.casefold r.domain) row &&row.siren != other)=true
  · rw[if_pos conflict]
    have demoted:=h.update (p:=env.holds (env.casefold r.domain)) (f:=r.untrusted)
     (fun _=>rfl) fun _ _ gone=>⟨gone.1,gone.2,gone.3,rfl,rfl,rfl⟩
    exact demoted.update (fun _=>rfl) fun _ _ gone=>⟨gone.1,gone.2,gone.3,rfl,rfl,rfl⟩
  · rw[if_neg conflict]
    exact h.update_rest (fun _=>rfl) fun _=>rfl
 | recordApollo | recordWebsiteConnectionFailure | recordContactForm =>
  exact h.update_rest (fun _=>rfl) fun _=>rfl
 | markWithoutWebsite other queries results observedAt =>
  change RemovedIn siren (markWithoutWebsite other queries results observedAt d).1
  unfold markWithoutWebsite
  split
  · exact h
  · exact h.update_rest (fun _=>rfl) fun _=>rfl
 | recordDirectors other directors observedAt =>
  change RemovedIn siren (recordDirectors other directors observedAt d)
  unfold recordDirectors
  split
  · exact h
  · exact h.update_visible (fun _=>rfl) fun _ taken=>by simp_all
 | recordEmail other r =>
  change RemovedIn siren (recordEmail env other r d).1
  unfold recordEmail
  split
  · exact h
  · exact h.update_visible (fun _=>rfl) fun _ taken=>by simp_all
 | markForReverification other reason observedAt expectedDomain =>
  exact h.update (fun _=>rfl) fun _ _ gone=>⟨gone.1,gone.2,gone.3,rfl,rfl,rfl⟩
 | recordModelEnrichment other m =>
  exact h.update_visible (DirectoryTrust.values_siren m) fun _ taken=>by simp_all
 | suppressPersonalData other at' =>
  exact h.update (fun _=>rfl) fun _ _ gone=>
   (erased_suppressionValues_iff at').mpr gone.directorDisplayName

def VisibleIn (siren:String)(d:Directory):Prop:=∃row,d.row? siren=some row ∧ row.suppressedAt=none

lemma VisibleIn.not_removedIn (h:VisibleIn siren d):¬RemovedIn siren d:=by
 obtain ⟨row,found,visible⟩:=h
 rw[removedIn_iff found]
 intro erased
 have suppressed:=erased.suppressed
 rw[visible] at suppressed
 cases suppressed

section
variable {env:Env}{digest:Digest}{ownership:Option Entry}{values:Supplier}

lemma turned_siren (lifted:Bool)(row:Supplier) :
 (restored lifted (mergeFacts env digest row values ownership)).siren=row.siren:=by
 rw[restored_siren,mergeFacts_siren]

lemma turned_suppressedAt (lifted:Bool)(row:Supplier) :
 (restored lifted (mergeFacts env digest row values ownership)).suppressedAt =
  if lifted then none else row.suppressedAt:=by
 rw[restored_suppressedAt,mergeFacts_suppressedAt]

lemma applyRow_some (found:d.row? values.siren=some row) : applyRow env digest ownership values d =
  if row.suppressedAt.isSome&&!mirrorSuppressed (some row) ownership then d
  else if mirrorSuppressed (some row) ownership ||
    ownership.all fun entry=>entry.sourceUpdatedAt<values.updatedAt then
   Tables.update (fun other=>other.siren==values.siren&&other.suppressedAt=row.suppressedAt)
    (fun other=>restored (mirrorSuppressed (some row) ownership)
     (mergeFacts env digest other values ownership)) d
  else d:=by
 unfold applyRow
 simp only[found]
 rfl

lemma applyRow_none (absent:d.row? values.siren=none) :
 applyRow env digest ownership values d=d++[values]:=by
 unfold applyRow
 simp only[absent]

lemma applyRow_other (found:d.row? siren=some row)(other:values.siren≠siren) :
 (applyRow env digest ownership values d).row? siren=some row:=by
 cases there:d.row? values.siren with
 | none =>
  rw[applyRow_none there]
  exact row?_append found
 | some theirs =>
  rw[applyRow_some there]
  have named:row.siren=siren:=(DirectoryTrust.row?_mem found).2
  split
  · exact found
  · split
    · rw[row?_update (turned_siren _) found,if_neg]
      rw[named]
      simp[Ne.symm other]
    · exact found

lemma applyRow_kept (found:d.row? siren=some row)(suppressed:row.suppressedAt.isSome=true)
 (own:values.siren=siren→mirrorSuppressed (some row) ownership=false) :
 (applyRow env digest ownership values d).row? siren=some row:=by
 by_cases same:values.siren=siren
 · rw[←same] at found
   rw[applyRow_some found,own same,suppressed,←same]
   exact found
 · exact applyRow_other found same

lemma applyRow_lifted (found:d.row? values.siren=some row)
 (lifted:mirrorSuppressed (some row) ownership=true) :
 VisibleIn values.siren (applyRow env digest ownership values d):=by
 rw[applyRow_some found,lifted]
 simp only[Bool.not_true,Bool.and_false,Bool.false_eq_true,if_false,Bool.true_or,if_true]
 have named:row.siren=values.siren:=(DirectoryTrust.row?_mem found).2
 refine ⟨_,row?_update (turned_siren _) found,?_⟩
 simp[named,turned_suppressedAt]

lemma applyRow_visible (h:VisibleIn siren d) :
 VisibleIn siren (applyRow env digest ownership values d):=by
 obtain ⟨row,found,visible⟩:=h
 by_cases same:values.siren=siren
 · rw[←same] at found ⊢
   have unlifted:mirrorSuppressed (some row) ownership=false:=by
    simp[mirrorSuppressed,visible]
   rw[applyRow_some found,unlifted,visible]
   simp only[Option.isSome_none,Bool.false_and,Bool.false_eq_true,if_false,Bool.false_or]
   split
   · refine ⟨_,row?_update (turned_siren _) found,?_⟩
     split
     · rw[turned_suppressedAt]
       exact visible
     · exact visible
   · exact ⟨row,found,visible⟩
 · exact ⟨row,applyRow_other found same,visible⟩

end

section
variable {env:Env}{digest:Digest}{now:ℤ}{owned:List Entry}{m:Mirror}

lemma applied_kept (env:Env)(digest:Digest)(now:ℤ)(owned:List Entry)
 (found:m.directory.row? siren=some row)
 (suppressed:row.suppressedAt.isSome=true)(records:List Supplier)
 (own:records.any (·.siren==siren)=true →
  mirrorSuppressed (some row) (owned.find? (·.siren==siren))=false) :
 (records.foldl (applyRecord env digest now owned) m).directory.row? siren=some row:=by
 induction records generalizing m with
 | nil=>exact found
 | cons values records ih =>
  rw[List.any_cons] at own
  refine ih (applyRow_kept found suppressed fun same=>?_) fun later=>own (by simp[later])
  rw[same]
  exact own (by simp[same])

lemma applied_visible (records:List Supplier)(h:VisibleIn siren m.directory) :
 VisibleIn siren (records.foldl (applyRecord env digest now owned) m).directory:=by
 induction records generalizing m with
 | nil=>exact h
 | cons values records ih=>exact ih (applyRow_visible h)

lemma applied_lifted (env:Env)(digest:Digest)(now:ℤ)(owned:List Entry)
 (found:m.directory.row? siren=some row)(records:List Supplier)
 (named:records.any (·.siren==siren)=true)
 (lifted:mirrorSuppressed (some row) (owned.find? (·.siren==siren))=true) :
 VisibleIn siren (records.foldl (applyRecord env digest now owned) m).directory:=by
 induction records generalizing m with
 | nil=>cases named
 | cons values records ih =>
  by_cases same:values.siren=siren
  · subst same
    exact applied_visible records (applyRow_lifted found lifted)
  · refine ih (applyRow_other found same) ?_
    simpa[same] using named

lemma withdraw_directory (rows:List Supplier)(ownership:Entry) :
 (withdraw now rows m ownership).directory =
  if rows.any (·.siren==ownership.siren)||ownership.withdrawnAt.isSome then m.directory
  else Tables.update (visible ownership.siren) (hidden now) m.directory:=by
 unfold withdraw
 split <;> rfl

lemma withdrawn_kept (now:ℤ)(owned:List Entry)(found:m.directory.row? siren=some row)
 (suppressed:row.suppressedAt.isSome=true)(rows:List Supplier) :
 (owned.foldl (withdraw now rows) m).directory.row? siren=some row:=by
 induction owned generalizing m with
 | nil=>exact found
 | cons ownership owned ih =>
  refine ih ?_
  rw[withdraw_directory]
  split
  · exact found
  · have passed:visible ownership.siren row=false:=by
     simp[visible,suppressed]
    rw[row?_update (f:=hidden now) (fun _=>rfl) found,passed]
    rfl

lemma withdrawn_visible (now:ℤ)(owned:List Entry){rows:List Supplier}
 (named:rows.any (·.siren==siren)=true)
 (h:VisibleIn siren m.directory) :
 VisibleIn siren (owned.foldl (withdraw now rows) m).directory:=by
 induction owned generalizing m with
 | nil=>exact h
 | cons ownership owned ih =>
  refine ih ?_
  obtain ⟨row,found,shown⟩:=h
  have here:row.siren=siren:=(DirectoryTrust.row?_mem found).2
  rw[withdraw_directory]
  by_cases same:ownership.siren=siren
  · rw[same,named]
    exact ⟨row,found,shown⟩
  · split
    · exact ⟨row,found,shown⟩
    · have passed:visible ownership.siren row=false:=by
       simp[visible,here,Ne.symm same]
      refine ⟨row,?_,shown⟩
      rw[row?_update (f:=hidden now) (fun _=>rfl) found,passed]
      rfl

end

structure Applies (valid:Snapshot→Bool)(staging:Bool)(snapshot:Snapshot)(now:ℤ)
  (m:Mirror):Prop where
 destination:staging=true
 valid:valid snapshot=true
 present:snapshot.generatedAt≤now+300000000
 newer:∀checkpoint,m.checkpoint=some checkpoint →checkpoint.generatedAt<snapshot.generatedAt

def Lifts (siren:String)(snapshot:Snapshot)(m:Mirror):Prop:=
 snapshot.rows.any (·.siren==siren)=true ∧
  mirrorSuppressed (m.directory.row? siren) (m.entry? siren)=true

lemma applySnapshot_applies (env:Env)(digest:Digest){valid:Snapshot→Bool}
 {staging:Bool}{snapshot:Snapshot}{now:ℤ}{m:Mirror}
 (applies:Applies valid staging snapshot now m) :
 ∃settled,applySnapshot env digest valid staging snapshot now m=.ok settled ∧
  settled.directory=(m.entries.foldl (withdraw now snapshot.rows)
   (snapshot.rows.foldl (applyRecord env digest now m.entries) m)).directory:=by
 have future:¬now+300000000<snapshot.generatedAt:=Int.not_lt.mpr applies.present
 unfold applySnapshot
 simp only[applies.destination,applies.valid,future,Bool.not_true,Bool.false_eq_true,if_false]
 cases previous:m.checkpoint with
 | none=>exact ⟨_,rfl,rfl⟩
 | some checkpoint =>
  have newer:=applies.newer checkpoint previous
  have stale:¬snapshot.generatedAt<checkpoint.generatedAt:=by omega
  have repeated:¬snapshot.generatedAt=checkpoint.generatedAt:=by omega
  simp only[stale,repeated,if_false]
  exact ⟨_,rfl,rfl⟩

lemma applySnapshot_refuses {env:Env}{digest:Digest}{valid:Snapshot→Bool}
 {staging:Bool}{snapshot:Snapshot}{now:ℤ}{m settled:Mirror}
 (refuses:¬Applies valid staging snapshot now m)
 (answer:applySnapshot env digest valid staging snapshot now m=.ok settled) :
 settled=m:=by
 unfold applySnapshot at answer
 by_cases destination:staging=true
 · by_cases validated:valid snapshot=true
   · by_cases future:now+300000000<snapshot.generatedAt
     · simp[destination,validated,future] at answer
     · simp only[destination,validated,future,Bool.not_true,Bool.false_eq_true,if_false] at answer
       cases previous:m.checkpoint with
       | none =>exact absurd ⟨destination,validated,Int.not_lt.mp future,by simp[previous]⟩ refuses
       | some checkpoint =>
        rw[previous] at answer
        have older:¬checkpoint.generatedAt<snapshot.generatedAt:=fun newer=>
         refuses ⟨destination,validated,Int.not_lt.mp future,by simp[previous,newer]⟩
        rcases Int.lt_or_eq_of_le (Int.not_lt.mp older) with stale|same
        · simp[stale] at answer
        · by_cases known:checkpoint.digest=snapshot.digest
          · simp[same,known] at answer
            exact answer.symm
          · simp[same,known] at answer
   · simp[destination,validated] at answer
 · simp[destination] at answer

variable {s:Surroundings}{w:World}

/-- A snapshot lifts no suppression of the company, and a correction that is
carried out on one of its targets names no person and no address. -/
def Respects (s:Surroundings)(siren:String)(w:World):Op→Prop
 | .applySnapshot staging snapshot now =>
  Applies s.valid staging snapshot now w.mirror→¬Lifts siren snapshot w.mirror
 | .correct command at'=>∀t,correctable w command=some t→t.siren=siren →
   (∃settled,corrected s.review command.changes at' t=some settled ∧
    storable w.targets settled=true) →
   command.changes.directorName=none ∧ command.changes.emailAddress=none
 | _=>True

def Removed (siren:String)(w:World):Prop:=RemovedIn siren w.mirror.directory

lemma applySnapshot_removed_iff (h:Removed siren w)(staging:Bool)(snapshot:Snapshot)
 (now:ℤ):Removed siren (step s w (.applySnapshot staging snapshot now)) ↔
  Respects s siren w (.applySnapshot staging snapshot now):=by
 have ⟨row,found,gone⟩:=h
 by_cases applies:Applies s.valid staging snapshot now w.mirror
 · obtain ⟨settled,answer,directory⟩:=
    applySnapshot_applies s.env s.digest applies
   have stepped:(step s w (.applySnapshot staging snapshot now)).mirror=settled:=by
    simp only[step,answer]
   rw[Removed,stepped,directory]
   by_cases lifts:Lifts siren snapshot w.mirror
   · have lifted:=lifts.2
     rw[found] at lifted
     have shown:=withdrawn_visible now w.mirror.entries lifts.1
      (applied_lifted s.env s.digest now w.mirror.entries found snapshot.rows
       lifts.1 lifted)
     exact iff_of_false shown.not_removedIn fun respects=>respects applies lifts
   · have own:snapshot.rows.any (·.siren==siren)=true →
       mirrorSuppressed (some row) (w.mirror.entries.find? (·.siren==siren))=false:=by
      intro named
      rw[←found,←Bool.not_eq_true]
      exact fun lifted=>lifts ⟨named,lifted⟩
     have kept:=withdrawn_kept now w.mirror.entries
      (applied_kept s.env s.digest now w.mirror.entries found gone.suppressed
       snapshot.rows own) gone.suppressed snapshot.rows
     exact iff_of_true ⟨row,kept,gone⟩ fun _=>lifts
 · have stepped:(step s w (.applySnapshot staging snapshot now)).mirror=w.mirror:=by
    simp only[step]
    cases answer:applySnapshot s.env s.digest s.valid staging snapshot now w.mirror with
    | ok settled=>exact applySnapshot_refuses applies answer
    | error _=>rfl
   rw[Removed,stepped]
   exact iff_of_true h fun now=>absurd now applies

lemma suppress_eq (accepted:String→Bool)(receivedAt:ℤ)(found:w.row? siren=some row) :
 suppress accepted siren receivedAt w =
  if (contactRefs siren row.professionalEmail w.contacts).all accepted then
   some { w.withDirectory
     (Tables.update (·.siren==siren) (suppressionValues receivedAt) w.mirror.directory) with
    suppressions:=w.suppressions ++
     (contactRefs siren row.professionalEmail w.contacts).map fun ref=>⟨ref,receivedAt⟩}
  else none:=by
 unfold suppress
 rw[found]
 by_cases recorded:(contactRefs siren row.professionalEmail w.contacts).all accepted=true
 · simp only[Option.bind_eq_bind,Option.bind_some,guard,recorded,if_true]
   rfl
 · simp only[Option.bind_eq_bind,Option.bind_some,guard,recorded]
   rfl

lemma suppress_removed (h:Removed siren w)(other:String)(receivedAt:ℤ) :
 Removed siren (step s w (.suppress other receivedAt)):=by
 change Removed siren ((suppress s.accepted other receivedAt w).getD w)
 cases there:w.row? other with
 | none =>
  have raised:suppress s.accepted other receivedAt w=none:=by
   unfold suppress
   rw[there]
   rfl
  rw[raised]
  exact h
 | some row =>
  rw[suppress_eq s.accepted receivedAt there]
  split
  · exact RemovedIn.update h (fun _=>rfl) fun _ _ gone=>
     (erased_suppressionValues_iff receivedAt).mpr gone.directorDisplayName
  · exact h

lemma correctedSupplier_siren (review:DirectoryCorrections.Review)
 (changes:CorrectionChanges)(at':ℤ)(t:ReviewedTarget)(row:Supplier) :
 (correctedSupplier review changes at' t row).siren=row.siren:=by
 unfold correctedSupplier
 cases changes.companyName <;> cases changes.directorName <;> cases changes.emailAddress <;> rfl

lemma erased_correctedSupplier_iff (gone:Erased row)(review:DirectoryCorrections.Review)
 (changes:CorrectionChanges)(at':ℤ)(t:ReviewedTarget) :
 Erased (correctedSupplier review changes at' t row) ↔
  changes.directorName=none ∧ changes.emailAddress=none:=by
 unfold correctedSupplier
 cases email:changes.emailAddress with
 | some address =>
  refine iff_of_false (fun erased=>?_) (by simp)
  cases erased.professionalEmail
 | none =>
  cases director:changes.directorName with
  | some name =>
   refine iff_of_false (fun erased=>?_) (by simp)
   cases erased.directors
  | none =>
   refine iff_of_true ?_ ⟨rfl,rfl⟩
   cases changes.companyName <;> exact gone.of_same rfl

lemma correct_eq (review:DirectoryCorrections.Review)(command:CorrectCommand)(at':ℤ) :
 correct review command at' w =
  (correctable w command).bind fun t=>(corrected review command.changes at' t).bind
   fun settled=>if storable w.targets settled then
    some { w.withDirectory (Tables.update (·.siren==t.siren)
      (correctedSupplier review command.changes at' t) w.mirror.directory) with
     targets:=Tables.update (·.targetId==t.targetId) (fun _=>settled) w.targets}
   else none:=by
 unfold correct
 cases correctable w command with
 | none=>rfl
 | some t =>
  cases settled:corrected review command.changes at' t with
  | none=>simp[settled]
  | some row =>
   by_cases stored:storable w.targets row=true
   · simp[settled,stored,guard,Directory.updateWhere]
   · simp[settled,stored,guard]

lemma correct_removed_iff (h:Removed siren w)(command:CorrectCommand)(at':ℤ) :
 Removed siren (step s w (.correct command at')) ↔ Respects s siren w (.correct command at'):=by
 have ⟨row,found,gone⟩:=h
 change Removed siren ((correct s.review command at' w).getD w) ↔ _
 rw[correct_eq,Respects]
 cases loaded:correctable w command with
 | none=>exact iff_of_true h fun t here=>by cases here
 | some t =>
  cases settled:corrected s.review command.changes at' t with
  | none =>
   refine iff_of_true (by simpa[settled] using h) ?_
   rintro _ here-⟨other,there,-⟩
   cases here
   rw[settled] at there
   cases there
  | some corrected =>
   by_cases stored:storable w.targets corrected=true
   · simp only[Option.bind_some,settled,stored,if_true,Option.getD_some]
     change RemovedIn siren (Tables.update _ _ w.mirror.directory) ↔ _
     rw[removedIn_update_iff (correctedSupplier_siren s.review command.changes at' t) found]
     have named:row.siren=siren:=(DirectoryTrust.row?_mem found).2
     by_cases same:t.siren=siren
     · rw[if_pos (by simp[named,same]),erased_correctedSupplier_iff gone]
       constructor
       · intro unchanged _ _ _ _
         exact unchanged
       · intro respects
         exact respects t rfl same ⟨corrected,settled,stored⟩
     · rw[if_neg (by simpa[named] using Ne.symm same)]
       refine iff_of_true gone fun other here there=>?_
       cases here
       exact absurd there same
   · refine iff_of_true (by simpa[settled,stored] using h) ?_
     rintro _ here-⟨other,there,storable⟩
     cases here
     rw[settled] at there
     cases there
     exact absurd storable stored

lemma step_removed_iff (h:Removed siren w)(op:Op) :
 Removed siren (step s w op) ↔ Respects s siren w op:=by
 cases op with
 | write write=>exact iff_of_true (write_removedIn s.env h write) trivial
 | suppress other receivedAt=>exact iff_of_true (suppress_removed h other receivedAt) trivial
 | applySnapshot staging snapshot now=>exact applySnapshot_removed_iff h staging snapshot now
 | correct command at'=>exact correct_removed_iff h command at'

inductive Removal (s:Surroundings)(siren:String)(w:World)(row:Supplier):Op→Prop where
 | requested (receivedAt:ℤ)(recorded :
   (contactRefs siren row.professionalEmail w.contacts).all s.accepted=true) :
   Removal s siren w row (.suppress siren receivedAt)
 | stored (at':ℤ):Removal s siren w row (.write (.suppressPersonalData siren at'))

lemma removal_removed_iff (found:w.row? siren=some row){removal:Op}
 (h:Removal s siren w row removal) :
 Removed siren (step s w removal) ↔ row.directorDisplayName=none:=by
 have named:row.siren=siren:=(DirectoryTrust.row?_mem found).2
 have written:∀at',RemovedIn siren (Tables.update (·.siren==siren) (suppressionValues at')
   w.mirror.directory) ↔ row.directorDisplayName=none:=by
  intro at'
  rw[removedIn_update_iff (f:=suppressionValues at') (fun _=>rfl) found,
   if_pos (by simp[named]),erased_suppressionValues_iff]
 cases h with
 | requested receivedAt recorded =>
  change Removed siren ((suppress s.accepted siren receivedAt w).getD w) ↔ _
  rw[suppress_eq s.accepted receivedAt found,if_pos recorded]
  exact written receivedAt
 | stored at'=>exact written at'

/-- A removal lasts over a run exactly where no name is displayed for the company,
and every later snapshot and correction respects it. -/
theorem removed_iff_respected (found:w.row? siren=some row){removal:Op}
 (h:Removal s siren w row removal)(ops:List Op) :
 (∀before,before <+: ops→Removed siren (before.foldl (step s) (step s w removal))) ↔
  row.directorDisplayName=none ∧ Runs.Along (step s) (Respects s siren) (step s w removal) ops:=by
 by_cases displayed:row.directorDisplayName=none
 · have start:=(removal_removed_iff found h).mpr displayed
   have exact:∀w op,True→Removed siren w →(Removed siren (step s w op) ↔ Respects s siren w op):=
    fun _ op _ removed=>step_removed_iff removed op
   rw[Runs.always_iff_along (fun _ _ _=>trivial) exact trivial start ops]
   simp[displayed]
 · refine iff_of_false (fun always=>displayed ?_) fun both=>displayed both.1
   exact (removal_removed_iff found h).mp (always [] (List.nil_prefix))

def sampleSurroundings:Surroundings where
 env:=DirectoryTrust.sampleEnv
 digest _:=""
 valid _:=true
 accepted _:=true
 review:=
  { casefold:=DirectoryTrust.sampleEnv.casefold
    verify:=fun _=>true
    issue:=fun _ _ _=>some ⟨"https://kivou.fr/r/1","m-1","f",.null,none⟩
    render:=fun t=>some
     { mail:=⟨"Objet","Texte",t.emailAddress⟩,passed:=true,wordCount:=80,
       contractFailure:=none}}

def sampleRow (displayed:Option String):Supplier:=
 { siren:="111111111",legalName:="Maçonnerie Un",legalNameObservedAt:=0
   familyKeys:=[],familiesObservedAt:=0
   directors:=[⟨some "Anne Martin",some "Gérante",some "personne physique",none⟩]
   directorDisplayName:=displayed
   createdAt:=0,updatedAt:=0}

def sampleTarget:ReviewedTarget:=
 { targetId:="t-1",version:=1,siren:="111111111",opportunityKey:="o-1"
   emailAddress:="contact@un.fr",mxVerified:=true,mail:=⟨"","",""⟩
   mailContractPassed:=true,status:=.pendingReview
   delivery:=⟨.notSent,none,none,none,none,none,none,none⟩
   providerCampaignId:=none,instantlyId:=none,sendRequestId:=none
   instantlyCreditUnits:=0,instantlyRequestCount:=0
   companyName:="Maçonnerie Un",directorName:=none,directorTitle:=none
   directorSource:=none,emailSource:=.site
   attributionUrl:="",attributionMemberRef:="m-0",attributionPayload:=.null
   attributionTokenFingerprint:="",unsubscribeUrl:=""
   mailWordCount:=80,mailContractFailure:=none,approved:=none
   deliveryError:=none,updatedAt:=0}

def sampleWorld (displayed:Option String):World where
 mirror:=⟨[sampleRow displayed],[],none⟩
 targets:=[sampleTarget]
 contacts:=[]
 suppressions:=[]

def sampleCorrection:CorrectCommand:=⟨"t-1",1,⟨none,some "Anne Martin",some "Anne@un.fr"⟩⟩

/-- A displayed name outlasts the removal; and a correction brings the director
and an address back. -/
theorem removed_person_returns :
 ¬Removed "111111111" (step sampleSurroundings (sampleWorld (some "Anne Martin"))
  (.suppress "111111111" 1)) ∧
 Removed "111111111" (step sampleSurroundings (sampleWorld none) (.suppress "111111111" 1)) ∧
 ¬Removed "111111111" ([Op.suppress "111111111" 1,.correct sampleCorrection 2].foldl
  (step sampleSurroundings) (sampleWorld none)):=by
 have displayed:∀name,(sampleWorld name).row? "111111111"=some (sampleRow name):=fun _=>rfl
 have removal:∀name,Removal sampleSurroundings "111111111" (sampleWorld name)
   (sampleRow name) (.suppress "111111111" 1):=fun _=>.requested 1 rfl
 have removed:=(removal_removed_iff (displayed none) (removal none)).mpr rfl
 refine ⟨?_,removed,?_⟩
 · rw[removal_removed_iff (displayed _) (removal _)]
   exact Option.some_ne_none _
 · rw[List.foldl_cons,List.foldl_cons,List.foldl_nil,step_removed_iff removed]
   intro respects
   have target:correctable (step sampleSurroundings (sampleWorld none)
     (.suppress "111111111" 1)) sampleCorrection=some sampleTarget:=rfl
   have unchanged:=respects sampleTarget target rfl ⟨_,rfl,by decide⟩
   cases unchanged.1

def sampleRenaming:CorrectCommand:=⟨"t-1",1,⟨some "Maçonnerie Un SARL",none,none⟩⟩

def sampleSnapshot:Snapshot:=⟨3,[{sampleRow none with legalName:="Un"}],"d-1"⟩

/-- After the removal the company is renamed on its target, and a snapshot lists it again. -/
def sampleRun:List Op:=
 [.correct sampleRenaming 2,.applySnapshot true sampleSnapshot 4,.suppress "111111111" 5]

lemma sampleRun_respects :
 Runs.Along (step sampleSurroundings) (Respects sampleSurroundings "111111111")
  (step sampleSurroundings (sampleWorld none) (.suppress "111111111" 1)) sampleRun:=by
 refine ⟨fun _ _ _ _=>⟨rfl,rfl⟩,fun _ lifts=>?_,trivial,trivial⟩
 exact absurd lifts.2 (by decide)

theorem removed_iff_respected_sample :
 Removed "111111111" (sampleRun.foldl (step sampleSurroundings)
  (step sampleSurroundings (sampleWorld none) (.suppress "111111111" 1))):=
 (removed_iff_respected (show (sampleWorld none).row? "111111111"=some (sampleRow none) from rfl)
  (.requested 1 rfl) sampleRun).mpr ⟨rfl,sampleRun_respects⟩ _ (List.prefix_refl _)

end Kivou.DirectoryRemovals
