import Kivou.AwardFacts
import Kivou.OpportunityIdentity
import Kivou.Runs
import Mathlib.Data.Set.Function

set_option autoImplicit false

/-! Each key joins the parts of an identity: with a colon, or with the unit separator before the
join is hashed. Two joins are equal exactly when the parts, cut at every separator, are the same
fields. -/
namespace Kivou.PublicationKeys
open AwardDomain AwardFacts Decimals OpportunityIdentity PythonValues

/-- What stands between the separators, wherever they come from. -/
def cut (sep:Char)(parts:List String):List (List Char):=
 parts.flatMap fun part=>part.toList.splitOn sep

section
variable {sep:Char}{xs ys:List String}

lemma splitOn_intercalate_cut (filled:xs≠[]) :
 ([sep].intercalate (xs.map String.toList)).splitOn sep=cut sep xs:=by
 induction xs with
 | nil=>exact absurd rfl filled
 | cons x xs ih =>
  cases xs with
  | nil=>simp[cut]
  | cons y ys =>
   have rest:=ih (List.cons_ne_nil y ys)
   rw[List.map_cons,List.map_cons,List.intercalate_cons_cons,List.append_assoc,
    List.singleton_append,List.splitOn_append_cons_self]
   exact congrArg (x.toList.splitOn sep++·) rest

lemma intercalate_eq_iff {s:String}(one:s.toList=[sep])(left:xs≠[])(right:ys≠[]) :
 s.intercalate xs=s.intercalate ys ↔ cut sep xs=cut sep ys:=by
 rw[←splitOn_intercalate_cut left,←splitOn_intercalate_cut right,←String.toList_inj,
  String.toList_intercalate,String.toList_intercalate,one]
 constructor
 · exact congrArg _
 · intro fields
   have joined:=congrArg [sep].intercalate fields
   rwa[List.intercalate_splitOn,List.intercalate_splitOn] at joined

/-- Parts without the separator are their own fields. -/
lemma cut_of_clear (clear:∀x∈xs,sep∉x.toList):cut sep xs=xs.map String.toList:=by
 rw[cut,List.flatMap_congr fun x mem=>List.splitOn_eq_singleton (clear x mem),List.map_eq_flatMap]

lemma cut_inj_of_clear (left:∀x∈xs,sep∉x.toList)(right:∀y∈ys,sep∉y.toList)
 (same:cut sep xs=cut sep ys):xs=ys:=by
 rw[cut_of_clear left,cut_of_clear right] at same
 exact List.map_injective_iff.mpr (fun _ _=>String.toList_inj.mp) same

end

def orEmpty (text:Option NonEmptyStr):String:=(text.map NonEmptyStr.text).getD ""

lemma text_ne_empty (text:NonEmptyStr):text.text≠"":=by
 have form:=text.form
 simp only[isFilled,Bool.and_eq_true,bne_iff_ne] at form
 exact form.2

/-- An absent part is written as the empty text, which no part is. -/
lemma orEmpty_injective:Function.Injective orEmpty:=by
 intro a b same
 cases a with
 | none =>
  cases b with
  | none=>rfl
  | some b=>exact absurd same.symm (text_ne_empty b)
 | some a =>
  cases b with
  | none=>exact absurd same (text_ne_empty a)
  | some b=>exact congrArg some (NonEmptyStr.ext same)

lemma systemName_injective:Function.Injective SourceSystem.name:=by
 intro a b same
 cases a <;> cases b <;> first | rfl | exact absurd same (by decide)

def eventParts (r:EventRef):List String:=
 [r.sourceSystem.name,r.sourceNoticeId.text,orEmpty r.noticeVersion]

/-- What an award is stored for: the publication, the contract and the lot. -/
structure AwardIdentity where
 eventRef:EventRef
 sourceAwardId:Option NonEmptyStr
 lotIdentifier:Option NonEmptyStr
 deriving DecidableEq

def identity (award:ContractAward):AwardIdentity:=
 ⟨award.eventRef,award.sourceAwardId,award.lot.map LotRef.identifier⟩

def AwardIdentity.parts (i:AwardIdentity):List String:=
 eventParts i.eventRef++[orEmpty i.sourceAwardId,orEmpty i.lotIdentifier]

variable (sha:Hexdigest)

def signalKey (opportunityKey targetIcpId:String):Except String String:=
 if strip opportunityKey="" then
  .error "un signal décrit une opportunité : `opportunity_key` est obligatoire"
 else if strip targetIcpId="" then
  .error "un signal appartient à un TargetICP : `target_icp_id` est obligatoire"
 else .ok (fingerprint sha [some (strip opportunityKey),some (strip targetIcpId)])

def signalParts (opportunityKey targetIcpId:String):List String:=
 [strip opportunityKey,strip targetIcpId]

/-- No two of these texts have the same truncated digest. -/
def CollisionFree (texts:Set String):Prop:=Set.InjOn (fun text=>firstChars 40 (sha text)) texts

variable {sha}

lemma separator_toList:separator.toList=['\x1f']:=by decide

lemma eventKey_eq (r:EventRef):r.key=":".intercalate (eventParts r):=by
 rw[←String.toList_inj,String.toList_intercalate]
 simp[EventRef.key,eventParts,orEmpty]

lemma eventParts_injective:Function.Injective eventParts:=by
 rintro ⟨system,notice,version⟩ ⟨system',notice',version'⟩ same
 simp only[eventParts,List.cons.injEq,and_true] at same
 obtain ⟨systems,notices,versions⟩:=same
 rw[systemName_injective systems,NonEmptyStr.ext notices,orEmpty_injective versions]

lemma eventKey_eq_iff (r r':EventRef) :
 r.key=r'.key ↔ cut ':' (eventParts r)=cut ':' (eventParts r'):=by
 rw[eventKey_eq,eventKey_eq]
 exact intercalate_eq_iff rfl (List.cons_ne_nil _ _) (List.cons_ne_nil _ _)

/-- Without a colon in their identifiers, publications keep keys of their own. -/
lemma eventKey_injOn:Set.InjOn EventRef.key {r | ∀part∈eventParts r,':' ∉ part.toList}:=by
 intro r clear r' clear' same
 exact eventParts_injective (cut_inj_of_clear clear clear' ((eventKey_eq_iff r r').mp same))

lemma awardKey_eq (award:ContractAward) :
 awardKey sha award=firstChars 40 (sha (separator.intercalate (identity award).parts)):=by
 rw[awardKey,fingerprint,identity]
 cases award.lot with
 | none=>rfl
 | some lot=>rfl

lemma fingerprint_eq_iff {texts:Set String}(free:CollisionFree sha texts)
 {xs ys:List String}(left:separator.intercalate xs∈texts)
 (right:separator.intercalate ys∈texts)(some:xs≠[])(some':ys≠[]) :
 firstChars 40 (sha (separator.intercalate xs))=firstChars 40 (sha (separator.intercalate ys)) ↔
  cut '\x1f' xs=cut '\x1f' ys:=by
 rw[←intercalate_eq_iff separator_toList some some']
 exact ⟨fun same=>free left right same,fun same=>by rw[same]⟩

lemma awardParts_injective:Function.Injective AwardIdentity.parts:=by
 rintro ⟨r,awardId,lot⟩ ⟨r',awardId',lot'⟩ same
 have tails:=List.append_inj same rfl
 simp only[List.cons.injEq,and_true] at tails
 obtain ⟨refs,awardIds,lots⟩:=tails
 rw[eventParts_injective refs,orEmpty_injective awardIds,orEmpty_injective lots]

lemma awardKey_eq_iff {texts:Set String}(free:CollisionFree sha texts)
 {a a':ContractAward}(left:separator.intercalate (identity a).parts∈texts)
 (right:separator.intercalate (identity a').parts∈texts) :
 awardKey sha a=awardKey sha a' ↔ cut '\x1f' (identity a).parts=cut '\x1f' (identity a').parts:=by
 rw[awardKey_eq,awardKey_eq]
 exact fingerprint_eq_iff free left right (List.cons_ne_nil _ _) (List.cons_ne_nil _ _)

lemma signalKey_ok {opportunityKey targetIcpId key:String} :
 signalKey sha opportunityKey targetIcpId=.ok key ↔ strip opportunityKey≠"" ∧ strip targetIcpId≠"" ∧
   firstChars 40 (sha (separator.intercalate (signalParts opportunityKey targetIcpId)))=key:=by
 unfold signalKey
 split
 · rename_i blank
   simp[blank]
 · rename_i named
   split
   · rename_i blank
     simp[blank]
   · rename_i owned
     simp[named,owned,fingerprint,signalParts]

/-- Two signals share a key when both are accepted and their stripped parts give the same fields. -/
lemma signalKey_shared_iff {texts:Set String}(free:CollisionFree sha texts)
 (k i k' i':String)(left:separator.intercalate (signalParts k i)∈texts)
 (right:separator.intercalate (signalParts k' i')∈texts) :
 (∃key,signalKey sha k i=.ok key ∧ signalKey sha k' i'=.ok key) ↔
  ""∉signalParts k i++signalParts k' i' ∧
   cut '\x1f' (signalParts k i)=cut '\x1f' (signalParts k' i'):=by
 have keys:=fingerprint_eq_iff free left right (List.cons_ne_nil _ _) (List.cons_ne_nil _ _)
 have named:""∉signalParts k i++signalParts k' i' ↔
   (strip k≠"" ∧ strip i≠"") ∧ strip k'≠"" ∧ strip i'≠"":=by
  simp only[signalParts,List.cons_append,List.nil_append,List.mem_cons,List.not_mem_nil,
   or_false,not_or,@eq_comm _ "",and_assoc,ne_eq]
 rw[named,←keys]
 constructor
 · rintro ⟨key,first,second⟩
   obtain ⟨left,left',is⟩:=signalKey_ok.mp first
   obtain ⟨right,right',is'⟩:=signalKey_ok.mp second
   exact ⟨⟨⟨left,left'⟩,right,right'⟩,is.trans is'.symm⟩
 · rintro ⟨⟨⟨left,left'⟩,right,right'⟩,same⟩
   exact ⟨_,signalKey_ok.mpr ⟨left,left',rfl⟩,signalKey_ok.mpr ⟨right,right',same.symm⟩⟩

/-- Two identities share a key exactly when their parts, cut at every separator, are the same. -/
theorem keys_apart_iff (r r':EventRef)(a a':ContractAward)(k i k' i':String)
 (free:CollisionFree sha {separator.intercalate (identity a).parts,
  separator.intercalate (identity a').parts,separator.intercalate (signalParts k i),
  separator.intercalate (signalParts k' i')}) :
 ((r.key=r'.key → r=r') ↔ r=r' ∨ cut ':' (eventParts r)≠cut ':' (eventParts r')) ∧
 ((awardKey sha a=awardKey sha a'→identity a=identity a') ↔
  identity a=identity a' ∨ cut '\x1f' (identity a).parts≠cut '\x1f' (identity a').parts) ∧
 ((∀key,signalKey sha k i=.ok key→signalKey sha k' i'=.ok key→(k,i)=(k',i')) ↔
  (k,i)=(k',i') ∨ ""∈signalParts k i++signalParts k' i' ∨
   cut '\x1f' (signalParts k i)≠cut '\x1f' (signalParts k' i')):=by
 refine ⟨?_,?_,?_⟩
 · rw[eventKey_eq_iff,imp_iff_not_or,or_comm]
 · rw[awardKey_eq_iff free (by simp) (by simp),imp_iff_not_or,or_comm]
 · have shared:=not_congr (signalKey_shared_iff free k i k' i' (by simp) (by simp))
   rw[not_and_or,not_not] at shared
   rw[←shared,←imp_iff_or_not]
   exact ⟨fun each ⟨key,first,second⟩=>each key first second,
    fun all key first second=>all ⟨key,first,second⟩⟩

def colonRef:EventRef:=⟨.simap,⟨"n-1:2",rfl⟩,some ⟨"3",rfl⟩⟩
def colonRef':EventRef:=⟨.simap,⟨"n-1",rfl⟩,some ⟨"2:3",rfl⟩⟩

def unitAward:ContractAward:=
 {bareAward .simap ⟨"n-1",rfl⟩ ⟨"2\x1f3",rfl⟩ with lot:=some ⟨⟨"4",rfl⟩,none⟩}
def unitAward':ContractAward:=
 {bareAward .simap ⟨"n-1",rfl⟩ ⟨"2",rfl⟩ with lot:=some ⟨⟨"3\x1f4",rfl⟩,none⟩}

/-- Digests of the texts below. -/
def publishedSha:Hexdigest:=fun text=>
 if text="simap\x1fn-1\x1f\x1f2\x1f3\x1f4" then
  "70611e82884e13b6351b7de4f3c9d071048f6d986be0d1e72741d036112957a4"
 else if text="opp_1\x1f2\x1f3" then
  "dc246cb30eda6bd45af86733ec96a481d7460cb470365713561a584c894d93ca"
 else if text="opp_1\x1f2" then "a911906d208aceae4874473b1f0ebaf084edf7115fa68cfd3ffbd9ba3f4b5778"
 else if text="simap\x1fnotice-7\x1f\x1faward-7\x1f" then
  "6bd7f8f5494737981c06824f67beb2f773b74035b976fb062a8fc24744f2f99e"
 else if text="simap\x1fnotice-8\x1f\x1faward-8\x1f" then
  "90b6913eb046d58c82564c98da027da48a2b422128244df781921d91afabaf06"
 else text

theorem keys_shared:(colonRef.key=colonRef'.key ∧ colonRef≠colonRef') ∧
 (awardKey publishedSha unitAward=awardKey publishedSha unitAward' ∧ identity unitAward≠identity unitAward') ∧
 signalKey publishedSha "opp_1\x1f2" "3"=signalKey publishedSha "opp_1" "2\x1f3":=by
 decide +kernel

theorem keys_apart_iff_sample : ((colonRef.key=colonRef'.key→colonRef=colonRef') ↔
  colonRef=colonRef' ∨ cut ':' (eventParts colonRef)≠cut ':' (eventParts colonRef')) ∧
 ((awardKey publishedSha unitAward=awardKey publishedSha unitAward'→identity unitAward=identity unitAward') ↔
  identity unitAward=identity unitAward' ∨
   cut '\x1f' (identity unitAward).parts≠cut '\x1f' (identity unitAward').parts) ∧
 ((∀key,signalKey publishedSha "opp_1" "2"=.ok key→signalKey publishedSha "opp_1" " 2"=.ok key →
   ("opp_1","2")=("opp_1"," 2")) ↔
  ("opp_1","2")=("opp_1"," 2") ∨ ""∈signalParts "opp_1" "2"++signalParts "opp_1" " 2" ∨
   cut '\x1f' (signalParts "opp_1" "2")≠cut '\x1f' (signalParts "opp_1" " 2")):=by
 refine keys_apart_iff colonRef colonRef' unitAward unitAward' "opp_1" "2" "opp_1" " 2" ?_
 have listed:∀s∈[separator.intercalate (identity unitAward).parts,
   separator.intercalate (signalParts "opp_1" "2")],
   ∀t∈[separator.intercalate (identity unitAward).parts,
    separator.intercalate (signalParts "opp_1" "2")],
    firstChars 40 (publishedSha s)=firstChars 40 (publishedSha t)→s=t:=by decide +kernel
 have same:separator.intercalate (identity unitAward').parts =
   separator.intercalate (identity unitAward).parts ∧
   separator.intercalate (signalParts "opp_1" " 2") =
    separator.intercalate (signalParts "opp_1" "2"):=by decide +kernel
 rw[same.1,same.2]
 exact fun s left t right=>listed s (by simpa using left) t (by simpa using right)

lemma insertIfAbsent_cases {α:Type}{key:α→String}{stored:α→Option α}{row:α}
 {rows rows':List α}(h:insertIfAbsent key stored row rows=some rows') :
 rows'=rows ∨ (∀r∈rows,key r≠key row) ∧ ∃kept,stored row=some kept ∧ rows'=rows++[kept]:=by
 unfold insertIfAbsent at h
 split at h
 · exact .inl (Option.some.inj h).symm
 · rename_i absent
   obtain ⟨kept,accepted,rfl⟩:=Option.map_eq_some_iff.mp h
   refine .inr ⟨fun r mem same=>absent (List.find?_isSome.mpr ⟨r,mem,?_⟩),kept,accepted,rfl⟩
   exact beq_iff_eq.mpr same

variable (sha)

/-- What `_upsert_award` leaves of the values: `amount` has two decimals. -/
def keptAward (p:PublicEvent × Call):ContractAwardRow:=
 let row:=awardRow sha p.1 p.2.award
 {row with amount:=row.amount.map (roundTo 2)}

/-- A publication whose rows are refused leaves nothing. -/
def recordPublication (db:Db)(p:PublicEvent × Call):Db:=(persistPublished sha db p.1 p.2).getD db

/-- Each row has a key of its own and is what one of the publications said. -/
structure Recorded (publications:List (PublicEvent × Call))(db:Db):Prop where
 events:(db.events.map SourceEventRow.eventKey).Nodup
 awards:(db.awards.map ContractAwardRow.awardKey).Nodup
 published:∀row∈db.events,∃p∈publications,row=eventRow p.1
 contracts:∀row∈db.awards,∃p∈publications,row=keptAward sha p

def Extends (db db':Db):Prop:=db.events <+: db'.events ∧ db.awards <+: db'.awards

variable {sha}

variable (sha) in
lemma recordPublication_cases (db:Db)(p:PublicEvent × Call) :
 ((recordPublication sha db p).events=db.events ∨ (∀row∈db.events,row.eventKey≠p.1.ref.key) ∧
  (recordPublication sha db p).events=db.events++[eventRow p.1]) ∧
 ((recordPublication sha db p).awards=db.awards ∨
  (∀row∈db.awards,row.awardKey≠awardKey sha p.2.award) ∧
  (recordPublication sha db p).awards=db.awards++[keptAward sha p]):=by
 have facts:=persistPublished_facts sha db p.1 p.2
 unfold recordPublication
 cases written:persistPublished sha db p.1 p.2 with
 | none=>exact ⟨.inl rfl,.inl rfl⟩
 | some db' =>
  rw[written,Option.map_some] at facts
  obtain ⟨events,inserted,facts⟩:=Option.bind_eq_some_iff.mp facts.symm
  obtain ⟨awards,inserted',facts⟩:=Option.map_eq_some_iff.mp facts
  obtain ⟨rfl,rfl⟩:=Prod.mk.inj facts
  refine ⟨(insertIfAbsent_cases inserted).imp_right ?_,
   (insertIfAbsent_cases inserted').imp_right ?_⟩
  · rintro ⟨absent,kept,accepted,is⟩
    rw[SourceEventRow.stored_eq accepted] at is
    exact ⟨absent,is⟩
  · rintro ⟨absent,kept,accepted,is⟩
    rw[ContractAwardRow.stored_eq accepted] at is
    exact ⟨absent,is⟩

lemma extends_recordPublication (db:Db)(p:PublicEvent × Call):Extends db (recordPublication sha db p):=by
 obtain ⟨events,awards⟩:=recordPublication_cases sha db p
 refine ⟨?_,?_⟩
 · rcases events with same|⟨-,more⟩
   · rw[same]
   · rw[more]
     exact List.prefix_append ..
 · rcases awards with same|⟨-,more⟩
   · rw[same]
   · rw[more]
     exact List.prefix_append ..

lemma Recorded.step {publications:List (PublicEvent × Call)}{db:Db}{p:PublicEvent × Call}
 (recorded:Recorded sha publications db)(mem:p∈publications) :
 Recorded sha publications (recordPublication sha db p):=by
 obtain ⟨events,awards⟩:=recordPublication_cases sha db p
 refine ⟨?_,?_,?_,?_⟩
 · rcases events with same|⟨absent,more⟩
   · exact same ▸ recorded.events
   · exact more ▸ Tables.nodup_append_fresh recorded.events absent
 · rcases awards with same|⟨absent,more⟩
   · exact same ▸ recorded.awards
   · exact more ▸ Tables.nodup_append_fresh recorded.awards absent
 · rcases events with same|⟨-,more⟩
   · exact same ▸ recorded.published
   · rw[more]
     exact List.forall_mem_append.mpr
      ⟨recorded.published,fun row new=>⟨p,mem,List.mem_singleton.mp new⟩⟩
 · rcases awards with same|⟨-,more⟩
   · exact same ▸ recorded.contracts
   · rw[more]
     exact List.forall_mem_append.mpr
      ⟨recorded.contracts,fun row new=>⟨p,mem,List.mem_singleton.mp new⟩⟩

def SourceEventRow.ref (row:SourceEventRow):EventRef:=
 ⟨row.sourceSystem,row.sourceNoticeId,row.noticeVersion⟩

/-- No identifier holds a separator, and each award is of the event it is published with. -/
structure Clear (p:PublicEvent × Call):Prop where
 belongs:p.2.award.eventRef=p.1.ref
 parts:∀part∈(identity p.2.award).parts,':' ∉ part.toList ∧ '\x1f' ∉ part.toList

/-- Publications are recorded one after the other: a row is written once for its key and never again,
and where no identifier holds a separator and no digests collide, the row under the key of a
publication is of that publication, and the row under the key of its contract of that contract. -/
theorem publications_keep_rows_of_their_own (publications:List (PublicEvent × Call)) :
 let db:=publications.foldl (recordPublication sha) Db.empty
 Recorded sha publications db ∧
 (∀later:List (PublicEvent × Call),Extends db (later.foldl (recordPublication sha) db)) ∧
 ((∀p∈publications,Clear p) →
  CollisionFree sha {text | ∃p∈publications,
   separator.intercalate (identity p.2.award).parts=text}→∀p∈publications,
  (∀row∈db.events,row.eventKey=p.1.ref.key→SourceEventRow.ref row=p.1.ref) ∧
  ∀row∈db.awards,row.awardKey=awardKey sha p.2.award → row.eventKey=p.1.ref.key ∧
   row.sourceAwardId=p.2.award.sourceAwardId ∧
   row.lot.map LotRef.identifier=p.2.award.lot.map LotRef.identifier):=by
 intro db
 have recorded:Recorded sha publications db:=by
  refine Runs.Along.invariant (Recorded sha publications)
   (fun db p recorded mem=>recorded.step mem) ?_
   ⟨List.nodup_nil,List.nodup_nil,fun _ mem=>(nomatch mem),fun _ mem=>(nomatch mem)⟩
  exact Runs.along_of_mem Db.empty fun p mem _=>mem
 refine ⟨recorded,fun later=>Runs.related (fun _=>⟨List.prefix_rfl,List.prefix_rfl⟩)
  (fun first second=>⟨first.1.trans second.1,first.2.trans second.2⟩) extends_recordPublication db later,
  fun clear free p mem=>⟨fun row there same=>?_,fun row there same=>?_⟩⟩
 · obtain ⟨q,mem',rfl⟩:=recorded.published row there
   have cleared {r:PublicEvent × Call}(mem:r∈publications) :
     ∀part∈eventParts r.1.ref,':' ∉ part.toList:=fun part is=>by
    rw[←(clear r mem).belongs] at is
    exact ((clear r mem).parts part (List.mem_append_left _ is)).1
   exact eventKey_injOn (cleared mem') (cleared mem) same
 · obtain ⟨q,mem',rfl⟩:=recorded.contracts row there
   have cuts:=(awardKey_eq_iff free ⟨q,mem',rfl⟩ ⟨p,mem,rfl⟩).mp same
   have parts:=cut_inj_of_clear (fun part is=>((clear q mem').parts part is).2)
    (fun part is=>((clear p mem).parts part is).2) cuts
   obtain ⟨refs,ids,lots⟩:=AwardIdentity.mk.inj (awardParts_injective parts)
   refine ⟨?_,ids,lots⟩
   rw[(clear q mem').belongs,(clear p mem).belongs] at refs
   exact congrArg EventRef.key refs

def clearEvent (notice:NonEmptyStr):PublicEvent where
 provenance:=⟨.simap,⟨"LU",by decide⟩,notice,none,none,none,none⟩
 eventType:=.awardNotice
 publishedAt:=none
 eventDate:=none
 corrects:=none
 procedureBuyers:=[]
 sourceNoticeLinks:=[]
 coherent:=rfl

def clearPublications:List (PublicEvent × Call):=
 [(clearEvent ⟨"notice-7",rfl⟩,⟨bareAward .simap ⟨"notice-7",rfl⟩ ⟨"award-7",rfl⟩,[],.unresolved⟩),
  (clearEvent ⟨"notice-8",rfl⟩,⟨bareAward .simap ⟨"notice-8",rfl⟩ ⟨"award-8",rfl⟩,[],.unresolved⟩)]

theorem publications_keep_rows_of_their_own_sample :
 let db:=clearPublications.foldl (recordPublication publishedSha) Db.empty
 db.awards.map ContractAwardRow.awardKey =
   ["6bd7f8f5494737981c06824f67beb2f773b74035","90b6913eb046d58c82564c98da027da48a2b4221"] ∧
 Recorded publishedSha clearPublications db ∧ ∀p∈clearPublications,
  (∀row∈db.events,row.eventKey=p.1.ref.key→SourceEventRow.ref row=p.1.ref) ∧
  ∀row∈db.awards,row.awardKey=awardKey publishedSha p.2.award →
   row.eventKey=p.1.ref.key ∧ row.sourceAwardId=p.2.award.sourceAwardId ∧
   row.lot.map LotRef.identifier=p.2.award.lot.map LotRef.identifier:=by
 intro db
 obtain ⟨recorded,-,own⟩:=@publications_keep_rows_of_their_own publishedSha clearPublications
 have distinct:∀p∈clearPublications,∀q∈clearPublications,
   firstChars 40 (publishedSha (separator.intercalate (identity p.2.award).parts)) =
    firstChars 40 (publishedSha (separator.intercalate (identity q.2.award).parts)) →
   separator.intercalate (identity p.2.award).parts =
    separator.intercalate (identity q.2.award).parts:=by decide +kernel
 refine ⟨by decide +kernel,recorded,own ?_ ?_⟩
 · intro p mem
   rcases List.mem_pair.mp mem with rfl|rfl <;> exact ⟨rfl,by decide +kernel⟩
 · rintro s ⟨p,mem,rfl⟩ t ⟨q,mem',rfl⟩ same
   exact distinct p mem q mem' same

end Kivou.PublicationKeys
