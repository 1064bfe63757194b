import Kivou.AwardDomain
import Kivou.Runs
import Mathlib.Data.List.Dedup
import Mathlib.Logic.Relation

set_option autoImplicit false

/-! A published award is a representation; the contract it stands for is an opportunity, whose
identity is written once, when the representation is first attached, and read ever after. -/
namespace Kivou.OpportunityIdentity
open AwardDomain

abbrev Hexdigest:=String→String

def firstChars (n:ℕ)(text:String):String:=String.ofList (text.toList.take n)

def separator:String:="\x1f"

variable (sha:Hexdigest)

def fingerprint (parts:List (Option String)):String:=
 firstChars 40 (sha (separator.intercalate (parts.map (·.getD ""))))

def awardKey (award:ContractAward):String:=
 let reference:=award.eventRef
 fingerprint sha [some reference.sourceSystem.name,some reference.sourceNoticeId.text,
  reference.noticeVersion.map NonEmptyStr.text,award.sourceAwardId.map NonEmptyStr.text,
  award.lot.map (·.identifier.text)]

inductive LinkStrength where
 | strong | probable | unresolved
 deriving DecidableEq

def collapsibleLinkStrengths:List LinkStrength:=[.strong]

structure Representation where
 (awardKey opportunityKey:String)

abbrev Representations:=List Representation

def opportunityOf (rows:Representations)(reference:String):Option String:=
 (rows.find? (fun row=>row.awardKey==reference)).map Representation.opportunityKey

def representations (rows:Representations)(opportunityKey:String):List String:=
 ((rows.filter (fun row=>row.opportunityKey==opportunityKey)).map
  Representation.awardKey).mergeSort

def newOpportunityKey (reference:String):String:=
 "opp_"++firstChars 36 (sha (separator.intercalate ["opportunity",reference]))

structure ResolvedOpportunity where
 opportunityKey:String
 representations:List String
 created:Bool

/-- Two opportunities that a late link would unite: the one the representation
belongs to against others, or several it is linked to. -/
inductive OpportunityConflict where
 | attached (reference mine:String)(conflicting:List String)
 | several (reference:String)(candidates:List String)

structure Call where
 award:ContractAward
 linkedTo:List ContractAward
 linkStrength:LinkStrength

def candidates (rows:Representations)(c:Call):List String:=
 if c.linkStrength∈collapsibleLinkStrengths then
  (c.linkedTo.filterMap (fun other=>opportunityOf rows (awardKey sha other))).dedup
 else []

def resolveOrCreateOpportunity (rows:Representations)(c:Call) :
 Except OpportunityConflict ResolvedOpportunity × Representations:=
 let reference:=awardKey sha c.award
 let candidates:=candidates sha rows c
 match opportunityOf rows reference with
 | some mine =>
  let conflicting:=candidates.filter (· != mine)
  if conflicting≠[] then (.error (.attached reference mine conflicting.mergeSort),rows)
  else (.ok ⟨mine,representations rows mine,false⟩,rows)
 | none =>
  if 1<candidates.length then (.error (.several reference candidates.mergeSort),rows)
  else
   let key:=candidates.head?.getD (newOpportunityKey sha reference)
   let written:=rows++[⟨reference,key⟩]
   (.ok ⟨key,representations written key,candidates.isEmpty⟩,written)

def Call.unlinked (c:Call):Call:={c with linkedTo:=[],linkStrength:=.unresolved}

def processAward (rows:Representations)(c:Call):Representations:=
 match resolveOrCreateOpportunity sha rows c with
 | (.error _,kept)=>(resolveOrCreateOpportunity sha kept c.unlinked).2
 | (.ok _,written)=>written

/-- A call of its own, or an award's transaction in the pipeline, which what
follows in it may still roll back. -/
inductive Operation where
 | call (c:Call)
 | process (c:Call)(survives:Bool)

def Operation.calls:Operation→List Call
 | .call c=>[c]
 | .process c _=>[c,c.unlinked]

def step (rows:Representations):Operation→Representations
 | .call c=>(resolveOrCreateOpportunity sha rows c).2
 | .process c survives=>if survives then processAward sha rows c else rows

def table (ops:List Operation):Representations:=ops.foldl (step sha) []

def StrongLink (ops:List Operation)(a b:String):Prop:=
 ∃op∈ops,∃c∈op.calls,c.linkStrength=.strong ∧ a=awardKey sha c.award ∧
  ∃other∈c.linkedTo,b=awardKey sha other

def references (ops:List Operation):List String:=
 (ops.flatMap Operation.calls).map (fun c=>awardKey sha c.award)

/-- What one call leaves of the table: the table, or a row for an award that had
none, under a key of its own or that of an award it is strongly linked to. -/
inductive Attached (rows:Representations)(c:Call):Representations→Prop
 | kept:Attached rows c rows
 | created:opportunityOf rows (awardKey sha c.award)=none →
   Attached rows c (rows++[⟨awardKey sha c.award,newOpportunityKey sha (awardKey sha c.award)⟩])
 | joined {other:ContractAward}{key:String} :
   opportunityOf rows (awardKey sha c.award)=none→c.linkStrength=.strong →
   other∈c.linkedTo → opportunityOf rows (awardKey sha other)=some key →
   Attached rows c (rows++[⟨awardKey sha c.award,key⟩])

def Rooted (ops:List Operation)(rows:Representations):Prop:=
 ∀a key,opportunityOf rows a=some key→∃root∈references sha ops,
  key=newOpportunityKey sha root ∧ Relation.EqvGen (StrongLink sha ops) root a

variable {sha}

variable {rows:Representations}{c:Call}{ops:List Operation}

lemma mem_candidates {key:String} (h:key∈candidates sha rows c) : c.linkStrength=.strong ∧
  ∃other∈c.linkedTo,opportunityOf rows (awardKey sha other)=some key:=by
 unfold candidates at h
 split at h
 · rename_i strong
   rw[List.mem_dedup,List.mem_filterMap] at h
   exact ⟨by simpa[collapsibleLinkStrengths] using strong,h⟩
 · cases h

lemma resolve_attached (rows:Representations)(c:Call) :
 Attached sha rows c (resolveOrCreateOpportunity sha rows c).2:=by
 cases mine:opportunityOf rows (awardKey sha c.award) with
 | some key =>
  simp only[resolveOrCreateOpportunity,mine]
  split <;> exact .kept
 | none =>
  simp only[resolveOrCreateOpportunity,mine]
  split
  · exact .kept
  · cases first:candidates sha rows c with
    | nil=>exact .created mine
    | cons key rest =>
     have among:key∈candidates sha rows c:=by simp[first]
     obtain ⟨strong,other,linked,attached⟩:=mem_candidates among
     exact .joined mine strong linked attached

lemma conflict_writes_nothing {e:OpportunityConflict}
 (h:(resolveOrCreateOpportunity sha rows c).1=.error e) :
 (resolveOrCreateOpportunity sha rows c).2=rows:=by
 cases mine:opportunityOf rows (awardKey sha c.award) with
 | some key =>
  simp only[resolveOrCreateOpportunity,mine]
  split <;> rfl
 | none =>
  simp only[resolveOrCreateOpportunity,mine] at h ⊢
  split at h
  · rename_i several
    rw[if_pos several]
  · cases h

lemma opportunityOf_append (rows:Representations)(row:Representation)(a:String) :
 opportunityOf (rows++[row]) a =
  (opportunityOf rows a).or (if a=row.awardKey then some row.opportunityKey else none):=by
 simp only[opportunityOf,List.find?_append,Option.map_or]
 congr 1
 by_cases same:a=row.awardKey
 · simp[same]
 · have other:row.awardKey≠a:=fun is=>same is.symm
   simp[same,other]

def Kept (rows rows':Representations):Prop:=
 ∀a key,opportunityOf rows a=some key → opportunityOf rows' a=some key

lemma kept_append (rows:Representations)(row:Representation):Kept rows (rows++[row]):=by
 intro a key attached
 rw[opportunityOf_append,attached]
 rfl

lemma Attached.kept_rows {rows':Representations} (h:Attached sha rows c rows'):Kept rows rows':=by
 cases h with
 | kept=>exact fun _ _ attached=>attached
 | created | joined=>exact kept_append rows _

lemma Rooted.append {row:Representation} (h:Rooted sha ops rows)
 (new:∃root∈references sha ops,row.opportunityKey=newOpportunityKey sha root ∧
  Relation.EqvGen (StrongLink sha ops) root row.awardKey) :
 Rooted sha ops (rows++[row]):=by
 intro a key attached
 rw[opportunityOf_append,Option.or_eq_some_iff] at attached
 rcases attached with old|⟨-,written⟩
 · exact h a key old
 · split at written
   · rename_i same
     cases written
     exact same ▸ new
   · cases written

lemma Attached.rooted {op:Operation}{rows':Representations}(mem:op∈ops)
 (made:c∈op.calls)(h:Rooted sha ops rows)
 (attached:Attached sha rows c rows'):Rooted sha ops rows':=by
 have listed:awardKey sha c.award∈references sha ops:=
  List.mem_map.mpr ⟨c,List.mem_flatMap.mpr ⟨op,mem,made⟩,rfl⟩
 cases attached with
 | kept=>exact h
 | created=>exact h.append ⟨_,listed,rfl,.refl _⟩
 | joined absent strong linked at' =>
  obtain ⟨root,known,same,chain⟩:=h _ _ at'
  have link:StrongLink sha ops (awardKey sha c.award) _:=⟨op,mem,c,made,strong,rfl,_,linked,rfl⟩
  exact h.append ⟨root,known,same,.trans _ _ _ chain (.symm _ _ (.rel _ _ link))⟩

lemma step_kept (Inv:Representations→Prop){op:Operation}
 (called:∀rows,∀c∈op.calls,Inv rows→Inv (resolveOrCreateOpportunity sha rows c).2)
 (h:Inv rows):Inv (step sha rows op):=by
 cases op with
 | call c=>exact called rows c (by simp[Operation.calls]) h
 | process c survives =>
  cases survives with
  | false=>exact h
  | true =>
   have first:=called rows c (by simp[Operation.calls]) h
   simp only[step,↓reduceIte,processAward]
   split
   · rename_i kept eq
     rw[eq] at first
     exact called kept c.unlinked (by simp[Operation.calls]) first
   · rename_i written eq
     rw[eq] at first
     exact first

lemma step_keeps (rows:Representations)(op:Operation):Kept rows (step sha rows op):=
 step_kept (Kept rows) (fun _ c _ known a key attached=>
   (resolve_attached _ c).kept_rows a key (known a key attached))
  (fun _ _ attached=>attached)

lemma run_keeps (rows:Representations)(ops:List Operation) : Kept rows (ops.foldl (step sha) rows):=
 Runs.related (R:=Kept) (fun _ _ _ attached=>attached)
  (fun first second a key attached=>second a key (first a key attached)) step_keeps rows ops

lemma table_keeps {before:List Operation}(h:before <+: ops) :
 Kept (table sha before) (table sha ops):=by
 obtain ⟨rest,rfl⟩:=h
 rw[table,table,List.foldl_append]
 exact run_keeps _ rest

lemma table_rooted (ops:List Operation):Rooted sha ops (table sha ops):=by
 have run:Runs.Along (step sha) (fun _ op=>op∈ops) [] ops:=Runs.along_of_mem _ fun op mem _=>mem
 refine run.invariant (Rooted sha ops) (fun rows op rooted mem=>?_) (fun a key attached=>?_)
 · exact step_kept (Rooted sha ops)
    (fun rows c made known=>(resolve_attached rows c).rooted mem made known) rooted
 · cases attached

/-- Over every run: an award stays in its opportunity, opportunities never
merge, only strong calls unite two awards in one, and a call that ends in a
conflict writes nothing. -/
theorem opportunities_are_kept_apart (ops:List Operation)
 (distinct:∀a∈references sha ops,∀b∈references sha ops,
  newOpportunityKey sha a=newOpportunityKey sha b→a=b) :
 (∀before,before <+: ops→∀a key,opportunityOf (table sha before) a=some key →
  opportunityOf (table sha ops) a=some key) ∧
 (∀before,before <+: ops→∀a b j k,opportunityOf (table sha before) a=some j →
  opportunityOf (table sha before) b=some k→j≠k →
  opportunityOf (table sha ops) a≠opportunityOf (table sha ops) b) ∧
 (∀a b key,opportunityOf (table sha ops) a=some key →
  opportunityOf (table sha ops) b=some key→Relation.EqvGen (StrongLink sha ops) a b) ∧
 ∀before,before <+: ops→∀c e,(resolveOrCreateOpportunity sha (table sha before) c).1=.error e →
  (resolveOrCreateOpportunity sha (table sha before) c).2=table sha before:=by
 refine ⟨fun before reached=>table_keeps reached,?_,?_,?_⟩
 · intro before reached a b j k first second apart united
   have left:=table_keeps reached a j first
   have right:=table_keeps reached b k second
   rw[left,right] at united
   exact apart (Option.some.inj united)
 · intro a b key first second
   obtain ⟨r,known,created,left⟩:=table_rooted ops a key first
   obtain ⟨t,known',created',right⟩:=table_rooted ops b key second
   have same:r=t:=distinct r known t known' (created.symm.trans created')
   subst same
   exact .trans _ _ _ (.symm _ _ left) right
 · intro before _ c e conflict
   exact conflict_writes_nothing conflict

def sampleSha:Hexdigest:=fun text=>
 if text="boamp\x1f26-79799\x1f\x1f1\x1f" then
  "ec9849d08c14dae63414448a7005fc37ec3c15571d488942750978a0fd5cb100"
 else if text="opportunity\x1fec9849d08c14dae63414448a7005fc37ec3c1557" then
  "2a312a439eed756080b3f53b01b44bd133617dd77f4bd644cf50d656651ffa6f"
 else if text="decp\x1f2026S01\x1f\x1f2026S01\x1f" then
  "64f6f0e7d3d12dc3177cf76b07748b57677b413d3916ea7f53ba1842521d6891"
 else if text="opportunity\x1f64f6f0e7d3d12dc3177cf76b07748b57677b413d" then
  "b187be2b3dbb91f1eeef62ac93cccaa501bbb5fb763d554b180c056c3966619c"
 else text

lemma winnersCoherent_nobody:winnersCoherent .undisclosed []=true:=rfl

lemma datesCoherent_undated:datesCoherent none none=true:=rfl

def bareAward (sourceSystem:SourceSystem)(notice award:NonEmptyStr):ContractAward where
 eventRef:=⟨sourceSystem,notice,none⟩
 sourceAwardId:=some award
 lot:=none
 contractReference:=none
 title:=none
 description:=none
 cpvMain:=none
 cpvAdditional:=[]
 value:=none
 contractSignatories:=[]
 winnerStatus:=.undisclosed
 awardeeParties:=[]
 placeOfPerformance:=none
 awardDate:=none
 contractSignatureDate:=none
 contractNotificationDate:=none
 contractStartDate:=none
 contractEndDate:=none
 duration:=none
 winners:=winnersCoherent_nobody
 dates:=datesCoherent_undated

def boampAward:ContractAward:=bareAward .boamp ⟨"26-79799",rfl⟩ ⟨"1",rfl⟩
def decpAward:ContractAward:=bareAward .decp ⟨"2026S01",rfl⟩ ⟨"2026S01",rfl⟩

def linkedOps:List Operation:=
 [.process ⟨boampAward,[],.unresolved⟩ true,.process ⟨decpAward,[boampAward],.strong⟩ true]

def boampKey:String:="ec9849d08c14dae63414448a7005fc37ec3c1557"
def decpKey:String:="64f6f0e7d3d12dc3177cf76b07748b57677b413d"

lemma sample_keys : awardKey sampleSha boampAward=boampKey ∧ awardKey sampleSha decpAward=decpKey ∧
 newOpportunityKey sampleSha boampKey="opp_2a312a439eed756080b3f53b01b44bd13361" ∧
 newOpportunityKey sampleSha decpKey="opp_b187be2b3dbb91f1eeef62ac93cccaa501bb":=by
 decide +kernel

lemma linkedOps_table:table sampleSha linkedOps =
 [⟨boampKey,"opp_2a312a439eed756080b3f53b01b44bd13361"⟩,
  ⟨decpKey,"opp_2a312a439eed756080b3f53b01b44bd13361"⟩]:=by
 obtain ⟨boamp,decp,key,-⟩:=sample_keys
 have apart:boampKey≠decpKey:=by simp[boampKey,decpKey]
 simp[table,linkedOps,step,processAward,resolveOrCreateOpportunity,candidates,opportunityOf,
  collapsibleLinkStrengths,boamp,decp,key,apart]

theorem opportunities_are_kept_apart_sample :
 let united:=some "opp_2a312a439eed756080b3f53b01b44bd13361"
 opportunityOf (table sampleSha linkedOps) (awardKey sampleSha boampAward)=united ∧
 opportunityOf (table sampleSha linkedOps) (awardKey sampleSha decpAward)=united ∧
 Relation.EqvGen (StrongLink sampleSha linkedOps) (awardKey sampleSha boampAward)
  (awardKey sampleSha decpAward):=by
 obtain ⟨boamp,decp,key,other⟩:=sample_keys
 have apart:boampKey≠decpKey:=by simp[boampKey,decpKey]
 have first:opportunityOf (table sampleSha linkedOps) (awardKey sampleSha boampAward) =
   some "opp_2a312a439eed756080b3f53b01b44bd13361":=by
  simp[linkedOps_table,opportunityOf,boamp]
 have second:opportunityOf (table sampleSha linkedOps) (awardKey sampleSha decpAward) =
   some "opp_2a312a439eed756080b3f53b01b44bd13361":=by
  simp[linkedOps_table,opportunityOf,decp,apart]
 have kept:=@opportunities_are_kept_apart sampleSha linkedOps (by
  simp[references,linkedOps,Operation.calls,Call.unlinked,boamp,decp,key,other])
 exact ⟨first,second,kept.2.2.1 _ _ _ first second⟩

end Kivou.OpportunityIdentity
