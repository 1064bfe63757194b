import Mathlib.Data.List.Sort

set_option autoImplicit false

/-! `_key`, `_build_values` and the end of `personalize` of `signals.personalization.service`, with
the lookups of `for_you_store`. What the service makes of the public context and the text of a
message are parameters; no table changes in the course of a call. -/
namespace Kivou.PersonalizationReferences

structure ForYouSentence where
 (signalKey signalFingerprint policyVersion sentence provenance:String)
 modelFit:Option String
 createdAt:ℤ

structure MaterializedSignal where
 (signalKey opportunityKey contentFingerprint:String)

structure Tables where
 forYouSentence:List ForYouSentence
 materializedSignal:List MaterializedSignal

inductive Error where
 | bindingConflict (signalRef:String)
 | groundingInsufficient (opportunityId:String)
 | inputChanged (opportunityId:String)
 | refused (text:String)

/-- What a message says besides the For You sentence. -/
structure Grounds where
 (awardee publicEventSentence needCategory:String)
 firstName:Option String
 deriving DecidableEq

/-- `ground` has the checks of `_build_values` before the lookups, `validate` is
`validate_catalog_message`, and `technical` finds what `client_safe_sentence` does not let pass. -/
structure Service (Public Message:Type) where
 policyVersion:String
 resolvePublic:String→Option Public
 ground:String→Public→String→Except Error Grounds
 technical:String→Bool
 forYouFallback:String→String→String
 render:String→Grounds→String→Message
 validate:Message→Grounds→String→Except Error Unit

structure Opportunity where
 (acquisitionOpportunityId signalRef:String)

def referencePrefix:String:="procurement-opportunity:"

def removeprefix (text lead:String):String:=
 if lead.toList <+: text.toList then String.ofList (text.toList.drop lead.toList.length) else text

/-- `_key`. -/
def key (signalRef:String):Except Error String:=
 let rest:=String.ofList (signalRef.toList.drop referencePrefix.toList.length)
 if ¬referencePrefix.toList <+: signalRef.toList ∨ rest="" then .error (.bindingConflict signalRef)
 else .ok rest

variable {Public Message:Type}(service:Service Public Message)(tables:Tables)
 (opportunity:Opportunity)(language:String)

/-- The rows that both lookups choose from. -/
def joined (opportunityKey:String):List ForYouSentence:=tables.forYouSentence.flatMap fun row=>
  (tables.materializedSignal.filter fun signal=>
   row.signalKey=signal.signalKey ∧ signal.opportunityKey=opportunityKey ∧
    row.signalFingerprint=signal.contentFingerprint ∧
    row.policyVersion=service.policyVersion).map fun _=>row

def clientSafeSentence (sentence:Option String):Option String:=
 sentence.filter fun text=>text≠""&&!service.technical text

def generatedFirst (row:ForYouSentence):ℕ:=if row.provenance="generated" then 0 else 1

def sentenceForOpportunity (opportunityKey:String):Option String:=
 clientSafeSentence service <| (·.sentence) <$>
  ((joined service tables opportunityKey).insertionSort fun a b=>
   generatedFirst a<generatedFirst b ∨
    generatedFirst a=generatedFirst b ∧ b.createdAt≤a.createdAt).head?

def modelFitForOpportunity (opportunityKey:String):Option String:=
 ((joined service tables opportunityKey).insertionSort
  fun a b=>b.createdAt≤a.createdAt).head?.bind (·.modelFit)

structure Values (Message:Type) where
 grounds:Grounds
 forYouSentence:String
 message:Message

def load:Except Error Public:=
 match key opportunity.signalRef with
 | .error e=>.error e
 | .ok opportunityKey =>
  match service.resolvePublic opportunityKey with
  | none=>.error (.bindingConflict opportunity.signalRef)
  | some context=>.ok context

/-- The sentence of the message: `persisted_for_you or for_you_fallback(..)`; a safe sentence is
not empty. -/
def forYouSentence (opportunityKey:String)(grounds:Grounds):String:=
 (sentenceForOpportunity service tables opportunityKey).getD
  (service.forYouFallback language grounds.needCategory)

def buildValues (context:Public):Except Error (Values Message):=
 match service.ground opportunity.signalRef context language with
 | .error e=>.error e
 | .ok grounds =>
  -- not the prefix that `_key` takes off
  let opportunityKey:= removeprefix opportunity.signalRef "opportunity:"
  if modelFitForOpportunity service tables opportunityKey=some "none" then
   .error (.groundingInsufficient opportunity.acquisitionOpportunityId)
  else
   let sentence:=forYouSentence service tables language opportunityKey grounds
   let message:=service.render language grounds sentence
   match service.validate message grounds sentence with
   | .error e=>.error e
   | .ok ()=>.ok {grounds,forYouSentence:=sentence,message}

inductive Disposition where
 | ready | policyBlocked
 deriving DecidableEq

structure Artifact (Message:Type) where
 disposition:Disposition
 values:Values Message

/-- What the policy answered to the request, and whether the stream was where it was expected. -/
structure Verdict where
 (executable versionKept:Bool)

/-- `personalize` where no artifact is there before: the values are built, submitted to the
policy, and built again in the transaction that writes the artifact. The fingerprints that are
compared are those of the values. -/
def personalize (verdict:Verdict):Except Error (Artifact Message):=
 match (load service opportunity).bind (buildValues service tables opportunity language) with
 | .error e=>.error e
 | .ok values =>
  if !verdict.executable then .ok ⟨.policyBlocked,values⟩
  else if !verdict.versionKept then .error (.inputChanged opportunity.acquisitionOpportunityId)
  else
   match (load service opportunity).bind (buildValues service tables opportunity language) with
   | .error _=>.error (.inputChanged opportunity.acquisitionOpportunityId)
   | .ok rebuilt =>
    if rebuilt.grounds≠values.grounds ∨ rebuilt.forYouSentence≠values.forYouSentence then
     .error (.inputChanged opportunity.acquisitionOpportunityId)
    else .ok ⟨.ready,rebuilt⟩

lemma key_reference {K:String}(filled:K≠""):key (referencePrefix++K)=.ok K:=by
 have rest:(referencePrefix++K).toList.drop referencePrefix.toList.length=K.toList:=by
  rw[String.toList_append,List.drop_left]
 have leads:referencePrefix.toList <+: (referencePrefix++K).toList:=by
  rw[String.toList_append]
  exact List.prefix_append ..
 simp only[key,rest,String.ofList_toList,leads,not_true_eq_false,filled,or_self,if_false]

/-- The other prefix is not taken off: the whole reference is left. -/
lemma removeprefix_reference (K:String) :
 removeprefix (referencePrefix++K) "opportunity:"=referencePrefix++K:=by
 refine if_neg fun leads=>?_
 rw[String.toList_append] at leads
 obtain ⟨rest,same⟩:=leads
 simp[referencePrefix] at same

lemma joined_unkeyed {opportunityKey:String}
 (unkeyed:∀signal∈tables.materializedSignal,signal.opportunityKey≠opportunityKey) :
 joined service tables opportunityKey=[]:=by
 simp only[joined,List.flatMap_eq_nil_iff,List.map_eq_nil_iff,List.filter_eq_nil_iff,
  decide_eq_true_eq]
 exact fun row _ signal mem found=>unkeyed signal mem found.2.1

variable {service tables opportunity language}{K:String}{verdict:Verdict} {values:Values Message}

lemma buildValues_ok {context:Public}(keyed:opportunity.signalRef=referencePrefix++K) :
 buildValues service tables opportunity language context=.ok values ↔
  service.ground opportunity.signalRef context language=.ok values.grounds ∧
   modelFitForOpportunity service tables opportunity.signalRef≠some "none" ∧
   values.forYouSentence =
    forYouSentence service tables language opportunity.signalRef values.grounds ∧
   values.message=service.render language values.grounds values.forYouSentence ∧
   service.validate values.message values.grounds values.forYouSentence=.ok ():=by
 obtain ⟨grounds,sentence,message⟩:=values
 unfold buildValues
 cases grounded:service.ground opportunity.signalRef context language with
 | error e=>simp
 | ok found =>
  simp only[keyed,removeprefix_reference]
  by_cases vetoed:modelFitForOpportunity service tables (referencePrefix++K)=some "none"
  · simp[vetoed]
  · simp only[vetoed,if_false,Except.ok.injEq,ne_eq,not_false_iff,true_and]
    split
    · rename_i e refused
      refine iff_of_false nofun ?_
      rintro ⟨rfl,rfl,rfl,passes⟩
      cases refused.symm.trans passes
    · rename_i passes
      simp only[Except.ok.injEq,Values.mk.injEq]
      constructor
      · rintro ⟨rfl,rfl,rfl⟩
        exact ⟨rfl,rfl,rfl,passes⟩
      · rintro ⟨rfl,rfl,rfl,-⟩
        exact ⟨rfl,rfl,rfl⟩

lemma load_reference (filled:K≠"")(keyed:opportunity.signalRef=referencePrefix++K) :
  load service opportunity=match service.resolvePublic K with
   | none=>.error (.bindingConflict opportunity.signalRef)
   | some context=>.ok context:=by
 simp only[load,keyed,key_reference filled]

lemma personalize_ready {artifact:Artifact Message}(ready:artifact.disposition=.ready) :
 personalize service tables opportunity language verdict=.ok artifact ↔
  verdict.executable=true ∧ verdict.versionKept=true ∧
   (load service opportunity).bind (buildValues service tables opportunity language) =
    .ok artifact.values:=by
 obtain ⟨_,values⟩:=artifact
 cases ready
 unfold personalize
 cases (load service opportunity).bind (buildValues service tables opportunity language) with
 | error e=>simp
 | ok built=>cases verdict.executable <;> cases verdict.versionKept <;> simp

/-- Every check of a call but the lookups passes, with the sentence that is used. -/
def Accepted (service:Service Public Message)(tables:Tables)(opportunity:Opportunity)
 (language K:String)(verdict:Verdict)(grounds:Grounds):Prop:=
 let sentence:=forYouSentence service tables language opportunity.signalRef grounds
 verdict.executable=true ∧ verdict.versionKept=true ∧
  service.validate (service.render language grounds sentence) grounds sentence=.ok () ∧
  ∃context,service.resolvePublic K=some context ∧
   service.ground opportunity.signalRef context language=.ok grounds

/-- What the lookups are there for: no artifact against a verdict "none" on `K`, and the sentence
of `K` where there is one. -/
def Promised (service:Service Public Message)(tables:Tables)(opportunity:Opportunity)
 (language K:String)(verdict:Verdict):Prop:=
 ∀artifact,personalize service tables opportunity language verdict=.ok artifact →
  artifact.disposition=.ready→modelFitForOpportunity service tables K≠some "none" ∧
   ∀sentence,sentenceForOpportunity service tables K=some sentence →
    artifact.values.forYouSentence=sentence

lemma ready_iff (filled:K≠"")(keyed:opportunity.signalRef=referencePrefix++K)
 {grounds:Grounds}{sentence:String} :
 (∃artifact,personalize service tables opportunity language verdict=.ok artifact ∧
  artifact.disposition=.ready ∧ artifact.values.grounds=grounds ∧
  artifact.values.forYouSentence=sentence) ↔
 Accepted service tables opportunity language K verdict grounds ∧
  modelFitForOpportunity service tables opportunity.signalRef≠some "none" ∧
  sentence=forYouSentence service tables language opportunity.signalRef grounds:=by
 constructor
 · rintro ⟨artifact,run,ready,rfl,rfl⟩
   obtain ⟨executable,kept,built⟩:=(personalize_ready ready).mp run
   rw[load_reference filled keyed] at built
   cases found:service.resolvePublic K with
   | none=>simp[found,Except.bind] at built
   | some context =>
    rw[found] at built
    obtain ⟨grounded,open',used,said,valid⟩:=(buildValues_ok keyed).mp built
    rw[said,used] at valid
    exact ⟨⟨executable,kept,valid,context,found,grounded⟩,open',used⟩
 · rintro ⟨⟨executable,kept,valid,context,found,grounded⟩,open',rfl⟩
   refine ⟨⟨.ready,grounds,_,service.render language grounds
    (forYouSentence service tables language opportunity.signalRef grounds)⟩,
    (personalize_ready rfl).mpr ⟨executable,kept,?_⟩,rfl,rfl,rfl⟩
   rw[load_reference filled keyed,found]
   exact (buildValues_ok keyed).mpr ⟨grounded,open',rfl,rfl,valid⟩

/-- The lookups ask for the whole reference: they do what they are there for where the call is
refused on other grounds, or where the tables say under the reference what they say under its
key. Where no signal has a whole reference as its key, every message has the fallback. -/
theorem promised_iff (filled:K≠"")(keyed:opportunity.signalRef=referencePrefix++K) :
 (Promised service tables opportunity language K verdict ↔
  ∀grounds,Accepted service tables opportunity language K verdict grounds →
   modelFitForOpportunity service tables opportunity.signalRef=some "none" ∨
    modelFitForOpportunity service tables K≠some "none" ∧
    ∀sentence,sentenceForOpportunity service tables K=some sentence →
     forYouSentence service tables language opportunity.signalRef grounds=sentence) ∧
 ((∀signal∈tables.materializedSignal,signal.opportunityKey≠opportunity.signalRef) →
  ∀artifact,personalize service tables opportunity language verdict=.ok artifact →
   artifact.disposition=.ready→artifact.values.forYouSentence =
    service.forYouFallback language artifact.values.grounds.needCategory):=by
 refine ⟨⟨fun promised grounds accepted=>or_iff_not_imp_left.mpr fun open'=>?_,
  fun agree artifact run ready=>?_⟩,fun unkeyed artifact run ready=>?_⟩
 · obtain ⟨artifact,run,ready,-,used⟩:=(ready_iff filled keyed).mpr ⟨accepted,open',rfl⟩
   rw[←used]
   exact promised artifact run ready
 · obtain ⟨accepted,open',used⟩:=
    (ready_iff filled keyed).mp ⟨artifact,run,ready,rfl,rfl⟩
   rw[used]
   exact (agree _ accepted).resolve_left open'
 · obtain ⟨-,-,used⟩:=(ready_iff filled keyed).mp ⟨artifact,run,ready,rfl,rfl⟩
   rw[used,forYouSentence,sentenceForOpportunity,joined_unkeyed service tables unkeyed]
   rfl

def sampleGrounds:Grounds:=⟨"Bati","Bati a obtenu un marché.","workforce_capacity",none⟩

def sampleService:Service Unit String where
 policyVersion:="v3"
 resolvePublic:=fun opportunityKey=>if opportunityKey="award-7" then some () else none
 ground:=fun _ _ _=>.ok sampleGrounds
 technical:=fun _=>false
 forYouFallback:=fun _ _=>"Un besoin de personnel est plausible."
 render:=fun _ grounds sentence=>grounds.publicEventSentence++" "++sentence
 validate:=fun _ _ _=>.ok ()

def sampleOpportunity:Opportunity:=⟨"opp-1","procurement-opportunity:award-7"⟩

/-- The model found that the award does not fit the customer. -/
def unfitTables:Tables where
 forYouSentence:=[⟨"signal-1","print","v3","Une phrase.","generated",some "none",0⟩]
 materializedSignal:=[⟨"signal-1","award-7","print"⟩]

lemma sampleOpportunity_keyed:sampleOpportunity.signalRef=referencePrefix++"award-7":=by
 decide

/-- The veto is not seen, and a READY artifact is written. -/
theorem unfit_award_is_ready :
 ¬Promised sampleService unfitTables sampleOpportunity "fr" "award-7" ⟨true,true⟩:=by
 intro promised
 have unseen:modelFitForOpportunity sampleService unfitTables sampleOpportunity.signalRef ≠
   some "none":=by decide
 have accepted:Accepted sampleService unfitTables sampleOpportunity "fr" "award-7"
   ⟨true,true⟩ sampleGrounds:=⟨rfl,rfl,rfl,(),by decide,rfl⟩
 obtain ⟨artifact,run,ready,-⟩:=
  (ready_iff (by decide) sampleOpportunity_keyed).mpr ⟨accepted,unseen,rfl⟩
 exact (promised artifact run ready).1 (by decide)

/-- The sentence that the model wrote for the award is the fallback. -/
def plainTables:Tables where
 forYouSentence:=[⟨"signal-1","print","v3","Un besoin de personnel est plausible.","generated",
  some "strong",0⟩]
 materializedSignal:=[⟨"signal-1","award-7","print"⟩]

theorem promised_iff_sample : sentenceForOpportunity sampleService plainTables "award-7" =
   some "Un besoin de personnel est plausible." ∧
  Promised sampleService plainTables sampleOpportunity "fr" "award-7" ⟨true,true⟩:=by
 have stored:sentenceForOpportunity sampleService plainTables "award-7" =
   some "Un besoin de personnel est plausible.":=by decide
 refine ⟨stored,(promised_iff (by decide) sampleOpportunity_keyed).1.mpr
  fun grounds _=>.inr ⟨by decide,fun sentence found=>?_⟩⟩
 obtain rfl:=Option.some.inj (stored.symm.trans found)
 rfl

end Kivou.PersonalizationReferences
