import Kivou.AwardFacts
import Kivou.DecpContracts

set_option autoImplicit false

/-! Records pass through the parser and the transaction of their award, one after the other. A
contract is keyed by its `id` alone, which each buyer assigns for itself: the first record of an
`id` that the columns take answers for all others. -/
namespace Kivou.DecpFacts
open PythonValues (bind_ok)
open AwardDomain OpportunityIdentity AwardFacts DecpContracts Decimals

structure Publication where
 record:Record
 retrievedAt:Option PythonValues.DateTime
 event:PublicEvent
 award:ContractAward
 parsed:parseContract record retrievedAt=.ok (event,award)
 linkedTo:List ContractAward
 linkStrength:LinkStrength

namespace Publication

def call (p:Publication):Call:=⟨p.award,p.linkedTo,p.linkStrength⟩

/-- `(acheteur_id, id)`. -/
def pair (p:Publication):Option String × Option String:=
 (p.record.get "acheteur_id",p.record.get "id")

/-- The `id`, as the parser reads it. -/
def identifier (p:Publication):NonEmptyStr:=p.event.provenance.sourceNoticeId

end Publication

variable (sha:Hexdigest)

def step (db:Db)(p:Publication):Db:=(persistPublished sha db p.event p.call).getD db

def run (ps:List Publication):Db:=ps.foldl (step sha) Db.empty

structure Facts where
 buyers:List OrganizationRef
 publishedAt:Option PublicationInstant
 winnerStatus:WinnerStatus
 winners:List AwardeeParty
 amount:Option ℚ
 currency:Option CurrencyCode
 (awardDate signatureDate notificationDate startDate endDate:Option Date)

def factsOf (event:SourceEventRow)(award:ContractAwardRow):Facts:=
 { buyers:=event.procedureBuyers
   publishedAt:=event.publishedAt
   winnerStatus:=award.winnerStatus
   winners:=award.awardeeParties
   amount:=award.amount
   currency:=award.currency
   awardDate:=award.awardDate
   signatureDate:=award.contractSignatureDate
   notificationDate:=award.contractNotificationDate
   startDate:=award.contractStartDate
   endDate:=award.contractEndDate}

def Publication.facts (p:Publication):Facts:=
 factsOf (eventRow p.event) (awardRow sha p.event p.award)

def Holds (db:Db)(p:Publication):Prop:=∃event award,db.event? p.event.ref.key=some event ∧
  db.award? (awardKey sha p.award)=some award ∧ factsOf event award=p.facts sha

def KeptApart (db:Db)(p q:Publication):Prop:=
 p.event.ref.key≠q.event.ref.key ∧ awardKey sha p.award≠awardKey sha q.award ∧
  Holds sha db p ∧ Holds sha db q

def Publication.storable (p:Publication):Bool:=
 (eventRow p.event).stored.isSome&&(awardRow sha p.event p.award).stored.isSome

/-- The first record of this `id` that the columns take. -/
def firstStored (ps:List Publication)(p:Publication):Option Publication:=
 ps.find? fun q=>q.identifier==p.identifier&&q.storable sha

/-- The first record of the `id` says the same, to the cent. -/
def Repeats (ps:List Publication)(p:Publication):Prop:=∃q,firstStored sha ps p=some q ∧
  {q.facts sha with amount:=(q.facts sha).amount.map (roundTo 2)}=p.facts sha

/-- Both keys of every contract are answered by the first record of its `id`
among those done. -/
def Answers (all:List Publication)(db:Db)(done:List Publication):Prop:=∀p∈all,
  db.event? p.event.ref.key =(firstStored sha done p).bind (fun q=>(eventRow q.event).stored) ∧
   db.award? (awardKey sha p.award) =
    (firstStored sha done p).bind (fun q=>(awardRow sha q.event q.award).stored)

lemma parseContract_identity {record:Record}{retrievedAt:Option PythonValues.DateTime}
 {event:PublicEvent}{award:ContractAward}
 (h:parseContract record retrievedAt=.ok (event,award)) :
 event.provenance.ref=⟨.decp,event.provenance.sourceNoticeId,none⟩ ∧
  award.eventRef=event.ref ∧ award.sourceAwardId=some event.provenance.sourceNoticeId ∧
  award.lot=none ∧ text (record.get "id")=some event.provenance.sourceNoticeId ∧
  event.procedureBuyers=buyers record:=by
 unfold parseContract at h
 split at h
 · cases h
 rename_i identifier said
 obtain ⟨cpvMain,-,h⟩:=bind_ok.mp h
 obtain ⟨value,-,h⟩:=bind_ok.mp h
 obtain ⟨place,-,h⟩:=bind_ok.mp h
 obtain ⟨duration,-,h⟩:=bind_ok.mp h
 cases h
 exact ⟨rfl,rfl,rfl,rfl,said,rfl⟩

variable {sha}

lemma Publication.ref_eq (p:Publication):p.event.ref=⟨.decp,p.identifier,none⟩:=
 (parseContract_identity p.parsed).1

lemma Publication.key_eq (p:Publication) : p.event.ref.key="decp:"++p.identifier.text++":":=by
 rw[p.ref_eq]
 simp[EventRef.key,SourceSystem.name]

lemma key_inj {p q:Publication}:p.event.ref.key=q.event.ref.key ↔ p.identifier=q.identifier:=by
 constructor
 · intro same
   rw[p.key_eq,q.key_eq] at same
   exact NonEmptyStr.ext (by simpa using same)
 · intro same
   rw[p.key_eq,q.key_eq,same]

/-- The `id` alone decides both keys. -/
lemma awardKey_eq {p q:Publication}(same:p.identifier=q.identifier) :
 awardKey sha p.award=awardKey sha q.award:=by
 have keyed:∀r:Publication,awardKey sha r.award =
   fingerprint sha [some "decp",some r.identifier.text,none,some r.identifier.text,none]:=by
  intro r
  obtain ⟨ref,eventRef,source,lot,-⟩:=parseContract_identity r.parsed
  simp only[awardKey,eventRef,source,lot,PublicEvent.ref,ref]
  rfl
 rw[keyed,keyed,same]

lemma identifier_of_pair {p q:Publication}(same:p.pair=q.pair) : p.identifier=q.identifier:=by
 have read:p.record.get "id"=q.record.get "id":=congrArg Prod.snd same
 have left:=(parseContract_identity p.parsed).2.2.2.2.1
 have right:=(parseContract_identity q.parsed).2.2.2.2.1
 rw[read,right] at left
 exact (Option.some.inj left).symm

variable {ps:List Publication}

lemma firstStored_some {p q:Publication} (h:firstStored sha ps p=some q) :
 q∈ps ∧ q.identifier=p.identifier ∧ q.storable sha=true:=by
 have found:=List.find?_some h
 simp only[Bool.and_eq_true,beq_iff_eq] at found
 exact ⟨List.mem_of_find?_eq_some h,found.1,found.2⟩

lemma firstStored_append (done:List Publication)(p q:Publication) :
 firstStored sha (done++[p]) q=(firstStored sha done q).or
  (if p.identifier=q.identifier ∧ p.storable sha=true then some p else none):=by
 rw[firstStored,List.find?_append]
 congr 1
 by_cases same:p.identifier=q.identifier <;> cases kept:p.storable sha <;> simp[same,kept]

lemma storable_iff {p:Publication}:p.storable sha=true ↔
 ∃event award,(eventRow p.event).stored=some event ∧
  (awardRow sha p.event p.award).stored=some award:=by
 simp[Publication.storable,Option.isSome_iff_exists]

variable (sha) in
lemma step_facts (db:Db)(p:Publication) : ((step sha db p).events,(step sha db p).awards) =
  ((insertIfAbsent SourceEventRow.eventKey SourceEventRow.stored (eventRow p.event) db.events).bind
   fun events=>(insertIfAbsent ContractAwardRow.awardKey ContractAwardRow.stored
    (awardRow sha p.event p.award) db.awards).map fun awards=>(events,awards)).getD
     (db.events,db.awards):=by
 have facts:=persistPublished_facts sha db p.event p.call
 rw[←show p.call.award=p.award from rfl,←facts,step]
 cases persistPublished sha db p.event p.call <;> rfl

lemma firstStored_congr {p q:Publication}
 (same:p.identifier=q.identifier):firstStored sha ps p=firstStored sha ps q:=by
 rw[firstStored,firstStored,same]

/-- A record of an answered `id` writes nothing. -/
lemma step_again {db:Db}{p:Publication}{event:SourceEventRow}{award:ContractAwardRow}
 (events:db.event? p.event.ref.key=some event)
 (awards:db.award? (awardKey sha p.award)=some award) :
 (step sha db p).events=db.events ∧ (step sha db p).awards=db.awards:=by
 have facts:=step_facts sha db p
 have event_there:(db.events.find? fun r=>r.eventKey==(eventRow p.event).eventKey).isSome:=
  Option.isSome_iff_exists.mpr ⟨event,events⟩
 have award_there:(db.awards.find? fun r=>
   r.awardKey==(awardRow sha p.event p.award).awardKey).isSome:=
  Option.isSome_iff_exists.mpr ⟨award,awards⟩
 rw[insertIfAbsent_present event_there,Option.bind_some,insertIfAbsent_present award_there] at facts
 exact ⟨congrArg Prod.fst facts,congrArg Prod.snd facts⟩

/-- The first record of an `id` writes both rows, or is rolled back. -/
lemma step_first {db:Db}{p:Publication}(events:db.event? p.event.ref.key=none)
 (awards:db.award? (awardKey sha p.award)=none) :
 (∃event award,(eventRow p.event).stored=some event ∧
   (awardRow sha p.event p.award).stored=some award ∧
   (step sha db p).events=db.events++[event] ∧
   (step sha db p).awards=db.awards++[award]) ∨
  (p.storable sha=false ∧ (step sha db p).events=db.events ∧
   (step sha db p).awards=db.awards):=by
 have facts:=step_facts sha db p
 have no_event:db.events.find? (fun r=>r.eventKey==(eventRow p.event).eventKey)=none:=events
 have no_award:db.awards.find?
   (fun r=>r.awardKey==(awardRow sha p.event p.award).awardKey)=none:=awards
 rw[insertIfAbsent_absent no_event,insertIfAbsent_absent no_award] at facts
 cases kept:(eventRow p.event).stored with
 | none =>
  refine .inr ⟨by simp[Publication.storable,kept],?_⟩
  rw[kept] at facts
  exact ⟨congrArg Prod.fst facts,congrArg Prod.snd facts⟩
 | some event =>
  cases kept':(awardRow sha p.event p.award).stored with
  | none =>
   refine .inr ⟨by simp[Publication.storable,kept'],?_⟩
   rw[kept,kept'] at facts
   exact ⟨congrArg Prod.fst facts,congrArg Prod.snd facts⟩
  | some award =>
   rw[kept,kept'] at facts
   exact .inl ⟨event,award,rfl,rfl,congrArg Prod.fst facts,congrArg Prod.snd facts⟩

/-- One record more: an `id` that was answered keeps its answer, a new one is
answered by this record if the columns take it. -/
lemma Answers.step {all done:List Publication}{db:Db}{p:Publication}
 (distinct:∀q∈all,awardKey sha p.award=awardKey sha q.award→p.identifier=q.identifier)
 (mem:p∈all)(h:Answers sha all db done) :
 Answers sha all (step sha db p) (done++[p]):=by
 obtain ⟨events,awards⟩:=h p mem
 intro q listed
 obtain ⟨events',awards'⟩:=h q listed
 rw[firstStored_append]
 cases first:firstStored sha done p with
 | some r =>
  obtain ⟨event,award,kept,kept'⟩:=storable_iff.mp (firstStored_some first).2.2
  rw[first,Option.bind_some,kept] at events
  rw[first,Option.bind_some,kept'] at awards
  obtain ⟨sameEvents,sameAwards⟩:=step_again events awards
  have answered:(firstStored sha done q).or
    (if p.identifier=q.identifier ∧ p.storable sha=true then some p else none) =
     firstStored sha done q:=by
   by_cases same:p.identifier=q.identifier
   · rw[←firstStored_congr same,first,Option.some_or]
   · rw[if_neg (fun both=>same both.1),Option.or_none]
  rw[answered,Db.event?,Db.award?,sameEvents,sameAwards]
  exact ⟨events',awards'⟩
 | none =>
  rw[first,Option.bind_none] at events awards
  rcases step_first events awards with
   ⟨event,award,kept,kept',newEvents,newAwards⟩ | ⟨refused,sameEvents,sameAwards⟩
  · have storable:p.storable sha=true:=storable_iff.mpr ⟨event,award,kept,kept'⟩
    have eventKey:event.eventKey=p.event.ref.key:=SourceEventRow.stored_key kept
    have awardKey':award.awardKey=awardKey sha p.award:=ContractAwardRow.stored_key kept'
    rw[Db.event?,Db.award?,newEvents,newAwards,List.find?_append,List.find?_append]
    by_cases same:p.identifier=q.identifier
    · have unanswered:firstStored sha done q=none:=(firstStored_congr same).symm.trans first
      have key:event.eventKey=q.event.ref.key:=eventKey.trans (key_inj.mpr same)
      have awardKeyQ:award.awardKey=awardKey sha q.award:=awardKey'.trans (awardKey_eq same)
      rw[unanswered,Option.bind_none] at events' awards'
      rw[Db.event?] at events'
      rw[Db.award?] at awards'
      simp[unanswered,same,storable,events',awards',key,awardKeyQ,kept,kept']
    · have key:event.eventKey≠q.event.ref.key:=fun is=>same (key_inj.mp (eventKey ▸ is))
      have awardKeyQ:award.awardKey≠awardKey sha q.award:=
       fun is=>same (distinct q listed (awardKey' ▸ is))
      rw[if_neg (fun both=>same both.1),Option.or_none]
      rw[Db.event?] at events'
      rw[Db.award?] at awards'
      simp[events',awards',key,awardKeyQ]
  · rw[if_neg (by simp[refused]),Option.or_none,Db.event?,Db.award?,sameEvents,sameAwards]
    exact ⟨events',awards'⟩

lemma run_answers (ps:List Publication)
 (distinct:∀p∈ps,∀q∈ps,awardKey sha p.award=awardKey sha q.award →
  p.identifier=q.identifier):Answers sha ps (run sha ps) ps:=by
 have prefixes:∀todo done,done++todo=ps→∀db,Answers sha ps db done →
   Answers sha ps (todo.foldl (step sha) db) ps:=by
  intro todo
  induction todo with
  | nil =>
   intro done all db answered
   rw[List.append_nil] at all
   exact all ▸ answered
  | cons p todo ih =>
   intro done all db answered
   have mem:p∈ps:=all ▸ List.mem_append_right _ List.mem_cons_self
   exact ih (done++[p]) (by simpa using all) _ (answered.step (distinct p mem) mem)
 refine prefixes ps [] rfl Db.empty fun p _=>?_
 exact ⟨rfl,rfl⟩

/-- A contract's rows say what its record says exactly when the first record of
its `id` does. -/
lemma holds_iff {db:Db}(answers:Answers sha ps db ps)
 {p:Publication}(mem:p∈ps):Holds sha db p ↔ Repeats sha ps p:=by
 obtain ⟨events,awards⟩:=answers p mem
 unfold Holds Repeats
 rw[events,awards]
 cases first:firstStored sha ps p with
 | none=>simp
 | some q =>
  obtain ⟨event,award,kept,kept'⟩:=storable_iff.mp (firstStored_some first).2.2
  have said:factsOf event award ={q.facts sha with amount:=(q.facts sha).amount.map (roundTo 2)}:=by
   rw[SourceEventRow.stored_eq kept,ContractAwardRow.stored_eq kept']
   rfl
  simp[kept,kept',said]

lemma identifier_of_awardKey
 (apart:∀p∈ps,∀q∈ps,p.pair≠q.pair→awardKey sha p.award≠awardKey sha q.award) :
 ∀p∈ps,∀q∈ps,awardKey sha p.award=awardKey sha q.award →p.identifier=q.identifier:=by
 intro p hp q hq same
 by_contra other
 exact apart p hp q hq (fun pair=>other (identifier_of_pair pair)) same

/-- Over every sequence of records: any two of different buyers or numbers are
both kept as facts exactly when their numbers differ, the digests of these do
not collide, and no record of the same number said something else before. -/
theorem decp_contracts_are_kept_iff (sha:Hexdigest)(ps:List Publication) :
 (∀p∈ps,∀q∈ps,p.pair≠q.pair→KeptApart sha (run sha ps) p q) ↔
  ∀p∈ps,∀q∈ps,p.pair≠q.pair→p.identifier≠q.identifier ∧
   awardKey sha p.award≠awardKey sha q.award ∧ Repeats sha ps p:=by
 constructor
 · intro kept p hp q hq other
   have distinct:=identifier_of_awardKey fun a ha b hb apart=>(kept a ha b hb apart).2.1
   obtain ⟨keys,digests,holds,-⟩:=kept p hp q hq other
   exact ⟨fun same=>keys (key_inj.mpr same),digests,
    (holds_iff (run_answers ps distinct) hp).mp holds⟩
 · intro condition p hp q hq other
   have distinct:=identifier_of_awardKey fun a ha b hb apart=>(condition a ha b hb apart).2.1
   have answers:=run_answers ps distinct
   obtain ⟨apart,digests,repeats⟩:=condition p hp q hq other
   obtain ⟨-,-,repeats'⟩:=condition q hq p hp (Ne.symm other)
   exact ⟨fun keys=>apart (key_inj.mp keys),digests,(holds_iff answers hp).mpr repeats,
    (holds_iff answers hq).mpr repeats'⟩

def parisRecord:Record:=
 [("id","2024-01"),("acheteur_id","21750001600019"),("titulaire_typeidentifiant_1","SIRET"),
  ("titulaire_id_1","30102983100031"),("montant","120000"),("datenotification","2024-03-01")]

def lyonRecord:Record:=
 [("id","2024-01"),("acheteur_id","21690123100011"),("titulaire_typeidentifiant_1","SIRET"),
  ("titulaire_id_1","44306184100047"),("montant","85000.50"),("datenotification","2024-05-14")]

lemma samples_accepted :
 (parseContract parisRecord none).isOk=true ∧ (parseContract lyonRecord none).isOk=true:=by
 decide +kernel

lemma accepted {record:Record}(h:(parseContract record none).isOk=true) :
 ∃p:Publication,p.record=record:=by
 cases read:parseContract record none with
 | error e =>
  rw[read] at h
  cases h
 | ok value=>exact ⟨⟨record,none,value.1,value.2,read,[],.unresolved⟩,rfl⟩

/-- The second contract is answered with the rows of the first: whatever is
written, one of the two does not hold its own facts. -/
theorem second_buyer_is_lost:∃paris lyon:Publication,paris.record=parisRecord ∧
 lyon.record=lyonRecord ∧ paris.pair≠lyon.pair ∧
  ∀sha,¬(Holds sha (run sha [paris,lyon]) paris ∧ Holds sha (run sha [paris,lyon]) lyon):=by
 obtain ⟨paris,first⟩:=accepted samples_accepted.1
 obtain ⟨lyon,second⟩:=accepted samples_accepted.2
 refine ⟨paris,lyon,first,second,?_,?_⟩
 · simp[Publication.pair,first,second,parisRecord,lyonRecord,Record.get]
 rintro sha ⟨⟨event,award,found,-,said⟩,⟨event',award',found',-,said'⟩⟩
 have left:=(parseContract_identity paris.parsed).2.2.2.2
 have right:=(parseContract_identity lyon.parsed).2.2.2.2
 have numbered:paris.identifier=lyon.identifier:=by
  have same:text (parisRecord.get "id")=text (lyonRecord.get "id"):=rfl
  rw[first,same,←second,right.1] at left
  exact (Option.some.inj left.1).symm
 rw[key_inj.mpr numbered,found'] at found
 cases found
 have bought:paris.event.procedureBuyers=lyon.event.procedureBuyers:=
  (congrArg Facts.buyers said).symm.trans (congrArg Facts.buyers said')
 rw[left.2,right.2,first,second] at bought
 exact absurd (congrArg (List.map fun o=>o.legalName.text) bought) (by decide +kernel)

end Kivou.DecpFacts
