import Kivou.ContactDiscovery

set_option autoImplicit false

/-! `Books.Inv` holds of the rows after every write. -/
namespace Kivou.ContactDiscovery
open AcquisitionContracts RunLedger

def Event.run?:Event→Option String
 | .contactSelected runId _ | .contactEnriching runId | .contactNextAction runId=>some runId
 | _=>none

def Event.isSelected:Event→Bool
 | .contactSelected _ _=>true
 | _=>false

def Run.Succeeded (run:Run):Prop:=∃outcome,run.outcome=some outcome ∧ outcome.status=.success

def ContactObservation.key (contact:ContactObservation):Provider × String × String:=
 (contact.provider,contact.providerPersonId,contact.supplierRef)

namespace Books

def Attached (b:Books)(ref:ContactRef)(run:RunStart):Prop:=
 ∃contact∈b.contacts,contact.ref=some ref ∧ contact.supplierRef=run.supplierRef ∧
  (contact.provider=.apollo →
   contact.providerOrganizationId=run.profile.providerOrganizationId)

structure Faithful (b:Books)(run:Run):Prop where
 selected:run.Succeeded ↔ ∃ref,.contactSelected run.id ref∈b.stream
 enriching:run.Succeeded ↔ .contactEnriching run.id∈b.stream
 nextAction:run.Succeeded ↔ .contactNextAction run.id∈b.stream

structure Inv (b:Books):Prop where
 runs:b.runs.Inv
 keys:(b.contacts.map (·.key)).Nodup
 once:b.stream.countP Event.isSelected≤1
 current:∀runId ref,.contactSelected runId ref∈b.stream →b.opportunity.contactRef=some ref
 faithful:∀run∈b.runs.rows,b.Faithful run
 known:∀event∈b.stream,∀runId,event.run?=some runId →∃run∈b.runs.rows,run.id=runId
 attached:∀runId ref,.contactSelected runId ref∈b.stream →
  ∃run∈b.runs.rows,run.id=runId ∧ b.Attached ref run.start
 searches:b.runs.Within b.searches fun _=>1
 enrichments:b.runs.Within b.enrichments fun run=>run.profile.maxEnrichmentAttempts

/-- What a write of `call` leaves to the other calls. -/
structure Later (call:ℕ)(b b':Books):Prop where
 runs:b.runs.Later call b'.runs
 searches:∀other,other≠call →b'.searches.countP (·.1=other)=b.searches.countP (·.1=other)
 enrichments:∀other,other≠call →b'.enrichments.countP (·.1=other)=b.enrichments.countP (·.1=other)

structure Aside (b:Books)(opportunity:Opportunity)(stream:List Event):Prop where
 contact:opportunity.contactRef=b.opportunity.contactRef
 events:∀event:Event,event.run?.isSome→(event∈stream ↔ event∈b.stream)
 selected:stream.countP Event.isSelected=b.stream.countP Event.isSelected

variable {b b':Books}{call:ℕ}{runId:String}{run:RunStart}

lemma Attached.frame {ref:ContactRef}(attached:b.Attached ref run)
 (kept:∀contact∈b.contacts,∃contact'∈b'.contacts,contact'.key=contact.key ∧
  contact'.providerOrganizationId=contact.providerOrganizationId):b'.Attached ref run:=by
 obtain ⟨contact,mem,is,supplier,employs⟩:=attached
 obtain ⟨contact',mem',keyed,employed⟩:=kept contact mem
 obtain ⟨provider,person,refs⟩:contact'.provider=contact.provider ∧
   contact'.providerPersonId=contact.providerPersonId ∧
   contact'.supplierRef=contact.supplierRef:=by
  simpa[ContactObservation.key] using keyed
 refine ⟨contact',mem',?_,refs.trans supplier,fun apollo=>?_⟩
 · rw[ContactObservation.ref,provider,person,refs]
   exact is
 · exact employed.trans (employs (provider ▸ apollo))

lemma Faithful.frame {before after:Run}(faithful:b.Faithful before)
 (same:after.id=before.id)(outcome:after.outcome=before.outcome)
 (events:∀event:Event,event.run?=some before.id →
  (event∈b'.stream ↔ event∈b.stream)):b'.Faithful after:=by
 have succeeded:after.Succeeded ↔ before.Succeeded:=by
  unfold Run.Succeeded
  rw[outcome]
 constructor
 · rw[succeeded,faithful.selected,same]
   exact exists_congr fun ref=>(events _ rfl).symm
 · rw[succeeded,faithful.enriching,same]
   exact (events _ rfl).symm
 · rw[succeeded,faithful.nextAction,same]
   exact (events _ rfl).symm

lemma Faithful.fresh {run:Run}(unended:¬run.Succeeded)
 (unnamed:∀event∈b.stream,event.run?≠some run.id):b.Faithful run:=
 ⟨iff_of_false unended fun ⟨_,mem⟩=>unnamed _ mem rfl,
  iff_of_false unended fun mem=>unnamed _ mem rfl,
  iff_of_false unended fun mem=>unnamed _ mem rfl⟩

lemma Inv.unnamed (inv:b.Inv){run:Run}(mem:run∈b.runs.rows)
 (unended:¬run.Succeeded):∀event∈b.stream,event.run?≠some run.id:=by
 have faithful:=inv.faithful run mem
 intro event there named
 cases event with
 | contactSelected runId ref =>
  obtain rfl:=Option.some.inj named
  exact unended (faithful.selected.mpr ⟨ref,there⟩)
 | contactEnriching runId =>
  obtain rfl:=Option.some.inj named
  exact unended (faithful.enriching.mpr there)
 | contactNextAction runId =>
  obtain rfl:=Option.some.inj named
  exact unended (faithful.nextAction.mpr there)
 | policyEvaluated | contactHumanReview | contactProfileRequeue=>cases named

lemma append_some {event:Event}{version:ℕ}{reduce:Opportunity→Opportunity}
 (appended:b.append event version reduce=some b') :
 (event∈b.stream ∧ b'=b) ∨ (event∉b.stream ∧ b'={b with
  opportunity:={reduce b.opportunity with streamVersion:=version+1}
  stream:=b.stream++[event]}):=by
 unfold append at appended
 split at appended
 · rename_i there
   exact .inl ⟨there,(Option.some.inj appended).symm⟩
 · rename_i absent
   split at appended
   · exact .inr ⟨absent,(Option.some.inj appended).symm⟩
   · cases appended

lemma Aside.refl (b:Books):b.Aside b.opportunity b.stream:=⟨rfl,fun _ _=>Iff.rfl,rfl⟩

lemma append_aside {event:Event}{version:ℕ}{reduce:Opportunity→Opportunity}
 (appended:b.append event version reduce=some b')(unnamed:event.run?=none)
 (contact:∀opportunity,(reduce opportunity).contactRef=opportunity.contactRef) :
 ∃opportunity stream,b'={b with opportunity,stream} ∧ b.Aside opportunity stream:=by
 rcases append_some appended with ⟨-,rfl⟩|⟨-,rfl⟩
 · exact ⟨b'.opportunity,b'.stream,rfl,.refl b'⟩
 · refine ⟨_,_,rfl,contact b.opportunity,fun other named=>?_,?_⟩
   · have differs:other≠event:=by
      rintro rfl
      rw[unnamed] at named
      cases named
     simp[differs]
   · have unselected:event.isSelected=false:=by
      cases event <;> first | rfl | cases unnamed
     simp[List.countP_append,unselected]

variable {opportunity:Opportunity}{runs:Ledger String RunStart Outcome}
 {observation:ContactObservation}{outcome:Outcome}{counters:Counters}{stored:Bool}

lemma Inv.aside (inv:b.Inv){stream:List Event}
 {evaluations:List Evaluation}(aside:b.Aside opportunity stream) :
 Inv {b with opportunity,stream,evaluations} where
 __:=inv
 once:=aside.selected.trans_le inv.once
 current:=fun runId ref mem=>
  aside.contact.trans (inv.current runId ref ((aside.events _ rfl).mp mem))
 faithful:=fun run mem=>(inv.faithful run mem).frame rfl rfl fun event named=>
  aside.events event (by rw[named];rfl)
 known:=fun event mem runId named=>
  inv.known event ((aside.events event (by rw[named];rfl)).mp mem) runId named
 attached:=fun runId ref mem=>inv.attached runId ref ((aside.events _ rfl).mp mem)

lemma Later.aside (call:ℕ){stream:List Event}
 {evaluations:List Evaluation}:b.Later call {b with opportunity,stream,evaluations}:=
 ⟨.refl call b.runs,fun _ _=>rfl,fun _ _=>rfl⟩

lemma evaluate_some {evaluation found:Evaluation}
 (evaluated:b.evaluate evaluation=some (found,b')) :
 ∃opportunity stream evaluations,b'={b with opportunity,stream,evaluations} ∧
  b.Aside opportunity stream:=by
 unfold evaluate at evaluated
 cases is:b.evaluation? evaluation.evaluationId with
 | some existing =>
  rw[is] at evaluated
  dsimp only at evaluated
  split at evaluated
  · obtain ⟨-,rfl⟩:=Prod.mk.inj (Option.some.inj evaluated)
    exact ⟨b.opportunity,b.stream,b.evaluations,rfl,.refl b⟩
  · cases evaluated
 | none =>
  rw[is] at evaluated
  obtain ⟨appended,inserts,same⟩:=Option.map_eq_some_iff.mp evaluated
  obtain ⟨-,rfl⟩:=Prod.mk.inj same
  obtain ⟨opportunity,stream,rfl,aside⟩:=append_aside inserts rfl fun _=>rfl
  exact ⟨opportunity,stream,_,rfl,aside.contact,aside.events,aside.selected⟩

lemma requeueProfileUpgrade_some {env:Env}{sourceVersion:String}{profile:SearchProfile}
 {current:Opportunity}
 (requeued:b.requeueProfileUpgrade env sourceVersion profile=some (current,b')) :
 ∃opportunity stream,b'={b with opportunity,stream} ∧ b.Aside opportunity stream:=by
 have unchanged:some (b.opportunity,b)=some (current,b') →
   ∃opportunity stream,b'={b with opportunity,stream} ∧ b.Aside opportunity stream:=by
  intro same
  obtain ⟨-,rfl⟩:=Prod.mk.inj (Option.some.inj same)
  exact ⟨b.opportunity,b.stream,rfl,.refl b⟩
 unfold requeueProfileUpgrade at requeued
 split at requeued
 · exact unchanged requeued
 · dsimp only at requeued
   split at requeued
   · split at requeued
     · obtain ⟨after,appended,rest⟩:=Option.bind_eq_some_iff.mp requeued
       split at rest
       · obtain ⟨-,rfl⟩:=Prod.mk.inj (Option.some.inj rest)
         exact append_aside appended rfl fun _=>rfl
       · cases rest
     · exact unchanged requeued
   · exact unchanged requeued

lemma startRun_some {start:RunStart}(started:b.startRun call runId start=some b') :
 (∀row∈b.runs.rows,row.id≠runId) ∧
  b'={b with runs:=b.runs.start call runId start}:=by
 unfold startRun at started
 split at started
 · rename_i free
   exact ⟨Ledger.row?_none (Option.isNone_iff_eq_none.mp free.1),(Option.some.inj started).symm⟩
 · cases started

lemma Inv.known_later (inv:b.Inv)
 (later:b.runs.Later call runs):∀event∈b.stream,∀runId,event.run?=some runId →
  ∃run∈runs.rows,run.id=runId:=by
 intro event mem runId named
 obtain ⟨row,there,is⟩:=inv.known event mem runId named
 obtain ⟨row',there',same,-⟩:=later.rows row there
 exact ⟨row',there',same.trans is⟩

lemma Inv.ledger (inv:b.Inv)(kept:runs.Inv)
 (later:b.runs.Later call runs)(faithful:∀row∈runs.rows,b.Faithful row) :
 Inv {b with runs} where
 runs:=kept
 __:=inv
 faithful:=fun row mem=>(faithful row mem).frame rfl rfl fun _ _=>Iff.rfl
 known:=inv.known_later later
 attached:=by
  intro runId ref mem
  obtain ⟨row,there,is,attached⟩:=inv.attached runId ref mem
  obtain ⟨row',there',same,starts,-⟩:=later.rows row there
  exact ⟨row',there',same.trans is,starts ▸ attached⟩
 searches:=inv.searches.later later
 enrichments:=inv.enrichments.later later

lemma Later.ledger (later:b.runs.Later call runs) :
 b.Later call {b with runs}:=⟨later,fun _ _=>rfl,fun _ _=>rfl⟩

lemma Inv.started (inv:b.Inv){start:RunStart}
 (started:b.startRun call runId start=some b')(idle:b.runs.Idle call) :
 b'.Inv ∧ b.Later call b' ∧ b'.runs.Owns call runId start:=by
 obtain ⟨free,rfl⟩:=startRun_some started
 refine ⟨inv.ledger (inv.runs.started free idle) .started fun row mem=>?_,.ledger .started,
  Ledger.owns_start⟩
 rcases Ledger.mem_start.mp mem with mem|rfl
 · exact inv.faithful row mem
 · refine .fresh ?_ fun event there named=>?_
   · rintro ⟨outcome,is,-⟩
     cases is
   · obtain ⟨row,here,is⟩:=inv.known event there _ named
     exact free row here is

lemma Inv.claimed (inv:b.Inv)(claimed:b.claimRecovery call runId=some (run,b'))
 (idle:b.runs.Idle call) :
 b'.Inv ∧ b.Later call b' ∧ b'.runs.Owns call runId run:=by
 obtain ⟨⟨start,runs⟩,claims,same⟩:=Option.map_eq_some_iff.mp claimed
 obtain ⟨rfl,rfl⟩:=Prod.mk.inj same
 obtain ⟨kept,later,owns⟩:=inv.runs.claimed claims idle
 refine ⟨inv.ledger kept later fun row mem=>?_,.ledger later,owns⟩
 obtain ⟨before,there,is,-,outcome⟩:=Ledger.claimed_rows claims mem
 exact (inv.faithful before there).frame is.symm outcome.symm fun _ _=>Iff.rfl

lemma Later.searched:b.Later call {b with searches:=b.searches++[(call,runId)]} where
 runs:=.refl call b.runs
 searches:=fun other apart=>by rw[Ledger.countP_spent,if_neg apart.symm,Nat.add_zero]
 enrichments:=fun _ _=>rfl

lemma Later.enriched : b.Later call {b with enrichments:=b.enrichments++[(call,runId)]} where
 runs:=.refl call b.runs
 searches:=fun _ _=>rfl
 enrichments:=fun other apart=>by rw[Ledger.countP_spent,if_neg apart.symm,Nat.add_zero]

lemma Inv.requested (inv:b.Inv){searches enrichments:List (ℕ × String)}
 (asked:b.runs.Within searches fun _=>1)
 (tried:b.runs.Within enrichments fun run=>run.profile.maxEnrichmentAttempts) :
 Inv {b with searches,enrichments} where
 __:=inv
 faithful:=fun row mem=>(inv.faithful row mem).frame rfl rfl fun _ _=>Iff.rfl
 searches:=asked
 enrichments:=tried

lemma Inv.searched (inv:b.Inv)(owns:b.runs.Owns call runId run)
 (unsearched:b.searches.countP (·.1=call)=0) :
 Inv {b with searches:=b.searches++[(call,runId)]}:=
 inv.requested (inv.searches.spent inv.runs owns (by rw[unsearched])) inv.enrichments

lemma Inv.enriched (inv:b.Inv)(owns:b.runs.Owns call runId run)
 (few:b.enrichments.countP (·.1=call)+1≤run.profile.maxEnrichmentAttempts) :
 Inv {b with enrichments:=b.enrichments++[(call,runId)]}:=
 inv.requested inv.searches (inv.enrichments.spent inv.runs owns few)

lemma upsertContact_ok {persisted:ContactObservation}
 {contacts:List ContactObservation}(keys:(b.contacts.map (·.key)).Nodup)
 (upserted:b.upsertContact observation=.ok (persisted,contacts)) :
 persisted.key=observation.key ∧
  persisted.providerOrganizationId=observation.providerOrganizationId ∧
  persisted∈contacts ∧ (contacts.map (·.key)).Nodup ∧
  ∀contact∈b.contacts,∃contact'∈contacts,contact'.key=contact.key ∧
   contact'.providerOrganizationId=contact.providerOrganizationId:=by
 have employed (row:ContactObservation):(row.provider==observation.provider &&
   row.providerPersonId==observation.providerPersonId &&
   row.supplierRef==observation.supplierRef)=(row.key==observation.key):=by
  rw[Bool.eq_iff_iff]
  simp[ContactObservation.key,and_assoc]
 unfold upsertContact at upserted
 cases named:observation.ref with
 | none =>
  rw[named] at upserted
  cases upserted
 | some ref =>
  rw[named] at upserted
  simp only[employed] at upserted
  cases is:b.contacts.find? fun row=>row.key==observation.key with
  | none =>
   rw[is] at upserted
   dsimp only at upserted
   split at upserted
   · cases upserted
   · obtain ⟨rfl,rfl⟩:=Prod.mk.inj (Except.ok.inj upserted)
     refine ⟨rfl,rfl,List.mem_append_right _ (List.mem_singleton_self _),?_,
      fun contact mem=>⟨contact,List.mem_append_left _ mem,rfl,rfl⟩⟩
     rw[List.map_append,List.nodup_append]
     refine ⟨keys,List.nodup_singleton _,fun key mem new same=>?_⟩
     obtain ⟨row,there,rfl⟩:=List.mem_map.mp mem
     obtain rfl:=List.mem_singleton.mp same
     simpa using List.find?_eq_none.mp is row there
  | some row =>
   rw[is] at upserted
   dsimp only at upserted
   obtain ⟨there,keyed⟩:=Tables.find?_key is
   split at upserted
   · cases upserted
   · rename_i employs
     have organization:=not_not.mp employs
     have kept:∀contact∈b.contacts,∃contact'∈b.contacts,contact'.key=contact.key ∧
       contact'.providerOrganizationId=contact.providerOrganizationId:=
      fun contact mem=>⟨contact,mem,rfl,rfl⟩
     split at upserted
     · obtain ⟨rfl,rfl⟩:=Prod.mk.inj (Except.ok.inj upserted)
       exact ⟨keyed,organization,there,keys,kept⟩
     · split at upserted
       · split at upserted
         · obtain ⟨rfl,rfl⟩:=Prod.mk.inj (Except.ok.inj upserted)
           exact ⟨keyed,organization,there,keys,kept⟩
         · cases upserted
       · obtain ⟨rfl,rfl⟩:=Prod.mk.inj (Except.ok.inj upserted)
         have same:∀other∈b.contacts,other.key=observation.key → other=row:=
          fun other mem is=>List.inj_on_of_nodup_map keys mem there (is.trans keyed.symm)
         refine ⟨rfl,rfl,?_,?_,fun contact mem=>⟨_,List.mem_map_of_mem mem,?_⟩⟩
         · exact List.mem_map.mpr ⟨row,there,by simp[keyed]⟩
         · have columns:(Tables.update (fun other=>other.key==observation.key)
             (fun _=>observation) b.contacts).map (·.key)=b.contacts.map (·.key):=
            Tables.map_key_update fun other _ is=>(beq_iff_eq.mp is).symm
           exact columns ▸ keys
         · split
           · rename_i named
             have its:contact.key=observation.key:=by simpa using named
             obtain rfl:=same contact mem its
             exact ⟨its.symm,organization.symm⟩
           · exact ⟨rfl,rfl⟩

lemma Inv.contacts (inv:b.Inv){contacts:List ContactObservation} (keys:(contacts.map (·.key)).Nodup)
 (kept:∀contact∈b.contacts,∃contact'∈contacts,contact'.key=contact.key ∧
  contact'.providerOrganizationId=contact.providerOrganizationId) :
 Inv {b with contacts} where
 __:=inv
 keys:=keys
 faithful:=fun row mem=>(inv.faithful row mem).frame rfl rfl fun _ _=>Iff.rfl
 attached:=by
  intro runId ref mem
  obtain ⟨row,there,is,attached⟩:=inv.attached runId ref mem
  exact ⟨row,there,is,attached.frame kept⟩

lemma finishRun_some (finished:b.finishRun runId outcome=some b') :
 ∃runs,b.runs.close runId outcome=some runs ∧ b'={b with runs}:=by
 unfold finishRun at finished
 split at finished
 · obtain ⟨runs,closes,rfl⟩:=Option.map_eq_some_iff.mp finished
   exact ⟨runs,closes,rfl⟩
 · cases finished

lemma Run.not_succeeded {run:Run}(isOpen:run.outcome=none):¬run.Succeeded:=by
 rintro ⟨outcome,is,-⟩
 rw[isOpen] at is
 cases is

lemma Inv.finished (inv:b.Inv)(finished:b.finishRun runId outcome=some b')
 (owner:(call,runId)∈b.runs.owners)(unended:outcome.status≠.success) :
 b'.Inv ∧ b.Later call b' ∧ b'.runs.Closed runId:=by
 obtain ⟨runs,closes,rfl⟩:=finishRun_some finished
 obtain ⟨kept,later,closed⟩:=inv.runs.closed closes owner
 refine ⟨inv.ledger kept later fun row mem=>?_,.ledger later,closed⟩
 rcases inv.runs.closed_rows closes mem with ⟨there,-⟩|⟨before,there,-,isOpen,rfl⟩
 · exact inv.faithful row there
 · have unnamed:=inv.unnamed there (Run.not_succeeded isOpen)
   refine .fresh ?_ unnamed
   rintro ⟨outcome',is,succeeded⟩
   obtain rfl:=Option.some.inj is
   exact unended succeeded

lemma completeWithoutContact_ok {status:RunStatus}
 (completed:b.completeWithoutContact runId run status counters stored=.ok b') :
 ∃opportunity stream,b.Aside opportunity stream ∧
  finishRun {b with opportunity,stream} runId ⟨status,none,counters,none⟩ =
   some b':=by
 unfold completeWithoutContact at completed
 split at completed
 · split at completed
   · cases completed
   · rename_i after appended
     obtain ⟨opportunity,stream,rfl,aside⟩:=append_aside appended rfl fun _=>rfl
     refine ⟨opportunity,stream,aside,?_⟩
     split at completed
     · rename_i done finished
       split at completed
       · obtain rfl:=Except.ok.inj completed
         exact finished
       · cases completed
     · cases completed
 · cases completed

lemma Inv.completed (inv:b.Inv){status:RunStatus}
 (completed:b.completeWithoutContact runId run status counters stored=.ok b')
 (owner:(call,runId)∈b.runs.owners)
 (unended:status≠.success):b'.Inv ∧ b.Later call b' ∧ b'.runs.Closed runId:=by
 obtain ⟨opportunity,stream,aside,finished⟩:=completeWithoutContact_ok completed
 obtain ⟨kept,later,closed⟩:=Inv.finished (inv.aside aside) finished owner unended
 exact ⟨kept,⟨later.runs,later.searches,later.enrichments⟩,closed⟩

lemma attach_some {ref:ContactRef}(attached:b.attach runId run ref=some b')
 (unnamed:∀event∈b.stream,event.run?≠some runId) :
 ∃opportunity stream,opportunity.contactRef=some ref ∧ stream=b.stream ++
   [.contactSelected runId ref,.contactEnriching runId,.contactNextAction runId] ∧
  b'={b with opportunity,stream}:=by
 obtain ⟨second,attaches,third⟩:=Option.bind_eq_some_iff.mp attached
 obtain ⟨first,selects,enriches⟩:=Option.bind_eq_some_iff.mp attaches
 rcases append_some selects with ⟨there,-⟩|⟨-,rfl⟩
 · exact absurd rfl (unnamed _ there)
 · rcases append_some enriches with ⟨there,-⟩|⟨-,rfl⟩
   · rcases List.mem_append.mp there with there|new
     · exact absurd rfl (unnamed _ there)
     · cases List.mem_singleton.mp new
   · rcases append_some third with ⟨there,-⟩|⟨-,rfl⟩
     · simp only[List.append_assoc,List.mem_append,List.mem_cons,reduceCtorEq,
        List.not_mem_nil,or_false] at there
       exact absurd rfl (unnamed _ there)
     · exact ⟨_,_,rfl,by simp only[List.append_assoc,List.cons_append,List.nil_append],rfl⟩

lemma commitSuccess_ok (committed:b.commitSuccess runId run observation counters stored=.ok b') :
 ∃persisted contacts ref attached,b.opportunity.isPostPolicy run=true ∧
  b.upsertContact observation=.ok (persisted,contacts) ∧ persisted.ref=some ref ∧
  b.opportunity.supplierRef=some persisted.supplierRef ∧
  attach {b with contacts} runId run ref=some attached ∧
  attached.finishRun runId ⟨.success,some ref,counters,none⟩=some b':=by
 unfold commitSuccess at committed
 split at committed
 · rename_i post
   split at committed
   · cases committed
   · rename_i persisted contacts upserted
     split at committed
     · cases committed
     · rename_i ref named
       split at committed
       · rename_i attachable
         split at committed
         · cases committed
         · rename_i attached attaches
           split at committed
           · rename_i done finished
             split at committed
             · obtain rfl:=Except.ok.inj committed
               exact ⟨persisted,contacts,ref,attached,post,upserted,named,attachable.1,
                attaches,finished⟩
             · cases committed
           · cases committed
       · cases committed
 · cases committed

lemma isPostPolicy_supplier (post:opportunity.isPostPolicy run=true) :
 opportunity.contactRef=none ∧ opportunity.supplierRef=some run.supplierRef:=by
 simp only[Opportunity.isPostPolicy,Opportunity.isActionable,Bool.and_eq_true,beq_iff_eq,
  Option.isNone_iff_eq_none] at post
 exact ⟨post.1.1.1.2,post.2⟩

lemma Inv.committed (inv:b.Inv)
 (committed:b.commitSuccess runId run observation counters stored=.ok b')
 (owns:b.runs.Owns call runId run)(employs:observation.provider=.apollo →
  observation.providerOrganizationId=run.profile.providerOrganizationId) :
 b'.Inv ∧ b.Later call b' ∧ b'.runs.Closed runId:=by
 obtain ⟨persisted,contacts,ref,attached,post,upserted,named,supplied,attaches,
  finished⟩:=commitSuccess_ok committed
 obtain ⟨keyed,organization,stored,keys,kept⟩:=upsertContact_ok inv.keys upserted
 obtain ⟨free,supplier⟩:=isPostPolicy_supplier post
 obtain ⟨row,mem,rfl,rfl⟩:=owns.row
 -- no contact was attached before, so no event names the run
 have unselected:∀runId ref,.contactSelected runId ref∉b.stream:=by
  intro runId ref there
  have current:=inv.current runId ref there
  rw[free] at current
  cases current
 have unended:¬Run.Succeeded row:=fun succeeded=>
  let ⟨_,there⟩:=(inv.faithful row mem).selected.mp succeeded
  unselected _ _ there
 have unnamed:=inv.unnamed mem unended
 obtain ⟨opportunity,stream,current,rfl,rfl⟩:=attach_some attaches unnamed
 obtain ⟨runs,closes,rfl⟩:=finishRun_some finished
 obtain ⟨runsInv,later,closed⟩:=inv.runs.closed closes owns.granted
 refine ⟨?_,⟨later,fun _ _=>rfl,fun _ _=>rfl⟩,closed⟩
 have events:∀event,event∈b.stream++[.contactSelected row.id ref,
   .contactEnriching row.id,.contactNextAction row.id] ↔ event∈b.stream ∨
   event=.contactSelected row.id ref ∨ event=.contactEnriching row.id ∨
   event=.contactNextAction row.id:=by simp
 constructor
 · exact runsInv
 · exact keys
 · have none:b.stream.countP Event.isSelected=0:=by
    rw[List.countP_eq_zero]
    intro event there
    cases event with
    | contactSelected runId ref=>exact absurd there (unselected runId ref)
    | _=>exact Bool.false_ne_true
   simp[List.countP_append,List.countP_cons,none,Event.isSelected]
 · intro runId ref' there
   rcases (events _).mp there with there|is|is|is
   · exact absurd there (unselected runId ref')
   · rw[(Event.contactSelected.inj is).2]
     exact current
   · cases is
   · cases is
 · intro run there
   rcases inv.runs.closed_rows closes there with ⟨earlier,differs⟩|⟨before,-,is,-,rfl⟩
   · refine (inv.faithful run earlier).frame rfl rfl fun event its=>(events event).trans ?_
     refine or_iff_left ?_
     rintro (rfl|rfl|rfl) <;> exact differs (Option.some.inj its).symm
   · have succeeded:Run.Succeeded {before with
       outcome:=some ⟨.success,some ref,counters,none⟩}:=⟨_,rfl,rfl⟩
     constructor <;> refine iff_of_true succeeded ?_
     · exact ⟨ref,(events _).mpr (.inr (.inl (is ▸ rfl)))⟩
     · exact (events _).mpr (.inr (.inr (.inl (is ▸ rfl))))
     · exact (events _).mpr (.inr (.inr (.inr (is ▸ rfl))))
 · intro event there runId its
   obtain ⟨row',there',same,-⟩:=later.rows row mem
   rcases (events event).mp there with there|rfl|rfl|rfl
   · exact inv.known_later later event there runId its
   · exact ⟨row',there',same.trans (Option.some.inj its)⟩
   · exact ⟨row',there',same.trans (Option.some.inj its)⟩
   · exact ⟨row',there',same.trans (Option.some.inj its)⟩
 · intro runId ref' there
   rcases (events _).mp there with there|is|is|is
   · exact absurd there (unselected runId ref')
   · obtain ⟨rfl,rfl⟩:=Event.contactSelected.inj is
     obtain ⟨row',there',same,starts,-⟩:=later.rows row mem
     refine ⟨row',there',same,persisted,stored,named,?_,fun apollo=>?_⟩
     · rw[starts]
       exact Option.mem_unique supplied supplier
     · rw[starts,organization]
       exact employs ((congrArg Prod.fst keyed).symm.trans apollo)
   · cases is
   · cases is
 · exact inv.searches.later later
 · exact inv.enrichments.later later

lemma ref_of_key {contact:ContactObservation}
 (keyed:contact.key=observation.key):contact.ref=observation.ref:=by
 obtain ⟨provider,person,supplier⟩:contact.provider=observation.provider ∧
   contact.providerPersonId=observation.providerPersonId ∧
   contact.supplierRef=observation.supplierRef:=by
  simpa[ContactObservation.key] using keyed
 rw[ContactObservation.ref,provider,person,supplier]
 rfl

lemma upsertContact_raised
 (raised:b.upsertContact observation=.error .raised):observation.ref=none:=by
 unfold upsertContact at raised
 cases named:observation.ref with
 | none=>rfl
 | some ref =>
  rw[named] at raised
  dsimp only at raised
  split at raised
  · split at raised <;> cases raised
  · split at raised
    · cases raised
    · split at raised
      · cases raised
      · split at raised
        · split at raised <;> cases raised
        · cases raised

lemma Inv.commitSuccess_raised (inv:b.Inv)
 (raised:b.commitSuccess runId run observation counters stored=.error .raised) :
 observation.ref=none:=by
 unfold commitSuccess at raised
 split at raised
 · split at raised
   · rename_i failure upserted
     obtain rfl:=Except.error.inj raised
     exact upsertContact_raised upserted
   · rename_i persisted contacts upserted
     split at raised
     · rename_i unnamed
       exact (ref_of_key (upsertContact_ok inv.keys upserted).1).symm.trans unnamed
     · split at raised
       · split at raised
         · cases raised
         · split at raised
           · split at raised <;> cases raised
           · cases raised
       · cases raised
 · cases raised

/-- A run that `call` has open is closed by another call that has it too. -/
lemma Inv.closed_of_unfinished (inv:b.Inv)
 (owns:b.runs.Owns call runId run)(fit:outcome.counters.fit=true)
 (refused:b.finishRun runId outcome=none) :
 b.runs.Closed runId ∧ ∃other,other≠call ∧ (other,runId)∈b.runs.owners:=by
 obtain ⟨row,mem,rfl,-⟩:=owns.row
 rw[finishRun,if_pos fit,Option.map_eq_none_iff] at refused
 have closed:=Ledger.closed_of_none inv.runs mem refused
 refine ⟨closed,owns.held.resolve_left ?_⟩
 rintro ⟨row',mem',same,isOpen⟩
 obtain rfl:=inv.runs.unique mem' mem same
 obtain ⟨row,there,is,ended⟩:=closed
 obtain rfl:=inv.runs.unique there mem' is
 rw[isOpen] at ended
 cases ended

end Books
end Kivou.ContactDiscovery
