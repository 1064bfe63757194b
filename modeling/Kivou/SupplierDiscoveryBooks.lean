import Kivou.SupplierDiscovery

set_option autoImplicit false

/-! `Books.Inv` holds of the rows after every write. -/
namespace Kivou.SupplierDiscovery
open RunLedger SireneSearch

structure Fits (run:RunStart)(counters:Counters):Prop where
 pages:counters.pagesRequested≤run.profile.maxPages
 accepted:counters.recordsAccepted≤run.profile.candidateCap
 families:∀family∈run.profile.supplierFamilyKeys,counters.familyTargets.count family≤25

def familyCap (family:String)(run:RunStart):ℕ:=
 if family∈run.profile.supplierFamilyKeys then 25 else run.profile.candidateCap

structure Alike (run:RunStart)(profile:SupplierSearchProfile):Prop where
 pages:profile.maxPages=run.profile.maxPages
 cap:profile.candidateCap=run.profile.candidateCap
 keys:profile.supplierFamilyKeys=run.profile.supplierFamilyKeys

def Acceptance.entry (acceptance:Acceptance):ℕ × String:=(acceptance.call,acceptance.runId)

namespace Books

def acceptances (b:Books):List (ℕ × String):=b.accepted.map Acceptance.entry

def acceptancesOf (b:Books)(family:String):List (ℕ × String):=
 (b.accepted.filter (·.family=some family)).map Acceptance.entry

def mine (b:Books)(call:ℕ):List Acceptance:=b.accepted.filter (·.call=call)

structure Inv (b:Books):Prop where
 runs:b.runs.Inv
 identities:(b.opportunities.map (·.identityKey)).Nodup
 pages:b.runs.Within b.pages fun run=>run.profile.maxPages
 accepted:b.runs.Within b.acceptances fun run=>run.profile.candidateCap
 families:∀family,b.runs.Within (b.acceptancesOf family) (familyCap family)
 recorded:∀run∈b.runs.rows,∀outcome,run.outcome=some outcome →Fits run.start outcome.counters

/-- What a write of `call` leaves to the other calls. -/
structure Later (call:ℕ)(b b':Books):Prop where
 runs:b.runs.Later call b'.runs
 pages:∀other,other≠call →b'.pages.countP (·.1=other)=b.pages.countP (·.1=other)
 accepted:∀other,other≠call→b'.mine other=b.mine other

structure Spent (b:Books)(call:ℕ)(counters:Counters):Prop where
 pages:b.pages.countP (·.1=call)=counters.pagesRequested
 accepted:(b.mine call).length=counters.recordsAccepted
 families:∀family,(b.mine call).countP (·.family=some family)=counters.familyTargets.count family

variable {b b':Books}{call:ℕ}{runId:String}{run:RunStart}

lemma acceptances_mine:b.acceptances.countP (·.1=call)=(b.mine call).length:=by
 rw[acceptances,mine,List.countP_map,←List.countP_eq_length_filter]
 rfl

lemma acceptancesOf_mine {family:String} : (b.acceptancesOf family).countP (·.1=call) =
  (b.mine call).countP (·.family=some family):=by
 rw[acceptancesOf,mine,List.countP_map,List.countP_filter,List.countP_filter]
 refine List.countP_congr fun acceptance _=>?_
 rw[Bool.and_comm]
 rfl

lemma Later.ledger {runs:Ledger String RunStart Outcome}(later:b.runs.Later call runs) :
 b.Later call {b with runs}:=⟨later,fun _ _=>rfl,fun _ _=>rfl⟩

variable {family:Option String}{counters:Counters}{suppliers:List SupplierUpserts.Ref}
 {opportunities:List Opportunity}

lemma Spent.later {other:ℕ}(spent:b.Spent other counters)
 (later:b.Later call b')(apart:other≠call):b'.Spent other counters:=by
 have mine:=later.accepted other apart
 exact ⟨(later.pages other apart).trans spent.pages,mine ▸ spent.accepted,mine ▸ spent.families⟩

lemma Inv.unspent (inv:b.Inv)(idle:b.runs.Idle call):b.Spent call {}:=by
 have none:b.mine call=[]:=by
  rw[←List.length_eq_zero_iff,←acceptances_mine]
  exact inv.accepted.unspent idle
 exact ⟨inv.pages.unspent idle,by rw[none];rfl,fun family=>by rw[none];rfl⟩

lemma Inv.ledger (inv:b.Inv){runs:Ledger String RunStart Outcome}(kept:runs.Inv)
 (later:b.runs.Later call runs)
 (recorded:∀run∈runs.rows,∀outcome,run.outcome=some outcome →
  Fits run.start outcome.counters):Inv {b with runs} where
 runs:=kept
 identities:=inv.identities
 pages:=inv.pages.later later
 accepted:=inv.accepted.later later
 families:=fun family=>(inv.families family).later later
 recorded:=recorded

lemma evaluate_some {evaluation found:Evaluation}
 (evaluated:b.evaluate evaluation=some (found,b')) :
 ∃evaluations,b'={b with evaluations}:=by
 unfold evaluate at evaluated
 split at evaluated
 · split at evaluated
   · obtain ⟨-,rfl⟩:=Prod.mk.inj (Option.some.inj evaluated)
     exact ⟨b.evaluations,rfl⟩
   · cases evaluated
 · obtain ⟨-,rfl⟩:=Prod.mk.inj (Option.some.inj evaluated)
   exact ⟨_,rfl⟩

lemma Inv.evaluated (inv:b.Inv){evaluations:List Evaluation} :
 Inv {b with evaluations}:=
 ⟨inv.runs,inv.identities,inv.pages,inv.accepted,inv.families,inv.recorded⟩

lemma Inv.started (inv:b.Inv){start:RunStart}
 (started:b.startRun call runId start=some b')(idle:b.runs.Idle call) :
 b'.Inv ∧ b.Later call b' ∧ b'.runs.Owns call runId start ∧ b'.Spent call {}:=by
 have unspent:=inv.unspent idle
 unfold startRun at started
 split at started
 · rename_i free
   obtain rfl:=Option.some.inj started
   have fresh:=Ledger.row?_none (Option.isNone_iff_eq_none.mp free.1)
   refine ⟨inv.ledger (inv.runs.started fresh idle) .started fun row mem outcome is=>?_,
    .ledger .started,Ledger.owns_start,unspent.pages,unspent.accepted,unspent.families⟩
   rcases Ledger.mem_start.mp mem with mem|rfl
   · exact inv.recorded row mem outcome is
   · cases is
 · cases started

lemma Inv.claimed (inv:b.Inv)(claimed:b.claimRecovery call runId=some (run,b'))
 (idle:b.runs.Idle call) :
 b'.Inv ∧ b.Later call b' ∧ b'.runs.Owns call runId run ∧ b'.Spent call {}:=by
 have unspent:=inv.unspent idle
 obtain ⟨⟨start,runs⟩,claims,same⟩:=Option.map_eq_some_iff.mp claimed
 obtain ⟨rfl,rfl⟩:=Prod.mk.inj same
 obtain ⟨kept,later,owns⟩:=inv.runs.claimed claims idle
 refine ⟨inv.ledger kept later fun row mem outcome is=>?_,.ledger later,owns,
  unspent.pages,unspent.accepted,unspent.families⟩
 obtain ⟨before,there,-,starts,ended⟩:=Ledger.claimed_rows claims mem
 rw[←starts]
 exact inv.recorded before there outcome (ended.trans is)

lemma Inv.finished (inv:b.Inv){outcome:Outcome}
 (finished:b.finishRun runId outcome=some b')(owns:b.runs.Owns call runId run)
 (fits:Fits run outcome.counters):b'.Inv ∧ b.Later call b' ∧ b'.runs.Closed runId:=by
 obtain ⟨runs,closes,rfl⟩:=Option.map_eq_some_iff.mp finished
 obtain ⟨kept,later,closed⟩:=inv.runs.closed closes owns.granted
 refine ⟨inv.ledger kept later fun row mem other is=>?_,.ledger later,closed⟩
 rcases inv.runs.closed_rows closes mem with ⟨there,-⟩|⟨before,there,named,-,rfl⟩
 · exact inv.recorded row there other is
 · obtain rfl:=Option.some.inj is
   obtain ⟨own,here,is,rfl⟩:=owns.row
   obtain rfl:=inv.runs.unique there here (named.trans is.symm)
   exact fits

lemma Inv.closed_of_unfinished (inv:b.Inv){outcome:Outcome}
 (owns:b.runs.Owns call runId run)(refused:b.finishRun runId outcome=none) :
 b.runs.Closed runId:=by
 obtain ⟨row,mem,rfl,-⟩:=owns.row
 exact Ledger.closed_of_none inv.runs mem (Option.map_eq_none_iff.mp refused)

lemma Inv.requested (inv:b.Inv)(owns:b.runs.Owns call runId run)
 (few:b.pages.countP (·.1=call)<run.profile.maxPages) :
 Inv {b with pages:=b.pages++[(call,runId)]}:=
 ⟨inv.runs,inv.identities,inv.pages.spent inv.runs owns few,inv.accepted,inv.families,inv.recorded⟩

lemma Later.requested:b.Later call {b with pages:=b.pages++[(call,runId)]} where
 runs:=.refl call b.runs
 pages:=fun other apart=>by rw[Ledger.countP_spent,if_neg apart.symm,Nat.add_zero]
 accepted:=fun _ _=>rfl

lemma Spent.requested (spent:b.Spent call counters) :
 Spent {b with pages:=b.pages++[(call,runId)]} call
  {counters with pagesRequested:=counters.pagesRequested+1} where
 pages:=by rw[Ledger.countP_spent,if_pos rfl,spent.pages]
 __:=spent

lemma createOpportunity_some {opportunity:Opportunity}{created:Bool}
 (stored:b.createOpportunity opportunity=some (created,b')) :
 b'=b ∨ ((∀other∈b.opportunities,other.identityKey≠opportunity.identityKey) ∧
  b'={b with opportunities:=b.opportunities++[opportunity]}):=by
 unfold createOpportunity at stored
 split at stored
 · split at stored
   · obtain ⟨-,rfl⟩:=Prod.mk.inj (Option.some.inj stored)
     exact .inl rfl
   · cases stored
 · rename_i none
   obtain ⟨-,rfl⟩:=Prod.mk.inj (Option.some.inj stored)
   exact .inr ⟨fun other mem=>by simpa using List.find?_eq_none.mp none other mem,rfl⟩

lemma persistCandidate_some {profile:SupplierSearchProfile}{candidate:Candidate}
 {stored supplierCreated opportunityCreated:Bool}
 (persisted:b.persistCandidate profile candidate stored =
  some (supplierCreated,opportunityCreated,b'))
 (identities:(b.opportunities.map (·.identityKey)).Nodup) :
 ∃suppliers opportunities,(opportunities.map Opportunity.identityKey).Nodup ∧
  b'={b with suppliers,opportunities}:=by
 unfold persistCandidate at persisted
 dsimp only at persisted
 split at persisted
 · obtain ⟨⟨created,books⟩,creates,same⟩:=Option.map_eq_some_iff.mp persisted
   obtain ⟨-,same⟩:=Prod.mk.inj same
   obtain ⟨-,rfl⟩:=Prod.mk.inj same
   rcases createOpportunity_some creates with rfl|⟨fresh,rfl⟩
   · exact ⟨_,b.opportunities,identities,rfl⟩
   · refine ⟨_,_,?_,rfl⟩
     rw[List.map_append,List.nodup_append]
     refine ⟨identities,List.nodup_singleton _,fun key mem new same=>?_⟩
     obtain ⟨other,there,rfl⟩:=List.mem_map.mp mem
     obtain rfl:=List.mem_singleton.mp same
     exact fresh other there
 · cases persisted

lemma mine_append (other:ℕ) :
 mine {b with accepted:=b.accepted++[⟨call,runId,family⟩]} other =
  b.mine other++if call=other then [⟨call,runId,family⟩] else []:=by
 rw[mine,mine,List.filter_append]
 by_cases is:call=other <;> simp[is]

lemma Later.accepted_one:b.Later call {b with
 suppliers,opportunities,accepted:=b.accepted++[⟨call,runId,family⟩]} where
 runs:=.refl call b.runs
 pages:=fun _ _=>rfl
 accepted:=fun other apart=>by
  refine (mine_append (b:=b) other).trans ?_
  rw[if_neg apart.symm,List.append_nil]

lemma Spent.accepted_one (spent:b.Spent call counters){supplierCreated opportunityCreated:Bool} :
 Spent {b with
  suppliers,opportunities,accepted:=b.accepted++[⟨call,runId,family⟩]} call
  (counters.accepted family supplierCreated opportunityCreated):=by
 have mine:mine {b with
   suppliers,opportunities,accepted:=b.accepted++[⟨call,runId,family⟩]} call =
   b.mine call++[⟨call,runId,family⟩]:=by
  refine (mine_append (b:=b) call).trans ?_
  rw[if_pos rfl]
 refine ⟨spent.pages,?_,fun other=>?_⟩
 · rw[mine,List.length_append,spent.accepted]
   rfl
 · rw[mine,List.countP_append,spent.families,Counters.accepted]
   rw[List.count_append]
   cases family with
   | none=>simp
   | some family =>by_cases is:family=other <;> simp[is]

lemma Inv.accepted_one (inv:b.Inv)(owns:b.runs.Owns call runId run)(spent:b.Spent call counters)
 (identities:(opportunities.map (·.identityKey)).Nodup)
 (few:counters.recordsAccepted<run.profile.candidateCap)
 (fewer:∀other,family=some other → other∈run.profile.supplierFamilyKeys →
  counters.familyTargets.count other<25) :
 Inv {b with
  suppliers,opportunities,accepted:=b.accepted++[⟨call,runId,family⟩]} where
 __:=inv
 identities:=identities
 accepted:=by
  have more:acceptances {b with
    suppliers,opportunities,accepted:=b.accepted++[⟨call,runId,family⟩]} =
    b.acceptances++[(call,runId)]:=by
   rw[acceptances,List.map_append]
   rfl
  rw[more]
  refine inv.accepted.spent inv.runs owns ?_
  rw[acceptances_mine,spent.accepted]
  exact few
 families:=by
  intro other
  have more:acceptancesOf {b with
    suppliers,opportunities,accepted:=b.accepted++[⟨call,runId,family⟩]} other =
    b.acceptancesOf other++if family=some other then [(call,runId)] else []:=by
   rw[acceptancesOf,acceptancesOf,List.filter_append,List.map_append]
   by_cases is:family=some other <;> simp[is,Acceptance.entry]
  rw[more]
  split
  · rename_i is
    refine (inv.families other).spent inv.runs owns ?_
    rw[acceptancesOf_mine,spent.families,familyCap]
    split
    · rename_i requested
      exact fewer other is requested
    · have all:(b.mine call).countP (·.family=some other)≤(b.mine call).length:=
       List.countP_le_length
      rw[spent.families,spent.accepted] at all
      omega
  · rw[List.append_nil]
    exact inv.families other

end Books

lemma Fits.accepted_one {run:RunStart}{counters:Counters}(fits:Fits run counters)
 {family:Option String}{supplierCreated opportunityCreated:Bool}
 (few:counters.recordsAccepted<run.profile.candidateCap)
 (fewer:∀other,family=some other → other∈run.profile.supplierFamilyKeys →
  counters.familyTargets.count other<25) :
 Fits run (counters.accepted family supplierCreated opportunityCreated) where
 pages:=fits.pages
 accepted:=few
 families:=by
  intro other requested
  have before:=fits.families other requested
  rw[Counters.accepted]
  rw[List.count_append]
  cases family with
  | none=>simpa using before
  | some family =>
   by_cases is:family=other
   · subst is
     have less:=fewer family rfl requested
     simp only[Option.toList_some,List.count_singleton_self]
     omega
   · simpa[List.count_singleton,is] using before

end Kivou.SupplierDiscovery
