import Kivou.CompanyResearch

set_option autoImplicit false

/-! `Books.Inv` holds of the rows after every write. -/
namespace Kivou.CompanyResearch
open AcquisitionContracts

def Run.Succeeded (run:Run):Prop:=run.status=.success ∨ run.status=.limited
def Run.Terminal (run:Run):Prop:=run.status≠.started

namespace Books

def starts (b:Books):List RunStart:=b.runs.map (·.start)

def Asked (b:Books)(call:ℕ):Prop:=∃lookup∈b.lookups,lookup.call=call

def Profiled (b:Books)(run:RunStart):Prop:=
 ∃row,b.profile=some row ∧ row.supplierRef=run.supplierRef ∧ row.contactRef=run.contactRef

def Counted (b:Books)(run:Run):Prop:=∃call,(call,run.start.runId)∈b.closures ∧
  (∀other,(other,run.start.runId)∈b.closures → other=call) ∧
  (run.providerCalls=1 ↔ b.Asked call)

structure Faithful (b:Books)(run:Run):Prop where
 ready:run.Succeeded ↔ .companyReady run.start.runId∈b.stream
 nextAction:run.Succeeded ↔ .companyNextAction run.start.runId∈b.stream
 profiled:run.Succeeded→b.Profiled run.start
 counted:run.Terminal→b.Counted run
 uncounted:run.status=.started→∀call,(call,run.start.runId)∉b.closures
 owners:b.owners.countP (·.2=run.start.runId)=1+run.recoveryProviderCalls
 recovery:run.recoveryProviderCalls≤1

def Authorised (b:Books)(run:RunStart):Prop:=
 ∃evaluation∈b.evaluations,evaluation.evaluationId=run.policyEvaluationId ∧
  evaluation.action=run.action ∧ evaluation.executable

structure Inv (b:Books):Prop where
 ids:(b.starts.map (·.runId)).Nodup
 authorised:∀run∈b.starts,b.Authorised run
 faithful:∀run∈b.runs,b.Faithful run
 asks:∀lookup∈b.lookups,∃run∈b.starts,run.runId=lookup.runId ∧
  lookup.profile.providerOrganizationId=run.profile.providerOrganizationId
 granted:∀lookup∈b.lookups,(lookup.call,lookup.runId)∈b.owners
 once:(b.lookups.map (·.call)).Nodup
 ownersKnown:∀owner∈b.owners,∃run∈b.starts,run.runId=owner.2
 closuresKnown:∀closure∈b.closures,∃run∈b.starts,run.runId=closure.2
 readyKnown:∀runId,.companyReady runId∈b.stream→∃run∈b.starts,run.runId=runId
 nextKnown:∀runId,.companyNextAction runId∈b.stream→∃run∈b.starts,run.runId=runId

/-- What a write of `call` leaves to the other calls. -/
structure Later (call:ℕ)(b b':Books):Prop where
 runs:∀run∈b.runs,∃run'∈b'.runs,run'.start=run.start ∧ (run.Terminal → run'=run)
 evaluations:∀evaluation∈b.evaluations,evaluation∈b'.evaluations
 owners:∀owner∈b.owners,owner∈b'.owners
 lookups:∀lookup∈b.lookups,lookup∈b'.lookups
 ownOwners:∀owner∈b'.owners,owner∈b.owners ∨ owner.1=call
 ownLookups:∀lookup∈b'.lookups,lookup∈b.lookups ∨ lookup.call=call
 ownClosures:∀closure∈b'.closures,closure∈b.closures ∨ closure.1=call

variable {b b':Books}{run:Run}{runId:String}{call:ℕ}{start:RunStart}

lemma mem_starts {run:RunStart} : run∈b.starts ↔ ∃row∈b.runs,row.start=run:=List.mem_map

lemma run?_some (found:b.run? runId=some run) :
 run∈b.runs ∧ run.start.runId=runId:=Tables.find?_key found

lemma run?_none (none:b.run? runId=none) : ∀run∈b.starts,run.runId≠runId:=by
 intro run mem
 obtain ⟨row,there,rfl⟩:=mem_starts.mp mem
 simpa using List.find?_eq_none.mp none row there

lemma evaluation?_some {evaluationId:String}{evaluation:Evaluation}
 (found:b.evaluation? evaluationId=some evaluation) :
 evaluation∈b.evaluations ∧ evaluation.evaluationId=evaluationId:=Tables.find?_key found

lemma Inv.runIds (inv:b.Inv):(b.runs.map (·.start.runId)).Nodup:=by
 have ids:=inv.ids
 rwa[starts,List.map_map] at ids

lemma Inv.unique (inv:b.Inv){run':Run}(mem:run∈b.runs)
 (mem':run'∈b.runs)(same:run.start.runId=run'.start.runId):run=run':=
 List.inj_on_of_nodup_map inv.runIds mem mem' same

lemma Inv.run?_eq (inv:b.Inv)(mem:run∈b.runs) :
 b.run? run.start.runId=some run:=Tables.find?_of_mem inv.runIds mem

lemma Inv.lookups_le_owners (inv:b.Inv)(runId:String) :
 b.lookups.countP (·.runId=runId)≤b.owners.countP (·.2=runId):=by
 rw[List.countP_eq_length_filter,List.countP_eq_length_filter,
  ←List.length_map (f:=fun lookup:Lookup=>(lookup.call,lookup.runId))]
 apply List.Nodup.length_le_of_subset
 · apply List.Nodup.of_map Prod.fst
   rw[List.map_map]
   exact inv.once.sublist ((List.filter_sublist).map _)
 · intro owner mem
   obtain ⟨lookup,there,rfl⟩:=List.mem_map.mp mem
   have kept:=List.mem_filter.mp there
   exact List.mem_filter.mpr ⟨inv.granted lookup kept.1,kept.2⟩

lemma Inv.lookups_le_two (inv:b.Inv)(runId:String) : b.lookups.countP (·.runId=runId)≤2:=by
 have fewer:=inv.lookups_le_owners runId
 by_cases known:∃run∈b.runs,run.start.runId=runId
 · obtain ⟨run,mem,rfl⟩:=known
   have owners:=(inv.faithful run mem).owners
   have recovery:=(inv.faithful run mem).recovery
   omega
 · have none:b.owners.countP (·.2=runId)=0:=by
    rw[List.countP_eq_zero]
    intro owner mem
    obtain ⟨run,there,is⟩:=inv.ownersKnown owner mem
    obtain ⟨row,here,rfl⟩:=mem_starts.mp there
    simp only[decide_eq_true_eq]
    rintro rfl
    exact known ⟨row,here,is⟩
   omega

lemma Faithful.frame (faithful:b.Faithful run)
 (ready:.companyReady run.start.runId∈b'.stream ↔ .companyReady run.start.runId∈b.stream)
 (next:.companyNextAction run.start.runId∈b'.stream ↔
  .companyNextAction run.start.runId∈b.stream)
 (profiled:b.Profiled run.start→b'.Profiled run.start)
 (closures:∀call,
  (call,run.start.runId)∈b'.closures ↔ (call,run.start.runId)∈b.closures)
 (asked:∀call,(call,run.start.runId)∈b.closures→(b'.Asked call ↔ b.Asked call))
 (owners:b'.owners.countP (·.2=run.start.runId)=b.owners.countP (·.2=run.start.runId)) :
 b'.Faithful run where
 ready:=faithful.ready.trans ready.symm
 nextAction:=faithful.nextAction.trans next.symm
 profiled:=fun succeeded=>profiled (faithful.profiled succeeded)
 counted:=by
  intro terminal
  obtain ⟨call,closed,alone,counts⟩:=faithful.counted terminal
  refine ⟨call,(closures call).mpr closed,fun other mem=>?_,?_⟩
  · exact alone other ((closures other).mp mem)
  · rw[counts,asked call closed]
 uncounted:=fun open' call mem=>faithful.uncounted open' call ((closures call).mp mem)
 owners:=owners.trans faithful.owners
 recovery:=faithful.recovery

lemma Faithful.fresh (started:run.status=.started) (ready:.companyReady run.start.runId∉b.stream)
 (next:.companyNextAction run.start.runId∉b.stream)
 (closures:∀call,(call,run.start.runId)∉b.closures)
 (owners:b.owners.countP (·.2=run.start.runId)=1+run.recoveryProviderCalls)
 (recovery:run.recoveryProviderCalls≤1):b.Faithful run:=by
 have unended:¬run.Succeeded:=by simp[Run.Succeeded,started]
 exact ⟨iff_of_false unended ready,iff_of_false unended next,fun is=>absurd is unended,
  fun terminal=>absurd started terminal,fun _=>closures,owners,recovery⟩

lemma Authorised.frame {run:RunStart}(authorised:b.Authorised run)
 (kept:∀evaluation∈b.evaluations,evaluation∈b'.evaluations):b'.Authorised run:=by
 obtain ⟨evaluation,mem,rest⟩:=authorised
 exact ⟨evaluation,kept evaluation mem,rest⟩

lemma Later.refl (call:ℕ)(b:Books):b.Later call b where
 runs:=fun run mem=>⟨run,mem,rfl,fun _=>rfl⟩
 evaluations:=fun _ mem=>mem
 owners:=fun _ mem=>mem
 lookups:=fun _ mem=>mem
 ownOwners:=fun _ mem=>.inl mem
 ownLookups:=fun _ mem=>.inl mem
 ownClosures:=fun _ mem=>.inl mem

lemma append_some {event:Event}{version:ℕ}
 {reduce:Opportunity→Opportunity}(appended:b.append event version reduce=some b') :
 ∃opportunity stream,b'={b with opportunity,stream} ∧
  ∀other,other∈stream ↔ other∈b.stream ∨ other=event:=by
 unfold append at appended
 split at appended
 · rename_i there
   obtain rfl:=Option.some.inj appended
   refine ⟨b.opportunity,b.stream,rfl,fun other=>⟨.inl,?_⟩⟩
   rintro (mem|rfl)
   · exact mem
   · exact there
 · split at appended
   · obtain rfl:=Option.some.inj appended
     exact ⟨_,_,rfl,fun other=>by simp⟩
   · cases appended

lemma evaluate_some {evaluation found:Evaluation}
 (evaluated:b.evaluate evaluation=some (found,b')) :
 found.evaluationId=evaluation.evaluationId ∧ found.action=evaluation.action ∧
  found∈b'.evaluations ∧ ∃opportunity stream evaluations,
   b'={b with opportunity,stream,evaluations} ∧ (∀earlier∈b.evaluations,earlier∈evaluations) ∧
    (∀runId,.companyReady runId∈stream ↔ .companyReady runId∈b.stream) ∧
    ∀runId,.companyNextAction runId∈stream ↔ .companyNextAction runId∈b.stream:=by
 unfold evaluate at evaluated
 cases is:b.evaluation? evaluation.evaluationId with
 | some existing =>
  rw[is] at evaluated
  dsimp only at evaluated
  split at evaluated
  · rename_i same
    obtain ⟨rfl,rfl⟩:=Prod.mk.inj (Option.some.inj evaluated)
    have there:=evaluation?_some is
    exact ⟨there.2,same.1,there.1,b.opportunity,b.stream,b.evaluations,rfl,
     fun _ mem=>mem,fun _=>Iff.rfl,fun _=>Iff.rfl⟩
  · cases evaluated
 | none =>
  rw[is] at evaluated
  obtain ⟨appended,inserts,same⟩:=Option.map_eq_some_iff.mp evaluated
  obtain ⟨rfl,rfl⟩:=Prod.mk.inj same
  obtain ⟨opportunity,stream,rfl,events⟩:=append_some inserts
  refine ⟨rfl,rfl,by simp,opportunity,stream,_,rfl,fun earlier mem=>?_,fun runId=>?_,fun runId=>?_⟩
  · exact List.mem_append_left _ mem
  · simp[events]
  · simp[events]

lemma Inv.evaluated (inv:b.Inv){opportunity:Opportunity}{stream:List Event}
 {evaluations:List Evaluation}
 (kept:∀earlier∈b.evaluations,earlier∈evaluations)
 (ready:∀runId,.companyReady runId∈stream ↔ .companyReady runId∈b.stream)
 (next:∀runId,.companyNextAction runId∈stream ↔ .companyNextAction runId∈b.stream) :
 Inv {b with opportunity,stream,evaluations} where
 __:=inv
 authorised:=fun run mem=>(inv.authorised run mem).frame kept
 faithful:=fun run mem=>(inv.faithful run mem).frame (ready _) (next _) id (fun _=>Iff.rfl)
  (fun _ _=>Iff.rfl) rfl
 readyKnown:=fun runId mem=>inv.readyKnown runId ((ready runId).mp mem)
 nextKnown:=fun runId mem=>inv.nextKnown runId ((next runId).mp mem)

lemma Later.evaluated (call:ℕ){opportunity:Opportunity}{stream:List Event}
 {evaluations:List Evaluation}(kept:∀earlier∈b.evaluations,earlier∈evaluations) :
 b.Later call {b with opportunity,stream,evaluations}:=
 {Later.refl call b with evaluations:=kept}

lemma startRun_some (started:b.startRun call start=some b') :
 (∀run∈b.starts,run.runId≠start.runId) ∧
  b'={b with
   runs:=b.runs++[⟨start,0,0,.started,none⟩]
   owners:=b.owners++[(call,start.runId)]}:=by
 unfold startRun at started
 split at started
 · rename_i free
   exact ⟨run?_none (Option.isNone_iff_eq_none.mp free.1),(Option.some.inj started).symm⟩
 · cases started

lemma Inv.started (inv:b.Inv)
 (started:b.startRun call start=some b')(authorised:b.Authorised start):b'.Inv:=by
 obtain ⟨free,rfl⟩:=startRun_some started
 have starts:starts {b with
   runs:=b.runs++[⟨start,0,0,.started,none⟩]
   owners:=b.owners++[(call,start.runId)]}=b.starts++[start]:=by simp[Books.starts]
 have old:∀ {runId:String},(∃run∈b.starts,run.runId=runId) →∃run∈b.starts++[start],run.runId=runId:=
  fun ⟨run,mem,is⟩=>⟨run,List.mem_append_left _ mem,is⟩
 constructor
 · rw[starts,List.map_append,List.nodup_append]
   refine ⟨inv.ids,List.nodup_singleton _,fun id mem other new=>?_⟩
   obtain ⟨run,there,rfl⟩:=List.mem_map.mp mem
   obtain rfl:=List.mem_singleton.mp new
   exact free run there
 · rw[starts]
   intro run mem
   rcases List.mem_append.mp mem with mem|new
   · exact inv.authorised run mem
   · obtain rfl:=List.mem_singleton.mp new
     exact authorised
 · intro run mem
   rcases List.mem_append.mp mem with mem|new
   · refine (inv.faithful run mem).frame Iff.rfl Iff.rfl id (fun _=>Iff.rfl) (fun _ _=>Iff.rfl) ?_
     have differs:start.runId≠run.start.runId:=
      fun is=>free run.start (mem_starts.mpr ⟨run,mem,rfl⟩) is.symm
     simp[List.countP_append,differs]
   · obtain rfl:=List.mem_singleton.mp new
     have none:b.owners.countP (·.2=start.runId)=0:=by
      rw[List.countP_eq_zero]
      intro owner mem
      obtain ⟨run,there,is⟩:=inv.ownersKnown owner mem
      simpa[←is] using free run there
     refine Faithful.fresh rfl ?_ ?_ ?_ ?_ (Nat.zero_le 1)
     · intro mem
       obtain ⟨run,there,is⟩:=inv.readyKnown _ mem
       exact free run there is
     · intro mem
       obtain ⟨run,there,is⟩:=inv.nextKnown _ mem
       exact free run there is
     · intro call mem
       obtain ⟨run,there,is⟩:=inv.closuresKnown _ mem
       exact free run there is
     · simp[List.countP_append,none]
 · rw[starts]
   intro lookup mem
   obtain ⟨run,there,is⟩:=inv.asks lookup mem
   exact ⟨run,List.mem_append_left _ there,is⟩
 · exact fun lookup mem=>List.mem_append_left _ (inv.granted lookup mem)
 · exact inv.once
 · rw[starts]
   intro owner mem
   rcases List.mem_append.mp mem with mem|new
   · exact old (inv.ownersKnown owner mem)
   · obtain rfl:=List.mem_singleton.mp new
     exact ⟨start,List.mem_append_right _ (List.mem_singleton_self _),rfl⟩
 · rw[starts]
   exact fun closure mem=>old (inv.closuresKnown closure mem)
 · rw[starts]
   exact fun runId mem=>old (inv.readyKnown runId mem)
 · rw[starts]
   exact fun runId mem=>old (inv.nextKnown runId mem)

lemma Later.started (started:b.startRun call start=some b'):b.Later call b':=by
 obtain ⟨-,rfl⟩:=startRun_some started
 exact { Later.refl call b with
  runs:=fun run mem=>⟨run,List.mem_append_left _ mem,rfl,fun _=>rfl⟩
  owners:=fun owner mem=>List.mem_append_left _ mem
  ownOwners:=fun owner mem=>(List.mem_append.mp mem).imp_right fun new=>by
   rw[List.mem_singleton.mp new]}

lemma Inv.asked (inv:b.Inv){run:RunStart} {profile:CompanyResearchProfile}(mem:run∈b.starts)
 (owns:(call,run.runId)∈b.owners)(unasked:¬b.Asked call)
 (unclosed:∀closure∈b.closures,closure.1≠call)
 (asks:profile.providerOrganizationId=run.profile.providerOrganizationId) :
 Inv {b with lookups:=b.lookups++[⟨call,run.runId,profile⟩]} where
 __:=inv
 faithful:=by
  intro row there
  refine (inv.faithful row there).frame Iff.rfl Iff.rfl id (fun _=>Iff.rfl) ?_ rfl
  intro closer closed
  have differs:call≠closer:=fun is=>unclosed _ closed is.symm
  simp[Asked,or_and_right,exists_or,differs]
 asks:=by
  intro lookup there
  rcases List.mem_append.mp there with there|new
  · exact inv.asks lookup there
  · obtain rfl:=List.mem_singleton.mp new
    exact ⟨run,mem,rfl,asks⟩
 granted:=by
  intro lookup there
  rcases List.mem_append.mp there with there|new
  · exact inv.granted lookup there
  · obtain rfl:=List.mem_singleton.mp new
    exact owns
 once:=by
  rw[List.map_append,List.nodup_append]
  refine ⟨inv.once,List.nodup_singleton _,fun other there new is=>?_⟩
  obtain ⟨lookup,earlier,rfl⟩:=List.mem_map.mp there
  obtain rfl:=List.mem_singleton.mp is
  exact fun same=>unasked ⟨lookup,earlier,same⟩

lemma Later.asked {profile:CompanyResearchProfile} :
 b.Later call {b with lookups:=b.lookups++[⟨call,runId,profile⟩]}:=
 { Later.refl call b with
   lookups:=fun lookup mem=>List.mem_append_left _ mem
   ownLookups:=fun lookup mem=>(List.mem_append.mp mem).imp_right fun new=>by
    rw[List.mem_singleton.mp new]}

section
variable {b:Books}{f:Run→Run}(keeps:∀run,(f run).start=run.start)
include keeps

lemma setRun_starts (runId:String):(b.setRun runId f).map (·.start)=b.starts:=
 Tables.map_key_update fun run _ _=>keeps run

omit keeps in
lemma mem_setRun {runId:String}{run:Run}(mem:run∈b.setRun runId f) :
 (run∈b.runs ∧ run.start.runId≠runId) ∨
  ∃before∈b.runs,before.start.runId=runId ∧ run=f before:=by
 obtain ⟨before,there,is⟩:=Tables.mem_update.mp mem
 split at is
 · rename_i named
   exact .inr ⟨before,there,by simpa using named,is.symm⟩
 · rename_i other
   subst is
   exact .inl ⟨there,by simpa using other⟩

lemma setRun_later (inv:b.Inv){run:Run}(mem:run∈b.runs) (isOpen:run.status=.started) :
 ∀row∈b.runs,∃row'∈b.setRun run.start.runId f,row'.start=row.start ∧ (row.Terminal → row'=row):=by
 intro row there
 by_cases is:row.start.runId=run.start.runId
 · obtain rfl:=inv.unique there mem is
   refine ⟨f row,Tables.mem_update.mpr ⟨row,there,by simp⟩,keeps row,?_⟩
   exact fun terminal=>absurd isOpen terminal
 · exact ⟨row,Tables.mem_update.mpr ⟨row,there,by simp[is]⟩,rfl,fun _=>rfl⟩

end

lemma claimed_start (run:Run) : ({run with recoveryProviderCalls:=1}:Run).start=run.start:=rfl

variable {b b':Books}{call providerCalls:ℕ}{runId:String}{start run:RunStart}
 {status:RunStatus}{errorCategory:Option ErrorCategory}{opportunity:Opportunity}
 {env:Env}{observation:Observation}{binding:SireneApolloBinding}{called:Bool}

lemma claimRecovery_some (claimed:b.claimRecovery call runId=some (start,b')) :
 ∃run∈b.runs,run.start=start ∧ start.runId=runId ∧ run.status=.started ∧
  run.recoveryProviderCalls=0 ∧
  b'={b with
   runs:=b.setRun run.start.runId fun run=>{run with recoveryProviderCalls:=1}
   owners:=b.owners++[(call,run.start.runId)]}:=by
 unfold claimRecovery at claimed
 cases is:b.run? runId with
 | none=>rw[is] at claimed;cases claimed
 | some run =>
  rw[is] at claimed
  dsimp only at claimed
  split at claimed
  · rename_i free
    obtain ⟨rfl,rfl⟩:=Prod.mk.inj (Option.some.inj claimed)
    obtain ⟨mem,rfl⟩:=run?_some is
    exact ⟨run,mem,rfl,rfl,free.1,free.2,rfl⟩
  · cases claimed

lemma Inv.claimed (inv:b.Inv) (claimed:b.claimRecovery call runId=some (start,b')):b'.Inv:=by
 obtain ⟨run,mem,rfl,-,isOpen,unclaimed,rfl⟩:=claimRecovery_some claimed
 have starts:Books.starts {b with
   runs:=b.setRun run.start.runId fun run=>{run with recoveryProviderCalls:=1}
   owners:=b.owners++[(call,run.start.runId)]}=b.starts:=
  setRun_starts claimed_start _
 constructor
 · rw[starts]
   exact inv.ids
 · rw[starts]
   exact inv.authorised
 · intro row there
   rcases mem_setRun there with ⟨earlier,other⟩|⟨before,earlier,is,rfl⟩
   · refine (inv.faithful row earlier).frame Iff.rfl Iff.rfl id (fun _=>Iff.rfl)
      (fun _ _=>Iff.rfl) ?_
     simp[List.countP_append,other.symm]
   · obtain rfl:=inv.unique earlier mem is
     have faithful:=inv.faithful before mem
     have unended:¬before.Succeeded:=by simp[Run.Succeeded,isOpen]
     refine Faithful.fresh isOpen (fun at'=>unended (faithful.ready.mpr at'))
      (fun at'=>unended (faithful.nextAction.mpr at')) (faithful.uncounted isOpen) ?_
      (le_refl 1)
     have owners:=faithful.owners
     simp only[List.countP_append,List.countP_singleton,decide_true,if_true]
     omega
 · rw[starts]
   exact inv.asks
 · exact fun lookup there=>List.mem_append_left _ (inv.granted lookup there)
 · exact inv.once
 · rw[starts]
   intro owner there
   rcases List.mem_append.mp there with there|new
   · exact inv.ownersKnown owner there
   · obtain rfl:=List.mem_singleton.mp new
     exact ⟨run.start,mem_starts.mpr ⟨run,mem,rfl⟩,rfl⟩
 · rw[starts]
   exact inv.closuresKnown
 · rw[starts]
   exact inv.readyKnown
 · rw[starts]
   exact inv.nextKnown

lemma Later.claimed (inv:b.Inv)
 (claimed:b.claimRecovery call runId=some (start,b')):b.Later call b':=by
 obtain ⟨run,mem,-,-,isOpen,-,rfl⟩:=claimRecovery_some claimed
 exact { Later.refl call b with
  runs:=setRun_later claimed_start inv mem isOpen
  owners:=fun owner there=>List.mem_append_left _ there
  ownOwners:=fun owner there=>(List.mem_append.mp there).imp_right fun new=>by
   rw[List.mem_singleton.mp new]}

lemma finishRun_some (finished:b.finishRun call runId status providerCalls errorCategory=some b') :
 ∃run∈b.runs,run.start.runId=runId ∧ run.status=.started ∧
  b'=b.close call runId status providerCalls errorCategory:=by
 unfold finishRun at finished
 cases is:b.run? runId with
 | none=>rw[is] at finished;cases finished
 | some run =>
  rw[is] at finished
  dsimp only at finished
  split at finished
  · rename_i isOpen
    have found:=run?_some is
    exact ⟨run,found.1,found.2,isOpen,(Option.some.inj finished).symm⟩
  · cases finished

lemma closed_start (status:RunStatus)(providerCalls:ℕ)(errorCategory:Option ErrorCategory)
 (run:Run):({run with status,providerCalls,errorCategory}:Run).start=run.start:=rfl

lemma close_starts (b:Books)(call:ℕ)(runId:String)(status:RunStatus)
 (providerCalls:ℕ)(errorCategory:Option ErrorCategory) :
 (b.close call runId status providerCalls errorCategory).starts=b.starts:=
 setRun_starts (closed_start status providerCalls errorCategory) _

lemma Inv.closed (inv:b.Inv){run:Run}(mem:run∈b.runs){stream:List Event} {profile:Option Prebuild}
 (isOpen:run.status=.started)(ended:status≠.started)
 (counts:providerCalls=1 ↔ b.Asked call)
 (ready:∀runId,.companyReady runId∈stream ↔ .companyReady runId∈b.stream ∨
  runId=run.start.runId ∧ (status=.success ∨ status=.limited))
 (next:∀runId,.companyNextAction runId∈stream ↔ .companyNextAction runId∈b.stream ∨
  runId=run.start.runId ∧ (status=.success ∨ status=.limited))
 (stays:∀other,b.Profiled other→Profiled {b with profile} other)
 (profiled:(status=.success ∨ status=.limited)→Profiled {b with profile} run.start) :
 (close {b with opportunity,stream,profile} call run.start.runId status providerCalls
  errorCategory).Inv:=by
 have starts:(close {b with opportunity,stream,profile} call run.start.runId status
   providerCalls errorCategory).starts=b.starts:=close_starts ..
 have mine:run.start∈b.starts:=mem_starts.mpr ⟨run,mem,rfl⟩
 have faithful:=inv.faithful run mem
 have unended:¬run.Succeeded:=by simp[Run.Succeeded,isOpen]
 constructor
 · rw[starts]
   exact inv.ids
 · rw[starts]
   exact inv.authorised
 · intro row there
   rcases mem_setRun there with ⟨earlier,other⟩|⟨before,earlier,is,rfl⟩
   · refine (inv.faithful row earlier).frame ?_ ?_ (stays _) (fun closer=>?_) (fun _ _=>Iff.rfl) rfl
     · simp[close,ready,other]
     · simp[close,next,other]
     · simp[close,other]
   · obtain rfl:=inv.unique earlier mem is
     refine ⟨?_,?_,profiled,fun _=>⟨call,?_,?_,counts⟩,fun is=>absurd is ended,
      faithful.owners,faithful.recovery⟩
     · have before:=faithful.ready
       simp only[unended,false_iff] at before
       simp[close,ready,before,Run.Succeeded]
     · have before:=faithful.nextAction
       simp only[unended,false_iff] at before
       simp[close,next,before,Run.Succeeded]
     · exact List.mem_append_right _ (List.mem_singleton_self _)
     · intro closer closed
       rcases List.mem_append.mp closed with closed|new
       · exact absurd closed (faithful.uncounted isOpen closer)
       · exact congrArg Prod.fst (List.mem_singleton.mp new)
 · rw[starts]
   exact inv.asks
 · exact inv.granted
 · exact inv.once
 · rw[starts]
   exact inv.ownersKnown
 · rw[starts]
   intro closure there
   rcases List.mem_append.mp there with there|new
   · exact inv.closuresKnown closure there
   · obtain rfl:=List.mem_singleton.mp new
     exact ⟨run.start,mine,rfl⟩
 · rw[starts]
   intro runId there
   rcases (ready runId).mp there with there|⟨rfl,-⟩
   · exact inv.readyKnown runId there
   · exact ⟨run.start,mine,rfl⟩
 · rw[starts]
   intro runId there
   rcases (next runId).mp there with there|⟨rfl,-⟩
   · exact inv.nextKnown runId there
   · exact ⟨run.start,mine,rfl⟩

lemma Later.closed (inv:b.Inv){run:Run}(mem:run∈b.runs){stream:List Event} {profile:Option Prebuild}
 (isOpen:run.status=.started) :
 b.Later call (close {b with opportunity,stream,profile} call run.start.runId status
  providerCalls errorCategory):=
 { Later.refl call b with
   runs:=setRun_later (closed_start status providerCalls errorCategory) inv mem isOpen
   ownClosures:=fun closure there=>(List.mem_append.mp there).imp_right fun new=>by
    rw[List.mem_singleton.mp new]}

lemma upsertProfile_some {prebuild row:Prebuild} (stored:b.upsertProfile prebuild=some row) :
 row.supplierRef=prebuild.supplierRef ∧ row.contactRef=prebuild.contactRef ∧
  ∀before,b.profile=some before →
   row.supplierRef=before.supplierRef ∧ row.contactRef=before.contactRef:=by
 unfold upsertProfile at stored
 cases is:b.profile with
 | none =>
  rw[is] at stored
  obtain rfl:=Option.some.inj stored
  exact ⟨rfl,rfl,fun before none=>by cases none⟩
 | some before =>
  rw[is] at stored
  dsimp only at stored
  split at stored
  · cases stored
  · rename_i same
    simp only[ne_eq,not_or,Decidable.not_not] at same
    have either:row=before ∨ row=prebuild:=by
     split at stored
     · exact .inl (Option.some.inj stored).symm
     · split at stored
       · split at stored
         · exact .inl (Option.some.inj stored).symm
         · cases stored
       · exact .inr (Option.some.inj stored).symm
    rcases either with rfl|rfl
    · refine ⟨same.1,same.2.1,fun other is=>?_⟩
      obtain rfl:=Option.some.inj is
      exact ⟨rfl,rfl⟩
    · refine ⟨rfl,rfl,fun other is=>?_⟩
      obtain rfl:=Option.some.inj is
      exact ⟨same.1.symm,same.2.1.symm⟩

lemma appendReady_some (appended:b.appendReady run=some b') :
 ∃opportunity stream,b'={b with opportunity,stream} ∧
  (∀runId,.companyReady runId∈stream ↔ .companyReady runId∈b.stream ∨ runId=run.runId) ∧
  ∀runId,.companyNextAction runId∈stream ↔ .companyNextAction runId∈b.stream ∨ runId=run.runId:=by
 obtain ⟨first,ready,next⟩:=Option.bind_eq_some_iff.mp appended
 obtain ⟨opportunity,stream,rfl,events⟩:=append_some ready
 obtain ⟨opportunity',stream',rfl,events'⟩:=append_some next
 exact ⟨opportunity',stream',rfl,fun runId=>by simp[events',events],
  fun runId=>by simp[events',events]⟩

lemma prebuild_ok {built:Prebuild} (ok:prebuild env opportunity run observation binding=.ok built) :
 built.supplierRef=run.supplierRef ∧ built.contactRef=run.contactRef:=by
 unfold prebuild at ok
 split at ok
 · rename_i post
   cases supplied:env.suppliers run.supplierRef with
   | none=>rw[supplied] at ok;cases ok
   | some supplier =>
    cases known:env.contacts run.contactRef with
    | none=>rw[supplied,known] at ok;cases ok
    | some contact =>
     rw[supplied,known] at ok
     dsimp only at ok
     split at ok
     · rename_i checks
       split at ok
       · obtain rfl:=Except.ok.inj ok
         simp only[Opportunity.isPostPolicy,bound,Bool.and_eq_true,beq_iff_eq] at post checks
         refine ⟨?_,?_⟩
         · exact Option.some.inj (checks.1.1.1.2.symm.trans post.1.2)
         · exact Option.some.inj (checks.1.1.2.symm.trans post.2)
       · cases ok
     · cases ok
 · cases ok

lemma commitSuccess_ok {stored:Bool}
 (committed:b.commitSuccess env call run observation called binding stored=.ok b') :
 ∃row∈b.runs,row.start.runId=run.runId ∧ row.status=.started ∧ ∃opportunity stream profile status,
   b'=close {b with opportunity,stream,profile:=some profile} call run.runId status
    called.toNat none ∧
   (status=.success ∨ status=.limited) ∧
   (∀runId,.companyReady runId∈stream ↔
    .companyReady runId∈b.stream ∨ runId=run.runId) ∧
   (∀runId,.companyNextAction runId∈stream ↔
    .companyNextAction runId∈b.stream ∨ runId=run.runId) ∧
   profile.supplierRef=run.supplierRef ∧ profile.contactRef=run.contactRef ∧
   ∀before,b.profile=some before →
    profile.supplierRef=before.supplierRef ∧ profile.contactRef=before.contactRef:=by
 unfold commitSuccess at committed
 cases builds:prebuild env b.opportunity run observation binding with
 | error error=>rw[builds] at committed;cases committed
 | ok built =>
  rw[builds] at committed
  dsimp only at committed
  cases upserts:b.upsertProfile built with
  | none=>rw[upserts] at committed;cases committed
  | some profile =>
   rw[upserts] at committed
   dsimp only at committed
   cases appends:appendReady {b with profile:=some profile} run with
   | none=>rw[appends] at committed;cases committed
   | some readied =>
    rw[appends] at committed
    dsimp only at committed
    obtain ⟨opportunity,stream,rfl,ready,next⟩:=appendReady_some appends
    obtain ⟨supplier,contact,before⟩:=upsertProfile_some upserts
    have names:=prebuild_ok builds
    split at committed
    · rename_i done finishes
      split at committed
      · obtain rfl:=Except.ok.inj committed
        obtain ⟨row,mem,is,isOpen,rfl⟩:=finishRun_some finishes
        refine ⟨row,mem,is,isOpen,opportunity,stream,profile,_,rfl,?_,ready,next,
         supplier.trans names.1,contact.trans names.2,before⟩
        split
        · exact .inl rfl
        · exact .inr rfl
      · cases committed
    · cases committed

lemma Inv.committed (inv:b.Inv){stored:Bool}
 (committed:b.commitSuccess env call run observation called binding stored=.ok b')
 (known:run∈b.starts)(counts:called=true ↔ b.Asked call) :
 b'.Inv ∧ b.Later call b':=by
 obtain ⟨row,mem,is,isOpen,opportunity,stream,profile,status,rfl,well,ready,next,
  supplier,contact,before⟩:=commitSuccess_ok committed
 obtain ⟨named,there,rfl⟩:=mem_starts.mp known
 obtain rfl:=inv.unique mem there is
 refine ⟨inv.closed mem isOpen ?_ ?_ ?_ ?_ ?_ ?_,Later.closed inv mem isOpen⟩
 · rintro rfl
   rcases well with is|is <;> cases is
 · rw[←counts]
   cases called <;> decide
 · exact fun runId=>by simp[ready,well]
 · exact fun runId=>by simp[next,well]
 · rintro other ⟨old,there,is⟩
   obtain ⟨supplier',contact'⟩:=before old there
   exact ⟨profile,rfl,supplier'.trans is.1,contact'.trans is.2⟩
 · exact fun _=>⟨profile,rfl,supplier,contact⟩

lemma Inv.finished (inv:b.Inv) {error:Option ErrorCategory}
 (finished:b.finishRun call run.runId .failed called.toNat error=some b')
 (known:run∈b.starts)(counts:called=true ↔ b.Asked call) :
 b'.Inv ∧ b.Later call b':=by
 obtain ⟨row,mem,is,isOpen,rfl⟩:=finishRun_some finished
 obtain ⟨named,there,rfl⟩:=mem_starts.mp known
 obtain rfl:=inv.unique mem there is
 refine ⟨inv.closed mem isOpen (by decide) ?_ ?_ ?_ (fun _=>id) ?_,Later.closed inv mem isOpen⟩
 · rw[←counts]
   cases called <;> decide
 · exact fun runId=>by simp
 · exact fun runId=>by simp
 · rintro (is|is) <;> cases is

end Books
end Kivou.CompanyResearch
