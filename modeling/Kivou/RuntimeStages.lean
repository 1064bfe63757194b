import Kivou.RuntimeAgreement
import Mathlib.Tactic.NormNum

set_option autoImplicit false

/-! Tokens only grow, the holder of the last one alone writes, and along any history without
abandonments the stages of a cycle succeed in their declared order, with the next stage of the cycle
at the first that has not. -/
namespace Kivou.AcquisitionRuntime
open PythonValues

lemma Stage.all_index (stage:Stage):Stage.all[stage.index]?=some stage:=by
 cases stage <;> decide

lemma Stage.index_of_all {stage:Stage}{n:ℕ}(h:Stage.all[n]?=some stage) : stage.index=n:=by
 have distinct:Stage.all.Nodup:=by decide
 obtain ⟨less,rfl⟩:=List.getElem?_eq_some_iff.mp h
 exact distinct.idxOf_getElem n less

lemma Stage.index_injective {stage other:Stage}(h:stage.index=other.index) : stage=other:=by
 have:=stage.all_index
 rw[h,other.all_index] at this
 exact (Option.some.inj this).symm

/-- The stages before the `n`-th have succeeded, those after it have not begun,
and the next stage of the cycle is the `n`-th; a suppressed one has none. -/
structure Cycle.InOrder (c:Cycle)(n:ℕ):Prop where
 bounded:n≤Stage.all.length
 succeeded:∀stage,(c.stages stage).status=.succeeded ↔ stage.index<n
 later:∀stage,n<stage.index→(c.stages stage).status=.pending
 next:c.row.nextStage =Stage.all[n]?.filter fun stage=>decide ((c.stages stage).status≠.suppressed)

section Order
variable {c c':Cycle}{stage:Stage}{n:ℕ}

lemma inOrder_createCycle (now:ℤ):(createCycle now).InOrder 0 where
 bounded:=Nat.zero_le _
 succeeded _:=iff_of_false nofun (Nat.not_lt_zero _)
 later _ _:=rfl
 next:=rfl

lemma Cycle.InOrder.index_of_running (ordered:c.InOrder n)
 (running:(c.stages stage).status=.running):stage.index=n:=by
 rcases lt_trichotomy stage.index n with less|same|more
 · rw[(ordered.succeeded stage).mpr less] at running
   cases running
 · exact same
 · rw[ordered.later stage more] at running
   cases running

lemma Cycle.InOrder.next_of_here (ordered:c.InOrder n)(here:stage.index=n)
 (unsuppressed:(c.stages stage).status≠.suppressed):c.row.nextStage=some stage:=by
 rw[ordered.next,←here,stage.all_index]
 simp[unsuppressed]

lemma Cycle.InOrder.here_of_next (ordered:c.InOrder n)(next:c.row.nextStage=some stage) :
 stage.index=n:=by
 rw[ordered.next,Option.filter_eq_some_iff] at next
 exact Stage.index_of_all next.1

/-- A change of the `n`-th stage alone that does not end it well. -/
lemma Cycle.InOrder.here (ordered:c.InOrder n)(index:stage.index=n)
 (others:∀other,other≠stage→(c'.stages other).status=(c.stages other).status)
 (unsucceeded:(c'.stages stage).status≠.succeeded)
 (next:c'.row.nextStage=if (c'.stages stage).status=.suppressed then none else some stage) :
 c'.InOrder n where
 bounded:=ordered.bounded
 succeeded other:=by
  by_cases same:other=stage
  · subst same
    exact iff_of_false unsucceeded (by omega)
  · rw[others other same,ordered.succeeded]
 later other more:=by
  have different:other≠stage:=by
   rintro rfl
   omega
  rw[others other different,ordered.later other more]
 next:=by
  rw[next,←index,stage.all_index,Option.filter_some]
  by_cases suppressed:(c'.stages stage).status=.suppressed <;> simp[suppressed]

lemma Cycle.InOrder.alike (ordered:c.InOrder n)(alike:Alike c c'):c'.InOrder n where
 bounded:=ordered.bounded
 succeeded stage:=by rw[alike.stageStatus,ordered.succeeded]
 later stage more:=by rw[alike.stageStatus,ordered.later stage more]
 next:=by
  rw[alike.nextStage,ordered.next]
  simp only[alike.stageStatus]

lemma Cycle.InOrder.begun {now:ℤ}(ordered:c.InOrder n)(next:c.row.nextStage=some stage)
 (begun:Begun stage now c c'):c'.InOrder n:=by
 have index:=ordered.here_of_next next
 cases begun with
 | postponed=>exact ordered
 | running=>exact ordered
 | replayed =>
  refine ordered.here index (fun other hother=>?_) ?_ ?_
  · simp[Cycle.replay,hother]
  · simp[Cycle.replay]
  · simp[Cycle.replay,next]
 | restarted =>
  refine ordered.here index (fun other hother=>?_) ?_ ?_
  · simp[Cycle.restart,hother]
  · simp[Cycle.restart]
  · simp[Cycle.restart]

lemma Cycle.InOrder.finished {result:ActionResult}{proposal:Option Proposal}{now:ℤ}
 (ordered:c.InOrder n)(finished:Finished stage result proposal now c c') :
 ∃m,c'.InOrder m:=by
 have index:=ordered.index_of_running finished.running
 have others:∀other,other≠stage→(c'.stages other).status=(c.stages other).status:=
  fun other hother=>by rw[finished.others other hother]
 by_cases succeeded:result.status=.succeeded
 · have less:stage.index<Stage.all.length:=(List.getElem?_eq_some_iff.mp stage.all_index).1
   have later:∀other,n+1≤other.index→(c'.stages other).status=.pending:=by
    intro other more
    have different:other≠stage:=by
     rintro rfl
     omega
    rw[others other different,ordered.later other (by omega)]
   refine ⟨n+1,by omega,fun other=>?_,fun other more=>later other (by omega),?_⟩
   · by_cases same:other=stage
     · subst same
       exact iff_of_true (finished.stageStatus.trans succeeded) (by omega)
     · rw[others other same,ordered.succeeded]
       have different:other.index≠stage.index:=fun h=>same (Stage.index_injective h)
       omega
   · rw[finished.nextStage,succeeded]
     change stage.after=_
     rw[Stage.after,index]
     cases hnext:Stage.all[n+1]? with
     | none=>rfl
     | some next =>
      have pending:=later next (Stage.index_of_all hnext).ge
      rw[Option.filter_some,pending]
      rfl
 · refine ⟨n,ordered.here index others ?_ ?_⟩
   · rwa[finished.stageStatus]
   · rw[finished.nextStage,finished.stageStatus]
     cases hstatus:result.status <;> first | rfl | exact absurd hstatus succeeded

lemma Cycle.InOrder.ended {final:Status}(ordered:c.InOrder n)(ended:Ended final c c')
 (next:final.terminal=true→c.row.nextStage=none):c'.InOrder n where
 bounded:=ordered.bounded
 succeeded stage:=by rw[ended.stages,ordered.succeeded]
 later stage more:=by rw[ended.stages,ordered.later stage more]
 next:=by
  rw[ended.stages,←ordered.next,ended.nextStage]
  split
  · rename_i terminal
    exact (next terminal).symm
  · rfl

/-- What `Agrees` asks at the point is what keeps the order over the turn. -/
lemma inOrder_turned {configs:String → Config}{run run':Run}{choice:Choice}
 {point point':Point}{snap:CycleSnapshot}(agrees:Agrees run snap c point)
 (turn:Turn configs run snap choice point c c' run' point')(ordered:∃n,c.InOrder n) :
 ∃n,c'.InOrder n:=by
 obtain ⟨n,ordered⟩:=ordered
 cases turn with
 | begin h=>exact ⟨n,ordered.begun agrees.next (beginStage_ok h).2⟩
 | refused h | reserved h | replayed h =>exact ⟨n,ordered.alike (reserveStageCost_ok h).2.2.1.alike⟩
 | @bind c c' stage r proposal bound h =>
  obtain ⟨-,-,-,attempt,-,-,-,⟨rfl,-⟩|⟨rfl,-⟩⟩:=bindStageProposal_ok h
  · exact ⟨n,ordered⟩
  · exact ⟨n,ordered.alike (alike_bound c stage run.currentAttempt proposal run.now)⟩
 | succeed h | «end» h | halt h | interrupted h | failed h =>
  exact ordered.finished (finishStage_ok h)
 | complete h | close h =>
  have ended:=finishCycle_ok h
  exact ⟨n,ordered.ended ended fun _=>ended.complete rfl⟩
 | stop h =>
  obtain ⟨-,-,-,unfinished,next⟩:=agrees
  refine ⟨n,ordered.ended (finishCycle_ok h) fun terminal=>?_⟩
  rcases Status.terminal_iff.mp terminal with succeeded|suppressed
  · exact absurd succeeded unfinished
  · exact next suppressed
 | timeUp h | interruptedCycle h | failedCycle h =>exact ⟨n,ordered.ended (finishCycle_ok h) nofun⟩
 | _=>exact ⟨n,ordered⟩

end Order

variable (configs:String → Config)

def Event.handsOut (w:World):Event→Option ℕ
 | .start p ownerRef configFingerprint _ _ _ _ observedAt =>
  match w.runs p with
  | some _=>none
  | none=>(acquireLease ownerRef observedAt (configs configFingerprint).leaseSeconds
    w.store.lease).map Prod.snd
 | _=>none

def tokens:World→List Event→List ℕ
 | _,[]=>[]
 | w,e::es=>(e.handsOut configs w).toList++tokens (step configs w e) es

variable {configs}

/-- What an event does with the tokens: it hands out the next one, or none and
the last stays; and every run that there then is has one handed out. -/
structure Passes (w w':World)(handed:Option ℕ):Prop where
 generation:handed=none ∧ w'.store.lease.generation=w.store.lease.generation ∨
  handed=some (w.store.lease.generation+1) ∧ w'.store.lease.generation=w.store.lease.generation+1
 runs:∀p run' point',w'.runs p=some (run',point')→handed=some run'.fencingToken ∨
  ∃run point,w.runs p=some (run,point) ∧ run.fencingToken=run'.fencingToken

section Tokens
variable {w:World}

lemma Passes.refl:Passes w w none:=⟨.inl ⟨rfl,rfl⟩,fun _ run point hrun=>.inr ⟨run,point,hrun,rfl⟩⟩

lemma Passes.set {p:ℕ}{run:Run}{point:Point}{s':Store}{next:Option (Run × Point)}
 (hrun:w.runs p=some (run,point))
 (lease:s'.lease.generation=w.store.lease.generation)
 (same:∀run' point',next=some (run',point') → run'.fencingToken=run.fencingToken) :
 Passes w (World.set {w with store:=s'} p next) none where
 generation:=.inl ⟨rfl,lease⟩
 runs q run' point' hq:=by
  rw[World.set_runs] at hq
  split at hq
  · rename_i hqp
    exact .inr ⟨run,point,hqp ▸ hrun,(same run' point' hq).symm⟩
  · exact .inr ⟨run',point',hq,rfl⟩

lemma step_passes (fenced:Fenced w)(e:Event) :
 Passes w (step configs w e) (e.handsOut configs w):=by
 cases e with
 | start p owner fingerprint keys allow ready clock observedAt =>
  cases hrun:w.runs p with
  | some entry =>
   simp only[step,start,Event.handsOut,hrun]
   exact .refl
  | none =>
   cases hlease:acquireLease owner observedAt (configs fingerprint).leaseSeconds w.store.lease with
   | none =>
    simp only[step,start,Event.handsOut,hrun,hlease,Option.map_none]
    exact .refl
   | some acquired =>
    obtain ⟨lease,token⟩:=acquired
    obtain ⟨rfl,generation⟩:=acquireLease_some hlease
    simp only[step,start,Event.handsOut,hrun,hlease,Option.map_some]
    refine ⟨.inr ⟨rfl,generation⟩,fun q run' point' hq=>?_⟩
    rw[World.set_runs] at hq
    split at hq
    · cases hq
      exact .inl rfl
    · exact .inr ⟨run',point',hq,rfl⟩
 | step p choice =>
  simp only[step,Event.handsOut]
  split
  · exact .refl
  · rename_i run point hrun
    have located:=fenced.located hrun
    have raised:∀fault run' point',raised run point fault=some (run',point') →
      run'.fencingToken=run.fencingToken:=by
     intro fault run' point' hraised
     rw[(raised_some hraised).1]
    rcases advance_cases w p with ⟨fault,h⟩|⟨s',next,hperform,h|⟨fault,h⟩⟩ <;> rw[h]
    · exact Passes.set hrun rfl (raised fault)
    · have performed:=perform_ok located hperform
      refine Passes.set hrun performed.lease fun run' point' hnext=>?_
      subst hnext
      exact (performed.located located).1
    · exact Passes.set hrun (perform_ok located hperform).lease (raised fault)
 | crash p =>
  simp only[step,Event.handsOut]
  refine ⟨.inl ⟨rfl,rfl⟩,fun q run' point' hq=>?_⟩
  rw[World.set_runs] at hq
  split at hq
  · cases hq
  · exact .inr ⟨run',point',hq,rfl⟩
 | protect p observedAt =>
  simp only[step,Event.handsOut]
  split
  · exact .refl
  · unfold protect
    split
    · rename_i lease hlease
      exact ⟨.inl ⟨rfl,(heartbeatLease_ok hlease).2⟩,
       fun _ run' point' hq=>.inr ⟨run',point',hq,rfl⟩⟩
    · exact .refl
 | abandon ref reason clock =>
  cases habandon:abandonCycle ref reason clock w.store with
  | error failure =>
   simp only[step,habandon,Event.handsOut]
   exact .refl
  | ok abandoned =>
   obtain ⟨s',taken⟩:=abandoned
   obtain ⟨c,c',hc,-,-,rfl⟩:=abandonCycle_ok habandon
   simp only[step,habandon,Event.handsOut]
   exact ⟨.inl ⟨rfl,rfl⟩,fun _ run' point' hq=>.inr ⟨run',point',hq,rfl⟩⟩

structure Issued (issued:List ℕ)(w:World):Prop where
 ascending:issued.Pairwise (· < ·)
 bounded:∀token∈issued,token≤w.store.lease.generation
 held:∀p run point,w.runs p=some (run,point) → run.fencingToken∈issued

lemma Issued.next {issued:List ℕ}{w':World}{handed:Option ℕ}(h:Issued issued w)
 (passes:Passes w w' handed):Issued (issued++handed.toList) w':=by
 have held:∀p run' point',w'.runs p=some (run',point') → run'.fencingToken∈issued++handed.toList:=by
  intro p run' point' hrun'
  rcases passes.runs p run' point' hrun' with rfl|⟨run,point,hrun,token⟩
  · simp
  · exact List.mem_append_left _ (token ▸ h.held p run point hrun)
 rcases passes.generation with ⟨rfl,generation⟩|⟨rfl,generation⟩
 · refine ⟨by simpa using h.ascending,fun token htoken=>?_,held⟩
   rw[generation]
   exact h.bounded token (by simpa using htoken)
 · refine ⟨List.pairwise_append.mpr ⟨h.ascending,List.pairwise_singleton ..,?_⟩,?_,held⟩
   · intro token htoken last hlast
     rw[Option.toList_some,List.mem_singleton] at hlast
     have:=h.bounded token htoken
     omega
   · intro token htoken
     rw[generation]
     rcases List.mem_append.mp htoken with old|new
     · have:=h.bounded token old
       omega
     · rw[Option.toList_some,List.mem_singleton] at new
       omega

variable (configs) in
lemma issued_tokens {issued:List ℕ}(events:List Event)(fenced:Fenced w) (h:Issued issued w) :
 Issued (issued++tokens configs w events) (events.foldl (step configs) w):=by
 induction events generalizing w issued with
 | nil=>simpa[tokens] using h
 | cons e events ih =>
  have passes:Passes w (step configs w e) (e.handsOut configs w):=step_passes fenced e
  have next:=ih (fenced.next e) (h.next passes)
  simpa only[tokens,List.foldl_cons,List.append_assoc] using next

lemma fenced_reached (events:List Event):Fenced (reached configs events):=
 Runs.invariant Fenced (fun _ e fenced=>fenced.next e) events Fenced.empty

lemma Performed.writer {run:Run}{choice:Choice}{s s':Store}{point:Point}
 {next:Option (Run × Point)}(h:Performed configs run choice s point s' next) :
 s'.cycles=s.cycles ∨ run.holds s choice.observedAt:=by
 cases h with
 | observed cycles=>exact .inl cycles
 | resumed=>exact .inl rfl
 | created entered held=>exact .inr held
 | released cycles=>exact .inl cycles
 | turned hcycle hc held cycles =>
  rcases held with rfl|held
  · exact .inl (cycles.trans (cycles_of_eq hc).symm)
  · exact .inr held

lemma step_writer (fenced:Fenced w){e:Event}(unabandoned:e.abandons=false)
 (changed:(step configs w e).store.cycles≠w.store.cycles) :
 ∃p choice run point,e=.step p choice ∧ w.runs p=some (run,point) ∧
  run.holds w.store choice.observedAt:=by
 cases e with
 | start p owner fingerprint keys allow ready clock observedAt =>
  refine absurd ?_ changed
  simp only[step,start]
  split
  · rfl
  · split <;> rfl
 | step p choice =>
  cases hrun:w.runs p with
  | none=>simp only[step,hrun,ne_eq,not_true_eq_false] at changed
  | some entry =>
   obtain ⟨run,point⟩:=entry
   refine ⟨p,choice,run,point,rfl,hrun,?_⟩
   simp only[step,hrun] at changed
   have located:=fenced.located hrun
   rcases advance_cases w p with ⟨fault,h⟩|⟨s',next,hperform,h⟩
   · rw[h] at changed
     exact absurd rfl changed
   · have stored:(advance configs w p run point choice).store=s':=by
      rcases h with h|⟨fault,h⟩ <;> rw[h] <;> rfl
     rw[stored] at changed
     exact (perform_ok located hperform).writer.resolve_left changed
 | crash p=>exact absurd rfl changed
 | protect p observedAt =>
  refine absurd ?_ changed
  simp only[step]
  split
  · rfl
  · unfold protect
    split <;> rfl
 | abandon ref reason clock=>cases unabandoned

lemma step_turn (fenced:Fenced w){e:Event}(unabandoned:e.abandons=false){ref:CycleRef}
 {c c':Cycle}(hc:w.store.cycles ref=some c)
 (hc':(step configs w e).store.cycles ref=some c') :
 c'=c ∨ ∃p choice run snap point run' point',e=.step p choice ∧
  w.runs p=some (run,point) ∧ run.cycle=some (ref,snap) ∧
  run.fencingToken=w.store.lease.generation ∧
  Turn configs run snap choice point c c' run' point':=by
 by_cases same:(step configs w e).store.cycles=w.store.cycles
 · rw[same,hc] at hc'
   exact .inl (Option.some.inj hc').symm
 · obtain ⟨p,choice,run,point,rfl,hrun,held⟩:=step_writer fenced unabandoned same
   have located:=fenced.located hrun
   simp only[step,hrun] at hc' same
   rcases advance_cases w p with ⟨fault,h⟩|⟨s',next,hperform,h⟩
   · rw[h] at same
     exact absurd rfl same
   · have stored:(advance configs w p run point choice).store=s':=by
      rcases h with h|⟨fault,h⟩ <;> rw[h] <;> rfl
     rw[stored] at hc' same
     cases perform_ok located hperform with
     | observed cycles=>exact absurd cycles same
     | resumed=>exact absurd rfl same
     | released cycles=>exact absurd cycles same
     | @created created snap entered held fingerprint fresh shown =>
      rw[Store.put_cycles,Function.update_apply] at hc'
      split at hc'
      · rename_i href
        rw[href,fresh] at hc
        cases hc
      · exact .inl (Option.mem_unique hc hc').symm
     | @turned turned snap c₀ c₁ _ run' _ point' hcycle hc₀ _ cycles _ turn =>
      rw[cycles,Function.update_apply] at hc'
      split at hc'
      · rename_i href
        subst href
        cases hc₀.symm.trans hc
        cases hc'
        exact .inr ⟨p,choice,run,snap,point,run',point',rfl,hrun,hcycle,Run.holder held,turn⟩
      · exact .inl (Option.mem_unique hc hc').symm

end Tokens

def Cycle.Orderly (c:Cycle):Prop:=c.checked=.ok c ∧ ∃n,c.InOrder n

lemma orderly_upkeep :
 Upkeep configs (fun _=>True) (fun _=>Cycle.Orderly) Agrees fun _ _ _ _ _=>True:=
 agrees_upkeep (fun now _=>⟨rfl,0,inOrder_createCycle now⟩) (fun orderly=>orderly.1)
  fun _ orderly agrees _ turn checked=>⟨checked,inOrder_turned agrees turn orderly.2⟩

/-- However many runners there are, and whenever their leases expire: fencing
tokens ascend, the holder of the last alone writes, and the stages that have
succeeded come first, with the next stage after them unless it is suppressed. -/
theorem runners_keep_the_order (configs:String → Config)(events:List Event)
  (unabandoned:∀e∈events,e.abandons=false) :
  (tokens configs World.empty events).Pairwise (· < ·) ∧
  (∀before e after,events=before++e::after →
   (step configs (reached configs before) e).store.cycles ≠
    (reached configs before).store.cycles →
   ∃p choice run point,e=.step p choice ∧ (reached configs before).runs p=some (run,point) ∧
    run.fencingToken∈tokens configs World.empty before ∧
    (∀token∈tokens configs World.empty before,token≤run.fencingToken) ∧
    run.holds (reached configs before).store choice.observedAt) ∧
  ∀ref c,(reached configs events).store.cycles ref=some c →∃n,n≤Stage.all.length ∧
    (∀stage,(c.stages stage).status=.succeeded ↔ stage.index<n) ∧
    (∀stage,(c.stages stage).status=.running →
     Stage.all[n]?=some stage ∧ c.row.nextStage=some stage) ∧
    match Stage.all[n]? with
    | none=>c.row.nextStage=none
    | some stage=>c.row.nextStage =
      if (c.stages stage).status=.suppressed then none else some stage:=by
 have start:Issued [] World.empty:=
  ⟨.nil,fun _ htoken=>absurd htoken List.not_mem_nil,fun _ _ _ hrun=>by cases hrun⟩
 refine ⟨(issued_tokens _ events Fenced.empty start).ascending,?_,?_⟩
 · rintro before e after rfl changed
   obtain ⟨p,choice,run,point,rfl,hrun,held⟩:=
    step_writer (fenced_reached before) (unabandoned e (by simp)) changed
   have issued:=issued_tokens configs before Fenced.empty start
   refine ⟨p,choice,run,point,rfl,hrun,issued.held p run point hrun,?_,held⟩
   intro token htoken
   rw[Run.holder held]
   exact issued.bounded token htoken
 · intro ref c hc
   have guarded:Runs.Along (step configs) (Guarded fun _ _ _ _ _=>True) World.empty events:=
    Runs.along_of_mem World.empty fun _ _ _ _ _ _ _ _ _ _ _ _ _ _=>trivial
   obtain ⟨-,n,ordered⟩:=
    (Kept.reached orderly_upkeep (fun _=>trivial) unabandoned guarded).2.stored hc
   refine ⟨n,ordered.bounded,ordered.succeeded,fun stage running=>?_,?_⟩
   · have index:=ordered.index_of_running running
     exact ⟨index ▸ stage.all_index,ordered.next_of_here index (by simp[running])⟩
   · rw[ordered.next]
     cases Stage.all[n]? with
     | none=>rfl
     | some stage =>
      rw[Option.filter_some]
      by_cases suppressed:(c.stages stage).status=.suppressed <;> simp[suppressed]

def sampleConfig:Config:=⟨50,600,60⟩

def sampleProposal (stage:Stage):Proposal where
 planRef:="plan"
 actionIndex:=0
 command:=stage.command
 targetRef:="target"
 argumentFingerprint:="arguments"
 estimatedCost:=stage.cost
 reasonCodes:=[]
 evidenceRefs:=[]

def sampleChoice (stage:Stage)(result:{r:ActionResult // r.Accepted}):Choice:=
 ⟨0,0,sampleProposal stage,result,none,false⟩

lemma succeeded_accepted:ActionResult.Accepted {status:=.succeeded} where
 bounded:=⟨nofun,nofun⟩
 reasoned h:=absurd rfl h
 reserved:=by norm_num
 observed:=by norm_num
 retried:=nofun
 replayed:=nofun

def executedRun:List Event:=.start 0 "worker" "config" ["key"] true true 0 0 ::
  List.replicate 10 (.step 0 (sampleChoice .signalSeed ⟨_,succeeded_accepted⟩))

lemma suppressed_accepted :
 ActionResult.Accepted {status:=.suppressed,reasonCodes:=["SUPPRESSED"]} where
 bounded:=⟨nofun,nofun⟩
 reasoned _:=nofun
 reserved:=by norm_num
 observed:=by norm_num
 retried:=nofun
 replayed:=nofun

def suppressedRun:List Event:=.start 0 "worker" "config" ["key"] true true 0 0 ::
  List.replicate 12 (.step 0 (sampleChoice .signalSeed ⟨_,suppressed_accepted⟩))

theorem runners_keep_the_order_suppressed :
  ∃c,(reached (fun _=>sampleConfig) suppressedRun).store.cycles ⟨"config","key"⟩=some c ∧
   ∃n,n≤Stage.all.length ∧ (∀stage,(c.stages stage).status=.succeeded ↔ stage.index<n) ∧
    (∀stage,(c.stages stage).status=.running →
     Stage.all[n]?=some stage ∧ c.row.nextStage=some stage) ∧
    match Stage.all[n]? with
    | none=>c.row.nextStage=none
    | some stage=>c.row.nextStage =
      if (c.stages stage).status=.suppressed then none else some stage:=by
 have stored:((reached (fun _=>sampleConfig) suppressedRun).store.cycles
   ⟨"config","key"⟩).isSome=true:=by decide +kernel
 obtain ⟨c,hc⟩:=Option.isSome_iff_exists.mp stored
 exact ⟨c,hc,(runners_keep_the_order (fun _=>sampleConfig) suppressedRun (by decide)).2.2 _ c hc⟩

/-- A suppressed stage leaves its cycle without a next stage. -/
theorem suppressed_stage_leaves_no_next :
 ¬∀ (configs:String → Config)(events:List Event),(∀e∈events,e.abandons=false) →
  ∀ref c,(reached configs events).store.cycles ref=some c →∃n,n≤Stage.all.length ∧
    (∀stage,(c.stages stage).status=.succeeded ↔ stage.index<n) ∧
    (∀stage,(c.stages stage).status=.running →
     Stage.all[n]?=some stage ∧ c.row.nextStage=some stage) ∧
    c.row.nextStage=Stage.all[n]?:=by
 intro claim
 have left:((reached (fun _=>sampleConfig) suppressedRun).store.cycles
   ⟨"config","key"⟩).map (fun c=>(c.row.nextStage,(c.stages .signalSeed).status)) =
    some (none,.suppressed):=by decide +kernel
 obtain ⟨c,hc,hpair⟩:=Option.map_eq_some_iff.mp left
 obtain ⟨next,suppressed⟩:=Prod.mk.inj hpair
 obtain ⟨n,bounded,succeeded,-,hnext⟩:=claim (fun _=>sampleConfig) suppressedRun (by decide) _ c hc
 rw[next] at hnext
 have every:Stage.all.length≤n:=List.getElem?_eq_none_iff.mp hnext.symm
 have seeded:=(succeeded .signalSeed).mpr (lt_of_lt_of_le (by decide) every)
 rw[suppressed] at seeded
 cases seeded

end Kivou.AcquisitionRuntime
