import Kivou.RuntimeCosts

set_option autoImplicit false

/-! What a run reserves, observes and replays, over any history: the charges of a cycle, the
reservations that the store accepts, and the calls outside that are made on them. -/
namespace Kivou.AcquisitionRuntime
open PythonValues Tables

section Budget
variable {configs:String → Config}{run run':Run}{choice:Choice}{point point':Point}
 {snap:CycleSnapshot}{c c':Cycle}{stage:Stage}{maximum:ℚ}{now:ℤ}

variable (configs) in
def Paying (run:Run)(c:Cycle):Point→Prop
 | .beat stage _ result=>Replays (run.config configs).maximumCycleCost stage result c
 | .finish stage _ result _=>Replays (run.config configs).maximumCycleCost stage result c
 | _=>True

variable (configs) in
/-- An attempt that is to be replayed has observed no more than its reservation,
and none of a free stage is interrupted unreserved past the maximum. -/
def Chargeable (run:Run)(_:CycleSnapshot)(choice:Choice)(point:Point)(c:Cycle):Prop:=
 match point with
 | .execute stage r proposal =>
  let result:=settled (run.config configs).maximumCycleCost r proposal choice.result.1
  result.status=.waiting → result.replaySameAttempt=true →numeric result.observedCost ≤ stage.cost
 | .interrupted stage =>
  c.attempt? stage (c.stages stage).attemptCount=none→stage.cost=0 →
   c.spentCost≤(run.config configs).maximumCycleCost
 | _=>True

lemma paying_raised {fault:Fault}{thrown:Point}
 (h:raised run point fault=some (run,thrown)):Paying configs run c thrown:=by
 have handler:=raised_handler h
 cases thrown <;> cases handler <;> trivial

lemma replays_once {result:ActionResult}
 (once:result.status=.waiting → result.replaySameAttempt=false) :
 Replays maximum stage result c:=by
 intro waiting again
 rw[once waiting] at again
 cases again

lemma paying_proposed {r:Reservation}{proposal:Proposal} :
 Paying configs run c (proposed stage r proposal):=by
 unfold proposed
 split
 · exact replays_once nofun
 · split
   · exact replays_once nofun
   · trivial

lemma charged_turned (orderly:c.Orderly)(booked:c.Booked)
 (charged:c.Charged (run.config configs).maximumCycleCost)(agrees:Agrees run snap c point)
 (booking:Booking run c point)(paying:Paying configs run c point)
 (chargeable:Chargeable configs run snap choice point c)
 (turn:Turn configs run snap choice point c c' run' point') :
 (c'.Charged (run.config configs).maximumCycleCost ∧ c.spentCost≤c'.spentCost) ∧
  Paying configs run' c' point':=by
 have kept:c.Charged (run.config configs).maximumCycleCost ∧ c.spentCost≤c.spentCost:=
  ⟨charged,le_rfl⟩
 cases turn with
 | enter | leave | conclude | postpone | noted | propose | record | recordFault =>
  exact ⟨kept,trivial⟩
 | loop =>
  refine ⟨kept,?_⟩
  split <;> trivial
 | begin h =>
  obtain ⟨charged',same⟩:=charged.begun booked agrees.next (beginStage_ok h).2
  exact ⟨⟨charged',same.ge⟩,trivial⟩
 | unauthorized=>exact ⟨kept,replays_once fun _=>rfl⟩
 | refused h =>
  obtain ⟨charged',more,-⟩:=
   charged.reserved booked agrees.next agrees.attempt (reserveStageCost_ok h).2.2.1
  exact ⟨⟨charged',more⟩,replays_once nofun⟩
 | reserved h =>
  obtain ⟨charged',more,-⟩:=
   charged.reserved booked agrees.next agrees.attempt (reserveStageCost_ok h).2.2.1
  exact ⟨⟨charged',more⟩,trivial⟩
 | replayed h =>
  obtain ⟨charged',more,-⟩:=
   charged.reserved booked agrees.next agrees.attempt (reserveStageCost_ok h).2.2.1
  exact ⟨⟨charged',more⟩,paying_proposed⟩
 | @bind c c' stage r proposal bound h =>
  obtain ⟨-,-,-,attempt,-,-,-,⟨rfl,-⟩|⟨rfl,-⟩⟩:=bindStageProposal_ok h
  · exact ⟨kept,paying_proposed⟩
  · obtain ⟨charged',same⟩:=charged.bound agrees.next agrees.attempt
    exact ⟨⟨charged',same.ge⟩,paying_proposed⟩
 | @execute c stage r proposal =>
  obtain ⟨attempt,found,cost⟩:=booking
  rw[←agrees.attempt] at found
  refine ⟨kept,fun waiting again=>⟨fun a found'=>?_,fun missing=>?_⟩⟩
  · cases found.symm.trans found'
    rw[cost]
    exact chargeable waiting again
  · cases found.symm.trans missing
 | beat=>exact ⟨kept,paying⟩
 | succeed h | «end» h | halt h =>
  exact ⟨charged.finished booked orderly.2 agrees.1.next booking paying agrees.2
   (finishStage_ok h),trivial⟩
 | complete h | stop h | timeUp h | close h | interruptedCycle h | failedCycle h =>
  exact ⟨charged.ended (finishCycle_ok h),trivial⟩
 | @interrupted c c' stage h =>
  have finished:=finishStage_ok h
  have ends:(waitingResult choice.clock).ends:=⟨nofun,nofun⟩
  have replays:Replays (run.config configs).maximumCycleCost stage (waitingResult choice.clock) c:=by
   refine fun _ _=>⟨fun a found=>?_,fun missing=>⟨rfl,chargeable missing⟩⟩
   exact numeric_zero.trans_le (booked.ledger.nonneg (Cycle.attempt?_some found).1)
  exact ⟨charged.finished booked orderly.2 (agrees finished.running)
   (settled_free (.inr rfl) ⟨rfl,rfl⟩) replays ends finished,trivial⟩
 | @failed c c' stage h =>
  have finished:=finishStage_ok h
  have ends:failedResult.ends:=⟨nofun,nofun⟩
  have once:Replays (run.config configs).maximumCycleCost stage failedResult c:=replays_once nofun
  exact ⟨charged.finished booked orderly.2 (agrees finished.running)
   (settled_free (.inr rfl) ⟨rfl,rfl⟩) once ends finished,trivial⟩

variable (configs) in
def Accounted (ref:CycleRef)(c:Cycle):Prop:=
 c.Orderly ∧ c.Booked ∧ c.Charged (configs ref.configFingerprint).maximumCycleCost

variable (configs) in
def Spending (run:Run)(snap:CycleSnapshot)(c:Cycle)(point:Point):Prop:=
 Agrees run snap c point ∧ Booking run c point ∧ Paying configs run c point

lemma budget_upkeep :
 Upkeep configs (fun _=>True) (Accounted configs) (Spending configs) (Chargeable configs) where
 created now _:=⟨⟨rfl,0,inOrder_createCycle now⟩,booked_createCycle now,charged_createCycle _ now⟩
 resumed entered _ shown:=⟨agrees_resumed entered shown,trivial,trivial⟩
 turned:=by
  intro ref run run' snap choice point point' c c' _ fingerprint accounted spending chargeable turn
  obtain ⟨orderly,booked,charged⟩:=accounted
  obtain ⟨agrees,booking,paying⟩:=spending
  rw[fingerprint] at charged
  obtain ⟨checked',agrees',inside⟩:=agrees.turned orderly.1 turn
  obtain ⟨booked',booking'⟩:=booked_turned orderly.1 booked agrees booking turn
  obtain ⟨⟨charged',-⟩,paying'⟩:=
   charged_turned orderly booked charged agrees booking paying chargeable turn
  refine ⟨⟨⟨checked',inOrder_turned agrees turn orderly.2⟩,booked',?_⟩,
   ⟨agrees',booking',paying'⟩,?_⟩
  · rwa[fingerprint]
  · intro fault thrown hraised
    exact ⟨agrees_raised_of_inside inside turn.late hraised,booking_raised hraised,
     paying_raised hraised⟩
 raised late accounted spending hraised:=
  ⟨agrees_raised_of_inside (spending.1.inside accounted.1.1) late hraised,booking_raised hraised,
   paying_raised hraised⟩

lemma accounted_reached {events:List Event}(unabandoned:∀e∈events,e.abandons=false)
 (chargeable:Runs.Along (step configs) (Guarded (Chargeable configs)) World.empty events) :
 Fenced (reached configs events) ∧
  Kept (fun _=>True) (Accounted configs) (Spending configs) (reached configs events):=
 Kept.reached budget_upkeep (fun _=>trivial) unabandoned chargeable

lemma spent_grows {w:World}{e:Event}{ref:CycleRef}(fenced:Fenced w)
 (kept:Kept (fun _=>True) (Accounted configs) (Spending configs) w)
 (unabandoned:e.abandons=false)(chargeable:Guarded (Chargeable configs) w e)
 (hc:w.store.cycles ref=some c)(hc':(step configs w e).store.cycles ref=some c') :
 c.row.spentCost≤c'.row.spentCost:=by
 rcases step_turn fenced unabandoned hc hc' with
  rfl | ⟨p,choice,run,snap,point,run',point',rfl,hrun,hcycle,holder,turn⟩
 · exact le_rfl
 · obtain ⟨orderly,booked,charged⟩:=kept.stored hc
   obtain ⟨agrees,booking,paying⟩:=kept.held hrun hcycle holder hc
   rw[((Run.located_of_some hcycle).mp (fenced.located hrun)).2.2] at charged
   obtain ⟨booked',-⟩:=booked_turned orderly.1 booked agrees booking turn
   obtain ⟨⟨-,more⟩,-⟩:=charged_turned orderly booked charged agrees booking paying
    (chargeable p choice run point ref snap c rfl hrun hcycle hc) turn
   rw[booked.spent,booked'.spent]
   exact more

inductive OnReservation (stage:Stage)(r:Reservation):Point→Prop
 | propose:OnReservation stage r (.propose stage r)
 | bind (proposal:Proposal):OnReservation stage r (.bind stage r proposal)
 | execute (proposal:Proposal):OnReservation stage r (.execute stage r proposal)

variable (configs) in
/-- Earlier on, the store accepted `r` for the attempt of `run` at `stage`. -/
def AcceptedBefore (events:List Event)(p:ℕ)(run:Run)(stage:Stage)(r:Reservation) :
 Prop:=
 ∃before choice after ref snap c c',events=before++.step p choice::after ∧
  (reached configs before).runs p=some (run,.reserve stage) ∧
  run.cycle=some (ref,snap) ∧ (reached configs before).store.cycles ref=some c ∧
  reserveStageCost stage run.currentAttempt stage.cost (run.config configs).maximumCycleCost
   run.now c=.ok (c',r) ∧ r.accepted=true

lemma AcceptedBefore.later {events:List Event}{p:ℕ}{r:Reservation}(e:Event)
 (h:AcceptedBefore configs events p run stage r) :
 AcceptedBefore configs (events++[e]) p run stage r:=by
 obtain ⟨before,choice,after,ref,snap,c,c',rfl,rest⟩:=h
 exact ⟨before,choice,after++[e],ref,snap,c,c',by simp,rest⟩

lemma not_onReservation_raised {r:Reservation}{fault:Fault}{thrown:Point}
 (h:raised run point fault=some (run',thrown)):¬OnReservation stage r thrown:=by
 have handler:=raised_handler h
 rintro ⟨⟩ <;> cases handler

lemma onReservation_proposed {r r':Reservation}{stage':Stage}{proposal:Proposal}
 (on:OnReservation stage r (proposed stage' r' proposal)):stage'=stage ∧ r'=r:=by
 unfold proposed at on
 split at on
 · cases on
 · split at on
   · cases on
   · cases on
     exact ⟨rfl,rfl⟩

lemma Turn.onReservation {r:Reservation} (turn:Turn configs run snap choice point c c' run' point')
 (on:OnReservation stage r point') :
 run'=run ∧ (OnReservation stage r point ∨ point=.reserve stage ∧
  reserveStageCost stage run.currentAttempt stage.cost (run.config configs).maximumCycleCost
   run.now c=.ok (c',r) ∧ r.accepted=true):=by
 cases turn with
 | loop =>split at on <;> cases on
 | reserved h accepted unbound =>
  cases on
  exact ⟨rfl,.inr ⟨rfl,h,accepted⟩⟩
 | replayed h accepted bound =>
  obtain ⟨rfl,rfl⟩:=onReservation_proposed on
  exact ⟨rfl,.inr ⟨rfl,h,accepted⟩⟩
 | propose =>
  cases on
  exact ⟨rfl,.inl .propose⟩
 | bind h =>
  obtain ⟨rfl,rfl⟩:=onReservation_proposed on
  exact ⟨rfl,.inl (.bind _)⟩
 | _=>cases on

lemma accepted_before (events:List Event){p:ℕ}{r:Reservation}
 (hrun:(reached configs events).runs p=some (run,point))(on:OnReservation stage r point) :
 AcceptedBefore configs events p run stage r:=by
 induction events using List.reverseRecOn generalizing run point with
 | nil=>cases hrun
 | append_singleton events e ih =>
  have fenced:Fenced (reached configs events):=fenced_reached events
  have next:reached configs (events++[e])=step configs (reached configs events) e:=by
   simp only[reached,List.foldl_append,List.foldl_cons,List.foldl_nil]
  rw[next] at hrun
  have before:(reached configs events).runs p=some (run,point) →
    AcceptedBefore configs (events++[e]) p run stage r:=fun h=>(ih h on).later e
  by_cases own:e.process=some p
  · cases e with
    | start q owner fingerprint keys allow ready clock observedAt =>
     cases own
     simp only[step,AcquisitionRuntime.start] at hrun
     split at hrun
     · exact before hrun
     · split at hrun
       · exact before hrun
       · rw[World.set_runs,if_pos rfl] at hrun
         cases hrun
         cases on
    | step q choice =>
     cases own
     simp only[step] at hrun
     split at hrun
     · exact before hrun
     · rename_i run₀ point₀ hrun₀
       have located:=fenced.located hrun₀
       rcases advance_cases (reached configs events) p with
        ⟨fault,h⟩ | ⟨s',next',hperform,h | ⟨fault,h⟩⟩ <;>
        rw[h,World.set_runs,if_pos rfl] at hrun
       · exact absurd on (not_onReservation_raised hrun)
       · subst hrun
         have performed:=perform_ok located hperform
         generalize hnext:some (run,point)=next at performed
         cases performed with
         | observed cycles lease next =>
          cases hnext
          rcases next with rfl|rfl <;> cases on
         | resumed | created =>
          cases hnext
          cases on
         | released=>cases hnext
         | @turned ref snap c c' _ _ _ _ hcycle hc _ _ _ turn =>
          cases hnext
          obtain ⟨rfl,on' | ⟨rfl,h,accepted⟩⟩:=turn.onReservation on
          · exact (ih hrun₀ on').later (.step p choice)
          · exact ⟨events,choice,[],ref,snap,c,c',rfl,hrun₀,hcycle,hc,h,accepted⟩
       · exact absurd on (not_onReservation_raised hrun)
    | crash q =>
     cases own
     simp only[step] at hrun
     rw[World.set_runs,if_pos rfl] at hrun
     cases hrun
    | protect q observedAt =>
     simp only[step] at hrun
     split at hrun
     · exact before hrun
     · unfold protect at hrun
       split at hrun <;> exact before hrun
    | abandon ref reason clock=>cases own
  · rw[step_runs_other _ own] at hrun
    exact before hrun

end Budget

/-- Along a history whose replayable results stay within their reservations: a
cycle shows the sum of what its attempts charge, each of them once, and that
sum never falls; an accepted reservation leaves it within the maximum; and
nothing outside is called but on a reservation of the attempt at hand. -/
theorem costs_stay_within_budget (configs:String → Config)(events:List Event)
 (unabandoned:∀e∈events,e.abandons=false)
 (chargeable:Runs.Along (step configs) (Guarded (Chargeable configs)) World.empty events) :
 (∀ref c,(reached configs events).store.cycles ref=some c →
  c.row.spentCost=(c.attempts.map fun a=>max a.reservedCost a.observedCost).sum ∧
   (c.attempts.map AttemptRow.key).Nodup ∧
   ∀a∈c.attempts,a.reservedCost=0 ∨ a.reservedCost=a.stage.cost) ∧
 (∀before e after ref c c',events=before++e::after →
  (reached configs before).store.cycles ref=some c →
  (step configs (reached configs before) e).store.cycles ref=some c' →
  c.row.spentCost≤c'.row.spentCost) ∧
 (∀before p choice after run stage ref snap c s r,
  events=before++.step p choice::after →
  (reached configs before).runs p=some (run,.reserve stage) → run.cycle=some (ref,snap) →
  run.onCycle choice.observedAt (reached configs before).store
   (reserveStageCost stage run.currentAttempt stage.cost
    (run.config configs).maximumCycleCost run.now)=.ok (s,r) → r.accepted=true →
  s.cycles ref=some c→c.row.spentCost≤(run.config configs).maximumCycleCost) ∧
 ∀p run point stage r,(reached configs events).runs p=some (run,point) →
  OnReservation stage r point→AcceptedBefore configs events p run stage r:=by
 have along:∀before e after,events=before++e::after →(Fenced (reached configs before) ∧
    Kept (fun _=>True) (Accounted configs) (Spending configs) (reached configs before)) ∧
   e.abandons=false ∧ Guarded (Chargeable configs) (reached configs before) e:=by
  rintro before e after rfl
  obtain ⟨first,here,-⟩:=(Runs.along_append _ before _).mp chargeable
  exact ⟨accounted_reached (fun e he=>unabandoned e (List.mem_append_left _ he)) first,
   unabandoned e (by simp),here⟩
 refine ⟨?_,?_,?_,?_⟩
 · intro ref c hc
   obtain ⟨-,booked,-⟩:=(accounted_reached unabandoned chargeable).2.stored hc
   refine ⟨booked.spent,booked.ledger.unique,fun a mem=>?_⟩
   exact (booked.ledger.reserved a mem).symm.imp_left fun none=>none.1
 · intro before e after ref c c' split hc hc'
   obtain ⟨⟨fenced,kept⟩,unabandoned,here⟩:=along before e after split
   exact spent_grows fenced kept unabandoned here hc hc'
 · intro before p choice after run stage ref snap c' s r split hrun hcycle h accepted hc'
   obtain ⟨⟨fenced,kept⟩,-,here⟩:=along before _ after split
   have located:=(Run.located_of_some hcycle).mp (fenced.located hrun)
   obtain ⟨c,hc⟩:=Option.isSome_iff_exists.mp located.2.1
   obtain ⟨held,c₁,hc₁,rfl⟩:=Run.onCycle_ok hcycle hc h
   rw[Store.put_cycles,Function.update_self] at hc'
   cases hc'
   obtain ⟨agrees,-⟩:=kept.held hrun hcycle (Run.holder held) hc
   obtain ⟨-,booked,charged⟩:=kept.stored hc
   rw[located.2.2] at charged
   have reserved:=(reserveStageCost_ok hc₁).2.2.1
   obtain ⟨spent,-⟩:=booked.reserved_total stage.cost_nonneg reserved
   obtain ⟨-,-,within⟩:=charged.reserved booked agrees.next agrees.attempt reserved
   exact spent.trans_le (within accepted)
 · intro p run point stage r hrun on
   exact accepted_before events hrun on

def frugal (w:World):Event→Bool
 | .step p choice =>
  match w.runs p with
  | some (_,.execute _ _ _)=>choice.result.1.status != .waiting
  | some (_,.interrupted _)=>false
  | _=>true
 | _=>true

lemma chargeable_of_frugal (configs:String → Config)(w:World)(e:Event)
 (h:frugal w e=true):Guarded (Chargeable configs) w e:=by
 rintro p choice run point ref snap c rfl hrun - -
 simp only[frugal,hrun] at h
 cases point with
 | execute stage r proposal =>
  intro waiting
  unfold settled at waiting
  split at waiting
  · cases waiting
  · change choice.result.1.status=.waiting at waiting
    simp[waiting] at h
 | interrupted stage=>cases h
 | _=>trivial

theorem costs_stay_within_budget_executed :
 ∃c,(reached (fun _=>sampleConfig) executedRun).store.cycles ⟨"config","key"⟩=some c ∧
  c.row.spentCost=(c.attempts.map fun a=>max a.reservedCost a.observedCost).sum:=by
 have frugal:Runs.Along (step fun _=>sampleConfig) (fun w e=>frugal w e=true) World.empty
   executedRun:=by decide +kernel
 have stored:((reached (fun _=>sampleConfig) executedRun).store.cycles
   ⟨"config","key"⟩).isSome=true:=by decide +kernel
 obtain ⟨c,hc⟩:=Option.isSome_iff_exists.mp stored
 exact ⟨c,hc,((costs_stay_within_budget (fun _=>sampleConfig) executedRun (by decide)
  (frugal.imp (chargeable_of_frugal _))).1 _ c hc).1⟩

lemma waiting_accepted:ActionResult.Accepted
 { status:=.waiting,observedCost:=10,reasonCodes:=["WAIT"],retryAt:=some 0,
   replaySameAttempt:=true} where
 bounded:=⟨nofun,nofun⟩
 reasoned _:=nofun
 reserved:=by norm_num
 observed:=by norm_num
 retried _:=rfl
 replayed _:=⟨rfl,rfl⟩

def waitingRun:List Event:=.start 0 "worker" "config" ["key"] true true 0 0 ::
  List.replicate 15 (.step 0 (sampleChoice .signalSeed ⟨_,waiting_accepted⟩))

def replayedRun:List Event:=.start 0 "worker" "config" ["key"] true true 0 0 ::
  List.replicate 8 (.step 0 (sampleChoice .signalSeed ⟨_,waiting_accepted⟩))

/-- A replay that is refused writes nothing over what its attempt observed. -/
theorem refused_replay_lowers_spent : ¬∀ (configs:String → Config)(events later:List Event),
  (∀e∈events++later,e.abandons=false)→∀ref c c',
  (reached configs events).store.cycles ref=some c →
  (reached configs (events++later)).store.cycles ref=some c' →
  c.row.spentCost≤c'.row.spentCost:=by
 intro claim
 have before:((reached (fun _=>sampleConfig) waitingRun).store.cycles ⟨"config","key"⟩).map
   (fun c=>c.row.spentCost)=some 10:=by decide +kernel
 have after:((reached (fun _=>sampleConfig) (waitingRun++replayedRun)).store.cycles
   ⟨"config","key"⟩).map (fun c=>c.row.spentCost)=some 0:=by decide +kernel
 obtain ⟨c,hc,ten⟩:=Option.map_eq_some_iff.mp before
 obtain ⟨c',hc',zero⟩:=Option.map_eq_some_iff.mp after
 have falls:=claim (fun _=>sampleConfig) waitingRun replayedRun (by decide) _ c c' hc hc'
 rw[ten,zero] at falls
 norm_num at falls

end Kivou.AcquisitionRuntime
