import Kivou.RuntimeRows
import Kivou.RuntimeTurns
import Kivou.Runs

set_option autoImplicit false

/-! Every acquisition hands out a token of its own, and only the run with the last one writes. -/
namespace Kivou.AcquisitionRuntime
open PythonValues

variable {configs:String → Config}

section Steps
variable {run run':Run}{choice:Choice}{s s':Store}{point point':Point}
 {next:Option (Run × Point)}{snap:CycleSnapshot}{c c':Cycle}

lemma Turn.same (turn:Turn configs run snap choice point c c' run' point') :
 run'.fencingToken=run.fencingToken ∧ run'.cycle=run.cycle ∧
  run'.configFingerprint=run.configFingerprint ∧ point'.early=false:=by
 cases turn with
 | loop =>
  refine ⟨rfl,rfl,rfl,?_⟩
  split <;> rfl
 | replayed | bind =>
  refine ⟨rfl,rfl,rfl,?_⟩
  unfold proposed
  split
  · rfl
  · split <;> rfl
 | _=>exact ⟨rfl,rfl,rfl,rfl⟩

lemma Performed.lease (h:Performed configs run choice s point s' next) :
 s'.lease.generation=s.lease.generation:=by
 cases h with
 | observed cycles lease next=>rw[lease]
 | resumed=>rfl
 | created=>rfl
 | released cycles lease=>exact lease
 | turned hcycle hc held cycles lease turn=>exact lease

lemma Performed.stored (h:Performed configs run choice s point s' next)(ref:CycleRef)
 (stored:(s.cycles ref).isSome=true):(s'.cycles ref).isSome=true:=by
 have updated:∀ (ref':CycleRef)(c':Cycle),
   (Function.update s.cycles ref' (some c') ref).isSome=true:=by
  intro ref' c'
  by_cases href:ref=ref'
  · subst href
    simp
  · rwa[Function.update_of_ne href]
 cases h with
 | observed cycles lease next=>rwa[cycles]
 | resumed=>exact stored
 | created=>exact updated _ _
 | released cycles lease=>rwa[cycles]
 | turned hcycle hc held cycles lease turn=>rw[cycles];exact updated _ _

lemma Run.located_of_some {ref:CycleRef}(hcycle:run.cycle=some (ref,snap)) :
 run.located point s ↔ point.early=false ∧ (s.cycles ref).isSome=true ∧
  ref.configFingerprint=run.configFingerprint:=by
 simp only[Run.located,hcycle]

lemma Performed.located (h:Performed configs run choice s point s' (some (run',point')))
 (located:run.located point s) :
 run'.fencingToken=run.fencingToken ∧ run'.located point' s':=by
 have stored:=h.stored
 generalize hnext:some (run',point')=next at h
 cases h with
 | observed cycles lease next =>
  cases hnext
  refine ⟨rfl,?_⟩
  cases hcycle:run.cycle with
  | none =>
   simp only[Run.located,hcycle] at located ⊢
   exact ⟨by rcases next with rfl|rfl <;> simp[Point.early],located.2⟩
  | some cycle =>simp only[Run.located,hcycle,Point.early,Bool.true_eq_false,false_and] at located
 | resumed entered fingerprint hc shown =>
  cases hnext
  exact ⟨rfl,rfl,by simp[hc],fingerprint⟩
 | created entered held fingerprint fresh shown =>
  cases hnext
  exact ⟨rfl,rfl,by simp,fingerprint⟩
 | released cycles lease=>cases hnext
 | @turned ref snap c c' s' run'' point point'' hcycle hc held cycles lease turn =>
  cases hnext
  obtain ⟨token,cycle,fingerprint,late⟩:=turn.same
  rw[Run.located_of_some hcycle] at located
  rw[Run.located_of_some (cycle.trans hcycle)]
  exact ⟨token,late,stored ref located.2.1,by rw[fingerprint];exact located.2.2⟩

lemma raised_some {fault:Fault}(h:raised run point fault=some (run',point')) :
 run'=run ∧ point'.early=false ∧ (run.cycle=none→point'=.release):=by
 have thrown:(run.raise fault).early=false ∧ (run.cycle=none → run.raise fault=.release):=by
  cases fault with
  | baseException=>exact ⟨rfl,fun _=>rfl⟩
  | interruptedError =>
   simp only[Run.raise]
   split
   · split
     · exact ⟨rfl,by simp[*]⟩
     · exact ⟨rfl,fun _=>rfl⟩
   · exact ⟨rfl,fun _=>rfl⟩
  | exception =>
   simp only[Run.raise]
   split
   · exact ⟨rfl,fun _=>rfl⟩
   · exact ⟨rfl,by simp[*]⟩
   · split
     · exact ⟨rfl,by simp[*]⟩
     · exact ⟨rfl,by simp[*]⟩
 cases point <;> cases h <;> first | exact ⟨rfl,thrown⟩ | exact ⟨rfl,rfl,fun _=>rfl⟩

def Point.handler:Point→Bool
 | .interrupted _ | .failed _ | .failedCycle | .release=>true
 | _=>false

lemma raised_handler {fault:Fault}(h:raised run point fault=some (run',point')) :
 point'.handler=true:=by
 have thrown:(run.raise fault).handler=true:=by
  cases fault with
  | baseException=>rfl
  | interruptedError =>
   simp only[Run.raise]
   split
   · split <;> rfl
   · rfl
  | exception =>
   simp only[Run.raise]
   split
   · rfl
   · rfl
   · split <;> rfl
 cases point <;> cases h <;> first | exact thrown | rfl

lemma located_raised {fault:Fault}(h:raised run point fault=some (run',point'))
 (located:run.located point s)
 (stored:∀ref:CycleRef,(s.cycles ref).isSome=true→(s'.cycles ref).isSome=true) :
 run'.fencingToken=run.fencingToken ∧ run'.located point' s':=by
 obtain ⟨rfl,late,uncycled⟩:=raised_some h
 refine ⟨rfl,?_⟩
 cases hcycle:run'.cycle with
 | none =>
  simp only[Run.located,hcycle] at located ⊢
  exact ⟨.inr (uncycled hcycle),located.2⟩
 | some cycle =>
  rw[Run.located_of_some hcycle] at located ⊢
  exact ⟨late,stored _ located.2.1,located.2.2⟩

lemma advance_cases (w:World)(p:ℕ) :
 (∃fault,advance configs w p run point choice=w.set p (raised run point fault)) ∨
  ∃s' next,perform configs run point choice w.store=.ok (s',next) ∧
   (advance configs w p run point choice=World.set {w with store:=s'} p next ∨
    ∃fault,advance configs w p run point choice =
     World.set {w with store:=s'} p (raised run point fault)):=by
 unfold advance
 cases hfault:choice.fault with
 | none =>
  cases hperform:perform configs run point choice w.store with
  | error failure=>exact .inl ⟨.exception,rfl⟩
  | ok done=>exact .inr ⟨done.1,done.2,rfl,.inl rfl⟩
 | some fault =>
  cases hperform:perform configs run point choice w.store with
  | error failure=>exact .inl ⟨fault,rfl⟩
  | ok done =>
   cases hcommitted:choice.committed with
   | false=>exact .inl ⟨fault,rfl⟩
   | true=>exact .inr ⟨done.1,done.2,rfl,.inr ⟨fault,rfl⟩⟩

end Steps

@[simp] lemma World.set_store (w:World)(p:ℕ)(next:Option (Run × Point)) :
 (w.set p next).store=w.store:=rfl
lemma World.set_runs (w:World)(p q:ℕ)(next:Option (Run × Point)) :
 (w.set p next).runs q=if q=p then next else w.runs q:=Function.update_apply _ _ _ _

structure Fenced (w:World):Prop where
 bounded:∀ {p:ℕ}{run:Run}{point:Point},
  w.runs p=some (run,point) → run.fencingToken≤w.store.lease.generation
 distinct:∀ {p q:ℕ}{run run':Run}{point point':Point},
  w.runs p=some (run,point)→w.runs q=some (run',point') → run.fencingToken=run'.fencingToken→p=q
 located:∀ {p:ℕ}{run:Run}{point:Point},w.runs p=some (run,point) → run.located point w.store

lemma Fenced.empty:Fenced World.empty:=⟨nofun,nofun,nofun⟩

section Fence
variable {w:World}{p:ℕ}{run:Run}{point:Point}

lemma located_stored {s s':Store}(located:run.located point s)
 (stored:∀ref:CycleRef,(s.cycles ref).isSome=true→(s'.cycles ref).isSome=true) :
 run.located point s':=by
 cases hcycle:run.cycle with
 | none=>simpa only[Run.located,hcycle] using located
 | some cycle =>
  rw[Run.located_of_some hcycle] at located ⊢
  exact ⟨located.1,stored _ located.2.1,located.2.2⟩

lemma Fenced.set (fenced:Fenced w)(hrun:w.runs p=some (run,point)){s':Store}
 {next:Option (Run × Point)}(lease:s'.lease.generation=w.store.lease.generation)
 (stored:∀ref:CycleRef,(w.store.cycles ref).isSome=true→(s'.cycles ref).isSome=true)
 (moved:∀run' point',next=some (run',point') →
  run'.fencingToken=run.fencingToken ∧ run'.located point' s') :
 Fenced (World.set {w with store:=s'} p next):=by
 have origin:∀ {q:ℕ}{run':Run}{point':Point},
   (World.set {w with store:=s'} p next).runs q=some (run',point') →
   ∃run₀ point₀,w.runs q=some (run₀,point₀) ∧ run'.fencingToken=run₀.fencingToken ∧
    run'.located point' s':=by
  intro q run' point' hq
  rw[World.set_runs] at hq
  split at hq
  · rename_i hqp
    obtain ⟨token,located⟩:=moved run' point' hq
    exact ⟨run,point,hqp ▸ hrun,token,located⟩
  · exact ⟨run',point',hq,rfl,located_stored (fenced.located hq) stored⟩
 constructor
 · intro q run' point' hq
   obtain ⟨run₀,point₀,h₀,token,-⟩:=origin hq
   rw[World.set_store,lease,token]
   exact fenced.bounded h₀
 · intro q q' run' run'' point' point'' hq hq' htoken
   obtain ⟨run₀,point₀,h₀,token,-⟩:=origin hq
   obtain ⟨run₁,point₁,h₁,token',-⟩:=origin hq'
   exact fenced.distinct h₀ h₁ (by rw[←token,←token',htoken])
 · intro q run' point' hq
   obtain ⟨run₀,point₀,-,-,located⟩:=origin hq
   exact located

lemma Fenced.store (fenced:Fenced w){s':Store} (lease:s'.lease.generation=w.store.lease.generation)
 (stored:∀ref:CycleRef,(w.store.cycles ref).isSome=true→(s'.cycles ref).isSome=true) :
 Fenced {w with store:=s'} where
 bounded hq:=by
  rw[lease]
  exact fenced.bounded hq
 distinct hq hq' htoken:=fenced.distinct hq hq' htoken
 located hq:=located_stored (fenced.located hq) stored

lemma acquireLease_some {owner:String}{observedAt seconds:ℤ}{lease lease':Lease}{token:ℕ}
 (h:acquireLease owner observedAt seconds lease=some (lease',token)) :
 token=lease.generation+1 ∧ lease'.generation=lease.generation+1:=by
 simp only[acquireLease] at h
 split at h
 · cases h;exact ⟨rfl,rfl⟩
 · cases h

lemma abandonCycle_ok {ref:CycleRef}{reason:String}{now:ℤ}{s s':Store}{taken:Bool}
 (h:abandonCycle ref reason now s=.ok (s',taken)) :
 ∃c c',s.cycles ref=some c ∧ abandonRows now c=(c',taken) ∧ c'.checked=.ok c' ∧ s'=s.put ref c':=by
 simp only[abandonCycle] at h
 split at h
 · cases h
 · unfold Store.onCycle at h
   split at h
   · cases h
   · rename_i c hc
     obtain ⟨⟨written,taken'⟩,hwritten,h⟩:=bind_ok.mp h
     cases h
     obtain ⟨c'',hchecked,hpair⟩:=bind_ok.mp hwritten
     obtain ⟨hchecked,checked⟩:=Cycle.checked_ok hchecked
     simp only[Except.ok.injEq,Prod.mk.injEq] at hpair
     obtain ⟨hwritten,htaken⟩:=hpair
     refine ⟨c,c'',hc,by rw[hchecked,←htaken],hchecked ▸ checked,by rw[hwritten]⟩

lemma Fenced.start (fenced:Fenced w){lease:Lease}{run:Run}
 (token:run.fencingToken=w.store.lease.generation+1)
 (generation:lease.generation=w.store.lease.generation+1)
 (located:run.located point w.store) :
 Fenced (World.set {w with store:={w.store with lease:=lease}} p (some (run,point))):=by
 constructor
 · intro q run' point' hq
   rw[World.set_runs] at hq
   change run'.fencingToken≤lease.generation
   split at hq
   · cases hq
     omega
   · have:=fenced.bounded hq
     omega
 · intro q q' run' run'' point' point'' hq hq' htoken
   rw[World.set_runs] at hq hq'
   split at hq <;> split at hq'
   · rename_i hqp hqp'
     rw[hqp,hqp']
   · cases hq
     have:=fenced.bounded hq'
     omega
   · cases hq'
     have:=fenced.bounded hq
     omega
   · exact fenced.distinct hq hq' htoken
 · intro q run' point' hq
   rw[World.set_runs] at hq
   split at hq
   · cases hq
     exact located
   · exact fenced.located hq

def Event.process:Event→Option ℕ
 | .start p ..=>some p
 | .step p _=>some p
 | .crash p=>some p
 | .protect p _=>some p
 | .abandon ..=>none

lemma step_runs_other (w:World){e:Event}{q:ℕ}(other:e.process≠some q) :
 (step configs w e).runs q=w.runs q:=by
 have set:∀ {p:ℕ}(s:Store)(next:Option (Run × Point)),p≠q →
   (World.set {w with store:=s} p next).runs q=w.runs q:=by
  intro p s next different
  rw[World.set_runs,if_neg different.symm]
 cases e with
 | start p owner fingerprint keys allow ready clock observedAt =>
  have different:p≠q:=fun h=>other (congrArg some h)
  simp only[step,AcquisitionRuntime.start]
  split
  · rfl
  · split
    · rfl
    · exact set _ _ different
 | step p choice =>
  have different:p≠q:=fun h=>other (congrArg some h)
  simp only[step]
  split
  · rfl
  · rename_i run point hrun
    rcases advance_cases w p with ⟨fault,h⟩|⟨s',next,-,h|⟨fault,h⟩⟩ <;> rw[h]
    all_goals exact set _ _ different
 | crash p=>exact set _ _ fun h=>other (congrArg some h)
 | protect p observedAt =>
  simp only[step]
  split
  · rfl
  · unfold protect
    split <;> rfl
 | abandon ref reason clock =>
  cases habandon:abandonCycle ref reason clock w.store <;> simp only[step,habandon]

lemma Fenced.next (fenced:Fenced w)(e:Event):Fenced (step configs w e):=by
 cases e with
 | start p owner fingerprint keys allow ready clock observedAt =>
  simp only[step,AcquisitionRuntime.start]
  split
  · exact fenced
  · rename_i idle
    split
    · exact fenced
    · rename_i lease token hlease
      obtain ⟨rfl,generation⟩:=acquireLease_some hlease
      exact fenced.start rfl generation ⟨.inl rfl,rfl⟩
 | step p choice =>
  simp only[step]
  split
  · exact fenced
  · rename_i run point hrun
    have located:=fenced.located hrun
    rcases advance_cases w p with ⟨fault,h⟩|⟨s',next,hperform,h|⟨fault,h⟩⟩ <;> rw[h]
    · exact fenced.set hrun rfl (fun _ stored=>stored)
       fun run' point' hraised=>located_raised hraised located fun _ stored=>stored
    · have performed:=perform_ok located hperform
      refine fenced.set hrun performed.lease performed.stored fun run' point' hnext=>?_
      subst hnext
      exact performed.located located
    · have performed:=perform_ok located hperform
      exact fenced.set hrun performed.lease performed.stored
       fun run' point' hraised=>located_raised hraised located performed.stored
 | crash p =>
  simp only[step]
  cases hrun:w.runs p with
  | none=>rwa[World.set,Function.update_eq_self_iff.mpr hrun.symm]
  | some entry =>
   exact fenced.set hrun rfl (fun _ stored=>stored) fun run' point' hnext=>by cases hnext
 | protect p observedAt =>
  simp only[step]
  split
  · exact fenced
  · unfold protect
    split
    · rename_i lease hlease
      exact fenced.store (heartbeatLease_ok hlease).2 fun _ stored=>stored
    · exact fenced
 | abandon ref reason clock =>
  cases habandon:abandonCycle ref reason clock w.store with
  | error failure=>simpa only[step,habandon] using fenced
  | ok abandoned =>
   obtain ⟨s',taken⟩:=abandoned
   obtain ⟨c,c',hc,-,-,rfl⟩:=abandonCycle_ok habandon
   simp only[step,habandon]
   refine fenced.store rfl fun ref' stored=>?_
   by_cases href:ref'=ref
   · subst href
     simp
   · rwa[Store.put_cycles,Function.update_of_ne href]

end Fence

/-- Every turn that `G` admits keeps the rows in `R` and the holder in `A`;
the cycles of `F` may still be created. -/
structure Upkeep (configs:String → Config)(F:CycleRef→Prop)(R:CycleRef→Cycle→Prop)
  (A:Run→CycleSnapshot→Cycle→Point→Prop)
  (G:Run→CycleSnapshot→Choice→Point→Cycle→Prop):Prop where
 created:∀ {ref:CycleRef}(now:ℤ),F ref→R ref (createCycle now)
 resumed:∀ {ref:CycleRef}{run:Run}{snap:CycleSnapshot}{c:Cycle},
  run.currentStage=none→R ref c→c.snapshot=.ok snap→A
  {run with cycle:=some (ref,snap)} snap c .greet
 turned:∀ {ref:CycleRef}{run run':Run}{snap:CycleSnapshot}{choice:Choice}
  {point point':Point}{c c':Cycle},run.cycle=some (ref,snap) →
  ref.configFingerprint=run.configFingerprint→R ref c→A run snap c point→G run snap choice point c →
  Turn configs run snap choice point c c' run' point' →R ref c' ∧ A run' snap c' point' ∧
    ∀fault thrown,raised run point fault=some (run,thrown)→A run snap c' thrown
 raised:∀ {ref:CycleRef}{run:Run}{snap:CycleSnapshot}{point thrown:Point}{c:Cycle}
  {fault:Fault},point.early=false→R ref c→A run snap c point →
  raised run point fault=some (run,thrown) →A run snap c thrown

/-- The rows of every cycle are in `R`, and the holder is in `A` with those of its own. -/
structure Kept (F:CycleRef→Prop)(R:CycleRef→Cycle→Prop)
  (A:Run→CycleSnapshot→Cycle→Point→Prop)(w:World):Prop where
 fresh:∀ {ref:CycleRef},w.store.cycles ref=none→F ref
 stored:∀ {ref:CycleRef}{c:Cycle},w.store.cycles ref=some c→R ref c
 held:∀ {p:ℕ}{run:Run}{point:Point}{ref:CycleRef}{snap:CycleSnapshot}{c:Cycle},
  w.runs p=some (run,point) → run.cycle=some (ref,snap) →
   run.fencingToken=w.store.lease.generation→w.store.cycles ref=some c →A run snap c point

def Event.abandons:Event→Bool
 | .abandon _ _ _=>true
 | _=>false

def Guarded (G:Run→CycleSnapshot→Choice→Point→Cycle→Prop)(w:World)(e:Event) :
 Prop:=
 ∀p choice run point ref snap c,e=.step p choice→w.runs p=some (run,point) →
  run.cycle=some (ref,snap)→w.store.cycles ref=some c→G run snap choice point c

section Upkeep
variable {F:CycleRef→Prop}{R:CycleRef→Cycle→Prop} {A:Run→CycleSnapshot→Cycle→Point→Prop}
 {G:Run→CycleSnapshot→Choice→Point→Cycle→Prop}{w:World}{p:ℕ}{run:Run}
 {point:Point}

lemma Kept.empty (every:∀ref,F ref):Kept F R A World.empty:=⟨fun {ref} _=>every ref,nofun,nofun⟩

lemma Kept.set (kept:Kept F R A w)(fenced:Fenced w)(hrun:w.runs p=some (run,point))
 {s':Store}{next:Option (Run × Point)}
 (lease:s'.lease.generation=w.store.lease.generation)
 (kept':∀ref,(w.store.cycles ref).isSome=true→(s'.cycles ref).isSome=true)
 (written:s'.cycles=w.store.cycles ∨ run.fencingToken=w.store.lease.generation)
 (stored:∀ref c,s'.cycles ref=some c→R ref c)
 (moved:∀run' point' ref snap c,next=some (run',point') → run'.cycle=some (ref,snap) →
  run'.fencingToken=w.store.lease.generation→s'.cycles ref=some c→A run' snap c point') :
 Kept F R A (World.set {w with store:=s'} p next):=by
 refine ⟨fun {ref} hnone=>kept.fresh ?_,fun hc=>stored _ _ hc,?_⟩
 · cases href:w.store.cycles ref with
   | none=>rfl
   | some c =>
    have:=kept' ref (by simp[href])
    rw[World.set_store] at hnone
    change s'.cycles ref=none at hnone
    simp[hnone] at this
 intro q run' point' ref snap c hq hcycle token hc
 rw[World.set_runs] at hq
 rw[World.set_store] at hc token
 change run'.fencingToken=s'.lease.generation at token
 change s'.cycles ref=some c at hc
 rw[lease] at token
 split at hq
 · exact moved run' point' ref snap c hq hcycle token hc
 · rename_i other
   rcases written with same|holder
   · rw[same] at hc
     exact kept.held hq hcycle token hc
   · exact absurd (fenced.distinct hq hrun (token.trans holder.symm)) other

lemma Run.holder {run:Run}{s:Store}{observedAt:ℤ}(held:run.holds s observedAt) :
 run.fencingToken=s.lease.generation:=
 (Lease.generation_of_heldBy held).symm

lemma Kept.performed (keep:Upkeep configs F R A G)(kept:Kept F R A w)(fenced:Fenced w)
 (hrun:w.runs p=some (run,point)){choice:Choice}{s':Store}
 {next:Option (Run × Point)}(h:Performed configs run choice w.store point s' next)
 (guarded:∀ref snap c,run.cycle=some (ref,snap)→w.store.cycles ref=some c →
  G run snap choice point c) :
 Kept F R A (World.set {w with store:=s'} p next) ∧
  ∀fault,Kept F R A (World.set {w with store:=s'} p (raised run point fault)):=by
 have located:=fenced.located hrun
 have remaining:=h.stored
 -- A run that has no cycle raises to its release, where nothing is asked.
 have uncycled:∀fault run' point' ref snap,point.early=true →
   raised run point fault=some (run',point') → run'.cycle≠some (ref,snap):=by
  intro fault run' point' ref snap early hraised hcycle
  obtain ⟨rfl,-,-⟩:=raised_some hraised
  rw[Run.located_of_some hcycle,early] at located
  cases located.1
 cases h with
 | @observed s' point' cycles lease next =>
  have stored:∀ref c,s'.cycles ref=some c→R ref c:=by
   intro ref c hc
   rw[cycles] at hc
   exact kept.stored hc
  constructor
  · refine kept.set fenced hrun (by rw[lease]) remaining (.inl cycles) stored ?_
    intro run' point'' ref snap c hnext hcycle
    cases hnext
    rw[Run.located_of_some hcycle] at located
    cases located.1
  · intro fault
    refine kept.set fenced hrun (by rw[lease]) remaining (.inl cycles) stored ?_
    intro run' point'' ref snap c hraised hcycle
    exact absurd hcycle (uncycled fault run' point'' ref snap rfl hraised)
 | @resumed ref c snap entered fingerprint hc shown =>
  constructor
  · refine kept.set fenced hrun rfl remaining (.inl rfl) (fun _ _=>kept.stored) ?_
    intro run' point'' ref' snap' c' hnext hcycle token hc'
    cases hnext
    cases hcycle
    rw[hc] at hc'
    cases hc'
    exact keep.resumed entered (kept.stored hc) shown
  · intro fault
    refine kept.set fenced hrun rfl remaining (.inl rfl) (fun _ _=>kept.stored) ?_
    intro run' point'' ref snap c hraised hcycle
    exact absurd hcycle (uncycled fault run' point'' ref snap rfl hraised)
 | @created ref snap entered held fingerprint fresh shown =>
  have stored:∀ref' c,(w.store.put ref (createCycle run.now)).cycles ref'=some c →
    R ref' c:=by
   intro ref' c hc
   rw[Store.put_cycles,Function.update_apply] at hc
   split at hc
   · rename_i href
     cases hc
     exact keep.created run.now (kept.fresh (href ▸ fresh))
   · exact kept.stored hc
  constructor
  · refine kept.set fenced hrun rfl remaining (.inr (Run.holder held)) stored ?_
    intro run' point'' ref' snap' c' hnext hcycle token hc'
    cases hnext
    cases hcycle
    rw[Store.put_cycles,Function.update_self] at hc'
    cases hc'
    exact keep.resumed entered (keep.created run.now (kept.fresh fresh)) shown
  · intro fault
    refine kept.set fenced hrun rfl remaining (.inr (Run.holder held)) stored ?_
    intro run' point'' ref snap c hraised hcycle
    exact absurd hcycle (uncycled fault run' point'' ref snap rfl hraised)
 | released cycles lease =>
  have stored:∀ref c,s'.cycles ref=some c→R ref c:=by
   intro ref c hc
   rw[cycles] at hc
   exact kept.stored hc
  constructor
  · refine kept.set fenced hrun lease remaining (.inl cycles) stored ?_
    intro run' point' ref snap c hnext
    cases hnext
  · intro fault
    refine kept.set fenced hrun lease remaining (.inl cycles) stored ?_
    intro run' point' ref snap c hraised
    cases hraised
 | @turned ref snap c c' s' run' point point' hcycle hc held cycles lease turn =>
  have fingerprint:=((Run.located_of_some hcycle).mp located).2.2
  have turned:run.fencingToken=w.store.lease.generation→R ref c' ∧ A run' snap c' point' ∧
    ∀fault thrown,raised run point fault=some (run,thrown)→A run snap c' thrown:=
   fun holder=>keep.turned hcycle fingerprint (kept.stored hc) (kept.held hrun hcycle holder hc)
    (guarded ref snap c hcycle hc) turn
  have written:s'.cycles=w.store.cycles ∨ run.fencingToken=w.store.lease.generation:=by
   rcases held with rfl|held
   · exact .inl (cycles.trans (cycles_of_eq hc).symm)
   · exact .inr (Run.holder held)
  have stored:∀ref' c₀,s'.cycles ref'=some c₀→R ref' c₀:=by
   intro ref' c₀ hc₀
   rcases written with same|holder
   · rw[same] at hc₀
     exact kept.stored hc₀
   · rw[cycles,Function.update_apply] at hc₀
     split at hc₀
     · rename_i href
       cases hc₀
       exact href ▸ (turned holder).1
     · exact kept.stored hc₀
  obtain ⟨token,cycle,-,-⟩:=turn.same
  have own:∀c₀,s'.cycles ref=some c₀→c₀=c':=by
   intro c₀ hc₀
   rw[cycles,Function.update_self] at hc₀
   exact (Option.some.inj hc₀).symm
  constructor
  · refine kept.set fenced hrun lease remaining written stored ?_
    intro run'' point'' ref'' snap'' c'' hnext hcycle'' holder hc''
    cases hnext
    rw[cycle,hcycle] at hcycle''
    cases hcycle''
    rw[own c'' hc'']
    exact (turned (token.symm.trans holder)).2.1
  · intro fault
    refine kept.set fenced hrun lease remaining written stored ?_
    intro run'' point'' ref'' snap'' c'' hraised hcycle'' holder hc''
    obtain ⟨rfl,-,-⟩:=raised_some hraised
    rw[hcycle] at hcycle''
    cases hcycle''
    rw[own c'' hc'']
    exact (turned holder).2.2 fault point'' hraised

lemma Kept.lease (kept:Kept F R A w){lease:Lease}
 (generation:lease.generation=w.store.lease.generation) :
 Kept F R A {w with store:={w.store with lease:=lease}} where
 fresh hnone:=kept.fresh hnone
 stored hc:=kept.stored hc
 held hq hcycle token hc:=kept.held hq hcycle (token.trans generation) hc

lemma Kept.next (keep:Upkeep configs F R A G)(kept:Kept F R A w)(fenced:Fenced w){e:Event}
 (unabandoned:e.abandons=false)(guarded:Guarded G w e) :
 Kept F R A (step configs w e):=by
 cases e with
 | start p owner fingerprint keys allow ready clock observedAt =>
  simp only[step,AcquisitionRuntime.start]
  split
  · exact kept
  · split
    · exact kept
    · rename_i lease token hlease
      obtain ⟨rfl,generation⟩:=acquireLease_some hlease
      refine ⟨fun hnone=>kept.fresh hnone,fun hc=>kept.stored hc,?_⟩
      intro q run' point' ref snap c hq hcycle token hc
      rw[World.set_runs] at hq
      split at hq
      · cases hq
        cases hcycle
      · have:=fenced.bounded hq
        change run'.fencingToken=lease.generation at token
        omega
 | step p choice =>
  simp only[step]
  split
  · exact kept
  · rename_i run point hrun
    have located:=fenced.located hrun
    have turns:∀ref snap c,run.cycle=some (ref,snap)→w.store.cycles ref=some c →
      G run snap choice point c:=
     fun ref snap c hcycle hc=>guarded p choice run point ref snap c rfl hrun hcycle hc
    rcases advance_cases w p with ⟨fault,h⟩|⟨s',next,hperform,h|⟨fault,h⟩⟩ <;> rw[h]
    · refine kept.set fenced hrun rfl (fun _ hsome=>hsome) (.inl rfl) (fun _ _=>kept.stored) ?_
      intro run' point' ref snap c hraised hcycle holder hc
      obtain ⟨rfl,-,-⟩:=raised_some hraised
      have late:=((Run.located_of_some hcycle).mp located).1
      exact keep.raised late (kept.stored hc) (kept.held hrun hcycle holder hc) hraised
    · exact (kept.performed keep fenced hrun (perform_ok located hperform) turns).1
    · exact (kept.performed keep fenced hrun (perform_ok located hperform) turns).2 fault
 | crash p =>
  simp only[step]
  refine ⟨fun hnone=>kept.fresh hnone,fun hc=>kept.stored hc,?_⟩
  intro q run point ref snap c hq hcycle token hc
  rw[World.set_runs] at hq
  split at hq
  · cases hq
  · exact kept.held hq hcycle token hc
 | protect p observedAt =>
  simp only[step]
  split
  · exact kept
  · unfold protect
    split
    · rename_i lease hlease
      exact kept.lease (heartbeatLease_ok hlease).2
    · exact kept
 | abandon ref reason clock=>cases unabandoned

lemma Kept.abandoned (kept:Kept F R A w){ref:CycleRef}{reason:String}{clock:ℤ}
 (rows:∀c c' taken,w.store.cycles ref=some c→abandonRows clock c=(c',taken) →
  c'.checked=.ok c'→R ref c')
 (held:∀c c' p run point snap,w.store.cycles ref=some c →
  abandonRows clock c=(c',true) →
  abandonCycle ref reason clock w.store=.ok (w.store.put ref c',true) →
  w.runs p=some (run,point) →
  run.cycle=some (ref,snap) → run.fencingToken=w.store.lease.generation →
  A run snap c' point) :
 Kept F R A (step configs w (.abandon ref reason clock)):=by
 cases habandon:abandonCycle ref reason clock w.store with
 | error failure=>simpa only[step,habandon] using kept
 | ok abandoned =>
  obtain ⟨s',taken⟩:=abandoned
  obtain ⟨c,c',hc,hrows,checked,rfl⟩:=abandonCycle_ok habandon
  simp only[step,habandon]
  refine ⟨fun {ref'} hnone=>?_,fun {ref' c₀} hc₀=>?_,?_⟩
  · change (w.store.put ref c').cycles ref'=none at hnone
    rw[Store.put_cycles,Function.update_apply] at hnone
    split at hnone
    · cases hnone
    · exact kept.fresh hnone
  · change (w.store.put ref c').cycles ref'=some c₀ at hc₀
    rw[Store.put_cycles,Function.update_apply] at hc₀
    split at hc₀
    · rename_i href
      cases hc₀
      exact href ▸ rows c c' taken hc hrows checked
    · exact kept.stored hc₀
  · intro q run point ref' snap c₀ hq hcycle token hc₀
    change (w.store.put ref c').cycles ref'=some c₀ at hc₀
    rw[Store.put_cycles,Function.update_apply] at hc₀
    split at hc₀
    · rename_i href
      subst href
      cases hc₀
      cases taken with
      | true=>exact held c c' q run point snap hc hrows habandon hq hcycle token
      | false =>
       have same:c'=c:=by
        unfold abandonRows at hrows
        split at hrows <;> cases hrows
        rfl
       exact kept.held hq hcycle token (same ▸ hc)
    · exact kept.held hq hcycle token hc₀

lemma Kept.reached (keep:Upkeep configs F R A G)(every:∀ref,F ref){events:List Event}
 (unabandoned:∀e∈events,e.abandons=false)
 (guarded:Runs.Along (step configs) (Guarded G) World.empty events) :
 Fenced (reached configs events) ∧ Kept F R A (reached configs events):=by
 have admitted:=(Runs.along_of_mem World.empty fun e he _=>unabandoned e he).and guarded
 exact admitted.invariant (fun w=>Fenced w ∧ Kept F R A w)
  (fun w e inv ok=>⟨inv.1.next e,inv.2.next keep inv.1 ok.1 ok.2⟩) ⟨Fenced.empty,Kept.empty every⟩

end Upkeep

end Kivou.AcquisitionRuntime
