import Kivou.ReliabilityWalk

set_option autoImplicit false

/-! A control answers one reason only: the one that it was written for. -/
namespace Kivou.ReliabilityRepeats
open PolicyControls SafetyControls OperationalIncidents ReliabilityObserver ReliabilityIncidents
 ReliabilityWalk

def scans (digests:ScanDigests)(h:History)(s:State)(times:List ℤ):State:=
 times.foldl (fun s t=>(scanCampaign digests h t s).2) s

/-- After the scan at a time, no later scan appends an incident or a control,
and the mode in force is what it was after one. -/
def Repeats (digests:ScanDigests)(h:History)(s:State)(at':ℤ):Prop:=
 ∀times:List ℤ,(at'::times).Pairwise (· ≤ ·) →
  let once:=(scanCampaign digests h at' s).2
  let often:=scans digests h once times
  refs often.incidents=refs once.incidents ∧ often.controls=once.controls ∧
   ∀t,(getEffectiveControl often.controls t).map Control.autonomyMode =
    (getEffectiveControl once.controls t).map Control.autonomyMode

def gotTo (log:Log)(at':ℤ):List Outcome→List Outcome
 | []=>[]
 | o::rest=>if held log at' o then [o] else o::gotTo log at' rest

def Idle (log:Log)(at':ℤ)(os:List Outcome):Prop:=∀o∈gotTo log at' os,held log at' o=true ∨
  ∀c∈getEffectiveControl log at',answers c o=true

def ownCodes (c:Control):Option (List String):=
 if c.createdByActorRef=safetyControllerRef then some c.reasonCodes else none

def changes:Option (List String)→List Outcome→ℕ
 | _,[]=>0
 | last,o::rest=>(if last=some o.reasonCodes then 0 else 1)+changes (some o.reasonCodes) rest

/-- One of the incidents is critical, they have one reason, or the reason changes
as often as it takes from the control in force down to `SHADOW`. -/
def Converges (log:Log)(at':ℤ)(os:List Outcome):Prop:=
 (∃o∈os,o.critical=true) ∨ (∀o∈os,∀o'∈os,o.reasonCodes=o'.reasonCodes) ∨
  ∀c∈getEffectiveControl log at',level c.autonomyMode≤changes (ownCodes c) os

/-- The scan finds nothing to lower, nor does a later one, which gets to no other
incident; or it lowers the control in force, and its incidents converge. -/
structure Settles (digests:ScanDigests)(h:History)(s:State)(at':ℤ):Prop where
 idle:Idle s.controls at' (incidentsOf digests h s.incidents)→∀t,at'≤t →
  Idle s.controls t (incidentsOf digests h s.incidents) ∧
  ∀o∈gotTo s.controls t (incidentsOf digests h s.incidents),o.incidentRef∈refs s.incidents ∨
   o.incidentRef∈(gotTo s.controls at' (incidentsOf digests h s.incidents)).map Outcome.incidentRef
 lowers:¬Idle s.controls at' (incidentsOf digests h s.incidents) →
  Converges s.controls at' (incidentsOf digests h s.incidents)

variable {digests:ScanDigests}{h:History}{s:State}{log:Log}{at' since:ℤ}{o:Outcome}
 {os:List Outcome}{head current c:Control}

lemma idle_nil:Idle log at' []:=by
 intro o mem
 cases mem

lemma idle_cons:Idle log at' (o::os) ↔ held log at' o=true ∨
 (∀c∈getEffectiveControl log at',answers c o=true) ∧ Idle log at' os:=by
 have step:gotTo log at' (o::os)=if held log at' o then [o] else o::gotTo log at' os:=rfl
 unfold Idle
 rw[step]
 cases stays:held log at' o with
 | true=>simp[stays]
 | false=>simp[stays]

lemma react_idle (answered:∀c∈getEffectiveControl log at',answers c o=true) :
 react digests log at' o=log:=by
 unfold react
 cases effective:getEffectiveControl log at' with
 | none=>cases getLatestControl log <;> rfl
 | some current =>
  obtain ⟨head,latest⟩:=latest_of_effective effective
  rw[latest]
  dsimp only
  rw[answered current effective,Bool.or_true,if_pos rfl]

lemma react_written (latest:getLatestControl log=some head)
 (effective:getEffectiveControl log at'=some current)(free:held log at' o=false)
 (fresh:answers current o=false) :
 react digests log at' o=log++[replacement digests head current at' o]:=by
 unfold react
 rw[latest,effective]
 dsimp only
 rw[free,fresh,if_neg (by decide)]

lemma walk_grows (os:List Outcome)(log:Log):log <+: (walk digests at' os log).2:=by
 induction os generalizing log with
 | nil=>exact List.prefix_rfl
 | cons o rest ih =>
  unfold walk
  split
  · exact List.prefix_rfl
  · refine List.IsPrefix.trans ?_ (ih _)
    unfold react
    split
    · split
      · exact List.prefix_rfl
      · exact List.prefix_append _ _
    · exact List.prefix_rfl

lemma walk_idle:(walk digests at' os log).2=log ↔ Idle log at' os:=by
 induction os with
 | nil=>exact iff_of_true rfl idle_nil
 | cons o rest ih =>
  rw[idle_cons]
  unfold walk
  cases stays:held log at' o with
  | true=>simp
  | false =>
   simp only[Bool.false_eq_true,↓reduceIte,false_or]
   constructor
   · intro same
     have grows:react digests log at' o <+: (walk digests at' rest (react digests log at' o)).2:=
      walk_grows rest _
     rw[same] at grows
     have answered:∀c∈getEffectiveControl log at',answers c o=true:=by
      intro c effective
      obtain ⟨head,latest⟩:=latest_of_effective effective
      by_contra fresh
      rw[react_written latest effective stays (Bool.eq_false_iff.mpr fresh)] at grows
      have longer:=grows.length_le
      simp at longer
     rw[react_idle answered] at same
     exact ⟨answered,ih.mp same⟩
   · rintro ⟨answered,idle⟩
     rw[react_idle answered]
     exact ih.mpr idle

lemma walk_gotTo (idle:Idle log at' os):(walk digests at' os log).1=gotTo log at' os:=by
 induction os with
 | nil=>rfl
 | cons o rest ih =>
  unfold walk gotTo
  rcases idle_cons.mp idle with stays|⟨answered,idle⟩
  · rw[if_pos stays,if_pos stays]
  · split
    · rfl
    · rw[react_idle answered,ih idle]

structure Decides (log:Log)(since:ℤ)(c:Control):Prop where
 latest:getLatestControl log=some c
 effective:∀t,since≤t → getEffectiveControl log t=some c

lemma Decides.held (decides:Decides log since c)(later:since≤at')(o:Outcome) :
 held log at' o=false:=by
 simp[ReliabilityWalk.held,headAhead,decides.latest,decides.effective at' later]

lemma Decides.idle (decides:Decides log since c)(later:since≤at') :
 Idle log at' os ↔ ∀o∈os,answers c o=true:=by
 induction os with
 | nil=>exact iff_of_true idle_nil (by simp)
 | cons o rest ih =>
  rw[idle_cons,ih,decides.held later,decides.effective at' later,List.forall_mem_cons]
  simp

lemma isOwn_iff:isOwn c o=true ↔ ownCodes c=some o.reasonCodes:=by
 unfold isOwn ownCodes
 by_cases own:c.createdByActorRef=safetyControllerRef <;> simp[own]

def lastCodes:Option (List String)→List Outcome→Option (List String)
 | last,[]=>last
 | _,o::rest=>lastCodes (some o.reasonCodes) rest

structure After (c:Control)(os:List Outcome)(c':Control):Prop where
 stays:isExactCriticalStop c=true→isExactCriticalStop c'=true
 critical:(∃o∈os,o.critical=true)→isExactCriticalStop c'=true
 mild:(∀o∈os,o.critical=false) →level c'.autonomyMode=level c.autonomyMode-changes (ownCodes c) os ∧
   (level c'.autonomyMode≠0 → ownCodes c'=lastCodes (ownCodes c) os)

lemma level_shadow {mode:AutonomyMode}:level mode=0 ↔ mode=.shadow:=by
 cases mode <;> simp[level]

lemma After.nil (c:Control):After c [] c:=⟨id,by simp,fun _=>⟨rfl,fun _=>rfl⟩⟩

lemma After.answered (answered:answers c o=true){c':Control}(after:After c os c') :
 After c (o::os) c':=by
 refine ⟨after.stays,?_,?_⟩
 · rintro ⟨x,mem,severe⟩
   rcases List.mem_cons.mp mem with rfl|rest
   · rw[answers,if_pos severe] at answered
     exact after.stays answered
   · exact after.critical ⟨x,rest,severe⟩
 · intro mild
   rw[List.forall_mem_cons] at mild
   obtain ⟨lower,own⟩:=after.mild mild.2
   simp only[answers,mild.1,Bool.false_eq_true,↓reduceIte,Bool.or_eq_true,beq_iff_eq] at answered
   rcases answered with same|shadow
   · rw[isOwn_iff] at same
     rw[same] at lower own ⊢
     simpa[changes,lastCodes] using And.intro lower own
   · have zero:=level_shadow.mpr shadow
     rw[zero] at lower ⊢
     simp only[Nat.zero_sub] at lower ⊢
     exact ⟨lower,fun positive=>absurd lower positive⟩

lemma replacement_own (named:Named o) :
 ownCodes (replacement digests head current at' o)=some o.reasonCodes:=by
 have trimmed:=reasonCodes_trimmed named
 unfold replacement
 split <;> simp[ownCodes,saferControl,trimmed]

lemma After.replaced (named:Named o)(fresh:answers c o=false){c':Control}
 (after:After (replacement digests head c at' o) os c'):After c (o::os) c':=by
 have own:ownCodes (replacement digests head c at' o)=some o.reasonCodes:=replacement_own named
 cases severity:o.critical with
 | true =>
  have stop:isExactCriticalStop (replacement digests head c at' o)=true:=by
   rw[replacement,if_pos severity]
   rfl
  refine ⟨fun _=>after.stays stop,fun _=>after.stays stop,fun mild=>?_⟩
  rw[List.forall_mem_cons,severity] at mild
  cases mild.1
 | false =>
  simp only[answers,severity,Bool.false_eq_true,↓reduceIte,Bool.or_eq_false_iff,
   beq_eq_false_iff_ne] at fresh
  have mode:(replacement digests head c at' o).autonomyMode=nextSafer c.autonomyMode:=by
   rw[replacement,if_neg (by rw[severity];decide)]
   rfl
  have lower:=level_nextSafer fresh.2
  have other:ownCodes c≠some o.reasonCodes:=by
   rw[Ne,←isOwn_iff,fresh.1]
   decide
  refine ⟨fun exact'=>?_,?_,fun mild=>?_⟩
  · simp[isExactCriticalStop,fresh.2] at exact'
  · rintro ⟨x,mem,severe⟩
    rcases List.mem_cons.mp mem with rfl|rest
    · rw[severity] at severe
      cases severe
    · exact after.critical ⟨x,rest,severe⟩
  · rw[List.forall_mem_cons] at mild
    obtain ⟨steps,reason⟩:=after.mild mild.2
    rw[own,mode] at steps
    rw[own] at reason
    refine ⟨?_,reason⟩
    rw[changes,if_neg other]
    omega

lemma decides_append (ready:Ready digests log since)(distinct:Distinct digests)
 (named:Named o)(later:since≤at')(latest:getLatestControl log=some head)
 (effective:getEffectiveControl log at'=some current)(fresh:answers current o=false) :
 Decides (log++[replacement digests head current at' o]) at'
  (replacement digests head current at' o):=by
 obtain ⟨grown,decides⟩:=ready.append distinct named later latest effective fresh
 refine ⟨?_,decides⟩
 obtain ⟨top,found⟩:=latest_of_effective (decides at' le_rfl)
 have above:=latest_le found (effective_mem (decides at' le_rfl)).1
 have below:top.controlRevision≤(replacement digests head current at' o).controlRevision:=by
  rcases List.mem_append.mp (highest_mem found) with old|new
  · have le:=latest_le latest old
    rw[replacement_revision]
    omega
  · rw[List.mem_singleton.mp new]
 have same:=grown.written.eq_of_revision (highest_mem found)
  (effective_mem (decides at' le_rfl)).1 (by omega)
 rw[found,same]

lemma walk_decides (distinct:Distinct digests)(ready:Ready digests log at')
 (named:∀o∈os,Named o)(decides:Decides log at' c) :
 (walk digests at' os log).1=os ∧
  ∃c',Decides (walk digests at' os log).2 at' c' ∧ After c os c':=by
 induction os generalizing log c with
 | nil=>exact ⟨rfl,c,decides,.nil c⟩
 | cons o rest ih =>
  rw[List.forall_mem_cons] at named
  unfold walk
  rw[if_neg (by rw[decides.held le_rfl];decide)]
  cases answered:answers c o with
  | true =>
   have same:react digests log at' o=log:=by
    apply react_idle
    intro c' effective
    rw[decides.effective at' le_rfl] at effective
    cases effective
    exact answered
   obtain ⟨all,c',decides',after⟩:=ih ready named.2 decides
   rw[same]
   exact ⟨congrArg (o::·) all,c',decides',after.answered answered⟩
  | false =>
   have effective:=decides.effective at' le_rfl
   rw[react_written decides.latest effective (decides.held le_rfl o) answered]
   obtain ⟨all,c',decides',after⟩:=
    ih (ready.append distinct named.1 le_rfl decides.latest effective answered).1 named.2
     (decides_append ready distinct named.1 le_rfl decides.latest effective answered)
   exact ⟨congrArg (o::·) all,c',decides',after.replaced named.1 answered⟩

lemma walk_lowers (distinct:Distinct digests)(ready:Ready digests log at')
 (named:∀o∈os,Named o)(lowers:¬Idle log at' os) :
 (walk digests at' os log).1=os ∧ ∃c c',getEffectiveControl log at'=some c ∧
  Decides (walk digests at' os log).2 at' c' ∧ After c os c':=by
 induction os with
 | nil=>exact absurd idle_nil lowers
 | cons o rest ih =>
  rw[List.forall_mem_cons] at named
  rw[idle_cons,not_or,not_and] at lowers
  obtain ⟨free,lowers⟩:=lowers
  unfold walk
  rw[if_neg free]
  by_cases answered:∀c∈getEffectiveControl log at',answers c o=true
  · obtain ⟨all,c,c',effective,decides,after⟩:=ih named.2 (lowers answered)
    rw[react_idle answered]
    exact ⟨congrArg (o::·) all,c,c',effective,decides,after.answered (answered c effective)⟩
  · simp only[not_forall] at answered
    obtain ⟨c,effective,fresh⟩:=answered
    have fresh:answers c o=false:=Bool.eq_false_iff.mpr fresh
    obtain ⟨head,latest⟩:=latest_of_effective effective
    rw[react_written latest effective (Bool.eq_false_iff.mpr free) fresh]
    obtain ⟨all,c',decides,after⟩:=
     walk_decides distinct (ready.append distinct named.1 le_rfl latest effective fresh).1 named.2
      (decides_append ready distinct named.1 le_rfl latest effective fresh)
    exact ⟨congrArg (o::·) all,c,c',effective,decides,after.replaced named.1 fresh⟩

lemma lastCodes_eq (last:Option (List String))(filled:os≠[]) :
 ∃o∈os,lastCodes last os=some o.reasonCodes:=by
 induction os generalizing last with
 | nil=>exact absurd rfl filled
 | cons o rest ih =>
  cases rest with
  | nil=>exact ⟨o,List.mem_singleton_self o,rfl⟩
  | cons x rest =>
   obtain ⟨y,mem,same⟩:=ih (some o.reasonCodes) (List.cons_ne_nil x rest)
   exact ⟨y,List.mem_cons_of_mem o mem,same⟩

lemma After.answers_all (after:After current os c)(filled:os≠[]) : (∀o∈os,answers c o=true) ↔
  (∃o∈os,o.critical=true) ∨ (∀o∈os,∀o'∈os,o.reasonCodes=o'.reasonCodes) ∨
   level current.autonomyMode≤changes (ownCodes current) os:=by
 by_cases severe:∃o∈os,o.critical=true
 · have stop:=after.critical severe
   have shadow:c.autonomyMode=.shadow:=by
    simp only[isExactCriticalStop,Bool.and_eq_true,beq_iff_eq] at stop
    exact stop.1.1.1.1
   refine iff_of_true (fun o _=>?_) (.inl severe)
   simp[answers,stop,shadow]
 · have mild:∀o∈os,o.critical=false:=by
    intro o mem
    exact Bool.eq_false_iff.mpr fun critical=>severe ⟨o,mem,critical⟩
   obtain ⟨steps,own⟩:=after.mild mild
   have asked:∀o∈os,answers c o=true ↔ ownCodes c=some o.reasonCodes ∨ level c.autonomyMode=0:=by
    intro o mem
    simp[answers,mild o mem,isOwn_iff,level_shadow]
   simp only[severe,false_or]
   by_cases bottom:level c.autonomyMode=0
   · refine iff_of_true (fun o mem=>(asked o mem).mpr (.inr bottom)) (.inr ?_)
     omega
   · obtain ⟨last,there,same⟩:=lastCodes_eq (ownCodes current) filled
     rw[same] at own
     constructor
     · intro all
       have each:∀o∈os,o.reasonCodes=last.reasonCodes:=by
        intro o mem
        rcases (asked o mem).mp (all o mem) with code|zero
        · rw[own bottom] at code
          exact (Option.some.inj code).symm
        · exact absurd zero bottom
       exact .inl fun o mem o' mem'=>(each o mem).trans (each o' mem').symm
     · rintro (single|enough) o mem
       · exact (asked o mem).mpr (.inl ((own bottom).trans (congrArg some (single last there o mem))))
       · omega

lemma mem_foldl_insertRef {column new:List String}{r:String} :
 r∈new.foldl insertRef column ↔ r∈column ∨ r∈new:=by
 induction new generalizing column with
 | nil=>simp
 | cons x new ih =>
  rw[List.foldl_cons,ih,insertRef]
  split
  · rename_i there
    constructor
    · rintro (old|rest)
      · exact .inl old
      · exact .inr (List.mem_cons_of_mem x rest)
    · rintro (old|rest)
      · exact .inl old
      · rcases List.mem_cons.mp rest with rfl|tail
        · exact .inl there
        · exact .inr tail
  · simp[or_assoc]

lemma foldl_insertRef_self {column new:List String} :
 new.foldl insertRef column=column ↔ ∀r∈new,r∈column:=by
 constructor
 · intro same r mem
   rw[←same]
   exact mem_foldl_insertRef.mpr (.inr mem)
 · intro known
   induction new with
   | nil=>rfl
   | cons x new ih =>
    rw[List.forall_mem_cons] at known
    rw[List.foldl_cons,insertRef,if_pos known.1,ih known.2]

def Quiet (digests:ScanDigests)(h:History)(s:State)(t:ℤ):Prop:=
 (walk digests t (incidentsOf digests h s.incidents) s.controls).2=s.controls ∧
  ∀o∈(walk digests t (incidentsOf digests h s.incidents) s.controls).1,o.incidentRef∈refs s.incidents

lemma scan_quiet (distinct:Distinct digests)(sound:Sound digests s since)(later:since≤at') :
 (refs (scanCampaign digests h at' s).2.incidents=refs s.incidents ∧
  (scanCampaign digests h at' s).2.controls=s.controls) ↔ Quiet digests h s at':=by
 obtain ⟨controls,column,-,-⟩:=scanCampaign_walk (h:=h) distinct sound later
 rw[controls,column,foldl_insertRef_self,and_comm]
 simp[Quiet]

lemma scans_quiet (distinct:Distinct digests)(sound:Sound digests s since)
 (quiet:∀t,since≤t→Quiet digests h s t)(times:List ℤ)
 (rising:(since::times).Pairwise (· ≤ ·)) :
 refs (scans digests h s times).incidents=refs s.incidents ∧
  (scans digests h s times).controls=s.controls:=by
 induction times generalizing s since with
 | nil=>exact ⟨rfl,rfl⟩
 | cons t times ih =>
  obtain ⟨first,rest⟩:=List.pairwise_cons.mp rising
  have le:since≤t:=first t List.mem_cons_self
  obtain ⟨column,controls⟩:=(scan_quiet distinct sound le).mpr (quiet t le)
  obtain ⟨-,-,same,grown⟩:=scanCampaign_walk (h:=h) distinct sound le
  have still:∀t',t≤t'→Quiet digests h (scanCampaign digests h t s).2 t':=by
   intro t' after
   unfold Quiet
   rw[same,controls,column]
   exact quiet t' (le.trans after)
  obtain ⟨column',controls'⟩:=ih grown still rest
  exact ⟨column'.trans column,controls'.trans controls⟩

lemma repeats_iff_quiet (distinct:Distinct digests)(sound:Sound digests s at') :
 Repeats digests h s at' ↔ ∀t,at'≤t→Quiet digests h (scanCampaign digests h at' s).2 t:=by
 obtain ⟨-,-,-,grown⟩:=scanCampaign_walk (h:=h) distinct sound le_rfl
 constructor
 · intro stays t later
   obtain ⟨column,controls,-⟩:=stays [t] (by simpa using later)
   exact (scan_quiet distinct grown later).mp ⟨column,controls⟩
 · intro quiet times rising
   obtain ⟨column,controls⟩:=scans_quiet distinct grown quiet times rising
   exact ⟨column,controls,fun t=>by rw[controls]⟩

/-- What the tables hold before a scan: a log that its writers have built, and
incidents that are bound at both ends. -/
structure Kept (digests:ScanDigests)(s:State):Prop where
 written:Written s.controls
 fits:∀c∈s.controls,fitsColumn 64 c.policySnapshotId=true
 unclaimed:Unclaimed digests 4 s.controls
 paired:Paired s.incidents

lemma Kept.sound (kept:Kept digests s)(since:ℤ):Sound digests s since:=
 ⟨⟨kept.written,kept.fits,fun _ _ c _=>kept.unclaimed.mono (room_le c)⟩,kept.paired⟩

/-- No later scan of the same rows appends an incident or a control exactly when
the scan settles. -/
theorem scans_repeat_iff (distinct:Distinct digests)(kept:Kept digests s) :
 Repeats digests h s at' ↔ Settles digests h s at':=by
 have sound:=kept.sound at'
 rw[repeats_iff_quiet distinct sound]
 obtain ⟨controls,column,same,grown⟩:=scanCampaign_walk (h:=h) distinct sound le_rfl
 have named:∀o∈incidentsOf digests h s.incidents,Named o:=incidentsOf_named distinct _
 unfold Quiet
 rw[same,controls,column]
 by_cases idle:Idle s.controls at' (incidentsOf digests h s.incidents)
 · rw[walk_idle.mpr idle,walk_gotTo idle]
   constructor
   · intro quiet
     refine ⟨fun _ t later=>?_,fun lowers=>absurd idle lowers⟩
     obtain ⟨log,known⟩:=quiet t later
     have still:=walk_idle.mp log
     refine ⟨still,fun o mem=>?_⟩
     rw[walk_gotTo still] at known
     exact mem_foldl_insertRef.mp (known o mem)
   · intro settles t later
     obtain ⟨still,known⟩:=settles.idle idle t later
     refine ⟨walk_idle.mpr still,fun o mem=>?_⟩
     rw[walk_gotTo still] at mem
     exact mem_foldl_insertRef.mpr (known o mem)
 · obtain ⟨all,c,c',effective,decides,after⟩:=walk_lowers distinct sound.controls named idle
   have filled:incidentsOf digests h s.incidents≠[]:=by
    intro empty
    rw[empty] at idle
    exact idle idle_nil
   have converges:Converges s.controls at' (incidentsOf digests h s.incidents) ↔
     ∀o∈incidentsOf digests h s.incidents,answers c' o=true:=by
    rw[after.answers_all filled]
    simp[Converges,effective]
   constructor
   · intro quiet
     refine ⟨fun there=>absurd there idle,fun _=>converges.mpr ?_⟩
     exact (decides.idle le_rfl).mp (walk_idle.mp (quiet at' le_rfl).1)
   · intro settles t later
     have still:=(decides.idle later).mpr (converges.mp (settles.lowers idle))
     refine ⟨walk_idle.mpr still,fun o mem=>?_⟩
     rw[walk_take] at mem
     have there:=List.mem_of_mem_take mem
     rw[all]
     exact mem_foldl_insertRef.mpr (.inr (List.mem_map_of_mem there))

def firstIncident:String:="1e151afd7adab857a5b7eddf31cd73e513e7cbab689ad0e93865ec07eba0c7b2"
def secondIncident:String:="0db2d35ab5af1b70e083e291ca6120b869aca8e753837476870d92dbd9fa8558"

def sampleDigests:ScanDigests where
 ofIdentity t:=
  if t.sourceStateRef.text="response-1" then
   "291af1a910e10bf7d610ba9cd8edf82b54302de812fc8208771a9c10eb738d5d"
  else "9287e40139822a4b6050a0a7d7e7eee75b4fcab66674c8241e7721785cd7aac2"
 ofFingerprint text:=
  if text="291af1a910e10bf7d610ba9cd8edf82b54302de812fc8208771a9c10eb738d5d" then firstIncident
  else secondIncident
 ofBounces _ _ _:=⟨firstFingerprint,rfl⟩
 ofFailures _:=⟨firstFingerprint,rfl⟩
 ofControl p:=
  match p.controlRevision%5 with
  | 0=>secondFingerprint
  | 1=>firstFingerprint
  | 2=>"734d1e5153133fee17dc807f1e50fe0e1d1c5c6945a261f611f5c005809391b1"
  | 3=>"d7e078c9ee373f0b65f69ae850e41175f2b9983a22ab2daf73145b2236518b71"
  | _=>"74e9b39cd3677caed11e7ca5d0ffe660b8f0e1f57b610122ebb2eea0665ff918"

def complaint (responseEvaluationId:SafeRef):ResponseEvaluation:=
 ⟨responseEvaluationId,"FINALIZED",some "COMPLAINT"⟩

def sampleHistory (evaluations:List ResponseEvaluation):History where
 campaignRef:=⟨"campaign-1",rfl⟩
 internal:=rfl
 wedge:=⟨"wedge-1",rfl⟩
 country:=.ch
 events:=[]
 evaluations
 operations:=[]

def oneComplaint:History:=sampleHistory [complaint ⟨"response-1",rfl⟩]
def twoComplaints:History:=sampleHistory [complaint ⟨"response-1",rfl⟩,complaint ⟨"response-2",rfl⟩]

def adaptiveControl:Control:=sampleControl "snapshot-1" 1 .adaptiveVolume false 0 none firstFingerprint

def sampleState:State:=⟨⟨[],["campaign-1"]⟩,[adaptiveControl]⟩

theorem scans_repeat_iff_sample:Repeats sampleDigests oneComplaint sampleState (5*hour):=by
 have adaptive:adaptiveControl.valid=true ∧ adaptiveControl.stored=some adaptiveControl ∧
   fitsColumn 64 adaptiveControl.policySnapshotId=true ∧
   incidentsOf sampleDigests oneComplaint sampleState.incidents=[⟨firstIncident,false⟩] ∧
   (∀n<5,isFingerprint (sampleDigests.ofControl ⟨"","",n,.shadow,false,false,[],0⟩)=true) ∧
   (∀n<5,∀m<5,n≠m→sampleDigests.ofControl ⟨"","",n,.shadow,false,false,[],0⟩ ≠
    sampleDigests.ofControl ⟨"","",m,.shadow,false,false,[],0⟩) ∧
   isFingerprint firstIncident=true ∧ isFingerprint secondIncident=true:=by
  decide +kernel
 obtain ⟨valid,stored,fits,incidents,form,apart,first,second⟩:=adaptive
 have byRevision:∀p,sampleDigests.ofControl p =
   sampleDigests.ofControl ⟨"","",p.controlRevision%5,.shadow,false,false,[],0⟩:=by
  intro p
  simp only[sampleDigests,Nat.mod_mod]
 have distinct:Distinct sampleDigests:=by
  refine ⟨fun p=>?_,fun text=>?_,fun p q less near=>?_⟩
  · rw[byRevision]
    exact form _ (Nat.mod_lt _ (by decide))
  · simp only[sampleDigests]
    split
    · exact first
    · exact second
  · rw[byRevision p,byRevision q]
    exact apart _ (Nat.mod_lt _ (by decide)) _ (Nat.mod_lt _ (by decide)) (by omega)
 have kept:Kept sampleDigests sampleState:=by
  refine ⟨⟨List.pairwise_singleton ..,?_,?_⟩,?_,?_,?_⟩
  · simpa[sampleState] using valid
  · simpa[sampleState] using stored
  · simpa[sampleState] using fits
  · intro p above near c mem
    rw[List.mem_singleton.mp mem]
    obtain ⟨x,there,bound⟩:=near
    rw[List.mem_singleton.mp there] at bound
    have high:=above adaptiveControl (List.mem_singleton_self _)
    have revision:adaptiveControl.controlRevision=1:=rfl
    have own:adaptiveControl.snapshotFingerprint =
      sampleDigests.ofControl ⟨"","",1,.shadow,false,false,[],0⟩:=rfl
    have short:adaptiveControl.policySnapshotId.toList.length≠64:=by decide
    rw[byRevision p,own]
    refine ⟨fun same=>?_,apart 1 (by decide) _ (Nat.mod_lt _ (by decide)) (by omega)⟩
    rw[same] at short
    have digits:=form (p.controlRevision%5) (Nat.mod_lt _ (by decide))
    simp only[isFingerprint,Bool.and_eq_true,beq_iff_eq] at digits
    exact short digits.1
  · intro r mem
    cases mem
 refine (scans_repeat_iff distinct kept).mpr ⟨fun idle=>?_,fun _=>?_⟩
 · rw[incidents] at idle
   have inForce:getEffectiveControl sampleState.controls (5*hour)=some adaptiveControl:=rfl
   rcases idle_cons.mp idle with held|⟨answered,-⟩
   · exact absurd held (by decide +kernel)
   · exact absurd (answered adaptiveControl inForce) (by decide +kernel)
 · rw[incidents]
   refine .inr (.inl fun o mem o' mem'=>?_)
   rw[List.mem_singleton.mp mem,List.mem_singleton.mp mem']

/-- Two complaints under `ADAPTIVE_VOLUME`: the second scan writes another control. -/
theorem two_complaints_lower_again:¬Repeats sampleDigests twoComplaints sampleState (5*hour):=by
 intro stays
 obtain ⟨-,same,-⟩:=stays [6*hour] (by decide)
 have longer:=congrArg List.length same
 revert longer
 decide +kernel

end Kivou.ReliabilityRepeats
