import Kivou.ReliabilityIncidents

set_option autoImplicit false

/-! What a scan writes to the log of controls: one safer control for each incident that the control
in force does not answer yet. -/
namespace Kivou.ReliabilityWalk
open PythonValues PolicyControls SafetyControls OperationalIncidents ReliabilityObserver
 ReliabilityIncidents

/-- What the digests of a run have in common with those of SHA-256: their form,
and that controls of near revisions do not share one. -/
structure Distinct (digests:ScanDigests):Prop where
 control:∀p,isFingerprint (digests.ofControl p)=true
 incident:∀text,isFingerprint (digests.ofFingerprint text)=true
 apart:∀p q,p.controlRevision<q.controlRevision→q.controlRevision≤p.controlRevision+4 →
  digests.ofControl p≠digests.ofControl q

/-- No control of the log stands under the digest of one of the next `n` revisions. -/
def Unclaimed (digests:ScanDigests)(n:ℕ)(log:Log):Prop:=
 ∀p,(∀c∈log,c.controlRevision<p.controlRevision) →(∃c∈log,p.controlRevision≤c.controlRevision+n) →
  ∀c∈log,c.policySnapshotId≠digests.ofControl p ∧ c.snapshotFingerprint≠digests.ofControl p

def headAhead (log:Log)(at':ℤ):Bool:=
 match getLatestControl log,getEffectiveControl log at' with
 | some head,some current=>current.controlRevision != head.controlRevision&&!expiredBy at' head
 | _,_=>false

def held (log:Log)(at':ℤ)(o:Outcome):Bool:=!o.critical&&headAhead log at'

def isOwn (c:Control)(o:Outcome):Bool:=
 c.createdByActorRef==safetyControllerRef&&c.reasonCodes==o.reasonCodes

def answers (c:Control)(o:Outcome):Bool:=
 if o.critical then isExactCriticalStop c else isOwn c o||c.autonomyMode==.shadow

variable (digests:ScanDigests)

/-- The control that an incident puts in the place of `current`. -/
def replacement (head current:Control)(at':ℤ)(o:Outcome):Control:=
 if o.critical then saferControl digests.ofControl current head at' .shadow true true o.reasonCodes
 else saferControl digests.ofControl current head at' (nextSafer current.autonomyMode)
  current.killSwitch current.readOnly o.reasonCodes

def react (log:Log)(at':ℤ)(o:Outcome):Log:=
 match getLatestControl log,getEffectiveControl log at' with
 | some head,some current =>
  if held log at' o||answers current o then log else log++[replacement digests head current at' o]
 | _,_=>log

def level:AutonomyMode→ℕ
 | .adaptiveVolume=>3
 | .autonomousCapped=>2
 | .assisted=>1
 | .shadow=>0

def room (c:Control):ℕ:=if isExactCriticalStop c then 0 else level c.autonomyMode+1

variable {digests}{log:Log}{head current:Control}{at':ℤ}{o:Outcome}

def Named (o:Outcome):Prop:=boundedText 100 o.code=true ∧ trim o.code=o.code

lemma level_nextSafer {mode:AutonomyMode}(lower:mode≠.shadow) :
 level (nextSafer mode)+1=level mode:=by
 cases mode with
 | shadow=>exact absurd rfl lower
 | assisted=>rfl
 | autonomousCapped=>rfl
 | adaptiveVolume=>rfl

lemma nextSafer_eq_self {mode:AutonomyMode}:nextSafer mode=mode ↔ mode=.shadow:=by
 cases mode <;> simp[nextSafer]

lemma room_le (c:Control):room c≤4:=by
 unfold room
 split
 · omega
 · cases c.autonomyMode <;> simp[level]

lemma isHex_cases {c:Char}(hex:isHex c=true):c∈"0123456789abcdef".toList:=by
 simp only[isHex,Bool.or_eq_true,Bool.and_eq_true,decide_eq_true_eq] at hex
 have named:∀n,c.toNat=n→c=Char.ofNat n:=by
  intro n eq
  rw[←eq,Char.ofNat_toNat]
 rcases hex with ⟨low,high⟩|⟨low,high⟩
 · have:c.toNat=48 ∨ c.toNat=49 ∨ c.toNat=50 ∨ c.toNat=51 ∨ c.toNat=52 ∨ c.toNat=53 ∨
     c.toNat=54 ∨ c.toNat=55 ∨ c.toNat=56 ∨ c.toNat=57:=by omega
   rcases this with h|h|h|h|h|h|h|h|h|h <;> rw[named _ h] <;> decide
 · have:c.toNat=97 ∨ c.toNat=98 ∨ c.toNat=99 ∨ c.toNat=100 ∨ c.toNat=101 ∨ c.toNat=102:=by omega
   rcases this with h|h|h|h|h|h <;> rw[named _ h] <;> decide

lemma isWhiteSpace_hex {c:Char}(hex:isHex c=true) :
 isWhiteSpace c=false ∧ isWhiteSpace c.toUpper=false:=by
 have clear:"0123456789abcdef".toList.all
   (fun c=>!isWhiteSpace c&&!isWhiteSpace c.toUpper)=true:=rfl
 simpa using List.all_eq_true.mp clear c (isHex_cases hex)

lemma trim_of_clear {text:String}(clear:∀c∈text.toList,isWhiteSpace c=false) : trim text=text:=by
 have not:∀c∈text.toList,¬isWhiteSpace c=true:=fun c mem=>by rw[clear c mem];decide
 exact (trimWith_eq_self_iff _ _).mpr
  ⟨fun _=>not _ (List.get_mem _ _),fun _=>not _ (List.getLast_mem _)⟩

lemma boundedText_of_clear {n:ℕ}{text:String}(clear:∀c∈text.toList,isWhiteSpace c=false)
 (said:0<text.length)(short:text.length≤n):boundedText n text=true:=by
 have filled:text≠"":=by
  rintro rfl
  exact absurd said (by decide)
 simp[boundedText,AwardDomain.isFilled,trim_of_clear clear,filled,short]

lemma boundedText_fingerprint {text:String}(hex:isFingerprint text=true) :
 boundedText 128 text=true ∧ text.length=64:=by
 simp only[isFingerprint,Bool.and_eq_true,beq_iff_eq,List.all_eq_true,String.length_toList] at hex
 refine ⟨boundedText_of_clear (fun c mem=>(isWhiteSpace_hex (hex.2 c mem)).1) ?_ ?_,hex.1⟩ <;> omega

lemma named_of_hex (hex:isFingerprint o.incidentRef=true):Named o:=by
 simp only[isFingerprint,Bool.and_eq_true,beq_iff_eq,List.all_eq_true] at hex
 have chars:o.code.toList="INCIDENT_".toList++(o.incidentRef.toList.take 16).map Char.toUpper:=by
  rw[Outcome.code,String.toList_append]
  congr 1
  exact String.toList_ofList
 have clear:∀c∈o.code.toList,isWhiteSpace c=false:=by
  intro c mem
  rw[chars] at mem
  rcases List.mem_append.mp mem with fixed|digit
  · have clear:"INCIDENT_".toList.all (fun c=>!isWhiteSpace c)=true:=rfl
    simpa using List.all_eq_true.mp clear c fixed
  · obtain ⟨x,there,rfl⟩:=List.mem_map.mp digit
    exact (isWhiteSpace_hex (hex.2 x (List.mem_of_mem_take there))).2
 have length:o.code.length=9+min 16 o.incidentRef.toList.length:=by
  rw[←String.length_toList,chars,List.length_append,List.length_map,List.length_take]
  rfl
 exact ⟨boundedText_of_clear clear (by omega) (by omega),trim_of_clear clear⟩

lemma reasonCodes_trimmed (named:Named o):o.reasonCodes.map trim=o.reasonCodes:=by
 have first:∀b:Bool,trim (if b=true then "CRITICAL_OPERATIONAL_INCIDENT"
   else "OPERATIONAL_INCIDENT")=if b=true then "CRITICAL_OPERATIONAL_INCIDENT"
   else "OPERATIONAL_INCIDENT":=by decide
 rw[Outcome.reasonCodes,List.map_cons,List.map_singleton,first,named.2]

lemma reasonCodes_bounded (named:Named o) :
 (o.reasonCodes.map trim).length≤32 ∧ (o.reasonCodes.map trim).all (boundedText 100)=true:=by
 have first:∀b:Bool,boundedText 100 (if b=true then "CRITICAL_OPERATIONAL_INCIDENT"
   else "OPERATIONAL_INCIDENT")=true:=by decide
 rw[reasonCodes_trimmed named]
 simp[Outcome.reasonCodes,first,named.1]

lemma saferControl_valid {fingerprint:SafetyPayload→String}{target:AutonomyMode}
 {killSwitch readOnly:Bool}{codes:List String}(valid:current.valid=true)
 (form:∀p,isFingerprint (fingerprint p)=true)
 (bounded:(codes.map trim).length≤32 ∧ (codes.map trim).all (boundedText 100)=true) :
 (saferControl fingerprint current head at' target killSwitch readOnly codes).valid=true:=by
 have coherent:shadowCoherent target (if target=.shadow then some .assisted else none)=true:=by
  cases target <;> rfl
 have actor:boundedText 256 safetyControllerRef=true:=by decide
 simp only[Control.valid,Bool.and_eq_true,decide_eq_true_eq] at valid ⊢
 obtain ⟨⟨⟨⟨⟨⟨⟨⟨⟨⟨⟨⟨⟨⟨-,-⟩,version⟩,qa⟩,commands⟩,countries⟩,languages⟩,wedges⟩,currency⟩,cap⟩,
  -⟩,-⟩,-⟩,-⟩,-⟩:=valid
 exact ⟨⟨⟨⟨⟨⟨⟨⟨⟨⟨⟨⟨⟨⟨(boundedText_fingerprint (form _)).1,Nat.le_add_left ..⟩,version⟩,qa⟩,commands⟩,
  countries⟩,languages⟩,wedges⟩,currency⟩,cap⟩,form _⟩,actor⟩,bounded⟩,rfl⟩,coherent⟩

lemma saferControl_stored {fingerprint:SafetyPayload→String}{target:AutonomyMode}
 {killSwitch readOnly:Bool}{codes:List String}(kept:current.stored=some current)
 (form:∀p,isFingerprint (fingerprint p)=true) :
 (saferControl fingerprint current head at' target killSwitch readOnly codes).stored =
  some (saferControl fingerprint current head at' target killSwitch readOnly codes):=by
 obtain ⟨-,cap⟩:=PolicyControls.stored_fields kept
 have version:current.policyVersion.length≤64:=by
  unfold Control.stored at kept
  split at kept
  · rename_i fits
    simp only[Bool.and_eq_true,decide_eq_true_eq] at fits
    exact fits.2
  · cases kept
 have fits:∀p,(fingerprint p).length≤64:=fun p=>(boundedText_fingerprint (form p)).2.le
 unfold Control.stored
 rw[if_pos (by simp[saferControl,fits,version])]
 change (Decimals.numeric 18 6 current.dailyCostCap).map _=_
 rw[cap]
 rfl

lemma appendControlIfLatest_next {c:Control}(latest:getLatestControl log=some head)
 (revision:c.controlRevision=head.controlRevision+1)(free:taken log c=false)
 (stored:c.stored=some c) :
 appendControlIfLatest log c (some head.controlRevision)=.written (log++[c]):=by
 have top:maximum log=some head.controlRevision:=by
  unfold maximum
  unfold getLatestControl at latest
  rw[latest]
  rfl
 unfold appendControlIfLatest
 simp[top,revision,free,stored]

lemma replacement_revision :
 (replacement digests head current at' o).controlRevision=head.controlRevision+1:=by
 unfold replacement
 split <;> rfl

lemma replacement_identity : ∃p,p.controlRevision=head.controlRevision+1 ∧
  (replacement digests head current at' o).policySnapshotId=digests.ofControl p ∧
  (replacement digests head current at' o).snapshotFingerprint=digests.ofControl p:=by
 unfold replacement
 split
 · exact ⟨_,rfl,rfl,rfl⟩
 · exact ⟨_,rfl,rfl,rfl⟩

lemma replacement_lasts : (replacement digests head current at' o).effectiveAt=at' ∧
  (replacement digests head current at' o).expiresAt=none:=by
 unfold replacement
 split <;> exact ⟨rfl,rfl⟩

lemma taken_replacement (unclaimed:Unclaimed digests 1 log)
 (latest:getLatestControl log=some head) :
 taken log (replacement digests head current at' o)=false:=by
 obtain ⟨p,revision,id,own⟩:=@replacement_identity digests head current at' o
 have above:∀c∈log,c.controlRevision<p.controlRevision:=by
  intro c mem
  have le:=latest_le latest mem
  omega
 have free:=unclaimed p above ⟨head,highest_mem latest,by omega⟩
 apply Bool.eq_false_iff.mpr
 intro clash
 obtain ⟨c,mem,same⟩:=List.any_eq_true.mp clash
 have less:=above c mem
 rw[id,own,replacement_revision] at same
 simp only[Bool.or_eq_true,beq_iff_eq,(free c mem).1,(free c mem).2,or_false,false_or] at same
 omega

section
variable {decide:Control → Control→Decision SafetyError}(latest:getLatestControl log=some head)
 (effective:getEffectiveControl log at'=some current)
include latest effective

lemma attempts_returned (decided:decide head current=.returned current) :
 attempts decide log at'=.ok (current,log):=by
 unfold attempts attempt
 rw[latest,effective]
 simp only[decided]

lemma attempts_failed {error:SafetyError}(decided:decide head current=.failed error) :
 attempts decide log at'=.error error:=by
 unfold attempts attempt
 rw[latest,effective]
 simp only[decided]

lemma attempts_append {c:Control}{log':Log}
 (decided:decide head current=.append c head.controlRevision)
 (written:appendControlIfLatest log c (some head.controlRevision)=.written log') :
 attempts decide log at'=.ok (c,log'):=by
 unfold attempts attempt
 rw[latest,effective]
 simp only[decided,written]

end

lemma safetyCall_eq (written:Written log)(distinct:Distinct digests)(named:Named o)
 (latest:getLatestControl log=some head)
 (effective:getEffectiveControl log at'=some current)
 (unclaimed:held log at' o=false→answers current o=false→Unclaimed digests 1 log) :
 safetyCall digests log at' o =
  if held log at' o then .error .headNotEffective
  else if answers current o then .ok (current,log)
  else .ok (replacement digests head current at' o,
   log++[replacement digests head current at' o]):=by
 obtain ⟨mem,-⟩:=effective_mem effective
 have below:¬head.controlRevision<current.controlRevision:=not_lt.mpr (latest_le latest mem)
 have bounded:=reasonCodes_bounded named
 have valid:(replacement digests head current at' o).valid=true:=by
  unfold replacement
  split <;> exact saferControl_valid (written.valid current mem) distinct.control bounded
 have stored:(replacement digests head current at' o).stored =
   some (replacement digests head current at' o):=by
  unfold replacement
  split <;> exact saferControl_stored (written.kept current mem) distinct.control
 have appended:held log at' o=false→answers current o=false →
   appendControlIfLatest log (replacement digests head current at' o) (some head.controlRevision) =
    .written (log++[replacement digests head current at' o]):=fun free fresh=>
  appendControlIfLatest_next latest replacement_revision (taken_replacement (unclaimed free fresh) latest)
   stored
 have checked:validated (replacement digests head current at' o) head.controlRevision =
   .append (replacement digests head current at' o) head.controlRevision:=if_pos valid
 cases severity:o.critical with
 | true =>
  have idle:held log at' o=false:=by simp[held,severity]
  have asked:answers current o=isExactCriticalStop current:=by simp[answers,severity]
  have stop:replacement digests head current at' o =
    saferControl digests.ofControl current head at' .shadow true true o.reasonCodes:=by
   simp[replacement,severity]
  rw[safetyCall,if_pos severity,if_neg (by rw[idle];decide)]
  cases exact':isExactCriticalStop current with
  | true =>
   rw[asked,exact',if_pos rfl]
   apply attempts_returned latest effective
   rw[criticalStopDecision,if_neg below,if_pos exact']
  | false =>
   have fresh:answers current o=false:=asked.trans exact'
   rw[fresh,if_neg (by decide)]
   refine attempts_append latest effective ?_ (appended idle fresh)
   rw[criticalStopDecision,if_neg below,if_neg (by rw[exact'];decide),←stop,checked]
 | false =>
  have mild:¬o.critical=true:=by rw[severity];decide
  have ahead:held log at' o=true ↔
    current.controlRevision≠head.controlRevision ∧ (!expiredBy at' head)=true:=by
   simp[held,headAhead,severity,latest,effective]
  have asked:answers current o=true ↔
    (current.createdByActorRef=safetyControllerRef ∧ current.reasonCodes=o.reasonCodes) ∨
     nextSafer current.autonomyMode=current.autonomyMode:=by
   simp[answers,isOwn,severity,nextSafer_eq_self]
  have lower:replacement digests head current at' o =
    saferControl digests.ofControl current head at' (nextSafer current.autonomyMode)
     current.killSwitch current.readOnly o.reasonCodes:=by
   simp[replacement,severity]
  rw[safetyCall,if_neg mild]
  by_cases stays:held log at' o=true
  · rw[if_pos stays]
    apply attempts_failed latest effective
    rw[downgradeDecision,if_neg below,if_pos (ahead.mp stays)]
  · rw[if_neg stays]
    have free:=fun there=>stays (ahead.mpr there)
    by_cases answered:answers current o=true
    · rw[if_pos answered]
      apply attempts_returned latest effective
      rw[downgradeDecision,if_neg below,if_neg free]
      rcases asked.mp answered with own|shadow
      · rw[if_pos own]
      · rw[if_pos shadow,ite_self]
    · rw[if_neg answered]
      have fresh:answers current o=false:=Bool.eq_false_iff.mpr answered
      refine attempts_append latest effective ?_ (appended (Bool.eq_false_iff.mpr stays) fresh)
      rw[downgradeDecision,if_neg below,if_neg free,
       if_neg (fun own=>answered (asked.mpr (.inl own))),
       if_neg (fun shadow=>answered (asked.mpr (.inr shadow))),←lower,checked]

lemma Unclaimed.mono {n m:ℕ}(unclaimed:Unclaimed digests m log)(le:n ≤ m) :
 Unclaimed digests n log:=by
 intro p above near c mem
 obtain ⟨last,there,bound⟩:=near
 exact unclaimed p above ⟨last,there,by omega⟩ c mem

lemma Unclaimed.append {n:ℕ}(distinct:Distinct digests)(unclaimed:Unclaimed digests (n+1) log)
 (few:n≤4)(latest:getLatestControl log=some head) :
 Unclaimed digests n (log++[replacement digests head current at' o]):=by
 obtain ⟨q,revision,id,own⟩:=@replacement_identity digests head current at' o
 have next:(replacement digests head current at' o).controlRevision=head.controlRevision+1:=
  replacement_revision
 intro p above near c mem
 have last:=above _ (List.mem_append_right log (List.mem_singleton_self _))
 have close:p.controlRevision≤head.controlRevision+1+n:=by
  obtain ⟨c',there,bound⟩:=near
  rcases List.mem_append.mp there with old|new
  · have le:=latest_le latest old
    omega
  · rw[List.mem_singleton.mp new] at bound
    omega
 rcases List.mem_append.mp mem with old|new
 · refine unclaimed p (fun r there=>above r (List.mem_append_left _ there)) ?_ c old
   exact ⟨head,highest_mem latest,by omega⟩
 · rw[List.mem_singleton.mp new,id,own]
   have apart:=distinct.apart q p (by omega) (by omega)
   exact ⟨apart,apart⟩

lemma replacement_room (fresh:answers current o=false) :
 room (replacement digests head current at' o)<room current:=by
 unfold answers at fresh
 unfold replacement
 split at fresh
 · rename_i severe
   have stop:isExactCriticalStop (saferControl digests.ofControl current head at' .shadow true true
     o.reasonCodes)=true:=rfl
   rw[if_pos severe,room,if_pos stop,room,if_neg (by rw[fresh];decide)]
   omega
 · rename_i mild
   simp only[Bool.or_eq_false_iff,beq_eq_false_iff_ne] at fresh
   have loose:¬isExactCriticalStop current=true:=by
    simp[isExactCriticalStop,fresh.2]
   have step:=level_nextSafer fresh.2
   have bound:room (saferControl digests.ofControl current head at' (nextSafer current.autonomyMode)
     current.killSwitch current.readOnly o.reasonCodes)≤level (nextSafer current.autonomyMode)+1:=by
    unfold room
    split
    · omega
    · exact le_refl _
   rw[if_neg mild]
   calc room _≤level (nextSafer current.autonomyMode)+1:=bound
    _<room current:=by rw[room,if_neg loose];omega

/-- The controls of the log are such as the calls have left, and those that are
in force from now on have room below them. -/
structure Ready (digests:ScanDigests)(log:Log)(since:ℤ):Prop where
 written:Written log
 fits:∀c∈log,fitsColumn 64 c.policySnapshotId=true
 unclaimed:∀t,since≤t→∀c,getEffectiveControl log t=some c→Unclaimed digests (room c) log

lemma latest_of_effective (effective:getEffectiveControl log at'=some current) :
 ∃head,getLatestControl log=some head:=highest_isSome (effective_mem effective).1

lemma Ready.later {since:ℤ}(ready:Ready digests log since)(le:since≤at') :
 Ready digests log at':=
 ⟨ready.written,ready.fits,fun t after=>ready.unclaimed t (le.trans after)⟩

lemma fitsColumn_fingerprint {text:String}(hex:isFingerprint text=true) :
 fitsColumn 64 text=true:=by
 have short:=(boundedText_fingerprint hex).2
 simp only[isFingerprint,Bool.and_eq_true,List.all_eq_true] at hex
 have clear : '\x00' ∉ text.toList:=by
  intro mem
  exact absurd (hex.2 _ mem) (by decide)
 simp[fitsColumn,short,clear]

lemma Ready.append {since:ℤ}(ready:Ready digests log since)(distinct:Distinct digests)
 (named:Named o)(later:since≤at')(latest:getLatestControl log=some head)
 (effective:getEffectiveControl log at'=some current)(fresh:answers current o=false) :
 Ready digests (log++[replacement digests head current at' o]) at' ∧
  ∀t,at'≤t → getEffectiveControl (log++[replacement digests head current at' o]) t =
   some (replacement digests head current at' o):=by
 obtain ⟨mem,-⟩:=effective_mem effective
 have valid:(replacement digests head current at' o).valid=true:=by
  unfold replacement
  split <;> exact saferControl_valid (ready.written.valid current mem) distinct.control
   (reasonCodes_bounded named)
 have stored:(replacement digests head current at' o).stored =
   some (replacement digests head current at' o):=by
  unfold replacement
  split <;> exact saferControl_stored (ready.written.kept current mem) distinct.control
 have grown:Written (log++[replacement digests head current at' o]):=by
  apply ready.written.append valid stored
  intro old there
  have le:=latest_le latest there
  rw[replacement_revision]
  omega
 obtain ⟨since',lasting⟩:=@replacement_lasts digests head current at' o
 have decides:∀t,at'≤t → getEffectiveControl (log++[replacement digests head current at' o]) t =
   some (replacement digests head current at' o):=
  fun t le=>written_effective grown (by omega) lasting
 refine ⟨⟨grown,?_,?_⟩,decides⟩
 · intro c there
   rcases List.mem_append.mp there with old|new
   · exact ready.fits c old
   · obtain ⟨p,-,id,-⟩:=@replacement_identity digests head current at' o
     rw[List.mem_singleton.mp new,id]
     exact fitsColumn_fingerprint (distinct.control p)
 · intro t le c inForce
   rw[decides t le] at inForce
   cases inForce
   have less:room (replacement digests head current at' o)<room current:=replacement_room fresh
   have bound:=room_le current
   exact ((ready.unclaimed at' later current effective).mono less).append distinct (by omega) latest

variable (digests) in
def walk (at':ℤ):List Outcome→Log→List Outcome × Log
 | [],log=>([],log)
 | o::rest,log =>
  if held log at' o then ([o],log)
  else (o::(walk at' rest (react digests log at' o)).1,(walk at' rest (react digests log at' o)).2)

structure Sound (digests:ScanDigests)(s:State)(since:ℤ):Prop where
 controls:Ready digests s.controls since
 incidents:Paired s.incidents

variable {h:History}{s:State}{since:ℤ}

lemma react_ready (distinct:Distinct digests)(ready:Ready digests log since)(later:since≤at')
 (named:Named o):Ready digests (react digests log at' o) at':=by
 cases effective:getEffectiveControl log at' with
 | none =>
  unfold react
  rw[effective]
  cases getLatestControl log <;> exact ready.later later
 | some current =>
  obtain ⟨head,latest⟩:=latest_of_effective effective
  unfold react
  rw[latest,effective]
  dsimp only
  split
  · exact ready.later later
  · rename_i idle
    simp only[Bool.or_eq_true,not_or,Bool.not_eq_true] at idle
    exact (ready.append distinct named later latest effective idle.2).1

/-- `_downgrade` raises on a head that is ahead, and otherwise leaves what the call leaves. -/
lemma lowerAutonomy_eq (distinct:Distinct digests)(sound:Sound digests s since)
 (later:since≤at')(named:Named o)(there:(incident? s.incidents o.incidentRef).isSome=true) :
 (held s.controls at' o=true→∃error,lowerAutonomy digests at' o s=(.error error,s)) ∧
  (held s.controls at' o=false →
   ∃db,lowerAutonomy digests at' o s=(.ok (),⟨db,react digests s.controls at' o⟩) ∧
    SameContent db s.incidents ∧ Sound digests ⟨db,react digests s.controls at' o⟩ at'):=by
 have ready:=react_ready (o:=o) distinct sound.controls later named
 cases effective:getEffectiveControl s.controls at' with
 | none =>
  have free:held s.controls at' o=false:=by
   simp only[held,headAhead,effective]
   cases getLatestControl s.controls <;> simp
  have idle:react digests s.controls at' o=s.controls:=by
   simp only[react,effective]
   cases getLatestControl s.controls <;> rfl
  rw[free,idle]
  rw[idle] at ready
  refine ⟨fun stays=>(by cases stays),fun _=>⟨s.incidents,?_,.refl _,ready,sound.incidents⟩⟩
  simp[lowerAutonomy,effective]
 | some current =>
  obtain ⟨head,latest⟩:=latest_of_effective effective
  have unclaimed:answers current o=false→Unclaimed digests 1 s.controls:=fun fresh=>by
   have less:room (replacement digests head current at' o)<room current:=replacement_room fresh
   exact (sound.controls.unclaimed at' later current effective).mono (Nat.one_le_of_lt less)
  have call:=safetyCall_eq sound.controls.written distinct named latest effective
   fun _ fresh=>unclaimed fresh
  have before:=sound.controls.fits current (effective_mem effective).1
  refine ⟨fun stays=>?_,fun free=>?_⟩
  · rw[if_pos stays] at call
    exact ⟨.safety .headNotEffective,by simp[lowerAutonomy,effective,call]⟩
  · rw[if_neg (by rw[free];decide)] at call
    have left:react digests s.controls at' o=if answers current o then s.controls
      else s.controls++[replacement digests head current at' o]:=by
     simp[react,latest,effective,free]
    rw[left] at ready ⊢
    by_cases answered:answers current o=true
    · rw[if_pos answered] at call ready ⊢
      obtain ⟨row,db,bound,same,paired⟩:=bind_done at' sound.incidents there before before
      exact ⟨db,by simp[lowerAutonomy,effective,call,bound],same,ready,paired⟩
    · rw[if_neg answered] at call ready ⊢
      have after:fitsColumn 64 (replacement digests head current at' o).policySnapshotId=true:=
       ready.fits _ (List.mem_append_right _ (List.mem_singleton_self _))
      obtain ⟨row,db,bound,same,paired⟩:=bind_done at' sound.incidents there before after
      exact ⟨db,by simp[lowerAutonomy,effective,call,bound],same,ready,paired⟩

lemma scanFindings_walk (distinct:Distinct digests){rest:List Finding}{n:ℕ}
 (enough:rest.length≤n)(sound:Sound digests s since)(later:since≤at') :
 let reached:=walk digests at' (recordFirst digests h at' rest n s.incidents).1 s.controls
 let s':=(scanFindings digests h at' rest s).2
 s'.controls=reached.2 ∧
  SameContent s'.incidents (recordFirst digests h at' rest reached.1.length s.incidents).2 ∧
  Sound digests s' at':=by
 induction rest generalizing n s since with
 | nil=>exact ⟨rfl,.refl _,sound.controls.later later,sound.incidents⟩
 | cons finding rest ih =>
  cases n with
  | zero=>simp at enough
  | succ n =>
   have few:rest.length≤n:=Nat.le_of_succ_le_succ enough
   have paired:Paired (record digests s.incidents (observe digests h at' finding)).2:=
    sound.incidents.record at' finding
   rcases record_cases digests s.incidents (observe digests h at' finding) with
    ⟨failure,done⟩ | ⟨-,done⟩ | ⟨trigger,saved,db,-,done,save⟩
   · simp only[scanFindings,recordFirst,done,walk,List.length_nil]
     exact ⟨trivial,.refl _,sound.controls.later later,sound.incidents⟩
   · simp only[scanFindings,recordFirst,done]
     obtain ⟨controls,incidents,grown⟩:=ih (Nat.le_succ_of_le few) sound later
     refine ⟨controls,incidents.trans ?_,grown⟩
     cases (walk digests at' (recordFirst digests h at' rest (n+1) s.incidents).1
      s.controls).1.length with
     | zero =>cases rest <;> exact .refl _
     | succ k=>simpa only[recordFirst,done] using SameContent.refl _
   · have own:=(saveIncident_refs save).1
     have named:Named ⟨saved.row.incidentRef,finding.critical⟩:=by
      apply named_of_hex
      change isFingerprint saved.row.incidentRef=true
      rw[own]
      exact distinct.incident _
     have there:(incident? db saved.row.incidentRef).isSome=true:=by
      obtain ⟨-,found,-⟩:=saveIncident_ok save
      rw[own,found]
      rfl
     rw[done] at paired
     have base:Sound digests ⟨db,s.controls⟩ since:=⟨sound.controls,paired⟩
     obtain ⟨raises,passes⟩:=lowerAutonomy_eq distinct base later named there
     simp only[scanFindings,recordFirst,done]
     cases stays:held s.controls at' ⟨saved.row.incidentRef,finding.critical⟩ with
     | true =>
      obtain ⟨error,raised⟩:=raises stays
      simp only[raised,walk,stays,↓reduceIte,List.length_singleton,recordFirst,done]
      refine ⟨trivial,?_,sound.controls.later later,paired⟩
      cases rest <;> exact .refl _
     | false =>
      obtain ⟨db',passed,same,next⟩:=passes stays
      obtain ⟨controls,incidents,grown⟩:=ih few next le_rfl
      have again:(recordFirst digests h at' rest n db').1 =
        (recordFirst digests h at' rest n db).1:=(recordFirst_content same).1
      simp only[passed,walk,stays,Bool.false_eq_true,↓reduceIte,List.length_cons,recordFirst,done]
      rw[←again]
      exact ⟨controls,incidents.trans (recordFirst_content same).2,grown⟩

lemma walk_take (os:List Outcome)(log:Log) :
 (walk digests at' os log).1=os.take (walk digests at' os log).1.length:=by
 induction os generalizing log with
 | nil=>rfl
 | cons o rest ih =>
  unfold walk
  split
  · simp
  · simpa using ih _

def incidentsOf (digests:ScanDigests)(h:History)(db:Db):List Outcome:=
 (recordFirst digests h 0 (findings h) (findings h).length db).1

lemma incidentsOf_named (distinct:Distinct digests)(db:Db) : ∀o∈incidentsOf digests h db,Named o:=by
 suffices named:∀ (rest:List Finding)(n:ℕ)(db:Db),
   ∀o∈(recordFirst digests h 0 rest n db).1,Named o from named _ _ db
 intro rest
 induction rest with
 | nil =>
  intro n db o mem
  cases mem
 | cons finding rest ih =>
  intro n db
  cases n with
  | zero =>
   intro o mem
   cases mem
  | succ n =>
   rcases record_cases digests db (observe digests h 0 finding) with
    ⟨failure,done⟩ | ⟨-,done⟩ | ⟨trigger,saved,db',-,done,save⟩
   · simp[recordFirst,done]
   · simp only[recordFirst,done]
     exact ih (n+1) db
   · simp only[recordFirst,done,List.forall_mem_cons]
     refine ⟨named_of_hex ?_,ih n db'⟩
     change isFingerprint saved.row.incidentRef=true
     rw[(saveIncident_refs save).1]
     exact distinct.incident _

lemma scanCampaign_walk (distinct:Distinct digests)(sound:Sound digests s since) (later:since≤at') :
 let reached:=walk digests at' (incidentsOf digests h s.incidents) s.controls
 let s':=(scanCampaign digests h at' s).2
 s'.controls=reached.2 ∧
  refs s'.incidents=(reached.1.map Outcome.incidentRef).foldl insertRef (refs s.incidents) ∧
  incidentsOf digests h s'.incidents=incidentsOf digests h s.incidents ∧ Sound digests s' at':=by
 have timeless:(recordFirst digests h at' (findings h) (findings h).length s.incidents).1 =
   incidentsOf digests h s.incidents:=(recordFirst_content (.refl _)).1
 have scanned:=@scanFindings_walk digests at' h s since distinct (findings h) _ le_rfl sound later
 rw[timeless] at scanned
 obtain ⟨controls,incidents,grown⟩:=scanned
 refine ⟨controls,?_,?_,grown⟩
 · change refs (scanFindings digests h at' (findings h) s).2.incidents=_
   have first:(recordFirst digests h at' (findings h)
     (walk digests at' (incidentsOf digests h s.incidents) s.controls).1.length s.incidents).1 =
     (walk digests at' (incidentsOf digests h s.incidents) s.controls).1:=by
    have short:(walk digests at' (incidentsOf digests h s.incidents) s.controls).1.length ≤
      (findings h).length:=by
     rw[walk_take,List.length_take]
     refine (Nat.min_le_right _ _).trans ?_
     exact recordFirst_length ..
    rw[recordFirst_take _ _ short,timeless]
    exact (walk_take _ _).symm
   rw[incidents.refs,recordFirst_refs,first]
 · have again:=@recordFirst_again digests h at' (findings h)
    (walk digests at' (incidentsOf digests h s.incidents) s.controls).1.length (findings h).length
    s.incidents
   rw[timeless] at again
   rw[←again]
   exact (recordFirst_content incidents).1

end Kivou.ReliabilityWalk
