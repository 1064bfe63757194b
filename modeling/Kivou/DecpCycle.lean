import Kivou.Runs
import Kivou.StoredCursors

set_option autoImplicit false

/-! A cycle walks the days of a window; a day is read in batches, and the cursor keeps the next day,
the offset in its listing and the total that the listing had. -/
namespace Kivou.DecpCycle
open Calendar StoredCursors

inductive Failure where
 | valueError (message:String)
 | overflowError
 | windowLimit (message:String)
 | http (message:String)

def cursorFault (cycleEnd nextWindowStart:Day)(offset:ℤ)(windowTotal:Option ℤ) :
 Option Failure:=
 let complete:Bool:=cycleEnd.ordinal<nextWindowStart.ordinal
 if cycleEnd.plus 1=none then some .overflowError
 else if cycleEnd.ordinal+1<nextWindowStart.ordinal then
  some (.valueError "DECP cursor advanced beyond its cycle")
 else if offset<0 then some (.valueError "DECP cursor offset must be non-negative")
 else if windowTotal.any (· < 0) then
  some (.valueError "DECP cursor window total must be non-negative")
 else if offset≠0 ∧ windowTotal=none then
  some (.valueError "DECP cursor offset requires a window total")
 else if windowTotal.any (· < offset) then
  some (.valueError "DECP cursor offset exceeds its window total")
 else if complete ∧ (offset≠0 ∨ windowTotal≠none) then
  some (.valueError "completed DECP cursor cannot retain intra-day progress")
 else none

structure DecpCycleCursor where
 (cycleEnd nextWindowStart:Day)
 offset:ℤ
 windowTotal:Option ℤ
 form:cursorFault cycleEnd nextWindowStart offset windowTotal=none

def decpCycleCursor (cycleEnd nextWindowStart:Day)(offset:ℤ)(windowTotal:Option ℤ) :
 Except Failure DecpCycleCursor:=
 match h:cursorFault cycleEnd nextWindowStart offset windowTotal with
 | some fault=>.error fault
 | none=>.ok ⟨cycleEnd,nextWindowStart,offset,windowTotal,h⟩

namespace DecpCycleCursor

def complete (c:DecpCycleCursor):Bool:=c.cycleEnd.ordinal<c.nextWindowStart.ordinal

def asDict (c:DecpCycleCursor):Mapping:=
 [("version",.int 2),("cycle_end",.text c.cycleEnd.isoformat),
  ("next_window_start",.text c.nextWindowStart.isoformat),("offset",.int c.offset),
  ("window_total",(c.windowTotal.map Value.int).getD .null)]

end DecpCycleCursor

def invalidCursor:Failure:=.valueError "invalid DECP convergence cursor"

def storedDate (value:Mapping)(key:String):Option Day:=
 (value.get? key).bind fun v=>v.str?.bind Day.fromisoformat

def storedProgress (value:Mapping)(legacy:Bool):Option (ℤ × Option ℤ):=
 if legacy then some (0,none)
 else
  (value.get? "offset").bind fun offset=>(value.get? "window_total").bind fun windowTotal=>
   offset.integer?.bind fun o=>
    match windowTotal with
    | .null=>some (o,none)
    | v=>v.integer?.map fun t=>(o,some t)

def storedDecpCursor (value:Option Mapping):Except Failure (Option DecpCycleCursor):=
 match value with
 | none=>.ok none
 | some m =>
  match m.get? "version" with
  | none=>.ok none
  | some version =>
   if !(version.equals 1||version.equals 2) then
    .error (.valueError "unsupported DECP convergence cursor version")
   else
    match storedDate m "cycle_end",storedDate m "next_window_start",
     storedProgress m (version.equals 1) with
    | some cycleEnd,some nextWindowStart,some (offset,windowTotal) =>
     match decpCycleCursor cycleEnd nextWindowStart offset windowTotal with
     | .ok c=>.ok (some c)
     | .error _=>.error invalidCursor
    | _,_,_=>.error invalidCursor

def planDecpCycle (cursor:Option Mapping)(checkpointEnd:Option Day)(requestedUntil:Day)
 (overlapDays:ℤ)(explicitSince:Option Day):Except Failure DecpCycleCursor:=
 if overlapDays<1 then .error (.valueError "DECP overlap must be positive")
 else
  match storedDecpCursor cursor with
  | .error failure=>.error failure
  | .ok stored =>
   match stored.filter (fun c=>!c.complete||requestedUntil.ordinal≤c.cycleEnd.ordinal) with
   | some c=>.ok c
   | none =>
    let start:=explicitSince.or ((checkpointEnd.getD requestedUntil).plus (-overlapDays))
    match start with
    | none=>.error .overflowError
    | some nextWindowStart =>
     if requestedUntil.ordinal<nextWindowStart.ordinal then
      .error (.valueError "DECP cycle starts after its end")
     else decpCycleCursor requestedUntil nextWindowStart 0 none

def nextDecpWindow (c:DecpCycleCursor):Option SourceWindow:=
 if c.complete then none else some ⟨c.nextWindowStart,c.nextWindowStart⟩

def advanceDecpCycle (c:DecpCycleCursor)(window:SourceWindow):Except Failure DecpCycleCursor:=
 if window.since≠window.through then
  .error (.valueError "DECP convergence units must be one calendar day")
 else if window.since≠c.nextWindowStart then
  .error (.valueError "DECP convergence window does not match its cursor")
 else
  match c.nextWindowStart.plus 1 with
  | none=>.error .overflowError
  | some next=>decpCycleCursor c.cycleEnd next 0 none

def advanceDecpBatch (c:DecpCycleCursor)(window:SourceWindow)(nextOffset windowTotal:ℤ)
 (dayComplete:Bool):Except Failure DecpCycleCursor:=
 if window.since≠window.through then
  .error (.valueError "DECP convergence units must stay inside one calendar day")
 else if window.since≠c.nextWindowStart then
  .error (.valueError "DECP convergence batch does not match its cursor")
 else if nextOffset<0 then .error (.valueError "DECP next offset must be non-negative")
 else if windowTotal<0 then .error (.valueError "DECP window total must be non-negative")
 else if windowTotal<nextOffset then
  .error (.valueError "DECP next offset exceeds its window total")
 else if dayComplete then
  if nextOffset≠windowTotal then
   .error (.valueError "complete DECP day must exhaust its window total")
  else advanceDecpCycle c window
 else if nextOffset=0 ∨ nextOffset=windowTotal then
  .error (.valueError "partial DECP day must retain positive remaining progress")
 else if c.windowTotal=some windowTotal ∧ nextOffset≤c.offset then
  .error (.valueError "DECP batch did not advance its cursor")
 else decpCycleCursor c.cycleEnd c.nextWindowStart nextOffset (some windowTotal)

def pageSize:ℕ:=100
def resultCeiling:ℕ:=10000

structure Listed where
 day:Day
 (total offset:ℕ)

abbrev Answer:=Except Failure (List Listed × Option ℕ)

structure Answers where
 first:Answer
 page:ℕ→ℕ→Answer
 last:Answer

structure DecpBatch where
 records:List Listed
 (nextOffset windowTotal:ℕ)
 (dayComplete reset:Bool)

def fetchPayload (offset limit:ℕ)(answer:Answer):Answer:=
 if limit=0 ∨ pageSize<limit then .error (.valueError "invalid DECP page limit")
 else if resultCeiling≤offset+limit then
  .error (.windowLimit "DECP request would reach or cross the provider result ceiling")
 else answer

def countContracts (answer:Answer):Except Failure ℕ:=
 match fetchPayload 0 1 answer with
 | .error failure=>.error failure
 | .ok (_,none)=>.error (.http "DECP response omitted total_count")
 | .ok (_,some total)=>.ok total

def resets (expectedTotal:Option ℕ)(observedTotal:ℕ):Bool:=expectedTotal.any (observedTotal != ·)

def effectiveOffset (offset:ℕ)(expectedTotal:Option ℕ)(observedTotal:ℕ):ℕ:=
 if resets expectedTotal observedTotal then 0 else offset

def fetchContractBatch (day:Day)(offset:ℕ)(expectedTotal:Option ℕ)(batchSize:ℕ)
 (answers:Answers):Except Failure DecpBatch:=
 if batchSize=0 ∨ pageSize<batchSize then
  .error (.valueError "DECP batch size must be between 1 and 100")
 else if offset≠0 ∧ expectedTotal=none then
  .error (.valueError "DECP resumed batch requires an expected total")
 else
  match countContracts answers.first with
  | .error failure=>.error failure
  | .ok observedTotal =>
   if resultCeiling≤observedTotal then
    .error (.windowLimit ("DECP day "++day.isoformat++" contains "++toString observedTotal ++
     " records at the provider ceiling"))
   else
    let reset:=resets expectedTotal observedTotal
    let start:=effectiveOffset offset expectedTotal observedTotal
    if observedTotal<start then
     .error (.windowLimit "DECP batch offset exceeds the observed daily result count")
    else if start=observedTotal then .ok ⟨[],observedTotal,observedTotal,true,reset⟩
    else
     let limit:=min batchSize (observedTotal-start)
     match fetchPayload start limit (answers.page start limit) with
     | .error failure=>.error failure
     | .ok (records,pageTotal) =>
      if pageTotal≠some observedTotal then
       .error (.windowLimit "DECP window changed during bounded acquisition")
      else if records.length≠limit then
       .error (.windowLimit "DECP bounded acquisition became incomplete")
      else
       match countContracts answers.last with
       | .error failure=>.error failure
       | .ok finalTotal =>
        if finalTotal≠observedTotal then
         .error (.windowLimit "DECP window changed after bounded acquisition")
        else
         let nextOffset:=start+records.length
         .ok ⟨records,nextOffset,observedTotal,nextOffset==observedTotal,reset⟩

/-- What the portal shows during a batch: the total of each answer, or that it
fails, and how many rows the page has room for. -/
structure Shown where
 (first page:Except Failure (Option ℕ))
 rows:ℕ
 last:Except Failure (Option ℕ)

def rowsOf (day:Day)(total offset limit:ℕ):List Listed:=
 (List.range (min limit (total-offset))).map fun i=>⟨day,total,offset+i⟩

def answersOf (day:Day)(shown:Shown):Answers where
 first:=shown.first.map fun total=>(rowsOf day (total.getD 0) 0 1,total)
 page offset limit:=
  shown.page.map fun total=>((rowsOf day (total.getD 0) offset limit).take shown.rows,total)
 last:=shown.last.map fun total=>(rowsOf day (total.getD 0) 0 1,total)

structure Run where
 cursor:DecpCycleCursor
 requestedUntil:Day

/-- What a batch, fetched from the offset `start` of a listing, has handed to the
pipeline; `kept` says that its checkpoint was written. -/
structure Slice where
 (total start:ℕ)
 records:List Listed
 kept:Bool

/-- A day that a run has marked complete, with the total of its listing and the
slices since the last reset to offset 0 that the checkpoint took. -/
structure CompletedDay where
 day:Day
 total:ℕ
 handed:List Slice

/-- The cursor of the checkpoint, the run that is going, the slices since the
last reset to offset 0 that the checkpoint took, and the days completed. -/
structure State where
 stored:Option Mapping
 run:Option Run
 handed:List Slice
 days:List CompletedDay

/-- A run starts; it takes a batch, which may stop after some records are handed
to the pipeline, before the checkpoint is written; it stops. -/
inductive Step where
 | start (checkpointEnd:Option Day)(requestedUntil:Day)(overlapDays:ℤ) (explicitSince:Option Day)
 | batch (batchSize:ℕ)(shown:Shown)(stops:Option ℕ)
 | stop

def fetchFor (c:DecpCycleCursor)(day:Day)(batchSize:ℕ)(answers:Answers) :
 Except Failure DecpBatch:=
 fetchContractBatch day c.offset.toNat (c.windowTotal.map Int.toNat) batchSize answers

def sliceOf (batch:DecpBatch)(kept:Bool):Slice:=
 ⟨batch.windowTotal,batch.nextOffset-batch.records.length,batch.records,kept⟩

def extend (handed:List Slice)(slice:Slice):List Slice:=
 if slice.start=0 then [slice] else handed++[slice]

def commitBatch (s:State)(r:Run)(window:SourceWindow)(batch:DecpBatch):State:=
 let handed:=extend s.handed (sliceOf batch true)
 let stopped:={s with run:=none,handed:=s.handed++[sliceOf batch false]}
 match advanceDecpBatch r.cursor window batch.nextOffset batch.windowTotal batch.dayComplete with
 | .error _=>stopped
 | .ok c =>
  let moved:={s with stored:=some c.asDict,run:=some {r with cursor:=c}}
  if batch.dayComplete then
   -- `decp_checkpoint_high_water` refuses a day after the end that the run asks for
   if r.requestedUntil.ordinal<window.through.ordinal then stopped
   else
    {moved with
      handed:=[]
      days:=s.days++[⟨window.since,batch.windowTotal,handed⟩]}
  else {moved with handed}

def takeBatch (s:State)(r:Run)(batchSize:ℕ)(shown:Shown)(stops:Option ℕ):State:=
 match nextDecpWindow r.cursor with
 | none=>{s with run:=none}
 | some window =>
  match fetchFor r.cursor window.since batchSize (answersOf window.since shown) with
  | .error _=>{s with run:=none}
  | .ok batch =>
   match stops with
   | some n =>
    {s with
      run:=none
      handed:=s.handed++[{sliceOf batch false with records:=batch.records.take n}]}
   | none=>commitBatch s r window batch

def step (s:State):Step→State
 | .start checkpointEnd requestedUntil overlapDays explicitSince =>
  match planDecpCycle s.stored checkpointEnd requestedUntil overlapDays explicitSince with
  | .error _=>{s with run:=none}
  | .ok c=>{s with stored:=some c.asDict,run:=some ⟨c,requestedUntil⟩}
 | .batch batchSize shown stops =>
  match s.run with
  | none=>s
  | some r=>takeBatch s r batchSize shown stops
 | .stop=>{s with run:=none}

def fresh:State:=⟨none,none,[],[]⟩

variable {cycleEnd next:Day}{offset:ℤ}{windowTotal:Option ℤ}{batch:DecpBatch}
 {window:SourceWindow}{start:ℕ}{s:State}{r:Run}

lemma cursorFault_none : cursorFault cycleEnd next offset windowTotal=none ↔
  cycleEnd.plus 1≠none ∧ next.ordinal≤cycleEnd.ordinal+1 ∧ 0≤offset ∧
   (∀t∈windowTotal,0≤t) ∧ (windowTotal=none → offset=0) ∧
   (∀t∈windowTotal,offset≤t) ∧
   (cycleEnd.ordinal<next.ordinal → offset=0 ∧ windowTotal=none):=by
 unfold cursorFault
 cases windowTotal with
 | none =>
  simp only[Option.any_none,Bool.false_eq_true,↓reduceIte,and_true,ne_eq,not_true_eq_false,
   or_false,decide_eq_true_eq,Option.mem_def,reduceCtorEq,false_implies,implies_true,
   true_and,true_implies]
  split_ifs <;> simp_all
 | some t =>
  simp only[Option.any_some,decide_eq_true_eq,reduceCtorEq,and_false,↓reduceIte,ne_eq,
   not_false_eq_true,or_true,and_true,Option.mem_def,Option.some.injEq,forall_eq',
   false_implies,true_and]
  split_ifs <;> simp_all

lemma decpCycleCursor_of (h:cursorFault cycleEnd next offset windowTotal=none) :
 decpCycleCursor cycleEnd next offset windowTotal=.ok ⟨cycleEnd,next,offset,windowTotal,h⟩:=by
 unfold decpCycleCursor
 split
 · rename_i fault found
   rw[h] at found
   cases found
 · rfl

lemma decpCycleCursor_fields
 {c:DecpCycleCursor}(h:decpCycleCursor cycleEnd next offset windowTotal=.ok c) :
 c.cycleEnd=cycleEnd ∧ c.nextWindowStart=next ∧ c.offset=offset ∧ c.windowTotal=windowTotal:=by
 unfold decpCycleCursor at h
 split at h
 · cases h
 · cases h
   exact ⟨rfl,rfl,rfl,rfl⟩

lemma storedDecpCursor_asDict (c:DecpCycleCursor) :
 storedDecpCursor (some c.asDict)=.ok (some c):=by
 have version:c.asDict.get? "version"=some (.int 2):=rfl
 have cycleEnd:storedDate c.asDict "cycle_end"=some c.cycleEnd:=by
  have there:c.asDict.get? "cycle_end"=some (.text c.cycleEnd.isoformat):=rfl
  rw[storedDate,there]
  exact Day.fromisoformat_isoformat c.cycleEnd
 have next:storedDate c.asDict "next_window_start"=some c.nextWindowStart:=by
  have there:c.asDict.get? "next_window_start"=some (.text c.nextWindowStart.isoformat):=rfl
  rw[storedDate,there]
  exact Day.fromisoformat_isoformat c.nextWindowStart
 have offset:c.asDict.get? "offset"=some (.int c.offset):=rfl
 have total:c.asDict.get? "window_total"=some ((c.windowTotal.map Value.int).getD .null):=rfl
 have progress:storedProgress c.asDict false=some (c.offset,c.windowTotal):=by
  simp only[storedProgress,offset,total]
  cases c.windowTotal <;> rfl
 have one:(Value.int 2).equals 1=false:=rfl
 simp only[storedDecpCursor,version,cycleEnd,next,one,progress,decpCycleCursor_of c.form]
 rfl

lemma asDict_inj {c d:DecpCycleCursor}(h:c.asDict=d.asDict):c=d:=by
 have first:=storedDecpCursor_asDict c
 rw[h,storedDecpCursor_asDict d] at first
 cases first
 rfl

variable {c:DecpCycleCursor}{day:Day}

lemma rowsOf_full {total offset limit rows:ℕ}
 (full:((rowsOf day total offset limit).take rows).length=limit) :
 (rowsOf day total offset limit).take rows =
  (List.range limit).map fun i=>⟨day,total,offset+i⟩:=by
 simp only[rowsOf,List.length_take,List.length_map,List.length_range] at full
 rw[List.take_of_length_le (by simp[rowsOf];omega),rowsOf]
 congr 2
 omega

lemma fetchPayload_ok {offset limit:ℕ}{answer:Answer}{shown:List Listed × Option ℕ}
 (h:fetchPayload offset limit answer=.ok shown):answer=.ok shown:=by
 unfold fetchPayload at h
 split_ifs at h
 exact h

/-- A batch goes on where the cursor stands in the listing of the same total, and
starts over in another. -/
structure Fetched (c:DecpCycleCursor)(day:Day)(batch:DecpBatch)(start:ℕ):Prop where
 goesOn:c.windowTotal=some batch.windowTotal→start=c.offset
 startsOver:c.windowTotal≠some batch.windowTotal→start=0
 next:batch.nextOffset=start+batch.records.length
 within:batch.nextOffset≤batch.windowTotal
 records:batch.records =(List.range batch.records.length).map fun i=>⟨day,batch.windowTotal,start+i⟩
 complete:batch.dayComplete=true ↔ batch.nextOffset=batch.windowTotal
 progress:batch.dayComplete=false→0<batch.records.length

lemma effectiveOffset_same {observed:ℕ}(h:c.windowTotal=some (observed:ℤ)) :
 (effectiveOffset c.offset.toNat (c.windowTotal.map Int.toNat) observed:ℤ)=c.offset:=by
 have nonneg:=(cursorFault_none.mp c.form).2.2.1
 simp[effectiveOffset,resets,h,nonneg]

lemma effectiveOffset_other {observed:ℕ}(h:c.windowTotal≠some (observed:ℤ)) :
 effectiveOffset c.offset.toNat (c.windowTotal.map Int.toNat) observed=0:=by
 obtain ⟨-,-,-,totals,initial,-,-⟩:=cursorFault_none.mp c.form
 cases total:c.windowTotal with
 | none=>simp[effectiveOffset,initial total]
 | some t =>
  have positive:=totals t total
  have apart:observed≠t.toNat:=by
   intro equal
   apply h
   rw[total,equal]
   simp[positive]
  simp[effectiveOffset,resets,apart]

lemma fetchFor_ok {size:ℕ}{shown:Shown}
 (h:fetchFor c day size (answersOf day shown)=.ok batch):∃start,Fetched c day batch start:=by
 unfold fetchFor fetchContractBatch at h
 split_ifs at h with sizes resumed
 split at h
 · cases h
 rename_i observed counted
 dsimp only at h
 generalize at':effectiveOffset c.offset.toNat (c.windowTotal.map Int.toNat) observed=start at h
 have goesOn:c.windowTotal=some (observed:ℤ)→(start:ℤ)=c.offset:=by
  rw[←at']
  exact effectiveOffset_same
 have startsOver:c.windowTotal≠some (observed:ℤ)→start=0:=by
  rw[←at']
  exact effectiveOffset_other
 split_ifs at h with ceiling beyond exhausted
 · cases h
   exact ⟨start,goesOn,startsOver,exhausted.symm,le_refl _,rfl,by simp,by simp⟩
 · split at h
   · cases h
   rename_i records pageTotal fetched
   split_ifs at h with changed incomplete
   split at h
   · cases h
   split_ifs at h with moved
   cases h
   have rows:records=(List.range records.length).map fun i=>⟨day,observed,start+i⟩:=by
    have answer:=fetchPayload_ok fetched
    cases page:shown.page with
    | error failure=>simp[answersOf,page,Except.map] at answer
    | ok total =>
     simp only[answersOf,page,Except.map,Except.ok.injEq,Prod.mk.injEq] at answer
     obtain ⟨taken,same⟩:=answer
     rw[not_not.mp changed] at same
     rw[same,Option.getD_some] at taken
     rw[←taken] at incomplete ⊢
     rw[not_not.mp incomplete]
     exact rowsOf_full (not_not.mp incomplete)
   refine ⟨start,goesOn,startsOver,rfl,?_,rows,?_,?_⟩
   · dsimp only
     omega
   · simp
   · intro _
     dsimp only
     omega

def steady (total:ℕ):Shown:=⟨.ok (some total),.ok (some total),pageSize,.ok (some total)⟩

lemma countContracts_steady (total:ℕ) :
 countContracts ((answersOf day (steady total)).first)=.ok total:=rfl

lemma fetchFor_steady {size total:ℕ}(one:1 ≤ size)(most:size≤pageSize) (below:total<resultCeiling) :
 ∃batch,fetchFor c day size (answersOf day (steady total))=.ok batch ∧ batch.windowTotal=total:=by
 obtain ⟨-,-,nonneg,totals,initial,within,-⟩:=cursorFault_none.mp c.form
 have resumed:¬(c.offset.toNat≠0 ∧ c.windowTotal.map Int.toNat=none):=by
  rintro ⟨offset,absent⟩
  rw[Option.map_eq_none_iff] at absent
  rw[initial absent] at offset
  exact offset rfl
 have start:effectiveOffset c.offset.toNat (c.windowTotal.map Int.toNat) total≤total:=by
  by_cases same:c.windowTotal=some (total:ℤ)
  · have here:=effectiveOffset_same same
    have bound:=within total same
    omega
  · rw[effectiveOffset_other same]
    exact Nat.zero_le _
 unfold fetchFor fetchContractBatch
 rw[if_neg (by omega),if_neg resumed,countContracts_steady]
 dsimp only
 rw[if_neg (by omega),if_neg (by omega)]
 generalize effectiveOffset c.offset.toNat (c.windowTotal.map Int.toNat) total=offset at start ⊢
 split_ifs with exhausted
 · exact ⟨_,rfl,rfl⟩
 · obtain ⟨limit,asked⟩:∃limit,min size (total-offset)=limit:=⟨_,rfl⟩
   rw[asked]
   have page:fetchPayload offset limit ((answersOf day (steady total)).page offset limit) =
     .ok ((rowsOf day total offset limit).take pageSize,some total):=by
    unfold fetchPayload
    rw[if_neg (by omega),if_neg (by omega)]
    rfl
   have full:((rowsOf day total offset limit).take pageSize).length=limit:=by
    simp only[rowsOf,List.length_take,List.length_map,List.length_range]
    omega
   rw[page]
   dsimp only
   rw[if_neg (not_not.mpr rfl),if_neg (not_not.mpr full)]
   change ∃batch,(match countContracts (answersOf day (steady total)).first with
    | .error failure=>.error failure
    | .ok finalTotal=>_)=Except.ok batch ∧ _
   rw[countContracts_steady]
   rw[if_neg (not_not.mpr rfl)]
   exact ⟨_,rfl,rfl⟩

lemma plus_isSome {d e:Day}{n:ℤ}(h:e.plus n≠none)(less:d.ordinal≤e.ordinal)
 (more:0≤n):∃next,d.plus n=some next ∧ next.ordinal=d.ordinal+n:=by
 have range:isDate (d.ordinal+n)=true:=by
  have low:=d.inRange
  have high:isDate (e.ordinal+n)=true:=by
   by_contra beyond
   exact h (dif_neg beyond)
  simp only[isDate,Bool.and_eq_true,decide_eq_true_eq] at low high ⊢
  omega
 exact ⟨⟨d.ordinal+n,range⟩,dif_pos range,rfl⟩

lemma nextDecpWindow_some (h:nextDecpWindow c=some window) :
 c.complete=false ∧ window=⟨c.nextWindowStart,c.nextWindowStart⟩:=by
 unfold nextDecpWindow at h
 split at h
 · cases h
 · rename_i open'
   cases h
   exact ⟨by simpa using open',rfl⟩

/-- What the cursor becomes with a batch: the next day, or further into this one. -/
structure Advanced (c:DecpCycleCursor)(batch:DecpBatch)(c':DecpCycleCursor):Prop where
 ahead:batch.dayComplete=false→c.windowTotal=some (batch.windowTotal:ℤ) →c.offset<batch.nextOffset
 next:batch.dayComplete=true→c'.nextWindowStart.ordinal=c.nextWindowStart.ordinal+1 ∧
  c'.offset=0 ∧ c'.windowTotal=none
 further:batch.dayComplete=false→c'.nextWindowStart=c.nextWindowStart ∧
  c'.offset=batch.nextOffset ∧ c'.windowTotal=some batch.windowTotal

lemma advanceDecpBatch_ok
 (due:nextDecpWindow c=some window)(fetched:Fetched c window.since batch start) :
 ∃c',advanceDecpBatch c window batch.nextOffset batch.windowTotal batch.dayComplete=.ok c' ∧
  Advanced c batch c':=by
 obtain ⟨ahead,rfl⟩:=nextDecpWindow_some due
 obtain ⟨later,-,nonneg,totals,initial,within,-⟩:=cursorFault_none.mp c.form
 simp only[DecpCycleCursor.complete,decide_eq_false_iff_not,not_lt] at ahead
 have bound:=fetched.within
 have next:=fetched.next
 unfold advanceDecpBatch
 rw[if_neg (not_not.mpr rfl),if_neg (not_not.mpr rfl),if_neg (by omega),if_neg (by omega),
  if_neg (by omega)]
 cases complete:batch.dayComplete with
 | true =>
  have exhausted:=fetched.complete.mp complete
  obtain ⟨tomorrow,found,ordinal⟩:=plus_isSome later ahead (by decide)
  have form:cursorFault c.cycleEnd tomorrow 0 none=none:=
   cursorFault_none.mpr ⟨later,by omega,le_refl 0,by simp,fun _=>rfl,by simp,by simp⟩
  rw[if_pos rfl,if_neg (by omega),advanceDecpCycle,if_neg (not_not.mpr rfl),
   if_neg (not_not.mpr rfl),found]
  refine ⟨_,decpCycleCursor_of form,fun other=>?_,fun _=>⟨ordinal,rfl,rfl⟩,fun other=>?_⟩
  · rw[complete] at other
    cases other
  · rw[complete] at other
    cases other
 | false =>
  have rest:batch.nextOffset≠batch.windowTotal:=by
   intro exhausted
   rw[fetched.complete.mpr exhausted] at complete
   cases complete
  have some':=fetched.progress complete
  have moved:¬(c.windowTotal=some (batch.windowTotal:ℤ) ∧ (batch.nextOffset:ℤ)≤c.offset):=by
   rintro ⟨same,behind⟩
   have here:=fetched.goesOn same
   omega
  have form:cursorFault c.cycleEnd c.nextWindowStart batch.nextOffset
    (some (batch.windowTotal:ℤ))=none:=by
   refine cursorFault_none.mpr ⟨later,by omega,by omega,?_,by simp,?_,fun beyond=>by omega⟩
   · intro t total
     cases total
     omega
   · intro t total
     cases total
     omega
  rw[if_neg (by decide),if_neg (by omega),if_neg moved]
  refine ⟨_,decpCycleCursor_of form,fun _ same=>?_,fun other=>?_,fun _=>⟨rfl,rfl,rfl⟩⟩
  · by_contra behind
    exact moved ⟨same,not_lt.mp behind⟩
  · rw[complete] at other
    cases other

def rowsFrom (day:Day)(total start count:ℕ):List Listed:=
 (List.range count).map fun i=>⟨day,total,start+i⟩

lemma rowsFrom_append (day:Day)(total start m n:ℕ) :
 rowsFrom day total start m++rowsFrom day total (start+m) n=rowsFrom day total start (m+n):=by
 rw[rowsFrom,rowsFrom,rowsFrom,List.range_add,List.map_append,List.map_map]
 congr 2
 funext i
 simp[Nat.add_assoc]

lemma rowsFrom_take (day:Day)(total start count n:ℕ) :
 (rowsFrom day total start count).take n=rowsFrom day total start (min n count):=by
 rw[rowsFrom,←List.map_take,List.take_range,rowsFrom]

/-- The records that the checkpoint stands on. -/
def keptRecords (handed:List Slice):List Listed:=(handed.filter (·.kept)).flatMap (·.records)

lemma keptRecords_append (handed handed':List Slice) :
 keptRecords (handed++handed')=keptRecords handed++keptRecords handed':=by
 rw[keptRecords,List.filter_append,List.flatMap_append]
 rfl

/-- A slice of a day: it goes on in the listing of the total `t`, or is one that
started over and was interrupted. -/
structure Within (day:Day)(t:Option ℕ)(slice:Slice):Prop where
 rows:∃count,slice.records=rowsFrom day slice.total slice.start count ∧
  slice.start+count ≤ slice.total
 resumed:some slice.total≠t→slice.start=0 ∧ slice.kept=false

/-- The kept records are the offsets before the cursor's, in order. -/
structure Covered (c:DecpCycleCursor)(handed:List Slice):Prop where
 kept:keptRecords handed =
  rowsFrom c.nextWindowStart ((c.windowTotal.map Int.toNat).getD 0) 0 c.offset.toNat
 slices:∀slice∈handed,Within c.nextWindowStart (c.windowTotal.map Int.toNat) slice

structure Complete (d:CompletedDay):Prop where
 kept:keptRecords d.handed=rowsFrom d.day d.total 0 d.total
 slices:∀slice∈d.handed,Within d.day (some d.total) slice

structure Sound (s:State):Prop where
 stored:s.stored=none ∧ s.handed=[] ∨ ∃c,s.stored=some c.asDict ∧ Covered c s.handed ∧
  (c.complete=true→s.handed=[])
 running:∀r,s.run=some r→s.stored=some r.cursor.asDict
 days:∀d∈s.days,Complete d

lemma sound_fresh:Sound fresh:=⟨.inl ⟨rfl,rfl⟩,by simp[fresh],by simp[fresh]⟩

lemma Sound.halt (sound:Sound s):Sound {s with run:=none}:=⟨sound.stored,by simp,sound.days⟩

lemma Sound.covered (sound:Sound s)(going:s.run=some r):Covered r.cursor s.handed:=by
 have stored:=sound.running r going
 obtain ⟨absent,-⟩|⟨c,there,covered,-⟩:=sound.stored
 · rw[absent] at stored
   cases stored
 · rw[there] at stored
   rw[←asDict_inj (Option.some.inj stored)]
   exact covered

lemma covered_nil (h:c.offset=0):Covered c []:=by
 refine ⟨?_,by simp⟩
 rw[h]
 rfl

lemma Fetched.start_eq (fetched:Fetched c day batch start)(kept:Bool) :
 (sliceOf batch kept).start=start:=by
 have next:=fetched.next
 change batch.nextOffset-batch.records.length=start
 omega

lemma Fetched.rows (fetched:Fetched c day batch start) :
 batch.records=rowsFrom day batch.windowTotal start batch.records.length:=fetched.records

lemma toNat_total {t:Option ℤ}{total:ℕ}(h:t=some (total:ℤ)) : t.map Int.toNat=some total:=by
 rw[h]
 rfl

/-- An interrupted slice leaves the cursor covered. -/
lemma Covered.interrupt {handed:List Slice}(covered:Covered c handed)
 (fetched:Fetched c c.nextWindowStart batch start)(n:ℕ) :
 Covered c (handed++[{sliceOf batch false with records:=batch.records.take n}]):=by
 have within:=fetched.within
 have next:=fetched.next
 refine ⟨?_,fun slice mem=>?_⟩
 · rw[keptRecords_append,covered.kept]
   exact List.append_nil _
 · rcases List.mem_append.mp mem with old|new
   · exact covered.slices slice old
   · obtain rfl:=List.mem_singleton.mp new
     refine ⟨⟨min n batch.records.length,?_,?_⟩,fun other=>?_⟩
     · dsimp only
       have taken:=congrArg (List.take n) fetched.rows
       rw[rowsFrom_take] at taken
       rw[fetched.start_eq,taken]
       rfl
     · change (sliceOf batch false).start+_≤batch.windowTotal
       rw[fetched.start_eq]
       omega
     · refine ⟨(fetched.start_eq false).trans (fetched.startsOver fun same=>other ?_),rfl⟩
       exact (toNat_total same).symm

/-- A kept slice takes the listing up to the batch's next offset. -/
lemma Covered.extend {handed:List Slice}(covered:Covered c handed)
 (fetched:Fetched c c.nextWindowStart batch start) :
 keptRecords (extend handed (sliceOf batch true)) =
  rowsFrom c.nextWindowStart batch.windowTotal 0 batch.nextOffset ∧
 ∀slice∈extend handed (sliceOf batch true),
  Within c.nextWindowStart (some batch.windowTotal) slice:=by
 have within:=fetched.within
 have next:=fetched.next
 have rows:=fetched.rows
 have mine:Within c.nextWindowStart (some batch.windowTotal) (sliceOf batch true):=by
  refine ⟨⟨batch.records.length,?_,?_⟩,fun other=>absurd rfl other⟩
  · rw[fetched.start_eq]
    exact rows
  · rw[fetched.start_eq]
    change start+_≤batch.windowTotal
    omega
 have own:keptRecords [sliceOf batch true]=batch.records:=List.append_nil _
 unfold DecpCycle.extend
 rw[fetched.start_eq]
 split
 · rename_i ended
   subst ended
   refine ⟨?_,fun slice mem=>List.mem_singleton.mp mem ▸ mine⟩
   rw[own,next,Nat.zero_add]
   exact rows
 · rename_i on
   have same:c.windowTotal=some (batch.windowTotal:ℤ):=by
    by_contra other
    exact on (fetched.startsOver other)
   have here:=fetched.goesOn same
   refine ⟨?_,fun slice mem=>?_⟩
   · rw[keptRecords_append,covered.kept,own,toNat_total same,Option.getD_some,
      show c.offset.toNat=start by omega,next,←rowsFrom_append,Nat.zero_add]
     exact congrArg _ rows
   · rcases List.mem_append.mp mem with old|new
     · exact toNat_total same ▸ covered.slices slice old
     · exact List.mem_singleton.mp new ▸ mine

lemma planDecpCycle_ok {stored:Option Mapping}{checkpointEnd explicitSince:Option Day}
 {requestedUntil:Day}{overlapDays:ℤ}
 (h:planDecpCycle stored checkpointEnd requestedUntil overlapDays explicitSince=.ok c) :
 storedDecpCursor stored=.ok (some c) ∨
  (∀d,storedDecpCursor stored=.ok (some d)→d.complete=true) ∧ c.offset=0:=by
 unfold planDecpCycle at h
 split_ifs at h
 split at h
 · cases h
 rename_i kept decoded
 split at h
 · rename_i d found
   cases h
   rw[decoded,Option.eq_some_of_filter_eq_some found]
   exact .inl rfl
 · rename_i dropped
   dsimp only at h
   split at h
   · cases h
   · split_ifs at h
     refine .inr ⟨fun d is=>?_,(decpCycleCursor_fields h).2.2.1⟩
     rw[decoded] at is
     cases is
     by_contra open'
     simp[open'] at dropped

lemma commit_sound (sound:Sound s)(going:s.run=some r)(due:nextDecpWindow r.cursor=some window)
 (fetched:Fetched r.cursor window.since batch start):Sound (commitBatch s r window batch):=by
 obtain ⟨c,advanced,moved⟩:=advanceDecpBatch_ok due fetched
 obtain ⟨ahead,rfl⟩:=nextDecpWindow_some due
 have covered:=sound.covered going
 have stopped:Sound {s with run:=none,handed:=s.handed++[sliceOf batch false]}:=by
  refine ⟨.inr ⟨r.cursor,sound.running r going,?_,fun done=>?_⟩,by simp,sound.days⟩
  · have interrupted:=covered.interrupt fetched batch.records.length
    rwa[List.take_length] at interrupted
  · rw[ahead] at done
    cases done
 obtain ⟨kept,slices⟩:=covered.extend fetched
 unfold commitBatch
 rw[advanced]
 dsimp only
 cases complete:batch.dayComplete with
 | false =>
  obtain ⟨day,offset,total⟩:=moved.further complete
  refine ⟨.inr ⟨c,rfl,⟨?_,?_⟩,fun done=>?_⟩,?_,sound.days⟩
  · rw[day,toNat_total total,offset]
    exact kept
  · rw[day,toNat_total total]
    exact slices
  · have none':=((cursorFault_none.mp c.form).2.2.2.2.2.2 (of_decide_eq_true done)).2
    rw[none'] at total
    cases total
  · intro q going'
    cases going'
    rfl
 | true =>
  rw[if_pos rfl]
  split_ifs
  · exact stopped
  · obtain ⟨-,offset,-⟩:=moved.next complete
    refine ⟨.inr ⟨c,rfl,covered_nil offset,fun _=>rfl⟩,?_,?_⟩
    · intro q going'
      cases going'
      rfl
    · intro d mem
      rcases List.mem_append.mp mem with old|new
      · exact sound.days d old
      · rw[List.mem_singleton.mp new]
        refine ⟨?_,slices⟩
        rw[fetched.complete.mp complete] at kept
        exact kept

lemma step_sound (s:State)(op:Step)(sound:Sound s):Sound (step s op):=by
 cases op with
 | start checkpointEnd requestedUntil overlapDays explicitSince =>
  simp only[step]
  split
  · exact sound.halt
  · rename_i c planned
    have going:∀r,some (Run.mk c requestedUntil)=some r→some c.asDict=some r.cursor.asDict:=by
     rintro r rfl'
     cases rfl'
     rfl
    refine ⟨.inr ⟨c,rfl,?_⟩,going,sound.days⟩
    rcases planDecpCycle_ok planned with kept|⟨ended,offset⟩
    · obtain ⟨absent,-⟩|⟨d,there,covered⟩:=sound.stored
      · rw[absent] at kept
        cases kept
      · rw[there,storedDecpCursor_asDict] at kept
        cases kept
        exact covered
    · -- a new cursor is planned where nothing has been handed since the last one
      have none':s.handed=[]:=by
       obtain ⟨-,empty⟩|⟨d,there,-,empty⟩:=sound.stored
       · exact empty
       · exact empty (ended d (by rw[there,storedDecpCursor_asDict]))
      change Covered c s.handed ∧ (_→s.handed=[])
      rw[none']
      exact ⟨covered_nil offset,fun _=>rfl⟩
 | batch batchSize shown stops =>
  simp only[step]
  split
  · exact sound
  · rename_i r going
    unfold takeBatch
    split
    · exact sound.halt
    · rename_i window due
      split
      · exact sound.halt
      · rename_i batch fetch
        obtain ⟨start,fetched⟩:=fetchFor_ok fetch
        split
        · rename_i n
          obtain ⟨ahead,rfl⟩:=nextDecpWindow_some due
          refine ⟨.inr ⟨r.cursor,sound.running r going,?_,fun done=>?_⟩,by simp,sound.days⟩
          · exact (sound.covered going).interrupt fetched n
          · rw[ahead] at done
            cases done
        · exact commit_sound sound going due fetched
 | stop=>exact sound.halt

/-- What a batch that the client returns does, unless it completes a day after
the end that its run asks for. -/
structure Moved (s:State)(r:Run)(batch:DecpBatch)(s':State):Prop where
 cursor:∃c,Advanced r.cursor batch c ∧ s'.stored=some c.asDict ∧ s'.run=some {r with cursor:=c}
 days:s'.days.map (fun d=>(d.day,d.total))=s.days.map (fun d=>(d.day,d.total)) ++
  if batch.dayComplete then [(r.cursor.nextWindowStart,batch.windowTotal)] else []

lemma batch_moves {size:ℕ}{shown:Shown}(going:s.run=some r)
 (due:nextDecpWindow r.cursor=some window)
 (fetch:fetchFor r.cursor window.since size (answersOf window.since shown)=.ok batch)
 (asked:batch.dayComplete=true→window.through.ordinal≤r.requestedUntil.ordinal) :
 Moved s r batch (step s (.batch size shown none)):=by
 obtain ⟨start,fetched⟩:=fetchFor_ok fetch
 obtain ⟨c,advanced,moved⟩:=advanceDecpBatch_ok due fetched
 have since:=(nextDecpWindow_some due).2
 simp only[step,going,takeBatch,due,fetch,commitBatch,advanced]
 cases complete:batch.dayComplete with
 | false=>exact ⟨⟨c,moved,rfl,rfl⟩,by simp[complete]⟩
 | true =>
  rw[if_pos rfl,if_neg (not_lt.mpr (asked complete))]
  refine ⟨⟨c,moved,rfl,rfl⟩,?_⟩
  simp[complete,since]

/-- The offsets of the listing of `total` that are left to the cursor. -/
def remaining (c:DecpCycleCursor)(total:ℕ):ℕ:=
 if c.windowTotal=some (total:ℤ) then total-c.offset.toNat else total

lemma steady_step {size total:ℕ}(one:1 ≤ size)(most:size≤pageSize)
 (below:total<resultCeiling)(going:s.run=some r)(due:nextDecpWindow r.cursor=some window)
 (asked:window.through.ordinal≤r.requestedUntil.ordinal) :
 ∃batch,batch.windowTotal=total ∧ Moved s r batch (step s (.batch size (steady total) none)) ∧
  (batch.dayComplete=false→∀c,Advanced r.cursor batch c →
   remaining c total<remaining r.cursor total ∧ nextDecpWindow c=some window):=by
 obtain ⟨batch,fetch,same⟩:∃batch,
   fetchFor r.cursor window.since size (answersOf window.since (steady total))=.ok batch ∧
    batch.windowTotal=total:=fetchFor_steady one most below
 obtain ⟨start,fetched⟩:=fetchFor_ok fetch
 refine ⟨batch,same,batch_moves going due fetch fun _=>asked,fun partial' c moved=>?_⟩
 obtain ⟨day,offset,windowTotal⟩:=moved.further partial'
 have progress:=fetched.progress partial'
 have next:=fetched.next
 have within:=fetched.within
 constructor
 · rw[remaining,if_pos (same ▸ windowTotal),offset,Int.toNat_natCast,remaining]
   split
   · rename_i here
    -- the batch starts at the cursor's offset
     have at':=fetched.goesOn (same.symm ▸ here)
     omega
   · omega
 · have open':c.complete=false:=by
    by_contra done
    have none':=(cursorFault_none.mp c.form).2.2.2.2.2.2
     (of_decide_eq_true (Bool.not_eq_false _ ▸ done))
    rw[none'.2] at windowTotal
    cases windowTotal
   rw[nextDecpWindow,open',(nextDecpWindow_some due).2,day]
   rfl

/-- As long as the portal holds still below its ceiling, the day is complete
after at most one batch for each of the offsets left, and one more. -/
lemma steady_completes {size total:ℕ}(one:1 ≤ size)(most:size≤pageSize)
 (below:total<resultCeiling)(n:ℕ)(going:s.run=some r)
 (due:nextDecpWindow r.cursor=some window)
 (asked:window.through.ordinal≤r.requestedUntil.ordinal)(left:remaining r.cursor total≤n) :
 ∃m≤n+1,∃c,((List.replicate m (.batch size (steady total) none)).foldl step s).run =
   some {r with cursor:=c} ∧
  c.nextWindowStart.ordinal=r.cursor.nextWindowStart.ordinal+1 ∧
  ((List.replicate m (.batch size (steady total) none)).foldl step s).days.map
   (fun d=>(d.day,d.total)) =
    s.days.map (fun d=>(d.day,d.total))++[(r.cursor.nextWindowStart,total)]:=by
 induction n generalizing s r window with
 | zero =>
  obtain ⟨batch,same,⟨⟨c,moved,-,run⟩,days⟩,further⟩:=steady_step one most below going due asked
  cases complete:batch.dayComplete with
  | true =>
   rw[complete,same] at days
   exact ⟨1,le_rfl,c,run,(moved.next complete).1,days⟩
  | false =>
   have less:=(further complete c moved).1
   omega
 | succ n ih =>
  obtain ⟨batch,same,⟨⟨c,moved,-,run⟩,days⟩,further⟩:=steady_step one most below going due asked
  cases complete:batch.dayComplete with
  | true =>
   rw[complete,same] at days
   exact ⟨1,by omega,c,run,(moved.next complete).1,days⟩
  | false =>
   obtain ⟨less,due'⟩:=further complete c moved
   obtain ⟨m,few,c',run',ordinal,days'⟩:=ih run due' asked (by dsimp only;omega)
   rw[complete,if_neg Bool.false_ne_true,List.append_nil] at days
   refine ⟨m+1,by omega,c',run',?_,?_⟩
   · rw[ordinal,(moved.further complete).1]
   · rw[List.replicate_succ,List.foldl_cons,days',days,(moved.further complete).1]

def sampleDay:Day:=⟨739000,by decide⟩

/-- Two of three records are checkpointed; the portal then shows ten for once, and the run that reads
five of them is stopped. The next one finds the three again. -/
def interruptedSteps:List Step:=
 [.start none sampleDay 1 (some sampleDay),.batch 2 (steady 3) none,.batch 5 (steady 10) (some 5),
  .start none sampleDay 1 none,.batch 5 (steady 3) none]

def sinceRestart:List Slice→List Slice
 | []=>[]
 | slice::rest=>if rest.any (·.start=0) then sinceRestart rest else slice::rest

end Kivou.DecpCycle
