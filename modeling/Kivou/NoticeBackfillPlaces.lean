import Kivou.NoticeBackfillFiles

set_option autoImplicit false

/-! What a turn does to the places and the position of a cursor: it keeps to three lookups of an
event, to the count of the outcomes, and to the events it is to reach. -/
namespace Kivou.NoticeBackfill

namespace NoticeBackfillCursor

def places (c:NoticeBackfillCursor):List String:=c.pending.map (·.eventKey)

end NoticeBackfillCursor

section
variable {a:NoticeBackfillAttempt}{pending:List NoticeBackfillAttempt}

lemma any_place (key:String) : pending.any (·.eventKey==key)=true ↔ key∈pending.map (·.eventKey):=by
 rw[List.any_eq_true,List.mem_map]
 constructor
 · rintro ⟨b,mem,same⟩
   exact ⟨b,mem,beq_iff_eq.mp same⟩
 · rintro ⟨b,mem,same⟩
   exact ⟨b,mem,beq_iff_eq.mpr same⟩

lemma setPending_keys:(setPending a pending).map (·.eventKey) =
 if a.eventKey∈pending.map (·.eventKey) then pending.map (·.eventKey)
 else pending.map (·.eventKey)++[a.eventKey]:=by
 unfold setPending
 by_cases there:a.eventKey∈pending.map (·.eventKey)
 · rw[if_pos ((any_place a.eventKey).mpr there),if_pos there]
   exact Tables.map_key_update fun b _ same=>(beq_iff_eq.mp same).symm
 · rw[if_neg fun found=>there ((any_place a.eventKey).mp found),if_neg there]
   simp

lemma mem_setPending_keys {key:String}:key∈(setPending a pending).map (·.eventKey) ↔
 key=a.eventKey ∨ key∈pending.map (·.eventKey):=by
 rw[setPending_keys]
 split
 · rename_i there
   constructor
   · exact .inr
   · rintro (rfl|mem)
     · exact there
     · exact mem
 · rw[List.mem_append,List.mem_singleton]
   exact Or.comm

lemma setPending_nodup (distinct:(pending.map (·.eventKey)).Nodup) :
 ((setPending a pending).map (·.eventKey)).Nodup:=by
 rw[setPending_keys]
 split
 · exact distinct
 · rename_i absent
   refine distinct.append (List.nodup_singleton _) fun key mem last=>absent ?_
   rw[←List.mem_singleton.mp last]
   exact mem

lemma mem_setPending {b:NoticeBackfillAttempt}(h:b∈setPending a pending) : b=a ∨ b∈pending:=by
 unfold setPending at h
 split at h
 · obtain ⟨old,mem,rfl⟩:=Tables.mem_update.mp h
   split
   · exact .inl rfl
   · exact .inr mem
 · rcases List.mem_append.mp h with old|new
   · exact .inr old
   · exact .inl (List.mem_singleton.mp new)

lemma setPending_length:(setPending a pending).length =
 pending.length+if a.eventKey∈pending.map (·.eventKey) then 0 else 1:=by
 have keys:=congrArg List.length (@setPending_keys a pending)
 rw[List.length_map] at keys
 rw[keys]
 split <;> simp

lemma setPending_known (there:a.eventKey∈pending.map (·.eventKey)) :
 (setPending a pending).map (·.eventKey)=pending.map (·.eventKey) ∧
  (setPending a pending).length=pending.length:=by
 rw[setPending_keys,setPending_length,if_pos there,if_pos there]
 exact ⟨rfl,rfl⟩

lemma find?_setPending (key:String):(setPending a pending).find? (·.eventKey==key) =
 if key=a.eventKey then some a else pending.find? (·.eventKey==key):=by
 unfold setPending
 by_cases there:a.eventKey∈pending.map (·.eventKey)
 · rw[if_pos ((any_place a.eventKey).mpr there),Tables.find?_update_of (f:=fun _=>a) (fun _ _=>rfl)]
   by_cases same:key=a.eventKey
   · obtain ⟨b,mem,named⟩:=List.mem_map.mp there
     have found:(pending.find? (·.eventKey==a.eventKey)).isSome:=
      List.find?_isSome.mpr ⟨b,mem,beq_iff_eq.mpr named⟩
     obtain ⟨old,is⟩:=Option.isSome_iff_exists.mp found
     rw[if_pos same,if_pos same,is]
     rfl
   · rw[if_neg same,if_neg same]
 · rw[if_neg fun found=>there ((any_place a.eventKey).mp found),
    Tables.find?_append_fresh fun b mem same=>there (List.mem_map.mpr ⟨b,mem,same⟩)]

end

namespace NoticeBackfillCursor
variable {c:NoticeBackfillCursor}{key:String}

lemma attemptsOf_eq_zero (absent:key∉c.places):c.attemptsOf key=0:=by
 have missing:c.pending.find? (·.eventKey==key)=none:=by
  rw[List.find?_eq_none]
  intro a mem same
  exact absent (List.mem_map.mpr ⟨a,mem,beq_iff_eq.mp same⟩)
 rw[attemptsOf,missing]
 rfl

lemma places_popped:(c.popped key).places=c.places.filter (· != key):=by
 rw[places,places,popped,List.filter_map]
 rfl

lemma mem_places_popped {other:String} :
 other∈(c.popped key).places ↔ other∈c.places ∧ other≠key:=by
 rw[places_popped,List.mem_filter,bne_iff_ne]

lemma attemptsOf_popped {other:String}(apart:other≠key) :
 (c.popped key).attemptsOf other=c.attemptsOf other:=by
 have same:(c.pending.filter (·.eventKey != key)).find? (·.eventKey==other) =
   c.pending.find? (·.eventKey==other):=by
  rw[List.find?_filter]
  refine congrArg (c.pending.find? ·) (funext fun a=>?_)
  by_cases named:a.eventKey=other
  · simp[named,apart]
  · simp[named]
 rw[attemptsOf,attemptsOf,popped,same]

def budget (c:NoticeBackfillCursor)(key:String):ℕ:=
 if key∈c.places then 3-c.attemptsOf key
 else if c.afterEventKey<key then 3 else 0

def ahead (c:NoticeBackfillCursor)(key:String):Bool:=c.afterEventKey<key||key∈c.places

end NoticeBackfillCursor

open NoticeBackfillCursor

structure Attempted (s:Setting)(a:NoticeBackfillAttempt):Prop where
 known:a.eventKey∈s.events
 attempts:1≤a.attempts ∧ a.attempts≤3
 reason:plainReason a.reason

/-- A cursor as the executions write it, from the position `first` on. -/
structure Sound (s:Setting)(first:String)(c:NoticeBackfillCursor):Prop where
 hash:c.selectionHash.all isSha256=true
 position:c.afterEventKey=first ∨ c.afterEventKey∈s.events
 distinct:c.places.Nodup
 pendingLength:c.pending.length≤100
 terminalLength:c.terminal.length≤100
 pending:∀a∈c.pending,Attempted s a
 selected:∀key∈c.places,s.selects key=true
 placed:∀key∈c.places,key≤c.afterEventKey
 terminal:∀a∈c.terminal,Attempted s a

def Done (trace:List Mark)(key:String):Prop:=
 .stored key∈trace ∨ .unsupported key∈trace ∨ .exhausted key 3∈trace

lemma Done.append {trace:List Mark}{key:String}(h:Done trace key)(more:List Mark) :
 Done (trace++more) key:=by
 rcases h with stored|unsupported|exhausted
 · exact .inl (List.mem_append_left _ stored)
 · exact .inr (.inl (List.mem_append_left _ unsupported))
 · exact .inr (.inr (List.mem_append_left _ exhausted))

/-- What holds of a cursor and the world, since the executions have started from `start`. -/
structure Kept (s:Setting)(start:NoticeBackfillCursor)(initially:String→Bool)
  (c:NoticeBackfillCursor)(w:World):Prop where
 sound:Sound s start.afterEventKey c
 count:c.terminalCount+s.events.countP c.ahead ≤ start.terminalCount+s.events.length
 lookups:∀key,w.trace.count (.lookup key)+c.budget key≤3
 pursued:∀key∈s.events,s.selects key=true→initially key=true →
  start.afterEventKey<key→c.afterEventKey<key ∧ w.needs key=true ∨ key∈c.places ∨ Done w.trace key

def Checked (w:World):Prop:=∀c,.checkpoint c∈w.trace→c.Fits

section
variable {s:Setting}{start c:NoticeBackfillCursor}{initially:String→Bool}{w:World}

lemma Kept.append (h:Kept s start initially c w)(more:List Mark)
 (silent:∀key,more.count (.lookup key)=0) :
 Kept s start initially c {w with trace:=w.trace++more}:=by
 refine ⟨h.sound,h.count,fun key=>?_,fun key known chosen first past=>?_⟩
 · rw[List.count_append,silent key]
   exact h.lookups key
 · exact (h.pursued key known chosen first past).imp_right (Or.imp_right (·.append more))

structure Admissible (s:Setting)(c:NoticeBackfillCursor)(w:World)(key:String):Prop where
 known:key∈s.events
 chosen:s.selects key=true
 open_:key∈c.places ∨ c.afterEventKey<key ∧ c.pending.length<100
 first:∀other∈s.events,s.selects other=true→c.afterEventKey<other →
  w.needs other=true→key∈c.places ∨ key≤other

lemma after_le_noted (c:NoticeBackfillCursor)(key:String) :
 c.afterEventKey≤(c.noted key).afterEventKey:=by
 change c.afterEventKey ≤ if c.afterEventKey<key then key else c.afterEventKey
 split
 · rename_i before
   exact (String.le_total _ _).resolve_right (String.not_le.mpr before)
 · exact String.le_refl _

lemma le_after_noted (c:NoticeBackfillCursor)(key:String) : key≤(c.noted key).afterEventKey:=by
 change key ≤ if c.afterEventKey<key then key else c.afterEventKey
 split
 · exact String.le_refl _
 · exact String.not_lt.mp ‹_›

variable {key other first:String}{a:NoticeBackfillAttempt}{w':World}

lemma mem_places_noted :
 other∈(c.noted key).places ↔ other=key ∨ other∈c.places:=mem_setPending_keys

lemma attemptsOf_noted (key other:String):(c.noted key).attemptsOf other =
 if other=key then c.attemptsOf key+1 else c.attemptsOf other:=by
 have found:=@find?_setPending {eventKey:=key,attempts:=c.attemptsOf key+1} c.pending other
 rw[attemptsOf,noted,found]
 split
 · rfl
 · rfl

lemma noted_length (key:String):(c.noted key).pending.length =
 c.pending.length+if key∈c.places then 0 else 1:=setPending_length

lemma Sound.noted (h:Sound s first c)(known:key∈s.events)
 (chosen:s.selects key=true)(room:key∈c.places ∨ c.pending.length<100)
 (more:c.attemptsOf key<3):Sound s first (c.noted key):=by
 refine ⟨h.hash,?_,setPending_nodup h.distinct,?_,h.terminalLength,?_,?_,?_,h.terminal⟩
 · change (if c.afterEventKey<key then key else c.afterEventKey)=first ∨ _
   split
   · refine .inr ?_
     change (if c.afterEventKey<key then key else c.afterEventKey)∈s.events
     rw[if_pos ‹_›]
     exact known
   · rcases h.position with start|event
     · exact .inl start
     · refine .inr ?_
       change (if c.afterEventKey<key then key else c.afterEventKey)∈s.events
       rw[if_neg ‹_›]
       exact event
 · rw[noted_length]
   have within:=h.pendingLength
   split
   · omega
   · rename_i absent
     have few:=room.resolve_left absent
     omega
 · intro a mem
   rcases mem_setPending mem with rfl|old
   · exact ⟨known,⟨Nat.succ_le_succ (Nat.zero_le _),more⟩,fun text is=>by cases is⟩
   · exact h.pending a old
 · intro other mem
   rcases mem_places_noted.mp mem with rfl|old
   · exact chosen
   · exact h.selected other old
 · intro other mem
   rcases mem_places_noted.mp mem with rfl|old
   · exact le_after_noted c other
   · exact String.le_trans (h.placed other old) (after_le_noted c key)

lemma past_of_noted (past:(c.noted key).afterEventKey<other) : c.afterEventKey<other:=
 String.not_le.mp fun back=>String.not_le.mpr past (String.le_trans back (after_le_noted c key))

lemma budget_noted (open_:key∈c.places ∨ c.afterEventKey<key)
 (more:c.attemptsOf key<3):(c.noted key).budget key+1=c.budget key:=by
 have here:key∈(c.noted key).places:=mem_places_noted.mpr (.inl rfl)
 rw[budget,if_pos here,attemptsOf_noted,if_pos rfl,budget]
 by_cases there:key∈c.places
 · rw[if_pos there]
   omega
 · rw[if_neg there,if_pos (open_.resolve_left there),attemptsOf_eq_zero there]

lemma budget_noted_le (apart:other≠key) : (c.noted key).budget other≤c.budget other:=by
 unfold budget
 by_cases there:other∈c.places
 · rw[if_pos (mem_places_noted.mpr (.inr there)),if_pos there,attemptsOf_noted,if_neg apart]
 · have absent:other∉(c.noted key).places:=fun mem=>
    (mem_places_noted.mp mem).elim apart there
   rw[if_neg absent,if_neg there]
   split
   · rename_i past
     rw[if_pos (past_of_noted past)]
   · exact Nat.zero_le _

lemma ahead_noted (open_:key∈c.places ∨ c.afterEventKey<key)
 (h:(c.noted key).ahead other=true):c.ahead other=true:=by
 simp only[ahead,Bool.or_eq_true,decide_eq_true_eq] at h ⊢
 rcases h with past|mem
 · exact .inl (past_of_noted past)
 · rcases mem_places_noted.mp mem with rfl|old
   · exact open_.symm
   · exact .inr old

lemma Kept.noted (h:Kept s start initially c w)(ok:Admissible s c w key)
 (more:c.attemptsOf key<3):Kept s start initially (c.noted key) w ∧
  w.trace.count (.lookup key)+1+(c.noted key).budget key≤3:=by
 have open_:key∈c.places ∨ c.afterEventKey<key:=ok.open_.imp_right And.left
 have less:=budget_noted open_ more
 have one:=h.lookups key
 refine ⟨⟨h.sound.noted ok.known ok.chosen (ok.open_.imp_right And.right) more,?_,?_,?_⟩,by omega⟩
 · have fewer:s.events.countP (c.noted key).ahead ≤ s.events.countP c.ahead:=
    List.countP_mono_left fun other _ there=>ahead_noted open_ there
   have before:=h.count
   change c.terminalCount+_≤_
   omega
 · intro other
   by_cases same:other=key
   · subst same
     omega
   · have smaller:=budget_noted_le (c:=c) same
     have before:=h.lookups other
     omega
 · intro other known chosen first past
   rcases h.pursued other known chosen first past with ⟨after,needed⟩|mem|done
   · by_cases same:other=key
     · exact .inr (.inl (mem_places_noted.mpr (.inl same)))
     · refine .inl ⟨?_,needed⟩
       change (if c.afterEventKey<key then key else c.afterEventKey)<other
       split
       · rename_i fresh
         rcases ok.first other known chosen after needed with there|least
         · exact absurd (h.sound.placed key there) (String.not_le.mpr fresh)
         · refine String.not_le.mp fun back=>same (String.le_antisymm back least)
       · exact after
   · exact .inr (.inl (mem_places_noted.mpr (.inr mem)))
   · exact .inr (.inr done)

lemma Sound.popped (h:Sound s first c)(key:String) : Sound s first (c.popped key):=by
 have shorter:(c.popped key).pending.length≤c.pending.length:=List.length_filter_le _ _
 refine ⟨h.hash,h.position,?_,shorter.trans h.pendingLength,h.terminalLength,?_,?_,?_,h.terminal⟩
 · rw[places_popped]
   exact h.distinct.filter _
 · intro a mem
   exact h.pending a (List.mem_filter.mp mem).1
 · intro other mem
   exact h.selected other (mem_places_popped.mp mem).1
 · intro other mem
   exact h.placed other (mem_places_popped.mp mem).1

lemma Sound.ended (h:Sound s first c) (about:Attempted s a):Sound s first (c.ended a):=by
 have popped:=h.popped a.eventKey
 refine ⟨h.hash,h.position,popped.distinct,popped.pendingLength,?_,popped.pending,
  popped.selected,popped.placed,?_⟩
 · change ((c.terminal++[a]).drop (c.terminal.length+1-100)).length≤100
   rw[List.length_drop,List.length_append,List.length_singleton]
   omega
 · intro b mem
   rcases List.mem_append.mp (List.mem_of_mem_drop mem) with old|new
   · exact h.terminal b old
   · rw[List.mem_singleton.mp new]
     exact about

lemma budget_popped (placed:key≤c.afterEventKey)(other:String) :
 (c.popped key).budget other≤c.budget other:=by
 by_cases same:other=key
 · subst same
   have absent:other∉(c.popped other).places:=fun mem=>(mem_places_popped.mp mem).2 rfl
   rw[budget,if_neg absent]
   change (if c.afterEventKey<other then 3 else 0)≤_
   rw[if_neg (String.not_lt.mpr placed)]
   exact Nat.zero_le _
 · unfold budget
   rw[attemptsOf_popped same]
   by_cases there:other∈c.places
   · rw[if_pos (mem_places_popped.mpr ⟨there,same⟩),if_pos there]
   · rw[if_neg fun mem=>there (mem_places_popped.mp mem).1,if_neg there]
     exact Nat.le_refl _

lemma ahead_popped (placed:key≤c.afterEventKey)
 (h:(c.popped key).ahead other=true):c.ahead other=true ∧ other≠key:=by
 simp only[ahead,Bool.or_eq_true,decide_eq_true_eq] at h ⊢
 rcases h with past|mem
 · have past:c.afterEventKey<other:=past
   refine ⟨.inl past,?_⟩
   rintro rfl
   exact String.not_le.mpr past placed
 · obtain ⟨there,apart⟩:=mem_places_popped.mp mem
   exact ⟨.inr there,apart⟩

lemma pursued_popped (h:Kept s start initially c w) {more:List Mark}
 (trace:w'.trace=w.trace++more)(needs:∀other,other≠key→w'.needs other=w.needs other)
 (done:Done w'.trace key)(other:String)(known:other∈s.events)
 (chosen:s.selects other=true)(first:initially other=true)
 (past:start.afterEventKey<other) :
 c.afterEventKey<other ∧ w'.needs other=true ∨ other∈(c.popped key).places ∨ Done w'.trace other:=by
 by_cases same:other=key
 · rw[same]
   exact .inr (.inr done)
 · rcases h.pursued other known chosen first past with after|mem|was
   · rw[needs other same]
     exact .inl after
   · exact .inr (.inl (mem_places_popped.mpr ⟨mem,same⟩))
   · refine .inr (.inr ?_)
     rw[trace]
     exact was.append more

lemma Kept.popped (h:Kept s start initially c w) (placed:key≤c.afterEventKey)(more:List Mark)
 (trace:w'.trace=w.trace++more)(silent:∀key,more.count (.lookup key)=0)
 (needs:∀other,other≠key→w'.needs other=w.needs other)(done:Done w'.trace key) :
 Kept s start initially (c.popped key) w':=by
 refine ⟨h.sound.popped key,?_,?_,pursued_popped h trace needs done⟩
 · have fewer:s.events.countP (c.popped key).ahead ≤ s.events.countP c.ahead:=
    List.countP_mono_left fun other _ there=>(ahead_popped placed there).1
   have before:=h.count
   change c.terminalCount+_≤_
   omega
 · intro other
   have before:=h.lookups other
   have less:=budget_popped placed other
   rw[trace,List.count_append,silent other]
   omega

lemma Kept.ended (h:Kept s start initially c w)
 (about:Attempted s a)(there:a.eventKey∈c.places)(more:List Mark)
 (trace:w'.trace=w.trace++more)(silent:∀key,more.count (.lookup key)=0)
 (needs:w'.needs=w.needs)(done:Done w'.trace a.eventKey) :
 Kept s start initially (c.ended a) w':=by
 have placed:=h.sound.placed a.eventKey there
 have popped:=h.popped placed more trace silent (fun other _=>congrFun needs other) done
 refine ⟨h.sound.ended about,?_,popped.lookups,popped.pursued⟩
 have less:s.events.countP (c.popped a.eventKey).ahead<s.events.countP c.ahead:=by
  refine Tables.countP_lt_countP (fun other _ ahead=>(ahead_popped placed ahead).1) about.known ?_ ?_
  · simp[ahead,there]
  · by_contra still
    exact (ahead_popped placed (Bool.not_eq_false _ ▸ still)).2 rfl
 have before:=h.count
 change c.terminalCount+1+s.events.countP (c.popped a.eventKey).ahead≤_
 omega

lemma Kept.retried (h:Kept s start initially c w) (about:Attempted s a)(there:a.eventKey∈c.places)
 (same:a.attempts=c.attemptsOf a.eventKey) :
 Kept s start initially {c with pending:=setPending a c.pending} w:=by
 have places:NoticeBackfillCursor.places {c with pending:=setPending a c.pending}=c.places:=
  (setPending_known there).1
 have attempts:∀key,NoticeBackfillCursor.attemptsOf
   {c with pending:=setPending a c.pending} key=c.attemptsOf key:=by
  intro key
  have found:=@find?_setPending a c.pending key
  rw[attemptsOf,found]
  split
  · rename_i named
    rw[named]
    exact same
  · rfl
 have length:=(setPending_known there).2
 refine ⟨⟨h.sound.hash,h.sound.position,?_,?_,h.sound.terminalLength,?_,?_,?_,
  h.sound.terminal⟩,?_,?_,?_⟩
 · rw[places]
   exact h.sound.distinct
 · exact length.le.trans h.sound.pendingLength
 · intro b mem
   rcases mem_setPending mem with rfl|old
   · exact about
   · exact h.sound.pending b old
 · rw[places]
   exact h.sound.selected
 · rw[places]
   exact h.sound.placed
 · have ahead:NoticeBackfillCursor.ahead {c with pending:=setPending a c.pending}=c.ahead:=by
    funext key
    rw[NoticeBackfillCursor.ahead,places]
    rfl
   rw[ahead]
   exact h.count
 · intro key
   have budget:NoticeBackfillCursor.budget {c with pending:=setPending a c.pending} key =
     c.budget key:=by
    rw[NoticeBackfillCursor.budget,places,attempts]
    rfl
   rw[budget]
   exact h.lookups key
 · rw[places]
   exact h.pursued

structure Sized (s:Setting)(start:NoticeBackfillCursor):Prop where
 events:∀key∈s.events,utf8Size (quoted key)≤1136
 position:start.afterEventKey.length≤256 ∧ utf8Size (quoted start.afterEventKey)≤1136
 count:start.terminalCount<2^63

lemma Attempted.fits (h:Attempted s a)(sized:Sized s start) :
 a.Fits:=
 ⟨s.bounded _ h.known,sized.events _ h.known,h.attempts,h.reason⟩

lemma Kept.fits (h:Kept s start initially c w)(sized:Sized s start):c.Fits:=by
 have position:c.afterEventKey.length≤256 ∧ utf8Size (quoted c.afterEventKey)≤1136:=by
  rcases h.sound.position with first|event
  · rw[first]
    exact sized.position
  · exact ⟨(s.bounded _ event).2,sized.events _ event⟩
 have few:=s.few
 have count:=sized.count
 have within:=h.count
 exact ⟨h.sound.hash,position.1,position.2,h.sound.pendingLength,h.sound.terminalLength,
  fun a mem=>(h.sound.pending a mem).fits sized,fun a mem=>(h.sound.terminal a mem).fits sized,
  h.sound.distinct,by omega⟩

structure Whole (s:Setting)(start:NoticeBackfillCursor)(initially:String→Bool) (w:World):Prop where
 kept:Kept s start initially w.file w
 checked:Checked w

lemma Checked.mark (h:Checked w){m:Mark}(other:∀c,m≠.checkpoint c) : Checked (w.mark m):=by
 intro c mem
 rcases List.mem_append.mp mem with old|new
 · exact h c old
 · exact absurd (List.mem_singleton.mp new).symm (other c)

lemma Kept.checkpoint (kept:Kept s start initially c w)(checked:Checked w)
 (sized:Sized s start):Whole s start initially (w.checkpoint c):=by
 refine ⟨?_,fun d mem=>?_⟩
 · have written:=kept.append [.checkpoint c] fun key=>rfl
   exact ⟨written.sound,written.count,written.lookups,written.pursued⟩
 · rcases List.mem_append.mp mem with old|new
   · exact checked d old
   · obtain rfl:d=c:=by simpa using new
     exact kept.fits sized

structure Moved (c:NoticeBackfillCursor)(w:World)(key:String)(c':NoticeBackfillCursor)
  (w':World):Prop where
 after:c'.afterEventKey=if c.afterEventKey<key then key else c.afterEventKey
 places:∀other,other≠key→(other∈c'.places ↔ other∈c.places)
 length:c'.pending.length≤c.pending.length+if key∈c.places then 0 else 1
 needs:∀other,other≠key→w'.needs other=w.needs other

lemma Kept.looked (h:Kept s start initially c w)(key:String)
 (spare:w.trace.count (.lookup key)+1+c.budget key≤3) :
 Kept s start initially c (w.mark (.lookup key)):=by
 refine ⟨h.sound,h.count,fun other=>?_,fun other known chosen first past=>?_⟩
 · change (w.trace++[Mark.lookup key]).count (Mark.lookup other)+_≤3
   rw[List.count_append,List.count_singleton]
   have before:=h.lookups other
   by_cases same:other=key
   · subst same
     simp only[beq_self_eq_true,if_true]
     omega
   · have apart:(Mark.lookup key==Mark.lookup other)=false:=by
      simp[Ne.symm same]
     rw[apart]
     exact before
 · exact (h.pursued other known chosen first past).imp_right (Or.imp_right (·.append _))

lemma Kept.answered (h:Kept s start initially c w)(there:key∈c.places)
 (answer:Answer):Kept s start initially c (w.answered key answer):=by
 cases answer with
 | failed=>exact h
 | unsupported=>exact h.append [.unsupported key] fun _=>rfl
 | stored needed =>
  have marked:=h.append [.stored key] fun _=>rfl
  refine ⟨h.sound,h.count,marked.lookups,fun other known chosen first past=>?_⟩
  by_cases same:other=key
  · exact .inr (.inl (same ▸ there))
  · rcases marked.pursued other known chosen first past with ⟨after,needs⟩|rest
    · refine .inl ⟨after,?_⟩
      change (if other=key then needed else w.needs other)=true
      rw[if_neg same]
      exact needs
    · exact .inr rest

lemma settled_after (key:String)(answer:Answer) :
 (c.settled key answer).afterEventKey=c.afterEventKey:=by
 cases answer with
 | stored=>rfl
 | unsupported=>rfl
 | failed =>
  rw[settled]
  split
  · rfl
  · rfl

lemma mem_places_settled (there:key∈c.places)(apart:other≠key)
 (answer:Answer):other∈(c.settled key answer).places ↔ other∈c.places:=by
 have popped:other∈(c.popped key).places ↔ other∈c.places:=by simp[mem_places_popped,apart]
 cases answer with
 | stored=>exact popped
 | unsupported=>exact popped
 | failed failure =>
  rw[settled]
  split
  · exact popped
  · have known:=setPending_known (a:=⟨key,c.attemptsOf key,some failure.reason⟩) there
    exact iff_of_eq (congrArg (other ∈ ·) known.1)

lemma settled_length (there:key∈c.places)(answer:Answer) :
 (c.settled key answer).pending.length≤c.pending.length:=by
 have popped:(c.popped key).pending.length≤c.pending.length:=List.length_filter_le _ _
 cases answer with
 | stored=>exact popped
 | unsupported=>exact popped
 | failed failure =>
  rw[settled]
  split
  · exact popped
  · exact (setPending_known (a:=⟨key,c.attemptsOf key,some failure.reason⟩) there).2.le

lemma answered_needs (key:String)(answer:Answer)(apart:other≠key) :
 (w.answered key answer).needs other=w.needs other:=by
 cases answer with
 | stored=>exact if_neg apart
 | unsupported=>rfl
 | failed=>rfl

lemma failure_reason_plain (failure:Failure):plainReason (some failure.reason):=by
 rintro text ⟨⟩
 cases failure with
 | category category=>cases category <;> exact ⟨by decide,by decide +kernel⟩
 | safe reason=>cases reason <;> exact ⟨by decide,by decide +kernel⟩
 | unnamed type=>exact ⟨type.length,type.form⟩

@[simp] lemma answered_file (key:String)(answer:Answer) : (w.answered key answer).file=w.file:=by
 cases answer with
 | stored=>rfl
 | unsupported=>rfl
 | failed=>rfl

lemma Kept.settled (h:Kept s start initially c w)(known:key∈s.events)
 (there:key∈c.places)(attempts:1≤c.attemptsOf key ∧ c.attemptsOf key≤3)
 (answer:Answer){more:List Mark}(silent:∀key,more.count (.lookup key)=0)
 (given_up:∀failure,answer=.failed failure→3≤c.attemptsOf key →
  .exhausted key 3∈more) :
 Kept s start initially (c.settled key answer)
  {w.answered key answer with trace:=(w.answered key answer).trace++more}:=by
 have placed:=h.sound.placed key there
 have once:∀k,([Mark.unsupported key]++more).count (.lookup k)=0:=by
  intro k
  rw[List.count_append,silent k]
  rfl
 cases answer with
 | stored needed =>
  refine h.popped placed ([.stored key]++more) (List.append_assoc _ _ _) once
   (fun other apart=>if_neg apart) (.inl ?_)
  exact List.mem_append_left _ (List.mem_append_right _ List.mem_cons_self)
 | unsupported =>
  refine h.ended ⟨known,attempts,?_⟩ there ([.unsupported key]++more)
   (List.append_assoc _ _ _) once rfl (.inr (.inl ?_))
  · rintro text ⟨⟩
    exact ⟨by decide,by decide +kernel⟩
  · exact List.mem_append_left _ (List.mem_append_right _ List.mem_cons_self)
 | failed failure =>
  have about:Attempted s ⟨key,c.attemptsOf key,some failure.reason⟩:=
   ⟨known,attempts,failure_reason_plain failure⟩
  rw[NoticeBackfillCursor.settled]
  split
  · rename_i last
    refine h.ended about there more rfl silent rfl (.inr (.inr ?_))
    exact List.mem_append_right _ (given_up failure rfl last)
  · have kept:=(h.retried about there rfl).append more silent
    exact kept

lemma spent_kept (running:Kept s start initially c w)(known:key∈s.events)
 (spent:3≤c.attemptsOf key) :
 Kept s start initially (c.ended ⟨key,3,some "attempt_limit"⟩) (w.mark (.exhausted key 3)) ∧
  Moved c w key (c.ended ⟨key,3,some "attempt_limit"⟩) (w.mark (.exhausted key 3)):=by
 have there:key∈c.places:=by
  by_contra absent
  rw[attemptsOf_eq_zero absent] at spent
  exact absurd spent (by decide)
 have about:Attempted s ⟨key,3,some "attempt_limit"⟩:=by
  refine ⟨known,⟨Nat.le_add_left 1 2,Nat.le_refl 3⟩,?_⟩
  rintro text ⟨⟩
  exact ⟨by decide,by decide +kernel⟩
 have placed:=running.sound.placed key there
 refine ⟨running.ended about there [.exhausted key 3] rfl (fun _=>rfl) rfl (.inr (.inr ?_)),?_,?_,?_,fun _ _=>rfl⟩
 · exact List.mem_append_right _ List.mem_cons_self
 · exact (if_neg (String.not_lt.mpr placed)).symm
 · intro other apart
   exact mem_places_popped.trans (and_iff_left apart)
 · rw[if_pos there]
   exact List.length_filter_le _ _

lemma marked_trace (w:World)(marked:Bool)(m:Mark) : (if marked then w.mark m else w) =
  {w with trace:=w.trace++if marked then [m] else []}:=by
 cases marked with
 | true=>rfl
 | false=>simp

lemma turn_kept (sized:Sized s start)(running:Kept s start initially c w)
 (whole:Whole s start initially w)(ok:Admissible s c w key)(fate:Fate) :
 Whole s start initially (turn c w key fate).1 ∧ ∀c',(turn c w key fate).2=some c' →
  Kept s start initially c' (turn c w key fate).1 ∧ Moved c w key c' (turn c w key fate).1:=by
 unfold turn
 split
 · rename_i spent
   obtain ⟨kept,moved⟩:=spent_kept running ok.known spent
   have checked:=whole.checked.mark (m:=.exhausted key 3) fun _=>by simp
   have written:=kept.checkpoint checked sized
   have on:∀c',some (c.ended ⟨key,3,some "attempt_limit"⟩)=some c' →
     Kept s start initially c' ((w.mark (.exhausted key 3)).checkpoint
      (c.ended ⟨key,3,some "attempt_limit"⟩)) ∧
     Moved c w key c' ((w.mark (.exhausted key 3)).checkpoint
      (c.ended ⟨key,3,some "attempt_limit"⟩)):=by
    rintro c' ⟨⟩
    exact ⟨written.kept,moved.after,moved.places,moved.length,moved.needs⟩
   cases fate with
   | lost=>exact ⟨whole,fun _ is=>by cases is⟩
   | noted | lookedUp | answered=>exact ⟨written,on⟩
 · rename_i left
   have more:c.attemptsOf key<3:=Nat.lt_of_not_le left
   have here:key∈(c.noted key).places:=mem_places_noted.mpr (.inl rfl)
   have attempts:(c.noted key).attemptsOf key=c.attemptsOf key+1:=
    (attemptsOf_noted key key).trans (if_pos rfl)
   obtain ⟨noted,spare⟩:=running.noted ok more
   have first:=noted.checkpoint whole.checked sized
   have looked:=first.kept.looked key (by
    change (w.trace++[Mark.checkpoint (c.noted key)]).count (Mark.lookup key)+1+_≤3
    rw[List.count_append]
    exact spare)
   have seen:=first.checked.mark (m:=.lookup key) fun _=>by simp
   cases fate with
   | lost=>exact ⟨whole,fun _ is=>by cases is⟩
   | noted=>exact ⟨first,fun _ is=>by cases is⟩
   | lookedUp=>exact ⟨⟨looked,seen⟩,fun _ is=>by cases is⟩
   | answered answer written =>
    have known:=looked.answered here answer
    have stored:Checked ((((w.checkpoint (c.noted key)).mark (.lookup key))).answered key answer):=by
     cases answer with
     | failed=>exact seen
     | unsupported=>exact seen.mark (m:=.unsupported key) fun _=>by simp
     | stored=>exact seen.mark (m:=.stored key) fun _=>by simp
    cases written with
    | false =>
     refine ⟨⟨?_,stored⟩,fun _ is=>by cases is⟩
     change Kept s start initially (((w.checkpoint (c.noted key)).mark
      (.lookup key)).answered key answer).file _
     rw[answered_file]
     exact known
    | true =>
     have silent:∀other,(if (c.noted key).exhausts key answer then
       [Mark.exhausted key ((c.noted key).attemptsOf key)] else []).count (.lookup other)=0:=by
      intro other
      split
      · rfl
      · rfl
     have within:1≤(c.noted key).attemptsOf key ∧ (c.noted key).attemptsOf key≤3:=by omega
     have settled:=looked.settled ok.known here within answer silent (by
      rintro failure rfl last
      have three:(c.noted key).attemptsOf key=3:=Nat.le_antisymm within.2 last
      have is:(c.noted key).exhausts key (.failed failure)=true:=decide_eq_true last
      rw[if_pos is,three]
      exact List.mem_cons_self)
     have marked:=marked_trace (((w.checkpoint (c.noted key)).mark (.lookup key)).answered key answer)
      ((c.noted key).exhausts key answer) (.exhausted key ((c.noted key).attemptsOf key))
     rw[←marked] at settled
     have kept:=settled.checkpoint (by
      split
      · exact stored.mark (m:=.exhausted key _) fun _=>by simp
      · exact stored) sized
     refine ⟨kept,?_⟩
     rintro c' ⟨⟩
     refine ⟨kept.kept,settled_after key answer,fun other apart=>?_,?_,fun other apart=>?_⟩
     · rw[mem_places_settled here apart,mem_places_noted]
       exact or_iff_right apart
     · exact (settled_length here answer).trans (noted_length key).le
     · have before:=answered_needs (w:=(w.checkpoint (c.noted key)).mark (.lookup key)) key answer
        apart
       exact (congrFun (congrArg World.needs marked) other).trans before

end

end Kivou.NoticeBackfill
