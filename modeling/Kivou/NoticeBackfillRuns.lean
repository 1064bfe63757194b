import Kivou.NoticeBackfillPlaces
import Kivou.Runs

set_option autoImplicit false

/-! Where the database orders the events as their keys are compared, an execution takes its rows in
an order that passes over none of them, and what a turn keeps is kept by every sequence of
executions, wherever each of them ends. -/
namespace Kivou.NoticeBackfill
open NoticeBackfillCursor

def Ordered (s:Setting)(start:NoticeBackfillCursor):Prop:=
 ∀a∈s.events,∀b,b∈s.events ∨ b=start.afterEventKey→s.precedes a b=decide (a≤b)

section
variable {s:Setting}{start c:NoticeBackfillCursor}{initially:String→Bool}{w:World}

structure Rows (s:Setting)(c:NoticeBackfillCursor)(w:World)(rows:List String):Prop where
 distinct:rows.Nodup
 known:∀key∈rows,key∈s.events ∧ s.selects key=true
 ahead:∀key∈rows,key∈c.places ∨ c.afterEventKey<key
 sorted:rows.Pairwise fun a b=>b∈c.places ∨ a<b
 room:c.pending.length+rows.countP (fun key=>decide (key∉c.places))≤100
 none_between:∀other∈s.events,s.selects other=true→c.afterEventKey<other →
  w.needs other=true → other∈rows ∨ ∀key∈rows,key∈c.places ∨ key<other

variable {key:String}{rows:List String}{c':NoticeBackfillCursor}{limit:ℕ} {needs:String→Bool}

lemma Rows.admissible {first:String}(h:Rows s c w (key::rows))
 (sound:Sound s first c):Admissible s c w key:=by
 obtain ⟨known,chosen⟩:=h.known key List.mem_cons_self
 refine ⟨known,chosen,?_,?_⟩
 · by_cases there:key∈c.places
   · exact .inl there
   · have past:=(h.ahead key List.mem_cons_self).resolve_left there
     have room:=h.room
     rw[List.countP_cons_of_pos (by simpa using there)] at room
     exact .inr ⟨past,by omega⟩
 · intro other event selects past needed
   have fresh:other∉c.places:=fun there=>String.not_le.mpr past (sound.placed other there)
   rcases h.none_between other event selects past needed with mem|all
   · rcases List.mem_cons.mp mem with rfl|later
     · exact .inr (String.le_refl _)
     · have before:=((List.pairwise_cons.mp h.sorted).1 other later).resolve_left fresh
       exact .inr ((String.le_total _ _).resolve_right (String.not_le.mpr before))
   · exact (all key List.mem_cons_self).imp_right fun before=>
      (String.le_total _ _).resolve_right (String.not_le.mpr before)

lemma Rows.tail (h:Rows s c w (key::rows)){w':World}
 (moved:Moved c w key c' w'):Rows s c' w' rows:=by
 obtain ⟨absent,distinct⟩:=List.nodup_cons.mp h.distinct
 obtain ⟨least,sorted⟩:=List.pairwise_cons.mp h.sorted
 have apart:∀other∈rows,other≠key:=by
  rintro other mem rfl
  exact absent mem
 have same:∀other∈rows,(other∈c'.places ↔ other∈c.places):=fun other mem=>
  moved.places other (apart other mem)
 refine ⟨distinct,fun other mem=>h.known other (List.mem_cons_of_mem _ mem),?_,?_,?_,?_⟩
 · intro other mem
   rw[same other mem]
   rcases h.ahead other (List.mem_cons_of_mem _ mem) with there|past
   · exact .inl there
   · refine (least other mem).imp_right fun before=>?_
     rw[moved.after]
     split
     · exact before
     · exact past
 · exact sorted.imp_of_mem fun {a b} _ mem before=>before.imp_left (same b mem).mpr
 · have counted:rows.countP (fun key=>decide (key∉c'.places)) =
     rows.countP fun key=>decide (key∉c.places):=
    List.countP_congr fun other mem=>by simp[same other mem]
   have length:=moved.length
   have room:=h.room
   rw[List.countP_cons] at room
   rw[counted]
   by_cases there:key∈c.places
   · rw[if_pos there] at length
     omega
   · rw[if_neg there] at length
     rw[if_pos (by simpa using there)] at room
     omega
 · intro other event selects past needed
   have back:¬c'.afterEventKey<key:=by
    rw[moved.after]
    split
    · exact String.lt_irrefl key
    · assumption
   have beyond:c.afterEventKey<other:=by
    rw[moved.after] at past
    split at past
    · exact String.lt_trans ‹_› past
    · exact past
   have other_key:other≠key:=by
    rintro rfl
    exact back past
   rw[moved.needs other other_key] at needed
   rcases h.none_between other event selects beyond needed with mem|all
   · exact .inl ((List.mem_cons.mp mem).resolve_left other_key)
   · refine .inr fun row mem=>?_
     rw[same row mem]
     exact all row (List.mem_cons_of_mem _ mem)

lemma process_whole (sized:Sized s start)(running:Kept s start initially c w)
 (whole:Whole s start initially w)(left:Rows s c w rows)
 (fates:List Fate):Whole s start initially (process c w rows fates):=by
 induction rows generalizing c w fates with
 | nil=>exact whole
 | cons key rows ih =>
  cases fates with
  | nil=>exact whole
  | cons fate fates =>
   obtain ⟨after,goes_on⟩:=turn_kept sized running whole (left.admissible running.sound) fate
   rw[process]
   cases next:turn c w key fate with
   | mk w' cursor =>
    rw[next] at after goes_on
    cases cursor with
    | none=>exact after
    | some c' =>
     obtain ⟨kept,moved⟩:=goes_on c' rfl
     exact ih kept after (left.tail moved) fates

lemma mem_pendingRows : key∈pendingRows s c limit ↔
  key∈s.events ∧ key∈c.retried limit ∧ s.selects key=true:=by
 simp[pendingRows]

lemma mem_candidates : key∈candidates s c needs limit ↔ key∈s.events ∧ s.selects key=true ∧
  s.precedes key c.afterEventKey=false ∧ key∉c.retried limit ∧ needs key=true:=by
 simp[candidates,and_assoc]

lemma retried_subset (h:key∈c.retried limit):key∈c.places:=by
 obtain ⟨a,mem,named⟩:=List.mem_map.mp h
 exact List.mem_map.mpr ⟨a,List.mem_of_mem_take mem,named⟩

lemma pendingRows_placed (h:key∈pendingRows s c limit) :
 key∈c.places:=retried_subset (mem_pendingRows.mp h).2.1

lemma Ordered.past (ordered:Ordered s start)(sound:Sound s start.afterEventKey c)
 (known:key∈s.events) :
 s.precedes key c.afterEventKey=false ↔ c.afterEventKey<key:=by
 rw[ordered key known _ sound.position.symm,decide_eq_false_iff_not,String.not_le]

lemma candidates_sorted (ordered:Ordered s start)(needs:String→Bool)(limit:ℕ) :
 (candidates s c needs limit).Pairwise (· < ·):=by
 have distinct:(candidates s c needs limit).Nodup:=
  (List.perm_insertionSort _ _).nodup_iff.mpr (s.distinct.filter _)
 have sorted:(candidates s c needs limit).Pairwise fun a b=>s.precedes a b=true:=by
  have total:Std.Total fun a b=>s.precedes a b=true:=
   ⟨fun a b=>(Bool.or_eq_true _ _).mp (s.total a b)⟩
  have trans:IsTrans String fun a b=>s.precedes a b=true:=⟨s.trans⟩
  exact List.pairwise_insertionSort _ _
 refine (sorted.and distinct).imp_of_mem fun {a b} first second both=>?_
 have before:a≤b:=by
  have agreed:=ordered a (mem_candidates.mp first).1 b (.inl (mem_candidates.mp second).1)
  exact of_decide_eq_true (agreed.symm.trans both.1)
 exact String.not_le.mp fun back=>both.2 (String.le_antisymm before back)

lemma candidate_of_needed (ordered:Ordered s start)(sound:Sound s start.afterEventKey c)
 (limit:ℕ)(known:key∈s.events)
 (chosen:s.selects key=true)(past:c.afterEventKey<key)(needed:needs key=true) :
 key∈candidates s c needs limit:=by
 refine mem_candidates.mpr ⟨known,chosen,(ordered.past sound known).mpr past,?_,needed⟩
 intro there
 exact String.not_le.mpr past (sound.placed key (retried_subset there))

lemma selected_rows (ordered:Ordered s start)(sound:Sound s start.afterEventKey c)
 (limit:ℕ):Rows s c w (selected s c w.needs limit):=by
 have fresh:∀key∈freshRows s c w.needs limit,key∈candidates s c w.needs limit:=
  fun key mem=>List.mem_of_mem_take mem
 have past:∀key∈freshRows s c w.needs limit,c.afterEventKey<key:=by
  intro key mem
  obtain ⟨known,-,after,-⟩:=mem_candidates.mp (fresh key mem)
  exact (ordered.past sound known).mp after
 have sorted:=candidates_sorted (c:=c) ordered w.needs limit
 refine ⟨?_,?_,?_,?_,?_,?_⟩
 · have left:(pendingRows s c limit).Nodup:=
    (List.perm_insertionSort _ _).nodup_iff.mpr (s.distinct.filter _)
   have right:(freshRows s c w.needs limit).Nodup:=by
    refine (sorted.sublist (List.take_sublist _ _)).imp fun {a b} before=>?_
    rintro rfl
    exact String.lt_irrefl a before
   refine left.append right fun key old new=>?_
   exact (mem_candidates.mp (fresh key new)).2.2.2.1 (mem_pendingRows.mp old).2.1
 · intro key mem
   rcases List.mem_append.mp mem with old|new
   · exact ⟨(mem_pendingRows.mp old).1,(mem_pendingRows.mp old).2.2⟩
   · exact ⟨(mem_candidates.mp (fresh key new)).1,(mem_candidates.mp (fresh key new)).2.1⟩
 · intro key mem
   exact (List.mem_append.mp mem).imp pendingRows_placed (past key)
 · refine List.pairwise_append.mpr ⟨?_,?_,?_⟩
   · exact List.pairwise_of_forall_mem_list fun _ _ b mem=>.inl (pendingRows_placed mem)
   · exact (sorted.sublist (List.take_sublist _ _)).imp .inr
   · intro a old b new
     have behind:=sound.placed a (pendingRows_placed old)
     exact .inr (String.not_le.mp fun back=>
      String.not_le.mpr (past b new) (String.le_trans back behind))
 · have old:(pendingRows s c limit).countP (fun key=>decide (key∉c.places))=0:=by
    rw[List.countP_eq_zero]
    intro key mem
    simpa using pendingRows_placed mem
   have new:(freshRows s c w.needs limit).countP (fun key=>decide (key∉c.places)) ≤
     100-c.pending.length:=by
    refine List.countP_le_length.trans ?_
    rw[freshRows,List.length_take]
    omega
   have within:=sound.pendingLength
   rw[selected,List.countP_append,old]
   omega
 · intro other known chosen after needed
   have mem:=candidate_of_needed ordered sound limit known chosen after needed
   rw[←List.take_append_drop (min (limit-(pendingRows s c limit).length)
    (100-c.pending.length)) (candidates s c w.needs limit)] at mem sorted
   rcases List.mem_append.mp mem with taken|dropped
   · exact .inl (List.mem_append_right _ taken)
   · refine .inr fun key row=>?_
     rcases List.mem_append.mp row with old|new
     · exact .inl (pendingRows_placed old)
     · exact .inr ((List.pairwise_append.mp sorted).2.2 key new other dropped)

lemma nothing_left (ordered:Ordered s start)(sound:Sound s start.afterEventKey c)
 (some:1≤limit)(none:selected s c needs limit=[]) :
 c.places=[] ∧ ∀key∈s.events,s.selects key=true→c.afterEventKey<key →needs key=false:=by
 obtain ⟨old,new⟩:=List.append_eq_nil_iff.mp none
 have empty:c.pending=[]:=by
  cases pending:c.pending with
  | nil=>rfl
  | cons a rest =>
   have here:a∈c.pending:=pending ▸ List.mem_cons_self
   have first:a.eventKey∈c.retried limit:=by
    obtain ⟨n,rfl⟩:=Nat.exists_eq_add_of_le' some
    rw[retried,pending]
    exact List.mem_cons_self
   have row:=mem_pendingRows.mpr ⟨(sound.pending a here).known,first,
    sound.selected _ (List.mem_map_of_mem here)⟩
   rw[old] at row
   exact absurd row List.not_mem_nil
 refine ⟨by rw[places,empty];rfl,fun key known chosen past=>?_⟩
 by_contra needed
 have mem:=candidate_of_needed ordered sound limit known chosen past (by simpa using needed)
 rcases List.take_eq_nil_iff.mp new with full|gone
 · rw[old,empty] at full
   simp only[List.length_nil] at full
   omega
 · rw[gone] at mem
   exact List.not_mem_nil mem

lemma bindSelection_eq (h:bindSelection s c=some c') :
 c'={c with selectionHash:=s.selectionHash}:=by
 unfold bindSelection at h
 split at h
 · cases h
 · split at h
   · cases h
   · dsimp only at h
     split at h
     · exact (Option.some.inj h).symm
     · cases h

lemma selectionHash_sha256 (s:Setting):s.selectionHash.all isSha256=true:=by
 unfold Setting.selectionHash
 cases s.eventKeys with
 | none=>rfl
 | some keys=>exact s.hexdigest _

lemma Kept.bound (h:Kept s start initially c w)
 (bound:bindSelection s c=some c'):Kept s start initially c' w:=by
 rw[bindSelection_eq bound]
 have sound:Sound s start.afterEventKey {c with selectionHash:=s.selectionHash}:=
  ⟨selectionHash_sha256 s,h.sound.position,h.sound.distinct,h.sound.pendingLength,
   h.sound.terminalLength,h.sound.pending,h.sound.selected,h.sound.placed,h.sound.terminal⟩
 exact ⟨sound,h.count,h.lookups,h.pursued⟩

lemma execute_whole (ordered:Ordered s start)(sized:Sized s start)
 (h:Whole s start initially w)(e:Execution):Whole s start initially (execute s w e):=by
 unfold execute
 split
 · exact h
 · split
   · exact h
   · rename_i c bound
     have kept:=h.kept.bound bound
     exact process_whole sized kept h (selected_rows ordered kept.sound e.limit) e.fates

def World.first (start:NoticeBackfillCursor)(needs:String→Bool):World:=⟨start,needs,[]⟩

lemma first_whole (sound:Sound s start.afterEventKey start) :
 Whole s start initially (World.first start initially):=by
 refine ⟨⟨sound,?_,fun key=>?_,fun key _ _ needed past=>.inl ⟨past,needed⟩⟩,?_⟩
 · exact Nat.add_le_add_left List.countP_le_length _
 · change 0+(if key∈start.places then 3-start.attemptsOf key
    else if start.afterEventKey<key then 3 else 0)≤3
   split
   · omega
   · split
     · omega
     · omega
 · intro c mem
   exact absurd mem List.not_mem_nil

structure Promised (s:Setting)(start:NoticeBackfillCursor)(initially:String→Bool)
  (w:World):Prop where
 checkpoints:∀c,.checkpoint c∈w.trace→c.loads=true ∧ c.pending.length≤100
 lookups:∀key,w.trace.count (.lookup key)≤3
 complete:∀ (limit:ℕ)(c:NoticeBackfillCursor),1≤limit→limit≤100 →
  bindSelection s w.file=some c→selected s c w.needs limit=[] →
  ∀key∈s.events,s.selects key=true→initially key=true →
   s.precedes key start.afterEventKey=false→Done w.trace key

lemma Whole.promised (ordered:Ordered s start)(h:Whole s start initially w) :
 Promised s start initially w:=by
 refine ⟨fun c mem=>?_,fun key=>?_,?_⟩
 · have fits:=h.checked c mem
   exact ⟨fits.loads,fits.pendingLength⟩
 · have within:=h.kept.lookups key
   omega
 · intro limit c some _ bound none key known chosen needed past
   have kept:=h.kept.bound bound
   obtain ⟨empty,served⟩:=nothing_left ordered kept.sound some none
   rw[ordered key known _ (.inr rfl),decide_eq_false_iff_not,String.not_le] at past
   rcases kept.pursued key known chosen needed past with ⟨after,still⟩|mem|done
   · rw[served key known chosen after] at still
     cases still
   · rw[empty] at mem
     exact absurd mem List.not_mem_nil
   · exact done

/-- From a cursor as the code writes them, every sequence of executions keeps what
it promises, where the database orders the events by their code points and the
text of no key is too long. -/
theorem promised_of_ordered (ordered:Ordered s start)(sized:Sized s start)
 (sound:Sound s start.afterEventKey start)(executions:List Execution) :
 Promised s start initially (executions.foldl (execute s) (World.first start initially)):=by
 have whole:=Runs.invariant (Whole s start initially)
  (fun w e h=>execute_whole ordered sized h e) executions (first_whole sound)
 exact whole.promised ordered

end

def digest:String:=String.ofList (List.replicate 64 '0')

def weighed (weigh:String→String):Setting where
 events:=["boamp:24-100:","boamp:24-1000:"]
 precedes a b:=weigh a≤weigh b
 eventKeys:=none
 hash _:=digest
 distinct:=by decide +kernel
 bounded:=by decide +kernel
 few:=by decide +kernel
 trans a b c before after:=by
  rw[decide_eq_true_eq] at before after ⊢
  exact String.le_trans before after
 total a b:=by
  rw[Bool.or_eq_true,decide_eq_true_eq,decide_eq_true_eq]
  exact String.le_total _ _
 hexdigest _:=by decide +kernel

def colonFirst (text:String):String:=text.map fun c=>if c = ':' then ' ' else c

def failing (turns:ℕ):Execution:=
 ⟨2,List.replicate turns (.answered (.failed (.category .network)) true)⟩

theorem promised_of_ordered_sample : Promised (weighed id) {} (fun _=>true)
  ([failing 2,failing 1,failing 2].foldl (execute (weighed id))
   (World.first {} fun _=>true)):=by
 have ordered:Ordered (weighed id) {}:=fun a _ b _=>rfl
 have sized:Sized (weighed id) {}:=by
  refine ⟨?_,?_,?_⟩
  · decide +kernel
  · decide +kernel
  · decide +kernel
 have sound:Sound (weighed id) "" {}:=by
  refine ⟨rfl,.inl rfl,?_,?_,?_,?_,?_,?_,?_⟩
  · exact List.nodup_nil
  · exact Nat.zero_le _
  · exact Nat.zero_le _
  · exact fun _ mem=>absurd mem List.not_mem_nil
  · exact fun _ mem=>absurd mem List.not_mem_nil
  · exact fun _ mem=>absurd mem List.not_mem_nil
  · exact fun _ mem=>absurd mem List.not_mem_nil
 exact promised_of_ordered ordered sized sound _

/-- In such a collation an event that was given up is looked up a fourth time. -/
theorem fourth_lookup : ¬Promised (weighed colonFirst) {} (fun _=>true)
  ((List.replicate 4 (failing 2)).foldl (execute (weighed colonFirst))
   (World.first {} fun _=>true)):=by
 intro promised
 have lookups:=promised.lookups "boamp:24-1000:"
 revert lookups
 decide +kernel

end Kivou.NoticeBackfill
