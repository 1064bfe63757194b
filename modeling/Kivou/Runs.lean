import Mathlib.Data.List.Basic

set_option autoImplicit false

/-! A system is a total `step : σ → ι → σ`: whatever an operation, its caller or its environment may
choose stands in the label, so that the runs from `s` are exactly the folds of `step` over lists of
labels. -/
namespace Kivou.Runs
universe u v w
variable {σ:Type u}{ι:Type v}

/-- Every step of the run meets `ok` in the state it starts from. -/
def Along (step:σ→ι→σ)(ok:σ→ι→Prop):σ→List ι→Prop
 | _,[]=>True
 | s,i::is=>ok s i ∧ Along step ok (step s i) is

instance decidableAlong (step:σ→ι→σ)(ok:σ→ι→Prop) [∀s i,Decidable (ok s i)] :
 ∀ (s:σ)(is:List ι),Decidable (Along step ok s is)
 | _,[]=>.isTrue trivial
 | s,i::is=>@instDecidableAnd _ _ _ (decidableAlong step ok (step s i) is)

variable {step:σ→ι→σ}{ok:σ→ι→Prop}

lemma along_append (s:σ)(is js:List ι) :
 Along step ok s (is++js) ↔ Along step ok s is ∧ Along step ok (is.foldl step s) js:=by
 induction is generalizing s with
 | nil=>simp[Along]
 | cons i is ih=>simp[Along,ih,and_assoc]

lemma along_of_mem (s:σ){is:List ι}(h:∀i∈is,∀s,ok s i):Along step ok s is:=by
 induction is generalizing s with
 | nil=>trivial
 | cons i is ih =>exact ⟨h i List.mem_cons_self s,ih _ fun j hj=>h j (List.mem_cons_of_mem i hj)⟩

lemma along_of_take {s:σ}{is:List ι}
 (h:∀ (n:ℕ)(less:n < is.length),ok ((is.take n).foldl step s) is[n]) :
 Along step ok s is:=by
 induction is generalizing s with
 | nil=>trivial
 | cons i is ih =>exact ⟨h 0 (Nat.succ_pos _),ih fun n less=>h (n+1) (Nat.succ_lt_succ less)⟩

lemma Along.imp {ok':σ→ι→Prop}(weaken:∀s i,ok s i → ok' s i){s:σ}{is:List ι}
 (run:Along step ok s is):Along step ok' s is:=by
 induction is generalizing s with
 | nil=>trivial
 | cons i is ih=>exact ⟨weaken s i run.1,ih run.2⟩

lemma Along.and {ok':σ→ι→Prop}{s:σ}{is:List ι}(run:Along step ok s is)
 (run':Along step ok' s is):Along step (fun s i=>ok s i ∧ ok' s i) s is:=by
 induction is generalizing s with
 | nil=>trivial
 | cons i is ih=>exact ⟨⟨run.1,run'.1⟩,ih run.2 run'.2⟩

lemma along_congr {ok':σ→ι→Prop}{Base:σ→Prop}
 (base:∀s i,Base s→Base (step s i))(same:∀s i,Base s→(ok s i ↔ ok' s i))
 {s:σ}(start:Base s)(is:List ι):Along step ok s is ↔ Along step ok' s is:=by
 induction is generalizing s with
 | nil=>exact Iff.rfl
 | cons i is ih=>exact and_congr (same s i start) (ih (base s i start))

lemma along_congr_of_kept {ok':σ→ι→Prop}{Inv:σ→Prop}
 (kept:∀s i,Inv s → ok s i→Inv (step s i))(same:∀s i,Inv s→(ok s i ↔ ok' s i))
 {s:σ}(start:Inv s)(is:List ι):Along step ok s is ↔ Along step ok' s is:=by
 induction is generalizing s with
 | nil=>exact Iff.rfl
 | cons i is ih =>
  constructor
  · intro run
    exact ⟨(same s i start).mp run.1,(ih (kept s i start run.1)).mp run.2⟩
  · intro run
    have head:=(same s i start).mpr run.1
    exact ⟨head,(ih (kept s i start head)).mpr run.2⟩

lemma Along.at {s:σ}{is js:List ι}{i:ι}(run:Along step ok s is)
 (reached:js++[i] <+: is):ok (js.foldl step s) i:=by
 obtain ⟨rest,rfl⟩:=reached
 rw[List.append_assoc,along_append] at run
 exact run.2.1

lemma Along.invariant (Inv:σ→Prop)(preserved:∀s i,Inv s → ok s i→Inv (step s i))
 {s:σ}{is:List ι}(run:Along step ok s is)(start:Inv s) :
 Inv (is.foldl step s):=by
 induction is generalizing s with
 | nil=>exact start
 | cons i is ih=>exact ih run.2 (preserved s i start run.1)

/-- Where each admitted step keeps `Inv` and is a step along `R`, every state of a run keeps
`Inv` and is reached along `R` from every state before it. -/
lemma Along.forward {Inv:σ→Prop}{R:σ→σ→Prop}(refl:∀s,R s s) (trans:∀ {s t u},R s t→R t u→R s u)
 (stepped:∀s i,Inv s → ok s i→Inv (step s i) ∧ R s (step s i))
 {s:σ}{is done:List ι}(run:Along step ok s is)(start:Inv s)(here:done <+: is) :
 Inv (done.foldl step s) ∧
  ∀earlier,earlier <+: done→R (earlier.foldl step s) (done.foldl step s):=by
 obtain ⟨rest,rfl⟩:=here
 have kept:∀s i,Inv s → ok s i→Inv (step s i):=fun s i inv is=>(stepped s i inv is).1
 have run:=((along_append s done rest).mp run).1
 refine ⟨run.invariant Inv kept start,?_⟩
 rintro earlier ⟨later,rfl⟩
 obtain ⟨before,after⟩:=(along_append s earlier later).mp run
 have inv:=before.invariant Inv kept start
 rw[List.foldl_append]
 refine (after.invariant (fun t=>Inv t ∧ R (earlier.foldl step s) t) ?_ ⟨inv,refl _⟩).2
 exact fun t i ⟨inv,behind⟩ is=>⟨kept t i inv is,trans behind (stepped t i inv is).2⟩

/-- Where `ok` says exactly which steps keep `Inv` (under a fact `Base` that
every step keeps), the runs that stay in `Inv` are exactly the admitted ones. -/
lemma always_iff_along {Base Inv:σ→Prop}(base:∀s i,Base s→Base (step s i))
 (exact:∀s i,Base s→Inv s→(Inv (step s i) ↔ ok s i))
 {s:σ}(hbase:Base s)(hinv:Inv s)(is:List ι) :
 (∀js,js <+: is→Inv (js.foldl step s)) ↔ Along step ok s is:=by
 induction is generalizing s with
 | nil=>simp[Along,hinv]
 | cons i is ih =>
  constructor
  · intro h
    have head:Inv (step s i):=h [i] (by simp)
    refine ⟨(exact s i hbase hinv).mp head,(ih (base s i hbase) head).mp ?_⟩
    intro js hjs
    exact h (i::js) ((List.prefix_cons_inj i).mpr hjs)
  · rintro ⟨hok,run⟩ js hjs
    have head:Inv (step s i):=(exact s i hbase hinv).mpr hok
    rcases List.prefix_cons_iff.mp hjs with rfl|⟨ks,rfl,hks⟩
    · exact hinv
    · exact (ih (base s i hbase) head).mpr run ks hks

lemma invariant (Inv:σ→Prop)(preserved:∀s i,Inv s→Inv (step s i))
 {s:σ}(is:List ι)(start:Inv s):Inv (is.foldl step s):=
 Along.invariant Inv (fun s i h (_:True)=>preserved s i h) (along_of_mem s fun _ _ _=>trivial) start

lemma related {R:σ→σ→Prop}(refl:∀s,R s s)
 (trans:∀ {s t u},R s t→R t u→R s u)(stepped:∀s i,R s (step s i))
 (s:σ)(is:List ι):R s (is.foldl step s):=by
 induction is generalizing s with
 | nil=>exact refl s
 | cons i is ih=>exact trans (stepped s i) (ih _)

lemma related_of_invariant {Inv:σ→Prop}{R:σ→σ→Prop}(refl:∀s,R s s)
 (trans:∀ {s t u},R s t→R t u→R s u)
 (preserved:∀s i,Inv s→Inv (step s i))(stepped:∀s i,Inv s→R s (step s i))
 {s:σ}(start:Inv s)(is:List ι):R s (is.foldl step s):=by
 induction is generalizing s with
 | nil=>exact refl s
 | cons i is ih=>exact trans (stepped s i start) (ih (preserved s i start))

end Kivou.Runs
