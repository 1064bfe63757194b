import Kivou.Runs
import Mathlib.Order.Basic

set_option autoImplicit false

/-! Parties that each go on by steps of their own, among the steps of the others: a task that every
own step brings nearer to its end is over after a bounded number of them. -/
namespace Kivou.OwnSteps
variable {ω ο ι φ κ:Type}

/-- `task?` is what a party at a phase has to do, and `away` how many own steps it may need beside
the last one. A party is `absent` before its first step, and `dead` when it can take none. -/
structure Tasks (φ κ:Type) where
 absent:φ
 dead:φ
 task?:φ→Option κ
 away:φ→ℕ
 Over:κ→φ→Prop
 absent_idle:task? absent=none
 absent_fresh:∀task,¬Over task absent
 dead_over:∀task,Over task dead

namespace Tasks
variable (t:Tasks φ κ)

def Nearer (before after:φ):Prop:=∀task,t.task? before=some task →
  t.Over task after ∨ t.task? after=some task ∧ t.away after<t.away before

section
variable (phase:ω→ι→φ)(own:ι→ο→Bool)(Inv:ω→Prop)(Keeps:ω→ω→Prop)

/-- What party `i` does, which was at `before`. -/
structure Leads (w:ω)(i:ι)(before:φ)(w':ω):Prop where
 inv:Inv w'
 keeps:Keeps w w'
 apart:∀other,other≠i→phase w' other=phase w other
 nearer:t.Nearer before (phase w' i)

structure Moves (w:ω)(op:ο)(w':ω):Prop where
 inv:Inv w'
 keeps:Keeps w w'
 nearer:∀i,own i op=true→t.Nearer (phase w i) (phase w' i)
 others:∀i,own i op=false→phase w i≠t.absent →phase w' i=phase w i ∨ phase w' i=t.dead

structure Progresses (step:ω→ο→ω)(Safe:ω→ο→Prop):Prop where
 moves:∀{w op},Inv w→Safe w op→t.Moves phase own Inv Keeps w op (step w op)
 still:∀{w op i task},own i op=true→t.Over task (phase w i)→step w op=w

end

variable {t}{before after:φ}{task:κ}

lemma Nearer.idle (none:t.task? before=none):t.Nearer before after:=by
 intro task is
 rw[none] at is
 cases is

lemma Nearer.ends (is:t.task? before=some task)(ended:t.Over task after) :
 t.Nearer before after:=by
 intro other same
 obtain rfl:=Option.some.inj (is.symm.trans same)
 exact .inl ended

lemma Nearer.on (is:t.task? before=some task)(still:t.task? after=some task)
 (less:t.away after<t.away before):t.Nearer before after:=by
 intro other same
 obtain rfl:=Option.some.inj (is.symm.trans same)
 exact .inr ⟨still,less⟩

variable {phase:ω→ι→φ}{own:ι→ο→Bool}{Inv:ω→Prop}{Keeps:ω→ω→Prop}{w w':ω}{i:ι} {op:ο}

lemma Leads.moves (leads:t.Leads phase Inv Keeps w i (phase w i) w')
 (mine:∀other,own other op=true ↔ i=other):t.Moves phase own Inv Keeps w op w' where
 inv:=leads.inv
 keeps:=leads.keeps
 nearer:=by
  intro other is
  obtain rfl:=(mine other).mp is
  exact leads.nearer
 others:=by
  intro other still _
  refine .inl (leads.apart other ?_)
  rintro rfl
  rw[(mine other).mpr rfl] at still
  cases still

lemma Leads.begins (leads:t.Leads phase Inv Keeps w i before w')(free:phase w i=t.absent)
 (none:∀other,own other op=false):t.Moves phase own Inv Keeps w op w' where
 inv:=leads.inv
 keeps:=leads.keeps
 nearer:=fun other is=>by rw[none other] at is;cases is
 others:=by
  intro other _ begun
  refine .inl (leads.apart other ?_)
  rintro rfl
  exact begun free

lemma Leads.dies (leads:t.Leads phase Inv Keeps w i before w')(dead:phase w' i=t.dead)
 (none:∀other,own other op=false):t.Moves phase own Inv Keeps w op w' where
 inv:=leads.inv
 keeps:=leads.keeps
 nearer:=fun other is=>by rw[none other] at is;cases is
 others:=by
  intro other _ _
  by_cases is:other=i
  · exact .inr (is ▸ dead)
  · exact .inl (leads.apart other is)

lemma Moves.idle (inv:Inv w')(keeps:Keeps w w')(same:phase w'=phase w)
 (none:∀other,own other op=false):t.Moves phase own Inv Keeps w op w' where
 inv:=inv
 keeps:=keeps
 nearer:=fun other is=>by rw[none other] at is;cases is
 others:=fun other _ _=>.inl (congrFun same other)

variable {step:ω→ο→ω}{Safe:ω→ο→Prop}{ops:List ο}

lemma Progresses.over (progresses:t.Progresses phase own Inv Keeps step Safe)(inv:Inv w)
 (safe:Safe w op)(ended:t.Over task (phase w i)):t.Over task (phase (step w op) i):=by
 cases mine:own i op with
 | false =>
  have begun:phase w i≠t.absent:=fun is=>t.absent_fresh task (is ▸ ended)
  rcases (progresses.moves inv safe).others i mine begun with same|died
  · rwa[same]
  · rw[died]
    exact t.dead_over task
 | true=>rwa[progresses.still mine ended]

lemma Progresses.stays (progresses:t.Progresses phase own Inv Keeps step Safe)(inv:Inv w)
 (safe:Runs.Along step Safe w ops)(ended:t.Over task (phase w i)) :
 t.Over task (phase (ops.foldl step w) i):=by
 induction ops generalizing w with
 | nil=>exact ended
 | cons op ops ih =>
  exact ih (progresses.moves inv safe.1).inv safe.2 (progresses.over inv safe.1 ended)

/-- Induction on the run: an own step uses one of the steps that are left, and a step of another
party none. -/
lemma Progresses.ends (progresses:t.Progresses phase own Inv Keeps step Safe)(inv:Inv w)
 (safe:Runs.Along step Safe w ops)(is:t.task? (phase w i)=some task)
 (given:t.away (phase w i)<ops.countP (own i)) :
 t.Over task (phase (ops.foldl step w) i):=by
 induction ops generalizing w with
 | nil=>exact absurd given (Nat.not_lt_zero _)
 | cons op ops ih =>
  obtain ⟨head,rest⟩:=safe
  have moves:=progresses.moves inv head
  rw[List.countP_cons] at given
  rw[List.foldl_cons]
  cases mine:own i op with
  | false =>
   rw[mine] at given
   have begun:phase w i≠t.absent:=by
    intro absent
    rw[absent,t.absent_idle] at is
    cases is
   rcases moves.others i mine begun with same|died
   · exact ih moves.inv rest (same ▸ is) (same ▸ given)
   · refine progresses.stays moves.inv rest ?_
     rw[died]
     exact t.dead_over task
  | true =>
   rw[mine,if_pos rfl] at given
   rcases moves.nearer i mine task is with ended|⟨still,less⟩
   · exact progresses.stays moves.inv rest ended
   · exact ih moves.inv rest still (Nat.lt_of_lt_of_le less (Nat.le_of_lt_succ given))

lemma Progresses.run (progresses:t.Progresses phase own Inv Keeps step Safe)
 (refl:∀w,Keeps w w)(trans:∀ {w w' w''},Keeps w w'→Keeps w' w''→Keeps w w''){done:List ο}
 (inv:Inv w)(safe:Runs.Along step Safe w ops)(here:done <+: ops) :
 Inv (done.foldl step w) ∧ ∀earlier later,earlier++later=done →
  Keeps (earlier.foldl step w) (done.foldl step w) ∧ Inv (earlier.foldl step w) ∧
   Runs.Along step Safe (earlier.foldl step w) later:=by
 have stepped:∀w op,Inv w→Safe w op→Inv (step w op) ∧ Keeps w (step w op):=
  fun w op inv safe=>⟨(progresses.moves inv safe).inv,(progresses.moves inv safe).keeps⟩
 obtain ⟨kept,keeps⟩:=Runs.Along.forward refl trans stepped safe inv here
 refine ⟨kept,?_⟩
 rintro earlier later rfl
 obtain ⟨rest,rfl⟩:=here
 rw[List.append_assoc,Runs.along_append] at safe
 exact ⟨keeps earlier ⟨later,rfl⟩,safe.1.invariant Inv (fun w op inv is=>(stepped w op inv is).1) inv,
  ((Runs.along_append _ _ _).mp safe.2).1⟩

end Tasks
end Kivou.OwnSteps
