import Kivou.Tables

set_option autoImplicit false

/-! Rows that are written together belong to one group and show the same, until one of them is
withdrawn and shows nothing. -/
namespace Kivou.Groups
variable {α γ β:Type}{group:α→Option γ}{view:α→Option β}{rows rows':List α}

def Uniform (group:α→Option γ)(view:α→Option β)(rows:List α):Prop:=
 ∀r∈rows,∀r'∈rows,∀g,group r=some g → group r'=some g →∀v v',view r=some v→view r'=some v'→v=v'

lemma Uniform.agree (h:Uniform group view rows){r r':α}(mem:r∈rows)(mem':r'∈rows)
 {g:γ}(hg:group r=some g)(hg':group r'=some g)(shown:(view r).isSome)
 (shown':(view r').isSome):view r=view r':=by
 obtain ⟨v,hv⟩:=Option.isSome_iff_exists.mp shown
 obtain ⟨v',hv'⟩:=Option.isSome_iff_exists.mp shown'
 rw[hv,hv',h r mem r' mem' g hg hg' v v' hv hv']

lemma Uniform.withdraw (h:Uniform group view rows)
 (rewritten:∀r∈rows',r∈rows ∨ view r=none):Uniform group view rows':=by
 intro r mem r' mem' g hg hg' v v' hv hv'
 cases rewritten r mem with
 | inr hidden=>rw[hidden] at hv;cases hv
 | inl old =>
  cases rewritten r' mem' with
  | inr hidden=>rw[hidden] at hv';cases hv'
  | inl old'=>exact h r old r' old' g hg hg' v v' hv hv'

lemma Uniform.rewrite (h:Uniform group view rows)(g₀:γ)(v₀:β)
 (rewritten:∀r∈rows',r∈rows ∧ group r≠some g₀ ∨
  group r=some g₀ ∧ ∀v,view r=some v→v=v₀):Uniform group view rows':=by
 intro r mem r' mem' g hg hg' v v' hv hv'
 cases rewritten r mem with
 | inr new =>
  obtain rfl:g₀=g:=Option.some.inj (new.1.symm.trans hg)
  cases rewritten r' mem' with
  | inr new'=>rw[new.2 v hv,new'.2 v' hv']
  | inl old'=>exact absurd hg' old'.2
 | inl old =>
  cases rewritten r' mem' with
  | inr new' =>
   obtain rfl:g₀=g:=Option.some.inj (new'.1.symm.trans hg')
   exact absurd hg old.2
  | inl old'=>exact h r old.1 r' old'.1 g hg hg' v v' hv hv'

end Kivou.Groups
