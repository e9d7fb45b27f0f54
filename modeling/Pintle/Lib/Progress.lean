import Mathlib.Algebra.GroupWithZero.Nat
import Mathlib.Algebra.Order.Group.Nat
import Mathlib.Data.List.Basic
import Pintle.Lib.Transition

/-!
# Work that runs out

Some steps of a system are its own, others come from outside. When the own steps use up a measure
that only the steps from outside refill, a path has few own steps (`Path.spend`), and from every state
the own steps lead to one where none is left (`exhaust`).
-/

namespace Pintle.Lib.System
variable {σ ε : Type} {M : System σ ε}

/-- Every own step of a path was paid for, by what there was at the start or by a step that feeds. -/
theorem Path.spend {work : σ → Nat} {own feeds : ε → Bool} {n : Nat}
    (spend : ∀ s e t, M.step s e t → work t + (own e).toNat ≤ work s + n * (feeds e).toNat)
    {s t : σ} {h : List ε} (path : M.Path s h t) :
    work t + h.countP own ≤ work s + n * h.countP feeds := by
  induction path with
  | refl => simp
  | @next h t e u _ st ih =>
    have step := spend t e u st
    rw [List.countP_cons, List.countP_cons, Nat.mul_add]
    cases mine : own e <;> cases fed : feeds e <;> simp [mine, fed] at step ⊢ <;> omega

/-- Own steps lead to a state in which none is left. -/
theorem exhaust {work : σ → Nat} {own : ε → Bool}
    (spend : ∀ s e t, M.step s e t → own e = true → work t < work s) (s : σ) :
    ∃ h t, M.Path s h t ∧ (∀ e ∈ h, own e = true) ∧ ∀ e u, own e = true → ¬ M.step t e u := by
  induction bound : work s using Nat.strong_induction_on generalizing s with
  | _ n ih =>
    by_cases stuck : ∃ e t, own e = true ∧ M.step s e t
    · obtain ⟨e, t, mine, st⟩ := stuck
      obtain ⟨h, u, path, all, none_left⟩ := ih (work t) (bound ▸ spend s e t st mine) t rfl
      refine ⟨h ++ [e], u, (Path.refl.next st).trans path, ?_, none_left⟩
      intro d member
      rcases List.mem_append.mp member with later | first
      · exact all d later
      · rw [List.mem_singleton.mp first]
        exact mine
    · exact ⟨[], s, .refl, List.forall_mem_nil _, fun e t mine st => stuck ⟨e, t, mine, st⟩⟩

/-- What each step of a path keeps is kept along it. -/
theorem Path.invariant {Inv : σ → Prop} {ok : ε → Prop}
    (keep : ∀ s e t, M.step s e t → ok e → Inv s → Inv t) {s t : σ} {h : List ε}
    (path : M.Path s h t) (all : ∀ e ∈ h, ok e) (start : Inv s) : Inv t := by
  induction path with
  | refl => exact start
  | next _ st ih =>
    exact keep _ _ _ st (all _ List.mem_cons_self)
      (ih fun e member => all e (List.mem_cons_of_mem _ member))

end Pintle.Lib.System
