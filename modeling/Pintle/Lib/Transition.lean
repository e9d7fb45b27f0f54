import Mathlib.Tactic.Lemma

/-!
# Runs of labelled transition systems

A system is a set of initial states and a labelled step relation. A run carries the labels of its
steps, newest first, so an invariant may speak of the history as well as of the state
(`Run.invariant`), and a run of one system may be mapped to a run of another (`Run.simulate`), or
related to one step by step (`Run.forward`). A restricted system takes only the steps that meet a
condition on the state before them (`System.restrict`); a path is what follows a state (`Path`), and
appends to a run (`Run.append`).
-/

namespace Pintle.Lib

/-- A labelled transition system. -/
structure System (σ ε : Type) where
  init : σ → Prop
  step : σ → ε → σ → Prop

namespace System
variable {σ ε : Type}

/-- A run from an initial state, with the labels of its steps, newest first. -/
inductive Run (M : System σ ε) : List ε → σ → Prop where
  | start {s} :
    M.init s →
    Run M [] s
  | next {h s e t} :
    Run M h s →
    M.step s e t →
    Run M (e :: h) t

/-- The induction rule: what holds initially and is kept by each step of a run holds along it. -/
theorem Run.invariant {M : System σ ε} (Inv : List ε → σ → Prop)
    (base : ∀ s, M.init s → Inv [] s)
    (keep : ∀ h s e t, M.Run h s → Inv h s → M.step s e t → Inv (e :: h) t) :
    ∀ {h s}, M.Run h s → Inv h s := by
  intro h s run
  induction run with
  | start ini => exact base _ ini
  | next run st ih => exact keep _ _ _ _ run ih st

/-- What a label that may be missing does: a step, or no change. -/
def Moves (M : System σ ε) (s : σ) : Option ε → σ → Prop
  | none, t => t = s
  | some e, t => M.step s e t

/-- The simulation rule: when each step of a run maps to a step with the label it is given, or has no
label and maps to no change, the run maps to a run with those labels. -/
theorem Run.simulate {τ δ : Type} {M : System σ ε} {N : System τ δ} (f : σ → τ)
    (label : ε → Option δ) (base : ∀ s, M.init s → N.init (f s))
    (simulate : ∀ h s e t, M.Run h s → M.step s e t → N.Moves (f s) (label e) (f t)) :
    ∀ {h s}, M.Run h s → N.Run (h.filterMap label) (f s) := by
  intro h s run
  induction run with
  | start ini => exact .start (base _ ini)
  | @next h s e t run st ih =>
    have step := simulate h s e t run st
    cases labelled : label e with
    | none =>
      rw [labelled] at step
      rw [List.filterMap_cons_none labelled, show f t = f s from step]
      exact ih
    | some d =>
      rw [labelled] at step
      rw [List.filterMap_cons_some labelled]
      exact .next ih step

/-- The projection rule: when each step either maps to a step with the same label or has a label
that is left out and maps to no change, a run maps to a run over the labels kept. -/
theorem Run.project {τ : Type} {M : System σ ε} {N : System τ ε} (f : σ → τ) (keep : ε → Bool)
    (base : ∀ s, M.init s → N.init (f s))
    (simulate : ∀ s e t, M.step s e t → keep e = true → N.step (f s) e (f t))
    (stutter : ∀ s e t, M.step s e t → keep e = false → f t = f s) :
    ∀ {h s}, M.Run h s → N.Run (h.filter keep) (f s) := by
  intro h s run
  rw [← List.filterMap_eq_filter]
  refine run.simulate f _ base ?_
  intro _ s e t _ st
  cases kept : keep e with
  | true => simpa [Option.guard, kept, Moves] using simulate s e t st kept
  | false => simpa [Option.guard, kept, Moves] using stutter s e t st kept

/-- The system that takes only the steps which meet a condition on the state before them. -/
def restrict (M : System σ ε) (ok : σ → ε → Prop) : System σ ε where
  init := M.init
  step s e t := M.step s e t ∧ ok s e

/-- The steps that lead from one state to another, newest first. -/
inductive Path (M : System σ ε) (s : σ) : List ε → σ → Prop where
  | refl :
    Path M s [] s
  | next {h t e u} :
    Path M s h t →
    M.step t e u →
    Path M s (e :: h) u

/-- A path of the restricted system is a path. -/
lemma Path.of_restrict {M : System σ ε} {ok : σ → ε → Prop} {h : List ε} {s t : σ}
    (path : (M.restrict ok).Path s h t) : M.Path s h t := by
  induction path with
  | refl => exact .refl
  | next _ st ih => exact .next ih st.1

/-- A run of the restricted system is a run. -/
lemma Run.of_restrict {M : System σ ε} {ok : σ → ε → Prop} {h : List ε} {s : σ}
    (run : (M.restrict ok).Run h s) : M.Run h s := by
  induction run with
  | start ini => exact .start ini
  | next _ st ih => exact .next ih st.1

/-- A run under a condition is one under a weaker condition. -/
lemma Run.weaken {M : System σ ε} {ok ok' : σ → ε → Prop} (weaker : ∀ s e, ok s e → ok' s e)
    {h : List ε} {s : σ} (run : (M.restrict ok).Run h s) : (M.restrict ok').Run h s := by
  induction run with
  | start ini => exact .start ini
  | next _ st ih => exact .next ih ⟨st.1, weaker _ _ st.2⟩

lemma Path.trans {M : System σ ε} {h k : List ε} {s t u : σ} (path : M.Path s h t)
    (path' : M.Path t k u) : M.Path s (k ++ h) u := by
  induction path' with
  | refl => exact path
  | next _ st ih => exact .next ih st

lemma Run.append {M : System σ ε} {h k : List ε} {s t : σ} (run : M.Run h s) (path : M.Path s k t) :
    M.Run (k ++ h) t := by
  induction path with
  | refl => exact run
  | next _ st ih => exact .next ih st

/-- A label of a run is that of a step after what came before it. -/
lemma Run.split {M : System σ ε} {later earlier : List ε} {e : ε} {u : σ}
    (run : M.Run (later ++ e :: earlier) u) : ∃ s t, M.Run earlier s ∧ M.step s e t := by
  induction later generalizing u with
  | nil =>
    cases run with
    | next run st => exact ⟨_, _, run, st⟩
  | cons _ later ih =>
    cases run with
    | next run _ => exact ih run

/-- The forward simulation rule: when the steps of a run keep a relation to the states of another
system, each by some steps with the labels it is given, the run has a run with those labels. -/
theorem Run.forward {τ δ : Type} {M : System σ ε} {N : System τ δ} (R : List ε → σ → τ → Prop)
    (labels : ε → List δ) (base : ∀ s, M.init s → ∃ t, N.init t ∧ R [] s t)
    (forward : ∀ h s e s' t, M.Run h s → R h s t → M.step s e s' →
      ∃ t', N.Path t (labels e) t' ∧ R (e :: h) s' t') :
    ∀ {h s}, M.Run h s → ∃ t, N.Run (h.flatMap labels) t ∧ R h s t := by
  intro h s run
  induction run with
  | start ini =>
    obtain ⟨t, ini', related⟩ := base _ ini
    exact ⟨t, .start ini', related⟩
  | @next h s e s' run st ih =>
    obtain ⟨t, run', related⟩ := ih
    obtain ⟨t', path, related'⟩ := forward h s e s' t run related st
    exact ⟨t', run'.append path, related'⟩

end System
end Pintle.Lib
