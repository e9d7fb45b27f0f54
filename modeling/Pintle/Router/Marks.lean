import Pintle.Router.Snapshot

/-!
# Which events mark a member

The fences and the recordings of a history alone decide which checked members may be selected: a
member's record is marked exactly when the latest probe recorded under its key since the last fence
succeeded (`eligible_iff`). One direction is the fencing of `Fenced`; the other one says that a
recording is never lost (`run_latest`). So a member that may be selected stays so until a probe of
its key is recorded as failed, an `Update`, or the return of the call (`lost_eligible`).
-/

namespace Pintle
open Go Lib

/-- The latest probe recorded under a key since the last fence, if any, succeeded. -/
def LatestGood (h : List HealthEvent) (key : GoString) : Prop :=
  ∃ probe route status,
    (sinceFence h).find? (·.recordsKey key) = some (.recorded probe route status true)

lemma sinceFence_fence {e : HealthEvent} {h : List HealthEvent} (fence : e.isFence = true) :
    sinceFence (e :: h) = [] := by
  simp [sinceFence, fence]

lemma find_recorded_of_other {e : HealthEvent} {h : List HealthEvent} {key : GoString}
    (quiet : e.isFence = false) (other : e.recordsKey key = false) :
    (sinceFence (e :: h)).find? (·.recordsKey key) = (sinceFence h).find? (·.recordsKey key) := by
  rw [sinceFence_cons quiet, List.find?_cons, other]

namespace HealthRun
variable {ρ : Type}

/-- The record of a key has the result of the latest probe recorded since the last fence. -/
def Latest (h : List HealthEvent) (s : HealthRun ρ) : Prop :=
  ∀ key probe route status healthy,
    (sinceFence h).find? (·.recordsKey key) = some (.recorded probe route status healthy) →
    ∃ state, s.router.health.lookup key = some state ∧ state.healthy = healthy

/-- After a fence there is no recording. -/
lemma Latest.fence {h : List HealthEvent} {t : HealthRun ρ} {e : HealthEvent}
    (fence : e.isFence = true) : Latest (e :: h) t := by
  intro key probe route status healthy latest
  rw [sinceFence_fence fence] at latest
  cases latest

/-- A step that records nothing and keeps the records. -/
lemma Latest.quiet {h : List HealthEvent} {s t : HealthRun ρ} {e : HealthEvent} (inv : Latest h s)
    (quiet : e.isFence = false) (unrecorded : ∀ key, e.recordsKey key = false)
    (health : t.router.health = s.router.health) : Latest (e :: h) t := by
  intro key probe route status healthy latest
  rw [find_recorded_of_other quiet (unrecorded key)] at latest
  rw [health]
  exact inv key probe route status healthy latest

/-- An accepted probe finds its record. -/
lemma record_latest {h : List HealthEvent} {s : HealthRun ρ} (inv : Latest h s) {w : Worker}
    {status : Option Nat} {healthy : Bool} {caller : Nat} {runner : Option Runner}
    (accepted : s.router.accepts s.ended w = true) :
    Latest (.recorded w.id w.state.route status healthy :: h)
      ({ s with router := s.router.record w.state.route healthy s.clock }.setRunner caller runner) := by
  obtain ⟨old, stored⟩ : ∃ old, s.router.health.lookup (healthKey w.state.route) = some old := by
    simp only [Router.accepts, Bool.and_eq_true, decide_eq_true_eq, Option.map_eq_some_iff] at accepted
    obtain ⟨_, old, stored, _⟩ := accepted
    exact ⟨old, stored⟩
  intro key probe route status' healthy' latest
  simp only [setRunner, Router.record_stored _ _ stored]
  by_cases here : key = healthKey w.state.route
  · subst here
    rw [sinceFence_cons rfl, List.find?_cons] at latest
    simp only [HealthEvent.recordsKey, decide_true, Option.some.injEq,
      HealthEvent.recorded.injEq] at latest
    rw [AList.lookup_insert]
    exact ⟨_, rfl, latest.2.2.2⟩
  · have other : (HealthEvent.recorded w.id w.state.route status healthy).recordsKey key = false := by
      simp [HealthEvent.recordsKey, Ne.symm here]
    rw [find_recorded_of_other rfl other] at latest
    rw [AList.lookup_insert_ne here]
    exact inv key probe route status' healthy' latest

variable [Regexp ρ]

/-- Every step keeps the invariant. -/
lemma step_latest {h : List HealthEvent} {s : HealthRun ρ} {e : HealthEvent} {t : HealthRun ρ}
    (inv : Latest h s) (st : Step s e t) : Latest (e :: h) t := by
  cases st with
  | update ord routes => exact .fence rfl
  | start ord caller ctx _ _ => exact .fence rfl
  | «return» caller ctx _ _ => exact .fence rfl
  | record caller ctx phase before after w status healthy _ _ accepted =>
    exact record_latest inv accepted
  | resolve hostname path =>
    obtain ⟨pools, frame⟩ := s.router.resolve_frame hostname path
    exact inv.quiet rfl (fun _ => rfl) (by simp only [frame])
  | _ => exact inv.quiet rfl (fun _ => rfl) rfl

theorem run_latest {h : List HealthEvent} {s : HealthRun ρ} (run : (system ρ).Run h s) :
    Latest h s := by
  refine System.Run.invariant Latest ?_ ?_ run
  · rintro _ _ _ _ _ _ _ ⟨⟩
  · intro h s e t _ inv st
    exact step_latest inv st

/-- A checked member may be selected exactly when the latest probe recorded under its key since the
last fence succeeded. -/
lemma eligible_iff {h : List HealthEvent} {s : HealthRun ρ} (run : (system ρ).Run h s) {route : Route}
    (checked : route.health.isSome = true) :
    s.router.eligible route = true ↔ LatestGood h (healthKey route) := by
  obtain ⟨check, checked⟩ := Option.isSome_iff_exists.mp checked
  rw [Router.eligible, checked]
  constructor
  · intro eligible
    cases stored : s.router.health.lookup (healthKey route) with
    | none => simp [stored] at eligible
    | some state =>
      simp only [stored] at eligible
      obtain ⟨probe, probed, status, backed, _⟩ := (run_fenced run).backed _ state stored eligible
      exact ⟨probe, probed, some status, backed.latest⟩
  · intro good
    obtain ⟨probe, probed, status, latest⟩ := good
    obtain ⟨state, stored, marked⟩ := run_latest run _ probe probed status true latest
    simp [stored, marked]

/-- A member leaves its pool at a failed probe of its key, an `Update` or the return of the call. -/
lemma lost_eligible {h : List HealthEvent} {s t : HealthRun ρ} {e : HealthEvent}
    (run : (system ρ).Run h s) (st : Step s e t) {route : Route}
    (checked : route.health.isSome = true) (before : s.router.eligible route = true)
    (after : t.router.eligible route = false) :
    (∃ probe probed status, e = .recorded probe probed status false ∧
      healthKey probed = healthKey route) ∨
    (∃ routes, e = .updated routes) ∨ ∃ caller, e = .returned caller := by
  have good := (eligible_iff run checked).mp before
  have bad : ¬ LatestGood (e :: h) (healthKey route) := by
    rw [← eligible_iff (run.next st) checked, after]
    nofun
  have kept (quiet : e.isFence = false) (other : e.recordsKey (healthKey route) = false) : False := by
    apply bad
    rw [LatestGood, find_recorded_of_other quiet other]
    exact good
  cases e with
  | updated routes => exact .inr (.inl ⟨routes, rfl⟩)
  | returned caller => exact .inr (.inr ⟨caller, rfl⟩)
  | started caller =>
    -- a marked record belongs to a call in progress, so none can start
    exfalso
    obtain ⟨check, checked⟩ := Option.isSome_iff_exists.mp checked
    rw [Router.eligible, checked] at before
    cases stored : s.router.health.lookup (healthKey route) with
    | none => simp [stored] at before
    | some state =>
      simp only [stored] at before
      have running := ((run_reported run).marked _ state stored before).1
      cases st with
      | start _ _ _ _ off =>
        rw [running] at off
        cases off
  | recorded probe probed status healthy =>
    by_cases same : healthKey probed = healthKey route
    · cases healthy with
      | false => exact .inl ⟨probe, probed, status, rfl, same⟩
      | true =>
        exfalso
        apply bad
        refine ⟨probe, probed, status, ?_⟩
        rw [sinceFence_cons rfl, List.find?_cons]
        simp [HealthEvent.recordsKey, same]
    · exact (kept rfl (by simp [HealthEvent.recordsKey, same])).elim
  | _ => exact (kept rfl rfl).elim

end HealthRun
end Pintle
