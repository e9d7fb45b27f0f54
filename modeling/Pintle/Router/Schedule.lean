import Pintle.Router.Runners

/-!
# The schedule of probes

When a probe may start. A record is due when its `next` is not after the clock, and `next` is the
time of the latest probe recorded for its key in the current generation plus the interval of its
check (`Timed.records`). A record that was due when a call picked it up stays due for as long as the
call holds it: another probe of the same key would have to be held too (`run_apart`). So a probe
that passes its first context check starts an interval after every earlier recording
(`began_due`). With the bound on the probes in flight this is the theorem about the schedule
(`probes_bounded`).

Intervals are the numbers of the configuration; the file provider accepts at most 300 seconds, so
the multiplication of Go durations does not overflow.
-/

namespace Pintle
open Go Lib

/-- The steps that start a new generation. -/
def HealthEvent.isReset : HealthEvent → Bool
  | .updated _ => true
  | .started _ => true
  | _ => false

/-- The time of the last tick of the clock. -/
def clockOf : List HealthEvent → Int
  | [] => 0
  | .ticked clock :: _ => clock
  | _ :: h => clockOf h

/-- The times at which probes were recorded under a key in the current generation, newest first. -/
def recordings (key : GoString) : List HealthEvent → List Int
  | [] => []
  | .recorded _ route _ _ :: h =>
    if healthKey route = key then clockOf h :: recordings key h else recordings key h
  | e :: h => if e.isReset then [] else recordings key h

/-- A held record belongs to a cancelled context, or to the current one and its key is due. -/
def Router.Keeps {ρ : Type} (r : Router ρ) (clock : Int) (hold : HealthContext × HealthState) :
    Prop :=
  hold.1.id ∈ r.cancelled ∨ r.healthContext = some hold.1 ∧
    ∃ state, r.health.lookup (healthKey hold.2.route) = some state ∧
      state.route = hold.2.route ∧ state.due clock = true

/-- When the next probe of a record is due. -/
def HealthState.scheduled (state : HealthState) : Option Int :=
  state.checkedAt.bind fun time =>
    state.route.health.map fun check => time + check.intervalSeconds * 1000000000

lemma recordings_reset {key : GoString} {e : HealthEvent} {h : List HealthEvent}
    (reset : e.isReset = true) : recordings key (e :: h) = [] := by
  cases e with
  | updated routes => rfl
  | started caller => rfl
  | _ => cases reset

lemma recordings_recorded {key : GoString} {h : List HealthEvent} {probe : Nat} {route : Route}
    {status : Option Nat} {healthy : Bool} :
    recordings key (.recorded probe route status healthy :: h) =
      if healthKey route = key then clockOf h :: recordings key h else recordings key h := rfl

lemma HealthState.due_mono {state : HealthState} {clock clock' : Int} (due : state.due clock = true)
    (later : clock ≤ clock') : state.due clock' = true := by
  unfold HealthState.due at due ⊢
  cases scheduled : state.next with
  | none => rfl
  | some next =>
    simp only [scheduled, decide_eq_true_eq] at due ⊢
    exact due.trans later

lemma due_of_mem_dueJobs {ord : RangeOrder (GoString × HealthState)} {clock : Int}
    {health : GoMap GoString HealthState} {job : HealthState}
    (member : job ∈ dueJobs ord clock health) : job.due clock = true :=
  (List.mem_filter.mp ((List.perm_insertionSort _ _).mem_iff.mp member)).2

namespace Router
variable {ρ : Type}

/-- A recording replaces the record it finds. -/
lemma record_stored {r : Router ρ} {route : Route} (healthy : Bool) (clock : Int)
    {old : HealthState} (stored : r.health.lookup (healthKey route) = some old) :
    (r.record route healthy clock).health =
      r.health.insert (healthKey route)
        { old with
          healthy := healthy
          checkedAt := some clock
          next := route.health.map fun check => clock + check.intervalSeconds * 1000000000 } := by
  simp [record, stored]

/-- A step that keeps records and contexts keeps what is held. -/
lemma Keeps.mono {r r' : Router ρ} {clock clock' : Int} {hold : HealthContext × HealthState}
    (kept : r.Keeps clock hold) (health : r'.health = r.health)
    (context : r'.healthContext = r.healthContext) (cancelled : r'.cancelled = r.cancelled)
    (later : clock ≤ clock') : r'.Keeps clock' hold := by
  rcases kept with old | ⟨current, state, stored, same, due⟩
  · exact .inl (cancelled ▸ old)
  · refine .inr ⟨context.trans current, state, ?_, same, HealthState.due_mono due later⟩
    rw [health]
    exact stored

/-- A held context is cancelled, or the current one. -/
lemma Keeps.cancelled {r : Router ρ} {clock : Int} {hold : HealthContext × HealthState}
    (kept : r.Keeps clock hold) : hold.1.id ∈ match r.healthContext with
      | none => r.cancelled
      | some context => context.id :: r.cancelled := by
  rcases kept with old | ⟨current, _⟩
  · cases r.healthContext with
    | none => exact old
    | some context => exact List.mem_cons_of_mem _ old
  · rw [current]
    exact List.mem_cons_self

/-- A new generation cancels every context that is held. -/
lemma Keeps.reset {r r' : Router ρ} {ord : RangeOrder (GoString × List Route)} {clock : Int}
    {hold : HealthContext × HealthState} (kept : r.Keeps clock hold)
    (context : r'.healthContext = r.healthContext) (cancelled : r'.cancelled = r.cancelled) :
    (r'.resetHealthLocked ord).Keeps clock hold := by
  left
  simp only [resetHealthLocked, context, cancelled]
  exact kept.cancelled

/-- So does the return of the call. -/
lemma Keeps.stop {r : Router ρ} {clock : Int} {hold : HealthContext × HealthState}
    (kept : r.Keeps clock hold) : r.stopHealth.Keeps clock hold := by
  left
  simp only [stopHealth]
  exact kept.cancelled

/-- A recording under another key keeps what is held. -/
lemma Keeps.record {r : Router ρ} {clock clock' : Int} {hold : HealthContext × HealthState}
    (kept : r.Keeps clock hold) {route : Route} {healthy : Bool}
    (other : holdKey hold ≠ healthKey route) : (r.record route healthy clock').Keeps clock hold := by
  obtain ⟨health, frame⟩ := r.record_frame route healthy clock'
  rcases kept with old | ⟨current, state, stored, same, due⟩
  · rw [frame]
    exact .inl old
  · refine .inr ⟨by rw [frame]; exact current, state, ?_, same, due⟩
    cases known : r.health.lookup (healthKey route) with
    | none =>
      rw [Router.record, known]
      exact stored
    | some previous =>
      rw [record_stored _ _ known]
      exact (AList.lookup_insert_ne other).trans stored

end Router

namespace HealthRun
variable {ρ : Type}

/-- The records and what is held, in terms of the history. -/
structure Timed (h : List HealthEvent) (s : HealthRun ρ) : Prop where
  clock : s.clock = clockOf h
  records : ∀ key state, s.router.health.lookup key = some state →
    state.checkedAt = (recordings key h).head? ∧ state.next = state.scheduled
  held : ∀ caller runner, s.runners caller = some runner →
    ∀ hold ∈ runner.holds, s.router.Keeps s.clock hold

variable [Regexp ρ]

/-- What a call holds after a step was kept before the step. -/
lemma step_keeps {h : List HealthEvent} {s t : HealthRun ρ} {e : HealthEvent} (fenced : Fenced h s)
    (inv : Timed h s) (st : Step s e t) {caller : Nat} {runner : Runner}
    (running : t.runners caller = some runner) :
    ∀ hold ∈ runner.holds, s.router.Keeps s.clock hold := by
  intro hold member
  rcases step_holds st running with ⟨old, before, less⟩ | empty | ⟨ord, generation, current, swept⟩
  · exact inv.held caller old before hold (less.subset member)
  · rw [empty] at member
    cases member
  · rw [swept] at member
    obtain ⟨job, due, rfl⟩ := List.mem_map.mp member
    obtain ⟨key, stored⟩ := mem_dueJobs due
    have keyed := (fenced.records key job stored).1
    exact .inr ⟨current, job, keyed ▸ stored, rfl, due_of_mem_dueJobs due⟩

/-- A step that keeps the records and the generation. -/
lemma Timed.quiet {h : List HealthEvent} {s t : HealthRun ρ} {e : HealthEvent} (inv : Timed h s)
    (fenced : Fenced h s) (st : Step s e t)
    (unrecorded : ∀ key, recordings key (e :: h) = recordings key h)
    (clock : t.clock = clockOf (e :: h)) (later : s.clock ≤ t.clock)
    (health : t.router.health = s.router.health)
    (context : t.router.healthContext = s.router.healthContext)
    (cancelled : t.router.cancelled = s.router.cancelled) : Timed (e :: h) t where
  clock := clock
  records key state stored := by
    rw [health] at stored
    rw [unrecorded key]
    exact inv.records key state stored
  held caller runner running hold member :=
    (step_keeps fenced inv st running hold member).mono health context cancelled later

/-- A new generation has no recordings, and nothing that is held belongs to it. -/
lemma Timed.reset {h : List HealthEvent} {s t : HealthRun ρ} {e : HealthEvent} (inv : Timed h s)
    (fenced : Fenced h s) (st : Step s e t) (reset : e.isReset = true)
    (clock : t.clock = clockOf (e :: h)) (same : t.clock = s.clock)
    {ord : RangeOrder (GoString × List Route)} {r : Router ρ}
    (router : t.router = r.resetHealthLocked ord)
    (context : r.healthContext = s.router.healthContext)
    (cancelled : r.cancelled = s.router.cancelled) : Timed (e :: h) t where
  clock := clock
  records key state stored := by
    rw [router] at stored
    obtain ⟨_, due, unchecked, _⟩ := registerHealth_lookup stored
    rw [recordings_reset reset, HealthState.scheduled, unchecked]
    exact ⟨rfl, due⟩
  held caller runner running hold member := by
    rw [router, same]
    exact (step_keeps fenced inv st running hold member).reset context cancelled

/-- The return of the call keeps the times of the records. -/
lemma stop_timed {h : List HealthEvent} {s : HealthRun ρ} {caller : Nat} (inv : Timed h s)
    (fenced : Fenced h s)
    (st : Step s (.returned caller) ({ s with router := s.router.stopHealth }.setRunner caller none)) :
    Timed (.returned caller :: h)
      ({ s with router := s.router.stopHealth }.setRunner caller none) where
  clock := inv.clock
  records key state stored := by
    simp only [setRunner, Router.stopHealth, GoMap.lookup_mapValues,
      Option.map_eq_some_iff] at stored
    obtain ⟨old, stored, rfl⟩ := stored
    exact inv.records key old stored
  held c runner running hold member := (step_keeps fenced inv st running hold member).stop

/-- The recording section: the record of the key is scheduled anew, and no other held record has
this key. -/
lemma record_timed {h : List HealthEvent} {s : HealthRun ρ} {caller ctx : Nat} {phase : RunnerPhase}
    {before after : List Worker} {w : Worker} {status : Option Nat} {healthy : Bool}
    (run : (system ρ).Run h s) (inv : Timed h s)
    (running : s.runners caller = some { ctx, phase, workers := before ++ w :: after })
    (accepted : s.router.accepts s.ended w = true) :
    Timed (.recorded w.id w.state.route status healthy :: h)
      ({ s with router := s.router.record w.state.route healthy s.clock }.setRunner caller
        (some { ctx, phase, workers := before ++ after })) := by
  have apart := run_apart run caller _ running
  rw [(Runner.holds_remove.map holdKey).nodup_iff, List.map_cons, List.nodup_cons] at apart
  have kept := inv.held caller _ running
  -- the context of an accepted worker is not cancelled, so its key has the record it was started for
  have uncancelled : w.generation.id ∉ s.router.cancelled := by
    simp only [Router.accepts, HealthContext.err, Bool.and_eq_true, Bool.not_eq_true',
      Bool.or_eq_false_iff] at accepted
    simpa using accepted.1.1.1
  have w_kept := kept (w.generation, w.state) (Runner.holds_remove.mem_iff.mpr List.mem_cons_self)
  obtain ⟨_, old, stored, same, _⟩ := w_kept.resolve_left uncancelled
  refine ⟨inv.clock, ?_, ?_⟩
  · intro key state found
    have found : (s.router.record w.state.route healthy s.clock).health.lookup key = some state :=
      found
    rw [Router.record_stored _ _ stored] at found
    rw [recordings_recorded]
    by_cases here : key = healthKey w.state.route
    · subst here
      rw [AList.lookup_insert] at found
      cases found
      rw [if_pos rfl, ← inv.clock, HealthState.scheduled, ← same]
      exact ⟨rfl, rfl⟩
    · rw [AList.lookup_insert_ne here] at found
      rw [if_neg (Ne.symm here)]
      exact inv.records key state found
  · intro c runner found hold member
    obtain ⟨only, _⟩ := (run_owned run).holder running
    simp only [setRunner, only, Function.update_idem] at found
    by_cases owner : c = caller
    · subst owner
      rw [Function.update_self] at found
      cases found
      refine (kept hold (Runner.holds_remove.mem_iff.mpr (List.mem_cons_of_mem _ member))).record ?_
      intro clash
      apply apart.1
      rw [← show holdKey hold = holdKey (w.generation, w.state) from clash]
      exact List.mem_map_of_mem member
    · rw [Function.update_of_ne owner] at found
      cases found

/-- Every step of a run keeps the invariant. -/
lemma step_timed {h : List HealthEvent} {s : HealthRun ρ} {e : HealthEvent} {t : HealthRun ρ}
    (run : (system ρ).Run h s) (inv : Timed h s) (st : Step s e t) : Timed (e :: h) t := by
  have fenced := run_fenced run
  have moved := st
  cases st with
  | update ord routes => exact inv.reset fenced moved rfl inv.clock rfl rfl rfl rfl
  | resolve hostname path =>
    obtain ⟨pools, frame⟩ := s.router.resolve_frame hostname path
    refine inv.quiet fenced moved (fun _ => rfl) inv.clock le_rfl ?_ ?_ ?_ <;> simp only [frame]
  | start ord caller ctx _ _ => exact inv.reset fenced moved rfl inv.clock rfl rfl rfl rfl
  | record caller ctx phase before after w status healthy running _ accepted =>
    exact record_timed run inv running accepted
  | «return» caller ctx _ _ => exact stop_timed inv fenced moved
  | tick clock later => exact inv.quiet fenced moved (fun _ => rfl) rfl later rfl rfl rfl
  | _ => exact inv.quiet fenced moved (fun _ => rfl) inv.clock le_rfl rfl rfl rfl

/-- The invariant holds along every run. -/
theorem run_timed {h : List HealthEvent} {s : HealthRun ρ} (run : (system ρ).Run h s) :
    Timed h s := by
  refine System.Run.invariant Timed ?_ ?_ run
  · rintro _ rfl
    exact ⟨rfl, fun _ _ found => by simp [initial, Router.new] at found, nofun⟩
  · intro h s e t run inv st
    exact step_timed run inv st

/-- The clock of a history does not go back. -/
lemma clockOf_le {h : List HealthEvent} {s t : HealthRun ρ} {e : HealthEvent}
    (run : (system ρ).Run h s) (st : Step s e t) : clockOf h ≤ clockOf (e :: h) := by
  cases st with
  | tick clock later => exact (run_timed run).clock ▸ later
  | _ => exact le_rfl

/-- Recordings are listed newest first, and none is in the future. -/
lemma recordings_sorted {h : List HealthEvent} {s : HealthRun ρ} (run : (system ρ).Run h s)
    (key : GoString) :
    (recordings key h).Pairwise (· ≥ ·) ∧ ∀ time ∈ recordings key h, time ≤ clockOf h := by
  induction run with
  | start _ => exact ⟨.nil, nofun⟩
  | @next h s e t run st ih =>
    obtain ⟨sorted, past⟩ := ih
    have later := clockOf_le run st
    have weaken : ∀ time ∈ recordings key h, time ≤ clockOf (e :: h) :=
      fun time member => (past time member).trans later
    cases e with
    | updated routes => exact ⟨.nil, nofun⟩
    | started caller => exact ⟨.nil, nofun⟩
    | recorded probe route status healthy =>
      rw [recordings_recorded]
      split
      · refine ⟨.cons past sorted, ?_⟩
        intro time member
        rcases List.mem_cons.mp member with rfl | older
        · exact later
        · exact weaken time older
      · exact ⟨sorted, weaken⟩
    | _ => exact ⟨sorted, weaken⟩

/-- A probe that passes its first context check starts an interval after every probe recorded for
its key in the same generation. -/
lemma began_due {h : List HealthEvent} {s t : HealthRun ρ} {probe : Nat} {route : Route}
    (run : (system ρ).Run h s) (st : Step s (.began probe route) t) {check : HealthCheck}
    (checked : route.health = some check) {time : Int}
    (recorded : time ∈ recordings (healthKey route) h) :
    time + check.intervalSeconds * 1000000000 ≤ clockOf h := by
  cases st with
  | begin caller ctx phase before after w running _ live =>
    have inv := run_timed run
    have uncancelled : w.generation.id ∉ s.router.cancelled := by
      simp only [HealthContext.err, Bool.or_eq_false_iff] at live
      simpa using live.1
    have kept := inv.held caller _ running (w.generation, w.state)
      (Runner.holds_remove.mem_iff.mpr List.mem_cons_self)
    obtain ⟨_, state, stored, same, due⟩ := kept.resolve_left uncancelled
    obtain ⟨at_time, next⟩ := inv.records _ state stored
    obtain ⟨latest, older, split⟩ := List.exists_cons_of_ne_nil (List.ne_nil_of_mem recorded)
    have newest : time ≤ latest := by
      have sorted := (recordings_sorted run (healthKey w.state.route)).1
      rw [split] at sorted recorded
      rcases List.mem_cons.mp recorded with rfl | earlier
      · exact le_rfl
      · exact (List.pairwise_cons.mp sorted).1 time earlier
    rw [HealthState.scheduled, at_time, split, same, checked] at next
    rw [HealthState.due, next] at due
    simp only [List.head?_cons, Option.bind_some, Option.map_some, decide_eq_true_eq] at due
    rw [inv.clock] at due
    omega

/-- Probe scheduling is bounded: at most four probes are in flight across all calls and generations,
no two of them of one member; none is in flight when a call of `RunHealth` returns, nor while no
call is in progress; and a probe starts at least an interval after the probes of its member that
were recorded in the same generation. -/
theorem probes_bounded {h : List HealthEvent} {s : HealthRun ρ} (run : (system ρ).Run h s) :
    (∃ workers : List Worker, (∀ w, w ∈ workers ↔ s.Probing w) ∧
      (workers.map (·.id)).Perm (inFlight h) ∧ workers.length ≤ 4 ∧
      (workers.map fun w => healthKey w.state.route).Nodup) ∧
    ((∀ caller, s.runners caller = none) → inFlight h = []) ∧
    (∀ later caller earlier, h = later ++ .returned caller :: earlier → inFlight earlier = []) ∧
    (∀ later probe route earlier, h = later ++ .began probe route :: earlier →
      ∀ check, route.health = some check → ∀ time ∈ recordings (healthKey route) earlier,
        time + check.intervalSeconds * 1000000000 ≤ clockOf earlier) := by
  refine ⟨?_, ?_, ?_, ?_⟩
  · cases run_owned run with
    | idle none_running _ empty =>
      refine ⟨[], ?_, by rw [empty]; exact .nil, by simp, .nil⟩
      intro w
      simp [Probing, none_running]
    | busy caller runner only _ owned =>
      have running : s.runners caller = some runner := by rw [only, Function.update_self]
      refine ⟨runner.workers, ?_, owned.flying, owned.bounded, ?_⟩
      · intro w
        constructor
        · intro member
          exact ⟨caller, runner, running, member⟩
        · rintro ⟨caller', runner', found, member⟩
          obtain ⟨alone, _⟩ := (run_owned run).holder found
          rw [alone] at running
          by_cases same : caller = caller'
          · subst same
            rw [Function.update_self] at running
            cases running
            exact member
          · rw [Function.update_of_ne same] at running
            cases running
      · have apart := run_apart run caller runner running
        rw [Runner.holds, List.map_append, List.map_map] at apart
        exact (List.nodup_append.mp apart).1
  · intro none_running
    cases run_owned run with
    | idle _ _ empty => exact empty
    | busy caller runner only _ _ =>
      have running := none_running caller
      rw [only, Function.update_self] at running
      cases running
  · rintro later caller earlier rfl
    obtain ⟨s', t, run', st⟩ := run.split
    cases st with
    | «return» _ ctx waiting _ =>
      obtain ⟨_, _, owned⟩ := (run_owned run').holder waiting
      exact List.nil_perm.mp owned.flying
  · rintro later probe route earlier rfl check checked time recorded
    obtain ⟨s', t, run', st⟩ := run.split
    exact began_due run' st checked recorded

theorem probes_bounded_replica :
    ∃ h s, (system Empty).Run h s ∧ recordings (healthKey Router.pooled) h = [0] ∧
      (∃ workers : List Worker, (∀ w, w ∈ workers ↔ s.Probing w) ∧
        (workers.map (·.id)).Perm (inFlight h) ∧ workers.length ≤ 4 ∧
        (workers.map fun w => healthKey w.state.route).Nodup) ∧
      ((∀ caller, s.runners caller = none) → inFlight h = []) ∧
      (∀ later caller earlier, h = later ++ .returned caller :: earlier → inFlight earlier = []) ∧
      (∀ later probe route earlier, h = later ++ .began probe route :: earlier →
        ∀ check, route.health = some check → ∀ time ∈ recordings (healthKey route) earlier,
          time + check.intervalSeconds * 1000000000 ≤ clockOf earlier) := by
  obtain ⟨s, run, _⟩ := probed_run (ρ := Empty) .stored [Router.pooled]
    { ptr := 1, route := Router.pooled } rfl rfl
  exact ⟨_, s, run, by decide, probes_bounded run⟩

end HealthRun
end Pintle
