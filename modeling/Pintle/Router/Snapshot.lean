import Mathlib.Data.List.Dedup
import Pintle.Go.Url
import Pintle.Router.Reference
import Pintle.Router.Schedule

/-!
# What the dashboard reports

Model of `SnapshotHealth` of `internal/router/health.go`, and the theorem that it agrees with
admission. `Resolve` reads only the `healthy` mark of a record, the report also whether a call is in
progress and whether the record was checked. They agree since a marked record was checked in the
current generation by a call that is still in progress (`Reported.marked`): a reset makes fresh
records, the return of the call clears every mark, and a late probe is not recorded. The records are
those of the checked static members of the last `Update` (`Reported.known`, `Reported.member`).
-/

namespace Pintle
open Go Lib

/-- The states of a backend (Go `"unknown"`, `"ready"` and `"down"`). -/
inductive BackendState where
  | unknown
  | ready
  | down
  deriving DecidableEq, Repr, Inhabited

/-- Go `BackendHealth`. -/
structure BackendHealth where
  hostname : GoString
  pool : GoString
  path : GoString
  targetOrigin : GoString
  state : BackendState := .unknown
  lastCheckAgeMs : Option Int := none
  ageCapped : Bool := false
  deriving DecidableEq, Repr, Inhabited

/-- Go `HealthSnapshot`. -/
structure HealthSnapshot where
  generation : UInt64
  running : Bool
  backends : List BackendHealth
  deriving DecidableEq, Repr

/-- The origin of a target, or nothing when it does not parse. -/
def targetOrigin (υ : Type) [Url υ] (target : GoString) : GoString :=
  match (Url.parse target : Option υ) with
  | none => []
  | some u => Url.scheme u ++ lit "://" ++ Url.host u

/-- The age of a check in milliseconds, at least zero and at most a day, and whether it was cut. -/
def checkAge (now checkedAt : Int) : Int × Bool :=
  let age := (now - checkedAt).tdiv 1000000
  let age := if age < 0 then 0 else age
  if age > 24 * 60 * 60 * 1000 then (24 * 60 * 60 * 1000, true) else (age, false)

/-- One iteration of the loop of Go `SnapshotHealth`. -/
def HealthState.row (υ : Type) [Url υ] (running : Bool) (now : Int) (state : HealthState) :
    BackendHealth :=
  let row : BackendHealth :=
    { hostname := state.route.hostname
      pool := state.route.backendPool
      path := state.route.path
      targetOrigin := targetOrigin υ state.route.target }
  match state.checkedAt with
  | none => row
  | some checkedAt =>
    { row with
      lastCheckAgeMs := some (checkAge now checkedAt).1
      ageCapped := (checkAge now checkedAt).2
      state := if running then if state.healthy then .ready else .down else .unknown }

/-- The string that rows are sorted by. -/
def BackendHealth.sortKey (row : BackendHealth) : GoString :=
  row.hostname ++ row.pool ++ row.path ++ row.targetOrigin

namespace Router
variable {ρ : Type}

/-- Go `SnapshotHealth`. -/
def snapshotHealth (υ : Type) [Url υ] (ord : RangeOrder (GoString × HealthState)) (now : Int)
    (r : Router ρ) : HealthSnapshot where
  generation := r.healthGeneration
  running := r.healthRunning
  backends :=
    ((ord.visit r.health.pairs).map fun entry => entry.2.row υ r.healthRunning now).insertionSort
      fun a b => a.sortKey ≤ b.sortKey

/-- The row of a health key. -/
def rowOf (υ : Type) [Url υ] (now : Int) (r : Router ρ) (key : GoString) : BackendHealth :=
  match r.health.lookup key with
  | none => default
  | some state => state.row υ r.healthRunning now

/-- The rows of a snapshot, in some order, are those of the keys of the records. -/
lemma snapshot_rows (υ : Type) [Url υ] (ord : RangeOrder (GoString × HealthState)) (now : Int)
    (r : Router ρ) : (r.snapshotHealth υ ord now).backends.Perm
      (r.health.keys.map (r.rowOf υ now)) := by
  have rows : (r.health.pairs.map fun entry => entry.2.row υ r.healthRunning now) =
      r.health.keys.map (r.rowOf υ now) := by
    have keys : r.health.keys = r.health.pairs.map (·.1) := by
      simp [AList.keys, List.keys, GoMap.pairs]
    rw [keys, List.map_map]
    apply List.map_congr_left
    intro entry member
    have stored := GoMap.mem_pairs.mp (show (entry.1, entry.2) ∈ r.health.pairs from member)
    simp [rowOf, stored]
  rw [← rows]
  exact (List.perm_insertionSort _ _).trans ((ord.perm r.health.pairs).map _)

end Router

lemma row_ready {υ : Type} [Url υ] {running : Bool} {now : Int} {state : HealthState} :
    (state.row υ running now).state = .ready ↔
      running = true ∧ state.checkedAt.isSome = true ∧ state.healthy = true := by
  unfold HealthState.row
  cases state.checkedAt <;> cases running <;> cases state.healthy <;> simp

lemma row_unknown {υ : Type} [Url υ] {running : Bool} {now : Int} {state : HealthState} :
    (state.row υ running now).state = .unknown ↔ running = false ∨ state.checkedAt = none := by
  unfold HealthState.row
  cases state.checkedAt <;> cases running <;> cases state.healthy <;> simp

/-- A row names the route of its record. -/
lemma row_fields {υ : Type} [Url υ] {running : Bool} {now : Int} {state : HealthState} :
    (state.row υ running now).hostname = state.route.hostname ∧
      (state.row υ running now).pool = state.route.backendPool ∧
      (state.row υ running now).path = state.route.path ∧
      (state.row υ running now).targetOrigin = targetOrigin υ state.route.target := by
  unfold HealthState.row
  cases state.checkedAt <;> exact ⟨rfl, rfl, rfl, rfl⟩

/-- The checked static members of the pools that a list of routes declares. A route whose pattern
does not compile is in no pool. -/
def staticMembers (ρ : Type) [Regexp ρ] (routes : List Route) : List Route :=
  (validRoutes ρ routes).filter (·.registered)

lemma mem_staticMembers {ρ : Type} [Regexp ρ] {routes : List Route} {route : Route} :
    route ∈ staticMembers ρ routes ↔ (route ∈ routes ∧
      (route.isRegexp = true → compiles ρ route.hostname = true)) ∧ route.registered = true := by
  rw [staticMembers, validRoutes, List.mem_filter, List.mem_filter]
  simp [imp_iff_not_or]

namespace HealthRun
variable {ρ : Type} [Regexp ρ]

/-- The records are those of the members of the last `Update`, and a marked one was checked by the
call in progress. -/
structure Reported (h : List HealthEvent) (s : HealthRun ρ) : Prop where
  known : ∀ member ∈ staticMembers ρ (installedRoutes h),
    (s.router.health.lookup (healthKey member)).isSome = true
  member : ∀ key state, s.router.health.lookup key = some state →
    state.route ∈ staticMembers ρ (installedRoutes h)
  marked : ∀ key state, s.router.health.lookup key = some state → state.healthy = true →
    s.router.healthRunning = true ∧ state.checkedAt.isSome = true

/-- A step that keeps the records and the flag. -/
lemma Reported.quiet {h : List HealthEvent} {s t : HealthRun ρ} {e : HealthEvent}
    (inv : Reported h s) (routes : installedRoutes (e :: h) = installedRoutes h)
    (health : t.router.health = s.router.health)
    (flag : t.router.healthRunning = s.router.healthRunning) : Reported (e :: h) t where
  known := by
    rw [routes, health]
    exact inv.known
  member := by
    rw [routes, health]
    exact inv.member
  marked := by
    rw [health, flag]
    exact inv.marked

/-- A new generation has a fresh record for every member. -/
lemma Reported.reset {h : List HealthEvent} {t : HealthRun ρ} {r : Router ρ}
    {ord : RangeOrder (GoString × List Route)} (router : t.router = r.resetHealthLocked ord)
    (tables : t.router.Installed (installedRoutes h)) : Reported h t := by
  rw [router] at tables
  have tables : r.Installed (installedRoutes h) := tables.of_tables rfl rfl
  refine ⟨?_, ?_, ?_⟩ <;> rw [router]
  · intro member listed
    obtain ⟨⟨inside, valid⟩, registered⟩ := mem_staticMembers.mp listed
    exact (Router.reset_isSome tables ord _).mpr ⟨member, inside, valid, registered, rfl⟩
  · intro key state stored
    obtain ⟨_, _, _, inside, registered, _⟩ := registerHealth_lookup stored
    exact mem_staticMembers.mpr ⟨(Router.mem_flattenLocked tables ord _).mp inside, registered⟩
  · intro key state stored marked
    rw [(registerHealth_lookup stored).1] at marked
    cases marked

lemma stop_reported {h : List HealthEvent} {s : HealthRun ρ} (inv : Reported h s) (caller : Nat) :
    Reported (.returned caller :: h)
      ({ s with router := s.router.stopHealth }.setRunner caller none) := by
  have stopped {key : GoString} {state : HealthState}
      (stored : s.router.stopHealth.health.lookup key = some state) :
      ∃ old, s.router.health.lookup key = some old ∧ { old with healthy := false } = state := by
    rw [Router.stopHealth, GoMap.lookup_mapValues, Option.map_eq_some_iff] at stored
    exact stored
  refine ⟨?_, ?_, ?_⟩
  · intro member listed
    simp only [setRunner, Router.stopHealth, GoMap.lookup_mapValues, Option.isSome_map]
    exact inv.known member listed
  · intro key state stored
    obtain ⟨old, kept, rfl⟩ := stopped stored
    exact inv.member key old kept
  · intro key state stored marked
    obtain ⟨old, _, rfl⟩ := stopped stored
    cases marked

/-- A recording marks a record of the call in progress, and checks it. -/
lemma record_reported {h : List HealthEvent} {s : HealthRun ρ} (inv : Reported h s)
    (flag : s.router.healthRunning = true) {caller probe : Nat} {runner : Option Runner}
    {route : Route} {status : Option Nat} {healthy : Bool} :
    Reported (.recorded probe route status healthy :: h)
      ({ s with router := s.router.record route healthy s.clock }.setRunner caller runner) := by
  cases known : s.router.health.lookup (healthKey route) with
  | none =>
    have same : s.router.record route healthy s.clock = s.router := by simp [Router.record, known]
    exact inv.quiet rfl (by simp only [setRunner, same]) (by simp only [setRunner, same])
  | some old =>
    obtain ⟨health, frame⟩ := s.router.record_frame route healthy s.clock
    have flag' : (s.router.record route healthy s.clock).healthRunning = true := by
      rw [frame]
      exact flag
    have stored := Router.record_stored healthy s.clock known
    refine ⟨?_, ?_, ?_⟩ <;> simp only [setRunner, stored]
    · intro member listed
      by_cases here : healthKey member = healthKey route
      · rw [here, AList.lookup_insert]
        rfl
      · rw [AList.lookup_insert_ne here]
        exact inv.known member listed
    · intro key state found
      by_cases here : key = healthKey route
      · subst here
        rw [AList.lookup_insert] at found
        cases found
        exact inv.member _ old known
      · rw [AList.lookup_insert_ne here] at found
        exact inv.member key state found
    · intro key state found marked
      refine ⟨flag', ?_⟩
      by_cases here : key = healthKey route
      · subst here
        rw [AList.lookup_insert] at found
        cases found
        rfl
      · rw [AList.lookup_insert_ne here] at found
        exact (inv.marked key state found marked).2

/-- Every step of a run keeps the invariant. -/
lemma step_reported {h : List HealthEvent} {s : HealthRun ρ} {e : HealthEvent} {t : HealthRun ρ}
    (run : (system ρ).Run h s) (inv : Reported h s) (st : Step s e t) : Reported (e :: h) t := by
  have tables := (run_fenced (System.Run.next run st)).tables
  cases st with
  | update ord routes => exact .reset rfl tables
  | start ord caller ctx _ _ => exact .reset rfl tables
  | resolve hostname path =>
    obtain ⟨pools, frame⟩ := s.router.resolve_frame hostname path
    exact inv.quiet rfl (by simp only [frame]) (by simp only [frame])
  | record caller ctx phase before after w status healthy running _ _ =>
    exact record_reported inv ((run_owned run).holder running).2.1
  | «return» caller ctx _ _ => exact stop_reported inv caller
  | _ => exact inv.quiet rfl rfl rfl

/-- The invariant holds along every run. -/
theorem run_reported {h : List HealthEvent} {s : HealthRun ρ} (run : (system ρ).Run h s) :
    Reported h s := by
  refine System.Run.invariant Reported ?_ ?_ run
  · rintro _ rfl
    exact ⟨nofun, fun _ _ found => by simp [initial, Router.new] at found,
      fun _ _ found => by simp [initial, Router.new] at found⟩
  · intro h s e t run inv st
    exact step_reported run inv st

/-- The flag says whether a call is in progress. -/
lemma running_iff {h : List HealthEvent} {s : HealthRun ρ} (run : (system ρ).Run h s) :
    s.router.healthRunning = false ↔ ∀ caller, s.runners caller = none := by
  cases run_owned run with
  | idle none_running off _ => simp [none_running, off]
  | busy caller runner only on _ =>
    rw [on]
    refine ⟨nofun, ?_⟩
    intro none_running
    have running := none_running caller
    rw [only, Function.update_self] at running
    cases running

/-- The keys of the records are those of the members. -/
lemma Reported.keys {h : List HealthEvent} {s : HealthRun ρ} (inv : Reported h s)
    (fenced : Fenced h s) :
    s.router.health.keys.Perm ((staticMembers ρ (installedRoutes h)).map healthKey).dedup := by
  refine (List.perm_ext_iff_of_nodup s.router.health.nodupKeys (List.nodup_dedup _)).mpr ?_
  intro key
  have found : key ∈ s.router.health.entries.keys ↔ (s.router.health.lookup key).isSome = true :=
    AList.lookup_isSome.symm
  rw [found, List.mem_dedup, List.mem_map]
  constructor
  · intro known
    obtain ⟨state, stored⟩ := Option.isSome_iff_exists.mp known
    exact ⟨state.route, inv.member key state stored, (fenced.records key state stored).1⟩
  · rintro ⟨member, listed, rfl⟩
    exact inv.known member listed

/-- The dashboard's readiness agrees with admission: a snapshot has one row for the health key of
each checked static member of the last `Update`; the row says ready exactly when the member may be
selected, and unknown exactly when no call is in progress or no probe of the current generation has
been recorded for the member. With distinct keys there is one row for each member. -/
theorem snapshot_agrees {υ : Type} [Url υ] {h : List HealthEvent} {s : HealthRun ρ}
    (run : (system ρ).Run h s) (ord : RangeOrder (GoString × HealthState)) (now : Int) :
    (s.router.snapshotHealth υ ord now).backends.Perm
      (((staticMembers ρ (installedRoutes h)).map healthKey).dedup.map (s.router.rowOf υ now)) ∧
    (∀ member ∈ staticMembers ρ (installedRoutes h),
      ((s.router.rowOf υ now (healthKey member)).state = .ready ↔
        s.router.eligible member = true) ∧
      ((s.router.rowOf υ now (healthKey member)).state = .unknown ↔
        (∀ caller, s.runners caller = none) ∨ recordings (healthKey member) h = [])) ∧
    (((staticMembers ρ (installedRoutes h)).map healthKey).Nodup →
      (s.router.snapshotHealth υ ord now).backends.Perm
        ((staticMembers ρ (installedRoutes h)).map fun member =>
          s.router.rowOf υ now (healthKey member)) ∧
      ∀ member ∈ staticMembers ρ (installedRoutes h),
        (s.router.rowOf υ now (healthKey member)).hostname = member.hostname ∧
        (s.router.rowOf υ now (healthKey member)).pool = member.backendPool ∧
        (s.router.rowOf υ now (healthKey member)).path = member.path ∧
        (s.router.rowOf υ now (healthKey member)).targetOrigin = targetOrigin υ member.target) := by
  have inv := run_reported run
  have fenced := run_fenced run
  have rows := (s.router.snapshot_rows υ ord now).trans
    ((inv.keys fenced).map (s.router.rowOf υ now))
  refine ⟨rows, ?_, ?_⟩
  · intro member listed
    obtain ⟨state, stored⟩ := Option.isSome_iff_exists.mp (inv.known member listed)
    obtain ⟨check, checked⟩ : ∃ check, member.health = some check := by
      have registered := (mem_staticMembers.mp listed).2
      simp only [Route.registered, Bool.and_eq_true] at registered
      exact Option.isSome_iff_exists.mp registered.1.1
    have row : s.router.rowOf υ now (healthKey member) = state.row υ s.router.healthRunning now := by
      rw [Router.rowOf, stored]
    rw [row, row_ready, row_unknown, running_iff run]
    constructor
    · have eligible : s.router.eligible member = state.healthy := by
        simp [Router.eligible, checked, stored]
      rw [eligible]
      constructor
      · intro ready
        exact ready.2.2
      · intro healthy
        obtain ⟨running, seen⟩ := inv.marked _ state stored healthy
        exact ⟨running, seen, healthy⟩
    · rw [((run_timed run).records _ state stored).1, List.head?_eq_none_iff]
  · intro distinct
    rw [List.dedup_eq_self.mpr distinct, List.map_map] at rows
    refine ⟨rows, ?_⟩
    intro member listed
    obtain ⟨state, stored⟩ := Option.isSome_iff_exists.mp (inv.known member listed)
    have same : state.route = member :=
      List.inj_on_of_nodup_map distinct (inv.member _ state stored) listed
        (fenced.records _ state stored).1
    rw [Router.rowOf, stored, ← same]
    exact row_fields

theorem snapshot_agrees_replica :
    ∃ h s, (system Empty).Run h s ∧ staticMembers Empty (installedRoutes h) = [Router.pooled] ∧
      ((s.router.rowOf Origin 0 (healthKey Router.pooled)).state = .ready ↔
        s.router.eligible Router.pooled = true) ∧
      s.router.eligible Router.pooled = true := by
  obtain ⟨s, run, router⟩ := probed_run (ρ := Empty) .stored [Router.pooled]
    { ptr := 1, route := Router.pooled } rfl rfl
  refine ⟨_, s, run, by decide, ?_, ?_⟩
  · exact ((snapshot_agrees (υ := Origin) run .stored 0).2.1 Router.pooled (by decide)).1
  · rw [router]
    decide

end HealthRun
end Pintle
