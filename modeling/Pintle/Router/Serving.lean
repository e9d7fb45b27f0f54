import Pintle.Router.Refusal

/-!
# Concurrent Resolve calls

Model of `Resolve` of `internal/router/router.go` as its callers run it: a call holds the read lock
while it finds the pool and reads the health records (`locate`), and selects by a fetch-and-add on the
pool's counter (`complete`). Any number of calls may stand between the two. The write lock excludes
them, so a step of the probing system that changes what the lock protects waits until no call is in
progress.

The model of `Probing.lean` takes a `Resolve` call as one step. `run_linearized` justifies it: every
run of concurrent calls is a run of that system in which each call takes effect where it selects.
-/

namespace Pintle
open Go Lib

/-- What a `Resolve` call has found before it selects: its answer, or the members to select from. -/
inductive Location where
  | answer (res : ResolveResult)
  | select (res : ResolveResult) (members : List Route) (live : members ≠ [])

namespace Router
variable {ρ : Type}

/-- Go `matchPool` up to the fetch-and-add. -/
def locatePool (r : Router ρ) (routes : List Route) (path : GoString) : Option Location :=
  match matchRoutes routes path with
  | none => none
  | some result =>
    if result.route.backendPool = [] then some (.answer result)
    else
      let members := r.members routes result.route
      match r.pools.lookup (poolKey result.route) with
      | none => some (.answer { result with unavailable := true, target := [] })
      | some _ =>
        if empty : members = [] then some (.answer { result with unavailable := true, target := [] })
        else some (.select result members empty)

/-- The second loop of Go `Resolve` up to the fetch-and-add. -/
def locateRegex [Regexp ρ] (r : Router ρ) (hostname path : GoString) :
    List (RegexRoute ρ) → Option Location
  | [] => none
  | rr :: rest =>
    if Regexp.matchString rr.re hostname then
      match r.locatePool rr.routes path with
      | some location => some location
      | none => r.locateRegex hostname path rest
    else r.locateRegex hostname path rest

/-- Go `Resolve` up to the fetch-and-add. -/
def locate [Regexp ρ] (r : Router ρ) (hostname path : GoString) : Option Location :=
  match r.locatePool ((r.routes.lookup hostname).getD []) path with
  | some location => some location
  | none => r.locateRegex hostname path r.regexRoutes

/-- The rest of Go `Resolve`: the fetch-and-add on the counter found before, and the answer. -/
def complete (r : Router ρ) : Location → ResolveResult × Router ρ
  | .answer res => (res, r)
  | .select res members live =>
    let count := (r.pools.lookup (poolKey res.route)).getD 0
    let selected := pick count members live
    ({ res with target := selected.target, route := selected },
      r.addCounter (poolKey res.route) count)

/-- Both parts of a call at once. -/
def finish (r : Router ρ) : Option Location → Option ResolveResult × Router ρ
  | none => (none, r)
  | some location => (some (r.complete location).1, (r.complete location).2)

lemma matchPool_locate (r : Router ρ) (routes : List Route) (path : GoString) :
    r.matchPool routes path = r.finish (r.locatePool routes path) := by
  unfold matchPool locatePool
  cases matchRoutes routes path with
  | none => rfl
  | some result =>
    dsimp only
    split
    · rfl
    · cases counter : r.pools.lookup (poolKey result.route) with
      | none => rfl
      | some count =>
        dsimp only
        split
        · rfl
        · simp only [finish, complete, counter, Option.getD_some]

lemma resolveRegex_locate [Regexp ρ] (r : Router ρ) (hostname path : GoString)
    (groups : List (RegexRoute ρ)) :
    r.resolveRegex hostname path groups = r.finish (r.locateRegex hostname path groups) := by
  induction groups with
  | nil => rfl
  | cons rr groups ih =>
    rw [resolveRegex, locateRegex]
    split
    · rw [matchPool_locate]
      cases r.locatePool rr.routes path with
      | none => exact ih
      | some location => rfl
    · exact ih

/-- An undisturbed call is `Resolve`. -/
theorem resolve_locate [Regexp ρ] (r : Router ρ) (hostname path : GoString) :
    r.resolve hostname path = r.finish (r.locate hostname path) := by
  rw [resolve, locate, matchPool_locate]
  cases r.locatePool ((r.routes.lookup hostname).getD []) path with
  | none => exact r.resolveRegex_locate hostname path r.regexRoutes
  | some location => rfl

/-- What the read lock protects a call from: the tables and the records are the same, and so are the
pools that have a counter. -/
structure SameView (r r' : Router ρ) : Prop where
  routes : r'.routes = r.routes
  regexRoutes : r'.regexRoutes = r.regexRoutes
  health : r'.health = r.health
  pools : ∀ key, (r'.pools.lookup key).isSome = (r.pools.lookup key).isSome

lemma SameView.advance {r r' : Router ρ} (step : r.Advanced r') : r.SameView r' := by
  rcases step with rfl | ⟨key, count, counter, rfl⟩
  · exact ⟨rfl, rfl, rfl, fun _ => rfl⟩
  · refine ⟨rfl, rfl, rfl, ?_⟩
    intro other
    by_cases same : other = key
    · subst same
      simp [addCounter, counter]
    · simp only [addCounter, AList.lookup_insert_ne same]

lemma SameView.locatePool {r r' : Router ρ} (view : r.SameView r') (routes : List Route)
    (path : GoString) : r'.locatePool routes path = r.locatePool routes path := by
  have marks : r'.SameMarks r := fun key => by rw [view.health]
  unfold Router.locatePool
  cases matchRoutes routes path with
  | none => rfl
  | some result =>
    dsimp only
    split
    · rfl
    · have known := view.pools (poolKey result.route)
      rw [members_congr marks]
      cases counter : r.pools.lookup (poolKey result.route) <;>
        cases counter' : r'.pools.lookup (poolKey result.route) <;>
        first | rfl | (rw [counter, counter'] at known; cases known)

variable [Regexp ρ]

lemma SameView.locateRegex {r r' : Router ρ} (view : r.SameView r') (hostname path : GoString)
    (groups : List (RegexRoute ρ)) :
    r'.locateRegex hostname path groups = r.locateRegex hostname path groups := by
  induction groups with
  | nil => rfl
  | cons rr groups ih => rw [Router.locateRegex, Router.locateRegex, view.locatePool, ih]

/-- A call finds the same under the same view. -/
lemma SameView.locate {r r' : Router ρ} (view : r.SameView r') (hostname path : GoString) :
    r'.locate hostname path = r.locate hostname path := by
  rw [Router.locate, Router.locate, view.routes, view.regexRoutes, view.locatePool, view.locateRegex]

end Router

/-- A `Resolve` call that holds the read lock and is about to select. -/
structure ResolveCall where
  hostname : GoString
  path : GoString
  res : ResolveResult
  members : List Route
  live : members ≠ []

/-- The probing system with the `Resolve` calls in progress. -/
structure Serving (ρ : Type) where
  probing : HealthRun ρ
  calls : Nat → Option ResolveCall

/-- The labels of a run: a step of the probing system, a call that answers without a selection, and
the two parts of one that selects. -/
inductive ServingEvent where
  | background (e : HealthEvent)
  | answered (caller : Nat) (hostname path : GoString)
  | entered (caller : Nat)
  | selected (caller : Nat) (hostname path : GoString) (route : Route)
  deriving DecidableEq, Repr

namespace Serving
variable {ρ : Type} [Regexp ρ]

/-- One step of the callers of `Resolve` or of the goroutines of `Probing.lean`. -/
inductive Step : Serving ρ → ServingEvent → Serving ρ → Prop where
  | background {s} (e : HealthEvent) (t : HealthRun ρ) :
    HealthRun.Step s.probing e t →
    (∀ hostname path, e ≠ .resolved hostname path) →
    -- what changes the tables, the counters or the records takes the write lock
    (∀ caller, s.calls caller = none) ∨
      (s.probing.router.SameTables t.router ∧ t.router.health = s.probing.router.health) →
    Step s (.background e) { s with probing := t }
  | answer {s} (caller : Nat) (hostname path : GoString) :
    s.calls caller = none →
    s.probing.router.locate hostname path = none ∨
      (∃ res, s.probing.router.locate hostname path = some (.answer res)) →
    Step s (.answered caller hostname path) s
  | enter {s} (caller : Nat) (hostname path : GoString) (res : ResolveResult) (members : List Route)
      (live : members ≠ []) :
    s.calls caller = none →
    s.probing.router.locate hostname path = some (.select res members live) →
    Step s (.entered caller)
      { s with
        calls := Function.update s.calls caller (some { hostname, path, res, members, live }) }
  | select {s} (caller : Nat) (call : ResolveCall) :
    s.calls caller = some call →
    Step s
      (.selected caller call.hostname call.path
        (s.probing.router.complete (.select call.res call.members call.live)).1.route)
      { probing :=
          { s.probing with
            router := (s.probing.router.complete (.select call.res call.members call.live)).2 }
        calls := Function.update s.calls caller none }

/-- The state before any call. -/
def initial : Serving ρ where
  probing := .initial
  calls _ := none

/-- The system of all interleavings. -/
def system (ρ : Type) [Regexp ρ] : System (Serving ρ) ServingEvent where
  init s := s = initial
  step := Step

end Serving

/-- Where a step takes effect in the probing system: a call where it answers or selects. -/
def ServingEvent.effect : ServingEvent → Option HealthEvent
  | .background e => some e
  | .answered _ hostname path => some (.resolved hostname path)
  | .entered _ => none
  | .selected _ hostname path _ => some (.resolved hostname path)

namespace Serving
variable {ρ : Type} [Regexp ρ]

/-- A call in progress would find the same now. -/
def Current (s : Serving ρ) : Prop :=
  ∀ caller call, s.calls caller = some call →
    s.probing.router.locate call.hostname call.path = some (.select call.res call.members call.live)

/-- The lock keeps the calls in progress current. -/
lemma step_current {s t : Serving ρ} {e : ServingEvent} (current : s.Current) (st : Step s e t) :
    t.Current := by
  cases st with
  | background e t _ _ locked =>
    intro caller call running
    rcases locked with unlocked | ⟨tables, health⟩
    · rw [unlocked caller] at running
      cases running
    · have view : s.probing.router.SameView t.router :=
        ⟨tables.routes, tables.regexRoutes, health, fun key => by rw [tables.pools]⟩
      have kept := view.locate call.hostname call.path
      exact kept.trans (current caller call running)
  | answer caller hostname path _ _ => exact current
  | enter caller hostname path res members live _ located =>
    intro c call running
    by_cases same : c = caller
    · subst same
      simp only [Function.update_self] at running
      cases running
      exact located
    · simp only [Function.update_of_ne same] at running
      exact current c call running
  | select caller call running =>
    have step := s.probing.router.resolve_advanced call.hostname call.path
    rw [Router.resolve_locate, current caller call running] at step
    intro c other running'
    by_cases same : c = caller
    · subst same
      simp only [Function.update_self] at running'
      cases running'
    · simp only [Function.update_of_ne same] at running'
      have kept := (Router.SameView.advance step).locate other.hostname other.path
      exact kept.trans (current c other running')

theorem run_current {h : List ServingEvent} {s : Serving ρ} (run : (system ρ).Run h s) : s.Current := by
  refine System.Run.invariant (fun _ s => s.Current) ?_ ?_ run
  · rintro _ rfl
    exact nofun
  · intro h s e t _ current st
    exact step_current current st

/-- A call that selects is a `Resolve` call at that moment. -/
lemma select_resolve {s : Serving ρ} (current : s.Current) {caller : Nat} {call : ResolveCall}
    (running : s.calls caller = some call) :
    s.probing.router.resolve call.hostname call.path =
      (some (s.probing.router.complete (.select call.res call.members call.live)).1,
        (s.probing.router.complete (.select call.res call.members call.live)).2) := by
  rw [Router.resolve_locate, current caller call running]
  rfl

/-- Concurrent calls take effect one after the other, each where it answers or selects. -/
theorem run_linearized {h : List ServingEvent} {s : Serving ρ} (run : (system ρ).Run h s) :
    (HealthRun.system ρ).Run (h.filterMap (·.effect)) s.probing := by
  refine System.Run.simulate (·.probing) (·.effect) ?_ ?_ run
  · rintro _ rfl
    rfl
  · intro h s e t run st
    cases st with
    | background e t step _ _ => exact step
    | answer caller hostname path _ unselected =>
      have step := HealthRun.Step.resolve (s := s.probing) hostname path
      have unchanged : (s.probing.router.resolve hostname path).2 = s.probing.router := by
        rw [Router.resolve_locate]
        rcases unselected with none_found | ⟨res, found⟩
        · rw [none_found]
          rfl
        · rw [found]
          rfl
      rw [unchanged] at step
      exact step
    | enter caller hostname path res members live _ _ => rfl
    | select caller call running =>
      have step := HealthRun.Step.resolve (s := s.probing) call.hostname call.path
      rw [select_resolve (run_current run) running] at step
      exact step

end Serving
end Pintle
