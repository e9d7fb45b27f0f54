import Mathlib.Logic.Function.Basic
import Pintle.Lib.Transition
import Pintle.Router.Registry

/-!
# Health probing as a transition system

Model of `RunHealth` and `probe` of `internal/router/health.go`, together with the calls of `Update`
and `Resolve` that interleave with them. Every section under the router's lock is one step, and so
is every other action the scheduler may separate: each turn of the outer loop and of the job loop of
`RunHealth`, the first context check of `probe`, the response, and the section that records it. HTTP
outcomes are arbitrary and may come at any time.

Any number of goroutines may call `RunHealth`, so the calls in progress are a function from callers.
The labels of a run are what an observer sees (`HealthEvent`); the statements about the most recent
probe are statements about them.
-/

namespace Pintle
open Go Lib

/-- Where a probe goroutine stands. -/
inductive WorkerPhase where
  | spawned
  | requesting
  | answered (status : Option Nat) (healthy : Bool)
  deriving DecidableEq, Repr

/-- A probe goroutine: its context, and the health record it was started for. -/
structure Worker where
  id : Nat
  generation : HealthContext
  state : HealthState
  phase : WorkerPhase
  deriving DecidableEq, Repr

/-- Where a `RunHealth` call stands: in the outer `select`, in the `select` of the job loop, at the
check that follows it, or in `workers.Wait()`. -/
inductive RunnerPhase where
  | waiting
  | sweeping (generation : HealthContext) (jobs : List HealthState)
  | checking (generation : HealthContext) (jobs : List HealthState)
  | joining
  deriving DecidableEq, Repr

/-- A `RunHealth` call in progress, with its process context and the workers of its sweep. -/
structure Runner where
  ctx : Nat
  phase : RunnerPhase
  workers : List Worker
  deriving DecidableEq, Repr

/-- The router, the `RunHealth` calls in progress, the process contexts that are done, and the
clock. -/
structure HealthRun (ρ : Type) where
  router : Router ρ
  runners : Nat → Option Runner
  ended : Nat → Bool
  clock : Int
  nextProbe : Nat

/-- The labels of a run. -/
inductive HealthEvent where
  | updated (routes : List Route)
  | resolved (hostname path : GoString)
  | started (caller : Nat)
  | ignored (caller : Nat)
  | ended (ctx : Nat)
  | swept (caller : Nat)
  | launched (caller probe : Nat)
  | skipped (caller : Nat)
  | checked (caller : Nat)
  | joined (caller : Nat)
  | began (probe : Nat) (route : Route)
  | dropped (probe : Nat)
  | answered (probe : Nat) (status : Option Nat)
  | recorded (probe : Nat) (route : Route) (status : Option Nat) (healthy : Bool)
  | discarded (probe : Nat)
  | returned (caller : Nat)
  | ticked (clock : Int)
  deriving DecidableEq, Repr

/-- Whether a response is a success (Go `StatusCode >= 200 && StatusCode < 300`). -/
def success : Option Nat → Bool
  | none => false
  | some status => 200 ≤ status && status < 300

/-- Whether a sweep picks a record up (Go `!time.Now().Before(state.next)`). -/
def HealthState.due (clock : Int) (state : HealthState) : Bool :=
  match state.next with
  | none => true
  | some next => next ≤ clock

/-- The records due at a time, in key order (the job list of a sweep). -/
def dueJobs (ord : RangeOrder (GoString × HealthState)) (clock : Int)
    (health : GoMap GoString HealthState) : List HealthState :=
  let due := ((ord.visit health.pairs).map (·.2)).filter (·.due clock)
  due.insertionSort fun a b => healthKey a.route ≤ healthKey b.route

/-- Go `generation.Err() != nil`. -/
def HealthContext.err (generation : HealthContext) (cancelled : List Nat) (ended : Nat → Bool) :
    Bool :=
  cancelled.contains generation.id ||
    match generation.parent with
    | .background => false
    | .process ctx => ended ctx

namespace Router
variable {ρ : Type}

/-- Whether the recording section of Go `probe` accepts a result. -/
def accepts (r : Router ρ) (ended : Nat → Bool) (w : Worker) : Bool :=
  !w.generation.err r.cancelled ended && r.healthContext = some w.generation
    && (r.health.lookup (healthKey w.state.route)).map (·.ptr) = some w.state.ptr

/-- The writes of the recording section of Go `probe`. -/
def record (r : Router ρ) (route : Route) (healthy : Bool) (clock : Int) : Router ρ :=
  match r.health.lookup (healthKey route) with
  | none => r
  | some state =>
    { r with
      health := r.health.insert (healthKey route)
        { state with
          healthy := healthy
          checkedAt := some clock
          next := route.health.map fun check => clock + check.intervalSeconds * 1000000000 } }

/-- The first locked section of Go `RunHealth`, when no other call is running. -/
def startHealth (ord : RangeOrder (GoString × List Route)) (ctx : Nat) (r : Router ρ) : Router ρ :=
  { r with healthRunning := true, healthParent := .process ctx }.resetHealthLocked ord

/-- The deferred section of Go `RunHealth`. -/
def stopHealth (r : Router ρ) : Router ρ :=
  { r with
    cancelled :=
      match r.healthContext with
      | none => r.cancelled
      | some context => context.id :: r.cancelled
    health := r.health.mapValues fun _ state => { state with healthy := false }
    healthRunning := false }

end Router

namespace HealthRun
variable {ρ : Type}

/-- Replace one `RunHealth` call. -/
def setRunner (s : HealthRun ρ) (caller : Nat) (runner : Option Runner) : HealthRun ρ :=
  { s with runners := Function.update s.runners caller runner }

variable [Regexp ρ]

/-- One step of the router's goroutines. -/
inductive Step : HealthRun ρ → HealthEvent → HealthRun ρ → Prop where
  | update {s} (ord : RangeOrder (GoString × List Route)) (routes : List Route) :
    Step s (.updated routes) { s with router := s.router.update ord routes }
  | resolve {s} (hostname path : GoString) :
    Step s (.resolved hostname path) { s with router := (s.router.resolve hostname path).2 }
  | start {s} (ord : RangeOrder (GoString × List Route)) (caller ctx : Nat) :
    s.runners caller = none →
    s.router.healthRunning = false →
    Step s (.started caller)
      ({ s with router := s.router.startHealth ord ctx }.setRunner caller
        (some { ctx := ctx, phase := .waiting, workers := [] }))
  | ignore {s} (caller : Nat) :
    -- a second RunHealth call returns at once
    s.runners caller = none →
    s.router.healthRunning = true →
    Step s (.ignored caller) s
  | end {s} (ctx : Nat) :
    Step s (.ended ctx) { s with ended := Function.update s.ended ctx true }
  | sweep {s} (ord : RangeOrder (GoString × HealthState)) (caller ctx : Nat)
      (generation : HealthContext) (woken : Bool) :
    -- the loop turns on a wake-up, which empties the channel, or on a tick of the ticker
    s.runners caller = some { ctx := ctx, phase := .waiting, workers := [] } →
    (woken = true → s.router.healthWake = true) →
    s.router.healthContext = some generation →
    Step s (.swept caller)
      ({ s with router := { s.router with healthWake := s.router.healthWake && !woken } }.setRunner
        caller (some {
          ctx := ctx
          phase := .sweeping generation (dueJobs ord s.clock s.router.health)
          workers := [] }))
  | launch {s} (caller ctx : Nat) (generation : HealthContext) (state : HealthState)
      (jobs : List HealthState) (workers : List Worker) :
    s.runners caller = some { ctx, phase := .sweeping generation (state :: jobs), workers } →
    workers.length < 4 →
    Step s (.launched caller s.nextProbe)
      ({ s with nextProbe := s.nextProbe + 1 }.setRunner caller (some {
        ctx := ctx
        phase := .checking generation jobs
        workers := { id := s.nextProbe, generation, state, phase := .spawned } :: workers }))
  | skip {s} (caller ctx : Nat) (generation : HealthContext) (state : HealthState)
      (jobs : List HealthState) (workers : List Worker) :
    s.runners caller = some { ctx, phase := .sweeping generation (state :: jobs), workers } →
    generation.err s.router.cancelled s.ended = true →
    Step s (.skipped caller)
      (s.setRunner caller (some { ctx, phase := .checking generation jobs, workers }))
  | check {s} (caller ctx : Nat) (generation : HealthContext) (jobs : List HealthState)
      (workers : List Worker) :
    s.runners caller = some { ctx, phase := .checking generation jobs, workers } →
    Step s (.checked caller)
      (s.setRunner caller (some {
        ctx
        phase := if generation.err s.router.cancelled s.ended then .joining
          else .sweeping generation jobs
        workers }))
  | exhaust {s} (caller ctx : Nat) (generation : HealthContext) (workers : List Worker) :
    s.runners caller = some { ctx, phase := .sweeping generation [], workers } →
    Step s (.checked caller) (s.setRunner caller (some { ctx, phase := .joining, workers }))
  | join {s} (caller ctx : Nat) :
    s.runners caller = some { ctx, phase := .joining, workers := [] } →
    Step s (.joined caller) (s.setRunner caller (some { ctx, phase := .waiting, workers := [] }))
  | begin {s} (caller ctx : Nat) (phase : RunnerPhase) (before after : List Worker) (w : Worker) :
    s.runners caller = some { ctx, phase, workers := before ++ w :: after } →
    w.phase = .spawned →
    w.generation.err s.router.cancelled s.ended = false →
    Step s (.began w.id w.state.route)
      (s.setRunner caller (some {
        ctx, phase, workers := before ++ { w with phase := .requesting } :: after }))
  | drop {s} (caller ctx : Nat) (phase : RunnerPhase) (before after : List Worker) (w : Worker) :
    s.runners caller = some { ctx, phase, workers := before ++ w :: after } →
    w.phase = .spawned →
    w.generation.err s.router.cancelled s.ended = true →
    Step s (.dropped w.id)
      (s.setRunner caller (some { ctx, phase, workers := before ++ after }))
  | answer {s} (caller ctx : Nat) (phase : RunnerPhase) (before after : List Worker) (w : Worker)
      (status : Option Nat) (expired : Bool) :
    -- a target that cannot be requested, an error and a timeout are answers without a status
    s.runners caller = some { ctx, phase, workers := before ++ w :: after } →
    w.phase = .requesting →
    Step s (.answered w.id status)
      (s.setRunner caller (some {
        ctx, phase
        workers := before ++ { w with phase := .answered status (success status && !expired &&
          !w.generation.err s.router.cancelled s.ended) } :: after }))
  | record {s} (caller ctx : Nat) (phase : RunnerPhase) (before after : List Worker) (w : Worker)
      (status : Option Nat) (healthy : Bool) :
    s.runners caller = some { ctx, phase, workers := before ++ w :: after } →
    w.phase = .answered status healthy →
    s.router.accepts s.ended w = true →
    Step s (.recorded w.id w.state.route status healthy)
      ({ s with router := s.router.record w.state.route healthy s.clock }.setRunner caller
        (some { ctx, phase, workers := before ++ after }))
  | discard {s} (caller ctx : Nat) (phase : RunnerPhase) (before after : List Worker) (w : Worker)
      (status : Option Nat) (healthy : Bool) :
    s.runners caller = some { ctx, phase, workers := before ++ w :: after } →
    w.phase = .answered status healthy →
    s.router.accepts s.ended w = false →
    Step s (.discarded w.id)
      (s.setRunner caller (some { ctx, phase, workers := before ++ after }))
  | return {s} (caller ctx : Nat) :
    s.runners caller = some { ctx := ctx, phase := .waiting, workers := [] } →
    s.ended ctx = true →
    Step s (.returned caller) ({ s with router := s.router.stopHealth }.setRunner caller none)
  | tick {s} (clock : Int) :
    s.clock ≤ clock →
    Step s (.ticked clock) { s with clock }

/-- The state before any call. -/
def initial : HealthRun ρ where
  router := .new
  runners _ := none
  ended _ := false
  clock := 0
  nextProbe := 0

/-- The system of all interleavings. -/
def system (ρ : Type) [Regexp ρ] : System (HealthRun ρ) HealthEvent where
  init s := s = initial
  step := Step

end HealthRun
end Pintle
