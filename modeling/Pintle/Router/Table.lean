import Pintle.Provider
import Pintle.Lib.StableSort

/-!
# The routing table

Model of `internal/router/router.go` up to `Update`, and of `resetHealthLocked` of
`internal/router/health.go`, which `Update` calls. The `regexp` package is a parameter (`Regexp`).
Log lines are left out here, and with them the two key sets `Update` builds only to log changes
(`Router.Changes` has them).

A `*healthState` is a `HealthState` with the address it was allocated at (`ptr`): the map holds the
current record, and a probe compares addresses. A health context is a `HealthContext`; which of them
were cancelled is part of the router, since `healthCancel` is a router field.
-/

namespace Pintle
open Go Lib

/-- The `regexp` package: Go `regexp.Compile` and `Regexp.MatchString`. -/
class Regexp (ρ : Type) where
  compile : GoString → Option ρ
  matchString : ρ → GoString → Bool

/-- The engine without a single valid pattern, for tables of exact hostnames. -/
instance : Regexp Empty where
  compile _ := none
  matchString re _ := nomatch re

/-- Go `ResolveResult`. -/
structure ResolveResult where
  unavailable : Bool := false
  target : GoString
  rewrittenPath : GoString
  route : Route
  deriving DecidableEq, Repr

/-- A compiled HostRegexp pattern and the routes that share it (Go `regexRoute`). -/
structure RegexRoute (ρ : Type) where
  re : ρ
  routes : List Route

/-- The parent of a health context: the background context or the context of a `RunHealth` caller.
-/
inductive ParentContext where
  | background
  | process (ctx : Nat)
  deriving DecidableEq, Repr

/-- A context made by `context.WithCancel(r.healthParent)`. -/
structure HealthContext where
  id : Nat
  parent : ParentContext
  deriving DecidableEq, Repr

/-- Go `healthState`, at the address `ptr`. A zero `time.Time` is `none`; times are nanoseconds. -/
structure HealthState where
  ptr : Nat
  route : Route
  healthy : Bool := false
  next : Option Int := none
  checkedAt : Option Int := none
  deriving DecidableEq, Repr

/-- Go `Router`, without its mutex. `cancelled`, `nextContext` and `nextPtr` stand for the runtime:
the contexts cancelled through `healthCancel` and the next fresh context and address. -/
structure Router (ρ : Type) where
  routes : GoMap GoString (List Route)
  regexRoutes : List (RegexRoute ρ)
  pools : GoMap GoString UInt64
  health : GoMap GoString HealthState
  healthContext : Option HealthContext
  healthParent : ParentContext
  healthRunning : Bool
  healthGeneration : UInt64
  healthWake : Bool
  cancelled : List Nat
  nextContext : Nat
  nextPtr : Nat

namespace Router
variable {ρ : Type}

/-- Go `New`. -/
def new : Router ρ where
  routes := ∅
  regexRoutes := []
  pools := ∅
  health := ∅
  healthContext := none
  healthParent := .background
  healthRunning := false
  healthGeneration := 0
  healthWake := false
  cancelled := []
  nextContext := 0
  nextPtr := 0

/-- Go `flattenLocked`: every route, the exact ones in the order the map is visited. -/
def flattenLocked (ord : RangeOrder (GoString × List Route)) (r : Router ρ) : List Route :=
  (ord.visit r.routes.pairs).flatMap (·.2) ++ r.regexRoutes.flatMap (·.routes)

/-- Go `GetAllRoutes`. -/
def getAllRoutes (ord : RangeOrder (GoString × List Route)) (r : Router ρ) : List Route :=
  r.flattenLocked ord

/-- Go `HasHost`. -/
def hasHost [Regexp ρ] (r : Router ρ) (hostname : GoString) : Bool :=
  ((r.routes.lookup hostname).getD []).length > 0
    || r.regexRoutes.any fun rr => Regexp.matchString rr.re hostname

end Router

/-- The separator of composite keys (Go `"\x00"`). -/
def nul : GoString := [0]

/-- Go `healthKey`. -/
def healthKey (route : Route) : GoString :=
  route.hostname ++ nul ++ route.backendPool ++ nul ++ route.path ++ nul ++ route.target

/-- The key of a pool counter (Go `route.Hostname+"\x00"+route.BackendPool`). -/
def poolKey (route : Route) : GoString := route.hostname ++ nul ++ route.backendPool

/-- The two tables while `Update` fills them (Go `next`, `nextRegex` and `regexIndex`). -/
structure Tables (ρ : Type) where
  next : GoMap GoString (List Route) := ∅
  nextRegex : List (RegexRoute ρ) := []
  regexIndex : GoMap GoString Nat := ∅

/-- Append a route to a pattern's group. -/
def RegexRoute.add {ρ : Type} (route : Route) (rr : RegexRoute ρ) : RegexRoute ρ :=
  { rr with routes := rr.routes ++ [route] }

namespace Tables
variable {ρ : Type} [Regexp ρ]

/-- One iteration of the first loop of Go `Update`. -/
def place (t : Tables ρ) (route : Route) : Tables ρ :=
  if route.isRegexp then
    match t.regexIndex.lookup route.hostname with
    | some idx => { t with nextRegex := t.nextRegex.modify idx (·.add route) }
    | none =>
      match Regexp.compile route.hostname with
      | none => t -- logged, and the route is skipped
      | some compiled =>
        { t with
          nextRegex := t.nextRegex ++ [{ re := compiled, routes := [route] }]
          regexIndex := t.regexIndex.insert route.hostname t.nextRegex.length }
  else
    { t with
      next := t.next.insert route.hostname ((t.next.lookup route.hostname).getD [] ++ [route]) }

/-- The first loop of Go `Update`. -/
def build (routes : List Route) : Tables ρ := routes.foldl place {}

end Tables

/-- Sort by path specificity (Go `byPathDesc`). -/
def byPathDesc (routes : List Route) : List Route := sortDesc (·.path.length) routes

/-- The counters of the pools declared by a list of routes, all fresh. -/
def freshPools (routes : List Route) : GoMap GoString UInt64 :=
  routes.foldl (fun pools route =>
    if route.backendPool ≠ [] then pools.insert (poolKey route) 0 else pools) ∅

/-- Whether `resetHealthLocked` registers a route for probing. -/
def Route.registered (route : Route) : Bool :=
  route.health.isSome && route.backendPool ≠ [] && route.source = lit "static"

/-- Register the members of a flattened table, one fresh record each. A key met twice keeps the
later record, as the map assignment of the source does. -/
def registerHealth (routes : List Route) (ptr : Nat) : GoMap GoString HealthState × Nat :=
  routes.foldl (fun acc route =>
    if route.registered then
      (acc.1.insert (healthKey route) { ptr := acc.2, route := route }, acc.2 + 1)
    else acc) (∅, ptr)

namespace Router
variable {ρ : Type}

/-- Go `resetHealthLocked`: a new generation with a new context and no probe results. -/
def resetHealthLocked (ord : RangeOrder (GoString × List Route)) (r : Router ρ) : Router ρ :=
  let registration := registerHealth (r.flattenLocked ord) r.nextPtr
  { r with
    healthGeneration := r.healthGeneration + 1
    cancelled :=
      match r.healthContext with
      | none => r.cancelled
      | some old => old.id :: r.cancelled
    healthContext := some { id := r.nextContext, parent := r.healthParent }
    nextContext := r.nextContext + 1
    health := registration.1
    nextPtr := registration.2
    healthWake := true }

/-- The maps and lists `Update` installs before it resets the health records. -/
def install [Regexp ρ] (routes : List Route) (r : Router ρ) : Router ρ :=
  let tables : Tables ρ := Tables.build routes
  { r with
    routes := tables.next.mapValues fun _ hostRoutes => byPathDesc hostRoutes
    regexRoutes := tables.nextRegex.map fun rr => { rr with routes := byPathDesc rr.routes }
    pools := freshPools routes }

/-- Go `Update`. The copy of each route's `Health` is the value itself here. -/
def update [Regexp ρ] (ord : RangeOrder (GoString × List Route)) (routes : List Route)
    (r : Router ρ) : Router ρ :=
  (r.install routes).resetHealthLocked ord

end Router
end Pintle
