import Pintle.Router.Probing

/-!
# Fences of a health run

`Update`, the start of `RunHealth` and its return are the fences of a run: each invalidates every
earlier probe. The statements about the most recent probe since the last fence (`Backed`) are about
the labels of the run alone. The lemmas say how they change with one more event, and what the
operations of the router leave alone.
-/

namespace Pintle
open Go Lib

/-- The steps that invalidate every earlier probe. -/
def HealthEvent.isFence : HealthEvent → Bool
  | .updated _ => true
  | .started _ => true
  | .returned _ => true
  | _ => false

/-- The part of a history since the last fence, newest first. -/
def sinceFence (h : List HealthEvent) : List HealthEvent := h.takeWhile fun e => !e.isFence

/-- The list given to the last `Update`. -/
def installedRoutes : List HealthEvent → List Route
  | [] => []
  | .updated routes :: _ => routes
  | _ :: h => installedRoutes h

/-- Whether an event records a probe under a health key. -/
def HealthEvent.recordsKey (key : GoString) : HealthEvent → Bool
  | .recorded _ route _ _ => healthKey route = key
  | _ => false

/-- Two routes name the same member. -/
def Route.sameMember (a b : Route) : Bool :=
  a.hostname = b.hostname && a.backendPool = b.backendPool && a.path = b.path && a.target = b.target

/-- Whether an event records a probe of a member. -/
def HealthEvent.recordsMember (member : Route) : HealthEvent → Bool
  | .recorded _ route _ _ => route.sameMember member
  | _ => false

/-- A route given to the last `Update` that is registered for probing. -/
def Listed (h : List HealthEvent) (route : Route) : Prop :=
  route ∈ installedRoutes h ∧ route.registered = true

/-- A probe of a listed route that was launched and began since the last fence and was answered with
`status`. -/
structure Probed (h : List HealthEvent) (probe : Nat) (route : Route) (status : Option Nat) :
    Prop where
  listed : Listed h route
  launched : ∃ caller, .launched caller probe ∈ sinceFence h
  began : .began probe route ∈ sinceFence h
  answered : .answered probe status ∈ sinceFence h

/-- The most recent probe recorded under a key since the last fence succeeded. -/
structure Backed (h : List HealthEvent) (key : GoString) (probe : Nat) (route : Route)
    (status : Nat) : Prop where
  latest : (sinceFence h).find? (·.recordsKey key) = some (.recorded probe route (some status) true)
  success : 200 ≤ status ∧ status < 300
  probed : Probed h probe route (some status)

/-- The most recent probe recorded for a member since the last fence succeeded. -/
def MemberBacked (h : List HealthEvent) (member : Route) : Prop :=
  ∃ probe route status,
    (sinceFence h).find? (·.recordsMember member) =
      some (.recorded probe route (some status) true) ∧
    (200 ≤ status ∧ status < 300) ∧ Probed h probe route (some status)

lemma sinceFence_cons {e : HealthEvent} {h : List HealthEvent} (quiet : e.isFence = false) :
    sinceFence (e :: h) = e :: sinceFence h := by
  simp [sinceFence, quiet]

lemma installedRoutes_of_ne {e : HealthEvent} {h : List HealthEvent}
    (other : ∀ routes, e ≠ .updated routes) : installedRoutes (e :: h) = installedRoutes h := by
  cases e with
  | updated routes => exact absurd rfl (other routes)
  | _ => rfl

lemma installedRoutes_cons {e : HealthEvent} {h : List HealthEvent} (quiet : e.isFence = false) :
    installedRoutes (e :: h) = installedRoutes h := by
  apply installedRoutes_of_ne
  rintro routes rfl
  cases quiet

lemma Listed.weaken {h : List HealthEvent} {route : Route} {e : HealthEvent}
    (listed : Listed h route) (quiet : e.isFence = false) : Listed (e :: h) route := by
  rw [Listed, installedRoutes_cons quiet]
  exact listed

lemma Probed.weaken {h : List HealthEvent} {probe : Nat} {route : Route} {status : Option Nat}
    {e : HealthEvent} (probed : Probed h probe route status) (quiet : e.isFence = false) :
    Probed (e :: h) probe route status := by
  obtain ⟨listed, ⟨caller, launched⟩, began, answered⟩ := probed
  refine ⟨listed.weaken quiet, ⟨caller, ?_⟩, ?_, ?_⟩ <;> rw [sinceFence_cons quiet]
  · exact List.mem_cons_of_mem e launched
  · exact List.mem_cons_of_mem e began
  · exact List.mem_cons_of_mem e answered

lemma Backed.weaken {h : List HealthEvent} {key : GoString} {probe : Nat} {route : Route}
    {status : Nat} {e : HealthEvent} (backed : Backed h key probe route status)
    (quiet : e.isFence = false) (other : e.recordsKey key = false) :
    Backed (e :: h) key probe route status := by
  refine ⟨?_, backed.success, backed.probed.weaken quiet⟩
  rw [sinceFence_cons quiet, List.find?_cons, other]
  exact backed.latest

lemma sameMember_healthKey {a b : Route} (same : a.sameMember b = true) :
    healthKey a = healthKey b := by
  simp only [Route.sameMember, Bool.and_eq_true, decide_eq_true_eq] at same
  obtain ⟨⟨⟨hostname, pool⟩, path⟩, target⟩ := same
  simp [healthKey, hostname, pool, path, target]

/-- No other checked route of a list has the health key of a member. -/
def OwnKey (routes : List Route) (member : Route) : Prop :=
  ∀ route ∈ routes, route.registered = true → healthKey route = healthKey member →
    route.sameMember member = true

/-- A route whose hostname, pool and path have no NUL. -/
def Route.nulFree (route : Route) : Prop :=
  (0 : UInt8) ∉ route.hostname ∧ (0 : UInt8) ∉ route.backendPool ∧ (0 : UInt8) ∉ route.path

/-- The separator is unambiguous between routes without a NUL. -/
lemma healthKey_inj {a b : Route} (free : a.nulFree) (free' : b.nulFree)
    (same : healthKey a = healthKey b) : a.sameMember b = true := by
  simp only [healthKey, nul, List.append_assoc, List.singleton_append] at same
  obtain ⟨hostname, same⟩ := append_sep_inj free.1 free'.1 same
  obtain ⟨pool, same⟩ := append_sep_inj free.2.1 free'.2.1 same
  obtain ⟨path, target⟩ := append_sep_inj free.2.2 free'.2.2 same
  simp [Route.sameMember, hostname, pool, path, target]

/-- When the latest probe recorded under a member's key is a probe of the member, it is the latest
probe recorded for the member. -/
lemma Backed.of_member {h : List HealthEvent} {member route : Route} {probe status : Nat}
    (backed : Backed h (healthKey member) probe route status)
    (same : route.sameMember member = true) :
    (sinceFence h).find? (·.recordsMember member) =
      some (.recorded probe route (some status) true) := by
  obtain ⟨_, newer, older, split, none_newer⟩ := List.find?_eq_some_iff_append.mp backed.latest
  refine List.find?_eq_some_iff_append.mpr ⟨same, newer, older, split, ?_⟩
  intro e member_newer
  have other := none_newer e member_newer
  cases e with
  | recorded _ earlier _ _ =>
    cases recorded : earlier.sameMember member with
    | false => simp [HealthEvent.recordsMember, recorded]
    | true => simp [HealthEvent.recordsKey, sameMember_healthKey recorded] at other
  | _ => rfl

namespace Router
variable {ρ : Type}

/-- A router after a `Resolve` call: as it was, or with one of its counters incremented. -/
def Advanced (r r' : Router ρ) : Prop :=
  r' = r ∨ ∃ key count, r.pools.lookup key = some count ∧ r' = r.addCounter key count

lemma matchPool_advanced (r : Router ρ) (routes : List Route) (path : GoString) :
    r.Advanced (r.matchPool routes path).2 := by
  unfold matchPool
  split
  · exact .inl rfl
  · split
    · exact .inl rfl
    · dsimp only
      split
      · exact .inl rfl
      · rename_i count counter
        split
        · exact .inl rfl
        · exact .inr ⟨_, count, counter, rfl⟩

lemma resolveRegex_advanced [Regexp ρ] (r : Router ρ) (hostname path : GoString)
    (groups : List (RegexRoute ρ)) : r.Advanced (r.resolveRegex hostname path groups).2 := by
  induction groups with
  | nil => exact .inl rfl
  | cons rr groups ih =>
    rw [resolveRegex]
    split
    · have step := r.matchPool_advanced rr.routes path
      split
      · rename_i answered
        rw [answered] at step
        exact step
      · exact ih
    · exact ih

/-- `Resolve` increments at most one counter. -/
lemma resolve_advanced [Regexp ρ] (r : Router ρ) (hostname path : GoString) :
    r.Advanced (r.resolve hostname path).2 := by
  rw [resolve]
  have step := r.matchPool_advanced ((r.routes.lookup hostname).getD []) path
  split
  · rename_i answered
    rw [answered] at step
    exact step
  · exact r.resolveRegex_advanced hostname path r.regexRoutes

/-- `Resolve` only touches counters. -/
lemma resolve_frame [Regexp ρ] (r : Router ρ) (hostname path : GoString) :
    ∃ pools, (r.resolve hostname path).2 = { r with pools } := by
  rcases r.resolve_advanced hostname path with same | ⟨key, count, _, advanced⟩
  · exact ⟨r.pools, same⟩
  · exact ⟨_, advanced⟩

/-- A recording writes one key, with the result of the probe. -/
lemma record_lookup {r : Router ρ} {route : Route} {healthy : Bool} {clock : Int} {key : GoString}
    {state : HealthState} (found : (r.record route healthy clock).health.lookup key = some state) :
    (key = healthKey route ∧ state.healthy = healthy ∧
      ∃ old, r.health.lookup key = some old ∧ state.route = old.route) ∨
    (key ≠ healthKey route ∧ r.health.lookup key = some state) := by
  unfold record at found
  cases known : r.health.lookup (healthKey route) with
  | none =>
    rw [known] at found
    right
    refine ⟨?_, found⟩
    rintro rfl
    rw [known] at found
    cases found
  | some old =>
    rw [known] at found
    by_cases same : key = healthKey route
    · subst same
      simp only [AList.lookup_insert, Option.some.injEq] at found
      subst found
      exact .inl ⟨rfl, rfl, old, known, rfl⟩
    · simp only [AList.lookup_insert_ne same] at found
      exact .inr ⟨same, found⟩

/-- A recording touches the records alone. -/
lemma record_frame (r : Router ρ) (route : Route) (healthy : Bool) (clock : Int) :
    ∃ health, r.record route healthy clock = { r with health } := by
  unfold record
  split
  · exact ⟨r.health, rfl⟩
  · exact ⟨_, rfl⟩

/-- The tables and counters that selection reads are the same. -/
structure SameTables (r r' : Router ρ) : Prop where
  routes : r'.routes = r.routes
  regexRoutes : r'.regexRoutes = r.regexRoutes
  pools : r'.pools = r.pools

end Router

namespace HealthRun
variable {ρ : Type} [Regexp ρ]

/-- Only `Update` and `Resolve` touch the tables and counters. -/
lemma step_tables {s t : HealthRun ρ} {e : HealthEvent} (st : Step s e t) :
    (∃ ord routes, e = .updated routes ∧ t.router = s.router.update ord routes) ∨
      (∃ hostname path, e = .resolved hostname path ∧
        t.router = (s.router.resolve hostname path).2) ∨
      (∀ routes, e ≠ .updated routes) ∧ s.router.SameTables t.router := by
  cases st with
  | update ord routes => exact .inl ⟨ord, routes, rfl, rfl⟩
  | resolve hostname path => exact .inr (.inl ⟨hostname, path, rfl, rfl⟩)
  | record caller ctx phase before after w status healthy _ _ _ =>
    obtain ⟨health, frame⟩ := s.router.record_frame w.state.route healthy s.clock
    refine .inr (.inr ⟨nofun, ?_⟩)
    simp only [setRunner, frame]
    exact ⟨rfl, rfl, rfl⟩
  | _ => exact .inr (.inr ⟨nofun, rfl, rfl, rfl⟩)

end HealthRun
end Pintle
