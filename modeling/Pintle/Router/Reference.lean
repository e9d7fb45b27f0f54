import Pintle.Router.Registry

/-!
# Routing against a reference search

What `Resolve` is for, stated over the list of routes last given to `Update`: `reference` searches
the list itself, with no table, no sort and no counter. `Router.resolve_reference` is the
refinement. It holds for whatever counters and health records the router has, so it holds after any
Resolve calls and probes that follow the last `Update`.
-/

namespace Pintle
open Go Lib

/-- The route with the longest path among those that match, the earliest on ties. -/
def longest (path : GoString) (routes : List Route) : Option Route :=
  (routes.filter (·.matchesPath path)).argmax (·.path.length)

/-- The reference search: exact routes first, then the patterns in order of first appearance. -/
def reference (ρ : Type) [Regexp ρ] (routes : List Route) (hostname path : GoString) : Option Route :=
  match longest path (exactRoutes hostname routes) with
  | some best => some best
  | none => (patterns ρ routes).findSome? fun pattern =>
      if patternMatches ρ pattern hostname then longest path (patternRoutes pattern routes) else none

/-- An answer settles on a route: on the route itself, or on a member of its pool. -/
structure Settles (routes : List Route) (best : Route) (res : ResolveResult) : Prop where
  single : best.backendPool = [] →
    res.route = best ∧ res.target = best.target ∧ res.unavailable = false
  listed : res.route ∈ routes
  regexp : res.route.isRegexp = best.isRegexp
  pool : best.samePool res.route = true

lemma longest_mem {path : GoString} {routes : List Route} {best : Route}
    (found : longest path routes = some best) : best ∈ routes ∧ best.matchesPath path = true := by
  have member := List.argmax_mem (Option.mem_def.mpr found)
  exact List.mem_filter.mp member

/-- The longest match of two lists, the earlier list winning ties. -/
lemma longest_append (path : GoString) (routes routes' : List Route) :
    longest path (routes ++ routes') =
      match longest path routes, longest path routes' with
      | none, best => best
      | some a, none => some a
      | some a, some b => if a.path.length < b.path.length then some b else some a := by
  rw [longest, List.filter_append, argmax_append]
  cases left : longest path routes <;> cases right : longest path routes' <;>
    rw [longest] at left right <;> rw [left, right]

/-- Scanning a sorted group finds its longest match. -/
lemma find?_byPathDesc (routes : List Route) (path : GoString) :
    (byPathDesc routes).find? (·.matchesPath path) = longest path routes :=
  find?_sortDesc _ _ _

lemma samePool_refl (route : Route) : route.samePool route = true := by
  simp [Route.samePool]

/-- The pool of a route in a sorted group is its pool in the group. -/
lemma byPathDesc_pool (routes : List Route) (matched : Route) :
    (byPathDesc routes).filter matched.samePool = routes.filter matched.samePool := by
  apply filter_sortDesc
  intro a _ b _ pool_a pool_b
  simp only [Route.samePool, Bool.and_eq_true, decide_eq_true_eq] at pool_a pool_b
  rw [pool_a.1.1.2, pool_b.1.1.2]

namespace Router
variable {ρ : Type}

/-- An outcome within a group whose routes share `IsRegexp` settles on the group's first match. -/
lemma Outcome.settles {r : Router ρ} {group routes : List Route} {path : GoString} {best : Route}
    {res : ResolveResult} (out : r.Outcome group path best res) (member : best ∈ group)
    (listed : ∀ route ∈ group, route ∈ routes)
    (alike : ∀ route ∈ group, route.isRegexp = best.isRegexp) : Settles routes best res := by
  have inside := out.route_mem member
  refine ⟨?_, listed _ inside, alike _ inside, ?_⟩
  · intro unpooled
    cases out with
    | single _ => exact ⟨rfl, rfl, rfl⟩
    | unavailable pooled _ => exact absurd unpooled pooled
    | selected pooled _ _ => exact absurd unpooled pooled
  · cases out with
    | single _ => exact samePool_refl best
    | unavailable _ _ => exact samePool_refl best
    | selected _ _ some => exact (mem_members.mp (pick_mem some)).2.1

/-- `matchPool` over one sorted group agrees with the longest match of the group. -/
lemma matchPool_longest (r : Router ρ) (group routes : List Route) (path : GoString) (regexp : Bool)
    (listed : ∀ route ∈ group, route ∈ routes ∧ route.isRegexp = regexp) :
    match longest path group with
    | none => (r.matchPool (byPathDesc group) path).1 = none
    | some best =>
      ∃ res, (r.matchPool (byPathDesc group) path).1 = some res ∧ Settles routes best res := by
  have sorted (route : Route) (member : route ∈ byPathDesc group) : route ∈ group :=
    (mem_sortDesc _).mp member
  cases found : longest path group with
  | none =>
    rw [matchPool_eq_none, find?_byPathDesc, found]
  | some best =>
    have matched := find?_byPathDesc group path
    rw [found] at matched
    obtain ⟨res, answered, out⟩ := matchPool_some (r := r) matched
    have member := (longest_mem found).1
    refine ⟨res, answered, out.settles (List.mem_of_find?_eq_some matched) ?_ ?_⟩
    · intro route inside
      exact (listed route (sorted route inside)).1
    · intro route inside
      rw [(listed route (sorted route inside)).2, (listed best member).2]

variable [Regexp ρ]

/-- The loop over the regex groups agrees with the search over their patterns. -/
lemma resolveRegex_reference (r : Router ρ) (routes : List Route) (hostname path : GoString)
    {pats : List GoString} {groups : List (RegexRoute ρ)}
    (aligned : List.Forall₂ (fun pattern rr =>
      Regexp.compile pattern = some rr.re ∧ rr.routes = byPathDesc (patternRoutes pattern routes))
      pats groups) :
    match pats.findSome? fun pattern =>
      if patternMatches ρ pattern hostname then longest path (patternRoutes pattern routes) else none
    with
    | none => (r.resolveRegex hostname path groups).1 = none
    | some best =>
      ∃ res, (r.resolveRegex hostname path groups).1 = some res ∧ Settles routes best res := by
  induction aligned with
  | nil => rfl
  | @cons pattern rr pats groups head _ ih =>
    obtain ⟨compiled, sorted⟩ := head
    have matches_eq : patternMatches ρ pattern hostname = Regexp.matchString rr.re hostname := by
      rw [patternMatches, compiled]
    rw [List.findSome?_cons, matches_eq, resolveRegex, sorted]
    cases Regexp.matchString rr.re hostname with
    | false => exact ih
    | true =>
      have step := r.matchPool_longest (patternRoutes pattern routes) routes path true
        (by simp +contextual [patternRoutes])
      simp only [if_true]
      cases found : longest path (patternRoutes pattern routes) with
      | none =>
        rw [found] at step
        have passed : r.matchPool (byPathDesc (patternRoutes pattern routes)) path = (none, r) :=
          matchPool_none (matchPool_eq_none.mp step)
        rw [passed]
        exact ih
      | some best =>
        rw [found] at step
        obtain ⟨res, answered, settled⟩ := step
        refine ⟨res, ?_, settled⟩
        generalize r.matchPool (byPathDesc (patternRoutes pattern routes)) path = answer at answered
        obtain ⟨first, _⟩ := answer
        cases answered
        rfl

/-- A router resolves as the reference search over its installed routes does. -/
lemma Installed.resolve_settles {r : Router ρ} {routes : List Route} (inst : r.Installed routes)
    (hostname path : GoString) :
    match reference ρ routes hostname path with
    | none => (r.resolve hostname path).1 = none
    | some best => ∃ res, (r.resolve hostname path).1 = some res ∧ Settles routes best res := by
  have step := r.matchPool_longest (exactRoutes hostname routes) routes path false
    (by simp +contextual [exactRoutes])
  rw [reference, resolve, inst.exact]
  cases found : longest path (exactRoutes hostname routes) with
  | none =>
    rw [found] at step
    have passed : r.matchPool (byPathDesc (exactRoutes hostname routes)) path = (none, r) :=
      matchPool_none (matchPool_eq_none.mp step)
    rw [passed]
    exact resolveRegex_reference r routes hostname path inst.regex
  | some best =>
    rw [found] at step
    obtain ⟨res, answered, settled⟩ := step
    refine ⟨res, ?_, settled⟩
    generalize r.matchPool (byPathDesc (exactRoutes hostname routes)) path = answer at answered
    obtain ⟨first, _⟩ := answer
    cases answered
    rfl

/-- The groups of the regex table are determined by the patterns and their routes. -/
lemma regex_unique {pats : List GoString} {routes routes' : List Route}
    {groups groups' : List (RegexRoute ρ)}
    (left : List.Forall₂ (fun pattern rr =>
      Regexp.compile pattern = some rr.re ∧ rr.routes = byPathDesc (patternRoutes pattern routes))
      pats groups)
    (right : List.Forall₂ (fun pattern rr =>
      Regexp.compile pattern = some rr.re ∧ rr.routes = byPathDesc (patternRoutes pattern routes'))
      pats groups')
    (same : ∀ pattern, patternRoutes pattern routes = patternRoutes pattern routes') :
    groups = groups' := by
  induction left generalizing groups' with
  | nil =>
    cases right
    rfl
  | @cons pattern rr _ _ head _ ih =>
    cases right with
    | @cons _ rr' _ _ head' tail' =>
      have re : rr.re = rr'.re := Option.some.inj (head.1.symm.trans head'.1)
      have group : rr.routes = rr'.routes := by rw [head.2, head'.2, same pattern]
      rw [ih tail', show rr = rr' from by cases rr; cases rr'; cases re; cases group; rfl]

/-- Two routers with the tables of one list hold the same groups. -/
lemma Installed.same_groups {r r' : Router ρ} {routes : List Route} (inst : r.Installed routes)
    (inst' : r'.Installed routes) :
    (∀ hostname, (r.routes.lookup hostname).getD [] = (r'.routes.lookup hostname).getD []) ∧
      r.regexRoutes = r'.regexRoutes := by
  refine ⟨?_, regex_unique inst.regex inst'.regex fun _ => rfl⟩
  intro hostname
  rw [inst.exact, inst'.exact]

/-- Routers that agree on the marks and on the counters of the groups answer alike from them. -/
lemma resolveRegex_congr {r r' : Router ρ} (marks : r.SameMarks r') {groups : List (RegexRoute ρ)}
    (counters : ∀ rr ∈ groups, ∀ route ∈ rr.routes, route.backendPool ≠ [] →
      r.pools.lookup (poolKey route) = r'.pools.lookup (poolKey route)) (hostname path : GoString) :
    (r.resolveRegex hostname path groups).1 = (r'.resolveRegex hostname path groups).1 := by
  induction groups with
  | nil => rfl
  | cons rr groups ih =>
    have rest := ih fun rr' member => counters rr' (List.mem_cons_of_mem rr member)
    have group_step := matchPool_congr rr.routes marks (counters rr List.mem_cons_self) path
    rw [resolveRegex, resolveRegex]
    split
    · generalize r.matchPool rr.routes path = answer at group_step
      generalize r'.matchPool rr.routes path = answer' at group_step
      obtain ⟨first, _⟩ := answer
      obtain ⟨first', _⟩ := answer'
      cases group_step
      cases first <;> simp [rest]
    · exact rest

/-- The answer of a hostname's routes, or else of the regex groups. -/
lemma resolve_eq_or (r : Router ρ) (hostname path : GoString) :
    (r.resolve hostname path).1 =
      (r.matchPool ((r.routes.lookup hostname).getD []) path).1.or
        (r.resolveRegex hostname path r.regexRoutes).1 := by
  rw [resolve]
  generalize r.matchPool ((r.routes.lookup hostname).getD []) path = answer
  obtain ⟨first, _⟩ := answer
  cases first <;> rfl

/-- Routers with the tables of one list, equal marks and equal counters answer every request alike.
-/
lemma Installed.resolve_congr {r r' : Router ρ} {routes : List Route} (inst : r.Installed routes)
    (inst' : r'.Installed routes) (marks : r.SameMarks r')
    (counters : ∀ route ∈ routes, (route.isRegexp = true → compiles ρ route.hostname = true) →
      route.backendPool ≠ [] → r.pools.lookup (poolKey route) = r'.pools.lookup (poolKey route))
    (hostname path : GoString) :
    (r.resolve hostname path).1 = (r'.resolve hostname path).1 := by
  obtain ⟨exact_same, regex_same⟩ := inst.same_groups inst'
  have flat (route : Route) (member : route ∈ r.flattenLocked .stored) :
      route.backendPool ≠ [] → r.pools.lookup (poolKey route) = r'.pools.lookup (poolKey route) := by
    obtain ⟨listed, valid⟩ := (mem_flattenLocked inst .stored route).mp member
    exact counters route listed valid
  rw [resolve_eq_or, resolve_eq_or]
  congr 1
  · rw [← exact_same hostname]
    refine matchPool_congr _ marks ?_ path
    intro route member
    cases stored : r.routes.lookup hostname with
    | none => simp [stored] at member
    | some group =>
      rw [stored] at member
      apply flat
      rw [flattenLocked, List.mem_append, List.mem_flatMap]
      exact .inl ⟨(hostname, group), GoMap.mem_pairs.mpr stored, member⟩
  · rw [← regex_same]
    refine resolveRegex_congr marks ?_ hostname path
    intro rr inside route member
    apply flat
    rw [flattenLocked, List.mem_append]
    exact .inr (List.mem_flatMap.mpr ⟨rr, inside, member⟩)

end Router

section
variable (ρ : Type) [Regexp ρ]

/-- The routes whose pattern, if they have one, compiles. -/
def validRoutes (routes : List Route) : List Route :=
  routes.filter fun route => !route.isRegexp || compiles ρ route.hostname

lemma exactRoutes_valid (hostname : GoString) (routes : List Route) :
    exactRoutes hostname (validRoutes ρ routes) = exactRoutes hostname routes := by
  rw [exactRoutes, validRoutes, List.filter_filter]
  apply List.filter_congr
  intro route _
  cases route.isRegexp <;> simp

lemma patterns_valid (routes : List Route) : patterns ρ (validRoutes ρ routes) = patterns ρ routes := by
  rw [patterns, validRoutes, List.filter_filter]
  congr 2
  apply List.filter_congr
  intro route _
  cases route.isRegexp <;> simp

lemma patternRoutes_valid {pattern : GoString} (valid : compiles ρ pattern = true)
    (routes : List Route) :
    patternRoutes pattern (validRoutes ρ routes) = patternRoutes pattern routes := by
  rw [patternRoutes, validRoutes, List.filter_filter]
  apply List.filter_congr
  intro route _
  by_cases same : route.hostname = pattern
  · simp [same, valid]
  · simp [same]

end

namespace Router
variable {ρ : Type} [Regexp ρ]

/-- The tables of a list are those of its valid routes. -/
lemma Installed.of_valid {r : Router ρ} {routes : List Route}
    (inst : r.Installed (validRoutes ρ routes)) : r.Installed routes := by
  refine ⟨?_, inst.nonempty, ?_⟩
  · intro hostname
    rw [inst.exact, exactRoutes_valid]
  · have aligned := inst.regex
    rw [patterns_valid] at aligned
    refine aligned.imp ?_
    intro pattern rr entry
    obtain ⟨compiled, group⟩ := entry
    refine ⟨compiled, ?_⟩
    rw [group, patternRoutes_valid ρ (by simp [compiles, compiled])]

/-- The router after a sequence of `Update` calls, each with the order in which the runtime visits
the exact table when it registers the health records. -/
def updates (calls : List (RangeOrder (GoString × List Route) × List Route)) (r : Router ρ) :
    Router ρ :=
  calls.foldl (fun r call => r.update call.1 call.2) r

/-- Lists with the same health checks leave records under the same keys. -/
lemma update_keys {routes routes' : List Route}
    (same : ∀ key, Checked (ρ := ρ) routes key ↔ Checked (ρ := ρ) routes' key)
    (ord ord' : RangeOrder (GoString × List Route)) (r r' : Router ρ) (key : GoString) :
    ((r.update ord routes).health.lookup key).isSome = true ↔
      ((r'.update ord' routes').health.lookup key).isSome = true := by
  rw [update, update, reset_isSome (install_installed r routes),
    reset_isSome (install_installed r' routes'), same]

lemma fresh_marks {r r' : Router ρ} {routes routes' : List Route} {ord ord'}
    (same : ∀ key, Checked (ρ := ρ) routes key ↔ Checked (ρ := ρ) routes' key) :
    (r.update ord routes).SameMarks (r'.update ord' routes') := by
  intro key
  have known := update_keys same ord ord' r r' key
  cases found : (r.update ord routes).health.lookup key with
  | none =>
    rw [found] at known
    cases found' : (r'.update ord' routes').health.lookup key with
    | none => rfl
    | some _ => simp [found'] at known
  | some state =>
    rw [found] at known
    obtain ⟨state', found'⟩ := Option.isSome_iff_exists.mp (known.mp rfl)
    have unmarked : state.healthy = false := (registerHealth_lookup found).1
    have unmarked' : state'.healthy = false := (registerHealth_lookup found').1
    simp [found', unmarked, unmarked']

/-- Right after `Update` the routes with an invalid pattern have no part in any answer. -/
lemma update_valid (r r' : Router ρ) (ord ord' : RangeOrder (GoString × List Route))
    (routes : List Route) (hostname path : GoString) :
    ((r.update ord routes).resolve hostname path).1 =
      ((r'.update ord' (validRoutes ρ routes)).resolve hostname path).1 := by
  apply (update_installed ord routes r).resolve_congr (update_installed ord' _ r').of_valid
  · apply fresh_marks
    intro key
    constructor
    · intro checked
      obtain ⟨route, member, valid, rest⟩ := checked
      refine ⟨route, List.mem_filter.mpr ⟨member, ?_⟩, valid, rest⟩
      cases regexp : route.isRegexp <;> simp [*]
    · intro checked
      obtain ⟨route, member, valid, rest⟩ := checked
      exact ⟨route, (List.mem_filter.mp member).1, valid, rest⟩
  · intro route member valid pooled
    have kept : route ∈ validRoutes ρ routes := by
      refine List.mem_filter.mpr ⟨member, ?_⟩
      cases regexp : route.isRegexp <;> simp [*]
    have counter := (freshPools_lookup routes (poolKey route) 0).mpr ⟨rfl, route, member, pooled, rfl⟩
    have counter' := (freshPools_lookup (validRoutes ρ routes) (poolKey route) 0).mpr
      ⟨rfl, route, kept, pooled, rfl⟩
    exact counter.trans counter'.symm

/-- Routing correctness: after any sequence of `Update` calls that ends in `Update(routes)`, and
with whatever counters and health records the router has come to hold, `Resolve` answers nothing
exactly when the reference search over `routes` finds nothing, and otherwise settles on the route
the search finds. Routes with a pattern that does not compile change no answer, neither right after
`Update` nor with any later counters and records. -/
theorem resolve_reference
    (calls : List (RangeOrder (GoString × List Route) × List Route))
    (ord ord' : RangeOrder (GoString × List Route)) (routes : List Route)
    (pools : GoMap GoString UInt64) (health : GoMap GoString HealthState)
    (hostname path : GoString) :
    let r : Router ρ := updates (calls ++ [(ord, routes)]) new
    let r' : Router ρ := updates (calls ++ [(ord', validRoutes ρ routes)]) new
    (match reference ρ routes hostname path with
      | none => ({ r with pools, health }.resolve hostname path).1 = none
      | some best => ∃ res, ({ r with pools, health }.resolve hostname path).1 = some res ∧
          Settles routes best res) ∧
      (r.resolve hostname path).1 = (r'.resolve hostname path).1 ∧
      ({ r with pools, health }.resolve hostname path).1 =
        ({ r' with pools, health }.resolve hostname path).1 := by
  intro r r'
  have last : r = (updates calls new).update ord routes := List.foldl_concat ..
  have last' : r' = (updates calls new).update ord' (validRoutes ρ routes) := List.foldl_concat ..
  have inst : r.Installed routes := last ▸ update_installed ord routes _
  have inst' : r'.Installed routes := (last' ▸ update_installed ord' _ _ :
    r'.Installed (validRoutes ρ routes)).of_valid
  have held : ({ r with pools, health } : Router ρ).Installed routes := inst.of_tables rfl rfl
  have held' : ({ r' with pools, health } : Router ρ).Installed routes := inst'.of_tables rfl rfl
  refine ⟨held.resolve_settles hostname path, ?_, ?_⟩
  · rw [last, last']
    exact update_valid _ _ ord ord' routes hostname path
  · exact held.resolve_congr held' (fun _ => rfl) (fun _ _ _ _ => rfl) hostname path

end Router
end Pintle
