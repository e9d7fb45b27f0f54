import Pintle.Router.Fenced
import Pintle.Router.Reference

/-!
# When a request is refused

`Resolve` answers a pool with `Unavailable` in two cases of the source: the pool's counter is
missing, or no member may be selected. The first never happens: along every run each pool of the last
`Update` has a counter (`run_counters`). So a request is refused exactly when every route of its pool
is checked and not marked healthy (`resolve_refused`). An answer is traced to the group of routes it
was selected from (`Installed.resolve_outcome`), of which the table holds all.
-/

namespace Pintle
open Go Lib

/-- A route of the same pool: the conditions of `matchPool`, and the table the route is in. -/
def Route.inPool (matched route : Route) : Bool :=
  route.isRegexp = matched.isRegexp && matched.samePool route

/-- The routes that share a route's table and hostname, in input order. -/
def groupRoutes (routes : List Route) (best : Route) : List Route :=
  routes.filter fun route => route.isRegexp = best.isRegexp && route.hostname = best.hostname

/-- Whether a route's health record is marked healthy. -/
def Router.marked {ρ : Type} (r : Router ρ) (route : Route) : Bool :=
  match r.health.lookup (healthKey route) with
  | none => false
  | some state => state.healthy

lemma samePool_eq {a b : Route} (same : a.samePool b = true) :
    b.hostname = a.hostname ∧ b.backendPool = a.backendPool ∧ b.path = a.path ∧
      b.stripPath = a.stripPath ∧ b.h2c = a.h2c := by
  simp only [Route.samePool, Bool.and_eq_true, decide_eq_true_eq] at same
  obtain ⟨⟨⟨⟨hostname, pool⟩, path⟩, strip⟩, h2c⟩ := same
  exact ⟨hostname, pool, path, strip, h2c⟩

/-- The members of one pool select the same pool. -/
lemma samePool_congr {a b : Route} (same : a.samePool b = true) : a.samePool = b.samePool := by
  obtain ⟨hostname, pool, path, strip, h2c⟩ := samePool_eq same
  funext route
  simp [Route.samePool, hostname, pool, path, strip, h2c]

lemma exactRoutes_group {hostname : GoString} {routes : List Route} {best : Route}
    (member : best ∈ exactRoutes hostname routes) :
    exactRoutes hostname routes = groupRoutes routes best := by
  have exact := (List.mem_filter.mp member).2
  simp only [Bool.and_eq_true, Bool.not_eq_true', decide_eq_true_eq] at exact
  rw [exactRoutes, groupRoutes, exact.1, exact.2]
  simp

lemma patternRoutes_group {pattern : GoString} {routes : List Route} {best : Route}
    (member : best ∈ patternRoutes pattern routes) :
    patternRoutes pattern routes = groupRoutes routes best := by
  have regexp := (List.mem_filter.mp member).2
  simp only [Bool.and_eq_true, decide_eq_true_eq] at regexp
  rw [patternRoutes, groupRoutes, regexp.1, regexp.2]
  simp

namespace Router
variable {ρ : Type}

lemma eligible_eq (r : Router ρ) (route : Route) :
    r.eligible route = (route.health.isNone || r.marked route) := by
  unfold eligible marked
  cases route.health <;> rfl

/-- The members that may be selected are the eligible routes of the pool, in input order. -/
lemma members_group (r : Router ρ) (routes : List Route) (best : Route) :
    r.members (byPathDesc (groupRoutes routes best)) best =
      routes.filter fun route => best.inPool route && r.eligible route := by
  rw [members_eq_filter, byPathDesc_pool, groupRoutes, List.filter_filter, List.filter_filter]
  apply List.filter_congr
  intro route _
  by_cases same : best.samePool route = true
  · simp [Route.inPool, same, (samePool_eq same).1, Bool.and_comm]
  · simp [Route.inPool, same]

/-- An answer from a sorted group was selected from it for one of its routes. -/
lemma matchPool_outcome {r : Router ρ} {group : List Route} {path : GoString} {res : ResolveResult}
    (answered : (r.matchPool (byPathDesc group) path).1 = some res) :
    ∃ best ∈ group, r.Outcome (byPathDesc group) path best res := by
  obtain ⟨best, matched, out⟩ := matchPool_answered answered
  exact ⟨best, (mem_sortDesc _).mp (List.mem_of_find?_eq_some matched), out⟩

/-- What an answer says of the route it was selected for. -/
structure Answer (r : Router ρ) (routes : List Route) (path : GoString) (res : ResolveResult) :
    Prop where
  listed : res.route ∈ routes
  rewritten : ∀ route ∈ routes, res.route.inPool route = true → route.rewrite path = res.rewrittenPath
  target : res.unavailable = false → res.route.target = res.target
  refused : res.unavailable = true ↔ res.route.backendPool ≠ [] ∧
    (r.pools.lookup (poolKey res.route) = none ∨
      ∀ route ∈ routes, res.route.inPool route = true → r.eligible route = false)

/-- An outcome within the group of a route, in terms of the answer alone. -/
lemma Outcome.answer {r : Router ρ} {routes : List Route} {path : GoString} {best : Route}
    {res : ResolveResult} (member : best ∈ routes)
    (out : r.Outcome (byPathDesc (groupRoutes routes best)) path best res) :
    r.Answer routes path res := by
  have rewritten (route : Route) (same : best.inPool route = true) :
      route.rewrite path = best.rewrite path := by
    simp only [Route.inPool, Bool.and_eq_true] at same
    obtain ⟨_, _, path_eq, strip_eq, _⟩ := samePool_eq same.2
    rw [Route.rewrite, Route.rewrite, path_eq, strip_eq]
  have none_eligible : r.members (byPathDesc (groupRoutes routes best)) best = [] ↔
      ∀ route ∈ routes, best.inPool route = true → r.eligible route = false := by
    rw [members_group, List.filter_eq_nil_iff]
    simp
  cases out with
  | single unpooled =>
    refine ⟨member, fun route _ => rewritten route, fun _ => rfl, ?_⟩
    simp [unpooled]
  | unavailable pooled refused =>
    refine ⟨member, fun route _ => rewritten route, nofun, ?_⟩
    rw [none_eligible] at refused
    exact ⟨fun _ => ⟨pooled, refused⟩, fun _ => rfl⟩
  | @selected count pooled counter some =>
    have inside := @pick_mem count _ some
    generalize pick count _ some = chosen at inside ⊢
    rw [members_group, List.mem_filter, Bool.and_eq_true] at inside
    obtain ⟨listed, same, eligible⟩ := inside
    -- the selected member stands for its pool as well as the matched route
    have alike : chosen.inPool = best.inPool := by
      have regexp := same
      simp only [Route.inPool, Bool.and_eq_true, decide_eq_true_eq] at regexp
      funext route
      rw [Route.inPool, Route.inPool, regexp.1, samePool_congr regexp.2]
    refine ⟨listed, ?_, fun _ => rfl, ?_⟩
    · intro route _ inside
      rw [alike] at inside
      exact rewritten route inside
    · have key : poolKey chosen = poolKey best := by
        simp only [Route.inPool, Bool.and_eq_true] at same
        obtain ⟨hostname, pool, _⟩ := samePool_eq same.2
        rw [poolKey, poolKey, hostname, pool]
      refine ⟨nofun, ?_⟩
      intro refused
      rcases refused.2 with missing | ineligible
      · have stored : r.pools.lookup (poolKey chosen) = Option.some count := key ▸ counter
        rw [stored] at missing
        cases missing
      · have down : r.eligible chosen = false := ineligible chosen listed (alike ▸ same)
        rw [down] at eligible
        cases eligible

/-- Every pool declared by a list of routes has a counter. -/
def Counted (r : Router ρ) (routes : List Route) : Prop :=
  ∀ route ∈ routes, route.backendPool ≠ [] → (r.pools.lookup (poolKey route)).isSome = true

lemma Counted.advance {r r' : Router ρ} {routes : List Route} (counted : r.Counted routes)
    (step : r.Advanced r') : r'.Counted routes := by
  rcases step with rfl | ⟨key, count, _, rfl⟩
  · exact counted
  · intro route member pooled
    by_cases same : poolKey route = key
    · subst same
      simp [addCounter]
    · simp only [addCounter, AList.lookup_insert_ne same]
      exact counted route member pooled

variable [Regexp ρ]

lemma resolveRegex_outcome {r : Router ρ} {routes : List Route} {hostname path : GoString}
    {res : ResolveResult} {pats : List GoString} {groups : List (RegexRoute ρ)}
    (aligned : List.Forall₂ (fun pattern rr =>
      Regexp.compile pattern = some rr.re ∧ rr.routes = byPathDesc (patternRoutes pattern routes))
      pats groups)
    (answered : (r.resolveRegex hostname path groups).1 = some res) :
    ∃ best ∈ routes, r.Outcome (byPathDesc (groupRoutes routes best)) path best res := by
  induction aligned with
  | nil => cases answered
  | @cons pattern rr pats groups head _ ih =>
    obtain ⟨_, sorted⟩ := head
    rw [resolveRegex, sorted] at answered
    split at answered
    · split at answered
      · rename_i found
        cases answered
        obtain ⟨best, member, out⟩ := matchPool_outcome (congrArg Prod.fst found)
        rw [patternRoutes_group member] at out
        exact ⟨best, (List.mem_filter.mp member).1, out⟩
      · exact ih answered
    · exact ih answered

/-- Every answer of `Resolve` was selected for one of the installed routes, from all routes of its
group. -/
lemma Installed.resolve_outcome {r : Router ρ} {routes : List Route} (inst : r.Installed routes)
    {hostname path : GoString} {res : ResolveResult}
    (answered : (r.resolve hostname path).1 = some res) :
    ∃ best ∈ routes, r.Outcome (byPathDesc (groupRoutes routes best)) path best res := by
  rw [resolve_eq_or, inst.exact, Option.or_eq_some_iff] at answered
  rcases answered with exact | ⟨_, regex⟩
  · obtain ⟨best, member, out⟩ := matchPool_outcome exact
    rw [exactRoutes_group member] at out
    exact ⟨best, (List.mem_filter.mp member).1, out⟩
  · exact resolveRegex_outcome inst.regex regex

lemma install_counted (routes : List Route) (r : Router ρ) :
    (r.install routes).Counted routes := by
  intro route member pooled
  have fresh := (freshPools_lookup routes (poolKey route) 0).mpr ⟨rfl, route, member, pooled, rfl⟩
  rw [show (r.install routes).pools = freshPools routes from rfl, fresh]
  rfl

end Router

namespace HealthRun
variable {ρ : Type} [Regexp ρ]

/-- Along every run each pool of the last `Update` has a counter. -/
theorem run_counted {h : List HealthEvent} {s : HealthRun ρ} (run : (system ρ).Run h s) :
    s.router.Counted (installedRoutes h) := by
  refine System.Run.invariant (fun h s => s.router.Counted (installedRoutes h)) ?_ ?_ run
  · intro _ _ route member
    cases member
  · intro h s e t _ counted st
    rcases step_tables st with ⟨ord, routes, rfl, router⟩ | ⟨hostname, path, rfl, router⟩ |
      ⟨other, tables⟩
    · rw [router]
      exact Router.install_counted routes s.router
    · rw [router]
      exact counted.advance (s.router.resolve_advanced hostname path)
    · rw [installedRoutes_of_ne other, Router.Counted, tables.pools]
      exact counted

end HealthRun

namespace Router
variable {ρ : Type} [Regexp ρ]

/-- A request is refused exactly when its pool has no eligible member. The counter of the pool is
never missing, a pool with an unchecked member is never refused, an available answer names the
target of its route, the route is one of those last given to `Update`, and the path sent upstream is
the same for every member of the pool. -/
theorem resolve_refused {h : List HealthEvent} {s : HealthRun ρ} (run : (HealthRun.system ρ).Run h s)
    {hostname path : GoString} {res : ResolveResult}
    (answered : (s.router.resolve hostname path).1 = some res) :
    (res.unavailable = true ↔ res.route.backendPool ≠ [] ∧
      ∀ route ∈ installedRoutes h, res.route.inPool route = true →
        route.health.isSome = true ∧ s.router.marked route = false) ∧
    ((∃ route ∈ installedRoutes h, res.route.inPool route = true ∧ route.health = none) →
      res.unavailable = false) ∧
    (∀ route ∈ installedRoutes h, route.backendPool ≠ [] →
      s.router.pools.lookup (poolKey route) ≠ none) ∧
    (res.unavailable = false → res.route.target = res.target ∧ res.route ∈ installedRoutes h ∧
      ∀ route ∈ installedRoutes h, res.route.inPool route = true →
        route.rewrite path = res.rewrittenPath) := by
  obtain ⟨best, member, out⟩ := (HealthRun.run_fenced run).tables.resolve_outcome answered
  have answer := out.answer member
  have counters (route : Route) (listed : route ∈ installedRoutes h) (pooled : route.backendPool ≠ []) :
      s.router.pools.lookup (poolKey route) ≠ none := by
    intro missing
    have counted := HealthRun.run_counted run route listed pooled
    rw [missing] at counted
    cases counted
  have refused : res.unavailable = true ↔ res.route.backendPool ≠ [] ∧
      ∀ route ∈ installedRoutes h, res.route.inPool route = true →
        route.health.isSome = true ∧ s.router.marked route = false := by
    rw [answer.refused]
    constructor
    · intro refusal
      obtain ⟨pooled, missing | down⟩ := refusal
      · exact absurd missing (counters res.route answer.listed pooled)
      · refine ⟨pooled, ?_⟩
        intro route listed same
        have ineligible := down route listed same
        rw [eligible_eq, Bool.or_eq_false_iff] at ineligible
        exact ⟨by simpa using ineligible.1, ineligible.2⟩
    · intro refusal
      obtain ⟨pooled, down⟩ := refusal
      refine ⟨pooled, .inr ?_⟩
      intro route listed same
      obtain ⟨checked, unmarked⟩ := down route listed same
      rw [eligible_eq, unmarked, Bool.or_false]
      simpa using checked
  refine ⟨refused, ?_, counters, ?_⟩
  · intro unchecked
    obtain ⟨route, listed, same, none_checked⟩ := unchecked
    cases unavailable : res.unavailable with
    | false => rfl
    | true =>
      obtain ⟨_, down⟩ := refused.mp unavailable
      have checked := (down route listed same).1
      rw [none_checked] at checked
      cases checked
  · intro available
    exact ⟨answer.target available, answer.listed, answer.rewritten⟩

/-- The probed replica is answered. -/
theorem resolve_refused_replica :
    ∃ h s res, (HealthRun.system Empty).Run h s ∧
      (s.router.resolve (lit "a") (lit "/x")).1 = some res ∧ res.unavailable = false ∧
      (res.unavailable = true ↔ res.route.backendPool ≠ [] ∧
        ∀ route ∈ installedRoutes h, res.route.inPool route = true →
          route.health.isSome = true ∧ s.router.marked route = false) := by
  obtain ⟨s, run, router⟩ := HealthRun.probed_run (ρ := Empty) .stored [pooled]
    { ptr := 1, route := pooled } rfl rfl
  have answered : (s.router.resolve (lit "a") (lit "/x")).1 =
      some { target := lit "http://b", rewrittenPath := lit "/x", route := pooled } := by
    rw [router]
    decide
  exact ⟨_, s, _, run, answered, rfl, (resolve_refused run answered).1⟩

end Router
end Pintle
