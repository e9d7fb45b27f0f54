import Pintle.Router.Fenced
import Pintle.Server.Passthrough

/-!
# Which hosts the proxy answers for

`HasHost` of `internal/router/router.go` against `Resolve`, in the probing system of `Probing.lean`,
with the two callers of `HasHost`: the SNI router, and `expectedStatuses` of `internal/api/api.go`.

A group of routes is never empty, so each group that `HasHost` counts has a first route, and that
route matches its own path (`Route.matchesPath_self`).
-/

namespace Pintle
open Go Lib

/-- Go `ExpectedStatus`. -/
structure ExpectedStatus extends ExpectedHost where
  routed : Bool
  deriving DecidableEq, Repr

/-- Go `expectedStatuses`, with what `getExpected` returns, if it is set. -/
def expectedStatuses {ρ : Type} [Regexp ρ] (router : Router ρ)
    (getExpected : Option (List ExpectedHost)) : List ExpectedStatus :=
  match getExpected with
  | none => []
  | some expected => expected.map fun exp => { exp with routed := router.hasHost exp.host }

lemma Route.matchesPath_self (route : Route) : route.matchesPath route.path = true := by
  simp [matchesPath]

/-- Every group has a path that one of its routes matches. -/
lemma exists_path {group : List Route} (nonempty : group ≠ []) :
    ∃ path, group.find? (·.matchesPath path) ≠ none := by
  obtain ⟨route, member⟩ := List.exists_mem_of_ne_nil group nonempty
  refine ⟨route.path, ?_⟩
  rw [← Option.isSome_iff_ne_none, List.find?_isSome]
  exact ⟨route, member, route.matchesPath_self⟩

namespace Router
variable {ρ : Type} [Regexp ρ]

/-- The loop over the regex groups finds nothing exactly when no group of the host matches. -/
lemma resolveRegex_eq_none {r : Router ρ} {hostname path : GoString} {groups : List (RegexRoute ρ)} :
    (r.resolveRegex hostname path groups).1 = none ↔
      ∀ rr ∈ groups, Regexp.matchString rr.re hostname = true →
        rr.routes.find? (·.matchesPath path) = none := by
  induction groups with
  | nil => exact iff_of_true rfl nofun
  | cons rr groups ih =>
    rw [resolveRegex, List.forall_mem_cons, ← ih]
    cases Regexp.matchString rr.re hostname with
    | false => simp
    | true =>
      rw [← matchPool_eq_none (r := r)]
      cases r.matchPool rr.routes path with
      | mk first _ => cases first <;> simp

/-- `Resolve` finds nothing exactly when no group of the host matches the path. -/
lemma resolve_eq_none {r : Router ρ} {hostname path : GoString} :
    (r.resolve hostname path).1 = none ↔
      ((r.routes.lookup hostname).getD []).find? (·.matchesPath path) = none ∧
        ∀ rr ∈ r.regexRoutes, Regexp.matchString rr.re hostname = true →
          rr.routes.find? (·.matchesPath path) = none := by
  rw [resolve, ← resolveRegex_eq_none (r := r), ← matchPool_eq_none (r := r)]
  cases r.matchPool ((r.routes.lookup hostname).getD []) path with
  | mk first _ => cases first <;> simp

/-- The groups of installed patterns have a route each. -/
lemma Installed.regex_nonempty {r : Router ρ} {routes : List Route} (inst : r.Installed routes)
    {rr : RegexRoute ρ} (member : rr ∈ r.regexRoutes) : rr.routes ≠ [] := by
  obtain ⟨pattern, declared, _, sorted⟩ := inst.group member
  obtain ⟨_, route, listed, regexp, named⟩ := (mem_patterns ρ).mp declared
  rw [sorted]
  apply List.ne_nil_of_mem (a := route)
  apply (mem_sortDesc _).mpr
  simp [patternRoutes, listed, regexp, named]

/-- Over installed tables a host is known exactly when some path of it resolves. -/
lemma Installed.hasHost_resolves {r : Router ρ} {routes : List Route} (inst : r.Installed routes)
    (hostname : GoString) :
    r.hasHost hostname = true ↔ ∃ path, (r.resolve hostname path).1 ≠ none := by
  have known : r.hasHost hostname = true ↔ (r.routes.lookup hostname).getD [] ≠ [] ∨
      ∃ rr ∈ r.regexRoutes, Regexp.matchString rr.re hostname = true := by
    rw [hasHost, Bool.or_eq_true, decide_eq_true_eq, gt_iff_lt, List.length_pos_iff,
      List.any_eq_true]
  rw [known]
  constructor
  · intro some
    rcases some with exact | ⟨rr, member, covers⟩
    · obtain ⟨path, matched⟩ := exists_path exact
      refine ⟨path, fun none => ?_⟩
      exact matched (resolve_eq_none.mp none).1
    · obtain ⟨path, matched⟩ := exists_path (inst.regex_nonempty member)
      refine ⟨path, fun none => ?_⟩
      exact matched ((resolve_eq_none.mp none).2 rr member covers)
  · rintro ⟨path, answered⟩
    by_contra unknown
    push Not at unknown
    apply answered
    apply resolve_eq_none.mpr
    refine ⟨by rw [unknown.1]; rfl, ?_⟩
    intro rr member covers
    exact absurd covers (unknown.2 rr member)

end Router

section
variable {ρ : Type} [Regexp ρ]

/-- After any run and with any health records, the router knows a host exactly when some path of it
resolves, and this is what the SNI router and the report of expected hosts go by. -/
theorem hasHost_iff_resolve {h : List HealthEvent} {s : HealthRun ρ}
    (run : (HealthRun.system ρ).Run h s) (health : GoMap GoString HealthState)
    (hostname : GoString) :
    let r := { s.router with health }
    (r.hasHost hostname = true ↔ ∃ path, (r.resolve hostname path).1 ≠ none) ∧
      (∀ resolveTCPAddr discovered passthrough,
        (runSNIRouter resolveTCPAddr discovered passthrough r).hasLocal hostname = true ↔
          ∃ path, (r.resolve hostname path).1 ≠ none) ∧
      ∀ getExpected, ∀ status ∈ expectedStatuses r getExpected, status.host = hostname →
        (status.routed = true ↔ ∃ path, (r.resolve hostname path).1 ≠ none) := by
  intro r
  have inst : r.Installed (installedRoutes h) := (HealthRun.run_fenced run).tables.of_tables rfl rfl
  have resolves := inst.hasHost_resolves hostname
  refine ⟨resolves, fun _ _ _ => resolves, ?_⟩
  rintro getExpected status member rfl
  cases getExpected with
  | none => cases member
  | some expected =>
    obtain ⟨exp, _, rfl⟩ := List.mem_map.mp member
    exact resolves

/-- The statement after an update with one route. -/
theorem hasHost_iff_resolve_route :
    let route : Route := { hostname := lit "app.lvh.me", path := lit "/", target := lit "http://a" }
    ∃ s : HealthRun Empty, (HealthRun.system Empty).Run [.updated [route]] s ∧
      s.router.hasHost (lit "app.lvh.me") = true ∧
      ∃ path, (s.router.resolve (lit "app.lvh.me") path).1 ≠ none := by
  intro route
  have run : (HealthRun.system Empty).Run [.updated [route]]
      { HealthRun.initial with router := Router.new.update .stored [route] } :=
    .next (.start rfl) (.update .stored [route])
  have known : (Router.update (ρ := Empty) .stored [route] .new).hasHost (lit "app.lvh.me") = true :=
    by decide
  exact ⟨_, run, known, (hasHost_iff_resolve run _ _).1.mp known⟩

end
end Pintle
