import Pintle.Router.Table

/-!
# Resolving a request

Model of `Resolve`, `matchRoutes` and `matchPool` of `internal/router/router.go`. Resolving a pooled
route increments the pool's counter, so `resolve` returns the router after the call; everything else
only reads.

`matchRoutes` is characterised by the first route that matches the path (`matchRoutes_eq`),
`matchPool` by the three ways it can answer (`Router.Outcome`, `matchPool_some`).
-/

namespace Pintle
open Go Lib

/-- The path condition of Go `matchRoutes`. -/
def Route.matchesPath (route : Route) (path : GoString) : Bool :=
  route.path = lit "/" || path = route.path || hasPrefix path (route.path ++ lit "/")

/-- The path sent upstream by Go `matchRoutes`. -/
def Route.rewrite (route : Route) (path : GoString) : GoString :=
  if route.stripPath then
    let rewrittenPath := trimPrefix path route.path
    if rewrittenPath = [] then lit "/" else rewrittenPath
  else path

/-- Go `matchRoutes`. -/
def matchRoutes : List Route → GoString → Option ResolveResult
  | [], _ => none
  | route :: routes, path =>
    if route.matchesPath path then
      some { target := route.target, rewrittenPath := route.rewrite path, route := route }
    else matchRoutes routes path

/-- The pool condition of Go `matchPool`: a route in the pool of the matched one. -/
def Route.samePool (matched route : Route) : Bool :=
  route.hostname = matched.hostname && route.backendPool = matched.backendPool
    && route.path = matched.path && route.stripPath = matched.stripPath && route.h2c = matched.h2c

namespace Router
variable {ρ : Type}

/-- The health condition of Go `matchPool`: a checked route needs a healthy record. -/
def eligible (r : Router ρ) (route : Route) : Bool :=
  match route.health with
  | none => true
  | some _ =>
    match r.health.lookup (healthKey route) with
    | none => false
    | some state => state.healthy

/-- The members of the matched route's pool that may be selected (Go `members`). -/
def members (r : Router ρ) (routes : List Route) (matched : Route) : List Route :=
  routes.filter fun route => matched.samePool route && r.eligible route

/-- Go `counter.Add(1)` on the counter of one pool. -/
def addCounter (key : GoString) (count : UInt64) (r : Router ρ) : Router ρ :=
  { r with pools := r.pools.insert key (count + 1) }

/-- The member at the counter's position (Go `members[(counter.Add(1)-1)%uint64(len(members))]`). -/
def pick (count : UInt64) (members : List Route) (some : members ≠ []) : Route :=
  members.get ⟨(count + 1 - 1).toNat % members.length, Nat.mod_lt _ (List.length_pos_iff.mpr some)⟩

/-- Go `matchPool`. -/
def matchPool (r : Router ρ) (routes : List Route) (path : GoString) :
    Option ResolveResult × Router ρ :=
  match matchRoutes routes path with
  | none => (none, r)
  | some result =>
    if result.route.backendPool = [] then (some result, r)
    else
      let members := r.members routes result.route
      match r.pools.lookup (poolKey result.route) with
      | none => (some { result with unavailable := true, target := [] }, r)
      | some count =>
        if empty : members = [] then (some { result with unavailable := true, target := [] }, r)
        else
          let selected := pick count members empty
          (some { result with target := selected.target, route := selected },
            r.addCounter (poolKey result.route) count)

/-- The second loop of Go `Resolve`, over the regex groups. -/
def resolveRegex [Regexp ρ] (r : Router ρ) (hostname path : GoString) :
    List (RegexRoute ρ) → Option ResolveResult × Router ρ
  | [] => (none, r)
  | rr :: rest =>
    if Regexp.matchString rr.re hostname then
      match r.matchPool rr.routes path with
      | (some result, r') => (some result, r')
      | (none, _) => r.resolveRegex hostname path rest
    else r.resolveRegex hostname path rest

/-- Go `Resolve`. -/
def resolve [Regexp ρ] (r : Router ρ) (hostname path : GoString) :
    Option ResolveResult × Router ρ :=
  match r.matchPool ((r.routes.lookup hostname).getD []) path with
  | (some result, r') => (some result, r')
  | (none, _) => r.resolveRegex hostname path r.regexRoutes

end Router

lemma matchRoutes_eq (routes : List Route) (path : GoString) :
    matchRoutes routes path = (routes.find? (·.matchesPath path)).map fun route =>
      { target := route.target, rewrittenPath := route.rewrite path, route := route } := by
  induction routes with
  | nil => rfl
  | cons route routes ih =>
    rw [matchRoutes, List.find?_cons, ih]
    cases route.matchesPath path <;> rfl

namespace Router
variable {ρ : Type}

/-- What `matchPool` answers when `best` is the first route that matches the path. -/
inductive Outcome (r : Router ρ) (routes : List Route) (path : GoString) (best : Route) :
    ResolveResult → Prop where
  | single :
    best.backendPool = [] →
    Outcome r routes path best
      { target := best.target, rewrittenPath := best.rewrite path, route := best }
  | unavailable :
    best.backendPool ≠ [] →
    r.pools.lookup (poolKey best) = none ∨ r.members routes best = [] →
    Outcome r routes path best
      { unavailable := true, target := [], rewrittenPath := best.rewrite path, route := best }
  | selected {count} :
    best.backendPool ≠ [] →
    r.pools.lookup (poolKey best) = some count →
    (some : r.members routes best ≠ []) →
    Outcome r routes path best
      { target := (pick count (r.members routes best) some).target
        rewrittenPath := best.rewrite path
        route := pick count (r.members routes best) some }

lemma pick_mem {count : UInt64} {members : List Route} (some : members ≠ []) :
    pick count members some ∈ members :=
  List.get_mem _ _

lemma mem_members {r : Router ρ} {routes : List Route} {matched route : Route} :
    route ∈ r.members routes matched ↔
      route ∈ routes ∧ matched.samePool route = true ∧ r.eligible route = true := by
  simp [members]

lemma matchPool_none {r : Router ρ} {routes : List Route} {path : GoString}
    (unmatched : routes.find? (·.matchesPath path) = none) : r.matchPool routes path = (none, r) := by
  rw [matchPool, matchRoutes_eq, unmatched]
  rfl

/-- `matchPool` settles on the first route that matches the path. -/
lemma matchPool_some {r : Router ρ} {routes : List Route} {path : GoString} {best : Route}
    (matched : routes.find? (·.matchesPath path) = some best) :
    ∃ res, (r.matchPool routes path).1 = some res ∧ r.Outcome routes path best res := by
  rw [matchPool, matchRoutes_eq, matched]
  by_cases pooled : best.backendPool = []
  · exact ⟨_, by simp [pooled], .single pooled⟩
  · cases counter : r.pools.lookup (poolKey best) with
    | none => exact ⟨_, by simp [pooled, counter], .unavailable pooled (.inl counter)⟩
    | some count =>
      by_cases empty : r.members routes best = []
      · exact ⟨_, by simp [pooled, counter, empty], .unavailable pooled (.inr empty)⟩
      · exact ⟨_, by simp [pooled, counter, empty], .selected pooled counter empty⟩

/-- Every answer of `matchPool` is one of the three ways, for the first route that matches. -/
lemma matchPool_answered {r : Router ρ} {routes : List Route} {path : GoString}
    {res : ResolveResult} (answered : (r.matchPool routes path).1 = some res) :
    ∃ best, routes.find? (·.matchesPath path) = some best ∧ r.Outcome routes path best res := by
  cases matched : routes.find? (·.matchesPath path) with
  | none =>
    rw [matchPool_none matched] at answered
    cases answered
  | some best =>
    obtain ⟨res', answered', out⟩ := matchPool_some (r := r) matched
    rw [answered] at answered'
    cases answered'
    exact ⟨best, rfl, out⟩

/-- `matchPool` answers nothing exactly when no route of the group matches. -/
lemma matchPool_eq_none {r : Router ρ} {routes : List Route} {path : GoString} :
    (r.matchPool routes path).1 = none ↔ routes.find? (·.matchesPath path) = none := by
  constructor
  · intro unanswered
    cases matched : routes.find? (·.matchesPath path) with
    | none => rfl
    | some best =>
      obtain ⟨res, answered, _⟩ := matchPool_some (r := r) matched
      rw [answered] at unanswered
      cases unanswered
  · intro unmatched
    rw [matchPool_none unmatched]

/-- The routes of the group an outcome settles in carry the outcome's route. -/
lemma Outcome.route_mem {r : Router ρ} {routes : List Route} {path : GoString} {best : Route}
    {res : ResolveResult} (out : r.Outcome routes path best res) (member : best ∈ routes) :
    res.route ∈ routes := by
  cases out with
  | single _ => exact member
  | unavailable _ _ => exact member
  | selected _ _ some => exact (mem_members.mp (pick_mem some)).1

/-- Two routers have the same health marks. -/
def SameMarks (r r' : Router ρ) : Prop :=
  ∀ key, (r.health.lookup key).map (·.healthy) = (r'.health.lookup key).map (·.healthy)

lemma eligible_congr {r r' : Router ρ} (marks : r.SameMarks r') (route : Route) :
    r.eligible route = r'.eligible route := by
  have here := marks (healthKey route)
  unfold eligible
  cases route.health with
  | none => rfl
  | some _ =>
    cases found : r.health.lookup (healthKey route) <;>
      cases found' : r'.health.lookup (healthKey route) <;> simp_all

lemma members_congr {r r' : Router ρ} (marks : r.SameMarks r') (routes : List Route)
    (matched : Route) : r.members routes matched = r'.members routes matched := by
  unfold members
  congr 1
  funext route
  rw [eligible_congr marks]

lemma members_eq_filter (r : Router ρ) (routes : List Route) (matched : Route) :
    r.members routes matched = (routes.filter matched.samePool).filter r.eligible := by
  rw [members, List.filter_filter]
  congr 1
  funext route
  rw [Bool.and_comm]

/-- Groups with one first match and one pool around it answer alike, from routers that agree on the
marks and on the pool's counter. -/
lemma matchPool_agree {r r' : Router ρ} {routes routes' : List Route} {path : GoString} {best : Route}
    (marks : r.SameMarks r') (matched : routes.find? (·.matchesPath path) = some best)
    (matched' : routes'.find? (·.matchesPath path) = some best)
    (pool : best.backendPool ≠ [] →
      routes.filter best.samePool = routes'.filter best.samePool)
    (counter : best.backendPool ≠ [] →
      r.pools.lookup (poolKey best) = r'.pools.lookup (poolKey best)) :
    (r.matchPool routes path).1 = (r'.matchPool routes' path).1 := by
  unfold matchPool
  rw [matchRoutes_eq, matchRoutes_eq, matched, matched']
  simp only [Option.map_some]
  split
  · rfl
  · rename_i pooled
    have members : r.members routes best = r'.members routes' best := by
      rw [members_congr marks, members_eq_filter, members_eq_filter, pool pooled]
    rw [members, counter pooled]
    cases r'.pools.lookup (poolKey best) with
    | none => rfl
    | some count =>
      dsimp only
      split <;> rfl

/-- Routers that agree on the marks and on the counters of a group answer alike from it. -/
lemma matchPool_congr {r r' : Router ρ} (routes : List Route) (marks : r.SameMarks r')
    (counters : ∀ route ∈ routes, route.backendPool ≠ [] →
      r.pools.lookup (poolKey route) = r'.pools.lookup (poolKey route)) (path : GoString) :
    (r.matchPool routes path).1 = (r'.matchPool routes path).1 := by
  cases matched : routes.find? (·.matchesPath path) with
  | none => rw [matchPool_none matched, matchPool_none matched]
  | some best =>
    apply matchPool_agree marks matched matched
    · intro _
      rfl
    · exact counters best (List.mem_of_find?_eq_some matched)

end Router
end Pintle
