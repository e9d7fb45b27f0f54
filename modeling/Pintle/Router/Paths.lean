import Pintle.Docker.Labels
import Pintle.Router.Refusal

/-!
# Path prefixes

What `matchRoutes` of `internal/router/router.go` makes of a path prefix: which request paths it
takes (`matchesPath_iff`) and what is left of them when the prefix is stripped (`resolve_strip`). A
prefix ends at a segment boundary, or with a slash of its own (`Continues`). A prefix with a slash of
its own takes less than that, and stripping the root leaves a path without its first slash.
-/

namespace Pintle
open Go

/-- A path is a prefix, or goes on after it at a segment boundary. -/
def Continues (pre path : GoString) : Prop :=
  path = pre ∨ ∃ rest, path = pre ++ rest ∧
    (hasSuffix pre (lit "/") = true ∨ hasPrefix rest (lit "/") = true)

/-- What stripping leaves of a path: a path that the prefix goes before, or all of it. -/
structure Strips (route : Route) (path rewritten : GoString) : Prop where
  rooted : hasPrefix rewritten (lit "/") = true
  kept : route.stripPath = false → rewritten = path
  root : route.stripPath = true → route.path = lit "/" → rewritten = path
  stripped : route.stripPath = true → route.path ≠ lit "/" →
    path = route.path ∧ rewritten = lit "/" ∨ path = route.path ++ rewritten

/-- The path condition of the matcher. -/
lemma matchesPath_cases {route : Route} {path : GoString} (matched : route.matchesPath path = true) :
    route.path = lit "/" ∨ path = route.path ∨ ∃ rest, path = route.path ++ 47 :: rest := by
  simp only [Route.matchesPath, Bool.or_eq_true, decide_eq_true_eq] at matched
  rcases matched with (root | same) | longer
  · exact .inl root
  · exact .inr (.inl same)
  · obtain ⟨rest, split⟩ := hasPrefix_iff.mp longer
    exact .inr (.inr ⟨rest, by rw [split, List.append_assoc]; rfl⟩)

/-- A strip of a prefix other than the root leaves what follows the prefix. -/
lemma rewrite_strips {route : Route} {path : GoString} (matched : route.matchesPath path = true)
    (rooted : hasPrefix path (lit "/") = true) (other : route.stripPath = true → route.path ≠ lit "/") :
    Strips route path (route.rewrite path) := by
  cases strip : route.stripPath with
  | false =>
    have whole : route.rewrite path = path := by rw [Route.rewrite, if_neg (by simp [strip])]
    rw [whole]
    exact ⟨rooted, fun _ => rfl, fun stripped => absurd stripped (by simp [strip]),
      fun stripped => absurd stripped (by simp [strip])⟩
  | true =>
    have prefixed := other strip
    have unfolded : route.rewrite path =
        if trimPrefix path route.path = [] then lit "/" else trimPrefix path route.path := by
      rw [Route.rewrite, if_pos strip]
    rcases (matchesPath_cases matched).resolve_left prefixed with same | ⟨rest, split⟩
    · have nothing : trimPrefix path route.path = [] := by
        have trimmed := trimPrefix_append route.path []
        rw [List.append_nil] at trimmed
        rw [same]
        exact trimmed
      rw [unfolded, if_pos nothing]
      exact ⟨rfl, fun kept => absurd kept (by simp [strip]), fun _ root => absurd root prefixed,
        fun _ _ => .inl ⟨same, rfl⟩⟩
    · rw [unfolded, split, trimPrefix_append, if_neg (List.cons_ne_nil _ _)]
      exact ⟨rfl, fun kept => absurd kept (by simp [strip]), fun _ root => absurd root prefixed,
        fun _ _ => .inr rfl⟩

/-- A strip of the root leaves the root alone, and the first slash is lost from every other path. -/
lemma rewrite_root {route : Route} {path : GoString} (strip : route.stripPath = true)
    (root : route.path = lit "/") (rooted : hasPrefix path (lit "/") = true) :
    Strips route path (route.rewrite path) ↔ path = lit "/" := by
  obtain ⟨rest, split⟩ := hasPrefix_iff.mp rooted
  have unfolded : route.rewrite path = if rest = [] then lit "/" else rest := by
    rw [Route.rewrite, if_pos strip, root, split, trimPrefix_append]
  rw [unfolded]
  constructor
  · intro law
    have whole := law.root strip root
    split at whole
    · rename_i nothing
      rw [split, nothing]
      rfl
    · rw [split] at whole
      have length := congrArg List.length whole
      simp [lit] at length
  · intro same
    have nothing : rest = [] := by
      rw [split] at same
      exact List.append_right_eq_self.mp same
    rw [if_pos nothing, same]
    exact ⟨rfl, fun _ => rfl, fun _ _ => rfl, fun _ other => absurd root other⟩

/-- The members of a pool take the same paths and rewrite them alike. -/
lemma samePool_path {matched route : Route} (same : matched.samePool route = true) (path : GoString) :
    route.matchesPath path = matched.matchesPath path ∧ route.rewrite path = matched.rewrite path := by
  obtain ⟨_, _, path_eq, strip_eq, _⟩ := samePool_eq same
  simp only [Route.matchesPath, Route.rewrite, path_eq, strip_eq, and_self]

namespace Router
variable {ρ : Type}

/-- The path of an answer is what its route makes of the request path. -/
lemma Outcome.rewritten {r : Router ρ} {routes : List Route} {path : GoString} {best : Route}
    {res : ResolveResult} (matched : best.matchesPath path = true)
    (out : r.Outcome routes path best res) :
    res.route.matchesPath path = true ∧ res.rewrittenPath = res.route.rewrite path := by
  cases out with
  | single _ => exact ⟨matched, rfl⟩
  | unavailable _ _ => exact ⟨matched, rfl⟩
  | @selected count _ _ some =>
    have inside := @pick_mem count _ some
    generalize pick count _ some = chosen at inside ⊢
    obtain ⟨matches_eq, rewrite_eq⟩ := samePool_path (mem_members.mp inside).2.1 path
    exact ⟨matches_eq.trans matched, rewrite_eq.symm⟩

lemma matchPool_rewritten {r : Router ρ} {routes : List Route} {path : GoString}
    {res : ResolveResult} (answered : (r.matchPool routes path).1 = some res) :
    res.route.matchesPath path = true ∧ res.rewrittenPath = res.route.rewrite path := by
  obtain ⟨best, matched, out⟩ := matchPool_answered answered
  have taken := List.find?_some matched
  exact out.rewritten taken

lemma resolve_rewritten [Regexp ρ] {r : Router ρ} {hostname path : GoString} {res : ResolveResult}
    (answered : (r.resolve hostname path).1 = some res) :
    res.route.matchesPath path = true ∧ res.rewrittenPath = res.route.rewrite path := by
  rw [resolve_eq_or, Option.or_eq_some_iff] at answered
  rcases answered with exact | ⟨_, regex⟩
  · exact matchPool_rewritten exact
  · generalize r.regexRoutes = groups at regex
    induction groups with
    | nil => cases regex
    | cons rr groups ih =>
      rw [resolveRegex] at regex
      split at regex
      · split at regex
        · rename_i found
          cases regex
          exact matchPool_rewritten (congrArg Prod.fst found)
        · exact ih regex
      · exact ih regex

/-- Stripping leaves what follows the prefix, exactly when it strips no root off a longer path. -/
theorem resolve_strip [Regexp ρ] {r : Router ρ} {hostname path : GoString} {res : ResolveResult}
    (answered : (r.resolve hostname path).1 = some res) (rooted : hasPrefix path (lit "/") = true) :
    Strips res.route path res.rewrittenPath ↔
      (res.route.stripPath = true → res.route.path = lit "/" → path = lit "/") := by
  obtain ⟨matched, rewritten⟩ := resolve_rewritten answered
  rw [rewritten]
  by_cases off_root : res.route.stripPath = true ∧ res.route.path = lit "/"
  · rw [rewrite_root off_root.1 off_root.2 rooted]
    exact ⟨fun same _ _ => same, fun condition => condition off_root.1 off_root.2⟩
  · refine ⟨fun _ strip root => absurd ⟨strip, root⟩ off_root, fun _ => ?_⟩
    apply rewrite_strips matched rooted
    intro strip root
    exact off_root ⟨strip, root⟩

/-- A route at the root that strips its path. -/
def stripsRoot : Route where
  hostname := lit "a"
  path := lit "/"
  target := lit "http://b"
  stripPath := true

/-- The router of that route. -/
def rootStripper : Router Empty := Router.new.update .stored [stripsRoot]

theorem root_strip_unrooted :
    (rootStripper.resolve (lit "a") (lit "/users")).1 =
      some { target := lit "http://b", rewrittenPath := lit "users", route := stripsRoot } ∧
    ¬ ∀ (r : Router Empty) (hostname path : GoString) (res : ResolveResult),
      (r.resolve hostname path).1 = some res → hasPrefix res.route.path (lit "/") = true →
      hasPrefix path (lit "/") = true → Strips res.route path res.rewrittenPath := by
  have answered : (rootStripper.resolve (lit "a") (lit "/users")).1 =
      some { target := lit "http://b", rewrittenPath := lit "users", route := stripsRoot } := by
    decide
  refine ⟨answered, ?_⟩
  intro law
  have rooted := (law _ _ _ _ answered (by decide) (by decide)).rooted
  exact absurd rooted (by decide)

theorem resolve_strip_prefix :
    ∃ res, (Router.resolve (Router.new.update .stored [{ stripsRoot with path := lit "/api" }] :
        Router Empty) (lit "a") (lit "/api/users")).1 = some res ∧
      res.rewrittenPath = lit "/users" ∧ Strips res.route (lit "/api/users") res.rewrittenPath := by
  have answered : (Router.resolve (Router.new.update .stored [{ stripsRoot with path := lit "/api" }] :
      Router Empty) (lit "a") (lit "/api/users")).1 = some
        { target := lit "http://b"
          rewrittenPath := lit "/users"
          route := { stripsRoot with path := lit "/api" } } := by decide
  exact ⟨_, answered, rfl, (resolve_strip answered (by decide)).mpr (by decide)⟩

end Router

/-- A route takes the paths that continue its prefix, exactly for the paths that begin with a slash
when the prefix is the root, and for those that do not go on right behind the slash of a prefix with
a slash of its own. -/
theorem matchesPath_iff (route : Route) (path : GoString) :
    (route.matchesPath path = true ↔ Continues route.path path) ↔
      (route.path = lit "/" → hasPrefix path (lit "/") = true) ∧
      (route.path ≠ lit "/" → hasSuffix route.path (lit "/") = true →
        ∀ rest, path = route.path ++ rest → rest = [] ∨ hasPrefix rest (lit "/") = true) := by
  by_cases root : route.path = lit "/"
  · have taken : route.matchesPath path = true := by simp [Route.matchesPath, root]
    have continues : Continues route.path path ↔ hasPrefix path (lit "/") = true := by
      rw [root, hasPrefix_iff]
      constructor
      · rintro (same | ⟨rest, split, _⟩)
        · exact ⟨[], by rw [same]; rfl⟩
        · exact ⟨rest, split⟩
      · rintro ⟨rest, split⟩
        exact .inr ⟨rest, split, .inl rfl⟩
    simp only [taken, true_iff, continues]
    exact ⟨fun rooted => ⟨fun _ => rooted, fun other => absurd root other⟩, fun both => both.1 root⟩
  · have taken : route.matchesPath path = true ↔
        path = route.path ∨ ∃ rest, path = route.path ++ rest ∧ hasPrefix rest (lit "/") = true := by
      constructor
      · intro matched
        rcases (matchesPath_cases matched).resolve_left root with same | ⟨rest, split⟩
        · exact .inl same
        · exact .inr ⟨_, split, rfl⟩
      · rintro (same | ⟨rest, split, slash⟩)
        · simp [Route.matchesPath, same]
        · obtain ⟨rest, rfl⟩ := hasPrefix_iff.mp slash
          have longer : hasPrefix path (route.path ++ lit "/") = true :=
            hasPrefix_iff.mpr ⟨rest, by rw [split, List.append_assoc]⟩
          simp [Route.matchesPath, longer]
    rw [taken]
    constructor
    · intro agree
      refine ⟨fun other => absurd other root, ?_⟩
      intro _ slash rest split
      rcases agree.mpr (.inr ⟨rest, split, .inl slash⟩) with same | ⟨rest', split', slash'⟩
      · rw [split] at same
        exact .inl (List.append_right_eq_self.mp same)
      · rw [split] at split'
        rw [List.append_cancel_left split']
        exact .inr slash'
    · intro condition
      constructor
      · rintro (same | ⟨rest, split, slash⟩)
        · exact .inl same
        · exact .inr ⟨rest, split, .inr slash⟩
      · rintro (same | ⟨rest, split, slash | slash⟩)
        · exact .inl same
        · rcases condition.2 root slash rest split with nothing | slash'
          · rw [nothing, List.append_nil] at split
            exact .inl split
          · exact .inr ⟨rest, split, slash'⟩
        · exact .inr ⟨rest, split, slash⟩

/-- A path below a prefix with a slash of its own is not matched, though it continues the prefix and
the same prefix takes it in a Caddy label. -/
theorem trailing_slash_unmatched :
    (Route.matchesPath { hostname := lit "a", path := lit "/api/", target := [] } (lit "/api/users") =
      false ∧ Continues (lit "/api/") (lit "/api/users")) ∧
    Route.matchesPath { hostname := lit "a", path := Docker.handlePath (lit "/api/"), target := [] }
      (lit "/api/users") = true ∧
    ¬ ∀ (route : Route) (path : GoString), hasPrefix route.path (lit "/") = true →
      (route.matchesPath path = true ↔ Continues route.path path) := by
  have continues : Continues (lit "/api/") (lit "/api/users") :=
    .inr ⟨lit "users", by decide, .inl (by decide)⟩
  refine ⟨⟨by decide, continues⟩, by decide, ?_⟩
  intro law
  have taken := (law { hostname := lit "a", path := lit "/api/", target := [] } (lit "/api/users")
    (by decide)).mpr continues
  exact absurd taken (by decide)

/-- A slash at the end of a prefix is one of those that a Caddy label loses. -/
lemma trimRightSlash_slash {pre : GoString} (kept : trimRightSlash pre = pre) :
    hasSuffix pre (lit "/") = false ∨ pre = [] := by
  by_cases empty : pre = []
  · exact .inr empty
  · left
    have last : ¬ pre.getLast empty = 47 := by
      simpa using List.rdropWhile_eq_self_iff.mp kept empty
    rw [Bool.eq_false_iff]
    intro slash
    obtain ⟨front, rfl⟩ := hasSuffix_iff.mp slash
    exact last (List.getLast_append_of_ne_nil _ (by decide))

/-- In a Caddy label a prefix takes every path that continues it. -/
theorem handlePath_continues {pre path : GoString} (plain : hasSuffix pre (lit "*") = false)
    (continues : Continues pre path) (route : Route) :
    Route.matchesPath { route with path := Docker.handlePath pre } path = true := by
  have whole : trimSuffix pre (lit "*") = pre := by rw [trimSuffix, if_neg (by simp [plain])]
  have slashes := List.rdropWhile_append_rtakeWhile (p := (· = 47)) (l := pre)
  rw [Docker.handlePath, whole]
  by_cases root : trimRightSlash pre = []
  · simp [Route.matchesPath, root]
  · have boundary : ∃ rest, path = trimRightSlash pre ++ rest ∧
        (rest = [] ∨ hasPrefix rest (lit "/") = true) := by
      cases tail : pre.rtakeWhile (· = 47) with
      | nil =>
        -- no slash is lost, so the path goes on with one of its own
        rw [tail, List.append_nil] at slashes
        rw [trimRightSlash] at root ⊢
        rw [slashes] at root ⊢
        have none_lost := (trimRightSlash_slash slashes).resolve_right root
        rcases continues with same | ⟨rest, split, slash | slash⟩
        · exact ⟨[], by rw [same, List.append_nil], .inl rfl⟩
        · rw [none_lost] at slash
          cases slash
        · exact ⟨rest, split, .inr slash⟩
      | cons b lost =>
        have member : b ∈ pre.rtakeWhile (· = 47) := tail ▸ List.mem_cons_self
        have slash : b = 47 := by simpa using List.mem_rtakeWhile_imp member
        subst slash
        rw [tail] at slashes
        rcases continues with same | ⟨rest, split, _⟩
        · exact ⟨47 :: lost, by rw [same, trimRightSlash, slashes], .inr rfl⟩
        · refine ⟨47 :: (lost ++ rest), ?_, .inr rfl⟩
          calc path = pre ++ rest := split
            _ = (pre.rdropWhile (· = 47) ++ 47 :: lost) ++ rest := by rw [slashes]
            _ = trimRightSlash pre ++ 47 :: (lost ++ rest) := by
              rw [List.append_assoc, List.cons_append, trimRightSlash]
    obtain ⟨rest, split, none_left | slash⟩ := boundary
    · rw [none_left, List.append_nil] at split
      simp [Route.matchesPath, root, split]
    · obtain ⟨rest, rfl⟩ := hasPrefix_iff.mp slash
      have longer : hasPrefix path (trimRightSlash pre ++ lit "/") = true :=
        hasPrefix_iff.mpr ⟨rest, by rw [split, List.append_assoc]⟩
      simp [Route.matchesPath, root, longer]

end Pintle
