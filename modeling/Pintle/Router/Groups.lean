import Pintle.Router.Resolve

/-!
# The groups of the routing table

What `Update` leaves in the two tables, for an arbitrary list of routes: the routes of each exact
hostname, and one group for each distinct HostRegexp pattern that compiles, in order of first
appearance (`patterns`). `Tables.Groups` states it of the tables while they are filled and is proved
along the loop of `Update` (`Tables.build_groups`); `Router.Installed` states it of a router, and
`Router.update_installed` is the connection.
-/

namespace Pintle
open Go Lib

/-- The routes of an exact hostname, in input order. -/
def exactRoutes (hostname : GoString) (routes : List Route) : List Route :=
  routes.filter fun route => !route.isRegexp && route.hostname = hostname

/-- The routes of a HostRegexp pattern, in input order. -/
def patternRoutes (pattern : GoString) (routes : List Route) : List Route :=
  routes.filter fun route => route.isRegexp && route.hostname = pattern

section
variable (ρ : Type) [Regexp ρ]

/-- Whether a pattern compiles. -/
def compiles (pattern : GoString) : Bool := (Regexp.compile (ρ := ρ) pattern).isSome

/-- Whether a pattern compiles and matches a hostname. -/
def patternMatches (pattern hostname : GoString) : Bool :=
  match Regexp.compile (ρ := ρ) pattern with
  | none => false
  | some re => Regexp.matchString re hostname

/-- The distinct patterns that compile, in order of first appearance. -/
def patterns (routes : List Route) : List GoString :=
  ((routes.filter fun route => route.isRegexp && compiles ρ route.hostname).map
    (·.hostname)).eraseDups

lemma mem_patterns {pattern : GoString} {routes : List Route} :
    pattern ∈ patterns ρ routes ↔
      compiles ρ pattern = true ∧ ∃ route ∈ routes, route.isRegexp = true ∧ route.hostname = pattern := by
  simp only [patterns, List.mem_eraseDups, List.mem_map, List.mem_filter, Bool.and_eq_true]
  constructor
  · intro declared
    obtain ⟨route, ⟨member, regexp, valid⟩, rfl⟩ := declared
    exact ⟨valid, route, member, regexp, rfl⟩
  · intro declared
    obtain ⟨valid, route, member, regexp, rfl⟩ := declared
    exact ⟨route, ⟨member, regexp, valid⟩, rfl⟩

lemma patterns_append (routes : List Route) (route : Route) :
    patterns ρ (routes ++ [route]) =
      if route.isRegexp ∧ compiles ρ route.hostname ∧ route.hostname ∉ patterns ρ routes
      then patterns ρ routes ++ [route.hostname] else patterns ρ routes := by
  unfold patterns
  rw [List.filter_append, List.map_append, List.eraseDups_append]
  generalize (routes.filter fun route => route.isRegexp && compiles ρ route.hostname).map
    (·.hostname) = seen
  cases valid : route.isRegexp && compiles ρ route.hostname with
  | false =>
    have skipped : ¬ (route.isRegexp ∧ compiles ρ route.hostname) := by
      rw [← Bool.and_eq_true, valid]
      exact Bool.false_ne_true
    rw [if_neg fun fresh => skipped ⟨fresh.1, fresh.2.1⟩]
    simp [valid]
  | true =>
    have parts := Bool.and_eq_true_iff.mp valid
    by_cases old : route.hostname ∈ seen
    · simp [List.removeAll, old, parts]
    · simp [List.removeAll, old, parts, List.eraseDups_cons]

end

/-- The group of a pattern, as one entry of the regex table. -/
structure GroupOf {ρ : Type} [Regexp ρ] (routes : List Route) (pattern : GoString)
    (rr : RegexRoute ρ) : Prop where
  compiled : Regexp.compile pattern = some rr.re
  routes : rr.routes = patternRoutes pattern routes

namespace Tables
variable {ρ : Type} [Regexp ρ]

/-- The tables hold the groups of a list of routes. -/
structure Groups (t : Tables ρ) (routes : List Route) : Prop where
  exact : ∀ hostname, (t.next.lookup hostname).getD [] = exactRoutes hostname routes
  nonempty : ∀ hostname group, t.next.lookup hostname = some group → group ≠ []
  length : t.nextRegex.length = (patterns ρ routes).length
  regex : ∀ (i : Nat) (pattern : GoString), (patterns ρ routes)[i]? = some pattern →
    ∃ rr : RegexRoute ρ, t.nextRegex[i]? = some rr ∧ GroupOf routes pattern rr
  index : ∀ (pattern : GoString) (i : Nat),
    t.regexIndex.lookup pattern = some i ↔ (patterns ρ routes)[i]? = some pattern

lemma groups_empty : Groups ({} : Tables ρ) [] where
  exact _ := by simp [exactRoutes]
  nonempty _ _ found := by simp at found
  length := rfl
  regex i pattern found := by simp [patterns] at found
  index pattern i := by simp [patterns]

lemma exactRoutes_append (hostname : GoString) (routes : List Route) (route : Route) :
    exactRoutes hostname (routes ++ [route]) =
      if !route.isRegexp && route.hostname = hostname then exactRoutes hostname routes ++ [route]
      else exactRoutes hostname routes := by
  rw [exactRoutes, List.filter_append]
  split <;> simp_all [exactRoutes]

lemma patternRoutes_append (pattern : GoString) (routes : List Route) (route : Route) :
    patternRoutes pattern (routes ++ [route]) =
      if route.isRegexp && route.hostname = pattern then patternRoutes pattern routes ++ [route]
      else patternRoutes pattern routes := by
  rw [patternRoutes, List.filter_append]
  split <;> simp_all [patternRoutes]

lemma exactRoutes_append_regexp {routes : List Route} {route : Route} (regexp : route.isRegexp = true)
    (hostname : GoString) : exactRoutes hostname (routes ++ [route]) = exactRoutes hostname routes := by
  simp [exactRoutes_append, regexp]

/-- A group is not touched by a route of another pattern. -/
lemma groupOf_append_other {routes : List Route} {route : Route} {pattern : GoString}
    {rr : RegexRoute ρ} (group : GroupOf routes pattern rr) (other : route.hostname ≠ pattern) :
    GroupOf (routes ++ [route]) pattern rr := by
  refine ⟨group.compiled, ?_⟩
  simp [group.routes, patternRoutes_append, other]

/-- A route of a known pattern joins its group. -/
lemma Groups.join {t : Tables ρ} {routes : List Route} (groups : t.Groups routes) {route : Route}
    {idx : Nat} (regexp : route.isRegexp = true)
    (known : t.regexIndex.lookup route.hostname = some idx) :
    Groups { t with nextRegex := t.nextRegex.modify idx (·.add route) } (routes ++ [route]) := by
  have here := (groups.index _ _).mp known
  have old : patterns ρ (routes ++ [route]) = patterns ρ routes := by
    rw [patterns_append, if_neg]
    exact fun fresh => fresh.2.2 (List.mem_of_getElem? here)
  refine ⟨?_, groups.nonempty, ?_, ?_, ?_⟩
  · intro hostname
    rw [exactRoutes_append_regexp regexp, groups.exact]
  · rw [old, List.length_modify, groups.length]
  · intro i pattern found
    rw [old] at found
    obtain ⟨rr, entry, group⟩ := groups.regex i pattern found
    by_cases same : idx = i
    · subst same
      have e : route.hostname = pattern := by
        rw [here] at found
        exact Option.some.inj found
      refine ⟨rr.add route, by simp [entry], group.compiled, ?_⟩
      simp [RegexRoute.add, group.routes, patternRoutes_append, regexp, e]
    · have other : route.hostname ≠ pattern := by
        intro e
        apply same
        have again := (groups.index pattern i).mpr found
        rw [← e, known] at again
        exact Option.some.inj again
      exact ⟨rr, by simp [same, entry], groupOf_append_other group other⟩
  · intro pattern i
    rw [old]
    exact groups.index pattern i

/-- A pattern without an index has no group yet. -/
lemma Groups.fresh {t : Tables ρ} {routes : List Route} (groups : t.Groups routes)
    {pattern : GoString} (unknown : t.regexIndex.lookup pattern = none) :
    pattern ∉ patterns ρ routes := by
  intro member
  obtain ⟨i, found⟩ := List.mem_iff_getElem?.mp member
  rw [(groups.index _ _).mpr found] at unknown
  cases unknown

/-- A route whose pattern does not compile changes nothing. -/
lemma Groups.skip {t : Tables ρ} {routes : List Route} (groups : t.Groups routes) {route : Route}
    (regexp : route.isRegexp = true) (unknown : t.regexIndex.lookup route.hostname = none)
    (invalid : compiles ρ route.hostname = false) : Groups t (routes ++ [route]) := by
  have old : patterns ρ (routes ++ [route]) = patterns ρ routes := by
    simp [patterns_append, invalid]
  refine ⟨?_, groups.nonempty, ?_, ?_, ?_⟩
  · intro hostname
    rw [exactRoutes_append_regexp regexp, groups.exact]
  · rw [old, groups.length]
  · intro i pattern found
    rw [old] at found
    obtain ⟨rr, entry, group⟩ := groups.regex i pattern found
    have other : route.hostname ≠ pattern := by
      rintro rfl
      exact groups.fresh unknown (List.mem_of_getElem? found)
    exact ⟨rr, entry, groupOf_append_other group other⟩
  · intro pattern i
    rw [old]
    exact groups.index pattern i

/-- The first route of a pattern that compiles opens a group at the end. -/
lemma Groups.opened {t : Tables ρ} {routes : List Route} (groups : t.Groups routes) {route : Route}
    {re : ρ} (regexp : route.isRegexp = true)
    (unknown : t.regexIndex.lookup route.hostname = none)
    (compiled : Regexp.compile route.hostname = some re) :
    Groups { t with
      nextRegex := t.nextRegex ++ [{ re := re, routes := [route] }]
      regexIndex := t.regexIndex.insert route.hostname t.nextRegex.length }
      (routes ++ [route]) := by
  have fresh := groups.fresh unknown
  have valid : compiles ρ route.hostname = true := by simp [compiles, compiled]
  have grown : patterns ρ (routes ++ [route]) = patterns ρ routes ++ [route.hostname] := by
    rw [patterns_append, if_pos ⟨regexp, valid, fresh⟩]
  refine ⟨?_, groups.nonempty, ?_, ?_, ?_⟩
  · intro hostname
    rw [exactRoutes_append_regexp regexp, groups.exact]
  · simp [grown, groups.length]
  · intro i pattern found
    rw [grown, List.getElem?_append] at found
    split at found
    · -- an earlier pattern keeps its group
      rename_i inside
      obtain ⟨rr, entry, group⟩ := groups.regex i pattern found
      have other : route.hostname ≠ pattern := by
        rintro rfl
        exact fresh (List.mem_of_getElem? found)
      refine ⟨rr, ?_, groupOf_append_other group other⟩
      rw [List.getElem?_append_left (by rw [groups.length]; exact inside), entry]
    · -- the new pattern has no earlier route
      have last : i = (patterns ρ routes).length := by
        have bound := (List.getElem?_eq_some_iff.mp found).1
        simp only [List.length_singleton] at bound
        omega
      subst last
      have e : route.hostname = pattern := by simpa using found
      have none_before : patternRoutes pattern routes = [] := by
        rw [patternRoutes, List.filter_eq_nil_iff]
        intro earlier member matched
        simp only [Bool.and_eq_true, decide_eq_true_eq] at matched
        apply fresh
        rw [mem_patterns]
        exact ⟨valid, earlier, member, matched.1, matched.2.trans e.symm⟩
      refine ⟨⟨re, [route]⟩, by simp [← groups.length], e ▸ compiled, ?_⟩
      simp [patternRoutes_append, none_before, regexp, e]
  · intro pattern i
    rw [grown, List.getElem?_append]
    by_cases same : pattern = route.hostname
    · subst same
      rw [AList.lookup_insert]
      constructor
      · intro e
        have e : t.nextRegex.length = i := Option.some.inj e
        simp [← e, groups.length]
      · split
        · intro found
          exact absurd (List.mem_of_getElem? found) fresh
        · intro found
          have bound := (List.getElem?_eq_some_iff.mp found).1
          simp only [List.length_singleton] at bound
          rw [groups.length]
          congr
          omega
    · rw [AList.lookup_insert_ne same, groups.index]
      split
      · rfl
      · rename_i outside
        constructor
        · intro found
          exact absurd (List.getElem?_eq_some_iff.mp found).1 outside
        · intro found
          exact absurd (List.mem_singleton.mp (List.mem_of_getElem? found)) same

/-- An exact route joins its hostname's list. -/
lemma Groups.exactly {t : Tables ρ} {routes : List Route} (groups : t.Groups routes) {route : Route}
    (exact : route.isRegexp = false) :
    Groups { t with
      next := t.next.insert route.hostname ((t.next.lookup route.hostname).getD [] ++ [route]) }
      (routes ++ [route]) := by
  have old : patterns ρ (routes ++ [route]) = patterns ρ routes := by
    simp [patterns_append, exact]
  refine ⟨?_, ?_, ?_, ?_, ?_⟩
  · intro hostname
    rw [exactRoutes_append]
    by_cases same : hostname = route.hostname
    · subst same
      simp [exact, groups.exact]
    · simp [AList.lookup_insert_ne same, Ne.symm same, groups.exact]
  · intro hostname group found
    by_cases same : hostname = route.hostname
    · subst same
      rw [AList.lookup_insert] at found
      rw [← Option.some.inj found]
      simp
    · rw [AList.lookup_insert_ne same] at found
      exact groups.nonempty hostname group found
  · rw [old, groups.length]
  · intro i pattern found
    rw [old] at found
    obtain ⟨rr, entry, group⟩ := groups.regex i pattern found
    refine ⟨rr, entry, group.compiled, ?_⟩
    simp [group.routes, patternRoutes_append, exact]
  · intro pattern i
    rw [old]
    exact groups.index pattern i

/-- One iteration of the loop keeps the groups. -/
lemma place_groups {t : Tables ρ} {routes : List Route} (groups : t.Groups routes) (route : Route) :
    (t.place route).Groups (routes ++ [route]) := by
  unfold place
  cases regexp : route.isRegexp with
  | false => exact groups.exactly regexp
  | true =>
    cases known : t.regexIndex.lookup route.hostname with
    | some idx => exact groups.join regexp known
    | none =>
      cases compiled : Regexp.compile (ρ := ρ) route.hostname with
      | none => exact groups.skip regexp known (by simp [compiles, compiled])
      | some re => exact groups.opened regexp known compiled

/-- The first loop of `Update` leaves the groups of its argument. -/
theorem build_groups (routes : List Route) : (build routes : Tables ρ).Groups routes := by
  induction routes using List.reverseRecOn with
  | nil => exact groups_empty
  | append_singleton routes route ih =>
    rw [build, List.foldl_append]
    exact place_groups ih route

end Tables

namespace Router
variable {ρ : Type} [Regexp ρ]

/-- The tables of a router are those of a list of routes. -/
structure Installed (r : Router ρ) (routes : List Route) : Prop where
  exact : ∀ hostname, (r.routes.lookup hostname).getD [] = byPathDesc (exactRoutes hostname routes)
  nonempty : ∀ hostname group, r.routes.lookup hostname = some group → group ≠ []
  regex : List.Forall₂ (fun pattern rr =>
    Regexp.compile pattern = some rr.re ∧ rr.routes = byPathDesc (patternRoutes pattern routes))
    (patterns ρ routes) r.regexRoutes

/-- Only the two tables matter. -/
lemma Installed.of_tables {r r' : Router ρ} {routes : List Route} (inst : r.Installed routes)
    (same : r'.routes = r.routes) (same_regex : r'.regexRoutes = r.regexRoutes) :
    r'.Installed routes := by
  refine ⟨?_, ?_, ?_⟩
  · rw [same]
    exact inst.exact
  · rw [same]
    exact inst.nonempty
  · rw [same_regex]
    exact inst.regex

/-- Each entry of the regex table is the group of a declared pattern. -/
lemma Installed.group {r : Router ρ} {routes : List Route} (inst : r.Installed routes)
    {rr : RegexRoute ρ} (member : rr ∈ r.regexRoutes) :
    ∃ pattern ∈ patterns ρ routes,
      Regexp.compile pattern = some rr.re ∧ rr.routes = byPathDesc (patternRoutes pattern routes) := by
  obtain ⟨i, bound, e⟩ := List.getElem_of_mem member
  have here := inst.regex
  rw [List.forall₂_iff_get] at here
  have bound' : i < (patterns ρ routes).length := by rw [here.1]; exact bound
  have group := here.2 i bound' bound
  simp only [List.get_eq_getElem, e] at group
  exact ⟨_, List.getElem_mem bound', group⟩

lemma install_installed (r : Router ρ) (routes : List Route) :
    (r.install routes).Installed routes := by
  have groups := Tables.build_groups (ρ := ρ) routes
  refine ⟨?_, ?_, ?_⟩
  · intro hostname
    rw [← groups.exact hostname]
    simp only [install, GoMap.lookup_mapValues]
    cases (Tables.build (ρ := ρ) routes).next.lookup hostname <;> rfl
  · intro hostname group found
    simp only [install, GoMap.lookup_mapValues, Option.map_eq_some_iff] at found
    obtain ⟨unsorted, entry, rfl⟩ := found
    obtain ⟨first, member⟩ := List.exists_mem_of_ne_nil _ (groups.nonempty hostname unsorted entry)
    exact List.ne_nil_of_mem ((mem_sortDesc _).mpr member)
  · rw [List.forall₂_iff_get]
    refine ⟨by simp [install, groups.length], ?_⟩
    intro i inside inside'
    obtain ⟨rr, entry, group⟩ := groups.regex i _ (List.getElem?_eq_getElem inside)
    have here := (List.getElem?_eq_some_iff.mp entry).2
    refine ⟨?_, ?_⟩
    · simp only [install, List.get_eq_getElem, List.getElem_map, here]
      exact group.compiled
    · simp only [install, List.get_eq_getElem, List.getElem_map, here]
      rw [group.routes]

/-- After `Update` the tables are those of its argument, whatever they were before. -/
theorem update_installed (ord : RangeOrder (GoString × List Route)) (routes : List Route)
    (r : Router ρ) : (r.update ord routes).Installed routes :=
  (install_installed r routes).of_tables rfl rfl

end Router
end Pintle
