import Pintle.Router.Groups

/-!
# Counters and health records

What `Update` leaves in the two maps that selection reads: a fresh counter for every declared pool
(`freshPools_lookup`) and, for every key of a checked static member, one fresh record of such a
member (`registerHealth_lookup`, `registerHealth_isSome`). The records come from the flattened
tables, whose routes are the installed ones without those whose pattern does not compile
(`mem_flattenLocked`).
-/

namespace Pintle
open Go Lib

lemma freshPools_append (routes : List Route) (route : Route) :
    freshPools (routes ++ [route]) =
      if route.backendPool ≠ [] then (freshPools routes).insert (poolKey route) 0
      else freshPools routes := by
  rw [freshPools, List.foldl_append]
  rfl

/-- Every declared pool has a counter, and every counter is zero. -/
lemma freshPools_lookup (routes : List Route) (key : GoString) (count : UInt64) :
    (freshPools routes).lookup key = some count ↔
      count = 0 ∧ ∃ route ∈ routes, route.backendPool ≠ [] ∧ poolKey route = key := by
  induction routes using List.reverseRecOn with
  | nil => simp [freshPools]
  | append_singleton routes route ih =>
    rw [freshPools_append]
    have weaken : (∃ earlier ∈ routes, earlier.backendPool ≠ [] ∧ poolKey earlier = key) →
        ∃ earlier ∈ routes ++ [route], earlier.backendPool ≠ [] ∧ poolKey earlier = key := by
      intro declared
      obtain ⟨earlier, member, found⟩ := declared
      exact ⟨earlier, List.mem_append_left _ member, found⟩
    constructor
    · intro found
      by_cases pooled : route.backendPool ≠ []
      · rw [if_pos pooled] at found
        by_cases same : key = poolKey route
        · subst same
          rw [AList.lookup_insert] at found
          exact ⟨(Option.some.inj found).symm, route, by simp, pooled, rfl⟩
        · rw [AList.lookup_insert_ne same, ih] at found
          exact ⟨found.1, weaken found.2⟩
      · rw [if_neg pooled, ih] at found
        exact ⟨found.1, weaken found.2⟩
    · intro declared
      obtain ⟨rfl, declarer, member, pooled, rfl⟩ := declared
      by_cases same : poolKey declarer = poolKey route ∧ route.backendPool ≠ []
      · rw [if_pos same.2, same.1, AList.lookup_insert]
      · have old : declarer ∈ routes := by
          rcases List.mem_append.mp member with old | new
          · exact old
          · cases List.mem_singleton.mp new
            exact absurd ⟨rfl, pooled⟩ same
        have kept := ih.mpr ⟨rfl, declarer, old, pooled, rfl⟩
        split
        · rename_i pooled'
          rw [AList.lookup_insert_ne fun e => same ⟨e, pooled'⟩]
          exact kept
        · exact kept

lemma registerHealth_append (routes : List Route) (route : Route) (ptr : Nat) :
    registerHealth (routes ++ [route]) ptr =
      if route.registered then
        ((registerHealth routes ptr).1.insert (healthKey route)
          { ptr := (registerHealth routes ptr).2, route := route }, (registerHealth routes ptr).2 + 1)
      else registerHealth routes ptr := by
  rw [registerHealth, List.foldl_append]
  rfl

/-- A registered record is fresh, and its route is a registered one with the record's key. -/
lemma registerHealth_lookup {routes : List Route} {ptr : Nat} {key : GoString} {state : HealthState}
    (found : (registerHealth routes ptr).1.lookup key = some state) :
    state.healthy = false ∧ state.next = none ∧ state.checkedAt = none ∧
      state.route ∈ routes ∧ state.route.registered = true ∧ healthKey state.route = key := by
  induction routes using List.reverseRecOn with
  | nil => simp [registerHealth] at found
  | append_singleton routes route ih =>
    have weaken (old : state.route ∈ routes) : state.route ∈ routes ++ [route] :=
      List.mem_append_left _ old
    rw [registerHealth_append] at found
    cases registered : route.registered with
    | false =>
      rw [registered] at found
      obtain ⟨unmarked, due, unchecked, member, rest⟩ := ih found
      exact ⟨unmarked, due, unchecked, weaken member, rest⟩
    | true =>
      rw [if_pos registered] at found
      by_cases same : key = healthKey route
      · subst same
        rw [AList.lookup_insert] at found
        cases found
        exact ⟨rfl, rfl, rfl, by simp, registered, rfl⟩
      · rw [AList.lookup_insert_ne same] at found
        obtain ⟨unmarked, due, unchecked, member, rest⟩ := ih found
        exact ⟨unmarked, due, unchecked, weaken member, rest⟩

/-- The keys with a record are those of the registered routes. -/
lemma registerHealth_isSome (routes : List Route) (ptr : Nat) (key : GoString) :
    ((registerHealth routes ptr).1.lookup key).isSome = true ↔
      ∃ route ∈ routes, route.registered = true ∧ healthKey route = key := by
  induction routes using List.reverseRecOn with
  | nil => simp [registerHealth]
  | append_singleton routes route ih =>
    rw [registerHealth_append]
    constructor
    · intro known
      obtain ⟨state, found⟩ := Option.isSome_iff_exists.mp known
      rw [← registerHealth_append] at found
      obtain ⟨_, _, _, member, registered, e⟩ := registerHealth_lookup found
      exact ⟨_, member, registered, e⟩
    · intro known
      obtain ⟨registrant, member, registered, rfl⟩ := known
      rcases List.mem_append.mp member with old | new
      · have known := ih.mpr ⟨registrant, old, registered, rfl⟩
        split
        · by_cases same : healthKey registrant = healthKey route
          · rw [same, AList.lookup_insert]
            rfl
          · rw [AList.lookup_insert_ne same]
            exact known
        · exact known
      · cases List.mem_singleton.mp new
        simp [registered]

namespace Router
variable {ρ : Type} [Regexp ρ]

/-- The routes of the tables are the installed ones whose pattern, if any, compiles. -/
lemma mem_flattenLocked {r : Router ρ} {routes : List Route} (inst : r.Installed routes)
    (ord : RangeOrder (GoString × List Route)) (route : Route) :
    route ∈ r.flattenLocked ord ↔
      route ∈ routes ∧ (route.isRegexp = true → compiles ρ route.hostname = true) := by
  rw [flattenLocked, List.mem_append, List.mem_flatMap, List.mem_flatMap]
  constructor
  · rintro (⟨⟨hostname, group⟩, member, inside⟩ | ⟨rr, member, inside⟩)
    · -- from the table of exact hosts
      rw [ord.mem_visit, GoMap.mem_pairs] at member
      have stored := inst.exact hostname
      rw [member, Option.getD_some] at stored
      rw [stored, byPathDesc, mem_sortDesc, exactRoutes, List.mem_filter] at inside
      simp only [Bool.and_eq_true, Bool.not_eq_true', decide_eq_true_eq] at inside
      exact ⟨inside.1, by simp [inside.2.1]⟩
    · -- from the group of a pattern, which compiles
      obtain ⟨pattern, _, group⟩ := inst.group member
      rw [group.2, byPathDesc, mem_sortDesc, patternRoutes, List.mem_filter] at inside
      simp only [Bool.and_eq_true, decide_eq_true_eq] at inside
      refine ⟨inside.1, fun _ => ?_⟩
      simp [compiles, inside.2.2, group.1]
  · intro listed
    obtain ⟨member, valid⟩ := listed
    cases regexp : route.isRegexp with
    | false =>
      left
      have inside : route ∈ byPathDesc (exactRoutes route.hostname routes) := by
        rw [byPathDesc, mem_sortDesc, exactRoutes, List.mem_filter]
        simp [member, regexp]
      rw [← inst.exact] at inside
      cases stored : r.routes.lookup route.hostname with
      | none => simp [stored] at inside
      | some group =>
        rw [stored] at inside
        exact ⟨(route.hostname, group), (ord.mem_visit).mpr (GoMap.mem_pairs.mpr stored), inside⟩
    | true =>
      right
      have known : route.hostname ∈ patterns ρ routes :=
        (mem_patterns ρ).mpr ⟨valid regexp, route, member, regexp, rfl⟩
      obtain ⟨i, bound, e⟩ := List.getElem_of_mem known
      have here := inst.regex
      rw [List.forall₂_iff_get] at here
      have bound' : i < r.regexRoutes.length := by rw [← here.1]; exact bound
      have group := here.2 i bound bound'
      refine ⟨r.regexRoutes[i], List.getElem_mem bound', ?_⟩
      simp only [List.get_eq_getElem, e] at group
      rw [group.2, byPathDesc, mem_sortDesc, patternRoutes, List.mem_filter]
      simp [member, regexp]

/-- A registered member of the installed routes: one that `Update` gives a health record. -/
def Checked (routes : List Route) (key : GoString) : Prop :=
  ∃ route ∈ routes, (route.isRegexp = true → compiles ρ route.hostname = true) ∧
    route.registered = true ∧ healthKey route = key

/-- The keys `resetHealthLocked` gives a record do not depend on the order the tables are visited.
-/
lemma reset_isSome {r : Router ρ} {routes : List Route} (inst : r.Installed routes)
    (ord : RangeOrder (GoString × List Route)) (key : GoString) :
    ((r.resetHealthLocked ord).health.lookup key).isSome = true ↔ Checked (ρ := ρ) routes key := by
  simp only [resetHealthLocked, registerHealth_isSome, mem_flattenLocked inst, Checked]
  constructor
  · intro registrant
    obtain ⟨route, ⟨member, valid⟩, registered, e⟩ := registrant
    exact ⟨route, member, valid, registered, e⟩
  · intro registrant
    obtain ⟨route, member, valid, registered, e⟩ := registrant
    exact ⟨route, ⟨member, valid⟩, registered, e⟩

end Router
end Pintle
