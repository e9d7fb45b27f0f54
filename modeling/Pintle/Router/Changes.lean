import Mathlib.Data.List.Perm.Basic
import Pintle.Go.Ranges
import Pintle.Router.Fenced
import Pintle.Router.Reference

/-!
# The log of route changes

Model of the lines that `Update` of `internal/router/router.go` logs with `logger.RouteChange`: one
for each route of the new list under a key that was not routed, and one for each route that was
routed under a key that is gone. Read from the start of the process, the log says what is routed: a
key is, when the last line about it adds it. That goes wrong for one kind of route only, the one
whose pattern does not compile. Its line is logged and the route is not installed, so its removal is
never logged (`log_follows`).
-/

namespace Pintle
open Go Lib

/-- What happened to a route (the action of Go `logger.RouteChange`). -/
inductive ChangeAction where
  | add
  | remove
  deriving DecidableEq, Repr

/-- A line of the log of changes, with the arguments of Go `logger.RouteChange`. -/
structure RouteChange where
  action : ChangeAction
  hostname : GoString
  path : GoString
  target : GoString
  deriving DecidableEq, Repr

/-- Go `routeKey`. -/
def routeKey (route : Route) : GoString := route.hostname ++ route.path ++ lit "->" ++ route.target

/-- The line about a route. -/
def RouteChange.of (action : ChangeAction) (route : Route) : RouteChange :=
  ⟨action, route.hostname, route.path, route.target⟩

/-- The key of the route that a line is about. -/
def RouteChange.key (c : RouteChange) : GoString := c.hostname ++ c.path ++ lit "->" ++ c.target

@[simp]
lemma RouteChange.key_of (action : ChangeAction) (route : Route) :
    (of action route).key = routeKey route := rfl

@[simp]
lemma RouteChange.action_of (action : ChangeAction) (route : Route) :
    (of action route).action = action := rfl

/-- The lines that Go `Update` logs, in the order in which it finds the routes it had. -/
def Router.changes {ρ : Type} (ord : RangeOrder (GoString × List Route)) (routes : List Route)
    (r : Router ρ) : List RouteChange :=
  let prevRoutes := r.flattenLocked ord
  let prevSet := prevRoutes.map routeKey
  let nextSet := routes.map routeKey
  (routes.filter fun route => routeKey route ∉ prevSet).map (.of .add) ++
    (prevRoutes.filter fun route => routeKey route ∉ nextSet).map (.of .remove)

/-- Whether a key is routed after a line. -/
def RouteChange.settle (key : GoString) (routed : Bool) (c : RouteChange) : Bool :=
  if c.key = key then c.action = .add else routed

/-- Whether a key is routed as far as the log says: the last line about it adds it. -/
def routedBy (log : List RouteChange) (key : GoString) : Bool :=
  log.foldl (RouteChange.settle key) false

/-- A router with the lines it has logged. -/
structure LoggedRun (ρ : Type) where
  run : HealthRun ρ
  log : List RouteChange

/-- The router at work: an update logs its changes, and nothing else does. -/
def LoggedRun.system (ρ : Type) [Regexp ρ] : System (LoggedRun ρ) HealthEvent where
  init s := (HealthRun.system ρ).init s.run ∧ s.log = []
  step s e t := (HealthRun.system ρ).step s.run e t.run ∧
    match e with
    | .updated routes => ∃ ord, t.log = s.log ++ s.run.router.changes ord routes
    | _ => t.log = s.log

/-- A key under which every route that was ever listed has a pattern that compiles, if it has one. -/
def Compiled (ρ : Type) [Regexp ρ] (h : List HealthEvent) (key : GoString) : Prop :=
  ∀ routes, HealthEvent.updated routes ∈ h → ∀ route ∈ routes, routeKey route = key →
    route.isRegexp = true → compiles ρ route.hostname = true

/-- A key under which a route was listed, and never one with a pattern that compiles or without a
pattern. -/
structure Uncompiled (ρ : Type) [Regexp ρ] (h : List HealthEvent) (key : GoString) : Prop where
  listed : ∃ routes, HealthEvent.updated routes ∈ h ∧ ∃ route ∈ routes, routeKey route = key
  never : ∀ routes, HealthEvent.updated routes ∈ h → ∀ route ∈ routes, routeKey route = key →
    route.isRegexp = true ∧ compiles ρ route.hostname = false

/-- The keys of some routes. -/
def Keyed (routes : List Route) (key : GoString) : Prop := ∃ route ∈ routes, routeKey route = key

instance (routes : List Route) (key : GoString) : Decidable (Keyed routes key) :=
  inferInstanceAs (Decidable (∃ route ∈ routes, _))

lemma routedBy_append (log lines : List RouteChange) (key : GoString) :
    routedBy (log ++ lines) key = lines.foldl (RouteChange.settle key) (routedBy log key) := by
  rw [routedBy, List.foldl_append, ← routedBy]

/-- Lines with one action settle a key that one of them is about, and leave the others. -/
lemma foldl_lines (action : ChangeAction) (routes : List Route) (key : GoString) (routed : Bool) :
    (routes.map (RouteChange.of action)).foldl (RouteChange.settle key) routed =
      if Keyed routes key then decide (action = .add) else routed := by
  induction routes generalizing routed with
  | nil => simp [Keyed]
  | cons route routes ih =>
    rw [List.map_cons, List.foldl_cons, ih, RouteChange.settle, RouteChange.key_of,
      RouteChange.action_of]
    have either : Keyed (route :: routes) key ↔ routeKey route = key ∨ Keyed routes key := by
      simp [Keyed]
    by_cases here : routeKey route = key
    · simp [either, here]
    · simp [either, here]

/-- The routes under a key that others do not have. -/
lemma keyed_filter (routes others : List Route) (key : GoString) :
    Keyed (routes.filter fun route => routeKey route ∉ others.map routeKey) key ↔
      Keyed routes key ∧ ¬ Keyed others key := by
  simp only [Keyed, List.mem_filter, List.mem_map, decide_eq_true_eq]
  constructor
  · rintro ⟨route, ⟨member, apart⟩, rfl⟩
    exact ⟨⟨route, member, rfl⟩, apart⟩
  · rintro ⟨⟨route, member, rfl⟩, apart⟩
    exact ⟨route, ⟨member, apart⟩, rfl⟩

namespace Router
variable {ρ : Type} [Regexp ρ]

lemma patterns_nodup (routes : List Route) : (patterns ρ routes).Nodup := by
  induction routes using List.reverseRecOn with
  | nil => exact List.nodup_nil
  | append_singleton routes route ih =>
    rw [patterns_append]
    split
    · rename_i fresh
      exact ih.append (List.nodup_singleton _) (List.disjoint_singleton.mpr fresh.2.2)
    · exact ih

/-- The routes of the exact hostnames, as the table groups them. -/
lemma Installed.exact_perm {r : Router ρ} {routes : List Route} (inst : r.Installed routes) :
    (r.routes.pairs.flatMap (·.2)).Perm (routes.filter fun route => !route.isRegexp) := by
  have groups : (r.routes.pairs.flatMap (·.2)).Perm ((r.routes.pairs.map Prod.fst).flatMap fun k =>
      (routes.filter fun route => !route.isRegexp).filter (·.hostname = k)) := by
    rw [List.flatMap_map]
    apply List.Perm.flatMap_left
    rintro ⟨hostname, group⟩ member
    have stored := inst.exact hostname
    rw [GoMap.mem_pairs.mp member, Option.getD_some] at stored
    rw [stored, List.filter_filter]
    exact (List.perm_insertionSort _ _).trans (.of_eq (List.filter_congr fun _ _ => Bool.and_comm _ _))
  refine groups.trans ((flatMap_groups_perm (p := fun _ => true) _ r.routes.keys_nodup ?_).trans
    (.of_eq (List.filter_true _)))
  intro route member
  have stored := inst.exact route.hostname
  have inside : route ∈ byPathDesc (exactRoutes route.hostname routes) := by
    rw [byPathDesc, mem_sortDesc, exactRoutes, List.mem_filter]
    simpa using List.mem_filter.mp member
  rw [← stored] at inside
  cases found : r.routes.lookup route.hostname with
  | none => simp [found] at inside
  | some group =>
    have key : route.hostname ∈ r.routes.pairs.map Prod.fst :=
      List.mem_map.mpr ⟨_, GoMap.mem_pairs.mpr found, rfl⟩
    exact ⟨fun _ => key, fun _ => rfl⟩

/-- The routes of the patterns, as the table groups them. -/
lemma Installed.regex_perm {r : Router ρ} {routes : List Route} (inst : r.Installed routes) :
    (r.regexRoutes.flatMap (·.routes)).Perm
      (routes.filter fun route => route.isRegexp && compiles ρ route.hostname) := by
  have groups : (r.regexRoutes.flatMap (·.routes)).Perm ((patterns ρ routes).flatMap fun pattern =>
      (routes.filter (·.isRegexp)).filter (·.hostname = pattern)) := by
    have entries := inst.regex
    generalize r.regexRoutes = table at entries ⊢
    generalize patterns ρ routes = declared at entries ⊢
    induction entries with
    | nil => exact .refl _
    | @cons pattern rr _ _ group _ ih =>
      rw [List.flatMap_cons, List.flatMap_cons, group.2, List.filter_filter]
      refine ((List.perm_insertionSort _ _).trans (.of_eq ?_)).append ih
      exact List.filter_congr fun _ _ => Bool.and_comm _ _
  refine (groups.trans (flatMap_groups_perm (p := fun route => compiles ρ route.hostname) _
    (patterns_nodup routes) ?_)).trans (.of_eq ?_)
  · intro route member
    obtain ⟨listed, regexp⟩ := List.mem_filter.mp member
    rw [mem_patterns]
    exact ⟨fun valid => ⟨valid, route, listed, regexp, rfl⟩, And.left⟩
  · rw [List.filter_filter]
    exact List.filter_congr fun _ _ => Bool.and_comm _ _

/-- The routes of a router are the installed ones that it did not skip, each as often as it was
listed. -/
lemma Installed.flattenLocked_perm {r : Router ρ} {routes : List Route} (inst : r.Installed routes)
    (ord : RangeOrder (GoString × List Route)) :
    (r.flattenLocked ord).Perm (validRoutes ρ routes) := by
  have exacts := ((ord.perm r.routes.pairs).flatMap_right (·.2)).trans inst.exact_perm
  refine (exacts.append inst.regex_perm).trans ?_
  have parts := List.filter_append_perm (fun route : Route => !route.isRegexp) (validRoutes ρ routes)
  simp only [validRoutes, List.filter_filter] at parts
  refine .trans (.of_eq ?_) parts
  congr 1
  · apply List.filter_congr
    intro route _
    cases route.isRegexp <;> rfl
  · apply List.filter_congr
    intro route _
    cases route.isRegexp <;> simp

omit [Regexp ρ] in
/-- What the lines of an update do to a key: a listed one is routed unless it was before and the log
did not know, and another one is routed if it was not before and the log said so. -/
lemma routedBy_changes (ord : RangeOrder (GoString × List Route)) (routes : List Route)
    (r : Router ρ) (log : List RouteChange) (key : GoString) :
    routedBy (log ++ r.changes ord routes) key = true ↔
      if Keyed routes key then Keyed (r.flattenLocked ord) key → routedBy log key = true
      else ¬ Keyed (r.flattenLocked ord) key ∧ routedBy log key = true := by
  have added : Keyed (routes.filter fun route =>
      routeKey route ∉ (r.flattenLocked ord).map routeKey) key ↔
      Keyed routes key ∧ ¬ Keyed (r.flattenLocked ord) key := keyed_filter _ _ _
  have removed : Keyed ((r.flattenLocked ord).filter fun route =>
      routeKey route ∉ routes.map routeKey) key ↔
      Keyed (r.flattenLocked ord) key ∧ ¬ Keyed routes key := keyed_filter _ _ _
  rw [changes, ← List.append_assoc, routedBy_append, foldl_lines, routedBy_append, foldl_lines]
  simp only [added, removed]
  by_cases listed : Keyed routes key
  · by_cases before : Keyed (r.flattenLocked ord) key
    · simp [listed, before]
    · simp [listed, before]
  · by_cases before : Keyed (r.flattenLocked ord) key
    · simp [listed, before]
    · simp [listed, before]

end Router

section
variable {ρ : Type} [Regexp ρ]

lemma mem_validRoutes {routes : List Route} {route : Route} : route ∈ validRoutes ρ routes ↔
    route ∈ routes ∧ (route.isRegexp = true → compiles ρ route.hostname = true) := by
  rw [validRoutes, List.mem_filter]
  cases route.isRegexp <;> simp

namespace LoggedRun

/-- The router of a logged run is that of a run. -/
lemma run_health {h : List HealthEvent} {s : LoggedRun ρ} (run : (system ρ).Run h s) :
    (HealthRun.system ρ).Run h s.run := by
  induction run with
  | start ini => exact .start ini.1
  | next _ st ih => exact .next ih st.1

/-- What the log says of the routes. -/
structure Follows (h : List HealthEvent) (s : LoggedRun ρ) : Prop where
  routed : ∀ key, Keyed (validRoutes ρ (installedRoutes h)) key → routedBy s.log key = true
  only : ∀ key, Compiled ρ h key → routedBy s.log key = true →
    Keyed (validRoutes ρ (installedRoutes h)) key
  kept : ∀ key, Uncompiled ρ h key → routedBy s.log key = true

lemma installedRoutes_listed {h : List HealthEvent} {route : Route}
    (member : route ∈ installedRoutes h) :
    ∃ routes, HealthEvent.updated routes ∈ h ∧ route ∈ routes := by
  induction h with
  | nil => cases member
  | cons e h ih =>
    cases e with
    | updated routes => exact ⟨routes, List.mem_cons_self, member⟩
    | _ =>
      obtain ⟨routes, inside, listed⟩ := ih member
      exact ⟨routes, List.mem_cons_of_mem _ inside, listed⟩

/-- No installed route has a key of routes that do not compile. -/
lemma Uncompiled.absent {h : List HealthEvent} {key : GoString}
    (never : ∀ routes, HealthEvent.updated routes ∈ h → ∀ route ∈ routes, routeKey route = key →
      route.isRegexp = true ∧ compiles ρ route.hostname = false) :
    ¬ Keyed (validRoutes ρ (installedRoutes h)) key := by
  rintro ⟨route, member, same⟩
  obtain ⟨inside, valid⟩ := mem_validRoutes.mp member
  obtain ⟨routes, updated, listed⟩ := installedRoutes_listed inside
  obtain ⟨regexp, invalid⟩ := never routes updated route listed same
  rw [valid regexp] at invalid
  cases invalid

/-- A step without an update keeps the log in step with the routes. -/
lemma Follows.quiet {h : List HealthEvent} {s t : LoggedRun ρ} {e : HealthEvent}
    (follows : Follows h s) (other : ∀ routes, e ≠ .updated routes) (same : t.log = s.log) :
    Follows (e :: h) t := by
  have earlier {routes : List Route} (updated : HealthEvent.updated routes ∈ e :: h) :
      HealthEvent.updated routes ∈ h :=
    (List.mem_cons.mp updated).resolve_left fun now => other routes now.symm
  constructor
  · rw [installedRoutes_of_ne other, same]
    exact follows.routed
  · rw [installedRoutes_of_ne other, same]
    intro key compiled
    exact follows.only key fun routes updated => compiled routes (List.mem_cons_of_mem _ updated)
  · rw [same]
    intro key dead
    obtain ⟨⟨routes, updated, listed⟩, never⟩ := dead
    exact follows.kept key ⟨⟨routes, earlier updated, listed⟩,
      fun old inside => never old (List.mem_cons_of_mem _ inside)⟩

/-- An update keeps the log in step with the routes. -/
lemma Follows.updated {h : List HealthEvent} {s t : LoggedRun ρ} {routes : List Route}
    (follows : Follows h s) (inst : s.run.router.Installed (installedRoutes h))
    {ord : RangeOrder (GoString × List Route)}
    (logged : t.log = s.log ++ s.run.router.changes ord routes) :
    Follows (.updated routes :: h) t := by
  have before (key : GoString) : Keyed (s.run.router.flattenLocked ord) key ↔
      Keyed (validRoutes ρ (installedRoutes h)) key :=
    exists_congr fun route => and_congr_left' (inst.flattenLocked_perm ord).mem_iff
  have settled (key : GoString) := logged ▸ Router.routedBy_changes ord routes s.run.router s.log key
  simp only [before] at settled
  constructor
  · rintro key ⟨route, member, rfl⟩
    have listed : Keyed routes (routeKey route) := ⟨route, (mem_validRoutes.mp member).1, rfl⟩
    rw [settled, if_pos listed]
    exact follows.routed _
  · intro key compiled routed
    rw [settled] at routed
    by_cases listed : Keyed routes key
    · obtain ⟨route, member, rfl⟩ := listed
      have valid := compiled routes List.mem_cons_self route member rfl
      exact ⟨route, mem_validRoutes.mpr ⟨member, valid⟩, rfl⟩
    · -- a key that is gone was removed if it was routed, and the log knew of no other
      rw [if_neg listed] at routed
      have earlier : Compiled ρ h key := fun old inside => compiled old (List.mem_cons_of_mem _ inside)
      exact absurd (follows.only key earlier routed.2) routed.1
  · intro key dead
    have earlier : ∀ old, HealthEvent.updated old ∈ h → ∀ route ∈ old, routeKey route = key →
        route.isRegexp = true ∧ compiles ρ route.hostname = false :=
      fun old inside => dead.never old (List.mem_cons_of_mem _ inside)
    rw [settled]
    split
    · intro present
      exact absurd present (Uncompiled.absent earlier)
    · rename_i gone
      obtain ⟨⟨old, updated, listed⟩, _⟩ := dead
      cases List.mem_cons.mp updated with
      | inl now =>
        cases now
        exact absurd listed gone
      | inr before => exact ⟨Uncompiled.absent earlier, follows.kept key ⟨⟨old, before, listed⟩, earlier⟩⟩

lemma run_follows {h : List HealthEvent} {s : LoggedRun ρ} (run : (system ρ).Run h s) :
    Follows h s := by
  induction run with
  | start ini =>
    constructor
    · rintro key ⟨route, member, _⟩
      cases member
    · intro key _ routed
      rw [ini.2] at routed
      cases routed
    · rintro key ⟨⟨_, updated, _⟩, _⟩
      cases updated
  | @next h s e t run st ih =>
    cases update : e with
    | updated routes =>
      rw [update] at st
      obtain ⟨_, ord, logged⟩ := st
      exact ih.updated (HealthRun.run_fenced (run_health run)).tables logged
    | _ =>
      rw [update] at st
      exact ih.quiet (fun _ same => by cases same) st.2

/-- Whatever the router does, `GetAllRoutes` lists the routes of the last update whose pattern, if
any, compiles, each as often as the update did, and the log of changes knows their keys. It knows of
no other key if every route listed under it compiled, and never forgets one that none did. -/
theorem log_follows {h : List HealthEvent} {s : LoggedRun ρ} (run : (system ρ).Run h s)
    (ord : RangeOrder (GoString × List Route)) :
    (s.run.router.getAllRoutes ord).Perm (validRoutes ρ (installedRoutes h)) ∧
      ∀ key, (Keyed (s.run.router.getAllRoutes ord) key → routedBy s.log key = true) ∧
        (Compiled ρ h key →
          (routedBy s.log key = true ↔ Keyed (s.run.router.getAllRoutes ord) key)) ∧
        (Uncompiled ρ h key →
          routedBy s.log key = true ∧ ¬ Keyed (s.run.router.getAllRoutes ord) key) := by
  have listed := (HealthRun.run_fenced (run_health run)).tables.flattenLocked_perm ord
  have keyed (key : GoString) : Keyed (s.run.router.getAllRoutes ord) key ↔
      Keyed (validRoutes ρ (installedRoutes h)) key :=
    exists_congr fun route => and_congr_left' listed.mem_iff
  have follows := run_follows run
  refine ⟨listed, fun key => ?_⟩
  rw [keyed]
  refine ⟨follows.routed key, fun compiled => ?_, fun dead => ?_⟩
  · exact ⟨follows.only key compiled, follows.routed key⟩
  · exact ⟨follows.kept key dead, Uncompiled.absent dead.never⟩

/-- The log after a route that compiles and one that does not are both gone. -/
theorem log_follows_gone :
    let route : Route := { hostname := lit "app.lvh.me", path := lit "/", target := lit "http://a" }
    let broken : Route :=
      { hostname := lit "(", isRegexp := true, path := lit "/", target := lit "http://b" }
    ∃ s : LoggedRun Empty, (system Empty).Run [.updated [], .updated [route, broken]] s ∧
      routedBy s.log (routeKey route) = false ∧ routedBy s.log (routeKey broken) = true := by
  intro route broken
  let start : LoggedRun Empty := { run := .initial, log := [] }
  let listed : LoggedRun Empty :=
    { run := { start.run with router := start.run.router.update .stored [route, broken] }
      log := start.log ++ start.run.router.changes .stored [route, broken] }
  let gone : LoggedRun Empty :=
    { run := { listed.run with router := listed.run.router.update .stored [] }
      log := listed.log ++ listed.run.router.changes .stored [] }
  have begun : (system Empty).Run [] start := .start ⟨rfl, rfl⟩
  have updated : (system Empty).Run [.updated [route, broken]] listed :=
    .next begun ⟨.update .stored [route, broken], .stored, rfl⟩
  have run : (system Empty).Run [.updated [], .updated [route, broken]] gone :=
    .next updated ⟨.update .stored [], .stored, rfl⟩
  have apart : routeKey broken ≠ routeKey route := by decide
  obtain ⟨none_left, follows⟩ := log_follows run .stored
  refine ⟨gone, run, ?_, ?_⟩
  · have compiled : Compiled Empty [.updated [], .updated [route, broken]] (routeKey route) := by
      simp [Compiled, route, apart]
    rw [Bool.eq_false_iff, ne_eq, (follows _).2.1 compiled]
    rintro ⟨_, member, _⟩
    cases none_left.mem_iff.mp member
  · refine ((follows _).2.2 ⟨⟨[route, broken], by simp, broken, by simp, rfl⟩, ?_⟩).1
    simp [apart.symm, broken, compiles, Regexp.compile]

end LoggedRun
end
end Pintle
