import Pintle.Lib.Turns
import Pintle.Router.Serving

/-!
# Round-robin fairness

Between two `Update` calls a pool hands its requests to its eligible members in turns. The counter
of a pool is the number of selections made from it since the last `Update` (`run_turns`), so while
the eligible members stay the same, each selection is the next turn (`select_turn`), whatever calls
for other hosts, pools and paths come between (`round_robin`).

The file provider names its pools `static:0`, `static:1` and so on, and the routes of one hostname in
one pool come from one entry of the routes file; `FairPools` states what the fairness takes from it.
-/

namespace Pintle
open Go Lib

/-- What the pools of a list of routes promise: the routes of a pool share all that `matchPool`
compares, and no pool's name has a NUL, so the counter keys of two pools differ. -/
structure FairPools (routes : List Route) : Prop where
  alike : ∀ a ∈ routes, ∀ b ∈ routes, a.backendPool ≠ [] → b.hostname = a.hostname →
    b.backendPool = a.backendPool → a.inPool b = true
  named : ∀ route ∈ routes, (0 : UInt8) ∉ route.backendPool

/-- The eligible members of a pool, in the order of the list. -/
def Router.poolMembers {ρ : Type} (r : Router ρ) (routes : List Route) (hostname pool : GoString) :
    List Route :=
  routes.filter fun route =>
    route.hostname = hostname && route.backendPool = pool && r.eligible route

/-- Whether an event is an `Update` call. -/
def ServingEvent.isUpdate : ServingEvent → Bool
  | .background (.updated _) => true
  | _ => false

/-- Whether an event ends a `Resolve` call. -/
def ServingEvent.isCall : ServingEvent → Bool
  | .answered _ _ _ => true
  | .selected _ _ _ _ => true
  | _ => false

/-- The route an event selects from a pool. -/
def ServingEvent.selected? (hostname pool : GoString) : ServingEvent → Option Route
  | .selected _ _ _ route =>
    if route.hostname = hostname ∧ route.backendPool = pool then some route else none
  | _ => none

/-- The part of a history since the last `Update`, newest first. -/
def sinceUpdate (h : List ServingEvent) : List ServingEvent := h.takeWhile fun e => !e.isUpdate

/-- The list given to the last `Update`. -/
def lastRoutes (h : List ServingEvent) : List Route := installedRoutes (h.filterMap (·.effect))

/-- The routes selected from a pool, oldest first. -/
def selections (hostname pool : GoString) (h : List ServingEvent) : List Route :=
  (h.filterMap (·.selected? hostname pool)).reverse

lemma selections_append (hostname pool : GoString) (k h : List ServingEvent) :
    selections hostname pool (k ++ h) = selections hostname pool h ++ selections hostname pool k := by
  simp [selections]

lemma selections_cons (hostname pool : GoString) (e : ServingEvent) (h : List ServingEvent) :
    selections hostname pool (e :: h) =
      selections hostname pool h ++ (e.selected? hostname pool).toList := by
  cases selected : e.selected? hostname pool <;> simp [selections, selected]

lemma sinceUpdate_cons {e : ServingEvent} {h : List ServingEvent} (quiet : e.isUpdate = false) :
    sinceUpdate (e :: h) = e :: sinceUpdate h := by
  simp [sinceUpdate, quiet]

lemma lastRoutes_cons {e : ServingEvent} {h : List ServingEvent} (quiet : e.isUpdate = false) :
    lastRoutes (e :: h) = lastRoutes h := by
  cases e with
  | background e => cases e <;> first | rfl | cases quiet
  | _ => rfl

/-- Every selection from a pool is a call. -/
lemma length_selections_le (hostname pool : GoString) (h : List ServingEvent) :
    (selections hostname pool h).length ≤ h.countP (·.isCall) := by
  rw [selections, List.length_reverse, List.length_filterMap_eq_countP]
  apply List.countP_mono_left
  intro e _ chosen
  cases e with
  | selected caller hostname' path route => rfl
  | _ => cases chosen

namespace Router
variable {ρ : Type}

lemma pick_turn (count : UInt64) {members : List Route} (live : members ≠ []) :
    pick count members live = turn live count.toNat := by
  simp only [pick, turn, UInt64.add_sub_cancel]

/-- The pool a call selects from, and its counter. -/
lemma locatePool_select {r : Router ρ} {routes : List Route} {path : GoString} {res : ResolveResult}
    {members : List Route} {live : members ≠ []}
    (located : r.locatePool routes path = some (.select res members live)) :
    res.route ∈ routes ∧ res.route.backendPool ≠ [] ∧ members = r.members routes res.route ∧
      (r.pools.lookup (poolKey res.route)).isSome = true := by
  unfold locatePool at located
  rw [matchRoutes_eq] at located
  cases matched : routes.find? (·.matchesPath path) with
  | none => simp [matched] at located
  | some best =>
    simp only [matched, Option.map_some] at located
    split at located
    · cases located
    · rename_i pooled
      split at located
      · cases located
      · rename_i count counter
        split at located
        · cases located
        · cases located
          refine ⟨List.mem_of_find?_eq_some matched, pooled, rfl, ?_⟩
          rw [counter]
          rfl

variable [Regexp ρ]

lemma locateRegex_select {r : Router ρ} {routes : List Route} {hostname path : GoString}
    {res : ResolveResult} {members : List Route} {live : members ≠ []} {pats : List GoString}
    {groups : List (RegexRoute ρ)}
    (aligned : List.Forall₂ (fun pattern rr =>
      Regexp.compile pattern = some rr.re ∧ rr.routes = byPathDesc (patternRoutes pattern routes))
      pats groups)
    (located : r.locateRegex hostname path groups = some (.select res members live)) :
    ∃ pattern, r.locatePool (byPathDesc (patternRoutes pattern routes)) path =
      some (.select res members live) := by
  induction aligned with
  | nil => cases located
  | @cons pattern rr pats groups head _ ih =>
    obtain ⟨_, sorted⟩ := head
    rw [locateRegex, sorted] at located
    split at located
    · split at located
      · rename_i found
        cases located
        exact ⟨pattern, found⟩
      · exact ih located
    · exact ih located

/-- A call selects from the eligible routes of one pool of the installed list. -/
lemma Installed.locate_select {r : Router ρ} {routes : List Route} (inst : r.Installed routes)
    {hostname path : GoString} {res : ResolveResult} {members : List Route} {live : members ≠ []}
    (located : r.locate hostname path = some (.select res members live)) :
    res.route ∈ routes ∧ res.route.backendPool ≠ [] ∧
      members = routes.filter (fun route => res.route.inPool route && r.eligible route) ∧
      (r.pools.lookup (poolKey res.route)).isSome = true := by
  rw [locate, inst.exact] at located
  split at located
  · rename_i found
    cases located
    obtain ⟨member, pooled, rfl, counter⟩ := locatePool_select found
    have member := (mem_sortDesc _).mp member
    refine ⟨(List.mem_filter.mp member).1, pooled, ?_, counter⟩
    rw [exactRoutes_group member, members_group]
  · obtain ⟨pattern, found⟩ := locateRegex_select inst.regex located
    obtain ⟨member, pooled, rfl, counter⟩ := locatePool_select found
    have member := (mem_sortDesc _).mp member
    refine ⟨(List.mem_filter.mp member).1, pooled, ?_, counter⟩
    rw [patternRoutes_group member, members_group]

end Router

/-- In fair pools the routes of a route's pool are those of its hostname and pool. -/
lemma FairPools.members {routes : List Route} (fair : FairPools routes) {ρ : Type} (r : Router ρ)
    {best : Route} (member : best ∈ routes) (pooled : best.backendPool ≠ []) :
    (routes.filter fun route => best.inPool route && r.eligible route) =
      r.poolMembers routes best.hostname best.backendPool := by
  rw [Router.poolMembers]
  apply List.filter_congr
  intro route listed
  congr 1
  rw [Bool.eq_iff_iff, Bool.and_eq_true, decide_eq_true_eq, decide_eq_true_eq]
  constructor
  · intro same
    simp only [Route.inPool, Bool.and_eq_true] at same
    obtain ⟨hostname, pool, _⟩ := samePool_eq same.2
    exact ⟨hostname, pool⟩
  · intro same
    exact fair.alike best member route listed pooled same.1 same.2

/-- In fair pools the counter keys of two pools differ. -/
lemma FairPools.key_inj {routes : List Route} (fair : FairPools routes) {a b : Route}
    (member : a ∈ routes) (member' : b ∈ routes) (same : poolKey a = poolKey b) :
    a.hostname = b.hostname ∧ a.backendPool = b.backendPool := by
  -- the last separator is the one before the pool, which has none
  have reversed : a.backendPool.reverse ++ 0 :: a.hostname.reverse =
      b.backendPool.reverse ++ 0 :: b.hostname.reverse := by
    simpa [poolKey, nul] using congrArg List.reverse same
  obtain ⟨pool, hostname⟩ := append_sep_inj (by simpa using fair.named a member)
    (by simpa using fair.named b member') reversed
  exact ⟨List.reverse_injective hostname, List.reverse_injective pool⟩

namespace Serving

/-- What a selection takes: the member of its pool whose turn it is by the pool's counter, which it
increments. -/
structure Selection {ρ : Type} (r : Router ρ) (routes members : List Route) (live : members ≠ [])
    (chosen : Route) (r' : Router ρ) (count : UInt64) : Prop where
  listed : chosen ∈ routes
  pooled : chosen.backendPool ≠ []
  members : members = r.poolMembers routes chosen.hostname chosen.backendPool
  counter : r.pools.lookup (poolKey chosen) = some count
  turn : chosen = turn live count.toNat
  router : r' = r.addCounter (poolKey chosen) count

/-- The counter of each pool is the number of selections made from it. -/
def Turned {ρ : Type} (h : List ServingEvent) (s : Serving ρ) : Prop :=
  FairPools (lastRoutes h) → ∀ route ∈ lastRoutes h, route.backendPool ≠ [] →
    s.probing.router.pools.lookup (poolKey route) =
      some (UInt64.ofNat (selections route.hostname route.backendPool (sinceUpdate h)).length)

/-- A step that selects nothing and keeps the counters. -/
lemma Turned.quiet {ρ : Type} {h : List ServingEvent} {s t : Serving ρ} (turned : Turned h s)
    {e : ServingEvent} (quiet : e.isUpdate = false)
    (unselected : ∀ hostname pool, e.selected? hostname pool = none)
    (pools : t.probing.router.pools = s.probing.router.pools) : Turned (e :: h) t := by
  intro fair route
  rw [lastRoutes_cons quiet] at fair ⊢
  rw [pools, sinceUpdate_cons quiet, selections_cons, unselected, Option.toList_none,
    List.append_nil]
  exact turned fair route

variable {ρ : Type} [Regexp ρ]

/-- The tables of a serving router are those of the last `Update`. -/
lemma run_installed {h : List ServingEvent} {s : Serving ρ} (run : (system ρ).Run h s) :
    s.probing.router.Installed (lastRoutes h) :=
  (HealthRun.run_fenced (run_linearized run)).tables

lemma run_selection {h : List ServingEvent} {s : Serving ρ} (run : (system ρ).Run h s)
    (fair : FairPools (lastRoutes h)) {caller : Nat} {call : ResolveCall}
    (running : s.calls caller = some call) :
    ∃ count, Selection s.probing.router (lastRoutes h) call.members call.live
      (s.probing.router.complete (.select call.res call.members call.live)).1.route
      (s.probing.router.complete (.select call.res call.members call.live)).2 count := by
  obtain ⟨listed, pooled, members, counted⟩ :=
    (run_installed run).locate_select (run_current run caller call running)
  obtain ⟨count, counter⟩ := Option.isSome_iff_exists.mp counted
  have inside := @Router.pick_mem count _ call.live
  have chosen := Router.pick_turn count call.live
  simp only [Router.complete, counter, Option.getD_some]
  generalize Router.pick count call.members call.live = picked at inside chosen
  rw [members, List.mem_filter, Bool.and_eq_true] at inside
  obtain ⟨listed', same, _⟩ := inside
  simp only [Route.inPool, Bool.and_eq_true] at same
  obtain ⟨hostname, pool, _⟩ := samePool_eq same.2
  have key : poolKey picked = poolKey call.res.route := by rw [poolKey, poolKey, hostname, pool]
  rw [fair.members s.probing.router listed pooled, ← hostname, ← pool] at members
  exact ⟨count, listed', pool ▸ pooled, members, key ▸ counter, chosen, by rw [key]⟩

lemma step_turned {h : List ServingEvent} {s t : Serving ρ} {e : ServingEvent}
    (run : (system ρ).Run h s) (turned : Turned h s) (st : Step s e t) : Turned (e :: h) t := by
  cases st with
  | background e t step unresolved _ =>
    rcases HealthRun.step_tables step with
      ⟨ord, routes, rfl, router⟩ | ⟨hostname, path, rfl, _⟩ | ⟨other, tables⟩
    · -- fresh counters, and no selections since
      intro _ route listed pooled
      have fresh := (freshPools_lookup routes (poolKey route) 0).mpr ⟨rfl, route, listed, pooled, rfl⟩
      simp only [router]
      exact fresh
    · exact absurd rfl (unresolved hostname path)
    · refine turned.quiet ?_ (fun _ _ => rfl) tables.pools
      cases e with
      | updated routes => exact absurd rfl (other routes)
      | _ => rfl
  | answer caller hostname path _ _ => exact turned.quiet rfl (fun _ _ => rfl) rfl
  | enter caller hostname path res members live _ _ => exact turned.quiet rfl (fun _ _ => rfl) rfl
  | select caller call running =>
    intro fair route listed pooled
    rw [lastRoutes_cons rfl] at fair listed
    obtain ⟨count, selection⟩ := run_selection run fair running
    generalize (s.probing.router.complete (.select call.res call.members call.live)).1.route = chosen
      at selection ⊢
    obtain ⟨listed', pooled', _, counter, _, router⟩ := selection
    rw [turned fair chosen listed' pooled', Option.some.injEq] at counter
    rw [sinceUpdate_cons rfl, selections_cons, ServingEvent.selected?]
    simp only [router, Router.addCounter]
    by_cases same : chosen.hostname = route.hostname ∧ chosen.backendPool = route.backendPool
    · have key : poolKey route = poolKey chosen := by rw [poolKey, poolKey, same.1, same.2]
      rw [key, AList.lookup_insert, if_pos same, ← counter, same.1, same.2]
      simp
    · have key : poolKey route ≠ poolKey chosen := by
        intro key
        have equal := fair.key_inj listed listed' key
        exact same ⟨equal.1.symm, equal.2.symm⟩
      rw [AList.lookup_insert_ne key, if_neg same, turned fair route listed pooled]
      simp

/-- Along every run the counter of each pool is the number of selections made from it. -/
theorem run_turned {h : List ServingEvent} {s : Serving ρ} (run : (system ρ).Run h s) : Turned h s := by
  refine System.Run.invariant Turned ?_ ?_ run
  · intro _ _ _ route listed
    cases listed
  · intro h s e t run turned st
    exact step_turned run turned st

/-- The steps of a stretch without `Update` in which a pool's eligible members stay the same. -/
def Steady (routes : List Route) (hostname pool : GoString) (members : List Route) (s : Serving ρ)
    (e : ServingEvent) : Prop :=
  e.isUpdate = false ∧ s.probing.router.poolMembers routes hostname pool = members

/-- A selection from a pool is the next turn of its members. -/
lemma select_turn {h : List ServingEvent} {s t : Serving ρ} {e : ServingEvent}
    (run : (system ρ).Run h s) (fair : FairPools (lastRoutes h)) {hostname pool : GoString}
    {members : List Route} (live : members ≠ [])
    (steady : s.probing.router.poolMembers (lastRoutes h) hostname pool = members)
    (few : (sinceUpdate h).countP (·.isCall) < 2 ^ 64) (st : Step s e t) :
    (e.selected? hostname pool).toList =
      turns live (selections hostname pool (sinceUpdate h)).length
        (e.selected? hostname pool).toList.length := by
  cases st with
  | background e t _ _ _ => rfl
  | answer caller hostname path _ _ => rfl
  | enter caller hostname path res members live _ _ => rfl
  | select caller call running =>
    obtain ⟨count, selection⟩ := run_selection run fair running
    generalize (s.probing.router.complete (.select call.res call.members call.live)).1.route = chosen
      at selection ⊢
    obtain ⟨listed, pooled, found, counter, picked, _⟩ := selection
    rw [ServingEvent.selected?]
    split
    · rename_i same
      obtain ⟨rfl, rfl⟩ := same
      rw [run_turned run fair chosen listed pooled, Option.some.injEq] at counter
      have bound := length_selections_le chosen.hostname chosen.backendPool (sinceUpdate h)
      have position : count.toNat =
          (selections chosen.hostname chosen.backendPool (sinceUpdate h)).length := by
        rw [← counter, UInt64.toNat_ofNat', Nat.mod_eq_of_lt (by omega)]
      obtain ⟨_, _, res, members', live'⟩ := call
      dsimp only at found picked
      subst found steady
      rw [Option.toList_some, List.length_singleton, turns_succ, turns_zero, List.nil_append,
        Nat.add_zero, ← position, ← picked]
    · rfl

/-- Round-robin fairness. Take any run of concurrent `Resolve` calls, for any hosts and paths, with
fewer than 2^64 of them since the last `Update`, and any stretch of it without `Update` in which the
eligible members of a pool stay the same, at least one. Then the selections made from the pool in the
stretch are the members in turns, from the position given by the number of earlier selections from
the pool; any window of as many selections as there are members is a permutation of them; members
listed once are selected equally often, up to one; and the counter of every pool counts the
selections from that pool alone. -/
theorem round_robin {h : List ServingEvent} {s : Serving ρ} (run : (system ρ).Run h s)
    (fair : FairPools (lastRoutes h)) {hostname pool : GoString} {members : List Route}
    (live : members ≠ []) {k : List ServingEvent} {t : Serving ρ}
    (path : ((system ρ).restrict (Steady (lastRoutes h) hostname pool members)).Path s k t)
    (few : (sinceUpdate (k ++ h)).countP (·.isCall) < 2 ^ 64) :
    (selections hostname pool k = turns live (selections hostname pool (sinceUpdate h)).length
      (selections hostname pool k).length) ∧
    (∀ i, i + members.length ≤ (selections hostname pool k).length →
      (((selections hostname pool k).drop i).take members.length).Perm members) ∧
    (∀ a b, members.count a = 1 → members.count b = 1 →
      (selections hostname pool k).count a ≤ (selections hostname pool k).count b + 1) ∧
    ∀ route ∈ lastRoutes h, route.backendPool ≠ [] →
      t.probing.router.pools.lookup (poolKey route) =
        some (UInt64.ofNat
          (selections route.hostname route.backendPool (sinceUpdate (k ++ h))).length) := by
  -- along the stretch, what was selected so far are the turns so far
  obtain ⟨same, since, turned⟩ : lastRoutes (k ++ h) = lastRoutes h ∧
      sinceUpdate (k ++ h) = k ++ sinceUpdate h ∧
      selections hostname pool k = turns live (selections hostname pool (sinceUpdate h)).length
        (selections hostname pool k).length := by
    induction path with
    | refl => exact ⟨rfl, rfl, rfl⟩
    | @next k u e v path st ih =>
      obtain ⟨step, quiet, steady⟩ := st
      rw [List.cons_append, sinceUpdate_cons quiet, List.countP_cons] at few
      obtain ⟨same, since, turned⟩ := ih (by omega)
      have run' := run.append path.of_restrict
      have next := select_turn run' (same ▸ fair) live (same ▸ steady) (by omega) step
      rw [since, selections_append, List.length_append] at next
      refine ⟨(lastRoutes_cons quiet).trans same,
        (sinceUpdate_cons quiet).trans (congrArg (e :: ·) since), ?_⟩
      rw [selections_cons, List.length_append, turns_add, ← turned, ← next]
  have run' := run.append path.of_restrict
  refine ⟨turned, ?_, ?_, ?_⟩
  · intro i inside
    rw [turned] at inside ⊢
    rw [length_turns] at inside
    exact turns_window live inside
  · intro a b once once'
    rw [turned]
    exact count_turns_le live once once' _ _
  · have counters := run_turned run'
    rw [Turned, same] at counters
    exact counters fair

/-- A member of a pool without a check. -/
def twin (target : GoString) : Route where
  hostname := lit "a"
  path := lit "/"
  target := target
  backendPool := lit "static:0"

/-- Two members of one pool. -/
def pair : List Route := [twin (lit "http://one"), twin (lit "http://two")]

/-- A call that found the pair and is about to select. -/
def pairCall : ResolveCall where
  hostname := lit "a"
  path := lit "/"
  res := { target := lit "http://one", rewrittenPath := lit "/", route := twin (lit "http://one") }
  members := pair
  live := List.cons_ne_nil _ _

/-- The pair after `Update`. -/
def pairRouted : Serving Empty where
  probing := { (HealthRun.initial : HealthRun Empty) with router := Router.new.update .stored pair }
  calls _ := none

/-- Two calls that find the pool before either selects are sent to different members. -/
theorem round_robin_pair :
    ∃ h k, ∃ t : Serving Empty, (system Empty).Run h pairRouted ∧
      ((system Empty).restrict (Steady (lastRoutes h) (lit "a") (lit "static:0") pair)).Path
        pairRouted k t ∧
      selections (lit "a") (lit "static:0") k =
        turns pairCall.live (selections (lit "a") (lit "static:0") (sinceUpdate h)).length
          (selections (lit "a") (lit "static:0") k).length ∧
      selections (lit "a") (lit "static:0") k = pair := by
  have run : (system Empty).Run [.background (.updated pair)] pairRouted :=
    .next (.start rfl) (.background (.updated pair) _ (.update .stored pair) nofun (.inl fun _ => rfl))
  have fair : FairPools (lastRoutes [.background (.updated pair)]) := by
    refine ⟨?_, ?_⟩ <;> decide
  have path := System.Path.next (M := (system Empty).restrict
    (Steady (lastRoutes [.background (.updated pair)]) (lit "a") (lit "static:0") pair))
    (s := pairRouted) .refl
    ⟨.enter 0 (lit "a") (lit "/") pairCall.res pair pairCall.live rfl rfl, rfl, rfl⟩
  have path := path.next
    ⟨.enter 1 (lit "a") (lit "/") pairCall.res pair pairCall.live rfl rfl, rfl, rfl⟩
  have path := path.next ⟨.select 1 pairCall rfl, rfl, rfl⟩
  have path := path.next ⟨.select 0 pairCall rfl, rfl, rfl⟩
  exact ⟨_, _, _, run, path, (round_robin run fair pairCall.live path (by decide)).1, by decide⟩

end Serving
end Pintle
