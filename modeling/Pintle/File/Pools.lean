import Mathlib.Data.List.Flatten
import Pintle.Aggregator.Order
import Pintle.File.Load
import Pintle.Router.Rotation

/-!
# What the loader promises

Every route of a message without an error comes from one entry of the routes file (`FromEntry`). So
the file provider keeps the promises that the merge and the rotation take from it: exact static
routes (`loadFile_fromFile`) and pools of at most 32 members that share all but their targets
(`loadFile_fairPools`).
-/

namespace Pintle.File
open Go

/-- The routes that one entry of the routes file stands for. -/
def StaticRouteConfig.emit (r : StaticRouteConfig) (path pool : GoString)
    (health : Option HealthCheck) (targets : List GoString) : List Route :=
  targets.flatMap fun target => r.hostnames.map fun hostname =>
    { hostname
      path
      target
      backendPool := pool
      health
      stripPath := r.strip
      source := lit "static" }

/-- The routes of the entry at an index. -/
def FromEntry (index : Nat) (routes : List Route) : Prop :=
  ∃ r path pool health targets, routes = StaticRouteConfig.emit r path pool health targets ∧
    (pool = [] ∨ pool = lit "static:" ++ itoa index) ∧ targets.length ≤ 32

lemma foldl_addHostname_nodup (names out : List GoString) (nodup : out.Nodup) :
    (names.foldl StaticRouteConfig.addHostname out).Nodup := by
  induction names generalizing out with
  | nil => exact nodup
  | cons name names ih =>
    apply ih
    rw [StaticRouteConfig.addHostname]
    split
    · exact nodup
    · rename_i fresh
      refine nodup.append (List.nodup_singleton _) ?_
      rw [List.disjoint_singleton]
      exact fun member => fresh (.inr member)

lemma StaticRouteConfig.hostnames_nodup (r : StaticRouteConfig) : r.hostnames.Nodup :=
  foldl_addHostname_nodup _ [] List.nodup_nil

namespace FileProvider
variable {υ : Type} [Url υ] {f : FileProvider} {pkg : Packages}

/-- What one turn of the loop over the targets has checked and added. -/
lemma addTargets_cons {index : Nat} {r : StaticRouteConfig} {path pool : GoString}
    {health : Option HealthCheck} {value : Value} {values : List Value} {seen : List GoString}
    {msg msg' : Message}
    (ok : f.addTargets υ index r path pool health (value :: values) seen msg = .ok msg') :
    ∃ u : υ, parseTarget υ (f.resolveTarget υ value) = some u ∧ dialable υ u = true ∧
      f.resolveTarget υ value ∉ seen ∧
      f.addTargets υ index r path pool health values (f.resolveTarget υ value :: seen)
        { msg with
          routes := msg.routes ++ r.emit path pool health [f.resolveTarget υ value] } =
            .ok msg' := by
  rw [addTargets] at ok
  split at ok
  · cases ok
  · dsimp only at ok
    split at ok
    · cases ok
    · rename_i u parsed
      split at ok
      · cases ok
      · split at ok
        · cases ok
        · rename_i port
          split at ok
          · cases ok
          · rename_i fresh
            refine ⟨u, parsed, by simpa using port, fresh, ?_⟩
            rw [StaticRouteConfig.emit, List.flatMap_singleton]
            exact ok

/-- The loop over the targets emits the routes of the entry. -/
lemma addTargets_ok {index : Nat} {r : StaticRouteConfig} {path pool : GoString}
    {health : Option HealthCheck} {values : List Value} {seen : List GoString} {msg msg' : Message}
    (ok : f.addTargets υ index r path pool health values seen msg = .ok msg') :
    msg' = { msg with
      routes := msg.routes ++ r.emit path pool health (values.map (f.resolveTarget υ)) } := by
  induction values generalizing seen msg with
  | nil =>
    cases ok
    simp [StaticRouteConfig.emit]
  | cons value values ih =>
    obtain ⟨_, _, _, _, later⟩ := addTargets_cons ok
    rw [ih later]
    simp [StaticRouteConfig.emit]

lemma addRoute_ok {index : Nat} {r : StaticRouteConfig} {msg msg' : Message}
    (ok : f.addRoute υ index r msg = .ok msg') :
    ∃ routes, FromEntry index routes ∧ msg' = { msg with routes := msg.routes ++ routes } := by
  rw [addRoute] at ok
  dsimp only at ok
  split at ok
  · cases ok
  · split at ok
    · exact ⟨_, ⟨r, _, _, _, _, rfl, .inl rfl, by simp⟩, addTargets_ok ok⟩
    · split at ok
      · cases ok
      · rename_i bound
        simp only [not_or, Nat.not_lt] at bound
        exact ⟨_, ⟨r, _, _, _, _, rfl, .inr rfl, by simpa using bound.2.2⟩, addTargets_ok ok⟩

/-- The loop over the entries emits their routes in order. -/
lemma addRoutes_ok {index : Nat} {entries : List StaticRouteConfig} {msg msg' : Message}
    (ok : f.addRoutes υ index entries msg = .ok msg') :
    ∃ blocks : List (List Route),
      (∀ i block, blocks[i]? = some block → FromEntry (index + i) block) ∧
      msg' = { msg with routes := msg.routes ++ blocks.flatten } := by
  induction entries generalizing index msg with
  | nil =>
    cases ok
    exact ⟨[], nofun, by simp⟩
  | cons r entries ih =>
    rw [addRoutes] at ok
    split at ok
    · cases ok
    · rename_i next step
      obtain ⟨routes, from_, rfl⟩ := addRoute_ok step
      obtain ⟨blocks, all, rfl⟩ := ih ok
      refine ⟨routes :: blocks, ?_, by simp⟩
      intro i block found
      cases i with
      | zero =>
        cases found
        exact from_
      | succ i =>
        rw [show index + (i + 1) = index + 1 + i from by omega]
        exact all i block found

/-- A turn of the loop over the targets fails, or adds the routes of its target. -/
lemma addTargets_turn (index : Nat) (r : StaticRouteConfig) (path pool : GoString)
    (health : Option HealthCheck) (value : Value) (values : List Value) (seen : List GoString)
    (msg : Message) :
    (∃ text, f.addTargets υ index r path pool health (value :: values) seen msg =
        .error (failRoute msg index text)) ∨
      f.addTargets υ index r path pool health (value :: values) seen msg =
        f.addTargets υ index r path pool health values (f.resolveTarget υ value :: seen)
          { msg with
            routes := msg.routes ++ r.emit path pool health [f.resolveTarget υ value] } := by
  rw [addTargets, StaticRouteConfig.emit, List.flatMap_singleton]
  split
  · exact .inl ⟨_, rfl⟩
  · dsimp only
    split
    · exact .inl ⟨_, rfl⟩
    · split
      · exact .inl ⟨_, rfl⟩
      · split
        · exact .inl ⟨_, rfl⟩
        · split
          · exact .inl ⟨_, rfl⟩
          · exact .inr rfl

/-- A loop that fails leaves its error in the message. -/
lemma addTargets_error {index : Nat} {r : StaticRouteConfig} {path pool : GoString}
    {health : Option HealthCheck} {values : List Value} {seen : List GoString}
    {msg failed : Message}
    (fails : f.addTargets υ index r path pool health values seen msg = .error failed) :
    failed.err ≠ none := by
  induction values generalizing seen msg with
  | nil => cases fails
  | cons value values ih =>
    rcases f.addTargets_turn (υ := υ) index r path pool health value values seen msg with
      ⟨_, turn⟩ | turn
    · cases turn.symm.trans fails
      nofun
    · exact ih (turn.symm.trans fails)

lemma addRoute_error {index : Nat} {r : StaticRouteConfig} {msg failed : Message}
    (fails : f.addRoute υ index r msg = .error failed) : failed.err ≠ none := by
  rw [addRoute] at fails
  dsimp only at fails
  split at fails
  · cases fails
    nofun
  · split at fails
    · exact addTargets_error fails
    · split at fails
      · cases fails
        nofun
      · exact addTargets_error fails

lemma addRoutes_error {index : Nat} {entries : List StaticRouteConfig} {msg failed : Message}
    (fails : f.addRoutes υ index entries msg = .error failed) : failed.err ≠ none := by
  induction entries generalizing index msg with
  | nil => cases fails
  | cons r entries ih =>
    rw [addRoutes] at fails
    split at fails
    · rename_i failed' step
      cases fails
      exact addRoute_error step
    · exact ih fails

/-- Where the routes of a document without an error come from. -/
lemma loadFileParsed_blocks {read : Except GoString GoString}
    (ok : (f.loadFileParsed υ pkg read).1.err = none) :
    (f.loadFileParsed υ pkg read).1.providerName = lit "file" ∧
    ∃ blocks : List (List Route), (∀ i block, blocks[i]? = some block → FromEntry i block) ∧
      (f.loadFileParsed υ pkg read).1.routes = blocks.flatten := by
  unfold loadFileParsed at ok ⊢
  dsimp only at ok ⊢
  cases document : read.bind (parseDocument pkg) with
  | error _ =>
    rw [document] at ok
    cases ok
  | ok parsed =>
    simp only [document] at ok ⊢
    cases loaded : f.addRoutes υ 0 parsed.routes { providerName := lit "file" } with
    | error failed =>
      simp only [loaded] at ok
      exact absurd ok (addRoutes_error loaded)
    | ok msg =>
      simp only [loaded] at ok ⊢
      obtain ⟨blocks, all, rfl⟩ := addRoutes_ok loaded
      split at ok
      · cases ok
      · rename_i few
        rw [if_neg few]
        exact ⟨rfl, blocks, by simpa using all, rfl⟩

/-- What is sent without an error is what was parsed. -/
lemma loadFile_eq {read : Except GoString GoString} (ok : (f.loadFile υ pkg read).err = none) :
    f.loadFile υ pkg read = (f.loadFileParsed υ pkg read).1 := by
  rw [loadFile] at ok ⊢
  cases checked : f.check υ pkg read with
  | mk msg err =>
    have same : msg = (f.loadFileParsed υ pkg read).1 := by
      rw [check] at checked
      exact (Prod.mk.inj checked).1.symm
    cases err with
    | none => exact same
    | some _ =>
      rw [checked] at ok
      cases ok

/-- Where the routes of a message without an error come from. -/
lemma loadFile_blocks {read : Except GoString GoString} (ok : (f.loadFile υ pkg read).err = none) :
    (f.loadFile υ pkg read).providerName = lit "file" ∧
    ∃ blocks : List (List Route), (∀ i block, blocks[i]? = some block → FromEntry i block) ∧
      (f.loadFile υ pkg read).routes = blocks.flatten := by
  have same := loadFile_eq ok
  rw [same] at ok ⊢
  exact loadFileParsed_blocks ok

end FileProvider

/-- Every route of an entry is static and exact. -/
lemma FromEntry.static {index : Nat} {routes : List Route} (from_ : FromEntry index routes)
    {route : Route} (member : route ∈ routes) :
    route.isRegexp = false ∧ route.source = lit "static" := by
  obtain ⟨r, path, pool, health, targets, rfl, _⟩ := from_
  obtain ⟨target, _, inside⟩ := List.mem_flatMap.mp member
  obtain ⟨hostname, _, rfl⟩ := List.mem_map.mp inside
  exact ⟨rfl, rfl⟩

/-- A pool is named after its entry. -/
lemma FromEntry.pool {index : Nat} {routes : List Route} (from_ : FromEntry index routes)
    {route : Route} (member : route ∈ routes) (pooled : route.backendPool ≠ []) :
    route.backendPool = lit "static:" ++ itoa index := by
  obtain ⟨r, path, pool, health, targets, rfl, named, _⟩ := from_
  obtain ⟨target, _, inside⟩ := List.mem_flatMap.mp member
  obtain ⟨hostname, _, rfl⟩ := List.mem_map.mp inside
  exact named.resolve_left pooled

/-- The routes of one entry share all but their targets and hostnames. -/
lemma FromEntry.alike {index : Nat} {routes : List Route} (from_ : FromEntry index routes)
    {a b : Route} (a_member : a ∈ routes) (b_member : b ∈ routes) (hostname : b.hostname = a.hostname) :
    a.inPool b = true := by
  obtain ⟨r, path, pool, health, targets, rfl, _⟩ := from_
  obtain ⟨target, _, inside⟩ := List.mem_flatMap.mp a_member
  obtain ⟨name, _, rfl⟩ := List.mem_map.mp inside
  obtain ⟨target', _, inside'⟩ := List.mem_flatMap.mp b_member
  obtain ⟨name', _, rfl⟩ := List.mem_map.mp inside'
  simp only at hostname
  simp [Route.inPool, Route.samePool, hostname]

/-- One entry puts at most 32 routes under a hostname. -/
lemma FromEntry.small {index : Nat} {routes : List Route} (from_ : FromEntry index routes)
    (route : Route) : (routes.filter route.samePool).length ≤ 32 := by
  obtain ⟨r, path, pool, health, targets, rfl, _, bound⟩ := from_
  refine le_trans ?_ bound
  rw [StaticRouteConfig.emit]
  clear bound
  induction targets with
  | nil => simp
  | cons target targets ih =>
    rw [List.flatMap_cons, List.filter_append, List.length_append, List.length_cons, Nat.add_comm]
    refine Nat.add_le_add ih ?_
    -- a hostname is in the list of the entry at most once
    rw [List.filter_map, List.length_map, ← List.countP_eq_length_filter]
    refine le_trans (List.countP_mono_left ?_)
      (List.nodup_iff_count_le_one.mp r.hostnames_nodup route.hostname)
    intro hostname _ same
    simp only [Function.comp_apply, Route.samePool, Bool.and_eq_true, decide_eq_true_eq] at same
    simp [same.1.1.1.1]

/-- Where only one of some lists has entries that meet a condition. -/
lemma filter_flatten_single {α : Type} {p : α → Bool} {blocks : List (List α)} {i : Nat}
    {block : List α} (found : blocks[i]? = some block)
    (others : ∀ j b, blocks[j]? = some b → j ≠ i → b.filter p = []) :
    blocks.flatten.filter p = block.filter p := by
  induction blocks generalizing i with
  | nil => cases found
  | cons first blocks ih =>
    rw [List.flatten_cons, List.filter_append]
    cases i with
    | zero =>
      cases found
      have none_later : blocks.flatten.filter p = [] := by
        rw [List.filter_flatten, List.flatten_eq_nil_iff]
        intro later member
        obtain ⟨b, inside, rfl⟩ := List.mem_map.mp member
        obtain ⟨j, at_j⟩ := List.mem_iff_getElem?.mp inside
        exact others (j + 1) b at_j (Nat.succ_ne_zero j)
      rw [none_later, List.append_nil]
    | succ i =>
      rw [others 0 first rfl (Nat.succ_ne_zero i).symm, List.nil_append]
      exact ih found fun j b at_j other => others (j + 1) b at_j (by omega)

section
variable {υ : Type} [Url υ] {f : FileProvider} {pkg : Packages} {read : Except GoString GoString}

/-- Every route comes from an entry, and two entries have pools of different names. -/
lemma loadFile_entries (ok : (f.loadFile υ pkg read).err = none) :
    ∃ blocks : List (List Route), (f.loadFile υ pkg read).routes = blocks.flatten ∧
      (∀ route ∈ blocks.flatten, ∃ i block, blocks[i]? = some block ∧ FromEntry i block ∧
        route ∈ block) ∧
      ∀ (i j : Nat) (block block' : List Route) (route route' : Route), blocks[i]? = some block →
        blocks[j]? = some block' → route ∈ block → route' ∈ block' → route.backendPool ≠ [] →
        route'.backendPool = route.backendPool → j = i := by
  obtain ⟨_, blocks, all, routes⟩ := FileProvider.loadFile_blocks ok
  refine ⟨blocks, routes, ?_, ?_⟩
  · intro route member
    obtain ⟨block, inside, member⟩ := List.mem_flatten.mp member
    obtain ⟨i, found⟩ := List.mem_iff_getElem?.mp inside
    exact ⟨i, block, found, all i block found, member⟩
  · intro i j block block' route route' at_i at_j inside inside' pooled same
    have named := (all j block' at_j).pool inside' (same ▸ pooled)
    rw [same, (all i block at_i).pool inside pooled] at named
    exact (itoa_injective (List.append_cancel_left named)).symm

/-- What the file provider promises the merge. -/
theorem loadFile_fromFile (ok : (f.loadFile υ pkg read).err = none) :
    FromFile (f.loadFile υ pkg read) := by
  have name := (FileProvider.loadFile_blocks ok).1
  obtain ⟨blocks, routes, entry, apart⟩ := loadFile_entries ok
  refine ⟨name, ?_, ?_, ?_⟩
  · intro route member
    obtain ⟨i, block, _, from_, inside⟩ := entry route (routes ▸ member)
    exact (from_.static inside).1
  · intro route member
    obtain ⟨i, block, _, from_, inside⟩ := entry route (routes ▸ member)
    exact (from_.static inside).2
  · intro route member pooled
    obtain ⟨i, block, found, from_, inside⟩ := entry route (routes ▸ member)
    rw [routes, filter_flatten_single found]
    · exact from_.small route
    · intro j block' at_j other
      rw [List.filter_eq_nil_iff]
      intro route' inside' same
      simp only [Route.samePool, Bool.and_eq_true, decide_eq_true_eq] at same
      exact other (apart i j block block' route route' found at_j inside inside' pooled same.1.1.1.2)

/-- What the file provider promises the rotation. -/
theorem loadFile_fairPools (ok : (f.loadFile υ pkg read).err = none) :
    FairPools (f.loadFile υ pkg read).routes := by
  obtain ⟨blocks, routes, entry, apart⟩ := loadFile_entries ok
  rw [routes]
  refine ⟨?_, ?_⟩
  · intro a a_member b b_member pooled hostname same
    obtain ⟨i, block, at_i, from_, a_inside⟩ := entry a a_member
    obtain ⟨j, block', at_j, _, b_inside⟩ := entry b b_member
    obtain rfl := apart i j block block' a b at_i at_j a_inside b_inside pooled same
    rw [at_i] at at_j
    cases at_j
    exact from_.alike a_inside b_inside hostname
  · intro route member
    obtain ⟨i, block, _, from_, inside⟩ := entry route member
    by_cases pooled : route.backendPool = []
    · rw [pooled]
      exact List.not_mem_nil
    · rw [from_.pool inside pooled, List.mem_append]
      rintro (label | number)
      · exact absurd label (by decide)
      · exact absurd (isDigit_of_mem_itoa number) (by decide)

end

end Pintle.File

namespace Pintle
open Go

/-- The Docker provider adds no pools, so the merged routes keep the promise. -/
lemma FairPools.merged {acc : Accepted} (fair : FairPools acc.file.routes)
    (ord : RangeOrder (GoString × Message)) : FairPools (merge ord acc.configs).routes := by
  have from_file : ∀ route ∈ (merge ord acc.configs).routes, route.backendPool ≠ [] →
      route ∈ acc.file.routes := by
    intro route member pooled
    have either : route ∈ acc.file.routes ∨ route ∈ acc.dockerRoutes := by
      rcases acc.merge_blocks ord with first | second
      · rw [first.routes] at member
        exact List.mem_append.mp member
      · rw [second.routes] at member
        exact (List.mem_append.mp member).symm
    exact either.resolve_right fun docker => pooled (acc.docker_unpooled docker)
  refine ⟨?_, ?_⟩
  · intro a a_member b b_member pooled hostname same
    exact fair.alike a (from_file a a_member pooled) b (from_file b b_member (same ▸ pooled)) pooled
      hostname same
  · intro route member
    by_cases pooled : route.backendPool = []
    · rw [pooled]
      exact List.not_mem_nil
    · exact fair.named route (from_file route member pooled)

end Pintle
