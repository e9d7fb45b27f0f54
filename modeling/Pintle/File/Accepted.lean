import Pintle.Config
import Pintle.File.Pools
import Pintle.Router.Fence

/-!
# An accepted routes file

What the routes of an accepted file are, and what the router relies on of them. A document stands
for the product of its entries with their targets and hosts (`documentRoutes`), and for it to be
accepted every entry must meet the conditions of `DocumentOk`, the others get an error on the
message (`check_promises`).
-/

namespace Pintle.File
open Go

namespace StaticRouteConfig

/-- The distinct trimmed hosts of an entry that are not blank, in order. -/
def names (r : StaticRouteConfig) : List GoString :=
  (((r.host :: r.hosts).map trimSpace).filter (· ≠ [])).eraseDups

/-- The targets of an entry. -/
def values (r : StaticRouteConfig) : List Value := r.targets.getD [r.target]

/-- The pool of the entry at an index: its own for a list of targets. -/
def pool (index : Nat) (r : StaticRouteConfig) : GoString :=
  if r.targets.isSome then lit "static:" ++ itoa index else []

end StaticRouteConfig

section
variable (υ : Type) [Url υ] (f : FileProvider)

namespace FileProvider

/-- The routes of the entry at an index: one for each target and each host. -/
def entryRoutes (index : Nat) (r : StaticRouteConfig) : List Route :=
  (r.values.map (f.resolveTarget υ)).flatMap fun target => r.names.map fun hostname =>
    { hostname
      path := if r.path = [] then lit "/" else r.path
      target
      backendPool := r.pool index
      health := r.health.bind (healthCheck υ r)
      stripPath := r.strip
      source := lit "static" }

/-- The routes of some entries, from an index on. -/
def entriesRoutes (index : Nat) (entries : List StaticRouteConfig) : List Route :=
  (entries.zipIdx index).flatMap fun entry => f.entryRoutes υ entry.2 entry.1

/-- The route of a TCP entry. -/
def tcpRoute (t : StaticTcpRouteConfig) : TcpRoute where
  hostname := t.host
  targetHost := (f.resolveTcpTarget t.target).1
  targetPort := (f.resolveTcpTarget t.target).2
  listenPort := t.listen
  source := lit "static"

/-- The routes of a document. -/
def documentRoutes (parsed : RoutesFile) : List Route := f.entriesRoutes υ 0 parsed.routes

end FileProvider

/-- An HTTP URL with a host, without a user, and with no port or one in range. -/
def ValidTarget (target : GoString) : Prop :=
  ∃ u : υ, Url.parse target = some u ∧ (Url.scheme u = lit "http" ∨ Url.scheme u = lit "https") ∧
    Url.hostname u ≠ [] ∧ Url.user u = none ∧
    (Url.port u = [] ∨ ∃ port, parseInt (Url.port u) = some port ∧ 1 ≤ port ∧ port ≤ 65535)

/-- The intervals of a readiness check. -/
def ValidIntervals (interval timeout : Int) : Prop :=
  5 ≤ interval ∧ interval ≤ 300 ∧ 1 ≤ timeout ∧ timeout ≤ 10 ∧ timeout ≤ interval

/-- What an entry must meet. -/
structure EntryOk (r : StaticRouteConfig) : Prop where
  named : r.names ≠ []
  pooled : ∀ targets, r.targets = some targets → 1 ≤ targets.length ∧ targets.length ≤ 32
  target : ∀ value ∈ r.values, ValidTarget υ (f.resolveTarget υ value)
  distinct : (r.values.map (f.resolveTarget υ)).Nodup
  health : ∀ h, r.health = some h → r.targets ≠ none ∧
    ∃ interval timeout, h.interval = .int interval ∧ h.timeout = .int timeout ∧
      ValidIntervals interval timeout

/-- What a document must meet. -/
structure DocumentOk (parsed : RoutesFile) : Prop where
  entries : ∀ r ∈ parsed.routes, EntryOk υ f r
  checked : ((f.documentRoutes υ parsed).filter (·.health.isSome)).length ≤ 128
  tcp : ∀ t ∈ parsed.tcp, validPort (f.resolveTcpTarget t.target).2 = true ∧
    validPort t.listen = true

/-- The routes that share the hostname and the pool of a route. -/
def membersOf (routes : List Route) (route : Route) : List Route :=
  routes.filter fun b => b.hostname = route.hostname && b.backendPool = route.backendPool

/-- What the router relies on of the routes of a document. -/
structure Promised (parsed : RoutesFile) (msg : Message) : Prop where
  named : ∀ route ∈ msg.routes, route.hostname ≠ []
  together : ∀ a ∈ msg.routes, ∀ b ∈ msg.routes, a.backendPool ≠ [] → b.hostname = a.hostname →
    b.backendPool = a.backendPool →
      (∃ i r, parsed.routes[i]? = some r ∧ a ∈ f.entryRoutes υ i r ∧ b ∈ f.entryRoutes υ i r) ∧
      b.path = a.path ∧ b.stripPath = a.stripPath ∧ b.h2c = a.h2c ∧ b.health = a.health
  members : ∀ route ∈ msg.routes, route.backendPool ≠ [] →
    1 ≤ (membersOf msg.routes route).length ∧ (membersOf msg.routes route).length ≤ 32 ∧
      ((membersOf msg.routes route).map (·.target)).Nodup
  keys : (∀ route ∈ msg.routes, 0 ∉ route.hostname ∧ 0 ∉ route.path) →
    ((msg.routes.filter (·.health.isSome)).map healthKey).Nodup
  health : ∀ route ∈ msg.routes, ∀ check, route.health = some check → route.backendPool ≠ [] ∧
    ValidIntervals check.intervalSeconds check.timeoutSeconds
  checked : (msg.routes.filter (·.health.isSome)).length ≤ 128
  target : ∀ route ∈ msg.routes, ValidTarget υ route.target
  tcp : ∀ route ∈ msg.tcpRoutes, (1 ≤ route.targetPort ∧ route.targetPort ≤ 65535) ∧
    1 ≤ route.listenPort ∧ route.listenPort ≤ 65535

end

lemma foldl_addHostname (names out : List GoString) :
    names.foldl StaticRouteConfig.addHostname out =
      out ++ ((names.map trimSpace).filter fun name => name ≠ [] && name ∉ out).eraseDups := by
  induction names generalizing out with
  | nil => simp
  | cons name names ih =>
    rw [List.foldl_cons, ih, StaticRouteConfig.addHostname, List.map_cons]
    split
    · rename_i skipped
      rw [List.filter_cons_of_neg]
      rcases skipped with blank | seen
      · simp [blank]
      · simp [seen]
    · rename_i fresh
      rw [not_or] at fresh
      have later : ((names.map trimSpace).filter fun other =>
          other ≠ [] && other ∉ out ++ [trimSpace name]) =
            (names.map trimSpace).filter fun other =>
              !other == trimSpace name && (other ≠ [] && other ∉ out) := by
        refine List.filter_congr fun other _ => ?_
        rw [Bool.eq_iff_iff]
        simp only [ne_eq, List.mem_append, List.mem_singleton, Bool.and_eq_true, decide_eq_true_eq,
          Bool.not_eq_true', beq_eq_false_iff_ne]
        tauto
      rw [later, List.filter_cons_of_pos (by simp [fresh]), List.eraseDups_cons, List.filter_filter,
        List.append_assoc]
      rfl

/-- The loop keeps the distinct hosts. -/
lemma StaticRouteConfig.hostnames_eq (r : StaticRouteConfig) : r.hostnames = r.names := by
  rw [hostnames, foldl_addHostname]
  simp [names]

lemma StaticRouteConfig.names_nodup (r : StaticRouteConfig) : r.names.Nodup :=
  r.hostnames_eq ▸ r.hostnames_nodup

lemma StaticRouteConfig.names_ne_nil {r : StaticRouteConfig} {name : GoString}
    (member : name ∈ r.names) : name ≠ [] := by
  have inside := List.mem_eraseDups.mp member
  simpa using (List.mem_filter.mp inside).2

lemma StaticRouteConfig.single {r : StaticRouteConfig} (single : r.targets = none) :
    r.values = [r.target] ∧ ∀ i, r.pool i = [] := by
  rw [values, single]
  exact ⟨rfl, fun i => by rw [pool, single]; rfl⟩

lemma StaticRouteConfig.listed {r : StaticRouteConfig} {targets : List Value}
    (listed : r.targets = some targets) :
    r.values = targets ∧ ∀ i, r.pool i = lit "static:" ++ itoa i := by
  rw [values, listed]
  exact ⟨rfl, fun i => by rw [pool, listed]; rfl⟩

/-- An entry with a list of targets has a pool. -/
lemma StaticRouteConfig.pool_ne_nil {r : StaticRouteConfig} {targets : List Value}
    (listed : r.targets = some targets) (i : Nat) : r.pool i ≠ [] := by
  rw [(StaticRouteConfig.listed listed).2]
  exact List.append_ne_nil_of_left_ne_nil (by decide) _

namespace FileProvider
variable {υ : Type} [Url υ] {f : FileProvider} {pkg : Packages}

/-- The check of a target that the loader makes. -/
lemma parseTarget_valid {target : GoString} {u : υ} (parsed : parseTarget υ target = some u)
    (port : dialable υ u = true) : ValidTarget υ target := by
  obtain ⟨found, checks⟩ := Option.filter_eq_some_iff.mp parsed
  simp only [Bool.and_eq_true, Bool.or_eq_true, decide_eq_true_eq, Option.isNone_iff_eq_none]
    at checks
  refine ⟨u, found, checks.1.1, checks.1.2, checks.2, ?_⟩
  simp only [dialable, Bool.or_eq_true, decide_eq_true_eq, Option.any_eq_true, validPort,
    Bool.and_eq_true] at port
  exact port

/-- The targets of a list that was loaded are valid and different. -/
lemma addTargets_valid {index : Nat} {r : StaticRouteConfig} {path pool : GoString}
    {health : Option HealthCheck} {values : List Value} {seen : List GoString} {msg msg' : Message}
    (ok : f.addTargets υ index r path pool health values seen msg = .ok msg') :
    (∀ value ∈ values, ValidTarget υ (f.resolveTarget υ value) ∧ f.resolveTarget υ value ∉ seen) ∧
      (values.map (f.resolveTarget υ)).Nodup := by
  induction values generalizing seen msg with
  | nil => exact ⟨nofun, List.nodup_nil⟩
  | cons value values ih =>
    obtain ⟨u, parsed, port, fresh, rest⟩ := addTargets_cons ok
    obtain ⟨later, distinct⟩ := ih rest
    refine ⟨?_, List.nodup_cons.mpr ⟨?_, distinct⟩⟩
    · intro other member
      cases member with
      | head => exact ⟨parseTarget_valid parsed port, fresh⟩
      | tail _ member =>
        obtain ⟨valid, unseen⟩ := later other member
        exact ⟨valid, fun inside => unseen (List.mem_cons_of_mem _ inside)⟩
    · intro again
      obtain ⟨other, member, same⟩ := List.mem_map.mp again
      exact (later other member).2 (same ▸ List.mem_cons_self)

/-- A readiness check that the loader takes is in range, on a list of targets. -/
lemma healthCheck_valid {r : StaticRouteConfig} {h : StaticHealthConfig} {check : HealthCheck}
    (taken : healthCheck υ r h = some check) : r.targets ≠ none ∧
      h.interval = .int check.intervalSeconds ∧ h.timeout = .int check.timeoutSeconds ∧
        ValidIntervals check.intervalSeconds check.timeoutSeconds := by
  rw [healthCheck] at taken
  split at taken
  · rename_i interval timeout u at_interval at_timeout _
    split at taken
    · cases taken
    · rename_i refused
      cases taken
      simp only [not_or, Int.not_lt] at refused
      exact ⟨refused.1, at_interval, at_timeout, by unfold ValidIntervals; dsimp only; omega⟩
  · cases taken

/-- What the loop makes of an entry, and what it has checked. -/
lemma addRoute_exact {index : Nat} {r : StaticRouteConfig} {msg msg' : Message}
    (ok : f.addRoute υ index r msg = .ok msg') (named : r.names ≠ []) :
    msg' = { msg with routes := msg.routes ++ f.entryRoutes υ index r } ∧ EntryOk υ f r := by
  rw [addRoute] at ok
  dsimp only at ok
  split at ok
  · cases ok
  · rename_i healthy
    have checks : ∀ h, r.health = some h → r.targets ≠ none ∧
        ∃ interval timeout, h.interval = .int interval ∧ h.timeout = .int timeout ∧
          ValidIntervals interval timeout := by
      intro h present
      rw [present, Option.map_some, Option.some.injEq] at healthy
      obtain ⟨check, taken⟩ := Option.ne_none_iff_exists'.mp healthy
      obtain ⟨listed, interval, timeout, valid⟩ := healthCheck_valid taken
      exact ⟨listed, _, _, interval, timeout, valid⟩
    have joined : (r.health.map (healthCheck υ r)).join = r.health.bind (healthCheck υ r) := by
      cases r.health <;> rfl
    rw [joined] at ok
    split at ok
    · rename_i single
      obtain ⟨values, pool⟩ := StaticRouteConfig.single single
      obtain ⟨valid, distinct⟩ := addTargets_valid ok
      refine ⟨?_, named, ?_, ?_, ?_, checks⟩
      · rw [addTargets_ok ok, entryRoutes, pool, values, StaticRouteConfig.emit, r.hostnames_eq]
      · intro targets listed
        rw [single] at listed
        cases listed
      · rw [values]
        exact fun value member => (valid value member).1
      · rw [values]
        exact distinct
    · rename_i targets listed
      split at ok
      · cases ok
      · rename_i size
        simp only [not_or, Nat.not_lt] at size
        obtain ⟨values, pool⟩ := StaticRouteConfig.listed listed
        obtain ⟨valid, distinct⟩ := addTargets_valid ok
        refine ⟨?_, named, ?_, ?_, ?_, checks⟩
        · rw [addTargets_ok ok, entryRoutes, pool, values, StaticRouteConfig.emit, r.hostnames_eq]
        · intro targets' listed'
          rw [listed] at listed'
          cases listed'
          exact size.2
        · rw [values]
          exact fun value member => (valid value member).1
        · rw [values]
          exact distinct

/-- The loop over the entries makes their product. -/
lemma addRoutes_exact {index : Nat} {entries : List StaticRouteConfig} {msg msg' : Message}
    (ok : f.addRoutes υ index entries msg = .ok msg') (named : ∀ r ∈ entries, r.names ≠ []) :
    msg' = { msg with routes := msg.routes ++ f.entriesRoutes υ index entries } ∧
      ∀ r ∈ entries, EntryOk υ f r := by
  induction entries generalizing index msg with
  | nil =>
    cases ok
    exact ⟨by simp [entriesRoutes], List.forall_mem_nil _⟩
  | cons r entries ih =>
    rw [addRoutes] at ok
    split at ok
    · cases ok
    · rename_i next step
      obtain ⟨rfl, first⟩ := addRoute_exact step (named r List.mem_cons_self)
      obtain ⟨rfl, later⟩ := ih ok fun r' member => named r' (List.mem_cons_of_mem r member)
      refine ⟨by simp [entriesRoutes], ?_⟩
      intro r' member
      cases member with
      | head => exact first
      | tail _ member => exact later r' member

/-- The message of an accepted document, and what it has been checked for. -/
lemma check_accepted {read : Except GoString GoString} {parsed : RoutesFile}
    (decoded : read.bind (parseDocument pkg) = .ok parsed)
    (accepted : (f.check υ pkg read).2 = none) :
    DocumentOk υ f parsed ∧ (f.check υ pkg read).1.routes = f.documentRoutes υ parsed ∧
      (f.check υ pkg read).1.tcpRoutes = parsed.tcp.map f.tcpRoute := by
  rw [check] at accepted ⊢
  dsimp only at accepted ⊢
  simp only [Option.orElse_eq_orElse, Option.orElse_eq_or, Option.or_eq_none_iff] at accepted
  obtain ⟨sound, named, _, tcp, _⟩ := accepted
  unfold loadFileParsed at sound named tcp ⊢
  simp only [decoded] at sound named tcp ⊢
  cases loaded : f.addRoutes υ 0 parsed.routes { providerName := lit "file" } with
  | error failed =>
    simp only [loaded] at sound
    exact absurd sound (addRoutes_error loaded)
  | ok msg =>
    simp only [loaded] at sound named tcp ⊢
    split at sound
    · cases sound
    · rename_i few
      simp only [if_neg few] at named tcp ⊢
      have some_name : ∀ r ∈ parsed.routes, r.names ≠ [] := by
        intro r member blank
        have nameless : (parsed.routes.any fun r => r.hostnames = []) = true :=
          List.any_eq_true.mpr ⟨r, member, by simpa [r.hostnames_eq] using blank⟩
        rw [if_pos nameless] at named
        cases named
      obtain ⟨rfl, entries⟩ := addRoutes_exact loaded some_name
      refine ⟨⟨entries, Nat.not_lt.mp few, ?_⟩, rfl, rfl⟩
      intro t member
      have checked := List.findSome?_eq_none_iff.mp tcp _ (List.mem_map_of_mem member)
      rw [tcpError] at checked
      split at checked
      · cases checked
      · rename_i valid
        simp only [not_or, Bool.not_eq_true', Bool.not_eq_false] at valid
        exact valid.2.2

/-- A file without an error is loaded as it was checked. -/
lemma loadFile_accepted {read : Except GoString GoString}
    (accepted : (f.loadFile υ pkg read).err = none) :
    (f.check υ pkg read).2 = none ∧ f.loadFile υ pkg read = (f.check υ pkg read).1 := by
  rw [loadFile] at accepted ⊢
  split at accepted
  · rename_i msg checked
    rw [checked]
    exact ⟨rfl, rfl⟩
  · cases accepted

lemma entriesRoutes_cons (index : Nat) (r : StaticRouteConfig) (entries : List StaticRouteConfig) :
    f.entriesRoutes υ index (r :: entries) =
      f.entryRoutes υ index r ++ f.entriesRoutes υ (index + 1) entries := by
  rw [entriesRoutes, List.zipIdx_cons, List.flatMap_cons]
  rfl

/-- A route of a document is a route of one of its entries. -/
lemma mem_entriesRoutes {index : Nat} {entries : List StaticRouteConfig} {route : Route}
    (member : route ∈ f.entriesRoutes υ index entries) :
    ∃ i r, entries[i]? = some r ∧ route ∈ f.entryRoutes υ (index + i) r := by
  induction entries generalizing index with
  | nil => cases member
  | cons r entries ih =>
    rw [entriesRoutes_cons] at member
    cases List.mem_append.mp member with
    | inl here => exact ⟨0, r, rfl, here⟩
    | inr later =>
      obtain ⟨i, r', found, inside⟩ := ih later
      exact ⟨i + 1, r', found, by rwa [Nat.add_right_comm, Nat.add_assoc] at inside⟩

/-- A route of an entry, with its target and its host. -/
lemma mem_entryRoutes {index : Nat} {r : StaticRouteConfig} {route : Route}
    (member : route ∈ f.entryRoutes υ index r) :
    ∃ value ∈ r.values, ∃ hostname ∈ r.names, route =
      { hostname
        path := if r.path = [] then lit "/" else r.path
        target := f.resolveTarget υ value
        backendPool := r.pool index
        health := r.health.bind (healthCheck υ r)
        stripPath := r.strip
        source := lit "static" } := by
  obtain ⟨target, at_target, inside⟩ := List.mem_flatMap.mp member
  obtain ⟨value, at_value, rfl⟩ := List.mem_map.mp at_target
  obtain ⟨hostname, named, rfl⟩ := List.mem_map.mp inside
  exact ⟨value, at_value, hostname, named, rfl⟩

end FileProvider

/-- A pool is named after the index of its entry. -/
lemma StaticRouteConfig.pool_eq {i : Nat} {r : StaticRouteConfig} (pooled : r.pool i ≠ []) :
    r.targets.isSome = true ∧ r.pool i = lit "static:" ++ itoa i := by
  cases targets : r.targets with
  | none => exact absurd ((single targets).2 i) pooled
  | some _ => exact ⟨rfl, (listed targets).2 i⟩

lemma StaticRouteConfig.pool_inj {i j : Nat} {r r' : StaticRouteConfig} (pooled : r.pool i ≠ [])
    (same : r'.pool j = r.pool i) : j = i := by
  have named := (pool_eq (same ▸ pooled)).2
  rw [same, (pool_eq pooled).2] at named
  exact (itoa_injective (List.append_cancel_left named)).symm

/-- What tells the members of pools apart. -/
def memberId (route : Route) : GoString × GoString × GoString :=
  (route.backendPool, route.hostname, route.target)

namespace FileProvider
variable {υ : Type} [Url υ] {f : FileProvider} {pkg : Packages}

lemma entryRoutes_nodup {r : StaticRouteConfig} (valid : EntryOk υ f r) (index : Nat) :
    ((f.entryRoutes υ index r).map memberId).Nodup := by
  rw [entryRoutes, List.map_flatMap, List.nodup_flatMap]
  constructor
  · intro target _
    rw [List.map_map]
    refine r.names_nodup.map fun name name' same => ?_
    exact congrArg (fun id : GoString × GoString × GoString => id.2.1) same
  · refine valid.distinct.imp fun {target target'} apart id first later => ?_
    obtain ⟨_, here, rfl⟩ := List.mem_map.mp first
    obtain ⟨_, _, rfl⟩ := List.mem_map.mp here
    obtain ⟨_, there, same⟩ := List.mem_map.mp later
    obtain ⟨_, _, rfl⟩ := List.mem_map.mp there
    exact apart (congrArg (fun id : GoString × GoString × GoString => id.2.2) same).symm

/-- The members of the pools of some entries are different. -/
lemma entriesRoutes_nodup {index : Nat} {entries : List StaticRouteConfig}
    (valid : ∀ r ∈ entries, EntryOk υ f r) :
    (((f.entriesRoutes υ index entries).filter fun route => route.backendPool ≠ []).map
      memberId).Nodup := by
  induction entries generalizing index with
  | nil => exact List.nodup_nil
  | cons r entries ih =>
    rw [entriesRoutes_cons, List.filter_append, List.map_append]
    refine List.Nodup.append ?_ (ih fun r' member => valid r' (List.mem_cons_of_mem r member)) ?_
    · refine (entryRoutes_nodup (valid r List.mem_cons_self) index).sublist ?_
      exact List.filter_sublist.map memberId
    · intro id first later
      obtain ⟨a, a_member, rfl⟩ := List.mem_map.mp first
      obtain ⟨b, b_member, same⟩ := List.mem_map.mp later
      obtain ⟨a_member, pooled⟩ := List.mem_filter.mp a_member
      obtain ⟨i, r', _, b_member⟩ := mem_entriesRoutes (List.mem_filter.mp b_member).1
      obtain ⟨_, _, _, _, rfl⟩ := mem_entryRoutes a_member
      obtain ⟨_, _, _, _, rfl⟩ := mem_entryRoutes b_member
      have index_eq := StaticRouteConfig.pool_inj (by simpa using pooled) (congrArg Prod.fst same)
      omega

/-- A route of a document comes from one entry. -/
lemma documentRoutes_entry {parsed : RoutesFile} {route : Route}
    (member : route ∈ f.documentRoutes υ parsed) :
    ∃ i r, parsed.routes[i]? = some r ∧ route ∈ f.entryRoutes υ i r := by
  obtain ⟨i, r, found, inside⟩ := mem_entriesRoutes member
  exact ⟨i, r, found, by rwa [Nat.zero_add] at inside⟩

/-- A route in the pool of a route comes from the same entry. -/
lemma pool_entry {parsed : RoutesFile} {i : Nat} {r : StaticRouteConfig} {a b : Route}
    (found : parsed.routes[i]? = some r) (a_inside : a ∈ f.entryRoutes υ i r)
    (b_member : b ∈ f.documentRoutes υ parsed) (pooled : a.backendPool ≠ [])
    (same : b.backendPool = a.backendPool) : b ∈ f.entryRoutes υ i r := by
  obtain ⟨j, r', at_j, b_inside⟩ := documentRoutes_entry b_member
  have pools : r'.pool j = r.pool i ∧ r.pool i ≠ [] := by
    obtain ⟨_, _, _, _, rfl⟩ := mem_entryRoutes a_inside
    obtain ⟨_, _, _, _, rfl⟩ := mem_entryRoutes b_inside
    exact ⟨same, pooled⟩
  obtain rfl := StaticRouteConfig.pool_inj pools.2 pools.1
  rw [found] at at_j
  cases at_j
  exact b_inside

/-- A checked route is a member of a pool, with intervals in range. -/
lemma checked_pooled {index : Nat} {r : StaticRouteConfig} {route : Route} {check : HealthCheck}
    (member : route ∈ f.entryRoutes υ index r) (checked : route.health = some check) :
    route.backendPool ≠ [] ∧ ValidIntervals check.intervalSeconds check.timeoutSeconds := by
  obtain ⟨_, _, _, _, rfl⟩ := mem_entryRoutes member
  obtain ⟨h, _, taken⟩ := Option.bind_eq_some_iff.mp checked
  obtain ⟨listed, _, _, valid⟩ := healthCheck_valid taken
  obtain ⟨targets, listed⟩ := Option.ne_none_iff_exists'.mp listed
  exact ⟨StaticRouteConfig.pool_ne_nil listed index, valid⟩

/-- The members of the pools of a document are different. -/
lemma documentRoutes_nodup {parsed : RoutesFile} (ok : DocumentOk υ f parsed) :
    (((f.documentRoutes υ parsed).filter fun route => route.backendPool ≠ []).map memberId).Nodup :=
  entriesRoutes_nodup ok.entries

/-- The members of a pool under a hostname are at most 32, with different targets. -/
lemma members_valid {parsed : RoutesFile} (ok : DocumentOk υ f parsed) {route : Route}
    (member : route ∈ f.documentRoutes υ parsed) (pooled : route.backendPool ≠ []) :
    1 ≤ (membersOf (f.documentRoutes υ parsed) route).length ∧
      (membersOf (f.documentRoutes υ parsed) route).length ≤ 32 ∧
      ((membersOf (f.documentRoutes υ parsed) route).map (·.target)).Nodup := by
  have alike {b : Route} (inside : b ∈ membersOf (f.documentRoutes υ parsed) route) :
      b ∈ f.documentRoutes υ parsed ∧ b.hostname = route.hostname ∧
        b.backendPool = route.backendPool := by
    simpa [membersOf] using inside
  have distinct : ((membersOf (f.documentRoutes υ parsed) route).map (·.target)).Nodup := by
    have all := (documentRoutes_nodup ok).sublist
      ((List.monotone_filter_right (f.documentRoutes υ parsed)
        (p := fun b => b.hostname = route.hostname && b.backendPool = route.backendPool)
        fun b chosen => by simp_all).map memberId)
    refine List.Nodup.of_map (fun target => (route.backendPool, route.hostname, target)) ?_
    have same : (membersOf (f.documentRoutes υ parsed) route).map memberId =
        ((membersOf (f.documentRoutes υ parsed) route).map (·.target)).map fun target =>
          (route.backendPool, route.hostname, target) := by
      rw [List.map_map]
      refine List.map_congr_left fun b inside => ?_
      obtain ⟨_, hostname, pool⟩ := alike inside
      rw [memberId, hostname, pool]
      rfl
    exact same ▸ all
  refine ⟨?_, ?_, distinct⟩
  · exact List.length_pos_of_mem (List.mem_filter.mpr ⟨member, by simp⟩)
  · obtain ⟨i, r, found, inside⟩ := documentRoutes_entry member
    have listed : r.pool i ≠ [] := by
      obtain ⟨_, _, _, _, rfl⟩ := mem_entryRoutes inside
      exact pooled
    obtain ⟨targets, listed⟩ := Option.isSome_iff_exists.mp (StaticRouteConfig.pool_eq listed).1
    have values := (StaticRouteConfig.listed listed).1
    have among : (membersOf (f.documentRoutes υ parsed) route).map (·.target) ⊆
        targets.map (f.resolveTarget υ) := by
      intro target at_target
      obtain ⟨b, b_member, rfl⟩ := List.mem_map.mp at_target
      obtain ⟨b_member, _, pool⟩ := alike b_member
      obtain ⟨value, at_value, _, _, rfl⟩ :=
        mem_entryRoutes (pool_entry found inside b_member pooled pool)
      exact List.mem_map_of_mem (values ▸ at_value)
    have count := (List.subperm_of_subset distinct among).length_le
    rw [List.length_map, List.length_map] at count
    exact count.trans ((ok.entries r (List.mem_of_getElem? found)).pooled targets listed).2

/-- The health keys of checked routes are different. -/
lemma keys_valid {parsed : RoutesFile} (ok : DocumentOk υ f parsed)
    (free : ∀ route ∈ f.documentRoutes υ parsed, 0 ∉ route.hostname ∧ 0 ∉ route.path) :
    (((f.documentRoutes υ parsed).filter (·.health.isSome)).map healthKey).Nodup := by
  have checked {route : Route} (member : route ∈ f.documentRoutes υ parsed)
      (health : route.health.isSome = true) : route.backendPool ≠ [] ∧ route.nulFree := by
    obtain ⟨i, r, _, inside⟩ := documentRoutes_entry member
    obtain ⟨check, present⟩ := Option.isSome_iff_exists.mp health
    have pooled := (checked_pooled inside present).1
    refine ⟨pooled, (free route member).1, ?_, (free route member).2⟩
    obtain ⟨_, _, _, _, rfl⟩ := mem_entryRoutes inside
    dsimp only at pooled ⊢
    rw [(StaticRouteConfig.pool_eq pooled).2, List.mem_append, not_or]
    exact ⟨by decide, fun digit => absurd (isDigit_of_mem_itoa digit) (by decide)⟩
  have among : (f.documentRoutes υ parsed).filter (·.health.isSome) =
      ((f.documentRoutes υ parsed).filter fun route => route.backendPool ≠ []).filter
        (·.health.isSome) := by
    rw [List.filter_filter]
    refine List.filter_congr fun route member => ?_
    cases health : route.health.isSome with
    | true => simpa using (checked member health).1
    | false => rfl
  have distinct : (((f.documentRoutes υ parsed).filter (·.health.isSome)).map memberId).Nodup := by
    rw [among]
    exact (documentRoutes_nodup ok).sublist (List.filter_sublist.map memberId)
  refine distinct.of_map.map_on fun a a_member b b_member same => ?_
  have a_inside := List.mem_filter.mp a_member
  have b_inside := List.mem_filter.mp b_member
  have a_free := (checked a_inside.1 a_inside.2).2
  have member := healthKey_inj a_free (checked b_inside.1 b_inside.2).2 same
  refine List.inj_on_of_nodup_map distinct a_member b_member ?_
  simp only [Route.sameMember, Bool.and_eq_true, decide_eq_true_eq] at member
  rw [memberId, memberId, member.1.1.1, member.1.1.2, member.2]

/-- What a document that meets the conditions promises. -/
lemma documentOk_promised {parsed : RoutesFile} (ok : DocumentOk υ f parsed) {msg : Message}
    (routes : msg.routes = f.documentRoutes υ parsed)
    (tcpRoutes : msg.tcpRoutes = parsed.tcp.map f.tcpRoute) : Promised υ f parsed msg := by
  have entry {route : Route} (member : route ∈ f.documentRoutes υ parsed) :
      ∃ i r, parsed.routes[i]? = some r ∧ r ∈ parsed.routes ∧ route ∈ f.entryRoutes υ i r := by
    obtain ⟨i, r, found, inside⟩ := documentRoutes_entry member
    exact ⟨i, r, found, List.mem_of_getElem? found, inside⟩
  refine ⟨?_, ?_, ?_, ?_, ?_, routes ▸ ok.checked, ?_, ?_⟩
  · intro route member
    obtain ⟨i, r, _, _, inside⟩ := entry (routes ▸ member)
    obtain ⟨_, _, hostname, named, rfl⟩ := mem_entryRoutes inside
    exact StaticRouteConfig.names_ne_nil named
  · intro a a_member b b_member pooled hostname same
    obtain ⟨i, r, found, _, a_inside⟩ := entry (routes ▸ a_member)
    have b_inside := pool_entry found a_inside (routes ▸ b_member) pooled same
    refine ⟨⟨i, r, found, a_inside, b_inside⟩, ?_⟩
    obtain ⟨_, _, _, _, rfl⟩ := mem_entryRoutes a_inside
    obtain ⟨_, _, _, _, rfl⟩ := mem_entryRoutes b_inside
    exact ⟨rfl, rfl, rfl, rfl⟩
  · rw [routes]
    exact fun route member pooled => members_valid ok member pooled
  · rw [routes]
    exact keys_valid ok
  · intro route member check checked
    obtain ⟨i, r, _, _, inside⟩ := entry (routes ▸ member)
    exact checked_pooled inside checked
  · intro route member
    obtain ⟨i, r, _, listed, inside⟩ := entry (routes ▸ member)
    obtain ⟨value, at_value, _, _, rfl⟩ := mem_entryRoutes inside
    exact (ok.entries r listed).target value at_value
  · intro route member
    rw [tcpRoutes] at member
    obtain ⟨t, listed, rfl⟩ := List.mem_map.mp member
    simpa [validPort, tcpRoute] using ok.tcp t listed

end FileProvider

section
variable {υ : Type} [Url υ] {f : FileProvider} {pkg : Packages}

/-- The routes of an accepted file are the product that its document stands for, and keep what the
router relies on; a document in which an entry does not meet its conditions gets an error, with
which the whole message is rejected. -/
theorem check_promises {read : Except GoString GoString} {parsed : RoutesFile}
    (decoded : read.bind (FileProvider.parseDocument pkg) = .ok parsed) :
    ((f.check υ pkg read).2 = none →
      (f.check υ pkg read).1.routes = f.documentRoutes υ parsed ∧
      Promised υ f parsed (f.check υ pkg read).1) ∧
    (¬ DocumentOk υ f parsed → (f.loadFile υ pkg read).err ≠ none ∧
      ∀ c : Config, c.accepts (f.loadFile υ pkg read) = false) := by
  constructor
  · intro accepted
    obtain ⟨ok, routes, tcpRoutes⟩ := FileProvider.check_accepted decoded accepted
    exact ⟨routes, FileProvider.documentOk_promised ok routes tcpRoutes⟩
  · intro broken
    have failed : (f.loadFile υ pkg read).err ≠ none := by
      rw [FileProvider.loadFile]
      cases checked : f.check υ pkg read with
      | mk msg err =>
        cases err with
        | none =>
          have accepted : (f.check υ pkg read).2 = none := by rw [checked]
          exact absurd (FileProvider.check_accepted decoded accepted).1 broken
        | some reason =>
          intro none
          cases none
    refine ⟨failed, fun c => ?_⟩
    obtain ⟨err, present⟩ := Option.ne_none_iff_exists'.mp failed
    rw [Config.accepts, Config.validateMessage, present]
    rfl

end

/-- A routes file with a pool of two targets. -/
def poolFile (first second : String) : GoString :=
  lit ("routes:\n  - host: a.lvh.me\n    targets: [" ++ first ++ ", " ++ second ++ "]\n")

/-- The document of the file. -/
def poolDocument (first second : String) : RoutesFile where
  routes :=
    [{  host := lit "a.lvh.me"
        targets := some [.string (lit first), .string (lit second)] }]

/-- What the packages say about the file. -/
def poolPackages (first second : String) : Packages where
  unmarshal data :=
    if data = poolFile first second then
      let scalar (value : String) : Node := .node .scalar (lit value) []
      let targets : Node := .node .sequence [] [scalar first, scalar second]
      let entry : Node :=
        .node .mapping [] [scalar "host", scalar "a.lvh.me", scalar "targets", targets]
      .ok (.node .document [] [.node .mapping [] [scalar "routes", .node .sequence [] [entry]]])
    else .error (lit "yaml: line 1: did not find expected node content")
  decode _ := .ok (poolDocument first second)
  quote s := lit "\"" ++ s ++ lit "\""

theorem check_promises_pool :
    Promised Origin ⟨lit "127.0.0.1"⟩ (poolDocument "http://b.lvh.me" "http://c.lvh.me")
      (FileProvider.check Origin ⟨lit "127.0.0.1"⟩
        (poolPackages "http://b.lvh.me" "http://c.lvh.me")
        (.ok (poolFile "http://b.lvh.me" "http://c.lvh.me"))).1 := by
  have decoded : (Except.ok (poolFile "http://b.lvh.me" "http://c.lvh.me")).bind
      (FileProvider.parseDocument (poolPackages "http://b.lvh.me" "http://c.lvh.me")) =
        .ok (poolDocument "http://b.lvh.me" "http://c.lvh.me") := rfl
  exact ((check_promises decoded).1 (by decide)).2

end Pintle.File
