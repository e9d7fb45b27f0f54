import Pintle.Docker.Watch
import Pintle.Pipeline.Latest
import Pintle.Router.Reference

/-!
# Failed discoveries

A list call that fails ends `discoverRoutes` early, and what the calls before it found is sent like
a complete result. The message has no error, so `ValidateMessage` lets it pass
(`accepts_discovery`), the aggregator stores it in place of the last one, and the router and the TCP
routes follow (`settled_docker`). A route in force survives exactly when the calls before the failed
one still yield it. When no container has changed, a failed second call spares the routes of
`pintle.*` labels alone (`spares_unchanged`).
-/

namespace Pintle.Docker
open Go Lib

/-- A message as one of the two providers sends it. -/
inductive Provided (networkName : GoString) : Message → Prop where
  | file {msg} :
    FromFile msg →
    (∀ route ∈ msg.tcpRoutes, route.source = lit "static") →
    Provided networkName msg
  | docker (ord : Orders) (proxyList traefikList allList : Option (List Container)) :
    Provided networkName
      (discoveryMessage (discoverRoutes networkName ord proxyList traefikList allList))

/-- The messages of the Docker watcher are such messages. -/
theorem provided_published {networkName : GoString} {h : List WatchEvent} {s : Watch}
    (run : (Watch.system networkName).Run h s) :
    ∀ msg ∈ publishedMessages h, Provided networkName msg := by
  intro msg member
  obtain ⟨sent, inside, rfl⟩ := List.mem_map.mp member
  obtain ⟨ord, proxyList, traefikList, allList, found⟩ := (Watch.run_genuine run).sent sent inside
  rw [found]
  exact .docker ord proxyList traefikList allList

/-- What the list calls before the failed one returned. -/
inductive Interrupted where
  | first
  | second (proxyContainers : List Container)
  | third (proxyContainers traefikContainers : List Container)

namespace Interrupted

/-- What a discovery with a failed call returns. -/
def found (networkName : GoString) (ord : Orders) : Interrupted → List Route × List TcpRoute
  | .first => discoverRoutes networkName ord none none none
  | .second proxyContainers => discoverRoutes networkName ord (some proxyContainers) none none
  | .third proxyContainers traefikContainers =>
    discoverRoutes networkName ord (some proxyContainers) (some traefikContainers) none

/-- Each of some routes is one of the `pintle.*` labels when the second call fails, or of those or
Traefik's when the third one does; there are none when the first one does. -/
def Spares (networkName : GoString) (ord : Orders) (routes : List Route) (tcpRoutes : List TcpRoute) :
    Interrupted → Prop
  | .first => routes = [] ∧ tcpRoutes = []
  | .second proxyContainers =>
    (∀ route ∈ routes, ∃ info ∈ proxyContainers, route ∈ proxyRoutes networkName info) ∧
      tcpRoutes = []
  | .third proxyContainers traefikContainers =>
    (∀ route ∈ routes, (∃ info ∈ proxyContainers, route ∈ proxyRoutes networkName info) ∨
      ∃ info ∈ traefikCandidates proxyContainers traefikContainers,
        route ∈ traefikRoutes networkName ord info) ∧
    ∀ route ∈ tcpRoutes, ∃ info ∈ traefikCandidates proxyContainers traefikContainers,
      route ∈ traefikTcpRoutes networkName ord info

lemma spares_iff (networkName : GoString) (ord : Orders) (routes : List Route)
    (tcpRoutes : List TcpRoute) (lists : Interrupted) :
    ((∀ route ∈ routes, route ∈ (lists.found networkName ord).1) ∧
      ∀ route ∈ tcpRoutes, route ∈ (lists.found networkName ord).2) ↔
    lists.Spares networkName ord routes tcpRoutes := by
  cases lists with
  | first => simp [found, discoverRoutes, Spares, List.eq_nil_iff_forall_not_mem]
  | second proxyContainers =>
    simp [found, discoverRoutes, Spares, List.eq_nil_iff_forall_not_mem]
  | third proxyContainers traefikContainers => simp [found, discoverRoutes, Spares]

/-- When the containers are those of the last discovery, a failed second call spares its routes
exactly when they all come from `pintle.*` labels and there are no TCP routes. -/
theorem spares_unchanged (networkName : GoString) (ord ord' : Orders) (running : List Container)
    {routes : List Route} (old : ∀ route ∈ routes, route ∈ (discover networkName ord' running).1)
    (tcpRoutes : List TcpRoute) :
    (Interrupted.second (running.filter Container.hasProxyLabel)).Spares networkName ord routes
      tcpRoutes ↔ (∀ route ∈ routes, route.source = lit "docker") ∧ tcpRoutes = [] := by
  refine and_congr_left fun _ => ?_
  constructor
  · intro spared route member
    obtain ⟨info, _, here⟩ := spared route member
    exact (proxyRoutes_mem here).2.1
  · intro own route member
    have docker := own route member
    cases discoverRoutes_origin (old route member) with
    | proxy listed here => exact ⟨_, listed, here⟩
    | traefik _ here =>
      rw [(traefikRoutes_mem here).2.1] at docker
      exact absurd docker (by decide)
    | caddy _ here =>
      rw [(caddyRoutes_mem here).1] at docker
      exact absurd docker (by decide)

end Interrupted

/-- Outside static-only mode every discovery is accepted. -/
lemma accepts_discovery {c : Config} (dynamic : c.staticOnly = false)
    (found : List Route × List TcpRoute) : c.accepts (discoveryMessage found) = true := by
  simp [Config.accepts, Config.validateMessage, discoveryMessage, dynamic]

/-- The last accepted message of the Docker provider. -/
def lastPublished (msgs : List Message) : Message :=
  ((Configs.storeAll msgs).lookup (lit "docker")).getD { providerName := lit "docker" }

lemma Provided.docker_sources {networkName : GoString} {msg : Message}
    (provided : Provided networkName msg) (docker : msg.providerName = lit "docker") :
    (∀ route ∈ msg.routes, route.source ≠ lit "static") ∧
      ∀ route ∈ msg.tcpRoutes, route.source ≠ lit "static" := by
  cases provided with
  | file fromFile _ =>
    rw [fromFile.name] at docker
    exact absurd docker (by decide)
  | docker ord proxyList traefikList allList =>
    refine ⟨?_, ?_⟩
    · intro route member
      cases discoverRoutes_origin member with
      | proxy _ here =>
        rw [(proxyRoutes_mem here).2.1]
        decide
      | traefik _ here =>
        rw [(traefikRoutes_mem here).2.1]
        decide
      | caddy _ here =>
        rw [(caddyRoutes_mem here).1]
        decide
    · intro route member
      rw [discoverRoutes_tcp member]
      decide

/-- No route of the Docker provider is a static one. -/
lemma lastPublished_sources {networkName : GoString} {msgs : List Message}
    (provided : ∀ msg ∈ msgs, Provided networkName msg) :
    (∀ route ∈ (lastPublished msgs).routes, route.source ≠ lit "static") ∧
      ∀ route ∈ (lastPublished msgs).tcpRoutes, route.source ≠ lit "static" := by
  rw [lastPublished, storeAll_lookup]
  cases found : msgs.reverse.find? (·.providerName = lit "docker") with
  | none => exact ⟨nofun, nofun⟩
  | some msg =>
    have member := List.mem_reverse.mp (List.mem_of_find?_eq_some found)
    have name := List.find?_some found
    exact (provided msg member).docker_sources (by simpa using name)

/-- The entries of the last message stored, as the merge reads them: no other provider has any of
its kind. -/
lemma mem_latest {α : Type} (entries : Message → List α) (before : List Message) (msg : Message)
    (ord : RangeOrder (GoString × Message)) {x : α}
    (own : ∀ other ∈ before, other.providerName ≠ msg.providerName → x ∉ entries other) :
    x ∈ (ord.visit ((Configs.storeAll before).store msg).pairs).flatMap (entries ·.2) ↔
      x ∈ entries msg := by
  rw [List.mem_flatMap]
  constructor
  · intro entry
    obtain ⟨⟨provider, other⟩, visited, inside⟩ := entry
    have stored := GoMap.mem_pairs.mp (ord.mem_visit.mp visited)
    rw [Configs.store] at stored
    -- the entry is the message itself or an earlier one of another provider
    by_cases same : provider = msg.providerName
    · subst same
      rw [AList.lookup_insert] at stored
      rw [Option.some.inj stored]
      exact inside
    · rw [AList.lookup_insert_ne same, storeAll_lookup] at stored
      have member := List.mem_reverse.mp (List.mem_of_find?_eq_some stored)
      have name := List.find?_some stored
      simp only [decide_eq_true_eq] at name
      exact absurd inside (own other member (name ▸ same))
  · intro inside
    refine ⟨(msg.providerName, msg), ?_, inside⟩
    rw [ord.mem_visit, GoMap.mem_pairs, Configs.store]
    exact AList.lookup_insert ..

end Pintle.Docker

namespace Pintle.Pipeline
open Go Lib Docker
variable {ρ : Type} [Regexp ρ]

/-- Nothing is on its way to the router. -/
structure Settled (s : Pipeline ρ) : Prop where
  started : s.started = true
  empty : s.aggCh = none
  idle : s.watcher = .idle
  idle' : s.applier = .idle

/-- Every route of a message that the router can hold, and every TCP route of it, is in force. -/
structure Serves (s : Pipeline ρ) (msg : Message) : Prop where
  routes : ∀ route ∈ validRoutes ρ msg.routes, ∀ visit, route ∈ s.router.getAllRoutes visit
  tcpRoutes : ∀ route ∈ msg.tcpRoutes, route ∈ s.allTcpRoutes

variable {c : Config} {h : List PipelineEvent} {s : Pipeline ρ} {before : List Message}
  {networkName : GoString} {found : List Route × List TcpRoute}

/-- After a discovery the routes of the Docker provider are those it returned. -/
lemma settled_docker (run : (system ρ c).Run h s) (settled : s.Settled)
    (accepted : acceptedMessages h = before ++ [discoveryMessage found])
    (provided : ∀ msg ∈ before, Provided networkName msg) :
    (∀ route, route.source ≠ lit "static" → ∀ visit,
      (route ∈ s.router.getAllRoutes visit ↔ route ∈ validRoutes ρ found.1)) ∧
    ∀ route, route.source ≠ lit "static" → (route ∈ s.allTcpRoutes ↔ route ∈ found.2) := by
  have inv := run_sound run
  obtain ⟨ord, _, installed, tcp⟩ :=
    rest_latest inv settled.started settled.empty settled.idle settled.idle'
  rw [inv.stored, accepted, storeAll_append] at installed tcp
  -- the messages that stay in the map are the file provider's, whose routes are static
  have file {msg : Message} (member : msg ∈ before)
      (other : msg.providerName ≠ (discoveryMessage found).providerName) :
      FromFile msg ∧ ∀ route ∈ msg.tcpRoutes, route.source = lit "static" := by
    cases provided msg member with
    | file fromFile static => exact ⟨fromFile, static⟩
    | docker => exact absurd rfl other
  refine ⟨?_, ?_⟩
  · intro route dynamic visit
    have latest := mem_latest Message.routes before (discoveryMessage found) ord (x := route)
      fun msg member other inside => dynamic ((file member other).1.static route inside)
    rw [Router.getAllRoutes, Router.mem_flattenLocked installed, merge_routes, latest]
    simp [validRoutes, discoveryMessage, imp_iff_not_or]
  · intro route dynamic
    have latest := mem_latest Message.tcpRoutes before (discoveryMessage found) ord (x := route)
      fun msg member other inside => dynamic ((file member other).2 route inside)
    rw [tcp, merge_tcpRoutes, latest]
    rfl

/-- A failed discovery keeps the routes of the Docker provider exactly when the calls before the
failed one still yield them. -/
theorem failed_discovery_keeps (run : (system ρ c).Run h s) (settled : s.Settled) (ord : Orders)
    (lists : Interrupted)
    (accepted : acceptedMessages h =
      before ++ [discoveryMessage (lists.found networkName ord)])
    (provided : ∀ msg ∈ before, Provided networkName msg) :
    s.Serves (lastPublished before) ↔
      lists.Spares networkName ord (validRoutes ρ (lastPublished before).routes)
        (lastPublished before).tcpRoutes := by
  obtain ⟨routes, tcpRoutes⟩ := settled_docker run settled accepted provided
  obtain ⟨dynamic, dynamicTcp⟩ := lastPublished_sources provided
  rw [← lists.spares_iff]
  constructor
  · intro serves
    refine ⟨?_, ?_⟩
    · intro route valid
      have here := dynamic route (List.mem_filter.mp valid).1
      have held := serves.routes route valid .stored
      rw [routes route here] at held
      exact (List.mem_filter.mp held).1
    · intro route member
      have held := serves.tcpRoutes route member
      rwa [tcpRoutes route (dynamicTcp route member)] at held
  · intro spared
    obtain ⟨kept, keptTcp⟩ := spared
    refine ⟨?_, ?_⟩
    · intro route valid visit
      obtain ⟨member, installable⟩ := List.mem_filter.mp valid
      rw [routes route (dynamic route member)]
      exact List.mem_filter.mpr ⟨kept route valid, installable⟩
    · intro route member
      rw [tcpRoutes route (dynamicTcp route member)]
      exact keptTcp route member

/-- A file without routes. -/
def emptyFile : Message where
  providerName := lit "file"

/-- The messages before the failure: an empty file and the discovery of one container. -/
def appPublished : List Message :=
  [emptyFile, discoveryMessage (discover (lit "n") (fun _ => .stored) [app])]

lemma appPublished_provided : ∀ msg ∈ appPublished, Provided (lit "n") msg := by
  intro msg member
  cases member with
  | head => exact .file ⟨rfl, nofun, nofun, nofun⟩ nofun
  | tail _ member =>
    cases member with
    | head => exact .docker (fun _ => .stored) _ _ _
    | tail _ none_left => cases none_left

/-- An accepted message goes through a pipeline at rest. -/
lemma handled_path (msg : Message) (settled : s.Settled) (queue : s.configCh = [])
    (valid : c.validateMessage msg = none) (dynamic : c.staticOnly = false) :
    ∃ k t, (system ρ c).Path s k t ∧ t.Settled ∧ t.configCh = [] ∧ acceptedMessages k = [msg] := by
  have path := System.Path.next (M := system ρ c) .refl (.send msg (by rw [queue]; decide))
  have path := path.next (.receive msg [] settled.started settled.idle (by rw [queue]; rfl))
  have path := path.next (.accept .stored msg rfl valid)
  have path := path.next (.offer _ rfl settled.empty)
  have path := path.next (.take _ settled.started settled.idle' rfl)
  have path := path.next (.apply .stored _ rfl)
  have path := path.next (.publish (merge .stored (s.configs.store msg)) (by simp [dynamic]))
  exact ⟨_, _, path, ⟨settled.started, rfl, rfl, rfl⟩, rfl, rfl⟩

/-- The pipeline accepts these messages and one more discovery. -/
lemma next_discovery (found : List Route × List TcpRoute) :
    ∃ h, ∃ s : Pipeline Empty, (system Empty { staticOnly := false }).Run h s ∧ s.Settled ∧
      acceptedMessages h = appPublished ++ [discoveryMessage found] := by
  have run := System.Run.next (M := system Empty { staticOnly := false }) (.start rfl)
    (.send emptyFile (by decide))
  have run := run.next (.boot .stored .stored emptyFile [] rfl rfl rfl)
  obtain ⟨s, run, settled, queue⟩ : ∃ s : Pipeline Empty,
      (system Empty { staticOnly := false }).Run [.booted emptyFile _, .sent emptyFile] s ∧
        s.Settled ∧ s.configCh = [] :=
    ⟨_, run, ⟨rfl, rfl, rfl, rfl⟩, rfl⟩
  obtain ⟨k, t, path, settled, queue, accepted⟩ := handled_path (c := { staticOnly := false })
    (discoveryMessage (discover (lit "n") (fun _ => .stored) [app])) settled queue rfl rfl
  obtain ⟨k', t', path', settled', _, accepted'⟩ := handled_path (c := { staticOnly := false })
    (discoveryMessage found) settled queue rfl rfl
  refine ⟨_, t', (run.append path).append path', settled', ?_⟩
  rw [acceptedMessages_append, acceptedMessages_append, accepted, accepted']
  rfl

theorem failed_discovery_keeps_labelled :
    ∃ h, ∃ s : Pipeline Empty, (system Empty { staticOnly := false }).Run h s ∧
      acceptedMessages h = appPublished ++
        [discoveryMessage (Interrupted.found (lit "n") (fun _ => .stored) (.second [app]))] ∧
      s.Serves (lastPublished appPublished) := by
  obtain ⟨h, s, run, settled, accepted⟩ := next_discovery
    (Interrupted.found (lit "n") (fun _ => .stored) (.second [app]))
  refine ⟨h, s, run, accepted, ?_⟩
  refine (failed_discovery_keeps run settled (fun _ => .stored) (.second [app]) accepted
    appPublished_provided).mpr ⟨?_, by decide⟩
  have routes : validRoutes Empty (lastPublished appPublished).routes = proxyRoutes (lit "n") app := by
    decide
  intro route member
  rw [routes] at member
  exact ⟨app, List.mem_singleton_self app, member⟩

/-- The first list call fails, and the route of a running container is gone. -/
theorem failed_discovery_clears :
    ¬ ∀ (c : Config) (networkName : GoString) (h : List PipelineEvent) (s : Pipeline Empty)
      (before : List Message) (ord : Orders) (lists : Interrupted), (system Empty c).Run h s →
      s.Settled →
      acceptedMessages h = before ++ [discoveryMessage (lists.found networkName ord)] →
      (∀ msg ∈ before, Provided networkName msg) → s.Serves (lastPublished before) := by
  intro always
  obtain ⟨h, s, run, settled, accepted⟩ := next_discovery
    (Interrupted.found (lit "n") (fun _ => .stored) .first)
  have serves := always _ _ h s appPublished _ .first run settled accepted appPublished_provided
  have some_route : validRoutes Empty (lastPublished appPublished).routes ≠ [] := by decide
  obtain ⟨route, member⟩ := List.exists_mem_of_ne_nil _ some_route
  have dynamic := (lastPublished_sources appPublished_provided).1 route (List.mem_filter.mp member).1
  have held := serves.routes route member .stored
  rw [(settled_docker run settled accepted appPublished_provided).1 route dynamic] at held
  cases held

end Pintle.Pipeline
