import Pintle.Aggregator.Order
import Pintle.Config
import Pintle.Docker.Labels

/-!
# Docker discovery

Model of `resolveContainerRoute` and `discoverRoutes` of `internal/provider/docker/docker.go`. The
Docker API is outside the repository: each of the three `ContainerList` calls gives a list of
containers or fails (`none`). A set of container names is a list; log lines are left out.

`discover` is what the three calls return when none fails and the running containers stay the same.
Only labelled containers matter to it (`discover_unlabelled`).
-/

namespace Pintle.Docker
open Go

/-- The part of Go `container.Summary` that the provider reads: of each network the address and of
each port the private one. -/
structure Container where
  names : List GoString
  image : GoString := []
  labels : Labels
  networks : GoMap GoString GoString
  ports : List UInt16 := []

/-- The orders of the `range` statements over the labels of each container. -/
abbrev Orders := Container → LabelOrders

namespace Container

/-- The name of a container, `unknown` when it has none. -/
def name (info : Container) : GoString :=
  match info.names with
  | [] => lit "unknown"
  | name :: _ => trimPrefix name (lit "/")

/-- The address of a container on a network, if it has one. -/
def ipAddress (networkName : GoString) (info : Container) : Option GoString :=
  match info.networks.lookup networkName with
  | some ip => if ip = [] then none else some ip
  | none => none

/-- The private port listed first, zero when there is none. -/
def firstPort (info : Container) : Int :=
  match info.ports with
  | [] => 0
  | port :: _ => port.toNat

/-- The filter `label=pintle.host` of the first call. -/
def hasProxyLabel (info : Container) : Bool := (info.labels.lookup (lit "pintle.host")).isSome

/-- The filter `label=traefik.enable=true` of the second call. -/
def hasTraefikLabel (info : Container) : Bool :=
  info.labels.lookup (lit "traefik.enable") = some (lit "true")

/-- Whether a key of the labels is a Caddy prefix (Go `hasCaddy`). -/
def hasCaddy (info : Container) : Bool := info.labels.pairs.any fun entry => caddyPrefixRe entry.1

/-- A container with no label that the provider looks for. -/
def Unlabelled (info : Container) : Prop :=
  info.hasProxyLabel = false ∧ info.hasTraefikLabel = false ∧ info.hasCaddy = false

instance (info : Container) : Decidable info.Unlabelled :=
  inferInstanceAs (Decidable (_ ∧ _ ∧ _))

end Container

/-- The port of a container's routes: the label's, else the one listed first. -/
def resolvedPort (info : Container) (parsed : ParsedLabels) : Int :=
  if parsed.port = 0 then info.firstPort else parsed.port

/-- Go `resolveContainerRoute`. -/
def resolveContainerRoute (networkName : GoString) (info : Container) (parsed : ParsedLabels)
    (source : GoString) : List Route :=
  match info.ipAddress networkName with
  | none => []
  | some ip =>
    if resolvedPort info parsed = 0 then []
    else
      let target := lit "http://" ++ ip ++ lit ":" ++ itoa (resolvedPort info parsed)
      (parsed.hosts.map fun hostname =>
        { hostname := hostname
          path := parsed.path
          target := target
          stripPath := parsed.strip
          h2c := parsed.h2c
          source := source
          containerName := info.name }) ++
      parsed.hostPatterns.map fun pattern =>
        { hostname := pattern
          isRegexp := true
          path := parsed.path
          target := target
          stripPath := parsed.strip
          h2c := parsed.h2c
          source := source
          containerName := info.name }

/-- The routes of the `pintle.*` labels of a container. -/
def proxyRoutes (networkName : GoString) (info : Container) : List Route :=
  match parseProxyLabels info.labels with
  | none => []
  | some parsed => resolveContainerRoute networkName info parsed (lit "docker")

/-- The routes of the `traefik.http.*` labels of a container. -/
def traefikRoutes (networkName : GoString) (ord : Orders) (info : Container) : List Route :=
  match parseTraefikLabels (ord info) info.labels with
  | none => []
  | some parsed => resolveContainerRoute networkName info parsed (lit "traefik")

/-- The TCP route of the `traefik.tcp.*` labels of a container. -/
def traefikTcpRoutes (networkName : GoString) (ord : Orders) (info : Container) : List TcpRoute :=
  match parseTraefikTcpLabels (ord info) info.labels with
  | none => []
  | some tcpParsed =>
    match tcpEntrypoints.lookup tcpParsed.entrypoint with
    | none => []
    | some listenPort =>
      match info.ipAddress networkName with
      | none => []
      | some ip =>
        [{ hostname := tcpParsed.hostname
           targetHost := ip
           targetPort := tcpParsed.containerPort
           listenPort := listenPort
           source := lit "traefik"
           containerName := info.name }]

/-- The routes of the `caddy` labels of a container. -/
def caddyRoutes (networkName : GoString) (ord : Orders) (info : Container) : List Route :=
  (parseCaddyLabels (ord info) info.labels).flatMap fun parsed =>
    resolveContainerRoute networkName info parsed (lit "caddy")

/-- The names of the containers with `pintle.*` labels (Go `proxyContainerNames`). -/
def proxyContainerNames (proxyContainers : List Container) : List GoString :=
  (proxyContainers.filter fun info => (parseProxyLabels info.labels).isSome).map Container.name

/-- The containers whose Traefik labels are read: no `pintle.*` container and not Traefik itself. -/
def traefikCandidates (proxyContainers traefikContainers : List Container) : List Container :=
  traefikContainers.filter fun info =>
    info.name ∉ proxyContainerNames proxyContainers ∧ contains info.image (lit "traefik") = false

/-- The names of the containers whose Caddy labels are not read (Go `handledContainers`). -/
def handledContainers (ord : Orders) (proxyContainers traefikContainers : List Container) :
    List GoString :=
  proxyContainerNames proxyContainers ++
    ((traefikCandidates proxyContainers traefikContainers).filter fun info =>
      (parseTraefikLabels (ord info) info.labels).isSome).map Container.name

/-- The containers whose Caddy labels are read. -/
def caddyCandidates (ord : Orders)
    (proxyContainers traefikContainers allContainers : List Container) : List Container :=
  allContainers.filter fun info =>
    info.name ∉ handledContainers ord proxyContainers traefikContainers ∧ info.hasCaddy = true

/-- Go `discoverRoutes`, on what its three list calls return. A call that fails ends it. -/
def discoverRoutes (networkName : GoString) (ord : Orders)
    (proxyList traefikList allList : Option (List Container)) : List Route × List TcpRoute :=
  match proxyList with
  | none => ([], [])
  | some proxyContainers =>
    let routes := proxyContainers.flatMap (proxyRoutes networkName)
    match traefikList with
    | none => (routes, [])
    | some traefikContainers =>
      let candidates := traefikCandidates proxyContainers traefikContainers
      let routes := routes ++ candidates.flatMap (traefikRoutes networkName ord)
      let tcpRoutes := candidates.flatMap (traefikTcpRoutes networkName ord)
      match allList with
      | none => (routes, tcpRoutes)
      | some allContainers =>
        (routes ++ (caddyCandidates ord proxyContainers traefikContainers allContainers).flatMap
          (caddyRoutes networkName ord), tcpRoutes)

/-- The message that publishes a discovery. -/
def discoveryMessage (found : List Route × List TcpRoute) : Message where
  providerName := lit "docker"
  routes := found.1
  tcpRoutes := found.2

/-- What a discovery returns when the running containers stay the same and no call fails. -/
def discover (networkName : GoString) (ord : Orders) (running : List Container) :
    List Route × List TcpRoute :=
  discoverRoutes networkName ord (some (running.filter Container.hasProxyLabel))
    (some (running.filter Container.hasTraefikLabel)) (some running)

/-- Every resolved route has its source and container, and no pool. -/
lemma resolveContainerRoute_mem {networkName : GoString} {info : Container} {parsed : ParsedLabels}
    {source : GoString} {route : Route}
    (member : route ∈ resolveContainerRoute networkName info parsed source) :
    route.source = source ∧ route.containerName = info.name ∧ route.backendPool = [] := by
  unfold resolveContainerRoute at member
  split at member
  · cases member
  · split at member
    · cases member
    · cases List.mem_append.mp member with
      | inl exact_host =>
        obtain ⟨_, _, rfl⟩ := List.mem_map.mp exact_host
        exact ⟨rfl, rfl, rfl⟩
      | inr pattern =>
        obtain ⟨_, _, rfl⟩ := List.mem_map.mp pattern
        exact ⟨rfl, rfl, rfl⟩

section sources
variable {networkName : GoString} {ord : Orders} {info : Container} {route : Route}

lemma proxyRoutes_mem (member : route ∈ proxyRoutes networkName info) :
    (parseProxyLabels info.labels).isSome ∧ route.source = lit "docker" ∧
      route.containerName = info.name ∧ route.backendPool = [] := by
  unfold proxyRoutes at member
  split at member
  · cases member
  · rename_i parsed found
    exact ⟨by rw [found]; rfl, resolveContainerRoute_mem member⟩

lemma traefikRoutes_mem (member : route ∈ traefikRoutes networkName ord info) :
    (parseTraefikLabels (ord info) info.labels).isSome ∧ route.source = lit "traefik" ∧
      route.containerName = info.name ∧ route.backendPool = [] := by
  unfold traefikRoutes at member
  split at member
  · cases member
  · rename_i parsed found
    exact ⟨by rw [found]; rfl, resolveContainerRoute_mem member⟩

lemma caddyRoutes_mem (member : route ∈ caddyRoutes networkName ord info) :
    route.source = lit "caddy" ∧ route.containerName = info.name ∧ route.backendPool = [] := by
  obtain ⟨parsed, _, resolved⟩ := List.mem_flatMap.mp member
  exact resolveContainerRoute_mem resolved

lemma traefikTcpRoutes_mem {route : TcpRoute}
    (member : route ∈ traefikTcpRoutes networkName ord info) :
    route.source = lit "traefik" ∧ route.containerName = info.name := by
  unfold traefikTcpRoutes at member
  split at member
  · cases member
  · split at member
    · cases member
    · split at member
      · cases member
      · rw [List.mem_singleton.mp member]
        exact ⟨rfl, rfl⟩

end sources

/-- Where a discovered route comes from. -/
inductive Origin (networkName : GoString) (ord : Orders)
    (proxyList traefikList allList : List Container) (route : Route) : Prop where
  | proxy {info} :
    info ∈ proxyList →
    route ∈ proxyRoutes networkName info →
    Origin networkName ord proxyList traefikList allList route
  | traefik {info} :
    info ∈ traefikCandidates proxyList traefikList →
    route ∈ traefikRoutes networkName ord info →
    Origin networkName ord proxyList traefikList allList route
  | caddy {info} :
    info ∈ caddyCandidates ord proxyList traefikList allList →
    route ∈ caddyRoutes networkName ord info →
    Origin networkName ord proxyList traefikList allList route

/-- Every discovered route comes from a container of one of the lists. -/
lemma discoverRoutes_origin {networkName : GoString} {ord : Orders}
    {proxyList traefikList allList : Option (List Container)} {route : Route}
    (member : route ∈ (discoverRoutes networkName ord proxyList traefikList allList).1) :
    Origin networkName ord (proxyList.getD []) (traefikList.getD []) (allList.getD []) route := by
  cases proxyList with
  | none => cases member
  | some proxyContainers =>
    cases traefikList with
    | none =>
      obtain ⟨info, listed, here⟩ := List.mem_flatMap.mp member
      exact .proxy listed here
    | some traefikContainers =>
      have early (member : route ∈ proxyContainers.flatMap (proxyRoutes networkName) ++
          (traefikCandidates proxyContainers traefikContainers).flatMap
            (traefikRoutes networkName ord)) :
          Origin networkName ord proxyContainers traefikContainers (allList.getD []) route := by
        cases List.mem_append.mp member with
        | inl first =>
          obtain ⟨info, listed, here⟩ := List.mem_flatMap.mp first
          exact .proxy listed here
        | inr second =>
          obtain ⟨info, listed, here⟩ := List.mem_flatMap.mp second
          exact .traefik listed here
      cases allList with
      | none => exact early member
      | some allContainers =>
        cases List.mem_append.mp member with
        | inl earlier => exact early earlier
        | inr third =>
          obtain ⟨info, listed, here⟩ := List.mem_flatMap.mp third
          exact .caddy listed here

/-- Every discovered TCP route comes from Traefik labels. -/
lemma discoverRoutes_tcp {networkName : GoString} {ord : Orders}
    {proxyList traefikList allList : Option (List Container)} {route : TcpRoute}
    (member : route ∈ (discoverRoutes networkName ord proxyList traefikList allList).2) :
    route.source = lit "traefik" := by
  cases proxyList with
  | none => cases member
  | some proxyContainers =>
    cases traefikList with
    | none => cases member
    | some traefikContainers =>
      cases allList with
      | none =>
        obtain ⟨info, _, here⟩ := List.mem_flatMap.mp member
        exact (traefikTcpRoutes_mem here).1
      | some allContainers =>
        obtain ⟨info, _, here⟩ := List.mem_flatMap.mp member
        exact (traefikTcpRoutes_mem here).1

/-- The message of a discovery is what the aggregator expects of the Docker provider. -/
lemma discoveryMessage_fromDocker (networkName : GoString) (ord : Orders)
    (proxyList traefikList allList : Option (List Container)) :
    FromDocker (discoveryMessage (discoverRoutes networkName ord proxyList traefikList allList)) where
  name := rfl
  unpooled route member := by
    cases discoverRoutes_origin member with
    | proxy _ here => exact (proxyRoutes_mem here).2.2.2
    | traefik _ here => exact (traefikRoutes_mem here).2.2.2
    | caddy _ here => exact (caddyRoutes_mem here).2.2

section names
variable {networkName : GoString} {ord : Orders} {proxyList traefikList allList : List Container}
  {info : Container} {route : Route}

lemma proxy_claimed (listed : info ∈ proxyList) (here : route ∈ proxyRoutes networkName info) :
    route.containerName ∈ proxyContainerNames proxyList := by
  obtain ⟨parsed, _, name, _⟩ := proxyRoutes_mem here
  rw [name]
  exact List.mem_map_of_mem (List.mem_filter.mpr ⟨listed, by simpa using parsed⟩)

lemma traefik_handled (listed : info ∈ traefikCandidates proxyList traefikList)
    (here : route ∈ traefikRoutes networkName ord info) :
    route.containerName ∈ handledContainers ord proxyList traefikList := by
  obtain ⟨parsed, _, name, _⟩ := traefikRoutes_mem here
  rw [name]
  exact List.mem_append_right _
    (List.mem_map_of_mem (List.mem_filter.mpr ⟨listed, by simpa using parsed⟩))

lemma traefik_unclaimed (listed : info ∈ traefikCandidates proxyList traefikList)
    (here : route ∈ traefikRoutes networkName ord info) :
    route.containerName ∉ proxyContainerNames proxyList := by
  rw [(traefikRoutes_mem here).2.2.1]
  have candidate := (List.mem_filter.mp listed).2
  simp only [decide_eq_true_eq] at candidate
  exact candidate.1

lemma caddy_unhandled (listed : info ∈ caddyCandidates ord proxyList traefikList allList)
    (here : route ∈ caddyRoutes networkName ord info) :
    route.containerName ∉ handledContainers ord proxyList traefikList := by
  rw [(caddyRoutes_mem here).2.1]
  have candidate := (List.mem_filter.mp listed).2
  simp only [decide_eq_true_eq] at candidate
  exact candidate.1

end names

/-- The routes of one container name all come from the labels of one format: `pintle.*` goes before
`traefik.*`, and `traefik.*` before `caddy`. -/
theorem discoverRoutes_priority {networkName : GoString} {ord : Orders}
    {proxyList traefikList allList : Option (List Container)} {route route' : Route}
    (member : route ∈ (discoverRoutes networkName ord proxyList traefikList allList).1)
    (member' : route' ∈ (discoverRoutes networkName ord proxyList traefikList allList).1)
    (same : route.containerName = route'.containerName) : route.source = route'.source := by
  -- the earlier format of the two has taken the name, so the later one skips it
  cases discoverRoutes_origin member with
  | proxy listed here =>
    have claimed := proxy_claimed listed here
    rw [same] at claimed
    cases discoverRoutes_origin member' with
    | proxy _ here' => rw [(proxyRoutes_mem here).2.1, (proxyRoutes_mem here').2.1]
    | traefik listed' here' => exact absurd claimed (traefik_unclaimed listed' here')
    | caddy listed' here' =>
      exact absurd (List.mem_append_left _ claimed) (caddy_unhandled listed' here')
  | traefik listed here =>
    have handled := traefik_handled listed here
    have unclaimed := traefik_unclaimed listed here
    rw [same] at handled unclaimed
    cases discoverRoutes_origin member' with
    | proxy listed' here' => exact absurd (proxy_claimed listed' here') unclaimed
    | traefik _ here' => rw [(traefikRoutes_mem here).2.1, (traefikRoutes_mem here').2.1]
    | caddy listed' here' => exact absurd handled (caddy_unhandled listed' here')
  | caddy listed here =>
    have unhandled := caddy_unhandled listed here
    rw [same] at unhandled
    cases discoverRoutes_origin member' with
    | proxy listed' here' =>
      exact absurd (List.mem_append_left _ (proxy_claimed listed' here')) unhandled
    | traefik listed' here' => exact absurd (traefik_handled listed' here') unhandled
    | caddy _ here' => rw [(caddyRoutes_mem here).1, (caddyRoutes_mem here').1]

/-- A container without labels does not matter to a discovery. -/
lemma discover_unlabelled (networkName : GoString) (ord : Orders) {info : Container}
    (unlabelled : info.Unlabelled) (before after : List Container) :
    discover networkName ord (before ++ info :: after) =
      discover networkName ord (before ++ after) := by
  obtain ⟨proxy, traefik, caddy⟩ := unlabelled
  have unread (ord : Orders) (proxyContainers traefikContainers : List Container) :
      caddyCandidates ord proxyContainers traefikContainers (before ++ info :: after) =
        caddyCandidates ord proxyContainers traefikContainers (before ++ after) := by
    simp [caddyCandidates, List.filter_append, caddy]
  have proxies : (before ++ info :: after).filter Container.hasProxyLabel =
      (before ++ after).filter Container.hasProxyLabel := by
    simp [List.filter_append, proxy]
  have traefiks : (before ++ info :: after).filter Container.hasTraefikLabel =
      (before ++ after).filter Container.hasTraefikLabel := by
    simp [List.filter_append, traefik]
  rw [discover, discover, proxies, traefiks]
  simp only [discoverRoutes, unread]

/-- A container with the address of its service. -/
def app : Container where
  names := [lit "/app"]
  labels := (AList.singleton (lit "pintle.host") (lit "a")).insert (lit "pintle.port") (lit "80")
  networks := AList.singleton (lit "n") (lit "10.0.0.2")

/-- Its discovery finds its route. -/
example : (discover (lit "n") (fun _ => .stored) [app]).1 =
    [{ hostname := lit "a"
       path := lit "/"
       target := lit "http://10.0.0.2:80"
       source := lit "docker"
       containerName := lit "app" }] := by
  decide

end Pintle.Docker
