import Pintle.Docker.Discover

/-!
# One dialect for each container

A container may carry labels of several dialects. The one of highest priority that parses is the
dialect of the container (`Container.dialect`). When containers have distinct names, a discovery
emits for each container what its own labels give (`discover_routes`, `discover_tcpRoutes`), and
`one_dialect_iff` says for which containers that is one dialect: the third pass does not see that a
container has a TCP route from its Traefik labels.
-/

namespace Pintle.Docker
open Go

/-- A family of labels, in the order of their priority. -/
inductive Dialect where
  | pintle
  | traefik
  | caddy
  deriving DecidableEq, Repr

/-- The source of the routes of a dialect. -/
def Dialect.source : Dialect → GoString
  | pintle => lit "docker"
  | traefik => lit "traefik"
  | caddy => lit "caddy"

namespace Container
variable (networkName : GoString) (ord : Orders) (info : Container)

/-- The container of the Traefik proxy itself, by its image. -/
def isTraefik : Bool := contains info.image (lit "traefik")

/-- What the labels of Traefik HTTP routers and services parse to. -/
def traefikHttp : Option ParsedLabels := parseTraefikLabels (ord info) info.labels

/-- What the labels of Traefik TCP routers and services parse to. -/
def traefikTcp : Option ParsedTcpLabels := parseTraefikTcpLabels (ord info) info.labels

/-- Whether the labels of a dialect parse. -/
def parses : Dialect → Bool
  | .pintle => (parseProxyLabels info.labels).isSome
  | .traefik => (info.traefikHttp ord).isSome || (info.traefikTcp ord).isSome
  | .caddy => parseCaddyLabels (ord info) info.labels ≠ []

/-- The dialect of highest priority that parses. -/
def dialect : Option Dialect := [.pintle, .traefik, .caddy].find? (info.parses ord)

/-- Whether parsed labels have a port, of their own or of the container. -/
def hasPort (parsed : ParsedLabels) : Bool := resolvedPort info parsed ≠ 0

/-- Whether the labels of a dialect have a port. A parsed TCP rule always has one. -/
def ported : Dialect → Bool
  | .pintle => (parseProxyLabels info.labels).any info.hasPort
  | .traefik => (info.traefikHttp ord).any info.hasPort || (info.traefikTcp ord).isSome
  | .caddy => (parseCaddyLabels (ord info) info.labels).any info.hasPort

/-- Whether a container has an address on the network. -/
def hasIP : Bool := (info.ipAddress networkName).isSome

/-- Whether the TCP labels name an entrypoint that has a port. -/
def knownEntrypoint : Bool :=
  (info.traefikTcp ord).any fun parsed => (tcpEntrypoints.lookup parsed.entrypoint).isSome

/-- The HTTP routes that a discovery emits for a container. -/
def emitted : List Route :=
  if info.parses ord .pintle then proxyRoutes networkName info
  else if !info.isTraefik && (info.traefikHttp ord).isSome then traefikRoutes networkName ord info
  else caddyRoutes networkName ord info

/-- The TCP routes that a discovery emits for a container. -/
def emittedTcp : List TcpRoute :=
  if info.parses ord .pintle || info.isTraefik then [] else traefikTcpRoutes networkName ord info

/-- The routes of a container come from its dialect, and a container with a dialect, an address and a
port has one, unless it is that of the Traefik proxy. -/
structure OneDialect (running : List Container) : Prop where
  routes : ∀ route ∈ (discover networkName ord running).1, route.containerName = info.name →
    ∃ d, info.dialect ord = some d ∧ route.source = d.source
  tcpRoutes : ∀ route ∈ (discover networkName ord running).2, route.containerName = info.name →
    ∃ d, info.dialect ord = some d ∧ route.source = d.source
  served : info.isTraefik = false → ∀ d, info.dialect ord = some d →
    info.hasIP networkName = true → info.ported ord d = true →
    (∃ route ∈ (discover networkName ord running).1, route.containerName = info.name) ∨
      ∃ route ∈ (discover networkName ord running).2, route.containerName = info.name

/-- The same of the routes that its own labels give. -/
structure OwnDialect : Prop where
  routes : ∀ route ∈ info.emitted networkName ord,
    ∃ d, info.dialect ord = some d ∧ route.source = d.source
  tcpRoutes : info.emittedTcp networkName ord ≠ [] → info.dialect ord = some .traefik
  served : info.isTraefik = false → ∀ d, info.dialect ord = some d →
    info.hasIP networkName = true → info.ported ord d = true →
    info.emitted networkName ord ≠ [] ∨ info.emittedTcp networkName ord ≠ []

/-- A container whose dialect is Traefik has no Caddy labels that give a route, unless its HTTP
labels parse and it is not the Traefik proxy; and if it is not, its HTTP labels have a port or its
TCP labels, if there are any, a known entrypoint. -/
def Unmixed : Prop :=
  info.dialect ord = some .traefik →
    (info.hasIP networkName = true → info.ported ord .caddy = true →
      info.isTraefik = false ∧ (info.traefikHttp ord).isSome = true) ∧
    (info.isTraefik = false → info.hasIP networkName = true →
      (info.traefikHttp ord).any info.hasPort = true ∨ info.traefikTcp ord = none ∨
        info.knownEntrypoint ord = true)

end Container

/-- Parsed labels give routes exactly when there is an address, a port and a host. -/
lemma resolveContainerRoute_ne_nil {networkName : GoString} {info : Container}
    {parsed : ParsedLabels} {source : GoString} :
    resolveContainerRoute networkName info parsed source ≠ [] ↔
      info.hasIP networkName = true ∧ info.hasPort parsed = true ∧
        parsed.hosts ++ parsed.hostPatterns ≠ [] := by
  unfold resolveContainerRoute Container.hasIP Container.hasPort
  cases info.ipAddress networkName with
  | none => simp
  | some ip =>
    by_cases missing : resolvedPort info parsed = 0
    · simp [missing]
    · simp [missing]

lemma proxyRoutes_ne_nil {networkName : GoString} (ord : Orders) {info : Container} :
    proxyRoutes networkName info ≠ [] ↔
      info.hasIP networkName = true ∧ info.ported ord .pintle = true := by
  unfold proxyRoutes Container.ported
  cases found : parseProxyLabels info.labels with
  | none => simp
  | some parsed =>
    have host : parsed.hosts ≠ [] := by
      unfold parseProxyLabels at found
      split at found
      · cases found
      · cases found
        simp [splitComma, List.splitOn_ne_nil]
    rw [resolveContainerRoute_ne_nil]
    simp [host]

lemma traefikRoutes_ne_nil {networkName : GoString} {ord : Orders} {info : Container} :
    traefikRoutes networkName ord info ≠ [] ↔
      info.hasIP networkName = true ∧ (info.traefikHttp ord).any info.hasPort = true := by
  unfold traefikRoutes Container.traefikHttp
  cases found : parseTraefikLabels (ord info) info.labels with
  | none => simp
  | some parsed =>
    have host := (parseTraefikLabels_parsed found).1
    rw [resolveContainerRoute_ne_nil]
    simp [host]

lemma traefikTcpRoutes_ne_nil {networkName : GoString} {ord : Orders} {info : Container} :
    traefikTcpRoutes networkName ord info ≠ [] ↔
      info.hasIP networkName = true ∧ info.knownEntrypoint ord = true := by
  unfold traefikTcpRoutes Container.hasIP Container.knownEntrypoint Container.traefikTcp
  cases parseTraefikTcpLabels (ord info) info.labels with
  | none => simp
  | some parsed =>
    cases entrypoint : tcpEntrypoints.lookup parsed.entrypoint with
    | none => simp [entrypoint]
    | some listenPort => cases info.ipAddress networkName <;> simp [entrypoint]

/-- Each parsed Caddy prefix names one host. -/
lemma parseCaddyLabels_hosts {ord : LabelOrders} {labels : Labels} {parsed : ParsedLabels}
    (member : parsed ∈ parseCaddyLabels ord labels) : parsed.hosts ≠ [] := by
  unfold parseCaddyLabels at member
  obtain ⟨entry, _, rfl⟩ := List.mem_map.mp member
  exact List.cons_ne_nil _ _

lemma caddyRoutes_ne_nil {networkName : GoString} {ord : Orders} {info : Container} :
    caddyRoutes networkName ord info ≠ [] ↔
      info.hasIP networkName = true ∧ info.ported ord .caddy = true := by
  rw [caddyRoutes, ne_eq, List.flatMap_eq_nil_iff, Container.ported, List.any_eq_true]
  simp only [not_forall, exists_prop]
  constructor
  · rintro ⟨parsed, member, routes⟩
    obtain ⟨address, port, _⟩ := resolveContainerRoute_ne_nil.mp routes
    exact ⟨address, parsed, member, port⟩
  · rintro ⟨address, parsed, member, port⟩
    refine ⟨parsed, member, resolveContainerRoute_ne_nil.mpr ⟨address, port, ?_⟩⟩
    intro none_left
    exact parseCaddyLabels_hosts member (List.append_eq_nil_iff.mp none_left).1

/-- Without a Caddy prefix no Caddy labels parse. -/
lemma parseCaddyLabels_plain {ord : LabelOrders} {info : Container} (plain : info.hasCaddy = false) :
    parseCaddyLabels ord info.labels = [] := by
  have unprefixed (entries : List (GoString × GoString)) (inside : ∀ e ∈ entries, e ∈ info.labels.pairs)
      (configs : GoMap GoString CaddyConfig) :
      entries.foldl (fun configs entry =>
        if caddyPrefixRe entry.1 then configs.insert entry.1 { host := entry.2, path := lit "/" }
        else configs) configs = configs := by
    induction entries generalizing configs with
    | nil => rfl
    | cons entry entries ih =>
      have other : caddyPrefixRe entry.1 = false := by
        rw [Container.hasCaddy, List.any_eq_false] at plain
        simpa using plain entry (inside entry List.mem_cons_self)
      rw [List.foldl_cons, other]
      exact ih (fun e member => inside e (List.mem_cons_of_mem _ member)) configs
  have undirected (entries : List (GoString × GoString)) :
      entries.foldl (fun configs entry =>
        GoMap.mapValues (CaddyConfig.direct entry.1 entry.2) configs) (∅ : GoMap GoString CaddyConfig) =
      ∅ := by
    induction entries with
    | nil => rfl
    | cons entry entries ih => exact ih
  rw [parseCaddyLabels, unprefixed _ (fun e member => ord.prefixes.mem_visit.mp member), undirected]
  have nothing : ord.configs.visit (∅ : GoMap GoString CaddyConfig).pairs = [] :=
    List.perm_nil.mp (ord.configs.perm [])
  rw [nothing]
  rfl

section passes
variable {networkName : GoString} (ord : Orders) {running : List Container} {info : Container}

lemma hasProxyLabel_iff : info.hasProxyLabel = info.parses ord .pintle := by
  rw [Container.hasProxyLabel, Container.parses, parseProxyLabels]
  cases info.labels.lookup (lit "pintle.host") <;> rfl

/-- A container whose Traefik labels parse is in the second listing. -/
lemma traefik_listed (parsed : info.parses ord .traefik = true) : info.hasTraefikLabel = true := by
  have enabled : info.labels.get (lit "traefik.enable") = lit "true" := by
    by_contra disabled
    rw [Container.parses, Container.traefikHttp, Container.traefikTcp, parseTraefikLabels,
      parseTraefikTcpLabels, if_pos disabled, if_pos disabled] at parsed
    cases parsed
  rw [Labels.get] at enabled
  cases found : info.labels.lookup (lit "traefik.enable") with
  | none =>
    rw [found] at enabled
    exact absurd enabled (by decide)
  | some value =>
    rw [found] at enabled
    simpa [Container.hasTraefikLabel, found] using enabled

variable (distinct : (running.map Container.name).Nodup)
include distinct

/-- A name selects among the running containers. -/
lemma name_mem_filter (p : Container → Bool) (member : info ∈ running) :
    info.name ∈ (running.filter p).map Container.name ↔ p info = true := by
  rw [List.mem_map]
  constructor
  · rintro ⟨other, inside, same⟩
    obtain ⟨running', holds⟩ := List.mem_filter.mp inside
    rwa [List.inj_on_of_nodup_map distinct running' member same] at holds
  · intro holds
    exact ⟨info, List.mem_filter.mpr ⟨member, holds⟩, rfl⟩

lemma mem_proxyContainerNames (member : info ∈ running) :
    info.name ∈ proxyContainerNames (running.filter Container.hasProxyLabel) ↔
      info.parses ord .pintle = true := by
  rw [proxyContainerNames, List.filter_filter, name_mem_filter distinct _ member,
    hasProxyLabel_iff ord]
  simp [Container.parses]

lemma mem_traefikCandidates :
    info ∈ traefikCandidates (running.filter Container.hasProxyLabel)
        (running.filter Container.hasTraefikLabel) ↔
      info ∈ running ∧ info.hasTraefikLabel = true ∧ info.parses ord .pintle = false ∧
        info.isTraefik = false := by
  rw [traefikCandidates, List.mem_filter, List.mem_filter, and_assoc]
  refine and_congr_right fun member => and_congr_right fun _ => ?_
  simp only [decide_eq_true_eq, mem_proxyContainerNames ord distinct member,
    Bool.not_eq_true, Container.isTraefik]

lemma mem_handledContainers (member : info ∈ running) :
    info.name ∈ handledContainers ord (running.filter Container.hasProxyLabel)
        (running.filter Container.hasTraefikLabel) ↔
      info.parses ord .pintle = true ∨
        info.isTraefik = false ∧ (info.traefikHttp ord).isSome = true := by
  rw [handledContainers, List.mem_append, mem_proxyContainerNames ord distinct member]
  constructor
  · rintro (claimed | handled)
    · exact .inl claimed
    · obtain ⟨other, inside, same⟩ := List.mem_map.mp handled
      obtain ⟨candidate, parsed⟩ := List.mem_filter.mp inside
      obtain ⟨running', _, _, other_image⟩ := (mem_traefikCandidates ord distinct).mp candidate
      obtain rfl := List.inj_on_of_nodup_map distinct running' member same
      exact .inr ⟨other_image, parsed⟩
  · rintro (claimed | ⟨other_image, parsed⟩)
    · exact .inl claimed
    · cases claimed : info.parses ord .pintle with
      | true => exact .inl rfl
      | false =>
        have either : info.parses ord .traefik = true := by simp [Container.parses, parsed]
        have listed := traefik_listed ord either
        exact .inr (List.mem_map.mpr ⟨info, List.mem_filter.mpr
          ⟨(mem_traefikCandidates ord distinct).mpr ⟨member, listed, claimed, other_image⟩, parsed⟩, rfl⟩)

lemma mem_caddyCandidates :
    info ∈ caddyCandidates ord (running.filter Container.hasProxyLabel)
        (running.filter Container.hasTraefikLabel) running ↔
      info ∈ running ∧ info.parses ord .pintle = false ∧
        (info.isTraefik = true ∨ info.traefikHttp ord = none) ∧ info.hasCaddy = true := by
  rw [caddyCandidates, List.mem_filter]
  refine and_congr_right fun member => ?_
  rw [decide_eq_true_eq, mem_handledContainers ord distinct member, not_or, and_assoc, Bool.not_eq_true,
    not_and_or, Bool.not_eq_false, Option.not_isSome_iff_eq_none]

/-- A discovery emits what each container's own labels give. -/
theorem discover_routes {route : Route} :
    route ∈ (discover networkName ord running).1 ↔
      ∃ info ∈ running, route ∈ info.emitted networkName ord := by
  rw [discover, discoverRoutes, List.mem_append, List.mem_append, List.mem_flatMap, List.mem_flatMap,
    List.mem_flatMap]
  constructor
  · rintro ((⟨info, listed, here⟩ | ⟨info, listed, here⟩) | ⟨info, listed, here⟩)
    · obtain ⟨member, labelled⟩ := List.mem_filter.mp listed
      rw [hasProxyLabel_iff ord] at labelled
      exact ⟨info, member, by rwa [Container.emitted, if_pos labelled]⟩
    · obtain ⟨member, _, unclaimed, other_image⟩ := (mem_traefikCandidates ord distinct).mp listed
      have parsed : (info.traefikHttp ord).isSome = true := (traefikRoutes_mem here).1
      refine ⟨info, member, ?_⟩
      rwa [Container.emitted, if_neg (by simp [unclaimed]), if_pos (by simp [other_image, parsed])]
    · obtain ⟨member, unclaimed, unhandled, _⟩ := (mem_caddyCandidates ord distinct).mp listed
      refine ⟨info, member, ?_⟩
      rwa [Container.emitted, if_neg (by simp [unclaimed]),
        if_neg (by rcases unhandled with image | unparsed <;> simp [*])]
  · rintro ⟨info, member, here⟩
    rw [Container.emitted] at here
    split at here
    · rename_i claimed
      rw [← hasProxyLabel_iff ord] at claimed
      exact .inl (.inl ⟨info, List.mem_filter.mpr ⟨member, claimed⟩, here⟩)
    · rename_i unclaimed
      rw [Bool.not_eq_true] at unclaimed
      split at here
      · rename_i handled
        simp only [Bool.and_eq_true, Bool.not_eq_true'] at handled
        have either : info.parses ord .traefik = true := by simp [Container.parses, handled.2]
        have listed := traefik_listed ord either
        exact .inl (.inr ⟨info, (mem_traefikCandidates ord distinct).mpr
          ⟨member, listed, unclaimed, handled.1⟩, here⟩)
      · rename_i unhandled
        have prefixed : info.hasCaddy = true := by
          by_contra plain
          rw [caddyRoutes, parseCaddyLabels_plain (Bool.not_eq_true _ ▸ plain)] at here
          cases here
        have missed : info.isTraefik = true ∨ info.traefikHttp ord = none := by
          cases image : info.isTraefik <;> simp_all
        exact .inr ⟨info, (mem_caddyCandidates ord distinct).mpr
          ⟨member, unclaimed, missed, prefixed⟩, here⟩

theorem discover_tcpRoutes {route : TcpRoute} :
    route ∈ (discover networkName ord running).2 ↔
      ∃ info ∈ running, route ∈ info.emittedTcp networkName ord := by
  rw [discover, discoverRoutes, List.mem_flatMap]
  constructor
  · rintro ⟨info, listed, here⟩
    obtain ⟨member, _, unclaimed, other_image⟩ := (mem_traefikCandidates ord distinct).mp listed
    exact ⟨info, member, by rwa [Container.emittedTcp, if_neg (by simp [unclaimed, other_image])]⟩
  · rintro ⟨info, member, here⟩
    rw [Container.emittedTcp] at here
    split at here
    · cases here
    · rename_i candidate
      simp only [Bool.or_eq_true, not_or, Bool.not_eq_true] at candidate
      have parsed : info.parses ord .traefik = true := by
        unfold traefikTcpRoutes at here
        split at here
        · cases here
        · rename_i parsed found
          simp [Container.parses, Container.traefikTcp, found]
      exact ⟨info, (mem_traefikCandidates ord distinct).mpr
        ⟨member, traefik_listed ord parsed, candidate.1, candidate.2⟩, here⟩

end passes

section containers
variable {networkName : GoString} {ord : Orders} {info : Container}

lemma dialect_pintle (parsed : info.parses ord .pintle = true) :
    info.dialect ord = some .pintle := by
  simp [Container.dialect, parsed]

lemma dialect_traefik (unclaimed : info.parses ord .pintle = false) :
    info.dialect ord = some .traefik ↔ info.parses ord .traefik = true := by
  simp only [Container.dialect, List.find?, unclaimed]
  cases info.parses ord .traefik <;> cases info.parses ord .caddy <;> simp

lemma dialect_caddy (unclaimed : info.parses ord .pintle = false)
    (unparsed : info.parses ord .traefik = false) :
    info.dialect ord = if info.parses ord .caddy then some .caddy else none := by
  simp only [Container.dialect, List.find?, unclaimed, unparsed]
  cases info.parses ord .caddy <;> rfl

lemma emitted_name {route : Route} (member : route ∈ info.emitted networkName ord) :
    route.containerName = info.name := by
  unfold Container.emitted at member
  split at member
  · exact (proxyRoutes_mem member).2.2.1
  · split at member
    · exact (traefikRoutes_mem member).2.2.1
    · exact (caddyRoutes_mem member).2.1

lemma emittedTcp_mem {route : TcpRoute} (member : route ∈ info.emittedTcp networkName ord) :
    route.containerName = info.name ∧ route.source = lit "traefik" := by
  unfold Container.emittedTcp at member
  split at member
  · cases member
  · exact (traefikTcpRoutes_mem member).symm

variable {running : List Container} (distinct : (running.map Container.name).Nodup)
  (member : info ∈ running)
include distinct member

/-- The routes under a container's name are those of the container. -/
lemma own_route {route : Route} :
    route ∈ (discover networkName ord running).1 ∧ route.containerName = info.name ↔
      route ∈ info.emitted networkName ord := by
  rw [discover_routes ord distinct]
  constructor
  · rintro ⟨⟨other, listed, here⟩, named⟩
    rw [emitted_name here] at named
    rwa [← List.inj_on_of_nodup_map distinct listed member named]
  · intro here
    exact ⟨⟨info, member, here⟩, emitted_name here⟩

lemma own_tcpRoute {route : TcpRoute} :
    route ∈ (discover networkName ord running).2 ∧ route.containerName = info.name ↔
      route ∈ info.emittedTcp networkName ord := by
  rw [discover_tcpRoutes ord distinct]
  constructor
  · rintro ⟨⟨other, listed, here⟩, named⟩
    rw [(emittedTcp_mem here).1] at named
    rwa [← List.inj_on_of_nodup_map distinct listed member named]
  · intro here
    exact ⟨⟨info, member, here⟩, (emittedTcp_mem here).1⟩

/-- A container has one dialect when its own labels give it one. -/
lemma oneDialect_own :
    info.OneDialect networkName ord running ↔ info.OwnDialect networkName ord := by
  have some_route : (∃ route ∈ (discover networkName ord running).1,
      route.containerName = info.name) ↔ info.emitted networkName ord ≠ [] := by
    constructor
    · rintro ⟨route, found, named⟩
      exact List.ne_nil_of_mem ((own_route distinct member).mp ⟨found, named⟩)
    · intro some_emitted
      obtain ⟨route, here⟩ := List.exists_mem_of_ne_nil _ some_emitted
      exact ⟨route, (own_route distinct member).mpr here⟩
  have some_tcp : (∃ route ∈ (discover networkName ord running).2,
      route.containerName = info.name) ↔ info.emittedTcp networkName ord ≠ [] := by
    constructor
    · rintro ⟨route, found, named⟩
      exact List.ne_nil_of_mem ((own_tcpRoute distinct member).mp ⟨found, named⟩)
    · intro some_emitted
      obtain ⟨route, here⟩ := List.exists_mem_of_ne_nil _ some_emitted
      exact ⟨route, (own_tcpRoute distinct member).mpr here⟩
  constructor
  · intro one
    refine ⟨?_, ?_, ?_⟩
    · intro route here
      obtain ⟨found, named⟩ := (own_route distinct member).mpr here
      exact one.routes route found named
    · intro some_emitted
      obtain ⟨route, here⟩ := List.exists_mem_of_ne_nil _ some_emitted
      obtain ⟨found, named⟩ := (own_tcpRoute distinct member).mpr here
      obtain ⟨d, dialect, source⟩ := one.tcpRoutes route found named
      rw [(emittedTcp_mem here).2] at source
      cases d with
      | pintle => exact absurd source (by decide)
      | traefik => exact dialect
      | caddy => exact absurd source (by decide)
    · intro image d dialect address port
      rw [← some_route, ← some_tcp]
      exact one.served image d dialect address port
  · rintro ⟨routes, tcpRoutes, served⟩
    refine ⟨?_, ?_, ?_⟩
    · intro route found named
      exact routes route ((own_route distinct member).mp ⟨found, named⟩)
    · intro route found named
      have here : route ∈ info.emittedTcp networkName ord :=
        (own_tcpRoute distinct member).mp ⟨found, named⟩
      exact ⟨.traefik, tcpRoutes (List.ne_nil_of_mem here), (emittedTcp_mem here).2⟩
    · intro image d dialect address port
      rw [some_route, some_tcp]
      exact served image d dialect address port

end containers

section own
variable {networkName : GoString} {ord : Orders} {info : Container}

/-- The labels of a container whose dialect is not Traefik give it routes of that dialect alone. -/
lemma own_untraefik (unparsed : info.dialect ord ≠ some .traefik) :
    info.OwnDialect networkName ord := by
  cases claimed : info.parses ord .pintle with
  | true =>
    have dialect := dialect_pintle claimed
    have emitted : info.emitted networkName ord = proxyRoutes networkName info := by
      rw [Container.emitted, if_pos claimed]
    refine ⟨?_, ?_, ?_⟩
    · intro route here
      rw [emitted] at here
      exact ⟨.pintle, dialect, (proxyRoutes_mem here).2.1⟩
    · intro some_tcp
      rw [Container.emittedTcp, if_pos (by simp [claimed])] at some_tcp
      exact absurd rfl some_tcp
    · intro _ d found address port
      rw [dialect] at found
      cases found
      rw [emitted, proxyRoutes_ne_nil ord]
      exact .inl ⟨address, port⟩
  | false =>
    rw [ne_eq, dialect_traefik claimed, Bool.not_eq_true] at unparsed
    have dialect := dialect_caddy claimed unparsed
    simp only [Container.parses, Bool.or_eq_false_iff] at unparsed
    have emitted : info.emitted networkName ord = caddyRoutes networkName ord info := by
      rw [Container.emitted, if_neg (by simp [claimed]), if_neg (by simp [unparsed.1])]
    refine ⟨?_, ?_, ?_⟩
    · intro route here
      rw [emitted] at here
      have parsed : info.parses ord .caddy = true := by
        obtain ⟨parsed, inside, _⟩ := List.mem_flatMap.mp here
        simp [Container.parses, List.ne_nil_of_mem inside]
      exact ⟨.caddy, by rw [dialect, if_pos parsed], (caddyRoutes_mem here).1⟩
    · intro some_tcp
      rw [Container.emittedTcp] at some_tcp
      split at some_tcp
      · exact absurd rfl some_tcp
      · have known := (traefikTcpRoutes_ne_nil.mp some_tcp).2
        have none_parsed : info.traefikTcp ord = none := by simpa using unparsed.2
        rw [Container.knownEntrypoint, none_parsed] at known
        cases known
    · intro _ d found address port
      have caddy : d = .caddy := by
        rw [dialect] at found
        split at found
        · exact (Option.some.inj found).symm
        · cases found
      subst caddy
      rw [emitted, caddyRoutes_ne_nil]
      exact .inl ⟨address, port⟩

section traefik
variable (traefik : info.dialect ord = some .traefik)
include traefik

/-- No Caddy route comes from the dialect Traefik. -/
lemma caddy_undialected (sources : ∀ route ∈ caddyRoutes networkName ord info,
    ∃ d, info.dialect ord = some d ∧ route.source = d.source) :
    caddyRoutes networkName ord info = [] := by
  by_contra some_route
  obtain ⟨route, here⟩ := List.exists_mem_of_ne_nil _ some_route
  obtain ⟨d, dialect, source⟩ := sources route here
  rw [traefik] at dialect
  cases dialect
  rw [(caddyRoutes_mem here).1] at source
  exact absurd source (by decide)

/-- The Traefik proxy has one dialect when it has no Caddy routes. -/
lemma own_proxy (image : info.isTraefik = true)
    (emitted : info.emitted networkName ord = caddyRoutes networkName ord info) :
    info.OwnDialect networkName ord ↔ caddyRoutes networkName ord info = [] := by
  constructor
  · intro own
    exact caddy_undialected traefik (emitted ▸ own.routes)
  · intro none_emitted
    refine ⟨?_, fun _ => traefik, fun other => absurd other (by simp [image])⟩
    rw [emitted, none_emitted]
    nofun

/-- A container whose HTTP labels are read has one dialect when they have a port, or its TCP labels a
known entrypoint. -/
lemma own_http (image : info.isTraefik = false)
    (emitted : info.emitted networkName ord = traefikRoutes networkName ord info)
    (emittedTcp : info.emittedTcp networkName ord = traefikTcpRoutes networkName ord info) :
    info.OwnDialect networkName ord ↔
      (info.hasIP networkName = true → (info.traefikHttp ord).any info.hasPort = true ∨
        info.traefikTcp ord = none ∨ info.knownEntrypoint ord = true) := by
  constructor
  · intro own address
    cases tcp : info.traefikTcp ord with
    | none => exact .inr (.inl rfl)
    | some parsed =>
      rcases own.served image .traefik traefik address (by simp [Container.ported, tcp]) with
        http | known
      · rw [emitted, traefikRoutes_ne_nil] at http
        exact .inl http.2
      · rw [emittedTcp, traefikTcpRoutes_ne_nil] at known
        exact .inr (.inr known.2)
  · intro reachable
    refine ⟨?_, fun _ => traefik, ?_⟩
    · intro route here
      rw [emitted] at here
      exact ⟨.traefik, traefik, (traefikRoutes_mem here).2.1⟩
    · intro _ d dialect address port
      rw [traefik] at dialect
      cases dialect
      rw [emitted, emittedTcp, traefikRoutes_ne_nil, traefikTcpRoutes_ne_nil]
      rcases reachable address with http | none_tcp | known
      · exact .inl ⟨address, http⟩
      · rw [Container.ported, none_tcp, Option.isSome_none, Bool.or_false] at port
        exact .inl ⟨address, port⟩
      · exact .inr ⟨address, known⟩

/-- A container with TCP labels alone has one dialect when it has no Caddy routes and its entrypoint
is known. -/
lemma own_tcp (image : info.isTraefik = false)
    (tcp : (info.traefikTcp ord).isSome = true)
    (emitted : info.emitted networkName ord = caddyRoutes networkName ord info)
    (emittedTcp : info.emittedTcp networkName ord = traefikTcpRoutes networkName ord info) :
    info.OwnDialect networkName ord ↔ caddyRoutes networkName ord info = [] ∧
      (info.hasIP networkName = true → info.knownEntrypoint ord = true) := by
  constructor
  · intro own
    have none_emitted := caddy_undialected traefik (emitted ▸ own.routes)
    refine ⟨none_emitted, ?_⟩
    intro address
    have some_route := own.served image .traefik traefik address (by simp [Container.ported, tcp])
    rw [emitted, none_emitted, emittedTcp, traefikTcpRoutes_ne_nil] at some_route
    exact (some_route.resolve_left (absurd rfl)).2
  · rintro ⟨none_emitted, known⟩
    refine ⟨?_, fun _ => traefik, ?_⟩
    · rw [emitted, none_emitted]
      nofun
    · intro _ d _ address _
      rw [emittedTcp, traefikTcpRoutes_ne_nil]
      exact .inr ⟨address, known address⟩

/-- The three ways in which a container with the dialect Traefik is read. -/
lemma own_traefik : info.OwnDialect networkName ord ↔ info.Unmixed networkName ord := by
  have unclaimed : info.parses ord .pintle = false := by
    by_contra claimed
    rw [dialect_pintle (Bool.not_eq_false _ ▸ claimed)] at traefik
    cases traefik
  have parsed := (dialect_traefik unclaimed).mp traefik
  have caddy_empty : caddyRoutes networkName ord info = [] ↔
      (info.hasIP networkName = true → info.ported ord .caddy = false) := by
    rw [← not_iff_not, ← ne_eq, caddyRoutes_ne_nil]
    simp
  rw [Container.Unmixed, imp_iff_right traefik]
  by_cases image : info.isTraefik = true
  · have emitted : info.emitted networkName ord = caddyRoutes networkName ord info := by
      rw [Container.emitted, if_neg (by simp [unclaimed]), if_neg (by simp [image])]
    rw [own_proxy traefik image emitted, caddy_empty]
    simp [image]
  · rw [Bool.not_eq_true] at image
    have emittedTcp : info.emittedTcp networkName ord = traefikTcpRoutes networkName ord info := by
      rw [Container.emittedTcp, if_neg (by simp [unclaimed, image])]
    cases http : info.traefikHttp ord with
    | some labels =>
      have emitted : info.emitted networkName ord = traefikRoutes networkName ord info := by
        rw [Container.emitted, if_neg (by simp [unclaimed]), if_pos (by simp [image, http])]
      rw [own_http traefik image emitted emittedTcp, http]
      simp [image]
    | none =>
      have emitted : info.emitted networkName ord = caddyRoutes networkName ord info := by
        rw [Container.emitted, if_neg (by simp [unclaimed]), if_neg (by simp [http])]
      have tcp : (info.traefikTcp ord).isSome = true := by simpa [Container.parses, http] using parsed
      have some_tcp : info.traefikTcp ord ≠ none := Option.isSome_iff_ne_none.mp tcp
      rw [own_tcp traefik image tcp emitted emittedTcp, caddy_empty]
      simp [image, some_tcp]

end traefik

/-- Every container has one dialect, and a route of it, exactly when no container mixes Traefik
labels with Caddy labels or with an entrypoint that is not known. -/
theorem one_dialect_iff {running : List Container} (distinct : (running.map Container.name).Nodup) :
    (∀ info ∈ running, info.OneDialect networkName ord running) ↔
      ∀ info ∈ running, info.Unmixed networkName ord := by
  refine forall₂_congr fun info member => ?_
  rw [oneDialect_own distinct member]
  by_cases traefik : info.dialect ord = some .traefik
  · exact own_traefik traefik
  · exact iff_of_true (own_untraefik traefik) fun dialect => absurd dialect traefik

end own

/-- A database with TCP labels for Traefik and a Caddy label. -/
def mixed : Container where
  names := [lit "/db"]
  labels :=
    (((AList.singleton (lit "traefik.enable") (lit "true")).insert
      (lit "traefik.tcp.routers.db.rule") (lit "HostSNI(`db`)")).insert
      (lit "traefik.tcp.routers.db.entrypoints") (lit "postgres")).insert
      (lit "traefik.tcp.services.db.loadbalancer.server.port") (lit "5432") |>.insert
      (lit "caddy") (lit "db")
  networks := AList.singleton (lit "n") (lit "10.0.0.3")
  ports := [5432]

theorem mixed_dialects :
    ((discover (lit "n") (fun _ => .stored) [mixed]).1.map (·.source) = [lit "caddy"] ∧
      (discover (lit "n") (fun _ => .stored) [mixed]).2.map (·.source) = [lit "traefik"]) ∧
    ¬ ∀ (networkName : GoString) (ord : Orders) (running : List Container),
      (running.map Container.name).Nodup →
      ∀ info ∈ running, info.OneDialect networkName ord running := by
  refine ⟨by decide, ?_⟩
  intro one
  have own := (oneDialect_own (by decide) List.mem_cons_self).mp
    (one (lit "n") (fun _ => .stored) [mixed] (by decide) mixed List.mem_cons_self)
  have dialect : mixed.dialect (fun _ => .stored) = some .traefik := by decide
  have emitted : mixed.emitted (lit "n") (fun _ => .stored) =
      caddyRoutes (lit "n") (fun _ => .stored) mixed := by decide
  have none_caddy := caddy_undialected dialect (emitted ▸ own.routes)
  exact absurd none_caddy (by decide)

/-- The database without its Caddy label. -/
def database : Container := { mixed with labels := mixed.labels.erase (lit "caddy") }

/-- A shop with labels for a Traefik HTTP router and a Caddy label. -/
def shop : Container where
  names := [lit "/shop"]
  labels :=
    ((AList.singleton (lit "traefik.enable") (lit "true")).insert
      (lit "traefik.http.routers.shop.rule") (lit "Host(`shop`)")).insert
      (lit "caddy") (lit "shop")
  networks := AList.singleton (lit "n") (lit "10.0.0.4")
  ports := [8080]

/-- The labels of the shop are mixed, but its HTTP labels parse, so that the third pass leaves it
out. -/
theorem one_dialect_shop :
    ([app, database, shop].map Container.name).Nodup ∧
      (shop.parses (fun _ => .stored) .traefik = true ∧
        shop.parses (fun _ => .stored) .caddy = true) ∧
      ∀ info ∈ [app, database, shop],
        info.OneDialect (lit "n") (fun _ => .stored) [app, database, shop] := by
  have distinct : ([app, database, shop].map Container.name).Nodup := by decide
  have unmixed : ∀ info ∈ [app, database, shop], info.Unmixed (lit "n") (fun _ => .stored) := by
    unfold Container.Unmixed
    decide
  exact ⟨distinct, by decide, (one_dialect_iff distinct).mpr unmixed⟩

end Pintle.Docker
