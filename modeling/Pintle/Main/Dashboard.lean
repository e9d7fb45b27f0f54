import Pintle.Config.Load
import Pintle.Main.Deployment
import Pintle.Main.Topology
import Pintle.Router.Changes
import Pintle.Router.Snapshot

/-!
# What the dashboard shows

Model of `handleTopology` of `internal/api/api.go`. It puts together what four places remember, and
none of them reads another: the router has the routes that were installed, the Docker provider the
list of its last discovery, `run` the TCP routes of the last configuration and the aggregator the
passthrough domains. At rest after an orderly run they tell one story, of the containers now running and
of the last routes file that was accepted (`topology_settles`).
-/

namespace Pintle
open Go Lib

/-- The ports of Go `Runtime`. -/
structure Runtime where
  httpsPort : Int
  sniEnabled : Bool
  sniPort : Int

/-- Go `topologyRoute`. -/
structure TopologyRoute where
  hostname : GoString
  path : GoString
  target : GoString
  stripPath : Bool
  source : GoString
  containerName : GoString
  deriving DecidableEq, Repr

/-- Go `topologyContainer`. -/
structure TopologyContainer where
  name : GoString
  hostname : GoString
  target : GoString
  source : GoString
  deriving DecidableEq, Repr

/-- Go `topologyStaticRoute`. -/
structure TopologyStaticRoute where
  hostname : GoString
  target : GoString
  source : GoString
  deriving DecidableEq, Repr

/-- Go `topologyTcpRoute`. -/
structure TopologyTcpRoute where
  hostname : GoString
  listenPort : Int
  target : GoString
  source : GoString
  containerName : GoString
  deriving DecidableEq, Repr

/-- The entries of the map that Go `handleTopology` encodes. The SNI router is a port and the port it
listens on, the redirect the port it listens on and the one it redirects to. -/
structure Topology where
  backendHealth : HealthSnapshot
  mode : GoString
  sniRouter : Option (Int × Int)
  httpsPort : Int
  httpRedirect : Int × Int
  traefikIP : Option GoString
  traefikPort : Int
  domains : List GoString
  routes : List TopologyRoute
  containers : List TopologyContainer
  staticRoutes : List TopologyStaticRoute
  tcpRoutes : List TopologyTcpRoute

/-- The row of a route. -/
def Route.topologyRoute (route : Route) : TopologyRoute where
  hostname := route.hostname
  path := route.path
  target := route.target
  stripPath := route.stripPath
  source := route.source
  containerName := route.containerName

/-- The row of a route of a container. -/
def Route.topologyContainer (route : Route) : TopologyContainer where
  name := if route.containerName = [] then lit "unknown" else route.containerName
  hostname := route.hostname
  target := route.target
  source := lit "docker"

/-- The row of a static route. -/
def Route.topologyStaticRoute (route : Route) : TopologyStaticRoute where
  hostname := route.hostname
  target := route.target
  source := lit "static"

/-- The row of a TCP route. -/
def TcpRoute.topologyTcpRoute (route : TcpRoute) : TopologyTcpRoute where
  hostname := route.hostname
  listenPort := route.listenPort
  target := route.targetHost ++ lit ":" ++ itoa route.targetPort
  source := route.source
  containerName := route.containerName

/-- Go `sniTopology`. -/
def sniTopology (rt : Runtime) : Option (Int × Int) :=
  if rt.sniEnabled then some (rt.sniPort, 443) else none

/-- Go `handleTopology`: what it encodes of the routes of `GetAllRoutes`, of `SnapshotHealth`, and of
what `GetTraefikTarget`, `GetDockerRoutes`, `getTcpRoutes` and `getPassthrough` return. -/
def handleTopology (cfg : Settings) (rt : Runtime) (routes : List Route)
    (backendHealth : HealthSnapshot) (traefik : GoString × Int) (dockerRoutes : List Route)
    (tcpRoutes : List TcpRoute) (passthrough : List PassthroughDomain) : Topology where
  backendHealth := backendHealth
  mode := if cfg.inDocker then lit "docker" else lit "host-native"
  sniRouter := sniTopology rt
  httpsPort := rt.httpsPort
  -- static-only mode binds its HTTP port itself; the other modes have port 80 mapped onto it
  httpRedirect := (cfg.httpPort, if cfg.staticOnly then cfg.httpPort else 80)
  traefikIP := if traefik.1 = [] then none else some traefik.1
  traefikPort := traefik.2
  domains := passthroughDomainList passthrough
  routes := routes.map (·.topologyRoute)
  containers := dockerRoutes.map (·.topologyContainer)
  staticRoutes := (routes.filter (·.source = lit "static")).map (·.topologyStaticRoute)
  tcpRoutes := tcpRoutes.map (·.topologyTcpRoute)

/-- The dashboard of a state: the orders are those of the three maps it visits. -/
def Deployment.topology {ρ : Type} (υ : Type) [Url υ] (cfg : Settings) (rt : Runtime)
    (visit : RangeOrder (GoString × List Route)) (visitHealth : RangeOrder (GoString × HealthState))
    (visitConfigs : RangeOrder (GoString × Message)) (now : Int) (traefik : GoString × Int)
    (s : Deployment ρ) : Topology :=
  handleTopology cfg rt (s.pipeline.router.getAllRoutes visit)
    (s.pipeline.router.snapshotHealth υ visitHealth now) traefik s.docker.dockerRoutes
    s.pipeline.allTcpRoutes (getCurrentPassthrough visitConfigs s.pipeline.configs)

/-- A row that comes from a container, rather than from the routes file. -/
def TopologyRoute.fromContainer (row : TopologyRoute) : Bool := row.source ≠ lit "static"

namespace Docker

/-- No discovered route is a static one. -/
lemma discover_dynamic {networkName : GoString} {ord : Orders} {running : List Container}
    {route : Route} (member : route ∈ (discover networkName ord running).1) :
    route.source ≠ lit "static" := by
  cases discoverRoutes_origin member with
  | proxy _ here =>
    rw [(proxyRoutes_mem here).2.1]
    decide
  | traefik _ here =>
    rw [(traefikRoutes_mem here).2.1]
    decide
  | caddy _ here =>
    rw [(caddyRoutes_mem here).1]
    decide

end Docker

namespace Deployment
variable {ρ : Type} [Regexp ρ] {c : Config} {networkName : GoString}
  {load : Except GoString GoString → Message} {h : List DeploymentEvent} {s : Deployment ρ}

omit [Regexp ρ] in
lemma discovered_dynamic {ord : Docker.Orders} {route : Route}
    (member : route ∈ (s.discovered c networkName ord).1) : route.source ≠ lit "static" := by
  unfold discovered at member
  split at member
  · cases member
  · exact Docker.discover_dynamic member

/-- At rest the passthrough domains are those of the accepted file. -/
lemma Serves.passthrough {t : Pipeline ρ} (serves : Serves c networkName load h s t)
    {found : Docker.Found} (docker : (t.configs.lookup (lit "docker")).getD
      { providerName := lit "docker" } = Docker.discoveryMessage found)
    (visit : RangeOrder (GoString × Message)) :
    getCurrentPassthrough visit t.configs = (acceptedFile c h).passthrough := by
  have file : (t.configs.lookup (lit "file")).getD { providerName := lit "file" } =
      acceptedFile c h := by rw [serves.file, acceptedFile]
  have yields := getCurrentPassthrough_yields visit t.configs
  generalize getCurrentPassthrough visit t.configs = passthrough at yields
  cases yields with
  | @entries provider msg stored declared =>
    by_cases is_docker : provider = lit "docker"
    · subst is_docker
      rw [stored, Option.getD_some] at docker
      exact absurd (congrArg Message.passthrough docker) declared
    · by_cases is_file : provider = lit "file"
      · subst is_file
        rw [stored, Option.getD_some] at file
        rw [file]
      · rw [serves.others provider is_docker is_file] at stored
        cases stored
  | nothing empty =>
    cases stored : t.configs.lookup (lit "file") with
    | none =>
      rw [stored, Option.getD_none] at file
      rw [← file]
    | some msg =>
      rw [stored, Option.getD_some] at file
      rw [← file, empty _ _ stored]

/-- The routes of the accepted file have exact hostnames and the static source. -/
lemma acceptedFile_static {υ : Type} [Url υ] {f : File.FileProvider} {pkg : File.Packages}
    (run : ((system c networkName (f.loadFile υ pkg) ρ).restrict (Orderly (f.loadFile υ pkg))).Run h s)
    {route : Route} (member : route ∈ (acceptedFile c h).routes) :
    route.isRegexp = false ∧ route.source = lit "static" := by
  unfold acceptedFile at member
  cases found : (File.fileMessages (DeploymentEvent.fileSteps h)).find? c.accepts with
  | none =>
    rw [found] at member
    cases member
  | some msg =>
    rw [found] at member
    obtain ⟨read, rfl⟩ := (File.Watch.run_loaded (run_file run).of_restrict).2 msg
      (List.mem_of_find?_eq_some found)
    have fromFile := File.loadFile_fromFile (loadFile_loaded (List.find?_some found))
    exact ⟨fromFile.exact route member, fromFile.static route member⟩

/-- Routes with exact hostnames are all installed. -/
lemma validRoutes_exact {routes : List Route} (exact : ∀ route ∈ routes, route.isRegexp = false) :
    validRoutes ρ routes = routes := by
  refine List.filter_eq_self.mpr fun route member => ?_
  rw [exact route member]
  rfl

/-- What the dashboard shows at rest. After every orderly run (container changes are in time, no Docker
call fails, no discoveries overlap, file changes are noticed), once both providers are at rest and the
pipeline has finished, in every order of the maps it visits: the containers are those of a discovery of
what is now running, none in static-only mode; the static routes, the TCP routes and the passthrough
domains are those of the last accepted routes file, the TCP routes with those of the containers; and of
the routes, those that are not from the file are exactly the containers listed whose pattern, if they
have one, compiles. -/
theorem topology_settles (cfg : Settings) {υ : Type} [Url υ] {f : File.FileProvider}
    {pkg : File.Packages}
    (run : ((system cfg.toConfig networkName (f.loadFile υ pkg) ρ).restrict
      (Orderly (f.loadFile υ pkg))).Run h s)
    (docker : cfg.staticOnly = false → s.docker.AtRest) (file : s.file.AtRest) {t : Pipeline ρ}
    (finished : Pipeline.Finished cfg.toConfig (DeploymentEvent.pipelineSteps h) s.pipeline t) :
    ∃ ord, ∀ rt visit visitHealth visitConfigs now traefik,
      let found := s.discovered cfg.toConfig networkName ord
      let declared := acceptedFile cfg.toConfig h
      let topo := topology υ cfg rt visit visitHealth visitConfigs now traefik { s with pipeline := t }
      topo.containers = found.1.map (·.topologyContainer) ∧
      topo.staticRoutes.Perm (declared.routes.map (·.topologyStaticRoute)) ∧
      topo.tcpRoutes.Perm ((declared.tcpRoutes ++ found.2).map (·.topologyTcpRoute)) ∧
      topo.domains = passthroughDomainList declared.passthrough ∧
      (topo.routes.filter (·.fromContainer)).Perm ((validRoutes ρ found.1).map (·.topologyRoute)) ∧
      (topo.routes.filter (!·.fromContainer)).Perm (declared.routes.map (·.topologyRoute)) := by
  have named (read) (accepted : cfg.accepts (f.loadFile υ pkg read) = true) := loadFile_named accepted
  have serves := finished_serves run named docker file finished
  obtain ⟨ord, cached, found⟩ := finished_discovered run named docker finished
  obtain ⟨visit', installed, tcp⟩ := serves.tables
  refine ⟨ord, ?_⟩
  intro rt visit visitHealth visitConfigs now traefik found' declared topo
  have static (route) (member : route ∈ declared.routes) := acceptedFile_static run member
  have dynamic (route) (member : route ∈ validRoutes ρ found'.1) : route.source ≠ lit "static" :=
    discovered_dynamic (List.mem_filter.mp member).1
  -- the routes in the router, and how their source divides them
  have listed : (t.router.getAllRoutes visit).Perm (declared.routes ++ validRoutes ρ found'.1) := by
    have merged := serves.entries_perm found Message.routes (fun _ => rfl) visit'
    rw [← merge_routes] at merged
    refine (installed.flattenLocked_perm visit).trans ((merged.filter _).trans (.of_eq ?_))
    rw [List.filter_append]
    exact congrArg (· ++ _) (validRoutes_exact fun route member => (static route member).1)
  have fromFile : ((t.router.getAllRoutes visit).filter (·.source = lit "static")).Perm
      declared.routes := by
    refine (listed.filter _).trans (.of_eq ?_)
    rw [List.filter_append, List.filter_eq_self.mpr, List.filter_eq_nil_iff.mpr, List.append_nil]
    · intro route member
      simpa using dynamic route member
    · intro route member
      simpa using (static route member).2
  have fromContainer : ((t.router.getAllRoutes visit).filter (·.source ≠ lit "static")).Perm
      (validRoutes ρ found'.1) := by
    refine (listed.filter _).trans (.of_eq ?_)
    rw [List.filter_append, List.filter_eq_nil_iff.mpr, List.filter_eq_self.mpr, List.nil_append]
    · intro route member
      simpa using dynamic route member
    · intro route member
      simpa using (static route member).2
  refine ⟨?_, ?_, ?_, ?_, ?_, ?_⟩
  · exact congrArg (List.map (·.topologyContainer)) cached
  · exact fromFile.map _
  · have merged := serves.entries_perm found Message.tcpRoutes (fun _ => rfl) visit'
    rw [← merge_tcpRoutes, ← tcp] at merged
    exact merged.map _
  · exact congrArg passthroughDomainList (serves.passthrough found visitConfigs)
  · rw [show topo.routes = (t.router.getAllRoutes visit).map (·.topologyRoute) from rfl,
      List.filter_map]
    exact fromContainer.map _
  · rw [show topo.routes = (t.router.getAllRoutes visit).map (·.topologyRoute) from rfl,
      List.filter_map]
    refine List.Perm.map _ (.trans (.of_eq ?_) fromFile)
    apply List.filter_congr
    intro route _
    simp [TopologyRoute.fromContainer, Route.topologyRoute]

/-- A container that runs from the start is on the dashboard. -/
theorem topology_settles_started :
    ∃ s : Deployment Empty, s.docker.running = [Docker.app] ∧ ∃ t : Pipeline Empty, t.AtRest ∧
      ∀ rt visit visitHealth visitConfigs now traefik,
        (topology Origin bareEnvironment.defaults rt visit visitHealth visitConfigs now traefik
          { s with pipeline := t }).containers ≠ [] := by
  obtain ⟨h, s, run, docker, file, going, running, _⟩ := started_run
    (File.Watch.exampleProvider.loadFile Origin File.Watch.examplePackages)
    File.Watch.newFile (by decide)
  obtain ⟨_, t, _, _, finished⟩ := Pipeline.exists_finished (run_pipeline run.of_restrict) going
  obtain ⟨ord, shown⟩ := topology_settles bareEnvironment.defaults run
    (fun _ => docker) file finished
  refine ⟨s, running, t, finished.rest, ?_⟩
  intro rt visit visitHealth visitConfigs now traefik
  rw [(shown rt visit visitHealth visitConfigs now traefik).1]
  intro none
  rw [show s.discovered bareEnvironment.defaults.toConfig (lit "n") ord =
    Docker.discover (lit "n") ord s.docker.running from rfl, running] at none
  exact Docker.Watch.discover_app ord (List.map_eq_nil_iff.mp none)

end Deployment
end Pintle
