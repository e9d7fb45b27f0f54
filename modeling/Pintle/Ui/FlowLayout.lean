import Pintle.Ui.Aggregate
import Pintle.Ui.Grouping

/-!
# The flow diagram

Model of `useFlowLayout` of `ui/src/components/useFlowLayout.ts`, with `matchesRoute` and
`isFilterActive` of `filters.ts` and `healthOf` of `health.ts`: from the topology, the statistics and
the state of the toolbar to the nodes and edges that the dashboard draws. A number is a rational one.
The comparison of strings and `toLowerCase` are parameters. What is the same for every node and every
edge is left out (that it is animated or may be dragged, the marker and the fonts of a label), and so
are the colours of dark mode.
-/

namespace Pintle.Grouping
open Ui Lib Stats

/-- TypeScript `sniRouter` of `ProxyTopology`. -/
structure SniPorts where
  port : Int
  listenPort : Int
  deriving DecidableEq, Repr

/-- TypeScript `httpRedirect` of `ProxyTopology`. -/
structure RedirectPorts where
  port : Int
  redirectPort : Int
  deriving DecidableEq, Repr

/-- TypeScript `traefik` of `ProxyTopology`. -/
structure TraefikTarget where
  ip : Option JsString
  port : Int
  domains : Option (List JsString)
  deriving DecidableEq, Repr

/-- TypeScript `ProxyTopology`, as far as the diagram shows it. -/
structure ProxyTopology where
  sniRouter : Option SniPorts
  httpsPort : Int
  httpRedirect : RedirectPorts
  traefik : TraefikTarget
  routes : Option (List ProxyRoute)

/-- TypeScript `ProxyStats`, as far as the diagram shows it. -/
structure ProxyStats where
  hostStats : JsString → Option RouteStats
  edgeStats : JsString → Option RouteStats

/-- TypeScript `HealthState`. -/
inductive HealthKind where
  | healthy
  | warning
  | error
  | idle
  deriving DecidableEq, Repr

/-- The share of errors that `healthOf` and `edgeStyle` go by. -/
def errorRate (stats : RouteStats) : ℚ := stats.errorCount / max stats.totalRequests 1

/-- TypeScript `healthOf`. -/
def healthOf : Option RouteStats → HealthKind
  | none => .idle
  | some stats =>
    if errorRate stats > 1 / 2 then .error
    else if errorRate stats > 1 / 10 then .warning
    else .healthy

/-- TypeScript `MatchMode`. -/
inductive MatchMode where
  | hide
  | spotlight
  deriving DecidableEq, Repr

/-- TypeScript `FlowFilters`. -/
structure FlowFilters where
  search : JsString := []
  source : Option SourceKind := none
  health : Option HealthKind := none
  matchMode : MatchMode := .hide

/-- TypeScript `isFilterActive`. -/
def isFilterActive (filters : FlowFilters) : Bool :=
  trim filters.search ≠ [] || filters.source.isSome || filters.health.isSome

/-- The statistics of a host, if there are any. -/
def hostStat (stats : Option ProxyStats) (hostname : JsString) : Option RouteStats :=
  stats.bind (·.hostStats hostname)

/-- TypeScript `matchesRoute`. -/
def matchesRoute (toLowerCase : JsString → JsString) (route : ProxyRoute)
    (stats : Option ProxyStats) (filters : FlowFilters) : Bool :=
  let query := toLowerCase (trim filters.search)
  if query ≠ [] && !includes (toLowerCase route.hostname) query then false
  else if filters.source.any (route.source ≠ ·) then false
  else if filters.health.any (healthOf (hostStat stats route.hostname) ≠ ·) then false
  else true

/-- The position of a node. -/
structure Position where
  x : ℚ
  y : ℚ
  deriving DecidableEq, Repr

/-- The type of a node with its data. -/
inductive NodeData where
  | infra (label sublabel : JsString) (port : Int) (externalPort : Option Int) (icon : JsString)
  | traefik (ip : Option JsString) (port : Int) (domains : List JsString)
  | service (hostname target : JsString) (source : SourceKind) (containerName : Option JsString)
    (stats : Option RouteStats)
  | serviceGroup (label : JsString) (count : Nat) (stats : Option RouteStats) (expanded : Bool)

/-- A node of the diagram. -/
structure Node where
  id : JsString
  position : Position
  data : NodeData
  dimmed : Bool := false

/-- How an edge is drawn. -/
structure EdgeStyle where
  stroke : JsString
  strokeWidth : ℚ
  deriving DecidableEq, Repr

/-- An edge of the diagram. -/
structure Edge where
  id : JsString
  source : JsString
  target : JsString
  label : JsString := []
  style : EdgeStyle
  dimmed : Bool := false

/-- TypeScript `edgeStyle`. -/
def edgeStyle : Option RouteStats → EdgeStyle
  | none => ⟨js "#6366f1", 3 / 2⟩
  | some stats =>
    if errorRate stats > 1 / 2 then ⟨js "#ef4444", 2⟩
    else if errorRate stats > 1 / 10 then ⟨js "#f59e0b", 2⟩
    else ⟨js "#22c55e", 2⟩

/-- TypeScript `edgeLabel`. -/
def edgeLabel : Option RouteStats → JsString
  | none => []
  | some stats =>
    if stats.totalRequests = 0 then [] else js (toString stats.totalRequests) ++ js " req"

/-- The nodes and edges drawn so far. -/
structure Drawing where
  nodes : List Node := []
  edges : List Edge := []

/-- The columns of the diagram, from left to right. -/
inductive Column where
  | clients
  | routing
  | servers
  | services
  | members
deriving DecidableEq

/-- TypeScript `BASE_COL`. -/
def baseCol : Column → ℚ
  | .clients => 0
  | .routing => 220
  | .servers => 460
  | .services => 720
  | .members => 980

/-- TypeScript `BASE_ROW_HEIGHT`. -/
def baseRowHeight : ℚ := 90

/-- TypeScript `GROUPING_THRESHOLD`. -/
def groupingThreshold : Nat := 5

/-- The identifier of the node of a service. -/
def serviceId (hostname : JsString) : JsString := js "svc-" ++ hostname

/-- The identifier of the node of a group. -/
def groupId (key : JsString) : JsString := js "grp-" ++ key

/-- The route of each hostname that comes first (TypeScript `uniqueRoutes`). -/
def uniqueRoutes (routes : List ProxyRoute) : OrderedMap JsString ProxyRoute :=
  routes.foldl (fun unique r =>
    if (unique.get r.hostname).isNone then unique.set r.hostname r else unique) .empty

/-- One more of a kind. -/
def bump {κ : Type} [DecidableEq κ] (counts : κ → Nat) (kind : κ) : κ → Nat :=
  fun k => if k = kind then counts k + 1 else counts k

/-- What TypeScript `useFlowLayout` returns. -/
structure Layout where
  nodes : List Node
  edges : List Edge
  toolbarActive : Bool
  sourceCounts : SourceKind → Nat
  healthCounts : HealthKind → Nat

/-- The nodes in front of the services. -/
def infraNodes (topology : ProxyTopology) (scale : ℚ) : List Node :=
  let row1 := 60 * scale
  let row2 := 200 * scale
  [{ id := js "browser"
     position := ⟨baseCol .clients * scale, row1⟩
     data := .infra (js "Browser") (js "HTTPS")
       ((topology.sniRouter.map (·.listenPort)).getD topology.httpsPort) none (js "globe") },
    { id := js "http-client"
      position := ⟨baseCol .clients * scale, row2⟩
      data := .infra (js "Browser") (js "HTTP") topology.httpRedirect.port none (js "globe") }] ++
  (match topology.sniRouter with
    | none => []
    | some sni =>
      [{ id := js "sni-router"
         position := ⟨baseCol .routing * scale, row1⟩
         data := .infra (js "SNI Router") (js "TLS routing") sni.port (some sni.listenPort)
           (js "shield") }]) ++
  [{ id := js "http-redirect"
     position := ⟨baseCol .routing * scale, row2⟩
     data := .infra (js "HTTP Redirect") (js "301 -> HTTPS") topology.httpRedirect.port
       (some topology.httpRedirect.redirectPort) (js "redirect") },
    { id := js "bun-https"
      position := ⟨baseCol .servers * scale, row1⟩
      data := .infra (js "HTTPS Server") (js "Reverse proxy") topology.httpsPort none
        (js "server") }] ++
  if topology.sniRouter.isSome || topology.traefik.ip.any (· ≠ []) then
    [{ id := js "traefik"
       position := ⟨baseCol .servers * scale, row2⟩
       data := .traefik topology.traefik.ip topology.traefik.port
         (topology.traefik.domains.getD []) }]
  else []

/-- The edges between the nodes in front of the services. -/
def infraEdges (topology : ProxyTopology) : List Edge :=
  let sni := topology.sniRouter.isSome
  [{ id := js "e-browser-sni"
     source := js "browser"
     target := if sni then js "sni-router" else js "bun-https"
     style := ⟨js "#6366f1", 3 / 2⟩ }] ++
  (if sni then
    [{ id := js "e-sni-bun"
       source := js "sni-router"
       target := js "bun-https"
       label := js "*.lvh.me"
       style := ⟨js "#6366f1", 3 / 2⟩ },
      { id := js "e-sni-traefik"
        source := js "sni-router"
        target := js "traefik"
        label := ((topology.traefik.domains.getD []).head?).getD (js "passthrough")
        style := ⟨js "#f97316", 3 / 2⟩ }]
  else []) ++
  [{ id := js "e-http-redirect"
     source := js "http-client"
     target := js "http-redirect"
     style := ⟨js "#6366f1", 3 / 2⟩ }]

section
variable (stats : Option ProxyStats) (scale : ℚ)

/-- TypeScript `pushServiceNode`. -/
def pushServiceNode (d : Drawing) (route : ProxyRoute) (x y : ℚ) (sourceNodeId : JsString)
    (dimmed : Bool) : Drawing :=
  let nodeId := serviceId route.hostname
  let edgeKey := route.hostname ++ js "->" ++ route.target
  let eStat := stats.bind (·.edgeStats edgeKey)
  { nodes := d.nodes ++
      [{ id := nodeId
         position := ⟨x, y⟩
         data := .service route.hostname route.target route.source route.containerName
           (hostStat stats route.hostname)
         dimmed }]
    edges := d.edges ++
      [{ id := js "e-" ++ sourceNodeId ++ js "-" ++ route.hostname
         source := sourceNodeId
         target := nodeId
         label := edgeLabel eStat
         style := edgeStyle eStat
         dimmed }] }

/-- Draw services below one another, from a height on. -/
def pushServices (d : Drawing) (routes : List ProxyRoute) (x y : ℚ) (sourceNodeId : JsString)
    (dimmedFor : ProxyRoute → Bool) : Drawing :=
  routes.zipIdx.foldl (fun d (route, idx) =>
    pushServiceNode stats d route x (y + idx * (baseRowHeight * scale)) sourceNodeId
      (dimmedFor route)) d

/-- The body of the loop over the groups, with the height at which the next one begins (TypeScript
`cursorY`). -/
def pushGroup (expandedGroups : JsString → Bool) (dimmedFor : ProxyRoute → Bool)
    (groupDimmed : ServiceGroup → Bool) (s : Drawing × ℚ) (group : ServiceGroup) : Drawing × ℚ :=
  let (d, cursorY) := s
  let rowHeight := baseRowHeight * scale
  match group.routes with
  | [route] =>
    (pushServiceNode stats d route (baseCol .services * scale) cursorY (js "bun-https") (dimmedFor route),
      cursorY + rowHeight)
  | routes =>
    let expanded := expandedGroups group.key
    let agg := aggregateStats (routes.map (·.hostname)) (stats.map (·.hostStats))
    let d : Drawing :=
      { nodes := d.nodes ++
          [{ id := groupId group.key
             position := ⟨baseCol .services * scale, cursorY⟩
             data := .serviceGroup group.label routes.length agg expanded
             dimmed := groupDimmed group }]
        edges := d.edges ++
          [{ id := js "e-bun-" ++ groupId group.key
             source := js "bun-https"
             target := groupId group.key
             label := edgeLabel agg
             style := edgeStyle agg
             dimmed := groupDimmed group }] }
    if expanded then
      (pushServices stats scale d routes (baseCol .members * scale) cursorY (groupId group.key) dimmedFor,
        cursorY + routes.length * rowHeight)
    else (d, cursorY + rowHeight)

end

/-- The state of the toolbar, with what the locale does to strings. -/
structure Toolbar where
  localeCompare : JsString → JsString → Int
  toLowerCase : JsString → JsString
  groupingMode : GroupingMode := .domain
  expandedGroups : JsString → Bool := fun _ => false
  filters : FlowFilters := {}

/-- The routes that are drawn, with the mode in which they are grouped. -/
def visibleRoutes (bar : Toolbar) (stats : Option ProxyStats) (routes : List ProxyRoute) :
    List ProxyRoute × GroupingMode :=
  let allRoutes := (uniqueRoutes routes).entries.map (·.2)
  let toolbarActive := allRoutes.length > groupingThreshold
  let filtering := toolbarActive && isFilterActive bar.filters
  let hideMode := filtering && bar.filters.matchMode ≠ .spotlight
  (if hideMode then allRoutes.filter fun route => matchesRoute bar.toLowerCase route stats bar.filters
    else allRoutes,
    if toolbarActive then bar.groupingMode else .none)

/-- The services, grouped or not. -/
def pushVisible (bar : Toolbar) (stats : Option ProxyStats) (scale : ℚ)
    (dimmedFor : ProxyRoute → Bool) (groupDimmed : ServiceGroup → Bool)
    (visible : List ProxyRoute) (effectiveMode : GroupingMode) (d : Drawing) : Drawing :=
  if effectiveMode = .none then
    pushServices stats scale d visible (baseCol .services * scale) (10 * scale) (js "bun-https") dimmedFor
  else
    ((groupRoutes bar.localeCompare visible effectiveMode).foldl
      (pushGroup stats scale bar.expandedGroups dimmedFor groupDimmed) (d, 10 * scale)).1

/-- TypeScript `useFlowLayout`. -/
def useFlowLayout (bar : Toolbar) (topology : Option ProxyTopology) (stats : Option ProxyStats)
    (scale : ℚ) : Layout :=
  match topology with
  | none =>
    { nodes := [], edges := [], toolbarActive := false
      sourceCounts := fun _ => 0, healthCounts := fun _ => 0 }
  | some topology =>
    let allRoutes := (uniqueRoutes (topology.routes.getD [])).entries.map (·.2)
    let toolbarActive := allRoutes.length > groupingThreshold
    let (visible, effectiveMode) := visibleRoutes bar stats (topology.routes.getD [])
    let filtering := toolbarActive && isFilterActive bar.filters
    let spotlight := bar.filters.matchMode = .spotlight
    let routeMatches := fun route => matchesRoute bar.toLowerCase route stats bar.filters
    let dimmedFor := fun route => filtering && spotlight && !routeMatches route
    let groupDimmed := fun group : ServiceGroup =>
      filtering && spotlight && !group.routes.any routeMatches
    let drawn := pushVisible bar stats scale dimmedFor groupDimmed visible effectiveMode
      { nodes := infraNodes topology scale }
    { nodes := drawn.nodes
      edges := drawn.edges ++ infraEdges topology
      toolbarActive
      sourceCounts := allRoutes.foldl (fun counts route => bump counts route.source) fun _ => 0
      healthCounts := allRoutes.foldl (fun counts route =>
        bump counts (healthOf (hostStat stats route.hostname))) fun _ => 0 }

end Pintle.Grouping
