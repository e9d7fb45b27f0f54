import Pintle.Go.Net
import Pintle.Go.Url
import Pintle.Provider

/-!
# The routes file

Model of `Check` and `loadFile` of `internal/provider/file/file.go`. What `os.ReadFile` returns is an
argument. The package `gopkg.in/yaml.v3` and the verb `%q` of error texts are parameters
(`Packages`), and so is `net/url` (`Url`). Log lines are left out.

An error that the loader finds in a route leaves the routes before it in the message, as in the
source.
-/

namespace Pintle.File
open Go

/-- The kind of a YAML node. -/
inductive Kind where
  | document
  | sequence
  | mapping
  | scalar
  | alias
  deriving DecidableEq, Repr

/-- Go `yaml.Node`. -/
inductive Node where
  | node (kind : Kind) (value : GoString) (content : List Node)

namespace Node

def kind : Node → Kind
  | .node kind _ _ => kind

def value : Node → GoString
  | .node _ value _ => value

def content : Node → List Node
  | .node _ _ content => content

end Node

/-- A decoded value of type `interface{}`. A `float64` is kept as what `int(v)` makes of it, a value of
a type without a case of its own as its `%v` text. -/
inductive Value where
  | nil
  | int (v : Int)
  | float (v : Int)
  | string (v : GoString)
  | other (text : GoString)
  deriving DecidableEq, Repr

/-- Whether a value may be one of several targets. -/
def Value.isReplica : Value → Bool
  | .int _ => true
  | .string _ => true
  | _ => false

/-- Go `staticHealthConfig`. -/
structure StaticHealthConfig where
  path : GoString
  interval : Value
  timeout : Value
  deriving DecidableEq, Repr

/-- Go `staticRouteConfig`. Nil `targets` are `none`. -/
structure StaticRouteConfig where
  host : GoString := []
  hosts : List GoString := []
  target : Value := .nil
  targets : Option (List Value) := none
  path : GoString := []
  strip : Bool := false
  health : Option StaticHealthConfig := none
  deriving DecidableEq, Repr

/-- Go `staticTcpRouteConfig`. -/
structure StaticTcpRouteConfig where
  host : GoString := []
  target : Value := .nil
  listen : Int := 0
  deriving DecidableEq, Repr

/-- Go `routesFile`. -/
structure RoutesFile where
  routes : List StaticRouteConfig := []
  passthrough : List PassthroughDomain := []
  tcp : List StaticTcpRouteConfig := []
  expect : List ExpectedHost := []
  deriving DecidableEq, Repr

/-- The packages behind the loader: Go `yaml.Unmarshal` into a node, `Node.Decode` into a
`routesFile`, and the verb `%q`. -/
structure Packages where
  unmarshal : GoString → Except GoString Node
  decode : Node → Except GoString RoutesFile
  quote : GoString → GoString

namespace StaticRouteConfig

/-- One iteration of the loop of Go `hostnames`. The names seen are those kept so far. -/
def addHostname (out : List GoString) (hostname : GoString) : List GoString :=
  if trimSpace hostname = [] ∨ trimSpace hostname ∈ out then out else out ++ [trimSpace hostname]

/-- Go `hostnames`. -/
def hostnames (r : StaticRouteConfig) : List GoString := (r.host :: r.hosts).foldl addHostname []

end StaticRouteConfig

/-- Go `portOnlyRegex`. -/
def portOnly (s : GoString) : Bool := s ≠ [] && s.all isDigit

/-- Go `strings.ContainsAny`, for ASCII characters. -/
def containsAny (s chars : GoString) : Bool := s.any (· ∈ chars)

/-- Go `FileProvider`, without the path that `os.ReadFile` is called with. -/
structure FileProvider where
  hostAddress : GoString

namespace FileProvider
variable (υ : Type) [Url υ] (f : FileProvider) (pkg : Packages)

/-- Go `rewriteHostInURL`. -/
def rewriteHostInURL (raw : GoString) : GoString :=
  if f.hostAddress = [] ∨ f.hostAddress = lit "host.docker.internal" then raw
  else
    match (Url.parse raw : Option υ) with
    | none => raw
    | some u =>
      if Url.host u = [] then raw
      else if Url.hostname u ≠ lit "host.docker.internal" then raw
      else if Url.port u ≠ [] then
        Url.string (Url.setHost u (joinHostPort f.hostAddress (Url.port u)))
      else Url.string (Url.setHost u f.hostAddress)

/-- The URL of a port on the host. -/
def portURL (port : GoString) : GoString := lit "http://" ++ f.hostAddress ++ lit ":" ++ port

/-- Go `resolveTarget`. -/
def resolveTarget : Value → GoString
  | .int v => f.portURL (itoa v)
  | .float v => f.portURL (itoa v)
  | .string v => if portOnly v then f.portURL v else f.rewriteHostInURL υ v
  | .nil => lit "<nil>"
  | .other text => text

/-- Go `resolveTcpTarget`. -/
def resolveTcpTarget : Value → GoString × Int
  | .int v => (f.hostAddress, v)
  | .float v => (f.hostAddress, v)
  | .string v =>
    if portOnly v then (f.hostAddress, atoi v)
    else
      let host := v.takeWhile (· ≠ 58)
      if host.length < v.length then (host, atoi (v.drop (host.length + 1))) else (v, 0)
  | .nil => (f.hostAddress, 0)
  | .other _ => (f.hostAddress, 0)

/-- The readiness check of a route, or nothing where the source refuses it. -/
def healthCheck (r : StaticRouteConfig) (h : StaticHealthConfig) : Option HealthCheck :=
  match h.interval, h.timeout, (Url.parseRequestURI h.path : Option υ) with
  | .int interval, .int timeout, some u =>
    if r.targets = none ∨ !hasPrefix h.path (lit "/") ∨ hasPrefix h.path (lit "//") ∨
        containsAny h.path (lit "?#\r\n") ∨ h.path.length > 256 ∨ Url.rawQuery u ≠ [] ∨
        Url.fragment u ≠ [] ∨ Url.host u ≠ [] ∨ interval < 5 ∨ interval > 300 ∨ timeout < 1 ∨
        timeout > 10 ∨ timeout > interval then none
    else some { path := h.path, intervalSeconds := interval, timeoutSeconds := timeout }
  | _, _, _ => none

/-- Go `url.Parse` with the checks of an HTTP target that `loadFileParsed` and `Check` share. -/
def parseTarget (target : GoString) : Option υ :=
  (Url.parse target).filter fun u =>
    (Url.scheme u = lit "http" || Url.scheme u = lit "https") && Url.hostname u ≠ [] &&
      (Url.user u).isNone

/-- The port of a target, if it has one, may be dialled. -/
def dialable (u : υ) : Bool := Url.port u = [] || (parseInt (Url.port u)).any validPort

/-- A message with an error in one of its routes. -/
def failRoute (msg : Message) (index : Nat) (text : String) : Message :=
  { msg with err := some (lit "route " ++ itoa (index + 1) ++ lit text) }

/-- The loop of Go `loadFileParsed` over the targets of a route. -/
def addTargets (index : Nat) (r : StaticRouteConfig) (path pool : GoString)
    (health : Option HealthCheck) : List Value → List GoString → Message → Except Message Message
  | [], _, msg => .ok msg
  | value :: values, seen, msg =>
    if pool ≠ [] ∧ !value.isReplica then
      .error (failRoute msg index " replica targets must be integer ports or URL strings")
    else
      let target := f.resolveTarget υ value
      match parseTarget υ target with
      | none => .error (failRoute msg index " has an invalid HTTP target")
      | some u =>
        if Url.fragment u ≠ [] then .error (failRoute msg index " has an invalid HTTP target")
        else if !dialable υ u then .error (failRoute msg index " has an invalid target port")
        else if target ∈ seen then .error (failRoute msg index " has duplicate replica targets")
        else
          addTargets index r path pool health values (target :: seen)
            { msg with
              routes := msg.routes ++ r.hostnames.map fun hostname =>
                { hostname
                  path
                  target
                  backendPool := pool
                  health
                  stripPath := r.strip
                  source := lit "static" } }

/-- One iteration of the loop of Go `loadFileParsed` over the routes. -/
def addRoute (index : Nat) (r : StaticRouteConfig) (msg : Message) : Except Message Message :=
  let health := r.health.map (healthCheck υ r)
  if health = some none then
    .error (failRoute msg index (" health requires targets, an origin path, interval_seconds " ++
      "5..300 and timeout_seconds 1..10 no greater than interval"))
  else
    let path := if r.path = [] then lit "/" else r.path
    match r.targets with
    | none => f.addTargets υ index r path [] health.join [r.target] [] msg
    | some targets =>
      if r.target ≠ .nil ∨ targets.length < 1 ∨ targets.length > 32 then
        .error (failRoute msg index " requires either target or 1..32 targets")
      else
        f.addTargets υ index r path (lit "static:" ++ itoa index) health.join targets [] msg

/-- The loop of Go `loadFileParsed` over the routes from an index on. -/
def addRoutes : Nat → List StaticRouteConfig → Message → Except Message Message
  | _, [], msg => .ok msg
  | index, r :: routes, msg =>
    match f.addRoute υ index r msg with
    | .error failed => .error failed
    | .ok msg => addRoutes (index + 1) routes msg

/-- The keys of a routes document that hold a collection. -/
def collectionKeys : List GoString := [lit "routes", lit "tcp", lit "passthrough", lit "expect"]

/-- The loop of Go `loadFileParsed` over the keys and values of the document: whether one of them is
a collection. -/
def explicitCollection : List Node → Bool → Except GoString Bool
  | key :: value :: rest, found =>
    if key.value ∈ collectionKeys then
      if value.kind ≠ .sequence then
        .error (key.value ++ lit " must be an explicit sequence; use [] to clear it")
      else explicitCollection rest true
    else explicitCollection rest found
  | _, found => .ok found

/-- The part of Go `loadFileParsed` up to the decoded document. -/
def parseDocument (data : GoString) : Except GoString RoutesFile := do
  if trimSpace data = [] then
    throw (lit "routes document is empty; use routes: [] to explicitly clear routes")
  let document ← pkg.unmarshal data
  match document.content with
  | [.node .mapping _ content] =>
    if !(← explicitCollection content false) then
      throw (lit ("routes document requires routes, tcp, passthrough or expect; " ++
        "use routes: [] to clear routes"))
    pkg.decode document
  | _ => throw (lit "routes document requires an explicit collection")

/-- Go `loadFileParsed`, on what `os.ReadFile` returns. -/
def loadFileParsed (read : Except GoString GoString) : Message × RoutesFile :=
  let msg : Message := { providerName := lit "file" }
  match read.bind (parseDocument pkg) with
  | .error err => ({ msg with err := some err }, {})
  | .ok parsed =>
    match f.addRoutes υ 0 parsed.routes msg with
    | .error failed => (failed, {})
    | .ok msg =>
      if (msg.routes.filter (·.health.isSome)).length > 128 then
        ({ msg with
            err := some (lit "health probes are limited to 128 configured host/backend pairs") }, {})
      else
        ({ msg with
            passthrough := parsed.passthrough
            expected := parsed.expect
            tcpRoutes := parsed.tcp.map fun t =>
              { hostname := t.host
                targetHost := (f.resolveTcpTarget t.target).1
                targetPort := (f.resolveTcpTarget t.target).2
                listenPort := t.listen
                source := lit "static" } }, parsed)

/-- Go `validPassthroughTarget`. -/
def validPassthroughTarget (target : GoString) : Bool :=
  if target = [] ∨ target = lit "traefik" then true
  else
    match splitHostPort target with
    | none => false
    | some (host, rawPort) => host ≠ [] && (parseInt rawPort).any validPort

/-- What Go `Check` finds wrong with the target of a route. -/
def routeError (route : Route) : Option GoString :=
  match parseTarget υ route.target with
  | none =>
    some (lit "invalid HTTP target " ++ pkg.quote route.target ++ lit " for " ++ route.hostname)
  | some u =>
    if dialable υ u then none
    else
      some (lit "invalid HTTP target port " ++ pkg.quote (Url.port u) ++ lit " for " ++ route.hostname)

/-- What Go `Check` finds wrong with a TCP route. -/
def tcpError (route : TcpRoute) : Option GoString :=
  if route.hostname = [] ∨ route.targetHost = [] ∨ !validPort route.targetPort ∨
      !validPort route.listenPort then
    some (lit "invalid TCP destination or listen port for " ++ pkg.quote route.hostname)
  else none

/-- What Go `Check` finds wrong with a passthrough domain. -/
def passthroughError (pt : PassthroughDomain) : Option GoString :=
  if pt.domain = [] ∨ !validPassthroughTarget pt.target then
    some (lit "invalid passthrough destination " ++ pkg.quote pt.target ++ lit " for " ++
      pkg.quote pt.domain ++ lit ": use traefik or host:port")
  else none

/-- Go `Check`: the message and the first error. -/
def check (read : Except GoString GoString) : Message × Option GoString :=
  let (msg, parsed) := f.loadFileParsed υ pkg read
  let noHost :=
    if parsed.routes.any (·.hostnames = []) then some (lit "HTTP route has no host") else none
  (msg, msg.err <|> noHost <|> msg.routes.findSome? (routeError υ pkg) <|>
    msg.tcpRoutes.findSome? (tcpError pkg) <|> msg.passthrough.findSome? (passthroughError pkg))

/-- Go `loadFile`. -/
def loadFile (read : Except GoString GoString) : Message :=
  match f.check υ pkg read with
  | (msg, none) => msg
  | (msg, some err) => { msg with err := some err }

end FileProvider
end Pintle.File
