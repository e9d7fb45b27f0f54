import Pintle.Config
import Pintle.Go.Net

/-!
# Loading the configuration

Model of `load` and `validate` of `internal/config/config.go`. What the process finds outside (the
environment, the files it looks for, the address of the host) is an `Environment`, and the package
`flag` is a parameter. A statement about every parser of flags is a statement about every argument
list.
-/

namespace Pintle
open Go

/-- Go `Config`. -/
structure Settings extends Config where
  baseDomain : GoString
  dashboardHost : GoString := []
  listenPort : Int
  httpPort : Int
  dockerNetwork : GoString
  certsDir : GoString
  routesFile : GoString
  hostAddress : GoString := []
  inDocker : Bool := false
  viteDevURL : GoString
  logLevel : GoString
  logFormat : GoString
  portRedirect : Bool := false
  loopbackAddress : GoString := []

/-- What Go `os.Stat` says about a path. -/
inductive Stat where
  | found
  | missing
  | failed
  deriving DecidableEq, Repr

/-- What `load` reads from outside: the environment variables, the files, the path of the routes file
under the user's home directory, if there is one, and the result of Go `hostdetect.Detect`. -/
structure Environment where
  getenv : GoString → GoString
  stat : GoString → Stat
  homeRoutes : Option GoString
  detect : GoString

namespace Environment

/-- Go `envOrDefault`. -/
def envOrDefault (env : Environment) (key defaultVal : GoString) : GoString :=
  if env.getenv key ≠ [] then env.getenv key else defaultVal

/-- Go `envIntOrDefault`. A malformed number leaves the default. -/
def envIntOrDefault (env : Environment) (key : GoString) (defaultVal : Int) : Int :=
  if env.getenv key ≠ [] then (parseInt (env.getenv key)).getD defaultVal else defaultVal

/-- The defaults of the flags. -/
def defaults (env : Environment) : Settings where
  staticOnly := false
  baseDomain := env.envOrDefault (lit "BASE_DOMAIN") (lit "lvh.me")
  listenPort := env.envIntOrDefault (lit "LISTEN_PORT") 9443
  httpPort := env.envIntOrDefault (lit "HTTP_PORT") 9080
  dockerNetwork := env.envOrDefault (lit "DOCKER_NETWORK") (lit "traefik")
  certsDir := env.envOrDefault (lit "CERTS_DIR") (lit "./certs")
  routesFile := env.envOrDefault (lit "ROUTES_FILE") (lit "./routes.yaml")
  viteDevURL := env.getenv (lit "VITE_DEV_URL")
  logLevel := env.envOrDefault (lit "LOG_LEVEL") (lit "info")
  logFormat := env.envOrDefault (lit "LOG_FORMAT") (lit "text")

/-- The routes file: the default one, when it is missing, gives way to one in the home directory. -/
def resolveRoutesFile (env : Environment) (routesFile : GoString) : GoString :=
  if routesFile = lit "./routes.yaml" ∧ env.stat routesFile = .missing then
    match env.homeRoutes with
    | none => routesFile
    | some path => if env.stat path = .found then path else routesFile
  else routesFile

end Environment

/-- An environment without variables and files. -/
def bareEnvironment : Environment where
  getenv _ := []
  stat _ := .missing
  homeRoutes := none
  detect := lit "localhost"

namespace Settings

/-- Go `validate`, which fills in the loopback address. -/
def validate (c : Settings) : Except GoString Settings :=
  if !c.staticOnly then
    if c.loopbackAddress ≠ [] then .error (lit "--loopback-address requires --static-only")
    else .ok c
  else
    let c := if c.loopbackAddress = [] then { c with loopbackAddress := lit "127.0.0.1" } else c
    if (parseIP c.loopbackAddress).all (!isLoopback ·) then
      .error (lit ("--static-only requires --loopback-address to be a loopback IP " ++
        "(127.0.0.0/8 or ::1)"))
    else if c.portRedirect then
      .error (lit "--static-only cannot be combined with --port-redirect")
    else if c.viteDevURL ≠ [] then
      .error (lit ("--static-only requires VITE_DEV_URL to be unset; " ++
        "dashboard uses embedded files"))
    else if !validPort c.listenPort || !validPort c.httpPort || c.listenPort = c.httpPort then
      .error (lit "--static-only requires distinct HTTP/HTTPS ports in 1..65535")
    else .ok c

/-- Go `load`. -/
def load (parseFlags : Settings → List GoString → Except GoString Settings) (env : Environment)
    (args : List GoString) : Except GoString Settings := do
  let cfg ← parseFlags env.defaults args
  let cfg ← cfg.validate
  return { cfg with
    dashboardHost := lit "pintle." ++ cfg.baseDomain
    routesFile := env.resolveRoutesFile cfg.routesFile
    hostAddress := if cfg.staticOnly then lit "127.0.0.1" else env.detect
    inDocker := env.stat (lit "/.dockerenv") = .found }

/-- A literal loopback address. -/
def Loopback (address : GoString) : Prop := ∃ ip, parseIP address = some ip ∧ isLoopback ip = true

/-- What static-only mode promises of the two listeners. -/
structure LoopbackOnly (c : Settings) : Prop where
  loopback : Loopback c.loopbackAddress
  listenPort : 1 ≤ c.listenPort ∧ c.listenPort ≤ 65535
  httpPort : 1 ≤ c.httpPort ∧ c.httpPort ≤ 65535
  distinct : c.listenPort ≠ c.httpPort

lemma validate_static {c c' : Settings} (ok : c.validate = .ok c') (static : c'.staticOnly = true) :
    c'.LoopbackOnly := by
  unfold validate at ok
  split at ok
  · rename_i open_mode
    split at ok
    · cases ok
    · cases ok
      rw [static] at open_mode
      cases open_mode
  · generalize (if c.loopbackAddress = [] then { c with loopbackAddress := lit "127.0.0.1" } else c)
      = filled at ok
    dsimp only at ok
    split at ok
    · cases ok
    · rename_i loopback
      split at ok
      · cases ok
      · split at ok
        · cases ok
        · split at ok
          · cases ok
          · rename_i ports
            cases ok
            simp only [Bool.or_eq_true, Bool.not_eq_true', decide_eq_true_eq, not_or,
              Bool.not_eq_false, validPort, Bool.and_eq_true] at ports
            refine ⟨?_, ports.1.1, ports.1.2, ports.2⟩
            cases parsed : parseIP c'.loopbackAddress with
            | none => simp [parsed] at loopback
            | some ip => exact ⟨ip, parsed, by simpa [parsed] using loopback⟩

/-- A static-only configuration that was loaded keeps to two loopback ports. -/
lemma load_static {parseFlags : Settings → List GoString → Except GoString Settings}
    {env : Environment} {args : List GoString} {cfg : Settings}
    (loaded : load parseFlags env args = .ok cfg) (static : cfg.staticOnly = true) :
    cfg.LoopbackOnly := by
  simp only [load, bind, Except.bind] at loaded
  split at loaded
  · cases loaded
  · split at loaded
    · cases loaded
    · rename_i valid
      cases loaded
      have kept := validate_static valid static
      exact ⟨kept.loopback, kept.listenPort, kept.httpPort, kept.distinct⟩

end Settings
end Pintle
