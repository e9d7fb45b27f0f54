import Pintle.Config.Load
import Pintle.Go.Flag

/-!
# The restart command

The flags that `load` of `internal/config/config.go` defines, and the command that `handleSelf` of
`internal/api/api.go` reports for starting the process again.

In static-only mode the command restates the flags of the mode, so that a start with it, in a shell
with any environment, comes back up with the same addresses, ports and files
(`restart_same_mode`). The flags that it leaves out, such as `--base-domain`, do not survive.
-/

namespace Pintle.Settings
open Go

/-- The flags of Go `load`. -/
def flags : List (Flag Settings) :=
  [.stringVar (lit "base-domain") fun value c => { c with baseDomain := value },
    .intVar (lit "listen-port") fun value c => { c with listenPort := value },
    .intVar (lit "http-port") fun value c => { c with httpPort := value },
    .stringVar (lit "certs-dir") fun value c => { c with certsDir := value },
    .stringVar (lit "routes-file") fun value c => { c with routesFile := value },
    .boolVar (lit "port-redirect") fun value c => { c with portRedirect := value },
    .boolVar (lit "static-only") fun value c => { c with staticOnly := value },
    .stringVar (lit "loopback-address") fun value c => { c with loopbackAddress := value },
    .stringVar (lit "log-level") fun value c => { c with logLevel := value },
    .stringVar (lit "log-format") fun value c => { c with logFormat := value }]

/-- Go `flags.Parse` on them, where `message` is the text of an error. -/
def parseFlags (message : FlagError → GoString) (c : Settings) (args : List GoString) :
    Except GoString Settings :=
  match Flag.parse flags args c with
  | .ok c => .ok c
  | .error err => .error (message err)

/-- The restart command of Go `handleSelf`, where `workingDir` is the directory of the compose
project. -/
def restartCommand (c : Settings) (workingDir : GoString) : GoString :=
  if c.inDocker then
    if workingDir ≠ [] then lit "cd " ++ workingDir ++ lit " && docker compose up -d --build"
    else lit "docker compose up -d --build"
  else if c.staticOnly then
    lit "./pintle --static-only --loopback-address " ++ c.loopbackAddress ++
      lit " --listen-port " ++ itoa c.listenPort ++ lit " --http-port " ++ itoa c.httpPort ++
      lit " --routes-file " ++ c.routesFile ++ lit " --certs-dir " ++ c.certsDir
  else lit "./pintle --port-redirect"

/-- A configuration of the same mode: what the process listens on, which files it reads and where it
finds the host. -/
structure SameMode (c c' : Settings) : Prop where
  staticOnly : c'.staticOnly = c.staticOnly
  loopbackAddress : c'.loopbackAddress = c.loopbackAddress
  listenPort : c'.listenPort = c.listenPort
  httpPort : c'.httpPort = c.httpPort
  routesFile : c'.routesFile = c.routesFile
  certsDir : c'.certsDir = c.certsDir
  hostAddress : c'.hostAddress = c.hostAddress
  inDocker : c'.inDocker = c.inDocker
  portRedirect : c'.portRedirect = c.portRedirect

/-- The arguments of the restart command in static-only mode. -/
def restartArgs (c : Settings) : List GoString :=
  [lit "--static-only", lit "--loopback-address", c.loopbackAddress, lit "--listen-port",
    itoa c.listenPort, lit "--http-port", itoa c.httpPort, lit "--routes-file", c.routesFile,
    lit "--certs-dir", c.certsDir]

/-- The command is made of words, with blanks between them. -/
lemma restartCommand_eq {c : Settings} (native : c.inDocker = false) (static : c.staticOnly = true)
    (workingDir : GoString) :
    c.restartCommand workingDir = [32].intercalate (lit "./pintle" :: c.restartArgs) := by
  rw [restartCommand, native, static, if_neg Bool.false_ne_true, if_pos rfl, restartArgs]
  simp only [List.intercalate_cons_cons, List.intercalate_singleton, List.append_assoc]
  rfl

/-- An address is a word. -/
lemma word_address {address : GoString} {ip : IP} (parsed : parseIP address = some ip) :
    Word address := by
  constructor
  · rintro rfl
    cases parsed
  · rw [List.all_eq_true]
    intro b member
    have plain : ∀ b : UInt8, isAddressByte b = true → isWordByte b = true :=
      forall_byte (by decide +kernel)
    exact plain b (parseIP_bytes parsed b member)

/-- A number is a word. -/
lemma word_itoa {n : Nat} (positive : 0 < n) (small : n < 2 ^ 63) : Word (itoa n) := by
  constructor
  · intro empty
    have read := parseInt0_itoa positive small
    rw [empty] at read
    cases read
  · rw [List.all_eq_true]
    intro b member
    rw [isWordByte, isDigit_of_mem_itoa member]
    rfl

/-- The flags take their values back. -/
lemma parse_restartArgs {c : Settings} {listenPort httpPort : Nat}
    (listen : c.listenPort = listenPort) (http : c.httpPort = httpPort)
    (ports : 0 < listenPort ∧ listenPort < 2 ^ 63 ∧ 0 < httpPort ∧ httpPort < 2 ^ 63)
    (start : Settings) :
    Flag.parse flags c.restartArgs start = .ok { start with
      staticOnly := true
      loopbackAddress := c.loopbackAddress
      listenPort := c.listenPort
      httpPort := c.httpPort
      routesFile := c.routesFile
      certsDir := c.certsDir } := by
  have readListen : (parseInt0 (itoa c.listenPort)) = some c.listenPort := by
    rw [listen]
    exact parseInt0_itoa ports.1 ports.2.1
  have readHttp : (parseInt0 (itoa c.httpPort)) = some c.httpPort := by
    rw [http]
    exact parseInt0_itoa ports.2.2.1 ports.2.2.2
  calc Flag.parse flags c.restartArgs start
    _ = Flag.parse flags (c.restartArgs.drop 1) { start with staticOnly := true } :=
      Flag.parse_bool rfl rfl rfl rfl
    _ = Flag.parse flags (c.restartArgs.drop 3)
        { start with staticOnly := true, loopbackAddress := c.loopbackAddress } :=
      Flag.parse_value rfl rfl rfl rfl
    _ = Flag.parse flags (c.restartArgs.drop 5) { start with
          staticOnly := true, loopbackAddress := c.loopbackAddress, listenPort := c.listenPort } :=
      Flag.parse_value rfl rfl rfl (congrArg (Option.map _) readListen)
    _ = Flag.parse flags (c.restartArgs.drop 7) { start with
          staticOnly := true, loopbackAddress := c.loopbackAddress, listenPort := c.listenPort
          httpPort := c.httpPort } :=
      Flag.parse_value rfl rfl rfl (congrArg (Option.map _) readHttp)
    _ = Flag.parse flags (c.restartArgs.drop 9) { start with
          staticOnly := true, loopbackAddress := c.loopbackAddress, listenPort := c.listenPort
          httpPort := c.httpPort, routesFile := c.routesFile } :=
      Flag.parse_value rfl rfl rfl rfl
    _ = _ := Flag.parse_value rfl rfl rfl rfl

/-- What `load` makes of the values of the flags. -/
lemma load_eq {parseFlags : Settings → List GoString → Except GoString Settings} {env : Environment}
    {args : List GoString} {cfg : Settings} (loaded : load parseFlags env args = .ok cfg) :
    ∃ parsed valid, parseFlags env.defaults args = .ok parsed ∧ validate parsed = .ok valid ∧
      cfg = { valid with
        dashboardHost := lit "pintle." ++ valid.baseDomain
        routesFile := env.resolveRoutesFile valid.routesFile
        hostAddress := if valid.staticOnly then lit "127.0.0.1" else env.detect
        inDocker := env.stat (lit "/.dockerenv") = .found } := by
  simp only [load, bind, Except.bind] at loaded
  split at loaded
  · cases loaded
  · rename_i parsed read
    split at loaded
    · cases loaded
    · rename_i valid checked
      cases loaded
      exact ⟨parsed, valid, read, checked, rfl⟩

/-- Arguments that are parsed and accepted give a configuration. -/
lemma load_of_parsed (message : FlagError → GoString) {env : Environment} {args : List GoString}
    {c : Settings} (read : Flag.parse flags args env.defaults = .ok c)
    (accepted : c.validate = .ok c) :
    load (parseFlags message) env args = .ok { c with
      dashboardHost := lit "pintle." ++ c.baseDomain
      routesFile := env.resolveRoutesFile c.routesFile
      hostAddress := if c.staticOnly then lit "127.0.0.1" else env.detect
      inDocker := env.stat (lit "/.dockerenv") = .found } := by
  have parsed : parseFlags message env.defaults args = .ok c := by
    rw [parseFlags, read]
  simp only [load, bind, Except.bind, parsed, accepted]
  rfl

/-- An accepted static-only configuration has no port redirect. -/
lemma validate_redirect {c c' : Settings} (ok : c.validate = .ok c')
    (static : c'.staticOnly = true) : c'.portRedirect = false := by
  unfold validate at ok
  split at ok
  · rename_i open_mode
    split at ok
    · cases ok
    · cases ok
      rw [static] at open_mode
      cases open_mode
  · generalize (if c.loopbackAddress = [] then { c with loopbackAddress := lit "127.0.0.1" } else c)
      = filled at ok
    dsimp only at ok
    split at ok
    · cases ok
    · split at ok
      · cases ok
      · rename_i redirect
        split at ok
        · cases ok
        · split at ok
          · cases ok
          · cases ok
            exact Bool.eq_false_iff.mpr redirect

/-- A static-only configuration with two loopback ports is accepted as it is. -/
lemma validate_loopback {c : Settings} (static : c.staticOnly = true) (sound : c.LoopbackOnly)
    (redirect : c.portRedirect = false) (vite : c.viteDevURL = []) : c.validate = .ok c := by
  obtain ⟨ip, parsed, loopback⟩ := sound.loopback
  have given : c.loopbackAddress ≠ [] := by
    intro empty
    rw [empty] at parsed
    cases parsed
  have local_ip : (parseIP c.loopbackAddress).all (!isLoopback ·) = false := by
    rw [parsed, Option.all_some, loopback]
    rfl
  have ports : (!validPort c.listenPort || !validPort c.httpPort || c.listenPort = c.httpPort) =
      false := by
    obtain ⟨low, high⟩ := sound.listenPort
    obtain ⟨low', high'⟩ := sound.httpPort
    simp [validPort, low, high, low', high', sound.distinct]
  unfold validate
  simp only [static, Bool.not_true, Bool.false_eq_true, if_false, given, local_ip, redirect, vite,
    ne_eq, not_true_eq_false, ports]

/-- Looking for the routes file again finds the same one. -/
lemma resolveRoutesFile_idem (env : Environment) (path : GoString) :
    env.resolveRoutesFile (env.resolveRoutesFile path) = env.resolveRoutesFile path := by
  by_cases default : path = lit "./routes.yaml" ∧ env.stat path = .missing
  · cases home : env.homeRoutes with
    | none => simp [Environment.resolveRoutesFile, home]
    | some other =>
      by_cases found : env.stat other = .found
      · have resolved : env.resolveRoutesFile path = other := by
          rw [Environment.resolveRoutesFile, if_pos default, home]
          exact if_pos found
        rw [resolved, Environment.resolveRoutesFile, if_neg]
        rintro ⟨_, missing⟩
        cases found.symm.trans missing
      · simp [Environment.resolveRoutesFile, home, found]
  · have kept : env.resolveRoutesFile path = path := by
      rw [Environment.resolveRoutesFile, if_neg default]
    rw [kept, kept]

/-- The routes file depends on the files that are found. -/
lemma resolveRoutesFile_congr {env env' : Environment} (stat : env'.stat = env.stat)
    (home : env'.homeRoutes = env.homeRoutes) (path : GoString) :
    env'.resolveRoutesFile path = env.resolveRoutesFile path := by
  rw [Environment.resolveRoutesFile, Environment.resolveRoutesFile, stat, home]

/-- The words of the restart command. -/
lemma restartArgs_words {c : Settings} {listenPort httpPort : Nat}
    (listen : c.listenPort = listenPort) (http : c.httpPort = httpPort)
    (ports : 0 < listenPort ∧ listenPort < 2 ^ 63 ∧ 0 < httpPort ∧ httpPort < 2 ^ 63)
    (loopback : Loopback c.loopbackAddress) (routes : Word c.routesFile) (certs : Word c.certsDir) :
    ∀ word ∈ lit "./pintle" :: c.restartArgs, Word word := by
  obtain ⟨ip, parsed, _⟩ := loopback
  have address := word_address parsed
  have listen' := word_itoa ports.1 ports.2.1
  have http' := word_itoa ports.2.2.1 ports.2.2.2
  rw [restartArgs, listen, http]
  simp only [List.forall_mem_cons]
  refine ⟨?_, ?_, ?_, address, ?_, listen', ?_, http', ?_, routes, ?_, certs,
    List.forall_mem_nil _⟩
  all_goals decide

/-- The restart command of a static-only process outside Docker, whose routes file and certs directory
are words, starts one of the same mode, from any environment in which the same files are found and no
development server is set. What the command leaves out is taken from that environment. -/
theorem restart_same_mode (message : FlagError → GoString) {env env' : Environment}
    {args : List GoString} {cfg : Settings}
    (loaded : load (parseFlags message) env args = .ok cfg) (static : cfg.staticOnly = true)
    (native : cfg.inDocker = false) (routes : Word cfg.routesFile) (certs : Word cfg.certsDir)
    (stat : env'.stat = env.stat) (home : env'.homeRoutes = env.homeRoutes)
    (vite : env'.getenv (lit "VITE_DEV_URL") = []) (workingDir : GoString) :
    ∃ args' cfg', fields (cfg.restartCommand workingDir) = lit "./pintle" :: args' ∧
      load (parseFlags message) env' args' = .ok cfg' ∧ SameMode cfg cfg' ∧
      cfg'.baseDomain = env'.envOrDefault (lit "BASE_DOMAIN") (lit "lvh.me") ∧
      cfg'.logLevel = env'.envOrDefault (lit "LOG_LEVEL") (lit "info") ∧
      cfg'.logFormat = env'.envOrDefault (lit "LOG_FORMAT") (lit "text") := by
  have sound := load_static loaded static
  obtain ⟨low, high⟩ := sound.listenPort
  obtain ⟨low', high'⟩ := sound.httpPort
  obtain ⟨listenPort, listen⟩ := Int.eq_ofNat_of_zero_le (by omega : 0 ≤ cfg.listenPort)
  obtain ⟨httpPort, http⟩ := Int.eq_ofNat_of_zero_le (by omega : 0 ≤ cfg.httpPort)
  have ports : 0 < listenPort ∧ listenPort < 2 ^ 63 ∧ 0 < httpPort ∧ httpPort < 2 ^ 63 := by
    omega
  have words := restartArgs_words listen http ports sound.loopback routes certs
  have command : fields (cfg.restartCommand workingDir) = lit "./pintle" :: cfg.restartArgs := by
    rw [restartCommand_eq native static]
    exact fields_words words
  have read := parse_restartArgs listen http ports env'.defaults
  obtain ⟨parsed, valid, _, checked, rfl⟩ := load_eq loaded
  have redirect := validate_redirect checked static
  have accepted := validate_loopback (c := { env'.defaults with
      staticOnly := true
      loopbackAddress := valid.loopbackAddress
      listenPort := valid.listenPort
      httpPort := valid.httpPort
      routesFile := env.resolveRoutesFile valid.routesFile
      certsDir := valid.certsDir }) rfl
    ⟨sound.loopback, sound.listenPort, sound.httpPort, sound.distinct⟩ rfl vite
  have started := load_of_parsed message read accepted
  refine ⟨_, _, command, started, ?_, rfl, rfl, rfl⟩
  have file : env'.resolveRoutesFile (env.resolveRoutesFile valid.routesFile) =
      env.resolveRoutesFile valid.routesFile := by
    rw [resolveRoutesFile_congr stat home, resolveRoutesFile_idem]
  constructor
  case staticOnly => exact static.symm
  case routesFile => exact file
  case hostAddress => exact (if_pos static).symm
  case inDocker => rw [stat]
  case portRedirect => exact redirect.symm
  all_goals rfl

/-- An environment that sets the log level. -/
def debugEnvironment : Environment :=
  { bareEnvironment with getenv := fun key => if key = lit "LOG_LEVEL" then lit "debug" else [] }

/-- A process started with a port of its own is started again where another log level is set. -/
theorem restart_same_mode_debug :
    ∃ args' cfg', load (parseFlags fun _ => []) debugEnvironment args' = .ok cfg' ∧
      cfg'.listenPort = 8443 ∧ cfg'.loopbackAddress = lit "127.0.0.1" ∧
      cfg'.logLevel = lit "debug" := by
  have loaded : load (parseFlags fun _ => []) bareEnvironment
      [lit "--static-only", lit "--listen-port=8443"] = .ok _ := rfl
  have stat : debugEnvironment.stat = bareEnvironment.stat := rfl
  obtain ⟨args', cfg', _, started, same, _, level, _⟩ :=
    restart_same_mode (fun _ => []) loaded rfl rfl (by decide) (by decide) stat rfl rfl []
  exact ⟨args', cfg', started, same.listenPort, same.loopbackAddress, level⟩

end Pintle.Settings
