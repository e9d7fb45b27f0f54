import Pintle.Go.Strings

/-!
# Container labels

Model of `internal/provider/docker/labels.go`. The regular expressions of the file are fixed, so
each is a function on bytes: an anchored one on label keys (`between`, `caddyPrefixRe`), or one that
finds a call with an argument between backticks (`findCall`, `findAllCalls`). A `.` is any character
but a newline, `\s` is one of the five blanks and `\d` an ASCII digit.

Labels come in a Go map, and the parsers range over it. Every `range` statement takes its order from
a `LabelOrders`; where two labels match the same expression, the order decides which one is used.
-/

namespace Pintle.Docker
open Go

/-- The labels of a container. -/
abbrev Labels := GoMap GoString GoString

/-- Go `labels[key]`, the empty string for a missing key. -/
def Labels.get (labels : Labels) (key : GoString) : GoString := (labels.lookup key).getD []

/-- Go `parsedLabels`. -/
structure ParsedLabels where
  hosts : List GoString
  hostPatterns : List GoString := []
  port : Int := 0
  path : GoString
  strip : Bool := false
  h2c : Bool := false
  deriving DecidableEq, Repr

/-- Go `parsedTcpLabels`. -/
structure ParsedTcpLabels where
  hostname : GoString
  entrypoint : GoString
  containerPort : Int
  deriving DecidableEq, Repr

/-- Go `caddyConfig`. -/
structure CaddyConfig where
  host : GoString
  port : Int := 0
  path : GoString
  strip : Bool := false
  deriving DecidableEq, Repr

/-- The orders of the `range` statements: over the labels for the router rule, the service, the
middleware, the TCP router, the TCP service, the Caddy prefixes and directives, and over the Caddy
configs. -/
structure LabelOrders where
  rules : RangeOrder (GoString × GoString)
  services : RangeOrder (GoString × GoString)
  middlewares : RangeOrder (GoString × GoString)
  tcpRouters : RangeOrder (GoString × GoString)
  tcpServices : RangeOrder (GoString × GoString)
  prefixes : RangeOrder (GoString × GoString)
  directives : RangeOrder (GoString × GoString)
  configs : RangeOrder (GoString × CaddyConfig)

/-- The orders in which the entries happen to be stored. -/
def LabelOrders.stored : LabelOrders :=
  ⟨.stored, .stored, .stored, .stored, .stored, .stored, .stored, .stored⟩

/-- Go `parseProxyLabels`. -/
def parseProxyLabels (labels : Labels) : Option ParsedLabels :=
  match labels.lookup (lit "pintle.host") with
  | none => none
  | some hostLabel =>
    some {
      hosts := (splitComma hostLabel).map trimSpace
      port :=
        match labels.lookup (lit "pintle.port") with
        | some portStr => atoi portStr
        | none => 0
      path := if labels.get (lit "pintle.path") = [] then lit "/" else labels.get (lit "pintle.path")
      strip := labels.get (lit "pintle.strip") = lit "true" }

/-- What follows a prefix. -/
def cut (s pre : GoString) : Option GoString :=
  if hasPrefix s pre then some (s.drop pre.length) else none

/-- An expression of the form `^pre.+suf$`. -/
def between (pre suf key : GoString) : Bool :=
  hasPrefix key pre && hasSuffix key suf && pre.length + suf.length < key.length &&
    ((key.drop pre.length).take (key.length - pre.length - suf.length)).all (· ≠ 10)

/-- Match an expression that begins with a name and has its argument between backticks. -/
def callAt (name s : GoString) : Option GoString := do
  let body ← cut s (name ++ lit "(`")
  let arg := body.takeWhile (· ≠ 96)
  let _ ← cut (body.drop arg.length) (lit "`)")
  if arg = [] then none else some arg

/-- Go `FindStringSubmatch`: the argument of the leftmost match. -/
def findCall (name s : GoString) : Option GoString := s.tails.findSome? (callAt name)

/-- Go `FindAllStringSubmatch`: the arguments of all matches, after `skip` bytes of the last match.
-/
def findAllCalls (name : GoString) : Nat → GoString → List GoString
  | _, [] => []
  | skip + 1, _ :: s => findAllCalls name skip s
  | 0, b :: s =>
    match callAt name (b :: s) with
    | some arg => arg :: findAllCalls name (name.length + arg.length + 3) s
    | none => findAllCalls name 0 s

def traefikRouterRuleRe : GoString → Bool := between (lit "traefik.http.routers.") (lit ".rule")

def traefikServicePortRe : GoString → Bool :=
  between (lit "traefik.http.services.") (lit ".loadbalancer.server.port")

def traefikServiceSchemeRe : GoString → Bool :=
  between (lit "traefik.http.services.") (lit ".loadbalancer.server.scheme")

def traefikStripPrefixRe : GoString → Bool :=
  between (lit "traefik.http.middlewares.") (lit ".stripprefix.prefixes")

def hostRe : GoString → List GoString := findAllCalls (lit "Host") 0

def hostRegexpRe : GoString → List GoString := findAllCalls (lit "HostRegexp") 0

def pathPrefixRe : GoString → Option GoString := findCall (lit "PathPrefix")

/-- Go `parseTraefikLabels`. -/
def parseTraefikLabels (ord : LabelOrders) (labels : Labels) : Option ParsedLabels :=
  if labels.get (lit "traefik.enable") ≠ lit "true" then none
  else
    -- the first rule visited, whatever its value
    match (ord.rules.visit labels.pairs).find? fun entry => traefikRouterRuleRe entry.1 with
    | none => none
    | some (_, ruleValue) =>
      if ruleValue = [] then none
      else if hostRe ruleValue = [] ∧ hostRegexpRe ruleValue = [] then none
      else
        some {
          hosts := hostRe ruleValue
          hostPatterns := hostRegexpRe ruleValue
          port := (ord.services.visit labels.pairs).foldl (fun port entry =>
            if traefikServicePortRe entry.1 then atoi entry.2 else port) 0
          path := (pathPrefixRe ruleValue).getD (lit "/")
          strip := (ord.middlewares.visit labels.pairs).any fun entry => traefikStripPrefixRe entry.1
          h2c := (ord.services.visit labels.pairs).any fun entry =>
            traefikServiceSchemeRe entry.1 && entry.2 = lit "h2c" }

def caddyPrefixRe (key : GoString) : Bool :=
  key = lit "caddy" ||
    match cut key (lit "caddy_") with
    | some digits => digits ≠ [] && digits.all isDigit
    | none => false

/-- The class `\s`. -/
def isBlank (b : UInt8) : Bool := [9, 10, 12, 13, 32].contains b

/-- Match `\s+`. -/
def skipBlanks (s : GoString) : Option GoString :=
  match s with
  | [] => none
  | b :: rest => if isBlank b then some (rest.dropWhile isBlank) else none

/-- Match the upstreams template at the start of a string, and give its port. -/
def upstreamsAt (s : GoString) : Option GoString := do
  let s ← cut s (lit "\x7b\x7bupstreams")
  let s ← skipBlanks s
  let s ←
    match cut s (lit "http") with
    | some rest => skipBlanks ((cut rest (lit "s")).getD rest)
    | none => some s
  let digits := s.takeWhile isDigit
  let _ ← cut (s.drop digits.length) (lit "\x7d\x7d")
  if digits = [] then none else some digits

def caddyUpstreamsRe (s : GoString) : Option GoString := s.tails.findSome? upstreamsAt

/-- The path of a Caddy `handle` or `handle_path` directive. -/
def handlePath (value : GoString) : GoString :=
  let path := trimRightSlash (trimSuffix value (lit "*"))
  if path = [] then lit "/" else path

/-- What one label does to the config of one prefix. -/
def CaddyConfig.direct (key value pre : GoString) (config : CaddyConfig) : CaddyConfig :=
  if key = pre ++ lit ".reverse_proxy" then
    match caddyUpstreamsRe value with
    | some port => { config with port := atoi port }
    | none => config
  else if key = pre ++ lit ".handle_path" then
    { config with path := handlePath value, strip := true }
  else if key = pre ++ lit ".handle" ∧ config.path = lit "/" then
    { config with path := handlePath value }
  else config

/-- Go `parseCaddyLabels`. -/
def parseCaddyLabels (ord : LabelOrders) (labels : Labels) : List ParsedLabels :=
  let found : GoMap GoString CaddyConfig :=
    (ord.prefixes.visit labels.pairs).foldl (fun configs entry =>
      if caddyPrefixRe entry.1 then configs.insert entry.1 { host := entry.2, path := lit "/" }
      else configs) ∅
  -- the inner loop changes each config by itself, so its order is not seen
  let directed := (ord.directives.visit labels.pairs).foldl (fun configs entry =>
    configs.mapValues (CaddyConfig.direct entry.1 entry.2)) found
  ((ord.configs.visit directed.pairs).filter fun entry => entry.2.host ≠ []).map fun entry =>
    { hosts := [entry.2.host], port := entry.2.port, path := entry.2.path, strip := entry.2.strip }

def traefikTcpRouterRuleRe : GoString → Bool := between (lit "traefik.tcp.routers.") (lit ".rule")

def traefikTcpEntrypointsRe : GoString → Bool :=
  between (lit "traefik.tcp.routers.") (lit ".entrypoints")

def traefikTcpServicePortRe : GoString → Bool :=
  between (lit "traefik.tcp.services.") (lit ".loadbalancer.server.port")

def hostSNIRe : GoString → Option GoString := findCall (lit "HostSNI")

/-- The host of the last router rule visited that names one. -/
def tcpHostname (ord : LabelOrders) (labels : Labels) : GoString :=
  (ord.tcpRouters.visit labels.pairs).foldl (fun hostname entry =>
    if traefikTcpRouterRuleRe entry.1 then (hostSNIRe entry.2).getD hostname else hostname) []

/-- The value of the last entrypoints label visited. -/
def tcpEntrypoint (ord : LabelOrders) (labels : Labels) : GoString :=
  (ord.tcpRouters.visit labels.pairs).foldl (fun entrypoint entry =>
    if traefikTcpEntrypointsRe entry.1 then entry.2 else entrypoint) []

/-- Go `parseTraefikTcpLabels`. -/
def parseTraefikTcpLabels (ord : LabelOrders) (labels : Labels) : Option ParsedTcpLabels :=
  if labels.get (lit "traefik.enable") ≠ lit "true" then none
  else if tcpHostname ord labels = [] ∨ tcpEntrypoint ord labels = [] then none
  else
    match (ord.tcpServices.visit labels.pairs).find? fun entry =>
      traefikTcpServicePortRe entry.1 with
    | none => none
    | some (_, value) =>
      if atoi value = 0 then none
      else
        some {
          hostname := tcpHostname ord labels
          entrypoint := tcpEntrypoint ord labels
          containerPort := atoi value }

/-- A string that an expression with backticks can give. -/
def Quotable (s : GoString) : Prop := s ≠ [] ∧ 96 ∉ s

lemma callAt_quotable {name s arg : GoString} (found : callAt name s = some arg) : Quotable arg := by
  simp only [callAt, Option.bind_eq_bind, Option.bind_eq_some_iff] at found
  obtain ⟨body, _, _, _, found⟩ := found
  split at found
  · cases found
  · rename_i some_byte
    cases found
    refine ⟨some_byte, ?_⟩
    intro backtick
    have other := List.mem_takeWhile_imp backtick
    simp at other

lemma findCall_quotable {name s arg : GoString} (found : findCall name s = some arg) :
    Quotable arg := by
  obtain ⟨rest, _, here⟩ := List.exists_of_findSome?_eq_some found
  exact callAt_quotable here

lemma findAllCalls_quotable {name s arg : GoString} {skip : Nat}
    (found : arg ∈ findAllCalls name skip s) : Quotable arg := by
  -- the skip counter changes along the string
  induction s generalizing skip with
  | nil => cases skip <;> cases found
  | cons b s ih =>
    cases skip with
    | succ skip => exact ih found
    | zero =>
      rw [findAllCalls] at found
      split at found
      · rename_i first here
        cases found with
        | head => exact callAt_quotable here
        | tail _ later => exact ih later
      · exact ih found

/-- The hosts and the patterns of a parsed rule are the arguments of its calls, and there is one; its
path is an argument too, or the default. -/
theorem parseTraefikLabels_parsed {ord : LabelOrders} {labels : Labels} {parsed : ParsedLabels}
    (found : parseTraefikLabels ord labels = some parsed) :
    parsed.hosts ++ parsed.hostPatterns ≠ [] ∧
      (∀ host ∈ parsed.hosts ++ parsed.hostPatterns, Quotable host) ∧ Quotable parsed.path := by
  unfold parseTraefikLabels at found
  split at found
  · cases found
  · split at found
    · cases found
    · rename_i key ruleValue _
      split at found
      · cases found
      · split at found
        · cases found
        · rename_i some_host
          cases found
          refine ⟨?_, ?_, ?_⟩
          · intro empty
            exact some_host (List.append_eq_nil_iff.mp empty)
          · intro host member
            cases List.mem_append.mp member with
            | inl exact_host => exact findAllCalls_quotable exact_host
            | inr pattern => exact findAllCalls_quotable pattern
          · show Quotable ((pathPrefixRe ruleValue).getD (lit "/"))
            cases path : pathPrefixRe ruleValue with
            | none => exact ⟨by decide, by decide⟩
            | some arg => exact findCall_quotable path

lemma tcpHostname_quotable (ord : LabelOrders) (labels : Labels) :
    tcpHostname ord labels = [] ∨ Quotable (tcpHostname ord labels) := by
  apply List.foldlRecOn (motive := fun hostname => hostname = [] ∨ Quotable hostname)
  · exact .inl rfl
  · intro hostname known entry _
    split
    · cases sni : hostSNIRe entry.2 with
      | none => exact known
      | some arg => exact .inr (findCall_quotable sni)
    · exact known

/-- A parsed TCP rule names a host, an entrypoint and a port. -/
theorem parseTraefikTcpLabels_parsed {ord : LabelOrders} {labels : Labels}
    {parsed : ParsedTcpLabels} (found : parseTraefikTcpLabels ord labels = some parsed) :
    Quotable parsed.hostname ∧ parsed.entrypoint ≠ [] ∧ parsed.containerPort ≠ 0 := by
  unfold parseTraefikTcpLabels at found
  split at found
  · cases found
  · split at found
    · cases found
    · rename_i present
      rw [not_or] at present
      split at found
      · cases found
      · split at found
        · cases found
        · rename_i port
          cases found
          exact ⟨(tcpHostname_quotable ord labels).resolve_left present.1, present.2, port⟩

example :
    parseProxyLabels (AList.insert (lit "pintle.port") (lit "5173")
      (AList.singleton (lit "pintle.host") (lit "app.lvh.me, api.lvh.me"))) =
    some { hosts := [lit "app.lvh.me", lit "api.lvh.me"], port := 5173, path := lit "/" } := by
  decide

end Pintle.Docker
