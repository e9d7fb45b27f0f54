import Pintle.Docker.Labels
import Pintle.Go.Ranges

/-!
# Label parsing and the order of a map

The label parsers of `internal/provider/docker/labels.go` range over the labels. `settled_iff` says
for which labels they return the same whatever order the runtime picks: for HTTP and TCP routers,
when all labels that one loop may stop at, or end with, say the same; for Caddy, when no `handle`
label competes with a `handle_path` label for the root.
-/

namespace Pintle.Docker
open Go

/-- The values of the labels whose key matches. -/
def Labels.values (labels : Labels) (re : GoString → Bool) : List GoString :=
  (labels.pairs.filter fun entry => re entry.1).map (·.2)

lemma Labels.mem_values {labels : Labels} {re : GoString → Bool} {value : GoString} :
    value ∈ labels.values re ↔ ∃ entry ∈ labels.pairs, re entry.1 = true ∧ entry.2 = value := by
  simp only [Labels.values, List.mem_map, List.mem_filter, and_assoc]

/-- Keys with different last bytes are different. -/
lemma append_ne {pre pre' suf suf' : GoString} (some_byte : suf ≠ []) (some_byte' : suf' ≠ [])
    (ends : suf.getLast? ≠ suf'.getLast?) : pre ++ suf ≠ pre' ++ suf' := by
  intro same
  have last := congrArg List.getLast? same
  rw [List.getLast?_append_of_ne_nil _ some_byte,
    List.getLast?_append_of_ne_nil _ some_byte'] at last
  exact ends last

/-- A label that a loop visits says one of the values. -/
lemma Labels.value_mem {labels : Labels} {re : GoString → Bool} {l : List (GoString × GoString)}
    {entry : GoString × GoString} (perm : l.Perm labels.pairs) (inside : entry ∈ l)
    (matched : re entry.1 = true) : entry.2 ∈ labels.values re :=
  Labels.mem_values.mpr ⟨entry, perm.mem_iff.mp inside, matched, rfl⟩

section http

/-- The hosts, the patterns and the path of a router rule that names a host. -/
def parsedRule (ruleValue : GoString) : Option (List GoString × List GoString × GoString) :=
  if hostRe ruleValue = [] ∧ hostRegexpRe ruleValue = [] then none
  else some (hostRe ruleValue, hostRegexpRe ruleValue, (pathPrefixRe ruleValue).getD (lit "/"))

/-- What the HTTP labels give with a rule and a port. -/
def withRule (labels : Labels) (port : Int) (rule : List GoString × List GoString × GoString) :
    ParsedLabels where
  hosts := rule.1
  hostPatterns := rule.2.1
  port := port
  path := rule.2.2
  strip := labels.pairs.any fun entry => traefikStripPrefixRe entry.1
  h2c := labels.pairs.any fun entry => traefikServiceSchemeRe entry.1 && entry.2 = lit "h2c"

/-- The number of a port label, zero without one. -/
def portOf (entry : Option (GoString × GoString)) : Int := (entry.map fun e => atoi e.2).getD 0

/-- The HTTP labels are read through the first rule and the last port visited. -/
lemma parseTraefikLabels_eq (ord : LabelOrders) {labels : Labels}
    (enabled : labels.get (lit "traefik.enable") = lit "true") :
    parseTraefikLabels ord labels =
      (((ord.rules.visit labels.pairs).find? fun e => traefikRouterRuleRe e.1).bind
        (parsedRule ·.2)).map (withRule labels (portOf
          ((ord.services.visit labels.pairs).reverse.find? fun e =>
            traefikServicePortRe e.1))) := by
  have strip := (ord.middlewares.perm labels.pairs).any_eq (f := fun e => traefikStripPrefixRe e.1)
  have h2c := (ord.services.perm labels.pairs).any_eq
    (f := fun e => traefikServiceSchemeRe e.1 && e.2 = lit "h2c")
  rw [parseTraefikLabels, if_neg (not_not.mpr enabled)]
  cases (ord.rules.visit labels.pairs).find? fun e => traefikRouterRuleRe e.1 with
  | none => rfl
  | some rule =>
    obtain ⟨key, ruleValue⟩ := rule
    rw [Option.bind_some, parsedRule]
    dsimp only
    by_cases empty : ruleValue = []
    · rw [if_pos empty, empty, if_pos ⟨rfl, rfl⟩]
      rfl
    · rw [if_neg empty]
      split
      · rfl
      · rw [strip, h2c, foldl_last]
        rfl

/-- The HTTP labels of a container say the same through every rule and port. -/
def HttpSettled (labels : Labels) : Prop :=
  (∀ rule ∈ labels.values traefikRouterRuleRe, parsedRule rule = none) ∨
  (∀ rule ∈ labels.values traefikRouterRuleRe, ∀ rule' ∈ labels.values traefikRouterRuleRe,
    parsedRule rule = parsedRule rule') ∧
  ∀ port ∈ labels.values traefikServicePortRe, ∀ port' ∈ labels.values traefikServicePortRe,
    atoi port = atoi port'

/-- The order that visits one rule first and one port last. -/
def ruleFirst (rule : GoString × GoString) (port : Option (GoString × GoString)) : LabelOrders :=
  { LabelOrders.stored with
    rules := .front (· = rule)
    services := .back (some · = port) }

/-- Every rule and every port is used in some order. -/
lemma parse_ruleFirst {labels : Labels} (enabled : labels.get (lit "traefik.enable") = lit "true")
    {rule : GoString × GoString} (listed : rule ∈ labels.pairs)
    (matched : traefikRouterRuleRe rule.1 = true) :
    parseTraefikLabels (ruleFirst rule none) labels =
      (parsedRule rule.2).map (withRule labels (portOf
        (labels.pairs.reverse.find? fun e => traefikServicePortRe e.1))) ∧
    ∀ port ∈ labels.pairs, traefikServicePortRe port.1 = true →
      parseTraefikLabels (ruleFirst rule (some port)) labels =
        (parsedRule rule.2).map (withRule labels (atoi port.2)) := by
  have first (port : Option (GoString × GoString)) :
      (((ruleFirst rule port).rules.visit labels.pairs).find? fun e => traefikRouterRuleRe e.1) =
        some rule :=
    RangeOrder.find?_front listed matched (by simp) fun b _ same _ => by simpa using same
  refine ⟨?_, ?_⟩
  · rw [parseTraefikLabels_eq _ enabled, first]
    have unmoved : (ruleFirst rule none).services.visit labels.pairs = labels.pairs := by
      simp [ruleFirst, RangeOrder.back]
    rw [unmoved, Option.bind_some]
  · intro port inside numbered
    have last : (((ruleFirst rule (some port)).services.visit labels.pairs).reverse.find?
        fun e => traefikServicePortRe e.1) = some port :=
      RangeOrder.find?_back inside numbered (by simp) fun b _ same _ => by simpa using same
    rw [parseTraefikLabels_eq _ enabled, first, last]
    rfl

/-- Rules that name no host give nothing in any order. -/
lemma no_rule {labels : Labels}
    (unnamed : ∀ rule ∈ labels.values traefikRouterRuleRe, parsedRule rule = none)
    (ord : LabelOrders) :
    ((ord.rules.visit labels.pairs).find? fun e => traefikRouterRuleRe e.1).bind (parsedRule ·.2) =
      none := by
  rw [Option.bind_eq_none_iff]
  intro rule found
  have matched : traefikRouterRuleRe rule.1 = true := by simpa using List.find?_some found
  exact unnamed _ (Labels.value_mem (ord.rules.perm labels.pairs) (List.mem_of_find?_eq_some found)
    matched)

/-- The HTTP labels are parsed alike in every order exactly when they are settled. -/
lemma http_settled {labels : Labels} (enabled : labels.get (lit "traefik.enable") = lit "true") :
    (∀ ord ord' : LabelOrders, parseTraefikLabels ord labels = parseTraefikLabels ord' labels) ↔
      HttpSettled labels := by
  constructor
  · intro alike
    by_cases unnamed : ∀ rule ∈ labels.values traefikRouterRuleRe, parsedRule rule = none
    · exact .inl unnamed
    · simp only [not_forall, exists_prop] at unnamed
      obtain ⟨value, member, named⟩ := unnamed
      obtain ⟨rule, listed, matched, rfl⟩ := Labels.mem_values.mp member
      obtain ⟨parsed, found⟩ := Option.ne_none_iff_exists'.mp named
      have through := parse_ruleFirst enabled listed matched
      have same (other : GoString) (inside : other ∈ labels.values traefikRouterRuleRe) :
          parsedRule other = some parsed := by
        obtain ⟨rule', listed', matched', rfl⟩ := Labels.mem_values.mp inside
        have both := alike (ruleFirst rule none) (ruleFirst rule' none)
        rw [through.1, (parse_ruleFirst enabled listed' matched').1, found] at both
        cases found' : parsedRule rule'.2 with
        | none =>
          rw [found'] at both
          cases both
        | some parsed' =>
          rw [found'] at both
          have fields := Option.some.inj both
          simp only [withRule, ParsedLabels.mk.injEq] at fields
          rw [Prod.ext fields.1.symm (Prod.ext fields.2.1.symm fields.2.2.2.1.symm)]
      refine .inr ⟨fun a inside b inside' => (same a inside).trans (same b inside').symm, ?_⟩
      intro a inside b inside'
      obtain ⟨port, at_port, numbered, rfl⟩ := Labels.mem_values.mp inside
      obtain ⟨port', at_port', numbered', rfl⟩ := Labels.mem_values.mp inside'
      have both := alike (ruleFirst rule (some port)) (ruleFirst rule (some port'))
      rw [through.2 port at_port numbered, through.2 port' at_port' numbered', found] at both
      have fields := Option.some.inj both
      simp only [withRule, ParsedLabels.mk.injEq] at fields
      exact fields.2.2.1
  · intro settled ord ord'
    rw [parseTraefikLabels_eq ord enabled, parseTraefikLabels_eq ord' enabled]
    rcases settled with unnamed | ⟨rules, ports⟩
    · rw [no_rule unnamed ord, no_rule unnamed ord']
      rfl
    · have rule_perm := ord.rules.perm labels.pairs
      have rule := find?_perm (p := fun e => traefikRouterRuleRe e.1)
        (rule_perm.trans (ord'.rules.perm labels.pairs).symm) (Option.bind · (parsedRule ·.2))
        fun a listed b listed' match_a match_b =>
          rules _ (Labels.value_mem rule_perm listed match_a)
            _ (Labels.value_mem rule_perm listed' match_b)
      have port_perm := (List.reverse_perm _).trans (ord.services.perm labels.pairs)
      have port_perm' := (List.reverse_perm _).trans (ord'.services.perm labels.pairs)
      have port := find?_perm (p := fun e => traefikServicePortRe e.1)
        (port_perm.trans port_perm'.symm) portOf
        fun a listed b listed' match_a match_b =>
          ports _ (Labels.value_mem port_perm listed match_a)
            _ (Labels.value_mem port_perm listed' match_b)
      rw [rule, port]

end http

section tcp

/-- The hosts that the TCP rules of a container name. -/
def Labels.tcpHosts (labels : Labels) : List GoString :=
  (labels.values traefikTcpRouterRuleRe).filterMap hostSNIRe

/-- A label with a rule that names a host. -/
def namesHost (entry : GoString × GoString) : Bool :=
  traefikTcpRouterRuleRe entry.1 && (hostSNIRe entry.2).isSome

/-- What the TCP labels give with a host, an entrypoint and a port. -/
def tcpThrough (hostname entrypoint : GoString) (port : Int) : Option ParsedTcpLabels :=
  if hostname = [] ∨ entrypoint = [] ∨ port = 0 then none else some ⟨hostname, entrypoint, port⟩

lemma tcpHostname_eq (ord : LabelOrders) (labels : Labels) :
    tcpHostname ord labels = (((ord.tcpRouters.visit labels.pairs).reverse.find? namesHost).map
      fun e => (hostSNIRe e.2).getD []).getD [] := by
  rw [← foldl_last, tcpHostname]
  congr 1
  funext hostname entry
  rw [namesHost]
  cases traefikTcpRouterRuleRe entry.1 with
  | false => rfl
  | true => cases hostSNIRe entry.2 <;> rfl

lemma tcpEntrypoint_eq (ord : LabelOrders) (labels : Labels) :
    tcpEntrypoint ord labels = (((ord.tcpRouters.visit labels.pairs).reverse.find? fun e =>
      traefikTcpEntrypointsRe e.1).map (·.2)).getD [] :=
  foldl_last ..

/-- The TCP labels are read through the last rule, the last entrypoint and the first port. -/
lemma parseTraefikTcpLabels_eq (ord : LabelOrders) {labels : Labels}
    (enabled : labels.get (lit "traefik.enable") = lit "true") :
    parseTraefikTcpLabels ord labels =
      tcpThrough (tcpHostname ord labels) (tcpEntrypoint ord labels)
        (portOf ((ord.tcpServices.visit labels.pairs).find? fun e =>
          traefikTcpServicePortRe e.1)) := by
  rw [parseTraefikTcpLabels, if_neg (not_not.mpr enabled), tcpThrough]
  cases (ord.tcpServices.visit labels.pairs).find? fun e => traefikTcpServicePortRe e.1 with
  | none => simp [portOf]
  | some port =>
    by_cases empty : tcpHostname ord labels = [] ∨ tcpEntrypoint ord labels = []
    · rw [if_pos empty, if_pos (empty.imp_right .inl)]
    · rw [if_neg empty]
      rw [not_or] at empty
      simp only [empty, false_or]
      rfl

/-- The TCP labels of a container say the same through every rule, entrypoint and port, or one of
the three is missing throughout. -/
def TcpSettled (labels : Labels) : Prop :=
  labels.tcpHosts = [] ∨
  (∀ entrypoint ∈ labels.values traefikTcpEntrypointsRe, entrypoint = []) ∨
  (∀ port ∈ labels.values traefikTcpServicePortRe, atoi port = 0) ∨
  (∀ host ∈ labels.tcpHosts, ∀ host' ∈ labels.tcpHosts, host = host') ∧
  (∀ entrypoint ∈ labels.values traefikTcpEntrypointsRe,
    ∀ entrypoint' ∈ labels.values traefikTcpEntrypointsRe, entrypoint = entrypoint') ∧
  ∀ port ∈ labels.values traefikTcpServicePortRe, ∀ port' ∈ labels.values traefikTcpServicePortRe,
    atoi port = atoi port'

lemma rule_not_entrypoints {key : GoString} (rule : traefikTcpRouterRuleRe key = true)
    (entrypoints : traefikTcpEntrypointsRe key = true) : False := by
  simp only [traefikTcpRouterRuleRe, traefikTcpEntrypointsRe, between, Bool.and_eq_true]
    at rule entrypoints
  obtain ⟨front, rfl⟩ := hasSuffix_iff.mp rule.1.1.2
  obtain ⟨front', same⟩ := hasSuffix_iff.mp entrypoints.1.1.2
  exact append_ne (by decide) (by decide) (by decide) same

/-- Every rule, entrypoint and port are used together in some order. -/
lemma tcp_through {labels : Labels} (enabled : labels.get (lit "traefik.enable") = lit "true")
    {host entrypoint port : GoString} (named : host ∈ labels.tcpHosts)
    (entered : entrypoint ∈ labels.values traefikTcpEntrypointsRe)
    (numbered : port ∈ labels.values traefikTcpServicePortRe) :
    ∃ ord, parseTraefikTcpLabels ord labels = tcpThrough host entrypoint (atoi port) := by
  obtain ⟨value, inside, sni⟩ := List.mem_filterMap.mp named
  obtain ⟨rule, listed, matched, rfl⟩ := Labels.mem_values.mp inside
  obtain ⟨entry, at_entry, enters, rfl⟩ := Labels.mem_values.mp entered
  obtain ⟨service, at_service, numbers, rfl⟩ := Labels.mem_values.mp numbered
  refine ⟨{ LabelOrders.stored with
    tcpRouters := .back fun e => e = rule ∨ e = entry
    tcpServices := .front (· = service) }, ?_⟩
  rw [parseTraefikTcpLabels_eq _ enabled, tcpHostname_eq, tcpEntrypoint_eq]
  rw [RangeOrder.find?_back (a := rule) listed (by simp [namesHost, matched, sni]) (by simp)
    (fun b _ chosen names => ?host)]
  rw [RangeOrder.find?_back (a := entry) at_entry enters (by simp) (fun b _ chosen at_b => ?entry)]
  rw [RangeOrder.find?_front at_service numbers (by simp) fun b _ same _ => by simpa using same]
  · simp [portOf, sni]
  case host =>
    rw [namesHost, Bool.and_eq_true] at names
    rcases of_decide_eq_true chosen with same | rfl
    · exact same
    · exact (rule_not_entrypoints names.1 enters).elim
  case entry =>
    rcases of_decide_eq_true chosen with rfl | same
    · exact (rule_not_entrypoints matched at_b).elim
    · exact same

/-- A host, an entrypoint and a port that give a route are told by it. -/
lemma tcpThrough_inj {host host' entrypoint entrypoint' : GoString} {port port' : Int}
    (given : host ≠ [] ∧ entrypoint ≠ [] ∧ port ≠ 0)
    (same : tcpThrough host entrypoint port = tcpThrough host' entrypoint' port') :
    host = host' ∧ entrypoint = entrypoint' ∧ port = port' := by
  rw [tcpThrough, if_neg (by simpa only [not_or] using given), tcpThrough] at same
  split at same
  · cases same
  · cases same
    exact ⟨rfl, rfl, rfl⟩

lemma Labels.tcpHosts_ne_nil {labels : Labels} {host : GoString} (named : host ∈ labels.tcpHosts) :
    host ≠ [] := by
  obtain ⟨rule, -, sni⟩ := List.mem_filterMap.mp named
  exact (findCall_quotable sni).1

/-- A visited rule names one of the hosts. -/
lemma Labels.host_mem {labels : Labels} {l : List (GoString × GoString)}
    {entry : GoString × GoString} (perm : l.Perm labels.pairs) (inside : entry ∈ l)
    (names : namesHost entry = true) : (hostSNIRe entry.2).getD [] ∈ labels.tcpHosts := by
  rw [namesHost, Bool.and_eq_true] at names
  obtain ⟨host, sni⟩ := Option.isSome_iff_exists.mp names.2
  rw [sni]
  exact List.mem_filterMap.mpr ⟨entry.2, Labels.value_mem perm inside names.1, sni⟩

/-- Nothing is found where one of the three is missing. -/
lemma no_tcp {labels : Labels} (enabled : labels.get (lit "traefik.enable") = lit "true")
    (missing : labels.tcpHosts = [] ∨
      (∀ entrypoint ∈ labels.values traefikTcpEntrypointsRe, entrypoint = []) ∨
      ∀ port ∈ labels.values traefikTcpServicePortRe, atoi port = 0) (ord : LabelOrders) :
    parseTraefikTcpLabels ord labels = none := by
  have router_perm := (List.reverse_perm _).trans (ord.tcpRouters.perm labels.pairs)
  rw [parseTraefikTcpLabels_eq ord enabled, tcpThrough]
  apply if_pos
  rcases missing with unnamed | unentered | unnumbered
  · left
    rw [tcpHostname_eq]
    cases found : (ord.tcpRouters.visit labels.pairs).reverse.find? namesHost with
    | none => rfl
    | some entry =>
      have named := Labels.host_mem router_perm (List.mem_of_find?_eq_some found)
        (List.find?_some found)
      rw [unnamed] at named
      cases named
  · right; left
    rw [tcpEntrypoint_eq]
    cases found : (ord.tcpRouters.visit labels.pairs).reverse.find? fun e =>
      traefikTcpEntrypointsRe e.1 with
    | none => rfl
    | some entry =>
      have matched : traefikTcpEntrypointsRe entry.1 = true := by simpa using List.find?_some found
      exact unentered _ (Labels.value_mem router_perm (List.mem_of_find?_eq_some found) matched)
  · right; right
    cases found : (ord.tcpServices.visit labels.pairs).find? fun e =>
      traefikTcpServicePortRe e.1 with
    | none => rfl
    | some entry =>
      have matched : traefikTcpServicePortRe entry.1 = true := by simpa using List.find?_some found
      exact unnumbered _ (Labels.value_mem (ord.tcpServices.perm labels.pairs)
        (List.mem_of_find?_eq_some found) matched)

/-- The TCP labels are parsed alike in every order exactly when they are settled. -/
lemma tcp_settled {labels : Labels} (enabled : labels.get (lit "traefik.enable") = lit "true") :
    (∀ ord ord' : LabelOrders,
      parseTraefikTcpLabels ord labels = parseTraefikTcpLabels ord' labels) ↔
      TcpSettled labels := by
  constructor
  · intro alike
    rw [TcpSettled, or_iff_not_imp_left, or_iff_not_imp_left, or_iff_not_imp_left]
    intro named entered numbered
    obtain ⟨host, named⟩ := List.exists_mem_of_ne_nil _ named
    simp only [not_forall, exists_prop] at entered numbered
    obtain ⟨entrypoint, entered, some_entrypoint⟩ := entered
    obtain ⟨port, numbered, some_port⟩ := numbered
    have given : host ≠ [] ∧ entrypoint ≠ [] ∧ atoi port ≠ 0 :=
      ⟨Labels.tcpHosts_ne_nil named, some_entrypoint, some_port⟩
    obtain ⟨ord, through⟩ := tcp_through enabled named entered numbered
    have told {host' entrypoint' port' : GoString} (named' : host' ∈ labels.tcpHosts)
        (entered' : entrypoint' ∈ labels.values traefikTcpEntrypointsRe)
        (numbered' : port' ∈ labels.values traefikTcpServicePortRe) :
        host = host' ∧ entrypoint = entrypoint' ∧ atoi port = atoi port' := by
      obtain ⟨ord', through'⟩ := tcp_through enabled named' entered' numbered'
      exact tcpThrough_inj given (through.symm.trans ((alike ord ord').trans through'))
    refine ⟨?_, ?_, ?_⟩
    · intro a at_a b at_b
      exact (told at_a entered numbered).1.symm.trans (told at_b entered numbered).1
    · intro a at_a b at_b
      exact (told named at_a numbered).2.1.symm.trans (told named at_b numbered).2.1
    · intro a at_a b at_b
      exact (told named entered at_a).2.2.symm.trans (told named entered at_b).2.2
  · intro settled ord ord'
    by_cases missing : labels.tcpHosts = [] ∨
      (∀ entrypoint ∈ labels.values traefikTcpEntrypointsRe, entrypoint = []) ∨
      ∀ port ∈ labels.values traefikTcpServicePortRe, atoi port = 0
    · rw [no_tcp enabled missing ord, no_tcp enabled missing ord']
    · obtain ⟨hosts, entrypoints, ports⟩ := (or_assoc.mpr (or_assoc.mpr settled)).resolve_left
        (fun some => missing (or_assoc.mp some))
      have perm := (List.reverse_perm _).trans (ord.tcpRouters.perm labels.pairs)
      have perm' := (List.reverse_perm _).trans (ord'.tcpRouters.perm labels.pairs)
      have host : tcpHostname ord labels = tcpHostname ord' labels := by
        rw [tcpHostname_eq, tcpHostname_eq]
        exact find?_perm (perm.trans perm'.symm)
          (fun found => (found.map fun e : GoString × GoString => (hostSNIRe e.2).getD []).getD [])
          fun a listed b listed' names_a names_b => hosts _ (Labels.host_mem perm listed names_a)
            _ (Labels.host_mem perm listed' names_b)
      have entrypoint : tcpEntrypoint ord labels = tcpEntrypoint ord' labels := by
        rw [tcpEntrypoint_eq, tcpEntrypoint_eq]
        exact find?_perm (perm.trans perm'.symm)
          (fun found => (found.map fun e : GoString × GoString => e.2).getD [])
          fun a listed b listed' match_a match_b =>
            entrypoints _ (Labels.value_mem perm listed match_a)
              _ (Labels.value_mem perm listed' match_b)
      have service_perm := ord.tcpServices.perm labels.pairs
      have port := find?_perm (p := fun e => traefikTcpServicePortRe e.1)
        (service_perm.trans (ord'.tcpServices.perm labels.pairs).symm) portOf
        fun a listed b listed' match_a match_b =>
          ports _ (Labels.value_mem service_perm listed match_a)
            _ (Labels.value_mem service_perm listed' match_b)
      rw [parseTraefikTcpLabels_eq ord enabled, parseTraefikTcpLabels_eq ord' enabled, host,
        entrypoint, port]

end tcp
section caddy

/-- The Caddy prefixes with a host. -/
def Labels.caddyHosts (labels : Labels) : List (GoString × GoString) :=
  labels.pairs.filter fun entry => caddyPrefixRe entry.1 && entry.2 ≠ []

/-- The config of a prefix after the labels in a list. -/
def directAll (visited : List (GoString × GoString)) (pre : GoString) (config : CaddyConfig) :
    CaddyConfig :=
  visited.foldl (fun config entry => config.direct entry.1 entry.2 pre) config

/-- The result of a config. -/
def CaddyConfig.parsed (config : CaddyConfig) : ParsedLabels :=
  { hosts := [config.host], port := config.port, path := config.path, strip := config.strip }

/-- The config of a prefix before any directive. -/
def CaddyConfig.initial (host : GoString) : CaddyConfig := { host, path := lit "/" }

lemma lookup_found (visited : List (GoString × GoString)) (pre : GoString) :
    (visited.foldl (fun configs entry => if caddyPrefixRe entry.1 then
      configs.insert entry.1 (.initial entry.2) else configs)
        (∅ : GoMap GoString CaddyConfig)).lookup pre =
      if caddyPrefixRe pre then
        (visited.reverse.find? fun e => e.1 = pre).map fun e => .initial e.2
      else none := by
  induction visited using List.reverseRecOn with
  | nil => simp
  | append_singleton visited entry ih =>
    rw [List.foldl_append, List.foldl_cons, List.foldl_nil, List.reverse_append]
    by_cases here : entry.1 = pre
    · subst here
      split
      · simp
      · exact ih.trans (by simp_all)
    · have passed : (([entry] : List (GoString × GoString)).reverse ++ visited.reverse).find?
          (fun e => e.1 = pre) = visited.reverse.find? fun e => e.1 = pre := by
        simp [here]
      rw [passed, ← ih]
      split
      · exact AList.lookup_insert_ne (Ne.symm here)
      · rfl

lemma lookup_directed (visited : List (GoString × GoString)) (configs : GoMap GoString CaddyConfig)
    (pre : GoString) :
    (visited.foldl (fun configs entry => configs.mapValues (CaddyConfig.direct entry.1 entry.2))
      configs).lookup pre = (configs.lookup pre).map (directAll visited pre) := by
  induction visited generalizing configs with
  | nil => exact Option.map_id'.symm
  | cons entry visited ih =>
    rw [List.foldl_cons, ih, GoMap.lookup_mapValues, Option.map_map]
    rfl

lemma CaddyConfig.direct_host (key value pre : GoString) (config : CaddyConfig) :
    (config.direct key value pre).host = config.host := by
  unfold CaddyConfig.direct
  split_ifs
  · split <;> rfl
  all_goals rfl

lemma directAll_host (visited : List (GoString × GoString)) (pre : GoString)
    (config : CaddyConfig) : (directAll visited pre config).host = config.host := by
  induction visited generalizing config with
  | nil => rfl
  | cons entry visited ih => exact (ih _).trans (config.direct_host ..)

/-- A label with a prefix's key is the only one. -/
lemma Labels.find?_key {labels : Labels} {l : List (GoString × GoString)}
    (perm : l.Perm labels.pairs) (key : GoString) :
    (l.find? fun e => e.1 = key) = (labels.lookup key).map (key, ·) := by
  cases found : l.find? fun e => e.1 = key with
  | none =>
    cases here : labels.lookup key with
    | none => rfl
    | some value =>
      have listed := perm.mem_iff.mpr (GoMap.mem_pairs.mpr here)
      simpa using List.find?_eq_none.mp found _ listed
  | some entry =>
    obtain ⟨key', value⟩ := entry
    have same : key' = key := by simpa using List.find?_some found
    subst same
    rw [GoMap.mem_pairs.mp (perm.mem_iff.mp (List.mem_of_find?_eq_some found))]
    rfl

/-- Whatever the orders, there is one result for each prefix with a host, and only the order of the
directives is seen in it. -/
lemma caddy_perm (ord : LabelOrders) (labels : Labels) :
    (parseCaddyLabels ord labels).Perm (labels.caddyHosts.map fun e =>
      (directAll (ord.directives.visit labels.pairs) e.1 (.initial e.2)).parsed) := by
  rw [parseCaddyLabels]
  generalize directed : ((ord.directives.visit labels.pairs).foldl _ _ : GoMap _ _) = configs
  have configs_perm : configs.pairs.Perm ((labels.pairs.filter (caddyPrefixRe ·.1)).map fun e =>
      (e.1, directAll (ord.directives.visit labels.pairs) e.1 (.initial e.2))) := by
    refine (List.perm_ext_iff_of_nodup configs.pairs_nodup ?_).mpr ?_
    · refine List.Nodup.of_map Prod.fst ?_
      rw [List.map_map]
      exact labels.keys_nodup.sublist (List.filter_sublist.map Prod.fst)
    · rintro ⟨pre, config⟩
      have found := lookup_found (ord.prefixes.visit labels.pairs) pre
      have perm := (List.reverse_perm _).trans (ord.prefixes.perm labels.pairs)
      rw [Labels.find?_key perm pre] at found
      rw [GoMap.mem_pairs, ← directed, lookup_directed, Option.map_eq_some_iff]
      constructor
      · rintro ⟨config', here, rfl⟩
        have given := found.symm.trans here
        split at given
        · rename_i prefixed
          simp only [Option.map_map, Option.map_eq_some_iff, Function.comp_apply] at given
          obtain ⟨host, listed, rfl⟩ := given
          exact List.mem_map.mpr
            ⟨(pre, host), List.mem_filter.mpr ⟨GoMap.mem_pairs.mpr listed, prefixed⟩, rfl⟩
        · cases given
      · intro listed
        obtain ⟨⟨pre', host⟩, inside, same⟩ := List.mem_map.mp listed
        cases same
        obtain ⟨listed, prefixed⟩ := List.mem_filter.mp inside
        refine ⟨.initial host, ?_, rfl⟩
        rw [if_pos prefixed, GoMap.mem_pairs.mp listed] at found
        exact found
  refine (((ord.configs.perm _).trans configs_perm).filter _).map _ |>.trans ?_
  rw [List.filter_map, List.map_map, List.filter_filter]
  refine .of_eq ?_
  congr 1
  refine List.filter_congr fun entry _ => ?_
  simp only [Function.comp_apply, directAll_host, CaddyConfig.initial, Bool.and_comm]

/-- No `handle` label competes with a `handle_path` label for the root. -/
def CaddySettled (labels : Labels) : Prop :=
  ∀ entry ∈ labels.caddyHosts, ∀ whole ∈ labels.lookup (entry.1 ++ lit ".handle_path"),
    ∀ part ∈ labels.lookup (entry.1 ++ lit ".handle"),
      handlePath whole = lit "/" → handlePath part = lit "/"

lemma reverse_proxy_ne_handle_path (pre pre' : GoString) :
    pre ++ lit ".reverse_proxy" ≠ pre' ++ lit ".handle_path" :=
  append_ne (by decide) (by decide) (by decide)

lemma reverse_proxy_ne_handle (pre pre' : GoString) :
    pre ++ lit ".reverse_proxy" ≠ pre' ++ lit ".handle" :=
  append_ne (by decide) (by decide) (by decide)

lemma handle_path_ne_handle (pre pre' : GoString) :
    pre ++ lit ".handle_path" ≠ pre' ++ lit ".handle" :=
  append_ne (by decide) (by decide) (by decide)

namespace CaddyConfig
variable (value pre : GoString) (config : CaddyConfig)

lemma direct_handle_path : config.direct (pre ++ lit ".handle_path") value pre =
    { config with path := handlePath value, strip := true } := by
  rw [direct, if_neg (reverse_proxy_ne_handle_path pre pre).symm, if_pos rfl]

lemma direct_handle : config.direct (pre ++ lit ".handle") value pre =
    if config.path = lit "/" then { config with path := handlePath value } else config := by
  rw [direct, if_neg (reverse_proxy_ne_handle pre pre).symm,
    if_neg (handle_path_ne_handle pre pre).symm]
  simp only [true_and]

lemma direct_reverse_proxy : config.direct (pre ++ lit ".reverse_proxy") value pre =
    { config with port := ((caddyUpstreamsRe value).map atoi).getD config.port } := by
  rw [direct, if_pos rfl]
  cases caddyUpstreamsRe value <;> rfl

lemma direct_other {key : GoString} (plain : key ≠ pre ++ lit ".reverse_proxy")
    (plain' : key ≠ pre ++ lit ".handle_path") (plain'' : key ≠ pre ++ lit ".handle") :
    config.direct key value pre = config := by
  rw [direct, if_neg plain, if_neg plain', if_neg fun here => plain'' here.1]

/-- A `reverse_proxy` label commutes with any label. -/
lemma direct_port_comm {key : GoString} (port : GoString)
    (other : key ≠ pre ++ lit ".reverse_proxy") :
    (config.direct (pre ++ lit ".reverse_proxy") port pre).direct key value pre =
      (config.direct key value pre).direct (pre ++ lit ".reverse_proxy") port pre := by
  by_cases whole : key = pre ++ lit ".handle_path"
  · subst whole
    simp only [direct_reverse_proxy, direct_handle_path]
  · by_cases part : key = pre ++ lit ".handle"
    · subst part
      simp only [direct_reverse_proxy, direct_handle]
      split <;> rfl
    · rw [direct_other _ _ _ other whole part, direct_other _ _ _ other whole part]

/-- A `handle` and a `handle_path` label commute unless the first alone leaves the root. -/
lemma direct_path_comm {whole part : GoString}
    (settled : handlePath whole = lit "/" → handlePath part = lit "/") :
    (config.direct (pre ++ lit ".handle_path") whole pre).direct (pre ++ lit ".handle") part pre =
      (config.direct (pre ++ lit ".handle") part pre).direct (pre ++ lit ".handle_path") whole
        pre := by
  simp only [direct_handle_path, direct_handle]
  by_cases root : handlePath whole = lit "/"
  · rw [if_pos root, settled root, root]
    split <;> rfl
  · rw [if_neg root]
    split <;> rfl

end CaddyConfig

/-- The labels of another prefix leave a config alone. -/
lemma direct_foreign {pre other : GoString} (foreign : other ≠ pre) (value : GoString)
    (config : CaddyConfig) :
    config.direct (other ++ lit ".handle_path") value pre = config ∧
      config.direct (other ++ lit ".handle") value pre = config := by
  refine ⟨CaddyConfig.direct_other _ _ _ (reverse_proxy_ne_handle_path pre other).symm ?_
    (handle_path_ne_handle other pre), CaddyConfig.direct_other _ _ _
      (reverse_proxy_ne_handle pre other).symm (handle_path_ne_handle pre other).symm ?_⟩
  · exact fun same => foreign (List.append_left_injective _ same)
  · exact fun same => foreign (List.append_left_injective _ same)

/-- The labels commute on a settled config. -/
lemma direct_comm {labels : Labels} {pre : GoString}
    (settled : ∀ whole ∈ labels.lookup (pre ++ lit ".handle_path"),
      ∀ part ∈ labels.lookup (pre ++ lit ".handle"),
        handlePath whole = lit "/" → handlePath part = lit "/")
    {a b : GoString × GoString} (listed : a ∈ labels.pairs) (listed' : b ∈ labels.pairs)
    (config : CaddyConfig) :
    (config.direct a.1 a.2 pre).direct b.1 b.2 pre =
      (config.direct b.1 b.2 pre).direct a.1 a.2 pre := by
  obtain ⟨key, value⟩ := a
  obtain ⟨key', value'⟩ := b
  have at_a := GoMap.mem_pairs.mp listed
  have at_b := GoMap.mem_pairs.mp listed'
  dsimp only
  by_cases same : key = key'
  · subst same
    rw [Option.some.inj (at_a.symm.trans at_b)]
  by_cases port : key = pre ++ lit ".reverse_proxy"
  · subst port
    exact config.direct_port_comm value' pre value (Ne.symm same)
  by_cases port' : key' = pre ++ lit ".reverse_proxy"
  · subst port'
    exact (config.direct_port_comm value pre value' same).symm
  by_cases whole : key = pre ++ lit ".handle_path"
  · subst whole
    by_cases part : key' = pre ++ lit ".handle"
    · subst part
      exact config.direct_path_comm pre (settled _ at_a _ at_b)
    · rw [CaddyConfig.direct_other _ _ _ port' (Ne.symm same) part,
        CaddyConfig.direct_other _ _ _ port' (Ne.symm same) part]
  by_cases whole' : key' = pre ++ lit ".handle_path"
  · subst whole'
    by_cases part : key = pre ++ lit ".handle"
    · subst part
      exact (config.direct_path_comm pre (settled _ at_b _ at_a)).symm
    · rw [CaddyConfig.direct_other _ _ _ port whole part,
        CaddyConfig.direct_other _ _ _ port whole part]
  by_cases part : key = pre ++ lit ".handle"
  · subst part
    rw [CaddyConfig.direct_other _ _ _ port' whole' (Ne.symm same),
      CaddyConfig.direct_other _ _ _ port' whole' (Ne.symm same)]
  · rw [CaddyConfig.direct_other _ _ _ port whole part,
      CaddyConfig.direct_other _ _ _ port whole part]

/-- The Caddy labels are parsed alike in every order, up to the order of the results, exactly when
they are settled. -/
lemma caddy_settled (labels : Labels) :
    (∀ ord ord' : LabelOrders,
      (parseCaddyLabels ord labels).Perm (parseCaddyLabels ord' labels)) ↔ CaddySettled labels := by
  constructor
  · intro alike entry listed whole at_whole part at_part root
    let whole_entry := (entry.1 ++ lit ".handle_path", whole)
    let part_entry := (entry.1 ++ lit ".handle", part)
    obtain ⟨rest, perm⟩ : ∃ rest, labels.pairs.Perm (rest ++ [part_entry, whole_entry]) := by
      have apart : whole_entry ≠ part_entry := fun same =>
        handle_path_ne_handle entry.1 entry.1 (congrArg Prod.fst same)
      have first := List.perm_cons_erase (GoMap.mem_pairs.mpr at_part)
      have second := List.perm_cons_erase
        ((List.mem_erase_of_ne apart).mpr (GoMap.mem_pairs.mpr at_whole))
      exact ⟨_, (first.trans (second.cons part_entry)).trans
        (@List.perm_append_comm _ [part_entry, whole_entry] _)⟩
    obtain ⟨ord, visit⟩ := RangeOrder.exists_visit perm.symm
    obtain ⟨ord', visit'⟩ := RangeOrder.exists_visit
      (((List.Perm.swap part_entry whole_entry []).append_left rest).trans perm.symm)
    have results := ((caddy_perm { LabelOrders.stored with directives := ord } labels).symm.trans
      (alike _ { LabelOrders.stored with directives := ord' })).trans (caddy_perm _ labels)
    have same := eq_of_map_perm listed (labels.pairs_nodup.filter _) ?_ results
    · have path := congrArg ParsedLabels.path same
      dsimp only at path
      rw [visit, visit'] at path
      simp only [directAll, List.foldl_append, List.foldl_cons, List.foldl_nil,
        CaddyConfig.direct_handle_path, CaddyConfig.direct_handle, CaddyConfig.parsed, root,
        part_entry, whole_entry] at path
      exact path.symm
    · intro other inside apart
      have keys : (labels.caddyHosts.map Prod.fst).Nodup :=
        labels.keys_nodup.sublist (List.filter_sublist.map Prod.fst)
      have foreign : entry.1 ≠ other.1 := fun same =>
        apart (List.inj_on_of_nodup_map keys inside listed same.symm)
      rw [visit, visit']
      simp only [directAll, List.foldl_append, List.foldl_cons, List.foldl_nil, part_entry,
        whole_entry, (direct_foreign foreign _ _).1, (direct_foreign foreign _ _).2]
  · intro settled ord ord'
    refine (caddy_perm ord labels).trans (.trans (.of_eq ?_) (caddy_perm ord' labels).symm)
    refine List.map_congr_left fun entry listed => ?_
    have perm := (ord.directives.perm labels.pairs).trans (ord'.directives.perm labels.pairs).symm
    rw [directAll, directAll, perm.foldl_eq' fun a at_a b at_b config =>
      direct_comm (settled entry listed) (ord.directives.mem_visit.mp at_a)
        (ord.directives.mem_visit.mp at_b) config]

end caddy
/-- The labels of a container say the same in every order. -/
structure Settled (labels : Labels) : Prop where
  http : labels.get (lit "traefik.enable") = lit "true" → HttpSettled labels
  tcp : labels.get (lit "traefik.enable") = lit "true" → TcpSettled labels
  caddy : CaddySettled labels

/-- Label parsing does not depend on the order of the map exactly for settled labels. -/
theorem settled_iff (labels : Labels) :
    (∀ ord ord' : LabelOrders,
      parseTraefikLabels ord labels = parseTraefikLabels ord' labels ∧
      parseTraefikTcpLabels ord labels = parseTraefikTcpLabels ord' labels ∧
      (parseCaddyLabels ord labels).Perm (parseCaddyLabels ord' labels)) ↔ Settled labels := by
  constructor
  · intro alike
    exact {
      http := fun enabled => (http_settled enabled).mp fun ord ord' => (alike ord ord').1
      tcp := fun enabled => (tcp_settled enabled).mp fun ord ord' => (alike ord ord').2.1
      caddy := (caddy_settled labels).mp fun ord ord' => (alike ord ord').2.2 }
  · intro settled ord ord'
    refine ⟨?_, ?_, (caddy_settled labels).mpr settled.caddy ord ord'⟩
    · by_cases enabled : labels.get (lit "traefik.enable") = lit "true"
      · exact (http_settled enabled).mpr (settled.http enabled) ord ord'
      · rw [parseTraefikLabels, parseTraefikLabels, if_pos enabled, if_pos enabled]
    · by_cases enabled : labels.get (lit "traefik.enable") = lit "true"
      · exact (tcp_settled enabled).mpr (settled.tcp enabled) ord ord'
      · rw [parseTraefikTcpLabels, parseTraefikTcpLabels, if_pos enabled, if_pos enabled]

/-- A container with a public and an admin router. -/
def twoRouters : Labels :=
  ((AList.singleton (lit "traefik.enable") (lit "true")).insert
    (lit "traefik.http.routers.app.rule") (lit "Host(`app.lvh.me`)")).insert
    (lit "traefik.http.routers.admin.rule") (lit "Host(`admin.lvh.me`) && PathPrefix(`/admin`)")

/-- Which router a container with two is served through depends on the order. -/
theorem two_routers_differ : ∃ ord ord' : LabelOrders,
    (parseTraefikLabels ord twoRouters).map (·.hosts) = some [lit "admin.lvh.me"] ∧
    (parseTraefikLabels ord' twoRouters).map (·.hosts) = some [lit "app.lvh.me"] :=
  ⟨.stored, { LabelOrders.stored with rules := .reversed }, by decide +kernel, by decide +kernel⟩

end Pintle.Docker
