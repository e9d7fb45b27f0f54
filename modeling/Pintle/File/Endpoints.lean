import Pintle.File.Load
import Pintle.Go.NetUrl

/-!
# HTTP and TCP targets

The loader resolves a target under `routes` and one under `tcp` with different functions. What the
second splits at its first colon the first parses as a URL, and only the first rewrites
`host.docker.internal`. `sameEndpoint_iff` says for which targets both yield the same host and port.
-/

namespace Pintle.File
open Go

/-- A name of bytes that need no encoding in a host. -/
structure IsName (host : GoString) : Prop where
  ne_nil : host ≠ []
  bytes : (host.all fun b => !shouldEscape .host b) = true
  plain : 58 ∉ host ∧ 91 ∉ host

/-- An address of the host: a name or an IP address. -/
inductive IsAddress : GoString → Prop
  | name {host : GoString} (named : IsName host) : IsAddress host
  | ip {host : GoString} (parsed : (parseIP host).isSome = true) : IsAddress host

/-- What may stand before a port: an address, or an IPv6 address in brackets. -/
inductive IsHost : GoString → Prop
  | address {host : GoString} (address : IsAddress host) : IsHost host
  | literal {ip : GoString} (parsed : (parseIP ip).isSome = true) (colon : 58 ∈ ip) :
    IsHost (lit "[" ++ ip ++ lit "]")

/-- A target of a service: a port on the host, or a host with a port. -/
inductive Target where
  | int (number : Int) (valid : validPort number = true)
  | float (number : Int) (valid : validPort number = true)
  | digits (s : GoString) (digits : portOnly s = true)
  | hostPort (host port : GoString) (named : IsHost host) (digits : port.all isDigit = true)
    (valid : (parseInt port).any validPort = true)

namespace Target

/-- The target as it is written under `tcp`. -/
def tcp : Target → Value
  | .int number _ => .int number
  | .float number _ => .float number
  | .digits s _ => .string s
  | .hostPort host port _ _ _ => .string (host ++ 58 :: port)

/-- The target as it is written under `routes`. -/
def http : Target → Value
  | .int number _ => .int number
  | .float number _ => .float number
  | .digits s _ => .string s
  | .hostPort host port _ _ _ => .string (lit "http://" ++ (host ++ 58 :: port))

/-- The number fits into an `int`, the host has no colon, and it is not one that is rewritten. -/
def Alike (f : FileProvider) : Target → Prop
  | .digits s _ => parseDigits s < 2 ^ 63
  | .hostPort host _ _ _ _ => 58 ∉ host ∧
    (host = lit "host.docker.internal" → f.hostAddress = lit "host.docker.internal")
  | _ => True

end Target

/-- A target under `tcp` has the host and the port of the URL under `routes`. -/
def SameEndpoint (f : FileProvider) (target : Target) : Prop :=
  ∃ u : URL, URL.parse (f.resolveTarget URL target.http) = some u ∧
    u.hostname = (f.resolveTcpTarget target.tcp).1 ∧
    parseInt u.port = some (f.resolveTcpTarget target.tcp).2

lemma escape_self {mode : Encoding} {s : GoString} (plain : ∀ b ∈ s, shouldEscape mode b = false) :
    escape mode s = s := by
  induction s with
  | nil => rfl
  | cons b s ih =>
    rw [escape, List.flatMap_cons, plain b List.mem_cons_self]
    exact congrArg (b :: ·) (ih fun b' member => plain b' (List.mem_cons_of_mem b member))

/-- The bytes of an address need no encoding. -/
lemma IsAddress.bytes {host : GoString} (address : IsAddress host) :
    (∀ b ∈ host, shouldEscape .host b = false) ∧ 91 ∉ host ∧ host ≠ [] := by
  cases address with
  | name named =>
    have bytes := named.bytes
    simp only [List.all_eq_true, Bool.not_eq_true'] at bytes
    exact ⟨bytes, named.plain.2, named.ne_nil⟩
  | ip parsed =>
    obtain ⟨ip, parsed⟩ := Option.isSome_iff_exists.mp parsed
    have bytes := parseIP_bytes parsed
    refine ⟨fun b member => (isAddressByte_host (bytes b member)).1, ?_, ?_⟩
    · exact fun member => (isAddressByte_host (bytes 91 member)).2.1 rfl
    · rintro rfl
      cases parsed

/-- The URL of an address and a port. -/
lemma IsAddress.parse {host port : GoString} (address : IsAddress host)
    (digits : port.all isDigit = true) :
    URL.parse (lit "http://" ++ (host ++ 58 :: port)) =
        some { scheme := lit "http", host := host ++ 58 :: port } ∧
      ∀ u : URL, u.host = host ++ 58 :: port → u.hostname = host ∧ u.port = port := by
  obtain ⟨bytes, free, _⟩ := address.bytes
  have allowed (b : UInt8) (member : b ∈ host) := byteAllowed_of (bytes b member)
  exact ⟨URL.parse_http (hostBytes_port allowed digits) (parseHost_name allowed free digits),
    fun u whole => URL.hostname_port whole free digits⟩

/-- The URL of an address in brackets and a port. -/
lemma parse_literal {ip port : GoString} (parsed : (parseIP ip).isSome = true) (colon : 58 ∈ ip)
    (digits : port.all isDigit = true) :
    URL.parse (lit "http://" ++ (lit "[" ++ ip ++ lit "]" ++ 58 :: port)) =
        some { scheme := lit "http", host := lit "[" ++ ip ++ lit "]" ++ 58 :: port } ∧
      ∀ u : URL, u.host = lit "[" ++ ip ++ lit "]" ++ 58 :: port →
        u.hostname = ip ∧ u.port = port := by
  obtain ⟨address, parsed⟩ := Option.isSome_iff_exists.mp parsed
  have bytes := parseIP_bytes parsed
  have text : lit "[" ++ ip ++ lit "]" ++ 58 :: port = 91 :: ip ++ 93 :: 58 :: port := by
    rw [List.append_assoc]
    rfl
  have literal := parseHost_literal bytes (isIPv6_of_parseIP parsed colon) digits
  rw [← text] at literal
  exact ⟨URL.parse_http (hostBytes_port (literal_bytes bytes) digits) literal,
    fun u whole => URL.hostname_port_literal whole digits⟩

/-- An HTTP URL without a path is written as it is read. -/
lemma string_http {host : GoString} (some_host : host ≠ [])
    (bytes : ∀ b ∈ host, shouldEscape .host b = false) :
    URL.string { scheme := lit "http", host } = lit "http://" ++ host := by
  have http : lit "http" ≠ [] := by decide
  have authority : URL.authority { scheme := lit "http", host } = lit "//" ++ host := by
    rw [URL.authority, if_neg (fun all => http all.1), if_neg (fun all => some_host all.2.1),
      if_pos (.inl some_host), escape_self bytes]
    rfl
  rw [URL.string, authority, if_pos http]
  dsimp only
  rw [if_neg (fun opaqueRest => opaqueRest rfl), if_neg (fun some_path => some_path.1 rfl),
    if_neg (fun no_scheme => http no_scheme.1), if_neg (by decide), if_neg (fun frag => frag rfl)]
  have path : URLPath.escapedPath { path := [] } = [] := rfl
  rw [path, List.append_nil, List.append_nil, List.append_nil]
  rfl

/-- What `rewriteHostInURL` does with a URL. -/
lemma rewriteHostInURL_some {f : FileProvider} {raw : GoString} {u : URL}
    (parsed : URL.parse raw = some u) : f.rewriteHostInURL URL raw =
      if f.hostAddress = [] ∨ f.hostAddress = lit "host.docker.internal" then raw
      else if u.host = [] then raw
      else if u.hostname ≠ lit "host.docker.internal" then raw
      else if u.port ≠ [] then URL.string { u with host := joinHostPort f.hostAddress u.port }
      else URL.string { u with host := f.hostAddress } := by
  have parsed : (Url.parse raw : Option URL) = some u := parsed
  rw [FileProvider.rewriteHostInURL, parsed]
  rfl

/-- The URL with the address of the host for its host. -/
lemma parse_joined {host port : GoString} (address : IsAddress host)
    (digits : port.all isDigit = true) :
    ∃ u, URL.parse (URL.string { scheme := lit "http", host := joinHostPort host port }) = some u ∧
      u.hostname = host ∧ u.port = port := by
  obtain ⟨bytes, free, _⟩ := address.bytes
  have percent : 37 ∉ host := fun member => by
    have other := bytes 37 member
    cases other
  have port_bytes : ∀ b ∈ 58 :: port, shouldEscape .host b = false := by
    refine List.forall_mem_cons.mpr ⟨by decide, fun b member => ?_⟩
    exact (isAddressByte_host (isAddressByte_of_isDigit (List.all_eq_true.mp digits b member))).1
  rw [joinHostPort]
  split
  · rename_i bracketed
    have colon : 58 ∈ host := bracketed.resolve_right percent
    cases address with
    | name named => exact absurd colon named.plain.1
    | ip parsed =>
      have text :
          lit "[" ++ host ++ lit "]:" ++ port = lit "[" ++ host ++ lit "]" ++ 58 :: port := by
        rw [List.append_assoc, List.append_assoc, List.append_assoc]
        rfl
      have plain :
          ∀ b ∈ lit "[" ++ host ++ lit "]" ++ 58 :: port, shouldEscape .host b = false := by
        have opening : ∀ b ∈ lit "[", shouldEscape .host b = false := by
          intro b member
          cases List.mem_singleton.mp member
          rfl
        have closing : ∀ b ∈ lit "]", shouldEscape .host b = false := by
          intro b member
          cases List.mem_singleton.mp member
          rfl
        exact List.forall_mem_append.mpr ⟨List.forall_mem_append.mpr
          ⟨List.forall_mem_append.mpr ⟨opening, bytes⟩, closing⟩, port_bytes⟩
      obtain ⟨parsed, split⟩ := parse_literal parsed colon digits
      rw [text, string_http (by simp) plain]
      exact ⟨_, parsed, split _ rfl⟩
  · have plain : ∀ b ∈ host ++ 58 :: port, shouldEscape .host b = false :=
      List.forall_mem_append.mpr ⟨bytes, port_bytes⟩
    obtain ⟨parsed, split⟩ := address.parse digits
    rw [List.append_assoc, show lit ":" ++ port = 58 :: port from rfl, string_http (by simp) plain]
    exact ⟨_, parsed, split _ rfl⟩

/-- A target on the host is rewritten to its address. -/
lemma rewrite_docker {f : FileProvider} (address : IsAddress f.hostAddress) {port : GoString}
    (some_port : port ≠ []) (digits : port.all isDigit = true) :
    ∃ u, URL.parse (f.rewriteHostInURL URL
        (lit "http://" ++ (lit "host.docker.internal" ++ 58 :: port))) = some u ∧
      u.hostname = f.hostAddress ∧ u.port = port := by
  have docker : IsAddress (lit "host.docker.internal") :=
    .name ⟨by decide, by decide, by decide⟩
  obtain ⟨parsed, split⟩ := docker.parse digits
  rw [rewriteHostInURL_some parsed]
  obtain ⟨hostname, port_eq⟩ := split { scheme := lit "http", host := _ } rfl
  rw [hostname, port_eq]
  split
  · rename_i same
    rw [same.resolve_left address.bytes.2.2]
    exact ⟨_, parsed, hostname, port_eq⟩
  · rw [if_neg (by simp), if_neg (fun other => other rfl)]
    exact parse_joined address digits

/-- Another target is left as it is. -/
lemma rewrite_other {f : FileProvider} {raw : GoString} {u : URL} (parsed : URL.parse raw = some u)
    (other : u.hostname ≠ lit "host.docker.internal") : f.rewriteHostInURL URL raw = raw := by
  rw [rewriteHostInURL_some parsed, if_pos other]
  split
  · rfl
  · split <;> rfl

/-- The URL of a port on the host. -/
lemma parse_portURL {f : FileProvider} (address : IsAddress f.hostAddress) {port : GoString}
    (digits : port.all isDigit = true) : ∃ u, URL.parse (f.portURL port) = some u ∧
      u.hostname = f.hostAddress ∧ u.port = port := by
  have text : f.portURL port = lit "http://" ++ (f.hostAddress ++ 58 :: port) := by
    rw [FileProvider.portURL, List.append_assoc, List.append_assoc]
    rfl
  obtain ⟨parsed, split⟩ := address.parse digits
  rw [text]
  exact ⟨_, parsed, split _ rfl⟩

lemma itoa_port {number : Int} (valid : validPort number = true) :
    (itoa number).all isDigit = true ∧ parseInt (itoa number) = some number := by
  rw [validPort, Bool.and_eq_true, decide_eq_true_eq, decide_eq_true_eq] at valid
  obtain ⟨n, rfl⟩ := Int.eq_ofNat_of_zero_le (show 0 ≤ number by omega)
  exact ⟨List.all_eq_true.mpr fun b member => isDigit_of_mem_itoa member, parseInt_itoa (by omega)⟩

/-- A number on the host is the same port for both. -/
lemma sameEndpoint_number {f : FileProvider} (address : IsAddress f.hostAddress) {number : Int}
    (valid : validPort number = true) : ∃ u, URL.parse (f.portURL (itoa number)) = some u ∧
      u.hostname = f.hostAddress ∧ parseInt u.port = some number := by
  obtain ⟨digits, value⟩ := itoa_port valid
  obtain ⟨u, parsed, hostname, port⟩ := parse_portURL address digits
  exact ⟨u, parsed, hostname, port ▸ value⟩

/-- The endpoint of a host without a colon under `routes`. -/
lemma parse_plain {f : FileProvider} (address : IsAddress f.hostAddress) {host port : GoString}
    (named : IsHost host) (free : 58 ∉ host) (some_port : port ≠ [])
    (digits : port.all isDigit = true) :
    ∃ u, URL.parse (f.rewriteHostInURL URL (lit "http://" ++ (host ++ 58 :: port))) = some u ∧
      u.hostname = (if host = lit "host.docker.internal" then f.hostAddress else host) ∧
      u.port = port := by
  cases named with
  | address named =>
    split
    · rename_i docker
      rw [docker]
      exact rewrite_docker address some_port digits
    · rename_i other
      obtain ⟨parsed, split⟩ := named.parse digits
      obtain ⟨hostname, port_eq⟩ := split { scheme := lit "http", host := _ } rfl
      have other : URL.hostname { scheme := lit "http", host := host ++ 58 :: port } ≠
          lit "host.docker.internal" := by
        rw [hostname]
        exact other
      rw [rewrite_other parsed other]
      exact ⟨_, parsed, hostname, port_eq⟩
  | literal _ colon => exact absurd (by simp [colon]) free

/-- The endpoint of a host with a colon under `routes`. -/
lemma parse_colon {f : FileProvider} {host port : GoString} (named : IsHost host)
    (colon : 58 ∈ host) (digits : port.all isDigit = true) :
    ∃ u, URL.parse (f.rewriteHostInURL URL (lit "http://" ++ (host ++ 58 :: port))) = some u ∧
      58 ∈ u.hostname := by
  have other {u : URL} (inside : 58 ∈ u.hostname) : u.hostname ≠ lit "host.docker.internal" := by
    intro docker
    rw [docker] at inside
    exact absurd inside (by decide)
  cases named with
  | address named =>
    obtain ⟨parsed, split⟩ := named.parse digits
    obtain ⟨hostname, _⟩ := split { scheme := lit "http", host := _ } rfl
    have inside := hostname.symm ▸ colon
    rw [rewrite_other parsed (other inside)]
    exact ⟨_, parsed, inside⟩
  | @literal ip valid within =>
    obtain ⟨parsed, split⟩ := parse_literal valid within digits
    obtain ⟨hostname, _⟩ := split { scheme := lit "http", host := _ } rfl
    have inside := hostname.symm ▸ within
    rw [rewrite_other parsed (other inside)]
    exact ⟨_, parsed, inside⟩

lemma not_portOnly {s : GoString} (colon : 58 ∈ s) : ¬ portOnly s = true := by
  rw [portOnly, Bool.and_eq_true, List.all_eq_true]
  exact fun digits => absurd (digits.2 58 colon) (by decide)

/-- What `resolveTcpTarget` makes of a host and a port. -/
lemma resolveTcpTarget_hostPort (f : FileProvider) (host port : GoString) :
    58 ∉ (f.resolveTcpTarget (.string (host ++ 58 :: port))).1 ∧
      (58 ∉ host → f.resolveTcpTarget (.string (host ++ 58 :: port)) = (host, atoi port)) := by
  rw [FileProvider.resolveTcpTarget, if_neg (not_portOnly (by simp))]
  dsimp only
  by_cases free : 58 ∈ host
  · refine ⟨?_, fun other => absurd free other⟩
    split
    · intro member
      exact absurd (List.mem_takeWhile_imp member) (by decide)
    · rename_i whole
      intro member
      rw [← (List.takeWhile_prefix _).eq_of_length_le (Nat.not_lt.mp whole)] at member
      exact absurd (List.mem_takeWhile_imp member) (by decide)
  · have shorter : host.length < (host ++ 58 :: port).length := by simp
    have back : (host ++ 58 :: port).drop (host.length + 1) = port := by
      rw [List.drop_length_add_append]
      rfl
    rw [takeWhile_sep free, if_pos shorter, back]
    exact ⟨free, fun _ => rfl⟩

/-- Both resolvers yield the same endpoint exactly when the number of a port fits into an `int`, and
a host has no colon and is not rewritten under `routes`. -/
theorem sameEndpoint_iff {f : FileProvider} (address : IsAddress f.hostAddress) (target : Target) :
    SameEndpoint f target ↔ target.Alike f := by
  cases target with
  | int number valid => exact iff_of_true (sameEndpoint_number address valid) trivial
  | float number valid => exact iff_of_true (sameEndpoint_number address valid) trivial
  | digits s digits =>
    obtain ⟨some_digit, all⟩ : s ≠ [] ∧ s.all isDigit = true := by
      simpa [portOnly] using digits
    obtain ⟨u, parsed, hostname, port⟩ := parse_portURL address all
    have http : f.resolveTarget URL (.string s) = f.portURL s := if_pos digits
    have tcp : f.resolveTcpTarget (.string s) = (f.hostAddress, atoi s) := if_pos digits
    rw [SameEndpoint, Target.http, Target.tcp, http, tcp, parsed]
    constructor
    · rintro ⟨_, same, _, value⟩
      cases same
      rw [port, parseInt_digits some_digit all] at value
      change parseDigits s < 2 ^ 63
      by_contra big
      rw [if_neg big] at value
      cases value
    · intro small
      refine ⟨u, rfl, hostname, ?_⟩
      rw [port, parseInt_digits some_digit all]
      exact if_pos small
  | hostPort host port named digits valid =>
    obtain ⟨number, value, _⟩ := (Option.any_eq_true _ _).mp valid
    have some_port : port ≠ [] := by
      rintro rfl
      cases value
    have number_eq : atoi port = number := by
      rw [parseInt_digits some_port digits] at value
      split at value
      · exact Option.some.inj value
      · cases value
    have http : f.resolveTarget URL (.string (lit "http://" ++ (host ++ 58 :: port))) =
        f.rewriteHostInURL URL (lit "http://" ++ (host ++ 58 :: port)) := by
      rw [FileProvider.resolveTarget, if_neg (not_portOnly (by simp))]
    obtain ⟨free, tcp⟩ := resolveTcpTarget_hostPort f host port
    rw [SameEndpoint, Target.http, Target.tcp, http]
    by_cases colon : 58 ∈ host
    · refine iff_of_false ?_ fun alike => alike.1 colon
      obtain ⟨u, parsed, inside⟩ := parse_colon (f := f) named colon digits
      rw [parsed]
      rintro ⟨_, same, hostname, _⟩
      cases same
      exact free (hostname ▸ inside)
    · obtain ⟨u, parsed, hostname, port_eq⟩ := parse_plain address named colon some_port digits
      rw [parsed, tcp colon]
      constructor
      · rintro ⟨_, parsed, same, _⟩
        cases parsed
        refine ⟨colon, fun docker => ?_⟩
        rw [hostname, if_pos docker] at same
        exact same.trans docker
      · rintro ⟨_, docker⟩
        refine ⟨u, rfl, ?_, ?_⟩
        · rw [hostname]
          split
          · rename_i same
            exact (docker same).trans same.symm
          · rfl
        · rw [port_eq, value, number_eq]

/-- A gateway that the loader may have been told. -/
def gateway : FileProvider where
  hostAddress := lit "172.20.0.1"

lemma gateway_address : IsAddress gateway.hostAddress := .name ⟨by decide, by decide, by decide⟩

/-- A database on a host. -/
def database (host : GoString) (named : IsName host) : Target :=
  .hostPort host (lit "5432") (.address (.name named)) (by decide) (by decide)

theorem sameEndpoint_wsl : SameEndpoint gateway
    (database (lit "host.wsl.internal") ⟨by decide, by decide, by decide⟩) :=
  (sameEndpoint_iff gateway_address _).mpr ⟨by decide, by decide⟩

/-- The same service under `routes` and under `tcp` is dialled at two hosts. -/
theorem docker_differs : ¬ ∀ (f : FileProvider) (target : Target),
    IsAddress f.hostAddress → SameEndpoint f target := by
  intro same
  obtain ⟨u, parsed, hostname, _⟩ := same gateway
    (database (lit "host.docker.internal") ⟨by decide, by decide, by decide⟩) gateway_address
  have http : URL.parse (gateway.resolveTarget URL
      (.string (lit "http://host.docker.internal:5432"))) =
        some { scheme := lit "http", host := lit "172.20.0.1:5432" } := by
    decide
  cases http.symm.trans parsed
  exact absurd hostname (by decide)

end Pintle.File
