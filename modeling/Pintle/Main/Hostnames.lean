import Pintle.Docker.Discover
import Pintle.File.Accepted

/-!
# Empty hostnames

Which providers can publish an HTTP route without a hostname. The Traefik expressions need a byte
between the backticks, the Caddy loop skips an empty host, and the file provider drops blank entries.
`parseProxyLabels` keeps the items of its list whatever they are, so a blank item of `pintle.host`
becomes a route without a hostname wherever the container has an address and a port
(`hostnames_iff`).
-/

namespace Pintle
open Go Docker File

/-- Every route has a hostname. -/
def Named (routes : List Route) : Prop := ∀ route ∈ routes, route.hostname ≠ []

lemma named_append {a b : List Route} : Named (a ++ b) ↔ Named a ∧ Named b :=
  List.forall_mem_append

namespace Docker

/-- The routes of a container from each of the three formats of HTTP labels. -/
def containerRoutes (networkName : GoString) (ord : Orders) (info : Container) : List Route :=
  proxyRoutes networkName info ++ traefikRoutes networkName ord info ++
    caddyRoutes networkName ord info

/-- No item of `pintle.host` is blank. -/
def HostsNamed (labels : Labels) : Prop :=
  ∀ hostLabel, labels.lookup (lit "pintle.host") = some hostLabel →
    ∀ item ∈ splitComma hostLabel, trimSpace item ≠ []

/-- The container has no address on the network, or no port: neither one of `pintle.port` nor one of
its own. -/
def Unreachable (networkName : GoString) (info : Container) : Prop :=
  info.ipAddress networkName = none ∨
    (∀ port, info.labels.lookup (lit "pintle.port") = some port → atoi port = 0) ∧
      info.firstPort = 0

/-- The hostnames of a container's routes are the parsed hosts and patterns, if it has an address and
a port. -/
lemma resolveContainerRoute_hostname (networkName : GoString) (info : Container)
    (parsed : ParsedLabels) (source : GoString) :
    (resolveContainerRoute networkName info parsed source).map (·.hostname) =
      if info.ipAddress networkName = none ∨ resolvedPort info parsed = 0 then []
      else parsed.hosts ++ parsed.hostPatterns := by
  unfold resolveContainerRoute
  cases info.ipAddress networkName with
  | none => rfl
  | some ip =>
    by_cases port : resolvedPort info parsed = 0
    · simp [port]
    · simp [port, Function.comp_def]

/-- A container has named routes when its labels give only names. -/
lemma resolveContainerRoute_named {networkName : GoString} {info : Container} {parsed : ParsedLabels}
    {source : GoString} (names : ∀ host ∈ parsed.hosts ++ parsed.hostPatterns, host ≠ []) :
    Named (resolveContainerRoute networkName info parsed source) := by
  intro route member
  have listed := List.mem_map_of_mem (f := (·.hostname)) member
  rw [resolveContainerRoute_hostname] at listed
  split at listed
  · cases listed
  · exact names route.hostname listed

lemma traefikRoutes_named (networkName : GoString) (ord : Orders) (info : Container) :
    Named (traefikRoutes networkName ord info) := by
  unfold traefikRoutes
  split
  · exact nofun
  · rename_i parsed found
    apply resolveContainerRoute_named
    intro host listed
    exact ((parseTraefikLabels_parsed found).2.1 host listed).1

lemma caddyRoutes_named (networkName : GoString) (ord : Orders) (info : Container) :
    Named (caddyRoutes networkName ord info) := by
  intro route member
  obtain ⟨parsed, found, resolved⟩ := List.mem_flatMap.mp member
  obtain ⟨config, kept, rfl⟩ := List.mem_map.mp found
  apply resolveContainerRoute_named _ route resolved
  intro host listed
  rw [List.append_nil, List.mem_singleton] at listed
  rw [listed]
  simpa using (List.mem_filter.mp kept).2

/-- The port that the `pintle.*` labels resolve to. -/
lemma resolvedPort_proxy {info : Container} {parsed : ParsedLabels}
    (found : parseProxyLabels info.labels = some parsed) :
    resolvedPort info parsed = 0 ↔
      (∀ port, info.labels.lookup (lit "pintle.port") = some port → atoi port = 0) ∧
        info.firstPort = 0 := by
  unfold parseProxyLabels at found
  split at found
  · cases found
  · cases found
    unfold resolvedPort
    cases info.labels.lookup (lit "pintle.port") with
    | none => simp
    | some port =>
      by_cases number : atoi port = 0
      · simp [number]
      · simp [number]

/-- The `pintle.*` labels name every route unless a blank item is published. -/
lemma proxyRoutes_named_iff {networkName : GoString} {info : Container} :
    Named (proxyRoutes networkName info) ↔
      HostsNamed info.labels ∨ Unreachable networkName info := by
  unfold proxyRoutes
  cases found : parseProxyLabels info.labels with
  | none =>
    refine iff_of_true nofun (.inl ?_)
    intro hostLabel present
    rw [parseProxyLabels, present] at found
    cases found
  | some parsed =>
    have hosts : HostsNamed info.labels ↔ ∀ host ∈ parsed.hosts ++ parsed.hostPatterns, host ≠ [] := by
      unfold parseProxyLabels at found
      split at found
      · cases found
      · rename_i hostLabel present
        cases found
        simp [HostsNamed, present]
    rw [hosts, Unreachable, ← resolvedPort_proxy found]
    constructor
    · intro named
      by_cases published : info.ipAddress networkName = none ∨ resolvedPort info parsed = 0
      · exact .inr published
      · refine .inl fun host listed => ?_
        have routed := resolveContainerRoute_hostname networkName info parsed (lit "docker")
        rw [if_neg published] at routed
        rw [← routed] at listed
        obtain ⟨route, member, rfl⟩ := List.mem_map.mp listed
        exact named route member
    · rintro (names | unpublished)
      · exact resolveContainerRoute_named names
      · intro route member
        have listed := List.mem_map_of_mem (f := (·.hostname)) member
        rw [resolveContainerRoute_hostname, if_pos unpublished] at listed
        cases listed

end Docker

namespace File

/-- The message of a loop, whether it ended with an error or not. -/
def outcome : Except Message Message → Message
  | .ok msg => msg
  | .error failed => failed

namespace FileProvider
variable {υ : Type} [Url υ] {f : FileProvider} {pkg : Packages}

lemma addTargets_named {index : Nat} {r : StaticRouteConfig} {path pool : GoString}
    {health : Option HealthCheck} {values : List Value} {seen : List GoString} {msg : Message}
    (named : Named msg.routes) :
    Named (outcome (f.addTargets υ index r path pool health values seen msg)).routes := by
  induction values generalizing seen msg with
  | nil => exact named
  | cons value values ih =>
    rcases f.addTargets_turn (υ := υ) index r path pool health value values seen msg with
      ⟨_, turn⟩ | turn
    · rw [turn]
      exact named
    · rw [turn]
      apply ih
      refine named_append.mpr ⟨named, ?_⟩
      intro route member
      rw [StaticRouteConfig.emit, List.flatMap_singleton] at member
      obtain ⟨name, listed, rfl⟩ := List.mem_map.mp member
      rw [r.hostnames_eq] at listed
      exact StaticRouteConfig.names_ne_nil listed

lemma addRoute_named {index : Nat} {r : StaticRouteConfig} {msg : Message}
    (named : Named msg.routes) : Named (outcome (f.addRoute υ index r msg)).routes := by
  unfold addRoute
  dsimp only
  split
  · exact named
  · split
    · exact addTargets_named named
    · split
      · exact named
      · exact addTargets_named named

lemma addRoutes_named {index : Nat} {entries : List StaticRouteConfig} {msg : Message}
    (named : Named msg.routes) : Named (outcome (f.addRoutes υ index entries msg)).routes := by
  induction entries generalizing index msg with
  | nil => exact named
  | cons r entries ih =>
    have step : Named (outcome (f.addRoute υ index r msg)).routes := addRoute_named named
    rw [addRoutes]
    cases added : f.addRoute υ index r msg with
    | error failed =>
      rw [added] at step
      exact step
    | ok msg' =>
      rw [added] at step
      exact ih step

/-- The file provider names every route it publishes, also with a message that has an error. -/
lemma loadFile_named (read : Except GoString GoString) :
    Named (f.loadFile υ pkg read).routes := by
  have parsed : Named (f.loadFileParsed υ pkg read).1.routes := by
    unfold loadFileParsed
    dsimp only
    split
    · exact nofun
    · rename_i document _
      have added :
          Named (outcome (f.addRoutes υ 0 document.routes { providerName := lit "file" })).routes :=
        addRoutes_named nofun
      split
      · rename_i failed stopped
        rw [stopped] at added
        exact added
      · rename_i msg done
        rw [done] at added
        split
        · exact added
        · exact added
  have same : (f.loadFile υ pkg read).routes = (f.loadFileParsed υ pkg read).1.routes := by
    have first : (f.check υ pkg read).1 = (f.loadFileParsed υ pkg read).1 := rfl
    rw [loadFile, ← first]
    obtain ⟨msg, err⟩ := f.check υ pkg read
    cases err <;> rfl
  rw [same]
  exact parsed

end FileProvider
end File

/-- The routes of a container and of a routes file all have a hostname exactly when no item of the
container's `pintle.host` is blank, or the container has no address or no port. -/
theorem hostnames_iff (networkName : GoString) (ord : Orders) (info : Container) {υ : Type} [Url υ]
    (f : FileProvider) (pkg : Packages) (read : Except GoString GoString) :
    Named (containerRoutes networkName ord info ++ (f.loadFile υ pkg read).routes) ↔
      HostsNamed info.labels ∨ Unreachable networkName info := by
  rw [containerRoutes, named_append, named_append, named_append, proxyRoutes_named_iff]
  constructor
  · intro named
    exact named.1.1.1
  · intro proxy
    exact ⟨⟨⟨proxy, traefikRoutes_named networkName ord info⟩, caddyRoutes_named networkName ord info⟩,
      FileProvider.loadFile_named read⟩

/-- A container whose list of hosts ends with a comma. -/
def trailing : Container where
  names := [lit "/app"]
  labels := AList.singleton (lit "pintle.host") (lit "a.lvh.me,")
  networks := AList.singleton (lit "n") (lit "10.0.0.2")
  ports := [80]

/-- It gets a route without a hostname. -/
theorem trailing_comma : ¬Named (containerRoutes (lit "n") (fun _ => .stored) trailing) := by
  intro named
  have nameless : ∃ route ∈ containerRoutes (lit "n") (fun _ => .stored) trailing,
      route.hostname = [] := by
    decide
  obtain ⟨route, member, empty⟩ := nameless
  exact named route member empty

end Pintle
