import Pintle.File.Accepted
import Pintle.Go.NetUrl
import Pintle.Proxy.Forward

/-!
# Replicas and upstreams

The loader tells the targets of a pool apart by their text, the proxy and the probe of readiness
send to the scheme and the host that they read from it. `distinct_iff` says which pools have a
member for each upstream: those whose targets differ in more than letter case, an encoded byte, the
spelling of the port and what follows the authority (`Respelled`).
-/

namespace Pintle.File
open Go

/-- Where the transport sends a request: a scheme, a host in lower case and a port. -/
structure Upstream where
  scheme : GoString
  hostname : GoString
  port : Int
  deriving DecidableEq, Repr

/-- The port of a scheme, of Go `net/http`. -/
def defaultPort (scheme : GoString) : Int := if scheme = lit "https" then 443 else 80

/-- The port at which the transport dials a URL. -/
def portNumber (u : URL) : Int := if u.port = [] then defaultPort u.scheme else atoi u.port

/-- The upstream of a request with a URL. -/
def upstream (u : URL) : Upstream where
  scheme := u.scheme
  hostname := u.hostname.map toLower
  port := portNumber u

/-- The URL that the `Director` of `ServeHTTP` makes of the URL of a request. -/
def directed (target : URL) (result : ResolveResult) (u : URL) : URL :=
  { u with scheme := target.scheme, host := target.host, urlPath := director result u.urlPath }

/-- The URL that `probe` makes of a target and the path of the check. -/
def probed (target path : URL) : URL :=
  { target with urlPath := path.urlPath, rawQuery := [], fragment := [] }

/-- A request for a route, or a probe of it, goes to an upstream. -/
def LeadsTo (route : Route) (o : Upstream) : Prop :=
  ∃ target, URL.parse route.target = some target ∧
    ((∃ result u, upstream (directed target result u) = o) ∨
      ∃ path, upstream (probed target path) = o)

/-- Two members of a pool under one host never lead to the same upstream. -/
def DistinctUpstreams (routes : List Route) : Prop :=
  routes.Pairwise fun a b => a.backendPool ≠ [] → b.backendPool = a.backendPool →
    b.hostname = a.hostname → ¬ ∃ o, LeadsTo a o ∧ LeadsTo b o

/-- The authority of a target, as text. -/
def authorityText (target : GoString) : GoString :=
  (target.drop ((target.takeWhile (· ≠ 58)).length + 3)).takeWhile isAuthority

/-- What a target spells: the scheme up to the first colon, and the authority after the slashes,
with its bytes decoded. -/
def spelled (target : GoString) : URL where
  scheme := (target.takeWhile (· ≠ 58)).map toLower
  host := decoded (authorityText target)

/-- Two targets differ at most in letter case, in how bytes are encoded, in how the port is written
(left out, empty, after zeros), in brackets, and in what follows the authority. -/
def Respelled (target other : GoString) : Prop :=
  (spelled target).scheme = (spelled other).scheme ∧
    (spelled target).hostname.map toLower = (spelled other).hostname.map toLower ∧
    portNumber (spelled target) = portNumber (spelled other)

instance : DecidableRel Respelled := fun _ _ => inferInstanceAs (Decidable (_ ∧ _ ∧ _))

/-- No two targets of a list spell the same. -/
def SpelledApart (f : FileProvider) (parsed : RoutesFile) : Prop :=
  ∀ r ∈ parsed.routes, ∀ targets, r.targets = some targets →
    targets.Pairwise fun value other =>
      ¬ Respelled (f.resolveTarget URL value) (f.resolveTarget URL other)

lemma leadsTo_iff {route : Route} {u : URL} (parsed : URL.parse route.target = some u)
    (o : Upstream) : LeadsTo route o ↔ upstream u = o := by
  constructor
  · rintro ⟨target, same, leads⟩
    rw [parsed] at same
    cases same
    rcases leads with ⟨result, v, leads⟩ | ⟨path, leads⟩
    · exact leads
    · exact leads
  · intro leads
    exact ⟨u, parsed, .inr ⟨u, leads⟩⟩

lemma respelled_iff {target other : GoString} :
    Respelled target other ↔ upstream (spelled target) = upstream (spelled other) := by
  rw [Respelled, upstream, upstream, Upstream.mk.injEq]

/-- A target spells the upstream it leads to. -/
lemma upstream_spelled {target : GoString} {u : URL} (parsed : URL.parse target = some u)
    (some_scheme : u.scheme ≠ []) (some_host : u.host ≠ []) (no_user : u.user = none) :
    upstream u = upstream (spelled target) := by
  obtain ⟨scheme, rest, rfl, named⟩ := URL.parse_split parsed some_scheme some_host
  obtain ⟨scheme_eq, authority⟩ := URL.parse_authority named parsed
  have front : (scheme ++ schemeEnd ++ rest).takeWhile (· ≠ 58) = scheme := by
    have colon : schemeEnd ++ rest = 58 :: (lit "//" ++ rest) := rfl
    rw [List.append_assoc, colon, takeWhile_sep (all_free named.bytes (by decide))]
  have back : (scheme ++ schemeEnd ++ rest).drop (scheme.length + 3) = rest := by
    have length : scheme.length + 3 = (scheme ++ schemeEnd).length := by
      rw [List.length_append]
      rfl
    rw [length, List.drop_left]
  have host : u.host = decoded (rest.takeWhile isAuthority) := by
    rw [no_user] at authority
    exact parseHost_decoded (parseHost_of_authority authority)
  have text : upstream u = upstream { scheme := u.scheme, host := u.host } := rfl
  rw [text, spelled, authorityText, front, back, scheme_eq, host]

section
variable {f : FileProvider} {pkg : Packages}

/-- What a target of an accepted entry leads to. -/
lemma EntryOk.leadsTo {r : StaticRouteConfig} (ok : EntryOk URL f r) {index : Nat} {route : Route}
    (member : route ∈ f.entryRoutes URL index r) (o : Upstream) :
    LeadsTo route o ↔ upstream (spelled route.target) = o := by
  obtain ⟨value, listed, _, _, rfl⟩ := FileProvider.mem_entryRoutes member
  obtain ⟨u, parsed, scheme, hostname, user, _⟩ := ok.target value listed
  have some_scheme : u.scheme ≠ [] := by
    rintro none
    rcases scheme with http | https
    · exact absurd (none.symm.trans http) (by decide)
    · exact absurd (none.symm.trans https) (by decide)
  have some_host : u.host ≠ [] := by
    intro none
    refine hostname ?_
    change u.hostPort.1 = []
    rw [URL.hostPort, none]
    rfl
  rw [leadsTo_iff parsed,
    upstream_spelled parsed some_scheme some_host (Option.map_eq_none_iff.mp user)]

/-- What tells the members of pools apart upstream. -/
def memberUpstream (route : Route) : GoString × GoString × Upstream :=
  (route.backendPool, route.hostname, upstream (spelled route.target))

/-- The members of the pools of a list of routes are apart upstream. -/
lemma distinctUpstreams_iff {routes : List Route}
    (leads : ∀ route ∈ routes, ∀ o, LeadsTo route o ↔ upstream (spelled route.target) = o) :
    DistinctUpstreams routes ↔
      ((routes.filter fun route => route.backendPool ≠ []).map memberUpstream).Nodup := by
  rw [List.Nodup, List.pairwise_map, List.pairwise_filter]
  refine List.Pairwise.iff_of_mem fun {a b} a_member b_member => ?_
  have common : (∃ o, LeadsTo a o ∧ LeadsTo b o) ↔ Respelled a.target b.target := by
    simp only [leads a a_member, leads b b_member, exists_eq_left', respelled_iff]
    exact eq_comm
  rw [common]
  simp only [memberUpstream, ne_eq, decide_eq_true_eq, Prod.mk.injEq, not_and, ← respelled_iff]
  constructor
  · intro apart pooled _ pool hostname
    exact apart pooled pool.symm hostname.symm
  · intro apart pooled pool hostname
    exact apart pooled (pool ▸ pooled) pool.symm hostname.symm

/-- The members of one entry are apart when its targets are. -/
lemma entry_apart {r : StaticRouteConfig} (named : r.names ≠ []) (index : Nat) :
    (((f.entryRoutes URL index r).filter fun route => route.backendPool ≠ []).map
        memberUpstream).Nodup ↔
      ∀ targets, r.targets = some targets →
        targets.Pairwise fun value other =>
          ¬ Respelled (f.resolveTarget URL value) (f.resolveTarget URL other) := by
  cases listed : r.targets with
  | none =>
    have pool := (StaticRouteConfig.single listed).2 index
    have none_pooled : (f.entryRoutes URL index r).filter (fun route => route.backendPool ≠ []) =
        [] := by
      refine List.filter_eq_nil_iff.mpr fun route member => ?_
      obtain ⟨_, _, _, _, rfl⟩ := FileProvider.mem_entryRoutes member
      simp [pool]
    rw [none_pooled]
    exact iff_of_true List.nodup_nil nofun
  | some targets =>
    have pool := StaticRouteConfig.pool_ne_nil listed index
    have values := (StaticRouteConfig.listed listed).1
    have all_pooled : (f.entryRoutes URL index r).filter (fun route => route.backendPool ≠ []) =
        f.entryRoutes URL index r := by
      refine List.filter_eq_self.mpr fun route member => ?_
      obtain ⟨_, _, _, _, rfl⟩ := FileProvider.mem_entryRoutes member
      simpa using pool
    have routes : (f.entryRoutes URL index r).map memberUpstream =
        targets.flatMap fun value => r.names.map fun hostname =>
          (r.pool index, hostname, upstream (spelled (f.resolveTarget URL value))) := by
      rw [FileProvider.entryRoutes, values, List.map_flatMap, List.flatMap_map]
      refine List.flatMap_congr fun value _ => ?_
      rw [List.map_map]
      rfl
    rw [all_pooled, routes, List.nodup_flatMap]
    have here (value : Value) : (r.names.map fun hostname =>
        (r.pool index, hostname, upstream (spelled (f.resolveTarget URL value)))).Nodup := by
      refine r.names_nodup.map fun name name' same => ?_
      exact congrArg (fun id : GoString × GoString × Upstream => id.2.1) same
    constructor
    · rintro ⟨_, apart⟩ _ same
      cases same
      refine apart.imp fun {value value'} disjoint same => ?_
      obtain ⟨name, names, some_name⟩ := List.exists_cons_of_ne_nil named
      have inside : name ∈ r.names := some_name ▸ List.mem_cons_self
      refine disjoint (List.mem_map_of_mem inside) ?_
      rw [respelled_iff.mp same]
      exact List.mem_map_of_mem inside
    · intro apart
      refine ⟨fun value _ => here value, ?_⟩
      refine (apart targets rfl).imp fun {value value'} differ id a b => ?_
      obtain ⟨_, _, rfl⟩ := List.mem_map.mp a
      obtain ⟨_, _, same⟩ := List.mem_map.mp b
      refine differ (respelled_iff.mpr ?_)
      exact (congrArg (fun id : GoString × GoString × Upstream => id.2.2) same).symm

/-- The members of different entries are apart already. -/
lemma entries_apart {entries : List StaticRouteConfig} (named : ∀ r ∈ entries, r.names ≠ [])
    (index : Nat) :
    (((f.entriesRoutes URL index entries).filter fun route => route.backendPool ≠ []).map
        memberUpstream).Nodup ↔
      ∀ r ∈ entries, ∀ targets, r.targets = some targets →
        targets.Pairwise fun value other =>
          ¬ Respelled (f.resolveTarget URL value) (f.resolveTarget URL other) := by
  induction entries generalizing index with
  | nil => exact iff_of_true List.nodup_nil (List.forall_mem_nil _)
  | cons r entries ih =>
    have disjoint : List.Disjoint
        (((f.entryRoutes URL index r).filter fun route => route.backendPool ≠ []).map
          memberUpstream)
        (((f.entriesRoutes URL (index + 1) entries).filter fun route => route.backendPool ≠ []).map
          memberUpstream) := by
      intro id first later
      obtain ⟨a, a_member, rfl⟩ := List.mem_map.mp first
      obtain ⟨b, b_member, same⟩ := List.mem_map.mp later
      obtain ⟨a_member, pooled⟩ := List.mem_filter.mp a_member
      obtain ⟨i, r', _, b_member⟩ := FileProvider.mem_entriesRoutes (List.mem_filter.mp b_member).1
      obtain ⟨_, _, _, _, rfl⟩ := FileProvider.mem_entryRoutes a_member
      obtain ⟨_, _, _, _, rfl⟩ := FileProvider.mem_entryRoutes b_member
      have index_eq := StaticRouteConfig.pool_inj (by simpa using pooled) (congrArg Prod.fst same)
      omega
    rw [FileProvider.entriesRoutes_cons, List.filter_append, List.map_append, List.nodup_append',
      entry_apart (named r List.mem_cons_self),
      ih fun r' member => named r' (List.mem_cons_of_mem r member), List.forall_mem_cons]
    exact ⟨fun ⟨first, later, _⟩ => ⟨first, later⟩, fun ⟨first, later⟩ => ⟨first, later, disjoint⟩⟩

/-- The members of every pool of an accepted file lead to different upstreams exactly when the
targets of each list are spelled apart. -/
theorem distinct_iff {read : Except GoString GoString} {parsed : RoutesFile}
    (decoded : read.bind (FileProvider.parseDocument pkg) = .ok parsed)
    (accepted : (f.loadFile URL pkg read).err = none) :
    DistinctUpstreams (f.loadFile URL pkg read).routes ↔ SpelledApart f parsed := by
  obtain ⟨checked, same⟩ := FileProvider.loadFile_accepted accepted
  obtain ⟨ok, routes, _⟩ := FileProvider.check_accepted decoded checked
  rw [same, routes, distinctUpstreams_iff, FileProvider.documentRoutes,
    entries_apart (fun r member => (ok.entries r member).named), SpelledApart]
  intro route member
  obtain ⟨i, r, found, inside⟩ := FileProvider.documentRoutes_entry member
  exact (ok.entries r (List.mem_of_getElem? found)).leadsTo inside

end

theorem distinct_ports : DistinctUpstreams
    (FileProvider.loadFile URL ⟨lit "127.0.0.1"⟩
      (poolPackages "http://b.lvh.me:8000" "http://b.lvh.me:8001")
      (.ok (poolFile "http://b.lvh.me:8000" "http://b.lvh.me:8001"))).routes := by
  have decoded : (Except.ok (poolFile "http://b.lvh.me:8000" "http://b.lvh.me:8001")).bind
      (FileProvider.parseDocument (poolPackages "http://b.lvh.me:8000" "http://b.lvh.me:8001")) =
        .ok (poolDocument "http://b.lvh.me:8000" "http://b.lvh.me:8001") := rfl
  refine (distinct_iff decoded (by decide)).mpr ?_
  intro r member targets listed
  cases List.mem_singleton.mp member
  cases listed
  decide

/-- A trailing slash makes a second replica of the same upstream. -/
theorem slash_replica : ¬ ∀ (f : FileProvider) (pkg : Packages) (read : Except GoString GoString),
    (f.loadFile URL pkg read).err = none →
      DistinctUpstreams (f.loadFile URL pkg read).routes := by
  intro distinct
  have apart := distinct ⟨lit "127.0.0.1"⟩ (poolPackages "http://b.lvh.me" "http://b.lvh.me/")
    (.ok (poolFile "http://b.lvh.me" "http://b.lvh.me/")) (by decide)
  let member (target : String) : Route :=
    { hostname := lit "a.lvh.me"
      path := lit "/"
      target := lit target
      backendPool := lit "static:0"
      health := none
      stripPath := false
      source := lit "static" }
  have routes : (FileProvider.loadFile URL ⟨lit "127.0.0.1"⟩
      (poolPackages "http://b.lvh.me" "http://b.lvh.me/")
      (.ok (poolFile "http://b.lvh.me" "http://b.lvh.me/"))).routes =
        [member "http://b.lvh.me", member "http://b.lvh.me/"] := by
    decide
  rw [routes] at apart
  have apart := (List.pairwise_pair.mp apart) (by decide) rfl rfl
  have bare : URL.parse (lit "http://b.lvh.me") =
      some { scheme := lit "http", host := lit "b.lvh.me" } := by decide
  have slash : URL.parse (lit "http://b.lvh.me/") =
      some { scheme := lit "http", host := lit "b.lvh.me", urlPath := { path := lit "/" } } := by
    decide
  exact apart ⟨⟨lit "http", lit "b.lvh.me", 80⟩, (leadsTo_iff bare _).mpr (by decide),
    (leadsTo_iff slash _).mpr (by decide)⟩

end Pintle.File
