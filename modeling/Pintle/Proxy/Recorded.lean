import Pintle.Go.NetUrl
import Pintle.Router.Resolve
import Pintle.Stats.Collector

/-!
# What the proxy records

Model of `ServeHTTP` of `internal/proxy/proxy.go` with the records it makes and the errors it writes.
`httputil.ReverseProxy` is outside the repository: what a forwarded request comes to (`Exchange`)
decides which of the two callbacks it makes (`Exchange.callbacks`).

Every record has the request's hostname and path (`serveHTTP_records`). A target that does not parse
is answered without a record, and an upgrade that fails behind its response is recorded twice
(`recorded_once_iff`).
-/

namespace Pintle
open Go Stats

/-- What Go `ServeHTTP` reads of a request. -/
structure ProxyRequest where
  method : GoString
  host : GoString
  path : GoString
  deriving DecidableEq, Repr

/-- The hostname of a request (Go `strings.Split(r.Host, ":")[0]`). -/
def requestHostname (host : GoString) : GoString := host.takeWhile (· ≠ 58)

/-- The readings of the clock for a record: the time, and how long the request has taken. -/
structure Reading where
  timestamp : Int
  durationMs : ℚ

/-- The calls of the two callbacks of Go `ServeHTTP`. -/
inductive Callback where
  | errorHandler (clock : Reading)
  | modifyResponse (status : Int) (clock : Reading)

/-- What a forwarded request comes to. -/
inductive Exchange where
  | transportError (failed : Reading)
  | response (status : Int) (received : Reading)
  | failedUpgrade (switched failed : Reading)

/-- The callbacks that `httputil.ReverseProxy` makes. -/
def Exchange.callbacks : Exchange → List Callback
  | .transportError failed => [.errorHandler failed]
  | .response status received => [.modifyResponse status received]
  | .failedUpgrade switched failed => [.modifyResponse 101 switched, .errorHandler failed]

/-- Whether a protocol upgrade fails after its response. -/
def Exchange.upgradeFails : Exchange → Bool
  | .failedUpgrade _ _ => true
  | _ => false

/-- The record of a request. -/
def ProxyRequest.record (req : ProxyRequest) (target : GoString) (status : Int) (clock : Reading) :
    RequestRecord where
  timestamp := clock.timestamp
  method := req.method
  hostname := requestHostname req.host
  path := req.path
  target := target
  status := status
  durationMs := clock.durationMs

/-- The router and the collector after a request, and the calls of Go `http.Error`. -/
structure Served (ρ : Type) where
  router : Router ρ
  stats : Collector
  errors : List (GoString × Int) := []

namespace Served
variable {ρ : Type}

/-- The callbacks of Go `ServeHTTP`. -/
def callback (req : ProxyRequest) (result : ResolveResult) (s : Served ρ) : Callback → Served ρ
  | .errorHandler clock =>
    { s with
      stats := s.stats.record (req.record result.target 502 clock)
      errors := s.errors ++ [(lit "Upstream unreachable: " ++ result.target, 502)] }
  | .modifyResponse status clock =>
    { s with stats := s.stats.record (req.record result.target status clock) }

end Served

/-- Go `ServeHTTP`. -/
def serveHTTP {ρ : Type} [Regexp ρ] (rtr : Router ρ) (stats : Collector) (req : ProxyRequest)
    (timestamp : Int) (exchange : Exchange) : Served ρ :=
  let hostname := requestHostname req.host
  match rtr.resolve hostname req.path with
  | (none, router) =>
    { router
      stats := stats.record (req.record (lit "none") 404 ⟨timestamp, 0⟩)
      errors := [(lit "No route for " ++ hostname, 404)] }
  | (some result, router) =>
    if result.unavailable then
      { router
        stats := stats.record (req.record (lit "none") 503 ⟨timestamp, 0⟩)
        errors := [(lit "No healthy backend available", 503)] }
    else
      match URL.parse result.target with
      | none => { router, stats, errors := [(lit "Invalid target URL", 502)] }
      | some _ => exchange.callbacks.foldl (Served.callback req result) { router, stats }

/-- One record of the request was added to a collector. -/
def RecordedOnce (req : ProxyRequest) (stats stats' : Collector) : Prop :=
  ∃ r : RequestRecord, r.hostname = requestHostname req.host ∧ r.path = req.path ∧
    stats' = stats.record r

/-- A selected target parses, and the exchange with it is not an upgrade that fails after its
response. -/
def Forwardable {ρ : Type} [Regexp ρ] (rtr : Router ρ) (req : ProxyRequest) (exchange : Exchange) :
    Prop :=
  ∀ result, (rtr.resolve (requestHostname req.host) req.path).1 = some result →
    result.unavailable = false →
      (URL.parse result.target).isSome = true ∧ exchange.upgradeFails = false

/-- The requests recorded for a host. -/
def hostTotal (c : Collector) (host : GoString) : Nat :=
  ((c.hostStats.lookup host).map (·.totalRequests)).getD 0

/-- A record counts for its host. -/
lemma hostTotal_record {c : Collector} {r : RequestRecord} (counted : r.hostname ≠ c.dashboardHost) :
    hostTotal (c.record r) r.hostname = hostTotal c r.hostname + 1 := by
  rw [Collector.record, if_neg counted, hostTotal, hostTotal]
  simp only [AList.lookup_insert, Option.map_some, Option.getD_some, updateStats]
  cases c.hostStats.lookup r.hostname <;> rfl

/-- As many records as were made are counted. -/
lemma hostTotal_foldl {c : Collector} {host : GoString} (counted : host ≠ c.dashboardHost)
    {records : List RequestRecord} (own : ∀ r ∈ records, r.hostname = host) :
    hostTotal (records.foldl Collector.record c) host = hostTotal c host + records.length := by
  induction records generalizing c with
  | nil => rfl
  | cons r records ih =>
    have here := own r List.mem_cons_self
    have next : host ≠ (c.record r).dashboardHost := by
      rw [Collector.record_dashboardHost]
      exact counted
    rw [List.foldl_cons, ih next fun r' member => own r' (List.mem_cons_of_mem r member), ← here,
      hostTotal_record (by rw [here]; exact counted), List.length_cons]
    omega

/-- A list of records of a request adds one record exactly when it has one. -/
lemma recordedOnce_foldl {req : ProxyRequest} {stats : Collector}
    (other : requestHostname req.host ≠ stats.dashboardHost) {records : List RequestRecord}
    (own : ∀ r ∈ records, r.hostname = requestHostname req.host ∧ r.path = req.path) :
    RecordedOnce req stats (records.foldl Collector.record stats) ↔ records.length = 1 := by
  constructor
  · rintro ⟨r, host, path, same⟩
    have total := hostTotal_foldl other fun r' member => (own r' member).1
    have once := hostTotal_record (c := stats) (r := r) (by rw [host]; exact other)
    rw [host] at once
    rw [same, once] at total
    omega
  · intro single
    obtain ⟨r, rfl⟩ := List.length_eq_one_iff.mp single
    obtain ⟨host, path⟩ := own r List.mem_cons_self
    exact ⟨r, host, path, rfl⟩

/-- What the callbacks of an exchange record. -/
lemma callbacks_records {ρ : Type} (req : ProxyRequest) (result : ResolveResult)
    (exchange : Exchange) (s : Served ρ) :
    ∃ records : List RequestRecord,
      (∀ r ∈ records, r.hostname = requestHostname req.host ∧ r.path = req.path) ∧
      (exchange.callbacks.foldl (Served.callback req result) s).stats =
        records.foldl Collector.record s.stats ∧
      (records.length = 1 ↔ exchange.upgradeFails = false) := by
  cases exchange with
  | transportError failed =>
    refine ⟨[req.record result.target 502 failed], ?_, rfl, iff_of_true rfl rfl⟩
    intro r member
    rw [List.mem_singleton.mp member]
    exact ⟨rfl, rfl⟩
  | response status received =>
    refine ⟨[req.record result.target status received], ?_, rfl, iff_of_true rfl rfl⟩
    intro r member
    rw [List.mem_singleton.mp member]
    exact ⟨rfl, rfl⟩
  | failedUpgrade switched failed =>
    refine ⟨[req.record result.target 101 switched, req.record result.target 502 failed], ?_, rfl,
      iff_of_false (by simp) (by simp [Exchange.upgradeFails])⟩
    intro r member
    rcases List.mem_pair.mp member with rfl | rfl
    · exact ⟨rfl, rfl⟩
    · exact ⟨rfl, rfl⟩

/-- Every run makes a list of records of its request, and one record exactly when a selected target
can be forwarded to. -/
lemma serveHTTP_records {ρ : Type} [Regexp ρ] (rtr : Router ρ) (stats : Collector)
    (req : ProxyRequest) (timestamp : Int) (exchange : Exchange) :
    ∃ records : List RequestRecord,
      (∀ r ∈ records, r.hostname = requestHostname req.host ∧ r.path = req.path) ∧
      (serveHTTP rtr stats req timestamp exchange).stats = records.foldl Collector.record stats ∧
      (records.length = 1 ↔ Forwardable rtr req exchange) := by
  have refused (status : Int) : ∃ records : List RequestRecord,
      (∀ r ∈ records, r.hostname = requestHostname req.host ∧ r.path = req.path) ∧
      stats.record (req.record (lit "none") status ⟨timestamp, 0⟩) =
        records.foldl Collector.record stats ∧ records.length = 1 := by
    refine ⟨[req.record (lit "none") status ⟨timestamp, 0⟩], ?_, rfl, rfl⟩
    intro r member
    rw [List.mem_singleton.mp member]
    exact ⟨rfl, rfl⟩
  unfold serveHTTP Forwardable
  dsimp only
  split
  · rename_i router unrouted
    obtain ⟨records, own, added, single⟩ := refused 404
    rw [unrouted]
    exact ⟨records, own, added, iff_of_true single nofun⟩
  · rename_i result router routed
    rw [routed]
    simp only [Option.some.injEq, forall_eq']
    cases refusal : result.unavailable with
    | true =>
      obtain ⟨records, own, added, single⟩ := refused 503
      exact ⟨records, own, added, iff_of_true single nofun⟩
    | false =>
      simp only [Bool.false_eq_true, if_false, forall_const]
      cases URL.parse result.target with
      | none => exact ⟨[], nofun, rfl, iff_of_false nofun nofun⟩
      | some target =>
        obtain ⟨records, own, added, single⟩ := callbacks_records req result exchange
          { router, stats }
        exact ⟨records, own, added, by simpa using single⟩

/-- A request for another host than the dashboard is recorded once exactly when no target is selected
for it or the selected one parses and no upgrade fails after its response. -/
theorem recorded_once_iff {ρ : Type} [Regexp ρ] (rtr : Router ρ) (stats : Collector)
    (req : ProxyRequest) (timestamp : Int) (exchange : Exchange)
    (other : requestHostname req.host ≠ stats.dashboardHost) :
    RecordedOnce req stats (serveHTTP rtr stats req timestamp exchange).stats ↔
      Forwardable rtr req exchange := by
  obtain ⟨records, own, added, single⟩ := serveHTTP_records rtr stats req timestamp exchange
  rw [added, recordedOnce_foldl other own, single]

/-- A router with one route. -/
def oneRoute (target : String) : Router Empty :=
  Router.new.update .stored
    [{ hostname := lit "app.lvh.me", path := lit "/", target := lit target }]

/-- A request for its host. -/
def toApp : ProxyRequest := { method := lit "GET", host := lit "app.lvh.me:8443", path := lit "/" }

/-- A request that is answered by its upstream is recorded once. -/
theorem recorded_once_response :
    RecordedOnce toApp (.new (lit "pintle.lvh.me"))
      (serveHTTP (oneRoute "http://a:80") (.new (lit "pintle.lvh.me")) toApp 1
        (.response 200 ⟨1, 0⟩)).stats :=
  (recorded_once_iff (oneRoute "http://a:80") (.new (lit "pintle.lvh.me")) toApp 1
    (.response 200 ⟨1, 0⟩) (by decide)).mpr (by
      intro result found _
      have routed : ((oneRoute "http://a:80").resolve (requestHostname toApp.host) toApp.path).1 =
          some { target := lit "http://a:80"
                 rewrittenPath := lit "/"
                 route := { hostname := lit "app.lvh.me", path := lit "/"
                            target := lit "http://a:80" } } := by decide
      rw [routed] at found
      cases found
      exact ⟨by decide, rfl⟩)

/-- An upgrade that fails after its response is recorded twice, and a target that does not parse is
not recorded. -/
theorem recorded_twice_or_never :
    ¬RecordedOnce toApp (.new (lit "pintle.lvh.me"))
        (serveHTTP (oneRoute "http://a:80") (.new (lit "pintle.lvh.me")) toApp 1
          (.failedUpgrade ⟨1, 0⟩ ⟨2, 0⟩)).stats ∧
      ¬RecordedOnce toApp (.new (lit "pintle.lvh.me"))
        (serveHTTP (oneRoute "http://a:b") (.new (lit "pintle.lvh.me")) toApp 1
          (.response 200 ⟨1, 0⟩)).stats := by
  have unforwarded (target : String) (exchange : Exchange)
      (broken : (URL.parse (lit target)).isSome = false ∨ exchange.upgradeFails = true)
      (routed : ((oneRoute target).resolve (requestHostname toApp.host) toApp.path).1 =
        some { target := lit target
               rewrittenPath := lit "/"
               route := { hostname := lit "app.lvh.me", path := lit "/", target := lit target } }) :
      ¬RecordedOnce toApp (.new (lit "pintle.lvh.me"))
        (serveHTTP (oneRoute target) (.new (lit "pintle.lvh.me")) toApp 1 exchange).stats := by
    obtain ⟨records, own, added, single⟩ := serveHTTP_records (oneRoute target)
      (.new (lit "pintle.lvh.me")) toApp 1 exchange
    rw [added, recordedOnce_foldl (by decide) own, single]
    intro forwardable
    have forwarded := forwardable _ routed rfl
    rcases broken with unparsed | fails
    · rw [unparsed] at forwarded
      cases forwarded.1
    · rw [fails] at forwarded
      cases forwarded.2
  constructor
  · exact unforwarded "http://a:80" _ (.inr rfl) (by decide)
  · exact unforwarded "http://a:b" _ (.inl (by decide)) (by decide)

end Pintle
