import Mathlib.Algebra.Order.Field.Rat
import Mathlib.Tactic.FieldSimp
import Pintle.Go.Strings
import Pintle.Lib.Tally

/-!
# The statistics collector

Model of `internal/stats/stats.go` without the start time. A duration is a rational number, so the
running mean is exact. A count is a natural number, which is Go's `int` below 2^63.

The collector keeps a window of the requests and running statistics of all of them. Whatever was
recorded, it answers from the log of the recorded requests (`Collector.Summarizes`,
`record_summarizes`): the statistics of a host or of an edge are those of its part of the log
(`summary`). An edge is found under the hostname, an arrow and the target, which is unambiguous
without an arrow in the hostname (`arrow_inj`).
-/

namespace Pintle.Stats
open Go Lib

/-- Go `RequestRecord`. -/
structure RequestRecord where
  timestamp : Int
  method : GoString
  hostname : GoString
  path : GoString
  target : GoString
  status : Int
  durationMs : ℚ
  deriving DecidableEq, Repr

/-- Go `RouteStats`. -/
structure RouteStats where
  totalRequests : Nat := 0
  errorCount : Nat := 0
  avgDurationMs : ℚ := 0
  lastRequestAt : Int := 0
  deriving DecidableEq, Repr

/-- Go `maxBufferSize`. -/
def maxBufferSize : Nat := 1000

/-- Go `Collector`, without its mutex and start time. -/
structure Collector where
  buffer : List RequestRecord
  hostStats : GoMap GoString RouteStats
  edgeStats : GoMap GoString RouteStats
  dashboardHost : GoString

/-- Go `updateStats`. -/
def updateStats (stats : RouteStats) (record : RequestRecord) : RouteStats :=
  let total := stats.totalRequests + 1
  { totalRequests := total
    errorCount := if record.status ≥ 400 then stats.errorCount + 1 else stats.errorCount
    avgDurationMs := (stats.avgDurationMs * stats.totalRequests + record.durationMs) / total
    lastRequestAt := record.timestamp }

/-- The key of an edge. -/
def edgeKey (record : RequestRecord) : GoString := record.hostname ++ lit "->" ++ record.target

namespace Collector

/-- Go `NewCollector`. -/
def new (dashboardHost : GoString) : Collector where
  buffer := []
  hostStats := ∅
  edgeStats := ∅
  dashboardHost := dashboardHost

/-- Go `Record`. -/
def record (c : Collector) (record : RequestRecord) : Collector :=
  if record.hostname = c.dashboardHost then c
  else
    let buffer := c.buffer ++ [record]
    let hs := (c.hostStats.lookup record.hostname).getD {}
    let es := (c.edgeStats.lookup (edgeKey record)).getD {}
    { c with
      buffer := if buffer.length > maxBufferSize then buffer.drop 1 else buffer
      hostStats := c.hostStats.insert record.hostname (updateStats hs record)
      edgeStats := c.edgeStats.insert (edgeKey record) (updateStats es record) }

/-- Go `GetRecentRequests`. -/
def getRecentRequests (c : Collector) (limit : Int) : List RequestRecord :=
  let limit := if limit ≤ 0 then 50 else limit
  let start := (c.buffer.length : Int) - limit
  let start := if start < 0 then 0 else start
  (c.buffer.drop start.toNat).reverse

/-- Go `GetHostStats`. -/
def getHostStats (c : Collector) : GoMap GoString RouteStats := c.hostStats

/-- Go `GetEdgeStats`. -/
def getEdgeStats (c : Collector) : GoMap GoString RouteStats := c.edgeStats

/-- Go `GetTotalRequests`, over the hosts in the order they are visited. -/
def getTotalRequests (ord : RangeOrder (GoString × RouteStats)) (c : Collector) : Nat :=
  (ord.visit c.hostStats.pairs).foldl (fun total s => total + s.2.totalRequests) 0

end Collector

/-- The statistics of a list of requests. -/
def summary (log : List RequestRecord) : RouteStats where
  totalRequests := log.length
  errorCount := log.countP fun r => 400 ≤ r.status
  avgDurationMs := (log.map (·.durationMs)).sum / log.length
  lastRequestAt := (log.getLast?.map (·.timestamp)).getD 0

/-- The statistics of some requests, if there are any. -/
def summaryOf (log : List RequestRecord) : Option RouteStats :=
  if log = [] then none else some (summary log)

/-- A hostname that does not hold the separator of edge keys. -/
def ArrowFree (hostname : GoString) : Prop := contains hostname (lit "->") = false

instance (hostname : GoString) : Decidable (ArrowFree hostname) :=
  inferInstanceAs (Decidable (_ = _))

/-- The collector answers from a log. -/
structure Collector.Summarizes (c : Collector) (log : List RequestRecord) : Prop where
  recent : ∀ limit, c.getRecentRequests limit =
    log.reverse.take (min (if limit ≤ 0 then 50 else limit.toNat) 1000)
  hosts : ∀ host, c.getHostStats.lookup host = summaryOf (log.filter (·.hostname = host))
  edges : ∀ host target, ArrowFree host → c.getEdgeStats.lookup (host ++ lit "->" ++ target) =
    summaryOf (log.filter fun r => r.hostname = host ∧ r.target = target)
  edge_keys : ∀ key stats, c.getEdgeStats.lookup key = some stats → ∃ r ∈ log, key = edgeKey r
  host_edges : ∀ host, ArrowFree host →
    ((c.getEdgeStats.pairs.filter fun e => hasPrefix e.1 (host ++ lit "->")).map
      (·.2.totalRequests)).sum = ((c.getHostStats.lookup host).map (·.totalRequests)).getD 0
  total : ∀ ord, c.getTotalRequests ord = log.length

lemma contains_cons (b : UInt8) (s sub : GoString) :
    contains (b :: s) sub = (hasPrefix (b :: s) sub || contains s sub) := rfl

/-- The first arrow ends the hostname. -/
lemma arrow_inj {host host' target target' : GoString} (free : ArrowFree host)
    (free' : ArrowFree host') (same : host ++ lit "->" ++ target = host' ++ lit "->" ++ target') :
    host = host' ∧ target = target' := by
  -- an arrow that begins in one of the hosts is whole in the other one
  have inside {b : UInt8} {host rest rest' : GoString} (free : ArrowFree (b :: host))
      (same : lit "->" ++ rest = b :: host ++ lit "->" ++ rest') : False := by
    obtain ⟨rfl, tail⟩ := List.cons.inj same
    cases host with
    | nil => cases (List.cons.inj tail).1
    | cons c host =>
      obtain ⟨rfl, _⟩ := List.cons.inj tail
      cases free
  induction host generalizing host' with
  | nil =>
    cases host' with
    | nil => exact ⟨rfl, List.append_cancel_left same⟩
    | cons b host' => exact (inside free' same).elim
  | cons a host ih =>
    cases host' with
    | nil => exact (inside free same.symm).elim
    | cons b host' =>
      rw [ArrowFree, contains_cons, Bool.or_eq_false_iff] at free free'
      obtain ⟨rfl, tail⟩ := List.cons.inj same
      obtain ⟨rfl, targets⟩ := ih free.2 free'.2 tail
      exact ⟨rfl, targets⟩

/-- The running statistics are those of the requests. -/
lemma foldl_updateStats (log : List RequestRecord) : log.foldl updateStats {} = summary log := by
  induction log using List.reverseRecOn with
  | nil => simp [summary]
  | append_singleton log r ih =>
    have mean : (log.map (·.durationMs)).sum / log.length * log.length =
        (log.map (·.durationMs)).sum := by
      cases log with
      | nil => simp
      | cons first rest =>
        apply div_mul_cancel₀
        exact_mod_cast Nat.succ_ne_zero rest.length
    rw [List.foldl_append, ih, List.foldl_cons, List.foldl_nil, updateStats, summary, summary]
    dsimp only
    rw [mean]
    by_cases error : 400 ≤ r.status
    · simp [List.countP_append, error]
    · simp [List.countP_append, error]

lemma foldl_tally (key : RequestRecord → GoString) (log : List RequestRecord) (k : GoString) :
    (tally key {} updateStats log).lookup k = summaryOf (log.filter fun r => key r = k) := by
  rw [lookup_tally, foldl_updateStats, summaryOf]

/-- Each request counts once among those with its key. -/
lemma total_log (p : GoString → Bool) (key : RequestRecord → GoString) (log : List RequestRecord) :
    total p (·.totalRequests) (tally key {} updateStats log) =
      (log.filter fun r => p (key r)).length := by
  apply total_tally
  · rfl
  · intro stats r
    rfl

/-- The last entries of a log stay the last ones when one is pushed out. -/
lemma window_push {α : Type} (size : Nat) (log : List α) (r : α) :
    (if (log.drop (log.length - size) ++ [r]).length > size
      then (log.drop (log.length - size) ++ [r]).drop 1 else log.drop (log.length - size) ++ [r]) =
      (log ++ [r]).drop ((log ++ [r]).length - size) := by
  have window : log.drop (log.length - size) ++ [r] = (log ++ [r]).drop (log.length - size) := by
    rw [List.drop_append_of_le_length (Nat.sub_le _ _)]
  rw [window, List.length_drop, List.length_append, List.length_singleton]
  split
  · rw [List.drop_drop]
    congr 1
    omega
  · congr 1
    omega

/-- The newest of the last entries of a log are its newest. -/
lemma window_newest {α : Type} (size limit : Nat) (log : List α) :
    ((log.drop (log.length - size)).drop
      ((log.drop (log.length - size)).length - limit)).reverse = log.reverse.take (min limit size) := by
  rw [List.drop_drop, List.length_drop, List.take_reverse]
  congr 2
  omega

namespace Collector

/-- What the collector holds of a log. -/
structure Folded (c : Collector) (log : List RequestRecord) : Prop where
  buffer : c.buffer = log.drop (log.length - maxBufferSize)
  hostStats : c.hostStats = tally (·.hostname) {} updateStats log
  edgeStats : c.edgeStats = tally edgeKey {} updateStats log

/-- A request for another host than the dashboard is added to the log. -/
lemma Folded.record {c : Collector} {log : List RequestRecord} (folded : c.Folded log)
    {r : RequestRecord} (counted : r.hostname ≠ c.dashboardHost) :
    (c.record r).Folded (log ++ [r]) := by
  rw [Collector.record, if_neg counted]
  refine ⟨?_, ?_, ?_⟩
  · dsimp only
    rw [folded.buffer]
    exact window_push maxBufferSize log r
  · dsimp only
    rw [folded.hostStats, tally_append]
    rfl
  · dsimp only
    rw [folded.edgeStats, tally_append]
    rfl

lemma record_dashboardHost (c : Collector) (r : RequestRecord) :
    (c.record r).dashboardHost = c.dashboardHost := by
  unfold record
  split <;> rfl

/-- The collector holds the log of what was recorded. -/
lemma foldl_record (dashboardHost : GoString) (records : List RequestRecord) :
    (records.foldl record (new dashboardHost)).dashboardHost = dashboardHost ∧
      (records.foldl record (new dashboardHost)).Folded
        (records.filter (·.hostname ≠ dashboardHost)) := by
  induction records using List.reverseRecOn with
  | nil => exact ⟨rfl, List.drop_nil.symm, rfl, rfl⟩
  | append_singleton records r ih =>
    obtain ⟨dashboard, folded⟩ := ih
    rw [List.foldl_append, List.foldl_cons, List.foldl_nil, List.filter_append]
    refine ⟨(record_dashboardHost _ r).trans dashboard, ?_⟩
    by_cases counted : r.hostname = dashboardHost
    · have skipped : (records.foldl record (new dashboardHost)).record r =
          records.foldl record (new dashboardHost) := by
        rw [record, if_pos (counted.trans dashboard.symm)]
      rw [skipped, List.filter_cons_of_neg (by simpa using counted), List.filter_nil,
        List.append_nil]
      exact folded
    · rw [List.filter_cons_of_pos (by simpa using counted), List.filter_nil]
      apply folded.record
      rw [dashboard]
      exact counted

/-- The measures of some entries of a map, as the getters list them. -/
lemma total_pairs (p : GoString → Bool) (m : GoMap GoString RouteStats) :
    ((m.pairs.filter fun e => p e.1).map (·.2.totalRequests)).sum =
      Lib.total p (·.totalRequests) m := by
  rw [GoMap.pairs, List.filter_map, List.map_map]
  rfl

/-- What is held of a log summarizes it. -/
lemma Folded.summarizes {c : Collector} {log : List RequestRecord} (folded : c.Folded log)
    (free : ∀ r ∈ log, ArrowFree r.hostname) : c.Summarizes log where
  recent limit := by
    have positive : 0 < (if limit ≤ 0 then 50 else limit) := by split <;> omega
    have natural : (if limit ≤ 0 then 50 else limit).toNat =
        if limit ≤ 0 then 50 else limit.toNat := by split <;> rfl
    rw [← natural, ← maxBufferSize.eq_def, ← window_newest, ← folded.buffer, getRecentRequests]
    congr 2
    split <;> omega
  hosts host := by
    rw [getHostStats, folded.hostStats, foldl_tally]
  edges host target arrow := by
    rw [getEdgeStats, folded.edgeStats, foldl_tally]
    congr 1
    apply List.filter_congr
    intro r member
    rw [decide_eq_decide, edgeKey]
    constructor
    · intro same
      exact arrow_inj (free r member) arrow same
    · rintro ⟨rfl, rfl⟩
      rfl
  edge_keys key stats found := by
    rw [getEdgeStats, folded.edgeStats, foldl_tally, summaryOf] at found
    split at found
    · cases found
    · rename_i some
      obtain ⟨r, member⟩ := List.exists_mem_of_ne_nil _ some
      obtain ⟨logged, here⟩ := List.mem_filter.mp member
      exact ⟨r, logged, (decide_eq_true_eq.mp here).symm⟩
  host_edges host arrow := by
    have edges : Lib.total (fun key => hasPrefix key (host ++ lit "->")) (·.totalRequests)
        c.edgeStats = (log.filter fun r => hasPrefix (edgeKey r) (host ++ lit "->")).length := by
      rw [folded.edgeStats, total_log]
    have own : log.filter (fun r => hasPrefix (edgeKey r) (host ++ lit "->")) =
        log.filter fun r => r.hostname = host := by
      apply List.filter_congr
      intro r member
      rw [Bool.eq_iff_iff, hasPrefix_iff, decide_eq_true_eq, edgeKey]
      constructor
      · rintro ⟨rest, same⟩
        exact (arrow_inj (free r member) arrow same).1
      · rintro rfl
        exact ⟨r.target, rfl⟩
    rw [getEdgeStats, total_pairs fun key => hasPrefix key (host ++ lit "->"), edges, own,
      getHostStats, folded.hostStats, foldl_tally, summaryOf]
    split
    · rename_i none
      rw [none]
      rfl
    · rfl
  total ord := by
    have visited : c.getTotalRequests ord =
        ((ord.visit c.hostStats.pairs).map (·.2.totalRequests)).sum := by
      rw [getTotalRequests, List.sum_eq_foldl, List.foldl_map]
    have all : c.hostStats.pairs.filter (fun _ => true) = c.hostStats.pairs := List.filter_true _
    rw [visited, ((ord.perm _).map _).sum_eq, ← all, total_pairs fun _ => true, folded.hostStats,
      total_log, List.filter_true]

end Collector

/-- The collector answers from the log of the recorded requests, whatever was recorded. -/
theorem record_summarizes (dashboardHost : GoString) (records : List RequestRecord)
    (free : ∀ r ∈ records, ArrowFree r.hostname) :
    (records.foldl Collector.record (.new dashboardHost)).Summarizes
      (records.filter (·.hostname ≠ dashboardHost)) := by
  apply (Collector.foldl_record dashboardHost records).2.summarizes
  intro r member
  exact free r (List.mem_filter.mp member).1

/-- Three requests for two hosts and one for the dashboard. -/
theorem record_summarizes_three :
    let r (hostname : String) (timestamp : Int) : RequestRecord :=
      ⟨timestamp, lit "GET", lit hostname, lit "/", lit "http://b", 200, 2⟩
    ([r "a" 1, r "pintle" 2, r "b" 3, r "a" 4].foldl Collector.record
      (.new (lit "pintle"))).getTotalRequests .stored = 3 :=
  (record_summarizes (lit "pintle")
    [⟨1, lit "GET", lit "a", lit "/", lit "http://b", 200, 2⟩,
      ⟨2, lit "GET", lit "pintle", lit "/", lit "http://b", 200, 2⟩,
      ⟨3, lit "GET", lit "b", lit "/", lit "http://b", 200, 2⟩,
      ⟨4, lit "GET", lit "a", lit "/", lit "http://b", 200, 2⟩] (by decide)).total .stored

end Pintle.Stats
