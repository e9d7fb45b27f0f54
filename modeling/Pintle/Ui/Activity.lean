import Mathlib.Algebra.Order.Ring.Rat
import Mathlib.Tactic.Linarith
import Pintle.Lib.Comparator
import Pintle.Stats.Collector

/-!
# The table of requests

Model of the rows of `ui/src/pages/ActivityPage.tsx`, with `handleRequests` of `internal/api/api.go`
that it gets them from. A string is as the collector holds it, the comparison of strings
`localeCompare` depends on the locale and is a parameter, and a number is a rational one. A limit is
the value of the query parameter, empty where there is none.

Whatever was recorded, filtered and clicked, the table shows the requests among the last thousand that
pass the filters, in the order of the column that was clicked last and otherwise newest first
(`activity_table`).
-/

namespace Pintle.Activity
open Go Lib Stats
open scoped List

/-- Go `handleRequests`. -/
def handleRequests (c : Collector) (limit : GoString) : List RequestRecord :=
  c.getRecentRequests (if limit = [] then 50 else (parseInt limit).getD 50)

/-- TypeScript `SortKey`. -/
inductive SortKey where
  | time
  | method
  | hostname
  | path
  | status
  | duration
  deriving DecidableEq, Repr

/-- TypeScript `SortDir`. -/
inductive SortDir where
  | asc
  | desc
  deriving DecidableEq, Repr

/-- TypeScript `SortState`. -/
structure SortState where
  key : SortKey
  dir : SortDir
  deriving DecidableEq, Repr

/-- TypeScript `nextSort`. -/
def nextSort (current : SortState) (key : SortKey) : SortState :=
  if current.key ≠ key then { key, dir := if key = .time then .desc else .asc }
  else { key, dir := if current.dir = .asc then .desc else .asc }

/-- The order that the page begins with. -/
def newestFirst : SortState := { key := .time, dir := .desc }

section
variable (localeCompare : GoString → GoString → Int)

/-- TypeScript `compareRequests`. -/
def compareRequests (a b : RequestRecord) (sort : SortState) : ℚ :=
  let dir : ℚ := if sort.dir = .asc then 1 else -1
  match sort.key with
  | .time => (a.timestamp - b.timestamp) * dir
  | .duration => (a.durationMs - b.durationMs) * dir
  | .status => (a.status - b.status) * dir
  | .method => localeCompare a.method b.method * dir
  | .hostname => localeCompare a.hostname b.hostname * dir
  | .path => localeCompare a.path b.path * dir

end

/-- TypeScript `TimeRange`, without `all`. -/
inductive TimeRange where
  | minutes5
  | minutes15
  | minutes30
  | hour1
  | hours6
  | day1
  | week1
  deriving DecidableEq, Repr

/-- TypeScript `timeRangeToMs`. -/
def timeRangeToMs : TimeRange → Int
  | .minutes5 => 5 * 60000
  | .minutes15 => 15 * 60000
  | .minutes30 => 30 * 60000
  | .hour1 => 60 * 60000
  | .hours6 => 6 * 60 * 60000
  | .day1 => 24 * 60 * 60000
  | .week1 => 7 * 24 * 60 * 60000

/-- TypeScript `DurationFilter`. -/
inductive DurationFilter where
  | all
  | below100ms
  | below500ms
  | below1s
  | above1s
  deriving DecidableEq, Repr

/-- TypeScript `matchesDuration`. -/
def matchesDuration (ms : ℚ) : DurationFilter → Bool
  | .below100ms => ms < 100
  | .below500ms => ms < 500
  | .below1s => ms < 1000
  | .above1s => ms ≥ 1000
  | .all => true

/-- TypeScript `ActivityFilters`. A missing time range is `all`, and a missing status `ALL`; a status
is the digit it begins with. -/
structure ActivityFilters where
  timeRange : Option TimeRange := none
  method : GoString := lit "ALL"
  host : GoString := lit "ALL"
  status : Option Int := none
  duration : DurationFilter := .all
  deriving DecidableEq, Repr

/-- Whether a request passes the filters, by the browser's clock. -/
def ActivityFilters.passes (filters : ActivityFilters) (now : Int) (req : RequestRecord) : Bool :=
  (match filters.timeRange with
    | none => true
    | some range => !(now - req.timestamp > timeRangeToMs range)) &&
  (filters.method = lit "ALL" || req.method = filters.method) &&
  (filters.host = lit "ALL" || req.hostname = filters.host) &&
  (match filters.status with
    | none => true
    | some expected => req.status / 100 = expected) &&
  matchesDuration req.durationMs filters.duration

/-- TypeScript `filteredRequests`. -/
def filteredRequests (localeCompare : GoString → GoString → Int) (now : Int)
    (requests : List RequestRecord) (filters : ActivityFilters) (sort : SortState) :
    List RequestRecord :=
  (requests.filter (filters.passes now)).insertionSort
    fun a b => compareRequests localeCompare a b sort ≤ 0

/-- A comparison of strings is consistent. -/
def Collates (localeCompare : GoString → GoString → Int) : Prop :=
  Consistent fun a b => (localeCompare a b : ℚ)

section
variable {localeCompare : GoString → GoString → Int}

/-- The comparison by any column, in either direction, is consistent. -/
lemma compareRequests_consistent (collates : Collates localeCompare) (sort : SortState) :
    Consistent fun a b => compareRequests localeCompare a b sort := by
  have column (key : SortKey) :
      Consistent fun a b => compareRequests localeCompare a b { key, dir := .asc } := by
    simp only [compareRequests, if_true, mul_one]
    cases key with
    | time => exact .difference fun r : RequestRecord => (r.timestamp : ℚ)
    | duration => exact .difference fun r : RequestRecord => r.durationMs
    | status => exact .difference fun r : RequestRecord => (r.status : ℚ)
    | method => exact collates.comap RequestRecord.method
    | hostname => exact collates.comap RequestRecord.hostname
    | path => exact collates.comap RequestRecord.path
  obtain ⟨key, dir⟩ := sort
  cases dir with
  | asc => exact column key
  | desc =>
    have turned (a b : RequestRecord) : compareRequests localeCompare a b { key, dir := .desc } =
        -compareRequests localeCompare a b { key, dir := .asc } := by
      cases key <;> simp [compareRequests]
    simp only [turned]
    exact (column key).neg

end

/-- The newest requests, as many as the collector keeps. -/
def recent (log : List RequestRecord) : List RequestRecord := log.reverse.take maxBufferSize

lemma getRecentRequests_folded {c : Collector} {log : List RequestRecord} (folded : c.Folded log)
    {limit : Int} (positive : 0 < limit) :
    c.getRecentRequests limit = log.reverse.take (min limit.toNat maxBufferSize) := by
  rw [← window_newest, ← folded.buffer, Collector.getRecentRequests, if_neg positive.not_ge]
  congr 2
  split <;> omega

/-- The page asks for a thousand requests and gets the newest ones. -/
lemma handleRequests_recent {c : Collector} {log : List RequestRecord} (folded : c.Folded log) :
    handleRequests c (lit "1000") = recent log := by
  have limit : (if lit "1000" = [] then 50 else (parseInt (lit "1000")).getD 50 : Int) = 1000 := by
    decide
  rw [handleRequests, limit, getRecentRequests_folded folded (by decide)]
  rfl

/-- The rows that the page shows of a log. -/
structure Shows (localeCompare : GoString → GoString → Int) (log : List RequestRecord) (now : Int)
    (filters : ActivityFilters) (sort : SortState) (rows : List RequestRecord) : Prop where
  all : rows ~ (recent log).filter (filters.passes now)
  sorted : rows.Pairwise fun a b => compareRequests localeCompare a b sort ≤ 0
  stable : ∀ a, rows.filter (fun b => compareRequests localeCompare a b sort = 0) =
    ((recent log).filter (filters.passes now)).filter fun b =>
      compareRequests localeCompare a b sort = 0

lemma filteredRequests_shows {localeCompare : GoString → GoString → Int}
    (collates : Collates localeCompare) (log : List RequestRecord) (now : Int)
    (filters : ActivityFilters) (sort : SortState) :
    Shows localeCompare log now filters sort
      (filteredRequests localeCompare now (recent log) filters sort) where
  all := List.perm_insertionSort _ _
  sorted := (compareRequests_consistent collates sort).sorted _
  stable a := by
    apply filter_insertionSort
    intro b c same same'
    have consistent := compareRequests_consistent collates sort
    rw [decide_eq_true_eq] at same same'
    exact consistent.trans b a c ((consistent.swap b a).mpr same.ge) same'.le

/-- The order that the page begins with is the one in which requests were recorded, the newest first,
where the clock did not go back. -/
lemma filteredRequests_newest {log : List RequestRecord}
    (forward : log.Pairwise fun r r' => r.timestamp ≤ r'.timestamp)
    (localeCompare : GoString → GoString → Int) (now : Int) (filters : ActivityFilters) :
    filteredRequests localeCompare now (recent log) filters newestFirst =
      (recent log).filter (filters.passes now) := by
  apply List.Pairwise.insertionSort_eq
  apply List.Pairwise.filter
  have backward : (recent log).Pairwise fun r r' => r'.timestamp ≤ r.timestamp :=
    (List.pairwise_reverse.mpr forward).sublist (List.take_sublist _ _)
  apply backward.imp
  intro r r' earlier
  have cast : (r'.timestamp : ℚ) ≤ r.timestamp := by exact_mod_cast earlier
  have turned : compareRequests localeCompare r r' newestFirst = r'.timestamp - r.timestamp := by
    simp [compareRequests, newestFirst]
  rw [turned]
  linarith

/-- The column of the order is the one that was clicked last. -/
lemma nextSort_key (clicks : List SortKey) :
    (clicks.foldl nextSort newestFirst).key = clicks.getLast?.getD .time := by
  induction clicks using List.reverseRecOn with
  | nil => rfl
  | append_singleton clicks key ih =>
    rw [List.foldl_append, List.foldl_cons, List.foldl_nil, List.getLast?_concat, nextSort]
    split
    · rfl
    · rfl

/-- As long as every request is still there, the rows for a host are the requests of its statistics. -/
lemma Shows.host {localeCompare : GoString → GoString → Int} {log rows : List RequestRecord}
    {now : Int} {sort : SortState} {host : GoString}
    (shows : Shows localeCompare log now { host } sort rows) (named : host ≠ lit "ALL")
    (kept : log.length ≤ maxBufferSize) : rows ~ log.filter (·.hostname = host) := by
  have whole : recent log = log.reverse :=
    List.take_of_length_le (by rw [List.length_reverse]; exact kept)
  have passes : ActivityFilters.passes { host } now = fun r => decide (r.hostname = host) := by
    funext r
    simp [ActivityFilters.passes, matchesDuration, named]
  have all := shows.all
  rw [whole, passes, List.filter_reverse] at all
  exact all.trans (List.reverse_perm _)

/-- The table of requests. Whatever was recorded and clicked and whatever the filters are, its rows are
the newest requests that pass the filters, in the order of the column that was clicked last, those
that are equal there newest first. At first it shows them as they were recorded, the newest first,
where the clock did not go back; and the rows for a host add up to its statistics as long as no
request was dropped. -/
theorem activity_table {localeCompare : GoString → GoString → Int}
    (collates : Collates localeCompare) (dashboardHost : GoString) (records : List RequestRecord)
    (now : Int) (filters : ActivityFilters) (clicks : List SortKey) :
    let c := records.foldl Collector.record (.new dashboardHost)
    let log := records.filter (·.hostname ≠ dashboardHost)
    let sort := clicks.foldl nextSort newestFirst
    let rows := filteredRequests localeCompare now (handleRequests c (lit "1000")) filters sort
    Shows localeCompare log now filters sort rows ∧
      sort.key = clicks.getLast?.getD .time ∧
      (clicks = [] → log.Pairwise (fun r r' => r.timestamp ≤ r'.timestamp) →
        rows = (recent log).filter (filters.passes now)) ∧
      ∀ host, filters = { host } → host ≠ lit "ALL" → log.length ≤ maxBufferSize →
        (c.getHostStats.lookup host = none → rows = []) ∧
        ∀ stats, c.getHostStats.lookup host = some stats →
          stats.totalRequests = rows.length ∧
          stats.errorCount = rows.countP (fun r => 400 ≤ r.status) ∧
          stats.avgDurationMs = (rows.map (·.durationMs)).sum / rows.length := by
  intro c log sort rows
  have folded := (Collector.foldl_record dashboardHost records).2
  have asked : handleRequests c (lit "1000") = recent log := handleRequests_recent folded
  have shows : Shows localeCompare log now filters sort rows := by
    show Shows _ _ _ _ _ (filteredRequests _ _ (handleRequests c (lit "1000")) _ _)
    rw [asked]
    exact filteredRequests_shows collates log now filters sort
  refine ⟨shows, nextSort_key clicks, ?_, ?_⟩
  · rintro rfl forward
    show filteredRequests _ _ (handleRequests c (lit "1000")) _ _ = _
    rw [asked]
    exact filteredRequests_newest forward localeCompare now filters
  · rintro host rfl named kept
    have own := shows.host named kept
    have found : c.getHostStats.lookup host = summaryOf (log.filter (·.hostname = host)) := by
      rw [Collector.getHostStats, folded.hostStats, foldl_tally]
    rw [found, summaryOf]
    constructor
    · intro none_found
      split at none_found
      · rename_i none_logged
        rw [none_logged] at own
        exact own.eq_nil
      · cases none_found
    · intro stats some_found
      split at some_found
      · cases some_found
      · cases some_found
        refine ⟨own.length_eq.symm, (own.countP_eq _).symm, ?_⟩
        rw [(own.map _).sum_eq, own.length_eq]
        rfl

/-- The order of the first letters. -/
def compareFirst (a b : GoString) : Int := (a.headD 0).toNat - (b.headD 0).toNat

lemma compareFirst_collates : Collates compareFirst := by
  have difference := Consistent.difference fun a : GoString => ((a.headD 0).toNat : ℚ)
  simpa [Collates, compareFirst] using difference

/-- Two of three requests are for one host. -/
theorem activity_table_three :
    let r (hostname : String) (timestamp : Int) : RequestRecord :=
      ⟨timestamp, lit "GET", lit hostname, lit "/", lit "http://b", 200, 2⟩
    (filteredRequests compareFirst 10
      (handleRequests ([r "a" 1, r "b" 2, r "a" 3].foldl Collector.record (.new (lit "pintle")))
        (lit "1000")) { host := lit "a" } (nextSort newestFirst .hostname)).length = 2 :=
  (activity_table compareFirst_collates (lit "pintle")
    [⟨1, lit "GET", lit "a", lit "/", lit "http://b", 200, 2⟩,
      ⟨2, lit "GET", lit "b", lit "/", lit "http://b", 200, 2⟩,
      ⟨3, lit "GET", lit "a", lit "/", lit "http://b", 200, 2⟩] 10 { host := lit "a" }
    [.hostname]).1.all.length_eq

end Pintle.Activity
