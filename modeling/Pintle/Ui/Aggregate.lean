import Mathlib.Tactic.NormNum
import Pintle.Go.Ranges
import Pintle.Stats.Collector

/-!
# The statistics of a group

Model of `aggregateStats` of `ui/src/components/grouping.ts`, which puts the statistics of several
hosts together, over any type of hostnames. A number is a rational one, as in the collector.

The dashboard never sees the requests, only a mean and a few counts for each host. From these it
gets the figures that the collector would have had for the group (`aggregate_summarizes`).
-/

namespace Pintle.Grouping
open Go Stats

/-- The variables of the loop of TypeScript `aggregateStats`. -/
structure Totals where
  totalRequests : Nat := 0
  errorCount : Nat := 0
  durationWeighted : ℚ := 0
  lastRequestAt : Int := 0
  hasStats : Bool := false
  deriving DecidableEq, Repr

/-- The body of the loop, for a host with or without statistics. -/
def Totals.add (t : Totals) : Option RouteStats → Totals
  | none => t
  | some stat =>
    { totalRequests := t.totalRequests + stat.totalRequests
      errorCount := t.errorCount + stat.errorCount
      durationWeighted := t.durationWeighted + stat.avgDurationMs * stat.totalRequests
      lastRequestAt := max t.lastRequestAt stat.lastRequestAt
      hasStats := true }

/-- TypeScript `aggregateStats`. -/
def aggregateStats {κ : Type} (hostnames : List κ) (hostStats : Option (κ → Option RouteStats)) :
    Option RouteStats :=
  match hostStats with
  | none => none
  | some hostStats =>
    let t := hostnames.foldl (fun t hostname => t.add (hostStats hostname)) ({} : Totals)
    if !t.hasStats then none
    else some
      { totalRequests := t.totalRequests
        errorCount := t.errorCount
        avgDurationMs := if t.totalRequests > 0 then t.durationWeighted / t.totalRequests else 0
        lastRequestAt := t.lastRequestAt }

/-- The requests for some hosts, in the order in which they were recorded. -/
def requestsFor (hostnames : List GoString) (log : List RequestRecord) : List RequestRecord :=
  log.filter (·.hostname ∈ hostnames)

/-- The time of the last request for a host. -/
def lastRequest (log : List RequestRecord) (hostname : GoString) : Option Int :=
  (log.filter (·.hostname = hostname)).getLast?.map (·.timestamp)

/-- The latest of some times, none of them before zero. -/
def latest (times : List Int) : Int := times.foldl max 0

/-- What the loop has added up over the requests of some hosts. -/
structure Totals.Of (t : Totals) (requests : List RequestRecord) (times : List Int) : Prop where
  totalRequests : t.totalRequests = requests.length
  errorCount : t.errorCount = requests.countP fun r => 400 ≤ r.status
  durationWeighted : t.durationWeighted = (requests.map (·.durationMs)).sum
  lastRequestAt : t.lastRequestAt = latest times
  hasStats : t.hasStats = true ↔ requests ≠ []

/-- Adding the statistics of a host adds its requests. -/
lemma Totals.Of.add {t : Totals} {requests : List RequestRecord} {times : List Int}
    (totals : t.Of requests times) (log : List RequestRecord) (hostname : GoString) :
    (t.add (summaryOf (log.filter (·.hostname = hostname)))).Of
      (requests ++ log.filter (·.hostname = hostname))
      (times ++ (lastRequest log hostname).toList) := by
  rw [summaryOf, lastRequest]
  generalize log.filter (·.hostname = hostname) = own
  split
  · rename_i none
    rw [none]
    simpa [Totals.add] using totals
  · rename_i some
    obtain ⟨last, found⟩ := Option.ne_none_iff_exists'.mp (mt List.getLast?_eq_none_iff.mp some)
    have count : ((own.length : ℕ) : ℚ) ≠ 0 := by
      exact_mod_cast (List.length_pos_of_ne_nil some).ne'
    constructor
    · simp [Totals.add, summary, totals.totalRequests]
    · simp [Totals.add, summary, totals.errorCount]
    · simp [Totals.add, summary, totals.durationWeighted, div_mul_cancel₀ _ count]
    · simp [Totals.add, summary, totals.lastRequestAt, found, latest, List.foldl_append]
    · simp [Totals.add, some]

/-- The loop adds up the requests of the hosts that it goes through. -/
lemma foldl_totals (log : List RequestRecord) (hostnames : List GoString) :
    (hostnames.foldl (fun t hostname => t.add (summaryOf (log.filter (·.hostname = hostname))))
      ({} : Totals)).Of
      (hostnames.flatMap fun hostname => log.filter (·.hostname = hostname))
      (hostnames.filterMap (lastRequest log)) := by
  induction hostnames using List.reverseRecOn with
  | nil => exact ⟨rfl, rfl, rfl, rfl, by simp⟩
  | append_singleton hostnames hostname ih =>
    have more := ih.add log hostname
    rw [List.foldl_append, List.flatMap_append, List.filterMap_append]
    rw [List.foldl_cons, List.foldl_nil, List.flatMap_singleton]
    cases last : lastRequest log hostname <;> simpa [last] using more

/-- The order of the requests does not matter to the sums. -/
lemma Totals.Of.perm {t : Totals} {requests requests' : List RequestRecord} {times : List Int}
    (totals : t.Of requests times) (perm : requests.Perm requests') : t.Of requests' times where
  totalRequests := totals.totalRequests.trans perm.length_eq
  errorCount := totals.errorCount.trans (perm.countP_eq _)
  durationWeighted := totals.durationWeighted.trans (perm.map _).sum_eq
  lastRequestAt := totals.lastRequestAt
  hasStats := by rw [totals.hasStats, ne_eq, ← List.length_eq_zero_iff, perm.length_eq,
    List.length_eq_zero_iff]

/-- The statistics of some hosts are those of their requests, but for the time of the last one, which
is the latest of the times of their last requests. -/
lemma aggregateStats_eq {log : List RequestRecord} {hostnames : List GoString}
    (distinct : hostnames.Nodup) :
    aggregateStats hostnames (some fun host => summaryOf (log.filter (·.hostname = host))) =
      (summaryOf (requestsFor hostnames log)).map fun s =>
        { s with lastRequestAt := latest (hostnames.filterMap (lastRequest log)) } := by
  have perm := flatMap_groups_perm (l := log) (p := (·.hostname ∈ hostnames)) (·.hostname) distinct
    fun r _ => decide_eq_true_iff
  have totals : Totals.Of _ (requestsFor hostnames log) _ := (foldl_totals log hostnames).perm perm
  unfold aggregateStats
  dsimp only
  rw [summaryOf]
  split
  · rename_i skipped
    have none : requestsFor hostnames log = [] := by
      rw [Bool.not_eq_true', Bool.eq_false_iff, ne_eq, totals.hasStats, not_not] at skipped
      exact skipped
    rw [if_pos none, Option.map_none]
  · rename_i counted
    have some : requestsFor hostnames log ≠ [] := by
      rw [Bool.not_eq_true', Bool.eq_false_iff, not_not] at counted
      exact totals.hasStats.mp counted
    rw [if_neg some, Option.map_some, summary, totals.totalRequests, totals.errorCount,
      totals.durationWeighted, totals.lastRequestAt, if_pos (List.length_pos_of_ne_nil some)]

/-- A time that is reached and never passed is the latest. -/
lemma latest_eq {times : List Int} {time : Int} (member : time ∈ times) (start : 0 ≤ time)
    (last : ∀ other ∈ times, other ≤ time) : latest times = time := by
  have bounds (init : Int) : init ≤ times.foldl max init ∧
      (∀ other ∈ times, other ≤ times.foldl max init) ∧
      ∀ bound, init ≤ bound → (∀ other ∈ times, other ≤ bound) → times.foldl max init ≤ bound := by
    clear member last
    induction times generalizing init with
    | nil => simp
    | cons first times ih =>
      obtain ⟨above, members, least⟩ := ih (max init first)
      rw [List.foldl_cons]
      refine ⟨le_trans (le_max_left _ _) above, ?_, ?_⟩
      · rw [List.forall_mem_cons]
        exact ⟨le_trans (le_max_right _ _) above, members⟩
      · intro bound under all
        rw [List.forall_mem_cons] at all
        exact least bound (max_le under all.1) all.2
  obtain ⟨_, members, least⟩ := bounds 0
  exact le_antisymm (least time start last) (members time member)

/-- Where the log is in the order of time, the last request for some hosts is the latest of their
last requests. -/
lemma latest_lastRequest {log : List RequestRecord} {hostnames : List GoString}
    (ordered : (log.map (·.timestamp)).Pairwise (· ≤ ·)) (start : ∀ r ∈ log, 0 ≤ r.timestamp) :
    latest (hostnames.filterMap (lastRequest log)) =
      ((requestsFor hostnames log).getLast?.map (·.timestamp)).getD 0 := by
  have own {host : GoString} (member : host ∈ hostnames) : log.filter (·.hostname = host) =
      (requestsFor hostnames log).filter (·.hostname = host) := by
    rw [requestsFor, List.filter_filter]
    apply List.filter_congr
    intro r _
    by_cases here : r.hostname = host
    · simp [here, member]
    · simp [here]
  have sorted : ((requestsFor hostnames log).map (·.timestamp)).Pairwise (· ≤ ·) :=
    ordered.sublist (List.filter_sublist.map _)
  have inside {r : RequestRecord} (member : r ∈ requestsFor hostnames log) : r ∈ log :=
    (List.mem_filter.mp member).1
  have host {r : RequestRecord} (member : r ∈ requestsFor hostnames log) : r.hostname ∈ hostnames :=
    of_decide_eq_true (List.mem_filter.mp member).2
  have reached {host : GoString} (listed : host ∈ hostnames) {r : RequestRecord}
      (last : (log.filter (·.hostname = host)).getLast? = some r) :
      r ∈ requestsFor hostnames log := by
    rw [own listed] at last
    exact (List.mem_filter.mp (List.mem_of_getLast? last)).1
  generalize requestsFor hostnames log = requests at own sorted inside host reached
  cases requests using List.reverseRecOn with
  | nil =>
    have none_last : hostnames.filterMap (lastRequest log) = [] := by
      rw [List.filterMap_eq_nil_iff]
      intro host listed
      rw [lastRequest, own listed]
      rfl
    rw [none_last]
    rfl
  | append_singleton earlier r =>
    rw [List.getLast?_concat, Option.map_some, Option.getD_some]
    have member : r ∈ earlier ++ [r] := List.mem_append_right _ (List.mem_singleton_self r)
    apply latest_eq
    · apply List.mem_filterMap.mpr
      refine ⟨r.hostname, host member, ?_⟩
      rw [lastRequest, own (host member), List.filter_append, List.filter_cons_of_pos (by simp),
        List.filter_nil, List.getLast?_concat, Option.map_some]
    · exact start r (inside member)
    · intro time found
      obtain ⟨host, listed, last⟩ := List.mem_filterMap.mp found
      obtain ⟨other, final, rfl⟩ := Option.map_eq_some_iff.mp last
      rw [List.map_append, List.pairwise_append] at sorted
      rcases List.mem_append.mp (reached listed final) with before | here
      · exact sorted.2.2 _ (List.mem_map_of_mem before) _ (List.mem_singleton_self _)
      · rw [List.mem_singleton.mp here]

/-- Whatever was recorded, the statistics that the dashboard makes for distinct hosts are those of the
requests for these hosts. The time of the last request is the latest of theirs, and where the clock
did not go back while they were recorded it is the time of the last one. -/
theorem aggregate_summarizes (dashboardHost : GoString) (records : List RequestRecord)
    (hostnames : List GoString) (distinct : hostnames.Nodup) :
    let log := records.filter (·.hostname ≠ dashboardHost)
    let collector := records.foldl Collector.record (.new dashboardHost)
    let group := aggregateStats hostnames (some collector.getHostStats.lookup)
    group = (summaryOf (requestsFor hostnames log)).map (fun s =>
        { s with lastRequestAt := latest (hostnames.filterMap (lastRequest log)) }) ∧
      ((log.map (·.timestamp)).Pairwise (· ≤ ·) → (∀ r ∈ log, 0 ≤ r.timestamp) →
        group = summaryOf (requestsFor hostnames log)) := by
  intro log collector group
  have folded := (Collector.foldl_record dashboardHost records).2
  have stored : collector.getHostStats.lookup =
      fun host => summaryOf (log.filter (·.hostname = host)) := by
    funext host
    rw [Collector.getHostStats, folded.hostStats, foldl_tally]
  have whole : group = _ := (congrArg (aggregateStats hostnames ∘ some) stored).trans
    (aggregateStats_eq distinct)
  refine ⟨whole, fun ordered start => ?_⟩
  rw [whole, latest_lastRequest ordered start, summaryOf]
  split
  · rfl
  · rfl

/-- The group of two hosts, with two requests for the first and one for the second. -/
theorem aggregate_summarizes_two :
    let r (hostname : String) (timestamp status : Int) (durationMs : ℚ) : RequestRecord :=
      ⟨timestamp, lit "GET", lit hostname, lit "/", lit "http://b", status, durationMs⟩
    let records := [r "a" 1 200 2, r "b" 2 502 1, r "c" 3 200 7, r "a" 4 200 3]
    aggregateStats [lit "a", lit "b"]
        (some (records.foldl Collector.record (.new (lit "pintle"))).getHostStats.lookup) =
      some { totalRequests := 3, errorCount := 1, avgDurationMs := 2, lastRequestAt := 4 } := by
  intro r records
  have group := (aggregate_summarizes (lit "pintle") records [lit "a", lit "b"] (by decide)).2
    (by decide) (by decide)
  have part : requestsFor [lit "a", lit "b"] (records.filter (·.hostname ≠ lit "pintle")) =
      [r "a" 1 200 2, r "b" 2 502 1, r "a" 4 200 3] := rfl
  rw [group, part, summaryOf, if_neg (List.cons_ne_nil _ _), summary]
  norm_num [r, List.countP_cons]

end Pintle.Grouping
