import Pintle.Router.Snapshot

/-!
# The readiness table

Model of `BackendReadiness` of `ui/src/components/BackendReadiness.tsx` and of the stamp that
`fetchTopology` of `ui/src/api.ts` puts on a snapshot. A snapshot travels with ages instead of times,
so that the clocks of the server and of the browser need not agree; the browser adds what passed since
the answer arrived, by its own clock. What the answer took on the way is in neither.

`readiness_honest` bounds the difference: the age in the table is never above the true one, but for a
millisecond of rounding, and it is below it by less than a second and the time on the way.
-/

namespace Pintle
open Go Lib

/-- The column of the last check. -/
inductive Checked where
  | notYet
  | atLeastADay
  | secondsAgo (n : Int)
  deriving DecidableEq, Repr

/-- A row of the table. -/
structure ReadinessRow where
  hostname : GoString
  path : GoString
  pool : GoString
  targetOrigin : GoString
  lastKnown : Bool
  state : BackendState
  checked : Checked
  deriving DecidableEq, Repr

/-- The snapshot with its stamp (TypeScript `BackendHealthSnapshot`). -/
structure ReceivedSnapshot extends HealthSnapshot where
  receivedAtMs : Option Int

/-- TypeScript `fetchTopology`, as far as the snapshot goes. -/
def fetchTopology (dateNow : Int) (data : HealthSnapshot) : ReceivedSnapshot :=
  { data with receivedAtMs := some dateNow }

namespace ReceivedSnapshot

/-- TypeScript `day`. -/
def day : Int := 86400000

/-- TypeScript `elapsed`. -/
def elapsed (snapshot : ReceivedSnapshot) (now : Int) : Int :=
  match snapshot.receivedAtMs with
  | none => 0
  | some receivedAtMs => max 0 (now - receivedAtMs)

/-- TypeScript `stale`. -/
def stale (snapshot : ReceivedSnapshot) (now : Int) : Bool :=
  snapshot.receivedAtMs.isNone || snapshot.elapsed now > 30000

/-- The row of a backend. -/
def row (snapshot : ReceivedSnapshot) (now : Int) (row : BackendHealth) : ReadinessRow :=
  let age := row.lastCheckAgeMs.map fun age => min day (max 0 age + snapshot.elapsed now)
  let capped := row.ageCapped || age = some day
  let state := if snapshot.running then row.state else .unknown
  { hostname := row.hostname
    path := row.path
    pool := row.pool
    targetOrigin := row.targetOrigin
    lastKnown := snapshot.stale now && state ≠ .unknown
    state
    checked :=
      match age with
      | none => .notYet
      | some age => if capped then .atLeastADay else .secondsAgo (age / 1000) }

/-- The rows of TypeScript `BackendReadiness`. -/
def backendReadiness (snapshot : ReceivedSnapshot) (now : Int) : List ReadinessRow :=
  snapshot.backends.map (snapshot.row now)

end ReceivedSnapshot

/-- `Date.now` of a browser whose clock differs by a constant, at a time in nanoseconds. -/
def dateNow (offset time : Int) : Int := (time + offset) / 1000000

/-- What a table says of a check at some time, at a later time: the age is right up to a millisecond
above and up to a second and the time on the way below. -/
def Checked.Honest (checked : Checked) (checkedAt onTheWay now : Int) : Prop :=
  match checked with
  | .notYet => False
  | .atLeastADay => 24 * 60 * 60 * 1000000000 < now - checkedAt + 1000000
  | .secondsAgo n => n * 1000000000 < now - checkedAt + 1000000 ∧
      now - checkedAt < (n + 1) * 1000000000 + onTheWay + 1000000

/-- The age of a check, in the milliseconds that have passed. -/
lemma checkAge_past {now checkedAt : Int} (past : checkedAt ≤ now) :
    checkAge now checkedAt =
      if (now - checkedAt) / 1000000 > ReceivedSnapshot.day then (ReceivedSnapshot.day, true)
      else ((now - checkedAt) / 1000000, false) := by
  have whole : (now - checkedAt).tdiv 1000000 = (now - checkedAt) / 1000000 :=
    Int.tdiv_eq_ediv_of_nonneg (by omega)
  have later : ¬ (now - checkedAt) / 1000000 < 0 := by omega
  unfold checkAge
  dsimp only
  rw [whole, if_neg later]
  rfl

/-- A browser's clock measures a time up to a millisecond. -/
lemma dateNow_sub (offset : Int) {earlier later : Int} (order : earlier ≤ later) :
    0 ≤ dateNow offset later - dateNow offset earlier ∧
      (dateNow offset later - dateNow offset earlier) * 1000000 < later - earlier + 1000000 ∧
      later - earlier < (dateNow offset later - dateNow offset earlier) * 1000000 + 1000000 := by
  unfold dateNow
  omega

/-- What is shown for a check in the past of the snapshot. -/
lemma checked_honest (offset : Int) {taken arrived shown checkedAt : Int} (past : checkedAt ≤ taken)
    (sent : taken ≤ arrived) (seen : arrived ≤ shown) :
    let elapsed := max 0 (dateNow offset shown - dateNow offset arrived)
    let age := min ReceivedSnapshot.day (max 0 (checkAge taken checkedAt).1 + elapsed)
    (if (checkAge taken checkedAt).2 || some age = some ReceivedSnapshot.day then Checked.atLeastADay
      else .secondsAgo (age / 1000)).Honest checkedAt (arrived - taken) shown := by
  intro elapsed age
  obtain ⟨forward, least, most⟩ := dateNow_sub offset seen
  have waited : elapsed = dateNow offset shown - dateNow offset arrived := max_eq_right forward
  rw [← waited] at forward least most
  have nonneg : 0 ≤ (taken - checkedAt) / 1000000 := by omega
  have whole := checkAge_past past
  have limit : ReceivedSnapshot.day = 86400000 := rfl
  by_cases capped : (taken - checkedAt) / 1000000 > ReceivedSnapshot.day
  · rw [if_pos capped] at whole
    rw [whole, Bool.true_or, if_pos rfl, Checked.Honest]
    omega
  · rw [if_neg capped] at whole
    have total : age = min ReceivedSnapshot.day ((taken - checkedAt) / 1000000 + elapsed) := by
      rw [show age = min _ (max 0 _ + elapsed) from rfl, whole, max_eq_right nonneg]
    rw [whole, Bool.false_or]
    by_cases full : age = ReceivedSnapshot.day
    · rw [full, if_pos (by simp), Checked.Honest]
      omega
    · rw [if_neg (by simpa using full), Checked.Honest]
      omega

namespace HealthRun
variable {ρ : Type} [Regexp ρ]

/-- A state that is not called the last known one is recent. -/
lemma lastKnown_recent {snapshot : HealthSnapshot} {backend : BackendHealth} {arrived shown offset : Int}
    (seen : arrived ≤ shown)
    (fresh : ((fetchTopology (dateNow offset arrived) snapshot).row (dateNow offset shown)
      backend).lastKnown = false)
    (known : ((fetchTopology (dateNow offset arrived) snapshot).row (dateNow offset shown)
      backend).state ≠ .unknown) :
    shown - arrived < 30 * 1000000000 + 1000000 := by
  obtain ⟨_, _, most⟩ := dateNow_sub offset seen
  have stale : ((fetchTopology (dateNow offset arrived) snapshot).stale (dateNow offset shown) &&
    decide (((fetchTopology (dateNow offset arrived) snapshot).row (dateNow offset shown)
      backend).state ≠ .unknown)) = false := fresh
  rw [decide_eq_true known, Bool.and_true] at stale
  have current : max 0 (dateNow offset shown - dateNow offset arrived) ≤ 30000 := by
    simpa [ReceivedSnapshot.stale, ReceivedSnapshot.elapsed, fetchTopology] using stale
  omega

/-- Ready means that the member of the record could be selected. -/
lemma row_eligible {υ : Type} [Url υ] {h : List HealthEvent} {s : HealthRun ρ} (inv : Reported h s)
    {key : GoString} {state : HealthState} (stored : s.router.health.lookup key = some state)
    (same : healthKey state.route = key) (now : Int) :
    (state.row υ s.router.healthRunning now).state = .ready ↔
      s.router.eligible state.route = true := by
  have registered := (mem_staticMembers.mp (inv.member key state stored)).2
  simp only [Route.registered, Bool.and_eq_true] at registered
  obtain ⟨check, checked⟩ := Option.isSome_iff_exists.mp registered.1.1
  have eligible : s.router.eligible state.route = state.healthy := by
    rw [← same] at stored
    simp [Router.eligible, checked, stored]
  rw [row_ready, eligible]
  constructor
  · intro ready
    exact ready.2.2
  · intro healthy
    obtain ⟨running, seen⟩ := inv.marked key state stored healthy
    exact ⟨running, seen, healthy⟩

/-- Ready is shown exactly when the member of the record could be selected. -/
lemma shown_ready {υ : Type} [Url υ] {h : List HealthEvent} {s : HealthRun ρ} (inv : Reported h s)
    {key : GoString} {state : HealthState} (stored : s.router.health.lookup key = some state)
    (same : healthKey state.route = key) (ord : RangeOrder (GoString × HealthState))
    (taken received now : Int) :
    ((fetchTopology received (s.router.snapshotHealth υ ord taken)).row now
      (state.row υ s.router.healthRunning taken)).state = .ready ↔
      s.router.eligible state.route = true := by
  rw [← row_eligible (υ := υ) inv stored same taken]
  cases running : s.router.healthRunning with
  | true => simp [ReceivedSnapshot.row, fetchTopology, Router.snapshotHealth, running]
  | false =>
    -- stopped checks are shown as unknown, and then no record is marked
    rw [row_ready]
    simp [ReceivedSnapshot.row, fetchTopology, Router.snapshotHealth, running]

end HealthRun
end Pintle
