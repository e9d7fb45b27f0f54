import Pintle.Lib.Source
import Mathlib.Logic.Function.Basic

/-!
# The polling resource

Model of `createPollingResource` of `ui/src/polling.ts`. A request is a chain of promise callbacks,
each of which runs some time after the one before it, in any order with the callbacks of other
requests and with the calls of `poll`, `retry` and `dispose` (`Step`). A resource is a source of
which only the newest request publishes (`Resource.source`, `run_source`), and `only_newest` says
what the dashboard sees of it.
-/

namespace Pintle.Polling
open Lib Function
variable {T : Type}

/-- TypeScript `PollingState`. -/
structure PollingState (T : Type) where
  data : Option T
  isLoading : Bool
  isRefreshing : Bool
  error : Option String

namespace PollingState

/-- Whether a read is under way. -/
def busy (s : PollingState T) : Bool := s.isLoading || s.isRefreshing

/-- What `read` publishes before it fetches. -/
def reading (s : PollingState T) : PollingState T where
  data := s.data
  isLoading := s.data.isNone
  isRefreshing := s.data.isSome
  error := if s.data.isNone then none else s.error

lemma busy_reading (s : PollingState T) : s.reading.busy = true := by
  cases data : s.data <;> simp [busy, reading, data]

end PollingState

/-- What a promise is rejected with: an `Error`, or any other value. -/
inductive Reason where
  | error (message : String)
  | other

/-- The text of a rejection. -/
def Reason.message : Reason → String
  | error message => message
  | other => "Request failed"

/-- How far a request has come: the callback that calls `fetcher` has not run, the fetch is under
way, it has settled and the callback for that has not run, or only the last callback has not run, or
it has. -/
inductive Stage (T : Type) where
  | queued
  | fetching
  | resolved (data : T)
  | rejected (reason : Reason)
  | handled
  | finished

namespace Stage

/-- Whether the fetch has settled. -/
def settled : Stage T → Bool
  | queued | fetching => false
  | _ => true

/-- Whether the callback for the settled fetch has run. -/
def isHandled : Stage T → Bool
  | handled | finished => true
  | _ => false

end Stage

/-- A request, with the signal of its controller. -/
structure Request (T : Type) where
  aborted : Bool
  stage : Stage T

/-- The variables of a resource and its requests, each by its generation. `controller` and
`inFlight` are the request whose controller and promise they hold. -/
structure Resource (T : Type) where
  state : PollingState T
  controller : Option Nat
  inFlight : Option Nat
  generation : Nat
  disposed : Bool
  requests : Nat → Option (Request T)

/-- What a call or a callback leaves: the resource, and what `onChange` has been called with. -/
structure Outcome (T : Type) where
  resource : Resource T
  onChange : Option (PollingState T)

namespace Resource

/-- A resource before its first read. -/
def initial : Resource T where
  state := { data := none, isLoading := true, isRefreshing := false, error := none }
  controller := none
  inFlight := none
  generation := 0
  disposed := false
  requests _ := none

/-- A request changes. -/
def modify (r : Resource T) (i : Nat) (f : Request T → Request T) : Resource T :=
  { r with requests := update r.requests i ((r.requests i).map f) }

/-- A request moves on. -/
def advance (r : Resource T) (i : Nat) (stage : Stage T) : Resource T :=
  r.modify i fun request => { request with stage }

/-- TypeScript `controller?.abort()`. -/
def abort (r : Resource T) : Resource T :=
  match r.controller with
  | none => r
  | some i => r.modify i fun request => { request with aborted := true }

/-- TypeScript `publish`. -/
def publish (r : Resource T) (next : PollingState T) : Outcome T :=
  { resource := { r with state := next }, onChange := some next }

/-- The part of `read` that makes a request. -/
def request (r : Resource T) : Outcome T :=
  let aborted := r.abort
  let current := r.generation + 1
  let published := { aborted with controller := some current, generation := current }.publish
    r.state.reading
  let work := { aborted := false, stage := .queued }
  { published with
    resource :=
      { published.resource with
        requests := update aborted.requests current (some work), inFlight := some current } }

/-- TypeScript `read`, with the request whose promise it returns. Without one the promise is
resolved already. -/
def read (r : Resource T) (force : Bool) : Outcome T × Option Nat :=
  if r.disposed then ({ resource := r, onChange := none }, none)
  else if r.inFlight.isSome && !force then ({ resource := r, onChange := none }, r.inFlight)
  else (r.request, some (r.generation + 1))

/-- TypeScript `poll`. -/
def poll (r : Resource T) : Outcome T × Option Nat := r.read false

/-- TypeScript `retry`. -/
def retry (r : Resource T) : Outcome T × Option Nat := r.read true

/-- A callback for a settled fetch: it publishes unless the resource has been disposed of or the
request has been superseded. -/
def publishNewest (r : Resource T) (current : Nat) (next : PollingState T) : Outcome T :=
  if r.disposed || current ≠ r.generation then { resource := r, onChange := none }
  else r.publish next

/-- The callback of `read` for data. -/
def onFulfilled (r : Resource T) (current : Nat) (data : T) : Outcome T :=
  r.publishNewest current
    { data := some data, isLoading := false, isRefreshing := false, error := none }

/-- The callback of `read` for a rejection. -/
def onRejected (r : Resource T) (current : Nat) (reason : Reason) : Outcome T :=
  r.publishNewest current
    { data := r.state.data
      isLoading := false
      isRefreshing := false
      error := some reason.message }

/-- The last callback of `read`. -/
def onFinally (r : Resource T) (current : Nat) : Resource T :=
  if current ≠ r.generation then r
  else { r with controller := none, inFlight := none }

/-- TypeScript `dispose`. -/
def dispose (r : Resource T) : Resource T :=
  { r.abort with
    disposed := true
    generation := r.generation + 1
    controller := none
    inFlight := none }

/-- The stage of a request. -/
def stage (r : Resource T) (i : Nat) : Option (Stage T) := (r.requests i).map (·.stage)

/-- A request is the newest one. -/
def Newest (r : Resource T) (i : Nat) : Prop :=
  (r.stage i).isSome ∧ ∀ j, (r.stage j).isSome → j ≤ i

end Resource

/-- What happens to a resource: a call, a callback of a request, or the fetch of a request settles. -/
inductive Event (T : Type) where
  | poll
  | retry
  | dispose
  | fetch (current : Nat)
  | resolve (current : Nat) (data : T)
  | reject (current : Nat) (reason : Reason)
  | handle (current : Nat)
  | finish (current : Nat)

/-- An event, and what `onChange` is called with. -/
abbrev Label (T : Type) := Event T × Option (PollingState T)

/-- One step of a resource. A `fetcher` that throws is one whose promise is rejected at once. -/
inductive Step : Resource T → Label T → Resource T → Prop where
  | poll {r} :
    Step r (.poll, r.poll.1.onChange) r.poll.1.resource
  | retry {r} :
    Step r (.retry, r.retry.1.onChange) r.retry.1.resource
  | dispose {r} :
    Step r (.dispose, none) r.dispose
  | fetch {r i} :
    r.stage i = some .queued →
    Step r (.fetch i, none) (r.advance i .fetching)
  | resolve {r i} (data : T) :
    r.stage i = some .fetching →
    Step r (.resolve i data, none) (r.advance i (.resolved data))
  | reject {r i} (reason : Reason) :
    r.stage i = some .fetching →
    Step r (.reject i reason, none) (r.advance i (.rejected reason))
  | fulfilled {r i data} :
    r.stage i = some (.resolved data) →
    Step r (.handle i, ((r.advance i .handled).onFulfilled i data).onChange)
      ((r.advance i .handled).onFulfilled i data).resource
  | rejected {r i reason} :
    r.stage i = some (.rejected reason) →
    Step r (.handle i, ((r.advance i .handled).onRejected i reason).onChange)
      ((r.advance i .handled).onRejected i reason).resource
  | finish {r i} :
    r.stage i = some .handled →
    Step r (.finish i, none) ((r.advance i .finished).onFinally i)

/-- The system of a resource. -/
def system (T : Type) : System (Resource T) (Label T) where
  init r := r = .initial
  step := Step

/-- What the requests have published, newest first. -/
def results : List (Label T) → List (Nat × PollingState T) :=
  List.filterMap fun
    | (.handle i, some next) => some (i, next)
    | _ => none

/-- The data among it. -/
def successes (h : List (Label T)) : List (Nat × T) :=
  (results h).filterMap fun p => if p.2.error.isNone then p.2.data.map (p.1, ·) else none

/-- What a callback for a settled fetch publishes. -/
def answer (s : PollingState T) : Stage T → Option (PollingState T)
  | .resolved data =>
    some { data := some data, isLoading := false, isRefreshing := false, error := none }
  | .rejected reason =>
    some
      { data := s.data, isLoading := false, isRefreshing := false, error := some reason.message }
  | _ => none

/-- An event publishes a state: a new request says that it reads, or the newest one answers. -/
inductive Publishes (r : Resource T) : Event T → PollingState T → Prop where
  | reading {e} :
    e = .poll ∨ e = .retry →
    Publishes r e r.state.reading
  | answer {i s next} :
    r.Newest i →
    r.stage i = some s →
    answer r.state s = some next →
    Publishes r (.handle i) next

namespace Resource

lemma stage_modify {r : Resource T} {i : Nat} {f : Request T → Request T} {s : Stage T}
    (moved : ((r.requests i).map f).map (·.stage) = some s) :
    (r.modify i f).stage = update r.stage i (some s) := by
  funext j
  rcases eq_or_ne j i with rfl | other
  · rw [update_self, ← moved]
    simp [stage, modify]
  · rw [update_of_ne other]
    simp [stage, modify, update_of_ne other]

lemma stage_advance {r : Resource T} {i : Nat} {s : Stage T} (here : r.stage i = some s)
    (t : Stage T) : (r.advance i t).stage = update r.stage i (some t) := by
  apply stage_modify
  obtain ⟨request, made, _⟩ := Option.map_eq_some_iff.mp here
  rw [made]
  rfl

lemma stage_abort (r : Resource T) : r.abort.stage = r.stage := by
  rw [abort]
  split
  · rfl
  · rename_i i _
    funext j
    rcases eq_or_ne j i with rfl | other
    · simp [stage, modify, Function.comp_def]
    · simp [stage, modify, update_of_ne other]

/-- Aborting changes the signal of a request only. -/
lemma abort_eq (r : Resource T) : r.abort = { r with requests := r.abort.requests } := by
  rw [abort]
  split <;> rfl

lemma stage_request (r : Resource T) :
    r.request.resource.stage = update r.stage (r.generation + 1) (some .queued) := by
  rw [← stage_abort r]
  funext j
  change (update r.abort.requests (r.generation + 1) (some { aborted := false, stage := .queued })
    j).map (·.stage) = _
  rcases eq_or_ne j (r.generation + 1) with rfl | other
  · rw [update_self, update_self]
    rfl
  · rw [update_of_ne other, update_of_ne other]
    rfl

lemma request_eq (r : Resource T) : r.request =
    { resource :=
        { state := r.state.reading
          controller := some (r.generation + 1)
          inFlight := some (r.generation + 1)
          generation := r.generation + 1
          disposed := r.disposed
          requests := r.request.resource.requests }
      onChange := some r.state.reading } := by
  rw [request, abort_eq]
  rfl

/-- A read changes nothing, or it makes a request. -/
lemma read_cases (r : Resource T) (force : Bool) :
    (r.read force).1 = { resource := r, onChange := none } ∨
      r.disposed = false ∧ (r.read force).1 = r.request := by
  rw [read]
  split
  · exact .inl rfl
  · rename_i kept
    split
    · exact .inl rfl
    · exact .inr ⟨Bool.eq_false_iff.mpr kept, rfl⟩

/-- A callback changes nothing, or it is one of the newest request and publishes. -/
lemma publishNewest_cases (r : Resource T) (current : Nat) (next : PollingState T) :
    r.publishNewest current next = { resource := r, onChange := none } ∨
      r.disposed = false ∧ current = r.generation ∧
        r.publishNewest current next =
          { resource := { r with state := next }, onChange := some next } := by
  rw [publishNewest]
  split
  · exact .inl rfl
  · rename_i newest
    simp only [Bool.or_eq_true, decide_eq_true_eq, not_or, not_not, Bool.not_eq_true] at newest
    exact .inr ⟨newest.1, newest.2, rfl⟩

end Resource

/-- What is true of a resource between its steps: the newest request is that of the generation, a
poll finds it in flight until it is finished, and the state says so until it has been handled. -/
structure Inv (r : Resource T) : Prop where
  numbered : ∀ i, (r.stage i).isSome → 0 < i ∧ i ≤ r.generation
  current : r.disposed = false → 0 < r.generation → (r.stage r.generation).isSome
  flight : r.disposed = false → ∀ s, r.stage r.generation = some s → s ≠ .finished →
    r.inFlight = some r.generation
  busy : r.disposed = false → ∀ s, r.stage r.generation = some s → s.isHandled = false →
    r.state.busy = true

namespace Inv
open Resource
variable {r : Resource T}

lemma initial : Inv (Resource.initial : Resource T) where
  numbered _ made := by cases made
  current _ some := absurd some (Nat.lt_irrefl 0)
  flight _ _ here := by cases here
  busy _ _ here := by cases here

/-- A request moves on, not back to before its callback or its end. -/
lemma advance (inv : Inv r) {i : Nat} {s s' : Stage T} (here : r.stage i = some s)
    (unhandled : s'.isHandled = false → s.isHandled = false)
    (unfinished : s' ≠ .finished → s ≠ .finished) : Inv (r.advance i s') := by
  have moved := stage_advance here s'
  have made : ∀ j, ((r.advance i s').stage j).isSome → (r.stage j).isSome := by
    intro j
    rw [moved]
    rcases eq_or_ne j i with rfl | other
    · intro _
      rw [here]
      rfl
    · rw [update_of_ne other]
      exact id
  have newest : ∀ t, (r.advance i s').stage r.generation = some t → r.stage r.generation = some t ∨
      t = s' ∧ r.stage r.generation = some s := by
    intro t
    rw [moved]
    rcases eq_or_ne r.generation i with same | other
    · rw [same, update_self, Option.some.injEq]
      rintro rfl
      exact .inr ⟨rfl, here⟩
    · rw [update_of_ne other]
      exact .inl
  refine ⟨fun j inside => inv.numbered j (made j inside), ?_, ?_, ?_⟩
  · intro used some
    have before := inv.current used some
    change ((r.advance i s').stage r.generation).isSome
    rw [moved]
    rcases eq_or_ne r.generation i with same | other
    · rw [same, update_self]
      rfl
    · rw [update_of_ne other]
      exact before
  · intro used t reached running
    rcases newest t reached with before | ⟨rfl, before⟩
    · exact inv.flight used t before running
    · exact inv.flight used s before (unfinished running)
  · intro used t reached pending
    rcases newest t reached with before | ⟨rfl, before⟩
    · exact inv.busy used t before pending
    · exact inv.busy used s before (unhandled pending)

lemma request (inv : Inv r) : Inv r.request.resource := by
  have stages := stage_request r
  have newest : r.request.resource.stage (r.generation + 1) = some .queued := by
    rw [stages, update_self]
  rw [request_eq] at stages newest ⊢
  refine ⟨?_, ?_, fun _ _ _ _ => rfl, fun _ _ _ _ => r.state.busy_reading⟩
  · intro i made
    rw [stages] at made
    rcases eq_or_ne i (r.generation + 1) with rfl | other
    · exact ⟨Nat.succ_pos _, Nat.le_refl _⟩
    · rw [update_of_ne other] at made
      obtain ⟨positive, bound⟩ := inv.numbered i made
      exact ⟨positive, Nat.le_succ_of_le bound⟩
  · intro _ _
    rw [newest]
    rfl

lemma read (inv : Inv r) (force : Bool) : Inv (r.read force).1.resource := by
  rcases read_cases r force with same | ⟨_, made⟩
  · rw [same]
    exact inv
  · rw [made]
    exact inv.request

/-- A handled request publishes. -/
lemma publishNewest (inv : Inv r) {current : Nat} {next : PollingState T}
    (handled : r.stage current = some .handled) : Inv (r.publishNewest current next).resource := by
  rcases publishNewest_cases r current next with same | ⟨_, rfl, published⟩
  · rw [same]
    exact inv
  · rw [published]
    refine ⟨inv.numbered, inv.current, inv.flight, ?_⟩
    intro _ s here pending
    cases handled.symm.trans here
    cases pending

/-- A finished request gives up the flight. -/
lemma onFinally (inv : Inv r) {current : Nat} (finished : r.stage current = some .finished) :
    Inv (r.onFinally current) := by
  rw [Resource.onFinally]
  split
  · exact inv
  · rename_i newest
    rw [not_not] at newest
    refine ⟨inv.numbered, inv.current, ?_, inv.busy⟩
    intro _ s here running
    rw [newest] at finished
    cases finished.symm.trans here
    exact absurd rfl running

lemma dispose (inv : Inv r) : Inv r.dispose := by
  refine ⟨?_, nofun, nofun, nofun⟩
  intro i made
  change (r.abort.stage i).isSome at made
  rw [stage_abort] at made
  obtain ⟨positive, bound⟩ := inv.numbered i made
  exact ⟨positive, Nat.le_succ_of_le bound⟩

lemma step (inv : Inv r) {l : Label T} {t : Resource T} (st : Step r l t) : Inv t := by
  have handle : ∀ {i : Nat} {s : Stage T}, r.stage i = some s → s ≠ .finished →
      Inv (r.advance i .handled) := fun here running =>
    inv.advance here nofun fun _ => running
  have handled : ∀ {i : Nat} {s : Stage T}, r.stage i = some s →
      (r.advance i .handled).stage i = some .handled := fun here => by
    rw [stage_advance here, update_self]
  cases st with
  | poll => exact inv.read false
  | retry => exact inv.read true
  | dispose => exact inv.dispose
  | fetch here => exact inv.advance here (fun _ => rfl) nofun
  | resolve data here => exact inv.advance here (fun _ => rfl) nofun
  | reject reason here => exact inv.advance here (fun _ => rfl) nofun
  | fulfilled here => exact (handle here nofun).publishNewest (handled here)
  | rejected here => exact (handle here nofun).publishNewest (handled here)
  | @finish i here =>
    have last : Inv (r.advance i .finished) := inv.advance here nofun (absurd rfl)
    refine last.onFinally ?_
    rw [stage_advance here, update_self]

/-- The newest request is that of the generation. -/
lemma newest_iff (inv : Inv r) (used : r.disposed = false) {i : Nat} :
    r.Newest i ↔ i = r.generation ∧ 0 < i := by
  constructor
  · rintro ⟨made, newest⟩
    obtain ⟨positive, bound⟩ := inv.numbered i made
    have latest := newest r.generation (inv.current used (Nat.lt_of_lt_of_le positive bound))
    exact ⟨Nat.le_antisymm bound latest, positive⟩
  · rintro ⟨rfl, positive⟩
    exact ⟨inv.current used positive, fun j made => (inv.numbered j made).2⟩

end Inv

lemma inv_run {h : List (Label T)} {r : Resource T} (run : (system T).Run h r) : Inv r :=
  run.invariant (fun _ => Inv)
    (fun _ ini => by
      cases ini
      exact .initial)
    fun _ _ _ _ _ inv st => inv.step st

/-- A resource as a source of requests. -/
def Resource.source (r : Resource T) : Source where
  newest := r.generation
  pending := !r.disposed && decide (0 < r.generation) && r.state.busy
  closed := r.disposed

/-- What a step of a resource is for its source. -/
def Label.event : Label T → Option (Source.Event (PollingState T))
  | (.poll, some _) => some .start
  | (.retry, some _) => some .start
  | (.dispose, _) => some .close
  | (.handle i, some next) => some (.publish i next)
  | _ => none

section source
open Resource
variable {r : Resource T}

lemma read_source (force : Bool) {e : Event T} (call : e = .poll ∨ e = .retry) :
    (Source.system (PollingState T)).Moves r.source (Label.event (e, (r.read force).1.onChange))
      (r.read force).1.resource.source := by
  rcases read_cases r force with same | ⟨used, made⟩
  · rw [same]
    rcases call with rfl | rfl <;> rfl
  · have starts : Source.Step (α := PollingState T) r.source .start r.request.resource.source := by
      have pending : r.request.resource.source = { r.source with
          newest := r.source.newest + 1, pending := true } := by
        rw [request_eq]
        simp [source, used, r.state.busy_reading]
      rw [pending]
      exact .start used
    rw [made, request_eq]
    rw [request_eq] at starts
    rcases call with rfl | rfl <;> exact starts

lemma handle_source (inv : Inv r) {i : Nat} {s : Stage T} {next : PollingState T}
    (here : r.stage i = some s) (pending : s.isHandled = false) (idle : next.busy = false) :
    (Source.system (PollingState T)).Moves r.source
      (Label.event (.handle i, ((r.advance i .handled).publishNewest i next).onChange))
      ((r.advance i .handled).publishNewest i next).resource.source := by
  rcases publishNewest_cases (r.advance i .handled) i next with same | ⟨used, newest, published⟩
  · rw [same]
    rfl
  · change r.disposed = false at used
    change i = r.generation at newest
    subst newest
    have positive := (inv.numbered r.generation (by rw [here]; rfl)).1
    have busy := inv.busy used s here pending
    rw [published]
    have publishes : Source.Step r.source (.publish r.source.newest next)
        { r.source with pending := false } := by
      apply Source.Step.publish
      simp [source, used, positive, busy]
    have same : ({ r.source with pending := false } : Source) =
        Resource.source { r.advance r.generation .handled with state := next } := by
      simp [source, idle, advance, Resource.modify]
    rw [same] at publishes
    exact publishes

/-- A resource is a source of which only the newest request publishes. -/
lemma Step.source (inv : Inv r) {l : Label T} {t : Resource T} (st : Step r l t) :
    (Source.system (PollingState T)).Moves r.source l.event t.source := by
  cases st with
  | poll => exact read_source false (.inl rfl)
  | retry => exact read_source true (.inr rfl)
  | dispose => exact Source.Step.close
  | fetch here => exact rfl
  | resolve data here => exact rfl
  | reject reason here => exact rfl
  | fulfilled here => exact handle_source inv here rfl rfl
  | rejected here => exact handle_source inv here rfl rfl
  | @finish i here =>
    change Resource.source (onFinally _ i) = r.source
    rw [onFinally]
    split <;> rfl

lemma run_source {h : List (Label T)} (run : (system T).Run h r) :
    (Source.system (PollingState T)).Run (h.filterMap Label.event) r.source := by
  refine run.simulate Resource.source Label.event ?_ ?_
  · rintro _ rfl
    rfl
  · intro _ _ _ _ before st
    exact st.source (inv_run before)

lemma publications_event (h : List (Label T)) :
    Source.publications (h.filterMap Label.event) = results h := by
  rw [Source.publications, List.filterMap_filterMap, results]
  congr 1
  funext ⟨e, out⟩
  cases e <;> cases out <;> rfl

end source

section results
variable {r : Resource T}

lemma read_publishes (force : Bool) {e : Event T} (call : e = .poll ∨ e = .retry) :
    (r.read force).1.onChange = none ∧ (r.read force).1.resource.state = r.state ∨
      ∃ next, (r.read force).1.onChange = some next ∧ (r.read force).1.resource.state = next ∧
        Publishes r e next := by
  rcases r.read_cases force with same | ⟨_, made⟩
  · rw [same]
    exact .inl ⟨rfl, rfl⟩
  · rw [made, r.request_eq]
    exact .inr ⟨_, rfl, rfl, .reading call⟩

lemma handle_publishes (inv : Inv r) {i : Nat} {s : Stage T} {next : PollingState T}
    (here : r.stage i = some s) (answers : answer r.state s = some next) :
    ((r.advance i .handled).publishNewest i next).onChange = none ∧
        ((r.advance i .handled).publishNewest i next).resource.state = r.state ∨
      ∃ next', ((r.advance i .handled).publishNewest i next).onChange = some next' ∧
        ((r.advance i .handled).publishNewest i next).resource.state = next' ∧
        Publishes r (.handle i) next' := by
  rcases (r.advance i .handled).publishNewest_cases i next with same | ⟨used, newest, published⟩
  · rw [same]
    exact .inl ⟨rfl, rfl⟩
  · rw [published]
    have positive := (inv.numbered i (by rw [here]; rfl)).1
    exact .inr ⟨next, rfl, rfl, .answer ((inv.newest_iff used).mpr ⟨newest, positive⟩) here answers⟩

/-- A step publishes the state it leaves, or keeps the state. -/
lemma Step.publishes (inv : Inv r) {e : Event T} {out : Option (PollingState T)} {t : Resource T}
    (st : Step r (e, out) t) :
    out = none ∧ t.state = r.state ∨ ∃ next, out = some next ∧ t.state = next ∧ Publishes r e next := by
  cases st with
  | poll => exact read_publishes false (.inl rfl)
  | retry => exact read_publishes true (.inr rfl)
  | dispose =>
    refine .inl ⟨rfl, ?_⟩
    rw [Resource.dispose, r.abort_eq]
  | fetch here => exact .inl ⟨rfl, rfl⟩
  | resolve data here => exact .inl ⟨rfl, rfl⟩
  | reject reason here => exact .inl ⟨rfl, rfl⟩
  | fulfilled here => exact handle_publishes inv here rfl
  | rejected here => exact handle_publishes inv here rfl
  | @finish i here =>
    refine .inl ⟨rfl, ?_⟩
    rw [Resource.onFinally]
    split <;> rfl

/-- A resource that has been disposed of stays so and publishes nothing. -/
lemma Step.disposed {l : Label T} {t : Resource T} (st : Step r l t) (used : r.disposed = true) :
    l.2 = none ∧ t.disposed = true := by
  have read : ∀ force, r.read force = ({ resource := r, onChange := none }, none) := fun force => by
    rw [Resource.read, if_pos used]
  have drop : ∀ i next, (r.advance i .handled).publishNewest i next =
      { resource := r.advance i .handled, onChange := none } := fun i next => by
    rw [Resource.publishNewest, if_pos]
    exact Bool.or_eq_true_iff.mpr (.inl used)
  cases st with
  | poll =>
    rw [Resource.poll, read]
    exact ⟨rfl, used⟩
  | retry =>
    rw [Resource.retry, read]
    exact ⟨rfl, used⟩
  | dispose => exact ⟨rfl, rfl⟩
  | fetch here => exact ⟨rfl, used⟩
  | resolve data here => exact ⟨rfl, used⟩
  | reject reason here => exact ⟨rfl, used⟩
  | fulfilled here =>
    rw [Resource.onFulfilled, drop]
    exact ⟨rfl, used⟩
  | rejected here =>
    rw [Resource.onRejected, drop]
    exact ⟨rfl, used⟩
  | @finish i here =>
    refine ⟨rfl, ?_⟩
    rw [Resource.onFinally]
    split <;> exact used

/-- The data of a resource is what the newest successful request has published. -/
lemma data_run {h : List (Label T)} (run : (system T).Run h r) :
    r.state.data = (successes h).head?.map (·.2) := by
  refine run.invariant (fun h r => r.state.data = (successes h).head?.map (·.2)) ?_ ?_
  · rintro _ rfl
    rfl
  · rintro h r ⟨e, out⟩ t before data st
    rcases st.publishes (inv_run before) with ⟨rfl, same⟩ | ⟨next, rfl, shown, published⟩
    · rw [same, data]
      cases e <;> rfl
    · rw [shown]
      cases published with
      | reading call =>
        rw [show r.state.reading.data = r.state.data from rfl, data]
        rcases call with rfl | rfl <;> rfl
      | @answer i s next newest here answers =>
        cases s with
        | resolved d =>
          cases answers
          rfl
        | rejected reason =>
          cases answers
          exact data
        | _ => cases answers

end results

/-- What the dashboard sees of a resource after a run. -/
structure NewestOnly (h : List (Label T)) (r : Resource T) : Prop where
  newest : ∀ e next t, Step r (e, some next) t → Publishes r e next
  increasing : (results h).Pairwise fun later earlier => earlier.1 < later.1
  single : ∀ i s, r.Newest i → r.stage i = some s → s.settled = false →
    r.poll = ({ resource := r, onChange := none }, if r.disposed then none else some i)
  data : ∀ p ∈ successes h, ∃ q ∈ successes h, r.state.data = some q.2 ∧
    ∀ p ∈ successes h, p.1 ≤ q.1
  disposed : ∀ later earlier out, h = later ++ (.dispose, out) :: earlier →
    ∀ l ∈ later, l.2 = none
  busy : ∀ i, r.Newest i → r.disposed = false →
    (r.state.isLoading = true ∨ r.state.isRefreshing = true ↔ ∀ next, (i, next) ∉ results h)

section newest
variable {h : List (Label T)} {r : Resource T}

lemma results_increasing (run : (system T).Run h r) :
    (results h).Pairwise fun later earlier => earlier.1 < later.1 := by
  rw [← publications_event]
  exact Source.publications_increasing (run_source run)

lemma successes_increasing (run : (system T).Run h r) :
    (successes h).Pairwise fun later earlier => earlier.1 < later.1 := by
  refine (results_increasing run).filterMap _ ?_
  rintro ⟨i, next⟩ ⟨j, next'⟩ less p success q success'
  have number : ∀ {k : Nat} {state : PollingState T} {p : Nat × T},
      (if state.error.isNone then state.data.map (k, ·) else none) = some p → p.1 = k := by
    intro k state p success
    split at success
    · obtain ⟨d, _, rfl⟩ := Option.map_eq_some_iff.mp success
      rfl
    · cases success
  rw [number success, number success']
  exact less

/-- The newest request of a resource that reads finds its flight. -/
lemma Inv.poll (inv : Inv r) {i : Nat} {s : Stage T} (newest : r.Newest i)
    (here : r.stage i = some s) (unsettled : s.settled = false) :
    r.poll = ({ resource := r, onChange := none }, if r.disposed then none else some i) := by
  rw [Resource.poll, Resource.read]
  split
  · rfl
  · rename_i used
    rw [Bool.not_eq_true] at used
    obtain ⟨rfl, _⟩ := (inv.newest_iff used).mp newest
    have flight := inv.flight used s here (by
      rintro rfl
      cases unsettled)
    rw [flight]
    rfl

/-- After a call of `dispose` nothing is published. -/
lemma disposed_run {later earlier : List (Label T)} {out : Option (PollingState T)}
    (run : (system T).Run (later ++ (.dispose, out) :: earlier) r) :
    r.disposed = true ∧ ∀ l ∈ later, l.2 = none := by
  induction later generalizing r with
  | nil =>
    cases run with
    | next _ st =>
      cases st
      exact ⟨rfl, nofun⟩
  | cons l later ih =>
    cases run with
    | next run st =>
      obtain ⟨used, silent⟩ := ih run
      obtain ⟨here, stays⟩ := st.disposed used
      refine ⟨stays, ?_⟩
      intro l' member
      rcases List.mem_cons.mp member with rfl | old
      · exact here
      · exact silent l' old

/-- Along every run only the newest request publishes. -/
theorem only_newest (run : (system T).Run h r) : NewestOnly h r := by
  have inv := inv_run run
  refine ⟨?_, results_increasing run, ?_, ?_, ?_, ?_⟩
  · intro e next t st
    rcases st.publishes inv with ⟨silent, _⟩ | ⟨next', same, _, published⟩
    · cases silent
    · cases same
      exact published
  · intro i s newest here unsettled
    exact inv.poll newest here unsettled
  · intro p member
    have data := data_run run
    have increasing := successes_increasing run
    cases all : successes h with
    | nil =>
      rw [all] at member
      cases member
    | cons q older =>
      rw [all] at data increasing
      refine ⟨q, List.mem_cons_self, data, ?_⟩
      intro p inside
      rcases List.mem_cons.mp inside with rfl | old
      · exact Nat.le_refl _
      · exact Nat.le_of_lt ((List.pairwise_cons.mp increasing).1 p old)
  · rintro later earlier out rfl
    exact (disposed_run run).2
  · intro i newest used
    obtain ⟨rfl, positive⟩ := (inv.newest_iff used).mp newest
    have pending := Source.pending_iff (run_source run) used positive
    rw [publications_event] at pending
    rw [← Bool.or_eq_true]
    rw [show r.source.pending = (r.state.isLoading || r.state.isRefreshing) by
      simp [Resource.source, used, positive, PollingState.busy]] at pending
    exact pending

end newest

/-- A poll, a retry before the fetch of the poll settles, the data of the retry, and the late data of
the poll. -/
def raced : List (Label Nat) :=
  [(.handle 1, none), (.resolve 1 5, none),
    (.handle 2, some { data := some 7, isLoading := false, isRefreshing := false, error := none }),
    (.resolve 2 7, none), (.fetch 2, none),
    (.retry, some { data := none, isLoading := true, isRefreshing := false, error := none }),
    (.fetch 1, none),
    (.poll, some { data := none, isLoading := true, isRefreshing := false, error := none })]

/-- The resource before the late data. -/
def retried : Resource Nat :=
  let r := (Resource.initial.poll.1.resource.advance 1 .fetching).retry.1.resource
  (((r.advance 2 .fetching).advance 2 (.resolved 7)).advance 2 .handled |>.onFulfilled 2 7).resource

/-- The resource after it. -/
def late : Resource Nat :=
  ((retried.advance 1 (.resolved 5)).advance 1 .handled |>.onFulfilled 1 5).resource

/-- The late data is not published. -/
theorem only_newest_raced : NewestOnly raced late ∧ results raced =
    [(2, { data := some 7, isLoading := false, isRefreshing := false, error := none })] :=
  ⟨only_newest (.next (.next (.next (.next (.next (.next (.next (.next (.start rfl) .poll)
    (.fetch rfl)) .retry) (.fetch rfl)) (.resolve 7 rfl)) (.fulfilled rfl)) (.resolve 5 rfl))
    (.fulfilled rfl)), rfl⟩

end Pintle.Polling
