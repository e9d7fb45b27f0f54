import Pintle.Lib.Transition
import Pintle.Go.Values
import Mathlib.Tactic.Simps.Basic

/-!
# The bidirectional pipe

Model of `pipeToTarget` of `internal/server/sni.go` and of the two copy loops at the end of
`handleConnection` of `internal/server/tcp.go`. One goroutine copies what the client sends to the
upstream connection and then closes that connection, the other one copies the other way and closes
the client's. `Close` ends both directions of a connection, so a loop that has seen the end of its
own input takes away the input of the other loop. `no_truncation` says when nothing is lost by that.
-/

namespace Pintle
open Go Lib Function

/-- The two ends of a pipe. -/
inductive Side where
  | client
  | upstream
  deriving DecidableEq

/-- The side that the bytes of a side are copied to. -/
def Side.other : Side → Side
  | client => upstream
  | upstream => client

@[simp]
lemma Side.other_other (side : Side) : side.other.other = side := by cases side <;> rfl

lemma Side.other_ne (side : Side) : side.other ≠ side := by cases side <;> decide

lemma Side.eq_or_other (side side' : Side) : side' = side ∨ side' = side.other := by
  cases side <;> cases side' <;> simp [other]

/-- A goroutine with `io.Copy` from a side: it reads, has read a chunk and writes it, has come back
from `io.Copy`, or has closed the connection of the other side. -/
inductive Copy where
  | reading
  | writing (chunk : GoString)
  | returned
  | closed
  deriving DecidableEq

/-- The bytes that have been read and not been written yet. -/
def Copy.held : Copy → GoString
  | writing chunk => chunk
  | _ => []

/-- Whether `io.Copy` has returned. -/
def Copy.finished : Copy → Bool
  | returned => true
  | closed => true
  | _ => false

/-- Two connections with a pipe between them. For each side, what it has written and whether it has
ended its stream, what of it has not been read, what has been delivered to it, and the goroutine
that copies from it. -/
structure Pipe where
  written : Side → GoString
  ended : Side → Bool
  unread : Side → GoString
  delivered : Side → GoString
  copy : Side → Copy

namespace Pipe

/-- The connection of a side has been closed, by the goroutine that writes to it. -/
def connClosed (s : Pipe) (side : Side) : Prop := s.copy side.other = .closed

instance (s : Pipe) (side : Side) : Decidable (s.connClosed side) :=
  inferInstanceAs (Decidable (s.copy side.other = .closed))

/-- A side writes some bytes. -/
@[simps]
def write (s : Pipe) (side : Side) (bytes : GoString) : Pipe :=
  { s with
    written := update s.written side (s.written side ++ bytes)
    unread := update s.unread side (s.unread side ++ bytes) }

/-- A side ends its stream. -/
@[simps]
def endStream (s : Pipe) (side : Side) : Pipe := { s with ended := update s.ended side true }

/-- The goroutine that copies from a side moves on. -/
@[simps]
def setCopy (s : Pipe) (side : Side) (copy : Copy) : Pipe :=
  { s with copy := update s.copy side copy }

/-- Some bytes of a side are left to read. -/
@[simps]
def leave (s : Pipe) (side : Side) (rest : GoString) : Pipe :=
  { s with unread := update s.unread side rest }

/-- Some bytes are delivered to a side. -/
@[simps]
def deliver (s : Pipe) (side : Side) (chunk : GoString) : Pipe :=
  { s with delivered := update s.delivered side (s.delivered side ++ chunk) }

/-- The labels of a run. -/
inductive Event where
  | wrote (side : Side) (bytes : GoString)
  | ended (side : Side)
  | read (side : Side)
  | delivered (side : Side)
  | finished (side : Side)
  | failed (side : Side)
  | closed (side : Side)

/-- Whether an event is one of the two peers, not of the goroutines between them. -/
def Event.ofPeer : Event → Bool
  | .wrote _ _ => true
  | .ended _ => true
  | _ => false

/-- One step of a peer or a goroutine. A write never fails: the goroutine that writes to a
connection is the only one to close it. -/
inductive Step : Pipe → Event → Pipe → Prop where
  | write {s} (side : Side) (bytes : GoString) :
    s.ended side = false →
    Step s (.wrote side bytes) (s.write side bytes)
  | ends {s} (side : Side) :
    s.ended side = false →
    Step s (.ended side) (s.endStream side)
  | read {s} (side : Side) (chunk rest : GoString) :
    s.copy side = .reading →
    ¬ s.connClosed side →
    chunk ≠ [] →
    s.unread side = chunk ++ rest →
    Step s (.read side) ((s.leave side rest).setCopy side (.writing chunk))
  | deliver {s} (side : Side) (chunk : GoString) :
    s.copy side = .writing chunk →
    Step s (.delivered side) ((s.deliver side.other chunk).setCopy side .reading)
  | finish {s} (side : Side) :
    s.copy side = .reading →
    ¬ s.connClosed side →
    s.unread side = [] →
    s.ended side = true →
    Step s (.finished side) (s.setCopy side .returned)
  | fail {s} (side : Side) :
    s.copy side = .reading →
    s.connClosed side →
    Step s (.failed side) (s.setCopy side .returned)
  | close {s} (side : Side) :
    s.copy side = .returned →
    Step s (.closed side) (s.setCopy side .closed)

/-- The state in which the two goroutines start: the client's first bytes have been read and written
to the upstream connection. -/
def start (initialData : GoString) : Pipe where
  written side := if side = .client then initialData else []
  ended _ := false
  unread _ := []
  delivered side := if side = .upstream then initialData else []
  copy _ := .reading

/-- The system of all interleavings. -/
def system (initialData : GoString) : System Pipe Event where
  init s := s = start initialData
  step := Step

/-- Nothing is left to do but for the peers. -/
def AtRest (s : Pipe) : Prop := ∀ e t, Step s e t → e.ofPeer = true

/-- A goroutine closes a connection only when the other one needs it no more: it has come back from
`io.Copy`, or the side it reads from has ended its stream and all of it has been read. -/
def Lossless (s : Pipe) : Event → Prop
  | .closed side => (s.copy side.other).finished = true ∨
      s.ended side.other = true ∧ s.unread side.other = []
  | _ => True

/-- What a side has written has been delivered, is held by the goroutine, or has not been read. -/
def Conserved (s : Pipe) : Prop :=
  ∀ side, s.delivered side.other ++ ((s.copy side).held ++ s.unread side) = s.written side

/-- The stream of a side is not copied any more, or will not be after the chunk that is held. -/
def Stopped (s : Pipe) (side : Side) : Prop := (s.copy side).finished = true ∨ s.connClosed side

/-- A side whose stream is stopped has ended it, and all of it has been read. -/
def Drained (s : Pipe) : Prop :=
  ∀ side, s.Stopped side → s.ended side = true ∧ s.unread side = []

/-- A goroutine that goes on copying is stopped only by the other one. -/
lemma stopped_going {s : Pipe} {side : Side} {copy : Copy} (going : copy.finished = false) :
    (s.setCopy side copy).Stopped side ↔ s.connClosed side := by
  simp [Stopped, connClosed, going, side.other_ne]

/-- A goroutine stops the other one only by a close. -/
lemma stopped_other {s : Pipe} {side : Side} {copy : Copy} (opened : copy ≠ .closed) :
    (s.setCopy side copy).Stopped side.other ↔ (s.copy side.other).finished = true := by
  simp [Stopped, connClosed, opened, side.other_ne]

/-- Bytes are moved, neither lost nor doubled nor reordered, by every step. -/
lemma Conserved.step {s t : Pipe} {e : Event} (conserved : Conserved s) (st : Step s e t) :
    Conserved t := by
  intro side'
  have here := conserved side'
  cases st with
  | write side bytes =>
    obtain rfl | rfl := side.eq_or_other side'
    · simp [← here]
    · simpa [side.other_ne] using here
  | ends side => exact here
  | read side chunk rest reading _ _ split =>
    obtain rfl | rfl := side.eq_or_other side'
    · simpa [reading, split, Copy.held] using here
    · simpa [side.other_ne] using here
  | deliver side chunk writing =>
    obtain rfl | rfl := side.eq_or_other side'
    · simpa [writing, Copy.held] using here
    · simpa [side.other_ne, side.other_ne.symm] using here
  | finish side reading =>
    obtain rfl | rfl := side.eq_or_other side'
    · simpa [reading, Copy.held] using here
    · simpa [side.other_ne] using here
  | fail side reading =>
    obtain rfl | rfl := side.eq_or_other side'
    · simpa [reading, Copy.held] using here
    · simpa [side.other_ne] using here
  | close side returned =>
    obtain rfl | rfl := side.eq_or_other side'
    · simpa [returned, Copy.held] using here
    · simpa [side.other_ne] using here

lemma Drained.step {s t : Pipe} {e : Event} (drained : Drained s) (st : Step s e t)
    (lossless : Lossless s e) : Drained t := by
  intro side' stopped
  have here := drained side'
  cases st with
  | write side bytes going =>
    obtain rfl | rfl := side.eq_or_other side'
    · exact absurd (here stopped).1 (by simp [going])
    · simpa [side.other_ne] using here stopped
  | ends side going =>
    obtain rfl | rfl := side.eq_or_other side'
    · exact absurd (here stopped).1 (by simp [going])
    · simpa [side.other_ne] using here stopped
  | read side chunk rest reading opened =>
    obtain rfl | rfl := side.eq_or_other side'
    · exact absurd ((stopped_going rfl).mp stopped) opened
    · have finished := (stopped_other (by simp)).mp stopped
      simpa [side.other_ne] using here (.inl finished)
  | deliver side chunk writing =>
    obtain rfl | rfl := side.eq_or_other side'
    · exact here (.inr ((stopped_going rfl).mp stopped))
    · exact here (.inl ((stopped_other (by simp)).mp stopped))
  | finish side reading opened empty ended =>
    obtain rfl | rfl := side.eq_or_other side'
    · exact ⟨ended, empty⟩
    · exact here (.inl ((stopped_other (by simp)).mp stopped))
  | fail side reading closed =>
    obtain rfl | rfl := side.eq_or_other side'
    · exact here (.inr closed)
    · exact here (.inl ((stopped_other (by simp)).mp stopped))
  | close side returned =>
    obtain rfl | rfl := side.eq_or_other side'
    · exact here (.inl (by rw [returned]; rfl))
    · exact lossless.elim (fun finished => here (.inl finished)) id

lemma run_conserved {initialData : GoString} {h : List Event} {s : Pipe}
    (run : (system initialData).Run h s) : Conserved s := by
  refine run.invariant (fun _ => Conserved) ?_ fun _ _ _ _ _ conserved st => conserved.step st
  rintro s rfl side
  cases side <;> simp [start, Side.other, Copy.held]

lemma run_drained {initialData : GoString} {h : List Event} {s : Pipe}
    (run : ((system initialData).restrict Lossless).Run h s) : Drained s := by
  refine run.invariant (fun _ => Drained) ?_ ?_
  · rintro s rfl side (finished | closed)
    · cases finished
    · cases closed
  · rintro _ s e t _ drained ⟨st, lossless⟩
    exact drained.step st lossless

/-- When a goroutine has come back from `io.Copy`, the stream has ended and is delivered. -/
lemma Drained.delivered {s : Pipe} (drained : Drained s) (conserved : Conserved s) {side : Side}
    (finished : (s.copy side).finished = true) :
    s.ended side = true ∧ s.delivered side.other = s.written side := by
  obtain ⟨ended, empty⟩ := drained side (.inl finished)
  have all := conserved side
  have held : (s.copy side).held = [] := by
    cases here : s.copy side with
    | writing chunk =>
      rw [here] at finished
      cases finished
    | _ => rfl
  rw [held, empty, List.append_nil, List.append_nil] at all
  exact ⟨ended, all⟩

/-- When nothing is left to do, everything written is delivered. -/
lemma AtRest.delivered {s : Pipe} (rest : AtRest s) (conserved : Conserved s) (drained : Drained s)
    (side : Side) : s.delivered side.other = s.written side := by
  cases copy : s.copy side with
  | reading =>
    by_cases closed : s.connClosed side
    · cases rest _ _ (.fail side copy closed)
    · cases unread : s.unread side with
      | nil => simpa [copy, unread, Copy.held] using conserved side
      | cons b bytes =>
        have whole : s.unread side = (b :: bytes) ++ [] := by rw [unread, List.append_nil]
        cases rest _ _ (.read side (b :: bytes) [] copy closed (List.cons_ne_nil b bytes) whole)
  | writing chunk => cases rest _ _ (.deliver side chunk copy)
  | returned => cases rest _ _ (.close side copy)
  | closed => exact (drained.delivered conserved (by rw [copy]; rfl)).2

/-- Both goroutines have closed. -/
lemma atRest_closed {s : Pipe} (side : Side) (closed : s.copy side = .closed)
    (closed' : s.copy side.other = .closed) : AtRest s := by
  have both (side' : Side) : s.copy side' = .closed := by
    obtain rfl | rfl := side.eq_or_other side'
    · exact closed
    · exact closed'
  intro e t st
  cases st with
  | write => rfl
  | ends => rfl
  | read side _ _ copy | deliver side _ copy | finish side copy | fail side copy
  | close side copy =>
    cases (both side).symm.trans copy

lemma path_conserved {initialData : GoString} {k : List Event} {s t : Pipe}
    (path : (system initialData).Path s k t) (conserved : Conserved s) : Conserved t := by
  induction path with
  | refl => exact conserved
  | next _ st ih => exact ih.step st

/-- What has not been read is lost when the connection has been closed. -/
lemma unread_lost (initialData : GoString) {s : Pipe} {side : Side} (conserved : Conserved s)
    (closed : s.copy side.other = .closed) (copying : s.copy side = .reading)
    (kept : s.unread side ≠ []) :
    ∃ k u, (system initialData).Path s k u ∧ u.AtRest ∧ u.ended = s.ended ∧
      u.delivered side.other ≠ u.written side := by
  have path : (system initialData).Path s [] s := .refl
  have path := path.next (.fail side copying closed)
  have path := path.next (.close side (update_self ..))
  refine ⟨_, _, path, ?_, rfl, ?_⟩
  · refine atRest_closed side (update_self ..) ?_
    simp [side.other_ne, closed]
  · intro all
    have split := conserved side
    rw [copying, Copy.held, List.nil_append] at split
    · exact kept (List.append_right_eq_self.mp (split.trans all.symm))
    · simp

/-- A goroutine that is still copying may come to its next read. -/
lemma next_read (initialData : GoString) {s : Pipe} {side : Side}
    (copying : (s.copy side).finished = false) :
    ∃ k u, (system initialData).Path s k u ∧ u.copy side = .reading ∧
      u.copy side.other = s.copy side.other ∧ u.ended = s.ended ∧ u.unread = s.unread := by
  cases copy : s.copy side with
  | reading => exact ⟨_, s, .refl, copy, rfl, rfl, rfl⟩
  | writing chunk =>
    refine ⟨_, _, System.Path.refl.next (.deliver side chunk copy), update_self .., ?_, rfl, rfl⟩
    exact update_of_ne side.other_ne ..
  | returned | closed =>
    rw [copy] at copying
    cases copying

/-- A side may end its stream, after one more byte if all of it has been read. -/
lemma last_byte (initialData : GoString) {s : Pipe} {side : Side}
    (going : s.ended side = true → s.unread side ≠ []) :
    ∃ k u, (system initialData).Path s k u ∧ u.copy = s.copy ∧ u.ended side = true ∧
      u.unread side ≠ [] := by
  by_cases ended : s.ended side = true
  · exact ⟨_, s, .refl, rfl, ended, going ended⟩
  · have path : (system initialData).Path s [] s := .refl
    have path := path.next (.write side [0] (Bool.not_eq_true _ ▸ ended))
    have path := path.next (.ends side (Bool.not_eq_true _ ▸ ended))
    refine ⟨_, _, path, rfl, update_self .., ?_⟩
    rw [endStream_unread, write_unread, update_self]
    exact List.append_ne_nil_of_right_ne_nil _ (List.cons_ne_nil _ _)

/-- After a close that is not lossless, something that a side writes before it ends its stream may
never be delivered. -/
lemma close_loses (initialData : GoString) {s t : Pipe} {e : Event} (conserved : Conserved s)
    (st : Step s e t) (lossy : ¬ Lossless s e) :
    ∃ k u, (system initialData).Path t k u ∧ u.AtRest ∧
      ∃ side, u.ended side = true ∧ u.delivered side.other ≠ u.written side := by
  have conserved_t := conserved.step st
  cases st with
  | close side returned =>
    obtain ⟨copying, needed⟩ := not_or.mp lossy
    obtain ⟨k, u, path, copy, ended, kept⟩ := last_byte initialData
      (s := s.setCopy side .closed) fun ended empty => needed ⟨ended, empty⟩
    have still : u.copy side.other = s.copy side.other := by
      rw [copy]
      exact update_of_ne side.other_ne ..
    obtain ⟨k', u', path', reading, closed, ended', unread⟩ := next_read initialData
      (still ▸ Bool.not_eq_true _ ▸ copying)
    have both := path.trans path'
    have gone : u'.copy side.other.other = .closed := by
      rw [closed, copy, side.other_other]
      exact update_self ..
    obtain ⟨k'', u'', path'', rest, ended'', lost⟩ :=
      unread_lost initialData (path_conserved both conserved_t) gone reading (unread ▸ kept)
    refine ⟨_, u'', both.trans path'', rest, side.other, ?_, lost⟩
    rw [ended'', ended', ended]
  | _ => exact absurd trivial lossy

/-- When every close is lossless, the pipe does not truncate: what is delivered is always the
beginning of what was written, a goroutine comes back from `io.Copy` only when the stream has ended
and is delivered, and everything is delivered once nothing is left to do. After any other close the
pipe may lose something. -/
theorem no_truncation {initialData : GoString} {h : List Event} {s : Pipe}
    (run : ((system initialData).restrict Lossless).Run h s) :
    (∀ side, s.delivered side.other <+: s.written side) ∧
    (∀ side, (s.copy side).finished = true →
      s.ended side = true ∧ s.delivered side.other = s.written side) ∧
    (s.AtRest → ∀ side, s.delivered side.other = s.written side) ∧
    ∀ e t, (system initialData).step s e t → ¬ Lossless s e →
      ∃ k u, (system initialData).Path t k u ∧ u.AtRest ∧
        ∃ side, u.ended side = true ∧ u.delivered side.other ≠ u.written side := by
  have conserved := run_conserved run.of_restrict
  have drained := run_drained run
  refine ⟨fun side => ⟨_, conserved side⟩, fun side => drained.delivered conserved, ?_, ?_⟩
  · exact fun rest side => rest.delivered conserved drained side
  · exact fun e t st lossy => close_loses initialData conserved st lossy

/-- A client that has sent its request and half-closes does not get the answer. -/
theorem half_close_truncates : ∃ h s, (system (lit "request")).Run h s ∧ s.AtRest ∧
    s.ended .upstream = true ∧ s.written .upstream = lit "answer" ∧ s.delivered .client = [] := by
  have run := System.Run.start (M := system (lit "request")) rfl
  have run := run.next (.ends .client rfl)
  have run := run.next (.finish .client rfl (by decide) rfl rfl)
  have run := run.next (.close .client rfl)
  have run := run.next (.write .upstream (lit "answer") rfl)
  have run := run.next (.ends .upstream rfl)
  have run := run.next (.fail .upstream rfl rfl)
  have run := run.next (.close .upstream rfl)
  exact ⟨_, _, run, atRest_closed .client rfl rfl, rfl, rfl, rfl⟩

theorem no_truncation_answered : ∃ h s, (system (lit "request")).Run h s ∧
    s.written .upstream = lit "answer" ∧ s.delivered .client = s.written .upstream := by
  have run := System.Run.start (M := (system (lit "request")).restrict Lossless) rfl
  have run := run.next ⟨.write .upstream (lit "answer") rfl, trivial⟩
  have run := run.next ⟨.ends .upstream rfl, trivial⟩
  have run := run.next ⟨.ends .client rfl, trivial⟩
  have run := run.next ⟨.finish .client rfl (by decide) rfl rfl, trivial⟩
  have run := run.next ⟨.read .upstream (lit "answer") [] rfl (by decide) (by decide) rfl, trivial⟩
  -- the client's loop closes while the last chunk of the answer is still to be written
  have run := run.next ⟨.close .client rfl, .inr ⟨rfl, rfl⟩⟩
  have run := run.next ⟨.deliver .upstream (lit "answer") rfl, trivial⟩
  have run := run.next ⟨.fail .upstream rfl rfl, trivial⟩
  have run := run.next ⟨.close .upstream rfl, .inl rfl⟩
  exact ⟨_, _, run.of_restrict, rfl,
    (no_truncation run).2.2.1 (atRest_closed .client rfl rfl) .upstream⟩

end Pipe
end Pintle
