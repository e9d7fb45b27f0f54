import Pintle.File.Load
import Pintle.Lib.Transition

/-!
# The file provider as a transition system

Model of `Run` of `internal/provider/file/file.go` together with the routes file and its watch. The
file changes in place, or another file is renamed over its path, at any time. A read that a change
overlaps may return anything. A send may take any time, so the capacity of `configCh` is left out,
and so are log lines.

Assumed of `fsnotify` over inotify: a watch added on the path follows the inode, and reports a write
for a change in place, which may be one with a write that waits as the last event; when a rename
replaces the file, the watch is dropped, with events other than a write or a creation.
-/

namespace Pintle.File
open Go Lib

/-- Go `fsnotify.Op`, of an event with one operation. -/
inductive Op where
  | create
  | write
  | remove
  | rename
  | chmod
  deriving DecidableEq, Repr

/-- Whether Go `Run` reloads the file for an event. -/
def Op.reloads : Op → Bool
  | .create => true
  | .write => true
  | _ => false

/-- Where Go `Run` stands: before the initial load, in `os.ReadFile`, before it sends, before it
creates the watcher, before it adds the path, in its `select`, where it waits for the end of the
process context without a watch, or at the end. A read and a send happen before the watch or with
it; a read knows whether the file has changed since it began. -/
inductive Phase where
  | starting
  | reading (watched changed : Bool)
  | sending (watched : Bool) (msg : Message)
  | creating
  | adding
  | watching
  | blocked
  | stopped

/-- The file changes. -/
def Phase.touch : Phase → Phase
  | .reading watched _ => .reading watched true
  | phase => phase

/-- Whether Go `Run` has a watch in some phase. -/
def Phase.watches : Phase → Bool
  | .reading watched _ => watched
  | .sending watched _ => watched
  | .watching => true
  | .stopped => true
  | _ => false

/-- Whether the last read has been sent and the next one has not begun. -/
def Phase.between : Phase → Prop
  | .creating => True
  | .adding => True
  | .watching => True
  | .blocked => True
  | _ => False

/-- The file at the path, as its inode and what `os.ReadFile` returns for it, the inode with the
watch, the events that wait, and the goroutine of Go `Run`. -/
structure Watch where
  inode : Nat
  read : Except GoString GoString
  watched : Option Nat
  pending : List Op
  phase : Phase

/-- The labels of a run. -/
inductive Event where
  | opened
  | finished
  | sent (msg : Message)
  | created
  | added
  | failed
  | received (op : Op)
  | errored
  | stopped
  | written (data : GoString)
  | replaced (data : GoString)

namespace Watch

/-- The events that wait once the watch, if it is on the file, has reported some more. -/
def report (s : Watch) (ops : List Op) : List Op :=
  if s.watched = some s.inode then s.pending ++ ops else s.pending

section
variable (load : Except GoString GoString → Message)

/-- One step of the provider or the file. -/
inductive Step : Watch → Event → Watch → Prop where
  | open {s} :
    s.phase = .starting →
    Step s .opened { s with phase := .reading false false }
  | finish {s watched changed} (read : Except GoString GoString) :
    s.phase = .reading watched changed →
    (changed = false → read = s.read) →
    Step s .finished { s with phase := .sending watched (load read) }
  | send {s watched msg} :
    s.phase = .sending watched msg →
    Step s (.sent msg) { s with phase := if watched then .watching else .creating }
  | create {s} :
    s.phase = .creating →
    Step s .created { s with phase := .adding }
  | add {s} (data : GoString) :
    s.phase = .adding →
    s.read = .ok data →
    Step s .added { s with watched := some s.inode, phase := .watching }
  | fail {s} :
    s.phase = .creating ∨ s.phase = .adding →
    Step s .failed { s with phase := .blocked }
  | receive {s} (op : Op) (rest : List Op) :
    s.phase = .watching →
    s.pending = op :: rest →
    Step s (.received op)
      { s with
        pending := rest
        phase := if op.reloads then .reading true false else .watching }
  | error {s} :
    s.phase = .watching →
    Step s .errored s
  | stop {s} :
    s.phase = .watching ∨ s.phase = .blocked →
    Step s .stopped { s with phase := .stopped }
  | write {s} (data : GoString) :
    Step s (.written data)
      { s with read := .ok data, pending := s.report [.write], phase := s.phase.touch }
  | merge {s} (data : GoString) :
    s.watched = some s.inode →
    s.pending.getLast? = some .write →
    Step s (.written data) { s with read := .ok data, phase := s.phase.touch }
  | replace {s} (data : GoString) (ops : List Op) :
    (∀ op ∈ ops, op.reloads = false) →
    Step s (.replaced data)
      { s with
        inode := s.inode + 1
        read := .ok data
        watched := none
        pending := s.report ops
        phase := s.phase.touch }

/-- The system of all interleavings. -/
def stepSystem : System Watch Event where
  init s := s.phase = .starting ∧ s.watched = none ∧ s.pending = []
  step := Step load

end

/-- The system of one provider. -/
def system (υ : Type) [Url υ] (f : FileProvider) (pkg : Packages) : System Watch Event :=
  stepSystem (f.loadFile υ pkg)

/-- Every event is handled, and Go `Run` waits. -/
def AtRest (s : Watch) : Prop := (s.phase = .watching ∨ s.phase = .blocked) ∧ s.pending = []

/-- An event waits for which the file will be reloaded. -/
def Waiting (s : Watch) : Prop := ∃ op ∈ s.pending, op.reloads = true

end Watch

/-- The message an event sends. -/
def Event.sent? : Event → Option Message
  | .sent msg => some msg
  | _ => none

/-- Whether an event changes the file. -/
def Event.changes : Event → Bool
  | .written _ => true
  | .replaced _ => true
  | _ => false

/-- The last message sent in a history. -/
def lastSent (h : List Event) : Option Message := h.findSome? (·.sent?)

end Pintle.File
