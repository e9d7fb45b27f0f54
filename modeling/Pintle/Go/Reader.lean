import Pintle.Go.Values

/-!
# Readers

Model of `io.Reader`. A read into a buffer returns some of the bytes that come next, and perhaps an
error (`Reader`). What the documentation of `io.Reader` promises is said with the stream of the bytes
to come: a read takes its beginning, no more than the buffer holds, and reports the end of the stream
only when nothing is left (`LawfulReader`).

Successive reads into buffers of any sizes return the stream from its beginning (`stream_reads`), and
all of it when one of them reports the end (`received_eof`).
-/

namespace Pintle.Go

/-- An error of a read: `io.EOF`, or any other one. -/
inductive ReadError where
  | eof
  | failed
  deriving DecidableEq, Repr

/-- What a read returns: the bytes it has put into the buffer, and an error. -/
structure ReadResult where
  bytes : GoString
  err : Option ReadError
  deriving DecidableEq, Repr

/-- Go `io.Reader`, with the size of the buffer. -/
class Reader (σ : Type) where
  read : σ → Nat → ReadResult × σ

/-- A reader that keeps to the documentation, with the bytes it has still to return. -/
class LawfulReader (σ : Type) [Reader σ] where
  stream : σ → GoString
  fits : ∀ (s : σ) size, (Reader.read s size).1.bytes.length ≤ size
  next : ∀ (s : σ) size, stream s = (Reader.read s size).1.bytes ++ stream (Reader.read s size).2
  ends : ∀ (s : σ) size, (Reader.read s size).1.err = some .eof → stream (Reader.read s size).2 = []

/-- The bytes that reads have returned. -/
def received (results : List ReadResult) : GoString := results.flatMap (·.bytes)

section reads
variable {σ : Type} [Reader σ]

/-- Successive reads into buffers of the given sizes. -/
def reads (s : σ) : List Nat → List ReadResult × σ
  | [] => ([], s)
  | size :: sizes =>
    let (result, s) := Reader.read s size
    let (results, s) := reads s sizes
    (result :: results, s)

lemma reads_cons (s : σ) (size : Nat) (sizes : List Nat) :
    reads s (size :: sizes) =
      ((Reader.read s size).1 :: (reads (Reader.read s size).2 sizes).1,
        (reads (Reader.read s size).2 sizes).2) := rfl

lemma reads_append (s : σ) (sizes sizes' : List Nat) :
    reads s (sizes ++ sizes') =
      ((reads s sizes).1 ++ (reads (reads s sizes).2 sizes').1,
        (reads (reads s sizes).2 sizes').2) := by
  induction sizes generalizing s with
  | nil => rfl
  | cons size sizes ih =>
    rw [List.cons_append, reads_cons, reads_cons, ih]
    rfl

variable [LawfulReader σ]
open LawfulReader

/-- What is returned and what is still to come are the stream. -/
lemma stream_reads (s : σ) (sizes : List Nat) :
    received (reads s sizes).1 ++ stream (reads s sizes).2 = stream s := by
  induction sizes generalizing s with
  | nil => rfl
  | cons size sizes ih =>
    rw [next s size, ← ih (Reader.read s size).2, ← List.append_assoc]
    rfl

/-- No read returns more than its buffer holds. -/
lemma reads_fit (s : σ) (sizes : List Nat) :
    List.Forall₂ (fun result size => result.bytes.length ≤ size) (reads s sizes).1 sizes := by
  induction sizes generalizing s with
  | nil => exact .nil
  | cons size sizes ih => exact .cons (fits s size) (ih (Reader.read s size).2)

/-- A read that reports the end of the stream leaves nothing of it. -/
lemma received_eof {s : σ} {sizes : List Nat} {before after : List ReadResult} {last : ReadResult}
    (split : (reads s sizes).1 = before ++ last :: after) (eof : last.err = some .eof) :
    received (before ++ [last]) = stream s := by
  induction sizes generalizing s before with
  | nil =>
    have length := congrArg List.length split
    simp [reads] at length
  | cons size sizes ih =>
    rw [reads_cons] at split
    rw [next s size]
    cases before with
    | nil =>
      obtain ⟨rfl, _⟩ := List.cons.inj split
      rw [ends s size eof, List.append_nil]
      exact List.append_nil _
    | cons first before =>
      obtain ⟨rfl, rest⟩ := List.cons.inj split
      rw [← ih rest]
      rfl

end reads

/-- A reader with the sizes of the buffers it has been called with. -/
structure Logged (σ : Type) where
  conn : σ
  calls : List Nat

namespace Logged
variable {σ : Type} [Reader σ]

instance : Reader (Logged σ) where
  read s size :=
    let (result, conn) := Reader.read s.conn size
    (result, { conn, calls := s.calls ++ [size] })

instance [LawfulReader σ] : LawfulReader (Logged σ) where
  stream s := LawfulReader.stream s.conn
  fits s := LawfulReader.fits s.conn
  next s := LawfulReader.next s.conn
  ends s := LawfulReader.ends s.conn

end Logged
end Pintle.Go
