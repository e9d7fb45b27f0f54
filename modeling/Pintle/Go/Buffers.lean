import Pintle.Go.Values

/-!
# Checked reads from a buffer

A Go index or slice expression that leaves its operand panics, and an unrecovered panic ends the
process. Code that reads a buffer is modelled in `Except Panic`, where a read out of range is an
error (`index`, `slice`), and `Runs` says that a computation ends without one. The rules for `Runs`
follow the statements of a function in order; the `_at` lemmas compute a read at the end of a known
prefix.
-/

namespace Pintle.Go

/-- A run-time panic of an index or slice expression. -/
inductive Panic where
  | index (i length : Nat)
  | slice (low high length : Nat)
  deriving DecidableEq, Repr

/-- Go `buf[i]`. -/
def index (buf : List UInt8) (i : Nat) : Except Panic UInt8 :=
  match buf[i]? with
  | some b => .ok b
  | none => .error (.index i buf.length)

/-- Go `buf[low:high]`, within the length of the buffer. -/
def slice (buf : List UInt8) (low high : Nat) : Except Panic (List UInt8) :=
  if low ≤ high ∧ high ≤ buf.length then .ok ((buf.drop low).take (high - low))
  else .error (.slice low high buf.length)

/-- Go `int(buf[i])<<8 | int(buf[i+1])`. -/
def uint16 (buf : List UInt8) (i : Nat) : Except Panic Nat := do
  let high ← index buf i
  let low ← index buf (i + 1)
  return high.toNat <<< 8 ||| low.toNat

/-- The two bytes of a number, most significant first. -/
def putUint16 (n : Nat) : List UInt8 := [UInt8.ofNat (n / 256), UInt8.ofNat n]

/-- A computation ends without a panic. -/
def Runs {α : Type} (x : Except Panic α) : Prop := ∃ a, x = .ok a

lemma Runs.pure {α : Type} (a : α) : Runs (Pure.pure a : Except Panic α) := ⟨a, rfl⟩

lemma Runs.bind {α β : Type} {x : Except Panic α} {f : α → Except Panic β} (first : Runs x)
    (rest : ∀ a, x = .ok a → Runs (f a)) : Runs (x >>= f) := by
  obtain ⟨a, rfl⟩ := first
  exact rest a rfl

lemma Runs.ite {α : Type} {c : Prop} [Decidable c] {x y : Except Panic α} (yes : c → Runs x)
    (no : ¬ c → Runs y) : Runs (if c then x else y) := by
  split
  · rename_i holds
    exact yes holds
  · rename_i fails
    exact no fails

lemma Runs.index {buf : List UInt8} {i : Nat} (bound : i < buf.length) : Runs (index buf i) :=
  ⟨buf[i], by simp [Go.index, bound]⟩

lemma Runs.slice {buf : List UInt8} {low high : Nat} (order : low ≤ high)
    (bound : high ≤ buf.length) : Runs (slice buf low high) :=
  ⟨_, if_pos ⟨order, bound⟩⟩

lemma Runs.uint16 {buf : List UInt8} {i : Nat} (bound : i + 1 < buf.length) :
    Runs (uint16 buf i) :=
  (Runs.index (by omega)).bind fun _ _ => (Runs.index bound).bind fun _ _ => .pure _

lemma bind_eq_ok {α β : Type} {x : Except Panic α} {f : α → Except Panic β} {b : β} :
    x >>= f = .ok b ↔ ∃ a, x = .ok a ∧ f a = .ok b := by
  cases x with
  | error e => simp [bind, Except.bind]
  | ok a => simp [bind, Except.bind]

/-- A string other than the empty one comes from behind a check. -/
lemma guard_eq_ok {c : Prop} [Decidable c] {x : Except Panic GoString} {s : GoString}
    (some_byte : s ≠ []) : (if c then return [] else x) = .ok s ↔ ¬ c ∧ x = .ok s := by
  by_cases holds : c
  · rw [if_pos holds]
    refine iff_of_false (fun same => some_byte (Except.ok.inj same).symm) fun passed => ?_
    exact passed.1 holds
  · rw [if_neg holds]
    exact (and_iff_right holds).symm

lemma index_eq_ok {buf : List UInt8} {i : Nat} {b : UInt8} :
    index buf i = .ok b ↔ buf[i]? = some b := by
  unfold index
  cases buf[i]? <;> simp

lemma uint16_eq_ok {buf : List UInt8} {i n : Nat} :
    uint16 buf i = .ok n ↔ ∃ high low, buf[i]? = some high ∧ buf[i + 1]? = some low ∧
      high.toNat <<< 8 ||| low.toNat = n := by
  simp only [uint16, bind_eq_ok, index_eq_ok, pure, Except.pure, Except.ok.injEq, exists_and_left]

lemma index_bound {buf : List UInt8} {i : Nat} {b : UInt8} (read : index buf i = .ok b) :
    i < buf.length :=
  (List.getElem?_eq_some_iff.mp (index_eq_ok.mp read)).1

lemma uint16_bound {buf : List UInt8} {i n : Nat} (read : uint16 buf i = .ok n) :
    i + 1 < buf.length := by
  obtain ⟨_, _, _, low, _⟩ := uint16_eq_ok.mp read
  exact (List.getElem?_eq_some_iff.mp low).1

lemma slice_eq_ok {buf bytes : List UInt8} {low high : Nat} :
    slice buf low high = .ok bytes ↔
      low ≤ high ∧ high ≤ buf.length ∧ bytes = (buf.drop low).take (high - low) := by
  unfold slice
  split
  · rename_i bounds
    simp only [Except.ok.injEq, bounds, true_and, eq_comm]
  · rename_i bounds
    simp only [reduceCtorEq, false_iff, not_and]
    exact fun order bound => absurd ⟨order, bound⟩ bounds

/-- The byte after a prefix. -/
lemma index_at {buf : List UInt8} (pre rest : List UInt8) {b : UInt8} {i : Nat}
    (split : buf = pre ++ b :: rest) (at_end : i = pre.length) : index buf i = .ok b := by
  subst split at_end
  simp [index]

/-- The bytes after a prefix. -/
lemma slice_at {buf bytes : List UInt8} (pre rest : List UInt8) {low high : Nat}
    (split : buf = pre ++ (bytes ++ rest))
    (at_end : low = pre.length) (size : high = low + bytes.length) :
    slice buf low high = .ok bytes := by
  subst split at_end size
  rw [slice, if_pos (by simp), List.drop_left, Nat.add_sub_cancel_left, List.take_left]

/-- The number after a prefix. -/
lemma uint16_at {buf : List UInt8} (pre rest : List UInt8) {n i : Nat}
    (split : buf = pre ++ (putUint16 n ++ rest)) (at_end : i = pre.length) (small : n < 65536) :
    uint16 buf i = .ok n := by
  have high : index buf i = .ok (UInt8.ofNat (n / 256)) :=
    index_at pre (UInt8.ofNat n :: rest) split at_end
  have low : index buf (i + 1) = .ok (UInt8.ofNat n) :=
    index_at (pre ++ [UInt8.ofNat (n / 256)]) rest (by simp [split, putUint16]) (by simp [at_end])
  have joined : (UInt8.ofNat (n / 256)).toNat <<< 8 ||| (UInt8.ofNat n).toNat = n := by
    rw [UInt8.toNat_ofNat', UInt8.toNat_ofNat', ← Nat.shiftLeft_add_eq_or_of_lt (by omega),
      Nat.shiftLeft_eq]
    omega
  rw [uint16, high]
  simp only [bind, Except.bind, low, pure, Except.pure, joined]

@[simp]
lemma length_putUint16 (n : Nat) : (putUint16 n).length = 2 := rfl

/-- A zero number is two zero bytes. -/
lemma uint16_eq_zero {buf : List UInt8} {i : Nat} (zero : uint16 buf i = .ok 0) :
    buf[i]? = some 0 ∧ buf[i + 1]? = some 0 := by
  unfold uint16 at zero
  cases high : index buf i with
  | error _ => simp [high, bind, Except.bind] at zero
  | ok a =>
    cases low : index buf (i + 1) with
    | error _ => simp [high, low, bind, Except.bind] at zero
    | ok b =>
      simp only [high, low, bind, Except.bind, pure, Except.pure, Except.ok.injEq,
        Nat.or_eq_zero_iff, Nat.shiftLeft_eq] at zero
      have a_zero : a = 0 := UInt8.toNat_inj.mp (by simp; omega)
      have b_zero : b = 0 := UInt8.toNat_inj.mp (by simp; omega)
      subst a_zero b_zero
      exact ⟨index_eq_ok.mp high, index_eq_ok.mp low⟩

section agree
variable {buf buf' : List UInt8} {size : Nat} (agree : buf'.take size = buf.take size)
include agree

/-- A read inside a prefix sees the prefix only. -/
lemma index_agree {i : Nat} {b : UInt8} (read : index buf i = .ok b) (inside : i < size) :
    index buf' i = .ok b := by
  rw [index_eq_ok] at read ⊢
  rw [← List.getElem?_take_of_lt inside, agree, List.getElem?_take_of_lt inside, read]

lemma uint16_agree {i n : Nat} (read : uint16 buf i = .ok n) (inside : i + 1 < size) :
    uint16 buf' i = .ok n := by
  obtain ⟨high, high_read, rest⟩ := bind_eq_ok.mp read
  obtain ⟨low, low_read, rest⟩ := bind_eq_ok.mp rest
  have high_read' := index_agree agree high_read (by omega)
  exact bind_eq_ok.mpr ⟨high, high_read',
    bind_eq_ok.mpr ⟨low, index_agree agree low_read inside, rest⟩⟩

end agree
end Pintle.Go
