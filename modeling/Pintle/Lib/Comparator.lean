import Mathlib.Algebra.Order.Ring.Rat
import Mathlib.Data.List.Sort
import Mathlib.Tactic.Linarith

/-!
# Stable sorts by a comparator

A comparator gives the sign of a difference, as the ones that sorting functions take. When it is
consistent (`Consistent`), a stable sort by it puts the entries in order (`Consistent.sorted`); those
of which none is before another keep their order whatever the comparator is (`filter_insertionSort`).
-/

namespace Pintle.Lib
open scoped List
variable {α β : Type}

/-- The order of a comparator is one of a weak order: swapping the entries swaps the sign. -/
structure Consistent (compare : α → α → ℚ) : Prop where
  swap : ∀ a b, compare a b ≤ 0 ↔ 0 ≤ compare b a
  trans : ∀ a b c, compare a b ≤ 0 → compare b c ≤ 0 → compare a c ≤ 0

namespace Consistent
variable {compare : α → α → ℚ}

lemma comap (consistent : Consistent compare) (f : β → α) :
    Consistent fun a b => compare (f a) (f b) where
  swap a b := consistent.swap (f a) (f b)
  trans a b c := consistent.trans (f a) (f b) (f c)

/-- The other direction of a comparator. -/
lemma neg (consistent : Consistent compare) : Consistent fun a b => -compare a b where
  swap a b := by rw [neg_nonpos, neg_nonneg, consistent.swap b a]
  trans a b c ab bc := by
    rw [neg_nonpos, ← consistent.swap] at ab bc ⊢
    exact consistent.trans c b a bc ab

/-- The difference of a key. -/
lemma difference (key : α → ℚ) : Consistent fun a b => key a - key b where
  swap a b := by rw [sub_nonpos, sub_nonneg]
  trans a b c ab bc := by linarith

lemma total (consistent : Consistent compare) (a b : α) : compare a b ≤ 0 ∨ compare b a ≤ 0 := by
  rcases le_total (compare a b) 0 with before | after
  · exact .inl before
  · exact .inr ((consistent.swap b a).mpr after)

/-- A sort by a consistent comparator sorts. -/
lemma sorted (consistent : Consistent compare) (l : List α) :
    (l.insertionSort fun a b => compare a b ≤ 0).Pairwise fun a b => compare a b ≤ 0 := by
  have : Std.Total fun a b => compare a b ≤ 0 := ⟨consistent.total⟩
  have : IsTrans α fun a b => compare a b ≤ 0 := ⟨consistent.trans⟩
  exact List.pairwise_insertionSort _ l

end Consistent

/-- Entries that may stand in any order keep theirs in a sort. -/
lemma filter_insertionSort {r : α → α → Prop} [DecidableRel r] {p : α → Bool}
    (same : ∀ a b, p a = true → p b = true → r a b) (l : List α) :
    (l.insertionSort r).filter p = l.filter p := by
  have equal : (l.filter p).Pairwise r := by
    apply List.pairwise_of_forall_mem_list
    intro a ina b inb
    exact same a b (List.mem_filter.mp ina).2 (List.mem_filter.mp inb).2
  have inside : (l.filter p).filter p <+ (l.insertionSort r).filter p :=
    (List.sublist_insertionSort equal List.filter_sublist).filter p
  rw [List.filter_eq_self.mpr fun a member => (List.mem_filter.mp member).2] at inside
  have length := ((List.perm_insertionSort r l).filter p).length_eq
  exact (inside.eq_of_length length.symm).symm

end Pintle.Lib
