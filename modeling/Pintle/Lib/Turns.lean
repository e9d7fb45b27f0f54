import Mathlib.Data.List.Perm.Basic
import Mathlib.Data.List.Rotate
import Mathlib.Tactic.Lemma

/-!
# Taking turns

The entries of a list taken one after the other, again and again, from some position on (`turns`).
As many turns as the list has entries are the list rotated (`turns_rotate`), so any such window of a
longer run is a permutation of the list (`turns_window`), and two entries that occur once each have
taken as many turns up to one (`count_turns_le`); from the beginning, the earlier of them is never behind
(`count_turns_order`).
-/

namespace Pintle.Lib
variable {α : Type} {l : List α} (some : l ≠ [])

/-- The entry whose turn it is after `n` turns. -/
def turn (n : Nat) : α := l.get ⟨n % l.length, Nat.mod_lt n (List.length_pos_iff.mpr some)⟩

/-- The next `k` turns after `n` turns. -/
def turns (n k : Nat) : List α := (List.range k).map fun i => turn some (n + i)

@[simp]
lemma length_turns (n k : Nat) : (turns some n k).length = k := by simp [turns]

@[simp]
lemma turns_zero (n : Nat) : turns some n 0 = [] := rfl

lemma turns_succ (n k : Nat) : turns some n (k + 1) = turns some n k ++ [turn some (n + k)] := by
  rw [turns, List.range_succ, List.map_append]
  rfl

lemma turns_add (n j k : Nat) : turns some n (j + k) = turns some n j ++ turns some (n + j) k := by
  induction k with
  | zero => simp
  | succ k ih => rw [← Nat.add_assoc, turns_succ, ih, turns_succ, List.append_assoc, Nat.add_assoc]

/-- A window of the turns are the turns from its position on. -/
lemma turns_drop_take {n k i j : Nat} (inside : i + j ≤ k) :
    ((turns some n k).drop i).take j = turns some (n + i) j := by
  obtain ⟨rest, rfl⟩ := Nat.exists_eq_add_of_le inside
  have before := length_turns some n i
  have window := length_turns some (n + i) j
  rw [Nat.add_assoc, turns_add, List.drop_left' before, turns_add, List.take_left' window]

/-- One turn for each entry rotates the list. -/
lemma turns_rotate (n : Nat) : turns some n l.length = l.rotate n := by
  apply List.ext_getElem
  · simp
  · intro i inside _
    rw [List.getElem_rotate]
    simp [turns, turn, Nat.add_comm]

/-- Any window with one turn for each entry is a permutation of the list. -/
theorem turns_window {n k i : Nat} (inside : i + l.length ≤ k) :
    (((turns some n k).drop i).take l.length).Perm l := by
  rw [turns_drop_take some inside, turns_rotate]
  exact List.rotate_perm l _

variable [DecidableEq α]

/-- An entry that occurs once takes one turn in each round. -/
lemma count_turns {a : α} (once : l.count a = 1) (n k : Nat) :
    k / l.length ≤ (turns some n k).count a ∧ (turns some n k).count a ≤ k / l.length + 1 := by
  have positive := List.length_pos_iff.mpr some
  induction k using Nat.strong_induction_on generalizing n with
  | _ k ih =>
    by_cases round : l.length ≤ k
    · -- a full round, and the turns after it
      obtain ⟨rest, rfl⟩ := Nat.exists_eq_add_of_le round
      obtain ⟨low, high⟩ := ih rest (by omega) (n + l.length)
      have full : (turns some n l.length).count a = 1 := by
        rw [turns_rotate, (List.rotate_perm l n).count_eq, once]
      rw [turns_add, List.count_append, full, Nat.add_div_left rest positive]
      omega
    · -- less than a round
      have part : (turns some n k).Sublist (l.rotate n) := by
        obtain ⟨rest, whole⟩ := Nat.exists_eq_add_of_le (Nat.le_of_not_le round)
        rw [← turns_rotate some, whole, turns_add]
        exact List.sublist_append_left _ _
      have bound := part.count_le a
      rw [(List.rotate_perm l n).count_eq, once] at bound
      rw [Nat.div_eq_of_lt (by omega)]
      omega

/-- The turns of two entries that occur once differ by at most one. -/
theorem count_turns_le {a b : α} (once : l.count a = 1) (once' : l.count b = 1) (n k : Nat) :
    (turns some n k).count a ≤ (turns some n k).count b + 1 := by
  have high := (count_turns some once n k).2
  have low := (count_turns some once' n k).1
  omega

omit [DecidableEq α] in
/-- After a full round the turns begin again. -/
lemma turns_round (k : Nat) : turns some l.length k = turns some 0 k := by
  rw [turns, turns]
  apply List.map_congr_left
  intro i _
  simp [turn]

/-- From the beginning of the list, an entry has taken no more turns than one before it. -/
theorem count_turns_order {a b : α} (once : l.count a = 1) (once' : l.count b = 1)
    (before : l.idxOf a ≤ l.idxOf b) (k : Nat) :
    (turns some 0 k).count b ≤ (turns some 0 k).count a := by
  have positive := List.length_pos_iff.mpr some
  induction k using Nat.strong_induction_on with
  | _ k ih =>
    by_cases round : l.length ≤ k
    · obtain ⟨rest, rfl⟩ := Nat.exists_eq_add_of_le round
      have rest_le := ih rest (by omega)
      have full : turns some 0 l.length = l := by rw [turns_rotate, List.rotate_zero]
      rw [turns_add, Nat.zero_add, full, turns_round, List.count_append, List.count_append, once, once']
      exact Nat.add_le_add_left rest_le 1
    · -- less than a round: the entries that are reached
      have part : turns some 0 k = l.take k := by
        have whole := turns_drop_take some (n := 0) (k := l.length) (i := 0) (j := k) (by omega)
        rw [turns_rotate, List.rotate_zero, List.drop_zero] at whole
        exact whole.symm
      have inside : a ∈ l := List.count_pos_iff.mp (by omega)
      have inside' : b ∈ l := List.count_pos_iff.mp (by omega)
      rw [part]
      by_cases reached : b ∈ l.take k
      · have index := (List.mem_take_iff_idxOf_lt inside').mp reached
        have earlier := (List.mem_take_iff_idxOf_lt inside).mpr (before.trans_lt index)
        have bound := (List.take_sublist k l).count_le b
        have taken := List.count_pos_iff.mpr earlier
        omega
      · rw [List.count_eq_zero.mpr reached]
        exact Nat.zero_le _

end Pintle.Lib
