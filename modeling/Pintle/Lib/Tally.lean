import Mathlib.Algebra.BigOperators.Group.List.Basic
import Mathlib.Algebra.GroupWithZero.Nat
import Mathlib.Data.List.AList
import Mathlib.Data.List.Induction
import Mathlib.Tactic.Lemma

/-!
# Running summaries by key

A fold that keeps a summary for each key of its entries in a map (`tally`). The summary of a key is
the fold over the entries with that key (`lookup_tally`). A measure of summaries that grows by one
with each entry adds up, over some of the keys, to the number of entries with those keys
(`total_tally`).
-/

namespace Pintle.Lib
variable {α κ ν : Type} [DecidableEq κ]

/-- Add an entry to the summary of its key. -/
def tallyStep (key : α → κ) (init : ν) (update : ν → α → ν) (m : AList fun _ : κ => ν) (a : α) :
    AList fun _ : κ => ν :=
  m.insert (key a) (update ((m.lookup (key a)).getD init) a)

/-- The summaries of a list of entries. -/
def tally (key : α → κ) (init : ν) (update : ν → α → ν) (l : List α) : AList fun _ : κ => ν :=
  l.foldl (tallyStep key init update) ∅

/-- The measures of the summaries of some keys, added up. -/
def total (p : κ → Bool) (measure : ν → Nat) (m : AList fun _ : κ => ν) : Nat :=
  ((m.entries.filter fun e => p e.1).map fun e => measure e.2).sum

variable {key : α → κ} {init : ν} {update : ν → α → ν}

lemma tally_append (l : List α) (a : α) :
    tally key init update (l ++ [a]) = tallyStep key init update (tally key init update l) a := by
  rw [tally, List.foldl_append]
  rfl

lemma filter_append_key (l : List α) (a : α) (k : κ) :
    ((l ++ [a]).filter fun b => key b = k) =
      (l.filter fun b => key b = k) ++ if key a = k then [a] else [] := by
  rw [List.filter_append, List.filter_singleton]
  simp

/-- The summary of a key is that of its entries. -/
lemma lookup_tally (l : List α) (k : κ) :
    (tally key init update l).lookup k =
      if (l.filter fun a => key a = k) = [] then none
      else some ((l.filter fun a => key a = k).foldl update init) := by
  induction l using List.reverseRecOn with
  | nil => rfl
  | append_singleton l a ih =>
    rw [tally_append, tallyStep, filter_append_key]
    by_cases here : key a = k
    · subst here
      have before : ((tally key init update l).lookup (key a)).getD init =
          (l.filter fun b => key b = key a).foldl update init := by
        rw [ih]
        split
        · rename_i empty
          rw [empty]
          rfl
        · rfl
      rw [AList.lookup_insert, before, if_pos rfl, if_neg (by simp), List.foldl_append]
      rfl
    · rw [AList.lookup_insert_ne (Ne.symm here), ih, if_neg here, List.append_nil]

/-- An insertion takes the measure of the old summary away and adds that of the new one. -/
lemma total_insert (p : κ → Bool) (measure : ν → Nat) (m : AList fun _ : κ => ν) (k : κ) (v : ν) :
    total p measure (m.insert k v) + (if p k then (m.lookup k).elim 0 measure else 0) =
      total p measure m + if p k then measure v else 0 := by
  by_cases stored : k ∈ m
  · obtain ⟨old, front, back, _, split, erased⟩ := List.exists_of_kerase stored
    have found : m.lookup k = some old := by
      rw [← Option.mem_def, AList.mem_lookup_iff, split]
      simp
    rw [total, AList.entries_insert, erased, found, total, split]
    cases member : p k with
    | false => simp [member]
    | true =>
      simp [member]
      omega
  · rw [total, AList.entries_insert_of_notMem stored, AList.lookup_eq_none.mpr stored, total]
    cases member : p k with
    | false => simp [member]
    | true =>
      simp [member]
      omega

/-- Each entry counts once, under its key. -/
lemma total_tally {p : κ → Bool} {measure : ν → Nat} (zero : measure init = 0)
    (grows : ∀ v a, measure (update v a) = measure v + 1) (l : List α) :
    total p measure (tally key init update l) = (l.filter fun a => p (key a)).length := by
  induction l using List.reverseRecOn with
  | nil => rfl
  | append_singleton l a ih =>
    have step := total_insert p measure (tally key init update l) (key a)
      (update (((tally key init update l).lookup (key a)).getD init) a)
    have old : ((tally key init update l).lookup (key a)).elim 0 measure =
        measure (((tally key init update l).lookup (key a)).getD init) := by
      cases (tally key init update l).lookup (key a) with
      | none => exact zero.symm
      | some v => rfl
    rw [ih, grows, ← old] at step
    rw [tally_append, tallyStep, List.filter_append, List.length_append, List.filter_singleton]
    cases member : p (key a) with
    | false =>
      rw [member] at step
      exact step
    | true =>
      simp only [member, if_true] at step
      show _ = (l.filter fun a => p (key a)).length + 1
      omega

end Pintle.Lib
