import Mathlib.Data.List.Sort
import Mathlib.Data.List.MinMax
import Mathlib.Tactic.Lemma

/-!
# Searching a stably sorted list

A table sorted stably by a decreasing key and scanned for the first entry that satisfies a predicate
returns the entry of largest key among those that satisfy it, the earliest of the input on ties
(`find?_sortDesc`, against Mathlib's `List.argmax`). Entries with one common key keep the order of
the input (`filter_sortDesc`).
-/

namespace Pintle.Lib
variable {α : Type} (key : α → Nat)

/-- Stable sort by decreasing key. -/
def sortDesc (l : List α) : List α := l.insertionSort fun a b => key b ≤ key a

@[simp]
lemma sortDesc_nil : sortDesc key [] = [] := rfl

lemma sortDesc_cons (a : α) (l : List α) :
    sortDesc key (a :: l) = (sortDesc key l).orderedInsert (fun a b => key b ≤ key a) a := rfl

@[simp]
lemma mem_sortDesc {a : α} {l : List α} : a ∈ sortDesc key l ↔ a ∈ l :=
  (List.perm_insertionSort _ l).mem_iff

lemma sortDesc_sorted (l : List α) : (sortDesc key l).Pairwise fun a b => key b ≤ key a := by
  have : Std.Total fun a b : α => key b ≤ key a := ⟨fun a b => Nat.le_total (key b) (key a)⟩
  have : IsTrans α fun a b : α => key b ≤ key a := ⟨fun a b c ab bc => Nat.le_trans bc ab⟩
  exact List.pairwise_insertionSort _ l

/-- The largest entry of two lists, the earlier list winning ties. -/
lemma argmax_append (l l' : List α) :
    (l ++ l').argmax key =
      match l.argmax key, l'.argmax key with
      | none, c => c
      | some a, none => some a
      | some a, some c => if key a < key c then some c else some a := by
  induction l with
  | nil => rfl
  | cons a l ih =>
    rw [List.cons_append, List.argmax_cons, List.argmax_cons, ih]
    cases l.argmax key with
    | none => cases l'.argmax key <;> rfl
    | some b =>
      cases l'.argmax key with
      | none =>
        dsimp only
        split <;> rfl
      | some c =>
        by_cases bc : key b < key c <;> by_cases ab : key a < key b <;>
          by_cases ac : key a < key c <;> simp [bc, ab, ac] <;> omega

/-- One insertion changes the first match only if the new entry matches and is not below it. -/
lemma find?_orderedInsert (p : α → Bool) (a : α) {s : List α}
    (sorted : s.Pairwise fun a b => key b ≤ key a) :
    (s.orderedInsert (fun a b => key b ≤ key a) a).find? p =
      if p a then
        match s.find? p with
        | none => some a
        | some c => if key a < key c then some c else some a
      else s.find? p := by
  induction s with
  | nil => simp [List.find?_cons]; cases p a <;> rfl
  | cons b s ih =>
    rw [List.pairwise_cons] at sorted
    obtain ⟨below, rest⟩ := sorted
    by_cases first : key b ≤ key a
    · rw [List.orderedInsert_cons, if_pos first, List.find?_cons]
      cases pa : p a with
      | false => rfl
      | true =>
        cases found : (b :: s).find? p with
        | none => rfl
        | some c =>
          have low : key c ≤ key b := by
            rcases List.mem_cons.mp (List.mem_of_find?_eq_some found) with e | member
            · rw [e]
            · exact below c member
          have notLess : ¬ key a < key c := by omega
          simp [notLess]
    · rw [List.orderedInsert_cons, if_neg first, List.find?_cons]
      cases pb : p b with
      | false =>
        rw [ih rest]
        simp [pb]
      | true =>
        have less : key a < key b := by omega
        simp [pb, less]

/-- The first match of the sorted list is the earliest match of largest key in the input. -/
theorem find?_sortDesc (p : α → Bool) (l : List α) :
    (sortDesc key l).find? p = (l.filter p).argmax key := by
  induction l with
  | nil => rfl
  | cons a l ih =>
    rw [sortDesc_cons, find?_orderedInsert key p a (sortDesc_sorted key l), ih]
    cases pa : p a with
    | false => simp [pa]
    | true =>
      rw [if_pos rfl, List.filter_cons_of_pos pa, List.argmax_cons]
      cases (l.filter p).argmax key <;> rfl

lemma filter_orderedInsert (p : α → Bool) (a : α) (s : List α)
    (same : ∀ b ∈ s, p a → p b → key b ≤ key a) :
    (s.orderedInsert (fun a b => key b ≤ key a) a).filter p = (a :: s).filter p := by
  induction s with
  | nil => rfl
  | cons b s ih =>
    by_cases first : key b ≤ key a
    · rw [List.orderedInsert_cons, if_pos first]
    · rw [List.orderedInsert_cons, if_neg first, List.filter_cons,
        ih fun c member => same c (List.mem_cons_of_mem b member)]
      cases pa : p a with
      | false => simp [List.filter_cons, pa]
      | true =>
        have pb : p b = false := by
          by_contra matched
          exact first (same b List.mem_cons_self pa (by simpa using matched))
        simp [pa, pb]

/-- Matches that share one key keep the order of the input. -/
theorem filter_sortDesc (p : α → Bool) (l : List α)
    (same : ∀ a ∈ l, ∀ b ∈ l, p a → p b → key a = key b) :
    (sortDesc key l).filter p = l.filter p := by
  induction l with
  | nil => rfl
  | cons a l ih =>
    rw [sortDesc_cons, filter_orderedInsert key p a]
    · rw [List.filter_cons, List.filter_cons,
        ih fun b mb c mc => same b (List.mem_cons_of_mem a mb) c (List.mem_cons_of_mem a mc)]
    · intro b member pa pb
      have member := List.mem_cons_of_mem a ((mem_sortDesc key).mp member)
      exact (same b member a List.mem_cons_self pb pa).le

end Pintle.Lib
