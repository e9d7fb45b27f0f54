import Mathlib.Data.List.Basic
import Mathlib.Tactic.Lemma

/-!
# Values in flight, stamped by version

A pipeline hands values on from stage to stage and may drop old ones, never the newest. `Stamped R n
l` says that the values `l` in flight, oldest first, carry strictly increasing versions related to
them by `R`, and that the last one carries the newest version `n`. A value that moves on keeps the
list, a dropped one leaves a list with the same end (`Stamped.drop`), and a new one is pushed
(`Stamped.push`). `Ahead R seen n l` says the same of the values that are on their way to a reader who
holds version `seen`.
-/

namespace Pintle.Lib
variable {α : Type}

/-- Values with increasing versions, the last of which is the newest. -/
def Stamped (R : Nat → α → Prop) (n : Nat) (l : List α) : Prop :=
  ∃ stamps : List (Nat × α), stamps.map (·.2) = l ∧ (∀ stamp ∈ stamps, R stamp.1 stamp.2) ∧
    stamps.Pairwise (fun s t => s.1 < t.1) ∧ ∃ a, stamps.getLast? = some (n, a)

namespace Stamped
variable {R R' : Nat → α → Prop} {n : Nat} {l : List α}

/-- No version is newer than the last one. -/
lemma le_last {stamps : List (Nat × α)} {a : α} (increasing : stamps.Pairwise fun s t => s.1 < t.1)
    (last : stamps.getLast? = some (n, a)) : ∀ stamp ∈ stamps, stamp.1 ≤ n := by
  obtain ⟨older, rfl⟩ := List.getLast?_eq_some_iff.mp last
  intro stamp member
  rcases List.mem_append.mp member with old | newest
  · exact Nat.le_of_lt ((List.pairwise_append.mp increasing).2.2 stamp old (n, a) (by simp))
  · cases List.mem_singleton.mp newest
    exact Nat.le_refl n

/-- Every value has a version, none newer than the last. -/
lemma version {a : α} (stamped : Stamped R n l) (member : a ∈ l) : ∃ k ≤ n, R k a := by
  obtain ⟨stamps, rfl, related, increasing, _, last⟩ := stamped
  obtain ⟨stamp, inside, rfl⟩ := List.mem_map.mp member
  exact ⟨stamp.1, le_last increasing last stamp inside, related stamp inside⟩

/-- One value. -/
lemma single {a : α} (here : R n a) : Stamped R n [a] :=
  ⟨[(n, a)], rfl, by simpa using here, by simp, a, rfl⟩

/-- A newer value enters, and what related the older versions still relates them. -/
lemma push {a : α} (stamped : Stamped R n l) (keep : ∀ k ≤ n, ∀ b, R k b → R' k b)
    (here : R' (n + 1) a) : Stamped R' (n + 1) (l ++ [a]) := by
  obtain ⟨stamps, rfl, related, increasing, b, last⟩ := stamped
  have bound := le_last increasing last
  refine ⟨stamps ++ [(n + 1, a)], by simp, ?_, ?_, a, by simp⟩
  · intro stamp member
    rcases List.mem_append.mp member with old | newest
    · exact keep _ (bound stamp old) _ (related stamp old)
    · rw [List.mem_singleton.mp newest]
      exact here
  · rw [List.pairwise_append]
    refine ⟨increasing, by simp, ?_⟩
    intro stamp old stamp' newest
    rw [List.mem_singleton.mp newest]
    exact Nat.lt_succ_of_le (bound stamp old)

/-- An old value is dropped. -/
lemma drop {older newer : List α} {a : α} (stamped : Stamped R n (older ++ a :: newer))
    (some : newer ≠ []) : Stamped R n (older ++ newer) := by
  obtain ⟨stamps, split, related, increasing, b, last⟩ := stamped
  obtain ⟨old, rest, rfl, rfl, remaining⟩ := List.map_eq_append_iff.mp split
  obtain ⟨stamp, new, rfl, rfl, rfl⟩ := List.map_eq_cons_iff.mp remaining
  have fewer : (old ++ new).Sublist (old ++ stamp :: new) :=
    (List.Sublist.refl old).append (List.sublist_cons_self stamp new)
  refine ⟨old ++ new, by simp, ?_, increasing.sublist fewer, b, ?_⟩
  · intro kept member
    exact related kept (fewer.subset member)
  · cases new with
    | nil => exact absurd rfl some
    | cons first new =>
      rw [List.getLast?_append_cons, List.getLast?_cons_cons] at last
      rw [List.getLast?_append_cons, last]

/-- The newest value carries the newest version. -/
lemma newest (stamped : Stamped R n l) : ∃ a, l.getLast? = some a ∧ R n a := by
  obtain ⟨stamps, rfl, related, _, a, last⟩ := stamped
  refine ⟨a, by rw [List.getLast?_map, last]; rfl, ?_⟩
  exact related (n, a) (List.mem_of_getLast? last)

end Stamped

/-- Values on their way to a reader, with versions from behind the one it holds to the newest. -/
def Ahead (R : Nat → α → Prop) (seen n : Nat) (l : List α) : Prop :=
  Stamped (fun k (a : Option α) => a.elim (k = seen) (R k)) n (none :: l.map some)

namespace Ahead
variable {R R' : Nat → α → Prop} {seen n : Nat} {l : List α}

/-- The reader holds the newest version. -/
lemma refl (R : Nat → α → Prop) (n : Nat) : Ahead R n n [] := .single rfl

/-- The reader holds no version newer than the newest. -/
lemma le (ahead : Ahead R seen n l) : seen ≤ n := by
  obtain ⟨k, bound, rfl⟩ := ahead.version (a := none) List.mem_cons_self
  exact bound

/-- With nothing on its way the reader holds the newest version. -/
lemma settled (ahead : Ahead R seen n []) : n = seen := by
  obtain ⟨a, last, version⟩ := ahead.newest
  cases last
  exact version

/-- A newer value enters. -/
lemma push {a : α} (ahead : Ahead R seen n l) (keep : ∀ k ≤ n, ∀ b, R k b → R' k b)
    (here : R' (n + 1) a) : Ahead R' seen (n + 1) (l ++ [a]) := by
  have later : ∀ k ≤ n, ∀ b : Option α, b.elim (k = seen) (R k) → b.elim (k = seen) (R' k) := by
    intro k bound b related
    cases b with
    | none => exact related
    | some b => exact keep k bound b related
  have pushed := Stamped.push (a := some a) ahead later here
  simpa [Ahead] using pushed

/-- An old value is dropped. -/
lemma drop {older newer : List α} {a : α} (ahead : Ahead R seen n (older ++ a :: newer))
    (some_left : newer ≠ []) : Ahead R seen n (older ++ newer) := by
  rw [Ahead, List.map_append, List.map_cons, ← List.cons_append] at ahead
  have dropped := Stamped.drop ahead (by simpa using some_left)
  simpa [Ahead] using dropped

/-- The reader takes the oldest value. -/
lemma take {a : α} (ahead : Ahead R seen n (a :: l)) :
    ∃ k, seen < k ∧ k ≤ n ∧ R k a ∧ Ahead R k n l := by
  obtain ⟨stamps, split, related, increasing, b, last⟩ := ahead
  obtain ⟨first, rest, rfl, held, remaining⟩ := List.map_eq_cons_iff.mp split
  obtain ⟨second, rest, rfl, here, onward⟩ := List.map_eq_cons_iff.mp remaining
  obtain ⟨k, _⟩ := second
  cases here
  have older : first.1 = seen := by
    have version := related first List.mem_cons_self
    rw [held] at version
    exact version
  have newer := (List.pairwise_cons.mp increasing).1 (k, some a) List.mem_cons_self
  have bound := Stamped.le_last increasing last (k, some a) (by simp)
  obtain ⟨later, increasing'⟩ := List.pairwise_cons.mp (List.pairwise_cons.mp increasing).2
  refine ⟨k, older ▸ newer, bound, related (k, some a) (by simp), ?_⟩
  -- the reader's stamp takes the place of the value's
  refine ⟨(k, none) :: rest, by rw [List.map_cons, onward], ?_, ?_, ?_⟩
  · intro stamp member
    rcases List.mem_cons.mp member with rfl | inside
    · rfl
    · have earlier := related stamp (by simp [inside])
      obtain ⟨value, _, same⟩ := List.mem_map.mp (onward ▸ List.mem_map_of_mem inside)
      rw [← same] at earlier ⊢
      exact earlier
  · exact List.pairwise_cons.mpr ⟨later, increasing'⟩
  · cases rest with
    | nil => exact ⟨none, by cases last; rfl⟩
    | cons stamp rest => exact ⟨b, by simpa using last⟩

end Ahead
end Pintle.Lib
