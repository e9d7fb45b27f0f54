import Pintle.Go.Values

/-!
# The order of a range statement

Which entry a loop over a map ends up with. A loop that stops at the first match takes `find?` of
the entries as they are visited, one that keeps the last match takes it of the reverse
(`foldl_last`). Every match is the one taken in some order (`find?_front`, `find?_back`), and only
matches are.
-/

namespace Pintle.Go
variable {α β : Type}

lemma GoMap.keys_nodup [DecidableEq α] (m : GoMap α β) : (m.pairs.map Prod.fst).Nodup := by
  have keys : m.pairs.map Prod.fst = m.entries.keys := by simp [GoMap.pairs, List.keys]
  rw [keys]
  exact m.nodupKeys

lemma GoMap.pairs_nodup [DecidableEq α] (m : GoMap α β) : m.pairs.Nodup := m.keys_nodup.of_map _

/-- A loop that keeps the last match. -/
lemma foldl_last (p : α → Bool) (f : α → β) (init : β) (l : List α) :
    l.foldl (fun acc a => if p a then f a else acc) init =
      ((l.reverse.find? p).map f).getD init := by
  induction l generalizing init with
  | nil => rfl
  | cons a l ih =>
    rw [List.foldl_cons, ih, List.reverse_cons, List.find?_append]
    cases l.reverse.find? p with
    | some b => rfl
    | none => cases holds : p a <;> simp [holds]

/-- A search finds an entry that is the only match among those before the end. -/
lemma find?_append_only {p : α → Bool} {l l' : List α} {a : α} (member : a ∈ l) (holds : p a = true)
    (only : ∀ b ∈ l, p b = true → b = a) : (l ++ l').find? p = some a := by
  rw [List.find?_append]
  cases found : l.find? p with
  | none => exact absurd holds (by simpa using List.find?_eq_none.mp found a member)
  | some b =>
    rw [only b (List.mem_of_find?_eq_some found) (List.find?_some found)]
    rfl

/-- A function of the match taken does not depend on the order when all matches are alike to it. -/
lemma find?_perm {p : α → Bool} {l l' : List α} (perm : l.Perm l') (f : Option α → β)
    (alike : ∀ a ∈ l, ∀ b ∈ l, p a = true → p b = true → f (some a) = f (some b)) :
    f (l.find? p) = f (l'.find? p) := by
  cases found : l.find? p with
  | none =>
    have missing : l'.find? p = none :=
      List.find?_eq_none.mpr fun a member => List.find?_eq_none.mp found a (perm.mem_iff.mpr member)
    rw [missing]
  | some a =>
    have listed := List.mem_of_find?_eq_some found
    have holds := List.find?_some found
    cases found' : l'.find? p with
    | none => exact absurd holds (List.find?_eq_none.mp found' a (perm.mem_iff.mp listed))
    | some b =>
      exact alike a listed b (perm.mem_iff.mpr (List.mem_of_find?_eq_some found')) holds
        (List.find?_some found')

/-- Two maps that may differ at one entry only, with the same values up to their order, agree there
too. -/
lemma eq_of_map_perm {f g : α → β} {l : List α} {a : α} (member : a ∈ l) (nodup : l.Nodup)
    (others : ∀ b ∈ l, b ≠ a → f b = g b) (perm : (l.map f).Perm (l.map g)) : f a = g a := by
  obtain ⟨front, rest, rfl⟩ := List.append_of_mem member
  have apart := List.nodup_middle.mp nodup
  have same : (front ++ rest).map f = (front ++ rest).map g := by
    refine List.map_congr_left fun b inside => others b ?_ ?_
    · exact List.perm_middle.mem_iff.mpr (List.mem_cons_of_mem a inside)
    · rintro rfl
      exact (List.nodup_cons.mp apart).1 inside
  have moved := ((List.perm_middle.map f).symm.trans perm).trans (List.perm_middle.map g)
  rw [List.map_cons, List.map_cons, same] at moved
  exact List.singleton_perm_singleton.mp ((List.perm_append_right_iff _).mp
    (show ([f a] ++ (front ++ rest).map g).Perm ([g a] ++ (front ++ rest).map g) from moved))

/-- The groups of distinct keys hold the entries with one of the keys. -/
lemma flatMap_groups_perm [DecidableEq β] (key : α → β) {keys : List β} (nodup : keys.Nodup)
    {l : List α} {p : α → Bool} (keyed : ∀ a ∈ l, p a = true ↔ key a ∈ keys) :
    (keys.flatMap fun k => l.filter (key · = k)).Perm (l.filter p) := by
  induction keys generalizing p with
  | nil =>
    rw [List.filter_eq_nil_iff.mpr fun a member taken => List.not_mem_nil ((keyed a member).mp taken)]
    exact .refl _
  | cons k keys ih =>
    obtain ⟨fresh, rest⟩ := List.nodup_cons.mp nodup
    have own : (l.filter p).filter (key · = k) = l.filter (key · = k) := by
      rw [List.filter_filter]
      apply List.filter_congr
      intro a member
      have taken := keyed a member
      by_cases same : key a = k
      · simp [same, taken.mpr (same ▸ List.mem_cons_self)]
      · simp [same]
    have others : (l.filter p).filter (fun a => !decide (key a = k)) =
        l.filter fun a => p a && key a ≠ k := by
      rw [List.filter_filter]
      apply List.filter_congr
      intro a _
      rw [Bool.and_comm, decide_not]
    have remaining := ih rest (p := fun a => p a && key a ≠ k) fun a member => by
      rw [Bool.and_eq_true, keyed a member, decide_eq_true_eq, List.mem_cons]
      constructor
      · rintro ⟨rfl | inside, apart⟩
        · exact absurd rfl apart
        · exact inside
      · intro inside
        exact ⟨.inr inside, fun same => fresh (same ▸ inside)⟩
    have parts := List.filter_append_perm (key · = k) (l.filter p)
    rw [own, others] at parts
    rw [List.flatMap_cons]
    exact (remaining.append_left _).trans parts

/-- A loop over a map visits the values of the keys that the map may have, in some order. -/
lemma GoMap.flatMap_pairs_perm {γ : Type} [DecidableEq α] (m : GoMap α β) (f : β → List γ)
    {keys : List α} (nodup : keys.Nodup) (within : ∀ k v, m.lookup k = some v → k ∈ keys)
    (ord : RangeOrder (α × β)) : ((ord.visit m.pairs).flatMap fun entry => f entry.2).Perm
      (keys.flatMap fun k => ((m.lookup k).map f).getD []) := by
  have entries : m.pairs.Perm (keys.filterMap fun k => (m.lookup k).map fun v => (k, v)) := by
    refine (List.perm_ext_iff_of_nodup m.pairs_nodup (nodup.filterMap ?_)).mpr ?_
    · intro k k' entry here there
      obtain ⟨_, _, rfl⟩ := Option.map_eq_some_iff.mp here
      obtain ⟨_, _, same⟩ := Option.map_eq_some_iff.mp there
      exact (congrArg Prod.fst same).symm
    · rintro ⟨k, v⟩
      rw [GoMap.mem_pairs, List.mem_filterMap]
      constructor
      · intro stored
        exact ⟨k, within k v stored, by rw [stored, Option.map_some]⟩
      · rintro ⟨k', _, here⟩
        obtain ⟨v', stored, same⟩ := Option.map_eq_some_iff.mp here
        cases same
        exact stored
  refine (((ord.perm m.pairs).trans entries).flatMap_right _).trans (.of_eq ?_)
  rw [List.filterMap_eq_flatMap_toList, List.flatMap_assoc]
  refine List.flatMap_congr fun k _ => ?_
  cases m.lookup k with
  | none => rfl
  | some v => exact List.append_nil _

namespace RangeOrder

/-- The order in which the chosen entries come first. -/
def front (chosen : α → Bool) : RangeOrder α where
  visit l := l.filter chosen ++ l.filter fun a => !chosen a
  perm := List.filter_append_perm chosen

/-- The order in which the chosen entries come last. -/
def back (chosen : α → Bool) : RangeOrder α where
  visit l := (l.filter fun a => !chosen a) ++ l.filter chosen
  perm l := List.perm_append_comm.trans (List.filter_append_perm chosen l)

variable {p chosen : α → Bool} {l : List α} {a : α} (member : a ∈ l) (holds : p a = true)
  (taken : chosen a = true) (only : ∀ b ∈ l, chosen b = true → p b = true → b = a)
include member holds taken only

/-- The only match among the chosen entries is the first one, when they come first. -/
lemma find?_front : ((front chosen).visit l).find? p = some a := by
  apply find?_append_only (List.mem_filter.mpr ⟨member, taken⟩) holds
  intro b inside matched
  obtain ⟨listed, among⟩ := List.mem_filter.mp inside
  exact only b listed among matched

/-- The only match among the chosen entries is the last one, when they come last. -/
lemma find?_back : ((back chosen).visit l).reverse.find? p = some a := by
  rw [back, List.reverse_append]
  apply find?_append_only (List.mem_reverse.mpr (List.mem_filter.mpr ⟨member, taken⟩)) holds
  intro b inside matched
  obtain ⟨listed, among⟩ := List.mem_filter.mp (List.mem_reverse.mp inside)
  exact only b listed among matched

end RangeOrder

/-- Every permutation of the entries is the order of some run. -/
lemma RangeOrder.exists_visit [DecidableEq α] {l l' : List α} (perm : l'.Perm l) :
    ∃ ord : RangeOrder α, ord.visit l = l' := by
  refine ⟨⟨fun m => if m = l then l' else m, fun m => ?_⟩, if_pos rfl⟩
  split
  · rename_i here
    exact here ▸ perm
  · exact .refl m

end Pintle.Go
