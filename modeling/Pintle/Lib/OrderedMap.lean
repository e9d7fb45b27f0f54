import Mathlib.Data.List.Perm.Basic
import Mathlib.Data.List.Nodup
import Mathlib.Data.List.Induction
import Mathlib.Tactic.Lemma

/-!
# Maps in insertion order

A map that lists its entries in the order in which their keys came (`OrderedMap`). A key that is set
again keeps its place.

Collecting the entries of a list under keys gives such a map (`buckets`): the bucket of a key holds
the entries with that key in their order (`get_buckets`), and all buckets together hold every entry
once (`contents_buckets`).
-/

namespace Pintle.Lib
open scoped List

/-- Entries with distinct keys, oldest first. -/
structure OrderedMap (κ ν : Type) where
  entries : List (κ × ν)
  nodup : (entries.map (·.1)).Nodup

namespace OrderedMap
variable {κ ν : Type}

/-- The map without entries. -/
def empty : OrderedMap κ ν where
  entries := []
  nodup := .nil

variable [DecidableEq κ]

/-- The value of a key. -/
def get (m : OrderedMap κ ν) (k : κ) : Option ν := (m.entries.find? (·.1 = k)).map (·.2)

/-- Set the value of a key, in its place or behind the other entries. -/
def set (m : OrderedMap κ ν) (k : κ) (v : ν) : OrderedMap κ ν where
  entries :=
    if k ∈ m.entries.map (·.1) then m.entries.map fun e => if e.1 = k then (k, v) else e
    else m.entries ++ [(k, v)]
  nodup := by
    split
    · have keys : (m.entries.map fun e => if e.1 = k then (k, v) else e).map (·.1) =
          m.entries.map (·.1) := by
        rw [List.map_map]
        apply List.map_congr_left
        intro e _
        change (if e.1 = k then (k, v) else e).1 = e.1
        split
        · rename_i here
          exact here.symm
        · rfl
      rw [keys]
      exact m.nodup
    · rename_i fresh
      rw [List.map_append]
      exact m.nodup.append (List.nodup_singleton k) (by simpa using fresh)

/-- Remove a key. -/
def delete (m : OrderedMap κ ν) (k : κ) : OrderedMap κ ν where
  entries := m.entries.filter (·.1 ≠ k)
  nodup := m.nodup.sublist (List.filter_sublist.map _)

lemma set_entries (m : OrderedMap κ ν) (k : κ) (v : ν) : (m.set k v).entries =
    if k ∈ m.entries.map (·.1) then m.entries.map fun e => if e.1 = k then (k, v) else e
    else m.entries ++ [(k, v)] := rfl

lemma get_eq_some {m : OrderedMap κ ν} {k : κ} {v : ν} : m.get k = some v ↔ (k, v) ∈ m.entries := by
  obtain ⟨entries, nodup⟩ := m
  rw [get]
  induction entries with
  | nil => simp
  | cons e entries ih =>
    obtain ⟨fresh, rest⟩ := List.nodup_cons.mp nodup
    by_cases here : e.1 = k
    · subst here
      rw [List.find?_cons_of_pos (by simp), Option.map_some, Option.some.injEq, List.mem_cons]
      constructor
      · rintro rfl
        exact .inl rfl
      · rintro (same | later)
        · rw [← same]
        · exact absurd (List.mem_map_of_mem (f := (·.1)) later) fresh
    · rw [List.find?_cons_of_neg (by simpa using here), List.mem_cons]
      refine (ih rest).trans ⟨.inr, ?_⟩
      rintro (same | later)
      · exact absurd (congrArg Prod.fst same).symm here
      · exact later

lemma get_eq_none {m : OrderedMap κ ν} {k : κ} : m.get k = none ↔ k ∉ m.entries.map (·.1) := by
  rw [get, Option.map_eq_none_iff, List.find?_eq_none, List.mem_map]
  simp only [decide_eq_true_eq, not_exists, not_and]

/-- A key that is present stands between other entries, and setting it leaves these. -/
lemma set_present {m : OrderedMap κ ν} {k : κ} {v : ν} (present : m.get k = some v) :
    ∃ front back, m.entries = front ++ (k, v) :: back ∧
      ∀ w, (m.set k w).entries = front ++ (k, w) :: back := by
  obtain ⟨front, back, split⟩ := List.append_of_mem (get_eq_some.mp present)
  refine ⟨front, back, split, ?_⟩
  intro w
  have nodup := m.nodup
  rw [split, List.map_append, List.map_cons, List.nodup_middle, List.nodup_cons] at nodup
  have others : ∀ e ∈ front ++ back, e.1 ≠ k := by
    intro e member same
    rw [← List.map_append] at nodup
    apply nodup.1
    rw [← same]
    exact List.mem_map_of_mem (f := (·.1)) member
  have keep : ∀ l : List (κ × ν), (∀ e ∈ l, e ∈ front ++ back) →
      l.map (fun e => if e.1 = k then (k, w) else e) = l := by
    intro l inside
    rw [List.map_congr_left fun e member => if_neg (others e (inside e member)), List.map_id']
  have stored : k ∈ m.entries.map (·.1) := by
    rw [split]
    simp
  rw [set_entries, if_pos stored, split, List.map_append, List.map_cons, if_pos rfl,
    keep front fun e member => List.mem_append_left _ member,
    keep back fun e member => List.mem_append_right _ member]

/-- A key that is absent is set behind the other entries. -/
lemma set_absent {m : OrderedMap κ ν} {k : κ} (absent : m.get k = none) (w : ν) :
    (m.set k w).entries = m.entries ++ [(k, w)] := by
  rw [set_entries, if_neg (get_eq_none.mp absent)]

lemma get_set (m : OrderedMap κ ν) (k k' : κ) (w : ν) :
    (m.set k w).get k' = if k = k' then some w else m.get k' := by
  by_cases same : k = k'
  · subst same
    rw [if_pos rfl, get_eq_some]
    cases found : m.get k with
    | none =>
      rw [set_absent found]
      simp
    | some v =>
      obtain ⟨front, back, _, changed⟩ := set_present found
      rw [changed]
      simp
  · rw [if_neg same]
    apply Option.ext
    intro u
    rw [get_eq_some, get_eq_some]
    have other : (k', u) ≠ (k, w) := fun equal => same (congrArg Prod.fst equal).symm
    cases found : m.get k with
    | none =>
      rw [set_absent found]
      simp [other]
    | some v =>
      obtain ⟨front, back, split, changed⟩ := set_present found
      have other' : (k', u) ≠ (k, v) := fun equal => same (congrArg Prod.fst equal).symm
      rw [changed, split]
      simp [other, other']

end OrderedMap

section buckets
variable {α κ : Type} [DecidableEq κ] (key : α → κ)

/-- Put an entry into the bucket of a key. -/
def push (m : OrderedMap κ (List α)) (a : α) : OrderedMap κ (List α) :=
  match m.get (key a) with
  | some bucket => m.set (key a) (bucket ++ [a])
  | none => m.set (key a) [a]

/-- The entries of a list in buckets. -/
def buckets (l : List α) : OrderedMap κ (List α) := l.foldl (push key) .empty

/-- All entries, bucket by bucket. -/
def OrderedMap.contents (m : OrderedMap κ (List α)) : List α := m.entries.flatMap (·.2)

lemma buckets_append (l : List α) (a : α) :
    buckets key (l ++ [a]) = push key (buckets key l) a := by
  rw [buckets, List.foldl_append]
  rfl

lemma push_eq (m : OrderedMap κ (List α)) (a : α) :
    push key m a = m.set (key a) ((m.get (key a)).getD [] ++ [a]) := by
  rw [push]
  cases m.get (key a) <;> rfl

/-- The bucket of a key holds the entries with that key. -/
lemma get_buckets (l : List α) (k : κ) : (buckets key l).get k =
    if (l.filter fun a => key a = k) = [] then none else some (l.filter fun a => key a = k) := by
  induction l using List.reverseRecOn with
  | nil => rfl
  | append_singleton l a ih =>
    rw [buckets_append, push_eq, OrderedMap.get_set, List.filter_append, List.filter_singleton]
    by_cases here : key a = k
    · subst here
      have before : ((buckets key l).get (key a)).getD [] = l.filter fun b => key b = key a := by
        rw [ih]
        split
        · rename_i none
          exact none.symm
        · rfl
      rw [before]
      simp
    · rw [if_neg here, ih]
      simp [here]

/-- The buckets of a list are the nonempty lists of its entries with one key. -/
lemma mem_buckets {l : List α} {e : κ × List α} : e ∈ (buckets key l).entries ↔
    e.2 ≠ [] ∧ e.2 = l.filter fun a => key a = e.1 := by
  obtain ⟨k, bucket⟩ := e
  rw [← OrderedMap.get_eq_some, get_buckets]
  dsimp only
  split
  · rename_i none
    rw [none]
    refine iff_of_false nofun ?_
    rintro ⟨some, same⟩
    exact some same
  · rename_i some
    rw [Option.some.injEq]
    constructor
    · rintro rfl
      exact ⟨some, rfl⟩
    · rintro ⟨_, same⟩
      exact same.symm

/-- Setting a bucket adds its entries and drops those of the bucket that it replaces. -/
lemma contents_set (m : OrderedMap κ (List α)) (k : κ) (bucket : List α) :
    ((m.set k bucket).contents ++ (m.get k).getD []).Perm (m.contents ++ bucket) := by
  cases found : m.get k with
  | none =>
    have after : (m.set k bucket).contents = m.contents ++ bucket := by
      rw [OrderedMap.contents, OrderedMap.set_absent found, List.flatMap_append,
        List.flatMap_singleton]
      rfl
    rw [after, Option.getD_none, List.append_nil]
  | some old =>
    obtain ⟨front, back, split, changed⟩ := OrderedMap.set_present found
    have before : m.contents = front.flatMap (·.2) ++ (old ++ back.flatMap (·.2)) := by
      rw [OrderedMap.contents, split, List.flatMap_append, List.flatMap_cons]
    have after : (m.set k bucket).contents =
        front.flatMap (·.2) ++ (bucket ++ back.flatMap (·.2)) := by
      rw [OrderedMap.contents, changed, List.flatMap_append, List.flatMap_cons]
    rw [before, after, Option.getD_some, List.append_assoc (front.flatMap _),
      List.append_assoc (front.flatMap _)]
    apply List.Perm.append_left
    calc bucket ++ back.flatMap (·.2) ++ old
      _ ~ old ++ (bucket ++ back.flatMap (·.2)) := List.perm_append_comm
      _ ~ old ++ (back.flatMap (·.2) ++ bucket) := List.perm_append_comm.append_left old
      _ = old ++ back.flatMap (·.2) ++ bucket := (List.append_assoc ..).symm

/-- Putting an entry into its bucket adds it once. -/
lemma contents_push (m : OrderedMap κ (List α)) (a : α) :
    (push key m a).contents.Perm (m.contents ++ [a]) := by
  have replaced := contents_set m (key a) ((m.get (key a)).getD [] ++ [a])
  rw [← push_eq] at replaced
  rw [← List.perm_append_right_iff ((m.get (key a)).getD [])]
  refine replaced.trans ?_
  rw [List.append_assoc]
  exact List.perm_append_comm.append_left m.contents

/-- The buckets hold every entry once. -/
theorem contents_buckets (l : List α) : (buckets key l).contents.Perm l := by
  induction l using List.reverseRecOn with
  | nil => exact .nil
  | append_singleton l a ih =>
    rw [buckets_append]
    exact (contents_push key _ a).trans (ih.append_right [a])

end buckets
end Pintle.Lib
