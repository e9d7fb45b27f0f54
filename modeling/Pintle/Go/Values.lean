import Mathlib.Algebra.GroupWithZero.Nat
import Mathlib.Data.List.AList
import Mathlib.Tactic.Lemma

/-!
# Go values

The values of the Go language that the model computes with. A Go `string` is a sequence of bytes
(`GoString`), so `len` is the number of bytes, and a string taken from the network need not be
UTF-8. A Go map is an association list with distinct keys (`GoMap`, on Mathlib's `AList`); the order
of its entries is never read by the model. Where the source ranges over a map, the model takes the
order the runtime picks as an argument (`RangeOrder`), so a statement about every `RangeOrder` is a
statement about every order in which Go may visit the map.
-/

namespace Pintle.Go

/-- A Go `string`. -/
abbrev GoString := List UInt8

instance : LawfulBEq GoString := inferInstance

/-- The bytes of a string literal of the source. -/
def lit (s : String) : GoString := s.toUTF8.data.toList

/-- Go `strings.HasPrefix`. -/
def hasPrefix (s pre : GoString) : Bool := pre.isPrefixOf s

/-- Go `strings.HasSuffix`. -/
def hasSuffix (s suf : GoString) : Bool := suf.isSuffixOf s

/-- Go `strings.TrimPrefix`. -/
def trimPrefix (s pre : GoString) : GoString := if hasPrefix s pre then s.drop pre.length else s

/-- Go `strings.TrimSuffix`. -/
def trimSuffix (s suf : GoString) : GoString :=
  if hasSuffix s suf then s.take (s.length - suf.length) else s

lemma hasPrefix_iff {s pre : GoString} : hasPrefix s pre = true ↔ ∃ rest, s = pre ++ rest := by
  rw [hasPrefix, List.isPrefixOf_iff_prefix]
  exact exists_congr fun rest => eq_comm

lemma hasSuffix_iff {s suf : GoString} : hasSuffix s suf = true ↔ ∃ front, s = front ++ suf := by
  rw [hasSuffix, List.isSuffixOf_iff_suffix]
  exact exists_congr fun front => eq_comm

@[simp]
lemma trimPrefix_append (pre rest : GoString) : trimPrefix (pre ++ rest) pre = rest := by
  rw [trimPrefix, if_pos (hasPrefix_iff.mpr ⟨rest, rfl⟩), List.drop_left]

/-- Two strings split alike at their first separator. -/
lemma append_sep_inj {sep : UInt8} {s s' rest rest' : GoString} (free : sep ∉ s) (free' : sep ∉ s')
    (e : s ++ sep :: rest = s' ++ sep :: rest') : s = s' ∧ rest = rest' := by
  induction s generalizing s' with
  | nil =>
    cases s' with
    | nil => exact ⟨rfl, (List.cons.inj e).2⟩
    | cons b s' => exact absurd ((List.cons.inj e).1 ▸ List.mem_cons_self) free'
  | cons a s ih =>
    cases s' with
    | nil => exact absurd ((List.cons.inj e).1 ▸ List.mem_cons_self) free
    | cons b s' =>
      obtain ⟨head, tail⟩ := List.cons.inj e
      obtain ⟨rfl, same⟩ := ih (fun inside => free (List.mem_cons_of_mem a inside))
        (fun inside => free' (List.mem_cons_of_mem b inside)) tail
      exact ⟨by rw [head], same⟩

/-- A Go map. -/
abbrev GoMap (κ ν : Type) := AList fun _ : κ => ν

namespace GoMap
variable {κ ν : Type} [DecidableEq κ]

/-- The entries of a map as pairs. -/
def pairs (m : GoMap κ ν) : List (κ × ν) := m.entries.map fun e => (e.1, e.2)

/-- Rewrite every value of a map in place. -/
def mapValues (f : κ → ν → ν) (m : GoMap κ ν) : GoMap κ ν where
  entries := m.entries.map fun e => ⟨e.1, f e.1 e.2⟩
  nodupKeys := by
    have keys : (m.entries.map fun e => (⟨e.1, f e.1 e.2⟩ : Sigma fun _ : κ => ν)).keys
        = m.entries.keys := by simp [List.keys]
    rw [List.NodupKeys, keys]
    exact m.nodupKeys

@[simp]
lemma lookup_mapValues (f : κ → ν → ν) (m : GoMap κ ν) (k : κ) :
    (m.mapValues f).lookup k = (m.lookup k).map (f k) := by
  obtain ⟨entries, nodup⟩ := m
  simp only [AList.lookup, mapValues]
  clear nodup
  induction entries with
  | nil => rfl
  | cons e es ih =>
    obtain ⟨k', v⟩ := e
    by_cases h : k = k'
    · subst h
      simp
    · have head := List.dlookup_cons_ne es (⟨k', v⟩ : Sigma fun _ : κ => ν) h
      have mapped := List.dlookup_cons_ne (es.map fun e => (⟨e.1, f e.1 e.2⟩ : Sigma fun _ : κ => ν))
        (⟨k', f k' v⟩ : Sigma fun _ : κ => ν) h
      rw [head, List.map_cons, mapped]
      exact ih

/-- A pair is an entry of a map exactly when its key is looked up to its value. -/
lemma mem_pairs {m : GoMap κ ν} {k : κ} {v : ν} : (k, v) ∈ m.pairs ↔ m.lookup k = some v := by
  rw [← Option.mem_def, AList.mem_lookup_iff]
  constructor
  · intro member
    obtain ⟨⟨k', v'⟩, inside, e⟩ := List.mem_map.mp member
    cases e
    exact inside
  · intro inside
    exact List.mem_map.mpr ⟨⟨k, v⟩, inside, rfl⟩

end GoMap

/-- The order in which one `range` statement visits a map: a permutation of the entries. -/
structure RangeOrder (α : Type) where
  visit : List α → List α
  perm : ∀ l, (visit l).Perm l

/-- The order in which the entries happen to be stored. -/
def RangeOrder.stored {α : Type} : RangeOrder α := ⟨id, fun _ => .refl _⟩

/-- The opposite order. -/
def RangeOrder.reversed {α : Type} : RangeOrder α := ⟨List.reverse, List.reverse_perm⟩

lemma RangeOrder.mem_visit {α : Type} (ord : RangeOrder α) {l : List α} {a : α} :
    a ∈ ord.visit l ↔ a ∈ l :=
  (ord.perm l).mem_iff

end Pintle.Go
