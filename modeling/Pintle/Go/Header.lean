import Pintle.Go.Ranges
import Pintle.Go.Strings

/-!
# Header maps

Model of Go `net/http.Header` and of the canonical form of its keys (`net/textproto`), as far as the
names of received headers go. HTTP compares the names of headers up to case, a Go map byte by byte. A
map whose keys are in canonical form is read alike either way (`Received.distinct`), and `named` reads
one in HTTP's.

`rename` moves the values under one key to another, which takes a map out of that form. Several renames
do not depend on their order when no key is in two of them (`lookup_renames`).
-/

namespace Pintle.Go

/-- Go `http.Header`. -/
abbrev Header := GoMap GoString (List GoString)

/-- Go `validHeaderFieldByte`: the bytes of a token. -/
def validHeaderFieldByte (c : UInt8) : Bool :=
  (48 ≤ c && c ≤ 57) || (65 ≤ c && c ≤ 90) || (97 ≤ c && c ≤ 122) ||
    (lit "!#$%&'*+-.^_|~").contains c || c = 96

/-- The loop of Go `canonicalMIMEHeaderKey`: upper case at the start and after a dash, else lower. -/
def canonicalBytes : Bool → GoString → GoString
  | _, [] => []
  | upper, c :: s =>
    (if upper && (97 ≤ c && c ≤ 122) then c - 32
      else if !upper && (65 ≤ c && c ≤ 90) then c + 32
      else c) :: canonicalBytes (c = 45) s

/-- Go `CanonicalMIMEHeaderKey`. -/
def canonicalMIMEHeaderKey (s : GoString) : GoString :=
  if s.all validHeaderFieldByte then canonicalBytes true s else s

/-- A byte in lower case. -/
def lowerByte (c : UInt8) : UInt8 := if 65 ≤ c && c ≤ 90 then c + 32 else c

/-- A name as HTTP compares it. -/
def headerName (s : GoString) : GoString := s.map lowerByte

/-- The canonical form depends on the letters alone, not on their case. -/
lemma canonicalBytes_name (upper : Bool) (s : GoString) :
    canonicalBytes upper (headerName s) = canonicalBytes upper s := by
  have dash : ∀ c : UInt8, (lowerByte c = 45 ↔ c = 45) := forall_byte (by decide +kernel)
  have letter : ∀ c : UInt8, ∀ upper : Bool,
      (if upper && (97 ≤ lowerByte c && lowerByte c ≤ 122) then lowerByte c - 32
        else if !upper && (65 ≤ lowerByte c && lowerByte c ≤ 90) then lowerByte c + 32
        else lowerByte c) =
      (if upper && (97 ≤ c && c ≤ 122) then c - 32
        else if !upper && (65 ≤ c && c ≤ 90) then c + 32
        else c) := forall_byte (by decide +kernel)
  induction s generalizing upper with
  | nil => rfl
  | cons c s ih =>
    rw [headerName, List.map_cons, canonicalBytes, canonicalBytes, letter c upper]
    simp only [dash]
    exact congrArg _ (ih _)

/-- A key in the form in which a server stores the name of a header it received. -/
structure CanonicalKey (k : GoString) : Prop where
  token : k.all validHeaderFieldByte = true
  fixed : canonicalMIMEHeaderKey k = k

instance (k : GoString) : Decidable (CanonicalKey k) :=
  decidable_of_iff (k.all validHeaderFieldByte = true ∧ canonicalMIMEHeaderKey k = k)
    ⟨fun h => ⟨h.1, h.2⟩, fun h => ⟨h.token, h.fixed⟩⟩

/-- Canonical keys of one name are equal. -/
lemma CanonicalKey.eq {k k' : GoString} (canonical : CanonicalKey k) (canonical' : CanonicalKey k')
    (same : headerName k = headerName k') : k = k' := by
  have fixed := canonical.fixed
  have fixed' := canonical'.fixed
  rw [canonicalMIMEHeaderKey, if_pos canonical.token] at fixed
  rw [canonicalMIMEHeaderKey, if_pos canonical'.token] at fixed'
  rw [← fixed, ← fixed', ← canonicalBytes_name, same, canonicalBytes_name]

namespace GoMap
variable {κ ν : Type} [DecidableEq κ]

/-- Move the values under one key, if it is there, to another. -/
def rename (m : GoMap κ ν) (pair : κ × κ) : GoMap κ ν :=
  match m.lookup pair.1 with
  | none => m
  | some values => (m.erase pair.1).insert pair.2 values

lemma lookup_rename (m : GoMap κ ν) {pair : κ × κ} (apart : pair.1 ≠ pair.2) (k : κ) :
    (m.rename pair).lookup k =
      if k = pair.1 then none
      else if k = pair.2 then (m.lookup pair.1).or (m.lookup k)
      else m.lookup k := by
  unfold rename
  cases stored : m.lookup pair.1 with
  | none =>
    by_cases old : k = pair.1
    · rw [if_pos old, old, stored]
    · rw [if_neg old, Option.none_or, ite_self]
  | some values =>
    by_cases new : k = pair.2
    · subst new
      rw [if_neg apart.symm, if_pos rfl, AList.lookup_insert, Option.some_or]
    · rw [AList.lookup_insert_ne new, if_neg new]
      by_cases old : k = pair.1
      · subst old
        rw [if_pos rfl, AList.lookup_erase]
      · rw [if_neg old, AList.lookup_erase_ne old]

/-- Renames that share no key move each its own values, whatever their order. -/
lemma lookup_renames {pairs : List (κ × κ)}
    (apart : (pairs.map Prod.fst ++ pairs.map Prod.snd).Nodup) (m : GoMap κ ν) (k : κ) :
    (pairs.foldl rename m).lookup k =
      if k ∈ pairs.map Prod.fst then none
      else match pairs.find? (·.2 = k) with
        | none => m.lookup k
        | some pair => (m.lookup pair.1).or (m.lookup k) := by
  induction pairs generalizing m with
  | nil => rfl
  | cons pair pairs ih =>
    rw [List.map_cons, List.map_cons, List.cons_append, List.nodup_cons, List.mem_append,
      List.mem_cons, not_or, not_or] at apart
    obtain ⟨⟨old_apart, distinct, old_fresh⟩, rest⟩ := apart
    obtain ⟨new_fresh, rest⟩ := List.nodup_cons.mp (List.nodup_middle.mp rest)
    rw [List.mem_append, not_or] at new_fresh
    rw [List.foldl_cons, ih rest]
    by_cases later : k ∈ pairs.map Prod.fst
    · have inside : k ∈ (pair :: pairs).map Prod.fst := List.mem_cons_of_mem _ later
      rw [if_pos later, if_pos inside]
    · rw [if_neg later]
      by_cases new : k = pair.2
      · subst new
        have unfound : pairs.find? (·.2 = pair.2) = none := by
          refine List.find?_eq_none.mpr fun pair' member same => ?_
          exact new_fresh.2 (List.mem_map.mpr ⟨pair', member, by simpa using same⟩)
        rw [unfound, if_neg (by simp [later, Ne.symm distinct]), lookup_rename m distinct,
          if_neg (Ne.symm distinct), if_pos rfl, List.find?_cons_of_pos (by simp)]
      · rw [List.find?_cons_of_neg (by simpa using Ne.symm new)]
        by_cases old : k = pair.1
        · subst old
          have unfound : pairs.find? (·.2 = pair.1) = none := by
            refine List.find?_eq_none.mpr fun pair' member same => ?_
            exact old_fresh (List.mem_map.mpr ⟨pair', member, by simpa using same⟩)
          rw [unfound, lookup_rename m distinct, if_pos rfl, if_pos (by simp)]
        · rw [if_neg (show k ∉ (pair :: pairs).map Prod.fst by simpa [old] using later)]
          cases found : pairs.find? (·.2 = k) with
          | none => rw [lookup_rename m distinct, if_neg old, if_neg new]
          | some pair' =>
            have member := List.mem_of_find?_eq_some found
            have other : pair'.1 ≠ pair.1 := fun same =>
              old_apart (same ▸ List.mem_map_of_mem member)
            have other' : pair'.1 ≠ pair.2 := fun same =>
              new_fresh.1 (same ▸ List.mem_map_of_mem member)
            simp only [lookup_rename m distinct, if_neg old, if_neg new, if_neg other,
              if_neg other']

end GoMap

namespace Header

/-- The values of the headers of one name, as a recipient reads them. -/
def named (h : Header) (name : GoString) : List GoString :=
  (h.pairs.filter fun entry => headerName entry.1 = headerName name).flatMap (·.2)

/-- No two keys are one name. -/
def Distinct (h : Header) : Prop :=
  ∀ k values k' values', h.lookup k = some values → h.lookup k' = some values' →
    headerName k = headerName k' → k = k'

/-- Every key is canonical, as in the header of a request that a server received. -/
def Received (h : Header) : Prop := ∀ k values, h.lookup k = some values → CanonicalKey k

lemma Received.distinct {h : Header} (received : h.Received) : h.Distinct :=
  fun k values k' values' stored stored' => (received k values stored).eq (received k' values' stored')

lemma Received.set {h : Header} (received : h.Received) {k : GoString} (canonical : CanonicalKey k)
    (values : List GoString) : Received (h.insert k values) := by
  intro k' values' stored
  by_cases here : k' = k
  · exact here ▸ canonical
  · rw [AList.lookup_insert_ne here] at stored
    exact received k' values' stored

/-- The header of a name, when it is there. -/
lemma named_stored {h : Header} (distinct : h.Distinct) {k name : GoString} {values : List GoString}
    (stored : h.lookup k = some values) (same : headerName k = headerName name) :
    h.named name = values := by
  have single : (h.pairs.filter fun entry => headerName entry.1 = headerName name) =
      [(k, values)] := by
    refine List.perm_singleton.mp
      ((List.perm_ext_iff_of_nodup (h.pairs_nodup.filter _) (List.nodup_singleton _)).mpr ?_)
    rintro ⟨k', values'⟩
    rw [List.mem_filter, GoMap.mem_pairs, decide_eq_true_eq, List.mem_singleton]
    constructor
    · rintro ⟨stored', same'⟩
      obtain rfl := distinct k' values' k values stored' stored (same'.trans same.symm)
      rw [stored] at stored'
      rw [Option.some.inj stored']
    · intro here
      cases here
      exact ⟨stored, same⟩
  rw [named, single, List.flatMap_singleton]

/-- There is no header of a name. -/
lemma named_missing {h : Header} {name : GoString}
    (missing : ∀ k values, h.lookup k = some values → headerName k ≠ headerName name) :
    h.named name = [] := by
  rw [named, List.filter_eq_nil_iff.mpr, List.flatMap_nil]
  rintro ⟨k, values⟩ member
  simpa using missing k values (GoMap.mem_pairs.mp member)

/-- Setting a header changes what is read under its name, and nothing else. -/
lemma Received.named_set {h : Header} (received : h.Received) {k : GoString}
    (canonical : CanonicalKey k) (values : List GoString) (name : GoString) :
    named (h.insert k values) name =
      if headerName name = headerName k then values else h.named name := by
  have distinct := (received.set canonical values).distinct
  split
  · rename_i same
    exact named_stored distinct (AList.lookup_insert _) same.symm
  · rename_i other
    by_cases there : ∃ k' values', h.lookup k' = some values' ∧ headerName k' = headerName name
    · obtain ⟨k', values', stored, same⟩ := there
      have kept : AList.lookup k' (h.insert k values) = some values' := by
        rw [AList.lookup_insert_ne fun here => other (by rw [← same, here]), stored]
      rw [named_stored distinct kept same, named_stored received.distinct stored same]
    · have missing (k' values') (stored : h.lookup k' = some values') :
          headerName k' ≠ headerName name := fun same => there ⟨k', values', stored, same⟩
      rw [named_missing missing, named_missing]
      intro k' values' stored
      by_cases here : k' = k
      · exact here ▸ Ne.symm other
      · rw [AList.lookup_insert_ne here] at stored
        exact missing k' values' stored

end Header
end Pintle.Go
