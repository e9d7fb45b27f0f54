import Mathlib.Order.Bounds.Basic
import Pintle.Tls.Manager

/-!
# Which certificate a handshake gets

`GetCertificate` of `internal/tls/manager.go` with the order in which its fallback visits the map as
an argument (`getCertificateIn`). What it is for is said without the walk and without the sort: a
name selects the longest loaded domain that is a label suffix of it, or else the least loaded domain
(`Manager.Selected`). No two domains are selected for one name (`Selected.unique`), so the order of
the map cannot be seen (`getCertificateIn_eq`).
-/

namespace Pintle
open Go Lib

namespace Manager
variable {κ : Type}

/-- The domains with a certificate. -/
def loaded (m : Manager κ) : Set GoString := {d | d ∈ m.certs}

/-- The fallback of Go `GetCertificate`, over the map in the order it is visited. -/
def fallbackIn (ord : RangeOrder GoString) (m : Manager κ) : Option (GoString × κ) :=
  match (ord.visit m.certs.keys).insertionSort (· ≤ ·) with
  | [] => none
  | first :: _ => (m.certs.lookup first).map (first, ·)

/-- Go `GetCertificate`, over the map in the order the fallback visits it. -/
def getCertificateIn (ord : RangeOrder GoString) (m : Manager κ) (serverName : GoString) : Option κ :=
  match m.walk (serverName.splitOn 46) with
  | some (_, cert) => some cert
  | none => (m.fallbackIn ord).map (·.2)

/-- The domain that a handshake for a name is answered for. -/
inductive Selected (m : Manager κ) (serverName : GoString) : GoString → Prop where
  | longest {d} :
    d ∈ m.loaded →
    LabelSuffix 46 d serverName →
    (∀ d' ∈ m.loaded, LabelSuffix 46 d' serverName → d'.length ≤ d.length) →
    Selected m serverName d
  | least {d} :
    (∀ d' ∈ m.loaded, ¬LabelSuffix 46 d' serverName) →
    IsLeast m.loaded d →
    Selected m serverName d

lemma mem_loaded {m : Manager κ} {d : GoString} :
    d ∈ m.loaded ↔ ∃ cert, m.certs.lookup d = some cert := by
  show d ∈ m.certs ↔ _
  rw [← AList.lookup_isSome, Option.isSome_iff_exists]

lemma lookup_none {m : Manager κ} {d : GoString} : m.certs.lookup d = none ↔ d ∉ m.loaded :=
  AList.lookup_eq_none

lemma Selected.unique {m : Manager κ} {name d d' : GoString} (selected : m.Selected name d)
    (selected' : m.Selected name d') : d = d' := by
  cases selected with
  | longest stored label longest =>
    cases selected' with
    | longest stored' label' longest' =>
      apply label.eq_of_length label'
      exact Nat.le_antisymm (longest' d stored label) (longest d' stored' label')
    | least uncovered _ => exact absurd label (uncovered d stored)
  | least uncovered least =>
    cases selected' with
    | longest stored' label' _ => exact absurd label' (uncovered d' stored')
    | least _ least' => exact List.le_antisymm (least.2 least'.1) (least'.2 least.1)

/-- Sorting forgets the order of the visit. -/
lemma fallbackIn_eq (ord : RangeOrder GoString) (m : Manager κ) : m.fallbackIn ord = m.fallback := by
  have sorted : (ord.visit m.certs.keys).insertionSort (· ≤ ·) =
      m.certs.keys.insertionSort (· ≤ ·) := by
    apply List.Perm.eq_of_pairwise' (List.pairwise_insertionSort (· ≤ ·) _)
      (List.pairwise_insertionSort (· ≤ ·) _)
    have visited : (m.certs.keys.insertionSort (· ≤ ·)).Perm (ord.visit m.certs.keys) :=
      (List.perm_insertionSort _ _).trans (ord.perm _).symm
    exact (List.perm_insertionSort _ _).trans visited.symm
  rw [fallbackIn, sorted]
  rfl

lemma getCertificateIn_eq (ord : RangeOrder GoString) (m : Manager κ) (name : GoString) :
    m.getCertificateIn ord name = m.getCertificate name := by
  rw [getCertificateIn, getCertificate, choose, fallbackIn_eq]
  cases m.walk (name.splitOn 46) <;> rfl

/-- The fallback is the least loaded domain, and there is one unless none is loaded. -/
lemma fallback_spec (m : Manager κ) :
    match m.fallback with
    | some (domain, cert) => IsLeast m.loaded domain ∧ m.certs.lookup domain = some cert
    | none => m.loaded = ∅ := by
  have keys (d : GoString) : d ∈ m.certs.keys.insertionSort (· ≤ ·) ↔ d ∈ m.loaded :=
    (List.perm_insertionSort _ _).mem_iff
  have sorted := List.pairwise_insertionSort (· ≤ ·) m.certs.keys
  unfold fallback
  cases order : m.certs.keys.insertionSort (· ≤ ·) with
  | nil =>
    rw [order] at keys
    apply Set.eq_empty_of_forall_notMem
    intro d stored
    cases (keys d).mpr stored
  | cons first rest =>
    rw [order] at keys sorted
    have stored : first ∈ m.loaded := (keys first).mp List.mem_cons_self
    obtain ⟨cert, found⟩ := mem_loaded.mp stored
    simp only [found, Option.map_some]
    refine ⟨⟨stored, ?_⟩, trivial⟩
    intro d member
    rcases List.mem_cons.mp ((keys d).mpr member) with rfl | later
    · exact List.le_refl d
    · exact List.rel_of_pairwise_cons sorted later

/-- The domain chosen is the selected one. -/
lemma choose_spec (m : Manager κ) (name : GoString) :
    match m.choose name with
    | some (domain, cert) => m.Selected name domain ∧ m.certs.lookup domain = some cert
    | none => m.loaded = ∅ := by
  have walked := m.walk_spec name
  unfold choose
  cases found : m.walk (name.splitOn 46) with
  | some chosen =>
    rw [found] at walked
    obtain ⟨stored, label, longest⟩ := walked
    refine ⟨.longest (mem_loaded.mpr ⟨_, stored⟩) label ?_, stored⟩
    intro d member covers
    exact longest d covers (AList.lookup_isSome.mpr member)
  | none =>
    rw [found] at walked
    have fell := m.fallback_spec
    cases first : m.fallback with
    | none =>
      rw [first] at fell
      exact fell
    | some chosen =>
      rw [first] at fell
      refine ⟨.least ?_ fell.1, fell.2⟩
      intro d member covers
      exact lookup_none.mp (walked d covers) member

/-- A handshake gets the certificate of the selected domain, in whatever order the map is visited,
and an error exactly when no certificate is loaded. -/
theorem getCertificate_selected (ord : RangeOrder GoString) (m : Manager κ) (name : GoString) :
    (∀ cert, m.getCertificateIn ord name = some cert ↔
      ∃ d, m.Selected name d ∧ m.certs.lookup d = some cert) ∧
    (m.getCertificateIn ord name = none ↔ m.loaded = ∅) := by
  have chosen := m.choose_spec name
  rw [getCertificateIn_eq, getCertificate]
  cases choice : m.choose name with
  | none =>
    rw [choice] at chosen
    refine ⟨fun cert => iff_of_false (by simp) ?_, iff_of_true rfl chosen⟩
    rintro ⟨d, _, found⟩
    have stored : d ∈ m.loaded := mem_loaded.mpr ⟨cert, found⟩
    rw [chosen] at stored
    exact Set.notMem_empty d stored
  | some answer =>
    rw [choice] at chosen
    obtain ⟨selected, stored⟩ := chosen
    constructor
    · intro cert
      constructor
      · intro answered
        cases answered
        exact ⟨answer.1, selected, stored⟩
      · rintro ⟨d, selected', found⟩
        rw [selected'.unique selected, stored] at found
        exact found
    · have member : answer.1 ∈ m.loaded := mem_loaded.mpr ⟨answer.2, stored⟩
      refine iff_of_false (by simp) ?_
      intro none
      rw [none] at member
      exact Set.notMem_empty _ member

end Manager
end Pintle
