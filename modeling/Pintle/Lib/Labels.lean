import Mathlib.Data.List.Basic
import Mathlib.Tactic.Lemma

/-!
# Suffixes of labels

A name is a sequence of labels with a separator between them. A name is a label suffix of another one
when it is that name or what follows one of its separators. The label suffixes of a name are
determined by their length (`LabelSuffix.eq_of_length`), and what follows the first separator has all
of them but the name itself (`labelSuffix_split`).
-/

namespace Pintle.Lib
variable {α : Type} {sep : α}

/-- A name, or what follows one of its separators. -/
def LabelSuffix (sep : α) (suffix s : List α) : Prop := s = suffix ∨ sep :: suffix <:+ s

instance [DecidableEq α] (suffix s : List α) : Decidable (LabelSuffix sep suffix s) :=
  inferInstanceAs (Decidable (_ ∨ _))

lemma LabelSuffix.suffix {suffix s : List α} (label : LabelSuffix sep suffix s) : suffix <:+ s := by
  rcases label with rfl | longer
  · exact List.suffix_rfl
  · exact (List.suffix_cons sep suffix).trans longer

lemma LabelSuffix.length_le {suffix s : List α} (label : LabelSuffix sep suffix s) :
    suffix.length ≤ s.length :=
  label.suffix.length_le

/-- Two label suffixes of a name that are equally long are the same. -/
lemma LabelSuffix.eq_of_length {d d' s : List α} (label : LabelSuffix sep d s)
    (label' : LabelSuffix sep d' s) (length : d.length = d'.length) : d = d' :=
  (List.suffix_of_suffix_length_le label.suffix label'.suffix (Nat.le_of_eq length)).eq_of_length length

/-- A single label has no other suffix. -/
lemma labelSuffix_single {d s : List α} (free : sep ∉ s) : LabelSuffix sep d s ↔ s = d := by
  constructor
  · intro label
    rcases label with same | longer
    · exact same
    · exact absurd (longer.subset List.mem_cons_self) free
  · exact .inl

/-- Without its first label a name loses itself alone. -/
lemma labelSuffix_split {d first rest : List α} (free : sep ∉ first) :
    LabelSuffix sep d (first ++ sep :: rest) ↔
      first ++ sep :: rest = d ∨ LabelSuffix sep d rest := by
  have inside : sep :: d <:+ first ++ sep :: rest ↔ sep :: d <:+ sep :: rest := by
    constructor
    · rintro ⟨front, split⟩
      rcases List.append_eq_append_iff.mp split with ⟨extra, firsts, tails⟩ | ⟨extra, _, tails⟩
      · cases extra with
        | nil => exact ⟨[], tails⟩
        | cons b extra =>
          -- the separator would be among the bytes of the first label
          have head := (List.cons.inj tails).1
          exact absurd (by rw [firsts, ← head]; simp) free
      · exact ⟨extra, tails.symm⟩
    · intro later
      exact later.trans (List.suffix_append first (sep :: rest))
  rw [LabelSuffix, inside, List.suffix_cons_iff, List.cons.injEq, LabelSuffix]
  simp [eq_comm]

end Pintle.Lib
