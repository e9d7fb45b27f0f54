import Mathlib.Data.List.DropRight
import Mathlib.Data.List.TakeWhile
import Mathlib.Tactic.Lemma

/-!
# Strings of the dashboard

JavaScript strings as their UTF-16 code units, with the methods of `String.prototype` that the model
calls. Of regular expressions it has those that the sources replace globally, sequences of single
units (`Pattern`).
-/

namespace Pintle.Ui

/-- A JavaScript string. -/
abbrev JsString := List UInt16

/-- A literal, which is ASCII in every source. -/
def js (s : String) : JsString := s.toUTF8.data.toList.map (·.toUInt16)

/-- JavaScript `includes`. -/
def includes (s sub : JsString) : Bool := s.tails.any (sub.isPrefixOf ·)

/-- JavaScript `split`, by one unit. -/
def split (s : JsString) (sep : UInt16) : List JsString := s.splitOn sep

/-- JavaScript `join`, with one unit. -/
def join (parts : List JsString) (sep : UInt16) : JsString := [sep].intercalate parts

/-- The white space and line ends that `trim` removes. -/
def isSpace (c : UInt16) : Bool :=
  (9 ≤ c && c ≤ 13) || c = 32 || c = 0xA0 || c = 0x1680 || (0x2000 ≤ c && c ≤ 0x200A) ||
    c = 0x2028 || c = 0x2029 || c = 0x202F || c = 0x205F || c = 0x3000 || c = 0xFEFF

/-- JavaScript `trim`. -/
def trim (s : JsString) : JsString := (s.dropWhile isSpace).rdropWhile isSpace

/-- The regular expression `.`. -/
def anyUnit (c : UInt16) : Bool := c ≠ 10 && c ≠ 13 && c ≠ 0x2028 && c ≠ 0x2029

/-- A regular expression that is a sequence of classes of units. -/
abbrev Pattern := List (UInt16 → Bool)

/-- Whether a string begins with a match. -/
def Pattern.test : Pattern → JsString → Bool
  | [], _ => true
  | _ :: _, [] => false
  | accepts :: pattern, c :: s => accepts c && Pattern.test pattern s

/-- How JavaScript `replace` goes through a string: how much of the last match is still to be
skipped. -/
def replaceFrom (pattern : Pattern) (sub : JsString) : Nat → JsString → JsString
  | _, [] => []
  | skip + 1, _ :: s => replaceFrom pattern sub skip s
  | 0, c :: s =>
    if pattern.test (c :: s) then sub ++ replaceFrom pattern sub (pattern.length - 1) s
    else c :: replaceFrom pattern sub 0 s

/-- JavaScript `replace`, with the flag `g`. -/
def replaceAll (s : JsString) (pattern : Pattern) (sub : JsString) : JsString :=
  replaceFrom pattern sub 0 s

/-- The first part of a split string goes up to the separator. -/
lemma headD_split (s : JsString) (sep : UInt16) :
    (split s sep).headD [] = s.takeWhile (· ≠ sep) := by
  induction s with
  | nil => rfl
  | cons c s ih =>
    rw [split, List.splitOn_cons_eq_if_modifyHead, ← split]
    by_cases here : c = sep
    · subst here
      simp
    · rw [if_neg (by simpa using here), List.takeWhile_cons_of_pos (by simpa using here), ← ih]
      cases parts : split s sep with
      | nil => exact absurd parts (List.splitOn_ne_nil sep s)
      | cons part rest => rfl

/-- A list up to its first entry that fails a test. -/
lemma takeWhile_eq_iff {α : Type} {p : α → Bool} {s w : List α} : s.takeWhile p = w ↔
    (∀ c ∈ w, p c = true) ∧ ∃ rest, s = w ++ rest ∧ ∀ c ∈ rest.head?, p c = false := by
  constructor
  · rintro rfl
    refine ⟨fun c => List.mem_takeWhile_imp, s.dropWhile p, ?_, ?_⟩
    · exact List.takeWhile_append_dropWhile.symm
    · intro c first
      have stop := List.head?_dropWhile_not p s
      rw [Option.mem_def.mp first] at stop
      exact stop
  · rintro ⟨all, rest, rfl, stop⟩
    rw [List.takeWhile_append_of_pos all]
    cases rest with
    | nil => rw [List.takeWhile_nil, List.append_nil]
    | cons c rest =>
      rw [List.takeWhile_cons_of_neg, List.append_nil]
      rw [stop c rfl]
      exact Bool.false_ne_true

/-- What holds of the separator and of every unit of the parts holds of the joined string. -/
lemma forall_join {p : UInt16 → Prop} {sep : UInt16} (holds : p sep) {parts : List JsString}
    (all : ∀ part ∈ parts, ∀ c ∈ part, p c) : ∀ c ∈ join parts sep, p c := by
  induction parts with
  | nil => exact List.forall_mem_nil _
  | cons part parts ih =>
    obtain ⟨first, rest⟩ := List.forall_mem_cons.mp all
    cases parts with
    | nil =>
      rw [join, List.intercalate_singleton]
      exact first
    | cons next parts =>
      rw [join, List.intercalate_cons_cons, ← join]
      intro c member
      rcases List.mem_append.mp member with upto | later
      · rcases List.mem_append.mp upto with inside | here
        · exact first c inside
        · rw [List.mem_singleton.mp here]
          exact holds
      · exact ih rest c later

end Pintle.Ui
