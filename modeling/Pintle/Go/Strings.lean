import Mathlib.Data.List.DropRight
import Mathlib.Data.List.TakeWhile
import Pintle.Go.Values

/-!
# Go strings and strconv

The functions of the packages `strings` and `strconv` that the model calls, on bytes. White
space is what `unicode.IsSpace` accepts, in its UTF-8 encoding. `atoi` returns the number alone: the
callers drop the error, with which Go returns zero for a malformed number and the nearest bound for
one out of range.
-/

namespace Pintle.Go

/-- Go `strings.Contains`. -/
def contains (s sub : GoString) : Bool := s.tails.any (hasPrefix · sub)

/-- Go `strings.Split(s, ",")`. -/
def splitComma (s : GoString) : List GoString := s.splitOn 44

/-- Go `strings.TrimRight(s, "/")`. -/
def trimRightSlash (s : GoString) : GoString := s.rdropWhile (· = 47)

/-- The encodings of the white space of Go `unicode.IsSpace`. -/
def spaces : List GoString :=
  [[9], [10], [11], [12], [13], [32], [0xC2, 0x85], [0xC2, 0xA0], [0xE1, 0x9A, 0x80]] ++
    (List.range 11).map (fun i => [0xE2, 0x80, 0x80 + UInt8.ofNat i]) ++
    [[0xE2, 0x80, 0xA8], [0xE2, 0x80, 0xA9], [0xE2, 0x80, 0xAF], [0xE2, 0x81, 0x9F],
      [0xE3, 0x80, 0x80]]

/-- Drop at most `fuel` leading characters that are among the given ones. -/
def trimLeading (chars : List GoString) : Nat → GoString → GoString
  | 0, s => s
  | fuel + 1, s =>
    match chars.find? (hasPrefix s) with
    | some char => trimLeading chars fuel (s.drop char.length)
    | none => s

/-- Go `strings.TrimSpace`. -/
def trimSpace (s : GoString) : GoString :=
  let left := trimLeading spaces s.length s
  (trimLeading (spaces.map List.reverse) left.length left.reverse).reverse

/-- The loop of Go `strings.Fields`: how much of the last white space is still to be skipped, and the
field that is being read. -/
def fieldsFrom : Nat → GoString → GoString → List GoString
  | _, field, [] => if field = [] then [] else [field]
  | skip + 1, field, _ :: s => fieldsFrom skip field s
  | 0, field, b :: s =>
    match spaces.find? (hasPrefix (b :: s)) with
    | some char => (if field = [] then [] else [field]) ++ fieldsFrom (char.length - 1) [] s
    | none => fieldsFrom 0 (field ++ [b]) s

/-- Go `strings.Fields`. -/
def fields (s : GoString) : List GoString := fieldsFrom 0 [] s

/-- Whether a byte is a decimal digit. -/
def isDigit (b : UInt8) : Bool := 48 ≤ b && b ≤ 57

/-- The loop of Go `strconv.ParseUint` at base 10: nothing for a malformed number, the largest one
once the value overflows. -/
def parseUint : GoString → Nat → Option Nat
  | [], n => some n
  | b :: s, n =>
    if isDigit b then
      if n * 10 + (b - 48).toNat < 2 ^ 64 then parseUint s (n * 10 + (b - 48).toNat)
      else some (2 ^ 64 - 1)
    else none

/-- The digits of a number, or nothing for an empty string. -/
def parseDigits (s : GoString) : Nat :=
  if s = [] then 0 else (parseUint s 0).getD 0

/-- The number of Go `strconv.Atoi`. -/
def atoi : GoString → Int
  | 45 :: s => -((min (parseDigits s) (2 ^ 63) : Nat) : Int)
  | 43 :: s => (min (parseDigits s) (2 ^ 63 - 1) : Nat)
  | s => (min (parseDigits s) (2 ^ 63 - 1) : Nat)

/-- Go `strconv.Atoi`, for callers that look at the error. -/
def parseInt (s : GoString) : Option Int :=
  let negative := hasPrefix s (lit "-")
  let digits := if negative || hasPrefix s (lit "+") then s.drop 1 else s
  if digits = [] ∨ !digits.all isDigit then none
  else if parseDigits digits < (if negative then 2 ^ 63 + 1 else 2 ^ 63) then some (atoi s)
  else none

/-- Go `strconv.Itoa`. -/
def itoa (n : Int) : GoString := lit (toString n)

lemma drop_takeWhile {α : Type} (p : α → Bool) (l : List α) :
    l.drop (l.takeWhile p).length = l.dropWhile p := by
  have whole := List.takeWhile_append_dropWhile (p := p) (l := l)
  calc l.drop (l.takeWhile p).length
      = (l.takeWhile p ++ l.dropWhile p).drop (l.takeWhile p).length := by rw [whole]
    _ = l.dropWhile p := List.drop_left

/-- What holds of every number below 256 holds of every byte. -/
lemma forall_byte {p : UInt8 → Prop} (all : ∀ n < 256, p (UInt8.ofNat n)) (b : UInt8) : p b := by
  rw [← UInt8.ofNat_toNat (x := b)]
  exact all b.toNat b.toNat_lt

lemma takeWhile_free {sep : UInt8} {s : GoString} (free : sep ∉ s) : s.takeWhile (· ≠ sep) = s := by
  rw [List.takeWhile_eq_self_iff]
  intro b member
  simpa using fun same : b = sep => free (same ▸ member)

/-- A string up to its first separator. -/
lemma takeWhile_sep {sep : UInt8} {s : GoString} (free : sep ∉ s) (rest : GoString) :
    (s ++ sep :: rest).takeWhile (· ≠ sep) = s := by
  have all := List.takeWhile_eq_self_iff.mp (takeWhile_free free)
  rw [List.takeWhile_append_of_pos all, List.takeWhile_cons_of_neg (by simp), List.append_nil]

/-- A byte of another kind is not in a string of one kind. -/
lemma all_free {kind : UInt8 → Bool} {s : GoString} (all : s.all kind = true) {b : UInt8}
    (other : kind b = false) : b ∉ s := by
  intro member
  cases other.symm.trans (List.all_eq_true.mp all b member)

/-- Different string literals have different bytes. -/
lemma lit_injective {s t : String} (same : lit s = lit t) : s = t := by
  apply String.toByteArray_inj.mp
  apply ByteArray.ext
  exact Array.toList_inj.mp same

/-- The bytes of a number are those of its decimal digits. -/
lemma itoa_bytes (n : Nat) : itoa n = (Nat.toDigits 10 n).flatMap String.utf8EncodeChar := by
  change ((Nat.toDigits 10 n).flatMap String.utf8EncodeChar).toByteArray.data.toList = _
  rw [List.data_toByteArray]

lemma itoa_injective {m n : Nat} (same : itoa m = itoa n) : m = n := by
  have repr : m.repr = n.repr := lit_injective same
  rw [← Nat.ofDigitChars_ten_toDigits (n := m), ← Nat.toList_repr, repr, Nat.toList_repr,
    Nat.ofDigitChars_ten_toDigits]

/-- A decimal digit is one byte. -/
lemma utf8EncodeChar_digit {c : Char} (digit : c.isDigit = true) :
    ∃ b, String.utf8EncodeChar c = [b] ∧ isDigit b = true ∧
      (b - 48).toNat = c.toNat - '0'.toNat := by
  have range := Char.isDigit_iff_toNat.mp digit
  have low : 48 ≤ c.val.toNat := range.1
  have high : c.val.toNat ≤ 57 := range.2
  have ascii : c.val.toNat ≤ 127 := by omega
  have byte : (UInt8.ofNat c.val.toNat).toNat = c.val.toNat := by
    rw [UInt8.toNat_ofNat', Nat.mod_eq_of_lt (by omega)]
  refine ⟨UInt8.ofNat c.val.toNat, ?_, ?_, ?_⟩
  · simp only [String.utf8EncodeChar, ascii, if_true]
  · simp only [isDigit, Bool.and_eq_true, decide_eq_true_eq, UInt8.le_iff_toNat_le, byte]
    exact ⟨low, high⟩
  · rw [UInt8.toNat_sub_of_le _ _ (UInt8.le_iff_toNat_le.mpr (byte.symm ▸ low)), byte]
    rfl

/-- A number is written in digits. -/
lemma isDigit_of_mem_itoa {n : Nat} {b : UInt8} (member : b ∈ itoa n) : isDigit b = true := by
  rw [itoa_bytes] at member
  obtain ⟨c, digit, inside⟩ := List.mem_flatMap.mp member
  obtain ⟨b', bytes, decimal, _⟩ :=
    utf8EncodeChar_digit (Nat.isDigit_of_mem_toDigits (by decide) (by decide) digit)
  rw [bytes, List.mem_singleton] at inside
  exact inside ▸ decimal

lemma parseUint_digits {digits : List Char} {n : Nat} (all : ∀ c ∈ digits, c.isDigit = true)
    (small : Nat.ofDigitChars 10 digits n < 2 ^ 64) :
    parseUint (digits.flatMap String.utf8EncodeChar) n = some (Nat.ofDigitChars 10 digits n) := by
  induction digits generalizing n with
  | nil => rw [List.flatMap_nil, parseUint, Nat.ofDigitChars_nil]
  | cons c digits ih =>
    rw [Nat.ofDigitChars_cons] at small ⊢
    obtain ⟨b, byte, digit, value⟩ := utf8EncodeChar_digit (all c List.mem_cons_self)
    have grows : 10 * n + (c.toNat - '0'.toNat) ≤
        Nat.ofDigitChars 10 digits (10 * n + (c.toNat - '0'.toNat)) := by
      rw [Nat.ofDigitChars_eq_ofDigitChars_zero]
      exact (Nat.le_mul_of_pos_left _ (Nat.pow_pos (by decide))).trans (Nat.le_add_right _ _)
    rw [List.flatMap_cons, byte, List.singleton_append, parseUint, if_pos digit, value,
      Nat.mul_comm n, if_pos (by omega),
      ih (fun c' member => all c' (List.mem_cons_of_mem c member)) small]

/-- A string of digits has no sign. -/
lemma atoi_digits {s : GoString} (digits : s.all isDigit = true) :
    atoi s = (min (parseDigits s) (2 ^ 63 - 1) : Nat) := by
  unfold atoi
  split
  · cases digits
  · cases digits
  · rfl

lemma parseInt_digits {s : GoString} (some_digit : s ≠ []) (digits : s.all isDigit = true) :
    parseInt s = if parseDigits s < 2 ^ 63 then some (atoi s) else none := by
  have unsigned {sign : String} (other : (lit sign).head?.any isDigit = false)
      (some_sign : lit sign ≠ []) : hasPrefix s (lit sign) = false := by
    rw [Bool.eq_false_iff]
    intro signed
    obtain ⟨rest, rfl⟩ := hasPrefix_iff.mp signed
    cases bytes : lit sign with
    | nil => exact some_sign bytes
    | cons b bytes' =>
      rw [bytes] at digits other
      have digit := List.all_eq_true.mp digits b List.mem_cons_self
      cases digit.symm.trans other
  rw [parseInt, unsigned (by decide) (by decide), unsigned (by decide) (by decide)]
  simp [some_digit, digits]

/-- Go `strconv.Atoi` reads what `strconv.Itoa` writes. -/
lemma parseInt_itoa {n : Nat} (small : n < 2 ^ 63) : parseInt (itoa n) = some (n : Int) := by
  have decimal : ∀ c ∈ Nat.toDigits 10 n, c.isDigit = true := fun c member =>
    Nat.isDigit_of_mem_toDigits (by decide) (by decide) member
  have some_digit : itoa n ≠ [] := by
    obtain ⟨c, digits, some_char⟩ :=
      List.exists_cons_of_ne_nil (Nat.toDigits_ne_nil (n := n) (b := 10))
    obtain ⟨b, byte, _⟩ := utf8EncodeChar_digit (decimal c (some_char ▸ List.mem_cons_self))
    rw [itoa_bytes, some_char, List.flatMap_cons, byte]
    exact List.cons_ne_nil _ _
  have digits : (itoa n).all isDigit = true :=
    List.all_eq_true.mpr fun b member => isDigit_of_mem_itoa member
  have value : parseDigits (itoa n) = n := by
    have number := Nat.ofDigitChars_ten_toDigits (n := n)
    rw [parseDigits, if_neg some_digit, itoa_bytes, parseUint_digits decimal (by omega), number]
    rfl
  rw [parseInt_digits some_digit digits, value, if_pos small, atoi_digits digits, value,
    Nat.min_eq_left (by omega)]

example : trimSpace (lit " a.lvh.me\t") = lit "a.lvh.me" := by decide

example : atoi (lit "8080") = 8080 ∧ atoi (lit "80/tcp") = 0 := by decide

end Pintle.Go
