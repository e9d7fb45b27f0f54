import Pintle.Go.Strings

/-!
# Go flag

Parsing of command lines as the package `flag` does it, for the flags of any set over any record of
values, with Go `strconv.ParseInt` at base 0 and `strconv.ParseBool`, by which the flags read their
values. Of an error it has the kind and the texts that go into the message.

A command line of words without special meaning is split at its blanks (`fields_words`), each flag
takes its value (`Flag.parse_value`, `Flag.parse_bool`), and a number is read as it is written
(`parseInt0_itoa`).
-/

namespace Pintle.Go

/-- The value of a digit or letter, as Go `ParseUint` reads it. -/
def digitOf (b : UInt8) : Option Nat :=
  if isDigit b then some (b - 48).toNat
  else if 97 ≤ b ||| 32 ∧ b ||| 32 ≤ 122 then some ((b ||| 32) - 97 + 10).toNat
  else none

/-- The loop of Go `ParseUint` at base 0, which passes over underscores. -/
def parseUintLoop (base : Nat) : GoString → Nat → Option Nat
  | [], n => some n
  | b :: s, n =>
    if b = 95 then parseUintLoop base s n
    else
      match digitOf b with
      | none => none
      | some d =>
        if d ≥ base then none
        else if n * base + d < 2 ^ 64 then parseUintLoop base s (n * base + d)
        else none

/-- The base of a number at base 0, and its digits. -/
def splitBase : GoString → Nat × GoString
  | 48 :: c :: d :: s =>
    if c ||| 32 = 98 then (2, d :: s)
    else if c ||| 32 = 111 then (8, d :: s)
    else if c ||| 32 = 120 then (16, d :: s)
    else (8, c :: d :: s)
  | 48 :: s => (8, s)
  | s => (10, s)

/-- The loop of Go `underscoreOK`, with the kind of the last byte: `0` for a digit or a prefix of the
base, `_` for an underscore, another byte for anything else. -/
def underscoreLoop (hex : Bool) : UInt8 → GoString → Bool
  | last, [] => last ≠ 95
  | last, b :: s =>
    if isDigit b || (hex && 97 ≤ b ||| 32 && b ||| 32 ≤ 102) then underscoreLoop hex 48 s
    else if b = 95 then last = 48 && underscoreLoop hex 95 s
    else last ≠ 95 && underscoreLoop hex 33 s

/-- Go `underscoreOK`: underscores stand between digits, or after the prefix of the base. -/
def underscoreOK (s : GoString) : Bool :=
  let s := if hasPrefix s (lit "-") || hasPrefix s (lit "+") then s.drop 1 else s
  match s with
  | 48 :: c :: s =>
    if c ||| 32 = 98 || c ||| 32 = 111 || c ||| 32 = 120 then underscoreLoop (c ||| 32 = 120) 48 s
    else underscoreLoop false 94 (48 :: c :: s)
  | s => underscoreLoop false 94 s

/-- Go `strconv.ParseInt(s, 0, 64)`, for callers that only ask whether there is an error. -/
def parseInt0 (s : GoString) : Option Int :=
  let negative := hasPrefix s (lit "-")
  let digits := if negative || hasPrefix s (lit "+") then s.drop 1 else s
  if digits = [] then none
  else
    let (base, rest) := splitBase digits
    match parseUintLoop base rest 0 with
    | none => none
    | some n =>
      if 95 ∈ rest ∧ !underscoreOK digits then none
      else if negative then if n > 2 ^ 63 then none else some (-(n : Int))
      else if n ≥ 2 ^ 63 then none else some n

/-- Go `strconv.ParseBool`. -/
def parseBool (s : GoString) : Option Bool :=
  if s ∈ ["1", "t", "T", "TRUE", "true", "True"].map lit then some true
  else if s ∈ ["0", "f", "F", "FALSE", "false", "False"].map lit then some false
  else none

/-- A flag of a set (Go `flag.Flag`): its name, whether it may stand without a value, and how it sets
its value. -/
structure Flag (σ : Type) where
  name : GoString
  isBool : Bool := false
  set : GoString → σ → Option σ

/-- What may be wrong with an argument list. -/
inductive FlagError where
  | badSyntax (arg : GoString)
  | undefined (name : GoString)
  | help
  | needsArgument (name : GoString)
  | invalidBool (value name : GoString)
  | invalid (value name : GoString)
  deriving DecidableEq, Repr

/-- How an argument begins: with a flag and perhaps its value, or it ends the flags. -/
inductive FlagArg where
  | stop
  | bad
  | flag (name : GoString) (value : Option GoString)
  deriving DecidableEq, Repr

/-- The part of an argument after its hyphens. -/
def flagNamed (name : GoString) : FlagArg :=
  if name.head?.all fun b => b = 45 || b = 61 then .bad
  else
    let front := name.takeWhile (· ≠ 61)
    .flag front (if 61 ∈ name then some (name.drop (front.length + 1)) else none)

/-- The kind of an argument. -/
def flagArg : GoString → FlagArg
  | [45, 45] => .stop
  | 45 :: 45 :: name => flagNamed name
  | 45 :: b :: name => flagNamed (b :: name)
  | _ => .stop

namespace Flag
variable {σ : Type}

/-- Go `FlagSet.Parse`: each flag sets its value, up to the first argument that is none. -/
def parse (flags : List (Flag σ)) : List GoString → σ → Except FlagError σ
  | [], s => .ok s
  | arg :: args, s =>
    match flagArg arg with
    | .stop => .ok s
    | .bad => .error (.badSyntax arg)
    | .flag name value =>
      match flags.find? (·.name = name) with
      | none =>
        .error (if name = lit "help" ∨ name = lit "h" then .help else .undefined name)
      | some f =>
        if f.isBool then
          match f.set (value.getD (lit "true")) s with
          | none => .error (.invalidBool (value.getD (lit "true")) name)
          | some s => parse flags args s
        else
          match value, args with
          | some value, args =>
            match f.set value s with
            | none => .error (.invalid value name)
            | some s => parse flags args s
          | none, value :: args =>
            match f.set value s with
            | none => .error (.invalid value name)
            | some s => parse flags args s
          | none, [] => .error (.needsArgument name)

/-- Go `StringVar`. -/
def stringVar (name : GoString) (put : GoString → σ → σ) : Flag σ where
  name := name
  set value s := some (put value s)

/-- Go `IntVar`. -/
def intVar (name : GoString) (put : Int → σ → σ) : Flag σ where
  name := name
  set value s := (parseInt0 value).map (put · s)

/-- Go `BoolVar`. -/
def boolVar (name : GoString) (put : Bool → σ → σ) : Flag σ where
  name := name
  isBool := true
  set value s := (parseBool value).map (put · s)

end Flag

example : parseInt0 (lit "0x1_F") = some 31 ∧ parseInt0 (lit "0123") = some 83 ∧
    parseInt0 (lit "1__0") = none := by decide

namespace Flag
variable {σ : Type} {flags : List (Flag σ)} {arg name : GoString} {args : List GoString} {f : Flag σ}
  {s s' : σ}

/-- A flag that takes the next argument. -/
lemma parse_value {value : GoString} (named : flagArg arg = .flag name none)
    (found : flags.find? (·.name = name) = some f) (valued : f.isBool = false)
    (set : f.set value s = some s') :
    parse flags (arg :: value :: args) s = parse flags args s' := by
  rw [parse, named]
  simp only [found, valued, set, Bool.false_eq_true, if_false]

/-- A flag that stands alone. -/
lemma parse_bool (named : flagArg arg = .flag name none)
    (found : flags.find? (·.name = name) = some f) (bool : f.isBool = true)
    (set : f.set (lit "true") s = some s') : parse flags (arg :: args) s = parse flags args s' := by
  rw [parse, named]
  simp only [found, bool, Option.getD_none, set, if_true]

end Flag

/-- The bytes of words that a shell takes as they are. -/
def isWordByte (b : UInt8) : Bool :=
  isDigit b || (65 ≤ b && b ≤ 90) || (97 ≤ b && b ≤ 122) || b ∈ lit "-_./:@%+,="

/-- A word that a shell takes as it is. -/
def Word (s : GoString) : Prop := s ≠ [] ∧ s.all isWordByte = true

instance (s : GoString) : Decidable (Word s) := inferInstanceAs (Decidable (_ ∧ _))

/-- A byte of a word begins no white space. -/
lemma find?_spaces {b : UInt8} (plain : isWordByte b = true) (s : GoString) :
    spaces.find? (hasPrefix (b :: s)) = none := by
  have starts : ∀ char ∈ spaces, char.head?.any isWordByte = false ∧ char ≠ [] := by decide
  rw [List.find?_eq_none]
  intro char member begins
  obtain ⟨rest, same⟩ := hasPrefix_iff.mp begins
  cases char with
  | nil => exact (starts _ member).2 rfl
  | cons c char =>
    obtain ⟨rfl, _⟩ := List.cons.inj same
    have other := (starts _ member).1
    rw [List.head?_cons, Option.any_some, plain] at other
    cases other

lemma fieldsFrom_word {w : GoString} (plain : w.all isWordByte = true) (field rest : GoString) :
    fieldsFrom 0 field (w ++ rest) = fieldsFrom 0 (field ++ w) rest := by
  induction w generalizing field with
  | nil => rw [List.nil_append, List.append_nil]
  | cons b w ih =>
    rw [List.all_cons, Bool.and_eq_true] at plain
    rw [List.cons_append, fieldsFrom, find?_spaces plain.1, ih plain.2, List.append_assoc]
    rfl

lemma fieldsFrom_blank (field rest : GoString) : fieldsFrom 0 field (32 :: rest) =
    (if field = [] then [] else [field]) ++ fieldsFrom 0 [] rest := rfl

/-- Words with blanks between them are split into these words. -/
lemma fields_words {words : List GoString} (plain : ∀ word ∈ words, Word word) :
    fields ([32].intercalate words) = words := by
  rw [fields]
  induction words with
  | nil => rfl
  | cons word words ih =>
    obtain ⟨⟨some, bytes⟩, rest⟩ := List.forall_mem_cons.mp plain
    cases words with
    | nil =>
      have alone := fieldsFrom_word bytes [] []
      rw [List.append_nil, List.nil_append] at alone
      rw [List.intercalate_singleton, alone, fieldsFrom, if_neg some]
    | cons next words =>
      rw [List.intercalate_cons_cons, List.append_assoc, fieldsFrom_word bytes, List.nil_append,
        List.singleton_append, fieldsFrom_blank, if_neg some, ih rest]
      rfl

/-- A number that is not zero does not begin with a zero. -/
lemma toDigits_head {n : Nat} (positive : 0 < n) : (Nat.toDigits 10 n).head? ≠ some '0' := by
  induction n using Nat.strong_induction_on with
  | _ n ih =>
    by_cases small : n < 10
    · have digits : ∀ n < 10, 0 < n → [n.digitChar].head? ≠ some '0' := by decide
      rw [Nat.toDigits_of_lt_base small]
      exact digits n small positive
    · rw [Nat.toDigits_of_base_le (by decide) (by omega),
        List.head?_append_of_ne_nil _ Nat.toDigits_ne_nil]
      exact ih (n / 10) (by omega) (by omega)

lemma isDigit_plain {b : UInt8} (digit : isDigit b = true) : b ≠ 45 ∧ b ≠ 43 ∧ b ≠ 95 := by
  refine ⟨?_, ?_, ?_⟩ <;> rintro rfl <;> cases digit

lemma parseUintLoop_digits {digits : List Char} {n : Nat} (all : ∀ c ∈ digits, c.isDigit = true)
    (small : Nat.ofDigitChars 10 digits n < 2 ^ 64) :
    parseUintLoop 10 (digits.flatMap String.utf8EncodeChar) n =
      some (Nat.ofDigitChars 10 digits n) := by
  induction digits generalizing n with
  | nil => rw [List.flatMap_nil, parseUintLoop, Nat.ofDigitChars_nil]
  | cons c digits ih =>
    rw [Nat.ofDigitChars_cons] at small ⊢
    have decimal := all c List.mem_cons_self
    obtain ⟨b, byte, digit, value⟩ := utf8EncodeChar_digit decimal
    have below : c.toNat - '0'.toNat < 10 := by
      have range := Char.isDigit_iff_toNat.mp decimal
      have low : 48 ≤ c.toNat := range.1
      have high : c.toNat ≤ 57 := range.2
      have zero : '0'.toNat = 48 := rfl
      omega
    have grows : 10 * n + (c.toNat - '0'.toNat) ≤
        Nat.ofDigitChars 10 digits (10 * n + (c.toNat - '0'.toNat)) := by
      rw [Nat.ofDigitChars_eq_ofDigitChars_zero]
      exact (Nat.le_mul_of_pos_left _ (Nat.pow_pos (by decide))).trans (Nat.le_add_right _ _)
    rw [List.flatMap_cons, byte, List.singleton_append, parseUintLoop,
      if_neg (isDigit_plain digit).2.2, digitOf, if_pos digit]
    dsimp only
    rw [value, if_neg (by omega), Nat.mul_comm n, if_pos (by omega),
      ih (fun c' member => all c' (List.mem_cons_of_mem c member)) small]

/-- A number is read as it is written, unless it is zero. -/
lemma parseInt0_itoa {n : Nat} (positive : 0 < n) (small : n < 2 ^ 63) :
    parseInt0 (itoa n) = some (n : Int) := by
  have decimal : ∀ c ∈ Nat.toDigits 10 n, c.isDigit = true := fun c member =>
    Nat.isDigit_of_mem_toDigits (by decide) (by decide) member
  have number := Nat.ofDigitChars_ten_toDigits (n := n)
  have read : parseUintLoop 10 (itoa n) 0 = some n := by
    rw [itoa_bytes, parseUintLoop_digits decimal (by omega), number]
  have digits : ∀ b ∈ itoa n, isDigit b = true := fun b member => isDigit_of_mem_itoa member
  obtain ⟨b, s, bytes, first⟩ : ∃ b s, itoa n = b :: s ∧ b ≠ 48 := by
    obtain ⟨c, rest, chars⟩ :=
      List.exists_cons_of_ne_nil (Nat.toDigits_ne_nil (n := n) (b := 10))
    obtain ⟨b, byte, _, value⟩ := utf8EncodeChar_digit (decimal c (chars ▸ List.mem_cons_self))
    refine ⟨b, _, by rw [itoa_bytes, chars, List.flatMap_cons, byte, List.singleton_append], ?_⟩
    rintro rfl
    have zero : c = '0' := by
      have low : 48 ≤ c.toNat := (Char.isDigit_iff_toNat.mp (decimal c (chars ▸ List.mem_cons_self))).1
      have none_above : 0 = c.toNat - 48 := value
      exact Char.toNat_inj.mp (show c.toNat = 48 by omega)
    apply toDigits_head positive
    rw [chars, zero, List.head?_cons]
  rw [bytes] at read digits ⊢
  obtain ⟨minus, plus, _⟩ := isDigit_plain (digits b List.mem_cons_self)
  have base : splitBase (b :: s) = (10, b :: s) := by
    unfold splitBase
    split
    · rename_i same
      exact absurd (List.cons.inj same).1 first
    · rename_i same
      exact absurd (List.cons.inj same).1 first
    · rfl
  have unsigned (sign : UInt8) (other : b ≠ sign) : hasPrefix (b :: s) [sign] = false := by
    rw [hasPrefix, List.isPrefixOf, beq_eq_false_iff_ne.mpr other.symm, Bool.false_and]
  have free : 95 ∉ b :: s := fun member => (isDigit_plain (digits 95 member)).2.2 rfl
  have minus' : hasPrefix (b :: s) (lit "-") = false := unsigned 45 minus
  have plus' : hasPrefix (b :: s) (lit "+") = false := unsigned 43 plus
  have fits : ¬ n ≥ 2 ^ 63 := by omega
  rw [parseInt0, minus', plus']
  simp only [Bool.or_false, Bool.false_eq_true, if_false, List.cons_ne_nil, base, read, free,
    false_and, fits]

end Pintle.Go
