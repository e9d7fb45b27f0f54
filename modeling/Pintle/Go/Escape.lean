import Pintle.Go.Strings

/-!
# Percent-encoding

Go `escape`, `unescape` and `validEncoded` of `net/url`, for the parts of a URL. What may stand for
itself differs between them, and in a host only some bytes may be encoded at all. A path may be
encoded in many ways, and `escape` is the one the package uses by default. A URL keeps its path
decoded, and another encoding beside it as a hint (`URLPath`).
-/

namespace Pintle.Go

/-- The part of a URL that is encoded. -/
inductive Encoding where
  | path
  | userPassword
  | host
  | zone
  | fragment
  deriving DecidableEq

/-- A letter or a digit. -/
def isAlnum (c : UInt8) : Bool :=
  (97 ≤ c && c ≤ 122) || (65 ≤ c && c ≤ 90) || isDigit c

/-- Go `shouldEscape`. -/
def shouldEscape (mode : Encoding) (c : UInt8) : Bool :=
  !(isAlnum c || (lit "-_.~").contains c ||
    match mode with
    | .path => (lit "$&+,/:;=@").contains c
    | .userPassword => (lit "$&+,;=").contains c
    | .host | .zone => (lit "!$&'()*+,;=:[]<>\"").contains c
    | .fragment => (lit "$&+,/:;=?@!()*").contains c)

def ishex (c : UInt8) : Bool := isDigit c || (97 ≤ c && c ≤ 102) || (65 ≤ c && c ≤ 70)

def unhex (c : UInt8) : UInt8 :=
  if isDigit c then c - 48 else if 97 ≤ c then c - 97 + 10 else c - 65 + 10

/-- The byte that two hexadecimal digits stand for. -/
def unhex2 (high low : UInt8) : UInt8 := unhex high <<< 4 ||| unhex low

/-- A digit of Go `upperhex`. -/
def upperhex (n : UInt8) : UInt8 := if n < 10 then 48 + n else 65 + (n - 10)

/-- Go `escape`. -/
def escape (mode : Encoding) (s : GoString) : GoString :=
  s.flatMap fun c =>
    if shouldEscape mode c then [37, upperhex (c >>> 4), upperhex (c &&& 15)] else [c]

/-- Whether an encoded byte is accepted: the percent sign and bytes beyond ASCII in a host, what may
stand for itself, or a space, in a zone, and any byte elsewhere. -/
def escapeAllowed (mode : Encoding) (high low : UInt8) : Bool :=
  match mode with
  | .host => 8 ≤ unhex high || (high = 50 && low = 53)
  | .zone =>
    (high = 50 && low = 53) || unhex2 high low = 32 || !shouldEscape .host (unhex2 high low)
  | _ => true

/-- Whether a byte may stand for itself. -/
def byteAllowed (mode : Encoding) (c : UInt8) : Bool :=
  match mode with
  | .host | .zone => 128 ≤ c || !shouldEscape mode c
  | _ => true

/-- Go `unescape`; an error is `none`. -/
def unescape (mode : Encoding) : GoString → Option GoString
  | [] => some []
  | c :: s =>
    if c = 37 then
      match s with
      | high :: low :: s =>
        if ishex high && ishex low && escapeAllowed mode high low then
          (unescape mode s).map (unhex2 high low :: ·)
        else none
      | _ => none
    else if byteAllowed mode c then (unescape mode s).map (c :: ·)
    else none

/-- Go `validEncoded`. -/
def validEncoded (mode : Encoding) (s : GoString) : Bool :=
  s.all fun c => (lit "!$&'()*+,;=:@[]%").contains c || !shouldEscape mode c

/-- The fields `Path` and `RawPath` of Go `url.URL`. -/
structure URLPath where
  path : GoString
  rawPath : GoString := []
  deriving DecidableEq, Repr

/-- Go `setPath`; an error is `none`. -/
def setPath (p : GoString) : Option URLPath :=
  (unescape .path p).map fun path =>
    { path, rawPath := if p = escape .path path then [] else p }

/-- Go `URL.EscapedPath`. -/
def URLPath.escapedPath (u : URLPath) : GoString :=
  if u.rawPath ≠ [] ∧ validEncoded .path u.rawPath ∧ unescape .path u.rawPath = some u.path then
    u.rawPath
  else if u.path = lit "*" then lit "*"
  else escape .path u.path

lemma unhex2_upperhex (c : UInt8) : ishex (upperhex (c >>> 4)) = true ∧
    ishex (upperhex (c &&& 15)) = true ∧ unhex2 (upperhex (c >>> 4)) (upperhex (c &&& 15)) = c := by
  revert c
  exact forall_byte (by decide +kernel)

/-- What `unescape` does with its first byte. -/
lemma unescape_percent (mode : Encoding) (high low : UInt8) (s : GoString) :
    unescape mode (37 :: high :: low :: s) =
      if ishex high && ishex low && escapeAllowed mode high low then
        (unescape mode s).map (unhex2 high low :: ·)
      else none := rfl

lemma unescape_plain {mode : Encoding} {c : UInt8} (plain : c ≠ 37) (s : GoString) :
    unescape mode (c :: s) =
      if byteAllowed mode c then (unescape mode s).map (c :: ·) else none := by
  rw [unescape.eq_def]
  exact if_neg plain

/-- Only the empty string is decoded to it. -/
lemma unescape_eq_nil {mode : Encoding} {s : GoString} (decodes : unescape mode s = some []) :
    s = [] := by
  revert decodes
  fun_cases unescape mode s <;> simp

/-- Induction on a string that is decoded. -/
lemma unescape_rec {mode : Encoding} {motive : GoString → GoString → Prop} (nil : motive [] [])
    (encoded : ∀ high low s x, (ishex high && ishex low && escapeAllowed mode high low) = true →
      motive s x → motive (37 :: high :: low :: s) (unhex2 high low :: x))
    (plain : ∀ c s x, c ≠ 37 → byteAllowed mode c = true → motive s x → motive (c :: s) (c :: x))
    {s x : GoString} (decodes : unescape mode s = some x) : motive s x := by
  induction s using unescape.induct mode generalizing x with
  | case1 =>
    cases decodes
    exact nil
  | case2 high low s hex ih =>
    rw [unescape_percent, if_pos hex] at decodes
    obtain ⟨y, rest, rfl⟩ := Option.map_eq_some_iff.mp decodes
    exact encoded high low s y hex (ih rest)
  | case3 high low s malformed =>
    rw [unescape_percent, if_neg malformed] at decodes
    cases decodes
  | case4 s short =>
    match s with
    | [] => cases decodes
    | [_] => cases decodes
    | high :: low :: s => exact (short high low s rfl).elim
  | case5 c s other allowed ih =>
    rw [unescape_plain other, if_pos allowed] at decodes
    obtain ⟨y, rest, rfl⟩ := Option.map_eq_some_iff.mp decodes
    exact plain c s y other allowed (ih rest)
  | case6 c s other forbidden =>
    rw [unescape_plain other, if_neg forbidden] at decodes
    cases decodes

/-- What follows a string that is decoded is decoded by itself. -/
lemma unescape_append {mode : Encoding} {s x : GoString} (decodes : unescape mode s = some x)
    (t : GoString) : unescape mode (s ++ t) = (unescape mode t).map (x ++ ·) := by
  refine unescape_rec (motive := fun s x => unescape mode (s ++ t) = (unescape mode t).map (x ++ ·))
    Option.map_id'.symm ?_ ?_ decodes
  · intro high low s x hex ih
    rw [List.cons_append, List.cons_append, List.cons_append, unescape_percent, if_pos hex, ih,
      Option.map_map]
    rfl
  · intro c s x other allowed ih
    rw [List.cons_append, unescape_plain other, if_pos allowed, ih, Option.map_map]
    rfl

/-- Decoding makes a string shorter where it has an encoded byte. -/
lemma unescape_length {mode : Encoding} {s x : GoString} (decodes : unescape mode s = some x) :
    x.length ≤ s.length ∧ (37 ∈ s → x.length < s.length) := by
  refine unescape_rec (motive := fun s x => x.length ≤ s.length ∧ (37 ∈ s → x.length < s.length))
    ⟨Nat.le_refl _, nofun⟩ ?_ ?_ decodes
  · intro high low s x _ ih
    simp only [List.length_cons]
    omega
  · intro c s x plain _ ih
    simp only [List.length_cons, List.mem_cons]
    refine ⟨Nat.succ_le_succ ih.1, fun member => ?_⟩
    rcases member with rfl | later
    · exact absurd rfl plain
    · exact Nat.succ_lt_succ (ih.2 later)

/-- Bytes that may stand for themselves are decoded to themselves. -/
lemma unescape_self {mode : Encoding} {s : GoString}
    (plain : ∀ c ∈ s, c ≠ 37 ∧ byteAllowed mode c = true) : unescape mode s = some s := by
  induction s with
  | nil => rfl
  | cons c s ih =>
    obtain ⟨percent, allowed⟩ := plain c List.mem_cons_self
    rw [unescape_plain percent, if_pos allowed,
      ih fun c' member => plain c' (List.mem_cons_of_mem c member)]
    rfl

/-- What a string decodes to, if it is accepted. -/
def decoded : GoString → GoString
  | [] => []
  | c :: s =>
    if c = 37 then
      match s with
      | high :: low :: s => unhex2 high low :: decoded s
      | s => c :: s
    else c :: decoded s

lemma decoded_plain {c : UInt8} (plain : c ≠ 37) (s : GoString) :
    decoded (c :: s) = c :: decoded s := by
  rw [decoded.eq_def]
  exact if_neg plain

lemma decoded_of_unescape {mode : Encoding} {s x : GoString} (decodes : unescape mode s = some x)
    (t : GoString) : decoded (s ++ t) = x ++ decoded t := by
  refine unescape_rec (motive := fun s x => decoded (s ++ t) = x ++ decoded t) rfl ?_ ?_ decodes
  · intro high low s x _ ih
    exact congrArg (unhex2 high low :: ·) ih
  · intro c s x other _ ih
    rw [List.cons_append, decoded_plain other, ih, List.cons_append]

/-- Decoding undoes the default encoding where what it encodes is accepted. -/
lemma unescape_escape_of {mode : Encoding} {s : GoString} (percent : shouldEscape mode 37 = true)
    (allowed : ∀ c ∈ s, if shouldEscape mode c then
      escapeAllowed mode (upperhex (c >>> 4)) (upperhex (c &&& 15)) = true
      else byteAllowed mode c = true) : unescape mode (escape mode s) = some s := by
  induction s with
  | nil => rfl
  | cons c s ih =>
    have later := ih fun c' member => allowed c' (List.mem_cons_of_mem c member)
    have here := allowed c List.mem_cons_self
    cases special : shouldEscape mode c with
    | true =>
      rw [special, if_pos rfl] at here
      obtain ⟨high, low, joined⟩ := unhex2_upperhex c
      have first : escape mode (c :: s) =
          37 :: upperhex (c >>> 4) :: upperhex (c &&& 15) :: escape mode s := by
        rw [escape, List.flatMap_cons, special]
        rfl
      rw [first, unescape_percent, high, low, here, later, joined]
      rfl
    | false =>
      rw [special, if_neg Bool.false_ne_true] at here
      have plain : c ≠ 37 := by
        rintro rfl
        rw [percent] at special
        cases special
      have first : escape mode (c :: s) = c :: escape mode s := by
        rw [escape, List.flatMap_cons, special]
        rfl
      rw [first, unescape_plain plain, here, later]
      rfl

section path

lemma escape_cons (c : UInt8) (s : GoString) : escape .path (c :: s) =
    (if shouldEscape .path c then [37, upperhex (c >>> 4), upperhex (c &&& 15)] else [c]) ++
      escape .path s := rfl

@[simp]
lemma escape_slash (s : GoString) : escape .path (47 :: s) = 47 :: escape .path s := rfl

lemma unescape_slash (s : GoString) :
    unescape .path (47 :: s) = (unescape .path s).map (47 :: ·) := by
  rw [unescape_plain (by decide)]
  rfl

/-- Decoding undoes the default encoding. -/
@[simp]
lemma unescape_escape (s : GoString) : unescape .path (escape .path s) = some s :=
  unescape_escape_of (by decide) fun _ _ => by split <;> rfl

lemma escape_injective {s t : GoString} (same : escape .path s = escape .path t) : s = t := by
  have decoded := congrArg (unescape .path) same
  rw [unescape_escape, unescape_escape] at decoded
  exact Option.some.inj decoded

lemma ishex_valid {c : UInt8} (hex : ishex c = true) : shouldEscape .path c = false := by
  simp only [ishex, Bool.or_eq_true, Bool.and_eq_true, decide_eq_true_eq,
    UInt8.le_iff_toNat_le] at hex
  have alnum : isAlnum c = true := by
    simp only [isAlnum, Bool.or_eq_true, Bool.and_eq_true, decide_eq_true_eq, UInt8.le_iff_toNat_le]
    rcases hex with (digit | lower) | upper
    · exact .inr digit
    · exact .inl (.inl ⟨lower.1, lower.2.trans (by decide)⟩)
    · exact .inl (.inr ⟨upper.1, upper.2.trans (by decide)⟩)
  rw [shouldEscape, alnum]
  rfl

/-- The default encoding is a valid one. -/
@[simp]
lemma validEncoded_escape (s : GoString) : validEncoded .path (escape .path s) = true := by
  induction s with
  | nil => rfl
  | cons c s ih =>
    rw [validEncoded] at ih
    rw [escape_cons, validEncoded, List.all_append, ih, Bool.and_true]
    cases special : shouldEscape .path c with
    | true =>
      obtain ⟨high, low, _⟩ := unhex2_upperhex c
      have percent : (lit "!$&'()*+,;=:@[]%").contains 37 = true := by decide
      simp only [if_true, List.all_cons, List.all_nil, percent, ishex_valid high, ishex_valid low,
        Bool.not_false, Bool.or_true, Bool.true_or, Bool.and_true]
    | false => simp [special]

/-- A slash does not stand inside an encoded byte, so a path is decoded piece by piece. -/
lemma unescape_append_slash (s t : GoString) : unescape .path (s ++ 47 :: t) =
    (unescape .path s).bind fun x => (unescape .path t).map fun y => x ++ 47 :: y := by
  have slash : ishex 47 = false := by decide
  induction s using unescape.induct .path with
  | case1 =>
    rw [List.nil_append, unescape_plain (by decide)]
    rfl
  | case2 high low s hex ih =>
    rw [List.cons_append, List.cons_append, List.cons_append, unescape_percent, unescape_percent,
      if_pos hex, if_pos hex, ih]
    cases unescape .path s <;> cases unescape .path t <;> rfl
  | case3 high low s malformed =>
    rw [List.cons_append, List.cons_append, List.cons_append, unescape_percent, unescape_percent,
      if_neg malformed, if_neg malformed]
    rfl
  | case4 s short =>
    match s with
    | [] =>
      cases t with
      | nil => rfl
      | cons b t =>
        rw [List.cons_append, List.nil_append, unescape_percent, slash]
        rfl
    | [b] =>
      rw [List.cons_append, List.cons_append, List.nil_append, unescape_percent, slash,
        Bool.and_false, Bool.false_and]
      rfl
    | high :: low :: s => exact (short high low s rfl).elim
  | case5 c s plain allowed ih =>
    rw [List.cons_append, unescape_plain plain, unescape_plain plain, if_pos allowed,
      if_pos allowed, ih]
    cases unescape .path s <;> cases unescape .path t <;> rfl
  | case6 c s plain forbidden => exact absurd rfl forbidden

end path

end Pintle.Go
