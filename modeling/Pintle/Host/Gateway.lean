import Pintle.Go.Net

/-!
# The default gateway

Model of `readHostRoute` and `parseHexIPLE` of `internal/hostdetect/hostdetect.go`. The address that
`parseHexIPLE` prints is that of the number its eight digits stand for, lowest byte first
(`parseHexIPLE_eq`).

`readHostRoute` looks at the destination alone. A line of a narrower prefix of `0.0.0.0`, and a default
route that has an interface but no gateway, have the same destination; where one of them comes first
it is taken (`detected_iff`).
-/

namespace Pintle.Host
open Go

/-- Go `fmt.Sprintf("%d.%d.%d.%d", …)`. -/
def dottedQuad (a b c d : Nat) : GoString :=
  itoa a ++ 46 :: (itoa b ++ 46 :: (itoa c ++ 46 :: itoa d))

/-- Go `strconv.ParseUint` of two bytes at base 16. -/
def parseHexByte (high low : UInt8) : Option Nat := do
  let h ← hexDigit high
  let l ← hexDigit low
  return h * 16 + l

/-- Go `parseHexIPLE`. -/
def parseHexIPLE : GoString → Option GoString
  | [h0, l0, h1, l1, h2, l2, h3, l3] => do
    let b3 ← parseHexByte h0 l0
    let b2 ← parseHexByte h1 l1
    let b1 ← parseHexByte h2 l2
    let b0 ← parseHexByte h3 l3
    return dottedQuad b0 b1 b2 b3
  | _ => none

/-- The field of a line of zeros, eight hexadecimal digits. -/
def zeros : GoString := lit "00000000"

/-- One iteration of the loop of Go `readHostRoute`. -/
def lineGateway (line : GoString) : Option GoString :=
  match fields line with
  | _ :: destination :: gateway :: _ => if destination ≠ zeros then none else parseHexIPLE gateway
  | _ => none -- fewer than three fields

/-- The lines of the table behind its header. -/
def routeLines (data : GoString) : List GoString := (data.splitOn 10).drop 1

/-- Go `readHostRoute`, on what `os.ReadFile` returns. -/
def readHostRoute (read : Option GoString) : GoString :=
  match read with
  | none => []
  | some data => ((routeLines data).findSome? lineGateway).getD []

/-- Eight hexadecimal digits. -/
def isHexWord (s : GoString) : Bool := s.length = 8 && s.all fun b => (hexDigit b).isSome

/-- The destination of a line is `0.0.0.0`, and its gateway is one that can be read. -/
def fromZero (line : GoString) : Bool :=
  (fields line)[1]? = some zeros && (fields line)[2]?.any isHexWord

/-- The number in the gateway field of a line. -/
def gatewayNumber (line : GoString) : Nat := hexValue ((fields line)[2]?.getD [])

/-- An IPv4 default route through a gateway: the destination and the mask are zero, the gateway is
not. -/
def isDefault (line : GoString) : Bool :=
  fromZero line && (fields line)[7]? = some zeros && gatewayNumber line ≠ 0

/-- The address of a number, its lowest byte first. -/
def address (n : Nat) : GoString :=
  dottedQuad (n % 256) (n / 256 % 256) (n / 65536 % 256) (n / 16777216 % 256)

/-- The result is the gateway of the first default route through a gateway of a table, or empty. -/
structure Detected (data result : GoString) : Prop where
  empty : result = [] ↔ ∀ line ∈ routeLines data, isDefault line = false
  first : result ≠ [] → ∃ before line after, routeLines data = before ++ line :: after ∧
    (∀ earlier ∈ before, isDefault earlier = false) ∧ isDefault line = true ∧
      result = address (gatewayNumber line)
  some : result ≠ lit "0.0.0.0"

/-- The first line from `0.0.0.0` is a default route through a gateway, or names the gateway of the
first one behind it. -/
def ZeroIsDefault (data : GoString) : Prop :=
  ∀ line, (routeLines data).find? fromZero = some line →
    isDefault line = true ∨
      ∃ other, (routeLines data).find? isDefault = some other ∧
        gatewayNumber other = gatewayNumber line

lemma dot_free (n : Nat) : (46 : UInt8) ∉ itoa n := by
  intro dot
  cases isDigit_of_mem_itoa dot

lemma dottedQuad_injective {a b c d a' b' c' d' : Nat}
    (same : dottedQuad a b c d = dottedQuad a' b' c' d') : a = a' ∧ b = b' ∧ c = c' ∧ d = d' := by
  obtain ⟨first, same⟩ := append_sep_inj (dot_free a) (dot_free a') same
  obtain ⟨second, same⟩ := append_sep_inj (dot_free b) (dot_free b') same
  obtain ⟨third, fourth⟩ := append_sep_inj (dot_free c) (dot_free c') same
  exact ⟨itoa_injective first, itoa_injective second, itoa_injective third, itoa_injective fourth⟩

lemma address_injective {m n : Nat} (small : m < 2 ^ 32) (small' : n < 2 ^ 32)
    (same : address m = address n) : m = n := by
  obtain ⟨b0, b1, b2, b3⟩ := dottedQuad_injective same
  omega

lemma address_ne_nil (n : Nat) : address n ≠ [] := by
  simp [address, dottedQuad]

lemma hexDigit_lt {b : UInt8} {v : Nat} (digit : hexDigit b = some v) : v < 16 := by
  revert b
  change ∀ b : UInt8, hexDigit b = some v → v < 16
  apply forall_byte
  have all : ∀ n < 256, (hexDigit (UInt8.ofNat n)).all (· < 16) = true := by decide +kernel
  intro n small digit
  have here := all n small
  rw [digit] at here
  simpa using here

/-- The value of two more digits. -/
lemma parseHexByte_eq (high low : UInt8) :
    parseHexByte high low =
      if (hexDigit high).isSome && (hexDigit low).isSome then
        some ((hexDigit high).getD 0 * 16 + (hexDigit low).getD 0)
      else none := by
  unfold parseHexByte
  cases hexDigit high with
  | none => rfl
  | some h => cases hexDigit low <;> rfl

lemma hexDigit_getD_lt (b : UInt8) : (hexDigit b).getD 0 < 16 := by
  cases digit : hexDigit b with
  | none => decide
  | some v => exact hexDigit_lt digit

/-- The number of digits bounds the value. -/
lemma hexValue_lt (s : GoString) : hexValue s < 16 ^ s.length := by
  induction s using List.reverseRecOn with
  | nil => decide
  | append_singleton s b ih =>
    have digit := hexDigit_getD_lt b
    rw [hexValue, List.foldl_append, ← hexValue, List.length_append, List.length_singleton, Nat.pow_succ]
    show hexValue s * 16 + (hexDigit b).getD 0 < 16 ^ s.length * 16
    omega

/-- The address read from a field is that of the number in it. -/
lemma parseHexIPLE_eq (s : GoString) :
    parseHexIPLE s = if isHexWord s then some (address (hexValue s)) else none := by
  unfold parseHexIPLE
  split
  · rename_i h0 l0 h1 l1 h2 l2 h3 l3
    have d0 := hexDigit_getD_lt h0
    have d1 := hexDigit_getD_lt l0
    have d2 := hexDigit_getD_lt h1
    have d3 := hexDigit_getD_lt l1
    have d4 := hexDigit_getD_lt h2
    have d5 := hexDigit_getD_lt l2
    have d6 := hexDigit_getD_lt h3
    have d7 := hexDigit_getD_lt l3
    have quad : address (hexValue [h0, l0, h1, l1, h2, l2, h3, l3]) =
        dottedQuad ((hexDigit h3).getD 0 * 16 + (hexDigit l3).getD 0)
          ((hexDigit h2).getD 0 * 16 + (hexDigit l2).getD 0)
          ((hexDigit h1).getD 0 * 16 + (hexDigit l1).getD 0)
          ((hexDigit h0).getD 0 * 16 + (hexDigit l0).getD 0) := by
      simp only [address, hexValue, List.foldl_cons, List.foldl_nil]
      congr 1 <;> omega
    rw [quad]
    simp only [parseHexByte_eq, isHexWord, List.all_cons, List.all_nil]
    split <;> split <;> split <;> split <;> simp_all
  · rename_i other
    rw [if_neg]
    intro word
    have length : s.length = 8 := by
      simp only [isHexWord, Bool.and_eq_true, decide_eq_true_eq] at word
      exact word.1
    match s, length with
    | [h0, l0, h1, l1, h2, l2, h3, l3], _ => exact other h0 l0 h1 l1 h2 l2 h3 l3 rfl

example : parseHexIPLE (lit "019016AC") = some (lit "172.22.144.1") := by decide

/-- A line is taken when its destination is `0.0.0.0`. -/
lemma lineGateway_eq (line : GoString) :
    lineGateway line = if fromZero line then some (address (gatewayNumber line)) else none := by
  unfold lineGateway fromZero gatewayNumber
  split
  · rename_i iface destination gateway rest columns
    rw [columns]
    by_cases zero : destination = zeros
    · simp [zero, parseHexIPLE_eq]
    · simp [zero]
  · rename_i few
    rw [if_neg]
    intro taken
    match columns : fields line with
    | iface :: destination :: gateway :: rest => exact few iface destination gateway rest columns
    | [] => simp [columns] at taken
    | [_] => simp [columns] at taken
    | [_, _] => simp [columns] at taken

/-- The first line from `0.0.0.0` decides. -/
lemma readHostRoute_eq (data : GoString) :
    readHostRoute (some data) =
      (((routeLines data).find? fromZero).map fun line => address (gatewayNumber line)).getD [] := by
  rw [readHostRoute]
  congr 1
  induction routeLines data with
  | nil => rfl
  | cons line lines ih =>
    rw [List.findSome?_cons, lineGateway_eq, List.find?_cons, ih]
    cases fromZero line <;> rfl

/-- A gateway field that can be read has eight digits. -/
lemma gatewayNumber_lt {line : GoString} (taken : fromZero line = true) :
    gatewayNumber line < 2 ^ 32 := by
  simp only [fromZero, Bool.and_eq_true, Option.any_eq_true] at taken
  obtain ⟨_, field, column, word⟩ := taken
  simp only [isHexWord, Bool.and_eq_true, decide_eq_true_eq] at word
  have bound := hexValue_lt field
  rw [word.1] at bound
  rw [gatewayNumber, column, Option.getD_some]
  omega

lemma isDefault_fromZero {line : GoString} (default : isDefault line = true) :
    fromZero line = true := by
  simp only [isDefault, Bool.and_eq_true] at default
  exact default.1.1

lemma isDefault_ne_zero {line : GoString} (default : isDefault line = true) :
    gatewayNumber line ≠ 0 := by
  simp only [isDefault, Bool.and_eq_true, decide_eq_true_eq] at default
  exact default.2

/-- The gateway of a default route is not `0.0.0.0`. -/
lemma isDefault_address {line : GoString} (default : isDefault line = true) :
    address (gatewayNumber line) ≠ lit "0.0.0.0" := by
  intro zero
  apply isDefault_ne_zero default
  have unspecified : lit "0.0.0.0" = address 0 := by decide
  exact address_injective (gatewayNumber_lt (isDefault_fromZero default)) (by decide)
    (zero.trans unspecified)

/-- What is detected is the gateway of the first default route. -/
lemma detected_eq {data result : GoString} :
    Detected data result ↔ result =
      (((routeLines data).find? isDefault).map fun line => address (gatewayNumber line)).getD [] := by
  cases found : (routeLines data).find? isDefault with
  | none =>
    have absent : ∀ line ∈ routeLines data, isDefault line = false := by
      simpa using List.find?_eq_none.mp found
    constructor
    · intro detected
      exact detected.empty.mpr absent
    · rintro rfl
      refine ⟨iff_of_true rfl absent, fun other => absurd rfl other, by decide⟩
  | some line =>
    obtain ⟨default, before, after, split, earlier⟩ := List.find?_eq_some_iff_append.mp found
    have member : line ∈ routeLines data := by rw [split]; simp
    constructor
    · intro detected
      have nonempty : result ≠ [] := by
        intro empty
        have absent := detected.empty.mp empty line member
        rw [default] at absent
        cases absent
      obtain ⟨before', line', after', split', earlier', default', rfl⟩ := detected.first nonempty
      have same : (routeLines data).find? isDefault = some line' := by
        refine List.find?_eq_some_iff_append.mpr ⟨default', before', after', split', ?_⟩
        simpa using earlier'
      rw [found] at same
      cases same
      rfl
    · rintro rfl
      refine ⟨iff_of_false (address_ne_nil _) ?_, fun _ => ?_, isDefault_address default⟩
      · intro absent
        have here := absent line member
        rw [default] at here
        cases here
      · exact ⟨before, line, after, split, by simpa using earlier, default, rfl⟩

/-- The gateway of the first default route through a gateway is detected exactly when the first line
from `0.0.0.0`, if there is one, is such a route or names the same gateway. -/
theorem detected_iff (data : GoString) :
    Detected data (readHostRoute (some data)) ↔ ZeroIsDefault data := by
  rw [detected_eq, readHostRoute_eq, ZeroIsDefault]
  cases taken : (routeLines data).find? fromZero with
  | none =>
    have absent : (routeLines data).find? isDefault = none := by
      rw [List.find?_eq_none] at taken ⊢
      intro line member default
      exact taken line member (isDefault_fromZero default)
    rw [absent]
    exact iff_of_true rfl nofun
  | some line =>
    obtain ⟨zero, before, after, split, earlier⟩ := List.find?_eq_some_iff_append.mp taken
    simp only [Option.some.injEq, forall_eq', Option.map_some, Option.getD_some]
    constructor
    · intro same
      cases found : (routeLines data).find? isDefault with
      | none =>
        rw [found] at same
        exact absurd same (address_ne_nil _)
      | some other =>
        rw [found] at same
        refine .inr ⟨other, rfl, ?_⟩
        have default := List.find?_some found
        exact address_injective (gatewayNumber_lt (isDefault_fromZero default))
          (gatewayNumber_lt zero) same.symm
    · rintro (default | ⟨other, found, same⟩)
      · -- no line before it is a default route
        have first : (routeLines data).find? isDefault = some line := by
          refine List.find?_eq_some_iff_append.mpr ⟨default, before, after, split, ?_⟩
          intro line' member
          have passed := earlier line' member
          simp only [Bool.not_eq_eq_eq_not, Bool.not_true] at passed ⊢
          rw [Bool.eq_false_iff]
          intro default'
          rw [isDefault_fromZero default'] at passed
          cases passed
        rw [first]
        rfl
      · rw [found, Option.map_some, Option.getD_some, same]

/-- A default route that has an interface alone. -/
def linkTable : GoString :=
  lit ("Iface\tDestination\tGateway\tFlags\tRefCnt\tUse\tMetric\tMask\tMTU\tWindow\tIRTT\n" ++
    "ppp0\t00000000\t00000000\t0001\t0\t0\t0\t00000000\t0\t0\t0\n")

/-- Its gateway field of zeros is taken for a gateway. -/
theorem link_unspecified :
    readHostRoute (some linkTable) = lit "0.0.0.0" ∧
      ¬Detected linkTable (readHostRoute (some linkTable)) := by
  have taken : readHostRoute (some linkTable) = lit "0.0.0.0" := by decide
  refine ⟨taken, ?_⟩
  rw [taken]
  intro detected
  exact detected.some rfl

end Pintle.Host
