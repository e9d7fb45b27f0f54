import Pintle.Go.Strings

/-!
# Addresses

The functions of the package `net` that the model calls, on bytes: `ParseIP` with the address parser
of `net/netip` behind it, `IP.IsLoopback` and `SplitHostPort`. An error is `none`, its text is read
nowhere. What asks the resolver (`ResolveTCPAddr`) is a parameter where it is called.
-/

namespace Pintle.Go

/-- A parsed Go `net.IP`: the sixteen bytes, an IPv4 address in its mapped form. -/
abbrev IP := List UInt8

/-- Go `net.TCPAddr`, without a zone. -/
structure TCPAddr where
  ip : IP
  port : Int
  deriving DecidableEq, Repr

/-- Whether a number is one of a port that can be bound or dialled. -/
def validPort (port : Int) : Bool := 1 ≤ port && port ≤ 65535

/-- The bytes before an IPv4 address in its mapped form (Go `v4InV6Prefix`). -/
def v4InV6Prefix : List UInt8 := List.replicate 10 0 ++ [0xFF, 0xFF]

/-- The loop of Go `parseIPv4Fields`: the fields so far, the value and the number of digits of the
current one. -/
def parseIPv4Loop : GoString → List UInt8 → Nat → Nat → Option (List UInt8)
  | [], fields, val, digLen =>
    if fields.length < 3 ∨ digLen = 0 then none else some (fields ++ [UInt8.ofNat val])
  | b :: s, fields, val, digLen =>
    if isDigit b then
      if digLen = 1 ∧ val = 0 then none -- leading zero
      else if val * 10 + (b - 48).toNat > 255 then none
      else parseIPv4Loop s fields (val * 10 + (b - 48).toNat) (digLen + 1)
    else if b = 46 then
      if digLen = 0 ∨ fields.length = 3 then none
      else parseIPv4Loop s (fields ++ [UInt8.ofNat val]) 0 0
    else none

/-- Go `parseIPv4Fields`: four decimal numbers below 256, without leading zeros. -/
def parseIPv4Fields (s : GoString) : Option (List UInt8) := parseIPv4Loop s [] 0 0

/-- The value of a hexadecimal digit. -/
def hexDigit (b : UInt8) : Option Nat :=
  if isDigit b then some (b - 48).toNat
  else if 97 ≤ b ∧ b ≤ 102 then some ((b - 97).toNat + 10)
  else if 65 ≤ b ∧ b ≤ 70 then some ((b - 65).toNat + 10)
  else none

/-- The value of a group of hexadecimal digits. -/
def hexValue (group : GoString) : Nat :=
  group.foldl (fun acc b => acc * 16 + (hexDigit b).getD 0) 0

/-- Fill in the zeros that `::` stands for. -/
def expandEllipsis (ip : List UInt8) : Option Nat → Option IP
  | none => if ip.length < 16 then none else some ip
  | some start =>
    if ip.length < 16 then
      some (ip.take start ++ List.replicate (16 - ip.length) 0 ++ ip.drop start)
    else none

/-- The loop of Go `parseIPv6`, over at most `fuel` groups: the bytes so far and the position of the
ellipsis among them. -/
def parseIPv6Loop : Nat → GoString → List UInt8 → Option Nat → Option IP
  | 0, s, ip, ellipsis => if s = [] then expandEllipsis ip ellipsis else none
  | fuel + 1, s, ip, ellipsis =>
    let group := s.takeWhile fun b => (hexDigit b).isSome
    let rest := s.drop group.length
    if group = [] ∨ group.length > 4 then none
    else if hasPrefix rest (lit ".") then
      -- an IPv4 address in the place of the last two groups
      if ip.length > 12 ∨ (ellipsis = none ∧ ip.length ≠ 12) then none
      else
        match parseIPv4Fields s with
        | none => none
        | some fields => expandEllipsis (ip ++ fields) ellipsis
    else
      let ip := ip ++ [UInt8.ofNat (hexValue group / 256), UInt8.ofNat (hexValue group)]
      match rest with
      | [] => expandEllipsis ip ellipsis
      | [_] => none
      | b :: c :: rest =>
        if b ≠ 58 then none
        else if c ≠ 58 then parseIPv6Loop fuel (c :: rest) ip ellipsis
        else if ellipsis.isSome then none
        else if rest = [] then expandEllipsis ip (some ip.length)
        else parseIPv6Loop fuel rest ip (some ip.length)

/-- Go `parseIPv6` of a string without a zone. -/
def parseIPv6 (s : GoString) : Option IP :=
  if hasPrefix s (lit "::") then
    if s.drop 2 = [] then some (List.replicate 16 0) else parseIPv6Loop 8 (s.drop 2) [] (some 0)
  else parseIPv6Loop 8 s [] none

/-- Go `ParseIP`. An address with a zone is no IP, and neither is an empty zone. -/
def parseIP (s : GoString) : Option IP :=
  match s.find? fun b => b = 46 || b = 58 || b = 37 with
  | some 46 => (parseIPv4Fields s).map (v4InV6Prefix ++ ·)
  | some 58 => if (37 : UInt8) ∈ s then none else parseIPv6 s
  | _ => none

/-- Go `IP.IsLoopback`. -/
def isLoopback (ip : IP) : Bool :=
  if hasPrefix ip v4InV6Prefix then (ip.drop 12).head? = some 127
  else ip = List.replicate 15 0 ++ [1]

/-- The part of a string after its last colon, and the part before it. -/
def lastColon (s : GoString) : Option (GoString × GoString) :=
  let port := s.reverse.takeWhile (· ≠ 58) |>.reverse
  if port.length = s.length then none else some (s.take (s.length - port.length - 1), port)

/-- Go `SplitHostPort`. -/
def splitHostPort (hostport : GoString) : Option (GoString × GoString) :=
  match lastColon hostport with
  | none => none
  | some (before, port) =>
    match before with
    | 91 :: inner =>
      -- a bracketed host ends right before the last colon
      let host := inner.takeWhile (· ≠ 93)
      if inner.drop host.length = [93] ∧ (91 : UInt8) ∉ host ∧ (91 : UInt8) ∉ port ∧
        (93 : UInt8) ∉ port then some (host, port) else none
    | host =>
      if (58 : UInt8) ∉ host ∧ (91 : UInt8) ∉ hostport ∧ (93 : UInt8) ∉ hostport then
        some (host, port) else none

/-- Go `JoinHostPort`. -/
def joinHostPort (host port : GoString) : GoString :=
  if (58 : UInt8) ∈ host ∨ (37 : UInt8) ∈ host then lit "[" ++ host ++ lit "]:" ++ port
  else host ++ lit ":" ++ port

/-- A byte of an IP address without a zone. -/
def isAddressByte (b : UInt8) : Bool := (hexDigit b).isSome || b = 58 || b = 46

lemma parseIPv4Loop_bytes {s : GoString} {fields fields' : List UInt8} {val digLen : Nat}
    (parsed : parseIPv4Loop s fields val digLen = some fields') :
    ∀ b ∈ s, isDigit b = true ∨ b = 46 := by
  induction s generalizing fields val digLen with
  | nil => nofun
  | cons b s ih =>
    rw [parseIPv4Loop] at parsed
    refine List.forall_mem_cons.mpr ?_
    split at parsed
    · rename_i digit
      refine ⟨.inl digit, ?_⟩
      split at parsed
      · cases parsed
      · split at parsed
        · cases parsed
        · exact ih parsed
    · split at parsed
      · rename_i dot
        refine ⟨.inr dot, ?_⟩
        split at parsed
        · cases parsed
        · exact ih parsed
      · cases parsed

lemma isAddressByte_of_isDigit {b : UInt8} (digit : isDigit b = true) : isAddressByte b = true := by
  rw [isAddressByte, hexDigit, if_pos digit]
  rfl

lemma parseIPv4Fields_bytes {s : GoString} {fields : List UInt8}
    (parsed : parseIPv4Fields s = some fields) : ∀ b ∈ s, isAddressByte b = true := by
  intro b member
  rcases parseIPv4Loop_bytes parsed b member with digit | rfl
  · exact isAddressByte_of_isDigit digit
  · rfl

lemma parseIPv6Loop_bytes {fuel : Nat} {s : GoString} {bytes : List UInt8} {ellipsis : Option Nat}
    {ip : IP} (parsed : parseIPv6Loop fuel s bytes ellipsis = some ip) :
    ∀ b ∈ s, isAddressByte b = true := by
  induction fuel generalizing s bytes ellipsis with
  | zero =>
    rw [parseIPv6Loop] at parsed
    split at parsed
    · rename_i empty
      rw [empty]
      nofun
    · cases parsed
  | succ fuel ih =>
    rw [parseIPv6Loop] at parsed
    dsimp only at parsed
    split at parsed
    · cases parsed
    · split at parsed
      · split at parsed
        · cases parsed
        · split at parsed
          · cases parsed
          · rename_i fields parsed4
            exact parseIPv4Fields_bytes parsed4
      · have whole := List.takeWhile_append_dropWhile (p := fun b => (hexDigit b).isSome) (l := s)
        have group : ∀ b ∈ s.takeWhile fun b => (hexDigit b).isSome, isAddressByte b = true := by
          intro b member
          rw [isAddressByte, List.mem_takeWhile_imp member]
          rfl
        rw [drop_takeWhile] at parsed
        rw [← whole]
        refine List.forall_mem_append.mpr ⟨group, ?_⟩
        split at parsed
        · rename_i empty
          rw [empty]
          nofun
        · cases parsed
        · rename_i b c rest tail
          rw [tail]
          split at parsed
          · cases parsed
          · rename_i colon
            rw [ne_eq, not_not] at colon
            have first : isAddressByte b = true := by rw [colon]; rfl
            refine List.forall_mem_cons.mpr ⟨first, ?_⟩
            split at parsed
            · exact ih parsed
            · rename_i second
              rw [ne_eq, not_not] at second
              refine List.forall_mem_cons.mpr ⟨by rw [second]; rfl, ?_⟩
              split at parsed
              · cases parsed
              · split at parsed
                · rename_i empty
                  rw [empty]
                  nofun
                · exact ih parsed

lemma parseIPv6_bytes {s : GoString} {ip : IP} (parsed : parseIPv6 s = some ip) :
    ∀ b ∈ s, isAddressByte b = true := by
  rw [parseIPv6] at parsed
  split at parsed
  · rename_i ellipsis
    obtain ⟨rest, rfl⟩ := hasPrefix_iff.mp ellipsis
    have front : (lit "::").all isAddressByte = true := by decide
    refine List.forall_mem_append.mpr ⟨List.all_eq_true.mp front, ?_⟩
    change (if rest = [] then _ else parseIPv6Loop 8 rest [] (some 0)) = _ at parsed
    split at parsed
    · rename_i empty
      rw [empty]
      nofun
    · exact parseIPv6Loop_bytes parsed
  · exact parseIPv6Loop_bytes parsed

lemma parseIP_bytes {s : GoString} {ip : IP} (parsed : parseIP s = some ip) :
    ∀ b ∈ s, isAddressByte b = true := by
  rw [parseIP] at parsed
  split at parsed
  · obtain ⟨fields, parsed4, _⟩ := Option.map_eq_some_iff.mp parsed
    exact parseIPv4Fields_bytes parsed4
  · split at parsed
    · cases parsed
    · exact parseIPv6_bytes parsed
  · cases parsed

/-- An IP address that has a colon is one of IPv6. -/
lemma parseIP_colon {s : GoString} {ip : IP} (parsed : parseIP s = some ip) (colon : 58 ∈ s) :
    parseIPv6 s = some ip ∧ 37 ∉ s ∧ (s.find? fun b => b = 46 || b = 58 || b = 37) = some 58 := by
  rw [parseIP] at parsed
  split at parsed
  · obtain ⟨fields, parsed4, _⟩ := Option.map_eq_some_iff.mp parsed
    exact absurd (parseIPv4Loop_bytes parsed4 58 colon) (by decide)
  · rename_i first
    split at parsed
    · cases parsed
    · rename_i zone
      exact ⟨parsed, zone, first⟩
  · cases parsed

example : (parseIP (lit "127.0.0.1")).map isLoopback = some true ∧
    (parseIP (lit "::1")).map isLoopback = some true ∧
    (parseIP (lit "fe80::1:10.0.0.2")).map isLoopback = some false ∧
    parseIP (lit "127.0.0.01") = none ∧ parseIP (lit "1::2::3") = none := by decide

example : splitHostPort (lit "[::1]:443") = some (lit "::1", lit "443") ∧
    splitHostPort (lit "a:1:2") = none := by decide

end Pintle.Go
