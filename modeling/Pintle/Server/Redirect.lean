import Mathlib.Data.List.DropRight
import Pintle.Go.NetUrl
import Pintle.Proxy.Recorded
import Pintle.Server.Passthrough

/-!
# Redirects to HTTPS

Model of the two redirect handlers of `internal/server/http.go`, and of the hosts that a request may
have (`ValidHost`).

The main handler and the proxy cut the host at its first colon. The handler of the loopback listener
takes it apart, which is another host for an IPv6 literal (`same_host_iff`).
-/

namespace Pintle
open Go

/-- What the redirect handlers read of a request. -/
structure RedirectRequest where
  host : GoString
  url : URL

/-- What Go `http.Redirect` is called with. -/
structure Redirect where
  location : GoString
  code : Int
  deriving DecidableEq, Repr

/-- The query of a request, as the handlers append it. -/
def queryText (rawQuery : GoString) : GoString :=
  if rawQuery ≠ [] then lit "?" ++ rawQuery else []

/-- The handler of Go `StartHTTPRedirect`. -/
def startHTTPRedirect (r : RedirectRequest) : Redirect where
  location := lit "https://" ++ r.host ++ r.url.urlPath.path ++ queryText r.url.rawQuery
  code := 301

/-- A byte of the set that Go `strings.Trim(host, "[]")` trims. -/
def isBracket (b : UInt8) : Bool := b = 91 || b = 93

/-- Go `strings.Trim(host, "[]")`. -/
def trimBrackets (s : GoString) : GoString := (s.dropWhile isBracket).rdropWhile isBracket

/-- The host without its port, as Go `loopbackRedirectHandler` extracts it. -/
def loopbackHost (host : GoString) : GoString :=
  trimBrackets <|
    match splitHostPort host with
    | some (name, _) => name
    | none => host

/-- Go `loopbackRedirectHandler`. -/
def loopbackRedirectHandler (httpsPort : Nat) (r : RedirectRequest) : Redirect :=
  let host := loopbackHost r.host
  let host :=
    if httpsPort ≠ 443 then joinHostPort host (itoa httpsPort)
    else if 58 ∈ host then lit "[" ++ host ++ lit "]"
    else host
  { location := lit "https://" ++ host ++ r.url.urlPath.escapedPath ++ queryText r.url.rawQuery
    code := 301 }

/-- A byte of a DNS name. -/
def isNameByte (b : UInt8) : Bool := isAlnum b || b = 45 || b = 46 || b = 95

/-- The host of a `Host` header, as it is written and without brackets: a DNS name, an IPv4 address,
or an IPv6 address in brackets. -/
inductive HostText : GoString → GoString → Prop
  | name {s : GoString} (ne_nil : s ≠ []) (bytes : s.all isNameByte = true) : HostText s s
  | ipv4 {s : GoString} (parsed : (parseIP s).isSome = true) (plain : 58 ∉ s) : HostText s s
  | ipv6 {ip : GoString} (parsed : (parseIP ip).isSome = true) (colon : 58 ∈ ip) :
    HostText (lit "[" ++ ip ++ lit "]") ip

/-- A port behind a host, if there is one. It may be empty. -/
def portText : Option GoString → GoString
  | none => []
  | some port => 58 :: port

/-- A valid `Host` header with its host and port. -/
inductive ValidHost : GoString → GoString → Option GoString → Prop
  | intro {text host : GoString} {port : Option GoString} (named : HostText text host)
    (digits : ∀ p ∈ port, p.all isDigit = true) : ValidHost (text ++ portText port) host port

section hosts

/-- The bytes of a name or an IPv4 address. -/
structure Unbracketed (s : GoString) : Prop where
  ne_nil : s ≠ []
  bytes : ∀ b ∈ s, shouldEscape .host b = false
  plain : 58 ∉ s ∧ 91 ∉ s ∧ 93 ∉ s

lemma isNameByte_host {b : UInt8} (named : isNameByte b = true) :
    shouldEscape .host b = false ∧ b ≠ 58 ∧ b ≠ 91 ∧ b ≠ 93 := by
  revert b
  change ∀ b : UInt8, isNameByte b = true → _
  exact forall_byte (by decide +kernel)

/-- A host is written plainly, or is an IPv6 address in brackets. -/
lemma HostText.cases_bracket {text host : GoString} (named : HostText text host) :
    (text = host ∧ Unbracketed host) ∨
      text = 91 :: host ++ [93] ∧ (∀ b ∈ host, isAddressByte b = true) ∧
        isIPv6 host = true ∧ 58 ∈ host := by
  cases named with
  | name ne_nil bytes =>
    have plain (b : UInt8) (member : b ∈ text) := isNameByte_host (List.all_eq_true.mp bytes b member)
    refine .inl ⟨rfl, ne_nil, fun b member => (plain b member).1, ?_, ?_, ?_⟩
    · exact fun member => (plain 58 member).2.1 rfl
    · exact fun member => (plain 91 member).2.2.1 rfl
    · exact fun member => (plain 93 member).2.2.2 rfl
  | ipv4 parsed plain =>
    obtain ⟨ip, parsed⟩ := Option.isSome_iff_exists.mp parsed
    have bytes (b : UInt8) (member : b ∈ text) := isAddressByte_host (parseIP_bytes parsed b member)
    refine .inl ⟨rfl, ?_, fun b member => (bytes b member).1, plain, ?_, ?_⟩
    · rintro rfl
      cases parsed
    · exact fun member => (bytes 91 member).2.1 rfl
    · exact fun member => (bytes 93 member).2.2 rfl
  | ipv6 parsed colon =>
    obtain ⟨ip, parsed⟩ := Option.isSome_iff_exists.mp parsed
    exact .inr ⟨rfl, parseIP_bytes parsed, isIPv6_of_parseIP parsed colon, colon⟩

lemma digits_free {port : Option GoString} (digits : ∀ p ∈ port, p.all isDigit = true) {b : UInt8}
    (other : isDigit b = false) (colon : b ≠ 58) : b ∉ portText port := by
  cases port with
  | none => exact List.not_mem_nil
  | some p => simp [portText, all_free (digits p rfl) other, colon]

lemma trimBrackets_free {s : GoString} (free : 91 ∉ s ∧ 93 ∉ s) : trimBrackets s = s := by
  have none : ∀ b ∈ s, isBracket b = false := by
    intro b member
    rw [Bool.eq_false_iff]
    intro bracket
    rw [isBracket, Bool.or_eq_true, decide_eq_true_eq, decide_eq_true_eq] at bracket
    rcases bracket with rfl | rfl
    · exact free.1 member
    · exact free.2 member
  have front : s.dropWhile isBracket = s := by
    rw [List.dropWhile_eq_self_iff]
    intro some
    rw [none _ (List.getElem_mem some)]
    exact Bool.false_ne_true
  rw [trimBrackets, front, List.rdropWhile_eq_self_iff]
  intro some
  rw [none _ (List.getLast_mem some)]
  exact Bool.false_ne_true

lemma trimBrackets_literal {ip : GoString} (free : 91 ∉ ip ∧ 93 ∉ ip) (some_byte : ip ≠ []) :
    trimBrackets (91 :: ip ++ [93]) = ip := by
  obtain ⟨b, rest, rfl⟩ := List.exists_cons_of_ne_nil some_byte
  have first : isBracket b = false := by
    rw [isBracket, Bool.or_eq_false_iff, decide_eq_false_iff_not, decide_eq_false_iff_not]
    exact ⟨fun same => free.1 (same ▸ List.mem_cons_self),
      fun same => free.2 (same ▸ List.mem_cons_self)⟩
  have inner := trimBrackets_free free
  rw [trimBrackets, List.dropWhile_cons_of_neg (by simp [first])] at inner
  rw [trimBrackets, List.cons_append, List.dropWhile_cons_of_pos (by decide), List.cons_append,
    List.dropWhile_cons_of_neg (by simp [first]), ← List.cons_append,
    List.rdropWhile_concat_pos _ _ _ (by decide), inner]

lemma splitHostPort_bracket {hostport inner port : GoString}
    (cut : lastColon hostport = some (91 :: inner, port)) : splitHostPort hostport =
      if inner.drop (inner.takeWhile (· ≠ 93)).length = [93] ∧ 91 ∉ inner.takeWhile (· ≠ 93) ∧
        91 ∉ port ∧ 93 ∉ port then some (inner.takeWhile (· ≠ 93), port) else none := by
  rw [splitHostPort, cut]
  rfl

/-- An address in brackets, with what may stand behind it. -/
lemma splitHostPort_literal {ip : GoString} (free : 91 ∉ ip ∧ 93 ∉ ip) (colon : 58 ∈ ip)
    {port : Option GoString} (digits : ∀ p ∈ port, p.all isDigit = true) :
    splitHostPort (91 :: ip ++ [93] ++ portText port) = port.map fun p => (ip, p) := by
  cases port with
  | none =>
    -- the last colon is inside the brackets
    obtain ⟨before, after, rfl, last⟩ := split_last colon
    have text : 91 :: (before ++ 58 :: after) ++ [93] ++ portText none =
        91 :: before ++ 58 :: (after ++ [93]) := by simp [portText]
    have inside : 93 ∉ before := fun member => free.2 (List.mem_append_left _ member)
    rw [text, splitHostPort_bracket (cutLast_append _ (by simp [last])), takeWhile_free inside,
      List.drop_length]
    exact if_neg (fun closed => List.cons_ne_nil _ _ closed.1.symm)
  | some p =>
    have digit := digits p rfl
    have text : 91 :: ip ++ [93] ++ portText (some p) = 91 :: (ip ++ [93]) ++ 58 :: p := rfl
    rw [text, splitHostPort_bracket (cutLast_append _ (all_free digit (by decide))),
      takeWhile_sep free.2 [], List.drop_left]
    exact if_pos ⟨rfl, free.1, all_free digit (by decide), all_free digit (by decide)⟩

lemma splitHostPort_plain {s : GoString} (plain : 58 ∉ s ∧ 91 ∉ s ∧ 93 ∉ s)
    {port : Option GoString} (digits : ∀ p ∈ port, p.all isDigit = true) :
    splitHostPort (s ++ portText port) = port.map fun p => (s, p) := by
  cases port with
  | none =>
    rw [portText, List.append_nil, splitHostPort, lastColon_eq, cutLast_free plain.1]
    rfl
  | some p =>
    have digit := digits p rfl
    rw [portText, splitHostPort, lastColon_eq, cutLast_append _ (all_free digit (by decide))]
    dsimp only
    split
    · exact absurd List.mem_cons_self plain.2.1
    · simp [plain, all_free digit (show isDigit 91 = false by decide),
        all_free digit (show isDigit 93 = false by decide)]

/-- The loopback handler extracts the host. -/
lemma loopbackHost_eq {header host : GoString} {port : Option GoString}
    (valid : ValidHost header host port) : loopbackHost header = host := by
  obtain ⟨named, digits⟩ := valid
  rcases named.cases_bracket with ⟨rfl, plain⟩ | ⟨rfl, bytes, _, colon⟩
  · rw [loopbackHost, splitHostPort_plain plain.plain digits]
    cases port with
    | none =>
      rw [portText, List.append_nil]
      exact trimBrackets_free plain.plain.2
    | some p => exact trimBrackets_free plain.plain.2
  · have free : 91 ∉ host ∧ 93 ∉ host :=
      ⟨fun member => (isAddressByte_host (bytes 91 member)).2.1 rfl,
        fun member => (isAddressByte_host (bytes 93 member)).2.2 rfl⟩
    rw [loopbackHost, splitHostPort_literal free colon digits]
    cases port with
    | none =>
      rw [portText, List.append_nil]
      exact trimBrackets_literal free (List.ne_nil_of_mem colon)
    | some p => exact trimBrackets_free free

end hosts

/-- The main handler and the proxy go by the host that the loopback handler extracts. -/
structure SameHost (header : GoString) : Prop where
  proxy : requestHostname header = loopbackHost header
  main : ∀ baseDomain path method, mainHandler baseDomain header path method ≠ .proxy ↔
    loopbackHost header = dashboardHost baseDomain

/-- The main handler selects the dashboard by the hostname of the proxy. -/
lemma mainHandler_hostname (baseDomain header path method : GoString) :
    mainHandler baseDomain header path method ≠ .proxy ↔
      requestHostname header = dashboardHost baseDomain := by
  rw [mainHandler, ← requestHostname]
  split
  · rename_i dashboard
    refine iff_of_true ?_ dashboard
    split <;> exact fun proxy => by cases proxy
  · rename_i other
    exact iff_of_false (fun proxy => proxy rfl) other

/-- The hosts are the same exactly for a host that is no IPv6 literal. -/
theorem same_host_iff {header host : GoString} {port : Option GoString}
    (valid : ValidHost header host port) : SameHost header ↔ ¬hasPrefix header (lit "[") := by
  have extracted := loopbackHost_eq valid
  have reduce : SameHost header ↔ requestHostname header = loopbackHost header := by
    constructor
    · exact SameHost.proxy
    · intro same
      refine ⟨same, fun baseDomain path method => ?_⟩
      rw [mainHandler_hostname, same]
  rw [reduce, extracted]
  obtain ⟨named, digits⟩ := valid
  rcases named.cases_bracket with ⟨rfl, plain⟩ | ⟨rfl, bytes, _, colon⟩
  · refine iff_of_true ?_ ?_
    · cases port with
      | none =>
        rw [portText, List.append_nil]
        exact takeWhile_free plain.plain.1
      | some p => exact takeWhile_sep plain.plain.1 p
    · intro bracket
      obtain ⟨rest, split⟩ := hasPrefix_iff.mp bracket
      have first := List.mem_append_left rest (show (91 : UInt8) ∈ lit "[" by decide)
      rw [← split] at first
      rcases List.mem_append.mp first with inside | behind
      · exact plain.plain.2.1 inside
      · exact digits_free digits (by decide) (by decide) behind
  · refine iff_of_false ?_ ?_
    · -- the first byte of the hostname is the bracket
      intro same
      have bracket : 91 ∈ host := by
        rw [← same]
        exact List.mem_cons_self
      exact (isAddressByte_host (bytes 91 bracket)).2.1 rfl
    · intro other
      exact other (hasPrefix_iff.mpr ⟨_, rfl⟩)

/-- A name with a port. -/
theorem same_host_name : SameHost (lit "app.lvh.me" ++ portText (some (lit "9080"))) :=
  (same_host_iff (.intro (.name (by decide) (by decide)) (by
    intro p same
    cases same
    decide))).mpr (by decide)

/-- The hostname of an IPv6 literal is cut behind its bracket. -/
theorem literal_truncated :
    ValidHost (lit "[::1]:80") (lit "::1") (some (lit "80")) ∧
      requestHostname (lit "[::1]:80") = lit "[" ∧ loopbackHost (lit "[::1]:80") = lit "::1" ∧
      ¬SameHost (lit "[::1]:80") := by
  have loopback : HostText (lit "[" ++ lit "::1" ++ lit "]") (lit "::1") :=
    .ipv6 (by decide) (by decide)
  have digits : ∀ p ∈ some (lit "80"), p.all isDigit = true := by
    intro p same
    cases same
    decide
  refine ⟨.intro loopback digits, by decide, by decide, ?_⟩
  · intro same
    exact absurd same.proxy (by decide)

end Pintle
