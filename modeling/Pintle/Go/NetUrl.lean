import Mathlib.Data.List.Infix
import Mathlib.Data.List.TakeWhile
import Pintle.Go.Escape
import Pintle.Go.Net
import Pintle.Go.Url

/-!
# The package net/url

What `url.Parse` and `url.ParseRequestURI` read, and what `URL.String` writes, with the host and the
port of a URL. A host in brackets must be an IPv6 address; in one without, the last colon begins the
port, and others may stand before it, as for a module of Go 1.25.
-/

namespace Pintle.Go

/-- Go `url.Userinfo`. -/
structure Userinfo where
  username : GoString
  password : Option GoString
  deriving DecidableEq, Repr

/-- Go `url.URL`, with what does not begin with a slash after the scheme as `opaqueRest`. -/
structure URL where
  scheme : GoString := []
  opaqueRest : GoString := []
  user : Option Userinfo := none
  host : GoString := []
  urlPath : URLPath := { path := [] }
  omitHost : Bool := false
  forceQuery : Bool := false
  rawQuery : GoString := []
  fragment : GoString := []
  rawFragment : GoString := []
  deriving DecidableEq, Repr

/-- Go `strings.ToLower` on a byte of ASCII. -/
def toLower (b : UInt8) : UInt8 := if 65 ≤ b && b ≤ 90 then b + 32 else b

/-- The part of a string before its last separator, and the part after it. -/
def cutLast (sep : UInt8) (s : GoString) : Option (GoString × GoString) :=
  let after := (s.reverse.takeWhile (· ≠ sep)).reverse
  if after.length = s.length then none else some (s.take (s.length - after.length - 1), after)

/-- A byte of a scheme. -/
def isSchemeByte (b : UInt8) : Bool := isAlnum b || b = 43 || b = 45 || b = 46

/-- Go `getScheme`: the scheme, which begins with a letter, and the rest; an error is `none`. -/
def getScheme (rawURL : GoString) : Option (GoString × GoString) :=
  let scheme := rawURL.takeWhile isSchemeByte
  match rawURL.drop scheme.length with
  | 58 :: rest =>
    if scheme = [] then none
    else if scheme.head?.any fun b => isAlnum b && !isDigit b then some (scheme, rest)
    else some ([], rawURL)
  | _ => some ([], rawURL)

/-- Go `validUserinfo`. -/
def validUserinfo (s : GoString) : Bool :=
  s.all fun b => isAlnum b || (lit "-._:~!$&'()*+,;=%@").contains b

/-- Go `validOptionalPort`. -/
def validOptionalPort (port : GoString) : Bool :=
  port = [] || (hasPrefix port (lit ":") && (port.drop 1).all isDigit)

/-- Whether Go `netip.ParseAddr` reads an IPv6 address, which may have a zone. -/
def isIPv6 (s : GoString) : Bool :=
  let addr := s.takeWhile (· ≠ 37)
  (s.find? fun b => b = 46 || b = 58 || b = 37) = some 58 && s.drop addr.length ≠ [37] &&
    (parseIPv6 addr).isSome

/-- The index of the percent sign of a zone, or of the end. -/
def zoneIndex (hostname : GoString) : Nat :=
  min hostname.length (hostname.tails.takeWhile fun tail => !hasPrefix tail (lit "%25")).length

/-- The part of Go `parseHost` between the brackets. -/
def parseLiteral (hostname : GoString) : Option GoString :=
  ((unescape .host (hostname.take (zoneIndex hostname))).bind fun hostPart =>
    (unescape .zone (hostname.drop (zoneIndex hostname))).map (hostPart ++ ·)).filter isIPv6

/-- Go `parseHost`; an error is `none`. -/
def parseHost (host : GoString) : Option GoString :=
  match host with
  | 91 :: inner =>
    if 91 ∈ inner then none
    else
      match cutLast 93 inner with
      | none => none
      | some (hostname, colonPort) =>
        -- a port is decoded to itself
        if validOptionalPort colonPort then
          (parseLiteral hostname).map fun address => 91 :: address ++ 93 :: colonPort
        else none
  | host =>
    if 91 ∈ host then none
    else if (lastColon host).any fun (_, port) => !port.all isDigit then none
    else unescape .host host

/-- Go `parseAuthority`; an error is `none`. -/
def parseAuthority (authority : GoString) : Option (Option Userinfo × GoString) :=
  match cutLast 64 authority with
  | none => (parseHost authority).map fun host => (none, host)
  | some (userinfo, host) =>
    (parseHost host).bind fun host =>
      if !validUserinfo userinfo then none
      else
        let username := userinfo.takeWhile (· ≠ 58)
        (unescape .userPassword username).bind fun user =>
          if username.length = userinfo.length then some (some ⟨user, none⟩, host)
          else
            (unescape .userPassword (userinfo.drop (username.length + 1))).map fun password =>
              (some ⟨user, some password⟩, host)

namespace URL

/-- Go `parse` of `net/url`; an error is `none`. -/
def parseRest (rawURL : GoString) (viaRequest : Bool) : Option URL :=
  if rawURL.any fun b => b < 32 || b = 127 then none
  else if rawURL = [] ∧ viaRequest then none
  else if rawURL = lit "*" then some { urlPath := { path := lit "*" } }
  else
    match getScheme rawURL with
    | none => none
    | some (scheme, query) =>
      let rest := query.takeWhile (· ≠ 63)
      let u : URL :=
        { scheme := scheme.map toLower
          forceQuery := hasSuffix query (lit "?") && query.count 63 = 1
          rawQuery := query.drop (rest.length + 1) }
      if ¬ hasPrefix rest (lit "/") ∧ scheme ≠ [] then some { u with opaqueRest := rest }
      else if ¬ hasPrefix rest (lit "/") ∧ (viaRequest ∨ 58 ∈ rest.takeWhile (· ≠ 47)) then none
      else if hasPrefix rest (lit "//") ∧
          (scheme ≠ [] ∨ ¬ viaRequest ∧ ¬ hasPrefix rest (lit "///")) then
        let authority := (rest.drop 2).takeWhile (· ≠ 47)
        (parseAuthority authority).bind fun (user, host) =>
          (setPath (rest.drop (2 + authority.length))).map fun urlPath =>
            { u with user, host, urlPath }
      else
        (setPath rest).map fun urlPath =>
          { u with urlPath, omitHost := scheme ≠ [] && hasPrefix rest (lit "/") }

/-- Go `url.Parse`; an error is `none`. -/
def parse (rawURL : GoString) : Option URL :=
  let rest := rawURL.takeWhile (· ≠ 35)
  let frag := rawURL.drop (rest.length + 1)
  (parseRest rest false).bind fun u =>
    if frag = [] then some u
    else
      (unescape .fragment frag).map fun fragment =>
        { u with
          fragment
          rawFragment := if frag = escape .fragment fragment then [] else frag }

/-- The host and the port of Go `splitHostPort` of `net/url`. -/
def hostPort (u : URL) : GoString × GoString :=
  let (host, port) :=
    match lastColon u.host with
    | some (before, after) => if after.all isDigit then (before, after) else (u.host, [])
    | none => (u.host, [])
  if hasPrefix host (lit "[") ∧ hasSuffix host (lit "]") then
    ((host.drop 1).take (host.length - 2), port)
  else (host, port)

/-- Go `URL.Hostname`. -/
def hostname (u : URL) : GoString := u.hostPort.1

/-- Go `URL.Port`. -/
def port (u : URL) : GoString := u.hostPort.2

end URL

/-- Go `Userinfo.String`. -/
def Userinfo.string (u : Userinfo) : GoString :=
  escape .userPassword u.username ++
    (u.password.map fun password => 58 :: escape .userPassword password).getD []

namespace URL

/-- Go `URL.EscapedFragment`. -/
def escapedFragment (u : URL) : GoString :=
  if u.rawFragment ≠ [] ∧ validEncoded .fragment u.rawFragment ∧
      unescape .fragment u.rawFragment = some u.fragment then u.rawFragment
  else escape .fragment u.fragment

/-- The authority that Go `URL.String` writes, with the slashes before it. -/
def authority (u : URL) : GoString :=
  if u.scheme = [] ∧ u.host = [] ∧ u.user = none then []
  else if u.omitHost ∧ u.host = [] ∧ u.user = none then []
  else
    (if u.host ≠ [] ∨ u.urlPath.path ≠ [] ∨ u.user ≠ none then lit "//" else []) ++
      (u.user.map fun user => user.string ++ lit "@").getD [] ++ escape .host u.host

/-- Go `URL.String`. -/
def string (u : URL) : GoString :=
  let path := u.urlPath.escapedPath
  let hier :=
    if u.opaqueRest ≠ [] then u.opaqueRest
    else if path ≠ [] ∧ ¬ hasPrefix path (lit "/") ∧ u.host ≠ [] then u.authority ++ lit "/" ++ path
    else if u.scheme = [] ∧ u.authority = [] ∧ 58 ∈ path.takeWhile (· ≠ 47) then lit "./" ++ path
    else u.authority ++ path
  (if u.scheme ≠ [] then u.scheme ++ lit ":" else []) ++ hier ++
    (if u.forceQuery ∨ u.rawQuery ≠ [] then 63 :: u.rawQuery else []) ++
    if u.fragment ≠ [] then 35 :: u.escapedFragment else []

end URL

instance : Url URL where
  parse := URL.parse
  parseRequestURI rawURL := URL.parseRest rawURL true
  scheme := URL.scheme
  user u := u.user.map Userinfo.string
  host := URL.host
  hostname := URL.hostname
  port := URL.port
  rawQuery := URL.rawQuery
  fragment := URL.fragment
  setHost u host := { u with host }
  string := URL.string

/-- A string that has a separator is cut at the last one. -/
lemma split_last {sep : UInt8} {s : GoString} (member : sep ∈ s) :
    ∃ before after, s = before ++ sep :: after ∧ sep ∉ after := by
  obtain ⟨after, before, same, free⟩ := List.eq_append_cons_of_mem (List.mem_reverse.mpr member)
  refine ⟨before.reverse, after.reverse, ?_, fun inside => free (List.mem_reverse.mp inside)⟩
  have whole := congrArg List.reverse same
  simpa using whole

lemma cutLast_append {sep : UInt8} (before : GoString) {after : GoString} (free : sep ∉ after) :
    cutLast sep (before ++ sep :: after) = some (before, after) := by
  have last : ((before ++ sep :: after).reverse.takeWhile (· ≠ sep)).reverse = after := by
    have back : (before ++ sep :: after).reverse = after.reverse ++ sep :: before.reverse := by simp
    rw [back, takeWhile_sep (fun member => free (List.mem_reverse.mp member)), List.reverse_reverse]
  have length : (before ++ sep :: after).length = before.length + (after.length + 1) := by simp
  have front : before.length + (after.length + 1) - after.length - 1 = before.length := by omega
  rw [cutLast, last, length, if_neg (by omega), front, List.take_left]

lemma cutLast_free {sep : UInt8} {s : GoString} (free : sep ∉ s) : cutLast sep s = none := by
  have all : s.reverse.takeWhile (· ≠ sep) = s.reverse :=
    takeWhile_free fun member => free (List.mem_reverse.mp member)
  rw [cutLast, all, List.reverse_reverse]
  exact if_pos rfl

lemma cutLast_eq_some {sep : UInt8} {s before after : GoString}
    (cut : cutLast sep s = some (before, after)) : s = before ++ sep :: after ∧ sep ∉ after := by
  by_cases member : sep ∈ s
  · obtain ⟨before', after', rfl, free⟩ := split_last member
    rw [cutLast_append before' free] at cut
    cases cut
    exact ⟨rfl, free⟩
  · rw [cutLast_free member] at cut
    cases cut

lemma lastColon_eq (s : GoString) : lastColon s = cutLast 58 s := rfl

/-- A byte of an authority, as text. -/
def isAuthority (b : UInt8) : Bool := b ≠ 35 && b ≠ 63 && b ≠ 47

/-- The three cuts before an authority are one. -/
lemma takeWhile_authority (s : GoString) :
    ((s.takeWhile (· ≠ 35)).takeWhile (· ≠ 63)).takeWhile (· ≠ 47) = s.takeWhile isAuthority := by
  rw [List.takeWhile_takeWhile, List.takeWhile_takeWhile]
  congr 1
  funext b
  rw [Bool.eq_iff_iff]
  simp only [isAuthority, decide_eq_true_eq, Bool.and_eq_true]
  tauto

/-- What is read as a scheme. -/
structure IsScheme (scheme : GoString) : Prop where
  bytes : scheme.all isSchemeByte = true
  letter : (scheme.head?.any fun b => isAlnum b && !isDigit b) = true

lemma IsScheme.ne_nil {scheme : GoString} (named : IsScheme scheme) : scheme ≠ [] := by
  rintro rfl
  cases named.letter

lemma getScheme_append {scheme : GoString} (named : IsScheme scheme) (rest : GoString) :
    getScheme (scheme ++ 58 :: rest) = some (scheme, rest) := by
  have front : (scheme ++ 58 :: rest).takeWhile isSchemeByte = scheme := by
    rw [List.takeWhile_append_of_pos (List.all_eq_true.mp named.bytes),
      List.takeWhile_cons_of_neg (by decide), List.append_nil]
  rw [getScheme, front, List.drop_left]
  exact (if_neg named.ne_nil).trans (if_pos named.letter)

lemma getScheme_some {rawURL scheme rest : GoString}
    (split : getScheme rawURL = some (scheme, rest)) (some_scheme : scheme ≠ []) :
    rawURL = scheme ++ 58 :: rest ∧ IsScheme scheme := by
  rw [getScheme, drop_takeWhile] at split
  split at split
  · rename_i rest' tail
    split at split
    · cases split
    · split at split
      · rename_i letter
        cases split
        refine ⟨?_, ⟨List.all_takeWhile, letter⟩⟩
        rw [← tail, List.takeWhile_append_dropWhile]
      · cases split
        exact absurd rfl some_scheme
  · cases split
    exact absurd rfl some_scheme

/-- A byte that no URL has. -/
def isControl (b : UInt8) : Bool := b < 32 || b = 127

namespace URL

/-- The host of a URL before a port. -/
lemma hostPort_port {u : URL} {host port : GoString} (whole : u.host = host ++ 58 :: port)
    (digits : port.all isDigit = true) : u.hostPort =
      if hasPrefix host (lit "[") ∧ hasSuffix host (lit "]") then
        ((host.drop 1).take (host.length - 2), port)
      else (host, port) := by
  rw [hostPort, whole, lastColon_eq, cutLast_append host (all_free digits (by decide))]
  dsimp only
  rw [if_pos digits]

/-- A literal in brackets, and what is between them. -/
lemma bracketed (ip : GoString) :
    (hasPrefix (91 :: ip ++ [93]) (lit "[") = true ∧ hasSuffix (91 :: ip ++ [93]) (lit "]") = true) ∧
      ((91 :: ip ++ [93]).drop 1).take ((91 :: ip ++ [93]).length - 2) = ip := by
  refine ⟨⟨hasPrefix_iff.mpr ⟨ip ++ [93], rfl⟩, hasSuffix_iff.mpr ⟨91 :: ip, rfl⟩⟩, ?_⟩
  simp

lemma not_bracketed {s : GoString} (free : 91 ∉ s) :
    ¬(hasPrefix s (lit "[") = true ∧ hasSuffix s (lit "]") = true) := by
  rintro ⟨opening, _⟩
  obtain ⟨rest, rfl⟩ := hasPrefix_iff.mp opening
  exact free (List.mem_append_left rest (by decide))

/-- The parts of a host that is no literal, with a port. -/
lemma hostname_port {u : URL} {host port : GoString} (whole : u.host = host ++ 58 :: port)
    (free : 91 ∉ host) (digits : port.all isDigit = true) : u.hostname = host ∧ u.port = port := by
  have split := hostPort_port whole digits
  rw [if_neg (not_bracketed free)] at split
  exact ⟨congrArg Prod.fst split, congrArg Prod.snd split⟩

/-- The parts of a literal with a port. -/
lemma hostname_port_literal {u : URL} {ip port : GoString}
    (whole : u.host = 91 :: ip ++ [93] ++ 58 :: port) (digits : port.all isDigit = true) :
    u.hostname = ip ∧ u.port = port := by
  have split := hostPort_port whole digits
  rw [if_pos (bracketed ip).1, (bracketed ip).2] at split
  exact ⟨congrArg Prod.fst split, congrArg Prod.snd split⟩

/-- Parse a string with a scheme and an authority. -/
lemma parseRest_authority {scheme : GoString} (named : IsScheme scheme) (rest : GoString) :
    parseRest (scheme ++ schemeEnd ++ rest) false =
      if (scheme ++ schemeEnd ++ rest).any fun b => b < 32 || b = 127 then none
      else
        let hier := rest.takeWhile (· ≠ 63)
        let authority := hier.takeWhile (· ≠ 47)
        (parseAuthority authority).bind fun (user, host) =>
          (setPath (hier.drop authority.length)).map fun urlPath =>
            { scheme := scheme.map toLower
              forceQuery := hasSuffix (47 :: 47 :: rest) (lit "?") && rest.count 63 = 1
              rawQuery := rest.drop (hier.length + 1)
              user, host, urlPath } := by
  have whole : scheme ++ schemeEnd ++ rest = scheme ++ 58 :: 47 :: 47 :: rest := by
    rw [List.append_assoc]
    rfl
  have star : scheme ++ 58 :: 47 :: 47 :: rest ≠ lit "*" := by
    intro same
    have colon : 58 ∈ lit "*" := same ▸ List.mem_append_right scheme List.mem_cons_self
    exact absurd colon (by decide)
  rw [whole, parseRest, getScheme_append named]
  refine if_congr Iff.rfl rfl ?_
  rw [if_neg (by simp), if_neg star]
  dsimp only
  have front : (47 :: 47 :: rest).takeWhile (· ≠ 63) = 47 :: 47 :: rest.takeWhile (· ≠ 63) := rfl
  have slashes : hasPrefix (47 :: 47 :: rest.takeWhile (· ≠ 63)) (lit "//") = true :=
    hasPrefix_iff.mpr ⟨_, rfl⟩
  have slash : hasPrefix (47 :: 47 :: rest.takeWhile (· ≠ 63)) (lit "/") = true :=
    hasPrefix_iff.mpr ⟨_, rfl⟩
  rw [front, if_neg (fun both => both.1 slash), if_neg (fun both => both.1 slash),
    if_pos ⟨slashes, .inl named.ne_nil⟩, Nat.add_comm 2]
  rfl

/-- The cut at a fragment leaves a scheme alone. -/
lemma takeWhile_scheme {scheme : GoString} (named : IsScheme scheme) (rest : GoString) :
    (scheme ++ schemeEnd ++ rest).takeWhile (· ≠ 35) =
      scheme ++ schemeEnd ++ rest.takeWhile (· ≠ 35) := by
  have front : ∀ b ∈ scheme ++ schemeEnd, decide (b ≠ 35) = true := by
    have back : (schemeEnd.all fun b => b ≠ 35) = true := by decide
    refine List.forall_mem_append.mpr ⟨fun b member => ?_, List.all_eq_true.mp back⟩
    simpa using fun same : b = 35 => all_free named.bytes (by decide) (same ▸ member)
  exact List.takeWhile_append_of_pos front

/-- A fragment changes nothing before it. -/
lemma parse_front {rawURL : GoString} {u : URL} (parsed : parse rawURL = some u) :
    ∃ v, parseRest (rawURL.takeWhile (· ≠ 35)) false = some v ∧ u.scheme = v.scheme ∧
      u.user = v.user ∧ u.host = v.host := by
  obtain ⟨v, front, parsed⟩ := Option.bind_eq_some_iff.mp parsed
  refine ⟨v, front, ?_⟩
  split at parsed
  · cases parsed
    exact ⟨rfl, rfl, rfl⟩
  · obtain ⟨fragment, _, rfl⟩ := Option.map_eq_some_iff.mp parsed
    exact ⟨rfl, rfl, rfl⟩

/-- What a URL with a scheme and an authority is parsed to. -/
lemma parse_authority {scheme rest : GoString} (named : IsScheme scheme) {u : URL}
    (parsed : parse (scheme ++ schemeEnd ++ rest) = some u) : u.scheme = scheme.map toLower ∧
      parseAuthority (rest.takeWhile isAuthority) = some (u.user, u.host) := by
  obtain ⟨v, front, scheme_eq, user_eq, host_eq⟩ := parse_front parsed
  rw [takeWhile_scheme named, parseRest_authority named] at front
  split at front
  · cases front
  · obtain ⟨⟨user, host⟩, authority, front⟩ := Option.bind_eq_some_iff.mp front
    obtain ⟨urlPath, _, rfl⟩ := Option.map_eq_some_iff.mp front
    rw [takeWhile_authority] at authority
    rw [scheme_eq, user_eq, host_eq]
    exact ⟨rfl, authority⟩

/-- What `parse` makes of a string: an opaque URL, one with an authority, or a path. -/
lemma parseRest_some {rawURL : GoString} {viaRequest : Bool} {u : URL}
    (parsed : parseRest rawURL viaRequest = some u) (star : rawURL ≠ lit "*") :
    rawURL.any isControl = false ∧ ∃ scheme query, getScheme rawURL = some (scheme, query) ∧
      let rest := query.takeWhile (· ≠ 63)
      u.scheme = scheme.map toLower ∧ u.rawQuery = query.drop (rest.length + 1) ∧
        (u.urlPath = { path := [] } ∧ u.host = [] ∨
          hasPrefix rest (lit "//") = true ∧
            setPath (rest.drop (2 + ((rest.drop 2).takeWhile (· ≠ 47)).length)) = some u.urlPath ∨
          (viaRequest = true → hasPrefix rest (lit "/") = true) ∧ setPath rest = some u.urlPath ∧
            u.host = []) := by
  rw [parseRest, if_neg star] at parsed
  split at parsed
  · cases parsed
  · rename_i control
    refine ⟨Bool.eq_false_iff.mpr control, ?_⟩
    split at parsed
    · cases parsed
    · split at parsed
      · cases parsed
      · rename_i scheme query split
        refine ⟨scheme, query, split, ?_⟩
        dsimp only at parsed
        split at parsed
        · cases parsed
          exact ⟨rfl, rfl, .inl ⟨rfl, rfl⟩⟩
        · split at parsed
          · cases parsed
          · rename_i no_path
            split at parsed
            · rename_i slashes
              obtain ⟨_, _, parsed⟩ := Option.bind_eq_some_iff.mp parsed
              obtain ⟨urlPath, path, rfl⟩ := Option.map_eq_some_iff.mp parsed
              exact ⟨rfl, rfl, .inr (.inl ⟨slashes.1, path⟩)⟩
            · obtain ⟨urlPath, path, rfl⟩ := Option.map_eq_some_iff.mp parsed
              refine ⟨rfl, rfl, .inr (.inr ⟨?_, path, rfl⟩)⟩
              intro request
              by_contra relative
              exact no_path ⟨relative, .inl request⟩

/-- What `parse` splits off a URL with a scheme and a host. -/
lemma parseRest_split {rawURL : GoString} {v : URL} (parsed : parseRest rawURL false = some v)
    (some_scheme : v.scheme ≠ []) (some_host : v.host ≠ []) :
    ∃ scheme rest, rawURL = scheme ++ schemeEnd ++ rest ∧ IsScheme scheme := by
  have star : rawURL ≠ lit "*" := by
    rintro rfl
    cases parsed
    exact some_scheme rfl
  obtain ⟨_, scheme, query, split, scheme_eq, _, kind⟩ := parseRest_some parsed star
  rcases kind with ⟨_, empty⟩ | ⟨slashes, _⟩ | ⟨_, _, empty⟩
  · exact absurd empty some_host
  · have some_scheme : scheme ≠ [] := by
      rintro rfl
      exact some_scheme scheme_eq
    obtain ⟨whole, named⟩ := getScheme_some split some_scheme
    obtain ⟨rest, tail⟩ := hasPrefix_iff.mp slashes
    refine ⟨scheme, rest ++ query.dropWhile (· ≠ 63), ?_, named⟩
    calc rawURL = scheme ++ 58 :: query := whole
      _ = scheme ++ 58 :: (query.takeWhile (· ≠ 63) ++ query.dropWhile (· ≠ 63)) := by
        rw [List.takeWhile_append_dropWhile]
      _ = scheme ++ schemeEnd ++ (rest ++ query.dropWhile (· ≠ 63)) := by
        rw [tail, List.append_assoc, List.append_assoc]
        rfl
  · exact absurd empty some_host

/-- A URL with a scheme and a host is written with an authority. -/
lemma parse_split {rawURL : GoString} {u : URL} (parsed : parse rawURL = some u)
    (some_scheme : u.scheme ≠ []) (some_host : u.host ≠ []) :
    ∃ scheme rest, rawURL = scheme ++ schemeEnd ++ rest ∧ IsScheme scheme := by
  obtain ⟨v, front, scheme_eq, _, host_eq⟩ := parse_front parsed
  obtain ⟨scheme, rest, whole, named⟩ :=
    parseRest_split front (scheme_eq ▸ some_scheme) (host_eq ▸ some_host)
  refine ⟨scheme, rest ++ rawURL.dropWhile (· ≠ 35), ?_, named⟩
  rw [← List.append_assoc, ← whole, List.takeWhile_append_dropWhile]

end URL

/-- An authority without a user is a host. -/
lemma parseHost_of_authority {authority host : GoString}
    (parsed : parseAuthority authority = some (none, host)) : parseHost authority = some host := by
  rw [parseAuthority] at parsed
  split at parsed
  · obtain ⟨_, parsedHost, same⟩ := Option.map_eq_some_iff.mp parsed
    cases same
    exact parsedHost
  · obtain ⟨_, _, parsed⟩ := Option.bind_eq_some_iff.mp parsed
    split at parsed
    · cases parsed
    · obtain ⟨_, _, parsed⟩ := Option.bind_eq_some_iff.mp parsed
      split at parsed
      · cases parsed
      · obtain ⟨_, _, same⟩ := Option.map_eq_some_iff.mp parsed
        cases same

/-- A byte that stands for itself in a host ends neither the host nor the URL. -/
lemma byteAllowed_host {b : UInt8} (allowed : byteAllowed .host b = true) :
    (32 ≤ b ∧ b ≠ 127) ∧ b ≠ 37 ∧ b ≠ 64 ∧ isAuthority b = true := by
  revert b
  change ∀ b : UInt8, byteAllowed .host b = true → _
  exact forall_byte (by decide +kernel)

lemma isSchemeByte_printed {b : UInt8} (scheme : isSchemeByte b = true) : isControl b = false := by
  revert b
  change ∀ b : UInt8, isSchemeByte b = true → isControl b = false
  exact forall_byte (by decide +kernel)

/-- Where an authority ends. -/
def EndsAuthority (tail : GoString) : Prop := ∀ b ∈ tail.head?, isAuthority b = false

/-- What follows a stop does not matter. -/
lemma takeWhile_append_stop {p : UInt8 → Bool} {tail : GoString}
    (stop : ∀ b ∈ tail.head?, p b = false) (s : GoString) :
    (s ++ tail).takeWhile p = s.takeWhile p := by
  induction s with
  | nil =>
    cases tail with
    | nil => rfl
    | cons b tail =>
      rw [List.nil_append, List.takeWhile_nil, List.takeWhile_cons_of_neg (by simp [stop b rfl])]
  | cons c s ih =>
    rw [List.cons_append, List.takeWhile_cons, List.takeWhile_cons, ih]

/-- Parse a URL by its authority and what follows it. -/
lemma URL.parse_tail {scheme authority host tail : GoString} (named : IsScheme scheme)
    (bytes : ∀ b ∈ authority, byteAllowed .host b = true) (parsed : parseHost authority = some host)
    (ends : EndsAuthority tail) :
    let front := tail.takeWhile (· ≠ 35)
    let frag := tail.drop (front.length + 1)
    URL.parse (scheme ++ schemeEnd ++ (authority ++ tail)) =
      (if front.any isControl then none
      else (setPath (front.takeWhile (· ≠ 63))).map fun urlPath =>
        ({ scheme := scheme.map toLower
           forceQuery := hasSuffix (47 :: 47 :: (authority ++ front)) (lit "?") &&
            (authority ++ front).count 63 = 1
           rawQuery := front.drop ((front.takeWhile (· ≠ 63)).length + 1)
           host, urlPath } : URL)).bind fun u =>
      if frag = [] then some u
      else (unescape .fragment frag).map fun fragment =>
        { u with fragment, rawFragment := if frag = escape .fragment fragment then [] else frag } := by
  intro front frag
  have before {sep : UInt8} (other : isAuthority sep = false) (b : UInt8) (member : b ∈ authority) :
      decide (b ≠ sep) = true := by
    have allowed := (byteAllowed_host (bytes b member)).2.2.2
    simpa using fun same : b = sep => by rw [same, other] at allowed; cases allowed
  have cut : (authority ++ tail).takeWhile (· ≠ 35) = authority ++ front :=
    List.takeWhile_append_of_pos (before (by decide))
  have path : (authority ++ front).takeWhile (· ≠ 63) = authority ++ front.takeWhile (· ≠ 63) :=
    List.takeWhile_append_of_pos (before (by decide))
  have whole : (authority ++ front.takeWhile (· ≠ 63)).takeWhile (· ≠ 47) = authority := by
    have same : (authority ++ tail).takeWhile isAuthority = authority := by
      rw [takeWhile_append_stop ends, List.takeWhile_eq_self_iff]
      exact fun b member => (byteAllowed_host (bytes b member)).2.2.2
    rw [← takeWhile_authority, cut, path] at same
    exact same
  have user : 64 ∉ authority := fun member => (byteAllowed_host (bytes 64 member)).2.2.1 rfl
  have parsedAuthority : parseAuthority authority = some (none, host) := by
    rw [parseAuthority, cutLast_free user]
    exact congrArg (Option.map fun host => (none, host)) parsed
  have control : (scheme ++ schemeEnd ++ (authority ++ front)).any isControl = front.any isControl := by
    have printed : (scheme ++ schemeEnd ++ authority).any isControl = false := by
      rw [List.any_eq_false]
      intro b member
      rw [Bool.not_eq_true]
      rcases List.mem_append.mp member with first | last
      · rcases List.mem_append.mp first with letter | punctuation
        · exact isSchemeByte_printed (List.all_eq_true.mp named.bytes b letter)
        · have free : schemeEnd.any isControl = false := by decide
          simpa using List.any_eq_false.mp free b punctuation
      · have allowed := (byteAllowed_host (bytes b last)).1
        simpa [isControl] using allowed
    rw [← List.append_assoc, List.any_append, printed, Bool.false_or]
  have frag_eq : (scheme ++ schemeEnd ++ (authority ++ tail)).drop
      ((scheme ++ schemeEnd ++ (authority ++ front)).length + 1) = frag := by
    rw [← List.append_assoc, ← List.append_assoc, List.length_append, Nat.add_assoc, List.drop_append]
    simp [frag]
  rw [URL.parse, takeWhile_scheme named, cut, frag_eq, parseRest_authority named]
  dsimp only
  rw [path, whole, parsedAuthority]
  have dropped : (authority ++ front.takeWhile (· ≠ 63)).drop authority.length =
      front.takeWhile (· ≠ 63) := List.drop_left
  have query : (authority ++ front).drop ((authority ++ front.takeWhile (· ≠ 63)).length + 1) =
      front.drop ((front.takeWhile (· ≠ 63)).length + 1) := by
    rw [List.length_append, Nat.add_assoc, List.drop_append]
    simp
  rw [dropped, query]
  change ((if (scheme ++ schemeEnd ++ (authority ++ front)).any isControl then _ else _) :
    Option URL).bind _ = _
  rw [control]
  rfl

/-- Parse an HTTP URL that ends with its host. -/
lemma URL.parse_http {authority host : GoString}
    (bytes : ∀ b ∈ authority, byteAllowed .host b = true)
    (parsed : parseHost authority = some host) :
    URL.parse (lit "http://" ++ authority) = some { scheme := lit "http", host } := by
  have named : IsScheme (lit "http") := ⟨by decide, by decide⟩
  have query : (authority ++ []).count 63 = 0 := by
    rw [List.append_nil, List.count_eq_zero]
    intro member
    cases (byteAllowed_host (bytes 63 member)).2.2.2
  have whole := URL.parse_tail named bytes parsed (show EndsAuthority [] from nofun)
  rw [List.append_nil] at whole
  have split : lit "http://" ++ authority = lit "http" ++ schemeEnd ++ authority := rfl
  rw [split, whole, List.takeWhile_nil, query, decide_eq_false (by decide), Bool.and_false]
  rfl

lemma byteAllowed_of {b : UInt8} (plain : shouldEscape .host b = false) :
    byteAllowed .host b = true := by
  simp [byteAllowed, plain]

/-- The bytes of an address need no encoding. -/
lemma isAddressByte_host {b : UInt8} (address : isAddressByte b = true) :
    shouldEscape .host b = false ∧ b ≠ 91 ∧ b ≠ 93 := by
  revert b
  change ∀ b : UInt8, isAddressByte b = true → _
  exact forall_byte (by decide +kernel)

lemma literal_bytes {ip : GoString} (bytes : ∀ b ∈ ip, isAddressByte b = true) :
    ∀ b ∈ 91 :: ip ++ [93], byteAllowed .host b = true := by
  refine List.forall_mem_append.mpr ⟨List.forall_mem_cons.mpr ⟨by decide, ?_⟩, ?_⟩
  · exact fun b member => byteAllowed_of (isAddressByte_host (bytes b member)).1
  · exact List.forall_mem_singleton.mpr (by decide)

lemma unescape_host {host : GoString} (bytes : ∀ b ∈ host, byteAllowed .host b = true) :
    unescape .host host = some host :=
  unescape_self fun b member => ⟨(byteAllowed_host (bytes b member)).2.1, bytes b member⟩

lemma parseHost_free {host : GoString} (free : 91 ∉ host) : parseHost host =
    if (lastColon host).any fun (_, port) => !port.all isDigit then none
    else unescape .host host := by
  rw [parseHost.eq_def]
  split
  · exact absurd List.mem_cons_self free
  · exact if_neg free

/-- The bytes of a host with a port. -/
lemma hostBytes_port {host port : GoString} (bytes : ∀ b ∈ host, byteAllowed .host b = true)
    (digits : port.all isDigit = true) : ∀ b ∈ host ++ 58 :: port, byteAllowed .host b = true := by
  refine List.forall_mem_append.mpr ⟨bytes, List.forall_mem_cons.mpr ⟨by decide, ?_⟩⟩
  intro b member
  have digit := isAddressByte_of_isDigit (List.all_eq_true.mp digits b member)
  exact byteAllowed_of (isAddressByte_host digit).1

/-- A host without brackets, and its port. -/
lemma parseHost_name {host port : GoString} (bytes : ∀ b ∈ host, byteAllowed .host b = true)
    (free : 91 ∉ host) (digits : port.all isDigit = true) :
    parseHost (host ++ 58 :: port) = some (host ++ 58 :: port) := by
  have bracket : 91 ∉ host ++ 58 :: port := by
    simp [free, all_free digits (show isDigit 91 = false by decide)]
  rw [parseHost_free bracket, lastColon_eq, cutLast_append host (all_free digits (by decide)),
    unescape_host (hostBytes_port bytes digits)]
  exact if_neg (by simpa using List.all_eq_true.mp digits)

lemma zoneIndex_free {hostname : GoString} (free : 37 ∉ hostname) :
    zoneIndex hostname = hostname.length := by
  have all :
      hostname.tails.takeWhile (fun tail => !hasPrefix tail (lit "%25")) = hostname.tails := by
    rw [List.takeWhile_eq_self_iff]
    intro tail member
    rw [Bool.not_eq_true', Bool.eq_false_iff]
    intro zone
    obtain ⟨rest, rfl⟩ := hasPrefix_iff.mp zone
    have inside := (List.mem_tails _ _).mp member
    exact free (inside.mem (List.mem_append_left rest (by decide)))
  rw [zoneIndex, all, List.length_tails]
  omega

lemma validOptionalPort_cases {colonPort : GoString} (valid : validOptionalPort colonPort = true) :
    colonPort = [] ∨ ∃ port, colonPort = 58 :: port ∧ port.all isDigit = true := by
  rw [validOptionalPort, Bool.or_eq_true, decide_eq_true_eq, Bool.and_eq_true] at valid
  refine valid.imp id fun ⟨colon, digits⟩ => ?_
  obtain ⟨port, rfl⟩ := hasPrefix_iff.mp colon
  exact ⟨port, rfl, digits⟩

/-- A bracketed address, with or without a port. -/
lemma parseHost_bracketed {address colonPort : GoString}
    (bytes : ∀ b ∈ address, isAddressByte b = true) (ipv6 : isIPv6 address = true)
    (valid : validOptionalPort colonPort = true) :
    parseHost (91 :: address ++ 93 :: colonPort) = some (91 :: address ++ 93 :: colonPort) := by
  have allowed (b : UInt8) (member : b ∈ address) := isAddressByte_host (bytes b member)
  have percent : 37 ∉ address := fun member =>
    (byteAllowed_host (byteAllowed_of (allowed 37 member).1)).2.1 rfl
  have port_free {b : UInt8} (other : isDigit b = false) (colon : b ≠ 58) : b ∉ colonPort := by
    rcases validOptionalPort_cases valid with rfl | ⟨port, rfl, digits⟩
    · exact List.not_mem_nil
    · simp [all_free digits other, colon]
  have open_free : 91 ∉ address ++ 93 :: colonPort := by
    have free : 91 ∉ address := fun member => (allowed 91 member).2.1 rfl
    simp [free, port_free (show isDigit 91 = false by decide) (by decide)]
  have close_free : 93 ∉ colonPort := port_free (by decide) (by decide)
  have literal : parseLiteral address = some address := by
    rw [parseLiteral, zoneIndex_free percent, List.take_length, List.drop_length,
      unescape_host fun b member => byteAllowed_of (allowed b member).1]
    change (some (address ++ [])).filter isIPv6 = some address
    rw [List.append_nil, Option.filter_some, ipv6]
    rfl
  rw [List.cons_append, parseHost, if_neg open_free, cutLast_append address close_free]
  dsimp only
  rw [if_pos valid, literal]
  rfl

/-- A bracketed address, and its port. -/
lemma parseHost_literal {address port : GoString} (bytes : ∀ b ∈ address, isAddressByte b = true)
    (ipv6 : isIPv6 address = true) (digits : port.all isDigit = true) :
    parseHost (91 :: address ++ 93 :: 58 :: port) = some (91 :: address ++ 93 :: 58 :: port) := by
  apply parseHost_bracketed bytes ipv6
  have colon : hasPrefix (58 :: port) (lit ":") = true := hasPrefix_iff.mpr ⟨port, rfl⟩
  rw [validOptionalPort, colon]
  exact Bool.or_eq_true_iff.mpr (.inr digits)

lemma isIPv6_of_parseIP {s : GoString} {ip : IP} (parsed : parseIP s = some ip) (colon : 58 ∈ s) :
    isIPv6 s = true := by
  obtain ⟨parsed6, free, first⟩ := parseIP_colon parsed colon
  rw [isIPv6, takeWhile_free free, first, List.drop_length, parsed6]
  rfl

lemma decoded_self {s : GoString} (plain : 37 ∉ s) : decoded s = s := by
  induction s with
  | nil => rfl
  | cons c s ih =>
    rw [List.mem_cons, not_or] at plain
    rw [decoded_plain (Ne.symm plain.1), ih plain.2]

/-- The host of a URL is the decoded text. -/
lemma parseHost_decoded {text host : GoString} (parsed : parseHost text = some host) :
    host = decoded text := by
  rw [parseHost.eq_def] at parsed
  split at parsed
  · rename_i inner
    split at parsed
    · cases parsed
    · split at parsed
      · cases parsed
      · rename_i hostname colonPort cut
        split at parsed
        · rename_i valid
          obtain ⟨rfl, _⟩ := cutLast_eq_some cut
          obtain ⟨address, literal, rfl⟩ := Option.map_eq_some_iff.mp parsed
          obtain ⟨literal, _⟩ := Option.filter_eq_some_iff.mp literal
          obtain ⟨front, front_decodes, literal⟩ := Option.bind_eq_some_iff.mp literal
          obtain ⟨zone, zone_decodes, rfl⟩ := Option.map_eq_some_iff.mp literal
          have plain : 37 ∉ colonPort := by
            rcases validOptionalPort_cases valid with rfl | ⟨port, rfl, digits⟩
            · exact List.not_mem_nil
            · simp [all_free digits (show isDigit 37 = false by decide)]
          have tail : decoded (93 :: colonPort) = 93 :: colonPort := by
            rw [decoded_plain (by decide), decoded_self plain]
          rw [decoded_plain (by decide), ← List.take_append_drop (zoneIndex hostname) hostname,
            List.append_assoc, decoded_of_unescape front_decodes, decoded_of_unescape zone_decodes,
            tail]
          simp
        · cases parsed
  · split at parsed
    · cases parsed
    · split at parsed
      · cases parsed
      · have whole := decoded_of_unescape parsed []
        rw [List.append_nil] at whole
        rw [whole]
        exact (List.append_nil host).symm

end Pintle.Go
