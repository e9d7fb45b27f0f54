import Pintle.Server.Redirect

/-!
# What a redirect leads to

The target of a redirect is text that the client parses again, so the statements here are about what
`URL.parse` reads of it, for every request URL that `url.ParseRequestURI` accepts (`Arrives`).

The handler of the loopback listener takes the host apart and encodes the path; only a fragment sign
in the query is read as something else (`loopback_roundtrip`). The other handler copies the host with
its port, and the decoded path (`redirect_iff`).
-/

namespace Pintle
open Go

/-- The URL of a request, which has a path unless it is an asterisk or has an authority. -/
def Arrives (u : URL) : Prop := ∃ rawURL, rawURL ≠ lit "*" ∧ URL.parseRest rawURL true = some u

/-- The port that a client connects to. -/
def effectivePort (u : URL) : Option Int :=
  if u.port ≠ [] then parseInt u.port
  else if u.scheme = lit "https" then some 443
  else none

/-- The location is an HTTPS URL of a host and a port with the encoded path and the query of a
request. -/
def RoundTrips (location host : GoString) (httpsPort : Nat) (u : URL) : Prop :=
  ∃ v, URL.parse location = some v ∧ v.scheme = lit "https" ∧ v.hostname = host ∧
    effectivePort v = some (httpsPort : Int) ∧
    v.urlPath.escapedPath = u.urlPath.escapedPath ∧ v.rawQuery = u.rawQuery

/-- The location is an HTTPS URL of a host without a port and with the path and the query of a
request. -/
def Preserves (location host : GoString) (u : URL) : Prop :=
  ∃ v, URL.parse location = some v ∧ v.scheme = lit "https" ∧ v.hostname = host ∧ v.port = [] ∧
    v.urlPath.path = u.urlPath.path ∧ v.rawQuery = u.rawQuery

/-- A path that is read as it is: no byte of it is a control character, or begins a fragment, an
encoded byte or a query. -/
def ReadsAsIs (path : GoString) : Prop :=
  ∀ b ∈ path, isControl b = false ∧ b ≠ 35 ∧ b ≠ 37 ∧ b ≠ 63

section requests

lemma getScheme_suffix {rawURL scheme rest : GoString}
    (split : getScheme rawURL = some (scheme, rest)) : rest <:+ rawURL := by
  by_cases named : scheme = []
  · rw [getScheme] at split
    split at split
    · split at split
      · cases split
      · split at split
        · rename_i letter
          cases split
          rw [named] at letter
          cases letter
        · cases split
          exact List.suffix_rfl
    · cases split
      exact List.suffix_rfl
  · obtain ⟨rfl, _⟩ := getScheme_some split named
    exact ⟨scheme ++ [58], by simp⟩

/-- The encoded path of a request is empty or begins with a slash, and the query has no control
character. -/
lemma Arrives.parts {u : URL} (arrives : Arrives u) :
    (∃ p, setPath p = some u.urlPath ∧ (p = [] ∨ ∃ rest, p = 47 :: rest)) ∧
      u.rawQuery.any isControl = false := by
  obtain ⟨rawURL, star, parsed⟩ := arrives
  obtain ⟨control, scheme, query, split, _, query_eq, kind⟩ := URL.parseRest_some parsed star
  constructor
  · rcases kind with ⟨empty, _⟩ | ⟨_, path⟩ | ⟨absolute, path, _⟩
    · -- an opaque URL has no path
      rw [empty]
      exact ⟨[], rfl, .inl rfl⟩
    · refine ⟨_, path, ?_⟩
      rw [← List.drop_drop, drop_takeWhile]
      cases behind : ((query.takeWhile (· ≠ 63)).drop 2).dropWhile (· ≠ 47) with
      | nil => exact .inl rfl
      | cons b rest =>
        have some : ((query.takeWhile (· ≠ 63)).drop 2).dropWhile (· ≠ 47) ≠ [] :=
          behind ▸ List.cons_ne_nil b rest
        have first := List.head_dropWhile_not (fun b : UInt8 => b ≠ 47) some
        simp only [behind, List.head_cons] at first
        refine .inr ⟨rest, ?_⟩
        rw [show b = 47 by simpa using first]
    · obtain ⟨rest, same⟩ := hasPrefix_iff.mp (absolute rfl)
      exact ⟨_, path, .inr ⟨rest, same⟩⟩
  · rw [query_eq, List.any_eq_false]
    intro b member
    have inside := (getScheme_suffix split).subset ((List.drop_suffix _ query).subset member)
    exact List.any_eq_false.mp control b inside

/-- The bytes of an encoded path. -/
lemma validEncoded_bytes {p : GoString} (valid : validEncoded .path p = true) :
    ∀ b ∈ p, isControl b = false ∧ b ≠ 35 ∧ b ≠ 63 := by
  have byte (b : UInt8) :
      ((lit "!$&'()*+,;=:@[]%").contains b || !shouldEscape .path b) = true →
        isControl b = false ∧ b ≠ 35 ∧ b ≠ 63 := by
    revert b
    exact forall_byte (by decide +kernel)
  intro b member
  exact byte b (List.all_eq_true.mp valid b member)

/-- A path that is empty or absolute decodes to one that is. -/
lemma unescape_absolute {p decoded : GoString} (decodes : unescape .path p = some decoded)
    (absolute : p = [] ∨ ∃ rest, p = 47 :: rest) : decoded = [] ∨ ∃ rest, decoded = 47 :: rest := by
  rcases absolute with rfl | ⟨rest, rfl⟩
  · cases decodes
    exact .inl rfl
  · rw [unescape_slash] at decodes
    obtain ⟨tail, _, rfl⟩ := Option.map_eq_some_iff.mp decodes
    exact .inr ⟨tail, rfl⟩

/-- The encoded path of a request is read as a path with the same encoding. -/
lemma escapedPath_again {p : GoString} {u : URLPath} (path : setPath p = some u)
    (absolute : p = [] ∨ ∃ rest, p = 47 :: rest) :
    (∀ b ∈ u.escapedPath, isControl b = false ∧ b ≠ 35 ∧ b ≠ 63) ∧
      (u.escapedPath = [] ∨ ∃ rest, u.escapedPath = 47 :: rest) ∧
      ∃ v, setPath u.escapedPath = some v ∧ v.escapedPath = u.escapedPath := by
  obtain ⟨decoded, decodes, rfl⟩ := Option.map_eq_some_iff.mp path
  have decoded_absolute := unescape_absolute decodes absolute
  have star : decoded ≠ lit "*" := by
    rintro rfl
    rcases decoded_absolute with same | ⟨_, same⟩ <;> cases same
  have default_again : setPath (escape .path decoded) = some { path := decoded } := by
    rw [setPath, unescape_escape, Option.map_some, if_pos rfl]
  have default_encoding : URLPath.escapedPath { path := decoded } = escape .path decoded := by
    rw [URLPath.escapedPath, if_neg (fun raw => raw.1 rfl), if_neg star]
  by_cases valid : p ≠ escape .path decoded ∧ validEncoded .path p = true
  · have nonempty : p ≠ [] := by
      rintro rfl
      cases decodes
      exact valid.1 rfl
    have kept : URLPath.escapedPath { path := decoded, rawPath := p } = p := by
      rw [URLPath.escapedPath, if_pos ⟨nonempty, valid.2, decodes⟩]
    rw [if_neg valid.1, kept]
    refine ⟨validEncoded_bytes valid.2, absolute, { path := decoded, rawPath := p }, ?_, kept⟩
    rw [path, if_neg valid.1]
  · have encoded : URLPath.escapedPath
        { path := decoded, rawPath := if p = escape .path decoded then [] else p } =
          escape .path decoded := by
      split
      · exact default_encoding
      · rename_i other
        rw [URLPath.escapedPath, if_neg (fun raw => valid ⟨other, raw.2.1⟩), if_neg star]
    rw [encoded]
    refine ⟨validEncoded_bytes (validEncoded_escape decoded), ?_, _, default_again, default_encoding⟩
    rcases decoded_absolute with rfl | ⟨rest, rfl⟩
    · exact .inl rfl
    · exact .inr ⟨escape .path rest, escape_slash rest⟩

end requests

section hosts

/-- The host of a URL without a port. -/
lemma hostPort_bare {u : URL}
    (bare : ∀ before after, lastColon u.host = some (before, after) → after.all isDigit = false) :
    u.hostPort =
      if hasPrefix u.host (lit "[") ∧ hasSuffix u.host (lit "]") then
        ((u.host.drop 1).take (u.host.length - 2), [])
      else (u.host, []) := by
  rw [URL.hostPort]
  cases cut : lastColon u.host with
  | none => rfl
  | some parts =>
    dsimp only
    rw [bare parts.1 parts.2 cut]
    rfl

/-- What a valid host is read as behind a scheme. -/
lemma HostText.reads {text host : GoString} (named : HostText text host) {port : Option GoString}
    (digits : ∀ p ∈ port, p.all isDigit = true) :
    (∀ b ∈ text ++ portText port, byteAllowed .host b = true) ∧
      parseHost (text ++ portText port) = some (text ++ portText port) ∧
      ∀ u : URL, u.host = text ++ portText port → u.hostname = host ∧ u.port = port.getD [] := by
  rcases named.cases_bracket with ⟨rfl, plain⟩ | ⟨rfl, bytes, ipv6, colon⟩
  · have allowed (b : UInt8) (member : b ∈ text) := byteAllowed_of (plain.bytes b member)
    cases port with
    | none =>
      rw [portText, List.append_nil]
      refine ⟨allowed, ?_, fun u whole => ?_⟩
      · rw [parseHost_free plain.plain.2.1, lastColon_eq, cutLast_free plain.plain.1,
          unescape_host allowed]
        rfl
      · have split := hostPort_bare (u := u) (by
          rw [whole, lastColon_eq, cutLast_free plain.plain.1]
          intro before after cut
          cases cut)
        rw [whole, if_neg (URL.not_bracketed plain.plain.2.1)] at split
        exact ⟨congrArg Prod.fst split, congrArg Prod.snd split⟩
    | some p =>
      have digit := digits p rfl
      exact ⟨hostBytes_port allowed digit, parseHost_name allowed plain.plain.2.1 digit,
        fun u whole => URL.hostname_port whole plain.plain.2.1 digit⟩
  · have allowed := literal_bytes bytes
    cases port with
    | none =>
      rw [portText, List.append_nil]
      refine ⟨allowed, parseHost_bracketed bytes ipv6 rfl, fun u whole => ?_⟩
      have split := hostPort_bare (u := u) (by
        -- what follows the last colon ends with the bracket
        obtain ⟨before, after, rfl, last⟩ := split_last colon
        have text : 91 :: (before ++ 58 :: after) ++ [93] = 91 :: before ++ 58 :: (after ++ [93]) := by
          simp
        rw [whole, text, lastColon_eq, cutLast_append _ (by simp [last])]
        intro _ _ same
        cases same
        simp [isDigit])
      rw [whole, if_pos (URL.bracketed host).1, (URL.bracketed host).2] at split
      exact ⟨congrArg Prod.fst split, congrArg Prod.snd split⟩
    | some p =>
      have digit := digits p rfl
      have text : 91 :: host ++ [93] ++ portText (some p) = 91 :: host ++ 93 :: 58 :: p := by
        simp [portText]
      refine ⟨hostBytes_port allowed digit, ?_,
        fun u whole => URL.hostname_port_literal whole digit⟩
      rw [text]
      exact parseHost_literal bytes ipv6 digit

/-- The authority of a redirect that names a port unless it is the default one. -/
lemma HostText.join {text host : GoString} (named : HostText text host) (httpsPort : Nat) :
    (if httpsPort ≠ 443 then joinHostPort host (itoa httpsPort)
      else if 58 ∈ host then lit "[" ++ host ++ lit "]" else host) =
      text ++ portText (if httpsPort = 443 then none else some (itoa httpsPort)) := by
  rcases named.cases_bracket with ⟨rfl, plain⟩ | ⟨rfl, _, _, colon⟩
  · have percent : 37 ∉ text := by
      intro member
      cases plain.bytes 37 member
    by_cases default : httpsPort = 443
    · rw [if_neg (not_not.mpr default), if_neg plain.plain.1, if_pos default, portText,
        List.append_nil]
    · rw [if_pos default, if_neg default, joinHostPort,
        if_neg (not_or.mpr ⟨plain.plain.1, percent⟩), List.append_assoc]
      rfl
  · by_cases default : httpsPort = 443
    · rw [if_neg (not_not.mpr default), if_pos colon, if_pos default, portText, List.append_nil]
      rfl
    · rw [if_pos default, if_neg default, joinHostPort, if_pos (.inl colon)]
      rw [portText, List.append_assoc, List.append_assoc, List.append_assoc]
      rfl

end hosts

section locations
variable {authority path query : GoString}

lemma queryText_some (some : query ≠ []) : queryText query = 63 :: query := by
  rw [queryText, if_pos some]
  rfl

/-- The text of a query begins with its question mark. -/
lemma head_queryText : ∀ b ∈ (queryText query).head?, b = 63 := by
  intro b first
  rcases eq_or_ne query [] with rfl | some
  · cases first
  · rw [queryText_some some] at first
    cases first
    rfl

lemma ends_queryText (start : path = [] ∨ ∃ rest, path = 47 :: rest) :
    EndsAuthority (path ++ queryText query) := by
  intro b first
  rcases start with rfl | ⟨rest, rfl⟩
  · rw [head_queryText b first]
    rfl
  · cases first
    rfl

lemma location_tail : lit "https://" ++ authority ++ path ++ queryText query =
    lit "https" ++ schemeEnd ++ (authority ++ (path ++ queryText query)) := by
  rw [List.append_assoc, List.append_assoc]
  rfl

/-- What a location can be read as. -/
lemma location_inv (bytes : ∀ b ∈ authority, byteAllowed .host b = true)
    (parsed : parseHost authority = some authority)
    (start : path = [] ∨ ∃ rest, path = 47 :: rest) {v : URL}
    (read : URL.parse (lit "https://" ++ authority ++ path ++ queryText query) = some v) :
    let front := (path ++ queryText query).takeWhile (· ≠ 35)
    front.any isControl = false ∧ setPath (front.takeWhile (· ≠ 63)) = some v.urlPath ∧
      v.rawQuery = front.drop ((front.takeWhile (· ≠ 63)).length + 1) ∧ v.host = authority := by
  intro front
  have named : IsScheme (lit "https") := ⟨by decide, by decide⟩
  rw [location_tail, URL.parse_tail named bytes parsed (ends_queryText start)] at read
  obtain ⟨w, before, read⟩ := Option.bind_eq_some_iff.mp read
  split at before
  · cases before
  · rename_i control
    obtain ⟨urlPath, decodes, rfl⟩ := Option.map_eq_some_iff.mp before
    split at read
    · cases read
      exact ⟨Bool.eq_false_iff.mpr control, decodes, rfl, rfl⟩
    · obtain ⟨fragment, _, rfl⟩ := Option.map_eq_some_iff.mp read
      exact ⟨Bool.eq_false_iff.mpr control, decodes, rfl, rfl⟩

/-- A location without a fragment is read as it is written. -/
lemma location_read (bytes : ∀ b ∈ authority, byteAllowed .host b = true)
    (parsed : parseHost authority = some authority)
    (start : path = [] ∨ ∃ rest, path = 47 :: rest)
    (plain : ∀ b ∈ path, isControl b = false ∧ b ≠ 35 ∧ b ≠ 63)
    (printed : query.any isControl = false) (fragment : 35 ∉ query) {urlPath : URLPath}
    (decodes : setPath path = some urlPath) :
    ∃ v, URL.parse (lit "https://" ++ authority ++ path ++ queryText query) = some v ∧
      v.scheme = lit "https" ∧ v.host = authority ∧ v.urlPath = urlPath ∧ v.rawQuery = query := by
  have named : IsScheme (lit "https") := ⟨by decide, by decide⟩
  have text : 35 ∉ queryText query ∧ (queryText query).any isControl = false ∧
      (queryText query).drop 1 = query ∧ (queryText query).takeWhile (· ≠ 63) = [] := by
    rcases eq_or_ne query [] with rfl | some
    · exact ⟨List.not_mem_nil, rfl, rfl, rfl⟩
    · rw [queryText_some some]
      refine ⟨?_, printed, rfl, rfl⟩
      intro member
      rcases List.mem_cons.mp member with same | inside
      · cases same
      · exact fragment inside
  have whole : (path ++ queryText query).takeWhile (· ≠ 35) = path ++ queryText query := by
    apply takeWhile_free
    intro member
    rcases List.mem_append.mp member with inside | behind
    · exact (plain 35 inside).2.1 rfl
    · exact text.1 behind
  have front : (path ++ queryText query).takeWhile (· ≠ 63) = path := by
    rw [List.takeWhile_append_of_pos, text.2.2.2, List.append_nil]
    intro b member
    simpa using (plain b member).2.2
  have control : (path ++ queryText query).any isControl = false := by
    rw [List.any_append, text.2.1, Bool.or_false, List.any_eq_false]
    intro b member
    rw [(plain b member).1]
    exact Bool.false_ne_true
  have past : (path ++ queryText query).drop ((path ++ queryText query).length + 1) = [] :=
    List.drop_of_length_le (by omega)
  have behind : (path ++ queryText query).drop (path.length + 1) = query := by
    rw [← List.drop_drop, List.drop_left]
    exact text.2.2.1
  have ends : EndsAuthority (path ++ queryText query) := ends_queryText start
  have read := URL.parse_tail named bytes parsed ends
  dsimp only at read
  rw [whole, front, control, past, behind, decodes, if_neg Bool.false_ne_true] at read
  rw [location_tail, read]
  exact ⟨_, rfl, rfl, rfl, rfl, rfl⟩

/-- A path that is read back from a location is read as it is, and the query with it. -/
lemma reads_as_is {urlPath : URLPath}
    (control : ((path ++ queryText query).takeWhile (· ≠ 35)).any isControl = false)
    (decodes : setPath (((path ++ queryText query).takeWhile (· ≠ 35)).takeWhile (· ≠ 63)) =
      some urlPath)
    (same_path : urlPath.path = path)
    (same_query : ((path ++ queryText query).takeWhile (· ≠ 35)).drop
      ((((path ++ queryText query).takeWhile (· ≠ 35)).takeWhile (· ≠ 63)).length + 1) = query) :
    ReadsAsIs path ∧ 35 ∉ query := by
  have stops : ∀ b ∈ (queryText query).head?, (b ≠ 63 && b ≠ 35 : Bool) = false := by
    intro b first
    rw [head_queryText b first]
    rfl
  -- what is read begins the path, and decodes to all of it
  have kept : ((path ++ queryText query).takeWhile (· ≠ 35)).takeWhile (· ≠ 63) =
      path.takeWhile fun b => b ≠ 63 && b ≠ 35 := by
    rw [List.takeWhile_takeWhile, ← takeWhile_append_stop stops]
    congr 1
    funext b
    simp [Bool.and_comm]
  rw [kept] at decodes same_query
  obtain ⟨decoded, again, rfl⟩ := Option.map_eq_some_iff.mp decodes
  change decoded = path at same_path
  rw [same_path] at again
  have whole : (path.takeWhile fun b => b ≠ 63 && b ≠ 35) = path := by
    have front := List.takeWhile_prefix (fun b => b ≠ 63 && b ≠ 35) (l := path)
    exact front.eq_of_length (Nat.le_antisymm front.length_le (unescape_length again).1)
  rw [whole] at again same_query
  have others : ∀ b ∈ path, b ≠ 63 ∧ b ≠ 35 := by
    intro b member
    simpa using List.takeWhile_eq_self_iff.mp whole b member
  have percent : 37 ∉ path := fun member => Nat.lt_irrefl _ ((unescape_length again).2 member)
  have front : (path ++ queryText query).takeWhile (· ≠ 35) =
      path ++ (queryText query).takeWhile (· ≠ 35) := by
    apply List.takeWhile_append_of_pos
    intro b member
    exact decide_eq_true (others b member).2
  rw [front] at control same_query
  rw [List.any_append, Bool.or_eq_false_iff] at control
  constructor
  · intro b member
    refine ⟨?_, (others b member).2, fun same => percent (same ▸ member), (others b member).1⟩
    simpa using List.any_eq_false.mp control.1 b member
  · rw [← List.drop_drop, List.drop_left] at same_query
    intro fragment
    rw [queryText_some (List.ne_nil_of_mem fragment), List.takeWhile_cons_of_pos (by decide),
      List.drop_one, List.tail_cons] at same_query
    have free := List.takeWhile_eq_self_iff.mp same_query 35 fragment
    cases free

end locations

/-- The location of the loopback handler is read as the request's URL on the HTTPS port, for every
query without a fragment sign. -/
theorem loopback_roundtrip {header host : GoString} {port : Option GoString}
    (valid : ValidHost header host port) {u : URL} (arrives : Arrives u) {httpsPort : Nat}
    (range : 1 ≤ httpsPort ∧ httpsPort ≤ 65535) (fragment : 35 ∉ u.rawQuery) :
    RoundTrips (loopbackRedirectHandler httpsPort { host := header, url := u }).location host
      httpsPort u := by
  obtain ⟨⟨p, path, absolute⟩, printed⟩ := arrives.parts
  obtain ⟨plain, start, again, decodes, same⟩ := escapedPath_again path absolute
  have extracted := loopbackHost_eq valid
  obtain ⟨named, _⟩ := valid
  have digits : ∀ p ∈ (if httpsPort = 443 then none else some (itoa httpsPort)),
      p.all isDigit = true := by
    intro p member
    split at member
    · cases member
    · cases member
      exact List.all_eq_true.mpr fun b inside => isDigit_of_mem_itoa inside
  obtain ⟨bytes, parsed, reads⟩ := named.reads digits
  obtain ⟨v, read, scheme, whole, urlPath, query⟩ :=
    location_read bytes parsed start plain printed fragment decodes
  obtain ⟨hostname, port_eq⟩ := reads v whole
  rw [loopbackRedirectHandler, extracted]
  dsimp only
  rw [named.join]
  refine ⟨v, read, scheme, hostname, ?_, by rw [urlPath]; exact same, query⟩
  rw [effectivePort, port_eq]
  by_cases default : httpsPort = 443
  · rw [if_pos default, if_neg (by simp), if_pos scheme, default]
    rfl
  · have number := parseInt_itoa (n := httpsPort) (by omega)
    have some_digit : itoa httpsPort ≠ [] := by
      intro empty
      rw [empty] at number
      cases number
    rw [if_neg default, Option.getD_some, if_pos some_digit, number]

/-- A request for a name. -/
theorem loopback_roundtrip_name :
    RoundTrips (loopbackRedirectHandler 9443
      { host := lit "app.lvh.me" ++ portText (some (lit "9080"))
        url := { urlPath := { path := lit "/deep" }, rawQuery := lit "q=1" } }).location
      (lit "app.lvh.me") 9443
      { urlPath := { path := lit "/deep" }, rawQuery := lit "q=1" } :=
  loopback_roundtrip (.intro (.name (by decide) (by decide)) (by
      intro p same
      cases same
      decide))
    ⟨lit "/deep?q=1", by decide, by decide⟩ (by decide) (by decide)

/-- A request whose query has a fragment sign. -/
def fragmentURL : URL := { urlPath := { path := lit "/" }, rawQuery := lit "b#c" }

/-- Its query is cut there. -/
theorem fragment_cut : Arrives fragmentURL ∧
    ¬RoundTrips (loopbackRedirectHandler 9443 { host := lit "a", url := fragmentURL }).location
      (lit "a") 9443 fragmentURL := by
  refine ⟨⟨lit "/?b#c", by decide, by decide⟩, ?_⟩
  rintro ⟨v, read, _, _, _, _, query⟩
  have cut : (URL.parse (loopbackRedirectHandler 9443
      { host := lit "a", url := fragmentURL }).location).map (·.rawQuery) = some (lit "b") := by
    decide
  rw [read, Option.map_some, query] at cut
  cases cut

/-- The location of the other handler is read as the request's URL without a port exactly when the
host has no port, the path is read as it is and the query has no fragment sign. -/
theorem redirect_iff {header host : GoString} {port : Option GoString}
    (valid : ValidHost header host port) {u : URL} (arrives : Arrives u) :
    Preserves (startHTTPRedirect { host := header, url := u }).location host u ↔
      port.getD [] = [] ∧ ReadsAsIs u.urlPath.path ∧ 35 ∉ u.rawQuery := by
  obtain ⟨⟨p, path, absolute⟩, printed⟩ := arrives.parts
  obtain ⟨named, digits⟩ := valid
  obtain ⟨bytes, parsed, reads⟩ := named.reads digits
  have start : u.urlPath.path = [] ∨ ∃ rest, u.urlPath.path = 47 :: rest := by
    obtain ⟨decoded, decodes, whole⟩ := Option.map_eq_some_iff.mp path
    rw [← whole]
    exact unescape_absolute decodes absolute
  rw [startHTTPRedirect]
  constructor
  · rintro ⟨v, read, _, _, no_port, path_eq, query_eq⟩
    obtain ⟨control, decodes, query, whole⟩ := location_inv bytes parsed start read
    refine ⟨(reads v whole).2.symm.trans no_port, ?_⟩
    exact reads_as_is control decodes path_eq (query.symm.trans query_eq)
  · rintro ⟨no_port, plain, fragment⟩
    have again : unescape .path u.urlPath.path = some u.urlPath.path :=
      unescape_self fun b member => ⟨(plain b member).2.2.1, rfl⟩
    have decodes : setPath u.urlPath.path = some
        { path := u.urlPath.path
          rawPath := if u.urlPath.path = escape .path u.urlPath.path then [] else u.urlPath.path } := by
      rw [setPath, again, Option.map_some]
    obtain ⟨v, read, scheme, whole, urlPath, query⟩ := location_read bytes parsed start
      (fun b member => ⟨(plain b member).1, (plain b member).2.1, (plain b member).2.2.2⟩)
      printed fragment decodes
    obtain ⟨hostname, port_eq⟩ := reads v whole
    exact ⟨v, read, scheme, hostname, port_eq.trans no_port, by rw [urlPath], query⟩

/-- A request for a name without a port. -/
theorem redirect_name :
    Preserves (startHTTPRedirect
      { host := lit "app.lvh.me" ++ portText none
        url := { urlPath := { path := lit "/deep" }, rawQuery := lit "q=1" } }).location
      (lit "app.lvh.me") { urlPath := { path := lit "/deep" }, rawQuery := lit "q=1" } :=
  (redirect_iff (.intro (.name (by decide) (by decide)) (by intro p same; cases same))
    ⟨lit "/deep?q=1", by decide, by decide⟩).mpr
    ⟨rfl, fun b member => by
      have all : (lit "/deep").all
          (fun b => !isControl b && b ≠ 35 && b ≠ 37 && b ≠ 63) = true := by decide
      have plain := List.all_eq_true.mp all b member
      simp only [Bool.and_eq_true, Bool.not_eq_true', decide_eq_true_eq] at plain
      exact ⟨plain.1.1.1, plain.1.1.2, plain.1.2, plain.2⟩, by decide⟩

/-- A path with an encoded question mark. -/
def encodedURL : URL := { urlPath := { path := lit "/a?b" } }

/-- The port of the host stays in the location, and the path is cut at the decoded question mark. -/
theorem port_and_path_lost : Arrives encodedURL ∧
    ¬Preserves (startHTTPRedirect
      { host := lit "a:8080", url := { urlPath := { path := lit "/" } } }).location
      (lit "a") { urlPath := { path := lit "/" } } ∧
    ¬Preserves (startHTTPRedirect { host := lit "a", url := encodedURL }).location
      (lit "a") encodedURL := by
  refine ⟨⟨lit "/a%3Fb", by decide, by decide⟩, ?_, ?_⟩
  · rintro ⟨v, read, _, _, port, _, _⟩
    have kept : (URL.parse (startHTTPRedirect
        { host := lit "a:8080", url := { urlPath := { path := lit "/" } } }).location).map
          (·.port) = some (lit "8080") := by
      decide
    rw [read, Option.map_some, port] at kept
    cases kept
  · rintro ⟨v, read, _, _, _, path, _⟩
    have cut : (URL.parse (startHTTPRedirect
        { host := lit "a", url := encodedURL }).location).map (·.urlPath.path) = some (lit "/a") := by
      decide
    rw [read, Option.map_some, path] at cut
    cases cut

end Pintle
