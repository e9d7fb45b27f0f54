import Pintle.Go.Escape
import Pintle.Router.Paths

/-!
# The path of a forwarded request

Model of what `internal/proxy/proxy.go` does to the path of a request. The URL of a request has its
path decoded, and as it was sent when that is not the default encoding. The router resolves the
decoded path, the `Director` overwrites it alone, and the transport sends the encoding that still
fits, or the default one. `forwards_iff` says for which paths the client's encoding comes through.
-/

namespace Pintle
open Go

/-- The path of Go `url.ParseRequestURI`, from what stands between authority and query; an error is
`none`. Only a request URI with an authority has an empty one. -/
def parseRequestPath (raw : GoString) : Option URLPath :=
  if raw.any fun b => b < 32 || b = 127 then none
  else if raw = lit "*" then some { path := lit "*" }
  else if raw ≠ [] ∧ ¬ hasPrefix raw (lit "/") then none
  else setPath raw

/-- The path of Go `URL.RequestURI`, which the transport writes. -/
def requestURI (u : URLPath) : GoString := if u.escapedPath = [] then lit "/" else u.escapedPath

/-- The `Director` of `ServeHTTP`. -/
def director (result : ResolveResult) (u : URLPath) : URLPath :=
  { u with path := result.rewrittenPath }

/-- The raw segments of a path as sent; the empty path is the root. -/
def segments : GoString → Option (List GoString)
  | [] => some [[]]
  | c :: s => if c = 47 then some (s.splitOn 47) else none

/-- The segments of the path of a route; the root has none. -/
def Route.segments (route : Route) : List GoString :=
  if route.path = [] ∨ route.path = lit "/" then [] else (route.path.drop 1).splitOn 47

/-- The segments of a path as sent upstream are those the client sent, without the segments of the
route's path at the front when the route strips it. -/
def Forwards (raw upstream : GoString) (route : Route) : Prop :=
  ∀ segs, segments raw = some segs → ∃ front kept, segs = front ++ kept ∧
    front.map (unescape .path) = (if route.stripPath then route.segments else []).map some ∧
    segments upstream = some (if kept = [] then [[]] else kept)

/-- The client's encoding survives: without a strip, it is valid; with one, the part that is
stripped has no encoded slash of its own and the rest is in the default encoding. Of a route at the
root that strips its path, only the root itself comes through. -/
def Preserved (raw : GoString) (route : Route) : Prop :=
  if route.stripPath = false ∨ route.path = [] then validEncoded .path raw = true
  else if route.path = lit "/" then raw = [] ∨ raw = lit "*" ∨ raw = lit "/"
  else ∃ front rest, raw = front ++ escape .path rest ∧ unescape .path front = some route.path ∧
    front.count 47 = route.path.count 47

/-- Joining pieces adds a slash between any two of them. -/
lemma count_join {pieces : List GoString} (some_piece : pieces ≠ []) :
    ([47].intercalate pieces).count 47 + 1 = pieces.length + (pieces.map (List.count 47)).sum := by
  induction pieces with
  | nil => exact absurd rfl some_piece
  | cons piece pieces ih =>
    cases pieces with
    | nil =>
      simp
      omega
    | cons next pieces =>
      have joined := ih (List.cons_ne_nil _ _)
      rw [List.intercalate_cons_cons, List.append_assoc, List.count_append, List.count_append,
        List.map_cons, List.sum_cons, List.length_cons]
      have slash : List.count (47 : UInt8) [47] = 1 := rfl
      omega

lemma join_append {front kept : List GoString} (some_front : front ≠ []) (some_kept : kept ≠ []) :
    [47].intercalate (front ++ kept) = [47].intercalate front ++ 47 :: [47].intercalate kept := by
  induction front with
  | nil => exact absurd rfl some_front
  | cons piece front ih =>
    cases front with
    | nil =>
      rw [List.singleton_append, List.intercalate_cons_of_ne_nil some_kept,
        List.intercalate_singleton, List.append_assoc]
      rfl
    | cons next front =>
      rw [List.cons_append, List.cons_append, List.intercalate_cons_cons, ← List.cons_append,
        ih (List.cons_ne_nil _ _), List.intercalate_cons_cons, List.append_assoc, List.append_assoc,
        List.append_assoc]

lemma count_splitOn (s : GoString) : s.count 47 + 1 = (s.splitOn 47).length := by
  induction s with
  | nil => rfl
  | cons c s ih =>
    rw [List.splitOn_cons_eq_if_modifyHead]
    by_cases slash : c = 47
    · subst slash
      rw [List.count_cons_self, if_pos (by rfl), List.length_cons, ← ih]
    · rw [List.count_cons_of_ne slash, if_neg (by simpa using slash), List.length_modifyHead, ih]

/-- The pieces of a path have no slash. -/
lemma slash_free {s piece : GoString} (member : piece ∈ s.splitOn 47) : 47 ∉ piece := by
  have joined := count_join (List.splitOn_ne_nil 47 s)
  rw [List.intercalate_splitOn, count_splitOn] at joined
  have free : ((s.splitOn 47).map (List.count 47)).sum = 0 := by omega
  exact List.count_eq_zero.mp
    (List.sum_eq_zero_iff_forall_eq_nat.mp free _ (List.mem_map_of_mem member))

/-- The pieces of a path are decoded one by one. -/
lemma unescape_join {pieces : List GoString} (some_piece : pieces ≠ []) (x : GoString) :
    unescape .path ([47].intercalate pieces) = some x ↔
      ∃ decoded, pieces.map (unescape .path) = decoded.map some ∧ x = [47].intercalate decoded := by
  induction pieces generalizing x with
  | nil => exact absurd rfl some_piece
  | cons piece pieces ih =>
    cases pieces with
    | nil =>
      rw [List.intercalate_singleton]
      constructor
      · intro decodes
        exact ⟨[x], by rw [List.map_singleton, decodes]; rfl, List.intercalate_singleton.symm⟩
      · rintro ⟨decoded, decodes, rfl⟩
        match decoded with
        | [] => cases decodes
        | [y] =>
          rw [List.intercalate_singleton]
          exact (List.cons.inj decodes).1
        | _ :: _ :: _ => cases (List.cons.inj decodes).2
    | cons next pieces =>
      rw [List.intercalate_cons_cons, List.append_assoc, List.singleton_append,
        unescape_append_slash]
      constructor
      · intro decodes
        obtain ⟨y, here, decodes⟩ := Option.bind_eq_some_iff.mp decodes
        obtain ⟨z, later, rfl⟩ := Option.map_eq_some_iff.mp decodes
        obtain ⟨decoded, each, rfl⟩ := (ih (List.cons_ne_nil _ _) z).mp later
        refine ⟨y :: decoded, by rw [List.map_cons, here, each]; rfl, ?_⟩
        have some_decoded : decoded ≠ [] := by
          rintro rfl
          cases each
        rw [List.intercalate_cons_of_ne_nil some_decoded, List.append_assoc]
        rfl
      · rintro ⟨decoded, decodes, rfl⟩
        match decoded, decodes with
        | y :: decoded, decodes =>
          obtain ⟨here, each⟩ := List.cons.inj decodes
          have some_decoded : decoded ≠ [] := by
            rintro rfl
            cases each
          rw [here, (ih (List.cons_ne_nil _ _) _).mpr ⟨decoded, each, rfl⟩,
            List.intercalate_cons_of_ne_nil some_decoded, List.append_assoc]
          rfl

/-- A path is decoded to another one segment by segment exactly when no slash is encoded in it. -/
lemma segments_decode {s x : GoString} :
    (s.splitOn 47).map (unescape .path) = (x.splitOn 47).map some ↔
      unescape .path s = some x ∧ s.count 47 = x.count 47 := by
  constructor
  · intro each
    have lengths := congrArg List.length each
    rw [List.length_map, List.length_map, ← count_splitOn, ← count_splitOn] at lengths
    refine ⟨?_, by omega⟩
    have whole := (unescape_join (List.splitOn_ne_nil 47 s) x).mpr
      ⟨_, each, (List.intercalate_splitOn 47).symm⟩
    rwa [List.intercalate_splitOn] at whole
  · rintro ⟨decodes, count⟩
    have joined : [47].intercalate (s.splitOn 47) = s := List.intercalate_splitOn 47
    rw [← joined] at decodes
    obtain ⟨decoded, each, rfl⟩ := (unescape_join (List.splitOn_ne_nil 47 s) x).mp decodes
    have lengths := congrArg List.length each
    rw [List.length_map, List.length_map, ← count_splitOn] at lengths
    have some_decoded : decoded ≠ [] := by
      rintro rfl
      simp at lengths
    have total := count_join some_decoded
    have free : (decoded.map (List.count 47)).sum = 0 := by omega
    rw [List.splitOn_intercalate 47 _ some_decoded, each]
    intro piece member
    exact List.count_eq_zero.mp
      (List.sum_eq_zero_iff_forall_eq_nat.mp free _ (List.mem_map_of_mem member))

/-- The `RawPath` of a path that is sent as `/s` and decoded as `/d`. -/
def hint (s d : GoString) : GoString := if s = escape .path d then [] else 47 :: s

/-- The path of a request is absent, a star, or begins with a slash. -/
lemma parseRequestPath_cases {raw : GoString} {u : URLPath}
    (parsed : parseRequestPath raw = some u) :
    raw = lit "*" ∧ u = { path := lit "*" } ∨ raw = [] ∧ u = { path := [] } ∨
      ∃ s d, raw = 47 :: s ∧ unescape .path s = some d ∧
        u = { path := 47 :: d, rawPath := hint s d } := by
  unfold parseRequestPath at parsed
  split at parsed
  · cases parsed
  · split at parsed
    · rename_i star
      cases parsed
      exact .inl ⟨star, rfl⟩
    · split at parsed
      · cases parsed
      · rename_i rooted
        match raw with
        | [] =>
          cases parsed
          exact .inr (.inl ⟨rfl, rfl⟩)
        | c :: s =>
          have slash : c = 47 := by
            by_contra other
            have bytes : lit "/" = [47] := rfl
            exact rooted ⟨List.cons_ne_nil _ _, by simp [hasPrefix, bytes, Ne.symm other]⟩
          subst slash
          obtain ⟨path, decodes, rfl⟩ := Option.map_eq_some_iff.mp parsed
          rw [unescape_slash] at decodes
          obtain ⟨d, rest_decodes, rfl⟩ := Option.map_eq_some_iff.mp decodes
          refine .inr (.inr ⟨s, d, rfl, rest_decodes, ?_⟩)
          simp only [escape_slash, List.cons.injEq, true_and, hint]

lemma slash_ne_star {s : GoString} : 47 :: s ≠ lit "*" := by
  intro same
  exact absurd (List.cons.inj same).1 (by decide)

/-- A path that is left as it is keeps a valid encoding. -/
lemma requestURI_kept {s d : GoString} (decodes : unescape .path s = some d) :
    requestURI ⟨47 :: d, hint s d⟩ =
      if validEncoded .path (47 :: s) then 47 :: s else 47 :: escape .path d := by
  have escaped : (URLPath.mk (47 :: d) (hint s d)).escapedPath =
      if validEncoded .path (47 :: s) then 47 :: s else 47 :: escape .path d := by
    by_cases default : s = escape .path d
    · subst default
      have valid := validEncoded_escape (47 :: d)
      rw [escape_slash] at valid
      rw [hint, if_pos rfl, if_pos valid, URLPath.escapedPath, if_neg (by simp),
        if_neg slash_ne_star, escape_slash]
    · rw [hint, if_neg default, URLPath.escapedPath, if_neg slash_ne_star, escape_slash]
      have fits : unescape .path (47 :: s) = some (47 :: d) := by rw [unescape_slash, decodes]; rfl
      simp only [fits, ne_eq, reduceCtorEq, not_false_eq_true, true_and, and_true]
  rw [requestURI, escaped]
  split <;> exact if_neg (List.cons_ne_nil _ _)

lemma escape_ne_nil {path : GoString} (some_path : path ≠ []) : escape .path path ≠ [] := by
  intro nothing
  exact some_path (escape_injective (nothing.trans rfl))

/-- Another path is sent in the default encoding, but for a star. -/
lemma requestURI_changed {s d path : GoString} (decodes : unescape .path s = some d)
    (changed : path ≠ 47 :: d) (some_path : path ≠ []) :
    requestURI ⟨path, hint s d⟩ = if path = lit "*" then lit "*" else escape .path path := by
  have escaped : (URLPath.mk path (hint s d)).escapedPath =
      if path = lit "*" then lit "*" else escape .path path := by
    rw [URLPath.escapedPath]
    apply if_neg
    rintro ⟨hinted, _, fits⟩
    rw [hint] at hinted fits
    split at hinted
    · exact hinted rfl
    · rename_i other
      rw [if_neg other, unescape_slash, decodes] at fits
      exact changed (Option.some.inj fits).symm
  rw [requestURI, escaped]
  apply if_neg
  split
  · decide
  · exact escape_ne_nil some_path

lemma segments_slash (s : GoString) : segments (47 :: s) = some (s.splitOn 47) := rfl

lemma splitOn_inj {s t : GoString} (same : s.splitOn 47 = t.splitOn 47) : s = t := by
  have joined := congrArg (List.intercalate [47]) same
  rwa [List.intercalate_splitOn, List.intercalate_splitOn] at joined

/-- Without a strip the path is left as it is. -/
lemma forwards_kept {route : Route} {s d : GoString}
    (dropped : (if route.stripPath then route.segments else []) = []) :
    Forwards (47 :: s) (if validEncoded .path (47 :: s) then 47 :: s else 47 :: escape .path d)
        route ↔ validEncoded .path (47 :: s) = true := by
  constructor
  · intro forwards
    by_contra malformed
    obtain ⟨front, kept, split, decoded, sent⟩ := forwards _ (segments_slash s)
    rw [dropped, List.map_nil, List.map_eq_nil_iff] at decoded
    rw [decoded, List.nil_append] at split
    have some_kept : kept ≠ [] := split ▸ List.splitOn_ne_nil 47 s
    rw [if_neg malformed, segments_slash, if_neg some_kept, ← split] at sent
    rw [← splitOn_inj (Option.some.inj sent), ← escape_slash] at malformed
    exact malformed (validEncoded_escape _)
  · intro valid segs sent
    rw [segments_slash] at sent
    cases sent
    refine ⟨[], s.splitOn 47, rfl, by rw [dropped]; rfl, ?_⟩
    rw [if_pos valid, segments_slash, if_neg (List.splitOn_ne_nil 47 s)]

/-- The default encoding of a path begins with a slash only where the path does. -/
lemma segments_escape {path : GoString} {segs : List GoString} (some_path : path ≠ [])
    (sent : segments (escape .path path) = some segs) :
    ∃ d, path = 47 :: d ∧ segs = (escape .path d).splitOn 47 := by
  match path with
  | [] => exact absurd rfl some_path
  | c :: d =>
    by_cases slash : c = 47
    · subst slash
      rw [escape_slash, segments_slash] at sent
      exact ⟨d, rfl, (Option.some.inj sent).symm⟩
    · rw [escape_cons] at sent
      split at sent
      · cases sent
      · change (if c = 47 then _ else none) = some segs at sent
        rw [if_neg slash] at sent
        cases sent

/-- A strip of the root leaves a path that is not rooted, or a shorter one. -/
lemma forwards_root {route : Route} {s d : GoString} (decodes : unescape .path s = some d)
    (strip : route.stripPath = true) (root : route.path = lit "/") :
    Forwards (47 :: s) (requestURI ⟨route.rewrite (47 :: d), hint s d⟩) route ↔ s = [] := by
  have dropped : (if route.stripPath then route.segments else []) = [] := by
    rw [if_pos strip, Route.segments, if_pos (.inr root)]
  have trimmed : trimPrefix (47 :: d) route.path = d := by
    rw [root]
    exact trimPrefix_append [47] d
  have rewritten : route.rewrite (47 :: d) = if d = [] then lit "/" else d := by
    rw [Route.rewrite, if_pos strip, trimmed]
  constructor
  · intro forwards
    by_contra longer
    have some_byte : d ≠ [] := by
      rintro rfl
      exact longer (unescape_eq_nil decodes)
    have changed : d ≠ 47 :: d := fun same => by simpa using congrArg List.length same
    obtain ⟨front, kept, split, decoded, sent⟩ := forwards _ (segments_slash s)
    rw [dropped, List.map_nil, List.map_eq_nil_iff] at decoded
    rw [decoded, List.nil_append] at split
    have some_kept : kept ≠ [] := split ▸ List.splitOn_ne_nil 47 s
    rw [rewritten, if_neg some_byte, requestURI_changed decodes changed some_byte,
      if_neg some_kept, ← split] at sent
    split at sent
    · have nothing : segments (lit "*") = none := rfl
      rw [nothing] at sent
      cases sent
    · obtain ⟨d', rfl, same⟩ := segments_escape some_byte sent
      rw [splitOn_inj same, unescape_escape] at decodes
      simpa using congrArg List.length (Option.some.inj decodes)
  · rintro rfl
    cases decodes
    intro segs sent
    rw [segments_slash] at sent
    cases sent
    refine ⟨[], _, rfl, by rw [dropped]; rfl, ?_⟩
    rw [rewritten, if_pos rfl]
    rfl

/-- What follows a longer prefix is sent in the default encoding. -/
lemma requestURI_stripped {route : Route} {s d : GoString} (decodes : unescape .path s = some d)
    (matched : route.matchesPath (47 :: d) = true) (strip : route.stripPath = true)
    (some_path : route.path ≠ []) (other : route.path ≠ lit "/") :
    ∃ p rest, route.path = 47 :: p ∧ d = p ++ rest ∧
      (rest = [] ∧ requestURI ⟨route.rewrite (47 :: d), hint s d⟩ = lit "/" ∨
        ∃ e, rest = 47 :: e ∧
          requestURI ⟨route.rewrite (47 :: d), hint s d⟩ = 47 :: escape .path e) := by
  obtain ⟨rest, split, rooted⟩ : ∃ rest, 47 :: d = route.path ++ rest ∧
      (rest = [] ∨ ∃ e, rest = 47 :: e) := by
    rcases (matchesPath_cases matched).resolve_left other with same | ⟨e, split⟩
    · exact ⟨[], by rw [List.append_nil, same], .inl rfl⟩
    · exact ⟨_, split, .inr ⟨e, rfl⟩⟩
  obtain ⟨c, p, prefixed⟩ := List.exists_cons_of_ne_nil some_path
  rw [prefixed, List.cons_append] at split
  obtain ⟨rfl, rfl⟩ := List.cons.inj split
  have rewritten : route.rewrite (47 :: (p ++ rest)) = if rest = [] then lit "/" else rest := by
    have trimmed := trimPrefix_append (47 :: p) rest
    rw [List.cons_append] at trimmed
    rw [Route.rewrite, if_pos strip, prefixed, trimmed]
  refine ⟨p, rest, prefixed, rfl, ?_⟩
  rcases rooted with rfl | ⟨e, rfl⟩
  · refine .inl ⟨rfl, ?_⟩
    have changed : lit "/" ≠ 47 :: (p ++ []) := by
      rw [List.append_nil, ← prefixed]
      exact other.symm
    rw [rewritten, if_pos rfl, requestURI_changed decodes changed (by decide)]
    rfl
  · refine .inr ⟨e, rfl, ?_⟩
    have changed : 47 :: e ≠ 47 :: (p ++ 47 :: e) := fun same => by
      have lengths := congrArg List.length same
      simp only [List.length_cons, List.length_append] at lengths
      omega
    rw [rewritten, if_neg (List.cons_ne_nil _ _),
      requestURI_changed decodes changed (List.cons_ne_nil _ _), if_neg slash_ne_star, escape_slash]

/-- A strip of a longer prefix leaves what follows it in the default encoding. -/
lemma forwards_stripped {route : Route} {s d : GoString} (decodes : unescape .path s = some d)
    (matched : route.matchesPath (47 :: d) = true) (strip : route.stripPath = true)
    (some_path : route.path ≠ []) (other : route.path ≠ lit "/") :
    Forwards (47 :: s) (requestURI ⟨route.rewrite (47 :: d), hint s d⟩) route ↔
      ∃ front rest, 47 :: s = front ++ escape .path rest ∧
        unescape .path front = some route.path ∧ front.count 47 = route.path.count 47 := by
  obtain ⟨p, rest, prefixed, rfl, sent⟩ :=
    requestURI_stripped decodes matched strip some_path other
  have dropped : (if route.stripPath then route.segments else []) = p.splitOn 47 := by
    rw [if_pos strip, Route.segments, if_neg (by simp [some_path, other]), prefixed]
    rfl
  rw [Forwards, dropped, prefixed]
  constructor
  · intro forwards
    obtain ⟨front, kept, split, decoded, upstream⟩ := forwards _ (segments_slash s)
    have some_front : front ≠ [] := by
      rintro rfl
      exact List.splitOn_ne_nil 47 p (List.map_eq_nil_iff.mp decoded.symm)
    have pieces : ([47].intercalate front).splitOn 47 = front :=
      List.splitOn_intercalate 47
        (fun piece member => slash_free (split ▸ List.mem_append_left kept member)) some_front
    rw [← pieces] at decoded
    obtain ⟨front_decodes, count⟩ := segments_decode.mp decoded
    have joined : [47].intercalate (s.splitOn 47) = s := List.intercalate_splitOn 47
    refine ⟨47 :: [47].intercalate front, rest, ?_, ?_, ?_⟩
    · by_cases nothing : kept = []
      · have all : s = [47].intercalate front := by
          rw [← joined, split, nothing, List.append_nil]
        have ends : rest = [] := by
          rw [all, front_decodes] at decodes
          exact List.append_right_eq_self.mp (Option.some.inj decodes).symm
        rw [all, ends]
        exact (List.append_nil _).symm
      · have all : s = [47].intercalate front ++ 47 :: [47].intercalate kept := by
          rw [← joined, split, join_append some_front nothing]
        rw [all, unescape_append front_decodes, unescape_slash] at decodes
        obtain ⟨x, later, same⟩ := Option.map_eq_some_iff.mp decodes
        obtain ⟨e, later, rfl⟩ := Option.map_eq_some_iff.mp later
        cases List.append_cancel_left same
        rcases sent with ⟨empty, -⟩ | ⟨e', same', sent⟩
        · cases empty
        · cases same'
          rw [sent, segments_slash, if_neg nothing] at upstream
          rw [all, ← Option.some.inj upstream, List.intercalate_splitOn, escape_slash]
          rfl
    · rw [unescape_slash, front_decodes]
      rfl
    · rw [List.count_cons_self, List.count_cons_self, count]
  · rintro ⟨front, rest', split, front_decodes, count⟩
    match front with
    | [] => cases front_decodes
    | c :: front =>
      obtain ⟨rfl, rfl⟩ := List.cons.inj split
      rw [unescape_slash] at front_decodes
      obtain ⟨p', front_decodes, same⟩ := Option.map_eq_some_iff.mp front_decodes
      cases same
      rw [List.count_cons_self, List.count_cons_self, Nat.add_right_cancel_iff] at count
      have decoded := segments_decode.mpr ⟨front_decodes, count⟩
      rw [List.append_eq, unescape_append front_decodes, unescape_escape] at decodes
      cases List.append_cancel_left (Option.some.inj decodes)
      intro segs raw_segs
      rw [segments_slash] at raw_segs
      cases raw_segs
      rcases sent with ⟨rfl, sent⟩ | ⟨e, rfl, sent⟩
      · refine ⟨_, [], ?_, decoded, ?_⟩
        · rw [List.append_nil]
          exact congrArg (List.splitOn 47) (List.append_nil front)
        · rw [sent]
          rfl
      · refine ⟨_, (escape .path e).splitOn 47, ?_, decoded, ?_⟩
        · rw [escape_slash]
          exact List.splitOn_append_cons_self front _
        · rw [sent, segments_slash, if_neg (List.splitOn_ne_nil 47 _)]

/-- A star has no segments, and is kept. -/
lemma forwards_star {route : Route} (matched : route.matchesPath (lit "*") = true)
    (upstream : GoString) : Forwards (lit "*") upstream route ↔ Preserved (lit "*") route := by
  refine iff_of_true (fun segs sent => ?_) ?_
  · have nothing : segments (lit "*") = none := rfl
    rw [nothing] at sent
    cases sent
  · rw [Preserved]
    split_ifs with whole root
    · decide
    · exact .inr (.inl rfl)
    · rcases (matchesPath_cases matched).resolve_left root with same | ⟨rest, split⟩
      · rw [← same]
        exact ⟨lit "*", [], rfl, rfl, rfl⟩
      · match prefixed : route.path, split with
        | [], _ => exact absurd (.inr prefixed) whole
        | [_], split => cases (List.cons.inj split).2

/-- The empty path is forwarded as the root. -/
lemma forwards_empty {route : Route} (matched : route.matchesPath [] = true) :
    Forwards [] (requestURI { path := route.rewrite [] }) route ↔ Preserved [] route := by
  have short : route.path = [] ∨ route.path = lit "/" := by
    rcases matchesPath_cases matched with root | same | ⟨rest, split⟩
    · exact .inr root
    · exact .inl same.symm
    · exact absurd split (by simp)
  refine iff_of_true (fun segs sent => ?_) ?_
  · cases sent
    have no_segments : route.segments = [] := if_pos short
    have trimmed : trimPrefix [] route.path = [] := by
      rw [trimPrefix, List.drop_nil, ite_self]
    have rewritten : route.rewrite [] = lit "/" ∨ route.rewrite [] = [] := by
      rw [Route.rewrite, trimmed, if_pos rfl]
      split
      · exact .inl rfl
      · exact .inr rfl
    refine ⟨[], [[]], rfl, by rw [no_segments, ite_self]; rfl, ?_⟩
    rcases rewritten with root | nothing
    · rw [root]
      rfl
    · rw [nothing]
      rfl
  · rw [Preserved]
    split_ifs with whole root
    · rfl
    · exact .inl rfl
    · exact absurd short (by simp_all)

lemma forwards_rewrite {route : Route} {raw : GoString} {u : URLPath}
    (parsed : parseRequestPath raw = some u) (matched : route.matchesPath u.path = true) :
    Forwards raw (requestURI { u with path := route.rewrite u.path }) route ↔
      Preserved raw route := by
  obtain ⟨rfl, rfl⟩ | ⟨rfl, rfl⟩ | ⟨s, d, rfl, decodes, rfl⟩ := parseRequestPath_cases parsed
  · exact forwards_star matched _
  · exact forwards_empty matched
  · by_cases whole : route.stripPath = false ∨ route.path = []
    · have dropped : (if route.stripPath then route.segments else []) = [] := by
        rcases whole with kept | nothing
        · rw [kept]
          rfl
        · have no_segments : route.segments = [] := if_pos (.inl nothing)
          rw [no_segments, ite_self]
      have rewritten : route.rewrite (47 :: d) = 47 :: d := by
        rcases whole with kept | nothing
        · rw [Route.rewrite, kept]
          rfl
        · have trimmed := trimPrefix_append [] (47 :: d)
          rw [List.nil_append] at trimmed
          rw [Route.rewrite, nothing, trimmed, if_neg (List.cons_ne_nil _ _), ite_self]
      rw [rewritten, requestURI_kept decodes, Preserved, if_pos whole]
      exact forwards_kept dropped
    · rw [Preserved, if_neg whole]
      rw [not_or, Bool.not_eq_false] at whole
      by_cases root : route.path = lit "/"
      · rw [if_pos root, forwards_root decodes whole.1 root]
        simp only [reduceCtorEq, slash_ne_star, false_or]
        exact ⟨fun nothing => by rw [nothing]; rfl, fun same => (List.cons.inj same).2⟩
      · rw [if_neg root]
        exact forwards_stripped decodes matched whole.1 whole.2 root

/-- The raw segments of the client's path reach the upstream exactly when the encoding survives. -/
theorem forwards_iff {ρ : Type} [Regexp ρ] {r : Router ρ} {hostname raw : GoString} {u : URLPath}
    {res : ResolveResult} (parsed : parseRequestPath raw = some u)
    (answered : (r.resolve hostname u.path).1 = some res) :
    Forwards raw (requestURI (director res u)) res.route ↔ Preserved raw res.route := by
  obtain ⟨matched, rewritten⟩ := Router.resolve_rewritten answered
  rw [director, rewritten]
  exact forwards_rewrite parsed matched

/-- A route that strips its prefix. -/
def stripsApi : Route where
  hostname := lit "a"
  path := lit "/api"
  target := lit "http://b"
  stripPath := true

/-- The router of that route. -/
def apiStripper : Router Empty := Router.new.update .stored [stripsApi]

/-- What the router answers for `/api/a/b`, however it is encoded. -/
def stripped : ResolveResult where
  target := lit "http://b"
  rewrittenPath := lit "/a/b"
  route := stripsApi

/-- An encoded slash behind a stripped prefix becomes a separator. -/
theorem encoded_slash_split :
    ∃ u res, parseRequestPath (lit "/api/a%2Fb") = some u ∧
      (apiStripper.resolve (lit "a") u.path).1 = some res ∧
      requestURI (director res u) = lit "/a/b" ∧
      ¬ Forwards (lit "/api/a%2Fb") (requestURI (director res u)) res.route := by
  refine ⟨⟨lit "/api/a/b", lit "/api/a%2Fb"⟩, stripped, by decide, by decide, by decide, ?_⟩
  intro forwards
  obtain ⟨front, kept, split, decoded, upstream⟩ := forwards [lit "api", lit "a%2Fb"] (by decide)
  have two : segments (requestURI (director stripped ⟨lit "/api/a/b", lit "/api/a%2Fb"⟩)) =
      some [lit "a", lit "b"] := by decide
  rw [two] at upstream
  have lengths := congrArg List.length decoded
  have lengths' := congrArg List.length split
  have one : (if stripped.route.stripPath then stripped.route.segments else []).length = 1 := by
    decide
  simp only [List.length_map, one, List.length_append, List.length_cons, List.length_nil]
    at lengths lengths'
  have some_kept : kept ≠ [] := by
    rintro rfl
    rw [List.length_nil] at lengths'
    omega
  rw [if_neg some_kept] at upstream
  rw [← Option.some.inj upstream] at lengths'
  simp only [List.length_cons, List.length_nil] at lengths'
  omega

theorem forwards_plain :
    ∃ u res, parseRequestPath (lit "/api/a/b") = some u ∧
      (apiStripper.resolve (lit "a") u.path).1 = some res ∧
      Forwards (lit "/api/a/b") (requestURI (director res u)) res.route := by
  have answered : (apiStripper.resolve (lit "a") (lit "/api/a/b")).1 = some stripped := by decide
  have parsed : parseRequestPath (lit "/api/a/b") = some { path := lit "/api/a/b" } := by decide
  refine ⟨_, stripped, parsed, answered, (forwards_iff parsed answered).mpr ?_⟩
  exact ⟨lit "/api", lit "/a/b", by decide, by decide, by decide⟩

end Pintle
