import Pintle.Go.Header

/-!
# The headers of a forwarded request

Model of what the `Director` of `internal/proxy/proxy.go` does to the header of a request, with
`restoreWebSocketHeaderCase`. It sets three headers that tell the upstream about the client, and gives
the WebSocket headers back the case of RFC 6455, which takes the map out of Go's canonical form and
makes five of its keys unreachable for `Header.Get`. What it leaves is still the header of the request
to a recipient that compares names as HTTP does (`director_headers`). What `ReverseProxy` does to the
header after the `Director` is not modelled.
-/

namespace Pintle
open Go

/-- Go `wsHeaderCanonicalToRFC`. -/
def wsHeaderCanonicalToRFC : GoMap GoString GoString :=
  ((((AList.singleton (lit "Sec-Websocket-Key") (lit "Sec-WebSocket-Key")).insert
    (lit "Sec-Websocket-Version") (lit "Sec-WebSocket-Version")).insert
    (lit "Sec-Websocket-Extensions") (lit "Sec-WebSocket-Extensions")).insert
    (lit "Sec-Websocket-Protocol") (lit "Sec-WebSocket-Protocol")).insert
    (lit "Sec-Websocket-Accept") (lit "Sec-WebSocket-Accept")

/-- Go `restoreWebSocketHeaderCase`. -/
def restoreWebSocketHeaderCase (ord : RangeOrder (GoString × GoString)) (h : Header) : Header :=
  (ord.visit wsHeaderCanonicalToRFC.pairs).foldl GoMap.rename h

/-- Go `Header.Set`. -/
def Go.Header.set (h : Header) (key value : GoString) : Header :=
  h.insert (canonicalMIMEHeaderKey key) [value]

/-- The header that the `Director` of Go `ServeHTTP` makes of a request's. -/
def directorHeaders (ord : RangeOrder (GoString × GoString)) (remoteAddr hostname : GoString)
    (h : Header) : Header :=
  restoreWebSocketHeaderCase ord
    (((h.set (lit "X-Forwarded-For") remoteAddr).set (lit "X-Forwarded-Proto") (lit "https")).set
      (lit "X-Forwarded-Host") hostname)

/-- What a recipient reads under a name: what the `Director` sets, and what the client sent. -/
def forwardedValues (remoteAddr hostname : GoString) (h : Header) (name : GoString) :
    List GoString :=
  if headerName name = headerName (lit "X-Forwarded-Host") then [hostname]
  else if headerName name = headerName (lit "X-Forwarded-Proto") then [lit "https"]
  else if headerName name = headerName (lit "X-Forwarded-For") then [remoteAddr]
  else h.named name

namespace Go.Header
variable {h : Header} {ord : RangeOrder (GoString × GoString)}

/-- The keys of the table are the canonical ones, and the others are not. -/
lemma mem_wsHeader {canonical rfc : GoString}
    (member : (canonical, rfc) ∈ wsHeaderCanonicalToRFC.pairs) :
    ¬ CanonicalKey rfc ∧ headerName rfc = headerName canonical := by
  have all : ∀ pair ∈ wsHeaderCanonicalToRFC.pairs,
      ¬ CanonicalKey pair.2 ∧ headerName pair.2 = headerName pair.1 := by decide +kernel
  exact all _ member

/-- What `restoreWebSocketHeaderCase` leaves under a key, in every order of its loop. -/
lemma lookup_restore (k : GoString) : (restoreWebSocketHeaderCase ord h).lookup k =
    if k ∈ wsHeaderCanonicalToRFC.pairs.map Prod.fst then none
    else match wsHeaderCanonicalToRFC.pairs.find? (·.2 = k) with
      | none => h.lookup k
      | some pair => (h.lookup pair.1).or (h.lookup k) := by
  have apart : (wsHeaderCanonicalToRFC.pairs.map Prod.fst ++
      wsHeaderCanonicalToRFC.pairs.map Prod.snd).Nodup := by decide +kernel
  have visited := ord.perm wsHeaderCanonicalToRFC.pairs
  have apart' := ((visited.map Prod.fst).append (visited.map Prod.snd)).nodup_iff.mpr apart
  have single := (List.nodup_append.mp apart).2.1
  have found : (ord.visit wsHeaderCanonicalToRFC.pairs).find? (·.2 = k) =
      wsHeaderCanonicalToRFC.pairs.find? (·.2 = k) := by
    refine find?_perm visited id ?_
    intro pair member pair' member' same same'
    rw [decide_eq_true_eq] at same same'
    rw [List.inj_on_of_nodup_map single (visited.mem_iff.mp member) (visited.mem_iff.mp member')
      (same.trans same'.symm)]
  rw [restoreWebSocketHeaderCase, GoMap.lookup_renames apart' h k, found]
  by_cases old : k ∈ wsHeaderCanonicalToRFC.pairs.map Prod.fst
  · rw [if_pos old, if_pos ((visited.map Prod.fst).mem_iff.mpr old)]
  · rw [if_neg old, if_neg (mt (visited.map Prod.fst).mem_iff.mp old)]
    cases wsHeaderCanonicalToRFC.pairs.find? (·.2 = k) <;> rfl

/-- A header that is left was there, under its own key or under the canonical one. -/
lemma Received.restored (received : h.Received) {k : GoString} {values : List GoString}
    (stored : (restoreWebSocketHeaderCase ord h).lookup k = some values) :
    ∃ k', h.lookup k' = some values ∧ headerName k' = headerName k ∧
      (k' = k ∨ (k', k) ∈ wsHeaderCanonicalToRFC.pairs) := by
  rw [lookup_restore] at stored
  split at stored
  · cases stored
  · split at stored
    · exact ⟨k, stored, rfl, .inl rfl⟩
    · rename_i pair found
      have member := List.mem_of_find?_eq_some found
      obtain rfl : pair.2 = k := by simpa using List.find?_some found
      obtain ⟨foreign, same⟩ := mem_wsHeader member
      -- a received header is not under the key of the RFC
      cases absent : h.lookup pair.2 with
      | some values' => exact absurd (received _ _ absent) foreign
      | none =>
        rw [absent, Option.or_none] at stored
        exact ⟨pair.1, stored, same.symm, .inr member⟩

/-- The order of the loop does not matter. -/
lemma restore_order (ord ord' : RangeOrder (GoString × GoString)) (k : GoString) :
    (restoreWebSocketHeaderCase ord h).lookup k = (restoreWebSocketHeaderCase ord' h).lookup k := by
  rw [lookup_restore, lookup_restore]

/-- A header of the table is moved to its key of the RFC. -/
lemma Received.restore_table (received : h.Received) {canonical rfc : GoString}
    (member : (canonical, rfc) ∈ wsHeaderCanonicalToRFC.pairs) :
    (restoreWebSocketHeaderCase ord h).lookup rfc = h.lookup canonical := by
  have single : ∀ pair ∈ wsHeaderCanonicalToRFC.pairs,
      pair.2 ∉ wsHeaderCanonicalToRFC.pairs.map Prod.fst ∧
        wsHeaderCanonicalToRFC.pairs.find? (·.2 = pair.2) = some pair := by decide +kernel
  obtain ⟨fresh, found⟩ := single _ member
  rw [lookup_restore, if_neg fresh, found]
  cases absent : h.lookup rfc with
  | some values => exact absurd (received _ _ absent) (mem_wsHeader member).1
  | none => exact Option.or_none

/-- A header that was there is left, under one key or the other. -/
lemma Received.kept (received : h.Received) (ord : RangeOrder (GoString × GoString)) {k : GoString}
    {values : List GoString} (stored : h.lookup k = some values) :
    ∃ k', (restoreWebSocketHeaderCase ord h).lookup k' = some values ∧
      headerName k' = headerName k := by
  by_cases old : k ∈ wsHeaderCanonicalToRFC.pairs.map Prod.fst
  · obtain ⟨⟨canonical, rfc⟩, member, rfl⟩ := List.mem_map.mp old
    exact ⟨rfc, (received.restore_table member).trans stored, (mem_wsHeader member).2⟩
  · refine ⟨k, ?_, rfl⟩
    rw [lookup_restore, if_neg old]
    split
    · exact stored
    · rename_i pair found
      obtain rfl : pair.2 = k := by simpa using List.find?_some found
      exact absurd (received _ _ stored) (mem_wsHeader (List.mem_of_find?_eq_some found)).1

/-- Two keys that are left are not one name. -/
lemma Received.restored_distinct (received : h.Received) :
    (restoreWebSocketHeaderCase ord h).Distinct := by
  intro k values k' values' stored stored' same
  obtain ⟨from_, was, name, how⟩ := received.restored stored
  obtain ⟨from', was', name', how'⟩ := received.restored stored'
  obtain rfl := received.distinct _ _ _ _ was was' ((name.trans same).trans name'.symm)
  have gone {k : GoString} {values : List GoString}
      (stored : (restoreWebSocketHeaderCase ord h).lookup k = some values) :
      k ∉ wsHeaderCanonicalToRFC.pairs.map Prod.fst := by
    intro old
    rw [lookup_restore, if_pos old] at stored
    cases stored
  rcases how with rfl | moved <;> rcases how' with rfl | moved'
  · rfl
  · exact absurd (List.mem_map_of_mem (f := Prod.fst) moved') (gone stored)
  · exact absurd (List.mem_map_of_mem (f := Prod.fst) moved) (gone stored')
  · rw [GoMap.mem_pairs] at moved moved'
    exact Option.some.inj (moved.symm.trans moved')

/-- What a recipient reads is not changed. -/
lemma Received.named_restore (received : h.Received) (name : GoString) :
    (restoreWebSocketHeaderCase ord h).named name = h.named name := by
  by_cases there : ∃ k values, h.lookup k = some values ∧ headerName k = headerName name
  · obtain ⟨k, values, stored, same⟩ := there
    obtain ⟨k', kept, name'⟩ := received.kept ord stored
    rw [named_stored received.distinct stored same,
      named_stored received.restored_distinct kept (name'.trans same)]
  · rw [named_missing, named_missing]
    · exact fun k values stored same => there ⟨k, values, stored, same⟩
    · intro k values stored same
      obtain ⟨k', was, name', _⟩ := received.restored stored
      exact there ⟨k', values, was, name'.trans same⟩

end Go.Header

/-- The header that the `Director` leaves, of a request whose header a server received and in every order
of the loop over the table:
it does not depend on the order;
no two of its keys are one name, so that nothing is there twice;
under the three `X-Forwarded` names a recipient reads what the `Director` sets, whatever the client
sent under them, and under every other name what the client sent;
and the WebSocket headers are under the keys of the RFC, none under Go's. -/
theorem director_headers {h : Header} (received : h.Received) (remoteAddr hostname : GoString)
    (ord : RangeOrder (GoString × GoString)) :
    let out := directorHeaders ord remoteAddr hostname h
    (∀ ord' k, (directorHeaders ord' remoteAddr hostname h).lookup k = out.lookup k) ∧
    out.Distinct ∧
    (∀ name, out.named name = forwardedValues remoteAddr hostname h name) ∧
    ∀ canonical rfc, (canonical, rfc) ∈ wsHeaderCanonicalToRFC.pairs →
      out.lookup canonical = none ∧ out.lookup rfc = h.lookup canonical := by
  intro out
  have canonical_for : CanonicalKey (lit "X-Forwarded-For") := by decide +kernel
  have canonical_proto : CanonicalKey (lit "X-Forwarded-Proto") := by decide +kernel
  have canonical_host : CanonicalKey (lit "X-Forwarded-Host") := by decide +kernel
  have received_for := received.set canonical_for [remoteAddr]
  have received_proto := received_for.set canonical_proto [lit "https"]
  have received_all := received_proto.set canonical_host [hostname]
  have same : out = restoreWebSocketHeaderCase ord
      (((h.insert (lit "X-Forwarded-For") [remoteAddr]).insert (lit "X-Forwarded-Proto")
        [lit "https"]).insert (lit "X-Forwarded-Host") [hostname]) := by
    rw [← canonical_for.fixed, ← canonical_proto.fixed, ← canonical_host.fixed]
    rfl
  refine ⟨?_, ?_, ?_, ?_⟩
  · intro ord' k
    rw [directorHeaders, Header.restore_order ord' ord]
    rfl
  · rw [same]
    exact received_all.restored_distinct
  · intro name
    rw [same, received_all.named_restore, received_proto.named_set canonical_host,
      received_for.named_set canonical_proto, received.named_set canonical_for]
    rfl
  · intro canonical rfc member
    have apart : ∀ pair ∈ wsHeaderCanonicalToRFC.pairs,
        pair.1 ≠ lit "X-Forwarded-Host" ∧ pair.1 ≠ lit "X-Forwarded-Proto" ∧
          pair.1 ≠ lit "X-Forwarded-For" := by decide +kernel
    obtain ⟨host, proto, for_⟩ := apart _ member
    rw [same, received_all.restore_table member, AList.lookup_insert_ne host,
      AList.lookup_insert_ne proto, AList.lookup_insert_ne for_, Header.lookup_restore,
      if_pos (List.mem_map_of_mem (f := Prod.fst) member)]
    exact ⟨rfl, rfl⟩

/-- The header of an upgrade by a client that claims another address. -/
def upgradeHeader : Header :=
  (AList.singleton (lit "Sec-Websocket-Key") [lit "dGhlIHNhbXBsZQ=="]).insert
    (lit "X-Forwarded-For") [lit "10.0.0.66"]

theorem director_headers_upgrade :
    let out := directorHeaders .stored (lit "192.0.2.7:4711") (lit "a.lvh.me") upgradeHeader
    out.lookup (lit "Sec-WebSocket-Key") = some [lit "dGhlIHNhbXBsZQ=="] ∧
      out.named (lit "x-forwarded-for") = [lit "192.0.2.7:4711"] := by
  have canonical : ∀ entry ∈ upgradeHeader.pairs, CanonicalKey entry.1 := by decide +kernel
  have received : upgradeHeader.Received := fun k values stored =>
    canonical (k, values) (GoMap.mem_pairs.mpr stored)
  obtain ⟨_, _, named, table⟩ :=
    director_headers received (lit "192.0.2.7:4711") (lit "a.lvh.me") .stored
  refine ⟨?_, ?_⟩
  · rw [(table (lit "Sec-Websocket-Key") (lit "Sec-WebSocket-Key") (by decide +kernel)).2]
    decide +kernel
  · rw [named]
    decide +kernel

end Pintle
