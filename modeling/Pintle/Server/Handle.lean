import Pintle.Provider
import Pintle.Server.ClientHello

/-!
# Routing a connection by its first read

Model of `handleConnection` of `internal/server/sni.go` and of `internal/server/tcp.go`, up to the
point where the connection is handed to a target or to the TLS handshake. A connection is the list
of segments that successive reads find (`Conn`). What `crypto/tls` makes of a certificate is a
parameter, and so are the forward targets' functions.

Both handlers decide after one read into 16384 bytes. `handle_segmented` says exactly when a record
that comes in several segments is routed as the whole record would be.
-/

namespace Pintle
open Go

/-- The segments that successive reads of a connection find. -/
abbrev Conn := List (List UInt8)

/-- Go `client.Read(buf)` into a buffer of `size` bytes: the next segment, or the part that fits. -/
def Conn.read (size : Nat) : Conn → Option (List UInt8)
  | [] => none
  | segment :: _ => some (segment.take size)

/-- Go `SNIForwardTarget`, with the address it resolves to at the time of the call. -/
structure SNIForwardTarget (α : Type) where
  matchHost : GoString → Bool
  resolve : Option α

/-- Go `SNIRouter`, without its port and base domain. -/
structure SNIRouter (α : Type) where
  localTarget : α
  forwardTargets : List (SNIForwardTarget α)
  hasLocalRoute : Option (GoString → Bool)

namespace SNIRouter
variable {α : Type}

/-- Go `s.HasLocalRoute != nil && s.HasLocalRoute(sni)`. -/
def hasLocal (s : SNIRouter α) (sni : GoString) : Bool :=
  match s.hasLocalRoute with
  | none => false
  | some hasLocalRoute => hasLocalRoute sni

/-- The loop over the forward targets: the first that matches decides. -/
def forward (s : SNIRouter α) (sni : GoString) : List (SNIForwardTarget α) → α
  | [] => s.localTarget
  | ft :: rest =>
    if ft.matchHost sni then
      match ft.resolve with
      | some target => target
      | none => s.localTarget -- target unavailable
    else s.forward sni rest

/-- The target of a server name. -/
def target (s : SNIRouter α) (sni : GoString) : α :=
  if sni ≠ [] then
    if s.hasLocal sni then s.localTarget
    else s.forward sni s.forwardTargets
  else s.localTarget

/-- Go `SNIRouter.handleConnection`: the target the connection is piped to and the data sent first,
or nothing when the connection is closed. -/
def handleConnection (s : SNIRouter α) (client : Conn) : Except Panic (Option (α × List UInt8)) :=
  match client.read 16384 with
  | none => .ok none
  | some data => do
    let sni ← parseSNI data
    return some (s.target sni, data)

end SNIRouter

/-- Go `TCPCert`. -/
structure TCPCert where
  cert : List UInt8
  key : List UInt8
  domain : GoString

/-- Whether a certificate is for a hostname. -/
def TCPCert.covers (cert : TCPCert) (hostname : GoString) : Bool :=
  hasSuffix hostname (lit "." ++ cert.domain) || hostname = cert.domain

/-- Go `TCPRouter`, with the routes `getRoutes` returns at the time of the call. -/
structure TCPRouter where
  certs : List TCPCert
  getRoutes : List TcpRoute

/-- The lookup condition of a TCP route. -/
def TcpRoute.serves (route : TcpRoute) (port : Int) (sni : GoString) : Bool :=
  route.listenPort = port && route.hostname = sni

namespace TCPRouter

/-- Go `findCert`. -/
def findCert (t : TCPRouter) (hostname : GoString) : Option TCPCert :=
  t.certs.find? (·.covers hostname)

/-- The route lookup of Go `TCPRouter.handleConnection`. -/
def findRoute (t : TCPRouter) (port : Int) (sni : GoString) : Option TcpRoute :=
  t.getRoutes.find? (·.serves port sni)

variable {κ : Type} (keyPair : List UInt8 → List UInt8 → Option κ)

/-- The route and the key pair of a server name, or nothing when the connection is refused. -/
def select (t : TCPRouter) (port : Int) (sni : GoString) : Option (TcpRoute × κ) :=
  if sni = [] then none
  else
    match t.findRoute port sni with
    | none => none
    | some route =>
      match t.findCert sni with
      | none => none
      | some cert =>
        match keyPair cert.cert cert.key with
        | none => none
        | some tlsCert => some (route, tlsCert)

/-- Go `TCPRouter.handleConnection`, up to the TLS handshake (`tls.X509KeyPair` is `keyPair`). -/
def handleConnection (t : TCPRouter) (port : Int) (client : Conn) :
    Except Panic (Option (TcpRoute × κ)) :=
  match client.read 16384 with
  | none => .ok none
  | some data => do
    let sni ← parseSNI data
    return t.select keyPair port sni

end TCPRouter

/-- A TLS record with a handshake message. -/
structure HandshakeRecord where
  version : Vector UInt8 2
  payload : List UInt8
  nonempty : payload ≠ []
  fits : payload.length ≤ 2 ^ 14

namespace HandshakeRecord

/-- The bytes of a record. -/
def encode (record : HandshakeRecord) : List UInt8 :=
  0x16 :: (record.version.toList ++ (putUint16 record.payload.length ++ record.payload))

/-- The name `ParseSNI` finds in the whole record. -/
def name (record : HandshakeRecord) : GoString :=
  match parseSNI record.encode with
  | .ok name => name
  | .error _ => []

lemma length_encode (record : HandshakeRecord) :
    record.encode.length = 5 + record.payload.length := by
  simp [encode]
  omega

/-- A record is not empty, so parsing it ends. -/
lemma parse_encode (record : HandshakeRecord) : parseSNI record.encode = .ok record.name := by
  have long : ¬ EmptyRecord record.encode := by
    intro bounds
    obtain ⟨length, _⟩ := bounds
    have payload := List.length_pos_iff.mpr record.nonempty
    rw [record.length_encode] at length
    omega
  obtain ⟨name, ends⟩ := parseSNI_nonempty long
  rw [HandshakeRecord.name, ends]

/-- The five bytes before the payload. -/
def header (record : HandshakeRecord) : List UInt8 :=
  0x16 :: (record.version.toList ++ putUint16 record.payload.length)

lemma length_header (record : HandshakeRecord) : record.header.length = 5 := by
  simp [header]

lemma encode_eq (record : HandshakeRecord) : record.encode = record.header ++ record.payload := by
  simp [encode, header]

/-- A proper part of a record has no name: it is shorter than a header, or than its header declares.
-/
lemma parse_part (record : HandshakeRecord) {data rest : List UInt8}
    (split : record.encode = data ++ rest) (part : rest ≠ []) : parseSNI data = .ok [] := by
  have length := congrArg List.length split
  have missing := List.length_pos_iff.mpr part
  have fits := record.fits
  rw [record.length_encode, List.length_append] at length
  unfold parseSNI
  by_cases short : data.length < 5
  · rw [if_pos short]
    rfl
  · obtain ⟨front, complete⟩ : ∃ front, data = record.header ++ front := by
      have five := record.length_header
      rw [record.encode_eq, List.append_eq_append_iff] at split
      rcases split with ⟨front, data_eq, _⟩ | ⟨missing, header_eq, _⟩
      · exact ⟨front, data_eq⟩
      · have none_missing : missing = [] := by
          have total := congrArg List.length header_eq
          rw [List.length_append] at total
          exact List.length_eq_zero_iff.mp (by omega)
        rw [none_missing, List.append_nil] at header_eq
        exact ⟨[], by rw [header_eq, List.append_nil]⟩
    have type_read : index data 0 = .ok 0x16 := index_at [] _ complete rfl
    have length_read : uint16 data 3 = .ok record.payload.length :=
      uint16_at (0x16 :: record.version.toList) front (by simp [complete, header]) (by simp) (by omega)
    rw [if_neg short]
    simp only [type_read, length_read, bind, Except.bind]
    rw [if_neg (by simp), if_pos (by omega)]
    rfl

end HandshakeRecord

/-- A way of splitting bytes into the non-empty segments of a connection. -/
structure Segmentation (bytes : List UInt8) where
  client : Conn
  nonempty : ∀ segment ∈ client, segment ≠ []
  joined : client.flatten = bytes

/-- All bytes in one read. -/
def Segmentation.whole (record : HandshakeRecord) : Segmentation record.encode where
  client := [record.encode]
  nonempty segment member := by
    cases List.mem_singleton.mp member
    rw [HandshakeRecord.encode]
    exact List.cons_ne_nil _ _
  joined := by simp

/-- The name a handler reads from a connection. -/
def firstName (client : Conn) : Except Panic GoString :=
  parseSNI ((client.read 16384).getD [])

/-- A record is read with its name when it comes in one segment that fits the buffer. -/
lemma firstName_whole (record : HandshakeRecord) (fits : record.encode.length ≤ 16384) :
    firstName [record.encode] = .ok record.name := by
  rw [firstName, Conn.read, Option.getD_some, List.take_of_length_le fits]
  exact record.parse_encode

/-- A record that comes in several segments, or does not fit the buffer, is read without a name. -/
lemma firstName_part {record : HandshakeRecord} (seg : Segmentation record.encode)
    (part : seg.client ≠ [record.encode] ∨ 16384 < record.encode.length) :
    firstName seg.client = .ok [] := by
  obtain ⟨client, nonempty, joined⟩ := seg
  cases client with
  | nil => rfl
  | cons segment client =>
    rw [firstName, Conn.read, Option.getD_some]
    rw [List.flatten_cons] at joined
    have split : record.encode = segment.take 16384 ++ (segment.drop 16384 ++ client.flatten) := by
      rw [← List.append_assoc, List.take_append_drop, joined]
    apply record.parse_part split
    intro complete
    obtain ⟨dropped, rest⟩ := List.append_eq_nil_iff.mp complete
    rw [rest, List.append_nil] at joined
    have whole : client = [] := by
      cases client with
      | nil => rfl
      | cons next client =>
        have next_empty := (List.append_eq_nil_iff.mp rest).1
        exact absurd next_empty (nonempty next (by simp))
    have size := List.drop_eq_nil_iff.mp dropped
    rcases part with several | large
    · subst whole
      exact several (by simpa using joined)
    · rw [joined] at size
      omega

/-- The name stays with the local server: it has a local route, or no forward target takes it. -/
def SNIRouter.KeepsLocal {α : Type} (s : SNIRouter α) (sni : GoString) : Prop :=
  sni = [] ∨ s.hasLocal sni = true ∨
    match s.forwardTargets.find? (·.matchHost sni) with
    | none => True
    | some ft => ft.resolve = none ∨ ft.resolve = some s.localTarget

/-- The name has no route on the port, no certificate, or none that loads. -/
def TCPRouter.Refuses {κ : Type} (keyPair : List UInt8 → List UInt8 → Option κ) (t : TCPRouter)
    (port : Int) (sni : GoString) : Prop :=
  sni = [] ∨ (∀ route ∈ t.getRoutes, route.serves port sni = false) ∨
    match t.certs.find? (·.covers sni) with
    | none => True
    | some cert => keyPair cert.cert cert.key = none

/-- Two connections are routed alike: to the same target by the SNI router, and with the same route
and key pair by the TCP router. -/
structure RoutedAlike {α κ : Type} (keyPair : List UInt8 → List UInt8 → Option κ) (s : SNIRouter α)
    (t : TCPRouter) (port : Int) (client client' : Conn) : Prop where
  target : (s.handleConnection client).map (Option.map Prod.fst) =
    (s.handleConnection client').map (Option.map Prod.fst)
  selection : t.handleConnection keyPair port client = t.handleConnection keyPair port client'

lemma SNIRouter.forward_eq {α : Type} (s : SNIRouter α) (sni : GoString)
    (targets : List (SNIForwardTarget α)) :
    s.forward sni targets =
      ((targets.find? (·.matchHost sni)).bind (·.resolve)).getD s.localTarget := by
  induction targets with
  | nil => rfl
  | cons ft targets ih =>
    rw [SNIRouter.forward, List.find?_cons]
    cases ft.matchHost sni with
    | false => exact ih
    | true => cases resolved : ft.resolve <;> simp [resolved]

lemma SNIRouter.target_local {α : Type} (s : SNIRouter α) (sni : GoString) :
    s.target sni = s.localTarget ↔ s.KeepsLocal sni := by
  unfold SNIRouter.target SNIRouter.KeepsLocal
  by_cases unnamed : sni = []
  · simp [unnamed]
  · rw [if_pos unnamed, s.forward_eq]
    cases s.hasLocal sni with
    | true => simp
    | false =>
      cases s.forwardTargets.find? (·.matchHost sni) with
      | none => simp
      | some ft => cases found : ft.resolve <;> simp [unnamed, found]

lemma TCPRouter.select_none {κ : Type} (keyPair : List UInt8 → List UInt8 → Option κ)
    (t : TCPRouter) (port : Int) (sni : GoString) :
    t.select keyPair port sni = none ↔ t.Refuses keyPair port sni := by
  unfold TCPRouter.select TCPRouter.Refuses TCPRouter.findRoute TCPRouter.findCert
  by_cases unnamed : sni = []
  · simp [unnamed]
  · rw [if_neg unnamed]
    cases found : t.getRoutes.find? (·.serves port sni) with
    | none =>
      simp only [true_iff]
      exact .inr (.inl fun route member => by simpa using List.find?_eq_none.mp found route member)
    | some route =>
      have served : ¬ ∀ route ∈ t.getRoutes, route.serves port sni = false := by
        intro unserved
        have served := List.find?_some found
        rw [unserved route (List.mem_of_find?_eq_some found)] at served
        cases served
      cases t.certs.find? (·.covers sni) with
      | none => simp
      | some cert => cases loaded : keyPair cert.cert cert.key <;> simp [unnamed, served, loaded]

lemma SNIRouter.handle_firstName {α : Type} (s : SNIRouter α) {client : Conn} (open_ : client ≠ [])
    {sni : GoString} (read : firstName client = .ok sni) :
    (s.handleConnection client).map (Option.map Prod.fst) = .ok (some (s.target sni)) := by
  cases client with
  | nil => exact absurd rfl open_
  | cons segment client =>
    rw [firstName, Conn.read, Option.getD_some] at read
    simp only [SNIRouter.handleConnection, Conn.read, read]
    rfl

lemma TCPRouter.handle_firstName {κ : Type} (keyPair : List UInt8 → List UInt8 → Option κ)
    (t : TCPRouter) (port : Int) {client : Conn} (open_ : client ≠ []) {sni : GoString}
    (read : firstName client = .ok sni) :
    t.handleConnection keyPair port client = .ok (t.select keyPair port sni) := by
  cases client with
  | nil => exact absurd rfl open_
  | cons segment client =>
    rw [firstName, Conn.read, Option.getD_some] at read
    simp only [TCPRouter.handleConnection, Conn.read, read]
    rfl

lemma Segmentation.client_ne_nil {record : HandshakeRecord} (seg : Segmentation record.encode) :
    seg.client ≠ [] := by
  intro empty
  have joined := seg.joined
  rw [empty, HandshakeRecord.encode] at joined
  cases joined

/-- A record in segments is routed as the whole record exactly when it comes in one segment, does
not fit the buffer of the read either way, or has a name that is served locally by the SNI router
and refused by the TCP router. -/
theorem handle_segmented {α κ : Type} (keyPair : List UInt8 → List UInt8 → Option κ)
    (s : SNIRouter α) (t : TCPRouter) (port : Int) (record : HandshakeRecord)
    (seg : Segmentation record.encode) :
    RoutedAlike keyPair s t port seg.client [record.encode] ↔
      seg.client = [record.encode] ∨ 16384 < record.encode.length ∨
        s.KeepsLocal record.name ∧ t.Refuses keyPair port record.name := by
  by_cases part : seg.client = [record.encode]
  · rw [part]
    exact ⟨fun _ => .inl rfl, fun _ => ⟨rfl, rfl⟩⟩
  · have first := firstName_part seg (.inl part)
    have opened := seg.client_ne_nil
    have target := s.handle_firstName opened first
    have selection := t.handle_firstName keyPair port opened first
    by_cases large : 16384 < record.encode.length
    · have whole := firstName_part (Segmentation.whole record) (.inr large)
      refine ⟨fun _ => .inr (.inl large), fun _ => ⟨?_, ?_⟩⟩
      · rw [target, s.handle_firstName (List.cons_ne_nil _ _) whole]
      · rw [selection, t.handle_firstName keyPair port (List.cons_ne_nil _ _) whole]
    · have whole := firstName_whole record (Nat.le_of_not_lt large)
      have target' := s.handle_firstName (List.cons_ne_nil _ _) whole
      have selection' := t.handle_firstName keyPair port (List.cons_ne_nil _ _) whole
      constructor
      · intro agree
        obtain ⟨same, same'⟩ := agree
        rw [target, target'] at same
        rw [selection, selection'] at same'
        refine .inr (.inr ⟨?_, ?_⟩)
        · rw [← s.target_local]
          exact (Option.some.inj (Except.ok.inj same)).symm
        · rw [← t.select_none]
          exact (Except.ok.inj same').symm
      · rintro (one | large' | ⟨kept, refused⟩)
        · exact absurd one part
        · exact absurd large' large
        · refine ⟨?_, ?_⟩
          · rw [target, target', (s.target_local record.name).mpr kept]
            rfl
          · rw [selection, selection', (t.select_none keyPair port record.name).mpr refused]
            rfl

/-- The fields of a ClientHello for the host `a`. -/
def smallHello : HelloFields where
  version := #v[3, 3]
  random := .replicate 32 0
  sessionId := ⟨[], by decide⟩
  cipherSuites := ⟨[0x13, 0x01], by decide⟩
  compressionMethods := ⟨[0], by decide⟩
  extensions := some [.serverName (lit "a") [] (by decide)]

/-- Its record. -/
def smallRecord : HandshakeRecord where
  version := #v[3, 1]
  payload := smallHello.handshake
  nonempty := by
    rw [HelloFields.handshake]
    exact List.cons_ne_nil _ _
  fits := by decide

lemma smallRecord_name : smallRecord.name = lit "a" := by
  have reads : parseSNI smallRecord.encode = parseExtensions smallRecord.encode 62 52 := rfl
  have block : smallRecord.encode = smallRecord.encode.take 52 ++
      [Extension.serverName (lit "a") [] (by decide)].flatMap Extension.encode := by decide
  have found : parseSNI smallRecord.encode = .ok (lit "a") := by
    rw [reads, block]
    exact parseExtensions_encode [.serverName (lit "a") [] (by decide)] rfl rfl
  rw [smallRecord.parse_encode] at found
  exact Except.ok.inj found

/-- Its record in two segments, of which the first is the record header. -/
def headerFirst : Segmentation smallRecord.encode where
  client := [smallRecord.encode.take 5, smallRecord.encode.drop 5]
  nonempty := by decide
  joined := by decide

/-- A router that passes every host through. -/
def passAll : SNIRouter Nat where
  localTarget := 0
  forwardTargets := [{ matchHost := fun _ => true, resolve := some 1 }]
  hasLocalRoute := none

/-- A passthrough host is served locally when the record header comes alone. -/
theorem handle_header_first :
    (passAll.handleConnection [smallRecord.encode]).map (Option.map Prod.fst) = .ok (some 1) ∧
    (passAll.handleConnection headerFirst.client).map (Option.map Prod.fst) = .ok (some 0) ∧
    ¬ ∀ (s : SNIRouter Nat) (t : TCPRouter) (port : Int) (record : HandshakeRecord)
      (seg : Segmentation record.encode),
      RoutedAlike (fun _ _ => some ()) s t port seg.client [record.encode] := by
  have whole := passAll.handle_firstName (List.cons_ne_nil _ _)
    (firstName_whole smallRecord (by decide))
  have split := passAll.handle_firstName headerFirst.client_ne_nil
    (firstName_part headerFirst (.inl (by decide)))
  rw [smallRecord_name] at whole
  refine ⟨whole, split, ?_⟩
  intro alike
  have target := (alike passAll { certs := [], getRoutes := [] } 0 smallRecord headerFirst).target
  rw [whole, split] at target
  cases target

end Pintle
