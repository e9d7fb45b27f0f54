import Pintle.Go.Reader
import Pintle.Server.Handle

/-!
# The sniffed bytes of a connection

Model of `prefixedConn` of `internal/server/tcp.go`, over any connection that keeps to the
documentation of `net.Conn` (`LawfulReader`), and of the handshake that `handleConnection` starts on
it. Such a connection is again a reader that keeps to the documentation, and its stream is what is
left of the buffer before what is left of the connection. So the facts about readers hold of it, and
the TLS server reads what the client has sent (`prefixedConn_replays`).
-/

namespace Pintle
open Go LawfulReader
variable {σ : Type}

/-- Go `prefixedConn`. -/
structure PrefixedConn (σ : Type) where
  conn : σ
  prefixBytes : GoString
  offset : Nat

namespace PrefixedConn

/-- The bytes of the buffer that have not been read. -/
def buffered (c : PrefixedConn σ) : GoString := c.prefixBytes.drop c.offset

/-- The connection after bytes of the buffer have been read. -/
def advance (c : PrefixedConn σ) (n : Nat) : PrefixedConn σ := { c with offset := c.offset + n }

/-- What is left of the buffer after some of it has been copied. -/
lemma buffered_advance (c : PrefixedConn σ) (size : Nat) :
    (c.advance (c.buffered.take size).length).buffered = c.buffered.drop size := by
  rw [buffered, advance, ← List.drop_drop]
  change c.buffered.drop (c.buffered.take size).length = _
  rw [List.length_take]
  rcases Nat.le_total size c.buffered.length with inside | past
  · rw [Nat.min_eq_left inside]
  · rw [Nat.min_eq_right past, List.drop_length, List.drop_of_length_le past]

variable [Reader σ]

/-- Go `prefixedConn.Read`. -/
def read (c : PrefixedConn σ) (size : Nat) : ReadResult × PrefixedConn σ :=
  if c.offset < c.prefixBytes.length then
    let copied := (c.prefixBytes.drop c.offset).take size
    ({ bytes := copied, err := none }, { c with offset := c.offset + copied.length })
  else
    let (result, conn) := Reader.read c.conn size
    (result, { c with conn })

instance : Reader (PrefixedConn σ) where
  read := read

/-- A read takes bytes of the buffer while there are any. -/
lemma read_buffered {c : PrefixedConn σ} (some : c.buffered ≠ []) (size : Nat) :
    Reader.read c size =
      ({ bytes := c.buffered.take size, err := none },
        c.advance (c.buffered.take size).length) := by
  have inside : c.offset < c.prefixBytes.length := by
    by_contra outside
    exact some (List.drop_of_length_le (Nat.le_of_not_lt outside))
  change c.read size = _
  rw [read, if_pos inside]
  rfl

/-- After that it reads the connection. -/
lemma read_conn {c : PrefixedConn σ} (empty : c.buffered = []) (size : Nat) :
    Reader.read c size =
      ((Reader.read c.conn size).1, { c with conn := (Reader.read c.conn size).2 }) := by
  have outside : ¬ c.offset < c.prefixBytes.length := by
    rw [Nat.not_lt]
    exact List.drop_eq_nil_iff.mp empty
  change c.read size = _
  rw [read, if_neg outside]

/-- A connection with a buffer keeps to the documentation. -/
instance [LawfulReader σ] : LawfulReader (PrefixedConn σ) where
  stream c := c.buffered ++ stream c.conn
  fits c size := by
    by_cases empty : c.buffered = []
    · rw [read_conn empty]
      exact fits c.conn size
    · rw [read_buffered empty]
      exact List.length_take_le size c.buffered
  next c size := by
    by_cases empty : c.buffered = []
    · rw [read_conn empty]
      change c.buffered ++ stream c.conn = _ ++ (c.buffered ++ _)
      rw [empty, List.nil_append, List.nil_append]
      exact next c.conn size
    · rw [read_buffered empty, buffered_advance, ← List.append_assoc, List.take_append_drop]
      rfl
  ends c size := by
    by_cases empty : c.buffered = []
    · rw [read_conn empty]
      intro eof
      change c.buffered ++ _ = []
      rw [empty, ends c.conn size eof]
      rfl
    · rw [read_buffered empty]
      nofun

/-- Reads that leave nothing of the buffer have returned it. -/
lemma buffered_received {c : PrefixedConn σ} {sizes : List Nat}
    (empty : (reads c sizes).2.buffered = []) : c.buffered <+: received (reads c sizes).1 := by
  induction sizes generalizing c with
  | nil =>
    change c.buffered = [] at empty
    rw [empty]
    exact List.nil_prefix
  | cons size sizes ih =>
    rw [reads_cons] at empty ⊢
    by_cases before : c.buffered = []
    · rw [before]
      exact List.nil_prefix
    · have rest := ih empty
      rw [read_buffered before] at rest ⊢
      rw [buffered_advance] at rest
      have whole := (List.prefix_append_right_inj (c.buffered.take size)).mpr rest
      rw [List.take_append_drop] at whole
      exact whole

/-- A read that calls the connection comes after the buffer. -/
lemma calls_received {c : PrefixedConn (Logged σ)} {sizes : List Nat} {size : Nat}
    (called : (reads c (sizes ++ [size])).2.conn.calls ≠ (reads c sizes).2.conn.calls) :
    c.buffered <+: received (reads c sizes).1 := by
  apply buffered_received
  by_contra some
  rw [reads_append] at called
  apply called
  change (Reader.read (reads c sizes).2 size).2.conn.calls = _
  rw [read_buffered some]
  rfl

end PrefixedConn

/-- A connection whose reads find its segments one after the other. -/
instance : Reader Conn where
  read
    | [], _ => ({ bytes := [], err := some .eof }, [])
    | segment :: rest, size =>
      ({ bytes := segment.take size, err := none },
        if segment.length ≤ size then rest else segment.drop size :: rest)

instance : LawfulReader Conn where
  stream := List.flatten
  fits s size := by
    cases s with
    | nil => exact Nat.zero_le size
    | cons segment rest => exact List.length_take_le size segment
  next s size := by
    cases s with
    | nil => rfl
    | cons segment rest =>
      change segment ++ rest.flatten = segment.take size ++ List.flatten (if _ then _ else _)
      split
      · rename_i whole
        rw [List.take_of_length_le whole]
      · rw [List.flatten_cons, ← List.append_assoc, List.take_append_drop]
  ends s size := by
    cases s with
    | nil => exact fun _ => rfl
    | cons segment rest => nofun

namespace TCPRouter
variable {κ : Type} (keyPair : List UInt8 → List UInt8 → Option κ) [Reader σ]

/-- Go `TCPRouter.handleConnection` up to the TLS handshake, over any connection, with the connection
that `tls.Server` gets. -/
def handshake (t : TCPRouter) (port : Int) (client : σ) :
    Except Panic (Option (TcpRoute × κ × PrefixedConn σ)) :=
  match Reader.read client 16384 with
  | ({ bytes := data, err := none }, conn) => do
    let sni ← parseSNI data
    return (t.select keyPair port sni).map fun (route, tlsCert) =>
      (route, tlsCert, { conn, prefixBytes := data, offset := 0 })
  | _ => .ok none

/-- Over segments the route and the certificate are those of `handleConnection`. -/
lemma handshake_handleConnection (t : TCPRouter) (port : Int) (client : Conn) :
    (t.handshake keyPair port client).map (Option.map fun (route, tlsCert, _) => (route, tlsCert)) =
      t.handleConnection keyPair port client := by
  cases client with
  | nil => rfl
  | cons segment rest =>
    rw [handshake, handleConnection]
    change Except.map _ ((parseSNI (segment.take 16384)).bind _) =
      (parseSNI (segment.take 16384)).bind _
    cases parseSNI (segment.take 16384) with
    | error panic => rfl
    | ok sni =>
      change Except.ok (Option.map _ (Option.map _ (t.select keyPair port sni))) = Except.ok _
      rw [Option.map_map]
      exact congrArg Except.ok (Option.map_id_apply)

/-- The TLS server gets the connection with the bytes that have been read from it. -/
lemma handshake_conn {t : TCPRouter} {port : Int} {client : σ} {route : TcpRoute} {tlsCert : κ}
    {c : PrefixedConn σ} (served : t.handshake keyPair port client = .ok (some (route, tlsCert, c))) :
    c = { conn := (Reader.read client 16384).2
          prefixBytes := (Reader.read client 16384).1.bytes
          offset := 0 } := by
  rw [handshake] at served
  split at served
  · rename_i data conn found
    cases parsed : parseSNI data with
    | error panic =>
      rw [parsed] at served
      cases served
    | ok sni =>
      rw [parsed] at served
      have chosen := Except.ok.inj served
      obtain ⟨_, _, same⟩ := Option.map_eq_some_iff.mp chosen
      rw [found]
      cases same
      rfl
  · cases served

end TCPRouter

/-- What successive reads of a connection with a buffer return of a stream. -/
structure Replays [Reader σ] [LawfulReader σ] (c : PrefixedConn σ) (whole : GoString)
    (sizes : List Nat) : Prop where
  begins : received (reads c sizes).1 <+: whole
  kept : received (reads c sizes).1 ++ ((reads c sizes).2.buffered ++ stream (reads c sizes).2.conn) =
    whole
  fits : List.Forall₂ (fun result size => result.bytes.length ≤ size) (reads c sizes).1 sizes
  ends : ∀ before last after, (reads c sizes).1 = before ++ last :: after → last.err = some .eof →
    received (before ++ [last]) = whole

lemma PrefixedConn.replays [Reader σ] [LawfulReader σ] (c : PrefixedConn σ) (sizes : List Nat) :
    Replays c (c.buffered ++ stream c.conn) sizes := by
  have kept := stream_reads c sizes
  refine ⟨?_, kept, reads_fit c sizes, ?_⟩
  · exact ⟨_, kept⟩
  · intro before last after split eof
    exact received_eof split eof

/-- The reads of a connection with a buffer return the buffer and then the stream of the connection,
which is not read before; and the TLS server reads what the client has sent. -/
theorem prefixedConn_replays [Reader σ] [LawfulReader σ] (conn : σ) (prefixBytes : GoString)
    (sizes : List Nat) :
    Replays { conn, prefixBytes, offset := 0 } (prefixBytes ++ stream conn) sizes ∧
      (∀ size, let c : PrefixedConn (Logged σ) :=
          { conn := { conn, calls := [] }, prefixBytes, offset := 0 }
        (reads c (sizes ++ [size])).2.conn.calls ≠ (reads c sizes).2.conn.calls →
          prefixBytes <+: received (reads c sizes).1) ∧
      ∀ (κ : Type) (keyPair : List UInt8 → List UInt8 → Option κ) (t : TCPRouter) (port : Int)
        (client : σ) (route : TcpRoute) (tlsCert : κ) (c : PrefixedConn σ),
        t.handshake keyPair port client = .ok (some (route, tlsCert, c)) →
          Replays c (stream client) sizes := by
  refine ⟨PrefixedConn.replays _ sizes, ?_, ?_⟩
  · intro size c called
    exact PrefixedConn.calls_received called
  · intro κ keyPair t port client route tlsCert c served
    rw [TCPRouter.handshake_conn keyPair served, next client 16384]
    exact PrefixedConn.replays _ sizes

/-- Three bytes in the buffer and two segments, read to the end. -/
theorem prefixedConn_replays_segments :
    Replays (σ := Conn) { conn := [lit "lo", lit "!"], prefixBytes := lit "hel", offset := 0 }
      (lit "hel" ++ lit "lo!") [2, 0, 5, 1, 9, 9, 9] :=
  (prefixedConn_replays (σ := Conn) [lit "lo", lit "!"] (lit "hel") [2, 0, 5, 1, 9, 9, 9]).1

end Pintle
