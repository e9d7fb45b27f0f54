import Pintle.Server.Sni

/-!
# The nested lengths of a ClientHello

A server name lies in an extension, the extension in the extension block, the block in the handshake
message and the message in the TLS record, and each of them declares its length. `Declares` walks a
buffer by the declared lengths, as far as the first server_name extension, and says where each of
them ends. `ParseSNI` compares the ends with the end of the buffer, not with each other:
`contained_iff` says that its names come from inside the record exactly when the ends are nested.
-/

namespace Pintle
open Go

/-- Where the record, the message, the extension block and the first server_name extension of a
buffer end, and where its host name begins and ends. -/
structure Frame where
  record : Nat
  message : Nat
  block : Nat
  extension : Nat
  name : Nat
  nameEnd : Nat

/-- Every part ends inside the part it belongs to. -/
structure Frame.Nested (frame : Frame) : Prop where
  name : frame.nameEnd ≤ frame.extension
  extension : frame.extension ≤ frame.block
  block : frame.block ≤ frame.message
  message : frame.message ≤ frame.record

lemma Frame.Nested.name_inside {frame : Frame} (ends : frame.Nested) :
    frame.nameEnd ≤ frame.record := by
  obtain ⟨name, extension, block, message⟩ := ends
  omega

/-- The bytes of the host name. -/
def Frame.hostName (frame : Frame) (buf : List UInt8) : GoString :=
  (buf.drop frame.name).take (frame.nameEnd - frame.name)

/-- The extension block begins at `start` and ends at `blockEnd`, behind the session id, the cipher
suites and the compression methods. -/
def BlockAt (buf : List UInt8) (start blockEnd : Nat) : Prop :=
  ∃ sessionIDLen cipherSuitesLen compressionLen extensionsLen,
    index buf 43 = .ok sessionIDLen ∧
    uint16 buf (43 + (1 + sessionIDLen.toNat)) = .ok cipherSuitesLen ∧
    index buf (43 + (1 + sessionIDLen.toNat) + (2 + cipherSuitesLen)) = .ok compressionLen ∧
    uint16 buf (43 + (1 + sessionIDLen.toNat) + (2 + cipherSuitesLen) +
      (1 + compressionLen.toNat)) = .ok extensionsLen ∧
    start = 43 + (1 + sessionIDLen.toNat) + (2 + cipherSuitesLen) + (1 + compressionLen.toNat) + 2 ∧
    blockEnd = start + extensionsLen

/-- From a position in a block, the first server_name extension begins at another one. -/
inductive FirstServerName (buf : List UInt8) (blockEnd : Nat) : Nat → Nat → Prop
  | here {pos} : pos + 4 ≤ blockEnd → uint16 buf pos = .ok 0 → FirstServerName buf blockEnd pos pos
  | later {pos extType extLen first} : pos + 4 ≤ blockEnd → uint16 buf pos = .ok extType →
      extType ≠ 0 → uint16 buf (pos + 2) = .ok extLen →
      FirstServerName buf blockEnd (pos + 4 + extLen) first → FirstServerName buf blockEnd pos first

/-- The extension at a position ends where the frame says, and its list begins with a host name of
at least one byte that lies in the buffer. -/
structure HostNameAt (buf : List UInt8) (pos : Nat) (frame : Frame) : Prop where
  extension : ∃ extLen, uint16 buf (pos + 2) = .ok extLen ∧ frame.extension = pos + 4 + extLen
  host_name : index buf (pos + 4 + 2) = .ok 0x00
  name : frame.name = pos + 4 + 5
  name_end : ∃ nameLen, uint16 buf (pos + 4 + 3) = .ok nameLen ∧
    frame.nameEnd = pos + 4 + 5 + nameLen
  nonempty : frame.name < frame.nameEnd
  inside : frame.nameEnd ≤ buf.length

/-- The buffer holds a record with a ClientHello whose first server_name extension has a host name,
and the declared lengths give these ends. -/
structure Declares (buf : List UInt8) (frame : Frame) : Prop where
  handshake : index buf 0 = .ok 0x16
  record : ∃ recordLength, uint16 buf 3 = .ok recordLength ∧ frame.record = 5 + recordLength
  complete : frame.record ≤ buf.length
  client_hello : index buf 5 = .ok 0x01
  message : ∃ high low, index buf 6 = .ok high ∧ uint16 buf 7 = .ok low ∧
    frame.message = 9 + (high.toNat * 65536 + low)
  extension : ∃ start pos, BlockAt buf start frame.block ∧
    FirstServerName buf frame.block start pos ∧ HostNameAt buf pos frame

/-- The loop returns the name of the first server_name extension. -/
lemma parseExtensions_eq_ok {buf : List UInt8} {extensionsEnd pos : Nat} {name : GoString}
    (some_byte : name ≠ []) : parseExtensions buf extensionsEnd pos = .ok name ↔
      ∃ first, FirstServerName buf extensionsEnd pos first ∧ ∃ extLen nameLen,
        uint16 buf (first + 2) = .ok extLen ∧ index buf (first + 4 + 2) = .ok 0x00 ∧
        uint16 buf (first + 4 + 3) = .ok nameLen ∧
        slice buf (first + 4 + 5) (first + 4 + 5 + nameLen) = .ok name := by
  induction pos using parseExtensions.induct buf extensionsEnd with
  | case1 pos inside ih =>
    rw [parseExtensions, dif_pos inside]
    constructor
    · intro found
      obtain ⟨extType, type_read, found⟩ := bind_eq_ok.mp found
      obtain ⟨extLen, len_read, found⟩ := bind_eq_ok.mp found
      split at found
      · rename_i server_name
        obtain ⟨_, found⟩ := (guard_eq_ok some_byte).mp found
        obtain ⟨nameType, kind_read, found⟩ := bind_eq_ok.mp found
        obtain ⟨host_name, found⟩ := (guard_eq_ok some_byte).mp found
        obtain ⟨nameLen, name_read, found⟩ := bind_eq_ok.mp found
        obtain ⟨_, found⟩ := (guard_eq_ok some_byte).mp found
        exact ⟨pos, .here inside.1 (server_name ▸ type_read), extLen, nameLen, len_read,
          not_not.mp host_name ▸ kind_read, name_read, found⟩
      · rename_i other
        obtain ⟨first, walk, rest⟩ := (ih extLen).mp found
        exact ⟨first, .later inside.1 type_read other len_read walk, rest⟩
    · rintro ⟨first, walk, extLen, nameLen, len_read, kind_read, name_read, bytes⟩
      cases walk with
      | here _ type_read =>
        have bound := (slice_eq_ok.mp bytes).2.1
        simp only [type_read, len_read, kind_read, name_read, bytes, bind, Except.bind]
        rw [if_pos trivial, if_neg (by omega), if_neg (by simp), if_neg (by omega)]
      | later _ type_read named len_read' walk =>
        simp only [type_read, len_read', bind, Except.bind]
        rw [if_neg named]
        exact (ih _).mpr ⟨first, walk, extLen, nameLen, len_read, kind_read, name_read, bytes⟩
  | case2 pos outside =>
    rw [parseExtensions, dif_neg outside]
    refine iff_of_false (fun same => some_byte (Except.ok.inj same).symm) ?_
    rintro ⟨first, walk, extLen, nameLen, len_read, kind_read, name_read, bytes⟩
    cases walk with
    | here bound _ =>
      have name_bound := uint16_bound name_read
      exact outside ⟨bound, by omega⟩
    | later bound _ _ len_read' _ =>
      have len_bound := uint16_bound len_read'
      exact outside ⟨bound, by omega⟩

/-- `ParseSNI` returns the host name that the declared lengths lead to, wherever they end. -/
lemma parseSNI_eq_ok {buf : List UInt8} {name : GoString} (some_byte : name ≠ []) :
    parseSNI buf = .ok name ↔ ∃ frame, Declares buf frame ∧ name = frame.hostName buf := by
  constructor
  · intro found
    rw [parseSNI] at found
    obtain ⟨_, found⟩ := (guard_eq_ok some_byte).mp found
    obtain ⟨type, type_read, found⟩ := bind_eq_ok.mp found
    obtain ⟨handshake, found⟩ := (guard_eq_ok some_byte).mp found
    obtain ⟨recordLength, record_read, found⟩ := bind_eq_ok.mp found
    obtain ⟨complete, found⟩ := (guard_eq_ok some_byte).mp found
    obtain ⟨message, message_read, found⟩ := bind_eq_ok.mp found
    obtain ⟨client_hello, found⟩ := (guard_eq_ok some_byte).mp found
    obtain ⟨_, found⟩ := (guard_eq_ok some_byte).mp found
    obtain ⟨sessionIDLen, session_read, found⟩ := bind_eq_ok.mp found
    obtain ⟨_, found⟩ := (guard_eq_ok some_byte).mp found
    obtain ⟨cipherSuitesLen, ciphers_read, found⟩ := bind_eq_ok.mp found
    obtain ⟨_, found⟩ := (guard_eq_ok some_byte).mp found
    obtain ⟨compressionLen, compression_read, found⟩ := bind_eq_ok.mp found
    obtain ⟨_, found⟩ := (guard_eq_ok some_byte).mp found
    obtain ⟨extensionsLen, extensions_read, found⟩ := bind_eq_ok.mp found
    obtain ⟨pos, walk, extLen, nameLen, len_read, kind_read, name_read, bytes⟩ :=
      (parseExtensions_eq_ok some_byte).mp found
    obtain ⟨_, bound, same⟩ := slice_eq_ok.mp bytes
    have room := index_bound session_read
    obtain ⟨high, high_read⟩ : Runs (index buf 6) := Runs.index (by omega)
    obtain ⟨low, low_read⟩ : Runs (uint16 buf 7) := Runs.uint16 (by omega)
    have nonempty : nameLen ≠ 0 := by
      rintro rfl
      rw [Nat.add_zero, Nat.sub_self, List.take_zero] at same
      exact some_byte same
    exact ⟨{
      record := 5 + recordLength
      message := 9 + (high.toNat * 65536 + low)
      block := _
      extension := pos + 4 + extLen
      name := pos + 4 + 5
      nameEnd := pos + 4 + 5 + nameLen }, {
        handshake := not_not.mp handshake ▸ type_read
        record := ⟨recordLength, record_read, rfl⟩
        complete := Nat.not_lt.mp complete
        client_hello := not_not.mp client_hello ▸ message_read
        message := ⟨high, low, high_read, low_read, rfl⟩
        extension := ⟨_, pos, ⟨sessionIDLen, cipherSuitesLen, compressionLen, extensionsLen,
          session_read, ciphers_read, compression_read, extensions_read, rfl, rfl⟩, walk, {
            extension := ⟨extLen, len_read, rfl⟩
            host_name := kind_read
            name := rfl
            name_end := ⟨nameLen, name_read, rfl⟩
            nonempty := Nat.lt_add_of_pos_right (Nat.pos_of_ne_zero nonempty)
            inside := bound }⟩ }, same⟩
  · rintro ⟨frame, declared, rfl⟩
    obtain ⟨start, pos, block, walk, host⟩ := declared.extension
    obtain ⟨recordLength, record_read, record⟩ := declared.record
    obtain ⟨sessionIDLen, cipherSuitesLen, compressionLen, extensionsLen, session_read,
      ciphers_read, compression_read, extensions_read, at_start, at_end⟩ := block
    obtain ⟨extLen, len_read, _⟩ := host.extension
    obtain ⟨nameLen, name_read, name_end⟩ := host.name_end
    have complete := declared.complete
    have session := index_bound session_read
    have ciphers := uint16_bound ciphers_read
    have compression := index_bound compression_read
    have extensions := uint16_bound extensions_read
    have bytes : slice buf (pos + 4 + 5) (pos + 4 + 5 + nameLen) = .ok (frame.hostName buf) := by
      refine slice_eq_ok.mpr ⟨by omega, name_end ▸ host.inside, ?_⟩
      rw [Frame.hostName, host.name, name_end]
    unfold parseSNI
    simp only [declared.handshake, record_read, declared.client_hello, session_read, ciphers_read,
      compression_read, extensions_read, bind, Except.bind]
    rw [if_neg (by omega), if_neg (by simp), if_neg (by omega), if_neg (by simp),
      if_neg (by omega), if_neg (by omega), if_neg (by omega), if_neg (by omega)]
    rw [at_end, at_start] at walk
    exact (parseExtensions_eq_ok some_byte).mpr
      ⟨pos, walk, extLen, nameLen, len_read, host.host_name, name_read, bytes⟩

lemma FirstServerName.le {buf : List UInt8} {blockEnd pos first : Nat}
    (walk : FirstServerName buf blockEnd pos first) : pos ≤ first := by
  induction walk with
  | here => exact Nat.le_refl _
  | later _ _ _ _ _ ih => omega

lemma FirstServerName.unique {buf : List UInt8} {blockEnd pos first first' : Nat}
    (walk : FirstServerName buf blockEnd pos first)
    (walk' : FirstServerName buf blockEnd pos first') : first = first' := by
  induction walk with
  | here _ type_read =>
    cases walk' with
    | here => rfl
    | later _ type_read' named _ _ =>
      exact absurd (Except.ok.inj (type_read'.symm.trans type_read)) named
  | later _ type_read named len_read _ ih =>
    cases walk' with
    | here _ type_read' => exact absurd (Except.ok.inj (type_read.symm.trans type_read')) named
    | later _ _ _ len_read' rest =>
      cases Except.ok.inj (len_read.symm.trans len_read')
      exact ih rest

lemma BlockAt.unique {buf : List UInt8} {start blockEnd start' blockEnd' : Nat}
    (block : BlockAt buf start blockEnd) (block' : BlockAt buf start' blockEnd') :
    start = start' ∧ blockEnd = blockEnd' := by
  obtain ⟨s, c, m, e, session, ciphers, compression, extensions, rfl, rfl⟩ := block
  obtain ⟨s', c', m', e', session', ciphers', compression', extensions', rfl, rfl⟩ := block'
  cases Except.ok.inj (session.symm.trans session')
  cases Except.ok.inj (ciphers.symm.trans ciphers')
  cases Except.ok.inj (compression.symm.trans compression')
  cases Except.ok.inj (extensions.symm.trans extensions')
  exact ⟨rfl, rfl⟩

/-- The declared lengths of a buffer give one frame. -/
lemma Declares.unique {buf : List UInt8} {frame frame' : Frame} (declared : Declares buf frame)
    (declared' : Declares buf frame') : frame = frame' := by
  obtain ⟨record, message, block, extension, name, nameEnd⟩ := frame
  obtain ⟨record', message', block', extension', name', nameEnd'⟩ := frame'
  obtain ⟨n, record_read, rfl⟩ := declared.record
  obtain ⟨n', record_read', rfl⟩ := declared'.record
  obtain ⟨high, low, high_read, low_read, rfl⟩ := declared.message
  obtain ⟨high', low', high_read', low_read', rfl⟩ := declared'.message
  obtain ⟨start, pos, at_block, walk, host⟩ := declared.extension
  obtain ⟨start', pos', at_block', walk', host'⟩ := declared'.extension
  obtain ⟨rfl, rfl⟩ := at_block.unique at_block'
  cases walk.unique walk'
  obtain ⟨extLen, len_read, rfl⟩ := host.extension
  obtain ⟨extLen', len_read', rfl⟩ := host'.extension
  obtain ⟨nameLen, name_read, rfl⟩ := host.name_end
  obtain ⟨nameLen', name_read', rfl⟩ := host'.name_end
  cases host.name
  cases host'.name
  cases Except.ok.inj (record_read.symm.trans record_read')
  cases Except.ok.inj (high_read.symm.trans high_read')
  cases Except.ok.inj (low_read.symm.trans low_read')
  cases Except.ok.inj (len_read.symm.trans len_read')
  cases Except.ok.inj (name_read.symm.trans name_read')
  rfl

section agree
variable {buf buf' : List UInt8} {size : Nat} (agree : buf'.take size = buf.take size)
include agree

lemma BlockAt.of_agree {start blockEnd : Nat} (block : BlockAt buf start blockEnd)
    (inside : start ≤ size) : BlockAt buf' start blockEnd := by
  obtain ⟨s, c, m, e, session, ciphers, compression, extensions, at_start, at_end⟩ := block
  exact ⟨s, c, m, e, index_agree agree session (by omega), uint16_agree agree ciphers (by omega),
    index_agree agree compression (by omega), uint16_agree agree extensions (by omega), at_start,
    at_end⟩

lemma FirstServerName.of_agree {blockEnd pos first : Nat}
    (walk : FirstServerName buf blockEnd pos first) (inside : first + 4 ≤ size) :
    FirstServerName buf' blockEnd pos first := by
  induction walk with
  | here bound type_read => exact .here bound (uint16_agree agree type_read (by omega))
  | later bound type_read named len_read rest ih =>
    have forward := rest.le
    exact .later bound (uint16_agree agree type_read (by omega)) named
      (uint16_agree agree len_read (by omega)) (ih inside)

end agree

/-- A frame whose name ends inside the record is read from the record alone. -/
lemma Declares.of_agree {buf buf' : List UInt8} {frame : Frame} (declared : Declares buf frame)
    (inside : frame.nameEnd ≤ frame.record)
    (agree : buf'.take frame.record = buf.take frame.record) : Declares buf' frame := by
  obtain ⟨n, record_read, record⟩ := declared.record
  obtain ⟨high, low, high_read, low_read, message⟩ := declared.message
  obtain ⟨start, pos, at_block, walk, host⟩ := declared.extension
  obtain ⟨extLen, len_read, extension⟩ := host.extension
  obtain ⟨nameLen, name_read, name_end⟩ := host.name_end
  have forward := walk.le
  have later : 9 ≤ start := by
    obtain ⟨_, _, _, _, _, _, _, _, at_start, _⟩ := at_block
    omega
  have complete : frame.record ≤ buf'.length := by
    have size := congrArg List.length agree
    rw [List.length_take, List.length_take, Nat.min_eq_left declared.complete] at size
    omega
  exact {
    handshake := index_agree agree declared.handshake (by omega)
    record := ⟨n, uint16_agree agree record_read (by omega), record⟩
    complete
    client_hello := index_agree agree declared.client_hello (by omega)
    message := ⟨high, low, index_agree agree high_read (by omega),
      uint16_agree agree low_read (by omega), message⟩
    extension := ⟨start, pos, at_block.of_agree agree (by omega), walk.of_agree agree (by omega), {
      extension := ⟨extLen, uint16_agree agree len_read (by omega), extension⟩
      host_name := index_agree agree host.host_name (by omega)
      name := host.name
      name_end := ⟨nameLen, uint16_agree agree name_read (by omega), name_end⟩
      nonempty := host.nonempty
      inside := Nat.le_trans inside complete }⟩ }

lemma Frame.hostName_agree {buf buf' : List UInt8} {frame : Frame}
    (inside : frame.nameEnd ≤ frame.record)
    (agree : buf'.take frame.record = buf.take frame.record) :
    frame.hostName buf' = frame.hostName buf := by
  have same := congrArg (fun bytes => (bytes.take frame.nameEnd).drop frame.name) agree
  simp only [List.take_take, Nat.min_eq_left inside, List.drop_take] at same
  exact same

/-- The name comes from inside its extension, and the extension from inside the record. -/
def Contained (buf : List UInt8) (name : GoString) : Prop :=
  ∃ frame, Declares buf frame ∧ frame.Nested ∧ name = frame.hostName buf ∧
    ∀ buf', buf'.take frame.record = buf.take frame.record → parseSNI buf' = .ok name

/-- Every name that `ParseSNI` returns comes from inside the record exactly when the ends that the
lengths declare for a host name are nested. -/
theorem contained_iff (buf : List UInt8) :
    (∀ name, parseSNI buf = .ok name → name ≠ [] → Contained buf name) ↔
      ∀ frame, Declares buf frame → frame.Nested := by
  constructor
  · intro sound frame declared
    have some_byte : frame.hostName buf ≠ [] := by
      obtain ⟨_, _, _, _, host⟩ := declared.extension
      have nonempty := host.nonempty
      have inside := host.inside
      apply List.ne_nil_of_length_pos
      rw [Frame.hostName, List.length_take, List.length_drop]
      omega
    have found := (parseSNI_eq_ok some_byte).mpr ⟨frame, declared, rfl⟩
    obtain ⟨frame', declared', nested, _⟩ := sound _ found some_byte
    exact declared.unique declared' ▸ nested
  · rintro nested name found some_byte
    obtain ⟨frame, declared, rfl⟩ := (parseSNI_eq_ok some_byte).mp found
    have ends := nested frame declared
    have inside := ends.name_inside
    refine ⟨frame, declared, ends, rfl, fun buf' agree => ?_⟩
    exact (parseSNI_eq_ok some_byte).mpr
      ⟨frame, declared.of_agree inside agree, (Frame.hostName_agree inside agree).symm⟩

/-- A record with an empty server_name extension at its end, and a list with a host name of one byte
behind the record. -/
def nameBehind (b : UInt8) : List UInt8 :=
  [0x16, 3, 1, 0, 48, 1, 0, 0, 44, 3, 3] ++ List.replicate 32 0 ++ [0, 0, 0, 0, 0, 4, 0, 0, 0, 0] ++
    [0, 4, 0, 0, 1, b]

lemma nameBehind_declares (b : UInt8) : Declares (nameBehind b) ⟨53, 53, 53, 53, 58, 59⟩ where
  handshake := rfl
  record := ⟨48, rfl, rfl⟩
  complete := Nat.le_of_ble_eq_true rfl
  client_hello := rfl
  message := ⟨0, 44, rfl, rfl, rfl⟩
  extension := ⟨49, 49, ⟨0, 0, 0, 4, rfl, rfl, rfl, rfl, rfl, rfl⟩, .here (by decide) rfl, {
    extension := ⟨0, rfl, rfl⟩
    host_name := rfl
    name := rfl
    name_end := ⟨1, rfl, rfl⟩
    nonempty := by decide
    inside := Nat.le_of_ble_eq_true rfl }⟩

/-- The name behind the record is returned, and is another one when the bytes there are. -/
theorem name_behind_record : parseSNI (nameBehind 97) = .ok (lit "a") ∧
    parseSNI (nameBehind 98) = .ok (lit "b") ∧ ¬ Contained (nameBehind 97) (lit "a") := by
  have first : parseSNI (nameBehind 97) = .ok (lit "a") :=
    (parseSNI_eq_ok (by decide)).mpr ⟨_, nameBehind_declares 97, rfl⟩
  have second : parseSNI (nameBehind 98) = .ok (lit "b") :=
    (parseSNI_eq_ok (by decide)).mpr ⟨_, nameBehind_declares 98, rfl⟩
  refine ⟨first, second, ?_⟩
  rintro ⟨frame, declared, -, -, unchanged⟩
  rw [declared.unique (nameBehind_declares 97)] at unchanged
  have same := unchanged (nameBehind 98) (by decide)
  rw [second] at same
  exact absurd (Except.ok.inj same) (by decide)

end Pintle
