import Pintle.Server.Sni

/-!
# The encoding of a ClientHello

The messages `ParseSNI` is for, as records whose fields carry the bounds of the TLS vectors, and
their encoding in one TLS record. The helper of `internal/server/sni_test.go` builds one of them: no
session, one cipher suite, one compression method and at most one extension. `parseSNI_encode` says
that `ParseSNI` inverts the encoding of every one.
-/

namespace Pintle
open Go

/-- A vector of at most `bound` bytes. -/
structure Opaque (bound : Nat) where
  bytes : List UInt8
  fits : bytes.length ≤ bound

namespace Opaque

/-- A vector behind a length of one byte. -/
def vec8 (v : Opaque 255) : List UInt8 := UInt8.ofNat v.bytes.length :: v.bytes

/-- A vector behind a length of two bytes. -/
def vec16 (v : Opaque 65535) : List UInt8 := putUint16 v.bytes.length ++ v.bytes

end Opaque

/-- The length byte behind a prefix leads past a vector. -/
lemma Opaque.vec8_read (v : Opaque 255) {buf : List UInt8} (pre rest : List UInt8)
    (split : buf = pre ++ (v.vec8 ++ rest)) {pos : Nat} (at_end : pos = pre.length) :
    ∃ b, index buf pos = .ok b ∧ pos + (1 + b.toNat) = (pre ++ v.vec8).length := by
  refine ⟨UInt8.ofNat v.bytes.length, index_at pre (v.bytes ++ rest) split at_end, ?_⟩
  have fits := v.fits
  rw [UInt8.toNat_ofNat', Nat.mod_eq_of_lt (by omega), vec8, List.length_append, List.length_cons]
  omega

/-- The length behind a prefix leads past a vector. -/
lemma Opaque.vec16_read (v : Opaque 65535) {buf : List UInt8} (pre rest : List UInt8)
    (split : buf = pre ++ (v.vec16 ++ rest)) {pos : Nat} (at_end : pos = pre.length) :
    ∃ n, uint16 buf pos = .ok n ∧ pos + (2 + n) = (pre ++ v.vec16).length := by
  refine ⟨v.bytes.length, uint16_at pre (v.bytes ++ rest) ?_ at_end ?_, ?_⟩
  · rw [split, vec16, List.append_assoc]
  · have fits := v.fits
    omega
  · simp only [vec16, List.length_append, length_putUint16]
    omega

/-- An extension: a server_name list whose first entry is a host_name, with the bytes of its
remaining entries, or an extension of another type with any body. -/
inductive Extension where
  | serverName (hostName others : List UInt8) (fits : hostName.length + others.length + 5 ≤ 65535)
  | other (extType : UInt16) (named : extType ≠ 0) (body : Opaque 65535)

namespace Extension

/-- The body of a server_name extension. -/
def nameList (hostName others : List UInt8) : List UInt8 :=
  putUint16 (3 + hostName.length + others.length) ++
    0x00 :: (putUint16 hostName.length ++ (hostName ++ others))

/-- An extension as it stands in the block. -/
def encode : Extension → List UInt8
  | serverName hostName others _ =>
    putUint16 0 ++ (putUint16 (nameList hostName others).length ++ nameList hostName others)
  | other extType _ body => putUint16 extType.toNat ++ body.vec16

/-- The name an extension declares. -/
def hostName? : Extension → Option GoString
  | serverName hostName _ _ => some hostName
  | other _ _ _ => none

end Extension

/-- The fields of a ClientHello. The extension block may be absent. -/
structure HelloFields where
  version : Vector UInt8 2
  random : Vector UInt8 32
  sessionId : Opaque 255
  cipherSuites : Opaque 65535
  compressionMethods : Opaque 255
  extensions : Option (List Extension)

namespace HelloFields

/-- The extension block. -/
def extensionBlock (hello : HelloFields) : List UInt8 :=
  match hello.extensions with
  | none => []
  | some exts =>
    let block := exts.flatMap Extension.encode
    putUint16 block.length ++ block

/-- The body of the handshake message. -/
def body (hello : HelloFields) : List UInt8 :=
  hello.version.toList ++ (hello.random.toList ++ (hello.sessionId.vec8 ++
    (hello.cipherSuites.vec16 ++ (hello.compressionMethods.vec8 ++ hello.extensionBlock))))

/-- The handshake message: its type, the length in three bytes, and the body. -/
def handshake (hello : HelloFields) : List UInt8 :=
  0x01 :: UInt8.ofNat (hello.body.length / 65536) :: (putUint16 hello.body.length ++ hello.body)

/-- The name the first server_name extension declares, or the empty string. -/
def serverName (hello : HelloFields) : GoString :=
  match hello.extensions with
  | none => []
  | some exts => (exts.findSome? Extension.hostName?).getD []

end HelloFields

/-- A ClientHello that fits in one TLS record. -/
structure ClientHello extends HelloFields where
  fits : toHelloFields.handshake.length ≤ 2 ^ 14

/-- The record that carries a ClientHello, with its version bytes. -/
def ClientHello.encode (recordVersion : Vector UInt8 2) (hello : ClientHello) : List UInt8 :=
  0x16 :: (recordVersion.toList ++ (putUint16 hello.handshake.length ++ hello.handshake))

lemma Extension.length_nameList (hostName others : List UInt8) :
    (nameList hostName others).length = hostName.length + others.length + 5 := by
  simp only [nameList, List.length_append, List.length_cons, length_putUint16]
  omega

/-- The loop answers with the name of a server_name extension it meets. -/
lemma parseExtensions_serverName {pre rest hostName others : List UInt8}
    (fits : hostName.length + others.length + 5 ≤ 65535) {extensionsEnd pos : Nat}
    (at_ext : pos = pre.length) (inside : pos + 4 ≤ extensionsEnd) :
    parseExtensions (pre ++ ((Extension.serverName hostName others fits).encode ++ rest))
      extensionsEnd pos = .ok hostName := by
  have size := Extension.length_nameList hostName others
  generalize split : pre ++ ((Extension.serverName hostName others fits).encode ++ rest) = buf
  have framed : buf = pre ++ (putUint16 0 ++ (putUint16 (Extension.nameList hostName others).length ++
      (Extension.nameList hostName others ++ rest))) := by
    simp only [← split, Extension.encode, List.append_assoc]
  have length : buf.length = pos + 4 + (hostName.length + others.length + 5) + rest.length := by
    simp only [framed, List.length_append, length_putUint16, size, at_ext]
    omega
  have type_read : uint16 buf pos = .ok 0 := uint16_at pre _ framed at_ext (by decide)
  have len_read : uint16 buf (pos + 2) = .ok (Extension.nameList hostName others).length :=
    uint16_at (pre ++ putUint16 0) _ (by rw [framed, List.append_assoc]) (by simp [at_ext])
      (by omega)
  -- the fields behind the frame of the extension
  let frame := pre ++ putUint16 0 ++ putUint16 (Extension.nameList hostName others).length ++
    putUint16 (3 + hostName.length + others.length)
  have frame_length : frame.length = pos + 4 + 2 := by simp [frame, at_ext]
  have opened : buf =
      frame ++ 0x00 :: (putUint16 hostName.length ++ (hostName ++ (others ++ rest))) := by
    simp only [framed, frame, Extension.nameList, List.append_assoc, List.cons_append]
  have kind_read : index buf (pos + 4 + 2) = .ok 0x00 := index_at frame _ opened frame_length.symm
  have name_len_read : uint16 buf (pos + 4 + 3) = .ok hostName.length :=
    uint16_at (frame ++ [0x00]) (hostName ++ (others ++ rest)) (by simp [opened])
      (by simp [frame_length]) (by omega)
  have name_read : slice buf (pos + 4 + 5) (pos + 4 + 5 + hostName.length) = .ok hostName :=
    slice_at (frame ++ [0x00] ++ putUint16 hostName.length) (others ++ rest) (by simp [opened])
      (by simp [frame_length]) rfl
  rw [parseExtensions, dif_pos ⟨inside, by omega⟩]
  simp only [type_read, len_read, kind_read, name_len_read, name_read, bind, Except.bind]
  rw [if_pos trivial, if_neg (by omega), if_neg (by simp), if_neg (by omega)]

/-- The loop steps over an extension of another type. -/
lemma parseExtensions_other {pre rest : List UInt8} {extType : UInt16} (named : extType ≠ 0)
    (body : Opaque 65535) {extensionsEnd pos : Nat} (at_ext : pos = pre.length)
    (inside : pos + 4 ≤ extensionsEnd) :
    parseExtensions (pre ++ ((Extension.other extType named body).encode ++ rest)) extensionsEnd pos =
      parseExtensions (pre ++ ((Extension.other extType named body).encode ++ rest)) extensionsEnd
        (pos + (Extension.other extType named body).encode.length) := by
  generalize split : pre ++ ((Extension.other extType named body).encode ++ rest) = buf
  have framed : buf = pre ++ (putUint16 extType.toNat ++
      (putUint16 body.bytes.length ++ (body.bytes ++ rest))) := by
    simp only [← split, Extension.encode, Opaque.vec16, List.append_assoc]
  have length : buf.length = pos + 4 + body.bytes.length + rest.length := by
    simp only [framed, List.length_append, length_putUint16, at_ext]
    omega
  have type_read : uint16 buf pos = .ok extType.toNat := uint16_at pre _ framed at_ext extType.toNat_lt
  have len_read : uint16 buf (pos + 2) = .ok body.bytes.length :=
    uint16_at (pre ++ putUint16 extType.toNat) _ (by rw [framed, List.append_assoc])
      (by simp [at_ext]) (by have := body.fits; omega)
  have type_named : extType.toNat ≠ 0 := fun zero => named (UInt16.toNat_inj.mp zero)
  have step : pos + (Extension.other extType named body).encode.length =
      pos + 4 + body.bytes.length := by
    simp [Extension.encode, Opaque.vec16]
    omega
  rw [parseExtensions, dif_pos ⟨inside, by omega⟩, step]
  simp only [type_read, len_read, bind, Except.bind]
  rw [if_neg type_named]

/-- The loop finds the first declared name in the block that ends the buffer. -/
lemma parseExtensions_encode {pre : List UInt8} (exts : List Extension) {extensionsEnd pos : Nat}
    (at_block : pos = pre.length)
    (at_end : extensionsEnd = pos + (exts.flatMap Extension.encode).length) :
    parseExtensions (pre ++ exts.flatMap Extension.encode) extensionsEnd pos =
      .ok ((exts.findSome? Extension.hostName?).getD []) := by
  induction exts generalizing pre pos with
  | nil =>
    rw [parseExtensions, dif_neg]
    · rfl
    · simp only [List.flatMap_nil, List.length_nil] at at_end
      omega
  | cons ext exts ih =>
    rw [List.flatMap_cons, List.length_append] at at_end
    rw [List.flatMap_cons]
    cases ext with
    | serverName hostName others fits =>
      rw [parseExtensions_serverName fits at_block]
      · rfl
      · simp only [Extension.encode, List.length_append, length_putUint16] at at_end
        omega
    | other extType named body =>
      rw [parseExtensions_other named body at_block, ← List.append_assoc]
      · exact ih (by simp [at_block]) (by omega)
      · simp only [Extension.encode, Opaque.vec16, List.length_append, length_putUint16] at at_end
        omega

/-- The bytes before the session id. -/
def ClientHello.head (recordVersion : Vector UInt8 2) (hello : ClientHello) : List UInt8 :=
  0x16 :: (recordVersion.toList ++ (putUint16 hello.handshake.length ++
    0x01 :: UInt8.ofNat (hello.body.length / 65536) :: (putUint16 hello.body.length ++
      (hello.version.toList ++ hello.random.toList))))

lemma ClientHello.length_head (recordVersion : Vector UInt8 2) (hello : ClientHello) :
    (hello.head recordVersion).length = 43 := by
  simp [head]

/-- The vectors of a ClientHello behind its head. -/
lemma ClientHello.encode_eq (recordVersion : Vector UInt8 2) (hello : ClientHello) :
    hello.encode recordVersion = hello.head recordVersion ++ (hello.sessionId.vec8 ++
      (hello.cipherSuites.vec16 ++ (hello.compressionMethods.vec8 ++ hello.extensionBlock))) := by
  simp [encode, head, HelloFields.handshake, HelloFields.body]

lemma ClientHello.length_encode (recordVersion : Vector UInt8 2) (hello : ClientHello) :
    (hello.encode recordVersion).length = 5 + hello.handshake.length := by
  simp [encode]
  omega

/-- The extension block is read behind the vectors, and its absence is read as no name. -/
lemma ClientHello.block_read (hello : ClientHello) {buf : List UInt8} (pre : List UInt8)
    (split : buf = pre ++ hello.extensionBlock) {pos : Nat} (at_end : pos = pre.length) :
    (if pos + 2 > buf.length then Except.ok [] else do
      let extensionsLen ← uint16 buf pos
      parseExtensions buf (pos + 2 + extensionsLen) (pos + 2)) = .ok hello.serverName := by
  have fits := hello.fits
  cases extensions : hello.extensions with
  | none =>
    have short : buf.length = pos := by
      simp [split, HelloFields.extensionBlock, extensions, at_end]
    rw [if_pos (by omega), HelloFields.serverName, extensions]
  | some exts =>
    have small : (exts.flatMap Extension.encode).length < 65536 := by
      have inside : (exts.flatMap Extension.encode).length ≤ hello.handshake.length := by
        simp [HelloFields.handshake, HelloFields.body, HelloFields.extensionBlock, extensions]
        omega
      omega
    have framed : buf = pre ++ (putUint16 (exts.flatMap Extension.encode).length ++
        exts.flatMap Extension.encode) := by
      rw [split, HelloFields.extensionBlock, extensions]
    have length : buf.length = pos + 2 + (exts.flatMap Extension.encode).length := by
      simp only [framed, List.length_append, length_putUint16, at_end]
      omega
    rw [if_neg (by omega), uint16_at pre _ framed at_end small]
    change parseExtensions buf (pos + 2 + _) (pos + 2) = _
    rw [framed, ← List.append_assoc, HelloFields.serverName, extensions]
    exact parseExtensions_encode exts (by simp [at_end]) rfl

/-- `ParseSNI` inverts the encoding of a ClientHello: it returns the name of the first server_name
extension, and the empty string without one. -/
theorem parseSNI_encode (recordVersion : Vector UInt8 2) (hello : ClientHello) :
    parseSNI (hello.encode recordVersion) = .ok hello.serverName := by
  have record_length := hello.length_encode recordVersion
  have fits := hello.fits
  have head := hello.length_head recordVersion
  have opened := hello.encode_eq recordVersion
  have type_read : index (hello.encode recordVersion) 0 = .ok 0x16 := index_at [] _ rfl rfl
  have length_read : uint16 (hello.encode recordVersion) 3 = .ok hello.handshake.length :=
    uint16_at (0x16 :: recordVersion.toList) _ rfl (by simp) (by omega)
  have message_read : index (hello.encode recordVersion) 5 = .ok 0x01 :=
    index_at (0x16 :: (recordVersion.toList ++ putUint16 hello.handshake.length)) _
      (by rw [ClientHello.encode, List.cons_append, List.append_assoc]; rfl) (by simp)
  generalize hello.encode recordVersion = buf at *
  obtain ⟨sessionIDLen, session_read, session_end⟩ :=
    hello.sessionId.vec8_read (hello.head recordVersion) _ opened head.symm
  rw [← List.append_assoc] at opened
  obtain ⟨cipherSuitesLen, ciphers_read, ciphers_end⟩ :=
    hello.cipherSuites.vec16_read _ _ opened session_end
  rw [← List.append_assoc] at opened
  obtain ⟨compressionLen, compression_read, compression_end⟩ :=
    hello.compressionMethods.vec8_read _ _ opened ciphers_end
  rw [← List.append_assoc] at opened
  have block := hello.block_read _ opened compression_end
  have length := congrArg List.length opened
  simp only [List.length_append] at length session_end ciphers_end compression_end
  unfold parseSNI
  simp only [type_read, length_read, message_read, session_read, ciphers_read, compression_read,
    bind, Except.bind, pure, Except.pure] at block ⊢
  rw [if_neg (by omega), if_neg (by simp), if_neg (by omega), if_neg (by simp), if_neg (by omega),
    if_neg (by omega), if_neg (by omega)]
  exact block

end Pintle
