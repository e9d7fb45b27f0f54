import Pintle.Go.Buffers

/-!
# The server name of a ClientHello

Model of `ParseSNI` of `internal/server/sni.go`. The cursor `pos` moves through the buffer as in the
source, and each read is checked (`Go.index`), so a read out of range is a panic of the model too.
`parseSNI_runs` says exactly on which inputs there is none.
-/

namespace Pintle
open Go

/-- The extension loop of Go `ParseSNI`. -/
def parseExtensions (buf : List UInt8) (extensionsEnd pos : Nat) : Except Panic GoString :=
  if inside : pos + 4 ≤ extensionsEnd ∧ pos + 4 ≤ buf.length then do
    let extType ← uint16 buf pos
    let extLen ← uint16 buf (pos + 2)
    if extType = 0x0000 then
      if pos + 4 + 5 > buf.length then
        return []
      let nameType ← index buf (pos + 4 + 2)
      if nameType ≠ 0x00 then
        return []
      let nameLen ← uint16 buf (pos + 4 + 3)
      if pos + 4 + 5 + nameLen > buf.length then
        return []
      slice buf (pos + 4 + 5) (pos + 4 + 5 + nameLen)
    else
      parseExtensions buf extensionsEnd (pos + 4 + extLen)
  else
    return []
  termination_by extensionsEnd - pos

/-- Go `ParseSNI`. -/
def parseSNI (buf : List UInt8) : Except Panic GoString := do
  if buf.length < 5 then
    return []
  if (← index buf 0) ≠ 0x16 then
    return []
  let recordLength ← uint16 buf 3
  if buf.length < 5 + recordLength then
    return []
  let pos := 5
  if (← index buf pos) ≠ 0x01 then
    return []
  -- handshake type and length, then version and random
  let pos := pos + 4 + (2 + 32)
  if pos ≥ buf.length then
    return []
  let sessionIDLen ← index buf pos
  let pos := pos + (1 + sessionIDLen.toNat)
  if pos + 2 > buf.length then
    return []
  let cipherSuitesLen ← uint16 buf pos
  let pos := pos + (2 + cipherSuitesLen)
  if pos ≥ buf.length then
    return []
  let compressionLen ← index buf pos
  let pos := pos + (1 + compressionLen.toNat)
  if pos + 2 > buf.length then
    return []
  let extensionsLen ← uint16 buf pos
  let pos := pos + 2
  parseExtensions buf (pos + extensionsLen) pos

/-- The extension loop never leaves the buffer. -/
lemma parseExtensions_runs (buf : List UInt8) (extensionsEnd pos : Nat) :
    Runs (parseExtensions buf extensionsEnd pos) := by
  induction pos using parseExtensions.induct buf extensionsEnd with
  | case1 pos inside ih =>
    rw [parseExtensions, dif_pos inside]
    refine (Runs.uint16 (by omega)).bind fun extType _ => ?_
    refine (Runs.uint16 (by omega)).bind fun extLen _ => ?_
    refine .ite (fun _ => ?_) fun _ => ih extLen
    refine .ite (fun _ => .pure _) fun entry => ?_
    refine (Runs.index (by omega)).bind fun nameType _ => ?_
    refine .ite (fun _ => .pure _) fun _ => ?_
    refine (Runs.uint16 (by omega)).bind fun nameLen _ => ?_
    refine .ite (fun _ => .pure _) fun name => ?_
    exact .slice (by omega) (by omega)
  | case2 pos outside =>
    rw [parseExtensions, dif_neg outside]
    exact .pure _

/-- A handshake record header that declares an empty record, and nothing after it. -/
def EmptyRecord (buf : List UInt8) : Prop :=
  buf.length = 5 ∧ buf[0]? = some 0x16 ∧ buf[3]? = some 0 ∧ buf[4]? = some 0

/-- The length check of the record passes on an empty record, and the handshake type lies behind it.
-/
lemma parseSNI_empty {buf : List UInt8} (empty : EmptyRecord buf) :
    parseSNI buf = .error (.index 5 5) := by
  obtain ⟨length, first, high, low⟩ := empty
  match buf, length with
  | [a, b, c, d, e], _ =>
    cases first
    cases high
    cases low
    rfl

/-- Every read of a buffer that is no empty record lies in the buffer. -/
lemma parseSNI_nonempty {buf : List UInt8} (nonempty : ¬ EmptyRecord buf) : Runs (parseSNI buf) := by
  unfold parseSNI
  refine .ite (fun _ => .pure _) fun header => ?_
  refine (Runs.index (by omega)).bind fun type type_read => ?_
  refine .ite (fun _ => .pure _) fun handshake => ?_
  refine (Runs.uint16 (by omega)).bind fun recordLength length_read => ?_
  refine .ite (fun _ => .pure _) fun record => ?_
  have inside : 5 < buf.length := by
    by_contra short
    have length : buf.length = 5 := by omega
    have zero : recordLength = 0 := by omega
    have bytes := uint16_eq_zero (zero ▸ length_read)
    have first : type = 0x16 := by simpa using handshake
    exact nonempty ⟨length, first ▸ index_eq_ok.mp type_read, bytes⟩
  refine (Runs.index inside).bind fun message _ => ?_
  refine .ite (fun _ => .pure _) fun _ => ?_
  refine .ite (fun _ => .pure _) fun session => ?_
  refine (Runs.index (by omega)).bind fun sessionIDLen _ => ?_
  refine .ite (fun _ => .pure _) fun ciphers => ?_
  refine (Runs.uint16 (by omega)).bind fun cipherSuitesLen _ => ?_
  refine .ite (fun _ => .pure _) fun compression => ?_
  refine (Runs.index (by omega)).bind fun compressionLen _ => ?_
  refine .ite (fun _ => .pure _) fun extensions => ?_
  exact (Runs.uint16 (by omega)).bind fun _ _ => parseExtensions_runs _ _ _

/-- `ParseSNI` ends, with every read inside the buffer, exactly on the buffers that are no empty
record. -/
theorem parseSNI_runs (buf : List UInt8) : Runs (parseSNI buf) ↔ ¬ EmptyRecord buf := by
  constructor
  · intro extension empty
    obtain ⟨name, ends⟩ := extension
    rw [parseSNI_empty empty] at ends
    cases ends
  · exact parseSNI_nonempty

/-- Five bytes end the process. -/
theorem parseSNI_panics :
    ¬ (∀ buf : List UInt8, Runs (parseSNI buf)) ∧
      parseSNI [0x16, 0x03, 0x01, 0x00, 0x00] = .error (.index 5 5) := by
  have panics : parseSNI [0x16, 0x03, 0x01, 0x00, 0x00] = .error (.index 5 5) := rfl
  refine ⟨?_, panics⟩
  intro safe
  obtain ⟨name, ends⟩ := safe [0x16, 0x03, 0x01, 0x00, 0x00]
  rw [panics] at ends
  cases ends

end Pintle
