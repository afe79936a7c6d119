import PicoBroker.Config.Serialization

set_option autoImplicit false

namespace SmartboxConfig

open Checks Checksums Fields

theorem crcBit_toBitVec (crc : UInt32) : (crcBit crc).toBitVec = shift 0xEDB88320#32 crc.toBitVec := by
  have low : (crc &&& 1).toBitVec = if crc.toBitVec.getLsbD 0 then 1#32 else 0#32 := by
    rw [UInt32.toBitVec_and]
    refine BitVec.and_one_eq_setWidth_ofBool_getLsbD.trans ?_
    cases crc.toBitVec.getLsbD 0 <;> rfl
  simp only [crcBit, shift, UInt32.toBitVec_xor, UInt32.toBitVec_and, UInt32.toBitVec_sub,
    UInt32.toBitVec_shiftRight] at low ⊢
  rw [low]
  -- The mask is all ones where the bit shifted out is set.
  congr 1
  split <;> rfl

theorem crcBit_injective : Function.Injective crcBit := by
  intro left right same
  apply UInt32.toBitVec_inj.mp
  have top : (0xEDB88320#32).getLsbD (32 - 1) = true := by decide
  apply shift_injective top
  rw [← crcBit_toBitVec, ← crcBit_toBitVec, same]

theorem crcByte_separates : Separates crcByte where
  states byte left right same := by
    have := crcBit_injective.iterate 8 same
    exact (UInt32.xor_left_inj _).mp this
  symbols crc left right same := by
    have := crcBit_injective.iterate 8 same
    exact UInt8.toUInt32_inj.mp ((UInt32.xor_right_inj _).mp this)

theorem crc32_set_ne {payload : List UInt8} {index : Nat} {byte : UInt8}
    (changed : ∃ old ∈ payload[index]?, old ≠ byte) : crc32 (payload.set index byte) ≠ crc32 payload := by
  intro same
  exact crcByte_separates.foldl_set_ne changed _ (UInt32.not_inj.mp same)

theorem crcByte_toBitVec (crc : UInt32) (byte : UInt8) :
    (crcByte crc byte).toBitVec = register 0xEDB88320#32 crc.toBitVec byte.toBitVec := by
  have stepped : Function.Semiconj UInt32.toBitVec crcBit (shift 0xEDB88320#32) := crcBit_toBitVec
  exact stepped.iterate_right 8 (crc ^^^ byte.toUInt32)

theorem foldl_crcByte_toBitVec (bytes : List UInt8) (crc : UInt32) :
    (bytes.foldl crcByte crc).toBitVec =
      (bytes.map UInt8.toBitVec).foldl (register 0xEDB88320#32) crc.toBitVec := by
  induction bytes generalizing crc with
  | nil => rfl
  | cons byte rest ih => rw [List.foldl_cons, ih, crcByte_toBitVec, List.map_cons, List.foldl_cons]

-- Four bytes are as wide as the register.
theorem crcByte_separates_blocks (crc : UInt32) (left right : List UInt8) (length : left.length = right.length)
    (short : left.length ≤ 4) (same : left.foldl crcByte crc = right.foldl crcByte crc) : left = right := by
  have registers := congrArg UInt32.toBitVec same
  rw [foldl_crcByte_toBitVec, foldl_crcByte_toBitVec] at registers
  have top : (0xEDB88320#32).getLsbD (32 - 1) = true := by decide
  have bits : left.map UInt8.toBitVec = right.map UInt8.toBitVec :=
    register_separates_blocks top (by simpa using length) (by rw [List.length_map]; omega) registers
  exact List.map_injective_iff.mpr (fun _ _ => UInt8.toBitVec_inj.mp) bits

section

variable {kind : BlobKind} {schemaVersion : UInt16} {configVersion : UInt32} {payload : List UInt8}

theorem length_envelope :
    (envelope kind schemaVersion configVersion payload).length = headerLen + payload.length := by
  simp [envelope, magic, headerLen]
  omega

theorem BlobKind.ofByte_eq_some {byte : UInt8} : BlobKind.ofByte byte = some kind ↔ byte = kind.toByte := by
  constructor
  · intro found
    unfold BlobKind.ofByte at found
    split at found
    · next canonical =>
      cases found
      exact canonical
    · split at found
      · next compiled =>
        cases found
        exact compiled
      · cases found
  · rintro rfl
    cases kind <;> rfl

theorem decodeKind_bind_eq_ok {β : Type} {byte : UInt8} {andThen : BlobKind → Except CodecError β} {result : β} :
    (decodeKind byte >>= andThen) = .ok result ↔ ∃ kind : BlobKind, byte = kind.toByte ∧ andThen kind = .ok result := by
  simp only [← BlobKind.ofByte_eq_some, bind_eq_ok, decodeKind]
  split <;> simp_all

theorem decodePayload_bind_eq_ok {α β : Type} {postcard : Postcard α} {andThen : α → Except CodecError β}
    {result : β} : (decodePayload postcard payload >>= andThen) = .ok result ↔
      ∃ value, postcard.fromBytes payload = some value ∧ andThen value = .ok result := by
  simp only [bind_eq_ok, decodePayload]
  split <;> simp_all

theorem ofBigEndian_word16 (value : UInt16) : ofBigEndian (bigEndian 2 value.toNat) = value.toNat := by
  rw [ofBigEndian_bigEndian]
  exact Nat.mod_eq_of_lt value.toNat_lt

theorem ofBigEndian_word32 (value : UInt32) : ofBigEndian (bigEndian 4 value.toNat) = value.toNat := by
  rw [ofBigEndian_bigEndian]
  exact Nat.mod_eq_of_lt value.toNat_lt

-- Fields of a header that was read, written again.
theorem bigEndian_word16 {bytes : List UInt8} (two : bytes.length = 2) :
    bigEndian 2 (UInt16.ofNat (ofBigEndian bytes)).toNat = bytes := by
  have small := ofBigEndian_lt bytes
  rw [two] at small
  rw [UInt16.toNat_ofNat_of_lt' small, bigEndian_ofBigEndian two]

theorem bigEndian_word32 {bytes : List UInt8} (four : bytes.length = 4) :
    bigEndian 4 (UInt32.ofNat (ofBigEndian bytes)).toNat = bytes := by
  have small := ofBigEndian_lt bytes
  rw [four] at small
  rw [UInt32.toNat_ofNat_of_lt' small, bigEndian_ofBigEndian four]

theorem envelope_of_fields {input : List UInt8} (long : headerLen ≤ input.length)
    (marked : slice input 0 4 = magic) (format : input.getD 4 0 = formatVersion)
    (named : input.getD 5 0 = kind.toByte)
    (whole : input.length = headerLen + ofBigEndian (slice input 12 16))
    (summed : crc32 (slice input headerLen (headerLen + ofBigEndian (slice input 12 16))) =
      UInt32.ofNat (ofBigEndian (slice input 16 20))) :
    input = envelope kind (UInt16.ofNat (ofBigEndian (slice input 6 8)))
      (UInt32.ofNat (ofBigEndian (slice input 8 12))) (input.drop headerLen) := by
  have length : (input.drop headerLen).length = ofBigEndian (slice input 12 16) := by
    rw [List.length_drop]
    omega
  have lengthField : bigEndian 4 (ofBigEndian (slice input 12 16)) = slice input 12 16 :=
    bigEndian_ofBigEndian (length_slice (Nat.le_trans (by decide) long))
  have bytes : [formatVersion, kind.toByte] = slice input 4 5 ++ slice input 5 6 := by
    rw [slice_one (Nat.lt_of_lt_of_le (by decide) long), slice_one (Nat.lt_of_lt_of_le (by decide) long),
      format, named, List.singleton_append]
  rw [← whole, slice_end] at summed
  simp only [headerLen] at long summed length ⊢
  unfold envelope
  rw [summed, length, lengthField, bytes, ← marked, bigEndian_word16 (length_slice (by omega)),
    bigEndian_word32 (length_slice (by omega)), bigEndian_word32 (length_slice (by omega))]
  -- The slices follow each other without a gap.
  simp [List.append_assoc, slice_append_drop]

theorem lengthField_envelope (short : payload.length < UInt32.size) :
    ofBigEndian (slice (envelope kind schemaVersion configVersion payload) 12 16) = payload.length := by
  have field : slice (envelope kind schemaVersion configVersion payload) 12 16 = bigEndian 4 payload.length := rfl
  rw [field, ofBigEndian_bigEndian]
  exact Nat.mod_eq_of_lt short

theorem crcField_envelope :
    ofBigEndian (slice (envelope kind schemaVersion configVersion payload) 16 20) = (crc32 payload).toNat := by
  have field : slice (envelope kind schemaVersion configVersion payload) 16 20 =
    bigEndian 4 (crc32 payload).toNat := rfl
  rw [field, ofBigEndian_word32]

theorem schemaField_envelope :
    ofBigEndian (slice (envelope kind schemaVersion configVersion payload) 6 8) = schemaVersion.toNat := by
  have field : slice (envelope kind schemaVersion configVersion payload) 6 8 =
    bigEndian 2 schemaVersion.toNat := rfl
  rw [field, ofBigEndian_word16]

theorem versionField_envelope :
    ofBigEndian (slice (envelope kind schemaVersion configVersion payload) 8 12) = configVersion.toNat := by
  have field : slice (envelope kind schemaVersion configVersion payload) 8 12 =
    bigEndian 4 configVersion.toNat := rfl
  rw [field, ofBigEndian_word32]

theorem drop_envelope : (envelope kind schemaVersion configVersion payload).drop headerLen = payload := rfl

theorem decodeEnvelopedWithin_eq_ok {α : Type} {postcard : Postcard α} {addressable : Nat} {input : List UInt8}
    {decoded : DecodedBlob α} :
    decodeEnvelopedWithin postcard addressable kind input = .ok decoded ↔
      decoded.kind = kind ∧ ∃ payload, payload.length < UInt32.size ∧ headerLen + payload.length < addressable ∧
        input = envelope kind decoded.schemaVersion decoded.configVersion payload ∧
        postcard.fromBytes payload = some decoded.value := by
  simp only [decodeEnvelopedWithin, seq_eq_ok, require_eq_ok, decodeKind_bind_eq_ok, decodePayload_bind_eq_ok,
    Except.ok.injEq]
  constructor
  · rintro ⟨long, marked, format, _, named, rfl, small, whole, summed, value, read, rfl⟩
    refine ⟨rfl, input.drop headerLen, ?_, ?_, envelope_of_fields long marked format named whole summed, ?_⟩
    · have field := ofBigEndian_lt (slice input 12 16)
      rw [length_slice (Nat.le_trans (by decide) long)] at field
      rw [List.length_drop, whole, Nat.add_sub_cancel_left]
      exact field
    · rw [List.length_drop]
      omega
    · rwa [← whole, slice_end] at read
  · obtain ⟨decodedKind, schemaVersion, configVersion, value⟩ := decoded
    rintro ⟨rfl, payload, short, small, rfl, read⟩
    rw [lengthField_envelope short, crcField_envelope, schemaField_envelope, versionField_envelope,
      ← length_envelope, slice_end, drop_envelope, UInt16.ofNat_toNat, UInt32.ofNat_toNat, UInt32.ofNat_toNat]
    refine ⟨?_, rfl, rfl, _, rfl, rfl, ?_, rfl, rfl, value, read, rfl⟩
    · rw [length_envelope]
      exact Nat.le_add_right ..
    · rwa [length_envelope]

theorem decodeEnveloped_eq_ok {α : Type} {postcard : Postcard α} {input : List UInt8} {decoded : DecodedBlob α} :
    decodeEnveloped postcard kind input = .ok decoded ↔
      decoded.kind = kind ∧ ∃ payload, headerLen + payload.length < UInt32.size ∧
        input = envelope kind decoded.schemaVersion decoded.configVersion payload ∧
        postcard.fromBytes payload = some decoded.value := by
  rw [decodeEnveloped, decodeEnvelopedWithin_eq_ok]
  refine and_congr_right fun _ => exists_congr fun payload => ?_
  exact and_iff_right_of_imp fun fits => Nat.lt_of_le_of_lt (Nat.le_add_left ..) fits.1

inductive Corrupted (blob : List UInt8) : List UInt8 → Prop
  | changed {index : Nat} {byte : UInt8} (different : ∃ old ∈ blob[index]?, old ≠ byte) :
      Corrupted blob (blob.set index byte)
  | truncated {length : Nat} (shorter : length < blob.length) : Corrupted blob (blob.take length)
  | extended {more : List UInt8} (nonempty : more ≠ []) : Corrupted blob (blob ++ more)

-- The length in the header fixes the length of the whole blob.
theorem envelope_append_ne {other more : List UInt8} (small : headerLen + payload.length < UInt32.size)
    (otherSmall : headerLen + other.length < UInt32.size) (nonempty : more ≠ []) :
    envelope kind schemaVersion configVersion payload ++ more ≠
      envelope kind schemaVersion configVersion other := by
  intro same
  have long : 16 ≤ (envelope kind schemaVersion configVersion payload).length := by
    rw [length_envelope, headerLen]
    omega
  have short : payload.length < UInt32.size := by omega
  have otherShort : other.length < UInt32.size := by omega
  have fields := congrArg (fun blob => ofBigEndian (slice blob 12 16)) same
  simp only [slice_append_left long, lengthField_envelope short, lengthField_envelope otherShort] at fields
  have lengths := congrArg List.length same
  rw [List.length_append, length_envelope, length_envelope] at lengths
  exact nonempty (List.eq_nil_of_length_eq_zero (by omega))

theorem envelope_set_ne {other : List UInt8} {index : Nat} {byte : UInt8}
    (different : ∃ old ∈ (envelope kind schemaVersion configVersion payload)[index]?, old ≠ byte) :
    (envelope kind schemaVersion configVersion payload).set index byte ≠
      envelope kind schemaVersion configVersion other := by
  intro same
  have payloads := congrArg (List.drop headerLen) same
  rw [drop_envelope, List.drop_set, drop_envelope] at payloads
  split at payloads
  · -- A change in the header leaves the payload, and the payload determines the header.
    obtain ⟨old, found, changed⟩ := different
    have stored := congrArg (·[index]?) same
    obtain ⟨inside, -⟩ := List.getElem?_eq_some_iff.mp found
    simp only [← payloads, List.getElem?_set_self inside] at stored
    exact changed (Option.some.inj (found.symm.trans stored.symm))
  · next behind =>
    have within : headerLen ≤ index := Nat.le_of_not_lt behind
    have stored := calc payload[index - headerLen]?
      _ = ((envelope kind schemaVersion configVersion payload).drop headerLen)[index - headerLen]? := rfl
      _ = (envelope kind schemaVersion configVersion payload)[headerLen + (index - headerLen)]? :=
        List.getElem?_drop
      _ = (envelope kind schemaVersion configVersion payload)[index]? := by rw [Nat.add_sub_cancel' within]
    have fields := congrArg (fun blob => ofBigEndian (slice blob 16 20)) same
    simp only [slice_set_of_le (show 20 ≤ index from within), crcField_envelope, ← payloads] at fields
    exact crc32_set_ne (stored ▸ different) (UInt32.toNat_inj.mp fields).symm

theorem Corrupted.ne_envelope {other damaged : List UInt8} (small : headerLen + payload.length < UInt32.size)
    (otherSmall : headerLen + other.length < UInt32.size)
    (corrupted : Corrupted (envelope kind schemaVersion configVersion payload) damaged) :
    damaged ≠ envelope kind schemaVersion configVersion other := by
  cases corrupted with
  | changed different => exact envelope_set_ne different
  | @truncated length shorter =>
    intro same
    have cut := List.take_append_drop length (envelope kind schemaVersion configVersion payload)
    rw [same] at cut
    refine envelope_append_ne otherSmall small ?_ cut
    rw [ne_eq, List.drop_eq_nil_iff]
    omega
  | extended nonempty => exact envelope_append_ne small otherSmall nonempty

end

end SmartboxConfig
