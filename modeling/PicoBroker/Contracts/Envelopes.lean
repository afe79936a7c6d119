import PicoBroker.Config.Buffers

set_option autoImplicit false

namespace SmartboxConfig

open Checks Checksums Faults

structure RecognisedExactly {α : Type} (width : PointerWidth) (postcard : Postcard α) : Prop where
  accepts : ∀ (kind : BlobKind) (input : List UInt8) (decoded : DecodedBlob α), input.length < width.addressable →
    (Returns (decodeEnvelopedFrom width postcard kind input) decoded ↔
      decoded.kind = kind ∧ ∃ payload, payload.length < 2 ^ 32 ∧
        input = envelope kind decoded.schemaVersion decoded.configVersion payload ∧
        postcard.fromBytes payload = some decoded.value)
  inRange : ∀ (kind : BlobKind) (input : List UInt8), Safe (decodeEnvelopedFrom width postcard kind input)
  inverts : postcard.Inverts → ∀ (kind : BlobKind) (schemaVersion : UInt16) (configVersion : UInt32) (value : α)
    (out bytes : List UInt8), out.length < width.addressable →
    Returns (encodeEnvelopedInto width postcard kind schemaVersion configVersion value out) bytes →
    bytes.length < headerLen + 2 ^ 32 →
    Returns (decodeEnvelopedFrom width postcard kind bytes) ⟨kind, schemaVersion, configVersion, value⟩

section

variable {α : Type} {width : PointerWidth} {postcard : Postcard α} {kind : BlobKind}

theorem returns_decodeEnvelopedFrom {input : List UInt8} {decoded : DecodedBlob α}
    (addressed : input.length < width.addressable) :
    Returns (decodeEnvelopedFrom width postcard kind input) decoded ↔
      decoded.kind = kind ∧ ∃ payload, payload.length < 2 ^ 32 ∧
        input = envelope kind decoded.schemaVersion decoded.configVersion payload ∧
        postcard.fromBytes payload = some decoded.value := by
  rw [decodeEnvelopedFrom_eq, returns_attempt, decodeEnvelopedWithin_eq_ok]
  refine and_congr_right fun _ => exists_congr fun payload => and_congr_right fun _ => ?_
  -- A payload that is part of a slice is addressed with it.
  refine and_iff_right_of_imp ?_
  rintro ⟨rfl, _⟩
  rwa [length_envelope] at addressed

theorem returns_encodeEnvelopedInto {schemaVersion : UInt16} {configVersion : UInt32} {value : α}
    {out bytes : List UInt8} (addressed : out.length < width.addressable) :
    Returns (encodeEnvelopedInto width postcard kind schemaVersion configVersion value out) bytes ↔
      headerLen ≤ out.length ∧ ∃ payload, postcard.toSlice value (out.length - headerLen) = some payload ∧
        bytes = envelope kind schemaVersion configVersion payload := by
  rw [encodeEnvelopedInto_eq _ _ _ _ addressed, returns_attempt, seq_eq_ok, require_eq_ok]
  simp only [bind_eq_ok, required_eq_ok, Except.ok.injEq]
  exact and_congr_right fun _ => exists_congr fun _ => and_congr_right fun _ => eq_comm

end

theorem envelope_recognised {α : Type} (width : PointerWidth) (postcard : Postcard α) :
    RecognisedExactly width postcard where
  accepts kind input decoded addressed := returns_decodeEnvelopedFrom addressed
  inRange kind input := by
    rw [decodeEnvelopedFrom_eq]
    exact safe_attempt _
  inverts inverts kind schemaVersion configVersion value out bytes addressed encoded short := by
    obtain ⟨room, payload, serialized, rfl⟩ := (returns_encodeEnvelopedInto addressed).mp encoded
    rw [length_envelope, Nat.add_lt_add_iff_left] at short
    have fits := postcard.fits _ _ _ serialized
    have within : (envelope kind schemaVersion configVersion payload).length < width.addressable := by
      rw [length_envelope]
      omega
    exact (returns_decodeEnvelopedFrom within).mpr ⟨rfl, payload, short, rfl, inverts _ _ _ serialized⟩

theorem crc32_burst_ne {left right : List UInt8} (burst : Burst 4 left right) (different : left ≠ right) :
    crc32 left ≠ crc32 right := by
  intro same
  have registers := UInt32.not_inj.mp same
  exact crcByte_separates.foldl_burst_ne crcByte_separates_blocks burst different _ registers

-- The bytes 1 to 4 are changed, the first of them and the last.
theorem crc32_burst_ne_of_six_bytes : crc32 [9, 1, 2, 3, 4, 9] ≠ crc32 [9, 8, 2, 3, 7, 9] := by
  refine crc32_burst_ne ⟨rfl, 1, ?_⟩ (by decide)
  intro index outside
  match index with
  | 0 | 5 => rfl
  | 1 | 2 | 3 | 4 => omega
  | _ + 6 => rfl

end SmartboxConfig
