import PicoBroker.Config.Envelope
import PicoBroker.Shared.Faults

set_option autoImplicit false

namespace SmartboxConfig

open Checks Faults Fields

-- The boards have 32 bits, the machine that runs the tests has 64.
inductive PointerWidth where
  | bits32
  | bits64
deriving DecidableEq

def PointerWidth.addressable : PointerWidth → Nat
  | .bits32 => 2 ^ 32
  | .bits64 => 2 ^ 64

-- `checked_add`
def PointerWidth.add? (width : PointerWidth) (left right : Nat) : Option Nat :=
  if left + right < width.addressable then some (left + right) else none

def headerFields (kind : BlobKind) (schemaVersion : UInt16) (configVersion payloadLen crc : UInt32) :
    List (Nat × List UInt8) :=
  [(0, magic), (4, [formatVersion]), (5, [kind.toByte]), (6, bigEndian 2 schemaVersion.toNat),
    (8, bigEndian 4 configVersion.toNat), (12, bigEndian 4 payloadLen.toNat), (16, bigEndian 4 crc.toNat)]

section

variable {α : Type} (width : PointerWidth) (postcard : Postcard α)

def encodeEnvelopedInto (kind : BlobKind) (schemaVersion : UInt16) (configVersion : UInt32) (value : α)
    (out : List UInt8) : Faulting CodecError (List UInt8) := do
  attempt (require (headerLen ≤ out.length) .bufferTooSmall)
  let payload ← attempt (required (postcard.toSlice value (out.length - headerLen)) .postcardSerialize)
  let out ← access (place? out headerLen payload)
  let totalLen ← access (width.add? headerLen payload.length)
  let crc := crc32 (← access (slice? out headerLen totalLen))
  let out ← access <| placeAll? out <|
    headerFields kind schemaVersion configVersion (UInt32.ofNat payload.length) crc
  access (slice? out 0 totalLen)

def decodeEnvelopedFrom (expectedKind : BlobKind) (input : List UInt8) : Faulting CodecError (DecodedBlob α) := do
  attempt (require (headerLen ≤ input.length) .bufferTooSmall)
  let marked ← access (slice? input 0 4)
  attempt (require (marked = magic) .badMagic)
  let format ← access input[4]?
  attempt (require (format = formatVersion) (.unsupportedFormatVersion format))
  let kind ← attempt (decodeKind (← access input[5]?))
  attempt (require (kind = expectedKind) (.unexpectedKind expectedKind kind))
  let schemaVersion := UInt16.ofNat (ofBigEndian (← access (bytesAt? input 6 2)))
  let configVersion := UInt32.ofNat (ofBigEndian (← access (bytesAt? input 8 4)))
  let payloadLen := ofBigEndian (← access (bytesAt? input 12 4))
  let expectedCrc := UInt32.ofNat (ofBigEndian (← access (bytesAt? input 16 4)))
  let totalLen ← attempt (required (width.add? headerLen payloadLen) .lengthMismatch)
  attempt (require (input.length = totalLen) .lengthMismatch)
  let payload ← access (slice? input headerLen totalLen)
  let actualCrc := crc32 payload
  attempt (require (actualCrc = expectedCrc) (.crcMismatch expectedCrc actualCrc))
  let value ← attempt (decodePayload postcard payload)
  attempt (.ok ⟨kind, schemaVersion, configVersion, value⟩)

end

section

variable {α : Type} {width : PointerWidth} {postcard : Postcard α}

theorem attempt_add? {β : Type} {left right : Nat} {error : CodecError} (andThen : Nat → Faulting CodecError β) :
    (attempt (required (width.add? left right) error) >>= andThen) =
      (attempt (require (left + right < width.addressable) error) >>= fun _ => andThen (left + right)) := by
  unfold PointerWidth.add? require
  split <;> rfl

theorem decodeEnvelopedFrom_eq (kind : BlobKind) (input : List UInt8) :
    decodeEnvelopedFrom width postcard kind input =
      attempt (decodeEnvelopedWithin postcard width.addressable kind input) := by
  unfold decodeEnvelopedFrom decodeEnvelopedWithin
  refine attempt_bind fun _ passed => ?_
  have long : 20 ≤ input.length := require_eq_ok.mp passed
  have byte {index : Nat} (within : index < 20) : input[index]? = some (input.getD index 0) := by
    simp [show index < input.length by omega]
  rw [access_bind (slice?_of_le (by decide) (by omega))]
  refine attempt_bind fun _ _ => ?_
  rw [access_bind (byte (by decide))]
  refine attempt_bind fun _ _ => ?_
  rw [access_bind (byte (by decide))]
  refine attempt_bind fun kind _ => attempt_bind fun _ _ => ?_
  rw [access_bind (bytesAt?_of_le (by omega)), access_bind (bytesAt?_of_le (by omega)),
    access_bind (bytesAt?_of_le (by omega)), access_bind (bytesAt?_of_le (by omega)), attempt_add?]
  -- The payload ends where the input does.
  refine attempt_bind fun _ _ => attempt_bind fun _ sized => ?_
  rw [access_bind (slice?_of_le (Nat.le_add_right ..) (Nat.le_of_eq (require_eq_ok.mp sized).symm))]
  exact attempt_bind fun _ _ => attempt_bind fun _ _ => rfl

section

variable {kind : BlobKind} {schemaVersion : UInt16} {configVersion : UInt32} {payload : List UInt8}

theorem headerFields_append :
    (headerFields kind schemaVersion configVersion (UInt32.ofNat payload.length) (crc32 payload)).flatMap Prod.snd ++
      payload = envelope kind schemaVersion configVersion payload := by
  have lengthField := bigEndian_mod 4 payload.length
  simpa [headerFields, envelope] using lengthField

-- The seven fields fill the header without a gap.
theorem placeAll?_headerFields {front behind : List UInt8} {payloadLen crc : UInt32} (twenty : front.length = headerLen) :
    placeAll? (front ++ behind) (headerFields kind schemaVersion configVersion payloadLen crc) =
      some ((headerFields kind schemaVersion configVersion payloadLen crc).flatMap Prod.snd ++ behind) :=
  @placeAll?_adjacent [] front behind _ ⟨rfl, rfl, rfl, rfl, rfl, rfl, rfl, trivial⟩ twenty.symm

end

theorem encodeEnvelopedInto_eq (kind : BlobKind) (schemaVersion : UInt16) (configVersion : UInt32) (value : α)
    {out : List UInt8} (addressed : out.length < width.addressable) :
    encodeEnvelopedInto width postcard kind schemaVersion configVersion value out = attempt (do
      require (headerLen ≤ out.length) .bufferTooSmall
      let payload ← required (postcard.toSlice value (out.length - headerLen)) .postcardSerialize
      .ok (envelope kind schemaVersion configVersion payload)) := by
  unfold encodeEnvelopedInto
  refine attempt_bind fun _ passed => attempt_bind fun payload serialized => ?_
  have long : headerLen ≤ out.length := require_eq_ok.mp passed
  have fits : payload.length ≤ out.length - headerLen := postcard.fits _ _ _ (required_eq_ok.mp serialized)
  -- The buffer is a place for the header, one for the payload, and the rest.
  obtain ⟨front, room, rfl, twenty⟩ : ∃ front room, out = front ++ room ∧ front.length = headerLen :=
    ⟨out.take headerLen, out.drop headerLen, (List.take_append_drop ..).symm, List.length_take_of_le long⟩
  rw [List.length_append] at fits addressed
  have enough : payload.length ≤ room.length := by omega
  have sum : width.add? headerLen payload.length = some (headerLen + payload.length) := if_pos (by omega)
  have summed : slice? (front ++ payload ++ room.drop payload.length) headerLen (headerLen + payload.length) =
      some payload := by
    rw [slice?_of_le (Nat.le_add_right ..) (by simp [twenty]), slice_between twenty rfl]
  rw [access_bind (place?_append twenty enough), access_bind sum, access_bind summed, List.append_assoc front]
  dsimp only
  rw [access_bind (placeAll?_headerFields twenty), ← List.append_assoc, headerFields_append]
  refine access_eq_attempt ?_
  have whole : (envelope kind schemaVersion configVersion payload).length = headerLen + payload.length := length_envelope
  rw [← whole, slice?_of_le (Nat.zero_le _) (by simp), slice_append_left (Nat.le_refl _), slice_end,
    List.drop_zero]

theorem decodeEnvelopedFrom_bits32 (kind : BlobKind) (input : List UInt8) :
    decodeEnvelopedFrom .bits32 postcard kind input = attempt (decodeEnveloped postcard kind input) :=
  decodeEnvelopedFrom_eq kind input

theorem encodeEnvelopedInto_bits32 (kind : BlobKind) (schemaVersion : UInt16) (configVersion : UInt32) (value : α)
    {out : List UInt8} (addressed : out.length < UInt32.size) :
    encodeEnvelopedInto .bits32 postcard kind schemaVersion configVersion value out =
      attempt (encodeEnveloped postcard kind schemaVersion configVersion value (UInt32.ofNat out.length)) := by
  rw [encodeEnvelopedInto_eq kind schemaVersion configVersion value addressed, encodeEnveloped,
    UInt32.toNat_ofNat_of_lt' addressed]
  cases postcard.toSlice value (out.length - headerLen) <;> rfl

end

end SmartboxConfig
