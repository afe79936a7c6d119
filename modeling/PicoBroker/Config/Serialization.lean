import PicoBroker.Shared.Checks
import PicoBroker.Shared.Checksums
import PicoBroker.Shared.Fields

set_option autoImplicit false

namespace SmartboxConfig

open Checks Fields

abbrev Usize := UInt32

inductive BlobKind where
  | canonicalConfig
  | compiledArtifacts
deriving DecidableEq

def BlobKind.toByte : BlobKind → UInt8
  | .canonicalConfig => 1
  | .compiledArtifacts => 2

def BlobKind.ofByte (value : UInt8) : Option BlobKind :=
  if value = 1 then some .canonicalConfig
  else if value = 2 then some .compiledArtifacts
  else none

structure DecodedBlob (α : Type) where
  kind : BlobKind
  schemaVersion : UInt16
  configVersion : UInt32
  value : α
deriving DecidableEq

inductive CodecError where
  | bufferTooSmall
  | badMagic
  | unsupportedFormatVersion (found : UInt8)
  | unexpectedKind (expected found : BlobKind)
  | unknownKind (found : UInt8)
  | lengthMismatch
  | crcMismatch (expected actual : UInt32)
  | postcardSerialize
  | postcardDeserialize
deriving DecidableEq

-- `postcard`, which fails where the value does not fit into `room` bytes.
structure Postcard (α : Type) where
  toSlice : α → Nat → Option (List UInt8)
  fromBytes : List UInt8 → Option α
  fits : ∀ value room bytes, toSlice value room = some bytes → bytes.length ≤ room

def Postcard.Inverts {α : Type} (postcard : Postcard α) : Prop :=
  ∀ value room bytes, postcard.toSlice value room = some bytes → postcard.fromBytes bytes = some value

-- "SBCF"
def magic : List UInt8 := [83, 66, 67, 70]

def headerLen : Nat := 20

def formatVersion : UInt8 := 1

def crcBit (crc : UInt32) : UInt32 :=
  let mask := 0 - (crc &&& 1)
  (crc >>> 1) ^^^ (0xEDB88320 &&& mask)

def crcByte (crc : UInt32) (byte : UInt8) : UInt32 := crcBit^[8] (crc ^^^ byte.toUInt32)

def crc32 (bytes : List UInt8) : UInt32 := ~~~(bytes.foldl crcByte 0xFFFFFFFF)

-- The length is cut to 32 bits.
def envelope (kind : BlobKind) (schemaVersion : UInt16) (configVersion : UInt32) (payload : List UInt8) :
    List UInt8 :=
  magic ++ [formatVersion, kind.toByte] ++ bigEndian 2 schemaVersion.toNat ++
    bigEndian 4 configVersion.toNat ++ bigEndian 4 payload.length ++ bigEndian 4 (crc32 payload).toNat ++
    payload

section

variable {α : Type} (postcard : Postcard α)

def encodeEnveloped (kind : BlobKind) (schemaVersion : UInt16) (configVersion : UInt32) (value : α)
    (out : Usize) : Except CodecError (List UInt8) := do
  require (headerLen ≤ out.toNat) .bufferTooSmall
  match postcard.toSlice value (out.toNat - headerLen) with
  | some payload => .ok (envelope kind schemaVersion configVersion payload)
  | none => .error .postcardSerialize

def decodeKind (found : UInt8) : Except CodecError BlobKind :=
  match BlobKind.ofByte found with
  | some kind => .ok kind
  | none => .error (.unknownKind found)

def decodePayload (payload : List UInt8) : Except CodecError α :=
  match postcard.fromBytes payload with
  | some value => .ok value
  | none => .error .postcardDeserialize

-- A `usize` is any number below `addressable`.
def decodeEnvelopedWithin (addressable : Nat) (expectedKind : BlobKind) (input : List UInt8) :
    Except CodecError (DecodedBlob α) := do
  require (headerLen ≤ input.length) .bufferTooSmall
  require (slice input 0 4 = magic) .badMagic
  require (input.getD 4 0 = formatVersion) (.unsupportedFormatVersion (input.getD 4 0))
  let kind ← decodeKind (input.getD 5 0)
  require (kind = expectedKind) (.unexpectedKind expectedKind kind)
  let schemaVersion := UInt16.ofNat (ofBigEndian (slice input 6 8))
  let configVersion := UInt32.ofNat (ofBigEndian (slice input 8 12))
  let payloadLen := ofBigEndian (slice input 12 16)
  let expectedCrc := UInt32.ofNat (ofBigEndian (slice input 16 20))
  -- The sum of the lengths is checked to be a `usize`.
  require (headerLen + payloadLen < addressable) .lengthMismatch
  require (input.length = headerLen + payloadLen) .lengthMismatch
  let payload := slice input headerLen (headerLen + payloadLen)
  require (crc32 payload = expectedCrc) (.crcMismatch expectedCrc (crc32 payload))
  let value ← decodePayload postcard payload
  .ok ⟨kind, schemaVersion, configVersion, value⟩

def decodeEnveloped (expectedKind : BlobKind) (input : List UInt8) : Except CodecError (DecodedBlob α) :=
  decodeEnvelopedWithin postcard UInt32.size expectedKind input

end

end SmartboxConfig
