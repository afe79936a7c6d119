import PicoBroker.Broker.Mqttrs
import PicoBroker.Shared.Checks
import PicoBroker.Shared.Fields

set_option autoImplicit false

namespace PicoBroker

open Checks Fields

inductive IdentityError where
  | certificateTooLarge
  | privateKeyTooLarge
  | storageBufferTooSmall
  | invalidStorageMagic
  | unsupportedStorageVersion (version : UInt8)
  | corruptedStorage
deriving DecidableEq

structure TlsIdentity (certMax keyMax : Nat) where
  certificateDer : Text certMax
  privateKeyDer : Text keyMax
deriving DecidableEq

-- "GMTL"
def storageMagic : Bytes := [71, 77, 84, 76]

def storageVersion : UInt8 := 1

-- `u16::try_from`
def tryU16 (value : Nat) : Option Nat := if value < 65536 then some value else none

namespace TlsIdentity

variable {certMax keyMax : Nat}

def new (certificateDer privateKeyDer : Bytes) : Except IdentityError (TlsIdentity certMax keyMax) := do
  let certificateDer ← required (Bounded.ofList? certificateDer) .certificateTooLarge
  let privateKeyDer ← required (Bounded.ofList? privateKeyDer) .privateKeyTooLarge
  .ok ⟨certificateDer, privateKeyDer⟩

def encode (identity : TlsIdentity certMax keyMax) (storageMax : Nat) :
    Except IdentityError (Text storageMax) := do
  let certLen ← required (tryU16 identity.certificateDer.items.length) .certificateTooLarge
  let keyLen ← required (tryU16 identity.privateKeyDer.items.length) .privateKeyTooLarge
  require (9 + certLen + keyLen ≤ storageMax) .storageBufferTooSmall
  let out ← required (Bounded.empty.extend? storageMagic) .storageBufferTooSmall
  let out ← required (out.push storageVersion) .storageBufferTooSmall
  let out ← required (out.extend? (littleEndian 2 certLen)) .storageBufferTooSmall
  let out ← required (out.extend? (littleEndian 2 keyLen)) .storageBufferTooSmall
  let out ← required (out.extend? identity.certificateDer.items) .storageBufferTooSmall
  required (out.extend? identity.privateKeyDer.items) .storageBufferTooSmall

-- `none` where the source would index out of range.
def decode (storage : Bytes) : Option (Except IdentityError (TlsIdentity certMax keyMax)) :=
  if storage.length < 9 then some (.error .corruptedStorage)
  else do
    let magic ← slice? storage 0 4
    if magic ≠ storageMagic then return .error .invalidStorageMagic
    else
      let version ← storage[4]?
      if version ≠ storageVersion then return .error (.unsupportedStorageVersion version)
      else
        let certLen := ofLittleEndian [← storage[5]?, ← storage[6]?]
        let keyLen := ofLittleEndian [← storage[7]?, ← storage[8]?]
        if storage.length ≠ 9 + certLen + keyLen then return .error .corruptedStorage
        else
          let certEnd := 9 + certLen
          let keyEnd := certEnd + keyLen
          return new (← slice? storage 9 certEnd) (← slice? storage certEnd keyEnd)

end TlsIdentity

end PicoBroker
