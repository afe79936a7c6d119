import PicoBroker.Tls.Identity

set_option autoImplicit false

namespace PicoBroker

open Checks Fields

namespace TlsIdentity

variable {certMax keyMax storageMax : Nat}

def storage (certificateDer privateKeyDer : Bytes) : Bytes :=
  storageMagic ++ [storageVersion] ++ littleEndian 2 certificateDer.length ++ littleEndian 2 privateKeyDer.length ++
    certificateDer ++ privateKeyDer

@[simp] theorem length_storage (certificateDer privateKeyDer : Bytes) :
    (storage certificateDer privateKeyDer).length = 9 + certificateDer.length + privateKeyDer.length := by
  simp [storage, storageMagic]
  omega

theorem tryU16_eq_some {value short : Nat} : tryU16 value = some short ↔ value < 65536 ∧ short = value := by
  unfold tryU16
  split <;> simp [*, eq_comm]

theorem new_eq_ok {certificateDer privateKeyDer : Bytes} {identity : TlsIdentity certMax keyMax} :
    new certificateDer privateKeyDer = .ok identity ↔
      identity.certificateDer.items = certificateDer ∧ identity.privateKeyDer.items = privateKeyDer := by
  simp only [new, bind_eq_ok, required_eq_ok, Bounded.ofList?_eq_some, Except.ok.injEq]
  constructor
  · rintro ⟨certificate, same, key, equal, rfl⟩
    exact ⟨same, equal⟩
  · rintro ⟨same, equal⟩
    exact ⟨_, same, _, equal, rfl⟩

-- Once the whole blob is known to fit, none of the later pushes can fail.
theorem encode_eq_ok {identity : TlsIdentity certMax keyMax} {out : Text storageMax} :
    identity.encode storageMax = .ok out ↔
      identity.certificateDer.items.length < 65536 ∧ identity.privateKeyDer.items.length < 65536 ∧
        out.items = storage identity.certificateDer.items identity.privateKeyDer.items := by
  simp only [encode, bind_eq_ok, required_eq_ok, tryU16_eq_some, Bounded.extend?_eq_some, Bounded.push_eq_some]
  constructor
  · rintro ⟨_, ⟨certSmall, rfl⟩, _, ⟨keySmall, rfl⟩, _, _, first, magic, second, ⟨_, version⟩, third, certLen,
      fourth, keyLen, fifth, certificate, key⟩
    refine ⟨certSmall, keySmall, ?_⟩
    rw [key, certificate, keyLen, certLen, version, magic]
    rfl
  · rintro ⟨certSmall, keySmall, written⟩
    have room := out.fits
    rw [written, length_storage] at room
    have header : storageMagic.length = 4 := rfl
    refine ⟨_, ⟨certSmall, rfl⟩, _, ⟨keySmall, rfl⟩, (), require_eq_ok.mpr room,
      ⟨storageMagic, by omega⟩, rfl,
      ⟨storageMagic ++ [storageVersion], ?_⟩, ⟨?_, rfl⟩,
      ⟨storageMagic ++ [storageVersion] ++ littleEndian 2 _, ?_⟩, rfl,
      ⟨storageMagic ++ [storageVersion] ++ littleEndian 2 _ ++ littleEndian 2 _, ?_⟩, rfl,
      ⟨storageMagic ++ [storageVersion] ++ littleEndian 2 _ ++ littleEndian 2 _ ++ _, ?_⟩, rfl, written⟩ <;>
    simp [header] <;> omega

theorem decode_header (a b c d version certLow certHigh keyLow keyHigh : UInt8) (rest : Bytes) :
    (decode (a :: b :: c :: d :: version :: certLow :: certHigh :: keyLow :: keyHigh :: rest) :
      Option (Except IdentityError (TlsIdentity certMax keyMax))) =
      some (do
        require ([a, b, c, d] = storageMagic) .invalidStorageMagic
        require (version = storageVersion) (.unsupportedStorageVersion version)
        require (rest.length = ofLittleEndian [certLow, certHigh] + ofLittleEndian [keyLow, keyHigh]) .corruptedStorage
        new (rest.take (ofLittleEndian [certLow, certHigh])) (rest.drop (ofLittleEndian [certLow, certHigh]))) := by
  generalize certLen : ofLittleEndian [certLow, certHigh] = cert
  generalize keyLen : ofLittleEndian [keyLow, keyHigh] = key
  generalize whole : a :: b :: c :: d :: version :: certLow :: certHigh :: keyLow :: keyHigh :: rest = bytes
  have length : bytes.length = rest.length + 9 := by rw [← whole]; rfl
  have behind (start stop : Nat) : slice bytes (9 + start) (9 + stop) = slice rest start stop := by
    rw [← whole, slice, slice, ← List.drop_drop, Nat.add_sub_add_left]
    rfl
  have front : slice bytes 0 4 = [a, b, c, d] := by rw [← whole]; rfl
  have numbers : bytes[4]? = some version ∧ bytes[5]? = some certLow ∧ bytes[6]? = some certHigh ∧
      bytes[7]? = some keyLow ∧ bytes[8]? = some keyHigh := by rw [← whole]; exact ⟨rfl, rfl, rfl, rfl, rfl⟩
  obtain ⟨fourth, fifth, sixth, seventh, eighth⟩ := numbers
  rw [decode, if_neg (by omega), slice?, if_pos (by omega), front, fourth, fifth, sixth, seventh, eighth]
  by_cases magic : [a, b, c, d] = storageMagic
  · by_cases supported : version = storageVersion
    · by_cases sized : rest.length = cert + key
      · have certificate : slice? bytes 9 (9 + cert) = some (rest.take cert) := by
          rw [slice?, if_pos (by omega), behind 0 cert, slice, List.drop_zero, Nat.sub_zero]
        have text : slice? bytes (9 + cert) (9 + cert + key) = some (rest.drop cert) := by
          rw [slice?, if_pos (by omega), Nat.add_assoc, behind, ← sized, slice_end]
        have total : bytes.length = 9 + cert + key := by omega
        simp [require, magic, supported, sized, total, certLen, keyLen, certificate, text]
        rfl
      · have other : bytes.length ≠ 9 + cert + key := by omega
        simp [require, magic, supported, sized, other, certLen, keyLen]
        rfl
    · simp [require, magic, supported]
      rfl
  · simp [require, magic]
    rfl

theorem exists_header {bytes : Bytes} (long : ¬ bytes.length < 9) :
    ∃ a b c d version certLow certHigh keyLow keyHigh rest,
      bytes = a :: b :: c :: d :: version :: certLow :: certHigh :: keyLow :: keyHigh :: rest := by
  rcases bytes with _ | ⟨a, _ | ⟨b, _ | ⟨c, _ | ⟨d, _ | ⟨version, _ | ⟨certLow, _ | ⟨certHigh, _ | ⟨keyLow,
    _ | ⟨keyHigh, rest⟩⟩⟩⟩⟩⟩⟩⟩⟩ <;> simp at long ⊢

theorem decode_storage {identity : TlsIdentity certMax keyMax}
    (certSmall : identity.certificateDer.items.length < 65536)
    (keySmall : identity.privateKeyDer.items.length < 65536) :
    decode (storage identity.certificateDer.items identity.privateKeyDer.items) = some (.ok identity) := by
  have length {value : Nat} (small : value < 65536) :
      ofLittleEndian [UInt8.ofNat value, UInt8.ofNat (value / 256)] = value :=
    (ofLittleEndian_littleEndian 2 value).trans (Nat.mod_eq_of_lt small)
  refine (decode_header 71 77 84 76 1 _ _ _ _ (identity.certificateDer.items ++ identity.privateKeyDer.items)).trans ?_
  rw [length certSmall, length keySmall]
  simp [require_eq_ok, storageMagic, storageVersion, new_eq_ok]

theorem storage_of_decode {bytes : Bytes} {identity : TlsIdentity certMax keyMax}
    (decoded : decode bytes = some (.ok identity)) :
    identity.certificateDer.items.length < 65536 ∧ identity.privateKeyDer.items.length < 65536 ∧
      bytes = storage identity.certificateDer.items identity.privateKeyDer.items := by
  by_cases long : bytes.length < 9
  · rw [decode, if_pos long] at decoded
    cases decoded
  · obtain ⟨a, b, c, d, version, certLow, certHigh, keyLow, keyHigh, rest, rfl⟩ := exists_header long
    rw [decode_header, Option.some.injEq] at decoded
    simp only [seq_eq_ok, require_eq_ok, new_eq_ok] at decoded
    obtain ⟨magic, rfl, sized, certificate, key⟩ := decoded
    have short (low high : UInt8) : ofLittleEndian [low, high] < 65536 := by
      simpa using ofLittleEndian_lt [low, high]
    have field (low high : UInt8) : littleEndian 2 (ofLittleEndian [low, high]) = [low, high] :=
      littleEndian_ofLittleEndian rfl
    have certLen : identity.certificateDer.items.length = ofLittleEndian [certLow, certHigh] := by
      simp [certificate, sized]
    have keyLen : identity.privateKeyDer.items.length = ofLittleEndian [keyLow, keyHigh] := by
      simp [key, sized]
    refine ⟨certLen ▸ short certLow certHigh, keyLen ▸ short keyLow keyHigh, ?_⟩
    rw [storage, certLen, keyLen, field, field, certificate, key, ← magic]
    simp

structure StorageBijective (certMax keyMax storageMax : Nat) : Prop where
  encodes : ∀ identity : TlsIdentity certMax keyMax, (∃ out, identity.encode storageMax = .ok out) ↔
    identity.certificateDer.items.length < 2 ^ 16 ∧ identity.privateKeyDer.items.length < 2 ^ 16 ∧
      9 + identity.certificateDer.items.length + identity.privateKeyDer.items.length ≤ storageMax
  decodes : ∀ (identity : TlsIdentity certMax keyMax) out, identity.encode storageMax = .ok out →
    decode out.items = some (.ok identity)
  inverts : ∀ (bytes : Bytes) (identity : TlsIdentity certMax keyMax), decode bytes = some (.ok identity) →
    bytes.length ≤ storageMax → (identity.encode storageMax).map Bounded.items = .ok bytes
  inRange : ∀ bytes : Bytes, (decode bytes : Option (Except IdentityError (TlsIdentity certMax keyMax))) ≠ none

theorem storage_bijective (certMax keyMax storageMax : Nat) : StorageBijective certMax keyMax storageMax where
  encodes identity := by
    simp only [encode_eq_ok]
    constructor
    · rintro ⟨out, certSmall, keySmall, written⟩
      have room := out.fits
      rw [written, length_storage] at room
      exact ⟨certSmall, keySmall, room⟩
    · rintro ⟨certSmall, keySmall, room⟩
      have fits : (storage identity.certificateDer.items identity.privateKeyDer.items).length ≤ storageMax := by
        rwa [length_storage]
      exact ⟨⟨_, fits⟩, certSmall, keySmall, rfl⟩
  decodes identity out encoded := by
    obtain ⟨certSmall, keySmall, written⟩ := encode_eq_ok.mp encoded
    rw [written]
    exact decode_storage certSmall keySmall
  inverts bytes identity decoded room := by
    obtain ⟨certSmall, keySmall, same⟩ := storage_of_decode decoded
    have encoded : identity.encode storageMax = .ok ⟨bytes, room⟩ := encode_eq_ok.mpr ⟨certSmall, keySmall, same⟩
    rw [encoded]
    rfl
  inRange bytes := by
    by_cases long : bytes.length < 9
    · simp [decode, long]
    · obtain ⟨a, b, c, d, version, certLow, certHigh, keyLow, keyHigh, rest, rfl⟩ := exists_header long
      simp [decode_header]

end TlsIdentity

end PicoBroker
