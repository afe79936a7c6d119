import PicoBroker.Config.ActiveSlot
import PicoBroker.Config.Serialization

set_option autoImplicit false

namespace SmartboxConfig

structure ConfigStore (σ ε : Type) where
  activeSlot : σ → Except ε ConfigSlotId
  writeActiveSlot : ConfigSlotId → σ → Except ε Unit × σ
  readBlob : σ → ConfigSlotId → BlobKind → Usize → Except ε (List UInt8)
  writeBlob : ConfigSlotId → BlobKind → List UInt8 → σ → Except ε Unit × σ
  discardSlot : ConfigSlotId → σ → Except ε Unit × σ
  -- What is read is a part of the buffer that is read into.
  readFits : ∀ state slot kind out bytes, readBlob state slot kind out = .ok bytes → bytes.length ≤ out.toNat

inductive ConfigStoreError (ε : Type) where
  | store (error : ε)
  | codec (error : CodecError)
deriving DecidableEq

section

variable {σ ε α : Type} (store : ConfigStore σ ε) (postcard : Postcard α)

def loadActiveBlob (state : σ) (scratch : Usize) (expectedKind : BlobKind) :
    Except (ConfigStoreError ε) (DecodedBlob α) := do
  let slot ← (store.activeSlot state).mapError .store
  let bytes ← (store.readBlob state slot expectedKind scratch).mapError .store
  (decodeEnveloped postcard expectedKind bytes).mapError .codec

def prepareCandidateSlot (slot : ConfigSlotId) (kind : BlobKind) (schemaVersion : UInt16) (configVersion : UInt32)
    (value : α) (scratch : Usize) (state : σ) : Except (ConfigStoreError ε) Unit × σ :=
  match encodeEnveloped postcard kind schemaVersion configVersion value scratch with
  | .error error => (.error (.codec error), state)
  | .ok encoded =>
      let written := store.writeBlob slot kind encoded state
      (written.1.mapError .store, written.2)

def commitCandidateSlot (slot : ConfigSlotId) (state : σ) : Except (ConfigStoreError ε) Unit × σ :=
  let written := store.writeActiveSlot slot state
  (written.1.mapError .store, written.2)

-- An operation on a slot touches only what it is about, even where it fails.
structure ConfigStore.Framed : Prop where
  writeBlob_reads : ∀ state slot kind bytes otherSlot otherKind out, (otherSlot, otherKind) ≠ (slot, kind) →
    store.readBlob (store.writeBlob slot kind bytes state).2 otherSlot otherKind out =
      store.readBlob state otherSlot otherKind out
  writeBlob_active : ∀ state slot kind bytes,
    store.activeSlot (store.writeBlob slot kind bytes state).2 = store.activeSlot state
  discardSlot_reads : ∀ state slot otherSlot otherKind out, otherSlot ≠ slot →
    store.readBlob (store.discardSlot slot state).2 otherSlot otherKind out =
      store.readBlob state otherSlot otherKind out
  discardSlot_active : ∀ state slot,
    store.activeSlot (store.discardSlot slot state).2 = store.activeSlot state
  discardSlot_clears : ∀ state slot kind out bytes, (store.discardSlot slot state).1 = .ok () →
    store.readBlob (store.discardSlot slot state).2 slot kind out = .ok bytes → bytes = []

structure ConfigStore.Lawful : Prop extends store.Framed where
  read_written : ∀ state slot kind bytes out, (store.writeBlob slot kind bytes state).1 = .ok () →
    bytes.length ≤ out.toNat → store.readBlob (store.writeBlob slot kind bytes state).2 slot kind out = .ok bytes
  active_written : ∀ state slot, (store.writeActiveSlot slot state).1 = .ok () →
    store.activeSlot (store.writeActiveSlot slot state).2 = .ok slot
  writeActiveSlot_reads : ∀ state slot otherSlot otherKind out,
    store.readBlob (store.writeActiveSlot slot state).2 otherSlot otherKind out =
      store.readBlob state otherSlot otherKind out

end

structure MockStore where
  active : ConfigSlotId
  blobs : ConfigSlotId → BlobKind → List UInt8
  failWriteKind : Option BlobKind

namespace MockStore

def put (store : MockStore) (slot : ConfigSlotId) (kind : BlobKind) (bytes : List UInt8) : MockStore :=
  { store with
    blobs := fun otherSlot otherKind =>
      if otherSlot = slot ∧ otherKind = kind then bytes else store.blobs otherSlot otherKind }

def configStore : ConfigStore MockStore Unit where
  activeSlot store := .ok store.active
  writeActiveSlot slot store := (.ok (), { store with active := slot })
  readBlob store slot kind out :=
    if (store.blobs slot kind).length ≤ out.toNat then .ok (store.blobs slot kind) else .error ()
  writeBlob slot kind bytes store :=
    if store.failWriteKind = some kind then (.error (), store) else (.ok (), store.put slot kind bytes)
  discardSlot slot store :=
    (.ok (), (store.put slot .canonicalConfig []).put slot .compiledArtifacts [])
  readFits store slot kind out bytes := by
    split
    · next fits =>
      rintro ⟨⟩
      exact fits
    · rintro ⟨⟩

theorem configStore_lawful : configStore.Lawful where
  writeBlob_reads store slot kind bytes otherSlot otherKind out other := by
    simp only [configStore]
    split
    · rfl
    · have unchanged : (store.put slot kind bytes).blobs otherSlot otherKind = store.blobs otherSlot otherKind :=
        if_neg fun same => other (Prod.ext same.1 same.2)
      rw [unchanged]
  writeBlob_active store slot kind bytes := by
    simp only [configStore]
    split <;> rfl
  discardSlot_reads store slot otherSlot otherKind out other := by
    simp [configStore, put, other]
  discardSlot_active _ _ := rfl
  discardSlot_clears store slot kind out bytes _ read := by
    cases kind <;> simpa [configStore, put, eq_comm] using read
  read_written store slot kind bytes out written fits := by
    simp only [configStore] at written ⊢
    split at written
    · cases written
    · next free => simp [free, put, fits]
  active_written _ _ _ := rfl
  writeActiveSlot_reads _ _ _ _ _ := rfl

end MockStore

end SmartboxConfig
