import PicoBroker.Config.Preparation

set_option autoImplicit false

namespace SmartboxConfig

section

variable {σ ε α : Type} {store : ConfigStore σ ε} {postcard : Postcard α} {slot : ConfigSlotId} {kind : BlobKind}
  {schemaVersion : UInt16} {configVersion : UInt32} {value : α} {scratch : Usize} {state after : σ}

-- How a preparation fails once the configuration was compiled.
inductive Withdrawn (store : ConfigStore σ ε) (slot : ConfigSlotId) : PrepareCandidateError ε → σ → Prop
  | discarded {error : ConfigStoreError ε} {middle after : σ}
      (discards : store.discardSlot slot middle = (.ok (), after)) : Withdrawn store slot (.store error) after
  | undiscarded {error : ConfigStoreError ε} {discard : ε} {after : σ} :
      Withdrawn store slot (.discardAfterStoreFailure error discard) after

theorem discardAfterStoreFailure_withdrawn (store : ConfigStore σ ε) (slot : ConfigSlotId) (error : ConfigStoreError ε)
    (state : σ) : Withdrawn store slot (discardAfterStoreFailure store slot error state).1
      (discardAfterStoreFailure store slot error state).2 := by
  unfold discardAfterStoreFailure
  split
  · next discards => exact .discarded discards
  · exact .undiscarded

theorem prepareCandidateBlob_withdrawn {error : PrepareCandidateError ε}
    (failed : prepareCandidateBlob store postcard slot kind schemaVersion configVersion value scratch state =
      (.error error, after)) : Withdrawn store slot error after := by
  unfold prepareCandidateBlob at failed
  split at failed
  · cases failed
  · cases failed
    exact discardAfterStoreFailure_withdrawn store slot _ _

def ConfigStore.Stores (store : ConfigStore σ ε) (postcard : Postcard α) (state : σ) (slot : ConfigSlotId)
    (scratch : Usize) (decoded : DecodedBlob α) : Prop :=
  ∃ blob, blob.length ≤ scratch.toNat ∧ store.Holds state slot decoded.kind blob ∧
    decodeEnveloped postcard decoded.kind blob = .ok decoded

theorem BlobWrite.stores (lawful : store.Lawful) (inverts : postcard.Inverts)
    (write : BlobWrite store postcard slot kind schemaVersion configVersion value scratch state (.ok (), after)) :
    store.Stores postcard after slot scratch ⟨kind, schemaVersion, configVersion, value⟩ := by
  cases write with
  | @stored payload _ encoded fits written =>
    refine ⟨envelope kind schemaVersion configVersion payload, by rwa [length_envelope], ?_, ?_⟩
    · intro out large
      have read := lawful.read_written state slot kind _ out (congrArg Prod.fst written) large
      rwa [written] at read
    · have small : headerLen + payload.length < UInt32.size := Nat.lt_of_le_of_lt fits scratch.toNat_lt
      exact decodeEnveloped_eq_ok.mpr ⟨rfl, payload, small, rfl, inverts _ _ _ encoded⟩

-- The blob of the other kind stays as it is.
theorem BlobWrite.keeps {β : Type} {other : Postcard β} {decoded : DecodedBlob β} (framed : store.Framed)
    (write : BlobWrite store postcard slot kind schemaVersion configVersion value scratch state (.ok (), after))
    (different : decoded.kind ≠ kind) (stores : store.Stores other state slot scratch decoded) :
    store.Stores other after slot scratch decoded := by
  cases write with
  | @stored payload _ _ _ written =>
    obtain ⟨blob, fits, holds, decodes⟩ := stores
    refine ⟨blob, fits, fun out large => ?_, decodes⟩
    have elsewhere : (slot, decoded.kind) ≠ (slot, kind) := fun same => different (Prod.mk.inj same).2
    have unchanged := framed.writeBlob_reads state slot kind (envelope kind schemaVersion configVersion payload) slot
      decoded.kind out elsewhere
    rw [written] at unchanged
    exact unchanged.trans (holds out large)

end

section

variable {σ ε : Type} {maxBoards maxControllers maxDevices maxDependencies maxRules maxActions maxSteps : Nat}

structure NeverHalfWritten
    (manager : ConfigManager σ ε maxBoards maxControllers maxDevices maxDependencies maxRules maxActions maxSteps)
    (config : CanonicalConfig maxBoards maxControllers maxDevices maxDependencies maxRules maxActions maxSteps)
    (target : BoardId) (slot : ConfigSlotId) (scratch : Usize) (before : σ)
    (outcome : Except (PrepareCandidateError ε) PreparedCandidate × σ) : Prop where
  stored : ∀ candidate, outcome.1 = .ok candidate → ∃ compiled, compileConfig config target = .ok compiled ∧
    manager.store.Stores manager.canonical outcome.2 slot scratch
      ⟨.canonicalConfig, config.schemaVersion, config.configVersion, config⟩ ∧
    manager.store.Stores manager.compiled outcome.2 slot scratch
      ⟨.compiledArtifacts, config.schemaVersion, config.configVersion, compiled⟩
  rejected : ∀ error, outcome.1 = .error (.compile error) → outcome.2 = before
  discarded : ∀ error, outcome.1 = .error (.store error) → ∀ kind out bytes,
    manager.store.readBlob outcome.2 slot kind out = .ok bytes → bytes = []
  pointer : manager.store.activeSlot outcome.2 = manager.store.activeSlot before

variable
  {manager : ConfigManager σ ε maxBoards maxControllers maxDevices maxDependencies maxRules maxActions maxSteps}
  {config : CanonicalConfig maxBoards maxControllers maxDevices maxDependencies maxRules maxActions maxSteps}
  {target : BoardId} {slot : ConfigSlotId} {scratch : Usize} {before : σ}

theorem Withdrawn.neverHalfWritten (framed : manager.store.Framed) {error : PrepareCandidateError ε} {after : σ}
    (withdrawn : Withdrawn manager.store slot error after)
    (pointer : manager.store.activeSlot after = manager.store.activeSlot before) :
    NeverHalfWritten manager config target slot scratch before (.error error, after) := by
  refine ⟨by rintro _ ⟨⟩, ?_, ?_, pointer⟩
  · rintro _ ⟨⟩
    cases withdrawn
  · rintro _ ⟨⟩ kind out bytes read
    cases withdrawn with
    | @discarded _ middle _ discards =>
      have clears := framed.discardSlot_clears middle slot kind out bytes (congrArg Prod.fst discards)
      rw [discards] at clears
      exact clears read

theorem compileAndPrepareCandidate_ends (lawful : manager.store.Lawful) (canonical : manager.canonical.Inverts)
    (artifacts : manager.compiled.Inverts) :
    NeverHalfWritten manager config target slot scratch before
      (compileAndPrepareCandidate manager config target slot scratch before) := by
  have framed := lawful.toFramed
  unfold compileAndPrepareCandidate
  split
  · exact ⟨by rintro _ ⟨⟩, fun _ _ => rfl, by rintro _ ⟨⟩, rfl⟩
  · next compiled compiles =>
    split
    · next first =>
      have outside := (prepareCandidateBlob_write framed first).outside framed
      exact (prepareCandidateBlob_withdrawn first).neverHalfWritten framed outside.active
    · next middle first =>
      have firstWrite := prepareCandidateBlob_write framed first
      have firstOutside := firstWrite.outside framed
      split
      · next second =>
        have outside := firstOutside.trans ((prepareCandidateBlob_write framed second).outside framed)
        exact (prepareCandidateBlob_withdrawn second).neverHalfWritten framed outside.active
      · next second =>
        have secondWrite := prepareCandidateBlob_write framed second
        have different : BlobKind.canonicalConfig ≠ .compiledArtifacts := by decide
        refine ⟨fun _ _ => ⟨compiled, compiles, ?_, ?_⟩, by rintro _ ⟨⟩, by rintro _ ⟨⟩, ?_⟩
        · exact secondWrite.keeps framed different (firstWrite.stores lawful canonical)
        · exact secondWrite.stores lawful artifacts
        · exact (firstOutside.trans (secondWrite.outside framed)).active

end

theorem compileAndPrepareCandidate_neverHalfWritten
    {σ ε : Type} {maxBoards maxControllers maxDevices maxDependencies maxRules maxActions maxSteps : Nat}
    (manager : ConfigManager σ ε maxBoards maxControllers maxDevices maxDependencies maxRules maxActions maxSteps)
    (lawful : manager.store.Lawful) (canonical : manager.canonical.Inverts) (artifacts : manager.compiled.Inverts)
    (config : CanonicalConfig maxBoards maxControllers maxDevices maxDependencies maxRules maxActions maxSteps)
    (target : BoardId) (slot : ConfigSlotId) (scratch : Usize) (before : σ) :
    NeverHalfWritten manager config target slot scratch before
      (compileAndPrepareCandidate manager config target slot scratch before) ∧
    ∀ write : ConfigSlotId → σ → Except ε Unit × σ,
      compileAndPrepareCandidate { manager with store := { manager.store with writeActiveSlot := write } } config
          target slot scratch before =
        compileAndPrepareCandidate manager config target slot scratch before :=
  ⟨compileAndPrepareCandidate_ends lawful canonical artifacts, fun _ => rfl⟩

open Fields

def versionPostcard : Postcard (CanonicalConfig 1 0 0 0 0 0 0) where
  toSlice config room :=
    if config = bareConfig config.configVersion ∧ 4 ≤ room then some (bigEndian 4 config.configVersion.toNat) else none
  fromBytes bytes := some (bareConfig (UInt32.ofNat (ofBigEndian bytes)))
  fits config room bytes := by
    split
    · next bare =>
      rintro ⟨⟩
      exact bare.2
    · rintro ⟨⟩

theorem versionPostcard_inverts : versionPostcard.Inverts := by
  intro config room bytes serialized
  obtain ⟨⟨bare, _⟩, rfl⟩ : (config = bareConfig config.configVersion ∧ 4 ≤ room) ∧
      bigEndian 4 config.configVersion.toNat = bytes := by
    simpa [versionPostcard] using serialized
  simp only [versionPostcard, ofBigEndian_word32, UInt32.ofNat_toNat]
  exact congrArg some bare.symm

def versionManager : ConfigManager MockStore Unit 1 0 0 0 0 0 0 where
  store := MockStore.configStore
  canonical := versionPostcard
  compiled := barePostcard

theorem compileAndPrepareCandidate_neverHalfWritten_bareConfig :
    versionManager.store.Lawful ∧ versionManager.canonical.Inverts ∧ versionManager.compiled.Inverts ∧
    (compileAndPrepareCandidate versionManager (bareConfig 3) ⟨1⟩ ⟨2⟩ 64 emptyStore).1 = .ok ⟨⟨2⟩, 1, 3⟩ ∧
    NeverHalfWritten versionManager (bareConfig 3) ⟨1⟩ ⟨2⟩ 64 emptyStore
      (compileAndPrepareCandidate versionManager (bareConfig 3) ⟨1⟩ ⟨2⟩ 64 emptyStore) :=
  have lawful := MockStore.configStore_lawful
  ⟨lawful, versionPostcard_inverts, barePostcard_inverts, by decide +kernel,
    (compileAndPrepareCandidate_neverHalfWritten versionManager lawful versionPostcard_inverts barePostcard_inverts
      (bareConfig 3) ⟨1⟩ ⟨2⟩ 64 emptyStore).1⟩

end SmartboxConfig
