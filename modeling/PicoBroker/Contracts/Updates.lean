import PicoBroker.Config.Preparation

set_option autoImplicit false

namespace SmartboxConfig

section

variable {σ ε : Type} {maxBoards maxControllers maxDevices maxDependencies maxRules maxActions maxSteps : Nat}

structure ConfigManager.Undisturbed
    (manager : ConfigManager σ ε maxBoards maxControllers maxDevices maxDependencies maxRules maxActions maxSteps)
    (before after : σ) : Prop where
  pointer : manager.store.activeSlot after = manager.store.activeSlot before
  blobs : ∀ slot, manager.store.activeSlot before = .ok slot → ∀ kind out,
    manager.store.readBlob after slot kind out = manager.store.readBlob before slot kind out
  boot : ∀ schemaVersion configVersion out,
    manager.bootLoad schemaVersion configVersion out after = manager.bootLoad schemaVersion configVersion out before

variable
  {manager : ConfigManager σ ε maxBoards maxControllers maxDevices maxDependencies maxRules maxActions maxSteps}

theorem ConfigManager.Undisturbed.of_reads {before after : σ}
    (pointer : manager.store.activeSlot after = manager.store.activeSlot before)
    (blobs : ∀ slot, manager.store.activeSlot before = .ok slot → ∀ kind out,
      manager.store.readBlob after slot kind out = manager.store.readBlob before slot kind out) :
    manager.Undisturbed before after := by
  refine ⟨pointer, blobs, fun schemaVersion configVersion out => ?_⟩
  have loaded : loadActiveBlob manager.store manager.compiled after out .compiledArtifacts =
      loadActiveBlob manager.store manager.compiled before out .compiledArtifacts := by
    unfold loadActiveBlob
    rw [pointer]
    cases active : manager.store.activeSlot before with
    | error => rfl
    | ok slot => simp only [Except.mapError, bind, Except.bind, blobs slot active]
  simp only [bootLoad, loadActiveCompiledConfig, loaded]

theorem prepareUpdate_undisturbed (framed : manager.store.Framed)
    {config : CanonicalConfig maxBoards maxControllers maxDevices maxDependencies maxRules maxActions maxSteps}
    {target : BoardId} {slot : ConfigSlotId} {scratch : Usize} {state : σ}
    (safe : manager.store.activeSlot state = .ok slot → ∃ error, compileConfig config target = .error error) :
    manager.Undisturbed state (manager.prepareUpdate config target slot scratch state).2 := by
  have preparation : Preparation manager config target slot scratch state _ :=
    prepareUpdate_preparation framed rfl
  by_cases active : manager.store.activeSlot state = .ok slot
  · obtain ⟨error, rejected⟩ := safe active
    have unchanged : (manager.prepareUpdate config target slot scratch state).2 = state := by
      simp [ConfigManager.prepareUpdate, compileAndPrepareCandidate, rejected]
    rw [unchanged]
    exact .of_reads rfl fun _ _ _ _ => rfl
  · refine .of_reads preparation.outside.active fun other found kind out => ?_
    apply preparation.outside.reads
    rintro rfl
    exact active found

end

-- A store that refuses the canonical blob makes the pipeline discard the slot, whatever it held.
theorem prepareCandidateBlob_refused {α : Type} {postcard : Postcard α} {slot : ConfigSlotId}
    {schemaVersion : UInt16} {configVersion : UInt32} {value : α} {scratch : Usize} {state : MockStore}
    (refuses : state.failWriteKind = some .canonicalConfig) :
    ∃ error, prepareCandidateBlob MockStore.configStore postcard slot .canonicalConfig schemaVersion configVersion
      value scratch state = (.error error, (MockStore.configStore.discardSlot slot state).2) := by
  have slotFails : ∃ error, prepareCandidateSlot MockStore.configStore postcard slot .canonicalConfig schemaVersion
      configVersion value scratch state = (.error error, state) := by
    unfold prepareCandidateSlot
    split
    · exact ⟨_, rfl⟩
    · exact ⟨.store (), by simp [MockStore.configStore, refuses, Except.mapError]⟩
  obtain ⟨error, failed⟩ := slotFails
  exact ⟨.store error, by simp only [prepareCandidateBlob, failed, discardAfterStoreFailure]; rfl⟩

section

variable {maxBoards maxControllers maxDevices maxDependencies maxRules maxActions maxSteps : Nat}

theorem prepareUpdate_disturbs
    (canonical : Postcard
      (CanonicalConfig maxBoards maxControllers maxDevices maxDependencies maxRules maxActions maxSteps))
    (compiled : Postcard (CompiledConfig maxDevices maxControllers maxDependencies maxRules maxActions maxSteps))
    {config : CanonicalConfig maxBoards maxControllers maxDevices maxDependencies maxRules maxActions maxSteps}
    {target : BoardId}
    {artifacts : CompiledConfig maxDevices maxControllers maxDependencies maxRules maxActions maxSteps}
    (compiles : compileConfig config target = .ok artifacts) (slot : ConfigSlotId) (scratch : Usize) :
    ∃ state : MockStore, state.active = slot ∧
      ¬(ConfigManager.mk MockStore.configStore canonical compiled).Undisturbed state
        ((ConfigManager.mk MockStore.configStore canonical compiled).prepareUpdate config target slot scratch
          state).2 := by
  let state : MockStore := ⟨slot, fun _ _ => [0], some .canonicalConfig⟩
  refine ⟨state, rfl, fun undisturbed => ?_⟩
  obtain ⟨error, refused⟩ : ∃ error, prepareCandidateBlob MockStore.configStore canonical slot .canonicalConfig
      config.schemaVersion config.configVersion config scratch state =
        (.error error, (MockStore.configStore.discardSlot slot state).2) := prepareCandidateBlob_refused rfl
  have discarded : ((ConfigManager.mk MockStore.configStore canonical compiled).prepareUpdate config target slot
      scratch state).2 = (MockStore.configStore.discardSlot slot state).2 := by
    simp only [ConfigManager.prepareUpdate, compileAndPrepareCandidate, compiles, refused]
  have read := undisturbed.blobs slot rfl .canonicalConfig 1
  rw [discarded] at read
  simp [state, MockStore.configStore, MockStore.put] at read

end

theorem prepareUpdate_undisturbed_iff
    {maxBoards maxControllers maxDevices maxDependencies maxRules maxActions maxSteps : Nat}
    (canonical : Postcard
      (CanonicalConfig maxBoards maxControllers maxDevices maxDependencies maxRules maxActions maxSteps))
    (compiled : Postcard (CompiledConfig maxDevices maxControllers maxDependencies maxRules maxActions maxSteps))
    (config : CanonicalConfig maxBoards maxControllers maxDevices maxDependencies maxRules maxActions maxSteps)
    (target : BoardId) (slot : ConfigSlotId) (scratch : Usize) (active : Option ConfigSlotId) :
    (∀ (σ ε : Type) (store : ConfigStore σ ε) (state : σ), store.Framed →
      (store.activeSlot state).toOption = active →
      (ConfigManager.mk store canonical compiled).Undisturbed state
        ((ConfigManager.mk store canonical compiled).prepareUpdate config target slot scratch state).2) ↔
      (active = some slot → ∃ error, compileConfig config target = .error error) := by
  constructor
  · rintro undisturbed rfl
    cases compiles : compileConfig config target with
    | error error => exact ⟨error, rfl⟩
    | ok artifacts =>
      obtain ⟨state, rfl, disturbed⟩ := prepareUpdate_disturbs canonical compiled compiles slot scratch
      exact absurd (undisturbed _ _ MockStore.configStore state MockStore.configStore_lawful.toFramed rfl) disturbed
  · intro safe σ ε store state framed known
    refine prepareUpdate_undisturbed framed fun found => safe ?_
    rw [← known, found]
    rfl

def runningStore : MockStore := (bareManager.prepareUpdate (bareConfig 1) ⟨1⟩ ⟨1⟩ 64 emptyStore).2

theorem prepareUpdate_overwrites_active :
    bareManager.store.Framed ∧ bareManager.store.activeSlot runningStore = .ok ⟨1⟩ ∧
      (bareManager.prepareUpdate (bareConfig 2) ⟨1⟩ ⟨1⟩ 64 runningStore).1 = .ok ⟨⟨1⟩, 1, 2⟩ ∧
      bareManager.bootLoad 1 1 64 runningStore = .ready (bareCompiled 1 ⟨⟨1⟩, .coordinator⟩) 1 1 ∧
      bareManager.bootLoad 1 1 64 (bareManager.prepareUpdate (bareConfig 2) ⟨1⟩ ⟨1⟩ 64 runningStore).2 =
        .safeBoot (.configVersionMismatch 1 2) :=
  ⟨MockStore.configStore_lawful.toFramed, rfl, rfl, by decide +kernel, by decide +kernel⟩

theorem bootLoad_corrupted
    {σ ε : Type} {maxBoards maxControllers maxDevices maxDependencies maxRules maxActions maxSteps : Nat}
    (manager : ConfigManager σ ε maxBoards maxControllers maxDevices maxDependencies maxRules maxActions maxSteps)
    (lawful : manager.store.Lawful)
    (config : CanonicalConfig maxBoards maxControllers maxDevices maxDependencies maxRules maxActions maxSteps)
    (target : BoardId) (slot : ConfigSlotId) (scratch : Usize) (candidate : PreparedCandidate) (state prepared : σ)
    (prepares : manager.prepareUpdate config target slot scratch state = (.ok candidate, prepared))
    (full : Usize) (enough : scratch ≤ full) (blob : List UInt8)
    (stored : manager.store.readBlob prepared slot .compiledArtifacts full = .ok blob)
    (damaged : σ) (out : Usize) (bytes : List UInt8) (corrupted : Corrupted blob bytes)
    (active : manager.store.activeSlot damaged = .ok slot)
    (read : manager.store.readBlob damaged slot .compiledArtifacts out = .ok bytes) :
    ∃ reason, manager.bootLoad candidate.schemaVersion candidate.configVersion out damaged = .safeBoot reason := by
  have preparation := prepareUpdate_preparation lawful.toFramed prepares
  obtain ⟨rfl, compiled, payload, _, _, fits, holds⟩ := preparation.holds lawful
  have small : headerLen + payload.length < UInt32.size := Nat.lt_of_le_of_lt fits scratch.toNat_lt
  -- The buffer is large enough, so the store returns what was written.
  have written := holds full (by rw [length_envelope]; exact Nat.le_trans fits (UInt32.le_iff_toNat_le.mp enough))
  obtain rfl : blob = envelope .compiledArtifacts config.schemaVersion config.configVersion payload :=
    Except.ok.inj (stored.symm.trans written)
  cases booted : manager.bootLoad config.schemaVersion config.configVersion out damaged with
  | safeBoot reason => exact ⟨reason, rfl⟩
  | ready found schemaVersion configVersion =>
    obtain ⟨_, other, otherPayload, otherActive, otherSmall, otherRead, _⟩ := bootLoad_eq_ready.mp booted
    obtain rfl : slot = other := Except.ok.inj (active.symm.trans otherActive)
    obtain rfl := Except.ok.inj (read.symm.trans otherRead)
    exact absurd rfl (corrupted.ne_envelope small otherSmall)

-- The role of the board is the last byte of the blob.
def damagedStore : MockStore :=
  runningStore.put ⟨1⟩ .compiledArtifacts ((runningStore.blobs ⟨1⟩ .compiledArtifacts).set 28 1)

theorem bootLoad_damagedStore : ∃ reason, bareManager.bootLoad 1 1 64 damagedStore = .safeBoot reason := by
  let blob := runningStore.blobs ⟨1⟩ .compiledArtifacts
  have changed : Corrupted blob (blob.set 28 1) := .changed ⟨0, by decide +kernel, by decide⟩
  exact bootLoad_corrupted bareManager MockStore.configStore_lawful (bareConfig 1) ⟨1⟩ ⟨1⟩ 64 ⟨⟨1⟩, 1, 1⟩
    emptyStore runningStore rfl 64 (by decide) blob rfl damagedStore 64 (blob.set 28 1) changed rfl rfl

end SmartboxConfig
