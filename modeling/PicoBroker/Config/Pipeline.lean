import PicoBroker.Config.Compiler
import PicoBroker.Config.Storage

set_option autoImplicit false

namespace SmartboxConfig

structure PreparedCandidate where
  slot : ConfigSlotId
  schemaVersion : UInt16
  configVersion : UInt32
deriving DecidableEq

inductive PrepareCandidateError (ε : Type) where
  | compile (error : CompileError)
  | store (error : ConfigStoreError ε)
  | discardAfterStoreFailure (store : ConfigStoreError ε) (discard : ε)
deriving DecidableEq

inductive SafeBootReason (ε : Type) where
  | store (error : ε)
  | codec (error : CodecError)
  | schemaVersionMismatch (expected found : UInt16)
  | configVersionMismatch (expected found : UInt32)
deriving DecidableEq

inductive BootConfigResult (α ε : Type) where
  | ready (compiled : α) (schemaVersion : UInt16) (configVersion : UInt32)
  | safeBoot (reason : SafeBootReason ε)
deriving DecidableEq

inductive ActivatePreparedError (ε : Type) where
  | store (error : ConfigStoreError ε)
  | slotMismatch (prepared requested : ConfigSlotId)
deriving DecidableEq

section

variable {σ ε α : Type} (store : ConfigStore σ ε)

def discardAfterStoreFailure (slot : ConfigSlotId) (error : ConfigStoreError ε) (state : σ) :
    PrepareCandidateError ε × σ :=
  match store.discardSlot slot state with
  | (.ok (), after) => (.store error, after)
  | (.error discard, after) => (.discardAfterStoreFailure error discard, after)

def prepareCandidateBlob (postcard : Postcard α) (slot : ConfigSlotId) (kind : BlobKind) (schemaVersion : UInt16)
    (configVersion : UInt32) (value : α) (scratch : Usize) (state : σ) :
    Except (PrepareCandidateError ε) Unit × σ :=
  match prepareCandidateSlot store postcard slot kind schemaVersion configVersion value scratch state with
  | (.ok (), after) => (.ok (), after)
  | (.error error, after) =>
      let failed := discardAfterStoreFailure store slot error after
      (.error failed.1, failed.2)

end

structure ConfigManager (σ ε : Type)
    (maxBoards maxControllers maxDevices maxDependencies maxRules maxActions maxSteps : Nat) where
  store : ConfigStore σ ε
  canonical : Postcard
    (CanonicalConfig maxBoards maxControllers maxDevices maxDependencies maxRules maxActions maxSteps)
  compiled : Postcard (CompiledConfig maxDevices maxControllers maxDependencies maxRules maxActions maxSteps)

section

variable {σ ε : Type} {maxBoards maxControllers maxDevices maxDependencies maxRules maxActions maxSteps : Nat}
  (manager : ConfigManager σ ε maxBoards maxControllers maxDevices maxDependencies maxRules maxActions maxSteps)

def compileAndPrepareCandidate
    (config : CanonicalConfig maxBoards maxControllers maxDevices maxDependencies maxRules maxActions maxSteps)
    (targetBoardId : BoardId) (candidateSlot : ConfigSlotId) (scratch : Usize) (state : σ) :
    Except (PrepareCandidateError ε) PreparedCandidate × σ :=
  match compileConfig config targetBoardId with
  | .error error => (.error (.compile error), state)
  | .ok compiled =>
      match prepareCandidateBlob manager.store manager.canonical candidateSlot .canonicalConfig
          config.schemaVersion config.configVersion config scratch state with
      | (.error error, after) => (.error error, after)
      | (.ok (), after) =>
          match prepareCandidateBlob manager.store manager.compiled candidateSlot .compiledArtifacts
              config.schemaVersion config.configVersion compiled scratch after with
          | (.error error, final) => (.error error, final)
          | (.ok (), final) => (.ok ⟨candidateSlot, config.schemaVersion, config.configVersion⟩, final)

def loadActiveCompiledConfig (expectedSchemaVersion : UInt16) (expectedConfigVersion : UInt32) (scratch : Usize)
    (state : σ) : BootConfigResult
      (CompiledConfig maxDevices maxControllers maxDependencies maxRules maxActions maxSteps) ε :=
  match loadActiveBlob manager.store manager.compiled state scratch .compiledArtifacts with
  | .error (.store error) => .safeBoot (.store error)
  | .error (.codec error) => .safeBoot (.codec error)
  | .ok decoded =>
      if decoded.schemaVersion ≠ expectedSchemaVersion then
        .safeBoot (.schemaVersionMismatch expectedSchemaVersion decoded.schemaVersion)
      else if decoded.configVersion ≠ expectedConfigVersion then
        .safeBoot (.configVersionMismatch expectedConfigVersion decoded.configVersion)
      else .ready decoded.value decoded.schemaVersion decoded.configVersion

namespace ConfigManager

def prepareUpdate
    (config : CanonicalConfig maxBoards maxControllers maxDevices maxDependencies maxRules maxActions maxSteps)
    (targetBoardId : BoardId) (candidateSlot : ConfigSlotId) (scratch : Usize) (state : σ) :
    Except (PrepareCandidateError ε) PreparedCandidate × σ :=
  compileAndPrepareCandidate manager config targetBoardId candidateSlot scratch state

def activatePrepared (prepared : PreparedCandidate) (requestedSlot : ConfigSlotId) (state : σ) :
    Except (ActivatePreparedError ε) Unit × σ :=
  if prepared.slot ≠ requestedSlot then (.error (.slotMismatch prepared.slot requestedSlot), state)
  else
    let committed := commitCandidateSlot manager.store prepared.slot state
    (committed.1.mapError .store, committed.2)

def bootLoad (expectedSchemaVersion : UInt16) (expectedConfigVersion : UInt32) (scratch : Usize) (state : σ) :
    BootConfigResult
      (CompiledConfig maxDevices maxControllers maxDependencies maxRules maxActions maxSteps) ε :=
  loadActiveCompiledConfig manager expectedSchemaVersion expectedConfigVersion scratch state

end ConfigManager

end

end SmartboxConfig
