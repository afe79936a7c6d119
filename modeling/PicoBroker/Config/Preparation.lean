import PicoBroker.Config.Envelope
import PicoBroker.Config.Pipeline

set_option autoImplicit false

namespace SmartboxConfig

open Checks

section

variable {σ ε : Type} {store : ConfigStore σ ε} {slot : ConfigSlotId} {before middle after : σ}

structure ConfigStore.SameOutside (store : ConfigStore σ ε) (slot : ConfigSlotId) (before after : σ) : Prop where
  active : store.activeSlot after = store.activeSlot before
  reads : ∀ other kind out, other ≠ slot → store.readBlob after other kind out = store.readBlob before other kind out

namespace ConfigStore.SameOutside

theorem refl (store : ConfigStore σ ε) (slot : ConfigSlotId) (state : σ) : store.SameOutside slot state state :=
  ⟨rfl, fun _ _ _ _ => rfl⟩

theorem trans (first : store.SameOutside slot before middle) (second : store.SameOutside slot middle after) :
    store.SameOutside slot before after :=
  ⟨second.active.trans first.active, fun other kind out elsewhere =>
    (second.reads other kind out elsewhere).trans (first.reads other kind out elsewhere)⟩

theorem of_writeBlob (framed : store.Framed) {kind : BlobKind} {bytes : List UInt8} {result : Except ε Unit}
    (written : store.writeBlob slot kind bytes before = (result, after)) : store.SameOutside slot before after := by
  obtain rfl : (store.writeBlob slot kind bytes before).2 = after := by rw [written]
  refine ⟨framed.writeBlob_active before slot kind bytes, fun other otherKind out elsewhere => ?_⟩
  apply framed.writeBlob_reads
  exact fun same => elsewhere (Prod.mk.inj same).1

theorem of_discardSlot (framed : store.Framed) {result : Except ε Unit}
    (discarded : store.discardSlot slot before = (result, after)) : store.SameOutside slot before after := by
  obtain rfl : (store.discardSlot slot before).2 = after := by rw [discarded]
  exact ⟨framed.discardSlot_active before slot, fun other kind out =>
    framed.discardSlot_reads before slot other kind out⟩

end ConfigStore.SameOutside

theorem discardAfterStoreFailure_outside (framed : store.Framed) {error : ConfigStoreError ε} :
    store.SameOutside slot before (discardAfterStoreFailure store slot error before).2 := by
  unfold discardAfterStoreFailure
  split
  · next discarded => exact .of_discardSlot framed discarded
  · next discarded => exact .of_discardSlot framed discarded

theorem discardAfterStoreFailure_ne_compile {error : ConfigStoreError ε} (reason : CompileError) :
    (discardAfterStoreFailure store slot error before).1 ≠ .compile reason := by
  unfold discardAfterStoreFailure
  split <;> simp

end

section

variable {σ ε α : Type} {store : ConfigStore σ ε} {postcard : Postcard α} {slot : ConfigSlotId} {kind : BlobKind}
  {schemaVersion : UInt16} {configVersion : UInt32} {value : α} {scratch : Usize} {state : σ}

theorem encodeEnveloped_eq_ok {bytes : List UInt8} :
    encodeEnveloped postcard kind schemaVersion configVersion value scratch = .ok bytes ↔
      headerLen ≤ scratch.toNat ∧ ∃ payload, postcard.toSlice value (scratch.toNat - headerLen) = some payload ∧
        bytes = envelope kind schemaVersion configVersion payload := by
  unfold encodeEnveloped
  rw [seq_eq_ok, require_eq_ok]
  refine and_congr_right fun _ => ?_
  split
  · next payload found => simp [found, eq_comm]
  · next missing => simp [missing]

inductive BlobWrite (store : ConfigStore σ ε) (postcard : Postcard α) (slot : ConfigSlotId) (kind : BlobKind)
    (schemaVersion : UInt16) (configVersion : UInt32) (value : α) (scratch : Usize) (state : σ) :
    Except (PrepareCandidateError ε) Unit × σ → Prop
  | failed {error : PrepareCandidateError ε} {after : σ} (late : ∀ reason, error ≠ .compile reason)
      (outside : store.SameOutside slot state after) :
      BlobWrite store postcard slot kind schemaVersion configVersion value scratch state (.error error, after)
  | stored {payload : List UInt8} {after : σ}
      (encoded : postcard.toSlice value (scratch.toNat - headerLen) = some payload)
      (fits : headerLen + payload.length ≤ scratch.toNat)
      (written : store.writeBlob slot kind (envelope kind schemaVersion configVersion payload) state =
        (.ok (), after)) :
      BlobWrite store postcard slot kind schemaVersion configVersion value scratch state (.ok (), after)

theorem prepareCandidateBlob_write (framed : store.Framed) {outcome : Except (PrepareCandidateError ε) Unit × σ}
    (prepared :
      prepareCandidateBlob store postcard slot kind schemaVersion configVersion value scratch state = outcome) :
    BlobWrite store postcard slot kind schemaVersion configVersion value scratch state outcome := by
  subst prepared
  unfold prepareCandidateBlob prepareCandidateSlot
  split
  · next after prepared =>
    split at prepared
    · cases prepared
    · next bytes encoded =>
      obtain ⟨room, payload, serialized, rfl⟩ := encodeEnveloped_eq_ok.mp encoded
      obtain ⟨ok, rfl⟩ := Prod.mk.inj prepared
      have small := postcard.fits _ _ _ serialized
      refine .stored serialized (by omega) ?_
      cases written : store.writeBlob slot kind (envelope kind schemaVersion configVersion payload) state with
      | mk result after =>
        cases result with
        | error error => simp [written, Except.mapError] at ok
        | ok => rfl
  · next error after prepared =>
    have outside : store.SameOutside slot state after := by
      split at prepared
      · cases prepared
        exact .refl store slot state
      · obtain ⟨_, rfl⟩ := Prod.mk.inj prepared
        exact .of_writeBlob framed rfl
    exact .failed discardAfterStoreFailure_ne_compile (outside.trans (discardAfterStoreFailure_outside framed))

theorem BlobWrite.outside (framed : store.Framed) {outcome : Except (PrepareCandidateError ε) Unit × σ}
    (write : BlobWrite store postcard slot kind schemaVersion configVersion value scratch state outcome) :
    store.SameOutside slot state outcome.2 := by
  cases write with
  | failed _ outside => exact outside
  | stored _ _ written => exact .of_writeBlob framed written

end

section

variable {σ ε : Type} {maxBoards maxControllers maxDevices maxDependencies maxRules maxActions maxSteps : Nat}
  {manager : ConfigManager σ ε maxBoards maxControllers maxDevices maxDependencies maxRules maxActions maxSteps}
  {config : CanonicalConfig maxBoards maxControllers maxDevices maxDependencies maxRules maxActions maxSteps}
  {target : BoardId} {slot : ConfigSlotId} {scratch : Usize} {state : σ}

inductive Preparation
    (manager : ConfigManager σ ε maxBoards maxControllers maxDevices maxDependencies maxRules maxActions maxSteps)
    (config : CanonicalConfig maxBoards maxControllers maxDevices maxDependencies maxRules maxActions maxSteps)
    (target : BoardId) (slot : ConfigSlotId) (scratch : Usize) (state : σ) :
    Except (PrepareCandidateError ε) PreparedCandidate × σ → Prop
  | rejected {error : CompileError} (compiles : compileConfig config target = .error error) :
      Preparation manager config target slot scratch state (.error (.compile error), state)
  | failed {compiled : CompiledConfig maxDevices maxControllers maxDependencies maxRules maxActions maxSteps}
      {error : PrepareCandidateError ε} {after : σ} (compiles : compileConfig config target = .ok compiled)
      (late : ∀ reason, error ≠ .compile reason) (outside : manager.store.SameOutside slot state after) :
      Preparation manager config target slot scratch state (.error error, after)
  | stored {compiled : CompiledConfig maxDevices maxControllers maxDependencies maxRules maxActions maxSteps}
      {payload : List UInt8} {middle after : σ} (compiles : compileConfig config target = .ok compiled)
      (outside : manager.store.SameOutside slot state after)
      (encoded : manager.compiled.toSlice compiled (scratch.toNat - headerLen) = some payload)
      (fits : headerLen + payload.length ≤ scratch.toNat)
      (written : manager.store.writeBlob slot .compiledArtifacts
        (envelope .compiledArtifacts config.schemaVersion config.configVersion payload) middle = (.ok (), after)) :
      Preparation manager config target slot scratch state
        (.ok ⟨slot, config.schemaVersion, config.configVersion⟩, after)

theorem prepareUpdate_preparation (framed : manager.store.Framed)
    {outcome : Except (PrepareCandidateError ε) PreparedCandidate × σ}
    (prepared : manager.prepareUpdate config target slot scratch state = outcome) :
    Preparation manager config target slot scratch state outcome := by
  subst prepared
  unfold ConfigManager.prepareUpdate compileAndPrepareCandidate
  split
  · next compiles => exact .rejected compiles
  · next compiled compiles =>
    split
    · next canonical =>
      cases prepareCandidateBlob_write framed canonical with
      | failed late outside => exact .failed compiles late outside
    · next middle canonical =>
      have first := (prepareCandidateBlob_write framed canonical).outside framed
      split
      · next second =>
        cases prepareCandidateBlob_write framed second with
        | failed late outside => exact .failed compiles late (first.trans outside)
      · next second =>
        cases prepareCandidateBlob_write framed second with
        | stored encoded fits written =>
          exact .stored compiles (first.trans (.of_writeBlob framed written)) encoded fits written

theorem Preparation.outside {outcome : Except (PrepareCandidateError ε) PreparedCandidate × σ}
    (preparation : Preparation manager config target slot scratch state outcome) :
    manager.store.SameOutside slot state outcome.2 := by
  cases preparation with
  | rejected => exact .refl manager.store slot state
  | failed _ _ outside => exact outside
  | stored _ outside => exact outside

def ConfigStore.Holds (store : ConfigStore σ ε) (state : σ) (slot : ConfigSlotId) (kind : BlobKind)
    (bytes : List UInt8) : Prop :=
  ∀ out : Usize, bytes.length ≤ out.toNat → store.readBlob state slot kind out = .ok bytes

theorem Preparation.holds (lawful : manager.store.Lawful) {candidate : PreparedCandidate} {after : σ}
    (preparation : Preparation manager config target slot scratch state (.ok candidate, after)) :
    candidate = ⟨slot, config.schemaVersion, config.configVersion⟩ ∧ ∃ compiled payload,
      compileConfig config target = .ok compiled ∧
      manager.compiled.toSlice compiled (scratch.toNat - headerLen) = some payload ∧
      headerLen + payload.length ≤ scratch.toNat ∧
      manager.store.Holds after slot .compiledArtifacts
        (envelope .compiledArtifacts config.schemaVersion config.configVersion payload) := by
  cases preparation with
  | @stored compiled payload middle _ compiles outside encoded fits written =>
    refine ⟨rfl, compiled, payload, compiles, encoded, fits, fun out large => ?_⟩
    have read := lawful.read_written middle slot .compiledArtifacts _ out (congrArg Prod.fst written) large
    rwa [written] at read

theorem loadActiveBlob_eq_ok {α : Type} {store : ConfigStore σ ε} {postcard : Postcard α} {kind : BlobKind}
    {decoded : DecodedBlob α} :
    loadActiveBlob store postcard state scratch kind = .ok decoded ↔
      ∃ slot, store.activeSlot state = .ok slot ∧ ∃ bytes, store.readBlob state slot kind scratch = .ok bytes ∧
        decodeEnveloped postcard kind bytes = .ok decoded := by
  simp only [loadActiveBlob, bind_eq_ok, mapError_eq_ok]

theorem bootLoad_eq_ready {schemaVersion foundSchema : UInt16} {configVersion foundConfig : UInt32}
    {compiled : CompiledConfig maxDevices maxControllers maxDependencies maxRules maxActions maxSteps} :
    manager.bootLoad schemaVersion configVersion scratch state = .ready compiled foundSchema foundConfig ↔
      (foundSchema = schemaVersion ∧ foundConfig = configVersion) ∧ ∃ slot payload,
        manager.store.activeSlot state = .ok slot ∧ headerLen + payload.length < UInt32.size ∧
        manager.store.readBlob state slot .compiledArtifacts scratch =
          .ok (envelope .compiledArtifacts schemaVersion configVersion payload) ∧
        manager.compiled.fromBytes payload = some compiled := by
  constructor
  · intro booted
    unfold ConfigManager.bootLoad loadActiveCompiledConfig at booted
    split at booted
    · cases booted
    · cases booted
    · next decoded loaded =>
      split at booted
      · cases booted
      · next sameSchema =>
        split at booted
        · cases booted
        · next sameConfig =>
          cases booted
          rw [ne_eq, not_not] at sameSchema sameConfig
          obtain ⟨slot, active, bytes, read, decoding⟩ := loadActiveBlob_eq_ok.mp loaded
          obtain ⟨_, payload, small, rfl, value⟩ := decodeEnveloped_eq_ok.mp decoding
          rw [sameSchema, sameConfig] at read
          exact ⟨⟨sameSchema, sameConfig⟩, slot, payload, active, small, read, value⟩
  · rintro ⟨⟨rfl, rfl⟩, slot, payload, active, small, read, value⟩
    have loaded : loadActiveBlob manager.store manager.compiled state scratch .compiledArtifacts =
        .ok ⟨.compiledArtifacts, foundSchema, foundConfig, compiled⟩ :=
      loadActiveBlob_eq_ok.mpr ⟨slot, active, _, read,
        decodeEnveloped_eq_ok.mpr ⟨rfl, payload, small, rfl, value⟩⟩
    simp [ConfigManager.bootLoad, loadActiveCompiledConfig, loaded]

theorem activatePrepared_eq_ok {candidate : PreparedCandidate} {requested : ConfigSlotId} {after : σ} :
    manager.activatePrepared candidate requested state = (.ok (), after) ↔
      candidate.slot = requested ∧ manager.store.writeActiveSlot requested state = (.ok (), after) := by
  unfold ConfigManager.activatePrepared commitCandidateSlot
  split
  · next mismatch => simp [mismatch]
  · next same =>
    rw [ne_eq, not_not] at same
    subst same
    simp only [Prod.ext_iff, mapError_eq_ok, true_and]

theorem activatePrepared_reads (lawful : manager.store.Lawful) {candidate : PreparedCandidate}
    {requested : ConfigSlotId} {result : Except (ActivatePreparedError ε) Unit} {after : σ}
    (activates : manager.activatePrepared candidate requested state = (result, after))
    (other : ConfigSlotId) (kind : BlobKind) (out : Usize) :
    manager.store.readBlob after other kind out = manager.store.readBlob state other kind out := by
  obtain rfl : (manager.activatePrepared candidate requested state).2 = after := by rw [activates]
  unfold ConfigManager.activatePrepared
  split
  · rfl
  · exact lawful.writeActiveSlot_reads state candidate.slot other kind out

end

section

open Fields

def BoardRole.toByte : BoardRole → UInt8
  | .coordinator => 0
  | .standby => 1
  | .zone => 2

def BoardRole.ofByte (byte : UInt8) : Option BoardRole :=
  if byte = 0 then some .coordinator
  else if byte = 1 then some .standby
  else if byte = 2 then some .zone
  else none

def bareCompiled (configVersion : UInt32) (board : BoardConfig) : CompiledConfig 0 0 0 0 0 0 :=
  ⟨configVersion, ⟨board, .empty, .empty⟩, ⟨.empty⟩, .empty, ⟨.empty⟩⟩

def bareBytes (compiled : CompiledConfig 0 0 0 0 0 0) : List UInt8 :=
  bigEndian 4 compiled.configVersion.toNat ++ bigEndian 4 compiled.localInventory.board.boardId.value.toNat ++
    [compiled.localInventory.board.role.toByte]

def barePostcard : Postcard (CompiledConfig 0 0 0 0 0 0) where
  toSlice compiled room := if (bareBytes compiled).length ≤ room then some (bareBytes compiled) else none
  fromBytes bytes := (BoardRole.ofByte (bytes.getD 8 255)).map fun role =>
    bareCompiled (UInt32.ofNat (ofBigEndian (slice bytes 0 4)))
      ⟨⟨UInt32.ofNat (ofBigEndian (slice bytes 4 8))⟩, role⟩
  fits compiled room bytes := by
    split
    · next fits =>
      rintro ⟨⟩
      exact fits
    · rintro ⟨⟩

theorem bareCompiled_eq (compiled : CompiledConfig 0 0 0 0 0 0) :
    bareCompiled compiled.configVersion compiled.localInventory.board = compiled := by
  obtain ⟨version, ⟨board, controllers, devices⟩, ⟨dependencies⟩, rules, ⟨topology⟩⟩ := compiled
  have nothing : ∀ {α : Type} (values : Bounded α 0), .empty = values := fun values =>
    Bounded.ext (List.eq_nil_of_length_eq_zero (Nat.le_zero.mp values.fits)).symm
  simp [bareCompiled, ← nothing]

theorem barePostcard_inverts : barePostcard.Inverts := by
  intro compiled room bytes serialized
  obtain ⟨_, rfl⟩ : (bareBytes compiled).length ≤ room ∧ bareBytes compiled = bytes := by
    simpa [barePostcard] using serialized
  have version : slice (bareBytes compiled) 0 4 = bigEndian 4 compiled.configVersion.toNat := rfl
  have board : slice (bareBytes compiled) 4 8 =
    bigEndian 4 compiled.localInventory.board.boardId.value.toNat := rfl
  have role : BoardRole.ofByte ((bareBytes compiled).getD 8 255) = some compiled.localInventory.board.role := by
    have last : (bareBytes compiled).getD 8 255 = compiled.localInventory.board.role.toByte := rfl
    rw [last]
    cases compiled.localInventory.board.role <;> rfl
  simp only [barePostcard, version, board, role, ofBigEndian_word32, UInt32.ofNat_toNat, Option.map_some]
  exact congrArg some (bareCompiled_eq compiled)

def bareConfig (configVersion : UInt32) : CanonicalConfig 1 0 0 0 0 0 0 where
  schemaVersion := supportedSchemaVersion
  configVersion := configVersion
  houseId := ⟨9⟩
  boards := .truncate [⟨⟨1⟩, .coordinator⟩]
  controllers := .empty
  devices := .empty
  dependencies := .empty
  rules := .empty
  broker := ⟨.empty, true⟩
  network := ⟨true, none⟩

-- The canonical blob is written and never loaded, so its content does not matter here.
def bareManager : ConfigManager MockStore Unit 1 0 0 0 0 0 0 where
  store := MockStore.configStore
  canonical :=
    { toSlice := fun _ _ => some []
      fromBytes := fun _ => none
      fits := fun _ _ _ serialized => by simp [← Option.some.inj serialized] }
  compiled := barePostcard

def emptyStore : MockStore := ⟨⟨1⟩, fun _ _ => [], none⟩

end

end SmartboxConfig
