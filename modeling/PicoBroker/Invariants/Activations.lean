import PicoBroker.Config.Preparation
import PicoBroker.Shared.Execution

set_option autoImplicit false

namespace SmartboxConfig

open Execution (Run Anything)

inductive ManagerEvent where
  | prepared (candidate : PreparedCandidate)
  | failed (slot : ConfigSlotId)
  | activated (index : Nat) (candidate : PreparedCandidate)
deriving DecidableEq

inductive ManagerCall
    (maxBoards maxControllers maxDevices maxDependencies maxRules maxActions maxSteps : Nat) where
  | prepare
      (config : CanonicalConfig maxBoards maxControllers maxDevices maxDependencies maxRules maxActions maxSteps)
      (target : BoardId) (slot : ConfigSlotId) (scratch : Usize)
  | activate (index : Nat) (requested : ConfigSlotId)

structure ManagerState (σ : Type) where
  store : σ
  history : List ManagerEvent

def returned (history : List ManagerEvent) : List PreparedCandidate :=
  history.filterMap fun
    | .prepared candidate => some candidate
    | .failed _ | .activated _ _ => none

def ManagerEvent.leaves (slot : ConfigSlotId) (held : Option PreparedCandidate) :
    ManagerEvent → Option PreparedCandidate
  | .prepared candidate => if candidate.slot = slot then some candidate else held
  | .failed touched => if touched = slot then none else held
  | .activated _ _ => held

-- A preparation that failed leaves none.
def standing (slot : ConfigSlotId) (history : List ManagerEvent) : Option PreparedCandidate :=
  history.foldl (fun held event => event.leaves slot held) none

def ManagerState.record {σ : Type} (state : ManagerState σ) (after : σ) (events : List ManagerEvent) :
    Option (ManagerState σ × List ManagerEvent) :=
  some (⟨after, state.history ++ events⟩, events)

section

variable {σ ε : Type} {maxBoards maxControllers maxDevices maxDependencies maxRules maxActions maxSteps : Nat}
  (manager : ConfigManager σ ε maxBoards maxControllers maxDevices maxDependencies maxRules maxActions maxSteps)

-- A configuration the compiler rejects never reaches the store, and is not an event.
def managerStep : Execution.Step (ManagerState σ)
    (ManagerCall maxBoards maxControllers maxDevices maxDependencies maxRules maxActions maxSteps) ManagerEvent
  | state, .prepare config target slot scratch =>
      match manager.prepareUpdate config target slot scratch state.store with
      | (.ok candidate, after) => state.record after [.prepared candidate]
      | (.error (.compile _), after) => state.record after []
      | (.error _, after) => state.record after [.failed slot]
  | state, .activate index requested =>
      match (returned state.history)[index]? with
      | none => none
      | some candidate =>
          match manager.activatePrepared candidate requested state.store with
          | (.ok (), after) => state.record after [.activated index candidate]
          | (.error _, after) => state.record after []

variable {manager}

inductive ManagerMove (manager : ConfigManager σ ε maxBoards maxControllers maxDevices maxDependencies maxRules
    maxActions maxSteps) (state : ManagerState σ) :
    ManagerCall maxBoards maxControllers maxDevices maxDependencies maxRules maxActions maxSteps →
    ManagerState σ → List ManagerEvent → Prop
  | rejected {config : CanonicalConfig maxBoards maxControllers maxDevices maxDependencies maxRules maxActions
        maxSteps} {target : BoardId} {slot : ConfigSlotId} {scratch : Usize} :
      ManagerMove manager state (.prepare config target slot scratch) state []
  | failed {config : CanonicalConfig maxBoards maxControllers maxDevices maxDependencies maxRules maxActions
        maxSteps} {target : BoardId} {slot : ConfigSlotId} {scratch : Usize} {after : σ}
      (outside : manager.store.SameOutside slot state.store after) :
      ManagerMove manager state (.prepare config target slot scratch)
        ⟨after, state.history ++ [.failed slot]⟩ [.failed slot]
  | prepared {config : CanonicalConfig maxBoards maxControllers maxDevices maxDependencies maxRules maxActions
        maxSteps} {target : BoardId} {slot : ConfigSlotId} {scratch : Usize} {candidate : PreparedCandidate}
      {after : σ}
      (preparation : Preparation manager config target slot scratch state.store (.ok candidate, after)) :
      ManagerMove manager state (.prepare config target slot scratch)
        ⟨after, state.history ++ [.prepared candidate]⟩ [.prepared candidate]
  | activated {index : Nat} {requested : ConfigSlotId} {candidate : PreparedCandidate} {after : σ}
      (found : (returned state.history)[index]? = some candidate)
      (activates : manager.activatePrepared candidate requested state.store = (.ok (), after)) :
      ManagerMove manager state (.activate index requested)
        ⟨after, state.history ++ [.activated index candidate]⟩ [.activated index candidate]
  | refused {index : Nat} {requested : ConfigSlotId} {candidate : PreparedCandidate}
      {error : ActivatePreparedError ε} {after : σ}
      (refuses : manager.activatePrepared candidate requested state.store = (.error error, after)) :
      ManagerMove manager state (.activate index requested) ⟨after, state.history⟩ []

theorem managerStep_move (framed : manager.store.Framed) {state next : ManagerState σ}
    {call : ManagerCall maxBoards maxControllers maxDevices maxDependencies maxRules maxActions maxSteps}
    {events : List ManagerEvent} (taken : managerStep manager state call = some (next, events)) :
    ManagerMove manager state call next events := by
  cases call with
  | prepare config target slot scratch =>
    simp only [managerStep] at taken
    cases prepares : manager.prepareUpdate config target slot scratch state.store with
    | mk result after =>
      have preparation := prepareUpdate_preparation framed prepares
      rw [prepares] at taken
      cases preparation with
      | rejected =>
        obtain ⟨rfl, rfl⟩ := Prod.mk.inj (Option.some.inj taken)
        simpa using ManagerMove.rejected
      | @failed _ error _ compiles late outside =>
        cases error with
        | compile reason => exact absurd rfl (late reason)
        | store | discardAfterStoreFailure =>
          obtain ⟨rfl, rfl⟩ := Prod.mk.inj (Option.some.inj taken)
          exact .failed outside
      | stored compiles outside encoded fits written =>
        obtain ⟨rfl, rfl⟩ := Prod.mk.inj (Option.some.inj taken)
        exact .prepared (.stored compiles outside encoded fits written)
  | activate index requested =>
    simp only [managerStep] at taken
    split at taken
    · cases taken
    · next candidate found =>
      split at taken
      · next after activates =>
        obtain ⟨rfl, rfl⟩ := Prod.mk.inj (Option.some.inj taken)
        exact .activated found activates
      · next error after refuses =>
        obtain ⟨rfl, rfl⟩ := Prod.mk.inj (Option.some.inj taken)
        rw [List.append_nil]
        exact .refused refuses

-- The slot of a candidate holds a compiled blob that a boot with its versions accepts.
def ConfigManager.Bootable
    (manager : ConfigManager σ ε maxBoards maxControllers maxDevices maxDependencies maxRules maxActions maxSteps)
    (state : σ) (candidate : PreparedCandidate)
    (compiled : CompiledConfig maxDevices maxControllers maxDependencies maxRules maxActions maxSteps)
    (needed : Nat) : Prop :=
  ∃ payload, headerLen + payload.length ≤ needed ∧ needed < UInt32.size ∧
    manager.compiled.fromBytes payload = some compiled ∧
    manager.store.Holds state candidate.slot .compiledArtifacts
      (envelope .compiledArtifacts candidate.schemaVersion candidate.configVersion payload)

theorem ConfigManager.Bootable.of_reads {before after : σ} {candidate : PreparedCandidate}
    {compiled : CompiledConfig maxDevices maxControllers maxDependencies maxRules maxActions maxSteps}
    {needed : Nat} (bootable : manager.Bootable before candidate compiled needed)
    (reads : ∀ kind out, manager.store.readBlob after candidate.slot kind out =
      manager.store.readBlob before candidate.slot kind out) :
    manager.Bootable after candidate compiled needed := by
  obtain ⟨payload, fits, small, value, holds⟩ := bootable
  exact ⟨payload, fits, small, value, fun out large => (reads _ _).trans (holds out large)⟩

theorem Preparation.bootable (lawful : manager.store.Lawful) (inverts : manager.compiled.Inverts)
    {config : CanonicalConfig maxBoards maxControllers maxDevices maxDependencies maxRules maxActions maxSteps}
    {target : BoardId} {slot : ConfigSlotId} {scratch : Usize} {state after : σ} {candidate : PreparedCandidate}
    (preparation : Preparation manager config target slot scratch state (.ok candidate, after)) :
    candidate.slot = slot ∧ ∃ compiled, compileConfig config target = .ok compiled ∧
      manager.Bootable after candidate compiled scratch.toNat := by
  obtain ⟨rfl, compiled, payload, compiles, encoded, fits, holds⟩ := preparation.holds lawful
  exact ⟨rfl, compiled, compiles, payload, fits, scratch.toNat_lt, inverts _ _ _ encoded, holds⟩

theorem ConfigManager.Bootable.boots (lawful : manager.store.Lawful) {before after : σ}
    {candidate : PreparedCandidate}
    {compiled : CompiledConfig maxDevices maxControllers maxDependencies maxRules maxActions maxSteps}
    {needed : Nat} (bootable : manager.Bootable before candidate compiled needed)
    (activates : manager.activatePrepared candidate candidate.slot before = (.ok (), after)) {out : Usize}
    (large : needed ≤ out.toNat) :
    manager.bootLoad candidate.schemaVersion candidate.configVersion out after =
      .ready compiled candidate.schemaVersion candidate.configVersion := by
  obtain ⟨_, written⟩ := activatePrepared_eq_ok.mp activates
  have active := lawful.active_written before candidate.slot (congrArg Prod.fst written)
  rw [written] at active
  obtain ⟨payload, fits, small, value, holds⟩ :=
    bootable.of_reads (activatePrepared_reads lawful activates candidate.slot)
  refine bootLoad_eq_ready.mpr ⟨⟨rfl, rfl⟩, candidate.slot, payload, active, by omega, ?_, value⟩
  exact holds out (by rw [length_envelope]; omega)

theorem standing_append (slot : ConfigSlotId) (history : List ManagerEvent) (event : ManagerEvent) :
    standing slot (history ++ [event]) = event.leaves slot (standing slot history) := by
  simp only [standing, List.foldl_append, List.foldl_cons, List.foldl_nil]

def Upright (manager : ConfigManager σ ε maxBoards maxControllers maxDevices maxDependencies maxRules maxActions
    maxSteps) (state : ManagerState σ) : Prop :=
  ∀ slot candidate, standing slot state.history = some candidate →
    candidate.slot = slot ∧ ∃ compiled needed, manager.Bootable state.store candidate compiled needed

theorem Upright.of_reads {state : ManagerState σ} (upright : Upright manager state) {slot : ConfigSlotId}
    {candidate : PreparedCandidate} (stands : standing slot state.history = some candidate) {after : σ}
    (reads : ∀ kind out, manager.store.readBlob after slot kind out = manager.store.readBlob state.store slot kind out) :
    candidate.slot = slot ∧ ∃ compiled needed, manager.Bootable after candidate compiled needed := by
  obtain ⟨rfl, compiled, needed, bootable⟩ := upright slot candidate stands
  exact ⟨rfl, compiled, needed, bootable.of_reads reads⟩

theorem ManagerMove.upright (lawful : manager.store.Lawful) (inverts : manager.compiled.Inverts)
    {state next : ManagerState σ}
    {call : ManagerCall maxBoards maxControllers maxDevices maxDependencies maxRules maxActions maxSteps}
    {events : List ManagerEvent} (upright : Upright manager state)
    (move : ManagerMove manager state call next events) : Upright manager next := by
  intro slot candidate stands
  cases move with
  | rejected => exact upright slot candidate stands
  | failed outside =>
    rw [standing_append, ManagerEvent.leaves] at stands
    split at stands
    · cases stands
    · next other => exact upright.of_reads stands fun kind out => outside.reads slot kind out (Ne.symm other)
  | prepared preparation =>
    obtain ⟨named, compiled, _, bootable⟩ := preparation.bootable lawful inverts
    rw [standing_append, ManagerEvent.leaves] at stands
    split at stands
    · next same =>
      cases stands
      exact ⟨same, compiled, _, bootable⟩
    · next other =>
      refine upright.of_reads stands fun kind out => preparation.outside.reads slot kind out ?_
      rintro rfl
      exact other named
  | activated found activates =>
    rw [standing_append] at stands
    exact upright.of_reads stands (activatePrepared_reads lawful activates slot)
  | refused refuses => exact upright.of_reads stands (activatePrepared_reads lawful refuses slot)

theorem upright_run (lawful : manager.store.Lawful) (inverts : manager.compiled.Inverts) {start : σ}
    {calls : List (ManagerCall maxBoards maxControllers maxDevices maxDependencies maxRules maxActions maxSteps)}
    {events : List ManagerEvent} {state : ManagerState σ}
    (run : Run (managerStep manager) Anything ⟨start, []⟩ calls events state) : Upright manager state := by
  refine run.invariant (P := fun _ state => Upright manager state) ?_ ?_
  · intro slot candidate stands
    cases stands
  · intro _ state call next new upright _ taken
    exact (managerStep_move lawful.toFramed taken).upright lawful inverts upright

end

theorem activatePrepared_standing
    {σ ε : Type} {maxBoards maxControllers maxDevices maxDependencies maxRules maxActions maxSteps : Nat}
    (manager : ConfigManager σ ε maxBoards maxControllers maxDevices maxDependencies maxRules maxActions maxSteps)
    (lawful : manager.store.Lawful) (inverts : manager.compiled.Inverts) (start : σ)
    (calls : List (ManagerCall maxBoards maxControllers maxDevices maxDependencies maxRules maxActions maxSteps))
    (events : List ManagerEvent) (state : ManagerState σ)
    (run : Run (managerStep manager) Anything ⟨start, []⟩ calls events state)
    (candidate : PreparedCandidate) (after : σ)
    (stands : standing candidate.slot state.history = some candidate)
    (activates : manager.activatePrepared candidate candidate.slot state.store = (.ok (), after)) :
    ∃ compiled needed, needed < UInt32.size ∧ ∀ out : Usize, needed ≤ out.toNat →
      manager.bootLoad candidate.schemaVersion candidate.configVersion out after =
        .ready compiled candidate.schemaVersion candidate.configVersion := by
  obtain ⟨_, compiled, needed, bootable⟩ := upright_run lawful inverts run _ _ stands
  have ⟨_, _, addressable, _⟩ := bootable
  exact ⟨compiled, needed, addressable, fun out large => bootable.boots lawful activates large⟩

def preparedState : ManagerState MockStore :=
  ⟨(bareManager.prepareUpdate (bareConfig 1) ⟨1⟩ ⟨2⟩ 64 emptyStore).2, [.prepared ⟨⟨2⟩, 1, 1⟩]⟩

theorem activatePrepared_standing_bare : ∃ compiled needed, needed < UInt32.size ∧
    ∀ out : Usize, needed ≤ out.toNat →
      bareManager.bootLoad 1 1 out (bareManager.activatePrepared ⟨⟨2⟩, 1, 1⟩ ⟨2⟩ preparedState.store).2 =
        .ready compiled 1 1 :=
  have run : Run (managerStep bareManager) Anything ⟨emptyStore, []⟩ [.prepare (bareConfig 1) ⟨1⟩ ⟨2⟩ 64]
    [.prepared ⟨⟨2⟩, 1, 1⟩] preparedState := Execution.run_of_exec rfl
  activatePrepared_standing bareManager MockStore.configStore_lawful barePostcard_inverts emptyStore _ _
    preparedState run ⟨⟨2⟩, 1, 1⟩ _ rfl rfl

-- A second update fails for want of buffer and takes the blobs of the first with it. The candidate of the
-- first is activated all the same.
theorem activatePrepared_discarded : ∃ (state : ManagerState MockStore) (events : List ManagerEvent),
    Run (managerStep bareManager) Anything ⟨emptyStore, []⟩
      [.prepare (bareConfig 1) ⟨1⟩ ⟨2⟩ 64, .prepare (bareConfig 2) ⟨1⟩ ⟨2⟩ 10, .activate 0 ⟨2⟩] events state ∧
    decide (events = [.prepared ⟨⟨2⟩, 1, 1⟩, .failed ⟨2⟩, .activated 0 ⟨⟨2⟩, 1, 1⟩] ∧
      bareManager.bootLoad 1 1 64 state.store = .safeBoot (.codec .bufferTooSmall)) = true :=
  Execution.exists_run (by decide +kernel)

def ManagerCall.Elsewhere {maxBoards maxControllers maxDevices maxDependencies maxRules maxActions maxSteps : Nat}
    (slot : ConfigSlotId) :
    ManagerCall maxBoards maxControllers maxDevices maxDependencies maxRules maxActions maxSteps → Prop
  | .prepare _ _ other _ => other ≠ slot
  | .activate _ requested => requested ≠ slot

instance {maxBoards maxControllers maxDevices maxDependencies maxRules maxActions maxSteps : Nat} (slot : ConfigSlotId)
    (call : ManagerCall maxBoards maxControllers maxDevices maxDependencies maxRules maxActions maxSteps) :
    Decidable (call.Elsewhere slot) :=
  match call with
  | .prepare _ _ other _ => inferInstanceAs (Decidable (other ≠ slot))
  | .activate _ requested => inferInstanceAs (Decidable (requested ≠ slot))

section

variable {σ ε : Type} {maxBoards maxControllers maxDevices maxDependencies maxRules maxActions maxSteps : Nat}
  {manager : ConfigManager σ ε maxBoards maxControllers maxDevices maxDependencies maxRules maxActions maxSteps}

theorem ManagerMove.reads_elsewhere (lawful : manager.store.Lawful) {slot : ConfigSlotId}
    {state next : ManagerState σ}
    {call : ManagerCall maxBoards maxControllers maxDevices maxDependencies maxRules maxActions maxSteps}
    {events : List ManagerEvent} (move : ManagerMove manager state call next events)
    (elsewhere : call.Elsewhere slot) (kind : BlobKind) (out : Usize) :
    manager.store.readBlob next.store slot kind out = manager.store.readBlob state.store slot kind out := by
  cases move with
  | rejected => rfl
  | failed outside => exact outside.reads slot kind out (Ne.symm elsewhere)
  | prepared preparation => exact preparation.outside.reads slot kind out (Ne.symm elsewhere)
  | activated _ activates => exact activatePrepared_reads lawful activates slot kind out
  | refused refuses => exact activatePrepared_reads lawful refuses slot kind out

end

theorem prepareUpdate_activatePrepared_bootLoad
    {σ ε : Type} {maxBoards maxControllers maxDevices maxDependencies maxRules maxActions maxSteps : Nat}
    (manager : ConfigManager σ ε maxBoards maxControllers maxDevices maxDependencies maxRules maxActions maxSteps)
    (lawful : manager.store.Lawful) (inverts : manager.compiled.Inverts)
    (config : CanonicalConfig maxBoards maxControllers maxDevices maxDependencies maxRules maxActions maxSteps)
    (target : BoardId) (slot : ConfigSlotId) (scratch : Usize) (candidate : PreparedCandidate) (state prepared : σ)
    (prepares : manager.prepareUpdate config target slot scratch state = (.ok candidate, prepared))
    (history : List ManagerEvent)
    (calls : List (ManagerCall maxBoards maxControllers maxDevices maxDependencies maxRules maxActions maxSteps))
    (events : List ManagerEvent) (later : ManagerState σ)
    (run : Run (managerStep manager) (fun _ call => call.Elsewhere slot) ⟨prepared, history⟩ calls events later) :
    ∃ compiled, compileConfig config target = .ok compiled ∧
      ((manager.activatePrepared candidate slot later.store).1 = .ok () ↔
        (manager.store.writeActiveSlot slot later.store).1 = .ok ()) ∧
      ∀ after, manager.activatePrepared candidate slot later.store = (.ok (), after) →
        ∀ out : Usize, scratch ≤ out →
          manager.bootLoad candidate.schemaVersion candidate.configVersion out after =
            .ready compiled candidate.schemaVersion candidate.configVersion := by
  have preparation := prepareUpdate_preparation lawful.toFramed prepares
  obtain ⟨rfl, compiled, compiles, bootable⟩ := preparation.bootable lawful inverts
  have kept : manager.Bootable later.store candidate compiled scratch.toNat := by
    refine run.invariant (P := fun _ state => manager.Bootable state.store candidate compiled scratch.toNat)
      bootable ?_
    intro _ state call next new bootable elsewhere taken
    exact bootable.of_reads ((managerStep_move lawful.toFramed taken).reads_elsewhere lawful elsewhere)
  refine ⟨compiled, compiles, ?_, fun after activates out enough => ?_⟩
  · simp [ConfigManager.activatePrepared, commitCandidateSlot]
  · exact kept.boots lawful activates (UInt32.le_iff_toNat_le.mp enough)

-- Meanwhile an update to version 3 is prepared in the first slot and activated.
def updatedState : ManagerState MockStore :=
  let updated := (bareManager.prepareUpdate (bareConfig 3) ⟨1⟩ ⟨1⟩ 64 preparedState.store).2
  ⟨(bareManager.activatePrepared ⟨⟨1⟩, 1, 3⟩ ⟨1⟩ updated).2,
    [.prepared ⟨⟨2⟩, 1, 1⟩, .prepared ⟨⟨1⟩, 1, 3⟩, .activated 1 ⟨⟨1⟩, 1, 3⟩]⟩

theorem prepareUpdate_activatePrepared_bootLoad_bare :
    ∃ compiled, compileConfig (bareConfig 1) ⟨1⟩ = .ok compiled ∧
      ((bareManager.activatePrepared ⟨⟨2⟩, 1, 1⟩ ⟨2⟩ updatedState.store).1 = .ok () ↔
        (bareManager.store.writeActiveSlot ⟨2⟩ updatedState.store).1 = .ok ()) ∧
      ∀ after, bareManager.activatePrepared ⟨⟨2⟩, 1, 1⟩ ⟨2⟩ updatedState.store = (.ok (), after) →
        ∀ out : Usize, 64 ≤ out → bareManager.bootLoad 1 1 out after = .ready compiled 1 1 :=
  have run : Run (managerStep bareManager) (fun _ call => call.Elsewhere ⟨2⟩) preparedState
    [.prepare (bareConfig 3) ⟨1⟩ ⟨1⟩ 64, .activate 1 ⟨1⟩]
    [.prepared ⟨⟨1⟩, 1, 3⟩, .activated 1 ⟨⟨1⟩, 1, 3⟩] updatedState := Execution.run_of_exec rfl
  prepareUpdate_activatePrepared_bootLoad bareManager MockStore.configStore_lawful barePostcard_inverts (bareConfig 1)
    ⟨1⟩ ⟨2⟩ 64 ⟨⟨2⟩, 1, 1⟩ emptyStore preparedState.store rfl _ _ _ updatedState run

end SmartboxConfig
