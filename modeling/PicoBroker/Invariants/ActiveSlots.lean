import PicoBroker.Invariants.Activations

set_option autoImplicit false

namespace SmartboxConfig

open Execution (Run Anything)

def ManagerEvent.activates (index : Nat) : ManagerEvent → Bool
  | .activated used _ => used == index
  | .prepared _ | .failed _ => false

-- Candidates are counted as they are returned, and `count` is the number of the next one.
def slotOperations : Nat → List ManagerEvent → List SlotOperation
  | _, [] => []
  | count, .prepared candidate :: rest =>
      if rest.any (·.activates count) then
        .beginCandidate candidate.slot candidate.configVersion :: slotOperations (count + 1) rest
      else slotOperations (count + 1) rest
  | count, .failed _ :: rest => slotOperations count rest
  | count, .activated _ _ :: rest => .commitCandidate :: slotOperations count rest

-- `stale` of the candidates were returned before the last activation, and `running` is the active version.
structure Progress where
  returned : List PreparedCandidate
  stale : Nat
  running : UInt32

namespace Progress

def start (configVersion : UInt32) : Progress := ⟨[], 0, configVersion⟩

def observe (progress : Progress) : ManagerEvent → Progress
  | .prepared candidate => { progress with returned := progress.returned ++ [candidate] }
  | .failed _ => progress
  | .activated index _ =>
      { progress with
        stale := progress.returned.length
        running := (progress.returned[index]?).elim progress.running PreparedCandidate.configVersion }

def Permits (progress : Progress) (index : Nat) : Prop :=
  progress.stale ≤ index ∧ ∃ candidate ∈ progress.returned[index]?,
    candidate.slot.value ≠ 0 ∧ progress.running < candidate.configVersion

def Orderly : Progress → List ManagerEvent → Prop
  | _, [] => True
  | progress, .prepared candidate :: rest => (progress.observe (.prepared candidate)).Orderly rest
  | progress, .failed slot :: rest => (progress.observe (.failed slot)).Orderly rest
  | progress, .activated index candidate :: rest =>
      progress.Permits index ∧ (progress.observe (.activated index candidate)).Orderly rest

end Progress

def ManagerEvent.activatesBefore (count : Nat) : ManagerEvent → Bool
  | .activated index _ => index < count
  | .prepared _ | .failed _ => false

def activations (count : Nat) (history : List ManagerEvent) : Nat := history.countP (·.activatesBefore count)

theorem activations_succ (count : Nat) (history : List ManagerEvent) :
    activations (count + 1) history = activations count history + history.countP (·.activates count) := by
  induction history with
  | nil => rfl
  | cons event rest ih =>
    simp only [activations, List.countP_cons] at ih ⊢
    rw [ih]
    cases event with
    | prepared | failed => simp [ManagerEvent.activatesBefore, ManagerEvent.activates]
    | activated index =>
      rcases Nat.lt_trichotomy index count with below | same | above
      · simp [ManagerEvent.activatesBefore, ManagerEvent.activates, below, Nat.lt_succ_of_lt below,
          Nat.ne_of_lt below]
        omega
      · simp [ManagerEvent.activatesBefore, ManagerEvent.activates, same]
        omega
      · simp [ManagerEvent.activatesBefore, ManagerEvent.activates, Nat.not_lt_of_gt above,
          Nat.ne_of_gt above, Nat.not_lt.mpr (Nat.succ_le_of_lt above)]

theorem activations_prepared (count : Nat) (candidate : PreparedCandidate) (rest : List ManagerEvent) :
    activations count (.prepared candidate :: rest) = activations count rest := by
  simp [activations, ManagerEvent.activatesBefore]

theorem activations_failed (count : Nat) (slot : ConfigSlotId) (rest : List ManagerEvent) :
    activations count (.failed slot :: rest) = activations count rest := by
  simp [activations, ManagerEvent.activatesBefore]

theorem activations_activated (count index : Nat) (candidate : PreparedCandidate) (rest : List ManagerEvent) :
    activations count (.activated index candidate :: rest) =
      activations count rest + if index < count then 1 else 0 := by
  simp [activations, ManagerEvent.activatesBefore, List.countP_cons]

theorem activations_pos {count : Nat} {history : List ManagerEvent} :
    0 < activations count history ↔ ∃ index < count, history.any (·.activates index) = true := by
  rw [activations, List.countP_pos_iff]
  constructor
  · rintro ⟨event, member, before⟩
    cases event with
    | prepared | failed => cases before
    | activated index =>
      exact ⟨index, of_decide_eq_true before, List.any_eq_true.mpr ⟨_, member, by simp [ManagerEvent.activates]⟩⟩
  · rintro ⟨index, below, later⟩
    obtain ⟨event, member, activates⟩ := List.any_eq_true.mp later
    refine ⟨event, member, ?_⟩
    cases event with
    | prepared | failed => cases activates
    | activated used =>
      obtain rfl : used = index := by simpa [ManagerEvent.activates] using activates
      exact decide_eq_true below

theorem accepts_activations {state : ActiveSlotState} {count : Nat} {rest : List ManagerEvent}
    (accepted : state.accepts (slotOperations count rest) = true) :
    activations count rest ≤ if state.candidate.isSome then 1 else 0 := by
  induction rest generalizing state count with
  | nil => simp [activations]
  | cons event rest ih =>
    cases event with
    | prepared candidate =>
      rw [activations_prepared]
      simp only [slotOperations] at accepted
      split at accepted
      · next used =>
        obtain ⟨_, free, _, accepted⟩ := ActiveSlotState.accepts_beginCandidate.mp accepted
        have later := ih accepted
        have own : 0 < rest.countP (·.activates count) := by simpa [List.countP_pos_iff] using used
        rw [activations_succ] at later
        simp [free] at later ⊢
        omega
      · have later := ih accepted
        rw [activations_succ] at later
        omega
    | failed slot =>
      rw [activations_failed]
      exact ih accepted
    | activated index candidate =>
      rw [activations_activated]
      obtain ⟨slot, configVersion, opened, accepted⟩ := ActiveSlotState.accepts_commitCandidate.mp accepted
      have later := ih accepted
      simp [opened] at later ⊢
      split <;> omega

theorem Progress.Orderly.permits {progress : Progress} {rest : List ManagerEvent} (orderly : progress.Orderly rest)
    {index : Nat} (returned : index < progress.returned.length) (later : rest.any (·.activates index) = true) :
    progress.Permits index := by
  induction rest generalizing progress with
  | nil => simp at later
  | cons event rest ih =>
    cases event with
    | prepared candidate =>
      have permitted := ih orderly (by simp [observe]; omega) (by simpa [ManagerEvent.activates] using later)
      simpa [Permits, observe, List.getElem?_append_left returned] using permitted
    | failed slot => exact ih orderly returned (by simpa [ManagerEvent.activates] using later)
    | activated used candidate =>
      by_cases same : used = index
      · exact same ▸ orderly.1
      · -- After this activation the candidate is stale.
        have permitted := ih orderly.2 returned (by simpa [ManagerEvent.activates, same] using later)
        exact absurd permitted.1 (Nat.not_le_of_gt returned)

theorem Progress.Orderly.activations_stale {progress : Progress} {rest : List ManagerEvent}
    (orderly : progress.Orderly rest) (none : progress.stale = progress.returned.length) :
    activations progress.returned.length rest = 0 := by
  by_contra some
  obtain ⟨index, below, later⟩ := activations_pos.mp (Nat.pos_of_ne_zero some)
  have fresh := (orderly.permits below later).1
  omega

theorem Progress.Orderly.activations_le_one {progress : Progress} {rest : List ManagerEvent}
    (orderly : progress.Orderly rest) : activations progress.returned.length rest ≤ 1 := by
  induction rest generalizing progress with
  | nil => simp [activations]
  | cons event rest ih =>
    cases event with
    | prepared candidate =>
      have later := ih orderly
      rw [observe, List.length_append, List.length_singleton, activations_succ] at later
      rw [activations_prepared]
      omega
    | failed slot =>
      rw [activations_failed]
      exact ih orderly
    | activated index candidate =>
      have none : activations progress.returned.length rest = 0 := orderly.2.activations_stale rfl
      rw [activations_activated, none]
      split <;> simp

structure Tracks (state : ActiveSlotState) (progress : Progress) (rest : List ManagerEvent) : Prop where
  bounded : progress.stale ≤ progress.returned.length
  version : state.activeConfigVersion = progress.running
  opened : ∀ slot configVersion, state.candidate = some (slot, configVersion) → ∃ index,
    progress.Permits index ∧ rest.any (·.activates index) = true ∧ ∃ candidate ∈ progress.returned[index]?,
      candidate.slot = slot ∧ candidate.configVersion = configVersion
  closed : state.candidate = none → activations progress.returned.length rest = 0

theorem Progress.Permits.lt {progress : Progress} {index : Nat} (permits : progress.Permits index) :
    index < progress.returned.length := by
  obtain ⟨_, candidate, found, _⟩ := permits
  exact (List.getElem?_eq_some_iff.mp found).1

theorem Progress.Permits.prepared {progress : Progress} {index : Nat} (permits : progress.Permits index)
    (candidate : PreparedCandidate) : (progress.observe (.prepared candidate)).Permits index := by
  simpa [Permits, observe, List.getElem?_append_left permits.lt] using permits

theorem same_of_activated {own index count : Nat} {candidate : PreparedCandidate} {rest : List ManagerEvent}
    (returned : own < count) (none : activations count rest = 0)
    (later : (ManagerEvent.activated index candidate :: rest).any (·.activates own) = true) : index = own := by
  by_contra other
  have again : 0 < activations count rest :=
    activations_pos.mpr ⟨own, returned, by simpa [ManagerEvent.activates, other] using later⟩
  omega

section

variable {state : ActiveSlotState} {progress : Progress} {rest : List ManagerEvent}

-- A preparation that is never activated is no step of the state machine.
theorem Tracks.unused {candidate : PreparedCandidate} (tracks : Tracks state progress (.prepared candidate :: rest))
    (unused : ¬rest.any (·.activates progress.returned.length) = true) :
    Tracks state (progress.observe (.prepared candidate)) rest := by
  refine ⟨?_, tracks.version, ?_, ?_⟩
  · have := tracks.bounded
    simp only [Progress.observe, List.length_append, List.length_singleton]
    omega
  · intro slot configVersion opened
    obtain ⟨index, permits, later, found, member, same⟩ := tracks.opened slot configVersion opened
    refine ⟨index, permits.prepared candidate, by simpa [ManagerEvent.activates] using later, found, ?_, same⟩
    simpa [Progress.observe, List.getElem?_append_left permits.lt] using member
  · intro free
    have none := tracks.closed free
    rw [activations_prepared] at none
    have own : rest.countP (·.activates progress.returned.length) = 0 := by
      simpa [List.countP_eq_zero] using unused
    simp only [Progress.observe, List.length_append, List.length_singleton]
    rw [activations_succ, none, own]

theorem Tracks.began {candidate : PreparedCandidate} (tracks : Tracks state progress (.prepared candidate :: rest))
    (used : rest.any (·.activates progress.returned.length) = true) (valid : candidate.slot.value ≠ 0)
    (newer : progress.running < candidate.configVersion) :
    Tracks { state with candidate := some (candidate.slot, candidate.configVersion) }
      (progress.observe (.prepared candidate)) rest := by
  have last : (progress.observe (.prepared candidate)).returned[progress.returned.length]? = some candidate := by
    simp [Progress.observe]
  refine ⟨?_, tracks.version, ?_, ?_⟩
  · have := tracks.bounded
    simp only [Progress.observe, List.length_append, List.length_singleton]
    omega
  · rintro _ _ ⟨⟩
    exact ⟨_, ⟨tracks.bounded, candidate, last, valid, newer⟩, used, candidate, last, rfl, rfl⟩
  · rintro ⟨⟩

theorem Tracks.committed {index : Nat} (candidate : PreparedCandidate) {found : PreparedCandidate}
    (returned : progress.returned[index]? = some found) (none : activations progress.returned.length rest = 0) :
    Tracks ⟨found.slot, found.configVersion, .none⟩ (progress.observe (.activated index candidate)) rest := by
  refine ⟨Nat.le_refl _, ?_, ?_, fun _ => none⟩
  · simp [Progress.observe, returned]
  · rintro _ _ ⟨⟩

-- Two candidates that are both activated later are not open at the same time in an orderly history.
theorem Tracks.free_of_orderly {candidate : PreparedCandidate}
    (tracks : Tracks state progress (.prepared candidate :: rest))
    (used : rest.any (·.activates progress.returned.length) = true)
    (orderly : (progress.observe (.prepared candidate)).Orderly rest) : state.candidate = none := by
  cases opened : state.candidate with
  | none => rfl
  | some pair =>
    obtain ⟨index, permits, later, _⟩ := tracks.opened pair.1 pair.2 opened
    have once := orderly.activations_le_one
    rw [Progress.observe, List.length_append, List.length_singleton, activations_succ] at once
    have own : 0 < rest.countP (·.activates progress.returned.length) := by
      simpa [List.countP_pos_iff] using used
    have other : 0 < activations progress.returned.length rest :=
      activations_pos.mpr ⟨index, permits.lt, by simpa [ManagerEvent.activates] using later⟩
    omega

theorem accepts_iff_orderly (tracks : Tracks state progress rest) :
    state.accepts (slotOperations progress.returned.length rest) = true ↔ progress.Orderly rest := by
  induction rest generalizing state progress with
  | nil => simp [slotOperations, ActiveSlotState.accepts, Progress.Orderly]
  | cons event rest ih =>
    cases event with
    | prepared candidate =>
      have length : (progress.observe (.prepared candidate)).returned.length = progress.returned.length + 1 := by
        simp [Progress.observe]
      by_cases used : rest.any (·.activates progress.returned.length) = true
      · simp only [slotOperations, used, if_true, Progress.Orderly, ← length]
        rw [ActiveSlotState.accepts_beginCandidate]
        constructor
        · rintro ⟨valid, _, newer, accepted⟩
          exact (ih (tracks.began used valid (tracks.version ▸ newer))).mp accepted
        · intro orderly
          obtain ⟨_, found, member, valid, newer⟩ := orderly.permits (by omega) used
          obtain rfl : candidate = found := by simpa [Progress.observe] using member
          exact ⟨valid, tracks.free_of_orderly used orderly, tracks.version ▸ newer,
            (ih (tracks.began used valid newer)).mpr orderly⟩
      · simp only [slotOperations, used, Progress.Orderly, ← length]
        exact ih (tracks.unused used)
    | failed slot => exact ih ⟨tracks.bounded, tracks.version, tracks.opened, tracks.closed⟩
    | activated index candidate =>
      simp only [slotOperations, Progress.Orderly]
      rw [ActiveSlotState.accepts_commitCandidate]
      constructor
      · rintro ⟨slot, configVersion, opened, accepted⟩
        obtain ⟨own, permits, later, found, member, rfl, rfl⟩ := tracks.opened slot configVersion opened
        have none : activations progress.returned.length rest = 0 := by simpa using accepts_activations accepted
        obtain rfl := same_of_activated permits.lt none later
        exact ⟨permits, (ih (Tracks.committed candidate member none)).mp accepted⟩
      · rintro ⟨permits, orderly⟩
        have none := orderly.activations_stale rfl
        cases opened : state.candidate with
        | none =>
          have unknown := tracks.closed opened
          rw [activations_activated, if_pos permits.lt] at unknown
          omega
        | some pair =>
          obtain ⟨own, allowed, later, found, member, slot, version⟩ := tracks.opened pair.1 pair.2 opened
          obtain rfl := same_of_activated allowed.lt none later
          refine ⟨pair.1, pair.2, rfl, ?_⟩
          rw [← slot, ← version]
          exact (ih (Tracks.committed candidate member none)).mpr orderly

end

section

variable {σ ε : Type} {maxBoards maxControllers maxDevices maxDependencies maxRules maxActions maxSteps : Nat}
  {manager : ConfigManager σ ε maxBoards maxControllers maxDevices maxDependencies maxRules maxActions maxSteps}

def ManagerState.progress (activeConfigVersion : UInt32) (state : ManagerState σ) : Progress :=
  state.history.foldl Progress.observe (.start activeConfigVersion)

-- A candidate that another slot is named for is refused by the manager, whatever it is.
def InOrder (activeConfigVersion : UInt32) (state : ManagerState σ) :
    ManagerCall maxBoards maxControllers maxDevices maxDependencies maxRules maxActions maxSteps → Prop
  | .prepare _ _ _ _ => True
  | .activate index requested => ∀ candidate, (returned state.history)[index]? = some candidate →
      candidate.slot = requested → (state.progress activeConfigVersion).Permits index

theorem Progress.orderly_append {progress : Progress} {earlier later : List ManagerEvent} :
    progress.Orderly (earlier ++ later) ↔
      progress.Orderly earlier ∧ (earlier.foldl Progress.observe progress).Orderly later := by
  induction earlier generalizing progress with
  | nil => simp [Orderly]
  | cons event rest ih => cases event <;> simp [Orderly, ih, and_assoc]

theorem managerStep_orderly {activeConfigVersion : UInt32} {state next : ManagerState σ}
    {call : ManagerCall maxBoards maxControllers maxDevices maxDependencies maxRules maxActions maxSteps}
    {new : List ManagerEvent} (allowed : InOrder activeConfigVersion state call)
    (taken : managerStep manager state call = some (next, new)) :
    next.history = state.history ++ new ∧ (state.progress activeConfigVersion).Orderly new := by
  have recorded : ∀ {after : σ} {shown : List ManagerEvent},
      state.record after shown = some (next, new) → (state.progress activeConfigVersion).Orderly shown →
      next.history = state.history ++ new ∧ (state.progress activeConfigVersion).Orderly new := by
    rintro after shown ⟨⟩ orderly
    exact ⟨rfl, orderly⟩
  cases call with
  | prepare config target slot scratch =>
    simp only [managerStep] at taken
    split at taken <;> exact recorded taken trivial
  | activate index requested =>
    simp only [managerStep] at taken
    split at taken
    · cases taken
    · next candidate found =>
      split at taken
      · next after activates =>
        have same := (activatePrepared_eq_ok.mp activates).1
        exact recorded taken ⟨allowed candidate found same, trivial⟩
      · exact recorded taken trivial

theorem orderly_run {activeConfigVersion : UInt32} {start : σ}
    {calls : List (ManagerCall maxBoards maxControllers maxDevices maxDependencies maxRules maxActions maxSteps)}
    {events : List ManagerEvent} {state : ManagerState σ}
    (run : Run (managerStep manager) (InOrder activeConfigVersion) ⟨start, []⟩ calls events state) :
    state.history = events ∧ (Progress.start activeConfigVersion).Orderly events := by
  refine run.invariant (P := fun events state => state.history = events ∧
    (Progress.start activeConfigVersion).Orderly events) ⟨rfl, trivial⟩ ?_
  rintro _ state call next new ⟨rfl, orderly⟩ allowed taken
  obtain ⟨recorded, later⟩ := managerStep_orderly allowed taken
  exact ⟨recorded, Progress.orderly_append.mpr ⟨orderly, later⟩⟩

theorem new_accepts_iff (activeSlot : ConfigSlotId) (activeConfigVersion : UInt32) (events : List ManagerEvent) :
    (ActiveSlotState.new activeSlot activeConfigVersion).accepts (slotOperations 0 events) = true ↔
      (Progress.start activeConfigVersion).Orderly events := by
  have none : activations 0 events = 0 := by
    by_contra some
    obtain ⟨_, below, _⟩ := activations_pos.mp (Nat.pos_of_ne_zero some)
    exact Nat.not_lt_zero _ below
  have tracks : Tracks (.new activeSlot activeConfigVersion) (.start activeConfigVersion) events := by
    refine ⟨Nat.le_refl 0, rfl, ?_, fun _ => none⟩
    rintro _ _ ⟨⟩
  exact accepts_iff_orderly tracks

-- Nothing weaker would do: one activation out of order is one too many.
theorem accepts_activation_iff {activeConfigVersion : UInt32} {start : σ}
    {calls : List (ManagerCall maxBoards maxControllers maxDevices maxDependencies maxRules maxActions maxSteps)}
    {events : List ManagerEvent} {state : ManagerState σ}
    (run : Run (managerStep manager) (InOrder activeConfigVersion) ⟨start, []⟩ calls events state)
    (activeSlot : ConfigSlotId) (index : Nat) (candidate : PreparedCandidate) :
    (ActiveSlotState.new activeSlot activeConfigVersion).accepts
        (slotOperations 0 (events ++ [.activated index candidate])) = true ↔
      (state.progress activeConfigVersion).Permits index := by
  obtain ⟨rfl, orderly⟩ := orderly_run run
  rw [new_accepts_iff, Progress.orderly_append]
  simp [orderly, Progress.Orderly, ManagerState.progress]

end

theorem manager_accepted
    {σ ε : Type} {maxBoards maxControllers maxDevices maxDependencies maxRules maxActions maxSteps : Nat}
    (manager : ConfigManager σ ε maxBoards maxControllers maxDevices maxDependencies maxRules maxActions maxSteps)
    (start : σ) (activeSlot : ConfigSlotId) (activeConfigVersion : UInt32)
    (calls : List (ManagerCall maxBoards maxControllers maxDevices maxDependencies maxRules maxActions maxSteps))
    (events : List ManagerEvent) (state : ManagerState σ)
    (run : Run (managerStep manager) (InOrder activeConfigVersion) ⟨start, []⟩ calls events state) :
    (ActiveSlotState.new activeSlot activeConfigVersion).accepts (slotOperations 0 events) = true :=
  (new_accepts_iff activeSlot activeConfigVersion events).mpr (orderly_run run).2

theorem manager_accepted_bare :
    (ActiveSlotState.new ⟨1⟩ 1).accepts
      (slotOperations 0 [.prepared ⟨⟨2⟩, 1, 7⟩, .activated 0 ⟨⟨2⟩, 1, 7⟩]) = true := by
  have prepared : Run (managerStep bareManager) (InOrder 1) ⟨emptyStore, []⟩
      [.prepare (bareConfig 7) ⟨1⟩ ⟨2⟩ 64] [.prepared ⟨⟨2⟩, 1, 7⟩] _ := .snoc .nil trivial rfl
  refine manager_accepted bareManager emptyStore ⟨1⟩ 1 [.prepare (bareConfig 7) ⟨1⟩ ⟨2⟩ 64, .activate 0 ⟨2⟩]
    _ _ (prepared.snoc ?_ rfl)
  intro candidate _ _
  exact ⟨Nat.le_refl 0, _, rfl, by decide, by decide⟩

-- The manager activates version 5 where version 9 was active, and it activates one candidate twice.
theorem manager_activates_older : ∃ (state : ManagerState MockStore) (events : List ManagerEvent),
    Run (managerStep bareManager) Anything ⟨emptyStore, []⟩
      [.prepare (bareConfig 5) ⟨1⟩ ⟨2⟩ 64, .activate 0 ⟨2⟩, .activate 0 ⟨2⟩] events state ∧
    decide (events = [.prepared ⟨⟨2⟩, 1, 5⟩, .activated 0 ⟨⟨2⟩, 1, 5⟩, .activated 0 ⟨⟨2⟩, 1, 5⟩] ∧
      (ActiveSlotState.new ⟨1⟩ 9).accepts (slotOperations 0 (events.take 2)) = false ∧
      (ActiveSlotState.new ⟨1⟩ 1).accepts (slotOperations 0 events) = false) = true :=
  Execution.exists_run (by decide +kernel)

end SmartboxConfig
