set_option autoImplicit false

namespace SmartboxConfig

structure ConfigSlotId where
  value : UInt32
deriving DecidableEq

inductive ActiveSlotError where
  | invalidSlot
  | candidateAlreadyOpen
  | noCandidateOpen
  | candidateVersionNotNewer
deriving DecidableEq

structure ActiveSlotState where
  activeSlot : ConfigSlotId
  activeConfigVersion : UInt32
  candidate : Option (ConfigSlotId × UInt32)
deriving DecidableEq

inductive SlotOperation where
  | beginCandidate (slot : ConfigSlotId) (configVersion : UInt32)
  | commitCandidate
  | discardCandidate
deriving DecidableEq

namespace ActiveSlotState

def new (activeSlot : ConfigSlotId) (activeConfigVersion : UInt32) : ActiveSlotState :=
  ⟨activeSlot, activeConfigVersion, none⟩

def beginCandidate (state : ActiveSlotState) (slot : ConfigSlotId) (configVersion : UInt32) :
    Except ActiveSlotError Unit × ActiveSlotState :=
  if slot.value = 0 then (.error .invalidSlot, state)
  else if state.candidate.isSome then (.error .candidateAlreadyOpen, state)
  else if configVersion ≤ state.activeConfigVersion then (.error .candidateVersionNotNewer, state)
  else (.ok (), { state with candidate := some (slot, configVersion) })

-- `candidate.take()`
def takeCandidate (state : ActiveSlotState) : Option (ConfigSlotId × UInt32) × ActiveSlotState :=
  (state.candidate, { state with candidate := none })

def commitCandidate (state : ActiveSlotState) : Except ActiveSlotError ConfigSlotId × ActiveSlotState :=
  match state.takeCandidate with
  | (none, taken) => (.error .noCandidateOpen, taken)
  | (some (slot, version), taken) => (.ok slot, { taken with activeSlot := slot, activeConfigVersion := version })

def discardCandidate (state : ActiveSlotState) : Except ActiveSlotError Unit × ActiveSlotState :=
  match state.takeCandidate with
  | (none, taken) => (.error .noCandidateOpen, taken)
  | (some _, taken) => (.ok (), taken)

def perform (state : ActiveSlotState) :
    SlotOperation → Except ActiveSlotError (Option ConfigSlotId) × ActiveSlotState
  | .beginCandidate slot configVersion =>
      (state.beginCandidate slot configVersion).map (Except.map fun _ => none) id
  | .commitCandidate => state.commitCandidate.map (Except.map some) id
  | .discardCandidate => state.discardCandidate.map (Except.map fun _ => none) id

def accepts : ActiveSlotState → List SlotOperation → Bool
  | _, [] => true
  | state, operation :: rest =>
      match state.perform operation with
      | (.ok _, next) => next.accepts rest
      | (.error _, _) => false

theorem beginCandidate_opened {state : ActiveSlotState} {slot : ConfigSlotId} {configVersion : UInt32}
    (valid : slot.value ≠ 0) (free : state.candidate = none) (newer : state.activeConfigVersion < configVersion) :
    state.beginCandidate slot configVersion = (.ok (), { state with candidate := some (slot, configVersion) }) := by
  simp [beginCandidate, valid, free, newer]

theorem beginCandidate_refused {state : ActiveSlotState} {slot : ConfigSlotId} {configVersion : UInt32}
    (closed : ¬(slot.value ≠ 0 ∧ state.candidate = none ∧ state.activeConfigVersion < configVersion)) :
    ∃ error, state.beginCandidate slot configVersion = (.error error, state) := by
  unfold beginCandidate
  split
  · exact ⟨_, rfl⟩
  · next valid =>
    split
    · exact ⟨_, rfl⟩
    · next free =>
      split
      · exact ⟨_, rfl⟩
      · next newer =>
        have empty : state.candidate = none := by simpa using free
        exact absurd ⟨valid, empty, UInt32.not_le.mp newer⟩ closed

theorem takeCandidate_none {state : ActiveSlotState} (closed : state.candidate = none) :
    state.takeCandidate = (none, state) := by
  obtain ⟨activeSlot, activeConfigVersion, candidate⟩ := state
  obtain rfl : candidate = none := closed
  rfl

end ActiveSlotState

inductive SlotMove (state : ActiveSlotState) :
    SlotOperation → Except ActiveSlotError (Option ConfigSlotId) × ActiveSlotState → Prop
  | unopened {slot : ConfigSlotId} {configVersion : UInt32} {error : ActiveSlotError}
      (closed : ¬(slot.value ≠ 0 ∧ state.candidate = none ∧ state.activeConfigVersion < configVersion)) :
      SlotMove state (.beginCandidate slot configVersion) (.error error, state)
  | opened {slot : ConfigSlotId} {configVersion : UInt32} (valid : slot.value ≠ 0) (free : state.candidate = none)
      (newer : state.activeConfigVersion < configVersion) :
      SlotMove state (.beginCandidate slot configVersion)
        (.ok none, { state with candidate := some (slot, configVersion) })
  | uncommitted (free : state.candidate = none) :
      SlotMove state .commitCandidate (.error .noCandidateOpen, state)
  | committed {slot : ConfigSlotId} {configVersion : UInt32}
      (candidate : state.candidate = some (slot, configVersion)) :
      SlotMove state .commitCandidate (.ok (some slot), ⟨slot, configVersion, none⟩)
  | undiscarded (free : state.candidate = none) :
      SlotMove state .discardCandidate (.error .noCandidateOpen, state)
  | discarded (candidate : state.candidate ≠ none) :
      SlotMove state .discardCandidate (.ok none, { state with candidate := none })

namespace ActiveSlotState

theorem perform_move (state : ActiveSlotState) (operation : SlotOperation) :
    SlotMove state operation (state.perform operation) := by
  cases operation with
  | beginCandidate slot configVersion =>
    by_cases opens : slot.value ≠ 0 ∧ state.candidate = none ∧ state.activeConfigVersion < configVersion
    · obtain ⟨valid, free, newer⟩ := opens
      rw [perform, beginCandidate_opened valid free newer]
      exact .opened valid free newer
    · obtain ⟨error, refused⟩ := beginCandidate_refused opens
      rw [perform, refused]
      exact .unopened opens
  | commitCandidate =>
    cases candidate : state.candidate with
    | none =>
      rw [perform, commitCandidate, takeCandidate_none candidate]
      exact .uncommitted candidate
    | some opened =>
      rw [perform, commitCandidate, takeCandidate, candidate]
      exact .committed candidate
  | discardCandidate =>
    cases candidate : state.candidate with
    | none =>
      rw [perform, discardCandidate, takeCandidate_none candidate]
      exact .undiscarded candidate
    | some opened =>
      rw [perform, discardCandidate, takeCandidate, candidate]
      exact .discarded (by simp [candidate])

theorem accepts_beginCandidate {state : ActiveSlotState} {slot : ConfigSlotId} {configVersion : UInt32}
    {rest : List SlotOperation} :
    state.accepts (.beginCandidate slot configVersion :: rest) = true ↔
      slot.value ≠ 0 ∧ state.candidate = none ∧ state.activeConfigVersion < configVersion ∧
        ({ state with candidate := some (slot, configVersion) } : ActiveSlotState).accepts rest = true := by
  have move := state.perform_move (.beginCandidate slot configVersion)
  rw [accepts]
  generalize state.perform (.beginCandidate slot configVersion) = reply at move
  cases move with
  | unopened closed =>
    refine iff_of_false Bool.false_ne_true ?_
    rintro ⟨valid, free, newer, _⟩
    exact closed ⟨valid, free, newer⟩
  | opened valid free newer => simp [valid, free, newer]

theorem accepts_commitCandidate {state : ActiveSlotState} {rest : List SlotOperation} :
    state.accepts (.commitCandidate :: rest) = true ↔
      ∃ slot configVersion, state.candidate = some (slot, configVersion) ∧
        (⟨slot, configVersion, none⟩ : ActiveSlotState).accepts rest = true := by
  have move := state.perform_move .commitCandidate
  rw [accepts]
  generalize state.perform .commitCandidate = reply at move
  cases move with
  | uncommitted free => simp [free]
  | @committed slot configVersion candidate =>
    constructor
    · intro accepted
      exact ⟨slot, configVersion, candidate, accepted⟩
    · rintro ⟨_, _, opened, accepted⟩
      rw [candidate] at opened
      cases opened
      exact accepted

end ActiveSlotState

end SmartboxConfig
