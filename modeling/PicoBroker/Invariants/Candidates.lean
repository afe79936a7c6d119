import PicoBroker.Config.ActiveSlot
import PicoBroker.Shared.Mealy

set_option autoImplicit false

namespace SmartboxConfig

open Mealy (final)

def ActiveSlotState.Sound (state : ActiveSlotState) : Prop :=
  ∀ slot configVersion, state.candidate = some (slot, configVersion) →
    slot.value ≠ 0 ∧ slot ≠ state.activeSlot ∧ state.activeConfigVersion < configVersion

def ActiveSlotState.after (start : ActiveSlotState) (operations : List SlotOperation) : ActiveSlotState :=
  final ActiveSlotState.perform start operations

structure SoundRun (start : ActiveSlotState) (operations : List SlotOperation) : Prop where
  candidates : ∀ earlier later, operations = earlier ++ later → (start.after earlier).Sound
  commits : ∀ earlier later slot, operations = earlier ++ .commitCandidate :: later →
    (start.after earlier).commitCandidate.1 = .ok slot →
      (start.after earlier).activeConfigVersion < (start.after earlier).commitCandidate.2.activeConfigVersion
  errors : ∀ earlier operation later error, operations = earlier ++ operation :: later →
    ((start.after earlier).perform operation).1 = .error error →
      ((start.after earlier).perform operation).2 = start.after earlier

-- Nothing in `begin_candidate` compares the slot with the active one, so this is up to its callers.
def OpensElsewhere (start : ActiveSlotState) (operations : List SlotOperation) : Prop :=
  ∀ earlier slot configVersion later, operations = earlier ++ .beginCandidate slot configVersion :: later →
    slot.value ≠ 0 → (start.after earlier).candidate = none →
      (start.after earlier).activeConfigVersion < configVersion → slot ≠ (start.after earlier).activeSlot

def ActiveSlotState.Newer (state : ActiveSlotState) : Prop :=
  ∀ slot configVersion, state.candidate = some (slot, configVersion) →
    slot.value ≠ 0 ∧ state.activeConfigVersion < configVersion

def ActiveSlotState.Elsewhere (state : ActiveSlotState) : Prop :=
  ∀ slot configVersion, state.candidate = some (slot, configVersion) → slot ≠ state.activeSlot

namespace SlotMove

variable {state : ActiveSlotState} {operation : SlotOperation}
  {reply : Except ActiveSlotError (Option ConfigSlotId) × ActiveSlotState}

theorem newer (move : SlotMove state operation reply) (newer : state.Newer) : reply.2.Newer := by
  cases move with
  | unopened | uncommitted | undiscarded => exact newer
  | opened valid _ newer =>
    rintro _ _ ⟨⟩
    exact ⟨valid, newer⟩
  | committed | discarded => rintro _ _ ⟨⟩

theorem elsewhere (move : SlotMove state operation reply) (elsewhere : state.Elsewhere)
    (opens : ∀ slot configVersion, operation = .beginCandidate slot configVersion → slot.value ≠ 0 →
      state.candidate = none → state.activeConfigVersion < configVersion → slot ≠ state.activeSlot) :
    reply.2.Elsewhere := by
  cases move with
  | unopened | uncommitted | undiscarded => exact elsewhere
  | opened valid free newer =>
    rintro _ _ ⟨⟩
    exact opens _ _ rfl valid free newer
  | committed | discarded => rintro _ _ ⟨⟩

theorem fails (move : SlotMove state operation reply) {error : ActiveSlotError} (failed : reply.1 = .error error) :
    reply.2 = state := by
  cases move with
  | unopened | uncommitted | undiscarded => rfl
  | opened | committed | discarded => cases failed

end SlotMove

theorem ActiveSlotState.Newer.commits {state : ActiveSlotState} (newer : state.Newer) {slot : ConfigSlotId}
    (committed : state.commitCandidate.1 = .ok slot) :
    state.activeConfigVersion < state.commitCandidate.2.activeConfigVersion := by
  cases candidate : state.candidate with
  | none =>
    rw [commitCandidate, takeCandidate_none candidate] at committed
    cases committed
  | some opened =>
    rw [commitCandidate, takeCandidate, candidate]
    exact (newer _ _ candidate).2

theorem ActiveSlotState.newer_after (slot : ConfigSlotId) (configVersion : UInt32) (operations : List SlotOperation) :
    ((new slot configVersion).after operations).Newer := by
  refine Mealy.invariant (P := Newer) ?_ ?_ (List.append_nil operations).symm
  · rintro _ _ ⟨⟩
  · intro earlier operation later _ newer
    exact (perform_move _ operation).newer newer

theorem OpensElsewhere.after {slot : ConfigSlotId} {configVersion : UInt32} {operations : List SlotOperation}
    (opens : OpensElsewhere (.new slot configVersion) operations) {earlier later : List SlotOperation}
    (split : operations = earlier ++ later) : ((ActiveSlotState.new slot configVersion).after earlier).Elsewhere := by
  refine Mealy.invariant (P := ActiveSlotState.Elsewhere) ?_ ?_ split
  · rintro _ _ ⟨⟩
  · rintro before operation rest here elsewhere
    refine (ActiveSlotState.perform_move _ operation).elsewhere elsewhere ?_
    rintro named newer rfl
    exact opens before named newer rest here

theorem soundRun_iff (slot : ConfigSlotId) (configVersion : UInt32) (operations : List SlotOperation) :
    SoundRun (.new slot configVersion) operations ↔ OpensElsewhere (.new slot configVersion) operations := by
  constructor
  · intro run earlier named candidateVersion later split valid free newer
    -- The candidate is open in the state after this operation.
    have opened := run.candidates (earlier ++ [.beginCandidate named candidateVersion]) later (by simp [split])
    have reached := ActiveSlotState.beginCandidate_opened valid free newer
    simp only [ActiveSlotState.after, Mealy.final_append] at reached opened ⊢
    simp only [final, ActiveSlotState.perform, reached] at opened
    exact (opened named candidateVersion rfl).2.1
  · intro opens
    refine ⟨?_, ?_, ?_⟩
    · intro earlier later split named newer candidate
      obtain ⟨valid, later⟩ := ActiveSlotState.newer_after slot configVersion earlier named newer candidate
      exact ⟨valid, opens.after split named newer candidate, later⟩
    · intro earlier later committed _
      exact (ActiveSlotState.newer_after slot configVersion earlier).commits
    · intro earlier operation later error _
      exact (ActiveSlotState.perform_move _ operation).fails

theorem candidate_in_active_slot :
    (ActiveSlotState.new ⟨1⟩ 7).beginCandidate ⟨1⟩ 8 = (.ok (), ⟨⟨1⟩, 7, some (⟨1⟩, 8)⟩) ∧
      ¬SoundRun (.new ⟨1⟩ 7) [.beginCandidate ⟨1⟩ 8] := by
  refine ⟨rfl, fun run => ?_⟩
  have opened := run.candidates [.beginCandidate ⟨1⟩ 8] [] rfl
  exact (opened ⟨1⟩ 8 rfl).2.1 rfl

end SmartboxConfig
