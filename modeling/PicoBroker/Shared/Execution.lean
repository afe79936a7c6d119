import Mathlib.Data.List.Basic

set_option autoImplicit false

namespace Execution

variable {S L E : Type}

abbrev Step (S L E : Type) := S → L → Option (S × List E)

inductive Run (step : Step S L E) (allowed : S → L → Prop) (start : S) : List L → List E → S → Prop
  | nil : Run step allowed start [] [] start
  | snoc {labels : List L} {events new : List E} {state next : S} {label : L}
      (before : Run step allowed start labels events state) (permitted : allowed state label)
      (taken : step state label = some (next, new)) :
      Run step allowed start (labels ++ [label]) (events ++ new) next

def Anything (_ : S) (_ : L) : Prop := True

instance (state : S) (label : L) : Decidable (Anything state label) := .isTrue trivial

variable {step : Step S L E} {allowed : S → L → Prop} {start : S}

theorem Run.mono {weaker : S → L → Prop} (weaken : ∀ state label, allowed state label → weaker state label)
    {labels : List L} {events : List E} {state : S} (run : Run step allowed start labels events state) :
    Run step weaker start labels events state := by
  induction run with
  | nil => exact .nil
  | snoc _ permitted taken ih => exact .snoc ih (weaken _ _ permitted) taken

theorem Run.invariant {P : List E → S → Prop} (initial : P [] start)
    (preserved : ∀ events state label next new, P events state → allowed state label →
      step state label = some (next, new) → P (events ++ new) next)
    {labels : List L} {events : List E} {state : S} (run : Run step allowed start labels events state) :
    P events state := by
  induction run with
  | nil => exact initial
  | snoc _ permitted taken ih => exact preserved _ _ _ _ _ ih permitted taken

-- A rank that no step raises bounds the steps that lower it.
theorem Run.ranked {P : S → Prop} (rank : S → Nat) (counts : L → Bool) (initial : P start)
    (lowered : ∀ state label next new, P state → allowed state label → step state label = some (next, new) →
      P next ∧ (if counts label then 1 else 0) + rank next ≤ rank state)
    {labels : List L} {events : List E} {state : S} (run : Run step allowed start labels events state) :
    P state ∧ labels.countP counts + rank state ≤ rank start := by
  induction run with
  | nil => exact ⟨initial, by simp⟩
  | @snoc labels _ _ _ _ label _ permitted taken ih =>
    obtain ⟨kept, lower⟩ := lowered _ _ _ _ ih.1 permitted taken
    refine ⟨kept, ?_⟩
    have before := ih.2
    rw [List.countP_append, List.countP_singleton]
    omega

-- What every event of a run satisfies, relative to the events before it.
theorem Run.each {P : List E → S → Prop} {Q : List E → E → Prop} (initial : P [] start)
    (preserved : ∀ events state label next new, P events state → allowed state label →
      step state label = some (next, new) → P (events ++ new) next)
    (shown : ∀ events state label next new, P events state → allowed state label →
      step state label = some (next, new) → ∀ event ∈ new, Q events event)
    (mono : ∀ before more event, Q before event → Q (before ++ more) event)
    {labels : List L} {events : List E} {state : S} (run : Run step allowed start labels events state)
    {earlier later : List E} {event : E} (split : events = earlier ++ event :: later) : Q earlier event := by
  induction run generalizing later with
  | nil => simp at split
  | @snoc _ events new state next label before permitted taken ih =>
    have holds := before.invariant initial preserved
    rcases List.append_eq_append_iff.mp split with ⟨rest, rfl, inNew⟩ | ⟨rest, inEvents, continued⟩
    · exact mono _ _ _ (shown _ _ _ _ _ holds permitted taken event (by simp [inNew]))
    · cases rest with
      | nil =>
        obtain rfl : events = earlier := by simpa using inEvents
        obtain rfl : event :: later = new := continued
        exact shown _ _ _ _ _ holds permitted taken event List.mem_cons_self
      | cons head middle =>
        obtain ⟨rfl, rfl⟩ := List.cons.inj continued
        exact ih inEvents

-- Every step is a step of another system under `view`, or leaves it where it is. `shown` picks the
-- events of that system.
theorem Run.simulates {T M F : Type} {abstract : Step T M F} (view : S → T) (shown : E → Option F)
    (matched : ∀ state label next new, step state label = some (next, new) →
      (view next = view state ∧ new.filterMap shown = []) ∨
        ∃ label, abstract (view state) label = some (view next, new.filterMap shown))
    {labels : List L} {events : List E} {state : S} (run : Run step allowed start labels events state) :
    ∃ labels, Run abstract Anything (view start) labels (events.filterMap shown) (view state) := by
  induction run with
  | nil => exact ⟨[], .nil⟩
  | snoc _ _ taken ih =>
    obtain ⟨labels, before⟩ := ih
    rw [List.filterMap_append]
    rcases matched _ _ _ _ taken with ⟨same, silent⟩ | ⟨label, step⟩
    · rw [same, silent, List.append_nil]
      exact ⟨labels, before⟩
    · exact ⟨labels ++ [label], .snoc before trivial step⟩

-- No step reads the record.
def watch {H : Type} (step : Step S L E) (note : H → S → L → List E → H) : Step (S × H) L E :=
  fun state label => (step state.1 label).map fun taken =>
    ((taken.1, note state.2 state.1 label taken.2), taken.2)

theorem watch_eq_some {H : Type} {note : H → S → L → List E → H} {state next : S × H} {label : L}
    {new : List E} : watch step note state label = some (next, new) ↔
      step state.1 label = some (next.1, new) ∧ next.2 = note state.2 state.1 label new := by
  simp only [watch, Option.map_eq_some_iff, Prod.mk.injEq, Prod.exists]
  constructor
  · rintro ⟨after, shown, taken, rfl, rfl⟩
    exact ⟨taken, rfl⟩
  · rintro ⟨taken, noted⟩
    exact ⟨next.1, new, taken, Prod.ext rfl noted.symm, rfl⟩

theorem Run.watched {H : Type} (note : H → S → L → List E → H) (record : H) {labels : List L}
    {events : List E} {state : S} (run : Run step allowed start labels events state) :
    ∃ final, Run (watch step note) (fun state => allowed state.1) (start, record) labels events
      (state, final) := by
  induction run with
  | nil => exact ⟨record, .nil⟩
  | snoc _ permitted taken ih =>
    obtain ⟨final, before⟩ := ih
    exact ⟨_, .snoc before permitted (watch_eq_some.mpr ⟨taken, rfl⟩)⟩

def exec (step : Step S L E) (allowed : S → L → Prop) [∀ state label, Decidable (allowed state label)] :
    S → List L → Option (S × List E)
  | state, [] => some (state, [])
  | state, label :: rest =>
      if allowed state label then
        match step state label with
        | none => none
        | some (next, events) => (exec step allowed next rest).map fun final => (final.1, events ++ final.2)
      else none

theorem exec_cons [∀ state label, Decidable (allowed state label)] {label : L} {later : List L} {new more : List E}
    {state next final : S} (permitted : allowed state label) (taken : step state label = some (next, new))
    (executed : exec step allowed next later = some (final, more)) :
    exec step allowed state (label :: later) = some (final, new ++ more) := by
  simp [exec, permitted, taken, executed]

theorem Run.append_exec [∀ state label, Decidable (allowed state label)] {labels later : List L}
    {events new : List E} {state final : S} (run : Run step allowed start labels events state)
    (executed : exec step allowed state later = some (final, new)) :
    Run step allowed start (labels ++ later) (events ++ new) final := by
  induction later generalizing labels events state new with
  | nil =>
    obtain ⟨rfl, rfl⟩ : state = final ∧ [] = new := by simpa [exec] using executed
    simpa using run
  | cons label rest ih =>
    simp only [exec] at executed
    split at executed
    · next permitted =>
      split at executed
      · cases executed
      · next next shown taken =>
        obtain ⟨⟨reached, more⟩, continued, same⟩ := Option.map_eq_some_iff.mp executed
        obtain ⟨rfl, rfl⟩ := Prod.mk.inj same
        simpa using ih (.snoc run permitted taken) continued
    · cases executed

theorem run_of_exec [∀ state label, Decidable (allowed state label)] {labels : List L}
    {events : List E} {final : S} (executed : exec step allowed start labels = some (final, events)) :
    Run step allowed start labels events final := by
  have started : Run step allowed start [] [] start := .nil
  simpa using started.append_exec executed

-- A concrete run, together with what a test says about its end.
theorem exists_run [∀ state label, Decidable (allowed state label)] {labels : List L}
    {test : S → List E → Bool}
    (passed : (exec step allowed start labels).any (fun final => test final.1 final.2) = true) :
    ∃ final events, Run step allowed start labels events final ∧ test final events = true := by
  cases executed : exec step allowed start labels with
  | none => simp [executed] at passed
  | some final =>
    obtain ⟨state, events⟩ := final
    exact ⟨state, events, run_of_exec executed, by simpa [executed] using passed⟩

end Execution
