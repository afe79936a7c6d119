import Mathlib.Data.List.Basic

set_option autoImplicit false

namespace Faults

variable {ε α β : Type}

-- Nothing where the computation panics.
abbrev Faulting (ε α : Type) := ExceptT ε Option α

def access (found : Option α) : Faulting ε α := ExceptT.mk (found.map .ok)

def attempt (result : Except ε α) : Faulting ε α := ExceptT.mk (some result)

def Returns (computation : Faulting ε α) (value : α) : Prop := computation.run = some (.ok value)

def Safe (computation : Faulting ε α) : Prop := computation.run ≠ none

theorem returns_attempt {result : Except ε α} {value : α} : Returns (attempt result) value ↔ result = .ok value := by
  simp [Returns, attempt]

theorem safe_attempt (result : Except ε α) : Safe (attempt result) := by
  simp [Safe, attempt]

theorem access_eq_attempt {found : Option α} {value : α} (present : found = some value) :
    (access found : Faulting ε α) = attempt (.ok value) := by
  rw [present]
  rfl

theorem access_bind {found : Option α} {value : α} (present : found = some value) (andThen : α → Faulting ε β) :
    (access found >>= andThen) = andThen value := by
  rw [present]
  rfl

theorem attempt_bind {result : Except ε α} {andThen : α → Faulting ε β} {continued : α → Except ε β}
    (attempts : ∀ value, result = .ok value → andThen value = attempt (continued value)) :
    (attempt result >>= andThen) = attempt (result >>= continued) := by
  cases result with
  | error error => rfl
  | ok value => exact attempts value rfl

end Faults
