import Mathlib.Data.List.Nodup

set_option autoImplicit false

namespace Checks

variable {ε α β κ : Type}

def require (condition : Prop) [Decidable condition] (error : ε) : Except ε Unit :=
  if condition then .ok () else .error error

@[simp] theorem require_eq_ok {condition : Prop} [Decidable condition] {error : ε} :
    require condition error = .ok () ↔ condition := by
  unfold require
  split <;> simp [*]

def required (found : Option α) (error : ε) : Except ε α := found.elim (.error error) .ok

@[simp] theorem required_eq_ok {found : Option α} {error : ε} {value : α} :
    required found error = .ok value ↔ found = some value := by
  cases found <;> simp [required]

theorem bind_eq_ok {first : Except ε α} {andThen : α → Except ε β} {value : β} :
    (first >>= andThen) = .ok value ↔ ∃ read, first = .ok read ∧ andThen read = .ok value := by
  cases first with
  | error => simp [bind, Except.bind]
  | ok read => simp [bind, Except.bind]

@[simp] theorem mapError_eq_ok {δ : Type} {f : ε → δ} {result : Except ε α} {value : α} :
    result.mapError f = .ok value ↔ result = .ok value := by
  cases result <;> simp [Except.mapError]

@[simp] theorem seq_eq_ok {first : Except ε Unit} {andThen : Unit → Except ε β} {value : β} :
    (first >>= andThen) = .ok value ↔ first = .ok () ∧ andThen () = .ok value := by
  rw [bind_eq_ok]
  exact ⟨fun ⟨_, passed, rest⟩ => ⟨passed, rest⟩, fun passed => ⟨(), passed⟩⟩

@[simp] theorem forM_eq_ok {check : α → Except ε Unit} {list : List α} :
    forM list check = .ok () ↔ ∀ item ∈ list, check item = .ok () := by
  induction list with
  | nil => simp [pure, Except.pure]
  | cons head rest ih =>
    rw [List.forM_cons, seq_eq_ok, ih, List.forall_mem_cons]

def forTails (body : α → List α → Except ε Unit) : List α → Except ε Unit
  | [] => .ok ()
  | item :: later => do
      body item later
      forTails body later

-- The body asks that no later element has the key of its own, among other things about the element.
theorem forTails_nodup {body : α → List α → Except ε Unit} {key : α → κ} {Passes : α → Prop}
    (spec : ∀ item later, body item later = .ok () ↔
      (∀ other ∈ later, key other ≠ key item) ∧ Passes item) {list : List α} :
    forTails body list = .ok () ↔ (list.map key).Nodup ∧ ∀ item ∈ list, Passes item := by
  induction list with
  | nil => simp [forTails]
  | cons item later ih =>
    simp only [forTails, seq_eq_ok, spec, ih, List.map_cons, List.nodup_cons, List.mem_map, not_exists,
      not_and, List.forall_mem_cons]
    constructor
    · rintro ⟨⟨distinct, passes⟩, nodup, rest⟩
      exact ⟨⟨distinct, nodup⟩, passes, rest⟩
    · rintro ⟨⟨distinct, nodup⟩, passes, rest⟩
      exact ⟨⟨distinct, passes⟩, nodup, rest⟩

end Checks
