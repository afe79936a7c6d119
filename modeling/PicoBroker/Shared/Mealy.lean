import Mathlib.Data.List.Induction

set_option autoImplicit false

namespace Mealy

variable {S T I O : Type}

def replies (step : S → I → O × S) : S → List I → List O
  | _, [] => []
  | state, input :: rest => (step state input).1 :: replies step (step state input).2 rest

def final (step : S → I → O × S) : S → List I → S
  | state, [] => state
  | state, input :: rest => final step (step state input).2 rest

variable {step : S → I → O × S}

theorem final_eq_foldl (state : S) (inputs : List I) :
    final step state inputs = inputs.foldl (fun state input => (step state input).2) state := by
  induction inputs generalizing state with
  | nil => rfl
  | cons input rest ih => simp [final, ih]

theorem length_replies (state : S) (inputs : List I) : (replies step state inputs).length = inputs.length := by
  induction inputs generalizing state with
  | nil => rfl
  | cons input rest ih => simp [replies, ih]

theorem replies_append (state : S) (earlier later : List I) :
    replies step state (earlier ++ later) =
      replies step state earlier ++ replies step (final step state earlier) later := by
  induction earlier generalizing state with
  | nil => rfl
  | cons input rest ih => simp [replies, final, ih]

theorem replies_take (state : S) (inputs : List I) (count : Nat) :
    (replies step state inputs).take count = replies step state (inputs.take count) := by
  induction inputs generalizing state count with
  | nil => simp [replies]
  | cons input rest ih => cases count <;> simp [replies, ih]

theorem replies_drop (state : S) (inputs : List I) (count : Nat) :
    (replies step state inputs).drop count =
      replies step (final step state (inputs.take count)) (inputs.drop count) := by
  induction inputs generalizing state count with
  | nil => simp [replies]
  | cons input rest ih => cases count <;> simp [replies, final, ih]

theorem replies_map {J : Type} (convert : J → I) (state : S) (inputs : List J) :
    replies (fun state input => step state (convert input)) state inputs =
      replies step state (inputs.map convert) := by
  induction inputs generalizing state with
  | nil => rfl
  | cons input rest ih => simp [replies, ih]

theorem final_map {J : Type} (convert : J → I) (state : S) (inputs : List J) :
    final (fun state input => step state (convert input)) state inputs = final step state (inputs.map convert) := by
  induction inputs generalizing state with
  | nil => rfl
  | cons input rest ih => simp [final, ih]

theorem final_append (state : S) (earlier later : List I) :
    final step state (earlier ++ later) = final step (final step state earlier) later := by
  induction earlier generalizing state with
  | nil => rfl
  | cons input rest ih => simp [final, ih]

theorem invariant {P : S → Prop} {state : S} {inputs : List I} (initial : P state)
    (preserved : ∀ earlier input later, inputs = earlier ++ input :: later →
      P (final step state earlier) → P (step (final step state earlier) input).2)
    {earlier later : List I} (split : inputs = earlier ++ later) : P (final step state earlier) := by
  induction earlier using List.reverseRecOn generalizing later with
  | nil => exact initial
  | append_singleton before input ih =>
    rw [List.append_assoc, List.singleton_append] at split
    rw [final_append]
    exact preserved before input later split (ih split)

theorem simulates {other : T → I → O × T} (related : S → T → Prop)
    (matched : ∀ state image input, related state image →
      (step state input).1 = (other image input).1 ∧ related (step state input).2 (other image input).2)
    {state : S} {image : T} (start : related state image) (inputs : List I) :
    replies step state inputs = replies other image inputs ∧
      related (final step state inputs) (final other image inputs) := by
  induction inputs generalizing state image with
  | nil => exact ⟨rfl, start⟩
  | cons input rest ih =>
    have taken := matched state image input start
    have later := ih taken.2
    simp [replies, final, taken.1, later]

end Mealy
