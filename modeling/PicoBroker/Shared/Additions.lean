import Mathlib.Data.List.Induction

set_option autoImplicit false

namespace Additions

variable {α : Type} [DecidableEq α] {capacity : Nat} {known offered : List α} {key : α}

def fresh (known offered : List α) : List α := (offered.filter fun key => key ∉ known).eraseDups

def additions (capacity : Nat) (known offered : List α) : List α :=
  (fresh known offered).take (capacity - known.length)

theorem mem_fresh : key ∈ fresh known offered ↔ key ∈ offered ∧ key ∉ known := by
  simp [fresh, List.mem_eraseDups]

theorem fresh_concat (known offered : List α) (key : α) :
    fresh known (offered ++ [key]) =
      if key ∈ known ∨ key ∈ offered then fresh known offered else fresh known offered ++ [key] := by
  unfold fresh
  rw [List.filter_append, List.eraseDups_append]
  by_cases old : key ∈ known
  · simp [old, List.removeAll]
  · by_cases again : key ∈ offered
    · simp [old, again, List.removeAll]
    · simp [old, again, List.removeAll, List.eraseDups_cons]

theorem mem_of_mem_additions (taken : key ∈ additions capacity known offered) : key ∈ offered ∧ key ∉ known :=
  mem_fresh.mp (List.mem_of_mem_take taken)

theorem fresh_nodup (known offered : List α) : (fresh known offered).Nodup := by
  induction offered using List.reverseRecOn with
  | nil => simp [fresh]
  | append_singleton offered key ih =>
    rw [fresh_concat]
    split
    · exact ih
    · next unseen =>
      have new : key ∉ fresh known offered := fun seen => unseen (.inr (mem_fresh.mp seen).1)
      refine List.nodup_append.mpr ⟨ih, by simp, ?_⟩
      rintro other seen last single rfl
      exact new (List.mem_singleton.mp single ▸ seen)

theorem nodup_append_additions (capacity : Nat) (distinct : known.Nodup) (offered : List α) :
    (known ++ additions capacity known offered).Nodup := by
  have once : (additions capacity known offered).Nodup := (fresh_nodup ..).sublist (List.take_sublist ..)
  refine List.nodup_append.mpr ⟨distinct, once, ?_⟩
  rintro key old other taken rfl
  exact (mem_of_mem_additions taken).2 old

theorem additions_length_le : (additions capacity known offered).length ≤ offered.length := by
  induction offered using List.reverseRecOn with
  | nil => simp [additions, fresh]
  | append_singleton offered key ih =>
    simp only [additions, fresh_concat, List.length_take, List.length_append] at ih ⊢
    split <;> simp <;> omega

theorem additions_concat_of_mem (old : key ∈ known ++ additions capacity known offered) :
    additions capacity known (offered ++ [key]) = additions capacity known offered := by
  have seen : key ∈ known ∨ key ∈ offered := by
    rcases List.mem_append.mp old with known | taken
    · exact .inl known
    · exact .inr (mem_of_mem_additions taken).1
  simp [additions, fresh_concat, seen]

theorem additions_concat_of_full (full : capacity ≤ (known ++ additions capacity known offered).length) :
    additions capacity known (offered ++ [key]) = additions capacity known offered := by
  simp only [additions, List.length_append, List.length_take] at full
  simp only [additions, fresh_concat]
  split
  · rfl
  · rw [List.take_append_of_le_length (by omega)]

theorem additions_concat_of_fresh (new : key ∉ known ++ additions capacity known offered)
    (room : (known ++ additions capacity known offered).length < capacity) :
    additions capacity known (offered ++ [key]) = additions capacity known offered ++ [key] := by
  have short : (fresh known offered).length < capacity - known.length := by
    simp only [additions, List.length_append, List.length_take] at room
    omega
  have whole : additions capacity known offered = fresh known offered := List.take_of_length_le (Nat.le_of_lt short)
  rw [whole, List.mem_append, mem_fresh] at new
  have unseen : ¬ (key ∈ known ∨ key ∈ offered) := by tauto
  rw [whole, additions, fresh_concat, if_neg unseen, List.take_of_length_le]
  simpa using Nat.succ_le_of_lt short

theorem mem_additions_concat (offeredBefore : key ∈ offered) (last : α) :
    key ∈ additions capacity known (offered ++ [last]) ↔ key ∈ additions capacity known offered := by
  unfold additions
  rw [fresh_concat]
  split
  · rfl
  · next unseen =>
    have different : key ≠ last := by
      rintro rfl
      exact unseen (.inr offeredBefore)
    rw [List.take_append, List.mem_append, or_iff_left]
    intro late
    exact different (List.mem_singleton.mp (List.mem_of_mem_take late))

end Additions
