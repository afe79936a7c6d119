import Mathlib.Data.Int.ModEq
import Mathlib.Data.List.Nodup

set_option autoImplicit false

namespace Rotation

variable {period counter age : Nat}

def next (period counter : Nat) : Nat := counter % period + 1

def issued (period counter age : Nat) : Nat := ((counter - 1 - age : Int) % period).toNat + 1

theorem issued_next (period counter age : Nat) :
    issued period (next period counter) (age + 1) = issued period counter age := by
  have reduced : ((counter % period : Nat) : Int) ≡ counter [ZMOD period] := by
    simpa using Int.mod_modEq counter period
  have shifted : ((next period counter : Nat) - 1 - (age + 1 : Nat) : Int) ≡ counter - 1 - age [ZMOD period] :=
    calc ((next period counter : Nat) - 1 - (age + 1 : Nat) : Int)
        = (counter % period : Nat) - 1 - age := by simp only [next]; omega
      _ ≡ counter - 1 - age [ZMOD period] := (reduced.sub_right 1).sub_right age
  unfold issued
  rw [Int.ModEq] at shifted
  rw [shifted]

theorem issued_zero (positive : 0 < counter) (bounded : counter ≤ period) : issued period counter 0 = counter := by
  have reduced : (counter - 1 - (0 : Nat) : Int) % period = counter - 1 := by
    rw [Int.emod_eq_of_lt] <;> omega
  rw [issued, reduced]
  omega

theorem next_le (positive : 0 < period) (counter : Nat) : next period counter ≤ period :=
  Nat.mod_lt counter positive

theorem issued_injective {other : Nat} (young : age < period) (otherYoung : other < period)
    (same : issued period counter age = issued period counter other) : age = other := by
  have nonzero : (period : Int) ≠ 0 := by omega
  have left := Int.emod_nonneg (counter - 1 - age) nonzero
  have right := Int.emod_nonneg (counter - 1 - other) nonzero
  have congruent : (counter - 1 - age : Int) ≡ counter - 1 - other [ZMOD period] := by
    unfold issued at same
    unfold Int.ModEq
    omega
  have ages : (age : Int) ≡ other [ZMOD period] := by
    simpa using Int.ModEq.sub_left (counter - 1 : Int) congruent
  exact (Int.natCast_modEq_iff.mp ages).eq_of_lt_of_lt young otherYoung

-- Numbers still in use, oldest first.
structure Outstanding (period counter : Nat) (ids ages : List Nat) : Prop where
  numbers : ids = ages.map (issued period counter)
  decreasing : ages.Pairwise (· > ·)

variable {ids ages : List Nat}

theorem Outstanding.nil (period counter : Nat) : Outstanding period counter [] [] := ⟨rfl, .nil⟩

theorem Outstanding.thin (outstanding : Outstanding period counter ids ages) {fewer : List Nat}
    (thinned : fewer.Sublist ids) : ∃ kept, kept.Sublist ages ∧ Outstanding period counter fewer kept := by
  rw [outstanding.numbers] at thinned
  obtain ⟨kept, sublist, numbers⟩ := List.sublist_map_iff.mp thinned
  exact ⟨kept, sublist, numbers, outstanding.decreasing.sublist sublist⟩

theorem Outstanding.advance (outstanding : Outstanding period counter ids ages) :
    Outstanding period (next period counter) ids (ages.map (· + 1)) where
  numbers := by simp [outstanding.numbers, issued_next]
  decreasing := by
    rw [List.pairwise_map]
    exact outstanding.decreasing.imp Nat.succ_lt_succ

theorem Outstanding.issue (outstanding : Outstanding period counter ids ages) (positive : 0 < period) :
    Outstanding period (next period counter) (ids ++ [next period counter]) (ages.map (· + 1) ++ [0]) where
  numbers := by
    have newest : issued period (next period counter) 0 = next period counter :=
      issued_zero (Nat.succ_pos _) (next_le positive counter)
    rw [List.map_append, ← outstanding.advance.numbers, List.map_singleton, newest]
  decreasing := by
    rw [List.pairwise_append]
    exact ⟨outstanding.advance.decreasing, List.pairwise_singleton .., by simp⟩

theorem Outstanding.nodup (outstanding : Outstanding period counter ids ages)
    (young : ∀ age ∈ ages, age < period) : ids.Nodup := by
  rw [outstanding.numbers]
  refine List.Nodup.map_on ?_ (outstanding.decreasing.imp Nat.ne_of_gt)
  intro age member other otherMember same
  exact issued_injective (young age member) (young other otherMember) same

-- Seen from the next number, every number in use is one older, and only the next one has the age 0.
theorem Outstanding.fresh (outstanding : Outstanding period counter ids ages)
    (young : ∀ age ∈ ages, age + 1 < period) (positive : 0 < period) : next period counter ∉ ids := by
  have taken := (outstanding.issue positive).nodup (by simpa [or_imp, forall_and, positive] using young)
  intro reused
  exact (List.nodup_append.mp taken).2.2 _ reused _ (List.mem_singleton_self _) rfl

end Rotation
