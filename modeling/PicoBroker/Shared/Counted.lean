import Mathlib.Algebra.Order.Group.Multiset
import Mathlib.Data.Multiset.Count
import Mathlib.Logic.Function.Basic

set_option autoImplicit false

namespace Counted

structure Cell where
  generation : Nat
  count : Nat
deriving DecidableEq

structure Ref where
  index : Nat
  generation : Nat
deriving DecidableEq

abbrev Pool := Nat → Option Cell

def store (pool : Pool) (index generation : Nat) : Pool :=
  Function.update pool index (some ⟨generation, 1⟩)

def acquire (pool : Pool) (ref : Ref) (cell : Cell) : Pool :=
  Function.update pool ref.index (some { cell with count := cell.count + 1 })

-- A reference that does not resolve is ignored; the last reference empties the cell.
def release (pool : Pool) (ref : Ref) : Pool :=
  match pool ref.index with
  | none => pool
  | some cell =>
      if cell.generation = ref.generation then
        Function.update pool ref.index
          (if cell.count - 1 = 0 then none else some { cell with count := cell.count - 1 })
      else pool

def releaseAll (pool : Pool) (refs : List Ref) : Pool := refs.foldl release pool

structure Exact (pool : Pool) (refs : Multiset Ref) : Prop where
  resolved : ∀ ref ∈ refs, ∃ cell, pool ref.index = some cell ∧ cell.generation = ref.generation
  counted : ∀ index cell, pool index = some cell → cell.count = refs.count ⟨index, cell.generation⟩
  positive : ∀ index cell, pool index = some cell → 0 < cell.count

variable {pool : Pool} {refs : Multiset Ref}

theorem exact_empty : Exact (fun _ => none) 0 :=
  ⟨by simp, by simp, by simp⟩

theorem Exact.generation_eq (exact : Exact pool refs) {ref : Ref} (member : ref ∈ refs)
    {cell : Cell} (found : pool ref.index = some cell) : cell.generation = ref.generation := by
  obtain ⟨stored, present, same⟩ := exact.resolved ref member
  rw [found] at present
  cases present
  exact same

theorem Exact.empty_of_no_refs (exact : Exact pool 0) (index : Nat) : pool index = none := by
  cases found : pool index with
  | none => rfl
  | some cell =>
    have counted := exact.counted index cell found
    have positive := exact.positive index cell found
    simp at counted
    omega

-- One cell is overwritten; the references change only at that cell.
theorem exact_update {after : Multiset Ref} (exact : Exact pool refs) {index : Nat}
    {replaced : Option Cell}
    (elsewhere : ∀ ref : Ref, ref.index ≠ index → after.count ref = refs.count ref)
    (resolved : ∀ ref ∈ after, ref.index = index →
      ∃ cell, replaced = some cell ∧ cell.generation = ref.generation)
    (counted : ∀ cell, replaced = some cell →
      cell.count = after.count ⟨index, cell.generation⟩ ∧ 0 < cell.count) :
    Exact (Function.update pool index replaced) after := by
  refine ⟨?_, ?_, ?_⟩
  · intro ref member
    by_cases here : ref.index = index
    · obtain ⟨cell, present, same⟩ := resolved ref member here
      exact ⟨cell, by simp [here, present], same⟩
    · have old : ref ∈ refs := by
        rw [← Multiset.count_pos, elsewhere ref here] at member
        exact Multiset.count_pos.mp member
      rw [Function.update_of_ne here]
      exact exact.resolved ref old
  · intro other cell found
    by_cases here : other = index
    · subst here
      rw [Function.update_self] at found
      exact (counted cell found).1
    · rw [Function.update_of_ne here] at found
      rw [exact.counted other cell found, elsewhere ⟨other, cell.generation⟩ here]
  · intro other cell found
    by_cases here : other = index
    · subst here
      rw [Function.update_self] at found
      exact (counted cell found).2
    · rw [Function.update_of_ne here] at found
      exact exact.positive other cell found

theorem count_cons_elsewhere {ref other : Ref} (different : other.index ≠ ref.index) :
    (ref ::ₘ refs).count other = refs.count other := by
  apply Multiset.count_cons_of_ne
  rintro rfl
  exact different rfl

-- An empty cell has no references left, whatever generation they were made under. Hence a cell can
-- be reused under any generation, even one that was used before.
theorem Exact.store (exact : Exact pool refs) {index generation : Nat} (free : pool index = none) :
    Exact (store pool index generation) (⟨index, generation⟩ ::ₘ refs) := by
  have unreferenced : ∀ ref ∈ refs, ref.index ≠ index := by
    rintro ref member rfl
    obtain ⟨cell, present, _⟩ := exact.resolved ref member
    rw [free] at present
    cases present
  apply exact_update exact
  · intro ref different
    exact count_cons_elsewhere different
  · intro ref member here
    rcases Multiset.mem_cons.mp member with rfl | old
    · exact ⟨⟨generation, 1⟩, rfl, rfl⟩
    · exact absurd here (unreferenced ref old)
  · rintro cell ⟨⟩
    have absent : refs.count ⟨index, generation⟩ = 0 :=
      Multiset.count_eq_zero_of_notMem fun member => unreferenced _ member rfl
    simp [absent]

theorem Exact.acquire (exact : Exact pool refs) {ref : Ref} {cell : Cell}
    (found : pool ref.index = some cell) (current : cell.generation = ref.generation) :
    Exact (acquire pool ref cell) (ref ::ₘ refs) := by
  apply exact_update exact
  · intro other different
    exact count_cons_elsewhere different
  · intro other member here
    have generation : cell.generation = other.generation := by
      rcases Multiset.mem_cons.mp member with rfl | old
      · exact current
      · exact exact.generation_eq old (by rw [here, found])
    exact ⟨{ cell with count := cell.count + 1 }, rfl, generation⟩
  · rintro updated ⟨⟩
    have counted := exact.counted _ cell found
    simp only [current] at counted ⊢
    exact ⟨by rw [counted, Multiset.count_cons_self], Nat.succ_pos _⟩

theorem Exact.release {ref : Ref} (exact : Exact pool (ref ::ₘ refs)) :
    Exact (release pool ref) refs := by
  obtain ⟨cell, found, current⟩ := exact.resolved ref (Multiset.mem_cons_self ref refs)
  have counted : cell.count = refs.count ref + 1 := by
    rw [exact.counted _ cell found, current, Multiset.count_cons_self]
  simp only [Counted.release, found]
  rw [if_pos current]
  apply exact_update exact
  · intro other different
    exact (count_cons_elsewhere different).symm
  · intro other member here
    have same := exact.generation_eq (Multiset.mem_cons_of_mem member) (by rw [here, found])
    have remaining : 0 < refs.count ref := by
      have : other = ref := by
        cases other
        cases ref
        simp_all
      rw [← this]
      exact Multiset.count_pos.mpr member
    rw [if_neg (by omega)]
    exact ⟨_, rfl, same⟩
  · intro updated present
    split at present
    · cases present
    · next more =>
      cases present
      simp only [current]
      exact ⟨by rw [counted]; rfl, Nat.pos_of_ne_zero more⟩

theorem Exact.releaseAll {released : List Ref} (exact : Exact pool ((released : Multiset Ref) + refs)) :
    Exact (releaseAll pool released) refs := by
  induction released generalizing pool with
  | nil => simpa [Counted.releaseAll] using exact
  | cons ref rest ih =>
    have next : Exact (Counted.release pool ref) ((rest : Multiset Ref) + refs) := by
      apply Exact.release
      simpa [← Multiset.cons_coe] using exact
    exact ih next

end Counted
