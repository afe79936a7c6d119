import Mathlib.Algebra.BigOperators.Group.Multiset.Basic
import Mathlib.Data.List.Basic

set_option autoImplicit false

structure Slots (α : Type) (size : Nat) where
  cells : List (Option α)
  sized : cells.length = size
deriving DecidableEq

namespace Slots

variable {α β : Type} {size : Nat}

def empty : Slots α size := ⟨List.replicate size none, List.length_replicate⟩

def get (table : Slots α size) (index : Nat) : Option α := table.cells[index]?.join

def set (table : Slots α size) (index : Nat) (cell : Option α) : Slots α size :=
  ⟨table.cells.set index cell, by simpa using table.sized⟩

def firstFree (table : Slots α size) : Option Nat := table.cells.findIdx? Option.isNone

def occupied (table : Slots α size) : List (Nat × α) :=
  table.cells.zipIdx.filterMap fun entry => entry.1.map fun value => (entry.2, value)

def find? (table : Slots α size) (test : α → Bool) : Option Nat :=
  table.cells.findIdx? fun cell => cell.any test

def count (table : Slots α size) : Nat := table.occupied.length

def map (f : α → β) (table : Slots α size) : Slots β size :=
  ⟨table.cells.map (Option.map f), by simpa using table.sized⟩

def collect (table : Slots α size) (f : α → Multiset β) : Multiset β :=
  (table.cells.map fun cell => cell.elim 0 f).sum

@[simp] theorem get_empty (index : Nat) : (empty : Slots α size).get index = none := by
  simp only [get, empty, List.getElem?_replicate]
  split <;> rfl

theorem get_eq_none_of_le (table : Slots α size) {index : Nat} (outside : size ≤ index) :
    table.get index = none := by
  have missing : table.cells[index]? = none := by
    apply List.getElem?_eq_none
    rw [table.sized]
    exact outside
  simp [get, missing]

theorem lt_of_get {table : Slots α size} {index : Nat} {value : α}
    (found : table.get index = some value) : index < size := by
  by_contra outside
  rw [get_eq_none_of_le table (by omega)] at found
  cases found

theorem get_set (table : Slots α size) (index other : Nat) (cell : Option α) :
    (table.set index cell).get other =
      if index = other ∧ index < size then cell else table.get other := by
  have sized := table.sized
  by_cases same : index = other
  · subst same
    by_cases inside : index < size
    · simp [get, set, inside, sized]
    · have outside : size ≤ index := by omega
      rw [get_eq_none_of_le _ outside, get_eq_none_of_le _ outside]
      simp [inside]
  · simp [get, set, same]

theorem get_set_ne (table : Slots α size) {index other : Nat} (cell : Option α)
    (different : other ≠ index) : (table.set index cell).get other = table.get other := by
  simp [get_set, Ne.symm different]

theorem get_set_self (table : Slots α size) {index : Nat} (cell : Option α) (inside : index < size) :
    (table.set index cell).get index = cell := by
  simp [get_set, inside]

theorem set_set (table : Slots α size) (index : Nat) (first second : Option α) :
    (table.set index first).set index second = table.set index second := by
  simp [set]

theorem ext_get {left right : Slots α size} (same : ∀ index, left.get index = right.get index) :
    left = right := by
  rcases left with ⟨left, leftSized⟩
  rcases right with ⟨right, rightSized⟩
  suffices left = right by simpa using this
  apply List.ext_getElem (leftSized.trans rightSized.symm)
  intro index inLeft inRight
  have h := same index
  simpa [get, inLeft, inRight] using h

theorem firstFree_eq_some {table : Slots α size} {index : Nat} :
    table.firstFree = some index ↔
      index < size ∧ table.get index = none ∧ ∀ lower < index, table.get lower ≠ none := by
  have sized := table.sized
  simp only [firstFree, List.findIdx?_eq_some_iff_getElem, get]
  constructor
  · rintro ⟨inside, free, before⟩
    refine ⟨by omega, by simpa [inside] using free, ?_⟩
    intro lower below
    have within : lower < table.cells.length := by omega
    simpa [within] using before lower below
  · rintro ⟨inside, free, before⟩
    have within : index < table.cells.length := by omega
    refine ⟨within, by simpa [within] using free, ?_⟩
    intro lower below
    have lowerWithin : lower < table.cells.length := by omega
    simpa [lowerWithin] using before lower below

theorem firstFree_eq_none {table : Slots α size} :
    table.firstFree = none ↔ ∀ index < size, table.get index ≠ none := by
  have sized := table.sized
  simp only [firstFree, List.findIdx?_eq_none_iff, get]
  constructor
  · intro taken index inside
    have within : index < table.cells.length := by omega
    have h := taken _ (List.getElem_mem within)
    simpa [within, Option.isSome_iff_ne_none] using h
  · intro taken cell member
    obtain ⟨index, within, rfl⟩ := List.getElem_of_mem member
    have h := taken index (by omega)
    simpa [within, Option.isSome_iff_ne_none] using h

theorem mem_occupied {table : Slots α size} {index : Nat} {value : α} :
    (index, value) ∈ table.occupied ↔ table.get index = some value := by
  simp only [occupied, List.mem_filterMap, get, Option.join_eq_some_iff]
  constructor
  · rintro ⟨⟨cell, position⟩, member, found⟩
    obtain ⟨stored, rfl, same⟩ := Option.map_eq_some_iff.mp found
    obtain ⟨rfl, rfl⟩ := Prod.mk.inj same
    exact List.mem_zipIdx_iff_getElem?.mp member
  · intro found
    exact ⟨(some value, index), List.mem_zipIdx_iff_getElem?.mpr found, rfl⟩

theorem occupied_increasing (table : Slots α size) :
    table.occupied.Pairwise fun left right => left.1 < right.1 := by
  rw [occupied, List.pairwise_filterMap]
  have ordered : table.cells.zipIdx.Pairwise fun left right => left.2 < right.2 := by
    rw [← List.pairwise_map (f := Prod.snd), List.zipIdx_map_snd]
    simpa [List.range'_eq_map_range] using List.pairwise_lt_range
  apply ordered.imp
  rintro ⟨_, i⟩ ⟨_, j⟩ below left leftFound right rightFound
  obtain ⟨_, _, rfl⟩ := Option.map_eq_some_iff.mp leftFound
  obtain ⟨_, _, rfl⟩ := Option.map_eq_some_iff.mp rightFound
  exact below

theorem count_eq_countP (table : Slots α size) : table.count = table.cells.countP Option.isSome := by
  have positions : table.cells = table.cells.zipIdx.map Prod.fst := by simp
  rw [count, occupied, List.length_filterMap_eq_countP]
  conv_rhs => rw [positions, List.countP_map]
  congr 1
  funext entry
  simp

theorem count_eq_size_iff {table : Slots α size} : table.count = size ↔ table.firstFree = none := by
  rw [count_eq_countP, firstFree, List.findIdx?_eq_none_iff]
  conv_lhs => rhs; rw [← table.sized]
  rw [List.countP_eq_length]
  simp [Option.isSome_iff_ne_none]

theorem count_le (table : Slots α size) : table.count ≤ size := by
  have bounded : table.cells.countP Option.isSome ≤ table.cells.length := List.countP_le_length
  rw [count_eq_countP]
  rwa [table.sized] at bounded

theorem any_cell (table : Slots α size) (test : α → Bool) {index : Nat}
    (within : index < table.cells.length) :
    (table.cells[index].any test = true) ↔ ∃ value, table.get index = some value ∧ test value = true := by
  cases cell : table.cells[index] <;> simp [get, within, cell]

theorem find?_eq_some {table : Slots α size} {test : α → Bool} {index : Nat} :
    table.find? test = some index ↔
      (∃ value, table.get index = some value ∧ test value = true) ∧
        ∀ lower < index, ∀ value, table.get lower = some value → test value = false := by
  have sized := table.sized
  simp only [find?, List.findIdx?_eq_some_iff_getElem]
  constructor
  · rintro ⟨inside, found, before⟩
    refine ⟨(any_cell table test inside).mp found, ?_⟩
    intro lower below value stored
    have within : lower < table.cells.length := by omega
    have missed := before lower below
    rw [any_cell table test within] at missed
    by_contra passed
    exact missed ⟨value, stored, by simpa using passed⟩
  · rintro ⟨⟨value, stored, passed⟩, before⟩
    have inside : index < table.cells.length := by
      rw [sized]
      exact lt_of_get stored
    refine ⟨inside, (any_cell table test inside).mpr ⟨value, stored, passed⟩, ?_⟩
    intro lower below
    have within : lower < table.cells.length := by omega
    rw [any_cell table test within]
    rintro ⟨other, otherStored, otherPassed⟩
    rw [before lower below other otherStored] at otherPassed
    cases otherPassed

theorem find?_eq_none {table : Slots α size} {test : α → Bool} :
    table.find? test = none ↔ ∀ index value, table.get index = some value → test value = false := by
  simp only [find?, List.findIdx?_eq_none_iff]
  constructor
  · intro missed index value stored
    have within : index < table.cells.length := by
      rw [table.sized]
      exact lt_of_get stored
    have h := missed _ (List.getElem_mem within)
    by_contra passed
    rw [(any_cell table test within).mpr ⟨value, stored, by simpa using passed⟩] at h
    cases h
  · intro missed cell member
    obtain ⟨index, within, rfl⟩ := List.getElem_of_mem member
    by_contra passed
    obtain ⟨value, stored, found⟩ := (any_cell table test within).mp (by simpa using passed)
    rw [missed index value stored] at found
    cases found

section

variable (f : α → β) (table : Slots α size)

theorem get_map (index : Nat) : (table.map f).get index = (table.get index).map f := by
  simp only [get, map, List.getElem?_map]
  cases table.cells[index]? with
  | none => rfl
  | some cell => cases cell <;> rfl

theorem set_map (index : Nat) (cell : Option α) :
    (table.map f).set index (cell.map f) = (table.set index cell).map f := by
  simp [set, map, List.map_set]

@[simp] theorem empty_map : (empty : Slots α size).map f = empty := by
  simp [empty, map]

theorem firstFree_map : (table.map f).firstFree = table.firstFree := by
  simp only [firstFree, map, List.findIdx?_map]
  congr 1
  funext cell
  cases cell <;> rfl

theorem find?_map (test : β → Bool) : (table.map f).find? test = table.find? fun value => test (f value) := by
  simp only [find?, map, List.findIdx?_map]
  congr 1
  funext cell
  cases cell <;> rfl

theorem occupied_map : (table.map f).occupied = table.occupied.map fun entry => (entry.1, f entry.2) := by
  simp only [occupied, map, List.zipIdx_map, List.filterMap_map, List.map_filterMap]
  congr 1
  funext ⟨cell, index⟩
  cases cell <;> rfl

theorem count_map : (table.map f).count = table.count := by
  simp [count, occupied_map]

end

theorem sum_map_set {γ : Type} (cells : List γ) (g : γ → Multiset β) {index : Nat} (cell : γ)
    (inside : index < cells.length) :
    ((cells.set index cell).map g).sum + g cells[index] = (cells.map g).sum + g cell := by
  induction cells generalizing index with
  | nil => simp at inside
  | cons head rest ih =>
    cases index with
    | zero => simp [add_comm, add_left_comm]
    | succ index =>
      have within : index < rest.length := by simpa using inside
      have h := ih within
      simp only [List.set_cons_succ, List.map_cons, List.sum_cons, List.getElem_cons_succ, add_assoc]
      rw [h]

-- Overwriting one cell exchanges its contribution; both sides add the other value, so that no
-- multiset is subtracted.
theorem collect_set (table : Slots α size) (f : α → Multiset β) {index : Nat} (cell : Option α)
    (inside : index < size) :
    (table.set index cell).collect f + (table.get index).elim 0 f =
      table.collect f + cell.elim 0 f := by
  have within : index < table.cells.length := by
    rw [table.sized]
    exact inside
  have stored : table.get index = table.cells[index] := by simp [get, within]
  rw [stored]
  exact sum_map_set table.cells (fun cell => cell.elim 0 f) cell within

theorem collect_eq_occupied (table : Slots α size) (f : α → Multiset β) :
    table.collect f = (table.occupied.map fun entry => f entry.2).sum := by
  have shifted (cells : List (Option α)) (start : Nat) :
      (cells.map fun cell => cell.elim 0 f).sum =
        (((cells.zipIdx start).filterMap fun entry => entry.1.map fun value => (entry.2, value)).map
          fun entry => f entry.2).sum := by
    induction cells generalizing start with
    | nil => rfl
    | cons cell rest ih => cases cell <;> simp [ih (start + 1)]
  exact shifted table.cells 0

theorem mem_collect {table : Slots α size} {f : α → Multiset β} {item : β} :
    item ∈ table.collect f ↔ ∃ index value, table.get index = some value ∧ item ∈ f value := by
  have members (cells : List (Option α)) : item ∈ (cells.map fun cell => cell.elim 0 f).sum ↔
      ∃ value, some value ∈ cells ∧ item ∈ f value := by
    induction cells with
    | nil => simp
    | cons cell rest ih => cases cell <;> simp [ih, or_and_right, exists_or]
  rw [collect, members]
  constructor
  · rintro ⟨value, member, belongs⟩
    obtain ⟨index, within, same⟩ := List.getElem_of_mem member
    exact ⟨index, value, by simp [get, within, same], belongs⟩
  · rintro ⟨index, value, stored, belongs⟩
    exact ⟨value, List.mem_of_getElem? (Option.join_eq_some_iff.mp stored), belongs⟩

end Slots
