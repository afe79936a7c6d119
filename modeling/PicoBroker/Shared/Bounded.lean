import Mathlib.Data.List.Basic

set_option autoImplicit false

structure Bounded (α : Type) (capacity : Nat) where
  items : List α
  fits : items.length ≤ capacity
deriving DecidableEq

namespace Bounded

variable {α β : Type} {capacity : Nat}

@[ext]
theorem ext {left right : Bounded α capacity} (same : left.items = right.items) : left = right := by
  cases left
  cases right
  simpa using same

def empty : Bounded α capacity := ⟨[], Nat.zero_le _⟩

def push (values : Bounded α capacity) (value : α) : Option (Bounded α capacity) :=
  if room : values.items.length < capacity then
    some ⟨values.items ++ [value], by simpa using Nat.succ_le_of_lt room⟩
  else none

def ofList? (values : List α) : Option (Bounded α capacity) :=
  if room : values.length ≤ capacity then some ⟨values, room⟩ else none

def truncate (values : List α) : Bounded α capacity := ⟨values.take capacity, List.length_take_le ..⟩

def popFront : Bounded α capacity → Option (α × Bounded α capacity)
  | ⟨[], _⟩ => none
  | ⟨head :: rest, fits⟩ => some (head, ⟨rest, Nat.le_of_succ_le fits⟩)

def eraseIdx (values : Bounded α capacity) (index : Nat) : Bounded α capacity :=
  ⟨values.items.eraseIdx index, Nat.le_trans (List.length_eraseIdx_le values.items index) values.fits⟩

def modify (values : Bounded α capacity) (index : Nat) (f : α → α) : Bounded α capacity :=
  ⟨values.items.modify index f, by simpa using values.fits⟩

def map (f : α → β) (values : Bounded α capacity) : Bounded β capacity :=
  ⟨values.items.map f, by simpa using values.fits⟩

def pushAll (values : Bounded α capacity) (more : List α) : Bounded α capacity :=
  more.foldl (fun pushed value => (pushed.push value).getD pushed) values

def extend? (values : Bounded α capacity) : List α → Option (Bounded α capacity)
  | [] => some values
  | value :: rest => (values.push value).bind fun pushed => pushed.extend? rest

@[simp] theorem empty_items : (empty : Bounded α capacity).items = [] := rfl

@[simp] theorem eraseIdx_items (values : Bounded α capacity) (index : Nat) :
    (values.eraseIdx index).items = values.items.eraseIdx index := rfl

@[simp] theorem modify_items (values : Bounded α capacity) (index : Nat) (f : α → α) :
    (values.modify index f).items = values.items.modify index f := rfl

@[simp] theorem map_items (f : α → β) (values : Bounded α capacity) :
    (values.map f).items = values.items.map f := rfl

theorem push_map (f : α → β) (values : Bounded α capacity) (value : α) :
    (values.map f).push (f value) = (values.push value).map (map f) := by
  by_cases room : values.items.length < capacity
  · simp [push, map, room]
  · simp [push, room]

theorem eraseIdx_map (f : α → β) (values : Bounded α capacity) (index : Nat) :
    (values.map f).eraseIdx index = (values.eraseIdx index).map f :=
  Bounded.ext (by simp [List.eraseIdx_eq_take_drop_succ])

theorem modify_map (f : α → β) {change : α → α} {changed : β → β}
    (commutes : ∀ value, changed (f value) = f (change value)) (values : Bounded α capacity) (index : Nat) :
    (values.map f).modify index changed = (values.modify index change).map f := by
  refine Bounded.ext ?_
  simp only [modify_items, map_items]
  apply List.ext_getElem?
  intro position
  simp only [List.getElem?_modify, List.getElem?_map]
  cases values.items[position]? with
  | none => rfl
  | some value => by_cases here : index = position <;> simp [here, commutes]

theorem push_eq_some {values pushed : Bounded α capacity} {value : α} :
    values.push value = some pushed ↔
      values.items.length < capacity ∧ pushed.items = values.items ++ [value] := by
  unfold push
  split
  · next room =>
    simp only [Option.some.injEq, room, true_and]
    constructor
    · rintro rfl
      rfl
    · intro same
      exact Bounded.ext same.symm
  · next full => simp [full]

theorem push_eq_none {values : Bounded α capacity} {value : α} :
    values.push value = none ↔ values.items.length = capacity := by
  have fits := values.fits
  unfold push
  split <;> simp <;> omega

theorem exists_push {values : Bounded α capacity} (room : values.items.length < capacity) (value : α) :
    ∃ pushed, values.push value = some pushed := by
  simp [push, room]

theorem ofList?_eq_some {values : List α} {bounded : Bounded α capacity} :
    ofList? values = some bounded ↔ bounded.items = values := by
  unfold ofList?
  split
  · simp only [Option.some.injEq]
    constructor
    · rintro rfl
      rfl
    · intro same
      exact Bounded.ext same.symm
  · next long =>
    simp only [reduceCtorEq, false_iff]
    rintro rfl
    exact long bounded.fits

theorem ofList?_eq_none {values : List α} :
    (ofList? values : Option (Bounded α capacity)) = none ↔ capacity < values.length := by
  unfold ofList?
  split <;> simp <;> omega

theorem popFront_eq_none {values : Bounded α capacity} : values.popFront = none ↔ values.items = [] := by
  rcases values with ⟨_ | _, _⟩ <;> simp [popFront]

theorem popFront_eq_some {values rest : Bounded α capacity} {head : α} :
    values.popFront = some (head, rest) ↔ values.items = head :: rest.items := by
  rcases values with ⟨_ | ⟨first, tail⟩, fits⟩
  · simp [popFront]
  · simp only [popFront, Option.some.injEq, Prod.mk.injEq, List.cons.injEq]
    constructor
    · rintro ⟨rfl, rfl⟩
      exact ⟨rfl, rfl⟩
    · rintro ⟨rfl, rfl⟩
      exact ⟨rfl, rfl⟩

theorem extend?_eq_some {values extended : Bounded α capacity} {more : List α} :
    values.extend? more = some extended ↔ extended.items = values.items ++ more := by
  induction more generalizing values with
  | nil => simp only [extend?, Option.some.injEq, Bounded.ext_iff, List.append_nil, eq_comm]
  | cons value rest ih =>
    simp only [extend?, Option.bind_eq_some_iff, push_eq_some, ih]
    constructor
    · rintro ⟨pushed, ⟨_, appended⟩, same⟩
      simp [same, appended]
    · intro same
      have fits := extended.fits
      rw [same] at fits
      simp only [List.length_append, List.length_cons] at fits
      refine ⟨⟨values.items ++ [value], by simp only [List.length_append, List.length_singleton]; omega⟩,
        ⟨by omega, rfl⟩, by simp [same]⟩

theorem pushAll_take (values : Bounded α capacity) (more : List α) :
    (values.pushAll more).items = (values.items ++ more).take capacity := by
  induction more generalizing values with
  | nil => simpa [pushAll] using (List.take_of_length_le values.fits).symm
  | cons value rest ih =>
    cases found : values.push value with
    | none =>
      have step : values.pushAll (value :: rest) = values.pushAll rest := by simp [pushAll, found]
      have full := push_eq_none.mp found
      rw [step, ih, List.take_append_of_le_length (Nat.le_of_eq full.symm),
        List.take_append_of_le_length (Nat.le_of_eq full.symm)]
    | some pushed =>
      have step : values.pushAll (value :: rest) = pushed.pushAll rest := by simp [pushAll, found]
      rw [step, ih, (push_eq_some.mp found).2, List.append_assoc, List.singleton_append]

theorem pushAll_items (values : Bounded α capacity) (more : List α)
    (room : values.items.length + more.length ≤ capacity) :
    (values.pushAll more).items = values.items ++ more := by
  rw [pushAll_take, List.take_of_length_le]
  simpa using room

end Bounded
