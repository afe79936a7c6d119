import Mathlib.Data.List.Basic
import Mathlib.Data.List.Nodup

set_option autoImplicit false

namespace Keyed

variable {α κ : Type} [BEq κ]

def lookup (key : α → κ) (items : List α) (wanted : κ) : Option α := items.find? fun item => key item == wanted

def others (key : α → κ) (items : List α) (wanted : κ) : List α := items.filter fun item => !(key item == wanted)

variable {key : α → κ} {items : List α} {item : α} {wanted other : κ} {index : Nat} {change : α → α}

theorem lookup_append (before after : List α) :
    lookup key (before ++ after) wanted = (lookup key before wanted).or (lookup key after wanted) :=
  List.find?_append

theorem lookup_cons : lookup key (item :: items) wanted =
    if key item == wanted then some item else lookup key items wanted := by
  cases same : key item == wanted <;> simp [lookup, same]

theorem others_append (before after : List α) :
    others key (before ++ after) wanted = others key before wanted ++ others key after wanted :=
  List.filter_append ..

variable [LawfulBEq κ]

theorem lookup_eq_none : lookup key items wanted = none ↔ wanted ∉ items.map key := by
  simp [lookup]

theorem lookup_of_mem (distinct : (items.map key).Nodup) (member : item ∈ items) :
    lookup key items (key item) = some item := by
  obtain ⟨before, after, rfl⟩ := List.append_of_mem member
  rw [List.map_append, List.nodup_append] at distinct
  have absent : key item ∉ before.map key := fun earlier => distinct.2.2 _ earlier _ (by simp) rfl
  simp [lookup_append, lookup_eq_none.mpr absent, lookup_cons]

theorem others_eq_self (absent : wanted ∉ items.map key) : others key items wanted = items := by
  refine List.filter_eq_self.mpr fun item member => ?_
  have different : key item ≠ wanted := fun same => absent (same ▸ List.mem_map_of_mem member)
  simp [different]

theorem others_cons_of_eq (same : key item = wanted) : others key (item :: items) wanted = others key items wanted := by
  simp [others, same]

theorem others_cons_of_ne (different : key item ≠ wanted) :
    others key (item :: items) wanted = item :: others key items wanted := by
  simp [others, different]

theorem split_of_findIdx? (found : items.findIdx? (fun item => key item == wanted) = some index) :
    ∃ before item after, items = before ++ item :: after ∧ before.length = index ∧ key item = wanted ∧
      wanted ∉ before.map key := by
  obtain ⟨inside, here, earlier⟩ := List.findIdx?_eq_some_iff_getElem.mp found
  refine ⟨items.take index, items[index], items.drop (index + 1), ?_, ?_, eq_of_beq here, ?_⟩
  · rw [← List.drop_eq_getElem_cons inside, List.take_append_drop]
  · rw [List.length_take]
    omega
  · intro member
    obtain ⟨item, taken, same⟩ := List.mem_map.mp member
    obtain ⟨position, before, rfl⟩ := List.mem_take_iff_getElem.mp taken
    exact earlier position (by omega) (beq_iff_eq.mpr same)

omit [BEq κ] [LawfulBEq κ] in
theorem modify_split (before after : List α) :
    (before ++ item :: after).modify before.length change = before ++ change item :: after := by
  simp [List.modify_eq_take_cons_drop]

theorem lookup_modify_self (found : items.findIdx? (fun item => key item == wanted) = some index)
    (keeps : ∀ item, key (change item) = key item) :
    lookup key (items.modify index change) wanted = (lookup key items wanted).map change := by
  obtain ⟨before, item, after, rfl, rfl, here, absent⟩ := split_of_findIdx? found
  simp [modify_split, lookup_append, lookup_cons, lookup_eq_none.mpr absent, keeps, here]

theorem lookup_modify_of_ne (found : items.findIdx? (fun item => key item == wanted) = some index)
    (keeps : ∀ item, key (change item) = key item) (different : other ≠ wanted) :
    lookup key (items.modify index change) other = lookup key items other := by
  obtain ⟨before, item, after, rfl, rfl, here, _⟩ := split_of_findIdx? found
  simp [modify_split, lookup_append, lookup_cons, keeps, here, Ne.symm different]

theorem others_modify (found : items.findIdx? (fun item => key item == wanted) = some index)
    (keeps : ∀ item, key (change item) = key item) :
    others key (items.modify index change) wanted = others key items wanted := by
  obtain ⟨before, item, after, rfl, rfl, here, _⟩ := split_of_findIdx? found
  rw [modify_split, others_append, others_append, others_cons_of_eq here, others_cons_of_eq ((keeps item).trans here)]

theorem eraseIdx_eq_others (distinct : (items.map key).Nodup)
    (found : items.findIdx? (fun item => key item == wanted) = some index) :
    items.eraseIdx index = others key items wanted := by
  obtain ⟨before, item, after, rfl, rfl, here, absent⟩ := split_of_findIdx? found
  have later : wanted ∉ after.map key := by
    rw [List.map_append, List.map_cons, List.nodup_append, List.nodup_cons, here] at distinct
    exact distinct.2.1.1
  rw [others_append, others_cons_of_eq here, others_eq_self absent, others_eq_self later]
  simp [List.eraseIdx_append_of_length_le]

theorem lookup_others_self : lookup key (others key items wanted) wanted = none := by
  simp [lookup, others]

theorem lookup_others_of_ne (different : other ≠ wanted) :
    lookup key (others key items wanted) other = lookup key items other := by
  induction items with
  | nil => rfl
  | cons item items ih =>
    by_cases here : key item = wanted
    · rw [others_cons_of_eq here, ih, lookup_cons, here, beq_false_of_ne (Ne.symm different)]
      rfl
    · rw [others_cons_of_ne here, lookup_cons, lookup_cons, ih]

theorem nodup_map_pair {ι : Type} {owner : α → κ} {key : α → ι} {Known : κ → Prop}
    (settled : ∀ item ∈ items, Known (owner item)) :
    (items.map fun item => (owner item, key item)).Nodup ↔
      ∀ home, Known home → ((items.filter fun item => owner item == home).map key).Nodup := by
  simp only [List.Nodup, List.pairwise_map, List.pairwise_filter, beq_iff_eq]
  constructor
  · intro pairs home _
    refine pairs.imp fun different ownLeft ownRight same => ?_
    exact different (Prod.ext (ownLeft.trans ownRight.symm) same)
  · intro each
    rw [List.pairwise_iff_getElem]
    intro i j hi hj before same
    obtain ⟨owners, keys⟩ := Prod.mk.inj same
    have home := each (owner items[i]) (settled _ (List.getElem_mem hi))
    exact List.pairwise_iff_getElem.mp home i j hi hj before rfl owners.symm keys

end Keyed
