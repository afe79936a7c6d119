import Mathlib.Logic.Function.Iterate

set_option autoImplicit false

namespace Checksums

variable {σ β : Type} {w : Nat}

structure Separates (absorb : σ → β → σ) : Prop where
  states : ∀ symbol, Function.Injective fun state => absorb state symbol
  symbols : ∀ state, Function.Injective (absorb state)

theorem Separates.foldl_injective {absorb : σ → β → σ} (separates : Separates absorb) (symbols : List β) :
    Function.Injective fun state => symbols.foldl absorb state := by
  induction symbols with
  | nil => exact fun _ _ same => same
  | cons symbol rest ih => exact fun _ _ same => separates.states symbol (ih same)

theorem Separates.foldl_set_ne {absorb : σ → β → σ} (separates : Separates absorb) {symbols : List β}
    {index : Nat} {symbol : β} (changed : ∃ old ∈ symbols[index]?, old ≠ symbol) (state : σ) :
    (symbols.set index symbol).foldl absorb state ≠ symbols.foldl absorb state := by
  induction symbols generalizing index state with
  | nil => simp at changed
  | cons first rest ih =>
    cases index with
    | zero =>
      obtain ⟨old, found, different⟩ := changed
      obtain rfl : first = old := by simpa using found
      intro same
      exact different (separates.symbols state (separates.foldl_injective rest same)).symm
    | succ index => exact ih (by simpa using changed) (absorb state first)

def shift (polynomial register : BitVec w) : BitVec w :=
  (register >>> 1) ^^^ (if register.getLsbD 0 then polynomial else 0#w)

theorem shift_top {polynomial : BitVec w} (top : polynomial.getLsbD (w - 1) = true) (register : BitVec w) :
    (shift polynomial register).getLsbD (w - 1) = register.getLsbD 0 := by
  have shiftedOut : register.getLsbD (1 + (w - 1)) = false := BitVec.getLsbD_of_ge _ _ (by omega)
  simp only [shift, BitVec.getLsbD_xor, BitVec.getLsbD_ushiftRight, shiftedOut, Bool.false_xor]
  split
  · next low => rw [top, low]
  · next low => simpa using low

theorem shift_injective {polynomial : BitVec w} (top : polynomial.getLsbD (w - 1) = true) :
    Function.Injective (shift polynomial) := by
  intro left right same
  have low : left.getLsbD 0 = right.getLsbD 0 := by
    rw [← shift_top top left, ← shift_top top right, same]
  have rest : left >>> 1 = right >>> 1 := by
    simp only [shift, low] at same
    exact BitVec.xor_left_inj _ |>.mp same
  apply BitVec.eq_of_getLsbD_eq
  intro index _
  cases index with
  | zero => exact low
  | succ index =>
    have := congrArg (BitVec.getLsbD · index) rest
    simpa [BitVec.getLsbD_ushiftRight, Nat.add_comm] using this

theorem shift_xor (polynomial left right : BitVec w) :
    shift polynomial (left ^^^ right) = shift polynomial left ^^^ shift polynomial right := by
  have feedback : (if (left ^^^ right).getLsbD 0 then polynomial else 0#w) =
      (if left.getLsbD 0 then polynomial else 0#w) ^^^ (if right.getLsbD 0 then polynomial else 0#w) := by
    rw [BitVec.getLsbD_xor]
    cases left.getLsbD 0 <;> cases right.getLsbD 0 <;> simp
  simp only [shift, feedback, BitVec.ushiftRight_xor_distrib]
  ac_rfl

theorem shift_iterate_xor (polynomial left right : BitVec w) (count : Nat) :
    (shift polynomial)^[count] (left ^^^ right) =
      (shift polynomial)^[count] left ^^^ (shift polynomial)^[count] right := by
  induction count generalizing left right with
  | zero => rfl
  | succ count ih => simp only [Function.iterate_succ_apply, shift_xor, ih]

theorem shift_shiftLeft_succ (polynomial : BitVec w) {word : BitVec w} {count : Nat}
    (low : ∀ index, w - (count + 1) ≤ index → word.getLsbD index = false) :
    shift polynomial (word <<< (count + 1)) = word <<< count := by
  have clear : (word <<< (count + 1)).getLsbD 0 = false := by simp
  simp only [shift, clear, Bool.false_eq_true, if_false, BitVec.xor_zero]
  apply BitVec.eq_of_getLsbD_eq
  intro index within
  have moved : 1 + index - (count + 1) = index - count := by omega
  simp only [BitVec.getLsbD_ushiftRight, BitVec.getLsbD_shiftLeft, moved, within]
  by_cases top : 1 + index < w
  · simp [top, show 1 + index < count + 1 ↔ index < count by omega]
  · -- The bit that the shift to the left pushed out is clear.
    by_cases above : count ≤ index
    · simp [low (index - count) (by omega)]
    · simp [top, above]

theorem shift_iterate_shiftLeft (polynomial : BitVec w) {word : BitVec w} {count : Nat}
    (low : ∀ index, w - count ≤ index → word.getLsbD index = false) :
    (shift polynomial)^[count] (word <<< count) = word := by
  induction count with
  | zero => simp
  | succ count ih =>
    rw [Function.iterate_succ_apply, shift_shiftLeft_succ polynomial low]
    exact ih fun index high => low index (by omega)

variable {m : Nat}

def register (polynomial state : BitVec w) (symbol : BitVec m) : BitVec w :=
  (shift polynomial)^[m] (state ^^^ symbol.setWidth w)

def block : List (BitVec m) → BitVec w
  | [] => 0#w
  | symbol :: rest => symbol.setWidth w ^^^ block rest <<< m

theorem block_getLsbD {symbols : List (BitVec m)} {index : Nat} (beyond : m * symbols.length ≤ index) :
    (block symbols : BitVec w).getLsbD index = false := by
  induction symbols generalizing index with
  | nil => simp [block]
  | cons symbol rest ih =>
    rw [List.length_cons, Nat.mul_succ] at beyond
    have outside : symbol.getLsbD index = false := BitVec.getLsbD_of_ge _ _ (by omega)
    simp [block, outside, ih (show m * rest.length ≤ index - m by omega)]

theorem foldl_register (polynomial : BitVec w) {symbols : List (BitVec m)} (fits : m * symbols.length ≤ w)
    (state : BitVec w) :
    symbols.foldl (register polynomial) state =
      (shift polynomial)^[m * symbols.length] (state ^^^ block symbols) := by
  induction symbols generalizing state with
  | nil => simp [block]
  | cons symbol rest ih =>
    rw [List.length_cons, Nat.mul_succ] at fits
    -- The rest of the block, placed higher before the first symbol is shifted in.
    have placed : (shift polynomial)^[m] (block rest <<< m) = block rest :=
      shift_iterate_shiftLeft polynomial fun index high => block_getLsbD (by omega)
    calc (symbol :: rest).foldl (register polynomial) state
      _ = rest.foldl (register polynomial) (register polynomial state symbol) := rfl
      _ = (shift polynomial)^[m * rest.length] (register polynomial state symbol ^^^ block rest) := ih (by omega) _
      _ = (shift polynomial)^[m * rest.length]
          ((shift polynomial)^[m] (state ^^^ symbol.setWidth w ^^^ block rest <<< m)) := by
        rw [shift_iterate_xor polynomial _ (block rest <<< m), placed, register]
      _ = (shift polynomial)^[m * (symbol :: rest).length] (state ^^^ block (symbol :: rest)) := by
        rw [← Function.iterate_add_apply, List.length_cons, Nat.mul_succ, block, BitVec.xor_assoc]

theorem block_injective {left right : List (BitVec m)} (length : left.length = right.length)
    (fits : m * left.length ≤ w) (same : (block left : BitVec w) = block right) : left = right := by
  induction left generalizing right with
  | nil => exact (List.eq_nil_of_length_eq_zero length.symm).symm
  | cons symbol rest ih =>
    cases right with
    | nil => cases length
    | cons other others =>
      have shorter : rest.length = others.length := Nat.succ.inj length
      rw [List.length_cons, Nat.mul_succ] at fits
      have bits (index : Nat) : (block (symbol :: rest) : BitVec w).getLsbD index =
        (block (other :: others) : BitVec w).getLsbD index := by rw [same]
      simp only [block, BitVec.getLsbD_xor, BitVec.getLsbD_setWidth, BitVec.getLsbD_shiftLeft] at bits
      have first : symbol = other := by
        apply BitVec.eq_of_getLsbD_eq
        intro index within
        simpa [within, show index < w by omega] using bits index
      subst first
      have later : (block rest : BitVec w) = block others := by
        apply BitVec.eq_of_getLsbD_eq
        intro index within
        by_cases inside : m + index < w
        · simpa [inside, Nat.not_lt.mpr (Nat.le_add_right m index)] using bits (m + index)
        · rw [block_getLsbD (by omega), block_getLsbD (by rw [← shorter]; omega)]
      rw [ih shorter (by omega) later]

theorem register_separates_blocks {polynomial : BitVec w} (top : polynomial.getLsbD (w - 1) = true)
    {left right : List (BitVec m)} (length : left.length = right.length) (fits : m * left.length ≤ w)
    {state : BitVec w}
    (same : left.foldl (register polynomial) state = right.foldl (register polynomial) state) :
    left = right := by
  rw [foldl_register polynomial fits, foldl_register polynomial (length ▸ fits), length] at same
  have words := (shift_injective top).iterate _ same
  exact block_injective length fits ((BitVec.xor_right_inj _).mp words)

-- Two strings of one length that agree outside of `size` neighbouring symbols.
structure Burst {β : Type} (size : Nat) (left right : List β) : Prop where
  length : left.length = right.length
  within : ∃ start, ∀ index, index < start ∨ start + size ≤ index → left[index]? = right[index]?

theorem Separates.foldl_burst_ne {absorb : σ → β → σ} (separates : Separates absorb) {size : Nat}
    (blocks : ∀ (state : σ) (left right : List β), left.length = right.length → left.length ≤ size →
      left.foldl absorb state = right.foldl absorb state → left = right)
    {left right : List β} (burst : Burst size left right) (different : left ≠ right) (state : σ) :
    left.foldl absorb state ≠ right.foldl absorb state := by
  obtain ⟨length, start, outside⟩ := burst
  intro same
  apply different
  have cut (bytes : List β) : bytes = bytes.take start ++ ((bytes.drop start).take size ++ bytes.drop (start + size)) := by
    rw [← List.drop_drop, List.take_append_drop, List.take_append_drop]
  have front : left.take start = right.take start := by
    apply List.ext_getElem?
    intro index
    rw [List.getElem?_take, List.getElem?_take]
    split
    · next before => exact outside index (.inl before)
    · rfl
  have back : left.drop (start + size) = right.drop (start + size) := by
    apply List.ext_getElem?
    intro index
    simp [outside (start + size + index) (.inr (by omega))]
  rw [cut left, cut right, front, back] at same
  simp only [List.foldl_append] at same
  have middle := blocks _ _ _ (by simp [length]) (List.length_take_le ..) (separates.foldl_injective _ same)
  rw [cut left, cut right, front, middle, back]

end Checksums
