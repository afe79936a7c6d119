import Mathlib.Data.List.Basic

set_option autoImplicit false

namespace Utf8

def encode (chars : List Char) : List UInt8 := chars.flatMap String.utf8EncodeChar

def byte (char : Char) : UInt8 := UInt8.ofNat char.toNat

variable {ascii char : Char} {chars : List Char}

theorem encode_toList (text : String) : encode text.toList = text.toUTF8.data.toList := by
  simp only [String.toUTF8, ← String.utf8Encode_toList]
  simp [List.utf8Encode, encode]

theorem encodeChar_ascii (small : ascii.toNat < 128) : String.utf8EncodeChar ascii = [byte ascii] := by
  have first : ascii.val.toNat ≤ 127 := Nat.le_of_lt_succ small
  simp only [String.utf8EncodeChar, first, if_true]
  rfl

-- The bytes of a longer character are all at least 128.
theorem encodeChar_high (large : 128 ≤ char.toNat) {single : UInt8} (member : single ∈ String.utf8EncodeChar char) :
    128 ≤ single.toNat := by
  have first : ¬ char.val.toNat ≤ 127 := Nat.not_le_of_lt large
  simp only [String.utf8EncodeChar, first, if_false] at member
  split at member
  · simp only [List.mem_cons, List.not_mem_nil, or_false] at member
    rcases member with rfl | rfl <;> rw [UInt8.toNat_ofNat'] <;> omega
  · split at member
    · simp only [List.mem_cons, List.not_mem_nil, or_false] at member
      rcases member with rfl | rfl | rfl <;> rw [UInt8.toNat_ofNat'] <;> omega
    · simp only [List.mem_cons, List.not_mem_nil, or_false] at member
      rcases member with rfl | rfl | rfl | rfl <;> rw [UInt8.toNat_ofNat'] <;> omega

theorem byte_toNat (small : ascii.toNat < 128) : (byte ascii).toNat = ascii.toNat := by
  rw [byte, UInt8.toNat_ofNat']
  omega

theorem mem_encodeChar (small : ascii.toNat < 128) :
    byte ascii ∈ String.utf8EncodeChar char ↔ char = ascii := by
  constructor
  · intro member
    rcases Nat.lt_or_ge char.toNat 128 with short | long
    · rw [encodeChar_ascii short, List.mem_singleton] at member
      have same := congrArg UInt8.toNat member
      rw [byte_toNat small, byte_toNat short] at same
      exact Char.toNat_inj.mp same.symm
    · have high := encodeChar_high long member
      rw [byte_toNat small] at high
      omega
  · rintro rfl
    simp [encodeChar_ascii small]

theorem mem_encode (small : ascii.toNat < 128) : byte ascii ∈ encode chars ↔ ascii ∈ chars := by
  simp [encode, List.mem_flatMap, mem_encodeChar small]

theorem encode_eq_nil : encode chars = [] ↔ chars = [] := by
  cases chars <;> simp [encode, String.utf8EncodeChar_ne_nil]

theorem encode_eq_singleton (small : ascii.toNat < 128) : encode chars = [byte ascii] ↔ chars = [ascii] := by
  constructor
  · intro single
    have member : ascii ∈ chars := (mem_encode small).mp (by simp [single])
    obtain ⟨before, after, rfl⟩ := List.append_of_mem member
    have split : encode before ++ byte ascii :: encode after = [byte ascii] := by
      simpa [encode, encodeChar_ascii small] using single
    have lengths := congrArg List.length split
    simp only [List.length_append, List.length_cons, List.length_nil] at lengths
    have first : before = [] := encode_eq_nil.mp (List.eq_nil_of_length_eq_zero (by omega))
    have last : after = [] := encode_eq_nil.mp (List.eq_nil_of_length_eq_zero (by omega))
    simp [first, last]
  · rintro rfl
    simp [encode, encodeChar_ascii small]

theorem splitOn_append_of_notMem {α : Type} [BEq α] [LawfulBEq α] {separator : α} {front : List α}
    (absent : separator ∉ front) (rest : List α) :
    (front ++ rest).splitOn separator = (rest.splitOn separator).modifyHead (front ++ ·) := by
  induction front with
  | nil => cases split : rest.splitOn separator <;> simp [split]
  | cons head tail ih =>
    rw [List.mem_cons, not_or] at absent
    have different : (head == separator) = false := beq_false_of_ne (Ne.symm absent.1)
    rw [List.cons_append, List.splitOn_cons_eq_if_modifyHead, different, ih absent.2]
    simp [List.modifyHead_modifyHead, Function.comp_def]

theorem splitOn_encode (small : ascii.toNat < 128) (chars : List Char) :
    (encode chars).splitOn (byte ascii) = (chars.splitOn ascii).map encode := by
  induction chars with
  | nil => simp [encode]
  | cons char chars ih =>
    have split : encode (char :: chars) = String.utf8EncodeChar char ++ encode chars := by simp [encode]
    by_cases here : char = ascii
    · subst here
      rw [split, encodeChar_ascii small, List.singleton_append, List.splitOn_cons_eq_if_modifyHead,
        List.splitOn_cons_eq_if_modifyHead, ih]
      simp [encode]
    · have absent : byte ascii ∉ String.utf8EncodeChar char := fun member => here ((mem_encodeChar small).mp member)
      rw [split, splitOn_append_of_notMem absent, ih, List.splitOn_cons_eq_if_modifyHead,
        beq_false_of_ne here]
      cases chars.splitOn ascii <;> simp [encode]

end Utf8
