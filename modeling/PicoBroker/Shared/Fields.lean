import Mathlib.Algebra.Group.Nat.Even
import Mathlib.Data.List.Induction

set_option autoImplicit false

namespace Fields

def slice (bytes : List UInt8) (start stop : Nat) : List UInt8 := (bytes.drop start).take (stop - start)

def bigEndian : Nat → Nat → List UInt8
  | 0, _ => []
  | width + 1, value => bigEndian width (value / 256) ++ [UInt8.ofNat value]

def ofBigEndian (bytes : List UInt8) : Nat := bytes.foldl (fun value byte => value * 256 + byte.toNat) 0

def slice? (bytes : List UInt8) (start stop : Nat) : Option (List UInt8) :=
  if start ≤ stop ∧ stop ≤ bytes.length then some (slice bytes start stop) else none

def bytesAt? (bytes : List UInt8) : Nat → Nat → Option (List UInt8)
  | _, 0 => some []
  | start, count + 1 => do
      let byte ← bytes[start]?
      let later ← bytesAt? bytes (start + 1) count
      some (byte :: later)

def place? (buffer : List UInt8) (start : Nat) (bytes : List UInt8) : Option (List UInt8) :=
  if start + bytes.length ≤ buffer.length then
    some (buffer.take start ++ bytes ++ buffer.drop (start + bytes.length))
  else none

def placeAll? (buffer : List UInt8) (fields : List (Nat × List UInt8)) : Option (List UInt8) :=
  fields.foldlM (fun buffer field => place? buffer field.1 field.2) buffer

def Adjacent : Nat → List (Nat × List UInt8) → Prop
  | _, [] => True
  | start, field :: later => field.1 = start ∧ Adjacent (start + field.2.length) later

def littleEndian (width value : Nat) : List UInt8 := (bigEndian width value).reverse

def ofLittleEndian (bytes : List UInt8) : Nat := ofBigEndian bytes.reverse

theorem slice_append_drop (bytes : List UInt8) {start stop : Nat} (ordered : start ≤ stop) :
    slice bytes start stop ++ bytes.drop stop = bytes.drop start := by
  have dropped : bytes.drop stop = (bytes.drop start).drop (stop - start) := by
    rw [List.drop_drop, Nat.add_sub_cancel' ordered]
  rw [dropped]
  exact List.take_append_drop ..

theorem length_slice {bytes : List UInt8} {start stop : Nat} (within : stop ≤ bytes.length) :
    (slice bytes start stop).length = stop - start := by
  simp only [slice, List.length_take, List.length_drop]
  omega

theorem slice_append_left {bytes more : List UInt8} {start stop : Nat} (within : stop ≤ bytes.length) :
    slice (bytes ++ more) start stop = slice bytes start stop := by
  rcases Nat.le_total start bytes.length with inside | outside
  · rw [slice, slice, List.drop_append_of_le_length inside,
      List.take_append_of_le_length (by rw [List.length_drop]; omega)]
  · simp [slice, Nat.sub_eq_zero_of_le (Nat.le_trans within outside)]

theorem slice_set_of_le {bytes : List UInt8} {index start stop : Nat} {byte : UInt8} (behind : stop ≤ index) :
    slice (bytes.set index byte) start stop = slice bytes start stop := by
  rcases Nat.lt_or_ge index start with before | after
  · simp [slice, Nat.sub_eq_zero_of_le (Nat.le_trans behind (Nat.le_of_lt before))]
  · rw [slice, slice, List.drop_set, if_neg (by omega), List.take_set_of_le (by omega)]

theorem slice_one {bytes : List UInt8} {index : Nat} (within : index < bytes.length) :
    slice bytes index (index + 1) = [bytes.getD index 0] := by
  rw [slice, Nat.add_sub_cancel_left, List.drop_eq_getElem_cons within, List.take_succ_cons, List.take_zero]
  simp [within]

theorem slice_end {bytes : List UInt8} {start : Nat} : slice bytes start bytes.length = bytes.drop start := by
  rw [slice, List.take_of_length_le (by simp)]

theorem slice_between {front field behind : List UInt8} {start stop : Nat} (starts : front.length = start)
    (stops : start + field.length = stop) : slice (front ++ field ++ behind) start stop = field := by
  subst starts stops
  rw [slice, List.append_assoc, List.drop_left, Nat.add_sub_cancel_left, List.take_left]

theorem slice?_of_le {bytes : List UInt8} {start stop : Nat} (ordered : start ≤ stop) (within : stop ≤ bytes.length) :
    slice? bytes start stop = some (slice bytes start stop) := if_pos ⟨ordered, within⟩

theorem bytesAt?_of_le {bytes : List UInt8} {start count : Nat} (within : start + count ≤ bytes.length) :
    bytesAt? bytes start count = some (slice bytes start (start + count)) := by
  induction count generalizing start with
  | zero => simp [bytesAt?, slice]
  | succ count ih =>
    have inside : start < bytes.length := by omega
    have later := ih (show start + 1 + count ≤ bytes.length by omega)
    have first : slice bytes start (start + (count + 1)) =
        bytes.getD start 0 :: slice bytes (start + 1) (start + 1 + count) := by
      rw [slice, slice, List.drop_eq_getElem_cons inside, Nat.add_sub_cancel_left, Nat.add_sub_cancel_left,
        List.take_succ_cons]
      simp [inside]
    simp [bytesAt?, later, first, inside]

-- Fields that follow each other are written one behind the other.
theorem place?_append {written rest bytes : List UInt8} {start : Nat} (behind : written.length = start)
    (fits : bytes.length ≤ rest.length) :
    place? (written ++ rest) start bytes = some (written ++ bytes ++ rest.drop bytes.length) := by
  subst behind
  rw [place?, if_pos (by rw [List.length_append]; omega), List.take_left, List.drop_append, Nat.add_sub_cancel_left,
    List.drop_of_length_le (Nat.le_add_right ..), List.nil_append]

theorem placeAll?_adjacent {written front behind : List UInt8} {fields : List (Nat × List UInt8)}
    (adjacent : Adjacent written.length fields) (filled : (fields.flatMap Prod.snd).length = front.length) :
    placeAll? (written ++ (front ++ behind)) fields = some (written ++ fields.flatMap Prod.snd ++ behind) := by
  induction fields generalizing written front with
  | nil =>
    obtain rfl : front = [] := List.eq_nil_of_length_eq_zero filled.symm
    simp [placeAll?]
  | cons field later ih =>
    obtain ⟨begins, follow⟩ := adjacent
    rw [List.flatMap_cons, List.length_append] at filled
    have placed : place? (written ++ (front ++ behind)) field.1 field.2 =
        some (written ++ field.2 ++ (front.drop field.2.length ++ behind)) := by
      rw [place?_append begins.symm (by rw [List.length_append]; omega), List.drop_append_of_le_length (by omega)]
    have rest := ih (show Adjacent (written ++ field.2).length later by rwa [List.length_append])
      (show _ = (front.drop field.2.length).length by rw [List.length_drop]; omega)
    simp only [placeAll?] at rest ⊢
    rw [List.foldlM_cons, placed, Option.bind_eq_bind, Option.bind_some, rest, List.flatMap_cons, List.append_assoc written]

@[simp] theorem length_bigEndian (width value : Nat) : (bigEndian width value).length = width := by
  induction width generalizing value with
  | zero => rfl
  | succ width ih => simp [bigEndian, ih]

theorem ofBigEndian_append (bytes : List UInt8) (byte : UInt8) :
    ofBigEndian (bytes ++ [byte]) = ofBigEndian bytes * 256 + byte.toNat := by
  simp [ofBigEndian]

theorem ofBigEndian_bigEndian (width value : Nat) :
    ofBigEndian (bigEndian width value) = value % 256 ^ width := by
  induction width generalizing value with
  | zero => simp [bigEndian, ofBigEndian, Nat.mod_one]
  | succ width ih =>
    have wider : 256 ^ (width + 1) = 256 * 256 ^ width := Nat.pow_succ'
    rw [bigEndian, ofBigEndian_append, ih, UInt8.toNat_ofNat', wider, Nat.mod_mul]
    omega

theorem bigEndian_ofBigEndian {bytes : List UInt8} {width : Nat} (sized : bytes.length = width) :
    bigEndian width (ofBigEndian bytes) = bytes := by
  subst sized
  induction bytes using List.reverseRecOn with
  | nil => rfl
  | append_singleton front byte ih =>
    have small := byte.toNat_lt
    have high : (ofBigEndian front * 256 + byte.toNat) / 256 = ofBigEndian front := by omega
    have low : UInt8.ofNat (ofBigEndian front * 256 + byte.toNat) = byte := by
      apply UInt8.toNat_inj.mp
      rw [UInt8.toNat_ofNat']
      omega
    rw [ofBigEndian_append, List.length_append, List.length_singleton, bigEndian, high, low, ih]

theorem bigEndian_mod (width value : Nat) : bigEndian width (value % 256 ^ width) = bigEndian width value := by
  rw [← ofBigEndian_bigEndian]
  exact bigEndian_ofBigEndian (length_bigEndian width value)

theorem ofBigEndian_lt (bytes : List UInt8) : ofBigEndian bytes < 256 ^ bytes.length := by
  have same := ofBigEndian_bigEndian bytes.length (ofBigEndian bytes)
  rw [bigEndian_ofBigEndian rfl] at same
  rw [same]
  exact Nat.mod_lt _ (Nat.pow_pos (by decide))

@[simp] theorem length_littleEndian (width value : Nat) : (littleEndian width value).length = width := by
  simp [littleEndian]

theorem ofLittleEndian_littleEndian (width value : Nat) :
    ofLittleEndian (littleEndian width value) = value % 256 ^ width := by
  rw [ofLittleEndian, littleEndian, List.reverse_reverse, ofBigEndian_bigEndian]

theorem littleEndian_ofLittleEndian {bytes : List UInt8} {width : Nat} (sized : bytes.length = width) :
    littleEndian width (ofLittleEndian bytes) = bytes := by
  rw [littleEndian, ofLittleEndian, bigEndian_ofBigEndian (by simpa using sized), List.reverse_reverse]

theorem ofLittleEndian_lt (bytes : List UInt8) : ofLittleEndian bytes < 256 ^ bytes.length := by
  simpa [ofLittleEndian] using ofBigEndian_lt bytes.reverse

end Fields
