import Mathlib.Algebra.Ring.Int.Defs
import Mathlib.Algebra.Ring.Nat
import Mathlib.Data.List.Basic

/-! Fixed-width little-endian numbers, cutting a record at known offsets, and the checksum that
such records carry. -/
namespace MannyUploader.Foundation

def toLittle : (width : Nat) → Nat → List UInt8
  | 0, _ => []
  | width + 1, n => UInt8.ofNat n :: toLittle width (n / 256)

def ofLittle : List UInt8 → Nat
  | [] => 0
  | byte :: bytes => byte.toNat + 256 * ofLittle bytes

/-- The two's complement reading of a number of `width` bytes. -/
def signed (width n : Nat) : Int :=
  if n < 256 ^ width / 2 then n else (n : Int) - 256 ^ width

@[simp] theorem length_toLittle (width n : Nat) : (toLittle width n).length = width := by
  induction width generalizing n with
  | zero => rfl
  | succ width ih => simp [toLittle, ih]

theorem ofLittle_toLittle {width n : Nat} (fits : n < 256 ^ width) :
    ofLittle (toLittle width n) = n := by
  induction width generalizing n with
  | zero => simp only [Nat.pow_zero, Nat.lt_one_iff] at fits; simp [toLittle, ofLittle, fits]
  | succ width ih =>
    have rest : n / 256 < 256 ^ width := by
      rw [Nat.div_lt_iff_lt_mul (by decide)]
      rwa [Nat.pow_succ] at fits
    have low : (UInt8.ofNat n).toNat = n % 256 := UInt8.toNat_ofNat'
    rw [toLittle, ofLittle, ih rest, low]
    omega

theorem toLittle_ofLittle (bytes : List UInt8) :
    toLittle bytes.length (ofLittle bytes) = bytes := by
  induction bytes with
  | nil => rfl
  | cons byte bytes ih =>
    have small : byte.toNat < 256 := byte.toNat_lt
    rw [List.length_cons, toLittle, ofLittle, Nat.add_mul_div_left _ _ (by decide),
      Nat.div_eq_of_lt small, Nat.zero_add, ih]
    congr 1
    apply UInt8.toNat_inj.mp
    rw [UInt8.toNat_ofNat']
    omega

theorem ofLittle_lt (bytes : List UInt8) : ofLittle bytes < 256 ^ bytes.length := by
  induction bytes with
  | nil => simp [ofLittle]
  | cons byte bytes ih =>
    have small : byte.toNat < 256 := byte.toNat_lt
    rw [List.length_cons, ofLittle, Nat.pow_succ]
    omega

/-- `length` bytes of a record from an offset on. -/
def slice (bytes : List UInt8) (offset length : Nat) : List UInt8 :=
  (bytes.drop offset).take length

section slice
variable (first rest : List UInt8) {offset length : Nat}

theorem slice_behind (inner : Nat) (behind : offset = first.length + inner) :
    slice (first ++ rest) offset length = slice rest inner length := by
  rw [slice, slice, behind, List.drop_append, List.drop_eq_nil_of_le (Nat.le_add_right _ _),
    Nat.add_sub_cancel_left, List.nil_append]

theorem slice_front (h : first.length = length) : slice (first ++ rest) 0 length = first := by
  rw [slice, List.drop_zero, ← h, List.take_left]

/-- Adjacent slices are one. -/
theorem slice_join (bytes : List UInt8) (offset length length' : Nat) :
    slice bytes offset length ++ slice bytes (offset + length) length' =
      slice bytes offset (length + length') := by
  rw [slice, slice, slice, List.take_add, List.drop_drop]

theorem slice_drop (bytes : List UInt8) (offset length : Nat) :
    slice bytes offset length ++ bytes.drop (offset + length) = bytes.drop offset := by
  rw [slice, ← List.drop_drop, List.take_append_drop]

theorem length_slice {bytes : List UInt8} {offset length : Nat}
    (inside : offset + length ≤ bytes.length) : (slice bytes offset length).length = length := by
  rw [slice, List.length_take, List.length_drop]
  omega

/-- A slice of a slice. -/
theorem slice_slice (bytes : List UInt8) {outer width offset length : Nat}
    (fits : offset + length ≤ width) :
    slice (slice bytes outer width) offset length = slice bytes (outer + offset) length := by
  rw [slice, slice, slice, List.drop_take, List.take_take, List.drop_drop,
    Nat.min_eq_left (by omega)]

theorem take_slice (bytes : List UInt8) (offset : Nat) {width length : Nat}
    (fits : length ≤ width) :
    (slice bytes offset width).take length = slice bytes offset length := by
  rw [slice, slice, List.take_take, Nat.min_eq_left fits]

/-- What stands in the first bytes stands there whatever follows. -/
theorem slice_take (bytes : List UInt8) {count offset length : Nat}
    (fits : offset + length ≤ count) :
    slice (bytes.take count) offset length = slice bytes offset length := by
  rw [slice, slice, List.drop_take, List.take_take, Nat.min_eq_left (by omega)]

theorem slice_front_append {front tail : List UInt8} {offset width : Nat}
    (inside : offset + width ≤ front.length) :
    slice (front ++ tail) offset width = slice front offset width := by
  rw [slice, slice, List.drop_append_of_le_length (by omega), List.take_append_of_le_length]
  rw [List.length_drop]
  omega

theorem slice_found {before middle after : List UInt8} {offset width : Nat}
    (here : offset = before.length) (whole : width = middle.length) :
    slice (before ++ (middle ++ after)) offset width = middle := by
  rw [slice_behind before _ 0 here, slice_front middle after whole.symm]

/-- A number is written as it was read. -/
theorem toLittle_slice {bytes : List UInt8} {offset width n : Nat}
    (inside : offset + width ≤ bytes.length) (read : ofLittle (slice bytes offset width) = n) :
    toLittle width n = slice bytes offset width := by
  have whole := toLittle_ofLittle (slice bytes offset width)
  rw [length_slice inside, read] at whole
  exact whole

end slice

/-- CRC-32, a bit at a time. -/
def crc32 (bytes : List UInt8) : UInt32 :=
  ~~~(bytes.foldl (fun crc byte => (List.range 8).foldl
    (fun crc _ => if crc &&& 1 = 1 then (crc >>> 1) ^^^ 0xEDB88320 else crc >>> 1)
    (crc ^^^ byte.toUInt32)) 0xFFFFFFFF)

end MannyUploader.Foundation
