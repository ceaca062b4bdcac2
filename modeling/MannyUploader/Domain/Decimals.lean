import Mathlib.Data.List.Basic
import MannyUploader.Domain.Receipts

/-! Decimal numbers as bytes. -/
namespace MannyUploader.Domain

/-- A digit is one byte. -/
theorem utf8EncodeChar_digit {c : Char} (digit : c.isDigit = true) :
    ∃ byte, String.utf8EncodeChar c = [byte] ∧ isAsciiDigit byte = true := by
  simp only [Char.isDigit, Bool.and_eq_true, decide_eq_true_eq, UInt32.le_iff_toNat_le] at digit
  have low : 48 ≤ c.val.toNat := digit.1
  have high : c.val.toNat ≤ 57 := digit.2
  have size : c.utf8Size = 1 := by
    rw [Char.utf8Size, if_pos (UInt32.le_iff_toNat_le.mpr (Nat.le_trans high (by decide)))]
  refine ⟨_, String.utf8EncodeChar_eq_singleton size, ?_⟩
  simp only [isAsciiDigit, Bool.and_eq_true, decide_eq_true_eq, UInt8.le_iff_toNat_le]
  rw [UInt32.toNat_toUInt8, Nat.mod_eq_of_lt (by omega)]
  exact ⟨low, high⟩

theorem digit_of_decimal {n : Nat} {c : Char} (member : c ∈ Nat.toDigits 10 n) :
    c.isDigit = true :=
  Nat.isDigit_of_mem_toDigits (by decide) (by decide) member

theorem utf8_digits (n : Nat) : ∀ byte ∈ utf8 (toString n), isAsciiDigit byte = true := by
  rw [Nat.toString_eq_ofList_toDigits, utf8_ofList]
  intro byte member
  obtain ⟨c, digit, member⟩ := List.mem_flatMap.mp member
  obtain ⟨only, eq, one⟩ := utf8EncodeChar_digit (digit_of_decimal digit)
  rw [eq, List.mem_singleton] at member
  exact member ▸ one

/-- A decimal number is visible. -/
theorem utf8_decimal (n : Nat) : ∀ byte ∈ utf8 (toString n), 0x20 ≤ byte := by
  intro byte member
  have digit := utf8_digits n byte member
  simp only [isAsciiDigit, Bool.and_eq_true, decide_eq_true_eq] at digit
  exact UInt8.le_trans (by decide) digit.1

theorem length_utf8_decimal {n k : Nat} (positive : 0 < k) (bound : n < 10 ^ k) :
    (utf8 (toString n)).length ≤ k := by
  have single : ∀ chars : List Char, (∀ c ∈ chars, c.isDigit = true) →
      (chars.flatMap String.utf8EncodeChar).length = chars.length := by
    intro chars digits
    induction chars with
    | nil => rfl
    | cons c rest ih =>
      obtain ⟨byte, eq, -⟩ := utf8EncodeChar_digit (digits c (by simp))
      rw [List.flatMap_cons, List.length_append, eq, ih fun d member => digits d (by simp [member])]
      simp [Nat.add_comm]
  rw [Nat.toString_eq_ofList_toDigits, utf8_ofList, single _ fun c => digit_of_decimal]
  exact (Nat.length_toDigits_le_iff (by decide) positive).mpr bound

end MannyUploader.Domain
