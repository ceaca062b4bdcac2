import Mathlib.Algebra.Ring.Nat
import Mathlib.Data.String.Basic

/-! Numbers in a fixed number of decimal digits. Texts of one length are ordered by what stands
first in them, so such numbers are ordered as their digits are. -/
namespace MannyUploader.Foundation

/-- The last digits of a number, with zeros in front of a shorter one. -/
def decimalDigits : (width value : Nat) → List Char
  | 0, _ => []
  | width + 1, value => decimalDigits width (value / 10) ++ [Nat.digitChar (value % 10)]

@[simp] theorem length_decimalDigits (width value : Nat) :
    (decimalDigits width value).length = width := by
  induction width generalizing value with
  | zero => rfl
  | succ width ih => simp [decimalDigits, ih]

theorem decimalDigits_zero (width : Nat) : decimalDigits width 0 = List.replicate width '0' := by
  induction width with
  | zero => rfl
  | succ width ih =>
    rw [decimalDigits, Nat.zero_div, ih, List.replicate_succ']
    rfl

/-- A number with leading zeros up to a width that it does not exceed. -/
theorem replicate_toDigits {width value : Nat} (positive : 0 < width) (short : value < 10 ^ width) :
    List.replicate (width - (Nat.toDigits 10 value).length) '0' ++ Nat.toDigits 10 value =
      decimalDigits width value := by
  induction width generalizing value with
  | zero => exact absurd positive (Nat.lt_irrefl 0)
  | succ width ih =>
    by_cases one : value < 10
    · rw [Nat.toDigits_of_lt_base one, decimalDigits, Nat.div_eq_of_lt one, Nat.mod_eq_of_lt one,
        decimalDigits_zero]
      rfl
    · have quotient : value / 10 < 10 ^ width := by
        rw [Nat.pow_succ] at short
        omega
      have more : 0 < width := by
        rcases Nat.eq_zero_or_pos width with none | some
        · rw [none] at quotient
          omega
        · exact some
      rw [Nat.toDigits_of_base_le (by decide) (by omega), decimalDigits, ← ih more quotient,
        List.length_append, List.length_singleton, Nat.add_sub_add_right, List.append_assoc]

theorem digitChar_lt {a b : Nat} (digitA : a < 10) (digitB : b < 10) :
    Nat.digitChar a < Nat.digitChar b ↔ a < b := by
  have all : ∀ a b : Fin 10, Nat.digitChar a.val < Nat.digitChar b.val ↔ a.val < b.val := by decide
  exact all ⟨a, digitA⟩ ⟨b, digitB⟩

theorem digitChar_inj {a b : Nat} (digitA : a < 10) (digitB : b < 10) :
    Nat.digitChar a = Nat.digitChar b ↔ a = b := by
  have all : ∀ a b : Fin 10, Nat.digitChar a.val = Nat.digitChar b.val ↔ a.val = b.val := by decide
  exact all ⟨a, digitA⟩ ⟨b, digitB⟩

section order
variable {first second restA restB : List Char}

/-- Of texts whose heads have one length, the heads decide first. -/
theorem append_lt_append (same : first.length = second.length) :
    first ++ restA < second ++ restB ↔ first < second ∨ first = second ∧ restA < restB := by
  induction first generalizing second with
  | nil =>
    have none := List.eq_nil_of_length_eq_zero same.symm
    simp [none]
  | cons a first ih =>
    cases second with
    | nil => cases same
    | cons b second =>
      have shorter := ih (Nat.succ.inj same)
      simp only [List.cons_append, List.cons_lt_cons_iff, shorter, List.cons.injEq]
      tauto

end order

section numbers
variable {width a b : Nat} (shortA : a < 10 ^ width) (shortB : b < 10 ^ width)
include shortA shortB

theorem decimalDigits_inj : decimalDigits width a = decimalDigits width b ↔ a = b := by
  induction width generalizing a b with
  | zero =>
    simp only [decimalDigits, true_iff]
    omega
  | succ width ih =>
    rw [Nat.pow_succ] at shortA shortB
    have heads := ih (a := a / 10) (b := b / 10) (by omega) (by omega)
    have tails := digitChar_inj (Nat.mod_lt a (by decide)) (Nat.mod_lt b (by decide))
    constructor
    · intro same
      have pieces := List.append_inj' same rfl
      have head := heads.mp pieces.1
      have tail := tails.mp (List.cons.inj pieces.2).1
      omega
    · exact congrArg _

theorem decimalDigits_lt : decimalDigits width a < decimalDigits width b ↔ a < b := by
  induction width generalizing a b with
  | zero =>
    simp only [decimalDigits, List.lt_irrefl, false_iff]
    omega
  | succ width ih =>
    rw [Nat.pow_succ] at shortA shortB
    have heads := ih (a := a / 10) (b := b / 10) (by omega) (by omega)
    have same : decimalDigits width (a / 10) = decimalDigits width (b / 10) ↔ a / 10 = b / 10 :=
      decimalDigits_inj (by omega) (by omega)
    have tails := digitChar_lt (Nat.mod_lt a (by decide)) (Nat.mod_lt b (by decide))
    rw [decimalDigits, decimalDigits, append_lt_append (by simp), heads, same,
      List.cons_lt_cons_iff, tails]
    simp only [List.lt_irrefl, and_false, or_false]
    omega

/-- A number in front of one separator decides before what stands behind it. -/
theorem decimalDigits_field_lt (separator : Char) (restA restB : List Char) :
    decimalDigits width a ++ separator :: restA < decimalDigits width b ++ separator :: restB ↔
      a < b ∨ a = b ∧ restA < restB := by
  rw [append_lt_append (by simp), decimalDigits_lt shortA shortB, decimalDigits_inj shortA shortB,
    List.cons_lt_cons_iff]
  simp

end numbers

end MannyUploader.Foundation
