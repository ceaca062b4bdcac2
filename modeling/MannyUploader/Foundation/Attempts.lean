import MannyUploader.Foundation.Checked
import MannyUploader.Foundation.LittleEndian

/-! Code that returns, fails with an error of its own, or panics. What the code leaves unchecked
panics here when it leaves its range, so that the absence of panics is a statement. -/
namespace MannyUploader.Foundation

inductive Fault (ε : Type)
  | failed (error : ε)
  | panicked
deriving DecidableEq, Repr

abbrev Attempt (ε α : Type) := Except (Fault ε) α

variable {ε α β : Type}

/-- A value under a condition, and a fault without it. -/
def guarded (condition : Prop) [Decidable condition] (value : α) (fault : Fault ε) :
    Attempt ε α :=
  if condition then .ok value else .error fault

section operations
variable (error : ε) (terms : List Nat) (a b : Nat) (bytes : List UInt8) (first stop : Nat)

/-- `if condition { return Err(error) }`. -/
def failIf (condition : Prop) [Decidable condition] : Attempt ε Unit :=
  guarded (¬condition) () (.failed error)

/-- A total of 64 bits, if there is one. -/
def checkedSum : Option Nat := if terms.sum < 2 ^ 64 then some terms.sum else none

def sumOr : Attempt ε Nat := guarded (terms.sum < 2 ^ 64) terms.sum (.failed error)
def productOr : Attempt ε Nat := guarded (a * b < 2 ^ 64) (a * b) (.failed error)
def differenceOr : Attempt ε Nat := guarded (b ≤ a) (a - b) (.failed error)

/-- An addition that nothing checks. -/
def sum : Attempt ε Nat := guarded (terms.sum < 2 ^ 64) terms.sum .panicked
def difference : Attempt ε Nat := guarded (b ≤ a) (a - b) .panicked

/-- An `i32` as a counter. -/
def count32 : Attempt ε Nat := guarded (a + 1 < 2 ^ 31) (a + 1) .panicked

/-- `bytes.get(first..stop).ok_or(error)`. -/
def partOr : Attempt ε (List UInt8) :=
  guarded (first ≤ stop ∧ stop ≤ bytes.length) (slice bytes first (stop - first)) (.failed error)

/-- `&bytes[first..stop]`. -/
def part : Attempt ε (List UInt8) :=
  guarded (first ≤ stop ∧ stop ≤ bytes.length) (slice bytes first (stop - first)) .panicked

/-- `Vec::try_reserve_exact` takes no more than `isize::MAX`. -/
def reserveOr : Attempt ε Unit := guarded (a < 2 ^ 63) () (.failed error)

end operations

section inversion
variable {condition : Prop} [Decidable condition]

theorem guarded_ok {value result : α} {fault : Fault ε} :
    guarded condition value fault = .ok result ↔ condition ∧ result = value := by
  unfold guarded
  split
  next holds => simp [holds, eq_comm]
  next fails => simp [fails]

theorem failIf_ok {error : ε} : failIf error condition = .ok () ↔ ¬condition := by
  simp [failIf, guarded_ok]

theorem checkedSum_some {terms : List Nat} {total : Nat} :
    checkedSum terms = some total ↔ terms.sum < 2 ^ 64 ∧ terms.sum = total := by
  unfold checkedSum
  split
  next holds =>
    rw [Option.some_inj]
    exact (and_iff_right holds).symm
  next fails =>
    constructor
    · intro none
      cases none
    · intro total
      exact absurd total.1 fails

end inversion

/-! How the operations return. -/

section forward
variable {error : ε} {terms : List Nat} {x offset width stop : Nat}
  {before middle after rest : List UInt8}

theorem ok_bind {first : Attempt ε α} {value : α} (h : first = .ok value)
    (next : α → Attempt ε β) : (first >>= next) = next value := by
  rw [h]
  rfl

theorem failIf_of {condition : Prop} [Decidable condition] (h : ¬condition) :
    failIf error condition = .ok () := failIf_ok.mpr h

theorem partOr_found (here : offset = before.length)
    (whole : stop = offset + middle.length) :
    (partOr error (before ++ (middle ++ after)) offset stop : Attempt ε (List UInt8)) =
      .ok middle := by
  refine guarded_ok.mpr ⟨⟨by omega, ?_⟩, ?_⟩
  · simp only [List.length_append]
    omega
  · rw [slice_found here (by omega)]

theorem part_tail (here : offset = before.length) :
    (part (before ++ rest) offset (before ++ rest).length : Attempt ε (List UInt8)) =
      .ok rest := by
  refine guarded_ok.mpr ⟨⟨?_, Nat.le_refl _⟩, ?_⟩
  · rw [List.length_append]
    omega
  · rw [slice, here, List.drop_left, List.length_append, Nat.add_sub_cancel_left, List.take_length]

theorem difference_of {b : Nat} (within : b ≤ x) : (difference x b : Attempt ε Nat) = .ok (x - b) :=
  guarded_ok.mpr ⟨within, rfl⟩

theorem sumOr_of (fits : terms.sum < 2 ^ 64) :
    (sumOr error terms : Attempt ε Nat) = .ok terms.sum := guarded_ok.mpr ⟨fits, rfl⟩

theorem productOr_one (fits : x < 2 ^ 64) :
    (productOr error 1 x : Attempt ε Nat) = .ok x := by
  refine guarded_ok.mpr ⟨?_, (Nat.one_mul x).symm⟩
  rwa [Nat.one_mul]

theorem sum_of (fits : terms.sum < 2 ^ 64) :
    (sum terms : Attempt ε Nat) = .ok terms.sum := guarded_ok.mpr ⟨fits, rfl⟩

end forward

/-- It returns or fails, and never panics. -/
def NeverPanics (attempt : Attempt ε α) : Prop := attempt ≠ .error .panicked

namespace NeverPanics
variable {condition : Prop} [Decidable condition] {error : ε}

@[simp] theorem ok (value : α) : NeverPanics (.ok value : Attempt ε α) := by simp [NeverPanics]

@[simp] theorem failed (error : ε) : NeverPanics (.error (.failed error) : Attempt ε α) := by
  simp [NeverPanics]

@[simp] theorem panicked : ¬NeverPanics (.error .panicked : Attempt ε α) := by
  simp [NeverPanics]

@[simp] theorem bind_iff {first : Attempt ε α} {next : α → Attempt ε β} :
    NeverPanics (first >>= next) ↔
      NeverPanics first ∧ ∀ value, first = .ok value → NeverPanics (next value) := by
  cases first with
  | error fault => cases fault <;> simp [bind, Except.bind, NeverPanics]
  | ok value => simp [bind, Except.bind]

@[simp] theorem ite_iff {first second : Attempt ε α} :
    NeverPanics (if condition then first else second) ↔
      (condition → NeverPanics first) ∧ (¬condition → NeverPanics second) := by
  split <;> simp [*]

@[simp] theorem guarded_failed (value : α) :
    NeverPanics (guarded condition value (.failed error)) := by simp [guarded]

@[simp] theorem guarded_panicked (value : α) :
    NeverPanics (guarded condition value (.panicked : Fault ε)) ↔ condition := by
  simp [guarded]

/-! What is checked cannot panic, and the rest does not within its range. -/

variable (terms : List Nat) (a b : Nat) (bytes : List UInt8) (first stop : Nat)

@[simp] theorem failIf : NeverPanics (Foundation.failIf error condition) := guarded_failed _
@[simp] theorem sumOr : NeverPanics (Foundation.sumOr error terms) := guarded_failed _
@[simp] theorem productOr : NeverPanics (Foundation.productOr error a b) := guarded_failed _
@[simp] theorem differenceOr : NeverPanics (Foundation.differenceOr error a b) := guarded_failed _
@[simp] theorem partOr : NeverPanics (Foundation.partOr error bytes first stop) := guarded_failed _
@[simp] theorem reserveOr : NeverPanics (Foundation.reserveOr error a) := guarded_failed _

@[simp] theorem sum :
    NeverPanics (Foundation.sum terms : Attempt ε Nat) ↔ terms.sum < 2 ^ 64 := guarded_panicked _

@[simp] theorem difference :
    NeverPanics (Foundation.difference a b : Attempt ε Nat) ↔ b ≤ a := guarded_panicked _

@[simp] theorem count32 :
    NeverPanics (Foundation.count32 a : Attempt ε Nat) ↔ a + 1 < 2 ^ 31 := guarded_panicked _

@[simp] theorem part : NeverPanics (Foundation.part bytes first stop : Attempt ε (List UInt8)) ↔
    first ≤ stop ∧ stop ≤ bytes.length := guarded_panicked _

end NeverPanics

end MannyUploader.Foundation
