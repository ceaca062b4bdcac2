import Mathlib.Algebra.Ring.Int.Defs
import Mathlib.Algebra.Ring.Nat

/-! Fallible steps: the inversion of a sequence, and the checked increments of the
fixed-width counters. -/
namespace MannyUploader.Foundation

/-- A sequence of two fallible steps succeeds when both do. -/
theorem bind_error {first : Except ε α} {next : α → Except ε β} {error : ε}
    (h : (do let value ← first; next value) = .error error) :
    first = .error error ∨ ∃ value, first = .ok value ∧ next value = .error error := by
  cases first with
  | error found => exact .inl (by simpa [bind, Except.bind] using h)
  | ok value => exact .inr ⟨value, rfl, h⟩

theorem bind_ok {first : Except ε α} {next : α → Except ε β} {result : β}
    (h : (first >>= next) = .ok result) : ∃ value, first = .ok value ∧ next value = .ok result := by
  cases first with
  | error error => simp [bind, Except.bind] at h
  | ok value => exact ⟨value, rfl, h⟩

/-- A loop that fails does so in one of its rounds. -/
theorem foldlM_error {round : σ → α → Except ε σ} {state : σ} {items : List α} {error : ε}
    (h : items.foldlM round state = .error error) :
    ∃ state item, round state item = .error error := by
  induction items generalizing state with
  | nil => simp [pure, Except.pure] at h
  | cons item rest ih =>
    rw [List.foldlM_cons] at h
    rcases bind_error h with here | ⟨next, -, later⟩
    · exact ⟨state, item, here⟩
    · exact ih later

/-- What every round keeps holds when the loop is through. -/
theorem foldlM_ok {round : σ → α → Except ε σ} {items : List α} {state result : σ} (P : σ → Prop)
    (step : ∀ state item next, P state → round state item = .ok next → P next) (start : P state)
    (h : items.foldlM round state = .ok result) : P result := by
  induction items generalizing state with
  | nil =>
    cases h
    exact start
  | cons item rest ih =>
    rw [List.foldlM_cons] at h
    obtain ⟨next, here, later⟩ := bind_ok h
    exact ih (step state item next start here) later

/-- An error that neither step can end in is none of their sequence. -/
theorem bind_ne_error {first : Except ε α} {next : α → Except ε β} {error : ε}
    (h : first ≠ .error error) (hnext : ∀ value, next value ≠ .error error) :
    (first >>= next) ≠ .error error := by
  cases first with
  | error e => exact fun same => h (congrArg Except.error (Except.error.inj same))
  | ok value => exact hnext value

/-- A step that can fail in one way only. -/
def FailsOnlyWith (step : Except ε α) (error : ε) : Prop := ∀ e, step = .error e → e = error

namespace FailsOnlyWith
variable {error : ε}

theorem ok (value : α) : FailsOnlyWith (.ok value) error := nofun

theorem error_self : FailsOnlyWith (.error error : Except ε α) error := by
  intro e h
  cases h
  rfl

theorem bind {first : Except ε α} {next : α → Except ε β} (h : FailsOnlyWith first error)
    (hnext : ∀ value, FailsOnlyWith (next value) error) : FailsOnlyWith (first >>= next) error := by
  cases first with
  | error e => obtain rfl := h e rfl; exact error_self
  | ok value => exact hnext value

theorem ite {c : Prop} [Decidable c] {first second : Except ε α}
    (h : FailsOnlyWith first error) (h' : FailsOnlyWith second error) :
    FailsOnlyWith (if c then first else second) error := by
  split
  · exact h
  · exact h'

end FailsOnlyWith

/-- `u32::checked_add(1)`. -/
def checkedSucc32 (n : UInt32) : Option UInt32 :=
  if n.toNat + 1 < 2 ^ 32 then some (n + 1) else none

/-- `u64::checked_add(1)`. -/
def checkedSucc64 (n : UInt64) : Option UInt64 :=
  if n.toNat + 1 < 2 ^ 64 then some (n + 1) else none

/-- `u64::saturating_add(1)`. -/
def saturatingSucc64 (n : UInt64) : UInt64 := (checkedSucc64 n).getD n

theorem toNat_of_checkedSucc32 {n m : UInt32} (h : checkedSucc32 n = some m) :
    m.toNat = n.toNat + 1 := by
  unfold checkedSucc32 at h
  split at h
  · rename_i bound
    cases h
    rw [UInt32.toNat_add]
    exact Nat.mod_eq_of_lt bound
  · cases h

theorem toNat_of_checkedSucc64 {n m : UInt64} (h : checkedSucc64 n = some m) :
    m.toNat = n.toNat + 1 := by
  unfold checkedSucc64 at h
  split at h
  · rename_i bound
    cases h
    rw [UInt64.toNat_add]
    exact Nat.mod_eq_of_lt bound
  · cases h

theorem toNat_ofNat_add_one {n : Nat} (h : n + 1 < 2 ^ 64) :
    (UInt64.ofNat n + 1).toNat = n + 1 := by
  rw [UInt64.toNat_add, UInt64.toNat_ofNat_of_lt' (Nat.lt_of_succ_lt h)]
  exact Nat.mod_eq_of_lt h

end MannyUploader.Foundation
