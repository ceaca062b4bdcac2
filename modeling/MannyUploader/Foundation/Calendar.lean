import Mathlib.Algebra.Ring.Nat
import Mathlib.Logic.Function.Iterate

/-! The proleptic Gregorian calendar from the first of January of the year 1 on: its dates, the
day after a date, and the number of days before one. Dates are ordered as their numbers are. -/
namespace MannyUploader.Foundation

def isLeap (year : Nat) : Prop := year % 4 = 0 ∧ (year % 100 ≠ 0 ∨ year % 400 = 0)

instance (year : Nat) : Decidable (isLeap year) :=
  inferInstanceAs (Decidable (_ ∧ _))

def monthLength (year : Nat) : (month : Nat) → Nat
  | 2 => if isLeap year then 29 else 28
  | 4 | 6 | 9 | 11 => 30
  | _ => 31

def yearLength (year : Nat) : Nat := if isLeap year then 366 else 365

@[ext] structure Date where
  year : Nat
  month : Nat
  day : Nat
  year_valid : 1 ≤ year
  month_valid : 1 ≤ month ∧ month ≤ 12
  day_valid : 1 ≤ day ∧ day ≤ monthLength year month
deriving DecidableEq

/-- The days of that many whole years. -/
def daysOfYears : (years : Nat) → Nat
  | 0 => 0
  | years + 1 => daysOfYears years + yearLength (years + 1)

/-- The days of the first months of a year. -/
def daysOfMonths (year : Nat) : (months : Nat) → Nat
  | 0 => 0
  | months + 1 => daysOfMonths year months + monthLength year (months + 1)

theorem monthLength_pos (year month : Nat) : 1 ≤ monthLength year month := by
  unfold monthLength
  split
  · split <;> decide
  all_goals decide

theorem monthLength_le (year month : Nat) : monthLength year month ≤ 31 := by
  unfold monthLength
  split
  · split <;> decide
  all_goals decide

theorem daysOfMonths_year (year : Nat) : daysOfMonths year 12 = yearLength year := by
  by_cases leap : isLeap year <;> simp [daysOfMonths, monthLength, yearLength, leap]

theorem daysOfYears_closed (years : Nat) :
    daysOfYears years + years / 100 = 365 * years + years / 4 + years / 400 := by
  induction years with
  | zero => rfl
  | succ years ih =>
    rw [daysOfYears, yearLength]
    by_cases leap : isLeap (years + 1)
    · rw [if_pos leap]
      unfold isLeap at leap
      omega
    · rw [if_neg leap]
      unfold isLeap at leap
      omega

theorem daysOfYears_step {a b : Nat} (before : a < b) :
    daysOfYears a + yearLength (a + 1) ≤ daysOfYears b := by
  induction before with
  | refl => rfl
  | step before ih => exact Nat.le_trans ih (Nat.le_add_right _ _)

theorem daysOfYears_mono {a b : Nat} (within : a ≤ b) : daysOfYears a ≤ daysOfYears b := by
  induction within with
  | refl => rfl
  | step within ih => exact Nat.le_trans ih (Nat.le_add_right _ _)

theorem daysOfMonths_step (year : Nat) {a b : Nat} (before : a < b) :
    daysOfMonths year a + monthLength year (a + 1) ≤ daysOfMonths year b := by
  induction before with
  | refl => rfl
  | step before ih => exact Nat.le_trans ih (Nat.le_add_right _ _)

namespace Date

/-- The first of January after that many whole years. -/
def newYear (years : Nat) : Date where
  year := years + 1
  month := 1
  day := 1
  year_valid := Nat.le_add_left 1 years
  month_valid := ⟨Nat.le_refl 1, Nat.le_add_left 1 11⟩
  day_valid := ⟨Nat.le_refl 1, monthLength_pos _ _⟩

def first : Date := newYear 0

/-- The day after, in the next month or the next year where this one ends. -/
def next (date : Date) : Date :=
  if more : date.day < monthLength date.year date.month then
    { date with day := date.day + 1, day_valid := ⟨Nat.le_add_left 1 _, more⟩ }
  else if months : date.month < 12 then
    { year := date.year, month := date.month + 1, day := 1
      year_valid := date.year_valid, month_valid := ⟨Nat.le_add_left 1 _, months⟩
      day_valid := ⟨Nat.le_refl 1, monthLength_pos _ _⟩ }
  else
    { year := date.year + 1, month := 1, day := 1
      year_valid := Nat.le_add_left 1 _, month_valid := by decide
      day_valid := ⟨Nat.le_refl 1, monthLength_pos _ _⟩ }

/-- The number of days before a date, from the first one on. -/
def ordinal (date : Date) : Nat :=
  daysOfYears (date.year - 1) + daysOfMonths date.year (date.month - 1) + (date.day - 1)

theorem ordinal_newYear (years : Nat) : (newYear years).ordinal = daysOfYears years := rfl

theorem ordinal_first : first.ordinal = 0 := rfl

variable (date a b : Date)

theorem daysOfYears_year : daysOfYears date.year =
    daysOfYears (date.year - 1) + yearLength date.year := by
  have positive := date.year_valid
  obtain ⟨years, year⟩ := Nat.exists_eq_succ_of_ne_zero (by omega : date.year ≠ 0)
  rw [year]
  rfl

theorem daysOfMonths_month : daysOfMonths date.year date.month =
    daysOfMonths date.year (date.month - 1) + monthLength date.year date.month := by
  have positive := date.month_valid.1
  obtain ⟨months, month⟩ := Nat.exists_eq_succ_of_ne_zero (by omega : date.month ≠ 0)
  rw [month]
  rfl

theorem ordinal_next : date.next.ordinal = date.ordinal + 1 := by
  have day := date.day_valid
  have month := date.month_valid
  have months := daysOfMonths_month date
  have years := daysOfYears_year date
  unfold next
  split
  next more =>
    simp only [ordinal]
    omega
  next last =>
    split
    next more =>
      simp only [ordinal, Nat.add_sub_cancel]
      omega
    next december =>
      have twelve : date.month = 12 := by omega
      have year := daysOfMonths_year date.year
      have start : daysOfMonths (date.year + 1) (1 - 1) = 0 := rfl
      rw [twelve] at months last day
      simp only [ordinal, Nat.add_sub_cancel, twelve, start]
      omega

/-- Counting from the first date on reaches every number. -/
theorem ordinal_iterate (days : Nat) : (next^[days] first).ordinal = days := by
  induction days with
  | zero => exact ordinal_first
  | succ days ih => rw [Function.iterate_succ_apply', ordinal_next, ih]

theorem dayOfYear_lt : daysOfMonths date.year (date.month - 1) + (date.day - 1) <
    yearLength date.year := by
  have month := date.month_valid
  have day := date.day_valid
  have whole := daysOfMonths_step date.year (by omega : date.month - 1 < 12)
  rw [Nat.sub_add_cancel month.1, daysOfMonths_year] at whole
  omega

/-- The dates up to the end of a year are those with fewer days before them. -/
theorem year_le_iff (year : Nat) : date.year ≤ year ↔ date.ordinal < daysOfYears year := by
  have dayOfYear := dayOfYear_lt date
  have years := daysOfYears_year date
  constructor
  · intro inside
    have whole := daysOfYears_mono inside
    simp only [ordinal]
    omega
  · intro before
    by_contra later
    have whole := daysOfYears_mono (by omega : year ≤ date.year - 1)
    simp only [ordinal] at before
    omega

/-- By year, then month, then day. -/
def Before : Prop :=
  a.year < b.year ∨ a.year = b.year ∧
    (a.month < b.month ∨ a.month = b.month ∧ a.day < b.day)

variable {a b}

theorem ordinal_lt_of_before (before : Before a b) : a.ordinal < b.ordinal := by
  have year := a.year_valid
  have month := a.month_valid
  have day := a.day_valid
  have dayOfYear := dayOfYear_lt a
  simp only [ordinal]
  rcases before with years | ⟨years, months | ⟨months, days⟩⟩
  · have whole := daysOfYears_step (by omega : a.year - 1 < b.year - 1)
    rw [Nat.sub_add_cancel year] at whole
    omega
  · have whole := daysOfMonths_step a.year (by omega : a.month - 1 < b.month - 1)
    rw [Nat.sub_add_cancel month.1] at whole
    rw [← years]
    omega
  · rw [← years, ← months]
    omega

theorem before_total : Before a b ∨ a = b ∨ Before b a := by
  obtain ⟨yearA, monthA, dayA, _, _, _⟩ := a
  obtain ⟨yearB, monthB, dayB, _, _, _⟩ := b
  simp only [Before, Date.mk.injEq]
  omega

theorem ordinal_lt_iff : a.ordinal < b.ordinal ↔ Before a b := by
  constructor
  · intro less
    rcases before_total (a := a) (b := b) with before | same | after
    · exact before
    · rw [same] at less
      exact absurd less (Nat.lt_irrefl _)
    · exact absurd (ordinal_lt_of_before after) (by omega)
  · exact ordinal_lt_of_before

theorem ordinal_injective (same : a.ordinal = b.ordinal) : a = b := by
  rcases before_total (a := a) (b := b) with before | same | after
  · exact absurd (ordinal_lt_of_before before) (by omega)
  · exact same
  · exact absurd (ordinal_lt_of_before after) (by omega)

end Date

end MannyUploader.Foundation
