import MannyUploader.Foundation.Calendar
import MannyUploader.Foundation.FixedWidth
import MannyUploader.Ui.RecentLogs

/-! The times of the rows are dates of the Gregorian calendar: which seconds have one, what its
text is, and that the texts are ordered as the seconds are. -/
namespace MannyUploader.Ui
open Domain Foundation

/-- A second of a day, in UTC. -/
structure UtcTime where
  date : Date
  hour : Nat
  minute : Nat
  second : Nat
  time_valid : hour < 24 ∧ minute < 60 ∧ second < 60

def unixEpoch : Date := Date.newYear 1969

namespace UtcTime

/-- The seconds since the first of January 1970. -/
def seconds (time : UtcTime) : Int :=
  ((time.date.ordinal : Int) - unixEpoch.ordinal) * 86_400 +
    (time.hour * 3600 + time.minute * 60 + time.second : Nat)

def text (time : UtcTime) : String :=
  padded 4 time.date.year ++ "-" ++ padded 2 time.date.month ++ "-" ++ padded 2 time.date.day ++
    " " ++ padded 2 time.hour ++ ":" ++ padded 2 time.minute ++ ":" ++ padded 2 time.second ++
    " UTC"

end UtcTime

theorem ordinal_unixEpoch : unixEpoch.ordinal = 719_162 := by
  have years := daysOfYears_closed 1969
  rw [unixEpoch, Date.ordinal_newYear]
  omega

section dates

/-- The lengths of that many months, from one on. -/
def monthLengths (year month count : Nat) : List Nat :=
  (List.range' month count).map (monthLength year)

theorem monthOf_spec (year count : Nat) {month remaining : Nat} (positive : 1 ≤ month)
    (inside : remaining < (monthLengths year month count).sum) :
    ∃ found rest, monthOf (monthLengths year month count) month remaining = (found, rest) ∧
      month ≤ found ∧ found < month + count ∧ rest < monthLength year found ∧
      daysOfMonths year (found - 1) + rest = daysOfMonths year (month - 1) + remaining := by
  induction count generalizing month remaining with
  | zero => exact absurd inside (Nat.not_lt_zero _)
  | succ count ih =>
    have unfolded : monthLengths year month (count + 1) =
        monthLength year month :: monthLengths year (month + 1) count := rfl
    rw [unfolded, List.sum_cons] at inside
    rw [unfolded, monthOf]
    by_cases here : remaining < monthLength year month
    · rw [if_pos here]
      exact ⟨month, remaining, rfl, Nat.le_refl _, by omega, here, rfl⟩
    · rw [if_neg here]
      have later := ih (by omega : 1 ≤ month + 1) (by omega :
        remaining - monthLength year month < (monthLengths year (month + 1) count).sum)
      obtain ⟨found, rest, run, low, high, short, same⟩ := later
      obtain ⟨months, shifted⟩ : ∃ months, month = months + 1 := ⟨month - 1, by omega⟩
      rw [shifted, Nat.add_sub_cancel, daysOfMonths, ← shifted] at same
      have back : month - 1 = months := by omega
      exact ⟨found, rest, run, by omega, by omega, short, by rw [same, back]; omega⟩

/-- The cycles of 400, 100, 4 and 1 years before a day. The last century of a cycle and the last
year of a group are one day longer than the others. -/
structure Cycles (days : Nat) where
  cycles : Nat
  centuries : Nat
  groups : Nat
  years : Nat
  rest : Nat
  whole : days = 146_097 * cycles + 36_524 * centuries + 1461 * groups + 365 * years + rest
  few : centuries ≤ 3 ∧ groups ≤ 24 ∧ years ≤ 3 ∧ rest ≤ 365
  leap : rest = 365 → years = 3 ∧ (groups < 24 ∨ centuries = 3)

namespace Cycles

def ofDays (days : Nat) : Cycles days where
  cycles := days / 146_097
  centuries := min (days % 146_097 / 36_524) 3
  groups := (days % 146_097 - min (days % 146_097 / 36_524) 3 * 36_524) / 1461
  years := min ((days % 146_097 - min (days % 146_097 / 36_524) 3 * 36_524) % 1461 / 365) 3
  rest := (days % 146_097 - min (days % 146_097 / 36_524) 3 * 36_524) % 1461 -
    min ((days % 146_097 - min (days % 146_097 / 36_524) 3 * 36_524) % 1461 / 365) 3 * 365
  whole := by omega
  few := by omega
  leap := by omega

variable {days : Nat} (parts : Cycles days)

def passed : Nat := 400 * parts.cycles + 100 * parts.centuries + 4 * parts.groups + parts.years

theorem daysOfYears_passed : daysOfYears parts.passed + parts.rest = days := by
  have closed := daysOfYears_closed parts.passed
  have whole := parts.whole
  have few := parts.few
  have fours : parts.passed / 4 = 100 * parts.cycles + 25 * parts.centuries + parts.groups := by
    unfold passed
    omega
  have hundreds : parts.passed / 100 = 4 * parts.cycles + parts.centuries := by
    unfold passed
    omega
  have cycles : parts.passed / 400 = parts.cycles := by
    unfold passed
    omega
  rw [fours, hundreds, cycles] at closed
  simp only [passed] at closed ⊢
  omega

theorem rest_lt : parts.rest < yearLength (parts.passed + 1) := by
  have few := parts.few
  by_cases full : parts.rest = 365
  · have last := parts.leap full
    have leap : isLeap (parts.passed + 1) := by
      unfold isLeap passed
      omega
    rw [yearLength, if_pos leap, full]
    decide
  · unfold yearLength
    split <;> omega

end Cycles

/-- The date of a day has that many days before it. -/
theorem dateOf_spec (days : Nat) :
    ∃ date : Date, dateOf days = (date.year, date.month, date.day) ∧ date.ordinal = days := by
  let parts := Cycles.ofDays days
  have inside := parts.rest_lt
  have lengths : monthLengths (parts.passed + 1) 1 12 =
      [31, if isLeap (parts.passed + 1) then 29 else 28, 31, 30, 31, 30, 31, 31, 30, 31, 30, 31] :=
    rfl
  have total : (monthLengths (parts.passed + 1) 1 12).sum = yearLength (parts.passed + 1) := by
    rw [lengths, yearLength]
    split <;> rfl
  rw [← total] at inside
  have year : 1 + days / 146_097 * 400 + min (days % 146_097 / 36_524) 3 * 100 +
      (days % 146_097 - min (days % 146_097 / 36_524) 3 * 36_524) / 1461 * 4 +
      min ((days % 146_097 - min (days % 146_097 / 36_524) 3 * 36_524) % 1461 / 365) 3 =
      parts.passed + 1 := by
    simp only [parts, Cycles.passed, Cycles.ofDays]
    omega
  obtain ⟨month, rest, run, low, high, short, same⟩ := monthOf_spec _ 12 (Nat.le_refl 1) inside
  have unfolded : dateOf days = (parts.passed + 1, month, rest + 1) := by
    have read : dateOf days = (parts.passed + 1,
        (monthOf (monthLengths (parts.passed + 1) 1 12) 1 parts.rest).1,
        (monthOf (monthLengths (parts.passed + 1) 1 12) 1 parts.rest).2 + 1) := by
      unfold dateOf
      simp only [year]
      rfl
    rw [read, run]
  exact ⟨⟨parts.passed + 1, month, rest + 1, by omega, by omega, by omega⟩, unfolded, by
    have days := parts.daysOfYears_passed
    simp only [Date.ordinal, Nat.add_sub_cancel]
    simp only [Nat.sub_self, daysOfMonths] at same
    omega⟩

theorem daysOfYears_9999 : daysOfYears 9999 = 3_652_059 := by
  have closed := daysOfYears_closed 9999
  omega

end dates

section texts
variable {width value : Nat}

theorem padded_toList (positive : 0 < width) (short : value < 10 ^ width) :
    (padded width value).toList = decimalDigits width value := by
  rw [padded, String.toList_append, String.toList_ofList, ← String.length_toList,
    Nat.toString_eq_ofList_toDigits, String.toList_ofList]
  exact replicate_toDigits positive short

end texts

namespace UtcTime
variable (time : UtcTime)

theorem day_seconds : time.seconds / 86_400 + 719_162 = time.date.ordinal ∧
    (time.seconds % 86_400).toNat = time.hour * 3600 + time.minute * 60 + time.second := by
  have valid := time.time_valid
  simp only [seconds, ordinal_unixEpoch]
  omega

theorem format_seconds (inside : time.date.year ≤ 9999) :
    formatUtcSeconds time.seconds = time.text := by
  have valid := time.time_valid
  obtain ⟨day, daySeconds⟩ := day_seconds time
  have short := (Date.year_le_iff time.date 9999).mp inside
  rw [daysOfYears_9999] at short
  obtain ⟨date, found, ordinal⟩ := dateOf_spec time.date.ordinal
  rw [Date.ordinal_injective ordinal] at found
  have hour : (time.hour * 3600 + time.minute * 60 + time.second) / 3600 = time.hour := by omega
  have minute : (time.hour * 3600 + time.minute * 60 + time.second) / 60 % 60 = time.minute := by
    omega
  have second : (time.hour * 3600 + time.minute * 60 + time.second) % 60 = time.second := by omega
  simp only [formatUtcSeconds, day, daySeconds, Int.toNat_natCast, found, hour, minute, second]
  rw [if_neg (by omega)]
  rfl

/-- By the date, then the hour, the minute and the second. -/
def Before (a b : UtcTime) : Prop :=
  a.date.Before b.date ∨ a.date = b.date ∧
    (a.hour < b.hour ∨ a.hour = b.hour ∧
      (a.minute < b.minute ∨ a.minute = b.minute ∧ a.second < b.second))

variable {a b : UtcTime}

theorem seconds_lt_iff : a.seconds < b.seconds ↔ Before a b := by
  have validA := a.time_valid
  have validB := b.time_valid
  have same : a.date.ordinal = b.date.ordinal ↔ a.date = b.date :=
    ⟨Date.ordinal_injective, congrArg _⟩
  rw [Before, ← Date.ordinal_lt_iff, ← same]
  simp only [seconds]
  omega

theorem text_toList (inside : a.date.year ≤ 9999) :
    a.text.toList = decimalDigits 4 a.date.year ++ '-' :: (decimalDigits 2 a.date.month ++ '-' ::
      (decimalDigits 2 a.date.day ++ ' ' :: (decimalDigits 2 a.hour ++ ':' ::
        (decimalDigits 2 a.minute ++ ':' :: (decimalDigits 2 a.second ++
          [' ', 'U', 'T', 'C']))))) := by
  have valid := a.time_valid
  have month := a.date.month_valid
  have day := a.date.day_valid
  have length := monthLength_le a.date.year a.date.month
  simp only [text, String.toList_append, padded_toList (by decide)
    (by omega : a.date.year < 10 ^ 4), List.append_assoc]
  rw [padded_toList (by decide) (by omega), padded_toList (by decide) (by omega),
    padded_toList (by decide) (by omega), padded_toList (by decide) (by omega),
    padded_toList (by decide) (by omega)]
  rfl

theorem text_lt_iff (insideA : a.date.year ≤ 9999) (insideB : b.date.year ≤ 9999) :
    a.text < b.text ↔ Before a b := by
  have validA := a.time_valid
  have validB := b.time_valid
  have monthA := a.date.month_valid
  have monthB := b.date.month_valid
  have dayA := a.date.day_valid
  have dayB := b.date.day_valid
  have lengthA := monthLength_le a.date.year a.date.month
  have lengthB := monthLength_le b.date.year b.date.month
  rw [String.lt_iff_toList_lt, text_toList insideA, text_toList insideB,
    decimalDigits_field_lt (by omega) (by omega), decimalDigits_field_lt (by omega) (by omega),
    decimalDigits_field_lt (by omega) (by omega), decimalDigits_field_lt (by omega) (by omega),
    decimalDigits_field_lt (by omega) (by omega), decimalDigits_field_lt (by omega) (by omega)]
  simp only [Before, Date.Before, Date.ext_iff, List.lt_irrefl]
  tauto

end UtcTime

theorem time_of_seconds (seconds : Int)
    (inside : 0 ≤ seconds / 86_400 + 719_162 ∧ seconds / 86_400 + 719_162 < 3_652_059) :
    ∃ time : UtcTime, time.date.year ≤ 9999 ∧ time.seconds = seconds := by
  obtain ⟨date, -, ordinal⟩ := dateOf_spec (seconds / 86_400 + 719_162).toNat
  let daySeconds := (seconds % 86_400).toNat
  refine ⟨⟨date, daySeconds / 3600, daySeconds / 60 % 60, daySeconds % 60, by omega⟩, ?_, ?_⟩
  · rw [Date.year_le_iff, daysOfYears_9999, ordinal]
    omega
  · simp only [UtcTime.seconds, ordinal_unixEpoch]
    omega

theorem format_outside (seconds : Int)
    (outside : ∀ time : UtcTime, time.date.year ≤ 9999 → time.seconds ≠ seconds) :
    formatUtcSeconds seconds = "Time unavailable" := by
  by_cases inside : 0 ≤ seconds / 86_400 + 719_162 ∧ seconds / 86_400 + 719_162 < 3_652_059
  · obtain ⟨time, year, same⟩ := time_of_seconds seconds inside
    exact absurd same (outside time year)
  · rw [formatUtcSeconds]
    simp only
    rw [if_pos (by omega)]

/-- The second that a time lies in, on both sides of the epoch. -/
theorem formatDetectedAt_floor (time : SystemTime) :
    formatDetectedAt time = formatUtcSeconds (time.nanos / 1_000_000_000) := by
  unfold formatDetectedAt
  simp only
  congr 1
  split
  · rfl
  · split <;> omega

/-- The seconds of the years 1 to 9999. -/
def HasDate (seconds : Int) : Prop := ∃ time : UtcTime, time.date.year ≤ 9999 ∧ time.seconds = seconds

theorem format_lt_iff {a b : Int} (dateA : HasDate a) (dateB : HasDate b) :
    formatUtcSeconds a < formatUtcSeconds b ↔ a < b := by
  obtain ⟨timeA, insideA, rfl⟩ := dateA
  obtain ⟨timeB, insideB, rfl⟩ := dateB
  rw [UtcTime.format_seconds timeA insideA, UtcTime.format_seconds timeB insideB,
    UtcTime.text_lt_iff insideA insideB, UtcTime.seconds_lt_iff]

/-- The range of the dates, whose ends are the first and the last second of these years. -/
theorem hasDate_iff (seconds : Int) :
    HasDate seconds ↔ -62_135_596_800 ≤ seconds ∧ seconds < 253_402_300_800 := by
  constructor
  · intro dated
    obtain ⟨time, inside, rfl⟩ := dated
    have day := (UtcTime.day_seconds time).1
    rw [Date.year_le_iff, daysOfYears_9999] at inside
    omega
  · intro inside
    exact time_of_seconds seconds (by omega)

/-- What a row shows of a time is its date in the Gregorian calendar, for the years that have
four digits. Of two such texts the one in front is of the earlier second. -/
theorem utc_text_calendar :
    (∀ time : UtcTime, time.date.year ≤ 9999 → formatUtcSeconds time.seconds = time.text) ∧
    (∀ seconds, (∀ time : UtcTime, time.date.year ≤ 9999 → time.seconds ≠ seconds) →
      formatUtcSeconds seconds = "Time unavailable") ∧
    (∀ a b, HasDate a → HasDate b →
      (formatUtcSeconds a = formatUtcSeconds b → a = b) ∧
      (formatUtcSeconds a < formatUtcSeconds b ↔ a < b)) ∧
    (∀ days, (Date.next^[days] Date.first).ordinal = days) ∧
    ∀ seconds, HasDate seconds ↔ -62_135_596_800 ≤ seconds ∧ seconds < 253_402_300_800 := by
  refine ⟨fun time => UtcTime.format_seconds time, format_outside, fun a b dateA dateB => ?_,
    Date.ordinal_iterate, hasDate_iff⟩
  have before := format_lt_iff dateA dateB
  have after := format_lt_iff dateB dateA
  refine ⟨fun same => ?_, before⟩
  rw [same] at before after
  have notBefore := before.not.mp (lt_irrefl _)
  have notAfter := after.not.mp (lt_irrefl _)
  omega

end MannyUploader.Ui
