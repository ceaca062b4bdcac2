import Mathlib.Algebra.Ring.Int.Defs
import Mathlib.Algebra.Ring.Nat

/-! The three time types of the program. Instants and durations count nanoseconds. A
`SystemTime` is a signed distance from the Unix epoch, within the range of the Windows
representation, a signed 64-bit count of 100 ns ticks since 1601. -/
namespace MannyUploader.Domain

/-- `std::time::Duration` in nanoseconds. -/
abbrev Duration := Nat

def Duration.fromSecs (seconds : Nat) : Duration := seconds * 1_000_000_000

/-- `std::time::Instant`, as the time since an arbitrary start. -/
structure Instant where
  nanos : Nat
deriving DecidableEq, Repr

/-- An instant is stored as a duration with 64-bit seconds. -/
def Instant.limit : Nat := 2 ^ 64 * 1_000_000_000

def Instant.checkedAdd (instant : Instant) (delay : Duration) : Option Instant :=
  if instant.nanos + delay < Instant.limit then some ⟨instant.nanos + delay⟩ else none

/-- 1601-01-01 lies this many ticks of 100 ns before the Unix epoch. -/
def windowsEpochTicks : Int := 116_444_736_000_000_000

def SystemTime.minNanos : Int := (-2 ^ 63 - windowsEpochTicks) * 100
def SystemTime.maxNanos : Int := (2 ^ 63 - 1 - windowsEpochTicks) * 100 + 99

/-- `std::time::SystemTime`, relative to `UNIX_EPOCH`. -/
structure SystemTime where
  nanos : Int
  representable : SystemTime.minNanos ≤ nanos ∧ nanos ≤ SystemTime.maxNanos
deriving DecidableEq

def SystemTime.unixEpoch : SystemTime := ⟨0, by decide⟩

/-- `checked_add` and `checked_sub` move a time by a signed 64-bit count of ticks. -/
def SystemTime.InReach (nanos : Int) : Prop := nanos.natAbs / 100 < 2 ^ 63

instance (nanos : Int) : Decidable (SystemTime.InReach nanos) :=
  inferInstanceAs (Decidable (_ < _))

/-- `UNIX_EPOCH` moved by a duration. It lies behind the middle of the range, so not all of what
is before it is in reach. -/
def SystemTime.fromEpoch (nanos : Int) : Option SystemTime :=
  if SystemTime.InReach nanos then
    if inside : SystemTime.minNanos ≤ nanos ∧ nanos ≤ SystemTime.maxNanos then some ⟨nanos, inside⟩
    else none
  else none

end MannyUploader.Domain
