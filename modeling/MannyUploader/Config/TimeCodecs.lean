import MannyUploader.Config.HistoryCodec

/-! The history's times at machine width: the codecs once more with every 128-bit, 64-bit and
32-bit value held to its type. No step leaves its type, so these are the codecs the model
uses, and the two directions of each undo one another. -/
namespace MannyUploader.Config
open Domain

namespace Machine

/-- A signed value of this many bits; none is an overflow. -/
def signed (bits : Nat) (value : Int) : Option Int :=
  if -2 ^ (bits - 1) ≤ value ∧ value < 2 ^ (bits - 1) then some value else none

def unsigned (bits : Nat) (value : Nat) : Option Nat :=
  if value < 2 ^ bits then some value else none

/-- `Duration::as_nanos`, the widest duration included. -/
def asNanos (distance : Nat) : Option Nat := unsigned 128 distance

/-- The distance to the epoch is cast to `i128`, and negated before the epoch. -/
def unixNanos (time : SystemTime) : Option Int := do
  let distance ← signed 128 (← asNanos time.nanos.natAbs)
  if 0 ≤ time.nanos then some distance else signed 128 (-distance)

/-- `Duration::new` carries whole seconds out of the nanoseconds, and panics on overflow. -/
def durationNew (seconds nanos : Nat) : Option Nat := do
  let carried ← unsigned 64 (seconds + nanos / 1_000_000_000)
  some (carried * 1_000_000_000 + nanos % 1_000_000_000)

/-- `checked_sub` and `checked_add` on the epoch: what is out of reach is refused, and is no
overflow. -/
def fromEpoch (nanos : Int) : Except HistoryDocumentError SystemTime :=
  match SystemTime.fromEpoch nanos with
  | some time => .ok time
  | none => .error .invalidRecord

def fromNanos (nanos : Int) : Option (Except HistoryDocumentError SystemTime) :=
  match unsigned 64 (nanos.natAbs / 1_000_000_000) with
  | none => some (.error .invalidRecord)
  | some seconds => do
    let rest ← unsigned 32 (nanos.natAbs % 1_000_000_000)
    let duration ← durationNew seconds rest
    some (fromEpoch (if nanos < 0 then -duration else duration))

def decodeFileTime (ticks : I64) : Option (Except HistoryDocumentError SystemTime) := do
  if ticks.val < 0 then some (.error .invalidRecord)
  else
    let epoch ← signed 128 (windowsEpochSeconds * ticksPerSecond)
    let shifted ← signed 128 (ticks.val - epoch)
    fromNanos (← signed 128 (shifted * 100))

def encodeFileTime (time : SystemTime) : Option (Except HistoryDocumentError I64) := do
  let nanos ← unixNanos time
  if (← signed 128 (nanos.tmod 100)) ≠ 0 then some (.error .invalidRecord)
  else
    let epoch ← signed 128 (windowsEpochSeconds * ticksPerSecond)
    let whole ← signed 128 (nanos.tdiv 100)
    let ticks ← signed 128 (whole + epoch)
    if ticks < 0 then some (.error .invalidRecord) else some (I64.tryFrom ticks)

def decodeDetectedTime (milliseconds : I64) : Option (Except HistoryDocumentError SystemTime) := do
  fromNanos (← signed 128 (milliseconds.val * 1_000_000))

def encodeDetectedTime (time : SystemTime) : Option (Except HistoryDocumentError I64) := do
  let nanos ← unixNanos time
  some (I64.tryFrom (← signed 128 (nanos.tdiv 1_000_000)))

end Machine

namespace Machine

section widths
variable {bits : Nat}

theorem signed_of {value : Int} (low : -2 ^ (bits - 1) ≤ value) (high : value < 2 ^ (bits - 1)) :
    signed bits value = some value :=
  if_pos ⟨low, high⟩

theorem unsigned_of {value : Nat} (small : value < 2 ^ bits) : unsigned bits value = some value :=
  if_pos small

/-- Far more than any time the system represents. -/
theorem signed_short (value : Int) (low : -2 ^ 100 ≤ value) (high : value ≤ 2 ^ 100) :
    signed 128 value = some value := by
  apply signed_of <;> omega

end widths

section nanoseconds
variable (time : SystemTime)

theorem nanos_short : -2 ^ 80 ≤ time.nanos ∧ time.nanos ≤ 2 ^ 80 := by
  have inside := time.representable
  simp only [SystemTime.minNanos, SystemTime.maxNanos, windowsEpochTicks] at inside
  omega

theorem asNanos_exact : asNanos time.nanos.natAbs = some time.nanos.natAbs := by
  have short := nanos_short time
  rw [asNanos]
  apply unsigned_of
  omega

theorem unixNanos_exact : unixNanos time = some time.nanos := by
  have short := nanos_short time
  have distance := asNanos_exact time
  have cast : signed 128 time.nanos.natAbs = some (time.nanos.natAbs : Int) := by
    apply signed_short <;> omega
  have signs : (if 0 ≤ time.nanos then some (time.nanos.natAbs : Int)
      else signed 128 (-(time.nanos.natAbs : Int))) = some time.nanos := by
    split
    next forward => rw [Int.natAbs_of_nonneg forward]
    next before =>
      have back : -(time.nanos.natAbs : Int) = time.nanos := by omega
      rw [back]
      apply signed_short <;> omega
  rw [unixNanos, distance, Option.bind_eq_bind, Option.bind_some, cast]
  exact signs

theorem durationNew_exact (magnitude : Nat) (short : magnitude / 1_000_000_000 < 2 ^ 64) :
    durationNew (magnitude / 1_000_000_000) (magnitude % 1_000_000_000) = some magnitude := by
  have carried : magnitude / 1_000_000_000 + magnitude % 1_000_000_000 / 1_000_000_000 =
      magnitude / 1_000_000_000 := by omega
  have whole : magnitude / 1_000_000_000 * 1_000_000_000 +
      magnitude % 1_000_000_000 % 1_000_000_000 = magnitude := by omega
  rw [durationNew, carried, unsigned_of short]
  exact congrArg some whole

theorem fromNanos_exact (nanos : Int) : fromNanos nanos = some (Config.fromNanos nanos) := by
  unfold fromNanos Config.fromNanos
  by_cases short : nanos.natAbs / 1_000_000_000 < 2 ^ 64
  · have rest : unsigned 32 (nanos.natAbs % 1_000_000_000) =
        some (nanos.natAbs % 1_000_000_000) := by
      apply unsigned_of
      omega
    have whole : (if nanos < 0 then -(nanos.natAbs : Int) else nanos.natAbs) = nanos := by
      split <;> omega
    rw [if_pos short, unsigned_of short]
    simp only [rest, Option.bind_eq_bind, Option.bind_some, durationNew_exact _ short, whole]
    rfl
  · rw [if_neg short, unsigned, if_neg short]

end nanoseconds

section exact
variable (value : I64) (time : SystemTime)

theorem epoch_exact :
    signed 128 (windowsEpochSeconds * ticksPerSecond) =
      some (windowsEpochSeconds * ticksPerSecond) := by
  apply signed_short <;> decide

theorem decodeFileTime_exact : decodeFileTime value = some (Config.decodeFileTime value) := by
  obtain ⟨low, high⟩ := value.property
  unfold decodeFileTime Config.decodeFileTime
  by_cases negative : value.val < 0
  · rw [if_pos negative, if_pos negative]
  · have shifted : signed 128 (value.val - windowsEpochSeconds * ticksPerSecond) =
        some (value.val - windowsEpochSeconds * ticksPerSecond) := by
      apply signed_short <;> simp only [windowsEpochSeconds, ticksPerSecond] <;> omega
    have scaled : signed 128 ((value.val - windowsEpochSeconds * ticksPerSecond) * 100) =
        some ((value.val - windowsEpochSeconds * ticksPerSecond) * 100) := by
      apply signed_short <;> simp only [windowsEpochSeconds, ticksPerSecond] <;> omega
    rw [if_neg negative, if_neg negative]
    simp only [epoch_exact, shifted, scaled, Option.bind_eq_bind, Option.bind_some]
    exact fromNanos_exact _

theorem tdiv_short {nanos : Int} (step : Int) (short : -2 ^ 80 ≤ nanos ∧ nanos ≤ 2 ^ 80) :
    -2 ^ 80 ≤ nanos.tdiv step ∧ nanos.tdiv step ≤ 2 ^ 80 := by
  have smaller := Int.natAbs_tdiv_le_natAbs nanos step
  omega

theorem tmod_short {nanos : Int} (step : Int) (short : -2 ^ 80 ≤ nanos ∧ nanos ≤ 2 ^ 80) :
    -2 ^ 80 ≤ nanos.tmod step ∧ nanos.tmod step ≤ 2 ^ 80 := by
  have smaller : (nanos.tmod step).natAbs ≤ nanos.natAbs := by
    rw [Int.natAbs_tmod]
    exact Nat.mod_le _ _
  omega

theorem encodeFileTime_exact : encodeFileTime time = some (Config.encodeFileTime time) := by
  have whole := tdiv_short 100 (nanos_short time)
  have rest := tmod_short 100 (nanos_short time)
  unfold encodeFileTime Config.encodeFileTime
  simp only [unixNanos_exact, Option.bind_eq_bind, Option.bind_some,
    signed_short (time.nanos.tmod 100) (by omega) (by omega)]
  by_cases aligned : time.nanos.tmod 100 ≠ 0
  · rw [if_pos aligned, if_pos aligned]
  · have moved : signed 128 (time.nanos.tdiv 100 + windowsEpochSeconds * ticksPerSecond) =
        some (time.nanos.tdiv 100 + windowsEpochSeconds * ticksPerSecond) := by
      apply signed_short <;> simp only [windowsEpochSeconds, ticksPerSecond] <;> omega
    rw [if_neg aligned, if_neg aligned]
    simp only [epoch_exact, moved, Option.bind_some,
      signed_short (time.nanos.tdiv 100) (by omega) (by omega)]
    split <;> rfl

theorem decodeDetectedTime_exact :
    decodeDetectedTime value = some (Config.decodeDetectedTime value) := by
  obtain ⟨low, high⟩ := value.property
  have scaled : signed 128 (value.val * 1_000_000) = some (value.val * 1_000_000) := by
    apply signed_short <;> omega
  simp only [decodeDetectedTime, scaled, Option.bind_eq_bind, Option.bind_some]
  exact fromNanos_exact _

theorem encodeDetectedTime_exact :
    encodeDetectedTime time = some (Config.encodeDetectedTime time) := by
  have whole := tdiv_short 1_000_000 (nanos_short time)
  simp only [encodeDetectedTime, unixNanos_exact, Option.bind_eq_bind, Option.bind_some,
    signed_short (time.nanos.tdiv 1_000_000) (by omega) (by omega)]
  rfl

end exact

end Machine

section ticks
variable {ticks milliseconds : I64} {time : SystemTime}

theorem fromNanos_nanos {nanos : Int} (found : fromNanos nanos = .ok time) :
    time.nanos = nanos := by
  unfold fromNanos at found
  split at found
  · split at found
    next moved =>
      cases found
      unfold SystemTime.fromEpoch at moved
      split at moved
      · split at moved <;> cases moved
        rfl
      · cases moved
    · cases found
  · cases found

theorem I64.tryFrom_of {value : Int} (same : value = ticks.val) : I64.tryFrom value = .ok ticks := by
  rw [same, I64.tryFrom, dif_pos ticks.property]

theorem encodeFileTime_decode (decoded : decodeFileTime ticks = .ok time) :
    encodeFileTime time = .ok ticks := by
  unfold decodeFileTime at decoded
  split at decoded
  · cases decoded
  next positive =>
    have nanos := fromNanos_nanos decoded
    have aligned : time.nanos.tmod 100 = 0 := by rw [nanos, Int.mul_tmod_left]
    have whole : time.nanos.tdiv 100 + windowsEpochSeconds * ticksPerSecond = ticks.val := by
      rw [nanos, Int.mul_tdiv_cancel _ (by decide)]
      omega
    unfold encodeFileTime
    rw [if_neg (by rw [aligned]; decide)]
    simp only
    rw [if_neg (by rw [whole]; exact positive), I64.tryFrom_of whole]

/-- Every tick count that is not negative is a time. -/
theorem decodeFileTime_ok (positive : 0 ≤ ticks.val) : ∃ time, decodeFileTime ticks = .ok time := by
  have high := ticks.property.2
  have inside : SystemTime.minNanos ≤ (ticks.val - windowsEpochSeconds * ticksPerSecond) * 100 ∧
      (ticks.val - windowsEpochSeconds * ticksPerSecond) * 100 ≤ SystemTime.maxNanos := by
    simp only [SystemTime.minNanos, SystemTime.maxNanos, windowsEpochTicks, windowsEpochSeconds,
      ticksPerSecond]
    omega
  have reach : SystemTime.InReach ((ticks.val - windowsEpochSeconds * ticksPerSecond) * 100) := by
    simp only [SystemTime.InReach, windowsEpochSeconds, ticksPerSecond]
    omega
  exact ⟨_, by rw [decodeFileTime, if_neg (by omega), fromNanos_ok reach inside]⟩

theorem encodeDetectedTime_decode (decoded : decodeDetectedTime milliseconds = .ok time) :
    encodeDetectedTime time = .ok milliseconds := by
  rw [encodeDetectedTime, fromNanos_nanos decoded, Int.mul_tdiv_cancel _ (by decide)]
  exact I64.tryFrom_of rfl

theorem encodeDetectedTime_again (encoded : encodeDetectedTime time = .ok milliseconds) :
    encodeDetectedTime (toMilliseconds time) = .ok milliseconds := by
  rw [encodeDetectedTime, toMilliseconds, Int.mul_tdiv_cancel _ (by decide)]
  exact encoded

/-- The milliseconds of the times that the epoch can be moved to. -/
theorem decodeDetectedTime_iff : (∃ time, decodeDetectedTime milliseconds = .ok time) ↔
    -922_337_203_685_477 ≤ milliseconds.val ∧ milliseconds.val ≤ 910_692_730_085_477 := by
  have range : (SystemTime.InReach (milliseconds.val * 1_000_000) ∧
      SystemTime.minNanos ≤ milliseconds.val * 1_000_000 ∧
        milliseconds.val * 1_000_000 ≤ SystemTime.maxNanos) ↔
      -922_337_203_685_477 ≤ milliseconds.val ∧ milliseconds.val ≤ 910_692_730_085_477 := by
    simp only [SystemTime.InReach, SystemTime.minNanos, SystemTime.maxNanos, windowsEpochTicks]
    omega
  rw [← range]
  constructor
  · rintro ⟨time, decoded⟩
    have nanos := fromNanos_nanos decoded
    refine ⟨?_, nanos ▸ time.representable⟩
    by_contra beyond
    rw [decodeDetectedTime, fromNanos_beyond beyond] at decoded
    cases decoded
  · rintro ⟨reach, inside⟩
    exact ⟨_, fromNanos_ok reach inside⟩

theorem tdiv_mul_sign (nanos : Int) (step : Nat) :
    nanos.tdiv step * step = nanos.sign * (nanos.natAbs / step * step : Nat) := by
  cases nanos with
  | ofNat distance =>
    cases distance with
    | zero => simp
    | succ distance =>
      change (((distance + 1) / step : Nat) : Int) * step =
        1 * (((distance + 1) / step * step : Nat) : Int)
      simp
  | negSucc distance =>
    change -(((distance + 1) / step : Nat) : Int) * step = -1 * _
    simp

/-- Toward the epoch: the sign stays, and the distance loses its part of a millisecond. -/
theorem toMilliseconds_truncates :
    (toMilliseconds time).nanos =
      time.nanos.sign * (time.nanos.natAbs / 1_000_000 * 1_000_000 : Nat) :=
  tdiv_mul_sign time.nanos 1_000_000

end ticks

/-- The file time is the identity of a log after a restart, so its codec loses nothing. The
detection time keeps its milliseconds, as far back as the epoch can be moved. No step of either
overflows. -/
theorem history_time_codecs :
    (∀ ticks time, decodeFileTime ticks = .ok time ↔ encodeFileTime time = .ok ticks) ∧
    (∀ ticks, (∃ time, decodeFileTime ticks = .ok time) ↔ 0 ≤ ticks.val) ∧
    (∀ milliseconds time, decodeDetectedTime milliseconds = .ok time →
      encodeDetectedTime time = .ok milliseconds) ∧
    (∀ milliseconds, (∃ time, decodeDetectedTime milliseconds = .ok time) ↔
      -922_337_203_685_477 ≤ milliseconds.val ∧ milliseconds.val ≤ 910_692_730_085_477) ∧
    (∀ time, ∃ milliseconds, encodeDetectedTime time = .ok milliseconds ∧
      encodeDetectedTime (toMilliseconds time) = .ok milliseconds ∧
      decodeDetectedTime milliseconds =
        if Redatable time then .ok (toMilliseconds time) else .error .invalidRecord) ∧
    (∀ time, toMilliseconds (toMilliseconds time) = toMilliseconds time ∧
      (toMilliseconds time).nanos =
        time.nanos.sign * (time.nanos.natAbs / 1_000_000 * 1_000_000 : Nat)) ∧
    (∀ ticks, Machine.decodeFileTime ticks = some (decodeFileTime ticks) ∧
      Machine.decodeDetectedTime ticks = some (decodeDetectedTime ticks)) ∧
    ∀ time, Machine.encodeFileTime time = some (encodeFileTime time) ∧
      Machine.encodeDetectedTime time = some (encodeDetectedTime time) := by
  refine ⟨fun ticks time => ⟨encodeFileTime_decode, decodeFileTime_encode⟩, fun ticks => ⟨?_, ?_⟩,
    fun _ _ => encodeDetectedTime_decode, fun _ => decodeDetectedTime_iff, fun time => ?_,
    fun time => ⟨toMilliseconds_again time, toMilliseconds_truncates⟩,
    fun ticks => ⟨Machine.decodeFileTime_exact ticks, Machine.decodeDetectedTime_exact ticks⟩,
    fun time => ⟨Machine.encodeFileTime_exact time, Machine.encodeDetectedTime_exact time⟩⟩
  · intro decoded
    obtain ⟨time, decoded⟩ := decoded
    by_contra negative
    rw [decodeFileTime, if_pos (by omega)] at decoded
    cases decoded
  · exact decodeFileTime_ok
  · obtain ⟨milliseconds, encoded⟩ := encodeDetectedTime_ok time
    refine ⟨milliseconds, encoded, encodeDetectedTime_again encoded, ?_⟩
    split
    next dates => exact decodeDetectedTime_encode dates encoded
    next beyond => exact decodeDetectedTime_beyond beyond encoded

/-- The earliest time is written, and its milliseconds are not read. -/
theorem earliest_time_unread :
    ∃ time milliseconds, time.nanos = SystemTime.minNanos ∧
      encodeDetectedTime time = .ok milliseconds ∧
      decodeDetectedTime milliseconds = .error .invalidRecord := by
  refine ⟨⟨SystemTime.minNanos, earliest_representable⟩, ⟨-933_981_677_285_477, earliest_inside⟩, rfl,
    ?_, ?_⟩
  · decide
  · exact fromNanos_beyond (by decide)

end MannyUploader.Config
