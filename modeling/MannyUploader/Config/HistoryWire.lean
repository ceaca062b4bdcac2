import MannyUploader.Domain.Path
import MannyUploader.Domain.Time

/-! How the history document spells times and paths. Times are signed 64-bit counts: ticks
of 100 ns since 1601 for files, milliseconds since the Unix epoch for detections. -/
namespace MannyUploader.Config
open Domain

inductive HistoryDocumentError
  | invalidCapacity | tooLarge | invalidJson | invalidSchema | invalidRecord
  | duplicateIdentity | serializationFailed
deriving DecidableEq, Repr

/-- An `i64`. -/
abbrev I64 := { value : Int // -2 ^ 63 ≤ value ∧ value < 2 ^ 63 }

def I64.tryFrom (value : Int) : Except HistoryDocumentError I64 :=
  if inside : -2 ^ 63 ≤ value ∧ value < 2 ^ 63 then .ok ⟨value, inside⟩ else .error .invalidRecord

def windowsEpochSeconds : Int := 11_644_473_600
def ticksPerSecond : Int := 10_000_000

/-- `UNIX_EPOCH` moved by a duration, if the system can do so. -/
def fromNanos (nanos : Int) : Except HistoryDocumentError SystemTime :=
  if nanos.natAbs / 1_000_000_000 < 2 ^ 64 then
    match SystemTime.fromEpoch nanos with
    | some time => .ok time
    | none => .error .invalidRecord
  else .error .invalidRecord

def decodeFileTime (ticks : I64) : Except HistoryDocumentError SystemTime :=
  if ticks.val < 0 then .error .invalidRecord
  else fromNanos ((ticks.val - windowsEpochSeconds * ticksPerSecond) * 100)

/-- Rounding would change the deduplication identity after a restart. -/
def encodeFileTime (time : SystemTime) : Except HistoryDocumentError I64 :=
  if time.nanos.tmod 100 ≠ 0 then .error .invalidRecord
  else
    let ticks := time.nanos.tdiv 100 + windowsEpochSeconds * ticksPerSecond
    if ticks < 0 then .error .invalidRecord else I64.tryFrom ticks

def decodeDetectedTime (milliseconds : I64) : Except HistoryDocumentError SystemTime :=
  fromNanos (milliseconds.val * 1_000_000)

/-- Truncated toward zero: the detection time is display data. -/
def encodeDetectedTime (time : SystemTime) : Except HistoryDocumentError I64 :=
  I64.tryFrom (time.nanos.tdiv 1_000_000)

/-- The text of a path without a verbatim drive prefix, as the bytes of the string. -/
def encodePath (path : PathBuf) : Except HistoryDocumentError (List UInt8) :=
  if path.toStr.isNone then .error .invalidRecord
  else match path.components.head? with
    | some (.leading (.verbatimDisk _)) => .ok (path.bytes.drop 4)
    | _ => .ok path.bytes

/-- A verbatim network path loses its prefix too. -/
def encodeUncPath (path : PathBuf) : Except HistoryDocumentError (Option (List UInt8)) :=
  match path.components.head? with
  | some (.leading (.verbatimUnc _ _)) =>
    if path.toStr.isNone || path.bytes.length > 4102 then .error .invalidRecord
    else .ok (some ([Path.backslash, Path.backslash] ++ path.bytes.drop 8))
  | _ => .ok none

/-- The path as the document holds it. -/
def wirePath (path : PathBuf) : Except HistoryDocumentError (List UInt8) := do
  match ← encodeUncPath path with
  | some text => .ok text
  | none => encodePath path

end MannyUploader.Config
