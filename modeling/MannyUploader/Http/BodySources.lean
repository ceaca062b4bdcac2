import MannyUploader.Foundation.Stateful
import MannyUploader.Http.Multipart

/-! How the body of a form is read: every segment is held to the length it has declared, and
the segments are read one after the other. -/
namespace MannyUploader.Http
open Domain Application Foundation

inductive HttpBodyErrorCode
  | cancelled | sourceUnavailable | sourceChanged | readFailed | panicked
deriving DecidableEq, Repr

structure HttpBodyError where
  code : HttpBodyErrorCode
  systemError : Option UInt32 := none
deriving DecidableEq, Repr

/-- The answer of a source that is given room for some bytes. Nothing keeps the number it
tells within that room. -/
inductive ReadAnswer (room : Nat)
  | ok (count : Nat) (buffer : Vector UInt8 room)
  | failed (error : HttpBodyError)
  | panicked

namespace ReadAnswer

/-- The bytes that were told to be there. -/
def bytes {room : Nat} : ReadAnswer room → List UInt8
  | ok count buffer => buffer.toList.take count
  | _ => []

end ReadAnswer

/-- What the stop token and the sources that are not in memory do. -/
structure BodyPorts (W : Type) where
  stopRequested : W → Bool × W
  read : (source room : Nat) → W → ReadAnswer room × W

structure Answered where
  source : Nat
  room : Nat
  answer : ReadAnswer room

/-- The world, with the answers it has given and whether it has asked to stop. -/
structure BodyTape (W : Type) where
  world : W
  answers : List Answered := []
  stopped : Bool := false

/-- A file stands for any source that the world answers for, and `number` tells these apart. In
memory the bytes behind `offset` are left. -/
structure ExactLengthBody where
  source : HttpBodySegment
  number : Nat
  offset : Nat := 0
  length : Nat
  remaining : Nat
  eofChecked : Bool := false
  failure : Option HttpBodyError := none

variable {W : Type} (ports : BodyPorts W)

namespace ExactLengthBody

/-- `ExactLengthBody::new`. The length has been checked by `exactLength`. -/
def new (source : HttpBodySegment) (number : Nat) : ExactLengthBody :=
  { source, number, length := source.contentLength, remaining := source.contentLength }

abbrev Reading (W : Type) := Stateful (ExactLengthBody × BodyTape W) HttpBodyError

def checkStop : Reading W Unit := do
  let (body, tape) ← get
  let (stop, world) := ports.stopRequested tape.world
  set (body, { tape with world, stopped := tape.stopped || stop })
  Stateful.onlyIf stop (Stateful.fail { code := .cancelled })

/-- The number that the source tells, and the bytes. -/
def readSource (room : Nat) : Reading W (Nat × List UInt8) := do
  let (body, tape) ← get
  match body.source with
  | .memory bytes =>
    checkStop ports
    let count := min room (bytes.length - body.offset)
    modify fun s => ({ s.1 with offset := s.1.offset + count }, s.2)
    pure (count, (bytes.drop body.offset).take count)
  | .file _ =>
    let (answer, world) := ports.read body.number room tape.world
    let answered : Answered := { source := body.number, room, answer }
    set (body, { tape with world, answers := tape.answers ++ [answered] })
    match answer with
    | .ok count buffer => pure (count, buffer.toList.take count)
    | .failed error => Stateful.fail error
    | .panicked => Stateful.fail { code := .panicked }

/-- The next bytes of the source: at least one, and no more than asked for. -/
def readPart (capacity : Nat) : Reading W (List UInt8) :=
  if capacity = 0 then pure []
  else do
    let (read, bytes) ← readSource ports capacity
    if read = 0 ∨ read > capacity then Stateful.fail { code := .readFailed }
    else
      modify fun s => ({ s.1 with remaining := s.1.remaining - read }, s.2)
      pure bytes

/-- Behind its length the source has to be at its end. -/
def checkEnd : Reading W Unit := do
  let (extra, _) ← readSource ports 1
  if extra ≠ 0 then Stateful.fail { code := .readFailed }
  else modify fun s => ({ s.1 with eofChecked := true }, s.2)

def readInner (room : Nat) : Reading W (List UInt8) := do
  checkStop ports
  let (body, _) ← get
  if room = 0 ∨ body.eofChecked then pure []
  else
    let capacity := min body.remaining room
    let bytes ← readPart ports capacity
    checkStop ports
    let (body, _) ← get
    Stateful.onlyIf (body.remaining = 0) (checkEnd ports)
    checkStop ports
    pure bytes

/-- A failure is kept. -/
def catching (step : Reading W (List UInt8)) : Reading W (List UInt8) := fun s =>
  match step s with
  | (.ok bytes, s) => (.ok bytes, s)
  | (.error failure, body, tape) =>
    (.error failure, { body with failure := some failure }, tape)

/-- A panic of the source has become a failure by itself. -/
def read (room : Nat) : Reading W (List UInt8) := do
  let (body, _) ← get
  match body.failure with
  | some failure => Stateful.fail failure
  | none => catching (readInner ports room)

end ExactLengthBody

structure MultipartBody where
  segments : List ExactLengthBody
  length : Nat
  failure : Option HttpBodyError := none

namespace MultipartBody

/-- The body that `withBoundary` returns. -/
def ofForm (form : MultipartFormData) : MultipartBody where
  segments := form.body.mapIdx fun number source => ExactLengthBody.new source number
  length := HttpBodySource.contentLength form.body

/-- The loop over the segments. A segment with nothing more to give is taken off. -/
def readSegments (room : Nat) : List ExactLengthBody → BodyTape W →
    Except HttpBodyError (List UInt8) × List ExactLengthBody × BodyTape W
  | [], tape => (.ok [], [], tape)
  | source :: rest, tape =>
    match ExactLengthBody.read ports room (source, tape) with
    | (.ok [], _, tape) => readSegments room rest tape
    | (.ok bytes, source, tape) => (.ok bytes, source :: rest, tape)
    | (.error error, _, tape) => (.error error, [], tape)

def read (room : Nat) (body : MultipartBody) (tape : BodyTape W) :
    Except HttpBodyError (List UInt8) × MultipartBody × BodyTape W :=
  match body.failure with
  | some error => (.error error, body, tape)
  | none =>
    let (stop, world) := ports.stopRequested tape.world
    let tape := { tape with world, stopped := tape.stopped || stop }
    if stop then
      let error : HttpBodyError := { code := .cancelled }
      (.error error, { body with failure := some error, segments := [] }, tape)
    else if room = 0 then (.ok [], body, tape)
    else
      match readSegments ports room body.segments tape with
      | (.ok bytes, segments, tape) => (.ok bytes, { body with segments }, tape)
      | (.error error, segments, tape) =>
        (.error error, { body with failure := some error, segments }, tape)

end MultipartBody
end MannyUploader.Http
