import Mathlib.Data.Finset.Insert
import MannyUploader.Application.UploadCoordinator

/-! The admission of files to the metadata parser, and the return of its results to the
coordinator. The parser lives in the outside world, like the providers. -/
namespace MannyUploader.Application
open Domain Foundation

structure MetadataRequest where
  jobId : UploadJobId
  file : LogFileIdentity
deriving DecidableEq

inductive MetadataError
  | fileUnavailable | invalidArchive | unsupportedFormat | malformedLog | missingPointOfView
  | resourceLimit | cancelled | internal
deriving DecidableEq, Repr

structure MetadataResult where
  jobId : UploadJobId
  metadata : Except MetadataError EncounterMetadata

inductive ParserError
  | queueFull | stopping | invalidRequest | unavailable | panicked
deriving DecidableEq, Repr

/-- The methods of `LogMetadataParser`. -/
structure ParserPorts (W : Type) where
  updateQueueCapacity : Nat → W → Except ParserError Unit × W
  enqueue : MetadataRequest → W → Except ParserError Unit × W
  availableCapacity : W → Except ParserError Nat × W
  tryTakeResult : W → Except ParserError (Option MetadataResult) × W
  cancelPending : W → W

inductive IngestionError
  | shuttingDown | parserFull | unexpectedResult | resourceLimit
  | parser (error : ParserError)
  | coordinator (error : CoordinatorError)
deriving DecidableEq, Repr

structure MetadataDrainSummary where
  consumed : Nat
  rejected : Nat
  parserErrors : Nat
deriving DecidableEq, Repr

/-- `pending` is the set of the jobs whose metadata is awaited. -/
structure LogIngestionCoordinator where
  uploads : UploadCoordinator
  pending : Finset UploadJobId
  stopping : Bool

namespace LogIngestionCoordinator

def new (uploads : UploadCoordinator) : LogIngestionCoordinator :=
  { uploads, pending := ∅, stopping := false }

def updateParserCapacity (i : LogIngestionCoordinator) (parser : ParserPorts W) (capacity : Nat)
    (tape : Tape W) : Except IngestionError Unit × Tape W :=
  if i.stopping then (.error .shuttingDown, tape)
  else match parser.updateQueueCapacity capacity tape.world with
    | (.ok (), world) => (.ok (), { tape with world })
    | (.error error, world) => (.error (.parser error), { tape with world })

/-- The parser's own answer can only fail by a panic. -/
def availableCapacity (i : LogIngestionCoordinator) (parser : ParserPorts W) (tape : Tape W) :
    Except IngestionError Nat × Tape W :=
  if i.stopping then (.ok 0, tape)
  else match parser.availableCapacity tape.world with
    | (.ok capacity, world) => (.ok capacity, { tape with world })
    | (.error _, world) => (.error (.parser .panicked), { tape with world })

/-- The end of `submit`: a refusal after the capacity check retains a visible accepted job
for deduplication. -/
def requestMetadata (i : LogIngestionCoordinator) (parser : ParserPorts W)
    (request : MetadataRequest) (tape : Tape W) :
    Except IngestionError UploadJobId × LogIngestionCoordinator × Tape W :=
  match parser.enqueue request tape.world with
  | (.ok (), world) =>
    (.ok request.jobId, { i with pending := insert request.jobId i.pending }, { tape with world })
  | (.error _, world) =>
    match i.uploads.failMetadata request.jobId false { tape with world } with
    | (.ok (), uploads, tape) => (.ok request.jobId, { i with uploads }, tape)
    | (.error error, uploads, tape) => (.error (.coordinator error), { i with uploads }, tape)

def submit (i : LogIngestionCoordinator) (ports : UploadPorts W) (parser : ParserPorts W)
    (file : LogFileIdentity) (enabled : ProviderSelection) (tape : Tape W) :
    Except IngestionError UploadJobId × LogIngestionCoordinator × Tape W :=
  if i.stopping then (.error .shuttingDown, i, tape)
  else match i.availableCapacity parser tape with
    | (.error error, tape) => (.error error, i, tape)
    | (.ok capacity, tape) =>
      if capacity = 0 then (.error .parserFull, i, tape)
      else match i.uploads.addPending ports file enabled tape with
        | (.error error, uploads, tape) => (.error (.coordinator error), { i with uploads }, tape)
        | (.ok id, uploads, tape) =>
          { i with uploads }.requestMetadata parser ⟨id, file⟩ tape

/-- The coordinator's part of `handle_result`. -/
def handOver (uploads : UploadCoordinator) (ports : UploadPorts W) (result : MetadataResult)
    (tape : Tape W) : Except CoordinatorError Unit × UploadCoordinator × Tape W :=
  match result.metadata with
  | .ok metadata => uploads.setMetadata ports result.jobId metadata tape
  | .error error => uploads.failMetadata result.jobId (error = .cancelled) tape

def handleResult (i : LogIngestionCoordinator) (ports : UploadPorts W) (result : MetadataResult)
    (tape : Tape W) : Except IngestionError Unit × LogIngestionCoordinator × Tape W :=
  if i.stopping then (.error .shuttingDown, i, tape)
  else if result.jobId ∉ i.pending then (.error .unexpectedResult, i, tape)
  else
    let pending := i.pending.erase result.jobId
    match handOver i.uploads ports result tape with
    | (.ok (), uploads, tape) => (.ok (), { i with uploads, pending }, tape)
    | (.error error, uploads, tape) =>
      (.error (.coordinator error), { i with uploads, pending }, tape)

/-- The loop of `drain_metadata`. -/
def drainLoop (ports : UploadPorts W) (parser : ParserPorts W) : (budget : Nat) →
    MetadataDrainSummary → LogIngestionCoordinator → Tape W →
    MetadataDrainSummary × LogIngestionCoordinator × Tape W
  | 0, summary, i, tape => (summary, i, tape)
  | budget + 1, summary, i, tape =>
    match parser.tryTakeResult tape.world with
    | (.ok (some result), world) =>
      let (handled, i, tape) := i.handleResult ports result { tape with world }
      drainLoop ports parser budget { summary with
        consumed := summary.consumed + 1
        rejected := summary.rejected + (!handled.isOk).toNat } i tape
    | (.ok none, world) => (summary, i, { tape with world })
    | (.error _, world) =>
      ({ summary with parserErrors := summary.parserErrors + 1 }, i, { tape with world })

def drainMetadata (i : LogIngestionCoordinator) (ports : UploadPorts W) (parser : ParserPorts W)
    (maxResults : Nat) (tape : Tape W) :
    MetadataDrainSummary × LogIngestionCoordinator × Tape W :=
  if i.stopping then (⟨0, 0, 0⟩, i, tape)
  else drainLoop ports parser maxResults ⟨0, 0, 0⟩ i tape

def cancelAll (i : LogIngestionCoordinator) (ports : UploadPorts W) (parser : ParserPorts W)
    (tape : Tape W) : LogIngestionCoordinator × Tape W :=
  if i.stopping then (i, tape)
  else
    let tape := { tape with world := parser.cancelPending tape.world }
    let (uploads, tape) := i.uploads.cancelAll ports tape
    ({ uploads, pending := ∅, stopping := true }, tape)

end LogIngestionCoordinator
end MannyUploader.Application
