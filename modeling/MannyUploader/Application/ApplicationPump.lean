import MannyUploader.Application.LogIngestion
import MannyUploader.Domain.LogDiscovery

/-! The pump moves files from the source through discovery into the coordinator, and
results back out of the parser and the providers. -/
namespace MannyUploader.Application
open Domain Foundation

inductive CandidateError
  | invalidConfiguration | cancelled | scanFailed | resourceLimit | panicked
deriving DecidableEq, Repr

inductive CandidateIssue
  | entryUnavailable | directoryUnavailable | timestampUnavailable | canonicalPathUnavailable
  | notificationFailed | notificationsDisabled
deriving DecidableEq, Repr

structure CandidateSourceOptions where
  root : PathBuf
  recursive : Bool
  maxCandidates : Nat
  minimumLastWriteTime : Option SystemTime
deriving DecidableEq

structure CandidateBatch where
  rootAvailable : Bool
  scanComplete : Bool
  observations : List LogFileIdentity
  removedPaths : List PathBuf
  issues : List CandidateIssue

/-- The methods of `LogCandidateSource`, and the stop token that the owner is handed. -/
structure SourcePorts (W : Type) where
  poll : W → Except CandidateError CandidateBatch × W
  reconfigure : CandidateSourceOptions → W → Except CandidateError Unit × W
  isStopRequested : W → Bool × W

/-- Everything outside the pump. -/
structure PumpPorts (W : Type) where
  uploads : UploadPorts W
  parser : ParserPorts W
  source : SourcePorts W

inductive PumpError
  | invalidConfiguration | shuttingDown
  | source (error : CandidateError)
  | discovery (error : DiscoveryError)
  | ingestion (error : IngestionError)
  | coordinator (error : CoordinatorError)
deriving DecidableEq, Repr

structure PumpOptions where
  requiredMatches : Nat
  pendingLimit : Nat
  historyLimit : Nat
  maxMetadataResults : Nat
  maxUploadResults : Nat
  maxRetries : Nat
deriving DecidableEq, Repr

structure TickReport where
  metadata : MetadataDrainSummary
  uploads : DrainSummary
  retries : Nat
  rootAvailable : Bool
  scanComplete : Bool
  observations : Nat
  removed : Nat
  submitted : Nat
  issues : List CandidateIssue

structure ApplicationPump where
  ingestion : LogIngestionCoordinator
  discovery : LogDiscovery
  options : PumpOptions
  stopping : Bool

/-- `map_err`. -/
def mapErr (wrap : ε → δ) : Except ε α → Except δ α
  | .ok value => .ok value
  | .error error => .error (wrap error)

namespace ApplicationPump

def newDiscovery (options : PumpOptions) : Except PumpError LogDiscovery :=
  mapErr .discovery
    (LogDiscovery.new options.requiredMatches options.pendingLimit options.historyLimit)

def new (ingestion : LogIngestionCoordinator) (options : PumpOptions) :
    Except PumpError ApplicationPump := do
  if [options.maxMetadataResults, options.maxUploadResults, options.maxRetries].any
      fun limit => !decide (1 ≤ limit ∧ limit ≤ 10_000) then
    .error .invalidConfiguration
  else do
    let discovery ← newDiscovery options
    .ok { ingestion, discovery, options, stopping := false }

def uploads (pump : ApplicationPump) : UploadCoordinator := pump.ingestion.uploads

/-- `ingestion_mut().uploads_mut()`, written back. -/
def withUploads (pump : ApplicationPump) (uploads : UploadCoordinator) : ApplicationPump :=
  { pump with ingestion := { pump.ingestion with uploads } }

/-- The identities that remembering these files makes discovery forget. -/
def forgotten : LogDiscovery → List LogFileIdentity → List LogFileIdentity
  | _, [] => []
  | d, file :: rest =>
    (if d.isKnown file then [] else d.overflow.toList) ++ forgotten (d.remember file) rest

def noteForgotten (pump : ApplicationPump) (files : List LogFileIdentity) (tape : Tape W) :
    Tape W :=
  tape.noteAll ((forgotten pump.discovery files).map fun oldest =>
    .forgot oldest pump.uploads.files)

/-- Drain bounded provider/parser work between filesystem polls without observing files
again. -/
def drainWork (pump : ApplicationPump) (ports : PumpPorts W) (tape : Tape W) :
    Except PumpError TickReport × ApplicationPump × Tape W :=
  if pump.stopping then (.error .shuttingDown, pump, tape)
  else match ports.source.isStopRequested tape.world with
    | (true, world) => (.error (.source .cancelled), pump, { tape with world })
    | (false, world) =>
      let (metadata, ingestion, tape) := pump.ingestion.drainMetadata ports.uploads ports.parser
        pump.options.maxMetadataResults { tape with world }
      let (results, uploads, tape) := ingestion.uploads.drainResults ports.uploads
        pump.options.maxUploadResults tape
      let (retries, uploads, tape) := uploads.dispatchDueRetries ports.uploads
        pump.options.maxRetries tape
      (.ok { metadata, uploads := results, retries, rootAvailable := false, scanComplete := false
             observations := 0, removed := 0, submitted := 0, issues := [] },
        { pump with ingestion := { ingestion with uploads } }, tape)

/-- The part of a round behind a positive capacity. -/
def observe (pump : ApplicationPump) (ports : PumpPorts W) (enabled : ProviderSelection)
    (observation : LogFileIdentity) (tape : Tape W) :
    Except PumpError Bool × ApplicationPump × Tape W :=
  match pump.discovery.observe observation with
  | .error error => (.error (.discovery error), pump, tape)
  | .ok (none, discovery) => (.ok false, { pump with discovery }, tape)
  | .ok (some file, discovery) =>
    match pump.ingestion.submit ports.uploads ports.parser file enabled
        (pump.noteForgotten [file] tape) with
    | (.error error, ingestion, tape) =>
      (.error (.ingestion error), { pump with ingestion, discovery := discovery.release file }, tape)
    | (.ok _, ingestion, tape) => (.ok true, { pump with ingestion, discovery }, tape)

/-- The loop over the observations of a batch. -/
def observeAll (ports : PumpPorts W) (enabled : ProviderSelection) : List LogFileIdentity →
    TickReport → ApplicationPump → Tape W → Except PumpError TickReport × ApplicationPump × Tape W
  | [], report, pump, tape => (.ok report, pump, tape)
  | observation :: rest, report, pump, tape =>
    match ports.source.isStopRequested tape.world with
    | (true, world) => (.error (.source .cancelled), pump, { tape with world })
    | (false, world) =>
      match pump.ingestion.availableCapacity ports.parser { tape with world } with
      | (.error error, tape) => (.error (.ingestion error), pump, tape)
      | (.ok capacity, tape) =>
        if capacity = 0 then (.ok report, pump, tape)
        else match pump.observe ports enabled observation tape with
          | (.error error, pump, tape) => (.error error, pump, tape)
          | (.ok submitted, pump, tape) =>
            observeAll ports enabled rest
              { report with submitted := report.submitted + submitted.toNat } pump tape

def tick (pump : ApplicationPump) (ports : PumpPorts W) (enabled : ProviderSelection)
    (tape : Tape W) : Except PumpError TickReport × ApplicationPump × Tape W :=
  match pump.drainWork ports tape with
  | (.error error, pump, tape) => (.error error, pump, tape)
  | (.ok drained, pump, tape) =>
    match ports.source.poll tape.world with
    | (.error error, world) => (.error (.source error), pump, { tape with world })
    | (.ok batch, world) =>
      let discovery := batch.removedPaths.foldl LogDiscovery.forgetPending pump.discovery
      observeAll ports enabled batch.observations { drained with
        rootAvailable := batch.rootAvailable
        scanComplete := batch.scanComplete
        observations := batch.observations.length
        removed := batch.removedPaths.length
        issues := batch.issues } { pump with discovery } { tape with world }

def reconfigureSource (pump : ApplicationPump) (ports : PumpPorts W)
    (options : CandidateSourceOptions) (tape : Tape W) :
    Except PumpError Unit × ApplicationPump × Tape W :=
  if pump.stopping then (.error .shuttingDown, pump, tape)
  else match ports.source.reconfigure options tape.world with
    | (.error error, world) => (.error (.source error), pump, { tape with world })
    | (.ok (), world) =>
      (.ok (), { pump with discovery := pump.discovery.clearPending }, { tape with world })

def setRequiredMatches (pump : ApplicationPump) (requiredMatches : Nat) :
    Except PumpError Unit × ApplicationPump :=
  if pump.stopping then (.error .shuttingDown, pump)
  else match pump.discovery.setRequiredMatches requiredMatches with
    | .error error => (.error (.discovery error), pump)
    | .ok discovery =>
      (.ok (), { pump with discovery, options := { pump.options with requiredMatches } })

/-- The checks of `restore_history`, up to the discovery that remembers every record. -/
def seedHistory (pump : ApplicationPump) (records : List UploadJobRecord) :
    Except PumpError LogDiscovery := do
  if pump.stopping then .error .shuttingDown
  else if records.length > pump.options.historyLimit then
    .error (.discovery .resourceLimit)
  else do
    let discovery ← newDiscovery pump.options
    mapErr .discovery (discovery.seed (records.map (·.file)))

/-- Startup restores only the UI tail while seeding every retained identity, without
dispatch. -/
def restoreHistory (pump : ApplicationPump) (records : List UploadJobRecord) (tape : Tape W) :
    Except PumpError Unit × ApplicationPump × Tape W :=
  match pump.seedHistory records with
  | .error error => (.error error, pump, tape)
  | .ok discovery =>
    match pump.uploads.restore records tape with
    | (.error error, uploads, tape) => (.error (.coordinator error), pump.withUploads uploads, tape)
    | (.ok (), uploads, tape) => (.ok (), { pump.withUploads uploads with discovery }, tape)

def seedProcessedLogs (pump : ApplicationPump) (files : List LogFileIdentity) (tape : Tape W) :
    Except PumpError Unit × ApplicationPump × Tape W :=
  if pump.stopping then (.error .shuttingDown, pump, tape)
  else match pump.discovery.seed files with
    | .error error => (.error (.discovery error), pump, tape)
    | .ok discovery => (.ok (), { pump with discovery }, pump.noteForgotten files tape)

def cancelAll (pump : ApplicationPump) (ports : PumpPorts W) (tape : Tape W) :
    ApplicationPump × Tape W :=
  if pump.stopping then (pump, tape)
  else
    let (ingestion, tape) := pump.ingestion.cancelAll ports.uploads ports.parser tape
    ({ pump with stopping := true, discovery := pump.discovery.clearPending, ingestion }, tape)

end ApplicationPump

/-- What the owner of a pump does with it. `command` is an operation on the coordinator
behind it; admission and restore go through the pump. -/
inductive PumpOp (W : Type)
  | tick (enabled : ProviderSelection)
  | drainWork
  | reconfigureSource (options : CandidateSourceOptions)
  | setRequiredMatches (requiredMatches : Nat)
  | updateParserCapacity (capacity : Nat)
  | restoreHistory (records : List UploadJobRecord)
  | seedProcessedLogs (files : List LogFileIdentity)
  | command (op : CoordinatorOp W)
  | cancelAll
  | elapse (world : W)

/-- A pump in its surroundings. -/
abbrev Pumping (W : Type) := ApplicationPump × Tape W

def CoordinatorOp.admitsJobs : CoordinatorOp W → Bool
  | .addPending .. | .restore .. => true
  | _ => false

def ApplicationPump.perform (ports : PumpPorts W) (s : Pumping W) : PumpOp W → Pumping W
  | .tick enabled => (s.1.tick ports enabled s.2).2
  | .drainWork => (s.1.drainWork ports s.2).2
  | .reconfigureSource options => (s.1.reconfigureSource ports options s.2).2
  | .setRequiredMatches requiredMatches => ((s.1.setRequiredMatches requiredMatches).2, s.2)
  | .updateParserCapacity capacity =>
    (s.1, (s.1.ingestion.updateParserCapacity ports.parser capacity s.2).2)
  | .restoreHistory records => (s.1.restoreHistory records s.2).2
  | .seedProcessedLogs files => (s.1.seedProcessedLogs files s.2).2
  | .command op =>
    if op.admitsJobs then s
    else
      let (uploads, tape) := UploadCoordinator.perform ports.uploads (s.1.uploads, s.2) op
      (s.1.withUploads uploads, tape)
  | .cancelAll => s.1.cancelAll ports s.2
  | .elapse world => (s.1, { s.2 with world })

/-! A directory for the results that are shown at work on fixed inputs. -/

def logNamed (name : String) (size : UInt64) : LogFileIdentity where
  canonicalPath := ⟨utf8 ("C:\\logs\\" ++ name)⟩
  size
  lastWriteTime := .unixEpoch

/-- A directory whose files are the outside world. The parser keeps the logs of one byte
waiting and refuses all others. -/
def directoryPorts : PumpPorts (List LogFileIdentity) where
  uploads := acceptingPorts
  parser := {
    updateQueueCapacity _ world := (.ok (), world)
    enqueue request world := (if request.file.size = 1 then .ok () else .error .queueFull, world)
    availableCapacity world := (.ok 8, world)
    tryTakeResult world := (.ok none, world)
    cancelPending world := world }
  source := {
    poll world := (.ok { rootAvailable := true, scanComplete := true, observations := world
                         removedPaths := [], issues := [] }, world)
    reconfigure _ world := (.ok (), world)
    isStopRequested world := (false, world) }

def sampleOptions (historyLimit : Nat) : PumpOptions where
  requiredMatches := 2
  pendingLimit := 8
  historyLimit
  maxMetadataResults := 8
  maxUploadResults := 8
  maxRetries := 8

/-- A pump and a coordinator that both keep two files. -/
def narrowPump : ApplicationPump where
  ingestion := .new (sampleStart ⟨2, by decide⟩).1
  discovery := {
    requiredMatches := 2, pendingLimit := 8, historyLimit := 2, bounds := by decide
    pending := [], accepted := [], known := [] }
  options := sampleOptions 2
  stopping := false

/-- Two scans of a directory in which these files have appeared. -/
def scans (files : List LogFileIdentity) : List (PumpOp (List LogFileIdentity)) :=
  [.elapse files, .tick allEnabled, .tick allEnabled]

end MannyUploader.Application
