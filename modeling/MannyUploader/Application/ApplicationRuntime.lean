import MannyUploader.Application.ApplicationPump
import MannyUploader.Application.DonBotAggregate
import MannyUploader.Application.NexusOptionsController
import MannyUploader.Application.Twitch
import MannyUploader.Config.HistoryStore

/-! The one owner of the application. A tick goes through the options, the history, the actions
of the user, the aggregate and the pump, and saves the history again. -/
namespace MannyUploader.Domain

def SystemTime.checkedSub (time : SystemTime) (delay : Duration) : Option SystemTime :=
  let nanos := time.nanos - (delay / 100 * 100 : Nat)
  if h : delay / 100 < 2 ^ 63 ∧ SystemTime.minNanos ≤ nanos ∧ nanos ≤ SystemTime.maxNanos then
    some ⟨nanos, h.2⟩
  else none

end MannyUploader.Domain

namespace MannyUploader.Application
open Config Domain Foundation

/-! Which logs the source is asked for. -/

inductive LogSelectionMode
  | new | last24Hours
deriving DecidableEq, Repr

inductive SelectionError
  | timeOutOfRange
deriving DecidableEq, Repr

structure SessionLogSelection where
  started : SystemTime
  mode : LogSelectionMode
  discoveryCutoff : SystemTime
  refreshed : Instant
deriving DecidableEq

namespace SessionLogSelection

def day : Duration := Duration.fromSecs (24 * 60 * 60)
def refreshInterval : Duration := Duration.fromSecs 60

def new (started : SystemTime) (steady : Instant) : SessionLogSelection :=
  { started, mode := .new, discoveryCutoff := started, refreshed := steady }

def cutoff (selection : SessionLogSelection) (now : SystemTime) :
    LogSelectionMode → Except SelectionError SystemTime
  | .new => .ok selection.started
  | .last24Hours => match now.checkedSub day with
    | some cutoff => .ok cutoff
    | none => .error .timeOutOfRange

/-- The source is reconfigured before the proposal takes the place of the selection. -/
def propose (selection : SessionLogSelection) (mode : LogSelectionMode) (now : SystemTime)
    (steady : Instant) : Except SelectionError (Option SessionLogSelection) :=
  if mode = selection.mode ∧
      (mode = .new ∨ steady.nanos - selection.refreshed.nanos < refreshInterval) then .ok none
  else do
    let cutoff ← selection.cutoff now mode
    if mode = selection.mode ∧ cutoff = selection.discoveryCutoff then pure none
    else pure (some { selection with mode, discoveryCutoff := cutoff, refreshed := steady })

end SessionLogSelection

inductive RuntimeError
  | invalidConfiguration | internal | shuttingDown | timeOutOfRange
  | options (error : NexusOptionsError)
  | pump (error : PumpError)
  | history (error : HistoryStoreError)
  | provider (error : CoordinatorError)
  | parser (error : IngestionError)
  | selection (error : SelectionError)
  | actions (error : RecentLogActionError)
  | aggregate (error : DonBotAggregateDeliveryError)
deriving DecidableEq, Repr

/-- The snapshots of Twitch and of its test message are one value of a type `V`. -/
abbrev RuntimeOptions (V : Type) := NexusOptionsSnapshot (DonBotConfigurationSnapshot × V)

instance : BEq UploadJobSnapshot :=
  ⟨fun left right => left.id == right.id && left.record == right.record⟩

structure RuntimeSnapshot (V : Type) where
  options : RuntimeOptions V
  jobs : List UploadJobSnapshot
  recentActions : RecentLogActionsSnapshot
  aggregate : DonBotAggregateDeliverySnapshot
  selection : SessionLogSelection
  rootAvailable : Bool
  sourceIssues : List CandidateIssue
  historyRecovery : Option HistoryRecovery
  diagnostic : Option RuntimeError
  revision : UInt64
  shuttingDown : Bool

instance {V : Type} [DecidableEq V] : BEq (RuntimeSnapshot V) :=
  ⟨fun left right => left.options == right.options && left.jobs == right.jobs &&
    left.recentActions == right.recentActions && left.aggregate == right.aggregate &&
    left.selection == right.selection && left.rootAvailable == right.rootAvailable &&
    left.sourceIssues == right.sourceIssues && left.historyRecovery == right.historyRecovery &&
    left.diagnostic == right.diagnostic && left.revision == right.revision &&
    left.shuttingDown == right.shuttingDown⟩

/-! Everything outside the owner. What it shares with the window, the queues of the options and
of the actions among it, changes between any two questions. -/

/-- A settings applier, with the client id that was applied last. -/
abbrev Applier (W : Type) :=
  Settings → Stateful (Option String × W) (Fault NexusOptionsError) Unit

/-- The `NexusOptionsController`. A tick tells whether DonBot progressed. -/
structure OptionsPorts (V W : Type) where
  tick : Applier W → Stateful (Option String × W) (Fault NexusOptionsError) Bool
  snapshot : W → RuntimeOptions V
  refreshDonBot : W → Foundation.Attempt NexusOptionsError Unit × W
  /-- With the error that a saved connection started with. -/
  startSavedConnections : Bool → W →
    Foundation.Attempt NexusOptionsError (Option NexusOptionsError) × W
  shutdown : W → W
  shutdownWorkflows : W → W

/-- The sections of `RecentLogActionsController::tick` under the lock of its queue. -/
structure ActionPorts (W : Type) where
  beginTick : W → Except RecentLogActionError Nat × W
  nextCommand : W → Option RecentLogAction × W
  finishCommand : Except RecentLogActionError Unit → W → W
  endTick : W → W
  snapshot : W → RecentLogActionsSnapshot

/-- `ExternalActionLauncher`. A directory is given by its components. -/
structure LauncherPorts (W : Type) where
  openUrl : String → W → Foundation.Attempt ExternalActionError Unit × W
  openDirectory : List Path.Component → W → Foundation.Attempt ExternalActionError Unit × W

/-- What is behind the lock of `RuntimeHandle`. -/
structure HandlePorts (V W : Type) where
  requestedSelection : W → LogSelectionMode
  takeAggregate : W → Option SendDonBotAggregateCommand × W
  waitingAggregate : W → Option SendDonBotAggregateCommand
  accepting : W → Bool
  closeAdmission : W → W
  shown : W → RuntimeSnapshot V
  replaceShown : RuntimeSnapshot V → W → W

structure RuntimePorts (V W : Type) where
  pump : PumpPorts W
  options : OptionsPorts V W
  actions : ActionPorts W
  launcher : LauncherPorts W
  aggregate : AggregatePorts W
  handle : HandlePorts V W
  json : JsonCodec
  files : FilePorts W
  /-- Nothing of a lock that is poisoned. -/
  configuration : W → Option ConfigurationService
  shutdownConfiguration : W → W
  setClientId : String → W → Foundation.Attempt Unit Unit × W
  systemNow : W → SystemTime
  steadyNow : W → Instant

/-- What was applied of the settings. -/
structure Applied where
  source : Option CandidateSourceOptions := none
  stability : Option Nat := none
  parserCapacity : Option Nat := none
  historyLimit : Option Nat := none
  policies : Provider → Option ProviderConfiguration := fun _ => none
  clientId : Option String := none
  pollInterval : Option Duration := none

structure ApplicationRuntime where
  pump : ApplicationPump
  aggregate : DonBotAggregateDeliveryController
  history : JsonUploadHistoryStore
  applied : Applied
  bundledClientId : String
  selection : SessionLogSelection
  nextPoll : Instant
  nextRefresh : Instant
  refreshing : Bool
  lastPersisted : List UploadJobRecord
  rootAvailable : Bool
  sourceIssues : List CandidateIssue
  sourceError : Option PumpError
  stopped : Bool

/-- A runtime in its surroundings. -/
abbrev Ticking (W : Type) := ApplicationRuntime × Tape W

abbrev Owner (W α : Type) := Stateful (Ticking W) (Fault RuntimeError) α

def donbotRefresh : Duration := Duration.fromSecs 300

/-- Paths are compared by their components. -/
def CandidateSourceOptions.same (left right : CandidateSourceOptions) : Bool :=
  left.root.same right.root && left.recursive == right.recursive &&
    left.maxCandidates == right.maxCandidates &&
    left.minimumLastWriteTime == right.minimumLastWriteTime

/-- `parent`, unless it is empty. -/
def Path.parent (path : PathBuf) : Option (List Path.Component) :=
  match path.components.getLast? with
  | some (.normal _) | some .curDir | some .parentDir =>
    if path.components.length = 1 then none else some path.components.dropLast
  | _ => none

namespace ApplicationRuntime
variable {V W α ε : Type}

/-! What a step of the owner is made of. -/

def answered (question : W → α × W) : Owner W α := fun s =>
  (.ok (question s.2.world).1, s.1, { s.2 with world := (question s.2.world).2 })

def told (change : W → W) : Owner W Unit := answered fun world => ((), change world)

def asked (question : W → α) : Owner W α := answered fun world => (question world, world)

def change (update : ApplicationRuntime → ApplicationRuntime) : Owner W Unit :=
  modify fun s => (update s.1, s.2)

def runtime : Owner W ApplicationRuntime := do return (← get).1

/-- `map_err(..)?`, which a panic goes through. -/
def settle (wrap : ε → RuntimeError) : Foundation.Attempt ε α → Owner W α
  | .ok value => pure value
  | .error (.failed error) => Stateful.fail (.failed (wrap error))
  | .error .panicked => Stateful.fail .panicked

def orFail (wrap : ε → RuntimeError) : Except ε α → Owner W α
  | .ok value => pure value
  | .error error => Stateful.fail (.failed (wrap error))

def orTooLate : Option α → Owner W α
  | some value => pure value
  | none => Stateful.fail (.failed .timeOutOfRange)

def pumping (call : ApplicationPump → Tape W → Except ε α × ApplicationPump × Tape W) :
    Owner W (Except ε α) := fun s =>
  (.ok (call s.1.pump s.2).1, { s.1 with pump := (call s.1.pump s.2).2.1 }, (call s.1.pump s.2).2.2)

def uploading (call : UploadCoordinator → Tape W → Except ε α × UploadCoordinator × Tape W) :
    Owner W (Except ε α) :=
  pumping fun pump tape =>
    ((call pump.uploads tape).1, pump.withUploads (call pump.uploads tape).2.1,
      (call pump.uploads tape).2.2)

variable (ports : RuntimePorts V W)

/-! The settings. -/

def applyClient (bundled : String) : Applier W := fun settings (applied, world) =>
  let desired := if settings.twitch.clientId.isEmpty then bundled else settings.twitch.clientId
  if applied = some desired then (.ok (), applied, world)
  else match ports.setClientId desired world with
    | (.ok (), world) => (.ok (), some desired, world)
    | (.error (.failed _), world) => (.error (.failed .settingsApplyFailed), applied, world)
    | (.error .panicked, world) => (.error .panicked, applied, world)

/-- A command that works on the applied client id. -/
def onClient (command : Stateful (Option String × W) (Fault NexusOptionsError) α) :
    Owner W (Foundation.Attempt NexusOptionsError α) := fun s =>
  let (answer, clientId, world) := command (s.1.applied.clientId, s.2.world)
  (.ok answer, { s.1 with applied := { s.1.applied with clientId } }, { s.2 with world })

def applyClientIdentity (settings : Settings) : Owner W Unit := do
  let bundled := (← runtime).bundledClientId
  settle .options (← onClient (applyClient ports bundled settings))

def applySource (general : GeneralSettings) (now : Instant) : Owner W Unit := do
  let desired ← asked ports.handle.requestedSelection
  let systemNow ← asked ports.systemNow
  let before ← runtime
  let proposal ← orFail .selection (before.selection.propose desired systemNow now)
  let selection := proposal.getD before.selection
  let source := {
    root := ⟨utf8 general.logDirectory⟩, recursive := general.watchSubdirectories
    maxCandidates := general.maxCandidates.toNat
    minimumLastWriteTime := some selection.discoveryCutoff }
  if before.applied.source.any (·.same source) then change ({ · with selection })
  else
    orFail .pump (← pumping (·.reconfigureSource ports.pump source ·))
    change fun runtime => { runtime with
      applied := { runtime.applied with source := some source }
      nextPoll := now, rootAvailable := false, selection }

def applyStability (stability : Nat) (now : Instant) : Owner W Unit := do
  if (← runtime).applied.stability = some stability then pure ()
  else
    orFail .pump (← pumping fun pump tape =>
      ((pump.setRequiredMatches stability).1, (pump.setRequiredMatches stability).2, tape))
    change fun runtime => { runtime with
      applied := { runtime.applied with stability := some stability }, nextPoll := now }

def applyParserCapacity (capacity : Nat) : Owner W Unit := do
  if (← runtime).applied.parserCapacity = some capacity then pure ()
  else
    orFail .parser (← pumping fun pump tape =>
      let (answer, tape) := pump.ingestion.updateParserCapacity ports.pump.parser capacity tape
      (answer, pump, tape))
    change fun runtime => { runtime with
      applied := { runtime.applied with parserCapacity := some capacity } }

def applyHistoryLimit (limit : Nat) : Owner W Unit := do
  if (← runtime).applied.historyLimit = some limit then pure ()
  else
    orFail .provider (← uploading (·.setHistoryLimit limit ·))
    change fun runtime => { runtime with
      applied := { runtime.applied with historyLimit := some limit } }

def policies (settings : Settings) (donbot : DonBotConfigurationSnapshot) : List ProviderPolicy :=
  [.dpsReport settings.dpsReport.detailedWvw, .wingman,
    .donbot settings.donbot.apiBaseUrl settings.donbot.selectedGuildId
      (authorizedDonbotDelivery settings donbot),
    .twitch settings.twitch.messageTemplate settings.twitch.postSuccess settings.twitch.postFailure]

def applyPolicies (parallelism : Nat) : List ProviderPolicy → Owner W Unit
  | [] => pure ()
  | policy :: rest => do
    let configuration := { parallelism, policy }
    if (← runtime).applied.policies policy.provider = some configuration then
      applyPolicies parallelism rest
    else
      orFail .provider (← uploading fun uploads tape =>
        let (answer, tape) := uploads.configureProvider ports.pump.uploads configuration tape
        (answer, uploads, tape))
      change fun runtime => { runtime with applied := { runtime.applied with
        policies :=
          Function.update runtime.applied.policies policy.provider (some configuration) } }
      applyPolicies parallelism rest

def applyInterval (interval : Duration) (now : Instant) : Owner W Unit := do
  if (← runtime).applied.pollInterval = some interval then pure ()
  else change fun runtime => { runtime with
    nextPoll := now, applied := { runtime.applied with pollInterval := some interval } }

def applyConfiguration (options : RuntimeOptions V) : Owner W Unit := do
  let settings := options.configuration.settings
  let general := settings.general
  let now ← asked ports.steadyNow
  applySource ports general now
  applyStability general.stabilityObservations.toNat now
  applyParserCapacity ports general.parserQueueCapacity.toNat
  applyHistoryLimit general.recentLogLimit.toNat
  applyPolicies ports general.parallelUploadsPerProvider.toNat
    (policies settings options.workflows.1)
  applyInterval (general.pollIntervalMs.toNat * 1_000_000) now

/-- Whether DonBot progressed. -/
def tickOptions : Owner W Bool := do
  let bundled := (← runtime).bundledClientId
  settle .options (← onClient (ports.options.tick (applyClient ports bundled)))

/-- The next refresh is an interval after the end of the last. -/
def scheduleRefresh (progressed : Bool) (donbot : DonBotConfigurationSnapshot) (now : Instant) :
    Owner W Unit := do
  if ((← runtime).refreshing || progressed) && !donbot.refreshing then
    let nextRefresh ← orTooLate (now.checkedAdd donbotRefresh)
    change ({ · with nextRefresh, refreshing := donbot.refreshing })
  else change ({ · with refreshing := donbot.refreshing })

def refreshWhenDue (options : RuntimeOptions V) (now : Instant) : Owner W (RuntimeOptions V) := do
  let donbot := options.workflows.1
  if options.configuration.settings.donbot.enabled && donbot.state == .verified &&
      !donbot.refreshing && (← runtime).nextRefresh.nanos ≤ now.nanos then
    let nextRefresh ← orTooLate (now.checkedAdd donbotRefresh)
    change ({ · with nextRefresh })
    settle .options (← answered ports.options.refreshDonBot)
    let options ← asked ports.options.snapshot
    change ({ · with refreshing := options.workflows.1.refreshing })
    return options
  else return options

/-! The history. -/

def save (records : List UploadJobRecord) : Owner W Unit := fun s =>
  match s.1.history.mergeAndSave ports.json ports.files records s.2.world with
  | (.ok (), history, world) =>
    (.ok (), { s.1 with history, lastPersisted := records },
      Tape.note { s.2 with world } (.saved records (oldest s.1.history.capacity
        (mergeKeyed JsonUploadHistoryStore.recordKey s.1.history.records records))))
  | (.error error, history, world) =>
    (.error (.failed (.history error)), { s.1 with history },
      Tape.note { s.2 with world } .saveFailed)

def persistHistory : Owner W Unit := do
  let before ← runtime
  let records := before.pump.uploads.history
  if records == before.lastPersisted then pure ()
  else save ports records

/-! The actions of the user. -/

def actionError (error : CoordinatorError) : RecentLogActionError :=
  if error = .unknownJob then .unknownJob else .retryFailed error

def launched (launch : W → Foundation.Attempt ExternalActionError Unit × W) (tape : Tape W) :
    Foundation.Attempt RecentLogActionError Unit × Tape W :=
  match launch tape.world with
  | (.ok (), world) => (.ok (), { tape with world })
  | (.error (.failed error), world) => (.error (.failed (.launchFailed error)), { tape with world })
  | (.error .panicked, world) => (.error .panicked, { tape with world })

/-- The retained job of this id. -/
def snapshotOf (uploads : UploadCoordinator) (id : UploadJobId) :
    Except RecentLogActionError UploadJobSnapshot :=
  match uploads.snapshots.find? (·.id = id) with
  | some job => .ok job
  | none => .error .unknownJob

def acted (call : Except CoordinatorError Unit × UploadCoordinator × Tape W) :
    Foundation.Attempt RecentLogActionError Unit × UploadCoordinator × Tape W :=
  match call with
  | (.ok (), uploads, tape) => (.ok (), uploads, tape)
  | (.error error, uploads, tape) => (.error (.failed (actionError error)), uploads, tape)

/-- The url or directory that a command opens. -/
def execute (command : RecentLogAction) (uploads : UploadCoordinator) (tape : Tape W) :
    Foundation.Attempt RecentLogActionError Unit × UploadCoordinator × Tape W :=
  match command with
  | .dismissError => (.ok (), uploads, tape)
  | .openReport id target =>
    match (do reportUrl (← snapshotOf uploads id) target) with
    | .error error => (.error (.failed error), uploads, tape)
    | .ok url =>
      let (answer, tape) := launched (ports.launcher.openUrl url) tape
      (answer, uploads, tape)
  | .openDirectory id =>
    match snapshotOf uploads id with
    | .error error => (.error (.failed error), uploads, tape)
    | .ok job => match Path.parent job.record.file.canonicalPath with
      | none => (.error (.failed .invalidDirectory), uploads, tape)
      | some directory =>
        let (answer, tape) := launched (ports.launcher.openDirectory directory) tape
        (answer, uploads, tape)
  | .retry id provider => acted (uploads.retryFailed ports.pump.uploads id provider tape)
  | .reupload id => acted (uploads.reupload ports.pump.uploads id tape)
  | .rechat id => acted (uploads.rechat ports.pump.uploads id tape)

/-- A command that panics ends as `internal`. -/
def caught : Foundation.Attempt RecentLogActionError Unit → Except RecentLogActionError Unit
  | .ok () => .ok ()
  | .error (.failed error) => .error error
  | .error .panicked => .error .internal

def actionLoop : (budget : Nat) → Owner W Unit
  | 0 => pure ()
  | budget + 1 => do
    match ← answered ports.actions.nextCommand with
    | none => pure ()
    | some command =>
      let outcome ← pumping fun pump tape =>
        let (answer, uploads, tape) := execute ports command pump.uploads tape
        (answer, pump.withUploads uploads, tape)
      told (ports.actions.finishCommand (caught outcome))
      actionLoop budget

def tickActions : Owner W Unit := do
  let budget ← orFail .actions (← answered ports.actions.beginTick)
  actionLoop ports budget
  told ports.actions.endTick

/-! The aggregate. -/

def submitAggregate (command : SendDonBotAggregateCommand) : Owner W Unit := do
  let aggregate ← orFail .aggregate ((← runtime).aggregate.submit command)
  change ({ · with aggregate })

def tickAggregate (configuration : ConfigurationService) (donbot : DonBotConfigurationSnapshot) :
    Owner W Unit := do
  let before ← runtime
  let (answer, aggregate) ← answered fun world =>
    let (answer, aggregate, world) :=
      before.aggregate.tick ports.aggregate before.pump.uploads configuration donbot world
    ((answer, aggregate), world)
  change ({ · with aggregate })
  orFail .aggregate answer

def aggregateTurn (donbot : DonBotConfigurationSnapshot) : Owner W Unit := do
  match ← asked ports.configuration with
  | none => Stateful.fail (.failed .internal)
  | some configuration => tickAggregate ports configuration donbot

def sendAggregate (donbot : DonBotConfigurationSnapshot) : Owner W Unit := do
  match ← answered ports.handle.takeAggregate with
  | some command => submitAggregate command
  | none => pure ()
  aggregateTurn ports donbot

/-! The pump. -/

def scan (enabled : ProviderSelection) (now : Instant) : Owner W (Except PumpError TickReport) := do
  let interval := (← runtime).applied.pollInterval.getD (Duration.fromSecs 1)
  let nextPoll ← orTooLate (now.checkedAdd interval)
  change ({ · with nextPoll })
  let result ← pumping (·.tick ports.pump enabled ·)
  match result with
  | .ok report => change ({ · with
      sourceError := none, rootAvailable := report.rootAvailable, sourceIssues := report.issues })
  | .error error => change ({ · with sourceError := some error })
  return result

def pumpOnce (enabled : ProviderSelection) (now : Instant) :
    Owner W (Except PumpError TickReport) := do
  if (← runtime).nextPoll.nanos ≤ now.nanos then scan ports enabled now
  else pumping (·.drainWork ports.pump ·)

/-- The error of the pump, or the one that the last scan ended with. -/
def pumped (result : Except PumpError TickReport) : Owner W Unit := do
  let _ ← orFail .pump result
  match (← runtime).sourceError with
  | some error => Stateful.fail (.failed (.pump error))
  | none => pure ()

def tickInner : Owner W Unit := do
  let progressed ← tickOptions ports
  let options ← asked ports.options.snapshot
  applyConfiguration ports options
  let now ← asked ports.steadyNow
  scheduleRefresh progressed options.workflows.1 now
  let options ← refreshWhenDue ports options now
  -- A failed save is made up for before results of the parser can dispatch uploads.
  persistHistory ports
  tickActions ports
  sendAggregate ports options.workflows.1
  let result ← pumpOnce ports options.configuration.settings.enabledProviders now
  persistHistory ports
  pumped result

/-! What is shown. -/

def nextSnapshot (runtime : ApplicationRuntime) (diagnostic : Option RuntimeError) (world : W) :
    RuntimeSnapshot V :=
  let before := ports.handle.shown world
  let aggregate := match ports.handle.waitingAggregate world with
    | some command => { runtime.aggregate.snapshot with
        state := .queued, fightLogCount := command.jobIds.length }
    | none => runtime.aggregate.snapshot
  { options := ports.options.snapshot world
    jobs := runtime.pump.uploads.snapshots
    recentActions := ports.actions.snapshot world
    aggregate
    selection := runtime.selection
    rootAvailable := runtime.rootAvailable
    sourceIssues := runtime.sourceIssues
    historyRecovery := before.historyRecovery
    diagnostic
    revision := before.revision
    shuttingDown := runtime.stopped }

def publish [DecidableEq V] (diagnostic : Option RuntimeError) : Owner W Unit := do
  let after ← runtime
  told fun world =>
    let snapshot := nextSnapshot ports after diagnostic world
    if snapshot == ports.handle.shown world then world
    else ports.handle.replaceShown
      { snapshot with revision := saturatingSucc64 snapshot.revision } world

def diagnosis : Fault RuntimeError → RuntimeError
  | .failed error => error
  | .panicked => .internal

/-- The error of a step, where a panic counts as one. -/
def diagnosed : Foundation.Attempt RuntimeError α → Option RuntimeError
  | .ok _ => none
  | .error fault => some (diagnosis fault)

def shutdown [DecidableEq V] : Owner W Unit := do
  if (← runtime).stopped then pure ()
  else
    change ({ · with stopped := true })
    told ports.handle.closeAdmission
    told ports.options.shutdown
    let before ← runtime
    let aggregate ← answered (before.aggregate.shutdown ports.aggregate)
    change ({ · with aggregate })
    let _ ← (pumping fun pump tape =>
      (.ok (), pump.cancelAll ports.pump tape) : Owner W (Except Empty Unit))
    let saved ← (persistHistory ports).attempt
    told ports.options.shutdownWorkflows
    told ports.shutdownConfiguration
    publish ports (diagnosed saved)

def tick [DecidableEq V] : Owner W Unit := do
  if (← runtime).stopped then Stateful.fail (.failed .shuttingDown)
  else if (← answered ports.pump.source.isStopRequested) || !(← asked ports.handle.accepting) then
    shutdown ports
    Stateful.fail (.failed .shuttingDown)
  else
    let result ← (tickInner ports).attempt
    publish ports (diagnosed result)
    match diagnosed result with
    | some error => Stateful.fail (.failed error)
    | none => pure ()

/-! The start, `initialize` in the source. -/

structure RuntimeParts where
  pump : ApplicationPump
  aggregate : DonBotAggregateDeliveryController
  history : JsonUploadHistoryStore

/-- The owner before the settings are applied, from what `history` holds. -/
def fresh (parts : RuntimeParts) (pump : ApplicationPump) (bundledClientId : String)
    (selection : SessionLogSelection) (steady nextRefresh : Instant) : ApplicationRuntime where
  pump
  aggregate := parts.aggregate
  history := parts.history
  applied := {}
  bundledClientId
  selection
  nextPoll := steady
  nextRefresh
  refreshing := false
  lastPersisted := parts.history.records
  rootAvailable := false
  sourceIssues := []
  sourceError := none
  stopped := false

def initialSettings (bundledClientId : String) (world : W) : Except RuntimeError Settings := do
  if !bundledClientId.isEmpty && !validTwitchClientId bundledClientId then
    .error .invalidConfiguration
  else match ports.configuration world with
    | none => .error .internal
    | some configuration =>
      if configuration.shuttingDown || !configuration.settings.validate.isEmpty then
        .error .invalidConfiguration
      else .ok configuration.settings

def configure [DecidableEq V] (settings : Settings) : Owner W Unit := do
  applyClientIdentity ports settings
  let options ← asked ports.options.snapshot
  applyConfiguration ports options
  let configured := (← runtime).applied.clientId.any (!·.isEmpty)
  let startup ← settle .options (← answered (ports.options.startSavedConnections configured))
  publish ports (startup.map .options)

/-- The first refresh of DonBot is due at `nextRefresh`, if the clock reaches that far. -/
def begun [DecidableEq V] (settings : Settings) (parts : RuntimeParts) (pump : ApplicationPump)
    (bundledClientId : String) (selection : SessionLogSelection) (steady : Instant)
    (tape : Tape W) : Option Instant → Except RuntimeError ApplicationRuntime × Tape W
  | none => (.error .timeOutOfRange, tape)
  | some nextRefresh =>
    match configure ports settings
        (fresh parts pump bundledClientId selection steady nextRefresh, tape) with
    | (.ok (), runtime, tape) => (.ok runtime, tape)
    | (.error fault, _, tape) => (.error (diagnosis fault), tape)

def startUp [DecidableEq V] (parts : RuntimeParts) (bundledClientId : String) (tape : Tape W) :
    Except RuntimeError ApplicationRuntime × Tape W :=
  match initialSettings ports bundledClientId tape.world with
  | .error error => (.error error, tape)
  | .ok settings =>
    let steady := ports.steadyNow tape.world
    let selection := .new (ports.systemNow tape.world) steady
    match parts.pump.restoreHistory parts.history.records
        (tape.note (.loaded parts.history.records)) with
    | (.error error, _, tape) => (.error (.pump error), tape)
    | (.ok (), pump, tape) =>
      begun ports settings parts pump bundledClientId selection steady tape
        (steady.checkedAdd donbotRefresh)

end ApplicationRuntime
end MannyUploader.Application
