import MannyUploader.Application.NexusOptions
import MannyUploader.Application.RecentLogActions

/-! The queue of the commands of the options window, and the ticks of its one owner. Each step is
one section under the lock of the queue, or one call of what the owner drives. -/
namespace MannyUploader.Application
open Config Domain Foundation

structure NexusOrdinaryOptions where
  general : GeneralSettings
  twitchClientId : String
  twitchMessageTemplate : String
  twitchPostSuccess : Bool
  twitchPostFailure : Bool
deriving DecidableEq

/-- Merge against the current settings. -/
def NexusOrdinaryOptions.merge (draft : NexusOrdinaryOptions) (current : Settings)
    (connection : TwitchConnectionState) : Except NexusOptionsError Settings :=
  if draft.twitchClientId ≠ current.twitch.clientId ∧
      ¬(connection = .disconnected ∨ connection = .error) then .error .clientIdInUse
  else
    let merged := { current with
      -- A queued close or open can run after the snapshot that the draft was made from.
      general := { draft.general with windowVisible := current.general.windowVisible }
      twitch := { current.twitch with
        clientId := draft.twitchClientId, messageTemplate := draft.twitchMessageTemplate
        postSuccess := draft.twitchPostSuccess, postFailure := draft.twitchPostFailure } }
    if merged.validate.isEmpty then .ok merged else .error (.invalidSettings merged.validate)

inductive NexusOptionsCommand
  | saveOrdinary (draft : NexusOrdinaryOptions)
  | setWindowVisible (value : Bool)
  | setDpsReportEnabled (value : Bool)
  | setDpsReportDetailedWvw (value : Bool)
  | setWingmanEnabled (value : Bool)
  | verifyDonBot (apiBaseUrl : String) (apiKey : SecretValue)
  | selectDonBotGuild (id : String)
  | setDonBotEnabled (value : Bool)
  | refreshDonBot
  | setDonBotDiscordDeliveryEnabled (value : Bool)
  | selectDonBotDiscordChannel (id : String)
  | disconnectDonBot
  | connectTwitch
  | openTwitchAuthorization (revision : UInt64)
  | setTwitchEnabled (value : Bool)
  | disconnectTwitch
  | sendTwitchTestMessage
  | dismissError
deriving DecidableEq

def validateCommand (command : NexusOptionsCommand) : Except NexusOptionsError Unit := do
  let valid ← match command with
    | .saveOrdinary draft =>
      (draft.merge (Settings.new "validation") .disconnected).map fun _ => true
    | .verifyDonBot apiBaseUrl apiKey =>
      pure ((normalizeDonbotApiBase apiBaseUrl).isSome && validDonbotApiKey apiKey)
    | .selectDonBotGuild id => pure (canonicalDiscordId id)
    | .selectDonBotDiscordChannel id => pure (id.isEmpty || canonicalDiscordId id)
    | .openTwitchAuthorization revision => pure (revision != 0)
    | _ => pure true
  if valid then .ok () else .error .invalidCommand

structure ConfigurationSnapshot where
  settings : Settings
  settingsLoadSource : SettingsLoadSource
  settingsRecovery : Option SettingsReadIssue
  absentSecrets : Option SecretStoreError
  revision : UInt64
  shuttingDown : Bool
deriving DecidableEq

def ConfigurationService.snapshot (service : ConfigurationService) : ConfigurationSnapshot :=
  { settings := service.settings, settingsLoadSource := service.settingsLoadSource
    settingsRecovery := service.settingsRecovery, absentSecrets := service.absentSecrets
    revision := service.revision, shuttingDown := service.shuttingDown }

/-- The snapshots of DonBot, of Twitch and of its test message are one value of a type `V`. -/
structure NexusOptionsSnapshot (V : Type) where
  configuration : ConfigurationSnapshot
  workflows : V
  lastError : Option NexusOptionsError
  pendingCommands : Nat
  revision : UInt64
  acceptingCommands : Bool
  shuttingDown : Bool
deriving DecidableEq

/-- A snapshot that differs from the one before has a revision of its own. -/
def NexusOptionsSnapshot.replacing {V : Type} [DecidableEq V]
    (snapshot before : NexusOptionsSnapshot V) : NexusOptionsSnapshot V :=
  if before ≠ snapshot then { snapshot with revision := saturatingSucc64 snapshot.revision }
  else snapshot

structure NexusQueue (V : Type) where
  commands : List NexusOptionsCommand
  snapshot : NexusOptionsSnapshot V
  capacity : Nat

structure NexusOptionsTickReport where
  commandsProcessed : Nat := 0
  actionFailures : Nat := 0
deriving DecidableEq, Repr

/-- Which of its calls of the settings applier a tick stands before. -/
inductive Applying
  | opening
  | round (left : Nat)
  | last
deriving DecidableEq, Repr

/-- Where the owner stands. -/
inductive OwnerStage
  | resting
  | publishing (error : Option NexusOptionsError) (clearError : Bool) (next : Applying)
  | applying (next : Applying)
  /-- The settings could not be applied, and the tick ends with that. -/
  | failing (error : NexusOptionsError)
  | budgeting
  | choosing (left : Nat)
  | executing (left : Nat) (command : NexusOptionsCommand)
  /-- Behind the loop. -/
  | checking
  | polling
  /-- Between the two sections of `shutdown`. -/
  | closing
deriving DecidableEq

inductive NexusEvent
  | queue (event : QueueEvent NexusOptionsCommand)
  /-- What the service held, if it could be read, and what is shown from here on. -/
  | published (service : Option Settings) (shown : Settings)
  | applied (settings : Settings) (succeeded : Bool)
deriving DecidableEq

structure NexusOptionsController (V : Type) where
  queue : NexusQueue V
  configuration : ConfigurationService
  /-- A panic under its lock made the configuration unreadable. -/
  poisoned : Bool
  workflows : V
  maxCommandsPerTick : Nat
  stopped : Bool
  stage : OwnerStage
  report : NexusOptionsTickReport
  log : List NexusEvent

/-- What a call of the owner leaves behind. -/
structure Effects (V : Type) where
  configuration : ConfigurationService
  poisoned : Bool
  workflows : V

namespace NexusOptionsController
variable {V : Type}

def new (configuration : ConfigurationService) (poisoned : Bool) (workflows : V)
    (workflowsShutDown : Bool) (commandCapacity maxCommandsPerTick : Nat) (reserved : Bool) :
    Except NexusOptionsError (NexusOptionsController V) :=
  if ¬(1 ≤ commandCapacity ∧ commandCapacity ≤ 256) ∨
      ¬(1 ≤ maxCommandsPerTick ∧ maxCommandsPerTick ≤ commandCapacity) then
    .error .invalidConfiguration
  else if poisoned then .error .internal
  else if configuration.shuttingDown || workflowsShutDown then .error .shuttingDown
  else if !reserved then .error .invalidConfiguration
  else .ok {
    configuration, poisoned, workflows, maxCommandsPerTick, stopped := false
    stage := .resting, report := {}, log := []
    queue := {
      commands := [], capacity := commandCapacity
      snapshot := {
        configuration := configuration.snapshot, workflows, lastError := none
        pendingCommands := 0, revision := 1, acceptingCommands := true, shuttingDown := false } } }

variable (controller : NexusOptionsController V)

def logged (event : QueueEvent NexusOptionsCommand) : NexusOptionsController V :=
  { controller with log := controller.log ++ [.queue event] }

/-- `NexusOptionsHandle::submit`. -/
def submit (command : NexusOptionsCommand) :
    Except NexusOptionsError Unit × NexusOptionsController V :=
  let queue := controller.queue
  if !queue.snapshot.acceptingCommands || queue.snapshot.shuttingDown then
    (.error .shuttingDown, controller)
  else if RecentLogActionsController.maxRevision - 1 ≤ queue.snapshot.revision then
    (.error .revisionExhausted, controller)
  else
    match (errorOf (validateCommand command)).or
        (if queue.commands.length = queue.capacity then some .queueFull else none) with
    | some error => (.error error, { controller with queue := { queue with
        snapshot := { queue.snapshot with
          lastError := some error, revision := queue.snapshot.revision + 1 } } })
    | none => (.ok (), { controller.logged (.accepted command) with queue := { queue with
        commands := queue.commands ++ [command]
        snapshot := { queue.snapshot with
          pendingCommands := queue.commands.length + 1
          revision := queue.snapshot.revision + 1 } } })

/-- `NexusOptionsHandle::stop_accepting`. -/
def stopAccepting : NexusOptionsController V :=
  let queue := controller.queue
  if !queue.snapshot.acceptingCommands then controller
  else { controller.logged (.closed queue.commands) with queue := { queue with
    commands := []
    snapshot := { queue.snapshot with
      acceptingCommands := false, pendingCommands := 0
      revision := saturatingSucc64 queue.snapshot.revision } } }

/-- `shutdown` up to where the test message is shut down. -/
def beginShutdown : NexusOptionsController V :=
  if controller.stopped then { controller with stage := .resting }
  else { controller.stopAccepting with stopped := true, stage := .closing }

/-- The rest of `shutdown`, with what the test message became. -/
def endShutdown (workflows : V) : NexusOptionsController V :=
  match controller.stage with
  | .closing =>
    let queue := controller.queue
    { controller with
      stage := .resting, workflows
      queue := { queue with snapshot := { queue.snapshot with
        workflows, shuttingDown := true
        revision := saturatingSucc64 queue.snapshot.revision } } }
  | _ => controller

def shutdown : NexusOptionsController V :=
  if controller.stage = .resting then controller.beginShutdown else controller

/-- A panicking adapter poisons the configuration. The last published settings stay, and the
failure is shown. -/
def shownNext (error : Option NexusOptionsError) (clearError : Bool) : NexusOptionsSnapshot V :=
  let shown := controller.queue.snapshot
  let error := if controller.poisoned then some .internal else error
  { shown with
    configuration :=
      if controller.poisoned then shown.configuration else controller.configuration.snapshot
    workflows := controller.workflows
    lastError := if error.isSome || clearError then error else shown.lastError }

def publish [DecidableEq V] (error : Option NexusOptionsError) (clearError : Bool) :
    NexusOptionsController V :=
  if controller.queue.snapshot.shuttingDown then controller
  else
    let shown := controller.shownNext error clearError
    { controller with
      queue := { controller.queue with snapshot := shown.replacing controller.queue.snapshot }
      log := controller.log ++ [.published
        (if controller.poisoned then none else some controller.configuration.settings)
        shown.configuration.settings] }

/-- The first section of `tick_with_settings_applier`. -/
def tick : NexusOptionsController V :=
  match controller.stage with
  | .resting =>
    if controller.stopped || !controller.queue.snapshot.acceptingCommands then
      controller.beginShutdown
    else
      { controller.logged .turn with stage := .publishing none false .opening, report := {} }
  | _ => controller

/-- The head of the loop, with the section that takes a command. -/
def nextCommand (left : Nat) : NexusOptionsController V :=
  let queue := controller.queue
  match left, queue.commands with
  | left + 1, command :: rest =>
    if !queue.snapshot.acceptingCommands then { controller with stage := .checking }
    else { controller.logged (.taken command) with
      stage := .executing left command
      queue := { queue with
        commands := rest
        snapshot := { queue.snapshot with
          pendingCommands := rest.length
          revision := saturatingSucc64 queue.snapshot.revision } } }
  | _, _ => { controller with stage := .checking }

/-- The next section that the owner enters by itself. -/
def proceed [DecidableEq V] : NexusOptionsController V :=
  match controller.stage with
  | .publishing error clearError next =>
    { controller.publish error clearError with stage := .applying next }
  | .failing error => { controller.publish (some error) false with stage := .resting }
  | .budgeting =>
    let budget := min controller.queue.commands.length controller.maxCommandsPerTick
    { controller with stage := .choosing budget }
  | .choosing left => controller.nextCommand left
  | .checking =>
    if !controller.queue.snapshot.acceptingCommands then controller.beginShutdown
    else { controller with stage := .polling }
  | _ => controller

def withEffects (effects : Effects V) : NexusOptionsController V :=
  { controller with
    configuration := effects.configuration, workflows := effects.workflows
    -- A lock stays poisoned.
    poisoned := controller.poisoned || effects.poisoned }

/-- `execute` returns or panics. -/
def executed (outcome : Outcome NexusOptionsError) (effects : Effects V) :
    NexusOptionsController V :=
  match controller.stage with
  | .executing left command =>
    let result := outcome.settled .internal
    { (controller.withEffects effects).logged (.ran command) with
      stage := .publishing (errorOf result) true (.round left)
      report := {
        commandsProcessed := controller.report.commandsProcessed + 1
        actionFailures := controller.report.actionFailures + if result.isOk then 0 else 1 } }
  | _ => controller

/-- The settings applier, called with the settings that are shown, returns or panics. -/
def applied (outcome : Outcome NexusOptionsError) : NexusOptionsController V :=
  match controller.stage with
  | .applying next =>
    let result := outcome.settled .settingsApplyFailed
    let stage := match errorOf result, next with
      | some error, _ => .failing error
      | none, .opening => .budgeting
      | none, .round left => .choosing left
      | none, .last => .resting
    { controller with
      stage
      log := controller.log ++
        [.applied controller.queue.snapshot.configuration.settings result.isOk] }
  | _ => controller

/-- The workflows are polled. An answer of `none` is a panic that leaves the tick. -/
def polled (answer : Option (Option NexusOptionsError)) (effects : Effects V) :
    NexusOptionsController V :=
  match controller.stage with
  | .polling =>
    let stage := match answer with
      | some error => .publishing error false .last
      | none => .resting
    { controller.withEffects effects with stage }
  | _ => controller

/-- The owner uses the configuration and the workflows between two ticks. -/
def between (effects : Effects V) : NexusOptionsController V :=
  if controller.stage = .resting then controller.withEffects effects else controller

/-- `refresh_donbot` and `start_saved_connections` end so. -/
def republish [DecidableEq V] (error : Option NexusOptionsError) : NexusOptionsController V :=
  if controller.stage = .resting then controller.publish error false else controller

end NexusOptionsController

inductive NexusAccess (V : Type)
  | submit (command : NexusOptionsCommand)
  | stopAccepting
  | tick
  | proceed
  | executed (outcome : Outcome NexusOptionsError) (effects : Effects V)
  | applied (outcome : Outcome NexusOptionsError)
  | polled (answer : Option (Option NexusOptionsError)) (effects : Effects V)
  | between (effects : Effects V)
  | republish (error : Option NexusOptionsError)
  | shutdown
  | endShutdown (workflows : V)

def NexusOptionsController.step {V : Type} [DecidableEq V] (controller : NexusOptionsController V) :
    NexusAccess V → NexusOptionsController V
  | .submit command => (controller.submit command).2
  | .stopAccepting => controller.stopAccepting
  | .tick => controller.tick
  | .proceed => controller.proceed
  | .executed outcome effects => controller.executed outcome effects
  | .applied outcome => controller.applied outcome
  | .polled answer effects => controller.polled answer effects
  | .between effects => controller.between effects
  | .republish error => controller.republish error
  | .shutdown => controller.shutdown
  | .endShutdown workflows => controller.endShutdown workflows

end MannyUploader.Application
