import MannyUploader.Application.DonBotConfiguration
import MannyUploader.Application.ReportUrl
import MannyUploader.Application.UploadCoordinator
import MannyUploader.Foundation.Attempts
import MannyUploader.Providers.DonBotResponse

/-! The owner of the one DonBot aggregate that may be under way. What it delivers stays in the
session, and no retry is ever made of it. -/
namespace MannyUploader.Application
open Domain Foundation Providers

structure SendDonBotAggregateCommand where
  jobIds : List UploadJobId
  configurationRevision : UInt64
  donbotRevision : UInt64
deriving DecidableEq

structure DonBotAggregateRequest where
  requestId : UInt64
  apiBaseUrl : String
  guildId : String
  fightLogIds : List UInt64
  delivery : DonBotDeliveryRoute
deriving DecidableEq

inductive DonBotAggregateOutcome
  | succeeded | failed | ambiguous | cancelled
deriving DecidableEq, Repr

structure DonBotAggregateResult where
  requestId : UInt64
  outcome : DonBotAggregateOutcome
  fightLogCount : Nat
  discordDelivery : Option DonBotDiscordDeliveryReceipt
  credentialFailure : Option UploadFailure
deriving DecidableEq, Repr

inductive DonBotAggregateDispatchError
  | invalidRequest | busy | stopping
deriving DecidableEq, Repr

/-- The methods of `DonBotAggregateDelivery` on a world `W`. Any of them may panic. -/
structure AggregatePorts (W : Type) where
  enqueue : DonBotAggregateRequest → W → Foundation.Attempt DonBotAggregateDispatchError Unit × W
  tryTakeResult : W → Foundation.Attempt Empty (Option DonBotAggregateResult) × W
  cancelPending : W → W

inductive DonBotAggregateDeliveryState
  | idle | queued | sending | succeeded | failed | ambiguous | cancelled | shuttingDown
deriving DecidableEq, Repr

inductive DonBotAggregateDeliveryError
  | invalidCommand | busy | staleConfiguration | unavailable | unknownJob | ineligibleJob
  | dispatchFailed | shuttingDown | revisionExhausted
deriving DecidableEq, Repr

structure DonBotAggregateDeliverySnapshot where
  state : DonBotAggregateDeliveryState
  fightLogCount : Nat
  discordDelivery : Option DonBotDiscordDeliveryReceipt
  diagnostic : Option DonBotAggregateDeliveryError
  credentialFailure : Option UploadFailure
  revision : UInt64
  shuttingDown : Bool
deriving DecidableEq, Repr

/-- A request that was offered to the delivery, and what it was prepared from. -/
structure AggregateDispatch where
  command : SendDonBotAggregateCommand
  jobs : List UploadJobSnapshot
  request : DonBotAggregateRequest

/-- A snapshot, and the request that it speaks of. -/
structure AggregatePublication where
  about : Option UInt64
  snapshot : DonBotAggregateDeliverySnapshot

/-- What was submitted, offered and shown so far. It is bookkeeping for the proofs: the code has
none of it and no branch reads it. -/
structure AggregateAccount where
  submitted : List SendDonBotAggregateCommand := []
  dispatched : List AggregateDispatch := []
  published : List AggregatePublication := []

structure DonBotAggregateDeliveryController where
  command : Option SendDonBotAggregateCommand
  activeRequest : Option UInt64
  nextRequest : UInt64
  snapshot : DonBotAggregateDeliverySnapshot
  account : AggregateAccount

def UploadCoordinator.snapshots (c : UploadCoordinator) : List UploadJobSnapshot :=
  c.jobs.map fun entry => { id := entry.job.id, record := entry.job.record }

/-- The state that an outcome is shown as. -/
def DonBotAggregateOutcome.state : DonBotAggregateOutcome → DonBotAggregateDeliveryState
  | succeeded => .succeeded
  | failed => .failed
  | ambiguous => .ambiguous
  | cancelled => .cancelled

/-- What a result says of Discord agrees with its outcome. -/
def DonBotAggregateResult.validReceipt (result : DonBotAggregateResult) : Bool :=
  result.discordDelivery.all fun (receipt : DonBotDiscordDeliveryReceipt) =>
    receipt.isValidWithLimit maxDonbotAggregateFights && receipt.outcome != .notRequested &&
      match result.outcome with
      | .ambiguous => receipt.ambiguous > 0
      | .succeeded => receipt.sent > 0 && receipt.ambiguous == 0
      | .failed => receipt.sent == 0 && receipt.ambiguous == 0
      | .cancelled => false

namespace DonBotAggregateDeliveryController

def new : DonBotAggregateDeliveryController where
  command := none
  activeRequest := none
  nextRequest := 1
  snapshot := {
    state := .idle, fightLogCount := 0, discordDelivery := none, diagnostic := none
    credentialFailure := none, revision := 1, shuttingDown := false }
  account := {}

def publish (about : Option UInt64) (state : DonBotAggregateDeliveryState)
    (diagnostic : Option DonBotAggregateDeliveryError)
    (receipt : Option DonBotDiscordDeliveryReceipt) (credentialFailure : Option UploadFailure)
    (c : DonBotAggregateDeliveryController) : DonBotAggregateDeliveryController :=
  let snapshot := { c.snapshot with
    state, diagnostic, credentialFailure, discordDelivery := receipt
    revision := c.snapshot.revision + 1 }
  { c with
    snapshot
    account := { c.account with published := c.account.published ++ [⟨about, snapshot⟩] } }

/-- Three more revisions are reserved: sending, completion and shutdown. -/
def submit (command : SendDonBotAggregateCommand) (c : DonBotAggregateDeliveryController) :
    Except DonBotAggregateDeliveryError DonBotAggregateDeliveryController :=
  if c.snapshot.shuttingDown then .error .shuttingDown
  else if c.command.isSome || c.activeRequest.isSome then .error .busy
  else if ConfigurationService.maxRevision - 3 ≤ c.snapshot.revision ||
      c.nextRequest == ConfigurationService.maxRevision then .error .revisionExhausted
  else if command.configurationRevision == 0 || command.donbotRevision == 0 ||
      !(2 ≤ command.jobIds.length && command.jobIds.length ≤ maxDonbotAggregateFights.toNat) then
    .error .invalidCommand
  else if ¬command.jobIds.Nodup then .error .invalidCommand
  else
    .ok <| publish none .queued none none none { c with
      command := some command
      snapshot := { c.snapshot with fightLogCount := command.jobIds.length }
      account := { c.account with submitted := c.account.submitted ++ [command] } }

/-- The fight of a job: completed, and not one of those before it. -/
def fightOf (jobs : List UploadJobSnapshot) (before : List UInt64) (id : UploadJobId) :
    Except DonBotAggregateDeliveryError UInt64 :=
  match jobs.find? (·.id = id) with
  | none => .error .unknownJob
  | some job =>
    match (job.record.donbotUploadReceipt.bind (·.fightLogId)).filter
        fun fight => validDonbotFightId fight && !before.contains fight with
    | none => .error .ineligibleJob
    | some fight => .ok fight

/-- The loop over the selected jobs. -/
def fightLogIds (jobs : List UploadJobSnapshot) (ids : List UploadJobId) :
    Except DonBotAggregateDeliveryError (List UInt64) :=
  ids.foldlM (fun before id => do
    let fight ← fightOf jobs before id
    pure (before ++ [fight])) []

def prepare (c : DonBotAggregateDeliveryController) (command : SendDonBotAggregateCommand)
    (jobs : List UploadJobSnapshot) (configuration : ConfigurationService)
    (donbot : DonBotConfigurationSnapshot) :
    Except DonBotAggregateDeliveryError DonBotAggregateRequest :=
  if command.configurationRevision != configuration.revision ||
      command.donbotRevision != donbot.revision then .error .staleConfiguration
  else
    let route := authorizedDonbotAggregateRoute configuration.settings donbot
    match donbot.guilds.find? (·.guildId == donbot.selectedGuildId) with
    | none => .error .unavailable
    | some guild =>
      let maximum := guild.discordDelivery.maxAggregateFightLogs
      if donbot.refreshing || !donbot.discordAggregateDeliveryV1 ||
          !guild.discordDelivery.aggregateEnabled || !route.requested ||
          !(2 ≤ maximum && maximum ≤ maxDonbotAggregateFights) ||
          maximum.toNat < command.jobIds.length then .error .unavailable
      else do
        let fightLogIds ← fightLogIds jobs command.jobIds
        pure {
          requestId := c.nextRequest
          apiBaseUrl := donbot.apiBaseUrl
          guildId := configuration.settings.donbot.selectedGuildId
          fightLogIds
          delivery := route }

def handleResult (result : DonBotAggregateResult) (c : DonBotAggregateDeliveryController) :
    DonBotAggregateDeliveryController :=
  if c.activeRequest ≠ some result.requestId then c
  else
    let c := { c with activeRequest := none }
    let about := some result.requestId
    if result.fightLogCount ≠ c.snapshot.fightLogCount || !result.validReceipt ||
        (result.outcome = .succeeded && result.discordDelivery.isNone) ||
        (result.credentialFailure.isSome &&
          (result.outcome ≠ .failed || result.discordDelivery.isSome)) then
      c.publish about .ambiguous none none none
    else c.publish about result.outcome.state none result.discordDelivery result.credentialFailure

/-- The taking of a result panicked. -/
def unwound (c : DonBotAggregateDeliveryController) : DonBotAggregateDeliveryController :=
  match c.activeRequest with
  | some id => { c with activeRequest := none }.publish (some id) .ambiguous none none none
  | none =>
    match c.command with
    | some _ => { c with command := none }.publish none .failed (some .dispatchFailed) none none
    | none => c

section ports
variable {W : Type} (ports : AggregatePorts W)

/-- Offer a prepared request. One whose `enqueue` panics may have been accepted. -/
def offer (dispatch : AggregateDispatch) (c : DonBotAggregateDeliveryController) (world : W) :
    DonBotAggregateDeliveryController × W :=
  let id := dispatch.request.requestId
  let c := { c with
    nextRequest := c.nextRequest + 1
    account := { c.account with dispatched := c.account.dispatched ++ [dispatch] } }
  match ports.enqueue dispatch.request world with
  | (.ok (), world) =>
    ({ c with activeRequest := some id }.publish (some id) .sending none none none, world)
  | (.error (.failed _), world) =>
    (c.publish (some id) .failed (some .dispatchFailed) none none, world)
  | (.error .panicked, world) => (c.publish (some id) .ambiguous none none none, world)

/-- The part of `tick` that dispatches the command. -/
def dispatch (jobs : List UploadJobSnapshot) (configuration : ConfigurationService)
    (donbot : DonBotConfigurationSnapshot) (c : DonBotAggregateDeliveryController) (world : W) :
    DonBotAggregateDeliveryController × W :=
  match c.command with
  | none => (c, world)
  | some command =>
    let c := { c with command := none }
    match c.prepare command jobs configuration donbot with
    | .error error => (c.publish none .failed (some error) none none, world)
    | .ok request => c.offer ports ⟨command, jobs, request⟩ world

/-- Consumes at most one result and dispatches at most one explicitly submitted command. -/
def tick (uploads : UploadCoordinator) (configuration : ConfigurationService)
    (donbot : DonBotConfigurationSnapshot) (c : DonBotAggregateDeliveryController) (world : W) :
    Except DonBotAggregateDeliveryError Unit × DonBotAggregateDeliveryController × W :=
  if c.snapshot.shuttingDown || configuration.shuttingDown then
    (.error .shuttingDown, c, world)
  else match ports.tryTakeResult world with
    | (.error _, world) => (.ok (), c.unwound, world)
    | (.ok none, world) => (.ok (), c.dispatch ports uploads.snapshots configuration donbot world)
    | (.ok (some result), world) =>
      (.ok (), (c.handleResult result).dispatch ports uploads.snapshots configuration donbot world)

def shutdown (c : DonBotAggregateDeliveryController) (world : W) :
    DonBotAggregateDeliveryController × W :=
  if c.snapshot.shuttingDown then (c, world)
  else
    let c := { c with
      command := none, activeRequest := none
      snapshot := { c.snapshot with shuttingDown := true } }
    (c.publish none .shuttingDown none none none, ports.cancelPending world)

end ports

end DonBotAggregateDeliveryController
end MannyUploader.Application
