import MannyUploader.Domain.UploadJob

/-! The values exchanged with the upload providers, and the providers themselves. A
provider is whatever answers its calls: its state, and everything else that lives outside
the coordinator, is a value of a type `W` that every call may change. A call that panics is
the error that `catch_unwind` makes of it. -/
namespace MannyUploader.Application
open Domain

inductive UploadIntent
  | automatic | manualRetry | reupload | rechat
deriving DecidableEq, Repr

def UploadIntent.isUserInitiated (intent : UploadIntent) : Bool := intent != .automatic

structure UploadRequest where
  jobId : UploadJobId
  provider : Provider
  attempt : UInt32
  file : LogFileIdentity
  metadata : EncounterMetadata
  dpsReportResult : Option DpsReportResult
  intent : UploadIntent
deriving DecidableEq

inductive UploadSuccess
  | dpsReport (report : DpsReportResult)
  | wingman (receipt : Option WingmanUploadReceipt)
  | donbot (receipt : Option DonBotUploadReceipt)
  | twitch (receipt : TwitchDeliveryReceipt)
deriving DecidableEq, Repr

inductive UploadNotice
  | queued | alreadyPresent | providerWarning | invalidReturnedCredential
  | credentialStorageUnavailable | discordSent | discordPartial | discordSkipped
  | discordFailed | discordAmbiguous
deriving DecidableEq, Repr

def UploadNotice.detail : UploadNotice → String
  | .queued => "Queued"
  | .alreadyPresent => "Already present"
  | .providerWarning => "Uploaded; the provider reported a warning"
  | .invalidReturnedCredential => "Uploaded; the returned credential was unusable"
  | .credentialStorageUnavailable => "Uploaded; protected token storage is unavailable"
  | .discordSent => "Uploaded. Discord summaries sent"
  | .discordPartial => "Uploaded. Some Discord summaries were not sent"
  | .discordSkipped => "Uploaded. Discord summaries skipped"
  | .discordFailed => "Uploaded. Discord delivery failed"
  | .discordAmbiguous => "Uploaded. Discord delivery could not be confirmed"

inductive TwitchChatError
  | invalidMessage | notConnected | reconnectRequired | sessionFailed | sendFailed
deriving DecidableEq, Repr

def TwitchChatError.detail : TwitchChatError → String
  | .invalidMessage => "The Twitch chat message is invalid"
  | .notConnected => "Connect Twitch before posting to chat"
  | .reconnectRequired => "Reconnect Twitch before posting again"
  | .sessionFailed => "The Twitch session is unavailable"
  | .sendFailed => "Twitch rejected the chat request"

inductive UploadFailure
  | twitch (error : TwitchChatError)
  | donBotKeyMissing | credentialLoadFailed | unconfirmedUpload | unconfirmedDelivery
deriving DecidableEq, Repr

def UploadFailure.detail : UploadFailure → String
  | .twitch error => error.detail
  | .donBotKeyMissing => "Verify DonBot before uploading"
  | .credentialLoadFailed => "Protected credentials could not be loaded"
  | .unconfirmedUpload => "Upload could not be confirmed. Automatic retry is disabled"
  | .unconfirmedDelivery =>
    "Discord delivery could not be confirmed. Automatic retry is disabled"

inductive UploadOutcome
  | succeeded (success : UploadSuccess)
  | succeededWithNotice (success : UploadSuccess) (notice : UploadNotice)
  | skipped
  | retryAfter (delay : Duration)
  | failed
  | failedWithNotice (failure : UploadFailure)
  | twitchDropped (receipt : TwitchDeliveryReceipt)
  | ambiguous
  | cancelled
deriving DecidableEq, Repr

structure UploadResult where
  jobId : UploadJobId
  provider : Provider
  attempt : UInt32
  outcome : UploadOutcome
deriving DecidableEq

inductive ProviderError
  | queueFull | stopping | invalidRequest | unavailable | panicked
deriving DecidableEq, Repr

inductive ProviderConfigurationError
  | invalidConfiguration | unavailable | resourceLimit | stopping | panicked
deriving DecidableEq, Repr

inductive DonBotDeliveryRoute
  | none | guildDefaults
  | channelOverride (channelId : String)
deriving DecidableEq, Repr

inductive ProviderPolicy
  | dpsReport (detailedWvw : Bool)
  | wingman
  | donbot (apiBaseUrl guildId : String) (delivery : DonBotDeliveryRoute)
  | twitch (messageTemplate : String) (postSuccess postFailure : Bool)
deriving DecidableEq, Repr

def ProviderPolicy.provider : ProviderPolicy → Provider
  | .dpsReport .. => .dpsReport
  | .wingman => .wingman
  | .donbot .. => .donbot
  | .twitch .. => .twitch

structure ProviderConfiguration where
  parallelism : Nat
  policy : ProviderPolicy
deriving DecidableEq, Repr

/-- The clock and the providers: the methods of `Clock` and `UploadProvider`. -/
structure UploadPorts (W : Type) where
  systemNow : W → SystemTime
  steadyNow : W → Instant
  configure : Provider → ProviderConfiguration → W → Except ProviderConfigurationError Unit × W
  enqueue : Provider → UploadRequest → W → Except ProviderError Unit × W
  tryTakeResult : Provider → W → Except ProviderError (Option UploadResult) × W
  cancelPending : Provider → W → W

/-- What happened in a run, oldest first. `enqueued` keeps the job as it was handed over
with the provider's answer, and `forgot` the files of the jobs retained at that time. -/
inductive Event
  | admitted (job : UploadJob)
  | restored (job : UploadJob)
  | enqueued (job : UploadJob) (request : UploadRequest) (answer : Except ProviderError Unit)
  | applied (result : UploadResult)
  | evicted (job : UploadJob)
  | forgot (oldest : LogFileIdentity) (retained : List LogFileIdentity)
  | loaded (records : List UploadJobRecord)
  | saved (records trimmed : List UploadJobRecord)
  | saveFailed
  | cutShort
deriving DecidableEq

/-- The outside world, with the events so far. Only proofs read the events. -/
structure Tape (W : Type) where
  world : W
  events : List Event

namespace Tape

def note (tape : Tape W) (event : Event) : Tape W :=
  { tape with events := tape.events ++ [event] }

def noteAll (tape : Tape W) (events : List Event) : Tape W :=
  { tape with events := tape.events ++ events }

@[simp] theorem note_events (tape : Tape W) (event : Event) :
    (tape.note event).events = tape.events ++ [event] := rfl

@[simp] theorem noteAll_events (tape : Tape W) (events : List Event) :
    (tape.noteAll events).events = tape.events ++ events := rfl

@[simp] theorem note_world (tape : Tape W) (event : Event) :
    (tape.note event).world = tape.world := rfl

/-- Hand a request to a provider. -/
def enqueue (tape : Tape W) (ports : UploadPorts W) (job : UploadJob) (request : UploadRequest) :
    Except ProviderError Unit × Tape W :=
  let (answer, world) := ports.enqueue request.provider request tape.world
  (answer, { world, events := tape.events ++ [.enqueued job request answer] })

end Tape

/-! A small session for the results that are shown at work on fixed inputs. -/

/-- Providers that accept every request and leave the results to their caller. -/
def acceptingPorts : UploadPorts W where
  systemNow _ := .unixEpoch
  steadyNow _ := ⟨0⟩
  configure _ _ world := (.ok (), world)
  enqueue _ _ world := (.ok (), world)
  tryTakeResult _ world := (.ok none, world)
  cancelPending _ world := world

def sampleLog (size : UInt64) : LogFileIdentity :=
  { canonicalPath := ⟨utf8 "C:\\logs\\a.zevtc"⟩, size, lastWriteTime := .unixEpoch }

def sampleMetadata : EncounterMetadata :=
  { bossId := 15438, povAccount := "Player.1234", remainingHealthBasisPoints := none }

def sampleReport : DpsReportResult :=
  { permalink := "https://dps.report/abcd", encounterName := "Vale Guardian", bossId := 15438
    mode := "raid", success := true }

def sampleJobId : UploadJobId := ⟨1, UploadJobId.one_nonzero⟩

def allEnabled : ProviderSelection := ⟨true, true, true, true⟩

def sampleSuccess (provider : Provider) (attempt : UInt32) : UploadResult :=
  { jobId := sampleJobId, provider, attempt
    outcome := .succeeded (match provider with
      | .dpsReport => .dpsReport sampleReport
      | .wingman => .wingman none
      | .donbot => .donbot none
      | .twitch => .twitch ⟨.sent, some "1"⟩) }

end MannyUploader.Application
