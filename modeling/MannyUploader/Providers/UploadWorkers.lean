import MannyUploader.Providers.DonBotClient
import MannyUploader.Providers.TwitchChatDelivery
import MannyUploader.Providers.WingmanClient

/-! The upload workers of Wingman and DonBot: which requests they take, and what becomes of one
that runs with the real client. -/
namespace MannyUploader.Providers
open Domain Application Foundation Client

/-- The pool answers for a processor that panics. -/
def pooled {α : Type} (answer : α) (processor : Client Empty α) : Client Empty α :=
  processor.settle fun (result : Except (Fault Empty) α) => match result with
    | .ok output => pure output
    | .error _ => pure answer

/-- What comes out after a stop is dropped. -/
def unlessStopped (outcome : UploadOutcome) : Client Empty UploadOutcome := do
  let stopped ← stopRequested
  pure (if stopped then .cancelled else outcome)

/-- `UploadTask::result`, and that of `Upload`. -/
def uploadResult (request : UploadRequest) (outcome : UploadOutcome) : UploadResult :=
  { jobId := request.jobId, provider := request.provider, attempt := request.attempt, outcome }

/-- `AsyncUploadWorker::enqueue` up to the pool. -/
def takesRequest (provider : Provider) (request : UploadRequest) : Bool :=
  request.provider == provider && request.attempt != 0 &&
    !request.file.canonicalPath.bytes.isEmpty

namespace WingmanWorker

def accepts (request : UploadRequest) : Bool :=
  request.metadata.bossId != wvwBossId && takesRequest .wingman request

def failureOutcome (error : WingmanError) : UploadOutcome :=
  match error.disposition with
  | .cancelled => .cancelled
  | .failed => .failed
  | .retry => .retryAfter (TwitchChatDelivery.retryDelay error.retryAfter)

def successOutcome (imported : Bool) (result : WingmanSuccess) : UploadOutcome :=
  let success := UploadSuccess.wingman (result.permalink.map fun permalink => { permalink })
  if result.duplicate then .succeededWithNotice success .alreadyPresent
  else if imported then .succeededWithNotice success .queued
  else .succeeded success

/-- The call of the client. -/
def deliver (client : WingmanClient) (readers : WingmanResponse.Readers) (rounds : Nat)
    (request : UploadRequest) : Client WingmanError WingmanSuccess :=
  match request.dpsReportResult with
  | some report => WingmanClient.importPermalink readers report.permalink
  | none => client.upload readers rounds request.file request.metadata

def conclude (request : UploadRequest) :
    Except (Fault WingmanError) WingmanSuccess → Client Empty UploadOutcome
  | .error .panicked => .fail .panicked
  | .error (.error error) => unlessStopped (failureOutcome error)
  | .ok success => unlessStopped (successOutcome request.dpsReportResult.isSome success)

def execute (client : WingmanClient) (readers : WingmanResponse.Readers) (rounds : Nat)
    (request : UploadRequest) : Client Empty UploadOutcome := do
  let stopped ← stopRequested
  if stopped then pure .cancelled
  else (deliver client readers rounds request).settle (conclude request)

def process (client : WingmanClient) (readers : WingmanResponse.Readers) (rounds : Nat)
    (request : UploadRequest) : Client Empty UploadOutcome :=
  pooled .failed (execute client readers rounds request)

end WingmanWorker

/-- `load_key`. The store is locked, or there is none. -/
def loadKey (hasSecrets : Bool) : Client UploadFailure SecretValue :=
  if !hasSecrets then throw .donBotKeyMissing
  else .ask .loadKey fun
    | none => throw .credentialLoadFailed
    | some (.error .panicked) => .fail .panicked
    | some (.error (.error code)) =>
      throw (if code = .notFound then .donBotKeyMissing else .credentialLoadFailed)
    | some (.ok key) => pure key

namespace DonBotWorker

/-- `enqueue` up to the pool, with the options that the request is captured with. -/
def capture (options : DonBotOptions) (request : UploadRequest) :
    Except ProviderError DonBotOptions :=
  if !takesRequest .donbot request || options.guildId.isEmpty || request.intent == .rechat then
    .error .invalidRequest
  else .ok (if request.intent.isUserInitiated then { options with delivery := .none } else options)

def failureOutcome (error : DonBotError) : UploadOutcome :=
  match error.disposition with
  | .cancelled => .cancelled
  | .retry => .retryAfter (TwitchChatDelivery.retryDelay error.retryAfter)
  | .failed =>
    match error.code with
    | .unconfirmedUpload => .failedWithNotice .unconfirmedUpload
    | .unconfirmedDelivery => .failedWithNotice .unconfirmedDelivery
    | .invalidKey => .failedWithNotice .donBotKeyMissing
    | _ => .failed

/-- The check that the worker makes of what the client gave. -/
def confirms (options : DonBotOptions) (result : DonBotUploadSuccess) : Bool :=
  result.uploadId.all DonBotResponse.positiveId &&
    result.fightLogId.all DonBotResponse.positiveId &&
    result.discordDelivery.isValidWithLimit 4 &&
    options.delivery.requested == (result.discordDelivery.outcome != .notRequested)

def notice (imported : Bool) (result : DonBotUploadSuccess) : Option UploadNotice :=
  match result.discordDelivery.outcome with
  | .sent => some .discordSent
  | .partially => some .discordPartial
  | .skipped => some .discordSkipped
  | .failed => some .discordFailed
  | .ambiguous => some .discordAmbiguous
  | .notRequested => if imported && result.fightLogId.isNone then some .queued else none

def successOutcome (options : DonBotOptions) (imported : Bool) (result : DonBotUploadSuccess) :
    UploadOutcome :=
  if !confirms options result then .failed
  else
    let success := UploadSuccess.donbot (some {
      uploadId := result.uploadId, fightLogId := result.fightLogId
      discordDelivery := result.discordDelivery, guildId := some options.guildId })
    match notice imported result with
    | some notice => .succeededWithNotice success notice
    | none => .succeeded success

/-- The call of the client. -/
def deliver (readers : DonBotResponse.Readers) (options : DonBotOptions) (request : UploadRequest)
    (key : SecretValue) : Client DonBotError DonBotUploadSuccess :=
  match request.dpsReportResult with
  | some report => DonBotClient.importPermalink readers report.permalink options key
  | none => DonBotClient.upload readers request.file options key

def conclude (options : DonBotOptions) (request : UploadRequest) :
    Except (Fault DonBotError) DonBotUploadSuccess → Client Empty UploadOutcome
  | .error .panicked => .fail .panicked
  | .error (.error error) => unlessStopped (failureOutcome error)
  | .ok success => unlessStopped (successOutcome options request.dpsReportResult.isSome success)

def executeWith (readers : DonBotResponse.Readers) (options : DonBotOptions)
    (request : UploadRequest) (key : SecretValue) : Client Empty UploadOutcome := do
  let stopped ← stopRequested
  if stopped then pure .cancelled
  else (deliver readers options request key).settle (conclude options request)

def withKey (readers : DonBotResponse.Readers) (options : DonBotOptions)
    (request : UploadRequest) :
    Except (Fault UploadFailure) SecretValue → Client Empty UploadOutcome
  | .error .panicked => .fail .panicked
  | .error (.error reason) => pure (.failedWithNotice reason)
  | .ok key => executeWith readers options request key

def execute (readers : DonBotResponse.Readers) (hasSecrets : Bool) (options : DonBotOptions)
    (request : UploadRequest) : Client Empty UploadOutcome := do
  let stopped ← stopRequested
  if stopped then pure .cancelled
  else (loadKey hasSecrets).settle (withKey readers options request)

def process (readers : DonBotResponse.Readers) (hasSecrets : Bool) (options : DonBotOptions)
    (request : UploadRequest) : Client Empty UploadOutcome :=
  pooled .failed (execute readers hasSecrets options request)

end DonBotWorker
end MannyUploader.Providers
