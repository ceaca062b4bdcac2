import MannyUploader.Domain.TwitchTemplate
import MannyUploader.Foundation.Runs
import MannyUploader.Providers.TwitchChatDelivery
import MannyUploader.Providers.Wire

/-! The worker of the chat posts: a ledger of what was posted, and the threads that share it.
What happens under the lock of the ledger is one operation. -/
namespace MannyUploader.Providers
open Domain Application

structure TwitchProviderConfig where
  messageTemplate : String
  postSuccess : Bool
  postFailure : Bool
deriving DecidableEq, Repr

abbrev ChatKey := UploadJobId × String

/-- How a post was settled. -/
inductive LedgerEntry
  | sent (receipt : TwitchDeliveryReceipt)
  | ambiguous
deriving DecidableEq, Repr

structure Ledger where
  settled : List (ChatKey × LedgerEntry) := []
  active : List ChatKey := []

namespace Ledger

def outcome : LedgerEntry → UploadOutcome
  | .sent receipt => .succeeded (.twitch receipt)
  | .ambiguous => .ambiguous

/-- The outcome that is returned at once, if the key is not claimed. -/
def claim (ledger : Ledger) (key : ChatKey) (manual : Bool) : Option UploadOutcome × Ledger :=
  if key ∈ ledger.active then (some (.retryAfter (Duration.fromSecs 30)), ledger)
  else match if manual then none else ledger.settled.lookup key with
    | some entry => (some (outcome entry), ledger)
    | none => (none, { ledger with active := key :: ledger.active })

def entryOf : TwitchChatResult → Option LedgerEntry
  | .sent receipt => some (.sent receipt)
  | .ambiguous => some .ambiguous
  | _ => none

/-- The first entry of the key is overwritten. -/
def overwrite (key : ChatKey) (entry : LedgerEntry) :
    List (ChatKey × LedgerEntry) → List (ChatKey × LedgerEntry)
  | [] => []
  | (old, value) :: rest =>
    if old = key then (old, entry) :: rest else (old, value) :: overwrite key entry rest

def finish (ledger : Ledger) (key : ChatKey) (result : TwitchChatResult) : Ledger :=
  let active := ledger.active.filter (· ≠ key)
  match entryOf result with
  | none => { ledger with active }
  | some entry =>
    if key ∈ ledger.settled.map (·.1) then
      { settled := overwrite key entry ledger.settled, active }
    else
      let kept := if ledger.settled.length = 256 then ledger.settled.drop 1 else ledger.settled
      { settled := kept ++ [(key, entry)], active }

end Ledger

structure CapturedChat where
  upload : UploadRequest
  config : TwitchProviderConfig
  template : List TemplatePart
  key : ChatKey
  claimed : Bool

/-- `enqueue`, up to the pool. -/
def captureChat (config : TwitchProviderConfig) (template : List TemplatePart)
    (request : UploadRequest) : Except ProviderError CapturedChat :=
  if request.provider ≠ .twitch ∨ request.attempt = 0 ∨
      request.file.canonicalPath.bytes.isEmpty then .error .invalidRequest
  else match request.dpsReportResult with
    | none => .error .invalidRequest
    | some report =>
      if !trustedReportPermalink report.permalink then .error .invalidRequest
      else .ok {
        upload := request, config, template, key := (request.jobId, report.permalink)
        claimed := false }

/-- The message of a request, or what the request comes to without one. -/
def CapturedChat.message (captured : CapturedChat) (stopped : Bool) :
    Except (Fault UploadOutcome) String :=
  if stopped then .error (.error .cancelled)
  else match captured.upload.dpsReportResult with
    | none => .error .panicked
    | some report =>
      if (report.success && !captured.config.postSuccess) ||
          (!report.success && !captured.config.postFailure) then .error (.error .skipped)
      else match TwitchMessageTemplate.render captured.template report with
        | .error _ => .error (.error (.failedWithNotice (.twitch .invalidMessage)))
        | .ok message => .ok message

/-- Where a thread stands with a request. -/
inductive ChatPhase
  | sending (message : String)
  | delivered (result : TwitchChatResult)
  | panicked
  | returned (outcome : UploadOutcome)

structure ChatTask where
  captured : CapturedChat
  phase : ChatPhase

structure ChatWorkers where
  ledger : Ledger := {}
  tasks : List ChatTask := []

/-- What one thread does between two points where it waits. -/
inductive ChatOp
  | start (config : TwitchProviderConfig) (template : List TemplatePart) (request : UploadRequest)
      (stopped : Bool)
  | deliver (task : Nat) (result : TwitchChatResult)
  | unwind (task : Nat)
  | finish (task : Nat)
  | fail (task : Nat)

namespace ChatWorkers

/-- `process` up to the delivery. -/
def begin (ledger : Ledger) (captured : CapturedChat) (stopped : Bool) : Ledger × ChatTask :=
  match captured.message stopped with
  | .error .panicked => (ledger, { captured, phase := .panicked })
  | .error (.error outcome) => (ledger, { captured, phase := .returned outcome })
  | .ok message =>
    match ledger.claim captured.key captured.upload.intent.isUserInitiated with
    | (some previous, ledger) => (ledger, { captured, phase := .returned previous })
    | (none, ledger) =>
      (ledger, { captured := { captured with claimed := true }, phase := .sending message })

/-- `process` after the delivery. -/
def conclude (ledger : Ledger) (captured : CapturedChat) (result : TwitchChatResult) :
    Ledger × ChatTask :=
  (ledger.finish captured.key result,
    { captured := { captured with claimed := false }
      phase := .returned result.intoUploadOutcome })

/-- `failed`, which the pool calls after a panic. -/
def failed (ledger : Ledger) (captured : CapturedChat) : Ledger × ChatTask :=
  if captured.claimed then
    (ledger.finish captured.key .ambiguous, { captured, phase := .returned .ambiguous })
  else (ledger, { captured, phase := .returned .failed })

def update (workers : ChatWorkers) (index : Nat) (change : Ledger → ChatTask → Ledger × ChatTask) :
    ChatWorkers :=
  match workers.tasks[index]? with
  | none => workers
  | some task =>
    let (ledger, task) := change workers.ledger task
    { ledger, tasks := workers.tasks.set index task }

def step (workers : ChatWorkers) : ChatOp → ChatWorkers
  | .start config template request stopped =>
    match captureChat config template request with
    | .error _ => workers
    | .ok captured =>
      let (ledger, task) := begin workers.ledger captured stopped
      { ledger, tasks := workers.tasks ++ [task] }
  | .deliver index result => workers.update index fun ledger task =>
    match task.phase with
    | .sending _ => (ledger, { task with phase := .delivered result })
    | _ => (ledger, task)
  | .unwind index => workers.update index fun ledger task =>
    match task.phase with
    | .sending _ | .delivered _ => (ledger, { task with phase := .panicked })
    | _ => (ledger, task)
  | .finish index => workers.update index fun ledger task =>
    match task.phase with
    | .delivered result => conclude ledger task.captured result
    | _ => (ledger, task)
  | .fail index => workers.update index fun ledger task =>
    match task.phase with
    | .panicked => failed ledger task.captured
    | _ => (ledger, task)

end ChatWorkers
end MannyUploader.Providers
