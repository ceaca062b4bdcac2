import MannyUploader.Application.Ports

/-! The coordinator's work on one retained job. The source reaches a job as
`self.jobs[index]`; here the entry at the index is the argument and the result, and
`UploadCoordinator` puts it back in its place. -/
namespace MannyUploader.Application
open Domain

inductive CoordinatorError
  | invalidHistoryLimit | duplicateProvider | missingProvider | capacityReached
  | jobIdExhausted | unknownJob | unexpectedResult | invalidRetryDelay
  | metadataNotPending | restoreRequiresEmptyCoordinator | dependencyUnavailable
  | shuttingDown
  | domain (error : JobError)
  | dispatch (error : ProviderError)
  | reconfiguration (error : ProviderConfigurationError)
deriving DecidableEq, Repr

def maxRetryDelay : Duration := Duration.fromSecs (24 * 60 * 60)
def uploads : List Provider := [.dpsReport, .wingman, .donbot]
def dependents : List Provider := [.wingman, .donbot, .twitch]

structure Entry where
  job : UploadJob
  metadataPending : Bool
  intents : Provider → UploadIntent
  reupload : Bool

/-- `?` on a domain error. -/
def liftJob : Except JobError α → Except CoordinatorError α
  | .ok value => .ok value
  | .error error => .error (.domain error)

/-- `require_providers`: every listed provider must be installed. -/
def requireProviders (installed : Provider → Bool) (providers : List Provider) :
    Except CoordinatorError Unit :=
  if providers.any (!installed ·) then .error .missingProvider else .ok ()

namespace Entry

def new (job : UploadJob) (metadataPending : Bool) : Entry :=
  { job, metadataPending, intents := fun _ => .automatic, reupload := false }

def state (entry : Entry) (provider : Provider) : ProviderState :=
  (entry.job.providerStatus provider).state

def attempts (entry : Entry) (provider : Provider) : UInt32 :=
  (entry.job.providerStatus provider).attempts

def busy (entry : Entry) : Bool :=
  entry.metadataPending || Provider.all.any fun provider => (entry.state provider).isBusy

def isWvw (entry : Entry) : Bool :=
  entry.job.record.encounterMetadata.any (·.bossId = wvwBossId)

/-- `let _ = job.transition(..)`: a refused transition changes nothing. -/
def tryTransition (entry : Entry) (provider : Provider) (next : ProviderState) (detail : String) :
    Entry :=
  match entry.job.transition provider next detail with
  | .ok job => { entry with job }
  | .error _ => entry

def skipWingman (entry : Entry) : Except CoordinatorError Entry := do
  let job ← liftJob (entry.job.transition .wingman .skipped "WvW is unsupported by GW2Wingman")
  .ok { entry with job }

def settleDependent (cancelled : Bool) (entry : Entry) (provider : Provider) : Entry :=
  if provider = .twitch ∧ entry.reupload then entry
  else if entry.state provider = .waiting then
    entry.tryTransition provider (if cancelled then .cancelled else .skipped)
      "dps.report result unavailable"
  else entry

def settleDependents (entry : Entry) (cancelled : Bool) : Entry :=
  dependents.foldl (settleDependent cancelled) entry

def failDispatch (entry : Entry) (provider : Provider) : Entry :=
  let entry := entry.tryTransition provider .failed "Provider unavailable"
  if provider = .dpsReport then entry.settleDependents false else entry

def requireMetadata (entry : Entry) : Except CoordinatorError EncounterMetadata :=
  match entry.job.record.encounterMetadata with
  | none => .error (.domain .encounterMetadataRequired)
  | some metadata => .ok metadata

def requireDependency (entry : Entry) (provider : Provider) : Except CoordinatorError Unit :=
  if provider = .dpsReport then .ok ()
  else if provider ≠ .twitch ∧ entry.state .dpsReport = .disabled then .ok ()
  else if entry.state .dpsReport = .succeeded ∧ entry.job.record.dpsReportResult.isSome then .ok ()
  else .error .dependencyUnavailable

/-- The checks in front of a dispatch, up to the state `Active`. -/
def prepareDispatch (entry : Entry) (installed : Provider → Bool) (provider : Provider) :
    Except CoordinatorError (EncounterMetadata × UploadJob) := do
  let metadata ← entry.requireMetadata
  requireProviders installed [provider]
  entry.requireDependency provider
  let job ← liftJob (entry.job.transition provider .active "Uploading")
  .ok (metadata, job)

def request (entry : Entry) (job : UploadJob) (provider : Provider)
    (metadata : EncounterMetadata) : UploadRequest where
  jobId := job.id
  provider
  attempt := (job.providerStatus provider).attempts
  file := job.record.file
  metadata
  dpsReportResult := if provider = .dpsReport then none else job.record.dpsReportResult
  intent := entry.intents provider

def dispatch (ports : UploadPorts W) (installed : Provider → Bool) (provider : Provider)
    (entry : Entry) (tape : Tape W) : Except CoordinatorError Unit × Entry × Tape W :=
  if provider = .wingman ∧ entry.isWvw then
    match entry.skipWingman with
    | .ok entry => (.ok (), entry, tape)
    | .error error => (.error error, entry, tape)
  else
    match entry.prepareDispatch installed provider with
    | .error error => (.error error, entry.failDispatch provider, tape)
    | .ok (metadata, job) =>
      match tape.enqueue ports job (entry.request job provider metadata) with
      | (.ok (), tape) => (.ok (), { entry with job }, tape)
      | (.error error, tape) =>
        (.error (.dispatch error), { entry with job }.failDispatch provider, tape)

def dispatchWaiting (ports : UploadPorts W) (installed : Provider → Bool) (provider : Provider)
    (entry : Entry) (tape : Tape W) : Except CoordinatorError Unit × Entry × Tape W :=
  if entry.state provider = .waiting then entry.dispatch ports installed provider tape
  else (.ok (), entry, tape)

/-- The conditions of `pending_index` on the entry found there. -/
def awaitsMetadata (entry : Entry) : Bool :=
  entry.metadataPending && entry.job.record.encounterMetadata.isNone &&
    Provider.all.all fun provider =>
      entry.state provider = .waiting || entry.state provider = .disabled

/-- `Result::and`: the first error wins. -/
def andResult (first second : Except ε Unit) : Except ε Unit :=
  match first with
  | .ok () => second
  | .error error => .error error

/-- `set_metadata` on an entry that awaits it. An error before the dispatch leaves the
method without a result for the caller to trim after. -/
def setMetadata (ports : UploadPorts W) (installed : Provider → Bool)
    (metadata : EncounterMetadata) (entry : Entry) (tape : Tape W) :
    Except CoordinatorError (Except CoordinatorError Unit × Entry × Tape W) := do
  let job ← liftJob (entry.job.setEncounterMetadata metadata)
  let entry := { entry with job, metadataPending := false }
  let entry ←
    (if entry.state .wingman = .waiting ∧ entry.isWvw then entry.skipWingman else .ok entry)
  if entry.state .dpsReport = .waiting then
    .ok (entry.dispatch ports installed .dpsReport tape)
  else
    let (wingman, entry, tape) := entry.dispatchWaiting ports installed .wingman tape
    let (donbot, entry, tape) := entry.dispatchWaiting ports installed .donbot tape
    .ok (andResult wingman donbot, entry, tape)

/-- One round of the loop of `fail_metadata`. -/
def failWaiting (cancelled : Bool) (entry : Entry) (provider : Provider) :
    Except CoordinatorError Entry :=
  if entry.state provider = .waiting then do
    let job ← liftJob (entry.job.transition provider (if cancelled then .cancelled else .failed)
      "Encounter metadata unavailable")
    .ok { entry with job }
  else .ok entry

def failMetadata (cancelled : Bool) (entry : Entry) : Except CoordinatorError Entry :=
  Provider.all.foldlM (failWaiting cancelled) { entry with metadataPending := false }

def stateDetail : ProviderState → String
  | .succeeded => "Completed"
  | .skipped => "Skipped"
  | .retryScheduled _ => "Retry scheduled"
  | .cancelled => "Cancelled"
  | _ => "Delivery failed"

def outcomeDetail : UploadOutcome → Option String
  | .succeededWithNotice _ notice => some notice.detail
  | .failedWithNotice failure => some failure.detail
  | _ => none

/-- A success must carry the payload of its own provider. -/
def recordSuccess (job : UploadJob) (provider : Provider) (success : UploadSuccess)
    (detail : Option String) : Except CoordinatorError UploadJob :=
  match provider, success with
  | .dpsReport, .dpsReport report =>
    liftJob (job.completeDpsReport report (detail.getD "Uploaded"))
  | .wingman, .wingman (some receipt) => liftJob (job.recordWingmanUpload receipt)
  | .wingman, .wingman none => .ok job
  | .donbot, .donbot (some receipt) => liftJob (job.recordDonbotUpload receipt)
  | .donbot, .donbot none => .ok job
  | .twitch, .twitch receipt => liftJob (job.recordTwitchDelivery receipt)
  | _, _ => .error .unexpectedResult

/-- The `match` over the outcome: the job with its receipt, and the provider's next state. -/
def recordOutcome (job : UploadJob) (now : Instant) (provider : Provider)
    (outcome : UploadOutcome) : Except CoordinatorError (UploadJob × ProviderState) :=
  match outcome with
  | .succeeded success | .succeededWithNotice success _ => do
    let job ← recordSuccess job provider success (outcomeDetail outcome)
    .ok (job, .succeeded)
  | .skipped => .ok (job, .skipped)
  | .retryAfter delay =>
    if delay = 0 ∨ delay > maxRetryDelay then .error .invalidRetryDelay
    else match now.checkedAdd delay with
      | none => .error .invalidRetryDelay
      | some deadline => .ok (job, .retryScheduled deadline)
  | .failed | .failedWithNotice _ | .ambiguous => .ok (job, .failed)
  | .twitchDropped receipt =>
    if provider ≠ .twitch ∨ receipt.status = .sent then .error .unexpectedResult
    else do
      let job ← liftJob (job.recordTwitchDelivery receipt)
      .ok (job, .failed)
  | .cancelled => .ok (job, .cancelled)

/-- The transaction of `apply_result`: receipt and transition, or an error and no change. -/
def completeAttempt (entry : Entry) (now : Instant) (result : UploadResult) :
    Except CoordinatorError (UploadJob × ProviderState) :=
  if entry.state result.provider ≠ .active ∨ entry.attempts result.provider ≠ result.attempt then
    .error .unexpectedResult
  else do
    let (job, next) ← recordOutcome entry.job now result.provider result.outcome
    if result.provider = .dpsReport ∧ next = .succeeded then .ok (job, next)
    else
      let job ← liftJob (job.transition result.provider next
        ((outcomeDetail result.outcome).getD (stateDetail next)))
      .ok (job, next)

/-- A dispatch failure settles its own destination without undoing the report. -/
def fanOut (ports : UploadPorts W) (installed : Provider → Bool) (entry : Entry)
    (tape : Tape W) : Entry × Tape W :=
  dependents.foldl (fun (entry, tape) dependent =>
    if dependent ≠ .twitch ∨ !entry.reupload then
      (entry.dispatchWaiting ports installed dependent tape).2
    else (entry, tape)) (entry, tape)

def applyResult (ports : UploadPorts W) (installed : Provider → Bool) (result : UploadResult)
    (entry : Entry) (tape : Tape W) : Except CoordinatorError (Entry × Tape W) := do
  let (job, next) ← entry.completeAttempt (ports.steadyNow tape.world) result
  let entry := { entry with job }
  let tape := tape.note (.applied result)
  if result.provider = .dpsReport then
    if next = .succeeded then .ok (entry.fanOut ports installed tape)
    else if next = .failed ∨ next = .skipped ∨ next = .cancelled then
      .ok (entry.settleDependents (next = .cancelled), tape)
    else .ok (entry, tape)
  else .ok (entry, tape)

/-- A scheduled retry whose deadline has passed. -/
def isDue (entry : Entry) (now : Instant) (provider : Provider) : Bool :=
  match entry.state provider with
  | .retryScheduled deadline => deadline.nanos ≤ now.nanos
  | _ => false

/-- A skipped dependent of a reupload is prepared again, without a new intent. -/
def prepareSkipped (job : UploadJob) (dependent : Provider) : Except CoordinatorError UploadJob :=
  if (job.providerStatus dependent).state = .skipped then
    liftJob (job.prepareExplicitDelivery dependent)
  else .ok job

/-- The job of `retry_failed` after its preparation. -/
def prepareRetry (entry : Entry) (provider : Provider) : Except CoordinatorError UploadJob :=
  if provider = .dpsReport ∧ entry.reupload then
    if entry.state provider ≠ .failed then .error (.domain .manualRetryRequiresFailure)
    else do
      let job ← liftJob (entry.job.transition provider .waiting "")
      [Provider.wingman, .donbot].foldlM prepareSkipped job
  else liftJob (entry.job.prepareManualRetry provider)

/-- The part of `retry_failed` between its checks and its dispatch. -/
def rearm (entry : Entry) (provider : Provider) : Except CoordinatorError Entry := do
  let job ← entry.prepareRetry provider
  .ok { entry with
    job
    intents := if entry.intents provider ≠ .reupload then
        Function.update entry.intents provider .manualRetry
      else entry.intents }

/-- The part of `reupload` between its checks and its dispatch. -/
def prepareReupload (entry : Entry) : Except CoordinatorError Entry := do
  let job ← uploads.foldlM (fun job provider => liftJob (job.prepareExplicitDelivery provider))
    entry.job
  let entry := { entry with
    job
    reupload := true
    intents := fun provider =>
      if provider ∈ uploads then .reupload else entry.intents provider }
  if entry.isWvw then entry.skipWingman else .ok entry

/-- The part of `rechat` between its checks and its dispatch. -/
def prepareRechat (entry : Entry) : Except CoordinatorError Entry := do
  entry.requireDependency .twitch
  let job ← liftJob (entry.job.prepareExplicitDelivery .twitch)
  .ok { entry with job, intents := Function.update entry.intents .twitch .rechat }

/-- One round of the loop of `cancel_all`. -/
def cancelProvider (entry : Entry) (provider : Provider) : Entry :=
  if (entry.state provider).isBusy then entry.tryTransition provider .cancelled "Cancelled"
  else entry

def cancel (entry : Entry) : Entry :=
  Provider.all.foldl cancelProvider { entry with metadataPending := false }

end Entry
end MannyUploader.Application
