import Mathlib.Data.Fintype.Pi
import MannyUploader.Domain.Path
import MannyUploader.Domain.Receipts
import MannyUploader.Domain.Time
import MannyUploader.Foundation.Checked

/-! One upload job: four provider states with their attempt counts, the receipts they
produce, and the transitions between them. A method that fails leaves the job as it was,
so each returns the new job or an error. -/
namespace MannyUploader.Domain
open Foundation

def wvwBossId : UInt16 := 1

inductive Provider
  | dpsReport | wingman | donbot | twitch
deriving DecidableEq, Repr

namespace Provider

/-- `Provider::ALL`, in the order of the discriminants. -/
def all : List Provider := [.dpsReport, .wingman, .donbot, .twitch]

/-- The next discriminant, round the four. -/
def successor : Provider → Provider
  | .dpsReport => .wingman
  | .wingman => .donbot
  | .donbot => .twitch
  | .twitch => .dpsReport

@[simp] theorem mem_all (provider : Provider) : provider ∈ all := by
  cases provider <;> decide

instance : Fintype Provider := ⟨{.dpsReport, .wingman, .donbot, .twitch}, by
  intro provider; cases provider <;> decide⟩

end Provider

structure ProviderSelection where
  dpsReport : Bool
  wingman : Bool
  donbot : Bool
  twitch : Bool
deriving DecidableEq, Repr

def ProviderSelection.contains (selection : ProviderSelection) : Provider → Bool
  | .dpsReport => selection.dpsReport
  | .wingman => selection.wingman
  | .donbot => selection.donbot
  | .twitch => selection.twitch

inductive ProviderState
  | disabled | waiting | active | succeeded | skipped
  | retryScheduled (deadline : Instant)
  | failed | cancelled
deriving DecidableEq, Repr

namespace ProviderState

def isBusy : ProviderState → Bool
  | .waiting | .active | .retryScheduled _ => true
  | _ => false

/-- `allows(self, next)`: the transitions of one provider. -/
def allows : ProviderState → ProviderState → Bool
  | .waiting, .active | .waiting, .skipped | .waiting, .failed | .waiting, .cancelled => true
  | .active, .succeeded | .active, .skipped | .active, .retryScheduled _
  | .active, .failed | .active, .cancelled => true
  | .retryScheduled _, .active | .retryScheduled _, .failed | .retryScheduled _, .cancelled => true
  | .failed, .waiting | .failed, .cancelled => true
  | _, _ => false

def isRetryScheduled : ProviderState → Bool
  | .retryScheduled _ => true
  | _ => false

end ProviderState

inductive JobError
  | invalidJobId | emptyPath | twitchRequiresDpsReport | invalidTransition
  | dpsReportResultRequired | emptyPermalink | metadataAlreadySet | invalidTwitchDelivery
  | twitchDeliveryAlreadyRecorded | invalidDonBotUpload | donBotUploadAlreadyRecorded
  | invalidWingmanUpload | wingmanUploadAlreadyRecorded | manualRetryRequiresFailure
  | explicitDeliveryBusy | encounterMetadataRequired | attemptLimitReached
deriving DecidableEq, Repr

/-- A `NonZeroU64`. -/
structure UploadJobId where
  get : UInt64
  nonzero : get ≠ 0
deriving DecidableEq

theorem UploadJobId.one_nonzero : (1 : UInt64) ≠ 0 := by decide

def UploadJobId.new (value : UInt64) : Except JobError UploadJobId :=
  if h : value = 0 then .error .invalidJobId else .ok ⟨value, h⟩

theorem UploadJobId.get_of_new {value : UInt64} {id : UploadJobId}
    (h : UploadJobId.new value = .ok id) : id.get = value := by
  unfold UploadJobId.new at h
  split at h
  · cases h
  · cases h; rfl

structure LogFileIdentity where
  canonicalPath : PathBuf
  size : UInt64
  lastWriteTime : SystemTime
deriving DecidableEq

/-- What two equal identities share. -/
def LogFileIdentity.key (file : LogFileIdentity) : List Path.Component × UInt64 × SystemTime :=
  (file.canonicalPath.identity, file.size, file.lastWriteTime)

instance : BEq LogFileIdentity := ⟨fun left right => left.key == right.key⟩

theorem LogFileIdentity.beq_iff {left right : LogFileIdentity} :
    (left == right) = true ↔ left.key = right.key := by
  change (left.key == right.key) = true ↔ _
  exact beq_iff_eq

structure ProviderStatus where
  state : ProviderState
  attempts : UInt32
  detail : String
deriving DecidableEq, Repr

/-- `ProviderStatus::default()` with another state. -/
def ProviderStatus.initial (state : ProviderState) : ProviderStatus :=
  { state, attempts := 0, detail := "" }

structure UploadJobRecord where
  file : LogFileIdentity
  detectedAt : SystemTime
  encounterMetadata : Option EncounterMetadata
  dpsReportResult : Option DpsReportResult
  wingmanUploadReceipt : Option WingmanUploadReceipt
  donbotUploadReceipt : Option DonBotUploadReceipt
  twitchDeliveryReceipt : Option TwitchDeliveryReceipt
  providers : Provider → ProviderStatus
deriving DecidableEq

/-- The derived equality of records, which compares files as identities. -/
instance : BEq UploadJobRecord :=
  ⟨fun left right => left.file == right.file && decide ({ left with file := right.file } = right)⟩

theorem UploadJobRecord.beq_iff {left right : UploadJobRecord} :
    (left == right) = true ↔
      left.file.key = right.file.key ∧ { left with file := right.file } = right := by
  change (left.file == right.file && decide _) = true ↔ _
  rw [Bool.and_eq_true, LogFileIdentity.beq_iff, decide_eq_true_iff]

structure UploadJob where
  id : UploadJobId
  record : UploadJobRecord
deriving DecidableEq

namespace UploadJob

def new (id : UploadJobId) (file : LogFileIdentity) (detectedAt : SystemTime)
    (enabled : ProviderSelection) : Except JobError UploadJob :=
  if file.canonicalPath.bytes.isEmpty then .error .emptyPath
  else if enabled.twitch && !enabled.dpsReport then .error .twitchRequiresDpsReport
  else .ok {
    id
    record := {
      file, detectedAt
      encounterMetadata := none
      dpsReportResult := none
      wingmanUploadReceipt := none
      donbotUploadReceipt := none
      twitchDeliveryReceipt := none
      providers := fun provider =>
        .initial (if enabled.contains provider then .waiting else .disabled) } }

def interruptedDetail : String := "Interrupted by the previous game session"

/-- A busy state does not survive a restart. -/
def interrupt (status : ProviderStatus) : ProviderStatus :=
  if status.state.isBusy then { status with state := .failed, detail := interruptedDetail }
  else status

def restore (id : UploadJobId) (record : UploadJobRecord) : Except JobError UploadJob :=
  if record.file.canonicalPath.bytes.isEmpty then .error .emptyPath
  else if record.dpsReportResult.any (·.permalink.isEmpty) then .error .emptyPermalink
  else if record.wingmanUploadReceipt.any (·.permalink.isEmpty) then .error .invalidWingmanUpload
  else if record.donbotUploadReceipt.any (!·.isValid) then .error .invalidDonBotUpload
  else if record.twitchDeliveryReceipt.any (!·.isValid) then .error .invalidTwitchDelivery
  else .ok { id, record := { record with providers := fun p => interrupt (record.providers p) } }

def providerStatus (job : UploadJob) (provider : Provider) : ProviderStatus :=
  job.record.providers provider

/-- `&mut self.record.providers[provider as usize]`, written back. -/
def withStatus (job : UploadJob) (provider : Provider) (status : ProviderStatus) : UploadJob :=
  { job with record := { job.record with
      providers := Function.update job.record.providers provider status } }

def setEncounterMetadata (job : UploadJob) (metadata : EncounterMetadata) :
    Except JobError UploadJob :=
  if job.record.encounterMetadata.isSome then .error .metadataAlreadySet
  else .ok { job with record := { job.record with encounterMetadata := some metadata } }

/-- Routing dependencies for Wingman and DonBot belong to the coordinator. -/
def transition (job : UploadJob) (provider : Provider) (next : ProviderState) (detail : String) :
    Except JobError UploadJob :=
  let status := job.providerStatus provider
  if !status.state.allows next then .error .invalidTransition
  else if provider = .dpsReport ∧ next = .succeeded then .error .dpsReportResultRequired
  else if provider = .twitch ∧ next = .active ∧
      ((job.providerStatus .dpsReport).state ≠ .succeeded ∨ job.record.dpsReportResult = none) then
    .error .dpsReportResultRequired
  else if provider = .twitch ∧ next = .succeeded ∧
      !job.record.twitchDeliveryReceipt.any (·.status = .sent) then
    .error .invalidTwitchDelivery
  else
    match if next = .active then checkedSucc32 status.attempts else some status.attempts with
    | none => .error .attemptLimitReached
    | some attempts =>
      .ok (job.withStatus provider {
        state := next, attempts, detail := if next = .waiting then "" else detail })

def requireActive (job : UploadJob) (provider : Provider) : Except JobError Unit :=
  if (job.providerStatus provider).state = .active then .ok () else .error .invalidTransition

def completeDpsReport (job : UploadJob) (result : DpsReportResult) (detail : String) :
    Except JobError UploadJob := do
  job.requireActive .dpsReport
  if result.permalink.isEmpty then .error .emptyPermalink
  else
    let job := { job with record := { job.record with dpsReportResult := some result } }
    .ok (job.withStatus .dpsReport
      { job.providerStatus .dpsReport with state := .succeeded, detail })

/-- The three recording methods: the attempt must be active, nothing may be recorded yet,
and the receipt must be valid. -/
def recordReceipt (job : UploadJob) (provider : Provider) (recorded : Bool)
    (alreadyRecorded : JobError) (valid : Bool) (invalid : JobError) (record : UploadJobRecord) :
    Except JobError UploadJob := do
  job.requireActive provider
  if recorded then .error alreadyRecorded
  else if !valid then .error invalid
  else .ok { job with record }

def recordWingmanUpload (job : UploadJob) (receipt : WingmanUploadReceipt) :
    Except JobError UploadJob :=
  job.recordReceipt .wingman job.record.wingmanUploadReceipt.isSome .wingmanUploadAlreadyRecorded
    (!receipt.permalink.isEmpty) .invalidWingmanUpload
    { job.record with wingmanUploadReceipt := some receipt }

def recordDonbotUpload (job : UploadJob) (receipt : DonBotUploadReceipt) :
    Except JobError UploadJob :=
  job.recordReceipt .donbot job.record.donbotUploadReceipt.isSome .donBotUploadAlreadyRecorded
    receipt.isValid .invalidDonBotUpload
    { job.record with donbotUploadReceipt := some receipt }

def recordTwitchDelivery (job : UploadJob) (receipt : TwitchDeliveryReceipt) :
    Except JobError UploadJob :=
  job.recordReceipt .twitch job.record.twitchDeliveryReceipt.isSome .twitchDeliveryAlreadyRecorded
    receipt.isValid .invalidTwitchDelivery
    { job.record with twitchDeliveryReceipt := some receipt }

/-- Back to `Waiting` with an empty detail, whatever the state was. -/
def rewait (job : UploadJob) (provider : Provider) : UploadJob :=
  job.withStatus provider { job.providerStatus provider with state := .waiting, detail := "" }

/-- A skipped dependent waits again; any other state stays. -/
def revive (job : UploadJob) (dependent : Provider) : UploadJob :=
  if (job.providerStatus dependent).state = .skipped then job.rewait dependent else job

def prepareManualRetry (job : UploadJob) (provider : Provider) : Except JobError UploadJob := do
  if (job.providerStatus provider).state ≠ .failed then .error .manualRetryRequiresFailure
  else
    let job ← job.transition provider .waiting ""
    let job := if provider = .twitch then
        { job with record := { job.record with twitchDeliveryReceipt := none } }
      else job
    .ok (if provider = .dpsReport ∧ job.record.dpsReportResult = none then
        [Provider.wingman, .donbot, .twitch].foldl revive job
      else job)

def clearReceipt (record : UploadJobRecord) : Provider → UploadJobRecord
  | .dpsReport => { record with dpsReportResult := none }
  | .wingman => { record with wingmanUploadReceipt := none }
  | .donbot => { record with donbotUploadReceipt := none }
  | .twitch => { record with twitchDeliveryReceipt := none }

/-- The coordinator must preflight every upload destination before a grouped Reupload. -/
def prepareExplicitDelivery (job : UploadJob) (provider : Provider) : Except JobError UploadJob :=
  if job.record.encounterMetadata.isNone then .error .encounterMetadataRequired
  else if (job.providerStatus provider).state.isBusy then .error .explicitDeliveryBusy
  else if provider = .twitch ∧ job.record.dpsReportResult = none then
    .error .dpsReportResultRequired
  else
    let job := job.rewait provider
    .ok { job with record := clearReceipt job.record provider }

end UploadJob
end MannyUploader.Domain
