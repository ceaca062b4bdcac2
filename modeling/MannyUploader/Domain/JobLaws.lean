import MannyUploader.Domain.UploadJob

/-! What the methods of `UploadJob` can do. Each lemma inverts one method, so that the
proofs about the coordinator never unfold it again. -/
namespace MannyUploader.Domain
open Foundation

namespace ProviderState

@[simp] theorem allows_waiting (next : ProviderState) :
    waiting.allows next = true ↔
      next = .active ∨ next = .skipped ∨ next = .failed ∨ next = .cancelled := by
  cases next <;> simp [allows]

@[simp] theorem allows_active (next : ProviderState) :
    active.allows next = true ↔ next = .succeeded ∨ next = .skipped ∨
      next.isRetryScheduled = true ∨ next = .failed ∨ next = .cancelled := by
  cases next <;> simp [allows, isRetryScheduled]

@[simp] theorem allows_retryScheduled (deadline : Instant) (next : ProviderState) :
    (retryScheduled deadline).allows next = true ↔
      next = .active ∨ next = .failed ∨ next = .cancelled := by
  cases next <;> simp [allows]

@[simp] theorem allows_failed (next : ProviderState) :
    failed.allows next = true ↔ next = .waiting ∨ next = .cancelled := by
  cases next <;> simp [allows]

/-- Every busy state may be given up. -/
theorem isBusy_allows {state : ProviderState} (h : state.isBusy = true) :
    state.allows .failed = true ∧ state.allows .cancelled = true := by
  cases state <;> simp_all [isBusy, allows]

end ProviderState

namespace UploadJob
variable {job job' : UploadJob} {provider : Provider} {next : ProviderState} {detail : String}

section withStatus
variable (job : UploadJob) (provider : Provider) (status : ProviderStatus)

@[simp] theorem withStatus_id : (job.withStatus provider status).id = job.id := rfl
@[simp] theorem withStatus_file : (job.withStatus provider status).record.file = job.record.file := rfl
@[simp] theorem withStatus_detectedAt :
    (job.withStatus provider status).record.detectedAt = job.record.detectedAt := rfl
@[simp] theorem withStatus_encounterMetadata :
    (job.withStatus provider status).record.encounterMetadata = job.record.encounterMetadata := rfl
@[simp] theorem withStatus_dpsReportResult :
    (job.withStatus provider status).record.dpsReportResult = job.record.dpsReportResult := rfl
@[simp] theorem withStatus_wingmanUploadReceipt :
    (job.withStatus provider status).record.wingmanUploadReceipt =
      job.record.wingmanUploadReceipt := rfl
@[simp] theorem withStatus_donbotUploadReceipt :
    (job.withStatus provider status).record.donbotUploadReceipt =
      job.record.donbotUploadReceipt := rfl
@[simp] theorem withStatus_twitchDeliveryReceipt :
    (job.withStatus provider status).record.twitchDeliveryReceipt =
      job.record.twitchDeliveryReceipt := rfl

@[simp] theorem providerStatus_withStatus (other : Provider) :
    (job.withStatus provider status).providerStatus other =
      if other = provider then status else job.providerStatus other := by
  simp [withStatus, providerStatus, Function.update_apply]

end withStatus

/-- Everything a successful transition says about the job before and after it. -/
structure Transitioned (job : UploadJob) (provider : Provider) (next : ProviderState)
    (detail : String) (job' : UploadJob) : Prop where
  allowed : (job.providerStatus provider).state.allows next = true
  notReport : ¬(provider = .dpsReport ∧ next = .succeeded)
  reported : provider = .twitch → next = .active →
    (job.providerStatus .dpsReport).state = .succeeded ∧ job.record.dpsReportResult ≠ none
  sent : provider = .twitch → next = .succeeded →
    job.record.twitchDeliveryReceipt.any (·.status = .sent) = true
  result : ∃ attempts,
    (if next = .active then checkedSucc32 (job.providerStatus provider).attempts
      else some (job.providerStatus provider).attempts) = some attempts ∧
    job' = job.withStatus provider
      { state := next, attempts, detail := if next = .waiting then "" else detail }

theorem transition_ok (h : job.transition provider next detail = .ok job') :
    Transitioned job provider next detail job' := by
  unfold transition at h
  dsimp only at h
  split at h
  · cases h
  rename_i allowed
  split at h
  · cases h
  rename_i notReport
  split at h
  · cases h
  rename_i reported
  split at h
  · cases h
  rename_i sent
  split at h
  · cases h
  rename_i attempts counted
  cases h
  refine ⟨by simpa using allowed, notReport, fun ht ha => ?_, fun ht hs => ?_, attempts, counted, rfl⟩
  · simpa [ht, ha] using reported
  · simpa [ht, hs] using sent

/-- A transition that neither starts an attempt nor reports success needs only to be allowed. -/
theorem transition_idle (allowed : (job.providerStatus provider).state.allows next = true)
    (notActive : next ≠ .active) (notSucceeded : next ≠ .succeeded) :
    job.transition provider next detail = .ok (job.withStatus provider
      { job.providerStatus provider with
        state := next, detail := if next = .waiting then "" else detail }) := by
  simp [transition, allowed, notActive, notSucceeded]

theorem Transitioned.of_ne_active (h : Transitioned job provider next detail job')
    (notActive : next ≠ .active) :
    job' = job.withStatus provider { job.providerStatus provider with
      state := next, detail := if next = .waiting then "" else detail } := by
  obtain ⟨attempts, counted, rfl⟩ := h.result
  simp only [notActive, ↓reduceIte, Option.some.injEq] at counted
  rw [← counted]

theorem Transitioned.activated (h : Transitioned job provider .active detail job') :
    ∃ attempts : UInt32, attempts.toNat = (job.providerStatus provider).attempts.toNat + 1 ∧
      job' = job.withStatus provider { state := .active, attempts, detail } := by
  obtain ⟨attempts, counted, rfl⟩ := h.result
  simp only [↓reduceIte] at counted
  exact ⟨attempts, toNat_of_checkedSucc32 counted, by simp⟩

theorem requireActive_ok (h : job.requireActive provider = .ok ()) :
    (job.providerStatus provider).state = .active := by
  unfold requireActive at h
  split at h
  · assumption
  · cases h

theorem completeDpsReport_ok {result : DpsReportResult}
    (h : job.completeDpsReport result detail = .ok job') :
    (job.providerStatus .dpsReport).state = .active ∧ result.permalink.isEmpty = false ∧
      job' = ({ job with record := { job.record with dpsReportResult := some result } } :
        UploadJob).withStatus .dpsReport
          { job.providerStatus .dpsReport with state := .succeeded, detail } := by
  unfold completeDpsReport at h
  cases active : job.requireActive .dpsReport with
  | error e => simp [active, bind, Except.bind] at h
  | ok u =>
    simp only [active, bind, Except.bind] at h
    split at h
    · cases h
    · rename_i nonempty
      cases h
      exact ⟨requireActive_ok active, by simpa using nonempty, rfl⟩

theorem recordReceipt_ok {recorded valid : Bool} {alreadyRecorded invalid : JobError}
    {record : UploadJobRecord}
    (h : job.recordReceipt provider recorded alreadyRecorded valid invalid record = .ok job') :
    (job.providerStatus provider).state = .active ∧ recorded = false ∧ valid = true ∧
      job' = { job with record } := by
  unfold recordReceipt at h
  cases active : job.requireActive provider with
  | error e => simp [active, bind, Except.bind] at h
  | ok u =>
    simp only [active, bind, Except.bind] at h
    split at h
    · cases h
    split at h
    · cases h
    · cases h
      exact ⟨requireActive_ok active, by simp_all, by simp_all, rfl⟩

theorem requireActive_active (h : (job.providerStatus provider).state = .active) :
    job.requireActive provider = .ok () := if_pos h

theorem completeDpsReport_active {result : DpsReportResult}
    (active : (job.providerStatus .dpsReport).state = .active)
    (nonempty : result.permalink.isEmpty = false) :
    job.completeDpsReport result detail = .ok
      (({ job with record := { job.record with dpsReportResult := some result } } :
        UploadJob).withStatus .dpsReport
          { job.providerStatus .dpsReport with state := .succeeded, detail }) := by
  unfold completeDpsReport
  simp only [requireActive_active active, bind, Except.bind, nonempty, Bool.false_eq_true,
    ↓reduceIte]
  rfl

theorem recordReceipt_active (alreadyRecorded invalid : JobError) (record : UploadJobRecord)
    (active : (job.providerStatus provider).state = .active) :
    job.recordReceipt provider false alreadyRecorded true invalid record =
      .ok { job with record } := by
  unfold recordReceipt
  simp only [requireActive_active active, bind, Except.bind, Bool.false_eq_true, ↓reduceIte,
    Bool.not_true]

theorem prepareExplicitDelivery_ok (h : job.prepareExplicitDelivery provider = .ok job') :
    job.record.encounterMetadata.isSome = true ∧
      (job.providerStatus provider).state.isBusy = false ∧
      (provider = .twitch → job.record.dpsReportResult ≠ none) ∧
      job' = { job.rewait provider with
        record := clearReceipt (job.rewait provider).record provider } := by
  unfold prepareExplicitDelivery at h
  split at h
  · cases h
  rename_i metadata
  split at h
  · cases h
  rename_i idle
  split at h
  · cases h
  rename_i reported
  cases h
  exact ⟨by simpa [Option.isSome_iff_ne_none] using metadata, by simpa using idle,
    fun ht => by simpa [ht] using reported, rfl⟩

theorem restore_ok {id : UploadJobId} {record : UploadJobRecord} (h : restore id record = .ok job) :
    record.file.canonicalPath.bytes.isEmpty = false ∧
      job = { id, record := { record with providers := fun p => interrupt (record.providers p) } } := by
  unfold restore at h
  split at h
  · cases h
  rename_i path
  repeat' (split at h; · cases h)
  cases h
  exact ⟨by simpa using path, rfl⟩

theorem new_ok {id : UploadJobId} {file : LogFileIdentity} {now : SystemTime}
    {enabled : ProviderSelection} (h : new id file now enabled = .ok job) :
    file.canonicalPath.bytes.isEmpty = false ∧ (enabled.twitch → enabled.dpsReport) ∧
      job = { id, record := {
        file, detectedAt := now, encounterMetadata := none, dpsReportResult := none
        wingmanUploadReceipt := none, donbotUploadReceipt := none, twitchDeliveryReceipt := none
        providers := fun provider =>
          .initial (if enabled.contains provider then .waiting else .disabled) } } := by
  unfold new at h
  split at h
  · cases h
  split at h
  · cases h
  · cases h
    exact ⟨by simp_all, by simp_all, rfl⟩

@[simp] theorem interrupt_not_busy (status : ProviderStatus) :
    (interrupt status).state.isBusy = false := by
  unfold interrupt
  split
  · rfl
  · simpa using ‹¬ status.state.isBusy = true›

@[simp] theorem interrupt_attempts (status : ProviderStatus) :
    (interrupt status).attempts = status.attempts := by
  unfold interrupt; split <;> rfl

end UploadJob
end MannyUploader.Domain
