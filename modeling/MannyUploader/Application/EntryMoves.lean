import MannyUploader.Application.Entry
import MannyUploader.Domain.JobLaws
import MannyUploader.Foundation.Runs

/-! The changes one entry can go through. `Move` lists them, each with the guard it is made
under, and every operation of the coordinator on an entry is a sequence of moves. An
invariant of entries is therefore proved once for each move and never for an operation. -/
namespace MannyUploader.Application
open Domain Foundation Relation

/-- Every detail the coordinator itself gives to a provider status. -/
def detailTexts : List String :=
  ["", "Interrupted by the previous game session", "WvW is unsupported by GW2Wingman",
    "dps.report result unavailable", "Provider unavailable", "Uploading", "Uploaded",
    "Encounter metadata unavailable", "Cancelled", "Completed", "Skipped", "Retry scheduled",
    "Delivery failed"] ++
  [UploadNotice.queued, .alreadyPresent, .providerWarning, .invalidReturnedCredential,
    .credentialStorageUnavailable, .discordSent, .discordPartial, .discordSkipped,
    .discordFailed, .discordAmbiguous].map UploadNotice.detail ++
  [UploadFailure.twitch .invalidMessage, .twitch .notConnected, .twitch .reconnectRequired,
    .twitch .sessionFailed, .twitch .sendFailed, .donBotKeyMissing, .credentialLoadFailed,
    .unconfirmedUpload, .unconfirmedDelivery].map UploadFailure.detail

theorem notice_detail_mem (notice : UploadNotice) : notice.detail ∈ detailTexts := by
  cases notice <;> simp [detailTexts]

theorem failure_detail_mem (failure : UploadFailure) : failure.detail ∈ detailTexts := by
  cases failure with
  | twitch error => cases error <;> simp [detailTexts]
  | _ => simp [detailTexts]

theorem outcomeDetail_mem (outcome : UploadOutcome) {text : String}
    (h : text ∈ detailTexts) : (Entry.outcomeDetail outcome).getD text ∈ detailTexts := by
  cases outcome with
  | succeededWithNotice _ notice => exact notice_detail_mem notice
  | failedWithNotice failure => exact failure_detail_mem failure
  | _ => exact h

theorem stateDetail_mem (state : ProviderState) : Entry.stateDetail state ∈ detailTexts := by
  cases state <;> simp [Entry.stateDetail, detailTexts]

/-- Waiting for its dispatch: the first one or a scheduled one. -/
def queued (state : ProviderState) : Prop := state = .waiting ∨ state.isRetryScheduled = true

theorem queued.isBusy {state : ProviderState} (h : queued state) :
    state.isBusy = true ∧ state ≠ .active := by
  cases state <;> simp_all [queued, ProviderState.isBusy, ProviderState.isRetryScheduled]

namespace Entry
variable (entry : Entry) (provider : Provider) (next : ProviderState) (detail : String)

/-- The entry with one provider in another state. -/
def become : Entry :=
  { entry with
    job := entry.job.withStatus provider
      { entry.job.providerStatus provider with state := next, detail } }

/-- The entry without one provider's receipt. -/
def clear : Entry :=
  { entry with
    job := { entry.job with record := UploadJob.clearReceipt entry.job.record provider } }

/-- The provider waits again, with nothing recorded. -/
def redeliver : Entry := (entry.become provider .waiting "").clear provider

/-- The provider waits again on the user's retry. Only Twitch loses its receipt. -/
def armed : Entry :=
  { (if provider = .twitch then entry.redeliver .twitch else entry.become provider .waiting "") with
    intents := if entry.intents provider ≠ .reupload then
        Function.update entry.intents provider .manualRetry
      else entry.intents }

/-- The entry of a grouped reupload. -/
def marked : Entry :=
  { entry with
    reupload := true
    intents := fun provider =>
      if provider ∈ uploads then .reupload else entry.intents provider }

@[simp] theorem become_id : (entry.become provider next detail).job.id = entry.job.id := rfl

@[simp] theorem become_state (other : Provider) :
    (entry.become provider next detail).state other =
      if other = provider then next else entry.state other := by
  simp only [become, state, UploadJob.providerStatus_withStatus]
  split <;> rfl

@[simp] theorem become_attempts (other : Provider) :
    (entry.become provider next detail).attempts other = entry.attempts other := by
  simp only [become, attempts, UploadJob.providerStatus_withStatus]
  split
  · rename_i same; rw [same]
  · rfl

@[simp] theorem become_metadataPending :
    (entry.become provider next detail).metadataPending = entry.metadataPending := rfl
@[simp] theorem become_intents :
    (entry.become provider next detail).intents = entry.intents := rfl
@[simp] theorem become_reupload :
    (entry.become provider next detail).reupload = entry.reupload := rfl
@[simp] theorem become_file :
    (entry.become provider next detail).job.record.file = entry.job.record.file := rfl
@[simp] theorem become_encounterMetadata :
    (entry.become provider next detail).job.record.encounterMetadata =
      entry.job.record.encounterMetadata := rfl
@[simp] theorem become_dpsReportResult :
    (entry.become provider next detail).job.record.dpsReportResult =
      entry.job.record.dpsReportResult := rfl
@[simp] theorem become_wingmanUploadReceipt :
    (entry.become provider next detail).job.record.wingmanUploadReceipt =
      entry.job.record.wingmanUploadReceipt := rfl
@[simp] theorem become_donbotUploadReceipt :
    (entry.become provider next detail).job.record.donbotUploadReceipt =
      entry.job.record.donbotUploadReceipt := rfl
@[simp] theorem become_twitchDeliveryReceipt :
    (entry.become provider next detail).job.record.twitchDeliveryReceipt =
      entry.job.record.twitchDeliveryReceipt := rfl

@[simp] theorem clear_id : (entry.clear provider).job.id = entry.job.id := rfl
@[simp] theorem clear_metadataPending :
    (entry.clear provider).metadataPending = entry.metadataPending := rfl
@[simp] theorem clear_intents : (entry.clear provider).intents = entry.intents := rfl
@[simp] theorem clear_reupload : (entry.clear provider).reupload = entry.reupload := rfl

@[simp] theorem clear_providerStatus (other : Provider) :
    (entry.clear provider).job.providerStatus other = entry.job.providerStatus other := by
  cases provider <;> rfl

@[simp] theorem clear_state (other : Provider) :
    (entry.clear provider).state other = entry.state other := by
  cases provider <;> rfl

@[simp] theorem clear_attempts (other : Provider) :
    (entry.clear provider).attempts other = entry.attempts other := by
  cases provider <;> rfl

@[simp] theorem clear_file :
    (entry.clear provider).job.record.file = entry.job.record.file := by
  cases provider <;> rfl

@[simp] theorem clear_encounterMetadata :
    (entry.clear provider).job.record.encounterMetadata =
      entry.job.record.encounterMetadata := by
  cases provider <;> rfl

@[simp] theorem redeliver_id : (entry.redeliver provider).job.id = entry.job.id := rfl
@[simp] theorem redeliver_metadataPending :
    (entry.redeliver provider).metadataPending = entry.metadataPending := rfl
@[simp] theorem redeliver_intents : (entry.redeliver provider).intents = entry.intents := rfl
@[simp] theorem redeliver_reupload : (entry.redeliver provider).reupload = entry.reupload := rfl

@[simp] theorem redeliver_state (other : Provider) :
    (entry.redeliver provider).state other =
      if other = provider then .waiting else entry.state other := by
  simp [redeliver]

@[simp] theorem redeliver_attempts (other : Provider) :
    (entry.redeliver provider).attempts other = entry.attempts other := by
  simp [redeliver]

@[simp] theorem redeliver_file :
    (entry.redeliver provider).job.record.file = entry.job.record.file := by
  simp [redeliver]

@[simp] theorem redeliver_encounterMetadata :
    (entry.redeliver provider).job.record.encounterMetadata =
      entry.job.record.encounterMetadata := by
  simp [redeliver]

@[simp] theorem armed_id : (entry.armed provider).job.id = entry.job.id := by
  cases provider <;> rfl
@[simp] theorem armed_metadataPending :
    (entry.armed provider).metadataPending = entry.metadataPending := by
  cases provider <;> rfl
@[simp] theorem armed_reupload : (entry.armed provider).reupload = entry.reupload := by
  cases provider <;> rfl

@[simp] theorem armed_intents : (entry.armed provider).intents =
    if entry.intents provider ≠ .reupload then
      Function.update entry.intents provider .manualRetry
    else entry.intents := rfl

@[simp] theorem armed_state (other : Provider) :
    (entry.armed provider).state other =
      if other = provider then .waiting else entry.state other := by
  change Entry.state (if provider = .twitch then _ else _) other = _
  split
  · rename_i twitch; rw [redeliver_state, twitch]
  · rw [become_state]

@[simp] theorem armed_attempts (other : Provider) :
    (entry.armed provider).attempts other = entry.attempts other := by
  change Entry.attempts (if provider = .twitch then _ else _) other = _
  split <;> simp

@[simp] theorem armed_file :
    (entry.armed provider).job.record.file = entry.job.record.file := by
  cases provider <;> rfl

@[simp] theorem armed_encounterMetadata :
    (entry.armed provider).job.record.encounterMetadata =
      entry.job.record.encounterMetadata := by
  cases provider <;> rfl

@[simp] theorem marked_state (other : Provider) : entry.marked.state other = entry.state other := rfl
@[simp] theorem marked_attempts (other : Provider) :
    entry.marked.attempts other = entry.attempts other := rfl
@[simp] theorem marked_job : entry.marked.job = entry.job := rfl
@[simp] theorem marked_metadataPending : entry.marked.metadataPending = entry.metadataPending := rfl
@[simp] theorem marked_reupload : entry.marked.reupload = true := rfl
@[simp] theorem marked_intents (other : Provider) : entry.marked.intents other =
    if other ∈ uploads then .reupload else entry.intents other := rfl

end Entry

/-- What an applied outcome records beside the provider's next state. -/
inductive Recorded (record : UploadJobRecord) : Provider → ProviderState → UploadJobRecord → Prop
  | report (result : DpsReportResult) : result.permalink.isEmpty = false →
      Recorded record .dpsReport .succeeded { record with dpsReportResult := some result }
  | wingman (receipt : WingmanUploadReceipt) : record.wingmanUploadReceipt = none →
      receipt.permalink.isEmpty = false →
      Recorded record .wingman .succeeded { record with wingmanUploadReceipt := some receipt }
  | donbot (receipt : DonBotUploadReceipt) : record.donbotUploadReceipt = none →
      receipt.isValid = true →
      Recorded record .donbot .succeeded { record with donbotUploadReceipt := some receipt }
  | unreceipted (provider : Provider) : provider = .wingman ∨ provider = .donbot →
      Recorded record provider .succeeded record
  | twitch (receipt : TwitchDeliveryReceipt) (next : ProviderState) :
      record.twitchDeliveryReceipt = none → receipt.isValid = true →
      (receipt.status = .sent ∧ next = .succeeded ∨ receipt.status ≠ .sent ∧ next = .failed) →
      Recorded record .twitch next { record with twitchDeliveryReceipt := some receipt }
  | unsuccessful (provider : Provider) (next : ProviderState) :
      next = .skipped ∨ next.isRetryScheduled = true ∨ next = .failed ∨ next = .cancelled →
      Recorded record provider next record

/-- The guards and the result of a dispatch that reaches its provider. -/
structure Offer (entry : Entry) (provider : Provider) (job : UploadJob)
    (metadata : EncounterMetadata) : Prop where
  queued : queued (entry.state provider)
  metadata : entry.job.record.encounterMetadata = some metadata
  depends : entry.requireDependency provider = .ok ()
  elsewhere : provider = .wingman → entry.isWvw = false
  activated : ∃ attempts : UInt32, attempts.toNat = (entry.attempts provider).toNat + 1 ∧
    job = entry.job.withStatus provider { state := .active, attempts, detail := "Uploading" }

/-- One change of an entry, and what it does outside. `revivable` restricts which skipped
dependents a retry of dps.report may take up again. -/
inductive Move (revivable : UploadJobId → Provider → UploadIntent → Prop) :
    Entry × Tape W → Entry × Tape W → Prop
  | parsed {entry : Entry} {tape : Tape W} (metadata : EncounterMetadata) :
      entry.job.record.encounterMetadata = none →
      Move revivable (entry, tape)
        ({ entry with
            job := { entry.job with
              record := { entry.job.record with encounterMetadata := some metadata } }
            metadataPending := false }, tape)
  | unparsed {entry : Entry} {tape : Tape W} :
      Move revivable (entry, tape) ({ entry with metadataPending := false }, tape)
  | settled {entry : Entry} {tape : Tape W} (provider : Provider) (next : ProviderState)
      (detail : String) : queued (entry.state provider) →
      next = .skipped ∨ next = .failed ∨ next = .cancelled → detail ∈ detailTexts →
      Move revivable (entry, tape) (entry.become provider next detail, tape)
  | accepted {entry : Entry} {tape : Tape W} {job : UploadJob} {metadata : EncounterMetadata}
      (provider : Provider) (world : W) : Offer entry provider job metadata →
      Move revivable (entry, tape)
        ({ entry with job },
          ⟨world, tape.events ++ [.enqueued job (entry.request job provider metadata) (.ok ())]⟩)
  | rejected {entry : Entry} {tape : Tape W} {job : UploadJob} {metadata : EncounterMetadata}
      (provider : Provider) (error : ProviderError) (world : W) :
      Offer entry provider job metadata →
      Move revivable (entry, tape)
        ({ entry with job }.become provider .failed "Provider unavailable",
          ⟨world, tape.events ++
            [.enqueued job (entry.request job provider metadata) (.error error)]⟩)
  | received {entry : Entry} {tape : Tape W} {record : UploadJobRecord} (result : UploadResult)
      (next : ProviderState) (detail : String) : result.jobId = entry.job.id →
      entry.state result.provider = .active → entry.attempts result.provider = result.attempt →
      Recorded entry.job.record result.provider next record → detail ∈ detailTexts →
      (next.isRetryScheduled = true → ∃ delay, result.outcome = .retryAfter delay) →
      Move revivable (entry, tape)
        ({ entry with job := { entry.job with record } }.become result.provider next detail,
          tape.note (.applied result))
  | rearmed {entry : Entry} {tape : Tape W} (provider : Provider) :
      entry.state provider = .failed → entry.job.record.encounterMetadata.isSome = true →
      Move revivable (entry, tape) (entry.armed provider, tape)
  | revived {entry : Entry} {tape : Tape W} (dependent : Provider) : dependent ≠ .dpsReport →
      entry.state dependent = .skipped → entry.reupload = false →
      entry.job.record.encounterMetadata.isSome = true →
      revivable entry.job.id dependent (entry.intents dependent) →
      entry.state .dpsReport = .waiting →
      Move revivable (entry, tape) (entry.become dependent .waiting "", tape)
  | marked {entry : Entry} {tape : Tape W} : entry.job.record.encounterMetadata.isSome = true →
      (∀ provider ∈ uploads, (entry.state provider).isBusy = false) →
      Move revivable (entry, tape) (entry.marked, tape)
  | reset {entry : Entry} {tape : Tape W} (provider : Provider) : provider ∈ uploads →
      entry.reupload = true → (entry.state provider).isBusy = false →
      entry.job.record.encounterMetadata.isSome = true →
      Move revivable (entry, tape) (entry.redeliver provider, tape)
  | rechatted {entry : Entry} {tape : Tape W} : (entry.state .twitch).isBusy = false →
      entry.job.record.encounterMetadata.isSome = true →
      Move revivable (entry, tape)
        ({ entry.redeliver .twitch with
            intents := Function.update entry.intents .twitch .rechat }, tape)

namespace Entry
variable {revivable : UploadJobId → Provider → UploadIntent → Prop} {ports : UploadPorts W}
  {installed : Provider → Bool} {entry : Entry} {tape : Tape W} {provider : Provider}

theorem tryTransition_become {next : ProviderState} {detail : String}
    (allowed : (entry.state provider).allows next = true)
    (idle : next = .skipped ∨ next = .failed ∨ next = .cancelled) :
    entry.tryTransition provider next detail = entry.become provider next detail := by
  have waits : next ≠ .waiting := by rintro rfl; simp at idle
  rw [tryTransition, UploadJob.transition_idle allowed (by rintro rfl; simp at idle)
    (by rintro rfl; simp at idle)]
  simp [become, waits]

theorem skipWingman_ok {entry' : Entry} (h : entry.skipWingman = .ok entry') :
    (entry.state .wingman).allows .skipped = true ∧
      entry' = entry.become .wingman .skipped "WvW is unsupported by GW2Wingman" := by
  unfold skipWingman liftJob at h
  cases moved : entry.job.transition .wingman .skipped "WvW is unsupported by GW2Wingman" with
  | error error => simp [moved, bind, Except.bind] at h
  | ok job =>
    simp only [moved, bind, Except.bind, Except.ok.injEq] at h
    have transitioned := UploadJob.transition_ok moved
    refine ⟨transitioned.allowed, ?_⟩
    rw [← h, transitioned.of_ne_active (by simp)]
    rfl

/-- A waiting Wingman can always be skipped, so the callers' `?` never leaves them early. -/
theorem skipWingman_waiting (h : entry.state .wingman = .waiting) :
    entry.skipWingman =
      .ok (entry.become .wingman .skipped "WvW is unsupported by GW2Wingman") := by
  rw [skipWingman, UploadJob.transition_idle (by rw [show
    (entry.job.providerStatus .wingman).state = .waiting from h]; simp) (by simp) (by simp)]
  rfl

theorem settleDependent_moves (cancelled : Bool) (dependent : Provider) :
    ReflTransGen (Move revivable) (entry, tape) (settleDependent cancelled entry dependent, tape) := by
  unfold settleDependent
  split
  · exact .refl
  split
  · rename_i waiting
    cases cancelled
    · rw [if_neg (by simp), tryTransition_become (by simp [waiting]) (by simp)]
      exact .single (.settled _ _ _ (.inl waiting) (by simp) (by simp [detailTexts]))
    · rw [if_pos rfl, tryTransition_become (by simp [waiting]) (by simp)]
      exact .single (.settled _ _ _ (.inl waiting) (by simp) (by simp [detailTexts]))
  · exact .refl

theorem settleDependents_moves (cancelled : Bool) :
    ReflTransGen (Move revivable) (entry, tape) (entry.settleDependents cancelled, tape) := by
  unfold settleDependents
  generalize dependents = ds
  induction ds generalizing entry with
  | nil => exact .refl
  | cons d ds ih => exact (settleDependent_moves cancelled d).trans ih

theorem failDispatch_eq (h : (entry.state provider).isBusy = true) :
    entry.failDispatch provider =
      if provider = .dpsReport then
        (entry.become provider .failed "Provider unavailable").settleDependents false
      else entry.become provider .failed "Provider unavailable" := by
  unfold failDispatch
  rw [tryTransition_become (ProviderState.isBusy_allows h).1 (by simp)]

/-- After the failure itself a failed dispatch of dps.report settles the dependents. -/
theorem failDispatch_moves {start : Entry × Tape W} (h : (entry.state provider).isBusy = true)
    (failed : ReflTransGen (Move revivable) start
      (entry.become provider .failed "Provider unavailable", tape)) :
    ReflTransGen (Move revivable) start (entry.failDispatch provider, tape) := by
  rw [failDispatch_eq h]
  split
  · exact failed.trans (settleDependents_moves false)
  · exact failed

theorem requireDependency_ok (h : entry.requireDependency provider = .ok ()) : provider = .dpsReport ∨
      provider ≠ .twitch ∧ entry.state .dpsReport = .disabled ∨
      entry.state .dpsReport = .succeeded ∧ entry.job.record.dpsReportResult.isSome = true := by
  unfold requireDependency at h
  split at h
  · exact .inl ‹_›
  split at h
  · exact .inr (.inl ‹_›)
  split at h
  · exact .inr (.inr ‹_›)
  · cases h

theorem prepareDispatch_ok {metadata : EncounterMetadata} {job : UploadJob}
    (h : entry.prepareDispatch installed provider = .ok (metadata, job)) :
    entry.job.record.encounterMetadata = some metadata ∧ installed provider = true ∧
      entry.requireDependency provider = .ok () ∧
      UploadJob.Transitioned entry.job provider .active "Uploading" job := by
  unfold prepareDispatch requireMetadata requireProviders at h
  cases parsed : entry.job.record.encounterMetadata with
  | none => simp [parsed, bind, Except.bind] at h
  | some found =>
    cases present : installed provider with
    | false => simp [parsed, present, bind, Except.bind] at h
    | true =>
      cases depends : entry.requireDependency provider with
      | error error => simp [parsed, present, depends, bind, Except.bind] at h
      | ok u =>
        cases moved : entry.job.transition provider .active "Uploading" with
        | error error => simp [parsed, present, depends, moved, liftJob, bind, Except.bind] at h
        | ok active =>
          simp only [parsed, present, depends, moved, liftJob, bind, Except.bind, Except.ok.injEq,
            Prod.mk.injEq, List.any_cons, List.any_nil, Bool.not_true, Bool.or_false,
            Bool.false_eq_true, ↓reduceIte] at h
          obtain ⟨rfl, rfl⟩ := h
          exact ⟨rfl, rfl, rfl, UploadJob.transition_ok moved⟩

theorem prepareDispatch_offer {metadata : EncounterMetadata} {job : UploadJob}
    (waits : queued (entry.state provider))
    (elsewhere : ¬(provider = .wingman ∧ entry.isWvw = true))
    (h : entry.prepareDispatch installed provider = .ok (metadata, job)) :
    Offer entry provider job metadata := by
  obtain ⟨parsed, -, depends, transitioned⟩ := prepareDispatch_ok h
  exact ⟨waits, parsed, depends, by simpa using elsewhere, transitioned.activated⟩

end Entry

/-- What a dispatch can come to. -/
inductive Dispatched (entry : Entry) (tape : Tape W) (provider : Provider) :
    Entry × Tape W → Prop
  | skipped : provider = .wingman → entry.state .wingman = .waiting →
      Dispatched entry tape provider
        (entry.become .wingman .skipped "WvW is unsupported by GW2Wingman", tape)
  | kept : provider = .wingman → entry.state .wingman ≠ .waiting →
      Dispatched entry tape provider (entry, tape)
  | refused : Dispatched entry tape provider (entry.failDispatch provider, tape)
  | accepted {job : UploadJob} {metadata : EncounterMetadata} (world : W) :
      Offer entry provider job metadata →
      Dispatched entry tape provider ({ entry with job },
        ⟨world, tape.events ++ [.enqueued job (entry.request job provider metadata) (.ok ())]⟩)
  | rejected {job : UploadJob} {metadata : EncounterMetadata} (error : ProviderError) (world : W) :
      Offer entry provider job metadata →
      Dispatched entry tape provider ({ entry with job }.failDispatch provider,
        ⟨world, tape.events ++
          [.enqueued job (entry.request job provider metadata) (.error error)]⟩)

namespace Entry
variable {revivable : UploadJobId → Provider → UploadIntent → Prop} {ports : UploadPorts W}
  {installed : Provider → Bool} {entry : Entry} {tape : Tape W} {provider : Provider}

variable (ports installed tape) in
theorem dispatch_cases (waits : queued (entry.state provider)) :
    Dispatched entry tape provider (entry.dispatch ports installed provider tape).2 := by
  unfold dispatch
  split
  · rename_i wvw
    obtain ⟨rfl, -⟩ := wvw
    by_cases waiting : entry.state .wingman = .waiting
    · rw [skipWingman_waiting waiting]
      exact .skipped rfl waiting
    · cases skipped : entry.skipWingman with
      | error error => exact .kept rfl waiting
      | ok entry' =>
        have allowed := (skipWingman_ok skipped).1
        cases state : entry.state .wingman <;>
          simp_all [queued, ProviderState.isRetryScheduled]
  · rename_i elsewhere
    split
    · exact .refused
    · rename_i metadata job admitted
      have offer := prepareDispatch_offer waits elsewhere admitted
      split
      · rename_i world handed
        simp only [Tape.enqueue, Prod.mk.injEq] at handed
        rw [← handed.2, handed.1]
        exact .accepted _ offer
      · rename_i error world handed
        simp only [Tape.enqueue, Prod.mk.injEq] at handed
        rw [← handed.2, handed.1]
        exact .rejected error _ offer

theorem offer_state {job : UploadJob} {metadata : EncounterMetadata}
    (offer : Offer entry provider job metadata) (other : Provider) :
    Entry.state { entry with job } other =
      if other = provider then .active else entry.state other := by
  obtain ⟨attempts, -, rfl⟩ := offer.activated
  simp only [Entry.state, UploadJob.providerStatus_withStatus]
  split <;> rfl

theorem dispatch_moves (waits : queued (entry.state provider)) :
    ReflTransGen (Move revivable) (entry, tape)
      (entry.dispatch ports installed provider tape).2 := by
  have cases := dispatch_cases ports installed tape waits
  generalize (entry.dispatch ports installed provider tape).2 = out at cases ⊢
  cases cases with
  | skipped _ waiting => exact .single (.settled _ _ _ (.inl waiting) (by simp) (by simp [detailTexts]))
  | kept => exact .refl
  | refused =>
    exact failDispatch_moves waits.isBusy.1
      (.single (.settled _ _ _ waits (by simp) (by simp [detailTexts])))
  | accepted world offer => exact .single (.accepted provider world offer)
  | rejected error world offer =>
    refine failDispatch_moves ?_ (.single (.rejected provider error world offer))
    rw [offer_state offer, if_pos rfl]
    rfl

theorem dispatchWaiting_moves :
    ReflTransGen (Move revivable) (entry, tape)
      (entry.dispatchWaiting ports installed provider tape).2 := by
  unfold dispatchWaiting
  split
  · exact dispatch_moves (.inl ‹_›)
  · exact .refl

theorem fanOut_moves :
    ReflTransGen (Move revivable) (entry, tape) (entry.fanOut ports installed tape) := by
  refine foldl_moves (fun (entry, tape) dependent => ?_) dependents (entry, tape)
  dsimp only
  split
  · exact dispatchWaiting_moves
  · exact .refl

end Entry

end MannyUploader.Application
