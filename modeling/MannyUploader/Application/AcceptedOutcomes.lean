import MannyUploader.Application.AdmittedRecords
import MannyUploader.Application.ShutdownLaws
import MannyUploader.Config.HistoryCodec

/-! Which outcomes the coordinator takes from a worker, and that the history takes the record that
they leave. -/
namespace MannyUploader.Application
open Domain Foundation Config

def wingmanOrigins : List String := ["https://gw2wingman.nevermindcreations.de/log/"]

/-- `validate_record`, part by part. -/
structure Recordable (record : UploadJobRecord) : Prop where
  file : validateFile record = .ok ()
  metadata : whenSome record.encounterMetadata validateMetadata = .ok ()
  report : whenSome record.dpsReportResult validateReport = .ok ()
  wingman : whenSome record.wingmanUploadReceipt
    (fun receipt => Config.reportUrl receipt.permalink wingmanOrigins) = .ok ()
  statuses : ∀ provider, text (utf8 (record.providers provider).detail) 4096 = .ok ()
  guild : whenSome record.donbotUploadReceipt
    (fun receipt => whenSome receipt.guildId fun guild => text (utf8 guild) 19) = .ok ()
  message : whenSome record.twitchDeliveryReceipt
    (fun receipt => whenSome receipt.messageId fun message => text (utf8 message) 256) = .ok ()
  named : record.file.canonicalPath.bytes.isEmpty = false
  reported : record.dpsReportResult.any (·.permalink.isEmpty) = false
  linked : record.wingmanUploadReceipt.any (·.permalink.isEmpty) = false
  uploaded : record.donbotUploadReceipt.any (!·.isValid) = false
  delivered : record.twitchDeliveryReceipt.any (!·.isValid) = false

theorem restore_iff {id : UploadJobId} {record : UploadJobRecord} :
    (∃ job, UploadJob.restore id record = .ok job) ↔
      record.file.canonicalPath.bytes.isEmpty = false ∧
      record.dpsReportResult.any (·.permalink.isEmpty) = false ∧
      record.wingmanUploadReceipt.any (·.permalink.isEmpty) = false ∧
      record.donbotUploadReceipt.any (!·.isValid) = false ∧
      record.twitchDeliveryReceipt.any (!·.isValid) = false := by
  unfold UploadJob.restore
  split_ifs <;> simp_all

theorem recordable_iff {record : UploadJobRecord} :
    validateRecord record = .ok () ↔ Recordable record := by
  constructor
  · intro valid
    obtain ⟨file, metadata, receipts, statuses, identifiers, restored⟩ := validateRecord_ok valid
    obtain ⟨_, report, wingman⟩ := bind_ok receipts
    obtain ⟨_, guild, message⟩ := bind_ok identifiers
    obtain ⟨named, reported, linked, uploaded, delivered⟩ := restore_iff.mp restored
    exact { file, metadata, report, wingman, statuses := validateStatuses_iff.mp statuses, guild
            message, named, reported, linked, uploaded, delivered }
  · intro parts
    have receipts : validateReceipts record = .ok () := by
      rw [validateReceipts, parts.report]
      exact parts.wingman
    have identifiers : validateIdentifiers record = .ok () := by
      rw [validateIdentifiers, parts.guild]
      exact parts.message
    have statuses := validateStatuses_iff.mpr parts.statuses
    obtain ⟨job, restored⟩ := (@restore_iff firstJobId record).mpr
      ⟨parts.named, parts.reported, parts.linked, parts.uploaded, parts.delivered⟩
    simp only [validateRecord, parts.file, parts.metadata, receipts, statuses, identifiers,
      restored, bind, Except.bind]

/-- A success that the coordinator and the history take from a worker of the provider. -/
def UploadSuccess.Fits (provider : Provider) : UploadSuccess → Prop
  | .dpsReport _ => False
  | .wingman receipt => provider = .wingman ∧
      ∀ found ∈ receipt, Config.reportUrl found.permalink wingmanOrigins = .ok ()
  | .donbot receipt => provider = .donbot ∧ ∀ found ∈ receipt, found.isValid = true
  | .twitch receipt => provider = .twitch ∧ receipt.isValid = true ∧ receipt.status = .sent

def UploadOutcome.Fits (provider : Provider) : UploadOutcome → Prop
  | .succeeded success | .succeededWithNotice success _ => success.Fits provider
  | .retryAfter delay => delay ≠ 0 ∧ delay ≤ maxRetryDelay
  | .twitchDropped receipt => provider = .twitch ∧ receipt.isValid = true ∧ receipt.status ≠ .sent
  | _ => True

theorem Recordable.withStatus {job : UploadJob} (parts : Recordable job.record)
    (provider : Provider) {status : ProviderStatus}
    (detail : text (utf8 status.detail) 4096 = .ok ()) :
    Recordable (job.withStatus provider status).record := by
  refine { parts with statuses := fun other => ?_ }
  simp only [UploadJob.withStatus, Function.update_apply]
  split
  · exact detail
  · exact parts.statuses other

theorem nonempty_of_reportUrl {value : String} {origins : List String}
    (ok : Config.reportUrl value origins = .ok ()) : value.isEmpty = false := by
  rw [← Bool.not_eq_true, String.isEmpty_iff]
  rintro rfl
  have outside : origins.any (fun origin => (utf8 origin).isPrefixOf (utf8 "") &&
      decide ((utf8 origin).length < (utf8 "").length)) = false := by
    simp [utf8]
  simp [Config.reportUrl, outside] at ok

theorem guild_of_valid {receipt : DonBotUploadReceipt} (valid : receipt.isValid = true) :
    whenSome receipt.guildId (fun guild => text (utf8 guild) 19) = .ok () := by
  cases named : receipt.guildId with
  | none => rfl
  | some guild =>
    simp only [DonBotUploadReceipt.isValid, named, Option.all_some, canonicalDiscordId,
      Bool.and_eq_true, decide_eq_true_eq, List.all_eq_true] at valid
    have digits := valid.2.1.1.2
    refine text_ok valid.2.1.1.1.1.2 fun byte member => ?_
    have digit := digits byte member
    simp only [Domain.isAsciiDigit, Bool.and_eq_true, decide_eq_true_eq] at digit
    exact UInt8.le_trans (by decide) digit.1

theorem message_of_valid {receipt : TwitchDeliveryReceipt} (valid : receipt.isValid = true) :
    whenSome receipt.messageId (fun message => text (utf8 message) 256) = .ok () := by
  cases named : receipt.messageId with
  | none => rfl
  | some message =>
    unfold TwitchDeliveryReceipt.isValid at valid
    rw [named] at valid
    split at valid
    next found same =>
      cases same
      simp only [Bool.and_eq_true, decide_eq_true_eq, List.all_eq_true] at valid
      refine text_ok valid.1.2 fun byte member => ?_
      exact UInt8.le_trans (by decide) (valid.2 byte member).1
    next same => cases same
    · cases valid

theorem recordTwitchDelivery_fits {job : UploadJob} {receipt : TwitchDeliveryReceipt}
    (valid : receipt.isValid = true) (active : (job.providerStatus .twitch).state = .active)
    (unrecorded : job.record.hasReceipt .twitch = false) (parts : Recordable job.record) :
    ∃ after, liftJob (job.recordTwitchDelivery receipt) = .ok after ∧
      Recordable after.record ∧ after.record.providers = job.record.providers ∧
      after.record.twitchDeliveryReceipt = some receipt := by
  refine ⟨{ job with record := { job.record with twitchDeliveryReceipt := some receipt } }, ?_,
    { parts with message := message_of_valid valid, delivered := by simp [valid] }, rfl, rfl⟩
  rw [UploadJob.recordTwitchDelivery, show job.record.twitchDeliveryReceipt.isSome = false from
    unrecorded, valid, UploadJob.recordReceipt_active _ _ _ active]
  rfl

theorem recordSuccess_fits {job : UploadJob} {provider : Provider} {success : UploadSuccess}
    (fits : success.Fits provider) (active : (job.providerStatus provider).state = .active)
    (unrecorded : job.record.hasReceipt provider = false) (parts : Recordable job.record)
    (detail : Option String) :
    ∃ after, Entry.recordSuccess job provider success detail = .ok after ∧
      Recordable after.record ∧ after.record.providers = job.record.providers ∧
      (provider = .twitch → after.record.twitchDeliveryReceipt.any (·.status = .sent) = true) := by
  cases success with
  | dpsReport report => exact fits.elim
  | wingman receipt =>
    obtain ⟨rfl, linked⟩ := fits
    cases receipt with
    | none => exact ⟨job, rfl, parts, rfl, by simp⟩
    | some receipt =>
      have url := linked receipt rfl
      have named := nonempty_of_reportUrl url
      refine ⟨{ job with record := { job.record with wingmanUploadReceipt := some receipt } },
        ?_, { parts with wingman := url, linked := named }, rfl, by simp⟩
      rw [Entry.recordSuccess, UploadJob.recordWingmanUpload,
        show job.record.wingmanUploadReceipt.isSome = false from unrecorded, named,
        Bool.not_false, UploadJob.recordReceipt_active _ _ _ active]
      rfl
  | donbot receipt =>
    obtain ⟨rfl, valid⟩ := fits
    cases receipt with
    | none => exact ⟨job, rfl, parts, rfl, by simp⟩
    | some receipt =>
      have valid := valid receipt rfl
      have guild := guild_of_valid valid
      refine ⟨{ job with record := { job.record with donbotUploadReceipt := some receipt } },
        ?_, { parts with guild, uploaded := by simp [valid] }, rfl, by simp⟩
      rw [Entry.recordSuccess, UploadJob.recordDonbotUpload,
        show job.record.donbotUploadReceipt.isSome = false from unrecorded, valid,
        UploadJob.recordReceipt_active _ _ _ active]
      rfl
  | twitch receipt =>
    obtain ⟨rfl, valid, sent⟩ := fits
    obtain ⟨after, recorded, parts, statuses, found⟩ :=
      recordTwitchDelivery_fits valid active unrecorded parts
    exact ⟨after, recorded, parts, statuses, fun _ => by simp [found, sent]⟩

/-- A steady clock that has a day left before the end of its range. -/
def ClockInRange (now : Instant) : Prop := now.nanos + Duration.fromSecs 86400 < Instant.limit

/-- How an active attempt of a provider may go on. -/
structure GoesOn (job : UploadJob) (provider : Provider) (after : UploadJob)
    (next : ProviderState) : Prop where
  allowed : ProviderState.active.allows next = true
  parts : Recordable after.record
  statuses : after.record.providers = job.record.providers
  posted : provider = .twitch → next = .succeeded →
    after.record.twitchDeliveryReceipt.any (·.status = .sent) = true

theorem recordOutcome_fits {job : UploadJob} {now : Instant} {provider : Provider}
    {outcome : UploadOutcome} (fits : outcome.Fits provider) (inRange : ClockInRange now)
    (active : (job.providerStatus provider).state = .active)
    (unrecorded : job.record.hasReceipt provider = false) (parts : Recordable job.record) :
    ∃ after next, Entry.recordOutcome job now provider outcome = .ok (after, next) ∧
      GoesOn job provider after next := by
  have stays (next : ProviderState) (allowed : ProviderState.active.allows next = true)
      (unsent : next ≠ .succeeded) : GoesOn job provider job next :=
    ⟨allowed, parts, rfl, fun _ sent => absurd sent unsent⟩
  cases outcome with
  | succeeded success | succeededWithNotice success notice =>
    obtain ⟨after, recorded, parts, statuses, posted⟩ :=
      recordSuccess_fits fits active unrecorded parts (Entry.outcomeDetail _)
    refine ⟨after, .succeeded, ?_, rfl, parts, statuses, fun twitch _ => posted twitch⟩
    rw [Entry.recordOutcome, recorded]
    rfl
  | skipped | failed | failedWithNotice | ambiguous | cancelled =>
    exact ⟨job, _, rfl, stays _ rfl (by simp)⟩
  | retryAfter delay =>
    obtain ⟨positive, bounded⟩ := fits
    have deadline : now.checkedAdd delay = some ⟨now.nanos + delay⟩ :=
      if_pos (Nat.lt_of_le_of_lt (Nat.add_le_add_left bounded _) inRange)
    rw [Entry.recordOutcome, if_neg (not_or.mpr ⟨positive, Nat.not_lt.mpr bounded⟩), deadline]
    exact ⟨job, _, rfl, stays _ rfl (by simp)⟩
  | twitchDropped receipt =>
    obtain ⟨rfl, valid, dropped⟩ := fits
    obtain ⟨after, recorded, parts, statuses, -⟩ :=
      recordTwitchDelivery_fits valid active unrecorded parts
    refine ⟨after, .failed, ?_, rfl, parts, statuses, by simp⟩
    rw [Entry.recordOutcome, if_neg (by simp [dropped]), recorded]
    rfl

theorem GoesOn.transition {job after : UploadJob} {provider : Provider} {next : ProviderState}
    (goes : GoesOn job provider after next) (dependent : provider ≠ .dpsReport)
    (active : (job.providerStatus provider).state = .active) (detail : String) :
    after.transition provider next detail = .ok (after.withStatus provider
      { job.providerStatus provider with state := next, detail }) := by
  have same : after.providerStatus provider = job.providerStatus provider :=
    congrFun goes.statuses provider
  have settled : next ≠ .active ∧ next ≠ .waiting := by
    have allowed := goes.allowed
    constructor <;> rintro rfl <;> cases allowed
  have posted : ¬(provider = .twitch ∧ next = .succeeded ∧
      (!after.record.twitchDeliveryReceipt.any (·.status = .sent)) = true) := by
    rintro ⟨twitch, succeeded, unsent⟩
    simp [goes.posted twitch succeeded] at unsent
  unfold UploadJob.transition
  dsimp only
  rw [same, active, goes.allowed, if_neg (by simp), if_neg (by simp [dependent]),
    if_neg (by simp [settled]), if_neg posted, if_neg settled.1]
  simp [settled]

theorem completeAttempt_fits {entry : Entry} {now : Instant} {result : UploadResult}
    (fits : result.outcome.Fits result.provider) (dependent : result.provider ≠ .dpsReport)
    (inRange : ClockInRange now) (active : entry.state result.provider = .active)
    (attempt : entry.attempts result.provider = result.attempt)
    (unrecorded : entry.job.record.hasReceipt result.provider = false)
    (parts : Recordable entry.job.record) :
    ∃ job next, entry.completeAttempt now result = .ok (job, next) ∧ Recordable job.record ∧
      (job.providerStatus result.provider).state = next ∧ next ≠ .active := by
  obtain ⟨after, next, recorded, goes⟩ :=
    recordOutcome_fits fits inRange active unrecorded parts
  have detail := detailTexts_ok _ (outcomeDetail_mem result.outcome (stateDetail_mem next))
  let status := { entry.job.providerStatus result.provider with
    state := next, detail := (Entry.outcomeDetail result.outcome).getD (Entry.stateDetail next) }
  refine ⟨after.withStatus result.provider status, next, ?_, ?_, ?_, ?_⟩
  · unfold Entry.completeAttempt
    rw [if_neg (by simp [active, attempt]), recorded]
    simp only [bind, Except.bind, dependent, false_and, if_false,
      goes.transition dependent active, liftJob]
    rfl
  · exact goes.parts.withStatus result.provider detail
  · simp [status]
  · rintro rfl
    cases goes.allowed

/-- A coordinator has not shut down while an attempt of it is active. -/
theorem running_of_active {W : Type} {ports : UploadPorts W} {providers : List Provider}
    {historyLimit : Nat} {c : UploadCoordinator} {world : W} {s : Running W}
    (created : UploadCoordinator.new providers historyLimit = .ok c)
    (run : Run (UploadCoordinator.perform ports) (fun _ _ => True) (c, ⟨world, []⟩) s)
    {entry : Entry} (member : entry ∈ s.1.jobs) {provider : Provider}
    (active : entry.state provider = .active) : s.1.stopping = false := by
  have closed : s.1.stopping = true → s.1.Closed := by
    obtain ⟨-, -, -, running⟩ := UploadCoordinator.new_ok created
    have start : c.stopping = true → c.Closed := by simp [running]
    refine @Run.invariant _ _ _ _ _ _ (fun s => s.1.stopping = true → s.1.Closed) run ?_ start
    exact fun before op _ closed => (UploadCoordinator.perform_keeps ports before op).closed closed
  by_contra stopped
  have idle := (closed (by simpa using stopped)).1 entry member
  simp only [Entry.busy, Bool.or_eq_false_iff, List.any_eq_false] at idle
  have still := idle.2 provider provider.mem_all
  simp [active, ProviderState.isBusy] at still

/-- The coordinator takes the result while its attempt is active and nothing is recorded for it,
and the record stays one that the history takes. -/
def Accepted (result : UploadResult) : Prop :=
  ∀ (W : Type) (ports : UploadPorts W) (providers : List Provider) (historyLimit : Nat)
    (c : UploadCoordinator) (world : W) (s : Running W) (before after : List Entry)
    (entry : Entry), UploadCoordinator.new providers historyLimit = .ok c →
    Run (UploadCoordinator.perform ports) (fun _ _ => True) (c, ⟨world, []⟩) s →
    s.1.index result.jobId = .ok (before, entry, after) →
    entry.state result.provider = .active → entry.attempts result.provider = result.attempt →
    entry.job.record.hasReceipt result.provider = false →
    ClockInRange (ports.steadyNow s.2.world) → validateRecord entry.job.record = .ok () →
    (s.1.applyResult ports result s.2).1 = .ok () ∧
    ∃ job, entry.applyResult ports s.1.installed result s.2 =
        .ok ({ entry with job }, s.2.note (.applied result)) ∧
      validateRecord job.record = .ok () ∧
      (job.providerStatus result.provider).state ≠ .active

theorem accepted_of_fits {result : UploadResult} (fits : result.outcome.Fits result.provider)
    (dependent : result.provider ≠ .dpsReport) : Accepted result := by
  intro W ports providers historyLimit c world s before after entry created run found active
    attempt unrecorded inRange valid
  obtain ⟨job, next, completed, parts, state, settled⟩ := completeAttempt_fits fits dependent
    inRange active attempt unrecorded (recordable_iff.mp valid)
  have performed : entry.applyResult ports s.1.installed result s.2 =
      .ok ({ entry with job }, s.2.note (.applied result)) := by
    unfold Entry.applyResult
    rw [completed]
    simp only [bind, Except.bind, dependent, if_false]
  refine ⟨?_, job, performed, recordable_iff.mpr parts, state ▸ settled⟩
  have member : entry ∈ s.1.jobs := by
    rw [(UploadCoordinator.index_ok found).1]
    simp
  have running := running_of_active created run member active
  have idle : s.1.requireRunning = .ok () := if_neg (by simp [running])
  unfold UploadCoordinator.applyResult
  simp only [idle, found, performed, bind, Except.bind]

end MannyUploader.Application
