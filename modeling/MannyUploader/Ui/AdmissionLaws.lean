import MannyUploader.Application.AdmittedRecords
import MannyUploader.Application.PumpSteps
import MannyUploader.Ui.RecentLogs

/-! What the row of a job offers, and what the coordinator admits. The checks in front of a
dispatch are taken out of the three commands of the user. -/
namespace MannyUploader.Application
open Domain Foundation

namespace UploadCoordinator
variable {ports : UploadPorts W} {c : UploadCoordinator} {id : UploadJobId} {tape : Tape W}

/-- Everything in front of the dispatch of `retry_failed`. -/
def retryPreflight (c : UploadCoordinator) (id : UploadJobId) (provider : Provider) :
    Except CoordinatorError (List Entry × Entry × List Entry) := do
  c.requireRunning
  let (before, entry, after) ← c.index id
  let _ ← entry.requireMetadata
  requireProviders c.installed [provider]
  entry.requireDependency provider
  let entry ← entry.rearm provider
  .ok (before, entry, after)

/-- Everything in front of the dispatch of `reupload`. -/
def reuploadPreflight (c : UploadCoordinator) (id : UploadJobId) :
    Except CoordinatorError (List Entry × Entry × List Entry) := do
  c.requireRunning
  requireProviders c.installed uploads
  let (before, entry, after) ← c.index id
  let entry ← entry.prepareReupload
  .ok (before, entry, after)

/-- Everything in front of the dispatch of `rechat`. -/
def rechatPreflight (c : UploadCoordinator) (id : UploadJobId) :
    Except CoordinatorError (List Entry × Entry × List Entry) := do
  c.requireRunning
  requireProviders c.installed [.twitch]
  let (before, entry, after) ← c.index id
  let entry ← entry.prepareRechat
  .ok (before, entry, after)

theorem commands_eq (provider : Provider) :
    c.retryFailed ports id provider tape =
        c.redispatch ports provider (c.retryPreflight id provider) tape ∧
      c.reupload ports id tape = c.redispatch ports .dpsReport (c.reuploadPreflight id) tape ∧
      c.rechat ports id tape = c.redispatch ports .twitch (c.rechatPreflight id) tape :=
  ⟨rfl, rfl, rfl⟩

end UploadCoordinator

namespace Entry
variable {entry : Entry} {provider : Provider}

variable (entry provider) in
theorem redeliver_eq (parsed : entry.job.record.encounterMetadata.isSome = true)
    (idle : (entry.state provider).isBusy = false)
    (reported : provider = .twitch → entry.job.record.dpsReportResult ≠ none) :
    entry.job.prepareExplicitDelivery provider = .ok (entry.redeliver provider).job := by
  rw [UploadJob.prepareExplicitDelivery, if_neg (by simpa [Option.isSome_iff_ne_none] using parsed),
    if_neg (by simpa [state] using idle), if_neg fun both => reported both.1 both.2]
  rfl

theorem skipWvw_isOk (waiting : entry.state .wingman = .waiting) :
    (if entry.isWvw then entry.skipWingman else .ok entry).isOk = true := by
  split
  · rw [skipWingman_waiting waiting]
    rfl
  · rfl

theorem prepareReupload_isOk : entry.prepareReupload.isOk = true ↔
    entry.job.record.encounterMetadata.isSome = true ∧
      ∀ provider ∈ uploads, (entry.state provider).isBusy = false := by
  constructor
  · intro ok
    cases prepared : entry.prepareReupload with
    | error _ => rw [prepared] at ok; cases ok
    | ok entry' =>
      obtain ⟨parsed, idle, -⟩ := prepareReupload_ok prepared
      exact ⟨parsed, idle⟩
  · rintro ⟨parsed, idle⟩
    have report := redeliver_eq entry .dpsReport parsed (idle .dpsReport (by simp [uploads]))
      (fun same => by cases same)
    have wingman := redeliver_eq (entry.redeliver .dpsReport) .wingman
      (by simpa using parsed) (by simpa using idle .wingman (by simp [uploads]))
      (fun same => by cases same)
    have donbot := redeliver_eq ((entry.redeliver .dpsReport).redeliver .wingman)
      .donbot (by simpa using parsed)
      (by simpa using idle .donbot (by simp [uploads])) (fun same => by cases same)
    unfold prepareReupload
    simp only [uploads, List.foldlM_cons, List.foldlM_nil, report, wingman, donbot, liftJob, bind,
      Except.bind, pure, Except.pure]
    apply skipWvw_isOk
    change (((entry.redeliver .dpsReport).redeliver .wingman).redeliver .donbot).state .wingman =
      .waiting
    simp

theorem prepareRechat_isOk : entry.prepareRechat.isOk = true ↔
    entry.requireDependency .twitch = .ok () ∧
      entry.job.record.encounterMetadata.isSome = true ∧
      (entry.state .twitch).isBusy = false := by
  constructor
  · intro ok
    cases prepared : entry.prepareRechat with
    | error _ => rw [prepared] at ok; cases ok
    | ok entry' =>
      obtain ⟨depends, parsed, idle, -⟩ := prepareRechat_ok prepared
      exact ⟨depends, parsed, idle⟩
  · rintro ⟨depends, parsed, idle⟩
    have reported : entry.job.record.dpsReportResult ≠ none := by
      unfold requireDependency at depends
      intro none
      simp [none] at depends
    unfold prepareRechat
    rw [depends, redeliver_eq entry .twitch parsed idle fun _ => reported]
    rfl

theorem rearm_isOk (parsed : entry.job.record.encounterMetadata.isSome = true) :
    (entry.rearm provider).isOk = true ↔ entry.state provider = .failed := by
  constructor
  · intro ok
    cases armed : entry.rearm provider with
    | error _ => rw [armed] at ok; cases ok
    | ok entry' => exact (rearm_ok armed).1
  · intro failed
    have failed' : (entry.job.providerStatus provider).state = .failed := failed
    have waits : entry.job.transition provider .waiting "" =
        .ok (entry.become provider .waiting "").job := by
      have allowed : (entry.job.providerStatus provider).state.allows .waiting = true := by
        rw [failed']
        rfl
      simp [UploadJob.transition, allowed]
      rfl
    have skipped (job : UploadJob) (dependent : Provider) (other : dependent ≠ .twitch)
        (parsed : job.record.encounterMetadata.isSome = true) :
        ∃ job', prepareSkipped job dependent = .ok job' ∧
          job'.record.encounterMetadata.isSome = true := by
      unfold prepareSkipped
      split
      next skipped =>
        have idle : ((Entry.new job false).state dependent).isBusy = false := by
          rw [show (Entry.new job false).state dependent = .skipped from skipped]
          rfl
        have renewed := redeliver_eq (.new job false) dependent parsed idle (absurd · other)
        rw [show (Entry.new job false).job = job from rfl] at renewed
        refine ⟨_, by rw [renewed]; rfl, ?_⟩
        simpa [new] using parsed
      · exact ⟨job, rfl, parsed⟩
    have prepared : ∃ job, entry.prepareRetry provider = .ok job := by
      unfold prepareRetry
      split
      next grouped =>
        rw [if_neg (not_not.mpr failed), waits]
        obtain ⟨first, wingman, parsed⟩ := skipped (entry.become provider .waiting "").job .wingman
          (fun same => by cases same) (by simpa using parsed)
        obtain ⟨second, donbot, -⟩ :=
          skipped first .donbot (fun same => by cases same) parsed
        refine ⟨second, ?_⟩
        simp [liftJob, bind, Except.bind, wingman, donbot, pure, Except.pure]
      · unfold UploadJob.prepareManualRetry
        rw [if_neg (not_not.mpr failed'), waits]
        exact ⟨_, rfl⟩
    obtain ⟨job, prepared⟩ := prepared
    unfold rearm
    rw [prepared]
    rfl

/-- The report of dps.report stands with its success, and never before the metadata. -/
structure ReportStands (entry : Entry) : Prop where
  coupled : entry.job.record.CoupledAt .dpsReport
  parsed : entry.ParsedAt .dpsReport

end Entry

/-- What a restored record says of dps.report agrees with itself. -/
def UploadJobRecord.ReportStands (record : UploadJobRecord) : Prop :=
  record.CoupledAt .dpsReport ∧
    (record.dpsReportResult.isSome = true → record.encounterMetadata.isSome = true)

theorem EntryStep.reportStands {ports : UploadPorts W} {installed : Provider → Bool}
    {revivable : UploadJobId → Provider → UploadIntent → Prop} {s s' : Entry × Tape W}
    (step : EntryStep ports installed revivable s s') (h : s.1.ReportStands) : s'.1.ReportStands := by
  have moves := step.moves
  clear step
  induction moves with
  | refl => exact h
  | tail _ last ih => exact ⟨last.coupledAt ih.coupled, last.parsedAt ih.parsed⟩

theorem Step.reportStands {ports : UploadPorts W}
    {revivable : UploadJobId → Provider → UploadIntent → Prop} {s s' : Running W}
    (step : Step ports revivable UploadJobRecord.ReportStands s s')
    (h : ∀ entry ∈ s.1.jobs, entry.ReportStands) : ∀ entry ∈ s'.1.jobs, entry.ReportStands := by
  cases step with
  | churned churn =>
    cases churn with
    | worked _ found step => exact forall_replaced found h step.reportStands
    | evicted found _ => exact fun entry member => h entry (mem_of_without found member)
    | adjusted => exact h
    | elapsed => exact h
    | stopped =>
      intro entry member
      obtain ⟨before, retained, rfl⟩ := List.mem_map.mp member
      have lawful := h before retained
      exact ⟨Entry.cancel_coupledAt lawful.coupled, lawful.parsed.cancel⟩
  | admitted file enabled _ _ _ fresh =>
    intro entry member
    rcases List.mem_append.mp member with retained | new
    · exact h entry retained
    · rw [List.mem_singleton.mp new]
      refine ⟨coupled_new fresh .dpsReport, ?_⟩
      obtain ⟨-, -, rfl⟩ := UploadJob.new_ok fresh
      refine fun _ => ⟨?_, rfl⟩
      simp only [Entry.state, Entry.new, UploadJob.providerStatus, ProviderStatus.initial]
      split <;> simp
  | restored records _ _ _ _ _ lawful restored =>
    intro entry member
    obtain ⟨entries, -⟩ := UploadCoordinator.restoreJobs_ok restored
    obtain ⟨record, listed, -, id, restored⟩ := exists_of_forall₂ entries member
    obtain ⟨coupled, parsed⟩ := lawful record listed
    refine ⟨coupledAt_restored coupled restored, fun none => ?_⟩
    obtain ⟨-, eq⟩ := UploadJob.restore_ok restored
    rw [eq] at none
    have state : entry.state .dpsReport =
        (UploadJob.interrupt (record.providers .dpsReport)).state := by
      change (entry.job.record.providers .dpsReport).state = _
      rw [eq]
    have receipt : entry.job.record.hasReceipt .dpsReport = record.dpsReportResult.isSome := by
      rw [eq]
      rfl
    rw [state, receipt]
    refine ⟨fun active => ?_, ?_⟩
    · have idle := UploadJob.interrupt_not_busy (record.providers .dpsReport)
      rw [active] at idle
      cases idle
    · by_contra recorded
      have known := parsed (by simpa only [Bool.not_eq_false] using recorded)
      rw [show record.encounterMetadata = Option.none from none] at known
      cases known

/-- The providers that a coordinator was built with stay. -/
theorem Step.installed {ports : UploadPorts W}
    {revivable : UploadJobId → Provider → UploadIntent → Prop} {restorable : UploadJobRecord → Prop}
    {s s' : Running W} (step : Step ports revivable restorable s s') :
    s'.1.installed = s.1.installed := by
  cases step with
  | churned churn => cases churn <;> rfl
  | admitted => rfl
  | restored => rfl

end MannyUploader.Application

namespace MannyUploader.Ui
open Domain Application Foundation UploadCoordinator

/-- `require_dependency`, on the record. -/
def dependencyMet (record : UploadJobRecord) : Provider → Bool
  | .dpsReport => true
  | .wingman | .donbot => (record.providers .dpsReport).state = .disabled ||
      (record.providers .dpsReport).state = .succeeded && record.dpsReportResult.isSome
  | .twitch => (record.providers .dpsReport).state = .succeeded && record.dpsReportResult.isSome

variable {ports : UploadPorts W} {providers : List Provider} {historyLimit : Nat}
  {c : UploadCoordinator} {world : W} {s : Running W} {entry : Entry}

/-- One more case in which a check passes. -/
theorem passes_or {condition : Prop} [Decidable condition]
    (rest : Except CoordinatorError Unit) :
    (if condition then Except.ok () else rest) = .ok () ↔ condition ∨ rest = .ok () := by
  split <;> simp_all

theorem dependencyMet_iff {provider : Provider} :
    entry.requireDependency provider = .ok () ↔
      dependencyMet entry.job.record provider = true := by
  unfold Entry.requireDependency
  rw [passes_or, passes_or, passes_or]
  simp only [Entry.state, UploadJob.providerStatus]
  cases provider <;> simp [dependencyMet]

/-- A command on an entry: the coordinator runs, has its providers, and finds the entry. -/
theorem preflights_isOk (c : UploadCoordinator) (all : ∀ provider, c.installed provider = true)
    {before after : List Entry}
    (found : c.index entry.job.id = .ok (before, entry, after)) :
    ((c.reuploadPreflight entry.job.id).isOk = true ↔
      c.stopping = false ∧ entry.prepareReupload.isOk = true) ∧
    ((c.rechatPreflight entry.job.id).isOk = true ↔
      c.stopping = false ∧ entry.prepareRechat.isOk = true) ∧
    ∀ provider, (c.retryPreflight entry.job.id provider).isOk = true ↔
      c.stopping = false ∧ entry.job.record.encounterMetadata.isSome = true ∧
        entry.requireDependency provider = .ok () ∧ (entry.rearm provider).isOk = true := by
  have present (list : List Provider) : requireProviders c.installed list = .ok () := by
    simp [requireProviders, all]
  unfold reuploadPreflight rechatPreflight retryPreflight requireRunning
  rw [found]
  cases c.stopping with
  | true => simp [bind, Except.bind, Except.isOk, Except.toBool]
  | false =>
    simp only [present, bind, Except.bind, Bool.false_eq_true, ↓reduceIte, true_and]
    refine ⟨?_, ?_, fun provider => ?_⟩
    · cases entry.prepareReupload <;> simp [Except.isOk, Except.toBool]
    · cases entry.prepareRechat <;> simp [Except.isOk, Except.toBool]
    · unfold Entry.requireMetadata
      cases entry.job.record.encounterMetadata with
      | none => simp [Except.isOk, Except.toBool]
      | some metadata =>
        cases entry.requireDependency provider with
        | error _ => simp [Except.isOk, Except.toBool]
        | ok _ => cases entry.rearm provider <;> simp [Except.isOk, Except.toBool]

/-- A restore may bring in reports that agree with their records; nothing else is asked. -/
def RestoresReported (_ : Running W) : CoordinatorOp W → Prop
  | .restore records => ∀ record ∈ records, UploadJobRecord.ReportStands record
  | _ => True

theorem reported_of_run (created : new providers historyLimit = .ok c)
    (run : Run (perform ports) RestoresReported (c, ⟨world, []⟩) s) :
    ∀ entry ∈ s.1.jobs, entry.ReportStands := by
  refine run_invariant (fun _ _ _ => True) UploadJobRecord.ReportStands run (fun s op met => ?_)
    (fun _ _ taken h => Step.reportStands taken h) ?_
  · cases op <;> first | exact met | simp [CoordinatorOp.Guarded, Entry.Revives]
  · simp [(new_ok created).1]

theorem installed_of_run (created : new providers historyLimit = .ok c)
    (all : ∀ provider, provider ∈ providers)
    (run : Run (perform ports) (fun _ _ => True) (c, ⟨world, []⟩) s) :
    ∀ provider, s.1.installed provider = true := by
  intro provider
  have keeps (d d' : Running W) (taken : Step ports (fun _ _ _ => True) (fun _ => True) d d')
      (h : d.1.installed = c.installed) : d'.1.installed = c.installed :=
    (Step.installed taken).trans h
  have kept : s.1.installed = c.installed :=
    run_invariant (fun _ _ _ => True) (fun _ => True) run (fun d op _ => op.unguarded d.1) keeps rfl
  rw [kept]
  obtain ⟨limit, -, rest⟩ := bind_ok created
  split at rest
  · cases rest
  · cases rest
    simpa using all provider

/-- In every reachable state the row offers a reupload exactly when a coordinator that runs
admits it. A retry that it offers is admitted when the report it depends on is there, and a
chat message that it offers when dps.report succeeded on known metadata, as it always has
where the restored records agree with themselves. -/
theorem row_offers (created : new providers historyLimit = .ok c)
    (all : ∀ provider, provider ∈ providers)
    (run : Run (perform ports) (fun _ _ => True) (c, ⟨world, []⟩) s) :
    (∀ entry ∈ s.1.jobs,
      let id := entry.job.id
      let row := buildRecentLogRow ⟨id, entry.job.record⟩
      ((s.1.reuploadPreflight id).isOk = true ↔
        s.1.stopping = false ∧ row.reuploadAvailable = true) ∧
      (∀ provider, (row.providers provider).retryAvailable = true →
        ((s.1.retryPreflight id provider).isOk = true ↔
          s.1.stopping = false ∧ dependencyMet entry.job.record provider = true)) ∧
      (row.rechatAvailable = true → ((s.1.rechatPreflight id).isOk = true ↔
        s.1.stopping = false ∧ (entry.job.record.providers .dpsReport).state = .succeeded ∧
          entry.job.record.encounterMetadata.isSome = true))) ∧
    (Run (perform ports) RestoresReported (c, ⟨world, []⟩) s → ∀ entry ∈ s.1.jobs,
      (buildRecentLogRow ⟨entry.job.id, entry.job.record⟩).rechatAvailable = true →
        ((s.1.rechatPreflight entry.job.id).isOk = true ↔ s.1.stopping = false)) := by
  have ledger := ledger_of_run created run
  have installed := installed_of_run created all run
  have rechat (entry : Entry) (member : entry ∈ s.1.jobs)
      (offered : (buildRecentLogRow ⟨entry.job.id, entry.job.record⟩).rechatAvailable = true) :
      entry.job.record.dpsReportResult.isSome = true ∧
      ((s.1.rechatPreflight entry.job.id).isOk = true ↔
        s.1.stopping = false ∧ (entry.job.record.providers .dpsReport).state = .succeeded ∧
          entry.job.record.encounterMetadata.isSome = true) := by
    obtain ⟨before, after, found⟩ := UploadCoordinator.index_of_member ledger member
    obtain ⟨linked, idle⟩ := Bool.and_eq_true_iff.mp offered
    have reported : entry.job.record.dpsReportResult.isSome = true := by
      by_contra none
      have none : entry.job.record.dpsReportResult = Option.none := by simpa using none
      simp [reportUrl, none, Except.toOption] at linked
    have idle : (entry.state .twitch).isBusy = false := by
      simpa [Entry.state, UploadJob.providerStatus] using idle
    refine ⟨reported, ?_⟩
    rw [(preflights_isOk s.1 installed found).2.1, Entry.prepareRechat_isOk, dependencyMet_iff]
    simp [dependencyMet, reported, idle]
  refine ⟨fun entry member => ⟨?_, fun provider offered => ?_, fun offered =>
    (rechat entry member offered).2⟩, fun lawful entry member offered => ?_⟩
  · obtain ⟨before, after, found⟩ := UploadCoordinator.index_of_member ledger member
    rw [(preflights_isOk s.1 installed found).1, Entry.prepareReupload_isOk]
    simp [buildRecentLogRow, Entry.state, UploadJob.providerStatus]
  · obtain ⟨before, after, found⟩ := UploadCoordinator.index_of_member ledger member
    obtain ⟨failed, parsed⟩ := Bool.and_eq_true_iff.mp offered
    have failed : entry.state provider = .failed := of_decide_eq_true failed
    rw [(preflights_isOk s.1 installed found).2.2 provider, Entry.rearm_isOk parsed,
      dependencyMet_iff]
    simp [parsed, failed]
  · obtain ⟨reported, iff⟩ := rechat entry member offered
    have law := reported_of_run created lawful entry member
    have succeeded : (entry.job.record.providers .dpsReport).state = .succeeded :=
      law.coupled.mp reported
    have parsed : entry.job.record.encounterMetadata.isSome = true := by
      by_contra none
      have unrecorded := (law.parsed (by simpa using none)).2
      rw [show entry.job.record.hasReceipt .dpsReport = true from reported] at unrecorded
      cases unrecorded
    rw [iff]
    simp [succeeded, parsed]

/-- A log delivered but for its chat message, whose second report failed. -/
def failedReupload : List (CoordinatorOp Unit) :=
  [.addPending (sampleLog 1) allEnabled, .setMetadata sampleJobId sampleMetadata] ++
    ([Provider.dpsReport, .wingman, .donbot].map fun provider =>
      .applyResult (sampleSuccess provider 1)) ++
    [.applyResult ⟨sampleJobId, .twitch, 1, .failed⟩, .reupload sampleJobId,
      .applyResult ⟨sampleJobId, .dpsReport, 2, .failed⟩]

theorem row_offers_sample :
    let s := failedReupload.foldl (perform acceptingPorts) (sampleStart ⟨100, by decide⟩)
    ∀ entry ∈ s.1.jobs,
      ((s.1.reuploadPreflight entry.job.id).isOk = true ↔ s.1.stopping = false ∧
        (buildRecentLogRow ⟨entry.job.id, entry.job.record⟩).reuploadAvailable = true) :=
  fun entry member =>
    ((row_offers (show new Provider.all 100 = .ok _ from rfl) Provider.mem_all
      (.of_list (perform acceptingPorts) (sampleStart ⟨100, by decide⟩) failedReupload
        fun _ _ _ => trivial)).1 entry member).1

/-- The row offers the chat message again, and the coordinator refuses it for the report that
is gone. -/
theorem retry_refused :
    let s := failedReupload.foldl (perform acceptingPorts) (sampleStart ⟨100, by decide⟩)
    s.1.stopping = false ∧ s.1.jobs.all (fun entry =>
      let row := buildRecentLogRow ⟨entry.job.id, entry.job.record⟩
      entry.job.id == sampleJobId && (row.providers .twitch).retryAvailable &&
        !(s.1.retryPreflight entry.job.id .twitch).isOk) = true ∧ s.1.jobs.length = 1 := by
  decide

end MannyUploader.Ui
