import MannyUploader.Application.PumpSteps
import MannyUploader.Application.ReceiptLaws
import MannyUploader.Config.StorableFiles

/-! What the history makes of a discovered file. Admission checks the name, and the history
checks the record; between the two only the size of the file is open. -/
namespace MannyUploader.Application
open Domain Foundation Relation Config

/-- Every detail is one of the coordinator's, and nothing is recorded before the metadata. -/
structure Entry.Plain (entry : Entry) : Prop where
  details : ∀ provider, (entry.job.providerStatus provider).detail ∈ detailTexts
  unparsed : entry.job.record.encounterMetadata = none →
    ∀ provider, entry.state provider ≠ .active ∧ entry.job.record.hasReceipt provider = false

/-- The second half for one provider. -/
def Entry.ParsedAt (entry : Entry) (provider : Provider) : Prop :=
  entry.job.record.encounterMetadata = none →
    entry.state provider ≠ .active ∧ entry.job.record.hasReceipt provider = false

namespace Entry
variable {entry entry' : Entry} {provider : Provider}

@[simp] theorem become_detail (next : ProviderState) (detail : String) (other : Provider) :
    ((entry.become provider next detail).job.providerStatus other).detail =
      if other = provider then detail else (entry.job.providerStatus other).detail := by
  simp only [become, UploadJob.providerStatus_withStatus]
  split <;> rfl

@[simp] theorem redeliver_detail (other : Provider) :
    ((entry.redeliver provider).job.providerStatus other).detail =
      if other = provider then "" else (entry.job.providerStatus other).detail := by
  simp [redeliver]

@[simp] theorem armed_detail (other : Provider) :
    ((entry.armed provider).job.providerStatus other).detail =
      if other = provider then "" else (entry.job.providerStatus other).detail := by
  change (UploadJob.providerStatus (Entry.job (if provider = .twitch then _ else _)) other).detail = _
  split
  · rename_i same
    subst same
    simp
  · simp

@[simp] theorem become_hasReceipt (next : ProviderState) (detail : String) (other : Provider) :
    (entry.become provider next detail).job.record.hasReceipt other =
      entry.job.record.hasReceipt other := by
  cases other <;> rfl

theorem empty_detail : "" ∈ detailTexts := by simp [detailTexts]

variable (provider) in
theorem parsedAt_of_some (parsed : entry.job.record.encounterMetadata.isSome = true) :
    entry.ParsedAt provider := by
  intro none
  simp [none] at parsed

theorem ParsedAt.cancel (h : entry.ParsedAt provider) : entry.cancel.ParsedAt provider := by
  intro none
  have metadata : entry.cancel.job.record.encounterMetadata =
      entry.job.record.encounterMetadata := by rw [cancel_eq]; rfl
  have receipt : entry.cancel.job.record.hasReceipt provider =
      entry.job.record.hasReceipt provider := by
    rw [cancel_eq]
    cases provider <;> rfl
  refine ⟨fun active => ?_, receipt.trans (h (metadata ▸ none)).2⟩
  have busy := abandon_not_busy (entry.job.providerStatus provider)
  rw [← cancel_providerStatus,
    show (entry.cancel.job.providerStatus provider).state = _ from active] at busy
  cases busy

end Entry

/-- A move keeps the law of each provider on its own. -/
theorem Move.parsedAt {revivable : UploadJobId → Provider → UploadIntent → Prop}
    {s s' : Entry × Tape W} {other : Provider} (move : Move revivable s s')
    (h : s.1.ParsedAt other) : s'.1.ParsedAt other := by
  cases move with
  | parsed => exact nofun
  | unparsed => exact h
  | settled provider next detail _ ending named =>
    intro none
    obtain ⟨inactive, unrecorded⟩ := h none
    rw [Entry.become_state, Entry.become_hasReceipt]
    refine ⟨?_, unrecorded⟩
    split
    · rcases ending with rfl | rfl | rfl <;> simp
    · exact inactive
  | accepted provider _ offer =>
    obtain ⟨attempts, -, rfl⟩ := offer.activated
    exact Entry.parsedAt_of_some other (Option.isSome_of_mem offer.metadata)
  | rejected provider _ _ offer =>
    obtain ⟨attempts, -, rfl⟩ := offer.activated
    exact Entry.parsedAt_of_some other (Option.isSome_of_mem offer.metadata)
  | received result next detail _ active _ recorded named =>
    obtain ⟨providers, -, metadata, -⟩ := recorded.same
    intro none
    obtain ⟨inactive, unrecorded⟩ := h (metadata ▸ none)
    have different : other ≠ result.provider := by
      rintro rfl
      exact inactive active
    rw [Entry.become_state, if_neg different, Entry.become_hasReceipt]
    refine ⟨?_, ?_⟩
    · simpa only [Entry.state, UploadJob.providerStatus, providers] using inactive
    · generalize result.provider = provider at recorded different
      cases recorded <;> cases other <;> first | exact unrecorded | exact absurd rfl different
  | rearmed provider _ parsed => exact Entry.parsedAt_of_some other (by simpa)
  | revived dependent _ _ _ parsed => exact Entry.parsedAt_of_some other (by simpa)
  | marked => exact h
  | reset provider _ _ _ parsed => exact Entry.parsedAt_of_some other (by simpa)
  | rechatted _ parsed => exact Entry.parsedAt_of_some other (by simpa)

/-- Every detail that a move gives is named. -/
theorem Move.details {revivable : UploadJobId → Provider → UploadIntent → Prop}
    {s s' : Entry × Tape W} (move : Move revivable s s')
    (h : ∀ provider, (s.1.job.providerStatus provider).detail ∈ detailTexts) :
    ∀ provider, (s'.1.job.providerStatus provider).detail ∈ detailTexts := by
  intro other
  have kept := h other
  cases move with
  | parsed => exact kept
  | unparsed => exact kept
  | settled provider next detail _ ending named =>
    rw [Entry.become_detail]
    split
    · exact named
    · exact kept
  | accepted provider _ offer =>
    obtain ⟨attempts, -, rfl⟩ := offer.activated
    simp only [UploadJob.providerStatus_withStatus]
    split
    · simp [detailTexts]
    · exact kept
  | rejected provider _ _ offer =>
    obtain ⟨attempts, -, rfl⟩ := offer.activated
    simp only [Entry.become_detail, UploadJob.providerStatus_withStatus]
    split
    · simp [detailTexts]
    · exact kept
  | received result next detail _ active _ recorded named =>
    obtain ⟨providers, -, -, -⟩ := recorded.same
    rw [Entry.become_detail]
    split
    · exact named
    · simpa only [UploadJob.providerStatus, providers] using kept
  | rearmed provider _ parsed =>
    rw [Entry.armed_detail]
    split
    · exact Entry.empty_detail
    · exact kept
  | revived dependent _ _ _ parsed =>
    rw [Entry.become_detail]
    split
    · exact Entry.empty_detail
    · exact kept
  | marked => exact kept
  | reset provider _ _ _ parsed =>
    rw [Entry.redeliver_detail]
    split
    · exact Entry.empty_detail
    · exact kept
  | rechatted _ parsed =>
    rw [Entry.redeliver_detail]
    split
    · exact Entry.empty_detail
    · exact kept

theorem Move.plain {revivable : UploadJobId → Provider → UploadIntent → Prop}
    {s s' : Entry × Tape W} (move : Move revivable s s') (h : s.1.Plain) : s'.1.Plain where
  details := move.details h.details
  unparsed := fun none provider => move.parsedAt (fun none => h.unparsed none provider) none

theorem EntryStep.plain {ports : UploadPorts W} {installed : Provider → Bool}
    {revivable : UploadJobId → Provider → UploadIntent → Prop} {s s' : Entry × Tape W}
    (step : EntryStep ports installed revivable s s') (h : s.1.Plain) : s'.1.Plain := by
  have moves := step.moves
  clear step
  induction moves with
  | refl => exact h
  | tail _ last ih => exact last.plain ih

namespace Entry

theorem Plain.cancel {entry : Entry} (h : entry.Plain) : entry.cancel.Plain where
  details := by
    intro other
    rw [cancel_providerStatus, abandon]
    split
    · simp [detailTexts]
    · exact h.details other
  unparsed := fun none provider => ParsedAt.cancel (fun none => h.unparsed none provider) none

end Entry

theorem Admits.plain {ports : UploadPorts W} {s : Running W} {file : LogFileIdentity}
    {enabled : ProviderSelection} {job : UploadJob} (h : Admits ports s file enabled job)
    (metadataPending : Bool) : (Entry.new job metadataPending).Plain := by
  obtain ⟨-, next, id, -, -, created⟩ := h
  obtain ⟨-, -, rfl⟩ := UploadJob.new_ok created
  refine ⟨fun other => Entry.empty_detail, fun _ other => ⟨?_, by cases other <;> rfl⟩⟩
  simp only [Entry.state, Entry.new, UploadJob.providerStatus, ProviderStatus.initial]
  split <;> simp

theorem detailTexts_ok : ∀ detail ∈ detailTexts, text (utf8 detail) 4096 = .ok () := by
  decide

theorem validateStatuses_ok {record : UploadJobRecord}
    (details : ∀ provider, (record.providers provider).detail ∈ detailTexts) :
    validateStatuses record = .ok () := by
  have one := fun provider => detailTexts_ok _ (details provider)
  simp [validateStatuses, Provider.all, one, bind, Except.bind, pure, Except.pure]

/-- Before the metadata arrives only the size of the file is in question. -/
theorem Entry.Plain.validateRecord_iff {entry : Entry} (h : entry.Plain)
    (none : entry.job.record.encounterMetadata = none) (storable : Storable entry.job.record.file)
    (candidate : LogDiscovery.validate entry.job.record.file = .ok ()) :
    validateRecord entry.job.record = .ok () ↔ entry.job.record.file.size ≠ 0 := by
  have receipts := fun provider => (h.unparsed none provider).2
  have report : entry.job.record.dpsReportResult = Option.none := by
    simpa [UploadJobRecord.hasReceipt] using receipts .dpsReport
  have wingman : entry.job.record.wingmanUploadReceipt = Option.none := by
    simpa [UploadJobRecord.hasReceipt] using receipts .wingman
  have donbot : entry.job.record.donbotUploadReceipt = Option.none := by
    simpa [UploadJobRecord.hasReceipt] using receipts .donbot
  have twitch : entry.job.record.twitchDeliveryReceipt = Option.none := by
    simpa [UploadJobRecord.hasReceipt] using receipts .twitch
  have restored : ∃ job, UploadJob.restore firstJobId entry.job.record = .ok job := by
    unfold LogDiscovery.validate at candidate
    split at candidate
    · cases candidate
    rename_i named
    simp only [Bool.or_eq_true, not_or, Bool.not_eq_true] at named
    unfold UploadJob.restore
    rw [named.1, report, wingman, donbot, twitch]
    exact ⟨_, rfl⟩
  obtain ⟨job, restored⟩ := restored
  rw [← validateFile_iff storable candidate]
  simp only [validateRecord, none, whenSome, validateReceipts, report, wingman, validateIdentifiers,
    donbot, twitch, validateStatuses_ok h.details, restored, bind, Except.bind]
  cases validateFile entry.job.record <;> simp

theorem validateRecords_singleton {record : UploadJobRecord} {capacity : Nat}
    (allowed : 1 ≤ capacity ∧ capacity ≤ maxHistoryRecords) :
    validateRecords [record] capacity = .ok () ↔ validateRecord record = .ok () := by
  rw [validateRecords_iff]
  simp [allowed]

/-- A job that the run admitted, by its identifier. -/
def AdmittedIn (events : List Event) (id : UploadJobId) : Prop :=
  ∃ job, Event.admitted job ∈ events ∧ job.id = id

/-- What the admissions of a run leave behind. -/
structure Admissions (c : UploadCoordinator) (events : List Event) : Prop where
  below : ∀ next, c.nextId = some next → ∀ id, AdmittedIn events id →
    id.get.toNat < next.toNat
  born : ∀ job, Event.admitted job ∈ events → (Entry.new job true).Plain ∧
    job.record.encounterMetadata = none ∧ LogDiscovery.validate job.record.file = .ok ()
  plain : ∀ entry ∈ c.jobs, AdmittedIn events entry.job.id →
    entry.Plain ∧ LogDiscovery.validate entry.job.record.file = .ok ()

namespace Admissions
variable {ports : UploadPorts W} {revivable : UploadJobId → Provider → UploadIntent → Prop}
  {c c' : UploadCoordinator} {events more : List Event} {s s' : Running W}

theorem frame (h : Admissions c events) (quiet : ∀ job, Event.admitted job ∉ more) :
    Admissions c (events ++ more) := by
  have old : ∀ job, Event.admitted job ∈ events ++ more → Event.admitted job ∈ events :=
    fun job member => (List.mem_append.mp member).resolve_right (quiet job)
  have same : ∀ id, AdmittedIn (events ++ more) id → AdmittedIn events id :=
    fun id ⟨job, member, named⟩ => ⟨job, old job member, named⟩
  exact ⟨fun next counted id known => h.below next counted id (same id known),
    fun job member => h.born job (old job member),
    fun entry member known => h.plain entry member (same _ known)⟩

theorem forgot {pump : ApplicationPump} {tape : Tape W} (h : Admissions pump.uploads tape.events)
    (files : List LogFileIdentity) :
    Admissions pump.uploads (pump.noteForgotten files tape).events :=
  h.frame (by simp)

theorem quiet_of_work (work : ∀ event ∈ more, event.isWork = true) (job : UploadJob) :
    Event.admitted job ∉ more := fun member => by cases work _ member

theorem churn (h : Admissions s.1 s.2.events) (churn : Churn ports revivable s s') :
    Admissions s'.1 s'.2.events := by
  obtain ⟨more, events, work⟩ := churn.events
  have framed := events ▸ h.frame (quiet_of_work work)
  cases churn with
  | worked running found step =>
    have id := step.own.1
    refine ⟨framed.below, framed.born, fun other member known => ?_⟩
    rw [List.mem_append, List.mem_cons] at member
    rcases member with first | rfl | last
    · exact framed.plain other (by simp [found, first]) known
    · obtain ⟨plain, valid⟩ := framed.plain _ (by rw [found]; simp) (id ▸ known)
      exact ⟨step.plain plain, step.file ▸ valid⟩
    · exact framed.plain other (by simp [found, last]) known
  | evicted found =>
    exact ⟨framed.below, framed.born, fun other member =>
      framed.plain other (mem_of_without found member)⟩
  | adjusted => exact ⟨framed.below, framed.born, framed.plain⟩
  | elapsed => exact ⟨framed.below, framed.born, framed.plain⟩
  | stopped =>
    refine ⟨framed.below, framed.born, fun other member known => ?_⟩
    obtain ⟨entry, retained, rfl⟩ := List.mem_map.mp member
    rw [Entry.cancel_id] at known
    obtain ⟨plain, valid⟩ := framed.plain entry retained known
    exact ⟨plain.cancel, by rwa [Entry.cancel_file]⟩

theorem churned (h : Admissions s.1 s.2.events)
    (churns : ReflTransGen (Churn ports revivable) s s') : Admissions s'.1 s'.2.events := by
  induction churns with
  | refl => exact h
  | tail _ last ih => exact ih.churn last

/-- The new job has an identifier that no retained job has. -/
theorem enrol {file : LogFileIdentity} {enabled : ProviderSelection} {job : UploadJob}
    (h : Admissions s.1 s.2.events) (ledger : Ledger s) (admits : Admits ports s file enabled job)
    (valid : LogDiscovery.validate file = .ok ()) :
    Admissions (Application.enrol s job).1 (Application.enrol s job).2.events := by
  have plain := admits.plain true
  have named := admits.file
  obtain ⟨-, next, id, counted, numbered, created⟩ := admits
  have number : job.id.get = next := by
    obtain ⟨-, -, rfl⟩ := UploadJob.new_ok created
    exact UploadJobId.get_of_new numbered
  have unparsed : job.record.encounterMetadata = none := by
    obtain ⟨-, -, rfl⟩ := UploadJob.new_ok created
    rfl
  have known : ∀ id, AdmittedIn (s.2.events ++ [.admitted job]) id →
      AdmittedIn s.2.events id ∨ job.id = id := by
    rintro id ⟨other, member, named⟩
    rcases List.mem_append.mp member with old | new
    · exact .inl ⟨other, old, named⟩
    · cases List.mem_singleton.mp new
      exact .inr named
  refine ⟨fun later counted' id admitted => ?_, fun other member => ?_,
    fun entry member admitted => ?_⟩
  · have larger : later.toNat = next.toNat + 1 := by
      rw [← number]; exact toNat_of_checkedSucc64 counted'
    rcases known id admitted with old | rfl
    · have := h.below next counted id old
      omega
    · rw [number]; omega
  · rcases List.mem_append.mp member with old | new
    · exact h.born other old
    · cases List.mem_singleton.mp new
      exact ⟨plain, unparsed, by rw [named]; exact valid⟩
  · rcases List.mem_append.mp member with old | new
    · have below := (ledger.counter next counted).1 entry old
      rcases known _ admitted with before | same
      · exact h.plain entry old before
      · rw [← same, number] at below
        omega
    · rw [List.mem_singleton.mp new]
      exact ⟨plain, by rw [show (Entry.new job true).job = job from rfl, named]; exact valid⟩

end Admissions

theorem PumpMove.admissions {ports : PumpPorts W} {restorable : List UploadJobRecord → Prop}
    {s s' : Pumping W} (move : PumpMove ports restorable s s') (ledger : Ledger (s.1.uploads, s.2))
    (h : Admissions s.1.uploads s.2.events) : Admissions s'.1.uploads s'.2.events := by
  cases move with
  | idled same => dsimp only; rw [same]; exact h
  | worked churn => exact h.churn churn
  | remembered file => exact h.forgot [file]
  | refused file => exact h.forgot [file]
  | submitted file enabled valid _ churn admits =>
    exact ((h.forgot [file]).churned churn).enrol ((ledger.forgot _ _).churn churn) admits valid
  | @restored _ tape _ _ _ records _ _ restored =>
    obtain ⟨first, -, jobs, -, rfl, rfl⟩ := UploadCoordinator.restore_ok restored
    have none : ∀ id, ¬ AdmittedIn (tape.noteAll
        (jobs.map fun entry => .restored entry.job)).events id := by
      rintro id ⟨job, member, named⟩
      have old : Event.admitted job ∈ tape.events := by simpa using member
      have below := h.below 1 first id ⟨job, old, named⟩
      exact id.nonzero (UInt64.toNat_inj.mp (by simpa using below))
    exact ⟨fun _ _ id known => absurd known (none id),
      fun job member => absurd ⟨job, member, rfl⟩ (none job.id),
      fun entry _ known => absurd known (none entry.job.id)⟩

namespace ApplicationPump
variable {ports : PumpPorts W} {providers : List Provider} {historyLimit : Nat}
  {options : PumpOptions} {c : UploadCoordinator} {pump : ApplicationPump} {world : W}
  {s : Pumping W}

theorem admissions_of_run (created : UploadCoordinator.new providers historyLimit = .ok c)
    (started : new (.new c) options = .ok pump)
    (run : Run (perform ports) (fun _ _ => True) (pump, ⟨world, []⟩) s) :
    Admissions s.1.uploads s.2.events := by
  have keeps : ∀ s s', PumpMove ports (fun _ => True) s s' → Ledger (s.1.uploads, s.2) →
      Admissions s.1.uploads s.2.events → Admissions s'.1.uploads s'.2.events :=
    fun _ _ move ledger h => move.admissions ledger h
  refine run_invariant (fun _ => True) run (fun _ op _ => op.unguarded) keeps
    (ledger_of_new created started world) ?_
  have none : ∀ id, ¬ AdmittedIn [] id := fun id ⟨_, member, _⟩ => by cases member
  refine ⟨fun _ _ id known => absurd known (none id), fun job member => ?_,
    fun entry _ known => absurd known (none entry.job.id)⟩
  cases member

/-- The history accepts the record of an admitted file, at its admission and as long as its
metadata is missing, exactly when the file is not empty. -/
theorem admitted_persistable (created : UploadCoordinator.new providers historyLimit = .ok c)
    (started : new (.new c) options = .ok pump)
    (run : Run (perform ports) (fun _ _ => True) (pump, ⟨world, []⟩) s) {capacity : Nat}
    (allowed : 1 ≤ capacity ∧ capacity ≤ maxHistoryRecords) :
    (∀ job, Event.admitted job ∈ s.2.events → Storable job.record.file →
      (validateRecords [job.record] capacity = .ok () ↔ job.record.file.size ≠ 0)) ∧
    ∀ entry ∈ s.1.uploads.jobs, AdmittedIn s.2.events entry.job.id →
      entry.job.record.encounterMetadata = none → Storable entry.job.record.file →
      (validateRecords [entry.job.record] capacity = .ok () ↔
        entry.job.record.file.size ≠ 0) := by
  have h := admissions_of_run created started run
  constructor
  · intro job member storable
    obtain ⟨plain, unparsed, valid⟩ := h.born job member
    rw [validateRecords_singleton allowed]
    exact plain.validateRecord_iff unparsed storable valid
  · intro entry member known unparsed storable
    obtain ⟨plain, valid⟩ := h.plain entry member known
    rw [validateRecords_singleton allowed]
    exact plain.validateRecord_iff unparsed storable valid

theorem storable_logNamed (size : UInt64) : Storable (logNamed "a.zevtc" size) where
  unicode := show (PathBuf.mk (utf8 ("C:\\logs\\" ++ "a.zevtc"))).toStr.isSome = true by
    decide
  short := show (utf8 ("C:\\logs\\" ++ "a.zevtc")).length ≤ 4096 by decide
  printable := show ∀ byte ∈ utf8 ("C:\\logs\\" ++ "a.zevtc"), 0x20 ≤ byte by decide +kernel
  aligned := show SystemTime.unixEpoch.nanos % 100 = 0 by decide
  recent := show -(windowsEpochTicks * 100) ≤ SystemTime.unixEpoch.nanos by decide

/-- The job of a file that was just found. -/
def foundJob (size : UInt64) : UploadJob where
  id := sampleJobId
  record := {
    file := logNamed "a.zevtc" size, detectedAt := .unixEpoch, encounterMetadata := none
    dpsReportResult := none, wingmanUploadReceipt := none, donbotUploadReceipt := none
    twitchDeliveryReceipt := none
    providers := fun provider =>
      .initial (if allEnabled.contains provider then .waiting else .disabled) }

theorem admitted_persistable_sample :
    let s := (scans [logNamed "a.zevtc" 1]).foldl (perform directoryPorts) (narrowPump, ⟨[], []⟩)
    Event.admitted (foundJob 1) ∈ s.2.events ∧
      validateRecords [(foundJob 1).record] 2 = .ok () := by
  have h := admitted_persistable
    (show UploadCoordinator.new Provider.all 2 = .ok (sampleStart ⟨2, by decide⟩).1 from rfl)
    (show new _ (sampleOptions 2) = .ok narrowPump from rfl)
    (.of_list (perform directoryPorts) (narrowPump, ⟨[], []⟩) (scans [logNamed "a.zevtc" 1])
      fun _ _ _ => trivial) (show 1 ≤ 2 ∧ 2 ≤ maxHistoryRecords by decide)
  have found : Event.admitted (foundJob 1) ∈ ((scans [logNamed "a.zevtc" 1]).foldl
      (perform directoryPorts) (narrowPump, ⟨[], []⟩)).2.events := by decide
  exact ⟨found, (h.1 (foundJob 1) found (storable_logNamed 1)).mpr (by decide)⟩

/-- An empty file is a stable candidate like any other, and no save of the history succeeds
while its job is retained. -/
theorem empty_file_admitted :
    let s := (scans [logNamed "a.zevtc" 0]).foldl (perform directoryPorts) (narrowPump, ⟨[], []⟩)
    Event.admitted (foundJob 0) ∈ s.2.events ∧ Storable (foundJob 0).record.file ∧
      validateRecords [(foundJob 0).record] 2 = .error .invalidRecord ∧
      (fullStore.mergeAndSave sampleJson sampleFiles s.1.uploads.history ()).1 =
        .error .invalidRecord := by
  intro s
  exact ⟨by decide, storable_logNamed 0, by decide, by decide⟩

end ApplicationPump
end MannyUploader.Application
