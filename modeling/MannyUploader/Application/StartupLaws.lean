import MannyUploader.Application.PumpSteps
import MannyUploader.Config.HistoryLaws

/-! Which stored histories the addon starts with. What the store loads has passed the checks
of the document; seeding discovery asks for one thing more, the extension of a candidate. -/
namespace MannyUploader.Domain

namespace UploadJob

/-- Whether a record restores does not depend on the number it gets. -/
theorem restore_renumber {id other : UploadJobId} {record : UploadJobRecord} {job : UploadJob}
    (h : restore id record = .ok job) : ∃ job, restore other record = .ok job := by
  unfold restore at h ⊢
  split_ifs at h ⊢
  exact ⟨_, rfl⟩

end UploadJob

namespace LogDiscovery

theorem forM_validate_iff {files : List LogFileIdentity} :
    files.forM validate = .ok () ↔ ∀ file ∈ files, validate file = .ok () := by
  refine ⟨validate_of_forM, fun valid => ?_⟩
  induction files with
  | nil => rfl
  | cons file rest ih =>
    change (validate file >>= fun _ => rest.forM validate) = .ok ()
    rw [valid file (by simp)]
    apply ih
    intro other member
    exact valid other (by simp [member])

/-- Of a path that is not empty only the extension matters. -/
theorem validate_iff {file : LogFileIdentity} (named : file.canonicalPath.bytes.isEmpty = false) :
    validate file = .ok () ↔ isZevtcCandidate file.canonicalPath = true := by
  unfold validate
  rw [named, Bool.false_or]
  cases isZevtcCandidate file.canonicalPath <;> simp

end LogDiscovery
end MannyUploader.Domain

namespace MannyUploader.Config
open Domain Foundation

theorem validateRecord_restores {record : UploadJobRecord} (valid : validateRecord record = .ok ())
    (id : UploadJobId) : ∃ job, UploadJob.restore id record = .ok job := by
  obtain ⟨_, -, valid⟩ := bind_ok valid
  obtain ⟨_, -, valid⟩ := bind_ok valid
  obtain ⟨_, -, valid⟩ := bind_ok valid
  obtain ⟨_, -, valid⟩ := bind_ok valid
  obtain ⟨_, -, valid⟩ := bind_ok valid
  split at valid
  · exact UploadJob.restore_renumber ‹_›
  · cases valid

/-- The store opens with the capacity it was asked for. -/
theorem JsonUploadHistoryStore.new_capacity {json : JsonCodec} {files : FilePorts W}
    {path : PathBuf} {capacity : Nat} {world : W} {store : JsonUploadHistoryStore}
    (opened : JsonUploadHistoryStore.new json files path capacity world = .ok store) :
    store.capacity = capacity := by
  unfold JsonUploadHistoryStore.new at opened
  split at opened
  · cases opened
  split at opened
  · cases opened
  cases opened
  unfold load
  split
  · rfl
  · split <;> rfl
  · rfl

end MannyUploader.Config

namespace MannyUploader.Application
open Domain Foundation Config

namespace UploadCoordinator
variable {c : UploadCoordinator} {tape : Tape W}

theorem restoreJobs_of_restores {position : Nat} {records : List UploadJobRecord}
    (few : position + records.length < 2 ^ 64)
    (restores : ∀ record ∈ records, ∀ id, ∃ job, UploadJob.restore id record = .ok job) :
    ∃ jobs, restoreJobs position records = .ok jobs := by
  induction records generalizing position with
  | nil => exact ⟨[], rfl⟩
  | cons record rest ih =>
    rw [List.length_cons] at few
    have nonzero : UInt64.ofNat position + 1 ≠ 0 := by
      intro zero
      have := toNat_ofNat_add_one (n := position) (by omega)
      rw [zero] at this
      simp at this
    obtain ⟨jobs, others⟩ := @ih (position + 1) (by omega)
      fun other member => restores other (by simp [member])
    obtain ⟨job, restored⟩ := restores record (by simp) ⟨_, nonzero⟩
    have numbered : UploadJobId.new (UInt64.ofNat position + 1) = .ok ⟨_, nonzero⟩ := dif_neg nonzero
    refine ⟨Entry.new job false :: jobs, ?_⟩
    rw [restoreJobs, numbered]
    simp only [liftJob, bind, Except.bind, restored, others]

/-- A new coordinator takes every history whose records restore. -/
theorem restore_of_restores {providers : List Provider} {historyLimit : Nat}
    (created : new providers historyLimit = .ok c) {records : List UploadJobRecord}
    (few : records.length < 2 ^ 64)
    (restores : ∀ record ∈ records, ∀ id, ∃ job, UploadJob.restore id record = .ok job) :
    (c.restore records tape).1 = .ok () := by
  have brought : ∃ jobs, restoreJobs 0 (records.drop (records.length - c.historyLimit)) = .ok jobs :=
    restoreJobs_of_restores (by rw [List.length_drop]; omega)
      fun record member => restores record (List.mem_of_mem_drop member)
  obtain ⟨jobs, entries⟩ := brought
  obtain ⟨empty, first, fresh, running⟩ := new_ok created
  unfold restore requireRunning
  simp only [running, fresh, first, empty, bind, Except.bind, Bool.false_eq_true, ↓reduceIte,
    bne_self_eq_false, List.isEmpty_nil, Bool.not_true, Bool.or_self, entries]

end UploadCoordinator

namespace ApplicationPump
variable {pump : ApplicationPump} {c : UploadCoordinator} {options : PumpOptions}
  {providers : List Provider} {coordinatorLimit : Nat}

theorem newDiscovery_of_new {ingestion : LogIngestionCoordinator}
    (started : new ingestion options = .ok pump) :
    newDiscovery pump.options = .ok pump.discovery := by
  unfold new at started
  split at started
  · cases started
  obtain ⟨discovery, created, started⟩ := bind_ok started
  cases started
  exact created

theorem newDiscovery_ok {discovery : LogDiscovery} (h : newDiscovery options = .ok discovery) :
    discovery.historyLimit = options.historyLimit := by
  have created := mapErr_ok h
  unfold LogDiscovery.new at created
  split at created
  · cases created; rfl
  · cases created

/-- A pump that started seeds every history of candidates that fits its limit. -/
theorem seedHistory_iff {ingestion : LogIngestionCoordinator}
    (started : new ingestion options = .ok pump) {records : List UploadJobRecord}
    (few : records.length ≤ options.historyLimit) :
    (∃ discovery, pump.seedHistory records = .ok discovery) ↔
      ∀ record ∈ records, LogDiscovery.validate record.file = .ok () := by
  obtain ⟨-, -, -, running, same⟩ := new_ok started
  have created := newDiscovery_of_new started
  have limit := newDiscovery_ok created
  have seeding : pump.seedHistory records =
      mapErr .discovery (pump.discovery.seed (records.map (·.file))) := by
    unfold seedHistory
    rw [running, if_neg (by simp), if_neg (by rw [same]; omega), created]
    rfl
  have every : (∀ record ∈ records, LogDiscovery.validate record.file = .ok ()) ↔
      (records.map (·.file)).forM LogDiscovery.validate = .ok () := by
    rw [LogDiscovery.forM_validate_iff]
    simp
  rw [seeding, every, LogDiscovery.seed, if_neg (by rw [List.length_map, limit, same]; omega)]
  cases (records.map (·.file)).forM LogDiscovery.validate with
  | error error => simp [mapErr, bind, Except.bind]
  | ok checked => simp [mapErr, bind, Except.bind]

/-- A stored history starts the addon exactly when it names candidates only. -/
theorem restoreHistory_loaded {json : JsonCodec} {files : FilePorts W} {path : PathBuf}
    {capacity : Nat} {world : W} {store : JsonUploadHistoryStore}
    (opened : JsonUploadHistoryStore.new json files path capacity world = .ok store)
    (created : UploadCoordinator.new providers coordinatorLimit = .ok c)
    (started : new (.new c) options = .ok pump) (room : capacity ≤ options.historyLimit)
    (tape : Tape W) :
    (pump.restoreHistory store.records tape).1 = .ok () ↔
      ∀ record ∈ store.records, isZevtcCandidate record.file.canonicalPath = true := by
  have stored := JsonUploadHistoryStore.new_capacity opened
  obtain ⟨⟨-, bounded⟩, few, valid, -⟩ := validateRecords_iff.mp store.valid
  have restores : ∀ record ∈ store.records, ∀ id, ∃ job, UploadJob.restore id record = .ok job :=
    fun record member => validateRecord_restores (valid record member)
  have candidates : (∀ record ∈ store.records, LogDiscovery.validate record.file = .ok ()) ↔
      ∀ record ∈ store.records, isZevtcCandidate record.file.canonicalPath = true := by
    refine forall₂_congr fun record member => LogDiscovery.validate_iff ?_
    obtain ⟨job, restored⟩ := restores record member firstJobId
    exact (UploadJob.restore_ok restored).1
  have uploads : pump.uploads = c := by
    rw [ApplicationPump.uploads, (new_ok started).1]
    rfl
  have accepted : (c.restore store.records tape).1 = .ok () := by
    apply UploadCoordinator.restore_of_restores created _ restores
    rw [maxHistoryRecords] at bounded
    omega
  rw [← candidates, ← seedHistory_iff started (by omega), restoreHistory]
  cases seeded : pump.seedHistory store.records with
  | error error => simp
  | ok discovery =>
    simp only [uploads, Except.ok.injEq, exists_eq', iff_true]
    generalize c.restore store.records tape = out at accepted
    obtain ⟨result, uploads, tape⟩ := out
    subst accepted
    rfl

section samples

/-- A history of one log of this name. -/
def storedDocument (name : String) : List UInt8 :=
  utf8 ("\x7b\"schema_version\":1,\"logs\":[\x7b\"path\":\"C:/logs/" ++ name ++ "\",\"size\":1," ++
    "\"last_write_time_ticks\":116444736000000000,\"detected_at_milliseconds\":0," ++
    "\"encounter_metadata\":null,\"dps_report_result\":null,\"wingman_upload_receipt\":null," ++
    "\"donbot_upload_receipt\":null,\"twitch_delivery_receipt\":null,\"providers\":[" ++
    String.intercalate ","
      (List.replicate 4 "\x7b\"state\":6,\"attempts\":0,\"detail\":\"\"\x7d") ++
    "]\x7d]\x7d")

def storedWire (name : String) : Wire.History where
  schemaVersion := 1
  logs := [{
    path := utf8 ("C:/logs/" ++ name), size := 1
    lastWriteTimeTicks := ⟨116444736000000000, by decide⟩, detectedAtMilliseconds := ⟨0, by decide⟩
    encounterMetadata := none, dpsReportResult := none, wingmanUploadReceipt := none
    donbotUploadReceipt := none, twitchDeliveryReceipt := none
    providers := fun _ => { state := 6, attempts := 0, detail := "" } }]

def storedJson (name : String) : JsonCodec where
  parse document := if document = storedDocument name then some (storedWire name) else none
  print _ := storedDocument name

def storedFiles (name : String) : FilePorts Unit where
  read _ _ _ := .ok (some (storedDocument name))
  writeAtomic _ _ world := (.ok (), world)

/-- The store that opens on the document. -/
def storedHistory (name : String) : Except HistoryStoreError JsonUploadHistoryStore :=
  JsonUploadHistoryStore.new (storedJson name) (storedFiles name)
    ⟨utf8 "C:\\addon\\upload-history.json"⟩ 2 ()

/-- Restoring the document's records on a fresh pump, with the number of the records and the
note of the store. -/
def restoreStored (name : String) :
    Except HistoryStoreError (Nat × Option HistoryRecovery × Except PumpError Unit) :=
  (storedHistory name).map fun store => (store.records.length, store.recovery,
    (narrowPump.restoreHistory store.records (⟨(), []⟩ : Tape Unit)).1)

def openedStore (name : String) : JsonUploadHistoryStore :=
  match storedHistory name with
  | .ok store => store
  | .error _ => fullStore

theorem storedHistory_opens : storedHistory "a.zevtc" = .ok (openedStore "a.zevtc") := by
  have opens : (storedHistory "a.zevtc").isOk = true := by decide
  unfold openedStore
  cases opened : storedHistory "a.zevtc" with
  | ok store => rfl
  | error error => simp [opened, Except.isOk, Except.toBool] at opens

theorem restoreHistory_loaded_sample :
    restoreStored "a.zevtc" = .ok (1, none, .ok ()) ∧
      ((narrowPump.restoreHistory (openedStore "a.zevtc").records (⟨(), []⟩ : Tape Unit)).1 =
        .ok () ↔
      ∀ record ∈ (openedStore "a.zevtc").records,
        isZevtcCandidate record.file.canonicalPath = true) :=
  ⟨by decide +kernel, restoreHistory_loaded storedHistory_opens
    (show UploadCoordinator.new Provider.all 2 = .ok (sampleStart ⟨2, by decide⟩).1 from rfl)
    (show new _ (sampleOptions 2) = .ok narrowPump from rfl) (by decide) _⟩

/-- A record of another kind of file passes every check of the document and stops the
addon at each start. -/
theorem foreign_file_refused :
    restoreStored "a.txt" = .ok (1, none, .error (.discovery .invalidCandidate)) := by
  decide +kernel

end samples

end ApplicationPump
end MannyUploader.Application
