import MannyUploader.Application.Ports
import MannyUploader.Config.HistoryStore

/-! What a save keeps. A merge replaces in place and trims from the front, so whether an
update survives depends on where the record it replaces stood. -/
namespace MannyUploader.Config
open Domain Foundation
open JsonUploadHistoryStore (recordKey)

theorem validateDistinct_iff {seen : List LogFileIdentity} {records : List UploadJobRecord} :
    validateDistinct seen records = .ok () ↔
      (∀ record ∈ records, validateRecord record = .ok ()) ∧ (records.map recordKey).Nodup ∧
        ∀ record ∈ records, recordKey record ∉ seen.map LogFileIdentity.key := by
  induction records generalizing seen with
  | nil => simp [validateDistinct]
  | cons record rest ih =>
    have known : seen.any (· == record.file) = true ↔
        recordKey record ∈ seen.map LogFileIdentity.key := by
      simp [List.any_eq_true, LogFileIdentity.beq_iff, recordKey]
    unfold validateDistinct
    constructor
    · intro h
      obtain ⟨_, valid, h⟩ := bind_ok h
      split at h
      · cases h
      rename_i fresh
      obtain ⟨others, distinct, unseen⟩ := ih.mp h
      simp only [List.map_cons, List.mem_cons, not_or] at unseen
      refine ⟨?_, ?_, ?_⟩
      · simpa [valid] using others
      · rw [List.map_cons, List.nodup_cons]
        refine ⟨fun later => ?_, distinct⟩
        obtain ⟨other, member, same⟩ := List.mem_map.mp later
        exact (unseen other member).1 same
      · intro other member
        rcases List.mem_cons.mp member with rfl | later
        · exact fun found => fresh (known.mpr found)
        · exact (unseen other later).2
    · rintro ⟨valid, distinct, unseen⟩
      rw [List.map_cons, List.nodup_cons] at distinct
      rw [valid record (by simp)]
      change (if seen.any (· == record.file) = true then _ else _) = _
      rw [if_neg (fun found => unseen record (by simp) (known.mp found))]
      refine ih.mpr ⟨fun other member => valid other (by simp [member]), distinct.2,
        fun other member => ?_⟩
      rw [List.map_cons, List.mem_cons, not_or]
      exact ⟨fun same => distinct.1 (List.mem_map.mpr ⟨other, member, same⟩),
        unseen other (by simp [member])⟩

theorem validateRecords_iff {records : List UploadJobRecord} {capacity : Nat} :
    validateRecords records capacity = .ok () ↔
      (1 ≤ capacity ∧ capacity ≤ maxHistoryRecords) ∧ records.length ≤ capacity ∧
        (∀ record ∈ records, validateRecord record = .ok ()) ∧
        (records.map recordKey).Nodup := by
  constructor
  · intro h
    unfold validateRecords at h
    obtain ⟨_, allowed, h⟩ := bind_ok h
    split at h
    · cases h
    rename_i few
    obtain ⟨valid, distinct, -⟩ := validateDistinct_iff.mp h
    exact ⟨validateCapacity_ok allowed, by omega, valid, distinct⟩
  · rintro ⟨allowed, few, valid, distinct⟩
    have capacity_ok : validateCapacity capacity = .ok () := if_pos allowed
    simp only [validateRecords, capacity_ok, bind, Except.bind, gt_iff_lt,
      Nat.not_lt.mpr few, ↓reduceIte]
    exact validateDistinct_iff.mpr ⟨valid, distinct, by simp⟩

section failures

theorem text_fails (value : List UInt8) (limit : Nat) :
    FailsOnlyWith (text value limit) .invalidRecord := .ite .error_self (.ok _)

theorem reportUrl_fails (value : String) (origins : List String) :
    FailsOnlyWith (reportUrl value origins) .invalidRecord := .ite .error_self (.ok _)

theorem I64.tryFrom_fails (value : Int) : FailsOnlyWith (I64.tryFrom value) .invalidRecord := by
  unfold I64.tryFrom
  split
  · exact .ok _
  · exact .error_self

theorem wirePath_fails (path : PathBuf) : FailsOnlyWith (wirePath path) .invalidRecord := by
  refine .bind ?_ fun unc => ?_
  · unfold encodeUncPath
    split
    · exact .ite .error_self (.ok _)
    · exact .ok _
  · split
    · exact .ok _
    · refine .ite .error_self ?_
      split <;> exact .ok _

theorem whenSome_fails {part : Option α} {check : α → Except HistoryDocumentError Unit}
    (h : ∀ value, FailsOnlyWith (check value) .invalidRecord) :
    FailsOnlyWith (whenSome part check) .invalidRecord := by
  cases part with
  | none => exact .ok _
  | some value => exact h value

theorem validateFile_fails (record : UploadJobRecord) :
    FailsOnlyWith (validateFile record) .invalidRecord :=
  .bind (wirePath_fails _) fun _ => .ite .error_self <|
    .bind (text_fails _ _) fun _ =>
    .bind (.ite .error_self (.ite .error_self (I64.tryFrom_fails _))) fun _ =>
    .bind (I64.tryFrom_fails _) fun _ => .ok _

/-- Every defect of a single record is reported as an invalid record. -/
theorem validateRecord_fails (record : UploadJobRecord) :
    FailsOnlyWith (validateRecord record) .invalidRecord := by
  refine .bind (validateFile_fails record) fun _ => .bind (whenSome_fails fun metadata => ?_)
    fun _ => .bind (.bind (whenSome_fails fun report => ?_) fun _ => whenSome_fails fun _ =>
      reportUrl_fails _ _) fun _ => .bind ?_ fun _ => .bind (.bind (whenSome_fails fun receipt =>
        whenSome_fails fun _ => text_fails _ _) fun _ => whenSome_fails fun receipt =>
          whenSome_fails fun _ => text_fails _ _) fun _ => ?_
  · exact .bind (text_fails _ _) fun _ => .ite .error_self (.ok _)
  · exact .bind (text_fails _ _) fun _ => .bind (text_fails _ _) fun _ => reportUrl_fails _ _
  · exact .bind (text_fails _ _) fun _ => .bind (text_fails _ _) fun _ =>
      .bind (text_fails _ _) fun _ => .bind (text_fails _ _) fun _ => .ok _
  · split
    · exact .ok _
    · exact .error_self

theorem validateDistinct_distinct {seen : List LogFileIdentity} {records : List UploadJobRecord}
    (distinct : (records.map recordKey).Nodup)
    (unseen : ∀ record ∈ records, recordKey record ∉ seen.map LogFileIdentity.key) :
    FailsOnlyWith (validateDistinct seen records) .invalidRecord := by
  induction records generalizing seen with
  | nil => exact .ok _
  | cons record rest ih =>
    rw [List.map_cons, List.nodup_cons] at distinct
    refine .bind (validateRecord_fails record) fun _ => ?_
    have fresh : ¬ seen.any (· == record.file) = true := by
      intro found
      obtain ⟨file, member, same⟩ := List.any_eq_true.mp found
      exact unseen record (by simp)
        (List.mem_map.mpr ⟨file, member, LogFileIdentity.beq_iff.mp same⟩)
    rw [if_neg fresh]
    refine ih distinct.2 fun other member => ?_
    rw [List.map_cons, List.mem_cons, not_or]
    exact ⟨fun same => distinct.1 (List.mem_map.mpr ⟨other, member, same⟩),
      unseen other (by simp [member])⟩

/-- Records with distinct files are never refused for a duplicate. -/
theorem validateRecords_distinct {records : List UploadJobRecord} {capacity : Nat}
    (distinct : (records.map recordKey).Nodup) :
    validateRecords records capacity ≠ .error .duplicateIdentity := by
  unfold validateRecords
  intro failed
  cases allowed : validateCapacity capacity with
  | error error =>
    have : error = .invalidCapacity := FailsOnlyWith.ite (.ok _) .error_self error allowed
    simp [allowed, this, bind, Except.bind] at failed
  | ok =>
    rw [allowed] at failed
    change (if records.length > capacity then _ else _) = _ at failed
    split at failed
    · cases failed
    · exact absurd (validateDistinct_distinct distinct (by simp) _ failed) (by simp)

theorem encodeHistory_distinct {json : JsonCodec} {records : List UploadJobRecord} {capacity : Nat}
    (distinct : (records.map recordKey).Nodup) :
    encodeHistory json records capacity ≠ .error .duplicateIdentity := by
  refine bind_ne_error (validateRecords_distinct distinct) fun _ => ?_
  split
  · nofun
  · dsimp only
    split <;> nofun

end failures

namespace JsonUploadHistoryStore
variable {json : JsonCodec} {files : FilePorts W} {store : JsonUploadHistoryStore}
  {updates : List UploadJobRecord} {world : W}

theorem distinct (store : JsonUploadHistoryStore) : (store.records.map recordKey).Nodup :=
  (validateRecords_iff.mp store.valid).2.2.2

theorem length_le (store : JsonUploadHistoryStore) : store.records.length ≤ store.capacity :=
  (validateRecords_iff.mp store.valid).2.1

theorem mergeAndSave_ok (saved : (store.mergeAndSave json files updates world).1 = .ok ()) :
    (updates.map recordKey).Nodup ∧
      (store.mergeAndSave json files updates world).2.1.records = store.merged updates ∧
      (store.mergeAndSave json files updates world).2.1.capacity = store.capacity := by
  unfold mergeAndSave at saved ⊢
  split at saved
  · cases saved
  rename_i bytes document
  have distinct := (validateRecords_iff.mp (mergeDocument_valid document).1).2.2.2
  split at saved
  · cases saved
  exact ⟨distinct, rfl, rfl⟩

/-- Updates of different files are never refused for a duplicate. -/
theorem mergeAndSave_distinct (store : JsonUploadHistoryStore) (json : JsonCodec)
    (files : FilePorts W) (world : W) (distinct : (updates.map recordKey).Nodup) :
    (store.mergeAndSave json files updates world).1 ≠ .error .duplicateIdentity := by
  have document : store.mergeDocument json updates ≠ .error .duplicateIdentity := by
    refine bind_ne_error (validateRecords_distinct distinct) fun _ => encodeHistory_distinct ?_
    exact (nodup_mergeKeyed store.distinct).sublist ((List.drop_sublist _ _).map _)
  unfold mergeAndSave
  split
  · rename_i error failed
    intro refused
    cases error with
    | duplicateIdentity => exact document failed
    | _ => cases refused
  · split <;> nofun

/-- The old records that a merge trims. -/
def trimmed (store : JsonUploadHistoryStore) (updates : List UploadJobRecord) :
    List UploadJobRecord :=
  store.records.take ((mergeKeyed recordKey store.records updates).length - store.capacity)

/-- Updates within the capacity push out old places only. -/
theorem keys_trimmed (once : (updates.map recordKey).Nodup)
    (few : updates.length ≤ store.capacity) :
    (store.trimmed updates).map recordKey =
      (oldest store.capacity (mergeKeyed recordKey store.records updates)).map recordKey := by
  have length := length_mergeKeyed_le recordKey store.records updates
  rw [trimmed, oldest, List.map_take, List.map_take, keys_mergeKeyed once,
    List.take_append_of_le_length]
  rw [List.length_map]
  omega

/-- An update survives its own save unless the record it replaces was among the trimmed. -/
theorem mem_merged (once : (updates.map recordKey).Nodup)
    (few : updates.length ≤ store.capacity) {update : UploadJobRecord} (member : update ∈ updates) :
    update ∈ store.merged updates ↔
      recordKey update ∉ (store.trimmed updates).map recordKey := by
  rw [merged, mem_newest (nodup_mergeKeyed store.distinct), keys_trimmed once few]
  exact and_iff_right ((mem_mergeKeyed store.distinct once).mpr (.inl member))

/-- A second merge changes nothing exactly when the first kept every update. -/
theorem merged_again {store' : JsonUploadHistoryStore} (once : (updates.map recordKey).Nodup)
    (few : updates.length ≤ store.capacity) (capacity : store'.capacity = store.capacity)
    (records : store'.records = store.merged updates) :
    store'.merged updates = store'.records ↔ ∀ update ∈ updates, update ∈ store'.records := by
  constructor
  · intro same update member
    by_contra lost
    have unknown : recordKey update ∉ store'.records.map recordKey := by
      intro known
      obtain ⟨other, kept, key⟩ := List.mem_map.mp known
      have all : ((mergeKeyed recordKey store.records updates).map recordKey).Nodup :=
        nodup_mergeKeyed store.distinct
      have inner : ∀ record ∈ store'.records,
          record ∈ mergeKeyed recordKey store.records updates := by
        intro record inside
        rw [records, merged, mem_newest all] at inside
        exact inside.1
      have eq := List.inj_on_of_nodup_map all (inner other kept)
        ((mem_mergeKeyed store.distinct once).mpr (.inl member)) key
      exact lost (eq ▸ kept)
    refine lost (same ▸ (mem_merged once (capacity ▸ few) member).mpr fun trimmed => unknown ?_)
    obtain ⟨other, taken, key⟩ := List.mem_map.mp trimmed
    exact List.mem_map.mpr ⟨other, List.mem_of_mem_take taken, key⟩
  · intro saved
    rw [merged, mergeKeyed_of_mem store'.distinct saved]
    exact newest_of_le store'.length_le

/-- A save keeps an update unless the record it replaces was one of the oldest that the save
trims, and saving again changes nothing exactly when every update was kept. -/
theorem mergeAndSave_keeps (few : updates.length ≤ store.capacity)
    (saved : (store.mergeAndSave json files updates world).1 = .ok ()) :
    let store' := (store.mergeAndSave json files updates world).2.1
    (∀ update ∈ updates, update ∈ store'.records ↔
      recordKey update ∉ (store.trimmed updates).map recordKey) ∧
    ∀ world', (store'.mergeAndSave json files updates world').1 = .ok () →
      ((store'.mergeAndSave json files updates world').2.1.records = store'.records ↔
        ∀ update ∈ updates, update ∈ store'.records) := by
  obtain ⟨once, records, capacity⟩ := mergeAndSave_ok saved
  refine ⟨fun update member => ?_, fun world' again => ?_⟩
  · rw [records]
    exact mem_merged once few member
  · rw [(mergeAndSave_ok again).2.1]
    exact merged_again once few capacity records

end JsonUploadHistoryStore

section samples
open Application JsonUploadHistoryStore

/-- The record of a log that no provider has taken. -/
def sampleRecord (size : UInt64) (detail : String) : UploadJobRecord where
  file := sampleLog size
  detectedAt := .unixEpoch
  encounterMetadata := none
  dpsReportResult := none
  wingmanUploadReceipt := none
  donbotUploadReceipt := none
  twitchDeliveryReceipt := none
  providers := fun _ => { state := .failed, attempts := 0, detail }

/-- A document short enough for any limit. -/
def sampleJson : JsonCodec where
  parse _ := none
  print _ := []

/-- A disk that takes every file. -/
def sampleFiles : FilePorts Unit where
  read _ _ _ := .ok none
  writeAtomic _ _ world := (.ok (), world)

def fullStore : JsonUploadHistoryStore where
  path := ⟨utf8 "C:\\addon\\upload-history.json"⟩
  capacity := 2
  records := [sampleRecord 1 "Queued", sampleRecord 2 "Queued"]
  recovery := none
  valid := by decide

theorem mergeAndSave_keeps_sample :
    let updates := [sampleRecord 2 "Completed", sampleRecord 3 "Queued"]
    let store := (fullStore.mergeAndSave sampleJson sampleFiles updates ()).2.1
    (∀ update ∈ updates, update ∈ store.records ↔
      recordKey update ∉ (fullStore.trimmed updates).map recordKey) ∧
    ∀ world, (store.mergeAndSave sampleJson sampleFiles updates world).1 = .ok () →
      ((store.mergeAndSave sampleJson sampleFiles updates world).2.1.records = store.records ↔
        ∀ update ∈ updates, update ∈ store.records) :=
  mergeAndSave_keeps (by decide) (by decide)

/-- A full store that saves its oldest record again with a new one trims what it replaced,
and the next save of the same two moves it to the end. -/
theorem mergeAndSave_drops_update :
    let updates := [sampleRecord 1 "Completed", sampleRecord 3 "Queued"]
    let saved := fullStore.mergeAndSave sampleJson sampleFiles updates ()
    let again := saved.2.1.mergeAndSave sampleJson sampleFiles updates ()
    updates.length ≤ fullStore.capacity ∧ saved.1 = .ok () ∧
      sampleRecord 1 "Completed" ∉ saved.2.1.records ∧
      again.1 = .ok () ∧ again.2.1.records ≠ saved.2.1.records := by
  intro updates saved again
  have kept : saved.2.1.records = [sampleRecord 2 "Queued", sampleRecord 3 "Queued"] := by
    decide
  refine ⟨by decide, by decide, ?_, by decide, by decide⟩
  rw [kept, List.mem_cons, List.mem_singleton, not_or]
  decide

end samples
end MannyUploader.Config
