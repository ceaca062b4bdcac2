import MannyUploader.Config.HistoryJson
import MannyUploader.Foundation.Checked
import MannyUploader.Foundation.KeyedMerge

/-! The store of the upload history. Its records always pass `validate_records` for its
capacity, which the structure keeps as a field. -/
namespace MannyUploader.Config
open Domain Foundation

inductive FileError
  | invalidPath | invalidLimit | tooLarge | allocationFailed | readFailed | changedDuringRead
  | directoryCreateFailed | writeFailed | flushFailed | replaceFailed | deleteFailed
deriving DecidableEq, Repr

inductive HistoryStoreError
  | invalidConfiguration | invalidRecord | tooLarge | duplicateIdentity | serializationFailed
  | file (error : FileError)
deriving DecidableEq, Repr

inductive HistoryRecovery
  | invalidDocument
  | file (error : FileError)
deriving DecidableEq, Repr

def mapError : HistoryDocumentError → HistoryStoreError
  | .invalidCapacity => .invalidConfiguration
  | .tooLarge => .tooLarge
  | .duplicateIdentity => .duplicateIdentity
  | .serializationFailed => .serializationFailed
  | .invalidJson | .invalidSchema | .invalidRecord => .invalidRecord

/-- The methods of `FileStore` that the history uses. -/
structure FilePorts (W : Type) where
  read : PathBuf → Nat → W → Except FileError (Option (List UInt8))
  writeAtomic : PathBuf → List UInt8 → W → Except FileError Unit × W

/-- `path.split(is_separator).last()`. -/
def lastSegment (bytes : List UInt8) : List UInt8 :=
  (bytes.reverse.takeWhile (!Path.isSeparator false ·)).reverse

def validateStoragePath (path : PathBuf) : Except FileError Unit :=
  let last := lastSegment path.bytes
  if path.fileName.isNone || last.isEmpty || last == [Path.dot] || last == [Path.dot, Path.dot] ||
      path.bytes.contains 0 then
    .error .invalidPath
  else .ok ()

structure JsonUploadHistoryStore where
  path : PathBuf
  capacity : Nat
  records : List UploadJobRecord
  recovery : Option HistoryRecovery
  valid : validateRecords records capacity = .ok ()

theorem validateCapacity_ok {capacity : Nat} (h : validateCapacity capacity = .ok ()) :
    1 ≤ capacity ∧ capacity ≤ maxHistoryRecords := by
  unfold validateCapacity at h
  split at h
  · assumption
  · cases h

theorem validateRecords_nil {capacity : Nat} (h : validateCapacity capacity = .ok ()) :
    validateRecords [] capacity = .ok () := by
  simp only [validateRecords, h, bind, Except.bind, List.length_nil, gt_iff_lt, Nat.not_lt_zero,
    ↓reduceIte]
  rfl

theorem decodeHistory_valid {json : JsonCodec} {document : List UInt8} {capacity : Nat}
    {records : List UploadJobRecord} (h : decodeHistory json document capacity = .ok records) :
    validateRecords records capacity = .ok () := by
  unfold decodeHistory at h
  obtain ⟨_, -, h⟩ := bind_ok h
  split at h
  · cases h
  obtain ⟨wire, -, h⟩ := bind_ok h
  split at h
  · cases h
  split at h
  · cases h
  obtain ⟨decoded, -, h⟩ := bind_ok h
  obtain ⟨_, valid, h⟩ := bind_ok h
  cases h
  exact valid

theorem encodeHistory_valid {json : JsonCodec} {records : List UploadJobRecord} {capacity : Nat}
    {document : List UInt8} (h : encodeHistory json records capacity = .ok document) :
    validateRecords records capacity = .ok () := by
  unfold encodeHistory at h
  obtain ⟨_, valid, -⟩ := bind_ok h
  exact valid

namespace JsonUploadHistoryStore

/-- The records and the recovery note that the file's content leads to. -/
def load (json : JsonCodec) (capacity : Nat) (allowed : validateCapacity capacity = .ok ())
    (path : PathBuf) (content : Except FileError (Option (List UInt8))) :
    JsonUploadHistoryStore :=
  match content with
  | .ok none => ⟨path, capacity, [], none, validateRecords_nil allowed⟩
  | .ok (some document) =>
    match decoded : decodeHistory json document capacity with
    | .ok records => ⟨path, capacity, records, none, decodeHistory_valid decoded⟩
    | .error _ => ⟨path, capacity, [], some .invalidDocument, validateRecords_nil allowed⟩
  | .error error => ⟨path, capacity, [], some (.file error), validateRecords_nil allowed⟩

def new (json : JsonCodec) (files : FilePorts W) (path : PathBuf) (capacity : Nat) (world : W) :
    Except HistoryStoreError JsonUploadHistoryStore :=
  match validateStoragePath path with
  | .error _ => .error .invalidConfiguration
  | .ok () =>
    match allowed : validateCapacity capacity with
    | .error error => .error (mapError error)
    | .ok () => .ok (load json capacity allowed path (files.read path maxHistoryBytes world))

/-- The key by which a merge finds the record of a file. -/
def recordKey (record : UploadJobRecord) : List Path.Component × UInt64 × SystemTime :=
  record.file.key

/-- Replace by identity, append what is new, then drop the oldest beyond the capacity. -/
def merged (store : JsonUploadHistoryStore) (updates : List UploadJobRecord) :
    List UploadJobRecord :=
  newest store.capacity (mergeKeyed recordKey store.records updates)

/-- The document of a merge, once everything in it is valid. -/
def mergeDocument (json : JsonCodec) (store : JsonUploadHistoryStore)
    (updates : List UploadJobRecord) : Except HistoryDocumentError (List UInt8) := do
  validateRecords updates maxHistoryRecords
  encodeHistory json (store.merged updates) store.capacity

theorem mergeDocument_valid {json : JsonCodec} {store : JsonUploadHistoryStore}
    {updates : List UploadJobRecord} {document : List UInt8}
    (h : store.mergeDocument json updates = .ok document) :
    validateRecords updates maxHistoryRecords = .ok () ∧
      validateRecords (store.merged updates) store.capacity = .ok () := by
  unfold mergeDocument at h
  obtain ⟨_, valid, h⟩ := bind_ok h
  exact ⟨valid, encodeHistory_valid h⟩

/-- `merge_and_save` commits memory only after the write. -/
def mergeAndSave (json : JsonCodec) (files : FilePorts W) (store : JsonUploadHistoryStore)
    (updates : List UploadJobRecord) (world : W) :
    Except HistoryStoreError Unit × JsonUploadHistoryStore × W :=
  match document : store.mergeDocument json updates with
  | .error error => (.error (mapError error), store, world)
  | .ok bytes =>
    match files.writeAtomic store.path bytes world with
    | (.error error, world) => (.error (.file error), store, world)
    | (.ok (), world) =>
      (.ok (), { store with
        records := store.merged updates
        recovery := none
        valid := (mergeDocument_valid document).2 }, world)

end JsonUploadHistoryStore
end MannyUploader.Config
