import MannyUploader.Config.HistoryCodec

/-! A save as a transaction on memory and file: either both move on, and agree, or neither. -/
namespace MannyUploader.Config
open Domain Foundation

/-- What `write_atomic` promises of the file: it is replaced as a whole, or left as it was. -/
structure AtomicWrites (files : FilePorts W) (content : PathBuf → W → Option (List UInt8)) :
    Prop where
  replaced : ∀ path bytes world, (files.writeAtomic path bytes world).1 = .ok () →
    content path (files.writeAtomic path bytes world).2 = some bytes
  kept : ∀ path bytes world error, (files.writeAtomic path bytes world).1 = .error error →
    content path (files.writeAtomic path bytes world).2 = content path world

/-- A file that reads back under its identity gives an equal record. -/
theorem reloaded_beq {record : UploadJobRecord} (reloads : Reloads record.file.canonicalPath) :
    (reloaded record == normalized record) = true := by
  refine UploadJobRecord.beq_iff.mpr ⟨?_, rfl⟩
  change (PathBuf.identity ⟨storedPath record.file.canonicalPath⟩, _, _) = _
  rw [reloads.2]
  rfl

namespace JsonUploadHistoryStore
variable {json : JsonCodec} {files : FilePorts W} {content : PathBuf → W → Option (List UInt8)}
  {store : JsonUploadHistoryStore} {updates : List UploadJobRecord} {world : W}

theorem mergeAndSave_error (atomic : AtomicWrites files content) {error : HistoryStoreError}
    (refused : (store.mergeAndSave json files updates world).1 = .error error) :
    (store.mergeAndSave json files updates world).2.1 = store ∧
      content store.path (store.mergeAndSave json files updates world).2.2 =
        content store.path world := by
  unfold mergeAndSave at refused ⊢
  split
  · exact ⟨rfl, rfl⟩
  next bytes document =>
    split
    next failure after written =>
      have kept := atomic.kept store.path bytes world failure (by rw [written])
      rw [written] at kept
      exact ⟨rfl, kept⟩
    next after written =>
      split at refused
      next failed => rw [failed] at document; cases document
      next bytes' document' =>
        rw [document] at document'
        cases document'
        rw [written] at refused
        cases refused

theorem mergeAndSave_written (atomic : AtomicWrites files content)
    (saved : (store.mergeAndSave json files updates world).1 = .ok ()) :
    ∃ document, encodeHistory json (store.merged updates) store.capacity = .ok document ∧
      content store.path (store.mergeAndSave json files updates world).2.2 = some document := by
  unfold mergeAndSave at saved ⊢
  split
  next failed =>
    split at saved
    · cases saved
    next document => rw [failed] at document; cases document
  next bytes document =>
    obtain ⟨_, -, encoded⟩ := bind_ok document
    refine ⟨bytes, encoded, ?_⟩
    split
    next failure after written =>
      split at saved
      · cases saved
      next bytes' document' =>
        rw [document] at document'
        cases document'
        rw [written] at saved
        cases saved
    next after written =>
      have replaced := atomic.replaced store.path bytes world (by rw [written])
      rwa [written] at replaced

/-- A save that fails changes neither the store nor its file. One that succeeds replaces in
place, appends, trims, and writes a file that reads back as the records. -/
theorem mergeAndSave_transactional (atomic : AtomicWrites files content) :
    let result := store.mergeAndSave json files updates world
    (∀ error, result.1 = .error error →
      result.2.1 = store ∧ content store.path result.2.2 = content store.path world) ∧
    (result.1 = .ok () →
      result.2.1.records = newest store.capacity (store.records.map (updated recordKey updates) ++
        updates.filter (recordKey · ∉ store.records.map recordKey)) ∧
      (result.2.1.records.map recordKey).Nodup ∧
      ∃ document, content store.path result.2.2 = some document ∧
        (json.ReadsBack result.2.1.records →
          (∀ record ∈ result.2.1.records, Rereads record) →
          decodeHistory json document store.capacity = .ok (result.2.1.records.map reloaded) ∧
          ∀ record ∈ result.2.1.records, (reloaded record == normalized record) = true)) := by
  intro result
  refine ⟨fun error refused => mergeAndSave_error atomic refused, fun saved => ?_⟩
  obtain ⟨once, records, capacity⟩ := mergeAndSave_ok saved
  obtain ⟨document, encoded, written⟩ := mergeAndSave_written atomic saved
  refine ⟨?_, result.2.1.distinct, document, written, fun reads rereads => ⟨?_, fun record member => ?_⟩⟩
  · rw [records, merged, mergeKeyed_eq store.distinct once]
    congr 2
    exact List.filter_congr fun _ _ => decide_eq_decide.mpr Iff.rfl
  · rw [records] at reads rereads ⊢
    exact decodeHistory_encode reads rereads encoded
  · exact reloaded_beq (rereads record member).reloads

end JsonUploadHistoryStore

section samples
open Application

/-- A disk that holds one file. -/
def singleFile : FilePorts (Option (List UInt8)) where
  read _ _ world := .ok world
  writeAtomic _ bytes _ := (.ok (), some bytes)

theorem singleFile_atomic : AtomicWrites singleFile fun _ world => world where
  replaced _ _ _ _ := rfl
  kept _ _ _ _ failed := by cases failed

def emptyStore : JsonUploadHistoryStore where
  path := ⟨utf8 "C:\\addon\\upload-history.json"⟩
  capacity := 2
  records := []
  recovery := none
  valid := by decide

/-- A log of this size, with all providers in a state. -/
def sizedRecord (size : UInt64) (state : ProviderState) (detail : String) : UploadJobRecord :=
  { statusRecord state detail with file := sampleLog size }

def mergedWire : Wire.History where
  schemaVersion := 1
  logs := (sampleWire "a.zevtc" 1 "Again").logs.map ({ · with size := 2 }) ++
    (sampleWire "a.zevtc" 6 "Third").logs.map ({ · with size := 3 })

theorem sizedRecord_rereads (size : UInt64) (state : ProviderState) (detail : String) :
    Rereads (sizedRecord size state detail) := by
  obtain ⟨path, -, -, -⟩ := sampleLog_wire
  have same : storedPath (sampleLog 1).canonicalPath = utf8 "C:\\logs\\a.zevtc" :=
    storedPath_of_ok path
  refine ⟨?_, unixEpoch_redatable⟩
  change Reloads (sampleLog 1).canonicalPath
  rw [Reloads, same]
  exact ⟨path, rfl⟩

theorem mergedWire_reads : (codecOf [mergedWire]).ReadsBack
    [sizedRecord 2 .waiting "Again", sizedRecord 3 .failed "Third"] := by
  obtain ⟨path, ticks, milliseconds, -⟩ := sampleLog_wire
  intro logs written
  simp only [List.mapM_cons, List.mapM_nil, Wire.Record.encode, sizedRecord, statusRecord,
    sampleRecord, show ∀ size, wirePath (sampleLog size).canonicalPath = _ from fun _ => path,
    show ∀ size, encodeFileTime (sampleLog size).lastWriteTime = _ from fun _ => ticks,
    milliseconds, bind, Except.bind, pure, Except.pure] at written
  cases written
  exact codecOf_first

/-- The second log is queued again and a third is new, so the first is trimmed. The file reads
back with the second as interrupted. -/
theorem mergeAndSave_transactional_sample :
    ∃ store document,
      fullStore.mergeAndSave (codecOf [mergedWire]) singleFile
          [sizedRecord 3 .failed "Third", sizedRecord 2 .waiting "Again"] none =
        (.ok (), store, some document) ∧
      store.records = [sizedRecord 2 .waiting "Again", sizedRecord 3 .failed "Third"] ∧
      decodeHistory (codecOf [mergedWire]) document 2 =
        .ok ([sizedRecord 2 .waiting "Again", sizedRecord 3 .failed "Third"].map reloaded) := by
  obtain ⟨out, result⟩ : ∃ out, fullStore.mergeAndSave (codecOf [mergedWire]) singleFile
      [sizedRecord 3 .failed "Third", sizedRecord 2 .waiting "Again"] none = out := ⟨_, rfl⟩
  obtain ⟨saved, kept⟩ : out.1 = .ok () ∧
      out.2.1.records = [sizedRecord 2 .waiting "Again", sizedRecord 3 .failed "Third"] := by
    rw [← result]
    decide +kernel
  have facts := (@JsonUploadHistoryStore.mergeAndSave_transactional _ (codecOf [mergedWire])
    singleFile _ fullStore [sizedRecord 3 .failed "Third", sizedRecord 2 .waiting "Again"] none
    singleFile_atomic).2
  rw [result] at facts
  obtain ⟨-, -, document, written, reads⟩ := facts saved
  rw [kept] at reads
  refine ⟨out.2.1, document, result.trans (Prod.ext saved (Prod.ext rfl written)), kept, ?_⟩
  refine (reads mergedWire_reads fun record member => ?_).1
  rcases List.mem_pair.mp member with rfl | rfl
  · exact sizedRecord_rereads 2 .waiting "Again"
  · exact sizedRecord_rereads 3 .failed "Third"

/-- A verbatim path in which a slash is part of a file name. -/
def slashedRecord : UploadJobRecord :=
  { statusRecord .failed "Queued" with
    file := { sampleLog 1 with canonicalPath := ⟨utf8 "\\\\?\\C:\\logs\\a/b.zevtc"⟩ } }

def slashedCodec : JsonCodec := codecOf [sampleWire "a/b.zevtc" 6 "Queued"]

theorem slashedRecord_reads : slashedCodec.ReadsBack [slashedRecord] := by
  have path : wirePath slashedRecord.file.canonicalPath = .ok (utf8 ("C:\\logs\\" ++ "a/b.zevtc")) := by
    decide
  have ticks : encodeFileTime slashedRecord.file.lastWriteTime =
      .ok ⟨116_444_736_000_000_000, epochTicks_inside⟩ := by decide
  have milliseconds : encodeDetectedTime slashedRecord.detectedAt = .ok ⟨0, zero_inside⟩ := by
    decide
  intro logs written
  simp only [List.mapM_cons, List.mapM_nil, Wire.Record.encode, path, ticks, milliseconds, bind,
    Except.bind, pure, Except.pure] at written
  cases written
  exact codecOf_first

theorem toOption_ok {result : Except ε α} {value : α} (h : result.toOption = some value) :
    result = .ok value := by
  cases result with
  | error error => cases h
  | ok found => cases h; rfl

/-- A save that succeeds may leave a file that reads back otherwise. The document drops the
verbatim prefix, and then the slash separates two names; and a detection may lie too far back to
be read. -/
theorem saved_file_reread :
    (let result := emptyStore.mergeAndSave slashedCodec singleFile [slashedRecord] none
    slashedCodec.ReadsBack result.2.1.records ∧ result.1 = .ok () ∧
      ∃ document found, result.2.2 = some document ∧
        decodeHistory slashedCodec document 2 = .ok found ∧
        (found == [normalized slashedRecord]) = false) ∧
    let result := emptyStore.mergeAndSave (codecOf [earliestWire]) singleFile [earliestRecord] none
    (codecOf [earliestWire]).ReadsBack result.2.1.records ∧ result.1 = .ok () ∧
      ∃ document, result.2.2 = some document ∧
        (decodeHistory (codecOf [earliestWire]) document 2).isOk = false := by
  constructor
  · intro result
    have saved : result.1 = .ok () ∧ result.2.1.records = [slashedRecord] ∧
        result.2.2 = some (historyText (sampleWire "a/b.zevtc" 6 "Queued") ++ [10]) := by
      decide +kernel
    have reread : (decodeHistory slashedCodec
        (historyText (sampleWire "a/b.zevtc" 6 "Queued") ++ [10]) 2).toOption.map
          (· == [normalized slashedRecord]) = some false := by
      decide +kernel
    obtain ⟨found, some, different⟩ := Option.map_eq_some_iff.mp reread
    refine ⟨?_, saved.1, _, found, saved.2.2, toOption_ok some, different⟩
    rw [saved.2.1]
    exact slashedRecord_reads
  · intro result
    have saved : result.1 = .ok () ∧ result.2.1.records = [earliestRecord] ∧
        result.2.2 = some (historyText earliestWire ++ [10]) := by
      decide +kernel
    refine ⟨?_, saved.1, _, saved.2.2, earliest_unread.2⟩
    rw [saved.2.1]
    exact earliest_reads

end samples
end MannyUploader.Config
