import MannyUploader.Config.HistoryLaws
import MannyUploader.Domain.LogDiscovery

/-! Which files the document can hold. The scanner delivers canonical paths and the times of
the file system; the two wire codecs take all of them but the corners named here. -/
namespace MannyUploader.Domain
open Domain.Path

theorem parseDrive_length {path : List UInt8} {drive : UInt8} (h : parseDrive path = some drive) :
    2 ≤ path.length := by
  match path with
  | [] => cases h
  | [_] => cases h
  | _ :: _ :: _ => simp

/-- Behind the four bytes `\\?\` of a verbatim drive its two bytes follow. -/
theorem parsePrefix_verbatimDisk {path : List UInt8} {drive : UInt8}
    (h : parsePrefix path = some (.verbatimDisk drive)) : 2 ≤ (path.drop 4).length := by
  unfold parsePrefix at h
  split at h
  · split at h
    · split at h
      · cases h
      split at h
      · rename_i found
        unfold parseDriveExact at found
        split at found
        · exact parseDrive_length found
        · cases found
      · cases h
    · split at h
      · cases h
      · dsimp only at h
        split at h <;> cases h
  · cases drive' : parseDrive path <;> simp [drive'] at h

theorem leading_notMem_filterMap {verbatim : Bool} {parts : List (List UInt8)} {start : PathPrefix} :
    Component.leading start ∉ parts.filterMap (parseSingleComponent verbatim) := by
  intro member
  obtain ⟨part, -, parsed⟩ := List.mem_filterMap.mp member
  unfold parseSingleComponent at parsed
  split at parsed
  · split at parsed <;> cases parsed
  split at parsed
  · cases parsed
  split at parsed <;> cases parsed

/-- A prefix in front of the components is the parsed prefix of the path. -/
theorem parsePrefix_of_head {path : PathBuf} {start : PathPrefix}
    (h : path.components.head? = some (.leading start)) : parsePrefix path.bytes = some start := by
  have member : Component.leading start ∈ path.components := List.mem_of_mem_head? h
  cases parsed : parsePrefix path.bytes with
  | some found =>
    simp only [PathBuf.components, parsed, Option.map_some, Option.toList_some,
      List.cons_append, List.nil_append, List.head?_cons, Option.some.injEq,
      Component.leading.injEq] at h
    rw [h]
  | none =>
    simp only [PathBuf.components, parsed, Option.map_none, Option.toList_none, List.nil_append,
      List.mem_append] at member
    rcases member with lead | rest
    · split at lead
      · simp at lead
      · split at lead <;> simp at lead
    · exact absurd rest leading_notMem_filterMap

end MannyUploader.Domain

namespace MannyUploader.Config
open Domain

/-- A printable UTF-8 path of moderate length, and a time that the ticks since 1601 can name. -/
structure Storable (file : LogFileIdentity) : Prop where
  unicode : file.canonicalPath.toStr.isSome = true
  short : file.canonicalPath.bytes.length ≤ 4096
  printable : ∀ byte ∈ file.canonicalPath.bytes, 0x20 ≤ byte
  aligned : file.lastWriteTime.nanos % 100 = 0
  recent : -(windowsEpochTicks * 100) ≤ file.lastWriteTime.nanos

theorem I64.tryFrom_ok {value : Int} (inside : -2 ^ 63 ≤ value ∧ value < 2 ^ 63) :
    I64.tryFrom value = .ok ⟨value, inside⟩ := dif_pos inside

theorem encodeDetectedTime_ok (time : SystemTime) : ∃ wire, encodeDetectedTime time = .ok wire := by
  obtain ⟨nanos, low, high⟩ := time
  refine ⟨_, I64.tryFrom_ok ?_⟩
  simp only [SystemTime.minNanos, SystemTime.maxNanos, windowsEpochTicks] at low high ⊢
  rw [Int.tdiv_eq_ediv, Int.sign_eq_one_of_pos (by decide)]
  split <;> constructor <;> omega

theorem encodeFileTime_ok {time : SystemTime} (aligned : time.nanos % 100 = 0)
    (recent : -(windowsEpochTicks * 100) ≤ time.nanos) :
    ∃ wire, encodeFileTime time = .ok wire := by
  obtain ⟨nanos, low, high⟩ := time
  simp only [SystemTime.minNanos, SystemTime.maxNanos, windowsEpochTicks] at low high aligned recent
  have whole : (100 : Int) ∣ nanos := Int.dvd_of_emod_eq_zero aligned
  unfold encodeFileTime
  rw [if_neg (by simpa using Int.tmod_eq_zero_of_dvd whole)]
  dsimp only [windowsEpochSeconds, ticksPerSecond]
  rw [Int.tdiv_eq_ediv_of_dvd whole, if_neg (by omega)]
  exact ⟨_, I64.tryFrom_ok ⟨by omega, by omega⟩⟩

section paths
variable {path : PathBuf}

/-- A prefix that the document drops leaves something of the path. -/
theorem wirePath_ok (unicode : path.toStr.isSome = true) (named : path.bytes ≠ [])
    (short : path.bytes.length ≤ 4096) (printable : ∀ byte ∈ path.bytes, 0x20 ≤ byte) :
    ∃ text, wirePath path = .ok text ∧ text ≠ [] ∧ text.length ≤ 4096 ∧
      ∀ byte ∈ text, 0x20 ≤ byte := by
  have known : path.toStr.isNone = false := by simpa using unicode
  have behind : ∀ count, ∀ byte ∈ path.bytes.drop count, 0x20 ≤ byte :=
    fun count byte member => printable byte (List.mem_of_mem_drop member)
  have plain : encodeUncPath path = .ok none →
      ∃ text, encodePath path = .ok text ∧ text ≠ [] ∧ text.length ≤ 4096 ∧
        ∀ byte ∈ text, 0x20 ≤ byte := by
    intro _
    unfold encodePath
    rw [known, if_neg (by simp)]
    split
    · rename_i drive head
      have rest := parsePrefix_verbatimDisk (parsePrefix_of_head head)
      refine ⟨_, rfl, fun none => ?_, ?_, behind 4⟩
      · rw [none, List.length_nil] at rest; omega
      · rw [List.length_drop]; omega
    · exact ⟨_, rfl, named, short, printable⟩
  unfold wirePath
  cases unc : encodeUncPath path with
  | ok found =>
    cases found with
    | none => simpa [bind, Except.bind] using plain unc
    | some text =>
      refine ⟨text, rfl, ?_⟩
      unfold encodeUncPath at unc
      split at unc
      · rw [known, if_neg (by simp; omega)] at unc
        cases unc
        refine ⟨by simp, ?_, fun byte member => ?_⟩
        · simp only [List.length_append, List.length_cons, List.length_nil, List.length_drop]
          omega
        · rcases List.mem_append.mp member with first | rest
          · simp only [List.mem_cons, List.not_mem_nil, or_false, or_self] at first
            rw [first]; decide
          · exact behind 8 byte rest
      · cases unc
  | error error =>
    unfold encodeUncPath at unc
    split at unc
    · rw [known, if_neg (by simp; omega)] at unc
      cases unc
    · cases unc

end paths

theorem text_ok {value : List UInt8} {limit : Nat} (short : value.length ≤ limit)
    (printable : ∀ byte ∈ value, 0x20 ≤ byte) : text value limit = .ok () := by
  unfold text
  rw [if_neg]
  simp only [gt_iff_lt, Bool.or_eq_true, decide_eq_true_eq, List.any_eq_true, Bool.and_eq_true,
    not_or, Nat.not_lt, not_exists, not_and]
  refine ⟨short, fun byte member low => ?_⟩
  have := printable byte member
  rw [UInt8.lt_iff_toNat_lt] at low
  rw [UInt8.le_iff_toNat_le] at this
  omega

/-- Of a storable candidate the document refuses the empty file only. -/
theorem validateFile_iff {record : UploadJobRecord} (storable : Storable record.file)
    (candidate : LogDiscovery.validate record.file = .ok ()) :
    validateFile record = .ok () ↔ record.file.size ≠ 0 := by
  have named : record.file.canonicalPath.bytes ≠ [] := by
    unfold LogDiscovery.validate at candidate
    split at candidate
    · cases candidate
    · rintro none; simp [none] at *
  obtain ⟨path, wire, nonempty, short, printable⟩ :=
    wirePath_ok storable.unicode named storable.short storable.printable
  obtain ⟨ticks, written⟩ := encodeFileTime_ok storable.aligned storable.recent
  obtain ⟨milliseconds, detected⟩ := encodeDetectedTime_ok record.detectedAt
  have filled : path.isEmpty = false := by simpa using nonempty
  have size : (record.file.size == 0) = decide (record.file.size = 0) := rfl
  simp only [validateFile, wire, written, detected, text_ok short printable, filled, bind,
    Except.bind, Bool.false_or, beq_iff_eq]
  split
  · simp [*]
  · simp [*]

end MannyUploader.Config
