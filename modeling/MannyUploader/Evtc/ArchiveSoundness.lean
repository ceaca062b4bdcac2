import MannyUploader.Evtc.ArchiveSpecs

/-! What an extraction returns was in the archive, and no archive makes it panic. -/
namespace MannyUploader.Evtc.ZevtcArchive
open Application Domain Foundation

/-! No step leaves its range. -/

section panics
variable {content bytes rest : List UInt8} {limits : ArchiveLimits} {stop : Nat → Bool}

@[simp] theorem checkStop_quiet (check : Nat) : NeverPanics (checkStop stop check) := by
  simp [checkStop]

@[simp] theorem u16At_quiet (offset : Nat) : NeverPanics (u16At bytes offset) := by
  simp [u16At, field]

@[simp] theorem u32At_quiet (offset : Nat) : NeverPanics (u32At bytes offset) := by
  simp [u32At, field]

@[simp] theorem u64At_quiet (offset : Nat) : NeverPanics (u64At bytes offset) := by
  simp [u64At, field]

@[simp] theorem field_quiet (offset width : Nat) : NeverPanics (field bytes offset width) := by
  simp [field]

@[simp] theorem readAt_quiet (offset width : Nat) : NeverPanics (readAt content offset width) := by
  simp [readAt]

@[simp] theorem readBytes_quiet (offset size : Nat) :
    NeverPanics (readBytes content offset size) := by
  simp [readBytes]

theorem isEnd_quiet {offset : Nat} (inside : offset + 22 ≤ bytes.length)
    (small : bytes.length < 2 ^ 63) : NeverPanics (isEnd bytes offset) := by
  simp only [isEnd, NeverPanics.bind_iff, NeverPanics.sum, NeverPanics.part, NeverPanics.ite_iff,
    NeverPanics.ok, List.sum_cons, List.sum_nil]
  refine ⟨by omega, fun signatureEnd total => ?_⟩
  obtain ⟨-, rfl⟩ := guarded_ok.mp total
  simp only [List.sum_cons, List.sum_nil]
  refine ⟨by omega, fun signature _ => ⟨fun _ => trivial, fun _ => ⟨by omega, ?_⟩⟩⟩
  intro length _
  split
  · exact .ok _
  next comment _ =>
    have short := comment.toNat_lt
    simp only [NeverPanics.bind_iff, NeverPanics.sum, NeverPanics.ok, implies_true, and_true,
      List.sum_cons, List.sum_nil]
    omega

theorem findEnd_quiet {offset : Nat} (inside : offset + 22 ≤ bytes.length)
    (small : bytes.length < 2 ^ 63) : NeverPanics (findEnd bytes offset) := by
  induction offset with
  | zero => simp [findEnd, isEnd_quiet inside small]
  | succ offset ih => simp [findEnd, isEnd_quiet inside small, ih (by omega)]

theorem locate_quiet (endOffset : Nat) (short : Directory) :
    NeverPanics (locate content endOffset short) := by
  unfold locate
  simp only [NeverPanics.bind_iff]
  constructor
  · simp [zip64Locator]
  · intro locator located
    split
    next locator =>
      have behind : 20 ≤ endOffset := by
        unfold zip64Locator at located
        split at located
        · assumption
        · cases located
      simp [extendedDirectory, behind]
    · simp

theorem directory_quiet {size : Nat} (small : size < 2 ^ 64) :
    NeverPanics (directory content size limits) := by
  unfold directory
  simp only [NeverPanics.bind_iff, NeverPanics.failIf, true_and, NeverPanics.difference,
    readBytes_quiet, NeverPanics.part, u16At_quiet, u32At_quiet, NeverPanics.sum,
    NeverPanics.sumOr, NeverPanics.productOr, NeverPanics.ok, implies_true, and_true,
    List.sum_cons, List.sum_nil]
  intro _ checked
  have large := failIf_ok.mp checked
  refine ⟨Nat.min_le_left _ _, fun tailOffset before tail read => ?_⟩
  obtain ⟨-, rfl⟩ := guarded_ok.mp before
  obtain ⟨inside, rfl⟩ := readBytes_ok read
  have length := length_slice inside
  refine ⟨by omega, fun last behind => ?_⟩
  obtain ⟨-, rfl⟩ := guarded_ok.mp behind
  refine ⟨findEnd_quiet (by omega) (by omega), fun found search => ?_⟩
  have within := (findEnd_ok search).1
  refine ⟨by omega, fun _ _ _ _ _ _ _ _ _ _ _ _ => ⟨by omega, ?_⟩⟩
  intro endOffset _ offset _ directorySize _
  exact locate_quiet _ _

theorem extraField_quiet : NeverPanics (extraField rest) := by
  simp only [extraField, NeverPanics.bind_iff, u16At_quiet, true_and, NeverPanics.sum,
    NeverPanics.partOr, NeverPanics.part, NeverPanics.ok, implies_true, and_true, List.sum_cons,
    List.sum_nil]
  intro tag _ length _
  have short := length.toNat_lt
  refine ⟨by omega, fun stop _ value found => ?_⟩
  exact ⟨(guarded_ok.mp found).1.2, Nat.le_refl _⟩

theorem zip64Extra_quiet (found : Option (List UInt8)) : NeverPanics (zip64Extra found rest) := by
  induction length : rest.length using Nat.strong_induction_on generalizing found rest with
  | _ length ih =>
    by_cases none : rest = []
    · simp [none]
    · simp only [zip64Extra_next found none, NeverPanics.bind_iff, extraField_quiet, true_and]
      rintro ⟨tag, value, behind⟩ next
      have shorter := extraField_lt next
      have quiet (found : Option (List UInt8)) : NeverPanics (zip64Extra found behind) :=
        ih behind.length (by omega) found rfl
      simp [quiet]

@[simp] theorem extended_quiet (value : UInt32) (extra : List UInt8) :
    NeverPanics (extended value extra) := by
  simp only [extended, NeverPanics.ite_iff, NeverPanics.ok, NeverPanics.bind_iff, u64At_quiet,
    NeverPanics.part, implies_true, and_true, true_and]
  intro _ long read
  obtain ⟨_, found, _⟩ := bind_ok read
  exact ⟨(guarded_ok.mp found).1.2, Nat.le_refl _⟩

theorem central_quiet : NeverPanics (central limits bytes) := by
  simp only [central, central.onOtherDisk, NeverPanics.bind_iff, NeverPanics.ite_iff, field_quiet,
    u16At_quiet, u32At_quiet, NeverPanics.failIf, NeverPanics.sum, NeverPanics.partOr,
    NeverPanics.ok, extended_quiet, zip64Extra_quiet, implies_true, and_true, true_and,
    List.sum_cons, List.sum_nil]
  intro _ _ _ _ name _ extra _ comment _
  have shortName := name.toNat_lt
  have shortExtra := extra.toNat_lt
  have shortComment := comment.toNat_lt
  have named : 46 + (name.toNat + 0) < 2 ^ 64 := by omega
  have extended : 46 + (name.toNat + (extra.toNat + 0)) < 2 ^ 64 := by omega
  have whole : 46 + (name.toNat + (extra.toNat + (comment.toNat + 0))) < 2 ^ 64 := by omega
  simp only [named, extended, whole, implies_true, and_true]

@[simp] theorem entry_quiet (header : Central) : NeverPanics (entry bytes header) := by
  simp [entry]

theorem consider_quiet {header : Central} {s : Selection} (few : s.files + 1 < 2 ^ 31) :
    NeverPanics (consider bytes header s) := by
  simp only [consider, NeverPanics.ite_iff, NeverPanics.bind_iff, NeverPanics.ok, entry_quiet,
    NeverPanics.failIf, NeverPanics.count32, few, implies_true, and_true]

theorem considerAll_quiet {check count : Nat} {selection : Selection}
    (few : selection.files + count < 2 ^ 31) :
    NeverPanics (considerAll stop limits check count bytes selection) := by
  induction count generalizing check bytes selection with
  | zero => simp [considerAll]
  | succ count ih =>
    simp only [considerAll, NeverPanics.bind_iff, checkStop_quiet, central_quiet, true_and,
      NeverPanics.partOr]
    intro _ _ header _
    refine ⟨consider_quiet (by omega), fun selection' considered behind _ => ?_⟩
    have counted := (consider_ok considered).files
    apply ih
    split at counted <;> omega

theorem selectEntry_quiet {check count : Nat} (few : count < 2 ^ 31) :
    NeverPanics (selectEntry stop limits check count bytes) := by
  simp only [selectEntry, NeverPanics.bind_iff]
  refine ⟨considerAll_quiet (by simpa using few), fun selection _ => ?_⟩
  split
  · exact .ok _
  · exact .failed _

theorem validateLocal_quiet (chosen : Entry) (directoryStart : Nat) :
    NeverPanics (validateLocal content chosen directoryStart) := by
  simp only [validateLocal, NeverPanics.bind_iff, readAt_quiet, u16At_quiet, u32At_quiet,
    NeverPanics.failIf, NeverPanics.sumOr, NeverPanics.sum, readBytes_quiet, NeverPanics.part,
    extended_quiet, zip64Extra_quiet, NeverPanics.ok, implies_true, and_true, true_and,
    List.sum_cons, List.sum_nil]
  intro _ _ _ _ _ _ _ _ name _ extra _ _ _ variableStart _
  have shortName := name.toNat_lt
  have shortExtra := extra.toNat_lt
  refine ⟨by omega, fun length total _ _ _ _ names read => ?_⟩
  obtain ⟨-, rfl⟩ := guarded_ok.mp total
  obtain ⟨inside, rfl⟩ := readBytes_ok read
  have whole := length_slice inside
  simp only [List.sum_cons, List.sum_nil] at whole
  simp only [List.sum_cons, List.sum_nil, whole]
  exact ⟨⟨Nat.zero_le _, by omega⟩, fun _ _ _ _ => ⟨by omega, Nat.le_refl _⟩⟩

@[simp] theorem describes_quiet (chosen : Entry) (width start : Nat) :
    NeverPanics (describes chosen width bytes start) := by
  unfold describes
  split <;> simp

@[simp] theorem validateDescriptor_quiet (offset bound : Nat) (chosen : Entry) :
    NeverPanics (validateDescriptor content offset bound chosen) := by
  simp [validateDescriptor]

theorem readPayload_quiet {reads : Reads} {expected check index : Nat} {output : List UInt8}
    (small : expected < 2 ^ 63) (within : output.length ≤ expected) :
    NeverPanics (readPayload stop reads expected check index output) := by
  fun_induction readPayload stop reads expected check index output with
  | case4 index output _ bytes read some large =>
    -- A buffer of output and one chunk are far below the limit of the machine.
    have short := reads.within index bytes read
    unfold chunk at short
    omega
  | case6 index output _ bytes read some _ fits ih =>
    apply ih
    rw [List.length_append]
    omega
  | case1 | case2 | case3 | case5 => simp

theorem unpack_quiet {codecs : Codecs} {check : Nat} {chosen : Entry} {data : List UInt8}
    (small : chosen.uncompressed < 2 ^ 63) :
    NeverPanics (unpack codecs stop check chosen data) := by
  have quiet (reads : Reads) :
      NeverPanics (readPayload stop reads chosen.uncompressed check 0 []) :=
    readPayload_quiet small (Nat.zero_le _)
  simp [unpack, quiet]

theorem extractFrom_quiet (codecs : Codecs) (content : List UInt8) (size : UInt64)
    (stop : Nat → Bool) (few : limits.entries.toNat < 2 ^ 31) :
    NeverPanics (extractFrom codecs limits content size stop) := by
  simp only [extractFrom, extractFrom.descriptorOf, NeverPanics.bind_iff, NeverPanics.ite_iff,
    checkStop_quiet, NeverPanics.failIf, readBytes_quiet, validateLocal_quiet, NeverPanics.sumOr,
    validateDescriptor_quiet, NeverPanics.reserveOr, NeverPanics.ok, directory_quiet size.toNat_lt,
    implies_true, and_true, true_and]
  intro _ _ _ _ _ whole found located _ _ bytes _
  rw [← not_not.mp (failIf_ok.mp whole)] at located
  have counted := (directory_ok located).count
  refine ⟨selectEntry_quiet (by omega), ?_⟩
  intro _ _ _ _ _ _ _ _ _ _ _ _ _ _ _ reserved
  exact unpack_quiet (guarded_ok.mp reserved).1

end panics

/-- What an extracted payload is: the file of the directory that was chosen, whose data stands in
front of the directory, with its size and its checksum, within all limits. -/
structure Extracted (codecs : Codecs) (limits : ArchiveLimits) (content payload : List UInt8)
    (found : Directory) (records : List (List UInt8 × Central)) (chosen : List UInt8 × Central)
    (dataStart : Nat) : Prop where
  archive : content.length ≤ limits.archiveBytes.toNat
  located : Located content limits found
  inside : found.offset + found.size ≤ content.length
  listed : Lists limits (slice content found.offset found.size) records
  count : records.length = found.count
  choice : IsChoice records chosen
  header : ∃ entry, IsLocal content (entryOf chosen.1 chosen.2) found.offset dataStart entry
  data : dataStart + chosen.2.compressed ≤ found.offset
  size : payload.length = chosen.2.uncompressed
  some : payload ≠ []
  checksum : codecs.crc32 payload = (entryOf chosen.1 chosen.2).crc
  unpacked :
    (entryOf chosen.1 chosen.2).method = 0 ∧
        payload = slice content dataStart chosen.2.compressed ∨
      (entryOf chosen.1 chosen.2).method = 8 ∧
        codecs.totalIn (slice content dataStart chosen.2.compressed) = chosen.2.compressed ∧
        Brings (codecs.inflate (slice content dataStart chosen.2.compressed)) 0 payload
  uncompressed : payload.length ≤ limits.uncompressedBytes.toNat
  ratio : payload.length ≤ chosen.2.compressed * limits.compressionRatio.toNat

theorem extractFrom_ok {codecs : Codecs} {limits : ArchiveLimits} {content payload : List UInt8}
    {size : UInt64} {stop : Nat → Bool}
    (h : extractFrom codecs limits content size stop = .ok payload) :
    ∃ found records chosen dataStart,
      Extracted codecs limits content payload found records chosen dataStart := by
  obtain ⟨⟨⟩, -, h⟩ := bind_ok h
  obtain ⟨⟨⟩, small, h⟩ := bind_ok h
  obtain ⟨⟨⟩, whole, h⟩ := bind_ok h
  have whole := not_not.mp (failIf_ok.mp whole)
  rw [← whole] at h
  obtain ⟨found, located, h⟩ := bind_ok h
  obtain ⟨⟨⟩, -, h⟩ := bind_ok h
  obtain ⟨bytes, read, h⟩ := bind_ok h
  obtain ⟨inside, rfl⟩ := readBytes_ok read
  obtain ⟨entry, selected, h⟩ := bind_ok h
  obtain ⟨records, chosen, listed, count, choice, rfl⟩ := selectEntry_ok selected
  obtain ⟨⟨⟩, supported, h⟩ := bind_ok h
  obtain ⟨⟨⟩, limited, h⟩ := bind_ok h
  obtain ⟨⟨dataStart, entry⟩, headed, h⟩ := bind_ok h
  have header := validateLocal_ok headed
  obtain ⟨zip64Sizes, rfl⟩ := header.same
  obtain ⟨dataEnd, total, h⟩ := bind_ok h
  obtain ⟨-, rfl⟩ := guarded_ok.mp total
  obtain ⟨⟨⟩, before, h⟩ := bind_ok h
  obtain ⟨⟨⟩, -, h⟩ := bind_ok h
  obtain ⟨⟨⟩, -, h⟩ := bind_ok h
  obtain ⟨⟨output, check⟩, unpacked, h⟩ := bind_ok h
  obtain ⟨⟨⟩, checked, h⟩ := bind_ok h
  obtain ⟨⟨⟩, -, h⟩ := bind_ok h
  cases h
  have small := failIf_ok.mp small
  obtain ⟨-, nonempty⟩ := not_or.mp (not_or.mp (failIf_ok.mp supported)).2
  obtain ⟨within, ratio⟩ := not_or.mp (failIf_ok.mp limited)
  have before := failIf_ok.mp before
  obtain ⟨sized, checksum⟩ := not_or.mp (failIf_ok.mp checked)
  have size : payload.length = chosen.2.uncompressed := not_not.mp sized
  change ¬chosen.2.uncompressed = 0 at nonempty
  change ¬chosen.2.uncompressed > limits.uncompressedBytes.toNat at within
  change ¬chosen.2.uncompressed > chosen.2.compressed * limits.compressionRatio.toNat at ratio
  simp only [List.sum_cons, List.sum_nil, Nat.add_zero] at before
  refine ⟨found, records, chosen, dataStart, ?_⟩
  constructor
  · rw [gt_iff_lt, UInt64.lt_iff_toNat_lt, ← whole] at small
    omega
  · exact directory_ok located
  · exact inside
  · exact listed
  · exact count
  · exact choice
  · exact ⟨_, header⟩
  · exact Nat.le_of_not_lt before
  · exact size
  · intro none
    rw [none] at size
    exact nonempty size.symm
  · exact not_not.mp checksum
  · rcases unpack_ok unpacked with ⟨plain, -, same⟩ | ⟨deflated, consumed, brought⟩
    · exact .inl ⟨plain, same⟩
    · exact .inr ⟨deflated, consumed, brought⟩
  · omega
  · omega

/-- The counter of the files has 32 bits with a sign, and the limits in use admit 16 entries. -/
theorem extraction_sound (codecs : Codecs) (limits : ArchiveLimits)
    (few : limits.entries.toNat < 2 ^ 31) (content : List UInt8) (size : UInt64)
    (stop : Nat → Bool) :
    (∃ error, extractFrom codecs limits content size stop = .error (.failed error)) ∨
      ∃ payload found records chosen dataStart,
        extractFrom codecs limits content size stop = .ok payload ∧
          Extracted codecs limits content payload found records chosen dataStart := by
  have quiet := extractFrom_quiet codecs content size stop few
  cases extracted : extractFrom codecs limits content size stop with
  | error fault =>
    cases fault with
    | failed error => exact .inl ⟨error, rfl⟩
    | panicked => exact absurd extracted quiet
  | ok payload =>
    obtain ⟨found, records, chosen, dataStart, h⟩ := extractFrom_ok extracted
    exact .inr ⟨payload, found, records, chosen, dataStart, rfl, h⟩

def sampleCodecs : Codecs where
  inflate := stored
  totalIn := List.length
  crc32

/-- A stored log of three bytes. -/
def sampleArchive : List UInt8 :=
  localSignature ++ [20, 0, 0, 0, 0, 0, 0, 0, 0, 0] ++ toLittle 4 0x55BC801D ++
    [3, 0, 0, 0, 3, 0, 0, 0, 6, 0, 0, 0] ++ utf8 "a.evtc" ++ [1, 2, 3] ++
    centralSignature ++ [20, 0, 20, 0, 0, 0, 0, 0, 0, 0, 0, 0] ++ toLittle 4 0x55BC801D ++
    [3, 0, 0, 0, 3, 0, 0, 0, 6, 0, 0, 0, 0, 0, 0, 0, 0, 0, 0, 0, 0, 0, 0, 0, 0, 0] ++
    utf8 "a.evtc" ++ endSignature ++
    [0, 0, 0, 0, 1, 0, 1, 0, 52, 0, 0, 0, 39, 0, 0, 0, 0, 0]

theorem extraction_sound_sample : ∃ found records chosen dataStart,
    Extracted sampleCodecs .standard sampleArchive [1, 2, 3] found records chosen dataStart := by
  have sampled : extractFrom sampleCodecs .standard sampleArchive 113 (fun _ => false) =
      .ok [1, 2, 3] := by decide +kernel
  rcases extraction_sound sampleCodecs .standard (by decide) sampleArchive 113 (fun _ => false) with
    ⟨error, refused⟩ | ⟨payload, found, records, chosen, dataStart, extracted, h⟩
  · rw [sampled] at refused
    cases refused
  · rw [sampled] at extracted
    cases extracted
    exact ⟨found, records, chosen, dataStart, h⟩

end MannyUploader.Evtc.ZevtcArchive
