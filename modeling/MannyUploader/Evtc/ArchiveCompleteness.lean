import MannyUploader.Evtc.ArchiveListing
import MannyUploader.Evtc.ArchiveSoundness

/-! Every well-formed archive of one stored log within the limits is extracted. -/
namespace MannyUploader.Evtc.ZevtcArchive
open Application Domain Foundation

namespace StoredArchive
variable {a : StoredArchive} {limits : ArchiveLimits} {crc32 : List UInt8 → UInt32}
  {stop : Nat → Bool}

/-! The entry. -/

section entry
variable (h : a.WellFormed crc32) (fits : limits.Admits a)

/-- The entry with what the local header adds. -/
def entered (a : StoredArchive) : Entry := { a.listed with zip64Sizes := a.wide }

def dataStart (a : StoredArchive) : Nat := a.stub.length + a.localRecord.length

theorem length_localRecord : a.localRecord.length =
    30 + a.name.length + (extraBytes a.front.extras).length := by
  simp [localRecord, Nat.add_assoc]

theorem length_body : a.body.length = a.dataStart + a.size + a.descriptor.length := by
  simp only [body, dataStart, size, List.length_append]
  omega

theorem agrees_announced {crc : UInt32} {compressed uncompressed : Nat}
    (c : a.Announced crc.toNat a.crc.toNat) (m : a.Announced compressed a.size)
    (n : a.Announced uncompressed a.size) :
    agrees a.listed crc compressed uncompressed = true := by
  unfold agrees
  change (if a.flags &&& 8 = 0 then _ else _) = true
  split
  next plain =>
    have without : a.hasDescriptor ≠ true := by simp [hasDescriptor, plain]
    have crc := c.resolve_right fun left => without left.1
    have compressed := m.resolve_right fun left => without left.1
    have uncompressed := n.resolve_right fun left => without left.1
    simp [listed, UInt32.toNat_inj.mp crc, compressed, uncompressed]
  next =>
    have crc : crc = 0 ∨ crc = a.crc := by
      rcases c with same | ⟨-, none⟩
      · exact .inr (UInt32.toNat_inj.mp same)
      · exact .inl (UInt32.toNat_inj.mp none)
    have compressed : compressed = 0 ∨ compressed = a.size := m.symm.imp_left And.right
    have uncompressed : uncompressed = 0 ∨ uncompressed = a.size := n.symm.imp_left And.right
    simp only [listed, Bool.and_eq_true, Bool.or_eq_true, beq_iff_eq]
    exact ⟨⟨crc, compressed⟩, uncompressed⟩

include h fits in
theorem validateLocal_listed :
    validateLocal a.bytes a.listed a.found.offset = .ok (a.dataStart, a.entered) := by
  have small := length_bytes_lt fits
  have whole := length_bytes (a := a)
  have before := length_beforeEnd (a := a)
  have body := length_body (a := a)
  have length := length_localRecord (a := a)
  have start : a.dataStart = a.stub.length + a.localRecord.length := rfl
  have ends : a.directoryEnd = a.body.length + a.centralRecord.length := rfl
  have shortName := h.name
  have shortExtra := h.localExtras.short
  have nameFits : (UInt16.ofNat a.name.length).toNat = a.name.length :=
    UInt16.toNat_ofNat_of_lt' h.name
  have extraFits : (UInt16.ofNat (extraBytes a.front.extras).length).toNat =
      (extraBytes a.front.extras).length := UInt16.toNat_ofNat_of_lt' h.localExtras.short
  have content : a.bytes = a.stub ++ (a.localFields ++ (a.name ++ extraBytes a.front.extras ++
      (a.payload ++ (a.descriptor ++ (a.centralRecord ++ (a.zip64Records ++ a.endFields)))))) := by
    simp only [bytes, beforeEnd, StoredArchive.body, localRecord, List.append_assoc]
  have content' : a.bytes = (a.stub ++ a.localFields) ++ ((a.name ++ extraBytes a.front.extras) ++
      (a.payload ++ (a.descriptor ++ (a.centralRecord ++ (a.zip64Records ++ a.endFields))))) := by
    rw [content]
    simp only [List.append_assoc]
  have header : readAt a.bytes a.listed.offset 30 = .ok a.localFields := by
    rw [content]
    exact readAt_found rfl rfl
  have names : readBytes a.bytes (a.stub.length + 30)
      (a.name.length + (extraBytes a.front.extras).length) =
      .ok (a.name ++ extraBytes a.front.extras) := by
    rw [content']
    exact readBytes_found (by simp) (by simp) (by omega)
  have name : (part (a.name ++ extraBytes a.front.extras) 0 a.name.length :
      Extraction (List UInt8)) = .ok a.name :=
    guarded_ok.mpr ⟨⟨Nat.zero_le _, by simp⟩, (slice_front _ _ rfl).symm⟩
  have zip64 : zip64Extra none (extraBytes a.front.extras) = .ok (zip64Value a.front.extras) := by
    have found := zip64Extra_fields a.front.extras none (by simpa using h.localExtras.single)
    rwa [Option.none_or] at found
  obtain ⟨others, needed⟩ := h.localExtras.zip64
  have flags : u16At a.localFields 6 = .ok a.flags := by
    rw [u16At_of (x := a.flags.toNat) (by simp) rfl a.flags.toNat_lt]
    simp
  have crc : u32At a.localFields 14 = .ok a.front.crc := by
    rw [u32At_of (x := a.front.crc.toNat) (by simp) rfl a.front.crc.toNat_lt]
    simp
  have wide : (a.listed.zip64Sizes || a.front.uncompressed.long || a.front.compressed.long) =
      a.wide := rfl
  have agreed : agrees a.listed a.front.crc a.front.compressed.value a.front.uncompressed.value =
      true := agrees_announced h.localCrc h.localCompressed h.localUncompressed
  unfold validateLocal
  rw [ok_bind header, ok_bind flags, ok_bind (u16At_of (x := 0) (by simp) rfl (by decide)),
    ok_bind (failIf_of (by simp [listed]; rfl)), ok_bind (u16At_of (by simp) rfl h.name),
    ok_bind (u16At_of (by simp) rfl shortExtra), nameFits, extraFits,
    ok_bind (failIf_of (by simp [listed])),
    ok_bind (sumOr_of (by simp only [List.sum_cons, List.sum_nil, listed]; omega)),
    ok_bind (sum_of (by simp only [List.sum_cons, List.sum_nil]; omega)),
    ok_bind (sumOr_of (by simp only [List.sum_cons, List.sum_nil, listed]; omega))]
  have dataStart : [[a.listed.offset, 30].sum,
      [a.name.length, (extraBytes a.front.extras).length].sum].sum = a.dataStart := by
    simp only [List.sum_cons, List.sum_nil, listed]
    omega
  have inside : a.dataStart ≤ a.found.offset := by
    change a.dataStart ≤ a.body.length
    omega
  rw [ok_bind (failIf_of (by rw [dataStart]; exact Nat.not_lt.mpr inside)), dataStart]
  simp only [List.sum_cons, List.sum_nil, Nat.add_zero]
  change (readBytes a.bytes (a.stub.length + 30) _ >>= _) = _
  rw [ok_bind names, ok_bind name, ok_bind (failIf_of (by simp [listed])),
    ok_bind (part_tail rfl), ok_bind zip64,
    ok_bind (u32At_of (by simp) rfl (short_lt h.localUncompressedFits)),
    ok_bind (u32At_of (by simp) rfl (short_lt h.localCompressedFits)), ← needed,
    sentinel_short h.localUncompressedFits, sentinel_short h.localCompressedFits, wide]
  simp only [List.append_assoc]
  rw [ok_bind (extended_number h.localUncompressedFits _)]
  dsimp only
  rw [ok_bind (extended_number h.localCompressedFits _)]
  dsimp only
  rw [ok_bind crc, ok_bind (failIf_of (by rw [agreed]; simp))]
  rfl

/-- A descriptor of the entry is recognised where it begins. -/
theorem describes_entered (h : a.WellFormed crc32) (before rest : List UInt8) :
    describes a.entered (if a.wide then 20 else 12) (before ++ (a.descriptorFields ++ rest))
      before.length = .ok true := by
  have crc : u32At a.descriptorFields 0 = .ok a.crc := by
    rw [u32At_of (x := a.crc.toNat) (by simp [descriptorFields]) rfl a.crc.toNat_lt]
    simp
  have fits := h.compressedFits
  have width : (if a.wide then 20 else 12) = a.descriptorFields.length := by
    unfold descriptorFields
    cases a.wide <;> simp
  unfold describes
  rw [width, partOr_found rfl rfl]
  dsimp only
  rw [ok_bind crc]
  change (if a.wide = true then _ else _) = _
  cases wide : a.wide with
  | true =>
    have same : (UInt64.ofNat a.size).toNat = a.size := UInt64.toNat_ofNat_of_lt' fits.long
    have fields : a.descriptorFields =
        toLittle 4 a.crc.toNat ++ (toLittle 8 a.size ++ toLittle 8 a.size) := by
      rw [descriptorFields, wide]
      rfl
    rw [if_pos rfl, fields, ok_bind (u64At_of (x := a.size) (by simp) rfl fits.long),
      ok_bind (u64At_of (x := a.size) (by simp) rfl fits.long), same]
    simp [entered, listed]
  | false =>
    have short : a.size < 0xFFFFFFFF := by
      apply fits.short
      simp only [StoredArchive.wide, Bool.or_eq_false_iff] at wide
      exact wide.1.1.2
    have same : (UInt32.ofNat a.size).toNat = a.size :=
      UInt32.toNat_ofNat_of_lt' (Nat.lt_trans short (by decide))
    have fields : a.descriptorFields =
        toLittle 4 a.crc.toNat ++ (toLittle 4 a.size ++ toLittle 4 a.size) := by
      rw [descriptorFields, wide]
      rfl
    have fits : a.size < 2 ^ 32 := Nat.lt_trans short (by decide)
    rw [if_neg (by simp), fields, ok_bind (u32At_of (x := a.size) (by simp) rfl fits),
      ok_bind (u32At_of (x := a.size) (by simp) rfl fits), same]
    simp [entered, listed]

theorem describes_total (bytes : List UInt8) (start : Nat) :
    ∃ answer, describes a.entered (if a.wide then 20 else 12) bytes start = .ok answer := by
  have twelve : 12 ≤ if a.wide then 20 else 12 := by
    split <;> decide
  unfold describes
  split
  · exact ⟨_, rfl⟩
  next descriptor found =>
    obtain ⟨⟨-, inside⟩, rfl⟩ := guarded_ok.mp found
    rw [Nat.add_sub_cancel_left]
    have length := length_slice inside
    generalize slice bytes start (if a.wide then 20 else 12) = descriptor at *
    rw [ok_bind (u32At_read (by omega))]
    change ∃ answer, (if a.wide = true then _ else _) = Except.ok answer
    split
    next wide =>
      rw [wide, if_pos rfl] at length
      rw [ok_bind (u64At_read (by omega)), ok_bind (u64At_read (by omega))]
      exact ⟨_, rfl⟩
    next =>
      rw [ok_bind (u32At_read (by omega)), ok_bind (u32At_read (by omega))]
      exact ⟨_, rfl⟩

theorem length_descriptorFields : a.descriptorFields.length = if a.wide then 20 else 12 := by
  unfold descriptorFields
  cases a.wide <;> simp

include h in
theorem validateDescriptor_entered (there : a.hasDescriptor = true) :
    validateDescriptor a.bytes (a.dataStart + a.size) a.found.offset a.entered = .ok () := by
  have body := length_body (a := a)
  have start : a.dataStart = a.stub.length + a.localRecord.length := rfl
  have fields := length_descriptorFields (a := a)
  have content : a.bytes = (a.stub ++ (a.localRecord ++ a.payload)) ++
      (a.descriptor ++ (a.centralRecord ++ (a.zip64Records ++ a.endFields))) := by
    simp only [bytes, beforeEnd, StoredArchive.body, List.append_assoc]
  have shape : a.descriptor = (if a.signed then toLittle 4 descriptorSignature.toNat else []) ++
      a.descriptorFields := by
    rw [descriptor, if_pos there]
  have length : a.descriptor.length = (if a.signed then 4 else 0) + a.descriptorFields.length := by
    rw [shape, List.length_append]
    cases a.signed <;> simp
  have read : readBytes a.bytes (a.dataStart + a.size)
      (min a.descriptor.length ((if a.wide then 20 else 12) + 4)) = .ok a.descriptor := by
    have all : min a.descriptor.length ((if a.wide then 20 else 12) + 4) = a.descriptor.length := by
      rw [length, ← fields]
      split <;> omega
    rw [all, content]
    apply readBytes_found
    · rw [start, size]
      simp only [List.length_append]
      omega
    · rfl
    · rw [length, fields]
      split <;> split <;> decide
  have available : (differenceOr invalid a.found.offset (a.dataStart + a.size) : Extraction Nat) =
      .ok a.descriptor.length := by
    refine guarded_ok.mpr ⟨?_, ?_⟩
    · change a.dataStart + a.size ≤ a.body.length
      omega
    · change a.descriptor.length = a.body.length - (a.dataStart + a.size)
      omega
  unfold validateDescriptor
  change (differenceOr invalid a.found.offset (a.dataStart + a.size) >>= _) = _
  rw [ok_bind available]
  change (failIf invalid (a.descriptor.length < if a.wide = true then 20 else 12) >>= _) = _
  rw [ok_bind (failIf_of (by rw [length, fields]; omega))]
  change (readBytes a.bytes (a.dataStart + a.size)
    (min a.descriptor.length ((if a.wide = true then 20 else 12) + 4)) >>= _) = _
  rw [ok_bind read]
  change (describes a.entered (if a.wide = true then 20 else 12) a.descriptor 0 >>= _) = _
  cases signed : a.signed with
  | false =>
    have plain : a.descriptor = [] ++ (a.descriptorFields ++ []) := by
      rw [shape, signed, List.append_nil]
      rfl
    have found := describes_entered h [] []
    rw [List.length_nil, ← plain] at found
    rw [ok_bind found, if_pos rfl]
  | true =>
    have marked : a.descriptor =
        toLittle 4 descriptorSignature.toNat ++ (a.descriptorFields ++ []) := by
      rw [shape, signed, List.append_nil]
      rfl
    obtain ⟨answer, unsigned⟩ := describes_total (a := a) a.descriptor 0
    rw [ok_bind unsigned]
    cases answer with
    | true => rfl
    | false =>
      have signature : u32At a.descriptor 0 = .ok descriptorSignature := by
        rw [u32At_of (x := descriptorSignature.toNat) (by rw [marked]; simp)
          (by rw [marked]; rfl) (by decide)]
        rfl
      change (u32At a.descriptor 0 >>= _) = _
      rw [ok_bind signature, ok_bind (failIf_of (by simp))]
      change (describes a.entered (if a.wide = true then 20 else 12) a.descriptor 4 >>= _) = _
      have found := describes_entered h (toLittle 4 descriptorSignature.toNat) []
      rw [length_toLittle, ← marked] at found
      rw [ok_bind found]
      exact failIf_of (by simp)

end entry

/-! The payload. -/

/-- Nothing of stored data is lost, and no check fails on the way. -/
theorem readPayload_stored (data output : List UInt8) (expected check index : Nat)
    (left : output.length + (data.drop (index * chunk)).length = expected)
    (memory : expected < 2 ^ 63) :
    ∃ next, readPayload (fun _ => false) (stored data) expected check index output =
      .ok (output ++ data.drop (index * chunk), next) := by
  fun_induction readPayload (fun _ => false) (stored data) expected check index output with
  | case1 index output stopped => cases stopped
  | case2 index output _ read => cases read
  | case3 index output _ read =>
    have none : (data.drop (index * chunk)).take chunk = [] := by simpa [stored] using read
    rw [List.take_eq_nil_iff] at none
    rw [none.resolve_left (by decide), List.append_nil]
    exact ⟨_, rfl⟩
  | case4 index output _ bytes read some large =>
    have here : (data.drop (index * chunk)).take chunk = bytes := by simpa [stored] using read
    have short := congrArg List.length here
    rw [List.length_take] at short
    omega
  | case5 index output _ bytes read some _ more =>
    have here : (data.drop (index * chunk)).take chunk = bytes := by simpa [stored] using read
    have short := congrArg List.length here
    rw [List.length_take] at short
    omega
  | case6 index output _ bytes read some _ fits ih =>
    have here : (data.drop (index * chunk)).take chunk = bytes := by simpa [stored] using read
    have split : bytes ++ data.drop ((index + 1) * chunk) = data.drop (index * chunk) := by
      rw [← here, Nat.succ_mul, ← List.drop_drop, List.take_append_drop]
    have length := congrArg List.length split
    rw [List.length_append] at length
    obtain ⟨next, rest⟩ := ih (by rw [List.length_append]; omega)
    exact ⟨next, by rw [rest, List.append_assoc, split]⟩

theorem extraction_complete {codecs : Codecs} (h : a.WellFormed codecs.crc32)
    (fits : limits.Admits a) (some : a.payload ≠ []) :
    extractFrom codecs limits a.bytes (.ofNat a.bytes.length) (fun _ => false) =
      .ok a.payload := by
  have small := length_bytes_lt fits
  have body := length_body (a := a)
  have before := length_beforeEnd (a := a)
  have whole := length_bytes (a := a)
  have start : a.dataStart = a.stub.length + a.localRecord.length := rfl
  have ends : a.directoryEnd = a.body.length + a.centralRecord.length := rfl
  have size : (UInt64.ofNat a.bytes.length).toNat = a.bytes.length :=
    UInt64.toNat_ofNat_of_lt' small
  have positive : a.size ≠ 0 := by
    rw [StoredArchive.size]
    exact fun none => some (List.length_eq_zero_iff.mp none)
  have read : readBytes a.bytes a.found.offset a.found.size = .ok a.centralRecord := by
    have content : a.bytes = a.body ++ (a.centralRecord ++ (a.zip64Records ++ a.endFields)) := by
      simp only [bytes, beforeEnd, List.append_assoc]
    have short := h.extras.short
    have name := h.name
    have comment := h.comment
    have length := length_centralRecord (a := a)
    rw [content]
    exact readBytes_found rfl rfl (by change a.centralRecord.length < 2 ^ 63; omega)
  have data : slice a.bytes a.dataStart a.size = a.payload := by
    have content : a.bytes = (a.stub ++ a.localRecord) ++
        (a.payload ++ (a.descriptor ++ (a.centralRecord ++ (a.zip64Records ++ a.endFields)))) := by
      simp only [bytes, beforeEnd, StoredArchive.body, List.append_assoc]
    rw [content]
    exact slice_found (by simp [start]) rfl
  have descriptor : extractFrom.descriptorOf a.bytes (a.dataStart + a.size) a.found.offset
      a.entered = .ok () := by
    unfold extractFrom.descriptorOf
    change (if a.flags &&& 8 ≠ 0 then _ else _) = _
    split
    next there => exact validateDescriptor_entered h (by simpa [hasDescriptor] using there)
    next => rfl
  obtain ⟨next, unpacked⟩ : ∃ next, unpack codecs (fun _ => false) (2 + 1) a.entered a.payload =
      .ok (a.payload, next) := by
    obtain ⟨next, read⟩ := readPayload_stored a.payload [] a.size (2 + 1) 0
      (by simp [StoredArchive.size]) fits.memory
    have plain : a.entered.method = 0 := rfl
    refine ⟨next, ?_⟩
    unfold unpack
    rw [if_pos plain, ok_bind (failIf_of (by simp [entered, listed]))]
    change readPayload (fun _ => false) (stored a.payload) a.size (2 + 1) 0 [] = _
    rw [read, Nat.zero_mul, List.drop_zero, List.nil_append]
  have archive : ¬UInt64.ofNat a.bytes.length > limits.archiveBytes := by
    rw [gt_iff_lt, UInt64.lt_iff_toNat_lt, size]
    exact Nat.not_lt.mpr fits.archive
  have supported : ¬(a.listed.flags &&& ~~~0x080e ≠ 0 ∨
      (a.listed.method ≠ 0 ∧ a.listed.method ≠ 8) ∨ a.listed.uncompressed = 0) := by
    rintro (other | ⟨other, -⟩ | none)
    · exact other h.flags
    · exact other rfl
    · exact positive none
  have limited : ¬(a.listed.uncompressed > limits.uncompressedBytes.toNat ∨
      a.listed.uncompressed > a.listed.compressed * limits.compressionRatio.toNat) := by
    have ratio : 1 ≤ limits.compressionRatio.toNat := by
      have nonzero := fits.nonzero.2.2.2.2
      rw [Ne, ← UInt32.toNat_inj] at nonzero
      exact Nat.one_le_iff_ne_zero.mpr nonzero
    rintro (large | large)
    · exact Nat.not_lt.mpr fits.uncompressed large
    · exact Nat.not_lt.mpr (Nat.le_mul_of_pos_right a.size ratio) large
  have total : [a.dataStart, a.entered.compressed].sum = a.dataStart + a.size := by
    simp only [List.sum_cons, List.sum_nil, Nat.add_zero]
    rfl
  have inside : ¬a.dataStart + a.size > a.found.offset := by
    change ¬a.dataStart + a.size > a.body.length
    omega
  unfold extractFrom
  rw [ok_bind (running 0), ok_bind (failIf_of archive), size, ok_bind (failIf_of (by simp)),
    ok_bind (directory_found h fits), ok_bind (running 1), ok_bind read]
  change (selectEntry (fun _ => false) limits 2 1 a.centralRecord >>= _) = _
  rw [ok_bind (selectEntry_listed h fits 2), ok_bind (failIf_of supported),
    ok_bind (failIf_of limited), ok_bind (validateLocal_listed h fits)]
  dsimp only
  rw [ok_bind (sumOr_of (by rw [total]; omega)), ok_bind (failIf_of (by rw [total]; exact inside)),
    total, ok_bind descriptor]
  have memory : (reserveOr limit a.entered.uncompressed : Extraction Unit) = .ok () :=
    guarded_ok.mpr ⟨fits.memory, rfl⟩
  have checked : ¬(a.payload.length ≠ a.entered.uncompressed ∨
      codecs.crc32 a.payload ≠ a.entered.crc) := by
    rintro (other | other)
    · exact other rfl
    · exact other h.checksum.symm
  rw [ok_bind memory]
  change (unpack codecs (fun _ => false) (2 + 1) a.entered
    (slice a.bytes a.dataStart a.size) >>= _) = _
  rw [data, ok_bind unpacked]
  dsimp only
  rw [ok_bind (failIf_of checked), ok_bind (running next)]

/-- A streamed archive behind a stub, with ZIP64 sizes and a foreign extra field. -/
def sample : StoredArchive where
  stub := [77, 90]
  name := utf8 "logs/20261016-123456"
  payload := [1, 2, 3]
  flags := 0x0808
  crc := 0x55BC801D
  front :=
    { version := 45, modified := 0, crc := 0, compressed := ⟨0, true⟩, uncompressed := ⟨0, true⟩
      extras := [⟨0x5455, [1, 2], by decide⟩, ⟨1, List.replicate 16 0, by decide⟩] }
  signed := true
  listing :=
    { versions := 0x2D002D, modified := 0, longCompressed := false, longUncompressed := false
      longOffset := true, longDisk := true
      extras := [⟨1, toLittle 8 2 ++ toLittle 4 0, by decide⟩], comment := [33], internal := 0
      external := 0 }
  zip64 := some
    { versions := 0x2D002D, sector := [7], longOffset := true, longSize := false
      longCount := true }

theorem sample_wellFormed : sample.WellFormed Foundation.crc32 where
  checksum := by decide +kernel
  flags := by decide
  name := by decide
  kind := .inr (by decide)
  file := by decide
  attributes := by decide
  comment := by decide
  localExtras := ⟨by decide, by decide, by decide⟩
  localCrc := .inr ⟨by decide, rfl⟩
  localCompressed := .inr ⟨by decide, rfl⟩
  localUncompressed := .inr ⟨by decide, rfl⟩
  localCompressedFits := ⟨by decide, by decide⟩
  localUncompressedFits := ⟨by decide, by decide⟩
  extras := ⟨by decide, by decide, by decide⟩
  compressedFits := ⟨by decide, by decide⟩
  uncompressedFits := ⟨by decide, by decide⟩
  offsetFits := ⟨by decide, by decide⟩
  directoryOffsetFits := ⟨by decide, by decide⟩
  directorySizeFits := ⟨by decide, by decide⟩
  locator := by decide

theorem extraction_complete_sample :
    extractFrom sampleCodecs .standard sample.bytes (.ofNat sample.bytes.length) (fun _ => false) =
      .ok [1, 2, 3] :=
  extraction_complete sample_wellFormed
    ⟨by decide, by decide, by decide +kernel, by decide +kernel, by decide +kernel, by decide⟩
    (by decide)

end StoredArchive

end MannyUploader.Evtc.ZevtcArchive
