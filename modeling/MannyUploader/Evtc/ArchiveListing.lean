import MannyUploader.Evtc.ArchiveSpecs
import MannyUploader.Evtc.StoredArchive

/-! The directory of a well-formed archive is found, and its one entry selected. -/
namespace MannyUploader.Evtc.ZevtcArchive
open Application Domain Foundation

/-! Reading what was written. -/

section written
variable {bytes before middle after : List UInt8} {offset width x : Nat}

theorem readAt_found (here : offset = before.length) (whole : width = middle.length) :
    readAt (before ++ (middle ++ after)) offset width = .ok middle :=
  partOr_found here (by rw [whole])

theorem readBytes_found (here : offset = before.length) (whole : width = middle.length)
    (memory : width < 2 ^ 63) :
    readBytes (before ++ (middle ++ after)) offset width = .ok middle := by
  refine (ok_bind (guarded_ok.mpr ⟨memory, rfl⟩) _).trans ?_
  exact readAt_found here whole

theorem field_of (inside : offset + width ≤ bytes.length) :
    field bytes offset width = .ok (slice bytes offset width) :=
  guarded_ok.mpr ⟨⟨by omega, inside⟩, by rw [Nat.add_sub_cancel_left]⟩

theorem u16At_of (inside : offset + 2 ≤ bytes.length) (same : slice bytes offset 2 = toLittle 2 x)
    (fits : x < 2 ^ 16) : u16At bytes offset = .ok (.ofNat x) := by
  refine (ok_bind (field_of inside) _).trans ?_
  rw [same, ofLittle_toLittle fits]

theorem u32At_of (inside : offset + 4 ≤ bytes.length) (same : slice bytes offset 4 = toLittle 4 x)
    (fits : x < 2 ^ 32) : u32At bytes offset = .ok (.ofNat x) := by
  refine (ok_bind (field_of inside) _).trans ?_
  rw [same, ofLittle_toLittle fits]

theorem u64At_of (inside : offset + 8 ≤ bytes.length) (same : slice bytes offset 8 = toLittle 8 x)
    (fits : x < 2 ^ 64) : u64At bytes offset = .ok (.ofNat x) := by
  refine (ok_bind (field_of inside) _).trans ?_
  rw [same, ofLittle_toLittle fits]

theorem u32At_read (inside : offset + 4 ≤ bytes.length) :
    u32At bytes offset = .ok (.ofNat (number bytes offset 4)) := ok_bind (field_of inside) _

theorem u64At_read (inside : offset + 8 ≤ bytes.length) :
    u64At bytes offset = .ok (.ofNat (number bytes offset 8)) := ok_bind (field_of inside) _

end written

/-! Extra data. -/

section extras
variable {rest : List UInt8} {fields : List ExtraField}

theorem extraField_bytes (field : ExtraField) :
    extraField (field.bytes ++ rest) = .ok (field.tag, field.value, rest) := by
  have short := field.short
  have tag : u16At (field.bytes ++ rest) 0 = .ok field.tag := by
    rw [u16At_of (x := field.tag.toNat) (by simp [ExtraField.bytes]) rfl field.tag.toNat_lt]
    simp
  have length : u16At (field.bytes ++ rest) 2 = .ok (.ofNat field.value.length) :=
    u16At_of (by simp [ExtraField.bytes]; omega) rfl short
  have same : (UInt16.ofNat field.value.length).toNat = field.value.length :=
    UInt16.toNat_ofNat_of_lt' short
  unfold extraField
  rw [ok_bind tag, ok_bind length, same]
  rw [ok_bind (sum_of (by simp; omega))]
  have value : (partOr invalid (field.bytes ++ rest) 4 [4, field.value.length].sum :
      Extraction (List UInt8)) = .ok field.value := by
    rw [ExtraField.bytes, ← List.append_assoc, List.append_assoc]
    exact partOr_found (by simp) (by simp)
  have behind : (part (field.bytes ++ rest) [4, field.value.length].sum
      (field.bytes ++ rest).length : Extraction (List UInt8)) = .ok rest := by
    apply part_tail
    simp [ExtraField.bytes]
    omega
  rw [ok_bind value, ok_bind behind]

/-- The loop finds the one ZIP64 field, if nothing was found before. -/
theorem zip64Extra_fields (fields : List ExtraField) (found : Option (List UInt8))
    (single : found.toList.length + (fields.filter ExtraField.isZip64).length ≤ 1) :
    zip64Extra found (extraBytes fields) = .ok (found.or (zip64Value fields)) := by
  induction fields generalizing found with
  | nil =>
    rw [zip64Value, List.find?_nil, Option.map_none, Option.or_none]
    exact zip64Extra_nil found
  | cons field others ih =>
    have some : extraBytes (field :: others) = field.bytes ++ extraBytes others := by
      simp [extraBytes]
    have more : field.bytes ++ extraBytes others ≠ [] := by
      apply List.append_ne_nil_of_left_ne_nil
      simp [ExtraField.bytes, toLittle]
    rw [some, zip64Extra_next found more, ok_bind (extraField_bytes field), zip64Value,
      List.find?_cons]
    rw [List.filter_cons] at single
    cases zip64 : field.isZip64 with
    | true =>
      have tag : field.tag = 1 := by simpa [ExtraField.isZip64] using zip64
      rw [zip64, if_pos rfl, List.length_cons] at single
      have none : found = none := by
        cases found with
        | none => rfl
        | some value =>
          rw [Option.toList_some, List.length_singleton] at single
          omega
      have alone : (others.filter ExtraField.isZip64).length = 0 := by omega
      dsimp only
      rw [if_pos tag, none, if_neg (by simp), ih _ (by rw [alone]; rfl)]
      rfl
    | false =>
      have tag : field.tag ≠ 1 := by simpa [ExtraField.isZip64] using zip64
      rw [zip64, if_neg (by simp)] at single
      dsimp only
      rw [if_neg tag, ih found single]
      rfl

theorem extended_number {number : HeaderNumber} (fits : number.Fits) (rest : List UInt8) :
    extended (.ofNat number.short) (number.extra ++ rest) = .ok (number.value, rest) := by
  obtain ⟨value, long⟩ := number
  cases long with
  | false =>
    have small : value < 0xFFFFFFFF := fits.short rfl
    have same : (UInt32.ofNat value).toNat = value :=
      UInt32.toNat_ofNat_of_lt' (Nat.lt_trans small (by decide))
    have other : UInt32.ofNat value ≠ 0xFFFFFFFF := by
      intro sentinel
      rw [sentinel] at same
      have : (0xFFFFFFFF : UInt32).toNat = 0xFFFFFFFF := rfl
      omega
    change extended (.ofNat value) rest = .ok (value, rest)
    unfold extended
    rw [if_pos other, same]
  | true =>
    have large : value < 2 ^ 64 := fits.long
    have read : u64At (toLittle 8 value ++ rest) 0 = .ok (.ofNat value) :=
      u64At_of (by simp) rfl large
    have same : (UInt64.ofNat value).toNat = value := UInt64.toNat_ofNat_of_lt' large
    change extended 0xFFFFFFFF (toLittle 8 value ++ rest) = .ok (value, rest)
    unfold extended
    rw [if_neg (by simp), ok_bind read, ok_bind (part_tail (length_toLittle 8 value).symm), same]

end extras

/-! The central header. -/

namespace StoredArchive
variable {a : StoredArchive} {limits : ArchiveLimits} {crc32 : List UInt8 → UInt32}
  {stop : Nat → Bool}

@[simp] theorem length_centralFields : a.centralFields.length = 46 := rfl
@[simp] theorem length_localFields : a.localFields.length = 30 := rfl
@[simp] theorem length_endFields : a.endFields.length = 22 := rfl
@[simp] theorem length_locatorFields : a.locatorFields.length = 20 := rfl
@[simp] theorem length_zip64Fields (z : Zip64End) : (a.zip64Fields z).length = 56 := rfl

theorem short_lt {number : HeaderNumber} (fits : number.Fits) : number.short < 2 ^ 32 := by
  unfold HeaderNumber.short
  split
  · decide
  next short => exact Nat.lt_trans (fits.short (by simpa using short)) (by decide)

/-- The header as the loop reads it. -/
def header (a : StoredArchive) : Central where
  name := a.name
  compressed := a.size
  uncompressed := a.size
  offset := a.stub.length
  isDirectory := false
  length := a.centralRecord.length

theorem length_centralRecord : a.centralRecord.length =
    46 + a.name.length + (extraBytes a.listing.extras).length + a.listing.comment.length := by
  simp [centralRecord, Nat.add_assoc]

section central
theorem u16_central {offset x : Nat} (inside : offset + 2 ≤ 46)
    (same : slice a.centralFields offset 2 = toLittle 2 x) (fits : x < 2 ^ 16) :
    u16At a.centralRecord offset = .ok (.ofNat x) := by
  refine u16At_of ?_ ((slice_front_append inside).trans same) fits
  rw [length_centralRecord]
  omega

theorem u32_central {offset x : Nat} (inside : offset + 4 ≤ 46)
    (same : slice a.centralFields offset 4 = toLittle 4 x) (fits : x < 2 ^ 32) :
    u32At a.centralRecord offset = .ok (.ofNat x) := by
  refine u32At_of ?_ ((slice_front_append inside).trans same) fits
  rw [length_centralRecord]
  omega

/-- Both forms of the disk say that it is the first. -/
theorem onOtherDisk_listing (rest : List UInt8) :
    central.onOtherDisk (.ofNat (if a.listing.longDisk then 0xFFFF else 0))
      ((if a.listing.longDisk then toLittle 4 0 else []) ++ rest) = .ok false := by
  cases a.listing.longDisk with
  | false => rfl
  | true =>
    have read : u32At (toLittle 4 0 ++ rest) 0 = .ok (.ofNat 0) :=
      u32At_of (by simp) rfl (by decide)
    change (do
      let disk ← u32At (toLittle 4 0 ++ rest) 0
      .ok (disk != 0)) = _
    rw [ok_bind read]
    rfl

theorem central_header (h : a.WellFormed crc32) (fits : limits.Admits a) :
    central limits a.centralRecord = .ok a.header := by
  have length := length_centralRecord (a := a)
  have nameFits : (UInt16.ofNat a.name.length).toNat = a.name.length :=
    UInt16.toNat_ofNat_of_lt' h.name
  have extraFits : (UInt16.ofNat (extraBytes a.listing.extras).length).toNat =
      (extraBytes a.listing.extras).length := UInt16.toNat_ofNat_of_lt' h.extras.short
  have commentFits : (UInt16.ofNat a.listing.comment.length).toNat = a.listing.comment.length :=
    UInt16.toNat_ofNat_of_lt' h.comment
  have shortName := h.name
  have shortExtra := h.extras.short
  have shortComment := h.comment
  have signature : field a.centralRecord 0 4 = .ok centralSignature :=
    (field_of (by omega)).trans rfl
  have name : (partOr invalid a.centralRecord 46 [46, a.name.length].sum :
      Extraction (List UInt8)) = .ok a.name := partOr_found rfl (by simp)
  have extra : (partOr invalid a.centralRecord [46, a.name.length].sum
      [46, a.name.length, (extraBytes a.listing.extras).length].sum :
      Extraction (List UInt8)) = .ok (extraBytes a.listing.extras) := by
    rw [centralRecord, ← List.append_assoc]
    exact partOr_found (by simp) (by simp; omega)
  have zip64 : zip64Extra none (extraBytes a.listing.extras) =
      .ok (zip64Value a.listing.extras) := by
    have found := zip64Extra_fields a.listing.extras none (by simpa using h.extras.single)
    rwa [Option.none_or] at found
  obtain ⟨others, needed⟩ := h.extras.zip64
  have attributes : u32At a.centralRecord 38 = .ok a.listing.external := by
    rw [u32_central (x := a.listing.external.toNat) (by decide) rfl a.listing.external.toNat_lt]
    simp
  unfold central
  rw [ok_bind signature, ok_bind (failIf_of (by simp)),
    ok_bind (u16_central (by decide) rfl h.name), ok_bind (u16_central (by decide) rfl shortExtra),
    ok_bind (u16_central (by decide) rfl h.comment), nameFits, extraFits, commentFits,
    ok_bind (failIf_of (Nat.not_lt.mpr fits.name)), ok_bind (sum_of (by simp; omega)),
    ok_bind name, ok_bind (sum_of (by simp; omega)), ok_bind extra, ok_bind zip64,
    ok_bind (u32_central (by decide) rfl (short_lt h.uncompressedFits)), ← needed]
  simp only [List.append_assoc]
  rw [ok_bind (extended_number h.uncompressedFits _)]
  dsimp only
  rw [ok_bind (u32_central (by decide) rfl (short_lt h.compressedFits)),
    ok_bind (extended_number h.compressedFits _)]
  dsimp only
  rw [ok_bind (u32_central (by decide) rfl (short_lt h.offsetFits)),
    ok_bind (extended_number h.offsetFits _)]
  dsimp only
  have onDisk : (if a.listing.longDisk then 0xFFFF else 0) < 2 ^ 16 := by
    split <;> decide
  rw [ok_bind (u16_central (by decide) rfl onDisk), ok_bind (onOtherDisk_listing others),
    ok_bind (failIf_of (by simp)), ok_bind attributes, ok_bind (sum_of (by simp; omega))]
  have directory : (utf8 "/" <:+ a.name || a.listing.external &&& 0x10 != 0) = false := by
    simp [h.file, h.attributes]
  rw [directory]
  unfold header
  rw [length]
  simp only [List.sum_cons, List.sum_nil, Nat.add_zero, Nat.add_assoc]
  rfl

end central

/-! The selection. -/

theorem running (check : Nat) : checkStop (fun _ => false) check = .ok () := failIf_of (by simp)

/-- The entry that the directory lists. -/
def listed (a : StoredArchive) : Entry where
  name := a.name
  flags := a.flags
  method := 0
  crc := a.crc
  compressed := a.size
  uncompressed := a.size
  offset := a.stub.length
  zip64Sizes := a.listing.longUncompressed || a.listing.longCompressed

theorem sentinel_short {number : HeaderNumber} (fits : number.Fits) :
    (UInt32.ofNat number.short == 0xFFFFFFFF) = number.long := by
  obtain ⟨value, long⟩ := number
  cases long with
  | true => rfl
  | false =>
    have small : value < 0xFFFFFFFF := fits.short rfl
    have same : (UInt32.ofNat value).toNat = value :=
      UInt32.toNat_ofNat_of_lt' (Nat.lt_trans small (by decide))
    rw [beq_eq_false_iff_ne]
    intro sentinel
    rw [HeaderNumber.short, if_neg (by simp)] at sentinel
    rw [sentinel] at same
    have top : (0xFFFFFFFF : UInt32).toNat = 0xFFFFFFFF := rfl
    omega

theorem entry_header (h : a.WellFormed crc32) :
    entry a.centralRecord a.header = .ok a.listed := by
  have flags : u16At a.centralRecord 8 = .ok a.flags := by
    rw [u16_central (x := a.flags.toNat) (by decide) rfl a.flags.toNat_lt]
    simp
  have crc : u32At a.centralRecord 16 = .ok a.crc := by
    rw [u32_central (x := a.crc.toNat) (by decide) rfl a.crc.toNat_lt]
    simp
  unfold entry
  rw [ok_bind flags, ok_bind (u16_central (x := 0) (by decide) rfl (by decide)), ok_bind crc,
    ok_bind (u32_central (by decide) rfl (short_lt h.uncompressedFits)),
    ok_bind (u32_central (by decide) rfl (short_lt h.compressedFits)),
    sentinel_short h.uncompressedFits, sentinel_short h.compressedFits]
  rfl

theorem consider_header (h : a.WellFormed crc32) :
    consider a.centralRecord a.header ⟨none, none, 0⟩ =
      .ok (if isEvtc a.name then ⟨some a.listed, none, 1⟩ else ⟨none, some a.listed, 1⟩) := by
  have first : (count32 0 : Extraction Nat) = .ok 1 := guarded_ok.mpr ⟨by decide, rfl⟩
  unfold consider
  rw [if_neg (by simp [header]), ok_bind first]
  change (if isEvtc a.name = true then _ else if isExtensionless a.name = true then _ else _) = _
  by_cases evtc : isEvtc a.name = true
  · rw [if_pos evtc, ok_bind (entry_header h), ok_bind (failIf_of (by simp)), if_pos evtc]
  · rw [if_neg evtc, if_pos (h.kind.resolve_left evtc), ok_bind (entry_header h), if_neg evtc]

theorem selectEntry_listed (h : a.WellFormed crc32) (fits : limits.Admits a) (check : Nat) :
    selectEntry (fun _ => false) limits check 1 a.centralRecord = .ok a.listed := by
  have behind : (partOr invalid a.centralRecord a.header.length a.centralRecord.length :
      Extraction (List UInt8)) = .ok [] :=
    guarded_ok.mpr ⟨⟨Nat.le_refl _, Nat.le_refl _⟩, by simp [header, slice]⟩
  unfold selectEntry considerAll considerAll
  simp only [bind_assoc]
  rw [ok_bind (running check), ok_bind (central_header h fits), ok_bind (consider_header h),
    ok_bind behind, ok_bind (failIf_of (by simp)), ok_bind rfl]
  by_cases evtc : isEvtc a.name = true
  · simp [evtc]
  · simp [evtc]

/-! The end of the archive. -/

section directory
variable (h : a.WellFormed crc32) (fits : limits.Admits a)

theorem length_bytes : a.bytes.length = a.beforeEnd.length + 22 := by
  rw [bytes, List.length_append, length_endFields]

include fits in
theorem length_bytes_lt : a.bytes.length < 2 ^ 64 :=
  Nat.lt_of_le_of_lt fits.archive limits.archiveBytes.toNat_lt

theorem length_beforeEnd : a.beforeEnd.length = a.directoryEnd + a.zip64Records.length := by
  simp only [beforeEnd, directoryEnd, List.length_append]
  omega

theorem disagrees_short (number : HeaderNumber) :
    disagrees number.short number.value 0xFFFFFFFF = false := by
  obtain ⟨value, long⟩ := number
  cases long <;> simp [disagrees, HeaderNumber.short]

/-- The end record as the locating step reads it. -/
def shortDirectory (a : StoredArchive) : Directory where
  offset := a.directoryOffset.short
  size := a.directorySize.short
  count := a.shortCount

def found (a : StoredArchive) : Directory where
  offset := a.body.length
  size := a.centralRecord.length
  count := 1

theorem directoryEnd_ge : 46 ≤ a.directoryEnd := by
  rw [directoryEnd, length_centralRecord]
  omega

include h in
theorem locate_plain (plain : a.zip64 = none) :
    locate a.bytes a.beforeEnd.length a.shortDirectory = .ok (a.found, a.directoryEnd) := by
  have ends : a.beforeEnd.length = a.directoryEnd := by
    rw [length_beforeEnd, zip64Records, plain]
    rfl
  have enough := directoryEnd_ge (a := a)
  have short (field : Zip64End → Bool) : a.longIn field = false := by
    rw [longIn, plain]
    rfl
  have shortOffset : a.directoryOffset.short = a.body.length := by
    rw [HeaderNumber.short, directoryOffset, short]
    rfl
  have shortSize : a.directorySize.short = a.centralRecord.length := by
    rw [HeaderNumber.short, directorySize, short]
    rfl
  have shortCount : a.shortCount = 1 := by
    rw [StoredArchive.shortCount, short]
    rfl
  have smallOffset : a.body.length < 0xFFFFFFFF := h.directoryOffsetFits.short (short _)
  have smallSize : a.centralRecord.length < 0xFFFFFFFF := h.directorySizeFits.short (short _)
  have read : readAt a.bytes (a.beforeEnd.length - 20) 20 =
      .ok (slice a.bytes (a.beforeEnd.length - 20) 20) := by
    apply field_of
    rw [length_bytes]
    omega
  have nothing : zip64Locator a.bytes a.beforeEnd.length = .ok none := by
    unfold zip64Locator
    rw [if_pos (by omega), ok_bind (difference_of (by omega)), ok_bind read,
      take_slice _ _ (by decide), if_neg (h.locator plain)]
  unfold locate
  rw [ok_bind nothing]
  dsimp only
  rw [ok_bind (failIf_of _), ends]
  · rw [shortDirectory, shortOffset, shortSize, shortCount]
    rfl
  · rw [shortDirectory, shortOffset, shortSize, shortCount]
    dsimp only
    omega

theorem locate_zip64 (fits : limits.Admits a) {z : Zip64End} (zip64 : a.zip64 = some z) :
    locate a.bytes a.beforeEnd.length a.shortDirectory = .ok (a.found, a.directoryEnd) := by
  have small := length_bytes_lt fits
  have records : a.zip64Records = a.zip64Fields z ++ (z.sector ++ a.locatorFields) := by
    rw [zip64Records, zip64]
  have ends : a.beforeEnd.length = a.directoryEnd + 56 + z.sector.length + 20 := by
    rw [length_beforeEnd, records]
    simp only [List.length_append, length_zip64Fields, length_locatorFields]
    omega
  have whole := length_bytes (a := a)
  have content : a.bytes = (a.body ++ (a.centralRecord ++ (a.zip64Fields z ++ z.sector))) ++
      (a.locatorFields ++ a.endFields) := by
    rw [bytes, beforeEnd, records]
    simp only [List.append_assoc]
  have content' : a.bytes = (a.body ++ a.centralRecord) ++
      (a.zip64Fields z ++ (z.sector ++ (a.locatorFields ++ a.endFields))) := by
    rw [content]
    simp only [List.append_assoc]
  have locator : readAt a.bytes (a.beforeEnd.length - 20) 20 = .ok a.locatorFields := by
    rw [content]
    apply readAt_found
    · rw [ends, directoryEnd]
      simp only [List.length_append, length_zip64Fields]
      omega
    · exact length_locatorFields.symm
  have there : zip64Locator a.bytes a.beforeEnd.length = .ok (some a.locatorFields) := by
    unfold zip64Locator
    rw [if_pos (by omega), ok_bind (difference_of (by omega)), ok_bind locator]
    rfl
  have record : readAt a.bytes a.directoryEnd 56 = .ok (a.zip64Fields z) := by
    rw [content']
    exact readAt_found (by rw [directoryEnd, List.length_append]) rfl
  have offset : u64At a.locatorFields 8 = .ok (.ofNat a.directoryEnd) :=
    u64At_of (by simp) rfl (by omega)
  have recordSize : u64At (a.zip64Fields z) 4 = .ok (.ofNat (44 + z.sector.length)) :=
    u64At_of (by simp) rfl (by omega)
  have size : u64At (a.zip64Fields z) 40 = .ok (.ofNat a.centralRecord.length) :=
    u64At_of (by simp) rfl (by rw [directoryEnd] at ends; omega)
  have start : u64At (a.zip64Fields z) 48 = .ok (.ofNat a.body.length) :=
    u64At_of (by simp) rfl (by rw [directoryEnd] at ends; omega)
  have endFits : (UInt64.ofNat a.directoryEnd).toNat = a.directoryEnd :=
    UInt64.toNat_ofNat_of_lt' (show a.directoryEnd < 2 ^ 64 by omega)
  have sizeFits : (UInt64.ofNat (44 + z.sector.length)).toNat = 44 + z.sector.length :=
    UInt64.toNat_ofNat_of_lt' (show _ < 2 ^ 64 by omega)
  have lengthFits : (UInt64.ofNat a.centralRecord.length).toNat = a.centralRecord.length :=
    UInt64.toNat_ofNat_of_lt' (show _ < 2 ^ 64 by rw [directoryEnd] at ends; omega)
  have bodyFits : (UInt64.ofNat a.body.length).toNat = a.body.length :=
    UInt64.toNat_ofNat_of_lt' (show _ < 2 ^ 64 by rw [directoryEnd] at ends; omega)
  unfold locate
  rw [ok_bind there]
  dsimp only
  unfold extendedDirectory
  rw [ok_bind (u32At_of (x := 0) (by simp) rfl (by decide)),
    ok_bind (u32At_of (x := 1) (by simp) rfl (by decide)), ok_bind (failIf_of (by decide)),
    ok_bind offset, endFits, ok_bind record, ok_bind recordSize,
    ok_bind (difference_of (by omega)),
    ok_bind (u32At_of (x := 0) (by simp) rfl (by decide)),
    ok_bind (u32At_of (x := 0) (by simp) rfl (by decide)),
    ok_bind (u64At_of (x := 1) (by simp) rfl (by decide)),
    ok_bind (u64At_of (x := 1) (by simp) rfl (by decide)), ok_bind (failIf_of _), ok_bind start,
    ok_bind size, ok_bind (failIf_of _), bodyFits, lengthFits]
  · rfl
  · rw [bodyFits, lengthFits]
    have count : disagrees a.shortCount 1 0xFFFF = false := by
      unfold disagrees shortCount
      cases a.longIn Zip64End.longCount <;> rfl
    have offset := disagrees_short a.directoryOffset
    have size := disagrees_short a.directorySize
    change disagrees a.shortDirectory.offset a.body.length 0xFFFFFFFF = false at offset
    change disagrees a.shortDirectory.size a.centralRecord.length 0xFFFFFFFF = false at size
    change disagrees a.shortDirectory.count (UInt64.ofNat 1).toNat 0xFFFF = false at count
    rw [offset, size, count]
    decide
  · have total : checkedSum [a.directoryEnd, 12, 44 + z.sector.length] =
        some (a.beforeEnd.length - 20) := by
      refine checkedSum_some.mpr ⟨?_, ?_⟩
      · simp only [List.sum_cons, List.sum_nil]
        omega
      · simp only [List.sum_cons, List.sum_nil]
        omega
    have large : ¬UInt64.ofNat (44 + z.sector.length) < 44 := by
      rw [UInt64.lt_iff_toNat_lt, sizeFits]
      exact Nat.not_lt.mpr (Nat.le_add_right 44 _)
    have signature : (a.zip64Fields z).take 4 = zip64Signature := rfl
    rw [sizeFits, total, signature]
    rintro (other | other | other | other | other | other)
    · exact other rfl
    · exact large other
    · exact other rfl
    · exact other rfl
    · exact other rfl
    · exact other rfl

theorem findEnd_here {tail : List UInt8} {offset : Nat} (here : isEnd tail offset = .ok true) :
    findEnd tail offset = .ok offset := by
  cases offset with
  | zero =>
    unfold findEnd
    rw [ok_bind here]
    rfl
  | succ offset =>
    unfold findEnd
    rw [ok_bind here]
    rfl

theorem shortCount_lt : a.shortCount < 2 ^ 16 := by
  unfold shortCount
  split <;> decide

include h fits in
theorem directory_found : directory a.bytes a.bytes.length limits = .ok a.found := by
  have small := length_bytes_lt fits
  have whole := length_bytes (a := a)
  have enough := directoryEnd_ge (a := a)
  have before := length_beforeEnd (a := a)
  generalize tailSize : min a.bytes.length (22 + 65_535) = tailLength at *
  have tailFits : 22 ≤ tailLength ∧ tailLength ≤ a.bytes.length ∧ tailLength < 2 ^ 63 := by
    omega
  have inside : a.bytes.length - tailLength + tailLength ≤ a.bytes.length := by omega
  have length := length_slice inside
  have read : readBytes a.bytes (a.bytes.length - tailLength) tailLength =
      .ok (slice a.bytes (a.bytes.length - tailLength) tailLength) := by
    refine (ok_bind (guarded_ok.mpr ⟨tailFits.2.2, rfl⟩) _).trans ?_
    exact field_of inside
  -- The end record is the last 22 bytes of the tail.
  have last (offset width : Nat) (within : offset + width ≤ 22) :
      slice (slice a.bytes (a.bytes.length - tailLength) tailLength) (tailLength - 22 + offset)
        width = slice a.endFields offset width := by
    rw [slice_slice _ (by omega)]
    exact slice_behind a.beforeEnd a.endFields offset (by omega)
  generalize tail : slice a.bytes (a.bytes.length - tailLength) tailLength = bytes at *
  have comment : u16At bytes (tailLength - 22 + 20) = .ok (.ofNat 0) :=
    u16At_of (by omega) ((last 20 2 (by decide)).trans rfl) (by decide)
  have here : isEnd bytes (tailLength - 22) = .ok true := by
    have signature : (part bytes (tailLength - 22) (tailLength - 22 + 4) :
        Extraction (List UInt8)) = .ok endSignature := by
      refine guarded_ok.mpr ⟨⟨by omega, by omega⟩, ?_⟩
      rw [Nat.add_sub_cancel_left]
      exact (last 0 4 (by decide)).symm
    unfold isEnd
    rw [ok_bind (sum_of (by simp; omega))]
    simp only [List.sum_cons, List.sum_nil, Nat.add_zero]
    rw [ok_bind signature, if_neg (by simp), ok_bind (sum_of (by simp; omega))]
    simp only [List.sum_cons, List.sum_nil, Nat.add_zero]
    rw [comment]
    dsimp only
    rw [ok_bind (sum_of (by simp; omega))]
    have whole : [tailLength - 22, 22, (UInt16.ofNat 0).toNat].sum = bytes.length := by
      simp
      omega
    rw [whole, beq_self_eq_true]
  have eocd : (part bytes (tailLength - 22) tailLength : Extraction (List UInt8)) =
      .ok a.endFields := by
    refine guarded_ok.mpr ⟨⟨by omega, by omega⟩, ?_⟩
    rw [show tailLength - (tailLength - 22) = 22 by omega]
    exact (last 0 22 (by decide)).symm
  have located : locate a.bytes a.beforeEnd.length a.shortDirectory =
      .ok (a.found, a.directoryEnd) := by
    cases zip64 : a.zip64 with
    | none => exact locate_plain h zip64
    | some z => exact locate_zip64 fits zip64
  have shortOffset : (UInt32.ofNat a.directoryOffset.short).toNat = a.directoryOffset.short :=
    UInt32.toNat_ofNat_of_lt' (short_lt h.directoryOffsetFits)
  have shortSize : (UInt32.ofNat a.directorySize.short).toNat = a.directorySize.short :=
    UInt32.toNat_ofNat_of_lt' (short_lt h.directorySizeFits)
  have shortCount : (UInt16.ofNat a.shortCount).toNat = a.shortCount :=
    UInt16.toNat_ofNat_of_lt' shortCount_lt
  unfold directory
  rw [ok_bind (failIf_of (by omega)), tailSize, ok_bind (difference_of (by omega)), ok_bind read,
    length, ok_bind (difference_of (by omega)), ok_bind (findEnd_here here), ok_bind eocd,
    ok_bind (u16At_of (x := 0) (by simp) rfl (by decide)),
    ok_bind (u16At_of (x := 0) (by simp) rfl (by decide)),
    ok_bind (u16At_of (by simp) rfl shortCount_lt), ok_bind (u16At_of (by simp) rfl shortCount_lt),
    ok_bind (failIf_of (by simp)), ok_bind (sum_of (by simp; omega)),
    ok_bind (u32At_of (by simp) rfl (short_lt h.directoryOffsetFits)),
    ok_bind (u32At_of (by simp) rfl (short_lt h.directorySizeFits)), shortOffset, shortSize,
    shortCount]
  have endOffset : [a.bytes.length - tailLength, tailLength - 22].sum = a.beforeEnd.length := by
    simp
    omega
  change (locate a.bytes [a.bytes.length - tailLength, tailLength - 22].sum a.shortDirectory >>= _)
    = _
  rw [endOffset, ok_bind located]
  have one : a.found.count = 1 := rfl
  have some : a.found.count ≤ limits.entries.toNat := by
    have nonzero := fits.nonzero.2.2.1
    rw [Ne, ← UInt64.toNat_inj] at nonzero
    exact Nat.one_le_iff_ne_zero.mpr nonzero
  have total : checkedSum [a.found.offset, a.found.size] = .some a.directoryEnd := by
    refine checkedSum_some.mpr ⟨?_, rfl⟩
    change a.body.length + (a.centralRecord.length + 0) < 2 ^ 64
    rw [directoryEnd] at before
    omega
  have filename := fits.filename
  have perEntry : [46, limits.filenameBytes.toNat, 2 * 65_535].sum =
      limits.filenameBytes.toNat + (46 + 2 * 65_535) := by
    simp only [List.sum_cons, List.sum_nil]
    omega
  dsimp only
  rw [ok_bind (failIf_of (Nat.not_lt.mpr some)), ok_bind (failIf_of (by simp [total])),
    ok_bind (sumOr_of (by rw [perEntry]; exact filename)), perEntry, one,
    ok_bind (productOr_one filename), ok_bind (failIf_of _)]
  change ¬a.centralRecord.length > _
  have name := fits.name
  have extra := h.extras.short
  have comment := h.comment
  rw [length_centralRecord]
  omega

end directory

end StoredArchive

end MannyUploader.Evtc.ZevtcArchive
