import MannyUploader.Application.LogIngestion
import MannyUploader.Foundation.Attempts

/-! The `.zevtc` archive: a ZIP file with one log in it. The file is its bytes, memory is enough
for what the limits admit, and inflating and CRC-32 are given functions. -/
namespace MannyUploader.Evtc.ZevtcArchive
open Application Domain Foundation

def chunk : Nat := 64 * 1024

structure ArchiveLimits where
  archiveBytes : UInt64
  uncompressedBytes : UInt64
  entries : UInt64
  filenameBytes : UInt64
  compressionRatio : UInt32
deriving DecidableEq, Repr

namespace ArchiveLimits

/-- `ArchiveLimits::default`. -/
def standard : ArchiveLimits where
  archiveBytes := 256 * 1024 * 1024
  uncompressedBytes := 768 * 1024 * 1024
  entries := 16
  filenameBytes := 1024
  compressionRatio := 200

def Nonzero (limits : ArchiveLimits) : Prop :=
  limits.archiveBytes ≠ 0 ∧ limits.uncompressedBytes ≠ 0 ∧ limits.entries ≠ 0 ∧
    limits.filenameBytes ≠ 0 ∧ limits.compressionRatio ≠ 0

instance : DecidablePred Nonzero := fun limits => by unfold Nonzero; exact inferInstance

end ArchiveLimits

structure ZevtcArchiveReader where
  limits : ArchiveLimits
  nonzero : limits.Nonzero

/-- `ZevtcArchiveReader::new`. -/
def ZevtcArchiveReader.new (limits : ArchiveLimits) : Except MetadataError ZevtcArchiveReader :=
  if nonzero : limits.Nonzero then .ok ⟨limits, nonzero⟩ else .error .resourceLimit

/-- What successive reads into a buffer bring: bytes, or a failure. A read of nothing is the
end. -/
structure Reads where
  read : Nat → Option (List UInt8)
  within : ∀ index bytes, read index = some bytes → bytes.length ≤ chunk

/-- The reads of stored data. -/
def stored (data : List UInt8) : Reads where
  read index := some ((data.drop (index * chunk)).take chunk)
  within := by
    rintro index bytes ⟨⟩
    exact List.length_take_le _ _

/-- The given functions: what inflating the data brings, how much of it has been taken in when
that is at its end, and the checksum. -/
structure Codecs where
  inflate : List UInt8 → Reads
  totalIn : List UInt8 → Nat
  crc32 : List UInt8 → UInt32

/-- An extraction in progress. -/
abbrev Extraction (α : Type) := Attempt MetadataError α

def invalid : MetadataError := .invalidArchive
def limit : MetadataError := .resourceLimit

/-- The answer of the stop token to one check. -/
def checkStop (stop : Nat → Bool) (check : Nat) : Extraction Unit :=
  failIf .cancelled (stop check = true)

def field (bytes : List UInt8) (offset width : Nat) : Extraction (List UInt8) :=
  partOr invalid bytes offset (offset + width)

def u16At (bytes : List UInt8) (offset : Nat) : Extraction UInt16 := do
  let found ← field bytes offset 2
  .ok (.ofNat (ofLittle found))

def u32At (bytes : List UInt8) (offset : Nat) : Extraction UInt32 := do
  let found ← field bytes offset 4
  .ok (.ofNat (ofLittle found))

def u64At (bytes : List UInt8) (offset : Nat) : Extraction UInt64 := do
  let found ← field bytes offset 8
  .ok (.ofNat (ofLittle found))

/-- A seek behind the end succeeds, and the read after it fails. -/
def readAt (content : List UInt8) (offset width : Nat) : Extraction (List UInt8) :=
  partOr invalid content offset (offset + width)

def readBytes (content : List UInt8) (offset size : Nat) : Extraction (List UInt8) := do
  reserveOr limit size
  readAt content offset size

/-! The end of the archive. -/

structure Directory where
  offset : Nat
  size : Nat
  count : Nat
deriving DecidableEq, Repr

def endSignature : List UInt8 := [80, 75, 5, 6]
def locatorSignature : List UInt8 := [80, 75, 6, 7]
def zip64Signature : List UInt8 := [80, 75, 6, 6]
def centralSignature : List UInt8 := [80, 75, 1, 2]
def localSignature : List UInt8 := [80, 75, 3, 4]

/-- An end record is one whose comment takes the rest of the file. -/
def isEnd (tail : List UInt8) (offset : Nat) : Extraction Bool := do
  let signatureEnd ← sum [offset, 4]
  let signature ← part tail offset signatureEnd
  if signature ≠ endSignature then .ok false
  else do
    let length ← sum [offset, 20]
    match u16At tail length with
    | .error _ => .ok false
    | .ok comment => do
      let stop ← sum [offset, 22, comment.toNat]
      .ok (stop == tail.length)

/-- The search goes backwards from an offset. -/
def findEnd (tail : List UInt8) : (offset : Nat) → Extraction Nat
  | 0 => do
    let found ← isEnd tail 0
    if found then .ok 0 else .error (.failed invalid)
  | offset + 1 => do
    let found ← isEnd tail (offset + 1)
    if found then .ok (offset + 1) else findEnd tail offset

/-- The locator in front of the end record, where there is one. -/
def zip64Locator (content : List UInt8) (endOffset : Nat) : Extraction (Option (List UInt8)) :=
  if endOffset ≥ 20 then do
    let offset ← difference endOffset 20
    let locator ← readAt content offset 20
    .ok (if locator.take 4 = locatorSignature then some locator else none)
  else .ok none

/-- A short field of the end record repeats the long one, or says that it is there. -/
def disagrees (short long sentinel : Nat) : Bool := short != sentinel && short != long

/-- The directory as the ZIP64 record has it, and where it ends. -/
def extendedDirectory (content : List UInt8) (endOffset : Nat) (short : Directory)
    (locator : List UInt8) : Extraction (Directory × Nat) := do
  let disk ← u32At locator 4
  let disks ← u32At locator 16
  failIf invalid (disk ≠ 0 ∨ disks ≠ 1)
  let offset ← u64At locator 8
  let record ← readAt content offset.toNat 56
  let recordSize ← u64At record 4
  let locatorOffset ← difference endOffset 20
  let disk ← u32At record 16
  let directoryDisk ← u32At record 20
  let here ← u64At record 24
  let count ← u64At record 32
  failIf invalid (record.take 4 ≠ zip64Signature ∨ recordSize < 44 ∨
    checkedSum [offset.toNat, 12, recordSize.toNat] ≠ some locatorOffset ∨
    disk ≠ 0 ∨ directoryDisk ≠ 0 ∨ here ≠ count)
  let directoryOffset ← u64At record 48
  let directorySize ← u64At record 40
  failIf invalid (disagrees short.offset directoryOffset.toNat 0xFFFFFFFF ∨
    disagrees short.size directorySize.toNat 0xFFFFFFFF ∨
    disagrees short.count count.toNat 0xFFFF)
  .ok (⟨directoryOffset.toNat, directorySize.toNat, count.toNat⟩, offset.toNat)

/-- Where the directory is, and where it has to end. -/
def locate (content : List UInt8) (endOffset : Nat) (short : Directory) :
    Extraction (Directory × Nat) := do
  let locator ← zip64Locator content endOffset
  match locator with
  | some locator => extendedDirectory content endOffset short locator
  | none => do
    failIf invalid (short.offset = 0xFFFFFFFF ∨ short.size = 0xFFFFFFFF ∨ short.count = 0xFFFF)
    .ok (short, endOffset)

def directory (content : List UInt8) (size : Nat) (limits : ArchiveLimits) :
    Extraction Directory := do
  failIf invalid (size < 22)
  let tailSize := min size (22 + 65_535)
  let tailOffset ← difference size tailSize
  let tail ← readBytes content tailOffset tailSize
  let last ← difference tail.length 22
  let found ← findEnd tail last
  let eocd ← part tail found tail.length
  let disk ← u16At eocd 4
  let directoryDisk ← u16At eocd 6
  let here ← u16At eocd 8
  let count ← u16At eocd 10
  failIf invalid (disk ≠ 0 ∨ directoryDisk ≠ 0 ∨ here ≠ count)
  let endOffset ← sum [tailOffset, found]
  let offset ← u32At eocd 16
  let directorySize ← u32At eocd 12
  let (result, directoryEnd) ←
    locate content endOffset ⟨offset.toNat, directorySize.toNat, count.toNat⟩
  failIf limit (result.count > limits.entries.toNat)
  failIf invalid (checkedSum [result.offset, result.size] ≠ some directoryEnd)
  -- Every entry has bounded fixed fields, filename, extra data, and comment.
  let perEntry ← sumOr limit [46, limits.filenameBytes.toNat, 2 * 65_535]
  let most ← productOr limit result.count perEntry
  failIf limit (result.size > most)
  .ok result

/-! The central directory. -/

structure Entry where
  name : List UInt8
  flags : UInt16
  method : UInt16
  crc : UInt32
  compressed : Nat
  uncompressed : Nat
  offset : Nat
  zip64Sizes : Bool
deriving DecidableEq, Repr

/-- The tag and the value of an extra field, and what is left behind it. -/
def extraField (rest : List UInt8) : Extraction (UInt16 × List UInt8 × List UInt8) := do
  let tag ← u16At rest 0
  let length ← u16At rest 2
  let stop ← sum [4, length.toNat]
  let value ← partOr invalid rest 4 stop
  let behind ← part rest stop rest.length
  .ok (tag, value, behind)

theorem extraField_lt {rest value behind : List UInt8} {tag : UInt16}
    (h : extraField rest = .ok (tag, value, behind)) : behind.length < rest.length := by
  obtain ⟨_, -, h⟩ := bind_ok h
  obtain ⟨length, -, h⟩ := bind_ok h
  obtain ⟨stop, total, h⟩ := bind_ok h
  obtain ⟨_, -, h⟩ := bind_ok h
  obtain ⟨_, left, h⟩ := bind_ok h
  obtain ⟨-, rfl⟩ := guarded_ok.mp total
  obtain ⟨⟨inside, -⟩, rfl⟩ := guarded_ok.mp left
  cases h
  simp only [List.sum_cons, List.sum_nil] at inside ⊢
  rw [length_slice (by omega)]
  omega

/-- The one field with tag 1, where there is one. -/
def zip64Extra (found : Option (List UInt8)) (rest : List UInt8) :
    Extraction (Option (List UInt8)) :=
  if rest = [] then .ok found
  else match _next : extraField rest with
    | .error fault => .error fault
    | .ok (tag, value, behind) =>
      if tag = 1 then
        if found.isSome then .error (.failed invalid) else zip64Extra (some value) behind
      else zip64Extra found behind
termination_by rest.length
decreasing_by all_goals exact extraField_lt _next

@[simp] theorem zip64Extra_nil (found : Option (List UInt8)) : zip64Extra found [] = .ok found := by
  simp [zip64Extra]

/-- One round of the loop. -/
theorem zip64Extra_next (found : Option (List UInt8)) {rest : List UInt8} (more : rest ≠ []) :
    zip64Extra found rest = (do
      let (tag, value, behind) ← extraField rest
      if tag = 1 then
        if found.isSome then .error (.failed invalid) else zip64Extra (some value) behind
      else zip64Extra found behind) := by
  rw [zip64Extra, if_neg more]
  cases extraField rest with
  | error fault => rfl
  | ok next => rfl

/-- A field of 32 bits is itself, or the next 64 bits of the extra data. -/
def extended (value : UInt32) (extra : List UInt8) : Extraction (Nat × List UInt8) :=
  if value ≠ 0xFFFFFFFF then .ok (value.toNat, extra)
  else do
    let long ← u64At extra 0
    let behind ← part extra 8 extra.length
    .ok (long.toNat, behind)

def isEvtc (name : List UInt8) : Bool :=
  name.length ≥ 5 && (name.drop (name.length - 5)).map Path.asciiLowercase == utf8 ".evtc"

/-- What stands behind the last separator. -/
def leaf (name : List UInt8) : List UInt8 :=
  (name.reverse.takeWhile fun byte => byte != 47 && byte != 92).reverse

def isExtensionless (name : List UInt8) : Bool := !(leaf name).isEmpty && !(leaf name).contains 46

/-- What the loop reads of a central header before it looks at the name. -/
structure Central where
  name : List UInt8
  compressed : Nat
  uncompressed : Nat
  offset : Nat
  isDirectory : Bool
  length : Nat
deriving DecidableEq, Repr

def central (limits : ArchiveLimits) (bytes : List UInt8) : Extraction Central := do
  let signature ← field bytes 0 4
  failIf invalid (signature ≠ centralSignature)
  let nameLength ← u16At bytes 28
  let extraLength ← u16At bytes 30
  let commentLength ← u16At bytes 32
  failIf limit (nameLength.toNat > limits.filenameBytes.toNat)
  let nameEnd ← sum [46, nameLength.toNat]
  let name ← partOr invalid bytes 46 nameEnd
  let extraEnd ← sum [46, nameLength.toNat, extraLength.toNat]
  let extra ← partOr invalid bytes nameEnd extraEnd
  let zip64 ← zip64Extra none extra
  let shortUncompressed ← u32At bytes 24
  let (uncompressed, zip64) ← extended shortUncompressed (zip64.getD [])
  let shortCompressed ← u32At bytes 20
  let (compressed, zip64) ← extended shortCompressed zip64
  let shortOffset ← u32At bytes 42
  let (offset, zip64) ← extended shortOffset zip64
  let disk ← u16At bytes 34
  let elsewhere ← onOtherDisk disk zip64
  failIf invalid (elsewhere = true)
  let attributes ← u32At bytes 38
  let length ← sum [46, nameLength.toNat, extraLength.toNat, commentLength.toNat]
  .ok { name, compressed, uncompressed, offset, length
        isDirectory := utf8 "/" <:+ name || attributes &&& 0x10 != 0 }
where
  /-- The disk may be in the extra data too. -/
  onOtherDisk (disk : UInt16) (zip64 : List UInt8) : Extraction Bool :=
    if disk = 0xFFFF then do
      let disk ← u32At zip64 0
      .ok (disk != 0)
    else .ok (disk != 0)

/-- The entry of a central header. -/
def entry (bytes : List UInt8) (central : Central) : Extraction Entry := do
  let flags ← u16At bytes 8
  let method ← u16At bytes 10
  let crc ← u32At bytes 16
  let shortUncompressed ← u32At bytes 24
  let shortCompressed ← u32At bytes 20
  .ok { name := central.name, flags, method, crc, compressed := central.compressed
        uncompressed := central.uncompressed, offset := central.offset
        zip64Sizes := shortUncompressed == 0xFFFFFFFF || shortCompressed == 0xFFFFFFFF }

structure Selection where
  selected : Option Entry
  fallback : Option Entry
  files : Nat
deriving DecidableEq, Repr

def consider (bytes : List UInt8) (central : Central) (selection : Selection) :
    Extraction Selection :=
  if central.isDirectory then .ok selection
  else do
    let files ← count32 selection.files
    if isEvtc central.name then do
      let entry ← entry bytes central
      failIf invalid (selection.selected.isSome = true)
      .ok { selection with files, selected := some entry }
    else if isExtensionless central.name then do
      let entry ← entry bytes central
      .ok { selection with files, fallback := some entry }
    else .ok { selection with files }

def considerAll (stop : Nat → Bool) (limits : ArchiveLimits) : (check count : Nat) →
    List UInt8 → Selection → Extraction Selection
  | _, 0, bytes, selection => do
    failIf invalid (bytes ≠ [])
    .ok selection
  | check, count + 1, bytes, selection => do
    checkStop stop check
    let central ← central limits bytes
    let selection ← consider bytes central selection
    let behind ← partOr invalid bytes central.length bytes.length
    considerAll stop limits (check + 1) count behind selection

def selectEntry (stop : Nat → Bool) (limits : ArchiveLimits) (check count : Nat)
    (bytes : List UInt8) : Extraction Entry := do
  let selection ← considerAll stop limits check count bytes ⟨none, none, 0⟩
  match selection.selected.or (if selection.files = 1 then selection.fallback else none) with
  | some entry => .ok entry
  | none => .error (.failed invalid)

/-! The entry. -/

/-- With a descriptor behind the data, the header in front of it may leave a value out. -/
def agrees (entry : Entry) (crc : UInt32) (compressed uncompressed : Nat) : Bool :=
  if entry.flags &&& 8 = 0 then
    crc == entry.crc && compressed == entry.compressed && uncompressed == entry.uncompressed
  else (crc == 0 || crc == entry.crc) && (compressed == 0 || compressed == entry.compressed) &&
    (uncompressed == 0 || uncompressed == entry.uncompressed)

/-- Where the data begins, and the entry with what the local header says of its sizes. -/
def validateLocal (content : List UInt8) (entry : Entry) (directoryStart : Nat) :
    Extraction (Nat × Entry) := do
  let header ← readAt content entry.offset 30
  let flags ← u16At header 6
  let method ← u16At header 8
  failIf invalid (header.take 4 ≠ localSignature ∨ flags ≠ entry.flags ∨ method ≠ entry.method)
  let nameLength ← u16At header 26
  let extraLength ← u16At header 28
  failIf invalid (nameLength.toNat ≠ entry.name.length)
  let variableStart ← sumOr invalid [entry.offset, 30]
  let variableLength ← sum [nameLength.toNat, extraLength.toNat]
  let dataStart ← sumOr invalid [variableStart, variableLength]
  failIf invalid (dataStart > directoryStart)
  let names ← readBytes content variableStart variableLength
  let name ← part names 0 nameLength.toNat
  failIf invalid (name ≠ entry.name)
  let extra ← part names nameLength.toNat names.length
  let zip64 ← zip64Extra none extra
  let shortUncompressed ← u32At header 22
  let shortCompressed ← u32At header 18
  let zip64Sizes := entry.zip64Sizes || shortUncompressed == 0xFFFFFFFF ||
    shortCompressed == 0xFFFFFFFF
  let (uncompressed, zip64) ← extended shortUncompressed (zip64.getD [])
  let (compressed, _) ← extended shortCompressed zip64
  let crc ← u32At header 14
  failIf invalid (agrees entry crc compressed uncompressed = false)
  .ok (dataStart, { entry with zip64Sizes })

def descriptorSignature : UInt32 := 0x08074b50

/-- Whether a descriptor that begins at the offset is there and is that of the entry. -/
def describes (entry : Entry) (width : Nat) (bytes : List UInt8) (start : Nat) :
    Extraction Bool :=
  match (partOr invalid bytes start (start + width) : Extraction (List UInt8)) with
  | .error _ => .ok false
  | .ok descriptor => do
    let crc ← u32At descriptor 0
    if entry.zip64Sizes then do
      let compressed ← u64At descriptor 4
      let uncompressed ← u64At descriptor 12
      .ok (crc == entry.crc && compressed.toNat == entry.compressed &&
        uncompressed.toNat == entry.uncompressed)
    else do
      let compressed ← u32At descriptor 4
      let uncompressed ← u32At descriptor 8
      .ok (crc == entry.crc && compressed.toNat == entry.compressed &&
        uncompressed.toNat == entry.uncompressed)

def validateDescriptor (content : List UInt8) (offset bound : Nat) (entry : Entry) :
    Extraction Unit := do
  let width := if entry.zip64Sizes then 20 else 12
  let available ← differenceOr invalid bound offset
  failIf invalid (available < width)
  let bytes ← readBytes content offset (min available (width + 4))
  let unsigned ← describes entry width bytes 0
  if unsigned then .ok ()
  else do
    let signature ← u32At bytes 0
    failIf invalid (signature ≠ descriptorSignature)
    let signed ← describes entry width bytes 4
    failIf invalid (signed = false)

/-- The output, and the number of the next check of the stop token. -/
def readPayload (stop : Nat → Bool) (reads : Reads) (expected check index : Nat)
    (output : List UInt8) : Extraction (List UInt8 × Nat) :=
  if stop (check + index) then .error (.failed .cancelled)
  else match reads.read index with
    | none => .error (.failed invalid)
    | some bytes =>
      if _empty : bytes = [] then .ok (output, check + index + 1)
      else if output.length + bytes.length ≥ 2 ^ 64 then .error .panicked
      else if _within : output.length + bytes.length > expected then .error (.failed invalid)
      else readPayload stop reads expected check (index + 1) (output ++ bytes)
termination_by expected - output.length
decreasing_by
  have some := List.length_pos_iff.mpr _empty
  rw [List.length_append]
  omega

/-- The data as its method has it. -/
def unpack (codecs : Codecs) (stop : Nat → Bool) (check : Nat) (entry : Entry)
    (data : List UInt8) : Extraction (List UInt8 × Nat) :=
  if entry.method = 0 then do
    failIf invalid (entry.compressed ≠ entry.uncompressed)
    readPayload stop (stored data) entry.uncompressed check 0 []
  else if entry.method = 8 then do
    let (output, check) ← readPayload stop (codecs.inflate data) entry.uncompressed check 0 []
    failIf invalid (codecs.totalIn data ≠ entry.compressed)
    .ok (output, check)
  else .error (.failed invalid)

/-- `content` is what the reader holds, and `size` what discovery said of it. -/
def extractFrom (codecs : Codecs) (limits : ArchiveLimits) (content : List UInt8) (size : UInt64)
    (stop : Nat → Bool) : Extraction (List UInt8) := do
  checkStop stop 0
  failIf limit (size > limits.archiveBytes)
  failIf invalid (content.length ≠ size.toNat)
  let directory ← directory content size.toNat limits
  checkStop stop 1
  let bytes ← readBytes content directory.offset directory.size
  let entry ← selectEntry stop limits 2 directory.count bytes
  failIf invalid (entry.flags &&& ~~~0x080e ≠ 0 ∨ (entry.method ≠ 0 ∧ entry.method ≠ 8) ∨
    entry.uncompressed = 0)
  failIf limit (entry.uncompressed > limits.uncompressedBytes.toNat ∨
    entry.uncompressed > entry.compressed * limits.compressionRatio.toNat)
  let (dataStart, entry) ← validateLocal content entry directory.offset
  let dataEnd ← sumOr invalid [dataStart, entry.compressed]
  failIf invalid (dataEnd > directory.offset)
  descriptorOf content dataEnd directory.offset entry
  reserveOr limit entry.uncompressed
  let (output, check) ← unpack codecs stop (2 + directory.count) entry
    (slice content dataStart entry.compressed)
  failIf invalid (output.length ≠ entry.uncompressed ∨ codecs.crc32 output ≠ entry.crc)
  checkStop stop check
  .ok output
where
  descriptorOf (content : List UInt8) (offset bound : Nat) (entry : Entry) : Extraction Unit :=
    if entry.flags &&& 8 ≠ 0 then validateDescriptor content offset bound entry else .ok ()

end MannyUploader.Evtc.ZevtcArchive
