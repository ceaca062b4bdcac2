import MannyUploader.Evtc.ZevtcArchive

/-! Archives of one stored file as the format has them: with numbers of 32 or 64 bits, with or
without a descriptor behind the data, and with what every reader skips. -/
namespace MannyUploader.Evtc.ZevtcArchive
open Domain Foundation

structure ExtraField where
  tag : UInt16
  value : List UInt8
  short : value.length < 2 ^ 16

def ExtraField.bytes (field : ExtraField) : List UInt8 :=
  toLittle 2 field.tag.toNat ++ (toLittle 2 field.value.length ++ field.value)

def extraBytes (fields : List ExtraField) : List UInt8 := (fields.map ExtraField.bytes).flatten

def ExtraField.isZip64 (field : ExtraField) : Bool := field.tag == 1

def zip64Value (fields : List ExtraField) : Option (List UInt8) :=
  (fields.find? ExtraField.isZip64).map (·.value)

/-- A number that a header has in 32 bits, or in its ZIP64 field. -/
structure HeaderNumber where
  value : Nat
  long : Bool
deriving DecidableEq

namespace HeaderNumber

structure Fits (number : HeaderNumber) : Prop where
  long : number.value < 2 ^ 64
  short : number.long = false → number.value < 0xFFFFFFFF

def short (number : HeaderNumber) : Nat := if number.long then 0xFFFFFFFF else number.value

def extra (number : HeaderNumber) : List UInt8 :=
  if number.long then toLittle 8 number.value else []

end HeaderNumber

/-- What a local header says of its own. -/
structure LocalHeader where
  version : UInt16
  modified : UInt32
  crc : UInt32
  compressed : HeaderNumber
  uncompressed : HeaderNumber
  extras : List ExtraField

/-- What a central header says of its own. -/
structure CentralHeader where
  versions : UInt32
  modified : UInt32
  longCompressed : Bool
  longUncompressed : Bool
  longOffset : Bool
  longDisk : Bool
  extras : List ExtraField
  comment : List UInt8
  internal : UInt16
  external : UInt32

/-- The ZIP64 end record, and which fields of the end record leave their number to it. -/
structure Zip64End where
  versions : UInt32
  sector : List UInt8
  longOffset : Bool
  longSize : Bool
  longCount : Bool

structure StoredArchive where
  stub : List UInt8
  name : List UInt8
  payload : List UInt8
  flags : UInt16
  crc : UInt32
  front : LocalHeader
  signed : Bool
  listing : CentralHeader
  zip64 : Option Zip64End

namespace StoredArchive
variable (a : StoredArchive)

def size : Nat := a.payload.length
def offset : HeaderNumber := ⟨a.stub.length, a.listing.longOffset⟩
def compressed : HeaderNumber := ⟨a.size, a.listing.longCompressed⟩
def uncompressed : HeaderNumber := ⟨a.size, a.listing.longUncompressed⟩

def localFields : List UInt8 :=
  localSignature ++ (toLittle 2 a.front.version.toNat ++ (toLittle 2 a.flags.toNat ++
    (toLittle 2 0 ++ (toLittle 4 a.front.modified.toNat ++ (toLittle 4 a.front.crc.toNat ++
    (toLittle 4 a.front.compressed.short ++ (toLittle 4 a.front.uncompressed.short ++
    (toLittle 2 a.name.length ++ toLittle 2 (extraBytes a.front.extras).length))))))))

def localRecord : List UInt8 := a.localFields ++ (a.name ++ extraBytes a.front.extras)

def hasDescriptor : Bool := a.flags &&& 8 != 0

/-- The sizes of the descriptor are as wide as those of the headers. -/
def wide : Bool :=
  a.listing.longUncompressed || a.listing.longCompressed || a.front.uncompressed.long ||
    a.front.compressed.long

def descriptorFields : List UInt8 :=
  toLittle 4 a.crc.toNat ++
    if a.wide then toLittle 8 a.size ++ toLittle 8 a.size else toLittle 4 a.size ++ toLittle 4 a.size

def descriptor : List UInt8 :=
  if a.hasDescriptor then
    (if a.signed then toLittle 4 descriptorSignature.toNat else []) ++ a.descriptorFields
  else []

def centralFields : List UInt8 :=
  centralSignature ++ (toLittle 4 a.listing.versions.toNat ++ (toLittle 2 a.flags.toNat ++
    (toLittle 2 0 ++ (toLittle 4 a.listing.modified.toNat ++ (toLittle 4 a.crc.toNat ++
    (toLittle 4 a.compressed.short ++ (toLittle 4 a.uncompressed.short ++
    (toLittle 2 a.name.length ++ (toLittle 2 (extraBytes a.listing.extras).length ++
    (toLittle 2 a.listing.comment.length ++ (toLittle 2 (if a.listing.longDisk then 0xFFFF else 0) ++
    (toLittle 2 a.listing.internal.toNat ++ (toLittle 4 a.listing.external.toNat ++
    toLittle 4 a.offset.short)))))))))))))

def centralRecord : List UInt8 :=
  a.centralFields ++ (a.name ++ (extraBytes a.listing.extras ++ a.listing.comment))

/-- Everything in front of the directory. -/
def body : List UInt8 := a.stub ++ (a.localRecord ++ (a.payload ++ a.descriptor))

def longIn (field : Zip64End → Bool) : Bool := (a.zip64.map field).getD false

def directoryOffset : HeaderNumber := ⟨a.body.length, a.longIn Zip64End.longOffset⟩
def directorySize : HeaderNumber := ⟨a.centralRecord.length, a.longIn Zip64End.longSize⟩
def directoryEnd : Nat := a.body.length + a.centralRecord.length

def zip64Fields (z : Zip64End) : List UInt8 :=
  zip64Signature ++ (toLittle 8 (44 + z.sector.length) ++ (toLittle 4 z.versions.toNat ++
    (toLittle 4 0 ++ (toLittle 4 0 ++ (toLittle 8 1 ++ (toLittle 8 1 ++
    (toLittle 8 a.centralRecord.length ++ toLittle 8 a.body.length)))))))

def locatorFields : List UInt8 :=
  locatorSignature ++ (toLittle 4 0 ++ (toLittle 8 a.directoryEnd ++ toLittle 4 1))

/-- The ZIP64 end record and its locator, where there are such. -/
def zip64Records : List UInt8 :=
  match a.zip64 with
  | some z => a.zip64Fields z ++ (z.sector ++ a.locatorFields)
  | none => []

def shortCount : Nat := if a.longIn Zip64End.longCount then 0xFFFF else 1

def endFields : List UInt8 :=
  endSignature ++ (toLittle 2 0 ++ (toLittle 2 0 ++ (toLittle 2 a.shortCount ++
    (toLittle 2 a.shortCount ++ (toLittle 4 a.directorySize.short ++
    (toLittle 4 a.directoryOffset.short ++ toLittle 2 0))))))

/-- Everything in front of the end record. -/
def beforeEnd : List UInt8 := a.body ++ (a.centralRecord ++ a.zip64Records)

def bytes : List UInt8 := a.beforeEnd ++ a.endFields

/-- Extra data of a length that fits, with one ZIP64 field at most and in it what the header
leaves out. -/
structure Extras (fields : List ExtraField) (needed : List UInt8) : Prop where
  short : (extraBytes fields).length < 2 ^ 16
  single : (fields.filter ExtraField.isZip64).length ≤ 1
  zip64 : needed <+: (zip64Value fields).getD []

/-- With a descriptor, the local header may leave a number out. -/
def Announced (number actual : Nat) : Prop :=
  number = actual ∨ a.hasDescriptor = true ∧ number = 0

structure WellFormed (crc32 : List UInt8 → UInt32) : Prop where
  checksum : a.crc = crc32 a.payload
  flags : a.flags &&& ~~~0x080e = 0
  name : a.name.length < 2 ^ 16
  kind : isEvtc a.name = true ∨ isExtensionless a.name = true
  file : ¬utf8 "/" <:+ a.name
  attributes : a.listing.external &&& 0x10 = 0
  comment : a.listing.comment.length < 2 ^ 16
  localExtras : Extras a.front.extras (a.front.uncompressed.extra ++ a.front.compressed.extra)
  localCrc : a.Announced a.front.crc.toNat a.crc.toNat
  localCompressed : a.Announced a.front.compressed.value a.size
  localUncompressed : a.Announced a.front.uncompressed.value a.size
  localCompressedFits : a.front.compressed.Fits
  localUncompressedFits : a.front.uncompressed.Fits
  extras : Extras a.listing.extras (a.uncompressed.extra ++ (a.compressed.extra ++
    (a.offset.extra ++ if a.listing.longDisk then toLittle 4 0 else [])))
  compressedFits : a.compressed.Fits
  uncompressedFits : a.uncompressed.Fits
  offsetFits : a.offset.Fits
  directoryOffsetFits : a.directoryOffset.Fits
  directorySizeFits : a.directorySize.Fits
  locator : a.zip64 = none → slice a.bytes (a.beforeEnd.length - 20) 4 ≠ locatorSignature

end StoredArchive

/-- The limits admit the archive. A limit of the filename that no sum of 64 bits can hold refuses
every archive, and a payload is in memory. -/
structure ArchiveLimits.Admits (limits : ArchiveLimits) (a : StoredArchive) : Prop where
  nonzero : limits.Nonzero
  filename : limits.filenameBytes.toNat + (46 + 2 * 65_535) < 2 ^ 64
  archive : a.bytes.length ≤ limits.archiveBytes.toNat
  uncompressed : a.size ≤ limits.uncompressedBytes.toNat
  name : a.name.length ≤ limits.filenameBytes.toNat
  memory : a.size < 2 ^ 63

end MannyUploader.Evtc.ZevtcArchive
