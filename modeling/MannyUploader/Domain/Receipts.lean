import Mathlib.Algebra.Ring.Nat

/-! What a log and its deliveries are known by: parsed metadata, the dps.report result
and the receipts of the other destinations, with their validity rules. -/
namespace MannyUploader.Domain

/-- The UTF-8 bytes of a string, as `str::bytes` yields them. -/
def utf8 (text : String) : List UInt8 := text.toByteArray.data.toList

theorem utf8_append (first second : String) : utf8 (first ++ second) = utf8 first ++ utf8 second := by
  simp [utf8, String.toByteArray_append]

theorem utf8_ofList (chars : List Char) :
    utf8 (String.ofList chars) = chars.flatMap String.utf8EncodeChar := by
  simp [utf8, List.utf8Encode]

/-- Characters below 128 are their bytes. -/
theorem utf8_of_ascii {bytes : List UInt8} (low : ∀ byte ∈ bytes, byte ≤ 0x7e) :
    utf8 (String.ofList (bytes.map fun byte => Char.ofNat byte.toNat)) = bytes := by
  rw [utf8_ofList]
  induction bytes with
  | nil => rfl
  | cons byte rest ih =>
    have small : byte.toNat ≤ 0x7e := UInt8.le_iff_toNat_le.mp (low byte List.mem_cons_self)
    have valid : byte.toNat.isValidChar := Or.inl (by omega)
    have value : (Char.ofNat byte.toNat).val.toNat = byte.toNat := by
      rw [Char.ofNat, dif_pos valid]
      rfl
    have size : (Char.ofNat byte.toNat).utf8Size = 1 :=
      if_pos (UInt32.le_iff_toNat_le.mpr (by rw [value]; exact Nat.le_trans small (by decide)))
    rw [List.map_cons, List.flatMap_cons, ih fun other member => low other (List.mem_cons_of_mem _ member),
      String.utf8EncodeChar_eq_singleton size, List.singleton_append]
    congr 1
    apply UInt8.toNat_inj.mp
    rw [UInt32.toNat_toUInt8, value, Nat.mod_eq_of_lt byte.toNat_lt]

theorem fromUTF8_utf8 (text : String) :
    String.fromUTF8? ⟨(utf8 text).toArray⟩ = some text := by
  have same : (⟨(utf8 text).toArray⟩ : ByteArray) = text.toByteArray := by
    simp [utf8]
  rw [same, String.fromUTF8?, dif_pos text.isValidUTF8]
  rfl

theorem utf8_of_fromUTF8 {text : String} {bytes : List UInt8}
    (h : String.fromUTF8? ⟨bytes.toArray⟩ = some text) : utf8 text = bytes := by
  unfold String.fromUTF8? at h
  split at h
  · cases h; rfl
  · cases h

structure EncounterMetadata where
  bossId : UInt16
  povAccount : String
  remainingHealthBasisPoints : Option UInt16
deriving DecidableEq, Repr

structure DpsReportResult where
  permalink : String
  encounterName : String
  bossId : UInt16
  mode : String
  success : Bool
deriving DecidableEq, Repr

structure WingmanUploadReceipt where
  permalink : String
deriving DecidableEq, Repr

inductive DonBotDiscordDeliveryOutcome
  | notRequested | sent | partially | skipped | failed | ambiguous
deriving DecidableEq, Repr

structure DonBotDiscordDeliveryReceipt where
  outcome : DonBotDiscordDeliveryOutcome
  sent : UInt16
  skipped : UInt16
  failed : UInt16
  ambiguous : UInt16
deriving DecidableEq, Repr

namespace DonBotDiscordDeliveryReceipt

def counts (receipt : DonBotDiscordDeliveryReceipt) : List UInt16 :=
  [receipt.sent, receipt.skipped, receipt.failed, receipt.ambiguous]

def isValidWithLimit (receipt : DonBotDiscordDeliveryReceipt) (maximum : UInt16) : Bool :=
  let total := (receipt.counts.map UInt16.toNat).sum
  let populated := receipt.counts.countP (· != 0)
  if total > maximum.toNat then false
  else match receipt.outcome with
    | .notRequested => total == 0
    | .sent => receipt.sent > 0 && populated == 1
    | .partially => populated ≥ 2
    | .skipped => receipt.skipped > 0 && populated == 1
    | .failed => receipt.failed > 0 && populated == 1
    | .ambiguous => receipt.ambiguous > 0 && populated == 1

def isValid (receipt : DonBotDiscordDeliveryReceipt) : Bool := receipt.isValidWithLimit 4

end DonBotDiscordDeliveryReceipt

structure DonBotUploadReceipt where
  uploadId : Option UInt64
  fightLogId : Option UInt64
  discordDelivery : DonBotDiscordDeliveryReceipt
  guildId : Option String
deriving DecidableEq, Repr

def isAsciiDigit (byte : UInt8) : Bool := 48 ≤ byte && byte ≤ 57

/-- The number a string of ASCII digits spells. -/
def decimalValue (digits : List UInt8) : Nat :=
  digits.foldl (fun value digit => 10 * value + (digit.toNat - 48)) 0

/-- `i64::MAX`. -/
def i64Max : Nat := 2 ^ 63 - 1

def canonicalDiscordId (value : String) : Bool :=
  let bytes := utf8 value
  !bytes.isEmpty && bytes.length ≤ 19 && bytes.head? != some 48 && bytes.all isAsciiDigit &&
    0 < decimalValue bytes && decimalValue bytes ≤ i64Max

def DonBotUploadReceipt.isValid (receipt : DonBotUploadReceipt) : Bool :=
  receipt.uploadId.all (· != 0) &&
    receipt.fightLogId.all (fun id => 0 < id && id.toNat ≤ i64Max) &&
    receipt.discordDelivery.isValid &&
    receipt.guildId.all canonicalDiscordId

inductive TwitchDeliveryStatus
  | sent | autoMod | blockedTerm | duplicate | rateLimited | followersOnly | slowMode
  | subscribersOnly | restricted | otherDrop
deriving DecidableEq, Repr

structure TwitchDeliveryReceipt where
  status : TwitchDeliveryStatus
  messageId : Option String
deriving DecidableEq, Repr

/-- A sent message has an identifier of 1 to 256 visible ASCII bytes, a dropped one has none. -/
def TwitchDeliveryReceipt.isValid (receipt : TwitchDeliveryReceipt) : Bool :=
  match receipt.status, receipt.messageId with
  | .sent, some id =>
    let bytes := utf8 id
    !bytes.isEmpty && bytes.length ≤ 256 && bytes.all (fun byte => 0x21 ≤ byte && byte ≤ 0x7e)
  | .sent, none => false
  | _, id => id.isNone

end MannyUploader.Domain
