import MannyUploader.Domain.Receipts

/-! What the providers share at the wire: the checks in front of the JSON reader, bounded
texts, and the permalinks that are trusted. -/
namespace MannyUploader.Providers
open Domain

def hexDigit (byte : UInt8) : Option Nat :=
  if 48 ≤ byte ∧ byte ≤ 57 then some (byte.toNat - 48)
  else if 97 ≤ byte ∧ byte ≤ 102 then some (byte.toNat - 97 + 10)
  else if 65 ≤ byte ∧ byte ≤ 70 then some (byte.toNat - 65 + 10)
  else none

/-- `unicode_unit`. Four digits stay below `u16::MAX`. -/
def unicodeUnit (digits : List UInt8) : Option Nat :=
  digits.foldlM (fun value byte => do
    let digit ← hexDigit byte
    some (value * 16 + digit)) 0

def isHighSurrogate (unit : Nat) : Bool := 0xd800 ≤ unit && unit ≤ 0xdbff
def isLowSurrogate (unit : Nat) : Bool := 0xdc00 ≤ unit && unit ≤ 0xdfff

/-- The loop of `valid_unicode_escapes`, from one index on. A quote is 34, a backslash 92 and
the letter of a Unicode escape 117. -/
def validUnicodeEscapes : (quoted : Bool) → List UInt8 → Bool
  | _, [] => true
  | false, byte :: rest => validUnicodeEscapes (byte == 34) rest
  | true, byte :: rest =>
    if byte = 34 then validUnicodeEscapes false rest
    else if byte ≠ 92 then validUnicodeEscapes true rest
    else match rest with
      | [] => true
      | escaped :: rest =>
        if escaped ≠ 117 then validUnicodeEscapes true rest
        else match rest with
          | a :: b :: c :: d :: rest =>
            match unicodeUnit [a, b, c, d] with
            | none => false
            | some unit =>
              if isHighSurrogate unit then
                match rest with
                | slash :: letter :: e :: f :: g :: h :: rest =>
                  slash == 92 && letter == 117 && (unicodeUnit [e, f, g, h]).any isLowSurrogate &&
                    validUnicodeEscapes true rest
                | _ => false
              else if isLowSurrogate unit then false
              else validUnicodeEscapes true rest
          | _ => false

/-- `json::decode`: `read` is `serde_json` with the plain shape of the document, and `bounds`
what the field visitors make of it. -/
def decodeJson (read : String → Option α) (bounds : α → Option β) (bytes : List UInt8)
    (maximum : Nat) : Option β :=
  if bytes.length > maximum then none
  else do
    let text ← String.fromUTF8? ⟨bytes.toArray⟩
    if !validUnicodeEscapes false bytes then none
    else do
      let value ← read text
      bounds value

/-- A text that keeps to the checks reaches the reader. -/
theorem decodeJson_text {text : String} {maximum : Nat} (read : String → Option α)
    (bounds : α → Option β) (short : ¬(utf8 text).length > maximum)
    (escapes : validUnicodeEscapes false (utf8 text) = true) :
    decodeJson read bounds (utf8 text) maximum = (read text).bind bounds := by
  rw [decodeJson, if_neg short, fromUTF8_utf8, Option.bind_eq_bind, Option.bind_some, escapes]
  rfl

/-- `Text<LIMIT>`. -/
def boundedText (limit : Nat) (value : String) : Option String :=
  if (utf8 value).length > limit then none else some value

/-- `strip_prefix` leaves something over. -/
def extendsOrigin (value : String) (origin : String) : Bool :=
  (utf8 origin).isPrefixOf (utf8 value) && (utf8 origin).length < (utf8 value).length

def trustedOrigins : List String :=
  ["https://dps.report/", "https://b.dps.report/", "https://wvw.report/"]

/-- Visible ASCII without `@`, `?`, `#`, a backslash or a quote. -/
def isPermalinkByte (byte : UInt8) : Bool :=
  0x21 ≤ byte && byte ≤ 0x7e && !([64, 63, 35, 92, 34] : List UInt8).contains byte

def trustedReportPermalink (value : String) : Bool :=
  (utf8 value).length ≤ 2048 && (utf8 value).all isPermalinkByte &&
    trustedOrigins.any (extendsOrigin value)

end MannyUploader.Providers
