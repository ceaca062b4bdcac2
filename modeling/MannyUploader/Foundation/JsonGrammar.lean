import MannyUploader.Foundation.ByteText

/-! The grammar of JSON texts over bytes, with the strings that stand in one. -/
namespace MannyUploader.Foundation.JsonGrammar

/-- The value of a hexadecimal digit. -/
def hexValue (byte : UInt8) : Nat := (digitValue 16 byte).getD 0

/-- What stands between the quotes of a string: a byte by itself, an escape of two characters, or
an escape with four digits. -/
inductive Piece
  | plain (byte : UInt8) (ordinary : 0x20 ≤ byte ∧ byte ≠ 34 ∧ byte ≠ 92)
  | short (letter : UInt8) (known : letter ∈ ([34, 92, 47, 98, 102, 110, 114, 116] : List UInt8))
  | unicode (a b c d : UInt8) (digits : ∀ byte ∈ [a, b, c, d], (digitValue 16 byte).isSome)

namespace Piece

def text : Piece → List UInt8
  | plain byte _ => [byte]
  | short letter _ => [92, letter]
  | unicode a b c d _ => [92, 117, a, b, c, d]

/-- The UTF-16 code unit that an escape of four digits spells. -/
def unit : Piece → Option Nat
  | unicode a b c d _ =>
    some (((hexValue a * 16 + hexValue b) * 16 + hexValue c) * 16 + hexValue d)
  | _ => none

def isHigh (piece : Piece) : Prop := ∃ unit, piece.unit = some unit ∧ 0xd800 ≤ unit ∧ unit ≤ 0xdbff
def isLow (piece : Piece) : Prop := ∃ unit, piece.unit = some unit ∧ 0xdc00 ≤ unit ∧ unit ≤ 0xdfff

end Piece

/-- The surrogate at this place has no partner: no low one follows a high one, or no high one
stands in front of a low one. -/
def Unpaired (pieces : List Piece) (index : Nat) : Prop :=
  (∃ piece, pieces[index]? = some piece ∧ piece.isHigh ∧
      ∀ next, pieces[index + 1]? = some next → ¬next.isLow) ∨
    ∃ piece, pieces[index]? = some piece ∧ piece.isLow ∧
      ∀ before, index = before + 1 → ∀ previous, pieces[before]? = some previous → ¬previous.isHigh

def stringText (pieces : List Piece) : List UInt8 := 34 :: pieces.flatMap Piece.text ++ [34]

def IsBlank (text : List UInt8) : Prop := ∀ byte ∈ text, byte ∈ ([32, 9, 10, 13] : List UInt8)

def IsDigit (byte : UInt8) : Prop := 48 ≤ byte ∧ byte ≤ 57

def AreDigits (text : List UInt8) : Prop := text ≠ [] ∧ ∀ byte ∈ text, IsDigit byte

/-- A sign, digits without a zero in front, a fraction and an exponent. -/
def IsNumber (text : List UInt8) : Prop :=
  ∃ sign whole fraction exponent, text = sign ++ whole ++ fraction ++ exponent ∧
    (sign = [] ∨ sign = [45]) ∧ AreDigits whole ∧ (whole = [48] ∨ whole.head? ≠ some 48) ∧
    (fraction = [] ∨ ∃ digits, fraction = 46 :: digits ∧ AreDigits digits) ∧
    (exponent = [] ∨ ∃ mark sign digits, exponent = mark :: sign ++ digits ∧
      (mark = 101 ∨ mark = 69) ∧ (sign = [] ∨ sign = [43] ∨ sign = [45]) ∧ AreDigits digits)

inductive Kind
  | value | padded | items | field | members

/-- A text of some kind, and the strings in it, names of members included. -/
inductive Reads : Kind → List UInt8 → List (List Piece) → Prop
  | null : Reads .value [110, 117, 108, 108] []
  | true : Reads .value [116, 114, 117, 101] []
  | false : Reads .value [102, 97, 108, 115, 101] []
  | number : IsNumber text → Reads .value text []
  | string (pieces : List Piece) : Reads .value (stringText pieces) [pieces]
  | emptyArray : IsBlank blank → Reads .value (91 :: blank ++ [93]) []
  | array : Reads .items text strings → Reads .value (91 :: text ++ [93]) strings
  | emptyObject : IsBlank blank → Reads .value (123 :: blank ++ [125]) []
  | object : Reads .members text strings → Reads .value (123 :: text ++ [125]) strings
  | padded : IsBlank before → Reads .value text strings → IsBlank after →
      Reads .padded (before ++ text ++ after) strings
  | item : Reads .padded text strings → Reads .items text strings
  | items : Reads .padded first strings → Reads .items rest more →
      Reads .items (first ++ 44 :: rest) (strings ++ more)
  | field (name : List Piece) : IsBlank before → IsBlank between → Reads .padded text strings →
      Reads .field (before ++ stringText name ++ between ++ 58 :: text) (name :: strings)
  | member : Reads .field text strings → Reads .members text strings
  | members : Reads .field first strings → Reads .members rest more →
      Reads .members (first ++ 44 :: rest) (strings ++ more)

/-- A JSON text: a value with blanks around it. -/
def IsText (text : List UInt8) (strings : List (List Piece)) : Prop := Reads .padded text strings

/-! The bytes outside of strings. -/

theorem no_quote_of_blank {text : List UInt8} (blank : IsBlank text) : (34 : UInt8) ∉ text := by
  intro member
  exact absurd (blank 34 member) (by decide)

theorem no_quote_of_digits {text : List UInt8} (digits : AreDigits text) : (34 : UInt8) ∉ text := by
  intro member
  exact absurd (digits.2 34 member).1 (by decide)

theorem no_quote_of_number {text : List UInt8} (number : IsNumber text) : (34 : UInt8) ∉ text := by
  obtain ⟨sign, whole, fraction, exponent, rfl, signed, digits, -, fractional, exponential⟩ := number
  simp only [List.mem_append, not_or]
  refine ⟨⟨⟨?_, no_quote_of_digits digits⟩, ?_⟩, ?_⟩
  · obtain rfl | rfl := signed <;> decide
  · obtain rfl | ⟨digits, rfl, valid⟩ := fractional
    · exact List.not_mem_nil
    · simpa using no_quote_of_digits valid
  · obtain rfl | ⟨mark, sign, digits, rfl, marked, signed, valid⟩ := exponential
    · exact List.not_mem_nil
    · have noDigits := no_quote_of_digits valid
      obtain rfl | rfl := marked <;> obtain rfl | rfl | rfl := signed <;> simpa using noDigits

/-! Surrogates and their partners, from the front of a string on. -/

/-- Every surrogate of the string has its partner. -/
def Paired (pieces : List Piece) : Prop := ∀ index, ¬Unpaired pieces index

variable {piece next : Piece} {rest : List Piece} {index : Nat}

theorem Piece.not_low_of_high (high : piece.isHigh) : ¬piece.isLow := by
  rintro ⟨unit, found, low, -⟩
  obtain ⟨unit', found', -, bound⟩ := high
  rw [found] at found'
  cases found'
  omega

theorem unpaired_succ (notHigh : ¬piece.isHigh) :
    Unpaired (piece :: rest) (index + 1) ↔ Unpaired rest index := by
  unfold Unpaired
  simp only [List.getElem?_cons_succ]
  refine or_congr Iff.rfl ?_
  constructor
  · rintro ⟨here, found, low, alone⟩
    refine ⟨here, found, low, fun before same previous found' => ?_⟩
    subst same
    exact alone (before + 1) rfl previous found'
  · rintro ⟨here, found, low, alone⟩
    refine ⟨here, found, low, fun before same previous found' => ?_⟩
    obtain rfl : index = before := Nat.succ.inj same
    cases index with
    | zero =>
      cases found'
      exact notHigh
    | succ before => exact alone before rfl previous found'

theorem paired_nil : Paired [] := by
  rintro index (⟨piece, found, -⟩ | ⟨piece, found, -⟩)
  · cases found
  · cases found

theorem paired_cons (notHigh : ¬piece.isHigh) (notLow : ¬piece.isLow) :
    Paired (piece :: rest) ↔ Paired rest := by
  constructor
  · intro paired index unpaired
    exact paired (index + 1) ((unpaired_succ notHigh).mpr unpaired)
  · intro paired index unpaired
    cases index with
    | zero =>
      rcases unpaired with ⟨here, found, high, -⟩ | ⟨here, found, low, -⟩
      · cases found
        exact notHigh high
      · cases found
        exact notLow low
    | succ index => exact paired index ((unpaired_succ notHigh).mp unpaired)

theorem not_paired_low (low : piece.isLow) : ¬Paired (piece :: rest) := by
  intro paired
  refine paired 0 (.inr ⟨piece, rfl, low, fun before same => ?_⟩)
  cases same

theorem not_paired_high (high : piece.isHigh) (alone : ∀ next, rest[0]? = some next → ¬next.isLow) :
    ¬Paired (piece :: rest) :=
  fun paired => paired 0 (.inl ⟨piece, rfl, high, alone⟩)

theorem paired_pair (high : piece.isHigh) (low : next.isLow) :
    Paired (piece :: next :: rest) ↔ Paired rest := by
  have notHigh : ¬next.isHigh := fun high => Piece.not_low_of_high high low
  have later (index : Nat) :
      Unpaired (piece :: next :: rest) (index + 2) ↔ Unpaired (next :: rest) (index + 1) := by
    unfold Unpaired
    simp only [List.getElem?_cons_succ]
    refine or_congr Iff.rfl (exists_congr fun here => and_congr_right fun _ => and_congr_right fun _ => ?_)
    constructor
    · rintro alone before same previous found
      obtain rfl : index = before := Nat.succ.inj same
      exact alone (index + 1) rfl previous found
    · rintro alone before same previous found
      obtain rfl : index + 1 = before := Nat.succ.inj same
      exact alone index rfl previous found
  constructor
  · intro paired index unpaired
    exact paired (index + 2) ((later index).mpr ((unpaired_succ notHigh).mpr unpaired))
  · intro paired index unpaired
    match index with
    | 0 =>
      rcases unpaired with ⟨here, found, -, alone⟩ | ⟨here, found, low', -⟩
      · exact alone next rfl low
      · cases found
        exact Piece.not_low_of_high high low'
    | 1 =>
      rcases unpaired with ⟨here, found, high', -⟩ | ⟨here, found, -, alone⟩
      · cases found
        exact notHigh high'
      · exact alone 0 rfl piece rfl high
    | index + 2 => exact paired index ((unpaired_succ notHigh).mp ((later index).mp unpaired))

end MannyUploader.Foundation.JsonGrammar
