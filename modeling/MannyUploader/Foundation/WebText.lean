import MannyUploader.Foundation.ByteText

/-! Percent escapes and form fields as a reader of them takes them. -/
namespace MannyUploader.Foundation

/-- An escape that is not complete stands for itself. -/
def percentDecode : List UInt8 → List UInt8
  | byte :: high :: low :: rest =>
    if byte = 37 then
      match digitValue 16 high, digitValue 16 low with
      | some high, some low => UInt8.ofNat (16 * high + low) :: percentDecode rest
      | _, _ => byte :: percentDecode (high :: low :: rest)
    else byte :: percentDecode (high :: low :: rest)
  | byte :: rest => byte :: percentDecode rest
  | [] => []

/-- In a form a plus sign is a space. -/
def formText (text : List UInt8) : List UInt8 :=
  percentDecode (text.map fun byte => if byte = 43 then 32 else byte)

/-- The name of a field ends at its first equals sign. -/
def formField (text : List UInt8) : List UInt8 × List UInt8 :=
  match splitOnce [61] text with
  | some (name, value) => (formText name, formText value)
  | none => (formText text, [])

/-- The fields of a form. An empty one is none. -/
def formFields (text : List UInt8) : List (List UInt8 × List UInt8) :=
  ((text.splitOn 38).filter (!·.isEmpty)).map formField

theorem percentDecode_literal {byte : UInt8} (literal : byte ≠ 37) (rest : List UInt8) :
    percentDecode (byte :: rest) = byte :: percentDecode rest := by
  match rest with
  | [] => rfl
  | [_] => rfl
  | _ :: _ :: _ => rw [percentDecode, if_neg literal]

theorem percentDecode_escape {high low : UInt8} {upper lower : Nat}
    (first : digitValue 16 high = some upper) (second : digitValue 16 low = some lower)
    (rest : List UInt8) :
    percentDecode (37 :: high :: low :: rest) =
      UInt8.ofNat (16 * upper + lower) :: percentDecode rest := by
  rw [percentDecode, if_pos rfl, first, second]

/-- An encoder that is undone byte by byte is undone. -/
theorem percentDecode_flatMap {encode : UInt8 → List UInt8}
    (undone : ∀ byte rest, percentDecode (encode byte ++ rest) = byte :: percentDecode rest)
    (bytes : List UInt8) : percentDecode (bytes.flatMap encode) = bytes := by
  induction bytes with
  | nil => rfl
  | cons byte bytes ih => rw [List.flatMap_cons, undone, ih]

/-- Without a plus sign, a text of a form holds only percent escapes. -/
theorem formText_of {text : List UInt8} (none : 43 ∉ text) : formText text = percentDecode text := by
  have same : (text.map fun byte => if byte = 43 then 32 else byte) = text := by
    conv_rhs => rw [← List.map_id text]
    apply List.map_congr_left
    intro byte member
    rw [if_neg (fun plus : byte = 43 => none (plus ▸ member))]
    rfl
  rw [formText, same]

theorem formField_concat {name value : List UInt8} (absent : 61 ∉ name) :
    formField (name ++ 61 :: value) = (formText name, formText value) := by
  rw [formField, splitOnce_concat value absent]

theorem formFields_join {pieces : List (List UInt8)}
    (clean : ∀ piece ∈ pieces, 38 ∉ piece ∧ piece ≠ []) :
    formFields ([38].intercalate pieces) = pieces.map formField := by
  by_cases none : pieces = []
  · rw [none]
    rfl
  · have whole : pieces.filter (!·.isEmpty) = pieces := by
      apply List.filter_eq_self.mpr
      intro piece member
      simpa using (clean piece member).2
    rw [formFields, List.splitOn_intercalate 38 (fun piece member => (clean piece member).1) none,
      whole]

end MannyUploader.Foundation
