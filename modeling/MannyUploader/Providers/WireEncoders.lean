import MannyUploader.Foundation.Base64
import MannyUploader.Foundation.WebText
import MannyUploader.Providers.WingmanRequests
import MannyUploader.Providers.DonBotRequests

/-! The encoders of the wire and their readers: form fields, percent escapes and base64. The form
is written into a buffer whose length is computed before. -/
namespace MannyUploader.Providers
open Domain Foundation

namespace TwitchClient

/-- Unreserved bytes, and escapes with upper case digits. -/
inductive EscapedText : List UInt8 → Prop
  | nil : EscapedText []
  | plain {byte : UInt8} {rest : List UInt8} : isUnreserved byte = true →
      EscapedText rest → EscapedText (byte :: rest)
  | escape {high low : UInt8} {rest : List UInt8} : high ∈ utf8 "0123456789ABCDEF" →
      low ∈ utf8 "0123456789ABCDEF" → EscapedText rest → EscapedText (37 :: high :: low :: rest)

section escapes
variable (byte : UInt8) (bytes rest : List UInt8)

theorem digitValue_upper {value : UInt8} (small : value.toNat < 16) :
    digitValue 16 (upperHexDigit value) = some value.toNat := by
  have all : ∀ n : Fin 16, digitValue 16 (upperHexDigit (UInt8.ofNat n.val)) = some n.val := by
    decide +kernel
  have here := all ⟨value.toNat, small⟩
  rwa [UInt8.ofNat_toNat] at here

theorem unreserved_plain (plain : isUnreserved byte = true) :
    byte ≠ 37 ∧ byte ≠ 38 ∧ byte ≠ 43 ∧ byte ≠ 61 := by
  refine ⟨?_, ?_, ?_, ?_⟩ <;> intro same <;> rw [same] at plain <;> exact absurd plain (by decide)

theorem percentDecode_formByte :
    percentDecode (formByte byte ++ rest) = byte :: percentDecode rest := by
  unfold formByte
  split
  next plain => exact percentDecode_literal (unreserved_plain byte plain).1 rest
  next escaped =>
    have short := byte.toNat_lt
    have high : (byte / 16).toNat = byte.toNat / 16 := by simp
    have low : (byte % 16).toNat = byte.toNat % 16 := by simp
    have upper := digitValue_upper (by omega : (byte / 16).toNat < 16)
    have lower := digitValue_upper (by omega : (byte % 16).toNat < 16)
    have whole : 16 * (byte / 16).toNat + (byte % 16).toNat = byte.toNat := by omega
    rw [List.cons_append, List.cons_append, List.cons_append, List.nil_append,
      percentDecode_escape upper lower, whole, UInt8.ofNat_toNat]

/-- The decoding of an encoded text. -/
theorem percentDecode_form : percentDecode (bytes.flatMap formByte) = bytes :=
  percentDecode_flatMap percentDecode_formByte bytes

theorem upperHexDigit_member {value : UInt8} (small : value.toNat < 16) :
    upperHexDigit value ∈ utf8 "0123456789ABCDEF" := by
  have all : ∀ n : Fin 16, upperHexDigit (UInt8.ofNat n.val) ∈ utf8 "0123456789ABCDEF" := by
    decide +kernel
  have here := all ⟨value.toNat, small⟩
  rwa [UInt8.ofNat_toNat] at here

theorem escapedText_formByte {rest : List UInt8} (behind : EscapedText rest) :
    EscapedText (formByte byte ++ rest) := by
  unfold formByte
  split
  next plain => exact .plain plain behind
  next escaped =>
    have short := byte.toNat_lt
    have high : (byte / 16).toNat = byte.toNat / 16 := by simp
    have low : (byte % 16).toNat = byte.toNat % 16 := by simp
    exact .escape (upperHexDigit_member (by omega)) (upperHexDigit_member (by omega)) behind

theorem escapedText_form : EscapedText (bytes.flatMap formByte) := by
  induction bytes with
  | nil => exact .nil
  | cons byte bytes ih => exact escapedText_formByte byte ih

theorem EscapedText.clean {text : List UInt8} (escaped : EscapedText text) :
    ∀ byte ∈ text, byte ≠ 38 ∧ byte ≠ 43 ∧ byte ≠ 61 := by
  have digits : (utf8 "0123456789ABCDEF").all (fun byte =>
      byte != 38 && byte != 43 && byte != 61) = true := by decide
  have digit : ∀ byte ∈ utf8 "0123456789ABCDEF", byte ≠ 38 ∧ byte ≠ 43 ∧ byte ≠ 61 := by
    intro byte member
    simpa [and_assoc] using List.all_eq_true.mp digits byte member
  induction escaped with
  | nil => exact fun byte member => absurd member List.not_mem_nil
  | plain unreserved _ ih =>
    exact List.forall_mem_cons.mpr ⟨(unreserved_plain _ unreserved).2, ih⟩
  | escape high low _ ih =>
    exact List.forall_mem_cons.mpr ⟨by decide, List.forall_mem_cons.mpr ⟨digit _ high,
      List.forall_mem_cons.mpr ⟨digit _ low, ih⟩⟩⟩

end escapes

section fields
variable {name value : List UInt8}

/-- A name that a form reader takes as it is written: the field names are never encoded. -/
def PlainName (name : List UInt8) : Prop := 38 ∉ name ∧ 61 ∉ name ∧ formText name = name

def fieldText (field : String × List UInt8) : List UInt8 :=
  utf8 field.1 ++ 61 :: field.2.flatMap formByte

/-- The names of the callers: letters and underscores. -/
theorem plainName_of_unreserved (unreserved : name.all isUnreserved = true) : PlainName name := by
  have plain : ∀ byte ∈ name, byte ≠ 37 ∧ byte ≠ 38 ∧ byte ≠ 43 ∧ byte ≠ 61 :=
    fun byte member => unreserved_plain byte (List.all_eq_true.mp unreserved byte member)
  refine ⟨fun member => (plain 38 member).2.1 rfl, fun member => (plain 61 member).2.2.2 rfl, ?_⟩
  rw [formText_of (fun member => (plain 43 member).2.2.1 rfl)]
  clear unreserved
  induction name with
  | nil => rfl
  | cons byte name ih =>
    rw [percentDecode_literal (plain byte List.mem_cons_self).1,
      ih fun other member => plain other (List.mem_cons_of_mem _ member)]

/-- The names that the requests of the client use. -/
def fieldNames : List String :=
  ["client_id", "scopes", "device_code", "grant_type", "refresh_token", "token"]

theorem fieldNames_plain : ∀ name ∈ fieldNames, PlainName (utf8 name) := by
  have unreserved : fieldNames.all (fun name => (utf8 name).all isUnreserved) = true := by decide
  exact fun name member => plainName_of_unreserved (List.all_eq_true.mp unreserved name member)

theorem form_join (fields : List (String × List UInt8)) :
    form fields = [38].intercalate (fields.map fieldText) := by
  induction fields with
  | nil => rfl
  | cons field rest ih =>
    cases rest with
    | nil => rw [List.map_singleton, List.intercalate_singleton]; rfl
    | cons next rest =>
      rw [List.map_cons, List.map_cons, List.intercalate_cons_cons, ← List.map_cons, ← ih, form,
        fieldText]
      · simp
      · exact fun none => by cases none

theorem formField_text {field : String × List UInt8} (plain : PlainName (utf8 field.1)) :
    formField (fieldText field) = (utf8 field.1, field.2) := by
  have noPlus : 43 ∉ field.2.flatMap formByte :=
    fun member => ((escapedText_form field.2).clean 43 member).2.1 rfl
  rw [fieldText, formField_concat plain.2.1, plain.2.2, formText_of noPlus, percentDecode_form]

theorem fieldText_clean {field : String × List UInt8} (plain : PlainName (utf8 field.1)) :
    38 ∉ fieldText field ∧ fieldText field ≠ [] := by
  refine ⟨fun member => ?_, by simp [fieldText]⟩
  rcases List.mem_append.mp member with first | second
  · exact plain.1 first
  · rcases List.mem_cons.mp second with sign | behind
    · cases sign
    · exact ((escapedText_form field.2).clean 38 behind).1 rfl

/-- Reading a form gives its fields in order. -/
theorem formFields_form {fields : List (String × List UInt8)}
    (plain : ∀ field ∈ fields, PlainName (utf8 field.1)) :
    formFields (form fields) = fields.map fun field => (utf8 field.1, field.2) := by
  rw [form_join, formFields_join, List.map_map]
  · exact List.map_congr_left fun field member => formField_text (plain field member)
  · intro piece member
    obtain ⟨field, there, rfl⟩ := List.mem_map.mp member
    exact fieldText_clean (plain field there)

end fields

section buffer

/-- The buffer of a form, with the position of the next byte. -/
structure FormBuffer where
  bytes : List UInt8
  cursor : Nat
deriving DecidableEq

/-- Bytes beyond the end of the buffer panic. -/
def FormBuffer.put (buffer : FormBuffer) (piece : List UInt8) : Option FormBuffer :=
  if buffer.cursor + piece.length ≤ buffer.bytes.length then
    some {
      bytes := buffer.bytes.take buffer.cursor ++ piece ++
        buffer.bytes.drop (buffer.cursor + piece.length)
      cursor := buffer.cursor + piece.length }
  else none

def formLength (fields : List (String × List UInt8)) : Nat :=
  (fields.length - 1) + (fields.map fun (name, value) =>
    (utf8 name).length + 1 + (value.map fun byte => if isUnreserved byte then 1 else 3).sum).sum

/-- One round of the loop in `form`. -/
def writeField (buffer : FormBuffer) (field : (String × List UInt8) × Nat) : Option FormBuffer := do
  let ((name, value), index) := field
  let buffer ← if index ≠ 0 then buffer.put [38] else some buffer
  let buffer ← buffer.put (utf8 name)
  let buffer ← buffer.put [61]
  value.foldlM (fun buffer byte => buffer.put (formByte byte)) buffer

def writeForm (fields : List (String × List UInt8)) : Option FormBuffer :=
  fields.zipIdx.foldlM writeField ⟨List.replicate (formLength fields) 0, 0⟩

/-- What is written so far, and zeros up to the whole length. -/
def FormBuffer.written (total : Nat) (text : List UInt8) : FormBuffer :=
  ⟨text ++ List.replicate (total - text.length) 0, text.length⟩

variable {total : Nat} {text piece : List UInt8}

theorem put_written (fits : (text ++ piece).length ≤ total) :
    (FormBuffer.written total text).put piece = some (.written total (text ++ piece)) := by
  rw [List.length_append] at fits
  have behind : (text ++ List.replicate (total - text.length) (0 : UInt8)).drop
      (text.length + piece.length) =
      List.replicate (total - (text ++ piece).length) 0 := by
    rw [List.drop_append, List.drop_of_length_le (by omega), List.drop_replicate, List.nil_append,
      List.length_append]
    congr 1
    omega
  rw [FormBuffer.put, if_pos (by simp [FormBuffer.written]; omega)]
  simp only [FormBuffer.written, List.take_left, behind, List.length_append]

theorem put_value {value : List UInt8} (fits : (text ++ value.flatMap formByte).length ≤ total) :
    value.foldlM (fun buffer byte => buffer.put (formByte byte)) (FormBuffer.written total text) =
      some (.written total (text ++ value.flatMap formByte)) := by
  induction value generalizing text with
  | nil => simp
  | cons byte value ih =>
    rw [List.flatMap_cons, ← List.append_assoc] at fits
    rw [List.foldlM_cons, put_written (by simp at fits ⊢; omega)]
    rw [Option.bind_eq_bind, Option.bind_some, ih fits, List.flatMap_cons, List.append_assoc]

theorem put_field {field : String × List UInt8}
    (fits : (text ++ fieldText field).length ≤ total) :
    (do
      let buffer ← (FormBuffer.written total text).put (utf8 field.1)
      let buffer ← buffer.put [61]
      field.2.foldlM (fun buffer byte => buffer.put (formByte byte)) buffer) =
      some (.written total (text ++ fieldText field)) := by
  have shape : text ++ fieldText field = text ++ utf8 field.1 ++ [61] ++ field.2.flatMap formByte := by
    simp [fieldText]
  rw [shape] at fits ⊢
  rw [put_written (by simp at fits ⊢; omega), Option.bind_eq_bind, Option.bind_some,
    put_written (by simp at fits ⊢; omega), Option.bind_some, put_value fits]

theorem writeField_first {field : String × List UInt8}
    (fits : (text ++ fieldText field).length ≤ total) :
    writeField (.written total text) (field, 0) = some (.written total (text ++ fieldText field)) :=
  put_field fits

theorem writeField_next {field : String × List UInt8} (index : Nat)
    (fits : (text ++ 38 :: fieldText field).length ≤ total) :
    writeField (.written total text) (field, index + 1) =
      some (.written total (text ++ 38 :: fieldText field)) := by
  have shape : text ++ 38 :: fieldText field = text ++ [38] ++ fieldText field := by simp
  rw [shape] at fits ⊢
  have sign : (FormBuffer.written total text).put [38] = some (.written total (text ++ [38])) :=
    put_written (by simp at fits ⊢; omega)
  have written := put_field fits
  simp only [writeField, ne_eq, Nat.add_one_ne_zero, not_false_iff, if_true, sign,
    Option.bind_eq_bind, Option.bind_some]
  exact written

theorem writeFields_next {fields : List (String × List UInt8)} (index : Nat)
    (fits : (text ++ fields.flatMap (38 :: fieldText ·)).length ≤ total) :
    (fields.zipIdx (index + 1)).foldlM writeField (.written total text) =
      some (.written total (text ++ fields.flatMap (38 :: fieldText ·))) := by
  induction fields generalizing text index with
  | nil => simp
  | cons field rest ih =>
    rw [List.flatMap_cons, ← List.append_assoc] at fits ⊢
    rw [List.zipIdx_cons, List.foldlM_cons, writeField_next index (by simp at fits ⊢; omega),
      Option.bind_eq_bind, Option.bind_some, ih (index + 1) fits]

theorem form_cons (field : String × List UInt8) (rest : List (String × List UInt8)) :
    form (field :: rest) = fieldText field ++ rest.flatMap (38 :: fieldText ·) := by
  induction rest generalizing field with
  | nil => simp [form, fieldText]
  | cons next rest ih =>
    rw [form, ih next]
    · simp [fieldText]
    · exact fun none => by cases none

theorem length_formByte (byte : UInt8) :
    (formByte byte).length = if isUnreserved byte then 1 else 3 := by
  unfold formByte
  split <;> rfl

theorem length_fieldText (field : String × List UInt8) :
    (fieldText field).length = (utf8 field.1).length + 1 +
      (field.2.map fun byte => if isUnreserved byte then 1 else 3).sum := by
  simp only [fieldText, List.length_append, List.length_cons, List.length_flatMap, length_formByte]
  omega

theorem length_form (fields : List (String × List UInt8)) : (form fields).length = formLength fields := by
  cases fields with
  | nil => rfl
  | cons field rest =>
    have lengths : (rest.flatMap (38 :: fieldText ·)).length =
        rest.length + (rest.map fun (name, value) => (utf8 name).length + 1 +
          (value.map fun byte => if isUnreserved byte then 1 else 3).sum).sum := by
      induction rest with
      | nil => rfl
      | cons next rest ih =>
        simp only [List.flatMap_cons, List.length_append, ih, List.length_cons, length_fieldText,
          List.map_cons, List.sum_cons]
        omega
    rw [form_cons, List.length_append, lengths, length_fieldText, formLength, List.map_cons,
      List.sum_cons, List.length_cons]
    simp only
    omega

/-- The loop fills its buffer to the last byte. -/
theorem writeForm_exact (fields : List (String × List UInt8)) :
    writeForm fields = some ⟨form fields, formLength fields⟩ := by
  have full : FormBuffer.written (formLength fields) (form fields) =
      ⟨form fields, formLength fields⟩ := by
    rw [FormBuffer.written, length_form, Nat.sub_self, List.replicate_zero, List.append_nil]
  have start : FormBuffer.written (formLength fields) [] =
      ⟨List.replicate (formLength fields) 0, 0⟩ := rfl
  rw [writeForm, ← start, ← full]
  have fits := Nat.le_of_eq (length_form fields)
  cases fields with
  | nil => rfl
  | cons field rest =>
    rw [form_cons] at fits ⊢
    rw [List.zipIdx_cons, List.foldlM_cons, writeField_first (by simp at fits ⊢; omega),
      Option.bind_eq_bind, Option.bind_some, List.nil_append, writeFields_next 0 fits]

end buffer

end TwitchClient

namespace DonBotClient

section base64

theorem base64Value_digit {value : UInt8} (small : value.toNat < 64) :
    base64Value (base64Digit value) = some value.toNat := by
  have all : ∀ n : Fin 64, base64Value (base64Digit (UInt8.ofNat n.val)) = some n.val := by
    decide +kernel
  have here := all ⟨value.toNat, small⟩
  rwa [UInt8.ofNat_toNat] at here

theorem base64Value_padding : base64Value 61 = none := by decide

theorem digit_ne_padding {value : UInt8} (small : value.toNat < 64) : base64Digit value ≠ 61 := by
  intro same
  have none := base64Value_digit small
  rw [same, base64Value_padding] at none
  cases none

/-- Two pieces of a byte side by side. -/
theorem shifted_or {x y k : Nat} (low : y < 2 ^ k) (short : 2 ^ k * x < 256) :
    x <<< k % 256 ||| y = 2 ^ k * x + y := by
  rw [Nat.shiftLeft_eq, Nat.mul_comm, Nat.mod_eq_of_lt short, Nat.two_pow_add_eq_or_of_lt low]

variable (a b : UInt8)

theorem first_bits : (a >>> 2).toNat = a.toNat / 4 := by
  simp [UInt8.toNat_shiftRight, Nat.shiftRight_eq_div_pow]

theorem second_bits :
    (((a &&& 3) <<< 4) ||| (b >>> 4)).toNat = 16 * (a.toNat % 4) + b.toNat / 16 := by
  have short := b.toNat_lt
  have low : a.toNat &&& 3 = a.toNat % 4 := Nat.and_two_pow_sub_one_eq_mod a.toNat 2
  simp only [UInt8.toNat_or, UInt8.toNat_shiftLeft, UInt8.toNat_shiftRight, UInt8.toNat_and]
  simp only [UInt8.reduceToNat, Nat.reduceMod, Nat.reducePow, low, Nat.shiftRight_eq_div_pow]
  exact shifted_or (k := 4) (by omega) (by omega)

theorem third_bits :
    (((a &&& 15) <<< 2) ||| (b >>> 6)).toNat = 4 * (a.toNat % 16) + b.toNat / 64 := by
  have short := b.toNat_lt
  have low : a.toNat &&& 15 = a.toNat % 16 := Nat.and_two_pow_sub_one_eq_mod a.toNat 4
  simp only [UInt8.toNat_or, UInt8.toNat_shiftLeft, UInt8.toNat_shiftRight, UInt8.toNat_and]
  simp only [UInt8.reduceToNat, Nat.reduceMod, Nat.reducePow, low, Nat.shiftRight_eq_div_pow]
  exact shifted_or (k := 2) (by omega) (by omega)

theorem fourth_bits : (a &&& 63).toNat = a.toNat % 64 := Nat.and_two_pow_sub_one_eq_mod a.toNat 6

/-- With nothing behind it, a piece is only shifted. -/
theorem second_alone : ((a &&& 3) <<< 4).toNat = 16 * (a.toNat % 4) := by
  have alone := second_bits a 0
  simpa using alone

theorem third_alone : ((a &&& 15) <<< 2).toNat = 4 * (a.toNat % 16) := by
  have alone := third_bits a 0
  simpa using alone

variable (a b c : UInt8)

theorem base64Last_one :
    base64Last (base64Digit (a >>> 2)) (base64Digit ((a &&& 3) <<< 4)) 61 = some [a] := by
  have short := a.toNat_lt
  have first := first_bits a
  have second := second_alone a
  have whole : 4 * (a.toNat / 4) + 16 * (a.toNat % 4) / 16 = a.toNat := by omega
  rw [base64Last, base64Value_digit (by omega), base64Value_digit (by omega), first, second]
  simp only [Option.bind_eq_bind, Option.bind_some, if_true]
  rw [if_pos (by omega), whole, UInt8.ofNat_toNat]

theorem base64Last_two :
    base64Last (base64Digit (a >>> 2)) (base64Digit (((a &&& 3) <<< 4) ||| (b >>> 4)))
      (base64Digit ((b &&& 15) <<< 2)) = some [a, b] := by
  have shortA := a.toNat_lt
  have shortB := b.toNat_lt
  have first := first_bits a
  have second := second_bits a b
  have third := third_alone b
  have wholeA : 4 * (a.toNat / 4) + (16 * (a.toNat % 4) + b.toNat / 16) / 16 = a.toNat := by omega
  have wholeB : 16 * ((16 * (a.toNat % 4) + b.toNat / 16) % 16) + 4 * (b.toNat % 16) / 4 =
      b.toNat := by omega
  rw [base64Last, base64Value_digit (by omega), base64Value_digit (by omega),
    base64Value_digit (by omega), first, second, third]
  simp only [Option.bind_eq_bind, Option.bind_some]
  rw [if_neg (digit_ne_padding (by omega)), if_pos (by omega), wholeA, wholeB, UInt8.ofNat_toNat,
    UInt8.ofNat_toNat]

theorem base64Decode_bytes (bytes : List UInt8) : base64Decode (base64Bytes bytes) = some bytes := by
  induction bytes using base64Bytes.induct with
  | case1 => rfl
  | case2 a =>
    rw [base64Bytes, base64Decode, if_pos rfl, if_pos rfl]
    exact base64Last_one a
  | case3 a b =>
    rw [base64Bytes, base64Decode, if_pos rfl, if_pos rfl]
    exact base64Last_two a b
  | case4 a b c rest ih =>
    have shortA := a.toNat_lt
    have shortB := b.toNat_lt
    have shortC := c.toNat_lt
    have first := first_bits a
    have second := second_bits a b
    have third := third_bits b c
    have fourth := fourth_bits c
    have wholeA : 4 * (a.toNat / 4) + (16 * (a.toNat % 4) + b.toNat / 16) / 16 = a.toNat := by omega
    have wholeB : 16 * ((16 * (a.toNat % 4) + b.toNat / 16) % 16) +
        (4 * (b.toNat % 16) + c.toNat / 64) / 4 = b.toNat := by omega
    have wholeC : 64 * ((4 * (b.toNat % 16) + c.toNat / 64) % 4) + c.toNat % 64 = c.toNat := by omega
    rw [base64Bytes, List.cons_append, List.cons_append, List.cons_append, List.cons_append,
      List.nil_append, base64Decode, if_neg (digit_ne_padding (by omega)),
      base64Value_digit (by omega), base64Value_digit (by omega), base64Value_digit (by omega),
      base64Value_digit (by omega), ih, first, second, third, fourth]
    simp only [Option.bind_eq_bind, Option.bind_some]
    rw [wholeA, wholeB, wholeC, UInt8.ofNat_toNat, UInt8.ofNat_toNat, UInt8.ofNat_toNat]

/-- Digits, and as much padding as is missing of the last three bytes. -/
theorem base64_padded (bytes : List UInt8) :
    (base64Bytes bytes).length = 4 * ((bytes.length + 2) / 3) ∧
    ∃ digits, base64Bytes bytes = digits ++ List.replicate ((3 - bytes.length % 3) % 3) 61 ∧
      ∀ digit ∈ digits, (base64Value digit).isSome = true := by
  have known {value : UInt8} (small : value.toNat < 64) :
      (base64Value (base64Digit value)).isSome = true := by rw [base64Value_digit small]; rfl
  induction bytes using base64Bytes.induct with
  | case1 => exact ⟨rfl, [], rfl, fun digit member => absurd member List.not_mem_nil⟩
  | case2 a =>
    have short := a.toNat_lt
    have first := first_bits a
    have second := second_alone a
    rw [base64Bytes]
    exact ⟨by simp, [_, _], rfl, List.forall_mem_cons.mpr ⟨known (by omega),
      List.forall_mem_singleton.mpr (known (by omega))⟩⟩
  | case3 a b =>
    have shortA := a.toNat_lt
    have shortB := b.toNat_lt
    have first := first_bits a
    have second := second_bits a b
    have third := third_alone b
    rw [base64Bytes]
    exact ⟨by simp, [_, _, _], rfl, List.forall_mem_cons.mpr ⟨known (by omega),
      List.forall_mem_cons.mpr ⟨known (by omega), List.forall_mem_singleton.mpr (known (by omega))⟩⟩⟩
  | case4 a b c rest ih =>
    have shortA := a.toNat_lt
    have shortB := b.toNat_lt
    have shortC := c.toNat_lt
    have first := first_bits a
    have second := second_bits a b
    have third := third_bits b c
    have fourth := fourth_bits c
    obtain ⟨length, digits, same, valid⟩ := ih
    have missing : (3 - (a :: b :: c :: rest).length % 3) % 3 = (3 - rest.length % 3) % 3 := by
      simp only [List.length_cons]
      omega
    rw [base64Bytes, missing]
    refine ⟨?_, _, by rw [same, ← List.append_assoc], ?_⟩
    · rw [List.length_append, length]
      simp only [List.length_cons, List.length_nil]
      omega
    · exact List.forall_mem_append.mpr ⟨List.forall_mem_cons.mpr ⟨known (by omega),
        List.forall_mem_cons.mpr ⟨known (by omega), List.forall_mem_cons.mpr ⟨known (by omega),
          List.forall_mem_singleton.mpr (known (by omega))⟩⟩⟩, valid⟩

end base64

end DonBotClient

/-- A name that is not plain is read as something else: the names are written as they are. -/
theorem form_name_cut : formFields (TwitchClient.form [("a&b", utf8 "c")]) ≠
    [(utf8 "a&b", utf8 "c")] := by decide +kernel

/-- What the encoders write is read back as it was, and a form has the length of its buffer. Only
the names of a form must be plain, which they are for every caller. -/
theorem wire_encoders_invertible :
    (∀ fields, TwitchClient.writeForm fields =
        some ⟨TwitchClient.form fields, TwitchClient.formLength fields⟩ ∧
      (TwitchClient.form fields).length = TwitchClient.formLength fields) ∧
    (∀ fields : List (String × List UInt8),
      (∀ field ∈ fields, TwitchClient.PlainName (utf8 field.1)) →
      formFields (TwitchClient.form fields) = fields.map fun field => (utf8 field.1, field.2)) ∧
    (∀ name ∈ TwitchClient.fieldNames, TwitchClient.PlainName (utf8 name)) ∧
    (∀ value : String, percentDecode (utf8 (WingmanClient.percentEncode value)) = utf8 value ∧
      TwitchClient.EscapedText (utf8 (WingmanClient.percentEncode value))) ∧
    (∀ bytes, percentDecode (bytes.flatMap TwitchClient.formByte) = bytes ∧
      TwitchClient.EscapedText (bytes.flatMap TwitchClient.formByte)) ∧
    ∀ bytes, base64Decode (DonBotClient.base64Bytes bytes) = some bytes ∧
      (DonBotClient.base64Bytes bytes).length = 4 * ((bytes.length + 2) / 3) ∧
      ∃ digits, DonBotClient.base64Bytes bytes =
          digits ++ List.replicate ((3 - bytes.length % 3) % 3) 61 ∧
        ∀ digit ∈ digits, (base64Value digit).isSome = true := by
  refine ⟨fun fields => ⟨TwitchClient.writeForm_exact fields, TwitchClient.length_form fields⟩,
    fun fields => TwitchClient.formFields_form, TwitchClient.fieldNames_plain, fun value => ?_,
    fun bytes => ⟨TwitchClient.percentDecode_form bytes, TwitchClient.escapedText_form bytes⟩,
    fun bytes => ⟨DonBotClient.base64Decode_bytes bytes, DonBotClient.base64_padded bytes⟩⟩
  rw [WingmanClient.utf8_percentEncode]
  exact ⟨TwitchClient.percentDecode_form _, TwitchClient.escapedText_form _⟩

end MannyUploader.Providers
