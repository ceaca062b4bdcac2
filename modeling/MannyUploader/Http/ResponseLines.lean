import MannyUploader.Http.ResponseCollector

/-! The lines of a header: what a status line, a blank line and a field look like, and that the
collector reads exactly these. -/
namespace MannyUploader.Http
open Domain Application Foundation

/-- What a line of a header says. -/
inductive Line
  | status (code : UInt16)
  | blank
  | field (name : String) (value : SecretValue)

/-- No white space at either end. -/
def Trimmed (value : List UInt8) : Prop :=
  value.head?.all (!isAsciiWhitespace ·) ∧ value.getLast?.all (!isAsciiWhitespace ·)

namespace Line

/-- The text of a line, without its end. -/
def Text (text : List UInt8) : Line → Prop
  | status code => ∃ version d₀ d₁ d₂ reason,
      text = version ++ 32 :: d₀ :: d₁ :: d₂ :: reason ∧ version ∈ httpVersions ∧
        [d₀, d₁, d₂].all Domain.isAsciiDigit ∧ (reason = [] ∨ reason.head? = some 32) ∧
        code.toNat = decimalValue [d₀, d₁, d₂] ∧ 100 ≤ code ∧ code ≤ 599 ∧ code ≠ 101
  | blank => text = []
  | field name value => ∃ left right,
      text = utf8 name ++ 58 :: (left ++ value ++ right) ∧ utf8 name ≠ [] ∧
        (utf8 name).all isHttpTokenByte ∧ left.all isAsciiWhitespace ∧
        right.all isAsciiWhitespace ∧ Trimmed value

/-- The bytes of a line. It ends with a line feed, and a carriage return may precede that. -/
def Reads (bytes : List UInt8) (line : Line) : Prop :=
  ∃ text, text.all isVisible ∧ (bytes = text ++ [10] ∨ bytes = text ++ [13, 10]) ∧ line.Text text

end Line

theorem stripSuffix_concat (byte : UInt8) (text : List UInt8) :
    stripSuffix byte (text ++ [byte]) = some text := by
  simp [stripSuffix]

theorem stripSuffix_some {byte : UInt8} {bytes text : List UInt8}
    (stripped : stripSuffix byte bytes = some text) : bytes = text ++ [byte] := by
  unfold stripSuffix at stripped
  split at stripped
  · rename_i last
    cases stripped
    exact (List.dropLast_append_getLast? byte last).symm
  · cases stripped

theorem lineOf_iff {bytes text : List UInt8} :
    lineOf bytes = some text ↔
      text.all isVisible ∧ (bytes = text ++ [10] ∨ bytes = text ++ [13, 10]) := by
  constructor
  · intro read
    obtain ⟨line, fed, rest⟩ := Option.bind_eq_some_iff.mp read
    obtain rfl := stripSuffix_some fed
    dsimp only at rest
    split at rest
    · rename_i clean
      cases rest
      cases returned : stripSuffix 13 line with
      | none => exact ⟨by simpa [returned] using clean, .inl (by simp)⟩
      | some text =>
        obtain rfl := stripSuffix_some returned
        exact ⟨by simpa [returned] using clean, .inr (by simp)⟩
    · cases rest
  · rintro ⟨clean, rfl | rfl⟩
    · have unreturned : stripSuffix 13 text = none := by
        refine if_neg fun last => ?_
        have member := List.mem_of_getLast? last
        have seen := List.all_eq_true.mp clean 13 member
        cases seen
      rw [lineOf, stripSuffix_concat]
      simp only [Option.bind_eq_bind, Option.bind_some, unreturned, Option.getD_none, clean,
        if_true]
    · rw [lineOf, show text ++ [13, 10] = text ++ [13] ++ [10] by simp, stripSuffix_concat]
      simp only [Option.bind_eq_bind, Option.bind_some, stripSuffix_concat, Option.getD_some,
        clean, if_true]

theorem dropWhile_of_head {p : UInt8 → Bool} {text : List UInt8} (h : text.head?.all (!p ·)) :
    text.dropWhile p = text := by
  cases text with
  | nil => rfl
  | cons byte text => exact List.dropWhile_cons_of_neg (by simpa using h)

theorem dropWhile_of_all {p : UInt8 → Bool} {text : List UInt8} (h : text.all p) :
    text.dropWhile p = [] := by
  rw [List.dropWhile_eq_nil_iff]
  simpa using h

theorem trimAscii_append {left value right : List UInt8} (before : left.all isAsciiWhitespace)
    (after : right.all isAsciiWhitespace) (trimmed : Trimmed value) :
    trimAscii (left ++ value ++ right) = value := by
  obtain ⟨first, last⟩ := trimmed
  have started : (left ++ value ++ right).dropWhile isAsciiWhitespace =
      (value ++ right).dropWhile isAsciiWhitespace := by
    rw [List.append_assoc]
    exact List.dropWhile_append_of_pos (by simpa using before)
  rw [trimAscii, started]
  cases value with
  | nil => rw [List.nil_append, dropWhile_of_all after, List.rdropWhile_nil]
  | cons byte value =>
    have stays : (byte :: value ++ right).dropWhile isAsciiWhitespace = byte :: value ++ right :=
      dropWhile_of_head (by simpa using first)
    have ended : ∀ byte ∈ right.reverse, isAsciiWhitespace byte = true := by simpa using after
    rw [stays, List.rdropWhile, List.reverse_append, List.dropWhile_append_of_pos ended,
      dropWhile_of_head (by rwa [List.head?_reverse]), List.reverse_reverse]

theorem trimAscii_spec (text : List UInt8) :
    ∃ left right, text = left ++ trimAscii text ++ right ∧ left.all isAsciiWhitespace ∧
      right.all isAsciiWhitespace ∧ Trimmed (trimAscii text) := by
  refine ⟨text.takeWhile isAsciiWhitespace,
    (text.dropWhile isAsciiWhitespace).rtakeWhile isAsciiWhitespace, ?_, ?_, ?_, ?_, ?_⟩
  · rw [trimAscii, List.append_assoc, List.rdropWhile_append_rtakeWhile,
      List.takeWhile_append_dropWhile]
  · exact List.all_takeWhile
  · rw [List.all_eq_true]
    intro byte member
    exact List.mem_rtakeWhile_imp member
  · have first := List.head?_dropWhile_not isAsciiWhitespace text
    obtain ⟨rest, split⟩ := List.rdropWhile_prefix isAsciiWhitespace
      (l := text.dropWhile isAsciiWhitespace)
    cases kept : trimAscii text with
    | nil => rfl
    | cons byte value =>
      rw [← split, ← trimAscii, kept] at first
      simpa using first
  · cases kept : trimAscii text with
    | nil => rfl
    | cons byte value =>
      have last := List.rdropWhile_last_not isAsciiWhitespace (l := text.dropWhile isAsciiWhitespace)
      unfold trimAscii at kept
      simp only [kept, ne_eq, reduceCtorEq, not_false_eq_true, forall_true_left] at last
      rw [List.getLast?_eq_some_getLast (List.cons_ne_nil byte value)]
      simpa using last

/-- Three digits fit into a status. -/
theorem toNat_status {d₀ d₁ d₂ : UInt8} (digits : [d₀, d₁, d₂].all Domain.isAsciiDigit) :
    ((d₀ - 48).toUInt16 * 100 + (d₁ - 48).toUInt16 * 10 + (d₂ - 48).toUInt16).toNat =
      decimalValue [d₀, d₁, d₂] := by
  have value {d : UInt8} (digit : Domain.isAsciiDigit d = true) :
      (d - 48).toUInt16.toNat = d.toNat - 48 ∧ d.toNat - 48 ≤ 9 := by
    obtain ⟨low, high⟩ : 48 ≤ d ∧ d ≤ 57 := by simpa [Domain.isAsciiDigit] using digit
    rw [UInt8.toNat_toUInt16, UInt8.toNat_sub_of_le _ _ low]
    have bound := UInt8.le_iff_toNat_le.mp high
    have literal : (57 : UInt8).toNat = 57 ∧ (48 : UInt8).toNat = 48 := by decide
    omega
  simp only [List.all_cons, List.all_nil, Bool.and_true, Bool.and_eq_true] at digits
  obtain ⟨value₀, bound₀⟩ := value digits.1
  obtain ⟨value₁, bound₁⟩ := value digits.2.1
  obtain ⟨value₂, bound₂⟩ := value digits.2.2
  simp only [UInt16.toNat_add, UInt16.toNat_mul, value₀, value₁, value₂, decimalValue,
    List.foldl_cons, List.foldl_nil, UInt16.toNat_ofNat]
  omega

theorem statusOf_iff {line : List UInt8} {code : UInt16} :
    statusOf line = some code ↔ (Line.status code).Text line := by
  constructor
  · intro found
    obtain ⟨⟨version, rest⟩, cut, checked⟩ := Option.bind_eq_some_iff.mp found
    obtain ⟨rfl, -⟩ := splitOnce_some cut
    dsimp only at checked
    split at checked
    · rename_i d₀ d₁ d₂ reason
      split at checked
      · cases checked
      rename_i wellFormed
      simp only [not_or, not_not, Bool.not_eq_true', Bool.not_eq_false, not_and] at wellFormed
      obtain ⟨known, digits, separated⟩ := wellFormed
      split at checked
      · cases checked
      rename_i inRange
      simp only [not_or, not_not] at inRange
      cases checked
      refine ⟨version, d₀, d₁, d₂, reason, rfl, known, digits, ?_, toNat_status digits,
        inRange.1.1, inRange.1.2, inRange.2⟩
      by_cases empty : reason = []
      · exact .inl empty
      · exact .inr (separated empty)
    · cases checked
  · rintro ⟨version, d₀, d₁, d₂, reason, rfl, known, digits, separated, value, low, high, notSwitching⟩
    have solid : ∀ version ∈ httpVersions, (32 : UInt8) ∉ version := by decide
    have same : (d₀ - 48).toUInt16 * 100 + (d₁ - 48).toUInt16 * 10 + (d₂ - 48).toUInt16 = code :=
      UInt16.toNat_inj.mp ((toNat_status digits).trans value.symm)
    rw [statusOf, splitOnce_concat _ (solid version known)]
    simp only [Option.bind_eq_bind, Option.bind_some]
    rw [if_neg, if_neg]
    · rw [same]
    · rw [same]
      simp [low, high, notSwitching]
    · simp only [not_or, not_not, Bool.not_eq_true', Bool.not_eq_false, not_and]
      exact ⟨known, digits, fun some => separated.resolve_left some⟩

theorem le_of_token : ∀ byte, isHttpTokenByte byte = true → byte ≤ 0x7e := by
  have each (n : Fin 256) : isHttpTokenByte (.ofNat n) = true → UInt8.ofNat n ≤ 0x7e := by
    revert n
    decide +kernel
  intro byte
  simpa using each byte.toFin

/-- The name of a field is text: its bytes are ASCII. -/
theorem text_of_token {name : List UInt8} (token : name.all isHttpTokenByte) :
    ∃ text, String.fromUTF8? ⟨name.toArray⟩ = some text ∧ utf8 text = name := by
  have ascii : utf8 (String.ofList (name.map fun byte => Char.ofNat byte.toNat)) = name :=
    utf8_of_ascii fun byte member => le_of_token byte (List.all_eq_true.mp token byte member)
  refine ⟨_, ?_, ascii⟩
  rw [← fromUTF8_utf8, ascii]

theorem fieldOf_iff {line name value : List UInt8} :
    fieldOf line = some (name, value) ↔ ∃ left right,
      line = name ++ 58 :: (left ++ value ++ right) ∧ name ≠ [] ∧ name.all isHttpTokenByte ∧
        left.all isAsciiWhitespace ∧ right.all isAsciiWhitespace ∧ Trimmed value := by
  constructor
  · intro found
    obtain ⟨⟨first, rest⟩, cut, checked⟩ := Option.bind_eq_some_iff.mp found
    obtain ⟨rfl, -⟩ := splitOnce_some cut
    dsimp only at checked
    split at checked
    · cases checked
    rename_i named
    simp only [Bool.or_eq_true, Bool.not_eq_true', not_or, Bool.not_eq_true, Bool.not_eq_false,
      List.isEmpty_eq_false_iff] at named
    cases checked
    obtain ⟨left, right, split, before, after, trimmed⟩ := trimAscii_spec rest
    exact ⟨left, right, by rw [← split], named.1, named.2, before, after, trimmed⟩
  · rintro ⟨left, right, rfl, named, token, before, after, trimmed⟩
    have absent : (58 : UInt8) ∉ name := by
      intro member
      have byte := List.all_eq_true.mp token 58 member
      exact absurd byte (by decide)
    rw [fieldOf, splitOnce_concat _ absent]
    simp only [Option.bind_eq_bind, Option.bind_some]
    rw [if_neg (by simpa [named] using token), trimAscii_append before after trimmed]

namespace Line

/-- A line with the version in front is no field, and no blank line. -/
theorem isStatus_iff {text : List UInt8} {line : Line} (written : line.Text text) :
    (stripPrefix (utf8 "HTTP/") text).isSome ↔ ∃ code, line = status code := by
  rw [Option.isSome_iff_exists]
  constructor
  · rintro ⟨behind, found⟩
    have starts := stripPrefix_iff.mp found
    cases line with
    | status code => exact ⟨code, rfl⟩
    | blank =>
      cases written
      cases starts
    | field name value =>
      obtain ⟨left, right, rfl, -, token, -⟩ := written
      have slash : (47 : UInt8) ∉ utf8 name := by
        intro member
        have byte := List.all_eq_true.mp token 47 member
        exact absurd byte (by decide)
      have plain : ∀ byte ∈ utf8 name, (byte != 58) = true := by
        intro byte member
        have ofToken := List.all_eq_true.mp token byte member
        rw [bne_iff_ne]
        rintro rfl
        exact absurd ofToken (by decide)
      have colon : (utf8 "HTTP/").all (· != 58) = true := by decide
      have cut := congrArg (List.takeWhile (· != 58)) starts
      rw [List.takeWhile_append_of_pos plain,
        List.takeWhile_append_of_pos (List.all_eq_true.mp colon)] at cut
      refine absurd ?_ slash
      rw [List.takeWhile_cons_of_neg (by decide), List.append_nil] at cut
      rw [cut]
      exact List.mem_append_left _ (by decide)
  · rintro ⟨code, rfl⟩
    obtain ⟨version, d₀, d₁, d₂, reason, rfl, known, -⟩ := written
    have starts : ∀ version ∈ httpVersions, version = utf8 "HTTP/" ++ version.drop 5 := by decide
    refine ⟨version.drop 5 ++ 32 :: d₀ :: d₁ :: d₂ :: reason, stripPrefix_iff.mpr ?_⟩
    rw [← List.append_assoc, ← starts version known]

/-- A line says one thing only. -/
theorem reads_unique {bytes : List UInt8} {line other : Line} (read : line.Reads bytes)
    (read' : other.Reads bytes) : line = other := by
  obtain ⟨text, clean, ended, written⟩ := read
  obtain ⟨text', clean', ended', written'⟩ := read'
  obtain rfl : text = text' := by
    have first := lineOf_iff.mpr ⟨clean, ended⟩
    rw [lineOf_iff.mpr ⟨clean', ended'⟩] at first
    exact (Option.some.inj first).symm
  have kind := (isStatus_iff written).symm.trans (isStatus_iff written')
  cases line with
  | status code =>
    obtain ⟨code', rfl⟩ := kind.mp ⟨code, rfl⟩
    have same := statusOf_iff.mpr written
    rw [statusOf_iff.mpr written'] at same
    cases same
    rfl
  | blank =>
    cases written
    cases other with
    | status code => exact absurd (kind.mpr ⟨code, rfl⟩) (by simp)
    | blank => rfl
    | field name value =>
      obtain ⟨left, right, empty, -⟩ := written'
      simp at empty
  | field name value =>
    cases other with
    | status code => exact absurd (kind.mpr ⟨code, rfl⟩) (by simp)
    | blank =>
      cases written'
      obtain ⟨left, right, empty, -⟩ := written
      simp at empty
    | field name' value' =>
      have same := fieldOf_iff.mpr written
      rw [fieldOf_iff.mpr written'] at same
      have names := congrArg Prod.fst (Option.some.inj same)
      have values := congrArg Prod.snd (Option.some.inj same)
      have texts := fromUTF8_utf8 name
      rw [← show utf8 name' = utf8 name from names, fromUTF8_utf8] at texts
      cases texts
      cases values
      rfl

end Line

end MannyUploader.Http
