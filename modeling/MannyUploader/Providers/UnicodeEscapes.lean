import MannyUploader.Foundation.JsonGrammar
import MannyUploader.Providers.Wire

/-! The screen of Unicode escapes, byte by byte over an index as the code has it, and what it says
of a JSON text. -/
namespace MannyUploader.Providers
open Domain Foundation JsonGrammar

/-- `bytes.get(first..last)`. -/
def getRange (bytes : List UInt8) (first last : Nat) : Option (List UInt8) :=
  if first ≤ last ∧ last ≤ bytes.length then some ((bytes.drop first).take (last - first)) else none

def unicodeUnitAt (bytes : List UInt8) (index : Nat) : Option Nat := do
  let digits ← getRange bytes index (index + 4)
  unicodeUnit digits

/-- The digits behind the letter at `index`, and a second escape behind those of a high surrogate:
the index behind them, unless they are not valid. -/
def unicodeEscape (bytes : List UInt8) (index : Nat) : Option Nat := do
  let unit ← unicodeUnitAt bytes (index + 1)
  if isHighSurrogate unit then
    if getRange bytes (index + 5) (index + 7) ≠ some [92, 117] then none
    else do
      let low ← unicodeUnitAt bytes (index + 7)
      if !isLowSurrogate low then none else some (index + 11)
  else if isLowSurrogate unit then none
  else some (index + 5)

/-- One round of the loop of `valid_unicode_escapes`. `none` is the answer that the escapes are not
valid. -/
def escapeRound (bytes : List UInt8) (quoted : Bool) (index : Nat) (inside : index < bytes.length) :
    Option (Bool × Nat) :=
  if bytes.get ⟨index, inside⟩ = 34 then some (!quoted, index + 1)
  else if bytes.get ⟨index, inside⟩ = 92 ∧ quoted then
    if bytes[index + 1]? = some 117 then (unicodeEscape bytes (index + 1)).map (quoted, ·)
    else some (quoted, index + 2)
  else some (quoted, index + 1)

theorem unicodeUnitAt_inside {bytes : List UInt8} {index unit : Nat}
    (read : unicodeUnitAt bytes index = some unit) : index + 4 ≤ bytes.length := by
  obtain ⟨digits, found, -⟩ := Option.bind_eq_some_iff.mp read
  unfold getRange at found
  split at found
  · rename_i fits
    exact fits.2
  · cases found

theorem unicodeEscape_inside {bytes : List UInt8} {index next : Nat}
    (escaped : unicodeEscape bytes index = some next) : index < next ∧ next ≤ bytes.length := by
  obtain ⟨unit, read, checked⟩ := Option.bind_eq_some_iff.mp escaped
  have first := unicodeUnitAt_inside read
  split at checked
  · split at checked
    · cases checked
    obtain ⟨low, read', checked'⟩ := Option.bind_eq_some_iff.mp checked
    have second := unicodeUnitAt_inside read'
    split at checked'
    · cases checked'
    · cases checked'
      omega
  · split at checked
    · cases checked
    · cases checked
      omega

/-- Every round leaves the index further behind, and at most one place behind the end. -/
theorem escapeRound_moves {bytes : List UInt8} {quoted quoted' : Bool} {index next : Nat}
    {inside : index < bytes.length}
    (moved : escapeRound bytes quoted index inside = some (quoted', next)) :
    index < next ∧ next ≤ bytes.length + 1 := by
  unfold escapeRound at moved
  split at moved
  · cases moved
    omega
  split at moved
  · split at moved
    · obtain ⟨behind, escaped, same⟩ := Option.map_eq_some_iff.mp moved
      cases same
      have := unicodeEscape_inside escaped
      omega
    · cases moved
      omega
  · cases moved
    omega

/-- `valid_unicode_escapes` from one index on. -/
def validEscapesFrom (bytes : List UInt8) (quoted : Bool) (index : Nat) : Bool :=
  if inside : index < bytes.length then
    match _moved : escapeRound bytes quoted index inside with
    | none => false
    | some (quoted, next) => validEscapesFrom bytes quoted next
  else true
termination_by bytes.length - index
decreasing_by
  have := (escapeRound_moves _moved).1
  omega

theorem hexDigit_eq : ∀ byte, hexDigit byte = digitValue 16 byte := by
  have each (n : Fin 256) : hexDigit (.ofNat n) = digitValue 16 (.ofNat n) := by
    revert n
    decide +kernel
  intro byte
  simpa using each byte.toFin

theorem getRange_append (front rest : List UInt8) (first last : Nat) :
    getRange (front ++ rest) (front.length + first) (front.length + last) =
      getRange rest first last := by
  unfold getRange
  rw [List.drop_append, List.length_append, List.drop_eq_nil_of_le (Nat.le_add_right _ _)]
  simp [Nat.add_sub_add_left]

theorem unicodeUnitAt_append (front rest : List UInt8) (index : Nat) :
    unicodeUnitAt (front ++ rest) (front.length + index) = unicodeUnitAt rest index := by
  rw [unicodeUnitAt, Nat.add_assoc, getRange_append]
  rfl

theorem unicodeEscape_append (front rest : List UInt8) (index : Nat) :
    unicodeEscape (front ++ rest) (front.length + index) =
      (unicodeEscape rest index).map (front.length + ·) := by
  simp only [unicodeEscape, Nat.add_assoc, unicodeUnitAt_append, getRange_append]
  cases unicodeUnitAt rest (index + 1) with
  | none => rfl
  | some unit =>
    simp only [Option.bind_eq_bind, Option.bind_some]
    split
    · split
      · rfl
      · cases unicodeUnitAt rest (index + 7) with
        | none => rfl
        | some low =>
          simp only [Option.bind_some]
          split <;> rfl
    · split <;> rfl

/-- A round looks at nothing in front of its index. -/
theorem escapeRound_append (front rest : List UInt8) (quoted : Bool) (some' : 0 < rest.length)
    (inside : front.length < (front ++ rest).length) :
    escapeRound (front ++ rest) quoted front.length inside =
      (escapeRound rest quoted 0 some').map fun moved => (moved.1, front.length + moved.2) := by
  have byte : (front ++ rest).get ⟨front.length, inside⟩ = rest.get ⟨0, some'⟩ := by
    simp
  have next : (front ++ rest)[front.length + 1]? = rest[0 + 1]? := by
    rw [List.getElem?_append_right (Nat.le_add_right _ _), Nat.add_sub_cancel_left]
  unfold escapeRound
  rw [byte, next, unicodeEscape_append]
  split
  · rfl
  split
  · split
    · cases unicodeEscape rest (0 + 1) <;> rfl
    · rfl
  · rfl

/-! The bytes behind one that has been read. -/

theorem validUnicodeEscapes_outside (byte : UInt8) (rest : List UInt8) :
    validUnicodeEscapes false (byte :: rest) = validUnicodeEscapes (byte == 34) rest := by
  rw [validUnicodeEscapes.eq_def]

theorem validUnicodeEscapes_quote (rest : List UInt8) :
    validUnicodeEscapes true (34 :: rest) = validUnicodeEscapes false rest := by
  rw [validUnicodeEscapes.eq_def]
  rfl

theorem validUnicodeEscapes_plain {byte : UInt8} (rest : List UInt8) (quote : byte ≠ 34)
    (slash : byte ≠ 92) : validUnicodeEscapes true (byte :: rest) = validUnicodeEscapes true rest := by
  rw [validUnicodeEscapes.eq_def]
  simp only [quote, slash, if_false, ne_eq, not_false_eq_true, if_true]

theorem validUnicodeEscapes_short {letter : UInt8} (rest : List UInt8) (short : letter ≠ 117) :
    validUnicodeEscapes true (92 :: letter :: rest) = validUnicodeEscapes true rest := by
  rw [validUnicodeEscapes.eq_def]
  simp only [short, ne_eq, not_false_eq_true, if_true]
  rfl

/-- Behind the letter of a Unicode escape. -/
def validDigits : List UInt8 → Bool
  | a :: b :: c :: d :: rest =>
    match unicodeUnit [a, b, c, d] with
    | none => false
    | some unit =>
      if isHighSurrogate unit then
        match rest with
        | slash :: letter :: e :: f :: g :: h :: rest =>
          slash == 92 && letter == 117 && (unicodeUnit [e, f, g, h]).any isLowSurrogate &&
            validUnicodeEscapes true rest
        | _ => false
      else if isLowSurrogate unit then false
      else validUnicodeEscapes true rest
  | _ => false

theorem validUnicodeEscapes_unicode (rest : List UInt8) :
    validUnicodeEscapes true (92 :: 117 :: rest) = validDigits rest := by
  rw [validUnicodeEscapes.eq_def]
  rfl

/-- With fewer than four digits no unit is read. -/
theorem unicodeUnitAt_short {bytes : List UInt8} {index : Nat} (short : bytes.length < index + 4) :
    unicodeUnitAt bytes index = none := by
  rw [unicodeUnitAt, getRange, if_neg (by omega)]
  rfl

/-- The digits behind a letter, and what the index makes of them. -/
theorem validDigits_escape (slash letter : UInt8) (rest : List UInt8) :
    validDigits rest = match unicodeEscape (slash :: letter :: rest) 1 with
      | none => false
      | some next => validUnicodeEscapes true ((slash :: letter :: rest).drop next) := by
  rcases rest with _ | ⟨a, _ | ⟨b, _ | ⟨c, _ | ⟨d, rest⟩⟩⟩⟩ <;> try rfl
  have digits : unicodeUnitAt (slash :: letter :: a :: b :: c :: d :: rest) (1 + 1) =
      unicodeUnit [a, b, c, d] := by
    simp [unicodeUnitAt, getRange]
  rw [validDigits.eq_def, unicodeEscape, digits]
  dsimp only
  cases unicodeUnit [a, b, c, d] with
  | none => rfl
  | some unit =>
    simp only [Option.bind_eq_bind, Option.bind_some]
    by_cases high : isHighSurrogate unit
    · rw [if_pos high, if_pos high]
      rcases rest with _ | ⟨slash', _ | ⟨letter', _ | ⟨e, _ | ⟨f, _ | ⟨g, _ | ⟨h, rest⟩⟩⟩⟩⟩⟩
      case cons.cons.cons.cons.cons.cons =>
        have range : getRange (slash :: letter :: a :: b :: c :: d :: slash' :: letter' :: e :: f :: g ::
            h :: rest) (1 + 5) (1 + 7) = some [slash', letter'] := by
          simp [getRange]
        have digits' : unicodeUnitAt (slash :: letter :: a :: b :: c :: d :: slash' :: letter' :: e ::
            f :: g :: h :: rest) (1 + 7) = unicodeUnit [e, f, g, h] := by
          simp [unicodeUnitAt, getRange]
        rw [range, digits']
        dsimp only
        by_cases second : slash' = 92 ∧ letter' = 117
        · obtain ⟨rfl, rfl⟩ := second
          cases unicodeUnit [e, f, g, h] with
          | none => rfl
          | some low => cases lower : isLowSurrogate low <;> simp [lower]
        · rw [if_pos (by simpa using second)]
          simp [second]
      all_goals
        rw [unicodeUnitAt_short (by simp), Option.bind_none, ite_self]
    · rw [if_neg high, if_neg high]
      split <;> rfl

/-- One round, and then the bytes behind it. -/
theorem validUnicodeEscapes_round (byte : UInt8) (rest : List UInt8) (quoted : Bool) :
    validUnicodeEscapes quoted (byte :: rest) =
      match escapeRound (byte :: rest) quoted 0 (Nat.succ_pos _) with
      | none => false
      | some (quoted, next) => validUnicodeEscapes quoted ((byte :: rest).drop next) := by
  cases quoted with
  | false =>
    rw [validUnicodeEscapes_outside]
    by_cases quote : byte = 34
    · simp [escapeRound, quote]
    · simp [escapeRound, quote, beq_eq_false_iff_ne.mpr quote]
  | true =>
    by_cases quote : byte = 34
    · subst quote
      exact validUnicodeEscapes_quote rest
    by_cases slash : byte = 92
    · subst slash
      cases rest with
      | nil => rfl
      | cons letter rest =>
        by_cases unicode : letter = 117
        · subst unicode
          rw [validUnicodeEscapes_unicode, validDigits_escape 92 117]
          cases escaped : unicodeEscape (92 :: 117 :: rest) 1 <;> simp [escapeRound, escaped]
        · rw [validUnicodeEscapes_short rest unicode]
          simp [escapeRound, unicode]
    · rw [validUnicodeEscapes_plain rest quote slash]
      simp [escapeRound, quote, slash]

theorem validEscapesFrom_behind {bytes : List UInt8} {quoted : Bool} {index : Nat}
    (behind : bytes.length ≤ index) : validEscapesFrom bytes quoted index = true := by
  rw [validEscapesFrom, dif_neg (Nat.not_lt.mpr behind)]

/-- From any index on, the answer is that of the bytes that are left. -/
theorem validEscapesFrom_eq (front rest : List UInt8) (quoted : Bool) :
    validEscapesFrom (front ++ rest) quoted front.length = validUnicodeEscapes quoted rest := by
  induction length : rest.length using Nat.strong_induction_on generalizing front rest quoted with
  | _ length' ih =>
    cases rest with
    | nil =>
      rw [validEscapesFrom_behind (by simp), validUnicodeEscapes]
    | cons byte rest =>
      have inside : front.length < (front ++ byte :: rest).length := by simp
      have round := escapeRound_append front (byte :: rest) quoted (Nat.succ_pos _) inside
      rw [validUnicodeEscapes_round, validEscapesFrom, dif_pos inside]
      split
      · rename_i rejected
        rw [rejected] at round
        rw [Option.map_eq_none_iff.mp round.symm]
      · rename_i quoted' next moved
        rw [moved] at round
        obtain ⟨⟨quoted'', step⟩, here, same⟩ := Option.map_eq_some_iff.mp round.symm
        cases same
        rw [here]
        dsimp only
        by_cases fits : step ≤ (byte :: rest).length
        · have shift : front ++ byte :: rest =
              (front ++ (byte :: rest).take step) ++ (byte :: rest).drop step := by
            rw [List.append_assoc, List.take_append_drop]
          have place : front.length + step = (front ++ (byte :: rest).take step).length := by
            rw [List.length_append, List.length_take, Nat.min_eq_left fits]
          rw [shift, place]
          refine ih _ ?_ _ _ _ rfl
          have := (escapeRound_moves here).1
          rw [List.length_drop]
          omega
        · rw [List.drop_eq_nil_of_le (by omega), validUnicodeEscapes]
          exact validEscapesFrom_behind (by rw [List.length_append]; omega)

/-! What the screen says of a JSON text. -/

theorem hexDigit_eq_digitValue {byte : UInt8} (digit : (digitValue 16 byte).isSome) :
    hexDigit byte = some (hexValue byte) := by
  rw [hexDigit_eq, hexValue]
  obtain ⟨value, found⟩ := Option.isSome_iff_exists.mp digit
  rw [found]
  rfl

theorem unicodeUnit_piece {a b c d : UInt8} (digits : ∀ byte ∈ [a, b, c, d], (digitValue 16 byte).isSome) :
    unicodeUnit [a, b, c, d] = (Piece.unicode a b c d digits).unit := by
  simp [unicodeUnit, hexDigit_eq_digitValue (digits a (by simp)), hexDigit_eq_digitValue (digits b (by simp)),
    hexDigit_eq_digitValue (digits c (by simp)), hexDigit_eq_digitValue (digits d (by simp)), Piece.unit]

/-- Behind a high surrogate stands the escape of a low one. -/
theorem validDigits_high {a b c d : UInt8} {unit : Nat} (rest : List UInt8)
    (read : unicodeUnit [a, b, c, d] = some unit) (high : isHighSurrogate unit = true) :
    validDigits (a :: b :: c :: d :: rest) = true ↔ ∃ e f g h behind,
      rest = 92 :: 117 :: e :: f :: g :: h :: behind ∧
        (unicodeUnit [e, f, g, h]).any isLowSurrogate ∧ validUnicodeEscapes true behind = true := by
  rw [validDigits.eq_def]
  dsimp only
  rw [read]
  dsimp only
  rw [if_pos high]
  rcases rest with _ | ⟨slash, _ | ⟨letter, _ | ⟨e, _ | ⟨f, _ | ⟨g, _ | ⟨h, rest⟩⟩⟩⟩⟩⟩
  case cons.cons.cons.cons.cons.cons =>
    simp only [Bool.and_eq_true, beq_iff_eq]
    constructor
    · rintro ⟨⟨⟨rfl, rfl⟩, low⟩, behind⟩
      exact ⟨e, f, g, h, rest, rfl, low, behind⟩
    · rintro ⟨e', f', g', h', rest', same, low, behind⟩
      cases same
      exact ⟨⟨⟨rfl, rfl⟩, low⟩, behind⟩
  all_goals simp

theorem validDigits_other {a b c d : UInt8} {unit : Nat} (rest : List UInt8)
    (read : unicodeUnit [a, b, c, d] = some unit) (notHigh : isHighSurrogate unit = false) :
    validDigits (a :: b :: c :: d :: rest) =
      (!isLowSurrogate unit && validUnicodeEscapes true rest) := by
  rw [validDigits.eq_def]
  dsimp only
  rw [read]
  dsimp only
  rw [if_neg (by simp [notHigh])]
  cases isLowSurrogate unit <;> simp

theorem isHigh_iff {piece : Piece} {unit : Nat} (spelled : piece.unit = some unit) :
    isHighSurrogate unit = true ↔ piece.isHigh := by
  rw [isHighSurrogate, Bool.and_eq_true, decide_eq_true_eq, decide_eq_true_eq, Piece.isHigh, spelled]
  simp

theorem isLow_iff {piece : Piece} {unit : Nat} (spelled : piece.unit = some unit) :
    isLowSurrogate unit = true ↔ piece.isLow := by
  rw [isLowSurrogate, Bool.and_eq_true, decide_eq_true_eq, decide_eq_true_eq, Piece.isLow, spelled]
  simp

theorem not_surrogate {piece : Piece} (spelled : piece.unit = none) : ¬piece.isHigh ∧ ¬piece.isLow := by
  constructor
  · rintro ⟨unit, found, -⟩
    rw [spelled] at found
    cases found
  · rintro ⟨unit, found, -⟩
    rw [spelled] at found
    cases found

/-- Only an escape with digits starts with a backslash and its letter. -/
theorem unicode_of_text {pieces : List Piece} {rest behind : List UInt8} {e f g h : UInt8}
    (same : pieces.flatMap Piece.text ++ 34 :: rest = 92 :: 117 :: e :: f :: g :: h :: behind) :
    ∃ digits more, pieces = .unicode e f g h digits :: more ∧
      behind = more.flatMap Piece.text ++ 34 :: rest := by
  cases pieces with
  | nil => simp at same
  | cons piece more =>
    cases piece with
    | plain byte ordinary =>
      simp only [List.flatMap_cons, Piece.text, List.cons_append, List.cons.injEq] at same
      exact absurd same.1 ordinary.2.2
    | short letter known =>
      simp only [List.flatMap_cons, Piece.text, List.cons_append, List.nil_append,
        List.cons.injEq] at same
      rw [same.2.1] at known
      exact absurd known (by decide)
    | unicode a b c d digits =>
      simp only [List.flatMap_cons, Piece.text, List.cons_append, List.nil_append,
        List.cons.injEq, true_and] at same
      obtain ⟨rfl, rfl, rfl, rfl, behind⟩ := same
      exact ⟨digits, more, rfl, behind.symm⟩

theorem any_isLow {e f g h : UInt8} (digits : ∀ byte ∈ [e, f, g, h], (digitValue 16 byte).isSome) :
    (unicodeUnit [e, f, g, h]).any isLowSurrogate = true ↔ (Piece.unicode e f g h digits).isLow := by
  rw [unicodeUnit_piece digits, Piece.unit, Option.any_some]
  exact isLow_iff rfl

/-- Within a string every surrogate has to have its partner. -/
theorem validUnicodeEscapes_string (pieces : List Piece) (rest : List UInt8) :
    validUnicodeEscapes true (pieces.flatMap Piece.text ++ 34 :: rest) = true ↔
      Paired pieces ∧ validUnicodeEscapes false rest = true := by
  induction length : pieces.length using Nat.strong_induction_on generalizing pieces with
  | _ length' ih =>
    cases pieces with
    | nil =>
      rw [List.flatMap_nil, List.nil_append, validUnicodeEscapes_quote]
      exact (and_iff_right paired_nil).symm
    | cons piece more =>
      subst length
      have tail := ih more.length (Nat.lt_succ_self _) more rfl
      cases spelled : piece.unit with
      | none =>
        obtain ⟨notHigh, notLow⟩ := not_surrogate spelled
        rw [paired_cons notHigh notLow, ← tail]
        cases piece with
        | plain byte ordinary =>
          rw [List.flatMap_cons, Piece.text, List.singleton_append, List.cons_append,
            validUnicodeEscapes_plain _ ordinary.2.1 ordinary.2.2]
        | short letter known =>
          have short : letter ≠ 117 := by
            rintro rfl
            exact absurd known (by decide)
          simp only [List.flatMap_cons, Piece.text, List.cons_append, List.nil_append,
            validUnicodeEscapes_short _ short]
        | unicode a b c d digits => cases spelled
      | some unit =>
        cases piece with
        | plain byte ordinary => cases spelled
        | short letter known => cases spelled
        | unicode a b c d digits =>
          have read := (unicodeUnit_piece digits).trans spelled
          simp only [List.flatMap_cons, Piece.text, List.cons_append, List.nil_append,
            validUnicodeEscapes_unicode]
          cases high : isHighSurrogate unit with
          | true =>
            have isHigh := (isHigh_iff spelled).mp high
            rw [validDigits_high _ read high]
            constructor
            · rintro ⟨e, f, g, h, behind, same, low, valid⟩
              obtain ⟨digits', later, rfl, rfl⟩ := unicode_of_text same
              rw [paired_pair isHigh ((any_isLow digits').mp low)]
              exact (ih later.length (by simp only [List.length_cons]; omega) later rfl).mp valid
            · rintro ⟨paired, valid⟩
              cases more with
              | nil => exact absurd paired (not_paired_high isHigh fun next found => by cases found)
              | cons next later =>
                by_cases isLow : next.isLow
                · cases next with
                  | plain byte ordinary => exact absurd isLow (not_surrogate rfl).2
                  | short letter known => exact absurd isLow (not_surrogate rfl).2
                  | unicode e f g h digits' =>
                    rw [paired_pair isHigh isLow] at paired
                    have behind := (ih later.length (by simp only [List.length_cons]; omega) later rfl).mpr
                      ⟨paired, valid⟩
                    exact ⟨e, f, g, h, _, rfl, (any_isLow digits').mpr isLow, behind⟩
                · refine absurd paired (not_paired_high isHigh fun other found => ?_)
                  cases found
                  exact isLow
          | false =>
            have notHigh : ¬(Piece.unicode a b c d digits).isHigh := fun isHigh => by
              rw [(isHigh_iff spelled).mpr isHigh] at high
              cases high
            rw [validDigits_other _ read high, Bool.and_eq_true, Bool.not_eq_true', tail]
            cases low : isLowSurrogate unit with
            | true => simp [not_paired_low ((isLow_iff spelled).mp low)]
            | false =>
              have notLow : ¬(Piece.unicode a b c d digits).isLow := fun isLow => by
                rw [(isLow_iff spelled).mpr isLow] at low
                cases low
              rw [paired_cons notHigh notLow]
              exact and_iff_right rfl

theorem validUnicodeEscapes_unquoted {text : List UInt8} (rest : List UInt8) (plain : 34 ∉ text) :
    validUnicodeEscapes false (text ++ rest) = validUnicodeEscapes false rest := by
  induction text with
  | nil => rfl
  | cons byte text ih =>
    rw [List.mem_cons, not_or] at plain
    rw [List.cons_append, validUnicodeEscapes_outside, beq_eq_false_iff_ne.mpr (Ne.symm plain.1)]
    exact ih plain.2

theorem validUnicodeEscapes_mark {byte : UInt8} (rest : List UInt8) (other : byte ≠ 34) :
    validUnicodeEscapes false (byte :: rest) = validUnicodeEscapes false rest := by
  rw [validUnicodeEscapes_outside, beq_eq_false_iff_ne.mpr other]

theorem validUnicodeEscapes_stringText (pieces : List Piece) (rest : List UInt8) :
    validUnicodeEscapes false (stringText pieces ++ rest) = true ↔
      Paired pieces ∧ validUnicodeEscapes false rest = true := by
  rw [stringText, List.cons_append, List.cons_append, validUnicodeEscapes_outside, List.append_assoc]
  exact validUnicodeEscapes_string pieces rest

/-- The strings of a text decide, whatever stands behind it. -/
def Screened (text : List UInt8) (strings : List (List Piece)) : Prop :=
  ∀ rest, validUnicodeEscapes false (text ++ rest) = true ↔
    (∀ pieces ∈ strings, Paired pieces) ∧ validUnicodeEscapes false rest = true

namespace Screened
variable {text first : List UInt8} {strings more : List (List Piece)}

theorem plain (plain : 34 ∉ text) : Screened text [] := by
  intro rest
  rw [validUnicodeEscapes_unquoted rest plain]
  simp

theorem enclosed {opening closing : UInt8} (screened : Screened text strings) (opening' : opening ≠ 34)
    (closing' : closing ≠ 34) : Screened (opening :: text ++ [closing]) strings := by
  intro rest
  rw [List.append_assoc, List.cons_append, validUnicodeEscapes_mark _ opening', screened,
    List.singleton_append, validUnicodeEscapes_mark _ closing']

/-- Two texts, one behind the other and a mark between them. -/
theorem append {mark : UInt8} (screened : Screened first strings) (other : mark ≠ 34)
    (screened' : Screened text more) : Screened (first ++ mark :: text) (strings ++ more) := by
  intro rest
  rw [List.append_assoc, screened, List.cons_append, validUnicodeEscapes_mark _ other, screened',
    List.forall_mem_append, and_assoc]

end Screened

/-- Outside of strings nothing is screened. -/
theorem screened_of_reads {kind : Kind} {text : List UInt8} {strings : List (List Piece)}
    (reads : Reads kind text strings) : Screened text strings := by
  induction reads with
  | null => exact .plain (by decide)
  | true => exact .plain (by decide)
  | false => exact .plain (by decide)
  | number number => exact .plain (no_quote_of_number number)
  | string pieces =>
    intro rest
    rw [validUnicodeEscapes_stringText, List.forall_mem_singleton]
  | emptyArray blank => exact (Screened.plain (no_quote_of_blank blank)).enclosed (by decide) (by decide)
  | emptyObject blank => exact (Screened.plain (no_quote_of_blank blank)).enclosed (by decide) (by decide)
  | array reads ih => exact ih.enclosed (by decide) (by decide)
  | object reads ih => exact ih.enclosed (by decide) (by decide)
  | padded before reads after ih =>
    intro rest
    rw [List.append_assoc, List.append_assoc,
      validUnicodeEscapes_unquoted _ (no_quote_of_blank before), ih,
      validUnicodeEscapes_unquoted _ (no_quote_of_blank after)]
  | item reads ih => exact ih
  | items first later ih ih' => exact ih.append (by decide) ih'
  | field name before between reads ih =>
    intro rest
    rw [List.append_assoc, List.append_assoc, List.append_assoc,
      validUnicodeEscapes_unquoted _ (no_quote_of_blank before), validUnicodeEscapes_stringText,
      validUnicodeEscapes_unquoted _ (no_quote_of_blank between), List.cons_append,
      validUnicodeEscapes_mark _ (by decide), ih, List.forall_mem_cons, and_assoc]
  | member reads ih => exact ih
  | members first later ih ih' => exact ih.append (by decide) ih'

/-- `valid_unicode_escapes`. -/
def validEscapes (bytes : List UInt8) : Bool := validEscapesFrom bytes false 0

/-- Every round reads at an index inside of the bytes and moves on, so that the loop ends, with the
answer of the recursion over the bytes. A JSON text is accepted exactly when every surrogate in its
strings has its partner. -/
theorem escapes_screened :
    (∀ bytes quoted index inside quoted' next,
      escapeRound bytes quoted index inside = some (quoted', next) →
        index < next ∧ next ≤ bytes.length + 1) ∧
    (∀ bytes, validEscapes bytes = validUnicodeEscapes false bytes) ∧
    ∀ text strings, IsText text strings →
      (validEscapes text = true ↔ ∀ pieces ∈ strings, ∀ index, ¬Unpaired pieces index) := by
  have same (bytes : List UInt8) : validEscapes bytes = validUnicodeEscapes false bytes :=
    validEscapesFrom_eq [] bytes false
  refine ⟨fun _ _ _ _ _ _ moved => escapeRound_moves moved, same, fun text strings reads => ?_⟩
  have screened := screened_of_reads reads []
  rw [List.append_nil] at screened
  rw [same, screened]
  exact and_iff_left rfl

/-- A pair of surrogates. -/
def samplePieces : List Piece :=
  [.unicode 100 56 51 100 (List.all_eq_true.mp (by decide)),
    .unicode 100 69 48 48 (List.all_eq_true.mp (by decide))]

theorem escapes_screened_sample :
    validEscapes (stringText samplePieces) = true ∧ (0 < 1 ∧ 1 ≤ (stringText samplePieces).length + 1) := by
  have reads : IsText (stringText samplePieces) [samplePieces] := by
    have blank : IsBlank [] := nofun
    have padded := Reads.padded blank (.string samplePieces) blank
    rwa [List.nil_append, List.append_nil] at padded
  have paired : Paired samplePieces :=
    (paired_pair ⟨0xd83d, rfl, by decide, by decide⟩ ⟨0xde00, rfl, by decide, by decide⟩).mpr paired_nil
  refine ⟨(escapes_screened.2.2 _ _ reads).mpr fun pieces member => ?_,
    escapes_screened.1 (stringText samplePieces) false 0 (by decide) true 1 (by decide)⟩
  rw [List.mem_singleton.mp member]
  exact paired

end MannyUploader.Providers
