import Mathlib.Data.List.Basic

/-! Text as its UTF-8 bytes: cutting at ASCII patterns, and the numbers and IPv6 addresses
that the standard library reads. -/
namespace MannyUploader.Foundation

/-- `str::strip_prefix`. -/
def stripPrefix : (pattern text : List UInt8) → Option (List UInt8)
  | [], text => some text
  | _ :: _, [] => none
  | first :: pattern, byte :: text => if first = byte then stripPrefix pattern text else none

/-- `str::split_once`: around the first occurrence of the pattern. -/
def splitOnce (pattern : List UInt8) : List UInt8 → Option (List UInt8 × List UInt8)
  | [] => (stripPrefix pattern []).map fun behind => ([], behind)
  | byte :: text =>
    match stripPrefix pattern (byte :: text) with
    | some behind => some ([], behind)
    | none => (splitOnce pattern text).map fun parts => (byte :: parts.1, parts.2)

def digitValue (radix : Nat) (byte : UInt8) : Option Nat :=
  let value :=
    if 48 ≤ byte ∧ byte ≤ 57 then some (byte.toNat - 48)
    else if 97 ≤ byte ∧ byte ≤ 102 then some (byte.toNat - 87)
    else if 65 ≤ byte ∧ byte ≤ 70 then some (byte.toNat - 55)
    else none
  value.filter (· < radix)

/-- The digits in front of a text: their value, their number, and the rest. -/
def readDigits (radix : Nat) : List UInt8 → (value count : Nat) → Nat × Nat × List UInt8
  | [], value, count => (value, count, [])
  | byte :: text, value, count =>
    match digitValue radix byte with
    | some digit => readDigits radix text (radix * value + digit) (count + 1)
    | none => (value, count, byte :: text)

/-! `std::net::parser`: each reader gives a value and the rest of the text. -/

def readNumber (radix maxDigits : Nat) (allowZeroPrefix : Bool) (maximum : Nat)
    (text : List UInt8) : Option (Nat × List UInt8) :=
  let (value, count, rest) := readDigits radix text 0 0
  if count = 0 ∨ maxDigits < count then none
  else if !allowZeroPrefix && text.head? == some 48 && decide (1 < count) then none
  else if maximum < value then none
  else some (value, rest)

/-- The separator stands in front of every part but the first. -/
def readSeparator (separator : UInt8) (index : Nat) (inner : List UInt8 → Option (α × List UInt8))
    (text : List UInt8) : Option (α × List UInt8) :=
  if index = 0 then inner text
  else match text with
    | byte :: rest => if byte = separator then inner rest else none
    | [] => none

/-- As many decimal octets as are still missing of the four. -/
def readOctets : (missing : Nat) → List UInt8 → Option (List Nat × List UInt8)
  | 0, text => some ([], text)
  | missing + 1, text => do
    let (octet, rest) ← readSeparator 46 (4 - (missing + 1)) (readNumber 10 3 false 255) text
    let (octets, rest) ← readOctets missing rest
    some (octet :: octets, rest)

/-- The groups read so far in the front, whether an IPv4 address ended them, and the rest. -/
def readGroups (limit : Nat) : (missing : Nat) → List UInt8 → List Nat →
    List Nat × Bool × List UInt8
  | 0, text, groups => (groups, false, text)
  | missing + 1, text, groups =>
    let index := limit - (missing + 1)
    match if index + 1 < limit then readSeparator 58 index (readOctets 4) text else none with
    | some (octets, rest) =>
      let pair := fun first => 256 * octets.getD first 0 + octets.getD (first + 1) 0
      (groups ++ [pair 0, pair 2], true, rest)
    | none =>
      match readSeparator 58 index (readNumber 16 4 true 65_535) text with
      | some (group, rest) => readGroups limit missing rest (groups ++ [group])
      | none => (groups, false, text)

/-- `Ipv6Addr::from_str`: the eight groups. -/
def parseIpv6 (text : List UInt8) : Option (List Nat) :=
  let (head, ipv4, rest) := readGroups 8 8 text []
  let read : Option (List Nat × List UInt8) :=
    if head.length = 8 then some (head, rest)
    else if ipv4 then none
    else match rest with
      | 58 :: 58 :: rest =>
        let limit := 8 - (head.length + 1)
        let (tail, _, rest) := readGroups limit limit rest []
        some (head ++ List.replicate (8 - head.length - tail.length) 0 ++ tail, rest)
      | _ => none
  match read with
  | some (groups, []) => some groups
  | _ => none

/-- A number of decimal digits only, as `parse::<u16>` reads it. -/
def parsePort (digits : List UInt8) : Option Nat :=
  let (value, count, rest) := readDigits 10 digits 0 0
  if count = 0 ∨ rest ≠ [] ∨ 65_535 < value then none else some value

example : parseIpv6 [58, 58, 49] = some [0, 0, 0, 0, 0, 0, 0, 1] := by decide

theorem stripPrefix_iff {pattern text behind : List UInt8} :
    stripPrefix pattern text = some behind ↔ text = pattern ++ behind := by
  induction pattern generalizing text with
  | nil => simp [stripPrefix, eq_comm]
  | cons first pattern ih =>
    cases text with
    | nil => simp [stripPrefix]
    | cons byte text =>
      by_cases same : first = byte
      · subst same
        simp [stripPrefix, ih]
      · simp [stripPrefix, same, Ne.symm same]

/-- What `splitOnce` finds is the first occurrence of a single byte. -/
theorem splitOnce_byte (byte : UInt8) (text : List UInt8) :
    splitOnce [byte] text = if byte ∈ text then
      some (text.takeWhile (· != byte), (text.dropWhile (· != byte)).tail) else none := by
  induction text with
  | nil => rfl
  | cons other text ih =>
    by_cases same : byte = other
    · subst same
      simp [splitOnce, stripPrefix]
    · have different : (other != byte) = true := by simpa using Ne.symm same
      simp only [splitOnce, stripPrefix, if_neg same, ih, List.mem_cons, or_iff_right same]
      split
      · simp [different]
      · rfl

theorem splitOnce_concat {byte : UInt8} {first : List UInt8} (rest : List UInt8)
    (absent : byte ∉ first) : splitOnce [byte] (first ++ byte :: rest) = some (first, rest) := by
  have different : ∀ other ∈ first, (other != byte) = true := by
    intro other member
    simpa using fun same : other = byte => absent (same ▸ member)
  rw [splitOnce_byte, if_pos (by simp), List.takeWhile_append_of_pos different,
    List.dropWhile_append_of_pos different]
  simp

theorem splitOnce_some {byte : UInt8} {text first rest : List UInt8}
    (cut : splitOnce [byte] text = some (first, rest)) :
    text = first ++ byte :: rest ∧ byte ∉ first := by
  induction text generalizing first with
  | nil => cases cut
  | cons other text ih =>
    unfold splitOnce at cut
    split at cut
    · rename_i behind here
      cases cut
      exact ⟨by simpa using stripPrefix_iff.mp here, List.not_mem_nil⟩
    · rename_i elsewhere
      obtain ⟨parts, found, same⟩ := Option.map_eq_some_iff.mp cut
      cases same
      obtain ⟨rfl, absent⟩ := ih found
      refine ⟨rfl, ?_⟩
      rw [List.mem_cons, not_or]
      refine ⟨?_, absent⟩
      rintro rfl
      simp [stripPrefix] at elsewhere

end MannyUploader.Foundation
