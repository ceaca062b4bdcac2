import Mathlib.Algebra.Ring.Int.Defs
import Mathlib.Algebra.Ring.Nat
import Mathlib.Data.List.Basic

/-! JSON documents as trees: what a printer of trees is, with two that are, and how a record
with named members is read from a tree. -/
namespace MannyUploader.Foundation

/-- A number that is not a natural one keeps its text. -/
inductive Json
  | null
  | bool (value : Bool)
  | natural (value : Nat)
  | number (text : String)
  | string (value : String)
  | array (items : List Json)
  | object (members : List (String × Json))

namespace Json

def hexDigit (value : UInt8) : UInt8 := if value < 10 then 48 + value else 87 + value

/-- A byte inside of quotes. What is no ASCII stands for itself. -/
def escape (byte : UInt8) : List UInt8 :=
  if byte = 34 ∨ byte = 92 then [92, byte]
  else if byte = 8 then [92, 98]
  else if byte = 9 then [92, 116]
  else if byte = 10 then [92, 110]
  else if byte = 12 then [92, 102]
  else if byte = 13 then [92, 114]
  else if byte < 0x20 then [92, 117, 48, 48, hexDigit (byte / 16), hexDigit (byte % 16)]
  else [byte]

def bytes (text : String) : List UInt8 := text.toByteArray.data.toList

def quoted (text : String) : List UInt8 := 34 :: (bytes text).flatMap escape ++ [34]

theorem length_escape (byte : UInt8) : (escape byte).length ≤ 6 := by
  unfold escape
  repeat' split
  all_goals simp

theorem length_quoted (text : String) : (quoted text).length ≤ 6 * (bytes text).length + 2 := by
  have escaped : ∀ data : List UInt8, (data.flatMap escape).length ≤ 6 * data.length := by
    intro data
    induction data with
    | nil => simp
    | cons byte rest ih =>
      rw [List.flatMap_cons, List.length_append, List.length_cons]
      have := length_escape byte
      omega
  rw [quoted, List.length_append, List.length_cons, List.length_singleton]
  have := escaped (bytes text)
  omega

/-- A new line, indented by two blanks a level. -/
def newline (depth : Nat) : List UInt8 := 10 :: List.replicate (2 * depth) 32

mutual

def pretty (depth : Nat) : Json → List UInt8
  | null => bytes "null"
  | bool value => bytes (if value then "true" else "false")
  | natural value => bytes (toString value)
  | number text => bytes text
  | string value => quoted value
  | array [] => bytes "[]"
  | array items => 91 :: prettyItems (depth + 1) items ++ newline depth ++ [93]
  | object [] => bytes "{}"
  | object members => 123 :: prettyMembers (depth + 1) members ++ newline depth ++ [125]

def prettyItems (depth : Nat) : List Json → List UInt8
  | [] => []
  | [item] => newline depth ++ pretty depth item
  | item :: rest => newline depth ++ pretty depth item ++ 44 :: prettyItems depth rest

def prettyMembers (depth : Nat) : List (String × Json) → List UInt8
  | [] => []
  | [(name, value)] => newline depth ++ quoted name ++ [58, 32] ++ pretty depth value
  | (name, value) :: rest => newline depth ++ quoted name ++ [58, 32] ++ pretty depth value ++
      44 :: prettyMembers depth rest

end

mutual

/-- All on one line. -/
def compact : Json → List UInt8
  | null => bytes "null"
  | bool value => bytes (if value then "true" else "false")
  | natural value => bytes (toString value)
  | number text => bytes text
  | string value => quoted value
  | array items => 91 :: compactItems items ++ [93]
  | object members => 123 :: compactMembers members ++ [125]

def compactItems : List Json → List UInt8
  | [] => []
  | [item] => compact item
  | item :: rest => compact item ++ 44 :: compactItems rest

def compactMembers : List (String × Json) → List UInt8
  | [] => []
  | [(name, value)] => quoted name ++ 58 :: compact value
  | (name, value) :: rest => quoted name ++ 58 :: compact value ++ 44 :: compactMembers rest

end

/-! No byte of a text takes more than six, and each item or member stands on a line of its own
at most, indented by two blanks a level. -/

mutual

def bound (depth : Nat) : Json → Nat
  | null => 4
  | bool _ => 5
  | natural value => (bytes (toString value)).length
  | number text => (bytes text).length
  | string value => 6 * (bytes value).length + 2
  | array items => boundItems (depth + 1) items + 2 * depth + 3
  | object members => boundMembers (depth + 1) members + 2 * depth + 3

def boundItems (depth : Nat) : List Json → Nat
  | [] => 0
  | item :: rest => 2 * depth + 2 + bound depth item + boundItems depth rest

def boundMembers (depth : Nat) : List (String × Json) → Nat
  | [] => 0
  | (name, value) :: rest =>
    2 * depth + 6 * (bytes name).length + 6 + bound depth value + boundMembers depth rest

end

/-- What prints trees as bytes, and an object at least as its braces. -/
structure Printer where
  print : Json → List UInt8
  filled : ∀ members, print (object members) ≠ []
  bounded : ∀ value, (print value).length ≤ bound 0 value

theorem length_newline (depth : Nat) : (newline depth).length = 2 * depth + 1 := by
  rw [newline, List.length_cons, List.length_replicate]

mutual

theorem length_pretty (depth : Nat) : (value : Json) → (pretty depth value).length ≤ bound depth value
  | null => by simp only [pretty, bound]; decide
  | bool value => by cases value <;> simp only [pretty, bound] <;> decide
  | natural value => Nat.le_refl _
  | number text => Nat.le_refl _
  | string value => length_quoted value
  | array [] => by
    have two : (bytes "[]").length = 2 := by decide
    rw [pretty, bound, two]
    omega
  | array (item :: rest) => by
    have inner := length_prettyItems (depth + 1) (item :: rest)
    simp only [pretty, bound, List.length_append, List.length_cons, List.length_nil, length_newline]
    omega
  | object [] => by
    have two : (bytes "{}").length = 2 := by decide
    rw [pretty, bound, two]
    omega
  | object (member :: rest) => by
    have inner := length_prettyMembers (depth + 1) (member :: rest)
    simp only [pretty, bound, List.length_append, List.length_cons, List.length_nil, length_newline]
    omega

theorem length_prettyItems (depth : Nat) :
    (items : List Json) → (prettyItems depth items).length ≤ boundItems depth items
  | [] => Nat.le_refl _
  | [item] => by
    have inner := length_pretty depth item
    simp only [prettyItems, boundItems, List.length_append, length_newline]
    omega
  | item :: next :: rest => by
    have inner := length_pretty depth item
    have later := length_prettyItems depth (next :: rest)
    rw [prettyItems, boundItems]
    · simp only [List.length_append, List.length_cons, length_newline]
      omega
    · nofun

theorem length_prettyMembers (depth : Nat) : (members : List (String × Json)) →
    (prettyMembers depth members).length ≤ boundMembers depth members
  | [] => Nat.le_refl _
  | [(name, value)] => by
    have inner := length_pretty depth value
    have escaped := length_quoted name
    simp only [prettyMembers, boundMembers, List.length_append, List.length_cons, List.length_nil,
      length_newline]
    omega
  | (name, value) :: next :: rest => by
    have inner := length_pretty depth value
    have escaped := length_quoted name
    have later := length_prettyMembers depth (next :: rest)
    rw [prettyMembers, boundMembers]
    · simp only [List.length_append, List.length_cons, List.length_nil, length_newline]
      omega
    · nofun

end

mutual

theorem length_compact (depth : Nat) :
    (value : Json) → (compact value).length ≤ bound depth value
  | null => by simp only [compact, bound]; decide
  | bool value => by cases value <;> simp only [compact, bound] <;> decide
  | natural value => Nat.le_refl _
  | number text => Nat.le_refl _
  | string value => length_quoted value
  | array items => by
    have inner := length_compactItems (depth + 1) items
    simp only [compact, bound, List.length_append, List.length_cons, List.length_nil]
    omega
  | object members => by
    have inner := length_compactMembers (depth + 1) members
    simp only [compact, bound, List.length_append, List.length_cons, List.length_nil]
    omega

theorem length_compactItems (depth : Nat) :
    (items : List Json) → (compactItems items).length ≤ boundItems depth items
  | [] => Nat.le_refl _
  | [item] => by
    have inner := length_compact depth item
    simp only [compactItems, boundItems]
    omega
  | item :: next :: rest => by
    have inner := length_compact depth item
    have later := length_compactItems depth (next :: rest)
    rw [compactItems, boundItems]
    · simp only [List.length_append, List.length_cons]
      omega
    · nofun

theorem length_compactMembers (depth : Nat) : (members : List (String × Json)) →
    (compactMembers members).length ≤ boundMembers depth members
  | [] => Nat.le_refl _
  | [(name, value)] => by
    have inner := length_compact depth value
    have escaped := length_quoted name
    simp only [compactMembers, boundMembers, List.length_append, List.length_cons]
    omega
  | (name, value) :: next :: rest => by
    have inner := length_compact depth value
    have escaped := length_quoted name
    have later := length_compactMembers depth (next :: rest)
    rw [compactMembers, boundMembers]
    · simp only [List.length_append, List.length_cons]
      omega
    · nofun

end

/-- The printer over several lines. -/
def prettyPrinter : Printer where
  print := pretty 0
  filled members := by
    cases members with
    | nil => simp only [pretty]; decide
    | cons member rest => simp [pretty]
  bounded := length_pretty 0

/-- The printer without blanks. -/
def compactPrinter : Printer where
  print := compact
  filled members := by simp [compact]
  bounded := length_compact 0

/-- The members of a record: each has a known name, and none stands there twice. -/
def record (known : List String) : Json → Option (List (String × Json))
  | object members =>
    if members.all (known.contains ·.1) ∧ (members.map (·.1)).Nodup then some members else none
  | _ => none

/-- A member that is missing has the value `missing`, if that is allowed. -/
def member (members : List (String × Json)) (name : String) (read : Json → Option α)
    (missing : Option α) : Option α :=
  match members.lookup name with
  | some value => read value
  | none => missing

def asBool : Json → Option Bool
  | bool value => some value
  | _ => none

def asUInt32 : Json → Option UInt32
  | natural value => if value < 2 ^ 32 then some (UInt32.ofNat value) else none
  | _ => none

def asString : Json → Option String
  | string value => some value
  | _ => none

end Json
end MannyUploader.Foundation
