/-! Paths as the Windows standard library reads them. A path is the encoded bytes of an
`OsString`; equality of paths and of file identities goes through its components. -/
namespace MannyUploader.Domain

structure PathBuf where
  bytes : List UInt8
deriving DecidableEq, Repr

namespace Path

def slash : UInt8 := 47
def backslash : UInt8 := 92
def colon : UInt8 := 58
def dot : UInt8 := 46
def question : UInt8 := 63

/-- `std::path::Prefix`. -/
inductive PathPrefix
  | verbatim (name : List UInt8)
  | verbatimUnc (server share : List UInt8)
  | verbatimDisk (drive : UInt8)
  | deviceNs (name : List UInt8)
  | unc (server share : List UInt8)
  | disk (drive : UInt8)
deriving DecidableEq, Repr

/-- `std::path::Component`. -/
inductive Component
  | leading (start : PathPrefix)
  | rootDir
  | curDir
  | parentDir
  | normal (name : List UInt8)
deriving DecidableEq, Repr

def PathPrefix.isVerbatim : PathPrefix → Bool
  | .verbatim _ | .verbatimUnc _ _ | .verbatimDisk _ => true
  | _ => false

def PathPrefix.hasImplicitRoot : PathPrefix → Bool
  | .disk _ => false
  | _ => true

/-- The number of bytes of the path that the prefix takes. -/
def PathPrefix.length : PathPrefix → Nat
  | .verbatim name => 4 + name.length
  | .verbatimUnc server share =>
    8 + server.length + if share.isEmpty then 0 else 1 + share.length
  | .verbatimDisk _ => 6
  | .unc server share => 2 + server.length + if share.isEmpty then 0 else 1 + share.length
  | .deviceNs name => 4 + name.length
  | .disk _ => 2

def isSeparator (verbatim : Bool) (byte : UInt8) : Bool :=
  byte == backslash || (!verbatim && byte == slash)

/-- The bytes up to the next separator, and those behind it. -/
def parseNextComponent (verbatim : Bool) (path : List UInt8) : List UInt8 × List UInt8 :=
  (path.takeWhile (!isSeparator verbatim ·), (path.dropWhile (!isSeparator verbatim ·)).drop 1)

def asciiAlphabetic (byte : UInt8) : Bool :=
  (65 ≤ byte && byte ≤ 90) || (97 ≤ byte && byte ≤ 122)

def asciiUppercase (byte : UInt8) : UInt8 :=
  if 97 ≤ byte && byte ≤ 122 then byte - 32 else byte

def asciiLowercase (byte : UInt8) : UInt8 :=
  if 65 ≤ byte && byte ≤ 90 then byte + 32 else byte

def parseDrive : List UInt8 → Option UInt8
  | drive :: mark :: _ =>
    if asciiAlphabetic drive && mark == colon then some (asciiUppercase drive) else none
  | _ => none

def parseDriveExact (path : List UInt8) : Option UInt8 :=
  if (path[2]?.map (isSeparator false)).getD true then parseDrive path else none

/-- Only the first eight bytes may spell the fixed part of a prefix with slashes. -/
def startsWith (text path : List UInt8) : Bool :=
  (path.take text.length).map (fun byte => if byte == slash then backslash else byte) == text

def parsePrefix (path : List UInt8) : Option PathPrefix :=
  if startsWith [backslash, backslash] path then
    if startsWith [backslash, backslash, question, backslash] path &&
        !(path.take 4).contains slash then
      if startsWith [backslash, backslash, question, backslash, 85, 78, 67, backslash] path then
        let (server, rest) := parseNextComponent true (path.drop 8)
        some (.verbatimUnc server (parseNextComponent true rest).1)
      else
        match parseDriveExact (path.drop 4) with
        | some drive => some (.verbatimDisk drive)
        | none => some (.verbatim (parseNextComponent true (path.drop 4)).1)
    else if startsWith [backslash, backslash, dot, backslash] path then
      some (.deviceNs (parseNextComponent false (path.drop 4)).1)
    else
      let (server, rest) := parseNextComponent false (path.drop 2)
      let share := (parseNextComponent false rest).1
      if !server.isEmpty && !share.isEmpty then some (.unc server share) else none
  else (parseDrive path).map .disk

/-- `Components::parse_single_component`. -/
def parseSingleComponent (verbatim : Bool) (component : List UInt8) : Option Component :=
  if component = [dot] then if verbatim then some .curDir else none
  else if component = [dot, dot] then some .parentDir
  else if component = [] then none
  else some (.normal component)

/-- The body of a path, split at its separators. -/
def splitBody (verbatim : Bool) : List UInt8 → List (List UInt8)
  | [] => [[]]
  | byte :: rest =>
    if isSeparator verbatim byte then [] :: splitBody verbatim rest
    else match splitBody verbatim rest with
      | [] => [[byte]]
      | first :: others => (byte :: first) :: others

/-- A leading `.` counts only in a path without a root. -/
def includeCurDir (body : List UInt8) : Bool :=
  match body with
  | [first] => first == dot
  | first :: second :: _ => first == dot && isSeparator false second
  | [] => false

end Path

open Domain.Path

/-- `Path::components`. -/
def PathBuf.components (path : PathBuf) : List Component :=
  let start := parsePrefix path.bytes
  let verbatim := (start.map PathPrefix.isVerbatim).getD false
  let body := path.bytes.drop ((start.map PathPrefix.length).getD 0)
  let physicalRoot := (body.head?.map (isSeparator false)).getD false
  let implicitRoot := (start.map fun p => p.hasImplicitRoot && !p.isVerbatim).getD false
  let hasRoot := physicalRoot || (start.map PathPrefix.hasImplicitRoot).getD false
  let lead : List Component :=
    if physicalRoot || implicitRoot then [.rootDir]
    else if !hasRoot && start.isNone && includeCurDir body then [.curDir]
    else []
  let rest := if physicalRoot then body.drop 1 else body
  (start.map Component.leading).toList ++ lead ++
    (splitBody verbatim rest).filterMap (parseSingleComponent verbatim)

/-- `PartialEq` of paths compares their components. -/
def PathBuf.same (left right : PathBuf) : Bool :=
  left.components == right.components

theorem PathBuf.same_iff {left right : PathBuf} :
    left.same right = true ↔ left.components = right.components :=
  beq_iff_eq

/-- `identity_component`: verbatim drive and UNC prefixes count as the ordinary ones. -/
def identityComponent : Component → Component
  | .leading (.verbatimDisk drive) => .leading (.disk drive)
  | .leading (.verbatimUnc server share) => .leading (.unc server share)
  | other => other

def PathBuf.identity (path : PathBuf) : List Component :=
  path.components.map identityComponent

/-- `Path::to_str`. -/
def PathBuf.toStr (path : PathBuf) : Option String :=
  String.fromUTF8? ⟨path.bytes.toArray⟩

def PathBuf.fileName (path : PathBuf) : Option (List UInt8) :=
  match path.components.getLast? with
  | some (.normal name) => some name
  | _ => none

/-- `Path::extension`: what follows the last dot of the file name, unless that dot is its
first character. -/
def PathBuf.extension (path : PathBuf) : Option (List UInt8) :=
  path.fileName.bind fun name =>
    let after := (name.reverse.takeWhile (· != dot)).reverse
    let before := name.take (name.length - after.length - 1)
    if name.contains dot && !before.isEmpty then some after else none

end MannyUploader.Domain
