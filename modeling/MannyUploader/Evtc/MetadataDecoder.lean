import MannyUploader.Application.LogIngestion

/-! The revision-1 subset of an uncompressed EVTC payload: header, agent table, skill table
and combat events, all little-endian. Offsets and sizes are those of the format contract. -/
namespace MannyUploader.Evtc
open Application Domain

def agentSize : Nat := 96
def skillSize : Nat := 68
def eventSize : Nat := 64
def maxAgents : Nat := 100_000
def maxSkills : Nat := 65_535
def maxEvents : Nat := 10_000_000

/-- `Cursor::take`: the bytes and what is left behind them. -/
def take (length : Nat) (bytes : List UInt8) : Except MetadataError (List UInt8 × List UInt8) :=
  if length ≤ bytes.length then .ok (bytes.take length, bytes.drop length)
  else .error .malformedLog

/-- A little-endian field of a record. -/
def field (record : List UInt8) (offset width : Nat) : Nat :=
  ((record.drop offset).take width).foldr (fun byte rest => byte.toNat + 256 * rest) 0

def u16At (record : List UInt8) (offset : Nat) : UInt16 := .ofNat (field record offset 2)
def u32At (record : List UInt8) (offset : Nat) : UInt32 := .ofNat (field record offset 4)
def u64At (record : List UInt8) (offset : Nat) : UInt64 := .ofNat (field record offset 8)

/-- `Cursor::table`. A count within the limit cannot overflow the size. -/
def table (width limit : Nat) (bytes : List UInt8) :
    Except MetadataError (List UInt8 × List UInt8) := do
  let (count, rest) ← take 4 bytes
  if (u32At count 0).toNat > limit then .error .malformedLog
  else take ((u32At count 0).toNat * width) rest

/-- `chunks_exact`. -/
def chunksExact (width : Nat) (bytes : List UInt8) : List (List UInt8) :=
  (List.range (bytes.length / width)).map fun index => (bytes.drop (index * width)).take width

/-- The segments of the 64-byte name field. -/
def nameSegments (agent : List UInt8) : List (List UInt8) :=
  ((agent.drop 28).take 64).splitOn 0

/-- A following segment proves that the account terminator was inside the fixed field. -/
def account (agent : List UInt8) : Except MetadataError String :=
  match nameSegments agent with
  | _ :: account :: _ :: _ =>
    if account.isEmpty then .error .missingPointOfView
    else match String.fromUTF8? ⟨account.toArray⟩ with
      | some text => .ok text
      | none => .error .malformedLog
  | _ => .error .malformedLog

/-- The answer of the stop token to one check. -/
def checkStop (stop : Nat → Bool) (check : Nat) : Except MetadataError Unit :=
  if stop check then .error .cancelled else .ok ()

/-- The elite marker of an agent that is no player. -/
def isNpc (agent : List UInt8) : Bool := u32At agent 12 == 0xFFFFFFFF

def isBoss (bossId : UInt16) (agent : List UInt8) : Bool :=
  u64At agent 0 != 0 && isNpc agent && (u32At agent 8 >>> 16) != 0xFFFF &&
    (u32At agent 8).toUInt16 == bossId

def findBosses (stop : Nat → Bool) (bossId : UInt16) : (check : Nat) → List (List UInt8) →
    Except MetadataError (List UInt64)
  | _, [] => .ok []
  | check, agent :: rest => do
    checkStop stop check
    let others ← findBosses stop bossId (check + 1) rest
    .ok (if isBoss bossId agent then u64At agent 0 :: others else others)

structure Scan where
  pov : Option UInt64
  health : Option UInt16
deriving DecidableEq, Repr

def isPointOfView (event : List UInt8) : Bool := event[56]? == some 13 && u64At event 8 != 0

/-- A binary search of the sorted addresses finds what the list contains. -/
def isHealthUpdate (bosses : List UInt64) (event : List UInt8) : Bool :=
  event[56]? == some 8 && bosses.contains (u64At event 8)

def scanEvent (bosses : List UInt64) (scan : Scan) (event : List UInt8) : Scan :=
  if isPointOfView event && scan.pov.isNone then { scan with pov := some (u64At event 8) }
  else if isHealthUpdate bosses event && u64At event 16 ≤ 10_000 then
    { scan with health := some (u64At event 16).toUInt16 }
  else scan

def scanEvents (stop : Nat → Bool) (bosses : List UInt64) : (check : Nat) → List (List UInt8) →
    Scan → Except MetadataError Scan
  | _, [], scan => .ok scan
  | check, event :: rest, scan => do
    checkStop stop check
    scanEvents stop bosses (check + 1) rest (scanEvent bosses scan event)

/-- The account of the first agent with the address of the point of view. -/
def povAccount (stop : Nat → Bool) (pov : UInt64) : (check : Nat) → List (List UInt8) →
    Except MetadataError String
  | _, [] => .error .missingPointOfView
  | check, agent :: rest => do
    checkStop stop check
    if u64At agent 0 = pov then
      if isNpc agent then .error .missingPointOfView else account agent
    else povAccount stop pov (check + 1) rest

/-- The three scans of the tables. -/
def decodeTables (stop : Nat → Bool) (bossId : UInt16) (agents events : List (List UInt8)) :
    Except MetadataError EncounterMetadata := do
  let bosses ← findBosses stop bossId 1 agents
  checkStop stop (1 + agents.length)
  let scan ← scanEvents stop bosses (2 + agents.length) events ⟨none, none⟩
  match scan.pov with
  | none => .error .missingPointOfView
  | some pov => do
    let povAccount ← povAccount stop pov (2 + agents.length + events.length) agents
    .ok { bossId, povAccount, remainingHealthBasisPoints := scan.health }

/-- `stop` gives the answers of the stop token in the order of the checks. -/
def decode (stop : Nat → Bool) (payload : List UInt8) :
    Except MetadataError EncounterMetadata := do
  checkStop stop 0
  let (header, rest) ← take 16 payload
  if header.take 4 ≠ utf8 "EVTC" ∨ header[12]? ≠ some 1 then .error .unsupportedFormat
  else do
    let (agents, rest) ← table agentSize maxAgents rest
    let (_, events) ← table skillSize maxSkills rest
    if events.length % eventSize ≠ 0 ∨ events.length / eventSize > maxEvents then
      .error .malformedLog
    else
      decodeTables stop (u16At header 13) (chunksExact agentSize agents)
        (chunksExact eventSize events)

end MannyUploader.Evtc
