import MannyUploader.Config.HistoryLaws
import MannyUploader.Evtc.MetadataDecoder

/-! Where the decoded account stands in the payload, and what the history makes of it. The
decoder takes the account as it is, and the history refuses control characters. -/
namespace MannyUploader.Evtc
open Application Domain Foundation

section layout

def agentCount (payload : List UInt8) : Nat := (u32At payload 16).toNat

def agentTable (payload : List UInt8) : List (List UInt8) :=
  chunksExact agentSize ((payload.drop 20).take (agentCount payload * agentSize))

/-- Where the skill table begins, with its count. -/
def skillOffset (payload : List UInt8) : Nat := 20 + agentCount payload * agentSize

def skillCount (payload : List UInt8) : Nat := (u32At payload (skillOffset payload)).toNat

def eventTable (payload : List UInt8) : List (List UInt8) :=
  chunksExact eventSize (payload.drop (skillOffset payload + 4 + skillCount payload * skillSize))

/-- The address that the first point-of-view event names. -/
def povAddress (payload : List UInt8) : Option UInt64 :=
  ((eventTable payload).find? isPointOfView).map (u64At · 8)

/-- The account bytes of the first agent at that address. -/
def accountBytes (payload : List UInt8) : Option (List UInt8) := do
  let pov ← povAddress payload
  let agent ← (agentTable payload).find? (u64At · 0 = pov)
  (nameSegments agent)[1]?

/-- The account holds no control character but the tab. -/
def PrintableAccount (payload : List UInt8) : Prop :=
  ∀ account ∈ accountBytes payload, ∀ byte ∈ account, byte < 0x20 → byte = 9

end layout

section inversion
variable {stop : Nat → Bool} {bytes found rest payload : List UInt8}

theorem take_ok {length : Nat} (h : take length bytes = .ok (found, rest)) :
    length ≤ bytes.length ∧ found = bytes.take length ∧ rest = bytes.drop length := by
  unfold take at h
  split at h
  · cases h; exact ⟨‹_›, rfl, rfl⟩
  · cases h

theorem field_take {offset width length : Nat} (inside : offset + width ≤ length) :
    field (bytes.take length) offset width = field bytes offset width := by
  unfold field
  rw [List.drop_take, List.take_take, Nat.min_eq_left (by omega)]

theorem field_drop (count offset width : Nat) :
    field (bytes.drop count) offset width = field bytes (count + offset) width := by
  unfold field
  rw [List.drop_drop]

theorem table_ok {width limit : Nat} (h : table width limit bytes = .ok (found, rest)) :
    found = (bytes.drop 4).take ((u32At bytes 0).toNat * width) ∧
      rest = bytes.drop (4 + (u32At bytes 0).toNat * width) := by
  unfold table at h
  obtain ⟨⟨count, behind⟩, counted, h⟩ := bind_ok h
  obtain ⟨-, rfl, rfl⟩ := take_ok counted
  dsimp only at h
  split at h
  · cases h
  obtain ⟨-, taken, left⟩ := take_ok h
  have same : u32At (bytes.take 4) 0 = u32At bytes 0 := by
    rw [u32At, u32At, field_take (by omega)]
  rw [same] at taken left
  exact ⟨taken, by rw [left, List.drop_drop]⟩

/-- An event is the point of view or a health update, and the first of the former stays. -/
theorem scanEvent_pov (bosses : List UInt64) (scan : Scan) (event : List UInt8) :
    (scanEvent bosses scan event).pov =
      scan.pov.or (if isPointOfView event then some (u64At event 8) else none) := by
  unfold scanEvent
  cases pov : scan.pov with
  | none =>
    cases viewed : isPointOfView event with
    | true => simp
    | false =>
      rw [if_neg (by simp)]
      split <;> simp [pov]
  | some found =>
    rw [if_neg (by simp)]
    split <;> simp [pov]

theorem scanEvent_health {bosses : List UInt64} {scan : Scan} {event : List UInt8}
    (h : ∀ value ∈ scan.health, value.toNat ≤ 10_000) :
    ∀ value ∈ (scanEvent bosses scan event).health, value.toNat ≤ 10_000 := by
  unfold scanEvent
  split
  · exact h
  split
  · rename_i update
    intro value found
    obtain rfl : (u64At event 16).toUInt16 = value := by simpa using found
    have bounded : (u64At event 16).toNat ≤ 10_000 := by
      simpa [UInt64.le_iff_toNat_le] using (Bool.and_eq_true_iff.mp update).2
    rw [UInt64.toNat_toUInt16]
    omega
  · exact h

/-- One scan: the first point of view is kept, and the health stays within its bound. -/
theorem scanEvents_ok {bosses : List UInt64} {events : List (List UInt8)} {check : Nat}
    {scan result : Scan} (h : scanEvents stop bosses check events scan = .ok result)
    (bounded : ∀ value ∈ scan.health, value.toNat ≤ 10_000) :
    result.pov = scan.pov.or ((events.find? isPointOfView).map (u64At · 8)) ∧
      ∀ value ∈ result.health, value.toNat ≤ 10_000 := by
  induction events generalizing check scan with
  | nil =>
    cases h
    exact ⟨by simp, bounded⟩
  | cons event rest ih =>
    obtain ⟨-, -, h⟩ := bind_ok h
    obtain ⟨pov, health⟩ := ih h (scanEvent_health bounded)
    refine ⟨?_, health⟩
    rw [pov, scanEvent_pov, Option.or_assoc, List.find?_cons]
    cases isPointOfView event with
    | true => simp
    | false => simp

theorem length_of_mem_splitOn {parts : List UInt8} {sep : UInt8} {part : List UInt8}
    (h : part ∈ parts.splitOn sep) : part.length ≤ parts.length := by
  induction parts generalizing part with
  | nil => simp_all
  | cons byte rest ih =>
    rw [List.splitOn_cons_eq_if_modifyHead] at h
    split at h
    · rcases List.mem_cons.mp h with rfl | later
      · simp
      · exact Nat.le_succ_of_le (ih later)
    · cases parted : rest.splitOn sep with
      | nil => exact absurd parted (List.splitOn_ne_nil sep rest)
      | cons first others =>
        rw [parted] at h ih
        rcases List.mem_cons.mp h with rfl | later
        · exact Nat.succ_le_succ (ih List.mem_cons_self)
        · exact Nat.le_succ_of_le (ih (List.mem_cons_of_mem first later))

/-- The account is the second segment of the name field, byte for byte. -/
theorem account_ok {agent : List UInt8} {text : String} (h : account agent = .ok text) :
    (nameSegments agent)[1]? = some (utf8 text) ∧ (utf8 text).length ≤ 64 := by
  unfold account at h
  split at h
  · rename_i first found next later segments
    split at h
    · cases h
    split at h
    · rename_i decoded
      cases h
      have same := utf8_of_fromUTF8 decoded
      have member : found ∈ nameSegments agent := by simp [segments]
      have within := length_of_mem_splitOn member
      rw [List.length_take] at within
      exact ⟨by simp [segments, same], by rw [same]; omega⟩
    · cases h
  · cases h

theorem povAccount_ok {pov : UInt64} {agents : List (List UInt8)} {check : Nat} {text : String}
    (h : povAccount stop pov check agents = .ok text) :
    ∃ agent, agents.find? (u64At · 0 = pov) = some agent ∧ account agent = .ok text := by
  induction agents generalizing check with
  | nil => cases h
  | cons agent rest ih =>
    obtain ⟨-, -, h⟩ := bind_ok h
    rw [List.find?_cons]
    split at h
    · rename_i here
      split at h
      · cases h
      · exact ⟨agent, by simp [here], h⟩
    · rename_i elsewhere
      simpa [elsewhere] using ih h

end inversion

section decoded
variable {stop : Nat → Bool} {payload : List UInt8} {metadata : EncounterMetadata}

theorem decodeTables_ok {bossId : UInt16} {agents events : List (List UInt8)}
    (h : decodeTables stop bossId agents events = .ok metadata) :
    ∃ pov agent, (events.find? isPointOfView).map (u64At · 8) = some pov ∧
      agents.find? (u64At · 0 = pov) = some agent ∧ account agent = .ok metadata.povAccount ∧
      ∀ value ∈ metadata.remainingHealthBasisPoints, value.toNat ≤ 10_000 := by
  obtain ⟨bosses, -, h⟩ := bind_ok h
  obtain ⟨-, -, h⟩ := bind_ok h
  obtain ⟨scan, scanned, h⟩ := bind_ok h
  obtain ⟨first, health⟩ := scanEvents_ok scanned (by simp)
  split at h
  · cases h
  rename_i pov found
  obtain ⟨text, named, h⟩ := bind_ok h
  obtain ⟨agent, sought, text⟩ := povAccount_ok named
  cases h
  exact ⟨pov, agent, by simpa [found] using first.symm, sought, text, health⟩

/-- What the decoder takes: the account as it stands in the payload, and a bounded health. -/
theorem decode_ok (h : decode stop payload = .ok metadata) :
    accountBytes payload = some (utf8 metadata.povAccount) ∧
      (utf8 metadata.povAccount).length ≤ 64 ∧
      ∀ value ∈ metadata.remainingHealthBasisPoints, value.toNat ≤ 10_000 := by
  obtain ⟨-, -, h⟩ := bind_ok h
  obtain ⟨⟨header, rest⟩, taken, h⟩ := bind_ok h
  obtain ⟨-, rfl, rfl⟩ := take_ok taken
  dsimp only at h
  split at h
  · cases h
  obtain ⟨⟨agents, rest⟩, tabled, h⟩ := bind_ok h
  obtain ⟨rfl, rfl⟩ := table_ok tabled
  obtain ⟨⟨skills, events⟩, tabled, h⟩ := bind_ok h
  obtain ⟨-, rfl⟩ := table_ok tabled
  dsimp only at h
  split at h
  · cases h
  have counted : (u32At (payload.drop 16) 0).toNat = agentCount payload := by
    rw [u32At, field_drop, agentCount, u32At]
  have behind : (payload.drop 16).drop (4 + agentCount payload * agentSize) =
      payload.drop (skillOffset payload) := by
    rw [List.drop_drop, skillOffset, ← Nat.add_assoc]
  have skilled : (u32At (payload.drop (skillOffset payload)) 0).toNat = skillCount payload := by
    rw [u32At, field_drop, skillCount, u32At, Nat.add_zero]
  rw [counted, behind, skilled] at h
  simp only [List.drop_drop] at h
  obtain ⟨pov, agent, viewed, sought, named, health⟩ := decodeTables_ok h
  obtain ⟨second, short⟩ := account_ok named
  have events : povAddress payload = some pov := by
    rw [← viewed, povAddress, eventTable, Nat.add_assoc]
  refine ⟨?_, short, health⟩
  rw [accountBytes, events]
  change (agentTable payload).find? _ >>= _ = _
  rw [agentTable, sought]
  exact second

end decoded

section persisted
open Config
variable {stop : Nat → Bool} {payload : List UInt8} {metadata : EncounterMetadata}
  {record : UploadJobRecord}

/-- The domain's receipt rules do not look at the metadata. -/
theorem restore_metadata (metadata : EncounterMetadata) {id : UploadJobId} {job : UploadJob}
    (plain : UploadJob.restore id { record with encounterMetadata := none } = .ok job) :
    ∃ job, UploadJob.restore id { record with encounterMetadata := some metadata } = .ok job := by
  unfold UploadJob.restore at plain ⊢
  dsimp only at plain ⊢
  split_ifs at plain ⊢
  exact ⟨_, rfl⟩

/-- The metadata is checked on its own. -/
theorem validateRecord_metadata
    (plain : validateRecord { record with encounterMetadata := none } = .ok ()) :
    validateRecord { record with encounterMetadata := some metadata } =
      validateMetadata metadata := by
  obtain ⟨⟨⟩, file, plain⟩ := bind_ok plain
  obtain ⟨⟨⟩, -, plain⟩ := bind_ok plain
  obtain ⟨⟨⟩, receipts, plain⟩ := bind_ok plain
  obtain ⟨⟨⟩, statuses, plain⟩ := bind_ok plain
  obtain ⟨⟨⟩, identifiers, plain⟩ := bind_ok plain
  split at plain
  · rename_i job restored
    obtain ⟨again, restored⟩ := restore_metadata metadata restored
    have file : validateFile { record with encounterMetadata := some metadata } = .ok () := file
    have receipts : validateReceipts { record with encounterMetadata := some metadata } = .ok () :=
      receipts
    have statuses : validateStatuses { record with encounterMetadata := some metadata } = .ok () :=
      statuses
    have identifiers :
        validateIdentifiers { record with encounterMetadata := some metadata } = .ok () :=
      identifiers
    rw [validateRecord, file, receipts, statuses, identifiers, restored]
    dsimp only [whenSome]
    cases validateMetadata metadata with
    | error error => rfl
    | ok checked => rfl
  · cases plain

/-- What the checks accept has a wire form. -/
theorem encode_of_validateRecord (h : validateRecord record = .ok ()) :
    ∃ wire, Wire.Record.encode record = .ok wire := by
  obtain ⟨⟨⟩, file, _⟩ := bind_ok h
  obtain ⟨path, named, file⟩ := bind_ok file
  split at file
  · cases file
  obtain ⟨⟨⟩, -, file⟩ := bind_ok file
  obtain ⟨ticks, written, file⟩ := bind_ok file
  obtain ⟨milliseconds, detected, _⟩ := bind_ok file
  unfold Wire.Record.encode
  rw [named, written, detected]
  exact ⟨_, rfl⟩

/-- The history refuses nothing of a decoded log but an unprintable account. -/
theorem validateMetadata_decoded (decoded : decode stop payload = .ok metadata) :
    validateMetadata metadata = .ok () ↔ PrintableAccount payload := by
  obtain ⟨account, short, health⟩ := decode_ok decoded
  have bounded : metadata.remainingHealthBasisPoints.any (10_000 < ·) = false := by
    rw [Option.any_eq_false]
    intro value found
    simpa [UInt16.lt_iff_toNat_lt] using health value found
  have printable : PrintableAccount payload ↔
      (utf8 metadata.povAccount).any (fun byte => byte < 0x20 && byte != 9) = false := by
    simp [PrintableAccount, account]
  rw [printable, validateMetadata, text, bounded]
  have fits : decide ((utf8 metadata.povAccount).length > 256) = false := by
    simp; omega
  rw [fits, Bool.false_or]
  cases (utf8 metadata.povAccount).any _ with
  | true => simp [bind, Except.bind]
  | false => simp [bind, Except.bind]

theorem decoded_persistable (decoded : decode stop payload = .ok metadata)
    (valid : validateRecord { record with encounterMetadata := none } = .ok ()) :
    (validateRecord { record with encounterMetadata := some metadata } = .ok () ∧
      ∃ wire, Wire.Record.encode { record with encounterMetadata := some metadata } = .ok wire) ↔
    PrintableAccount payload := by
  rw [validateRecord_metadata valid, ← validateMetadata_decoded decoded]
  refine ⟨fun accepted => accepted.1, fun accepted => ⟨accepted, ?_⟩⟩
  exact encode_of_validateRecord ((validateRecord_metadata valid).trans accepted)

def padded (length : Nat) (bytes : List UInt8) : List UInt8 :=
  bytes ++ List.replicate (length - bytes.length) 0

/-- A log of one player, who recorded it, and of one event. -/
def logOf (account : List UInt8) : List UInt8 :=
  padded 12 (utf8 "EVTC") ++ [1, 0, 0, 0] ++
    [1, 0, 0, 0] ++ padded 96 (padded 28 [7] ++ utf8 "Player" ++ [0] ++ account ++ [0]) ++
    [0, 0, 0, 0] ++ padded 64 (padded 8 [] ++ padded 48 [7] ++ [13])

def playing (povAccount : String) : EncounterMetadata where
  bossId := 0
  povAccount
  remainingHealthBasisPoints := none

def decodedRecord (povAccount : String) : UploadJobRecord :=
  { sampleRecord 1 "Queued" with encounterMetadata := some (playing povAccount) }

theorem decoded_persistable_sample :
    (validateRecord (decodedRecord ":Player.1234") = .ok () ∧
      ∃ wire, Wire.Record.encode (decodedRecord ":Player.1234") = .ok wire) ↔
    PrintableAccount (logOf (utf8 ":Player.1234")) :=
  have decoded : decode (fun _ => false) (logOf (utf8 ":Player.1234")) =
      .ok (playing ":Player.1234") := by decide +kernel
  have valid : validateRecord { sampleRecord 1 "Queued" with encounterMetadata := none } = .ok () :=
    by decide
  decoded_persistable decoded valid

/-- A bell in the account name decodes, and no save takes the record. -/
theorem control_account_refused :
    decode (fun _ => false) (logOf [0x42, 0x07]) = .ok (playing "B\x07") ∧
      validateRecord (sampleRecord 1 "Queued") = .ok () ∧
      validateRecord (decodedRecord "B\x07") = .error .invalidRecord ∧
      (fullStore.mergeAndSave sampleJson sampleFiles [decodedRecord "B\x07"] ()).1 =
        .error .invalidRecord := by
  refine ⟨?_, ?_, ?_, ?_⟩
  all_goals decide +kernel

end persisted
end MannyUploader.Evtc
