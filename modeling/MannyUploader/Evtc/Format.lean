import MannyUploader.Evtc.MetadataLaws
import MannyUploader.Foundation.LittleEndian

/-! The subset of the format as a description of its own: which bytes are a log, and what a log
says of its encounter. The decoder takes exactly these logs and says exactly that. -/
namespace MannyUploader.Evtc
open Application Domain Foundation

/-- The first element with a property. -/
def IsFirst (p : α → Prop) (list : List α) (found : α) : Prop :=
  ∃ before after, list = before ++ found :: after ∧ p found ∧ ∀ other ∈ before, ¬p other

/-- The last element with a property. -/
def IsLast (p : α → Prop) (list : List α) (found : α) : Prop :=
  ∃ before after, list = before ++ found :: after ∧ p found ∧ ∀ other ∈ after, ¬p other

/-- The sections of a payload. -/
structure Log where
  header : List UInt8
  agents : List (List UInt8)
  skills : List (List UInt8)
  events : List (List UInt8)

/-- Each table has its count in front, and the events take the rest. -/
structure IsLog (payload : List UInt8) (log : Log) : Prop where
  bytes : payload = log.header ++ (toLittle 4 log.agents.length ++ log.agents.flatten ++
    (toLittle 4 log.skills.length ++ log.skills.flatten ++ log.events.flatten))
  header : log.header.length = 16
  magic : log.header.take 4 = utf8 "EVTC"
  revision : log.header[12]? = some 1
  agents : ∀ agent ∈ log.agents, agent.length = agentSize
  skills : ∀ skill ∈ log.skills, skill.length = skillSize
  events : ∀ event ∈ log.events, event.length = eventSize
  fewAgents : log.agents.length ≤ maxAgents
  fewSkills : log.skills.length ≤ maxSkills
  fewEvents : log.events.length ≤ maxEvents

namespace Log
variable (log : Log)

def bossId : UInt16 := u16At log.header 13

/-- An agent without an elite specialisation is no player. Gadgets have the upper half of the
profession set, and an address of zero names nobody. -/
def IsEncounterNpc (agent : List UInt8) : Prop :=
  u64At agent 0 ≠ 0 ∧ u32At agent 12 = 0xFFFFFFFF ∧ (u32At agent 8).toNat / 65_536 ≠ 0xFFFF ∧
    (u32At agent 8).toNat % 65_536 = log.bossId.toNat

/-- A valid health update of the encounter's NPC. -/
def IsUpdate (event : List UInt8) : Prop :=
  event[56]? = some 8 ∧ (u64At event 16).toNat ≤ 10_000 ∧
    ∃ agent ∈ log.agents, log.IsEncounterNpc agent ∧ u64At agent 0 = u64At event 8

/-- The point of view is the source of the first event that names one. -/
def IsPointOfView (pov : UInt64) : Prop :=
  ∃ event, IsFirst (fun event => event[56]? = some 13 ∧ u64At event 8 ≠ 0) log.events event ∧
    pov = u64At event 8

/-- The name field holds the character, the account and the subgroup, and a zero behind each of
the first two. -/
def IsAccount (agent : List UInt8) (account : String) : Prop :=
  ∃ character subgroup, (agent.drop 28).take 64 = character ++ 0 :: (utf8 account ++ 0 :: subgroup) ∧
    0 ∉ character ∧ 0 ∉ utf8 account ∧ utf8 account ≠ []

/-- The account of the player whose point of view it is. -/
def IsPlayer (pov : UInt64) (account : String) : Prop :=
  ∃ agent, IsFirst (fun agent => u64At agent 0 = pov) log.agents agent ∧
    u32At agent 12 ≠ 0xFFFFFFFF ∧ IsAccount agent account

/-- The last valid update, if there is one. -/
def IsHealth : Option UInt16 → Prop
  | none => ∀ event ∈ log.events, ¬log.IsUpdate event
  | some health => ∃ event, IsLast log.IsUpdate log.events event ∧
      health.toNat = (u64At event 16).toNat

end Log

/-- What a payload says of its encounter. -/
def Describes (payload : List UInt8) (metadata : EncounterMetadata) : Prop :=
  ∃ log pov, IsLog payload log ∧ metadata.bossId = log.bossId ∧ log.IsPointOfView pov ∧
    log.IsPlayer pov metadata.povAccount ∧ log.IsHealth metadata.remainingHealthBasisPoints

/-! The layout. -/

section layout
variable {width limit : Nat} {records : List (List UInt8)} {bytes found rest : List UInt8}

theorem length_flatten (sized : ∀ record ∈ records, record.length = width) :
    records.flatten.length = records.length * width := by
  induction records with
  | nil => simp
  | cons record rest ih =>
    rw [List.flatten_cons, List.length_append, sized record List.mem_cons_self,
      ih fun other member => sized other (List.mem_cons_of_mem _ member), List.length_cons,
      Nat.succ_mul, Nat.add_comm]

theorem chunksExact_append (some : 0 < width) (first rest : List UInt8)
    (sized : first.length = width) :
    chunksExact width (first ++ rest) = first :: chunksExact width rest := by
  have count : (first ++ rest).length / width = rest.length / width + 1 := by
    rw [List.length_append, sized, Nat.add_div_left _ some]
  unfold chunksExact
  rw [count, List.range_succ_eq_map, List.map_cons, List.map_map]
  congr 1
  · rw [Nat.zero_mul, List.drop_zero, ← sized, List.take_left]
  · apply List.map_congr_left
    intro index _
    have next : (index + 1) * width = first.length + index * width := by
      rw [sized, Nat.succ_mul, Nat.add_comm]
    simp only [Function.comp_apply, Nat.succ_eq_add_one]
    rw [next, ← List.drop_drop, List.drop_left]

theorem chunksExact_flatten (some : 0 < width)
    (sized : ∀ record ∈ records, record.length = width) :
    chunksExact width records.flatten = records := by
  induction records with
  | nil => simp [chunksExact]
  | cons record rest ih =>
    rw [List.flatten_cons, chunksExact_append some _ _ (sized record List.mem_cons_self),
      ih fun other member => sized other (List.mem_cons_of_mem _ member)]

/-- Bytes of a whole number of records are their records. -/
theorem exists_records (count : Nat) (whole : bytes.length = count * width) :
    ∃ records : List (List UInt8), bytes = records.flatten ∧ records.length = count ∧
      ∀ record ∈ records, record.length = width := by
  induction count generalizing bytes with
  | zero =>
    rw [Nat.zero_mul] at whole
    exact ⟨[], by simpa using whole, rfl, by simp⟩
  | succ count ih =>
    rw [Nat.succ_mul] at whole
    obtain ⟨records, behind, counted, sized⟩ := @ih (bytes.drop width) (by
      rw [List.length_drop]
      omega)
    refine ⟨bytes.take width :: records, ?_, by simp [counted], ?_⟩
    · rw [List.flatten_cons, ← behind, List.take_append_drop]
    · intro record member
      rcases List.mem_cons.mp member with rfl | member
      · rw [List.length_take]
        omega
      · exact sized record member

theorem length_of_chunk (record : List UInt8) (member : record ∈ chunksExact width bytes) :
    record.length = width := by
  obtain ⟨index, inside, rfl⟩ := List.mem_map.mp member
  have full : (index + 1) * width ≤ bytes.length :=
    Nat.le_trans (Nat.mul_le_mul_right width (List.mem_range.mp inside)) (Nat.div_mul_le_self _ _)
  rw [Nat.succ_mul] at full
  rw [List.length_take, List.length_drop]
  omega

theorem field_eq (record : List UInt8) (offset width : Nat) :
    field record offset width = ofLittle (slice record offset width) := by
  unfold field slice
  generalize (record.drop offset).take width = bytes
  induction bytes with
  | nil => rfl
  | cons byte bytes ih => rw [List.foldr_cons, ih, ofLittle]

theorem field_lt (record : List UInt8) (offset width : Nat) :
    field record offset width < 256 ^ width := by
  rw [field_eq]
  apply Nat.lt_of_lt_of_le (ofLittle_lt _)
  apply Nat.pow_le_pow_right (by decide)
  rw [slice, List.length_take]
  exact Nat.min_le_left _ _

theorem take_iff {length : Nat} :
    take length bytes = .ok (found, rest) ↔ bytes = found ++ rest ∧ found.length = length := by
  constructor
  · intro taken
    obtain ⟨inside, rfl, rfl⟩ := take_ok taken
    rw [List.take_append_drop, List.length_take]
    exact ⟨rfl, Nat.min_eq_left inside⟩
  · rintro ⟨rfl, rfl⟩
    unfold take
    rw [if_pos (by simp), List.take_left, List.drop_left]

theorem toNat_u32At (record : List UInt8) (offset : Nat) :
    (u32At record offset).toNat = field record offset 4 := by
  rw [u32At, UInt32.toNat_ofNat']
  exact Nat.mod_eq_of_lt (field_lt record offset 4)

theorem field_toLittle (behind : List UInt8) {n : Nat} (fits : n < 256 ^ width) :
    field (toLittle width n ++ behind) 0 width = n := by
  rw [field_eq, slice_front _ _ (length_toLittle width n), ofLittle_toLittle fits]

/-- A table is its count and as many records. -/
theorem table_iff (few : limit < 256 ^ 4) :
    table width limit bytes = .ok (found, rest) ↔
      ∃ records : List (List UInt8), bytes = toLittle 4 records.length ++ records.flatten ++ rest ∧
        found = records.flatten ∧ (∀ record ∈ records, record.length = width) ∧
        records.length ≤ limit := by
  unfold table
  constructor
  · intro read
    obtain ⟨⟨count, behind⟩, counted, behindCount⟩ := bind_ok read
    obtain ⟨rfl, four⟩ := take_iff.mp counted
    dsimp only at behindCount
    split at behindCount
    · cases behindCount
    next within =>
      obtain ⟨rfl, whole⟩ := take_iff.mp behindCount
      obtain ⟨records, rfl, number, sized⟩ := exists_records _ whole
      refine ⟨records, ?_, rfl, sized, by omega⟩
      rw [number, toNat_u32At, field_eq, slice, List.drop_zero, ← four, List.take_length,
        toLittle_ofLittle, List.append_assoc]
  · rintro ⟨records, rfl, rfl, sized, within⟩
    have fits : records.length < 256 ^ 4 := by omega
    have counted : take 4 (toLittle 4 records.length ++ records.flatten ++ rest) =
        .ok (toLittle 4 records.length, records.flatten ++ rest) :=
      take_iff.mpr ⟨List.append_assoc _ _ _, length_toLittle 4 _⟩
    have count : (u32At (toLittle 4 records.length) 0).toNat = records.length := by
      rw [toNat_u32At, ← List.append_nil (toLittle 4 _), field_toLittle [] fits]
    rw [counted]
    simp only [bind, Except.bind, count]
    rw [if_neg (by omega)]
    exact take_iff.mpr ⟨rfl, length_flatten sized⟩

end layout

/-! The scans without a stop request. -/

section scans
variable {bossId : UInt16} {agents events : List (List UInt8)} {check : Nat}

theorem findBosses_running :
    findBosses (fun _ => false) bossId check agents =
      .ok ((agents.filter (isBoss bossId)).map (u64At · 0)) := by
  induction agents generalizing check with
  | nil => rfl
  | cons agent rest ih =>
    unfold findBosses
    rw [ih, List.filter_cons]
    cases isBoss bossId agent <;> rfl

theorem scanEvents_running (bosses : List UInt64) (scan : Scan) :
    scanEvents (fun _ => false) bosses check events scan =
      .ok (events.foldl (scanEvent bosses) scan) := by
  induction events generalizing check scan with
  | nil => rfl
  | cons event rest ih =>
    unfold scanEvents
    rw [ih]
    rfl

/-- An update that counts. -/
def isValidUpdate (bosses : List UInt64) (event : List UInt8) : Bool :=
  isHealthUpdate bosses event && u64At event 16 ≤ 10_000

theorem scanEvent_update (bosses : List UInt64) (scan : Scan) (event : List UInt8) :
    (scanEvent bosses scan event).health =
      if isValidUpdate bosses event then some (u64At event 16).toUInt16 else scan.health := by
  unfold scanEvent isValidUpdate
  split
  next viewed =>
    -- One event has one state change.
    have change : event[56]? = some 13 := by
      simp only [isPointOfView, Bool.and_eq_true, beq_iff_eq] at viewed
      exact viewed.1.1
    rw [if_neg (by simp [isHealthUpdate, change])]
  · split <;> simp_all

/-- The last update that counts is kept. -/
theorem foldl_scanEvent_health (bosses : List UInt64) (events : List (List UInt8)) (scan : Scan) :
    (events.foldl (scanEvent bosses) scan).health =
      ((events.reverse.find? (isValidUpdate bosses)).map fun event =>
        (u64At event 16).toUInt16).or scan.health := by
  induction events using List.reverseRecOn with
  | nil => simp
  | append_singleton rest event ih =>
    rw [List.foldl_append, List.foldl_cons, List.foldl_nil, scanEvent_update, ih,
      List.reverse_append, List.reverse_singleton, List.singleton_append, List.find?_cons]
    cases isValidUpdate bosses event <;> simp

theorem foldl_scanEvent_pov (bosses : List UInt64) (events : List (List UInt8)) (scan : Scan) :
    (events.foldl (scanEvent bosses) scan).pov =
      scan.pov.or ((events.find? isPointOfView).map (u64At · 8)) := by
  induction events generalizing scan with
  | nil => simp
  | cons event rest ih =>
    rw [List.foldl_cons, ih, scanEvent_pov, Option.or_assoc, List.find?_cons]
    cases isPointOfView event <;> simp

theorem povAccount_running (pov : UInt64) :
    povAccount (fun _ => false) pov check agents =
      match agents.find? (u64At · 0 = pov) with
      | none => .error .missingPointOfView
      | some agent => if isNpc agent then .error .missingPointOfView else account agent := by
  induction agents generalizing check with
  | nil => rfl
  | cons agent rest ih =>
    unfold povAccount
    rw [List.find?_cons, ih]
    by_cases here : u64At agent 0 = pov <;> simp [here, checkStop, bind, Except.bind]

theorem isFirst_iff {p : α → Bool} {list : List α} {found : α} :
    list.find? p = some found ↔ IsFirst (p · = true) list found := by
  rw [List.find?_eq_some_iff_append]
  constructor
  · rintro ⟨holds, before, after, rfl, others⟩
    exact ⟨before, after, rfl, holds, by simpa using others⟩
  · rintro ⟨before, after, rfl, holds, others⟩
    exact ⟨holds, before, after, rfl, by simpa using others⟩

theorem isLast_iff {p : α → Bool} {list : List α} {found : α} :
    list.reverse.find? p = some found ↔ IsLast (p · = true) list found := by
  rw [isFirst_iff]
  constructor
  · rintro ⟨before, after, same, holds, others⟩
    refine ⟨after.reverse, before.reverse, ?_, holds, by simpa using others⟩
    rw [← List.reverse_reverse list, same]
    simp
  · rintro ⟨before, after, rfl, holds, others⟩
    exact ⟨after.reverse, before.reverse, by simp, holds, by simpa using others⟩

end scans

/-! Each test of the scans is a condition of the format. -/

section conditions
variable {log : Log} {agents : List (List UInt8)} {event agent : List UInt8} {text : String}

theorem isBoss_iff : isBoss log.bossId agent = true ↔ log.IsEncounterNpc agent := by
  have upper : (u32At agent 8 >>> 16) ≠ 0xFFFF ↔ (u32At agent 8).toNat / 65_536 ≠ 0xFFFF := by
    rw [Ne, ← UInt32.toNat_inj, UInt32.toNat_shiftRight, Nat.shiftRight_eq_div_pow]
    rfl
  have lower : (u32At agent 8).toUInt16 = log.bossId ↔
      (u32At agent 8).toNat % 65_536 = log.bossId.toNat := by
    rw [← UInt16.toNat_inj, UInt32.toNat_toUInt16]
  simp only [isBoss, isNpc, Log.IsEncounterNpc, Bool.and_eq_true, bne_iff_ne, beq_iff_eq, upper,
    lower, and_assoc]

theorem isPointOfView_iff :
    isPointOfView event = true ↔ event[56]? = some 13 ∧ u64At event 8 ≠ 0 := by
  simp [isPointOfView]

theorem isValidUpdate_iff :
    isValidUpdate ((log.agents.filter (isBoss log.bossId)).map (u64At · 0)) event = true ↔
      log.IsUpdate event := by
  simp only [isValidUpdate, isHealthUpdate, Log.IsUpdate, Bool.and_eq_true, beq_iff_eq,
    List.contains_iff_mem, List.mem_map, List.mem_filter, isBoss_iff, decide_eq_true_eq,
    UInt64.le_iff_toNat_le, and_assoc]
  exact and_congr_right fun _ => and_comm

/-- A segment with another behind it ends at a zero. -/
theorem splitOn_zero {bytes first next : List UInt8} {rest : List (List UInt8)}
    (split : bytes.splitOn 0 = first :: next :: rest) :
    ∃ behind, bytes = first ++ 0 :: behind ∧ 0 ∉ first ∧ behind.splitOn 0 = next :: rest := by
  by_cases there : (0 : UInt8) ∈ bytes
  · obtain ⟨before, behind, rfl, none⟩ := List.eq_append_cons_of_mem there
    rw [List.splitOn_append_cons_self_of_not_mem none] at split
    obtain ⟨rfl, segments⟩ := List.cons.inj split
    exact ⟨behind, rfl, none, segments⟩
  · rw [List.splitOn_eq_singleton there] at split
    cases split

theorem account_iff : account agent = .ok text ↔ Log.IsAccount agent text := by
  unfold account Log.IsAccount nameSegments
  constructor
  · intro named
    split at named
    next character found third rest segments =>
      split at named
      · cases named
      next some =>
        split at named
        next decoded =>
          cases named
          obtain ⟨behind, whole, noCharacter, segments⟩ := splitOn_zero segments
          obtain ⟨subgroup, rfl, noAccount, -⟩ := splitOn_zero segments
          rw [utf8_of_fromUTF8 decoded]
          exact ⟨character, subgroup, whole, noCharacter, noAccount, by simpa using some⟩
        · cases named
    · cases named
  · rintro ⟨character, subgroup, whole, noCharacter, noAccount, some⟩
    obtain ⟨third, rest, segments⟩ : ∃ third rest, subgroup.splitOn 0 = third :: rest :=
      List.exists_cons_of_ne_nil (List.splitOn_ne_nil 0 subgroup)
    rw [whole, List.splitOn_append_cons_self_of_not_mem noCharacter,
      List.splitOn_append_cons_self_of_not_mem noAccount, segments]
    dsimp only
    rw [if_neg (by simpa using some), fromUTF8_utf8]

theorem pointOfView_iff {pov : UInt64} :
    (log.events.find? isPointOfView).map (u64At · 8) = some pov ↔ log.IsPointOfView pov := by
  have test : (fun event => isPointOfView event = true) =
      fun event => event[56]? = some 13 ∧ u64At event 8 ≠ 0 := by
    funext event
    exact propext isPointOfView_iff
  simp only [Option.map_eq_some_iff, isFirst_iff, test, Log.IsPointOfView, eq_comm (a := pov)]

theorem player_iff {pov : UInt64} (check : Nat) :
    povAccount (fun _ => false) pov check log.agents = .ok text ↔ log.IsPlayer pov text := by
  have test : (fun agent => decide (u64At agent 0 = pov) = true) =
      fun agent => u64At agent 0 = pov := by
    funext agent
    exact propext decide_eq_true_iff
  have first (agent : List UInt8) : log.agents.find? (u64At · 0 = pov) = some agent ↔
      IsFirst (u64At · 0 = pov) log.agents agent := by
    rw [isFirst_iff, test]
  rw [povAccount_running]
  constructor
  · intro named
    split at named
    · cases named
    next agent found =>
      split at named
      · cases named
      next player =>
        exact ⟨agent, (first agent).mp found, by simpa [isNpc] using player,
          account_iff.mp named⟩
  · rintro ⟨agent, found, player, named⟩
    rw [(first agent).mpr found]
    dsimp only
    rw [if_neg (by simpa [isNpc] using player), account_iff.mpr named]

theorem health_iff {bosses : List UInt64} {health : Option UInt16}
    (addresses : bosses = (log.agents.filter (isBoss log.bossId)).map (u64At · 0)) :
    ((log.events.reverse.find? (isValidUpdate bosses)).map fun event =>
      (u64At event 16).toUInt16) = health ↔ log.IsHealth health := by
  subst addresses
  have test : (fun event => isValidUpdate
      ((log.agents.filter (isBoss log.bossId)).map (u64At · 0)) event = true) = log.IsUpdate := by
    funext event
    exact propext isValidUpdate_iff
  cases health with
  | none =>
    rw [Option.map_eq_none_iff, List.find?_eq_none]
    simp only [List.mem_reverse, isValidUpdate_iff, Log.IsHealth]
  | some health =>
    simp only [Option.map_eq_some_iff, isLast_iff, test, Log.IsHealth]
    refine exists_congr fun event => and_congr_right fun last => ?_
    obtain ⟨-, -, -, update, -⟩ := last
    have small := update.2.1
    rw [← UInt16.toNat_inj, UInt64.toNat_toUInt16, Nat.mod_eq_of_lt (by omega)]
    exact eq_comm

end conditions

/-! The decoder against the description. -/

section decoder
variable {log : Log} {payload : List UInt8} {metadata : EncounterMetadata}

theorem decodeTables_iff :
    decodeTables (fun _ => false) log.bossId log.agents log.events = .ok metadata ↔
      metadata.bossId = log.bossId ∧ ∃ pov, log.IsPointOfView pov ∧
        log.IsPlayer pov metadata.povAccount ∧
        log.IsHealth metadata.remainingHealthBasisPoints := by
  unfold decodeTables
  rw [findBosses_running]
  simp only [bind, Except.bind, checkStop, Bool.false_eq_true, if_false]
  rw [scanEvents_running]
  dsimp only
  have viewed := foldl_scanEvent_pov
    ((log.agents.filter (isBoss log.bossId)).map (u64At · 0)) log.events ⟨none, none⟩
  have updated := foldl_scanEvent_health
    ((log.agents.filter (isBoss log.bossId)).map (u64At · 0)) log.events ⟨none, none⟩
  rw [Option.none_or] at viewed
  rw [Option.or_none] at updated
  rw [viewed, updated]
  constructor
  · intro decoded
    split at decoded
    · cases decoded
    next pov found =>
      split at decoded
      · cases decoded
      next account named =>
        cases decoded
        exact ⟨rfl, pov, pointOfView_iff.mp found, (player_iff _).mp named,
          (health_iff rfl).mp rfl⟩
  · rintro ⟨boss, pov, found, named, health⟩
    rw [pointOfView_iff.mpr found, (health_iff rfl).mpr health]
    dsimp only
    rw [(player_iff _).mpr named, ← boss]

theorem decode_iff_layout : decode (fun _ => false) payload = .ok metadata ↔
    ∃ log, IsLog payload log ∧
      decodeTables (fun _ => false) log.bossId log.agents log.events = .ok metadata := by
  constructor
  · intro decoded
    obtain ⟨-, -, begun⟩ := bind_ok decoded
    obtain ⟨⟨header, sections⟩, taken, headed⟩ := bind_ok begun
    obtain ⟨rfl, sixteen⟩ := take_iff.mp taken
    dsimp only at headed
    split at headed
    · cases headed
    next supported =>
      obtain ⟨⟨agents, skilled⟩, agentTable, behindAgents⟩ := bind_ok headed
      obtain ⟨agents, rfl, rfl, agentsSized, fewAgents⟩ := (table_iff (by decide)).mp agentTable
      obtain ⟨⟨skills, events⟩, skillTable, scanned⟩ := bind_ok behindAgents
      obtain ⟨skills, rfl, rfl, skillsSized, fewSkills⟩ := (table_iff (by decide)).mp skillTable
      dsimp only at scanned
      split at scanned
      · cases scanned
      next whole =>
        have full : events.length = events.length / eventSize * eventSize := by
          unfold eventSize at whole ⊢
          omega
        obtain ⟨events, rfl, number, eventsSized⟩ := exists_records _ full
        rw [chunksExact_flatten (by decide) agentsSized,
          chunksExact_flatten (by decide) eventsSized] at scanned
        obtain ⟨magic, revision⟩ := not_or.mp supported
        refine ⟨⟨header, agents, skills, events⟩, ⟨rfl, sixteen, not_not.mp magic,
          not_not.mp revision, agentsSized, skillsSized, eventsSized, fewAgents, fewSkills, ?_⟩,
          scanned⟩
        rw [number]
        omega
  · rintro ⟨⟨header, agents, skills, events⟩, h, decoded⟩
    have taken : take 16 payload = .ok (header, _) := take_iff.mpr ⟨h.bytes, h.header⟩
    have agentTable (rest : List UInt8) : table agentSize maxAgents
        (toLittle 4 agents.length ++ agents.flatten ++ rest) = .ok (agents.flatten, rest) :=
      (table_iff (by decide)).mpr ⟨agents, rfl, rfl, h.agents, h.fewAgents⟩
    have skillTable (rest : List UInt8) : table skillSize maxSkills
        (toLittle 4 skills.length ++ skills.flatten ++ rest) = .ok (skills.flatten, rest) :=
      (table_iff (by decide)).mpr ⟨skills, rfl, rfl, h.skills, h.fewSkills⟩
    have number : events.flatten.length = events.length * eventSize := length_flatten h.events
    have few : events.length ≤ maxEvents := h.fewEvents
    unfold decode
    simp only [checkStop, Bool.false_eq_true, if_false, bind, Except.bind, taken]
    rw [if_neg (by
      rintro (other | other)
      · exact other h.magic
      · exact other h.revision), agentTable]
    dsimp only
    rw [skillTable]
    dsimp only
    rw [if_neg (by
      rw [number]
      unfold eventSize
      omega), chunksExact_flatten (by decide) h.agents, chunksExact_flatten (by decide) h.events]
    exact decoded

theorem decode_iff : decode (fun _ => false) payload = .ok metadata ↔
    Describes payload metadata := by
  rw [decode_iff_layout]
  unfold Describes
  refine exists_congr fun log => ?_
  rw [decodeTables_iff]
  constructor
  · rintro ⟨layout, boss, pov, rest⟩
    exact ⟨pov, layout, boss, rest⟩
  · rintro ⟨pov, layout, boss, rest⟩
    exact ⟨layout, boss, pov, rest⟩

example : Describes (logOf (utf8 ":Player.1234")) (playing ":Player.1234") :=
  decode_iff.mp (by decide +kernel)

end decoder

/-! The reads that the code does not check: where each begins in its record and its width. -/

section reads

def headerReads : List (Nat × Nat) := [(0, 4), (12, 1), (13, 2)]
def countReads : List (Nat × Nat) := [(0, 4)]
def agentReads : List (Nat × Nat) := [(0, 8), (8, 4), (12, 4), (28, 64)]
def eventReads : List (Nat × Nat) := [(8, 8), (16, 8), (56, 1)]

def Inside (reads : List (Nat × Nat)) (record : List UInt8) : Prop :=
  ∀ read ∈ reads, read.1 + read.2 ≤ record.length

/-- Every record that is read is as wide as its reads, a number fits its type, and no size of a
table wraps in 32 bits. -/
structure ReadsInside (payload : List UInt8) : Prop where
  header : ∀ header rest, take 16 payload = .ok (header, rest) → Inside headerReads header
  count : ∀ bytes count rest, take 4 bytes = .ok (count, rest) → Inside countReads count
  agents : ∀ table, ∀ agent ∈ chunksExact agentSize table, Inside agentReads agent
  events : ∀ table, ∀ event ∈ chunksExact eventSize table, Inside eventReads event
  numbers : ∀ record offset width, field record offset width < 256 ^ width
  agentTable : ∀ count ≤ maxAgents, count * agentSize < 2 ^ 32
  skillTable : ∀ count ≤ maxSkills, count * skillSize < 2 ^ 32

theorem inside_of_length {reads : List (Nat × Nat)} {record : List UInt8} {length : Nat}
    (same : record.length = length)
    (within : reads.all (fun read => read.1 + read.2 ≤ length) = true) : Inside reads record := by
  intro read member
  rw [same]
  simpa using List.all_eq_true.mp within read member

theorem readsInside (payload : List UInt8) : ReadsInside payload where
  header _ _ taken := inside_of_length (take_iff.mp taken).2 (by decide)
  count _ _ _ taken := inside_of_length (take_iff.mp taken).2 (by decide)
  agents _ agent member := inside_of_length (length_of_chunk agent member) (by decide)
  events _ event member := inside_of_length (length_of_chunk event member) (by decide)
  numbers := field_lt
  agentTable count within := by
    unfold maxAgents at within
    unfold agentSize
    omega
  skillTable count within := by
    unfold maxSkills at within
    unfold skillSize
    omega

end reads

theorem decoding_specified (payload : List UInt8) :
    (∀ metadata, decode (fun _ => false) payload = .ok metadata ↔ Describes payload metadata) ∧
      ((∀ metadata, ¬Describes payload metadata) →
        ∃ error, decode (fun _ => false) payload = .error error) ∧
      ReadsInside payload := by
  refine ⟨fun metadata => decode_iff, fun other => ?_, readsInside payload⟩
  cases decoded : decode (fun _ => false) payload with
  | error error => exact ⟨error, rfl⟩
  | ok metadata => exact absurd (decode_iff.mp decoded) (other metadata)

end MannyUploader.Evtc
