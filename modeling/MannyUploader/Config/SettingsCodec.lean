import MannyUploader.Application.ReportLaws
import MannyUploader.Config.SettingsJson

/-! Valid settings can always be written, and read back as they were, but for a stale choice
of a channel. -/
namespace MannyUploader.Domain.Settings
open Foundation
variable {settings : Settings}

@[simp] theorem reject_nil {failed : Bool} {field : String} {code : SettingsErrorCode} :
    reject failed field code = [] ↔ failed = false := by
  cases failed <;> simp [reject]

theorem normalize_again (settings : Settings) :
    settings.normalizeLoadedSettings.normalizeLoadedSettings = settings.normalizeLoadedSettings := by
  unfold normalizeLoadedSettings
  split <;> simp_all

/-- The cleanup changes no more than the choice of a channel. -/
theorem normalize_fields (settings : Settings) :
    ∃ explicit channel, settings.normalizeLoadedSettings =
      { settings with donbot := { settings.donbot with
          discordChannelOverrideExplicit := explicit, selectedDiscordChannelId := channel } } ∧
      (channel = "" ∨ channel = settings.donbot.selectedDiscordChannelId) := by
  unfold normalizeLoadedSettings
  split
  · exact ⟨_, _, rfl, .inl rfl⟩
  · exact ⟨_, _, rfl, .inr rfl⟩

theorem normalize_valid (valid : settings.validate = []) :
    settings.normalizeLoadedSettings.validate = [] := by
  obtain ⟨explicit, channel, same, cleared | kept⟩ := settings.normalize_fields
  · rw [same, cleared]
    simp only [validate, validateDonbot, List.append_eq_nil_iff, reject_nil] at valid ⊢
    obtain ⟨⟨first, ⟨donbot, -⟩, delivery⟩, twitch⟩ := valid
    exact ⟨⟨first, ⟨donbot, rfl⟩, delivery⟩, twitch⟩
  · rw [same, kept]
    exact valid

theorem length_apiBase {value : String} (valid : validApiBase value = true) :
    (utf8 value).length ≤ 2048 := by
  unfold validApiBase at valid
  split at valid
  · cases valid
  split at valid
  · cases valid
  next within =>
    simp only [Bool.or_eq_true, decide_eq_true_eq, not_or] at within
    omega

theorem length_template {template : String} (valid : templateErrors template = []) :
    (utf8 template).length ≤ 500 := by
  by_contra long
  simp only [templateErrors, TwitchMessageTemplate.parse, gt_iff_lt, Nat.lt_of_not_le long,
    ↓reduceIte] at valid
  split at valid
  next read => split at read <;> cases read
  · cases valid

theorem length_identifier {id : String} (valid : (!id.isEmpty && !canonicalDiscordId id) = false) :
    (utf8 id).length ≤ 19 := by
  cases empty : id.isEmpty with
  | true =>
    rw [String.isEmpty_iff.mp empty]
    decide
  | false =>
    simp only [empty, Bool.not_false, Bool.true_and, Bool.not_eq_false', canonicalDiscordId,
      Bool.and_eq_true, decide_eq_true_eq] at valid
    omega

/-- The bounds that validation puts on the texts. -/
theorem texts_bounded (valid : settings.validate = []) :
    (utf8 settings.general.logDirectory).length ≤ 4096 ∧
      (utf8 settings.donbot.apiBaseUrl).length ≤ 2048 ∧
      (utf8 settings.donbot.selectedGuildId).length ≤ 19 ∧
      (utf8 settings.donbot.selectedDiscordChannelId).length ≤ 19 ∧
      (utf8 settings.twitch.clientId).length ≤ 128 ∧
      (utf8 settings.twitch.messageTemplate).length ≤ 500 := by
  simp only [validate, validateGeneral, validateDonbot, validateTwitch, List.append_eq_nil_iff,
    reject_nil, Bool.or_eq_false_iff, decide_eq_false_iff_not, Nat.not_lt] at valid
  obtain ⟨⟨⟨-, general⟩, ⟨⟨⟨base, guild⟩, -⟩, channel⟩, -⟩, ⟨⟨⟨client, -⟩, template⟩, -⟩, -⟩ := valid
  obtain ⟨⟨⟨⟨⟨⟨⟨⟨-, directory⟩, -⟩, -⟩, -⟩, -⟩, -⟩, -⟩, -⟩ := general
  exact ⟨directory, length_apiBase (by simpa using base), length_identifier guild,
    length_identifier channel, client, length_template template⟩

end MannyUploader.Domain.Settings

namespace MannyUploader.Foundation.Json

theorem boundMembers_le {depth limit : Nat} {members : List (String × Json)}
    (short : ∀ name ∈ members.map (·.1), (bytes name).length ≤ limit) :
    boundMembers depth members ≤ members.length * (2 * depth + 6 * limit + 6) +
      (members.map fun member => bound depth member.2).sum := by
  induction members with
  | nil => simp [boundMembers]
  | cons first rest ih =>
    have name := short first.1 (by simp)
    have later := ih fun name there => short name (by simp_all)
    simp only [boundMembers, List.length_cons, List.map_cons, List.sum_cons, Nat.add_mul,
      Nat.one_mul] at later ⊢
    omega

theorem bound_bool {depth : Nat} (value : Bool) : bound depth (.bool value) = 5 := by rw [bound]

theorem bound_string {depth : Nat} (text : String) :
    bound depth (.string text) = 6 * (Domain.utf8 text).length + 2 := by
  rw [bound]
  rfl

theorem bound_object {depth : Nat} {members : List (String × Json)} :
    bound depth (.object members) = boundMembers (depth + 1) members + 2 * depth + 3 := by
  rw [bound]

theorem bound_uint32 {depth : Nat} (value : UInt32) : bound depth (.natural value.toNat) ≤ 10 := by
  have range := value.toNat_lt
  exact Domain.length_utf8_decimal (by decide) (by omega)

theorem asUInt32_toNat (value : UInt32) : asUInt32 (.natural value.toNat) = some value := by
  rw [asUInt32, if_pos value.toNat_lt, UInt32.ofNat_toNat]

end MannyUploader.Foundation.Json

namespace MannyUploader.Config
open Domain Foundation Json

/-! Each record reads back from its members. -/

theorem readGeneral_members (general : GeneralSettings) :
    readGeneral (.object (generalMembers general)) = some general := by
  simp [readGeneral, generalMembers, record, member, asString, asBool, asUInt32_toNat,
    List.lookup_cons]

theorem readDpsReport_members (dpsReport : DpsReportSettings) :
    readDpsReport (.object (dpsReportMembers dpsReport)) = some dpsReport := by
  simp [readDpsReport, dpsReportMembers, record, member, asBool, List.lookup_cons]

theorem readWingman_members (wingman : WingmanSettings) :
    readWingman (.object (wingmanMembers wingman)) = some wingman := by
  simp [readWingman, wingmanMembers, record, member, asBool]

theorem readDonbot_members (donbot : DonBotSettings) :
    readDonbot (.object (donbotMembers donbot)) = some donbot := by
  simp [readDonbot, donbotMembers, record, member, asString, asBool, List.lookup_cons]

theorem readTwitch_members (twitch : TwitchSettings) :
    readTwitch (.object (twitchMembers twitch)) = some twitch := by
  simp [readTwitch, twitchMembers, record, member, asString, asBool, List.lookup_cons]

section settings
variable (settings : Settings)

theorem readSettings_members : readSettings (.object (settingsMembers settings)) = some settings := by
  simp [readSettings, settingsMembers, record, member, asUInt32_toNat, List.lookup_cons,
    readGeneral_members, readDpsReport_members, readWingman_members, readDonbot_members,
    readTwitch_members]

theorem checkObjectShape_members :
    checkObjectShape (.object (settingsMembers settings)) = .ok () := by
  simp [checkObjectShape, settingsMembers, List.lookup_cons]

end settings

/-! The names have at most 33 bytes, the numbers at most ten digits, and a byte of a text is
escaped in at most six. -/

section sizes
variable {depth : Nat}

theorem bound_general (general : GeneralSettings) :
    bound depth (.object (generalMembers general)) ≤
      6 * (utf8 general.logDirectory).length + 20 * depth + 2000 := by
  have lines := @boundMembers_le (depth + 1) 29 (generalMembers general)
    (by simp only [generalMembers, List.map]; decide)
  have poll := @bound_uint32 (depth + 1) general.pollIntervalMs
  have stability := @bound_uint32 (depth + 1) general.stabilityObservations
  have recent := @bound_uint32 (depth + 1) general.recentLogLimit
  have queue := @bound_uint32 (depth + 1) general.parserQueueCapacity
  have uploads := @bound_uint32 (depth + 1) general.parallelUploadsPerProvider
  have candidates := @bound_uint32 (depth + 1) general.maxCandidates
  rw [bound_object]
  generalize boundMembers (depth + 1) (generalMembers general) = size at lines ⊢
  simp only [generalMembers, List.map, List.sum_cons, List.sum_nil, List.length_cons, List.length_nil,
    bound_bool, bound_string] at lines
  omega

theorem bound_dpsReport (dpsReport : DpsReportSettings) :
    bound depth (.object (dpsReportMembers dpsReport)) ≤ 10 * depth + 300 := by
  have lines := @boundMembers_le (depth + 1) 12 (dpsReportMembers dpsReport)
    (by simp only [dpsReportMembers, List.map]; decide)
  rw [bound_object]
  generalize boundMembers (depth + 1) (dpsReportMembers dpsReport) = size at lines ⊢
  simp only [dpsReportMembers, List.map, List.sum_cons, List.sum_nil, List.length_cons, List.length_nil,
    bound_bool] at lines
  omega

theorem bound_wingman (wingman : WingmanSettings) :
    bound depth (.object (wingmanMembers wingman)) ≤ 10 * depth + 300 := by
  have lines := @boundMembers_le (depth + 1) 12 (wingmanMembers wingman)
    (by simp only [wingmanMembers, List.map]; decide)
  rw [bound_object]
  generalize boundMembers (depth + 1) (wingmanMembers wingman) = size at lines ⊢
  simp only [wingmanMembers, List.map, List.sum_cons, List.sum_nil, List.length_cons, List.length_nil,
    bound_bool] at lines
  omega

theorem bound_donbot (donbot : DonBotSettings) :
    bound depth (.object (donbotMembers donbot)) ≤
      6 * (utf8 donbot.apiBaseUrl).length + 6 * (utf8 donbot.selectedGuildId).length +
        6 * (utf8 donbot.selectedDiscordChannelId).length + 20 * depth + 1500 := by
  have lines := @boundMembers_le (depth + 1) 33 (donbotMembers donbot)
    (by simp only [donbotMembers, List.map]; decide)
  rw [bound_object]
  generalize boundMembers (depth + 1) (donbotMembers donbot) = size at lines ⊢
  simp only [donbotMembers, List.map, List.sum_cons, List.sum_nil, List.length_cons, List.length_nil,
    bound_bool, bound_string] at lines
  omega

theorem bound_twitch (twitch : TwitchSettings) :
    bound depth (.object (twitchMembers twitch)) ≤
      6 * (utf8 twitch.clientId).length + 6 * (utf8 twitch.messageTemplate).length +
        20 * depth + 1000 := by
  have lines := @boundMembers_le (depth + 1) 16 (twitchMembers twitch)
    (by simp only [twitchMembers, List.map]; decide)
  rw [bound_object]
  generalize boundMembers (depth + 1) (twitchMembers twitch) = size at lines ⊢
  simp only [twitchMembers, List.map, List.sum_cons, List.sum_nil, List.length_cons, List.length_nil,
    bound_bool, bound_string] at lines
  omega

end sizes

section texts
variable {settings : Settings} (printer : Printer)

theorem length_settingsDocument (valid : settings.validate = []) :
    (settingsDocument printer settings).length ≤ maxSettingsBytes := by
  obtain ⟨directory, base, guild, channel, client, template⟩ := Settings.texts_bounded valid
  have printed := printer.bounded (.object (settingsMembers settings))
  have lines := @boundMembers_le 1 14 (settingsMembers settings)
    (by simp only [settingsMembers, List.map]; decide)
  have version := @bound_uint32 1 settings.schemaVersion
  have general := @bound_general 1 settings.general
  have dpsReport := @bound_dpsReport 1 settings.dpsReport
  have wingman := @bound_wingman 1 settings.wingman
  have donbot := @bound_donbot 1 settings.donbot
  have twitch := @bound_twitch 1 settings.twitch
  rw [bound_object, Nat.zero_add] at printed
  rw [settingsDocument, List.length_append, List.length_singleton, maxSettingsBytes]
  generalize boundMembers 1 (settingsMembers settings) = size at lines printed
  simp only [settingsMembers, List.map, List.sum_cons, List.sum_nil, List.length_cons,
    List.length_nil, Nat.zero_add] at lines
  omega

theorem encodeSettings_ok (valid : settings.validate = []) :
    encodeSettings printer settings = .ok (settingsDocument printer settings) := by
  have small := length_settingsDocument printer valid
  rw [encodeSettings, validate, valid]
  exact if_neg (Nat.not_lt.mpr small)

end texts

section round_trip
variable {parse : List UInt8 → Option Json} {printer : Printer}

/-- What a document decodes to is valid, and needs no more cleanup. -/
theorem decodeSettings_ok {document : List UInt8} {settings : Settings}
    (decoded : decodeSettings parse document = .ok settings) :
    settings.validate = [] ∧ settings.normalizeLoadedSettings = settings := by
  unfold decodeSettings at decoded
  split at decoded
  · cases decoded
  split at decoded
  · cases decoded
  obtain ⟨_, -, decoded⟩ := bind_ok decoded
  split at decoded
  · cases decoded
  next read _ =>
    obtain ⟨_, valid, decoded⟩ := bind_ok decoded
    cases decoded
    unfold validate at valid
    split at valid
    next empty => exact ⟨List.isEmpty_iff.mp empty, read.normalize_again⟩
    · cases valid

theorem decodeSettings_document {settings : Settings} (valid : settings.validate = [])
    (reads : parse (settingsDocument printer settings) =
      some (.object (settingsMembers settings))) :
    decodeSettings parse (settingsDocument printer settings) =
      .ok settings.normalizeLoadedSettings := by
  have small := length_settingsDocument printer valid
  rw [decodeSettings, if_neg (Nat.not_lt.mpr small), reads]
  dsimp only
  rw [checkObjectShape_members, readSettings_members]
  dsimp only [bind, Except.bind]
  rw [validate, Settings.normalize_valid valid]
  rfl

/-- Valid settings are written, and read back with a stale choice of a channel cleared. The
cleanup is idempotent and keeps the settings valid. -/
theorem settings_round_trip {settings : Settings} (valid : settings.validate = [])
    (reads : parse (settingsDocument printer settings) =
      some (.object (settingsMembers settings))) :
    encodeSettings printer settings = .ok (settingsDocument printer settings) ∧
      decodeSettings parse (settingsDocument printer settings) =
        .ok settings.normalizeLoadedSettings ∧
      settings.normalizeLoadedSettings.normalizeLoadedSettings = settings.normalizeLoadedSettings ∧
      settings.normalizeLoadedSettings.validate = [] := by
  constructor
  · exact encodeSettings_ok printer valid
  constructor
  · exact decodeSettings_document valid reads
  · exact ⟨settings.normalize_again, Settings.normalize_valid valid⟩

end round_trip

/-- Settings with a choice of a channel that is stale, since the provider is off. -/
def staleSettings : Settings :=
  { Settings.new "logs" with donbot := {
      discordChannelOverrideExplicit := true, selectedDiscordChannelId := "42" } }

theorem staleSettings_valid : staleSettings.validate = [] := by decide

theorem settings_round_trip_sample :
    encodeSettings prettyPrinter staleSettings =
        .ok (settingsDocument prettyPrinter staleSettings) ∧
      decodeSettings
        (fun document => if document = settingsDocument prettyPrinter staleSettings then
          some (.object (settingsMembers staleSettings)) else none)
        (settingsDocument prettyPrinter staleSettings) = .ok (Settings.new "logs") := by
  obtain ⟨encoded, decoded, -, -⟩ :=
    @settings_round_trip (fun document => if document = settingsDocument prettyPrinter staleSettings then
      some (.object (settingsMembers staleSettings)) else none) prettyPrinter staleSettings
      staleSettings_valid (if_pos rfl)
  exact ⟨encoded, decoded⟩

end MannyUploader.Config
