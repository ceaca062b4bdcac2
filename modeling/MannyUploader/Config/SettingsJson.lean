import MannyUploader.Domain.Settings
import MannyUploader.Foundation.Json

/-! The settings document. Reading and printing JSON belongs to `serde_json`, so the two are parameters; which
members are written, and which documents are accepted as settings, is stated here. -/
namespace MannyUploader.Config
open Domain Foundation Json

def maxSettingsBytes : Nat := 64 * 1024

inductive SettingsDocumentError
  | tooLarge | invalidJson
  | invalidSettings (errors : List SettingsValidationError)
  | serializationFailed
deriving DecidableEq, Repr

section general
variable (general : GeneralSettings)

def generalMembers : List (String × Json) :=
  [("log_directory", .string general.logDirectory),
    ("watch_subdirectories", .bool general.watchSubdirectories),
    ("window_visible", .bool general.windowVisible),
    ("poll_interval_ms", .natural general.pollIntervalMs.toNat),
    ("stability_observations", .natural general.stabilityObservations.toNat),
    ("recent_log_limit", .natural general.recentLogLimit.toNat),
    ("parser_queue_capacity", .natural general.parserQueueCapacity.toNat),
    ("parallel_uploads_per_provider", .natural general.parallelUploadsPerProvider.toNat),
    ("max_candidates", .natural general.maxCandidates.toNat)]

def readGeneral (json : Json) : Option GeneralSettings := do
  let members ← record (generalMembers {} |>.map (·.1)) json
  let missing : GeneralSettings := {}
  some {
    logDirectory := ← member members "log_directory" asString missing.logDirectory
    watchSubdirectories :=
      ← member members "watch_subdirectories" asBool missing.watchSubdirectories
    windowVisible := ← member members "window_visible" asBool missing.windowVisible
    pollIntervalMs := ← member members "poll_interval_ms" asUInt32 missing.pollIntervalMs
    stabilityObservations :=
      ← member members "stability_observations" asUInt32 missing.stabilityObservations
    recentLogLimit := ← member members "recent_log_limit" asUInt32 missing.recentLogLimit
    parserQueueCapacity :=
      ← member members "parser_queue_capacity" asUInt32 missing.parserQueueCapacity
    parallelUploadsPerProvider :=
      ← member members "parallel_uploads_per_provider" asUInt32 missing.parallelUploadsPerProvider
    maxCandidates := ← member members "max_candidates" asUInt32 missing.maxCandidates }

end general

def dpsReportMembers (dpsReport : DpsReportSettings) : List (String × Json) :=
  [("enabled", .bool dpsReport.enabled), ("detailed_wvw", .bool dpsReport.detailedWvw)]

def readDpsReport (json : Json) : Option DpsReportSettings := do
  let members ← record (dpsReportMembers {} |>.map (·.1)) json
  let missing : DpsReportSettings := {}
  some {
    enabled := ← member members "enabled" asBool missing.enabled
    detailedWvw := ← member members "detailed_wvw" asBool missing.detailedWvw }

def wingmanMembers (wingman : WingmanSettings) : List (String × Json) :=
  [("enabled", .bool wingman.enabled)]

def readWingman (json : Json) : Option WingmanSettings := do
  let members ← record (wingmanMembers {} |>.map (·.1)) json
  let missing : WingmanSettings := {}
  some { enabled := ← member members "enabled" asBool missing.enabled }

def donbotMembers (donbot : DonBotSettings) : List (String × Json) :=
  [("enabled", .bool donbot.enabled),
    ("api_base_url", .string donbot.apiBaseUrl),
    ("selected_guild_id", .string donbot.selectedGuildId),
    ("discord_delivery_enabled", .bool donbot.discordDeliveryEnabled),
    ("discord_channel_override_explicit", .bool donbot.discordChannelOverrideExplicit),
    ("selected_discord_channel_id", .string donbot.selectedDiscordChannelId)]

def readDonbot (json : Json) : Option DonBotSettings := do
  let members ← record (donbotMembers {} |>.map (·.1)) json
  let missing : DonBotSettings := {}
  some {
    enabled := ← member members "enabled" asBool missing.enabled
    apiBaseUrl := ← member members "api_base_url" asString missing.apiBaseUrl
    selectedGuildId := ← member members "selected_guild_id" asString missing.selectedGuildId
    discordDeliveryEnabled :=
      ← member members "discord_delivery_enabled" asBool missing.discordDeliveryEnabled
    discordChannelOverrideExplicit := ← member members "discord_channel_override_explicit" asBool
      missing.discordChannelOverrideExplicit
    selectedDiscordChannelId := ← member members "selected_discord_channel_id" asString
      missing.selectedDiscordChannelId }

def twitchMembers (twitch : TwitchSettings) : List (String × Json) :=
  [("enabled", .bool twitch.enabled),
    ("client_id", .string twitch.clientId),
    ("message_template", .string twitch.messageTemplate),
    ("post_success", .bool twitch.postSuccess),
    ("post_failure", .bool twitch.postFailure)]

def readTwitch (json : Json) : Option TwitchSettings := do
  let members ← record (twitchMembers {} |>.map (·.1)) json
  let missing : TwitchSettings := {}
  some {
    enabled := ← member members "enabled" asBool missing.enabled
    clientId := ← member members "client_id" asString missing.clientId
    messageTemplate := ← member members "message_template" asString missing.messageTemplate
    postSuccess := ← member members "post_success" asBool missing.postSuccess
    postFailure := ← member members "post_failure" asBool missing.postFailure }

def settingsMembers (settings : Settings) : List (String × Json) :=
  [("schema_version", .natural settings.schemaVersion.toNat),
    ("general", .object (generalMembers settings.general)),
    ("dps_report", .object (dpsReportMembers settings.dpsReport)),
    ("wingman", .object (wingmanMembers settings.wingman)),
    ("donbot", .object (donbotMembers settings.donbot)),
    ("twitch", .object (twitchMembers settings.twitch))]

/-- Only the schema version has no default. -/
def readSettings (json : Json) : Option Settings := do
  let members ← record (settingsMembers (.new "") |>.map (·.1)) json
  let missing : Settings := .new ""
  some {
    schemaVersion := ← member members "schema_version" asUInt32 none
    general := ← member members "general" readGeneral missing.general
    dpsReport := ← member members "dps_report" readDpsReport missing.dpsReport
    wingman := ← member members "wingman" readWingman missing.wingman
    donbot := ← member members "donbot" readDonbot missing.donbot
    twitch := ← member members "twitch" readTwitch missing.twitch }

/-- The last member of a name counts here. -/
def checkObjectShape (json : Json) : Except SettingsDocumentError Unit :=
  match json with
  | .object members =>
    if ["general", "dps_report", "wingman", "donbot", "twitch"].all fun key =>
        match members.reverse.lookup key with
        | none | some (.object _) => true
        | some _ => false then .ok ()
    else .error .invalidJson
  | _ => .error .invalidJson

def validate (settings : Settings) : Except SettingsDocumentError Unit :=
  if settings.validate.isEmpty then .ok () else .error (.invalidSettings settings.validate)

/-- The shape check comes first, since a record may be read from an array too. -/
def decodeSettings (parse : List UInt8 → Option Json) (document : List UInt8) :
    Except SettingsDocumentError Settings :=
  if document.length > maxSettingsBytes then .error .tooLarge
  else match parse document with
    | none => .error .invalidJson
    | some json => do
      checkObjectShape json
      match readSettings json with
      | none => .error .invalidJson
      | some settings =>
        let settings := settings.normalizeLoadedSettings
        validate settings
        .ok settings

/-- The text that `serde_json` prints, and a line end. -/
def settingsDocument (printer : Printer) (settings : Settings) : List UInt8 :=
  printer.print (.object (settingsMembers settings)) ++ [10]

/-- The bounded writer refuses the write that would pass the limit. -/
def encodeSettings (printer : Printer) (settings : Settings) :
    Except SettingsDocumentError (List UInt8) := do
  validate settings
  let document := settingsDocument printer settings
  if document.length > maxSettingsBytes then .error .tooLarge else .ok document

end MannyUploader.Config
