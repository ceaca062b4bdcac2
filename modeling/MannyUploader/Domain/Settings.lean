import MannyUploader.Domain.TwitchTemplate
import MannyUploader.Domain.UploadJob
import MannyUploader.Foundation.ByteText

/-! The settings of the addon, with the checks that a save makes and the cleanup that a load
makes. -/
namespace MannyUploader.Domain
open Foundation

def settingsSchemaVersion : UInt32 := 1
def defaultDonbotApi : String := "https://donbot-api.walmslo.com"
def defaultTwitchTemplate : String := "{encounter}{mode_suffix} - {result}: {url}"

structure GeneralSettings where
  logDirectory : String := ""
  watchSubdirectories : Bool := true
  windowVisible : Bool := true
  pollIntervalMs : UInt32 := 1000
  stabilityObservations : UInt32 := 2
  recentLogLimit : UInt32 := 100
  parserQueueCapacity : UInt32 := 8
  parallelUploadsPerProvider : UInt32 := 5
  maxCandidates : UInt32 := 4096
deriving DecidableEq, Repr

structure DpsReportSettings where
  enabled : Bool := true
  detailedWvw : Bool := false
deriving DecidableEq, Repr

structure WingmanSettings where
  enabled : Bool := true
deriving DecidableEq, Repr

structure DonBotSettings where
  enabled : Bool := false
  apiBaseUrl : String := defaultDonbotApi
  selectedGuildId : String := ""
  discordDeliveryEnabled : Bool := false
  discordChannelOverrideExplicit : Bool := false
  selectedDiscordChannelId : String := ""
deriving DecidableEq, Repr

structure TwitchSettings where
  enabled : Bool := false
  clientId : String := ""
  messageTemplate : String := defaultTwitchTemplate
  postSuccess : Bool := true
  postFailure : Bool := true
deriving DecidableEq, Repr

structure Settings where
  schemaVersion : UInt32 := settingsSchemaVersion
  general : GeneralSettings
  dpsReport : DpsReportSettings := {}
  wingman : WingmanSettings := {}
  donbot : DonBotSettings := {}
  twitch : TwitchSettings := {}
deriving DecidableEq, Repr

inductive SettingsErrorCode
  | unsupportedSchema | emptyValue | invalidPath | valueTooLong | outOfRange | invalidUrl
  | invalidGuildId | invalidChannelId | discordRequiresDonBot | invalidTwitchClientId
  | twitchRequiresDpsReport | twitchPostingDisabled
  | template (error : TemplateError)
deriving DecidableEq, Repr

structure SettingsValidationError where
  field : String
  code : SettingsErrorCode
deriving DecidableEq, Repr

/-- `char::is_whitespace`: the Unicode property `White_Space`. -/
def isWhitespace (ch : Char) : Bool :=
  let code := ch.toNat
  (9 ≤ code && code ≤ 13) || (0x2000 ≤ code && code ≤ 0x200a) ||
    [0x20, 0x85, 0xa0, 0x1680, 0x2028, 0x2029, 0x202f, 0x205f, 0x3000].contains code

def validPort (port : List UInt8) : Bool :=
  !port.isEmpty && port.all isAsciiDigit && (parsePort port).any (· != 0)

/-- A segment of a path that stands for a directory above or for none. -/
def isDotSegment (segment : List UInt8) : Bool :=
  segment == utf8 "." || segment == utf8 ".."

/-- The authority and the path of what follows a scheme. -/
def splitAuthority (remainder : List UInt8) : List UInt8 × List UInt8 :=
  (splitOnce (utf8 "/") remainder).getD (remainder, [])

def validAuthority (authority : List UInt8) : Bool :=
  match stripPrefix (utf8 "[") authority with
  | some ipv6 =>
    match splitOnce (utf8 "]") ipv6 with
    | none => false
    | some (host, suffix) => (parseIpv6 host).isSome &&
        (suffix.isEmpty || (stripPrefix (utf8 ":") suffix).any validPort)
  | none =>
    let (host, port) := match splitOnce (utf8 ":") authority with
      | some (host, port) => (host, some port)
      | none => (authority, none)
    !host.isEmpty && !host.any (utf8 "[]%").contains && port.all validPort

def validApiBase (value : String) : Bool :=
  match stripPrefix (utf8 "https://") (utf8 value) with
  | none => false
  | some remainder =>
    if (utf8 value).length > 2048 || value.toList.any isWhitespace ||
        (utf8 value).any isAsciiControl || (utf8 value).any (utf8 "@?#\\").contains then
      false
    else
      let (authority, path) := splitAuthority remainder
      if authority.isEmpty || (path.splitOn 47).any isDotSegment then false
      else validAuthority authority

namespace Settings

def new (logDirectory : String) : Settings := { general := { logDirectory } }

def enabledProviders (settings : Settings) : ProviderSelection where
  dpsReport := settings.dpsReport.enabled
  wingman := settings.wingman.enabled
  donbot := settings.donbot.enabled
  twitch := settings.twitch.enabled

/-- Loading clears stale legacy channel choices before validation. Save validation never
mutates. -/
def normalizeLoadedSettings (settings : Settings) : Settings :=
  if !settings.donbot.enabled || !settings.donbot.discordChannelOverrideExplicit then
    { settings with donbot := { settings.donbot with
        discordChannelOverrideExplicit := false, selectedDiscordChannelId := "" } }
  else settings

/-- `reject`, if the check fails. -/
def reject (failed : Bool) (field : String) (code : SettingsErrorCode) :
    List SettingsValidationError := if failed then [⟨field, code⟩] else []

def outOfRange (field : String) (value minimum maximum : UInt32) : List SettingsValidationError :=
  reject (!decide (minimum ≤ value ∧ value ≤ maximum)) field .outOfRange

def validateGeneral (general : GeneralSettings) : List SettingsValidationError :=
  let path := utf8 general.logDirectory
  reject path.isEmpty "general.log_directory" .emptyValue ++
  reject (path.length > 4096) "general.log_directory" .valueTooLong ++
  reject (path.any (· < 0x20)) "general.log_directory" .invalidPath ++
  outOfRange "general.poll_interval_ms" general.pollIntervalMs 250 60_000 ++
  outOfRange "general.stability_observations" general.stabilityObservations 2 10 ++
  outOfRange "general.recent_log_limit" general.recentLogLimit 1 500 ++
  outOfRange "general.parser_queue_capacity" general.parserQueueCapacity 1 64 ++
  outOfRange "general.parallel_uploads_per_provider" general.parallelUploadsPerProvider 1 32 ++
  outOfRange "general.max_candidates" general.maxCandidates 1 10_000

def validateDonbot (donbot : DonBotSettings) : List SettingsValidationError :=
  reject (!validApiBase donbot.apiBaseUrl) "donbot.api_base_url" .invalidUrl ++
  reject (!donbot.selectedGuildId.isEmpty && !canonicalDiscordId donbot.selectedGuildId)
    "donbot.selected_guild_id" .invalidGuildId ++
  reject (donbot.enabled && donbot.selectedGuildId.isEmpty) "donbot.selected_guild_id" .emptyValue ++
  reject (!donbot.selectedDiscordChannelId.isEmpty &&
      !canonicalDiscordId donbot.selectedDiscordChannelId)
    "donbot.selected_discord_channel_id" .invalidChannelId ++
  reject (donbot.discordDeliveryEnabled && !donbot.enabled)
    "donbot.discord_delivery_enabled" .discordRequiresDonBot

def isLowercaseOrDigit (byte : UInt8) : Bool := (97 ≤ byte && byte ≤ 122) || isAsciiDigit byte

def templateErrors (template : String) : List SettingsValidationError :=
  match TwitchMessageTemplate.parse template with
  | .ok _ => []
  | .error error => [⟨"twitch.message_template", .template error⟩]

def validateTwitch (settings : Settings) : List SettingsValidationError :=
  let twitch := settings.twitch
  let clientId := utf8 twitch.clientId
  reject (clientId.length > 128 || !clientId.all isLowercaseOrDigit)
    "twitch.client_id" .invalidTwitchClientId ++
  templateErrors twitch.messageTemplate ++
  reject (twitch.enabled && !settings.dpsReport.enabled) "twitch.enabled" .twitchRequiresDpsReport ++
  reject (twitch.enabled && !twitch.postSuccess && !twitch.postFailure)
    "twitch.enabled" .twitchPostingDisabled

def validate (settings : Settings) : List SettingsValidationError :=
  reject (settings.schemaVersion != settingsSchemaVersion) "schema_version" .unsupportedSchema ++
  validateGeneral settings.general ++ validateDonbot settings.donbot ++ settings.validateTwitch

end Settings
end MannyUploader.Domain
