import MannyUploader.Application.Http
import MannyUploader.Application.Ports
import MannyUploader.Application.TwitchSession

/-! What the addon and a DonBot server exchange: verified identities, delivery routes, and the
base of the server's API. -/
namespace MannyUploader.Application
open Domain Foundation

def maxDonbotApiKeyBytes : Nat := 512

namespace DonBotDeliveryRoute

def requested (route : DonBotDeliveryRoute) : Bool := route != .none

def isValid : DonBotDeliveryRoute → Bool
  | .channelOverride channelId => canonicalDiscordId channelId
  | _ => true

end DonBotDeliveryRoute

structure DonBotChannel where
  channelId : String
  channelName : String
deriving DecidableEq, Repr

structure DonBotDiscordDeliveryPolicy where
  enabled : Bool := false
  defaultsAvailable : Bool := false
  channelOverrideAllowed : Bool := false
  pveSummary : Bool := false
  wvwSummary : Bool := false
  wvwAdvanced : Bool := false
  wvwStream : Bool := false
  aggregateEnabled : Bool := false
  aggregateDefaultsAvailable : Bool := false
  maxAggregateFightLogs : UInt16 := 0
  channels : List DonBotChannel := []
deriving DecidableEq, Repr

structure DonBotGuild where
  guildId : String
  guildName : String
  discordDelivery : DonBotDiscordDeliveryPolicy
deriving DecidableEq, Repr

structure DonBotVerification where
  accountName : String
  discordSummaryDeliveryV1 : Bool
  discordAggregateDeliveryV1 : Bool
  guilds : List DonBotGuild
deriving DecidableEq, Repr

structure DonBotVerificationRequest where
  requestId : UInt64
  apiBaseUrl : String
  apiKey : SecretValue
deriving DecidableEq

structure DonBotVerificationSuccess where
  identity : DonBotVerification
  apiKey : SecretValue
deriving DecidableEq

inductive DonBotVerificationFailure
  | failed | cancelled
deriving DecidableEq, Repr

structure DonBotVerificationResult where
  requestId : UInt64
  verification : Except DonBotVerificationFailure DonBotVerificationSuccess

def validDonbotApiKey (key : SecretValue) : Bool :=
  !key.isEmpty && key.length ≤ maxDonbotApiKeyBytes &&
    key.all fun byte => isLetterOrDigit byte || byte == 45

/-- `trim_end_matches`. -/
def trimEnd (char : Char) (text : String) : String :=
  String.ofList (text.toList.reverse.dropWhile (· == char)).reverse

/-- Shared by verification admission and the HTTP client. -/
def normalizeDonbotApiBase (value : String) : Option String :=
  let bytes := utf8 value
  if bytes.length > 2048 || !bytes.all (fun byte => 0x21 ≤ byte && byte ≤ 0x7e) ||
      bytes.any (utf8 "@?#\\\"").contains || !(validateHttpUrl value .httpsOnly).isOk then none
  else do
    let rest ← stripPrefix (utf8 "https://") bytes
    let (authority, path) := splitAuthority rest
    if authority.getLast? = some 46 || (path.splitOn 47).any isDotSegment then none
    else some (trimEnd '/' value)

end MannyUploader.Application
