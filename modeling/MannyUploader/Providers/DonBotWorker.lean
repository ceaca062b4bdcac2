import MannyUploader.Application.DonBotConfiguration

/-! The options that the DonBot workers run with. -/
namespace MannyUploader.Providers
open Domain Application

structure DonBotOptions where
  apiBaseUrl : String
  guildId : String
  delivery : DonBotDeliveryRoute
deriving DecidableEq, Repr

def normalizeOptions (options : DonBotOptions) : Option DonBotOptions :=
  if !options.delivery.isValid || (if options.guildId.isEmpty then options.delivery.requested
      else !canonicalDiscordId options.guildId) then
    none
  else (normalizeDonbotApiBase options.apiBaseUrl).map fun apiBaseUrl => { options with apiBaseUrl }

/-- What `configure` makes of a policy, before it adjusts the pool. -/
def configuredOptions : ProviderPolicy → Except ProviderConfigurationError DonBotOptions
  | .donbot apiBaseUrl guildId delivery =>
    match normalizeOptions { apiBaseUrl, guildId, delivery } with
    | none => .error .invalidConfiguration
    | some options => .ok options
  | _ => .error .invalidConfiguration

end MannyUploader.Providers
