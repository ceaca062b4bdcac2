import MannyUploader.Application.DonBotConfiguration
import MannyUploader.Application.TwitchAuthentication

/-! The commands of the options window that change settings which the DonBot controller
watches. -/
namespace MannyUploader.Application
open Config Domain Foundation

inductive NexusOptionsError
  | invalidConfiguration | invalidCommand
  | invalidSettings (errors : List SettingsValidationError)
  | clientIdInUse | settingsApplyFailed | queueFull | busy
  | configuration (error : ConfigurationError)
  | donBot (error : DonBotConfigurationError)
  | twitch (error : TwitchAuthenticationControllerError)
  | testMessage (error : TwitchTestMessageError)
  | authorizationUnavailable | browserLaunchFailed | shuttingDown | revisionExhausted | internal
deriving DecidableEq, Repr

namespace DonBotSystem
variable {W : Type} (ports : StorePorts W) (verifier : VerifierPorts W)

abbrev OptionsCommand (W α : Type) := Stateful (DonBotSystem W) NexusOptionsError α

def saveOptions (settings : Settings) : OptionsCommand W Unit :=
  Stateful.wrapping .configuration <| Stateful.onPart
    (fun system => (system.configuration, system.world))
    (fun (configuration, world) system => { system with configuration, world })
    (ConfigurationService.saveSettings ports settings)

/-- The verified identity still covers the saved base and guild. -/
def mayEnable (system : DonBotSystem W) : Bool :=
  let bot := system.snapshot
  bot.state == .verified && bot.accountName.isSome && system.sameBase &&
    system.donbot.selectedGuildId == bot.selectedGuildId &&
    bot.guilds.any (·.guildId == bot.selectedGuildId)

/-- `SetDonBotEnabled`. -/
def setDonBotEnabled (value : Bool) : OptionsCommand W Unit := do
  let system ← get
  if system.snapshot.refreshing || system.snapshot.state == .verifying then
    Stateful.fail (.donBot .busy)
  else if system.snapshot.shuttingDown then Stateful.fail .shuttingDown
  else if value && !system.mayEnable then Stateful.fail (.donBot .notVerified)
  else do
    let settings := system.configuration.settings
    let donbot := { settings.donbot with enabled := value }
    saveOptions ports { settings with donbot := if value then donbot else clearDelivery donbot }
    Stateful.onlyIf value (Stateful.wrapping .donBot (beginSavedRefresh ports verifier))

/-- A command that leaves the settings of DonBot as they are. -/
def saveOthers (settings : Settings) : OptionsCommand W Unit := do
  let system ← get
  saveOptions ports { settings with donbot := system.donbot }

end DonBotSystem
end MannyUploader.Application
