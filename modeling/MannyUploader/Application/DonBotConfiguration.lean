import MannyUploader.Application.ConfigurationService
import MannyUploader.Application.DonBot

/-! The owner of the verified DonBot identity. It keeps the saved settings within what the
server offered at the last verification. -/
namespace MannyUploader.Application
open Config Domain Foundation

inductive DonBotConfigurationState
  | unverified | verifying | verified | error | shuttingDown
deriving DecidableEq, Repr

inductive DonBotConfigurationError
  | invalidConfiguration | busy | dispatchFailed | verificationFailed | verificationCancelled
  | staleVerification | settingsSaveFailed | secretLoadFailed | secretStoreFailed
  | secretEraseFailed | notVerified | unknownGuild | deliveryUnavailable | unknownChannel
  | shuttingDown | revisionExhausted
deriving DecidableEq, Repr

structure DonBotConfigurationSnapshot where
  state : DonBotConfigurationState
  apiBaseUrl : String
  accountName : Option String
  discordSummaryDeliveryV1 : Bool
  discordAggregateDeliveryV1 : Bool
  guilds : List DonBotGuild
  selectedGuildId : String
  diagnostic : Option DonBotConfigurationError
  refreshing : Bool
  revision : UInt64
  shuttingDown : Bool
deriving DecidableEq, Repr

inductive Source
  | candidate | saved | refresh
deriving DecidableEq, Repr

structure Pending where
  id : UInt64
  base : String
  configuredBase : String
  source : Source
deriving DecidableEq, Repr

structure DonBotConfigurationController where
  snapshot : DonBotConfigurationSnapshot
  pending : Option Pending
  nextRequest : UInt64
deriving DecidableEq, Repr

/-- The methods of `DonBotVerifier` on a world `W`. A call that panics is an error. -/
structure VerifierPorts (W : Type) where
  enqueue : DonBotVerificationRequest → W → Except Unit Unit × W
  tryTakeResult : W → Except Unit (Option DonBotVerificationResult) × W
  cancelPending : W → W

/-! What the settings may ask of a guild. -/

def clearDelivery (settings : DonBotSettings) : DonBotSettings :=
  { settings with
    discordDeliveryEnabled := false, discordChannelOverrideExplicit := false
    selectedDiscordChannelId := "" }

def disable (settings : DonBotSettings) : DonBotSettings :=
  clearDelivery { settings with enabled := false, selectedGuildId := "" }

def findGuild (guilds : List DonBotGuild) (id : String) : Option DonBotGuild :=
  guilds.find? (·.guildId == id)

def hasSummary (policy : DonBotDiscordDeliveryPolicy) : Bool :=
  policy.pveSummary || policy.wvwSummary || policy.wvwAdvanced || policy.wvwStream

def hasChannel (policy : DonBotDiscordDeliveryPolicy) (channel : String) : Bool :=
  policy.channelOverrideAllowed && policy.channels.any (·.channelId == channel)

def sanitize (settings : DonBotSettings) (identity : DonBotVerification) : DonBotSettings :=
  match findGuild identity.guilds settings.selectedGuildId with
  | none => disable settings
  | some guild =>
    let policy := guild.discordDelivery
    let authorized := identity.discordSummaryDeliveryV1 && policy.enabled
    if !settings.enabled || !authorized || (settings.discordChannelOverrideExplicit &&
        !hasChannel policy settings.selectedDiscordChannelId) then
      clearDelivery settings
    else
      let settings := if settings.discordChannelOverrideExplicit then settings
        else { settings with selectedDiscordChannelId := "" }
      if !hasSummary policy ||
          (!settings.discordChannelOverrideExplicit && !policy.defaultsAvailable) then
        { settings with discordDeliveryEnabled := false }
      else settings

def authorizedDonbotRoute (settings : Settings) (snapshot : DonBotConfigurationSnapshot) :
    DonBotDeliveryRoute :=
  if !settings.donbot.enabled || snapshot.shuttingDown || snapshot.state != .verified ||
      snapshot.accountName.isNone || !snapshot.discordSummaryDeliveryV1 ||
      normalizeDonbotApiBase settings.donbot.apiBaseUrl != some snapshot.apiBaseUrl ||
      settings.donbot.selectedGuildId != snapshot.selectedGuildId then
    .none
  else match findGuild snapshot.guilds settings.donbot.selectedGuildId with
    | none => .none
    | some guild =>
      let policy := guild.discordDelivery
      if !policy.enabled then .none
      else if settings.donbot.discordChannelOverrideExplicit then
        if hasChannel policy settings.donbot.selectedDiscordChannelId then
          .channelOverride settings.donbot.selectedDiscordChannelId
        else .none
      else if policy.defaultsAvailable then .guildDefaults
      else .none

def authorizedDonbotDelivery (settings : Settings) (snapshot : DonBotConfigurationSnapshot) :
    DonBotDeliveryRoute :=
  if !settings.donbot.discordDeliveryEnabled ||
      !(findGuild snapshot.guilds settings.donbot.selectedGuildId).any
        (hasSummary ·.discordDelivery) then
    .none
  else authorizedDonbotRoute settings snapshot

def authorizedDonbotAggregateRoute (settings : Settings)
    (snapshot : DonBotConfigurationSnapshot) : DonBotDeliveryRoute :=
  let route := authorizedDonbotRoute settings snapshot
  if route = .guildDefaults &&
      !(findGuild snapshot.guilds settings.donbot.selectedGuildId).any
        (·.discordDelivery.aggregateDefaultsAvailable) then
    .none
  else route

namespace DonBotConfigurationSnapshot

def clearIdentity (snapshot : DonBotConfigurationSnapshot) : DonBotConfigurationSnapshot :=
  { snapshot with
    accountName := none, guilds := [], selectedGuildId := ""
    discordSummaryDeliveryV1 := false, discordAggregateDeliveryV1 := false, refreshing := false }

def advance (snapshot : DonBotConfigurationSnapshot) : DonBotConfigurationSnapshot :=
  { snapshot with revision := snapshot.revision + 1 }

def changed (snapshot : DonBotConfigurationSnapshot) : DonBotConfigurationSnapshot :=
  advance { snapshot with diagnostic := none }

/-- A refresh that fails keeps the identity it was to renew. -/
def failed (error : DonBotConfigurationError) (source : Source)
    (snapshot : DonBotConfigurationSnapshot) : DonBotConfigurationSnapshot :=
  let snapshot := if source = .refresh then snapshot
    else { snapshot.clearIdentity with state := .error }
  advance { snapshot with refreshing := false, diagnostic := some error }

end DonBotConfigurationSnapshot

namespace DonBotConfigurationController

def new (configuration : ConfigurationService) :
    Except DonBotConfigurationError DonBotConfigurationController :=
  if configuration.shuttingDown then .error .shuttingDown
  else match normalizeDonbotApiBase configuration.settings.donbot.apiBaseUrl with
    | none => .error .invalidConfiguration
    | some apiBaseUrl => .ok {
      snapshot := {
        state := .unverified, apiBaseUrl, accountName := none, discordSummaryDeliveryV1 := false
        discordAggregateDeliveryV1 := false, guilds := [], selectedGuildId := ""
        diagnostic := none, refreshing := false, revision := 1, shuttingDown := false }
      pending := none
      nextRequest := 1 }

end DonBotConfigurationController

/-- The controller with the configuration it borrows for each command. -/
structure DonBotSystem (W : Type) where
  controller : DonBotConfigurationController
  configuration : ConfigurationService
  world : W

namespace DonBotSystem
variable {W : Type}

abbrev snapshot (system : DonBotSystem W) : DonBotConfigurationSnapshot :=
  system.controller.snapshot

abbrev donbot (system : DonBotSystem W) : DonBotSettings := system.configuration.settings.donbot

def withSnapshot (change : DonBotConfigurationSnapshot → DonBotConfigurationSnapshot)
    (system : DonBotSystem W) : DonBotSystem W :=
  { system with controller := { system.controller with
      snapshot := change system.controller.snapshot } }

def withPending (pending : Option Pending) (system : DonBotSystem W) : DonBotSystem W :=
  { system with controller := { system.controller with pending } }

abbrev Command (W α : Type) := Stateful (DonBotSystem W) DonBotConfigurationError α

/-- `fail`, and the return of its error. -/
def failWith (error : DonBotConfigurationError) (source : Source) : Command W α := do
  modify (withSnapshot (·.failed error source))
  Stateful.fail error

/-- A guarded call of the configuration: what went wrong is dropped. -/
def guarded (call : ConfigurationService.Call W α) : Command W (Option α) := do
  let answer ← Stateful.attempt <| Stateful.onPart
    (fun system => (system.configuration, system.world))
    (fun (configuration, world) system => { system with configuration, world }) call
  pure answer.toOption

/-- A call of the verifier. -/
def verifierCall (call : W → α × W) : Command W α := fun system =>
  (.ok (call system.world).1, { system with world := (call system.world).2 })

def requireRunning : Command W Unit := do
  let system ← get
  if system.snapshot.shuttingDown || system.configuration.shuttingDown then
    Stateful.fail .shuttingDown
  else if ConfigurationService.maxRevision - 1 ≤ system.snapshot.revision then
    Stateful.fail .revisionExhausted
  else pure ()

def requireIdle : Command W Unit := do
  requireRunning
  let system ← get
  if system.controller.pending.isSome then Stateful.fail .busy else pure ()

/-- The base of the saved settings is the verified one. -/
def sameBase (system : DonBotSystem W) : Bool :=
  normalizeDonbotApiBase system.donbot.apiBaseUrl == some system.snapshot.apiBaseUrl

def requireVerified : Command W Unit := do
  requireIdle
  let system ← get
  if system.snapshot.state != .verified then Stateful.fail .notVerified
  else if system.sameBase then pure ()
  else failWith .staleVerification .saved

section commands
variable (ports : StorePorts W) (verifier : VerifierPorts W)

def save (settings : Settings) (source : Source) : Command W Unit := do
  match ← guarded (ConfigurationService.saveSettings ports settings) with
  | some () => pure ()
  | none => failWith .settingsSaveFailed source

/-- The request is accepted: what it clears, and what it shows meanwhile. -/
def dispatched (pending : Pending) (system : DonBotSystem W) : DonBotSystem W :=
  (system.withPending (some pending)).withSnapshot fun snapshot =>
    let snapshot := if pending.source = .refresh then { snapshot with refreshing := true }
      else { snapshot.clearIdentity with state := .verifying }
    DonBotConfigurationSnapshot.advance
      { snapshot with apiBaseUrl := pending.base, diagnostic := none }

def dispatch (base : String) (key : SecretValue) (source : Source) : Command W Unit := do
  requireIdle
  match (normalizeDonbotApiBase base).filter fun _ => validDonbotApiKey key with
  | none => failWith .invalidConfiguration source
  | some base => do
    let system ← get
    let id := system.controller.nextRequest
    if id = ConfigurationService.maxRevision then Stateful.fail .revisionExhausted
    else do
      let pending : Pending := { id, base, configuredBase := system.donbot.apiBaseUrl, source }
      modify fun system => { system with controller := { system.controller with
        nextRequest := id + 1 } }
      match ← verifierCall (verifier.enqueue ⟨id, base, key⟩) with
      | .error () => failWith .dispatchFailed source
      | .ok () => modify (dispatched pending)

def beginVerification (base : String) (key : SecretValue) : Command W Unit :=
  dispatch verifier base key .candidate

/-- A refresh retains visible authorization, so it must stay bound to its verified base. -/
def beginSaved (source : Source) : Command W Unit := do
  requireIdle
  Stateful.onlyIf (source = .refresh) requireVerified
  match ← guarded (ConfigurationService.loadSecret ports .donBotGw2ApiKey) with
  | none => failWith .secretLoadFailed source
  | some key => do
    let system ← get
    dispatch verifier system.donbot.apiBaseUrl key source

def beginSavedVerification : Command W Unit := beginSaved ports verifier .saved

def beginSavedRefresh : Command W Unit := beginSaved ports verifier .refresh

/-- The identity is published with the guild that is saved now. -/
def published (pending : Pending) (identity : DonBotVerification) (system : DonBotSystem W) :
    DonBotSystem W :=
  system.withSnapshot fun snapshot => DonBotConfigurationSnapshot.advance { snapshot with
    state := .verified
    apiBaseUrl := pending.base
    accountName := some identity.accountName
    guilds := identity.guilds
    discordSummaryDeliveryV1 := identity.discordSummaryDeliveryV1
    discordAggregateDeliveryV1 := identity.discordAggregateDeliveryV1
    selectedGuildId := system.donbot.selectedGuildId
    refreshing := false
    diagnostic := none }

/-- A verified candidate replaces the saved base and key, and starts disabled. -/
def acceptCandidate (pending : Pending) (success : DonBotVerificationSuccess) :
    Command W Unit := do
  let system ← get
  let settings := system.configuration.settings
  save ports { settings with
    donbot := { disable settings.donbot with apiBaseUrl := pending.base } } pending.source
  match ← guarded (ConfigurationService.storeSecret ports .donBotGw2ApiKey success.apiKey) with
  | some () => pure ()
  | none => failWith .secretStoreFailed pending.source

/-- Settings that ask for more than the identity offers are cut down. -/
def acceptSaved (pending : Pending) (success : DonBotVerificationSuccess) : Command W Unit := do
  let system ← get
  let settings := system.configuration.settings
  let sanitized := { settings with donbot := sanitize settings.donbot success.identity }
  Stateful.onlyIf (sanitized ≠ settings) (save ports sanitized pending.source)

def acceptIdentity (pending : Pending) (success : DonBotVerificationSuccess) : Command W Unit :=
  if pending.source = .candidate then acceptCandidate ports pending success
  else acceptSaved ports pending success

def verificationError : DonBotVerificationFailure → DonBotConfigurationError
  | .failed => .verificationFailed
  | .cancelled => .verificationCancelled

def accept (pending : Pending)
    (verification : Except DonBotVerificationFailure DonBotVerificationSuccess) :
    Command W Bool := do
  modify (withPending none)
  match verification with
  | .error failure => failWith (verificationError failure) pending.source
  | .ok success => do
    let system ← get
    if normalizeDonbotApiBase system.donbot.apiBaseUrl ≠
        normalizeDonbotApiBase pending.configuredBase then
      failWith .staleVerification pending.source
    else do
      acceptIdentity ports pending success
      modify (published pending success.identity)
      pure true

/-- Consumes at most one result, including stale results. -/
def poll : Command W Bool := do
  requireRunning
  match ← verifierCall verifier.tryTakeResult with
  | .error () => do
    let system ← get
    let source := (system.controller.pending.map (·.source)).getD .saved
    modify (withPending none)
    failWith .verificationFailed source
  | .ok none => pure false
  | .ok (some result) => do
    let system ← get
    match system.controller.pending.filter (·.id == result.requestId) with
    | none => Stateful.fail .staleVerification
    | some pending => accept ports pending result.verification

def selectGuild (guildId : String) : Command W Unit := do
  requireVerified
  let system ← get
  if (findGuild system.snapshot.guilds guildId).isNone then Stateful.fail .unknownGuild
  else do
    let settings := system.configuration.settings
    let donbot := if settings.donbot.selectedGuildId ≠ guildId then clearDelivery settings.donbot
      else settings.donbot
    save ports { settings with donbot := { donbot with selectedGuildId := guildId } } .saved
    modify (withSnapshot fun snapshot =>
      DonBotConfigurationSnapshot.changed { snapshot with selectedGuildId := guildId })

def setDiscordDeliveryEnabled (enabled : Bool) : Command W Unit := do
  requireVerified
  let system ← get
  let settings := system.configuration.settings
  let settings := { settings with donbot := { settings.donbot with
    discordDeliveryEnabled := enabled } }
  if enabled && !(authorizedDonbotDelivery settings system.snapshot).requested then
    Stateful.fail .deliveryUnavailable
  else do
    let settings := if settings.donbot.discordChannelOverrideExplicit then settings
      else { settings with donbot := { settings.donbot with selectedDiscordChannelId := "" } }
    save ports settings .saved
    modify (withSnapshot (·.changed))

/-- The channel may be chosen, or the guild's defaults if none is named. -/
def channelError (system : DonBotSystem W) (channelId : String) :
    Option DonBotConfigurationError :=
  match findGuild system.snapshot.guilds system.donbot.selectedGuildId with
  | none => some .deliveryUnavailable
  | some guild =>
    let policy := guild.discordDelivery
    if !system.snapshot.discordSummaryDeliveryV1 || !policy.enabled then
      some .deliveryUnavailable
    else if channelId.isEmpty then
      if policy.defaultsAvailable then none else some .deliveryUnavailable
    else if hasChannel policy channelId then none else some .unknownChannel

def selectDiscordChannel (channelId : String) : Command W Unit := do
  requireVerified
  let system ← get
  match channelError system channelId with
  | some error => Stateful.fail error
  | none => do
    let settings := system.configuration.settings
    save ports { settings with donbot := { settings.donbot with
      discordChannelOverrideExplicit := !channelId.isEmpty
      selectedDiscordChannelId := channelId } } .saved
    modify (withSnapshot (·.changed))

def disconnect : Command W Unit := do
  requireIdle
  let system ← get
  let settings := system.configuration.settings
  save ports { settings with donbot := disable settings.donbot } .saved
  modify (withSnapshot fun snapshot => { snapshot.clearIdentity with state := .unverified })
  let system ← get
  match normalizeDonbotApiBase system.donbot.apiBaseUrl with
  | none => Stateful.fail .invalidConfiguration
  | some apiBaseUrl => do
    modify (withSnapshot ({ · with apiBaseUrl }))
    match ← guarded (ConfigurationService.eraseSecret ports .donBotGw2ApiKey) with
    | none => failWith .secretEraseFailed .saved
    | some () => modify (withSnapshot (·.changed))

/-- `shutdown`: a controller that shut down stays as it is. -/
def shutdown (system : DonBotSystem W) : DonBotSystem W :=
  if system.snapshot.shuttingDown then system
  else
    let system := (system.withPending none).withSnapshot fun snapshot =>
      DonBotConfigurationSnapshot.advance { snapshot.clearIdentity with
        shuttingDown := true, state := .shuttingDown, diagnostic := none }
    { system with world := verifier.cancelPending system.world }

end commands

end DonBotSystem
end MannyUploader.Application
