import MannyUploader.Application.TwitchSession
import MannyUploader.Config.SettingsStore
import MannyUploader.Foundation.Stateful

/-! The owner of the saved settings and of the protected secrets. The two stores are whatever
answers their calls; a call that panics is an error of theirs. -/
namespace MannyUploader.Application
open Config Domain Foundation

inductive SecretId
  | dpsReportUserToken | donBotGw2ApiKey | twitchOAuthSession
deriving DecidableEq, Repr

inductive SecretProtectionErrorCode
  | unsupportedEnvironment | inputTooLarge | protectionFailed | unprotectionFailed | outputTooLarge
deriving DecidableEq, Repr

inductive SecretStoreErrorCode
  | invalidConfiguration | invalidId | emptySecret | secretTooLarge | notFound | corruptRecord
  | fileTooLarge
  | protection (code : SecretProtectionErrorCode)
  | file (error : FileError)
deriving DecidableEq, Repr

structure SecretStoreError where
  id : Option SecretId
  code : SecretStoreErrorCode
  systemError : Option UInt32
deriving DecidableEq, Repr

inductive ConfigurationError
  | settingsLoad (error : SettingsStoreError)
  | settingsSave (error : SettingsStoreError)
  | secretStorageUnavailable (error : SecretStoreError)
  | secretLoad (error : SecretStoreError)
  | secretStore (error : SecretStoreError)
  | secretErase (error : SecretStoreError)
  | shuttingDown (secretId : Option SecretId)
  | revisionExhausted
deriving DecidableEq, Repr

/-- The methods of `SettingsStore` and `SecretStore` on a world `W`. -/
structure StorePorts (W : Type) where
  saveSettings : Settings → W → Except SettingsStoreError Unit × W
  loadSecret : SecretId → W → Except SecretStoreError SecretValue × W
  storeSecret : SecretId → SecretValue → W → Except SecretStoreError Unit × W
  eraseSecret : SecretId → W → Except SecretStoreError Unit × W

/-- The saved settings are valid. Without a secret adapter there is the error that says why. -/
structure ConfigurationService where
  settings : Settings
  settingsLoadSource : SettingsLoadSource
  settingsRecovery : Option SettingsReadIssue
  absentSecrets : Option SecretStoreError
  revision : UInt64
  shuttingDown : Bool
  valid : settings.validate = []

namespace ConfigurationService

def maxRevision : UInt64 := 0xffff_ffff_ffff_ffff

def new (loaded : SettingsLoadResult) (absentSecrets : Option SecretStoreError) :
    Except ConfigurationError ConfigurationService :=
  if valid : loaded.settings.validate = [] then
    .ok {
      settings := loaded.settings, settingsLoadSource := loaded.source
      settingsRecovery := loaded.recovery, absentSecrets, revision := 1, shuttingDown := false
      valid }
  else .error (.settingsLoad (.invalidValues loaded.settings.validate))

section calls
variable {W : Type} (ports : StorePorts W)

/-- The service and the world of its stores. -/
abbrev Call (W α : Type) := Stateful (ConfigurationService × W) ConfigurationError α

def requireRunning (secretId : Option SecretId) : Call W Unit := do
  let (service, _) ← get
  if service.shuttingDown then Stateful.fail (.shuttingDown secretId) else pure ()

/-- A call of a store. -/
def answered (call : W → Except ε α × W) (wrap : ε → ConfigurationError) : Call W α :=
  fun (service, world) =>
    match call world with
    | (.ok value, world) => (.ok value, (service, world))
    | (.error error, world) => (.error (wrap error), (service, world))

/-- The last revision is reserved for shutdown. -/
def saveSettings (settings : Settings) : Call W Unit := do
  requireRunning none
  let (service, _) ← get
  if maxRevision - 1 ≤ service.revision then Stateful.fail .revisionExhausted
  else if valid : settings.validate = [] then do
    answered (ports.saveSettings settings) .settingsSave
    modify fun (service, world) => ({ service with
      settings, valid, settingsLoadSource := .primary, settingsRecovery := none
      revision := service.revision + 1 }, world)
  else Stateful.fail (.settingsSave (.invalidValues settings.validate))

def requireSecrets (id : SecretId) : Call W Unit := do
  requireRunning (some id)
  let (service, _) ← get
  match service.absentSecrets with
  | some error => Stateful.fail (.secretStorageUnavailable { error with id := some id })
  | none => pure ()

def requestError (id : SecretId) (error : SecretStoreError) : SecretStoreError :=
  { error with id := some id }

def loadSecret (id : SecretId) : Call W SecretValue := do
  requireSecrets id
  answered (ports.loadSecret id) fun error => .secretLoad (requestError id error)

def storeSecret (id : SecretId) (value : SecretValue) : Call W Unit := do
  requireSecrets id
  answered (ports.storeSecret id value) fun error => .secretStore (requestError id error)

def eraseSecret (id : SecretId) : Call W Unit := do
  requireSecrets id
  answered (ports.eraseSecret id) fun error => .secretErase (requestError id error)

def shutdown (service : ConfigurationService) : ConfigurationService :=
  if service.shuttingDown then service
  else { service with shuttingDown := true, revision := service.revision + 1 }

end calls

end ConfigurationService
end MannyUploader.Application
