import MannyUploader.Config.HistoryStore
import MannyUploader.Config.SettingsCodec

/-! The two settings files: a load takes the first that is good, and a save keeps a good
primary as the backup before it replaces it. -/
namespace MannyUploader.Config
open Domain Foundation

inductive SettingsLoadSource
  | defaults | primary | backup
deriving DecidableEq, Repr

inductive SettingsReadIssue
  | missing | invalidJson
  | invalidValues (errors : List SettingsValidationError)
  | tooLarge
  | file (error : FileError)
deriving DecidableEq, Repr

inductive SettingsStoreError
  | invalidConfiguration
  | invalidValues (errors : List SettingsValidationError)
  | tooLarge | serializationFailed
  | file (error : FileError)
  | noValidSettings (primary backup : SettingsReadIssue)
deriving DecidableEq, Repr

structure SettingsLoadResult where
  settings : Settings
  source : SettingsLoadSource
  recovery : Option SettingsReadIssue
deriving DecidableEq, Repr

structure JsonSettingsStore where
  primary : PathBuf
  defaults : Settings
  storable : validateStoragePath primary = .ok ()
  valid : defaults.validate = []

def readIssue : SettingsDocumentError → SettingsReadIssue
  | .tooLarge => .tooLarge
  | .invalidSettings errors => .invalidValues errors
  | .invalidJson | .serializationFailed => .invalidJson

def saveError : SettingsDocumentError → SettingsStoreError
  | .tooLarge => .tooLarge
  | .invalidSettings errors => .invalidValues errors
  | .invalidJson | .serializationFailed => .serializationFailed

namespace JsonSettingsStore

def new (primary : PathBuf) (defaults : Settings) : Except SettingsStoreError JsonSettingsStore :=
  if storable : validateStoragePath primary = .ok () then
    if valid : defaults.validate = [] then .ok ⟨primary, defaults, storable, valid⟩
    else .error (.invalidValues defaults.validate)
  else .error .invalidConfiguration

def backup (store : JsonSettingsStore) : PathBuf := ⟨store.primary.bytes ++ utf8 ".bak"⟩

section files
variable {W : Type} (parse : List UInt8 → Option Json) (printer : Json.Printer)
  (files : FilePorts W)

def read (path : PathBuf) (world : W) : Except SettingsReadIssue (Settings × List UInt8) :=
  match files.read path maxSettingsBytes world with
  | .error error => .error (if error = .tooLarge then .tooLarge else .file error)
  | .ok none => .error .missing
  | .ok (some document) =>
    match decodeSettings parse document with
    | .error error => .error (readIssue error)
    | .ok settings => .ok (settings, document)

variable (store : JsonSettingsStore)

def load (world : W) : Except SettingsStoreError SettingsLoadResult :=
  match read parse files store.primary world with
  | .ok (settings, _) => .ok { settings, source := .primary, recovery := none }
  | .error primary =>
    match read parse files store.backup world with
    | .ok (settings, _) => .ok { settings, source := .backup, recovery := some primary }
    | .error backup =>
      if backup = .missing ∧ primary = .missing then
        .ok { settings := store.defaults, source := .defaults, recovery := none }
      else .error (.noValidSettings primary backup)

def replace (document : List UInt8) (world : W) : Except SettingsStoreError Unit × W :=
  match files.writeAtomic store.primary document world with
  | (.error error, world) => (.error (.file error), world)
  | (.ok (), world) => (.ok (), world)

/-- A primary that is no good settings document is not kept as the backup. -/
def save (settings : Settings) (world : W) : Except SettingsStoreError Unit × W :=
  match encodeSettings printer settings with
  | .error error => (.error (saveError error), world)
  | .ok document =>
    match read parse files store.primary world with
    | .ok (_, previous) =>
      match files.writeAtomic store.backup previous world with
      | (.error error, world) => (.error (.file error), world)
      | (.ok (), world) => replace files store document world
    | .error (.file error) => (.error (.file error), world)
    | .error .missing | .error .invalidJson | .error (.invalidValues _) | .error .tooLarge =>
      replace files store document world

/-- The writes that a save will make, as far as each of them succeeds. -/
def writes (settings : Settings) (world : W) : List (PathBuf × List UInt8) :=
  match encodeSettings printer settings with
  | .error _ => []
  | .ok document =>
    match read parse files store.primary world with
    | .ok (_, previous) => [(store.backup, previous), (store.primary, document)]
    | .error (.file _) => []
    | .error _ => [(store.primary, document)]

end files

end JsonSettingsStore
end MannyUploader.Config
