import MannyUploader.Application.DonBot
import MannyUploader.Application.ReportUrl

/-! The row of a recent log: what it shows of a job, and which actions it offers. -/
namespace MannyUploader.Ui
open Domain Application

structure ProviderCell where
  state : ProviderState
  status : String
  detail : String
  retryAvailable : Bool

structure RecentLogRow where
  id : UploadJobId
  detectedAt : String
  encounter : String
  encounterSuccess : Option Bool
  dpsReportUrl : Option String
  donbotFightLogId : Option UInt64
  wingmanReportAvailable : Bool
  directoryAvailable : Bool
  reuploadAvailable : Bool
  rechatAvailable : Bool
  providers : Provider → ProviderCell

def providerStateText : ProviderState → String
  | .disabled => "Not selected"
  | .waiting => "Waiting"
  | .active => "Uploading"
  | .succeeded => "Succeeded"
  | .skipped => "Skipped"
  | .retryScheduled _ => "Retrying"
  | .failed => "Failed"
  | .cancelled => "Cancelled"

/-- A number with leading zeros. -/
def padded (width value : Nat) : String :=
  String.ofList (List.replicate (width - (toString value).length) '0') ++ toString value

/-- The month that a day of the year lies in, and the day in it, both from what is left. -/
def monthOf : List Nat → (month remaining : Nat) → Nat × Nat
  | [], month, remaining => (month, remaining)
  | length :: rest, month, remaining =>
    if remaining < length then (month, remaining) else monthOf rest (month + 1) (remaining - length)

/-- The Gregorian date of a day since the first of January of the year 1. -/
def dateOf (days : Nat) : Nat × Nat × Nat :=
  let remaining := days % 146_097
  let centuries := min (remaining / 36_524) 3
  let remaining := remaining - centuries * 36_524
  let groups := remaining / 1461
  let remaining := remaining % 1461
  let years := min (remaining / 365) 3
  let remaining := remaining - years * 365
  let year := 1 + days / 146_097 * 400 + centuries * 100 + groups * 4 + years
  let leap := year % 4 = 0 ∧ (year % 100 ≠ 0 ∨ year % 400 = 0)
  let (month, remaining) := monthOf
    [31, if leap then 29 else 28, 31, 30, 31, 30, 31, 31, 30, 31, 30, 31] 1 remaining
  (year, month, remaining + 1)

def formatUtcSeconds (seconds : Int) : String :=
  let days := seconds / 86_400 + 719_162
  if days < 0 ∨ 3_652_059 ≤ days then "Time unavailable"
  else
    let (year, month, day) := dateOf days.toNat
    let daySeconds := (seconds % 86_400).toNat
    padded 4 year ++ "-" ++ padded 2 month ++ "-" ++ padded 2 day ++ " " ++
      padded 2 (daySeconds / 3600) ++ ":" ++ padded 2 (daySeconds / 60 % 60) ++ ":" ++
      padded 2 (daySeconds % 60) ++ " UTC"

/-- The seconds since the epoch. Before it, a part of a second counts as one. -/
def formatDetectedAt (time : SystemTime) : String :=
  let before := (-time.nanos).toNat
  formatUtcSeconds (if 0 ≤ time.nanos then time.nanos / 1_000_000_000
    else -(before / 1_000_000_000 : Nat) - (if before % 1_000_000_000 ≠ 0 then 1 else 0))

/-- The health that is left, without the zeros at its end. -/
def healthText (health : UInt16) : String :=
  trimEnd '.' (trimEnd '0'
    (toString (health.toNat / 100) ++ "." ++ padded 2 (health.toNat % 100)))

def encounterText (record : UploadJobRecord) : String :=
  match record.dpsReportResult, record.encounterMetadata with
  | some report, metadata =>
    let name := report.encounterName ++
      if (utf8 report.mode).isEmpty then "" else " (" ++ report.mode ++ ")"
    if report.success then name
    else match (metadata.bind (·.remainingHealthBasisPoints)).filter (· ≤ 10_000) with
      | some health => name ++ " (" ++ healthText health ++ "% left)"
      | none => name
  | none, some metadata => "Encounter " ++ toString metadata.bossId
  | none, none => "Reading metadata"

/-- Whether the parent of a path has a name. -/
def insideDirectory (path : PathBuf) : Bool :=
  match path.components.getLast? with
  | some (.normal _) | some .curDir | some .parentDir => 2 ≤ path.components.length
  | _ => false

def buildRecentLogRow (job : UploadJobSnapshot) : RecentLogRow :=
  let record := job.record
  let dpsReportUrl := (reportUrl job .dpsReport).toOption
  { id := job.id
    detectedAt := formatDetectedAt record.detectedAt
    encounter := encounterText record
    encounterSuccess := record.dpsReportResult.map (·.success)
    rechatAvailable := dpsReportUrl.isSome && !(record.providers .twitch).state.isBusy
    dpsReportUrl
    donbotFightLogId :=
      (record.donbotUploadReceipt.bind (·.fightLogId)).filter validDonbotFightId
    wingmanReportAvailable := (reportUrl job .wingman).isOk
    directoryAvailable := insideDirectory record.file.canonicalPath
    reuploadAvailable := record.encounterMetadata.isSome &&
      uploads.all fun provider => !(record.providers provider).state.isBusy
    providers := fun provider =>
      let status := record.providers provider
      { state := status.state
        status := providerStateText status.state
        detail := status.detail
        retryAvailable := status.state = .failed && record.encounterMetadata.isSome } }

example : formatUtcSeconds 951_782_400 = "2000-02-29 00:00:00 UTC" := by decide

example : healthText 1250 = "12.5" := by decide

end MannyUploader.Ui
