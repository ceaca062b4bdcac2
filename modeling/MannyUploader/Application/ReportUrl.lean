import MannyUploader.Application.Entry
import MannyUploader.Providers.Wire

/-! The links that a recent log offers to open. -/
namespace MannyUploader.Application
open Domain Providers

inductive ExternalActionError
  | invalidTarget | launchFailed
deriving DecidableEq, Repr

inductive ReportTarget
  | dpsReport | wingman | donBot
deriving DecidableEq, Repr

inductive RecentLogActionError
  | invalidConfiguration | allocationFailed | queueFull | unknownJob | reportUnavailable
  | unsafeReportUrl | invalidDirectory
  | launchFailed (error : ExternalActionError)
  | retryFailed (error : CoordinatorError)
  | busy | shuttingDown | revisionExhausted | internal
deriving DecidableEq, Repr

structure UploadJobSnapshot where
  id : UploadJobId
  record : UploadJobRecord

/-- At most `i64::MAX`. -/
def validDonbotFightId (id : UInt64) : Bool := 0 < id && id.toNat ≤ i64Max

def validExternalUrl (url : String) : Bool :=
  (utf8 url).length ≤ 2048 && extendsOrigin url "https://" &&
    (utf8 url).all fun byte => 0x21 ≤ byte && byte ≤ 0x7e && !([92, 34] : List UInt8).contains byte

/-- The end of `report_url`. -/
def checkedUrl (url : String) (origins : List String) : Except RecentLogActionError String :=
  if !validExternalUrl url || !origins.any (extendsOrigin url) then .error .unsafeReportUrl
  else .ok url

/-- Shared target resolution for actions and immutable presentation. -/
def reportUrl (job : UploadJobSnapshot) : ReportTarget → Except RecentLogActionError String
  | .dpsReport =>
    match job.record.dpsReportResult with
    | none => .error .reportUnavailable
    | some report => checkedUrl report.permalink
        (if report.bossId = wvwBossId then
          ["https://dps.report/", "https://b.dps.report/", "https://wvw.report/"]
        else ["https://dps.report/", "https://b.dps.report/"])
  | .wingman =>
    match job.record.wingmanUploadReceipt with
    | none => .error .reportUnavailable
    | some receipt => checkedUrl receipt.permalink ["https://gw2wingman.nevermindcreations.de/log/"]
  | .donBot =>
    match (job.record.donbotUploadReceipt.bind (·.fightLogId)).filter validDonbotFightId with
    | none => .error .reportUnavailable
    | some id => .ok ("https://donbot.walmslo.com/logs/" ++ toString id.toNat)

end MannyUploader.Application
