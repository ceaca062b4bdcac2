import MannyUploader.Domain.UploadJob
import MannyUploader.Providers.Wire

/-! The answer of dps.report to an upload: what of it becomes a report. -/
namespace MannyUploader.Providers
open Domain

def maxDpsReportTokenBytes : Nat := 256
def maxDpsReportResponseBytes : Nat := 1024 * 1024

structure HttpResponse where
  statusCode : UInt16
  body : List UInt8

inductive DpsReportDisposition
  | retry | failed | cancelled
deriving DecidableEq, Repr

inductive DpsReportErrorCode
  | invalidToken | fileUnavailable | multipartFailed | transport | httpStatus | invalidResponse
  | internal | cancelled
deriving DecidableEq, Repr

/-- An invalid response carries neither a delay nor a transport error. -/
structure DpsReportError where
  code : DpsReportErrorCode
  disposition : DpsReportDisposition
  httpStatus : Option UInt16
deriving DecidableEq, Repr

inductive DpsReportWarning
  | generatedWithWarning | invalidReturnedToken
deriving DecidableEq, Repr

structure DpsReportSuccess where
  report : DpsReportResult
  replacementUserToken : Option (List UInt8)
  warning : Option DpsReportWarning
deriving DecidableEq

namespace DpsReport

/-- The `encounter` of a response, as it is read. -/
structure Encounter where
  success : Bool
  bossId : UInt16
  boss : String
  isCm : Option Bool
  isLegendaryCm : Option Bool
  emboldened : Option Int32

/-- A response, as it is read. -/
structure Response where
  permalink : String
  encounter : Encounter
  userToken : Option String
  error : Option String

def validToken (bytes : List UInt8) : Bool :=
  bytes.length ≤ maxDpsReportTokenBytes && bytes.all fun byte => 0x21 ≤ byte && byte ≤ 0x7e

/-- The two bounded texts of a response. -/
def Response.bounds (response : Response) : Option Response := do
  let _ ← boundedText 2048 response.permalink
  let _ ← boundedText 256 response.encounter.boss
  some response

def mode (encounter : Encounter) : String :=
  if encounter.isLegendaryCm.getD false then "LCM"
  else if encounter.isCm.getD false then "CM"
  else if encounter.emboldened.getD 0 > 0 then
    "Emboldened " ++ toString (encounter.emboldened.getD 0).toInt
  else ""

def validPermalink (value : String) (boss : UInt16) : Bool :=
  trustedReportPermalink value &&
    (!(utf8 "https://wvw.report/").isPrefixOf (utf8 value) || boss == wvwBossId)

/-- An empty error is no warning. An invalid token is one, whatever the error says. -/
def warning (response : Response) : Option DpsReportWarning :=
  if response.userToken.any fun token => !validToken (utf8 token) then some .invalidReturnedToken
  else if response.error.any fun error => error ≠ "" then some .generatedWithWarning
  else none

def replacementUserToken (response : Response) (current : Option (List UInt8)) :
    Option (List UInt8) := do
  let token ← response.userToken
  if validToken (utf8 token) && !(utf8 token).isEmpty && current.all (· ≠ utf8 token) then
    some (utf8 token)
  else none

/-- `decode`. `read` is `serde_json`. -/
def decode (read : String → Option Response) (response : HttpResponse)
    (current : Option (List UInt8)) : Except DpsReportError DpsReportSuccess :=
  let invalid : DpsReportError := {
    code := .invalidResponse, disposition := .failed, httpStatus := some response.statusCode }
  match decodeJson read Response.bounds response.body maxDpsReportResponseBytes with
  | none => .error invalid
  | some parsed =>
    let report : DpsReportResult := {
      permalink := parsed.permalink
      encounterName := parsed.encounter.boss
      bossId := parsed.encounter.bossId
      success := parsed.encounter.success
      mode := mode parsed.encounter }
    if (utf8 report.encounterName).isEmpty ||
        (utf8 report.encounterName).any (fun byte => byte < 0x20 || byte == 0x7f) ||
        !validPermalink report.permalink report.bossId then
      .error invalid
    else .ok {
      report
      replacementUserToken := replacementUserToken parsed current
      warning := warning parsed }

end DpsReport
end MannyUploader.Providers
