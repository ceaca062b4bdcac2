import MannyUploader.Http.Multipart
import MannyUploader.Providers.TwitchClient

/-! The Wingman client: uploads with their tickets, the search for the link of a log, and
imports of reports. A loop that waits is unrolled a number of rounds. -/
namespace MannyUploader.Providers
open Domain Application Foundation

def wingmanUploadUrl : String := "https://evtc.bel.st/evtc"
def wingmanTicketUrl : String := "https://evtc.bel.st/status/"
def wingmanCheckUploadUrl : String :=
  "https://gw2wingman.nevermindcreations.de/checkUploadSuccessfulWithLog"
def wingmanLogUrl : String := "https://gw2wingman.nevermindcreations.de/log/"
def wingmanImportUrl : String :=
  "https://gw2wingman.nevermindcreations.de/api/importLogQueued?link="
def wingmanCheckImportUrl : String :=
  "https://gw2wingman.nevermindcreations.de/api/checkLogQueuedOrDB?link="
def maxWingmanResponseBytes : Nat := 64 * 1024

inductive WingmanDisposition
  | retry | failed | cancelled
deriving DecidableEq, Repr

inductive WingmanErrorCode
  | invalidConfiguration | invalidInput | fileUnavailable | multipartFailed | transport
  | httpStatus | invalidResponse | declined | ticketFailed | internal | cancelled
deriving DecidableEq, Repr

structure WingmanError where
  code : WingmanErrorCode
  disposition : WingmanDisposition
  retryAfter : Option Duration
  httpError : Option HttpErrorCode
  httpStatus : Option UInt16
deriving DecidableEq, Repr

namespace WingmanError

def failed (code : WingmanErrorCode) : WingmanError :=
  { code, disposition := .failed, retryAfter := none, httpError := none, httpStatus := none }

def cancelled : WingmanError := { failed .cancelled with disposition := .cancelled }

end WingmanError

structure WingmanSuccess where
  duplicate : Bool
  permalink : Option String
deriving DecidableEq, Repr

structure WingmanPollingOptions where
  ticketInterval : Duration
  checkInterval : Duration
  ticketTimeout : Duration
  checkTimeout : Duration
deriving DecidableEq, Repr

namespace WingmanResponse

structure Accepted where
  result : Bool
  ticket : Option UInt64

structure Ticket where
  state : String

structure Found where
  success : Bool
  /-- The `html` of the log, if there is a log. -/
  log : Option (Option String)

structure Queued where
  success : Int32

structure Checked where
  inQueue : Bool
  inDb : Bool
  targetUrl : String

/-- What `serde_json` reads from a text, before the bounds on its fields. -/
structure Readers where
  accepted : String → Option Accepted
  ticket : String → Option Ticket
  found : String → Option Found
  queued : String → Option Queued
  checked : String → Option Checked

def Ticket.bounds (ticket : Ticket) : Option Ticket := do
  let _ ← boundedText 32 ticket.state
  some ticket

def Found.bounds (found : Found) : Option Found := do
  let _ ← (found.log.bind id).mapM (boundedText 512)
  some found

def Checked.bounds (checked : Checked) : Option Checked := do
  let _ ← boundedText 2048 checked.targetUrl
  some checked

def decode (read : String → Option α) (bounds : α → Option β)
    (response : Application.HttpResponse) : Except WingmanError β :=
  match decodeJson read bounds response.body maxWingmanResponseBytes with
  | none => .error { WingmanError.failed .invalidResponse with
      httpStatus := some response.statusCode }
  | some value => .ok value

def isSlugByte (byte : UInt8) : Bool := isLetterOrDigit byte || byte == 45 || byte == 95

def safeSlug (value : List UInt8) : Bool :=
  !value.isEmpty && value.length ≤ 512 && value.all isSlugByte

end WingmanResponse

structure WingmanClient where
  uploadUrl : String
  polling : WingmanPollingOptions

namespace WingmanClient
open Client

/-- `WingmanClient::new`. -/
def standard : WingmanClient where
  uploadUrl := wingmanUploadUrl
  polling := {
    ticketInterval := Duration.fromSecs 3
    checkInterval := Duration.fromSecs 5
    ticketTimeout := Duration.fromSecs 1800
    checkTimeout := Duration.fromSecs 300 }

def withOptions (uploadUrl : String) (polling : WingmanPollingOptions) :
    Except WingmanError WingmanClient :=
  if (utf8 uploadUrl).length > 2048 || (utf8 uploadUrl).contains 64 ||
      !(validateHttpUrl uploadUrl .httpsOnly).isOk || polling.ticketInterval = 0 ||
      polling.checkInterval = 0 || polling.ticketInterval > Duration.fromSecs 1800 ||
      polling.checkInterval > Duration.fromSecs 300 ||
      polling.ticketTimeout > Duration.fromSecs 1800 ||
      polling.checkTimeout > Duration.fromSecs 300 then
    .error (.failed .invalidConfiguration)
  else .ok { uploadUrl, polling }

def requireSuccess (reply : Application.HttpResponse) : Except WingmanError Unit :=
  let status := reply.statusCode
  if 200 ≤ status ∧ status < 300 then .ok ()
  else
    let retry := status = 408 ∨ status = 429 ∨ (500 ≤ status ∧ status < 600)
    .error {
      code := .httpStatus
      disposition := if retry then .retry else .failed
      retryAfter :=
        if retry then some (Duration.fromSecs
          (if status = 429 then (Providers.retryAfter reply).getD 60 else 30))
        else none
      httpError := none
      httpStatus := some status }

def classifyTransport (code : HttpErrorCode) : WingmanError :=
  let retry := code = .timeout ∨ code = .nameResolutionFailed ∨ code = .connectionFailed ∨
    code = .tlsFailed ∨ code = .sendFailed ∨ code = .receiveFailed
  { code := .transport
    disposition := if code = .cancelled then .cancelled else if retry then .retry else .failed
    retryAfter := if retry then some (Duration.fromSecs 30) else none
    httpError := some code
    httpStatus := none }

def execute (request : HttpRequest) : Client WingmanError Application.HttpResponse :=
  Client.execute .cancelled classifyTransport request

def memory (text : List UInt8) : Except WingmanError HttpBodySource :=
  match memoryBody text with
  | none => .error (.failed .multipartFailed)
  | some source => .ok source

def jsonRequest (method : HttpMethod) (url : String) : HttpRequest :=
  { method, url
    headers := [.ofText "Accept" "application/json"]
    timeouts := {
      connect := Duration.fromSecs 10
      operation := Duration.fromSecs 60
      stalledTransfer := Duration.fromSecs 30 }
    responseLimits := {
      maxHeaderBytes := maxHttpResponseHeaderBytes, maxBodyBytes := maxWingmanResponseBytes } }

def validUpload (file : LogFileIdentity) (metadata : EncounterMetadata) : Bool :=
  file.size != 0 && metadata.bossId != 0 && metadata.bossId != wvwBossId &&
    !(utf8 metadata.povAccount).isEmpty && (utf8 metadata.povAccount).length ≤ 256 &&
    !(utf8 metadata.povAccount).any isAsciiControl

/-- `FileBodySource::new`. -/
def openBody (file : LogFileIdentity) : Client WingmanError Unit :=
  if maxHttpRequestBodyBytes < file.size.toNat then throw (.failed .fileUnavailable)
  else do
    let opened : Bool ← call (.openFile file)
    if opened then pure () else throw (.failed .fileUnavailable)

def textPart (name value : String) : Http.MultipartPart :=
  { name, filename := none, contentType := some "text/plain", body := .memory (utf8 value) }

def uploadParts (file : LogFileIdentity) (metadata : EncounterMetadata) :
    List Http.MultipartPart :=
  [textPart "account" metadata.povAccount, textPart "filesize" (toString file.size),
    textPart "triggerID" (toString metadata.bossId),
    { name := "file", filename := some "upload.zevtc"
      contentType := some "application/octet-stream", body := .file file }]

/-- `MultipartFormData::new`. -/
def multipart (parts : List Http.MultipartPart) : Client WingmanError Http.MultipartFormData :=
  match Http.validateCount parts.length with
  | .error _ => throw (.failed .multipartFailed)
  | .ok () => .ask .fillRandom fun
    | none => throw (.failed .multipartFailed)
    | some bytes =>
      match Http.withBoundary parts (Http.randomBoundary bytes.1) with
      | .error _ => throw (.failed .multipartFailed)
      | .ok form => pure form

def uploadRequest (uploadUrl : String) (form : Http.MultipartFormData) : HttpRequest :=
  let request := jsonRequest .post uploadUrl
  { request with
    headers := request.headers ++ [.ofText "Content-Type" form.contentType]
    body := some form.body
    timeouts := { request.timeouts with
      operation := Duration.fromSecs 900
      stalledTransfer := Duration.fromSecs 900 } }

def deadline (duration : Duration) : Client WingmanError Instant := do
  let now : Instant ← call .now
  match now.checkedAdd duration with
  | none => throw (.failed .internal)
  | some deadline => pure deadline

/-- Whether there is time left after the wait. -/
def wait (deadline : Instant) (interval : Duration) : Client WingmanError Bool := do
  refuseStop .cancelled
  let now : Instant ← call .now
  let remaining := deadline.nanos - now.nanos
  if remaining = 0 then pure false
  else do
    let interrupted : Bool ← call (.wait (min interval remaining))
    if interrupted then throw .cancelled
    else do
      refuseStop .cancelled
      let now : Instant ← call .now
      pure (now.nanos < deadline.nanos)

/-- The request keeps to what is left of the time, if that is a millisecond. -/
def pollRequest (method : HttpMethod) (url : String) (deadline : Instant) :
    Client WingmanError (Option HttpRequest) := do
  let now : Instant ← call .now
  let remaining := deadline.nanos - now.nanos
  if remaining < 1_000_000 then pure none
  else
    let request := jsonRequest method url
    pure (some { request with
      timeouts := { request.timeouts with
        operation := min request.timeouts.operation remaining } })

/-- What the state of a ticket means: the upload is through, or still waited for. -/
def ticketDone (state : String) : Except WingmanError Bool :=
  if state = "uploaded" ∨ state = "skipped" then .ok true
  else if state = "queued" ∨ state = "processing" ∨ state = "deferred" then .ok false
  else if state = "failed" then .error (.failed .ticketFailed)
  else .error (.failed .invalidResponse)

def readTicket (readers : WingmanResponse.Readers) (reply : Application.HttpResponse) :
    Except WingmanError Bool :=
  if reply.statusCode = 404 then .ok true
  else do
    requireSuccess reply
    let ticket ← WingmanResponse.decode readers.ticket WingmanResponse.Ticket.bounds reply
    ticketDone ticket.state

/-- The loop of `poll_ticket`. -/
def pollRounds (client : WingmanClient) (readers : WingmanResponse.Readers) (ticket : UInt64)
    (deadline : Instant) : Nat → Client WingmanError Unit
  | 0 => .pending
  | rounds + 1 => do
    let more ← wait deadline client.polling.ticketInterval
    if !more then pure ()
    else do
      match ← pollRequest .get (wingmanTicketUrl ++ toString ticket) deadline with
      | none => pure ()
      | some request => do
        let reply ← execute request
        let through ← ofExcept (readTicket readers reply)
        if through then pure () else pollRounds client readers ticket deadline rounds

def pollTicket (client : WingmanClient) (readers : WingmanResponse.Readers) (rounds : Nat)
    (ticket : UInt64) : Client WingmanError Unit := do
  let deadline ← deadline client.polling.ticketTimeout
  pollRounds client readers ticket deadline rounds

def remoteName (metadata : EncounterMetadata) : List UInt8 :=
  (utf8 metadata.povAccount).filter (· != 46) ++ utf8 "_upload.zevtc"

/-- The text that asks for a log. -/
def checkText (file : LogFileIdentity) (metadata : EncounterMetadata) : List UInt8 :=
  utf8 "file=" ++ (remoteName metadata).flatMap TwitchClient.formByte ++
    utf8 "&filesize=" ++ utf8 (toString file.size) ++
    utf8 "&bossID=" ++ utf8 (toString metadata.bossId) ++
    utf8 "&account=" ++ (utf8 metadata.povAccount).flatMap TwitchClient.formByte

/-- The link of a log that is there. -/
def readFound (readers : WingmanResponse.Readers) (reply : Application.HttpResponse) :
    Except WingmanError (Option String) := do
  requireSuccess reply
  let found ← WingmanResponse.decode readers.found WingmanResponse.Found.bounds reply
  if !found.success then .ok none
  else match found.log.bind id with
    | none => .error (.failed .invalidResponse)
    | some slug =>
      if WingmanResponse.safeSlug (utf8 slug) then .ok (some (wingmanLogUrl ++ slug))
      else .error (.failed .invalidResponse)

/-- The loop of `find_permalink`. It ends without a link. -/
def findRounds (client : WingmanClient) (readers : WingmanResponse.Readers)
    (file : LogFileIdentity) (metadata : EncounterMetadata) (deadline : Instant) :
    Nat → Client WingmanError (Option String)
  | 0 => .pending
  | rounds + 1 => do
    let now : Instant ← call .now
    if deadline.nanos ≤ now.nanos then pure none
    else do
      match ← pollRequest .post wingmanCheckUploadUrl deadline with
      | none => pure none
      | some request => do
        let source ← ofExcept (memory (checkText file metadata))
        let reply ← execute { request with
          headers := request.headers ++
            [.ofText "Content-Type" "application/x-www-form-urlencoded"]
          body := some source }
        let found ← ofExcept (readFound readers reply)
        match found with
        | some permalink => pure (some permalink)
        | none => do
          let more ← wait deadline client.polling.checkInterval
          if more then findRounds client readers file metadata deadline rounds else pure none

def findPermalink (client : WingmanClient) (readers : WingmanResponse.Readers) (rounds : Nat)
    (file : LogFileIdentity) (metadata : EncounterMetadata) :
    Client WingmanError (Option String) := do
  let deadline ← deadline client.polling.checkTimeout
  let found ← findRounds client readers file metadata deadline rounds
  match found with
  | some permalink => pure (some permalink)
  | none => do
    refuseStop .cancelled
    pure none

/-- What becomes of the answer to an upload. -/
inductive Uploaded
  | duplicate
  | done
  | ticket (ticket : UInt64)

def readUploaded (readers : WingmanResponse.Readers) (reply : Application.HttpResponse) :
    Except WingmanError Uploaded :=
  if reply.statusCode = 409 then .ok .duplicate
  else do
    requireSuccess reply
    let accepted ← WingmanResponse.decode readers.accepted some reply
    if !accepted.result then .error (.failed .declined)
    else match accepted.ticket with
      | none => .ok .done
      | some ticket => if ticket = 0 then .error (.failed .invalidResponse) else .ok (.ticket ticket)

def uploadInner (client : WingmanClient) (readers : WingmanResponse.Readers) (rounds : Nat)
    (file : LogFileIdentity) (metadata : EncounterMetadata) :
    Client WingmanError WingmanSuccess := do
  refuseStop .cancelled
  if !validUpload file metadata then throw (.failed .invalidInput)
  else do
    openBody file
    let form ← multipart (uploadParts file metadata)
    let reply ← execute (uploadRequest client.uploadUrl form)
    let uploaded ← ofExcept (readUploaded readers reply)
    match uploaded with
    | .done => pure { duplicate := false, permalink := none }
    | .duplicate => do
      let permalink ← findPermalink client readers rounds file metadata
      pure { duplicate := true, permalink }
    | .ticket ticket => do
      pollTicket client readers rounds ticket
      let permalink ← findPermalink client readers rounds file metadata
      pure { duplicate := false, permalink }

def percentEncode (value : String) : String :=
  String.ofList (((utf8 value).flatMap TwitchClient.formByte).map fun byte =>
    Char.ofNat byte.toNat)

def readQueued (readers : WingmanResponse.Readers) (reply : Application.HttpResponse) :
    Except WingmanError WingmanResponse.Queued := do
  requireSuccess reply
  let queued ← WingmanResponse.decode readers.queued some reply
  if queued.success = 0 ∨ queued.success = 1 then .ok queued
  else .error (.failed .invalidResponse)

def readChecked (readers : WingmanResponse.Readers) (queued : WingmanResponse.Queued)
    (reply : Application.HttpResponse) : Except WingmanError WingmanSuccess := do
  requireSuccess reply
  let checked ← WingmanResponse.decode readers.checked WingmanResponse.Checked.bounds reply
  if !(queued.success == 1 || checked.inQueue || checked.inDb) ||
      !(stripPrefix (utf8 wingmanLogUrl) (utf8 checked.targetUrl)).any WingmanResponse.safeSlug then
    .error (.failed .invalidResponse)
  else .ok { duplicate := checked.inDb, permalink := some checked.targetUrl }

def importInner (readers : WingmanResponse.Readers) (permalink : String) :
    Client WingmanError WingmanSuccess := do
  refuseStop .cancelled
  if !trustedReportPermalink permalink then throw (.failed .invalidInput)
  else
    let encoded := percentEncode permalink
    if (utf8 encoded).length +
        max (utf8 wingmanImportUrl).length (utf8 wingmanCheckImportUrl).length > maxHttpUrlBytes then
      throw (.failed .invalidInput)
    else do
      let reply ← execute (jsonRequest .post (wingmanImportUrl ++ encoded))
      let queued ← ofExcept (readQueued readers reply)
      let reply ← execute (jsonRequest .get (wingmanCheckImportUrl ++ encoded))
      ofExcept (readChecked readers queued reply)

def upload (client : WingmanClient) (readers : WingmanResponse.Readers) (rounds : Nat)
    (file : LogFileIdentity) (metadata : EncounterMetadata) : Client WingmanError WingmanSuccess :=
  catchUnwind (.failed .internal) (uploadInner client readers rounds file metadata)

def importPermalink (readers : WingmanResponse.Readers) (permalink : String) :
    Client WingmanError WingmanSuccess :=
  catchUnwind (.failed .internal) (importInner readers permalink)

end WingmanClient
end MannyUploader.Providers
