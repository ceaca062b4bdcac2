import MannyUploader.Foundation.Json
import MannyUploader.Providers.DonBotResponse
import MannyUploader.Providers.DonBotWorker

/-! The DonBot client: uploads in two steps, imports of reports, deliveries of several fights,
and the verification of a key. -/
namespace MannyUploader.Providers
open Domain Application Foundation

structure DonBotUploadSuccess where
  uploadId : Option UInt64
  fightLogId : Option UInt64
  discordDelivery : DonBotDiscordDeliveryReceipt
deriving DecidableEq, Repr

structure DonBotAggregateSuccess where
  fightLogCount : Nat
  discordDelivery : DonBotDiscordDeliveryReceipt
deriving DecidableEq, Repr

namespace DonBotClient
open Client

def classifyStatus (response : Application.HttpResponse) : DonBotError :=
  let status := response.statusCode
  let retry := status = 408 ∨ status = 429 ∨ (500 ≤ status ∧ status < 600)
  { code := .httpStatus
    disposition := if retry then .retry else .failed
    retryAfter :=
      if retry then some (Duration.fromSecs
        (if status = 429 then (Providers.retryAfter response).getD 60 else 30))
      else none
    httpStatus := some status
    httpError := none }

def classifyTransport (code : HttpErrorCode) : DonBotError :=
  let retry := code = .timeout ∨ code = .nameResolutionFailed ∨ code = .connectionFailed ∨
    code = .tlsFailed ∨ code = .sendFailed ∨ code = .receiveFailed
  { code := .transport
    disposition := if code = .cancelled then .cancelled else if retry then .retry else .failed
    retryAfter := if retry then some (Duration.fromSecs 30) else none
    httpStatus := none
    httpError := some code }

def executeUpload (request : HttpRequest) : Client DonBotError Application.HttpResponse :=
  execute .cancelled classifyTransport request

def requestTimeouts (connect operation : Nat) : HttpTimeouts :=
  { connect := Duration.fromSecs connect
    operation := Duration.fromSecs operation
    stalledTransfer := Duration.fromSecs operation }

def responseLimits (maxBodyBytes : Nat) : HttpResponseLimits :=
  { maxHeaderBytes := maxHttpResponseHeaderBytes, maxBodyBytes }

def validate (options : DonBotOptions) (key : SecretValue) : Client DonBotError String := do
  refuseStop .cancelled
  match normalizeDonbotApiBase options.apiBaseUrl with
  | none => throw (.failed .invalidBase)
  | some base =>
    if !canonicalDiscordId options.guildId || !options.delivery.isValid then
      throw (.failed .invalidInput)
    else if !validDonbotApiKey key then throw (.failed .invalidKey)
    else pure base

def keyHeader (key : SecretValue) : HttpHeader := .sensitive "X-GW2-API-Key" key

def uploadRequest (method : HttpMethod) (url : String) (key : SecretValue)
    (headers : List HttpHeader := []) (body : Option HttpBodySource := none) : HttpRequest :=
  { method, url, body
    headers := [.ofText "Accept" "application/json", keyHeader key] ++ headers
    timeouts := requestTimeouts 10 900
    responseLimits := responseLimits maxDonbotResponseBytes }

def body (bytes : SecretValue) : Except DonBotError HttpBodySource :=
  match memoryBody bytes with
  | none => .error (.failed .bodyFailed)
  | some source => .ok source

def jsonRequest (printer : Json.Printer) (url : String) (key : SecretValue) (value : Json) :
    Except DonBotError HttpRequest := do
  let source ← body (printer.print value)
  .ok (uploadRequest .post url key [.ofText "Content-Type" "application/json"] (some source))

def unconfirmed (error : DonBotError) : DonBotError :=
  if error.disposition ≠ .cancelled then
    { error with disposition := .failed, retryAfter := none, code := .unconfirmedUpload }
  else error

/-- A header stands there once or not at all. -/
def header (response : Application.HttpResponse) (name : String) :
    Except DonBotError (Option SecretValue) :=
  match response.headers.filter fun header => equalsIgnoringCase (utf8 header.name) name with
  | [] => .ok none
  | [header] => .ok (some header.value)
  | _ => .error (DonBotResponse.invalid response.statusCode)

def decimalId (bytes : SecretValue) : Option UInt64 := do
  let text ← String.fromUTF8? ⟨bytes.toArray⟩
  if canonicalDiscordId text then some (UInt64.ofNat (decimalValue bytes)) else none

def stripText (pattern : String) (text : List Char) : Option (List Char) :=
  if pattern.toList.isPrefixOf text then some (text.drop pattern.toList.length) else none

def isSegmentByte (byte : UInt8) : Bool := isLetterOrDigit byte || byte == 45 || byte == 95

/-- The last segment of a location that lies right below the URL of the creation. -/
def locatedId (createUrl location : String) : Option String := do
  let create := createUrl.toList.drop 8
  if !create.contains '/' then none
  else do
    let origin := String.ofList (createUrl.toList.take 8 ++ create.takeWhile (· != '/'))
    let path := String.ofList (create.dropWhile (· != '/')) ++ "/"
    let id ←
      match stripText "https://" location.toList with
      | some rest =>
        let named := String.ofList ("https://".toList ++ rest.takeWhile (· != '/'))
        if !rest.contains '/' || !equalsIgnoringCase (utf8 named) origin then none
        else stripText path (rest.dropWhile (· != '/'))
      | none =>
        if location.toList.head? = some '/' then stripText path location.toList
        else some location.toList
    some (String.ofList id)

def resolveLocation (createUrl location : String) : Option String := do
  let id ← locatedId createUrl location
  if (utf8 id).isEmpty || (utf8 id).length > 256 || !(utf8 id).all isSegmentByte then none
  else some (createUrl ++ "/" ++ id)

/-- The members of a `DeliveryWire`: its mode and its channel. -/
def deliveryWire : DonBotDeliveryRoute → Option (String × Option String)
  | .none => none
  | .guildDefaults => some ("guild_defaults", none)
  | .channelOverride channelId => some ("channel_override", some channelId)

def deliveryJson (wire : String × Option String) : Json :=
  .object (("mode", .string wire.1) ::
    (wire.2.map fun channel => ("channelId", Json.string channel)).toList)

def importBody (permalink : String) (options : DonBotOptions) : Json :=
  .object ([("url", .string permalink), ("guildId", .string options.guildId)] ++
    ((deliveryWire options.delivery).map fun wire => ("discordDelivery", deliveryJson wire)).toList)

def aggregateBody (ids : List UInt64) (options : DonBotOptions) : Json :=
  .object [("guildId", .string options.guildId),
    ("fightLogIds", .array (ids.map fun id => .string (toString id))),
    ("discordDelivery", ((deliveryWire options.delivery).map deliveryJson).getD .null)]

def base64Table : List UInt8 :=
  utf8 "ABCDEFGHIJKLMNOPQRSTUVWXYZabcdefghijklmnopqrstuvwxyz0123456789+/"

def base64Digit (value : UInt8) : UInt8 := base64Table.getD value.toNat 0

/-- Three bytes give four digits. The last one or two are filled up. -/
def base64Bytes : List UInt8 → List UInt8
  | [] => []
  | [a] => [base64Digit (a >>> 2), base64Digit ((a &&& 3) <<< 4), 61, 61]
  | [a, b] => [base64Digit (a >>> 2), base64Digit (((a &&& 3) <<< 4) ||| (b >>> 4)),
      base64Digit ((b &&& 15) <<< 2), 61]
  | a :: b :: c :: rest =>
    [base64Digit (a >>> 2), base64Digit (((a &&& 3) <<< 4) ||| (b >>> 4)),
      base64Digit (((b &&& 15) <<< 2) ||| (c >>> 6)), base64Digit (c &&& 63)] ++ base64Bytes rest

def base64 (value : String) : List UInt8 := base64Bytes (utf8 value)

def uploadMetadata (options : DonBotOptions) : List UInt8 :=
  utf8 "filename dXBsb2FkLnpldnRj,guildid " ++ base64 options.guildId ++
    utf8 ",wingman ZmFsc2U=" ++
    match deliveryWire options.delivery with
    | none => []
    | some (mode, channel) => utf8 ",discorddelivery " ++ base64 mode ++
      match channel with
      | none => []
      | some channel => utf8 ",discordchannelid " ++ base64 channel

def createUrl (base : String) : String := base ++ "/api/upload/tus"

def tusVersion : HttpHeader := .ofText "Tus-Resumable" "1.0.0"

def createRequest (base : String) (file : LogFileIdentity) (options : DonBotOptions)
    (key : SecretValue) : HttpRequest :=
  uploadRequest .post (createUrl base) key [
    tusVersion,
    .ofText "Upload-Length" (toString file.size),
    { name := "Upload-Metadata", value := uploadMetadata options, sensitivity := .isPublic }]

def patchRequest (url : String) (file : LogFileIdentity) (key : SecretValue) : HttpRequest :=
  uploadRequest .patch url key [
    tusVersion,
    .ofText "Upload-Offset" "0",
    .ofText "Content-Type" "application/offset+octet-stream"] (some [.file file])

def streamRequest (base : String) (id : UInt64) (key : SecretValue) : HttpRequest :=
  { uploadRequest .get (base ++ "/api/upload/stream/" ++ toString id) key with
    headers := [keyHeader key, .ofText "Accept" "text/event-stream"]
    responseLimits := responseLimits maxDonbotProgressBytes }

/-- Without a result the delivery is in doubt, if one was requested. -/
def unsureOfStream (requested : Bool) (status : Option UInt16) (httpError : Option HttpErrorCode) :
    Client DonBotError DonBotResponse.Completed :=
  if requested then throw {
    code := .unconfirmedDelivery, disposition := .failed, retryAfter := none
    httpStatus := status, httpError }
  else pure {}

def waitForProcessing (readers : DonBotResponse.Readers) (base : String) (id : UInt64)
    (key : SecretValue) (requested : Bool) : Client DonBotError DonBotResponse.Completed :=
  (executeUpload (streamRequest base id key)).settle
    fun (result : Except (Fault DonBotError) Application.HttpResponse) => match result with
      | .error .panicked => .fail .panicked
      | .error (.error error) =>
        if error.disposition = .cancelled then throw error
        else unsureOfStream requested none error.httpError
      | .ok reply =>
        if reply.statusCode = 200 then
          ofExcept (DonBotResponse.progress readers reply requested)
        else unsureOfStream requested (some reply.statusCode) none

/-- Without an identifier there is nothing to wait for. -/
def processing (readers : DonBotResponse.Readers) (base : String) (uploadId : Option UInt64)
    (key : SecretValue) (requested : Bool) : Client DonBotError DonBotResponse.Completed :=
  match uploadId with
  | some id => waitForProcessing readers base id key requested
  | none => pure {}

/-- Where the data of a created upload goes. -/
def createdUrl (base : String) (created : Application.HttpResponse) :
    Except DonBotError String := do
  let tus ← header created "Tus-Resumable"
  if tus ≠ some (utf8 "1.0.0") then .error (DonBotResponse.invalid 201)
  else do
    let location ← header created "Location"
    match location.bind fun bytes => String.fromUTF8? ⟨bytes.toArray⟩ with
    | none => .error (DonBotResponse.invalid 201)
    | some location =>
      match resolveLocation (createUrl base) location with
      | none => .error (.failed .invalidLocation)
      | some url => .ok url

def createdId (created : Application.HttpResponse) : Except DonBotError (Option UInt64) := do
  let named ← header created "X-Log-Upload-Id"
  match named with
  | none => .ok none
  | some bytes =>
    match decimalId bytes with
    | none => .error (DonBotResponse.invalid 201)
    | some id => .ok (some id)

/-- A requested delivery has to be accepted, and the upload named. -/
def acknowledged (requested : Bool) (created : Application.HttpResponse)
    (uploadId : Option UInt64) : Except DonBotError Unit :=
  if !requested then .ok ()
  else if uploadId.isNone then .error (.failed .unconfirmedDelivery)
  else do
    let answer ← header created "X-DonBot-Discord-Delivery"
    if answer = some (utf8 "accepted") then .ok () else .error (.failed .unconfirmedDelivery)

/-- What the answer to a creation has to be: the URL of the upload, and its identifier. -/
def readCreated (base : String) (options : DonBotOptions) (created : Application.HttpResponse) :
    Except DonBotError (String × Option UInt64) :=
  if created.statusCode ≠ 201 then .error (classifyStatus created)
  else do
    let url ← createdUrl base created
    let uploadId ← createdId created
    acknowledged options.delivery.requested created uploadId
    .ok (url, uploadId)

/-- The answer to the data has to acknowledge all of it. -/
def readPatched (file : LogFileIdentity) (patched : Application.HttpResponse) :
    Except DonBotError Unit := do
  if patched.statusCode ≠ 204 then .error (unconfirmed (classifyStatus patched))
  else do
    let tus ← (header patched "Tus-Resumable").mapError unconfirmed
    let offset ← (header patched "Upload-Offset").mapError unconfirmed
    if tus ≠ some (utf8 "1.0.0") ∨ offset.bind decimalId ≠ some file.size then
      .error (unconfirmed (DonBotResponse.invalid 204))
    else .ok ()

/-- `FileBodySource::new`. -/
def openBody (file : LogFileIdentity) : Client DonBotError Unit :=
  if maxHttpRequestBodyBytes < file.size.toNat then throw (.failed .fileUnavailable)
  else do
    let opened : Bool ← call (.openFile file)
    if opened then pure () else throw (.failed .fileUnavailable)

def patch (url : String) (file : LogFileIdentity) (key : SecretValue) :
    Client DonBotError Unit := do
  refuseStop .cancelled
  openBody file
  let patched ← (executeUpload (patchRequest url file key)).mapError fun fault => match fault with
    | .panicked => .panicked
    | .error error => .error (unconfirmed error)
  ofExcept (readPatched file patched)

def uploadInner (readers : DonBotResponse.Readers) (file : LogFileIdentity)
    (options : DonBotOptions) (key : SecretValue) : Client DonBotError DonBotUploadSuccess := do
  let base ← validate options key
  if file.size = 0 ∨ maxHttpRequestBodyBytes < file.size.toNat then throw (.failed .invalidInput)
  else do
    let created ← executeUpload (createRequest base file options key)
    let (url, uploadId) ← ofExcept (readCreated base options created)
    patch url file key
    let completed ← processing readers base uploadId key options.delivery.requested
    pure {
      uploadId
      fightLogId := completed.fightLogId
      discordDelivery := completed.delivery }

/-- What the answer to an import has to be. -/
def readImported (readers : DonBotResponse.Readers) (requested : Bool)
    (reply : Application.HttpResponse) : Except DonBotError DonBotResponse.Import := do
  if reply.statusCode ≠ 200 ∧ reply.statusCode ≠ 202 then .error (classifyStatus reply)
  else do
    let parsed ← DonBotResponse.decode readers.imported DonBotResponse.Import.bounds reply
    if !DonBotResponse.positiveId parsed.uploadId ||
        parsed.fightLogId.any (!DonBotResponse.positiveId ·) ||
        !(parsed.status == "pending" || parsed.status == "complete") ||
        (parsed.status == "complete") != parsed.fightLogId.isSome then
      .error (DonBotResponse.invalid reply.statusCode)
    else if requested ∧ parsed.discordDeliveryAccepted ≠ some true then
      .error (.failed .unconfirmedDelivery)
    else .ok parsed

def importInner (readers : DonBotResponse.Readers) (permalink : String) (options : DonBotOptions)
    (key : SecretValue) : Client DonBotError DonBotUploadSuccess := do
  let base ← validate options key
  if !trustedReportPermalink permalink then throw (.failed .invalidInput)
  else do
    let request ← ofExcept (jsonRequest readers.printer (base ++ "/api/upload/gw2/url") key
      (importBody permalink options))
    let reply ← executeUpload request
    let requested := options.delivery.requested
    let parsed ← ofExcept (readImported readers requested reply)
    let completed ←
      (if parsed.status = "complete" then do
        let delivery ← ofExcept
          (DonBotResponse.delivery parsed.discordDelivery requested reply.statusCode)
        pure { fightLogId := parsed.fightLogId, delivery }
      else do
        let _ ← ofExcept (parsed.discordDelivery.mapM fun delivery =>
          DonBotResponse.delivery (some delivery) requested reply.statusCode)
        waitForProcessing readers base parsed.uploadId key requested)
    pure {
      uploadId := some parsed.uploadId
      fightLogId := completed.fightLogId
      discordDelivery := completed.delivery }

/-- What the answer to an aggregate has to be. -/
def readAggregate (readers : DonBotResponse.Readers) (count : Nat)
    (reply : Application.HttpResponse) : Except DonBotError DonBotAggregateSuccess := do
  if reply.statusCode ≠ 200 then .error (classifyStatus reply)
  else do
    let parsed ← DonBotResponse.decode readers.aggregate DonBotResponse.Aggregate.bounds reply
    if parsed.fightLogCount ≠ count then .error (DonBotResponse.invalid reply.statusCode)
    else match parsed.discordDelivery.receipt true maxDonbotAggregateFights with
      | none => .error (DonBotResponse.invalid reply.statusCode)
      | some receipt => .ok { fightLogCount := count, discordDelivery := receipt }

def validIds (ids : List UInt64) : Bool :=
  2 ≤ ids.length && ids.length ≤ maxDonbotAggregateFights.toNat &&
    ids.all DonBotResponse.positiveId && decide ids.Nodup

def aggregateInner (readers : DonBotResponse.Readers) (ids : List UInt64)
    (options : DonBotOptions) (key : SecretValue) :
    Client DonBotError DonBotAggregateSuccess := do
  let base ← validate options key
  if !options.delivery.requested || !validIds ids then throw (.failed .invalidInput)
  else do
    let request ← ofExcept (jsonRequest readers.printer (base ++ "/api/upload/gw2/aggregate") key
      (aggregateBody ids options))
    let reply ← executeUpload request
    ofExcept (readAggregate readers ids.length reply)

def verifyRequest (base : String) (source : HttpBodySource) : HttpRequest :=
  { method := .post
    url := base ++ "/api/upload/gw2/guilds"
    headers := [
      .ofText "Accept" "application/json", .ofText "Content-Type" "application/json"]
    body := some source
    timeouts := requestTimeouts 5 30
    responseLimits := responseLimits maxDonbotVerificationBytes }

def verifyInner (readers : DonBotResponse.Readers) (apiBase : String) (key : SecretValue) :
    Client DonBotError DonBotVerification := do
  refuseStop .cancelled
  match normalizeDonbotApiBase apiBase with
  | none => throw (.failed .invalidBase)
  | some base =>
    if !validDonbotApiKey key then throw (.failed .invalidKey)
    else do
      let source ← ofExcept (body (utf8 "\x7b\"apiKey\":\"" ++ key ++ utf8 "\"\x7d"))
      let response ← send .cancelled classifyTransport (verifyRequest base source)
      if response.statusCode ≠ 200 then throw (classifyStatus response)
      else ofExcept (DonBotResponse.verification readers response)

def upload (readers : DonBotResponse.Readers) (file : LogFileIdentity) (options : DonBotOptions)
    (key : SecretValue) : Client DonBotError DonBotUploadSuccess :=
  catchUnwind (.failed .internal) (uploadInner readers file options key)

def importPermalink (readers : DonBotResponse.Readers) (permalink : String)
    (options : DonBotOptions) (key : SecretValue) : Client DonBotError DonBotUploadSuccess :=
  catchUnwind (.failed .internal) (importInner readers permalink options key)

def deliverAggregate (readers : DonBotResponse.Readers) (ids : List UInt64)
    (options : DonBotOptions) (key : SecretValue) : Client DonBotError DonBotAggregateSuccess :=
  catchUnwind (.failed .internal) (aggregateInner readers ids options key)

def verify (readers : DonBotResponse.Readers) (apiBase : String) (key : SecretValue) :
    Client DonBotError DonBotVerification :=
  catchUnwind (.failed .internal) (verifyInner readers apiBase key)

end DonBotClient
end MannyUploader.Providers
