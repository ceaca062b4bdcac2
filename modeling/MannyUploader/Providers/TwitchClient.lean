import MannyUploader.Foundation.Json
import MannyUploader.Providers.TwitchResponse

/-! The Twitch client: one request for an operation, and what its answer is taken for. -/
namespace MannyUploader.Providers
open Domain Application Foundation

def deviceUrl : String := "https://id.twitch.tv/oauth2/device"
def tokenUrl : String := "https://id.twitch.tv/oauth2/token"
def validateUrl : String := "https://id.twitch.tv/oauth2/validate"
def revokeUrl : String := "https://id.twitch.tv/oauth2/revoke"
def chatUrl : String := "https://api.twitch.tv/helix/chat/messages"
def deviceGrant : List UInt8 := utf8 "urn:ietf:params:oauth:grant-type:device_code"

namespace TwitchClient
open Client

def cancelled (operation : TwitchOperation) : TwitchError :=
  { TwitchError.failed operation .cancelled with disposition := .cancelled }

def transportError (operation : TwitchOperation) (code : HttpErrorCode) : TwitchError :=
  let disposition : TwitchDisposition := match code with
    | .cancelled => .cancelled
    | .timeout | .nameResolutionFailed | .connectionFailed | .tlsFailed | .sendFailed
    | .receiveFailed => .retry
    | _ => .failed
  { TwitchError.failed operation .transport with
    disposition
    retryAfter := if disposition = .retry then some (Duration.fromSecs 30) else none
    httpError := some code }

def requireSuccess (response : Application.HttpResponse) (operation : TwitchOperation) :
    Except TwitchError Unit :=
  let status := response.statusCode
  if status = 200 then .ok ()
  else
    let reconnect := (operation = .refresh ∧ (status = 400 ∨ status = 401)) ∨
      ((operation = .validate ∨ operation = .sendChat) ∧ status = 401)
    let retry := status = 408 ∨ status = 429 ∨ (500 ≤ status ∧ status < 600)
    .error { TwitchError.failed operation .httpStatus with
      disposition := if reconnect then .reconnect else if retry then .retry else .failed
      retryAfter :=
        if retry then some (Duration.fromSecs
          (if status = 429 then (Providers.retryAfter response).getD 60 else 30))
        else none
      httpStatus := some status }

def requireToken (token : SecretValue) (operation : TwitchOperation) : Except TwitchError Unit :=
  if validTwitchToken token then .ok ()
  else
    let error := TwitchError.failed operation .invalidInput
    .error (if operation = .validate ∨ operation = .refresh then
      { error with disposition := .reconnect } else error)

def authorization (scheme : String) (token : SecretValue) : HttpHeader :=
  .sensitive "Authorization" (utf8 scheme ++ token)

def isUnreserved (byte : UInt8) : Bool :=
  isLetterOrDigit byte || (utf8 "-_.~").contains byte

def upperHexDigit (value : UInt8) : UInt8 := if value < 10 then 48 + value else 55 + value

def formByte (byte : UInt8) : List UInt8 :=
  if isUnreserved byte then [byte] else [37, upperHexDigit (byte / 16), upperHexDigit (byte % 16)]

def form : List (String × List UInt8) → SecretValue
  | [] => []
  | [(name, value)] => utf8 name ++ 61 :: value.flatMap formByte
  | (name, value) :: rest => utf8 name ++ 61 :: value.flatMap formByte ++ 38 :: form rest

/-- `TwitchClient::run`. An empty client id is none. -/
def run (operation : TwitchOperation) (body : String → Client TwitchError α) :
    Client TwitchError α :=
  catchUnwind (.failed operation .internal) do
    refuseStop (cancelled operation)
    match ← (call .clientId : Client TwitchError (Option String)) with
    | none => throw (.failed operation .internal)
    | some id =>
      if id = "" then throw (.failed operation .unconfigured)
      else body id

/-- The timeouts and the limits that `TwitchClient::execute` sets. -/
def request (method : HttpMethod) (url : String) (headers : List HttpHeader)
    (body : Option HttpBodySource) : HttpRequest :=
  { method, url, headers, body
    timeouts := {
      connect := Duration.fromSecs 10
      operation := Duration.fromSecs 30
      stalledTransfer := Duration.fromSecs 30 }
    responseLimits := {
      maxHeaderBytes := maxHttpResponseHeaderBytes
      maxBodyBytes := maxTwitchResponseBytes } }

def execute (request : HttpRequest) (operation : TwitchOperation) :
    Client TwitchError Application.HttpResponse :=
  Client.execute (cancelled operation) (transportError operation) request

def body (bytes : SecretValue) (operation : TwitchOperation) :
    Except TwitchError HttpBodySource :=
  match memoryBody bytes with
  | none => .error (.failed operation .bodyFailed)
  | some source => .ok source

def post (url : String) (fields : List (String × List UInt8)) (operation : TwitchOperation) :
    Client TwitchError Application.HttpResponse := do
  let source ← ofExcept (body (form fields) operation)
  execute (request .post url [
    .ofText "Accept" "application/json",
    .ofText "Content-Type" "application/x-www-form-urlencoded"] (some source)) operation

def startDeviceAuthorization (readers : TwitchResponse.Readers) :
    Client TwitchError TwitchDeviceAuthorization :=
  run .start fun id => do
    let result ← post deviceUrl [
      ("client_id", utf8 id), ("scopes", utf8 twitchChatScope)] .start
    ofExcept (requireSuccess result .start)
    ofExcept (TwitchResponse.device readers result)

def pollDeviceAuthorization (readers : TwitchResponse.Readers) (code : SecretValue) :
    Client TwitchError TwitchDevicePollResult :=
  run .poll fun id => do
    ofExcept (requireToken code .poll)
    let result ← post tokenUrl [
      ("client_id", utf8 id), ("scopes", utf8 twitchChatScope), ("device_code", code),
      ("grant_type", deviceGrant)] .poll
    if result.statusCode = 400 ∧ TwitchResponse.pending readers result then pure .pending
    else do
      ofExcept (requireSuccess result .poll)
      ofExcept ((TwitchResponse.grant readers result .poll).map .granted)

def validateAccessToken (readers : TwitchResponse.Readers) (token : SecretValue) :
    Client TwitchError TwitchValidatedIdentity :=
  run .validate fun id => do
    ofExcept (requireToken token .validate)
    let result ← execute (request .get validateUrl [
      .ofText "Accept" "application/json", authorization "OAuth " token] none) .validate
    ofExcept (requireSuccess result .validate)
    ofExcept (TwitchResponse.identity readers result id)

def refreshAccessToken (readers : TwitchResponse.Readers) (token : SecretValue) :
    Client TwitchError TwitchTokenGrant :=
  run .refresh fun id => do
    ofExcept (requireToken token .refresh)
    let result ← post tokenUrl [
      ("grant_type", utf8 "refresh_token"), ("refresh_token", token), ("client_id", utf8 id)]
      .refresh
    ofExcept (requireSuccess result .refresh)
    ofExcept (TwitchResponse.grant readers result .refresh)

def revokeAccessToken (token : SecretValue) : Client TwitchError Unit :=
  run .revoke fun id => do
    ofExcept (requireToken token .revoke)
    let result ← post revokeUrl [("client_id", utf8 id), ("token", token)] .revoke
    ofExcept (requireSuccess result .revoke)

/-- The limits of a chat message, which the delivery checks as well. -/
def validMessage (message : String) : Bool :=
  !(utf8 message).isEmpty && (utf8 message).length ≤ 2000 && message.length ≤ 500 &&
    !(utf8 message).any isAsciiControl

def chatBody (printer : Json.Printer) (userId message : String) : SecretValue :=
  printer.print (.object [("broadcaster_id", .string userId), ("sender_id", .string userId),
    ("message", .string message)])

def chatRequest (id : String) (token : SecretValue) (source : HttpBodySource) : HttpRequest :=
  request .post chatUrl [
    .ofText "Accept" "application/json",
    .ofText "Client-Id" id,
    .ofText "Content-Type" "application/json",
    authorization "Bearer " token] (some source)

def sendChatMessage (readers : TwitchResponse.Readers) (userId message : String)
    (token : SecretValue) : Client TwitchError TwitchDeliveryReceipt :=
  run .sendChat fun id => do
    ofExcept (requireToken token .sendChat)
    if !validTwitchUserId userId || !validMessage message then
      throw (.failed .sendChat .invalidInput)
    else do
      let source ← ofExcept (body (chatBody readers.printer userId message) .sendChat)
      let result ← execute (chatRequest id token source) .sendChat
      ofExcept (requireSuccess result .sendChat)
      ofExcept (TwitchResponse.chat readers result)

end TwitchClient
end MannyUploader.Providers
