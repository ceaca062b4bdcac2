import MannyUploader.Domain.TwitchTemplate
import MannyUploader.Foundation.Json
import MannyUploader.Providers.Exchange
import MannyUploader.Providers.Wire

/-! The answers of Twitch, and what the client takes from them. -/
namespace MannyUploader.Providers
open Domain Application Foundation

def maxTwitchResponseBytes : Nat := 64 * 1024

namespace TwitchResponse

def invalid (operation : TwitchOperation) : TwitchError :=
  { TwitchError.failed operation .invalidResponse with
    disposition := if operation = .validate then .reconnect else .failed
    httpStatus := some 200 }

def positiveDuration (seconds : UInt64) : Option Duration :=
  if 1 ≤ seconds ∧ seconds ≤ 604_800 then some (Duration.fromSecs seconds.toNat) else none

def isGraphic (byte : UInt8) : Bool := 0x21 ≤ byte && byte ≤ 0x7e

def visible (text : String) : Bool :=
  !(utf8 text).isEmpty && !(utf8 text).any isAsciiControl

def activationPage : List UInt8 := utf8 "https://www.twitch.tv/activate"

def activationUri (uri : String) : Bool :=
  let bytes := utf8 uri
  let rest := bytes.drop activationPage.length
  activationPage.isPrefixOf bytes && (rest.isEmpty || rest.head? == some 63) &&
    !bytes.any (utf8 "@#\\").contains && bytes.all isGraphic

/-- The `Token` of a response. -/
def token (value : String) : Option SecretValue :=
  if validTwitchToken (utf8 value) then some (utf8 value) else none

/-- At most so many items. -/
def boundedList (limit : Nat) (values : List α) : Option (List α) :=
  if values.length > limit then none else some values

structure Device where
  deviceCode : String
  userCode : String
  verificationUri : String
  expiresIn : UInt64
  interval : UInt64

structure Pending where
  status : UInt16
  message : String

/-- One text, or a list of them. -/
inductive Scope
  | one (text : String)
  | many (texts : List String)

structure Grant where
  accessToken : String
  refreshToken : String
  expiresIn : UInt64
  scope : Scope
  tokenType : String

structure Identity where
  clientId : String
  userId : String
  login : String
  scopes : List String
  expiresIn : UInt64

structure DropReason where
  code : String
  message : String

structure ChatItem where
  isSent : Bool
  messageId : Option String
  dropReason : Option DropReason

structure Chat where
  data : List ChatItem

/-- What `serde_json` prints, and reads from a text before the bounds on its fields. -/
structure Readers where
  printer : Json.Printer
  device : String → Option Device
  pending : String → Option Pending
  grant : String → Option Grant
  identity : String → Option Identity
  chat : String → Option Chat

def decode (read : String → Option α) (bounds : α → Option β)
    (response : Application.HttpResponse) : Option β :=
  decodeJson read bounds response.body maxTwitchResponseBytes

def Device.bounds (device : Device) : Option (SecretValue × Device) := do
  let code ← token device.deviceCode
  let _ ← boundedText 64 device.userCode
  let _ ← boundedText 2048 device.verificationUri
  some (code, device)

def device (readers : Readers) (response : Application.HttpResponse) :
    Except TwitchError TwitchDeviceAuthorization :=
  match decode readers.device Device.bounds response with
  | none => .error (invalid .start)
  | some (deviceCode, parsed) =>
    if !visible parsed.userCode || !activationUri parsed.verificationUri ||
        !(1 ≤ parsed.interval && parsed.interval ≤ 300) then .error (invalid .start)
    else match positiveDuration parsed.expiresIn with
      | none => .error (invalid .start)
      | some expiresIn => .ok {
          deviceCode, expiresIn
          userCode := parsed.userCode
          verificationUri := parsed.verificationUri
          pollingInterval := Duration.fromSecs parsed.interval.toNat }

def Pending.bounds (pending : Pending) : Option Pending := do
  let _ ← boundedText 128 pending.message
  some pending

def pending (readers : Readers) (response : Application.HttpResponse) : Bool :=
  (decode readers.pending Pending.bounds response).any fun pending =>
    pending.status == 400 && pending.message == "authorization_pending"

def Scope.bounds : Scope → Option Scope
  | one text => (boundedText 128 text).map one
  | many texts => do
    let texts ← boundedList 1 texts
    (texts.mapM (boundedText 128)).map many

def Scope.valid : Scope → Bool
  | one text => text == twitchChatScope
  | many texts => texts == [twitchChatScope]

def Grant.bounds (grant : Grant) : Option (SecretValue × SecretValue × Grant) := do
  let access ← token grant.accessToken
  let refresh ← token grant.refreshToken
  let _ ← grant.scope.bounds
  let _ ← boundedText 16 grant.tokenType
  some (access, refresh, grant)

def grant (readers : Readers) (response : Application.HttpResponse)
    (operation : TwitchOperation) : Except TwitchError TwitchTokenGrant :=
  match decode readers.grant Grant.bounds response with
  | none => .error (invalid operation)
  | some (accessToken, refreshToken, parsed) =>
    if !parsed.scope.valid || !equalsIgnoringCase (utf8 parsed.tokenType) "bearer" then
      .error (invalid operation)
    else match positiveDuration parsed.expiresIn with
      | none => .error (invalid operation)
      | some expiresIn => .ok { accessToken, refreshToken, expiresIn, scopes := [twitchChatScope] }

def Identity.bounds (identity : Identity) : Option Identity := do
  let _ ← boundedText 128 identity.clientId
  let _ ← boundedText 20 identity.userId
  let _ ← boundedText 64 identity.login
  let scopes ← boundedList 1 identity.scopes
  let _ ← scopes.mapM (boundedText 128)
  some identity

def identity (readers : Readers) (response : Application.HttpResponse) (clientId : String) :
    Except TwitchError TwitchValidatedIdentity :=
  match decode readers.identity Identity.bounds response with
  | none => .error (invalid .validate)
  | some parsed =>
    if parsed.clientId ≠ clientId || !validTwitchUserId parsed.userId ||
        !validTwitchLogin parsed.login || !(Scope.many parsed.scopes).valid then
      .error (invalid .validate)
    else match positiveDuration parsed.expiresIn with
      | none => .error (invalid .validate)
      | some expiresIn => .ok {
          userId := parsed.userId, login := parsed.login, expiresIn, scopes := [twitchChatScope] }

def DropReason.bounds (reason : DropReason) : Option DropReason := do
  let _ ← boundedText 128 reason.code
  let _ ← boundedText 1024 reason.message
  some reason

def ChatItem.bounds (item : ChatItem) : Option ChatItem := do
  let _ ← item.messageId.mapM (boundedText 256)
  let _ ← item.dropReason.mapM DropReason.bounds
  some item

def Chat.bounds (chat : Chat) : Option Chat := do
  let data ← boundedList 1 chat.data
  let _ ← data.mapM ChatItem.bounds
  some chat

def dropStatus (code : String) : TwitchDeliveryStatus :=
  if code = "automod_held" ∨ code = "automod_caught" then .autoMod
  else if code = "blocked_term" then .blockedTerm
  else if code = "msg_duplicate" then .duplicate
  else if code = "rate_limited" then .rateLimited
  else if code = "followers_only" then .followersOnly
  else if code = "slow_mode" then .slowMode
  else if code = "subscribers_only" then .subscribersOnly
  else if code = "banned" ∨ code = "channel_suspended" ∨ code = "restricted" then .restricted
  else .otherDrop

def chatReceipt (item : ChatItem) : Option TwitchDeliveryReceipt :=
  match item.isSent, item.messageId, item.dropReason with
  | true, some id, none =>
    if !(utf8 id).isEmpty && (utf8 id).all isGraphic then
      some { status := .sent, messageId := some id }
    else none
  | false, none, some reason =>
    if visible reason.code && visible reason.message then
      some { status := dropStatus reason.code, messageId := none }
    else none
  | _, _, _ => none

def chat (readers : Readers) (response : Application.HttpResponse) :
    Except TwitchError TwitchDeliveryReceipt :=
  match (decode readers.chat Chat.bounds response).bind (·.data.head?) with
  | none => .error (invalid .sendChat)
  | some item =>
    match chatReceipt item with
    | none => .error (invalid .sendChat)
    | some receipt => .ok receipt

end TwitchResponse
end MannyUploader.Providers
