import MannyUploader.Application.HttpRequest
import MannyUploader.Application.Ports

/-! What the Twitch client answers, what a chat delivery comes to, and the session that is
lent out for one. -/
namespace MannyUploader.Application
open Domain

structure TwitchDeviceAuthorization where
  deviceCode : SecretValue
  userCode : String
  verificationUri : String
  expiresIn : Duration
  pollingInterval : Duration
deriving DecidableEq

structure TwitchTokenGrant where
  accessToken : SecretValue
  refreshToken : SecretValue
  expiresIn : Duration
  scopes : List String
deriving DecidableEq

inductive TwitchDevicePollResult
  | pending
  | granted (grant : TwitchTokenGrant)
deriving DecidableEq

structure TwitchValidatedIdentity where
  userId : String
  login : String
  expiresIn : Duration
  scopes : List String
deriving DecidableEq

inductive TwitchOperation
  | start | poll | validate | refresh | revoke | sendChat
deriving DecidableEq, Repr

inductive TwitchDisposition
  | retry | reconnect | failed | cancelled
deriving DecidableEq, Repr

inductive TwitchErrorCode
  | invalidClientId | unconfigured | invalidInput | bodyFailed | transport | httpStatus
  | invalidResponse | internal | cancelled
deriving DecidableEq, Repr

structure TwitchError where
  operation : TwitchOperation
  code : TwitchErrorCode
  disposition : TwitchDisposition
  retryAfter : Option Duration
  httpError : Option HttpErrorCode
  httpStatus : Option UInt16
deriving DecidableEq, Repr

def TwitchError.failed (operation : TwitchOperation) (code : TwitchErrorCode) : TwitchError :=
  { operation, code, disposition := .failed, retryAfter := none, httpError := none
    httpStatus := none }

def validTwitchClientId (value : String) : Bool :=
  let bytes := utf8 value
  !bytes.isEmpty && bytes.length ≤ 128 &&
    bytes.all fun byte => isAsciiLowercase byte || isAsciiDigit byte

inductive TwitchChatResult
  | sent (receipt : TwitchDeliveryReceipt)
  | dropped (receipt : TwitchDeliveryReceipt)
  | retryAfter (delay : Duration)
  | failed (error : TwitchChatError)
  | ambiguous
  | cancelled
deriving DecidableEq, Repr

def TwitchChatResult.intoUploadOutcome : TwitchChatResult → UploadOutcome
  | sent receipt => .succeeded (.twitch receipt)
  | dropped receipt => .twitchDropped receipt
  | retryAfter delay => .retryAfter delay
  | failed error => .failedWithNotice (.twitch error)
  | ambiguous => .ambiguous
  | cancelled => .cancelled

/-- The lease of a session. -/
structure TwitchDeliverySession where
  accessToken : SecretValue
  authenticatedUserId : String
  revision : UInt64
deriving DecidableEq

inductive TwitchDeliverySessionErrorCode
  | notConnected | retry | reconnectRequired | failed | cancelled
deriving DecidableEq, Repr

structure TwitchDeliverySessionError where
  code : TwitchDeliverySessionErrorCode
  retryAfter : Option Duration
deriving DecidableEq, Repr

end MannyUploader.Application
