import MannyUploader.Application.Ports

/-! How a Twitch sign-in stands, and what may go wrong with it and with a test message. -/
namespace MannyUploader.Application
open Domain

inductive TwitchConnectionState
  | disconnected | starting | awaitingUser | validating | refreshing | connected | disconnecting
  | error | shuttingDown
deriving DecidableEq, Repr

inductive TwitchAuthenticationControllerError
  | busy | invalidState | dispatchFailed | staleResult | invalidResult | authorizationExpired
  | authenticationFailed | authenticationCancelled | reconnectRequired | sessionLoadFailed
  | sessionDecodeFailed | sessionStoreFailed | sessionEraseFailed | settingsSaveFailed
  | identityMismatch | shuttingDown | revisionExhausted | internal
deriving DecidableEq, Repr

inductive TwitchTestMessageError
  | busy | notConnected | dispatchFailed | staleResult | invalidResult | retrySuppressed
  | failed (error : TwitchChatError)
  | dropped (status : TwitchDeliveryStatus)
  | ambiguous | cancelled | shuttingDown | revisionExhausted
deriving DecidableEq, Repr

end MannyUploader.Application
