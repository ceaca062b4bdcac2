import MannyUploader.Providers.TwitchClient

/-! One chat delivery: a send with the lease of a session and, when that is refused, one more
with a recovered lease. -/
namespace MannyUploader.Providers
open Domain Application Foundation

namespace TwitchChatDelivery
open Client

def validLease (lease : TwitchDeliverySession) : Bool :=
  lease.revision != 0 && validTwitchUserId lease.authenticatedUserId &&
    validTwitchToken lease.accessToken

def retryDelay (delay : Option Duration) : Duration :=
  match delay with
  | some delay =>
    if delay ≠ 0 ∧ delay ≤ Duration.fromSecs 86400 then delay else Duration.fromSecs 30
  | none => Duration.fromSecs 30

def sessionFailure (error : TwitchDeliverySessionError) : TwitchChatResult :=
  match error.code with
  | .retry => .retryAfter (retryDelay error.retryAfter)
  | .cancelled => .cancelled
  | .notConnected => .failed .notConnected
  | .reconnectRequired => .failed .reconnectRequired
  | .failed => .failed .sessionFailed

/-- A lease that is not granted settles the delivery. -/
def granted : Except (Fault TwitchDeliverySessionError) TwitchDeliverySession →
    Except TwitchChatResult TwitchDeliverySession
  | .ok lease => .ok lease
  | .error .panicked => .error (.failed .sessionFailed)
  | .error (.error error) => .error (sessionFailure error)

/-- No connection was made, so nothing was sent. -/
def safeConnection (error : TwitchError) : Bool :=
  error.code == .transport && (error.httpError == some .nameResolutionFailed ||
    error.httpError == some .connectionFailed || error.httpError == some .tlsFailed)

def rateLimited (error : TwitchError) : Bool :=
  error.code == .httpStatus && error.httpStatus == some 429

def sendFailure (error : TwitchError) : TwitchChatResult :=
  if error.disposition = .retry ∧ (safeConnection error || rateLimited error) then
    .retryAfter (retryDelay error.retryAfter)
  else if error.code = .httpStatus ∧
      error.httpStatus.any fun status => 400 ≤ status && status < 500 && status != 408 then
    .failed .sendFailed
  else .ambiguous

def settled (receipt : TwitchDeliveryReceipt) : TwitchChatResult :=
  if !receipt.isValid then .ambiguous
  else if receipt.status = .sent then .sent receipt
  else .dropped receipt

/-- The loop over the attempts, with so many of them left. -/
def sendWith (readers : TwitchResponse.Readers) (message broadcaster : String)
    (revision : UInt64) : Nat → TwitchDeliverySession → Client Empty TwitchChatResult
  | 0, _ => .fail .panicked
  | left + 1, lease => do
    let stopped ← stopRequested
    if stopped then pure .cancelled
    else (TwitchClient.sendChatMessage readers lease.authenticatedUserId message
        lease.accessToken).settle fun (sent : Except (Fault TwitchError) _) => do
      -- A cancelled or panicking call may already have delivered the message.
      let stopped ← stopRequested
      if stopped then pure .ambiguous
      else match sent with
        | .ok receipt => pure (settled receipt)
        | .error .panicked => pure .ambiguous
        | .error (.error error) =>
          if error.code = .httpStatus ∧ error.httpStatus = some 401 then
            if left = 0 then pure (.failed .reconnectRequired)
            else .ask (.recoverSession lease) fun answer => match granted answer with
              | .error result => pure result
              | .ok recovered =>
                if !validLease recovered || recovered.authenticatedUserId != broadcaster ||
                    recovered.revision < revision then pure (.failed .reconnectRequired)
                else sendWith readers message broadcaster revision left recovered
          else pure (sendFailure error)

def send (readers : TwitchResponse.Readers) (message : String) : Client Empty TwitchChatResult := do
  let stopped ← stopRequested
  if stopped then pure .cancelled
  else if !TwitchClient.validMessage message then pure (.failed .invalidMessage)
  else .ask .acquireSession fun answer => match granted answer with
    | .error result => pure result
    | .ok lease =>
      if !validLease lease then pure (.failed .sessionFailed)
      else sendWith readers message lease.authenticatedUserId lease.revision 2 lease

end TwitchChatDelivery
end MannyUploader.Providers
