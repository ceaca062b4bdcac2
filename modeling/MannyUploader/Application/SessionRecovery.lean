import MannyUploader.Application.TwitchSessionOwner
import MannyUploader.Foundation.Attempts

/-! The recovery of a rejected session: what the owner does between taking the session out and
ending the transaction, while others may call it. -/
namespace MannyUploader.Domain

/-- Windows counts in steps of 100 ns, and a span as a signed 64-bit number of them. -/
def SystemTime.checkedAdd (time : SystemTime) (delay : Duration) : Option SystemTime :=
  let nanos := time.nanos + (delay / 100 * 100 : Nat)
  if h : delay / 100 < 2 ^ 63 ∧ SystemTime.minNanos ≤ nanos ∧ nanos ≤ SystemTime.maxNanos then
    some ⟨nanos, h.2⟩
  else none

end MannyUploader.Domain

namespace MannyUploader.Application
open Domain Foundation

namespace TwitchSessionOwner

/-- What a recovery asks: the owner, the stop token, the client and the clock. -/
inductive RecoveryQuestion
  | stopRequested
  | owner (call : OwnerCall)
  | validateAccessToken (token : SecretValue)
  | refreshAccessToken (token : SecretValue)
  | systemNow
deriving DecidableEq

/-- The client may panic. A clock that panics answers `none`. -/
abbrev RecoveryQuestion.Answer : RecoveryQuestion → Type
  | stopRequested => Bool
  | owner call => call.Answer
  | validateAccessToken _ => Except (Fault TwitchError) TwitchValidatedIdentity
  | refreshAccessToken _ => Except (Fault TwitchError) TwitchTokenGrant
  | systemNow => Option SystemTime

abbrev RecoveryExchange := Dialogue.Exchange RecoveryQuestion RecoveryQuestion.Answer

abbrev Recovery (α : Type) :=
  Dialogue RecoveryQuestion RecoveryQuestion.Answer (Fault TwitchDeliverySessionError) α

namespace Recovery

def throw (error : TwitchDeliverySessionError) : Recovery α := .fail (.failed error)

def ask (question : RecoveryQuestion) : Recovery question.Answer :=
  Dialogue.ask question Dialogue.done

def stopRequested : Recovery Bool := ask .stopRequested

def call (question : OwnerCall) : Recovery question.Answer := ask (.owner question)

/-- A panic of the client goes on, an error is dealt with. -/
def answered : Except (Fault ε) α → Recovery (Except ε α)
  | .error .panicked => .fail .panicked
  | .error (.failed error) => pure (.error error)
  | .ok value => pure (.ok value)

def validateAccessToken (token : SecretValue) :
    Recovery (Except TwitchError TwitchValidatedIdentity) := do
  answered (← ask (.validateAccessToken token))

def refreshAccessToken (token : SecretValue) :
    Recovery (Except TwitchError TwitchTokenGrant) := do
  answered (← ask (.refreshAccessToken token))

/-- A check whose failure is dealt with by the caller. -/
abbrev Check := Except TwitchDeliverySessionError

def checkRecovery (id : UInt64) : Recovery (Check Unit) := do
  if ← stopRequested then pure (.error (deliveryError .cancelled))
  else match ← call (.check id) with
    | .error error => pure (.error (.ofOwner error))
    | .ok () => pure (.ok ())

def expiresAt (now : SystemTime) (duration : Duration) : Check SystemTime :=
  match now.checkedAdd duration with
  | none => .error (deliveryError .reconnectRequired)
  | some time => .ok time

def expiry (duration : Duration) : Recovery (Check SystemTime) :=
  if duration = 0 ∨ Duration.fromSecs 604800 < duration then
    pure (.error (deliveryError .reconnectRequired))
  else do
    match ← ask .systemNow with
    | none => .fail .panicked
    | some now => pure (expiresAt now duration)

/-- A client may be any adapter, so what it answers is checked before it can be saved. -/
def applyIdentity (session : TwitchSession) (identity : TwitchValidatedIdentity) :
    Recovery (Check TwitchSession) :=
  if identity.userId ≠ session.userId then pure (.error (deliveryError .reconnectRequired))
  else do
    match ← expiry identity.expiresIn with
    | .error error => pure (.error error)
    | .ok time =>
      let session := { session with
        credentials := { session.credentials with accessExpiresAt := time }
        login := identity.login, scopes := identity.scopes }
      match encodeTwitchSession session with
      | .error _ => pure (.error (deliveryError .reconnectRequired))
      | .ok _ => pure (.ok session)

def endFailedRecovery (transaction : TwitchSessionTransaction)
    (error : TwitchDeliverySessionError) (restore erase : Bool) : Recovery TwitchDeliverySession := do
  let closed ← if restore then call (.restore transaction.id transaction.session)
    else call (.discard transaction.id erase)
  match closed with
  | .error closeError => throw (.ofOwner closeError)
  | .ok () => throw error

def finishRecovery (transaction : TwitchSessionTransaction) : Recovery TwitchDeliverySession := do
  match ← call (.commit transaction.id transaction.session) with
  | .error error => do
    let _ ← call (.discard transaction.id false)
    throw (.ofOwner error)
  | .ok _ => do
    let stopped ← stopRequested
    match ← call (.acquire stopped) with
    | .error error => throw error
    | .ok lease => pure lease

def restores (error : TwitchError) : Bool :=
  error.disposition = .retry || error.disposition = .cancelled

/-- Once the rotated session is saved. -/
def validateRotated (transaction : TwitchSessionTransaction) : Recovery TwitchDeliverySession := do
  match ← checkRecovery transaction.id with
  | .error error => endFailedRecovery transaction error false true
  | .ok () => do
    let replacement ← validateAccessToken transaction.session.credentials.accessToken
    match ← checkRecovery transaction.id with
    | .error error => endFailedRecovery transaction error false true
    | .ok () => match replacement with
      | .error error => endFailedRecovery transaction (.ofTwitch error) false true
      | .ok identity => match ← applyIdentity transaction.session identity with
        | .error error => endFailedRecovery transaction error false true
        | .ok session => finishRecovery { transaction with session }

/-- After a grant. The old refresh token may be spent, so the old session does not come back. -/
def finishRotation (transaction : TwitchSessionTransaction) (grant : TwitchTokenGrant) :
    Recovery TwitchDeliverySession := do
  match ← checkRecovery transaction.id with
  | .error error => endFailedRecovery transaction error false true
  | .ok () => match ← expiry grant.expiresIn with
    | .error error => endFailedRecovery transaction error false true
    | .ok accessExpiresAt => do
      let session := { transaction.session with
        credentials := { accessToken := grant.accessToken, refreshToken := grant.refreshToken
                         accessExpiresAt }
        scopes := grant.scopes }
      match ← call (.persistPending transaction.id session) with
      | .error error =>
        endFailedRecovery { transaction with session } (.ofOwner error) false false
      | .ok () => validateRotated { transaction with session }

/-- Once the session proved to be rejected. -/
def rotate (transaction : TwitchSessionTransaction) : Recovery TwitchDeliverySession := do
  match ← checkRecovery transaction.id with
  | .error error => endFailedRecovery transaction error true false
  | .ok () => match ← refreshAccessToken transaction.session.credentials.refreshToken with
    | .error error =>
      endFailedRecovery transaction (.ofTwitch error) (restores error) (!restores error)
    | .ok grant => finishRotation transaction grant

def recoverCurrent (transaction : TwitchSessionTransaction) : Recovery TwitchDeliverySession := do
  match ← checkRecovery transaction.id with
  | .error error => endFailedRecovery transaction error true false
  | .ok () => do
    let validated ← validateAccessToken transaction.session.credentials.accessToken
    match ← checkRecovery transaction.id with
    | .error error => endFailedRecovery transaction error true false
    | .ok () => match validated with
      | .ok identity => match ← applyIdentity transaction.session identity with
        | .error error => endFailedRecovery transaction error false true
        | .ok session => finishRecovery { transaction with session }
      | .error error =>
        if error.disposition = .reconnect then rotate transaction
        else endFailedRecovery transaction (.ofTwitch error) (restores error) false

/-- A panic on the way gives the transaction up. -/
def settled (id : UInt64) :
    Except (Fault TwitchDeliverySessionError) TwitchDeliverySession → Recovery TwitchDeliverySession
  | .ok lease => .done lease
  | .error (.failed error) => throw error
  | .error .panicked => do
    let _ ← call (.discard id false)
    throw (deliveryError .failed)

end Recovery

open Recovery in
def recover (rejected : TwitchDeliverySession) : Recovery TwitchDeliverySession := do
  let stopped ← stopRequested
  match ← call (.beginRecovery rejected stopped) with
  | .error error => throw error
  | .ok (.inl lease) => pure lease
  | .ok (.inr transaction) => (recoverCurrent transaction).settle (settled transaction.id)

end TwitchSessionOwner
end MannyUploader.Application
