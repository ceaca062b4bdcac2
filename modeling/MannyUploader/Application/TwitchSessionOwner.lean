import MannyUploader.Application.ConfigurationService
import MannyUploader.Application.Twitch
import MannyUploader.Foundation.Dialogue

/-! The owner of the Twitch session. A refresh token works once, so a session that is being
checked is taken out under a transaction id, and whoever holds the id ends the transaction. -/
namespace MannyUploader.Application
open Domain Foundation

inductive TwitchSessionOwnerError
  | busy | notConnected | loadFailed | decodeFailed | encodeFailed | storeFailed | eraseFailed
  | staleTransaction | identityMismatch | shuttingDown | revisionExhausted | internal
deriving DecidableEq, Repr

structure TwitchSessionTransaction where
  id : UInt64
  session : TwitchSession
deriving DecidableEq

structure TwitchSessionOwnerSnapshot where
  authenticatedUserId : String
  login : String
  accessExpiresAt : SystemTime
  revision : UInt64
deriving DecidableEq

inductive TwitchSessionOwnerState
  | disconnected
  | updating
  | connected (snapshot : TwitchSessionOwnerSnapshot)
  | shuttingDown
deriving DecidableEq

def ownerSnapshot (session : TwitchSession) (revision : UInt64) : TwitchSessionOwnerSnapshot where
  authenticatedUserId := session.userId
  login := session.login
  accessExpiresAt := session.credentials.accessExpiresAt
  revision := revision

def lease (session : TwitchSession) (revision : UInt64) : TwitchDeliverySession where
  accessToken := session.credentials.accessToken
  authenticatedUserId := session.userId
  revision := revision

def deliveryError (code : TwitchDeliverySessionErrorCode) : TwitchDeliverySessionError where
  code := code
  retryAfter := none

def TwitchDeliverySessionError.ofOwner (error : TwitchSessionOwnerError) :
    TwitchDeliverySessionError :=
  deliveryError <| match error with
    | .busy | .staleTransaction => .retry
    | .notConnected => .notConnected
    | .shuttingDown => .cancelled
    | .identityMismatch => .reconnectRequired
    | _ => .failed

def TwitchDeliverySessionError.ofTwitch (error : TwitchError) : TwitchDeliverySessionError where
  code := match error.disposition with
    | .retry => .retry
    | .reconnect => .reconnectRequired
    | .failed => .failed
    | .cancelled => .cancelled
  retryAfter := error.retryAfter.filter fun delay => delay != 0 && delay ≤ Duration.fromSecs 86400

namespace TwitchSessionOwner

/-- A transaction. Without a user id it is a new sign-in, whose user is not known yet. -/
structure Pending where
  id : UInt64
  userId : Option String
  restorable : Bool
deriving DecidableEq

structure State where
  active : Option TwitchSession
  pending : Option Pending
  revision : UInt64
  nextTransaction : UInt64
  stopping : Bool
deriving DecidableEq

def maxNumber : UInt64 := 0xffff_ffff_ffff_ffff

namespace State

def new : State where
  active := none
  pending := none
  revision := 0
  nextTransaction := 1
  stopping := false

def idle (state : State) : Except TwitchSessionOwnerError Unit :=
  if state.stopping then .error .shuttingDown
  else if state.pending.isSome then .error .busy
  else if state.nextTransaction = maxNumber ∨ state.revision = maxNumber then
    .error .revisionExhausted
  else .ok ()

def reserve (state : State) (userId : Option String) (restorable : Bool) : State :=
  { state with
    nextTransaction := state.nextTransaction + 1
    pending := some { id := state.nextTransaction, userId, restorable } }

def start (state : State) (session : TwitchSession) (restorable : Bool) :
    TwitchSessionTransaction × State :=
  ({ id := state.nextTransaction, session }, state.reserve (some session.userId) restorable)

def check (state : State) (id : UInt64) : Except TwitchSessionOwnerError Pending :=
  if state.stopping then .error .shuttingDown
  else match state.pending with
    | some pending => if pending.id = id then .ok pending else .error .staleTransaction
    | none => .error .staleTransaction

def checkIdentity (state : State) (id : UInt64) (session : TwitchSession) :
    Except TwitchSessionOwnerError Unit := do
  let pending ← state.check id
  if pending.userId.any (· != session.userId) then .error .identityMismatch else .ok ()

end State
end TwitchSessionOwner

/-- The session and the configuration that it is saved through. The lock of the configuration
may be poisoned. No call panics while it holds the session. -/
structure TwitchSessionOwner (W : Type) where
  state : TwitchSessionOwner.State
  configuration : ConfigurationService
  poisoned : Bool
  world : W

namespace TwitchSessionOwner

def new (configuration : ConfigurationService) (poisoned : Bool) (world : W) :
    TwitchSessionOwner W :=
  { state := .new, configuration, poisoned, world }

section calls
variable {W : Type} (ports : StorePorts W)

/-- A call that holds the session. -/
abbrev Call (W α : Type) := Stateful (TwitchSessionOwner W) TwitchSessionOwnerError α

def checking (check : State → Except TwitchSessionOwnerError α) : Call W α :=
  fun owner => (check owner.state, owner)

def change (next : State → State) : Call W Unit :=
  modify fun owner => { owner with state := next owner.state }

/-- A call of the configuration that the owner shares. -/
def ofConfiguration (call : ConfigurationService.Call W α) :
    Stateful (TwitchSessionOwner W) ConfigurationError α :=
  Stateful.onPart (fun owner => (owner.configuration, owner.world))
    (fun part owner => { owner with configuration := part.1, world := part.2 }) call

def throughConfiguration (failure : TwitchSessionOwnerError)
    (call : ConfigurationService.Call W α) : Call W α := do
  let owner ← get
  if owner.poisoned then Stateful.fail failure
  else if owner.configuration.shuttingDown then Stateful.fail .shuttingDown
  else Stateful.wrapping (fun _ => failure) (ofConfiguration call)

def persist (session : TwitchSession) : Call W Unit :=
  match encodeTwitchSession session with
  | .error _ => Stateful.fail .encodeFailed
  | .ok encoded =>
    throughConfiguration .storeFailed
      (ConfigurationService.storeSecret ports .twitchOAuthSession encoded)

def erase : Call W Unit :=
  throughConfiguration .eraseFailed (ConfigurationService.eraseSecret ports .twitchOAuthSession)

/-- A secret that was never saved is none. -/
def loadSaved : ConfigurationService.Call W (Option SecretValue) := do
  match ← (Stateful.attempt (ConfigurationService.loadSecret ports .twitchOAuthSession) :
      ConfigurationService.Call W (Except ConfigurationError SecretValue)) with
  | .ok value => pure (some value)
  | .error (.secretLoad error) =>
    if error.code = .notFound then pure none else Stateful.fail (.secretLoad error)
  | .error error => Stateful.fail error

/-- `idle` and no active session. -/
def requireDisconnected : Call W Unit := do
  checking State.idle
  let owner ← get
  if owner.state.active.isSome then Stateful.fail .busy else pure ()

def start (session : TwitchSession) (restorable : Bool) : Call W TwitchSessionTransaction := do
  let owner ← get
  change fun state => (state.start session restorable).2
  pure (owner.state.start session restorable).1

def checkoutSaved : Call W (Option TwitchSessionTransaction) := do
  requireDisconnected
  match ← throughConfiguration .loadFailed (loadSaved ports) with
  | none => pure none
  | some encoded => match decodeTwitchSession encoded with
    | .error _ => Stateful.fail .decodeFailed
    | .ok session => do
      let transaction ← start session false
      pure (some transaction)

def beginNew (session : TwitchSession) : Call W TwitchSessionTransaction := do
  requireDisconnected
  start session false

def reserveNew : Call W UInt64 := do
  requireDisconnected
  let owner ← get
  change (·.reserve none false)
  pure owner.state.nextTransaction

def checkoutActive : Call W TwitchSessionTransaction := do
  checking State.idle
  let owner ← get
  match owner.state.active with
  | none => Stateful.fail .notConnected
  | some session => do
    change ({ · with active := none })
    start session true

/-- A rotation cannot return to the prior generation, even if saving it fails. -/
def persistPending (id : UInt64) (session : TwitchSession) : Call W Unit := do
  checking (·.checkIdentity id session)
  let pending ← checking (·.check id)
  if pending.userId.isNone then Stateful.fail .identityMismatch
  else do
    change fun state =>
      { state with pending := state.pending.map ({ · with restorable := false }) }
    persist ports session

def commit (id : UInt64) (session : TwitchSession) : Call W TwitchSessionOwnerSnapshot := do
  checking (·.checkIdentity id session)
  persist ports session
  change fun state =>
    { state with revision := state.revision + 1, active := some session, pending := none }
  let owner ← get
  pure (ownerSnapshot session owner.state.revision)

def restore (id : UInt64) (session : TwitchSession) : Call W Unit := do
  checking (·.checkIdentity id session)
  let pending ← checking (·.check id)
  if !pending.restorable then Stateful.fail .staleTransaction
  else match encodeTwitchSession session with
    | .error _ => Stateful.fail .encodeFailed
    | .ok _ => change ({ · with active := some session, pending := none })

def discard (id : UInt64) (eraseSaved : Bool) : Call W Unit := do
  let _ ← checking (·.check id)
  change ({ · with active := none, pending := none })
  if eraseSaved then erase ports else pure ()

def eraseSaved : Call W Unit := do
  let owner ← get
  if owner.state.stopping then Stateful.fail .shuttingDown
  else if owner.state.pending.isSome then Stateful.fail .busy
  else do
    change ({ · with active := none })
    erase ports

def snapshot (owner : TwitchSessionOwner W) : Option TwitchSessionOwnerSnapshot :=
  if owner.state.pending.isSome || owner.state.stopping then none
  else owner.state.active.map (ownerSnapshot · owner.state.revision)

def connectionState (owner : TwitchSessionOwner W) : TwitchSessionOwnerState :=
  if owner.state.stopping then .shuttingDown
  else if owner.state.pending.isSome then .updating
  else match owner.state.active with
    | some session => .connected (ownerSnapshot session owner.state.revision)
    | none => .disconnected

def shutdown (owner : TwitchSessionOwner W) : TwitchSessionOwner W :=
  { owner with state := { owner.state with stopping := true, active := none, pending := none } }

/-! What a delivery asks for. The stop token is read before the session is locked. -/

abbrev LeaseCall (W α : Type) := Stateful (TwitchSessionOwner W) TwitchDeliverySessionError α

def acquire (stopRequested : Bool) : LeaseCall W TwitchDeliverySession := do
  let owner ← get
  if stopRequested then Stateful.fail (deliveryError .cancelled)
  else if owner.state.stopping then Stateful.fail (deliveryError .cancelled)
  else if owner.state.pending.isSome then Stateful.fail (deliveryError .retry)
  else match owner.state.active with
    | none => Stateful.fail (deliveryError .notConnected)
    | some session => pure (lease session owner.state.revision)

/-- The part of `recover` that holds the session. A lease of an older generation is answered
with the present one. -/
def beginRecovery (rejected : TwitchDeliverySession) (stopRequested : Bool) :
    LeaseCall W (TwitchDeliverySession ⊕ TwitchSessionTransaction) := do
  if stopRequested then Stateful.fail (deliveryError .cancelled)
  else do
    Stateful.wrapping TwitchDeliverySessionError.ofOwner (checking State.idle)
    let owner ← get
    match owner.state.active with
    | none => Stateful.fail (deliveryError .notConnected)
    | some active =>
      if rejected.revision = 0 ∨ owner.state.revision < rejected.revision ∨
          rejected.authenticatedUserId ≠ active.userId then
        Stateful.fail (deliveryError .reconnectRequired)
      else if rejected.revision < owner.state.revision then
        pure (.inl (lease active owner.state.revision))
      else if rejected.accessToken ≠ active.credentials.accessToken then
        Stateful.fail (deliveryError .reconnectRequired)
      else Stateful.wrapping TwitchDeliverySessionError.ofOwner do
        change ({ · with active := none })
        let transaction ← start active true
        pure (.inr transaction)

end calls

/-! The calls, each with what it answers. -/

inductive OwnerCall
  | checkoutSaved
  | beginNew (session : TwitchSession)
  | reserveNew
  | checkoutActive
  | persistPending (id : UInt64) (session : TwitchSession)
  | commit (id : UInt64) (session : TwitchSession)
  | restore (id : UInt64) (session : TwitchSession)
  | discard (id : UInt64) (eraseSaved : Bool)
  | eraseSaved
  | check (id : UInt64)
  | connectionState
  | acquire (stopRequested : Bool)
  | beginRecovery (rejected : TwitchDeliverySession) (stopRequested : Bool)
  | shutdown
deriving DecidableEq

abbrev OwnerCall.Answer : OwnerCall → Type
  | checkoutSaved => Except TwitchSessionOwnerError (Option TwitchSessionTransaction)
  | beginNew _ | checkoutActive => Except TwitchSessionOwnerError TwitchSessionTransaction
  | reserveNew => Except TwitchSessionOwnerError UInt64
  | commit _ _ => Except TwitchSessionOwnerError TwitchSessionOwnerSnapshot
  | persistPending _ _ | restore _ _ | discard _ _ | eraseSaved | check _ =>
    Except TwitchSessionOwnerError Unit
  | connectionState => TwitchSessionOwnerState
  | acquire _ => Except TwitchDeliverySessionError TwitchDeliverySession
  | beginRecovery _ _ =>
    Except TwitchDeliverySessionError (TwitchDeliverySession ⊕ TwitchSessionTransaction)
  | shutdown => Unit

/-- What was asked of the owner and what it answered, oldest first. -/
abbrev OwnerCalls := Dialogue.Exchange OwnerCall OwnerCall.Answer

def perform (ports : StorePorts W) : (call : OwnerCall) → TwitchSessionOwner W →
    call.Answer × TwitchSessionOwner W
  | .checkoutSaved => checkoutSaved ports
  | .beginNew session => beginNew session
  | .reserveNew => reserveNew
  | .checkoutActive => checkoutActive
  | .persistPending id session => persistPending ports id session
  | .commit id session => commit ports id session
  | .restore id session => restore id session
  | .discard id eraseSaved => discard ports id eraseSaved
  | .eraseSaved => eraseSaved ports
  | .check id => (do let _ ← checking (·.check id) : Call W Unit)
  | .connectionState => fun owner => (owner.connectionState, owner)
  | .acquire stopRequested => acquire stopRequested
  | .beginRecovery rejected stopRequested => beginRecovery rejected stopRequested
  | .shutdown => fun owner => ((), owner.shutdown)

end TwitchSessionOwner
end MannyUploader.Application
