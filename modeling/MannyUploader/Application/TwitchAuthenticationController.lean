import MannyUploader.Application.SessionRecovery
import MannyUploader.Application.TwitchAuthentication
import MannyUploader.Foundation.Agents

/-! The sign-in to Twitch. The controller asks a worker for one step after the other, keeps the
tokens in between, and hands the session to its owner. -/
namespace MannyUploader.Application
open Domain Foundation

inductive TwitchAuthenticationCommand
  | start
  | poll (deviceCode : SecretValue)
  | validate (credentials : TwitchCredentialSet)
  | refresh (credentials : TwitchCredentialSet)
  | revoke (accessToken : SecretValue)
deriving DecidableEq

def TwitchAuthenticationCommand.operation : TwitchAuthenticationCommand → TwitchOperation
  | start => .start
  | poll _ => .poll
  | validate _ => .validate
  | refresh _ => .refresh
  | revoke _ => .revoke

structure TwitchAuthenticationRequest where
  requestId : UInt64
  command : TwitchAuthenticationCommand
deriving DecidableEq

inductive TwitchAuthenticationSuccess
  | started (device : TwitchDeviceAuthorization)
  | pending (deviceCode : SecretValue)
  | granted (grant : TwitchTokenGrant)
  | validated (credentials : TwitchCredentialSet) (identity : TwitchValidatedIdentity)
  | refreshed (grant : TwitchTokenGrant)
  | revoked
deriving DecidableEq

inductive TwitchAuthenticationSecret
  | deviceCode (code : SecretValue)
  | credentials (credentials : TwitchCredentialSet)
deriving DecidableEq

/-- A failed step gives its secret back. -/
structure TwitchAuthenticationResult where
  requestId : UInt64
  operation : TwitchOperation
  outcome : Except TwitchError TwitchAuthenticationSuccess
  retained : Option TwitchAuthenticationSecret

inductive TwitchAuthenticationDispatchError
  | invalidRequest | queueFull | stopping
deriving DecidableEq, Repr

structure TwitchConnectionSnapshot where
  state : TwitchConnectionState
  login : Option String
  userCode : Option String
  verificationUri : Option String
  authorizationExpiresAt : Option SystemTime
  accessExpiresAt : Option SystemTime
  diagnostic : Option TwitchAuthenticationControllerError
  revision : UInt64
  shuttingDown : Bool
deriving DecidableEq

/-- What an awaited answer is for. -/
inductive Phase
  | start | poll | validateInitial | validateSaved | validateActive | validateRotated | refresh
  | revoke
deriving DecidableEq, Repr

namespace Phase

def operation : Phase → TwitchOperation
  | start => .start
  | poll => .poll
  | refresh => .refresh
  | revoke => .revoke
  | _ => .validate

def state : Phase → TwitchConnectionState
  | start => .starting
  | poll => .awaitingUser
  | refresh => .refreshing
  | revoke => .disconnecting
  | _ => .validating

/-- The phases of a step that was given the credentials of the draft. -/
def hasCredentials : Phase → Bool
  | .validateInitial | .validateSaved | .validateActive | .validateRotated | .refresh => true
  | _ => false

end Phase

namespace TwitchAuthenticationControllerError

def ofOwner : TwitchSessionOwnerError → TwitchAuthenticationControllerError
  | .busy => .busy
  | .notConnected => .invalidState
  | .loadFailed => .sessionLoadFailed
  | .decodeFailed => .sessionDecodeFailed
  | .encodeFailed | .storeFailed => .sessionStoreFailed
  | .eraseFailed => .sessionEraseFailed
  | .identityMismatch => .identityMismatch
  | .shuttingDown => .shuttingDown
  | .revisionExhausted => .revisionExhausted
  | .staleTransaction | .internal => .internal

end TwitchAuthenticationControllerError

/-- What the controller asks: the owner, the configuration, the clock and the worker. -/
inductive SignInQuestion
  | ownerStopping
  | configurationStopping
  | owner (call : TwitchSessionOwner.OwnerCall)
  | disablePosting
  | steadyNow
  | systemNow
  | enqueue (request : TwitchAuthenticationRequest)
  | tryTakeResult
  | cancelPending
deriving DecidableEq

/-- A lock that is poisoned, a clock and a queue of results that panic answer `none`. -/
abbrev SignInQuestion.Answer : SignInQuestion → Type
  | ownerStopping => Bool
  | configurationStopping => Option Bool
  | owner call => call.Answer
  | disablePosting => Option (Except ConfigurationError Unit)
  | steadyNow => Option Instant
  | systemNow => Option SystemTime
  | enqueue _ => Except (Fault TwitchAuthenticationDispatchError) Unit
  | tryTakeResult => Option (Option TwitchAuthenticationResult)
  | cancelPending => Unit

namespace TwitchAuthenticationController

structure InFlight where
  id : UInt64
  phase : Phase
deriving DecidableEq

structure Authorization where
  code : Option SecretValue
  expires : Instant
  nextPoll : Instant
  interval : Duration
deriving DecidableEq

/-- The session that is being checked. While a request has them, the credentials are gone. -/
structure Draft where
  credentials : Option TwitchCredentialSet
  identity : Option (String × String)
  rotated : Bool
deriving DecidableEq

def Draft.fromSession (session : TwitchSession) : Draft where
  credentials := some session.credentials
  identity := some (session.userId, session.login)
  rotated := false

structure Schedule where
  ownerRevision : UInt64
  validation : Instant
  refresh : Instant
deriving DecidableEq

end TwitchAuthenticationController

open TwitchAuthenticationController in
structure TwitchAuthenticationController where
  snapshot : TwitchConnectionSnapshot
  transaction : Option UInt64
  draft : Option Draft
  authorization : Option Authorization
  pending : Option InFlight
  deferred : Option (Phase × Instant)
  schedule : Option Schedule
  nextRequest : UInt64
deriving DecidableEq

abbrev SignIn (α : Type) := Agent TwitchAuthenticationController SignInQuestion
  SignInQuestion.Answer (Fault TwitchAuthenticationControllerError) α

namespace TwitchAuthenticationController
open TwitchSessionOwner (OwnerCall maxNumber)

/-- The controller as `new` makes it, once nothing is shutting down. -/
def new : TwitchAuthenticationController where
  snapshot :=
    { state := .disconnected, login := none, userCode := none, verificationUri := none
      authorizationExpiresAt := none, accessExpiresAt := none, diagnostic := none, revision := 1
      shuttingDown := false }
  transaction := none
  draft := none
  authorization := none
  pending := none
  deferred := none
  schedule := none
  nextRequest := 1

section changes
variable (controller : TwitchAuthenticationController)

def reset : TwitchAuthenticationController :=
  { controller with
    draft := none, authorization := none, pending := none, deferred := none, schedule := none }

def clearPublic : TwitchAuthenticationController :=
  { controller with snapshot := { controller.snapshot with
      login := none, userCode := none, verificationUri := none
      authorizationExpiresAt := none, accessExpiresAt := none } }

def bump : TwitchAuthenticationController :=
  { controller with snapshot := { controller.snapshot with
      revision := saturatingSucc64 controller.snapshot.revision } }

/-- A new state, with what is wrong with it. -/
def withState (state : TwitchConnectionState)
    (diagnostic : Option TwitchAuthenticationControllerError) : TwitchAuthenticationController :=
  { controller with snapshot := { controller.snapshot with state, diagnostic } }

def adopt (transaction : TwitchSessionTransaction) : TwitchAuthenticationController :=
  { controller with
    transaction := some transaction.id, draft := some (.fromSession transaction.session) }

/-- Whether the draft is of a session that replaced the saved one. -/
def rotated : Bool := controller.draft.any (·.rotated)

def setConnected (connected : TwitchSessionOwnerSnapshot) (schedule : Schedule) :
    TwitchAuthenticationController :=
  let cleared := { controller with
    schedule := some { schedule with ownerRevision := connected.revision }
    draft := none, authorization := none, deferred := none }.clearPublic
  { cleared with snapshot := { cleared.snapshot with
      state := .connected, login := some connected.login
      accessExpiresAt := some connected.accessExpiresAt, diagnostic := none } }.bump

end changes

def ask (question : SignInQuestion) : SignIn question.Answer := Agent.ask question

def call (question : OwnerCall) : SignIn question.Answer := ask (.owner question)

def throw (error : TwitchAuthenticationControllerError) : SignIn α := Agent.fail (.failed error)

def change (next : TwitchAuthenticationController → TwitchAuthenticationController) :
    SignIn Unit := modify next

def steadyNow : SignIn Instant := do
  match ← ask .steadyNow with
  | none => Agent.fail .panicked
  | some now => pure now

def systemNow : SignIn SystemTime := do
  match ← ask .systemNow with
  | none => Agent.fail .panicked
  | some now => pure now

def running : SignIn Unit := do
  let controller ← get
  if controller.snapshot.shuttingDown then throw .shuttingDown
  else do
    let stopping ← ask .ownerStopping
    if stopping then throw .shuttingDown
    else match ← ask .configurationStopping with
      | none => throw .internal
      | some true => throw .shuttingDown
      | some false =>
        if maxNumber - 1 ≤ controller.snapshot.revision ∨ controller.nextRequest = maxNumber then
          throw .revisionExhausted
        else pure ()

def idleConnection : SignIn Unit := do
  running
  let controller ← get
  if controller.pending.isSome ∨ controller.transaction.isSome then throw .busy
  else if controller.snapshot.state ≠ .disconnected ∧ controller.snapshot.state ≠ .error then
    throw .invalidState
  else pure ()

def fail (error : TwitchAuthenticationControllerError) (erase : Bool) : SignIn α := do
  let controller ← get
  match controller.transaction with
  | none => do
    change fun controller => (controller.reset.clearPublic.withState .error (some error)).bump
    throw error
  | some id => do
    change ({ · with transaction := none })
    let closed ← call (.discard id erase)
    let error := match closed with
      | .error cleanup => if erase then .ofOwner cleanup else error
      | .ok () => error
    change fun controller => (controller.reset.clearPublic.withState .error (some error)).bump
    throw error

/-- A diagnostic of the owner comes first. -/
def endDisconnect (erased : Except TwitchSessionOwnerError Unit)
    (diagnostic : Option TwitchAuthenticationControllerError) : SignIn Unit := do
  let diagnostic := match erased with
    | .error error => some (.ofOwner error)
    | .ok () => diagnostic
  let state : TwitchConnectionState :=
    if diagnostic = some .sessionEraseFailed then .error else .disconnected
  change fun controller => (controller.reset.clearPublic.withState state diagnostic).bump
  match diagnostic with
  | none => pure ()
  | some error => throw error

/-- The record goes with the transaction. -/
def finishDisconnect (diagnostic : Option TwitchAuthenticationControllerError) : SignIn Unit := do
  let controller ← get
  match controller.transaction with
  | some id => do
    change ({ · with transaction := none })
    let erased ← call (.discard id true)
    endDisconnect erased diagnostic
  | none => do
    let erased ← call .eraseSaved
    endDisconnect erased diagnostic

def dispatch (phase : Phase) (command : TwitchAuthenticationCommand) : SignIn Unit := do
  let controller ← get
  if controller.pending.isSome ∨ controller.nextRequest = maxNumber then
    fail .revisionExhausted false
  else do
    let id := controller.nextRequest
    change ({ · with nextRequest := id + 1, pending := some { id, phase } })
    match ← ask (.enqueue { requestId := id, command }) with
    | .ok () => change fun controller => (controller.withState phase.state none).bump
    | .error _ =>
      if phase = .revoke then finishDisconnect (some .dispatchFailed)
      else fail .dispatchFailed controller.rotated

def dispatchCredentials (phase : Phase) : SignIn Unit := do
  let controller ← get
  match controller.draft with
  | none => fail .invalidState false
  | some draft => do
    change ({ · with draft := some { draft with credentials := none } })
    match draft.credentials with
    | none => fail .invalidState false
    | some credentials =>
      dispatch phase (if phase = .refresh then .refresh credentials else .validate credentials)

def beginConnection : SignIn Unit := do
  idleConnection
  match ← call .reserveNew with
  | .error error => throw (.ofOwner error)
  | .ok id => do
    change fun controller => { controller with transaction := some id }.clearPublic
    dispatch .start .start

def beginSavedConnection : SignIn Bool := do
  idleConnection
  match ← call .checkoutSaved with
  | .ok none => pure false
  | .error error => fail (.ofOwner error) false
  | .ok (some transaction) => do
    change fun controller => (controller.adopt transaction).clearPublic
    dispatchCredentials .validateSaved
    pure true

def makeSchedule (expiry : SystemTime) :
    SignIn (Except TwitchAuthenticationControllerError Schedule) := do
  let now ← steadyNow
  let today ← systemNow
  let remaining := (expiry.nanos - today.nanos).toNat
  match now.checkedAdd (.fromSecs 3600), now.checkedAdd (remaining - Duration.fromSecs 300) with
  | some validation, some refresh => pure (.ok { ownerRevision := 0, validation, refresh })
  | _, _ => pure (.error .invalidResult)

def publishConnected (connected : TwitchSessionOwnerSnapshot) : SignIn Unit := do
  match ← makeSchedule connected.accessExpiresAt with
  | .error error => fail error false
  | .ok schedule => change (·.setConnected connected schedule)

/-! What an answer of the worker comes to. -/

def durationValid (duration : Duration) : Bool :=
  duration != 0 && duration ≤ Duration.fromSecs 604800

def retryDelay (delay : Option Duration) : Duration :=
  (delay.filter fun value => value != 0 && value ≤ Duration.fromSecs 86400).getD
    (Duration.fromSecs 30)

def activationPage : List UInt8 := utf8 "https://www.twitch.tv/activate"

/-- The page of Twitch where the code is entered, with a query at most. -/
def uriValid (uri : List UInt8) : Bool :=
  uri.length ≤ 2048 && activationPage.isPrefixOf uri &&
    ((uri.drop activationPage.length).isEmpty ||
      (utf8 "?").isPrefixOf (uri.drop activationPage.length)) &&
    !(uri.any fun byte => (utf8 "@#\\").contains byte) &&
    uri.all fun byte => 0x21 ≤ byte && byte ≤ 0x7e

/-- `is_ascii_control`. -/
def isAsciiControl (byte : UInt8) : Bool := byte < 0x20 || byte == 0x7f

def deviceValid (device : TwitchDeviceAuthorization) : Bool :=
  validTwitchToken device.deviceCode && !(utf8 device.userCode).isEmpty &&
    (utf8 device.userCode).length ≤ 64 && !(utf8 device.userCode).any isAsciiControl &&
    uriValid (utf8 device.verificationUri) && durationValid device.expiresIn &&
    device.pollingInterval != 0 && device.pollingInterval ≤ Duration.fromSecs 300

def acceptDevice (device : TwitchDeviceAuthorization) : SignIn Unit :=
  if !deviceValid device then fail .invalidResult false
  else do
    let now ← steadyNow
    let today ← systemNow
    match now.checkedAdd device.expiresIn, now.checkedAdd device.pollingInterval,
      today.checkedAdd device.expiresIn with
    | some expires, some nextPoll, some absolute =>
      let authorization : Authorization :=
        { code := some device.deviceCode, expires, nextPoll, interval := device.pollingInterval }
      change fun controller =>
        let waiting := { controller with authorization := some authorization }.withState
          .awaitingUser none
        { waiting with snapshot := { waiting.snapshot with
            userCode := some device.userCode, verificationUri := some device.verificationUri
            authorizationExpiresAt := some absolute } }.bump
    | _, _, _ => fail .invalidResult false

def deferPoll (code : SecretValue) (retry : Option Duration) : SignIn Unit :=
  if !validTwitchToken code then fail .invalidResult false
  else do
    let now ← steadyNow
    let controller ← get
    match controller.authorization with
    | none => fail .invalidState false
    | some authorization =>
      match now.checkedAdd (max (retry.getD authorization.interval) authorization.interval) with
      | none => fail .invalidResult false
      | some deadline =>
        let authorization := { authorization with code := some code, nextPoll := deadline }
        change fun controller =>
          ({ controller with authorization := some authorization }.withState .awaitingUser
            (retry.map fun _ => .authenticationFailed)).bump

def credentials (grant : TwitchTokenGrant) :
    SignIn (Except TwitchAuthenticationControllerError TwitchCredentialSet) :=
  if !validTwitchToken grant.accessToken || !validTwitchToken grant.refreshToken ||
      grant.scopes != [twitchChatScope] || !durationValid grant.expiresIn then
    pure (.error .invalidResult)
  else do
    let today ← systemNow
    match today.checkedAdd grant.expiresIn with
    | none => pure (.error .invalidResult)
    | some accessExpiresAt =>
      pure (.ok { accessToken := grant.accessToken, refreshToken := grant.refreshToken
                  accessExpiresAt })

/-- A grant for a new sign-in. Whose it is shows when it is validated. -/
def acceptGrant (grant : TwitchTokenGrant) : SignIn Unit := do
  change fun controller => { controller with authorization := none }.clearPublic
  match ← credentials grant with
  | .error error => fail error false
  | .ok credentials => do
    let draft : Draft := { credentials := some credentials, identity := none, rotated := false }
    change ({ · with draft := some draft })
    dispatchCredentials .validateInitial

/-- The session that was validated goes to its owner. -/
def commitValidated (draft : Draft) (session : TwitchSession) : SignIn Unit := do
  let controller ← get
  match controller.transaction with
  | none => fail .invalidState false
  | some id => do
    match ← makeSchedule session.credentials.accessExpiresAt with
    | .error error => fail error draft.rotated
    | .ok schedule => match ← call (.commit id session) with
      | .error error => fail (.ofOwner error) draft.rotated
      | .ok connected =>
        change fun controller =>
          { controller with transaction := none }.setConnected connected schedule

def acceptValidation (credentials : TwitchCredentialSet) (identity : TwitchValidatedIdentity) :
    SignIn Unit := do
  let controller ← get
  match controller.draft with
  | none => fail .invalidState false
  | some draft =>
    if draft.identity.any fun (userId, _) => userId != identity.userId then
      fail .identityMismatch true
    else if !durationValid identity.expiresIn then fail .invalidResult true
    else do
      let today ← systemNow
      match today.checkedAdd identity.expiresIn with
      | none => fail .invalidResult true
      | some accessExpiresAt =>
        let session : TwitchSession := {
          credentials := { credentials with accessExpiresAt }
          userId := identity.userId, login := identity.login, scopes := identity.scopes }
        match encodeTwitchSession session with
        | .error _ => fail .invalidResult true
        | .ok _ => commitValidated draft session

/-- A grant for the session at hand. It is saved before it is validated. -/
def acceptRotation (grant : TwitchTokenGrant) : SignIn Unit := do
  let controller ← get
  match controller.draft with
  | none => fail .invalidState true
  | some draft => do
    change ({ · with draft := some { draft with rotated := true } })
    match draft.identity with
    | none => fail .invalidState true
    | some (userId, login) => match ← credentials grant with
      | .error error => fail error true
      | .ok credentials =>
        let session : TwitchSession := { credentials, userId, login, scopes := [twitchChatScope] }
        match controller.transaction with
        | none => fail .invalidState true
        | some id => match ← call (.persistPending id session) with
          | .error error => fail (.ofOwner error) true
          | .ok () => do
            change ({ · with draft := some { Draft.fromSession session with rotated := true } })
            dispatchCredentials .validateRotated

def mapped (error : TwitchError) : TwitchAuthenticationControllerError :=
  match error.disposition with
  | .cancelled => .authenticationCancelled
  | .reconnect => .reconnectRequired
  | _ => .authenticationFailed

/-- Whether the saved session is given up with the transaction. -/
def erases (phase : Phase) : Bool := phase = .refresh || phase = .validateRotated

/-- A step that failed gave its credentials back. -/
def retryCredentials (phase : Phase) (error : TwitchError) (credentials : TwitchCredentialSet) :
    SignIn Unit := do
  let controller ← get
  match controller.draft with
  | none => fail .invalidState false
  | some draft =>
    if !validTwitchToken credentials.accessToken || !validTwitchToken credentials.refreshToken then
      fail .invalidResult true
    else do
      change ({ · with draft := some { draft with credentials := some credentials } })
      if error.disposition = .retry then do
        let now ← steadyNow
        match now.checkedAdd (retryDelay error.retryAfter) with
        | none => fail .invalidResult false
        | some deadline =>
          change fun controller => ({ controller with deferred := some (phase, deadline) }.withState
            phase.state (some (mapped error))).bump
      else if error.disposition = .reconnect ∧ (phase = .validateSaved ∨ phase = .validateActive)
      then dispatchCredentials .refresh
      else fail (mapped error) (erases phase)

def handleFailure (phase : Phase) (error : TwitchError)
    (retained : Option TwitchAuthenticationSecret) : SignIn Unit :=
  if phase = .revoke then finishDisconnect (some .authenticationFailed)
  else if phase = .poll ∧ error.disposition = .retry then
    match retained with
    | some (.deviceCode code) => deferPoll code (some (retryDelay error.retryAfter))
    | _ => fail .invalidResult false
  else if phase.hasCredentials then
    match retained with
    | some (.credentials credentials) => retryCredentials phase error credentials
    | _ => fail .invalidResult (erases phase)
  else fail (mapped error) (erases phase)

def handleSuccess : Phase → TwitchAuthenticationSuccess → SignIn Unit
  | .start, .started device => acceptDevice device
  | .poll, .pending deviceCode => deferPoll deviceCode none
  | .poll, .granted grant => acceptGrant grant
  | .validateInitial, .validated credentials identity
  | .validateSaved, .validated credentials identity
  | .validateActive, .validated credentials identity
  | .validateRotated, .validated credentials identity => acceptValidation credentials identity
  | .refresh, .refreshed grant => acceptRotation grant
  | .revoke, .revoked => finishDisconnect none
  | .revoke, _ => finishDisconnect (some .invalidResult)
  | phase, _ => fail .invalidResult (phase = .validateRotated)

/-- An answer that does not fit its request. -/
def refuseResult (phase : Phase) : SignIn Unit := do
  if phase = .revoke then finishDisconnect (some .invalidResult)
  fail .invalidResult (phase = .validateRotated)

/-- The answer to the request that is under way. -/
def handleAwaited (phase : Phase) (result : TwitchAuthenticationResult) : SignIn Unit :=
  if phase.operation ≠ result.operation then refuseResult phase
  else match result.outcome with
    | .error error => handleFailure phase error result.retained
    | .ok success =>
      if result.retained.isSome then refuseResult phase else handleSuccess phase success

/-- Any other answer is ignored. -/
def handleResult (result : TwitchAuthenticationResult) : SignIn Bool := do
  let controller ← get
  match controller.pending with
  | none => throw .staleResult
  | some pending =>
    if pending.id ≠ result.requestId then throw .staleResult
    else do
      change ({ · with pending := none })
      handleAwaited pending.phase result
      pure true

/-- Once the owner is known to hold a session. -/
def tickActive (now : Instant) (active : TwitchSessionOwnerSnapshot) (schedule : Schedule) :
    SignIn Bool := do
  let controller ← get
  if controller.snapshot.state ≠ .connected ∧ schedule.ownerRevision = active.revision then do
    -- A recovery that failed did not validate anything, so the deadlines stay.
    change (·.setConnected active schedule)
    pure true
  else if controller.snapshot.state ≠ .connected ∨ schedule.ownerRevision ≠ active.revision then do
    publishConnected active
    pure true
  else if now.nanos < schedule.refresh.nanos ∧ now.nanos < schedule.validation.nanos then pure false
  else match ← call .checkoutActive with
    | .error .busy => pure false
    | .error error => fail (.ofOwner error) false
    | .ok transaction => do
      change fun controller => (controller.adopt transaction).clearPublic
      dispatchCredentials (if schedule.refresh.nanos ≤ now.nanos then .refresh else .validateActive)
      pure true

/-- A chat recovery may have the session for a while. -/
def hideIdentity : SignIn Bool := do
  let controller ← get
  if controller.snapshot.state = .validating then pure false
  else do
    change fun controller => { controller with snapshot := { controller.snapshot with
      state := .validating, login := none, accessExpiresAt := none } }.bump
    pure true

def tickSchedule (now : Instant) : SignIn Bool := do
  let controller ← get
  match controller.schedule with
  | none => pure false
  | some schedule =>
    if controller.snapshot.state ≠ .connected ∧ controller.snapshot.state ≠ .validating then
      pure false
    else match ← call .connectionState with
      | .disconnected => fail .reconnectRequired false
      | .shuttingDown => fail .shuttingDown false
      | .updating => hideIdentity
      | .connected active => tickActive now active schedule

/-- Nothing is awaited. -/
def tickIdle (now : Instant) : SignIn Bool := do
  let controller ← get
  match controller.deferred, controller.authorization with
  | some (phase, deadline), _ =>
    if now.nanos < deadline.nanos then pure false
    else do
      change ({ · with deferred := none })
      dispatchCredentials phase
      pure true
  | none, some authorization =>
    if now.nanos < authorization.nextPoll.nanos then pure false
    else do
      change ({ · with authorization := some { authorization with code := none } })
      match authorization.code with
      | none => fail .invalidState false
      | some deviceCode => do
        dispatch .poll (.poll deviceCode)
        pure true
  | none, none => tickSchedule now

def tickInner : SignIn Bool := do
  let now ← steadyNow
  let controller ← get
  -- A poll under way may still succeed, but a late grant is not taken.
  if controller.authorization.any fun authorization => authorization.expires.nanos ≤ now.nanos then
    fail .authorizationExpired false
  else match ← ask .tryTakeResult with
    | none => Agent.fail .panicked
    | some (some result) => handleResult result
    | some none => if controller.pending.isSome then pure false else tickIdle now

def tick : SignIn Bool := do
  running
  match ← (Agent.attempt tickInner : SignIn (Except (Fault TwitchAuthenticationControllerError) Bool)) with
  | .ok changed => pure changed
  | .error (.failed error) => throw error
  | .error .panicked => do
    let controller ← get
    if controller.snapshot.state = .disconnecting then do
      finishDisconnect (some .internal)
      pure true
    else fail .internal controller.rotated

def disablePosting : SignIn Unit := do
  match ← ask .disablePosting with
  | some (.ok ()) => pure ()
  | _ => throw .settingsSaveFailed

/-- The session that is to be revoked, if there is one that can be read. -/
def checkoutForDisconnect : SignIn (Option TwitchSessionTransaction) := do
  match ← call .checkoutActive with
  | .ok transaction => pure (some transaction)
  | .error .notConnected => match ← call .checkoutSaved with
    | .ok transaction => pure transaction
    | .error .decodeFailed => pure none
    | .error error => throw (.ofOwner error)
  | .error error => throw (.ofOwner error)

def adoptForDisconnect : SignIn Unit := do
  let controller ← get
  if controller.transaction.isSome then pure ()
  else do
    match ← checkoutForDisconnect with
    | none => pure ()
    | some transaction => change (·.adopt transaction)

/-- The tokens of the draft are revoked, if they are at hand. -/
def revoke : SignIn Unit := do
  let controller ← get
  match controller.draft with
  | none => finishDisconnect none
  | some draft => do
    change ({ · with draft := some { draft with credentials := none } })
    match draft.credentials with
    | none => finishDisconnect none
    | some credentials => dispatch .revoke (.revoke credentials.accessToken)

def disconnect : SignIn Unit := do
  running
  let controller ← get
  if controller.pending.isSome then throw .busy
  else do
    disablePosting
    change ({ · with authorization := none, deferred := none })
    adoptForDisconnect
    change (·.clearPublic)
    revoke

/-- What `finishDisconnect` reports is all that is kept of it. -/
def disconnectError : SignIn (Option TwitchAuthenticationControllerError) := do
  let controller ← get
  if controller.snapshot.state ≠ .disconnecting then pure none
  else match ← (Agent.attempt (finishDisconnect none) :
      SignIn (Except (Fault TwitchAuthenticationControllerError) Unit)) with
    | .ok () => pure none
    | .error (.failed error) => pure (some error)
    | .error .panicked => Agent.fail .panicked

def shutdown : SignIn Unit := do
  let controller ← get
  if controller.snapshot.shuttingDown then pure ()
  else do
    let error ← disconnectError
    -- The transactions end first, so that a late answer cannot be shown.
    call .shutdown
    change fun controller =>
      let closed := { controller with transaction := none }.reset.clearPublic.withState
        .shuttingDown error
      { closed with snapshot := { closed.snapshot with shuttingDown := true } }.bump
    ask .cancelPending

end TwitchAuthenticationController
end MannyUploader.Application
