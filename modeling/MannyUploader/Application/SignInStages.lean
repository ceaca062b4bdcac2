import MannyUploader.Application.SessionLedger
import MannyUploader.Application.TwitchAuthenticationController

/-! The stages of a sign-in, and what may be asked in them. What was asked and answered tells
which transaction is open, which answer is awaited and when the next poll is due. -/
namespace MannyUploader.Application
open Domain Foundation

namespace TwitchAuthenticationController
open TwitchSessionOwner (OwnerEntry opened maxNumber)

/-- The transaction is over, whether the store went along or not. -/
def closes : OwnerEntry → Bool
  | ⟨.commit _ _, .ok _⟩ => true
  | ⟨.discard _ _, _⟩ => true
  | ⟨.shutdown, _⟩ => true
  | _ => false

/-- The record may be replaced before the new session was validated. -/
def replaces : OwnerEntry → Bool
  | ⟨.persistPending _ _, _⟩ => true
  | _ => false

/-- The session that the owner says it holds. -/
def connects : OwnerEntry → Option TwitchSessionOwnerSnapshot
  | ⟨.commit _ _, .ok snapshot⟩ => some snapshot
  | ⟨.connectionState, .connected snapshot⟩ => some snapshot
  | _ => none

/-- What the questions and answers tell of a sign-in. The device was `started` at the first
reading of the clock after it was answered, and an answer is dealt with at the first reading
after it was taken. An error may have `postponed` the next attempt. What the owner was `seen` to
hold stands newest first. -/
structure Told where
  held : Option UInt64 := none
  replaced : Bool := false
  seen : List TwitchSessionOwnerSnapshot := []
  requested : UInt64 := 0
  awaiting : Bool := false
  now : Option Instant := none
  device : Option TwitchDeviceAuthorization := none
  started : Option Instant := none
  answered : Option Instant := none
  postponed : Duration := 0
deriving DecidableEq

/-- How long an answer asks to wait before the next attempt, as the controller takes it. -/
def postpones (result : TwitchAuthenticationResult) : Duration :=
  match result.outcome with
  | .error error => if error.disposition = .retry then retryDelay error.retryAfter else 0
  | .ok _ => 0

namespace Told

def attend (told : Told) (entry : OwnerEntry) : Told :=
  { told with
    held := match opened entry with
      | some (id, _) => some id
      | none => if closes entry then none else told.held
    replaced := (opened entry).isNone && (told.replaced || replaces entry)
    seen := (connects entry).toList ++ told.seen }

def read (told : Told) (now : Instant) : Told :=
  { told with
    now := some now
    started := told.started.or (told.device.map fun _ => now)
    answered := told.answered.or (some now) }

def take (told : Told) (result : TwitchAuthenticationResult) : Told :=
  if told.awaiting && result.requestId = told.requested then
    let told := { told with awaiting := false, answered := none, postponed := postpones result }
    match result.operation, result.outcome with
    | .start, .ok (.started device) => { told with device := some device, started := none }
    | _, _ => told
  else told

def send (told : Told) (request : TwitchAuthenticationRequest) (accepted : Bool) : Told :=
  { told with requested := request.requestId, awaiting := accepted }

def note (told : Told) : ((question : SignInQuestion) × question.Answer) → Told
  | ⟨.owner call, answer⟩ => told.attend ⟨call, answer⟩
  | ⟨.enqueue request, .ok _⟩ => told.send request true
  | ⟨.enqueue request, .error _⟩ => told.send request false
  | ⟨.steadyNow, some now⟩ => told.read now
  | ⟨.tryTakeResult, some (some result)⟩ => told.take result
  | _ => told

/-- The interval that the server asked for has passed since the last answer was dealt with, as
well as what that answer asked for, and the device code still stands. -/
def Due (told : Told) : Prop :=
  ∃ device started answered now, told.device = some device ∧ told.started = some started ∧
    told.answered = some answered ∧ told.now = some now ∧
    answered.nanos + max told.postponed device.pollingInterval ≤ now.nanos ∧
    now.nanos < started.nanos + device.expiresIn

/-- The clock is within a day of the last instant there is. -/
def Late (told : Told) : Prop :=
  ∃ now, told.now = some now ∧ now.checkedAdd (Duration.fromSecs 86400) = none

/-- What may be asked. A request is sent for the open transaction only, and a record that was
replaced does not outlive a transaction that is given up. -/
def Allows (told : Told) : SignInQuestion → Prop
  | .owner .reserveNew | .owner .checkoutSaved | .owner .checkoutActive | .owner .eraseSaved
  | .owner .connectionState => told.held = none
  | .owner (.persistPending id _) | .owner (.commit id _) => told.held = some id
  | .owner (.discard id erase) => told.held = some id ∧ (told.replaced = true → erase = true ∨ told.Late)
  | .owner .shutdown => True
  | .owner _ => False
  | .enqueue request => request.requestId.toNat = told.requested.toNat + 1 ∧
      told.held.isSome = true ∧ ∀ code, request.command = .poll code → told.Due
  | _ => True

end Told

/-! The stages of the controller. -/

/-- Nothing of a session is shown, and no code. -/
def Blank (snapshot : TwitchConnectionSnapshot) : Prop :=
  snapshot.login = none ∧ snapshot.userCode = none ∧ snapshot.verificationUri = none ∧
    snapshot.authorizationExpiresAt = none ∧ snapshot.accessExpiresAt = none

/-- The code that the user is to enter, and where. -/
def CodeShown (snapshot : TwitchConnectionSnapshot) : Prop :=
  snapshot.userCode.isSome = true ∧ snapshot.verificationUri.isSome = true ∧
    snapshot.authorizationExpiresAt.isSome = true

structure Clear (controller : TwitchAuthenticationController) : Prop where
  transaction : controller.transaction = none
  draft : controller.draft = none
  authorization : controller.authorization = none
  pending : controller.pending = none
  deferred : controller.deferred = none

/-- The answer to the last request is awaited. -/
def Awaits (told : Told) (controller : TwitchAuthenticationController) (phase : Phase) : Prop :=
  controller.pending = some ⟨told.requested, phase⟩ ∧ told.awaiting = true

/-- The deadlines of a code are those that the server set. -/
structure Paced (told : Told) (authorization : Authorization) : Prop where
  device : ∃ device, told.device = some device ∧ authorization.interval = device.pollingInterval ∧
    ∃ started, told.started = some started ∧
      authorization.expires.nanos = started.nanos + device.expiresIn

/-- No answer is awaited, and the next poll waits for the interval, or longer. -/
def Rested (told : Told) (authorization : Authorization) : Prop :=
  told.awaiting = false ∧ ∃ answered, told.answered = some answered ∧
    answered.nanos + max told.postponed authorization.interval ≤ authorization.nextPoll.nanos

/-- A session is being checked, or waits to be checked again. -/
inductive Waits (told : Told) (controller : TwitchAuthenticationController) (phase : Phase)
    (draft : Draft) : Prop
  | sent (awaits : Awaits told controller phase) (gone : draft.credentials = none)
      (at' : controller.deferred = none)
  | later (idle : controller.pending = none) (kept : draft.credentials.isSome = true)
      (deadline : Instant) (at' : controller.deferred = some (phase, deadline))

inductive Stage (told : Told) (controller : TwitchAuthenticationController) : Prop
  | resting (state : controller.snapshot.state = .disconnected ∨ controller.snapshot.state = .error)
      (clear : Clear controller) (unscheduled : controller.schedule = none)
      (blank : Blank controller.snapshot)
  | starting (state : controller.snapshot.state = .starting) (held : told.held.isSome = true)
      (fresh : told.replaced = false) (awaits : Awaits told controller .start)
      (draft : controller.draft = none) (authorization : controller.authorization = none)
      (deferred : controller.deferred = none) (blank : Blank controller.snapshot)
  | awaitingUser (state : controller.snapshot.state = .awaitingUser)
      (held : told.held.isSome = true) (fresh : told.replaced = false)
      (authorization : Authorization) (present : controller.authorization = some authorization)
      (paced : Paced told authorization)
      (waits : authorization.code.isSome = true ∧ controller.pending = none ∧
          Rested told authorization ∨
        authorization.code = none ∧ Awaits told controller .poll)
      (draft : controller.draft = none) (deferred : controller.deferred = none)
      (login : controller.snapshot.login = none)
      (access : controller.snapshot.accessExpiresAt = none)
      (shown : CodeShown controller.snapshot)
  | checking (phase : Phase) (carries : phase.hasCredentials = true)
      (state : controller.snapshot.state = phase.state) (held : told.held.isSome = true)
      (draft : Draft) (present : controller.draft = some draft)
      (replaced : told.replaced = true → draft.rotated = true)
      (rotates : told.replaced = true → phase = .validateRotated)
      (authorization : controller.authorization = none)
      (waits : Waits told controller phase draft) (blank : Blank controller.snapshot)
  | hidden (state : controller.snapshot.state = .validating) (clear : Clear controller)
      (scheduled : controller.schedule.isSome = true) (blank : Blank controller.snapshot)
  | connected (state : controller.snapshot.state = .connected) (clear : Clear controller)
      (schedule : Schedule) (scheduled : controller.schedule = some schedule)
      (owner : TwitchSessionOwnerSnapshot) (seen : owner ∈ told.seen)
      (newest : told.seen.head?.map (·.revision) = some owner.revision)
      (revision : schedule.ownerRevision = owner.revision)
      (login : controller.snapshot.login = some owner.login)
      (access : controller.snapshot.accessExpiresAt = some owner.accessExpiresAt)
      (userCode : controller.snapshot.userCode = none)
      (verificationUri : controller.snapshot.verificationUri = none)
      (authorizationExpiresAt : controller.snapshot.authorizationExpiresAt = none)
  | disconnecting (state : controller.snapshot.state = .disconnecting)
      (held : told.held.isSome = true) (awaits : Awaits told controller .revoke)
      (authorization : controller.authorization = none)
      (deferred : controller.deferred = none) (blank : Blank controller.snapshot)
  | shut (state : controller.snapshot.state = .shuttingDown) (clear : Clear controller)
      (blank : Blank controller.snapshot)

/-- Between two calls. -/
structure Coherent (told : Told) (controller : TwitchAuthenticationController) : Prop where
  held : controller.transaction = told.held
  numbers : controller.nextRequest.toNat = told.requested.toNat + 1
  closed : controller.snapshot.shuttingDown = true ↔ controller.snapshot.state = .shuttingDown
  stage : Stage told controller

/-- What was shown before is shown still, or under a greater revision. -/
def Moved (before : TwitchConnectionSnapshot) (controller : TwitchAuthenticationController) : Prop :=
  controller.snapshot = before ∨ before.revision < controller.snapshot.revision ∨
    before.revision = maxNumber

/-- In the midst of a call that found the controller running. -/
structure Working (before : TwitchConnectionSnapshot) (told : Told)
    (controller : TwitchAuthenticationController) : Prop where
  held : controller.transaction = told.held
  numbers : controller.nextRequest.toNat = told.requested.toNat + 1
  running : controller.snapshot.shuttingDown = false
  past : before.revision ≤ controller.snapshot.revision

/-- At the end of a call. -/
structure Settled (before : TwitchConnectionSnapshot) (told : Told)
    (controller : TwitchAuthenticationController) : Prop where
  coherent : Coherent told controller
  moved : Moved before controller

/-- Without the clock and the answers of the worker nothing panics. -/
def Ended (before : TwitchConnectionSnapshot) (fault : Fault TwitchAuthenticationControllerError)
    (controller : TwitchAuthenticationController) (told : Told) : Prop :=
  match fault with
  | .failed _ => Settled before told controller
  | .panicked => False

/-- A panic gives the record up with the transaction, where it was replaced. -/
def Secured (told : Told) (controller : TwitchAuthenticationController) : Prop :=
  told.held.isSome = true → told.replaced = true →
    controller.rotated = true ∨ controller.snapshot.state = .disconnecting

/-- An answer was taken and not dealt with yet. -/
def Unread (told : Told) : Prop := told.answered = none ∧ told.awaiting = false

/-- A panic is caught by the tick, which gives the transaction up. -/
def Lost (before : TwitchConnectionSnapshot) (fault : Fault TwitchAuthenticationControllerError)
    (controller : TwitchAuthenticationController) (told : Told) : Prop :=
  match fault with
  | .failed _ => Settled before told controller
  | .panicked => Working before told controller ∧ Secured told controller

abbrev Does (before : TwitchConnectionSnapshot)
    (post : α → TwitchAuthenticationController → Told → Prop)
    (controller : TwitchAuthenticationController) (told : Told) (step : SignIn α) : Prop :=
  Agent.Acts Told.note Told.Allows post (Lost before) controller told step

abbrev Finishes (before : TwitchConnectionSnapshot)
    (post : α → TwitchAuthenticationController → Told → Prop)
    (controller : TwitchAuthenticationController) (told : Told) (step : SignIn α) : Prop :=
  Agent.Acts Told.note Told.Allows post (Ended before) controller told step

end TwitchAuthenticationController
end MannyUploader.Application
