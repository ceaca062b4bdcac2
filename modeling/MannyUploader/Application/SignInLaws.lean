import MannyUploader.Application.SignInCalls
import MannyUploader.Application.TwitchSessionLaws
import MannyUploader.Foundation.Runs

/-! What holds of a sign-in over every run of its calls, whatever the worker, the owner and the
clock answer. -/
namespace MannyUploader.Application
open Domain Foundation

/-- The calls of the controller. What they return is left out. -/
inductive SignInCall
  | beginConnection | beginSavedConnection | tick | disconnect | shutdown
deriving DecidableEq, Repr

abbrev SignInExchange := Dialogue.Exchange SignInQuestion SignInQuestion.Answer

abbrev SignInRest := Dialogue SignInQuestion SignInQuestion.Answer
  (Fault TwitchAuthenticationControllerError × TwitchAuthenticationController)
  (Unit × TwitchAuthenticationController)

namespace TwitchAuthenticationController
open TwitchSessionOwner (OwnerCall OwnerEntry opened maxNumber)

def perform : SignInCall → SignIn Unit
  | .beginConnection => beginConnection
  | .beginSavedConnection => do let _ ← beginSavedConnection
  | .tick => do let _ ← tick
  | .disconnect => disconnect
  | .shutdown => shutdown

/-- Between two calls, or in the midst of one. -/
inductive Place
  | idle (controller : TwitchAuthenticationController)
  | busy (before : TwitchConnectionSnapshot) (rest : SignInRest)

structure SignInRun where
  past : SignInExchange
  place : Place

namespace SignInRun

def new : SignInRun := ⟨[], .idle .new⟩

/-- Any question may be answered in any way. -/
inductive Step : SignInRun → SignInRun → Prop
  | calls {past : SignInExchange} (call : SignInCall) :
      Step ⟨past, .idle controller⟩ ⟨past, .busy controller.snapshot (perform call controller)⟩
  | asks {past : SignInExchange} {question : SignInQuestion} {next : question.Answer → SignInRest}
      (answer : question.Answer) : Step ⟨past, .busy before (.ask question next)⟩
        ⟨past ++ [⟨question, answer⟩], .busy before (next answer)⟩
  | returns {past : SignInExchange} :
      Step ⟨past, .busy before (.done ((), controller))⟩ ⟨past, .idle controller⟩
  | fails {past : SignInExchange} :
      Step ⟨past, .busy before (.fail (.failed error, controller))⟩ ⟨past, .idle controller⟩

def told (past : SignInExchange) : Told := past.foldl Told.note {}

@[simp] theorem told_snoc (past : SignInExchange)
    (entry : (question : SignInQuestion) × question.Answer) :
    told (past ++ [entry]) = (told past).note entry := by
  simp [told]

/-- What is left of a call keeps to the protocol. -/
def Lawful (run : SignInRun) : Prop :=
  match run.place with
  | .idle controller => Coherent (told run.past) controller
  | .busy before rest => Dialogue.Follows Told.note Told.Allows
      (fun later out => Settled before later out.2)
      (fun later lost => Ended before lost.1 lost.2 later) (told run.past) rest

end SignInRun

theorem coherent_new : Coherent {} new where
  held := rfl
  numbers := by decide
  closed := by decide
  stage := .resting (.inl rfl) ⟨rfl, rfl, rfl, rfl, rfl⟩ rfl ⟨rfl, rfl, rfl, rfl, rfl⟩

theorem finishes_perform {told : Told} {controller : TwitchAuthenticationController}
    (coherent : Coherent told controller) (call : SignInCall) : Finishes controller.snapshot
      (fun _ after later => Settled controller.snapshot later after) controller told
      (perform call) := by
  cases call with
  | beginConnection => exact finishes_beginConnection coherent
  | beginSavedConnection =>
    apply Agent.Acts.bind _ (finishes_beginSavedConnection coherent)
    exact fun _ _ _ reached => reached
  | tick =>
    apply Agent.Acts.bind _ (finishes_tick coherent)
    exact fun _ _ _ reached => reached
  | disconnect => exact finishes_disconnect coherent
  | shutdown => exact finishes_shutdown coherent

namespace SignInRun
variable {run run' : SignInRun}

theorem Lawful.step (lawful : Lawful run) (step : Step run run') : Lawful run' := by
  cases step with
  | calls call => exact finishes_perform lawful call
  | asks answer =>
    change Dialogue.Follows _ _ _ _ (told (_ ++ [_])) _
    rw [told_snoc]
    exact lawful.2 answer
  | returns => exact Settled.coherent lawful
  | fails => exact Settled.coherent lawful

/-- A call goes on as the protocol allows, and none ends in a panic. -/
theorem lawful_of_reached (reached : Relation.ReflTransGen Step new run) : Lawful run :=
  invariant_of_moves reached (fun _ _ step lawful => lawful.step step) coherent_new

/-- Each question was allowed when it was asked. -/
theorem allowed_of_reached (reached : Relation.ReflTransGen Step new run) :
    EachAfter (fun past entry => (told past).Allows entry.1) run.past := by
  suffices both : Lawful run ∧ EachAfter (fun past entry => (told past).Allows entry.1) run.past
    from both.2
  apply invariant_of_moves reached _ ⟨coherent_new, eachAfter_nil⟩
  rintro before after step ⟨lawful, allowed⟩
  refine ⟨lawful.step step, ?_⟩
  cases step with
  | calls call => exact allowed
  | asks answer => exact eachAfter_snoc allowed lawful.1
  | returns => exact allowed
  | fails => exact allowed

def enqueues : ((question : SignInQuestion) × question.Answer) → Bool
  | ⟨.enqueue _, _⟩ => true
  | _ => false

theorem note_requested (earlier : Told) (entry : (question : SignInQuestion) × question.Answer)
    (other : enqueues entry = false) : (earlier.note entry).requested = earlier.requested := by
  unfold Told.note
  split
  · rfl
  · cases other
  · cases other
  · rfl
  · exact take_requested
  · rfl

/-- The requests are numbered one after the other. -/
theorem requested_count {past : SignInExchange}
    (allowed : EachAfter (fun past entry => (told past).Allows entry.1) past) :
    (told past).requested.toNat = past.countP enqueues := by
  induction past using List.reverseRecOn with
  | nil => rfl
  | append_singleton past entry ih =>
    have before := ih fun earlier found later same =>
      allowed earlier found (later ++ [entry]) (by simp [same])
    have here := allowed past entry [] rfl
    rw [told_snoc, List.countP_append, List.countP_singleton, ← before]
    by_cases asks : enqueues entry = true
    · rw [if_pos asks]
      obtain ⟨question, answer⟩ := entry
      cases question with
      | enqueue request => cases answer <;> exact here.1
      | _ => cases asks
    · rw [if_neg asks]
      congr 1
      exact note_requested _ entry (by simpa using asks)

/-- Requests are numbered from one, and are sent for an open transaction only. The code of a
device is polled only once the interval of the server has passed since the last answer was dealt
with, and only while the code is valid. -/
theorem requests_paced (reached : Relation.ReflTransGen Step new run) :
    EachAfter (fun past entry => ∀ request, entry.1 = .enqueue request →
      request.requestId.toNat = past.countP enqueues + 1 ∧ (told past).held.isSome = true ∧
        ∀ code, request.command = .poll code → (told past).Due) run.past := by
  intro past entry later same request asked
  have allowed := allowed_of_reached reached
  have here : (told past).Allows entry.1 := allowed past entry later same
  rw [asked] at here
  obtain ⟨number, held, due⟩ := here
  refine ⟨?_, held, due⟩
  rw [number, requested_count]
  intro earlier found rest split
  exact allowed earlier found (rest ++ entry :: later) (by rw [same, split]; simp)

theorem of_reaches {before : TwitchConnectionSnapshot} {rest rest' : SignInRest}
    {past said : SignInExchange} (reaches : Dialogue.Reaches rest said rest') :
    Relation.ReflTransGen Step ⟨past, .busy before rest⟩ ⟨past ++ said, .busy before rest'⟩ := by
  induction reaches generalizing past with
  | nil => rw [List.append_nil]
  | @cons question next said rest answer _ ih =>
    apply Relation.ReflTransGen.head (.asks answer)
    rw [List.append_cons past _ said]
    exact ih

/-- A call from its begin to its end. -/
theorem of_call (call : SignInCall) {controller after : TwitchAuthenticationController}
    {past said : SignInExchange}
    (reaches : Dialogue.Reaches (perform call controller) said (.done ((), after))) :
    Relation.ReflTransGen Step ⟨past, .idle controller⟩ ⟨past ++ said, .idle after⟩ :=
  .tail (.head (.calls call) (of_reaches reaches)) .returns

/-- A code of ten seconds, to be polled every second. -/
def sampleDevice : TwitchDeviceAuthorization where
  deviceCode := [100]
  userCode := "A"
  verificationUri := "https://www.twitch.tv/activate"
  expiresIn := Duration.fromSecs 10
  pollingInterval := Duration.fromSecs 1

def sampleRunning : SignInExchange := [⟨.ownerStopping, false⟩, ⟨.configurationStopping, some false⟩]

def sampleBegin : SignInExchange :=
  sampleRunning ++ [⟨.owner .reserveNew, .ok 1⟩, ⟨.enqueue ⟨1, .start⟩, .ok ()⟩]

def sampleStarted : SignInExchange :=
  sampleRunning ++ [⟨.steadyNow, some ⟨0⟩⟩,
    ⟨.tryTakeResult, some (some ⟨1, .start, .ok (.started sampleDevice), none⟩)⟩,
    ⟨.steadyNow, some ⟨0⟩⟩, ⟨.systemNow, some .unixEpoch⟩]

def samplePolled : SignInExchange :=
  sampleRunning ++ [⟨.steadyNow, some ⟨1_000_000_000⟩⟩, ⟨.tryTakeResult, some none⟩,
    ⟨.enqueue ⟨2, .poll [100]⟩, .ok ()⟩]

/-- The server is busy, and asks for five seconds. -/
def sampleBusy : TwitchError :=
  { TwitchError.failed .poll .httpStatus with
    disposition := .retry, retryAfter := some (Duration.fromSecs 5) }

def sampleDelayed : SignInExchange :=
  sampleRunning ++ [⟨.steadyNow, some ⟨2_000_000_000⟩⟩,
    ⟨.tryTakeResult, some (some ⟨2, .poll, .error sampleBusy, some (.deviceCode [100])⟩)⟩,
    ⟨.steadyNow, some ⟨2_000_000_000⟩⟩]

def sampleRepeated : SignInExchange :=
  sampleRunning ++ [⟨.steadyNow, some ⟨7_000_000_000⟩⟩, ⟨.tryTakeResult, some none⟩,
    ⟨.enqueue ⟨3, .poll [100]⟩, .ok ()⟩]

def sampleWaiting : SignInExchange :=
  sampleBegin ++ sampleStarted ++ samplePolled ++ sampleDelayed

/-- The code was polled for the second time. -/
def samplePolling : TwitchAuthenticationController :=
  { TwitchAuthenticationController.new with
    snapshot := { TwitchAuthenticationController.new.snapshot with
      state := .awaitingUser, userCode := some "A", revision := 6
      verificationUri := some "https://www.twitch.tv/activate"
      authorizationExpiresAt := SystemTime.unixEpoch.checkedAdd (Duration.fromSecs 10) }
    transaction := some 1
    authorization := some
      { code := none, expires := ⟨10_000_000_000⟩, nextPoll := ⟨7_000_000_000⟩
        interval := Duration.fromSecs 1 }
    pending := some { id := 3, phase := .poll }
    nextRequest := 4 }

theorem samplePolling_reached : Relation.ReflTransGen Step new
    ⟨sampleWaiting ++ sampleRepeated, .idle samplePolling⟩ := by
  refine .trans (.trans (.trans (.trans (@of_call .beginConnection _ ?begun [] _ ?first)
    (@of_call .tick ?begun ?started _ _ ?second)) (@of_call .tick ?started ?polled _ _ ?third))
    (@of_call .tick ?polled ?delayed _ _ ?fourth)) (@of_call .tick ?delayed samplePolling _ _ ?fifth)
  case first =>
    iterate 4 apply Dialogue.Reaches.cons
    exact Dialogue.Reaches.nil
  case second =>
    iterate 6 apply Dialogue.Reaches.cons
    exact Dialogue.Reaches.nil
  case third =>
    iterate 5 apply Dialogue.Reaches.cons
    exact Dialogue.Reaches.nil
  case fourth =>
    iterate 5 apply Dialogue.Reaches.cons
    exact Dialogue.Reaches.nil
  case fifth =>
    iterate 5 apply Dialogue.Reaches.cons
    exact Dialogue.Reaches.nil

/-- The fifth call polls again, five seconds after the server was busy. -/
theorem requests_paced_sample :
    (3 : UInt64).toNat = (sampleWaiting ++ sampleRepeated.take 4).countP enqueues + 1 ∧
    (told (sampleWaiting ++ sampleRepeated.take 4)).held.isSome = true ∧
      (told (sampleWaiting ++ sampleRepeated.take 4)).postponed = Duration.fromSecs 5 ∧
      (told (sampleWaiting ++ sampleRepeated.take 4)).Due := by
  obtain ⟨number, held, due⟩ := requests_paced samplePolling_reached
    (sampleWaiting ++ sampleRepeated.take 4) ⟨.enqueue ⟨3, .poll [100]⟩, .ok ()⟩ [] rfl
    ⟨3, .poll [100]⟩ rfl
  exact ⟨number, held, by decide, due [100] rfl⟩

/-! What is shown. -/

theorem ended_of_reached {past : SignInExchange} {controller : TwitchAuthenticationController}
    (coherent : Coherent (told past) controller) (call : SignInCall) {said : SignInExchange} :
    (∀ after, Dialogue.Reaches (perform call controller) said (.done ((), after)) →
      Moved controller.snapshot after) ∧
    ∀ fault after, Dialogue.Reaches (perform call controller) said (.fail (fault, after)) →
      fault ≠ .panicked ∧ Moved controller.snapshot after := by
  have follows := finishes_perform coherent call
  constructor
  · intro after reaches
    exact Settled.moved (Dialogue.Follows.later follows reaches)
  · intro fault after reaches
    have ended := Dialogue.Follows.later follows reaches
    cases fault with
    | panicked => exact ended.elim
    | failed error => exact ⟨nofun, Settled.moved ended⟩

theorem Coherent.shows {told : Told} {controller : TwitchAuthenticationController}
    (coherent : Coherent told controller) :
    (controller.snapshot.login.isSome = true ↔ controller.snapshot.state = .connected) ∧
      (controller.snapshot.userCode.isSome = true ↔ controller.snapshot.state = .awaitingUser) := by
  cases coherent.stage with
  | resting state clear unscheduled blank =>
    rcases state with state | state <;> simp [state, blank.1, blank.2.1]
  | starting state held fresh awaits draft authorization deferred blank =>
    simp [state, blank.1, blank.2.1]
  | awaitingUser state held fresh authorization present paced waits draft deferred login access
      shown => simp [state, login, shown.1]
  | checking phase carries state held draft present replaced rotates authorization waits blank =>
    cases phase <;> simp_all [Phase.state, Phase.hasCredentials, blank.1, blank.2.1]
  | hidden state clear scheduled blank => simp [state, blank.1, blank.2.1]
  | connected state clear schedule scheduled owner seen newest revision login access code =>
    simp [state, login, code]
  | disconnecting state held awaits authorization deferred blank =>
    simp [state, blank.1, blank.2.1]
  | shut state clear blank => simp [state, blank.1, blank.2.1]

/-- The controller goes on with an open transaction: it awaits an answer or has a deadline. -/
def Attends (controller : TwitchAuthenticationController) : Prop :=
  controller.pending.isSome = true ∨ controller.deferred.isSome = true ∨
    ∃ authorization, controller.authorization = some authorization ∧ authorization.code.isSome = true

theorem Coherent.attends {told : Told} {controller : TwitchAuthenticationController}
    (coherent : Coherent told controller) (isOpen : controller.transaction.isSome = true) :
    Attends controller := by
  have busy (clear : Clear controller) : Attends controller := by
    simp [clear.transaction] at isOpen
  cases coherent.stage with
  | resting state clear => exact busy clear
  | starting state held fresh awaits => exact .inl (by simp [awaits.1])
  | awaitingUser state held fresh authorization present paced waits =>
    rcases waits with ⟨code, _⟩ | ⟨_, awaits⟩
    · exact .inr (.inr ⟨authorization, present, code⟩)
    · exact .inl (by simp [awaits.1])
  | checking phase carries state held draft present replaced rotates authorization waits =>
    cases waits with
    | sent awaits => exact .inl (by simp [awaits.1])
    | later idle kept deadline later => exact .inr (.inl (by simp [later]))
  | hidden state clear => exact busy clear
  | connected state clear => exact busy clear
  | disconnecting state held awaits => exact .inl (by simp [awaits.1])
  | shut state clear => exact busy clear

/-- Between two calls a login is shown just where the state is connected, and it is of a session
that the owner was seen to hold under its newest revision; a code is shown just while the user is
awaited. An open transaction goes on by itself. No call panics, and what is shown changes only
under a greater revision. -/
theorem snapshot_tells {past : SignInExchange} {controller : TwitchAuthenticationController}
    (reached : Relation.ReflTransGen Step new ⟨past, .idle controller⟩) :
    (controller.snapshot.login.isSome = true ↔ controller.snapshot.state = .connected) ∧
    (controller.snapshot.userCode.isSome = true ↔ controller.snapshot.state = .awaitingUser) ∧
    (controller.snapshot.state = .connected → ∃ owner ∈ (told past).seen,
      controller.snapshot.login = some owner.login ∧
        controller.snapshot.accessExpiresAt = some owner.accessExpiresAt ∧
        (told past).seen.head?.map (·.revision) = some owner.revision) ∧
    controller.transaction = (told past).held ∧
    (controller.transaction.isSome = true → Attends controller) ∧
    ∀ call said, (∀ after, Dialogue.Reaches (perform call controller) said (.done ((), after)) →
        Moved controller.snapshot after) ∧
      ∀ fault after, Dialogue.Reaches (perform call controller) said (.fail (fault, after)) →
        fault ≠ .panicked ∧ Moved controller.snapshot after := by
  have coherent : Coherent (told past) controller := lawful_of_reached reached
  obtain ⟨login, code⟩ := Coherent.shows coherent
  refine ⟨login, code, ?_, coherent.held, Coherent.attends coherent, fun call said =>
    ended_of_reached coherent call⟩
  intro connected
  cases coherent.stage with
  | connected state clear schedule scheduled owner seen newest revision login access =>
    exact ⟨owner, seen, login, access, newest⟩
  | resting state => simp [connected] at state
  | starting state => simp [connected] at state
  | awaitingUser state => simp [connected] at state
  | checking phase _ state => cases phase <;> simp [connected, Phase.state] at state
  | hidden state => simp [connected] at state
  | disconnecting state => simp [connected] at state
  | shut state => simp [connected] at state

theorem second_representable :
    SystemTime.minNanos ≤ 1_000_000_000 ∧ 1_000_000_000 ≤ SystemTime.maxNanos := by
  decide

/-- The session of a grant for one second. -/
def rotatedSession : TwitchSession where
  credentials :=
    { accessToken := [97], refreshToken := [98]
      accessExpiresAt := ⟨1_000_000_000, second_representable⟩ }
  userId := shortSession.userId
  login := shortSession.login
  scopes := [twitchChatScope]

/-! The user lets the program in. The session proves valid, and is committed. -/

def sampleGranted : SignInExchange :=
  sampleRunning ++ [⟨.steadyNow, some ⟨8_000_000_000⟩⟩,
    ⟨.tryTakeResult, some (some ⟨3, .poll, .ok (.granted
      { accessToken := [97], refreshToken := [98], expiresIn := Duration.fromSecs 1
        scopes := [twitchChatScope] }), none⟩)⟩,
    ⟨.systemNow, some .unixEpoch⟩, ⟨.enqueue ⟨4, .validate rotatedSession.credentials⟩, .ok ()⟩]

def sampleValidated : SignInExchange :=
  sampleRunning ++ [⟨.steadyNow, some ⟨9_000_000_000⟩⟩,
    ⟨.tryTakeResult, some (some ⟨4, .validate, .ok (.validated rotatedSession.credentials
      { userId := "1", login := "a", expiresIn := Duration.fromSecs 1
        scopes := [twitchChatScope] }), none⟩)⟩,
    ⟨.systemNow, some .unixEpoch⟩, ⟨.steadyNow, some ⟨9_000_000_000⟩⟩,
    ⟨.systemNow, some .unixEpoch⟩,
    ⟨.owner (.commit 1 rotatedSession), .ok (ownerSnapshot rotatedSession 1)⟩]

def sampleAdmitted : SignInExchange := sampleWaiting ++ sampleRepeated ++ sampleGranted

/-- The session is being validated. -/
def sampleValidating : TwitchAuthenticationController :=
  { TwitchAuthenticationController.new with
    snapshot := { TwitchAuthenticationController.new.snapshot with
      state := .validating, revision := 7 }
    transaction := some 1
    draft := some { credentials := none, identity := none, rotated := false }
    pending := some { id := 4, phase := .validateInitial }
    nextRequest := 5 }

def sampleConnected : TwitchAuthenticationController :=
  { TwitchAuthenticationController.new with
    snapshot := { TwitchAuthenticationController.new.snapshot with
      state := .connected, login := some "a", revision := 8
      accessExpiresAt := some rotatedSession.credentials.accessExpiresAt }
    schedule := some
      { ownerRevision := 1, validation := ⟨3_609_000_000_000⟩, refresh := ⟨9_000_000_000⟩ }
    nextRequest := 5 }

theorem sampleValidating_reached : Relation.ReflTransGen Step new
    ⟨sampleAdmitted, .idle sampleValidating⟩ := by
  refine .trans samplePolling_reached (@of_call .tick _ _ _ _ ?granted)
  iterate 6 apply Dialogue.Reaches.cons
  exact Dialogue.Reaches.nil

theorem sampleConnected_reaches : Dialogue.Reaches (perform .tick sampleValidating)
    sampleValidated (.done ((), sampleConnected)) := by
  iterate 8 apply Dialogue.Reaches.cons
  exact Dialogue.Reaches.nil

/-- While the new session is validated no login shows. Then its login shows, and the code does
not. -/
theorem snapshot_tells_sample :
    (sampleValidating.snapshot.login = none ∧ Attends sampleValidating ∧
      Moved sampleValidating.snapshot sampleConnected) ∧
    sampleConnected.snapshot.login = some "a" ∧ sampleConnected.snapshot.userCode = none ∧
    (∃ owner ∈ (told (sampleAdmitted ++ sampleValidated)).seen,
      sampleConnected.snapshot.login = some owner.login ∧
        sampleConnected.snapshot.accessExpiresAt = some owner.accessExpiresAt ∧
        (told (sampleAdmitted ++ sampleValidated)).seen.head?.map (·.revision) =
          some owner.revision) ∧
    (told (sampleAdmitted ++ sampleValidated)).held = none := by
  obtain ⟨login, _, _, _, attends, moves⟩ := snapshot_tells sampleValidating_reached
  have moved := (moves .tick sampleValidated).1 sampleConnected sampleConnected_reaches
  have connected : Relation.ReflTransGen Step new
      ⟨sampleAdmitted ++ sampleValidated, .idle sampleConnected⟩ :=
    sampleValidating_reached.trans (of_call .tick sampleConnected_reaches)
  obtain ⟨_, code, owned, held, _⟩ := snapshot_tells connected
  refine ⟨⟨?_, attends rfl, moved⟩, rfl, ?_, owned rfl, held.symm⟩
  · rw [← Option.not_isSome_iff_eq_none, login]
    decide
  · rw [← Option.not_isSome_iff_eq_none, code]
    decide

/-! A record that was replaced by a session that is not validated yet. -/

def opensTransaction : ((question : SignInQuestion) × question.Answer) → Bool
  | ⟨.owner call, answer⟩ => (opened ⟨call, answer⟩).isSome
  | _ => false

theorem note_replaced {earlier : Told} {entry : (question : SignInQuestion) × question.Answer}
    (same : opensTransaction entry = false) (replaced : earlier.replaced = true) :
    (earlier.note entry).replaced = true := by
  unfold Told.note
  split
  next call answer =>
    change ((opened ⟨call, answer⟩).isNone && (earlier.replaced || _)) = true
    have unopened : opened ⟨call, answer⟩ = none := by simpa [opensTransaction] using same
    rw [unopened, replaced]
    rfl
  · exact replaced
  · exact replaced
  · exact replaced
  · rwa [take_replaced]
  · exact replaced

theorem told_replaced {past between : SignInExchange} {id : UInt64} {session : TwitchSession}
    (answer : Except TwitchSessionOwnerError Unit)
    (same : ∀ entry ∈ between, opensTransaction entry = false) :
    (told (past ++ ⟨.owner (.persistPending id session), answer⟩ :: between)).replaced = true := by
  induction between using List.reverseRecOn with
  | nil =>
    rw [told_snoc]
    cases answer <;> simp [Told.note, Told.attend, opened, replaces]
  | append_singleton between entry ih =>
    rw [← List.cons_append, ← List.append_assoc, told_snoc]
    apply note_replaced
    · exact same entry (by simp)
    · exact ih fun found member => same found (List.mem_append_left _ member)

/-- The transaction of the controller ends with a commit, a discard or a shutdown. -/
def Ends (id : UInt64) : ((question : SignInQuestion) × question.Answer) → Prop
  | ⟨.owner (.commit found _), .ok _⟩ => found = id
  | ⟨.owner (.discard found _), _⟩ => found = id
  | ⟨.owner .shutdown, _⟩ => True
  | _ => False

theorem ends_held {earlier : Told} {entry : (question : SignInQuestion) × question.Answer}
    {id : UInt64} (allowed : earlier.Allows entry.1) (held : earlier.held = some id)
    (ended : (earlier.note entry).held ≠ some id) : Ends id entry := by
  obtain ⟨question, answer⟩ := entry
  cases question with
  | owner call =>
    cases call with
    | persistPending found session => exact absurd held ended
    | commit found session =>
      cases answer with
      | error error => exact absurd held ended
      | ok snapshot => exact Option.some.inj (Eq.trans (Eq.symm allowed) held)
    | discard found erase => exact Option.some.inj (allowed.1.symm.trans held)
    | shutdown => trivial
    | reserveNew => cases held.symm.trans allowed
    | checkoutSaved => cases held.symm.trans allowed
    | checkoutActive => cases held.symm.trans allowed
    | eraseSaved => cases held.symm.trans allowed
    | connectionState => cases held.symm.trans allowed
    | beginNew session => exact allowed.elim
    | restore found session => exact allowed.elim
    | check found => exact allowed.elim
    | acquire stopRequested => exact allowed.elim
    | beginRecovery rejected stopRequested => exact allowed.elim
  | enqueue request => cases answer <;> exact absurd held ended
  | steadyNow => cases answer <;> exact absurd held ended
  | tryTakeResult =>
    rcases answer with _ | _ | result
    · exact absurd held ended
    · exact absurd held ended
    · exact absurd (take_held.trans held) ended
  | _ => exact absurd held ended

/-- The sessions that the controller saves, commits or gives up are those of the transaction it
holds. It ends with a commit, a discard or the shutdown of the owner. Once a session that was
granted for the refresh token is being saved, a discard erases the record, unless the clock is
within a day of its end. -/
theorem replaced_record_erased {run : SignInRun} (reached : Relation.ReflTransGen Step new run) :
    EachAfter (fun past entry => ∀ id,
      ((∃ session, entry.1 = .owner (.commit id session) ∨
          entry.1 = .owner (.persistPending id session)) → (told past).held = some id) ∧
      ((told past).held = some id → (told (past ++ [entry])).held ≠ some id → Ends id entry) ∧
      ∀ erase, entry.1 = .owner (.discard id erase) → (told past).held = some id ∧
        ∀ before session answer between,
          past = before ++ ⟨.owner (.persistPending id session), answer⟩ :: between →
            (∀ found ∈ between, opensTransaction found = false) →
              erase = true ∨ (told past).Late) run.past := by
  intro past entry later same id
  have here : (told past).Allows entry.1 := allowed_of_reached reached past entry later same
  refine ⟨?_, ?_, ?_⟩
  · rintro ⟨session, asked | asked⟩
    · rw [asked] at here
      exact here
    · rw [asked] at here
      exact here
  · intro held ended
    rw [told_snoc] at ended
    exact ends_held here held ended
  · intro erase asked
    rw [asked] at here
    refine ⟨here.1, fun before session answer between split quiet => here.2 ?_⟩
    rw [split]
    exact told_replaced answer quiet

def sampleFailure (disposition : TwitchDisposition) : TwitchError :=
  { TwitchError.failed .validate .httpStatus with disposition }

/-! A saved session is refreshed, and the new one is refused. -/

def sampleSaved : SignInExchange :=
  sampleRunning ++ [⟨.owner .checkoutSaved, .ok (some ⟨1, shortSession⟩)⟩,
    ⟨.enqueue ⟨1, .validate shortSession.credentials⟩, .ok ()⟩]

def sampleRejected : SignInExchange :=
  sampleRunning ++ [⟨.steadyNow, some ⟨0⟩⟩, ⟨.tryTakeResult, some (some ⟨1, .validate,
      .error (sampleFailure .reconnect), some (.credentials shortSession.credentials)⟩)⟩,
    ⟨.enqueue ⟨2, .refresh shortSession.credentials⟩, .ok ()⟩]

def sampleRotated : SignInExchange :=
  sampleRunning ++ [⟨.steadyNow, some ⟨0⟩⟩, ⟨.tryTakeResult, some (some ⟨2, .refresh, .ok (.refreshed
      { accessToken := [97], refreshToken := [98], expiresIn := Duration.fromSecs 1
        scopes := [twitchChatScope] }), none⟩)⟩,
    ⟨.systemNow, some .unixEpoch⟩, ⟨.owner (.persistPending 1 rotatedSession), .ok ()⟩,
    ⟨.enqueue ⟨3, .validate rotatedSession.credentials⟩, .ok ()⟩]

def sampleRefused : SignInExchange :=
  sampleRunning ++ [⟨.steadyNow, some ⟨0⟩⟩, ⟨.tryTakeResult, some (some ⟨3, .validate,
      .error (sampleFailure .failed), some (.credentials rotatedSession.credentials)⟩)⟩,
    ⟨.owner (.discard 1 true), .ok ()⟩]

theorem sampleRefused_reached : ∃ place, Relation.ReflTransGen Step new
    ⟨sampleSaved ++ sampleRejected ++ sampleRotated ++ sampleRefused, place⟩ := by
  refine ⟨_, .trans (.trans (.trans (@of_call .beginSavedConnection _ ?begun [] _ ?first)
    (@of_call .tick ?begun ?checked _ _ ?second)) (@of_call .tick ?checked ?rotated _ _ ?third))
    (.head (.calls .tick) (@of_reaches _ _ ?rest _ _ ?fourth))⟩
  case first =>
    iterate 4 apply Dialogue.Reaches.cons
    exact Dialogue.Reaches.nil
  case second =>
    iterate 5 apply Dialogue.Reaches.cons
    exact Dialogue.Reaches.nil
  case third =>
    iterate 7 apply Dialogue.Reaches.cons
    exact Dialogue.Reaches.nil
  case fourth =>
    iterate 5 apply Dialogue.Reaches.cons
    exact Dialogue.Reaches.nil

/-- The new session was being saved when it was refused, and its record is erased with the
transaction. No run spares the record there. -/
theorem replaced_record_erased_sample :
    Ends 1 ⟨.owner (.discard 1 true), .ok ()⟩ ∧
      (told (sampleSaved ++ sampleRejected ++ sampleRotated ++ sampleRefused.take 4)).held = some 1 ∧
      ∀ answer place, ¬Relation.ReflTransGen Step new
        ⟨sampleSaved ++ sampleRejected ++ sampleRotated ++ sampleRefused.take 4 ++
          [⟨.owner (.discard 1 false), answer⟩], place⟩ := by
  obtain ⟨place, reached⟩ := sampleRefused_reached
  obtain ⟨_, ends, discards⟩ := replaced_record_erased reached
    (sampleSaved ++ sampleRejected ++ sampleRotated ++ sampleRefused.take 4)
    ⟨.owner (.discard 1 true), .ok ()⟩ [] rfl 1
  refine ⟨ends (discards true rfl).1 ?_, (discards true rfl).1, fun answer place spares => ?_⟩
  · rw [told_snoc]
    exact fun same => by cases same
  · obtain ⟨_, _, spared⟩ := replaced_record_erased spares _ ⟨.owner (.discard 1 false), answer⟩ []
      rfl 1
    rcases (spared false rfl).2 (sampleSaved ++ sampleRejected ++ sampleRotated.take 5)
      rotatedSession (.ok ()) (sampleRotated.drop 6 ++ sampleRefused.take 4) rfl (by decide) with
      same | ⟨now, read, beyond⟩
    · cases same
    · cases read
      cases beyond

end SignInRun
end TwitchAuthenticationController
end MannyUploader.Application
