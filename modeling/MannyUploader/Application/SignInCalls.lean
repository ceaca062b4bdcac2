import MannyUploader.Application.SignInSteps

/-! Each call of the controller leads from one stage to another. -/
namespace MannyUploader.Application
open Domain Foundation

namespace TwitchAuthenticationController
open TwitchSessionOwner (OwnerCall OwnerEntry opened maxNumber)

section rules
variable {before : TwitchConnectionSnapshot} {controller : TwitchAuthenticationController}
  {told : Told} {α : Type} {post : α → TwitchAuthenticationController → Told → Prop}

theorem Coherent.settled (coherent : Coherent told controller) :
    Settled controller.snapshot told controller := ⟨coherent, .inl rfl⟩

theorem Coherent.working (coherent : Coherent told controller)
    (running : controller.snapshot.shuttingDown = false) :
    Working controller.snapshot told controller :=
  ⟨coherent.held, coherent.numbers, running, UInt64.le_refl _⟩

theorem Coherent.secured (coherent : Coherent told controller) : Secured told controller := by
  intro held replaced
  have gone (clear : Clear controller) : told.held.isSome = false := by
    rw [← coherent.held, clear.transaction]
    rfl
  cases coherent.stage with
  | resting _ clear => simp [gone clear] at held
  | starting _ _ fresh => simp [fresh] at replaced
  | awaitingUser _ _ fresh => simp [fresh] at replaced
  | checking _ _ _ _ draft present safe =>
    left
    rw [rotated, present]
    exact safe replaced
  | hidden _ clear => simp [gone clear] at held
  | connected _ clear => simp [gone clear] at held
  | disconnecting state => exact .inr state
  | shut _ clear => simp [gone clear] at held

/-- What a new reading of the clock leaves alone. -/
theorem Coherent.read (coherent : Coherent told controller) (now : Instant) :
    Coherent (told.read now) controller where
  held := coherent.held
  numbers := coherent.numbers
  closed := coherent.closed
  stage := by
    cases coherent.stage with
    | resting state clear unscheduled blank => exact .resting state clear unscheduled blank
    | starting state held fresh awaits draft authorization deferred blank =>
      exact .starting state held fresh awaits draft authorization deferred blank
    | awaitingUser state held fresh authorization present paced waits draft deferred login access
        shown =>
      refine .awaitingUser state held fresh authorization present (paced.read now)
        (waits.imp_left ?_) draft deferred login access shown
      rintro ⟨code, idle, quiet, answered, since, rested⟩
      refine ⟨code, idle, quiet, answered, ?_, rested⟩
      change told.answered.or _ = some answered
      rw [since, Option.some_or]
    | checking phase carries state held draft present replaced rotates authorization waits blank =>
      refine .checking phase carries state held draft present replaced rotates authorization ?_ blank
      cases waits with
      | sent awaits gone none => exact .sent awaits gone none
      | later idle kept deadline later => exact .later idle kept deadline later
    | hidden state clear scheduled blank => exact .hidden state clear scheduled blank
    | connected state clear schedule scheduled owner seen newest revision login access code uri expires =>
      exact .connected state clear schedule scheduled owner seen newest revision login access code
        uri expires
    | disconnecting state held awaits authorization deferred blank =>
      exact .disconnecting state held awaits authorization deferred blank
    | shut state clear blank => exact .shut state clear blank

section answers
variable {result : TwitchAuthenticationResult}

@[simp] theorem take_held : (told.take result).held = told.held := by
  unfold Told.take
  split
  · split <;> rfl
  · rfl

@[simp] theorem take_replaced : (told.take result).replaced = told.replaced := by
  unfold Told.take
  split
  · split <;> rfl
  · rfl

@[simp] theorem take_seen : (told.take result).seen = told.seen := by
  unfold Told.take
  split
  · split <;> rfl
  · rfl

@[simp] theorem take_requested : (told.take result).requested = told.requested := by
  unfold Told.take
  split
  · split <;> rfl
  · rfl

theorem take_ignored (other : ¬(told.awaiting = true ∧ result.requestId = told.requested)) :
    told.take result = told := by
  unfold Told.take
  rw [if_neg (by simpa using other)]

theorem take_awaited (awaiting : told.awaiting = true) (same : result.requestId = told.requested) :
    Unread (told.take result) := by
  unfold Told.take
  rw [if_pos (by simp [awaiting, same])]
  split <;> exact ⟨rfl, rfl⟩

theorem take_postponed (awaiting : told.awaiting = true)
    (same : result.requestId = told.requested) : (told.take result).postponed = postpones result := by
  unfold Told.take
  rw [if_pos (by simp [awaiting, same])]
  dsimp only
  split <;> rfl

theorem take_started (awaiting : told.awaiting = true) (same : result.requestId = told.requested)
    (starts : result.operation = .start) {success : TwitchAuthenticationSuccess}
    (outcome : result.outcome = .ok success) : DeviceTold (told.take result) success := by
  rintro device rfl
  unfold Told.take
  rw [if_pos (by simp [awaiting, same]), starts, outcome]
  exact ⟨rfl, rfl⟩

/-- Only a device that was asked for replaces the one before. -/
theorem Paced.take {authorization : Authorization} (paced : Paced told authorization)
    (other : result.operation ≠ .start) : Paced (told.take result) authorization := by
  unfold Told.take
  split
  · split
    · contradiction
    · exact ⟨paced.device⟩
  · exact paced

/-- Only the answer to the request that is under way changes anything. -/
theorem Coherent.take_other (coherent : Coherent told controller)
    (other : ∀ pending, controller.pending = some pending → pending.id ≠ result.requestId) :
    Coherent (told.take result) controller := by
  have ignored {phase : Phase} (awaits : Awaits told controller phase) :
      told.take result = told :=
    take_ignored fun here => other _ awaits.1 here.2.symm
  refine ⟨by simpa using coherent.held, by simpa using coherent.numbers, coherent.closed, ?_⟩
  cases coherent.stage with
  | resting state clear unscheduled blank => exact .resting state clear unscheduled blank
  | starting state held fresh awaits draft authorization deferred blank =>
    rw [ignored awaits]
    exact coherent.stage
  | awaitingUser state held fresh authorization present paced waits draft deferred login access
        shown =>
    have same : told.take result = told := by
      rcases waits with ⟨_, _, quiet, _⟩ | ⟨_, awaits⟩
      · exact take_ignored fun here => by simp [quiet] at here
      · exact ignored awaits
    rw [same]
    exact coherent.stage
  | checking phase carries state held draft present replaced rotates authorization waits blank =>
    cases waits with
    | sent awaits gone none =>
      rw [ignored awaits]
      exact coherent.stage
    | later idle kept deadline later =>
      exact .checking phase carries state (by simpa using held) draft present (by simpa using replaced)
        (by simpa using rotates) authorization (.later idle kept deadline later) blank
  | hidden state clear scheduled blank => exact .hidden state clear scheduled blank
  | connected state clear schedule scheduled owner seen newest revision login access code uri expires =>
    exact .connected state clear schedule scheduled owner (by simpa using seen)
      (by simpa using newest) revision login access code uri expires
  | disconnecting state held awaits authorization deferred blank =>
    rw [ignored awaits]
    exact coherent.stage
  | shut state clear blank => exact .shut state clear blank

/-- An answer is awaited in four stages. -/
theorem Coherent.awaits (coherent : Coherent told controller) {pending : InFlight}
    (present : controller.pending = some pending) :
    told.awaiting = true ∧ pending.id = told.requested ∧
      (pending.phase ≠ .revoke → told.replaced = true → pending.phase = .validateRotated) := by
  have idle (clear : Clear controller) : False := by
    rw [clear.pending] at present
    cases present
  have awaited {phase : Phase} (awaits : Awaits told controller phase) :
      told.awaiting = true ∧ pending.id = told.requested ∧ pending.phase = phase := by
    obtain ⟨here, awaiting⟩ := awaits
    rw [present] at here
    cases here
    exact ⟨awaiting, rfl, rfl⟩
  cases coherent.stage with
  | resting state clear => exact (idle clear).elim
  | starting state held fresh awaits =>
    obtain ⟨awaiting, same, _⟩ := awaited awaits
    exact ⟨awaiting, same, by simp [fresh]⟩
  | awaitingUser state held fresh authorization here paced waits =>
    rcases waits with ⟨_, none, _⟩ | ⟨_, awaits⟩
    · rw [none] at present
      cases present
    · obtain ⟨awaiting, same, _⟩ := awaited awaits
      exact ⟨awaiting, same, by simp [fresh]⟩
  | checking phase carries state held draft here replaced rotates authorization waits =>
    cases waits with
    | sent awaits =>
      obtain ⟨awaiting, same, shared⟩ := awaited awaits
      exact ⟨awaiting, same, fun _ replaced => shared.trans (rotates replaced)⟩
    | later none =>
      rw [none] at present
      cases present
  | hidden state clear => exact (idle clear).elim
  | connected state clear => exact (idle clear).elim
  | disconnecting state held awaits =>
    obtain ⟨awaiting, same, shared⟩ := awaited awaits
    exact ⟨awaiting, same, fun other => absurd shared other⟩
  | shut state clear => exact (idle clear).elim

/-- The answer that is awaited finds the controller ready for it. -/
theorem Coherent.ready (coherent : Coherent told controller)
    (running : controller.snapshot.shuttingDown = false)
    (room : controller.nextRequest ≠ maxNumber) {pending : InFlight}
    (present : controller.pending = some pending)
    (fits : pending.phase.operation = result.operation) :
    Ready controller.snapshot (told.take result) { controller with pending := none }
      pending.phase := by
  have working : Working controller.snapshot (told.take result) { controller with pending := none } :=
    ⟨by simpa using coherent.held, by simpa using coherent.numbers, running, UInt64.le_refl _⟩
  have idle (clear : Clear controller) : False := by
    rw [clear.pending] at present
    cases present
  have awaited {phase : Phase} (awaits : Awaits told controller phase) :
      pending.phase = phase := by
    rw [awaits.1] at present
    cases present
    rfl
  cases coherent.stage with
  | resting state clear => exact (idle clear).elim
  | starting state held fresh awaits draft authorization deferred blank =>
    rw [awaited awaits]
    exact .start working (by simpa using held) (by simpa using fresh) rfl draft deferred blank
  | awaitingUser state held fresh authorization here paced waits draft deferred login access shown =>
    rcases waits with ⟨_, none, _⟩ | ⟨_, awaits⟩
    · rw [none] at present
      cases present
    · rw [awaited awaits] at fits ⊢
      exact .poll working (by simpa using held) (by simpa using fresh) room rfl authorization here
        (paced.take fun starts => by simp [← fits, Phase.operation] at starts) draft deferred login access
        shown
  | checking phase carries state held draft here replaced rotates authorization waits blank =>
    cases waits with
    | sent awaits gone none =>
      rw [awaited awaits]
      exact .checked {
        working := working, held := by simpa using held, room := room, idle := rfl, present := here
        replaced := by simpa using replaced
        authorization := authorization, deferred := none, blank := blank } carries
        (by simpa using rotates)
    | later none =>
      rw [none] at present
      cases present
  | hidden state clear => exact (idle clear).elim
  | connected state clear => exact (idle clear).elim
  | disconnecting state held awaits authorization deferred blank =>
    rw [awaited awaits]
    exact .revoke working
  | shut state clear => exact (idle clear).elim

theorem does_handleAwaited (coherent : Coherent told controller)
    (running : controller.snapshot.shuttingDown = false)
    (room : controller.nextRequest ≠ maxNumber) {pending : InFlight}
    (present : controller.pending = some pending) (same : pending.id = result.requestId) :
    Does controller.snapshot (fun _ after later => Settled controller.snapshot later after)
      { controller with pending := none } (told.take result) (handleAwaited pending.phase result) := by
  obtain ⟨awaiting, number, safe⟩ := coherent.awaits present
  have mine : result.requestId = told.requested := same.symm.trans number
  have refused : Does controller.snapshot
      (fun _ after later => Settled controller.snapshot later after)
      { controller with pending := none } (told.take result) (refuseResult pending.phase) := by
    apply does_refuseResult
    · exact ⟨by simpa using coherent.held, by simpa using coherent.numbers, running,
        UInt64.le_refl _⟩
    · simpa using safe
  apply Agent.Acts.ite
  · exact fun _ => refused
  · intro differs
    have fits := not_not.mp differs
    have ready := @Coherent.ready controller told result coherent running room pending present fits
    have postponed := take_postponed awaiting mine
    split
    next error outcome =>
      apply does_handleFailure ready (take_awaited awaiting mine)
      intro retry
      rw [postponed, postpones, outcome]
      exact if_pos retry
    next success outcome =>
      apply Agent.Acts.ite
      · exact fun _ => refused
      · intro
        have prompt : (told.take result).postponed = 0 := by rw [postponed, postpones, outcome]
        apply does_handleSuccess ready (take_awaited awaiting mine) prompt
        intro starts
        apply take_started awaiting mine _ outcome
        rw [← fits, starts]
        rfl

theorem does_handleResult (coherent : Coherent told controller)
    (running : controller.snapshot.shuttingDown = false)
    (room : controller.nextRequest ≠ maxNumber) : Does controller.snapshot
      (fun _ after later => Settled controller.snapshot later after)
      controller (told.take result) (handleResult result) := by
  apply Agent.Acts.get_bind
  split
  next idle =>
    apply Agent.Acts.fail
    exact (coherent.take_other fun pending found => by simp [idle] at found).settled
  next pending present =>
    apply Agent.Acts.ite
    · intro other
      apply Agent.Acts.fail
      apply Coherent.settled
      apply coherent.take_other
      intro found here
      rw [present] at here
      cases here
      exact other
    · intro same
      apply Agent.Acts.modify_bind
      apply Agent.Acts.bind _ (does_handleAwaited coherent running room present (not_not.mp same))
      exact fun _ _ _ reached => reached

end answers
section ticks
variable {now : Instant}

/-- An answer of the owner that opens, ends and shows nothing. -/
theorem note_quiet {call : OwnerCall} {answer : call.Answer} (unopened : opened ⟨call, answer⟩ = none)
    (stays : closes ⟨call, answer⟩ = false) (kept : replaces ⟨call, answer⟩ = false)
    (unseen : connects ⟨call, answer⟩ = none) : told.note ⟨.owner call, answer⟩ = told := by
  change told.attend ⟨call, answer⟩ = told
  simp [Told.attend, unopened, stays, kept, unseen]

theorem note_connectionState (active : TwitchSessionOwnerSnapshot) :
    told.note ⟨.owner .connectionState, .connected active⟩ = { told with seen := active :: told.seen } := by
  simp [Told.note, Told.attend, opened, closes, replaces, connects]

theorem Clear.free (coherent : Coherent told controller) (clear : Clear controller) :
    told.held = none := coherent.held.symm.trans clear.transaction

/-- The session is taken out to be checked. -/
theorem taken_adopt (working : Working before told controller)
    (room : controller.nextRequest ≠ maxNumber) (clear : Clear controller)
    (transaction : TwitchSessionTransaction) {later : Told}
    (held : later.held = some transaction.id) (fresh : later.replaced = false)
    (number : later.requested = told.requested) :
    Taken before later (controller.adopt transaction).clearPublic
      (.fromSession transaction.session) where
  working := ⟨held.symm, by rw [number]; exact working.numbers, working.running, working.past⟩
  held := by simp [held]
  room := room
  idle := clear.pending
  present := rfl
  replaced := by simp [fresh]
  authorization := clear.authorization
  deferred := clear.deferred
  blank := ⟨rfl, rfl, rfl, rfl, rfl⟩

theorem does_publishConnected (working : Working before told controller)
    (clear : Clear controller) (free : told.held = none)
    {active : TwitchSessionOwnerSnapshot} {earlier : List TwitchSessionOwnerSnapshot}
    (seen : told.seen = active :: earlier) : Does before
      (fun _ after later => Settled before later after) controller told (publishConnected active) := by
  have secured : Secured told controller := by simp [Secured, free]
  apply does_makeSchedule working secured
  intro now found
  cases found with
  | error error => exact (finishes_fail (working.read now) _ (by simp [Told.read, free])).does
  | ok schedule =>
    exact settled_connected (working.read now) clear.transaction clear.pending seen schedule

theorem does_tickActive (coherent : Coherent told controller)
    (running : controller.snapshot.shuttingDown = false)
    (room : controller.nextRequest ≠ maxNumber) (clear : Clear controller) {schedule : Schedule}
    (scheduled : controller.schedule = some schedule) (active : TwitchSessionOwnerSnapshot) :
    Does controller.snapshot (fun _ after later => Settled controller.snapshot later after)
      controller { told with seen := active :: told.seen } (tickActive now active schedule) := by
  have working : Working controller.snapshot { told with seen := active :: told.seen } controller :=
    ⟨coherent.held, coherent.numbers, running, UInt64.le_refl _⟩
  have free : told.held = none := clear.free coherent
  apply Agent.Acts.get_bind
  apply Agent.Acts.ite
  · intro
    exact settled_connected working clear.transaction clear.pending rfl schedule
  · intro
    apply Agent.Acts.ite
    · intro
      apply Agent.Acts.bind _ (does_publishConnected working clear free rfl)
      exact fun _ _ _ reached => reached
    · intro same
      have connected : controller.snapshot.state = .connected := by tauto
      have revision : schedule.ownerRevision = active.revision := by tauto
      have stays : Coherent { told with seen := active :: told.seen } controller := by
        refine ⟨coherent.held, coherent.numbers, coherent.closed, ?_⟩
        cases coherent.stage with
        | connected state clear found here owner seen newest same login access code uri expires =>
          rw [scheduled] at here
          cases here
          exact .connected state clear schedule scheduled owner (List.mem_cons_of_mem _ seen)
            (by rw [← same, revision]; rfl) same login access code uri expires
        | resting state => simp [connected] at state
        | starting state => simp [connected] at state
        | awaitingUser state => simp [connected] at state
        | checking phase _ state => cases phase <;> simp [connected, Phase.state] at state
        | hidden state => simp [connected] at state
        | disconnecting state => simp [connected] at state
        | shut state => simp [connected] at state
      apply Agent.Acts.ite
      · exact fun _ => stays.settled
      · intro
        refine Agent.Acts.ask_bind (by exact free) fun out => ?_
        cases out with
        | error error =>
          have quiet : (Told.note { told with seen := active :: told.seen }
              ⟨.owner .checkoutActive, .error error⟩) = { told with seen := active :: told.seen } :=
            note_quiet rfl rfl rfl rfl
          rw [quiet]
          split
          · exact stays.settled
          next other =>
            cases other
            exact (finishes_fail working _ (by simp [free])).does
          · contradiction
        | ok transaction =>
          apply Agent.Acts.modify_bind
          apply Finishes.does
          refine Agent.Acts.bind _ (finishes_dispatchCredentials
            (taken_adopt working room clear transaction ?_ ?_ ?_) rfl ?_ ?_) ?_
          · rfl
          · rfl
          · rfl
          · split <;> rfl
          · intro replaced
            cases replaced
          · exact fun _ _ _ reached => reached

theorem does_hideIdentity (coherent : Coherent told controller)
    (running : controller.snapshot.shuttingDown = false) (clear : Clear controller)
    (scheduled : controller.schedule.isSome = true)
    (shows : controller.snapshot.state = .connected ∨ controller.snapshot.state = .validating) :
    Does controller.snapshot (fun _ after later => Settled controller.snapshot later after)
      controller told hideIdentity := by
  apply Agent.Acts.get_bind
  apply Agent.Acts.ite
  · exact fun _ => coherent.settled
  · intro other
    have connected := shows.resolve_right other
    have working := coherent.working running
    apply Agent.Acts.modify_bind
    have hidden : Blank { controller.snapshot with
        state := .validating, login := none, accessExpiresAt := none } := by
      cases coherent.stage with
      | connected state clear schedule scheduled owner seen newest revision login access code uri
          expires => exact ⟨rfl, code, uri, expires, rfl⟩
      | resting state => simp [connected] at state
      | starting state => simp [connected] at state
      | awaitingUser state => simp [connected] at state
      | checking phase _ state => cases phase <;> simp [connected, Phase.state] at state
      | hidden state => simp [connected] at state
      | disconnecting state => simp [connected] at state
      | shut state => simp [connected] at state
    exact {
      coherent := {
        held := coherent.held
        numbers := coherent.numbers
        closed := closed_of_running working .validating (by decide)
        stage := .hidden rfl ⟨clear.transaction, clear.draft, clear.authorization, clear.pending,
          clear.deferred⟩ scheduled hidden }
      moved := moved_bump (UInt64.le_refl _) }

/-- Without a transaction nothing is under way. -/
theorem Coherent.clear_of_free (coherent : Coherent told controller)
    (free : controller.transaction = none) : Clear controller := by
  have unheld : told.held = none := coherent.held.symm.trans free
  cases coherent.stage with
  | resting state clear => exact clear
  | starting state held => simp [unheld] at held
  | awaitingUser state held => simp [unheld] at held
  | checking phase carries state held => simp [unheld] at held
  | hidden state clear => exact clear
  | connected state clear => exact clear
  | disconnecting state held => simp [unheld] at held
  | shut state clear => exact clear

/-- A session that is shown, or hidden for a while, is with its owner. -/
theorem Coherent.clear (coherent : Coherent told controller) (idle : controller.pending = none)
    (deferred : controller.deferred = none)
    (shows : controller.snapshot.state = .connected ∨ controller.snapshot.state = .validating) :
    Clear controller := by
  cases coherent.stage with
  | resting state => rcases shows with shows | shows <;> simp [shows] at state
  | starting state => rcases shows with shows | shows <;> simp [shows] at state
  | awaitingUser state => rcases shows with shows | shows <;> simp [shows] at state
  | checking phase carries state held draft present replaced rotates authorization waits =>
    cases waits with
    | sent awaits =>
      rw [awaits.1] at idle
      cases idle
    | later none kept deadline later =>
      rw [later] at deferred
      cases deferred
  | hidden state clear => exact clear
  | connected state clear => exact clear
  | disconnecting state => rcases shows with shows | shows <;> simp [shows] at state
  | shut state clear => exact clear

theorem does_tickSchedule (coherent : Coherent told controller)
    (running : controller.snapshot.shuttingDown = false)
    (room : controller.nextRequest ≠ maxNumber) (idle : controller.pending = none)
    (deferred : controller.deferred = none) : Does controller.snapshot
      (fun _ after later => Settled controller.snapshot later after)
      controller told (tickSchedule now) := by
  apply Agent.Acts.get_bind
  split
  · exact coherent.settled
  next schedule scheduled =>
    apply Agent.Acts.ite
    · exact fun _ => coherent.settled
    · intro other
      have shows : controller.snapshot.state = .connected ∨ controller.snapshot.state = .validating := by
        tauto
      have clear := coherent.clear idle deferred shows
      have free := clear.free coherent
      have gives (error : TwitchAuthenticationControllerError) :
          Does controller.snapshot (fun (_ : Bool) after later => Settled controller.snapshot later after)
            controller told (fail error false) :=
        (finishes_fail (coherent.working running) error (by simp [free])).does
      refine Agent.Acts.ask_bind (by exact free) fun state => ?_
      cases state with
      | disconnected =>
        rw [note_quiet rfl rfl rfl rfl]
        exact gives _
      | shuttingDown =>
        rw [note_quiet rfl rfl rfl rfl]
        exact gives _
      | updating =>
        rw [note_quiet rfl rfl rfl rfl]
        exact does_hideIdentity coherent running clear (by simp [scheduled]) shows
      | connected active =>
        rw [note_connectionState]
        exact does_tickActive coherent running room clear scheduled active

/-- The code is sent to be polled. -/
theorem does_poll (working : Working before told controller)
    (room : controller.nextRequest ≠ maxNumber) (idle : controller.pending = none)
    (held : told.held.isSome = true) (fresh : told.replaced = false) {authorization : Authorization}
    (present : controller.authorization = some { authorization with code := none })
    (paced : Paced told authorization) (due : told.Due) (draft : controller.draft = none)
    (deferred : controller.deferred = none) (login : controller.snapshot.login = none)
    (access : controller.snapshot.accessExpiresAt = none) (shown : CodeShown controller.snapshot)
    (code : SecretValue) :
    Does before (fun _ after later => Settled before later after)
      controller told (dispatch .poll (.poll code)) := by
  apply Finishes.does
  apply Agent.Acts.weaken (finishes_dispatch working .poll (.poll code) idle room held
    (fun _ _ => due) (by simp [fresh]))
  · rintro _ after later ⟨rfl, rfl⟩
    exact {
      coherent := {
        held := working.held
        numbers := next_number room
        closed := closed_of_running working .awaitingUser (by decide)
        stage := .awaitingUser rfl held fresh _ present ⟨paced.device⟩ (.inr ⟨rfl, rfl, rfl⟩)
          draft deferred login access shown }
      moved := moved_bump working.past }
  · exact fun _ _ _ ended => ended

theorem does_tickIdle (coherent : Coherent told controller)
    (running : controller.snapshot.shuttingDown = false)
    (room : controller.nextRequest ≠ maxNumber) (idle : controller.pending = none)
    (read : told.now = some now) (valid : ∀ authorization,
      controller.authorization = some authorization → now.nanos < authorization.expires.nanos) :
    Does controller.snapshot (fun _ after later => Settled controller.snapshot later after)
      controller told (tickIdle now) := by
  have working := coherent.working running
  apply Agent.Acts.get_bind
  split
  next phase deadline deferred =>
    apply Agent.Acts.ite
    · exact fun _ => coherent.settled
    · intro
      apply Agent.Acts.modify_bind
      have busy (clear : Clear controller) : False := by
        rw [clear.deferred] at deferred
        cases deferred
      cases coherent.stage with
      | resting state clear => exact (busy clear).elim
      | starting _ _ _ _ _ _ none =>
        rw [none] at deferred
        cases deferred
      | awaitingUser _ _ _ _ _ _ _ _ none =>
        rw [none] at deferred
        cases deferred
      | checking found carries state held draft present replaced rotates authorization waits blank =>
        cases waits with
        | sent awaits =>
          rw [awaits.1] at idle
          cases idle
        | later _ kept at' later =>
          rw [later] at deferred
          cases deferred
          have taken : Taken controller.snapshot told { controller with deferred := none } draft := {
            working := ⟨working.held, working.numbers, running, working.past⟩
            held := held, room := room, idle := idle, present := present, replaced := replaced
            authorization := authorization, deferred := rfl, blank := blank }
          apply Finishes.does
          apply Agent.Acts.bind _ (finishes_dispatchCredentials taken kept carries rotates)
          exact fun _ _ _ reached => reached
      | hidden state clear => exact (busy clear).elim
      | connected state clear => exact (busy clear).elim
      | disconnecting _ _ awaits =>
        rw [awaits.1] at idle
        cases idle
      | shut state clear => exact (busy clear).elim
  next authorization deferred present =>
    apply Agent.Acts.ite
    · exact fun _ => coherent.settled
    · intro passed
      apply Agent.Acts.modify_bind
      have busy (clear : Clear controller) : False := by
        rw [clear.authorization] at present
        cases present
      cases coherent.stage with
      | resting state clear => exact (busy clear).elim
      | starting _ _ _ _ _ none =>
        rw [none] at present
        cases present
      | awaitingUser state held fresh found here paced waits draft _ login access shown =>
        rw [present] at here
        cases here
        rcases waits with ⟨code, _, rested⟩ | ⟨_, awaits⟩
        · obtain ⟨code, known⟩ := Option.isSome_iff_exists.mp code
          rw [known]
          obtain ⟨device, told', interval, started, since, expires⟩ := paced.device
          obtain ⟨_, answered, dealt, rested⟩ := rested
          have due : told.Due := by
            refine ⟨device, started, answered, now, told', since, dealt, read, ?_, ?_⟩
            · rw [← interval]
              exact rested.trans (not_lt.mp passed)
            · rw [← expires]
              exact valid authorization present
          refine Agent.Acts.bind _ (@does_poll controller.snapshot
            { controller with authorization := some { authorization with code := none } } told
            ⟨working.held, working.numbers, running, working.past⟩ room idle held fresh authorization
            rfl paced due draft deferred login access shown code) ?_
          exact fun _ _ _ reached => reached
        · rw [awaits.1] at idle
          cases idle
      | checking _ _ _ _ _ _ _ _ none =>
        rw [none] at present
        cases present
      | hidden state clear => exact (busy clear).elim
      | connected state clear => exact (busy clear).elim
      | disconnecting _ _ _ none =>
        rw [none] at present
        cases present
      | shut state clear => exact (busy clear).elim
  next deferred _ => exact does_tickSchedule coherent running room idle deferred

theorem does_tickInner (coherent : Coherent told controller)
    (running : controller.snapshot.shuttingDown = false)
    (room : controller.nextRequest ≠ maxNumber) : Does controller.snapshot
      (fun _ after later => Settled controller.snapshot later after) controller told tickInner := by
  have working := coherent.working running
  apply does_steadyNow working coherent.secured
  intro now
  have later := coherent.read now
  apply Agent.Acts.get_bind
  apply Agent.Acts.ite
  · intro expired
    apply Finishes.does
    apply finishes_fail (working.read now)
    have found : controller.authorization ≠ none := by
      intro none
      rw [none] at expired
      cases expired
    cases coherent.stage with
    | resting state clear => exact absurd clear.authorization found
    | starting _ _ fresh => simp [Told.read, fresh]
    | awaitingUser _ _ fresh => simp [Told.read, fresh]
    | checking _ _ _ _ _ _ _ _ none => exact absurd none found
    | hidden state clear => exact absurd clear.authorization found
    | connected state clear => exact absurd clear.authorization found
    | disconnecting _ _ _ none => exact absurd none found
    | shut state clear => exact absurd clear.authorization found
  · intro valid
    refine Agent.Acts.ask_bind trivial fun taken => ?_
    rcases taken with _ | _ | result
    · exact ⟨working.read now, later.secured⟩
    · apply Agent.Acts.ite
      · exact fun _ => later.settled
      · intro idle
        apply does_tickIdle later running room (by simpa using idle) rfl
        intro authorization present
        rw [present] at valid
        simpa using valid
    · exact does_handleResult later running room

end ticks

section calls

theorem finishes_running (coherent : Coherent told controller) : Finishes controller.snapshot
    (fun _ after later => after = controller ∧ later = told ∧
      controller.snapshot.shuttingDown = false ∧ controller.nextRequest ≠ maxNumber)
    controller told running := by
  apply Agent.Acts.get_bind
  apply Agent.Acts.ite
  · exact fun _ => coherent.settled
  · intro isOpen
    refine Agent.Acts.ask_bind trivial fun stopping => ?_
    apply Agent.Acts.ite
    · exact fun _ => coherent.settled
    · intro
      refine Agent.Acts.ask_bind trivial fun closing => ?_
      rcases closing with _ | _ | _
      · exact coherent.settled
      · apply Agent.Acts.ite
        · exact fun _ => coherent.settled
        · intro room
          exact ⟨rfl, rfl, by simpa using isOpen, fun last => room (.inr last)⟩
      · exact coherent.settled

theorem finishes_tick (coherent : Coherent told controller) : Finishes controller.snapshot
    (fun _ after later => Settled controller.snapshot later after) controller told tick := by
  apply Agent.Acts.bind _ (finishes_running coherent)
  rintro _ _ _ ⟨rfl, rfl, running, room⟩
  apply Agent.Acts.attempt_bind _ _ (does_tickInner coherent running room)
  · exact fun _ _ _ reached => reached
  · intro fault after later lost
    cases fault with
    | failed error => exact lost
    | panicked =>
      obtain ⟨working, secured⟩ := lost
      apply Agent.Acts.get_bind
      apply Agent.Acts.ite
      · intro
        apply Agent.Acts.bind _ (finishes_finishDisconnect working _)
        exact fun _ _ _ reached => reached.2
      · intro other
        apply finishes_fail working
        exact fun held replaced => .inl ((secured held replaced).resolve_right other)

theorem finishes_idleConnection (coherent : Coherent told controller) : Finishes controller.snapshot
    (fun _ after later => after = controller ∧ later = told ∧
      controller.snapshot.shuttingDown = false ∧ controller.nextRequest ≠ maxNumber ∧
      controller.transaction = none)
    controller told idleConnection := by
  apply Agent.Acts.bind _ (finishes_running coherent)
  rintro _ _ _ ⟨rfl, rfl, running, room⟩
  apply Agent.Acts.get_bind
  apply Agent.Acts.ite
  · exact fun _ => coherent.settled
  · intro idle
    apply Agent.Acts.ite
    · exact fun _ => coherent.settled
    · intro
      exact ⟨rfl, rfl, running, room, by simpa using (not_or.mp idle).2⟩

theorem finishes_beginConnection (coherent : Coherent told controller) : Finishes controller.snapshot
    (fun _ after later => Settled controller.snapshot later after)
    controller told beginConnection := by
  apply Agent.Acts.bind _ (finishes_idleConnection coherent)
  rintro _ controller told ⟨rfl, rfl, running, room, free⟩
  have clear := coherent.clear_of_free free
  refine Agent.Acts.ask_bind (by exact clear.free coherent) fun reserved => ?_
  cases reserved with
  | error error =>
    rw [note_quiet rfl rfl rfl rfl]
    exact coherent.settled
  | ok id =>
    apply Agent.Acts.modify_bind
    have working : Working controller.snapshot (told.note ⟨.owner .reserveNew, .ok id⟩)
        { controller with transaction := some id }.clearPublic :=
      ⟨rfl, coherent.numbers, running, UInt64.le_refl _⟩
    apply Agent.Acts.weaken (finishes_dispatch working .start .start clear.pending room rfl
      (fun code same => by cases same) fun _ replaced => by cases replaced)
    · rintro _ after later ⟨rfl, rfl⟩
      exact {
        coherent := {
          held := rfl
          numbers := next_number room
          closed := closed_of_running working .starting (by decide)
          stage := .starting rfl rfl rfl ⟨rfl, rfl⟩ clear.draft clear.authorization clear.deferred
            ⟨rfl, rfl, rfl, rfl, rfl⟩ }
        moved := moved_bump working.past }
    · exact fun _ _ _ ended => ended

theorem finishes_beginSavedConnection (coherent : Coherent told controller) :
    Finishes controller.snapshot (fun _ after later => Settled controller.snapshot later after)
      controller told beginSavedConnection := by
  apply Agent.Acts.bind _ (finishes_idleConnection coherent)
  rintro _ controller told ⟨rfl, rfl, running, room, free⟩
  have clear := coherent.clear_of_free free
  have unheld := clear.free coherent
  refine Agent.Acts.ask_bind (by exact unheld) fun saved => ?_
  rcases saved with error | _ | transaction
  · rw [note_quiet rfl rfl rfl rfl]
    exact finishes_fail (coherent.working running) _ (by simp [unheld])
  · rw [note_quiet rfl rfl rfl rfl]
    exact coherent.settled
  · apply Agent.Acts.modify_bind
    refine Agent.Acts.bind _ (finishes_dispatchCredentials
      (taken_adopt (coherent.working running) room clear transaction ?_ ?_ ?_) rfl rfl ?_) ?_
    · rfl
    · rfl
    · rfl
    · intro replaced
      cases replaced
    · exact fun _ _ _ reached => reached

/-- Where `disconnect` stands once it has taken out what there is to take out. -/
structure Leaving (before : TwitchConnectionSnapshot) (told : Told)
    (controller : TwitchAuthenticationController) : Prop where
  working : Working before told controller
  room : controller.nextRequest ≠ maxNumber
  idle : controller.pending = none
  authorization : controller.authorization = none
  deferred : controller.deferred = none
  held : controller.draft.isSome = true → told.held.isSome = true

theorem finishes_checkoutForDisconnect (coherent : Coherent told controller)
    (clear : Clear controller) : Finishes controller.snapshot
      (fun found after later => after = controller ∧ match found with
        | none => later = told
        | some transaction => later.held = some transaction.id ∧ later.replaced = false ∧
          later.requested = told.requested)
      controller told checkoutForDisconnect := by
  have free := clear.free coherent
  refine Agent.Acts.ask_bind (by exact free) fun active => ?_
  cases active with
  | ok transaction => exact ⟨rfl, rfl, rfl, rfl⟩
  | error error =>
    rw [note_quiet rfl rfl rfl rfl]
    split
    · contradiction
    · refine Agent.Acts.ask_bind (by exact free) fun saved => ?_
      rcases saved with error | _ | transaction
      · rw [note_quiet rfl rfl rfl rfl]
        split
        · contradiction
        · exact ⟨rfl, rfl⟩
        · exact coherent.settled
      · rw [note_quiet rfl rfl rfl rfl]
        exact ⟨rfl, rfl⟩
      · exact ⟨rfl, rfl, rfl, rfl⟩
    · exact coherent.settled

theorem finishes_adoptForDisconnect (coherent : Coherent told controller)
    (running : controller.snapshot.shuttingDown = false)
    (room : controller.nextRequest ≠ maxNumber) (idle : controller.pending = none) :
    Finishes controller.snapshot (fun _ after later => Leaving controller.snapshot later after)
      { controller with authorization := none, deferred := none } told adoptForDisconnect := by
  have working := coherent.working running
  apply Agent.Acts.get_bind
  apply Agent.Acts.ite
  · intro isOpen
    have held : told.held.isSome = true := by
      rw [← coherent.held]
      exact isOpen
    exact ⟨⟨working.held, working.numbers, running, working.past⟩, room, idle, rfl, rfl,
      fun _ => held⟩
  · intro free
    have clear := coherent.clear_of_free (by simpa using free)
    have same : { controller with authorization := none, deferred := none } = controller := by
      have := clear.authorization
      have := clear.deferred
      cases controller
      simp_all
    rw [same]
    apply Agent.Acts.bind _ (finishes_checkoutForDisconnect coherent clear)
    rintro (_ | transaction) after later ⟨rfl, found⟩
    · cases found
      exact ⟨working, room, idle, clear.authorization, clear.deferred, by simp [clear.draft]⟩
    · obtain ⟨held, fresh, number⟩ := found
      have taken := taken_adopt working room clear transaction held fresh number
      exact ⟨⟨held.symm, taken.working.numbers, running, working.past⟩, room, idle,
        clear.authorization, clear.deferred, fun _ => by simp [held]⟩

theorem finishes_revoke (leaving : Leaving before told controller) : Finishes before
    (fun _ after later => Settled before later after) controller.clearPublic told revoke := by
  have working := leaving.working
  have cleared : Working before told controller.clearPublic :=
    ⟨working.held, working.numbers, working.running, working.past⟩
  have closes {after : TwitchAuthenticationController} (working : Working before told after) :
      Finishes before (fun _ after later => Settled before later after) after told
        (finishDisconnect none) := by
    apply Agent.Acts.weaken (finishes_finishDisconnect working none)
    · exact fun _ _ _ reached => reached.2
    · exact fun _ _ _ ended => ended
  apply Agent.Acts.get_bind
  split
  · exact closes cleared
  next draft present =>
    have held := leaving.held (by rw [show controller.draft = some draft from present]; rfl)
    apply Agent.Acts.modify_bind
    split
    · exact closes (cleared.drafted _)
    next credentials _ =>
      have sends := finishes_dispatch
        (cleared.drafted (some { draft with credentials := none })) .revoke
        (.revoke credentials.accessToken) leaving.idle leaving.room held (fun code same => by cases same)
        fun other => absurd rfl other
      apply Agent.Acts.weaken sends
      · rintro _ after later ⟨rfl, rfl⟩
        exact {
          coherent := {
            held := working.held
            numbers := next_number leaving.room
            closed := closed_of_running working .disconnecting (by decide)
            stage := .disconnecting rfl held ⟨rfl, rfl⟩ leaving.authorization leaving.deferred
              ⟨rfl, rfl, rfl, rfl, rfl⟩ }
          moved := moved_bump working.past }
      · exact fun _ _ _ ended => ended

theorem finishes_disconnect (coherent : Coherent told controller) : Finishes controller.snapshot
    (fun _ after later => Settled controller.snapshot later after) controller told disconnect := by
  apply Agent.Acts.bind _ (finishes_running coherent)
  rintro _ controller told ⟨rfl, rfl, running, room⟩
  apply Agent.Acts.get_bind
  apply Agent.Acts.ite
  · exact fun _ => coherent.settled
  · intro idle
    apply Agent.Acts.bind fun (_ : Unit) after later => after = controller ∧ later = told
    · refine Agent.Acts.ask_bind trivial fun saved => ?_
      split
      · exact ⟨rfl, rfl⟩
      · exact coherent.settled
    · rintro _ _ _ ⟨rfl, rfl⟩
      apply Agent.Acts.modify_bind
      apply Agent.Acts.bind _ (finishes_adoptForDisconnect coherent running room (by simpa using idle))
      intro _ after later leaving
      apply Agent.Acts.modify_bind
      exact finishes_revoke leaving

theorem finishes_disconnectError (coherent : Coherent told controller)
    (isOpen : controller.snapshot.shuttingDown = false) : Finishes controller.snapshot
      (fun _ after later => Settled controller.snapshot later after)
      controller told disconnectError := by
  apply Agent.Acts.get_bind
  apply Agent.Acts.ite
  · exact fun _ => coherent.settled
  · intro
    apply Agent.Acts.attempt_bind _ _ (finishes_finishDisconnect (coherent.working isOpen) none)
    · exact fun _ _ _ reached => reached.2
    · intro fault after later ended
      cases fault with
      | failed error => exact ended
      | panicked => exact ended.elim

theorem finishes_shutdown (coherent : Coherent told controller) : Finishes controller.snapshot
    (fun _ after later => Settled controller.snapshot later after) controller told shutdown := by
  apply Agent.Acts.get_bind
  apply Agent.Acts.ite
  · exact fun _ => coherent.settled
  · intro isOpen
    apply Agent.Acts.bind _ (finishes_disconnectError coherent (by simpa using isOpen))
    intro error after later settled
    refine Agent.Acts.ask_bind trivial fun _ => ?_
    apply Agent.Acts.modify_bind
    refine ⟨trivial, fun _ => ?_⟩
    refine ⟨⟨rfl, settled.coherent.numbers, ⟨fun _ => rfl, fun _ => rfl⟩,
      .shut rfl ⟨rfl, rfl, rfl, rfl, rfl⟩ ⟨rfl, rfl, rfl, rfl, rfl⟩⟩, ?_⟩
    rcases settled.moved with same | later' | last
    · exact moved_bump (same ▸ UInt64.le_refl _)
    · exact moved_bump (UInt64.le_of_lt later')
    · exact .inr (.inr last)

end calls

end rules
end TwitchAuthenticationController
end MannyUploader.Application
