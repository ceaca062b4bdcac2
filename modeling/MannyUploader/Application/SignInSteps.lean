import MannyUploader.Application.SignInStages

/-! What each step of a sign-in asks and where it leaves the controller. -/
namespace MannyUploader.Application
open Domain Foundation

namespace TwitchAuthenticationController
open TwitchSessionOwner (OwnerEntry opened maxNumber)

section rules
variable {before : TwitchConnectionSnapshot} {controller : TwitchAuthenticationController}
  {told : Told} {α : Type} {post : α → TwitchAuthenticationController → Told → Prop}

theorem Finishes.does {step : SignIn α} (finishes : Finishes before post controller told step) :
    Does before post controller told step := by
  apply Agent.Acts.weaken finishes (fun _ _ _ reached => reached)
  intro fault controller told ended
  cases fault with
  | failed error => exact ended
  | panicked => exact ended.elim

theorem moved_bump (past : before.revision ≤ controller.snapshot.revision) :
    Moved before controller.bump := by
  have next : controller.bump.snapshot.revision =
    saturatingSucc64 controller.snapshot.revision := rfl
  unfold saturatingSucc64 checkedSucc64 at next
  right
  rw [UInt64.le_iff_toNat_le] at past
  rw [next, UInt64.lt_iff_toNat_lt, ← UInt64.toNat_inj]
  split
  next room =>
    left
    rw [Option.getD_some, UInt64.toNat_add, UInt64.toNat_one, Nat.mod_eq_of_lt room]
    omega
  next full =>
    have bound := controller.snapshot.revision.toNat_lt
    have last : maxNumber.toNat = 2 ^ 64 - 1 := by decide
    rw [Option.getD_none]
    omega

theorem Working.dropped {later : Told} (working : Working before told controller)
    (free : later.held = none) (same : later.requested = told.requested) :
    Working before later { controller with transaction := none } where
  held := free.symm
  numbers := by
    rw [same]
    exact working.numbers
  running := working.running
  past := working.past

theorem closed_of_running (working : Working before told controller) (state : TwitchConnectionState)
    (other : state ≠ .shuttingDown) :
    controller.snapshot.shuttingDown = true ↔ state = .shuttingDown := by
  rw [working.running]
  simp [other]

theorem Working.drafted (working : Working before told controller) (draft : Option Draft) :
    Working before told { controller with draft } :=
  ⟨working.held, working.numbers, working.running, working.past⟩

theorem Working.attended {later : Told} (working : Working before told controller)
    (same : later.held = told.held) (number : later.requested = told.requested) :
    Working before later controller :=
  ⟨working.held.trans same.symm, by rw [number]; exact working.numbers, working.running,
    working.past⟩

/-- Whatever went on before, a reset leaves the controller at rest. -/
theorem settled_reset (working : Working before told controller)
    (gone : controller.transaction = none) {state : TwitchConnectionState}
    (rests : state = .disconnected ∨ state = .error)
    (diagnostic : Option TwitchAuthenticationControllerError) :
    Settled before told (controller.reset.clearPublic.withState state diagnostic).bump where
  coherent := {
    held := working.held
    numbers := working.numbers
    closed := closed_of_running working state (by rcases rests with rfl | rfl <;> decide)
    stage := .resting rests ⟨gone, rfl, rfl, rfl, rfl⟩ rfl ⟨rfl, rfl, rfl, rfl, rfl⟩ }
  moved := moved_bump working.past

theorem finishes_fail (working : Working before told controller)
    (error : TwitchAuthenticationControllerError) {erase : Bool}
    (safe : told.held.isSome = true → told.replaced = true → erase = true ∨ told.Late) :
    Finishes before post controller told (fail error erase : SignIn α) := by
  apply Agent.Acts.get_bind
  cases isOpen : controller.transaction with
  | none =>
    apply Agent.Acts.modify_bind
    apply Agent.Acts.fail
    exact settled_reset working isOpen (.inr rfl) _
  | some id =>
    apply Agent.Acts.modify_bind
    apply Agent.Acts.ask_bind ⟨working.held.symm.trans isOpen, safe (by rw [← working.held, isOpen]; rfl)⟩
    intro closed
    apply Agent.Acts.modify_bind
    apply Agent.Acts.fail
    apply settled_reset _ rfl (.inr rfl)
    apply working.dropped <;> rfl

theorem finishes_endDisconnect {erased : Except TwitchSessionOwnerError Unit}
    (working : Working before told controller) (gone : controller.transaction = none)
    (diagnostic : Option TwitchAuthenticationControllerError) :
    Finishes before (fun _ controller told => diagnostic = none ∧ Settled before told controller)
      controller told (endDisconnect erased diagnostic) := by
  have settled (found : Option TwitchAuthenticationControllerError) :=
    @settled_reset before controller told working gone
      (if found = some .sessionEraseFailed then .error else .disconnected) (by split <;> simp) found
  apply Agent.Acts.modify_bind
  cases erased with
  | error failure =>
    apply Agent.Acts.fail
    exact settled _
  | ok _ =>
    cases diagnostic with
    | none => exact ⟨rfl, settled _⟩
    | some found =>
      apply Agent.Acts.fail
      exact settled _

theorem finishes_finishDisconnect (working : Working before told controller)
    (diagnostic : Option TwitchAuthenticationControllerError) :
    Finishes before (fun _ controller told => diagnostic = none ∧ Settled before told controller)
      controller told (finishDisconnect diagnostic) := by
  apply Agent.Acts.get_bind
  cases isOpen : controller.transaction with
  | none =>
    have free : told.held = none := working.held.symm.trans isOpen
    refine Agent.Acts.ask_bind (by exact free) fun erased => ?_
    apply finishes_endDisconnect _ isOpen
    exact ⟨isOpen.trans free.symm, working.numbers, working.running, working.past⟩
  | some id =>
    apply Agent.Acts.modify_bind
    apply Agent.Acts.ask_bind ⟨working.held.symm.trans isOpen, fun _ => .inl rfl⟩
    intro erased
    apply finishes_endDisconnect _ rfl
    apply working.dropped <;> rfl

/-- A request is with the worker. -/
def sent (controller : TwitchAuthenticationController) (phase : Phase) :
    TwitchAuthenticationController :=
  ({ controller with
    nextRequest := controller.nextRequest + 1
    pending := some ⟨controller.nextRequest, phase⟩ }.withState phase.state none).bump

theorem next_number (room : controller.nextRequest ≠ maxNumber) :
    (controller.nextRequest + 1).toNat = controller.nextRequest.toNat + 1 := by
  have bound := controller.nextRequest.toNat_lt
  have last : maxNumber.toNat = 2 ^ 64 - 1 := by decide
  have differs : controller.nextRequest.toNat ≠ maxNumber.toNat := by
    rw [ne_eq, UInt64.toNat_inj]
    exact room
  rw [UInt64.toNat_add, UInt64.toNat_one]
  omega

theorem finishes_dispatch (working : Working before told controller) (phase : Phase)
    (command : TwitchAuthenticationCommand) (idle : controller.pending = none)
    (room : controller.nextRequest ≠ maxNumber) (held : told.held.isSome = true)
    (due : ∀ code, command = .poll code → told.Due)
    (safe : phase ≠ .revoke → told.replaced = true → controller.rotated = true) :
    Finishes before (fun _ after later => after = sent controller phase ∧
        later = told.send ⟨controller.nextRequest, command⟩ true)
      controller told (dispatch phase command) := by
  apply Agent.Acts.get_bind
  apply Agent.Acts.ite
  · rintro (awaited | last)
    · rw [idle] at awaited
      cases awaited
    · exact absurd last room
  · intro
    apply Agent.Acts.modify_bind
    apply Agent.Acts.ask_bind ⟨working.numbers, held, due⟩
    intro queued
    cases queued with
    | ok _ => exact ⟨rfl, rfl⟩
    | error fault =>
      have refused : Working before (told.send ⟨controller.nextRequest, command⟩ false)
          { controller with
            nextRequest := controller.nextRequest + 1
            pending := some ⟨controller.nextRequest, phase⟩ } :=
        ⟨working.held, next_number room, working.running, working.past⟩
      apply Agent.Acts.ite
      · intro
        apply Agent.Acts.weaken (finishes_finishDisconnect refused _)
        · rintro _ after later ⟨none, _⟩
          cases none
        · exact fun _ _ _ ended => ended
      · intro other
        apply finishes_fail refused
        intro _ replaced
        exact .inl (safe other replaced)

/-- The answer about the session of a draft was taken. -/
structure Taken (before : TwitchConnectionSnapshot) (told : Told)
    (controller : TwitchAuthenticationController) (draft : Draft) : Prop where
  working : Working before told controller
  held : told.held.isSome = true
  room : controller.nextRequest ≠ maxNumber
  idle : controller.pending = none
  present : controller.draft = some draft
  replaced : told.replaced = true → draft.rotated = true
  authorization : controller.authorization = none
  deferred : controller.deferred = none
  blank : Blank controller.snapshot

/-- The draft may be another one, if the record is as safe with it. -/
theorem Taken.renewed {draft renewed : Draft} {later : Told}
    (taken : Taken before told controller draft) (same : later.held = told.held)
    (number : later.requested = told.requested)
    (replaced : later.replaced = true → renewed.rotated = true) :
    Taken before later { controller with draft := some renewed } renewed where
  working := (taken.working.attended same number).drafted _
  held := by
    rw [same]
    exact taken.held
  room := taken.room
  idle := taken.idle
  present := rfl
  replaced := replaced
  authorization := taken.authorization
  deferred := taken.deferred
  blank := taken.blank

/-- A draft goes out to be checked. -/
theorem finishes_dispatchCredentials {draft : Draft} (taken : Taken before told controller draft)
    (kept : draft.credentials.isSome = true) {phase : Phase}
    (carries : phase.hasCredentials = true)
    (rotates : told.replaced = true → phase = .validateRotated) :
    Finishes before (fun _ after later => Settled before later after)
      controller told (dispatchCredentials phase) := by
  obtain ⟨credentials, found⟩ := Option.isSome_iff_exists.mp kept
  apply Agent.Acts.get_bind
  rw [taken.present]
  apply Agent.Acts.modify_bind
  rw [found]
  apply Agent.Acts.weaken (finishes_dispatch
    (taken.working.drafted (some { draft with credentials := none })) phase _ taken.idle
    taken.room taken.held _ _)
  · rintro _ after later ⟨rfl, rfl⟩
    exact {
      coherent := {
        held := taken.working.held
        numbers := next_number taken.room
        closed := closed_of_running taken.working phase.state (by cases phase <;> decide)
        stage := .checking phase carries rfl taken.held { draft with credentials := none } rfl
          taken.replaced rotates taken.authorization (.sent ⟨rfl, rfl⟩ rfl taken.deferred) taken.blank }
      moved := moved_bump taken.working.past }
  · exact fun _ _ _ ended => ended
  · intro code same
    split at same <;> cases same
  · intro _ replaced
    exact taken.replaced replaced

/-! What reads the clock may panic. -/

theorem Working.read (working : Working before told controller) (now : Instant) :
    Working before (told.read now) controller :=
  ⟨working.held, working.numbers, working.running, working.past⟩

theorem Paced.read {authorization : Authorization} (paced : Paced told authorization)
    (now : Instant) : Paced (told.read now) authorization where
  device := by
    obtain ⟨device, present, interval, started, since, expires⟩ := paced.device
    refine ⟨device, present, interval, started, ?_, expires⟩
    change told.started.or _ = some started
    rw [since, Option.some_or]

theorem does_steadyNow {next : Instant → SignIn α} (working : Working before told controller)
    (secured : Secured told controller)
    (rest : ∀ now, Does before post controller (told.read now) (next now)) :
    Does before post controller told (steadyNow >>= next) := by
  refine ⟨trivial, fun answer => ?_⟩
  cases answer with
  | none => exact ⟨working, secured⟩
  | some now => exact rest now

theorem does_systemNow {next : SystemTime → SignIn α} (working : Working before told controller)
    (secured : Secured told controller)
    (rest : ∀ now, Does before post controller told (next now)) :
    Does before post controller told (systemNow >>= next) := by
  refine ⟨trivial, fun answer => ?_⟩
  cases answer with
  | none => exact ⟨working, secured⟩
  | some now => exact rest now

theorem nanos_of_checkedAdd {first last : Instant} {delay : Duration}
    (sum : first.checkedAdd delay = some last) : last.nanos = first.nanos + delay := by
  unfold Instant.checkedAdd at sum
  split at sum <;> cases sum
  rfl

theorem does_acceptDevice (working : Working before told controller)
    (held : told.held.isSome = true) (fresh : told.replaced = false)
    {device : TwitchDeviceAuthorization} (present : told.device = some device)
    (unread : told.started = none) (taken : Unread told) (prompt : told.postponed = 0)
    (idle : controller.pending = none) (draft : controller.draft = none)
    (deferred : controller.deferred = none) (blank : Blank controller.snapshot) :
    Does before (fun _ after later => Settled before later after)
      controller told (acceptDevice device) := by
  have secured : Secured told controller := by simp [Secured, fresh]
  apply Agent.Acts.ite
  · intro
    exact (finishes_fail working _ (by simp [fresh])).does
  · intro
    apply does_steadyNow working secured
    intro now
    apply does_systemNow (working.read now) secured
    intro today
    split
    next expires nextPoll absolute ends polls _ =>
      have rested : now.nanos + max told.postponed device.pollingInterval ≤ nextPoll.nanos := by
        rw [prompt, Nat.zero_max]
        exact (nanos_of_checkedAdd polls).ge
      exact {
        coherent := {
          held := working.held
          numbers := working.numbers
          closed := closed_of_running working .awaitingUser (by decide)
          stage := .awaitingUser rfl held fresh _ rfl
            { device := by
                refine ⟨device, present, rfl, now, ?_, nanos_of_checkedAdd ends⟩
                simp [Told.read, unread, present] }
            (.inl ⟨rfl, idle, taken.2, now, by simp [Told.read, taken.1], rested⟩)
            draft deferred blank.1 blank.2.2.2.2 ⟨rfl, rfl, rfl⟩ }
        moved := moved_bump working.past }
    · exact (finishes_fail (working.read now) _ (by simp [Told.read, fresh])).does

theorem does_deferPoll (working : Working before told controller)
    (held : told.held.isSome = true) (fresh : told.replaced = false)
    {authorization : Authorization} (present : controller.authorization = some authorization)
    (paced : Paced told authorization) (taken : Unread told)
    (idle : controller.pending = none) (draft : controller.draft = none)
    (deferred : controller.deferred = none) (login : controller.snapshot.login = none)
    (access : controller.snapshot.accessExpiresAt = none) (shown : CodeShown controller.snapshot)
    (code : SecretValue) {retry : Option Duration} (postponed : told.postponed ≤ retry.getD 0) :
    Does before (fun _ after later => Settled before later after)
      controller told (deferPoll code retry) := by
  have secured : Secured told controller := by simp [Secured, fresh]
  apply Agent.Acts.ite
  · intro
    exact (finishes_fail working _ (by simp [fresh])).does
  · intro
    apply does_steadyNow working secured
    intro now
    apply Agent.Acts.get_bind
    rw [present]
    dsimp only
    split
    · exact (finishes_fail (working.read now) _ (by simp [Told.read, fresh])).does
    next deadline sum =>
      have rested : now.nanos + max told.postponed authorization.interval ≤ deadline.nanos := by
        rw [nanos_of_checkedAdd sum]
        cases retry with
        | none => exact Nat.add_le_add_left (Nat.max_le.mpr
            ⟨postponed.trans (Nat.zero_le _), Nat.le_max_right _ _⟩) _
        | some delay => exact Nat.add_le_add_left (max_le_max_right _ postponed) _
      exact {
        coherent := {
          held := working.held
          numbers := working.numbers
          closed := closed_of_running working .awaitingUser (by decide)
          stage := .awaitingUser rfl held fresh _ rfl ⟨(paced.read now).device⟩
            (.inl ⟨rfl, idle, taken.2, now, by simp [Told.read, taken.1], rested⟩) draft deferred login access
            shown }
        moved := moved_bump working.past }

/-- Tokens that a worker granted are looked at, with no effect on the controller. -/
theorem does_credentials {next : Except TwitchAuthenticationControllerError TwitchCredentialSet →
      SignIn α} (working : Working before told controller) (secured : Secured told controller)
    (grant : TwitchTokenGrant) (rest : ∀ found, Does before post controller told (next found)) :
    Does before post controller told (credentials grant >>= next) := by
  apply Agent.Acts.bind fun _ after later => after = controller ∧ later = told
  · apply Agent.Acts.ite
    · exact fun _ => ⟨rfl, rfl⟩
    · intro
      apply does_systemNow working secured
      intro today
      split <;> exact ⟨rfl, rfl⟩
  · rintro found _ _ ⟨rfl, rfl⟩
    exact rest found

theorem does_makeSchedule {next : Except TwitchAuthenticationControllerError Schedule → SignIn α}
    (working : Working before told controller) (secured : Secured told controller)
    (expiry : SystemTime)
    (rest : ∀ now found, Does before post controller (told.read now) (next found)) :
    Does before post controller told (makeSchedule expiry >>= next) := by
  apply Agent.Acts.bind fun _ after later => after = controller ∧ ∃ now, later = told.read now
  · apply does_steadyNow working secured
    intro now
    apply does_systemNow (working.read now) secured
    intro today
    dsimp only
    split <;> exact ⟨rfl, now, rfl⟩
  · rintro found _ _ ⟨rfl, now, rfl⟩
    exact rest now found

theorem does_acceptGrant (working : Working before told controller)
    (held : told.held.isSome = true) (fresh : told.replaced = false)
    (room : controller.nextRequest ≠ maxNumber) (idle : controller.pending = none)
    (deferred : controller.deferred = none) (grant : TwitchTokenGrant) :
    Does before (fun _ after later => Settled before later after)
      controller told (acceptGrant grant) := by
  apply Agent.Acts.modify_bind
  have cleared : Working before told { controller with authorization := none }.clearPublic :=
    ⟨working.held, working.numbers, working.running, working.past⟩
  apply does_credentials cleared (by simp [Secured, fresh])
  intro found
  cases found with
  | error error => exact (finishes_fail cleared _ (by simp [fresh])).does
  | ok credentials =>
    apply Agent.Acts.modify_bind
    apply Finishes.does
    exact finishes_dispatchCredentials {
      working := cleared.drafted _, held := held, room := room, idle := idle, present := rfl
      replaced := by simp [fresh]
      authorization := rfl, deferred := deferred, blank := ⟨rfl, rfl, rfl, rfl, rfl⟩ } rfl rfl (by simp [fresh])

theorem settled_connected (working : Working before told controller)
    (gone : controller.transaction = none) (idle : controller.pending = none)
    {connected : TwitchSessionOwnerSnapshot} {earlier : List TwitchSessionOwnerSnapshot}
    (seen : told.seen = connected :: earlier) (schedule : Schedule) :
    Settled before told (controller.setConnected connected schedule) where
  coherent := {
    held := working.held
    numbers := working.numbers
    closed := closed_of_running working .connected (by decide)
    stage := .connected rfl ⟨gone, rfl, rfl, idle, rfl⟩ _ rfl connected (by simp [seen])
      (by simp [seen]) rfl rfl rfl rfl rfl rfl }
  moved := moved_bump working.past

section taken
variable {draft : Draft}

theorem Taken.secured (taken : Taken before told controller draft) : Secured told controller := by
  intro _ replaced
  left
  rw [rotated, taken.present]
  exact taken.replaced replaced

theorem Taken.open (taken : Taken before told controller draft) :
    ∃ id, controller.transaction = some id ∧ told.held = some id := by
  obtain ⟨id, held⟩ := Option.isSome_iff_exists.mp taken.held
  exact ⟨id, taken.working.held.trans held, held⟩

/-- The session is given up as the draft says. -/
theorem Taken.gives (taken : Taken before told controller draft)
    (error : TwitchAuthenticationControllerError) :
    Does before post controller told (fail error draft.rotated : SignIn α) :=
  (finishes_fail taken.working error fun _ replaced => .inl (taken.replaced replaced)).does

theorem Taken.erases (taken : Taken before told controller draft)
    (error : TwitchAuthenticationControllerError) :
    Does before post controller told (fail error true : SignIn α) :=
  (finishes_fail taken.working error fun _ _ => .inl rfl).does

theorem Taken.read (taken : Taken before told controller draft) (now : Instant) :
    Taken before (told.read now) controller draft :=
  { taken with
    working := taken.working.read now, held := taken.held, replaced := taken.replaced }

theorem does_commitValidated (taken : Taken before told controller draft)
    (session : TwitchSession) : Does before (fun _ after later => Settled before later after)
      controller told (commitValidated draft session) := by
  obtain ⟨id, isOpen, held⟩ := taken.open
  apply Agent.Acts.get_bind
  rw [isOpen]
  apply does_makeSchedule taken.working taken.secured
  intro now found
  cases found with
  | error error => exact (taken.read now).gives error
  | ok schedule =>
    refine Agent.Acts.ask_bind (by exact held) fun committed => ?_
    cases committed with
    | error error =>
      apply Finishes.does
      apply finishes_fail (taken.working.attended _ _)
      · intro _ replaced
        apply Or.inl
        apply taken.replaced
        simpa [Told.note, Told.attend, Told.read, opened, replaces] using replaced
      · rfl
      · rfl
    | ok connected =>
      apply Agent.Acts.modify
      refine settled_connected (taken.working.dropped ?_ ?_) rfl taken.idle (by rfl) schedule <;> rfl

theorem does_acceptValidation (taken : Taken before told controller draft)
    (credentials : TwitchCredentialSet) (identity : TwitchValidatedIdentity) :
    Does before (fun _ after later => Settled before later after)
      controller told (acceptValidation credentials identity) := by
  apply Agent.Acts.get_bind
  rw [taken.present]
  apply Agent.Acts.ite
  · exact fun _ => taken.erases _
  · intro
    apply Agent.Acts.ite
    · exact fun _ => taken.erases _
    · intro
      apply does_systemNow taken.working taken.secured
      intro today
      split
      · exact taken.erases _
      · dsimp only
        split
        · exact taken.erases _
        · exact does_commitValidated taken _

theorem does_acceptRotation (taken : Taken before told controller draft)
    (grant : TwitchTokenGrant) : Does before (fun _ after later => Settled before later after)
      controller told (acceptRotation grant) := by
  obtain ⟨id, isOpen, held⟩ := taken.open
  have renewed := @Taken.renewed before controller told draft { draft with rotated := true } told
    taken rfl rfl fun _ => rfl
  apply Agent.Acts.get_bind
  rw [taken.present]
  apply Agent.Acts.modify_bind
  split
  · exact (finishes_fail renewed.working _ fun _ _ => .inl rfl).does
  next userId login known =>
    apply does_credentials renewed.working
    · exact fun _ _ => .inl rfl
    · intro found
      cases found with
      | error error => exact (finishes_fail renewed.working _ fun _ _ => .inl rfl).does
      | ok credentials =>
        dsimp only
        rw [isOpen] at renewed ⊢
        refine Agent.Acts.ask_bind (by exact held) fun persisted => ?_
        cases persisted with
        | error error =>
          apply Finishes.does
          apply finishes_fail (renewed.working.attended _ _) _ fun _ _ => .inl rfl <;> rfl
        | ok _ =>
          apply Agent.Acts.modify_bind
          apply Finishes.does
          refine finishes_dispatchCredentials (renewed.renewed ?_ ?_ fun _ => rfl) rfl rfl
            fun _ => rfl
          all_goals rfl

end taken

theorem retryDelay_le (delay : Option Duration) : retryDelay delay ≤ Duration.fromSecs 86400 := by
  unfold retryDelay
  cases found : delay.filter fun value => value != 0 && value ≤ Duration.fromSecs 86400 with
  | none => decide
  | some value =>
    have inside := (Option.filter_eq_some_iff.mp found).2
    simp only [Bool.and_eq_true, decide_eq_true_eq] at inside
    exact inside.2

theorem late_of_retry {now : Instant} {delay : Option Duration}
    (lost : now.checkedAdd (retryDelay delay) = none) : (told.read now).Late := by
  refine ⟨now, rfl, ?_⟩
  have within := retryDelay_le delay
  unfold Instant.checkedAdd at lost ⊢
  split at lost
  · cases lost
  next far =>
    exact if_neg fun near => far (Nat.lt_of_le_of_lt (Nat.add_le_add_left within _) near)

section failures
variable {draft : Draft} {phase : Phase}

theorem does_retryCredentials (taken : Taken before told controller draft)
    (carries : phase.hasCredentials = true)
    (rotates : told.replaced = true → phase = .validateRotated) (error : TwitchError)
    (credentials : TwitchCredentialSet) : Does before (fun _ after later => Settled before later after)
      controller told (retryCredentials phase error credentials) := by
  have renewed := @Taken.renewed before controller told draft
    { draft with credentials := some credentials } told taken rfl rfl taken.replaced
  apply Agent.Acts.get_bind
  rw [taken.present]
  apply Agent.Acts.ite
  · exact fun _ => taken.erases _
  · intro
    apply Agent.Acts.modify_bind
    apply Agent.Acts.ite
    · intro
      apply does_steadyNow renewed.working renewed.secured
      intro now
      split
      next lost => exact (finishes_fail (renewed.working.read now) _ fun _ _ => .inr (late_of_retry lost)).does
      next deadline sum =>
        exact {
          coherent := {
            held := taken.working.held
            numbers := taken.working.numbers
            closed := closed_of_running taken.working phase.state (by cases phase <;> decide)
            stage := .checking phase carries rfl taken.held _ rfl taken.replaced rotates
              taken.authorization (.later taken.idle rfl deadline rfl) taken.blank }
          moved := moved_bump taken.working.past }
    · intro
      apply Agent.Acts.ite
      · rintro ⟨_, saved⟩
        apply Finishes.does
        apply finishes_dispatchCredentials renewed rfl rfl
        intro replaced
        rw [rotates replaced] at saved
        simp at saved
      · intro
        apply Finishes.does
        apply finishes_fail renewed.working
        intro _ replaced
        rw [rotates replaced]
        exact .inl rfl

end failures

/-- What the controller is like when the answer for the phase was taken. -/
inductive Ready (before : TwitchConnectionSnapshot) (told : Told)
    (controller : TwitchAuthenticationController) : Phase → Prop
  | start (working : Working before told controller) (held : told.held.isSome = true)
      (fresh : told.replaced = false) (idle : controller.pending = none)
      (draft : controller.draft = none) (deferred : controller.deferred = none)
      (blank : Blank controller.snapshot) : Ready before told controller .start
  | poll (working : Working before told controller) (held : told.held.isSome = true)
      (fresh : told.replaced = false) (room : controller.nextRequest ≠ maxNumber)
      (idle : controller.pending = none) (authorization : Authorization)
      (present : controller.authorization = some authorization) (paced : Paced told authorization)
      (draft : controller.draft = none) (deferred : controller.deferred = none)
      (login : controller.snapshot.login = none)
      (access : controller.snapshot.accessExpiresAt = none)
      (shown : CodeShown controller.snapshot) : Ready before told controller .poll
  | checked {phase : Phase} {draft : Draft} (taken : Taken before told controller draft)
      (carries : phase.hasCredentials = true)
      (rotates : told.replaced = true → phase = .validateRotated) : Ready before told controller phase
  | revoke (working : Working before told controller) : Ready before told controller .revoke

section ready
variable {phase : Phase}

theorem Ready.working (ready : Ready before told controller phase) :
    Working before told controller := by
  cases ready with
  | start working => exact working
  | poll working => exact working
  | checked taken => exact taken.working
  | revoke working => exact working

theorem Ready.safe (ready : Ready before told controller phase) (other : phase ≠ .revoke)
    (replaced : told.replaced = true) : phase = .validateRotated := by
  cases ready with
  | start _ _ fresh => simp [fresh] at replaced
  | poll _ _ fresh => simp [fresh] at replaced
  | checked _ _ rotates => exact rotates replaced
  | revoke => exact absurd rfl other

theorem does_finishDisconnect (working : Working before told controller)
    (diagnostic : Option TwitchAuthenticationControllerError) :
    Does before (fun _ after later => Settled before later after)
      controller told (finishDisconnect diagnostic) := by
  apply Finishes.does
  apply Agent.Acts.weaken (finishes_finishDisconnect working diagnostic)
  · exact fun _ _ _ reached => reached.2
  · exact fun _ _ _ ended => ended

theorem does_refuseResult (working : Working before told controller)
    (safe : phase ≠ .revoke → told.replaced = true → phase = .validateRotated) :
    Does before (fun _ after later => Settled before later after)
      controller told (refuseResult phase) := by
  apply Finishes.does
  unfold refuseResult
  by_cases revokes : phase = .revoke
  · rw [if_pos revokes]
    apply Agent.Acts.bind _ (finishes_finishDisconnect working _)
    rintro _ after later ⟨none, _⟩
    cases none
  · rw [if_neg revokes]
    apply finishes_fail working
    intro _ replaced
    simp [safe revokes replaced]

theorem does_handleFailure (ready : Ready before told controller phase) (taken : Unread told)
    {error : TwitchError} (postponed : error.disposition = .retry →
      told.postponed = retryDelay error.retryAfter) (retained : Option TwitchAuthenticationSecret) :
    Does before (fun _ after later => Settled before later after)
      controller told (handleFailure phase error retained) := by
  have gives (other : phase ≠ .revoke) (found : TwitchAuthenticationControllerError) :
      Does before (fun (_ : Unit) after later => Settled before later after) controller told
        (fail found (erases phase)) := by
    apply Finishes.does
    apply finishes_fail ready.working
    intro _ replaced
    rw [ready.safe other replaced]
    exact .inl rfl
  apply Agent.Acts.ite
  · exact fun _ => does_finishDisconnect ready.working _
  · intro other
    apply Agent.Acts.ite
    · rintro ⟨rfl, retry⟩
      cases ready with
      | checked _ carries => cases carries
      | poll working held fresh room idle authorization present paced draft deferred login access shown =>
        split
        · exact does_deferPoll working held fresh present paced taken idle draft deferred login access
            shown _ (postponed retry).le
        · exact (finishes_fail working _ (by simp [fresh])).does
    · intro
      apply Agent.Acts.ite
      · intro carries
        split
        next credentials =>
          cases ready with
          | checked draft carries rotates => exact does_retryCredentials draft carries rotates error _
          | start => cases carries
          | poll => cases carries
          | revoke => cases carries
        · exact gives other _
      · exact fun _ => gives other _

/-- The answer that starts a sign-in comes with the device. -/
def DeviceTold (told : Told) (success : TwitchAuthenticationSuccess) : Prop :=
  ∀ device, success = .started device → told.device = some device ∧ told.started = none

theorem does_handleSuccess (ready : Ready before told controller phase)
    (taken : Unread told) (prompt : told.postponed = 0) {success : TwitchAuthenticationSuccess}
    (device : phase = .start → DeviceTold told success) :
    Does before (fun _ after later => Settled before later after) controller told (handleSuccess phase success) := by
  have gives (other : phase ≠ .revoke) :
      Does before (fun (_ : Unit) after later => Settled before later after) controller told
        (fail .invalidResult (phase = .validateRotated)) := by
    apply Finishes.does
    apply finishes_fail ready.working
    intro _ replaced
    simp [ready.safe other replaced]
  cases ready with
  | start working held fresh idle draft deferred blank =>
    cases success with
    | started found =>
      obtain ⟨present, unread⟩ := device rfl found rfl
      exact does_acceptDevice working held fresh present unread taken prompt idle draft deferred blank
    | _ => exact gives (by decide)
  | poll working held fresh room idle authorization present paced draft deferred login access shown =>
    cases success with
    | pending code =>
      exact does_deferPoll working held fresh present paced taken idle draft deferred login access
        shown _ prompt.le
    | granted grant => exact does_acceptGrant working held fresh room idle deferred grant
    | _ => exact gives (by decide)
  | checked draft carries rotates =>
    cases phase with
    | refresh =>
      cases success with
      | refreshed grant => exact does_acceptRotation draft grant
      | _ => exact gives (by decide)
    | start => cases carries
    | poll => cases carries
    | revoke => cases carries
    | _ =>
      cases success with
      | validated credentials identity => exact does_acceptValidation draft credentials identity
      | _ => exact gives (by decide)
  | revoke working =>
    cases success <;> exact does_finishDisconnect working _

end ready

end rules
end TwitchAuthenticationController
end MannyUploader.Application
