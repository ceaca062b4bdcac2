import MannyUploader.Application.SessionLedger

/-! Each call of the session owner moves its session as its answer says. -/
namespace MannyUploader.Application
open Domain Foundation
namespace TwitchSessionOwner
variable {W : Type} {ports : StorePorts W} {owner : TwitchSessionOwner W}

@[simp] theorem throughConfiguration_state {failure : TwitchSessionOwnerError}
    {call : ConfigurationService.Call W α} :
    (throughConfiguration failure call owner).2.state = owner.state := by
  change ((if owner.poisoned then Stateful.fail failure
    else if owner.configuration.shuttingDown then Stateful.fail .shuttingDown
    else Stateful.wrapping (fun _ => failure) (ofConfiguration call)) owner).2.state = _
  split
  · rfl
  · split <;> rfl

@[simp] theorem persist_state (session : TwitchSession) :
    (persist ports session owner).2.state = owner.state := by
  unfold persist
  cases encodeTwitchSession session with
  | error error => rfl
  | ok encoded => exact throughConfiguration_state

@[simp] theorem erase_state : (erase ports owner).2.state = owner.state :=
  throughConfiguration_state

theorem check_ok {state : State} {id : UInt64} {pending : Pending}
    (checked : state.check id = .ok pending) :
      state.stopping = false ∧ state.pending = some pending ∧ pending.id = id := by
  unfold State.check at checked
  split at checked
  · contradiction
  next running =>
    split at checked
    next found present =>
      split at checked
      next same =>
        cases checked
        exact ⟨by simpa using running, present, same⟩
      · contradiction
    · contradiction

theorem check_error {state : State} {id : UInt64} {error : TwitchSessionOwnerError}
    (refused : state.check id = .error error) :
      (state.stopping = true ∧ error = .shuttingDown) ∨ error = .staleTransaction := by
  unfold State.check at refused
  split at refused
  next stopping =>
    cases refused
    exact .inl ⟨stopping, rfl⟩
  · split at refused
    · split at refused
      · contradiction
      · cases refused
        exact .inr rfl
    · cases refused
      exact .inr rfl

/-- A call of the configuration fails with its own error or because it is shutting down. -/
theorem throughConfiguration_ne {failure other : TwitchSessionOwnerError}
    {call : ConfigurationService.Call W α} (differs : other ≠ failure)
    (closes : other ≠ .shuttingDown) : (throughConfiguration failure call owner).1 ≠ .error other := by
  change ((if owner.poisoned then Stateful.fail failure
    else if owner.configuration.shuttingDown then Stateful.fail .shuttingDown
    else Stateful.wrapping (fun _ => failure) (ofConfiguration call)) owner).1 ≠ _
  intro same
  split at same
  · cases same
    exact differs rfl
  · split at same
    · cases same
      exact closes rfl
    · change ((ofConfiguration call owner).1.mapError fun _ => failure) = _ at same
      cases answer : (ofConfiguration call owner).1 with
      | ok value => simp [answer, Except.mapError] at same
      | error error =>
        simp only [answer, Except.mapError, Except.error.injEq] at same
        exact differs same.symm

theorem checkIdentity_ok {state : State} {id : UInt64} {session : TwitchSession}
    (checked : state.checkIdentity id session = .ok ()) : Fits state id session := by
  obtain ⟨pending, found, checked⟩ := bind_ok checked
  refine ⟨pending, found, fun user bound => ?_⟩
  split at checked
  · contradiction
  next same => simpa [bound] using same

/-- A call that begins with a check does nothing where the check fails. -/
theorem checking_bind {check : State → Except TwitchSessionOwnerError α} {next : α → Call W β} :
    (checking check >>= next) owner = match check owner.state with
      | .ok value => next value owner
      | .error error => (.error error, owner) := by
  rw [Stateful.bind_apply]
  unfold checking
  cases check owner.state <;> rfl

theorem wrapping_checking_bind {check : State → Except TwitchSessionOwnerError α}
    {wrap : TwitchSessionOwnerError → ε} {next : α → Stateful (TwitchSessionOwner W) ε β} :
    (Stateful.wrapping wrap (checking check) >>= next) owner = match check owner.state with
      | .ok value => next value owner
      | .error error => (.error (wrap error), owner) := by
  rw [Stateful.bind_apply]
  unfold Stateful.wrapping checking
  cases check owner.state <;> rfl

theorem get_bind {ε : Type} {next : TwitchSessionOwner W → Stateful (TwitchSessionOwner W) ε α} :
    (get >>= next) owner = next owner owner := rfl

theorem change_bind {effect : State → State} {next : Unit → Call W α} :
    (change effect >>= next) owner = next () { owner with state := effect owner.state } := rfl

theorem requireDisconnected_bind {next : Unit → Call W α} :
    (requireDisconnected >>= next) owner =
      match owner.state.idle with
      | .ok () => if owner.state.active.isSome then (.error .busy, owner) else next () owner
      | .error error => (.error error, owner) := by
  rw [Stateful.bind_apply]
  unfold requireDisconnected
  rw [checking_bind]
  cases owner.state.idle with
  | error error => rfl
  | ok value =>
    dsimp only
    rw [get_bind]
    by_cases present : owner.state.active.isSome = true
    · rw [if_pos present, if_pos present]
      rfl
    · rw [if_neg present, if_neg present]
      rfl

/-- A save leaves the session as it is. -/
theorem persist_mk (session : TwitchSession) {answer : Except TwitchSessionOwnerError Unit}
    {after : TwitchSessionOwner W} (saved : persist ports session owner = (answer, after)) :
    after.state = owner.state := by
  have kept : (persist ports session owner).2.state = owner.state := persist_state session
  rwa [saved] at kept

theorem dropped_discard {id : UInt64} {eraseSaved : Bool}
    {answer : Except TwitchSessionOwnerError Unit} (answered : answer ≠ .error .staleTransaction) :
    dropped ⟨.discard id eraseSaved, answer⟩ = true := by
  cases answer with
  | ok value => rfl
  | error error => cases error <;> first | rfl | exact absurd rfl answered

theorem dropped_eraseSaved {answer : Except TwitchSessionOwnerError Unit}
    (answered : answer ≠ .error .busy) : dropped ⟨.eraseSaved, answer⟩ = true := by
  cases answer with
  | ok value => rfl
  | error error => cases error <;> first | rfl | exact absurd rfl answered

theorem requireDisconnected_opens {id : UInt64} {session : Option TwitchSession}
    (idle : owner.state.idle = .ok ()) (absent : ¬owner.state.active.isSome = true)
    (next : id = owner.state.nextTransaction) :
    Opens owner.state id session false (owner.state.reserve (session.map (·.userId)) false) where
  idle := idle
  next := next
  lends := by simp
  absent := by simpa using absent
  effect := by
    have none : owner.state.active = none := by simpa using absent
    unfold State.reserve
    rw [none]

/-! What each call does to the session. -/

/-- The call, with its answer, has the effect. -/
abbrev Performs (ports : StorePorts W) (owner : TwitchSessionOwner W) (call : OwnerCall) : Prop :=
  Effect ⟨call, (perform ports call owner).1⟩ owner.state (perform ports call owner).2.state

/-- A call that is known to answer and to leave the owner in this way. -/
theorem performs_of_eq {call : OwnerCall} {answer : call.Answer} {after : TwitchSessionOwner W}
    (same : perform ports call owner = (answer, after))
    (effect : Effect ⟨call, answer⟩ owner.state after.state) : Performs ports owner call := by
  unfold Performs
  rw [same]
  exact effect

theorem performs_commit (id : UInt64) (session : TwitchSession) :
    Performs ports owner (.commit id session) := by
  change Effect ⟨.commit id session, (commit ports id session owner).1⟩ _
    (commit ports id session owner).2.state
  unfold commit
  rw [checking_bind]
  cases checked : owner.state.checkIdentity id session with
  | error error => exact .quiet rfl rfl rfl
  | ok value =>
    dsimp only
    rw [Stateful.bind_apply]
    cases saved : persist ports session owner with
    | mk answer after =>
      have kept := persist_mk session saved
      cases answer with
      | error error =>
        dsimp only
        rw [kept]
        exact .quiet rfl rfl rfl
      | ok value =>
        dsimp only
        rw [change_bind, get_bind, kept]
        exact .commits id session (checkIdentity_ok checked) rfl

theorem performs_persistPending (id : UInt64) (session : TwitchSession) :
    Performs ports owner (.persistPending id session) := by
  change Effect ⟨.persistPending id session, (persistPending ports id session owner).1⟩ _
    (persistPending ports id session owner).2.state
  unfold persistPending
  rw [checking_bind]
  cases checked : owner.state.checkIdentity id session with
  | error error => exact .quiet rfl rfl rfl
  | ok value =>
    dsimp only
    rw [checking_bind]
    cases found : owner.state.check id with
    | error error => exact .quiet rfl rfl rfl
    | ok pending =>
      dsimp only
      cases absent : pending.userId.isNone with
      | true => exact .quiet rfl rfl rfl
      | false =>
        rw [if_neg (by simp), change_bind, persist_state]
        exact .barred id session rfl (checkIdentity_ok checked)

theorem performs_restore (id : UInt64) (session : TwitchSession) :
    Performs ports owner (.restore id session) := by
  change Effect ⟨.restore id session, (restore id session owner).1⟩ _
    (restore id session owner).2.state
  unfold restore
  rw [checking_bind]
  cases checked : owner.state.checkIdentity id session with
  | error error => exact .quiet rfl rfl rfl
  | ok value =>
    dsimp only
    rw [checking_bind]
    cases found : owner.state.check id with
    | error error => exact .quiet rfl rfl rfl
    | ok pending =>
      dsimp only
      cases restorable : pending.restorable with
      | false => exact .quiet rfl rfl rfl
      | true =>
        rw [if_neg (by simp)]
        cases encodeTwitchSession session with
        | error error => exact .quiet rfl rfl rfl
        | ok encoded =>
          exact .restores id session (checkIdentity_ok checked)
            ⟨pending, (check_ok found).2.1, restorable⟩ rfl

theorem performs_discard (id : UInt64) (eraseSaved : Bool) :
    Performs ports owner (.discard id eraseSaved) := by
  change Effect ⟨.discard id eraseSaved, (discard ports id eraseSaved owner).1⟩ _
    (discard ports id eraseSaved owner).2.state
  unfold discard
  rw [checking_bind]
  cases found : owner.state.check id with
  | error error =>
    rcases check_error found with ⟨stopping, _⟩ | rfl
    · exact .stopped rfl rfl stopping
    · exact .quiet rfl rfl rfl
  | ok pending =>
    dsimp only
    rw [change_bind]
    cases eraseSaved with
    | false => exact .drops _ rfl rfl rfl
    | true =>
      rw [if_pos rfl, erase_state]
      exact .drops _ rfl rfl (dropped_discard (throughConfiguration_ne (by simp) (by simp)))

theorem performs_eraseSaved : Performs ports owner .eraseSaved := by
  change Effect ⟨.eraseSaved, (eraseSaved ports owner).1⟩ _ (eraseSaved ports owner).2.state
  unfold eraseSaved
  rw [get_bind]
  cases stopping : owner.state.stopping with
  | true => exact .stopped rfl rfl stopping
  | false =>
    cases pending : owner.state.pending with
    | some _ => exact .quiet rfl rfl rfl
    | none =>
      rw [if_neg (by simp), if_neg (by simp), change_bind, erase_state]
      have same : ({ owner.state with active := none } : State) =
          { owner.state with active := none, pending := none } := by rw [← pending]
      rw [same]
      exact .drops _ rfl rfl (dropped_eraseSaved (throughConfiguration_ne (by simp) (by simp)))

theorem performs_checkoutSaved : Performs ports owner .checkoutSaved := by
  change Effect ⟨.checkoutSaved, (checkoutSaved ports owner).1⟩ _
    (checkoutSaved ports owner).2.state
  unfold checkoutSaved
  rw [requireDisconnected_bind]
  cases idle : owner.state.idle with
  | error error => exact .quiet rfl rfl rfl
  | ok value =>
    dsimp only
    by_cases present : owner.state.active.isSome = true
    · rw [if_pos present]
      exact .quiet rfl rfl rfl
    · rw [if_neg present, Stateful.bind_apply]
      have kept : (throughConfiguration .loadFailed (loadSaved ports) owner).2.state = owner.state :=
        throughConfiguration_state
      cases read : throughConfiguration .loadFailed (loadSaved ports) owner with
      | mk answer after =>
        rw [read] at kept
        replace kept : after.state = owner.state := kept
        cases answer with
        | error error => exact kept ▸ .quiet rfl rfl rfl
        | ok encoded =>
          cases encoded with
          | none => exact kept ▸ .quiet rfl rfl rfl
          | some encoded =>
            dsimp only
            cases decodeTwitchSession encoded with
            | error error => exact kept ▸ .quiet rfl rfl rfl
            | ok session =>
              have same : after.state.reserve (some session.userId) false =
                  owner.state.reserve ((some session).map (·.userId)) false := by rw [kept]; rfl
              apply Effect.opens rfl rfl
              change Opens owner.state after.state.nextTransaction (some session) false
                (after.state.reserve (some session.userId) false)
              rw [same]
              exact requireDisconnected_opens idle present (by rw [kept])

theorem performs_beginNew (session : TwitchSession) :
    Performs ports owner (.beginNew session) := by
  change Effect ⟨.beginNew session, (beginNew session owner).1⟩ _ (beginNew session owner).2.state
  unfold beginNew
  rw [requireDisconnected_bind]
  cases idle : owner.state.idle with
  | error error => exact .quiet rfl rfl rfl
  | ok value =>
    dsimp only
    by_cases present : owner.state.active.isSome = true
    · rw [if_pos present]
      exact .quiet rfl rfl rfl
    · rw [if_neg present]
      exact .opens rfl rfl (@requireDisconnected_opens _ _ _ (some session) idle present rfl)

theorem performs_reserveNew : Performs ports owner .reserveNew := by
  change Effect ⟨.reserveNew, (reserveNew owner).1⟩ _ (reserveNew owner).2.state
  unfold reserveNew
  rw [requireDisconnected_bind]
  cases idle : owner.state.idle with
  | error error => exact .quiet rfl rfl rfl
  | ok value =>
    dsimp only
    by_cases present : owner.state.active.isSome = true
    · rw [if_pos present]
      exact .quiet rfl rfl rfl
    · rw [if_neg present]
      exact .opens rfl rfl (@requireDisconnected_opens _ _ _ none idle present rfl)

theorem performs_checkoutActive : Performs ports owner .checkoutActive := by
  change Effect ⟨.checkoutActive, (checkoutActive owner).1⟩ _ (checkoutActive owner).2.state
  unfold checkoutActive
  rw [checking_bind]
  cases idle : owner.state.idle with
  | error error => exact .quiet rfl rfl rfl
  | ok value =>
    dsimp only
    rw [get_bind]
    cases present : owner.state.active with
    | none => exact .quiet rfl rfl rfl
    | some session =>
      exact .opens rfl rfl ⟨idle, rfl, fun _ => ⟨session, rfl, present⟩, by simp, rfl⟩

theorem acquire_apply (stopRequested : Bool) : (acquire stopRequested owner).2 = owner ∧
    ∀ lent, (acquire stopRequested owner).1 = .ok lent →
      ∃ session, owner.state.active = some session ∧ lent = lease session owner.state.revision := by
  unfold acquire
  rw [get_bind]
  cases stopRequested with
  | true => exact ⟨rfl, fun lent same => by cases same⟩
  | false =>
    cases owner.state.stopping with
    | true => exact ⟨rfl, fun lent same => by cases same⟩
    | false =>
      cases owner.state.pending with
      | some pending => exact ⟨rfl, fun lent same => by cases same⟩
      | none =>
        cases present : owner.state.active with
        | none => exact ⟨rfl, fun lent same => by cases same⟩
        | some session =>
          refine ⟨rfl, fun lent same => ?_⟩
          cases same
          exact ⟨session, rfl, rfl⟩

theorem performs_acquire (stopRequested : Bool) :
    Performs ports owner (.acquire stopRequested) := by
  change Effect ⟨.acquire stopRequested, (acquire stopRequested owner).1⟩ _
    (acquire stopRequested owner).2.state
  rw [(acquire_apply stopRequested).1]
  cases (acquire stopRequested owner).1 <;> exact .quiet rfl rfl rfl

/-- A recovery is turned down, answered with the present lease, or begun. -/
theorem beginRecovery_apply (owner : TwitchSessionOwner W) (rejected : TwitchDeliverySession)
    (stopRequested : Bool) :
    (∃ error, beginRecovery rejected stopRequested owner = (.error error, owner)) ∨
      (∃ session, owner.state.active = some session ∧
        beginRecovery rejected stopRequested owner =
          (.ok (.inl (lease session owner.state.revision)), owner)) ∨
      ∃ session, owner.state.idle = .ok () ∧ owner.state.active = some session ∧
        beginRecovery rejected stopRequested owner =
          (.ok (.inr ⟨owner.state.nextTransaction, session⟩), { owner with state :=
            { owner.state.reserve (some session.userId) true with active := none } }) := by
  unfold beginRecovery
  cases stopRequested with
  | true => exact .inl ⟨_, rfl⟩
  | false =>
    rw [if_neg (by simp), wrapping_checking_bind]
    cases idle : owner.state.idle with
    | error error => exact .inl ⟨_, rfl⟩
    | ok value =>
      dsimp only
      rw [get_bind]
      cases present : owner.state.active with
      | none => exact .inl ⟨_, rfl⟩
      | some active =>
        dsimp only
        split
        · exact .inl ⟨_, rfl⟩
        · split
          · exact .inr (.inl ⟨active, rfl, rfl⟩)
          · split
            · exact .inl ⟨_, rfl⟩
            · exact .inr (.inr ⟨active, rfl, rfl, rfl⟩)

theorem performs_beginRecovery (rejected : TwitchDeliverySession) (stopRequested : Bool) :
    Performs ports owner (.beginRecovery rejected stopRequested) := by
  rcases beginRecovery_apply owner rejected stopRequested with
    ⟨error, same⟩ | ⟨session, _, same⟩ | ⟨session, idle, present, same⟩
  · exact performs_of_eq same (.quiet rfl rfl rfl)
  · exact performs_of_eq same (.quiet rfl rfl rfl)
  · exact performs_of_eq same
      (.opens rfl rfl ⟨idle, rfl, fun _ => ⟨session, rfl, present⟩, by simp, rfl⟩)

/-- Whatever is called has one of these effects on the session. -/
theorem performs (ports : StorePorts W) (owner : TwitchSessionOwner W) (call : OwnerCall) :
    Performs ports owner call := by
  cases call with
  | checkoutSaved => exact performs_checkoutSaved
  | beginNew session => exact performs_beginNew session
  | reserveNew => exact performs_reserveNew
  | checkoutActive => exact performs_checkoutActive
  | persistPending id session => exact performs_persistPending id session
  | commit id session => exact performs_commit id session
  | restore id session => exact performs_restore id session
  | discard id eraseSaved => exact performs_discard id eraseSaved
  | eraseSaved => exact performs_eraseSaved
  | check id =>
    change Effect ⟨.check id, ((checking (·.check id) >>= fun _ => pure () : Call W Unit) owner).1⟩ _
      ((checking (·.check id) >>= fun _ => pure () : Call W Unit) owner).2.state
    rw [checking_bind]
    cases owner.state.check id <;> exact .quiet rfl rfl rfl
  | connectionState => exact .quiet rfl rfl rfl
  | acquire stopRequested => exact performs_acquire stopRequested
  | beginRecovery rejected stopRequested => exact performs_beginRecovery rejected stopRequested
  | shutdown => exact .drops true rfl rfl rfl

/-- A lease is one of the session that is connected. -/
theorem leased_performed {call : OwnerCall} {lent : TwitchDeliverySession}
    (leases : leased ⟨call, (perform ports call owner).1⟩ = some lent) :
    ∃ session, owner.state.active = some session ∧ lent = lease session owner.state.revision := by
  cases call with
  | acquire stopRequested =>
    apply (acquire_apply stopRequested).2 lent
    change leased ⟨.acquire stopRequested, (acquire stopRequested owner).1⟩ = some lent at leases
    cases answer : (acquire stopRequested owner).1 with
    | ok found =>
      rw [answer] at leases
      cases leases
      rfl
    | error error =>
      rw [answer] at leases
      cases leases
  | beginRecovery rejected stopRequested =>
    change leased ⟨.beginRecovery rejected stopRequested,
      (beginRecovery rejected stopRequested owner).1⟩ = some lent at leases
    rcases beginRecovery_apply owner rejected stopRequested with
      ⟨error, same⟩ | ⟨session, present, same⟩ | ⟨session, _, _, same⟩
    · rw [same] at leases
      cases leases
    · rw [same] at leases
      cases leases
      exact ⟨session, present, rfl⟩
    · rw [same] at leases
      cases leases
  | _ => cases leases

end TwitchSessionOwner
end MannyUploader.Application
