import MannyUploader.Application.SessionOwnership
import MannyUploader.Application.TwitchSessionLaws

/-! The session that is connected is the one that was committed last, and where the store
replaces its record at once, the record is that session's. -/
namespace MannyUploader.Application
open Domain Foundation
namespace TwitchSessionOwner

/-- The session that was committed last, with its revision. -/
def committedLast (said : OwnerCalls) : Option (TwitchSession × UInt64) :=
  said.foldl (fun last entry => match connected entry with
    | some (session, some revision) => some (session, revision)
    | _ => last) none

theorem committedLast_snoc (said : OwnerCalls) (entry : OwnerEntry) :
    committedLast (said ++ [entry]) = match connected entry with
      | some (session, some revision) => some (session, revision)
      | _ => committedLast said := by
  simp [committedLast]

/-- What a session has to do with the one that was committed last. -/
structure Genuine (same : TwitchSession → TwitchSession → Prop) (said : OwnerCalls) (state : State) :
    Prop where
  active : ∀ session, state.active = some session →
    ∃ committed, committedLast said = some (committed, state.revision) ∧ same session committed
  /-- So is the session that may still be put back. -/
  lent : ∀ pending, state.pending = some pending → pending.restorable = true →
    ∃ session committed, (ledger said).lent = some session ∧
      committedLast said = some (committed, state.revision) ∧ same session committed

theorem Genuine.new {same : TwitchSession → TwitchSession → Prop} : Genuine same [] State.new where
  active := fun session present => by cases present
  lent := fun pending present => by cases present

/-- What a restore puts back in place of the session that was handed out. -/
def PutsBack (same : TwitchSession → TwitchSession → Prop) (said : OwnerCalls) :
    OwnerEntry → Prop
  | ⟨.restore _ session, .ok ()⟩ => ∀ lent, (ledger said).lent = some lent → same session lent
  | _ => True

section steps
variable {same : TwitchSession → TwitchSession → Prop} {said : OwnerCalls} {entry : OwnerEntry}
  {state state' : State}

theorem Genuine.quiet (genuine : Genuine same said state) (closed : opened entry = none)
    (idle : connected entry = none) (stays : dropped entry = false) :
    Genuine same (said ++ [entry]) state where
  active := by
    rw [committedLast_snoc, idle]
    exact genuine.active
  lent := by
    rw [committedLast_snoc, idle, ledger_snoc]
    simpa [Ledger.note, closed, idle, stays] using genuine.lent

theorem Genuine.drops (active : state'.active = none) (pending : state'.pending = none) :
    Genuine same (said ++ [entry]) state' where
  active := fun session present => by simp [active] at present
  lent := fun found present => by simp [pending] at present

theorem Genuine.opens (genuine : Genuine same said state) {id : UInt64}
    {session : Option TwitchSession} {restorable : Bool} (gives : opened entry = some (id, session))
    (idle : connected entry = none) (move : Opens state id session restorable state') :
    Genuine same (said ++ [entry]) state' := by
  rw [move.effect]
  constructor
  · intro session present
    cases present
  · intro pending present back
    cases present
    obtain ⟨lent, rfl, active⟩ := move.lends back
    obtain ⟨committed, last, agrees⟩ := genuine.active lent active
    refine ⟨lent, committed, ?_, ?_, agrees⟩
    · simp [Ledger.note, gives]
    · rw [committedLast_snoc, idle]
      exact last

theorem Genuine.barred (genuine : Genuine same said state) :
    Genuine same said { state with pending := state.pending.map ({ · with restorable := false }) } where
  active := genuine.active
  lent := by
    intro pending present back
    obtain ⟨before, _, rfl⟩ := Option.map_eq_some_iff.mp present
    cases back

/-- A session that is put back stands for the committed one as well as the one handed out. -/
theorem Genuine.step (genuine : Genuine same said state) (kept : Kept said state)
    (effect : Effect entry state state') (refl : ∀ session, same session session)
    (trans : ∀ a b c, same a b → same b c → same a c) (back : PutsBack same said entry) :
    Genuine same (said ++ [entry]) state' := by
  cases effect with
  | quiet closed idle stays => exact genuine.quiet closed idle stays
  | stopped closed idle stopping =>
    exact Genuine.drops (kept.stopped stopping).1 (kept.stopped stopping).2
  | barred id session called fits =>
    obtain ⟨call, answer⟩ := entry
    cases called
    exact genuine.barred.quiet rfl rfl rfl
  | opens gives idle begins => exact genuine.opens gives idle begins
  | commits id session fits entrySame =>
    cases entrySame
    constructor
    · intro found present
      cases present
      exact ⟨session, by rw [committedLast_snoc]; rfl, refl session⟩
    · intro pending present
      cases present
  | restores id session fits restorable entrySame =>
    cases entrySame
    obtain ⟨pending, present, restorable⟩ := restorable
    obtain ⟨lent, committed, handed, last, agrees⟩ := genuine.lent pending present restorable
    constructor
    · intro found present
      cases present
      refine ⟨committed, by rw [committedLast_snoc]; exact last, ?_⟩
      exact trans _ _ _ (back lent handed) agrees
    · intro pending present
      cases present
  | drops stopping closed idle gone => exact Genuine.drops rfl rfl

/-- A commit and a restore keep the user of the session that was handed out. -/
theorem Kept.user_of_fits (kept : Kept said state) {id : UInt64} {session lent : TwitchSession}
    (fits : Fits state id session) (handed : (ledger said).lent = some lent) :
    session.userId = lent.userId := by
  obtain ⟨pending, found, fits⟩ := fits
  have user := kept.bound pending (check_ok found).2.1
  rw [handed, Option.map_some] at user
  exact (fits lent.userId user).symm

theorem Kept.user_of_connected (kept : Kept said state) (effect : Effect entry state state')
    {session lent : TwitchSession} {revision : Option UInt64}
    (gives : connected entry = some (session, revision)) (handed : (ledger said).lent = some lent) :
    session.userId = lent.userId := by
  cases effect with
  | quiet closed idle stays => simp [idle] at gives
  | stopped closed idle stopping => simp [idle] at gives
  | barred id found called fits =>
    obtain ⟨call, answer⟩ := entry
    cases called
    cases gives
  | opens opening idle begins => simp [idle] at gives
  | commits id found fits entrySame =>
    cases entrySame
    cases gives
    exact kept.user_of_fits fits handed
  | restores id found fits restorable entrySame =>
    cases entrySame
    cases gives
    exact kept.user_of_fits fits handed
  | drops stopping closed idle gone => simp [idle] at gives

theorem Kept.putsBack_user (kept : Kept said state) (effect : Effect entry state state') :
    PutsBack (fun session lent => session.userId = lent.userId) said entry := by
  unfold PutsBack
  split
  · intro lent handed
    exact kept.user_of_connected effect rfl handed
  · trivial

end steps

/-- Every restore of the open transaction is given the session that was handed out for it. -/
def RestoresLent (said : OwnerCalls) (call : OwnerCall) : Prop :=
  ∀ id session, call = .restore id session → (ledger said).openId = some id →
    (ledger said).lent = some session

theorem Kept.putsBack_lent {said : OwnerCalls} {entry : OwnerEntry} {state state' : State}
    (kept : Kept said state) (effect : Effect entry state state')
    (asked : RestoresLent said entry.1) : PutsBack (· = ·) said entry := by
  unfold PutsBack
  split
  next id session =>
    intro lent handed
    cases effect with
    | quiet closed idle stays => cases idle
    | stopped closed idle stopping => cases idle
    | opens opening idle begins => cases idle
    | barred _ _ called => cases called
    | commits _ _ _ same => cases same
    | restores found _ fits _ same =>
      cases same
      obtain ⟨pending, checked, _⟩ := fits
      obtain ⟨_, present, sameId⟩ := check_ok checked
      have isOpen : (ledger said).openId = some id := by
        rw [kept.openId, present, Option.map_some, sameId]
      rw [asked id session rfl isOpen] at handed
      exact Option.some.inj handed
    | drops stopping closed idle gone => cases idle
  · trivial

section runs
variable {W : Type} {ports : StorePorts W} {may : OwnerCalls → OwnerCall → Prop}
  {configuration : ConfigurationService} {poisoned : Bool} {world : W}
  {said : OwnerCalls} {owner : TwitchSessionOwner W}

/-- A lease is always of a session of the user, and of the revision, that was committed last.
Whatever is put in keeps the user that the transaction was begun for. -/
theorem leases_of_committed
    (run : Attended (perform ports) Elsewhere may (.new configuration poisoned world) said owner) :
    EachAfter (fun past entry =>
      (∀ lent, leased entry = some lent → ∃ session committed,
        (ledger past).active = some session ∧ lent = lease session (ledger past).revision ∧
          committedLast past = some (committed, (ledger past).revision) ∧
          session.userId = committed.userId) ∧
      ∀ session revision lent, connected entry = some (session, revision) →
        (ledger past).lent = some lent → session.userId = lent.userId) said := by
  refine run.each (fun said owner => Kept said owner.state ∧
    Genuine (fun session committed => session.userId = committed.userId) said owner.state)
    ⟨Kept.new, Genuine.new⟩ ?_ ?_
  · rintro said owner call _ ⟨kept, genuine⟩
    have effect := performs ports owner call
    refine ⟨⟨kept.step effect, ?_⟩, ?_, ?_⟩
    · exact genuine.step kept effect (fun _ => rfl) (fun _ _ _ => Eq.trans)
        (kept.putsBack_user effect)
    · intro lent leases
      obtain ⟨session, active, same⟩ := leased_performed leases
      obtain ⟨committed, last, user⟩ := genuine.active session active
      rw [kept.active, kept.revision]
      exact ⟨session, committed, active, same, last, user⟩
    · intro session revision lent gives handed
      exact kept.user_of_connected effect gives handed
  · rintro said before after change ⟨kept, genuine⟩
    rw [show after.state = before.state from change]
    exact ⟨kept, genuine⟩

/-- A session is committed and lent. -/
theorem leases_of_committed_sample :
    ∃ session committed,
      (ledger (sampleCalls [.beginNew shortSession, .commit 1 shortSession]).1).active =
        some session ∧
      lease shortSession 1 = lease session
        (ledger (sampleCalls [.beginNew shortSession, .commit 1 shortSession]).1).revision ∧
      committedLast (sampleCalls [.beginNew shortSession, .commit 1 shortSession]).1 = some (committed,
        (ledger (sampleCalls [.beginNew shortSession, .commit 1 shortSession]).1).revision) ∧
      session.userId = committed.userId :=
  have laws := leases_of_committed (@Attended.of_converse _ _ _ (perform recordStores)
    Elsewhere (fun _ _ => True) (.new plainConfiguration false none)
    [.beginNew shortSession, .commit 1 shortSession, .acquire false] fun _ _ _ => trivial)
  (laws _ _ [] rfl).1 (lease shortSession 1) (by decide +kernel)

/-- The record of the session in the store is replaced at once, or left as it was. -/
structure AtomicRecord (ports : StorePorts W) (record : W → Option SecretValue) : Prop where
  loaded : ∀ world, record (ports.loadSecret .twitchOAuthSession world).2 = record world
  stored : ∀ value world, (ports.storeSecret .twitchOAuthSession value world).1 = .ok () →
    record (ports.storeSecret .twitchOAuthSession value world).2 = some value
  refused : ∀ value world error,
    (ports.storeSecret .twitchOAuthSession value world).1 = .error error →
      record (ports.storeSecret .twitchOAuthSession value world).2 = record world

/-- A session that is connected, or that may still be put back. -/
def Needed (said : OwnerCalls) (state : State) (session : TwitchSession) : Prop :=
  state.active = some session ∨
    ∃ pending, state.pending = some pending ∧ pending.restorable = true ∧
      (ledger said).lent = some session

def Recorded (record : W → Option SecretValue) (said : OwnerCalls) (owner : TwitchSessionOwner W) :
    Prop :=
  ∀ session, Needed said owner.state session →
    ∃ bytes, encodeTwitchSession session = .ok bytes ∧ record owner.world = some bytes

variable {record : W → Option SecretValue}

/-! What the calls do to the record. -/

section record
open ConfigurationService Stateful
variable {ε : Type} {id : SecretId}

theorem requireSecrets_world (P : W → Prop) :
    Keeps (fun part => P part.2) (requireSecrets id : ConfigurationService.Call W Unit) := by
  refine Triple.bind (?_ : Triple _ _ (fun _ part => P part.2) _) fun _ => ?_
  · unfold requireRunning
    apply Triple.get_bind
    intro part before
    apply Triple.ite
    · exact fun _ => Triple.fail fun _ same => same ▸ before
    · exact fun _ => Triple.pure fun _ same => same ▸ before
  · apply Triple.get_bind
    rintro ⟨service, world⟩ before
    dsimp only
    split
    · exact Triple.fail fun _ same => same ▸ before
    · exact Triple.pure fun _ same => same ▸ before

theorem answered_world {call : W → Except ε α × W} {wrap : ε → ConfigurationError}
    (P : W → Prop) (post : α → W → Prop) (failed : W → Prop)
    (succeeds : ∀ world value, P world → (call world).1 = .ok value → post value (call world).2)
    (fails : ∀ world error, P world → (call world).1 = .error error → failed (call world).2) :
    Triple (fun part => P part.2) (answered call wrap) (fun value part => post value part.2)
      fun _ part => failed part.2 := by
  rintro ⟨service, world⟩ before
  unfold answered
  have succeeds := succeeds world
  have fails := fails world
  cases answer : call world with
  | mk result after =>
    rw [answer] at succeeds fails
    dsimp only
    rw [answer]
    cases result with
    | ok value =>
      constructor
      · intro found same
        cases same
        exact succeeds value before rfl
      · intro found same
        cases same
    | error error =>
      constructor
      · intro found same
        cases same
      · intro found same
        cases same
        exact fails error before rfl

/-- Where the session is connected or may come back, the record stays. -/
def Guarded (before : Option SecretValue) (record : W → Option SecretValue)
    (owner : TwitchSessionOwner W) : Prop :=
  record owner.world = before ∨
    (owner.state.active = none ∧ ∀ pending, owner.state.pending = some pending →
      pending.restorable = false)

theorem throughConfiguration_world {failure : TwitchSessionOwnerError}
    {call : ConfigurationService.Call W α} (P : W → Prop) (post : α → W → Prop)
    (failed : W → Prop) (keeps : ∀ world, P world → failed world)
    (called : Triple (fun part => P part.2) call (fun value part => post value part.2)
      fun _ part => failed part.2) :
    Triple (fun owner => P owner.world) (throughConfiguration failure call)
      (fun value owner => post value owner.world) fun _ owner => failed owner.world := by
  apply Triple.get_bind
  intro owner before
  apply Triple.ite
  · exact fun _ => Triple.fail fun _ same => same ▸ keeps _ before
  · intro _
    apply Triple.ite
    · exact fun _ => Triple.fail fun _ same => same ▸ keeps _ before
    · intro _
      refine Triple.wrapping
        (?_ : Triple _ _ _ fun _ owner => failed owner.world) fun _ _ h => h
      apply Triple.onPart
      intro found same
      subst same
      exact called.weaken (fun part same => same ▸ before) (fun _ _ h => h) fun _ _ h => h

variable {before : Option SecretValue}

theorem loadSaved_world (atomic : AtomicRecord ports record) :
    Keeps (fun owner => record owner.world = before)
      (throughConfiguration .loadFailed (loadSaved ports)) := by
  refine throughConfiguration_world (record · = before) (fun _ => (record · = before))
    (record · = before) (fun _ h => h) ?_
  have loads : Keeps (fun part => record part.2 = before)
      (ConfigurationService.loadSecret ports .twitchOAuthSession) :=
    Triple.bind (requireSecrets_world (record · = before)) fun _ => answered_world
      (record · = before) (fun _ => (record · = before)) (record · = before)
      (fun world _ same _ => (atomic.loaded world).trans same)
      fun world _ same _ => (atomic.loaded world).trans same
  refine Triple.bind (Triple.attempt loads) fun answer => ?_
  apply Triple.of_state
  rintro part ⟨succeeds, fails⟩
  cases answer with
  | ok value => exact Triple.pure fun _ same => same ▸ succeeds value rfl
  | error error =>
    have kept := fails error rfl
    cases error with
    | secretLoad found =>
      apply Triple.ite
      · exact fun _ => Triple.pure fun _ same => same ▸ kept
      · exact fun _ => Triple.fail fun _ same => same ▸ kept
    | _ => exact Triple.fail fun _ same => same ▸ kept

/-- A save puts the record of the session in, or leaves what is there. -/
theorem persist_world (atomic : AtomicRecord ports record) (session : TwitchSession) :
    Triple (fun owner => record owner.world = before) (persist ports session)
      (fun _ owner => ∃ bytes, encodeTwitchSession session = .ok bytes ∧
        record owner.world = some bytes)
      fun _ owner => record owner.world = before := by
  unfold persist
  cases encoded : encodeTwitchSession session with
  | error error => exact Triple.fail fun _ h => h
  | ok bytes =>
    refine (throughConfiguration_world (record · = before) (fun _ => (record · = some bytes))
      (record · = before) (fun _ h => h) ?_).weaken (fun _ h => h)
      (fun _ _ saved => ⟨bytes, rfl, saved⟩) fun _ _ h => h
    exact Triple.bind (requireSecrets_world (record · = before)) fun _ => answered_world
      (record · = before) (fun _ => (record · = some bytes)) (record · = before)
      (fun world _ _ answered => atomic.stored bytes world answered)
      fun world error same answered => (atomic.refused bytes world error answered).trans same

theorem checking_spec {start : TwitchSessionOwner W}
    {check : State → Except TwitchSessionOwnerError α} :
    Triple (· = start) (checking check)
      (fun value owner => owner = start ∧ check start.state = .ok value)
      fun _ owner => owner = start := by
  rintro owner rfl
  exact ⟨fun value answer => ⟨rfl, answer⟩, fun _ _ => rfl⟩

theorem commit_world (before : Option SecretValue) (atomic : AtomicRecord ports record) (transaction : UInt64)
    (session : TwitchSession) :
    Triple (fun owner => record owner.world = before) (commit ports transaction session)
      (fun _ owner => ∃ bytes, encodeTwitchSession session = .ok bytes ∧
        record owner.world = some bytes)
      fun _ owner => record owner.world = before := by
  apply Triple.of_state
  rintro owner rfl
  refine Triple.bind (checking_spec.weaken (fun _ h => h) (fun _ _ h => h)
    fun _ after same => by rw [same]) fun _ => ?_
  refine Triple.bind ((persist_world atomic session).weaken
    (fun after h => by rw [h.1]) (fun _ _ h => h) fun _ _ h => h) fun _ => ?_
  apply Triple.modify_bind
  intro after saved
  apply Triple.get_bind
  rintro _ rfl
  exact Triple.pure fun _ same => same ▸ saved

/-! Calls that do not reach the store. -/

theorem checking_keeps (P : W → Prop) {check : State → Except TwitchSessionOwnerError α} :
    Keeps (fun owner : TwitchSessionOwner W => P owner.world) (checking check) :=
  fun _ h => ⟨fun _ _ => h, fun _ _ => h⟩

theorem change_keeps (P : W → Prop) {next : State → State} :
    Keeps (fun owner : TwitchSessionOwner W => P owner.world) (change next) :=
  fun _ h => ⟨fun _ _ => h, fun _ _ => h⟩

theorem start_keeps (P : W → Prop) {session : TwitchSession} {restorable : Bool} :
    Keeps (fun owner : TwitchSessionOwner W => P owner.world) (start session restorable) :=
  fun _ h => ⟨fun _ _ => h, fun _ _ => h⟩

theorem requireDisconnected_keeps (P : W → Prop) :
    Keeps (fun owner : TwitchSessionOwner W => P owner.world) requireDisconnected := by
  refine Triple.bind (checking_keeps P) fun _ => ?_
  apply Triple.get_bind
  intro owner h
  apply Triple.ite
  · exact fun _ => Triple.fail fun _ same => same ▸ h
  · exact fun _ => Triple.pure fun _ same => same ▸ h

theorem beginNew_keeps (P : W → Prop) (session : TwitchSession) :
    Keeps (fun owner : TwitchSessionOwner W => P owner.world) (beginNew session) :=
  Triple.bind (requireDisconnected_keeps P) fun _ => start_keeps P

theorem reserveNew_keeps (P : W → Prop) :
    Keeps (fun owner : TwitchSessionOwner W => P owner.world) reserveNew := by
  refine Triple.bind (requireDisconnected_keeps P) fun _ => ?_
  apply Triple.get_bind
  intro owner h
  apply Triple.modify_bind
  rintro _ rfl
  exact Triple.pure fun _ same => same ▸ h

theorem checkoutActive_keeps (P : W → Prop) :
    Keeps (fun owner : TwitchSessionOwner W => P owner.world) checkoutActive := by
  refine Triple.bind (checking_keeps P) fun _ => ?_
  apply Triple.get_bind
  intro owner h
  cases owner.state.active with
  | none => exact Triple.fail fun _ same => same ▸ h
  | some session =>
    refine (Triple.bind (change_keeps P) fun _ => start_keeps P).weaken
      (fun _ same => same ▸ h) (fun _ _ h => h) fun _ _ h => h

theorem checkoutSaved_keeps (atomic : AtomicRecord ports record) :
    Keeps (fun owner => record owner.world = before) (checkoutSaved ports) := by
  refine Triple.bind (requireDisconnected_keeps (record · = before)) fun _ => ?_
  refine Triple.bind (loadSaved_world atomic) fun encoded => ?_
  cases encoded with
  | none => exact Triple.pure fun _ h => h
  | some encoded =>
    dsimp only
    cases decodeTwitchSession encoded with
    | error error => exact Triple.fail fun _ h => h
    | ok session =>
      exact Triple.bind (start_keeps (record · = before)) fun _ => Triple.pure fun _ h => h

theorem restore_keeps (P : W → Prop) (transaction : UInt64) (session : TwitchSession) :
    Keeps (fun owner : TwitchSessionOwner W => P owner.world) (restore transaction session) := by
  refine Triple.bind (checking_keeps P) fun _ => Triple.bind (checking_keeps P) fun pending => ?_
  apply Triple.ite
  · exact fun _ => Triple.fail fun _ h => h
  · intro _
    cases encodeTwitchSession session with
    | error error => exact Triple.fail fun _ h => h
    | ok bytes => exact change_keeps P

theorem persistPending_world (transaction : UInt64)
    (session : TwitchSession) {start : TwitchSessionOwner W}
    (exclusive : start.state.active = none ∨ start.state.pending = none) :
    Triple (· = start) (persistPending ports transaction session)
      (fun _ => Guarded (record start.world) record) fun _ => Guarded (record start.world) record := by
  refine Triple.bind (checking_spec.weaken (fun _ h => h) (fun _ _ h => h.1)
    fun _ _ same => .inl (by rw [same])) fun _ => ?_
  refine Triple.bind (checking_spec.weaken (fun _ h => h) (fun _ _ h => h)
    fun _ _ same => .inl (by rw [same])) fun pending => ?_
  apply Triple.ite
  · exact fun _ => Triple.fail fun _ h => .inl (by rw [h.1])
  · intro _
    apply Triple.modify_bind
    rintro owner ⟨rfl, checked⟩
    obtain ⟨_, present, _⟩ := check_ok checked
    intro after same
    have barred : Guarded (record owner.world) record (persist ports session after).2 := by
      refine .inr ⟨?_, ?_⟩
      · rw [persist_state, same]
        exact exclusive.resolve_right fun none => by simp [present] at none
      · intro found present
        rw [persist_state, same] at present
        obtain ⟨_, _, rfl⟩ := Option.map_eq_some_iff.mp present
        rfl
    exact ⟨fun _ _ => barred, fun _ _ => barred⟩

end record

/-- No call but a commit replaces a record that is still needed. -/
theorem performed_guarded (atomic : AtomicRecord ports record)
    (exclusive : owner.state.active = none ∨ owner.state.pending = none) (call : OwnerCall) :
    Guarded (record owner.world) record (perform ports call owner).2 ∨
      ∃ id session snapshot, (⟨call, (perform ports call owner).1⟩ : OwnerEntry) =
        ⟨.commit id session, .ok snapshot⟩ := by
  have kept {call : OwnerCall} (same : (perform ports call owner).2.world = owner.world) :
      Guarded (record owner.world) record (perform ports call owner).2 := .inl (by rw [same])
  cases call with
  | checkoutSaved => exact .inl (.inl ((checkoutSaved_keeps atomic).apply rfl))
  | beginNew session =>
    exact .inl (kept ((beginNew_keeps (· = owner.world) session).apply rfl))
  | reserveNew => exact .inl (kept ((reserveNew_keeps (· = owner.world)).apply rfl))
  | checkoutActive => exact .inl (kept ((checkoutActive_keeps (· = owner.world)).apply rfl))
  | persistPending id session =>
    exact .inl (Stateful.Triple.apply (persistPending_world id session exclusive) rfl)
  | commit id session =>
    have spec := commit_world (record owner.world) atomic id session owner rfl
    cases answer : (commit ports id session owner).1 with
    | error error => exact .inl (.inl (spec.2 error answer))
    | ok snapshot =>
      refine .inr ⟨id, session, snapshot, ?_⟩
      rw [← answer]
      rfl
  | restore id session => exact .inl (kept ((restore_keeps (· = owner.world) id session).apply rfl))
  | discard id eraseSaved =>
    change Guarded _ record (discard ports id eraseSaved owner).2 ∨ _
    unfold discard
    rw [checking_bind]
    cases owner.state.check id with
    | error error => exact .inl (.inl rfl)
    | ok pending =>
      dsimp only
      rw [change_bind]
      cases eraseSaved with
      | false => exact .inl (.inl rfl)
      | true =>
        rw [if_pos rfl]
        refine .inl (.inr ⟨by rw [erase_state], fun pending present => ?_⟩)
        rw [erase_state] at present
        cases present
  | eraseSaved =>
    change Guarded _ record (eraseSaved ports owner).2 ∨ _
    unfold eraseSaved
    rw [get_bind]
    cases owner.state.stopping with
    | true => exact .inl (.inl rfl)
    | false =>
      cases pending : owner.state.pending with
      | some _ => exact .inl (.inl rfl)
      | none =>
        rw [if_neg (by simp), if_neg (by simp), change_bind]
        refine .inl (.inr ⟨by rw [erase_state], fun found present => ?_⟩)
        rw [erase_state] at present
        rw [show owner.state.pending = some found from present] at pending
        cases pending
  | check id =>
    change Guarded _ record ((checking (·.check id) >>= fun _ => pure () : Call W Unit) owner).2 ∨ _
    rw [checking_bind]
    cases owner.state.check id <;> exact .inl (.inl rfl)
  | connectionState => exact .inl (.inl rfl)
  | acquire stopRequested =>
    refine .inl (kept ?_)
    change (acquire stopRequested owner).2.world = owner.world
    rw [(acquire_apply stopRequested).1]
  | beginRecovery rejected stopRequested =>
    refine .inl (kept ?_)
    change (beginRecovery rejected stopRequested owner).2.world = owner.world
    rcases beginRecovery_apply owner rejected stopRequested with
      ⟨error, same⟩ | ⟨session, _, same⟩ | ⟨session, _, _, same⟩ <;> rw [same]
  | shutdown => exact .inl (.inl rfl)

theorem Recorded.new : Recorded record [] (.new configuration poisoned world) := by
  rintro session (active | ⟨pending, present, _⟩)
  · cases active
  · cases present

/-- A session is needed because it was needed before, or because it has been committed. -/
theorem Needed.before {entry : OwnerEntry} {state state' : State} {session : TwitchSession}
    (needed : Needed (said ++ [entry]) state' session) (kept : Kept said state)
    (genuine : Genuine (· = ·) said state) (effect : Effect entry state state')
    (back : PutsBack (· = ·) said entry) :
    Needed said state session ∨ ∃ id snapshot, entry = ⟨.commit id session, .ok snapshot⟩ := by
  cases effect with
  | quiet closed idle stays =>
    have same : (ledger said).note entry = ledger said := by
      simp [Ledger.note, closed, idle, stays]
    rw [Needed, ledger_snoc, same] at needed
    exact .inl needed
  | stopped closed idle stopping =>
    obtain ⟨active, pending⟩ := kept.stopped stopping
    rcases needed with present | ⟨_, present, _⟩
    · rw [active] at present
      cases present
    · rw [pending] at present
      cases present
  | barred id found called fits =>
    rcases needed with present | ⟨pending, present, restorable, _⟩
    · exact .inl (.inl present)
    · obtain ⟨_, _, rfl⟩ := Option.map_eq_some_iff.mp present
      cases restorable
  | opens gives idle begins =>
    rw [begins.effect] at needed
    rcases needed with present | ⟨pending, present, restorable, lent⟩
    · cases present
    · cases present
      obtain ⟨found, rfl, active⟩ := begins.lends restorable
      rw [ledger_snoc, Ledger.note, gives] at lent
      cases lent
      exact .inl (.inl active)
  | commits id found fits same =>
    rcases needed with present | ⟨pending, present, _⟩
    · cases present
      exact .inr ⟨id, _, same⟩
    · cases present
  | restores id found fits restorable same =>
    rcases needed with present | ⟨pending, present, _⟩
    · cases present
      cases same
      obtain ⟨pending, wasOpen, restorable⟩ := restorable
      obtain ⟨handed, _, lent, _⟩ := genuine.lent pending wasOpen restorable
      obtain rfl := back handed lent
      exact .inl (.inr ⟨pending, wasOpen, restorable, lent⟩)
    · cases present
  | drops stopping closed idle gone =>
    rcases needed with present | ⟨pending, present, _⟩
    · cases present
    · cases present

/-- The record follows the session from one call to the next. -/
theorem Recorded.step (recorded : Recorded record said owner) (kept : Kept said owner.state)
    (genuine : Genuine (· = ·) said owner.state) (atomic : AtomicRecord ports record)
    {call : OwnerCall} (asked : RestoresLent said call) :
    Recorded record (said ++ [⟨call, (perform ports call owner).1⟩]) (perform ports call owner).2 := by
  intro session needed
  have effect := performs ports owner call
  have earlier := needed.before kept genuine effect (kept.putsBack_lent effect asked)
  have committed {id : UInt64} {snapshot : TwitchSessionOwnerSnapshot}
      (entry : (⟨call, (perform ports call owner).1⟩ : OwnerEntry) =
        ⟨.commit id session, .ok snapshot⟩) :
      ∃ bytes, encodeTwitchSession session = .ok bytes ∧
        record (perform ports call owner).2.world = some bytes := by
    obtain rfl : call = .commit id session := congrArg Sigma.fst entry
    have answer : (commit ports id session owner).1 = .ok snapshot :=
      eq_of_heq (Sigma.mk.inj entry).2
    exact (commit_world (record owner.world) atomic id session owner rfl).1 snapshot answer
  rcases earlier with needed' | ⟨id, snapshot, entry⟩
  · rcases performed_guarded atomic kept.exclusive call with
      (same | ⟨active, barred⟩) | ⟨id, found, snapshot, entry⟩
    · rw [same]
      exact recorded session needed'
    · rcases needed with present | ⟨pending, present, restorable, _⟩
      · rw [active] at present
        cases present
      · rw [barred pending present] at restorable
        cases restorable
    · obtain rfl : found = session := by
        have gives : connected ⟨call, (perform ports call owner).1⟩ =
            some (found, some snapshot.revision) := by rw [entry]; rfl
        have active := (kept.step effect).active
        rw [ledger_snoc, Ledger.note, entry] at active
        rcases needed with present | ⟨pending, present, _⟩
        · rw [present] at active
          exact Option.some.inj active
        · have none := (kept.step effect).openId
          rw [ledger_snoc, Ledger.note, entry, present] at none
          cases none
      exact committed entry
  · exact committed entry

/-- What holds where restores put back what was handed out. -/
structure Intact (record : W → Option SecretValue) (said : OwnerCalls) (owner : TwitchSessionOwner W) :
    Prop where
  kept : Kept said owner.state
  genuine : Genuine (· = ·) said owner.state
  recorded : Recorded record said owner

theorem Intact.new : Intact record [] (.new configuration poisoned world) :=
  ⟨Kept.new, Genuine.new, Recorded.new⟩

theorem Intact.step (intact : Intact record said owner) (atomic : AtomicRecord ports record)
    {call : OwnerCall} (asked : RestoresLent said call) :
    Intact record (said ++ [⟨call, (perform ports call owner).1⟩]) (perform ports call owner).2 where
  kept := intact.kept.step (performs ports owner call)
  genuine := intact.genuine.step intact.kept (performs ports owner call) (fun _ => rfl)
    (fun _ _ _ => Eq.trans) (intact.kept.putsBack_lent (performs ports owner call) asked)
  recorded := intact.recorded.step intact.kept intact.genuine atomic asked

/-- Between two calls the record of the session stays. -/
def RecordStays (record : W → Option SecretValue) (before after : TwitchSessionOwner W) : Prop :=
  Elsewhere before after ∧ record after.world = record before.world

theorem Intact.stays {after : TwitchSessionOwner W} (intact : Intact record said owner)
    (stays : RecordStays record owner after) : Intact record said after := by
  obtain ⟨same, kept⟩ := stays
  replace same : after.state = owner.state := same
  constructor
  · exact same ▸ intact.kept
  · exact same ▸ intact.genuine
  · intro session needed
    rw [kept]
    exact intact.recorded session (same ▸ needed)

theorem intact_of_attended (atomic : AtomicRecord ports record)
    (run : Attended (perform ports) (RecordStays record) RestoresLent
      (.new configuration poisoned world) said owner) : Intact record said owner := by
  refine run.invariant (Intact record) Intact.new ?_ fun _ _ _ stays intact => intact.stays stays
  exact fun _ _ _ asked intact => intact.step atomic asked

/-- Where restores put back what was handed out, a lease is of the session that was committed
last, and the record in the store is the one of the session that is connected. -/
theorem record_of_connected (atomic : AtomicRecord ports record)
    (run : Attended (perform ports) (RecordStays record) RestoresLent
      (.new configuration poisoned world) said owner) :
    EachAfter (fun past entry => ∀ lent, leased entry = some lent →
      ∃ session revision, committedLast past = some (session, revision) ∧
        lent = lease session revision) said ∧
    ∀ session, owner.state.active = some session →
      committedLast said = some (session, owner.state.revision) ∧
        ∃ bytes, record owner.world = some bytes ∧
          decodeTwitchSession bytes = .ok session.stored := by
  constructor
  · refine run.each (Intact record) Intact.new ?_ fun _ _ _ stays intact => intact.stays stays
    intro said owner call asked intact
    refine ⟨intact.step atomic asked, fun lent leases => ?_⟩
    obtain ⟨session, active, rfl⟩ := leased_performed leases
    obtain ⟨_, last, rfl⟩ := intact.genuine.active session active
    exact ⟨session, _, last, rfl⟩
  · have intact := intact_of_attended atomic run
    intro session active
    obtain ⟨_, last, rfl⟩ := intact.genuine.active session active
    obtain ⟨bytes, encoded, stored⟩ := intact.recorded session (.inl active)
    exact ⟨last, bytes, stored, decode_encode encoded⟩

end runs
end TwitchSessionOwner
end MannyUploader.Application
