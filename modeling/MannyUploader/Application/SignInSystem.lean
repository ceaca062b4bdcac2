import MannyUploader.Application.SessionSystem
import MannyUploader.Application.SignInLaws

/-! The controller of the sign-in beside any number of recoveries, over the session owner that
they share. -/
namespace MannyUploader.Application
open Domain Foundation
open TwitchSessionOwner (OwnerCall OwnerCalls OwnerEntry opened openedIds ledger perform
  performs Effect Kept RecoveryQuestion RecoveryExchange Recovery recover RecordStays AtomicRecord
  Underway SessionSystem Answers after)
open TwitchAuthenticationController (Place SignInRun Told closes)

/-- The transactions that the controller opened. -/
def ownId : ((question : SignInQuestion) × question.Answer) → Option UInt64
  | ⟨.owner call, answer⟩ => (opened ⟨call, answer⟩).map (·.1)
  | _ => none

def ownIds (past : SignInExchange) : List UInt64 := past.filterMap ownId

structure SignInSystem (W : Type) where
  session : SessionSystem W
  run : SignInRun

namespace SignInSystem
variable {W : Type} {ports : StorePorts W} {record : W → Option SecretValue}

/-- The controller asks the owner, or anything else, in between deliveries and recoveries. -/
inductive Step (ports : StorePorts W) (record : W → Option SecretValue) (system : SignInSystem W) :
    SignInSystem W → Prop
  | requests {past : SignInExchange} {before : TwitchConnectionSnapshot} {call : OwnerCall}
      {next : call.Answer → SignInRest}
      (asking : system.run = ⟨past, .busy before (.ask (.owner call) next)⟩) :
      Step ports record system
        { session := system.session.call ports call system.session.recoveries
          run := ⟨past ++ [⟨.owner call, (perform ports call system.session.owner).1⟩],
            .busy before (next (perform ports call system.session.owner).1)⟩ }
  | signs (run : SignInRun) (step : SignInRun.Step system.run run)
      (elsewhere : ∀ past before call next,
        system.run ≠ ⟨past, .busy before (.ask (.owner call) next)⟩) :
      Step ports record system { system with run }
  | delivers (stopRequested : Bool) :
      Step ports record system { system with
        session := system.session.call ports (.acquire stopRequested) system.session.recoveries }
  | elsewhere (owner : TwitchSessionOwner W) (stays : RecordStays record system.session.owner owner) :
      Step ports record system { system with session := { system.session with owner } }
  | begins (rejected : TwitchDeliverySession) :
      Step ports record system { system with session := { system.session with
        recoveries := system.session.recoveries ++ [⟨[], recover rejected⟩] } }
  | recovers (before after : List Underway) (underway : Underway) (call : OwnerCall)
      (next : call.Answer → Recovery TwitchDeliverySession)
      (split : system.session.recoveries = before ++ underway :: after)
      (asking : underway.rest = Dialogue.ask (.owner call) next) :
      Step ports record system { system with session := system.session.call ports call (before ++
        underway.answer (.owner call) (perform ports call system.session.owner).1 next :: after) }
  | learns (before after : List Underway) (underway : Underway) (question : RecoveryQuestion)
      (next : question.Answer → Recovery TwitchDeliverySession) (answer : question.Answer)
      (split : system.session.recoveries = before ++ underway :: after)
      (asking : underway.rest = Dialogue.ask question next)
      (elsewhere : ∀ call, question ≠ .owner call) :
      Step ports record system { system with session := { system.session with
        recoveries := before ++ underway.answer question answer next :: after } }

def new (configuration : ConfigurationService) (poisoned : Bool) (world : W) : SignInSystem W where
  session := .new configuration poisoned world
  run := .new

/-- Somebody has the open transaction. -/
def Owned (system : SignInSystem W) (id : UInt64) : Prop :=
  (SignInRun.told system.run.past).held = some id ∨
    ∃ underway ∈ system.session.recoveries, underway.id = some id

structure Joint (ports : StorePorts W) (record : W → Option SecretValue)
    (start : TwitchSessionOwner W) (system : SignInSystem W) : Prop where
  sound : SessionSystem.Sound ports record start system.session
  lawful : SignInRun.Lawful system.run
  known : ∀ id ∈ ownIds system.run.past, id ∈ openedIds system.session.said
  apart : ∀ underway ∈ system.session.recoveries, ∀ id, underway.id = some id →
    id ∉ ownIds system.run.past
  owned : ∀ id, (ledger system.session.said).openId = some id → Owned system id
  holds : ∀ id, (SignInRun.told system.run.past).held = some id →
    (ledger system.session.said).openId = some id

section lemmas
variable {past : SignInExchange} {said : OwnerCalls} {state state' : TwitchSessionOwner.State}
  {entry : OwnerEntry} {id : UInt64}

theorem mem_ownIds_snoc {found : (question : SignInQuestion) × question.Answer} :
    id ∈ ownIds (past ++ [found]) ↔ id ∈ ownIds past ∨ ownId found = some id := by
  simp [ownIds, List.filterMap_append, List.mem_append, List.mem_filterMap]

theorem mem_openedIds_snoc : id ∈ openedIds (said ++ [entry]) ↔
    id ∈ openedIds said ∨ (opened entry).map (·.1) = some id := by
  simp [openedIds, List.filterMap_append, List.mem_append, List.mem_filterMap]

theorem note_held {told : Told} (found : (question : SignInQuestion) × question.Answer)
    (other : ∀ call answer, found ≠ ⟨.owner call, answer⟩) :
    (told.note found).held = told.held := by
  unfold Told.note
  split
  · exact absurd rfl (other _ _)
  · rfl
  · rfl
  · rfl
  · exact TwitchAuthenticationController.take_held
  · rfl

theorem note_owner_held {told : Told} (entry : OwnerEntry) :
    (told.note ⟨.owner entry.1, entry.2⟩).held =
      ((opened entry).map (·.1)).or (if closes entry then none else told.held) := by
  change (told.attend entry).held = _
  unfold Told.attend
  cases opened entry with
  | none => rfl
  | some given => rfl

/-- The controller holds a transaction that it opened. -/
theorem held_own (held : (SignInRun.told past).held = some id) : id ∈ ownIds past := by
  induction past using List.reverseRecOn with
  | nil => cases held
  | append_singleton past found ih =>
    rw [SignInRun.told_snoc] at held
    rw [mem_ownIds_snoc]
    by_cases asks : ∃ call answer, found = ⟨.owner call, answer⟩
    · obtain ⟨call, answer, rfl⟩ := asks
      rw [note_owner_held ⟨call, answer⟩] at held
      cases opens : opened ⟨call, answer⟩ with
      | some given =>
        rw [opens] at held
        exact .inr (by simpa [ownId, opens] using held)
      | none =>
        rw [opens, Option.map_none, Option.none_or] at held
        split at held
        · cases held
        · exact .inl (ih held)
    · rw [note_held found fun call answer same => asks ⟨call, answer, same⟩] at held
      exact .inl (ih held)

/-- An id that is handed out is a new one. -/
theorem opened_fresh (kept : Kept said state) (effect : Effect entry state state')
    {session : Option TwitchSession} (opens : opened entry = some (id, session)) :
    id = state.nextTransaction ∧ id ∉ openedIds said := by
  have below (last : id = state.nextTransaction) : id ∉ openedIds said := by
    intro member
    have under := kept.idsBelow id member
    rw [last] at under
    exact UInt64.lt_irrefl _ under
  cases effect with
  | quiet closed => simp [closed] at opens
  | stopped closed => simp [closed] at opens
  | barred found session called =>
    obtain ⟨call, answer⟩ := entry
    cases called
    cases opens
  | opens gives _ begins =>
    rw [gives] at opens
    cases opens
    exact ⟨begins.next, below begins.next⟩
  | commits _ _ _ same =>
    rw [same] at opens
    cases opens
  | restores _ _ _ _ same =>
    rw [same] at opens
    cases opens
  | drops _ closed => simp [closed] at opens

/-- An open transaction was opened just now, or stays open. -/
theorem openId_note {before : TwitchSessionOwner.Ledger} (isOpen : (before.note entry).openId = some id) :
    (∃ session, opened entry = some (id, session)) ∨
      opened entry = none ∧ TwitchSessionOwner.connected entry = none ∧
        TwitchSessionOwner.dropped entry = false ∧ before.openId = some id := by
  unfold TwitchSessionOwner.Ledger.note at isOpen
  split at isOpen
  next opens =>
    cases isOpen
    exact .inl ⟨_, opens⟩
  · cases isOpen
  next unopened unconnected =>
    split at isOpen
    · cases isOpen
    next stays => exact .inr ⟨unopened, unconnected, by simpa using stays, isOpen⟩

end lemmas

section steps
variable {configuration : ConfigurationService} {poisoned : Bool} {world : W}
  {system system' : SignInSystem W}

theorem Joint.kept (atomic : AtomicRecord ports record)
    (joint : Joint ports record (.new configuration poisoned world) system) :
    Kept system.session.said system.session.owner.state :=
  (TwitchSessionOwner.intact_of_attended atomic joint.sound.attended).kept

/-- A call that opens and ends nothing of the controller's leaves the owners as they are. -/
theorem Owned.stays {said : OwnerCalls} {entry : OwnerEntry} {id : UInt64}
    (owned : ∀ id, (ledger said).openId = some id → Owned system id)
    (unopened : opened entry = none)
    (isOpen : (ledger (said ++ [entry])).openId = some id) : Owned system id := by
  rw [TwitchSessionOwner.ledger_snoc] at isOpen
  rcases openId_note isOpen with ⟨session, opens⟩ | ⟨_, _, _, before⟩
  · rw [unopened] at opens
    cases opens
  · exact owned id before

/-- A call of the controller that does not open a transaction ends it, if at all, for both. -/
theorem closes_of_open {said : OwnerCalls} {owner : TwitchSessionOwner W} {call : OwnerCall}
    {told : Told} {id : UInt64} (kept : Kept said owner.state) (allowed : told.Allows (.owner call))
    (held : told.held = some id)
    (isOpen : (ledger (said ++ [⟨call, (perform ports call owner).1⟩])).openId = some id)
    (unopened : opened ⟨call, (perform ports call owner).1⟩ = none) :
    closes ⟨call, (perform ports call owner).1⟩ = false := by
  have after := isOpen
  rw [(kept.step (performs ports owner call)).openId] at after
  rw [TwitchSessionOwner.ledger_snoc] at isOpen
  rcases openId_note isOpen with ⟨session, opens⟩ | ⟨_, unconnected, stays, _⟩
  · rw [unopened] at opens
    cases opens
  · cases call with
    | commit found session =>
      change TwitchSessionOwner.connected ⟨.commit found session,
        (TwitchSessionOwner.commit ports found session owner).1⟩ = none at unconnected
      change closes ⟨.commit found session,
        (TwitchSessionOwner.commit ports found session owner).1⟩ = false
      cases answer : (TwitchSessionOwner.commit ports found session owner).1 with
      | ok snapshot =>
        rw [answer] at unconnected
        cases unconnected
      | error error => rfl
    | discard found erase =>
      obtain ⟨mine, _⟩ := allowed
      rw [held] at mine
      cases mine
      exact absurd after (SessionSystem.discard_closes kept id erase)
    | shutdown => cases stays
    | _ => rfl

/-- What the controller holds after a call is what is open after it. -/
theorem openId_of_held {before : TwitchSessionOwner.Ledger} {told : Told} {call : OwnerCall}
    (answer : call.Answer) {id : UInt64} (allowed : told.Allows (.owner call))
    (holds : ∀ id, told.held = some id → before.openId = some id)
    (held : (told.note ⟨.owner call, answer⟩).held = some id) :
    (before.note ⟨call, answer⟩).openId = some id := by
  have nothing (none : told.held = none) : told.held ≠ some id := by simp [none]
  cases call with
  | reserveNew =>
    cases answer with
    | error error => exact absurd held (nothing allowed)
    | ok found => exact held
  | checkoutActive =>
    cases answer with
    | error error => exact absurd held (nothing allowed)
    | ok transaction => exact held
  | checkoutSaved =>
    rcases answer with error | _ | transaction
    · exact absurd held (nothing allowed)
    · exact absurd held (nothing allowed)
    · exact held
  | eraseSaved => exact absurd held (nothing allowed)
  | connectionState => exact absurd held (nothing allowed)
  | persistPending found session => exact holds id held
  | commit found session =>
    cases answer with
    | error error => exact holds id held
    | ok snapshot => cases held
  | discard found erase => cases held
  | shutdown => cases held
  | beginNew session => exact allowed.elim
  | restore found session => exact allowed.elim
  | check found => exact allowed.elim
  | acquire stopRequested => exact allowed.elim
  | beginRecovery rejected stopRequested => exact allowed.elim

/-- A recovery leaves the transaction of another alone. -/
theorem open_stays {owner : TwitchSessionOwner W} {underway : Underway} {call : OwnerCall}
    {id : UInt64} (allowed : underway.progress.Allows (.owner call)) (other : underway.id ≠ some id)
    (isOpen : owner.state.pending.map (·.id) = some id) :
    (perform ports call owner).2.state.pending.map (·.id) = some id := by
  have foreign (found : UInt64) (about : call.transaction = some found)
      (own : underway.id = some found) :
      (perform ports call owner).2.state.pending.map (·.id) = some id := by
    have differs : owner.state.pending.map (·.id) ≠ some found := by
      rw [isOpen]
      exact fun same => other (own.trans same.symm)
    rw [(TwitchSessionOwner.foreign_refused ports call about differs).1]
    exact isOpen
  have holding {found : UInt64} (holds : underway.progress.Holding found) : underway.id = some found := by
    obtain ⟨_, transaction, present, rfl⟩ := holds
    rw [Underway.id, present]
    rfl
  cases call with
  | check found => exact foreign found rfl (holding allowed)
  | discard found erase => exact foreign found rfl (holding allowed)
  | commit found session => exact foreign found rfl (holding allowed)
  | persistPending found session => exact foreign found rfl (holding allowed.1)
  | restore found session =>
    apply foreign found rfl
    rw [Underway.id, allowed.2.2]
    rfl
  | acquire stopRequested =>
    change (TwitchSessionOwner.acquire stopRequested owner).2.state.pending.map (·.id) = some id
    rw [(TwitchSessionOwner.acquire_apply stopRequested).1]
    exact isOpen
  | beginRecovery rejected stopRequested =>
    change (TwitchSessionOwner.beginRecovery rejected stopRequested owner).2.state.pending.map (·.id) =
      some id
    rcases TwitchSessionOwner.beginRecovery_apply owner rejected stopRequested with
      ⟨error, same⟩ | ⟨session, _, same⟩ | ⟨session, idle, _, same⟩
    · rw [same]
      exact isOpen
    · rw [same]
      exact isOpen
    · unfold TwitchSessionOwner.State.idle at idle
      have busy : owner.state.pending.isSome = true := by
        rw [← Option.isSome_map (f := (·.id)), isOpen]
        rfl
      rw [busy] at idle
      split at idle <;> simp at idle
  | checkoutSaved => exact allowed.elim
  | beginNew session => exact allowed.elim
  | reserveNew => exact allowed.elim
  | checkoutActive => exact allowed.elim
  | eraseSaved => exact allowed.elim
  | connectionState => exact allowed.elim
  | shutdown => exact allowed.elim

theorem Joint.requests (atomic : AtomicRecord ports record)
    (joint : Joint ports record (.new configuration poisoned world) system)
    {past : SignInExchange} {before : TwitchConnectionSnapshot} {call : OwnerCall}
    {next : call.Answer → SignInRest}
    (asking : system.run = ⟨past, .busy before (.ask (.owner call) next)⟩) :
    Joint ports record (.new configuration poisoned world)
      { session := system.session.call ports call system.session.recoveries
        run := ⟨past ++ [⟨.owner call, (perform ports call system.session.owner).1⟩],
          .busy before (next (perform ports call system.session.owner).1)⟩ } := by
  obtain ⟨session, run⟩ := system
  cases asking
  have kept := joint.kept atomic
  have effect := performs ports session.owner call
  have allowed : (SignInRun.told past).Allows (.owner call) := joint.lawful.1
  have outside : session.Outside call := by
    constructor
    · rintro id found rfl
      exact allowed
    · intro id about underway member has
      have held : (SignInRun.told past).held = some id := by
        cases call with
        | restore => exact allowed.elim
        | check => exact allowed.elim
        | discard => cases about; exact allowed.1
        | commit => cases about; exact allowed
        | persistPending => cases about; exact allowed
        | _ => cases about
      exact joint.apart underway member id has (held_own held)
  refine ⟨joint.sound.step atomic (.outside call outside), joint.lawful.step (.asks _), ?_, ?_, ?_,
    ?_⟩
  · intro id own
    apply mem_openedIds_snoc.mpr
    rcases mem_ownIds_snoc.mp own with earlier | here
    · exact .inl (joint.known id earlier)
    · exact .inr here
  · intro underway member id has own
    rcases mem_ownIds_snoc.mp own with earlier | here
    · exact joint.apart underway member id has earlier
    · obtain ⟨⟨found, session'⟩, opens, rfl⟩ := Option.map_eq_some_iff.mp here
      exact (opened_fresh kept effect opens).2 ((joint.sound.abreast underway member).known has)
  · intro id isOpen
    by_cases opens : ∃ session', opened ⟨call, (perform ports call session.owner).1⟩ = some (id, session')
    · obtain ⟨session', opens⟩ := opens
      left
      rw [SignInRun.told_snoc, note_owner_held ⟨call, (perform ports call session.owner).1⟩, opens]
      rfl
    · have unopened : opened ⟨call, (perform ports call session.owner).1⟩ = none := by
        change (ledger (session.said ++ [_])).openId = some id at isOpen
        rw [TwitchSessionOwner.ledger_snoc] at isOpen
        rcases openId_note isOpen with here | ⟨none, _⟩
        · exact absurd here opens
        · exact none
      rcases Owned.stays joint.owned unopened isOpen with held | recovering
      · left
        rw [SignInRun.told_snoc, note_owner_held ⟨call, (perform ports call session.owner).1⟩,
          unopened, closes_of_open kept allowed held isOpen unopened]
        exact held
      · exact .inr recovering
  · intro id held
    change (ledger (session.said ++ [_])).openId = some id
    rw [TwitchSessionOwner.ledger_snoc]
    rw [SignInRun.told_snoc] at held
    exact openId_of_held _ allowed joint.holds held

theorem Joint.signs (joint : Joint ports record (.new configuration poisoned world) system)
    {run : SignInRun} (step : SignInRun.Step system.run run)
    (elsewhere : ∀ past before call next,
      system.run ≠ ⟨past, .busy before (.ask (.owner call) next)⟩) :
    Joint ports record (.new configuration poisoned world) { system with run } := by
  have same : ownIds run.past = ownIds system.run.past ∧
      (SignInRun.told run.past).held = (SignInRun.told system.run.past).held := by
    obtain ⟨session, before⟩ := system
    cases step with
    | calls call => exact ⟨rfl, rfl⟩
    | returns => exact ⟨rfl, rfl⟩
    | fails => exact ⟨rfl, rfl⟩
    | @asks shown past question next answer =>
      have other : ∀ call found, (⟨question, answer⟩ : (question : SignInQuestion) × question.Answer) ≠
          ⟨.owner call, found⟩ := by
        intro call found same
        cases same
        exact elsewhere past shown call next rfl
      constructor
      · change ownIds (past ++ [⟨question, answer⟩]) = ownIds past
        have none : ownId ⟨question, answer⟩ = none := by
          cases question with
          | owner call => exact absurd rfl (other call answer)
          | _ => rfl
        simp [ownIds, List.filterMap_append, none]
      · rw [SignInRun.told_snoc]
        exact note_held _ other
  refine ⟨joint.sound, joint.lawful.step step, ?_, ?_, ?_, ?_⟩
  · rw [same.1]
    exact joint.known
  · rw [same.1]
    exact joint.apart
  · intro id isOpen
    rcases joint.owned id isOpen with held | recovering
    · exact .inl (same.2.trans held)
    · exact .inr recovering
  · rw [same.2]
    exact joint.holds

/-- Another step of the session owner and its recoveries. -/
theorem Joint.session {session : SessionSystem W}
    (joint : Joint ports record (.new configuration poisoned world) system)
    (sound : SessionSystem.Sound ports record (.new configuration poisoned world) session)
    (said : ∀ id ∈ openedIds system.session.said, id ∈ openedIds session.said)
    (apart : ∀ underway ∈ session.recoveries, ∀ id, underway.id = some id →
      id ∉ ownIds system.run.past)
    (owned : ∀ id, (ledger session.said).openId = some id → Owned { system with session } id)
    (holds : ∀ id ∈ ownIds system.run.past, (ledger system.session.said).openId = some id →
      (ledger session.said).openId = some id) :
    Joint ports record (.new configuration poisoned world) { system with session } :=
  ⟨sound, joint.lawful, fun id own => said id (joint.known id own), apart, owned,
    fun id held => holds id (held_own held) (joint.holds id held)⟩

/-- What a recovery is told of the owner changes its transaction only where it begins. -/
theorem id_asked {underway : Underway} {call : OwnerCall} {answer : call.Answer}
    {next : call.Answer → Recovery TwitchDeliverySession} {id : UInt64}
    (has : (underway.answer (.owner call) answer next).id = some id) :
    underway.id = some id ∨ ∃ lent, opened ⟨call, answer⟩ = some (id, lent) := by
  rw [Underway.id, SessionSystem.Abreast.progress_answer] at has
  cases call with
  | beginRecovery rejected stopRequested =>
    rcases answer with error | lease | transaction
    · exact .inl has
    · exact .inl has
    · exact .inr ⟨_, by rw [← Option.some.inj has]; rfl⟩
  | commit found committed => cases answer <;> exact .inl has
  | _ => exact .inl has

theorem id_kept {underway : Underway} {call : OwnerCall} {answer : call.Answer}
    {next : call.Answer → Recovery TwitchDeliverySession} {id : UInt64}
    (allowed : underway.progress.Allows (.owner call)) (has : underway.id = some id) :
    (underway.answer (.owner call) answer next).id = some id := by
  rw [Underway.id, SessionSystem.Abreast.progress_answer]
  cases call with
  | beginRecovery rejected stopRequested =>
    have idle : underway.progress = {} := allowed
    rw [Underway.id, idle] at has
    cases has
  | commit found committed => cases answer <;> exact has
  | _ => exact has

theorem opened_by_recovery {progress : TwitchSessionOwner.Progress} {call : OwnerCall}
    {answer : call.Answer} {id : UInt64} {lent : Option TwitchSession}
    (allowed : progress.Allows (.owner call)) (opens : opened ⟨call, answer⟩ = some (id, lent)) :
    (progress.note ⟨.owner call, answer⟩).transaction.map (·.id) = some id := by
  cases call with
  | beginRecovery rejected stopRequested =>
    rcases answer with error | lease | transaction
    · cases opens
    · cases opens
    · cases opens
      rfl
  | checkoutSaved => exact allowed.elim
  | beginNew session => exact allowed.elim
  | reserveNew => exact allowed.elim
  | checkoutActive => exact allowed.elim
  | _ => cases opens

theorem Joint.recovers (atomic : AtomicRecord ports record)
    (joint : Joint ports record (.new configuration poisoned world) system)
    {before after : List Underway} {underway : Underway} {call : OwnerCall}
    {next : call.Answer → Recovery TwitchDeliverySession}
    (split : system.session.recoveries = before ++ underway :: after)
    (asking : underway.rest = Dialogue.ask (.owner call) next) :
    Joint ports record (.new configuration poisoned world) { system with
      session := system.session.call ports call (before ++
        underway.answer (.owner call) (perform ports call system.session.owner).1 next :: after) } := by
  have kept := joint.kept atomic
  have effect := performs ports system.session.owner call
  have here : underway ∈ system.session.recoveries := by simp [split]
  obtain ⟨allowed, _⟩ := (joint.sound.abreast underway here).asking_follows asking
    (perform ports call system.session.owner).1
  apply joint.session (joint.sound.step atomic (.asks before after underway call next split asking))
  · exact fun id member => mem_openedIds_snoc.mpr (.inl member)
  · intro found member id has own
    rcases SessionSystem.mem_replaced member with rfl | other
    · rcases id_asked has with earlier | ⟨lent, opens⟩
      · exact joint.apart underway here id earlier own
      · exact (opened_fresh kept effect opens).2 (joint.known id own)
    · apply joint.apart found _ id has own
      rw [split]
      exact List.mem_append.mpr ((List.mem_append.mp other).imp_right (List.mem_cons_of_mem _))
  · intro id isOpen
    by_cases opens : ∃ lent, opened ⟨call, (perform ports call system.session.owner).1⟩ = some (id, lent)
    · obtain ⟨lent, opens⟩ := opens
      refine .inr ⟨_, List.mem_append_right _ List.mem_cons_self, ?_⟩
      rw [Underway.id, SessionSystem.Abreast.progress_answer]
      exact opened_by_recovery allowed opens
    · change (ledger (system.session.said ++ [_])).openId = some id at isOpen
      rw [TwitchSessionOwner.ledger_snoc] at isOpen
      rcases openId_note isOpen with opened | ⟨_, _, _, before⟩
      · exact absurd opened opens
      · rcases joint.owned id before with held | ⟨found, member, has⟩
        · exact .inl held
        · right
          rw [split] at member
          rcases List.mem_append.mp member with first | last
          · exact ⟨found, List.mem_append_left _ first, has⟩
          · rcases List.mem_cons.mp last with rfl | last
            · exact ⟨_, List.mem_append_right _ List.mem_cons_self, id_kept allowed has⟩
            · exact ⟨found, List.mem_append_right _ (List.mem_cons_of_mem _ last), has⟩
  · intro id own isOpen
    rw [kept.openId] at isOpen
    change (ledger (system.session.said ++ [_])).openId = some id
    rw [(kept.step effect).openId]
    exact open_stays allowed (fun has => joint.apart underway here id has own) isOpen

theorem Joint.learns (atomic : AtomicRecord ports record)
    (joint : Joint ports record (.new configuration poisoned world) system)
    {before after : List Underway} {underway : Underway} {question : RecoveryQuestion}
    {next : question.Answer → Recovery TwitchDeliverySession} {answer : question.Answer}
    (split : system.session.recoveries = before ++ underway :: after)
    (asking : underway.rest = Dialogue.ask question next)
    (elsewhere : ∀ call, question ≠ .owner call) :
    Joint ports record (.new configuration poisoned world) { system with
      session := { system.session with
        recoveries := before ++ underway.answer question answer next :: after } } := by
  have here : underway ∈ system.session.recoveries := by simp [split]
  have same := @SessionSystem.id_learned underway question next answer elsewhere
  apply joint.session (joint.sound.step atomic
    (.learns before after underway question next answer split asking elsewhere))
  · exact fun id member => member
  · intro found member id has own
    rcases SessionSystem.mem_replaced member with rfl | other
    · exact joint.apart underway here id (same ▸ has) own
    · apply joint.apart found _ id has own
      rw [split]
      exact List.mem_append.mpr ((List.mem_append.mp other).imp_right (List.mem_cons_of_mem _))
  · intro id isOpen
    rcases joint.owned id isOpen with held | ⟨found, member, has⟩
    · exact .inl held
    · right
      rw [split] at member
      rcases List.mem_append.mp member with first | last
      · exact ⟨found, List.mem_append_left _ first, has⟩
      · rcases List.mem_cons.mp last with rfl | last
        · exact ⟨_, List.mem_append_right _ List.mem_cons_self, same.trans has⟩
        · exact ⟨found, List.mem_append_right _ (List.mem_cons_of_mem _ last), has⟩
  · exact fun id _ isOpen => isOpen

theorem Joint.step (atomic : AtomicRecord ports record)
    (joint : Joint ports record (.new configuration poisoned world) system)
    (step : Step ports record system system') :
    Joint ports record (.new configuration poisoned world) system' := by
  cases step with
  | requests asking => exact joint.requests atomic asking
  | signs run step elsewhere => exact joint.signs step elsewhere
  | delivers stopRequested =>
    have outside : system.session.Outside (.acquire stopRequested) := by
      constructor
      · intro id session same
        cases same
      · intro id about
        cases about
    apply joint.session (joint.sound.step atomic (.outside _ outside))
    · exact fun id member => mem_openedIds_snoc.mpr (.inl member)
    · exact joint.apart
    · intro id isOpen
      exact Owned.stays joint.owned rfl isOpen
    · intro id _ isOpen
      rw [(joint.kept atomic).openId] at isOpen
      change (ledger (system.session.said ++ [_])).openId = some id
      rw [((joint.kept atomic).step (performs ports _ _)).openId]
      change (TwitchSessionOwner.acquire stopRequested _).2.state.pending.map (·.id) = some id
      rw [(TwitchSessionOwner.acquire_apply stopRequested).1]
      exact isOpen
  | elsewhere owner stays =>
    exact joint.session (joint.sound.step atomic (.elsewhere owner stays)) (fun _ member => member)
      joint.apart joint.owned fun _ _ isOpen => isOpen
  | begins rejected =>
    apply joint.session (joint.sound.step atomic (.begins rejected))
    · exact fun id member => member
    · intro underway member id has
      rcases List.mem_append.mp member with earlier | last
      · exact joint.apart underway earlier id has
      · rw [List.mem_singleton.mp last] at has
        cases has
    · intro id isOpen
      rcases joint.owned id isOpen with held | ⟨found, member, has⟩
      · exact .inl held
      · exact .inr ⟨found, List.mem_append_left _ member, has⟩
    · exact fun id _ isOpen => isOpen
  | recovers before after underway call next split asking => exact joint.recovers atomic split asking
  | learns before after underway question next answer split asking elsewhere =>
    exact joint.learns atomic split asking elsewhere

theorem joint_of_reached (atomic : AtomicRecord ports record)
    (reached : Relation.ReflTransGen (Step ports record) (new configuration poisoned world) system) :
    Joint ports record (.new configuration poisoned world) system := by
  apply invariant_of_moves reached (fun _ _ step joint => joint.step atomic step)
  refine ⟨SessionSystem.Sound.new, TwitchAuthenticationController.coherent_new, ?_, ?_, ?_, ?_⟩
  · intro id own
    cases own
  · intro underway member
    cases member
  · intro id isOpen
    cases isOpen
  · intro id held
    cases held

/-- A recovery whose transaction is open goes on. -/
theorem Joint.goes_on
    (joint : Joint ports record (.new configuration poisoned world) system) {underway : Underway}
    (member : underway ∈ system.session.recoveries) {id : UInt64} (has : underway.id = some id)
    (isOpen : (ledger system.session.said).openId = some id) :
    ∃ question next, underway.rest = Dialogue.ask question next := by
  have abreast := joint.sound.abreast underway member
  have follows := abreast.follows
  have running : ¬underway.progress.Closed := by
    rintro (none | ended)
    · rw [Underway.id, none] at has
      cases has
    · exact abreast.settled ended id has isOpen
  cases rest : underway.rest with
  | ask question next => exact ⟨question, next, rfl⟩
  | done lease =>
    rw [rest] at follows
    exact absurd follows running
  | fail fault =>
    rw [rest] at follows
    exact absurd follows.2 running
  | pending =>
    rw [rest] at follows
    exact follows.elim

/-- A call that keeps to the protocol is answered, or returns. -/
theorem lawful_goes_on (ports : StorePorts W) (owner : TwitchSessionOwner W)
    {past : SignInExchange} {before : TwitchConnectionSnapshot} {rest : SignInRest}
    (lawful : SignInRun.Lawful ⟨past, .busy before rest⟩) :
    ∃ run, SignInRun.Step ⟨past, .busy before rest⟩ run := by
  cases rest with
  | done out => exact ⟨_, .returns⟩
  | fail lost =>
    obtain ⟨fault, controller⟩ := lost
    cases fault with
    | failed error => exact ⟨_, .fails⟩
    | panicked => exact lawful.elim
  | pending => exact lawful.elim
  | ask question next =>
    have answered : Nonempty question.Answer := by
      cases question with
      | owner call => exact ⟨(perform ports call owner).1⟩
      | enqueue request => exact ⟨.ok ()⟩
      | ownerStopping => exact ⟨false⟩
      | cancelPending => exact ⟨()⟩
      | _ => exact ⟨none⟩
    obtain ⟨answer⟩ := answered
    exact ⟨_, .asks answer⟩

/-- Whatever order the calls of the controller, the recoveries and the deliveries come in: a
transaction that is open belongs to a recovery that still goes on, or to the controller, which is
in the midst of a call that goes on, or awaits an answer or a deadline of its own. What the
controller takes for its transaction between two calls is the one that is open. -/
theorem transactions_never_orphaned (atomic : AtomicRecord ports record)
    (reached : Relation.ReflTransGen (Step ports record) (new configuration poisoned world) system) :
    (∀ id, system.session.owner.state.pending.map (·.id) = some id →
      (∃ underway ∈ system.session.recoveries, underway.id = some id ∧
        ∃ question next, underway.rest = Dialogue.ask question next) ∨
      match system.run.place with
      | .busy _ _ => (SignInRun.told system.run.past).held = some id ∧
          ∃ run, SignInRun.Step system.run run
      | .idle controller => controller.transaction = some id ∧ SignInRun.Attends controller) ∧
    ∀ controller, system.run.place = .idle controller → ∀ id, controller.transaction = some id →
      system.session.owner.state.pending.map (·.id) = some id := by
  have joint := joint_of_reached atomic reached
  have kept := joint.kept atomic
  have lawful := joint.lawful
  rw [← kept.openId]
  constructor
  · intro id isOpen
    rcases joint.owned id isOpen with held | ⟨underway, member, has⟩
    · right
      obtain ⟨session, past, before | ⟨before, rest⟩⟩ := system
      · have coherent : TwitchAuthenticationController.Coherent (SignInRun.told past) before := lawful
        have transaction : before.transaction = some id := coherent.held.trans held
        exact ⟨transaction, SignInRun.Coherent.attends coherent (by simp [transaction])⟩
      · exact ⟨held, lawful_goes_on ports session.owner lawful⟩
    · exact .inl ⟨underway, member, has, joint.goes_on member has isOpen⟩
  · intro controller idle id transaction
    obtain ⟨session, past, place⟩ := system
    obtain rfl : place = .idle controller := idle
    have coherent : TwitchAuthenticationController.Coherent (SignInRun.told past) controller := lawful
    exact joint.holds id (coherent.held.symm.trans transaction)

end steps

/-- What the owner was asked by the controller, and answered. -/
def ownerEntry : ((question : SignInQuestion) × question.Answer) → Option OwnerEntry
  | ⟨.owner call, answer⟩ => some ⟨call, answer⟩
  | _ => none

section follows
variable {owner : TwitchSessionOwner W} {said : OwnerCalls} {recoveries : List Underway}
  {run run' : SignInRun}

theorem answers_append {calls more : OwnerCalls} :
    Answers ports (calls ++ more) owner ↔
      Answers ports calls owner ∧ Answers ports more (after ports calls owner) := by
  induction calls generalizing owner with
  | nil => simp [Answers, after]
  | cons entry calls ih =>
    change (perform ports entry.1 owner).1 = entry.2 ∧ Answers ports (calls ++ more) _ ↔
      (_ ∧ Answers ports calls _) ∧ _
    rw [ih, and_assoc]
    rfl

/-- A run of the controller in which the owner gives its own answers is one of the system. -/
theorem follows_controller (steps : Relation.ReflTransGen SignInRun.Step run run') :
    ∃ more, run'.past = run.past ++ more ∧ (Answers ports (more.filterMap ownerEntry) owner →
      Relation.ReflTransGen (Step ports record) ⟨⟨owner, said, recoveries⟩, run⟩
        ⟨⟨after ports (more.filterMap ownerEntry) owner, said ++ more.filterMap ownerEntry,
          recoveries⟩, run'⟩) := by
  induction steps with
  | refl => exact ⟨[], by simp, fun _ => by simpa [after] using .refl⟩
  | @tail middle last _ step ih =>
    obtain ⟨more, past, ih⟩ := ih
    have quiet (same : last.past = middle.past) (elsewhere : ∀ past before call next,
        middle ≠ ⟨past, .busy before (.ask (.owner call) next)⟩) :
        ∃ more, last.past = run.past ++ more ∧ (Answers ports (more.filterMap ownerEntry) owner →
          Relation.ReflTransGen (Step ports record) ⟨⟨owner, said, recoveries⟩, run⟩
            ⟨⟨after ports (more.filterMap ownerEntry) owner, said ++ more.filterMap ownerEntry,
              recoveries⟩, last⟩) :=
      ⟨more, same.trans past, fun answers => .tail (ih answers) (.signs last step elsewhere)⟩
    cases step with
    | calls call => exact quiet rfl fun _ _ _ _ same => by cases same
    | returns => exact quiet rfl fun _ _ _ _ same => by cases same
    | fails => exact quiet rfl fun _ _ _ _ same => by cases same
    | @asks before earlier question next answer =>
      refine ⟨more ++ [⟨question, answer⟩], ?_, fun answers => ?_⟩
      · change earlier ++ _ = _
        rw [show earlier = run.past ++ more from past, List.append_assoc]
      · rw [List.filterMap_append, answers_append] at answers
        rw [List.filterMap_append]
        cases question with
        | owner call =>
          obtain ⟨before, rfl, -⟩ := answers
          rw [← List.append_assoc, after, List.foldl_append]
          exact .tail (ih before) (.requests rfl)
        | _ =>
          simp only [List.filterMap_cons, List.filterMap_nil, ownerEntry, List.append_nil]
          refine .tail (ih answers.1) (.signs _ (.asks answer) ?_)
          exact fun _ _ _ _ same => by cases same

/-- A recovery that is alone goes on as far as its exchange. -/
theorem follows_recovery {past more : RecoveryExchange}
    {rest last : Recovery TwitchDeliverySession} (run : SignInRun)
    (reaches : Dialogue.Reaches rest more last)
    (answers : Answers ports (more.filterMap TwitchSessionOwner.ownerEntry) owner) :
    Relation.ReflTransGen (Step ports record) ⟨⟨owner, said, [⟨past, rest⟩]⟩, run⟩
      ⟨⟨after ports (more.filterMap TwitchSessionOwner.ownerEntry) owner,
        said ++ more.filterMap TwitchSessionOwner.ownerEntry, [⟨past ++ more, last⟩]⟩, run⟩ := by
  have alone := @SessionSystem.follows_recovery W ports
    (fun before after => Step ports record ⟨before, run⟩ ⟨after, run⟩) owner said past more rest last
    (fun _ underway call next split asking => .recovers [] [] underway call next split asking)
    (fun _ underway question next answer split asking elsewhere =>
      .learns [] [] underway question next answer split asking elsewhere) reaches answers
  exact alone.lift (fun session => (⟨session, run⟩ : SignInSystem W)) fun _ _ step => step

end follows

/-! The controller signs in. A delivery is lent the session, which is rejected, and a recovery
takes it out. -/

section sample
open TwitchSessionOwner (recordStores plainConfiguration)
open TwitchAuthenticationController.SignInRun (sampleAdmitted sampleValidated sampleValidating
  sampleConnected rotatedSession)

def sampleOwner (said : SignInExchange) : TwitchSessionOwner (Option SecretValue) :=
  after recordStores (said.filterMap ownerEntry) (.new plainConfiguration false none)

theorem follows_sampleController {past : SignInExchange} {place : Place}
    (steps : Relation.ReflTransGen SignInRun.Step .new ⟨past, place⟩)
    (answers : Answers recordStores (past.filterMap ownerEntry)
      (.new plainConfiguration false none)) :
    Relation.ReflTransGen (Step recordStores id) (new plainConfiguration false none)
      ⟨⟨sampleOwner past, past.filterMap ownerEntry, []⟩, ⟨past, place⟩⟩ := by
  obtain ⟨more, same, follows⟩ := follows_controller steps
  obtain rfl : past = more := same
  exact follows answers

/-- The session is validated while its transaction is open. -/
theorem sampleValidating_follows :
    Relation.ReflTransGen (Step recordStores id) (new plainConfiguration false none)
      ⟨⟨sampleOwner sampleAdmitted, sampleAdmitted.filterMap ownerEntry, []⟩,
        ⟨sampleAdmitted, .idle sampleValidating⟩⟩ := by
  apply follows_sampleController SignInRun.sampleValidating_reached
  exact ⟨by decide +kernel, trivial⟩

def sampleLent : Except TwitchDeliverySessionError TwitchDeliverySession ×
    TwitchSessionOwner (Option SecretValue) :=
  perform recordStores (.acquire false) (sampleOwner (sampleAdmitted ++ sampleValidated))

def sampleRenewal : RecoveryExchange :=
  [⟨.stopRequested, false⟩,
    ⟨.owner (.beginRecovery (lease rotatedSession 1) false), .ok (.inr ⟨2, rotatedSession⟩)⟩]

def sampleTaken : TwitchSessionOwner (Option SecretValue) :=
  after recordStores (sampleRenewal.filterMap TwitchSessionOwner.ownerEntry) sampleLent.2

/-- Another delivery is told to come back. -/
def sampleHeld : Except TwitchDeliverySessionError TwitchDeliverySession ×
    TwitchSessionOwner (Option SecretValue) :=
  perform recordStores (.acquire false) sampleTaken

def sampleShared (recovery : Recovery TwitchDeliverySession) :
    SignInSystem (Option SecretValue) where
  session :=
    { owner := sampleHeld.2
      said := (sampleAdmitted ++ sampleValidated).filterMap ownerEntry ++
        [⟨.acquire false, sampleLent.1⟩] ++
          sampleRenewal.filterMap TwitchSessionOwner.ownerEntry ++ [⟨.acquire false, sampleHeld.1⟩]
      recoveries := [⟨sampleRenewal, recovery⟩] }
  run := ⟨sampleAdmitted ++ sampleValidated, .idle sampleConnected⟩

theorem sampleShared_reached : ∃ question next,
    Relation.ReflTransGen (Step recordStores id) (new plainConfiguration false none)
      (sampleShared (Dialogue.ask question next)) := by
  have signedIn := follows_sampleController (.trans SignInRun.sampleValidating_reached
    (SignInRun.of_call .tick SignInRun.sampleConnected_reaches))
    ⟨by decide +kernel, by decide +kernel, trivial⟩
  have begun := (signedIn.tail (.delivers false)).tail (.begins (lease rotatedSession 1))
  have renewal : ∃ question next, Dialogue.Reaches (recover (lease rotatedSession 1)) sampleRenewal
      (Dialogue.ask question next) := ⟨_, _, .cons _ (.cons _ .nil)⟩
  obtain ⟨question, next, renewal⟩ := renewal
  have answers : Answers recordStores (sampleRenewal.filterMap TwitchSessionOwner.ownerEntry)
      sampleLent.2 := ⟨by decide +kernel, trivial⟩
  exact ⟨question, next, (begun.trans (follows_recovery _ renewal answers)).tail (.delivers false)⟩

/-- While the new session is validated the transaction is the controller's. After the first
delivery it is that of the recovery, and the second delivery waits for it. -/
theorem transactions_never_orphaned_sample :
    ((sampleOwner sampleAdmitted).state.pending.map (·.id) = some 1 ∧
      SignInRun.Attends sampleValidating) ∧
    sampleLent.1 = .ok (lease rotatedSession 1) ∧ sampleHeld.1 = .error (deliveryError .retry) ∧
    ∃ system : SignInSystem (Option SecretValue),
      ⟨.acquire false, sampleLent.1⟩ ∈ system.session.said ∧
      ⟨.acquire false, sampleHeld.1⟩ ∈ system.session.said ∧
      system.session.owner.state.pending.map (·.id) = some 2 ∧
        ∃ underway ∈ system.session.recoveries, underway.id = some 2 ∧
          ∃ question next, underway.rest = Dialogue.ask question next := by
  obtain ⟨question, next, reached⟩ := sampleShared_reached
  have atomic := SessionSystem.recordStores_atomic
  have validating := (transactions_never_orphaned atomic sampleValidating_follows).1 1
    (by decide +kernel)
  have isOpen : sampleHeld.2.state.pending.map (·.id) = some 2 := by decide +kernel
  have held := (transactions_never_orphaned atomic reached).1 2 isOpen
  refine ⟨⟨by decide +kernel, ?_⟩, by decide +kernel, by decide +kernel,
    sampleShared (Dialogue.ask question next), ?_, ?_, isOpen, ?_⟩
  · rcases validating with ⟨underway, member, _⟩ | ⟨_, attends⟩
    · cases member
    · exact attends
  · simp [sampleShared]
  · simp [sampleShared]
  · rcases held with going | ⟨mine, _⟩
    · exact going
    · cases mine

end sample
end SignInSystem
end MannyUploader.Application
