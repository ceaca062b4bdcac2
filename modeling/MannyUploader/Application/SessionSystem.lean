import MannyUploader.Application.RecoveryLaws
import MannyUploader.Application.SessionRecord

/-! Any number of recoveries beside other callers of the session owner, in any order of their
calls. The others never put a session back and keep to their own transactions. -/
namespace MannyUploader.Application
open Domain Foundation
namespace TwitchSessionOwner

/-- A recovery, with what it has said so far and what it goes on with. -/
structure Underway where
  past : RecoveryExchange
  rest : Recovery TwitchDeliverySession

def Underway.progress (underway : Underway) : Progress := underway.past.foldl Progress.note {}

/-- The transaction that the recovery was given. -/
def Underway.id (underway : Underway) : Option UInt64 := underway.progress.transaction.map (·.id)

def Underway.answer (underway : Underway) (question : RecoveryQuestion) (answer : question.Answer)
    (next : question.Answer → Recovery TwitchDeliverySession) : Underway where
  past := underway.past ++ [⟨question, answer⟩]
  rest := next answer

structure SessionSystem (W : Type) where
  owner : TwitchSessionOwner W
  said : OwnerCalls
  recoveries : List Underway

namespace SessionSystem
variable {W : Type} {ports : StorePorts W} {record : W → Option SecretValue}

def call (ports : StorePorts W) (system : SessionSystem W) (call : OwnerCall)
    (recoveries : List Underway) : SessionSystem W where
  owner := (perform ports call system.owner).2
  said := system.said ++ [⟨call, (perform ports call system.owner).1⟩]
  recoveries := recoveries

/-- What a caller may ask that is not a recovery. -/
def Outside (system : SessionSystem W) (call : OwnerCall) : Prop :=
  (∀ id session, call ≠ .restore id session) ∧
    ∀ id, call.transaction = some id → ∀ underway ∈ system.recoveries, underway.id ≠ some id

inductive Step (ports : StorePorts W) (record : W → Option SecretValue) (system : SessionSystem W) :
    SessionSystem W → Prop
  | outside (call : OwnerCall) (allowed : system.Outside call) :
      Step ports record system (system.call ports call system.recoveries)
  | elsewhere (owner : TwitchSessionOwner W) (stays : RecordStays record system.owner owner) :
      Step ports record system { system with owner }
  | begins (rejected : TwitchDeliverySession) :
      Step ports record system
        { system with recoveries := system.recoveries ++ [⟨[], recover rejected⟩] }
  | asks (before after : List Underway) (underway : Underway) (question : OwnerCall)
      (next : question.Answer → Recovery TwitchDeliverySession)
      (split : system.recoveries = before ++ underway :: after)
      (asking : underway.rest = Dialogue.ask (.owner question) next) :
      Step ports record system (system.call ports question (before ++
        underway.answer (.owner question) (perform ports question system.owner).1 next :: after))
  | learns (before after : List Underway) (underway : Underway) (question : RecoveryQuestion)
      (next : question.Answer → Recovery TwitchDeliverySession) (answer : question.Answer)
      (split : system.recoveries = before ++ underway :: after)
      (asking : underway.rest = Dialogue.ask question next) (elsewhere : ∀ call, question ≠ .owner call) :
      Step ports record system { system with
        recoveries := before ++ underway.answer question answer next :: after }

def new (configuration : ConfigurationService) (poisoned : Bool) (world : W) : SessionSystem W where
  owner := .new configuration poisoned world
  said := []
  recoveries := []

/-- How one recovery stands to the owner. -/
structure Abreast (said : OwnerCalls) (state : State) (underway : Underway) : Prop where
  follows : RecoveryFollows (fun after _ => after.Closed)
    (fun after fault => fault ≠ .panicked ∧ after.Closed) underway.progress underway.rest
  lent : ∀ transaction, underway.progress.transaction = some transaction →
    ∃ entry ∈ said, opened entry = some (transaction.id, some transaction.session)
  settled : underway.progress.ended = true → ∀ id, underway.id = some id → (ledger said).openId ≠ some id
  back : underway.progress.rotated = false → ∀ id, underway.id = some id →
    (ledger said).openId = some id → ∃ pending, state.pending = some pending ∧
      pending.restorable = true

/-- No two recoveries have the same transaction. -/
def Apart (first second : Underway) : Prop := ∀ id, first.id = some id → second.id ≠ some id

structure Sound (ports : StorePorts W) (record : W → Option SecretValue)
    (start : TwitchSessionOwner W) (system : SessionSystem W) : Prop where
  attended : Attended (perform ports) (RecordStays record) RestoresLent start system.said system.owner
  abreast : ∀ underway ∈ system.recoveries, Abreast system.said system.owner.state underway
  apart : system.recoveries.Pairwise Apart

/-! What one call does to the open transaction. -/

section calls
variable {said : OwnerCalls} {state state' : State} {entry : OwnerEntry} {id : UInt64}

/-- A transaction that was opened before is not opened again. It stays as it is, unless it is
its own way back that is barred. -/
theorem openId_of_known (kept : Kept said state) (effect : Effect entry state state')
    (known : id ∈ openedIds said) (isOpen : (ledger (said ++ [entry])).openId = some id) :
    (ledger said).openId = some id ∧
      (state'.pending = state.pending ∨ ∃ session, entry.1 = .persistPending id session) := by
  have after := (kept.step effect).openId
  rw [isOpen] at after
  have before := kept.openId
  cases effect with
  | quiet closed idle stays => exact ⟨before.trans after.symm, .inl rfl⟩
  | stopped closed idle stopping => exact ⟨before.trans after.symm, .inl rfl⟩
  | barred found session called fits =>
    obtain ⟨pending, checked, _⟩ := fits
    obtain ⟨_, present, same⟩ := check_ok checked
    rw [present] at after before
    obtain rfl : id = pending.id := Option.some.inj after
    exact ⟨before, .inr ⟨session, by rw [called, same]⟩⟩
  | opens gives idle begins =>
    rw [begins.effect] at after
    obtain rfl : id = state.nextTransaction := Option.some.inj after
    exact absurd (kept.idsBelow _ known) (UInt64.lt_irrefl _)
  | commits found session fits same => cases after
  | restores found session fits restorable same => cases after
  | drops stopping closed idle gone => cases after

theorem check_of_open {pending : Pending} (kept : Kept said state)
    (present : state.pending = some pending) : state.check pending.id = .ok pending := by
  have running : state.stopping ≠ true := fun stopping => by
    rw [(kept.stopped stopping).2] at present
    cases present
  unfold State.check
  rw [if_neg running, present]
  exact if_pos rfl

variable {owner : TwitchSessionOwner W}

/-- After a discard, and after a restore of what was handed out, the transaction is over. -/
theorem discard_closes (kept : Kept said owner.state) (id : UInt64) (eraseSaved : Bool) :
    (perform ports (.discard id eraseSaved) owner).2.state.pending.map (·.id) ≠ some id := by
  change (discard ports id eraseSaved owner).2.state.pending.map (·.id) ≠ some id
  unfold discard
  rw [checking_bind]
  cases found : owner.state.check id with
  | error error =>
    intro same
    obtain ⟨pending, present, rfl⟩ := Option.map_eq_some_iff.mp same
    rw [check_of_open kept present] at found
    cases found
  | ok pending =>
    dsimp only
    rw [change_bind]
    cases eraseSaved with
    | false => exact fun same => by cases same
    | true =>
      rw [if_pos rfl, erase_state]
      exact fun same => by cases same

theorem restore_closes (kept : Kept said owner.state) (id : UInt64) (session : TwitchSession)
    (ready : ∀ pending, owner.state.pending = some pending → pending.id = id →
      pending.restorable = true ∧ pending.userId = some session.userId ∧
        ∃ bytes, encodeTwitchSession session = .ok bytes) :
    (perform ports (.restore id session) owner).2.state.pending.map (·.id) ≠ some id := by
  change (restore id session owner).2.state.pending.map (·.id) ≠ some id
  intro same
  by_cases isOpen : owner.state.pending.map (·.id) = some id
  · obtain ⟨pending, present, rfl⟩ := Option.map_eq_some_iff.mp isOpen
    obtain ⟨restorable, user, bytes, encoded⟩ := ready pending present rfl
    have checked := check_of_open kept present
    have identity : owner.state.checkIdentity pending.id session = .ok () := by
      unfold State.checkIdentity
      rw [checked]
      change (if pending.userId.any (· != session.userId) then _ else _) = _
      rw [user]
      simp
    unfold restore at same
    rw [checking_bind, identity] at same
    dsimp only at same
    rw [checking_bind, checked] at same
    dsimp only at same
    rw [restorable, encoded] at same
    cases same
  · have stays := (foreign_refused ports (.restore id session) rfl isOpen).1
    change (restore id session owner).2 = owner at stays
    rw [stays] at same
    exact isOpen same

end calls

namespace Abreast
variable {said : OwnerCalls} {owner : TwitchSessionOwner W} {state' : State} {entry : OwnerEntry}
  {underway : Underway}

theorem known {state : State} (abreast : Abreast said state underway) {id : UInt64}
    (has : underway.id = some id) : id ∈ openedIds said := by
  obtain ⟨transaction, present, rfl⟩ := Option.map_eq_some_iff.mp has
  obtain ⟨entry, member, opens⟩ := abreast.lent transaction present
  exact List.mem_filterMap.mpr ⟨entry, member, by rw [opens]; rfl⟩

/-- A call that does not bar the recovery's own way back leaves it as it stands. -/
theorem other {state : State} (abreast : Abreast said state underway) (kept : Kept said state)
    (effect : Effect entry state state')
    (notOwn : ∀ id session, underway.id = some id → entry.1 ≠ .persistPending id session) :
    Abreast (said ++ [entry]) state' underway where
  follows := abreast.follows
  lent := by
    intro transaction present
    obtain ⟨found, member, opens⟩ := abreast.lent transaction present
    exact ⟨found, List.mem_append_left _ member, opens⟩
  settled := by
    intro ended id has isOpen
    exact abreast.settled ended id has (openId_of_known kept effect (abreast.known has) isOpen).1
  back := by
    intro fresh id has isOpen
    obtain ⟨wasOpen, same | ⟨session, called⟩⟩ :=
      openId_of_known kept effect (abreast.known has) isOpen
    · rw [same]
      exact abreast.back fresh id has wasOpen
    · exact absurd called (notOwn id session has)

/-- What the recovery is told of the owner. -/
theorem told {state : State} (abreast : Abreast said state underway) (kept : Kept said state)
    (effect : Effect entry state state') {after : Underway}
    (follows : RecoveryFollows (fun after _ => after.Closed)
      (fun after fault => fault ≠ .panicked ∧ after.Closed) after.progress after.rest)
    (same : after.progress.transaction = underway.progress.transaction)
    (settled : after.progress.ended = true → ∀ id, underway.id = some id →
      state'.pending.map (·.id) ≠ some id)
    (back : after.progress.rotated = false → after.progress.ended = false →
      underway.progress.rotated = false ∧ ∀ id session, entry.1 ≠ .persistPending id session) :
    Abreast (said ++ [entry]) state' after where
  follows := follows
  lent := by
    intro transaction present
    obtain ⟨found, member, opens⟩ := abreast.lent transaction (same ▸ present)
    exact ⟨found, List.mem_append_left _ member, opens⟩
  settled := by
    intro ended id has
    rw [(kept.step effect).openId]
    exact settled ended id (by rwa [Underway.id, ← same])
  back := by
    intro fresh id has isOpen
    have owns : underway.id = some id := by rwa [Underway.id, ← same]
    cases ended : after.progress.ended with
    | true =>
      rw [(kept.step effect).openId] at isOpen
      exact absurd isOpen (settled ended id owns)
    | false =>
      obtain ⟨fresh, notOwn⟩ := back fresh ended
      obtain ⟨wasOpen, pending | ⟨session, called⟩⟩ :=
        openId_of_known kept effect (abreast.known owns) isOpen
      · rw [pending]
        exact abreast.back fresh id owns wasOpen
      · exact absurd called (notOwn id session)

variable {call : OwnerCall} {next : call.Answer → Recovery TwitchDeliverySession}
  {configuration : ConfigurationService} {poisoned : Bool} {world : W}

theorem progress_answer (underway : Underway) (question : RecoveryQuestion)
    (answer : question.Answer) (next : question.Answer → Recovery TwitchDeliverySession) :
    (underway.answer question answer next).progress = underway.progress.note ⟨question, answer⟩ := by
  simp [Underway.answer, Underway.progress]

theorem asking_follows {state : State} (abreast : Abreast said state underway)
    {question : RecoveryQuestion} {next : question.Answer → Recovery TwitchDeliverySession}
    (asking : underway.rest = Dialogue.ask question next) (answer : question.Answer) :
    underway.progress.Allows question ∧
      RecoveryFollows (fun after _ => after.Closed) (fun after fault => fault ≠ .panicked ∧ after.Closed)
        (underway.answer question answer next).progress
        (underway.answer question answer next).rest := by
  have follows := abreast.follows
  rw [asking] at follows
  rw [progress_answer]
  exact ⟨follows.1, follows.2 answer⟩

/-- What a restore of the session that was handed out meets. -/
theorem ready (abreast : Abreast said owner.state underway) (intact : Intact record said owner)
    {id : UInt64} {session : TwitchSession}
    (lent : underway.progress.transaction = some ⟨id, session⟩)
    (fresh : underway.progress.rotated = false) :
    ∀ pending, owner.state.pending = some pending → pending.id = id →
      pending.restorable = true ∧ pending.userId = some session.userId ∧
        ∃ bytes, encodeTwitchSession session = .ok bytes := by
  rintro pending present rfl
  have isOpen : (ledger said).openId = some pending.id := by
    rw [intact.kept.openId, present, Option.map_some]
  have owns : underway.id = some pending.id := by rw [Underway.id, lent, Option.map_some]
  obtain ⟨found, present', restorable⟩ := abreast.back fresh pending.id owns isOpen
  obtain rfl : pending = found := Option.some.inj (present.symm.trans present')
  obtain ⟨entry, member, opens⟩ := abreast.lent _ lent
  have handed := intact.kept.lent entry member _ _ opens isOpen
  refine ⟨restorable, ?_, ?_⟩
  · rw [intact.kept.bound pending present, handed, Option.map_some]
  · obtain ⟨bytes, encoded, _⟩ := intact.recorded session
      (.inr ⟨pending, present, restorable, handed⟩)
    exact ⟨bytes, encoded⟩

theorem of_progress {state : State} (abreast : Abreast said state underway) {after : Underway}
    (follows : RecoveryFollows (fun after _ => after.Closed)
      (fun after fault => fault ≠ .panicked ∧ after.Closed) after.progress after.rest)
    (same : after.progress = underway.progress) : Abreast said state after where
  follows := follows
  lent := by rw [same]; exact abreast.lent
  settled := by rw [Underway.id, same]; exact abreast.settled
  back := by rw [Underway.id, same]; exact abreast.back

/-- A recovery begins with the session that was connected, and may put it back. -/
theorem begins {rejected : TwitchDeliverySession}
    {stopRequested : Bool} {after : Underway}
    (follows : RecoveryFollows (fun after _ => after.Closed)
      (fun after fault => fault ≠ .panicked ∧ after.Closed) after.progress after.rest)
    (idle : underway.progress = {})
    (noted : after.progress = underway.progress.note
      ⟨.owner (.beginRecovery rejected stopRequested),
        (perform ports (.beginRecovery rejected stopRequested) owner).1⟩) :
    Abreast (said ++ [⟨.beginRecovery rejected stopRequested,
        (perform ports (.beginRecovery rejected stopRequested) owner).1⟩])
      (perform ports (.beginRecovery rejected stopRequested) owner).2.state after := by
  change after.progress = underway.progress.note
    ⟨.owner (.beginRecovery rejected stopRequested), (beginRecovery rejected stopRequested owner).1⟩
    at noted
  change Abreast (said ++ [⟨.beginRecovery rejected stopRequested,
    (beginRecovery rejected stopRequested owner).1⟩])
      (beginRecovery rejected stopRequested owner).2.state after
  rw [idle] at noted
  have nothing (empty : after.progress = {}) {said : OwnerCalls} {state : State} :
      Abreast said state after := {
    follows := follows
    lent := by rw [empty]; intro transaction present; cases present
    settled := by rw [empty]; intro ended; cases ended
    back := by rw [Underway.id, empty]; intro _ id has; cases has }
  rcases beginRecovery_apply owner rejected stopRequested with
    ⟨error, same⟩ | ⟨session, _, same⟩ | ⟨session, running, present, same⟩
  · rw [same] at noted
    exact nothing noted
  · rw [same] at noted
    exact nothing noted
  · rw [same] at noted ⊢
    replace noted : after.progress = { transaction := some ⟨owner.state.nextTransaction, session⟩ } :=
      noted
    refine ⟨follows, ?_, ?_, ?_⟩
    · rw [noted]
      intro transaction has
      cases has
      exact ⟨_, List.mem_append_right _ (List.mem_singleton_self _), rfl⟩
    · rw [noted]
      intro ended
      cases ended
    · rw [Underway.id, noted]
      intro _ id _ _
      exact ⟨_, rfl, rfl⟩

/-- A commit that succeeds ends the transaction. One that fails leaves it to be discarded. -/
theorem commits {state : State} {id : UInt64} {session : TwitchSession}
    {answer : Except TwitchSessionOwnerError TwitchSessionOwnerSnapshot} {after : Underway}
    (abreast : Abreast said state underway) (kept : Kept said state)
    (effect : Effect ⟨.commit id session, answer⟩ state state')
    (follows : RecoveryFollows (fun after _ => after.Closed)
      (fun after fault => fault ≠ .panicked ∧ after.Closed) after.progress after.rest)
    (noted : after.progress = underway.progress.note ⟨.owner (.commit id session), answer⟩) :
    Abreast (said ++ [⟨.commit id session, answer⟩]) state' after := by
  cases answer with
  | error error =>
    exact (abreast.other kept effect fun _ _ _ same => by cases same).of_progress follows noted
  | ok snapshot =>
    have settled : (ledger (said ++ [⟨.commit id session, .ok snapshot⟩])).openId = none := by
      rw [ledger_snoc]
      rfl
    rw [(kept.step effect).openId] at settled
    refine abreast.told kept effect follows (by rw [noted]; rfl) (fun _ found _ => ?_) ?_
    · rw [settled]
      exact fun same => by cases same
    · rw [noted]
      exact fun _ running => by cases running

/-- A question of the recovery to the owner. -/
theorem asks (abreast : Abreast said owner.state underway) (intact : Intact record said owner)
    (asking : underway.rest = Dialogue.ask (.owner call) next) :
    Abreast (said ++ [⟨call, (perform ports call owner).1⟩]) (perform ports call owner).2.state
      (underway.answer (.owner call) (perform ports call owner).1 next) := by
  obtain ⟨allowed, follows⟩ := abreast.asking_follows asking (perform ports call owner).1
  have effect := performs ports owner call
  have noted := progress_answer underway (.owner call) (perform ports call owner).1 next
  have tell := fun same => abreast.told intact.kept effect follows (noted ▸ same)
  rw [noted] at tell
  cases call with
  | beginRecovery rejected stopRequested =>
    exact begins follows allowed noted
  | check id =>
    exact (abreast.other intact.kept effect fun _ _ _ same => by cases same).of_progress follows noted
  | acquire stopRequested =>
    exact (abreast.other intact.kept effect fun _ _ _ same => by cases same).of_progress follows noted
  | discard id eraseSaved =>
    obtain ⟨_, transaction, present, rfl⟩ := allowed
    refine tell rfl (fun _ id has => ?_) fun _ running => by cases running
    rw [Underway.id, present] at has
    cases has
    exact discard_closes intact.kept transaction.id eraseSaved
  | restore id session =>
    obtain ⟨_, fresh, present⟩ := allowed
    refine tell rfl (fun _ found has => ?_) fun _ running => by cases running
    rw [Underway.id, present] at has
    cases has
    exact restore_closes intact.kept id session (abreast.ready intact present fresh)
  | persistPending id session =>
    refine tell rfl (fun ended => ?_) fun fresh => by cases fresh
    have running : underway.progress.ended = false := allowed.1.1
    rw [show underway.progress.ended = true from ended] at running
    cases running
  | commit id session =>
    exact commits abreast intact.kept effect follows noted
  | checkoutSaved => exact allowed.elim
  | beginNew session => exact allowed.elim
  | reserveNew => exact allowed.elim
  | checkoutActive => exact allowed.elim
  | eraseSaved => exact allowed.elim
  | connectionState => exact allowed.elim
  | shutdown => exact allowed.elim

end Abreast

section steps
variable {configuration : ConfigurationService} {poisoned : Bool} {world : W}
  {system system' : SessionSystem W}

/-- An entry of a list that is kept apart from the others may change its place in the order of
its own questions, as long as it stays apart. -/
theorem pairwise_replace {before after : List Underway} {old new : Underway}
    (apart : (before ++ old :: after).Pairwise Apart)
    (first : ∀ other ∈ before, Apart other new) (last : ∀ other ∈ after, Apart new other) :
    (before ++ new :: after).Pairwise Apart := by
  rw [List.pairwise_append, List.pairwise_cons] at apart ⊢
  obtain ⟨left, ⟨_, right⟩, across⟩ := apart
  refine ⟨left, ⟨last, right⟩, fun other member found rest => ?_⟩
  rcases List.mem_cons.mp rest with rfl | rest
  · exact first other member
  · exact across other member found (List.mem_cons_of_mem _ rest)

theorem apart_of_split {before after : List Underway} {underway other : Underway}
    (apart : (before ++ underway :: after).Pairwise Apart) (member : other ∈ before ++ after) :
    Apart underway other := by
  rw [List.pairwise_append, List.pairwise_cons] at apart
  obtain ⟨_, ⟨right, _⟩, across⟩ := apart
  rcases List.mem_append.mp member with first | last
  · exact fun id has own => across other first _ List.mem_cons_self id own has
  · exact right other last

theorem mem_replaced {before after : List Underway} {new found : Underway}
    (member : found ∈ before ++ new :: after) : found = new ∨ found ∈ before ++ after := by
  simp only [List.mem_append, List.mem_cons] at member ⊢
  tauto

theorem Apart.symm {first second : Underway} (apart : Apart first second) : Apart second first :=
  fun id has other => apart id other has

/-- The id of a recovery comes from its own call, and is one that nobody had before. -/
theorem apart_answer {said : OwnerCalls} {owner : TwitchSessionOwner W} {underway other : Underway}
    {call : OwnerCall} {next : call.Answer → Recovery TwitchDeliverySession}
    (kept : Kept said owner.state) (abreast : Abreast said owner.state other)
    (apart : Apart underway other) :
    Apart (underway.answer (.owner call) (perform ports call owner).1 next) other := by
  intro id has
  rw [Underway.id, Abreast.progress_answer] at has
  cases call with
  | beginRecovery rejected stopRequested =>
    change (underway.progress.note ⟨.owner (.beginRecovery rejected stopRequested),
      (beginRecovery rejected stopRequested owner).1⟩).transaction.map (·.id) = some id at has
    rcases beginRecovery_apply owner rejected stopRequested with
      ⟨error, same⟩ | ⟨session, _, same⟩ | ⟨session, running, present, same⟩
    · rw [same] at has
      exact apart id has
    · rw [same] at has
      exact apart id has
    · rw [same] at has
      intro owned
      have below := kept.idsBelow id (abreast.known owned)
      obtain rfl : owner.state.nextTransaction = id := Option.some.inj has
      exact UInt64.lt_irrefl _ below
  | commit found session =>
    change (underway.progress.note ⟨.owner (.commit found session),
      (commit ports found session owner).1⟩).transaction.map (·.id) = some id at has
    cases answered : (commit ports found session owner).1 <;> rw [answered] at has <;>
      exact apart id has
  | _ => exact apart id has

theorem id_learned {underway : Underway} {question : RecoveryQuestion}
    {next : question.Answer → Recovery TwitchDeliverySession} {answer : question.Answer}
    (elsewhere : ∀ call, question ≠ .owner call) :
    (underway.answer question answer next).id = underway.id := by
  rw [Underway.id, Abreast.progress_answer]
  cases question with
  | owner call => exact absurd rfl (elsewhere call)
  | refreshAccessToken token => rcases answer with (error | _) | grant <;> rfl
  | _ => rfl

/-- A question to the client, the stop token or the clock. -/
theorem abreast_learned {said : OwnerCalls} {state : State} {underway : Underway}
    {question : RecoveryQuestion} {next : question.Answer → Recovery TwitchDeliverySession}
    (abreast : Abreast said state underway) (asking : underway.rest = Dialogue.ask question next)
    (elsewhere : ∀ call, question ≠ .owner call) (answer : question.Answer) :
    Abreast said state (underway.answer question answer next) := by
  obtain ⟨_, follows⟩ := abreast.asking_follows asking answer
  have noted := Abreast.progress_answer underway question answer next
  cases question with
  | owner call => exact absurd rfl (elsewhere call)
  | stopRequested => exact abreast.of_progress follows noted
  | systemNow => exact abreast.of_progress follows noted
  | validateAccessToken token => exact abreast.of_progress follows noted
  | refreshAccessToken token =>
    have same : (underway.answer (.refreshAccessToken token) answer next).progress.transaction =
        underway.progress.transaction := by
      rw [noted]
      rcases answer with (error | _) | grant <;> rfl
    have ended : (underway.answer (.refreshAccessToken token) answer next).progress.ended =
        underway.progress.ended := by
      rw [noted]
      rcases answer with (error | _) | grant <;> rfl
    refine ⟨follows, by rw [same]; exact abreast.lent, ?_, ?_⟩
    · rw [Underway.id, same, ended]
      exact abreast.settled
    · rw [Underway.id, same, noted]
      intro fresh
      apply abreast.back
      rcases answer with (error | _) | grant
      · exact fresh
      · cases fresh
      · cases fresh

theorem Sound.new : Sound ports record (.new configuration poisoned world)
    (new configuration poisoned world) where
  attended := .start
  abreast := by simp [SessionSystem.new]
  apart := List.Pairwise.nil

theorem Sound.step (atomic : AtomicRecord ports record)
    (sound : Sound ports record (.new configuration poisoned world) system)
    (step : Step ports record system system') :
    Sound ports record (.new configuration poisoned world) system' := by
  have intact := intact_of_attended atomic sound.attended
  cases step with
  | outside call allowed =>
    refine ⟨sound.attended.ask call ?_, ?_, sound.apart⟩
    · exact fun id session same => absurd same (allowed.1 id session)
    · intro underway member
      apply (sound.abreast underway member).other intact.kept (performs ports system.owner call)
      rintro id session has rfl
      exact allowed.2 id rfl underway member has
  | elsewhere owner stays =>
    refine ⟨sound.attended.shift stays, ?_, sound.apart⟩
    intro underway member
    rw [show owner.state = system.owner.state from stays.1]
    exact sound.abreast underway member
  | begins rejected =>
    refine ⟨sound.attended, ?_, ?_⟩
    · intro underway member
      rcases List.mem_append.mp member with before | last
      · exact sound.abreast underway before
      · rw [List.mem_singleton.mp last]
        exact {
          follows := follows_recover rejected
          lent := fun transaction present => by cases present
          settled := fun ended => by cases ended
          back := fun _ id has => by cases has }
    · rw [List.pairwise_append]
      refine ⟨sound.apart, List.pairwise_singleton _ _, fun first _ last member id _ => ?_⟩
      rw [List.mem_singleton.mp member]
      exact fun same => by cases same
  | asks before after underway call next split asking =>
    have here : underway ∈ system.recoveries := by simp [split]
    have abreast := sound.abreast underway here
    obtain ⟨allowed, _⟩ := abreast.asking_follows asking (perform ports call system.owner).1
    have apart := sound.apart
    rw [split] at apart
    have held : ∀ other ∈ before ++ after, other ∈ system.recoveries := by
      intro other member
      rw [split]
      exact List.mem_append.mpr ((List.mem_append.mp member).imp_right (List.mem_cons_of_mem _))
    have separate : ∀ other ∈ before ++ after, Apart
        (underway.answer (.owner call) (perform ports call system.owner).1 next) other :=
      fun other member => apart_answer intact.kept (sound.abreast other (held other member))
        (apart_of_split apart member)
    refine ⟨sound.attended.ask call ?_, ?_, ?_⟩
    · rintro id session rfl isOpen
      obtain ⟨_, _, lent⟩ := allowed
      obtain ⟨entry, member, opens⟩ := abreast.lent _ lent
      exact intact.kept.lent entry member _ _ opens isOpen
    · intro found member
      rcases mem_replaced member with rfl | apartOf
      · exact abreast.asks intact asking
      · apply (sound.abreast found (held found apartOf)).other intact.kept
          (performs ports system.owner call)
        rintro id session has rfl
        obtain ⟨⟨_, transaction, present, rfl⟩, _⟩ := allowed
        refine apart_of_split apart apartOf transaction.id ?_ has
        rw [Underway.id, present, Option.map_some]
    · exact pairwise_replace apart
        (fun other member => (separate other (List.mem_append_left _ member)).symm)
        fun other member => separate other (List.mem_append_right _ member)
  | learns before after underway question next answer split asking elsewhere =>
    have same := @id_learned underway question next answer elsewhere
    have apart := sound.apart
    rw [split] at apart
    have held : ∀ other ∈ before ++ after, other ∈ system.recoveries := by
      intro other member
      rw [split]
      exact List.mem_append.mpr ((List.mem_append.mp member).imp_right (List.mem_cons_of_mem _))
    have separate : ∀ other ∈ before ++ after, Apart (underway.answer question answer next) other := by
      intro other member id has
      rw [same] at has
      exact apart_of_split apart member id has
    refine ⟨sound.attended, ?_, ?_⟩
    · intro found member
      rcases mem_replaced member with rfl | member
      · exact abreast_learned (sound.abreast underway (by simp [split])) asking elsewhere answer
      · exact sound.abreast found (held found member)
    · exact pairwise_replace apart
        (fun other member => (separate other (List.mem_append_left _ member)).symm)
        fun other member => separate other (List.mem_append_right _ member)

theorem sound_of_reached (atomic : AtomicRecord ports record)
    (reached : Relation.ReflTransGen (Step ports record) (new configuration poisoned world) system) :
    Sound ports record (.new configuration poisoned world) system :=
  invariant_of_moves reached (fun _ _ step sound => sound.step atomic step) Sound.new

/-- Whatever order the recoveries and the other callers come in: a lease is of the session that
was committed last, the record in the store is the one of the session that is connected, and a
transaction that a recovery opened is over, or the recovery still goes on. -/
theorem recoveries_keep_session (atomic : AtomicRecord ports record)
    (reached : Relation.ReflTransGen (Step ports record) (new configuration poisoned world) system) :
    EachAfter (fun past entry => ∀ lent, leased entry = some lent →
      ∃ session revision, committedLast past = some (session, revision) ∧
        lent = lease session revision) system.said ∧
    (∀ session, system.owner.state.active = some session →
      ∃ bytes, record system.owner.world = some bytes ∧
        decodeTwitchSession bytes = .ok session.stored) ∧
    ∀ underway ∈ system.recoveries, ∀ id, underway.id = some id →
      system.owner.state.pending.map (·.id) = some id →
        ∃ question next, underway.rest = Dialogue.ask question next := by
  have sound := sound_of_reached atomic reached
  obtain ⟨leases, records⟩ := record_of_connected atomic sound.attended
  refine ⟨leases, fun session active => (records session active).2, ?_⟩
  intro underway member id has isOpen
  have abreast := sound.abreast underway member
  rw [← (intact_of_attended atomic sound.attended).kept.openId] at isOpen
  have follows := abreast.follows
  have running : ¬underway.progress.Closed := by
    rintro (none | ended)
    · rw [Underway.id, none] at has
      cases has
    · exact abreast.settled ended id has isOpen
  cases rest : underway.rest with
  | done lease =>
    rw [rest] at follows
    exact absurd follows running
  | fail fault =>
    rw [rest] at follows
    exact absurd follows.2 running
  | pending =>
    rw [rest] at follows
    exact follows.elim
  | ask question next => exact ⟨question, next, rfl⟩

end steps

theorem recordStores_atomic : AtomicRecord recordStores id where
  loaded _ := rfl
  stored _ _ _ := rfl
  refused _ _ _ failed := by cases failed

/-- A session is committed, and a recovery begins to run. -/
def sampleSystem : SessionSystem (Option SecretValue) :=
  let signedIn := (((new plainConfiguration false none).call recordStores
    (.beginNew shortSession) []).call recordStores (.commit 1 shortSession) [])
  { signedIn with recoveries := [⟨[], recover (lease shortSession 1)⟩] }

theorem sampleSystem_reached : Relation.ReflTransGen (Step recordStores id)
    (new plainConfiguration false none) sampleSystem := by
  refine .tail (.tail (.tail .refl (.outside (.beginNew shortSession) ⟨?_, ?_⟩))
    (.outside (.commit 1 shortSession) ⟨?_, ?_⟩)) (.begins (lease shortSession 1))
  all_goals
    intros
    simp_all [SessionSystem.new, SessionSystem.call]

end SessionSystem

/-! The rejected session is refreshed and committed, and another caller asks in between. -/

def sampleGrant : TwitchTokenGrant where
  accessToken := [67]
  refreshToken := [68]
  expiresIn := Duration.fromSecs 3600
  scopes := [twitchChatScope]

theorem hour_bounds :
    SystemTime.minNanos ≤ 3_600_000_000_000 ∧ 3_600_000_000_000 ≤ SystemTime.maxNanos := by decide

def rotatedSession : TwitchSession where
  credentials :=
    { accessToken := [67], refreshToken := [68], accessExpiresAt := ⟨3_600_000_000_000, hour_bounds⟩ }
  userId := "1"
  login := "a"
  scopes := [twitchChatScope]

/-- The session is taken out and refreshed, and the new one is saved. -/
def refreshedExchange : RecoveryExchange :=
  takenOut ++ (checked ++ ([⟨.validateAccessToken [65], .error (.failed rejectedToken)⟩] ++
    (checked ++ (checked ++ ([⟨.refreshAccessToken [66], .ok sampleGrant⟩] ++
      (checked ++ [⟨.systemNow, some .unixEpoch⟩,
        ⟨.owner (.persistPending 2 rotatedSession), .ok ()⟩]))))))

def sampleIdentity : TwitchValidatedIdentity where
  userId := "1"
  login := "b"
  expiresIn := Duration.fromSecs 3600
  scopes := [twitchChatScope]

def renamedSession : TwitchSession := { rotatedSession with login := "b" }

/-- The new session proves valid, and is committed and lent. -/
def committedExchange : RecoveryExchange :=
  checked ++ ([⟨.validateAccessToken [67], .ok sampleIdentity⟩] ++ (checked ++
    [⟨.systemNow, some .unixEpoch⟩,
      ⟨.owner (.commit 2 renamedSession), .ok (ownerSnapshot renamedSession 2)⟩,
      ⟨.stopRequested, false⟩,
      ⟨.owner (.acquire false), .ok (lease renamedSession 2)⟩]))

theorem reaches_committed :
    Dialogue.Reaches (recover (lease shortSession 1)) (refreshedExchange ++ committedExchange)
      (.done (lease renamedSession 2)) := by
  iterate 23 apply Dialogue.Reaches.cons
  exact Dialogue.Reaches.nil

/-- What the owner was asked in an exchange, and answered. -/
def ownerEntry : ((question : RecoveryQuestion) × question.Answer) → Option OwnerEntry
  | ⟨.owner call, answer⟩ => some ⟨call, answer⟩
  | _ => none

theorem filterMap_owner {call : OwnerCall} (answer : call.Answer) (more : RecoveryExchange) :
    List.filterMap ownerEntry (⟨.owner call, answer⟩ :: more) =
      ⟨call, answer⟩ :: more.filterMap ownerEntry := rfl

section answering
variable {W : Type} (ports : StorePorts W)

/-- The owner gives these answers, one after the other. -/
def Answers : OwnerCalls → TwitchSessionOwner W → Prop
  | [], _ => True
  | ⟨call, answer⟩ :: more, owner =>
    (perform ports call owner).1 = answer ∧ Answers more (perform ports call owner).2

def after (calls : OwnerCalls) (owner : TwitchSessionOwner W) : TwitchSessionOwner W :=
  calls.foldl (fun owner entry => (perform ports entry.1 owner).2) owner

end answering

namespace SessionSystem

section alone
variable {W : Type} {ports : StorePorts W} {moves : SessionSystem W → SessionSystem W → Prop}
  {owner : TwitchSessionOwner W} {said : OwnerCalls} {past more : RecoveryExchange}
  {rest last : Recovery TwitchDeliverySession}

/-- A recovery that is alone with the owner goes on as far as its exchange. -/
theorem follows_recovery
    (asks : ∀ (system : SessionSystem W) (underway : Underway) call next,
      system.recoveries = [underway] → underway.rest = Dialogue.ask (.owner call) next →
        moves system (system.call ports call
          [underway.answer (.owner call) (perform ports call system.owner).1 next]))
    (learns : ∀ (system : SessionSystem W) (underway : Underway) question next answer,
      system.recoveries = [underway] → underway.rest = Dialogue.ask question next →
        (∀ call, question ≠ .owner call) →
          moves system { system with recoveries := [underway.answer question answer next] })
    (run : Dialogue.Reaches rest more last) (answers : Answers ports (more.filterMap ownerEntry) owner) :
    Relation.ReflTransGen moves ⟨owner, said, [⟨past, rest⟩]⟩
      ⟨after ports (more.filterMap ownerEntry) owner, said ++ more.filterMap ownerEntry,
        [⟨past ++ more, last⟩]⟩ := by
  induction run generalizing owner said past with
  | nil =>
    rw [List.append_nil, List.filterMap_nil, List.append_nil]
    exact .refl
  | @cons question next more last answer _ ih =>
    have assoc : past ++ ⟨question, answer⟩ :: more = past ++ [⟨question, answer⟩] ++ more := by simp
    rw [assoc]
    cases question with
    | owner call =>
      obtain ⟨rfl, answers⟩ := answers
      rw [filterMap_owner, List.append_cons said]
      exact .head (asks ⟨owner, said, [⟨past, _⟩]⟩ ⟨past, _⟩ call next rfl rfl) (ih answers)
    | _ =>
      refine .head (learns ⟨owner, said, [⟨past, _⟩]⟩ ⟨past, _⟩ _ next answer rfl rfl ?_)
        (@ih owner said _ answers)
      exact fun call same => by cases same

end alone

/-- The session is refreshed and saved. -/
def refreshed : TwitchSessionOwner (Option SecretValue) :=
  after recordStores (refreshedExchange.filterMap ownerEntry) sampleSystem.owner

/-- Another caller asks for a lease in the meantime, and is refused. -/
def refused : Except TwitchDeliverySessionError TwitchDeliverySession ×
    TwitchSessionOwner (Option SecretValue) :=
  perform recordStores (.acquire false) refreshed

theorem answers_refreshed :
    Answers recordStores (refreshedExchange.filterMap ownerEntry) sampleSystem.owner := by
  refine ⟨?_, ?_, ?_, ?_, ?_, ?_, trivial⟩
  all_goals decide +kernel

theorem follows_sample {owner : TwitchSessionOwner (Option SecretValue)} {said : OwnerCalls}
    {past more : RecoveryExchange} {rest last : Recovery TwitchDeliverySession}
    (run : Dialogue.Reaches rest more last)
    (answers : Answers recordStores (more.filterMap ownerEntry) owner) :
    Relation.ReflTransGen (Step recordStores id) ⟨owner, said, [⟨past, rest⟩]⟩
      ⟨after recordStores (more.filterMap ownerEntry) owner, said ++ more.filterMap ownerEntry,
        [⟨past ++ more, last⟩]⟩ := by
  apply follows_recovery _ _ run answers
  · intro system underway call next split asking
    exact .asks [] [] underway call next split asking
  · intro system underway question next answer split asking elsewhere
    exact .learns [] [] underway question next answer split asking elsewhere

theorem refreshed_reached : ∃ rest,
    Dialogue.Reaches (recover (lease shortSession 1)) refreshedExchange rest ∧
      Dialogue.Reaches rest committedExchange (.done (lease renamedSession 2)) ∧
      Relation.ReflTransGen (Step recordStores id) (new plainConfiguration false none)
        ⟨refused.2, sampleSystem.said ++ refreshedExchange.filterMap ownerEntry ++
          [⟨.acquire false, refused.1⟩], [⟨refreshedExchange, rest⟩]⟩ := by
  obtain ⟨rest, begun, ends⟩ := reaches_committed.split
  have refreshed : Relation.ReflTransGen (Step recordStores id) sampleSystem _ :=
    follows_sample begun answers_refreshed
  refine ⟨rest, begun, ends, .tail (sampleSystem_reached.trans refreshed) ?_⟩
  refine .outside (.acquire false) ⟨fun id session same => ?_, fun id same => ?_⟩
  all_goals cases same

theorem answers_committed :
    Answers recordStores (committedExchange.filterMap ownerEntry) refused.2 := by
  refine ⟨?_, ?_, ?_, ?_, trivial⟩
  all_goals decide +kernel

/-- In the midst of the rotation the recovery goes on. At its end the record is of the session
that was committed, and so is the lease. -/
theorem recoveries_keep_session_sample :
    refused.1 = .error (deliveryError .retry) ∧
    (∃ rest, Dialogue.Reaches (recover (lease shortSession 1)) refreshedExchange rest ∧
      ∃ question next, rest = Dialogue.ask question next) ∧
    ∃ system : SessionSystem (Option SecretValue),
      (∃ bytes, system.owner.world = some bytes ∧
        decodeTwitchSession bytes = .ok renamedSession.stored) ∧
      ∃ past, system.said = past ++ [⟨.acquire false, .ok (lease renamedSession 2)⟩] ∧
        ∃ session revision, committedLast past = some (session, revision) ∧
          lease renamedSession 2 = lease session revision := by
  obtain ⟨rest, begun, ends, reached⟩ := refreshed_reached
  have committed := reached.trans (follows_sample ends answers_committed)
  have during := (recoveries_keep_session recordStores_atomic reached).2.2
  obtain ⟨leases, records, -⟩ := recoveries_keep_session recordStores_atomic committed
  have given : (refreshedExchange.foldl Progress.note {}).transaction.map (·.id) = some 2 := by
    decide +kernel
  have isOpen : refused.2.state.pending.map (·.id) = some 2 := by decide +kernel
  have active : (after recordStores (committedExchange.filterMap ownerEntry)
      refused.2).state.active = some renamedSession := by
    decide +kernel
  have last : committedExchange.filterMap ownerEntry = [⟨.check 2, .ok ()⟩, ⟨.check 2, .ok ()⟩,
    ⟨.commit 2 renamedSession, .ok (ownerSnapshot renamedSession 2)⟩] ++
      [⟨.acquire false, .ok (lease renamedSession 2)⟩] := rfl
  refine ⟨by decide +kernel, ⟨rest, begun, ?_⟩, _, records _ active, ?_⟩
  · exact during ⟨refreshedExchange, rest⟩ (List.mem_singleton_self _) 2 given isOpen
  · rw [last, ← List.append_assoc] at leases ⊢
    exact ⟨_, rfl, leases _ _ [] rfl (lease renamedSession 2) rfl⟩

end SessionSystem
end TwitchSessionOwner
end MannyUploader.Application
