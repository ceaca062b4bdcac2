import Mathlib.Data.List.Pairwise
import MannyUploader.Application.SessionMoves
import MannyUploader.Application.TwitchSessionLaws

/-! What the session owner keeps over every run of calls: one session or one transaction, ids
and revisions that only grow, and leases of nothing but the connected session. -/
namespace MannyUploader.Application
open Domain Foundation
namespace TwitchSessionOwner

@[simp] theorem openedIds_snoc (said : OwnerCalls) (entry : OwnerEntry) :
    openedIds (said ++ [entry]) = openedIds said ++ ((opened entry).map (·.1)).toList := by
  unfold openedIds
  rw [List.filterMap_append]
  cases found : opened entry <;> simp [found]

@[simp] theorem committedRevisions_snoc (said : OwnerCalls) (entry : OwnerEntry) :
    committedRevisions (said ++ [entry]) =
      committedRevisions said ++ ((connected entry).bind (·.2)).toList := by
  unfold committedRevisions
  rw [List.filterMap_append]
  cases found : (connected entry).bind (·.2) <;> simp [found]

/-- A number that grows below the last one does not start again. -/
theorem lt_succ_of_ne {number : UInt64} (room : number ≠ maxNumber) : number < number + 1 := by
  rw [UInt64.lt_iff_toNat_lt, UInt64.toNat_add]
  have below := number.toNat_lt
  have differs : number.toNat ≠ 18446744073709551615 := fun same =>
    room (UInt64.toNat_inj.mp same)
  change number.toNat < (number.toNat + 1) % 2 ^ 64
  omega

/-- An increasing list goes on above its bound. -/
theorem pairwise_snoc {numbers : List UInt64} {number : UInt64}
    (ordered : numbers.Pairwise (· < ·)) (above : ∀ n ∈ numbers, n < number) :
    (numbers ++ [number]).Pairwise (· < ·) := by
  rw [List.pairwise_append]
  exact ⟨ordered, List.pairwise_singleton _ _, fun n member m last => by
    rw [List.mem_singleton.mp last]
    exact above n member⟩

theorem idle_ok {state : State} (idle : state.idle = .ok ()) :
    state.stopping = false ∧ state.pending = none ∧ state.nextTransaction ≠ maxNumber ∧
      state.revision ≠ maxNumber := by
  unfold State.idle at idle
  split at idle
  · contradiction
  next running =>
    split at idle
    · contradiction
    next free =>
      split at idle
      · contradiction
      next room =>
        rw [not_or] at room
        exact ⟨by simpa using running, by simpa using free, room.1, room.2⟩

/-- The session of the owner as the calls tell it, and what keeps its numbers apart. -/
structure Kept (said : OwnerCalls) (state : State) : Prop where
  openId : (ledger said).openId = state.pending.map (·.id)
  active : (ledger said).active = state.active
  revision : (ledger said).revision = state.revision
  bound : ∀ pending, state.pending = some pending →
    pending.userId = (ledger said).lent.map (·.userId)
  exclusive : state.active = none ∨ state.pending = none
  stopped : state.stopping = true → state.active = none ∧ state.pending = none
  room : state.pending.isSome = true → state.revision ≠ maxNumber
  ids : (openedIds said).Pairwise (· < ·)
  idsBelow : ∀ id ∈ openedIds said, id < state.nextTransaction
  revisions : (committedRevisions said).Pairwise (· < ·)
  revisionsUpTo : ∀ revision ∈ committedRevisions said, revision ≤ state.revision
  lent : ∀ entry ∈ said, ∀ id session, opened entry = some (id, session) →
    (ledger said).openId = some id → (ledger said).lent = session

theorem Kept.new : Kept [] State.new where
  openId := rfl
  active := rfl
  revision := rfl
  bound := by simp [State.new]
  exclusive := .inl rfl
  stopped := by simp [State.new]
  room := by simp [State.new]
  ids := List.Pairwise.nil
  idsBelow := by simp [openedIds]
  revisions := List.Pairwise.nil
  revisionsUpTo := by simp [committedRevisions]
  lent := by simp

namespace Kept
variable {said : OwnerCalls} {entry : OwnerEntry} {state state' : State}

/-- An answer that opens nothing, puts nothing in and drops nothing. -/
theorem quiet (kept : Kept said state) (closed : opened entry = none)
    (idle : connected entry = none) (stays : dropped entry = false) :
    Kept (said ++ [entry]) state := by
  have same : ledger (said ++ [entry]) = ledger said := by
    simp [Ledger.note, closed, idle, stays]
  exact {
    openId := by rw [same, kept.openId]
    active := by rw [same, kept.active]
    revision := by rw [same, kept.revision]
    bound := by rw [same]; exact kept.bound
    exclusive := kept.exclusive
    stopped := kept.stopped
    room := kept.room
    ids := by simpa [closed] using kept.ids
    idsBelow := by simpa [closed] using kept.idsBelow
    revisions := by simpa [idle] using kept.revisions
    revisionsUpTo := by simpa [idle] using kept.revisionsUpTo
    lent := by
      intro found member id session opens
      rw [same]
      rcases List.mem_append.mp member with before | last
      · exact kept.lent found before id session opens
      · rw [List.mem_singleton.mp last, closed] at opens
        contradiction }

/-- The way back of the open transaction is barred. -/
theorem barred (kept : Kept said state) :
    Kept said { state with pending := state.pending.map ({ · with restorable := false }) } where
  openId := by
    rw [kept.openId]
    cases state.pending <;> rfl
  active := kept.active
  revision := kept.revision
  bound := by
    intro pending present
    obtain ⟨before, was, rfl⟩ := Option.map_eq_some_iff.mp present
    exact kept.bound before was
  exclusive := kept.exclusive.imp_right fun none => by simp [none]
  stopped := fun stopping => (kept.stopped stopping).imp_right fun none => by simp [none]
  room := fun present => kept.room (by simpa using present)
  ids := kept.ids
  idsBelow := kept.idsBelow
  revisions := kept.revisions
  revisionsUpTo := kept.revisionsUpTo
  lent := kept.lent

/-- An id that is handed out was never handed out before. -/
theorem opens (kept : Kept said state) {id : UInt64} {session : Option TwitchSession}
    {restorable : Bool} (gives : opened entry = some (id, session))
    (idle : connected entry = none) (move : Opens state id session restorable state') :
    Kept (said ++ [entry]) state' := by
  obtain ⟨running, free, last, top⟩ := idle_ok move.idle
  have noted : ledger (said ++ [entry]) =
      { ledger said with openId := some id, lent := session, active := none } := by
    simp [Ledger.note, gives]
  have grows : state.nextTransaction < state.nextTransaction + 1 := lt_succ_of_ne last
  rw [move.effect]
  exact {
    openId := by rw [noted, move.next]; rfl
    active := by rw [noted]
    revision := by rw [noted, kept.revision]; rfl
    bound := by
      intro pending present
      cases present
      rw [noted]
    exclusive := .inl rfl
    stopped := fun stopping => by
      rw [show state.stopping = true from stopping] at running
      contradiction
    room := fun _ => top
    ids := by
      rw [openedIds_snoc, gives]
      apply pairwise_snoc kept.ids
      intro found member
      rw [move.next]
      exact kept.idsBelow found member
    idsBelow := by
      intro found member
      rw [openedIds_snoc, gives, List.mem_append] at member
      rcases member with before | last
      · exact UInt64.lt_trans (kept.idsBelow found before) grows
      · rw [List.mem_singleton.mp last, move.next]
        exact grows
    revisions := by simpa [idle] using kept.revisions
    revisionsUpTo := by
      intro revision member
      exact kept.revisionsUpTo revision (by simpa [idle] using member)
    lent := by
      intro found member found_id found_session opens same
      rw [noted] at same ⊢
      cases same
      rcases List.mem_append.mp member with before | last
      · have below := kept.idsBelow id (List.mem_filterMap.mpr ⟨found, before, by rw [opens]; rfl⟩)
        rw [move.next] at below
        exact absurd below (UInt64.lt_irrefl _)
      · rw [List.mem_singleton.mp last, gives] at opens
        cases opens
        rfl }

/-- What is put in is connected and ends the transaction. -/
theorem connects (kept : Kept said state) {session : TwitchSession} {revision : Option UInt64}
    (closed : opened entry = none) (gives : connected entry = some (session, revision))
    (running : state.stopping = false) (grows : ∀ r, revision = some r → state.revision < r)
    (effect : state' = { state with
      revision := revision.getD state.revision, active := some session, pending := none }) :
    Kept (said ++ [entry]) state' := by
  have noted : ledger (said ++ [entry]) =
      { openId := none, lent := none, active := some session
        revision := revision.getD (ledger said).revision } := by
    simp [Ledger.note, closed, gives]
  have upTo : ∀ r ∈ committedRevisions said, r ≤ revision.getD state.revision := by
    intro r member
    have below := kept.revisionsUpTo r member
    cases given : revision with
    | none => exact below
    | some next => exact UInt64.le_of_lt (UInt64.lt_of_le_of_lt below (grows next given))
  rw [effect]
  exact {
    openId := by rw [noted]; rfl
    active := by rw [noted]
    revision := by rw [noted, kept.revision]
    bound := fun pending present => by cases present
    exclusive := .inr rfl
    stopped := fun stopping => by
      rw [show state.stopping = true from stopping] at running
      contradiction
    room := fun present => by cases present
    ids := by simpa [closed] using kept.ids
    idsBelow := by simpa [closed] using kept.idsBelow
    revisions := by
      rw [committedRevisions_snoc, gives]
      cases given : revision with
      | none => simpa using kept.revisions
      | some next =>
        apply pairwise_snoc kept.revisions
        intro r member
        exact UInt64.lt_of_le_of_lt (kept.revisionsUpTo r member) (grows next given)
    revisionsUpTo := by
      intro r member
      rw [committedRevisions_snoc, gives, List.mem_append] at member
      rcases member with before | last
      · exact upTo r before
      · have given : revision = some r := by simpa using last
        rw [given]
        exact UInt64.le_refl _
    lent := fun found member id _ opens same => by
      rw [noted] at same
      cases same }

/-- Neither a session nor a transaction is left. -/
theorem drops (kept : Kept said state) (closed : opened entry = none)
    (idle : connected entry = none) (gone : dropped entry = true) {stopping : Bool}
    (effect : state' = { state with stopping, active := none, pending := none }) :
    Kept (said ++ [entry]) state' := by
  have noted : ledger (said ++ [entry]) =
      { ledger said with openId := none, lent := none, active := none } := by
    simp [Ledger.note, closed, idle, gone]
  rw [effect]
  exact {
    openId := by rw [noted]; rfl
    active := by rw [noted]
    revision := by rw [noted, kept.revision]
    bound := fun pending present => by cases present
    exclusive := .inl rfl
    stopped := fun _ => ⟨rfl, rfl⟩
    room := fun present => by cases present
    ids := by simpa [closed] using kept.ids
    idsBelow := by simpa [closed] using kept.idsBelow
    revisions := by simpa [idle] using kept.revisions
    revisionsUpTo := by simpa [idle] using kept.revisionsUpTo
    lent := fun found member id _ opens same => by
      rw [noted] at same
      cases same }

/-- A state that holds nothing is left as it is by a call that drops. -/
theorem stays (kept : Kept said state) (closed : opened entry = none)
    (idle : connected entry = none) (stopping : state.stopping = true) :
    Kept (said ++ [entry]) state := by
  obtain ⟨active, pending⟩ := kept.stopped stopping
  cases gone : dropped entry with
  | false => exact kept.quiet closed idle gone
  | true =>
    apply kept.drops closed idle gone
    rw [← active, ← pending]

theorem room_of_fits (kept : Kept said state) {id : UInt64} {session : TwitchSession}
    (fits : Fits state id session) : state.stopping = false ∧ state.revision ≠ maxNumber := by
  obtain ⟨pending, found, _⟩ := fits
  obtain ⟨running, present, _⟩ := check_ok found
  exact ⟨running, kept.room (by rw [present]; rfl)⟩

/-- Whatever is called, its answer tells what became of the session. -/
theorem step (kept : Kept said state) (effect : Effect entry state state') :
    Kept (said ++ [entry]) state' := by
  cases effect with
  | quiet closed idle stays => exact kept.quiet closed idle stays
  | stopped closed idle stopping => exact kept.stays closed idle stopping
  | barred id session called fits =>
    obtain ⟨call, answer⟩ := entry
    cases called
    exact kept.barred.quiet rfl rfl rfl
  | opens gives idle begins => exact kept.opens gives idle begins
  | commits id session fits same =>
    cases same
    obtain ⟨running, room⟩ := kept.room_of_fits fits
    have gives : connected ⟨.commit id session, .ok (ownerSnapshot session (state.revision + 1))⟩ =
        some (session, some (state.revision + 1)) := rfl
    refine kept.connects rfl gives running ?_ rfl
    intro revision given
    cases given
    exact lt_succ_of_ne room
  | restores id session fits restorable same =>
    cases same
    have gives : connected ⟨.restore id session, .ok ()⟩ = some (session, none) := rfl
    exact kept.connects rfl gives (kept.room_of_fits fits).1 (by simp) rfl
  | drops stopping closed idle gone => exact kept.drops closed idle gone rfl

end Kept

/-- Between two calls anything may happen to the configuration and to the stores. -/
def Elsewhere (before after : TwitchSessionOwner W) : Prop := after.state = before.state

/-- The transaction that a call is about. -/
def OwnerCall.transaction : OwnerCall → Option UInt64
  | persistPending id _ | commit id _ | restore id _ | discard id _ | check id => some id
  | _ => none

/-- A call about a transaction that was turned down. -/
def Refused : OwnerEntry → Prop
  | ⟨.persistPending _ _, answer⟩ => ∃ error, answer = .error error
  | ⟨.commit _ _, answer⟩ => ∃ error, answer = .error error
  | ⟨.restore _ _, answer⟩ => ∃ error, answer = .error error
  | ⟨.discard _ _, answer⟩ => ∃ error, answer = .error error
  | ⟨.check _, answer⟩ => ∃ error, answer = .error error
  | _ => False

section foreign
variable {W : Type} {ports : StorePorts W} {owner : TwitchSessionOwner W} {state : State}
  {id : UInt64}

theorem check_foreign (foreign : state.pending.map (·.id) ≠ some id) :
    ∃ error, state.check id = .error error := by
  cases found : state.check id with
  | error error => exact ⟨error, rfl⟩
  | ok pending =>
    obtain ⟨_, present, same⟩ := check_ok found
    rw [present, Option.map_some, same] at foreign
    exact absurd rfl foreign

theorem checkIdentity_foreign (foreign : state.pending.map (·.id) ≠ some id)
    (session : TwitchSession) : ∃ error, state.checkIdentity id session = .error error := by
  obtain ⟨error, refused⟩ := check_foreign foreign
  exact ⟨error, by unfold State.checkIdentity; rw [refused]; rfl⟩

/-- A call about a transaction that is not the open one changes nothing, not even in the store. -/
theorem foreign_refused (ports : StorePorts W) (call : OwnerCall) (about : call.transaction = some id)
    (foreign : owner.state.pending.map (·.id) ≠ some id) :
    (perform ports call owner).2 = owner ∧ Refused ⟨call, (perform ports call owner).1⟩ := by
  obtain ⟨error, refused⟩ := check_foreign foreign
  cases call with
  | persistPending found session =>
    cases about
    obtain ⟨error, refused⟩ := checkIdentity_foreign foreign session
    have same : persistPending ports id session owner = (.error error, owner) := by
      unfold persistPending
      rw [checking_bind, refused]
    exact ⟨congrArg Prod.snd same, error, congrArg Prod.fst same⟩
  | commit found session =>
    cases about
    obtain ⟨error, refused⟩ := checkIdentity_foreign foreign session
    have same : commit ports id session owner = (.error error, owner) := by
      unfold commit
      rw [checking_bind, refused]
    exact ⟨congrArg Prod.snd same, error, congrArg Prod.fst same⟩
  | restore found session =>
    cases about
    obtain ⟨error, refused⟩ := checkIdentity_foreign foreign session
    have same : restore id session owner = (.error error, owner) := by
      unfold restore
      rw [checking_bind, refused]
    exact ⟨congrArg Prod.snd same, error, congrArg Prod.fst same⟩
  | discard found eraseSaved =>
    cases about
    have same : discard ports id eraseSaved owner = (.error error, owner) := by
      unfold discard
      rw [checking_bind, refused]
    exact ⟨congrArg Prod.snd same, error, congrArg Prod.fst same⟩
  | check found =>
    cases about
    have same : (checking (·.check id) >>= fun _ => pure () : Call W Unit) owner =
        (.error error, owner) := by
      rw [checking_bind, refused]
    exact ⟨congrArg Prod.snd same, error, congrArg Prod.fst same⟩
  | _ => cases about

end foreign

section runs
variable {W : Type} {ports : StorePorts W} {may : OwnerCalls → OwnerCall → Prop}
  {configuration : ConfigurationService} {poisoned : Bool} {world : W}
  {said : OwnerCalls} {owner : TwitchSessionOwner W}

theorem kept_of_attended
    (run : Attended (perform ports) Elsewhere may (.new configuration poisoned world) said owner) :
    Kept said owner.state := by
  apply run.invariant (fun said owner => Kept said owner.state) Kept.new
  · intro said owner call _ kept
    exact kept.step (performs ports owner call)
  · intro said before after change kept
    exact change ▸ kept

/-- Whoever calls and whatever the stores answer: there is never a session beside an open
transaction, ids and revisions only grow, and a call about any transaction but the open one
is refused and changes nothing. -/
theorem transactions_exclusive
    (run : Attended (perform ports) Elsewhere may (.new configuration poisoned world) said owner) :
    (owner.state.active = none ∨ owner.state.pending = none) ∧
      owner.state.pending.map (·.id) = (ledger said).openId ∧
      (openedIds said).Pairwise (· < ·) ∧ (committedRevisions said).Pairwise (· < ·) ∧
      ∀ call id, OwnerCall.transaction call = some id → (ledger said).openId ≠ some id →
        (perform ports call owner).2 = owner ∧ Refused ⟨call, (perform ports call owner).1⟩ := by
  have kept := kept_of_attended run
  refine ⟨kept.exclusive, kept.openId.symm, kept.ids, kept.revisions, ?_⟩
  intro call id about foreign
  apply foreign_refused ports call about
  rwa [← kept.openId]

end runs
def plainSettings : Settings := { general := { logDirectory := "logs" } }

theorem plainSettings_valid : plainSettings.validate = [] := by decide

def plainConfiguration : ConfigurationService :=
  ⟨plainSettings, .defaults, none, none, 1, false, plainSettings_valid⟩

/-- Stores whose world is the record of the session. -/
def recordStores : StorePorts (Option SecretValue) where
  saveSettings _ world := (.ok (), world)
  loadSecret id world := (match world with
    | some value => .ok value
    | none => .error { id := some id, code := .notFound, systemError := none }, world)
  storeSecret _ value _ := (.ok (), some value)
  eraseSecret _ _ := (.ok (), none)

/-- The owner after these calls, and what was said. -/
def sampleCalls (calls : List OwnerCall) : OwnerCalls × TwitchSessionOwner (Option SecretValue) :=
  converse (perform recordStores) (.new plainConfiguration false none) calls

/-- A session is committed, and taken out again. -/
def takenOutAgain : OwnerCalls × TwitchSessionOwner (Option SecretValue) :=
  sampleCalls [.beginNew shortSession, .commit 1 shortSession, .checkoutActive]

/-- The second transaction is open. A commit to the first one is refused. -/
theorem transactions_exclusive_sample :
    (openedIds takenOutAgain.1 = [1, 2] ∧ (openedIds takenOutAgain.1).Pairwise (· < ·)) ∧
    committedRevisions takenOutAgain.1 = [1] ∧
    (ledger takenOutAgain.1).openId = some 2 ∧
    (takenOutAgain.2.state.active = none ∨ takenOutAgain.2.state.pending = none) ∧
    takenOutAgain.2.state.pending.map (·.id) = some 2 ∧
    (perform recordStores (.commit 1 shortSession) takenOutAgain.2).2 = takenOutAgain.2 ∧
    Refused ⟨.commit 1 shortSession,
      (perform recordStores (.commit 1 shortSession) takenOutAgain.2).1⟩ := by
  obtain ⟨exclusive, isOpen, ids, -, refused⟩ := transactions_exclusive (@Attended.of_converse _ _ _
    (perform recordStores) Elsewhere (fun _ _ => True) (.new plainConfiguration false none)
    [.beginNew shortSession, .commit 1 shortSession, .checkoutActive] fun _ _ _ => trivial)
  have second : (ledger takenOutAgain.1).openId = some 2 := by decide +kernel
  have other : (ledger takenOutAgain.1).openId ≠ some 1 := by
    rw [second]
    decide
  exact ⟨⟨by decide +kernel, ids⟩, by decide +kernel, second, exclusive, isOpen.trans second,
    refused (.commit 1 shortSession) 1 rfl other⟩

end TwitchSessionOwner
end MannyUploader.Application
