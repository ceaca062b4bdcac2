import MannyUploader.Application.TwitchSessionOwner
import MannyUploader.Foundation.Attended

/-! What the calls of the session owner and their answers tell about it, without a look
inside, and that it is what the owner holds. -/
namespace MannyUploader.Application
open Domain Foundation

namespace TwitchSessionOwner

/-- One call and what it was answered. -/
abbrev OwnerEntry := (call : OwnerCall) × call.Answer

/-- The transaction that an answer opened, with the session that was handed out. -/
def opened : OwnerEntry → Option (UInt64 × Option TwitchSession)
  | ⟨.checkoutSaved, .ok (some transaction)⟩ => some (transaction.id, some transaction.session)
  | ⟨.beginNew _, .ok transaction⟩ => some (transaction.id, some transaction.session)
  | ⟨.checkoutActive, .ok transaction⟩ => some (transaction.id, some transaction.session)
  | ⟨.beginRecovery _ _, .ok (.inr transaction)⟩ => some (transaction.id, some transaction.session)
  | ⟨.reserveNew, .ok id⟩ => some (id, none)
  | _ => none

/-- The session that a call put in, with its revision where it is a new one. -/
def connected : OwnerEntry → Option (TwitchSession × Option UInt64)
  | ⟨.commit _ session, .ok snapshot⟩ => some (session, some snapshot.revision)
  | ⟨.restore _ session, .ok ()⟩ => some (session, none)
  | _ => none

/-- Whether the call left no session and no transaction. A transaction is over also where the
saved session could not be erased. -/
def dropped : OwnerEntry → Bool
  | ⟨.discard _ _, .error .staleTransaction⟩ => false
  | ⟨.discard _ _, _⟩ => true
  | ⟨.eraseSaved, .error .busy⟩ => false
  | ⟨.eraseSaved, _⟩ => true
  | ⟨.shutdown, _⟩ => true
  | _ => false

def leased : OwnerEntry → Option TwitchDeliverySession
  | ⟨.acquire _, .ok lease⟩ => some lease
  | ⟨.beginRecovery _ _, .ok (.inl lease)⟩ => some lease
  | _ => none

/-- What is known of the owner from outside: the open transaction with the session that was
handed out for it, the session that is connected, and the last revision. -/
structure Ledger where
  openId : Option UInt64 := none
  lent : Option TwitchSession := none
  active : Option TwitchSession := none
  revision : UInt64 := 0
deriving DecidableEq

def Ledger.note (ledger : Ledger) (entry : OwnerEntry) : Ledger :=
  match opened entry, connected entry with
  | some (id, session), _ => { ledger with openId := some id, lent := session, active := none }
  | none, some (session, revision) =>
    { openId := none, lent := none, active := some session
      revision := revision.getD ledger.revision }
  | none, none =>
    if dropped entry then { ledger with openId := none, lent := none, active := none }
    else ledger

def ledger (said : OwnerCalls) : Ledger := said.foldl Ledger.note {}

@[simp] theorem ledger_snoc (said : OwnerCalls) (entry : OwnerEntry) :
    ledger (said ++ [entry]) = (ledger said).note entry := by
  simp [ledger]

/-- The ids that were handed out, oldest first. -/
def openedIds (said : OwnerCalls) : List UInt64 := said.filterMap fun entry => (opened entry).map (·.1)

/-- The revisions of the sessions that were committed, oldest first. -/
def committedRevisions (said : OwnerCalls) : List UInt64 :=
  said.filterMap fun entry => (connected entry).bind (·.2)

/-! What one call may do to the session. -/

/-- A transaction begins, with the next id. -/
structure Opens (state : State) (id : UInt64) (session : Option TwitchSession) (restorable : Bool)
    (state' : State) : Prop where
  idle : state.idle = .ok ()
  next : id = state.nextTransaction
  lends : restorable = true → ∃ lent, session = some lent ∧ state.active = some lent
  absent : restorable = false → state.active = none
  effect : state' = { state.reserve (session.map (·.userId)) restorable with active := none }

/-- The user of the session is the one that the transaction is bound to. -/
def Fits (state : State) (id : UInt64) (session : TwitchSession) : Prop :=
  ∃ pending, state.check id = .ok pending ∧ ∀ user, pending.userId = some user → user = session.userId

/-- What a call with this answer does to the session. -/
inductive Effect (entry : OwnerEntry) (state : State) : State → Prop
  | quiet (closed : opened entry = none) (idle : connected entry = none)
      (stays : dropped entry = false) : Effect entry state state
  /-- After a shutdown there is nothing left to drop. -/
  | stopped (closed : opened entry = none) (idle : connected entry = none)
      (stopping : state.stopping = true) : Effect entry state state
  /-- The way back of the open transaction is barred. -/
  | barred (id : UInt64) (session : TwitchSession) (called : entry.1 = .persistPending id session)
      (fits : Fits state id session) :
      Effect entry state { state with pending := state.pending.map ({ · with restorable := false }) }
  | opens {id : UInt64} {session : Option TwitchSession} {restorable : Bool} {state' : State}
      (gives : opened entry = some (id, session)) (idle : connected entry = none)
      (begins : Opens state id session restorable state') : Effect entry state state'
  | commits (id : UInt64) (session : TwitchSession) (fits : Fits state id session)
      (same : entry = ⟨.commit id session, .ok (ownerSnapshot session (state.revision + 1))⟩) :
      Effect entry state
        { state with revision := state.revision + 1, active := some session, pending := none }
  | restores (id : UInt64) (session : TwitchSession) (fits : Fits state id session)
      (restorable : ∃ pending, state.pending = some pending ∧ pending.restorable = true)
      (same : entry = ⟨.restore id session, .ok ()⟩) :
      Effect entry state { state with active := some session, pending := none }
  | drops (stopping : Bool) (closed : opened entry = none) (idle : connected entry = none)
      (gone : dropped entry = true) :
      Effect entry state { state with stopping, active := none, pending := none }

end TwitchSessionOwner
end MannyUploader.Application
