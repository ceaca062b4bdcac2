import Mathlib.Data.BitVec

/-! The gate that callbacks of the game pass. Its word holds a closed flag above a count. Each
step is one atomic access, and the callers and the owner interleave between them. -/
namespace MannyUploader.Addon

/-- A `usize` of `bits + 1` bits. -/
abbrev Word (bits : Nat) := BitVec (bits + 1)

def closed {bits : Nat} : Word bits := BitVec.twoPow (bits + 1) bits

/-- Where a call of `enter`, or the admission that it gave, stands. -/
inductive Caller (bits : Nat)
  | called
  /-- At the head of the loop, with the word it last saw. -/
  | looping (state : Word bits)
  | refused
  | admitted
  | dropped
deriving DecidableEq, Repr

/-- Whether the owner of the lifecycle is inside `wait`. -/
inductive Owner
  | idle | waiting
deriving DecidableEq, Repr

structure CallbackGate (bits : Nat) where
  state : Word bits
  callers : List (Caller bits) := []
  owner : Owner := .idle

namespace CallbackGate
variable {bits : Nat}

def new : CallbackGate bits := { state := closed }

def isClosed (gate : CallbackGate bits) : Bool := gate.state.msb

def live (gate : CallbackGate bits) : Nat := gate.callers.count .admitted

/-- The compare-exchange of `open`, and whether it succeeded. -/
def openGate (gate : CallbackGate bits) : Bool × CallbackGate bits :=
  if gate.owner = .idle ∧ gate.state = closed then (true, { gate with state := 0 })
  else (false, gate)

def close (gate : CallbackGate bits) : CallbackGate bits :=
  if gate.owner = .idle then { gate with state := gate.state ||| closed } else gate

/-- The call of `wait`. -/
def wait (gate : CallbackGate bits) : CallbackGate bits :=
  if gate.owner = .idle then { gate with owner := .waiting } else gate

/-- The load in the condition of the loop of `wait`, and whether `wait` returned. -/
def recheck (gate : CallbackGate bits) : Bool × CallbackGate bits :=
  if gate.owner = .waiting ∧ gate.state = closed then (true, { gate with owner := .idle })
  else (false, gate)

/-- The first load of `enter`. -/
def load (gate : CallbackGate bits) (index : Nat) : CallbackGate bits :=
  match gate.callers[index]? with
  | some .called => { gate with callers := gate.callers.set index (.looping gate.state) }
  | _ => gate

/-- One round of the loop of `enter`. A weak exchange may also fail by itself. -/
def attempt (gate : CallbackGate bits) (index : Nat) (spurious : Bool) : CallbackGate bits :=
  match gate.callers[index]? with
  | some (.looping state) =>
    if closed - 1 ≤ state then { gate with callers := gate.callers.set index .refused }
    else if gate.state = state ∧ spurious = false then
      { gate with state := state + 1, callers := gate.callers.set index .admitted }
    else { gate with callers := gate.callers.set index (.looping gate.state) }
  | _ => gate

/-- The `fetch_sub` of an admission that is dropped. -/
def drop (gate : CallbackGate bits) (index : Nat) : CallbackGate bits :=
  match gate.callers[index]? with
  | some .admitted =>
    { gate with state := gate.state - 1, callers := gate.callers.set index .dropped }
  | _ => gate

end CallbackGate

inductive Access
  | enter
  | load (index : Nat)
  | attempt (index : Nat) (spurious : Bool)
  | drop (index : Nat)
  | openGate
  | close
  | wait
  | recheck
deriving DecidableEq, Repr

def CallbackGate.step {bits : Nat} (gate : CallbackGate bits) : Access → CallbackGate bits
  | .enter => { gate with callers := gate.callers ++ [.called] }
  | .load index => gate.load index
  | .attempt index spurious => gate.attempt index spurious
  | .drop index => gate.drop index
  | .openGate => gate.openGate.2
  | .close => gate.close
  | .wait => gate.wait
  | .recheck => gate.recheck.2

end MannyUploader.Addon
