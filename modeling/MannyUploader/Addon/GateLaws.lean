import MannyUploader.Addon.CallbackGate
import MannyUploader.Foundation.Runs
import Mathlib.Algebra.Ring.Int.Defs
import Mathlib.Algebra.Ring.Nat

/-! The count in the word is the number of live admissions, and a closed gate drains. -/
namespace MannyUploader.Addon
open Foundation
variable {bits : Nat}

theorem toNat_closed : (closed : Word bits).toNat = 2 ^ bits :=
  BitVec.toNat_twoPow_of_lt (Nat.lt_succ_self bits)

theorem toNat_one : (1 : Word bits).toNat = 1 := by
  have large : 1 < 2 ^ (bits + 1) := Nat.one_lt_two_pow (Nat.succ_ne_zero bits)
  exact (BitVec.toNat_ofNat 1 (bits + 1)).trans (Nat.mod_eq_of_lt large)

/-- The count below the closed flag. -/
def count (state : Word bits) : Nat := state.toNat % 2 ^ bits

theorem word_parts (state : Word bits) :
    state.toNat = count state + if state.msb then 2 ^ bits else 0 := by
  have bound := state.isLt
  have half : 0 < 2 ^ bits := Nat.two_pow_pos bits
  rw [Nat.pow_succ] at bound
  rw [BitVec.msb_eq_decide, Nat.add_sub_cancel, count]
  split
  next high =>
    have high : 2 ^ bits ≤ state.toNat := by simpa using high
    rw [Nat.mod_eq_sub_mod high, Nat.mod_eq_of_lt (by omega)]
    omega
  next low =>
    have low : state.toNat < 2 ^ bits := by simpa using low
    rw [Nat.mod_eq_of_lt low]
    omega

theorem count_lt (state : Word bits) : count state < 2 ^ bits :=
  Nat.mod_lt _ (Nat.two_pow_pos bits)

/-- A word is given by its count and its flag. -/
theorem word_of_parts {state : Word bits} {n : Nat} {flag : Bool} (small : n < 2 ^ bits)
    (sum : state.toNat = n + if flag then 2 ^ bits else 0) :
    count state = n ∧ state.msb = flag := by
  have parts := word_parts state
  have low := count_lt state
  cases flag <;> cases high : state.msb <;> simp [high] at parts sum ⊢ <;> omega

theorem eq_closed_iff {state : Word bits} :
    state = closed ↔ count state = 0 ∧ state.msb = true := by
  constructor
  · rintro rfl
    apply word_of_parts (Nat.two_pow_pos bits)
    simp [toNat_closed]
  · rintro ⟨none_live, high⟩
    apply BitVec.eq_of_toNat_eq
    rw [word_parts state, none_live, high, toNat_closed]
    simp

/-- A grant counts up and leaves the flag. -/
theorem word_grant {state : Word bits} (room : ¬closed - 1 ≤ state) :
    state.msb = false ∧ count (state + 1) = count state + 1 ∧ (state + 1).msb = false := by
  have half : 0 < 2 ^ bits := Nat.two_pow_pos bits
  have below : state.toNat < 2 ^ bits - 1 := by
    rw [BitVec.le_def, BitVec.toNat_sub, toNat_closed, toNat_one, Nat.pow_succ] at room
    rw [show 2 ^ bits * 2 - 1 + 2 ^ bits = (2 ^ bits - 1) + 2 ^ bits * 2 by omega,
      Nat.add_mod_right, Nat.mod_eq_of_lt (by omega)] at room
    omega
  have parts := word_parts state
  have flag : state.msb = false := by
    cases high : state.msb
    · rfl
    · simp [high] at parts
      omega
  simp only [flag, Bool.false_eq_true, ↓reduceIte, Nat.add_zero] at parts
  have next : (state + 1).toNat = state.toNat + 1 := by
    rw [BitVec.toNat_add, toNat_one, Nat.pow_succ, Nat.mod_eq_of_lt (by omega)]
  have sum := @word_of_parts bits (state + 1) (count state + 1) false (by omega)
    (by rw [next, parts]; rfl)
  exact ⟨flag, sum⟩

/-- A dropped admission counts down and leaves the flag. -/
theorem word_drop {state : Word bits} (some_live : 0 < count state) :
    count (state - 1) = count state - 1 ∧ (state - 1).msb = state.msb := by
  have parts := word_parts state
  have low := count_lt state
  have bound := state.isLt
  have next : (state - 1).toNat = state.toNat - 1 := by
    rw [BitVec.toNat_sub, toNat_one]
    rw [show 2 ^ (bits + 1) - 1 + state.toNat = state.toNat - 1 + 2 ^ (bits + 1) by omega,
      Nat.add_mod_right, Nat.mod_eq_of_lt (by omega)]
  apply word_of_parts (by omega)
  omega

theorem word_close (state : Word bits) :
    count (state ||| closed) = count state ∧ (state ||| closed).msb = true := by
  have flag : (state ||| closed).msb = true := by
    have high : (closed : Word bits).msb = true := (eq_closed_iff.mp rfl).2
    rw [BitVec.msb_or, high, Bool.or_true]
  refine ⟨?_, flag⟩
  rw [count, count, BitVec.toNat_or, toNat_closed, Nat.or_mod_two_pow, Nat.mod_self, Nat.or_zero]

namespace CallbackGate

/-- What an access may do to the gate. -/
inductive GateMove : CallbackGate bits → Access → CallbackGate bits → Prop
  /-- The word stays, and so does the number of live admissions. -/
  | quiet {gate : CallbackGate bits} {access : Access} {callers : List (Caller bits)}
      {owner : Owner} (same : callers.count .admitted = gate.callers.count .admitted) :
      GateMove gate access { gate with callers, owner }
  | grant {gate : CallbackGate bits} {callers : List (Caller bits)}
      (room : ¬closed - 1 ≤ gate.state)
      (more : callers.count .admitted = gate.callers.count .admitted + 1) :
      GateMove gate (.attempt index spurious)
        { gate with state := gate.state + 1, callers }
  | release {gate : CallbackGate bits} {callers : List (Caller bits)}
      (fewer : callers.count .admitted + 1 = gate.callers.count .admitted) :
      GateMove gate (.drop index) { gate with state := gate.state - 1, callers }
  | opened {gate : CallbackGate bits} (succeeded : gate.openGate.1 = true)
      (drained : gate.state = closed) : GateMove gate .openGate { gate with state := 0 }
  | closed {gate : CallbackGate bits} :
      GateMove gate .close { gate with state := gate.state ||| Addon.closed }

variable {gate : CallbackGate bits}

/-- Replacing a caller changes the number of admissions by that caller alone. -/
theorem count_set {index : Nat} {caller : Caller bits} (there : gate.callers[index]? = some caller)
    (next : Caller bits) :
    (gate.callers.set index next).count .admitted + (if caller = .admitted then 1 else 0) =
      gate.callers.count .admitted + if next = .admitted then 1 else 0 := by
  obtain ⟨inside, rfl⟩ := List.getElem?_eq_some_iff.mp there
  have positive : gate.callers[index] = .admitted → 0 < gate.callers.count .admitted := by
    intro same
    exact List.count_pos_iff.mpr (same ▸ List.getElem_mem inside)
  rw [List.count_set inside]
  simp only [beq_iff_eq]
  split <;> split <;> simp_all

theorem step_move (gate : CallbackGate bits) (access : Access) : GateMove gate access (gate.step access) := by
  cases access with
  | enter =>
    apply GateMove.quiet
    simp
  | load index =>
    simp only [step, load]
    split
    next there =>
      have changed := count_set there (.looping gate.state)
      apply GateMove.quiet
      simpa using changed
    · exact .quiet rfl
  | attempt index spurious =>
    simp only [step, attempt]
    split
    next state there =>
      split
      · have changed := count_set there .refused
        apply GateMove.quiet
        simpa using changed
      next room =>
        split
        next current =>
          obtain ⟨rfl, -⟩ := current
          have changed := count_set there .admitted
          apply GateMove.grant room
          simpa using changed
        · have changed := count_set there (.looping gate.state)
          apply GateMove.quiet
          simpa using changed
    · exact .quiet rfl
  | drop index =>
    simp only [step, drop]
    split
    next there =>
      have changed := count_set there .dropped
      apply GateMove.release
      simpa using changed
    · exact .quiet rfl
  | openGate =>
    simp only [step, openGate]
    split
    next met => exact .opened (by simp [openGate, met]) met.2
    · exact .quiet rfl
  | close =>
    simp only [step, close]
    split
    · exact .closed
    · exact .quiet rfl
  | wait =>
    simp only [step, wait]
    split
    · exact .quiet rfl
    · exact .quiet rfl
  | recheck =>
    simp only [step, recheck]
    split
    · exact .quiet rfl
    · exact .quiet rfl

/-- The low bits count the live admissions. -/
def Counted (gate : CallbackGate bits) : Prop := count gate.state = gate.live

theorem Counted.of_new : (new : CallbackGate bits).Counted := by
  exact (eq_closed_iff.mp rfl).1

theorem Counted.move {next : CallbackGate bits} {access : Access} (move : GateMove gate access next)
    (counted : gate.Counted) : next.Counted := by
  unfold Counted live at counted ⊢
  cases move with
  | quiet same => exact counted.trans same.symm
  | grant room more =>
    have word := word_grant room
    dsimp only
    omega
  | release fewer =>
    have word := @word_drop bits gate.state (by omega)
    dsimp only
    omega
  | opened _ drained =>
    have none_live := (eq_closed_iff.mp drained).1
    have zero : count (0 : Word bits) = 0 := by simp [count]
    dsimp only
    omega
  | closed =>
    have word := word_close gate.state
    dsimp only
    omega

/-- Any number of accesses, each in any order. -/
abbrev Interleaving (gate later : CallbackGate bits) : Prop :=
  Run step (fun _ _ => True) gate later

/-- The accesses between which the owner does not open the gate. -/
abbrev Unopened (gate later : CallbackGate bits) : Prop :=
  Run step (fun current access => access = .openGate → current.openGate.1 = false) gate later

theorem Counted.of_run (run : Interleaving new gate) : gate.Counted :=
  run.invariant (fun current access _ => Counted.move (step_move current access)) Counted.of_new

/-- A gate that is closed and drained stays so until the owner opens it. -/
theorem drained_step {access : Access} (drained : gate.state = closed) (counted : gate.Counted)
    (unopened : access = .openGate → gate.openGate.1 = false) :
    (gate.step access).state = closed := by
  obtain ⟨none_live, high⟩ := eq_closed_iff.mp drained
  have none_live : gate.callers.count .admitted = 0 := counted.symm.trans none_live
  have move := step_move gate access
  generalize gate.step access = next at move ⊢
  cases move with
  | quiet same => exact drained
  | grant room more =>
    have low := (word_grant room).1
    rw [high] at low
    cases low
  | release fewer => omega
  | opened succeeded _ =>
    rw [unopened rfl] at succeeded
    cases succeeded
  | closed =>
    dsimp only
    rw [drained, BitVec.or_self]

/-- After a `wait` that returned there is no admission until the owner opens the gate. -/
theorem drained_run {later : CallbackGate bits} (counted : gate.Counted)
    (returned : gate.recheck.1 = true) (run : Unopened gate.recheck.2 later) : later.live = 0 := by
  have drained : gate.recheck.2.state = closed ∧ gate.recheck.2.Counted := by
    refine ⟨?_, Counted.move (step_move gate .recheck) counted⟩
    unfold recheck at returned ⊢
    split at returned
    next met => rw [if_pos met]; exact met.2
    · cases returned
  have kept : later.state = closed ∧ later.Counted := by
    apply run.invariant _ drained
    intro current access unopened h
    exact ⟨drained_step h.1 h.2 unopened, Counted.move (step_move current access) h.2⟩
  exact kept.2.symm.trans (eq_closed_iff.mp kept.1).1

/-- The word counts the live admissions below its flag, a grant needs an open gate, and a
closed gate that has drained stays drained until it is opened. -/
theorem gate_drains (run : Interleaving new gate) :
    (count gate.state = gate.live ∧ gate.live < 2 ^ bits) ∧
    (∀ access,
      (gate.live < (gate.step access).live →
        gate.isClosed = false ∧ (gate.step access).state.toNat = gate.state.toNat + 1) ∧
      ((gate.step access).live < gate.live →
        (gate.step access).state.toNat + 1 = gate.state.toNat) ∧
      ((gate.step access).isClosed ≠ gate.isClosed → access = .openGate ∨ access = .close)) ∧
    (gate.recheck.1 = true → gate.live = 0 ∧
      ∀ later, Unopened gate.recheck.2 later → later.live = 0) ∧
    (gate.openGate.1 = true → gate.isClosed = true ∧ gate.live = 0) := by
  have counted := Counted.of_run run
  have sum := word_parts gate.state
  refine ⟨⟨counted, counted ▸ count_lt gate.state⟩, ?_, ?_, ?_⟩
  · intro access
    have move := step_move gate access
    generalize gate.step access = next at move ⊢
    have next_sum := word_parts next.state
    have next_counted := counted.move move
    unfold Counted at counted next_counted
    unfold isClosed
    cases move with
    | quiet same => simp [live, same]
    | grant room more =>
      obtain ⟨low, _, high⟩ := word_grant room
      simp only [low, high] at sum next_sum ⊢
      simp only [live] at counted next_counted ⊢
      refine ⟨fun _ => ⟨trivial, ?_⟩, fun fewer => ?_, fun other => absurd rfl other⟩ <;> omega
    | release fewer =>
      have word := @word_drop bits gate.state (by simp only [live] at counted; omega)
      simp only [word.2] at next_sum ⊢
      simp only [live] at counted next_counted ⊢
      refine ⟨fun more => ?_, fun _ => ?_, fun other => absurd rfl other⟩ <;> omega
    | opened => simp [live]
    | closed => simp [live]
  · intro returned
    refine ⟨?_, fun later after => drained_run counted returned after⟩
    have here := drained_run counted returned .refl
    unfold recheck at here
    split at here <;> exact here
  · intro succeeded
    unfold openGate at succeeded
    split at succeeded
    next met =>
      have word := eq_closed_iff.mp met.2
      exact ⟨word.2, counted.symm.trans word.1⟩
    · cases succeeded

/-- Two callbacks enter, the owner closes, and waits until both have left. -/
def sampleAccesses : List Access :=
  [.openGate, .enter, .load 0, .enter, .load 1, .attempt 1 false, .attempt 0 false,
    .attempt 0 true, .attempt 0 false, .close, .wait, .recheck, .drop 1, .enter, .load 2,
    .attempt 2 false, .drop 0]

theorem gate_drains_sample :
    (sampleAccesses.foldl step (new : CallbackGate 63)).live = 0 :=
  ((gate_drains (Run.of_list step new sampleAccesses fun _ _ _ => trivial)).2.2.1 (by decide)).1

end CallbackGate
end MannyUploader.Addon
