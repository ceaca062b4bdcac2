import MannyUploader.Foundation.Runs

/-! A bounded queue of commands between those who submit them and a loop that takes a limited
number of them in each turn. The log says what became of every command. -/
namespace MannyUploader.Foundation

/-- What holds of each event of a log and of the events before it. -/
def EachAfter {ε : Type*} (holds : List ε → ε → Prop) (log : List ε) : Prop :=
  ∀ earlier event later, log = earlier ++ event :: later → holds earlier event

theorem eachAfter_nil {ε : Type*} {holds : List ε → ε → Prop} : EachAfter holds [] := by
  intro earlier event later empty
  cases earlier <;> cases empty

theorem eachAfter_snoc {ε : Type*} {holds : List ε → ε → Prop} {log : List ε} {event : ε}
    (old : EachAfter holds log) (new : holds log event) : EachAfter holds (log ++ [event]) := by
  intro earlier found later same
  rcases List.eq_nil_or_concat later with rfl | ⟨rest, last, rfl⟩
  · obtain ⟨rfl, eventSame⟩ := List.append_inj' same rfl
    obtain rfl : event = found := List.cons.inj eventSame |>.1
    exact new
  · have split : log ++ [event] = (earlier ++ found :: rest) ++ [last] := by simpa using same
    exact old earlier found rest (List.append_inj' split rfl).1

inductive QueueEvent (α : Type*)
  | accepted (command : α)
  /-- The loop begins a turn. -/
  | turn
  | taken (command : α)
  /-- The command has run, whatever it ended with. -/
  | ran (command : α)
  /-- The queue closes and drops what waits in it. -/
  | closed (waiting : List α)
deriving DecidableEq, Repr

namespace QueueEvent
variable {α : Type*}

@[simp] def acceptedCommand : QueueEvent α → Option α
  | .accepted command => some command
  | _ => none

@[simp] def takenCommand : QueueEvent α → Option α
  | .taken command => some command
  | _ => none

@[simp] def ranCommand : QueueEvent α → Option α
  | .ran command => some command
  | _ => none

@[simp] def dropped : QueueEvent α → List α
  | .closed waiting => waiting
  | _ => []

/-- Whether a queue that is closed has no such event. -/
@[simp] def isUse : QueueEvent α → Prop
  | .accepted _ | .taken _ => True
  | _ => False

/-- How many commands the current turn has taken, given how many before this event. -/
@[simp] def countTurn (count : Nat) : QueueEvent α → Nat
  | .turn => 0
  | .taken _ => count + 1
  | _ => count

end QueueEvent

section log
variable {α : Type*}

def acceptedCommands (log : List (QueueEvent α)) : List α := log.filterMap (·.acceptedCommand)
def takenCommands (log : List (QueueEvent α)) : List α := log.filterMap (·.takenCommand)
def ranCommands (log : List (QueueEvent α)) : List α := log.filterMap (·.ranCommand)
def droppedCommands (log : List (QueueEvent α)) : List α := log.flatMap (·.dropped)

/-- How many commands the last turn of a log has taken. -/
def takenInTurn (log : List (QueueEvent α)) : Nat := log.foldl QueueEvent.countTurn 0

/-- A closed queue neither accepts nor gives out. -/
def ClosesForGood (log : List (QueueEvent α)) : Prop :=
  EachAfter (fun earlier event => event.isUse → ∀ waiting, .closed waiting ∉ earlier) log

/-- What holds of a queue with its capacity, its limit for a turn, what waits in it and the
command that is running. -/
structure Orderly (capacity limit : Nat) (waiting : List α) (running : Option α)
    (log : List (QueueEvent α)) : Prop where
  bounded : waiting.length ≤ capacity
  fair : takenInTurn log ≤ limit
  /-- Every accepted command stands once on the right, in the order of acceptance. -/
  accounted : acceptedCommands log =
    ranCommands log ++ running.toList ++ droppedCommands log ++ waiting
  once : takenCommands log = ranCommands log ++ running.toList
  forGood : ClosesForGood log

end log

@[ext] structure CommandQueue (α : Type*) where
  waiting : List α := []
  running : Option α := none
  isClosed : Bool := false
  /-- How many commands the current turn may still take. -/
  left : Nat := 0
  log : List (QueueEvent α) := []

/-- What may happen to a queue. -/
inductive QueueMove {α : Type*} (capacity limit : Nat) : CommandQueue α → CommandQueue α → Prop
  | accept {queue : CommandQueue α} (command : α) (isOpen : queue.isClosed = false)
      (room : queue.waiting.length < capacity) : QueueMove capacity limit queue
        { queue with
          waiting := queue.waiting ++ [command], log := queue.log ++ [.accepted command] }
  | turn {queue : CommandQueue α} (budget : Nat) (fair : budget ≤ limit) :
      QueueMove capacity limit queue { queue with left := budget, log := queue.log ++ [.turn] }
  /-- The turn takes fewer than it might. -/
  | shorten {queue : CommandQueue α} (budget : Nat) (fewer : budget ≤ queue.left) :
      QueueMove capacity limit queue { queue with left := budget }
  | take {queue : CommandQueue α} (command : α) (rest : List α) (left : Nat)
      (isOpen : queue.isClosed = false) (next : queue.waiting = command :: rest)
      (resting : queue.running = none) (mayTake : queue.left = left + 1) :
      QueueMove capacity limit queue
        { queue with
          waiting := rest, running := some command, left
          log := queue.log ++ [.taken command] }
  | run {queue : CommandQueue α} (command : α) (running : queue.running = some command) :
      QueueMove capacity limit queue
        { queue with running := none, log := queue.log ++ [.ran command] }
  | close {queue : CommandQueue α} (isOpen : queue.isClosed = false) :
      QueueMove capacity limit queue
        { queue with
          isClosed := true, waiting := [], log := queue.log ++ [.closed queue.waiting] }

namespace CommandQueue
variable {α : Type*} {capacity limit : Nat} {queue queue' : CommandQueue α}
  {log : List (QueueEvent α)} {event : QueueEvent α}

variable (log : List (QueueEvent α)) (event : QueueEvent α)

@[simp] theorem acceptedCommands_snoc :
    acceptedCommands (log ++ [event]) = acceptedCommands log ++ event.acceptedCommand.toList := by
  cases event <;> simp [acceptedCommands, QueueEvent.acceptedCommand]

@[simp] theorem takenCommands_snoc :
    takenCommands (log ++ [event]) = takenCommands log ++ event.takenCommand.toList := by
  cases event <;> simp [takenCommands, QueueEvent.takenCommand]

@[simp] theorem ranCommands_snoc :
    ranCommands (log ++ [event]) = ranCommands log ++ event.ranCommand.toList := by
  cases event <;> simp [ranCommands, QueueEvent.ranCommand]

@[simp] theorem droppedCommands_snoc :
    droppedCommands (log ++ [event]) = droppedCommands log ++ event.dropped := by
  simp [droppedCommands]

@[simp] theorem takenInTurn_snoc :
    takenInTurn (log ++ [event]) = event.countTurn (takenInTurn log) := by
  simp [takenInTurn]

/-- What every move of a queue keeps. -/
structure Kept (capacity limit : Nat) (queue : CommandQueue α) : Prop where
  bounded : queue.waiting.length ≤ capacity
  fair : takenInTurn queue.log + queue.left ≤ limit
  accounted : acceptedCommands queue.log =
    ranCommands queue.log ++ queue.running.toList ++ droppedCommands queue.log ++ queue.waiting
  once : takenCommands queue.log = ranCommands queue.log ++ queue.running.toList
  forGood : ClosesForGood queue.log
  openLog : queue.isClosed = false → ∀ waiting, .closed waiting ∉ queue.log

theorem Kept.dropped (kept : Kept capacity limit queue) (isOpen : queue.isClosed = false) :
    droppedCommands queue.log = [] := by
  refine List.flatMap_eq_nil_iff.mpr fun event member => ?_
  cases event with
  | closed waiting => exact absurd member (kept.openLog isOpen waiting)
  | _ => rfl

theorem Kept.move (move : QueueMove capacity limit queue queue')
    (kept : Kept capacity limit queue) : Kept capacity limit queue' := by
  have bounded := kept.bounded
  have fair := kept.fair
  have accounted := kept.accounted
  have once := kept.once
  cases move with
  | accept command isOpen room =>
    constructor
    case bounded => simpa using Nat.succ_le_of_lt room
    case fair => simpa using fair
    case accounted => simp [accounted]
    case once => simpa using once
    case forGood => exact eachAfter_snoc kept.forGood fun _ => kept.openLog isOpen
    case openLog => simpa [isOpen] using kept.openLog isOpen
  | turn budget fair =>
    constructor
    case bounded => exact bounded
    case fair => simpa using fair
    case accounted => simpa using accounted
    case once => simpa using once
    case forGood => exact eachAfter_snoc kept.forGood False.elim
    case openLog => simpa using kept.openLog
  | shorten budget fewer =>
    have fair : takenInTurn queue.log + budget ≤ limit := by omega
    exact { kept with fair }
  | take command rest left isOpen next resting mayTake =>
    rw [next, List.length_cons] at bounded
    constructor
    case bounded => exact Nat.le_of_succ_le bounded
    case fair =>
      rw [mayTake] at fair
      simp only [takenInTurn_snoc, QueueEvent.countTurn]
      omega
    case accounted => simpa [next, resting, kept.dropped isOpen] using accounted
    case once => simpa [resting] using once
    case forGood => exact eachAfter_snoc kept.forGood fun _ => kept.openLog isOpen
    case openLog => simpa using kept.openLog
  | run command running =>
    constructor
    case bounded => exact bounded
    case fair => simpa using fair
    case accounted => simpa [running] using accounted
    case once => simpa [running] using once
    case forGood => exact eachAfter_snoc kept.forGood False.elim
    case openLog => simpa using kept.openLog
  | close isOpen =>
    constructor
    case bounded => exact Nat.zero_le capacity
    case fair => simpa using fair
    case accounted => simpa using accounted
    case once => simpa using once
    case forGood => exact eachAfter_snoc kept.forGood fun _ => kept.openLog isOpen
    case openLog => simp

theorem Kept.new : Kept capacity limit ({} : CommandQueue α) where
  bounded := Nat.zero_le capacity
  fair := Nat.zero_le limit
  accounted := rfl
  once := rfl
  forGood := eachAfter_nil
  openLog := by simp

/-- A queue that starts empty stays in order whatever happens to it. -/
theorem orderly_of_moves
    (moves : Relation.ReflTransGen (QueueMove capacity limit) ({} : CommandQueue α) queue) :
    Orderly capacity limit queue.waiting queue.running queue.log := by
  have kept := invariant_of_moves moves (fun _ _ move kept => Kept.move move kept) Kept.new
  exact {
    bounded := kept.bounded, fair := Nat.le_of_add_right_le kept.fair
    accounted := kept.accounted, once := kept.once, forGood := kept.forGood }

end CommandQueue
end MannyUploader.Foundation
