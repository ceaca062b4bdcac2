import MannyUploader.Application.RecentLogActions

/-! The queue of the actions on recent logs is a bounded queue that closes for good, whatever the
actions do. -/
namespace MannyUploader.Application
open Foundation Domain

namespace RecentLogActionsController
variable {controller : RecentLogActionsController}

def running : List RecentLogTick → Option RecentLogAction
  | [⟨.executing command, _, _⟩] => some command
  | _ => none

def mayTake : List RecentLogTick → Nat
  | [tick] => tick.left
  | _ => 0

/-- The queue that the controller stands for. -/
def desk (controller : RecentLogActionsController) : CommandQueue RecentLogAction where
  waiting := controller.commands
  running := running controller.ticks
  isClosed := controller.snapshot.shuttingDown
  left := mayTake controller.ticks
  log := controller.log

/-- The flag is up while a tick runs, and keeps any other out. -/
def Alone (controller : RecentLogActionsController) : Prop :=
  (controller.ticking = false ∧ controller.ticks = []) ∨
    controller.ticking = true ∧ ∃ tick, controller.ticks = [tick]

/-- What one step comes to. -/
structure Follows (before after : RecentLogActionsController) : Prop where
  alone : after.Alone
  options : after.options = before.options
  fits : before.commands.length ≤ before.options.commandCapacity →
    Relation.ReflTransGen
      (QueueMove before.options.commandCapacity before.options.maxCommandsPerTick)
      before.desk after.desk

theorem Follows.refl (alone : controller.Alone) : Follows controller controller :=
  ⟨alone, rfl, fun _ => .refl⟩

theorem Follows.move {after : RecentLogActionsController} (alone : after.Alone)
    (options : after.options = controller.options)
    (move : controller.commands.length ≤ controller.options.commandCapacity →
      QueueMove controller.options.commandCapacity controller.options.maxCommandsPerTick
      controller.desk after.desk) : Follows controller after :=
  ⟨alone, options, fun fits => .single (move fits)⟩

theorem Alone.only (alone : controller.Alone) {index : Nat} {tick : RecentLogTick}
    (there : controller.ticks[index]? = some tick) :
    controller.ticking = true ∧ controller.ticks = [tick] ∧ index = 0 := by
  rcases alone with ⟨-, empty⟩ | ⟨up, only, same⟩
  · simp [empty] at there
  · cases index with
    | zero => exact ⟨up, same.trans (congrArg ([·]) (by simpa [same] using there)), rfl⟩
    | succ => simp [same] at there

theorem set_only {tick : RecentLogTick} (same : controller.ticks = [tick]) (next : RecentLogTick) :
    controller.ticks.set 0 next = [next] := by
  rw [same, List.set_cons_zero]

theorem submit_follows (alone : controller.Alone) (command : RecentLogAction) :
    Follows controller (controller.submit command).2 := by
  unfold submit
  split
  · exact .refl alone
  next isOpen =>
    split
    · exact .refl alone
    · split
      · exact ⟨alone, rfl, fun _ => .refl⟩
      next room =>
        refine .move alone rfl fun fits => ?_
        exact .accept command (by simpa [desk] using isOpen) (Nat.lt_of_le_of_ne fits room)

theorem beginTick_follows (alone : controller.Alone) :
    Follows controller controller.beginTick.2 := by
  unfold beginTick
  split
  · exact .refl alone
  · split
    · exact .refl alone
    next down =>
      have empty : controller.ticks = [] := by
        rcases alone with ⟨-, empty⟩ | ⟨up, -⟩
        · exact empty
        · exact absurd up down
      refine .move (.inr ⟨rfl, _, congrArg (· ++ [_]) empty⟩) rfl fun _ => ?_
      have fair := Nat.min_le_right controller.commands.length controller.options.maxCommandsPerTick
      have move : QueueMove controller.options.commandCapacity _ controller.desk _ := .turn _ fair
      simpa [desk, empty, running, mayTake] using move

theorem leaveLoop_follows {tick : RecentLogTick} (up : controller.ticking = true)
    (same : controller.ticks = [tick]) (choosing : tick.stage = .choosing) :
    Follows controller (controller.leaveLoop 0 tick) := by
  have unchanged : (controller.leaveLoop 0 tick).desk = controller.desk := by
    obtain ⟨_, left, report⟩ := tick
    subst choosing
    ext1 <;> simp [desk, leaveLoop, same, running, mayTake]
  refine ⟨.inr ⟨up, _, set_only same _⟩, rfl, fun _ => ?_⟩
  rw [unchanged]

theorem nextCommand_follows (alone : controller.Alone) (index : Nat) :
    Follows controller (controller.nextCommand index) := by
  unfold nextCommand
  split
  next report there =>
    obtain ⟨up, same, rfl⟩ := alone.only there
    exact leaveLoop_follows up same rfl
  next left report there =>
    obtain ⟨up, same, rfl⟩ := alone.only there
    split
    · exact leaveLoop_follows up same rfl
    next isOpen =>
      split
      · exact leaveLoop_follows up same rfl
      next command rest waiting =>
        refine .move (.inr ⟨up, _, set_only same _⟩) rfl fun _ => ?_
        have isOpen : controller.desk.isClosed = false := by simpa [desk] using isOpen
        have idle : controller.desk.running = none := by simp [desk, same, running]
        have left_eq : controller.desk.left = left + 1 := by simp [desk, same, mayTake]
        have move : QueueMove controller.options.commandCapacity
            controller.options.maxCommandsPerTick _ _ :=
          .take command rest left isOpen waiting idle left_eq
        simpa [desk, same, running, mayTake] using move
  · exact .refl alone

theorem finishCommand_follows (alone : controller.Alone) (index : Nat)
    (outcome : Outcome RecentLogActionError) :
    Follows controller (controller.finishCommand index outcome) := by
  unfold finishCommand
  split
  next command left report there =>
    obtain ⟨up, same, rfl⟩ := alone.only there
    refine .move (.inr ⟨up, _, set_only same _⟩) rfl fun _ => ?_
    have inHand : controller.desk.running = some command := by simp [desk, same, running]
    have move : QueueMove controller.options.commandCapacity
        controller.options.maxCommandsPerTick _ _ := .run command inHand
    convert move using 1
    ext1
    case isClosed =>
      simp only [desk]
      split <;> rfl
    all_goals simp [desk, same, running, mayTake]
  · exact .refl alone

theorem endTick_follows (alone : controller.Alone) (index : Nat) :
    Follows controller (controller.endTick index).2 := by
  unfold endTick
  split
  next left report there =>
    obtain ⟨up, same, rfl⟩ := alone.only there
    refine .move (.inl ⟨rfl, by simp [same]⟩) rfl fun _ => ?_
    have move : QueueMove controller.options.commandCapacity
        controller.options.maxCommandsPerTick controller.desk _ := .shorten 0 (Nat.zero_le _)
    simpa [desk, same, running, mayTake] using move
  · exact .refl alone

theorem shutdown_follows (alone : controller.Alone) : Follows controller controller.shutdown := by
  unfold shutdown
  split
  · exact .refl alone
  next isOpen =>
    refine .move alone rfl fun _ => ?_
    exact .close (by simpa [desk] using isOpen)

theorem step_follows (alone : controller.Alone) (access : RecentLogAccess) :
    Follows controller (controller.step access) := by
  cases access with
  | submit command => exact submit_follows alone command
  | beginTick => exact beginTick_follows alone
  | nextCommand index => exact nextCommand_follows alone index
  | finishCommand index outcome => exact finishCommand_follows alone index outcome
  | endTick index => exact endTick_follows alone index
  | shutdown => exact shutdown_follows alone

/-- Between two steps the controller stands for a queue that starts empty. -/
structure Served (options : RecentLogActionsOptions) (controller : RecentLogActionsController) :
    Prop where
  alone : controller.Alone
  same : controller.options = options
  moves : Relation.ReflTransGen
    (QueueMove options.commandCapacity options.maxCommandsPerTick) {} controller.desk

theorem Served.step {options : RecentLogActionsOptions} (served : Served options controller)
    (access : RecentLogAccess) : Served options (controller.step access) := by
  obtain ⟨alone, rfl, moves⟩ := served
  have follows := step_follows alone access
  have fits := (CommandQueue.orderly_of_moves moves).bounded
  exact ⟨follows.alone, follows.options, moves.trans (follows.fits fits)⟩

theorem Served.of_new {options : RecentLogActionsOptions} {reserved : Bool}
    (new : RecentLogActionsController.new options reserved = .ok controller) :
    Served options controller := by
  unfold RecentLogActionsController.new at new
  split at new
  · cases new
  · split at new
    · cases new
    · cases new
      exact ⟨.inl ⟨rfl, rfl⟩, rfl, .refl⟩

end RecentLogActionsController

end MannyUploader.Application
