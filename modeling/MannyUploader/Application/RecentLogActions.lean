import MannyUploader.Application.ReportUrl
import MannyUploader.Foundation.Checked
import MannyUploader.Foundation.CommandQueue

/-! The queue of the actions on recent logs. Each step is one section under the lock of the
queue, so callers, ticks and shutdown interleave between them. -/
namespace MannyUploader.Application
open Domain Foundation

inductive RecentLogAction
  | openReport (jobId : UploadJobId) (target : ReportTarget)
  | openDirectory (jobId : UploadJobId)
  | retry (jobId : UploadJobId) (provider : Provider)
  | reupload (jobId : UploadJobId)
  | rechat (jobId : UploadJobId)
  | dismissError
deriving DecidableEq

structure RecentLogActionsOptions where
  commandCapacity : Nat := 32
  maxCommandsPerTick : Nat := 8

structure RecentLogActionsSnapshot where
  lastError : Option RecentLogActionError
  pendingCommands : Nat
  revision : UInt64
  acceptingCommands : Bool
  shuttingDown : Bool
deriving DecidableEq, Repr

structure RecentLogActionsTickReport where
  commandsProcessed : Nat := 0
  actionFailures : Nat := 0
deriving DecidableEq, Repr

/-- What `catch_unwind` sees of a call. -/
inductive Outcome (ε : Type)
  | returned (result : Except ε Unit)
  | panicked

/-- A call that panics ended with `fault`. -/
def Outcome.settled {ε : Type} (fault : ε) : Outcome ε → Except ε Unit
  | .returned result => result
  | .panicked => .error fault

def errorOf {ε : Type} : Except ε Unit → Option ε
  | .ok () => none
  | .error error => some error

/-- Where a running call of `tick` stands. -/
inductive TickStage
  /-- At the head of the loop. -/
  | choosing
  | executing (command : RecentLogAction)
  /-- Behind the loop, with the guard to be dropped. -/
  | leaving
deriving DecidableEq

structure RecentLogTick where
  stage : TickStage
  left : Nat
  report : RecentLogActionsTickReport := {}
deriving DecidableEq

structure RecentLogActionsController where
  options : RecentLogActionsOptions
  commands : List RecentLogAction
  snapshot : RecentLogActionsSnapshot
  ticking : Bool
  /-- The calls of `tick` that have passed its first section and not returned. -/
  ticks : List RecentLogTick
  log : List (QueueEvent RecentLogAction)

namespace RecentLogActionsController

/-- That the memory of the queue can be had is the answer `reserved`. -/
def new (options : RecentLogActionsOptions) (reserved : Bool) :
    Except RecentLogActionError RecentLogActionsController :=
  if options.commandCapacity = 0 ∨ options.maxCommandsPerTick = 0 then .error .invalidConfiguration
  else if !reserved then .error .allocationFailed
  else .ok {
    options, commands := [], ticking := false, ticks := [], log := []
    snapshot := {
      lastError := none, pendingCommands := 0, revision := 1
      acceptingCommands := true, shuttingDown := false } }

/-- `u64::MAX`. -/
def maxRevision : UInt64 := 0xffff_ffff_ffff_ffff

variable (controller : RecentLogActionsController)

def submit (command : RecentLogAction) :
    Except RecentLogActionError Unit × RecentLogActionsController :=
  if controller.snapshot.shuttingDown then (.error .shuttingDown, controller)
  else if maxRevision - 1 ≤ controller.snapshot.revision then (.error .revisionExhausted, controller)
  else if controller.commands.length = controller.options.commandCapacity then
    (.error .queueFull, { controller with snapshot := { controller.snapshot with
      lastError := some .queueFull, revision := controller.snapshot.revision + 1 } })
  else
    (.ok (), { controller with
      commands := controller.commands ++ [command]
      snapshot := { controller.snapshot with
        pendingCommands := controller.commands.length + 1
        revision := controller.snapshot.revision + 1 }
      log := controller.log ++ [.accepted command] })

/-- The first section of `tick`. -/
def beginTick : Except RecentLogActionError Unit × RecentLogActionsController :=
  if controller.snapshot.shuttingDown then (.error .shuttingDown, controller)
  else if controller.ticking then (.error .busy, controller)
  else
    let budget := min controller.commands.length controller.options.maxCommandsPerTick
    (.ok (), { controller with
      ticking := true, ticks := controller.ticks ++ [{ stage := .choosing, left := budget }]
      log := controller.log ++ [.turn] })

/-- A tick leaves the loop. -/
def leaveLoop (index : Nat) (tick : RecentLogTick) : RecentLogActionsController :=
  { controller with ticks := controller.ticks.set index { tick with stage := .leaving } }

/-- The head of the loop, with the section that takes a command. -/
def nextCommand (index : Nat) : RecentLogActionsController :=
  match controller.ticks[index]? with
  | some ⟨.choosing, 0, report⟩ => controller.leaveLoop index ⟨.choosing, 0, report⟩
  | some ⟨.choosing, left + 1, report⟩ =>
    if controller.snapshot.shuttingDown then
      controller.leaveLoop index ⟨.choosing, left + 1, report⟩
    else
      match controller.commands with
      | [] => controller.leaveLoop index ⟨.choosing, left + 1, report⟩
      | command :: rest =>
        { controller with
          commands := rest
          snapshot := { controller.snapshot with
            pendingCommands := rest.length
            revision := saturatingSucc64 controller.snapshot.revision }
          ticks := controller.ticks.set index ⟨.executing command, left, report⟩
          log := controller.log ++ [.taken command] }
  | _ => controller

/-- The command has run, and the last section of the round publishes how it ended. -/
def finishCommand (index : Nat) (outcome : Outcome RecentLogActionError) :
    RecentLogActionsController :=
  match controller.ticks[index]? with
  | some ⟨.executing command, left, report⟩ =>
    let result := outcome.settled .internal
    let report := {
      commandsProcessed := report.commandsProcessed + 1
      actionFailures := report.actionFailures + if result.isOk then 0 else 1 }
    let snapshot := if controller.snapshot.shuttingDown then controller.snapshot
      else { controller.snapshot with
        lastError := errorOf result, revision := saturatingSucc64 controller.snapshot.revision }
    { controller with
      snapshot, ticks := controller.ticks.set index ⟨.choosing, left, report⟩
      log := controller.log ++ [.ran command] }
  | _ => controller

/-- The guard is dropped, and the tick returns its report. -/
def endTick (index : Nat) : Option RecentLogActionsTickReport × RecentLogActionsController :=
  match controller.ticks[index]? with
  | some ⟨.leaving, _, report⟩ =>
    (some report, { controller with ticking := false, ticks := controller.ticks.eraseIdx index })
  | _ => (none, controller)

def shutdown : RecentLogActionsController :=
  if controller.snapshot.shuttingDown then controller
  else { controller with
    commands := []
    snapshot := { controller.snapshot with
      pendingCommands := 0, acceptingCommands := false, shuttingDown := true
      revision := saturatingSucc64 controller.snapshot.revision }
    log := controller.log ++ [.closed controller.commands] }

end RecentLogActionsController

inductive RecentLogAccess
  | submit (command : RecentLogAction)
  | beginTick
  | nextCommand (index : Nat)
  | finishCommand (index : Nat) (outcome : Outcome RecentLogActionError)
  | endTick (index : Nat)
  | shutdown

def RecentLogActionsController.step (controller : RecentLogActionsController) :
    RecentLogAccess → RecentLogActionsController
  | .submit command => (controller.submit command).2
  | .beginTick => controller.beginTick.2
  | .nextCommand index => controller.nextCommand index
  | .finishCommand index outcome => controller.finishCommand index outcome
  | .endTick index => (controller.endTick index).2
  | .shutdown => controller.shutdown

end MannyUploader.Application
