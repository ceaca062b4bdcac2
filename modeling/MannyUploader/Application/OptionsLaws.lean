import MannyUploader.Application.ActionLaws
import MannyUploader.Application.NexusOptionsController
import MannyUploader.Config.SettingsCodec

/-! The options queue is a bounded queue as well, and gives out no command before the settings
that are shown have been applied. -/
namespace MannyUploader.Application
open Config Foundation Domain

/-- How far the settings have come since the last command, or since the tick began. -/
inductive Readiness
  | stale
  | published (settings : Settings)
  | applied (settings : Settings)
deriving DecidableEq

def Readiness.after (readiness : Readiness) : NexusEvent → Readiness
  | .queue .turn | .queue (.ran _) => .stale
  | .queue _ => readiness
  | .published service shown => if service.all (· = shown) then .published shown else .stale
  | .applied settings succeeded =>
    if readiness = .published settings ∧ succeeded then .applied settings else .stale

def readiness (log : List NexusEvent) : Readiness := log.foldl Readiness.after .stale

def NexusEvent.queueEvent : NexusEvent → Option (QueueEvent NexusOptionsCommand)
  | .queue event => some event
  | _ => none

def queueLog (log : List NexusEvent) : List (QueueEvent NexusOptionsCommand) :=
  log.filterMap (·.queueEvent)

/-- A command is taken only when the settings have been published and applied since the last
one. -/
def TakesApplied (log : List NexusEvent) : Prop :=
  EachAfter (fun earlier event => ∀ command, event = .queue (.taken command) →
    ∃ settings, readiness earlier = .applied settings) log

section logs
variable (log : List NexusEvent)

@[simp] theorem readiness_snoc (event : NexusEvent) :
    readiness (log ++ [event]) = (readiness log).after event := by
  simp [readiness]

@[simp] theorem queueLog_queue (event : QueueEvent NexusOptionsCommand) :
    queueLog (log ++ [.queue event]) = queueLog log ++ [event] := by
  simp [queueLog, NexusEvent.queueEvent]

@[simp] theorem queueLog_published (service : Option Settings) (shown : Settings) :
    queueLog (log ++ [.published service shown]) = queueLog log := by
  simp [queueLog, NexusEvent.queueEvent]

@[simp] theorem queueLog_applied (settings : Settings) (succeeded : Bool) :
    queueLog (log ++ [.applied settings succeeded]) = queueLog log := by
  simp [queueLog, NexusEvent.queueEvent]

variable {log}

theorem TakesApplied.snoc {event : NexusEvent} (takes : TakesApplied log)
    (other : ∀ command, event ≠ .queue (.taken command)) : TakesApplied (log ++ [event]) :=
  eachAfter_snoc takes fun command same => absurd same (other command)

end logs

def OwnerStage.running : OwnerStage → Option NexusOptionsCommand
  | .executing _ command => some command
  | _ => none

namespace NexusOptionsController
variable {V : Type} {controller : NexusOptionsController V}

def mayTake (limit : Nat) : OwnerStage → Nat
  | .publishing _ _ .opening | .applying .opening | .budgeting => limit
  | .publishing _ _ (.round left) | .applying (.round left) | .choosing left
    | .executing left _ => left
  | _ => 0

/-- The queue that the controller stands for. -/
def desk (controller : NexusOptionsController V) : CommandQueue NexusOptionsCommand where
  waiting := controller.queue.commands
  running := OwnerStage.running controller.stage
  isClosed := !controller.queue.snapshot.acceptingCommands
  left := mayTake controller.maxCommandsPerTick controller.stage
  log := queueLog controller.log

/-- What holds where the owner stands. -/
def Prepared (controller : NexusOptionsController V) : Prop :=
  let shown := controller.queue.snapshot.configuration.settings
  match controller.stage with
  | .applying _ => readiness controller.log = .published shown
  | .budgeting | .choosing _ => readiness controller.log = .applied shown
  | .closing => controller.stopped = true
  | _ => True

structure Sound (controller : NexusOptionsController V) : Prop where
  prepared : controller.Prepared
  takes : TakesApplied controller.log
  running : controller.stopped = true → controller.stage = .resting ∨ controller.stage = .closing
  shut : controller.queue.snapshot.shuttingDown = true → controller.stopped = true

/-- What one step comes to. -/
structure Follows (before after : NexusOptionsController V) : Prop where
  sound : after.Sound
  capacity : after.queue.capacity = before.queue.capacity
  limit : after.maxCommandsPerTick = before.maxCommandsPerTick
  fits : before.queue.commands.length ≤ before.queue.capacity →
    Relation.ReflTransGen (QueueMove before.queue.capacity before.maxCommandsPerTick)
      before.desk after.desk

theorem Follows.refl (sound : controller.Sound) : Follows controller controller :=
  ⟨sound, rfl, rfl, fun _ => .refl⟩

/-- An event that leaves the owner where it stands. -/
theorem Sound.logged {after : NexusOptionsController V} (sound : controller.Sound)
    (event : QueueEvent NexusOptionsCommand)
    (log : after.log = controller.log ++ [.queue event])
    (keeps : ∀ readiness : Readiness, readiness.after (.queue event) = readiness)
    (other : ∀ command, event ≠ .taken command)
    (stage : after.stage = controller.stage) (stopped : after.stopped = controller.stopped)
    (configuration :
      after.queue.snapshot.configuration = controller.queue.snapshot.configuration)
    (shut : after.queue.snapshot.shuttingDown = controller.queue.snapshot.shuttingDown) :
    after.Sound where
  prepared := by
    have prepared := sound.prepared
    unfold Prepared at prepared ⊢
    rw [stage, log, configuration, stopped, readiness_snoc, keeps]
    exact prepared
  takes := by
    rw [log]
    exact sound.takes.snoc fun command same => other command (NexusEvent.queue.inj same)
  running := by rw [stopped, stage]; exact sound.running
  shut := by rw [shut, stopped]; exact sound.shut

theorem submit_follows (sound : controller.Sound) (command : NexusOptionsCommand) :
    Follows controller (controller.submit command).2 := by
  unfold submit
  dsimp only
  split
  · exact .refl sound
  next running =>
    split
    · exact .refl sound
    · split
      · exact ⟨⟨sound.prepared, sound.takes, sound.running, sound.shut⟩, rfl, rfl, fun _ => .refl⟩
      next accepted =>
        refine ⟨?_, rfl, rfl, fun fits => .single ?_⟩
        · exact sound.logged (.accepted command) rfl (fun _ => rfl) (by simp) rfl rfl rfl rfl
        have room : controller.queue.commands.length ≠ controller.queue.capacity := by
          intro full
          simp [full] at accepted
        have isOpen : controller.desk.isClosed = false := by
          simp only [Bool.or_eq_true, not_or, Bool.not_eq_true] at running
          exact running.1
        have move : QueueMove _ controller.maxCommandsPerTick controller.desk _ :=
          .accept command isOpen (Nat.lt_of_le_of_ne fits room)
        simpa [desk, NexusOptionsController.logged] using move

theorem stopAccepting_follows (sound : controller.Sound) :
    Follows controller controller.stopAccepting := by
  unfold stopAccepting
  dsimp only
  split
  · exact .refl sound
  next accepting =>
    have isOpen : controller.desk.isClosed = false := by simpa [desk] using accepting
    have move : QueueMove controller.queue.capacity controller.maxCommandsPerTick _ _ :=
      .close isOpen
    refine ⟨?_, rfl, rfl, fun _ => .single ?_⟩
    · exact sound.logged (.closed controller.queue.commands) rfl (fun _ => rfl) (by simp)
        rfl rfl rfl rfl
    · simpa [desk, NexusOptionsController.logged] using move

/-- The owner goes on without a command in hand, and may take no more than before. -/
theorem shortened (before after : NexusOptionsController V)
    (queue : after.desk.waiting = before.desk.waiting)
    (isClosed : after.desk.isClosed = before.desk.isClosed)
    (log : after.desk.log = before.desk.log) (idle : before.desk.running = none)
    (stillIdle : after.desk.running = none) (fewer : after.desk.left ≤ before.desk.left)
    (capacity limit : Nat) :
    Relation.ReflTransGen (QueueMove capacity limit) before.desk after.desk := by
  have same : after.desk = { before.desk with left := after.desk.left } := by
    ext1
    case running => exact stillIdle.trans idle.symm
    all_goals first | exact queue | exact isClosed | exact log | rfl
  rw [same]
  exact .single (.shorten _ fewer)

theorem beginShutdown_follows (sound : controller.Sound)
    (idle : OwnerStage.running controller.stage = none) :
    Follows controller controller.beginShutdown := by
  unfold beginShutdown
  split
  next stopped =>
    refine ⟨⟨trivial, sound.takes, fun _ => .inl rfl, sound.shut⟩, rfl, rfl, fun _ => ?_⟩
    apply shortened controller
    case idle => exact idle
    case fewer => exact Nat.zero_le _
    all_goals rfl
  · have closed := stopAccepting_follows sound
    refine ⟨⟨rfl, closed.sound.takes, fun _ => .inr rfl, fun _ => rfl⟩, closed.capacity,
      closed.limit, fun fits => (closed.fits fits).trans ?_⟩
    have stage : controller.stopAccepting.stage = controller.stage := by
      unfold stopAccepting
      dsimp only
      split <;> rfl
    apply shortened controller.stopAccepting
    case idle => exact (congrArg OwnerStage.running stage).trans idle
    case fewer => exact Nat.zero_le _
    all_goals rfl

theorem endShutdown_follows (sound : controller.Sound) (workflows : V) :
    Follows controller (controller.endShutdown workflows) := by
  unfold endShutdown
  split
  next closing =>
    refine ⟨⟨trivial, sound.takes, fun _ => .inl rfl, fun _ => ?_⟩, rfl, rfl, fun _ => ?_⟩
    · have prepared := sound.prepared
      rw [Prepared, closing] at prepared
      exact prepared
    · apply shortened controller
      case idle => exact congrArg OwnerStage.running closing
      case fewer => exact Nat.zero_le _
      all_goals rfl
  · exact .refl sound

theorem shutdown_follows (sound : controller.Sound) :
    Follows controller controller.shutdown := by
  unfold shutdown
  split
  next resting => exact beginShutdown_follows sound (congrArg OwnerStage.running resting)
  · exact .refl sound

theorem tick_follows (sound : controller.Sound) : Follows controller controller.tick := by
  unfold tick
  split
  next resting =>
    have idle : OwnerStage.running controller.stage = none := congrArg OwnerStage.running resting
    split
    · exact beginShutdown_follows sound idle
    next ready =>
      have alive : controller.stopped ≠ true := by
        intro stopped
        simp [stopped] at ready
      refine ⟨⟨trivial, sound.takes.snoc (by simp), fun stopped => absurd stopped alive,
        sound.shut⟩, rfl, rfl, fun _ => .single ?_⟩
      have move : QueueMove controller.queue.capacity _ controller.desk _ :=
        .turn _ (Nat.le_refl controller.maxCommandsPerTick)
      simpa [desk, NexusOptionsController.logged, resting, OwnerStage.running, mayTake] using move
  · exact .refl sound

theorem Sound.alive (sound : controller.Sound) (resting : controller.stage ≠ .resting)
    (closing : controller.stage ≠ .closing) :
    controller.stopped = false ∧ controller.queue.snapshot.shuttingDown = false := by
  have alive : controller.stopped = false := by
    by_contra stopped
    simp only [Bool.not_eq_false] at stopped
    exact (sound.running stopped).elim resting closing
  refine ⟨alive, ?_⟩
  by_contra shut
  simp only [Bool.not_eq_false] at shut
  exact Bool.false_ne_true (alive.symm.trans (sound.shut shut))

/-- The running owner goes on without a command in hand, and may take no more than before. -/
theorem goesOn {after : NexusOptionsController V} (sound : controller.Sound)
    (alive : controller.stopped = false) (prepared : after.Prepared)
    (takes : TakesApplied after.log) (stopped : after.stopped = controller.stopped)
    (shut : after.queue.snapshot.shuttingDown = controller.queue.snapshot.shuttingDown)
    (capacity : after.queue.capacity = controller.queue.capacity)
    (limit : after.maxCommandsPerTick = controller.maxCommandsPerTick)
    (queue : after.desk.waiting = controller.desk.waiting)
    (isClosed : after.desk.isClosed = controller.desk.isClosed)
    (log : after.desk.log = controller.desk.log) (idle : controller.desk.running = none)
    (stillIdle : after.desk.running = none) (fewer : after.desk.left ≤ controller.desk.left) :
    Follows controller after where
  sound := {
    prepared, takes
    running := fun down => absurd (alive.symm.trans (stopped.symm.trans down)) Bool.false_ne_true
    shut := fun down => stopped.trans (sound.shut (shut.symm.trans down)) }
  capacity := capacity
  limit := limit
  fits := fun _ => shortened controller after queue isClosed log idle stillIdle fewer _ _

section published
variable [DecidableEq V] (error : Option NexusOptionsError) (clearError : Bool)

/-- Publishing changes what is shown, and nothing of the queue. -/
structure Published (before after : NexusOptionsController V) : Prop where
  desk : after.desk = before.desk
  stage : after.stage = before.stage
  stopped : after.stopped = before.stopped
  shut : after.queue.snapshot.shuttingDown = before.queue.snapshot.shuttingDown
  capacity : after.queue.capacity = before.queue.capacity
  limit : after.maxCommandsPerTick = before.maxCommandsPerTick
  takes : TakesApplied before.log → TakesApplied after.log

theorem replacing_eq (snapshot before : NexusOptionsSnapshot V) :
    ∃ revision, snapshot.replacing before = { snapshot with revision } := by
  unfold NexusOptionsSnapshot.replacing
  split
  · exact ⟨_, rfl⟩
  · exact ⟨snapshot.revision, rfl⟩

theorem publish_published (controller : NexusOptionsController V) :
    Published controller (controller.publish error clearError) := by
  obtain ⟨revision, revised⟩ :=
    replacing_eq (controller.shownNext error clearError) controller.queue.snapshot
  unfold publish
  split
  · exact ⟨rfl, rfl, rfl, rfl, rfl, rfl, id⟩
  · dsimp only
    rw [revised]
    refine ⟨?_, rfl, rfl, rfl, rfl, rfl, fun takes => takes.snoc (by simp)⟩
    ext1
    case log => exact queueLog_published _ _ _
    all_goals rfl

theorem readiness_publish (running : controller.queue.snapshot.shuttingDown = false) :
    readiness (controller.publish error clearError).log =
      .published (controller.publish error clearError).queue.snapshot.configuration.settings := by
  obtain ⟨revision, revised⟩ :=
    replacing_eq (controller.shownNext error clearError) controller.queue.snapshot
  rw [publish, if_neg (by simp [running])]
  dsimp only
  rw [revised, readiness_snoc, Readiness.after, if_pos]
  cases poisoned : controller.poisoned
  · simp [shownNext, poisoned, ConfigurationService.snapshot]
  · rfl

end published

theorem nextCommand_follows (sound : controller.Sound) {left : Nat}
    (choosing : controller.stage = .choosing left) :
    Follows controller (controller.nextCommand left) := by
  have alive := (sound.alive (by simp [choosing]) (by simp [choosing])).1
  have idle : controller.desk.running = none := congrArg OwnerStage.running choosing
  have leaves : Follows controller { controller with stage := .checking } := by
    apply goesOn sound alive
    case prepared => trivial
    case takes => exact sound.takes
    case idle => exact idle
    case fewer => exact Nat.zero_le _
    all_goals rfl
  unfold nextCommand
  dsimp only
  split
  next left command rest waiting =>
    split
    · exact leaves
    next accepting =>
      have prepared := sound.prepared
      simp only [Prepared, choosing] at prepared
      refine ⟨⟨trivial, ?_, fun stopped => ?_, sound.shut⟩, rfl, rfl, fun _ => .single ?_⟩
      · exact eachAfter_snoc sound.takes fun _ _ => ⟨_, prepared⟩
      · exact absurd (alive.symm.trans stopped) Bool.false_ne_true
      · have isOpen : controller.desk.isClosed = false := by simpa [desk] using accepting
        have left_eq : controller.desk.left = left + 1 := by simp [desk, choosing, mayTake]
        have move : QueueMove controller.queue.capacity controller.maxCommandsPerTick _ _ :=
          .take command rest left isOpen waiting idle left_eq
        simpa [desk, NexusOptionsController.logged, OwnerStage.running, mayTake] using move
  · exact leaves

/-- The running owner publishes and goes on. -/
theorem publish_follows [DecidableEq V] (sound : controller.Sound)
    (error : Option NexusOptionsError) (clearError : Bool) {stage : OwnerStage}
    (alive : controller.stopped = false) (idle : OwnerStage.running controller.stage = none)
    (stillIdle : OwnerStage.running stage = none)
    (fewer : mayTake controller.maxCommandsPerTick stage ≤
      mayTake controller.maxCommandsPerTick controller.stage)
    (prepared : Prepared { controller.publish error clearError with stage }) :
    Follows controller { controller.publish error clearError with stage } := by
  have published := publish_published error clearError controller
  have waiting := congrArg CommandQueue.waiting published.desk
  have isClosed := congrArg CommandQueue.isClosed published.desk
  have log := congrArg CommandQueue.log published.desk
  apply goesOn sound alive prepared (published.takes sound.takes) published.stopped
    published.shut published.capacity published.limit waiting isClosed log idle stillIdle
  simpa only [desk, published.limit] using fewer

theorem proceed_follows [DecidableEq V] (sound : controller.Sound) :
    Follows controller controller.proceed := by
  unfold proceed
  split
  next error clearError next publishing =>
    have alive := sound.alive (by simp [publishing]) (by simp [publishing])
    have idle := congrArg OwnerStage.running publishing
    apply publish_follows sound error clearError alive.1 idle rfl
    · rw [publishing]
      cases next <;> exact Nat.le_refl _
    · exact readiness_publish error clearError alive.2
  next error failing =>
    have alive := sound.alive (by simp [failing]) (by simp [failing])
    have idle := congrArg OwnerStage.running failing
    exact publish_follows sound (some error) false alive.1 idle rfl (Nat.zero_le _) trivial
  next budgeting =>
    have alive := sound.alive (by simp [budgeting]) (by simp [budgeting])
    have prepared := sound.prepared
    simp only [Prepared, budgeting] at prepared
    apply goesOn sound alive.1
    case prepared => exact prepared
    case takes => exact sound.takes
    case idle => exact congrArg OwnerStage.running budgeting
    case fewer => simp [desk, budgeting, mayTake]
    all_goals rfl
  next left choosing => exact nextCommand_follows sound choosing
  next checking =>
    split
    · exact beginShutdown_follows sound (congrArg OwnerStage.running checking)
    · have alive := sound.alive (by simp [checking]) (by simp [checking])
      apply goesOn sound alive.1
      case prepared => trivial
      case takes => exact sound.takes
      case idle => exact congrArg OwnerStage.running checking
      case fewer => exact Nat.zero_le _
      all_goals rfl
  · exact .refl sound

theorem executed_follows (sound : controller.Sound) (outcome : Outcome NexusOptionsError)
    (effects : Effects V) : Follows controller (controller.executed outcome effects) := by
  unfold executed
  split
  next left command executing =>
    have alive := sound.alive (by simp [executing]) (by simp [executing])
    refine ⟨⟨trivial, sound.takes.snoc (by simp), ?_, sound.shut⟩, rfl, rfl, fun _ => .single ?_⟩
    · exact fun stopped => absurd (alive.1.symm.trans stopped) Bool.false_ne_true
    · have running : controller.desk.running = some command := by
        simp [desk, executing, OwnerStage.running]
      have move : QueueMove controller.queue.capacity controller.maxCommandsPerTick _ _ :=
        .run command running
      simpa [desk, NexusOptionsController.logged, withEffects, executing, OwnerStage.running,
        mayTake] using move
  · exact .refl sound

theorem applied_follows (sound : controller.Sound) (outcome : Outcome NexusOptionsError) :
    Follows controller (controller.applied outcome) := by
  unfold applied
  split
  next next applying =>
    have alive := sound.alive (by simp [applying]) (by simp [applying])
    have prepared := sound.prepared
    simp only [Prepared, applying] at prepared
    have idle : OwnerStage.running controller.stage = none := congrArg OwnerStage.running applying
    cases outcome.settled .settingsApplyFailed with
    | error error =>
      apply goesOn sound alive.1
      case prepared => trivial
      case takes => exact sound.takes.snoc (by simp)
      case log => exact queueLog_applied _ _ _
      case idle => exact idle
      case fewer => exact Nat.zero_le _
      all_goals rfl
    | ok done =>
      apply goesOn sound alive.1
      case prepared =>
        cases next <;>
          simp [Prepared, errorOf, Readiness.after, prepared, Except.isOk, Except.toBool]
      case takes => exact sound.takes.snoc (by simp)
      case log => exact queueLog_applied _ _ _
      case idle => exact idle
      case stillIdle => cases next <;> rfl
      case fewer =>
        simp only [desk, applying]
        cases next <;> exact Nat.le_refl _
      all_goals rfl
  · exact .refl sound

theorem polled_follows (sound : controller.Sound) (answer : Option (Option NexusOptionsError))
    (effects : Effects V) : Follows controller (controller.polled answer effects) := by
  unfold polled
  split
  next polling =>
    have alive := sound.alive (by simp [polling]) (by simp [polling])
    cases answer with
    | none =>
      apply goesOn sound alive.1
      case prepared => trivial
      case takes => exact sound.takes
      case idle => exact congrArg OwnerStage.running polling
      case fewer => exact Nat.zero_le _
      all_goals rfl
    | some error =>
      apply goesOn sound alive.1
      case prepared => trivial
      case takes => exact sound.takes
      case idle => exact congrArg OwnerStage.running polling
      case fewer => exact Nat.zero_le _
      all_goals rfl
  · exact .refl sound

theorem between_follows (sound : controller.Sound) (effects : Effects V) :
    Follows controller (controller.between effects) := by
  unfold between
  split
  · exact ⟨⟨sound.prepared, sound.takes, sound.running, sound.shut⟩, rfl, rfl, fun _ => .refl⟩
  · exact .refl sound

theorem republish_follows [DecidableEq V] (sound : controller.Sound)
    (error : Option NexusOptionsError) : Follows controller (controller.republish error) := by
  unfold republish
  split
  next resting =>
    have published := publish_published error false controller
    refine ⟨⟨?_, published.takes sound.takes, ?_, ?_⟩, published.capacity, published.limit,
      fun _ => ?_⟩
    · rw [Prepared, published.stage, resting]
      trivial
    · rw [published.stopped, published.stage]
      exact sound.running
    · rw [published.stopped, published.shut]
      exact sound.shut
    · rw [published.desk]
  · exact .refl sound

theorem step_follows [DecidableEq V] (sound : controller.Sound) (access : NexusAccess V) :
    Follows controller (controller.step access) := by
  cases access with
  | submit command => exact submit_follows sound command
  | stopAccepting => exact stopAccepting_follows sound
  | tick => exact tick_follows sound
  | proceed => exact proceed_follows sound
  | executed outcome effects => exact executed_follows sound outcome effects
  | applied outcome => exact applied_follows sound outcome
  | polled answer effects => exact polled_follows sound answer effects
  | between effects => exact between_follows sound effects
  | republish error => exact republish_follows sound error
  | shutdown => exact shutdown_follows sound
  | endShutdown workflows => exact endShutdown_follows sound workflows

/-- Between two steps the controller stands for a queue that starts empty. -/
structure Served (capacity limit : Nat) (controller : NexusOptionsController V) : Prop where
  sound : controller.Sound
  sameCapacity : controller.queue.capacity = capacity
  sameLimit : controller.maxCommandsPerTick = limit
  moves : Relation.ReflTransGen (QueueMove capacity limit) {} controller.desk

theorem Served.step [DecidableEq V] {capacity limit : Nat}
    (served : Served capacity limit controller) (access : NexusAccess V) :
    Served capacity limit (controller.step access) := by
  obtain ⟨sound, rfl, rfl, moves⟩ := served
  have follows := step_follows sound access
  have fits := (CommandQueue.orderly_of_moves moves).bounded
  exact ⟨follows.sound, follows.capacity, follows.limit, moves.trans (follows.fits fits)⟩

theorem Served.of_new {configuration : ConfigurationService} {poisoned workflowsShutDown : Bool}
    {workflows : V} {commandCapacity maxCommandsPerTick : Nat} {reserved : Bool}
    (new : NexusOptionsController.new configuration poisoned workflows workflowsShutDown
      commandCapacity maxCommandsPerTick reserved = .ok controller) :
    Served commandCapacity maxCommandsPerTick controller := by
  unfold NexusOptionsController.new at new
  split_ifs at new
  cases new
  exact ⟨⟨trivial, eachAfter_nil, fun _ => .inl rfl, fun down => absurd down Bool.false_ne_true⟩,
    rfl, rfl, .refl⟩

end NexusOptionsController

/-- Both queues are bounded. A command that was accepted runs once and in turn, or waits, or was
dropped when the queue closed; and none is taken after that. Before each command of the options
window the settings that are shown have been applied. -/
theorem commands_in_order :
    (∀ (options : RecentLogActionsOptions) (reserved : Bool)
        (start controller : RecentLogActionsController),
      RecentLogActionsController.new options reserved = .ok start →
      Run RecentLogActionsController.step (fun _ _ => True) start controller →
      Orderly options.commandCapacity options.maxCommandsPerTick controller.commands
        (RecentLogActionsController.running controller.ticks) controller.log) ∧
    ∀ (V : Type) [DecidableEq V] (configuration : ConfigurationService) (poisoned : Bool)
        (workflows : V) (workflowsShutDown : Bool) (commandCapacity maxCommandsPerTick : Nat)
        (reserved : Bool) (start controller : NexusOptionsController V),
      NexusOptionsController.new configuration poisoned workflows workflowsShutDown
        commandCapacity maxCommandsPerTick reserved = .ok start →
      Run NexusOptionsController.step (fun _ _ => True) start controller →
      Orderly commandCapacity maxCommandsPerTick controller.queue.commands
        (OwnerStage.running controller.stage) (queueLog controller.log) ∧
      TakesApplied controller.log := by
  constructor
  · intro options reserved start controller new run
    have served := run.invariant (fun _ access _ served => served.step access)
      (RecentLogActionsController.Served.of_new new)
    exact CommandQueue.orderly_of_moves served.moves
  · intro V _ configuration poisoned workflows down capacity limit reserved start controller new run
    have served := run.invariant (fun _ access _ served => served.step access)
      (NexusOptionsController.Served.of_new new)
    exact ⟨CommandQueue.orderly_of_moves served.moves, served.sound.takes⟩

def sampleConfiguration : ConfigurationService :=
  ⟨staleSettings, .defaults, none, none, 1, false, staleSettings_valid⟩

/-- One command is accepted and run, and another is dropped with the queue. -/
def sampleActions : List RecentLogAccess :=
  [.submit .dismissError, .beginTick, .nextCommand 0, .submit .dismissError, .shutdown,
    .finishCommand 0 .panicked, .nextCommand 0, .endTick 0]

def sampleOptionsAccesses : List (NexusAccess Unit) :=
  [.submit .dismissError, .submit .dismissError, .tick, .proceed, .applied (.returned (.ok ())),
    .proceed, .proceed, .executed .panicked ⟨sampleConfiguration, false, ()⟩, .proceed,
    .applied .panicked, .proceed, .stopAccepting]

theorem commands_in_order_sample :
    (∃ start controller : RecentLogActionsController,
      Orderly 32 8 controller.commands (RecentLogActionsController.running controller.ticks)
        controller.log ∧
      controller = sampleActions.foldl RecentLogActionsController.step start ∧
      ranCommands controller.log = [.dismissError] ∧
      droppedCommands controller.log = [.dismissError]) ∧
    ∃ start controller : NexusOptionsController Unit,
      TakesApplied controller.log ∧
      controller = sampleOptionsAccesses.foldl NexusOptionsController.step start ∧
      ranCommands (queueLog controller.log) = [.dismissError] ∧
      droppedCommands (queueLog controller.log) = [.dismissError] :=
  ⟨⟨_, _, commands_in_order.1 {} true _ _ rfl (.of_list _ _ sampleActions fun _ _ _ => trivial),
      rfl, rfl, rfl⟩,
    ⟨_, _, (commands_in_order.2 Unit sampleConfiguration false () false 32 8 true _ _ rfl
      (.of_list _ _ sampleOptionsAccesses fun _ _ _ => trivial)).2, rfl, rfl, rfl⟩⟩

end MannyUploader.Application
