import MannyUploader.Application.StoredFirst

/-! A tick and a shutdown of the owner in their parts. `Rounds` says what an invariant needs of
each part: `loose` holds between any two parts, and `flushed` between the first save of a tick and
its pump. -/
namespace MannyUploader.Application
open Config Domain Foundation Relation

/-- The parts of the owner that the history is about stay as they are. -/
structure Aside (s s' : Ticking W) : Prop where
  uploads : s'.1.pump.uploads = s.1.pump.uploads
  accepted : s'.1.pump.discovery.accepted = s.1.pump.discovery.accepted
  known : s'.1.pump.discovery.known = s.1.pump.discovery.known
  history : s'.1.history = s.1.history
  persisted : s'.1.lastPersisted = s.1.lastPersisted
  events : s'.2.events = s.2.events

def Indifferent (inv : Ticking W → Prop) : Prop := ∀ s s', Aside s s' → inv s → inv s'

/-- Another pump in the same owner. -/
def Ticking.withPump (s : Ticking W) (pump : ApplicationPump) (tape : Tape W) : Ticking W :=
  ({ s.1 with pump }, tape)

structure Rounds (ports : RuntimePorts V W) (loose flushed : Ticking W → Prop) : Prop where
  loosely : Indifferent loose
  closely : Indifferent flushed
  relaxes : ∀ s, flushed s → loose s
  limits : ∀ s limit, loose s → loose (s.withPump
    (s.1.pump.withUploads (s.1.pump.uploads.setHistoryLimit limit s.2).2.1)
    (s.1.pump.uploads.setHistoryLimit limit s.2).2.2)
  settled : ∀ s, loose s → s.1.pump.uploads.history == s.1.lastPersisted → flushed s
  saves : Stateful.Triple (fun s => loose s) (fun s =>
      ApplicationRuntime.save ports s.1.pump.uploads.history s) (fun _ => flushed) fun _ => loose
  acts : ∀ s uploads tape, flushed s →
    ReflTransGen (Churn ports.pump.uploads anyIntent) (s.1.pump.uploads, s.2) (uploads, tape) →
      flushed (s.withPump (s.1.pump.withUploads uploads) tape)
  drains : ∀ s, flushed s → loose (s.withPump (s.1.pump.drainWork ports.pump s.2).2.1
    (s.1.pump.drainWork ports.pump s.2).2.2)
  pumps : ∀ s enabled, flushed s → loose (s.withPump (s.1.pump.tick ports.pump enabled s.2).2.1
    (s.1.pump.tick ports.pump enabled s.2).2.2)
  cancels : ∀ s, loose s → loose (s.withPump (s.1.pump.cancelAll ports.pump s.2).1
    (s.1.pump.cancelAll ports.pump s.2).2)

namespace ApplicationRuntime
open Stateful (Triple Keeps)
variable {V W α ε : Type} {ports : RuntimePorts V W} {inv loose flushed : Ticking W → Prop}

section parts

theorem answered_keeps (indifferent : Indifferent inv) (question : W → α × W) :
    Keeps inv (answered question) := by
  intro s holds
  refine ⟨fun _ _ => ?_, fun _ failed => by cases failed⟩
  exact indifferent s _ ⟨rfl, rfl, rfl, rfl, rfl, rfl⟩ holds

theorem told_keeps (indifferent : Indifferent inv) (update : W → W) : Keeps inv (told update) :=
  answered_keeps indifferent _

theorem asked_keeps (indifferent : Indifferent inv) (question : W → α) :
    Keeps inv (asked question) :=
  answered_keeps indifferent _

theorem runtime_keeps : Keeps inv (runtime : Owner W ApplicationRuntime) := by
  intro s holds
  exact ⟨fun _ _ => holds, fun _ failed => by cases failed⟩

theorem change_keeps (indifferent : Indifferent inv)
    {update : ApplicationRuntime → ApplicationRuntime}
    (same : ∀ runtime, (update runtime).pump = runtime.pump ∧
      (update runtime).history = runtime.history ∧
        (update runtime).lastPersisted = runtime.lastPersisted) : Keeps inv (change update) := by
  intro s holds
  obtain ⟨pump, history, persisted⟩ := same s.1
  refine ⟨fun _ _ => ?_, fun _ failed => by cases failed⟩
  apply indifferent s (update s.1, s.2) _ holds
  exact ⟨by rw [pump], by rw [pump], by rw [pump], history, persisted, rfl⟩

theorem settle_keeps (wrap : ε → RuntimeError) (answer : Foundation.Attempt ε α) :
    Keeps inv (settle wrap answer) := by
  rcases answer with (_ | _) | _
  · exact Triple.fail fun _ holds => holds
  · exact Triple.fail fun _ holds => holds
  · exact Triple.pure fun _ holds => holds

theorem orFail_keeps (wrap : ε → RuntimeError) (answer : Except ε α) :
    Keeps inv (orFail wrap answer) := by
  cases answer with
  | error error => exact Triple.fail fun _ holds => holds
  | ok value => exact Triple.pure fun _ holds => holds

theorem orTooLate_keeps (answer : Option α) : Keeps inv (orTooLate answer) := by
  cases answer with
  | none => exact Triple.fail fun _ holds => holds
  | some value => exact Triple.pure fun _ holds => holds

theorem pumping_triple {pre post : Ticking W → Prop}
    {call : ApplicationPump → Tape W → Except ε α × ApplicationPump × Tape W}
    (reaches : ∀ s, pre s → post (s.withPump (call s.1.pump s.2).2.1 (call s.1.pump s.2).2.2)) :
    Triple pre (pumping call) (fun _ => post) fun _ => post :=
  fun s holds => ⟨fun _ _ => reaches s holds, fun _ failed => by cases failed⟩

theorem onClient_keeps (indifferent : Indifferent inv)
    (command : Stateful (Option String × W) (Fault NexusOptionsError) α) :
    Keeps inv (onClient command) := by
  intro s holds
  refine ⟨fun _ _ => ?_, fun _ failed => by cases failed⟩
  exact indifferent s _ ⟨rfl, rfl, rfl, rfl, rfl, rfl⟩ holds

/-- `if changed then (apply; remember)`. -/
theorem applied_keeps (indifferent : Indifferent inv)
    {update : ApplicationRuntime → ApplicationRuntime}
    {call : ApplicationPump → Tape W → Except ε Unit × ApplicationPump × Tape W}
    (reaches : ∀ s, inv s → inv (s.withPump (call s.1.pump s.2).2.1 (call s.1.pump s.2).2.2))
    (wrap : ε → RuntimeError)
    (same : ∀ runtime, (update runtime).pump = runtime.pump ∧
      (update runtime).history = runtime.history ∧
        (update runtime).lastPersisted = runtime.lastPersisted) :
    Keeps inv (do
      orFail wrap (← pumping call)
      change update) :=
  .bind (pumping_triple reaches) fun answer =>
    .bind (orFail_keeps wrap answer) fun _ => change_keeps indifferent same

end parts

section settings

theorem applySource_keeps (indifferent : Indifferent inv) (general : GeneralSettings)
    (now : Instant) : Keeps inv (applySource ports general now) := by
  refine .bind (asked_keeps indifferent _) fun desired => .bind (asked_keeps indifferent _)
    fun systemNow => .bind runtime_keeps fun before => .bind (orFail_keeps _ _) fun proposal => ?_
  apply Triple.ite
  · exact fun _ => change_keeps indifferent fun _ => ⟨rfl, rfl, rfl⟩
  · refine fun _ => applied_keeps indifferent (fun s holds => ?_) _ fun _ => ⟨rfl, rfl, rfl⟩
    apply indifferent s _ _ holds
    unfold ApplicationPump.reconfigureSource
    split
    · exact ⟨rfl, rfl, rfl, rfl, rfl, rfl⟩
    · split <;> exact ⟨rfl, rfl, rfl, rfl, rfl, rfl⟩

theorem applyStability_keeps (indifferent : Indifferent inv) (stability : Nat) (now : Instant) :
    Keeps inv (applyStability stability now) := by
  refine .bind runtime_keeps fun before => .ite (fun _ => .pure fun _ holds => holds) fun _ => ?_
  refine applied_keeps indifferent (fun s holds => ?_) _ fun _ => ⟨rfl, rfl, rfl⟩
  apply indifferent s _ _ holds
  unfold ApplicationPump.setRequiredMatches
  split
  · exact ⟨rfl, rfl, rfl, rfl, rfl, rfl⟩
  · split
    · exact ⟨rfl, rfl, rfl, rfl, rfl, rfl⟩
    next discovery set =>
      unfold LogDiscovery.setRequiredMatches at set
      split at set
      · cases set
        exact ⟨rfl, rfl, rfl, rfl, rfl, rfl⟩
      · cases set

theorem applyParserCapacity_keeps (indifferent : Indifferent inv) (capacity : Nat) :
    Keeps inv (applyParserCapacity ports capacity) := by
  refine .bind runtime_keeps fun before => .ite (fun _ => .pure fun _ holds => holds) fun _ => ?_
  refine applied_keeps indifferent (fun s holds => ?_) _ fun _ => ⟨rfl, rfl, rfl⟩
  apply indifferent s _ _ holds
  unfold LogIngestionCoordinator.updateParserCapacity
  dsimp only
  split
  · exact ⟨rfl, rfl, rfl, rfl, rfl, rfl⟩
  · split <;> exact ⟨rfl, rfl, rfl, rfl, rfl, rfl⟩

theorem applyPolicies_keeps (indifferent : Indifferent inv) (parallelism : Nat)
    (policies : List ProviderPolicy) : Keeps inv (applyPolicies ports parallelism policies) := by
  induction policies with
  | nil => exact Triple.pure fun _ holds => holds
  | cons policy rest ih =>
    refine .bind runtime_keeps fun before => .ite (fun _ => ih) fun _ => ?_
    refine .bind (pumping_triple fun s holds => ?_) fun answer => .bind (orFail_keeps _ answer)
      fun _ => .bind (change_keeps indifferent fun _ => ⟨rfl, rfl, rfl⟩) fun _ => ih
    apply indifferent s _ _ holds
    unfold UploadCoordinator.configureProvider
    dsimp only
    split
    · exact ⟨rfl, rfl, rfl, rfl, rfl, rfl⟩
    · split <;> exact ⟨rfl, rfl, rfl, rfl, rfl, rfl⟩

theorem applyHistoryLimit_keeps (rounds : Rounds ports loose flushed) (limit : Nat) :
    Keeps loose (applyHistoryLimit limit) := by
  refine .bind runtime_keeps fun before => .ite (fun _ => .pure fun _ holds => holds) fun _ => ?_
  exact applied_keeps rounds.loosely (fun s holds => rounds.limits s limit holds) _
    fun _ => ⟨rfl, rfl, rfl⟩

theorem applyConfiguration_keeps (rounds : Rounds ports loose flushed) (options : RuntimeOptions V) :
    Keeps loose (applyConfiguration ports options) := by
  have indifferent := rounds.loosely
  refine .bind (asked_keeps indifferent _) fun now => .bind (applySource_keeps indifferent _ now)
    fun _ => .bind (applyStability_keeps indifferent _ now) fun _ =>
      .bind (applyParserCapacity_keeps indifferent _) fun _ =>
        .bind (applyHistoryLimit_keeps rounds _) fun _ =>
          .bind (applyPolicies_keeps indifferent _ _) fun _ => ?_
  refine .bind runtime_keeps fun before => .ite (fun _ => .pure fun _ holds => holds) fun _ => ?_
  exact change_keeps indifferent fun _ => ⟨rfl, rfl, rfl⟩

theorem scheduleRefresh_keeps (indifferent : Indifferent inv) (progressed : Bool)
    (donbot : DonBotConfigurationSnapshot) (now : Instant) :
    Keeps inv (scheduleRefresh progressed donbot now) := by
  refine .bind runtime_keeps fun before => .ite (fun _ => ?_) fun _ => ?_
  · exact .bind (orTooLate_keeps _) fun next => change_keeps indifferent fun _ => ⟨rfl, rfl, rfl⟩
  · exact change_keeps indifferent fun _ => ⟨rfl, rfl, rfl⟩

theorem refreshWhenDue_keeps (indifferent : Indifferent inv) (options : RuntimeOptions V)
    (now : Instant) : Keeps inv (refreshWhenDue ports options now) := by
  refine .bind runtime_keeps fun before => .ite (fun _ => ?_) fun _ => .pure fun _ holds => holds
  refine .bind (orTooLate_keeps _) fun next =>
    .bind (change_keeps indifferent fun _ => ⟨rfl, rfl, rfl⟩) fun _ =>
      .bind (answered_keeps indifferent _) fun answer => .bind (settle_keeps _ answer) fun _ => ?_
  exact .bind (asked_keeps indifferent _) fun shown =>
    .bind (change_keeps indifferent fun _ => ⟨rfl, rfl, rfl⟩) fun _ => .pure fun _ holds => holds

end settings

section rounds

theorem persistHistory_apply (s : Ticking W) : persistHistory ports s =
    if s.1.pump.uploads.history == s.1.lastPersisted then (.ok (), s)
    else save ports s.1.pump.uploads.history s := by
  unfold persistHistory
  change (if _ then _ else _ : Owner W Unit) s = _
  split <;> rfl

theorem persistHistory_flushes (rounds : Rounds ports loose flushed) :
    Triple loose (persistHistory ports) (fun _ => flushed) fun _ => loose := by
  intro s holds
  rw [persistHistory_apply]
  split
  next same =>
    exact ⟨fun _ _ => rounds.settled s holds same, fun _ failed => by cases failed⟩
  next differs => exact rounds.saves s holds

theorem persistHistory_keeps (rounds : Rounds ports loose flushed) :
    Keeps loose (persistHistory ports) :=
  (persistHistory_flushes rounds).weaken (fun _ holds => holds)
    (fun _ s holds => rounds.relaxes s holds) fun _ _ holds => holds

/-! The actions of the user. -/

theorem acted_eq (call : Except CoordinatorError Unit × UploadCoordinator × Tape W) :
    (acted call).2 = call.2 := by
  obtain ⟨error | done, uploads, tape⟩ := call <;> rfl

theorem launched_tape (launch : W → Foundation.Attempt ExternalActionError Unit × W)
    (tape : Tape W) : ∃ world, (launched launch tape).2 = { tape with world } := by
  unfold launched
  split <;> exact ⟨_, rfl⟩

theorem execute_churn (command : RecentLogAction) (uploads : UploadCoordinator) (tape : Tape W) :
    ReflTransGen (Churn ports.pump.uploads anyIntent) (uploads, tape)
      (execute ports command uploads tape).2 := by
  have opens (launch : W → Foundation.Attempt ExternalActionError Unit × W) :
      ReflTransGen (Churn ports.pump.uploads anyIntent) (uploads, tape)
        (uploads, (launched launch tape).2) := by
    obtain ⟨world, same⟩ := launched_tape launch tape
    rw [same]
    exact .single (.elapsed world)
  have commands (op : CoordinatorOp W) (plain : op.admitsJobs = false) :
      ReflTransGen (Churn ports.pump.uploads anyIntent) (uploads, tape)
        (UploadCoordinator.perform ports.pump.uploads (uploads, tape) op) :=
    UploadCoordinator.perform_churn op (op.unguarded uploads) (CoordinatorOp.plain plain)
  cases command with
  | openReport id target =>
    unfold execute
    dsimp only
    split
    · exact .refl
    · exact opens _
  | openDirectory id =>
    unfold execute
    dsimp only
    split
    · exact .refl
    · split
      · exact .refl
      · exact opens _
  | retry id provider =>
    change ReflTransGen _ _ (acted _).2
    rw [acted_eq]
    exact commands (.retryFailed id provider) rfl
  | reupload id =>
    change ReflTransGen _ _ (acted _).2
    rw [acted_eq]
    exact commands (.reupload id) rfl
  | rechat id =>
    change ReflTransGen _ _ (acted _).2
    rw [acted_eq]
    exact commands (.rechat id) rfl
  | dismissError => exact .refl

theorem actionLoop_keeps (rounds : Rounds ports loose flushed) (budget : Nat) :
    Keeps flushed (actionLoop ports budget) := by
  induction budget with
  | zero => exact Triple.pure fun _ holds => holds
  | succ budget ih =>
    refine .bind (answered_keeps rounds.closely _) fun next => ?_
    cases next with
    | none => exact Triple.pure fun _ holds => holds
    | some command =>
      refine .bind (pumping_triple fun s holds => ?_) fun outcome =>
        .bind (told_keeps rounds.closely _) fun _ => ih
      exact rounds.acts s _ _ holds (execute_churn command s.1.pump.uploads s.2)

theorem tickActions_keeps (rounds : Rounds ports loose flushed) :
    Keeps flushed (tickActions ports) :=
  .bind (answered_keeps rounds.closely _) fun answer => .bind (orFail_keeps _ answer) fun budget =>
    .bind (actionLoop_keeps rounds budget) fun _ => told_keeps rounds.closely _

theorem aggregateTurn_keeps (indifferent : Indifferent inv) (donbot : DonBotConfigurationSnapshot) :
    Keeps inv (aggregateTurn ports donbot) := by
  refine .bind (asked_keeps indifferent _) fun configuration => ?_
  cases configuration with
  | none => exact Triple.fail fun _ holds => holds
  | some configuration =>
    exact .bind runtime_keeps fun before => .bind (answered_keeps indifferent _) fun answer =>
      .bind (change_keeps indifferent fun _ => ⟨rfl, rfl, rfl⟩) fun _ => orFail_keeps _ _

theorem sendAggregate_keeps (indifferent : Indifferent inv) (donbot : DonBotConfigurationSnapshot) :
    Keeps inv (sendAggregate ports donbot) := by
  have turn : Keeps inv (aggregateTurn ports donbot) := aggregateTurn_keeps indifferent donbot
  refine .bind (answered_keeps indifferent _) fun command => ?_
  cases command with
  | none => exact turn
  | some command =>
    refine .bind ?_ fun _ => turn
    exact .bind runtime_keeps fun before => .bind (orFail_keeps _ _) fun aggregate =>
      change_keeps indifferent fun _ => ⟨rfl, rfl, rfl⟩

/-! The pump. -/

theorem relaxed (rounds : Rounds ports loose flushed) {step : Owner W α}
    (keeps : Keeps flushed step) : Triple flushed step (fun _ => flushed) fun _ => loose :=
  keeps.weaken (fun _ holds => holds) (fun _ _ holds => holds)
    fun _ s holds => rounds.relaxes s holds

theorem scan_loosens (rounds : Rounds ports loose flushed) (enabled : ProviderSelection)
    (now : Instant) :
    Triple flushed (scan ports enabled now) (fun _ => loose) fun _ => loose := by
  have noted {update : ApplicationRuntime → ApplicationRuntime} (result : Except PumpError TickReport)
      (same : ∀ runtime, (update runtime).pump = runtime.pump ∧
        (update runtime).history = runtime.history ∧
          (update runtime).lastPersisted = runtime.lastPersisted) :
      Keeps loose (do change update; return result : Owner W (Except PumpError TickReport)) :=
    .bind (change_keeps rounds.loosely same) fun _ => .pure fun _ holds => holds
  refine .bind (relaxed rounds runtime_keeps) fun before =>
    .bind (relaxed rounds (orTooLate_keeps _)) fun next =>
      .bind (relaxed rounds (change_keeps rounds.closely fun _ => ⟨rfl, rfl, rfl⟩)) fun _ =>
        .bind (pumping_triple fun s holds => rounds.pumps s enabled holds) fun result => ?_
  cases result with
  | ok report => exact noted _ fun _ => ⟨rfl, rfl, rfl⟩
  | error error => exact noted _ fun _ => ⟨rfl, rfl, rfl⟩

theorem pumpOnce_loosens (rounds : Rounds ports loose flushed) (enabled : ProviderSelection)
    (now : Instant) :
    Triple flushed (pumpOnce ports enabled now) (fun _ => loose) fun _ => loose := by
  refine .bind (relaxed rounds runtime_keeps) fun before => .ite (fun _ => ?_) fun _ => ?_
  · exact scan_loosens rounds enabled now
  · exact pumping_triple fun s holds => rounds.drains s holds

theorem pumped_keeps (result : Except PumpError TickReport) :
    Keeps inv (pumped result : Owner W Unit) := by
  refine .bind (orFail_keeps _ result) fun _ => .bind runtime_keeps fun after => ?_
  cases after.sourceError with
  | none => exact Triple.pure fun _ holds => holds
  | some error => exact Triple.fail fun _ holds => holds

/-- A tick, whatever it ends with. -/
theorem tickInner_keeps (rounds : Rounds ports loose flushed) : Keeps loose (tickInner ports) := by
  have indifferent := rounds.loosely
  refine .bind (.bind runtime_keeps fun before => .bind (onClient_keeps indifferent _) fun answer =>
    settle_keeps _ answer) fun progressed => ?_
  refine .bind (asked_keeps indifferent _) fun options =>
    .bind (applyConfiguration_keeps rounds options) fun _ => .bind (asked_keeps indifferent _)
      fun now => .bind (scheduleRefresh_keeps indifferent _ _ now) fun _ =>
        .bind (refreshWhenDue_keeps indifferent options now) fun options =>
          .bind (persistHistory_flushes rounds) fun _ => ?_
  exact .bind (relaxed rounds (tickActions_keeps rounds)) fun _ =>
    .bind (relaxed rounds (sendAggregate_keeps rounds.closely _)) fun _ =>
      .bind (pumpOnce_loosens rounds _ now) fun result =>
        .bind (persistHistory_keeps rounds) fun _ => pumped_keeps result

theorem publish_keeps [DecidableEq V] (indifferent : Indifferent inv)
    (diagnostic : Option RuntimeError) : Keeps inv (publish ports diagnostic) :=
  .bind runtime_keeps fun _ => told_keeps indifferent _

/-- What a step leaves, also when it fails. -/
theorem attempt_keeps {step : Owner W α} (keeps : Keeps inv step) :
    Keeps inv (step.attempt : Owner W (Foundation.Attempt RuntimeError α)) := by
  intro s holds
  exact ⟨fun _ _ => keeps.apply holds, fun _ failed => by cases failed⟩

theorem shutdown_keeps [DecidableEq V] (rounds : Rounds ports loose flushed) :
    Keeps loose (shutdown ports) := by
  have indifferent := rounds.loosely
  refine .bind runtime_keeps fun before => .ite (fun _ => .pure fun _ holds => holds) fun _ => ?_
  refine .bind (change_keeps indifferent fun _ => ⟨rfl, rfl, rfl⟩) fun _ =>
    .bind (told_keeps indifferent _) fun _ => .bind (told_keeps indifferent _) fun _ =>
      .bind runtime_keeps fun _ => .bind (answered_keeps indifferent _) fun aggregate =>
        .bind (change_keeps indifferent fun _ => ⟨rfl, rfl, rfl⟩) fun _ =>
          .bind (pumping_triple fun s holds => rounds.cancels s holds) fun _ => ?_
  exact .bind (attempt_keeps (persistHistory_keeps rounds)) fun _ =>
    .bind (told_keeps indifferent _) fun _ => .bind (told_keeps indifferent _) fun _ =>
      publish_keeps indifferent _

theorem tick_keeps [DecidableEq V] (rounds : Rounds ports loose flushed) :
    Keeps loose (tick ports) := by
  have indifferent := rounds.loosely
  refine .bind runtime_keeps fun before => .ite (fun _ => .fail fun _ holds => holds) fun _ => ?_
  refine .bind (answered_keeps indifferent _) fun stopping => .bind (asked_keeps indifferent _)
    fun accepting => .ite (fun _ => ?_) fun _ => ?_
  · exact .bind (shutdown_keeps rounds) fun _ => .fail fun _ holds => holds
  · refine .bind (attempt_keeps (tickInner_keeps rounds)) fun result =>
      .bind (publish_keeps indifferent _) fun _ => ?_
    cases diagnosed result with
    | none => exact Triple.pure fun _ holds => holds
    | some error => exact Triple.fail fun _ holds => holds

/-- The settings that the owner starts with are applied without work of the pump. -/
theorem configure_keeps [DecidableEq V] (rounds : Rounds ports loose flushed) (settings : Settings) :
    Keeps loose (configure ports settings) := by
  have indifferent := rounds.loosely
  refine .bind (.bind runtime_keeps fun _ => .bind (onClient_keeps indifferent _) fun answer =>
    settle_keeps _ answer) fun _ => ?_
  exact .bind (asked_keeps indifferent _) fun options =>
    .bind (applyConfiguration_keeps rounds options) fun _ => .bind runtime_keeps fun _ =>
      .bind (answered_keeps indifferent _) fun answer => .bind (settle_keeps _ answer) fun _ =>
        publish_keeps indifferent _

end rounds
end ApplicationRuntime
end MannyUploader.Application
