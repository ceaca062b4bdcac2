import MannyUploader.Application.RuntimeSteps
import MannyUploader.Application.OptionsLaws
import MannyUploader.Config.HistorySaves

/-! Whatever the owner is asked to do, a provider gets a log only after the history was loaded or
saved with it. The save counts even where it trims that very record. -/
namespace MannyUploader.Application
open Config Domain Foundation Relation

inductive RuntimeOp (W : Type)
  | tick
  | shutdown
  /-- The surroundings change between two calls. -/
  | elapse (world : W)

namespace ApplicationRuntime
open Stateful (Triple Keeps)
variable {V W : Type} {ports : RuntimePorts V W} {concerned : Entry → Prop}

def perform [DecidableEq V] (ports : RuntimePorts V W) (s : Ticking W) : RuntimeOp W → Ticking W
  | .tick => (tick ports s).2
  | .shutdown => (shutdown ports s).2
  | .elapse world => (s.1, { s.2 with world })

theorem perform_keeps [DecidableEq V] {loose flushed : Ticking W → Prop}
    (rounds : Rounds ports loose flushed) {s : Ticking W} (holds : loose s) (op : RuntimeOp W) :
    loose (perform ports s op) := by
  cases op with
  | tick => exact (tick_keeps rounds).apply holds
  | shutdown => exact (shutdown_keeps rounds).apply holds
  | elapse world => exact rounds.loosely s _ ⟨rfl, rfl, rfl, rfl, rfl, rfl⟩ holds

theorem begun_ok [DecidableEq V] {settings : Settings} {parts : RuntimeParts}
    {pump : ApplicationPump} {bundled : String} {selection : SessionLogSelection}
    {steady : Instant} {due : Option Instant} {runtime : ApplicationRuntime} {after tape : Tape W}
    (started : begun ports settings parts pump bundled selection steady after due =
      (.ok runtime, tape)) :
    ∃ next, configure ports settings (fresh parts pump bundled selection steady next, after) =
      (.ok (), runtime, tape) := by
  cases due with
  | none => cases started
  | some next =>
    unfold begun at started
    dsimp only at started
    split at started
    next configured =>
      cases started
      exact ⟨next, configured⟩
    · cases started

/-- The owner that starts has restored what the history holds, and applied the settings. -/
theorem startUp_ok [DecidableEq V] {parts : RuntimeParts} {bundled : String}
    {runtime : ApplicationRuntime} {start tape : Tape W}
    (started : startUp ports parts bundled start = (.ok runtime, tape)) :
    ∃ settings pump after selection steady next,
      parts.pump.restoreHistory parts.history.records
          (start.note (.loaded parts.history.records)) = (.ok (), pump, after) ∧
        configure ports settings (fresh parts pump bundled selection steady next, after) =
          (.ok (), runtime, tape) := by
  unfold startUp at started
  split at started
  · cases started
  next settings _ =>
    dsimp only at started
    split at started
    · cases started
    next pump after restored =>
      obtain ⟨next, configured⟩ := begun_ok started
      exact ⟨settings, pump, after, _, _, next, restored, configured⟩

/-- What holds once the history is restored holds of every run. -/
theorem run_keeps [DecidableEq V] {loose flushed : Ticking W → Prop}
    (rounds : Rounds ports loose flushed) {parts : RuntimeParts} {bundled : String}
    {runtime : ApplicationRuntime} {start tape : Tape W} {s : Ticking W}
    (started : startUp ports parts bundled start = (.ok runtime, tape))
    (restored : ∀ pump after selection steady next,
      parts.pump.restoreHistory parts.history.records (start.note (.loaded parts.history.records)) =
        (.ok (), pump, after) → loose (fresh parts pump bundled selection steady next, after))
    (run : Run (perform ports) (fun _ _ => True) (runtime, tape) s) : loose s := by
  obtain ⟨settings, pump, after, selection, steady, next, history, configured⟩ :=
    startUp_ok started
  apply run.invariant fun s op _ holds => perform_keeps rounds holds op
  have kept := (configure_keeps rounds settings).apply
    (restored pump after selection steady next history)
  rwa [configured] at kept

/-! The history before a request. -/

/-- What is concerned was loaded or handed to a save, and so was the file of every request. -/
def Recorded (concerned : Entry → Prop) (s : Ticking W) : Prop :=
  Covered (s.1.lastPersisted.map (·.file)) concerned (s.1.pump.uploads, s.2)

theorem Recorded.aside {s s' : Ticking W} (recorded : Recorded concerned s) (aside : Aside s s') :
    Recorded concerned s' := by
  constructor
  · change StoredFirst s'.2.events
    rw [aside.events]
    exact recorded.first
  · change ∀ entry ∈ s'.1.pump.uploads.jobs, concerned entry → Stored s'.2.events _
    rw [aside.uploads, aside.events]
    exact recorded.stored
  · change ∀ file ∈ s'.1.lastPersisted.map (·.file), Stored s'.2.events file
    rw [aside.persisted, aside.events]
    exact recorded.saved

theorem Stored.same {events : List Event} {file other : LogFileIdentity}
    (stored : Stored events file) (same : file.key = other.key) : Stored events other := by
  obtain ⟨event, member, stores⟩ := stored
  refine ⟨event, member, ?_⟩
  cases event with
  | loaded | saved =>
    obtain ⟨record, inside, matching⟩ := stores
    refine ⟨record, inside, ?_⟩
    rw [LogFileIdentity.beq_iff] at matching ⊢
    exact matching.trans same
  | _ => exact stores

/-- Equal lists have equal records. -/
theorem exists_beq {xs ys : List UploadJobRecord} (same : (xs == ys) = true) :
    ∀ x ∈ xs, ∃ y ∈ ys, (x == y) = true := by
  induction xs generalizing ys with
  | nil => exact fun _ member => absurd member List.not_mem_nil
  | cons x rest ih =>
    cases ys with
    | nil => cases same
    | cons y others =>
      obtain ⟨first, equal⟩ := Bool.and_eq_true_iff.mp same
      intro found member
      rcases List.mem_cons.mp member with rfl | later
      · exact ⟨y, List.mem_cons_self, first⟩
      · obtain ⟨other, inside, matching⟩ := ih equal found later
        exact ⟨other, List.mem_cons_of_mem _ inside, matching⟩

/-- Nothing is left to save. -/
theorem Recorded.settled {s : Ticking W} (recorded : Recorded Entry.parsed s)
    (same : (s.1.pump.uploads.history == s.1.lastPersisted) = true) : Recorded anyEntry s := by
  refine ⟨recorded.first, fun entry member _ => ?_, recorded.saved⟩
  obtain ⟨record, inside, equal⟩ := exists_beq same _ (List.mem_map_of_mem member)
  apply Stored.same (recorded.saved record.file (List.mem_map_of_mem inside))
  exact (UploadJobRecord.beq_iff.mp equal).1.symm

theorem save_recorded : Triple (Recorded (W := W) Entry.parsed)
    (fun s => save ports s.1.pump.uploads.history s)
    (fun _ => Recorded anyEntry) fun _ => Recorded Entry.parsed := by
  intro s recorded
  dsimp only [save]
  generalize JsonUploadHistoryStore.mergeAndSave _ _ _ _ _ = out
  obtain ⟨error | done, history, world⟩ := out
  · refine ⟨fun _ done => (by cases done), fun _ _ => ?_⟩
    apply Covered.fewer (Covered.elapse recorded world) _ rfl
    · simp [Event.isRequest]
    · exact fun entry member concerns => ⟨entry, member, concerns, rfl⟩
  · have stored (record : UploadJobRecord) (member : record ∈ s.1.pump.uploads.history)
        (trimmed : List UploadJobRecord) :
        Stored (s.2.events ++ [.saved s.1.pump.uploads.history trimmed]) record.file :=
      ⟨_, List.mem_append_right _ (List.mem_singleton_self _), record, member,
        LogFileIdentity.beq_iff.mpr rfl⟩
    refine ⟨fun _ _ => ⟨?_, fun entry member _ => ?_, fun file member => ?_⟩,
      fun _ failed => by cases failed⟩
    · exact recorded.first.quiet (by simp [Event.isRequest])
    · exact stored _ (List.mem_map_of_mem member) _
    · obtain ⟨record, inside, rfl⟩ := List.mem_map.mp member
      exact stored _ inside _

theorem recorded_rounds : Rounds ports (Recorded Entry.parsed) (Recorded anyEntry) where
  loosely _ _ aside recorded := recorded.aside aside
  closely _ _ aside recorded := recorded.aside aside
  relaxes _ recorded := recorded.parsed
  limits _ limit recorded := setHistoryLimit_covered recorded limit
  settled _ recorded same := recorded.settled same
  saves := save_recorded
  acts _ _ _ recorded churn := recorded.churned churn
  drains s recorded :=
    (recorded.churned (ApplicationPump.drainWork_churn ports.pump s.1.pump s.2).1).parsed
  pumps _ enabled recorded := pumpTick_covered recorded enabled
  cancels _ recorded := cancelAll_covered recorded

/-- What is restored is in the history that was loaded. -/
theorem restored_recorded {parts : RuntimeParts} {pump : ApplicationPump} {bundled : String}
    {selection : SessionLogSelection} {steady next : Instant} {world : W} {after : Tape W}
    (restored : parts.pump.restoreHistory parts.history.records
      (Tape.note ⟨world, []⟩ (.loaded parts.history.records)) = (.ok (), pump, after)) :
    Recorded Entry.parsed (fresh parts pump bundled selection steady next, after) := by
  have loaded : ∀ record ∈ parts.history.records,
      Stored [.loaded parts.history.records] record.file := fun record member =>
    ⟨_, List.mem_singleton_self _, record, member, LogFileIdentity.beq_iff.mpr rfl⟩
  unfold ApplicationPump.restoreHistory at restored
  split at restored
  · cases restored
  split at restored
  · cases restored
  next discovery _ uploads tape coordinator =>
    cases restored
    obtain ⟨_, _, jobs, entries, rfl, rfl⟩ := UploadCoordinator.restore_ok coordinator
    obtain ⟨each, _⟩ := UploadCoordinator.restoreJobs_ok entries
    constructor
    · have first : StoredFirst ([] ++ [.loaded parts.history.records]) :=
        StoredFirst.quiet eachAfter_nil (by simp [Event.isRequest])
      exact first.quiet (by simp [Event.isRequest])
    · intro entry member _
      obtain ⟨record, inside, _, id, found⟩ := exists_of_forall₂ each member
      rw [(UploadJob.restore_ok found).2]
      exact (loaded record (List.mem_of_mem_drop inside)).append _
    · intro file member
      obtain ⟨record, inside, rfl⟩ := List.mem_map.mp member
      exact (loaded record inside).append _

/-- A provider is asked for a log only once the history was loaded or saved with it, if only to
trim it. -/
theorem requests_recorded [DecidableEq V] {parts : RuntimeParts} {bundled : String}
    {runtime : ApplicationRuntime} {world : W} {tape : Tape W} {s : Ticking W}
    (started : startUp ports parts bundled ⟨world, []⟩ = (.ok runtime, tape))
    (run : Run (perform ports) (fun _ _ => True) (runtime, tape) s) : StoredFirst s.2.events :=
  (run_keeps recorded_rounds started (fun _ _ _ _ _ => restored_recorded) run).first

section samples

def idleOptions : RuntimeOptions Unit where
  configuration := sampleConfiguration.snapshot
  workflows := ({
    state := .unverified, apiBaseUrl := defaultDonbotApi, accountName := none
    discordSummaryDeliveryV1 := false, discordAggregateDeliveryV1 := false, guilds := []
    selectedGuildId := "", diagnostic := none, refreshing := false, revision := 1
    shuttingDown := false }, ())
  lastError := none
  pendingCommands := 0
  revision := 1
  acceptingCommands := true
  shuttingDown := false

def idleSnapshot : RuntimeSnapshot Unit where
  options := idleOptions
  jobs := []
  recentActions := ⟨none, 0, 1, true, false⟩
  aggregate := DonBotAggregateDeliveryController.new.snapshot
  selection := .new .unixEpoch ⟨0⟩
  rootAvailable := false
  sourceIssues := []
  historyRecovery := none
  diagnostic := none
  revision := 1
  shuttingDown := false

/-- Surroundings in which these actions of the user wait, and one log is in the directory. -/
def clickPorts (json : JsonCodec) : RuntimePorts Unit (List RecentLogAction) where
  pump := {
    uploads := acceptingPorts
    parser := {
      updateQueueCapacity _ world := (.ok (), world), enqueue _ world := (.ok (), world)
      availableCapacity world := (.ok 8, world), tryTakeResult world := (.ok none, world)
      cancelPending world := world }
    source := {
      poll world := (.ok {
        rootAvailable := true, scanComplete := true, observations := [sampleLog 1]
        removedPaths := []
        issues := [] }, world)
      reconfigure _ world := (.ok (), world), isStopRequested world := (false, world) } }
  options := {
    tick _ := pure false, snapshot _ := idleOptions, refreshDonBot world := (.ok (), world)
    startSavedConnections _ world := (.ok none, world), shutdown world := world
    shutdownWorkflows world := world }
  actions := {
    beginTick world := (.ok world.length, world), nextCommand world := (world.head?, world.tail)
    finishCommand _ world := world, endTick world := world, snapshot _ := ⟨none, 0, 1, true, false⟩ }
  launcher := { openUrl _ world := (.ok (), world), openDirectory _ world := (.ok (), world) }
  aggregate := {
    enqueue _ world := (.ok (), world), tryTakeResult world := (.ok none, world)
    cancelPending world := world }
  handle := {
    requestedSelection _ := .new, takeAggregate world := (none, world), waitingAggregate _ := none
    accepting _ := true, closeAdmission world := world, shown _ := idleSnapshot
    replaceShown _ world := world }
  json
  files := { read _ _ _ := .ok none, writeAtomic _ _ world := (.ok (), world) }
  configuration _ := some sampleConfiguration
  shutdownConfiguration world := world
  setClientId _ world := (.ok (), world)
  systemNow _ := .unixEpoch
  steadyNow _ := ⟨0⟩

def retriableRecord : UploadJobRecord :=
  { sampleRecord 1 "Queued" with encounterMetadata := some sampleMetadata }

theorem retriableRecord_valid : validateRecords [retriableRecord] 2 = .ok () := by decide

def retriableParts : RuntimeParts where
  pump := narrowPump
  aggregate := .new
  history := {
    path := ⟨utf8 "C:\\addon\\upload-history.json"⟩, capacity := 2, records := [retriableRecord]
    recovery := none, valid := retriableRecord_valid }

/-- The user retries a log of the last session. -/
theorem requests_recorded_sample : ∃ runtime tape,
    startUp (clickPorts sampleJson) retriableParts "" ⟨[.retry sampleJobId .dpsReport], []⟩ =
        (.ok runtime, tape) ∧
      StoredFirst (perform (clickPorts sampleJson) (runtime, tape) .tick).2.events ∧
      (perform (clickPorts sampleJson) (runtime, tape) .tick).2.events.any Event.isRequest = true := by
  have asks : ((startUp (clickPorts sampleJson) retriableParts ""
      ⟨[.retry sampleJobId .dpsReport], []⟩).1.toOption.map fun runtime =>
        (perform (clickPorts sampleJson) (runtime, (startUp (clickPorts sampleJson) retriableParts ""
          ⟨[.retry sampleJobId .dpsReport], []⟩).2) RuntimeOp.tick).2.events.any Event.isRequest) =
            some true := by
    decide +kernel
  generalize started : startUp (clickPorts sampleJson) retriableParts ""
    ⟨[.retry sampleJobId .dpsReport], []⟩ = out at asks
  obtain ⟨error | runtime, tape⟩ := out
  · cases asks
  · exact ⟨runtime, tape, rfl, requests_recorded started (Run.step RuntimeOp.tick .refl trivial),
      Option.some.inj asks⟩

end samples

end ApplicationRuntime
end MannyUploader.Application
