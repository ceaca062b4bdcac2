import MannyUploader.Application.ApplicationPump
import MannyUploader.Application.AttemptLedger

/-! Every operation of the pump as a sequence of moves. A move works on the coordinator
behind the pump, changes what discovery remembers, or admits a file that discovery did not
remember. -/
namespace MannyUploader.Application
open Domain Foundation Relation

section files
variable {ports : UploadPorts W} {revivable : UploadJobId → Provider → UploadIntent → Prop}

theorem Move.file {s s' : Entry × Tape W} (move : Move revivable s s') :
    s'.1.job.record.file = s.1.job.record.file := by
  cases move with
  | accepted provider world offer => obtain ⟨_, -, rfl⟩ := offer.activated; rfl
  | rejected provider error world offer => obtain ⟨_, -, rfl⟩ := offer.activated; rfl
  | received result next detail named active current recorded => exact recorded.same.2.1
  | rearmed provider => exact Entry.armed_file _ provider
  | reset provider => exact Entry.redeliver_file _ provider
  | rechatted => exact Entry.redeliver_file _ .twitch
  | _ => rfl

theorem EntryStep.file {installed : Provider → Bool} {s s' : Entry × Tape W}
    (step : EntryStep ports installed revivable s s') :
    s'.1.job.record.file = s.1.job.record.file := by
  have moves := step.moves
  clear step
  induction moves with
  | refl => rfl
  | tail _ last ih => exact last.file.trans ih

/-- Nothing but an admission or a restore brings in a file. -/
theorem Churn.files {s s' : Running W} (churn : Churn ports revivable s s') :
    s'.1.files.Sublist s.1.files := by
  cases churn with
  | worked _ found step =>
    have same := step.file
    simp only [UploadCoordinator.files, found, List.map_append, List.map_cons] at same ⊢
    rw [same]
  | evicted found _ => simp [UploadCoordinator.files, found]
  | adjusted => exact .refl _
  | elapsed => exact .refl _
  | stopped => simp [UploadCoordinator.files, Function.comp_def]

/-- What the coordinator notes between two admissions. -/
def Event.isWork : Event → Bool
  | .enqueued .. | .applied _ | .evicted _ => true
  | _ => false

theorem Move.events {s s' : Entry × Tape W} (move : Move revivable s s') :
    ∃ more, s'.2.events = s.2.events ++ more ∧ ∀ event ∈ more, event.isWork = true := by
  cases move with
  | accepted => exact ⟨_, rfl, by simp [Event.isWork]⟩
  | rejected => exact ⟨_, rfl, by simp [Event.isWork]⟩
  | received => exact ⟨_, rfl, by simp [Event.isWork]⟩
  | _ => exact ⟨[], (List.append_nil _).symm, by simp⟩

theorem append_work {S : Type*} {move : S → S → Prop} (events : S → List Event) {s s' : S}
    (moves : ReflTransGen move s s')
    (one : ∀ s s', move s s' →
      ∃ more, events s' = events s ++ more ∧ ∀ event ∈ more, event.isWork = true) :
    ∃ more, events s' = events s ++ more ∧ ∀ event ∈ more, event.isWork = true := by
  induction moves with
  | refl => exact ⟨[], (List.append_nil _).symm, by simp⟩
  | tail _ last ih =>
    obtain ⟨more, noted, work⟩ := ih
    obtain ⟨more', noted', work'⟩ := one _ _ last
    refine ⟨more ++ more', by rw [noted', noted, List.append_assoc], fun event member => ?_⟩
    exact (List.mem_append.mp member).elim (work event) (work' event)

theorem Churn.events {s s' : Running W} (churn : Churn ports revivable s s') :
    ∃ more, s'.2.events = s.2.events ++ more ∧ ∀ event ∈ more, event.isWork = true := by
  cases churn with
  | worked _ _ step => exact append_work (·.2.events) step.moves fun _ _ move => move.events
  | evicted => exact ⟨_, rfl, by simp [Event.isWork]⟩
  | _ => exact ⟨[], (List.append_nil _).symm, by simp⟩

theorem Churn.events_of_many {s s' : Running W}
    (churn : ReflTransGen (Churn ports revivable) s s') :
    ∃ more, s'.2.events = s.2.events ++ more ∧ ∀ event ∈ more, event.isWork = true :=
  append_work (·.2.events) churn fun _ _ churn => churn.events

@[simp] theorem enrol_files (s : Running W) (job : UploadJob) :
    (enrol s job).1.files = s.1.files ++ [job.record.file] := by
  simp [UploadCoordinator.files, enrol, Entry.new]

theorem Admits.file {s : Running W} {file : LogFileIdentity} {enabled : ProviderSelection}
    {job : UploadJob} (h : Admits ports s file enabled job) : job.record.file = file := by
  obtain ⟨-, next, id, -, -, created⟩ := h
  obtain ⟨-, -, rfl⟩ := UploadJob.new_ok created
  rfl

end files

/-- The pump never restricts what a retry may take up. -/
def anyIntent (_ : UploadJobId) (_ : Provider) (_ : UploadIntent) : Prop := True

/-- `restorable` restricts the histories that a restore may bring in. -/
inductive PumpMove (ports : PumpPorts W) (restorable : List UploadJobRecord → Prop) :
    Pumping W → Pumping W → Prop
  | idled {pump pump' : ApplicationPump} {tape : Tape W} : pump'.uploads = pump.uploads →
      pump'.discovery.accepted = pump.discovery.accepted →
      pump'.discovery.known = pump.discovery.known →
      PumpMove ports restorable (pump, tape) (pump', tape)
  | worked {pump : ApplicationPump} {tape tape' : Tape W} {uploads : UploadCoordinator} :
      Churn ports.uploads anyIntent (pump.uploads, tape) (uploads, tape') →
      PumpMove ports restorable (pump, tape) (pump.withUploads uploads, tape')
  | remembered {pump : ApplicationPump} {tape : Tape W} (file : LogFileIdentity) :
      LogDiscovery.validate file = .ok () → pump.discovery.isKnown file = false →
      PumpMove ports restorable (pump, tape)
        ({ pump with discovery := pump.discovery.remember file }, pump.noteForgotten [file] tape)
  | refused {pump : ApplicationPump} {tape : Tape W} (file : LogFileIdentity) :
      LogDiscovery.validate file = .ok () → pump.discovery.isKnown file = false →
      PumpMove ports restorable (pump, tape)
        ({ pump with discovery := (pump.discovery.remember file).release file },
          pump.noteForgotten [file] tape)
  | submitted {pump : ApplicationPump} {tape : Tape W} {s : Running W} {job : UploadJob}
      (file : LogFileIdentity) (enabled : ProviderSelection) :
      LogDiscovery.validate file = .ok () → pump.discovery.isKnown file = false →
      ReflTransGen (Churn ports.uploads anyIntent)
        (pump.uploads, pump.noteForgotten [file] tape) s →
      Admits ports.uploads s file enabled job →
      PumpMove ports restorable (pump, tape)
        ({ pump.withUploads (enrol s job).1 with discovery := pump.discovery.remember file },
          (enrol s job).2)
  | restored {pump : ApplicationPump} {tape tape' : Tape W} {c : UploadCoordinator}
      {discovery : LogDiscovery} (records : List UploadJobRecord) : restorable records →
      pump.seedHistory records = .ok discovery →
      pump.uploads.restore records tape = (.ok (), c, tape') →
      PumpMove ports restorable (pump, tape) ({ pump.withUploads c with discovery }, tape')

theorem PumpMove.events {ports : PumpPorts W} {restorable : List UploadJobRecord → Prop}
    {s s' : Pumping W} (move : PumpMove ports restorable s s') :
    ∃ more, s'.2.events = s.2.events ++ more := by
  cases move with
  | idled => exact ⟨[], (List.append_nil _).symm⟩
  | worked churn =>
    obtain ⟨more, events, -⟩ := churn.events
    exact ⟨more, events⟩
  | remembered => exact ⟨_, rfl⟩
  | refused => exact ⟨_, rfl⟩
  | @submitted pump tape _ job file enabled _ _ churn =>
    obtain ⟨more, events, -⟩ := Churn.events_of_many churn
    refine ⟨(ApplicationPump.forgotten pump.discovery [file]).map
      (fun oldest => .forgot oldest pump.uploads.files) ++ (more ++ [.admitted job]), ?_⟩
    rw [enrol, Tape.note_events, events, ApplicationPump.noteForgotten, Tape.noteAll_events,
      List.append_assoc, List.append_assoc]
  | restored records _ _ restored =>
    obtain ⟨-, -, jobs, -, -, rfl⟩ := UploadCoordinator.restore_ok restored
    exact ⟨_, rfl⟩

/-- A history must be restorable; everything else the owner may do at any time. -/
def PumpOp.Guarded (restorable : List UploadJobRecord → Prop) : PumpOp W → Prop
  | .restoreHistory records => restorable records
  | _ => True

theorem Ledger.forgot {c : UploadCoordinator} {tape : Tape W} (h : Ledger (c, tape))
    (gone : List LogFileIdentity) (retained : List LogFileIdentity) :
    Ledger (c, tape.noteAll (gone.map fun oldest => .forgot oldest retained)) := by
  have accepted : acceptedAttempts (gone.map fun oldest => Event.forgot oldest retained) = [] :=
    List.filterMap_eq_nil_iff.mpr (by simp [Event.acceptedAttempt])
  have applied : appliedAttempts (gone.map fun oldest => Event.forgot oldest retained) = [] :=
    List.filterMap_eq_nil_iff.mpr (by simp [Event.appliedAttempt])
  have accepted' : acceptedAttempts (tape.noteAll (gone.map fun oldest =>
      .forgot oldest retained)).events = acceptedAttempts tape.events := by
    rw [Tape.noteAll_events, acceptedAttempts_append, accepted, List.append_nil]
  have applied' : appliedAttempts (tape.noteAll (gone.map fun oldest =>
      .forgot oldest retained)).events = appliedAttempts tape.events := by
    rw [Tape.noteAll_events, appliedAttempts_append, applied, List.append_nil]
  refine ⟨⟨?_, ?_, ?_⟩, h.numbered, fun next counted => ?_, fun running entry member => ?_,
    fun running => ?_⟩
  · rw [accepted']; exact h.laws.increasing
  · rw [applied']; exact h.laws.once
  · rw [accepted', applied']; exact h.laws.sourced
  · rw [accepted']; exact h.counter next counted
  · exact (h.recounted running entry member).frame (by simp [accepted, applied])
  · rw [accepted', applied']; exact h.retained running

theorem Ledger.churn {ports : UploadPorts W} {s s' : Running W}
    (churn : ReflTransGen (Churn ports anyIntent) s s') (h : Ledger s) : Ledger s' := by
  induction churn with
  | refl => exact h
  | tail _ last ih => exact ih.step (.churned last : Step ports anyIntent (fun _ => True) _ _)

theorem Ledger.enrol {ports : UploadPorts W} {s : Running W} {file : LogFileIdentity}
    {enabled : ProviderSelection} {job : UploadJob} (h : Ledger s)
    (admits : Admits ports s file enabled job) : Ledger (enrol s job) :=
  h.step (admits.step : Step ports anyIntent (fun _ => True) _ _)

theorem PumpOp.unguarded (op : PumpOp W) : op.Guarded fun _ => True := by
  cases op <;> trivial

/-- The account of the attempts survives every move of the pump. -/
theorem PumpMove.ledger {ports : PumpPorts W} {restorable : List UploadJobRecord → Prop}
    {s s' : Pumping W} (move : PumpMove ports restorable s s') (h : Ledger (s.1.uploads, s.2)) :
    Ledger (s'.1.uploads, s'.2) := by
  cases move with
  | idled same => dsimp only; rw [same]; exact h
  | worked churn => exact h.churn (.single churn)
  | remembered => exact h.forgot _ _
  | refused => exact h.forgot _ _
  | submitted file enabled _ _ churn admits =>
    exact ((h.forgot _ _).churn churn).enrol admits
  | @restored pump tape tape' c discovery records _ _ restored =>
    have step := UploadCoordinator.restore_step ports.uploads anyIntent (fun _ => True)
      pump.uploads tape records (by simp)
    rw [restored] at step
    rcases step with same | step
    · cases same; exact h
    · exact h.step step

theorem Admits.awaitsMetadata {ports : UploadPorts W} {s : Running W} {file : LogFileIdentity}
    {enabled : ProviderSelection} {job : UploadJob} (h : Admits ports s file enabled job) :
    (Entry.new job true).awaitsMetadata = true := by
  obtain ⟨-, next, id, -, -, fresh⟩ := h
  obtain ⟨-, -, rfl⟩ := UploadJob.new_ok fresh
  simp only [Entry.awaitsMetadata, Entry.new, Option.isNone_none, Bool.and_self, Bool.true_and,
    List.all_eq_true]
  intro provider _
  simp only [Entry.state, UploadJob.providerStatus, ProviderStatus.initial]
  split <;> simp

namespace UploadCoordinator
variable {c : UploadCoordinator} {tape : Tape W} {before after : List Entry}

theorem index_of_member (h : Ledger (c, tape)) {entry : Entry} (member : entry ∈ c.jobs) :
    ∃ before after, c.index entry.job.id = .ok (before, entry, after) := by
  obtain ⟨before, found, after, split⟩ := splitFirst_isSome
    (p := fun other => other.job.id = entry.job.id) member (by simp)
  obtain ⟨jobs, named, -⟩ := splitFirst_eq_some split
  have same : found = entry := h.distinct (by simp [jobs]) member (by simpa using named)
  subst same
  refine ⟨before, after, ?_⟩
  unfold index
  rw [split]

/-- Giving up on the metadata of a job that awaits it cannot fail. -/
theorem failMetadata_ok (h : Ledger (c, tape)) (running : c.stopping = false) {entry : Entry}
    (member : entry ∈ c.jobs) (awaits : entry.awaitsMetadata = true) (cancelled : Bool) :
    (c.failMetadata entry.job.id cancelled tape).1 = .ok () := by
  obtain ⟨before, after, indexed⟩ := index_of_member h member
  unfold failMetadata requireRunning pendingIndex
  simp [running, indexed, awaits, Entry.failMetadata_eq, bind, Except.bind]

end UploadCoordinator

namespace LogIngestionCoordinator
variable {i : LogIngestionCoordinator} {ports : UploadPorts W} {parser : ParserPorts W}
  {tape : Tape W}

/-- What `submit` can come to. -/
inductive Submitted (i : LogIngestionCoordinator) (ports : UploadPorts W) (tape : Tape W)
    (file : LogFileIdentity) (enabled : ProviderSelection) :
    Except IngestionError UploadJobId × LogIngestionCoordinator × Tape W → Prop
  | refused (error : IngestionError) (world : W) :
      Submitted i ports tape file enabled (.error error, i, { tape with world })
  | admitted {s : Running W} {c : UploadCoordinator} {tape' : Tape W} {job : UploadJob}
      (pending : Finset UploadJobId) :
      ReflTransGen (Churn ports anyIntent) (i.uploads, tape) s → Admits ports s file enabled job →
      ReflTransGen (Churn ports anyIntent) (enrol s job) (c, tape') →
      Submitted i ports tape file enabled (.ok job.id, { i with uploads := c, pending }, tape')

variable (ports parser) in
/-- A refusal by the parser after the capacity check ends in a failed job, never in an error. -/
theorem submit_cases (h : Ledger (i.uploads, tape)) (file : LogFileIdentity)
    (enabled : ProviderSelection) :
    Submitted i ports tape file enabled (i.submit ports parser file enabled tape) := by
  unfold submit
  split
  · exact .refused _ tape.world
  rename_i running
  unfold availableCapacity
  rw [if_neg running]
  generalize parser.availableCapacity tape.world = answer
  obtain ⟨capacity | capacity, world⟩ := answer
  · exact .refused _ world
  dsimp only
  split
  · exact .refused _ world
  have elapsed : Churn ports anyIntent (i.uploads, tape) (i.uploads, { tape with world }) :=
    .elapsed world
  rcases UploadCoordinator.addPending_cases ports anyIntent i.uploads { tape with world } file
    enabled with ⟨error, refused⟩ | ⟨s, job, churned, admits, admitted⟩
  · rw [refused]
    exact .refused _ world
  rw [admitted]
  have churned := ReflTransGen.head elapsed churned
  have ledger := (h.churn churned).enrol admits
  change Submitted i ports tape file enabled
    ({ i with uploads := (enrol s job).1 }.requestMetadata parser ⟨job.id, file⟩ (enrol s job).2)
  unfold requestMetadata
  generalize parser.enqueue ⟨job.id, file⟩ (enrol s job).2.world = answer
  obtain ⟨refusal | accepted, world'⟩ := answer
  · have waiting : Ledger ((enrol s job).1, { (enrol s job).2 with world := world' }) :=
      ledger.churn (.single (.elapsed world') : ReflTransGen (Churn ports anyIntent) _ _)
    have failed := UploadCoordinator.failMetadata_ok waiting admits.running
      (show Entry.new job true ∈ _ by simp [enrol]) admits.awaitsMetadata false
    have churn : ReflTransGen (Churn ports anyIntent)
        ((enrol s job).1, { (enrol s job).2 with world := world' })
        ((enrol s job).1.failMetadata job.id false { (enrol s job).2 with world := world' }).2 :=
      UploadCoordinator.failMetadata_churn false
    change ((enrol s job).1.failMetadata job.id false _).1 = _ at failed
    dsimp only
    generalize (enrol s job).1.failMetadata job.id false _ = out at failed churn
    obtain ⟨result, c, tape'⟩ := out
    obtain rfl : result = .ok () := failed
    exact .admitted i.pending churned admits (.head (.elapsed world') churn)
  · exact .admitted _ churned admits (.single (.elapsed world'))

/-- A question to the parser changes nothing but the outside world. -/
theorem availableCapacity_tape (i : LogIngestionCoordinator) (parser : ParserPorts W)
    (tape : Tape W) : ∃ world, (i.availableCapacity parser tape).2 = { tape with world } := by
  unfold availableCapacity
  split
  · exact ⟨_, rfl⟩
  · split <;> exact ⟨_, rfl⟩

variable (ports) in
theorem handOver_churn (uploads : UploadCoordinator) (result : MetadataResult) (tape : Tape W) :
    ReflTransGen (Churn ports anyIntent) (uploads, tape)
      (handOver uploads ports result tape).2 := by
  unfold handOver
  split
  · exact UploadCoordinator.setMetadata_churn _
  · exact UploadCoordinator.failMetadata_churn _

variable (i ports tape) in
theorem handleResult_churn (result : MetadataResult) :
    ReflTransGen (Churn ports anyIntent) (i.uploads, tape)
      ((i.handleResult ports result tape).2.1.uploads, (i.handleResult ports result tape).2.2) := by
  unfold handleResult
  split
  · exact .refl
  split
  · exact .refl
  have churn := handOver_churn ports i.uploads result tape
  generalize handOver i.uploads ports result tape = out at churn ⊢
  obtain ⟨answer | answer, c, tape'⟩ := out <;> exact churn

variable (i ports parser tape) in
theorem drainLoop_churn (budget : Nat) (summary : MetadataDrainSummary) :
    ReflTransGen (Churn ports anyIntent) (i.uploads, tape)
      ((drainLoop ports parser budget summary i tape).2.1.uploads,
        (drainLoop ports parser budget summary i tape).2.2) := by
  induction budget generalizing summary i tape with
  | zero => exact .refl
  | succ budget ih =>
    unfold drainLoop
    split
    · rename_i result world _
      exact .head (.elapsed world)
        ((handleResult_churn i ports { tape with world } result).trans (ih _ _ _))
    · exact .single (.elapsed _)
    · exact .single (.elapsed _)

variable (i ports parser tape) in
theorem drainMetadata_churn (maxResults : Nat) :
    ReflTransGen (Churn ports anyIntent) (i.uploads, tape)
      ((i.drainMetadata ports parser maxResults tape).2.1.uploads,
        (i.drainMetadata ports parser maxResults tape).2.2) := by
  unfold drainMetadata
  split
  · exact .refl
  · exact drainLoop_churn i ports parser tape maxResults _

variable (i ports parser tape) in
theorem cancelAll_churn :
    ReflTransGen (Churn ports anyIntent) (i.uploads, tape)
      ((i.cancelAll ports parser tape).1.uploads, (i.cancelAll ports parser tape).2) := by
  unfold cancelAll
  split
  · exact .refl
  · exact .head (.elapsed _) UploadCoordinator.cancelAll_churn

end LogIngestionCoordinator

theorem CoordinatorOp.plain {op : CoordinatorOp W} (plain : op.admitsJobs = false) :
    (∀ file enabled, op ≠ .addPending file enabled) ∧ ∀ records, op ≠ .restore records := by
  constructor
  · rintro file enabled rfl
    cases plain
  · rintro records rfl
    cases plain

namespace ApplicationPump
variable {ports : PumpPorts W} {restorable : List UploadJobRecord → Prop}
  {pump pump' : ApplicationPump} {tape tape' : Tape W}

/-- Work on the coordinator that leaves the memory of discovery alone. -/
theorem moves_of_churn (churn : ReflTransGen (Churn ports.uploads anyIntent)
    (pump.uploads, tape) (pump'.uploads, tape'))
    (accepted : pump'.discovery.accepted = pump.discovery.accepted)
    (known : pump'.discovery.known = pump.discovery.known) :
    ReflTransGen (PumpMove ports restorable) (pump, tape) (pump', tape') := by
  have lifted : ∀ s' : Running W,
      ReflTransGen (Churn ports.uploads anyIntent) (pump.uploads, tape) s' →
      ReflTransGen (PumpMove ports restorable) (pump, tape) (pump.withUploads s'.1, s'.2) := by
    intro s' churn
    induction churn with
    | refl => exact .refl
    | tail _ last ih => exact ih.tail (.worked last)
  exact (lifted _ churn).tail (.idled rfl accepted known)

variable (ports restorable pump tape) in
theorem elapse_moves (world : W) :
    ReflTransGen (PumpMove ports restorable) (pump, tape) (pump, { tape with world }) :=
  moves_of_churn (.single (.elapsed world)) rfl rfl

variable (ports pump tape) in
theorem drainWork_churn :
    ReflTransGen (Churn ports.uploads anyIntent) (pump.uploads, tape)
      ((pump.drainWork ports tape).2.1.uploads, (pump.drainWork ports tape).2.2) ∧
    (pump.drainWork ports tape).2.1.discovery = pump.discovery := by
  unfold drainWork
  split
  · exact ⟨.refl, rfl⟩
  split
  · exact ⟨.single (.elapsed _), rfl⟩
  rename_i world _
  refine ⟨ReflTransGen.head (.elapsed world) ?_, rfl⟩
  refine (LogIngestionCoordinator.drainMetadata_churn pump.ingestion ports.uploads ports.parser
    { tape with world } pump.options.maxMetadataResults).trans ?_
  exact (UploadCoordinator.drainResults_churn _).trans (UploadCoordinator.dispatchDueRetries_churn _)

variable (ports restorable pump tape) in
theorem drainWork_moves :
    ReflTransGen (PumpMove ports restorable) (pump, tape) (pump.drainWork ports tape).2 := by
  obtain ⟨churn, same⟩ := drainWork_churn ports pump tape
  exact moves_of_churn churn (by rw [same]) (by rw [same])

theorem observe_moves (h : Ledger (pump.uploads, tape)) (enabled : ProviderSelection)
    (observation : LogFileIdentity) :
    ReflTransGen (PumpMove ports restorable) (pump, tape)
      (pump.observe ports enabled observation tape).2 := by
  unfold observe
  split
  · exact .refl
  · rename_i discovery waits
    obtain ⟨accepted, known⟩ := LogDiscovery.observe_waits waits
    exact moves_of_churn .refl accepted known
  · rename_i file discovery accepts
    obtain ⟨rfl, valid, fresh, rfl⟩ := LogDiscovery.observe_accepts accepts
    have cases := LogIngestionCoordinator.submit_cases ports.uploads ports.parser
      (h.forgot (forgotten pump.discovery [file]) pump.uploads.files) file enabled
    change LogIngestionCoordinator.Submitted _ _ (pump.noteForgotten [file] tape) _ _
      (pump.ingestion.submit ports.uploads ports.parser file enabled
        (pump.noteForgotten [file] tape)) at cases
    generalize pump.ingestion.submit ports.uploads ports.parser file enabled
      (pump.noteForgotten [file] tape) = out at cases
    cases cases with
    | refused error world =>
      exact .head (.refused file valid fresh) (moves_of_churn (.single (.elapsed world)) rfl rfl)
    | admitted pending churned admits later =>
      exact .head (.submitted file enabled valid fresh churned admits)
        (moves_of_churn later rfl rfl)

theorem ledger_of_moves {s s' : Pumping W}
    (moves : ReflTransGen (PumpMove ports restorable) s s') (h : Ledger (s.1.uploads, s.2)) :
    Ledger (s'.1.uploads, s'.2) := by
  induction moves with
  | refl => exact h
  | tail _ last ih => exact last.ledger ih

theorem observeAll_moves (h : Ledger (pump.uploads, tape)) (enabled : ProviderSelection)
    (observations : List LogFileIdentity) (report : TickReport) :
    ReflTransGen (PumpMove ports restorable) (pump, tape)
      (observeAll ports enabled observations report pump tape).2 := by
  induction observations generalizing report pump tape with
  | nil => exact .refl
  | cons observation rest ih =>
    unfold observeAll
    split
    · exact elapse_moves _ _ _ _ _
    rename_i world _
    obtain ⟨world', asked⟩ := pump.ingestion.availableCapacity_tape ports.parser
      { tape with world }
    generalize pump.ingestion.availableCapacity ports.parser { tape with world } = answer at asked
    obtain ⟨capacity | capacity, tape'⟩ := answer
    · rw [show tape' = _ from asked]
      exact elapse_moves _ _ _ _ _
    have elapsed := elapse_moves ports restorable pump tape world'
    obtain rfl : tape' = { tape with world := world' } := asked
    dsimp only
    split
    · exact elapsed
    have observed := elapsed.trans (observe_moves (ledger_of_moves elapsed h) enabled observation)
    generalize pump.observe ports enabled observation { tape with world := world' } = out at observed
    obtain ⟨error | submitted, pump', tape''⟩ := out
    · exact observed
    · exact observed.trans (ih (ledger_of_moves observed h) _)

theorem tick_moves (h : Ledger (pump.uploads, tape)) (enabled : ProviderSelection) :
    ReflTransGen (PumpMove ports restorable) (pump, tape) (pump.tick ports enabled tape).2 := by
  unfold tick
  have drained := drainWork_moves ports restorable pump tape
  generalize pump.drainWork ports tape = out at drained
  obtain ⟨error | report, pump', tape'⟩ := out
  · exact drained
  dsimp only
  split
  · exact drained.trans (elapse_moves _ _ _ _ _)
  rename_i batch world _
  have forgets : ∀ paths : List PathBuf,
      (paths.foldl LogDiscovery.forgetPending pump'.discovery).accepted =
        pump'.discovery.accepted ∧
      (paths.foldl LogDiscovery.forgetPending pump'.discovery).known = pump'.discovery.known := by
    intro paths
    induction paths using List.reverseRecOn with
    | nil => exact ⟨rfl, rfl⟩
    | append_singleton paths path ih => rwa [List.foldl_append]
  obtain ⟨accepted, known⟩ := forgets batch.removedPaths
  have polled : ReflTransGen (PumpMove ports restorable) (pump, tape)
      ({ pump' with discovery :=
          batch.removedPaths.foldl LogDiscovery.forgetPending pump'.discovery },
        { tape' with world }) :=
    drained.trans (moves_of_churn (.single (.elapsed world)) accepted known)
  exact polled.trans (observeAll_moves (ledger_of_moves polled h) enabled _ _)

theorem restoreHistory_moves {records : List UploadJobRecord} (guard : restorable records) :
    ReflTransGen (PumpMove ports restorable) (pump, tape)
      (pump.restoreHistory records tape).2 := by
  unfold restoreHistory
  split
  · exact .refl
  rename_i discovery seeded
  cases restored : pump.uploads.restore records tape with
  | mk result out =>
    obtain ⟨c, tape'⟩ := out
    cases result with
    | error error =>
      obtain ⟨rfl, rfl⟩ := UploadCoordinator.restore_error restored
      exact .refl
    | ok => exact .single (.restored records guard seeded restored)

theorem mapErr_ok {wrap : ε → δ} {result : Except ε α} {value : α}
    (h : mapErr wrap result = .ok value) : result = .ok value := by
  cases result with
  | error error => cases h
  | ok found => cases h; rfl

/-- The discovery of a restored history starts empty. -/
theorem seedHistory_ok {records : List UploadJobRecord} {discovery : LogDiscovery}
    (h : pump.seedHistory records = .ok discovery) :
    pump.stopping = false ∧ records.length ≤ pump.options.historyLimit ∧
      ∃ empty : LogDiscovery, empty.accepted = [] ∧ empty.known = [] ∧
        empty.historyLimit = pump.options.historyLimit ∧
        discovery = (records.map (·.file)).foldl LogDiscovery.remember empty := by
  unfold seedHistory at h
  split at h
  · cases h
  rename_i running
  split at h
  · cases h
  rename_i few
  obtain ⟨empty, created, h⟩ := bind_ok h
  have seeded := mapErr_ok h
  unfold LogDiscovery.seed at seeded
  split at seeded
  · cases seeded
  obtain ⟨_, -, seeded⟩ := bind_ok seeded
  cases seeded
  have created := mapErr_ok created
  unfold LogDiscovery.new at created
  split at created
  · cases created
    exact ⟨by simpa using running, by omega, _, rfl, rfl, rfl, rfl⟩
  · cases created

theorem new_ok {ingestion : LogIngestionCoordinator} {options : PumpOptions}
    (h : new ingestion options = .ok pump) :
    pump.ingestion = ingestion ∧ pump.discovery.accepted = [] ∧ pump.discovery.known = [] ∧
      pump.stopping = false ∧ pump.options = options := by
  unfold new at h
  split at h
  · cases h
  obtain ⟨discovery, created, h⟩ := bind_ok h
  have created := mapErr_ok created
  cases h
  unfold LogDiscovery.new at created
  split at created
  · cases created; exact ⟨rfl, rfl, rfl, rfl, rfl⟩
  · cases created

theorem rememberAll_moves (files : List LogFileIdentity)
    (valid : ∀ file ∈ files, LogDiscovery.validate file = .ok ()) :
    ReflTransGen (PumpMove ports restorable) (pump, tape)
      ({ pump with discovery := files.foldl LogDiscovery.remember pump.discovery },
        pump.noteForgotten files tape) := by
  induction files generalizing pump tape with
  | nil => simp only [noteForgotten, forgotten, List.map_nil, Tape.noteAll, List.append_nil]; exact .refl
  | cons file rest ih =>
    have valid' : ∀ other ∈ rest, LogDiscovery.validate other = .ok () :=
      fun other member => valid other (by simp [member])
    cases known : pump.discovery.isKnown file with
    | true =>
      have same : pump.discovery.remember file = pump.discovery := by
        rw [LogDiscovery.remember, if_pos known]
      have gone : forgotten pump.discovery (file :: rest) = forgotten pump.discovery rest := by
        rw [forgotten, if_pos known, same, List.nil_append]
      rw [List.foldl_cons, same, noteForgotten, gone]
      exact ih valid'
    | false =>
      refine .head (.remembered file (valid file (by simp)) known) ?_
      have notes : pump.noteForgotten (file :: rest) tape =
          ApplicationPump.noteForgotten
            { pump with discovery := pump.discovery.remember file } rest
            (pump.noteForgotten [file] tape) := by
        simp [noteForgotten, forgotten, known, Tape.noteAll, uploads]
      rw [notes]
      exact ih valid'

theorem seedProcessedLogs_moves (files : List LogFileIdentity) :
    ReflTransGen (PumpMove ports restorable) (pump, tape)
      (pump.seedProcessedLogs files tape).2 := by
  unfold seedProcessedLogs
  split
  · exact .refl
  split
  · exact .refl
  rename_i discovery seeded
  unfold LogDiscovery.seed at seeded
  split at seeded
  · cases seeded
  obtain ⟨_, valid, seeded⟩ := bind_ok seeded
  cases seeded
  exact rememberAll_moves files (LogDiscovery.validate_of_forM valid)

theorem cancelAll_moves :
    ReflTransGen (PumpMove ports restorable) (pump, tape) (pump.cancelAll ports tape) := by
  unfold cancelAll
  split
  · exact .refl
  exact moves_of_churn
    (LogIngestionCoordinator.cancelAll_churn pump.ingestion ports.uploads ports.parser tape) rfl rfl

theorem command_moves (op : CoordinatorOp W) (plain : op.admitsJobs = false) :
    ReflTransGen (PumpMove ports restorable) (pump, tape)
      (pump.withUploads (UploadCoordinator.perform ports.uploads (pump.uploads, tape) op).1,
        (UploadCoordinator.perform ports.uploads (pump.uploads, tape) op).2) := by
  exact moves_of_churn (UploadCoordinator.perform_churn op (op.unguarded pump.uploads)
    (CoordinatorOp.plain plain)) rfl rfl

/-- Everything the owner of a pump can do is a sequence of moves. -/
theorem perform_moves {s : Pumping W} (h : Ledger (s.1.uploads, s.2)) (op : PumpOp W)
    (guard : op.Guarded restorable) :
    ReflTransGen (PumpMove ports restorable) s (perform ports s op) := by
  obtain ⟨pump, tape⟩ := s
  cases op with
  | tick enabled => exact tick_moves h enabled
  | drainWork => exact drainWork_moves _ _ _ _
  | reconfigureSource options =>
    simp only [perform, reconfigureSource]
    split
    · exact .refl
    split
    · exact elapse_moves _ _ _ _ _
    · exact moves_of_churn (.single (.elapsed _)) rfl rfl
  | setRequiredMatches requiredMatches =>
    simp only [perform, setRequiredMatches]
    split
    · exact .refl
    split
    · exact .refl
    · rename_i discovery changed
      obtain ⟨accepted, known⟩ := LogDiscovery.setRequiredMatches_ok changed
      exact moves_of_churn .refl accepted known
  | updateParserCapacity capacity =>
    simp only [perform, LogIngestionCoordinator.updateParserCapacity]
    split
    · exact .refl
    split <;> exact elapse_moves _ _ _ _ _
  | restoreHistory records => exact restoreHistory_moves guard
  | seedProcessedLogs files => exact seedProcessedLogs_moves files
  | command op =>
    simp only [perform]
    split
    · exact .refl
    · exact command_moves op (by simpa using ‹¬ op.admitsJobs = true›)
  | cancelAll => exact cancelAll_moves
  | elapse world => exact elapse_moves _ _ _ _ world

variable (restorable) in
/-- Any property that the moves keep, and the account of the attempts with it, holds of every
run of a pump. -/
theorem run_invariant {allowed : Pumping W → PumpOp W → Prop} {start s : Pumping W}
    {inv : Pumping W → Prop} (run : Run (perform ports) allowed start s)
    (guarded : ∀ s op, allowed s op → op.Guarded restorable)
    (keeps : ∀ s s', PumpMove ports restorable s s' → Ledger (s.1.uploads, s.2) → inv s → inv s')
    (ledger : Ledger (start.1.uploads, start.2)) (h : inv start) : inv s := by
  have both : Ledger (s.1.uploads, s.2) ∧ inv s := by
    induction run with
    | refl => exact ⟨ledger, h⟩
    | @step s op _ met ih =>
      have moves : ReflTransGen (PumpMove ports restorable) s (perform ports s op) :=
        perform_moves ih.1 op (guarded s op met)
      generalize perform ports s op = s' at moves
      clear met
      induction moves with
      | refl => exact ih
      | tail _ last both => exact ⟨last.ledger both.1, keeps _ _ last both.1 both.2⟩
  exact both.2

theorem ledger_of_new {providers : List Provider} {historyLimit : Nat} {options : PumpOptions}
    {c : UploadCoordinator} (created : UploadCoordinator.new providers historyLimit = .ok c)
    (started : new (.new c) options = .ok pump) (world : W) :
    Ledger (pump.uploads, (⟨world, []⟩ : Tape W)) := by
  have uploads : pump.uploads = c := by
    rw [ApplicationPump.uploads, (new_ok started).1]
    rfl
  rw [uploads]
  exact UploadCoordinator.ledger_of_run created
    (.refl : Run (UploadCoordinator.perform acceptingPorts) (fun _ _ => True) _ _)

end ApplicationPump
end MannyUploader.Application
