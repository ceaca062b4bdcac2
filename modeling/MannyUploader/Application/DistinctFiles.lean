import MannyUploader.Application.PumpSteps
import MannyUploader.Config.HistoryLaws

/-! No file is retained twice while discovery remembers every retained file. The memory is
bounded and forgets in the order of acceptance, so the law needs each forgotten file to be
gone from the coordinator once the next job has been admitted. -/
namespace MannyUploader.Domain.LogDiscovery
variable {d : LogDiscovery} {files : List LogFileIdentity}

theorem overflow_of_room (room : d.accepted.length < d.historyLimit) : d.overflow = none := by
  rw [overflow, if_neg (by omega)]

theorem remember_of_room (file : LogFileIdentity) (room : d.accepted.length < d.historyLimit) :
    (d.remember file).accepted.length ≤ d.accepted.length + 1 ∧
      (d.remember file).historyLimit = d.historyLimit ∧
      ∀ key, key ∈ (d.remember file).keys ↔ key = file.key ∨ key ∈ d.keys := by
  cases known : d.isKnown file with
  | true =>
    rw [remember, if_pos known]
    refine ⟨by omega, rfl, fun key => ⟨.inr, ?_⟩⟩
    rintro (rfl | member)
    · exact isKnown_iff.mp known
    · exact member
  | false =>
    have fits : d.makeRoom = d := by rw [makeRoom, overflow_of_room room]
    refine ⟨?_, ?_, fun key => ?_⟩
    · rw [remember, if_neg (by simp [known]), fits]
      simp
    · rw [remember, if_neg (by simp [known]), fits]
    · rw [mem_keys_remember known, overflow_of_room room]
      simp

/-- A memory with room for all of them forgets nothing. -/
theorem mem_keys_rememberAll (room : d.accepted.length + files.length ≤ d.historyLimit)
    (key : List Path.Component × UInt64 × SystemTime) :
    key ∈ (files.foldl remember d).keys ↔ key ∈ d.keys ∨ key ∈ files.map LogFileIdentity.key := by
  induction files generalizing d with
  | nil => simp
  | cons file rest ih =>
    rw [List.length_cons] at room
    obtain ⟨length, limit, keys⟩ := remember_of_room (d := d) file (by omega)
    rw [List.foldl_cons, ih (by omega), keys, List.map_cons, List.mem_cons]
    tauto

end MannyUploader.Domain.LogDiscovery

namespace MannyUploader.Application
open Domain Foundation Relation Config

/-- A file that is forgotten while its job is retained is exposed until that job leaves. -/
def Event.exposes (exposed : List LogFileIdentity) : Event → List LogFileIdentity
  | .forgot oldest retained =>
    if oldest.key ∈ retained.map LogFileIdentity.key then oldest :: exposed else exposed
  | .evicted job => exposed.filter fun file => file.key ≠ job.record.file.key
  | _ => exposed

/-- The files of retained jobs that discovery forgot in the course of these events. -/
def exposed (events : List Event) : List LogFileIdentity := events.foldl Event.exposes []

/-- A job is admitted, behind the trim that makes room for it, with no file exposed. -/
def Event.KeepsRetained (exposed : List LogFileIdentity) : Event → Prop
  | .admitted _ => exposed = []
  | _ => True

instance (exposed : List LogFileIdentity) (event : Event) :
    Decidable (event.KeepsRetained exposed) :=
  match event with
  | .admitted _ => inferInstanceAs (Decidable (exposed = []))
  | .forgot .. | .restored _ | .enqueued .. | .applied _ | .evicted _ | .loaded _ | .saved ..
  | .saveFailed | .cutShort => inferInstanceAs (Decidable True)

/-- No admission in these events left a forgotten file with a retained job. -/
def KeepsRetained (events : List Event) : Prop :=
  ∀ n, (inside : n < events.length) → events[n].KeepsRetained (exposed (events.take n))

instance (events : List Event) : Decidable (KeepsRetained events) :=
  inferInstanceAs (Decidable (∀ n, (inside : n < events.length) →
    events[n].KeepsRetained (exposed (events.take n))))

theorem KeepsRetained.of_append {first second : List Event} (h : KeepsRetained (first ++ second)) :
    KeepsRetained first := by
  intro n inside
  have whole := h n (by rw [List.length_append]; omega)
  rwa [List.getElem_append_left inside, List.take_append_of_le_length (by omega)] at whole

theorem KeepsRetained.last {events : List Event} {job : UploadJob}
    (h : KeepsRetained (events ++ [.admitted job])) : exposed events = [] := by
  have whole := h events.length (by simp)
  rwa [List.getElem_concat_length rfl, List.take_left] at whole

theorem Event.subset_exposes_forgot (exposed : List LogFileIdentity) (oldest : LogFileIdentity)
    (retained : List LogFileIdentity) : exposed ⊆ Event.exposes exposed (.forgot oldest retained) := by
  rw [exposes]
  split
  · exact List.subset_cons_self oldest exposed
  · exact List.Subset.refl exposed

theorem Event.mem_exposes_forgot (exposed : List LogFileIdentity) {oldest : LogFileIdentity}
    {retained : List LogFileIdentity} (kept : oldest.key ∈ retained.map LogFileIdentity.key) :
    oldest ∈ Event.exposes exposed (.forgot oldest retained) := by
  rw [exposes, if_pos kept]
  exact List.mem_cons_self

@[simp] theorem exposed_concat (events : List Event) (event : Event) :
    exposed (events ++ [event]) = event.exposes (exposed events) := by
  rw [exposed, List.foldl_append]
  rfl

/-- A history whose records are of different files. -/
def DistinctHistory (records : List UploadJobRecord) : Prop :=
  (records.map fun record => record.file.key).Nodup

/-- The retained files are distinct, and discovery remembers those that are not exposed. -/
structure DistinctFiles (c : UploadCoordinator) (discovery : LogDiscovery)
    (exposed : List LogFileIdentity) : Prop where
  distinct : (c.files.map LogFileIdentity.key).Nodup
  known : ∀ file ∈ c.files,
    file.key ∈ discovery.keys ∨ file.key ∈ exposed.map LogFileIdentity.key

section exposure
variable {ports : UploadPorts W} {revivable : UploadJobId → Provider → UploadIntent → Prop}

theorem Move.exposed {s s' : Entry × Tape W} (move : Move revivable s s') :
    Application.exposed s'.2.events = Application.exposed s.2.events := by
  cases move with
  | accepted | rejected | received => exact exposed_concat _ _
  | _ => rfl

theorem EntryStep.exposed {installed : Provider → Bool} {s s' : Entry × Tape W}
    (step : EntryStep ports installed revivable s s') :
    Application.exposed s'.2.events = Application.exposed s.2.events := by
  have moves := step.moves
  clear step
  induction moves with
  | refl => rfl
  | tail _ last ih => exact last.exposed.trans ih

end exposure

namespace DistinctFiles
variable {c c' : UploadCoordinator} {discovery discovery' : LogDiscovery}
  {files files' : List LogFileIdentity}

theorem sublist (h : DistinctFiles c discovery files) (fewer : c'.files.Sublist c.files) :
    DistinctFiles c' discovery files :=
  ⟨h.distinct.sublist (fewer.map _), fun file member => h.known file (fewer.subset member)⟩

theorem of_known (h : DistinctFiles c discovery files)
    (known : ∀ file ∈ c.files, file.key ∈ discovery.keys →
      file.key ∈ discovery'.keys ∨ file.key ∈ files'.map LogFileIdentity.key)
    (more : files ⊆ files') : DistinctFiles c discovery' files' := by
  refine ⟨h.distinct, fun file member => ?_⟩
  rcases h.known file member with kept | out
  · exact known file member kept
  · exact .inr (List.map_subset _ more out)

/-- A job that leaves takes no other exposed file with it. -/
theorem evicted {tape : Tape W} {before after : List Entry} {entry : Entry}
    (found : c.jobs = before ++ entry :: after) (h : DistinctFiles c discovery (exposed tape.events)) :
    DistinctFiles { c with jobs := before ++ after } discovery
      (exposed (tape.note (.evicted entry.job)).events) := by
  have fewer : ({ c with jobs := before ++ after } : UploadCoordinator).files.Sublist c.files := by
    simp [UploadCoordinator.files, found]
  refine ⟨(h.sublist fewer).distinct, fun file member => ?_⟩
  have other : file.key ≠ entry.job.record.file.key := by
    have distinct := h.distinct
    rw [UploadCoordinator.files, found, List.map_map, List.map_append, List.map_cons,
      List.nodup_middle, List.nodup_cons, ← List.map_append, ← List.map_map] at distinct
    intro same
    apply distinct.1
    change entry.job.record.file.key ∈ _
    rw [← same]
    exact List.mem_map_of_mem member
  refine (h.known file (fewer.subset member)).imp_right fun out => ?_
  obtain ⟨gone, out, same⟩ := List.mem_map.mp out
  rw [Tape.note_events, exposed_concat]
  exact List.mem_map.mpr ⟨gone, List.mem_filter.mpr ⟨out, by simpa [same] using other⟩, same⟩

/-- The coordinator's own operations drop jobs, and bring in none. -/
theorem churned {ports : UploadPorts W} {s s' : Running W}
    (churn : ReflTransGen (Churn ports anyIntent) s s')
    (h : DistinctFiles s.1 discovery (exposed s.2.events)) :
    DistinctFiles s'.1 discovery (exposed s'.2.events) := by
  induction churn with
  | refl => exact h
  | tail _ last ih =>
    have fewer := last.files
    cases last with
    | worked _ _ step => rw [step.exposed]; exact ih.sublist fewer
    | evicted found _ => exact ih.evicted found
    | _ => exact ih.sublist fewer

end DistinctFiles

namespace DistinctFiles
variable {ports : PumpPorts W} {c : UploadCoordinator} {discovery : LogDiscovery}
  {pump : ApplicationPump} {tape : Tape W} {file : LogFileIdentity}

theorem exposed_noteForgotten (fresh : pump.discovery.isKnown file = false) :
    exposed (pump.noteForgotten [file] tape).events =
      pump.discovery.overflow.toList.foldl
        (fun files oldest => Event.exposes files (.forgot oldest pump.uploads.files))
        (exposed tape.events) := by
  rw [ApplicationPump.noteForgotten, Tape.noteAll_events, exposed, List.foldl_append,
    ApplicationPump.forgotten, ApplicationPump.forgotten, List.append_nil, fresh]
  simp only [Bool.false_eq_true, if_false, List.foldl_map]
  rfl

/-- What is forgotten to make room is exposed, unless its job is gone. -/
theorem forgetting (h : DistinctFiles pump.uploads pump.discovery (exposed tape.events))
    (fresh : pump.discovery.isKnown file = false) :
    exposed tape.events ⊆ exposed (pump.noteForgotten [file] tape).events ∧
      DistinctFiles pump.uploads (pump.discovery.remember file)
        (exposed (pump.noteForgotten [file] tape).events) := by
  rw [exposed_noteForgotten fresh]
  cases full : pump.discovery.overflow with
  | none =>
    refine ⟨List.Subset.refl _, h.of_known (fun other _ kept => .inl ?_) (List.Subset.refl _)⟩
    exact (LogDiscovery.mem_keys_remember fresh).mpr (.inr ⟨kept, by simp [full]⟩)
  | some oldest =>
    have more := Event.subset_exposes_forgot (exposed tape.events) oldest pump.uploads.files
    refine ⟨more, h.of_known (fun other member kept => ?_) more⟩
    by_cases same : other.key = oldest.key
    · rw [same]
      apply Or.inr
      apply List.mem_map_of_mem
      exact Event.mem_exposes_forgot _ (same ▸ List.mem_map_of_mem member)
    · exact .inl ((LogDiscovery.mem_keys_remember fresh).mpr (.inr ⟨kept, by simpa [full] using same⟩))

end DistinctFiles

namespace DistinctFiles
variable {ports : PumpPorts W} {discovery : LogDiscovery} {pump : ApplicationPump} {tape : Tape W}
  {s : Running W} {file : LogFileIdentity} {enabled : ProviderSelection} {job : UploadJob}

/-- A fresh file joins the retained ones when none of them is exposed. -/
theorem enrol (fresh : pump.discovery.isKnown file = false)
    (h : DistinctFiles pump.uploads pump.discovery (exposed tape.events))
    (churn : ReflTransGen (Churn ports.uploads anyIntent)
      (pump.uploads, pump.noteForgotten [file] tape) s)
    (admits : Admits ports.uploads s file enabled job)
    (kept : KeepsRetained (Application.enrol s job).2.events) :
    DistinctFiles (Application.enrol s job).1 (pump.discovery.remember file)
      (exposed (Application.enrol s job).2.events) := by
  obtain ⟨more, remembered⟩ := h.forgetting fresh
  have safe : exposed s.2.events = [] := kept.last
  have remembered := remembered.churned churn
  have before := DistinctFiles.churned churn (h.of_known (fun _ _ kept => .inl kept) more)
  have new : ∀ other ∈ s.1.files, other.key ≠ file.key := by
    intro other member same
    have known := before.known other member
    rw [safe, List.map_nil, or_iff_left List.not_mem_nil, same, ← LogDiscovery.isKnown_iff, fresh]
      at known
    cases known
  have joined := enrol_files s job
  rw [admits.file] at joined
  constructor
  · rw [joined, List.map_append, List.nodup_append]
    refine ⟨remembered.distinct, by simp, fun key old key' last => ?_⟩
    obtain ⟨other, member, rfl⟩ := List.mem_map.mp old
    rw [List.mem_singleton.mp last]
    exact new other member
  · intro other member
    rw [joined, List.mem_append] at member
    rcases member with old | last
    · have known := remembered.known other old
      rw [safe] at known
      exact .inl (known.resolve_right List.not_mem_nil)
    · rw [List.mem_singleton.mp last, LogDiscovery.mem_keys_remember fresh]
      exact .inl (.inl rfl)

/-- A restored history brings in a part of the files that discovery then remembers. -/
theorem restored {records : List UploadJobRecord} {c : UploadCoordinator} {tape' : Tape W}
    {files : List LogFileIdentity}
    (distinct : DistinctHistory records) (seeded : pump.seedHistory records = .ok discovery)
    (restored : pump.uploads.restore records tape = (.ok (), c, tape')) :
    DistinctFiles c discovery files := by
  obtain ⟨-, -, jobs, entries, rfl, -⟩ := UploadCoordinator.restore_ok restored
  have files := UploadCoordinator.restoreJobs_files entries
  obtain ⟨-, few, empty, none, -, limit, rfl⟩ := ApplicationPump.seedHistory_ok seeded
  have keys : ∀ key, key ∈ ((records.map (·.file)).foldl LogDiscovery.remember empty).keys ↔
      key ∈ empty.keys ∨ key ∈ (records.map (·.file)).map LogFileIdentity.key :=
    LogDiscovery.mem_keys_rememberAll
      (by rw [none, limit, List.length_map, List.length_nil]; omega)
  constructor
  · change ((jobs.map fun entry => entry.job.record.file).map LogFileIdentity.key).Nodup
    rw [files, List.map_map]
    exact distinct.sublist ((List.drop_sublist _ _).map _)
  · intro file member
    change file ∈ jobs.map fun entry => entry.job.record.file at member
    rw [files] at member
    rw [keys]
    exact .inl (.inr (List.mem_map_of_mem ((List.drop_sublist _ _).map _ |>.subset member)))

end DistinctFiles

theorem PumpMove.distinct {ports : PumpPorts W} {s s' : Pumping W}
    (move : PumpMove ports DistinctHistory s s') (kept : KeepsRetained s'.2.events)
    (h : DistinctFiles s.1.uploads s.1.discovery (exposed s.2.events)) :
    DistinctFiles s'.1.uploads s'.1.discovery (exposed s'.2.events) := by
  cases move with
  | idled uploads accepted known =>
    refine ⟨by rw [uploads]; exact h.distinct, fun file member => ?_⟩
    rw [LogDiscovery.keys, known]
    exact h.known file (uploads ▸ member)
  | worked churn => exact DistinctFiles.churned (.single churn) h
  | remembered file _ fresh => exact (h.forgetting fresh).2
  | @refused pump tape file _ fresh =>
    obtain ⟨more, remembered⟩ := h.forgetting fresh
    refine ⟨h.distinct, fun other member => ?_⟩
    by_cases same : other.key = file.key
    · have known := h.known other member
      rw [same, ← LogDiscovery.isKnown_iff, fresh] at known
      exact .inr (same ▸ List.map_subset _ more (known.resolve_left Bool.false_ne_true))
    · exact (remembered.known other member).imp_left fun known =>
        LogDiscovery.mem_keys_release.mpr ⟨known, same⟩
  | submitted file enabled _ fresh churn admits =>
    exact DistinctFiles.enrol fresh h churn admits kept
  | restored records distinct seeded restored => exact .restored distinct seeded restored

namespace ApplicationPump
variable {ports : PumpPorts W} {providers : List Provider} {historyLimit : Nat}
  {options : PumpOptions} {c : UploadCoordinator} {pump : ApplicationPump} {world : W}
  {s : Pumping W}

theorem distinctFiles_of_run (created : UploadCoordinator.new providers historyLimit = .ok c)
    (started : new (.new c) options = .ok pump)
    (run : Run (perform ports) (fun _ op => op.Guarded DistinctHistory) (pump, ⟨world, []⟩) s)
    (kept : KeepsRetained s.2.events) :
    DistinctFiles s.1.uploads s.1.discovery (exposed s.2.events) := by
  obtain ⟨ingestion, -⟩ := new_ok started
  have uploads : pump.uploads = c := by rw [ApplicationPump.uploads, ingestion]; rfl
  have keeps : ∀ s s', PumpMove ports DistinctHistory s s' → Ledger (s.1.uploads, s.2) →
      (KeepsRetained s.2.events →
        DistinctFiles s.1.uploads s.1.discovery (exposed s.2.events)) →
      KeepsRetained s'.2.events →
      DistinctFiles s'.1.uploads s'.1.discovery (exposed s'.2.events) := by
    intro s s' move _ before kept
    obtain ⟨more, events⟩ := move.events
    exact move.distinct kept (before (events ▸ kept).of_append)
  refine run_invariant DistinctHistory run (fun _ _ guard => guard) keeps
    (ledger_of_new created started world) ?_ kept
  · obtain ⟨empty, -⟩ := UploadCoordinator.new_ok created
    have none : pump.uploads.files = [] := by
      rw [uploads, UploadCoordinator.files, empty, List.map_nil]
    refine fun _ => ⟨?_, fun file member => ?_⟩
    · rw [none]; exact .nil
    · rw [none] at member; cases member

/-- While every admission leaves no forgotten file with a retained job, the retained files are
distinct, and a save of the history is never refused for a duplicate. -/
theorem retained_distinct (created : UploadCoordinator.new providers historyLimit = .ok c)
    (started : new (.new c) options = .ok pump)
    (run : Run (perform ports) (fun _ op => op.Guarded DistinctHistory) (pump, ⟨world, []⟩) s)
    (kept : KeepsRetained s.2.events) :
    (s.1.uploads.files.Pairwise fun first second => (first == second) = false) ∧
    ∀ (V : Type) (json : JsonCodec) (files : FilePorts V) (store : JsonUploadHistoryStore)
      (disk : V),
      (store.mergeAndSave json files s.1.uploads.history disk).1 ≠ .error .duplicateIdentity := by
  have h := distinctFiles_of_run created started run kept
  constructor
  · refine (List.pairwise_map.mp h.distinct).imp fun different => ?_
    rw [← Bool.not_eq_true, LogFileIdentity.beq_iff]
    exact different
  · intro V json files store disk
    refine store.mergeAndSave_distinct json files disk ?_
    have distinct := h.distinct
    rw [UploadCoordinator.files, List.map_map] at distinct
    rw [UploadCoordinator.history, List.map_map]
    exact distinct

end ApplicationPump

section samples

def threeLogs : List LogFileIdentity :=
  [logNamed "a.zevtc" 1, logNamed "b.zevtc" 2, logNamed "c.zevtc" 3]

/-- Three logs that appear one after the other. -/
def arrivals (logs : List LogFileIdentity) : List (PumpOp (List LogFileIdentity)) :=
  [1, 2, 3].flatMap fun count => scans (logs.take count)

theorem scans_guarded (files : List LogFileIdentity) :
    ∀ op ∈ scans files, op.Guarded DistinctHistory := by
  simp [scans, PumpOp.Guarded]

theorem arrivals_guarded (logs : List LogFileIdentity) :
    ∀ op ∈ arrivals logs, op.Guarded DistinctHistory := by
  intro op member
  obtain ⟨count, -, member⟩ := List.mem_flatMap.mp member
  exact scans_guarded _ op member

/-- The second and the first of the logs, and the third. -/
def swappedLogs : List LogFileIdentity :=
  [logNamed "b.zevtc" 2, logNamed "a.zevtc" 1, logNamed "c.zevtc" 3]

end samples

namespace ApplicationPump

/-- The third log makes discovery forget a file whose job is retained, and that job leaves to
make room. -/
theorem retained_distinct_sample :
    let s := (arrivals swappedLogs).foldl (perform directoryPorts) (narrowPump, ⟨[], []⟩)
    .forgot (logNamed "b.zevtc" 2) [logNamed "b.zevtc" 2, logNamed "a.zevtc" 1] ∈ s.2.events ∧
      s.1.uploads.files = [logNamed "a.zevtc" 1, logNamed "c.zevtc" 3] ∧
      (s.1.uploads.files.Pairwise fun first second => (first == second) = false) ∧
      (fullStore.mergeAndSave sampleJson sampleFiles s.1.uploads.history ()).1 ≠
        .error .duplicateIdentity := by
  have h := retained_distinct
    (show UploadCoordinator.new Provider.all 2 = .ok (sampleStart ⟨2, by decide⟩).1 from rfl)
    (show new _ (sampleOptions 2) = .ok narrowPump from rfl)
    (.of_list (perform directoryPorts) (narrowPump, ⟨[], []⟩) (arrivals swappedLogs)
      fun op member _ => arrivals_guarded swappedLogs op member) (by decide)
  exact ⟨by decide, by decide, h.1, h.2 Unit sampleJson sampleFiles fullStore ()⟩

/-- The third log makes discovery forget the first and the coordinator drop the second. The
first is still retained when the next two scans accept it again. -/
theorem retained_twice :
    ∃ s, UploadCoordinator.new Provider.all 2 = .ok (sampleStart ⟨2, by decide⟩).1 ∧
      new (.new (sampleStart ⟨2, by decide⟩).1) (sampleOptions 2) = .ok narrowPump ∧
      Run (perform directoryPorts) (fun _ op => op.Guarded DistinctHistory)
        (narrowPump, ⟨[], []⟩) s ∧
      s.1.uploads.files = [logNamed "a.zevtc" 1, logNamed "a.zevtc" 1] ∧
      (fullStore.mergeAndSave sampleJson sampleFiles s.1.uploads.history ()).1 =
        .error .duplicateIdentity := by
  refine ⟨_, rfl, rfl, .of_list (perform directoryPorts) (narrowPump, ⟨[], []⟩)
    (arrivals threeLogs ++ scans threeLogs) fun op member _ => ?_, by decide, by decide⟩
  exact (List.mem_append.mp member).elim (arrivals_guarded threeLogs op)
    (scans_guarded threeLogs op)

end ApplicationPump
end MannyUploader.Application
