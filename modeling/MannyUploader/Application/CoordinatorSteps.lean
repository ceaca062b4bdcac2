import MannyUploader.Application.EntrySteps
import MannyUploader.Application.UploadCoordinator

/-! Every operation of the coordinator as a sequence of small steps: operations on one
entry, evictions, admissions and the restore. -/
namespace MannyUploader.Application
open Domain Foundation Relation

/-- A change that neither admits nor restores a job. -/
inductive Churn (ports : UploadPorts W)
    (revivable : UploadJobId → Provider → UploadIntent → Prop) : Running W → Running W → Prop
  | worked {c : UploadCoordinator} {tape tape' : Tape W} {before after : List Entry}
      {entry entry' : Entry} : c.stopping = false → c.jobs = before ++ entry :: after →
      EntryStep ports c.installed revivable (entry, tape) (entry', tape') →
      Churn ports revivable (c, tape) ({ c with jobs := before ++ entry' :: after }, tape')
  | evicted {c : UploadCoordinator} {tape : Tape W} {before after : List Entry} {entry : Entry} :
      c.jobs = before ++ entry :: after → entry.busy = false →
      Churn ports revivable (c, tape)
        ({ c with jobs := before ++ after }, tape.note (.evicted entry.job))
  | adjusted {c : UploadCoordinator} {tape : Tape W} (historyLimit : HistoryLimit)
      (resultCursor : Provider) :
      Churn ports revivable (c, tape) ({ c with historyLimit, resultCursor }, tape)
  | elapsed {c : UploadCoordinator} {tape : Tape W} (world : W) :
      Churn ports revivable (c, tape) (c, { tape with world })
  | stopped {c : UploadCoordinator} {tape : Tape W} :
      Churn ports revivable (c, tape)
        ({ c with stopping := true, jobs := c.jobs.map Entry.cancel }, tape)

/-- `restorable` restricts the records that a restore may bring in. -/
inductive Step (ports : UploadPorts W)
    (revivable : UploadJobId → Provider → UploadIntent → Prop)
    (restorable : UploadJobRecord → Prop) : Running W → Running W → Prop
  | churned {s s' : Running W} : Churn ports revivable s s' → Step ports revivable restorable s s'
  | admitted {c : UploadCoordinator} {tape : Tape W} {next : UInt64} {id : UploadJobId}
      {job : UploadJob} (file : LogFileIdentity) (enabled : ProviderSelection) :
      c.stopping = false → c.nextId = some next → UploadJobId.new next = .ok id →
      UploadJob.new id file (ports.systemNow tape.world) enabled = .ok job →
      Step ports revivable restorable (c, tape)
        ({ c with jobs := c.jobs ++ [Entry.new job true], nextId := checkedSucc64 job.id.get },
          tape.note (.admitted job))
  | restored {c : UploadCoordinator} {tape : Tape W} {jobs : List Entry}
      (records : List UploadJobRecord) :
      c.stopping = false → c.restored = false → c.nextId = some 1 → c.jobs = [] →
      records.length ≤ c.historyLimit → (∀ record ∈ records, restorable record) →
      UploadCoordinator.restoreJobs 0 records = .ok jobs →
      Step ports revivable restorable (c, tape)
        ({ c with jobs, nextId := some (UInt64.ofNat jobs.length + 1), restored := true },
          tape.noteAll (jobs.map fun entry => .restored entry.job))

theorem Step.of_churn {ports : UploadPorts W}
    {revivable : UploadJobId → Provider → UploadIntent → Prop} {restorable : UploadJobRecord → Prop}
    {s s' : Running W} (h : ReflTransGen (Churn ports revivable) s s') :
    ReflTransGen (Step ports revivable restorable) s s' :=
  h.lift id fun _ _ => .churned

/-- What a job is admitted under. -/
structure Admits (ports : UploadPorts W) (s : Running W) (file : LogFileIdentity)
    (enabled : ProviderSelection) (job : UploadJob) : Prop where
  running : s.1.stopping = false
  numbered : ∃ next id, s.1.nextId = some next ∧ UploadJobId.new next = .ok id ∧
    UploadJob.new id file (ports.systemNow s.2.world) enabled = .ok job

def enrol (s : Running W) (job : UploadJob) : Running W :=
  ({ s.1 with jobs := s.1.jobs ++ [Entry.new job true], nextId := checkedSucc64 job.id.get },
    s.2.note (.admitted job))

theorem Admits.step {ports : UploadPorts W}
    {revivable : UploadJobId → Provider → UploadIntent → Prop} {restorable : UploadJobRecord → Prop}
    {s : Running W} {file : LogFileIdentity} {enabled : ProviderSelection} {job : UploadJob}
    (h : Admits ports s file enabled job) : Step ports revivable restorable s (enrol s job) := by
  obtain ⟨running, next, id, counted, valid, fresh⟩ := h
  exact .admitted file enabled running counted valid fresh

/-- A retry of dps.report only takes up what the run lets it take up, and a restore only
brings in what the run lets it bring in. -/
def CoordinatorOp.Guarded (revivable : UploadJobId → Provider → UploadIntent → Prop)
    (restorable : UploadJobRecord → Prop) (c : UploadCoordinator) : CoordinatorOp W → Prop
  | .retryFailed id provider => ∀ entry ∈ c.jobs, entry.job.id = id →
      entry.Revives revivable provider
  | .restore records => ∀ record ∈ records, restorable record
  | _ => True

theorem CoordinatorOp.unguarded (c : UploadCoordinator) (op : CoordinatorOp W) :
    op.Guarded (fun _ _ _ => True) (fun _ => True) c := by
  cases op <;> simp [Guarded, Entry.Revives]

namespace UploadCoordinator
variable {ports : UploadPorts W} {revivable : UploadJobId → Provider → UploadIntent → Prop}
  {restorable : UploadJobRecord → Prop} {c : UploadCoordinator} {tape : Tape W} {id : UploadJobId}
  {before after : List Entry} {entry : Entry}

theorem index_ok (h : c.index id = .ok (before, entry, after)) :
    c.jobs = before ++ entry :: after ∧ entry.job.id = id ∧
      ∀ other ∈ before, other.job.id ≠ id := by
  unfold index at h
  split at h
  · rename_i found split
    cases h
    simpa using splitFirst_eq_some split
  · cases h

theorem requireRunning_ok (h : c.requireRunning = .ok ()) : c.stopping = false := by
  unfold requireRunning at h
  split at h
  · cases h
  · simpa using ‹¬ c.stopping = true›

theorem trimTo_churn (limit : Nat) :
    ReflTransGen (Churn ports revivable) (c, tape) (c.trimTo limit tape) := by
  have removes := trim_removes (fun entry : Entry => !entry.busy) limit c.jobs.length c.jobs
  unfold trimTo
  generalize trim (fun entry : Entry => !entry.busy) limit c.jobs.length c.jobs = trimmed at removes
  obtain ⟨kept, gone⟩ := trimmed
  suffices ∀ jobs, Removes (fun entry : Entry => !entry.busy) jobs gone kept → ∀ tape : Tape W,
      ReflTransGen (Churn ports revivable) ({ c with jobs }, tape)
        ({ c with jobs := kept }, tape.noteAll (gone.map fun entry => .evicted entry.job)) from
    this c.jobs removes tape
  intro jobs removes
  clear * - removes
  induction removes with
  | done jobs =>
    intro tape
    simp only [List.map_nil, Tape.noteAll, List.append_nil]
    exact .refl
  | take idle _ ih =>
    intro tape
    refine .head (.evicted rfl (by simpa using idle)) ?_
    simpa [Tape.note, Tape.noteAll] using ih (tape.note (.evicted _))

@[simp] theorem trimTo_nextId (limit : Nat) : (c.trimTo limit tape).1.nextId = c.nextId := rfl
@[simp] theorem trimTo_stopping (limit : Nat) : (c.trimTo limit tape).1.stopping = c.stopping := rfl
@[simp] theorem trimTo_installed (limit : Nat) :
    (c.trimTo limit tape).1.installed = c.installed := rfl
@[simp] theorem trimTo_historyLimit (limit : Nat) :
    (c.trimTo limit tape).1.historyLimit = c.historyLimit := rfl
@[simp] theorem trimTo_world (limit : Nat) : (c.trimTo limit tape).2.world = tape.world := rfl

theorem prepareJob_ok {file : LogFileIdentity} {enabled : ProviderSelection} {now : SystemTime}
    {job : UploadJob} (h : c.prepareJob file enabled now = .ok job) :
    c.stopping = false ∧ (∀ provider, enabled.contains provider → c.installed provider) ∧
      (∃ next id, c.nextId = some next ∧ UploadJobId.new next = .ok id ∧
        UploadJob.new id file now enabled = .ok job) ∧
      c.jobs.countP Entry.busy < c.historyLimit := by
  unfold prepareJob at h
  obtain ⟨_, running, h⟩ := bind_ok h
  obtain ⟨_, installed, h⟩ := bind_ok h
  refine ⟨requireRunning_ok running, ?_, ?_⟩
  · intro provider enabled
    unfold requireProviders at installed
    split at installed
    · cases installed
    · rename_i none
      by_contra missing
      exact none (List.any_eq_true.mpr
        ⟨provider, List.mem_filter.mpr ⟨provider.mem_all, enabled⟩, by simpa using missing⟩)
  · split at h
    · cases h
    rename_i next counted
    obtain ⟨id, valid, h⟩ := bind_ok h
    obtain ⟨created, fresh, h⟩ := bind_ok h
    split at h
    · cases h
    rename_i room
    cases h
    exact ⟨⟨next, id, counted, liftJob_ok valid, liftJob_ok fresh⟩, by omega⟩

variable (ports revivable c tape) in
/-- `add_pending` makes room first, so what it admits joins the jobs that stayed. -/
theorem addPending_cases (file : LogFileIdentity) (enabled : ProviderSelection) :
    (∃ error, c.addPending ports file enabled tape = (.error error, c, tape)) ∨
      ∃ s job, ReflTransGen (Churn ports revivable) (c, tape) s ∧ Admits ports s file enabled job ∧
        c.addPending ports file enabled tape = (.ok job.id, enrol s job) := by
  unfold addPending
  split
  · rename_i error _
    exact .inl ⟨error, rfl⟩
  · rename_i job prepared
    obtain ⟨running, -, numbered, -⟩ := prepareJob_ok prepared
    exact .inr ⟨c.trimTo (c.historyLimit - 1) tape, job, trimTo_churn (c.historyLimit - 1),
      ⟨running, numbered⟩, rfl⟩

variable (ports revivable restorable c tape) in
theorem addPending_steps (file : LogFileIdentity) (enabled : ProviderSelection) :
    (c.addPending ports file enabled tape).2 = (c, tape) ∨
      ∃ s : Running W, ReflTransGen (Churn ports revivable) (c, tape) s ∧
        Step ports revivable restorable s (c.addPending ports file enabled tape).2 := by
  rcases addPending_cases ports revivable c tape file enabled with
    ⟨error, refused⟩ | ⟨s, job, churned, admits, admitted⟩
  · exact .inl (by rw [refused])
  · exact .inr ⟨s, churned, by rw [admitted]; exact admits.step⟩

/-- An operation on the entry of one job, up to the trim after it. -/
theorem worked_trim {limit : Nat} {entry' : Entry} {tape' : Tape W} (running : c.stopping = false)
    (found : c.jobs = before ++ entry :: after)
    (step : EntryStep ports c.installed revivable (entry, tape) (entry', tape')) :
    ReflTransGen (Churn ports revivable) (c, tape)
      ({ c with jobs := before ++ entry' :: after }.trimTo limit tape') :=
  .head (.worked running found step) (trimTo_churn limit)

theorem pendingIndex_ok (h : c.pendingIndex id = .ok (before, entry, after)) :
    c.index id = .ok (before, entry, after) ∧ entry.awaitsMetadata = true := by
  unfold pendingIndex at h
  obtain ⟨⟨before, entry, after⟩, found, h⟩ := bind_ok h
  dsimp only at h
  split at h
  · cases h; exact ⟨found, ‹_›⟩
  · cases h

theorem setMetadata_churn (metadata : EncounterMetadata) :
    ReflTransGen (Churn ports revivable) (c, tape) (c.setMetadata ports id metadata tape).2 := by
  unfold setMetadata
  split
  · exact .refl
  · rename_i before result entry' tape' after performed
    obtain ⟨_, running, performed⟩ := bind_ok performed
    obtain ⟨⟨before, entry, after⟩, pending, performed⟩ := bind_ok performed
    obtain ⟨⟨result, entry', tape'⟩, step, performed⟩ := bind_ok performed
    cases performed
    obtain ⟨found, awaits⟩ := pendingIndex_ok pending
    exact worked_trim (requireRunning_ok running) (index_ok found).1
      (.setMetadata metadata awaits step)

theorem failMetadata_churn (cancelled : Bool) :
    ReflTransGen (Churn ports revivable) (c, tape) (c.failMetadata id cancelled tape).2 := by
  unfold failMetadata
  split
  · exact .refl
  · rename_i before entry' after performed
    obtain ⟨_, running, performed⟩ := bind_ok performed
    obtain ⟨⟨before, entry, after⟩, pending, performed⟩ := bind_ok performed
    obtain ⟨entry', step, performed⟩ := bind_ok performed
    cases performed
    obtain ⟨found, awaits⟩ := pendingIndex_ok pending
    exact worked_trim (requireRunning_ok running) (index_ok found).1
      (.failMetadata cancelled awaits step)

variable (ports revivable c tape) in
theorem applyResult_churn (result : UploadResult) :
    ReflTransGen (Churn ports revivable) (c, tape) (c.applyResult ports result tape).2 := by
  unfold applyResult
  split
  · exact .refl
  · rename_i before entry' tape' after performed
    obtain ⟨_, running, performed⟩ := bind_ok performed
    obtain ⟨⟨before, entry, after⟩, found, performed⟩ := bind_ok performed
    obtain ⟨⟨entry', tape'⟩, step, performed⟩ := bind_ok performed
    cases performed
    obtain ⟨split, named, -⟩ := index_ok found
    exact worked_trim (requireRunning_ok running) split (.applyResult result named.symm step)

variable (ports revivable c tape) in
theorem pollProviders_churn (empty errors : Nat) :
    ReflTransGen (Churn ports revivable) (c, tape)
      (pollProviders ports empty errors c tape).2.2 := by
  induction empty generalizing errors c tape with
  | zero => exact .refl
  | succ empty ih =>
    have moved : ∀ world, ReflTransGen (Churn ports revivable) (c, tape)
        ({ c with resultCursor := c.resultCursor.successor }, { tape with world }) := fun world =>
      (ReflTransGen.single (.adjusted c.historyLimit c.resultCursor.successor)).tail
        (.elapsed world)
    unfold pollProviders
    dsimp only
    split
    · exact (moved tape.world).trans (ih _ _ errors)
    split
    · exact moved _
    · exact (moved _).trans (ih _ _ errors)
    · exact (moved _).trans (ih _ _ (errors + 1))

theorem consume_churn (slot : Provider) (result : UploadResult) :
    ReflTransGen (Churn ports revivable) (c, tape) (c.consume ports slot result tape).2 := by
  unfold consume
  split
  · exact .refl
  · have applied := applyResult_churn ports revivable c tape result
    split <;> · rename_i eq; rw [eq] at applied; exact applied

theorem drainLoop_churn (budget : Nat) (summary : DrainSummary) :
    ReflTransGen (Churn ports revivable) (c, tape)
      (drainLoop ports budget summary c tape).2 := by
  induction budget generalizing summary c tape with
  | zero => exact .refl
  | succ budget ih =>
    have polled := pollProviders_churn ports revivable c tape Provider.all.length summary.providerErrors
    unfold drainLoop
    split <;> rename_i eq <;> rw [eq] at polled
    · exact polled
    · exact polled.trans ((consume_churn _ _).trans (ih _))

theorem drainResults_churn (maxResults : Nat) :
    ReflTransGen (Churn ports revivable) (c, tape) (c.drainResults ports maxResults tape).2 := by
  unfold drainResults
  split
  · exact .refl
  · exact drainLoop_churn maxResults _

variable (ports revivable tape) in
theorem retryEntry_churn (now : Instant) (providers : List Provider) (budget : Nat)
    (running : c.stopping = false) (found : c.jobs = before ++ entry :: after) :
    ReflTransGen (Churn ports revivable) (c, tape)
      ({ c with jobs := before ++
          (retryEntry ports c.installed now providers budget entry tape).2.1 :: after },
        (retryEntry ports c.installed now providers budget entry tape).2.2) := by
  induction providers generalizing c entry tape budget with
  | nil => simp only [retryEntry, ← found]; exact .refl
  | cons provider rest ih =>
    cases budget with
    | zero => simp only [retryEntry, ← found]; exact .refl
    | succ budget =>
      unfold retryEntry
      split
      · rename_i due
        have dispatched : EntryStep ports c.installed revivable (entry, tape)
            (entry.dispatch ports c.installed provider tape).2 := .retryDue provider now due
        generalize entry.dispatch ports c.installed provider tape = out at dispatched ⊢
        obtain ⟨result, entry', tape'⟩ := out
        exact .head (.worked running found dispatched)
          (ih _ _ (c := { c with jobs := before ++ entry' :: after }) running rfl)
      · exact ih _ _ running found

variable (ports revivable tape before) in
theorem retryEntries_churn (now : Instant) (budget : Nat) {jobs : List Entry}
    (running : c.stopping = false) (found : c.jobs = before ++ jobs) :
    ReflTransGen (Churn ports revivable) (c, tape)
      ({ c with jobs := before ++ (retryEntries ports c.installed now budget jobs tape).2.1 },
        (retryEntries ports c.installed now budget jobs tape).2.2) := by
  induction jobs generalizing c before tape budget with
  | nil => simp only [retryEntries, ← found]; exact .refl
  | cons entry rest ih =>
    unfold retryEntries
    have first := retryEntry_churn ports revivable tape now Provider.all budget running found
    refine first.trans ?_
    generalize retryEntry ports c.installed now Provider.all budget entry tape = out
    obtain ⟨left, entry', tape'⟩ := out
    have others := ih tape' (before ++ [entry']) left
      (c := { c with jobs := before ++ entry' :: rest }) running (by simp)
    simpa using others

theorem dispatchDueRetries_churn (maxAttempts : Nat) :
    ReflTransGen (Churn ports revivable) (c, tape)
      (c.dispatchDueRetries ports maxAttempts tape).2 := by
  unfold dispatchDueRetries
  split
  · exact .refl
  · rename_i running
    refine ReflTransGen.trans ?_ (trimTo_churn _)
    exact retryEntries_churn ports revivable tape [] _ _ (by simpa using running) rfl

theorem redispatch_churn {provider : Provider}
    {prepared : Except CoordinatorError (List Entry × Entry × List Entry)}
    (step : ∀ before entry' after, prepared = .ok (before, entry', after) →
      c.stopping = false ∧ ∃ entry, c.jobs = before ++ entry :: after ∧
        EntryStep ports c.installed revivable (entry, tape)
          (entry'.dispatch ports c.installed provider tape).2) :
    ReflTransGen (Churn ports revivable) (c, tape)
      (c.redispatch ports provider prepared tape).2 := by
  unfold redispatch
  split
  · exact .refl
  · obtain ⟨running, entry, found, step⟩ := step _ _ _ rfl
    exact .single (.worked running found step)

theorem retryFailed_churn {provider : Provider}
    (guard : ∀ entry ∈ c.jobs, entry.job.id = id → entry.Revives revivable provider) :
    ReflTransGen (Churn ports revivable) (c, tape) (c.retryFailed ports id provider tape).2 := by
  refine redispatch_churn fun before entry' after prepared => ?_
  obtain ⟨_, running, prepared⟩ := bind_ok prepared
  obtain ⟨⟨before, entry, after⟩, found, prepared⟩ := bind_ok prepared
  obtain ⟨metadata, parsed, prepared⟩ := bind_ok prepared
  obtain ⟨_, -, prepared⟩ := bind_ok prepared
  obtain ⟨_, -, prepared⟩ := bind_ok prepared
  obtain ⟨rearmed, rearm, prepared⟩ := bind_ok prepared
  cases prepared
  obtain ⟨split, named, -⟩ := index_ok found
  refine ⟨requireRunning_ok running, entry, split, .retryFailed provider ?_ ?_ rearm⟩
  · unfold Entry.requireMetadata at parsed
    split at parsed
    · cases parsed
    · rename_i some; simp [some]
  · exact guard entry (by simp [split]) named

theorem reupload_churn :
    ReflTransGen (Churn ports revivable) (c, tape) (c.reupload ports id tape).2 := by
  refine redispatch_churn fun before entry' after prepared => ?_
  obtain ⟨_, running, prepared⟩ := bind_ok prepared
  obtain ⟨_, -, prepared⟩ := bind_ok prepared
  obtain ⟨⟨before, entry, after⟩, found, prepared⟩ := bind_ok prepared
  obtain ⟨entry', ready, prepared⟩ := bind_ok prepared
  cases prepared
  exact ⟨requireRunning_ok running, entry, (index_ok found).1, .reupload ready⟩

theorem rechat_churn :
    ReflTransGen (Churn ports revivable) (c, tape) (c.rechat ports id tape).2 := by
  refine redispatch_churn fun before entry' after prepared => ?_
  obtain ⟨_, running, prepared⟩ := bind_ok prepared
  obtain ⟨_, -, prepared⟩ := bind_ok prepared
  obtain ⟨⟨before, entry, after⟩, found, prepared⟩ := bind_ok prepared
  obtain ⟨entry', ready, prepared⟩ := bind_ok prepared
  cases prepared
  exact ⟨requireRunning_ok running, entry, (index_ok found).1, .rechat ready⟩

theorem setHistoryLimit_churn (limit : Nat) :
    ReflTransGen (Churn ports revivable) (c, tape) (c.setHistoryLimit limit tape).2 := by
  unfold setHistoryLimit
  split
  · exact .refl
  · rename_i historyLimit _
    exact .head (.adjusted historyLimit c.resultCursor) (trimTo_churn limit)

theorem cancelAll_churn :
    ReflTransGen (Churn ports revivable) (c, tape) (c.cancelAll ports tape) := by
  unfold cancelAll
  split
  · exact .refl
  · exact .head (.elapsed _) (.head .stopped (trimTo_churn _))

theorem configureProvider_churn (configuration : ProviderConfiguration) :
    ReflTransGen (Churn ports revivable) (c, tape)
      (c, (c.configureProvider ports configuration tape).2) := by
  unfold configureProvider
  split
  · exact .refl
  · split <;> exact .single (.elapsed _)

/-- Every restored entry is a restored record, numbered by its place. -/
theorem restoreJobs_ok {position : Nat} {records : List UploadJobRecord} {jobs : List Entry}
    (h : restoreJobs position records = .ok jobs) :
    List.Forall₂ (fun record entry => entry = Entry.new entry.job false ∧
      ∃ id, UploadJob.restore id record = .ok entry.job) records jobs ∧
    jobs.map (·.job.id.get) =
      (List.range' position records.length).map fun index => UInt64.ofNat index + 1 := by
  induction records generalizing position jobs with
  | nil => cases h; exact ⟨.nil, rfl⟩
  | cons record rest ih =>
    obtain ⟨id, numbered, h⟩ := bind_ok h
    obtain ⟨job, restored, h⟩ := bind_ok h
    obtain ⟨others, tail, h⟩ := bind_ok h
    cases h
    obtain ⟨entries, ids⟩ := ih tail
    have restored := liftJob_ok restored
    refine ⟨.cons ⟨rfl, id, restored⟩ entries, ?_⟩
    rw [List.length_cons, List.range'_succ, List.map_cons, List.map_cons, ids]
    obtain ⟨-, rfl⟩ := UploadJob.restore_ok restored
    rw [← UploadJobId.get_of_new (liftJob_ok numbered)]
    rfl

theorem restoreJobs_files {position : Nat} {records : List UploadJobRecord} {jobs : List Entry}
    (h : restoreJobs position records = .ok jobs) :
    (jobs.map fun entry => entry.job.record.file) = records.map (·.file) := by
  have entries := (restoreJobs_ok h).1
  clear h
  induction entries with
  | nil => rfl
  | cons head _ ih =>
    obtain ⟨-, id, restored⟩ := head
    obtain ⟨-, job⟩ := UploadJob.restore_ok restored
    rw [List.map_cons, List.map_cons, ih, job]

/-- A restore that succeeds found the coordinator untouched. -/
theorem restore_ok {records : List UploadJobRecord} {c' : UploadCoordinator} {tape' : Tape W}
    (h : c.restore records tape = (.ok (), c', tape')) :
    c.nextId = some 1 ∧ c.jobs = [] ∧
      ∃ jobs, restoreJobs 0 (records.drop (records.length - c.historyLimit)) = .ok jobs ∧
        c' = { c with jobs, nextId := some (UInt64.ofNat jobs.length + 1), restored := true } ∧
        tape' = tape.noteAll (jobs.map fun entry => .restored entry.job) := by
  unfold restore at h
  split at h
  · cases h
  · rename_i jobs restored
    cases h
    obtain ⟨_, -, restored⟩ := bind_ok restored
    split at restored
    · cases restored
    rename_i untouched
    simp only [Bool.or_eq_true, bne_iff_ne, ne_eq, Bool.not_eq_eq_eq_not, Bool.not_true,
      not_or, not_not, Bool.not_eq_false, List.isEmpty_iff] at untouched
    exact ⟨untouched.1.2, untouched.2, jobs, restored, rfl, rfl⟩

theorem restore_error {records : List UploadJobRecord} {error : CoordinatorError}
    {c' : UploadCoordinator} {tape' : Tape W}
    (h : c.restore records tape = (.error error, c', tape')) : c' = c ∧ tape' = tape := by
  unfold restore at h
  split at h
  · cases h; exact ⟨rfl, rfl⟩
  · cases h

variable (ports revivable restorable c tape) in
theorem restore_step (records : List UploadJobRecord)
    (guard : ∀ record ∈ records, restorable record) :
    (c.restore records tape).2 = (c, tape) ∨
      Step ports revivable restorable (c, tape) (c.restore records tape).2 := by
  unfold restore
  split
  · exact .inl rfl
  · rename_i jobs restored
    obtain ⟨_, running, restored⟩ := bind_ok restored
    split at restored
    · cases restored
    rename_i untouched
    simp only [Bool.or_eq_true, bne_iff_ne, ne_eq, Bool.not_eq_eq_eq_not, Bool.not_true,
      not_or, not_not, Bool.not_eq_false, List.isEmpty_iff, Bool.not_eq_true] at untouched
    obtain ⟨⟨fresh, first⟩, empty⟩ := untouched
    exact .inr (.restored _ (requireRunning_ok running) fresh first empty
      (by rw [List.length_drop]; omega) (fun record member => guard record (List.mem_of_mem_drop member))
      restored)

/-- Operations that leave the admission of jobs alone. -/
theorem perform_churn (op : CoordinatorOp W) (guard : op.Guarded revivable restorable c)
    (plain : (∀ file enabled, op ≠ .addPending file enabled) ∧ ∀ records, op ≠ .restore records) :
    ReflTransGen (Churn ports revivable) (c, tape) (perform ports (c, tape) op) := by
  cases op with
  | addPending file enabled => exact absurd rfl (plain.1 file enabled)
  | setMetadata id metadata => exact setMetadata_churn metadata
  | failMetadata id cancelled => exact failMetadata_churn cancelled
  | applyResult result => exact applyResult_churn ports revivable c tape result
  | drainResults maxResults => exact drainResults_churn maxResults
  | dispatchDueRetries maxAttempts => exact dispatchDueRetries_churn maxAttempts
  | retryFailed id provider => exact retryFailed_churn guard
  | reupload id => exact reupload_churn
  | rechat id => exact rechat_churn
  | restore records => exact absurd rfl (plain.2 records)
  | setHistoryLimit limit => exact setHistoryLimit_churn limit
  | configureProvider configuration => exact configureProvider_churn configuration
  | cancelAll => exact cancelAll_churn
  | elapse world => exact .single (.elapsed world)

theorem perform_steps (s : Running W) (op : CoordinatorOp W)
    (guard : op.Guarded revivable restorable s.1) :
    ReflTransGen (Step ports revivable restorable) s (perform ports s op) := by
  obtain ⟨c, tape⟩ := s
  cases op with
  | addPending file enabled =>
    rcases addPending_steps ports revivable restorable c tape file enabled with same | ⟨s, churned, admitted⟩
    · rw [perform, same]
    · exact (Step.of_churn churned).tail admitted
  | restore records =>
    rcases restore_step ports revivable restorable c tape records guard with same | restored
    · rw [perform, same]
    · exact .single restored
  | _ => exact Step.of_churn (perform_churn _ guard (by simp))

variable (revivable restorable) in
/-- Any property kept by every step holds of every run. -/
theorem run_invariant {allowed : Running W → CoordinatorOp W → Prop} {start s : Running W}
    {inv : Running W → Prop} (run : Run (perform ports) allowed start s)
    (guarded : ∀ s op, allowed s op → op.Guarded revivable restorable s.1)
    (keeps : ∀ s s', Step ports revivable restorable s s' → inv s → inv s') (h : inv start) : inv s :=
  invariant_of_moves (run.moves fun s op met => perform_steps s op (guarded s op met)) keeps h

end UploadCoordinator
end MannyUploader.Application
