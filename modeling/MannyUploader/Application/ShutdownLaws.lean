import MannyUploader.Application.IngestionLaws

/-! A shutdown is final: what it leaves behind is idle and within the limit, and whatever is
called later changes no job and reaches nothing outside. A panic in `cancel_pending` is caught,
so that the call is whatever it leaves of the world. -/
namespace MannyUploader.Application
open Domain Foundation

namespace UploadCoordinator
variable {ports : UploadPorts W} {c : UploadCoordinator} {tape : Tape W} {s : Running W}

/-- Nothing is in progress, and nothing is retained beyond the limit. -/
structure Closed (c : UploadCoordinator) : Prop where
  idle : ∀ entry ∈ c.jobs, entry.busy = false
  short : c.jobs.length ≤ c.historyLimit

/-- Idle jobs can be evicted down to any limit. -/
theorem closed_of_trim (limit : HistoryLimit) {jobs : List Entry}
    (idle : ∀ entry ∈ jobs, entry.busy = false) (is : c.jobs = jobs)
    (limited : c.historyLimit = limit) : (c.trimTo limit tape).1.Closed := by
  subst is limited
  have removes := trim_removes (fun entry : Entry => !entry.busy) c.historyLimit c.jobs.length c.jobs
  have stops := trim_stops (fun entry : Entry => !entry.busy) c.historyLimit c.jobs.length c.jobs
    le_rfl
  have kept : ∀ entry ∈ (c.trimTo c.historyLimit tape).1.jobs, entry.busy = false :=
    fun entry member => idle entry (removes.sublist.subset member)
  refine ⟨kept, stops.elim id fun none => ?_⟩
  cases left : (c.trimTo c.historyLimit tape).1.jobs with
  | nil => simp
  | cons entry rest =>
    have member : entry ∈ (c.trimTo c.historyLimit tape).1.jobs := by simp [left]
    have busy := none entry member
    rw [kept entry member] at busy
    cases busy

theorem closed_of_cancelAll (running : c.stopping = false) : (c.cancelAll ports tape).1.Closed := by
  rw [cancelAll, if_neg (by simp [running])]
  have idle : ∀ entry ∈ c.jobs.map Entry.cancel, entry.busy = false := by
    intro entry member
    obtain ⟨before, -, rfl⟩ := List.mem_map.mp member
    exact before.cancel_idle
  exact closed_of_trim c.historyLimit idle rfl rfl

/-- What is left of a coordinator that has shut down: some of its jobs, as they were. -/
structure Left (s s' : Running W) : Prop where
  stopped : s'.1.stopping = true
  jobs : s'.1.jobs.Sublist s.1.jobs
  events : ∃ gone : List UploadJob, s'.2.events = s.2.events ++ gone.map .evicted
  closed : s.1.Closed → s'.1.Closed

theorem Left.refl (stopped : s.1.stopping = true) : Left s s :=
  ⟨stopped, .refl _, ⟨[], by simp⟩, id⟩

theorem left_of_setHistoryLimit (stopped : c.stopping = true) (limit : Nat) :
    Left (c, tape) (c.setHistoryLimit limit tape).2 := by
  unfold setHistoryLimit validateLimit
  split_ifs with valid
  · have removes := trim_removes (fun entry : Entry => !entry.busy) limit c.jobs.length c.jobs
    refine ⟨stopped, removes.sublist, ⟨(trim (fun entry : Entry => !entry.busy) limit
      c.jobs.length c.jobs).2.map (·.job), ?_⟩, fun closed => ?_⟩
    · simp [trimTo]
    · exact closed_of_trim ⟨limit, valid⟩ closed.idle rfl rfl
  · exact .refl stopped

/-- Every call but a new limit finds the flag, asks nothing and changes nothing. -/
theorem perform_stopped (ports : UploadPorts W) (stopped : s.1.stopping = true)
    (op : CoordinatorOp W) :
    Left s (perform ports s op) ∧ ∀ other, perform other s op = perform ports s op := by
  obtain ⟨c, tape⟩ := s
  have refused : c.requireRunning = .error .shuttingDown := by
    rw [requireRunning, if_pos stopped]
  have same {op : CoordinatorOp W} (keeps : ∀ ports, perform ports (c, tape) op = (c, tape)) :
      Left (c, tape) (perform ports (c, tape) op) ∧
        ∀ other, perform other (c, tape) op = perform ports (c, tape) op := by
    rw [keeps ports]
    exact ⟨.refl stopped, keeps⟩
  cases op with
  | setHistoryLimit limit => exact ⟨left_of_setHistoryLimit stopped limit, fun _ => rfl⟩
  | elapse world => exact ⟨⟨stopped, .refl _, ⟨[], by simp [perform]⟩, id⟩, fun _ => rfl⟩
  | addPending file enabled =>
    apply same
    intro ports
    simp [perform, addPending, prepareJob, refused, bind, Except.bind]
  | setMetadata id metadata =>
    apply same
    intro ports
    simp [perform, setMetadata, refused, bind, Except.bind]
  | failMetadata id cancelled =>
    apply same
    intro ports
    simp [perform, failMetadata, refused, bind, Except.bind]
  | applyResult result =>
    apply same
    intro ports
    simp [perform, applyResult, refused, bind, Except.bind]
  | drainResults maxResults =>
    apply same
    intro ports
    rw [perform, drainResults, if_pos stopped]
  | dispatchDueRetries maxAttempts =>
    apply same
    intro ports
    rw [perform, dispatchDueRetries, if_pos stopped]
  | retryFailed id provider =>
    apply same
    intro ports
    simp [perform, retryFailed, redispatch, refused, bind, Except.bind]
  | reupload id =>
    apply same
    intro ports
    simp [perform, reupload, redispatch, refused, bind, Except.bind]
  | rechat id =>
    apply same
    intro ports
    simp [perform, rechat, redispatch, refused, bind, Except.bind]
  | restore records =>
    apply same
    intro ports
    simp [perform, restore, refused, bind, Except.bind]
  | configureProvider configuration =>
    apply same
    intro ports
    simp [perform, configureProvider, refused, bind, Except.bind]
  | cancelAll =>
    apply same
    intro ports
    rw [perform, cancelAll, if_pos stopped]

/-- A coordinator that has shut down is closed, and stays shut down. -/
structure Keeps (c c' : UploadCoordinator) : Prop where
  stopped : c.stopping = true → c'.stopping = true
  closed : (c.stopping = true → c.Closed) → c'.stopping = true → c'.Closed

theorem Keeps.refl (c : UploadCoordinator) : Keeps c c := ⟨id, id⟩

theorem Keeps.trans {c' c'' : UploadCoordinator} (one : Keeps c c') (two : Keeps c' c'') :
    Keeps c c'' := ⟨two.stopped ∘ one.stopped, two.closed ∘ one.closed⟩

theorem restore_stopping (records : List UploadJobRecord) :
    (c.restore records tape).2.1.stopping = c.stopping := by
  unfold restore; split <;> rfl

/-- A running coordinator is shut down by `cancel_all` only. -/
theorem perform_keeps (ports : UploadPorts W) (s : Running W) (op : CoordinatorOp W) :
    Keeps s.1 (perform ports s op).1 := by
  cases stopped : s.1.stopping with
  | true =>
    have left := (perform_stopped ports stopped op).1
    exact ⟨fun _ => left.stopped, fun closed _ => left.closed (closed stopped)⟩
  | false =>
    refine ⟨fun stopping => (by rw [stopped] at stopping; cases stopping), fun _ stopping => ?_⟩
    obtain ⟨c, tape⟩ := s
    cases op with
    | cancelAll => exact closed_of_cancelAll stopped
    | restore records =>
      rw [perform, restore_stopping, stopped] at stopping
      cases stopping
    | _ =>
      simp only [perform, addPending_stopping, setMetadata_stopping, failMetadata_stopping,
        applyResult_stopping, drainResults_stopping, dispatchDueRetries_stopping, retryFailed,
        reupload, rechat, redispatch_stopping, setHistoryLimit_stopping] at stopping
      exact absurd (stopped.symm.trans stopping) (fun same => by cases same)

end UploadCoordinator

namespace LogIngestionCoordinator
variable {ports : UploadPorts W} {parser : ParserPorts W} {i : LogIngestionCoordinator}
  {tape : Tape W}

/-- Ingestion that has shut down awaits nothing, and the coordinator behind it has shut down. -/
structure Keeps (i i' : LogIngestionCoordinator) : Prop where
  stopping : i'.stopping = i.stopping
  pending : i.stopping = true → i'.pending = i.pending
  uploads : i.uploads.Keeps i'.uploads

theorem Keeps.refl (i : LogIngestionCoordinator) : Keeps i i := ⟨rfl, fun _ => rfl, .refl _⟩

theorem Keeps.trans {i' i'' : LogIngestionCoordinator} (one : Keeps i i') (two : Keeps i' i'') :
    Keeps i i'' := by
  refine ⟨two.stopping.trans one.stopping, fun stopped => ?_, one.uploads.trans two.uploads⟩
  rw [two.pending (one.stopping.trans stopped), one.pending stopped]

theorem keeps_of_uploads (pending : Finset UploadJobId) {uploads : UploadCoordinator}
    (running : i.stopping = false) (keeps : i.uploads.Keeps uploads) :
    Keeps i { i with uploads, pending } :=
  ⟨rfl, fun stopped => (by rw [running] at stopped; cases stopped), keeps⟩

variable (ports i tape) in
theorem keeps_of_command (op : CoordinatorOp W) :
    Keeps i { i with uploads := (UploadCoordinator.perform ports (i.uploads, tape) op).1 } :=
  ⟨rfl, fun _ => rfl, UploadCoordinator.perform_keeps ports (i.uploads, tape) op⟩

variable (ports parser i) in
theorem submit_keeps (file : LogFileIdentity) (enabled : ProviderSelection) (tape : Tape W) :
    Keeps i (i.submit ports parser file enabled tape).2.1 := by
  unfold submit
  split
  · exact .refl i
  next running =>
    rw [Bool.not_eq_true] at running
    split
    · exact .refl i
    next capacity tape _ =>
      split
      · exact .refl i
      have added := UploadCoordinator.perform_keeps ports (i.uploads, tape) (.addPending file enabled)
      rw [UploadCoordinator.perform] at added
      split
      next refused =>
        rw [refused] at added
        exact keeps_of_uploads _ running added
      next id uploads tape' admitted =>
        rw [admitted] at added
        unfold requestMetadata
        split
        · exact keeps_of_uploads _ running added
        next world _ =>
          have failed := UploadCoordinator.perform_keeps ports (uploads, { tape' with world })
            (.failMetadata id false)
          rw [UploadCoordinator.perform] at failed
          split
          next refused =>
            rw [refused] at failed
            exact keeps_of_uploads _ running (added.trans failed)
          next refused =>
            rw [refused] at failed
            exact keeps_of_uploads _ running (added.trans failed)

variable (ports) in
theorem handleResult_keeps (i : LogIngestionCoordinator) (result : MetadataResult) (tape : Tape W) :
    Keeps i (i.handleResult ports result tape).2.1 := by
  have handed : i.uploads.Keeps (handOver i.uploads ports result tape).2.1 := by
    unfold handOver
    split
    · exact UploadCoordinator.perform_keeps ports (i.uploads, tape) (.setMetadata _ _)
    · exact UploadCoordinator.perform_keeps ports (i.uploads, tape) (.failMetadata _ _)
  unfold handleResult
  split
  · exact .refl i
  next running =>
    rw [Bool.not_eq_true] at running
    split
    · exact .refl i
    dsimp only
    split
    next done =>
      rw [done] at handed
      exact keeps_of_uploads _ running handed
    next failed =>
      rw [failed] at handed
      exact keeps_of_uploads _ running handed

variable (ports parser) in
theorem drainLoop_keeps (budget : Nat) (summary : MetadataDrainSummary) (tape : Tape W) :
    Keeps i (drainLoop ports parser budget summary i tape).2.1 := by
  induction budget generalizing summary i tape with
  | zero => exact .refl i
  | succ budget ih =>
    unfold drainLoop
    split
    · exact (handleResult_keeps ports i _ _).trans (ih _ _)
    · exact .refl i
    · exact .refl i

variable (ports parser i) in
theorem drainMetadata_keeps (maxResults : Nat) (tape : Tape W) :
    Keeps i (i.drainMetadata ports parser maxResults tape).2.1 := by
  unfold drainMetadata
  split
  · exact .refl i
  · exact drainLoop_keeps ports parser _ _ _

end LogIngestionCoordinator

/-- A call of any method of the three owners: the pump, the ingestion coordinator in it, and
the upload coordinator in that. -/
inductive OwnerOp (W : Type)
  | ingestion (op : IngestionOp W)
  | uploads (op : CoordinatorOp W)

namespace ApplicationPump
variable {ports : PumpPorts W} {pump : ApplicationPump} {tape : Tape W} {s : Pumping W}

def own (ports : PumpPorts W) (s : Pumping W) : OwnerOp W → Pumping W
  | .ingestion op => ingest ports s op
  | .uploads op =>
    let (uploads, tape) := UploadCoordinator.perform ports.uploads (s.1.uploads, s.2) op
    (s.1.withUploads uploads, tape)

structure Keeps (pump pump' : ApplicationPump) : Prop where
  stopping : pump'.stopping = pump.stopping
  ingestion : pump.ingestion.Keeps pump'.ingestion

theorem Keeps.refl (pump : ApplicationPump) : Keeps pump pump := ⟨rfl, .refl _⟩

theorem Keeps.trans {pump' pump'' : ApplicationPump} (one : Keeps pump pump')
    (two : Keeps pump' pump'') : Keeps pump pump'' :=
  ⟨two.stopping.trans one.stopping, one.ingestion.trans two.ingestion⟩

variable (ports pump tape) in
theorem keeps_of_uploads (op : CoordinatorOp W) :
    Keeps pump (pump.withUploads
      (UploadCoordinator.perform ports.uploads (pump.uploads, tape) op).1) :=
  ⟨rfl, LogIngestionCoordinator.keeps_of_command ports.uploads pump.ingestion tape op⟩

variable (ports pump) in
theorem drainWork_keeps (tape : Tape W) : Keeps pump (pump.drainWork ports tape).2.1 := by
  unfold drainWork
  split
  · exact .refl pump
  split
  · exact .refl pump
  next world _ =>
    have drained := LogIngestionCoordinator.drainMetadata_keeps ports.uploads ports.parser
      pump.ingestion pump.options.maxMetadataResults { tape with world }
    revert drained
    generalize pump.ingestion.drainMetadata ports.uploads ports.parser
      pump.options.maxMetadataResults { tape with world } = out
    obtain ⟨metadata, ingestion, tape⟩ := out
    intro drained
    have results := LogIngestionCoordinator.keeps_of_command ports.uploads ingestion tape
      (.drainResults pump.options.maxUploadResults)
    rw [UploadCoordinator.perform] at results
    revert results
    dsimp only
    generalize ingestion.uploads.drainResults ports.uploads pump.options.maxUploadResults tape = out
    obtain ⟨summary, uploads, tape⟩ := out
    intro results
    have retried := LogIngestionCoordinator.keeps_of_command ports.uploads { ingestion with uploads }
      tape (.dispatchDueRetries pump.options.maxRetries)
    exact ⟨rfl, (drained.trans results).trans retried⟩

variable (ports pump) in
theorem observe_keeps (enabled : ProviderSelection) (observation : LogFileIdentity)
    (tape : Tape W) : Keeps pump (pump.observe ports enabled observation tape).2.1 := by
  unfold observe
  split
  · exact .refl pump
  · exact ⟨rfl, .refl _⟩
  next file discovery _ =>
    have submitted := LogIngestionCoordinator.submit_keeps ports.uploads ports.parser
      pump.ingestion file enabled (pump.noteForgotten [file] tape)
    split
    next refused =>
      rw [refused] at submitted
      exact ⟨rfl, submitted⟩
    next accepted =>
      rw [accepted] at submitted
      exact ⟨rfl, submitted⟩

variable (ports) in
theorem observeAll_keeps (enabled : ProviderSelection) (observations : List LogFileIdentity)
    (report : TickReport) (pump : ApplicationPump) (tape : Tape W) :
    Keeps pump (observeAll ports enabled observations report pump tape).2.1 := by
  induction observations generalizing report pump tape with
  | nil => exact .refl pump
  | cons observation rest ih =>
    unfold observeAll
    split
    · exact .refl pump
    split
    · exact .refl pump
    next capacity tape _ =>
      split
      · exact .refl pump
      have observed := observe_keeps ports pump enabled observation tape
      split
      next refused =>
        rw [refused] at observed
        exact observed
      next accepted =>
        rw [accepted] at observed
        exact observed.trans (ih _ _ _)

variable (ports pump) in
theorem tick_keeps (enabled : ProviderSelection) (tape : Tape W) :
    Keeps pump (pump.tick ports enabled tape).2.1 := by
  have drained := drainWork_keeps ports pump tape
  unfold tick
  split
  next failed =>
    rw [failed] at drained
    exact drained
  next worked =>
    rw [worked] at drained
    split
    · exact drained
    next batch world _ =>
      have moved (discovery : LogDiscovery) (pump : ApplicationPump) :
          Keeps pump { pump with discovery } := ⟨rfl, .refl _⟩
      exact (drained.trans (moved _ _)).trans (observeAll_keeps ports enabled _ _ _ _)

theorem restoreHistory_keeps (ports : PumpPorts W) (pump : ApplicationPump)
    (records : List UploadJobRecord) (tape : Tape W) :
    Keeps pump (pump.restoreHistory records tape).2.1 := by
  unfold restoreHistory
  split
  · exact .refl pump
  have restored := keeps_of_uploads ports pump tape (.restore records)
  rw [UploadCoordinator.perform] at restored
  split
  next failed =>
    rw [failed] at restored
    exact restored
  next done =>
    rw [done] at restored
    exact ⟨restored.stopping, restored.ingestion⟩

/-- The flags and the waits of a pump, as a shutdown leaves them. -/
structure Fenced (pump : ApplicationPump) : Prop where
  ingestion : pump.stopping = true → pump.ingestion.stopping = true
  uploads : pump.ingestion.stopping = true →
    pump.uploads.stopping = true ∧ pump.ingestion.pending = ∅
  closed : pump.uploads.stopping = true → pump.uploads.Closed

theorem Keeps.fenced {pump' : ApplicationPump} (keeps : Keeps pump pump') (h : pump.Fenced) :
    pump'.Fenced := by
  refine ⟨fun stopped => ?_, fun stopped => ?_, keeps.ingestion.uploads.closed h.closed⟩
  · rw [keeps.stopping] at stopped
    rw [keeps.ingestion.stopping]
    exact h.ingestion stopped
  · rw [keeps.ingestion.stopping] at stopped
    obtain ⟨uploads, pending⟩ := h.uploads stopped
    exact ⟨keeps.ingestion.uploads.stopped uploads, (keeps.ingestion.pending stopped).trans pending⟩

/-- What a shutdown leaves behind. -/
structure ShutDown (pump : ApplicationPump) : Prop where
  stopping : pump.stopping = true
  ingestion : pump.ingestion.stopping = true
  uploads : pump.uploads.stopping = true
  quiet : pump.ingestion.pending = ∅
  closed : pump.uploads.Closed

theorem Fenced.shutDown (h : pump.Fenced) (stopped : pump.stopping = true) : pump.ShutDown := by
  have ingestion := h.ingestion stopped
  obtain ⟨uploads, quiet⟩ := h.uploads ingestion
  exact ⟨stopped, ingestion, uploads, quiet, h.closed uploads⟩

variable (ports tape) in
theorem ingestion_cancelAll_fenced (h : pump.Fenced) :
    Fenced { pump with
      ingestion := (pump.ingestion.cancelAll ports.uploads ports.parser tape).1 } := by
  unfold LogIngestionCoordinator.cancelAll
  split
  · exact h
  · have stopped := UploadCoordinator.cancelAll_stopping ports.uploads pump.ingestion.uploads
      { tape with world := ports.parser.cancelPending tape.world }
    have keeps := UploadCoordinator.perform_keeps ports.uploads (pump.ingestion.uploads,
      { tape with world := ports.parser.cancelPending tape.world }) .cancelAll
    exact ⟨fun _ => rfl, fun _ => ⟨stopped, rfl⟩, keeps.closed h.closed⟩

theorem cancelAll_fenced (h : pump.Fenced) : (pump.cancelAll ports tape).1.Fenced := by
  unfold cancelAll
  split
  · exact h
  · have inner := ingestion_cancelAll_fenced ports tape h
    have stopped : (pump.ingestion.cancelAll ports.uploads ports.parser tape).1.stopping = true := by
      unfold LogIngestionCoordinator.cancelAll
      split
      · assumption
      · rfl
    exact ⟨fun _ => stopped, inner.uploads, inner.closed⟩

variable (ports) in
theorem own_fenced (h : s.1.Fenced) (op : OwnerOp W) : (own ports s op).1.Fenced := by
  obtain ⟨pump, tape⟩ := s
  cases op with
  | uploads op => exact (keeps_of_uploads ports pump tape op).fenced h
  | ingestion op =>
    cases op with
    | submit file enabled =>
      have submitted := LogIngestionCoordinator.submit_keeps ports.uploads ports.parser
        pump.ingestion file enabled tape
      exact Keeps.fenced (show Keeps pump _ from ⟨rfl, submitted⟩) h
    | handleResult result =>
      have handled := LogIngestionCoordinator.handleResult_keeps ports.uploads pump.ingestion
        result tape
      exact Keeps.fenced (show Keeps pump _ from ⟨rfl, handled⟩) h
    | drainMetadata maxResults =>
      have drained := LogIngestionCoordinator.drainMetadata_keeps ports.uploads ports.parser
        pump.ingestion maxResults tape
      exact Keeps.fenced (show Keeps pump _ from ⟨rfl, drained⟩) h
    | cancelAll => exact ingestion_cancelAll_fenced ports tape h
    | pump op =>
      cases op with
      | tick enabled => exact (tick_keeps ports pump enabled tape).fenced h
      | drainWork => exact (drainWork_keeps ports pump tape).fenced h
      | reconfigureSource options =>
        apply Keeps.fenced _ h
        dsimp only [own, ingest, perform, reconfigureSource]
        split
        · exact .refl pump
        split
        · exact .refl pump
        · exact ⟨rfl, .refl _⟩
      | setRequiredMatches requiredMatches =>
        apply Keeps.fenced _ h
        dsimp only [own, ingest, perform, setRequiredMatches]
        split
        · exact .refl pump
        split
        · exact .refl pump
        · exact ⟨rfl, .refl _⟩
      | updateParserCapacity capacity => exact h
      | restoreHistory records => exact (restoreHistory_keeps ports pump records tape).fenced h
      | seedProcessedLogs files =>
        apply Keeps.fenced _ h
        dsimp only [own, ingest, perform, seedProcessedLogs]
        split
        · exact .refl pump
        split
        · exact .refl pump
        · exact ⟨rfl, .refl _⟩
      | command op =>
        apply Keeps.fenced _ h
        dsimp only [own, ingest, perform]
        split
        · exact .refl pump
        · exact keeps_of_uploads ports pump tape op
      | cancelAll => exact cancelAll_fenced h
      | elapse world => exact h

/-- What is left of a pump that has shut down: some of its jobs, as they were. -/
structure Left (s s' : Pumping W) : Prop where
  jobs : s'.1.uploads.jobs.Sublist s.1.uploads.jobs
  discovery : s'.1.discovery = s.1.discovery
  events : ∃ gone : List UploadJob, s'.2.events = s.2.events ++ gone.map .evicted

theorem Left.refl (s : Pumping W) : Left s s := ⟨.refl _, rfl, [], by simp⟩

theorem Left.trans {s' s'' : Pumping W} (one : Left s s') (two : Left s' s'') : Left s s'' := by
  obtain ⟨gone, events⟩ := one.events
  obtain ⟨gone', events'⟩ := two.events
  refine ⟨two.jobs.trans one.jobs, two.discovery.trans one.discovery, gone ++ gone', ?_⟩
  rw [events', events, List.map_append, List.append_assoc]

/-- Whatever is called after a shutdown leaves the jobs and discovery alone, and asks nothing of
what is outside: it would come to the same with any other provider, parser and source. -/
theorem own_shutDown (ports : PumpPorts W) (h : s.1.ShutDown) (op : OwnerOp W) :
    (Left s (own ports s op) ∧ (own ports s op).1.stopping = true) ∧
      ∀ other, own other s op = own ports s op := by
  obtain ⟨pump, tape⟩ := s
  change pump.ShutDown at h
  have still {op : OwnerOp W} (keeps : ∀ ports, own ports (pump, tape) op = (pump, tape)) :
      (Left (pump, tape) (own ports (pump, tape) op) ∧
        (own ports (pump, tape) op).1.stopping = true) ∧
          ∀ other, own other (pump, tape) op = own ports (pump, tape) op := by
    rw [keeps ports]
    exact ⟨⟨.refl _, h.stopping⟩, keeps⟩
  have uploads (op : CoordinatorOp W) :
      (Left (pump, tape) (own ports (pump, tape) (.uploads op)) ∧
        (own ports (pump, tape) (.uploads op)).1.stopping = true) ∧
          ∀ other, own other (pump, tape) (.uploads op) = own ports (pump, tape) (.uploads op) := by
    have stopped : (pump.uploads, tape).1.stopping = true := h.uploads
    obtain ⟨left, same⟩ := UploadCoordinator.perform_stopped ports.uploads stopped op
    refine ⟨⟨⟨left.jobs, rfl, left.events⟩, h.stopping⟩, fun other => ?_⟩
    rw [own, own, same other.uploads]
  cases op with
  | uploads op => exact uploads op
  | ingestion op =>
    cases op with
    | submit file enabled =>
      apply still
      intro ports
      simp [own, ingest, LogIngestionCoordinator.submit, h.ingestion]
    | handleResult result =>
      apply still
      intro ports
      simp [own, ingest, LogIngestionCoordinator.handleResult, h.ingestion]
    | drainMetadata maxResults =>
      apply still
      intro ports
      simp [own, ingest, LogIngestionCoordinator.drainMetadata, h.ingestion]
    | cancelAll =>
      apply still
      intro ports
      simp [own, ingest, LogIngestionCoordinator.cancelAll, h.ingestion]
    | pump op =>
      cases op with
      | command op =>
        cases admits : op.admitsJobs with
        | true =>
          apply still
          intro ports
          simp [own, ingest, perform, admits]
        | false =>
          have same (ports : PumpPorts W) : own ports (pump, tape) (.ingestion (.pump (.command op))) =
              own ports (pump, tape) (.uploads op) := by simp [own, ingest, perform, admits]
          rw [same]
          refine ⟨(uploads op).1, fun other => ?_⟩
          rw [same, (uploads op).2]
      | elapse world => exact ⟨⟨⟨.refl _, rfl, [], by simp [own, ingest, perform]⟩, h.stopping⟩, fun _ => rfl⟩
      | tick enabled =>
        apply still
        intro ports
        simp [own, ingest, perform, tick, drainWork, h.stopping]
      | drainWork =>
        apply still
        intro ports
        simp [own, ingest, perform, drainWork, h.stopping]
      | reconfigureSource options =>
        apply still
        intro ports
        simp [own, ingest, perform, reconfigureSource, h.stopping]
      | setRequiredMatches requiredMatches =>
        apply still
        intro ports
        simp [own, ingest, perform, setRequiredMatches, h.stopping]
      | updateParserCapacity capacity =>
        apply still
        intro ports
        simp [own, ingest, perform, LogIngestionCoordinator.updateParserCapacity, h.ingestion]
      | restoreHistory records =>
        apply still
        intro ports
        simp [own, ingest, perform, restoreHistory, seedHistory, h.stopping]
      | seedProcessedLogs files =>
        apply still
        intro ports
        simp [own, ingest, perform, seedProcessedLogs, h.stopping]
      | cancelAll =>
        apply still
        intro ports
        simp [own, ingest, perform, cancelAll, h.stopping]

/-- After a shutdown, wherever it begins, nothing is busy or awaited, and no later call with any
argument changes a job or accepts a file. Every such call comes to the same with any other
clock, providers, parser and source, so that it hands them nothing. -/
theorem shutdown_final {providers : List Provider} {historyLimit : Nat} {options : PumpOptions}
    {c : UploadCoordinator} {later : Pumping W}
    (created : UploadCoordinator.new providers historyLimit = .ok c)
    (started : new (.new c) options = .ok pump)
    (run : Run (own ports) (fun _ _ => True) (pump, tape) s)
    (onward : Run (own ports) (fun _ _ => True) (s.1.cancelAll ports s.2) later) :
    later.1.ShutDown ∧ Left (s.1.cancelAll ports s.2) later ∧
      ∀ op other, own other later op = own ports later op := by
  have fresh : pump.Fenced := by
    obtain ⟨ingestion, -, -, running, -⟩ := new_ok started
    obtain ⟨-, -, -, running'⟩ := UploadCoordinator.new_ok created
    have idle : pump.ingestion.stopping = false := by rw [ingestion]; rfl
    have open' : pump.uploads.stopping = false := by
      rw [uploads, ingestion]
      exact running'
    exact ⟨fun stopped => absurd (running.symm.trans stopped) (fun same => by cases same),
      fun stopped => absurd (idle.symm.trans stopped) (fun same => by cases same),
      fun stopped => absurd (open'.symm.trans stopped) (fun same => by cases same)⟩
  have keeps : ∀ (s : Pumping W) (op : OwnerOp W), True → s.1.Fenced → (own ports s op).1.Fenced :=
    fun _ op _ h => own_fenced ports h op
  have reached : s.1.Fenced := run.invariant keeps fresh
  have stopped : (s.1.cancelAll ports s.2).1.stopping = true := by
    unfold cancelAll
    split
    · assumption
    · rfl
  have start : (s.1.cancelAll ports s.2).1.ShutDown := (cancelAll_fenced reached).shutDown stopped
  have final : later.1.ShutDown ∧ Left (s.1.cancelAll ports s.2) later := by
    induction onward with
    | refl => exact ⟨start, .refl _⟩
    | step op _ _ ih =>
      obtain ⟨down, left⟩ := ih
      obtain ⟨⟨left', stopped'⟩, -⟩ := own_shutDown ports down op
      have fenced := own_fenced ports ⟨fun _ => down.ingestion,
        fun _ => ⟨down.uploads, down.quiet⟩, fun _ => down.closed⟩ op
      exact ⟨fenced.shutDown stopped', left.trans left'⟩
  exact ⟨final.1, final.2, fun op other => (own_shutDown ports final.1 op).2 other⟩

/-- A pump is shut down while the parser works on a log. The result comes too late, and a
further log is handed to nobody. -/
theorem shutdown_final_sample :
    let s := own directoryPorts (narrowPump, ⟨[], []⟩)
      (.ingestion (.submit (logNamed "a.zevtc" 1) allEnabled))
    let down := s.1.cancelAll directoryPorts s.2
    let late := own directoryPorts down (.uploads (.setMetadata sampleJobId sampleMetadata))
    sampleJobId ∈ s.1.ingestion.pending ∧ Left down late ∧
      ∀ other, own other late (.ingestion (.submit (logNamed "b.zevtc" 1) allEnabled)) =
        own directoryPorts late (.ingestion (.submit (logNamed "b.zevtc" 1) allEnabled)) := by
  have waits : sampleJobId ∈ (own directoryPorts (narrowPump, ⟨[], []⟩)
      (.ingestion (.submit (logNamed "a.zevtc" 1) allEnabled))).1.ingestion.pending := by decide
  obtain ⟨-, left, same⟩ := shutdown_final
    (show UploadCoordinator.new Provider.all 2 = .ok (sampleStart ⟨2, by decide⟩).1 from rfl)
    (show new _ (sampleOptions 2) = .ok narrowPump from rfl)
    (.step (.ingestion (.submit (logNamed "a.zevtc" 1) allEnabled)) .refl trivial)
    (.step (.uploads (.setMetadata sampleJobId sampleMetadata)) .refl trivial)
  exact ⟨waits, left, same _⟩

end ApplicationPump
end MannyUploader.Application
