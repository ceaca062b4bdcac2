import MannyUploader.Application.NoStranded
import MannyUploader.Application.PendingMetadata
import MannyUploader.Application.PumpSteps

/-! Every operation of the ingestion coordinator as a sequence of moves. A move leaves the waits
for metadata alone, begins one, ends one or ends them all. -/
namespace MannyUploader.Application
open Domain Foundation Relation

/-- Upload polling and explicit replay. -/
def CoordinatorOp.isCommand : CoordinatorOp W → Bool
  | .addPending .. | .setMetadata .. | .failMetadata .. | .restore _ | .cancelAll => false
  | _ => true

namespace UploadCoordinator
variable {ports : UploadPorts W} {c : UploadCoordinator} {tape : Tape W} {id : UploadJobId}

/-! Nothing but a shutdown sets the flag. -/

@[simp] theorem setMetadata_stopping (metadata : EncounterMetadata) :
    (c.setMetadata ports id metadata tape).2.1.stopping = c.stopping := by
  unfold setMetadata; split <;> rfl

@[simp] theorem failMetadata_stopping (cancelled : Bool) :
    (c.failMetadata id cancelled tape).2.1.stopping = c.stopping := by
  unfold failMetadata; split <;> rfl

@[simp] theorem applyResult_stopping (result : UploadResult) :
    (c.applyResult ports result tape).2.1.stopping = c.stopping := by
  unfold applyResult; split <;> rfl

@[simp] theorem consume_stopping (slot : Provider) (result : UploadResult) :
    (c.consume ports slot result tape).2.1.stopping = c.stopping := by
  have applied : (c.applyResult ports result tape).2.1.stopping = c.stopping :=
    applyResult_stopping result
  unfold consume
  split
  · rfl
  · split <;> rename_i eq <;> rw [eq] at applied <;> exact applied

variable (ports c tape) in
theorem pollProviders_stopping (empty errors : Nat) :
    (pollProviders ports empty errors c tape).2.2.1.stopping = c.stopping := by
  induction empty generalizing errors c tape with
  | zero => rfl
  | succ empty ih =>
    unfold pollProviders
    dsimp only
    split
    · exact ih _ _ errors
    split
    · rfl
    · exact ih _ _ errors
    · exact ih _ _ (errors + 1)

@[simp] theorem drainResults_stopping (maxResults : Nat) :
    (c.drainResults ports maxResults tape).2.1.stopping = c.stopping := by
  have loop : ∀ (budget : Nat) (summary : DrainSummary) (c : UploadCoordinator) (tape : Tape W),
      (drainLoop ports budget summary c tape).2.1.stopping = c.stopping := by
    intro budget
    induction budget with
    | zero => exact fun _ _ _ => rfl
    | succ budget ih =>
      intro summary c tape
      have polled := pollProviders_stopping ports c tape Provider.all.length
        summary.providerErrors
      unfold drainLoop
      split <;> rename_i eq <;> rw [eq] at polled
      · exact polled
      · exact (ih _ _ _).trans ((consume_stopping _ _).trans polled)
  unfold drainResults
  split
  · rfl
  · exact loop maxResults _ c tape

@[simp] theorem dispatchDueRetries_stopping (maxAttempts : Nat) :
    (c.dispatchDueRetries ports maxAttempts tape).2.1.stopping = c.stopping := by
  unfold dispatchDueRetries; split <;> rfl

@[simp] theorem redispatch_stopping (provider : Provider)
    (prepared : Except CoordinatorError (List Entry × Entry × List Entry)) :
    (c.redispatch ports provider prepared tape).2.1.stopping = c.stopping := by
  unfold redispatch; split <;> rfl

@[simp] theorem setHistoryLimit_stopping (limit : Nat) :
    (c.setHistoryLimit limit tape).2.1.stopping = c.stopping := by
  unfold setHistoryLimit; split <;> rfl

@[simp] theorem addPending_stopping (file : LogFileIdentity) (enabled : ProviderSelection) :
    (c.addPending ports file enabled tape).2.1.stopping = c.stopping := by
  unfold addPending; split <;> rfl

variable (ports c tape) in
theorem cancelAll_stopping :
    (c.cancelAll ports tape).1.stopping = true := by
  cases running : c.stopping with
  | true => rw [cancelAll, if_pos running]; exact running
  | false => rw [cancelAll, if_neg (by simp [running])]; rfl

variable (ports) in
/-- A command neither begins nor ends the wait of a job. -/
theorem command_keeps {op : CoordinatorOp W} (command : op.isCommand = true) (s : Running W) :
    (perform ports s op).1.stopping = s.1.stopping ∧
      (perform ports s op).1.pendingIds = s.1.pendingIds := by
  obtain ⟨c, tape⟩ := s
  cases op with
  | addPending => cases command
  | setMetadata => cases command
  | failMetadata => cases command
  | restore => cases command
  | cancelAll => cases command
  | configureProvider => exact ⟨rfl, rfl⟩
  | elapse => exact ⟨rfl, rfl⟩
  | retryFailed => exact ⟨redispatch_stopping _ _, retryFailed_pendingIds _⟩
  | reupload => exact ⟨redispatch_stopping _ _, reupload_pendingIds⟩
  | rechat => exact ⟨redispatch_stopping _ _, rechat_pendingIds⟩
  | _ => simp [perform]

end UploadCoordinator

/-- An ingestion coordinator in its surroundings. -/
abbrev Ingesting (W : Type) := LogIngestionCoordinator × Tape W

inductive IngestMove (ports : UploadPorts W) : Ingesting W → Ingesting W → Prop
  | worked {i : LogIngestionCoordinator} {tape tape' : Tape W} {uploads : UploadCoordinator} :
      ReflTransGen (Churn ports anyIntent) (i.uploads, tape) (uploads, tape') →
      uploads.stopping = i.uploads.stopping → uploads.pendingIds = i.uploads.pendingIds →
      IngestMove ports (i, tape) ({ i with uploads }, tape')
  | forgot {i : LogIngestionCoordinator} {tape : Tape W} (gone retained : List LogFileIdentity) :
      IngestMove ports (i, tape)
        (i, tape.noteAll (gone.map fun oldest => .forgot oldest retained))
  | requested {i : LogIngestionCoordinator} {tape : Tape W} {s : Running W} {job : UploadJob}
      (file : LogFileIdentity) (enabled : ProviderSelection) :
      ReflTransGen (Churn ports anyIntent) (i.uploads, tape) s →
      s.1.stopping = i.uploads.stopping → s.1.pendingIds = i.uploads.pendingIds →
      Admits ports s file enabled job →
      IngestMove ports (i, tape)
        ({ i with uploads := (enrol s job).1, pending := insert job.id i.pending }, (enrol s job).2)
  | settled {i : LogIngestionCoordinator} {tape tape' : Tape W} {uploads : UploadCoordinator}
      (id : UploadJobId) : id ∈ i.pending →
      ReflTransGen (Churn ports anyIntent) (i.uploads, tape) (uploads, tape') →
      uploads.stopping = i.uploads.stopping →
      uploads.pendingIds = i.uploads.pendingIds.erase id →
      IngestMove ports (i, tape) ({ i with uploads, pending := i.pending.erase id }, tape')
  | stopped {i : LogIngestionCoordinator} {tape tape' : Tape W} {uploads : UploadCoordinator} :
      ReflTransGen (Churn ports anyIntent) (i.uploads, tape) (uploads, tape') →
      uploads.stopping = true → uploads.pendingIds = [] →
      IngestMove ports (i, tape) ({ uploads, pending := ∅, stopping := true }, tape')
  | restored {i : LogIngestionCoordinator} {tape tape' : Tape W} {uploads : UploadCoordinator}
      (records : List UploadJobRecord) : i.uploads.restore records tape = (.ok (), uploads, tape') →
      IngestMove ports (i, tape) ({ i with uploads }, tape')

/-- The set of awaited results and the flags of the jobs agree. -/
structure Correlated (s : Ingesting W) : Prop where
  ledger : Ledger (s.1.uploads, s.2)
  ordered : ∀ entry ∈ s.1.uploads.jobs, entry.Ordered
  stopping : s.1.uploads.stopping = s.1.stopping
  pending : ∀ id, id ∈ s.1.pending ↔ id ∈ s.1.uploads.pendingIds
  quiet : s.1.stopping = true → s.1.pending = ∅

theorem ordered_of_churn {ports : UploadPorts W} {s s' : Running W}
    (churn : ReflTransGen (Churn ports anyIntent) s s') (h : ∀ entry ∈ s.1.jobs, entry.Ordered) :
    ∀ entry ∈ s'.1.jobs, entry.Ordered :=
  invariant_of_moves churn (fun _ _ churn h => UploadCoordinator.Step.ordered (.churned churn) h) h

theorem Churn.nextId_eq {ports : UploadPorts W} {s s' : Running W}
    (churn : ReflTransGen (Churn ports anyIntent) s s') : s'.1.nextId = s.1.nextId := by
  induction churn with
  | refl => rfl
  | tail _ last ih => cases last <;> exact ih

theorem Ledger.pendingIds_nodup {s : Running W} (h : Ledger s) : s.1.pendingIds.Nodup := by
  have distinct : s.1.jobs.Pairwise fun first second => first.job.id ≠ second.job.id :=
    h.numbered.imp fun below same => by rw [same] at below; omega
  refine distinct.filterMap Entry.awaited fun first second different id waits other waits' => ?_
  unfold Entry.awaited at waits waits'
  split at waits <;> split at waits' <;> simp_all

/-- An admitted job has a number of its own. -/
theorem Admits.fresh {ports : UploadPorts W} {s : Running W} {file : LogFileIdentity}
    {enabled : ProviderSelection} {job : UploadJob} (admits : Admits ports s file enabled job) :
    s.1.nextId = some job.id.get := by
  obtain ⟨-, next, id, counted, valid, created⟩ := admits
  obtain ⟨-, -, rfl⟩ := UploadJob.new_ok created
  rw [counted, ← UploadJobId.get_of_new valid]

@[simp] theorem enrol_pendingIds (s : Running W) (job : UploadJob) :
    (enrol s job).1.pendingIds = s.1.pendingIds ++ [job.id] := by
  simp [enrol, UploadCoordinator.pendingIds, Entry.awaited, Entry.new]

theorem UploadCoordinator.restore_pendingIds {c c' : UploadCoordinator} {tape tape' : Tape W}
    {records : List UploadJobRecord} (h : c.restore records tape = (.ok (), c', tape')) :
    c.pendingIds = [] ∧ c'.pendingIds = [] := by
  obtain ⟨-, empty, jobs, restored, rfl, -⟩ := restore_ok h
  refine ⟨by simp [pendingIds, empty], List.filterMap_eq_nil_iff.mpr fun entry member => ?_⟩
  obtain ⟨record, -, same, -⟩ := exists_of_forall₂ (restoreJobs_ok restored).1 member
  rw [same]
  rfl

namespace IngestMove
variable {ports : UploadPorts W} {s s' : Ingesting W}

theorem correlated (move : IngestMove ports s s') (h : Correlated s) : Correlated s' := by
  cases move with
  | worked churn stopping pending =>
    refine ⟨h.ledger.churn churn, ordered_of_churn churn h.ordered, stopping.trans h.stopping, ?_,
      h.quiet⟩
    intro id
    rw [pending]
    exact h.pending id
  | forgot gone retained =>
    exact ⟨h.ledger.forgot gone retained, h.ordered, h.stopping, h.pending, h.quiet⟩
  | requested file enabled churn stopping pending admits =>
    refine ⟨(h.ledger.churn churn).enrol admits, ?_, stopping.trans h.stopping, fun id => ?_,
      fun stopped => ?_⟩
    · exact UploadCoordinator.Step.ordered admits.step (ordered_of_churn churn h.ordered)
    · rw [enrol_pendingIds, pending, Finset.mem_insert, List.mem_append, List.mem_singleton, or_comm]
      exact or_congr_left (h.pending id)
    · have running := admits.running
      rw [stopping, h.stopping] at running
      exact absurd (running.symm.trans stopped) (by simp)
  | settled id waits churn stopping pending =>
    refine ⟨h.ledger.churn churn, ordered_of_churn churn h.ordered, stopping.trans h.stopping, ?_, ?_⟩
    · intro other
      rw [pending, Finset.mem_erase, h.ledger.pendingIds_nodup.mem_erase_iff]
      exact and_congr_right fun _ => h.pending other
    · intro stopped
      have empty := h.quiet stopped
      exact absurd (empty ▸ waits) (Finset.notMem_empty id)
  | stopped churn stopping pending =>
    refine ⟨h.ledger.churn churn, ordered_of_churn churn h.ordered, stopping, fun id => ?_,
      fun _ => rfl⟩
    simp [pending]
  | @restored i tape tape' uploads records restored =>
    obtain ⟨before, after⟩ := UploadCoordinator.restore_pendingIds restored
    have step := UploadCoordinator.restore_step ports anyIntent (fun _ => True) i.uploads tape
      records fun _ _ => trivial
    rw [restored] at step
    rcases step with same | step
    · obtain ⟨rfl, rfl⟩ := Prod.mk.inj same
      exact h
    · refine ⟨h.ledger.step step, UploadCoordinator.Step.ordered step h.ordered, ?_, fun id => ?_,
        h.quiet⟩
      · obtain ⟨-, -, jobs, -, rfl, -⟩ := UploadCoordinator.restore_ok restored
        exact h.stopping
      · rw [h.pending, before, after]

end IngestMove

/-- The identifier was given to a job. -/
def UploadCoordinator.Issued (c : UploadCoordinator) (id : UploadJobId) : Prop :=
  ∀ next, c.nextId = some next → id.get.toNat < next.toNat

/-- The job was admitted before, and its wait is over. -/
structure Settled (c : UploadCoordinator) (id : UploadJobId) : Prop where
  issued : c.Issued id
  ended : id ∉ c.pendingIds

theorem not_below_one (id : UploadJobId) : ¬id.get.toNat < (1 : UInt64).toNat := by
  intro below
  exact id.nonzero (UInt64.toNat_inj.mp (by simpa using below))

namespace IngestMove
variable {ports : UploadPorts W} {s s' : Ingesting W} {id : UploadJobId}

theorem issued (move : IngestMove ports s s') (h : s.1.uploads.Issued id) :
    s'.1.uploads.Issued id := by
  intro next counted
  cases move with
  | worked churn => exact h next ((Churn.nextId_eq churn).symm.trans counted)
  | settled _ _ churn => exact h next ((Churn.nextId_eq churn).symm.trans counted)
  | stopped churn => exact h next ((Churn.nextId_eq churn).symm.trans counted)
  | forgot => exact h next counted
  | requested file enabled churn _ _ admits =>
    have below := h _ ((Churn.nextId_eq churn).symm.trans admits.fresh)
    have succ := toNat_of_checkedSucc64 counted
    omega
  | restored records restored =>
    exact absurd (h 1 (UploadCoordinator.restore_ok restored).1) (not_below_one id)

/-- A wait that is over does not begin again. -/
theorem settled_stays (move : IngestMove ports s s') (h : Settled s.1.uploads id) :
    Settled s'.1.uploads id := by
  refine ⟨move.issued h.issued, fun waits => ?_⟩
  cases move with
  | worked _ _ pending => exact h.ended (pending ▸ waits)
  | settled _ _ _ _ pending => exact h.ended (List.mem_of_mem_erase (pending ▸ waits))
  | stopped _ _ pending => exact absurd (pending ▸ waits) List.not_mem_nil
  | forgot => exact h.ended waits
  | requested file enabled churn _ pending admits =>
    rw [enrol_pendingIds, pending, List.mem_append, List.mem_singleton] at waits
    rcases waits with old | rfl
    · exact h.ended old
    · exact lt_irrefl _ (h.issued _ ((Churn.nextId_eq churn).symm.trans admits.fresh))
  | restored records restored =>
    exact absurd ((UploadCoordinator.restore_pendingIds restored).2 ▸ waits) List.not_mem_nil

theorem settled_of_moves (moves : ReflTransGen (IngestMove ports) s s')
    (h : Settled s.1.uploads id) : Settled s'.1.uploads id := by
  induction moves with
  | refl => exact h
  | tail _ last ih => exact last.settled_stays ih

end IngestMove

namespace UploadCoordinator
variable {ports : UploadPorts W} {c : UploadCoordinator} {tape : Tape W} {id : UploadJobId}
  {before after : List Entry} {entry : Entry} (running : c.stopping = false)
  (indexed : c.index id = .ok (before, entry, after)) (awaits : entry.awaitsMetadata = true)
include running indexed awaits

theorem setMetadata_erases (metadata : EncounterMetadata) :
    (c.setMetadata ports id metadata tape).2.1.pendingIds = c.pendingIds.erase id := by
  obtain ⟨waited, missing, -⟩ := Entry.missing_of_awaitsMetadata awaits
  obtain ⟨out, step⟩ : ∃ out, entry.setMetadata ports c.installed metadata tape = .ok out :=
    ⟨_, Entry.setMetadata_eq metadata missing⟩
  have settled := Entry.setMetadata_pending missing step
  unfold setMetadata requireRunning pendingIndex
  simp only [running, indexed, awaits, step, bind, Except.bind, Bool.false_eq_true, if_false, if_true,
    trimTo_pendingIds]
  exact (settled_pendingIds indexed waited settled).2

theorem failMetadata_erases (cancelled : Bool) :
    (c.failMetadata id cancelled tape).2.1.pendingIds = c.pendingIds.erase id := by
  obtain ⟨waited, -⟩ := Entry.missing_of_awaitsMetadata awaits
  obtain ⟨out, step⟩ : ∃ out, entry.failMetadata cancelled = .ok out :=
    ⟨_, Entry.failMetadata_eq cancelled⟩
  have settled := Entry.failMetadata_pending step
  unfold failMetadata requireRunning pendingIndex
  simp only [running, indexed, awaits, step, bind, Except.bind, Bool.false_eq_true, if_false, if_true,
    trimTo_pendingIds]
  exact (settled_pendingIds indexed waited settled).2

end UploadCoordinator

theorem Correlated.awaits {s : Ingesting W} {id : UploadJobId} (h : Correlated s)
    (waits : id ∈ s.1.pending) :
    ∃ entry ∈ s.1.uploads.jobs, entry.awaitsMetadata = true ∧ entry.job.id = id := by
  obtain ⟨entry, member, pending, named⟩ := UploadCoordinator.mem_pendingIds.mp ((h.pending id).mp waits)
  obtain ⟨missing, initial, -⟩ := (h.ordered entry member).pending pending
  refine ⟨entry, member, ?_, named⟩
  simpa [Entry.awaitsMetadata, pending, missing] using initial

theorem Correlated.issued {s : Ingesting W} {id : UploadJobId} (h : Correlated s)
    (waits : id ∈ s.1.pending) : s.1.uploads.Issued id := by
  obtain ⟨entry, member, -, rfl⟩ := h.awaits waits
  exact fun next counted => (h.ledger.counter next counted).1 entry member

theorem Correlated.unissued {s : Ingesting W} {id : UploadJobId} (h : Correlated s)
    (next : s.1.uploads.nextId = some id.get) : id ∉ s.1.pending := by
  exact fun waits => lt_irrefl _ (h.issued waits _ next)

namespace LogIngestionCoordinator
variable {ports : UploadPorts W} {parser : ParserPorts W} {i : LogIngestionCoordinator}
  {tape : Tape W}

variable (ports i tape) in
theorem elapse_ingests (world : W) :
    ReflTransGen (IngestMove ports) (i, tape) (i, { tape with world }) :=
  .single (.worked (.single (.elapsed world)) rfl rfl)

variable (ports i tape) in
theorem command_ingests (op : CoordinatorOp W) (command : op.isCommand = true) :
    IngestMove ports (i, tape)
      ({ i with uploads := (UploadCoordinator.perform ports (i.uploads, tape) op).1 },
        (UploadCoordinator.perform ports (i.uploads, tape) op).2) := by
  obtain ⟨stopping, pending⟩ := UploadCoordinator.command_keeps ports command (i.uploads, tape)
  have churn : ReflTransGen (Churn ports anyIntent) (i.uploads, tape)
      (UploadCoordinator.perform ports (i.uploads, tape) op) := by
    refine UploadCoordinator.perform_churn op (op.unguarded i.uploads) ⟨?_, ?_⟩
    · rintro file enabled rfl
      cases command
    · rintro records rfl
      cases command
  exact .worked churn stopping pending

variable (ports) in
/-- The result for a job that waits is taken up, even where the dispatch after it fails. -/
theorem handOver_pendingIds (h : Correlated (i, tape)) (running : i.stopping = false)
    (result : MetadataResult) (waits : result.jobId ∈ i.pending) :
    (handOver i.uploads ports result tape).2.1.pendingIds =
      i.uploads.pendingIds.erase result.jobId := by
  obtain ⟨entry, member, awaits, named⟩ := h.awaits waits
  have running : i.uploads.stopping = false := h.stopping.trans running
  obtain ⟨before, after, indexed⟩ := UploadCoordinator.index_of_member h.ledger member
  rw [named] at indexed
  unfold handOver
  split
  · exact UploadCoordinator.setMetadata_erases running indexed awaits _
  · exact UploadCoordinator.failMetadata_erases running indexed awaits _

variable (ports tape) in
theorem handOver_stopping (uploads : UploadCoordinator) (result : MetadataResult) :
    (handOver uploads ports result tape).2.1.stopping = uploads.stopping := by
  unfold handOver
  split
  · exact UploadCoordinator.setMetadata_stopping _
  · exact UploadCoordinator.failMetadata_stopping _

variable (ports tape) in
/-- A result that is not awaited is rejected and changes nothing. -/
theorem handleResult_rejects {result : MetadataResult} (other : result.jobId ∉ i.pending) :
    ∃ error, i.handleResult ports result tape = (.error error, i, tape) := by
  unfold handleResult
  split
  · exact ⟨_, rfl⟩
  · exact ⟨_, rfl⟩

variable (ports) in
theorem handleResult_settles (h : Correlated (i, tape)) (running : i.stopping = false)
    {result : MetadataResult} (waits : result.jobId ∈ i.pending) :
    (i.handleResult ports result tape).2.1.pending = i.pending.erase result.jobId ∧
      IngestMove ports (i, tape) (i.handleResult ports result tape).2 := by
  have churn := handOver_churn ports i.uploads result tape
  have stopping := handOver_stopping ports tape i.uploads result
  have pending := handOver_pendingIds ports h running result waits
  unfold handleResult
  rw [if_neg (by simp [running]), if_neg (by simp [waits])]
  dsimp only
  generalize handOver i.uploads ports result tape = out at churn stopping pending
  obtain ⟨answer | answer, c, tape'⟩ := out
  · exact ⟨rfl, .settled _ waits churn stopping pending⟩
  · exact ⟨rfl, .settled _ waits churn stopping pending⟩

variable (ports) in
theorem handleResult_ingests (h : Correlated (i, tape)) (result : MetadataResult) :
    ReflTransGen (IngestMove ports) (i, tape) (i.handleResult ports result tape).2 := by
  by_cases waits : result.jobId ∈ i.pending
  · cases running : i.stopping with
    | true =>
      unfold handleResult
      rw [if_pos running]
    | false => exact .single (handleResult_settles ports h running waits).2
  · obtain ⟨error, same⟩ := handleResult_rejects ports tape waits
    rw [same]

theorem correlated_of_moves {s s' : Ingesting W} (moves : ReflTransGen (IngestMove ports) s s')
    (h : Correlated s) : Correlated s' :=
  invariant_of_moves moves (fun _ _ move h => move.correlated h) h

variable (ports parser) in
theorem drainMetadata_ingests (h : Correlated (i, tape)) (maxResults : Nat) :
    ReflTransGen (IngestMove ports) (i, tape) (i.drainMetadata ports parser maxResults tape).2 := by
  have loop : ∀ (budget : Nat) (summary : MetadataDrainSummary) (i : LogIngestionCoordinator)
      (tape : Tape W), Correlated (i, tape) →
      ReflTransGen (IngestMove ports) (i, tape) (drainLoop ports parser budget summary i tape).2 := by
    intro budget
    induction budget with
    | zero => exact fun _ _ _ _ => .refl
    | succ budget ih =>
      intro summary i tape h
      unfold drainLoop
      split
      · rename_i result world _
        have elapsed := elapse_ingests ports i tape world
        have handled := elapsed.trans
          (handleResult_ingests ports (correlated_of_moves elapsed h) result)
        exact handled.trans (ih _ _ _ (correlated_of_moves handled h))
      · exact elapse_ingests _ _ _ _
      · exact elapse_ingests _ _ _ _
  unfold drainMetadata
  split
  · exact .refl
  · exact loop maxResults _ i tape h

variable (ports parser) in
theorem cancelAll_ingests (h : Correlated (i, tape)) :
    ReflTransGen (IngestMove ports) (i, tape) (i.cancelAll ports parser tape) := by
  have churn := cancelAll_churn i ports parser tape
  cases running : i.stopping with
  | true =>
    unfold cancelAll
    rw [if_pos running]
  | false =>
    have running' : i.uploads.stopping = false := h.stopping.trans running
    have stopped := UploadCoordinator.cancelAll_stopping ports i.uploads
      { tape with world := parser.cancelPending tape.world }
    unfold cancelAll at churn ⊢
    rw [if_neg (by simp [running])] at churn ⊢
    exact .single (.stopped churn stopped (UploadCoordinator.cancelAll_pendingIds running'))

variable (ports i tape) in
/-- An admission whose result is then awaited. -/
theorem addPending_ingests (file : LogFileIdentity) (enabled : ProviderSelection) :
    (∃ error, i.uploads.addPending ports file enabled tape = (.error error, i.uploads, tape)) ∨
      ∃ id, (i.uploads.addPending ports file enabled tape).1 = .ok id ∧
        i.uploads.nextId = some id.get ∧
        IngestMove ports (i, tape) ({ i with
          uploads := (i.uploads.addPending ports file enabled tape).2.1
          pending := insert id i.pending }, (i.uploads.addPending ports file enabled tape).2.2) := by
  rcases UploadCoordinator.addPending_cases ports anyIntent i.uploads tape file enabled with
    refused | ⟨s, job, churned, admits, admitted⟩
  · exact .inl refused
  have stopping : (i.uploads.addPending ports file enabled tape).2.1.stopping =
      i.uploads.stopping := UploadCoordinator.addPending_stopping file enabled
  have pending := UploadCoordinator.addPending_pendingIds ports i.uploads tape file enabled
  rw [admitted] at stopping pending
  refine .inr ⟨job.id, by rw [admitted], (Churn.nextId_eq churned).symm.trans admits.fresh, ?_⟩
  rw [admitted]
  refine .requested file enabled churned stopping ?_ admits
  obtain ⟨id, same, pending⟩ := pending.resolve_left (by simp)
  cases same
  simpa using pending

variable (ports i) in
/-- A job whose request the parser refuses stops waiting at once. -/
theorem giveUp_ingests {id : UploadJobId}
    (h : Correlated ({ i with pending := insert id i.pending }, tape)) (running : ¬i.stopping = true)
    (unissued : id ∉ i.pending) :
    IngestMove ports ({ i with pending := insert id i.pending }, tape)
      ({ i with uploads := (i.uploads.failMetadata id false tape).2.1 },
        (i.uploads.failMetadata id false tape).2.2) := by
  have running : i.stopping = false := by simpa using running
  have waits : id ∈ insert id i.pending := Finset.mem_insert_self id i.pending
  have churn := handOver_churn ports i.uploads ⟨id, .error .internal⟩ tape
  have stopping := handOver_stopping ports tape i.uploads
    ⟨id, .error .internal⟩
  have erased := handOver_pendingIds ports h running ⟨id, .error .internal⟩ waits
  have move := IngestMove.settled (i := { i with pending := insert id i.pending }) id waits churn
    stopping erased
  rw [Finset.erase_insert unissued] at move
  exact move

variable (ports parser) in
theorem submit_ingests (h : Correlated (i, tape)) (file : LogFileIdentity)
    (enabled : ProviderSelection) :
    ReflTransGen (IngestMove ports) (i, tape) (i.submit ports parser file enabled tape).2 := by
  unfold submit
  split
  · exact .refl
  rename_i running
  obtain ⟨world, asked⟩ := availableCapacity_tape i parser tape
  generalize i.availableCapacity parser tape = answer at asked
  obtain ⟨capacity | capacity, tape'⟩ := answer
  · rw [show tape' = _ from asked]
    exact elapse_ingests _ _ _ _
  obtain rfl : tape' = { tape with world } := asked
  have elapsed := elapse_ingests ports i tape world
  have h' := correlated_of_moves elapsed h
  dsimp only
  split
  · exact elapsed
  rcases addPending_ingests ports i { tape with world } file enabled with
    ⟨error, refused⟩ | ⟨id, admitted, fresh, requested⟩
  · rw [refused]
    exact elapsed
  generalize i.uploads.addPending ports file enabled { tape with world } = out at admitted requested
  obtain ⟨answer, uploads, tape'⟩ := out
  obtain rfl : answer = .ok id := admitted
  have correlated := requested.correlated h'
  refine elapsed.trans (.head requested ?_)
  change ReflTransGen (IngestMove ports) _
    (requestMetadata { i with uploads } parser ⟨id, file⟩ tape').2
  unfold requestMetadata
  generalize parser.enqueue ⟨id, file⟩ tape'.world = answer
  obtain ⟨refusal | accepted, world'⟩ := answer
  · have elapsed' := elapse_ingests ports
      { i with uploads, pending := insert id i.pending } tape' world'
    have gaveUp := giveUp_ingests ports { i with uploads }
      (correlated_of_moves elapsed' correlated) running (h.unissued fresh)
    dsimp only at gaveUp ⊢
    generalize uploads.failMetadata id false { tape' with world := world' } = out at gaveUp ⊢
    refine elapsed'.trans (.single ?_)
    obtain ⟨answer | answer, uploads', tape''⟩ := out
    · exact gaveUp
    · exact gaveUp
  · exact elapse_ingests _ _ _ _

end LogIngestionCoordinator
end MannyUploader.Application
