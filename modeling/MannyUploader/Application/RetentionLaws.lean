import MannyUploader.Application.AtomicFailures
import MannyUploader.Application.PendingMetadata

/-! What the coordinator retains. Only idle jobs leave, and the limit is exceeded only by jobs
that are all busy, although some operations never trim. -/
namespace MannyUploader.Application
open Domain Foundation Relation

namespace Entry
variable {ports : UploadPorts W} {installed : Provider → Bool} {entry entry' : Entry}
  {tape : Tape W} {provider other : Provider}

theorem busy_of_state (h : (entry.state provider).isBusy = true) : entry.busy = true := by
  simp only [busy, Bool.or_eq_true, List.any_eq_true]
  exact .inr ⟨provider, provider.mem_all, h⟩

/-- A parsed job is busy by one of its providers. -/
theorem busy_parsed (parsed : entry.metadataPending = false) (h : entry.busy = true) :
    ∃ provider, (entry.state provider).isBusy = true := by
  simp only [busy, parsed, Bool.false_or, List.any_eq_true] at h
  exact h.imp fun _ found => found.2

theorem settleDependents_other (cancelled : Bool) (h : entry.state other ≠ .waiting) :
    (entry.settleDependents cancelled).state other = entry.state other := by
  unfold settleDependents dependents
  simp only [List.foldl_cons, List.foldl_nil, settleDependent_eq]
  split_ifs <;> cases other <;> simp_all

theorem failDispatch_other (busy : (entry.state provider).isBusy = true)
    (different : other ≠ provider) (safe : provider = .dpsReport → entry.state other ≠ .waiting) :
    (entry.failDispatch provider).state other = entry.state other := by
  have kept : (entry.become provider .failed "Provider unavailable").state other =
      entry.state other := by
    rw [become_state, if_neg different]
  rw [failDispatch_eq busy]
  split
  · rename_i report
    rw [settleDependents_other false (by rw [kept]; exact safe report), kept]
  · exact kept

/-- A dispatch leaves the other providers alone, waiting dependents of dps.report apart. -/
theorem dispatch_other (waits : queued (entry.state provider)) (different : other ≠ provider)
    (safe : provider = .dpsReport → entry.state other ≠ .waiting) :
    (entry.dispatch ports installed provider tape).2.1.state other = entry.state other := by
  have cases := dispatch_cases ports installed tape waits
  generalize (entry.dispatch ports installed provider tape).2 = out at cases ⊢
  cases cases with
  | skipped wingman => rw [become_state, if_neg (wingman ▸ different)]
  | kept => rfl
  | refused => exact failDispatch_other waits.isBusy.1 different safe
  | accepted world offer => exact (offer_state offer other).trans (if_neg different)
  | rejected error world offer =>
    have state := offer_state offer
    have kept := (state other).trans (if_neg different)
    exact (failDispatch_other (by rw [state, if_pos rfl]; rfl) different
      fun report => by rw [kept]; exact safe report).trans kept

section busy
variable (h : entry.Ordered) (busy : entry.busy = true)
include h busy

/-- A busy job stays busy when one of its failed providers is retried, whatever comes of it. -/
theorem retryFailed_busy (parsed : entry.job.record.encounterMetadata.isSome = true)
    (prepared : entry.rearm provider = .ok entry') :
    (entry'.dispatch ports installed provider tape).2.1.busy = true := by
  have pending := parsed_of_metadata h parsed
  have waits := rearm_state prepared
  obtain ⟨failed, eq⟩ := rearm_ok prepared
  obtain ⟨other, busy⟩ := busy_parsed pending busy
  have different : other ≠ provider := by
    rintro rfl
    simp [failed, ProviderState.isBusy] at busy
  have running : provider = .dpsReport → entry.state other ≠ .waiting := by
    rintro rfl waiting
    rcases (h.parsed pending).dependent other different waiting with active | scheduled
    · simp [failed] at active
    · simp [failed, ProviderState.isRetryScheduled] at scheduled
  have kept : entry'.state other = entry.state other := by
    have skipped : ∀ {state : ProviderState}, state.isBusy = true → state ≠ .skipped := by
      rintro state busy rfl
      cases busy
    have armed : (entry.armed provider).state other = entry.state other := by
      rw [armed_state, if_neg different]
    rw [eq]
    split
    · rename_i grouped
      rw [grouped.1] at different
      have := skipped busy
      simp only [renew_state, armed_state]
      grind
    split
    · simp only [dependents, List.foldl_cons, List.foldl_nil, takeUp_state, armed]
      have := skipped busy
      grind
    · exact armed
  have still : (entry'.dispatch ports installed provider tape).2.1.state other =
      entry.state other := by
    rw [dispatch_other (.inl waits) different fun report => by rw [kept]; exact running report, kept]
  exact busy_of_state (still ▸ busy)

theorem reupload_busy (prepared : entry.prepareReupload = .ok entry') :
    (entry'.dispatch ports installed .dpsReport tape).2.1.busy = true := by
  have waits := prepareReupload_state prepared
  obtain ⟨metadata, idle, eq⟩ := prepareReupload_ok prepared
  have pending := parsed_of_metadata h metadata
  obtain ⟨other, busy⟩ := busy_parsed pending busy
  obtain rfl : other = .twitch := by
    have := idle other
    cases other <;> simp_all [uploads]
  have kept : entry'.state .twitch = entry.state .twitch := by
    rw [eq]
    split <;> simp
  have running : entry.state .twitch ≠ .waiting := by
    intro waiting
    have report := idle .dpsReport (by simp [uploads])
    rcases (h.parsed pending).dependent .twitch (by simp) waiting with active | scheduled
    · simp [active, ProviderState.isBusy] at report
    · exact absurd report (by rw [queued.isBusy (.inr scheduled) |>.1]; simp)
  have still : (entry'.dispatch ports installed .dpsReport tape).2.1.state .twitch =
      entry.state .twitch := by
    rw [dispatch_other (.inl waits) (by simp) fun _ => by rw [kept]; exact running, kept]
  exact busy_of_state (still ▸ busy)

theorem rechat_busy (prepared : entry.prepareRechat = .ok entry') :
    (entry'.dispatch ports installed .twitch tape).2.1.busy = true := by
  have waits := prepareRechat_state prepared
  obtain ⟨-, metadata, idle, eq⟩ := prepareRechat_ok prepared
  obtain ⟨other, busy⟩ := busy_parsed (parsed_of_metadata h metadata) busy
  have different : other ≠ .twitch := by
    rintro rfl
    simp [idle] at busy
  have kept : entry'.state other = entry.state other := by
    rw [eq]
    change (entry.redeliver .twitch).state other = _
    rw [redeliver_state, if_neg different]
  have still : (entry'.dispatch ports installed .twitch tape).2.1.state other =
      entry.state other := by
    rw [dispatch_other (.inl waits) different (by simp), kept]
  exact busy_of_state (still ▸ busy)

end busy
end Entry

namespace UploadCoordinator
variable {ports : UploadPorts W} {c : UploadCoordinator} {tape : Tape W} {before after : List Entry}
  {entry entry' : Entry} {id : UploadJobId}

/-- Over the limit there are only busy jobs. -/
def Full (c : UploadCoordinator) : Prop :=
  c.historyLimit < c.jobs.length → ∀ entry ∈ c.jobs, entry.busy = true

theorem trimTo_bound (limit : Nat) : (c.trimTo limit tape).1.jobs.length ≤ limit ∨
    ∀ entry ∈ (c.trimTo limit tape).1.jobs, entry.busy = true := by
  refine (trim_stops (fun entry : Entry => !entry.busy) limit c.jobs.length c.jobs le_rfl).imp id
    fun kept entry member => ?_
  simpa using kept entry member

theorem trimTo_full : (c.trimTo c.historyLimit tape).1.Full :=
  fun many => (trimTo_bound c.historyLimit).resolve_left (Nat.not_le.mpr many)

theorem replaced_full (full : c.Full) (found : c.jobs = before ++ entry :: after)
    (busy : entry.busy = true → entry'.busy = true) :
    Full { c with jobs := before ++ entry' :: after } := by
  intro many
  refine forall_replaced found (full ?_) busy
  rw [found]
  simpa using many

theorem applyResult_full (full : c.Full) (result : UploadResult) :
    (c.applyResult ports result tape).2.1.Full := by
  unfold applyResult
  split
  · exact full
  · exact trimTo_full

theorem setMetadata_full (full : c.Full) (metadata : EncounterMetadata) :
    (c.setMetadata ports id metadata tape).2.1.Full := by
  unfold setMetadata
  split
  · exact full
  · exact trimTo_full

theorem failMetadata_full (full : c.Full) (cancelled : Bool) :
    (c.failMetadata id cancelled tape).2.1.Full := by
  unfold failMetadata
  split
  · exact full
  · exact trimTo_full

theorem pollProviders_full (full : c.Full) (empty errors : Nat) :
    (pollProviders ports empty errors c tape).2.2.1.Full := by
  induction empty generalizing errors c tape with
  | zero => exact full
  | succ empty ih =>
    have moved : Full { c with resultCursor := c.resultCursor.successor } := full
    unfold pollProviders
    dsimp only
    split
    · exact ih moved errors
    split
    · exact full
    · exact ih moved errors
    · exact ih moved (errors + 1)

theorem consume_full (full : c.Full) (slot : Provider) (result : UploadResult) :
    (c.consume ports slot result tape).2.1.Full := by
  have applied : (c.applyResult ports result tape).2.1.Full := applyResult_full full result
  unfold consume
  split
  · exact full
  · split <;> rename_i eq <;> rw [eq] at applied <;> exact applied

theorem drainLoop_full (full : c.Full) (budget : Nat) (summary : DrainSummary) :
    (drainLoop ports budget summary c tape).2.1.Full := by
  induction budget generalizing summary c tape with
  | zero => exact full
  | succ budget ih =>
    have polled : (pollProviders ports Provider.all.length summary.providerErrors c tape).2.2.1.Full :=
      pollProviders_full full _ _
    unfold drainLoop
    split <;> rename_i eq <;> rw [eq] at polled
    · exact polled
    · exact ih (consume_full polled _ _) _

theorem drainResults_full (full : c.Full) (maxResults : Nat) :
    (c.drainResults ports maxResults tape).2.1.Full := by
  unfold drainResults
  split
  · exact full
  · exact drainLoop_full full maxResults _

theorem dispatchDueRetries_full (full : c.Full) (maxAttempts : Nat) :
    (c.dispatchDueRetries ports maxAttempts tape).2.1.Full := by
  unfold dispatchDueRetries
  split
  · exact full
  · exact trimTo_full

theorem setHistoryLimit_full (full : c.Full) (limit : Nat) :
    (c.setHistoryLimit limit tape).2.1.Full := by
  unfold setHistoryLimit validateLimit
  split
  · exact full
  · rename_i valid
    split at valid
    · cases valid; exact trimTo_full
    · cases valid

theorem cancelAll_full (full : c.Full) : (c.cancelAll ports tape).1.Full := by
  unfold cancelAll
  split
  · exact full
  · exact trimTo_full

theorem redispatch_full (full : c.Full) {provider : Provider}
    {prepared : Except CoordinatorError (List Entry × Entry × List Entry)}
    (step : ∀ before entry' after, prepared = .ok (before, entry', after) →
      ∃ entry, c.jobs = before ++ entry :: after ∧ (entry.busy = true →
        (entry'.dispatch ports c.installed provider tape).2.1.busy = true)) :
    (c.redispatch ports provider prepared tape).2.1.Full := by
  unfold redispatch
  split
  · exact full
  · obtain ⟨entry, found, busy⟩ := step _ _ _ rfl
    exact replaced_full full found busy

theorem retryFailed_full (full : c.Full) (ordered : ∀ entry ∈ c.jobs, entry.Ordered)
    (provider : Provider) : (c.retryFailed ports id provider tape).2.1.Full := by
  refine redispatch_full full fun before entry' after prepared => ?_
  obtain ⟨_, -, prepared⟩ := bind_ok prepared
  obtain ⟨⟨before, entry, after⟩, found, prepared⟩ := bind_ok prepared
  obtain ⟨metadata, parsed, prepared⟩ := bind_ok prepared
  obtain ⟨_, -, prepared⟩ := bind_ok prepared
  obtain ⟨_, -, prepared⟩ := bind_ok prepared
  obtain ⟨rearmed, rearm, prepared⟩ := bind_ok prepared
  cases prepared
  obtain ⟨split, -⟩ := index_ok found
  exact ⟨entry, split, fun busy => Entry.retryFailed_busy (ordered entry (by simp [split])) busy
    (Entry.requireMetadata_ok parsed) rearm⟩

theorem reupload_full (full : c.Full) (ordered : ∀ entry ∈ c.jobs, entry.Ordered) :
    (c.reupload ports id tape).2.1.Full := by
  refine redispatch_full full fun before entry' after prepared => ?_
  obtain ⟨entry, found, ready, -⟩ := reupload_prepared prepared
  obtain ⟨split, -⟩ := index_ok found
  exact ⟨entry, split, fun busy => Entry.reupload_busy (ordered entry (by simp [split])) busy ready⟩

theorem rechat_full (full : c.Full) (ordered : ∀ entry ∈ c.jobs, entry.Ordered) :
    (c.rechat ports id tape).2.1.Full := by
  refine redispatch_full full fun before entry' after prepared => ?_
  obtain ⟨_, -, prepared⟩ := bind_ok prepared
  obtain ⟨_, -, prepared⟩ := bind_ok prepared
  obtain ⟨⟨before, entry, after⟩, found, prepared⟩ := bind_ok prepared
  obtain ⟨entry', ready, prepared⟩ := bind_ok prepared
  cases prepared
  obtain ⟨split, -⟩ := index_ok found
  exact ⟨entry, split, fun busy => Entry.rechat_busy (ordered entry (by simp [split])) busy ready⟩

variable (ports c tape) in
/-- The check in front of an admission leaves room for it once the idle jobs may go. -/
theorem addPending_bound (file : LogFileIdentity) (enabled : ProviderSelection) :
    (∃ error, c.addPending ports file enabled tape = (.error error, c, tape)) ∨
      ∃ id, (c.addPending ports file enabled tape).1 = .ok id ∧
        (c.addPending ports file enabled tape).2.1.jobs.length ≤
          (c.addPending ports file enabled tape).2.1.historyLimit := by
  unfold addPending
  split
  · rename_i error _; exact .inl ⟨error, rfl⟩
  · rename_i job prepared
    obtain ⟨-, -, -, room⟩ := prepareJob_ok prepared
    refine .inr ⟨job.id, rfl, ?_⟩
    have limit := c.historyLimit.2.1
    have bound : (c.trimTo (c.historyLimit - 1) tape).1.jobs.length ≤ c.historyLimit - 1 := by
      refine (trimTo_bound _).elim id fun busy => ?_
      have kept : (c.trimTo (c.historyLimit - 1) tape).1.jobs.Sublist c.jobs :=
        (trim_removes _ _ _ _).sublist
      have counted : _ ≤ c.jobs.countP Entry.busy := kept.countP_le
      rw [List.countP_eq_length.mpr busy] at counted
      omega
    change (_ ++ [Entry.new job true]).length ≤ (c.historyLimit : Nat)
    rw [List.length_append, List.length_singleton]
    exact Nat.le_sub_one_iff_lt (by omega) |>.mp bound

theorem restore_full (full : c.Full) (records : List UploadJobRecord) :
    (c.restore records tape).2.1.Full := by
  unfold restore
  split
  · exact full
  · rename_i jobs restored
    obtain ⟨_, -, restored⟩ := bind_ok restored
    split at restored
    · cases restored
    intro many
    have few := (restoreJobs_ok restored).1.length_eq
    rw [List.length_drop] at few
    dsimp only at many
    omega

theorem perform_full (full : c.Full) (ordered : ∀ entry ∈ c.jobs, entry.Ordered)
    (op : CoordinatorOp W) : (perform ports (c, tape) op).1.Full := by
  cases op with
  | addPending file enabled =>
    rcases addPending_bound ports c tape file enabled with
      ⟨error, same⟩ | ⟨id, -, bound⟩
    · rw [perform, same]; exact full
    · exact fun many => absurd bound (Nat.not_le.mpr many)
  | setMetadata id metadata => exact setMetadata_full full metadata
  | failMetadata id cancelled => exact failMetadata_full full cancelled
  | applyResult result => exact applyResult_full full result
  | drainResults maxResults => exact drainResults_full full maxResults
  | dispatchDueRetries maxAttempts => exact dispatchDueRetries_full full maxAttempts
  | retryFailed id provider => exact retryFailed_full full ordered provider
  | reupload id => exact reupload_full full ordered
  | rechat id => exact rechat_full full ordered
  | restore records => exact restore_full full records
  | setHistoryLimit limit => exact setHistoryLimit_full full limit
  | configureProvider => exact full
  | cancelAll => exact cancelAll_full full
  | elapse => exact full

end UploadCoordinator

/-- A job of the state before that is no longer retained left as an idle one. -/
def Retains (s s' : Running W) (more : List Event) : Prop :=
  ∀ entry ∈ s.1.jobs, (∃ entry' ∈ s'.1.jobs, entry'.job.id = entry.job.id) ∨
    ∃ job, .evicted job ∈ more ∧ job.id = entry.job.id ∧
      ∀ provider, (job.providerStatus provider).state.isBusy = false

theorem Step.retains {ports : UploadPorts W}
    {revivable : UploadJobId → Provider → UploadIntent → Prop} {restorable : UploadJobRecord → Prop}
    {s s' : Running W} (step : Step ports revivable restorable s s') :
    ∃ more, s'.2.events = s.2.events ++ more ∧ Retains s s' more := by
  have same : ∀ entry ∈ s.1.jobs, ∃ entry' ∈ s.1.jobs, entry'.job.id = entry.job.id :=
    fun entry member => ⟨entry, member, rfl⟩
  cases step with
  | churned churn =>
    cases churn with
    | worked _ found step =>
      obtain ⟨id, more, events, -⟩ := step.about
      refine ⟨more, events, fun entry member => .inl ?_⟩
      rw [found] at member
      simp only [List.mem_append, List.mem_cons] at member
      rcases member with first | rfl | last
      · exact ⟨entry, by simp [first], rfl⟩
      · exact ⟨_, by simp, id⟩
      · exact ⟨entry, by simp [last], rfl⟩
    | @evicted c tape before after gone found idle =>
      refine ⟨[.evicted gone.job], rfl, fun entry member => ?_⟩
      rw [found] at member
      simp only [List.mem_append, List.mem_cons] at member
      rcases member with first | rfl | last
      · exact .inl ⟨entry, by simp [first], rfl⟩
      · simp only [Entry.busy, Bool.or_eq_false_iff, List.any_eq_false] at idle
        exact .inr ⟨entry.job, by simp, rfl, fun provider => by
          simpa [Entry.state] using idle.2 provider provider.mem_all⟩
      · exact .inl ⟨entry, by simp [last], rfl⟩
    | adjusted => exact ⟨[], by simp, fun entry member => .inl (same entry member)⟩
    | elapsed => exact ⟨[], by simp, fun entry member => .inl (same entry member)⟩
    | stopped =>
      exact ⟨[], by simp, fun entry member =>
        .inl ⟨entry.cancel, List.mem_map_of_mem member, entry.cancel_id⟩⟩
  | admitted =>
    exact ⟨_, rfl, fun entry member => .inl ⟨entry, List.mem_append_left _ member, rfl⟩⟩
  | restored _ _ _ _ empty =>
    refine ⟨_, rfl, fun entry member => ?_⟩
    rw [empty] at member
    cases member

theorem Step.retains_many {ports : UploadPorts W}
    {revivable : UploadJobId → Provider → UploadIntent → Prop} {restorable : UploadJobRecord → Prop}
    {s s' : Running W} (steps : ReflTransGen (Step ports revivable restorable) s s') :
    ∃ more, s'.2.events = s.2.events ++ more ∧ Retains s s' more := by
  induction steps with
  | refl => exact ⟨[], by simp, fun entry member => .inl ⟨entry, member, rfl⟩⟩
  | tail _ last ih =>
    obtain ⟨more, events, retained⟩ := ih
    obtain ⟨more', events', retained'⟩ := last.retains
    refine ⟨more ++ more', by rw [events', events, List.append_assoc], fun entry member => ?_⟩
    rcases retained entry member with ⟨kept, listed, id⟩ | ⟨job, gone, id, idle⟩
    · rcases retained' kept listed with ⟨kept', listed', id'⟩ | ⟨job, gone, id', idle⟩
      · exact .inl ⟨kept', listed', id'.trans id⟩
      · exact .inr ⟨job, List.mem_append_right _ gone, id'.trans id, idle⟩
    · exact .inr ⟨job, List.mem_append_left _ gone, id, idle⟩

/-- The operations that may end the wait of a job for its metadata. -/
def CoordinatorOp.settlesMetadata (id : UploadJobId) : CoordinatorOp W → Prop
  | .setMetadata other _ | .failMetadata other _ => other = id
  | .cancelAll => True
  | _ => False

namespace UploadCoordinator
variable {ports : UploadPorts W} {providers : List Provider} {historyLimit : Nat}
  {c : UploadCoordinator} {tape : Tape W} {world : W} {s : Running W} {id : UploadJobId}

variable (c tape) in
/-- A restore changes nothing once there are jobs. -/
theorem restore_of_jobs (records : List UploadJobRecord) :
    (c.restore records tape).2 = (c, tape) ∨ c.jobs = [] := by
  cases restored : c.restore records tape with
  | mk result rest =>
    cases result with
    | ok => exact .inr (restore_ok restored).2.1
    | error error =>
      obtain ⟨same, unheard⟩ := restore_error restored
      exact .inl (Prod.ext same unheard)

variable (ports) in
theorem perform_pendingIds (op : CoordinatorOp W) (waits : id ∈ s.1.pendingIds)
    (other : ¬op.settlesMetadata id) : id ∈ (perform ports s op).1.pendingIds := by
  obtain ⟨c, tape⟩ := s
  cases op with
  | addPending file enabled =>
    rcases addPending_pendingIds ports c tape file enabled with ⟨error, same⟩ | ⟨new, -, joined⟩
    · rw [perform, same]; exact waits
    · exact joined ▸ List.mem_append_left _ waits
  | setMetadata named metadata =>
    rcases setMetadata_pendingIds ports c tape named metadata with ⟨error, same⟩ | ⟨-, erased⟩
    · rw [perform, same]; exact waits
    · exact erased ▸ (List.mem_erase_of_ne (Ne.symm other)).mpr waits
  | failMetadata named cancelled =>
    rcases failMetadata_pendingIds c tape named cancelled with ⟨error, same⟩ | ⟨-, erased⟩
    · rw [perform, same]; exact waits
    · exact erased ▸ (List.mem_erase_of_ne (Ne.symm other)).mpr waits
  | restore records =>
    rcases restore_of_jobs c tape records with same | empty
    · rw [perform, same]; exact waits
    · obtain ⟨entry, member, -⟩ := mem_pendingIds.mp waits
      rw [empty] at member
      cases member
  | cancelAll => exact absurd trivial other
  | elapse => exact waits
  | configureProvider => exact waits
  | _ => simpa [perform] using waits

theorem full_of_run (created : new providers historyLimit = .ok c)
    (run : Run (perform ports) (fun _ _ => True) (c, ⟨world, []⟩) s) : s.1.Full := by
  have keeps : ∀ (s : Running W) (op : CoordinatorOp W), True →
      (∀ entry ∈ s.1.jobs, entry.Ordered) ∧ s.1.Full →
      (∀ entry ∈ (perform ports s op).1.jobs, entry.Ordered) ∧ (perform ports s op).1.Full := by
    rintro s op - ⟨ordered, full⟩
    refine ⟨?_, perform_full full ordered op⟩
    exact invariant_of_moves (perform_steps s op (op.unguarded s.1))
      (fun _ _ step h => Step.ordered step h) ordered
  have both : (∀ entry ∈ s.1.jobs, entry.Ordered) ∧ s.1.Full := by
    apply run.invariant keeps
    obtain ⟨empty, -⟩ := new_ok created
    exact ⟨by simp [empty], fun _ => by simp [empty]⟩
  exact both.2

/-- Jobs keep the order of their identifiers, only idle jobs leave, and beyond the limit no job
is idle. An admission makes its room first or changes nothing. -/
theorem retention (created : new providers historyLimit = .ok c)
    (run : Run (perform ports) (fun _ _ => True) (c, ⟨world, []⟩) s) :
    (s.1.jobs.Pairwise fun first second => first.job.id.get < second.job.id.get) ∧
    (s.1.jobs.map (·.job.id)).Nodup ∧
    (∀ next, s.1.nextId = some next → ∀ entry ∈ s.1.jobs, entry.job.id.get < next) ∧
    (∀ op : CoordinatorOp W, ∀ entry ∈ s.1.jobs, entry.busy = true →
      (∃ entry' ∈ (perform ports s op).1.jobs, entry'.job.id = entry.job.id) ∨
      (entry.metadataPending = true → op.settlesMetadata entry.job.id) ∧
        ∃ job more, (perform ports s op).2.events = s.2.events ++ more ∧ .evicted job ∈ more ∧
          job.id = entry.job.id ∧ ∀ provider, (job.providerStatus provider).state.isBusy = false) ∧
    (s.1.historyLimit < s.1.jobs.length → ∀ entry ∈ s.1.jobs, entry.busy = true) ∧
    ∀ file enabled,
      (∃ error, s.1.addPending ports file enabled s.2 = (.error error, s)) ∨
      (∃ id, (s.1.addPending ports file enabled s.2).1 = .ok id) ∧
        (s.1.addPending ports file enabled s.2).2.1.jobs.length ≤
          (s.1.addPending ports file enabled s.2).2.1.historyLimit := by
  have ledger := ledger_of_run created run
  refine ⟨ledger.numbered.imp fun below => UInt64.lt_iff_toNat_lt.mpr below, ?_,
    fun next counted entry member =>
      UInt64.lt_iff_toNat_lt.mpr ((ledger.counter next counted).1 entry member),
    fun op entry member busy => ?_, full_of_run created run, fun file enabled => ?_⟩
  · refine List.pairwise_map.mpr (ledger.numbered.imp fun below same => ?_)
    rw [same] at below
    omega
  · obtain ⟨more, events, retained⟩ := Step.retains_many (perform_steps s op (op.unguarded s.1))
    by_cases waits : entry.metadataPending = true ∧ ¬op.settlesMetadata entry.job.id
    · have listed := perform_pendingIds ports op
        (mem_pendingIds.mpr ⟨entry, member, waits.1, rfl⟩) waits.2
      obtain ⟨entry', member', -, same⟩ := mem_pendingIds.mp listed
      exact .inl ⟨entry', member', same⟩
    · rcases retained entry member with kept | ⟨job, gone, named, idle⟩
      · exact .inl kept
      · exact .inr ⟨by tauto, job, more, events, gone, named, idle⟩
  · rcases addPending_bound ports s.1 s.2 file enabled with ⟨error, same⟩ | ⟨id, admitted, bound⟩
    · exact .inl ⟨error, same⟩
    · exact .inr ⟨⟨id, admitted⟩, bound⟩

/-- Two busy jobs under a limit that was lowered to one. -/
theorem retention_sample :
    let s := [CoordinatorOp.addPending (sampleLog 1) allEnabled,
      .addPending (sampleLog 2) allEnabled, .setHistoryLimit 1].foldl (perform acceptingPorts)
        (sampleStart ⟨100, by decide⟩)
    s.1.historyLimit.val = 1 ∧ s.1.jobs.length = 2 ∧ (∀ entry ∈ s.1.jobs, entry.busy = true) ∧
      ∃ error, s.1.addPending acceptingPorts (sampleLog 3) allEnabled s.2 = (.error error, s) := by
  have law := retention (show new Provider.all 100 = .ok _ from rfl)
    (.of_list (perform acceptingPorts) (sampleStart ⟨100, by decide⟩)
      [CoordinatorOp.addPending (sampleLog 1) allEnabled, .addPending (sampleLog 2) allEnabled,
        .setHistoryLimit 1] fun _ _ _ => trivial)
  refine ⟨by decide, by decide, law.2.2.2.2.1 (by decide), ?_⟩
  refine (law.2.2.2.2.2 (sampleLog 3) allEnabled).resolve_right fun admitted => ?_
  exact absurd admitted.2 (by decide)

end UploadCoordinator
end MannyUploader.Application
