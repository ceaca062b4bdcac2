import MannyUploader.Application.NoStranded
import MannyUploader.Application.AttemptLedger

/-! An operation that fails leaves the coordinator as it was, unless the failure is that of a
dispatch. A dispatch that fails settles what it was meant to deliver. -/
namespace MannyUploader.Application
open Domain Foundation Relation

/-- What a dispatch itself can fail with, after the checks of the operation in front of it:
the provider's answer, and the end of the attempt numbers. -/
def CoordinatorError.raisedByDispatch : CoordinatorError → Bool
  | .dispatch _ | .domain .attemptLimitReached => true
  | _ => false

theorem liftJob_error {result : Except JobError α} {error : CoordinatorError}
    (h : liftJob result = .error error) : ∃ reason, result = .error reason ∧
      error = .domain reason := by
  cases result with
  | ok => cases h
  | error reason => cases h; exact ⟨reason, rfl, rfl⟩

theorem requireProviders_ok {installed : Provider → Bool} {providers : List Provider}
    (h : requireProviders installed providers = .ok ()) :
    ∀ provider ∈ providers, installed provider = true := by
  unfold requireProviders at h
  split at h
  · cases h
  · rename_i none
    simpa using none

theorem requireProviders_error {installed : Provider → Bool} {providers : List Provider}
    {error : CoordinatorError} (h : requireProviders installed providers = .error error) :
    error.raisedByDispatch = false := by
  unfold requireProviders at h
  split at h
  · cases h; rfl
  · cases h

namespace Entry
variable {ports : UploadPorts W} {installed : Provider → Bool} {entry entry' : Entry}
  {tape : Tape W} {provider : Provider} {error : CoordinatorError}

section prepare

theorem transition_waiting_error {job : UploadJob} {reason : JobError}
    (h : job.transition provider .waiting "" = .error reason) :
    (CoordinatorError.domain reason).raisedByDispatch = false := by
  unfold UploadJob.transition at h
  dsimp only at h
  split at h
  · cases h; rfl
  split at h
  · cases h; rfl
  split at h
  · cases h; rfl
  split at h
  · cases h; rfl
  · simp at h

theorem prepareExplicitDelivery_error {job : UploadJob} {reason : JobError}
    (h : job.prepareExplicitDelivery provider = .error reason) :
    (CoordinatorError.domain reason).raisedByDispatch = false := by
  unfold UploadJob.prepareExplicitDelivery at h
  split at h
  · cases h; rfl
  split at h
  · cases h; rfl
  split at h
  · cases h; rfl
  · cases h

theorem prepareSkipped_error {job : UploadJob}
    (h : prepareSkipped job provider = .error error) : error.raisedByDispatch = false := by
  unfold prepareSkipped at h
  split at h
  · obtain ⟨reason, refused, rfl⟩ := liftJob_error h
    exact prepareExplicitDelivery_error refused
  · cases h

theorem foldlM_error {f : UploadJob → Provider → Except CoordinatorError UploadJob}
    (round : ∀ job provider error, f job provider = .error error → error.raisedByDispatch = false)
    {providers : List Provider} {job : UploadJob} (h : providers.foldlM f job = .error error) :
    error.raisedByDispatch = false := by
  induction providers generalizing job with
  | nil => cases h
  | cons p ps ih =>
    rw [List.foldlM_cons] at h
    rcases bind_error h with refused | ⟨next, -, later⟩
    · exact round _ _ _ refused
    · exact ih later

theorem rearm_error (h : entry.rearm provider = .error error) : error.raisedByDispatch = false := by
  unfold rearm at h
  rcases bind_error h with h | ⟨job, -, h⟩
  · unfold prepareRetry at h
    split at h
    · split at h
      · cases h; rfl
      rcases bind_error h with h | ⟨waiting, -, h⟩
      · obtain ⟨reason, refused, rfl⟩ := liftJob_error h
        exact transition_waiting_error refused
      · exact foldlM_error (fun _ _ _ => prepareSkipped_error) h
    · obtain ⟨reason, refused, rfl⟩ := liftJob_error h
      unfold UploadJob.prepareManualRetry at refused
      split at refused
      · cases refused; rfl
      rcases bind_error refused with refused | ⟨waiting, -, refused⟩
      · exact transition_waiting_error refused
      · cases refused
  · cases h

/-- Only the preflight of the destinations can refuse a reupload: after it the job is changed
in place, and skipping its waiting Wingman cannot fail. -/
theorem prepareReupload_error (h : entry.prepareReupload = .error error) :
    uploads.foldlM (fun job provider => liftJob (job.prepareExplicitDelivery provider)) entry.job =
      .error error := by
  unfold prepareReupload at h
  rcases bind_error h with h | ⟨job, prepared, h⟩
  · exact h
  exfalso
  simp only [uploads, List.foldlM_cons, List.foldlM_nil] at prepared
  obtain ⟨first, report, prepared⟩ := bind_ok prepared
  obtain ⟨second, wingman, prepared⟩ := bind_ok prepared
  obtain ⟨third, donbot, prepared⟩ := bind_ok prepared
  cases prepared
  have second' := (redeliver_ok { entry with job := first } (liftJob_ok wingman)).2.2.2
  have third' := (redeliver_ok { entry with job := second } (liftJob_ok donbot)).2.2.2
  have waiting : (Entry.state { entry with job } .wingman) = .waiting := by
    rw [third', redeliver_state, if_neg (by simp)]
    rw [second', redeliver_state, if_pos rfl]
  dsimp only at h
  split at h
  · exact absurd (h.symm.trans (skipWingman_waiting waiting)) (by simp)
  · cases h

theorem requireDependency_error (h : entry.requireDependency provider = .error error) :
    error.raisedByDispatch = false := by
  unfold requireDependency at h
  split at h
  · cases h
  split at h
  · cases h
  split at h
  · cases h
  · cases h; rfl

theorem prepareRechat_error (h : entry.prepareRechat = .error error) :
    error.raisedByDispatch = false := by
  unfold prepareRechat at h
  rcases bind_error h with h | ⟨_, -, h⟩
  · exact requireDependency_error h
  rcases bind_error h with h | ⟨job, -, h⟩
  · obtain ⟨reason, refused, rfl⟩ := liftJob_error h
    exact prepareExplicitDelivery_error refused
  · cases h

end prepare

/-- What an entry needs before a dispatch can only fail as one. -/
structure Ready (installed : Provider → Bool) (entry : Entry) (provider : Provider) : Prop where
  waiting : entry.state provider = .waiting
  parsed : entry.job.record.encounterMetadata.isSome = true
  present : installed provider = true
  depends : entry.requireDependency provider = .ok ()

theorem requireMetadata_ok {metadata : EncounterMetadata}
    (h : entry.requireMetadata = .ok metadata) :
    entry.job.record.encounterMetadata.isSome = true := by
  unfold requireMetadata at h
  split at h
  · cases h
  · rename_i found; simp [found]

/-- A retry keeps what its checks looked at. -/
theorem rearm_ready {metadata : EncounterMetadata}
    (parsed : entry.requireMetadata = .ok metadata) (present : installed provider = true)
    (depends : entry.requireDependency provider = .ok ()) (h : entry.rearm provider = .ok entry') :
    entry'.Ready installed provider := by
  have some := requireMetadata_ok parsed
  have waiting := rearm_state h
  obtain ⟨-, rfl⟩ := rearm_ok h
  refine ⟨waiting, ?_, present, ?_⟩
  · have taken : ∀ (entry : Entry) dependent, (entry.takeUp dependent).job.record.encounterMetadata =
        entry.job.record.encounterMetadata := by
      intro entry dependent; unfold takeUp; split <;> rfl
    split
    · simpa [renew_kept] using some
    split
    · simpa [dependents, taken] using some
    · simpa using some
  · by_cases report : provider = .dpsReport
    · exact if_pos report
    · rw [if_neg (fun both => report both.1), if_neg (fun both => report both.1)]
      have state : (entry.armed provider).state .dpsReport = entry.state .dpsReport := by
        rw [armed_state, if_neg (Ne.symm report)]
      have result : (entry.armed provider).job.record.dpsReportResult =
          entry.job.record.dpsReportResult := by
        cases provider <;> rfl
      unfold requireDependency at depends ⊢
      rwa [state, result]

theorem prepareDispatch_error (ready : entry.Ready installed provider)
    (h : entry.prepareDispatch installed provider = .error error) :
    error = .domain .attemptLimitReached := by
  obtain ⟨metadata, parsed⟩ := Option.isSome_iff_exists.mp ready.parsed
  have waiting : (entry.job.providerStatus provider).state = .waiting := ready.waiting
  unfold prepareDispatch requireMetadata requireProviders at h
  simp only [parsed, ready.present, ready.depends, bind, Except.bind, List.any_cons, List.any_nil,
    Bool.not_true, Bool.or_false, Bool.false_eq_true, ↓reduceIte] at h
  cases moved : entry.job.transition provider .active "Uploading" with
  | ok job => simp [moved, liftJob] at h
  | error reason =>
    simp only [moved, liftJob, Except.error.injEq] at h
    rw [← h]
    unfold UploadJob.transition at moved
    dsimp only at moved
    split at moved
    · rename_i refused
      simp [waiting, ProviderState.allows] at refused
    split at moved
    · rename_i reported
      simp at reported
    split at moved
    · rename_i chat
      obtain ⟨rfl, -, missing⟩ := chat
      rcases requireDependency_ok ready.depends with same | ⟨other, -⟩ | ⟨succeeded, some⟩
      · cases same
      · exact absurd rfl other
      · rcases missing with other | none
        · exact absurd succeeded other
        · simp [none] at some
    split at moved
    · rename_i chat
      simp at chat
    split at moved
    · cases moved; rfl
    · cases moved

/-- A dispatch that fails has settled its destination. -/
theorem dispatch_error (ready : entry.Ready installed provider)
    (h : (entry.dispatch ports installed provider tape).1 = .error error) :
    error.raisedByDispatch = true ∧
      ∃ start : Entry, (start = entry ∨ ∃ job metadata, Offer entry provider job metadata ∧
        start = { entry with job }) ∧
        (entry.dispatch ports installed provider tape).2.1 = start.failDispatch provider := by
  unfold dispatch at h ⊢
  split at h
  · rename_i wvw
    rw [if_pos wvw]
    obtain ⟨rfl, -⟩ := wvw
    rw [skipWingman_waiting ready.waiting] at h
    cases h
  · rename_i elsewhere
    rw [if_neg elsewhere]
    split at h
    · rename_i refused
      cases h
      rw [prepareDispatch_error ready refused]
      exact ⟨rfl, entry, .inl rfl, rfl⟩
    · rename_i metadata job admitted
      have offer := prepareDispatch_offer (.inl ready.waiting) elsewhere admitted
      split at h
      · cases h
      · rename_i answer tape' handed
        cases h
        exact ⟨rfl, _, .inr ⟨job, metadata, offer, rfl⟩, rfl⟩

/-- The destinations of a reupload after its dispatch failed. -/
theorem failDispatch_uploads (start : Entry)
    (busy : (start.state .dpsReport).isBusy = true)
    (still : start.state .wingman ≠ .active ∧ start.state .donbot ≠ .active) :
    ∀ provider ∈ uploads, (start.failDispatch .dpsReport).state provider ≠ .waiting ∧
      (start.failDispatch .dpsReport).state provider ≠ .active := by
  rw [failDispatch_eq busy, if_pos rfl]
  have waits := settleDependents_spec (start.become .dpsReport .failed "Provider unavailable") false
  generalize eq : start.become .dpsReport .failed "Provider unavailable" = failed at waits
  have states : ∀ other, failed.state other =
      if other = .dpsReport then .failed else start.state other := by
    intro other
    rw [← eq, become_state]
  have active : ∀ other ∈ uploads, (failed.settleDependents false).state other = .active →
      failed.state other = .active := by
    intro other member
    unfold settleDependents dependents
    simp only [List.foldl_cons, List.foldl_nil, settleDependent_eq]
    simp only [uploads, List.mem_cons, List.not_mem_nil, or_false] at member
    split_ifs <;> rcases member with rfl | rfl | rfl <;> simp_all
  intro provider member
  refine ⟨fun waiting => ?_, fun running => ?_⟩
  · by_cases report : provider = .dpsReport
    · rw [report, waits.2.2.1, states] at waiting
      cases waiting
    · obtain ⟨rfl, -⟩ := waits.2.2.2 provider report waiting
      simp [uploads] at member
  · have before := active provider member running
    rw [states] at before
    simp only [uploads, List.mem_cons, List.not_mem_nil, or_false] at member
    rcases member with rfl | rfl | rfl
    · cases before
    · exact still.1 before
    · exact still.2 before

end Entry

namespace UploadCoordinator
variable {ports : UploadPorts W} {providers : List Provider} {historyLimit : Nat}
  {c : UploadCoordinator} {world : W} {s : Running W} {error : CoordinatorError}

/-- An error of the operation: either nothing happened, or its last step failed. -/
theorem redispatch_error {provider : Provider} {tape : Tape W}
    {prepared : Except CoordinatorError (List Entry × Entry × List Entry)}
    (preparing : ∀ error, prepared = .error error → error.raisedByDispatch = false)
    (ready : ∀ before entry after, prepared = .ok (before, entry, after) →
      entry.Ready c.installed provider)
    (h : (c.redispatch ports provider prepared tape).1 = .error error) :
    error.raisedByDispatch = false ∧ (c.redispatch ports provider prepared tape).2 = (c, tape) ∨
      error.raisedByDispatch = true ∧ ∃ before entry after, prepared = .ok (before, entry, after) ∧
        (entry.dispatch ports c.installed provider tape).1 = .error error ∧
        (c.redispatch ports provider prepared tape).2.1.jobs =
          before ++ (entry.dispatch ports c.installed provider tape).2.1 :: after := by
  unfold redispatch at h ⊢
  cases prepared with
  | error refused =>
    cases h
    exact .inl ⟨preparing error rfl, rfl⟩
  | ok found =>
    obtain ⟨before, entry, after⟩ := found
    have failed : (entry.dispatch ports c.installed provider tape).1 = .error error := h
    exact .inr ⟨(Entry.dispatch_error (ready before entry after rfl) failed).1, before, entry, after,
      rfl, failed, rfl⟩

theorem requireRunning_error (h : c.requireRunning = .error error) :
    error.raisedByDispatch = false := by
  unfold requireRunning at h
  split at h
  · cases h; rfl
  · cases h

theorem index_error {id : UploadJobId} (h : c.index id = .error error) :
    error.raisedByDispatch = false := by
  unfold index at h
  split at h
  · cases h
  · cases h; rfl

theorem retryFailed_error (ports : UploadPorts W) (id : UploadJobId) (provider : Provider)
    (tape : Tape W) (h : (c.retryFailed ports id provider tape).1 = .error error) :
    error.raisedByDispatch = false → (c.retryFailed ports id provider tape).2 = (c, tape) := by
  intro before
  refine (redispatch_error ?_ ?_ h).elim And.right fun late => absurd late.1 (by simp [before])
  · intro error h
    rcases bind_error h with h | ⟨_, -, h⟩
    · exact requireRunning_error h
    rcases bind_error h with h | ⟨⟨before, entry, after⟩, -, h⟩
    · exact index_error h
    rcases bind_error h with h | ⟨_, -, h⟩
    · unfold Entry.requireMetadata at h
      split at h
      · cases h; rfl
      · cases h
    rcases bind_error h with h | ⟨_, -, h⟩
    · exact requireProviders_error h
    rcases bind_error h with h | ⟨_, -, h⟩
    · exact Entry.requireDependency_error h
    rcases bind_error h with h | ⟨_, -, h⟩
    · exact Entry.rearm_error h
    · cases h
  · intro before entry' after h
    obtain ⟨_, -, h⟩ := bind_ok h
    obtain ⟨⟨before, entry, after⟩, -, h⟩ := bind_ok h
    obtain ⟨metadata, parsed, h⟩ := bind_ok h
    obtain ⟨⟨⟩, present, h⟩ := bind_ok h
    obtain ⟨⟨⟩, depends, h⟩ := bind_ok h
    obtain ⟨rearmed, rearm, h⟩ := bind_ok h
    cases h
    exact Entry.rearm_ready parsed (requireProviders_ok present provider (by simp)) depends rearm

theorem rechat_error (ports : UploadPorts W) (id : UploadJobId) (tape : Tape W)
    (h : (c.rechat ports id tape).1 = .error error) :
    error.raisedByDispatch = false → (c.rechat ports id tape).2 = (c, tape) := by
  intro before
  refine (redispatch_error ?_ ?_ h).elim And.right fun late => absurd late.1 (by simp [before])
  · intro error h
    rcases bind_error h with h | ⟨_, -, h⟩
    · exact requireRunning_error h
    rcases bind_error h with h | ⟨_, -, h⟩
    · exact requireProviders_error h
    rcases bind_error h with h | ⟨⟨before, entry, after⟩, -, h⟩
    · exact index_error h
    rcases bind_error h with h | ⟨_, -, h⟩
    · exact Entry.prepareRechat_error h
    · cases h
  · intro before entry' after h
    obtain ⟨_, -, h⟩ := bind_ok h
    obtain ⟨⟨⟩, present, h⟩ := bind_ok h
    obtain ⟨⟨before, entry, after⟩, -, h⟩ := bind_ok h
    obtain ⟨rechatted, prepared, h⟩ := bind_ok h
    cases h
    have waiting := Entry.prepareRechat_state prepared
    obtain ⟨depends, parsed, -, rfl⟩ := Entry.prepareRechat_ok prepared
    exact ⟨waiting, parsed, requireProviders_ok present .twitch (by simp), depends⟩

theorem reupload_prepared {id : UploadJobId} {before after : List Entry} {entry' : Entry}
    (h : (do
      c.requireRunning
      requireProviders c.installed uploads
      let (before, entry, after) ← c.index id
      let entry ← entry.prepareReupload
      .ok (before, entry, after)) = .ok (before, entry', after)) :
    ∃ entry, c.index id = .ok (before, entry, after) ∧ entry.prepareReupload = .ok entry' ∧
      entry'.Ready c.installed .dpsReport := by
  obtain ⟨_, -, h⟩ := bind_ok h
  obtain ⟨⟨⟩, present, h⟩ := bind_ok h
  obtain ⟨⟨before, entry, after⟩, found, h⟩ := bind_ok h
  obtain ⟨reset, prepared, h⟩ := bind_ok h
  cases h
  refine ⟨entry, found, prepared, Entry.prepareReupload_state prepared, ?_,
    requireProviders_ok present .dpsReport (by simp [uploads]), if_pos rfl⟩
  obtain ⟨parsed, -, rfl⟩ := Entry.prepareReupload_ok prepared
  split <;> simpa using parsed

theorem reupload_error (ports : UploadPorts W) (id : UploadJobId) (tape : Tape W)
    (h : (c.reupload ports id tape).1 = .error error) :
    error.raisedByDispatch = false ∧ (c.reupload ports id tape).2 = (c, tape) ∨
      error.raisedByDispatch = true ∧ ∃ before settled after,
        (c.reupload ports id tape).2.1.jobs = before ++ settled :: after ∧ settled.job.id = id ∧
        ∀ provider ∈ uploads, settled.state provider ≠ .waiting ∧
          settled.state provider ≠ .active := by
  have preparing : ∀ error, (do
      c.requireRunning
      requireProviders c.installed uploads
      let (before, entry, after) ← c.index id
      let entry ← entry.prepareReupload
      Except.ok (before, entry, after)) = .error error → error.raisedByDispatch = false := by
    intro error h
    rcases bind_error h with h | ⟨_, -, h⟩
    · exact requireRunning_error h
    rcases bind_error h with h | ⟨_, -, h⟩
    · exact requireProviders_error h
    rcases bind_error h with h | ⟨⟨before, entry, after⟩, -, h⟩
    · exact index_error h
    rcases bind_error h with h | ⟨_, -, h⟩
    · refine Entry.foldlM_error (fun job provider error h => ?_) (Entry.prepareReupload_error h)
      obtain ⟨reason, refused, rfl⟩ := liftJob_error h
      exact Entry.prepareExplicitDelivery_error refused
    · cases h
  rcases redispatch_error preparing (fun before entry' after prepared => by
    obtain ⟨_, -, -, ready⟩ := reupload_prepared prepared; exact ready) h with early |
    ⟨late, before, entry', after, prepared, failed, jobs⟩
  · exact .inl early
  · obtain ⟨entry, found, prepared, ready⟩ := reupload_prepared prepared
    have step : EntryStep ports c.installed (fun _ _ _ => True) (entry, tape)
        (entry'.dispatch ports c.installed .dpsReport tape).2 := .reupload prepared
    obtain ⟨-, start, from', settled⟩ := Entry.dispatch_error ready failed
    refine .inr ⟨late, before, _, after, jobs, step.about.1.trans (index_ok found).2.1, ?_⟩
    have waits : entry'.state .wingman ≠ .active ∧ entry'.state .donbot ≠ .active := by
      obtain ⟨-, -, rfl⟩ := Entry.prepareReupload_ok prepared
      split <;> simp
    rw [settled]
    rcases from' with rfl | ⟨job, metadata, offer, rfl⟩
    · exact Entry.failDispatch_uploads _ (by rw [ready.waiting]; rfl) waits
    · have state := Entry.offer_state offer
      refine Entry.failDispatch_uploads _ (by rw [state, if_pos rfl]; rfl) ?_
      rw [state, state, if_neg (by simp), if_neg (by simp)]
      exact waits

/-- What fails before a dispatch changes nothing. A reupload whose dispatch fails leaves no
destination behind that nothing will serve. -/
theorem failures_atomic (created : new providers historyLimit = .ok c)
    (run : Run (perform ports) (fun _ _ => True) (c, ⟨world, []⟩) s) :
    (∀ result error, (s.1.applyResult ports result s.2).1 = .error error →
      (s.1.applyResult ports result s.2).2 = s) ∧
    (∀ id provider error, (s.1.retryFailed ports id provider s.2).1 = .error error →
      error.raisedByDispatch = false → (s.1.retryFailed ports id provider s.2).2 = s) ∧
    (∀ id error, (s.1.rechat ports id s.2).1 = .error error →
      error.raisedByDispatch = false → (s.1.rechat ports id s.2).2 = s) ∧
    ∀ id error, (s.1.reupload ports id s.2).1 = .error error →
      (error.raisedByDispatch = false → (s.1.reupload ports id s.2).2 = s) ∧
      (error.raisedByDispatch = true → ∀ entry ∈ (s.1.reupload ports id s.2).2.1.jobs,
        entry.job.id = id → ∀ provider ∈ uploads, entry.state provider ≠ .waiting ∧
          entry.state provider ≠ .active) := by
  refine ⟨fun result error h => ?_, fun id provider error h => retryFailed_error ports id provider _ h,
    fun id error h => rechat_error ports id _ h, fun id error h => ?_⟩
  · unfold applyResult at h ⊢
    split at h
    · rfl
    · cases h
  · rcases reupload_error ports id s.2 h with ⟨early, same⟩ | ⟨late, before, settled, after, jobs,
      named, delivered⟩
    · exact ⟨fun _ => same, fun late => absurd late (by simp [early])⟩
    · refine ⟨fun early => absurd early (by simp [late]), fun _ entry member mine => ?_⟩
      have ledger : Ledger (s.1.reupload ports id s.2).2 :=
        ledger_of_run created (run.step (.reupload id) trivial)
      rw [ledger.distinct member (by simp [jobs] : settled ∈ _) (mine.trans named.symm)]
      exact delivered

/-- Providers that refuse every request. -/
def refusingPorts : UploadPorts Unit :=
  { acceptingPorts with enqueue := fun _ _ world => (.error .unavailable, world) }

/-- A log that no provider took is uploaded again, and refused again. -/
theorem failures_atomic_sample :
    let s := [CoordinatorOp.addPending (sampleLog 1) allEnabled,
      .setMetadata sampleJobId sampleMetadata].foldl (perform refusingPorts)
        (sampleStart ⟨100, by decide⟩)
    (s.1.reupload refusingPorts sampleJobId s.2).1 = .error (.dispatch .unavailable) ∧
      ∀ entry ∈ (s.1.reupload refusingPorts sampleJobId s.2).2.1.jobs, entry.job.id = sampleJobId →
        ∀ provider ∈ uploads, entry.state provider ≠ .waiting ∧ entry.state provider ≠ .active :=
  ⟨by decide, ((failures_atomic (show new Provider.all 100 = .ok _ from rfl)
    (.of_list (perform refusingPorts) (sampleStart ⟨100, by decide⟩) _
      fun _ _ _ => trivial)).2.2.2 sampleJobId (.dispatch .unavailable) (by decide)).2 rfl⟩

end UploadCoordinator
end MannyUploader.Application
