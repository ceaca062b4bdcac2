import MannyUploader.Application.EntryMoves

/-! The operations on one entry. `EntryStep` lists them, and each is a sequence of moves. -/
namespace MannyUploader.Application
open Domain Foundation Relation

theorem liftJob_ok {result : Except JobError α} {value : α} (h : liftJob result = .ok value) :
    result = .ok value := by
  cases result with
  | ok found => simpa [liftJob] using h
  | error error => simp [liftJob] at h

/-- An outcome settles the attempt: it neither restarts it nor leaves it as it is. -/
theorem Recorded.settles {record record' : UploadJobRecord} {provider : Provider}
    {next : ProviderState}
    (h : Recorded record provider next record') : next ≠ .active ∧ next ≠ .waiting := by
  cases h with
  | twitch _ _ _ _ ending => rcases ending with ⟨-, rfl⟩ | ⟨-, rfl⟩ <;> simp
  | unsuccessful _ _ ending =>
    exact ⟨by rintro rfl; simp [ProviderState.isRetryScheduled] at ending,
      by rintro rfl; simp [ProviderState.isRetryScheduled] at ending⟩
  | _ => simp

/-- Recording an outcome touches receipts only. -/
theorem Recorded.same {record record' : UploadJobRecord} {provider : Provider}
    {next : ProviderState} (h : Recorded record provider next record') :
    record'.providers = record.providers ∧ record'.file = record.file ∧
      record'.encounterMetadata = record.encounterMetadata ∧
      record'.detectedAt = record.detectedAt := by
  cases h <;> exact ⟨rfl, rfl, rfl, rfl⟩

namespace Entry
variable {revivable : UploadJobId → Provider → UploadIntent → Prop} {ports : UploadPorts W}
  {installed : Provider → Bool} {entry entry' : Entry} {tape : Tape W} {provider : Provider}

section complete
variable {job job' : UploadJob} {next : ProviderState}

/-- Only dps.report records its success and its state at once. -/
theorem recordSuccess_ok {success : UploadSuccess} {detail : Option String}
    (h : recordSuccess job provider success detail = .ok job') :
    (∃ report, provider = .dpsReport ∧ report.permalink.isEmpty = false ∧
      (job.providerStatus .dpsReport).state = .active ∧
      job' = ({ job with record := { job.record with dpsReportResult := some report } } :
        UploadJob).withStatus .dpsReport { job.providerStatus .dpsReport with
          state := .succeeded, detail := detail.getD "Uploaded" }) ∨
    (∃ receipt, provider = .twitch ∧ job.record.twitchDeliveryReceipt = none ∧
      receipt.isValid = true ∧
      job' = { job with record := { job.record with twitchDeliveryReceipt := some receipt } }) ∨
    (∃ record, (provider = .wingman ∨ provider = .donbot) ∧
      Recorded job.record provider .succeeded record ∧ job' = { job with record }) := by
  unfold recordSuccess at h
  split at h
  · obtain ⟨active, nonempty, rfl⟩ := UploadJob.completeDpsReport_ok (liftJob_ok h)
    exact .inl ⟨_, rfl, nonempty, active, rfl⟩
  · obtain ⟨-, fresh, valid, rfl⟩ := UploadJob.recordReceipt_ok (liftJob_ok h)
    exact .inr (.inr ⟨_, .inl rfl, .wingman _ (by simpa using fresh) (by simpa using valid), rfl⟩)
  · cases h
    exact .inr (.inr ⟨_, .inl rfl, .unreceipted _ (.inl rfl), rfl⟩)
  · obtain ⟨-, fresh, valid, rfl⟩ := UploadJob.recordReceipt_ok (liftJob_ok h)
    exact .inr (.inr ⟨_, .inr rfl, .donbot _ (by simpa using fresh) valid, rfl⟩)
  · cases h
    exact .inr (.inr ⟨_, .inr rfl, .unreceipted _ (.inr rfl), rfl⟩)
  · obtain ⟨-, fresh, valid, rfl⟩ := UploadJob.recordReceipt_ok (liftJob_ok h)
    exact .inr (.inl ⟨_, rfl, by simpa using fresh, valid, rfl⟩)
  · cases h

/-- The receipt of a Twitch message is recorded before the transition looks at it. -/
inductive Outcome (job : UploadJob) (provider : Provider) (outcome : UploadOutcome) :
    UploadJob → ProviderState → Prop
  | report (report : DpsReportResult) : provider = .dpsReport → report.permalink.isEmpty = false →
      Outcome job provider outcome
        (({ job with record := { job.record with dpsReportResult := some report } } :
          UploadJob).withStatus .dpsReport { job.providerStatus .dpsReport with
            state := .succeeded, detail := (outcomeDetail outcome).getD "Uploaded" }) .succeeded
  | receipt (receipt : TwitchDeliveryReceipt) (next : ProviderState) : provider = .twitch →
      job.record.twitchDeliveryReceipt = none → receipt.isValid = true →
      (next = .succeeded ∨ receipt.status ≠ .sent ∧ next = .failed) →
      Outcome job provider outcome
        { job with record := { job.record with twitchDeliveryReceipt := some receipt } } next
  | other (record : UploadJobRecord) (next : ProviderState) :
      (provider = .dpsReport → next ≠ .succeeded) → Recorded job.record provider next record →
      Outcome job provider outcome { job with record } next

theorem recordOutcome_ok {now : Instant} {outcome : UploadOutcome}
    (h : recordOutcome job now provider outcome = .ok (job', next)) :
    Outcome job provider outcome job' next := by
  have success : ∀ {success},
      (do let job ← recordSuccess job provider success (outcomeDetail outcome)
          Except.ok (job, ProviderState.succeeded)) = .ok (job', next) →
      Outcome job provider outcome job' next := by
    intro success h
    obtain ⟨found, recorded, h⟩ := bind_ok h
    cases h
    rcases recordSuccess_ok recorded with ⟨report, hp, nonempty, -, rfl⟩ |
      ⟨receipt, hp, fresh, valid, rfl⟩ | ⟨record, hp, saved, rfl⟩
    · exact .report report hp nonempty
    · exact .receipt receipt _ hp fresh valid (.inl rfl)
    · exact .other record _ (by rintro rfl; simp at hp) saved
  have plain : ∀ {state : ProviderState},
      state = .skipped ∨ state.isRetryScheduled = true ∨ state = .failed ∨ state = .cancelled →
      (Except.ok (job, state) : Except CoordinatorError _) = .ok (job', next) →
      Outcome job provider outcome job' next := by
    intro state settled h
    cases h
    exact .other _ _ (by rintro - rfl; simp [ProviderState.isRetryScheduled] at settled)
      (.unsuccessful _ _ settled)
  unfold recordOutcome at h
  split at h
  · exact success h
  · exact success h
  · exact plain (by simp) h
  · split at h
    · cases h
    split at h
    · cases h
    · exact plain (.inr (.inl rfl)) h
  · exact plain (by simp) h
  · exact plain (by simp) h
  · exact plain (by simp) h
  · rename_i receipt
    split at h
    · cases h
    rename_i dropped
    rw [not_or, not_ne_iff] at dropped
    obtain ⟨found, recorded, h⟩ := bind_ok h
    cases h
    obtain ⟨-, fresh, valid, rfl⟩ := UploadJob.recordReceipt_ok (liftJob_ok recorded)
    exact .receipt receipt _ dropped.1 (by simpa using fresh) valid (.inr ⟨dropped.2, rfl⟩)
  · exact plain (by simp) h

/-- Only the outcome that asks for a retry schedules one. -/
theorem recordOutcome_retry {now : Instant} {outcome : UploadOutcome}
    (h : recordOutcome job now provider outcome = .ok (job', next))
    (scheduled : next.isRetryScheduled = true) : ∃ delay, outcome = .retryAfter delay := by
  cases outcome with
  | retryAfter delay => exact ⟨delay, rfl⟩
  | succeeded success =>
    obtain ⟨found, -, h⟩ := bind_ok h
    cases h
    simp [ProviderState.isRetryScheduled] at scheduled
  | succeededWithNotice success notice =>
    obtain ⟨found, -, h⟩ := bind_ok h
    cases h
    simp [ProviderState.isRetryScheduled] at scheduled
  | twitchDropped receipt =>
    simp only [recordOutcome] at h
    split at h
    · cases h
    obtain ⟨found, -, h⟩ := bind_ok h
    cases h
    simp [ProviderState.isRetryScheduled] at scheduled
  | _ =>
    cases h
    simp [ProviderState.isRetryScheduled] at scheduled

theorem completeAttempt_ok {now : Instant} {result : UploadResult}
    (h : entry.completeAttempt now result = .ok (job', next)) :
    entry.state result.provider = .active ∧ entry.attempts result.provider = result.attempt ∧
      ∃ record detail, detail ∈ detailTexts ∧
        Recorded entry.job.record result.provider next record ∧
        (next.isRetryScheduled = true → ∃ delay, result.outcome = .retryAfter delay) ∧
        { entry with job := job' } = { entry with
          job := { entry.job with record } }.become result.provider next detail := by
  obtain ⟨id, provider, attempt, outcome⟩ := result
  unfold completeAttempt at h
  split at h
  · cases h
  rename_i current
  simp only [not_or, not_ne_iff] at current h ⊢
  refine ⟨current.1, current.2, ?_⟩
  obtain ⟨⟨job, state⟩, recorded, h⟩ := bind_ok h
  have shape := recordOutcome_ok recorded
  have retried : next = state → next.isRetryScheduled = true →
      ∃ delay, outcome = .retryAfter delay := by
    rintro rfl
    exact recordOutcome_retry recorded
  dsimp only at h
  split at h
  · rename_i reported
    cases h
    cases shape with
    | report report hp nonempty =>
      subst hp
      exact ⟨_, _, outcomeDetail_mem outcome (by simp [detailTexts]), .report report nonempty, retried rfl,
        rfl⟩
    | receipt receipt _ hp => simp [hp] at reported
    | other record _ unreported => exact absurd reported.2 (unreported reported.1)
  · rename_i unreported
    obtain ⟨final, moved, h⟩ := bind_ok h
    cases h
    have transitioned := UploadJob.transition_ok (liftJob_ok moved)
    have member := outcomeDetail_mem outcome (stateDetail_mem next)
    cases shape with
    | report report hp => exact absurd ⟨hp, rfl⟩ unreported
    | receipt receipt _ hp fresh valid ending =>
      subst hp
      have kind : receipt.status = .sent ∧ next = .succeeded ∨
          receipt.status ≠ .sent ∧ next = .failed := by
        rcases ending with succeeded | dropped
        · exact .inl ⟨by simpa using transitioned.sent rfl succeeded, succeeded⟩
        · exact .inr dropped
      have saved := Recorded.twitch receipt next fresh valid kind
      refine ⟨_, _, member, saved, retried rfl, ?_⟩
      rw [transitioned.of_ne_active saved.settles.1, if_neg saved.settles.2]
      rfl
    | other record _ _ saved =>
      refine ⟨record, _, member, saved, retried rfl, ?_⟩
      rw [transitioned.of_ne_active saved.settles.1, if_neg saved.settles.2]
      rfl

end complete

section prepare

/-- A skipped dependent waits again after a retry of dps.report. -/
def takeUp (entry : Entry) (dependent : Provider) : Entry :=
  if entry.state dependent = .skipped then entry.become dependent .waiting "" else entry

/-- A skipped dependent of a reupload waits again, without its receipt. -/
def renew (entry : Entry) (dependent : Provider) : Entry :=
  if entry.state dependent = .skipped then entry.redeliver dependent else entry

variable (entry) in
@[simp] theorem takeUp_state (dependent other : Provider) :
    (entry.takeUp dependent).state other =
      if other = dependent ∧ entry.state dependent = .skipped then .waiting
      else entry.state other := by
  unfold takeUp
  split <;> simp_all

variable (entry) in
@[simp] theorem renew_state (dependent other : Provider) :
    (entry.renew dependent).state other =
      if other = dependent ∧ entry.state dependent = .skipped then .waiting
      else entry.state other := by
  unfold renew
  split <;> simp_all

variable (entry) in
theorem redeliver_ok {job : UploadJob} (h : entry.job.prepareExplicitDelivery provider = .ok job) :
    entry.job.record.encounterMetadata.isSome = true ∧ (entry.state provider).isBusy = false ∧
      (provider = .twitch → entry.job.record.dpsReportResult ≠ none) ∧
      { entry with job } = entry.redeliver provider := by
  obtain ⟨parsed, idle, reported, rfl⟩ := UploadJob.prepareExplicitDelivery_ok h
  exact ⟨parsed, idle, reported, rfl⟩

variable (entry) in
theorem prepareSkipped_ok {job : UploadJob} (h : prepareSkipped entry.job provider = .ok job) :
    { entry with job } = entry.renew provider := by
  unfold prepareSkipped at h
  unfold renew
  split at h
  · rename_i skipped
    rw [if_pos (show entry.state provider = .skipped from skipped)]
    exact (redeliver_ok entry (liftJob_ok h)).2.2.2
  · rename_i other
    cases h
    rw [if_neg (show ¬ entry.state provider = .skipped from other)]

theorem revive_eq (provider : Provider) :
    { entry with job := entry.job.revive provider } = entry.takeUp provider := by
  unfold UploadJob.revive takeUp
  split
  · rename_i skipped
    rw [if_pos (show entry.state provider = .skipped from skipped)]
    rfl
  · rename_i other
    rw [if_neg (show ¬ entry.state provider = .skipped from other)]

theorem revive_foldl (dependents : List Provider) :
    { entry with job := dependents.foldl UploadJob.revive entry.job } =
      dependents.foldl takeUp entry := by
  induction dependents generalizing entry with
  | nil => rfl
  | cons d ds ih =>
    rw [List.foldl_cons, List.foldl_cons, ← revive_eq, ← ih]

/-- The job after the retry's own transition, before any dependent is taken up. -/
theorem prepareManualRetry_ok {job : UploadJob}
    (h : entry.job.prepareManualRetry provider = .ok job) :
    entry.state provider = .failed ∧
      { entry.armed provider with job } =
        if provider = .dpsReport ∧ entry.job.record.dpsReportResult = none then
          dependents.foldl takeUp (entry.armed provider)
        else entry.armed provider := by
  unfold UploadJob.prepareManualRetry at h
  split at h
  · cases h
  rename_i failed
  refine ⟨not_ne_iff.mp failed, ?_⟩
  obtain ⟨waiting, moved, h⟩ := bind_ok h
  have transitioned := UploadJob.transition_ok moved
  rw [transitioned.of_ne_active (by simp)] at h
  cases h
  cases provider with
  | dpsReport =>
    by_cases missing : entry.job.record.dpsReportResult = none
    · rw [if_pos ⟨rfl, missing⟩, ← revive_foldl]
      simp only [missing, true_and, reduceCtorEq, ↓reduceIte]
      rfl
    · rw [if_neg (fun both => missing both.2)]
      simp only [missing, and_false, reduceCtorEq, ↓reduceIte]
      rfl
  | wingman => rfl
  | donbot => rfl
  | twitch => rfl

theorem rearm_ok (h : entry.rearm provider = .ok entry') :
    entry.state provider = .failed ∧ entry' =
      if provider = .dpsReport ∧ entry.reupload = true then
        ((entry.armed .dpsReport).renew .wingman).renew .donbot
      else if provider = .dpsReport ∧ entry.job.record.dpsReportResult = none then
        dependents.foldl takeUp (entry.armed provider)
      else entry.armed provider := by
  unfold rearm at h
  obtain ⟨job, prepared, h⟩ := bind_ok h
  cases h
  unfold prepareRetry at prepared
  split at prepared
  · rename_i grouped
    rw [if_pos grouped]
    split at prepared
    · cases prepared
    rename_i failed
    refine ⟨not_ne_iff.mp failed, ?_⟩
    obtain ⟨rfl, -⟩ := grouped
    obtain ⟨waiting, moved, prepared⟩ := bind_ok prepared
    rw [(UploadJob.transition_ok (liftJob_ok moved)).of_ne_active (by simp)] at prepared
    simp only [List.foldlM_cons, List.foldlM_nil] at prepared
    obtain ⟨first, wingman, prepared⟩ := bind_ok prepared
    obtain ⟨second, donbot, prepared⟩ := bind_ok prepared
    cases prepared
    rw [← prepareSkipped_ok (entry.armed .dpsReport) wingman]
    exact prepareSkipped_ok { entry.armed .dpsReport with job := first } donbot
  · rename_i single
    rw [if_neg single]
    obtain ⟨failed, eq⟩ := prepareManualRetry_ok (liftJob_ok prepared)
    refine ⟨failed, ?_⟩
    rw [← eq]
    cases provider <;> rfl

theorem prepareReupload_ok (h : entry.prepareReupload = .ok entry') :
    entry.job.record.encounterMetadata.isSome = true ∧
      (∀ provider ∈ uploads, (entry.state provider).isBusy = false) ∧
      let reset := ((entry.marked.redeliver .dpsReport).redeliver .wingman).redeliver .donbot
      entry' = if entry.isWvw then
          reset.become .wingman .skipped "WvW is unsupported by GW2Wingman"
        else reset := by
  unfold prepareReupload at h
  obtain ⟨job, prepared, h⟩ := bind_ok h
  simp only [uploads, List.foldlM_cons, List.foldlM_nil] at prepared
  obtain ⟨first, report, prepared⟩ := bind_ok prepared
  obtain ⟨second, wingman, prepared⟩ := bind_ok prepared
  obtain ⟨third, donbot, prepared⟩ := bind_ok prepared
  cases prepared
  obtain ⟨parsed, idle, -, eq⟩ := redeliver_ok entry.marked (liftJob_ok report)
  obtain ⟨-, idle', -, eq'⟩ :=
    redeliver_ok { entry.marked with job := first } (liftJob_ok wingman)
  obtain ⟨-, idle'', -, eq''⟩ :=
    redeliver_ok { entry.marked with job := second } (liftJob_ok donbot)
  have reset : { entry.marked with job } =
      ((entry.marked.redeliver .dpsReport).redeliver .wingman).redeliver .donbot := by
    rw [← eq, ← eq', ← eq'']
  refine ⟨parsed, ?_, ?_⟩
  · replace idle' : ((entry.marked.redeliver .dpsReport).state .wingman).isBusy = false := by
      rw [← eq]; exact idle'
    replace idle'' : (((entry.marked.redeliver .dpsReport).redeliver .wingman).state
        .donbot).isBusy = false := by
      rw [← eq, ← eq']; exact idle''
    intro provider member
    simp only [uploads, List.mem_cons, List.not_mem_nil, or_false] at member
    rcases member with rfl | rfl | rfl
    · exact idle
    · simpa using idle'
    · simpa using idle''
  · change (if Entry.isWvw { entry.marked with job } then
      Entry.skipWingman { entry.marked with job } else .ok { entry.marked with job }) = _ at h
    have wvw : Entry.isWvw { entry.marked with job } = entry.isWvw := by
      rw [reset]; simp [isWvw]
    rw [reset] at h wvw
    rw [wvw] at h
    dsimp only
    split at h
    · rename_i here
      rw [if_pos here]
      exact (skipWingman_ok h).2
    · rename_i here
      rw [if_neg here]
      cases h
      rfl

theorem prepareRechat_ok (h : entry.prepareRechat = .ok entry') :
    entry.requireDependency .twitch = .ok () ∧
      entry.job.record.encounterMetadata.isSome = true ∧ (entry.state .twitch).isBusy = false ∧
      entry' = { entry.redeliver .twitch with
        intents := Function.update entry.intents .twitch .rechat } := by
  unfold prepareRechat at h
  obtain ⟨_, depends, h⟩ := bind_ok h
  obtain ⟨job, prepared, h⟩ := bind_ok h
  cases h
  obtain ⟨parsed, idle, -, eq⟩ := redeliver_ok entry (liftJob_ok prepared)
  exact ⟨depends, parsed, idle, by rw [← eq]⟩

end prepare

/-- The entry with its metadata, before anything is dispatched. -/
def withMetadata (entry : Entry) (metadata : EncounterMetadata) : Entry :=
  { entry with
    job := { entry.job with
      record := { entry.job.record with encounterMetadata := some metadata } }
    metadataPending := false }

@[simp] theorem withMetadata_state (entry : Entry) (metadata : EncounterMetadata)
    (other : Provider) : (entry.withMetadata metadata).state other = entry.state other := rfl

/-- WvW logs never reach Wingman. -/
def withoutWingman (entry : Entry) : Entry :=
  if entry.state .wingman = .waiting ∧ entry.isWvw then
    entry.become .wingman .skipped "WvW is unsupported by GW2Wingman"
  else entry

theorem skipWingman_if : (if entry.state .wingman = ProviderState.waiting ∧ entry.isWvw then
      entry.skipWingman else .ok entry) = .ok entry.withoutWingman := by
  unfold withoutWingman
  split
  · rename_i both; exact skipWingman_waiting both.1
  · rfl

/-- `set_metadata` as it runs: only metadata that is already set makes it fail early. -/
theorem setMetadata_eq (metadata : EncounterMetadata)
    (missing : entry.job.record.encounterMetadata = none) :
    entry.setMetadata ports installed metadata tape =
      let ready := (entry.withMetadata metadata).withoutWingman
      .ok (if ready.state .dpsReport = .waiting then
          ready.dispatch ports installed .dpsReport tape
        else
          let (wingman, entry, tape) := ready.dispatchWaiting ports installed .wingman tape
          let (donbot, entry, tape) := entry.dispatchWaiting ports installed .donbot tape
          (andResult wingman donbot, entry, tape)) := by
  unfold setMetadata UploadJob.setEncounterMetadata
  rw [missing, if_neg (by simp)]
  change (bind (if Entry.state (entry.withMetadata metadata) .wingman = ProviderState.waiting ∧
      Entry.isWvw (entry.withMetadata metadata) then Entry.skipWingman (entry.withMetadata metadata)
    else Except.ok (entry.withMetadata metadata)) _) = _
  rw [skipWingman_if]
  change (if _ then _ else _) = _
  dsimp only
  split <;> rfl

theorem withoutWingman_moves :
    ReflTransGen (Move revivable) (entry, tape) (entry.withoutWingman, tape) := by
  unfold withoutWingman
  split
  · rename_i both
    exact .single (.settled _ _ _ (.inl both.1) (by simp) (by simp [detailTexts]))
  · exact .refl

theorem setMetadata_moves (metadata : EncounterMetadata) {out : Except CoordinatorError Unit × Entry × Tape W}
    (missing : entry.job.record.encounterMetadata = none)
    (h : entry.setMetadata ports installed metadata tape = .ok out) :
    ReflTransGen (Move revivable) (entry, tape) out.2 := by
  rw [setMetadata_eq metadata missing] at h
  cases h
  have ready : ReflTransGen (Move revivable) (entry, tape)
      ((entry.withMetadata metadata).withoutWingman, tape) :=
    (ReflTransGen.single (.parsed metadata missing)).trans withoutWingman_moves
  refine ready.trans ?_
  split
  · exact dispatch_moves (.inl ‹_›)
  · exact dispatchWaiting_moves.trans dispatchWaiting_moves

/-- One round of `fail_metadata` as it runs: the transition of a waiting state cannot fail. -/
def giveUp (cancelled : Bool) (entry : Entry) (provider : Provider) : Entry :=
  if entry.state provider = .waiting then
    entry.become provider (if cancelled then .cancelled else .failed)
      "Encounter metadata unavailable"
  else entry

theorem failWaiting_eq (cancelled : Bool) :
    failWaiting cancelled entry provider = .ok (entry.giveUp cancelled provider) := by
  unfold failWaiting giveUp
  split
  · rename_i waiting
    rw [UploadJob.transition_idle (by
      rw [show (entry.job.providerStatus provider).state = .waiting from waiting]
      cases cancelled <;> simp) (by cases cancelled <;> simp) (by cases cancelled <;> simp)]
    cases cancelled <;> rfl
  · rfl

theorem failMetadata_eq (cancelled : Bool) :
    entry.failMetadata cancelled =
      .ok (Provider.all.foldl (giveUp cancelled) { entry with metadataPending := false }) := by
  unfold failMetadata
  generalize { entry with metadataPending := false } = start
  generalize Provider.all = providers
  induction providers generalizing start with
  | nil => rfl
  | cons p ps ih => rw [List.foldlM_cons, failWaiting_eq, List.foldl_cons, ← ih]; rfl

theorem failMetadata_moves (cancelled : Bool) (h : entry.failMetadata cancelled = .ok entry') :
    ReflTransGen (Move revivable) (entry, tape) (entry', tape) := by
  rw [failMetadata_eq] at h
  cases h
  refine .head .unparsed ?_
  generalize { entry with metadataPending := false } = start
  generalize Provider.all = providers
  induction providers generalizing start with
  | nil => exact .refl
  | cons p ps ih =>
    refine ReflTransGen.trans ?_ (ih _)
    unfold giveUp
    split
    · exact .single (.settled _ _ _ (.inl ‹_›) (by cases cancelled <;> simp)
        (by simp [detailTexts]))
    · exact .refl

theorem applyResult_moves {result : UploadResult} {out : Entry × Tape W}
    (named : result.jobId = entry.job.id)
    (h : entry.applyResult ports installed result tape = .ok out) :
    ReflTransGen (Move revivable) (entry, tape) out := by
  unfold applyResult at h
  obtain ⟨⟨job, next⟩, completed, h⟩ := bind_ok h
  obtain ⟨active, current, record, detail, member, recorded, retried, eq⟩ :=
    completeAttempt_ok completed
  have received : ReflTransGen (Move revivable) (entry, tape)
      ({ entry with job }, tape.note (.applied result)) := by
    rw [eq]
    exact .single (.received result next detail named active current recorded member retried)
  refine received.trans ?_
  dsimp only at h
  split at h
  · split at h
    · cases h; exact fanOut_moves
    split at h
    · cases h; exact settleDependents_moves _
    · cases h; exact .refl
  · cases h; exact .refl

/-- The guard of a retry: what it takes up again must be allowed to run. -/
def Revives (revivable : UploadJobId → Provider → UploadIntent → Prop) (entry : Entry)
    (provider : Provider) : Prop :=
  provider = .dpsReport → entry.reupload = false → entry.job.record.dpsReportResult = none →
    ∀ dependent ∈ dependents, entry.state dependent = .skipped →
      revivable entry.job.id dependent (entry.intents dependent)

theorem takeUp_moves {start : Entry × Tape W} (ds : List Provider)
    (reached : ReflTransGen (Move revivable) start (entry, tape))
    (ordinary : .dpsReport ∉ ds) (single : entry.reupload = false)
    (parsed : entry.job.record.encounterMetadata.isSome = true)
    (waiting : entry.state .dpsReport = .waiting)
    (guard : ∀ d ∈ ds, entry.state d = .skipped →
      revivable entry.job.id d (entry.intents d)) :
    ReflTransGen (Move revivable) start (ds.foldl takeUp entry, tape) := by
  induction ds generalizing entry with
  | nil => exact reached
  | cons d ds ih =>
    rw [List.foldl_cons]
    by_cases skipped : entry.state d = .skipped
    · rw [takeUp, if_pos skipped]
      have other : d ≠ .dpsReport := by rintro rfl; simp at ordinary
      refine ih (reached.tail (.revived d other skipped single parsed
        (guard d (by simp) skipped) waiting)) (by simp_all) single parsed ?_
        fun other member waits => ?_
      · rw [become_state, if_neg other.symm]; exact waiting
      · rw [become_state] at waits
        split at waits
        · cases waits
        · exact guard other (by simp [member]) waits
    · rw [takeUp, if_neg skipped]
      exact ih reached (by simp_all) single parsed waiting
        fun other member => guard other (by simp [member])

theorem renew_moves (grouped : entry.reupload = true) (upload : provider ∈ uploads)
    (parsed : entry.job.record.encounterMetadata.isSome = true) :
    ReflTransGen (Move revivable) (entry, tape) (entry.renew provider, tape) := by
  unfold renew
  split
  · rename_i skipped
    exact .single (.reset provider upload grouped (by rw [skipped]; rfl) parsed)
  · exact .refl

variable (entry) in
theorem renew_kept : (entry.renew provider).reupload = entry.reupload ∧
    (entry.renew provider).job.record.encounterMetadata = entry.job.record.encounterMetadata := by
  unfold renew
  split <;> simp

theorem rearm_moves (parsed : entry.job.record.encounterMetadata.isSome = true)
    (guard : Revives revivable entry provider) (h : entry.rearm provider = .ok entry') :
    ReflTransGen (Move revivable) (entry, tape) (entry', tape) := by
  obtain ⟨failed, rfl⟩ := rearm_ok h
  have armed : ReflTransGen (Move revivable) (entry, tape) (entry.armed provider, tape) :=
    .single (.rearmed provider failed parsed)
  split
  · rename_i grouped
    obtain ⟨rfl, grouped⟩ := grouped
    refine armed.trans ((renew_moves (by simpa) (by simp [uploads]) (by simpa)).trans
      (renew_moves ?_ (by simp [uploads]) ?_))
    · simpa [renew_kept] using grouped
    · simpa [renew_kept] using parsed
  · rename_i single
    split
    · rename_i missing
      obtain ⟨rfl, missing⟩ := missing
      have single : entry.reupload = false := by simpa using single
      refine takeUp_moves dependents armed (by decide) (by simpa) (by simpa) (by simp)
        fun dependent member skipped => ?_
      have other : dependent ≠ .dpsReport := by rintro rfl; simp [dependents] at member
      rw [armed_state, if_neg other] at skipped
      have intent : (entry.armed .dpsReport).intents dependent = entry.intents dependent := by
        rw [armed_intents]; split <;> simp [other]
      rw [intent, armed_id]
      exact guard rfl single missing dependent member skipped
    · exact armed

theorem rearm_state (h : entry.rearm provider = .ok entry') : entry'.state provider = .waiting := by
  obtain ⟨-, rfl⟩ := rearm_ok h
  split
  · rename_i grouped
    simp [grouped.1]
  · split
    · rename_i missing
      simp [missing.1, dependents]
    · simp

theorem prepareReupload_moves (h : entry.prepareReupload = .ok entry') :
    ReflTransGen (Move revivable) (entry, tape) (entry', tape) := by
  obtain ⟨parsed, idle, rfl⟩ := prepareReupload_ok h
  have report := idle .dpsReport (by simp [uploads])
  have wingman := idle .wingman (by simp [uploads])
  have donbot := idle .donbot (by simp [uploads])
  have reset : ReflTransGen (Move revivable) (entry, tape)
      (((entry.marked.redeliver .dpsReport).redeliver .wingman).redeliver .donbot, tape) :=
    (ReflTransGen.single (.marked parsed idle)).tail
      (.reset .dpsReport (by simp [uploads]) rfl report parsed) |>.tail
      (.reset .wingman (by simp [uploads]) rfl (by simpa) (by simpa)) |>.tail
      (.reset .donbot (by simp [uploads]) rfl (by simpa) (by simpa))
  split
  · exact reset.tail (.settled _ _ _ (.inl (by simp)) (by simp) (by simp [detailTexts]))
  · exact reset

theorem prepareReupload_state (h : entry.prepareReupload = .ok entry') :
    entry'.state .dpsReport = .waiting := by
  obtain ⟨-, -, rfl⟩ := prepareReupload_ok h
  split <;> simp

theorem prepareRechat_moves (h : entry.prepareRechat = .ok entry') :
    ReflTransGen (Move revivable) (entry, tape) (entry', tape) := by
  obtain ⟨-, parsed, idle, rfl⟩ := prepareRechat_ok h
  exact .single (.rechatted idle parsed)

theorem prepareRechat_state (h : entry.prepareRechat = .ok entry') :
    entry'.state .twitch = .waiting := by
  obtain ⟨-, -, -, rfl⟩ := prepareRechat_ok h
  change (entry.redeliver .twitch).state .twitch = .waiting
  simp

theorem queued_of_isDue {now : Instant} (h : entry.isDue now provider = true) :
    queued (entry.state provider) := by
  unfold isDue at h
  split at h
  · rename_i due; exact .inr (by rw [due]; rfl)
  · cases h

section cancel

/-- A busy state does not survive a shutdown. -/
def abandon (status : ProviderStatus) : ProviderStatus :=
  if status.state.isBusy then { status with state := .cancelled, detail := "Cancelled" } else status

@[simp] theorem abandon_not_busy (status : ProviderStatus) :
    (abandon status).state.isBusy = false := by
  unfold abandon
  split
  · rfl
  · simpa using ‹¬ status.state.isBusy = true›

@[simp] theorem abandon_attempts (status : ProviderStatus) :
    (abandon status).attempts = status.attempts := by
  unfold abandon; split <;> rfl

def withProviders (entry : Entry) (providers : Provider → ProviderStatus) : Entry :=
  { entry with job := { entry.job with record := { entry.job.record with providers } } }

theorem cancelProvider_eq (entry : Entry) (provider : Provider) :
    entry.cancelProvider provider = entry.withProviders (Function.update
      entry.job.record.providers provider (abandon (entry.job.record.providers provider))) := by
  unfold cancelProvider abandon
  split
  · rename_i busy
    rw [tryTransition_become (ProviderState.isBusy_allows busy).2 (by simp),
      if_pos (show (entry.job.record.providers provider).state.isBusy from busy)]
    rfl
  · rename_i idle
    rw [if_neg (show ¬ (entry.job.record.providers provider).state.isBusy from idle),
      Function.update_eq_self]
    rfl

/-- The loop of `cancel_all` abandons every provider of the entry. -/
theorem cancel_eq (entry : Entry) :
    entry.cancel = { entry with metadataPending := false }.withProviders
      fun provider => abandon (entry.job.record.providers provider) := by
  have loop : ∀ (providers : List Provider) (e : Entry), providers.Nodup →
      providers.foldl cancelProvider e = e.withProviders fun provider =>
        if provider ∈ providers then abandon (e.job.record.providers provider)
        else e.job.record.providers provider := by
    intro providers
    induction providers with
    | nil => intro e _; simp [withProviders]
    | cons p ps ih =>
      intro e distinct
      obtain ⟨new, rest⟩ := List.nodup_cons.mp distinct
      rw [List.foldl_cons, ih _ rest, cancelProvider_eq]
      simp only [withProviders, Function.update_apply, List.mem_cons]
      congr 4
      funext provider
      by_cases same : provider = p
      · subst same; simp [new]
      · simp [same]
  rw [cancel, loop _ _ (by decide)]
  simp [withProviders]

@[simp] theorem cancel_providerStatus (entry : Entry) (provider : Provider) :
    entry.cancel.job.providerStatus provider = abandon (entry.job.providerStatus provider) := by
  rw [cancel_eq]; rfl

@[simp] theorem cancel_id (entry : Entry) : entry.cancel.job.id = entry.job.id := by
  rw [cancel_eq]; rfl

@[simp] theorem cancel_file (entry : Entry) :
    entry.cancel.job.record.file = entry.job.record.file := by
  rw [cancel_eq]; rfl

/-- Nothing keeps a cancelled job from being evicted. -/
theorem cancel_idle (entry : Entry) : entry.cancel.busy = false := by
  have pending : entry.cancel.metadataPending = false := by rw [cancel_eq]; rfl
  simp [busy, pending, state]

end cancel

end Entry

/-- One operation of the coordinator, as far as it concerns one entry. -/
inductive EntryStep (ports : UploadPorts W) (installed : Provider → Bool)
    (revivable : UploadJobId → Provider → UploadIntent → Prop) :
    Entry × Tape W → Entry × Tape W → Prop
  | setMetadata {entry : Entry} {tape : Tape W} {result : Except CoordinatorError Unit}
      {out : Entry × Tape W} (metadata : EncounterMetadata) : entry.awaitsMetadata = true →
      entry.setMetadata ports installed metadata tape = .ok (result, out) →
      EntryStep ports installed revivable (entry, tape) out
  | failMetadata {entry entry' : Entry} {tape : Tape W} (cancelled : Bool) :
      entry.awaitsMetadata = true → entry.failMetadata cancelled = .ok entry' →
      EntryStep ports installed revivable (entry, tape) (entry', tape)
  | applyResult {entry : Entry} {tape : Tape W} {out : Entry × Tape W} (result : UploadResult) :
      result.jobId = entry.job.id →
      entry.applyResult ports installed result tape = .ok out →
      EntryStep ports installed revivable (entry, tape) out
  | retryDue {entry : Entry} {tape : Tape W} (provider : Provider) (now : Instant) :
      entry.isDue now provider = true →
      EntryStep ports installed revivable (entry, tape)
        (entry.dispatch ports installed provider tape).2
  | retryFailed {entry entry' : Entry} {tape : Tape W} (provider : Provider) :
      entry.job.record.encounterMetadata.isSome = true → entry.Revives revivable provider →
      entry.rearm provider = .ok entry' →
      EntryStep ports installed revivable (entry, tape)
        (entry'.dispatch ports installed provider tape).2
  | reupload {entry entry' : Entry} {tape : Tape W} : entry.prepareReupload = .ok entry' →
      EntryStep ports installed revivable (entry, tape)
        (entry'.dispatch ports installed .dpsReport tape).2
  | rechat {entry entry' : Entry} {tape : Tape W} : entry.prepareRechat = .ok entry' →
      EntryStep ports installed revivable (entry, tape)
        (entry'.dispatch ports installed .twitch tape).2

theorem Entry.missing_of_awaitsMetadata {entry : Entry} (h : entry.awaitsMetadata = true) :
    entry.metadataPending = true ∧ entry.job.record.encounterMetadata = none ∧
      ∀ provider, entry.state provider = .waiting ∨ entry.state provider = .disabled := by
  simpa [Entry.awaitsMetadata, and_assoc] using h

theorem EntryStep.moves {ports : UploadPorts W} {installed : Provider → Bool}
    {revivable : UploadJobId → Provider → UploadIntent → Prop} {s s' : Entry × Tape W}
    (h : EntryStep ports installed revivable s s') : ReflTransGen (Move revivable) s s' := by
  cases h with
  | setMetadata metadata awaits performed =>
    exact Entry.setMetadata_moves metadata (Entry.missing_of_awaitsMetadata awaits).2.1 performed
  | failMetadata cancelled _ performed => exact Entry.failMetadata_moves cancelled performed
  | applyResult result named performed => exact Entry.applyResult_moves named performed
  | retryDue provider now due => exact Entry.dispatch_moves (Entry.queued_of_isDue due)
  | retryFailed provider parsed guard prepared =>
    exact (Entry.rearm_moves parsed guard prepared).trans
      (Entry.dispatch_moves (.inl (Entry.rearm_state prepared)))
  | reupload prepared =>
    exact (Entry.prepareReupload_moves prepared).trans
      (Entry.dispatch_moves (.inl (Entry.prepareReupload_state prepared)))
  | rechat prepared =>
    exact (Entry.prepareRechat_moves prepared).trans
      (Entry.dispatch_moves (.inl (Entry.prepareRechat_state prepared)))

end MannyUploader.Application
