import MannyUploader.Application.CoordinatorSteps

/-! No provider is left waiting for a dependency that has settled. The law is broken in
the middle of an operation, so it is proved of whole entry steps and not of moves. -/
namespace MannyUploader.Application
open Domain Foundation Relation

/-- What a provider of a parsed job may wait for: the outcome of dps.report. -/
structure Entry.NoneStranded (entry : Entry) : Prop where
  report : entry.state .dpsReport ≠ .waiting
  dependent : ∀ provider, provider ≠ .dpsReport → entry.state provider = .waiting →
    entry.state .dpsReport = .active ∨ (entry.state .dpsReport).isRetryScheduled = true

/-- The law together with what carries it from one operation to the next. -/
structure Entry.Ordered (entry : Entry) : Prop where
  pending : entry.metadataPending = true → entry.job.record.encounterMetadata = none ∧
    (∀ provider, entry.state provider = .waiting ∨ entry.state provider = .disabled) ∧
    (entry.state .twitch = .waiting → entry.state .dpsReport = .waiting)
  grouped : entry.reupload = true → entry.state .twitch ≠ .waiting
  parsed : entry.metadataPending = false → entry.NoneStranded

namespace Entry
variable {ports : UploadPorts W} {installed : Provider → Bool} {entry entry' : Entry}
  {tape : Tape W} {provider : Provider}

theorem settleDependent_eq (cancelled : Bool) (dependent : Provider) :
    settleDependent cancelled entry dependent =
      if entry.state dependent = .waiting ∧ ¬(dependent = .twitch ∧ entry.reupload = true) then
        entry.become dependent (if cancelled then .cancelled else .skipped)
          "dps.report result unavailable"
      else entry := by
  unfold settleDependent
  by_cases exempt : dependent = .twitch ∧ entry.reupload = true
  · rw [if_pos exempt, if_neg (by tauto)]
  · rw [if_neg exempt]
    by_cases waiting : entry.state dependent = .waiting
    · simp only [waiting, exempt, not_false_eq_true, and_self, ↓reduceIte]
      exact tryTransition_become (by cases cancelled <;> simp [waiting])
        (by cases cancelled <;> simp)
    · rw [if_neg waiting, if_neg (by tauto)]

/-- Settling leaves no dependent waiting, the chat message of a grouped reupload apart. -/
theorem settleDependents_spec (entry : Entry) (cancelled : Bool) :
    (entry.settleDependents cancelled).reupload = entry.reupload ∧
    (entry.settleDependents cancelled).metadataPending = entry.metadataPending ∧
    (entry.settleDependents cancelled).state .dpsReport = entry.state .dpsReport ∧
    ∀ other, other ≠ .dpsReport → (entry.settleDependents cancelled).state other = .waiting →
      other = .twitch ∧ entry.reupload = true ∧ entry.state .twitch = .waiting := by
  have ending : (if cancelled then ProviderState.cancelled else .skipped) ≠ .waiting := by
    cases cancelled <;> simp
  unfold settleDependents dependents
  simp only [List.foldl_cons, List.foldl_nil, settleDependent_eq]
  generalize (if cancelled then ProviderState.cancelled else .skipped) = ended at ending
  split_ifs <;>
    refine ⟨by simp, by simp, by simp, fun other report waits => ?_⟩ <;>
    cases other <;> simp_all

/-- What a dispatch leaves waiting. -/
structure DispatchSpec (entry : Entry) (provider : Provider) (entry' : Entry) : Prop where
  metadataPending : entry'.metadataPending = entry.metadataPending
  reupload : entry'.reupload = entry.reupload
  waits : ∀ other, entry'.state other = .waiting → other ≠ provider ∧ entry.state other = .waiting
  report : provider ≠ .dpsReport → entry'.state .dpsReport = entry.state .dpsReport
  settled : provider = .dpsReport → entry'.state .dpsReport = .active ∨
    ∀ other, other ≠ .dpsReport → entry'.state other = .waiting →
      other = .twitch ∧ entry.reupload = true

variable (entry provider) in
theorem failDispatch_spec (h : (entry.state provider).isBusy = true) :
    DispatchSpec entry provider (entry.failDispatch provider) := by
  rw [failDispatch_eq h]
  split
  · rename_i report
    subst report
    obtain ⟨reupload, pending, state, waits⟩ := settleDependents_spec
      (entry.become .dpsReport .failed "Provider unavailable") false
    refine ⟨pending, reupload, fun other waiting => ?_, by simp, fun _ => .inr ?_⟩
    · by_cases report : other = .dpsReport
      · rw [report, state] at waiting
        simp at waiting
      · obtain ⟨rfl, -, before⟩ := waits other report waiting
        exact ⟨report, by simpa using before⟩
    · intro other report waiting
      obtain ⟨twitch, grouped, -⟩ := waits other report waiting
      exact ⟨twitch, grouped⟩
  · rename_i report
    refine ⟨rfl, rfl, fun other waiting => ?_, fun _ => ?_, fun h => absurd h report⟩
    · rw [become_state] at waiting
      split at waiting
      · cases waiting
      · exact ⟨‹_›, waiting⟩
    · rw [become_state, if_neg (Ne.symm report)]

theorem dispatch_spec (queued : queued (entry.state provider)) :
    DispatchSpec entry provider (entry.dispatch ports installed provider tape).2.1 := by
  have cases := dispatch_cases ports installed tape queued
  generalize (entry.dispatch ports installed provider tape).2 = out at cases ⊢
  have offered : ∀ {active : UploadJob} {metadata}, Offer entry provider active metadata →
      DispatchSpec entry provider { entry with job := active } := by
    intro active metadata offer
    refine ⟨rfl, rfl, fun other waiting => ?_, fun report => ?_, fun report => .inl ?_⟩
    · rw [offer_state offer] at waiting
      split at waiting
      · cases waiting
      · exact ⟨‹_›, waiting⟩
    · rw [offer_state offer, if_neg (Ne.symm report)]
    · rw [offer_state offer, if_pos report.symm]
  cases cases with
  | skipped wingman _ =>
    subst wingman
    refine ⟨rfl, rfl, fun other waiting => ?_, fun _ => by simp, by simp⟩
    rw [become_state] at waiting
    split at waiting
    · cases waiting
    · exact ⟨‹_›, waiting⟩
  | kept wingman other =>
    subst wingman
    exact ⟨rfl, rfl, fun q waiting => ⟨by rintro rfl; exact other waiting, waiting⟩,
      fun _ => rfl, by simp⟩
  | refused => exact failDispatch_spec entry provider queued.isBusy.1
  | accepted world offer => exact offered offer
  | rejected error world offer =>
    have started := offered offer
    have failed := failDispatch_spec { entry with job := _ } provider
      (by rw [offer_state offer, if_pos rfl]; rfl)
    refine ⟨failed.metadataPending, failed.reupload, fun other waiting => ?_, fun report => ?_,
      fun report => failed.settled report⟩
    · exact started.waits other (failed.waits other waiting).2
    · rw [failed.report report, started.report report]

variable (ports installed entry tape provider) in
theorem dispatchWaiting_spec :
    DispatchSpec entry provider (entry.dispatchWaiting ports installed provider tape).2.1 ∨
      entry.state provider ≠ .waiting ∧
        (entry.dispatchWaiting ports installed provider tape).2.1 = entry := by
  unfold dispatchWaiting
  split
  · exact .inl (dispatch_spec (.inl ‹_›))
  · exact .inr ⟨‹_›, rfl⟩

variable (ports installed entry tape) in
/-- After a dependent was offered, only the others can still wait. -/
theorem dispatchWaiting_waits (ordinary : provider ≠ .dpsReport) :
    let entry' := (entry.dispatchWaiting ports installed provider tape).2.1
    entry'.metadataPending = entry.metadataPending ∧ entry'.reupload = entry.reupload ∧
      entry'.state .dpsReport = entry.state .dpsReport ∧
      ∀ other, entry'.state other = .waiting → other ≠ provider ∧ entry.state other = .waiting := by
  rcases dispatchWaiting_spec ports installed entry tape provider with spec | ⟨settled, same⟩
  · exact ⟨spec.metadataPending, spec.reupload, spec.report ordinary, spec.waits⟩
  · rw [same]
    exact ⟨rfl, rfl, rfl, fun other waiting => ⟨by rintro rfl; exact settled waiting, waiting⟩⟩

/-- Every dispatch on behalf of an ordered entry keeps it ordered, once the dispatched
provider is the only one that may be stranded. -/
theorem DispatchSpec.ordered (spec : DispatchSpec entry provider entry')
    (pending : entry.metadataPending = false)
    (grouped : entry.reupload = true → provider ≠ .twitch → entry.state .twitch ≠ .waiting)
    (dependent : provider ≠ .dpsReport → ∀ other, other ≠ provider →
      entry.state other = .waiting → other ≠ .dpsReport ∧
        (entry.state .dpsReport = .active ∨ (entry.state .dpsReport).isRetryScheduled = true)) :
    entry'.Ordered := by
  have twitch : entry'.reupload = true → entry'.state .twitch ≠ .waiting := by
    intro regrouped waiting
    obtain ⟨other, before⟩ := spec.waits .twitch waiting
    exact grouped (spec.reupload ▸ regrouped) (Ne.symm other) before
  refine ⟨fun h => by simp [spec.metadataPending, pending] at h, twitch, fun _ => ⟨?_, ?_⟩⟩
  · intro waiting
    obtain ⟨other, before⟩ := spec.waits .dpsReport waiting
    exact (dependent (Ne.symm other) _ other before).1 rfl
  · intro other report waiting
    obtain ⟨different, before⟩ := spec.waits other waiting
    by_cases reporting : provider = .dpsReport
    · rcases spec.settled reporting with active | none
      · exact .inl active
      · obtain ⟨rfl, regrouped⟩ := none other report waiting
        exact absurd waiting (twitch (spec.reupload ▸ regrouped))
    · rw [spec.report reporting]
      exact (dependent reporting other different before).2

/-- Metadata arrives: dps.report goes first, and without it the others go at once. -/
theorem setMetadata_ordered {metadata : EncounterMetadata}
    {out : Except CoordinatorError Unit × Entry × Tape W} (h : entry.Ordered)
    (awaits : entry.awaitsMetadata = true)
    (performed : entry.setMetadata ports installed metadata tape = .ok out) :
    out.2.1.Ordered := by
  obtain ⟨pending, missing, initial⟩ := missing_of_awaitsMetadata awaits
  obtain ⟨-, -, chain⟩ := h.pending pending
  rw [setMetadata_eq metadata missing] at performed
  cases performed
  have ready : ∀ other, ((entry.withMetadata metadata).withoutWingman).state other = .waiting →
      entry.state other = .waiting := by
    intro other waiting
    unfold withoutWingman at waiting
    split at waiting
    · rw [become_state] at waiting
      split at waiting
      · cases waiting
      · exact waiting
    · exact waiting
  have report : ((entry.withMetadata metadata).withoutWingman).state .dpsReport =
      entry.state .dpsReport := by
    unfold withoutWingman
    split
    · simp
    · rfl
  have kept : ((entry.withMetadata metadata).withoutWingman).metadataPending = false ∧
      ((entry.withMetadata metadata).withoutWingman).reupload = entry.reupload := by
    unfold withoutWingman
    split <;> exact ⟨rfl, rfl⟩
  generalize (entry.withMetadata metadata).withoutWingman = ready' at *
  split
  · rename_i waiting
    refine (dispatch_spec (.inl waiting)).ordered kept.1 (fun grouped _ chat => ?_) (by simp)
    exact h.grouped (kept.2 ▸ grouped) (ready _ chat)
  · rename_i settled
    obtain ⟨pending₁, reupload₁, report₁, waits₁⟩ := dispatchWaiting_waits ports installed ready' tape
      (show Provider.wingman ≠ .dpsReport by simp)
    generalize ready'.dispatchWaiting ports installed .wingman tape = first at *
    obtain ⟨result, entry₁, tape₁⟩ := first
    obtain ⟨pending₂, reupload₂, report₂, waits₂⟩ := dispatchWaiting_waits ports installed entry₁ tape₁
      (show Provider.donbot ≠ .dpsReport by simp)
    dsimp only at *
    generalize (entry₁.dispatchWaiting ports installed .donbot tape₁).2.1 = entry₂ at *
    have none : ∀ other, entry₂.state other ≠ .waiting := by
      intro other waiting
      obtain ⟨notDonbot, before⟩ := waits₂ other waiting
      obtain ⟨notWingman, before⟩ := waits₁ other before
      cases other with
      | dpsReport => exact settled before
      | wingman => exact notWingman rfl
      | donbot => exact notDonbot rfl
      | twitch => exact settled (report.trans (chain (ready _ before)))
    exact ⟨fun h => by simp [pending₂, pending₁, kept.1] at h, fun _ => none _,
      fun _ => ⟨none _, fun other _ waiting => absurd waiting (none other)⟩⟩

theorem failMetadata_ordered {cancelled : Bool} (h : entry.failMetadata cancelled = .ok entry') :
    entry'.Ordered := by
  rw [failMetadata_eq] at h
  cases h
  have ending : (if cancelled then ProviderState.cancelled else .failed) ≠ .waiting := by
    cases cancelled <;> simp
  have step : ∀ (entry : Entry) provider other,
      (entry.giveUp cancelled provider).state other =
        if other = provider ∧ entry.state provider = .waiting then
          (if cancelled then .cancelled else .failed)
        else entry.state other := by
    intro entry provider other
    unfold giveUp
    split
    · rename_i waiting; simp only [become_state, waiting, and_true]
    · rename_i settled; simp [settled]
  have pending : ∀ (entry : Entry) provider,
      (entry.giveUp cancelled provider).metadataPending = entry.metadataPending := by
    intro entry provider
    unfold giveUp
    split <;> rfl
  generalize (if cancelled then ProviderState.cancelled else .failed) = ended at *
  have none : ∀ other, (Provider.all.foldl (giveUp cancelled)
      { entry with metadataPending := false }).state other ≠ .waiting := by
    intro other
    cases other <;>
      simp only [Provider.all, List.foldl_cons, List.foldl_nil, step] <;> split_ifs <;> simp_all
  refine ⟨fun h => ?_, fun _ => none _, fun _ => ⟨none _, fun other _ waiting =>
    absurd waiting (none other)⟩⟩
  simp [Provider.all, pending] at h

variable (ports installed entry tape) in
/-- A report dispatches every waiting dependent, the chat message of a reupload apart. -/
theorem fanOut_waits :
    let entry' := (entry.fanOut ports installed tape).1
    entry'.metadataPending = entry.metadataPending ∧ entry'.reupload = entry.reupload ∧
      entry'.state .dpsReport = entry.state .dpsReport ∧
      ∀ other, entry'.state other = .waiting → entry.state other = .waiting ∧
        (other = .dpsReport ∨ other = .twitch ∧ entry.reupload = true) := by
  have round : ∀ (s : Entry × Tape W) dependent, dependent ≠ .dpsReport →
      let s' := if dependent ≠ .twitch ∨ !s.1.reupload then
          (s.1.dispatchWaiting ports installed dependent s.2).2 else s
      s'.1.metadataPending = s.1.metadataPending ∧ s'.1.reupload = s.1.reupload ∧
        s'.1.state .dpsReport = s.1.state .dpsReport ∧
        ∀ other, s'.1.state other = .waiting → s.1.state other = .waiting ∧
          (other = dependent → dependent = .twitch ∧ s.1.reupload = true) := by
    intro s dependent ordinary
    dsimp only
    split
    · obtain ⟨pending, reupload, report, waits⟩ := dispatchWaiting_waits ports installed s.1 s.2 ordinary
      exact ⟨pending, reupload, report, fun other waiting =>
        ⟨(waits other waiting).2, fun same => absurd same (waits other waiting).1⟩⟩
    · rename_i exempt
      exact ⟨rfl, rfl, rfl, fun other waiting => ⟨waiting, fun _ => by simpa using exempt⟩⟩
  obtain ⟨pending₁, reupload₁, report₁, waits₁⟩ := round (entry, tape) .wingman (by simp)
  dsimp only at pending₁ reupload₁ report₁ waits₁
  unfold fanOut dependents
  simp only [List.foldl_cons, List.foldl_nil]
  generalize (if Provider.wingman ≠ .twitch ∨ (!entry.reupload) = true then
    (entry.dispatchWaiting ports installed .wingman tape).2 else (entry, tape)) = s₁ at *
  obtain ⟨pending₂, reupload₂, report₂, waits₂⟩ := round s₁ .donbot (by simp)
  generalize (if Provider.donbot ≠ .twitch ∨ (!s₁.1.reupload) = true then
    (s₁.1.dispatchWaiting ports installed .donbot s₁.2).2 else (s₁.1, s₁.2)) = s₂ at *
  obtain ⟨pending₃, reupload₃, report₃, waits₃⟩ := round s₂ .twitch (by simp)
  refine ⟨by rw [pending₃, pending₂, pending₁], by rw [reupload₃, reupload₂, reupload₁],
    by rw [report₃, report₂, report₁], fun other waiting => ?_⟩
  obtain ⟨before₃, twitch⟩ := waits₃ other waiting
  obtain ⟨before₂, donbot⟩ := waits₂ other before₃
  obtain ⟨before₁, wingman⟩ := waits₁ other before₂
  refine ⟨before₁, ?_⟩
  cases other with
  | dpsReport => exact .inl rfl
  | wingman => exact absurd (wingman rfl).1 (by simp)
  | donbot => exact absurd (donbot rfl).1 (by simp)
  | twitch => exact .inr ⟨rfl, by rw [← reupload₁, ← reupload₂]; exact (twitch rfl).2⟩

theorem applyResult_ordered {result : UploadResult} {out : Entry × Tape W} (h : entry.Ordered)
    (performed : entry.applyResult ports installed result tape = .ok out) : out.1.Ordered := by
  unfold applyResult at performed
  obtain ⟨⟨job, next⟩, completed, performed⟩ := bind_ok performed
  obtain ⟨active, -, record, detail, -, recorded, -, eq⟩ := completeAttempt_ok completed
  dsimp only at performed
  have pending : entry.metadataPending = false := by
    by_contra waiting
    rcases (h.pending (by simpa using waiting)).2.1 result.provider with state | state <;>
      simp [active] at state
  obtain ⟨reportRan, dependentRan⟩ := h.parsed pending
  have settles := recorded.settles
  have state : ∀ other, Entry.state { entry with job } other =
      if other = result.provider then next else entry.state other := by
    intro other
    rw [eq, become_state]
    simp only [Entry.state, UploadJob.providerStatus, recorded.same.1]
  have kept : Entry.metadataPending { entry with job } = false ∧
      Entry.reupload { entry with job } = entry.reupload := ⟨pending, rfl⟩
  have ending : result.provider = .dpsReport → ¬next = .succeeded →
      ¬(next = .failed ∨ next = .skipped ∨ next = .cancelled) →
      next.isRetryScheduled = true := by
    intro report unsuccessful unsettled
    rw [report] at recorded
    cases recorded with
    | report => exact absurd rfl unsuccessful
    | unreceipted _ other => simp at other
    | unsuccessful _ _ ending => tauto
  generalize { entry with job } = settled at *
  have grouped : settled.reupload = true → settled.state .twitch ≠ .waiting := by
    intro reupload
    rw [state]
    split
    · exact settles.2
    · exact h.grouped (kept.2 ▸ reupload)
  split at performed
  · rename_i report
    have reported : settled.state .dpsReport = next := by rw [state, if_pos report.symm]
    split at performed
    · rename_i succeeded
      cases performed
      obtain ⟨pending', reupload', report', waits⟩ := fanOut_waits ports installed settled
        (tape.note (.applied result))
      have none : ∀ other, (settled.fanOut ports installed
          (tape.note (.applied result))).1.state other ≠ .waiting := by
        intro other waiting
        obtain ⟨before, rfl | ⟨rfl, again⟩⟩ := waits other waiting
        · exact settles.2 (reported.symm.trans before)
        · exact grouped again before
      exact ⟨fun h => by simp [pending', kept.1] at h, fun _ => none _,
        fun _ => ⟨none _, fun other _ waiting => absurd waiting (none other)⟩⟩
    split at performed
    · cases performed
      obtain ⟨reupload', pending', report', waits⟩ :=
        settleDependents_spec settled (decide (next = .cancelled))
      have none : ∀ other, (settled.settleDependents (decide (next = .cancelled))).state other ≠
          .waiting := by
        intro other waiting
        by_cases same : other = .dpsReport
        · rw [same, report', reported] at waiting
          exact settles.2 waiting
        · obtain ⟨rfl, again, before⟩ := waits other same waiting
          exact grouped again before
      exact ⟨fun h => by simp [pending', kept.1] at h, fun _ => none _,
        fun _ => ⟨none _, fun other _ waiting => absurd waiting (none other)⟩⟩
    · rename_i unsuccessful unsettled
      cases performed
      refine ⟨fun h => by simp [kept.1] at h, grouped, fun _ => ⟨?_, fun other _ _ => .inr ?_⟩⟩
      · rw [reported]; exact settles.2
      · rw [reported]; exact ending report unsuccessful unsettled
  · rename_i ordinary
    cases performed
    have reported : settled.state .dpsReport = entry.state .dpsReport := by
      rw [state, if_neg (Ne.symm ordinary)]
    refine ⟨fun h => by simp [kept.1] at h, grouped, fun _ => ⟨reported ▸ reportRan, ?_⟩⟩
    intro other report waiting
    rw [reported]
    rw [state] at waiting
    split at waiting
    · exact absurd waiting settles.2
    · exact dependentRan other report waiting

theorem retryDue_ordered {now : Instant} (h : entry.Ordered)
    (due : entry.isDue now provider = true) :
    (entry.dispatch ports installed provider tape).2.1.Ordered := by
  have waits : (entry.state provider).isRetryScheduled = true := by
    unfold isDue at due
    split at due
    · rename_i state; rw [state]; rfl
    · cases due
  have pending : entry.metadataPending = false := by
    by_contra pending
    rcases (h.pending (by simpa using pending)).2.1 provider with state | state <;>
      simp [state, ProviderState.isRetryScheduled] at waits
  obtain ⟨reportRan, dependentRan⟩ := h.parsed pending
  refine (dispatch_spec (.inr waits)).ordered pending (fun grouped _ => h.grouped grouped) ?_
  intro ordinary other _ waiting
  have report : other ≠ .dpsReport := by rintro rfl; exact reportRan waiting
  exact ⟨report, dependentRan other report waiting⟩

/-- A parsed entry that was ordered, dispatched after one provider was made to wait. -/
theorem prepared_ordered (parsed : entry.metadataPending = false) (h : entry.Ordered)
    (pending : entry'.metadataPending = entry.metadataPending)
    (waits : entry'.state provider = .waiting)
    (grouped : entry'.reupload = true → provider ≠ .twitch → entry'.state .twitch ≠ .waiting)
    (others : provider ≠ .dpsReport → ∀ other, other ≠ provider →
      entry'.state other = entry.state other) :
    (entry'.dispatch ports installed provider tape).2.1.Ordered := by
  obtain ⟨reportRan, dependentRan⟩ := h.parsed parsed
  refine (dispatch_spec (.inl waits)).ordered (pending.trans parsed) grouped ?_
  intro ordinary other different waiting
  rw [others ordinary other different] at waiting
  have report : other ≠ .dpsReport := by rintro rfl; exact reportRan waiting
  rw [others ordinary .dpsReport (Ne.symm ordinary)]
  exact ⟨report, dependentRan other report waiting⟩

theorem parsed_of_metadata (h : entry.Ordered)
    (parsed : entry.job.record.encounterMetadata.isSome = true) :
    entry.metadataPending = false := by
  by_contra pending
  simp [(h.pending (by simpa using pending)).1] at parsed

theorem rearm_kept (h : entry.rearm provider = .ok entry') :
    entry'.metadataPending = entry.metadataPending ∧ entry'.reupload = entry.reupload ∧
      (entry'.reupload = true → provider ≠ .twitch →
        entry'.state .twitch = entry.state .twitch) ∧
      (provider ≠ .dpsReport → ∀ other, other ≠ provider →
        entry'.state other = entry.state other) := by
  obtain ⟨-, rfl⟩ := rearm_ok h
  have renewed : ∀ (entry : Entry) dependent,
      (entry.renew dependent).metadataPending = entry.metadataPending ∧
        (entry.renew dependent).reupload = entry.reupload := by
    intro entry dependent; unfold renew; split <;> simp
  have taken : ∀ (entry : Entry) dependent,
      (entry.takeUp dependent).metadataPending = entry.metadataPending ∧
        (entry.takeUp dependent).reupload = entry.reupload := by
    intro entry dependent; unfold takeUp; split <;> simp
  split
  · rename_i both
    obtain ⟨rfl, grouped⟩ := both
    refine ⟨by simp [renewed], by simp [renewed], fun _ _ => by simp, by simp⟩
  · rename_i single
    split
    · rename_i both
      obtain ⟨rfl, -⟩ := both
      refine ⟨by simp [dependents, taken], by simp [dependents, taken], fun again => ?_, by simp⟩
      simp [dependents, taken] at again
      exact absurd ⟨rfl, again⟩ single
    · exact ⟨by simp, by simp, fun _ chat => by simp [Ne.symm chat],
        fun _ other different => by simp [different]⟩

theorem reupload_ordered (h : entry.Ordered) (prepared : entry.prepareReupload = .ok entry') :
    (entry'.dispatch ports installed .dpsReport tape).2.1.Ordered := by
  have waits := prepareReupload_state prepared
  obtain ⟨metadata, idle, rfl⟩ := prepareReupload_ok prepared
  have parsed := parsed_of_metadata h metadata
  have chat : entry.state .twitch ≠ .waiting := by
    intro waiting
    have report := idle .dpsReport (by simp [uploads])
    rcases (h.parsed parsed).dependent .twitch (by simp) waiting with active | scheduled
    · simp [active, ProviderState.isBusy] at report
    · exact absurd report (by rw [queued.isBusy (.inr scheduled) |>.1]; simp)
  refine prepared_ordered parsed h ?_ waits (fun _ _ => ?_) (by simp)
  · split <;> simp
  · split <;> simpa using chat

theorem rechat_ordered (h : entry.Ordered) (prepared : entry.prepareRechat = .ok entry') :
    (entry'.dispatch ports installed .twitch tape).2.1.Ordered := by
  have waits := prepareRechat_state prepared
  obtain ⟨-, metadata, -, rfl⟩ := prepareRechat_ok prepared
  refine prepared_ordered (parsed_of_metadata h metadata) h rfl waits
    (fun _ chat => absurd rfl chat) fun _ other different => ?_
  change (entry.redeliver .twitch).state other = _
  simp [different]

end Entry

theorem EntryStep.ordered {ports : UploadPorts W} {installed : Provider → Bool}
    {revivable : UploadJobId → Provider → UploadIntent → Prop} {s s' : Entry × Tape W}
    (step : EntryStep ports installed revivable s s') (h : s.1.Ordered) : s'.1.Ordered := by
  cases step with
  | setMetadata metadata awaits performed => exact Entry.setMetadata_ordered h awaits performed
  | failMetadata cancelled _ performed => exact Entry.failMetadata_ordered performed
  | applyResult result _ performed => exact Entry.applyResult_ordered h performed
  | retryDue provider now due => exact Entry.retryDue_ordered h due
  | retryFailed provider metadata _ prepared =>
    obtain ⟨pending, reupload, chat, others⟩ := Entry.rearm_kept prepared
    exact Entry.prepared_ordered (Entry.parsed_of_metadata h metadata) h pending
      (Entry.rearm_state prepared)
      (fun grouped other => chat grouped other ▸ h.grouped (reupload ▸ grouped)) others
  | reupload prepared => exact Entry.reupload_ordered h prepared
  | rechat prepared => exact Entry.rechat_ordered h prepared

theorem Entry.ordered_of_idle {entry : Entry} (pending : entry.metadataPending = false)
    (idle : ∀ provider, (entry.state provider).isBusy = false) : entry.Ordered := by
  have none : ∀ provider, entry.state provider ≠ .waiting := by
    intro provider waiting
    simpa [waiting, ProviderState.isBusy] using idle provider
  exact ⟨fun h => by simp [pending] at h, fun _ => none _,
    fun _ => ⟨none _, fun other _ waiting => absurd waiting (none other)⟩⟩

theorem Entry.ordered_new {id : UploadJobId} {file : LogFileIdentity} {now : SystemTime}
    {enabled : ProviderSelection} {job : UploadJob}
    (h : UploadJob.new id file now enabled = .ok job) : (Entry.new job true).Ordered := by
  obtain ⟨-, chat, rfl⟩ := UploadJob.new_ok h
  refine ⟨fun _ => ⟨rfl, fun provider => ?_, fun waiting => ?_⟩, fun h => by simp [Entry.new] at h,
    fun h => by simp [Entry.new] at h⟩
  · change (if enabled.contains provider then ProviderState.waiting else .disabled) = _ ∨
      (if enabled.contains provider then ProviderState.waiting else .disabled) = _
    split <;> simp
  · change (if enabled.twitch then ProviderState.waiting else .disabled) = .waiting at waiting
    change (if enabled.dpsReport then ProviderState.waiting else .disabled) = .waiting
    rw [if_pos (chat (by by_contra off; simp [off] at waiting))]

namespace UploadCoordinator
variable {ports : UploadPorts W}

theorem Step.ordered {s s' : Running W} (step : Step ports (fun _ _ _ => True) (fun _ => True) s s')
    (h : ∀ entry ∈ s.1.jobs, entry.Ordered) : ∀ entry ∈ s'.1.jobs, entry.Ordered := by
  cases step with
  | churned churn =>
    cases churn with
    | worked _ found step => exact forall_replaced found h step.ordered
    | evicted found _ => exact fun entry member => h entry (mem_of_without found member)
    | adjusted => exact h
    | elapsed => exact h
    | stopped =>
      intro entry member
      obtain ⟨before, -, rfl⟩ := List.mem_map.mp member
      have idle := before.cancel_idle
      simp only [Entry.busy, Bool.or_eq_false_iff, List.any_eq_false] at idle
      exact Entry.ordered_of_idle idle.1 fun provider => by
        simpa using idle.2 provider provider.mem_all
  | admitted file enabled _ _ _ fresh =>
    intro entry member
    rcases List.mem_append.mp member with retained | new
    · exact h entry retained
    · rw [List.mem_singleton.mp new]
      exact Entry.ordered_new fresh
  | restored records _ _ _ _ _ _ restored =>
    intro entry member
    obtain ⟨entries, -⟩ := restoreJobs_ok restored
    obtain ⟨record, -, same, id, restored⟩ := exists_of_forall₂ entries member
    obtain ⟨-, eq⟩ := UploadJob.restore_ok restored
    rw [same]
    exact Entry.ordered_of_idle rfl fun provider => by
      change (entry.job.record.providers provider).state.isBusy = false
      rw [eq]
      exact UploadJob.interrupt_not_busy _

/-- In every reachable state each provider of a parsed job is either settled, under way, or
waits for a report that is under way. -/
theorem noneStranded {providers : List Provider} {historyLimit : Nat} {c : UploadCoordinator}
    {world : W} {s : Running W} (created : new providers historyLimit = .ok c)
    (run : Run (perform ports) (fun _ _ => True) (c, ⟨world, []⟩) s) :
    ∀ entry ∈ s.1.jobs, entry.metadataPending = false → entry.NoneStranded := by
  have empty : c.jobs = [] := by
    obtain ⟨limit, -, h⟩ := bind_ok created
    split at h
    · cases h
    · cases h; rfl
  have ordered := run_invariant (fun _ _ _ => True) (fun _ => True) run
    (fun s op _ => op.unguarded s.1)
    (fun _ _ step h => Step.ordered step h) (by simp [empty])
  exact fun entry member pending => (ordered entry member).parsed pending

/-- The law while the report is under way and three dependents wait for it. -/
theorem noneStranded_sample :
    let s := (sampleDelivery.take 2).foldl (perform acceptingPorts)
      (sampleStart ⟨100, by decide⟩)
    s.1.jobs.length = 1 ∧
      ∀ entry ∈ s.1.jobs, entry.metadataPending = false → entry.NoneStranded :=
  ⟨by decide, noneStranded (show new Provider.all 100 = .ok _ from rfl)
    (.of_list _ _ (sampleDelivery.take 2) fun _ _ _ => trivial)⟩

end UploadCoordinator
end MannyUploader.Application
