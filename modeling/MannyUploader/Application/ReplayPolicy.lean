import MannyUploader.Application.AttemptLedger

/-! What a restart may deliver again. Attempt counts survive a restart, intents and the
reupload marker do not, so the policy rests on what the operations of the new session do. -/
namespace MannyUploader.Application
open Domain Foundation Relation

def Event.acceptedRequest : Event → Option UploadRequest
  | .enqueued _ request (.ok ()) => some request
  | _ => none

/-- The requests that a provider took on, in order. -/
def acceptedRequests (events : List Event) : List UploadRequest :=
  events.filterMap (·.acceptedRequest)

@[simp] theorem acceptedRequests_append (first second : List Event) :
    acceptedRequests (first ++ second) = acceptedRequests first ++ acceptedRequests second :=
  List.filterMap_append

/-- A provider of a restored job had already been attempted when the session began. -/
def Delivered (restored : List Entry) (id : UploadJobId) (provider : Provider) : Prop :=
  ∃ entry ∈ restored, entry.job.id = id ∧ 1 ≤ entry.attempts provider

instance (restored : List Entry) (id : UploadJobId) (provider : Provider) :
    Decidable (Delivered restored id provider) := by
  unfold Delivered; infer_instance

/-- No request for something already attempted carries the automatic intent. -/
def NoAutomaticReplay (restored : List Entry) (events : List Event) : Prop :=
  ∀ request ∈ acceptedRequests events,
    Delivered restored request.jobId request.provider → request.intent ≠ .automatic

instance (restored : List Entry) (events : List Event) :
    Decidable (NoAutomaticReplay restored events) := by
  unfold NoAutomaticReplay; infer_instance

/-- Every operation is allowed but one: a retry of dps.report, outside a reupload of this
session, that takes up a skipped dependent which was attempted before the restart and whose
intent is still the automatic one. -/
def KeepsIntents (restored : List Entry) (s : Running W) : CoordinatorOp W → Prop
  | .retryFailed id .dpsReport => ∀ entry ∈ s.1.jobs, entry.job.id = id →
      entry.reupload = false → entry.job.record.dpsReportResult = none →
      ∀ dependent ∈ dependents, entry.state dependent = .skipped →
        Delivered restored id dependent → entry.intents dependent ≠ .automatic
  | _ => True

/-- What keeps one entry from an automatic replay. -/
structure Entry.Guarded (restored : List Entry) (entry : Entry) : Prop where
  busy : ∀ provider, Delivered restored entry.job.id provider →
    (entry.state provider).isBusy = true → entry.intents provider ≠ .automatic
  grouped : entry.reupload = true → ∀ provider ∈ uploads, entry.intents provider ≠ .automatic

namespace Entry
variable {restored : List Entry} {entry entry' : Entry}

/-- One provider changes its state, and no intent changes. -/
theorem Guarded.change (p : Provider) (h : entry.Guarded restored) (id : entry'.job.id = entry.job.id)
    (intents : entry'.intents = entry.intents) (reupload : entry'.reupload = entry.reupload)
    (others : ∀ other, other ≠ p → entry'.state other = entry.state other)
    (own : Delivered restored entry.job.id p → (entry'.state p).isBusy = true →
      entry.intents p ≠ .automatic) : entry'.Guarded restored := by
  refine ⟨fun other delivered busy => ?_, fun grouped => ?_⟩
  · rw [id] at delivered
    rw [intents]
    by_cases same : other = p
    · subst same
      exact own delivered busy
    · rw [others other same] at busy
      exact h.busy other delivered busy
  · rw [intents]
    exact h.grouped (reupload ▸ grouped)

end Entry

theorem Move.guarded {restored : List Entry} {s s' : Entry × Tape W}
    (move : Move (fun id provider intent => Delivered restored id provider → intent ≠ .automatic)
      s s')
    (h : s.1.Guarded restored ∧ NoAutomaticReplay restored s.2.events) :
    s'.1.Guarded restored ∧ NoAutomaticReplay restored s'.2.events := by
  obtain ⟨h, quiet⟩ := h
  cases move with
  | parsed => exact ⟨⟨h.busy, h.grouped⟩, quiet⟩
  | unparsed => exact ⟨⟨h.busy, h.grouped⟩, quiet⟩
  | @settled entry _ provider next detail _ ending =>
    refine ⟨h.change provider rfl rfl rfl
      (fun other different => by simp [different]) fun _ busy => ?_, quiet⟩
    rcases ending with rfl | rfl | rfl <;> simp [ProviderState.isBusy] at busy
  | @accepted entry tape job metadata provider world offer =>
    have intent := h.busy provider
    have state := Entry.offer_state offer
    have id := offer.attempt.1
    refine ⟨h.change provider id rfl rfl
      (fun other different => (state other).trans (if_neg different))
      fun delivered _ => intent delivered offer.queued.isBusy.1, fun request member delivered => ?_⟩
    rw [acceptedRequests_append, List.mem_append] at member
    rcases member with old | new
    · exact quiet request old delivered
    · obtain rfl : request = _ := List.mem_singleton.mp new
      exact intent (id ▸ delivered) offer.queued.isBusy.1
  | @rejected entry tape job metadata provider error world offer =>
    refine ⟨h.change provider offer.attempt.1 rfl rfl (fun other different => ?_)
      fun _ busy => ?_, fun request member delivered => ?_⟩
    · rw [Entry.become_state, if_neg different]
      exact (Entry.offer_state offer other).trans (if_neg different)
    · simp [ProviderState.isBusy] at busy
    · rw [acceptedRequests_append, List.mem_append] at member
      rcases member with old | new
      · exact quiet request old delivered
      · cases new
  | @received entry tape record result next detail named active current recorded =>
    refine ⟨h.change result.provider rfl rfl rfl (fun other different => ?_)
      fun delivered _ => ?_, fun request member delivered => ?_⟩
    · rw [Entry.become_state, if_neg different]
      simp only [Entry.state, UploadJob.providerStatus, recorded.same.1]
    · exact h.busy result.provider delivered (by rw [active]; rfl)
    · rw [Tape.note_events, acceptedRequests_append, List.mem_append] at member
      rcases member with old | new
      · exact quiet request old delivered
      · cases new
  | @rearmed entry _ provider failed =>
    have intents : ∀ other, (entry.armed provider).intents other ≠ .automatic ∨
        other ≠ provider ∧ (entry.armed provider).intents other = entry.intents other := by
      intro other
      rw [Entry.armed_intents]
      by_cases same : other = provider
      · subst same
        refine .inl ?_
        split
        · simp
        · rename_i grouped; simp [not_ne_iff.mp grouped]
      · refine .inr ⟨same, ?_⟩
        split
        · exact Function.update_of_ne same _ _
        · rfl
    refine ⟨⟨fun other delivered busy => ?_, fun grouped other upload => ?_⟩, quiet⟩
    · rcases intents other with given | ⟨different, kept⟩
      · exact given
      · rw [Entry.armed_state, if_neg different] at busy
        rw [Entry.armed_id] at delivered
        rw [kept]
        exact h.busy other delivered busy
    · rcases intents other with given | ⟨-, kept⟩
      · exact given
      · rw [kept]
        exact h.grouped (by simpa using grouped) other upload
  | @revived entry _ dependent _ skipped _ _ allowed =>
    exact ⟨h.change dependent rfl rfl rfl (fun other different => by simp [different])
      fun delivered _ => allowed delivered, quiet⟩
  | @marked entry _ _ idle =>
    refine ⟨⟨fun provider delivered busy => ?_, fun _ provider upload => ?_⟩, quiet⟩
    · rw [Entry.marked_intents]
      split
      · simp
      · exact h.busy provider delivered busy
    · rw [Entry.marked_intents, if_pos upload]
      simp
  | @reset entry _ provider upload grouped =>
    exact ⟨h.change provider rfl rfl rfl (fun other different => by simp [different])
      fun _ _ => h.grouped grouped provider upload, quiet⟩
  | @rechatted entry =>
    refine ⟨⟨fun provider delivered busy => ?_, fun grouped provider upload => ?_⟩, quiet⟩
    · by_cases chat : provider = .twitch
      · subst chat; simp
      · change ((entry.redeliver .twitch).state provider).isBusy = true at busy
        rw [Entry.redeliver_state, if_neg chat] at busy
        change Function.update entry.intents .twitch .rechat provider ≠ _
        rw [Function.update_of_ne chat]
        exact h.busy provider delivered busy
    · have chat : provider ≠ .twitch := by rintro rfl; simp [uploads] at upload
      change Function.update entry.intents .twitch .rechat provider ≠ _
      rw [Function.update_of_ne chat]
      exact h.grouped grouped provider upload

theorem EntryStep.guarded {ports : UploadPorts W} {installed : Provider → Bool}
    {restored : List Entry} {s s' : Entry × Tape W}
    (step : EntryStep ports installed
      (fun id provider intent => Delivered restored id provider → intent ≠ .automatic) s s')
    (h : s.1.Guarded restored ∧ NoAutomaticReplay restored s.2.events) :
    s'.1.Guarded restored ∧ NoAutomaticReplay restored s'.2.events := by
  have moves := step.moves
  clear step
  induction moves with
  | refl => exact h
  | tail _ last ih => exact last.guarded ih

/-- The invariant of a session after its restore. -/
structure Renewed (restored : List Entry) (s : Running W) : Prop where
  guarded : ∀ entry ∈ s.1.jobs, entry.Guarded restored
  quiet : NoAutomaticReplay restored s.2.events
  once : s.1.restored = true
  counter : ∀ next, s.1.nextId = some next →
    ∀ entry ∈ restored, entry.job.id.get.toNat < next.toNat

theorem noAutomaticReplay_note {restored : List Entry} {events more : List Event}
    (h : NoAutomaticReplay restored events) (none : acceptedRequests more = []) :
    NoAutomaticReplay restored (events ++ more) := by
  unfold NoAutomaticReplay
  rw [acceptedRequests_append, none, List.append_nil]
  exact h

theorem Renewed.step {ports : UploadPorts W} {restored : List Entry}
    {restorable : UploadJobRecord → Prop} {s s' : Running W}
    (taken : Step ports
      (fun id provider intent => Delivered restored id provider → intent ≠ .automatic) restorable
      s s') (h : Renewed restored s) : Renewed restored s' := by
  cases taken with
  | churned churn =>
    cases churn with
    | worked running found step =>
      have member : _ ∈ _ := found ▸ List.mem_append_right _ (List.mem_cons_self ..)
      obtain ⟨guarded, quiet⟩ := step.guarded ⟨h.guarded _ member, h.quiet⟩
      exact ⟨forall_replaced found h.guarded fun _ => guarded, quiet, h.once, h.counter⟩
    | evicted found _ =>
      exact ⟨fun entry member => h.guarded entry (mem_of_without found member),
        noAutomaticReplay_note h.quiet rfl, h.once, h.counter⟩
    | adjusted => exact ⟨h.guarded, h.quiet, h.once, h.counter⟩
    | elapsed => exact ⟨h.guarded, h.quiet, h.once, h.counter⟩
    | stopped =>
      refine ⟨fun entry member => ?_, h.quiet, h.once, h.counter⟩
      obtain ⟨before, retained, rfl⟩ := List.mem_map.mp member
      have kept := h.guarded before retained
      rw [before.cancel_eq]
      refine ⟨fun provider _ busy => ?_, kept.grouped⟩
      exact absurd busy (by
        change ¬ (Entry.abandon (before.job.record.providers provider)).state.isBusy = true
        simp)
  | @admitted _ _ next id _ file enabled _ counted valid fresh =>
    obtain ⟨-, -, rfl⟩ := UploadJob.new_ok fresh
    have number := UploadJobId.get_of_new valid
    refine ⟨fun entry member => ?_, noAutomaticReplay_note h.quiet rfl, h.once, ?_⟩
    · rcases List.mem_append.mp member with retained | new
      · exact h.guarded entry retained
      · rw [List.mem_singleton.mp new]
        refine ⟨fun provider delivered => ?_, nofun⟩
        obtain ⟨old, listed, same, -⟩ := delivered
        have below := h.counter _ counted old listed
        rw [show old.job.id = id from same, number] at below
        omega
    · intro later next' entry listed
      have larger := toNat_of_checkedSucc64 next'
      have below := h.counter _ counted entry listed
      rw [number] at larger
      omega
  | restored records _ fresh => exact absurd (fresh.symm.trans h.once) (by simp)

namespace UploadCoordinator
variable {ports : UploadPorts W} {providers : List Provider} {historyLimit : Nat}
  {c : UploadCoordinator} {world : W} {s₀ s : Running W}

/-- A session that keeps to the intents never replays what was attempted before it. -/
theorem no_automatic_replay {records : List UploadJobRecord}
    (created : new providers historyLimit = .ok c)
    (restored : c.restore records ⟨world, []⟩ = (.ok (), s₀))
    (run : Run (perform ports) (KeepsIntents s₀.1.jobs) s₀ s) :
    NoAutomaticReplay s₀.1.jobs s.2.events := by
  have ledger : Ledger s₀ := by
    have performed : perform ports (c, ⟨world, []⟩) (.restore records) = s₀ :=
      congrArg Prod.snd restored
    rw [← performed]
    exact ledger_of_run created (.step _ .refl trivial)
  have initial : Renewed s₀.1.jobs s₀ := by
    unfold restore at restored
    split at restored
    · cases restored
    rename_i jobs brought
    cases restored
    obtain ⟨_, -, brought⟩ := bind_ok brought
    split at brought
    · cases brought
    obtain ⟨entries, -⟩ := restoreJobs_ok brought
    refine ⟨fun entry member => ?_, ?_, rfl, fun next counted => (ledger.counter next counted).1⟩
    · obtain ⟨record, -, new, id, from'⟩ := exists_of_forall₂ entries member
      obtain ⟨-, eq⟩ := UploadJob.restore_ok from'
      rw [new]
      refine ⟨fun provider _ busy => ?_, nofun⟩
      change (entry.job.record.providers provider).state.isBusy = true at busy
      rw [eq] at busy
      simp at busy
    · intro request member
      rw [show acceptedRequests _ = [] from List.filterMap_eq_nil_iff.mpr (by
        simp [Tape.noteAll, Event.acceptedRequest])] at member
      cases member
  refine (run_invariant
    (fun id provider intent => Delivered s₀.1.jobs id provider → intent ≠ .automatic)
    (fun _ => True) run (fun s op met => ?_) (fun _ _ taken h => h.step taken) initial).quiet
  cases op with
  | retryFailed id provider =>
    intro entry member named
    subst named
    rintro rfl single missing dependent listed skipped
    exact met entry member rfl single missing dependent listed skipped
  | restore => exact fun _ _ => trivial
  | _ => trivial

/-- A delivery, and a reupload of it that dps.report turns down: DonBot stays skipped. -/
def failedReupload : List (CoordinatorOp Unit) :=
  sampleDelivery ++ [.reupload sampleJobId,
    .applyResult { jobId := sampleJobId, provider := .dpsReport, attempt := 2, outcome := .failed }]

/-- What a session of the sample coordinator persists. -/
def persisted (ops : List (CoordinatorOp Unit)) : List UploadJobRecord :=
  (ops.foldl (perform acceptingPorts) (sampleStart ⟨100, by decide⟩)).1.history

def nextSession (ops : List (CoordinatorOp Unit)) : Running Unit :=
  perform acceptingPorts (sampleStart ⟨100, by decide⟩) (.restore (persisted ops))

/-- The next session reuploads the log, with the intent of a reupload. -/
theorem no_automatic_replay_sample :
    let ops := [CoordinatorOp.reupload sampleJobId, .applyResult (sampleSuccess .dpsReport 3)]
    let s := ops.foldl (perform acceptingPorts) (nextSession failedReupload)
    (acceptedRequests s.2.events).length = 3 ∧
      NoAutomaticReplay (nextSession failedReupload).1.jobs s.2.events :=
  ⟨by decide, no_automatic_replay (show new Provider.all 100 = .ok _ from rfl)
    (Prod.ext (by decide : (restore _ (persisted failedReupload) ⟨(), []⟩).1 = _) rfl)
    (.of_list (perform acceptingPorts) _ _ (by simp [KeepsIntents]))⟩

/-- Retrying dps.report in the next session takes up DonBot with the automatic intent. -/
theorem automatic_replay_after_restart :
    ¬ NoAutomaticReplay (nextSession failedReupload).1.jobs
      ([CoordinatorOp.retryFailed sampleJobId .dpsReport,
        .applyResult (sampleSuccess .dpsReport 3)].foldl (perform acceptingPorts)
          (nextSession failedReupload)).2.events := by
  decide

end UploadCoordinator
end MannyUploader.Application
