import MannyUploader.Application.CoordinatorSteps

/-! What the attempts of a run add up to. An attempt is open while its request was accepted
and no result of it was applied; the active states are exactly the open attempts. -/
namespace MannyUploader.Application
open Domain Foundation Relation

structure Attempt where
  jobId : UploadJobId
  provider : Provider
  number : UInt32
deriving DecidableEq

def Event.acceptedAttempt : Event → Option Attempt
  | .enqueued _ request (.ok ()) => some ⟨request.jobId, request.provider, request.attempt⟩
  | _ => none

def Event.appliedAttempt : Event → Option Attempt
  | .applied result => some ⟨result.jobId, result.provider, result.attempt⟩
  | _ => none

/-- The attempts that a provider took on, in order. -/
def acceptedAttempts (events : List Event) : List Attempt := events.filterMap (·.acceptedAttempt)

/-- The attempts whose result was applied, in order. -/
def appliedAttempts (events : List Event) : List Attempt := events.filterMap (·.appliedAttempt)

@[simp] theorem acceptedAttempts_append (first second : List Event) :
    acceptedAttempts (first ++ second) = acceptedAttempts first ++ acceptedAttempts second :=
  List.filterMap_append

@[simp] theorem appliedAttempts_append (first second : List Event) :
    appliedAttempts (first ++ second) = appliedAttempts first ++ appliedAttempts second :=
  List.filterMap_append

/-- Of two attempts of one provider on one job the later has the larger number. -/
def Attempt.Follows (earlier later : Attempt) : Prop :=
  earlier.jobId = later.jobId → earlier.provider = later.provider → earlier.number < later.number

/-- The laws of the events alone. -/
structure Audited (events : List Event) : Prop where
  increasing : (acceptedAttempts events).Pairwise Attempt.Follows
  once : (appliedAttempts events).Nodup
  sourced : ∀ attempt ∈ appliedAttempts events, attempt ∈ acceptedAttempts events

/-- What the events say about one entry. -/
structure Entry.Recounted (entry : Entry) (events : List Event) : Prop where
  bounded : ∀ attempt ∈ acceptedAttempts events, attempt.jobId = entry.job.id →
    attempt.number ≤ entry.attempts attempt.provider
  active : ∀ provider, entry.state provider = .active →
    ⟨entry.job.id, provider, entry.attempts provider⟩ ∈ acceptedAttempts events ∧
      ⟨entry.job.id, provider, entry.attempts provider⟩ ∉ appliedAttempts events
  outstanding : ∀ attempt ∈ acceptedAttempts events, attempt.jobId = entry.job.id →
    attempt ∉ appliedAttempts events →
      entry.state attempt.provider = .active ∧ attempt.number = entry.attempts attempt.provider

namespace Entry
variable {entry entry' : Entry} {events : List Event}

/-- A change that starts and ends no attempt leaves the account as it was. -/
theorem Recounted.congr (h : entry.Recounted events) (id : entry'.job.id = entry.job.id)
    (attempts : ∀ provider, entry'.attempts provider = entry.attempts provider)
    (active : ∀ provider, entry'.state provider = .active ↔ entry.state provider = .active) :
    entry'.Recounted events := by
  refine ⟨fun attempt member mine => ?_, fun provider now => ?_, fun attempt member mine fresh => ?_⟩
  · rw [attempts]
    exact h.bounded attempt member (mine.trans id)
  · rw [attempts, id]
    exact h.active provider ((active provider).mp now)
  · rw [attempts, active]
    exact h.outstanding attempt member (mine.trans id) fresh

/-- Before any attempt the account says that none is under way. -/
theorem recounted_of_none (none : acceptedAttempts events = []) :
    entry.Recounted events ↔ ∀ provider, entry.state provider ≠ .active := by
  refine ⟨fun h provider active => ?_, fun idle => ⟨?_, ?_, ?_⟩⟩
  · simpa [none] using (h.active provider active).1
  · simp [none]
  · exact fun provider active => absurd active (idle provider)
  · simp [none]

/-- Events about other jobs do not concern an entry. -/
theorem Recounted.frame {more : List Event} (h : entry.Recounted events)
    (foreign : ∀ attempt, attempt ∈ acceptedAttempts more ∨ attempt ∈ appliedAttempts more →
      attempt.jobId ≠ entry.job.id) : entry.Recounted (events ++ more) := by
  refine ⟨fun attempt member mine => ?_, fun provider now => ?_, fun attempt member mine fresh => ?_⟩
  · rw [acceptedAttempts_append, List.mem_append] at member
    rcases member with old | new
    · exact h.bounded attempt old mine
    · exact absurd mine (foreign attempt (.inl new))
  · obtain ⟨accepted, unapplied⟩ := h.active provider now
    rw [acceptedAttempts_append, appliedAttempts_append, List.mem_append, List.mem_append]
    exact ⟨.inl accepted, fun applied => applied.elim unapplied
      fun new => foreign _ (.inr new) rfl⟩
  · rw [acceptedAttempts_append, List.mem_append] at member
    rw [appliedAttempts_append, List.mem_append, not_or] at fresh
    rcases member with old | new
    · exact h.outstanding attempt old mine fresh.1
    · exact absurd mine (foreign attempt (.inl new))

end Entry

/-- The new attempt of an offer, and the job it is made with. -/
theorem Offer.attempt {entry : Entry} {provider : Provider} {job : UploadJob}
    {metadata : EncounterMetadata} (offer : Offer entry provider job metadata) :
    job.id = entry.job.id ∧
    (entry.request job provider metadata).attempt = Entry.attempts { entry with job } provider ∧
    (∀ number, number ≤ entry.attempts provider →
      number < Entry.attempts { entry with job } provider) ∧
    ∀ other, other ≠ provider →
      Entry.attempts { entry with job } other = entry.attempts other := by
  obtain ⟨attempts, counted, rfl⟩ := offer.activated
  refine ⟨rfl, rfl, fun number bound => ?_, fun other different => ?_⟩
  · simp only [Entry.attempts, UploadJob.providerStatus_withStatus, ↓reduceIte]
    rw [UInt32.lt_iff_toNat_lt, counted]
    exact Nat.lt_succ_of_le (UInt32.le_iff_toNat_le.mp bound)
  · simp only [Entry.attempts, UploadJob.providerStatus_withStatus, if_neg different]

section account
variable {entry : Entry} {events : List Event} {provider : Provider} {job : UploadJob}
  {metadata : EncounterMetadata}

/-- Taking on the attempt of an offer. -/
theorem Offer.accept (offer : Offer entry provider job metadata) (h : entry.Recounted events)
    (laws : Audited events) :
    let events' := events ++ [.enqueued job (entry.request job provider metadata) (.ok ())]
    Entry.Recounted { entry with job } events' ∧ Audited events' := by
  obtain ⟨id, number, larger, others⟩ := offer.attempt
  have state := Entry.offer_state offer
  have idle : entry.state provider ≠ .active := offer.queued.isBusy.2
  have new : acceptedAttempts [.enqueued job (entry.request job provider metadata) (.ok ())] =
      [⟨job.id, provider, Entry.attempts { entry with job } provider⟩] := rfl
  have none : appliedAttempts [.enqueued job (entry.request job provider metadata) (.ok ())] =
      [] := rfl
  have fresh : ∀ attempt ∈ acceptedAttempts events, attempt.jobId = job.id →
      attempt.provider = provider →
        attempt.number < Entry.attempts { entry with job } provider := by
    intro attempt member mine same
    exact larger _ (same ▸ h.bounded attempt member (mine.trans id))
  have unseen : (⟨job.id, provider, Entry.attempts { entry with job } provider⟩ : Attempt) ∉
      acceptedAttempts events := fun member => absurd (fresh _ member rfl rfl) (by simp)
  refine ⟨⟨fun attempt member mine => ?_, fun other now => ?_, fun attempt member mine open' => ?_⟩,
    ?_, ?_, ?_⟩
  · rw [acceptedAttempts_append, new, List.mem_append, List.mem_singleton] at member
    rcases member with old | rfl
    · by_cases same : attempt.provider = provider
      · exact UInt32.le_of_lt (same ▸ fresh attempt old mine same)
      · rw [others _ same]
        exact h.bounded attempt old (mine.trans id)
    · exact UInt32.le_refl _
  · rw [acceptedAttempts_append, appliedAttempts_append, new, none, List.append_nil]
    rw [state] at now
    split at now
    · rename_i same
      subst same
      exact ⟨by simp, fun applied => unseen (laws.sourced _ applied)⟩
    · rename_i different
      obtain ⟨accepted, unapplied⟩ := h.active other now
      rw [others other different]
      change (⟨job.id, _, _⟩ : Attempt) ∈ _ ∧ (⟨job.id, _, _⟩ : Attempt) ∉ _
      rw [id]
      exact ⟨List.mem_append_left _ accepted, unapplied⟩
  · rw [acceptedAttempts_append, new, List.mem_append, List.mem_singleton] at member
    rw [appliedAttempts_append, none, List.append_nil] at open'
    rcases member with old | rfl
    · obtain ⟨active, current⟩ := h.outstanding attempt old (mine.trans id) open'
      have different : attempt.provider ≠ provider := by
        intro same
        exact idle (same ▸ active)
      rw [state, if_neg different, others _ different]
      exact ⟨active, current⟩
    · exact ⟨by rw [state, if_pos rfl], rfl⟩
  · rw [acceptedAttempts_append, new, List.pairwise_append]
    refine ⟨laws.increasing, by simp, fun earlier old later latest => ?_⟩
    rw [List.mem_singleton.mp latest]
    exact fun mine same => fresh earlier old mine same
  · rw [appliedAttempts_append, none, List.append_nil]
    exact laws.once
  · intro attempt applied
    rw [appliedAttempts_append, none, List.append_nil] at applied
    rw [acceptedAttempts_append]
    exact List.mem_append_left _ (laws.sourced attempt applied)

/-- A refused attempt uses up its number and leaves nothing outstanding. -/
theorem Offer.refuse (offer : Offer entry provider job metadata) (error : ProviderError)
    (h : entry.Recounted events) (laws : Audited events) (detail : String) :
    let events' := events ++ [.enqueued job (entry.request job provider metadata) (.error error)]
    (Entry.become { entry with job } provider .failed detail).Recounted events' ∧
      Audited events' := by
  obtain ⟨id, -, larger, others⟩ := offer.attempt
  have state := Entry.offer_state offer
  have idle : entry.state provider ≠ .active := offer.queued.isBusy.2
  have same : acceptedAttempts
        (events ++ [.enqueued job (entry.request job provider metadata) (.error error)]) =
      acceptedAttempts events ∧ appliedAttempts
        (events ++ [.enqueued job (entry.request job provider metadata) (.error error)]) =
      appliedAttempts events := by
    rw [acceptedAttempts_append, appliedAttempts_append]
    exact ⟨List.append_nil _, List.append_nil _⟩
  refine ⟨⟨fun attempt member mine => ?_, fun other now => ?_, fun attempt member mine open' => ?_⟩,
    ?_, ?_, ?_⟩
  · rw [same.1] at member
    have bound := h.bounded attempt member (mine.trans id)
    rw [Entry.become_attempts]
    by_cases provided : attempt.provider = provider
    · rw [provided] at bound ⊢
      exact UInt32.le_of_lt (larger _ bound)
    · rw [others _ provided]
      exact bound
  · rw [Entry.become_state, state] at now
    split at now
    · cases now
    · rename_i different
      obtain ⟨accepted, unapplied⟩ := h.active other now
      rw [same.1, same.2, Entry.become_attempts, Entry.become_id, others other different]
      change (⟨job.id, _, _⟩ : Attempt) ∈ _ ∧ (⟨job.id, _, _⟩ : Attempt) ∉ _
      rw [id]
      exact ⟨accepted, unapplied⟩
  · rw [same.1] at member
    rw [same.2] at open'
    obtain ⟨active, current⟩ := h.outstanding attempt member (mine.trans id) open'
    have different : attempt.provider ≠ provider := by
      intro provided
      exact idle (provided ▸ active)
    rw [Entry.become_state, Entry.become_attempts, if_neg different, state, if_neg different,
      others _ different]
    exact ⟨active, current⟩
  · rw [same.1]; exact laws.increasing
  · rw [same.2]; exact laws.once
  · rw [same.1, same.2]; exact laws.sourced

/-- An applied result closes the attempt it names. -/
theorem Entry.Recounted.receive {record : UploadJobRecord} {next : ProviderState}
    (result : UploadResult) (detail : String) (named : result.jobId = entry.job.id)
    (active : entry.state result.provider = .active)
    (current : entry.attempts result.provider = result.attempt)
    (recorded : Recorded entry.job.record result.provider next record)
    (h : entry.Recounted events) (laws : Audited events) :
    (Entry.become { entry with job := { entry.job with record } } result.provider next
      detail).Recounted (events ++ [.applied result]) ∧ Audited (events ++ [.applied result]) := by
  have before : ∀ other, Entry.state { entry with job := { entry.job with record } } other =
      entry.state other := by
    intro other
    simp only [Entry.state, UploadJob.providerStatus, recorded.same.1]
  have attempts : ∀ other, Entry.attempts { entry with job := { entry.job with record } } other =
      entry.attempts other := by
    intro other
    simp only [Entry.attempts, UploadJob.providerStatus, recorded.same.1]
  have accepted : acceptedAttempts (events ++ [.applied result]) = acceptedAttempts events := by
    rw [acceptedAttempts_append]; exact List.append_nil _
  have applied : appliedAttempts (events ++ [.applied result]) =
      appliedAttempts events ++ [⟨result.jobId, result.provider, result.attempt⟩] := by
    rw [appliedAttempts_append]; rfl
  obtain ⟨taken, unapplied⟩ := h.active result.provider active
  rw [current, ← named] at taken unapplied
  refine ⟨⟨fun attempt member mine => ?_, fun other now => ?_, fun attempt member mine open' => ?_⟩,
    ?_, ?_, ?_⟩
  · rw [accepted] at member
    rw [Entry.become_attempts, attempts]
    exact h.bounded attempt member mine
  · rw [Entry.become_state, before] at now
    split at now
    · exact absurd now recorded.settles.1
    · rename_i different
      obtain ⟨still, open'⟩ := h.active other now
      rw [accepted, applied, Entry.become_attempts, attempts]
      refine ⟨still, fun member => ?_⟩
      rcases List.mem_append.mp member with old | closed
      · exact open' old
      · simp only [List.mem_singleton, Attempt.mk.injEq] at closed
        exact different closed.2.1
  · rw [accepted] at member
    rw [applied, List.mem_append, not_or, List.mem_singleton] at open'
    obtain ⟨was, number⟩ := h.outstanding attempt member mine open'.1
    have different : attempt.provider ≠ result.provider := by
      intro same
      apply open'.2
      obtain ⟨jobId, provider, count⟩ := attempt
      simp only at same mine number
      rw [mine, number, same, current, named]
      rfl
    rw [Entry.become_state, Entry.become_attempts, if_neg different, before, attempts]
    exact ⟨was, number⟩
  · rw [accepted]; exact laws.increasing
  · rw [applied, List.nodup_append]
    refine ⟨laws.once, by simp, fun attempt old other closed => ?_⟩
    rw [List.mem_singleton.mp closed]
    rintro rfl
    exact unapplied old
  · intro attempt member
    rw [applied, List.mem_append, List.mem_singleton] at member
    rw [accepted]
    rcases member with old | rfl
    · exact laws.sourced attempt old
    · exact taken

end account

/-- Every move keeps the account of its entry. -/
theorem Move.recounted {revivable : UploadJobId → Provider → UploadIntent → Prop}
    {s s' : Entry × Tape W} (move : Move revivable s s')
    (h : s.1.Recounted s.2.events ∧ Audited s.2.events) :
    s'.1.Recounted s'.2.events ∧ Audited s'.2.events := by
  cases move with
  | parsed metadata missing => exact ⟨h.1.congr rfl (fun _ => rfl) (fun _ => Iff.rfl), h.2⟩
  | unparsed => exact ⟨h.1.congr rfl (fun _ => rfl) (fun _ => Iff.rfl), h.2⟩
  | @settled entry _ provider next detail waits ending =>
    refine ⟨h.1.congr rfl (by simp) fun other => ?_, h.2⟩
    have idle := waits.isBusy.2
    rw [Entry.become_state]
    split
    · rename_i same
      subst same
      rcases ending with rfl | rfl | rfl <;> simp [idle]
    · rfl
  | accepted provider world offer => exact offer.accept h.1 h.2
  | rejected provider error world offer => exact offer.refuse error h.1 h.2 _
  | received result next detail named active current recorded =>
    exact h.1.receive result detail named active current recorded h.2
  | rearmed provider failed =>
    refine ⟨h.1.congr (by simp) (by simp) fun other => ?_, h.2⟩
    rw [Entry.armed_state]
    split
    · rename_i same; subst same; simp [failed]
    · rfl
  | revived dependent _ skipped =>
    refine ⟨h.1.congr rfl (by simp) fun other => ?_, h.2⟩
    rw [Entry.become_state]
    split
    · rename_i same; subst same; simp [skipped]
    · rfl
  | marked => exact ⟨h.1.congr rfl (fun _ => rfl) (fun _ => Iff.rfl), h.2⟩
  | reset provider _ _ idle =>
    refine ⟨h.1.congr rfl (by simp) fun other => ?_, h.2⟩
    rw [Entry.redeliver_state]
    split
    · rename_i same
      subst same
      refine ⟨fun waiting => (by cases waiting), fun active => ?_⟩
      simp [active, ProviderState.isBusy] at idle
    · rfl
  | @rechatted entry _ idle =>
    refine ⟨h.1.congr rfl (entry.redeliver_attempts .twitch) fun other => ?_, h.2⟩
    change (entry.redeliver .twitch).state other = _ ↔ _
    rw [Entry.redeliver_state]
    split
    · rename_i same
      subst same
      refine ⟨fun waiting => (by cases waiting), fun active => ?_⟩
      simp [active, ProviderState.isBusy] at idle
    · rfl

/-- The job whose delivery an event speaks of. -/
def Event.about : Event → Option UploadJobId
  | .enqueued _ request _ => some request.jobId
  | .applied result => some result.jobId
  | _ => none

/-- A move keeps the job's identity and only speaks about its own job. -/
theorem Move.about {revivable : UploadJobId → Provider → UploadIntent → Prop}
    {s s' : Entry × Tape W} (move : Move revivable s s') :
    s'.1.job.id = s.1.job.id ∧ ∃ more, s'.2.events = s.2.events ++ more ∧
      ∀ event ∈ more, event.about = some s.1.job.id := by
  have quiet : ∀ events : List Event, ∃ more, events = events ++ more ∧
      ∀ event ∈ more, event.about = some s.1.job.id := fun events => ⟨[], by simp, by simp⟩
  cases move with
  | accepted provider world offer =>
    refine ⟨offer.attempt.1, _, rfl, fun event member => ?_⟩
    rw [List.mem_singleton.mp member]
    exact congrArg some offer.attempt.1
  | rejected provider error world offer =>
    refine ⟨offer.attempt.1, _, rfl, fun event member => ?_⟩
    rw [List.mem_singleton.mp member]
    exact congrArg some offer.attempt.1
  | received result next detail named =>
    refine ⟨rfl, _, rfl, fun event member => ?_⟩
    rw [List.mem_singleton.mp member]
    exact congrArg some named
  | rearmed provider => exact ⟨by simp, quiet _⟩
  | _ => exact ⟨rfl, quiet _⟩

theorem EntryStep.about {ports : UploadPorts W} {installed : Provider → Bool}
    {revivable : UploadJobId → Provider → UploadIntent → Prop} {s s' : Entry × Tape W}
    (step : EntryStep ports installed revivable s s') :
    s'.1.job.id = s.1.job.id ∧ ∃ more, s'.2.events = s.2.events ++ more ∧
      ∀ event ∈ more, event.about = some s.1.job.id := by
  have moves := step.moves
  clear step
  induction moves with
  | refl => exact ⟨rfl, [], by simp, by simp⟩
  | tail _ last ih =>
    obtain ⟨id, more, events, mine⟩ := ih
    obtain ⟨id', more', events', mine'⟩ := last.about
    refine ⟨id'.trans id, more ++ more', by rw [events', events, List.append_assoc], ?_⟩
    intro event member
    rcases List.mem_append.mp member with first | second
    · exact mine event first
    · exact (mine' event second).trans (congrArg some id)

/-- An attempt is accepted or applied by an event about its job. -/
theorem about_of_attempt {events : List Event} {attempt : Attempt}
    (h : attempt ∈ acceptedAttempts events ∨ attempt ∈ appliedAttempts events) :
    ∃ event ∈ events, event.about = some attempt.jobId := by
  rcases h with accepted | applied
  · obtain ⟨event, member, found⟩ := List.mem_filterMap.mp accepted
    unfold Event.acceptedAttempt at found
    split at found
    · cases found; exact ⟨_, member, rfl⟩
    · cases found
  · obtain ⟨event, member, found⟩ := List.mem_filterMap.mp applied
    unfold Event.appliedAttempt at found
    split at found
    · cases found; exact ⟨_, member, rfl⟩
    · cases found

theorem EntryStep.own {ports : UploadPorts W} {installed : Provider → Bool}
    {revivable : UploadJobId → Provider → UploadIntent → Prop} {s s' : Entry × Tape W}
    (step : EntryStep ports installed revivable s s') :
    s'.1.job.id = s.1.job.id ∧ ∃ more, s'.2.events = s.2.events ++ more ∧
      ∀ attempt, attempt ∈ acceptedAttempts more ∨ attempt ∈ appliedAttempts more →
        attempt.jobId = s.1.job.id := by
  obtain ⟨id, more, events, mine⟩ := step.about
  refine ⟨id, more, events, fun attempt member => ?_⟩
  obtain ⟨event, member, named⟩ := about_of_attempt member
  exact Option.some.inj (named.symm.trans (mine event member))

/-- The invariant behind the account: identifiers are handed out once, and what is still
outstanding belongs to a retained job. -/
structure Ledger (s : Running W) : Prop where
  laws : Audited s.2.events
  numbered : s.1.jobs.Pairwise fun first second =>
    first.job.id.get.toNat < second.job.id.get.toNat
  counter : ∀ next, s.1.nextId = some next →
    (∀ entry ∈ s.1.jobs, entry.job.id.get.toNat < next.toNat) ∧
      ∀ attempt ∈ acceptedAttempts s.2.events, attempt.jobId.get.toNat < next.toNat
  recounted : s.1.stopping = false → ∀ entry ∈ s.1.jobs, entry.Recounted s.2.events
  retained : s.1.stopping = false → ∀ attempt ∈ acceptedAttempts s.2.events,
    attempt ∉ appliedAttempts s.2.events → ∃ entry ∈ s.1.jobs, entry.job.id = attempt.jobId

namespace Ledger
variable {ports : UploadPorts W} {revivable : UploadJobId → Provider → UploadIntent → Prop}
  {restorable : UploadJobRecord → Prop} {c : UploadCoordinator} {tape tape' : Tape W}
  {before after : List Entry} {entry entry' : Entry}

theorem distinct {s : Running W} (h : Ledger s) {first second : Entry} (hf : first ∈ s.1.jobs)
    (hs : second ∈ s.1.jobs) (same : first.job.id = second.job.id) : first = second := by
  have unique : s.1.jobs.Pairwise fun first second =>
      first.job.id = second.job.id → first = second :=
    h.numbered.imp fun less same => by rw [same] at less; omega
  exact unique.forall_of_forall_of_flip (fun _ _ _ => rfl)
    (unique.imp fun eq same => (eq same.symm).symm) hf hs same

theorem worked (h : Ledger (c, tape)) (running : c.stopping = false)
    (found : c.jobs = before ++ entry :: after)
    (step : EntryStep ports c.installed revivable (entry, tape) (entry', tape')) :
    Ledger ({ c with jobs := before ++ entry' :: after }, tape') := by
  obtain ⟨id, more, events, mine⟩ := step.own
  dsimp only at id events mine
  have numbered := h.numbered
  simp only [found, List.pairwise_append, List.pairwise_cons, List.mem_cons] at numbered
  obtain ⟨sortedBefore, ⟨aboveEntry, sortedAfter⟩, across⟩ := numbered
  have account := invariant_of_moves step.moves (fun _ _ move => move.recounted)
    ⟨h.recounted running entry (by simp [found]), h.laws⟩
  have foreign : ∀ other ∈ c.jobs, other.job.id ≠ entry.job.id →
      other.Recounted tape'.events := by
    intro other member different
    rw [events]
    exact (h.recounted running other member).frame fun attempt belongs =>
      (mine attempt belongs).trans_ne different.symm
  refine ⟨account.2, ?_, ?_, fun _ other member => ?_, fun _ attempt accepted open' => ?_⟩
  · simp only [List.pairwise_append, List.pairwise_cons, List.mem_cons, id]
    refine ⟨sortedBefore, ⟨aboveEntry, sortedAfter⟩, fun first hf second hs => ?_⟩
    rcases hs with rfl | hs
    · rw [id]; exact across first hf entry (.inl rfl)
    · exact across first hf second (.inr hs)
  · intro next counted
    obtain ⟨below, used⟩ := h.counter next counted
    rw [found] at below
    refine ⟨fun other member => ?_, fun attempt accepted => ?_⟩
    · simp only [List.mem_append, List.mem_cons] at member below
      rcases member with first | rfl | last
      · exact below other (.inl first)
      · rw [id]; exact below entry (.inr (.inl rfl))
      · exact below other (.inr (.inr last))
    · rw [events, acceptedAttempts_append, List.mem_append] at accepted
      rcases accepted with old | new
      · exact used attempt old
      · rw [mine attempt (.inl new)]
        exact below entry (by simp)
  · simp only [List.mem_append, List.mem_cons] at member
    rcases member with first | rfl | last
    · refine foreign other (by simp [found, first]) fun same => ?_
      have := across other first entry (.inl rfl)
      rw [same] at this
      omega
    · exact account.1
    · refine foreign other (by simp [found, last]) fun same => ?_
      have := aboveEntry other last
      rw [same] at this
      omega
  · rw [events, acceptedAttempts_append, List.mem_append] at accepted
    rw [events, appliedAttempts_append, List.mem_append, not_or] at open'
    have owner : ∃ owner ∈ c.jobs, owner.job.id = attempt.jobId := by
      rcases accepted with old | new
      · exact h.retained running attempt old open'.1
      · exact ⟨entry, by simp [found], (mine attempt (.inl new)).symm⟩
    obtain ⟨owner, member, owns⟩ := owner
    rw [found] at member
    simp only [List.mem_append, List.mem_cons] at member
    rcases member with first | rfl | last
    · exact ⟨owner, by simp [first], owns⟩
    · exact ⟨entry', by simp, id.trans owns⟩
    · exact ⟨owner, by simp [last], owns⟩

theorem evicted (h : Ledger (c, tape)) (found : c.jobs = before ++ entry :: after)
    (idle : entry.busy = false) :
    Ledger ({ c with jobs := before ++ after }, tape.note (.evicted entry.job)) := by
  have accepted : acceptedAttempts (tape.note (.evicted entry.job)).events =
      acceptedAttempts tape.events := by
    rw [Tape.note_events, acceptedAttempts_append]; exact List.append_nil _
  have applied : appliedAttempts (tape.note (.evicted entry.job)).events =
      appliedAttempts tape.events := by
    rw [Tape.note_events, appliedAttempts_append]; exact List.append_nil _
  have kept : ∀ other ∈ before ++ after, other ∈ c.jobs := fun _ => mem_of_without found
  refine ⟨⟨?_, ?_, ?_⟩, ?_, ?_, fun running other member => ?_, fun running attempt taken open' => ?_⟩
  · rw [accepted]; exact h.laws.increasing
  · rw [applied]; exact h.laws.once
  · rw [accepted, applied]; exact h.laws.sourced
  · exact h.numbered.sublist (by rw [found]; simp)
  · intro next counted
    rw [accepted]
    exact ⟨fun other member => (h.counter next counted).1 other (kept other member),
      (h.counter next counted).2⟩
  · exact (h.recounted running other (kept other member)).frame (by
      simp [acceptedAttempts, appliedAttempts, Event.acceptedAttempt, Event.appliedAttempt])
  · rw [accepted] at taken
    rw [applied] at open'
    obtain ⟨owner, member, owns⟩ := h.retained running attempt taken open'
    have active := ((h.recounted running owner member).outstanding attempt taken owns.symm open').1
    rw [found] at member
    simp only [List.mem_append, List.mem_cons] at member
    rcases member with first | rfl | last
    · exact ⟨owner, by simp [first], owns⟩
    · simp only [Entry.busy, Bool.or_eq_false_iff, List.any_eq_false] at idle
      have := idle.2 attempt.provider attempt.provider.mem_all
      simp [active, ProviderState.isBusy] at this
    · exact ⟨owner, by simp [last], owns⟩

theorem stopped (h : Ledger (c, tape)) :
    Ledger ({ c with stopping := true, jobs := c.jobs.map Entry.cancel }, tape) := by
  refine ⟨h.laws, ?_, ?_, nofun, nofun⟩
  · simpa [List.pairwise_map] using h.numbered
  · intro next counted
    refine ⟨fun entry member => ?_, (h.counter next counted).2⟩
    obtain ⟨before, retained, rfl⟩ := List.mem_map.mp member
    rw [Entry.cancel_id]
    exact (h.counter next counted).1 before retained

theorem admitted {next : UInt64} {id : UploadJobId} {job : UploadJob} {file : LogFileIdentity}
    {now : SystemTime} {enabled : ProviderSelection} (h : Ledger (c, tape))
    (counted : c.nextId = some next) (valid : UploadJobId.new next = .ok id)
    (fresh : UploadJob.new id file now enabled = .ok job) :
    Ledger ({ c with jobs := c.jobs ++ [Entry.new job true], nextId := checkedSucc64 job.id.get },
      tape.note (.admitted job)) := by
  obtain ⟨-, -, rfl⟩ := UploadJob.new_ok fresh
  have number := UploadJobId.get_of_new valid
  obtain ⟨below, used⟩ := h.counter next counted
  generalize hjob : ({ id, record := _ } : UploadJob) = job at *
  have named : job.id = id := by rw [← hjob]
  have accepted : acceptedAttempts (tape.note (.admitted job)).events =
      acceptedAttempts tape.events := by
    rw [Tape.note_events, acceptedAttempts_append]; exact List.append_nil _
  have applied : appliedAttempts (tape.note (.admitted job)).events =
      appliedAttempts tape.events := by
    rw [Tape.note_events, appliedAttempts_append]; exact List.append_nil _
  have unused : ∀ attempt ∈ acceptedAttempts tape.events, attempt.jobId ≠ job.id := by
    intro attempt taken same
    have := used attempt taken
    rw [same, named, number] at this
    omega
  refine ⟨⟨?_, ?_, ?_⟩, ?_, ?_, fun running other member => ?_, fun running attempt taken open' => ?_⟩
  · rw [accepted]; exact h.laws.increasing
  · rw [applied]; exact h.laws.once
  · rw [accepted, applied]; exact h.laws.sourced
  · refine List.pairwise_append.mpr ⟨h.numbered, by simp, fun first member second last => ?_⟩
    rw [List.mem_singleton.mp last]
    change first.job.id.get.toNat < job.id.get.toNat
    rw [named, number]
    exact below first member
  · intro later next'
    have larger : later.toNat = next.toNat + 1 := by
      rw [← number, ← named]; exact toNat_of_checkedSucc64 next'
    refine ⟨fun other member => ?_, fun attempt taken => ?_⟩
    · rcases List.mem_append.mp member with old | new
      · have := below other old; omega
      · rw [List.mem_singleton.mp new]
        change job.id.get.toNat < _
        rw [named, number]; omega
    · rw [accepted] at taken
      have := used attempt taken; omega
  · rcases List.mem_append.mp member with old | new
    · exact (h.recounted running other old).frame (by
        simp [acceptedAttempts, appliedAttempts, Event.acceptedAttempt, Event.appliedAttempt])
    · rw [List.mem_singleton.mp new]
      refine ⟨fun attempt taken mine => ?_, fun provider active => ?_,
        fun attempt taken mine => ?_⟩
      · exact absurd mine (unused attempt (accepted ▸ taken))
      · have initial : (Entry.new job true).state provider =
            if enabled.contains provider then .waiting else .disabled := by rw [← hjob]; rfl
        rw [initial] at active
        split at active <;> cases active
      · exact absurd mine (unused attempt (accepted ▸ taken))
  · rw [accepted] at taken
    rw [applied] at open'
    obtain ⟨owner, member, owns⟩ := h.retained running attempt taken open'
    exact ⟨owner, List.mem_append_left _ member, owns⟩

theorem restored {records : List UploadJobRecord} {jobs : List Entry} (h : Ledger (c, tape))
    (first : c.nextId = some 1) (few : records.length ≤ c.historyLimit)
    (restored : UploadCoordinator.restoreJobs 0 records = .ok jobs) :
    Ledger ({ c with jobs, nextId := some (UInt64.ofNat jobs.length + 1), restored := true },
      tape.noteAll (jobs.map fun entry => .restored entry.job)) := by
  obtain ⟨entries, ids⟩ := UploadCoordinator.restoreJobs_ok restored
  have size : jobs.length ≤ 10000 := by
    rw [← entries.length_eq]
    exact few.trans c.historyLimit.2.2
  have none : acceptedAttempts tape.events = [] := by
    refine List.eq_nil_iff_forall_not_mem.mpr fun attempt taken => attempt.jobId.nonzero ?_
    have := (h.counter 1 first).2 attempt taken
    exact UInt64.toNat_inj.mp (by simpa using this)
  have accepted : acceptedAttempts (tape.noteAll
      (jobs.map fun entry => .restored entry.job)).events = [] := by
    rw [Tape.noteAll_events, acceptedAttempts_append, none, List.nil_append]
    exact List.filterMap_eq_nil_iff.mpr (by simp [Event.acceptedAttempt])
  have applied : appliedAttempts (tape.noteAll
      (jobs.map fun entry => .restored entry.job)).events = appliedAttempts tape.events := by
    rw [Tape.noteAll_events, appliedAttempts_append]
    refine (congrArg _ (List.filterMap_eq_nil_iff.mpr ?_)).trans (List.append_nil _)
    simp [Event.appliedAttempt]
  have numbers : jobs.map (·.job.id.get.toNat) = (List.range' 0 jobs.length).map (· + 1) := by
    rw [← entries.length_eq] at size ⊢
    have := congrArg (List.map UInt64.toNat) ids
    rw [List.map_map, List.map_map] at this
    refine this.trans (List.map_congr_left fun index member => ?_)
    have bound : index < records.length := by
      have := List.mem_range'_1.mp member; omega
    exact toNat_ofNat_add_one (by omega)
  have bound : ∀ entry ∈ jobs, entry.job.id.get.toNat ≤ jobs.length := by
    intro entry member
    have := List.mem_map_of_mem (f := (·.job.id.get.toNat)) member
    rw [numbers, List.mem_map] at this
    obtain ⟨index, inside, eq⟩ := this
    have := (List.mem_range'_1.mp inside).2
    omega
  refine ⟨⟨?_, ?_, ?_⟩, ?_, ?_, fun running entry member => ?_, fun running attempt taken => ?_⟩
  · rw [accepted]; exact .nil
  · rw [applied]; exact h.laws.once
  · rw [accepted, applied, ← none]; exact h.laws.sourced
  · have sorted : (jobs.map (·.job.id.get.toNat)).Pairwise (· < ·) := by
      rw [numbers, List.pairwise_map]
      exact (List.pairwise_lt_range' 1).imp fun less => Nat.succ_lt_succ less
    exact List.pairwise_map.mp sorted
  · intro next counted
    rw [accepted]
    refine ⟨fun entry member => ?_, nofun⟩
    cases counted
    rw [toNat_ofNat_add_one (by omega)]
    exact Nat.lt_succ_of_le (bound entry member)
  · rw [Entry.recounted_of_none accepted]
    obtain ⟨record, -, same, id, restored⟩ := exists_of_forall₂ entries member
    obtain ⟨-, eq⟩ := UploadJob.restore_ok restored
    intro provider active
    have idle : (entry.state provider).isBusy = false := by
      change (entry.job.record.providers provider).state.isBusy = false
      rw [eq]
      exact UploadJob.interrupt_not_busy _
    simp [active, ProviderState.isBusy] at idle
  · rw [accepted] at taken
    cases taken

theorem step {s s' : Running W} (taken : Step ports revivable restorable s s') (h : Ledger s) :
    Ledger s' := by
  cases taken with
  | churned churn =>
    cases churn with
    | worked running found step => exact h.worked running found step
    | evicted found idle => exact h.evicted found idle
    | adjusted => exact ⟨h.laws, h.numbered, h.counter, h.recounted, h.retained⟩
    | elapsed => exact ⟨h.laws, h.numbered, h.counter, h.recounted, h.retained⟩
    | stopped => exact h.stopped
  | admitted file enabled _ counted valid fresh => exact h.admitted counted valid fresh
  | restored records _ _ first _ few _ restored => exact h.restored first few restored

end Ledger

namespace UploadCoordinator
variable {ports : UploadPorts W} {providers : List Provider} {historyLimit : Nat}
  {c : UploadCoordinator} {world : W} {s : Running W}

theorem new_ok (created : new providers historyLimit = .ok c) :
    c.jobs = [] ∧ c.nextId = some 1 ∧ c.restored = false ∧ c.stopping = false := by
  obtain ⟨limit, -, h⟩ := bind_ok created
  split at h
  · cases h
  · cases h; exact ⟨rfl, rfl, rfl, rfl⟩

theorem ledger_of_run (created : new providers historyLimit = .ok c)
    (run : Run (perform ports) (fun _ _ => True) (c, ⟨world, []⟩) s) : Ledger s := by
  refine run_invariant (fun _ _ _ => True) (fun _ => True) run
    (fun s op _ => op.unguarded s.1)
    (fun _ _ step h => h.step step) ?_
  obtain ⟨empty, first, -⟩ := new_ok created
  refine ⟨⟨.nil, .nil, nofun⟩, ?_, ?_, ?_, nofun⟩
  · simp [empty]
  · intro next _
    exact ⟨by simp [empty], nofun⟩
  · simp [empty]

variable (ports) in
/-- A result that closes no open attempt is refused without any effect. -/
theorem applyResult_stale (h : Ledger s) (result : UploadResult)
    (stale : ⟨result.jobId, result.provider, result.attempt⟩ ∉ acceptedAttempts s.2.events ∨
      ⟨result.jobId, result.provider, result.attempt⟩ ∈ appliedAttempts s.2.events) :
    ∃ error, s.1.applyResult ports result s.2 = (.error error, s.1, s.2) := by
  unfold applyResult
  split
  · rename_i error _; exact ⟨error, rfl⟩
  · rename_i performed
    exfalso
    obtain ⟨_, running, performed⟩ := bind_ok performed
    obtain ⟨⟨before, entry, after⟩, found, performed⟩ := bind_ok performed
    obtain ⟨_, step, _⟩ := bind_ok performed
    obtain ⟨split, named, -⟩ := index_ok found
    unfold Entry.applyResult at step
    obtain ⟨_, completed, _⟩ := bind_ok step
    obtain ⟨active, current, -⟩ := Entry.completeAttempt_ok completed
    obtain ⟨taken, unapplied⟩ := (h.recounted (requireRunning_ok running) entry
      (by simp [split])).active result.provider active
    rw [current, named] at taken unapplied
    exact stale.elim (fun untaken => untaken taken) unapplied

/-- The active states are the open attempts: an attempt is accepted at most once, with growing
numbers, its result is applied at most once, and any other result has no effect. -/
theorem attempts_accounted (created : new providers historyLimit = .ok c)
    (run : Run (perform ports) (fun _ _ => True) (c, ⟨world, []⟩) s) :
    (s.1.stopping = false → ∀ attempt : Attempt,
      (∃ entry ∈ s.1.jobs, entry.job.id = attempt.jobId ∧
        entry.state attempt.provider = .active ∧
        entry.attempts attempt.provider = attempt.number) ↔
      attempt ∈ acceptedAttempts s.2.events ∧ attempt ∉ appliedAttempts s.2.events) ∧
    (acceptedAttempts s.2.events).Nodup ∧
    (acceptedAttempts s.2.events).Pairwise Attempt.Follows ∧
    (appliedAttempts s.2.events).Nodup ∧
    (∀ attempt ∈ appliedAttempts s.2.events, attempt ∈ acceptedAttempts s.2.events) ∧
    ∀ (slot : Provider) (result : UploadResult),
      ⟨result.jobId, result.provider, result.attempt⟩ ∉ acceptedAttempts s.2.events ∨
        ⟨result.jobId, result.provider, result.attempt⟩ ∈ appliedAttempts s.2.events →
      (∃ error, s.1.applyResult ports result s.2 = (.error error, s.1, s.2)) ∧
        s.1.consume ports slot result s.2 = (true, s.1, s.2) := by
  have h := ledger_of_run created run
  refine ⟨fun running attempt => ⟨?_, ?_⟩, ?_, h.laws.increasing, h.laws.once, h.laws.sourced,
    fun slot result stale => ?_⟩
  · rintro ⟨entry, member, named, active, current⟩
    have := (h.recounted running entry member).active attempt.provider active
    rwa [named, current] at this
  · rintro ⟨taken, open'⟩
    obtain ⟨owner, member, owns⟩ := h.retained running attempt taken open'
    obtain ⟨active, current⟩ :=
      (h.recounted running owner member).outstanding attempt taken owns.symm open'
    exact ⟨owner, member, owns, active, current.symm⟩
  · refine h.laws.increasing.imp fun follows => ?_
    rintro rfl
    exact absurd (follows rfl rfl) (by simp)
  · obtain ⟨error, refused⟩ := applyResult_stale ports h result stale
    refine ⟨⟨error, refused⟩, ?_⟩
    unfold consume
    split
    · rfl
    · rw [refused]

/-- The account while three attempts are open and one is closed. -/
theorem attempts_accounted_sample :
    let s := (sampleDelivery.take 3).foldl (perform acceptingPorts)
      (sampleStart ⟨100, by decide⟩)
    (acceptedAttempts s.2.events).length = 4 ∧ (appliedAttempts s.2.events).length = 1 ∧
      (acceptedAttempts s.2.events).Nodup ∧
      ∃ error, s.1.applyResult acceptingPorts (sampleSuccess .dpsReport 1) s.2 =
        (.error error, s.1, s.2) := by
  have h := attempts_accounted (show new Provider.all 100 = .ok _ from rfl)
    (.of_list (perform acceptingPorts) (sampleStart ⟨100, by decide⟩) (sampleDelivery.take 3)
      fun _ _ _ => trivial)
  exact ⟨by decide, by decide, h.2.1,
    (h.2.2.2.2.2 .dpsReport (sampleSuccess .dpsReport 1) (.inr (by decide))).1⟩

end UploadCoordinator
end MannyUploader.Application
