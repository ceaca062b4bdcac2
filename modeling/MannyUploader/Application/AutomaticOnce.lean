import MannyUploader.Application.EntryLaws

/-! A session delivers a job by itself at most once. What ends an attempt for good spends the
automatic delivery of its provider; after that only the user asks for another one. -/
namespace MannyUploader.Application
open Domain Foundation Relation

/-- A request of one job to one provider, with the provider's answer. -/
def Event.handed (id : UploadJobId) (provider : Provider) :
    Event → Option (UploadRequest × Except ProviderError Unit)
  | .enqueued _ request answer =>
    if request.jobId = id ∧ request.provider = provider then some (request, answer) else none
  | _ => none

def requestsOf (id : UploadJobId) (provider : Provider) (events : List Event) :
    List (UploadRequest × Except ProviderError Unit) :=
  events.filterMap (·.handed id provider)

def automaticallyAccepted (handed : UploadRequest × Except ProviderError Unit) : Bool :=
  decide (handed.1.intent = .automatic) && handed.2 matches .ok ()

/-- The end of an attempt, unless it asks to be retried: an applied outcome, or a refusal. A
request of the user has the same effect. -/
def Event.spends (id : UploadJobId) (provider : Provider) : Event → Prop
  | .applied result => result.jobId = id ∧ result.provider = provider ∧
    ∀ delay, result.outcome ≠ .retryAfter delay
  | .enqueued _ request answer => request.jobId = id ∧ request.provider = provider ∧
    (request.intent.isUserInitiated = true ∨ answer ≠ .ok ())
  | _ => False

/-- What follows an event that spends the automatic delivery is asked for by the user. -/
def Precedes (id : UploadJobId) (provider : Provider) (earlier later : Event) : Prop :=
  earlier.spends id provider → ∀ handed, later.handed id provider = some handed →
    handed.1.intent.isUserInitiated = true

theorem handed_some {id : UploadJobId} {provider : Provider} {event : Event}
    {handed : UploadRequest × Except ProviderError Unit}
    (h : event.handed id provider = some handed) :
    ∃ job, event = .enqueued job handed.1 handed.2 ∧ handed.1.jobId = id ∧
      handed.1.provider = provider := by
  unfold Event.handed at h
  split at h
  · split at h
    · cases h; exact ⟨_, rfl, ‹_›⟩
    · cases h
  · cases h

theorem spends_about {id : UploadJobId} {provider : Provider} {event : Event}
    (h : event.spends id provider) : event.about = some id := by
  cases event with
  | enqueued => exact congrArg some h.1
  | applied => exact congrArg some h.1
  | _ => exact h.elim

/-- Where a condition is never met again once it failed, the elements that meet it come first. -/
theorem filter_prefix_of_pairwise {p : α → Bool} {xs : List α}
    (h : xs.Pairwise fun x y => p y = true → p x = true) : xs.filter p <+: xs := by
  induction xs with
  | nil => exact List.prefix_rfl
  | cons x xs ih =>
    obtain ⟨first, rest⟩ := List.pairwise_cons.mp h
    by_cases met : p x = true
    · rw [List.filter_cons_of_pos met]
      exact (List.prefix_cons_inj x).mpr (ih rest)
    · rw [List.filter_cons_of_neg met, List.filter_eq_nil_iff.mpr fun y member meets =>
        met (first y member meets)]
      exact List.nil_prefix

theorem automatic_first {id : UploadJobId} {provider : Provider} {events : List Event}
    (h : events.Pairwise (Precedes id provider)) :
    (requestsOf id provider events).filter automaticallyAccepted <+: requestsOf id provider events := by
  refine filter_prefix_of_pairwise (List.pairwise_filterMap.mpr (h.imp ?_))
  intro earlier later precedes first hf second hs automatic
  obtain ⟨job, rfl, named⟩ := handed_some hf
  by_contra spent
  refine absurd (precedes ⟨named.1, named.2, ?_⟩ second hs) ?_
  · simp only [automaticallyAccepted, Bool.and_eq_true, decide_eq_true_eq, not_and] at spent
    by_cases intent : first.1.intent = .automatic
    · refine .inr fun accepted => spent intent ?_
      rw [accepted]
    · exact .inl (by simpa [UploadIntent.isUserInitiated] using intent)
  · have := (Bool.and_eq_true_iff.mp automatic).1
    simp_all [UploadIntent.isUserInitiated]

/-- The automatic delivery is spent: before the events, or by one of them. -/
def Spent (before : UploadJobId → Provider → Prop) (events : List Event) (id : UploadJobId)
    (provider : Provider) : Prop :=
  before id provider ∨ ∃ event ∈ events, event.spends id provider

namespace Entry

/-- Nothing but a reupload takes the report back. -/
def Reported (entry : Entry) : Prop :=
  entry.state .dpsReport = .succeeded ∨ entry.state .dpsReport = .disabled

/-- The provider neither waits nor runs, and no retry of dps.report takes it up again. -/
def Over (entry : Entry) (provider : Provider) : Prop :=
  (entry.state provider).isBusy = false ∧
    (provider ≠ .dpsReport → entry.state provider = .skipped → entry.reupload = true ∨ entry.Reported)

/-- What keeps one entry from a second automatic delivery. `owned` are the intents of the user
that it was found with. -/
structure Economical (before owned : UploadJobId → Provider → Prop) (events : List Event)
    (entry : Entry) : Prop where
  spent : ∀ provider, Spent before events entry.job.id provider →
    entry.intents provider = .automatic → entry.Over provider
  owned : ∀ provider, owned entry.job.id provider → entry.intents provider ≠ .automatic
  grouped : entry.reupload = true → ∀ provider ∈ uploads, entry.intents provider ≠ .automatic
  delivered : ∀ provider, provider ≠ .dpsReport → entry.reupload = false →
    entry.state provider = .active ∨ (entry.state provider).isRetryScheduled = true → entry.Reported

variable {before owned : UploadJobId → Provider → Prop} {events events' : List Event}
  {entry entry' : Entry}

theorem Reported.of_eq (h : entry.Reported)
    (same : entry'.state .dpsReport = entry.state .dpsReport) : entry'.Reported := by
  unfold Reported
  rwa [same]

/-- A spent provider with the automatic intent is not busy. -/
theorem Economical.idle {provider : Provider} (h : entry.Economical before owned events)
    (busy : (entry.state provider).isBusy = true)
    (spent : Spent before events entry.job.id provider) : entry.intents provider ≠ .automatic := by
  intro automatic
  simp [(h.spent provider spent automatic).1] at busy

/-- One provider changes its state, and no intent changes. -/
theorem Economical.change (p : Provider) (h : entry.Economical before owned events)
    (id : entry'.job.id = entry.job.id) (intents : entry'.intents = entry.intents)
    (reupload : entry'.reupload = entry.reupload)
    (others : ∀ other, other ≠ p → entry'.state other = entry.state other)
    (fresh : ∀ other, other ≠ p → Spent before events' entry.job.id other →
      Spent before events entry.job.id other)
    (kept : p = .dpsReport → entry.reupload = false → ¬entry.Reported)
    (own : Spent before events' entry.job.id p → entry.intents p = .automatic → entry'.Over p)
    (ran : p ≠ .dpsReport → entry.reupload = false →
      entry'.state p = .active ∨ (entry'.state p).isRetryScheduled = true → entry.Reported) :
    entry'.Economical before owned events' := by
  have reported : entry.reupload = false → entry.Reported → entry'.Reported := by
    intro single reported
    refine reported.of_eq (others .dpsReport fun same => kept same.symm single reported)
  refine ⟨fun other spent automatic => ?_, fun other mine => ?_, fun grouped => ?_,
    fun other dependent single busy => ?_⟩
  · rw [id] at spent
    rw [intents] at automatic
    by_cases same : other = p
    · subst same
      exact own spent automatic
    · obtain ⟨idle, skipped⟩ := h.spent other (fresh other same spent) automatic
      refine ⟨by rw [others other same]; exact idle, fun dependent skip => ?_⟩
      rw [others other same] at skip
      rw [reupload]
      cases grouped : entry.reupload with
      | true => exact .inl rfl
      | false =>
        rcases skipped dependent skip with on | known
        · exact absurd on (by simp [grouped])
        · exact .inr (reported grouped known)
  · rw [id] at mine
    rw [intents]
    exact h.owned other mine
  · rw [intents]
    exact h.grouped (reupload ▸ grouped)
  · rw [reupload] at single
    refine reported single ?_
    by_cases same : other = p
    · subst same
      exact ran dependent single busy
    · rw [others other same] at busy
      exact h.delivered other dependent single busy

/-- An intent that changes becomes one of the user's. -/
theorem Economical.intend (h : entry.Economical before owned events)
    (intents : Provider → UploadIntent)
    (kept : ∀ p, intents p = entry.intents p ∨ intents p ≠ .automatic) :
    Economical before owned events { entry with intents } := by
  refine ⟨fun p spent automatic => ?_, fun p mine => ?_, fun grouped p upload => ?_, h.delivered⟩
  · rcases kept p with same | other
    · exact h.spent p spent (same.symm.trans automatic)
    · exact absurd automatic other
  · exact (kept p).elim (fun same => same.trans_ne (h.owned p mine)) id
  · exact (kept p).elim (fun same => same.trans_ne (h.grouped grouped p upload)) id

end Entry

/-- The law of the requests alone. -/
structure Quiet (before : UploadJobId → Provider → Prop) (events : List Event) : Prop where
  ordered : ∀ id provider, events.Pairwise (Precedes id provider)
  asked : ∀ id provider, before id provider → ∀ handed ∈ requestsOf id provider events,
    handed.1.intent.isUserInitiated = true

section quiet
variable {before owned : UploadJobId → Provider → Prop} {events more : List Event} {entry : Entry}

/-- Events that hand nothing over are quiet. -/
theorem Quiet.silent (h : Quiet before events)
    (silent : ∀ event ∈ more, ∀ id provider, event.handed id provider = none) :
    Quiet before (events ++ more) := by
  refine ⟨fun id provider => List.pairwise_append.mpr ⟨h.ordered id provider, ?_, ?_⟩,
    fun id provider spent handed member => ?_⟩
  · exact List.pairwise_of_forall_mem_list fun earlier _ later member _ handed some => by
      simp [silent later member] at some
  · exact fun earlier _ later member _ handed some => by simp [silent later member] at some
  · rw [requestsOf, List.filterMap_append, List.mem_append] at member
    rcases member with old | new
    · exact h.asked id provider spent handed old
    · obtain ⟨event, listed, some⟩ := List.mem_filterMap.mp new
      simp [silent event listed] at some

/-- Handing over a request whose automatic delivery is spent takes an intent of the user. -/
theorem Quiet.hand (h : Quiet before events) {job : UploadJob} {provider : Provider}
    {metadata : EncounterMetadata} (offer : Offer entry provider job metadata)
    (law : entry.Economical before owned events) (answer : Except ProviderError Unit) :
    Quiet before (events ++ [.enqueued job (entry.request job provider metadata) answer]) := by
  have named : (entry.request job provider metadata).jobId = entry.job.id := offer.attempt.1
  have user : Spent before events entry.job.id provider →
      (entry.request job provider metadata).intent.isUserInitiated = true := fun spent =>
    bne_iff_ne.mpr (law.idle offer.queued.isBusy.1 spent)
  refine ⟨fun id other => List.pairwise_append.mpr ⟨h.ordered id other, by simp, ?_⟩,
    fun id other spent handed member => ?_⟩
  · intro earlier old later new spends handed some
    rw [List.mem_singleton.mp new] at some
    obtain ⟨_, eq, rfl, rfl⟩ := handed_some some
    injection eq with _ same _
    rw [← same] at spends ⊢
    exact user (.inr ⟨earlier, old, named ▸ spends⟩)
  · rw [requestsOf, List.filterMap_append, List.mem_append] at member
    rcases member with old | new
    · exact h.asked id other spent handed old
    · obtain ⟨event, listed, some⟩ := List.mem_filterMap.mp new
      rw [List.mem_singleton.mp listed] at some
      obtain ⟨_, eq, rfl, rfl⟩ := handed_some some
      injection eq with _ same _
      rw [← same] at spent ⊢
      exact user (.inl (named ▸ spent))

/-- An event of one provider spends no other provider's delivery. -/
theorem Spent.of_append {event : Event} {id : UploadJobId} {provider other : Provider}
    (own : ∀ id, event.spends id other → other = provider) (different : other ≠ provider)
    (h : Spent before (events ++ [event]) id other) : Spent before events id other := by
  rcases h with old | ⟨found, member, spends⟩
  · exact .inl old
  · rcases List.mem_append.mp member with old | new
    · exact .inr ⟨found, old, spends⟩
    · rw [List.mem_singleton.mp new] at spends
      exact absurd (own id spends) different

end quiet

/-- Whatever the events before, a move keeps the law of the events since and of its entry. -/
theorem Move.economical {revivable : UploadJobId → Provider → UploadIntent → Prop}
    {before owned : UploadJobId → Provider → Prop} {s s' : Entry × Tape W}
    (move : Move revivable s s') : ∃ more, s'.2.events = s.2.events ++ more ∧
      ∀ events, Quiet before events → s.1.Economical before owned events →
        Quiet before (events ++ more) ∧ s'.1.Economical before owned (events ++ more) := by
  have unspoken : ∀ {entry : Entry} {tape : Tape W}, (∀ events,
      s.1.Economical before owned events → entry.Economical before owned events) →
      ∃ more, tape.events = tape.events ++ more ∧ ∀ events, Quiet before events →
        s.1.Economical before owned events →
          Quiet before (events ++ more) ∧ entry.Economical before owned (events ++ more) := by
    intro entry tape kept
    refine ⟨[], by simp, fun events quiet h => ?_⟩
    rw [List.append_nil]
    exact ⟨quiet, kept events h⟩
  have reports : ∀ {entry : Entry}, (entry.state .dpsReport).isBusy = true → ¬entry.Reported := by
    intro entry busy reported
    rcases reported with state | state <;> simp [state, ProviderState.isBusy] at busy
  cases move with
  | parsed => exact unspoken fun events h => ⟨h.spent, h.owned, h.grouped, h.delivered⟩
  | unparsed => exact unspoken fun events h => ⟨h.spent, h.owned, h.grouped, h.delivered⟩
  | @settled entry tape provider next detail waits ending =>
    refine unspoken fun events h => h.change provider rfl rfl rfl
      (fun other different => by simp [different]) (fun _ _ => id) ?_ ?_ ?_
    · rintro rfl -
      exact reports waits.isBusy.1
    · exact fun spent automatic => absurd automatic (h.idle waits.isBusy.1 spent)
    · intro _ _ ran
      rw [Entry.become_state, if_pos rfl] at ran
      rcases ending with rfl | rfl | rfl <;> simp [ProviderState.isRetryScheduled] at ran
  | @accepted entry tape job metadata provider world offer =>
    refine ⟨_, rfl, fun events quiet h => ⟨quiet.hand offer h (.ok ()), ?_⟩⟩
    have state := Entry.offer_state offer
    refine h.change provider offer.attempt.1 rfl rfl
      (fun other different => (state other).trans (if_neg different))
      (fun other different => Spent.of_append (fun _ spends => spends.2.1.symm) different) ?_ ?_ ?_
    · rintro rfl -
      exact reports offer.queued.isBusy.1
    · rintro spent automatic
      exfalso
      rcases spent with old | ⟨event, member, spends⟩
      · exact h.idle offer.queued.isBusy.1 (.inl old) automatic
      rcases List.mem_append.mp member with old | new
      · exact h.idle offer.queued.isBusy.1 (.inr ⟨event, old, spends⟩) automatic
      · rw [List.mem_singleton.mp new] at spends
        obtain ⟨-, -, user | refused⟩ := spends
        · exact bne_iff_ne.mp user automatic
        · exact refused rfl
    · intro other _ _
      rcases Entry.requireDependency_ok offer.depends with same | ⟨-, disabled⟩ | ⟨ready, -⟩
      · exact absurd same other
      · exact .inr disabled
      · exact .inl ready
  | @rejected entry tape job metadata provider error world offer =>
    refine ⟨_, rfl, fun events quiet h => ⟨quiet.hand offer h (.error error), ?_⟩⟩
    have state := Entry.offer_state offer
    refine h.change provider offer.attempt.1 rfl rfl (fun other different => ?_)
      (fun other different => Spent.of_append (fun _ spends => spends.2.1.symm) different) ?_ ?_ ?_
    · rw [Entry.become_state, if_neg different]
      exact (state other).trans (if_neg different)
    · rintro rfl -
      exact reports offer.queued.isBusy.1
    · exact fun _ _ => ⟨by simp [ProviderState.isBusy], by simp⟩
    · intro _ _ ran
      simp [ProviderState.isRetryScheduled] at ran
  | @received entry tape record result next detail named active current recorded _ retried =>
    refine ⟨_, rfl, fun events quiet h => ⟨quiet.silent (by simp [Event.handed]), ?_⟩⟩
    have settles := recorded.settles
    have busy : (entry.state result.provider).isBusy = true := by rw [active]; rfl
    have others : ∀ other, other ≠ result.provider → Entry.state
        (Entry.become { entry with job := { entry.job with record } } result.provider next detail)
          other = entry.state other := by
      intro other different
      rw [Entry.become_state, if_neg different]
      simp only [Entry.state, UploadJob.providerStatus, recorded.same.1]
    refine h.change result.provider rfl rfl rfl others
      (fun other different => Spent.of_append (fun _ spends => spends.2.1.symm) different) ?_ ?_ ?_
    · rintro same -
      exact reports (same ▸ busy)
    · rintro spent automatic
      have ended : ∀ delay, result.outcome ≠ .retryAfter delay := by
        rcases spent with old | ⟨event, member, spends⟩
        · exact absurd automatic (h.idle busy (.inl old))
        rcases List.mem_append.mp member with old | new
        · exact absurd automatic (h.idle busy (.inr ⟨event, old, spends⟩))
        · rw [List.mem_singleton.mp new] at spends
          exact spends.2.2
      unfold Entry.Over
      rw [Entry.become_state, if_pos rfl]
      refine ⟨?_, fun dependent _ => ?_⟩
      · cases next with
        | waiting => exact absurd rfl settles.2
        | active => exact absurd rfl settles.1
        | retryScheduled deadline =>
          obtain ⟨delay, asked⟩ := retried rfl
          exact absurd asked (ended delay)
        | _ => rfl
      · cases grouped : entry.reupload with
        | true => exact .inl rfl
        | false =>
          exact .inr ((h.delivered _ dependent grouped (.inl active)).of_eq
            (others .dpsReport dependent.symm))
    · exact fun dependent single _ => h.delivered _ dependent single (.inl active)
  | @rearmed entry tape provider failed =>
    refine unspoken fun events h => ?_
    have given : (entry.armed provider).intents provider ≠ .automatic := by
      rw [Entry.armed_intents]
      split
      · simp
      · rename_i grouped; simp [not_ne_iff.mp grouped]
    have intended := h.intend (entry.armed provider).intents fun other => by
      by_cases same : other = provider
      · exact .inr (same ▸ given)
      · refine .inl ?_
        rw [Entry.armed_intents]
        split
        · exact Function.update_of_ne same _ _
        · rfl
    refine intended.change provider (by simp) rfl (by simp)
      (fun other different => by rw [Entry.armed_state, if_neg different]; rfl) (fun _ _ => id) ?_
      (fun _ automatic => absurd automatic given) ?_
    · rintro rfl - reported
      rcases reported with state | state <;> exact absurd (failed.symm.trans state) (by simp)
    · intro _ _ ran
      simp [ProviderState.isRetryScheduled] at ran
  | @revived entry tape dependent other skipped single parsed _ waiting =>
    refine unspoken fun events h => h.change dependent rfl rfl rfl
      (fun other different => by simp [different]) (fun _ _ => id) (fun same => absurd same other)
      ?_ ?_
    · rintro spent automatic
      rcases (h.spent dependent spent automatic).2 other skipped with grouped | reported
      · simp [single] at grouped
      · exact absurd reported (reports (by rw [waiting]; rfl))
    · intro _ _ ran
      simp [ProviderState.isRetryScheduled] at ran
  | @marked entry tape _ idle =>
    refine unspoken fun events h => ⟨fun p spent automatic => ?_, fun p mine => ?_,
      fun _ p upload => ?_, fun p _ single => ?_⟩
    · rw [Entry.marked_intents] at automatic
      split at automatic
      · cases automatic
      · exact ⟨(h.spent p spent automatic).1, fun _ _ => .inl rfl⟩
    · rw [Entry.marked_intents]
      split
      · simp
      · exact h.owned p mine
    · rw [Entry.marked_intents, if_pos upload]
      simp
    · simp at single
  | @reset entry tape provider upload grouped =>
    refine unspoken fun events h => h.change provider rfl rfl rfl
      (fun other different => by simp [different]) (fun _ _ => id) ?_
      (fun _ automatic => absurd automatic (h.grouped grouped provider upload)) ?_
    · rintro - single
      simp [grouped] at single
    · intro _ _ ran
      simp [ProviderState.isRetryScheduled] at ran
  | @rechatted entry tape =>
    refine unspoken fun events h => ?_
    have intended := h.intend (Function.update entry.intents .twitch .rechat) fun other => by
      by_cases same : other = .twitch
      · subst same
        exact .inr (by simp)
      · exact .inl (Function.update_of_ne same _ _)
    refine intended.change .twitch rfl rfl rfl (fun other different => ?_) (fun _ _ => id) (by simp)
      (fun _ automatic => absurd automatic (by simp)) ?_
    · change (entry.redeliver .twitch).state other = _
      rw [Entry.redeliver_state, if_neg different]
      rfl
    · intro _ _ ran
      change (entry.redeliver .twitch).state .twitch = _ ∨ _ at ran
      change _ ∨ ((entry.redeliver .twitch).state .twitch).isRetryScheduled = true at ran
      simp [ProviderState.isRetryScheduled] at ran

section law
variable {W : Type} {before owned : UploadJobId → Provider → Prop} {earlier events more : List Event}
  {entry : Entry}

/-- An entry without a reupload and without a running attempt, of which nothing is known. -/
theorem economical_fresh {id : UploadJobId} (named : entry.job.id = id)
    (single : entry.reupload = false)
    (still : ∀ provider, entry.state provider ≠ .active ∧
      (entry.state provider).isRetryScheduled = false)
    (unused : ¬∃ provider, before id provider ∨ owned id provider)
    (unspoken : ∀ event ∈ events, event.about ≠ some id) :
    entry.Economical before owned events := by
  subst named
  refine ⟨fun provider spent _ => ?_, fun provider mine => absurd ⟨provider, .inr mine⟩ unused,
    fun grouped => absurd grouped (by simp [single]), fun provider _ _ ran => ?_⟩
  · rcases spent with old | ⟨event, member, spends⟩
    · exact absurd ⟨provider, .inl old⟩ unused
    · exact absurd (spends_about spends) (unspoken event member)
  · simp [still provider] at ran

theorem Entry.Economical.cancel (h : entry.Economical before owned events) :
    entry.cancel.Economical before owned events := by
  have state : ∀ provider, entry.cancel.state provider =
      (Entry.abandon (entry.job.providerStatus provider)).state := fun provider =>
    congrArg ProviderStatus.state (entry.cancel_providerStatus provider)
  have kept : ∀ provider, (entry.state provider).isBusy = false →
      entry.cancel.state provider = entry.state provider := by
    intro provider idle
    rw [state, Entry.abandon, if_neg (by simpa [Entry.state] using idle)]
    rfl
  have reported : entry.Reported → entry.cancel.Reported := fun known =>
    known.of_eq (kept _ (by rcases known with eq | eq <;> rw [eq] <;> rfl))
  have same : entry.cancel.intents = entry.intents ∧ entry.cancel.reupload = entry.reupload := by
    rw [entry.cancel_eq]
    exact ⟨rfl, rfl⟩
  refine ⟨fun provider spent automatic => ?_, fun provider mine => ?_, fun grouped => ?_,
    fun provider _ _ ran => ?_⟩
  · rw [entry.cancel_id] at spent
    rw [same.1] at automatic
    obtain ⟨idle, skipped⟩ := h.spent provider spent automatic
    refine ⟨by rw [kept provider idle]; exact idle, fun dependent skip => ?_⟩
    rw [kept provider idle] at skip
    rw [same.2]
    exact (skipped dependent skip).imp id reported
  · rw [entry.cancel_id] at mine
    rw [same.1]
    exact h.owned provider mine
  · rw [same.1]
    exact h.grouped (same.2 ▸ grouped)
  · have idle := Entry.abandon_not_busy (entry.job.providerStatus provider)
    rw [← state] at idle
    rcases ran with active | scheduled
    · simp [active, ProviderState.isBusy] at idle
    · cases eq : entry.cancel.state provider <;>
        simp_all [ProviderState.isBusy, ProviderState.isRetryScheduled]

variable (W before owned earlier) in
theorem automaticLaw : EntryLaw W (fun _ _ _ => True) (fun _ => True)
    (fun id => ∃ provider, before id provider ∨ owned id provider)
    (fun events => ∃ since, events = earlier ++ since ∧ Quiet before since)
    fun events entry => ∃ since, events = earlier ++ since ∧
      entry.Economical before owned since where
  moved := by
    rintro s s' move ⟨since, eq, quiet⟩ ⟨since', eq', h⟩
    obtain rfl : since = since' := List.append_cancel_left (eq.symm.trans eq')
    obtain ⟨more, noted, kept⟩ := move.economical
    obtain ⟨quiet, h⟩ := kept since quiet h
    have noted : s'.2.events = earlier ++ (since ++ more) := by
      rw [noted, eq, List.append_assoc]
    exact ⟨⟨_, noted, quiet⟩, ⟨_, noted, h⟩⟩
  foreign := by
    rintro events more entry ⟨since, rfl, h⟩ foreign
    refine ⟨since ++ more, List.append_assoc .., fun provider spent => h.spent provider ?_,
      h.owned, h.grouped, h.delivered⟩
    refine spent.imp id fun ⟨event, member, spends⟩ => ⟨event, ?_, spends⟩
    exact (List.mem_append.mp member).resolve_right fun new =>
      foreign event new (spends_about spends)
  noted := by
    rintro events more ⟨since, rfl, quiet⟩ silent
    refine ⟨since ++ more, List.append_assoc .., quiet.silent fun event member id provider => ?_⟩
    refine Option.eq_none_iff_forall_ne_some.mpr fun handed some => ?_
    obtain ⟨job, rfl, -⟩ := handed_some some
    cases silent _ member
  cancelled := by
    rintro events entry ⟨since, eq, h⟩
    exact ⟨since, eq, h.cancel⟩
  created := by
    rintro events id file now enabled job ⟨since, rfl, -⟩ fresh unused unspoken
    obtain ⟨-, -, rfl⟩ := UploadJob.new_ok fresh
    refine ⟨since, rfl, economical_fresh rfl rfl (fun provider => ?_) unused
      fun event member => unspoken event (List.mem_append_right _ member)⟩
    change (ite _ _ _ : ProviderState) ≠ _ ∧ ProviderState.isRetryScheduled (ite _ _ _) = _
    split <;> simp [ProviderState.isRetryScheduled]
  brought := by
    rintro events id record job ⟨since, rfl, -⟩ - restored unused unspoken
    obtain ⟨-, rfl⟩ := UploadJob.restore_ok restored
    refine ⟨since, rfl, economical_fresh rfl rfl (fun provider => ?_) unused
      fun event member => unspoken event (List.mem_append_right _ member)⟩
    have idle := UploadJob.interrupt_not_busy (record.providers provider)
    change (UploadJob.interrupt (record.providers provider)).state ≠ _ ∧
      (UploadJob.interrupt (record.providers provider)).state.isRetryScheduled = _
    cases eq : (UploadJob.interrupt (record.providers provider)).state <;>
      simp_all [ProviderState.isBusy, ProviderState.isRetryScheduled]

end law

namespace UploadCoordinator
variable {ports : UploadPorts W} {providers : List Provider} {historyLimit : Nat}
  {c : UploadCoordinator} {world : W} {s s' : Running W} {id : UploadJobId} {provider : Provider}

/-- An attempt of the job at this provider has ended for good, or the user asked for one. -/
def OverAt (s : Running W) (id : UploadJobId) (provider : Provider) : Prop :=
  ∃ entry ∈ s.1.jobs, entry.job.id = id ∧
    (entry.state provider ∈ [.succeeded, .failed, .cancelled] ∨
      entry.intents provider ≠ .automatic)

def OwnedAt (s : Running W) (id : UploadJobId) (provider : Provider) : Prop :=
  ∃ entry ∈ s.1.jobs, entry.job.id = id ∧ entry.intents provider ≠ .automatic

theorem automatic_start (created : new providers historyLimit = .ok c)
    (run : Run (perform ports) (fun _ _ => True) (c, ⟨world, []⟩) s) :
    Holds (fun _ => False) (Quiet fun _ _ => False)
      (fun events entry => entry.Economical (fun _ _ => False) (fun _ _ => False) events) s := by
  have laws := automaticLaw W (fun _ _ => False) (fun _ _ => False) []
  have h := laws.run run (fun s op _ => op.unguarded s.1)
    (EntryLaw.holds_new created (by simp) ⟨[], rfl, by simp, by simp⟩)
  refine ⟨h.ledger, by simpa using h.numbered, ?_, fun entry member => ?_⟩
  · obtain ⟨since, eq, quiet⟩ := h.past
    rwa [eq]
  · obtain ⟨since, eq, law⟩ := h.entries entry member
    rwa [eq]

/-- From here on, with what is over and what the user owns in the state `s`. -/
theorem automatic_later (created : new providers historyLimit = .ok c)
    (run : Run (perform ports) (fun _ _ => True) (c, ⟨world, []⟩) s)
    (later : Run (perform ports) (fun _ _ => True) s s') :
    ∃ since, s'.2.events = s.2.events ++ since ∧ Quiet (OverAt s) since ∧
      ∀ entry ∈ s'.1.jobs, entry.Economical (OverAt s) (OwnedAt s) since := by
  have start := automatic_start created run
  have h := (automaticLaw W (OverAt s) (OwnedAt s) s.2.events).run later
    (fun s op _ => op.unguarded s.1) ⟨start.ledger, ?_, ⟨[], by simp, ⟨by simp, by
      simp [requestsOf]⟩⟩, fun entry member => ⟨[], by simp, ?_⟩⟩
  · obtain ⟨since, eq, quiet⟩ := h.past
    refine ⟨since, eq, quiet, fun entry member => ?_⟩
    obtain ⟨since', eq', law⟩ := h.entries entry member
    rwa [List.append_cancel_left (eq.symm.trans eq')]
  · intro next counted id known
    rcases known with ⟨provider, ⟨entry, member, rfl, -⟩ | ⟨entry, member, rfl, -⟩⟩ | event
    · exact (start.ledger.counter next counted).1 entry member
    · exact (start.ledger.counter next counted).1 entry member
    · exact start.numbered next counted id (.inr event)
  · have law := start.entries entry member
    refine ⟨fun provider spent automatic => ?_, fun provider owned => ?_, law.grouped,
      law.delivered⟩
    · rcases spent with ⟨other, retained, same, closed⟩ | ⟨event, none, -⟩
      · obtain rfl := start.ledger.distinct retained member same
        rcases closed with ended | user
        · simp only [List.mem_cons, List.not_mem_nil, or_false] at ended
          rcases ended with eq | eq | eq <;>
            exact ⟨by rw [eq]; rfl, fun _ skipped => by simp [eq] at skipped⟩
        · exact absurd automatic user
      · cases none
    · obtain ⟨other, retained, same, user⟩ := owned
      rwa [← start.ledger.distinct retained member same]

/-- In one session a provider takes on a job by itself before everything else that concerns the
two, and what has ended for good is only sent again when the user asks for it. -/
theorem automatic_once (created : new providers historyLimit = .ok c)
    (run : Run (perform ports) (fun _ _ => True) (c, ⟨world, []⟩) s) :
    (∀ id provider,
      (requestsOf id provider s.2.events).filter automaticallyAccepted <+:
          requestsOf id provider s.2.events ∧
        s.2.events.Pairwise (Precedes id provider)) ∧
    ∀ s', Run (perform ports) (fun _ _ => True) s s' → ∀ entry ∈ s.1.jobs, ∀ provider,
      (entry.state provider ∈ [.succeeded, .failed, .cancelled] ∨
          entry.intents provider ≠ .automatic →
        ∀ since, s'.2.events = s.2.events ++ since →
          ∀ handed ∈ requestsOf entry.job.id provider since,
            handed.1.intent.isUserInitiated = true) ∧
      (entry.intents provider ≠ .automatic → ∀ entry' ∈ s'.1.jobs,
        entry'.job.id = entry.job.id → entry'.intents provider ≠ .automatic) := by
  have quiet := (automatic_start created run).past
  refine ⟨fun id provider => ⟨automatic_first (quiet.ordered id provider),
    quiet.ordered id provider⟩, fun s' later entry member provider => ?_⟩
  obtain ⟨since, eq, quiet, laws⟩ := automatic_later created run later
  refine ⟨fun closed since' eq' => ?_, fun user entry' member' same => ?_⟩
  · obtain rfl : since' = since := List.append_cancel_left (eq'.symm.trans eq)
    exact quiet.asked _ provider ⟨entry, member, rfl, closed⟩
  · exact (laws entry' member').owned provider (by rw [same]; exact ⟨entry, member, rfl, user⟩)

/-- A chat message sent again is a request of the user. -/
theorem automatic_once_sample :
    let s := (sampleDelivery ++ [CoordinatorOp.rechat sampleJobId]).foldl (perform acceptingPorts)
      (sampleStart ⟨100, by decide⟩)
    let requests := requestsOf sampleJobId .twitch s.2.events
    requests.length = 2 ∧ (requests.filter automaticallyAccepted).length = 1 ∧
      requests.filter automaticallyAccepted <+: requests :=
  ⟨by decide, by decide, ((automatic_once (show new Provider.all 100 = .ok _ from rfl)
    (.of_list (perform acceptingPorts) (sampleStart ⟨100, by decide⟩)
      (sampleDelivery ++ [CoordinatorOp.rechat sampleJobId]) fun _ _ _ => trivial)).1
        sampleJobId .twitch).1⟩

end UploadCoordinator
end MannyUploader.Application
