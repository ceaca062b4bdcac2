import MannyUploader.Application.AttemptLedger

/-! The rule for laws that tie retained jobs to the events so far. A law of one entry that its
own moves keep, and that events about other jobs leave alone, holds of every retained entry in
every run. -/
namespace MannyUploader.Application
open Domain Foundation Relation

/-- Identifiers in use, or spoken of by an event, are below the counter. -/
def Numbered (used : UploadJobId → Prop) (s : Running W) : Prop :=
  ∀ next, s.1.nextId = some next → ∀ id : UploadJobId,
    used id ∨ (∃ event ∈ s.2.events, event.about = some id) → id.get.toNat < next.toNat

/-- A law of the events alone, and a law of an entry beside the events. -/
structure EntryLaw (W : Type) (revivable : UploadJobId → Provider → UploadIntent → Prop)
    (restorable : UploadJobRecord → Prop) (used : UploadJobId → Prop)
    (past : List Event → Prop) (law : List Event → Entry → Prop) : Prop where
  moved : ∀ s s' : Entry × Tape W, Move revivable s s' → past s.2.events → law s.2.events s.1 →
    past s'.2.events ∧ law s'.2.events s'.1
  foreign : ∀ events more entry, law events entry →
    (∀ event ∈ more, event.about ≠ some entry.job.id) → law (events ++ more) entry
  noted : ∀ events more, past events → (∀ event ∈ more, event.about = none) →
    past (events ++ more)
  cancelled : ∀ events entry, law events entry → law events entry.cancel
  created : ∀ events id file now enabled job, past events →
    UploadJob.new id file now enabled = .ok job → ¬used id →
    (∀ event ∈ events, event.about ≠ some id) → law events (Entry.new job true)
  brought : ∀ events id record job, past events → restorable record →
    UploadJob.restore id record = .ok job → ¬used id →
    (∀ event ∈ events, event.about ≠ some id) → law events (Entry.new job false)

/-- Both laws in a state of the coordinator, with the account that keeps the jobs apart. -/
structure Holds (used : UploadJobId → Prop) (past : List Event → Prop)
    (law : List Event → Entry → Prop) (s : Running W) : Prop where
  ledger : Ledger s
  numbered : Numbered used s
  past : past s.2.events
  entries : ∀ entry ∈ s.1.jobs, law s.2.events entry

namespace EntryLaw
variable {ports : UploadPorts W} {revivable : UploadJobId → Provider → UploadIntent → Prop}
  {restorable : UploadJobRecord → Prop} {used : UploadJobId → Prop} {past : List Event → Prop}
  {law : List Event → Entry → Prop} {s s' : Running W}

theorem other_ids {c : UploadCoordinator} {tape : Tape W} {before after : List Entry}
    {entry : Entry} (ledger : Ledger (c, tape)) (found : c.jobs = before ++ entry :: after) :
    ∀ other ∈ before ++ after, other.job.id ≠ entry.job.id := by
  have numbered := ledger.numbered
  simp only [found, List.pairwise_append, List.pairwise_cons, List.mem_cons] at numbered
  obtain ⟨-, ⟨above, -⟩, across⟩ := numbered
  intro other member same
  rcases List.mem_append.mp member with first | last
  · have := across other first entry (.inl rfl)
    rw [same] at this
    omega
  · have := above other last
    rw [same] at this
    omega

theorem moved_many (laws : EntryLaw W revivable restorable used past law) {e e' : Entry × Tape W}
    (moves : ReflTransGen (Move revivable) e e') (h : past e.2.events ∧ law e.2.events e.1) :
    past e'.2.events ∧ law e'.2.events e'.1 := by
  induction moves with
  | refl => exact h
  | tail _ last ih => exact laws.moved _ _ last ih.1 ih.2

theorem churn (laws : EntryLaw W revivable restorable used past law)
    (churn : Churn ports revivable s s') (h : Holds used past law s) : Holds used past law s' := by
  have ledger := h.ledger.step (.churned churn : Step ports revivable (fun _ => True) s s')
  cases churn with
  | @worked c tape tape' before after entry entry' running found step =>
    obtain ⟨-, more, events, mine⟩ := step.about
    have kept : past tape'.events ∧ law tape'.events entry' := laws.moved_many step.moves
      ⟨h.past, h.entries entry (by simp [found])⟩
    refine ⟨ledger, fun next counted id known => ?_, kept.1, fun other member => ?_⟩
    · rcases known with old | ⟨event, member, about⟩
      · exact h.numbered next counted id (.inl old)
      · rw [events, List.mem_append] at member
        rcases member with old | new
        · exact h.numbered next counted id (.inr ⟨event, old, about⟩)
        · obtain rfl : entry.job.id = id := Option.some.inj ((mine event new).symm.trans about)
          exact (h.ledger.counter next counted).1 entry (by simp [found])
    · by_cases same : other = entry'
      · rw [same]
        exact kept.2
      · have old : other ∈ before ++ after := by
          simp only [List.mem_append, List.mem_cons] at member ⊢
          rcases member with first | rfl | last
          · exact .inl first
          · exact absurd rfl same
          · exact .inr last
        have different := other_ids h.ledger found other old
        dsimp only at events
        rw [events]
        refine laws.foreign _ _ _ (h.entries other (mem_of_without found old)) fun event new => ?_
        rw [mine event new]
        exact fun eq => different (Option.some.inj eq).symm
  | evicted found idle =>
    refine ⟨ledger, fun next counted id known => h.numbered next counted id ?_,
      laws.noted _ _ h.past (by simp [Event.about]), fun other member => ?_⟩
    · simpa [Event.about] using known
    · exact laws.foreign _ _ _ (h.entries other (mem_of_without found member))
        (by simp [Event.about])
  | adjusted => exact ⟨ledger, h.numbered, h.past, h.entries⟩
  | elapsed => exact ⟨ledger, h.numbered, h.past, h.entries⟩
  | stopped =>
    refine ⟨ledger, h.numbered, h.past, fun entry member => ?_⟩
    obtain ⟨before, retained, rfl⟩ := List.mem_map.mp member
    exact laws.cancelled _ _ (h.entries before retained)

theorem step (laws : EntryLaw W revivable restorable used past law)
    (taken : Step ports revivable restorable s s') (h : Holds used past law s) :
    Holds used past law s' := by
  have ledger := h.ledger.step taken
  cases taken with
  | churned churn => exact laws.churn churn h
  | @admitted c tape next id job file enabled running counted valid fresh =>
    have number := UploadJobId.get_of_new valid
    have unknown : ∀ known, used known ∨ (∃ event ∈ tape.events, event.about = some known) →
        known ≠ id := by
      rintro known used rfl
      have := h.numbered next counted known used
      rw [number] at this
      omega
    refine ⟨ledger, fun later counted' known old => ?_, ?_, fun entry member => ?_⟩
    · have larger := toNat_of_checkedSucc64 counted'
      have below := h.numbered next counted known (by simpa [Event.about] using old)
      obtain ⟨-, -, rfl⟩ := UploadJob.new_ok fresh
      rw [number] at larger
      omega
    · exact laws.noted _ _ h.past (by simp [Event.about])
    · refine laws.foreign _ _ _ ?_ (by simp [Event.about])
      rcases List.mem_append.mp member with retained | new
      · exact h.entries entry retained
      · rw [List.mem_singleton.mp new]
        exact laws.created _ _ _ _ _ _ h.past fresh (fun old => unknown id (.inl old) rfl)
          fun event member about => unknown id (.inr ⟨event, member, about⟩) rfl
  | @restored c tape jobs records running once first empty few lawful restored =>
    have unknown : ∀ known, ¬(used known ∨ ∃ event ∈ tape.events, event.about = some known) := by
      intro known old
      have := h.numbered 1 first known old
      exact known.nonzero (UInt64.toNat_inj.mp (by simpa using this))
    refine ⟨ledger, fun next _ known old => ?_, laws.noted _ _ h.past ?_,
      fun entry member => laws.foreign _ _ _ ?_ ?_⟩
    · refine absurd ?_ (unknown known)
      rcases old with old | ⟨event, member, about⟩
      · exact .inl old
      · rcases List.mem_append.mp member with old | new
        · exact .inr ⟨event, old, about⟩
        · obtain ⟨entry, -, rfl⟩ := List.mem_map.mp new
          cases about
    · simp [Event.about]
    · obtain ⟨entries, -⟩ := UploadCoordinator.restoreJobs_ok restored
      obtain ⟨record, listed, new, id, brought⟩ := exists_of_forall₂ entries member
      rw [new]
      exact laws.brought _ id record _ h.past (lawful record listed) brought
        (fun old => unknown id (.inl old))
        fun event member about => unknown id (.inr ⟨event, member, about⟩)
    · simp [Event.about]

/-- The rule: a law that one move keeps holds in every run. -/
theorem run {allowed : Running W → CoordinatorOp W → Prop} {start : Running W}
    (laws : EntryLaw W revivable restorable used past law)
    (run : Run (UploadCoordinator.perform ports) allowed start s)
    (guarded : ∀ s op, allowed s op → op.Guarded revivable restorable s.1)
    (h : Holds used past law start) : Holds used past law s :=
  UploadCoordinator.run_invariant revivable restorable run guarded
    (fun _ _ taken h => laws.step taken h) h

/-- A new coordinator satisfies every law of the past that holds of nothing. -/
theorem holds_new {providers : List Provider} {historyLimit : Nat} {c : UploadCoordinator}
    {world : W} (created : UploadCoordinator.new providers historyLimit = .ok c)
    (unused : ∀ id, ¬used id) (h : past []) : Holds used past law (c, ⟨world, []⟩) := by
  have start : Run (UploadCoordinator.perform acceptingPorts) (fun _ _ => True)
      (c, (⟨world, []⟩ : Tape W)) (c, ⟨world, []⟩) := .refl
  have ledger := UploadCoordinator.ledger_of_run created start
  obtain ⟨empty, -⟩ := UploadCoordinator.new_ok created
  exact ⟨ledger, by simp [Numbered, unused], h, by simp [empty]⟩

end EntryLaw
end MannyUploader.Application
