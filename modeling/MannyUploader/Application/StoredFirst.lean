import MannyUploader.Application.ApplicationRuntime
import MannyUploader.Application.PumpSteps

/-! The history is loaded or saved with a file before a request for it is handed over. Where every retained job
is in the history, any work of the coordinator may follow. An admission brings in a job that is
not, and which nothing dispatches while it has no metadata. -/
namespace MannyUploader.Application
open Domain Foundation Relation

/-- The history is loaded, or saved with the file among what it is to keep. -/
def Event.stores (file : LogFileIdentity) : Event → Prop
  | .loaded records | .saved records _ => ∃ record ∈ records, (record.file == file) = true
  | _ => False

def Stored (events : List Event) (file : LogFileIdentity) : Prop :=
  ∃ event ∈ events, event.stores file

def StoredFirst (events : List Event) : Prop :=
  EachAfter (fun past event => ∀ job request answer, event = .enqueued job request answer →
    Stored past request.file) events

def Event.isRequest : Event → Bool
  | .enqueued .. => true
  | _ => false

section events
variable {events more : List Event} {file : LogFileIdentity}

theorem Stored.append (stored : Stored events file) (more : List Event) :
    Stored (events ++ more) file := by
  obtain ⟨event, member, stores⟩ := stored
  exact ⟨event, List.mem_append_left _ member, stores⟩

/-- Events that are as they should be after any others. -/
theorem eachAfter_append {holds : List Event → Event → Prop} (old : EachAfter holds events)
    (new : ∀ event ∈ more, ∀ past, holds past event) : EachAfter holds (events ++ more) := by
  induction more using List.reverseRecOn with
  | nil => rwa [List.append_nil]
  | append_singleton more event ih =>
    rw [← List.append_assoc]
    apply eachAfter_snoc (ih fun found member => new found (List.mem_append_left _ member))
    exact new event (List.mem_append_right _ (List.mem_singleton_self _)) _

theorem StoredFirst.quiet (first : StoredFirst events)
    (quiet : ∀ event ∈ more, event.isRequest = false) : StoredFirst (events ++ more) := by
  apply eachAfter_append first
  rintro _ member past job request answer rfl
  cases quiet _ member

theorem StoredFirst.request {job : UploadJob} {request : UploadRequest}
    {answer : Except ProviderError Unit} (first : StoredFirst events)
    (stored : Stored events request.file) :
    StoredFirst (events ++ [.enqueued job request answer]) := by
  apply eachAfter_snoc first
  rintro _ _ _ ⟨⟩
  exact stored

end events

/-- The history holds the files of these jobs and the files named, and held those of all
requests. -/
structure Covered (saved : List LogFileIdentity) (concerned : Entry → Prop) (s : Running W) :
    Prop where
  first : StoredFirst s.2.events
  stored : ∀ entry ∈ s.1.jobs, concerned entry → Stored s.2.events entry.job.record.file
  saved : ∀ file ∈ saved, Stored s.2.events file

def Entry.parsed (entry : Entry) : Prop := entry.job.record.encounterMetadata.isSome = true

def anyEntry (_ : Entry) : Prop := True

section coordinator
variable {ports : UploadPorts W} {revivable : UploadJobId → Provider → UploadIntent → Prop}
  {concerned : Entry → Prop} {saved : List LogFileIdentity}

/-- Fewer jobs, and no request. -/
theorem Covered.fewer {s : Running W} {c : UploadCoordinator} {tape : Tape W} {more : List Event}
    (covered : Covered saved concerned s)
    (jobs : ∀ entry ∈ c.jobs, concerned entry → ∃ old ∈ s.1.jobs, concerned old ∧
      old.job.record.file = entry.job.record.file)
    (events : tape.events = s.2.events ++ more) (quiet : ∀ event ∈ more, event.isRequest = false) :
    Covered saved concerned (c, tape) := by
  constructor
  · change StoredFirst tape.events
    rw [events]
    exact covered.first.quiet quiet
  · intro entry member concerns
    obtain ⟨old, found, same, file⟩ := jobs entry member concerns
    change Stored tape.events _
    rw [events, ← file]
    exact (covered.stored old found same).append more
  · intro file member
    change Stored tape.events _
    rw [events]
    exact (covered.saved file member).append more

theorem Covered.parsed {s : Running W} (covered : Covered saved anyEntry s) : Covered saved Entry.parsed s :=
  ⟨covered.first, fun entry member _ => covered.stored entry member trivial, covered.saved⟩

/-- A move on a stored file hands nothing over but requests for it. -/
theorem Move.stored {s s' : Entry × Tape W} (move : Move revivable s s')
    (first : StoredFirst s.2.events) (stored : Stored s.2.events s.1.job.record.file) :
    StoredFirst s'.2.events ∧ Stored s'.2.events s'.1.job.record.file := by
  obtain ⟨more, events, _⟩ := move.events
  refine ⟨?_, by rw [move.file, events]; exact stored.append more⟩
  cases move with
  | accepted provider world offer =>
    obtain ⟨attempts, _, rfl⟩ := offer.activated
    exact first.request stored
  | rejected provider error world offer =>
    obtain ⟨attempts, _, rfl⟩ := offer.activated
    exact first.request stored
  | received => exact first.quiet (by simp [Event.isRequest])
  | _ => exact first

theorem EntryStep.stored {installed : Provider → Bool} {s s' : Entry × Tape W}
    (step : EntryStep ports installed revivable s s') (first : StoredFirst s.2.events)
    (stored : Stored s.2.events s.1.job.record.file) :
    StoredFirst s'.2.events ∧ Stored s'.2.events s'.1.job.record.file := by
  have moves := step.moves
  clear step
  induction moves with
  | refl => exact ⟨first, stored⟩
  | tail _ last ih => exact last.stored ih.1 ih.2

theorem Churn.covered {s s' : Running W} (churn : Churn ports revivable s s')
    (covered : Covered saved anyEntry s) : Covered saved anyEntry s' := by
  obtain ⟨more, events, _⟩ := churn.events
  cases churn with
  | @worked c tape tape' before after entry entry' running found step =>
    have here : entry ∈ c.jobs := by simp [found]
    obtain ⟨first, stored⟩ := step.stored covered.first (covered.stored entry here trivial)
    have old (other : Entry) (member : other ∈ before ++ after) :
        Stored tape'.events other.job.record.file := by
      have kept : other ∈ c.jobs := by
        rw [found]
        exact List.mem_append.mpr ((List.mem_append.mp member).imp_right (List.mem_cons_of_mem _))
      rw [show tape'.events = tape.events ++ more from events]
      exact (covered.stored other kept trivial).append more
    refine ⟨first, fun other member _ => ?_, fun file member => ?_⟩
    · rcases List.mem_append.mp member with first | last
      · exact old other (List.mem_append_left _ first)
      · rcases List.mem_cons.mp last with rfl | last
        · exact stored
        · exact old other (List.mem_append_right _ last)
    · rw [events]
      exact (covered.saved file member).append more
  | evicted found idle =>
    apply covered.fewer _ rfl
    · simp [Event.isRequest]
    · intro entry member _
      refine ⟨entry, ?_, trivial, rfl⟩
      rw [found]
      exact List.mem_append.mpr ((List.mem_append.mp member).imp_right (List.mem_cons_of_mem _))
  | adjusted => exact ⟨covered.first, covered.stored, covered.saved⟩
  | elapsed => exact ⟨covered.first, covered.stored, covered.saved⟩
  | stopped =>
    apply covered.fewer _ (List.append_nil _).symm
    · simp
    · intro entry member _
      obtain ⟨old, found, rfl⟩ := List.mem_map.mp member
      exact ⟨old, found, trivial, by rw [Entry.cancel_eq]; rfl⟩

theorem Covered.churned {s s' : Running W} (covered : Covered saved anyEntry s)
    (churn : ReflTransGen (Churn ports revivable) s s') : Covered saved anyEntry s' :=
  invariant_of_moves churn (fun _ _ churn covered => churn.covered covered) covered

end coordinator

/-! An admission, and what may follow it before the next save. -/

section admission
variable {c : UploadCoordinator} {tape : Tape W} {saved : List LogFileIdentity}

theorem Covered.elapse {concerned : Entry → Prop} (covered : Covered saved concerned (c, tape)) (world : W) :
    Covered saved concerned (c, { tape with world }) := ⟨covered.first, covered.stored, covered.saved⟩

theorem trimTo_covered {concerned : Entry → Prop} (covered : Covered saved concerned (c, tape))
    (limit : Nat) : Covered saved concerned (c.trimTo limit tape) := by
  apply covered.fewer _ rfl
  · simp [Event.isRequest]
  · intro entry member concerns
    refine ⟨entry, ?_, concerns, rfl⟩
    exact (trim_removes (fun entry => !entry.busy) limit c.jobs.length c.jobs).sublist.subset member

theorem addPending_covered (covered : Covered saved Entry.parsed (c, tape)) (ports : UploadPorts W)
    (file : LogFileIdentity) (enabled : ProviderSelection) :
    Covered saved Entry.parsed (c.addPending ports file enabled tape).2 := by
  unfold UploadCoordinator.addPending
  split
  · exact covered
  next job prepared =>
    obtain ⟨_, _, ⟨next, id, _, _, fresh⟩, _⟩ := UploadCoordinator.prepareJob_ok prepared
    obtain ⟨_, _, rfl⟩ := UploadJob.new_ok fresh
    have trimmed := trimTo_covered covered (c.historyLimit - 1)
    apply trimmed.fewer _ rfl
    · simp [Event.isRequest]
    · intro entry member parsed
      rcases List.mem_append.mp member with old | last
      · exact ⟨entry, old, parsed, rfl⟩
      · rw [List.mem_singleton.mp last] at parsed
        cases parsed

theorem failMetadata_same {entry entry' : Entry} {cancelled : Bool}
    (failed : entry.failMetadata cancelled = .ok entry') :
    entry'.job.record.encounterMetadata = entry.job.record.encounterMetadata ∧
      entry'.job.record.file = entry.job.record.file := by
  rw [Entry.failMetadata_eq] at failed
  cases failed
  have rounds : ∀ (providers : List Provider) (entry : Entry),
      (providers.foldl (Entry.giveUp cancelled) entry).job.record.encounterMetadata =
          entry.job.record.encounterMetadata ∧
        (providers.foldl (Entry.giveUp cancelled) entry).job.record.file =
          entry.job.record.file := by
    intro providers
    induction providers with
    | nil => exact fun _ => ⟨rfl, rfl⟩
    | cons provider rest ih =>
      intro entry
      rw [List.foldl_cons, (ih _).1, (ih _).2]
      unfold Entry.giveUp
      split <;> exact ⟨rfl, rfl⟩
  exact rounds _ _

theorem failMetadata_covered (covered : Covered saved Entry.parsed (c, tape)) (id : UploadJobId)
    (cancelled : Bool) : Covered saved Entry.parsed (c.failMetadata id cancelled tape).2 := by
  unfold UploadCoordinator.failMetadata
  split
  · exact covered
  next before entry' after performed =>
    obtain ⟨_, _, performed⟩ := bind_ok performed
    obtain ⟨⟨before, entry, after⟩, pending, performed⟩ := bind_ok performed
    obtain ⟨entry', failed, performed⟩ := bind_ok performed
    cases performed
    obtain ⟨metadata, file⟩ := failMetadata_same failed
    have split := (UploadCoordinator.index_ok (UploadCoordinator.pendingIndex_ok pending).1).1
    apply trimTo_covered
    apply covered.fewer _ (List.append_nil _).symm
    · simp
    · intro found member parsed
      rw [split]
      rcases List.mem_append.mp member with first | last
      · exact ⟨found, List.mem_append_left _ first, parsed, rfl⟩
      · rcases List.mem_cons.mp last with rfl | last
        · exact ⟨entry, by simp, by rwa [Entry.parsed, ← metadata], file.symm⟩
        · exact ⟨found, List.mem_append_right _ (List.mem_cons_of_mem _ last), parsed, rfl⟩

variable {i : LogIngestionCoordinator}

theorem submit_covered (covered : Covered saved Entry.parsed (i.uploads, tape)) (ports : UploadPorts W)
    (parser : ParserPorts W) (file : LogFileIdentity) (enabled : ProviderSelection) :
    Covered saved Entry.parsed ((i.submit ports parser file enabled tape).2.1.uploads,
      (i.submit ports parser file enabled tape).2.2) := by
  unfold LogIngestionCoordinator.submit
  split
  · exact covered
  obtain ⟨world, asked⟩ := LogIngestionCoordinator.availableCapacity_tape i parser tape
  generalize i.availableCapacity parser tape = answer at asked
  obtain ⟨error | capacity, tape'⟩ := answer
  · rw [show tape' = _ from asked]
    exact covered.elapse world
  obtain rfl : tape' = { tape with world } := asked
  dsimp only
  split
  · exact covered.elapse world
  have added := addPending_covered (covered.elapse world) ports file enabled
  generalize i.uploads.addPending ports file enabled { tape with world } = out at added
  obtain ⟨error | id, uploads, tape'⟩ := out
  · exact added
  dsimp only
  unfold LogIngestionCoordinator.requestMetadata
  generalize parser.enqueue ⟨id, file⟩ tape'.world = answer
  obtain ⟨refused | accepted, world'⟩ := answer
  · have failed := failMetadata_covered (added.elapse world') id false
    dsimp only
    generalize uploads.failMetadata id false { tape' with world := world' } = out at failed
    obtain ⟨error | done, uploads', tape''⟩ := out
    · exact failed
    · exact failed
  · exact added.elapse world'

variable {ports : PumpPorts W} {pump : ApplicationPump}

theorem noteForgotten_covered {concerned : Entry → Prop}
    (covered : Covered saved concerned (pump.uploads, tape)) (files : List LogFileIdentity) :
    Covered saved concerned (pump.uploads, pump.noteForgotten files tape) := by
  apply covered.fewer _ rfl
  · simp [Event.isRequest]
  · exact fun entry member concerns => ⟨entry, member, concerns, rfl⟩

variable (ports) in
theorem observe_covered (covered : Covered saved Entry.parsed (pump.uploads, tape))
    (enabled : ProviderSelection) (observation : LogFileIdentity) :
    Covered saved Entry.parsed ((pump.observe ports enabled observation tape).2.1.uploads,
      (pump.observe ports enabled observation tape).2.2) := by
  unfold ApplicationPump.observe
  split
  · exact covered
  · exact covered
  next file discovery accepts =>
    have submitted : Covered saved Entry.parsed _ := submit_covered (i := pump.ingestion)
      (noteForgotten_covered covered [file]) ports.uploads ports.parser file enabled
    generalize pump.ingestion.submit ports.uploads ports.parser file enabled
      (pump.noteForgotten [file] tape) = out at submitted
    obtain ⟨error | id, ingestion, tape'⟩ := out
    · exact submitted
    · exact submitted

theorem observeAll_covered (covered : Covered saved Entry.parsed (pump.uploads, tape))
    (enabled : ProviderSelection) (observations : List LogFileIdentity) (report : TickReport) :
    Covered saved Entry.parsed
      ((ApplicationPump.observeAll ports enabled observations report pump tape).2.1.uploads,
        (ApplicationPump.observeAll ports enabled observations report pump tape).2.2) := by
  induction observations generalizing report pump tape with
  | nil => exact covered
  | cons observation rest ih =>
    unfold ApplicationPump.observeAll
    split
    · exact covered.elapse _
    next world stopping =>
      obtain ⟨world', asked⟩ :=
        pump.ingestion.availableCapacity_tape ports.parser { tape with world }
      generalize pump.ingestion.availableCapacity ports.parser { tape with world } = answer at asked
      obtain ⟨error | capacity, tape'⟩ := answer
      · rw [show tape' = _ from asked]
        exact covered.elapse world'
      obtain rfl : tape' = { tape with world := world' } := asked
      dsimp only
      split
      · exact covered.elapse world'
      have observed := observe_covered ports (covered.elapse world') enabled observation
      generalize pump.observe ports enabled observation { tape with world := world' } = out
        at observed
      obtain ⟨error | submitted, pump', tape''⟩ := out
      · exact observed
      · exact ih observed _

/-- What a call of the pump drains is of jobs that the history holds, and what it admits then is
not drained in the same call. -/
theorem pumpTick_covered (covered : Covered saved anyEntry (pump.uploads, tape))
    (enabled : ProviderSelection) :
    Covered saved Entry.parsed ((pump.tick ports enabled tape).2.1.uploads,
      (pump.tick ports enabled tape).2.2) := by
  have drained := (covered.churned (ApplicationPump.drainWork_churn ports pump tape).1).parsed
  unfold ApplicationPump.tick
  generalize pump.drainWork ports tape = out at drained
  obtain ⟨error | report, pump', tape'⟩ := out
  · exact drained
  dsimp only
  split
  · exact drained.elapse _
  next batch world polled =>
    apply observeAll_covered
    exact drained.elapse world

/-- A shutdown hands nothing over. -/
theorem stop_covered (covered : Covered saved Entry.parsed (c, tape)) (ports : UploadPorts W) :
    Covered saved Entry.parsed (c.cancelAll ports tape) := by
  unfold UploadCoordinator.cancelAll
  split
  · exact covered
  apply trimTo_covered
  apply (covered.elapse _).fewer _ (List.append_nil _).symm
  · simp
  · intro entry member parsed
    obtain ⟨old, found, rfl⟩ := List.mem_map.mp member
    rw [Entry.cancel_eq] at parsed ⊢
    exact ⟨old, found, parsed, rfl⟩

theorem cancelAll_covered (covered : Covered saved Entry.parsed (pump.uploads, tape)) :
    Covered saved Entry.parsed ((pump.cancelAll ports tape).1.uploads,
      (pump.cancelAll ports tape).2) := by
  unfold ApplicationPump.cancelAll LogIngestionCoordinator.cancelAll
  cases pump.stopping with
  | true => exact covered
  | false => cases pump.ingestion.stopping with
    | true => exact covered
    | false => exact stop_covered (covered.elapse _) ports.uploads

theorem setHistoryLimit_covered (covered : Covered saved Entry.parsed (c, tape)) (limit : Nat) :
    Covered saved Entry.parsed (c.setHistoryLimit limit tape).2 := by
  unfold UploadCoordinator.setHistoryLimit
  split
  · exact covered
  next historyLimit valid =>
    exact trimTo_covered (c := { c with historyLimit })
      ⟨covered.first, covered.stored, covered.saved⟩ limit

end admission
end MannyUploader.Application
