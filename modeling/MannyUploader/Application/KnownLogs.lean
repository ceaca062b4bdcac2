import MannyUploader.Application.RuntimeLaws
import MannyUploader.Application.DistinctFiles

/-! What the owner knows of the logs in the history it started with: until discovery forgets a
file, none of them is admitted. -/
namespace MannyUploader.Application
open Config Domain Foundation Relation

def Event.forgets : Event → Bool
  | .forgot .. => true
  | _ => false

def Unforgotten (events : List Event) : Prop := ∀ event ∈ events, event.forgets = false

def AdmitsNew (records : List UploadJobRecord) (events : List Event) : Prop :=
  EachAfter (fun past event => ∀ job, event = .admitted job → Unforgotten past →
    ∀ record ∈ records, job.record.file.key ≠ record.file.key) events

/-- The history is loaded at the start and saved by the owner. -/
def Event.touchesHistory : Event → Bool
  | .loaded _ | .saved .. => true
  | _ => false

section events
variable {events more : List Event} {records : List UploadJobRecord}

theorem Unforgotten.of_append (unforgotten : Unforgotten (events ++ more)) : Unforgotten events :=
  fun event member => unforgotten event (List.mem_append_left _ member)

theorem AdmitsNew.quiet (new : AdmitsNew records events)
    (quiet : ∀ event ∈ more, ∀ job, event ≠ .admitted job) : AdmitsNew records (events ++ more) :=
  eachAfter_append new fun event member _ job same => absurd same (quiet event member job)

end events

/-- The logs that were loaded are known to discovery, and none was admitted. -/
structure Alert (records : List UploadJobRecord) (s : Pumping W) : Prop where
  ledger : Ledger (s.1.uploads, s.2)
  new : AdmitsNew records s.2.events
  known : Unforgotten s.2.events → ∀ record ∈ records, record.file.key ∈ s.1.discovery.keys

section moves
variable {ports : PumpPorts W} {records : List UploadJobRecord}

/-- Events that are about no attempt. -/
theorem Ledger.silent {c : UploadCoordinator} {tape tape' : Tape W} {more : List Event}
    (h : Ledger (c, tape)) (events : tape'.events = tape.events ++ more)
    (accepted : acceptedAttempts more = []) (applied : appliedAttempts more = []) :
    Ledger (c, tape') := by
  have accepted' : acceptedAttempts tape'.events = acceptedAttempts tape.events := by
    rw [events, acceptedAttempts_append, accepted, List.append_nil]
  have applied' : appliedAttempts tape'.events = appliedAttempts tape.events := by
    rw [events, appliedAttempts_append, applied, List.append_nil]
  refine ⟨⟨?_, ?_, ?_⟩, h.numbered, fun next counted => ?_, fun running entry member => ?_,
    fun running => ?_⟩
  · rw [accepted']; exact h.laws.increasing
  · rw [applied']; exact h.laws.once
  · rw [accepted', applied']; exact h.laws.sourced
  · rw [accepted']; exact h.counter next counted
  · change entry.Recounted tape'.events
    rw [events]
    exact (h.recounted running entry member).frame (by simp [accepted, applied])
  · rw [accepted', applied']; exact h.retained running

theorem work_admits_nothing {event : Event} (work : event.isWork = true) (job : UploadJob) :
    event ≠ .admitted job := by
  rintro rfl
  cases work

/-- A note of what was forgotten is about neither the history nor an admission. -/
theorem idle_of_forgotten {discovery : LogDiscovery} {files retained : List LogFileIdentity}
    {event : Event} (member : event ∈ (ApplicationPump.forgotten discovery files).map
      fun oldest => Event.forgot oldest retained) :
    event.touchesHistory = false ∧ ∀ job, event ≠ .admitted job := by
  obtain ⟨oldest, _, rfl⟩ := List.mem_map.mp member
  exact ⟨rfl, fun job same => by cases same⟩

/-- A file that was known stays so when a fresh one is remembered. -/
theorem remembers_all {pump : ApplicationPump} {tape : Tape W} {file : LogFileIdentity}
    (fresh : pump.discovery.isKnown file = false)
    (unforgotten : Unforgotten (pump.noteForgotten [file] tape).events)
    {key : List Path.Component × UInt64 × SystemTime} (known : key ∈ pump.discovery.keys) :
    key ∈ (pump.discovery.remember file).keys := by
  refine (LogDiscovery.mem_keys_remember fresh).mpr (.inr ⟨known, fun oldest full => ?_⟩)
  have full : pump.discovery.overflow = some oldest := full
  have forgets := unforgotten (.forgot oldest pump.uploads.files) (by
    simp [ApplicationPump.noteForgotten, ApplicationPump.forgotten, fresh, full])
  cases forgets

/-- What the pump notes by itself leaves the history alone. -/
theorem PumpMove.leaves_history {s s' : Pumping W} (move : PumpMove ports (fun _ => False) s s') :
    ∃ more, s'.2.events = s.2.events ++ more ∧ ∀ event ∈ more, event.touchesHistory = false := by
  have work : ∀ event : Event, event.isWork = true → event.touchesHistory = false := by
    intro event work
    cases event <;> first | rfl | cases work
  cases move with
  | idled => exact ⟨[], (List.append_nil _).symm, by simp⟩
  | worked churn =>
    obtain ⟨more, events, busy⟩ := churn.events
    exact ⟨more, events, fun event member => work event (busy event member)⟩
  | remembered => exact ⟨_, rfl, fun event member => (idle_of_forgotten member).1⟩
  | refused => exact ⟨_, rfl, fun event member => (idle_of_forgotten member).1⟩
  | @submitted pump tape s job file enabled valid fresh churn =>
    obtain ⟨more, events, busy⟩ := Churn.events_of_many churn
    refine ⟨(ApplicationPump.forgotten pump.discovery [file]).map
      (fun oldest => .forgot oldest pump.uploads.files) ++ (more ++ [.admitted job]), ?_, ?_⟩
    · rw [enrol, Tape.note_events, events, ApplicationPump.noteForgotten, Tape.noteAll_events,
        List.append_assoc, List.append_assoc]
    · intro event member
      rcases List.mem_append.mp member with first | later
      · exact (idle_of_forgotten first).1
      · rcases List.mem_append.mp later with busily | last
        · exact work event (busy event busily)
        · rw [List.mem_singleton.mp last]
          rfl
  | restored _ never => exact never.elim

theorem PumpMove.alert {s s' : Pumping W} (move : PumpMove ports (fun _ => False) s s')
    (alert : Alert records s) : Alert records s' := by
  have ledger := move.ledger alert.ledger
  cases move with
  | @idled pump pump' tape _ _ known =>
    refine ⟨ledger, alert.new, fun unforgotten record member => ?_⟩
    change record.file.key ∈ pump'.discovery.known.map LogFileIdentity.key
    rw [known]
    exact alert.known unforgotten record member
  | worked churn =>
    obtain ⟨more, events, busy⟩ := churn.events
    refine ⟨ledger, ?_, fun unforgotten => alert.known ?_⟩
    · rw [show _ = _ ++ more from events]
      exact alert.new.quiet fun event member job => work_admits_nothing (busy event member) job
    · rw [show _ = _ ++ more from events] at unforgotten
      exact unforgotten.of_append
  | @remembered pump tape file valid fresh =>
    refine ⟨ledger, ?_, fun unforgotten record member => ?_⟩
    · exact alert.new.quiet fun event member => (idle_of_forgotten member).2
    · exact remembers_all fresh unforgotten (alert.known unforgotten.of_append record member)
  | @refused pump tape file valid fresh =>
    refine ⟨ledger, ?_, fun unforgotten record member => ?_⟩
    · exact alert.new.quiet fun event member => (idle_of_forgotten member).2
    · have known := alert.known unforgotten.of_append record member
      refine LogDiscovery.mem_keys_release.mpr ⟨remembers_all fresh unforgotten known, fun same => ?_⟩
      rw [same, ← LogDiscovery.isKnown_iff, fresh] at known
      cases known
  | @submitted pump tape s job file enabled valid fresh churn admits =>
    obtain ⟨more, events, busy⟩ := Churn.events_of_many churn
    have noted : AdmitsNew records s.2.events := by
      rw [events]
      apply AdmitsNew.quiet
      · exact alert.new.quiet fun event member => (idle_of_forgotten member).2
      · exact fun event member job => work_admits_nothing (busy event member) job
    refine ⟨ledger, eachAfter_snoc noted ?_, fun unforgotten record member => ?_⟩
    · rintro _ ⟨⟩ unforgotten record member same
      rw [events] at unforgotten
      have known := alert.known unforgotten.of_append.of_append record member
      rw [← same, admits.file, ← LogDiscovery.isKnown_iff, fresh] at known
      cases known
    · have past : Unforgotten s.2.events := Unforgotten.of_append unforgotten
      rw [events] at past
      exact remembers_all fresh past.of_append
        (alert.known past.of_append.of_append record member)
  | restored _ never => exact never.elim

end moves
end MannyUploader.Application
