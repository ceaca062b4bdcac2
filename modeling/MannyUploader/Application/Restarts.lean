import MannyUploader.Application.KnownLogs
import MannyUploader.Foundation.Lives

/-! The program over its restarts. A life begins with the document that the one before it left, and
ends after any event; a crash inside of a save is one before or after it. -/
namespace MannyUploader.Application
open Config Domain Foundation Relation JsonUploadHistoryStore

def heldAfter (capacity : Nat) (held : List UploadJobRecord) : Event → List UploadJobRecord
  | .loaded records => records
  | .saved records _ => newest capacity (mergeKeyed recordKey held records)
  | _ => held

/-- The history after these events. -/
def held (capacity : Nat) (events : List Event) : List UploadJobRecord :=
  events.foldl (heldAfter capacity) []

def Event.isSave : Event → Bool
  | .saved .. => true
  | _ => false

/-- The document after these events: that of the last save. -/
def documentAfter (json : JsonCodec) (capacity : Nat) (document : Option (List UInt8))
    (events : List Event) : Option (List UInt8) :=
  if events.any Event.isSave then (encodeHistory json (held capacity events) capacity).toOption
  else document

/-- What may happen to the history: it is loaded first, and each save goes through the codec. -/
def Event.Proper (json : JsonCodec) (capacity : Nat) (past : List Event) : Event → Prop
  | .loaded _ => past = []
  | .saved records trimmed =>
    (∃ document,
      encodeHistory json (held capacity (past ++ [.saved records trimmed])) capacity = .ok document) ∧
      (trimmed = [] → ∀ key, key ∈ (held capacity past).map recordKey ∨ key ∈ records.map recordKey →
        key ∈ (held capacity (past ++ [.saved records trimmed])).map recordKey)
  | _ => True

def Proper (json : JsonCodec) (capacity : Nat) (events : List Event) : Prop :=
  EachAfter (fun past event => event.Proper json capacity past) events

/-- No save trims a record, and discovery forgets no file. -/
def Roomy (events : List Event) : Prop :=
  ∀ event ∈ events, event.forgets = false ∧ ∀ records trimmed, event = .saved records trimmed →
    trimmed = []

section events
variable {json : JsonCodec} {capacity : Nat} {events more : List Event}

theorem held_snoc (event : Event) :
    held capacity (events ++ [event]) = heldAfter capacity (held capacity events) event := by
  simp [held]

theorem heldAfter_idle {event : Event} (idle : event.touchesHistory = false)
    (before : List UploadJobRecord) : heldAfter capacity before event = before := by
  cases event <;> first | rfl | cases idle

theorem held_append (idle : ∀ event ∈ more, event.touchesHistory = false) :
    held capacity (events ++ more) = held capacity events := by
  induction more using List.reverseRecOn with
  | nil => rw [List.append_nil]
  | append_singleton more event ih =>
    rw [← List.append_assoc, held_snoc, heldAfter_idle (idle event (by simp)),
      ih fun found member => idle found (List.mem_append_left _ member)]

theorem eachAfter_of_append {holds : List Event → Event → Prop} {first second : List Event}
    (each : EachAfter holds (first ++ second)) : EachAfter holds first := by
  intro earlier event later same
  apply each earlier event (later ++ second)
  rw [same]
  simp

theorem Proper.idle (proper : Proper json capacity events)
    (idle : ∀ event ∈ more, event.touchesHistory = false) :
    Proper json capacity (events ++ more) := by
  apply eachAfter_append proper
  intro event member past
  cases event <;> first | trivial | cases idle _ member

theorem Proper.last {event : Event} (proper : Proper json capacity (events ++ [event])) :
    event.Proper json capacity events :=
  proper events event [] rfl

/-- Without a trim, the history holds all that it was loaded or saved with. -/
theorem mem_held_of_stored (proper : Proper json capacity events) (roomy : Roomy events)
    {file : LogFileIdentity} (stored : Stored events file) :
    file.key ∈ (held capacity events).map recordKey := by
  induction events using List.reverseRecOn with
  | nil =>
    obtain ⟨_, member, _⟩ := stored
    cases member
  | append_singleton events event ih =>
    have earlier : Stored events file → file.key ∈ (held capacity events).map recordKey :=
      ih (eachAfter_of_append proper) fun found member => roomy found (List.mem_append_left _ member)
    have last := proper.last
    have room := (roomy event (by simp)).2
    obtain ⟨found, member, stores⟩ := stored
    rw [held_snoc]
    rcases List.mem_append.mp member with old | here
    · have before := earlier ⟨found, old, stores⟩
      cases event with
      | loaded records =>
        rw [show events = [] from last] at old
        cases old
      | saved records trimmed =>
        rw [← held_snoc]
        exact last.2 (room records trimmed rfl) _ (.inl before)
      | _ => exact before
    · obtain rfl := List.mem_singleton.mp here
      cases found with
      | loaded records =>
        obtain ⟨record, inside, same⟩ := stores
        exact List.mem_map.mpr ⟨record, inside, LogFileIdentity.beq_iff.mp same⟩
      | saved records trimmed =>
        obtain ⟨record, inside, same⟩ := stores
        rw [← held_snoc]
        exact last.2 (room records trimmed rfl) _
          (.inr (List.mem_map.mpr ⟨record, inside, LogFileIdentity.beq_iff.mp same⟩))
      | _ => exact stores.elim

/-- After a save there is a document of what is held. -/
theorem encoded_of_save (proper : Proper json capacity events)
    (saved : events.any Event.isSave = true) :
    ∃ document, encodeHistory json (held capacity events) capacity = .ok document := by
  induction events using List.reverseRecOn with
  | nil => cases saved
  | append_singleton events event ih =>
    have last := proper.last
    cases event with
    | saved records trimmed => exact last.1
    | loaded records =>
      rw [show events = [] from last] at saved
      cases saved
    | _ =>
      rw [held_snoc]
      exact ih (eachAfter_of_append proper) (by simpa [Event.isSave] using saved)

/-- Without a save, what is held is what was loaded. -/
theorem held_of_unsaved {records : List UploadJobRecord} (proper : Proper json capacity events)
    (begins : [.loaded records] <+: events) (unsaved : events.any Event.isSave = false) :
    held capacity events = records := by
  obtain ⟨more, rfl⟩ := begins
  rw [held_append]
  · rfl
  intro event member
  obtain ⟨past, later, rfl⟩ := List.append_of_mem member
  cases event with
  | loaded others =>
    have first : (Event.loaded others).Proper json capacity ([.loaded records] ++ past) :=
      proper _ _ later (by simp)
    cases (first : [Event.loaded records] ++ past = [])
  | saved others trimmed => simp [Event.isSave] at unsaved
  | _ => rfl

end events

theorem mergeAndSave_encoded {json : JsonCodec} {files : FilePorts W}
    {store : JsonUploadHistoryStore} {updates : List UploadJobRecord} {world : W}
    (saved : (store.mergeAndSave json files updates world).1 = .ok ()) :
    ∃ document, encodeHistory json (store.merged updates) store.capacity = .ok document := by
  unfold mergeAndSave at saved
  split at saved
  · cases saved
  next bytes document =>
    obtain ⟨_, _, encoded⟩ := bind_ok document
    exact ⟨bytes, encoded⟩

theorem mergeAndSave_failed {json : JsonCodec} {files : FilePorts W}
    {store : JsonUploadHistoryStore} {updates : List UploadJobRecord} {world : W}
    {error : HistoryStoreError}
    (refused : (store.mergeAndSave json files updates world).1 = .error error) :
    (store.mergeAndSave json files updates world).2.1 = store := by
  unfold mergeAndSave at refused ⊢
  split
  · rfl
  next bytes document =>
    split
    · rfl
    next after written =>
      split at refused
      next failed =>
        rw [failed] at document
        cases document
      next bytes' document' =>
        rw [document] at document'
        cases document'
        rw [written] at refused
        cases refused

/-- The owner's history is what the events say of it. -/
structure Kept (json : JsonCodec) (capacity : Nat) (records : List UploadJobRecord)
    (s : Ticking W) : Prop where
  alert : Alert records (s.1.pump, s.2)
  within : s.1.history.capacity = capacity
  mirrors : s.1.history.records = held capacity s.2.events
  proper : Proper json capacity s.2.events
  begins : [.loaded records] <+: s.2.events

namespace Kept
variable {V W : Type} {ports : RuntimePorts V W} {capacity : Nat}
  {records : List UploadJobRecord} {s s' : Ticking W}

theorem moved (kept : Kept ports.json capacity records s) {pump : ApplicationPump} {tape : Tape W}
    (moves : ReflTransGen (PumpMove ports.pump fun _ => False) (s.1.pump, s.2) (pump, tape)) :
    Kept ports.json capacity records (s.withPump pump tape) := by
  have all : ∀ {reached : Pumping W},
      ReflTransGen (PumpMove ports.pump fun _ => False) (s.1.pump, s.2) reached →
        Kept ports.json capacity records (s.withPump reached.1 reached.2) := by
    intro reached moves
    induction moves with
    | refl => exact kept
    | @tail reached next _ move ih =>
      obtain ⟨more, events, quiet⟩ := move.leaves_history
      refine ⟨move.alert ih.alert, kept.within, ?_, ?_, ?_⟩
      · change s.1.history.records = held capacity next.2.events
        rw [events, held_append quiet]
        exact ih.mirrors
      · change Proper _ _ next.2.events
        rw [events]
        exact ih.proper.idle quiet
      · change _ <+: next.2.events
        rw [events]
        exact ih.begins.trans (List.prefix_append _ _)
  exact all moves

theorem aside (kept : Kept ports.json capacity records s) (aside : Aside s s') :
    Kept ports.json capacity records s' := by
  have same : s'.2.events = s.2.events ++ [] := by rw [aside.events, List.append_nil]
  refine ⟨⟨?_, ?_, ?_⟩, ?_, ?_, ?_, ?_⟩
  · change Ledger (s'.1.pump.uploads, s'.2)
    rw [aside.uploads]
    exact kept.alert.ledger.silent same rfl rfl
  · change AdmitsNew records s'.2.events
    rw [aside.events]
    exact kept.alert.new
  · change Unforgotten s'.2.events → ∀ record ∈ records,
      record.file.key ∈ s'.1.pump.discovery.known.map LogFileIdentity.key
    rw [aside.events, aside.known]
    exact kept.alert.known
  · rw [aside.history]
    exact kept.within
  · rw [aside.history, aside.events]
    exact kept.mirrors
  · rw [aside.events]
    exact kept.proper
  · rw [aside.events]
    exact kept.begins

/-- An event of the owner itself. -/
theorem noted (kept : Kept ports.json capacity records s) (world : W) {event : Event}
    (plain : event.forgets = false ∧ event.acceptedAttempt = none ∧ event.appliedAttempt = none ∧
      ∀ job, event ≠ .admitted job) :
    Alert records (s.1.pump, Tape.note { s.2 with world } event) := by
  obtain ⟨_, accepted, applied, admits⟩ := plain
  refine ⟨kept.alert.ledger.silent rfl ?_ ?_, ?_, fun unforgotten => ?_⟩
  · simp [acceptedAttempts, accepted]
  · simp [appliedAttempts, applied]
  · apply kept.alert.new.quiet
    intro found member job
    rw [List.mem_singleton.mp member]
    exact admits job
  · exact kept.alert.known unforgotten.of_append

theorem saves : Stateful.Triple (Kept (W := W) ports.json capacity records)
    (fun s => ApplicationRuntime.save ports s.1.pump.uploads.history s)
    (fun _ => Kept ports.json capacity records) fun _ => Kept ports.json capacity records := by
  intro s kept
  have stored := @mergeAndSave_ok _ ports.json ports.files s.1.history s.1.pump.uploads.history
    s.2.world
  have encodes := @mergeAndSave_encoded _ ports.json ports.files s.1.history
    s.1.pump.uploads.history s.2.world
  have fails := @mergeAndSave_failed _ ports.json ports.files s.1.history
    s.1.pump.uploads.history s.2.world
  dsimp only [ApplicationRuntime.save]
  generalize s.1.history.mergeAndSave ports.json ports.files s.1.pump.uploads.history s.2.world = out
    at stored encodes fails
  obtain ⟨error | done, history, world⟩ := out
  · refine ⟨fun _ done => (by cases done), fun _ _ => ?_⟩
    have idle : ∀ event ∈ [Event.saveFailed], event.touchesHistory = false := by
      simp [Event.touchesHistory]
    have unchanged : history = s.1.history := fails rfl
    refine ⟨kept.noted world (by simp [Event.forgets, Event.acceptedAttempt,
      Event.appliedAttempt]), ?_, ?_, kept.proper.idle idle, ?_⟩
    · rw [unchanged]
      exact kept.within
    · rw [unchanged]
      exact kept.mirrors.trans (held_append idle).symm
    · exact kept.begins.trans (List.prefix_append _ _)
  · obtain ⟨once, records', capacity'⟩ := stored rfl
    obtain ⟨document, encoded⟩ := encodes rfl
    refine ⟨fun _ _ => ?_, fun _ failed => by cases failed⟩
    have same : held capacity (s.2.events ++ [.saved s.1.pump.uploads.history
        (oldest s.1.history.capacity
          (mergeKeyed recordKey s.1.history.records s.1.pump.uploads.history))]) =
          s.1.history.merged s.1.pump.uploads.history := by
      rw [held_snoc, merged, kept.mirrors, kept.within]
      rfl
    refine ⟨kept.noted world (by simp [Event.forgets, Event.acceptedAttempt,
      Event.appliedAttempt]), capacity'.trans kept.within, records'.trans same.symm,
      eachAfter_snoc kept.proper ⟨⟨document, ?_⟩, fun whole key known => ?_⟩, ?_⟩
    · rw [same, ← kept.within]
      exact encoded
    · rw [same, merged]
      have all := oldest_append_newest s.1.history.capacity
        (mergeKeyed recordKey s.1.history.records s.1.pump.uploads.history)
      rw [whole, List.nil_append] at all
      rw [all, keys_mergeKeyed once, List.mem_append, List.mem_filter, kept.mirrors]
      by_cases old : key ∈ (held capacity s.2.events).map recordKey
      · exact .inl old
      · exact .inr ⟨known.resolve_left old, by simpa using old⟩
    · exact kept.begins.trans (List.prefix_append _ _)

theorem rounds : Rounds ports (Kept ports.json capacity records)
    (Kept ports.json capacity records) where
  loosely _ _ aside kept := kept.aside aside
  closely _ _ aside kept := kept.aside aside
  relaxes _ kept := kept
  limits _ limit kept := kept.moved
    (ApplicationPump.command_moves (.setHistoryLimit limit) rfl)
  settled _ kept _ := kept
  saves := saves
  acts _ _ _ kept churn := kept.moved (ApplicationPump.moves_of_churn churn rfl rfl)
  drains s kept := kept.moved (ApplicationPump.drainWork_moves ports.pump _ s.1.pump s.2)
  pumps _ enabled kept := kept.moved (ApplicationPump.tick_moves kept.alert.ledger enabled)
  cancels _ kept := kept.moved ApplicationPump.cancelAll_moves

end Kept

/-- The save that a document is named after is one that the file store has made. -/
theorem save_document {V W : Type} {ports : RuntimePorts V W} {capacity : Nat}
    {records : List UploadJobRecord} {s : Ticking W} {document : Option (List UInt8)}
    {content : PathBuf → W → Option (List UInt8)} (atomic : AtomicWrites ports.files content)
    (kept : Kept ports.json capacity records s) :
    let saved := ApplicationRuntime.save ports s.1.pump.uploads.history s
    (saved.1 = .ok () → content s.1.history.path saved.2.2.world =
      documentAfter ports.json capacity document saved.2.2.events) ∧
    ∀ error, saved.1 = .error error →
      content s.1.history.path saved.2.2.world = content s.1.history.path s.2.world := by
  have writes := @mergeAndSave_written _ ports.json ports.files content s.1.history
    s.1.pump.uploads.history s.2.world atomic
  have fails := @mergeAndSave_error _ ports.json ports.files content s.1.history
    s.1.pump.uploads.history s.2.world atomic
  dsimp only [ApplicationRuntime.save]
  generalize s.1.history.mergeAndSave ports.json ports.files s.1.pump.uploads.history s.2.world = out
    at writes fails
  obtain ⟨error | done, history, world⟩ := out
  · exact ⟨fun done => (by cases done), fun _ _ => (fails rfl).2⟩
  · refine ⟨fun _ => ?_, fun _ failed => by cases failed⟩
    obtain ⟨bytes, encoded, written⟩ := writes rfl
    rw [kept.within, merged, kept.mirrors, kept.within] at encoded
    refine written.trans ?_
    change some bytes = documentAfter ports.json capacity document (s.2.events ++ [.saved _ _])
    unfold documentAfter
    rw [if_pos (by simp [Event.isSave]), held_snoc]
    dsimp only [heldAfter]
    rw [encoded]
    rfl

/-! A life of the program. -/

/-- The document holds a record of this log. -/
def Knows (json : JsonCodec) (capacity : Nat)
    (key : List Path.Component × UInt64 × SystemTime) (document : Option (List UInt8)) : Prop :=
  ∃ bytes records, document = some bytes ∧ decodeHistory json bytes capacity = .ok records ∧
    key ∈ records.map recordKey

/-- What the program is started with: a new coordinator, a new pump and the document. -/
structure Opened (json : JsonCodec) (path : PathBuf) (capacity : Nat)
    (document : Option (List UInt8)) (parts : ApplicationRuntime.RuntimeParts) : Prop where
  pump : ∃ providers limit options coordinator,
    UploadCoordinator.new providers limit = .ok coordinator ∧
      ApplicationPump.new (.new coordinator) options = .ok parts.pump
  history : ∃ allowed, parts.history = load json capacity allowed path (.ok document)

inductive Life [DecidableEq V] (ports : RuntimePorts V W) (path : PathBuf) (capacity : Nat) :
    Option (List UInt8) → List Event → Option (List UInt8) → Prop
  | mk {document : Option (List UInt8)} {parts : ApplicationRuntime.RuntimeParts} {bundled : String}
      {runtime : ApplicationRuntime} {world : W} {tape : Tape W} {s : Ticking W}
      {events : List Event} : Opened ports.json path capacity document parts →
      ApplicationRuntime.startUp ports parts bundled ⟨world, []⟩ = (.ok runtime, tape) →
      Run (ApplicationRuntime.perform ports) (fun _ _ => True) (runtime, tape) s →
      events <+: s.2.events →
      Life ports path capacity document events (documentAfter ports.json capacity document events)

/-- The codec gives back what the history holds. -/
structure Readable (json : JsonCodec) (records : List UploadJobRecord) : Prop where
  reads : json.ReadsBack records
  rereads : ∀ record ∈ records, Rereads record

/-- A life with room for all of its logs, whose saves can be read. -/
def AmpleLife [DecidableEq V] (ports : RuntimePorts V W) (path : PathBuf) (capacity : Nat)
    (before : Option (List UInt8)) (events : List Event) (after : Option (List UInt8)) : Prop :=
  Life ports path capacity before events after ∧ Roomy events ∧
    (events.any Event.isSave = true → Readable ports.json (held capacity events))

section lives
variable {V W : Type} {ports : RuntimePorts V W} {path : PathBuf} {capacity : Nat}
  {document before after : Option (List UInt8)} {events : List Event}
  {parts : ApplicationRuntime.RuntimeParts}
  {key : List Path.Component × UInt64 × SystemTime}

theorem Opened.within (opened : Opened ports.json path capacity document parts) :
    parts.history.capacity = capacity := by
  obtain ⟨allowed, same⟩ := opened.history
  rw [same]
  unfold load
  split <;> first | rfl | (split <;> rfl)

theorem Opened.knows (opened : Opened ports.json path capacity document parts) :
    key ∈ parts.history.records.map recordKey ↔ Knows ports.json capacity key document := by
  obtain ⟨allowed, same⟩ := opened.history
  rw [same]
  unfold load Knows
  cases document with
  | none => simp
  | some bytes =>
    dsimp only
    split
    next records decoded => simp [decoded]
    next error decoded => simp [decoded]

/-- What is restored is known. -/
theorem Opened.kept (opened : Opened ports.json path capacity document parts)
    {pump : ApplicationPump} {bundled : String} {selection : SessionLogSelection}
    {steady next : Instant} {world : W} {tape : Tape W}
    (restored : parts.pump.restoreHistory parts.history.records
      (Tape.note ⟨world, []⟩ (.loaded parts.history.records)) = (.ok (), pump, tape)) :
    Kept ports.json capacity parts.history.records
      (ApplicationRuntime.fresh parts pump bundled selection steady next, tape) := by
  obtain ⟨providers, limit, options, coordinator, created, started⟩ := opened.pump
  have loaded : (Tape.note ⟨world, []⟩ (.loaded parts.history.records)).events =
      [] ++ [.loaded parts.history.records] := rfl
  have ledger : Ledger (parts.pump.uploads,
      Tape.note ⟨world, []⟩ (.loaded parts.history.records)) :=
    (ApplicationPump.ledger_of_new created started world).silent loaded rfl rfl
  have moves : ReflTransGen (PumpMove ports.pump fun _ => True)
      (parts.pump, Tape.note ⟨world, []⟩ (.loaded parts.history.records))
      (parts.pump.restoreHistory parts.history.records
        (Tape.note ⟨world, []⟩ (.loaded parts.history.records))).2 :=
    ApplicationPump.restoreHistory_moves trivial
  have ledger' := ApplicationPump.ledger_of_moves moves ledger
  rw [restored] at ledger'
  unfold ApplicationPump.restoreHistory at restored
  split at restored
  · cases restored
  next discovery seeded =>
  split at restored
  · cases restored
  next uploads after coordinator =>
    cases restored
    obtain ⟨_, few, empty, none, unknown, room, rfl⟩ := ApplicationPump.seedHistory_ok seeded
    obtain ⟨_, _, jobs, _, _, rfl⟩ := UploadCoordinator.restore_ok coordinator
    have idle : ∀ event ∈ jobs.map fun entry => Event.restored entry.job,
        event.touchesHistory = false := by
      simp [Event.touchesHistory]
    have first : Proper ports.json capacity ([] ++ [.loaded parts.history.records]) :=
      eachAfter_snoc eachAfter_nil rfl
    have new : AdmitsNew parts.history.records ([] ++ [.loaded parts.history.records]) :=
      AdmitsNew.quiet eachAfter_nil (by simp)
    refine ⟨⟨ledger', new.quiet (by simp), fun _ record member => ?_⟩, opened.within, ?_,
      first.idle idle, List.prefix_append _ _⟩
    · apply (LogDiscovery.mem_keys_rememberAll _ _).mpr
      · exact .inr (List.mem_map.mpr ⟨record.file, List.mem_map_of_mem member, rfl⟩)
      · simpa [none, room] using few
    · have all : held capacity ([.loaded parts.history.records] ++
          jobs.map fun entry => Event.restored entry.job) =
            held capacity [.loaded parts.history.records] := held_append idle
      exact all.symm

/-- What is held after a life is in the document. -/
theorem knows_held (proper : Proper ports.json capacity events)
    (opened : Opened ports.json path capacity document parts)
    (begins : events = [] ∨ [.loaded parts.history.records] <+: events)
    (readable : events.any Event.isSave = true → Readable ports.json (held capacity events))
    (known : key ∈ (held capacity events).map recordKey) :
    Knows ports.json capacity key (documentAfter ports.json capacity document events) := by
  unfold documentAfter
  cases saved : events.any Event.isSave with
  | true =>
    obtain ⟨bytes, encoded⟩ := encoded_of_save proper saved
    have readable := readable saved
    rw [if_pos rfl, encoded]
    refine ⟨bytes, _, rfl, decodeHistory_encode readable.reads readable.rereads encoded, ?_⟩
    obtain ⟨record, member, rfl⟩ := List.mem_map.mp known
    rw [List.map_map]
    refine List.mem_map.mpr ⟨record, member, ?_⟩
    exact (UploadJobRecord.beq_iff.mp (reloaded_beq (readable.rereads record member).reloads)).1
  | false =>
    rw [if_neg (by simp)]
    rcases begins with rfl | begins
    · cases known
    · rw [held_of_unsaved proper begins saved] at known
      exact opened.knows.mp known

theorem begins_or_nil {first : Event} {total : List Event} (begins : [first] <+: total)
    (cut : events <+: total) : events = [] ∨ [first] <+: events := by
  cases events with
  | nil => exact .inl rfl
  | cons event rest =>
    right
    rcases List.prefix_or_prefix_of_prefix begins cut with whole | short
    · exact whole
    · rw [List.cons_prefix_cons] at short
      rw [short.1]
      exact ⟨rest, rfl⟩

variable [DecidableEq V]

/-- What a life has done, wherever it ended. -/
theorem Life.facts (life : Life ports path capacity before events after) :
    after = documentAfter ports.json capacity before events ∧ ∃ parts,
      Opened ports.json path capacity before parts ∧ Proper ports.json capacity events ∧
        (events = [] ∨ [.loaded parts.history.records] <+: events) ∧ StoredFirst events ∧
          AdmitsNew parts.history.records events := by
  obtain ⟨opened, started, run, cut⟩ := life
  have kept := ApplicationRuntime.run_keeps Kept.rounds started
    (fun _ _ _ _ _ restored => opened.kept restored) run
  have recorded := ApplicationRuntime.run_keeps ApplicationRuntime.recorded_rounds started
    (fun _ _ _ _ _ => ApplicationRuntime.restored_recorded) run
  have begins := begins_or_nil kept.begins cut
  obtain ⟨rest, same⟩ := cut
  have proper := kept.proper
  have first : StoredFirst _ := recorded.first
  have new := kept.alert.new
  rw [← same] at proper first new
  exact ⟨rfl, _, opened, eachAfter_of_append proper, begins, eachAfter_of_append first,
    eachAfter_of_append new⟩

/-- A save after any run leaves the document for the next start in the file store. One that fails
leaves the document that is there. -/
theorem saved_document {bundled : String} {runtime : ApplicationRuntime} {world : W} {tape : Tape W}
    {s : Ticking W} {content : PathBuf → W → Option (List UInt8)}
    (atomic : AtomicWrites ports.files content) (opened : Opened ports.json path capacity document parts)
    (started : ApplicationRuntime.startUp ports parts bundled ⟨world, []⟩ = (.ok runtime, tape))
    (run : Run (ApplicationRuntime.perform ports) (fun _ _ => True) (runtime, tape) s) :
    let saved := ApplicationRuntime.save ports s.1.pump.uploads.history s
    (saved.1 = .ok () → content s.1.history.path saved.2.2.world =
      documentAfter ports.json capacity document saved.2.2.events) ∧
    ∀ error, saved.1 = .error error →
      content s.1.history.path saved.2.2.world = content s.1.history.path s.2.world :=
  save_document atomic (ApplicationRuntime.run_keeps Kept.rounds started
    (fun _ _ _ _ _ restored => opened.kept restored) run)

/-- Every start leaves what it needs to know for the next. -/
theorem ample_careful : Careful (AmpleLife ports path capacity) (Knows ports.json capacity)
    (fun key event => ∃ job request answer, event = .enqueued job request answer ∧
      request.file.key = key)
    (fun key event => ∃ job, event = .admitted job ∧ job.record.file.key = key) := by
  constructor
  · rintro before events after ⟨life, roomy, readable⟩ key known
    obtain ⟨rfl, parts, opened, proper, begins, _, _⟩ := life.facts
    rcases begins with rfl | begins
    · exact known
    obtain ⟨record, member, rfl⟩ := List.mem_map.mp (opened.knows.mpr known)
    apply knows_held proper opened (.inr begins) readable
    apply mem_held_of_stored proper roomy
    exact ⟨_, begins.subset (List.mem_singleton_self _), record, member,
      LogFileIdentity.beq_iff.mpr rfl⟩
  · rintro before events after ⟨life, roomy, readable⟩ key event member ⟨job, request, answer, rfl, rfl⟩
    obtain ⟨rfl, parts, opened, proper, begins, first, _⟩ := life.facts
    obtain ⟨past, later, same⟩ := List.append_of_mem member
    have stored : Stored past request.file := first past _ later same job request answer rfl
    apply knows_held proper opened begins readable
    apply mem_held_of_stored proper roomy
    rw [same]
    exact stored.append _
  · rintro before events after ⟨life, roomy, readable⟩ key known event member ⟨job, rfl, rfl⟩
    obtain ⟨_, parts, opened, _, _, _, new⟩ := life.facts
    obtain ⟨record, listed, same⟩ := List.mem_map.mp (opened.knows.mpr known)
    obtain ⟨past, later, split⟩ := List.append_of_mem member
    have unforgotten : Unforgotten past := by
      intro event inside
      exact (roomy event (by rw [split]; exact List.mem_append_left _ inside)).1
    exact new past _ later split job rfl unforgotten record listed same.symm

/-- A log that a provider was asked about is not taken up again by a later life. -/
theorem logs_taken_once {lives : List (List Event)}
    (lived : Lives (AmpleLife ports path capacity) before lives after) :
    lives.Pairwise fun earlier later => ∀ job request answer,
      .enqueued job request answer ∈ earlier → ∀ job', .admitted job' ∈ later →
        (job'.record.file == request.file) = false := by
  apply (lived.handed_once ample_careful).imp
  intro earlier later apart job request answer handed job' admitted
  have different := apart request.file.key ⟨_, handed, job, request, answer, rfl, rfl⟩
    (.admitted job') admitted
  rw [← Bool.not_eq_true, LogFileIdentity.beq_iff]
  exact fun same => different ⟨job', rfl, same⟩

end lives

section samples
open ApplicationRuntime

/-- A codec for a document with one log that may be retried. -/
def retriableJson : JsonCodec where
  print _ := []
  parse _ := some { sampleWire "a.zevtc" 6 "Queued" with
    logs := (sampleWire "a.zevtc" 6 "Queued").logs.map ({ · with
      encounterMetadata := some ⟨15438, "Player.1234", none⟩ }) }

theorem two_allowed : validateCapacity 2 = .ok () := by decide

theorem retriableJson_reads : retriableJson.ReadsBack [retriableRecord] := by
  obtain ⟨path, ticks, milliseconds, -⟩ := sampleLog_wire
  intro logs written
  simp only [List.mapM_cons, List.mapM_nil, Wire.Record.encode, retriableRecord, sampleRecord, path,
    ticks, milliseconds, bind, Except.bind, pure, Except.pure] at written
  cases written
  rfl

theorem retriableRecord_normalized : [retriableRecord].map normalized = [retriableRecord] := rfl

theorem retriableJson_decodes : decodeHistory retriableJson [10] 2 = .ok [retriableRecord] := by
  have encoded : encodeHistory retriableJson [retriableRecord] 2 = .ok [10] := by decide +kernel
  have ordinary : ∀ record ∈ [retriableRecord], Ordinary record.file.canonicalPath := by
    intro record member
    rw [List.mem_singleton.mp member]
    exact sampleLog_ordinary
  have dates : ∀ record ∈ [retriableRecord], Redatable record.detectedAt := by
    intro record member
    rw [List.mem_singleton.mp member]
    exact unixEpoch_redatable
  have trip := (decodeHistory_ordinary ordinary dates retriableJson_reads encoded).1
  rwa [retriableRecord_normalized] at trip

theorem retriableParts_opened :
    Opened retriableJson retriableParts.history.path 2 (some [10]) retriableParts := by
  refine ⟨⟨Provider.all, 2, sampleOptions 2, _, rfl, rfl⟩, two_allowed, ?_⟩
  unfold load
  dsimp only
  split
  next records decoded =>
    cases retriableJson_decodes.symm.trans decoded
    rfl
  next error decoded => cases retriableJson_decodes.symm.trans decoded

theorem roomy_of_plain {events : List Event}
    (plain : (events.any fun event => event.forgets || event.isSave) = false) : Roomy events := by
  intro event member
  have none := List.any_eq_false.mp plain event member
  rw [Bool.or_eq_true, not_or] at none
  refine ⟨Bool.eq_false_of_not_eq_true none.1, ?_⟩
  rintro records trimmed rfl
  exact absurd rfl none.2

/-- What the first ticks do after a start with these clicks. -/
def startedEvents (clicks : List RecentLogAction) (ticks : Nat) : Option (List Event) :=
  (startUp (clickPorts retriableJson) retriableParts "" ⟨clicks, []⟩).1.toOption.map fun runtime =>
    ((List.replicate ticks RuntimeOp.tick).foldl (perform (clickPorts retriableJson))
      (runtime, (startUp (clickPorts retriableJson) retriableParts "" ⟨clicks, []⟩).2)).2.events

theorem startedEvents_life {clicks : List RecentLogAction} {ticks : Nat} {events all : List Event}
    (started : startedEvents clicks ticks = some all) (cut : events <+: all)
    (plain : (events.any fun event => event.forgets || event.isSave) = false) :
    AmpleLife (clickPorts retriableJson) retriableParts.history.path 2 (some [10]) events
      (some [10]) := by
  have unsaved : events.any Event.isSave = false := by
    apply List.any_eq_false.mpr
    intro event member saves
    exact List.any_eq_false.mp plain event member (by simp [saves])
  have document : documentAfter retriableJson 2 (some [10]) events = some [10] := by
    rw [documentAfter, if_neg (by simp [unsaved])]
  refine ⟨?_, roomy_of_plain plain, fun saved => by simp [unsaved] at saved⟩
  unfold startedEvents at started
  generalize start : startUp (clickPorts retriableJson) retriableParts "" ⟨clicks, []⟩ = out at started
  obtain ⟨error | runtime, tape⟩ := out
  · cases started
  · cases started
    have life := Life.mk retriableParts_opened start
      (.of_list _ _ (List.replicate ticks RuntimeOp.tick) fun _ _ _ => trivial) cut
    rwa [show documentAfter (clickPorts retriableJson).json 2 (some [10]) events = some [10]
      from document] at life

def Event.isRestored : Event → Bool
  | .restored _ => true
  | _ => false

/-- The user retries a log, and the program crashes. The next life leaves the log alone, though
it lies in the directory. -/
theorem logs_taken_once_sample : ∃ earlier later : List Event,
    (earlier.any Event.isRequest && later.any Event.isRestored) = true ∧
      ∀ job request answer, .enqueued job request answer ∈ earlier →
        ∀ job', .admitted job' ∈ later → (job'.record.file == request.file) = false := by
  have first : ((startedEvents [.retry sampleJobId .dpsReport] 1).map fun events =>
      ((events.take 3).any Event.isRequest,
        (events.take 3).any fun event => event.forgets || event.isSave)) = some (true, false) := by
    decide +kernel
  have second : ((startedEvents [] 2).map fun events =>
      (events.any Event.isRestored,
        events.any fun event => event.forgets || event.isSave)) = some (true, false) := by
    decide +kernel
  obtain ⟨all, started, facts⟩ := Option.map_eq_some_iff.mp first
  obtain ⟨all', started', facts'⟩ := Option.map_eq_some_iff.mp second
  obtain ⟨asks, plain⟩ := Prod.mk.inj facts
  obtain ⟨restores, plain'⟩ := Prod.mk.inj facts'
  have once := logs_taken_once (.cons (startedEvents_life started (List.take_prefix 3 all) plain)
    (.cons (startedEvents_life started' List.prefix_rfl plain') .none))
  refine ⟨all.take 3, all', by rw [asks, restores]; rfl, ?_⟩
  exact (List.pairwise_cons.mp once).1 all' (List.mem_singleton_self _)

end samples
end MannyUploader.Application
