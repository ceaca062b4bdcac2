import MannyUploader.Application.IngestionSteps

/-! Who awaits which result, and which job an accepted file became, over whole runs of the
ingestion coordinator and the pump. -/
namespace MannyUploader.Application
open Domain Foundation Relation

/-- What drives an ingestion coordinator: the pump that owns it, and its own operations. -/
inductive IngestionOp (W : Type)
  | pump (op : PumpOp W)
  | submit (file : LogFileIdentity) (enabled : ProviderSelection)
  | handleResult (result : MetadataResult)
  | drainMetadata (maxResults : Nat)
  | cancelAll

namespace ApplicationPump
variable {ports : PumpPorts W} {pump : ApplicationPump} {tape : Tape W}

def ingest (ports : PumpPorts W) (s : Pumping W) : IngestionOp W → Pumping W
  | .pump op => perform ports s op
  | .submit file enabled =>
    let (_, ingestion, tape) := s.1.ingestion.submit ports.uploads ports.parser file enabled s.2
    ({ s.1 with ingestion }, tape)
  | .handleResult result =>
    let (_, ingestion, tape) := s.1.ingestion.handleResult ports.uploads result s.2
    ({ s.1 with ingestion }, tape)
  | .drainMetadata maxResults =>
    let (_, ingestion, tape) := s.1.ingestion.drainMetadata ports.uploads ports.parser maxResults s.2
    ({ s.1 with ingestion }, tape)
  | .cancelAll =>
    let (ingestion, tape) := s.1.ingestion.cancelAll ports.uploads ports.parser s.2
    ({ s.1 with ingestion }, tape)

/-- The ingestion coordinator behind a pump. -/
def ingesting (s : Pumping W) : Ingesting W := (s.1.ingestion, s.2)

variable (ports) in
theorem observe_ingests (h : Correlated (pump.ingestion, tape)) (enabled : ProviderSelection)
    (observation : LogFileIdentity) :
    ReflTransGen (IngestMove ports.uploads) (pump.ingestion, tape)
      (ingesting (pump.observe ports enabled observation tape).2) := by
  unfold observe
  split
  · exact .refl
  · exact .refl
  · rename_i file discovery accepts
    have noted : IngestMove ports.uploads (pump.ingestion, tape)
        (pump.ingestion, pump.noteForgotten [file] tape) := .forgot _ _
    have submitted := LogIngestionCoordinator.submit_ingests ports.uploads ports.parser
      (noted.correlated h) file enabled
    generalize pump.ingestion.submit ports.uploads ports.parser file enabled
      (pump.noteForgotten [file] tape) = out at submitted
    obtain ⟨answer | answer, ingestion, tape'⟩ := out
    · exact .head noted submitted
    · exact .head noted submitted

variable (ports pump) in
theorem observeAll_ingests (h : Correlated (pump.ingestion, tape)) (enabled : ProviderSelection)
    (observations : List LogFileIdentity) (report : TickReport) :
    ReflTransGen (IngestMove ports.uploads) (pump.ingestion, tape)
      (ingesting (observeAll ports enabled observations report pump tape).2) := by
  induction observations generalizing report pump tape with
  | nil => exact .refl
  | cons observation rest ih =>
    unfold observeAll
    split
    · exact LogIngestionCoordinator.elapse_ingests _ _ _ _
    rename_i world _
    obtain ⟨world', asked⟩ := pump.ingestion.availableCapacity_tape ports.parser
      { tape with world }
    generalize pump.ingestion.availableCapacity ports.parser { tape with world } = answer at asked
    obtain ⟨capacity | capacity, tape'⟩ := answer
    · rw [show tape' = _ from asked]
      exact LogIngestionCoordinator.elapse_ingests _ _ _ _
    obtain rfl : tape' = { tape with world := world' } := asked
    have elapsed := LogIngestionCoordinator.elapse_ingests ports.uploads
      pump.ingestion tape world'
    dsimp only
    split
    · exact elapsed
    have observed := elapsed.trans (observe_ingests ports
      (LogIngestionCoordinator.correlated_of_moves elapsed h) enabled observation)
    generalize pump.observe ports enabled observation { tape with world := world' } = out at observed
    obtain ⟨error | submitted, pump', tape''⟩ := out
    · exact observed
    · exact observed.trans (ih pump' (LogIngestionCoordinator.correlated_of_moves observed h) _)

variable (ports) in
theorem drainWork_ingests (h : Correlated (pump.ingestion, tape)) :
    ReflTransGen (IngestMove ports.uploads) (pump.ingestion, tape)
      (ingesting (pump.drainWork ports tape).2) := by
  unfold drainWork
  split
  · exact .refl
  split
  · exact LogIngestionCoordinator.elapse_ingests _ _ _ _
  rename_i world _
  have elapsed := LogIngestionCoordinator.elapse_ingests ports.uploads pump.ingestion
    tape world
  have drained := elapsed.trans (LogIngestionCoordinator.drainMetadata_ingests
    ports.uploads ports.parser (LogIngestionCoordinator.correlated_of_moves elapsed h)
    pump.options.maxMetadataResults)
  refine (drained.tail (LogIngestionCoordinator.command_ingests ports.uploads _ _
    (.drainResults pump.options.maxUploadResults) rfl)).tail ?_
  exact LogIngestionCoordinator.command_ingests ports.uploads _ _
    (.dispatchDueRetries pump.options.maxRetries) rfl

variable (ports) in
theorem tick_ingests (h : Correlated (pump.ingestion, tape)) (enabled : ProviderSelection) :
    ReflTransGen (IngestMove ports.uploads) (pump.ingestion, tape)
      (ingesting (pump.tick ports enabled tape).2) := by
  have drained := drainWork_ingests ports h
  unfold tick
  generalize pump.drainWork ports tape = out at drained
  obtain ⟨error | report, pump', tape'⟩ := out
  · exact drained
  dsimp only
  split
  · exact drained.trans (LogIngestionCoordinator.elapse_ingests _ _ _ _)
  rename_i batch world _
  have polled : ReflTransGen (IngestMove ports.uploads) (pump.ingestion, tape)
      (pump'.ingestion, { tape' with world }) :=
    drained.trans (LogIngestionCoordinator.elapse_ingests _ _ _ world)
  exact polled.trans (observeAll_ingests ports
    { pump' with discovery := batch.removedPaths.foldl LogDiscovery.forgetPending pump'.discovery }
    (LogIngestionCoordinator.correlated_of_moves polled h) enabled _ _)

end ApplicationPump

/-- Whoever commands the coordinator behind the ingestion keeps to upload polling and
explicit replay. -/
def IngestionOp.Correlates : IngestionOp W → Prop
  | .pump (.command op) => op.isCommand = true
  | _ => True

namespace ApplicationPump
variable {ports : PumpPorts W} {pump : ApplicationPump} {tape : Tape W}

theorem noteForgotten_ingests (files : List LogFileIdentity) :
    ReflTransGen (IngestMove ports.uploads) (pump.ingestion, tape)
      (pump.ingestion, pump.noteForgotten files tape) :=
  .single (.forgot _ _)

variable (ports) in
theorem ingest_ingests {s : Pumping W} (h : Correlated (ingesting s)) (op : IngestionOp W)
    (met : op.Correlates) :
    ReflTransGen (IngestMove ports.uploads) (ingesting s) (ingesting (ingest ports s op)) := by
  obtain ⟨pump, tape⟩ := s
  cases op with
  | submit file enabled =>
    exact LogIngestionCoordinator.submit_ingests ports.uploads ports.parser h file enabled
  | handleResult result => exact LogIngestionCoordinator.handleResult_ingests ports.uploads h result
  | drainMetadata maxResults =>
    exact LogIngestionCoordinator.drainMetadata_ingests ports.uploads ports.parser h maxResults
  | cancelAll => exact LogIngestionCoordinator.cancelAll_ingests ports.uploads ports.parser h
  | pump op =>
    cases op with
    | tick enabled => exact tick_ingests ports h enabled
    | drainWork => exact drainWork_ingests ports h
    | reconfigureSource options =>
      simp only [ingest, perform, reconfigureSource]
      split
      · exact .refl
      split
      · exact LogIngestionCoordinator.elapse_ingests _ _ _ _
      · exact LogIngestionCoordinator.elapse_ingests _ _ _ _
    | setRequiredMatches requiredMatches =>
      simp only [ingest, perform, setRequiredMatches]
      split
      · exact .refl
      split
      · exact .refl
      · exact .refl
    | updateParserCapacity capacity =>
      simp only [ingest, perform, LogIngestionCoordinator.updateParserCapacity]
      split
      · exact .refl
      split
      · exact LogIngestionCoordinator.elapse_ingests _ _ _ _
      · exact LogIngestionCoordinator.elapse_ingests _ _ _ _
    | restoreHistory records =>
      simp only [ingest, perform, restoreHistory]
      split
      · exact .refl
      split <;> rename_i restored
      · obtain ⟨rfl, rfl⟩ := UploadCoordinator.restore_error restored
        exact .refl
      · exact .single (.restored records restored)
    | seedProcessedLogs files =>
      simp only [ingest, perform, seedProcessedLogs]
      split
      · exact .refl
      split
      · exact .refl
      · exact noteForgotten_ingests files
    | command op =>
      simp only [ingest, perform]
      split
      · exact .refl
      · exact .single (LogIngestionCoordinator.command_ingests ports.uploads _ _ op met)
    | cancelAll =>
      simp only [ingest, perform, cancelAll]
      split
      · exact .refl
      · exact LogIngestionCoordinator.cancelAll_ingests ports.uploads ports.parser h
    | elapse world => exact LogIngestionCoordinator.elapse_ingests _ _ _ world

end ApplicationPump

def Event.admittedFile : Event → Option LogFileIdentity
  | .admitted job => some job.record.file
  | _ => none

def Event.forgottenFile : Event → Option LogFileIdentity
  | .forgot oldest _ => some oldest
  | _ => none

def admittedFiles (events : List Event) : List LogFileIdentity :=
  events.filterMap Event.admittedFile

/-- What discovery forgot to make room. -/
def forgottenFiles (events : List Event) : List LogFileIdentity :=
  events.filterMap Event.forgottenFile

section files
variable {events more : List Event} {gone retained : List LogFileIdentity}

@[simp] theorem admittedFiles_append :
    admittedFiles (events ++ more) = admittedFiles events ++ admittedFiles more :=
  List.filterMap_append

@[simp] theorem forgottenFiles_append :
    forgottenFiles (events ++ more) = forgottenFiles events ++ forgottenFiles more :=
  List.filterMap_append

theorem admittedFiles_of_work (work : ∀ event ∈ more, event.isWork = true) :
    admittedFiles more = [] := by
  refine List.filterMap_eq_nil_iff.mpr fun event member => ?_
  have := work event member
  cases event <;> first | rfl | cases this

theorem forgottenFiles_of_work (work : ∀ event ∈ more, event.isWork = true) :
    forgottenFiles more = [] := by
  refine List.filterMap_eq_nil_iff.mpr fun event member => ?_
  have := work event member
  cases event <;> first | rfl | cases this

@[simp] theorem admittedFiles_forgot :
    admittedFiles (gone.map fun oldest => Event.forgot oldest retained) = [] := by
  simp [admittedFiles, List.filterMap_map, Event.admittedFile, Function.comp_def]

@[simp] theorem forgottenFiles_forgot :
    forgottenFiles (gone.map fun oldest => Event.forgot oldest retained) = gone := by
  simp [forgottenFiles, List.filterMap_map, Event.forgottenFile, Function.comp_def]

end files

/-- Every admission of the file is remembered or was forgotten to make room. -/
structure Balanced (file : LogFileIdentity) (d : LogDiscovery) (events : List Event) : Prop where
  tidy : d.Tidy
  balance : occurrences file (admittedFiles events) =
    occurrences file d.accepted + occurrences file (forgottenFiles events)

namespace Balanced
variable {file new : LogFileIdentity} {d d' : LogDiscovery} {events more : List Event}
  {pump : ApplicationPump} {tape : Tape W}

theorem frame (h : Balanced file d events) (accepted : d'.accepted = d.accepted)
    (known : d'.known = d.known) (work : ∀ event ∈ more, event.isWork = true) :
    Balanced file d' (events ++ more) := by
  refine ⟨⟨by rw [known, accepted]; exact h.tidy.known, by rw [accepted]; exact h.tidy.distinct⟩, ?_⟩
  simp [admittedFiles_of_work work, forgottenFiles_of_work work, accepted, h.balance]

theorem idle (h : Balanced file d events) (accepted : d'.accepted = d.accepted)
    (known : d'.known = d.known) : Balanced file d' events := by
  have quiet : ∀ event ∈ ([] : List Event), event.isWork = true := by simp
  simpa using h.frame accepted known quiet

variable (pump tape) in
theorem noted_files (files : List LogFileIdentity) :
    admittedFiles (pump.noteForgotten files tape).events = admittedFiles tape.events ∧
      forgottenFiles (pump.noteForgotten files tape).events =
        forgottenFiles tape.events ++ ApplicationPump.forgotten pump.discovery files := by
  simp [ApplicationPump.noteForgotten]

theorem forgotten_fresh (fresh : d.isKnown new = false) :
    ApplicationPump.forgotten d [new] = d.overflow.toList := by
  simp [ApplicationPump.forgotten, fresh]

variable (file) in
theorem rememberAll {files : List LogFileIdentity} (tidy : d.Tidy)
    (other : ∀ x ∈ files, (x == file) = false) :
    (files.foldl LogDiscovery.remember d).Tidy ∧
      occurrences file (files.foldl LogDiscovery.remember d).accepted +
        occurrences file (ApplicationPump.forgotten d files) = occurrences file d.accepted := by
  induction files generalizing d with
  | nil => exact ⟨tidy, rfl⟩
  | cons new rest ih =>
    obtain ⟨tidy', count⟩ := ih (d := d.remember new) tidy.remember fun x member =>
      other x (List.mem_cons_of_mem new member)
    refine ⟨tidy', ?_⟩
    rw [List.foldl_cons, ApplicationPump.forgotten, occurrences_append]
    cases fresh : d.isKnown new with
    | true =>
      rw [LogDiscovery.remember, if_pos fresh] at count ⊢
      rw [if_pos rfl, occurrences_nil]
      omega
    | false =>
      have remembered := LogDiscovery.occurrences_remember file fresh
      have none : occurrences file [new] = 0 :=
        occurrences_eq_zero (by simpa using other new (List.mem_cons_self ..))
      rw [if_neg (by simp)]
      omega

/-- Seeding files other than the one that is counted. -/
theorem seeded (h : Balanced file pump.discovery tape.events) (files : List LogFileIdentity)
    (other : ∀ x ∈ files, (x == file) = false) :
    Balanced file (files.foldl LogDiscovery.remember pump.discovery)
      (pump.noteForgotten files tape).events := by
  obtain ⟨admitted, forgotten⟩ := noted_files pump tape files
  obtain ⟨tidy, count⟩ := rememberAll file h.tidy other
  refine ⟨tidy, ?_⟩
  have balance := h.balance
  rw [admitted, forgotten, occurrences_append]
  omega

section admission
variable {job : UploadJob} {before after : List Event} (named : job.record.file = new)
  (work : ∀ event ∈ before, event.isWork = true) (work' : ∀ event ∈ after, event.isWork = true)
include named work work'

theorem admission_files : admittedFiles (before ++ .admitted job :: after) = [new] ∧
    forgottenFiles (before ++ .admitted job :: after) = [] := by
  rw [admittedFiles_append, forgottenFiles_append, admittedFiles_of_work work,
    forgottenFiles_of_work work]
  constructor
  · change job.record.file :: admittedFiles after = _
    rw [admittedFiles_of_work work', named]
  · exact (forgottenFiles_of_work work' : forgottenFiles after = [])

/-- An admission of another file. -/
theorem besides (h : Balanced file d events) (other : occurrences file [new] = 0) :
    Balanced file d (events ++ (before ++ .admitted job :: after)) := by
  obtain ⟨one, none⟩ := admission_files named work work'
  refine ⟨h.tidy, ?_⟩
  rw [admittedFiles_append, forgottenFiles_append, one, none, occurrences_append, other, h.balance,
    List.append_nil, Nat.add_zero]

/-- An acceptance that leads to an admission. -/
theorem admitted (h : Balanced file pump.discovery tape.events)
    (fresh : pump.discovery.isKnown new = false) (path : PathBuf) :
    Balanced file ((pump.discovery.remember new).forgetPending path)
      ((pump.noteForgotten [new] tape).events ++ (before ++ .admitted job :: after)) := by
  obtain ⟨admitted, forgotten⟩ := noted_files pump tape [new]
  obtain ⟨one, none⟩ := admission_files named work work'
  have remembered := LogDiscovery.occurrences_remember file fresh
  have tidy : (pump.discovery.remember new).Tidy := h.tidy.remember
  have balance := h.balance
  refine ⟨⟨tidy.known, tidy.distinct⟩, ?_⟩
  change _ = occurrences file (pump.discovery.remember new).accepted + _
  rw [admittedFiles_append, forgottenFiles_append, admitted, forgotten, one, none,
    forgotten_fresh fresh]
  simp only [occurrences_append, occurrences_nil]
  omega

end admission

/-- An acceptance that is released again. -/
theorem released (h : Balanced file pump.discovery tape.events)
    (fresh : pump.discovery.isKnown new = false) (path : PathBuf) :
    Balanced file (((pump.discovery.remember new).forgetPending path).release new)
      (pump.noteForgotten [new] tape).events := by
  obtain ⟨admitted, forgotten⟩ := noted_files pump tape [new]
  have tidy : ((pump.discovery.remember new).release new).Tidy := h.tidy.remember.release
  have balance := h.balance
  have remembered := LogDiscovery.occurrences_remember file fresh
  refine ⟨⟨tidy.known, tidy.distinct⟩, ?_⟩
  change _ = occurrences file ((pump.discovery.remember new).release new).accepted + _
  rw [admitted, forgotten, forgotten_fresh fresh, LogDiscovery.release_remember h.tidy fresh,
    occurrences_append]
  rw [LogDiscovery.remember, if_neg (by simp [fresh])] at remembered
  simp only [occurrences_append] at remembered
  omega

end Balanced

/-- An admitted job has an identifier below the counter. -/
def AdmittedBelow (s : Ingesting W) : Prop :=
  ∀ next, s.1.uploads.nextId = some next → ∀ job, .admitted job ∈ s.2.events →
    job.id.get.toNat < next.toNat

theorem AdmittedBelow.churn {ports : UploadPorts W} {i : LogIngestionCoordinator} {tape : Tape W}
    {s : Running W} (h : AdmittedBelow (i, tape))
    (churn : ReflTransGen (Churn ports anyIntent) (i.uploads, tape) s) :
    ∀ next, s.1.nextId = some next → ∀ job, .admitted job ∈ s.2.events →
      job.id.get.toNat < next.toNat := by
  obtain ⟨more, events, work⟩ := Churn.events_of_many churn
  intro next counted job member
  rw [Churn.nextId_eq churn] at counted
  rw [events, List.mem_append] at member
  rcases member with old | new
  · exact h next counted job old
  · exact absurd (work _ new) (by simp [Event.isWork])

theorem IngestMove.admittedBelow {ports : UploadPorts W} {s s' : Ingesting W}
    (move : IngestMove ports s s') (h : AdmittedBelow s) : AdmittedBelow s' := by
  cases move with
  | worked churn => exact h.churn churn
  | settled _ _ churn => exact h.churn churn
  | stopped churn => exact h.churn churn
  | forgot gone retained =>
    intro next counted job member
    rw [Tape.noteAll_events, List.mem_append] at member
    exact h next counted job (member.resolve_right (by simp))
  | @requested i tape s job file enabled churn _ _ admits =>
    intro next counted other member
    have succ := toNat_of_checkedSucc64 counted
    change _ ∈ s.2.events ++ [Event.admitted job] at member
    rw [List.mem_append, List.mem_singleton] at member
    rcases member with old | new
    · have below := h.churn churn _ admits.fresh other old
      omega
    · cases new
      omega
  | restored records restored =>
    obtain ⟨fresh, -, jobs, -, rfl, rfl⟩ := UploadCoordinator.restore_ok restored
    intro next counted job member
    rw [Tape.noteAll_events, List.mem_append] at member
    exact absurd (h 1 fresh job (member.resolve_right (by simp))) (not_below_one job.id)

namespace LogIngestionCoordinator
variable {i : LogIngestionCoordinator} {ports : UploadPorts W} {parser : ParserPorts W}
  {tape : Tape W}

variable (ports parser) in
/-- A submission admits one job or changes nothing but the outside world. -/
theorem submit_events (h : Ledger (i.uploads, tape)) (file : LogFileIdentity)
    (enabled : ProviderSelection) :
    (∃ error world, i.submit ports parser file enabled tape = (.error error, i, { tape with world })) ∨
      ∃ job before after, (i.submit ports parser file enabled tape).1 = .ok job.id ∧
        job.record.file = file ∧ (i.submit ports parser file enabled tape).2.2.events =
          tape.events ++ (before ++ .admitted job :: after) ∧
        (∀ event ∈ before, event.isWork = true) ∧ ∀ event ∈ after, event.isWork = true := by
  have cases := submit_cases ports parser h file enabled
  generalize i.submit ports parser file enabled tape = out at cases
  cases cases with
  | refused error world => exact .inl ⟨error, world, rfl⟩
  | @admitted s c tape' job pending churned admits later =>
    obtain ⟨before, events, work⟩ := Churn.events_of_many churned
    obtain ⟨after, events', work'⟩ := Churn.events_of_many later
    refine .inr ⟨job, before, after, rfl, admits.file, ?_, work, work'⟩
    change tape'.events = _
    rw [events', enrol, Tape.note_events, events]
    simp

end LogIngestionCoordinator

namespace ApplicationPump
variable {ports : PumpPorts W} {pump : ApplicationPump} {tape : Tape W}

variable (ports) in
/-- A file that discovery accepts becomes one job, or is released. -/
theorem observe_accepted (h : Ledger (pump.uploads, tape)) (enabled : ProviderSelection)
    {observation file : LogFileIdentity} {discovery : LogDiscovery}
    (accepts : pump.discovery.observe observation = .ok (some file, discovery)) :
    (∃ error world, pump.observe ports enabled observation tape =
        (.error (.ingestion error), { pump with discovery := discovery.release file },
          { pump.noteForgotten [file] tape with world })) ∨
      ∃ job before after, (pump.observe ports enabled observation tape).1 = .ok true ∧
        (pump.observe ports enabled observation tape).2.1.discovery = discovery ∧
        job.record.file = file ∧ (pump.observe ports enabled observation tape).2.2.events =
          (pump.noteForgotten [file] tape).events ++ (before ++ .admitted job :: after) ∧
        (∀ event ∈ before, event.isWork = true) ∧ ∀ event ∈ after, event.isWork = true := by
  have ledger : Ledger (pump.ingestion.uploads, pump.noteForgotten [file] tape) := h.forgot _ _
  have submitted := LogIngestionCoordinator.submit_events ports.uploads ports.parser ledger file
    enabled
  unfold observe
  rw [accepts]
  dsimp only
  rcases submitted with ⟨error, world, refused⟩ | ⟨job, before, after, admitted, named, events, work⟩
  · rw [refused]
    exact .inl ⟨error, world, rfl⟩
  · generalize pump.ingestion.submit ports.uploads ports.parser file enabled
      (pump.noteForgotten [file] tape) = out at admitted events
    obtain ⟨answer, ingestion, tape'⟩ := out
    obtain rfl : answer = .ok job.id := admitted
    exact .inr ⟨job, before, after, rfl, rfl, named, events, work⟩

variable {file : LogFileIdentity}

variable (ports) in
theorem observe_balanced (h : Ledger (pump.uploads, tape))
    (balanced : Balanced file pump.discovery tape.events) (enabled : ProviderSelection)
    (observation : LogFileIdentity) :
    Balanced file (pump.observe ports enabled observation tape).2.1.discovery
      (pump.observe ports enabled observation tape).2.2.events := by
  cases observed : pump.discovery.observe observation with
  | error error =>
    unfold observe
    rw [observed]
    exact balanced
  | ok outcome =>
    obtain ⟨_ | accepted, discovery⟩ := outcome
    · obtain ⟨same, known⟩ := LogDiscovery.observe_waits observed
      unfold observe
      rw [observed]
      exact balanced.idle same known
    · obtain ⟨rfl, -, fresh, rfl⟩ := LogDiscovery.observe_accepts observed
      rcases observe_accepted ports h enabled observed with
        ⟨error, world, refused⟩ | ⟨job, before, after, -, remembered, named, events, work, work'⟩
      · rw [refused]
        exact balanced.released fresh _
      · rw [remembered, events]
        exact balanced.admitted named work work' fresh _

variable (ports pump) in
theorem observeAll_balanced (h : Ledger (pump.uploads, tape))
    (balanced : Balanced file pump.discovery tape.events) (enabled : ProviderSelection)
    (observations : List LogFileIdentity) (report : TickReport) :
    Balanced file (observeAll ports enabled observations report pump tape).2.1.discovery
      (observeAll ports enabled observations report pump tape).2.2.events := by
  induction observations generalizing report pump tape with
  | nil => exact balanced
  | cons observation rest ih =>
    unfold observeAll
    split
    · exact balanced
    rename_i world _
    obtain ⟨world', asked⟩ := pump.ingestion.availableCapacity_tape ports.parser
      { tape with world }
    generalize pump.ingestion.availableCapacity ports.parser { tape with world } = answer at asked
    obtain ⟨capacity | capacity, tape'⟩ := answer
    · rw [show tape' = _ from asked]
      exact balanced
    obtain rfl : tape' = { tape with world := world' } := asked
    dsimp only
    split
    · exact balanced
    have elapsed : Ledger (pump.uploads, { tape with world := world' }) :=
      h.churn (.single (.elapsed world') : ReflTransGen (Churn ports.uploads anyIntent) _ _)
    have observed := observe_balanced ports elapsed balanced enabled observation
    have moves : ReflTransGen (PumpMove ports fun _ => True) _ _ :=
      observe_moves elapsed enabled observation
    have ledger := ledger_of_moves moves elapsed
    generalize pump.observe ports enabled observation { tape with world := world' } = out at observed ledger
    obtain ⟨error | submitted, pump', tape''⟩ := out
    · exact observed
    · exact ih pump' ledger observed _

variable (ports pump tape) in
theorem drainWork_balanced (balanced : Balanced file pump.discovery tape.events) :
    Balanced file (pump.drainWork ports tape).2.1.discovery
      (pump.drainWork ports tape).2.2.events := by
  obtain ⟨churn, same⟩ := drainWork_churn ports pump tape
  obtain ⟨more, events, work⟩ := Churn.events_of_many churn
  change (pump.drainWork ports tape).2.2.events = _ at events
  rw [events]
  exact balanced.frame (by rw [same]) (by rw [same]) work

variable (ports) in
theorem tick_balanced (h : Ledger (pump.uploads, tape))
    (balanced : Balanced file pump.discovery tape.events) (enabled : ProviderSelection) :
    Balanced file (pump.tick ports enabled tape).2.1.discovery
      (pump.tick ports enabled tape).2.2.events := by
  have drained := drainWork_balanced ports pump tape balanced
  have moves : ReflTransGen (PumpMove ports fun _ => True) _ _ :=
    drainWork_moves ports (fun _ => True) pump tape
  have ledger := ledger_of_moves moves h
  unfold tick
  generalize pump.drainWork ports tape = out at drained ledger
  obtain ⟨error | report, pump', tape'⟩ := out
  · exact drained
  dsimp only
  split
  · exact drained
  rename_i batch world _
  have polled : Ledger (pump'.uploads, { tape' with world }) :=
    Ledger.churn (.single (.elapsed world) : ReflTransGen (Churn ports.uploads anyIntent) _ _) ledger
  have forgets : ∀ paths : List PathBuf,
      Balanced file (paths.foldl LogDiscovery.forgetPending pump'.discovery) tape'.events := by
    intro paths
    induction paths using List.reverseRecOn with
    | nil => exact drained
    | append_singleton paths path ih =>
      rw [List.foldl_append]
      exact ih.idle rfl rfl
  exact observeAll_balanced ports
    { pump' with discovery := batch.removedPaths.foldl LogDiscovery.forgetPending pump'.discovery }
    polled (forgets batch.removedPaths) enabled _ _

end ApplicationPump

/-- The operation neither seeds the file nor submits it past discovery. -/
def IngestionOp.Leaves (file : LogFileIdentity) : IngestionOp W → Prop
  | .submit other _ => (other == file) = false
  | .pump (.seedProcessedLogs files) => ∀ other ∈ files, (other == file) = false
  | .pump (.restoreHistory records) => ∀ record ∈ records, (record.file == file) = false
  | _ => True

namespace ApplicationPump
variable {ports : PumpPorts W} {pump : ApplicationPump} {tape : Tape W} {file : LogFileIdentity}

theorem work_balanced {d : LogDiscovery} {s s' : Running W} (balanced : Balanced file d s.2.events)
    (churn : ReflTransGen (Churn ports.uploads anyIntent) s s') : Balanced file d s'.2.events := by
  obtain ⟨more, events, work⟩ := Churn.events_of_many churn
  rw [events]
  exact balanced.frame rfl rfl work

/-- Before a restore nothing was admitted, and so nothing forgotten counts. -/
theorem restored_balanced {records : List UploadJobRecord} {discovery : LogDiscovery}
    {uploads : UploadCoordinator} {tape' : Tape W}
    (below : AdmittedBelow (pump.ingestion, tape))
    (balanced : Balanced file pump.discovery tape.events)
    (seeded : pump.seedHistory records = .ok discovery)
    (restored : pump.uploads.restore records tape = (.ok (), uploads, tape'))
    (other : ∀ record ∈ records, (record.file == file) = false) :
    Balanced file discovery tape'.events := by
  obtain ⟨fresh, -, jobs, -, -, rfl⟩ := UploadCoordinator.restore_ok restored
  obtain ⟨-, -, empty, accepted, known, -, rfl⟩ := seedHistory_ok seeded
  have tidy : empty.Tidy := ⟨known.trans accepted.symm, by simp [accepted]⟩
  have others : ∀ x ∈ records.map (·.file), (x == file) = false := by
    intro x member
    obtain ⟨record, listed, rfl⟩ := List.mem_map.mp member
    exact other record listed
  obtain ⟨tidy', count⟩ := Balanced.rememberAll file tidy others
  rw [accepted, occurrences_nil] at count
  have none : admittedFiles tape.events = [] := by
    refine List.filterMap_eq_nil_iff.mpr fun event member => ?_
    cases event with
    | admitted job =>
      exact absurd (below 1 fresh job member) (not_below_one job.id)
    | _ => rfl
  have balance := balanced.balance
  rw [none, occurrences_nil] at balance
  have quiet : admittedFiles (jobs.map fun entry => Event.restored entry.job) = [] ∧
      forgottenFiles (jobs.map fun entry => Event.restored entry.job) = [] := by
    simp [admittedFiles, forgottenFiles, List.filterMap_map, Event.admittedFile,
      Event.forgottenFile, Function.comp_def]
  refine ⟨tidy', ?_⟩
  rw [Tape.noteAll_events, admittedFiles_append, forgottenFiles_append, quiet.1, quiet.2, none]
  simp only [List.append_nil, occurrences_nil]
  omega

theorem ingest_balanced {s : Pumping W} (h : Correlated (ingesting s))
    (below : AdmittedBelow (ingesting s)) (balanced : Balanced file s.1.discovery s.2.events)
    (op : IngestionOp W) (leaves : op.Leaves file) :
    Balanced file (ingest ports s op).1.discovery (ingest ports s op).2.events := by
  obtain ⟨pump, tape⟩ := s
  have ledger : Ledger (pump.uploads, tape) := h.ledger
  cases op with
  | submit other enabled =>
    have none : occurrences file [other] = 0 := occurrences_eq_zero fun x member =>
      List.mem_singleton.mp member ▸ leaves
    change Balanced file pump.discovery
      (pump.ingestion.submit ports.uploads ports.parser other enabled tape).2.2.events
    rcases LogIngestionCoordinator.submit_events ports.uploads ports.parser h.ledger other enabled with
      ⟨error, world, refused⟩ | ⟨job, before, after, -, named, events, work, work'⟩
    · rw [show pump.ingestion.submit _ _ _ _ tape = _ from refused]
      exact balanced
    · rw [show (pump.ingestion.submit _ _ _ _ tape).2.2.events = tape.events ++ _ from events]
      exact balanced.besides named work work' none
  | handleResult result =>
    exact work_balanced (s := (pump.uploads, tape)) balanced
      (LogIngestionCoordinator.handleResult_churn pump.ingestion ports.uploads tape result)
  | drainMetadata maxResults =>
    exact work_balanced (s := (pump.uploads, tape)) balanced
      (LogIngestionCoordinator.drainMetadata_churn pump.ingestion ports.uploads ports.parser tape
        maxResults)
  | cancelAll =>
    exact work_balanced (s := (pump.uploads, tape)) balanced
      (LogIngestionCoordinator.cancelAll_churn pump.ingestion ports.uploads ports.parser tape)
  | pump op =>
    cases op with
    | tick enabled => exact tick_balanced ports ledger balanced enabled
    | drainWork => exact drainWork_balanced ports pump tape balanced
    | reconfigureSource options =>
      simp only [ingest, perform, reconfigureSource]
      split
      · exact balanced
      split
      · exact balanced
      · exact balanced.idle rfl rfl
    | setRequiredMatches requiredMatches =>
      simp only [ingest, perform, setRequiredMatches]
      split
      · exact balanced
      split
      · exact balanced
      · rename_i discovery changed
        obtain ⟨accepted, known⟩ := LogDiscovery.setRequiredMatches_ok changed
        exact balanced.idle accepted known
    | updateParserCapacity capacity =>
      simp only [ingest, perform, LogIngestionCoordinator.updateParserCapacity]
      split
      · exact balanced
      split
      · exact balanced
      · exact balanced
    | restoreHistory records =>
      simp only [ingest, perform, restoreHistory]
      split
      · exact balanced
      rename_i discovery seeded
      split <;> rename_i restored
      · obtain ⟨rfl, rfl⟩ := UploadCoordinator.restore_error restored
        exact balanced
      · exact restored_balanced below balanced seeded restored leaves
    | seedProcessedLogs files =>
      simp only [ingest, perform, seedProcessedLogs]
      split
      · exact balanced
      split
      · exact balanced
      · rename_i discovery seeded
        rw [LogDiscovery.seed_ok seeded]
        exact balanced.seeded files leaves
    | command op =>
      simp only [ingest, perform]
      split
      · exact balanced
      · rename_i plain
        exact work_balanced (s := (pump.uploads, tape)) balanced
          (UploadCoordinator.perform_churn op (op.unguarded pump.uploads)
            (CoordinatorOp.plain (by simpa using plain)))
    | cancelAll =>
      simp only [ingest, perform, cancelAll]
      split
      · exact balanced
      · exact (work_balanced (s := (pump.uploads, tape)) balanced
          (LogIngestionCoordinator.cancelAll_churn pump.ingestion ports.uploads ports.parser
            tape)).idle rfl rfl
    | elapse world => exact balanced

section runs
variable {providers : List Provider} {historyLimit : Nat} {options : PumpOptions}
  {c : UploadCoordinator} {world : W} {start s : Pumping W} {id : UploadJobId}

variable (ports) in
theorem ingest_correlated (h : Correlated (ingesting s)) (op : IngestionOp W)
    (met : op.Correlates) : Correlated (ingesting (ingest ports s op)) :=
  LogIngestionCoordinator.correlated_of_moves (ingest_ingests ports h op met) h

theorem correlated_of_run (h : Correlated (ingesting start))
    (run : Run (ingest ports) (fun _ op => op.Correlates) start s) : Correlated (ingesting s) :=
  have keeps : ∀ (s : Pumping W) (op : IngestionOp W), op.Correlates →
      Correlated (ingesting s) → Correlated (ingesting (ingest ports s op)) :=
    fun _ op met h => ingest_correlated ports h op met
  run.invariant keeps h

theorem settled_of_run (h : Correlated (ingesting start)) (settled : Settled start.1.uploads id)
    (run : Run (ingest ports) (fun _ op => op.Correlates) start s) : Settled s.1.uploads id := by
  have keeps : ∀ (s : Pumping W) (op : IngestionOp W), op.Correlates →
      Correlated (ingesting s) ∧ Settled s.1.uploads id →
      Correlated (ingesting (ingest ports s op)) ∧ Settled (ingest ports s op).1.uploads id := by
    rintro s op met ⟨h, settled⟩
    refine ⟨ingest_correlated ports h op met, ?_⟩
    exact IngestMove.settled_of_moves (ingest_ingests ports h op met) settled
  exact (run.invariant keeps ⟨h, settled⟩).2

theorem balanced_of_run (h : Correlated (ingesting start)) (below : AdmittedBelow (ingesting start))
    (balanced : Balanced file start.1.discovery start.2.events)
    (run : Run (ingest ports) (fun _ op => op.Correlates ∧ op.Leaves file) start s) :
    Balanced file s.1.discovery s.2.events := by
  have keeps : ∀ (s : Pumping W) (op : IngestionOp W), op.Correlates ∧ op.Leaves file →
      Correlated (ingesting s) ∧ AdmittedBelow (ingesting s) ∧
        Balanced file s.1.discovery s.2.events →
      Correlated (ingesting (ingest ports s op)) ∧ AdmittedBelow (ingesting (ingest ports s op)) ∧
        Balanced file (ingest ports s op).1.discovery (ingest ports s op).2.events := by
    rintro s op ⟨met, leaves⟩ ⟨h, below, balanced⟩
    refine ⟨ingest_correlated ports h op met, ?_, ingest_balanced h below balanced op leaves⟩
    exact invariant_of_moves (ingest_ingests ports h op met)
      (fun _ _ move below => move.admittedBelow below) below
  exact (run.invariant keeps ⟨h, below, balanced⟩).2.2

theorem correlated_of_new (created : UploadCoordinator.new providers historyLimit = .ok c)
    (started : new (.new c) options = .ok pump) (world : W) :
    Correlated (ingesting (pump, (⟨world, []⟩ : Tape W))) := by
  obtain ⟨ingestion, -⟩ := new_ok started
  have uploads : pump.ingestion.uploads = c := by rw [ingestion]; rfl
  obtain ⟨empty, -, -, running⟩ := UploadCoordinator.new_ok created
  refine ⟨ledger_of_new created started world, ?_, ?_, fun id => ?_, fun _ => ?_⟩
  · simp [ingesting, uploads, empty]
  · change pump.ingestion.uploads.stopping = pump.ingestion.stopping
    rw [uploads, running, ingestion]
    rfl
  · change id ∈ pump.ingestion.pending ↔ id ∈ pump.ingestion.uploads.pendingIds
    rw [uploads, ingestion]
    simp [LogIngestionCoordinator.new, UploadCoordinator.pendingIds, empty]
  · rw [ingesting, ingestion]; rfl

section handled
variable {result : MetadataResult} (h : Correlated (ingesting s))
  (waits : result.jobId ∈ s.1.ingestion.pending)
include h waits

theorem handled_settles : (ingest ports s (.handleResult result)).1.ingestion.pending =
      s.1.ingestion.pending.erase result.jobId ∧
    IngestMove ports.uploads (ingesting s) (ingesting (ingest ports s (.handleResult result))) := by
  have running : s.1.ingestion.stopping = false := by
    rw [← Bool.not_eq_true]
    intro stopped
    exact absurd (h.quiet stopped ▸ waits) (Finset.notMem_empty _)
  exact LogIngestionCoordinator.handleResult_settles ports.uploads h running waits

theorem applied_once {s' : Pumping W} (later : Run (ingest ports) (fun _ op => op.Correlates)
    (ingest ports s (.handleResult result)) s') : result.jobId ∉ s'.1.ingestion.pending := by
  obtain ⟨erased, move⟩ : _ ∧ IngestMove ports.uploads _ _ := handled_settles h waits
  have h' := move.correlated h
  have settled : Settled (ingest ports s (.handleResult result)).1.uploads result.jobId := by
    refine ⟨move.issued (h.issued waits), fun listed => ?_⟩
    have again : result.jobId ∈ (ingest ports s (.handleResult result)).1.ingestion.pending :=
      (h'.pending _).mpr listed
    rw [erased] at again
    exact Finset.notMem_erase _ _ again
  intro again
  exact (settled_of_run h' settled later).ended (((correlated_of_run h' later).pending _).mp again)

end handled

theorem accepted_once (h : Correlated (ingesting s)) {observation : LogFileIdentity}
    {discovery : LogDiscovery}
    (accepts : s.1.discovery.observe observation = .ok (some file, discovery))
    (enabled : ProviderSelection) :
    (∃ error tape, s.1.observe ports enabled observation s.2 =
        (.error error, { s.1 with discovery := discovery.release file }, tape) ∧
      admittedFiles tape.events = admittedFiles s.2.events) ∨
    (s.1.observe ports enabled observation s.2).1 = .ok true ∧
      (s.1.observe ports enabled observation s.2).2.1.discovery = discovery ∧
      admittedFiles (s.1.observe ports enabled observation s.2).2.2.events =
        admittedFiles s.2.events ++ [file] := by
  obtain ⟨noted, -⟩ := Balanced.noted_files s.1 s.2 [file]
  have ledger : Ledger (s.1.uploads, s.2) := h.ledger
  rcases observe_accepted ports ledger enabled accepts with
    ⟨error, world, refused⟩ | ⟨job, before, after, admitted, kept, named, events, work, work'⟩
  · exact .inl ⟨_, _, refused, noted⟩
  · refine .inr ⟨admitted, kept, ?_⟩
    rw [events, admittedFiles_append, noted, (Balanced.admission_files named work work').1]

end runs

/-- The pending set and the flags of the jobs agree in every state, a result is applied once, a
failed submission changes no job, and a file that discovery accepts is one admission or is
released. A remembered file was admitted, and a forgotten one too. -/
theorem ingestion_correlated {providers : List Provider} {historyLimit : Nat}
    {options : PumpOptions} {c : UploadCoordinator} {world : W}
    (created : UploadCoordinator.new providers historyLimit = .ok c)
    (started : new (.new c) options = .ok pump) :
    (∀ s : Pumping W, Run (ingest ports) (fun _ op => op.Correlates) (pump, ⟨world, []⟩) s →
      (∀ id, id ∈ s.1.ingestion.pending ↔
        ∃ entry ∈ s.1.uploads.jobs, entry.metadataPending = true ∧ entry.job.id = id) ∧
      (∀ result : MetadataResult, result.jobId ∉ s.1.ingestion.pending →
        ∃ error, s.1.ingestion.handleResult ports.uploads result s.2 =
          (.error error, s.1.ingestion, s.2)) ∧
      (∀ result : MetadataResult, result.jobId ∈ s.1.ingestion.pending →
        (ingest ports s (.handleResult result)).1.ingestion.pending =
          s.1.ingestion.pending.erase result.jobId ∧
        ∀ s', Run (ingest ports) (fun _ op => op.Correlates)
          (ingest ports s (.handleResult result)) s' → result.jobId ∉ s'.1.ingestion.pending) ∧
      (∀ file enabled error ingestion tape,
        s.1.ingestion.submit ports.uploads ports.parser file enabled s.2 =
          (.error error, ingestion, tape) →
        ingestion = s.1.ingestion ∧ tape.events = s.2.events) ∧
      ∀ enabled observation file discovery,
        s.1.discovery.observe observation = .ok (some file, discovery) →
        (∃ error tape, s.1.observe ports enabled observation s.2 =
            (.error error, { s.1 with discovery := discovery.release file }, tape) ∧
          admittedFiles tape.events = admittedFiles s.2.events) ∨
        (s.1.observe ports enabled observation s.2).1 = .ok true ∧
          (s.1.observe ports enabled observation s.2).2.1.discovery = discovery ∧
          admittedFiles (s.1.observe ports enabled observation s.2).2.2.events =
            admittedFiles s.2.events ++ [file]) ∧
    ∀ (file : LogFileIdentity) (s : Pumping W),
      Run (ingest ports) (fun _ op => op.Correlates ∧ op.Leaves file) (pump, ⟨world, []⟩) s →
      occurrences file (admittedFiles s.2.events) = occurrences file s.1.discovery.accepted +
        occurrences file (forgottenFiles s.2.events) ∧
      occurrences file s.1.discovery.accepted ≤ 1 := by
  have start : Correlated (ingesting (pump, (⟨world, []⟩ : Tape W))) :=
    correlated_of_new created started world
  refine ⟨fun s run => ?_, fun file s run => ?_⟩
  · have h := correlated_of_run start run
    refine ⟨fun id => (h.pending id).trans UploadCoordinator.mem_pendingIds,
      fun result other => LogIngestionCoordinator.handleResult_rejects ports.uploads s.2 other,
      fun result waits => ?_, fun file enabled error ingestion tape failed => ?_,
      fun enabled observation file discovery accepts => ?_⟩
    · exact ⟨(handled_settles h waits).1, fun s' later => applied_once h waits later⟩
    · have ledger : Ledger (s.1.ingestion.uploads, s.2) := h.ledger
      rcases LogIngestionCoordinator.submit_events ports.uploads ports.parser ledger file enabled with
        ⟨error, world, refused⟩ | ⟨job, before, after, admitted, -⟩
      · cases refused.symm.trans failed
        exact ⟨rfl, rfl⟩
      · rw [failed] at admitted
        cases admitted
    · exact accepted_once h accepts enabled
  · have below : AdmittedBelow (ingesting (pump, (⟨world, []⟩ : Tape W))) :=
      fun _ _ _ member => absurd member List.not_mem_nil
    have tidy : pump.discovery.Tidy := by
      obtain ⟨-, accepted, known, -⟩ := new_ok started
      exact ⟨known.trans accepted.symm, by simp [accepted]⟩
    have balanced : Balanced file pump.discovery (⟨world, []⟩ : Tape W).events := by
      refine ⟨tidy, ?_⟩
      rw [(new_ok started).2.1]
      rfl
    have h := balanced_of_run start below balanced run
    exact ⟨h.balance, h.tidy.once file⟩

/-- The parser keeps the request for the one file of the directory. -/
theorem ingestion_correlated_sample :
    let s := ((scans [logNamed "a.zevtc" 1]).map IngestionOp.pump).foldl (ingest directoryPorts)
      (narrowPump, ⟨[], []⟩)
    sampleJobId ∈ s.1.ingestion.pending ∧
      (∃ entry ∈ s.1.uploads.jobs, entry.metadataPending = true ∧ entry.job.id = sampleJobId) ∧
      occurrences (logNamed "a.zevtc" 1) (admittedFiles s.2.events) =
        occurrences (logNamed "a.zevtc" 1) s.1.discovery.accepted +
          occurrences (logNamed "a.zevtc" 1) (forgottenFiles s.2.events) := by
  have met : ∀ op ∈ (scans [logNamed "a.zevtc" 1]).map IngestionOp.pump,
      op.Correlates ∧ op.Leaves (logNamed "a.zevtc" 1) := by
    simp [scans, IngestionOp.Correlates, IngestionOp.Leaves]
  have waits : sampleJobId ∈ (((scans [logNamed "a.zevtc" 1]).map IngestionOp.pump).foldl
      (ingest directoryPorts) (narrowPump, ⟨[], []⟩)).1.ingestion.pending := by decide
  obtain ⟨correlated, counted⟩ := ingestion_correlated
    (show UploadCoordinator.new Provider.all 2 = .ok (sampleStart ⟨2, by decide⟩).1 from rfl)
    (show new _ (sampleOptions 2) = .ok narrowPump from rfl)
  refine ⟨waits, ((correlated _ (.of_list (ingest directoryPorts) _ _
    fun op member _ => (met op member).1)).1 sampleJobId).mp waits, ?_⟩
  exact (counted _ _ (.of_list (ingest directoryPorts) _ _ fun op member _ => met op member)).1

end ApplicationPump
end MannyUploader.Application
