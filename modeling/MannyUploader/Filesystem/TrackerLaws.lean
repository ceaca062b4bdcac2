import MannyUploader.Application.PumpSteps
import MannyUploader.Filesystem.PollingLaws

/-! A pump over a polling source: whatever discovery waits for is a path that the source
retains, and so there is room for it. -/
namespace MannyUploader.Domain.LogDiscovery
open Filesystem

/-- The pending paths are distinct and among those retained. -/
structure Within (d : LogDiscovery) (limit : Nat) (retained : List PathBuf) : Prop where
  limit : d.pendingLimit = limit
  tracked : ∀ entry ∈ d.pending, hasPath retained entry.1 = true
  distinct : (d.pending.map fun entry => entry.1.components).Nodup

variable {d d' : LogDiscovery} {limit : Nat} {retained : List PathBuf} {file : LogFileIdentity}

theorem Within.fewer (h : d.Within limit retained) (same : d'.pendingLimit = d.pendingLimit)
    (fewer : d'.pending.Sublist d.pending) : d'.Within limit retained :=
  ⟨same.trans h.limit, fun entry member => h.tracked entry (fewer.subset member),
    h.distinct.sublist (fewer.map _)⟩

theorem Within.forgetPending (h : d.Within limit retained) (path : PathBuf) :
    (d.forgetPending path).Within limit retained :=
  h.fewer rfl List.filter_sublist

theorem Within.clearPending (h : d.Within limit retained) (retained' : List PathBuf) :
    d.clearPending.Within limit retained' :=
  ⟨h.limit, fun _ member => absurd member List.not_mem_nil, .nil⟩

theorem Within.insertPending (h : d.Within limit retained)
    (seen : hasPath retained file.canonicalPath = true) (matched : Nat) :
    (d.insertPending file matched).Within limit retained := by
  unfold LogDiscovery.insertPending
  split
  · -- The entry of this path is replaced in its place, under the path that was there.
    refine ⟨h.limit, fun entry member => ?_, ?_⟩
    · obtain ⟨old, there, rfl⟩ := List.mem_map.mp member
      have tracked := h.tracked old there
      split
      · exact tracked
      · exact tracked
    · rw [List.map_map]
      refine (List.map_congr_left fun old _ => ?_) ▸ h.distinct
      dsimp only [Function.comp]
      split
      · rfl
      · rfl
  next absent =>
    refine ⟨h.limit, fun entry member => ?_, ?_⟩
    · rcases List.mem_append.mp member with old | new
      · exact h.tracked entry old
      · rw [List.mem_singleton.mp new]
        exact seen
    · rw [List.map_append, List.nodup_append]
      refine ⟨h.distinct, by simp, fun old there new added => ?_⟩
      obtain ⟨entry, member, rfl⟩ := List.mem_map.mp there
      rw [List.map_singleton, List.mem_singleton] at added
      rintro rfl
      refine absent (List.any_eq_true.mpr ⟨entry, member, ?_⟩)
      exact PathBuf.same_iff.mpr added

theorem Within.remember (h : d.Within limit retained) (file : LogFileIdentity) :
    (d.remember file).Within limit retained := by
  obtain ⟨pending, same⟩ := remember_pending d file
  exact h.fewer same (pending ▸ .refl _)

theorem Within.rememberAll (h : d.Within limit retained) (files : List LogFileIdentity) :
    (files.foldl LogDiscovery.remember d).Within limit retained := by
  induction files generalizing d with
  | nil => exact h
  | cons file rest ih => exact ih (h.remember file)

/-- A path that is retained but not pending leaves one more place than are taken. -/
theorem Within.free (h : d.Within limit retained) (room : retained.length ≤ limit)
    (seen : hasPath retained file.canonicalPath = true)
    (absent : d.pendingAt file.canonicalPath = none) : d.pending.length < d.pendingLimit := by
  have other : ∀ entry ∈ d.pending, entry.1.components ≠ file.canonicalPath.components := by
    intro entry member same
    have found := List.find?_eq_none.mp (Option.map_eq_none_iff.mp absent) entry member
    exact found (PathBuf.same_iff.mpr same)
  have distinct : (file.canonicalPath.components ::
      d.pending.map fun entry => entry.1.components).Nodup := by
    refine List.nodup_cons.mpr ⟨fun member => ?_, h.distinct⟩
    obtain ⟨entry, there, same⟩ := List.mem_map.mp member
    exact other entry there same
  have within : (file.canonicalPath.components :: d.pending.map fun entry => entry.1.components) ⊆
      retained.map PathBuf.components := by
    have kept : ∀ path, hasPath retained path = true →
        path.components ∈ retained.map PathBuf.components := by
      intro path tracked
      obtain ⟨other, member, same⟩ := hasPath_iff.mp tracked
      exact List.mem_map.mpr ⟨other, member, same⟩
    intro key member
    rcases List.mem_cons.mp member with rfl | old
    · exact kept _ seen
    · obtain ⟨entry, there, rfl⟩ := List.mem_map.mp old
      exact kept _ (h.tracked entry there)
  have few := (distinct.subperm within).length_le
  rw [List.length_cons, List.length_map, List.length_map] at few
  rw [h.limit]
  omega

theorem Within.countMatches (h : d.Within limit retained) (room : retained.length ≤ limit)
    (seen : hasPath retained file.canonicalPath = true) :
    ∃ matched, d.countMatches file = .ok matched := by
  unfold LogDiscovery.countMatches
  split
  · exact ⟨_, rfl⟩
  next absent =>
    have free := h.free room seen absent
    exact ⟨1, if_neg (by omega)⟩

theorem validate_error {error : DiscoveryError} (refused : validate file = .error error) :
    error = .invalidCandidate := by
  unfold validate at refused
  split at refused
  · cases refused; rfl
  · cases refused

/-- The observation of a retained path always finds room. -/
theorem Within.observe_room (h : d.Within limit retained) (room : retained.length ≤ limit)
    (seen : hasPath retained file.canonicalPath = true) :
    d.observe file ≠ .error .resourceLimit := by
  obtain ⟨matched, counted⟩ := h.countMatches room seen
  unfold LogDiscovery.observe
  rw [counted]
  cases valid : validate file with
  | error error =>
    rw [validate_error valid]
    intro refused
    cases refused
  | ok =>
    simp only [bind, Except.bind]
    split
    · intro refused; cases refused
    · split
      · intro refused; cases refused
      · intro refused; cases refused

theorem Within.observe {accepted : Option LogFileIdentity} (h : d.Within limit retained)
    (seen : hasPath retained file.canonicalPath = true)
    (observed : d.observe file = .ok (accepted, d')) : d'.Within limit retained := by
  unfold LogDiscovery.observe at observed
  obtain ⟨_, -, observed⟩ := Foundation.bind_ok observed
  split at observed
  · cases observed
    exact h.forgetPending _
  · obtain ⟨matched, -, observed⟩ := Foundation.bind_ok observed
    split at observed
    · cases observed
      exact h.insertPending seen matched
    · cases observed
      exact (h.remember file).forgetPending _

end MannyUploader.Domain.LogDiscovery

namespace MannyUploader.Filesystem
open Application Domain Foundation

/-- A pump over a polling source. -/
structure PolledPump (W : Type) where
  pump : ApplicationPump
  source : PollingLogSource
  tape : Tape W

section paths

theorem hasPath_congr {left right : PathBuf} (set : List PathBuf)
    (same : left.components = right.components) : hasPath set left = hasPath set right := by
  rw [Bool.eq_iff_iff, hasPath_iff, hasPath_iff, same]

theorem hasPath_insertAll (paths set : List PathBuf) (path : PathBuf) :
    hasPath (paths.foldl insertPath set) path = (hasPath set path || hasPath paths path) := by
  induction paths generalizing set with
  | nil => simp [hasPath]
  | cons first rest ih =>
    rw [List.foldl_cons, ih, hasPath_insert, Bool.or_assoc]
    rfl

theorem length_insertAll (paths set : List PathBuf) :
    (paths.foldl insertPath set).length ≤ set.length + (differencePaths paths set).length := by
  induction paths generalizing set with
  | nil => exact Nat.le_add_right _ _
  | cons first rest ih =>
    have fewer : (differencePaths rest (insertPath set first)).length ≤
        (differencePaths rest set).length := by
      refine (List.monotone_filter_right rest fun path absent => ?_).length_le
      rw [hasPath_insert] at absent
      simp only [Bool.not_or, Bool.and_eq_true] at absent
      exact absent.1
    have inserted := length_insert set first
    have others := ih (insertPath set first)
    rw [List.foldl_cons]
    cases there : hasPath set first with
    | true =>
      have same : differencePaths (first :: rest) set = differencePaths rest set := by
        simp [differencePaths, there]
      rw [if_pos there] at inserted
      rw [same]
      omega
    | false =>
      have more : differencePaths (first :: rest) set = first :: differencePaths rest set := by
        simp [differencePaths, there]
      rw [if_neg (by simp [there])] at inserted
      rw [more, List.length_cons]
      omega

end paths

section poll
variable {source source' : PollingLogSource} {stop : Nat → Bool} {root : RootReading}
  {batch : CandidateBatch} {d : LogDiscovery} {limit : Nat}

theorem poll_seen (polled : source.poll stop root = (.ok batch, source')) :
    ∀ file ∈ batch.observations, hasPath source'.retained file.canonicalPath = true := by
  intro file member
  have seen : hasPath (PollingLogSource.seenPaths batch) file.canonicalPath = true := by
    rw [PollingLogSource.seenPaths, hasPath_collect]
    exact hasPath_of_mem (List.mem_map_of_mem member)
  obtain ⟨-, -, -, ⟨-, -, retained⟩ | ⟨-, -, -, retained⟩⟩ := PollingLogSource.poll_ok polled
  · rw [retained, seen]
  · rw [retained, hasPath_insertAll, seen, Bool.or_true]

theorem poll_bounded (polled : source.poll stop root = (.ok batch, source')) :
    source'.retained.length ≤ source'.options.maxCandidates := by
  obtain ⟨options, ⟨eligible, counted, bounded⟩, -, ⟨-, -, retained⟩ | ⟨-, -, room, retained⟩⟩ :=
    PollingLogSource.poll_ok polled
  · have few := length_collect (batch.observations.map (·.canonicalPath))
    rw [List.length_map] at few
    rw [retained, options, PollingLogSource.seenPaths]
    omega
  · have few := length_insertAll (PollingLogSource.seenPaths batch) source.retained
    rw [retained, options]
    omega

theorem forgetAll_within {retained : List PathBuf} (h : d.Within limit retained)
    (paths : List PathBuf) : (paths.foldl LogDiscovery.forgetPending d).Within limit retained ∧
      ∀ entry ∈ (paths.foldl LogDiscovery.forgetPending d).pending, hasPath paths entry.1 = false := by
  induction paths using List.reverseRecOn with
  | nil => exact ⟨h, fun _ _ => rfl⟩
  | append_singleton paths path ih =>
    rw [List.foldl_append]
    refine ⟨ih.1.forgetPending path, fun entry member => ?_⟩
    obtain ⟨there, other⟩ := List.mem_filter.mp member
    rw [Bool.not_eq_eq_eq_not, Bool.not_true] at other
    have different : path.same entry.1 = false := by
      rw [← Bool.not_eq_true, PathBuf.same_iff] at other ⊢
      exact fun same => other same.symm
    rw [hasPath, List.any_append, List.any_cons, different]
    simpa [hasPath] using ih.2 entry there

/-- Once the removed paths are forgotten, discovery is within what the poll retained. -/
theorem poll_within (h : d.Within limit source.retained)
    (polled : source.poll stop root = (.ok batch, source')) :
    (batch.removedPaths.foldl LogDiscovery.forgetPending d).Within limit source'.retained := by
  obtain ⟨within, absent⟩ := forgetAll_within h batch.removedPaths
  refine ⟨within.limit, fun entry member => ?_, within.distinct⟩
  have before := within.tracked entry member
  obtain ⟨-, -, -, ⟨-, removed, retained⟩ | ⟨-, -, -, retained⟩⟩ := PollingLogSource.poll_ok polled
  · obtain ⟨path, there, same⟩ := hasPath_iff.mp before
    rw [retained, ← hasPath_congr _ same]
    by_contra missing
    have reported : path ∈ batch.removedPaths := by
      rw [removed]
      exact List.mem_filter.mpr ⟨there, by simpa using missing⟩
    have found : hasPath batch.removedPaths entry.1 = true :=
      hasPath_iff.mpr ⟨path, reported, same⟩
    rw [absent entry member] at found
    contradiction
  · rw [retained, hasPath_insertAll, before, Bool.true_or]

end poll

section tick
variable {ports : PumpPorts W} {pump : ApplicationPump} {tape : Tape W} {limit : Nat}
  {retained : List PathBuf}

/-- No want of pending space, a pump within the retained paths, and its options. -/
structure Kept (limit : Nat) (retained : List PathBuf) (options : PumpOptions)
    (result : Except PumpError α) (pump : ApplicationPump) : Prop where
  room : ∀ error, result = .error error → error ≠ .discovery .resourceLimit
  within : pump.discovery.Within limit retained
  options : pump.options = options

theorem Kept.after {options options' : PumpOptions} {result : Except PumpError α}
    (h : Kept limit retained options result pump) (same : options = options') :
    Kept limit retained options' result pump :=
  ⟨h.room, h.within, h.options.trans same⟩

variable (ports tape) in
theorem drainWork_kept (h : pump.discovery.Within limit retained) :
    Kept limit retained pump.options (pump.drainWork ports tape).1
      (pump.drainWork ports tape).2.1 := by
  have same := (ApplicationPump.drainWork_churn ports pump tape).2
  refine ⟨?_, same ▸ h, ?_⟩
  all_goals
    unfold ApplicationPump.drainWork
    split
    · simp
    · split
      · simp
      · simp

variable (ports tape) in
theorem observe_kept (h : pump.discovery.Within limit retained)
    (room : retained.length ≤ limit) {file : LogFileIdentity}
    (seen : hasPath retained file.canonicalPath = true) (enabled : ProviderSelection) :
    Kept limit retained pump.options (pump.observe ports enabled file tape).1
      (pump.observe ports enabled file tape).2.1 := by
  unfold ApplicationPump.observe
  split
  next error refused =>
    refine ⟨fun _ same full => ?_, h, rfl⟩
    cases same
    cases full
    exact h.observe_room room seen refused
  next discovery observed => exact ⟨by simp, h.observe seen observed, rfl⟩
  next accepted discovery observed =>
    have later := h.observe seen observed
    split
    · exact ⟨by simp, later.fewer rfl (.refl _), rfl⟩
    · exact ⟨by simp, later, rfl⟩

theorem observeAll_kept (h : pump.discovery.Within limit retained)
    (room : retained.length ≤ limit) (enabled : ProviderSelection)
    {observations : List LogFileIdentity}
    (seen : ∀ file ∈ observations, hasPath retained file.canonicalPath = true)
    (report : TickReport) :
    Kept limit retained pump.options
      (ApplicationPump.observeAll ports enabled observations report pump tape).1
      (ApplicationPump.observeAll ports enabled observations report pump tape).2.1 := by
  induction observations generalizing report pump tape with
  | nil => exact ⟨by simp [ApplicationPump.observeAll], h, rfl⟩
  | cons file rest ih =>
    unfold ApplicationPump.observeAll
    split
    · exact ⟨by simp, h, rfl⟩
    split
    · exact ⟨by simp, h, rfl⟩
    split
    · exact ⟨by simp, h, rfl⟩
    next tape _ _ =>
    have one := observe_kept ports tape h room (seen file (by simp)) enabled
    split
    next refused =>
      rw [refused] at one
      exact ⟨fun error same => one.room error (by cases same; rfl), one.within, one.options⟩
    next accepted =>
      rw [accepted] at one
      exact (ih one.within (fun other member => seen other (by simp [member])) _).after one.options

end tick

section run
variable {W : Type} (ports : PumpPorts W) (system : W → FileSystem)

/-- The source answers from the file system; its calls take the time they take. -/
def overSource (source : PollingLogSource) : PumpPorts W :=
  { ports with source := { ports.source with
      poll := fun world =>
        ((source.poll (system world).stop (system world).root).1, (ports.source.poll world).2)
      reconfigure := fun options world =>
        ((source.reconfigure options (system world).absolute).1,
          (ports.source.reconfigure options world).2) } }

/-- The source after an operation: a tick polls it once, behind the work that is drained. -/
def sourceAfter (s : PolledPump W) : PumpOp W → PollingLogSource
  | .tick _ =>
    match s.pump.drainWork (overSource ports system s.source) s.tape with
    | (.ok _, _, tape) => (s.source.poll (system tape.world).stop (system tape.world).root).2
    | (.error _, _, _) => s.source
  | .reconfigureSource options =>
    if s.pump.stopping then s.source
    else (s.source.reconfigure options (system s.tape.world).absolute).2
  | _ => s.source

def PolledPump.perform (s : PolledPump W) (op : PumpOp W) : PolledPump W :=
  let next := ApplicationPump.perform (overSource ports system s.source) (s.pump, s.tape) op
  { pump := next.1, source := sourceAfter ports system s op, tape := next.2 }

/-- A reconfiguration stays within the pending limit of the pump. -/
def FitsPump (s : PolledPump W) : PumpOp W → Prop
  | .reconfigureSource options => options.maxCandidates ≤ s.pump.options.pendingLimit
  | _ => True

/-- Discovery waits for retained paths only, and there is room for all of these. -/
structure InTrack (limit : Nat) (s : PolledPump W) : Prop where
  configured : s.pump.options.pendingLimit = limit
  within : s.pump.discovery.Within limit s.source.retained
  bounded : s.source.retained.length ≤ s.source.options.maxCandidates
  fits : s.source.options.maxCandidates ≤ limit

variable {ports system} {limit : Nat} {s : PolledPump W}

/-- A tick forgets what the poll removed before it observes what the poll found. -/
theorem InTrack.tick (h : InTrack limit s) (enabled : ProviderSelection) :
    InTrack limit (s.perform ports system (.tick enabled)) ∧
      (s.pump.tick (overSource ports system s.source) enabled s.tape).1 ≠
        .error (.discovery .resourceLimit) := by
  have ticked : Kept limit (sourceAfter ports system s (.tick enabled)).retained s.pump.options
      (s.pump.tick (overSource ports system s.source) enabled s.tape).1
      (s.pump.tick (overSource ports system s.source) enabled s.tape).2.1 ∧
      (sourceAfter ports system s (.tick enabled)).retained.length ≤
        (sourceAfter ports system s (.tick enabled)).options.maxCandidates ∧
      (sourceAfter ports system s (.tick enabled)).options = s.source.options := by
    have drained := drainWork_kept (overSource ports system s.source) s.tape h.within
    simp only [ApplicationPump.tick, sourceAfter]
    generalize s.pump.drainWork (overSource ports system s.source) s.tape = out at drained ⊢
    obtain ⟨error | report, pump, tape⟩ := out
    · exact ⟨⟨fun _ same => drained.room _ (by cases same; rfl), drained.within, drained.options⟩,
        h.bounded, rfl⟩
    · simp only [overSource]
      generalize polled : s.source.poll (system tape.world).stop (system tape.world).root = answer
      obtain ⟨error | batch, source⟩ := answer
      · obtain rfl := PollingLogSource.poll_error polled
        exact ⟨⟨by simp, drained.within, drained.options⟩, h.bounded, rfl⟩
      · have options := (PollingLogSource.poll_ok polled).1
        have bounded := poll_bounded polled
        have room : source.retained.length ≤ limit := bounded.trans (options ▸ h.fits)
        exact ⟨(observeAll_kept (poll_within drained.within polled) room enabled (poll_seen polled)
          _).after drained.options, bounded, options⟩
  obtain ⟨kept, bounded, options⟩ := ticked
  exact ⟨⟨kept.options ▸ h.configured, kept.within, bounded, options ▸ h.fits⟩,
    fun full => kept.room _ full rfl⟩

/-- A new discovery waits for nothing. -/
theorem newDiscovery_within {options : PumpOptions} {discovery : LogDiscovery}
    (created : ApplicationPump.newDiscovery options = .ok discovery) (retained : List PathBuf) :
    discovery.Within options.pendingLimit retained := by
  have created := ApplicationPump.mapErr_ok created
  unfold LogDiscovery.new at created
  split at created
  · cases created
    exact ⟨rfl, fun _ member => absurd member List.not_mem_nil, .nil⟩
  · cases created

theorem seedHistory_within {pump : ApplicationPump} {records : List UploadJobRecord}
    {discovery : LogDiscovery} (seeded : pump.seedHistory records = .ok discovery)
    (retained : List PathBuf) : discovery.Within pump.options.pendingLimit retained := by
  unfold ApplicationPump.seedHistory at seeded
  split at seeded
  · cases seeded
  split at seeded
  · cases seeded
  obtain ⟨empty, created, seeded⟩ := bind_ok seeded
  rw [LogDiscovery.seed_ok (ApplicationPump.mapErr_ok seeded)]
  exact (newDiscovery_within created retained).rememberAll _

/-- An operation that leaves the source alone need only keep discovery within its paths. -/
theorem InTrack.kept (h : InTrack limit s) {pump : ApplicationPump} {tape : Tape W}
    (options : pump.options.pendingLimit = s.pump.options.pendingLimit)
    (within : pump.discovery.Within limit s.source.retained) :
    InTrack limit ⟨pump, s.source, tape⟩ :=
  ⟨options.trans h.configured, within, h.bounded, h.fits⟩

theorem InTrack.reconfigureSource (h : InTrack limit s) {options : CandidateSourceOptions}
    (fits : options.maxCandidates ≤ s.pump.options.pendingLimit) :
    InTrack limit (s.perform ports system (.reconfigureSource options)) := by
  simp only [PolledPump.perform, ApplicationPump.perform, ApplicationPump.reconfigureSource,
    sourceAfter]
  split
  · exact h
  · simp only [overSource]
    cases outcome : (s.source.reconfigure options (system s.tape.world).absolute).1 with
    | error error =>
      rw [reconfigure_preserves outcome]
      exact h.kept rfl h.within
    | ok =>
      simp only [PollingLogSource.reconfigure, PollingLogSource.new] at outcome ⊢
      split at outcome
      · contradiction
      next source created =>
        split at created
        · contradiction
        · split at created
          · contradiction
          next root =>
            cases created
            rw [h.configured] at fits
            exact ⟨h.configured, h.within.clearPending [], Nat.zero_le _, fits⟩

theorem InTrack.step (h : InTrack limit s) {op : PumpOp W} (fits : FitsPump s op) :
    InTrack limit (s.perform ports system op) := by
  cases op with
  | tick enabled => exact (h.tick enabled).1
  | drainWork =>
    have drained := drainWork_kept (overSource ports system s.source) s.tape h.within
    exact h.kept (congrArg PumpOptions.pendingLimit drained.options) drained.within
  | reconfigureSource options => exact h.reconfigureSource fits
  | setRequiredMatches requiredMatches =>
    simp only [PolledPump.perform, ApplicationPump.perform, ApplicationPump.setRequiredMatches]
    split
    · exact h
    · split
      · exact h
      next discovery changed =>
        unfold LogDiscovery.setRequiredMatches at changed
        split at changed
        · cases changed
          exact h.kept rfl ⟨h.within.limit, fun _ member => absurd member List.not_mem_nil, .nil⟩
        · cases changed
  | updateParserCapacity capacity => exact h.kept rfl h.within
  | restoreHistory records =>
    simp only [PolledPump.perform, ApplicationPump.perform, ApplicationPump.restoreHistory]
    split
    · exact h
    next discovery seeded =>
      split
      · exact h.kept rfl h.within
      · exact h.kept rfl (h.configured ▸ seedHistory_within seeded _)
  | seedProcessedLogs files =>
    simp only [PolledPump.perform, ApplicationPump.perform, ApplicationPump.seedProcessedLogs]
    split
    · exact h
    · split
      · exact h
      next discovery seeded =>
        rw [LogDiscovery.seed_ok seeded]
        exact h.kept rfl (h.within.rememberAll files)
  | command op =>
    simp only [PolledPump.perform, ApplicationPump.perform]
    split
    · exact h
    · exact h.kept rfl h.within
  | cancelAll =>
    simp only [PolledPump.perform, ApplicationPump.perform, ApplicationPump.cancelAll]
    split
    · exact h
    · exact h.kept rfl (h.within.clearPending _)
  | elapse world => exact h.kept rfl h.within

theorem InTrack.of_new {ingestion : LogIngestionCoordinator} {options : PumpOptions}
    {sourceOptions : CandidateSourceOptions} {absolute : Option PathBuf}
    (created : ApplicationPump.new ingestion options = .ok s.pump)
    (opened : PollingLogSource.new sourceOptions absolute = .ok s.source)
    (few : sourceOptions.maxCandidates ≤ options.pendingLimit) :
    InTrack options.pendingLimit s := by
  have configured := (ApplicationPump.new_ok created).2.2.2.2
  have within : s.pump.discovery.Within options.pendingLimit s.source.retained := by
    unfold ApplicationPump.new at created
    split at created
    · cases created
    obtain ⟨discovery, empty, created⟩ := bind_ok created
    have waiting := newDiscovery_within empty s.source.retained
    cases pump : s.pump
    rw [pump] at created
    cases created
    exact waiting
  unfold PollingLogSource.new at opened
  split at opened
  · cases opened
  · split at opened
    · cases opened
    next root =>
      have source := Except.ok.inj opened
      refine ⟨by rw [configured], within, ?_, ?_⟩
      · rw [← source]
        exact Nat.zero_le _
      · rw [← source]
        exact few

/-- The retained paths that a batch does not observe. -/
def missingPaths (retained : List PathBuf) (batch : CandidateBatch) : List PathBuf :=
  retained.filter fun path => !batch.observations.any fun file => file.canonicalPath.same path

theorem poll_removed {source source' : PollingLogSource} {stop : Nat → Bool} {root : RootReading}
    {batch : CandidateBatch} (polled : source.poll stop root = (.ok batch, source')) :
    batch.removedPaths = if !batch.rootAvailable || batch.scanComplete then
      missingPaths source.retained batch else [] := by
  obtain ⟨-, -, -, ⟨whole, removed, -⟩ | ⟨part, removed, -⟩⟩ := PollingLogSource.poll_ok polled
  · rw [if_pos whole, removed, differencePaths, missingPaths]
    refine List.filter_congr fun path _ => ?_
    rw [PollingLogSource.seenPaths, hasPath_collect, hasPath, List.any_map]
    rfl
  · rw [if_neg (by simp [part]), removed]

/-- In every run discovery waits only for paths that the source retains, for which it always
has room. A poll removes what is missing from a whole scan, and nothing otherwise. -/
theorem source_in_step {start : PolledPump W} {ingestion : LogIngestionCoordinator}
    {options : PumpOptions} {sourceOptions : CandidateSourceOptions} {absolute : Option PathBuf}
    (created : ApplicationPump.new ingestion options = .ok start.pump)
    (opened : PollingLogSource.new sourceOptions absolute = .ok start.source)
    (few : sourceOptions.maxCandidates ≤ options.pendingLimit)
    (run : Run (PolledPump.perform ports system) FitsPump start s) :
    (∀ entry ∈ s.pump.discovery.pending, hasPath s.source.retained entry.1 = true) ∧
      s.source.retained.length ≤ s.source.options.maxCandidates ∧
      (∀ enabled, (s.pump.tick (overSource ports system s.source) enabled s.tape).1 ≠
        .error (.discovery .resourceLimit)) ∧
      ∀ stop root batch source, s.source.poll stop root = (.ok batch, source) →
        batch.removedPaths = if !batch.rootAvailable || batch.scanComplete then
          missingPaths s.source.retained batch else [] := by
  have h : InTrack options.pendingLimit s :=
    run.invariant (fun _ _ fits h => h.step fits) (.of_new created opened few)
  exact ⟨h.within.tracked, h.bounded, fun enabled => (h.tick enabled).2,
    fun _ _ _ _ polled => poll_removed polled⟩

end run

def sampleWatch : PolledPump (List LogFileIdentity) where
  pump := narrowPump
  source := sampleSource
  tape := { world := [], events := [] }

/-- A tick finds the log. -/
def sampleFound : PolledPump (List LogFileIdentity) :=
  sampleWatch.perform directoryPorts (fun _ => sampleSystem) (.tick allEnabled)

/-- The log is gone. -/
def emptiedSystem : FileSystem := { sampleSystem with root := .directory (some []) }

def emptiedBatch : CandidateBatch :=
  { sampleBatch with observations := [], removedPaths := [(sampleLog 1).canonicalPath] }

theorem emptiedBatch_polled :
    sampleFound.source.poll emptiedSystem.stop emptiedSystem.root = (.ok emptiedBatch, sampleSource) := by
  have options : sampleFound.source.options = sampleSource.options := by decide +kernel
  have retained : sampleFound.source.retained = [(sampleLog 1).canonicalPath] := by
    decide +kernel
  have scanned : sampleFound.source.scan emptiedSystem.stop emptiedSystem.root =
      .ok { sampleBatch with observations := [] } := by
    simp [PollingLogSource.scan, emptiedSystem, sampleSystem, scanStack, maxEntries, options,
      sampleSource, sampleBatch]
  simp only [PollingLogSource.poll, scanned]
  simp [reconcile, sampleBatch, sortIssues, collectPaths, dedupNeighbours, options, retained]
  exact ⟨rfl, rfl⟩

/-- After the tick the log is pending and retained. The next poll removes it. -/
theorem source_in_step_sample :
    sampleFound.pump.discovery.pending.map (·.1) = [(sampleLog 1).canonicalPath] ∧
    (∀ entry ∈ sampleFound.pump.discovery.pending,
      hasPath sampleFound.source.retained entry.1 = true) ∧
    sampleFound.source.retained.length ≤ sampleFound.source.options.maxCandidates ∧
    (sampleFound.pump.tick (overSource directoryPorts (fun _ => sampleSystem) sampleFound.source)
      allEnabled sampleFound.tape).1 ≠ .error (.discovery .resourceLimit) ∧
    emptiedBatch.removedPaths = if !emptiedBatch.rootAvailable || emptiedBatch.scanComplete then
      missingPaths sampleFound.source.retained emptiedBatch else [] := by
  have created : ApplicationPump.new narrowPump.ingestion (sampleOptions 2) =
      .ok sampleWatch.pump := rfl
  have opened : PollingLogSource.new sampleSource.options sampleSystem.absolute =
      .ok sampleWatch.source := rfl
  have run : Run (PolledPump.perform directoryPorts fun _ => sampleSystem) FitsPump sampleWatch
      sampleFound := .step _ .refl trivial
  obtain ⟨tracked, bounded, roomy, removes⟩ := source_in_step created opened (by decide) run
  exact ⟨by decide +kernel, tracked, bounded, roomy allEnabled,
    removes _ _ _ _ emptiedBatch_polled⟩

end MannyUploader.Filesystem
