import MannyUploader.Filesystem.NotificationLaws

/-! What a scan and its reconciliation with the retained paths give. -/
namespace MannyUploader.Filesystem
open Application Domain Foundation

/-- A batch in the course of a scan that found this many eligible files. -/
structure Scanned (options : CandidateSourceOptions) (eligible : Nat) (batch : CandidateBatch) :
    Prop where
  counted : batch.observations.length ≤ eligible
  bounded : eligible ≤ options.maxCandidates
  unreported : batch.removedPaths = []
  undisturbed : batch.scanComplete = true → batch.issues = []

section scan
variable {options : CandidateSourceOptions} {eligible : Nat} {batch : CandidateBatch}

theorem Scanned.addIssue (h : Scanned options eligible batch) (issue : CandidateIssue) :
    Scanned options eligible (addIssue batch issue) :=
  ⟨h.counted, h.bounded, h.unreported, fun complete => nomatch complete⟩

theorem Scanned.observeFile (h : Scanned options eligible batch)
    (room : ¬ eligible + 1 > options.maxCandidates) (time : SystemTime)
    (canonical : Option PathBuf) (size : UInt64) :
    Scanned options (eligible + 1) (observeFile batch time canonical size) := by
  have counted := h.counted
  cases canonical with
  | none =>
    exact Scanned.addIssue ⟨by omega, by omega, h.unreported, h.undisturbed⟩ _
  | some path =>
    refine ⟨?_, by omega, h.unreported, h.undisturbed⟩
    simp only [Filesystem.observeFile, List.length_append, List.length_singleton]
    omega

theorem observeFile_root (time : SystemTime) (canonical : Option PathBuf) (size : UInt64) :
    (observeFile batch time canonical size).rootAvailable = batch.rootAvailable := by
  cases canonical <;> rfl

theorem scanStack_ok {stop : Nat → Bool} {budget check : Nat} {stack : List (List EntryReading)}
    {result : CandidateBatch} (h : Scanned options eligible batch)
    (scanned : scanStack options stop budget check stack eligible batch = .ok result) :
    (∃ eligible', Scanned options eligible' result) ∧
      result.rootAvailable = batch.rootAvailable := by
  fun_induction scanStack options stop budget check stack eligible batch
  all_goals first
    | contradiction
    | (cases scanned; exact ⟨⟨_, h⟩, rfl⟩)
    | (rename_i ih; exact ih h scanned)
    | (rename_i ih; exact ih (h.addIssue _) scanned)
    | (rename_i room ih
       obtain ⟨found, root⟩ := ih (h.observeFile room _ _ _) scanned
       exact ⟨found, root.trans (observeFile_root _ _ _)⟩)

end scan

section paths

theorem hasPath_iff {set : List PathBuf} {path : PathBuf} :
    hasPath set path = true ↔ ∃ other ∈ set, other.components = path.components := by
  simp [hasPath, PathBuf.same_iff]

theorem hasPath_of_mem {set : List PathBuf} {path : PathBuf} (member : path ∈ set) :
    hasPath set path = true :=
  hasPath_iff.mpr ⟨path, member, rfl⟩

theorem hasPath_dedup (paths : List PathBuf) (path : PathBuf) :
    hasPath (dedupNeighbours paths) path = hasPath paths path := by
  fun_induction dedupNeighbours paths with
  | case1 first second rest same ih =>
    have first' : first.same path = second.same path := by
      rw [Bool.eq_iff_iff, PathBuf.same_iff, PathBuf.same_iff, PathBuf.same_iff.mp same]
    rw [ih]
    simp [hasPath, first']
  | case2 first second rest other ih =>
    simp only [hasPath, List.any_cons] at ih ⊢
    rw [ih]
  | case3 paths _ => rfl

theorem length_dedup (paths : List PathBuf) : (dedupNeighbours paths).length ≤ paths.length := by
  fun_induction dedupNeighbours paths with
  | case1 first second rest same ih =>
    simp only [List.length_cons] at ih ⊢
    omega
  | case2 first second rest other ih =>
    simp only [List.length_cons] at ih ⊢
    omega
  | case3 paths _ => exact Nat.le_refl _

theorem hasPath_collect (paths : List PathBuf) (path : PathBuf) :
    hasPath (collectPaths paths) path = hasPath paths path := by
  rw [collectPaths, hasPath_dedup, Bool.eq_iff_iff, hasPath_iff, hasPath_iff]
  simp only [List.mem_mergeSort]

theorem length_collect (paths : List PathBuf) : (collectPaths paths).length ≤ paths.length := by
  have short := length_dedup (paths.mergeSort pathLe)
  rwa [List.length_mergeSort] at short

theorem differencePaths_self (set : List PathBuf) : differencePaths set set = [] := by
  rw [differencePaths, List.filter_eq_nil_iff]
  intro path member
  simp [hasPath_of_mem member]

theorem hasPath_insert (set : List PathBuf) (inserted path : PathBuf) :
    hasPath (insertPath set inserted) path = (hasPath set path || inserted.same path) := by
  unfold insertPath
  split
  next there =>
    obtain ⟨other, member, equal⟩ := hasPath_iff.mp there
    cases same : inserted.same path with
    | false => simp
    | true =>
      rw [Bool.or_true, hasPath_iff]
      exact ⟨other, member, equal.trans (PathBuf.same_iff.mp same)⟩
  · rw [hasPath, hasPath, List.any_append, List.any_cons,
      ← List.takeWhile_append_dropWhile (p := (pathLe · inserted)) (l := set), List.any_append]
    simp only [List.takeWhile_append_dropWhile]
    cases (List.takeWhile (pathLe · inserted) set).any (·.same path) <;>
      cases inserted.same path <;> simp

theorem length_insert (set : List PathBuf) (inserted : PathBuf) :
    (insertPath set inserted).length ≤
      set.length + if hasPath set inserted then 0 else 1 := by
  unfold insertPath
  split
  next there => simp
  · have parts := congrArg List.length
      (List.takeWhile_append_dropWhile (p := (pathLe · inserted)) (l := set))
    rw [List.length_append] at parts
    simp only [List.length_append, List.length_cons]
    omega

end paths

namespace PollingLogSource
variable {source : PollingLogSource} {stop : Nat → Bool} {root : RootReading}
  {batch : CandidateBatch}

theorem scan_ok (scanned : source.scan stop root = .ok batch) :
    (∃ eligible, Scanned source.options eligible batch) ∧
      (batch.rootAvailable = false → batch.observations = [] ∧ batch.scanComplete = true) := by
  unfold scan at scanned
  split at scanned
  · contradiction
  · cases root with
    | notFound =>
      cases scanned
      exact ⟨⟨0, Nat.le_refl 0, Nat.zero_le _, rfl, fun _ => rfl⟩, fun _ => ⟨rfl, rfl⟩⟩
    | failed => contradiction
    | notDirectory => contradiction
    | directory entries =>
      cases entries with
      | none => contradiction
      | some entries =>
        obtain ⟨found, available⟩ :=
          scanStack_ok ⟨Nat.le_refl 0, Nat.zero_le _, rfl, fun _ => rfl⟩ scanned
        exact ⟨found, fun missing => absurd (available.symm.trans missing) (by simp)⟩

/-- The paths of a batch, as the tracker keeps them. -/
def seenPaths (batch : CandidateBatch) : List PathBuf :=
  collectPaths (batch.observations.map (·.canonicalPath))

/-- A successful poll, by what its scan was. -/
theorem poll_ok {source' : PollingLogSource}
    (polled : source.poll stop root = (.ok batch, source')) :
    source'.options = source.options ∧
    (∃ eligible, batch.observations.length ≤ eligible ∧
      eligible ≤ source.options.maxCandidates) ∧
    (batch.scanComplete = true → batch.issues = []) ∧
    (((!batch.rootAvailable || batch.scanComplete) = true ∧
        batch.removedPaths = differencePaths source.retained (seenPaths batch) ∧
        source'.retained = seenPaths batch) ∨
      ((!batch.rootAvailable || batch.scanComplete) = false ∧ batch.removedPaths = [] ∧
        source.retained.length + (differencePaths (seenPaths batch) source.retained).length ≤
          source.options.maxCandidates ∧
        source'.retained = (seenPaths batch).foldl insertPath source.retained)) := by
  unfold poll at polled
  split at polled
  · cases polled
  next scanned found =>
    obtain ⟨⟨eligible, counts⟩, -⟩ := scan_ok found
    have issues : scanned.scanComplete = true → sortIssues scanned.issues = [] := by
      intro complete
      rw [counts.undisturbed complete, sortIssues, List.mergeSort_nil]
    have sorted : ∀ files : List LogFileIdentity, files.length ≤ eligible →
        (files.mergeSort fun left right =>
          pathLe left.canonicalPath right.canonicalPath).length ≤ eligible := by
      intro files short
      rwa [List.length_mergeSort]
    simp only [reconcile] at polled
    split at polled
    next whole =>
      cases polled
      exact ⟨rfl, ⟨eligible, sorted _ counts.counted, counts.bounded⟩, issues,
        .inl ⟨whole, rfl, rfl⟩⟩
    next part =>
      split at polled
      · cases polled
      next room =>
        cases polled
        exact ⟨rfl, ⟨eligible, sorted _ counts.counted, counts.bounded⟩, issues,
          .inr ⟨by simpa using part, counts.unreported, Nat.le_of_not_gt room, rfl⟩⟩

theorem poll_error {error : CandidateError} {source' : PollingLogSource}
    (polled : source.poll stop root = (.error error, source')) : source' = source := by
  unfold poll at polled
  split at polled
  · exact (Prod.mk.inj polled).2.symm
  · simp only [reconcile] at polled
    split at polled
    · cases polled
    · split at polled
      · exact (Prod.mk.inj polled).2.symm
      · cases polled

end PollingLogSource

/-- The answers of the system in one call of the polling source. -/
structure FileSystem where
  stop : Nat → Bool
  root : RootReading
  absolute : Option PathBuf

def pollingMethods : LogCandidateSource PollingLogSource FileSystem where
  poll source system := source.poll system.stop system.root
  reconfigure source options system := source.reconfigure options system.absolute

theorem reconfigure_preserves {source : PollingLogSource} {options : CandidateSourceOptions}
    {absolute : Option PathBuf} {error : CandidateError}
    (failed : (source.reconfigure options absolute).1 = .error error) :
    (source.reconfigure options absolute).2 = source := by
  unfold PollingLogSource.reconfigure at failed ⊢
  split
  · rfl
  next created => rw [created] at failed; contradiction

/-- A scan of the whole tree retains what it observed and removes the rest. -/
theorem PollingLogSource.poll_complete {source source' : PollingLogSource} {stop : Nat → Bool}
    {root : RootReading} {batch : CandidateBatch}
    (polled : source.poll stop root = (.ok batch, source')) (complete : isComplete batch = true) :
    source'.options = source.options ∧ batch.issues = [] ∧
      batch.removedPaths = differencePaths source.retained (seenPaths batch) ∧
      source'.retained = seenPaths batch := by
  obtain ⟨options, -, issues, outcome⟩ := poll_ok polled
  simp only [isComplete, Bool.and_eq_true] at complete
  obtain ⟨-, removed, retained⟩ | ⟨part, -⟩ := outcome
  · exact ⟨options, issues complete.2, removed, retained⟩
  · rw [complete.2, Bool.or_true] at part
    contradiction

/-- The polling source is one that a repeated scan does not move. -/
theorem polling_steady : Steady pollingMethods where
  repeats source system batch system' batch' polled complete repeated complete' observed := by
    obtain ⟨-, -, -, retained⟩ := PollingLogSource.poll_complete (Prod.ext polled rfl) complete
    obtain ⟨options, issues, removed, retained'⟩ :=
      PollingLogSource.poll_complete (Prod.ext repeated rfl) complete'
    have seen : PollingLogSource.seenPaths batch' = PollingLogSource.seenPaths batch := by
      rw [PollingLogSource.seenPaths, PollingLogSource.seenPaths, observed]
    have same := (retained'.trans seen).trans retained.symm
    refine ⟨?_, issues, PollingLogSource.ext options same⟩
    rw [removed, seen]
    exact (congrArg (differencePaths · _) retained).trans (differencePaths_self _)
  preserves source options system error failed := reconfigure_preserves failed

/-- A directory with one log. -/
def sampleSystem : FileSystem where
  stop _ := false
  root := .directory (some [.file (sampleLog 1).canonicalPath (some .unixEpoch)
    (some (sampleLog 1).canonicalPath) 1])
  absolute := some ⟨utf8 "C:\\logs"⟩

def sampleSource : PollingLogSource where
  options := { root := ⟨utf8 "C:\\logs"⟩, recursive := true, maxCandidates := 1
               minimumLastWriteTime := none }
  retained := []

def sampleBatch : CandidateBatch where
  rootAvailable := true
  scanComplete := true
  observations := [sampleLog 1]
  removedPaths := []
  issues := []

theorem sampleBatch_polled {source : PollingLogSource}
    (options : source.options = sampleSource.options) :
    pollingMethods.poll source sampleSystem =
      (.ok { sampleBatch with
          removedPaths := differencePaths source.retained [(sampleLog 1).canonicalPath] },
        { sampleSource with retained := [(sampleLog 1).canonicalPath] }) := by
  have candidate : isZevtcCandidate (sampleLog 1).canonicalPath = true := by decide
  have scanned : source.scan sampleSystem.stop sampleSystem.root = .ok sampleBatch := by
    simp [PollingLogSource.scan, sampleSystem, scanStack, maxEntries, candidate, options,
      sampleSource]
    rfl
  simp only [pollingMethods, PollingLogSource.poll, scanned]
  simp [reconcile, sampleBatch, sortIssues, collectPaths, dedupNeighbours, options]

def samplePair : SourcePair PollingLogSource where
  notifying :=
    { source := (sampleSource, none), hasMonitor := true, cache := none, failures := 0
      monitorEnabled := true, pendingIssue := none }
  plain := sampleSource

/-- After the first poll. -/
def sampleNoticed : SourcePair PollingLogSource :=
  samplePair.perform pollingMethods (.poll false (.ok .changed) sampleSystem)

theorem notifying_sampleNoticed : sampleNoticed.notifying = { samplePair.notifying with
    source := ({ sampleSource with retained := [(sampleLog 1).canonicalPath] }, some [sampleLog 1])
    cache := some sampleBatch } := by
  have polled := recorded_ok none (congrArg Prod.fst (@sampleBatch_polled sampleSource rfl))
  rw [sampleBatch_polled rfl] at polled
  simp only [sampleNoticed, SourcePair.perform, samplePair, NotifyingLogSource.poll,
    NotifyingLogSource.scan, polled]
  rfl

/-- The second poll is saved, and gives what the source itself gives. -/
theorem notifications_only_save_scans_sample :
    sampleNoticed.notifying.poll (recorded pollingMethods) false (.ok .unchanged) sampleSystem =
      (.ok sampleBatch, sampleNoticed.notifying) ∧
    sampleNoticed.notifying.source.1 = sampleNoticed.plain ∧
    (∃ plain, (pollingMethods.poll sampleNoticed.plain sampleSystem).1 = .ok plain ∧
      SameScan sampleBatch plain) ∧
    (∃ plain, (pollingMethods.poll sampleNoticed.plain sampleSystem).1 = .ok plain ∧
      isComplete plain = true ∧ sampleBatch = cached plain) ∧
    (sampleNoticed.notifying.reconfigure (recorded pollingMethods) sampleSource.options
      sampleSystem (.ok ())).2.cache = none := by
  have configured : Configured pollingMethods samplePair :=
    ⟨sampleSource, true, sampleSource.options, sampleSystem, .ok (), rfl, rfl⟩
  have saved : sampleNoticed.notifying.poll (recorded pollingMethods) false (.ok .unchanged)
      sampleSystem = (.ok sampleBatch, sampleNoticed.notifying) := by
    rw [notifying_sampleNoticed]
    rfl
  have sound : Sound pollingMethods sampleNoticed (.poll false (.ok .unchanged) sampleSystem) := by
    refine ⟨fun _ _ => ?_, fun cancelled => absurd cancelled (answered _ _)⟩
    rw [notifying_sampleNoticed]
    have polled := congrArg Prod.fst
      (@sampleBatch_polled ⟨sampleSource.options, [(sampleLog 1).canonicalPath]⟩ rfl)
    exact ⟨_, polled, rfl, rfl⟩
  obtain ⟨agree, scans, empties⟩ := notifications_only_save_scans polling_steady configured
    (.step _ .refl (sound_changed sampleSystem))
  obtain ⟨same, kept⟩ := scans false (.ok .unchanged) sampleSystem sound
  refine ⟨saved, agree, same _ (congrArg Prod.fst saved), kept (answered _ _) _ ?_,
    empties _ _ _ rfl⟩
  change (sampleNoticed.notifying.poll _ _ _ _).2.cache = _
  rw [saved, notifying_sampleNoticed]

end MannyUploader.Filesystem
