import MannyUploader.Application.ApplicationPump

/-! The authoritative source: it walks the configured tree and keeps the paths it has seen,
so that a path that is gone is reported once. -/
namespace MannyUploader.Domain.Path

/-- The rank of a variant, then its fields: derived orders compare in this way. -/
def PathPrefix.order : PathPrefix → List (List UInt8)
  | .verbatim name => [[0], name]
  | .verbatimUnc server share => [[1], server, share]
  | .verbatimDisk drive => [[2], [drive]]
  | .deviceNs name => [[3], name]
  | .unc server share => [[4], server, share]
  | .disk drive => [[5], [drive]]

def Component.order : Component → List (List UInt8)
  | .leading start => [0] :: start.order
  | .rootDir => [[1]]
  | .curDir => [[2]]
  | .parentDir => [[3]]
  | .normal name => [[4], name]

end MannyUploader.Domain.Path

namespace MannyUploader.Filesystem
open Application Domain

/-- `Ord` of paths, component by component. -/
def pathLe (left right : PathBuf) : Bool :=
  decide (left.components.map Path.Component.order ≤ right.components.map Path.Component.order)

/-! A `BTreeSet<PathBuf>` is an ordered list without equal paths. -/

def hasPath (set : List PathBuf) (path : PathBuf) : Bool := set.any fun other => other.same path

/-- Of neighbours that are equal the last one stays. -/
def dedupNeighbours : List PathBuf → List PathBuf
  | first :: second :: rest =>
    if first.same second then dedupNeighbours (second :: rest)
    else first :: dedupNeighbours (second :: rest)
  | paths => paths

def collectPaths (paths : List PathBuf) : List PathBuf := dedupNeighbours (paths.mergeSort pathLe)

def differencePaths (left right : List PathBuf) : List PathBuf :=
  left.filter fun path => !hasPath right path

def insertPath (set : List PathBuf) (path : PathBuf) : List PathBuf :=
  if hasPath set path then set
  else set.takeWhile (pathLe · path) ++ path :: set.dropWhile (pathLe · path)

def CandidateIssue.rank : CandidateIssue → Nat
  | .entryUnavailable => 0
  | .directoryUnavailable => 1
  | .timestampUnavailable => 2
  | .canonicalPathUnavailable => 3
  | .notificationFailed => 4
  | .notificationsDisabled => 5

def sortIssues (issues : List CandidateIssue) : List CandidateIssue :=
  issues.mergeSort fun left right => decide (CandidateIssue.rank left ≤ CandidateIssue.rank right)

/-- `SnapshotTracker::reconcile` on the paths retained so far. -/
def reconcile (retained : List PathBuf) (batch : CandidateBatch) (limit : Nat) :
    Except CandidateError CandidateBatch × List PathBuf :=
  let batch := { batch with
    observations := batch.observations.mergeSort
      fun left right => pathLe left.canonicalPath right.canonicalPath
    issues := sortIssues batch.issues }
  let seen := collectPaths (batch.observations.map (·.canonicalPath))
  if !batch.rootAvailable || batch.scanComplete then
    (.ok { batch with removedPaths := differencePaths retained seen }, seen)
  else
    let additional := (differencePaths seen retained).length
    if retained.length + additional > limit then (.error .resourceLimit, retained)
    else (.ok batch, seen.foldl insertPath retained)

/-! What the file system answers in the course of one scan. -/

inductive EntryReading
  /-- The iterator itself fails. -/
  | failed
  /-- `symlink_metadata` fails. -/
  | unreadable
  | link
  /-- A directory, with the answers of its iterator if it can be opened. -/
  | directory (entries : Option (List EntryReading))
  | file (path : PathBuf) (modified : Option SystemTime) (canonical : Option PathBuf)
      (size : UInt64)
  | other

inductive RootReading
  | notFound
  | failed
  /-- It is no directory, or a link. -/
  | notDirectory
  | directory (entries : Option (List EntryReading))

def maxDepth : Nat := 128
def maxEntries : Nat := 1_000_000

def addIssue (batch : CandidateBatch) (issue : CandidateIssue) : CandidateBatch :=
  { batch with
    scanComplete := false
    issues := if batch.issues.contains issue then batch.issues else batch.issues ++ [issue] }

/-- What one eligible file adds to the batch. -/
def observeFile (batch : CandidateBatch) (lastWriteTime : SystemTime) (canonical : Option PathBuf)
    (size : UInt64) : CandidateBatch :=
  match canonical with
  | none => addIssue batch .canonicalPathUnavailable
  | some canonicalPath =>
    { batch with observations := batch.observations ++ [{ canonicalPath, size, lastWriteTime }] }

/-- The loop of `scan`. The first number is how many more entries may be read, the second
the index of the next question to the stop token; the innermost directory comes first. -/
def scanStack (options : CandidateSourceOptions) (stop : Nat → Bool) :
    (budget check : Nat) → (stack : List (List EntryReading)) → (eligible : Nat) →
      CandidateBatch → Except CandidateError CandidateBatch
  | _, check, [], _, batch => if stop check then .error .cancelled else .ok batch
  | 0, check, _ :: _, _, _ => if stop check then .error .cancelled else .error .resourceLimit
  | budget + 1, check, [] :: parents, eligible, batch =>
    if stop check then .error .cancelled
    else scanStack options stop budget (check + 1) parents eligible batch
  | budget + 1, check, (entry :: rest) :: parents, eligible, batch =>
    if stop check then .error .cancelled
    else match entry with
      | .failed | .unreadable =>
        scanStack options stop budget (check + 1) (rest :: parents) eligible
          (addIssue batch .entryUnavailable)
      | .link | .other =>
        scanStack options stop budget (check + 1) (rest :: parents) eligible batch
      | .directory child =>
        if options.recursive then
          if parents.length + 1 = maxDepth then .error .resourceLimit
          else match child with
            | some entries =>
              scanStack options stop budget (check + 1) (entries :: rest :: parents) eligible batch
            | none =>
              scanStack options stop budget (check + 1) (rest :: parents) eligible
                (addIssue batch .directoryUnavailable)
        else scanStack options stop budget (check + 1) (rest :: parents) eligible batch
      | .file path modified canonical size =>
        if !isZevtcCandidate path then
          scanStack options stop budget (check + 1) (rest :: parents) eligible batch
        else match modified with
          | none =>
            scanStack options stop budget (check + 1) (rest :: parents) eligible
              (addIssue batch .timestampUnavailable)
          | some lastWriteTime =>
            if options.minimumLastWriteTime.any fun cutoff =>
                decide (lastWriteTime.nanos < cutoff.nanos) then
              scanStack options stop budget (check + 1) (rest :: parents) eligible batch
            else if eligible + 1 > options.maxCandidates then .error .resourceLimit
            else scanStack options stop budget (check + 1) (rest :: parents) (eligible + 1)
              (observeFile batch lastWriteTime canonical size)

@[ext] structure PollingLogSource where
  options : CandidateSourceOptions
  retained : List PathBuf

namespace PollingLogSource

/-- `absolute` is the answer of `std::path::absolute` for the root. -/
def new (options : CandidateSourceOptions) (absolute : Option PathBuf) :
    Except CandidateError PollingLogSource :=
  if options.root.bytes.isEmpty || !decide (1 ≤ options.maxCandidates ∧
      options.maxCandidates ≤ 10_000) then
    .error .invalidConfiguration
  else match absolute with
    | none => .error .invalidConfiguration
    | some root => .ok { options := { options with root }, retained := [] }

def scan (source : PollingLogSource) (stop : Nat → Bool) (root : RootReading) :
    Except CandidateError CandidateBatch :=
  if stop 0 then .error .cancelled
  else
    let batch : CandidateBatch :=
      { rootAvailable := false, scanComplete := true, observations := [], removedPaths := []
        issues := [] }
    match root with
    | .notFound => .ok batch
    | .failed | .notDirectory | .directory none => .error .scanFailed
    | .directory (some entries) =>
      scanStack source.options stop maxEntries 1 [entries] 0 { batch with rootAvailable := true }

def poll (source : PollingLogSource) (stop : Nat → Bool) (root : RootReading) :
    Except CandidateError CandidateBatch × PollingLogSource :=
  match source.scan stop root with
  | .error error => (.error error, source)
  | .ok batch =>
    let (result, retained) := reconcile source.retained batch source.options.maxCandidates
    (result, { source with retained })

def reconfigure (source : PollingLogSource) (options : CandidateSourceOptions)
    (absolute : Option PathBuf) : Except CandidateError Unit × PollingLogSource :=
  match new options absolute with
  | .error error => (.error error, source)
  | .ok source => (.ok (), source)

end PollingLogSource

end MannyUploader.Filesystem
