import MannyUploader.Filesystem.PollingLogSource

/-! Change notifications in front of a source. They decide only whether to scan. -/
namespace MannyUploader.Filesystem
open Application Domain

inductive DirectoryChange
  | changed | unchanged | unavailable
deriving DecidableEq, Repr

/-- The methods of a `LogCandidateSource` with states `S`. What its surroundings answer in
one call is an `E`; a call that panics is the error that `catch_unwind` makes of it. -/
structure LogCandidateSource (S E : Type) where
  poll : S → E → Except CandidateError CandidateBatch × S
  reconfigure : S → CandidateSourceOptions → E → Except CandidateError Unit × S

structure NotifyingLogSource (S : Type) where
  source : S
  hasMonitor : Bool
  cache : Option CandidateBatch
  failures : Nat
  monitorEnabled : Bool
  pendingIssue : Option CandidateIssue

/-- A scan of the whole tree. -/
def isComplete (batch : CandidateBatch) : Bool := batch.rootAvailable && batch.scanComplete

namespace NotifyingLogSource
variable {S E : Type}

/-- `monitor` is the answer of the monitor to the same call. -/
def reconfigure (methods : LogCandidateSource S E) (n : NotifyingLogSource S)
    (options : CandidateSourceOptions) (env : E) (monitor : Except CandidateError Unit) :
    Except CandidateError Unit × NotifyingLogSource S :=
  match methods.reconfigure n.source options env with
  | (.error error, source) => (.error error, { n with source })
  | (.ok (), source) =>
    let enabled := n.hasMonitor && monitor.isOk
    (.ok (), { n with
      source, cache := none, failures := 0, monitorEnabled := enabled
      pendingIssue := if n.hasMonitor && !enabled then some .notificationsDisabled else none })

def addDiagnostic (batch : CandidateBatch) : Option CandidateIssue → CandidateBatch
  | none => batch
  | some issue => { batch with issues := sortIssues (batch.issues ++ [issue]) }

/-- `poll` behind the notification: the scan, and the issue it adds to the batch. -/
def scan (methods : LogCandidateSource S E) (n : NotifyingLogSource S) (env : E)
    (issue : Option CandidateIssue) :
    Except CandidateError CandidateBatch × NotifyingLogSource S :=
  match methods.poll n.source env with
  | (.error error, source) => (.error error, { n with source, cache := none })
  | (.ok batch, source) =>
    let cache := if isComplete batch then some { batch with removedPaths := [], issues := [] }
      else none
    (.ok (addDiagnostic batch issue), { n with source, cache })

/-- `stopped` is the stop token at the start of the call and `change` the monitor's answer. -/
def poll (methods : LogCandidateSource S E) (n : NotifyingLogSource S) (stopped : Bool)
    (change : Except CandidateError DirectoryChange) (env : E) :
    Except CandidateError CandidateBatch × NotifyingLogSource S :=
  if stopped then (.error .cancelled, n)
  else
    let issue := n.pendingIssue
    let n := { n with pendingIssue := none }
    if !n.monitorEnabled then scan methods n env issue
    else match change with
      | .ok status =>
        let n := { n with failures := 0 }
        match status, n.cache with
        | .unchanged, some cache => (.ok cache, n)
        | _, _ => scan methods n env issue
      | .error .cancelled => (.error .cancelled, n)
      | .error _ =>
        let failures := n.failures + 1
        let enabled := decide (failures < 3)
        scan methods { n with failures, monitorEnabled := enabled } env
          (some (if enabled then .notificationFailed else .notificationsDisabled))

/-- The source before its first configuration. -/
def unconfigured (source : S) (hasMonitor : Bool) : NotifyingLogSource S where
  source
  hasMonitor
  cache := none
  failures := 0
  monitorEnabled := false
  pendingIssue := none

def new (methods : LogCandidateSource S E) (source : S) (hasMonitor : Bool)
    (options : CandidateSourceOptions) (env : E) (monitor : Except CandidateError Unit) :
    Except CandidateError (NotifyingLogSource S) :=
  match (unconfigured source hasMonitor).reconfigure methods options env monitor with
  | (.error error, _) => .error error
  | (.ok (), n) => .ok n

end NotifyingLogSource

/-- What the owner of the source calls, with all answers from outside. -/
inductive SourceOp (E : Type)
  | poll (stopped : Bool) (change : Except CandidateError DirectoryChange) (env : E)
  | reconfigure (options : CandidateSourceOptions) (env : E) (monitor : Except CandidateError Unit)

end MannyUploader.Filesystem
