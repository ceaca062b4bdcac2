import MannyUploader.Application.Entry
import MannyUploader.Foundation.Retention

/-! The coordinator: the retained jobs in admission order, and the operations that its
application owner performs on them. An operation returns its result with the new
coordinator, since a failed operation may have changed it. -/
namespace MannyUploader.Application
open Domain Foundation

def maxHistoryLimit : Nat := 10_000

/-- A limit that passed `validate_limit`. -/
abbrev HistoryLimit := { limit : Nat // 1 ≤ limit ∧ limit ≤ maxHistoryLimit }

structure UploadCoordinator where
  installed : Provider → Bool
  jobs : List Entry
  historyLimit : HistoryLimit
  nextId : Option UInt64
  restored : Bool
  resultCursor : Provider
  stopping : Bool

structure DrainSummary where
  consumed : Nat
  rejected : Nat
  providerErrors : Nat
deriving DecidableEq, Repr

namespace UploadCoordinator

def validateLimit (limit : Nat) : Except CoordinatorError HistoryLimit :=
  if valid : 1 ≤ limit ∧ limit ≤ maxHistoryLimit then .ok ⟨limit, valid⟩
  else .error .invalidHistoryLimit

/-- Each provider takes the slot it names. -/
def new (providers : List Provider) (historyLimit : Nat) :
    Except CoordinatorError UploadCoordinator := do
  let historyLimit ← validateLimit historyLimit
  if !decide providers.Nodup then .error .duplicateProvider
  else .ok {
    installed := fun provider => providers.contains provider
    jobs := []
    historyLimit
    nextId := some 1
    restored := false
    resultCursor := .dpsReport
    stopping := false }

def requireRunning (c : UploadCoordinator) : Except CoordinatorError Unit :=
  if c.stopping then .error .shuttingDown else .ok ()

/-- The entry of a job, with the entries before and after it. -/
def index (c : UploadCoordinator) (id : UploadJobId) :
    Except CoordinatorError (List Entry × Entry × List Entry) :=
  match splitFirst (fun entry => entry.job.id = id) c.jobs with
  | some found => .ok found
  | none => .error .unknownJob

/-- `trim_to`: the oldest idle jobs leave while there are more than `limit`. -/
def trimTo (c : UploadCoordinator) (limit : Nat) (tape : Tape W) : UploadCoordinator × Tape W :=
  let (jobs, gone) := trim (fun entry => !entry.busy) limit c.jobs.length c.jobs
  ({ c with jobs }, tape.noteAll (gone.map fun entry => .evicted entry.job))

def configureProvider (c : UploadCoordinator) (ports : UploadPorts W)
    (configuration : ProviderConfiguration) (tape : Tape W) :
    Except CoordinatorError Unit × Tape W :=
  match (do c.requireRunning; requireProviders c.installed [configuration.policy.provider]) with
  | .error error => (.error error, tape)
  | .ok () =>
    match ports.configure configuration.policy.provider configuration tape.world with
    | (.ok (), world) => (.ok (), { tape with world })
    | (.error error, world) => (.error (.reconfiguration error), { tape with world })

/-- The checks of `add_pending`, up to the job and the identifier after it. -/
def prepareJob (c : UploadCoordinator) (file : LogFileIdentity) (enabled : ProviderSelection)
    (now : SystemTime) : Except CoordinatorError UploadJob := do
  c.requireRunning
  requireProviders c.installed (Provider.all.filter enabled.contains)
  match c.nextId with
  | none => .error .jobIdExhausted
  | some next =>
    let id ← liftJob (UploadJobId.new next)
    let job ← liftJob (UploadJob.new id file now enabled)
    if c.jobs.countP Entry.busy ≥ c.historyLimit then .error .capacityReached
    else .ok job

def addPending (c : UploadCoordinator) (ports : UploadPorts W) (file : LogFileIdentity)
    (enabled : ProviderSelection) (tape : Tape W) :
    Except CoordinatorError UploadJobId × UploadCoordinator × Tape W :=
  match c.prepareJob file enabled (ports.systemNow tape.world) with
  | .error error => (.error error, c, tape)
  | .ok job =>
    let (c, tape) := c.trimTo (c.historyLimit - 1) tape
    (.ok job.id,
      { c with
        jobs := c.jobs ++ [Entry.new job true]
        nextId := checkedSucc64 job.id.get },
      tape.note (.admitted job))

/-- `pending_index`. -/
def pendingIndex (c : UploadCoordinator) (id : UploadJobId) :
    Except CoordinatorError (List Entry × Entry × List Entry) := do
  let (before, entry, after) ← c.index id
  if entry.awaitsMetadata then .ok (before, entry, after) else .error .metadataNotPending

def setMetadata (c : UploadCoordinator) (ports : UploadPorts W) (id : UploadJobId)
    (metadata : EncounterMetadata) (tape : Tape W) :
    Except CoordinatorError Unit × UploadCoordinator × Tape W :=
  match (do
    c.requireRunning
    let (before, entry, after) ← c.pendingIndex id
    let performed ← entry.setMetadata ports c.installed metadata tape
    Except.ok (before, performed, after)) with
  | .error error => (.error error, c, tape)
  | .ok (before, (result, entry, tape), after) =>
    (result, { c with jobs := before ++ entry :: after }.trimTo c.historyLimit tape)

def failMetadata (c : UploadCoordinator) (id : UploadJobId) (cancelled : Bool) (tape : Tape W) :
    Except CoordinatorError Unit × UploadCoordinator × Tape W :=
  match (do
    c.requireRunning
    let (before, entry, after) ← c.pendingIndex id
    let entry ← entry.failMetadata cancelled
    Except.ok (before, entry, after)) with
  | .error error => (.error error, c, tape)
  | .ok (before, entry, after) =>
    (.ok (), { c with jobs := before ++ entry :: after }.trimTo c.historyLimit tape)

def applyResult (c : UploadCoordinator) (ports : UploadPorts W) (result : UploadResult)
    (tape : Tape W) : Except CoordinatorError Unit × UploadCoordinator × Tape W :=
  match (do
    c.requireRunning
    let (before, entry, after) ← c.index result.jobId
    let performed ← entry.applyResult ports c.installed result tape
    Except.ok (before, performed, after)) with
  | .error error => (.error error, c, tape)
  | .ok (before, (entry, tape), after) =>
    (.ok (), { c with jobs := before ++ entry :: after }.trimTo c.historyLimit tape)

/-- Ask up to `empty` providers in turn until one has a result. -/
def pollProviders (ports : UploadPorts W) : (empty errors : Nat) → UploadCoordinator → Tape W →
    Option (Provider × UploadResult) × Nat × UploadCoordinator × Tape W
  | 0, errors, c, tape => (none, errors, c, tape)
  | empty + 1, errors, c, tape =>
    let slot := c.resultCursor
    let c := { c with resultCursor := slot.successor }
    if !c.installed slot then pollProviders ports empty errors c tape
    else match ports.tryTakeResult slot tape.world with
      | (.ok (some result), world) => (some (slot, result), errors, c, { tape with world })
      | (.ok none, world) => pollProviders ports empty errors c { tape with world }
      | (.error _, world) => pollProviders ports empty (errors + 1) c { tape with world }

/-- One consumed result: rejected when it names another provider or is not accepted. -/
def consume (c : UploadCoordinator) (ports : UploadPorts W) (slot : Provider)
    (result : UploadResult) (tape : Tape W) : Bool × UploadCoordinator × Tape W :=
  if result.provider ≠ slot then (true, c, tape)
  else match c.applyResult ports result tape with
    | (.ok (), c, tape) => (false, c, tape)
    | (.error _, c, tape) => (true, c, tape)

/-- The loop of `drain_results`: it stops after `budget` results, or once four providers in
a row had none. -/
def drainLoop (ports : UploadPorts W) : (budget : Nat) → DrainSummary → UploadCoordinator →
    Tape W → DrainSummary × UploadCoordinator × Tape W
  | 0, summary, c, tape => (summary, c, tape)
  | budget + 1, summary, c, tape =>
    match pollProviders ports Provider.all.length summary.providerErrors c tape with
    | (none, providerErrors, c, tape) => ({ summary with providerErrors }, c, tape)
    | (some (slot, result), providerErrors, c, tape) =>
      let (rejected, c, tape) := c.consume ports slot result tape
      drainLoop ports budget {
        consumed := summary.consumed + 1
        rejected := summary.rejected + rejected.toNat
        providerErrors } c tape

def drainResults (c : UploadCoordinator) (ports : UploadPorts W) (maxResults : Nat)
    (tape : Tape W) : DrainSummary × UploadCoordinator × Tape W :=
  if c.stopping then (⟨0, 0, 0⟩, c, tape) else drainLoop ports maxResults ⟨0, 0, 0⟩ c tape

/-- The retries of one job that are due, within what is left of the budget. -/
def retryEntry (ports : UploadPorts W) (installed : Provider → Bool) (now : Instant) :
    List Provider → (budget : Nat) → Entry → Tape W → Nat × Entry × Tape W
  | [], budget, entry, tape => (budget, entry, tape)
  | _ :: _, 0, entry, tape => (0, entry, tape)
  | provider :: rest, budget + 1, entry, tape =>
    if entry.isDue now provider then
      let (_, entry, tape) := entry.dispatch ports installed provider tape
      retryEntry ports installed now rest budget entry tape
    else retryEntry ports installed now rest (budget + 1) entry tape

def retryEntries (ports : UploadPorts W) (installed : Provider → Bool) (now : Instant) :
    (budget : Nat) → List Entry → Tape W → Nat × List Entry × Tape W
  | budget, [], tape => (budget, [], tape)
  | budget, entry :: rest, tape =>
    let (budget, entry, tape) := retryEntry ports installed now Provider.all budget entry tape
    let (budget, rest, tape) := retryEntries ports installed now budget rest tape
    (budget, entry :: rest, tape)

def dispatchDueRetries (c : UploadCoordinator) (ports : UploadPorts W) (maxAttempts : Nat)
    (tape : Tape W) : Nat × UploadCoordinator × Tape W :=
  if c.stopping then (0, c, tape)
  else
    let (left, jobs, tape) :=
      retryEntries ports c.installed (ports.steadyNow tape.world) maxAttempts c.jobs tape
    (maxAttempts - left, { c with jobs }.trimTo c.historyLimit tape)

/-- The user's three actions share their last step: the prepared entry takes its place and
is dispatched. -/
def redispatch (c : UploadCoordinator) (ports : UploadPorts W) (provider : Provider)
    (prepared : Except CoordinatorError (List Entry × Entry × List Entry)) (tape : Tape W) :
    Except CoordinatorError Unit × UploadCoordinator × Tape W :=
  match prepared with
  | .error error => (.error error, c, tape)
  | .ok (before, entry, after) =>
    let (result, entry, tape) := entry.dispatch ports c.installed provider tape
    (result, { c with jobs := before ++ entry :: after }, tape)

def retryFailed (c : UploadCoordinator) (ports : UploadPorts W) (id : UploadJobId)
    (provider : Provider) (tape : Tape W) :
    Except CoordinatorError Unit × UploadCoordinator × Tape W :=
  c.redispatch ports provider (do
    c.requireRunning
    let (before, entry, after) ← c.index id
    let _ ← entry.requireMetadata
    requireProviders c.installed [provider]
    entry.requireDependency provider
    let entry ← entry.rearm provider
    .ok (before, entry, after)) tape

def reupload (c : UploadCoordinator) (ports : UploadPorts W) (id : UploadJobId)
    (tape : Tape W) : Except CoordinatorError Unit × UploadCoordinator × Tape W :=
  c.redispatch ports .dpsReport (do
    c.requireRunning
    requireProviders c.installed uploads
    let (before, entry, after) ← c.index id
    let entry ← entry.prepareReupload
    .ok (before, entry, after)) tape

def rechat (c : UploadCoordinator) (ports : UploadPorts W) (id : UploadJobId)
    (tape : Tape W) : Except CoordinatorError Unit × UploadCoordinator × Tape W :=
  c.redispatch ports .twitch (do
    c.requireRunning
    requireProviders c.installed [.twitch]
    let (before, entry, after) ← c.index id
    let entry ← entry.prepareRechat
    .ok (before, entry, after)) tape

/-- Restored jobs are numbered from 1 in list order. -/
def restoreJobs : Nat → List UploadJobRecord → Except CoordinatorError (List Entry)
  | _, [] => .ok []
  | position, record :: rest => do
    let id ← liftJob (UploadJobId.new (UInt64.ofNat position + 1))
    let job ← liftJob (UploadJob.restore id record)
    let jobs ← restoreJobs (position + 1) rest
    .ok (Entry.new job false :: jobs)

/-- Restore validates the retained tail before committing anything and never dispatches. -/
def restore (c : UploadCoordinator) (records : List UploadJobRecord) (tape : Tape W) :
    Except CoordinatorError Unit × UploadCoordinator × Tape W :=
  match (do
    c.requireRunning
    if c.restored || c.nextId != some 1 || !c.jobs.isEmpty then
      .error .restoreRequiresEmptyCoordinator
    else restoreJobs 0 (records.drop (records.length - c.historyLimit))) with
  | .error error => (.error error, c, tape)
  | .ok jobs =>
    (.ok (), { c with jobs, nextId := some (UInt64.ofNat jobs.length + 1), restored := true },
      tape.noteAll (jobs.map fun entry => .restored entry.job))

def history (c : UploadCoordinator) : List UploadJobRecord :=
  c.jobs.map fun entry => entry.job.record

/-- The files of the retained jobs. -/
def files (c : UploadCoordinator) : List LogFileIdentity :=
  c.jobs.map fun entry => entry.job.record.file

def setHistoryLimit (c : UploadCoordinator) (limit : Nat) (tape : Tape W) :
    Except CoordinatorError Unit × UploadCoordinator × Tape W :=
  match validateLimit limit with
  | .error error => (.error error, c, tape)
  | .ok historyLimit => (.ok (), { c with historyLimit }.trimTo limit tape)

def cancelAll (c : UploadCoordinator) (ports : UploadPorts W) (tape : Tape W) :
    UploadCoordinator × Tape W :=
  if c.stopping then (c, tape)
  else
    let world := (Provider.all.filter c.installed).foldl
      (fun world provider => ports.cancelPending provider world) tape.world
    { c with stopping := true, jobs := c.jobs.map Entry.cancel }.trimTo c.historyLimit
      { tape with world }

end UploadCoordinator

/-- The calls an owner of the coordinator makes, and the changes of the outside world
between them. -/
inductive CoordinatorOp (W : Type)
  | addPending (file : LogFileIdentity) (enabled : ProviderSelection)
  | setMetadata (id : UploadJobId) (metadata : EncounterMetadata)
  | failMetadata (id : UploadJobId) (cancelled : Bool)
  | applyResult (result : UploadResult)
  | drainResults (maxResults : Nat)
  | dispatchDueRetries (maxAttempts : Nat)
  | retryFailed (id : UploadJobId) (provider : Provider)
  | reupload (id : UploadJobId)
  | rechat (id : UploadJobId)
  | restore (records : List UploadJobRecord)
  | setHistoryLimit (limit : Nat)
  | configureProvider (configuration : ProviderConfiguration)
  | cancelAll
  | elapse (world : W)

/-- A coordinator in its surroundings. -/
abbrev Running (W : Type) := UploadCoordinator × Tape W

def UploadCoordinator.perform (ports : UploadPorts W) (s : Running W) :
    CoordinatorOp W → Running W
  | .addPending file enabled => (s.1.addPending ports file enabled s.2).2
  | .setMetadata id metadata => (s.1.setMetadata ports id metadata s.2).2
  | .failMetadata id cancelled => (s.1.failMetadata id cancelled s.2).2
  | .applyResult result => (s.1.applyResult ports result s.2).2
  | .drainResults maxResults => (s.1.drainResults ports maxResults s.2).2
  | .dispatchDueRetries maxAttempts => (s.1.dispatchDueRetries ports maxAttempts s.2).2
  | .retryFailed id provider => (s.1.retryFailed ports id provider s.2).2
  | .reupload id => (s.1.reupload ports id s.2).2
  | .rechat id => (s.1.rechat ports id s.2).2
  | .restore records => (s.1.restore records s.2).2
  | .setHistoryLimit limit => (s.1.setHistoryLimit limit s.2).2
  | .configureProvider configuration =>
    (s.1, (s.1.configureProvider ports configuration s.2).2)
  | .cancelAll => s.1.cancelAll ports s.2
  | .elapse world => (s.1, { s.2 with world })

/-- A new coordinator with all four providers, before anything happened. -/
def sampleStart (historyLimit : HistoryLimit) : Running Unit :=
  ({ installed := fun provider => Provider.all.contains provider
     jobs := []
     historyLimit
     nextId := some 1
     restored := false
     resultCursor := .dpsReport
     stopping := false }, ⟨(), []⟩)

/-- Admission, metadata, the report, and the results of the dependents. -/
def sampleDelivery : List (CoordinatorOp Unit) :=
  [.addPending (sampleLog 1) allEnabled, .setMetadata sampleJobId sampleMetadata] ++
    Provider.all.map fun provider => .applyResult (sampleSuccess provider 1)

end MannyUploader.Application
