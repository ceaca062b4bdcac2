import Mathlib.Data.List.Basic
import MannyUploader.Filesystem.NotifyingLogSource
import MannyUploader.Foundation.Runs

/-! A source behind notifications next to the same source polled on every call: they give
the same scans, as long as repeating a scan changes nothing. -/
namespace MannyUploader.Filesystem
open Application Domain Foundation

variable {S E : Type}

/-- The source together with what its last complete poll observed. -/
def recorded (methods : LogCandidateSource S E) :
    LogCandidateSource (S × Option (List LogFileIdentity)) E where
  poll s env :=
    match methods.poll s.1 env with
    | (.ok batch, source) =>
      (.ok batch, source, if isComplete batch then some batch.observations else s.2)
    | (.error error, source) => (.error error, source, s.2)
  reconfigure s options env :=
    let (result, source) := methods.reconfigure s.1 options env
    (result, source, s.2)

/-- The notifying source, and the source that is polled on every call. -/
structure SourcePair (S : Type) where
  notifying : NotifyingLogSource (S × Option (List LogFileIdentity))
  plain : S

def SourcePair.perform (methods : LogCandidateSource S E) (pair : SourcePair S) :
    SourceOp E → SourcePair S
  | .poll stopped change env =>
    { notifying := (pair.notifying.poll (recorded methods) stopped change env).2
      plain := (methods.poll pair.plain env).2 }
  | .reconfigure options env monitor =>
    { notifying := (pair.notifying.reconfigure (recorded methods) options env monitor).2
      plain := (methods.reconfigure pair.plain options env).2 }

/-- A call ends before it reaches the source. -/
def NotifyingLogSource.cancels (n : NotifyingLogSource S) (stopped : Bool)
    (change : Except CandidateError DirectoryChange) : Prop :=
  stopped = true ∨ n.monitorEnabled = true ∧ change = .error .cancelled

/-- The monitor, when it is asked, is sound in this call: `Unchanged` means that a poll would
observe what the last complete one did. A call is cancelled only when a poll would be as
well, and without effect. -/
def Sound (methods : LogCandidateSource S E) (pair : SourcePair S) : SourceOp E → Prop
  | .poll stopped change env =>
    (pair.notifying.monitorEnabled = true → change = .ok .unchanged → ∃ batch,
      (methods.poll pair.notifying.source.1 env).1 = .ok batch ∧ isComplete batch = true ∧
      pair.notifying.source.2 = some batch.observations) ∧
    (pair.notifying.cancels stopped change →
      methods.poll pair.notifying.source.1 env = (.error .cancelled, pair.notifying.source.1))
  | .reconfigure .. => True

/-- A source that a repeated scan does not move: a poll that observes what the complete poll
before it observed reports no removal and no issue, and leaves the source as that poll did.
A reconfiguration that fails preserves the source, as the trait demands. -/
structure Steady (methods : LogCandidateSource S E) : Prop where
  repeats : ∀ s env batch env' batch', (methods.poll s env).1 = .ok batch →
    isComplete batch = true → (methods.poll (methods.poll s env).2 env').1 = .ok batch' →
    isComplete batch' = true → batch'.observations = batch.observations →
    batch'.removedPaths = [] ∧ batch'.issues = [] ∧
      (methods.poll (methods.poll s env).2 env').2 = (methods.poll s env).2
  preserves : ∀ s options env error, (methods.reconfigure s options env).1 = .error error →
    (methods.reconfigure s options env).2 = s

/-- One batch has the scan of the other, with at most notification diagnostics added. -/
def SameScan (batch plain : CandidateBatch) : Prop :=
  batch.rootAvailable = plain.rootAvailable ∧ batch.scanComplete = plain.scanComplete ∧
  batch.observations = plain.observations ∧ batch.removedPaths = plain.removedPaths ∧
  ∃ added : List CandidateIssue,
    (∀ issue ∈ added, issue = .notificationFailed ∨ issue = .notificationsDisabled) ∧
    batch.issues.Perm (plain.issues ++ added)

/-- What a complete scan leaves in the cache. -/
def cached (batch : CandidateBatch) : CandidateBatch :=
  { batch with removedPaths := [], issues := [] }

/-- The sources agree, and a cache is that of the last poll, which was complete. -/
structure InStep (methods : LogCandidateSource S E) (pair : SourcePair S) : Prop where
  agree : pair.notifying.source.1 = pair.plain
  pending : ∀ issue, pair.notifying.pendingIssue = some issue → issue = .notificationsDisabled
  fresh : ∀ cache, pair.notifying.cache = some cache → ∃ s env batch,
    (methods.poll s env).1 = .ok batch ∧ isComplete batch = true ∧
    pair.notifying.source = ((methods.poll s env).2, some batch.observations) ∧
    cache = cached batch

theorem answered (n : NotifyingLogSource S) (change : DirectoryChange) :
    ¬ n.cancels false (.ok change) := by
  rintro (stopped | ⟨-, cancelled⟩)
  · contradiction
  · contradiction

/-- An answer that asks for a scan is sound. -/
theorem sound_changed {methods : LogCandidateSource S E} {pair : SourcePair S} (env : E) :
    Sound methods pair (.poll false (.ok .changed) env) := by
  refine ⟨fun _ unchanged => ?_, fun cancelled => absurd cancelled (answered _ _)⟩
  contradiction

namespace NotifyingLogSource
variable (methods : LogCandidateSource S E) (n : NotifyingLogSource S) (stopped : Bool)
  (change : Except CandidateError DirectoryChange) (env : E)

/-- A call is cancelled, answered from the cache, or a scan. -/
theorem poll_cases :
    (n.cancels stopped change ∧ ∃ n', n.poll methods stopped change env = (.error .cancelled, n') ∧
      n'.source = n.source ∧ n'.cache = n.cache ∧
      (n'.pendingIssue = n.pendingIssue ∨ n'.pendingIssue = none)) ∨
    (n.monitorEnabled = true ∧ change = .ok .unchanged ∧ ∃ cache n', n.cache = some cache ∧
      n.poll methods stopped change env = (.ok cache, n') ∧
      n'.source = n.source ∧ n'.cache = n.cache ∧ n'.pendingIssue = none) ∨
    ∃ (n' : NotifyingLogSource S) (issue : Option CandidateIssue),
      n'.source = n.source ∧ n'.pendingIssue = none ∧
      (∀ i, issue = some i →
        n.pendingIssue = some i ∨ i = .notificationFailed ∨ i = .notificationsDisabled) ∧
      n.poll methods stopped change env = n'.scan methods env issue := by
  cases stopped with
  | true => exact .inl ⟨.inl rfl, n, rfl, rfl, rfl, .inl rfl⟩
  | false =>
    cases enabled : n.monitorEnabled with
    | false =>
      refine .inr (.inr ⟨{ n with pendingIssue := none }, n.pendingIssue, rfl, rfl, ?_, ?_⟩)
      · exact fun i same => .inl same
      · simp [poll, enabled]
    | true =>
      cases change with
      | error error =>
        by_cases stop : error = .cancelled
        · subst stop
          exact .inl ⟨.inr ⟨enabled, rfl⟩, { n with pendingIssue := none }, by simp [poll, enabled],
            rfl, rfl, .inr rfl⟩
        · refine .inr (.inr ⟨{ n with
            pendingIssue := none, failures := n.failures + 1
            monitorEnabled := decide (n.failures + 1 < 3) },
            some (if decide (n.failures + 1 < 3) then .notificationFailed
              else .notificationsDisabled), rfl, rfl, ?_, ?_⟩)
          · intro i same
            cases Option.some.inj same
            split
            · exact .inr (.inl rfl)
            · exact .inr (.inr rfl)
          · simp only [poll, enabled]
            cases error <;> rfl
      | ok status =>
        have scans (other : status ≠ .unchanged ∨ n.cache = none) :
            n.poll methods false (.ok status) env =
              scan methods { n with pendingIssue := none, failures := 0 } env n.pendingIssue := by
          simp only [poll, enabled]
          cases held : n.cache with
          | none => cases status <;> simp
          | some cache =>
            rw [held] at other
            cases status <;> simp at other ⊢
        by_cases same : status = .unchanged
        · subst same
          cases held : n.cache with
          | none =>
            exact .inr (.inr ⟨{ n with pendingIssue := none, failures := 0 }, n.pendingIssue, rfl, rfl,
              fun i some => .inl some, scans (.inr held)⟩)
          | some cache =>
            refine .inr (.inl ⟨rfl, rfl, cache, { n with pendingIssue := none, failures := 0 }, rfl,
              ?_, rfl, held, rfl⟩)
            simp [poll, enabled, held]
        · exact .inr (.inr ⟨{ n with pendingIssue := none, failures := 0 }, n.pendingIssue, rfl, rfl,
            fun i some => .inl some, scans (.inl same)⟩)

end NotifyingLogSource

theorem recorded_ok {methods : LogCandidateSource S E} {s : S} {env : E} {batch : CandidateBatch}
    (last : Option (List LogFileIdentity)) (polled : (methods.poll s env).1 = .ok batch) :
    (recorded methods).poll (s, last) env =
      (.ok batch, (methods.poll s env).2,
        if isComplete batch then some batch.observations else last) := by
  simp only [recorded]
  split
  next found same => simp only [same, Except.ok.injEq] at polled ⊢; rw [polled]
  next same => simp [same] at polled

theorem recorded_error {methods : LogCandidateSource S E} {s : S} {env : E}
    {error : CandidateError} (last : Option (List LogFileIdentity))
    (polled : (methods.poll s env).1 = .error error) :
    (recorded methods).poll (s, last) env = (.error error, (methods.poll s env).2, last) := by
  simp only [recorded]
  split
  next same => simp [same] at polled
  next found same => simp only [same, Except.error.injEq] at polled ⊢; rw [polled]

/-- A diagnostic in front of which nothing else changes. -/
theorem sameScan_added (batch : CandidateBatch) {issue : Option CandidateIssue}
    (notification : ∀ i, issue = some i → i = .notificationFailed ∨ i = .notificationsDisabled) :
    SameScan (NotifyingLogSource.addDiagnostic batch issue) batch := by
  cases issue with
  | none => exact ⟨rfl, rfl, rfl, rfl, [], by simp, by simp [NotifyingLogSource.addDiagnostic]⟩
  | some issue =>
    refine ⟨rfl, rfl, rfl, rfl, [issue], ?_, List.mergeSort_perm _ _⟩
    simpa using notification issue rfl

section poll
variable {methods : LogCandidateSource S E} {pair : SourcePair S}
  {stopped : Bool} {change : Except CandidateError DirectoryChange} {env : E}

/-- What one sound call gives, beside the poll of the plain source. -/
structure Served (methods : LogCandidateSource S E) (pair : SourcePair S) (stopped : Bool)
    (change : Except CandidateError DirectoryChange) (env : E)
    (result : Except CandidateError CandidateBatch)
    (n : NotifyingLogSource (S × Option (List LogFileIdentity))) : Prop where
  inStep : InStep methods ⟨n, (methods.poll pair.plain env).2⟩
  same : ∀ batch, result = .ok batch → ∃ plain, (methods.poll pair.plain env).1 = .ok plain ∧
    SameScan batch plain
  kept : ¬ pair.notifying.cancels stopped change → ∀ cache, n.cache = some cache →
    ∃ plain, (methods.poll pair.plain env).1 = .ok plain ∧ isComplete plain = true ∧
      cache = cached plain

theorem scan_served {n : NotifyingLogSource (S × Option (List LogFileIdentity))}
    {issue : Option CandidateIssue} (source : n.source.1 = pair.plain)
    (taken : n.pendingIssue = none)
    (notification : ∀ i, issue = some i → i = .notificationFailed ∨ i = .notificationsDisabled) :
    Served methods pair stopped change env (n.scan (recorded methods) env issue).1
      (n.scan (recorded methods) env issue).2 := by
  have held : n.source = (pair.plain, n.source.2) := Prod.ext source rfl
  cases polled : (methods.poll pair.plain env).1 with
  | error error =>
    have scanned : n.scan (recorded methods) env issue = (.error error,
        { n with source := ((methods.poll pair.plain env).2, n.source.2), cache := none }) := by
      rw [NotifyingLogSource.scan, held, recorded_error _ polled]
    rw [scanned]
    refine ⟨⟨rfl, fun i some => ?_, fun cache some => ?_⟩, fun batch ok => ?_,
      fun _ cache some => ?_⟩
    · exact absurd (taken.symm.trans some) (by simp)
    · exact absurd some (by simp)
    · exact absurd ok (by simp)
    · exact absurd some (by simp)
  | ok batch =>
    have scanned : n.scan (recorded methods) env issue =
        (.ok (NotifyingLogSource.addDiagnostic batch issue), { n with
          source := ((methods.poll pair.plain env).2,
            if isComplete batch then some batch.observations else n.source.2)
          cache := if isComplete batch then some (cached batch) else none }) := by
      rw [NotifyingLogSource.scan, held, recorded_ok _ polled]
      rfl
    rw [scanned]
    refine ⟨⟨rfl, fun i some => ?_, fun cache some => ?_⟩, fun found ok => ?_,
      fun _ cache some => ?_⟩
    · exact absurd (taken.symm.trans some) (by simp)
    · simp only [Option.ite_none_right_eq_some, Option.some.injEq] at some
      obtain ⟨complete, rfl⟩ := some
      refine ⟨pair.plain, env, batch, polled, complete, ?_, rfl⟩
      simp only [complete, ↓reduceIte]
    · cases ok
      exact ⟨batch, polled, sameScan_added batch notification⟩
    · simp only [Option.ite_none_right_eq_some, Option.some.injEq] at some
      exact ⟨batch, polled, some.1, some.2.symm⟩

/-- A sound call keeps the sources in step, whichever way it is answered. -/
theorem poll_served (steady : Steady methods) (h : InStep methods pair)
    (sound : Sound methods pair (.poll stopped change env)) :
    Served methods pair stopped change env
      (pair.notifying.poll (recorded methods) stopped change env).1
      (pair.notifying.poll (recorded methods) stopped change env).2 := by
  obtain ⟨unchanged, cancelled⟩ := sound
  obtain ⟨cancels, n', answer, source, cache, pending⟩ |
    ⟨enabled, rfl, cache, n', held, answer, source, kept, pending⟩ |
    ⟨n', issue, source, pending, added, answer⟩ :=
      pair.notifying.poll_cases (recorded methods) stopped change env
  · have idle := cancelled cancels
    rw [h.agree] at idle
    rw [answer]
    refine ⟨⟨?_, fun i some => ?_, ?_⟩, fun batch ok => ?_, fun other => absurd cancels other⟩
    · rw [source, h.agree, idle]
    · rcases pending with same | none
      · exact h.pending i (same.symm.trans some)
      · exact absurd (none.symm.trans some) (by simp)
    · rw [source, cache]
      exact h.fresh
    · exact absurd ok (by simp)
  · obtain ⟨s, env', batch, polled, complete, last, rfl⟩ := h.fresh cache held
    obtain ⟨now, nowPolled, nowComplete, observed⟩ := unchanged enabled rfl
    rw [last] at nowPolled observed
    obtain ⟨removed, issues, settled⟩ := steady.repeats s env' batch env now polled complete nowPolled
      nowComplete (Option.some.inj observed).symm
    have plain : pair.plain = (methods.poll s env').2 := by rw [← h.agree, last]
    rw [← plain] at nowPolled settled
    have same : cached batch = cached now := by
      have complete' := complete
      simp only [isComplete, Bool.and_eq_true] at complete' nowComplete
      rw [cached, cached, complete'.1, complete'.2, nowComplete.1, nowComplete.2,
        Option.some.inj observed]
    rw [answer]
    refine ⟨⟨?_, fun i some => ?_, fun cache some => ?_⟩, fun found ok => ?_, fun _ cache some => ?_⟩
    · rw [source, h.agree, settled]
    · exact absurd (pending.symm.trans some) (by simp)
    · rw [kept, held, Option.some.injEq] at some
      exact ⟨s, env', batch, polled, complete, by rw [source, last], some.symm⟩
    · cases ok
      refine ⟨now, nowPolled, ?_⟩
      rw [same]
      exact ⟨rfl, rfl, rfl, removed.symm, [], by simp, by simp [issues, cached]⟩
    · rw [kept, held, Option.some.injEq] at some
      exact ⟨now, nowPolled, nowComplete, some.symm.trans same⟩
  · rw [answer]
    refine scan_served (source ▸ h.agree) pending fun i some => ?_
    rcases added i some with earlier | notification
    · exact .inr (h.pending i earlier)
    · exact notification

end poll

section runs
variable {methods : LogCandidateSource S E} {start pair : SourcePair S}

/-- A source that was just configured, next to itself. -/
def Configured (methods : LogCandidateSource S E) (start : SourcePair S) : Prop :=
  ∃ source hasMonitor options env monitor,
    NotifyingLogSource.new (recorded methods) (source, none) hasMonitor options env monitor =
      .ok start.notifying ∧
    start.plain = (methods.reconfigure source options env).2

theorem reconfigure_ok {n : NotifyingLogSource (S × Option (List LogFileIdentity))}
    {options : CandidateSourceOptions} {env : E} {monitor : Except CandidateError Unit}
    (source : n.source.1 = pair.plain)
    (done : (n.reconfigure (recorded methods) options env monitor).1 = .ok ()) :
    (n.reconfigure (recorded methods) options env monitor).2.cache = none ∧
    InStep methods ⟨(n.reconfigure (recorded methods) options env monitor).2,
      (methods.reconfigure pair.plain options env).2⟩ := by
  simp only [NotifyingLogSource.reconfigure, recorded] at done ⊢
  split at done
  · contradiction
  next next reconfigured =>
    obtain ⟨_, rfl⟩ := Prod.mk.inj reconfigured
    refine ⟨rfl, ?_, fun issue some => ?_, fun cache some => nomatch some⟩
    · rw [source]
    · simp only [Option.ite_none_right_eq_some, Option.some.injEq] at some
      exact some.2.symm

theorem reconfigure_error {n : NotifyingLogSource (S × Option (List LogFileIdentity))}
    {options : CandidateSourceOptions} {env : E} {monitor : Except CandidateError Unit}
    {error : CandidateError} (steady : Steady methods)
    (failed : (methods.reconfigure n.source.1 options env).1 = .error error) :
    n.reconfigure (recorded methods) options env monitor = (.error error, n) := by
  have kept := steady.preserves _ _ _ _ failed
  simp only [NotifyingLogSource.reconfigure, recorded, failed, kept]

theorem reconfigure_inStep (steady : Steady methods) (h : InStep methods pair)
    (options : CandidateSourceOptions) (env : E) (monitor : Except CandidateError Unit) :
    InStep methods (pair.perform methods (.reconfigure options env monitor)) := by
  cases outcome : (methods.reconfigure pair.notifying.source.1 options env).1 with
  | error error =>
    have kept := steady.preserves _ _ _ _ (h.agree ▸ outcome)
    simp only [SourcePair.perform, reconfigure_error steady outcome, kept]
    exact h
  | ok =>
    have done : (pair.notifying.reconfigure (recorded methods) options env monitor).1 = .ok () := by
      simp only [NotifyingLogSource.reconfigure, recorded, outcome]
    exact (reconfigure_ok h.agree done).2

theorem InStep.of_configured (configured : Configured methods start) : InStep methods start := by
  obtain ⟨source, hasMonitor, options, env, monitor, created, plain⟩ := configured
  unfold NotifyingLogSource.new at created
  split at created
  · contradiction
  next n reconfigured =>
    cases created
    have done := congrArg Prod.fst reconfigured
    have state := congrArg Prod.snd reconfigured
    have started := (@reconfigure_ok S E methods ⟨start.notifying, source⟩ _ _ _ _ rfl done).2
    rw [state, ← plain] at started
    exact started

theorem InStep.of_run (steady : Steady methods) (configured : Configured methods start)
    (run : Run (SourcePair.perform methods) (Sound methods) start pair) : InStep methods pair := by
  refine run.invariant (fun s op sound h => ?_) (.of_configured configured)
  cases op with
  | poll stopped change env => exact (poll_served steady h sound).inStep
  | reconfigure options env monitor => exact reconfigure_inStep steady h options env monitor

/-- In every run, a sound call gives the scan that polling the source itself gives, and what
stays cached is that very scan. A reconfiguration empties the cache. -/
theorem notifications_only_save_scans (steady : Steady methods)
    (configured : Configured methods start)
    (run : Run (SourcePair.perform methods) (Sound methods) start pair) :
    pair.notifying.source.1 = pair.plain ∧
    (∀ stopped change env, Sound methods pair (.poll stopped change env) →
      (∀ batch, (pair.notifying.poll (recorded methods) stopped change env).1 = .ok batch →
        ∃ plain, (methods.poll pair.plain env).1 = .ok plain ∧ SameScan batch plain) ∧
      (¬ pair.notifying.cancels stopped change → ∀ cache,
        (pair.notifying.poll (recorded methods) stopped change env).2.cache = some cache →
        ∃ plain, (methods.poll pair.plain env).1 = .ok plain ∧ isComplete plain = true ∧
          cache = cached plain)) ∧
    ∀ options env monitor,
      (pair.notifying.reconfigure (recorded methods) options env monitor).1 = .ok () →
      (pair.notifying.reconfigure (recorded methods) options env monitor).2.cache = none := by
  have h := InStep.of_run steady configured run
  refine ⟨h.agree, fun stopped change env sound => ?_, fun options env monitor done => ?_⟩
  · have served := poll_served steady h sound
    exact ⟨served.same, served.kept⟩
  · exact (reconfigure_ok h.agree done).1

end runs

/-- A source that finds its log in the third of its own polls. -/
def countingMethods : LogCandidateSource Nat Unit where
  poll polls _ :=
    (.ok { rootAvailable := true, scanComplete := true
           observations := if polls < 2 then [] else [sampleLog 1]
           removedPaths := [], issues := [] }, polls + 1)
  reconfigure polls _ _ := (.ok (), polls)

/-- Every answer of the monitor is sound, but the call that it saves is one that the source
would have counted. -/
theorem saved_scan_noticed :
    ¬ ∀ (S E : Type) (methods : LogCandidateSource S E) (start pair : SourcePair S) (stopped : Bool)
      (change : Except CandidateError DirectoryChange) (env : E), Configured methods start →
      Run (SourcePair.perform methods) (Sound methods) start pair →
      Sound methods pair (.poll stopped change env) → ∀ batch,
      (pair.notifying.poll (recorded methods) stopped change env).1 = .ok batch →
      ∃ plain, (methods.poll pair.plain env).1 = .ok plain ∧ SameScan batch plain := by
  intro claim
  let options : CandidateSourceOptions :=
    { root := ⟨utf8 "C:\\logs"⟩, recursive := true, maxCandidates := 1
      minimumLastWriteTime := none }
  let configured := (NotifyingLogSource.unconfigured (0, none) true).reconfigure
    (recorded countingMethods) options () (.ok ())
  let start : SourcePair Nat := ⟨configured.2, 0⟩
  have run : Run (SourcePair.perform countingMethods) (Sound countingMethods) start
      ((start.perform countingMethods (.poll false (.ok .changed) ())).perform countingMethods
        (.poll false (.ok .unchanged) ())) := by
    refine .step _ (.step _ .refl (sound_changed _)) ⟨fun _ _ => ⟨_, rfl, rfl, rfl⟩, ?_⟩
    exact fun cancelled => absurd cancelled (answered _ _)
  obtain ⟨plain, polled, same⟩ := claim Nat Unit countingMethods start _ false (.ok .changed) ()
    ⟨0, true, options, (), .ok (), rfl, rfl⟩ run (sound_changed _) _ rfl
  cases polled
  exact absurd same.2.2.1 (by decide)

end MannyUploader.Filesystem
