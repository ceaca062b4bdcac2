import MannyUploader.Application.AttemptLedger

/-! Receipts and provider states agree. The law speaks about one provider at a time, so a
change to one provider carries it over for the others by a frame lemma. -/
namespace MannyUploader.Domain
namespace UploadJobRecord

/-- The law that ties the receipt of a provider to its state. -/
def CoupledAt (record : UploadJobRecord) : Provider → Prop
  | .dpsReport =>
    record.dpsReportResult.isSome = true ↔ (record.providers .dpsReport).state = .succeeded
  | .wingman =>
    record.wingmanUploadReceipt.isSome = true → (record.providers .wingman).state = .succeeded
  | .donbot =>
    record.donbotUploadReceipt.isSome = true → (record.providers .donbot).state = .succeeded
  | .twitch =>
    ((record.providers .twitch).state = .succeeded ↔
      ∃ receipt, record.twitchDeliveryReceipt = some receipt ∧ receipt.status = .sent) ∧
    ∀ receipt, record.twitchDeliveryReceipt = some receipt → receipt.status ≠ .sent →
      (record.providers .twitch).state = .failed

def Coupled (record : UploadJobRecord) : Prop := ∀ provider, record.CoupledAt provider

def hasReceipt (record : UploadJobRecord) : Provider → Bool
  | .dpsReport => record.dpsReportResult.isSome
  | .wingman => record.wingmanUploadReceipt.isSome
  | .donbot => record.donbotUploadReceipt.isSome
  | .twitch => record.twitchDeliveryReceipt.isSome

/-- Two records with the same receipt of a provider. -/
def SameReceipt (first second : UploadJobRecord) : Provider → Prop
  | .dpsReport => first.dpsReportResult = second.dpsReportResult
  | .wingman => first.wingmanUploadReceipt = second.wingmanUploadReceipt
  | .donbot => first.donbotUploadReceipt = second.donbotUploadReceipt
  | .twitch => first.twitchDeliveryReceipt = second.twitchDeliveryReceipt

variable {record record' : UploadJobRecord} {provider : Provider}

theorem CoupledAt.frame (h : record.CoupledAt provider)
    (state : (record'.providers provider).state = (record.providers provider).state)
    (receipt : record'.SameReceipt record provider) : record'.CoupledAt provider := by
  cases provider <;> simpa only [CoupledAt, state, show _ = _ from receipt] using h

/-- Without a receipt every state but a success is lawful, and for the two destinations that
may succeed without one every state. -/
theorem coupledAt_of_none (none : record.hasReceipt provider = false)
    (unproved : (record.providers provider).state = .succeeded →
      provider = .wingman ∨ provider = .donbot) : record.CoupledAt provider := by
  cases provider <;> simp_all [CoupledAt, hasReceipt]

/-- Only a success keeps a receipt, and a dropped chat message keeps one in failure. -/
theorem CoupledAt.none (h : record.CoupledAt provider)
    (unsuccessful : (record.providers provider).state ≠ .succeeded)
    (undropped : provider = .twitch → (record.providers .twitch).state ≠ .failed) :
    record.hasReceipt provider = false := by
  cases provider with
  | twitch =>
    cases receipt : record.twitchDeliveryReceipt with
    | none => simp [hasReceipt, receipt]
    | some found =>
      obtain ⟨succeeded, dropped⟩ := h
      by_cases sent : found.status = .sent
      · exact absurd (succeeded.mpr ⟨found, receipt, sent⟩) unsuccessful
      · exact absurd (dropped found receipt sent) (undropped rfl)
  | _ => simp_all [CoupledAt, hasReceipt]

/-- A busy provider has nothing recorded. -/
theorem CoupledAt.none_of_busy (h : record.CoupledAt provider)
    (busy : (record.providers provider).state.isBusy = true) :
    record.hasReceipt provider = false := by
  refine h.none (fun achieved => ?_) fun _ achieved => ?_
  · simp [achieved, ProviderState.isBusy] at busy
  · subst_vars
    simp [achieved, ProviderState.isBusy] at busy

end UploadJobRecord
end MannyUploader.Domain

namespace MannyUploader.Application
open Domain Foundation Relation

namespace Entry
variable {entry : Entry} {provider other : Provider}

def Coupled (entry : Entry) : Prop := entry.job.record.Coupled

theorem become_sameReceipt (next : ProviderState) (detail : String) (other : Provider) :
    (entry.become provider next detail).job.record.SameReceipt entry.job.record other := by
  cases other <;> rfl

/-- A provider with nothing recorded may change its state. -/
theorem become_coupledAt (h : entry.job.record.CoupledAt other) (next : ProviderState)
    (detail : String) (none : other = provider → entry.job.record.hasReceipt other = false)
    (unproved : other = provider → next = .succeeded → other = .wingman ∨ other = .donbot) :
    (entry.become provider next detail).job.record.CoupledAt other := by
  have state := entry.become_state provider next detail other
  by_cases same : other = provider
  · rw [if_pos same] at state
    refine UploadJobRecord.coupledAt_of_none ?_ fun achieved =>
      unproved same (state.symm.trans achieved)
    cases other <;> exact none same
  · rw [if_neg same] at state
    exact h.frame state (become_sameReceipt next detail other)

variable (provider) in
theorem redeliver_coupledAt (h : entry.job.record.CoupledAt other) :
    (entry.redeliver provider).job.record.CoupledAt other := by
  have state := entry.redeliver_state provider other
  by_cases same : other = provider
  · subst same
    rw [if_pos rfl] at state
    refine UploadJobRecord.coupledAt_of_none ?_ fun achieved => ?_
    · cases other <;> rfl
    · exact absurd (state.symm.trans achieved) (by simp)
  · rw [if_neg same] at state
    refine h.frame state ?_
    cases other <;> cases provider <;> first | rfl | exact absurd rfl same

/-- Starting an attempt only concerns the state of its provider. -/
theorem offered_coupledAt (h : entry.job.record.CoupledAt other) {job : UploadJob}
    {metadata : EncounterMetadata} (offer : Offer entry provider job metadata) :
    job.record.CoupledAt other := by
  have state := offer_state offer
  have waits := offer.queued.isBusy.1
  obtain ⟨attempts, -, rfl⟩ := offer.activated
  by_cases same : other = provider
  · subst same
    have none := h.none_of_busy waits
    refine UploadJobRecord.coupledAt_of_none ?_ fun achieved => ?_
    · cases other <;> exact none
    · have := state other
      rw [if_pos rfl] at this
      exact absurd (this.symm.trans achieved) (by simp)
  · refine h.frame ((state other).trans (if_neg same)) ?_
    cases other <;> rfl

theorem received_coupledAt (h : entry.job.record.CoupledAt other) {record : UploadJobRecord}
    {next : ProviderState} (detail : String) (active : entry.state provider = .active)
    (recorded : Recorded entry.job.record provider next record) :
    (Entry.become { entry with job := { entry.job with record } } provider next
      detail).job.record.CoupledAt other := by
  have state := Entry.become_state { entry with job := { entry.job with record } } provider next
    detail other
  by_cases same : other = provider
  · subst same
    have none := h.none_of_busy
      (show (entry.state other).isBusy = true by rw [active]; rfl)
    rw [if_pos rfl] at state
    cases recorded with
    | report => exact ⟨fun _ => state, fun _ => rfl⟩
    | wingman => exact fun _ => state
    | donbot => exact fun _ => state
    | unreceipted _ which =>
      refine UploadJobRecord.coupledAt_of_none ?_ fun _ => which
      cases other <;> exact none
    | twitch receipt _ _ _ ending =>
      refine ⟨⟨fun achieved => ⟨receipt, rfl, ?_⟩, ?_⟩, ?_⟩
      · rcases ending with sent | dropped
        · exact sent.1
        · exact absurd (dropped.2.symm.trans (state.symm.trans achieved)) (by simp)
      · rintro ⟨found, eq, sent⟩
        cases eq
        rcases ending with ended | dropped
        · exact state.trans ended.2
        · exact absurd sent dropped.1
      · rintro found eq unsent
        cases eq
        rcases ending with ended | dropped
        · exact absurd ended.1 unsent
        · exact state.trans dropped.2
    | unsuccessful _ _ ending =>
      refine UploadJobRecord.coupledAt_of_none ?_ fun achieved => ?_
      · cases other <;> exact none
      · rw [state.symm.trans achieved] at ending
        simp [ProviderState.isRetryScheduled] at ending
  · rw [if_neg same] at state
    have before : Entry.state { entry with job := { entry.job with record } } other =
        entry.state other := by
      simp only [Entry.state, UploadJob.providerStatus, recorded.same.1]
    refine h.frame (state.trans before) ?_
    cases recorded <;> cases other <;> first | rfl | exact absurd rfl same

end Entry

/-- A move keeps the law of each provider on its own. -/
theorem Move.coupledAt {revivable : UploadJobId → Provider → UploadIntent → Prop}
    {s s' : Entry × Tape W} {other : Provider} (move : Move revivable s s')
    (h : s.1.job.record.CoupledAt other) : s'.1.job.record.CoupledAt other := by
  cases move with
  | parsed => exact h.frame rfl (by cases other <;> rfl)
  | unparsed => exact h
  | settled provider next detail waits ending =>
    refine Entry.become_coupledAt h next detail (fun same => h.none_of_busy ?_)
      fun _ achieved => ?_
    · rw [same]
      exact waits.isBusy.1
    · rcases ending with rfl | rfl | rfl <;> cases achieved
  | @accepted _ _ job _ provider world offer => exact Entry.offered_coupledAt h offer
  | @rejected entry _ job _ provider error world offer =>
    have started := Entry.offered_coupledAt h offer
    refine Entry.become_coupledAt started .failed _ (fun same => started.none_of_busy ?_) nofun
    rw [same]
    exact congrArg ProviderState.isBusy ((Entry.offer_state offer provider).trans (if_pos rfl))
  | received result next detail _ active _ recorded =>
    exact Entry.received_coupledAt h detail active recorded
  | @rearmed entry _ provider failed =>
    by_cases chat : provider = .twitch
    · subst chat
      exact Entry.redeliver_coupledAt .twitch h
    · have kept : (entry.armed provider).job = (entry.become provider .waiting "").job := by
        unfold Entry.armed
        rw [if_neg chat]
      rw [kept]
      refine Entry.become_coupledAt h .waiting "" (fun same => ?_) nofun
      subst same
      refine h.none ?_ fun same => absurd same chat
      rw [show (entry.job.record.providers other).state = .failed from failed]
      simp
  | @revived entry _ dependent _ skipped =>
    have state : (entry.job.record.providers dependent).state = .skipped := skipped
    refine Entry.become_coupledAt h .waiting "" (fun same => ?_) nofun
    subst same
    refine h.none (by simp [state]) fun same => ?_
    subst same
    simp [state]
  | marked => exact h
  | reset provider => exact Entry.redeliver_coupledAt provider h
  | rechatted => exact Entry.redeliver_coupledAt .twitch h

theorem EntryStep.coupledAt {ports : UploadPorts W} {installed : Provider → Bool}
    {revivable : UploadJobId → Provider → UploadIntent → Prop} {s s' : Entry × Tape W}
    {other : Provider} (step : EntryStep ports installed revivable s s')
    (h : s.1.job.record.CoupledAt other) : s'.1.job.record.CoupledAt other := by
  have moves := step.moves
  clear step
  induction moves with
  | refl => exact h
  | tail _ last ih => exact last.coupledAt ih

theorem Entry.cancel_coupledAt {entry : Entry} {provider : Provider}
    (h : entry.job.record.CoupledAt provider) :
    entry.cancel.job.record.CoupledAt provider := by
  have state : (entry.cancel.job.record.providers provider).state =
      (Entry.abandon (entry.job.record.providers provider)).state :=
    congrArg ProviderStatus.state (entry.cancel_providerStatus provider)
  have receipt : entry.cancel.job.record.SameReceipt entry.job.record provider := by
    rw [entry.cancel_eq]
    cases provider <;> rfl
  unfold Entry.abandon at state
  split at state
  · rename_i busy
    have none := h.none_of_busy busy
    refine UploadJobRecord.coupledAt_of_none ?_ fun achieved => by simp [state] at achieved
    rw [entry.cancel_eq]
    cases provider <;> exact none
  · exact h.frame state receipt

/-- Interrupting a restored record keeps its receipts lawful. -/
theorem coupledAt_restored {id : UploadJobId} {record : UploadJobRecord} {job : UploadJob}
    {provider : Provider} (h : record.CoupledAt provider)
    (restored : UploadJob.restore id record = .ok job) : job.record.CoupledAt provider := by
  obtain ⟨-, rfl⟩ := UploadJob.restore_ok restored
  by_cases busy : (record.providers provider).state.isBusy = true
  · have none := h.none_of_busy busy
    refine UploadJobRecord.coupledAt_of_none ?_ fun achieved => ?_
    · cases provider <;> exact none
    · simp [UploadJob.interrupt, busy] at achieved
  · refine h.frame ?_ ?_
    · simp [UploadJob.interrupt, busy]
    · cases provider <;> rfl

theorem coupled_new {id : UploadJobId} {file : LogFileIdentity} {now : SystemTime}
    {enabled : ProviderSelection} {job : UploadJob}
    (fresh : UploadJob.new id file now enabled = .ok job) : job.record.Coupled := by
  obtain ⟨-, -, rfl⟩ := UploadJob.new_ok fresh
  intro provider
  refine UploadJobRecord.coupledAt_of_none ?_ fun achieved => ?_
  · cases provider <;> rfl
  · dsimp only [ProviderStatus.initial] at achieved
    split at achieved <;> cases achieved

/-- A success whose payload is its provider's own and passes its checks. -/
def UploadSuccess.fits : Provider → UploadSuccess → Bool
  | .dpsReport, .dpsReport report => !report.permalink.isEmpty
  | .wingman, .wingman receipt => receipt.all (!·.permalink.isEmpty)
  | .donbot, .donbot receipt => receipt.all (·.isValid)
  | .twitch, .twitch receipt => receipt.isValid && receipt.status = .sent
  | _, _ => false

namespace Entry
variable {entry : Entry} {provider : Provider} {success : UploadSuccess}

theorem transition_succeeded {job : UploadJob} (detail : String)
    (active : (job.providerStatus provider).state = .active) (ordinary : provider ≠ .dpsReport)
    (sent : provider = .twitch →
      job.record.twitchDeliveryReceipt.any (·.status = .sent) = true) :
    ∃ job', job.transition provider .succeeded detail = .ok job' := by
  unfold UploadJob.transition
  dsimp only
  rw [if_neg (by rw [active]; simp), if_neg (by simp [ordinary]), if_neg (by simp),
    if_neg (by rintro ⟨chat, -, unsent⟩; simp [sent chat] at unsent)]
  exact ⟨_, rfl⟩

/-- Nothing that an active attempt of a lawful entry earned is turned away. -/
theorem recordSuccess_fits (h : entry.Coupled) (active : entry.state provider = .active)
    (fits : success.fits provider = true) (detail : Option String) :
    ∃ job, recordSuccess entry.job provider success detail = .ok job ∧
      (provider ≠ .dpsReport → (job.providerStatus provider).state = .active ∧
        (provider = .twitch →
          job.record.twitchDeliveryReceipt.any (·.status = .sent) = true)) := by
  have none := (h provider).none_of_busy
    (show (entry.state provider).isBusy = true by rw [active]; rfl)
  unfold UploadSuccess.fits at fits
  split at fits
  · rename_i report
    exact ⟨_, by rw [recordSuccess, UploadJob.completeDpsReport_active active (by simpa using fits)]; rfl,
      fun other => absurd rfl other⟩
  · rename_i receipt
    cases receipt with
    | none => exact ⟨_, rfl, fun _ => ⟨active, nofun⟩⟩
    | some receipt =>
      have valid : (!receipt.permalink.isEmpty) = true := by simpa using fits
      refine ⟨{ entry.job with record := { entry.job.record with
        wingmanUploadReceipt := some receipt } }, ?_, fun _ => ⟨active, nofun⟩⟩
      rw [recordSuccess, UploadJob.recordWingmanUpload, show Option.isSome _ = false from none,
        valid, UploadJob.recordReceipt_active _ _ _ active]
      rfl
  · rename_i receipt
    cases receipt with
    | none => exact ⟨_, rfl, fun _ => ⟨active, nofun⟩⟩
    | some receipt =>
      have valid : receipt.isValid = true := by simpa using fits
      refine ⟨{ entry.job with record := { entry.job.record with
        donbotUploadReceipt := some receipt } }, ?_, fun _ => ⟨active, nofun⟩⟩
      rw [recordSuccess, UploadJob.recordDonbotUpload, show Option.isSome _ = false from none,
        valid, UploadJob.recordReceipt_active _ _ _ active]
      rfl
  · rename_i receipt
    rw [Bool.and_eq_true, decide_eq_true_eq] at fits
    refine ⟨{ entry.job with record := { entry.job.record with
      twitchDeliveryReceipt := some receipt } }, ?_, fun _ => ⟨active, fun _ => by
        simpa using fits.2⟩⟩
    rw [recordSuccess, UploadJob.recordTwitchDelivery, show Option.isSome _ = false from none,
      fits.1, UploadJob.recordReceipt_active _ _ _ active]
    rfl
  · cases fits

theorem applyResult_fits {W : Type} (h : entry.Coupled) (ports : UploadPorts W)
    (installed : Provider → Bool) (tape : Tape W) {result : UploadResult}
    (active : entry.state result.provider = .active)
    (current : entry.attempts result.provider = result.attempt)
    (fits : success.fits result.provider = true)
    (outcome : result.outcome = .succeeded success ∨
      ∃ notice, result.outcome = .succeededWithNotice success notice) :
    ∃ out, entry.applyResult ports installed result tape = .ok out := by
  obtain ⟨job, recorded, moves⟩ :=
    recordSuccess_fits h active fits (outcomeDetail result.outcome)
  have shape : ∀ now, recordOutcome entry.job now result.provider result.outcome =
      .ok (job, .succeeded) := by
    intro now
    rcases outcome with eq | ⟨notice, eq⟩ <;>
      rw [eq] at recorded ⊢ <;> simp only [recordOutcome, recorded, bind, Except.bind]
  have completed : ∀ now, ∃ job', entry.completeAttempt now result = .ok (job', .succeeded) := by
    intro now
    unfold completeAttempt
    rw [if_neg (by simp [active, current]), shape]
    simp only [bind, Except.bind, and_true]
    split
    · exact ⟨_, rfl⟩
    · rename_i ordinary
      obtain ⟨job', done⟩ := transition_succeeded
        ((outcomeDetail result.outcome).getD (stateDetail .succeeded)) (moves ordinary).1 ordinary
        (moves ordinary).2
      exact ⟨job', by rw [done]; rfl⟩
  obtain ⟨job', done⟩ := completed (ports.steadyNow tape.world)
  unfold applyResult
  rw [done]
  simp only [bind, Except.bind, ↓reduceIte]
  split <;> exact ⟨_, rfl⟩

end Entry
/-- Every retained job obeys the receipt laws, and nothing is busy after a shutdown. -/
structure Lawful (s : Running W) : Prop where
  coupled : ∀ entry ∈ s.1.jobs, entry.Coupled
  shutDown : s.1.stopping = true → ∀ entry ∈ s.1.jobs, entry.busy = false

theorem Lawful.step {ports : UploadPorts W}
    {revivable : UploadJobId → Provider → UploadIntent → Prop} {s s' : Running W}
    (taken : Step ports revivable UploadJobRecord.Coupled s s') (h : Lawful s) : Lawful s' := by
  cases taken with
  | churned churn =>
    cases churn with
    | worked running found step =>
      refine ⟨forall_replaced found h.coupled fun coupled => ?_, fun stopped => ?_⟩
      · exact fun provider => step.coupledAt (coupled provider)
      · exact absurd (running.symm.trans stopped) (by simp)
    | evicted found _ =>
      exact ⟨fun entry member => h.coupled entry (mem_of_without found member),
        fun stopped entry member => h.shutDown stopped entry (mem_of_without found member)⟩
    | adjusted => exact ⟨h.coupled, h.shutDown⟩
    | elapsed => exact ⟨h.coupled, h.shutDown⟩
    | stopped =>
      refine ⟨fun entry member => ?_, fun _ entry member => ?_⟩ <;>
        obtain ⟨before, retained, rfl⟩ := List.mem_map.mp member
      · exact fun provider => Entry.cancel_coupledAt (h.coupled before retained provider)
      · exact before.cancel_idle
  | admitted file enabled running _ _ fresh =>
    refine ⟨fun entry member => ?_, fun stopped => ?_⟩
    · rcases List.mem_append.mp member with retained | new
      · exact h.coupled entry retained
      · rw [List.mem_singleton.mp new]
        exact coupled_new fresh
    · exact absurd (running.symm.trans stopped) (by simp)
  | restored records running _ _ _ _ lawful restored =>
    refine ⟨fun entry member => ?_, fun stopped => ?_⟩
    · obtain ⟨entries, -⟩ := UploadCoordinator.restoreJobs_ok restored
      obtain ⟨record, listed, -, id, restored⟩ := exists_of_forall₂ entries member
      exact fun provider => coupledAt_restored (lawful record listed provider) restored
    · exact absurd (running.symm.trans stopped) (by simp)

namespace UploadCoordinator
variable {ports : UploadPorts W} {providers : List Provider} {historyLimit : Nat}
  {c : UploadCoordinator} {world : W} {s : Running W}

/-- A restore may bring in records that satisfy the law; nothing else is asked of a run. -/
def RestoresCoupled (_ : Running W) : CoordinatorOp W → Prop
  | .restore records => ∀ record ∈ records, record.Coupled
  | _ => True

/-- In every reachable state the receipts of a job agree with its states. Hence an active
provider has none, and a fitting success of its attempt is always taken. -/
theorem receipts_coupled (created : new providers historyLimit = .ok c)
    (run : Run (perform ports) RestoresCoupled (c, ⟨world, []⟩) s) :
    ∀ entry ∈ s.1.jobs, entry.job.record.Coupled ∧
      ∀ provider, entry.state provider = .active →
        entry.job.record.hasReceipt provider = false ∧
        ∀ success : UploadSuccess, success.fits provider = true → ∀ result : UploadResult,
          result.jobId = entry.job.id → result.provider = provider →
          result.attempt = entry.attempts provider →
          (result.outcome = .succeeded success ∨
            ∃ notice, result.outcome = .succeededWithNotice success notice) →
          (s.1.applyResult ports result s.2).1 = .ok () := by
  have lawful : Lawful s := by
    refine run_invariant (fun _ _ _ => True) UploadJobRecord.Coupled run (fun s op met => ?_)
      (fun _ _ taken h => h.step taken) ?_
    · cases op <;> first | exact met | simp [CoordinatorOp.Guarded, Entry.Revives]
    · obtain ⟨empty, -, -, running⟩ := new_ok created
      exact ⟨by simp [empty], by simp [running]⟩
  have ledger := ledger_of_run created (run.mono fun _ _ _ => trivial)
  refine fun entry member => ⟨lawful.coupled entry member, fun provider active => ⟨?_, ?_⟩⟩
  · exact (lawful.coupled entry member provider).none_of_busy
      (congrArg ProviderState.isBusy active)
  · rintro success fits result named rfl current outcome
    have running : s.1.stopping = false := by
      by_contra stopped
      have idle := lawful.shutDown (by simpa using stopped) entry member
      simp only [Entry.busy, Bool.or_eq_false_iff, List.any_eq_false] at idle
      have := idle.2 result.provider result.provider.mem_all
      simp [active, ProviderState.isBusy] at this
    obtain ⟨before, other, after, split⟩ :=
      splitFirst_isSome (p := fun entry => decide (entry.job.id = result.jobId)) member
        (by simp [named])
    have same : other = entry := by
      obtain ⟨eq, mine, -⟩ := splitFirst_eq_some split
      exact ledger.distinct (by simp [eq]) member ((by simpa using mine : other.job.id = _).trans
        named)
    subst same
    obtain ⟨out, applied⟩ := Entry.applyResult_fits (lawful.coupled other member) ports
      s.1.installed s.2 active current.symm fits outcome
    have found : s.1.index result.jobId = .ok (before, other, after) := by
      unfold index
      rw [split]
    unfold applyResult requireRunning
    rw [running, found]
    simp only [bind, Except.bind, Bool.false_eq_true, ↓reduceIte, applied]

/-- The laws after a complete delivery and a chat message sent again. -/
theorem receipts_coupled_sample :
    let s := (sampleDelivery ++ [CoordinatorOp.rechat sampleJobId]).foldl (perform acceptingPorts)
      (sampleStart ⟨100, by decide⟩)
    (s.1.jobs.map fun entry : Entry => entry.state .twitch) = [.active] ∧
      ∀ entry ∈ s.1.jobs, entry.job.record.Coupled :=
  ⟨by decide, fun entry member => (receipts_coupled (show new Provider.all 100 = .ok _ from rfl)
    (.of_list (perform acceptingPorts) (sampleStart ⟨100, by decide⟩)
      (sampleDelivery ++ [CoordinatorOp.rechat sampleJobId])
      (by simp [sampleDelivery, Provider.all, RestoresCoupled])) entry member).1⟩

end UploadCoordinator
end MannyUploader.Application
