import MannyUploader.Application.EntryLaws
import MannyUploader.Application.ReceiptLaws

/-! What a request carries of the report it depends on. -/
namespace MannyUploader.Domain

def UploadJob.isWvw (job : UploadJob) : Bool :=
  job.record.encounterMetadata.any (·.bossId = wvwBossId)

end MannyUploader.Domain

namespace MannyUploader.Application
open Domain Foundation Relation

/-- The job's report, once dps.report has succeeded. -/
def CarriesReport (job : UploadJob) (request : UploadRequest) : Prop :=
  (job.providerStatus .dpsReport).state = .succeeded ∧ job.record.dpsReportResult.isSome = true ∧
    request.dpsReportResult = job.record.dpsReportResult

/-- What a request of each provider needs of the job it is handed over with. -/
def Event.Depends : Event → Prop
  | .enqueued job request _ => request.jobId = job.id ∧
    match request.provider with
    | .dpsReport => request.dpsReportResult = none
    | .twitch => CarriesReport job request
    | .wingman => (CarriesReport job request ∨
        (job.providerStatus .dpsReport).state = .disabled ∧ request.dpsReportResult = none) ∧
      job.isWvw = false
    | .donbot => CarriesReport job request ∨
        (job.providerStatus .dpsReport).state = .disabled ∧ request.dpsReportResult = none
  | _ => True

section offer
variable {entry : Entry} {provider : Provider} {job : UploadJob} {metadata : EncounterMetadata}

/-- An offer to a dependent leaves the report and its state as the entry has them. -/
theorem Offer.report (offer : Offer entry provider job metadata) (other : provider ≠ .dpsReport) :
    (job.providerStatus .dpsReport).state = entry.state .dpsReport ∧
      job.record.dpsReportResult = entry.job.record.dpsReportResult := by
  refine ⟨?_, ?_⟩
  · have state := Entry.offer_state offer .dpsReport
    rwa [if_neg other.symm] at state
  · obtain ⟨attempts, -, rfl⟩ := offer.activated
    rfl

theorem Offer.carries (offer : Offer entry provider job metadata)
    (h : entry.job.record.CoupledAt .dpsReport) (other : provider ≠ .dpsReport) :
    CarriesReport job (entry.request job provider metadata) ∨
      provider ≠ .twitch ∧ (job.providerStatus .dpsReport).state = .disabled ∧
        (entry.request job provider metadata).dpsReportResult = none := by
  obtain ⟨state, report⟩ := offer.report other
  have carried : (entry.request job provider metadata).dpsReportResult =
      job.record.dpsReportResult := if_neg other
  rcases Entry.requireDependency_ok offer.depends with same | ⟨silent, disabled⟩ | ⟨ready, some⟩
  · exact absurd same other
  · refine .inr ⟨silent, state.trans disabled, ?_⟩
    rw [carried, report]
    refine Option.not_isSome_iff_eq_none.mp fun some => ?_
    have succeeded : entry.state .dpsReport = .succeeded := h.mp some
    simp [disabled] at succeeded
  · exact .inl ⟨state.trans ready, by rw [report]; exact some, carried⟩

theorem Offer.depended (offer : Offer entry provider job metadata)
    (h : entry.job.record.CoupledAt .dpsReport) (answer : Except ProviderError Unit) :
    (Event.enqueued job (entry.request job provider metadata) answer).Depends := by
  refine ⟨rfl, ?_⟩
  cases provider with
  | dpsReport => rfl
  | twitch =>
    rcases offer.carries h (by simp) with carries | ⟨other, -⟩
    · exact carries
    · exact absurd rfl other
  | wingman =>
    refine ⟨(offer.carries h (by simp)).imp id And.right, ?_⟩
    have outside := offer.elsewhere rfl
    obtain ⟨attempts, -, rfl⟩ := offer.activated
    exact outside
  | donbot => exact (offer.carries h (by simp)).imp id And.right

end offer

theorem Move.depends {revivable : UploadJobId → Provider → UploadIntent → Prop}
    {s s' : Entry × Tape W} (move : Move revivable s s')
    (past : ∀ event ∈ s.2.events, event.Depends) (h : s.1.job.record.CoupledAt .dpsReport) :
    ∀ event ∈ s'.2.events, event.Depends := by
  cases move with
  | accepted provider world offer =>
    exact List.forall_mem_append.mpr ⟨past, by simpa using offer.depended h (.ok ())⟩
  | rejected provider error world offer =>
    exact List.forall_mem_append.mpr ⟨past, by simpa using offer.depended h (.error error)⟩
  | received => exact List.forall_mem_append.mpr ⟨past, by simp [Event.Depends]⟩
  | _ => exact past

theorem dependencyLaw : EntryLaw W (fun _ _ _ => True) (·.CoupledAt .dpsReport) (fun _ => False)
    (fun events => ∀ event ∈ events, event.Depends)
    fun _ entry => entry.job.record.CoupledAt .dpsReport where
  moved _ _ move past h := ⟨move.depends past h, move.coupledAt h⟩
  foreign _ _ _ h _ := h
  noted events more past quiet := by
    refine List.forall_mem_append.mpr ⟨past, fun event member => ?_⟩
    have silent := quiet event member
    cases event <;> first | exact trivial | cases silent
  cancelled _ _ h := Entry.cancel_coupledAt h
  created _ _ _ _ _ _ _ fresh _ _ := coupled_new fresh .dpsReport
  brought _ _ _ _ _ lawful restored _ _ := coupledAt_restored lawful restored

namespace UploadCoordinator
variable {ports : UploadPorts W} {providers : List Provider} {historyLimit : Nat}
  {c : UploadCoordinator} {world : W} {s : Running W}

/-- A restore may bring in records that hold a report exactly when dps.report succeeded. -/
def RestoresReported (_ : Running W) : CoordinatorOp W → Prop
  | .restore records => ∀ record ∈ records, record.dpsReportResult.isSome = true ↔
      (record.providers .dpsReport).state = .succeeded
  | _ => True

/-- Every request that ever leaves the coordinator carries the report its job has, and only
leaves when its provider may run without one or with that one. -/
theorem requests_depend (created : new providers historyLimit = .ok c)
    (run : Run (perform ports) RestoresReported (c, ⟨world, []⟩) s) :
    ∀ event ∈ s.2.events, event.Depends := by
  refine (dependencyLaw.run run (fun s op met => ?_) (EntryLaw.holds_new created (by simp) (by simp))).past
  cases op with
  | restore records => exact met
  | retryFailed => simp [CoordinatorOp.Guarded, Entry.Revives]
  | _ => trivial

/-- The requests of a delivery that is uploaded again once it is complete. -/
theorem requests_depend_sample :
    let s := (sampleDelivery ++ [CoordinatorOp.reupload sampleJobId,
      .applyResult (sampleSuccess .dpsReport 2)]).foldl (perform acceptingPorts)
      (sampleStart ⟨100, by decide⟩)
    (acceptedAttempts s.2.events).length = 7 ∧ ∀ event ∈ s.2.events, event.Depends :=
  ⟨by decide, requests_depend (show new Provider.all 100 = .ok _ from rfl)
    (.of_list (perform acceptingPorts) (sampleStart ⟨100, by decide⟩)
      (sampleDelivery ++ [CoordinatorOp.reupload sampleJobId,
        .applyResult (sampleSuccess .dpsReport 2)])
      (by simp [sampleDelivery, Provider.all, RestoresReported]))⟩

end UploadCoordinator
end MannyUploader.Application
