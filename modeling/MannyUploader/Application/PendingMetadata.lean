import MannyUploader.Application.CoordinatorSteps

/-! The jobs whose metadata is awaited. Only a result for the job, its refusal and a shutdown
end the wait, and a job that waits is never evicted. -/
namespace MannyUploader.Application
open Domain Foundation

namespace Entry
variable {ports : UploadPorts W} {installed : Provider → Bool} {entry entry' : Entry}
  {tape : Tape W} {provider : Provider}

/-- The part of an entry that the wait for its metadata depends on. -/
def label (entry : Entry) : UploadJobId × Bool := (entry.job.id, entry.metadataPending)

/-- The identifier of a job that waits for its metadata. -/
def awaited (entry : Entry) : Option UploadJobId :=
  if entry.metadataPending then some entry.job.id else none

theorem awaited_of_label (same : entry'.label = entry.label) : entry'.awaited = entry.awaited := by
  obtain ⟨id, pending⟩ := Prod.mk.inj same
  rw [awaited, awaited, id, pending]

theorem awaited_of_idle (idle : entry.busy = false) : entry.awaited = none := by
  simp only [busy, Bool.or_eq_false_iff] at idle
  simp [awaited, idle.1]

@[simp] theorem become_label (next : ProviderState) (detail : String) :
    (entry.become provider next detail).label = entry.label := rfl
@[simp] theorem redeliver_label : (entry.redeliver provider).label = entry.label := rfl
@[simp] theorem armed_label : (entry.armed provider).label = entry.label := by
  cases provider <;> rfl
@[simp] theorem marked_label : entry.marked.label = entry.label := rfl

@[simp] theorem takeUp_label : (entry.takeUp provider).label = entry.label := by
  unfold takeUp; split <;> rfl
@[simp] theorem renew_label : (entry.renew provider).label = entry.label := by
  unfold renew; split <;> rfl

@[simp] theorem tryTransition_label (next : ProviderState) (detail : String) :
    (entry.tryTransition provider next detail).label = entry.label := by
  unfold tryTransition
  split
  · rename_i job moved
    obtain ⟨attempts, -, rfl⟩ := (UploadJob.transition_ok moved).result
    rfl
  · rfl

@[simp] theorem settleDependents_label (cancelled : Bool) :
    (entry.settleDependents cancelled).label = entry.label := by
  unfold settleDependents
  generalize dependents = ds
  induction ds generalizing entry with
  | nil => rfl
  | cons d ds ih =>
    rw [List.foldl_cons, ih]
    unfold settleDependent
    split
    · rfl
    split
    · exact tryTransition_label _ _
    · rfl

@[simp] theorem failDispatch_label : (entry.failDispatch provider).label = entry.label := by
  unfold failDispatch
  dsimp only
  split <;> simp

theorem skipWingman_label (h : entry.skipWingman = .ok entry') : entry'.label = entry.label := by
  rw [(skipWingman_ok h).2]
  rfl

@[simp] theorem dispatch_label :
    (entry.dispatch ports installed provider tape).2.1.label = entry.label := by
  have active : ∀ {metadata job}, entry.prepareDispatch installed provider = .ok (metadata, job) →
      label { entry with job } = entry.label := by
    intro metadata job prepared
    obtain ⟨attempts, -, rfl⟩ := (prepareDispatch_ok prepared).2.2.2.result
    rfl
  unfold dispatch
  split
  · split
    · rename_i skipped; exact skipWingman_label skipped
    · rfl
  · split
    · exact failDispatch_label
    · rename_i prepared
      split
      · exact active prepared
      · rw [failDispatch_label]; exact active prepared

@[simp] theorem dispatchWaiting_label :
    (entry.dispatchWaiting ports installed provider tape).2.1.label = entry.label := by
  unfold dispatchWaiting
  split
  · exact dispatch_label
  · rfl

@[simp] theorem fanOut_label : (entry.fanOut ports installed tape).1.label = entry.label := by
  have rounds : ∀ (ds : List Provider) (s : Entry × Tape W),
      (ds.foldl (fun s dependent =>
        if dependent ≠ .twitch ∨ !s.1.reupload then
          (s.1.dispatchWaiting ports installed dependent s.2).2
        else s) s).1.label = s.1.label := by
    intro ds
    induction ds with
    | nil => exact fun _ => rfl
    | cons d ds ih =>
      intro s
      rw [List.foldl_cons, ih]
      split
      · exact dispatchWaiting_label
      · rfl
  exact rounds dependents (entry, tape)

theorem applyResult_label {result : UploadResult} {out : Entry × Tape W}
    (h : entry.applyResult ports installed result tape = .ok out) :
    out.1.label = entry.label := by
  unfold applyResult at h
  obtain ⟨⟨job, next⟩, completed, h⟩ := bind_ok h
  obtain ⟨-, -, record, detail, -, -, -, eq⟩ := completeAttempt_ok completed
  have same : label { entry with job } = entry.label := by rw [eq]; rfl
  dsimp only at h
  split at h
  · split at h
    · cases h; rw [fanOut_label, same]
    split at h
    · cases h; rw [settleDependents_label, same]
    · cases h; exact same
  · cases h; exact same

theorem setMetadata_pending {metadata : EncounterMetadata}
    {out : Except CoordinatorError Unit × Entry × Tape W}
    (missing : entry.job.record.encounterMetadata = none)
    (h : entry.setMetadata ports installed metadata tape = .ok out) :
    out.2.1.metadataPending = false := by
  have ready : (entry.withMetadata metadata).withoutWingman.metadataPending = false := by
    unfold withoutWingman
    split <;> rfl
  rw [setMetadata_eq metadata missing] at h
  cases h
  dsimp only
  split
  · exact (congrArg Prod.snd dispatch_label).trans ready
  · exact (congrArg Prod.snd (dispatchWaiting_label.trans dispatchWaiting_label)).trans ready

theorem failMetadata_pending {cancelled : Bool} (h : entry.failMetadata cancelled = .ok entry') :
    entry'.metadataPending = false := by
  rw [failMetadata_eq] at h
  cases h
  have rounds : ∀ (providers : List Provider) (entry : Entry),
      (providers.foldl (giveUp cancelled) entry).metadataPending = entry.metadataPending := by
    intro providers
    induction providers with
    | nil => exact fun _ => rfl
    | cons p ps ih =>
      intro entry
      rw [List.foldl_cons, ih]
      unfold giveUp
      split <;> rfl
  exact rounds _ _

theorem rearm_label (h : entry.rearm provider = .ok entry') : entry'.label = entry.label := by
  obtain ⟨-, rfl⟩ := rearm_ok h
  split
  · simp
  split
  · simp [dependents]
  · simp

theorem prepareReupload_label (h : entry.prepareReupload = .ok entry') :
    entry'.label = entry.label := by
  obtain ⟨-, -, rfl⟩ := prepareReupload_ok h
  split <;> simp

theorem prepareRechat_label (h : entry.prepareRechat = .ok entry') :
    entry'.label = entry.label := by
  obtain ⟨-, -, -, rfl⟩ := prepareRechat_ok h
  rfl

end Entry

namespace UploadCoordinator
variable {ports : UploadPorts W} {c : UploadCoordinator} {tape : Tape W} {before after : List Entry}
  {entry entry' : Entry} {id : UploadJobId}

/-- The identifiers of the retained jobs that wait for their metadata. -/
def pendingIds (c : UploadCoordinator) : List UploadJobId := c.jobs.filterMap Entry.awaited

theorem mem_pendingIds : id ∈ c.pendingIds ↔
    ∃ entry ∈ c.jobs, entry.metadataPending = true ∧ entry.job.id = id := by
  simp only [pendingIds, List.mem_filterMap, Entry.awaited]
  constructor
  · rintro ⟨entry, member, waits⟩
    split at waits
    · exact ⟨entry, member, ‹_›, Option.some.inj waits⟩
    · cases waits
  · rintro ⟨entry, member, waits, rfl⟩
    exact ⟨entry, member, by rw [if_pos waits]⟩

@[simp] theorem trimTo_pendingIds (limit : Nat) :
    (c.trimTo limit tape).1.pendingIds = c.pendingIds :=
  (trim_removes (fun entry : Entry => !entry.busy) limit c.jobs.length c.jobs).filterMap_eq
    Entry.awaited fun entry idle => Entry.awaited_of_idle (by simpa using idle)

/-- An entry that keeps its label may take the place of another. -/
theorem replaced_pendingIds (found : c.jobs = before ++ entry :: after)
    (same : entry'.label = entry.label) :
    pendingIds { c with jobs := before ++ entry' :: after } = c.pendingIds := by
  simp [pendingIds, found, List.filterMap_cons, Entry.awaited_of_label same]

/-- An entry whose wait ended leaves the first place that its identifier has. -/
theorem settled_pendingIds (found : c.index id = .ok (before, entry, after))
    (waited : entry.metadataPending = true) (settled : entry'.metadataPending = false) :
    id ∈ c.pendingIds ∧
      pendingIds { c with jobs := before ++ entry' :: after } = c.pendingIds.erase id := by
  obtain ⟨jobs, named, first⟩ := index_ok found
  refine ⟨mem_pendingIds.mpr ⟨entry, by simp [jobs], waited, named⟩, ?_⟩
  have earlier : id ∉ before.filterMap Entry.awaited := by
    intro member
    obtain ⟨other, listed, awaited⟩ := List.mem_filterMap.mp member
    unfold Entry.awaited at awaited
    split at awaited
    · exact first other listed (Option.some.inj awaited)
    · cases awaited
  simp [pendingIds, jobs, Entry.awaited, waited, settled, named,
    List.erase_append_right _ earlier]

variable (ports c tape id) in
theorem setMetadata_pendingIds (metadata : EncounterMetadata) :
    (∃ error, c.setMetadata ports id metadata tape = (.error error, c, tape)) ∨
      id ∈ c.pendingIds ∧ (c.setMetadata ports id metadata tape).2.1.pendingIds =
        c.pendingIds.erase id := by
  unfold setMetadata
  split
  · rename_i error _; exact .inl ⟨error, rfl⟩
  · rename_i before result entry' tape' after performed
    obtain ⟨_, -, performed⟩ := bind_ok performed
    obtain ⟨⟨before, entry, after⟩, pending, performed⟩ := bind_ok performed
    obtain ⟨⟨result, entry', tape'⟩, step, performed⟩ := bind_ok performed
    cases performed
    obtain ⟨found, awaits⟩ := pendingIndex_ok pending
    obtain ⟨waited, missing, -⟩ := Entry.missing_of_awaitsMetadata awaits
    dsimp only
    rw [trimTo_pendingIds]
    refine .inr (settled_pendingIds found waited (Entry.setMetadata_pending missing step))

variable (c tape id) in
theorem failMetadata_pendingIds (cancelled : Bool) :
    (∃ error, c.failMetadata id cancelled tape = (.error error, c, tape)) ∨
      id ∈ c.pendingIds ∧ (c.failMetadata id cancelled tape).2.1.pendingIds =
        c.pendingIds.erase id := by
  unfold failMetadata
  split
  · rename_i error _; exact .inl ⟨error, rfl⟩
  · rename_i before entry' after performed
    obtain ⟨_, -, performed⟩ := bind_ok performed
    obtain ⟨⟨before, entry, after⟩, pending, performed⟩ := bind_ok performed
    obtain ⟨entry', step, performed⟩ := bind_ok performed
    cases performed
    obtain ⟨found, awaits⟩ := pendingIndex_ok pending
    dsimp only
    rw [trimTo_pendingIds]
    exact .inr (settled_pendingIds found (Entry.missing_of_awaitsMetadata awaits).1
      (Entry.failMetadata_pending step))

variable (ports c tape) in
@[simp] theorem applyResult_pendingIds (result : UploadResult) :
    (c.applyResult ports result tape).2.1.pendingIds = c.pendingIds := by
  unfold applyResult
  split
  · rfl
  · rename_i performed
    obtain ⟨_, -, performed⟩ := bind_ok performed
    obtain ⟨⟨before, entry, after⟩, found, performed⟩ := bind_ok performed
    obtain ⟨out, step, performed⟩ := bind_ok performed
    cases performed
    dsimp only
    rw [trimTo_pendingIds]
    exact replaced_pendingIds (index_ok found).1 (Entry.applyResult_label step)

@[simp] theorem consume_pendingIds (slot : Provider) (result : UploadResult) :
    (c.consume ports slot result tape).2.1.pendingIds = c.pendingIds := by
  have applied := applyResult_pendingIds ports c tape result
  unfold consume
  split
  · rfl
  · split <;> rename_i eq <;> rw [eq] at applied <;> exact applied

variable (ports c tape) in
theorem pollProviders_jobs (empty errors : Nat) :
    (pollProviders ports empty errors c tape).2.2.1.jobs = c.jobs := by
  induction empty generalizing errors c tape with
  | zero => rfl
  | succ empty ih =>
    unfold pollProviders
    dsimp only
    split
    · exact ih _ _ errors
    split
    · rfl
    · exact ih _ _ errors
    · exact ih _ _ (errors + 1)

@[simp] theorem drainResults_pendingIds (maxResults : Nat) :
    (c.drainResults ports maxResults tape).2.1.pendingIds = c.pendingIds := by
  have loop : ∀ (budget : Nat) (summary : DrainSummary) (c : UploadCoordinator) (tape : Tape W),
      (drainLoop ports budget summary c tape).2.1.pendingIds = c.pendingIds := by
    intro budget
    induction budget with
    | zero => exact fun _ _ _ => rfl
    | succ budget ih =>
      intro summary c tape
      have polled := pollProviders_jobs ports c tape Provider.all.length
        summary.providerErrors
      unfold drainLoop
      split <;> rename_i eq <;> rw [eq] at polled
      · exact congrArg (List.filterMap Entry.awaited) polled
      · dsimp only
        rw [ih, consume_pendingIds]
        exact congrArg (List.filterMap Entry.awaited) polled
  unfold drainResults
  split
  · rfl
  · exact loop maxResults _ c tape

variable (ports) in
theorem retryEntry_label (installed : Provider → Bool) (now : Instant)
    (providers : List Provider) (budget : Nat) (entry : Entry) (tape : Tape W) :
    (retryEntry ports installed now providers budget entry tape).2.1.label = entry.label := by
  induction providers generalizing budget entry tape with
  | nil => rfl
  | cons provider rest ih =>
    cases budget with
    | zero => rfl
    | succ budget =>
      unfold retryEntry
      split
      · exact (ih _ _ _).trans Entry.dispatch_label
      · exact ih _ _ _

@[simp] theorem dispatchDueRetries_pendingIds (maxAttempts : Nat) :
    (c.dispatchDueRetries ports maxAttempts tape).2.1.pendingIds = c.pendingIds := by
  have rounds : ∀ (installed : Provider → Bool) (now : Instant) (jobs : List Entry) (budget : Nat)
      (tape : Tape W), (retryEntries ports installed now budget jobs tape).2.1.filterMap
        Entry.awaited = jobs.filterMap Entry.awaited := by
    intro installed now jobs
    induction jobs with
    | nil => exact fun _ _ => rfl
    | cons entry rest ih =>
      intro budget tape
      have same := Entry.awaited_of_label
        (retryEntry_label ports installed now Provider.all budget entry tape)
      unfold retryEntries
      dsimp only
      rw [List.filterMap_cons, List.filterMap_cons, same, ih]
  unfold dispatchDueRetries
  split
  · rfl
  · dsimp only
    rw [trimTo_pendingIds]
    exact rounds _ _ _ _ _

theorem redispatch_pendingIds {provider : Provider}
    {prepared : Except CoordinatorError (List Entry × Entry × List Entry)}
    (replaces : ∀ before entry' after, prepared = .ok (before, entry', after) →
      ∃ entry, c.jobs = before ++ entry :: after ∧ entry'.label = entry.label) :
    (c.redispatch ports provider prepared tape).2.1.pendingIds = c.pendingIds := by
  unfold redispatch
  split
  · rfl
  · obtain ⟨entry, found, same⟩ := replaces _ _ _ rfl
    exact replaced_pendingIds found (Entry.dispatch_label.trans same)

@[simp] theorem retryFailed_pendingIds (provider : Provider) :
    (c.retryFailed ports id provider tape).2.1.pendingIds = c.pendingIds := by
  refine redispatch_pendingIds fun before entry' after prepared => ?_
  obtain ⟨_, -, prepared⟩ := bind_ok prepared
  obtain ⟨⟨before, entry, after⟩, found, prepared⟩ := bind_ok prepared
  obtain ⟨_, -, prepared⟩ := bind_ok prepared
  obtain ⟨_, -, prepared⟩ := bind_ok prepared
  obtain ⟨_, -, prepared⟩ := bind_ok prepared
  obtain ⟨rearmed, rearm, prepared⟩ := bind_ok prepared
  cases prepared
  exact ⟨entry, (index_ok found).1, Entry.rearm_label rearm⟩

@[simp] theorem reupload_pendingIds :
    (c.reupload ports id tape).2.1.pendingIds = c.pendingIds := by
  refine redispatch_pendingIds fun before entry' after prepared => ?_
  obtain ⟨_, -, prepared⟩ := bind_ok prepared
  obtain ⟨_, -, prepared⟩ := bind_ok prepared
  obtain ⟨⟨before, entry, after⟩, found, prepared⟩ := bind_ok prepared
  obtain ⟨entry', ready, prepared⟩ := bind_ok prepared
  cases prepared
  exact ⟨entry, (index_ok found).1, Entry.prepareReupload_label ready⟩

@[simp] theorem rechat_pendingIds :
    (c.rechat ports id tape).2.1.pendingIds = c.pendingIds := by
  refine redispatch_pendingIds fun before entry' after prepared => ?_
  obtain ⟨_, -, prepared⟩ := bind_ok prepared
  obtain ⟨_, -, prepared⟩ := bind_ok prepared
  obtain ⟨⟨before, entry, after⟩, found, prepared⟩ := bind_ok prepared
  obtain ⟨entry', ready, prepared⟩ := bind_ok prepared
  cases prepared
  exact ⟨entry, (index_ok found).1, Entry.prepareRechat_label ready⟩

@[simp] theorem setHistoryLimit_pendingIds (limit : Nat) :
    (c.setHistoryLimit limit tape).2.1.pendingIds = c.pendingIds := by
  unfold setHistoryLimit
  split
  · rfl
  · exact trimTo_pendingIds limit

variable (ports c tape) in
theorem addPending_pendingIds (file : LogFileIdentity) (enabled : ProviderSelection) :
    (∃ error, c.addPending ports file enabled tape = (.error error, c, tape)) ∨
      ∃ id, (c.addPending ports file enabled tape).1 = .ok id ∧
        (c.addPending ports file enabled tape).2.1.pendingIds = c.pendingIds ++ [id] := by
  unfold addPending
  split
  · rename_i error _; exact .inl ⟨error, rfl⟩
  · rename_i job prepared
    have kept : (c.trimTo (c.historyLimit - 1) tape).1.pendingIds = c.pendingIds :=
      trimTo_pendingIds _
    refine .inr ⟨job.id, rfl, ?_⟩
    rw [← kept]
    simp [pendingIds, Entry.awaited, Entry.new]

/-- A shutdown ends every wait. -/
theorem cancelAll_pendingIds (running : c.stopping = false) :
    (c.cancelAll ports tape).1.pendingIds = [] := by
  unfold cancelAll
  rw [if_neg (by simp [running]), trimTo_pendingIds]
  refine List.filterMap_eq_nil_iff.mpr fun entry member => ?_
  obtain ⟨before, -, rfl⟩ := List.mem_map.mp member
  exact Entry.awaited_of_idle before.cancel_idle

end UploadCoordinator
end MannyUploader.Application
