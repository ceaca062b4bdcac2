import MannyUploader.Application.DonBotAggregate

/-! The counters of the aggregate controller never overflow, and each command is offered once at
most, with the fights of its jobs in their order. -/
namespace MannyUploader.Application
open Domain Foundation Providers

section fights
variable {jobs : List UploadJobSnapshot}
open DonBotAggregateDeliveryController

/-- The completed fight of the first job with the identifier. -/
def HasFight (jobs : List UploadJobSnapshot) (id : UploadJobId) (fight : UInt64) : Prop :=
  ∃ job, jobs.find? (·.id = id) = some job ∧
    (job.record.donbotUploadReceipt.bind (·.fightLogId)) = some fight ∧
    validDonbotFightId fight = true

theorem fightOf_ok {before : List UInt64} {id : UploadJobId} {fight : UInt64}
    (found : fightOf jobs before id = .ok fight) : HasFight jobs id fight ∧ fight ∉ before := by
  unfold fightOf at found
  split at found
  · cases found
  next job there =>
    split at found
    · cases found
    next completed =>
      cases found
      obtain ⟨named, kept⟩ := Option.filter_eq_some_iff.mp completed
      simp only [Bool.and_eq_true, Bool.not_eq_true', List.contains_eq_mem,
        decide_eq_false_iff_not] at kept
      exact ⟨⟨job, there, named, kept.1⟩, kept.2⟩

theorem fightLogIds_ok {ids : List UploadJobId} {fights : List UInt64}
    (ok : fightLogIds jobs ids = .ok fights) :
    List.Forall₂ (HasFight jobs) ids fights ∧ fights.Nodup := by
  have loop : ∀ before, ids.foldlM (fun before id => do
      let fight ← fightOf jobs before id
      pure (before ++ [fight])) before = .ok fights → ∃ added, fights = before ++ added ∧
        List.Forall₂ (HasFight jobs) ids added ∧ (before.Nodup → fights.Nodup) := by
    clear ok
    induction ids with
    | nil =>
      rintro before ⟨⟩
      exact ⟨[], by simp, .nil, id⟩
    | cons first rest ih =>
      intro before ok
      rw [List.foldlM_cons] at ok
      obtain ⟨next, here, later⟩ := bind_ok ok
      obtain ⟨fight, found, added⟩ := bind_ok here
      cases added
      obtain ⟨has, fresh⟩ := fightOf_ok found
      obtain ⟨added, split, each, distinct⟩ := ih (before ++ [fight]) later
      refine ⟨fight :: added, by simp [split], .cons has each, fun nodup => distinct ?_⟩
      rw [List.nodup_append]
      refine ⟨nodup, List.nodup_singleton fight, fun old member new last => ?_⟩
      rintro rfl
      exact fresh (List.mem_singleton.mp last ▸ member)
  obtain ⟨added, split, each, distinct⟩ := loop [] ok
  rw [List.nil_append] at split
  exact ⟨split ▸ each, distinct List.nodup_nil⟩

end fights

/-- A request that was prepared from its command. -/
structure AggregateDispatch.Valid (dispatch : AggregateDispatch) : Prop where
  each : List.Forall₂ (HasFight dispatch.jobs) dispatch.command.jobIds
    dispatch.request.fightLogIds
  distinct : dispatch.request.fightLogIds.Nodup
  several : 2 ≤ dispatch.request.fightLogIds.length
  bounded : dispatch.request.fightLogIds.length ≤ 100

namespace DonBotAggregateDeliveryController
variable {c : DonBotAggregateDeliveryController}

section publish
variable (about : Option UInt64) (state : DonBotAggregateDeliveryState)
  (diagnostic : Option DonBotAggregateDeliveryError)
  (receipt : Option DonBotDiscordDeliveryReceipt) (failure : Option UploadFailure)

@[simp] theorem publish_command :
    (c.publish about state diagnostic receipt failure).command = c.command := rfl
@[simp] theorem publish_activeRequest :
    (c.publish about state diagnostic receipt failure).activeRequest = c.activeRequest := rfl
@[simp] theorem publish_nextRequest :
    (c.publish about state diagnostic receipt failure).nextRequest = c.nextRequest := rfl
@[simp] theorem publish_submitted : (c.publish about state diagnostic receipt
    failure).account.submitted = c.account.submitted := rfl
@[simp] theorem publish_dispatched : (c.publish about state diagnostic receipt
    failure).account.dispatched = c.account.dispatched := rfl
@[simp] theorem publish_fightLogCount : (c.publish about state diagnostic receipt
    failure).snapshot.fightLogCount = c.snapshot.fightLogCount := rfl
@[simp] theorem publish_shuttingDown : (c.publish about state diagnostic receipt
    failure).snapshot.shuttingDown = c.snapshot.shuttingDown := rfl

end publish

/-- The books are right, and so many more revisions fit. -/
structure Books (c : DonBotAggregateDeliveryController) (more : Nat) : Prop where
  revisions : c.snapshot.revision.toNat = 1 + c.account.published.length
  room : c.snapshot.revision.toNat + more < 2 ^ 64
  requests : c.nextRequest.toNat = 1 + c.account.dispatched.length
  numbered : c.account.dispatched.map (·.request.requestId.toNat) =
    List.range' 1 c.account.dispatched.length
  valid : ∀ dispatch ∈ c.account.dispatched, dispatch.Valid
  once : (c.account.dispatched.map (·.command) ++ c.command.toList).Sublist c.account.submitted

/-- The revisions that the work at hand still needs, and the shutdown. -/
def reserved (c : DonBotAggregateDeliveryController) : Nat :=
  (if c.snapshot.shuttingDown then 0 else 1) +
    if c.command.isSome then 2 else if c.activeRequest.isSome then 1 else 0

structure Sound (c : DonBotAggregateDeliveryController) : Prop where
  books : Books c c.reserved
  stopped : c.snapshot.shuttingDown = true → c.command = none ∧ c.activeRequest = none
  alone : c.command.isSome = true → c.activeRequest = none
  able : c.command.isSome = true → c.nextRequest.toNat + 1 < 2 ^ 64
  wanted : ∀ command, c.command = some command →
    command.jobIds.length = c.snapshot.fightLogCount ∧ 2 ≤ command.jobIds.length ∧
      command.jobIds.length ≤ 100
  active : ∀ id, c.activeRequest = some id → ∃ dispatch ∈ c.account.dispatched,
    dispatch.request.requestId = id ∧
      dispatch.request.fightLogIds.length = c.snapshot.fightLogCount

theorem Books.publish {more : Nat} (books : Books c (more + 1)) {about : Option UInt64}
    {state : DonBotAggregateDeliveryState} {diagnostic : Option DonBotAggregateDeliveryError}
    {receipt : Option DonBotDiscordDeliveryReceipt} {failure : Option UploadFailure} :
    Books (c.publish about state diagnostic receipt failure) more := by
  have room := books.room
  have next : (c.snapshot.revision + 1).toNat = c.snapshot.revision.toNat + 1 := by
    rw [UInt64.toNat_add]
    exact Nat.mod_eq_of_lt (by simp only [UInt64.reduceToNat]; omega)
  refine ⟨?_, ?_, books.requests, books.numbered, books.valid, books.once⟩
  · change (c.snapshot.revision + 1).toNat = _
    rw [next, books.revisions, DonBotAggregateDeliveryController.publish, List.length_append]
    rfl
  · change (c.snapshot.revision + 1).toNat + more < 2 ^ 64
    omega

theorem Sound.new : Sound .new := by
  constructor
  · constructor <;> simp [DonBotAggregateDeliveryController.new, reserved]
  all_goals simp [DonBotAggregateDeliveryController.new]

/-- Books that leave room for more leave room for less. -/
theorem Books.less {more less : Nat} (books : Books c more) (fewer : less ≤ more) :
    Books c less :=
  { books with room := Nat.lt_of_le_of_lt (Nat.add_le_add_left fewer _) books.room }

/-- Nothing is under way any more. -/
theorem Sound.idle (books : Books c (if c.snapshot.shuttingDown then 0 else 1))
    (command : c.command = none) (active : c.activeRequest = none) : c.Sound := by
  refine ⟨?_, fun _ => ⟨command, active⟩, ?_, ?_, ?_, ?_⟩
  · rw [reserved, command, active]
    exact books
  all_goals simp [command, active]

theorem Sound.of_active {id : UInt64} (sound : c.Sound) (active : c.activeRequest = some id) :
    c.command = none ∧ c.snapshot.shuttingDown = false ∧ Books c 2 := by
  have free : c.command = none := by
    by_contra held
    have alone := sound.alone (Option.isSome_iff_ne_none.mpr held)
    rw [active] at alone
    cases alone
  have running : c.snapshot.shuttingDown = false := by
    by_contra stopped
    have alone := (sound.stopped (by simpa using stopped)).2
    rw [active] at alone
    cases alone
  refine ⟨free, running, ?_⟩
  have reserve : c.reserved = 2 := by simp [reserved, free, active, running]
  exact reserve ▸ sound.books

theorem Sound.of_command {command : SendDonBotAggregateCommand} (sound : c.Sound)
    (held : c.command = some command) :
    c.activeRequest = none ∧ c.snapshot.shuttingDown = false ∧ Books c 3 := by
  have alone := sound.alone (by simp [held])
  have running : c.snapshot.shuttingDown = false := by
    by_contra stopped
    have free := (sound.stopped (by simpa using stopped)).1
    rw [held] at free
    cases free
  refine ⟨alone, running, ?_⟩
  have reserve : c.reserved = 3 := by simp [reserved, held, running]
  exact reserve ▸ sound.books

theorem Sound.submit {command : SendDonBotAggregateCommand}
    {next : DonBotAggregateDeliveryController} (sound : c.Sound)
    (ok : c.submit command = .ok next) : next.Sound := by
  unfold DonBotAggregateDeliveryController.submit at ok
  split_ifs at ok with stopped busy exhausted malformed distinct
  cases ok
  simp only [Bool.or_eq_true, not_or, Bool.not_eq_true, Option.isSome_eq_false_iff,
    Option.isNone_iff_eq_none, beq_eq_false_iff_ne, ne_eq,
    Bool.and_eq_true, decide_eq_true_eq, Bool.not_eq_false'] at busy exhausted malformed
  obtain ⟨free, idle⟩ := busy
  obtain ⟨fits, unspent⟩ := exhausted
  have books := sound.books
  have room : c.snapshot.revision.toNat + 4 < 2 ^ 64 := by
    rw [UInt64.not_le, UInt64.lt_iff_toNat_lt] at fits
    have limit : (ConfigurationService.maxRevision - 3).toNat = 2 ^ 64 - 4 := by decide
    omega
  have unspent : c.nextRequest.toNat + 1 < 2 ^ 64 := by
    have below := c.nextRequest.toNat_lt
    have other : c.nextRequest.toNat ≠ 2 ^ 64 - 1 := by
      intro same
      exact unspent (UInt64.toNat_inj.mp (same.trans (by decide)))
    omega
  have wider : Books { c with
      command := some command
      snapshot := { c.snapshot with fightLogCount := command.jobIds.length }
      account := { c.account with submitted := c.account.submitted ++ [command] } } (3 + 1) := by
    refine ⟨books.revisions, room, books.requests, books.numbered, books.valid, ?_⟩
    have once := books.once
    rw [free, Option.toList_none, List.append_nil] at once
    exact once.append (.refl _)
  refine ⟨wider.publish.less ?_, by simp [stopped], ?_, ?_, ?_, ?_⟩
  · simp [reserved, stopped]
  · simp [idle]
  · simpa using unspent
  · rintro _ ⟨⟩
    exact ⟨rfl, malformed.2⟩
  · simp [idle]

/-- The command leaves, whatever becomes of it. -/
theorem Books.free {more : Nat} (books : Books c more) : Books { c with command := none } more := by
  refine ⟨books.revisions, books.room, books.requests, books.numbered, books.valid, ?_⟩
  rw [Option.toList_none, List.append_nil]
  exact (List.sublist_append_left ..).trans books.once

theorem Books.activate {more : Nat} (books : Books c more) (active : Option UInt64) :
    Books { c with activeRequest := active } more :=
  ⟨books.revisions, books.room, books.requests, books.numbered, books.valid, books.once⟩

theorem Sound.handleResult {result : DonBotAggregateResult} (sound : c.Sound) :
    (c.handleResult result).Sound := by
  unfold DonBotAggregateDeliveryController.handleResult
  split
  · exact sound
  next active =>
    rw [ne_eq, not_not] at active
    obtain ⟨free, running, books⟩ := sound.of_active active
    have idle := books.activate none
    dsimp only
    split
    all_goals exact .idle (by simpa [running] using idle.publish) free rfl

theorem Sound.unwound (sound : c.Sound) : c.unwound.Sound := by
  unfold DonBotAggregateDeliveryController.unwound
  split
  next id active =>
    obtain ⟨free, running, books⟩ := sound.of_active active
    exact .idle (by simpa [running] using (books.activate none).publish) free rfl
  · split
    next command held =>
      obtain ⟨idle, running, books⟩ := sound.of_command held
      exact .idle (by simpa [running] using (books.free.less (by simp)).publish) rfl idle
    · exact sound

section ports
variable {W : Type} {ports : AggregatePorts W} {world : W}

/-- A prepared request is offered: its number is spent, and the command with it. -/
theorem Books.offered {dispatch : AggregateDispatch} {command : SendDonBotAggregateCommand}
    {more : Nat} (books : Books c more) (held : c.command = some command)
    (able : c.nextRequest.toNat + 1 < 2 ^ 64) (same : dispatch.command = command)
    (named : dispatch.request.requestId = c.nextRequest) (valid : dispatch.Valid) :
    Books { c with
      command := none
      nextRequest := c.nextRequest + 1
      account := { c.account with dispatched := c.account.dispatched ++ [dispatch] } } more := by
  have next : (c.nextRequest + 1).toNat = c.nextRequest.toNat + 1 := by
    rw [UInt64.toNat_add]
    exact Nat.mod_eq_of_lt (by simp only [UInt64.reduceToNat]; omega)
  refine ⟨books.revisions, books.room, ?_, ?_, fun other member => ?_, ?_⟩
  · change (c.nextRequest + 1).toNat = _
    rw [next, books.requests, List.length_append]
    rfl
  · change (c.account.dispatched ++ [dispatch]).map _ = _
    rw [List.map_append, books.numbered, List.length_append, List.length_singleton,
      List.range'_concat, List.map_cons, List.map_nil, named, books.requests]
    simp
  · rcases List.mem_append.mp member with old | new
    · exact books.valid other old
    · exact List.mem_singleton.mp new ▸ valid
  · have once := books.once
    rw [held] at once
    simpa [same] using once

theorem prepare_ok {command : SendDonBotAggregateCommand} {jobs : List UploadJobSnapshot}
    {configuration : ConfigurationService} {donbot : DonBotConfigurationSnapshot}
    {request : DonBotAggregateRequest}
    (prepared : c.prepare command jobs configuration donbot = .ok request) :
    request.requestId = c.nextRequest ∧
      List.Forall₂ (HasFight jobs) command.jobIds request.fightLogIds ∧
      request.fightLogIds.Nodup := by
  unfold prepare at prepared
  split at prepared
  · cases prepared
  · dsimp only at prepared
    split at prepared
    · cases prepared
    · split at prepared
      · cases prepared
      · obtain ⟨fights, found, made⟩ := bind_ok prepared
        cases made
        exact ⟨rfl, fightLogIds_ok found⟩

section dispatch
variable {command : SendDonBotAggregateCommand} {jobs : List UploadJobSnapshot}
  {configuration : ConfigurationService} {donbot : DonBotConfigurationSnapshot}

theorem dispatch_none (free : c.command = none) :
    c.dispatch ports jobs configuration donbot world = (c, world) := by
  unfold DonBotAggregateDeliveryController.dispatch
  rw [free]

theorem dispatch_refused {error : DonBotAggregateDeliveryError} (held : c.command = some command)
    (refused : prepare { c with command := none } command jobs configuration donbot =
      .error error) :
    c.dispatch ports jobs configuration donbot world =
      (publish none .failed (some error) none none { c with command := none }, world) := by
  unfold DonBotAggregateDeliveryController.dispatch
  rw [held]
  dsimp only
  rw [refused]

theorem dispatch_prepared {request : DonBotAggregateRequest} (held : c.command = some command)
    (prepared : prepare { c with command := none } command jobs configuration donbot =
      .ok request) :
    c.dispatch ports jobs configuration donbot world =
      offer ports ⟨command, jobs, request⟩ { c with command := none } world := by
  unfold DonBotAggregateDeliveryController.dispatch
  rw [held]
  dsimp only
  rw [prepared]

end dispatch

theorem Sound.dispatch {jobs : List UploadJobSnapshot} {configuration : ConfigurationService}
    {donbot : DonBotConfigurationSnapshot} (sound : c.Sound) :
    (c.dispatch ports jobs configuration donbot world).1.Sound := by
  unfold DonBotAggregateDeliveryController.dispatch
  split
  · exact sound
  next command held =>
    obtain ⟨idle, running, books⟩ := sound.of_command held
    dsimp only
    split
    · exact .idle (by simpa [running] using (books.free.less (by simp)).publish) rfl idle
    next request prepared =>
      obtain ⟨named, each, distinct⟩ := prepare_ok prepared
      obtain ⟨counted, several, bounded⟩ := sound.wanted command held
      have length := each.length_eq
      have valid : AggregateDispatch.Valid ⟨command, jobs, request⟩ :=
        ⟨each, distinct, length ▸ several, length ▸ bounded⟩
      have offered := books.offered held (sound.able (by simp [held])) rfl named valid
      unfold offer
      dsimp only
      split
      · refine ⟨?_, by simp [running], by simp, by simp, by simp, ?_⟩
        · refine (Books.publish (offered.activate (some request.requestId))).less ?_
          simp [reserved, running]
        · rintro id ⟨⟩
          exact ⟨⟨command, jobs, request⟩, by simp, rfl, length ▸ counted⟩
      · exact .idle (by simpa [running] using (offered.less (by simp)).publish) rfl idle
      · exact .idle (by simpa [running] using (offered.less (by simp)).publish) rfl idle

theorem Sound.shutdown (sound : c.Sound) : (c.shutdown ports world).1.Sound := by
  unfold DonBotAggregateDeliveryController.shutdown
  split
  · exact sound
  next running =>
    rw [Bool.not_eq_true] at running
    have books : Books c (0 + 1) := sound.books.less (by simp [reserved, running])
    have idle : Books { c with
        command := none, activeRequest := none
        snapshot := { c.snapshot with shuttingDown := true } } (0 + 1) :=
      let free := books.free
      ⟨free.revisions, free.room, free.requests, free.numbered, free.valid, free.once⟩
    exact .idle (by simpa using idle.publish) rfl rfl

end ports

end DonBotAggregateDeliveryController
end MannyUploader.Application
