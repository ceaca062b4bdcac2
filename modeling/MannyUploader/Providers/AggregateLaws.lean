import MannyUploader.Application.DonBotAggregateLaws
import MannyUploader.Providers.AggregateOutcomes

/-! However the controller and the threads of its worker interleave, a submitted aggregate is sent
once at most, and is shown as what it came to. -/
namespace MannyUploader.Providers
open Domain Application Foundation Workers DonBotAggregateWorker

/-- The states that invite the user to send again, or say that there is no need to. -/
def settles : DonBotAggregateDeliveryState → Bool
  | .failed | .cancelled | .succeeded => true
  | _ => false

namespace AggregateSession
variable {readers : DonBotResponse.Readers} {s : AggregateSession}

/-- The requests that wait in the pool, those under way, and those that are done. -/
def requests (s : AggregateSession) : List DonBotAggregateRequest :=
  s.pool.queued.map (·.request) ++ s.pool.underWay.map (·.request) ++ s.ended.map (·.request)

abbrev ids (s : AggregateSession) : List UInt64 := s.requests.map (·.requestId)

/-- The request was offered to the worker. -/
def Offered (dispatched : List AggregateDispatch) (request : DonBotAggregateRequest) : Prop :=
  ∃ dispatch ∈ dispatched, dispatch.request.requestId = request.requestId ∧
    dispatch.request.fightLogIds = request.fightLogIds

/-- The processing, as its exchange shows it. -/
def track (readers : DonBotResponse.Readers) (ended : AggregateEnd) : AggregateTrack :=
  .of readers ended.request.fightLogIds.length ended.said

/-- A snapshot that shows what a request came to. -/
structure Shows (readers : DonBotResponse.Readers) (ended : AggregateEnd)
    (snapshot : DonBotAggregateDeliverySnapshot) : Prop where
  certain : (track readers ended).uncertain = false
  state : snapshot.state = ended.result.outcome.state
  receipt : snapshot.discordDelivery = ended.result.discordDelivery
  credential : snapshot.credentialFailure = ended.result.credentialFailure

/-- What is shown of a request as settled is what it came to, or no thread ever has it. -/
def Told (readers : DonBotResponse.Readers) (s : AggregateSession)
    (published : AggregatePublication) : Prop :=
  ∀ id, published.about = some id → settles published.snapshot.state = true →
    (∃ ended ∈ s.ended, ended.request.requestId = id ∧ Shows readers ended published.snapshot) ∨
    (id ∉ s.ids ∧ id.toNat < s.controller.nextRequest.toNat)

structure Sound (readers : DonBotResponse.Readers) (s : AggregateSession) : Prop where
  controller : s.controller.Sound
  staffed : s.pool.Staffed
  alone : s.pool.outstanding ≤ 1
  once : s.ids.Nodup
  offered : ∀ request ∈ s.requests, Offered s.controller.account.dispatched request
  left : ∀ ended ∈ s.ended, Left readers ended.request ended.said ended.result ∧
    (track readers ended).sends ≤ 1
  results : ∀ result ∈ s.pool.produced, ∃ ended ∈ s.ended, ended.result = result
  told : ∀ published ∈ s.controller.account.published, Told readers s published

/-- The numbers of the requests that were offered are those below the next one. -/
theorem number_below {c : DonBotAggregateDeliveryController} (sound : c.Sound)
    {dispatch : AggregateDispatch} (member : dispatch ∈ c.account.dispatched) :
    dispatch.request.requestId.toNat < c.nextRequest.toNat := by
  have listed := List.mem_map_of_mem (f := fun dispatch : AggregateDispatch =>
    dispatch.request.requestId.toNat) member
  rw [sound.books.numbered, List.mem_range'_1] at listed
  rw [sound.books.requests]
  exact listed.2

/-- A number belongs to one dispatch. -/
theorem dispatch_unique {c : DonBotAggregateDeliveryController} (sound : c.Sound)
    {one two : AggregateDispatch} (first : one ∈ c.account.dispatched)
    (second : two ∈ c.account.dispatched)
    (same : one.request.requestId = two.request.requestId) : one = two := by
  have distinct : (c.account.dispatched.map (·.request.requestId.toNat)).Nodup := by
    rw [sound.books.numbered]
    exact List.nodup_range'
  exact List.inj_on_of_nodup_map distinct first second (congrArg UInt64.toNat same)

theorem Sound.unoffered (sound : Sound readers s) :
    s.controller.nextRequest ∉ s.ids := by
  intro member
  obtain ⟨request, listed, named⟩ := List.mem_map.mp member
  obtain ⟨dispatch, there, same, -⟩ := sound.offered request listed
  have below := number_below sound.controller there
  rw [same, named] at below
  exact Nat.lt_irrefl _ below

/-- Whoever has a request passes it on, or drops it. -/
theorem Sound.passes {pool : Pool} (sound : Sound readers s) (staffed : pool.Staffed)
    (less : pool.outstanding ≤ s.pool.outstanding)
    (kept : (requests { s with pool }).Subperm s.requests)
    (results : ∀ result ∈ pool.produced, result ∈ s.pool.produced) :
    Sound readers { s with pool } := by
  have numbers : (ids { s with pool }).Subperm s.ids := by
    obtain ⟨middle, permuted, kept⟩ := kept
    exact ⟨middle.map _, permuted.map _, kept.map _⟩
  have distinct : (ids { s with pool }).Nodup := by
    obtain ⟨middle, permuted, kept⟩ := numbers
    exact permuted.nodup_iff.mp (sound.once.sublist kept)
  refine { sound with
    staffed, alone := less.trans sound.alone
    once := distinct
    offered := fun request member => sound.offered request (kept.subset member)
    results := fun result member => sound.results result (results result member)
    told := fun published member id about settled => ?_ }
  exact (sound.told published member id about settled).imp_right
    fun never => ⟨fun there => never.1 (numbers.subset there), never.2⟩

theorem Sound.take (sound : Sound readers s) (index : Nat) :
    Sound readers { s with pool := s.pool.take index } := by
  obtain ⟨moved, same⟩ := s.pool.take_contents index
  refine sound.passes (sound.staffed.step (@WorkerPool.take_move _ _ (fun _ => none) _ index))
    (WorkerPool.outstanding_take sound.staffed index) ?_ (same ▸ fun _ member => member)
  rcases moved with ⟨queued, underWay⟩ | ⟨request, queued, underWay⟩
  · simp only [requests, queued, underWay]
    exact List.Subperm.refl _
  · apply List.Perm.subperm
    simp only [requests, queued, List.map_cons, List.cons_append]
    have passed : List.Perm ((s.pool.take index).underWay.map (·.request))
        (request.request :: s.pool.underWay.map (·.request)) := underWay.map _
    have first := (passed.append_left ((s.pool.take index).queued.map (·.request))).append_right
      (s.ended.map (·.request))
    refine first.trans ?_
    rw [List.append_assoc, List.cons_append, List.append_assoc]
    exact List.perm_middle

theorem Sound.publish (sound : Sound readers s) (index : Nat) :
    Sound readers { s with pool := s.pool.publish index } := by
  obtain ⟨queued, underWay, results⟩ := s.pool.publish_contents index
  refine sound.passes (sound.staffed.step (@WorkerPool.publish_move _ _ (fun _ => none) _ index))
    (WorkerPool.outstanding_publish sound.staffed index) ?_ results
  simp only [requests, queued, underWay]
  exact List.Subperm.refl _

theorem Sound.cancelPending (sound : Sound readers s) :
    Sound readers { s with pool := s.pool.cancelPending } := by
  obtain ⟨-, queued, underWay, results⟩ := s.pool.cancelPending_contents
  refine sound.passes (sound.staffed.step (@WorkerPool.cancelPending_move _ _ (fun _ => none) _))
    (WorkerPool.outstanding_cancelPending _) ?_ results
  apply List.Sublist.subperm
  simp only [requests, underWay]
  exact ((queued.map _).append (.refl _)).append (.refl _)

theorem Sound.tryTakeResult (sound : Sound readers s) :
    Sound readers { s with pool := s.pool.tryTakeResult.2 } := by
  obtain ⟨queued, underWay, results, -⟩ := s.pool.tryTakeResult_contents
  refine sound.passes (sound.staffed.step (@WorkerPool.tryTakeResult_move _ _ (fun _ => none) _))
    (WorkerPool.outstanding_tryTakeResult _) ?_ results
  simp only [requests, queued, underWay]
  exact List.Subperm.refl _

/-- The processing of a request leaves what it should. -/
theorem left_of_process {hasSecrets : Bool} {captured after : CapturedAggregate} {said : Calls}
    {output : Option DonBotAggregateResult}
    (reached : Dialogue.Reaches (process readers hasSecrets captured) said
      (match output with
      | some result => .done (after, result)
      | none => .fail after)) :
    Left readers captured.request said (output.getD (failed after)) ∧
      (AggregateTrack.of readers captured.request.fightLogIds.length said).sends ≤ 1 := by
  have holds := @holds_process readers captured hasSecrets
  refine ⟨?_, process_sends_once reached⟩
  cases output with
  | some result => exact holds.done_of_reaches reached
  | none => exact holds.fail_of_reaches reached

theorem Sound.finish (sound : Sound readers s) {index : Nat} {said : Calls}
    {captured : CapturedAggregate} {output : Option DonBotAggregateResult}
    (processed : Processed readers s (.finish index said captured output)) :
    Sound readers (s.step (.finish index said captured output)) := by
  unfold step
  dsimp only
  split
  next admitted found =>
    obtain ⟨hasSecrets, reached⟩ := processed admitted found
    have left := left_of_process reached
    have answered : output.or (some (failed captured)) =
        some (output.getD (failed captured)) := by
      cases output <;> rfl
    obtain ⟨queued, underWay, results⟩ := @WorkerPool.complete_contents _ _ _
      (fun captured => some (failed captured)) _ _ _ _ _ found answered
    have staffed := sound.staffed.step (@WorkerPool.complete_move _ _
      (fun captured => some (failed captured)) s.pool index captured output)
    have less := @WorkerPool.outstanding_complete _ _ _ (fun captured => some (failed captured))
      sound.staffed index captured output
    generalize s.pool.complete (fun captured => some (failed captured)) index captured output =
      pool at queued underWay results staffed less ⊢
    generalize output.getD (failed captured) = result at left results ⊢
    have same : s.requests.Perm (requests { s with
        pool
        ended := s.ended ++ [{ said, request := admitted.value.request, result }] }) := by
      have passed : List.Perm (s.pool.underWay.map (·.request))
          (admitted.value.request :: pool.underWay.map (·.request)) := underWay.map _
      simp only [requests, queued, List.map_append, List.map_cons, List.map_nil]
      refine ((passed.append_left _).append_right _).trans ?_
      rw [List.append_assoc, List.append_assoc, List.cons_append]
      refine List.Perm.append_left _ ?_
      rw [← List.append_assoc]
      exact (List.perm_append_singleton _ _).symm
    refine ⟨sound.controller, staffed, less.trans sound.alone, ?_, ?_, ?_, ?_, ?_⟩
    · exact (same.map _).nodup_iff.mp sound.once
    · exact fun request member => sound.offered request (same.mem_iff.mpr member)
    · intro ended member
      rcases List.mem_append.mp member with old | new
      · exact sound.left ended old
      · exact List.mem_singleton.mp new ▸ left
    · intro other member
      rcases results other member with rfl | old
      · exact ⟨_, List.mem_append_right _ (List.mem_singleton_self _), rfl⟩
      · obtain ⟨ended, there, is⟩ := sound.results other old
        exact ⟨ended, List.mem_append_left _ there, is⟩
    · intro published member id about settled
      rcases sound.told published member id about settled with ⟨ended, there, shows⟩ | never
      · exact .inl ⟨ended, List.mem_append_left _ there, shows⟩
      · exact .inr ⟨fun there => never.1 ((same.map _).mem_iff.mpr there), never.2⟩
  · exact sound

/-! What the controller does. -/

/-- The controller shows what it is told. -/
theorem Sound.shown {c : DonBotAggregateDeliveryController} (sound : Sound readers s)
    (controller : c.Sound)
    (grows : ∀ dispatch ∈ s.controller.account.dispatched, dispatch ∈ c.account.dispatched)
    (next : s.controller.nextRequest.toNat ≤ c.nextRequest.toNat)
    (told : ∀ published ∈ c.account.published, published ∈ s.controller.account.published ∨
      Told readers { s with controller := c } published) :
    Sound readers { s with controller := c } := by
  refine { sound with
    controller
    offered := fun request member => ?_
    told := fun published member => ?_ }
  · obtain ⟨dispatch, there, same⟩ := sound.offered request member
    exact ⟨dispatch, grows dispatch there, same⟩
  · rcases told published member with old | new
    · intro id about settled
      exact (sound.told published old id about settled).imp_right
        fun never => ⟨never.1, never.2.trans_le next⟩
    · exact new

/-- Something is shown that settles no request. -/
theorem told_of_open {about : Option UInt64} {snapshot : DonBotAggregateDeliverySnapshot}
    (undecided : about = none ∨ settles snapshot.state = false) :
    Told readers s ⟨about, snapshot⟩ := by
  rintro id rfl settled
  rcases undecided with none | still
  · cases none
  · rw [still] at settled
    cases settled

theorem told_of_new {about : Option UInt64} {snapshot : DonBotAggregateDeliverySnapshot}
    (undecided : about = none ∨ settles snapshot.state = false) {published : AggregatePublication}
    (new : published = ⟨about, snapshot⟩) : Told readers s published :=
  new ▸ told_of_open undecided

theorem mem_published {c : DonBotAggregateDeliveryController} {about : Option UInt64}
    {state : DonBotAggregateDeliveryState} {diagnostic : Option DonBotAggregateDeliveryError}
    {receipt : Option DonBotDiscordDeliveryReceipt} {failure : Option UploadFailure}
    {published : AggregatePublication}
    (member : published ∈
      (c.publish about state diagnostic receipt failure).account.published) :
    published ∈ c.account.published ∨
      published = ⟨about, (c.publish about state diagnostic receipt failure).snapshot⟩ :=
  (List.mem_append.mp member).imp_right List.mem_singleton.mp

theorem Sound.unwound (sound : Sound readers s) :
    Sound readers { s with controller := s.controller.unwound } := by
  refine sound.shown sound.controller.unwound ?_ ?_ fun published member => ?_
  · unfold DonBotAggregateDeliveryController.unwound
    repeat' split
    all_goals exact fun _ member => member
  · unfold DonBotAggregateDeliveryController.unwound
    repeat' split
    all_goals exact Nat.le_refl _
  · unfold DonBotAggregateDeliveryController.unwound at member
    split at member
    · exact (mem_published member).imp_right (told_of_new (.inr rfl))
    · split at member
      · exact (mem_published member).imp_right (told_of_new (.inl rfl))
      · exact .inl member

theorem outcome_of_settles {outcome : DonBotAggregateOutcome}
    (settled : settles outcome.state = true) : outcome ≠ .ambiguous := by
  rintro rfl
  cases settled

theorem Sound.handleResult {result : DonBotAggregateResult} (sound : Sound readers s)
    (found : ∃ ended ∈ s.ended, ended.result = result) :
    Sound readers { s with controller := s.controller.handleResult result } := by
  refine sound.shown sound.controller.handleResult ?_ ?_ fun published member => ?_
  · unfold DonBotAggregateDeliveryController.handleResult
    dsimp only
    repeat' split
    all_goals exact fun _ member => member
  · unfold DonBotAggregateDeliveryController.handleResult
    dsimp only
    repeat' split
    all_goals exact Nat.le_refl _
  · unfold DonBotAggregateDeliveryController.handleResult at member
    split at member
    · exact .inl member
    · dsimp only at member
      split at member
      · exact (mem_published member).imp_right (told_of_new (.inr rfl))
      · refine (mem_published member).imp_right ?_
        rintro rfl id ⟨⟩ settled
        obtain ⟨ended, there, rfl⟩ := found
        obtain ⟨left, -⟩ := sound.left ended there
        refine .inl ⟨ended, there, left.fair.id.symm, ?_, rfl, rfl, rfl⟩
        by_contra unsure
        exact outcome_of_settles settled (left.unsure (by simpa [track] using unsure))

/-- What the worker makes of an offer. -/
inductive Answered (pool : Pool) (request : DonBotAggregateRequest) :
    Foundation.Attempt DonBotAggregateDispatchError Unit × Pool → Prop
  | declined (answer : Foundation.Attempt DonBotAggregateDispatchError Unit)
      (refused : answer ≠ .ok ()) : Answered pool request (answer, pool)
  | admitted (answer : Foundation.Attempt DonBotAggregateDispatchError Unit) (next : Pool)
      (captured : CapturedAggregate) (accepted : ∀ error, answer ≠ .error (.failed error))
      (empty : pool.outstanding = 0) (queued : pool.enqueue captured = (.ok (), next))
      (same : captured.request.requestId = request.requestId ∧
        captured.request.fightLogIds = request.fightLogIds) :
      Answered pool request (answer, next)

theorem enqueue_answered (request : DonBotAggregateRequest) (pool : Pool) :
    (∃ error, enqueue request pool = (.error error, pool)) ∨
    ∃ next captured, enqueue request pool = (.ok (), next) ∧ pool.outstanding = 0 ∧
      pool.enqueue captured = (.ok (), next) ∧
      captured.request.requestId = request.requestId ∧
      captured.request.fightLogIds = request.fightLogIds := by
  unfold enqueue
  split_ifs with stopping busy malformed
  · exact .inl ⟨_, rfl⟩
  · exact .inl ⟨_, rfl⟩
  · exact .inl ⟨_, rfl⟩
  · split
    · exact .inl ⟨_, rfl⟩
    next options normal =>
      dsimp only
      split
      next next accepted =>
        exact .inr ⟨next, _, rfl, by simpa using busy, accepted, rfl, rfl⟩
      next refused =>
        rw [WorkerPool.enqueue_refused refused]
        exact .inl ⟨_, rfl⟩
      next refused =>
        rw [WorkerPool.enqueue_refused refused]
        exact .inl ⟨_, rfl⟩

theorem ports_answered (faults : Faults) (request : DonBotAggregateRequest) (pool : Pool) :
    Answered pool request ((ports faults).enqueue request pool) := by
  unfold ports
  dsimp only
  rcases enqueue_answered request pool with ⟨error, refused⟩ | ⟨next, captured, accepted, empty,
    queued, same⟩
  · rw [refused]
    split
    · split <;> exact .declined _ nofun
    · exact .declined _ nofun
  · rw [accepted]
    split
    · split
      · exact .admitted _ _ captured nofun empty queued same
      · exact .declined _ nofun
    · exact .admitted _ _ captured nofun empty queued same

/-- An offer is accepted: the worker has a request of a number that was never used. -/
theorem Sound.admitted {c : DonBotAggregateDeliveryController} {next : Pool}
    {captured : CapturedAggregate} (sound : Sound readers s) (controller : c.Sound)
    (grows : ∀ dispatch ∈ s.controller.account.dispatched, dispatch ∈ c.account.dispatched)
    (numbers : s.controller.nextRequest.toNat ≤ c.nextRequest.toNat)
    (told : ∀ published ∈ c.account.published, published ∈ s.controller.account.published ∨
      Told readers { s with controller := c, pool := next } published)
    (offered : Offered c.account.dispatched captured.request)
    (fresh : captured.request.requestId = s.controller.nextRequest)
    (empty : s.pool.outstanding = 0) (queued : s.pool.enqueue captured = (.ok (), next)) :
    Sound readers { s with controller := c, pool := next } := by
  obtain ⟨waiting, underWay, produced⟩ := WorkerPool.enqueue_contents queued
  have moved := @WorkerPool.enqueue_move _ _ (fun _ => none) s.pool captured
  rw [queued] at moved
  have same : (captured.request :: s.requests).Perm
      (requests { s with controller := c, pool := next }) := by
    simp only [requests, waiting, underWay, List.map_append, List.map_cons, List.map_nil]
    rw [List.append_assoc, List.append_assoc, List.append_assoc]
    exact List.perm_middle.symm
  have unused := sound.unoffered
  rw [← fresh] at unused
  refine ⟨controller, sound.staffed.step moved, ?_, ?_, ?_, sound.left, produced ▸ sound.results,
    ?_⟩
  · exact Nat.le_of_eq ((WorkerPool.outstanding_enqueue queued).trans (by rw [empty]))
  · exact (same.map _).nodup_iff.mp (List.nodup_cons.mpr ⟨unused, sound.once⟩)
  · intro request member
    rcases List.mem_cons.mp (same.mem_iff.mpr member) with rfl | old
    · exact offered
    · obtain ⟨dispatch, there, same⟩ := sound.offered request old
      exact ⟨dispatch, grows dispatch there, same⟩
  · intro published member
    rcases told published member with old | new
    · intro id about settled
      refine (sound.told published old id about settled).imp_right fun never => ?_
      refine ⟨fun there => ?_, never.2.trans_le numbers⟩
      rcases List.mem_cons.mp ((same.map _).mem_iff.mpr there) with rfl | old
      · rw [fresh] at never
        exact Nat.lt_irrefl _ never.2
      · exact never.1 old
    · exact new

theorem Sound.offer {dispatch : AggregateDispatch} (sound : Sound readers s) (faults : Faults)
    (named : dispatch.request.requestId = s.controller.nextRequest)
    (kept : (DonBotAggregateDeliveryController.offer (ports faults) dispatch
      { s.controller with command := none } s.pool).1.Sound) :
    Sound readers { s with
      controller := (DonBotAggregateDeliveryController.offer (ports faults) dispatch
        { s.controller with command := none } s.pool).1
      pool := (DonBotAggregateDeliveryController.offer (ports faults) dispatch
        { s.controller with command := none } s.pool).2 } := by
  have answered := ports_answered faults dispatch.request s.pool
  have grows : ∀ old ∈ s.controller.account.dispatched,
      old ∈ s.controller.account.dispatched ++ [dispatch] :=
    fun old member => List.mem_append_left _ member
  have last : dispatch ∈ s.controller.account.dispatched ++ [dispatch] :=
    List.mem_append_right _ (List.mem_singleton_self _)
  unfold DonBotAggregateDeliveryController.offer at kept ⊢
  dsimp only at kept ⊢
  generalize (ports faults).enqueue dispatch.request s.pool = outcome at answered kept ⊢
  cases answered with
  | declined answer refused =>
    match answer with
    | .ok () => exact absurd rfl refused
    | .error .panicked =>
      have next := number_below kept last
      rw [named] at next
      refine sound.shown kept grows next.le fun published member => ?_
      exact (mem_published member).imp_right (told_of_new (.inr rfl))
    | .error (.failed error) =>
      have next := number_below kept last
      rw [named] at next
      refine sound.shown kept grows next.le fun published member => ?_
      refine (mem_published member).imp_right ?_
      rintro rfl id ⟨⟩ settled
      refine .inr ⟨?_, ?_⟩
      · rw [named]
        exact sound.unoffered
      · rw [named]
        exact next
  | admitted answer pool captured accepted empty queued same =>
    match answer with
    | .ok () =>
      have next := number_below kept last
      rw [named] at next
      refine sound.admitted kept grows next.le (fun published member => ?_)
        ⟨dispatch, last, same.1.symm, same.2.symm⟩ (same.1.trans named) empty queued
      exact (mem_published member).imp_right (told_of_new (.inr rfl))
    | .error .panicked =>
      have next := number_below kept last
      rw [named] at next
      refine sound.admitted kept grows next.le (fun published member => ?_)
        ⟨dispatch, last, same.1.symm, same.2.symm⟩ (same.1.trans named) empty queued
      exact (mem_published member).imp_right (told_of_new (.inr rfl))
    | .error (.failed error) => exact absurd rfl (accepted error)

theorem Sound.dispatch (sound : Sound readers s) (faults : Faults)
    (jobs : List UploadJobSnapshot) (configuration : ConfigurationService)
    (donbot : DonBotConfigurationSnapshot) :
    let after := s.controller.dispatch (ports faults) jobs configuration donbot s.pool
    Sound readers { s with controller := after.1, pool := after.2 } := by
  have kept := @DonBotAggregateDeliveryController.Sound.dispatch _ _ (ports faults) s.pool jobs
    configuration donbot sound.controller
  cases held : s.controller.command with
  | none =>
    rw [DonBotAggregateDeliveryController.dispatch_none held]
    exact sound
  | some command =>
    cases prepared : DonBotAggregateDeliveryController.prepare
        { s.controller with command := none } command jobs configuration donbot with
    | error error =>
      rw [DonBotAggregateDeliveryController.dispatch_refused held prepared] at kept ⊢
      refine sound.shown kept (fun _ member => member) (Nat.le_refl _) fun published member => ?_
      exact (mem_published member).imp_right (told_of_new (.inl rfl))
    | ok request =>
      rw [DonBotAggregateDeliveryController.dispatch_prepared held prepared] at kept ⊢
      exact sound.offer faults (DonBotAggregateDeliveryController.prepare_ok prepared).1 kept

theorem Sound.tick (sound : Sound readers s) (faults : Faults) (uploads : UploadCoordinator)
    (configuration : ConfigurationService) (donbot : DonBotConfigurationSnapshot) :
    Sound readers (s.step (.tick faults uploads configuration donbot)) := by
  have taken := sound.tryTakeResult
  unfold step
  dsimp only
  unfold DonBotAggregateDeliveryController.tick
  split
  · exact sound
  · unfold ports
    dsimp only
    cases faults.tryTakeResult with
    | some took =>
      dsimp only
      cases took with
      | true => exact taken.unwound
      | false => exact sound.unwound
    | none =>
      dsimp only
      cases found : s.pool.tryTakeResult.1 with
      | none => exact taken.dispatch faults uploads.snapshots configuration donbot
      | some result =>
        have produced := s.pool.tryTakeResult_contents.2.2.2 result found
        have received := taken.handleResult (sound.results result produced)
        exact received.dispatch faults uploads.snapshots configuration donbot

theorem Sound.submit (sound : Sound readers s) (command : SendDonBotAggregateCommand) :
    Sound readers (s.step (.submit command)) := by
  unfold step
  dsimp only
  split
  next controller accepted =>
    have kept := sound.controller.submit accepted
    unfold DonBotAggregateDeliveryController.submit at accepted
    split_ifs at accepted
    cases accepted
    refine sound.shown kept (fun _ member => member) (Nat.le_refl _) fun published member => ?_
    exact (mem_published member).imp_right (told_of_new (.inl rfl))
  · exact sound

theorem Sound.shutdown (sound : Sound readers s) (faults : Faults) :
    Sound readers (s.step (.shutdown faults)) := by
  have kept := @DonBotAggregateDeliveryController.Sound.shutdown _ _ (ports faults) s.pool
    sound.controller
  unfold step
  dsimp only
  unfold DonBotAggregateDeliveryController.shutdown at kept ⊢
  split
  · exact sound
  next running =>
    rw [if_neg running] at kept
    have shown := sound.shown kept (fun _ member => member) (Nat.le_refl _)
      fun published member => (mem_published member).imp_right (told_of_new (.inl rfl))
    unfold ports
    dsimp only
    split
    · exact shown
    · exact shown.cancelPending

theorem Sound.step (sound : Sound readers s) {op : AggregateOp}
    (processed : Processed readers s op) : Sound readers (s.step op) := by
  cases op with
  | submit command => exact sound.submit command
  | tick faults uploads configuration donbot =>
    exact sound.tick faults uploads configuration donbot
  | shutdown faults => exact sound.shutdown faults
  | take index => exact sound.take index
  | finish index said captured output => exact sound.finish processed
  | publish index => exact sound.publish index

theorem Sound.start {pool : Pool} {allocated : Bool} {spawn : Nat → Bool}
    (created : WorkerPool.new 1 1 allocated spawn = .ok pool) : Sound readers (start pool) := by
  obtain ⟨-, threads, queues, -⟩ := WorkerPool.new_ok created
  have queued : pool.queued = [] := by simp [WorkerPool.queued, queues, WorkerPool.unstarted]
  have underWay : pool.underWay = [] := by
    simp [WorkerPool.underWay, threads, Worker.request?]
  have produced : pool.produced = [] := by
    simp [WorkerPool.produced, threads, queues, WorkerPool.unstarted, Worker.result?]
  have empty : requests (AggregateSession.start pool) = [] := by
    simp [requests, AggregateSession.start, queued, underWay]
  have outstanding : pool.outstanding = 0 := by
    simp [WorkerPool.outstanding, queues, WorkerPool.unstarted]
  refine ⟨.new, .of_new created, ?_, ?_, ?_, ?_, ?_, ?_⟩
  · exact outstanding.trans_le (Nat.zero_le 1)
  · simp [ids, empty]
  · simp [empty]
  · simp [AggregateSession.start]
  · simp [AggregateSession.start, produced]
  · simp [AggregateSession.start, DonBotAggregateDeliveryController.new]

/-- A result of the active request passes every check. -/
theorem Sound.accepts (sound : Sound readers s) {result : DonBotAggregateResult}
    (produced : result ∈ s.pool.produced)
    (active : s.controller.activeRequest = some result.requestId) :
    s.controller.handleResult result =
      DonBotAggregateDeliveryController.publish (some result.requestId) result.outcome.state none
        result.discordDelivery result.credentialFailure
        { s.controller with activeRequest := none } := by
  obtain ⟨ended, there, rfl⟩ := sound.results result produced
  obtain ⟨⟨fair, -⟩, -⟩ := sound.left ended there
  have counted : ended.result.fightLogCount = s.controller.snapshot.fightLogCount := by
    obtain ⟨one, first, named, length⟩ := sound.controller.active _ active
    have listed : ended.request ∈ s.requests :=
      List.mem_append_right _ (List.mem_map_of_mem there)
    obtain ⟨two, second, same, fights⟩ := sound.offered ended.request listed
    have unique := dispatch_unique sound.controller first second
      (named.trans (fair.id.trans same.symm))
    rw [fair.count, ← fights, ← unique, length]
  unfold DonBotAggregateDeliveryController.handleResult
  rw [if_neg (by simp [active])]
  dsimp only
  rw [if_neg]
  simp only [Bool.or_eq_true, not_or, Bool.and_eq_true, not_and, decide_eq_true_eq,
    Bool.not_eq_true, Option.isNone_eq_false_iff, Option.isSome_eq_false_iff, not_not,
    Bool.not_eq_false']
  refine ⟨⟨⟨counted, fair.receipt⟩, fair.delivered⟩, fun failed => ?_⟩
  obtain ⟨outcome, undelivered⟩ := fair.credential failed
  simp [outcome, undelivered]

theorem handleResult_other {c : DonBotAggregateDeliveryController}
    {result : DonBotAggregateResult} (other : c.activeRequest ≠ some result.requestId) :
    c.handleResult result = c := by
  unfold DonBotAggregateDeliveryController.handleResult
  rw [if_pos other]

/-- What a thread was given is told as it came to, when it is told as settled. -/
theorem Sound.shows (sound : Sound readers s) {published : AggregatePublication}
    (member : published ∈ s.controller.account.published) {id : UInt64} (listed : id ∈ s.ids)
    (about : published.about = some id) (settled : settles published.snapshot.state = true) :
    ∃ ended ∈ s.ended, ended.request.requestId = id ∧ Shows readers ended published.snapshot :=
  (sound.told published member id about settled).resolve_right fun never => never.1 listed

/-- At most one delivery is outstanding, each command is offered once at most, and its report is
sent once at most. Results of the active request are shown as they are, others change nothing, and
where the report may have been posted, none is shown as settled. No counter overflows. -/
theorem aggregate_never_repeated {pool : Pool} {allocated : Bool} {spawn : Nat → Bool}
    (created : WorkerPool.new 1 1 allocated spawn = .ok pool)
    (run : Run step (Processed readers) (start pool) s) :
    (s.pool.outstanding ≤ 1 ∧ (s.controller.command.isSome → s.controller.activeRequest = none)) ∧
    ((s.controller.account.dispatched.map (·.command)).Sublist
        s.controller.account.submitted ∧
      (s.controller.account.dispatched.map (·.request.requestId)).Nodup ∧
      ∀ dispatch ∈ s.controller.account.dispatched, dispatch.Valid) ∧
    (s.ids.Nodup ∧ (∀ request ∈ s.requests, Offered s.controller.account.dispatched request) ∧
      (∀ ended ∈ s.ended, (track readers ended).sends ≤ 1) ∧
      ∀ captured ∈ s.pool.underWay, ∀ hasSecrets said rest,
        Dialogue.Reaches (process readers hasSecrets captured) said rest →
        (AggregateTrack.of readers captured.request.fightLogIds.length said).sends ≤ 1) ∧
    ((∀ result ∈ s.pool.produced, s.controller.activeRequest = some result.requestId →
        s.controller.handleResult result = DonBotAggregateDeliveryController.publish
          (some result.requestId) result.outcome.state none result.discordDelivery
          result.credentialFailure { s.controller with activeRequest := none }) ∧
      ∀ result, s.controller.activeRequest ≠ some result.requestId →
        s.controller.handleResult result = s.controller) ∧
    (∀ published ∈ s.controller.account.published, ∀ id ∈ s.ids, published.about = some id →
      settles published.snapshot.state = true →
      ∃ ended ∈ s.ended, ended.request.requestId = id ∧
        Shows readers ended published.snapshot) ∧
    s.controller.snapshot.revision.toNat = 1 + s.controller.account.published.length ∧
    s.controller.nextRequest.toNat = 1 + s.controller.account.dispatched.length := by
  have sound : Sound readers s := run.invariant (fun _ _ processed sound => sound.step processed)
    (.start created)
  have books := sound.controller.books
  refine ⟨⟨sound.alone, sound.controller.alone⟩, ⟨?_, ?_, books.valid⟩,
    ⟨sound.once, sound.offered, fun ended there => (sound.left ended there).2, ?_⟩,
    ⟨fun result produced active => sound.accepts produced active,
      fun result other => handleResult_other other⟩, ?_, books.revisions, books.requests⟩
  · exact (List.sublist_append_left ..).trans books.once
  · refine List.Nodup.of_map UInt64.toNat ?_
    rw [List.map_map]
    exact books.numbered ▸ List.nodup_range'
  · exact fun captured _ hasSecrets said rest reached => process_sends_once reached
  · exact fun published member id listed about settled =>
      sound.shows member listed about settled

/-! Two fights of retained jobs are sent, and the server posts them as one message. -/

def fightRecord (fight : UInt64) : UploadJobRecord where
  file := sampleLog fight
  detectedAt := .unixEpoch
  encounterMetadata := some sampleMetadata
  dpsReportResult := some sampleReport
  wingmanUploadReceipt := none
  donbotUploadReceipt := some {
    uploadId := none, fightLogId := some fight, discordDelivery := DonBotResponse.noDelivery
    guildId := some "1" }
  twitchDeliveryReceipt := none
  providers _ := { state := .succeeded, attempts := 1, detail := "" }

theorem two_retained : 1 ≤ 2 ∧ 2 ≤ maxHistoryLimit := by decide

/-- What a restart makes of two records. -/
def sampleFights : UploadCoordinator :=
  ((sampleStart ⟨2, two_retained⟩).1.restore [fightRecord 7, fightRecord 8] ⟨(), []⟩).2.1

def guildSettings : Settings :=
  { Settings.new "logs" with donbot := {
      enabled := true, apiBaseUrl := "https://a", selectedGuildId := "1"
      discordDeliveryEnabled := true } }

theorem guildSettings_valid : guildSettings.validate = [] := by decide

def sampleConfiguration : ConfigurationService :=
  ⟨guildSettings, .primary, none, none, 1, false, guildSettings_valid⟩

def sampleIdentity : DonBotConfigurationSnapshot where
  state := .verified
  apiBaseUrl := "https://a"
  accountName := some "Player.1234"
  discordSummaryDeliveryV1 := true
  discordAggregateDeliveryV1 := true
  guilds := [{ guildId := "1", guildName := "One", discordDelivery := {
    enabled := true, defaultsAvailable := true, aggregateEnabled := true
    aggregateDefaultsAvailable := true, maxAggregateFightLogs := 2 } }]
  selectedGuildId := "1"
  diagnostic := none
  refreshing := false
  revision := 1
  shuttingDown := false

def sentText : String :=
  "\x7b\"fightLogCount\":2,\"discordDelivery\":\x7b\"requested\":true,\"outcome\":\"sent\"," ++
    "\"sent\":1,\"skipped\":0,\"failed\":0,\"ambiguous\":0\x7d\x7d"

def sentDelivery : DonBotResponse.Delivery :=
  { requested := true, outcome := "sent", sent := 1, skipped := 0, failed := 0, ambiguous := 0 }

def sentReceipt : DonBotDiscordDeliveryReceipt :=
  { outcome := .sent, sent := 1, skipped := 0, failed := 0, ambiguous := 0 }

def aggregateReaders : DonBotResponse.Readers where
  printer := Json.compactPrinter
  imported _ := none
  aggregate text := if text = sentText then some ⟨2, sentDelivery⟩ else none
  progress _ := none
  counts _ := none
  verification _ := none

def sentReply : Application.HttpResponse := { statusCode := 200, headers := [], body := utf8 sentText }

theorem read_sentReply : DonBotClient.readAggregate aggregateReaders 2 sentReply =
    .ok { fightLogCount := 2, discordDelivery := sentReceipt } := by
  have escapes : validUnicodeEscapes false (utf8 sentText) = true := by decide
  have short : ¬(utf8 sentText).length > maxDonbotResponseBytes := by decide
  have read : aggregateReaders.aggregate sentText = some ⟨2, sentDelivery⟩ := by
    simp [aggregateReaders]
  have decoded : DonBotResponse.decode aggregateReaders.aggregate DonBotResponse.Aggregate.bounds
      sentReply = .ok ⟨2, sentDelivery⟩ := by
    rw [DonBotResponse.decode, sentReply, decodeJson_text _ _ short escapes, read]
    rfl
  rw [DonBotClient.readAggregate, decoded]
  rfl

def sampleRoute : DonBotOptions :=
  { apiBaseUrl := "https://a", guildId := "1", delivery := .guildDefaults }

def sampleCaptured : CapturedAggregate where
  request := {
    requestId := 1, apiBaseUrl := "", guildId := "", fightLogIds := [7, 8], delivery := .none }
  options := sampleRoute
  dispatched := false

def aggregateBytes : SecretValue := Json.compact (DonBotClient.aggregateBody [7, 8] sampleRoute)

def aggregateRequest : HttpRequest :=
  DonBotClient.uploadRequest .post ("https://a" ++ "/api/upload/gw2/aggregate") [65]
    [.ofText "Content-Type" "application/json"] (some [.memory aggregateBytes])

theorem built_aggregateRequest :
    DonBotClient.jsonRequest aggregateReaders.printer ("https://a" ++ "/api/upload/gw2/aggregate")
      [65] (DonBotClient.aggregateBody [7, 8] sampleRoute) = .ok aggregateRequest := by
  have short : ¬aggregateBytes.length > maxHttpRequestBodyBytes := by decide
  have built : DonBotClient.body aggregateBytes = .ok [.memory aggregateBytes] := by
    rw [DonBotClient.body, memoryBody, if_neg short]
  rw [DonBotClient.jsonRequest]
  change DonBotClient.body aggregateBytes >>= _ = _
  rw [built]
  rfl

/-- What the client is told, and the questions of the worker around it. -/
def sentAggregate : Calls :=
  [⟨.stopRequested, false⟩, ⟨.loadKey, some (.ok [65])⟩, ⟨.stopRequested, false⟩] ++
    ([⟨.stopRequested, false⟩] ++ [⟨.stopRequested, false⟩,
      ⟨.execute aggregateRequest, .ok sentReply⟩, ⟨.stopRequested, false⟩]) ++
    [⟨.stopRequested, false⟩]

theorem reaches_inner :
    Dialogue.Reaches (DonBotClient.aggregateInner aggregateReaders [7, 8] sampleRoute [65])
      ([⟨.stopRequested, false⟩] ++ [⟨.stopRequested, false⟩,
        ⟨.execute aggregateRequest, .ok sentReply⟩, ⟨.stopRequested, false⟩])
      (.done { fightLogCount := 2, discordDelivery := sentReceipt }) := by
  have validated : Dialogue.Reaches (DonBotClient.validate sampleRoute [65])
      [⟨.stopRequested, false⟩] (.done "https://a") := .cons _ .nil
  apply validated.bind.trans
  have posts : (!sampleRoute.delivery.requested || !DonBotClient.validIds [7, 8]) = false := by
    decide
  have posted : Dialogue.Reaches (DonBotClient.executeUpload aggregateRequest)
      [⟨.stopRequested, false⟩, ⟨.execute aggregateRequest, .ok sentReply⟩,
        ⟨.stopRequested, false⟩] (.done sentReply) := .cons _ (.cons _ (.cons _ .nil))
  have read : (Dialogue.done sentReply >>= fun reply => Client.ofExcept
      (DonBotClient.readAggregate aggregateReaders [7, 8].length reply)) =
      .done { fightLogCount := 2, discordDelivery := sentReceipt } := by
    rw [Dialogue.done_bind, List.length_cons, List.length_singleton, read_sentReply]
    rfl
  rw [Dialogue.done_bind, posts, if_neg Bool.false_ne_true, built_aggregateRequest,
    Client.ofExcept, Dialogue.done_bind, ← read]
  exact posted.bind

theorem reaches_sentAggregate :
    Dialogue.Reaches (process aggregateReaders true sampleCaptured) sentAggregate
      (.done ({ sampleCaptured with dispatched := true },
        { sampleCaptured.result .succeeded with discordDelivery := some sentReceipt })) := by
  apply Dialogue.Reaches.cons
  apply Dialogue.Reaches.cons
  apply Dialogue.Reaches.cons
  exact reaches_inner.settle.settle.trans (.cons _ .nil)

def sampleResult : DonBotAggregateResult :=
  { sampleCaptured.result .succeeded with discordDelivery := some sentReceipt }

theorem two_nonzero : (2 : UInt64) ≠ 0 := by decide

def sampleAggregate : List AggregateOp :=
  [.submit ⟨[sampleJobId, ⟨2, two_nonzero⟩], 1, 1⟩,
    .tick {} sampleFights sampleConfiguration sampleIdentity, .take 0,
    .finish 0 sentAggregate { sampleCaptured with dispatched := true } (some sampleResult),
    .publish 0, .tick {} sampleFights sampleConfiguration sampleIdentity]

def samplePool : Pool where
  queues := {
    capacity := 1, requests := [], results := [], active := 0, parallelism := 1, stopping := false
    nextCompletion := 0, nextPublication := 0 }
  threads := [.waiting]

theorem created_samplePool : WorkerPool.new 1 1 true (fun _ => true) = .ok samplePool := rfl

/-- The thread processes the request as its exchange says. -/
theorem run_sampleAggregate : Run step (Processed aggregateReaders) (start samplePool)
    (sampleAggregate.foldl step (start samplePool)) := by
  have given : ((sampleAggregate.take 3).foldl step (start samplePool)).pool.threads[0]?.bind
      Worker.request? = some sampleCaptured := by decide
  rw [sampleAggregate]
  simp only [List.foldl_cons, List.foldl_nil]
  refine .step _ (.step _ (.step _ (.step _ (.step _ (.step _ .refl trivial) trivial) trivial)
    ?_) trivial) trivial
  intro admitted processing
  refine ⟨true, ?_⟩
  have same : admitted.value = sampleCaptured := by
    change (List.foldl step (start samplePool) (sampleAggregate.take 3)).pool.threads[0]? = _
      at processing
    rw [processing] at given
    exact Option.some.inj given
  rw [same]
  exact reaches_sentAggregate

theorem aggregate_never_repeated_sample :
    let s := sampleAggregate.foldl step (start samplePool)
    s.controller.account.published.map (·.snapshot.state) = [.queued, .sending, .succeeded] ∧
      s.ended.map (fun ended => (track aggregateReaders ended).sends) = [1] ∧
      (∃ ended ∈ s.ended, ended.request.requestId = 1 ∧
        Shows aggregateReaders ended s.controller.snapshot) ∧
      s.controller.snapshot.discordDelivery = some sentReceipt ∧
      s.controller.snapshot.revision.toNat = 1 + s.controller.account.published.length := by
  have once := aggregate_never_repeated created_samplePool run_sampleAggregate
  refine ⟨by decide, by decide, ?_, by decide, once.2.2.2.2.2.1⟩
  have listed := List.mem_of_getElem? (i := 2) (show
    (sampleAggregate.foldl step (start samplePool)).controller.account.published[2]? = _ from rfl)
  exact once.2.2.2.2.1 _ listed 1 (by decide) rfl (by decide)

end AggregateSession
end MannyUploader.Providers
