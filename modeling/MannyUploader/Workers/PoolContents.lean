import MannyUploader.Workers.PoolLaws

/-! What is in a pool: the requests that wait, those that threads work on, and the results that
nobody took yet. -/
namespace MannyUploader.Workers
variable {Q R : Type}

def Worker.request? : Worker Q R → Option Q
  | .processing request => some request.value
  | _ => none

def Worker.result? : Worker Q R → Option R
  | .publishing _ result => some result.value
  | _ => none

namespace WorkerPool
variable {pool next : WorkerPool Q R} {failed : Q → Option R}

def queued (pool : WorkerPool Q R) : List Q := pool.queues.requests.map (·.value)

def underWay (pool : WorkerPool Q R) : List Q := pool.threads.filterMap Worker.request?

def produced (pool : WorkerPool Q R) : List R :=
  pool.threads.filterMap Worker.result? ++ pool.queues.results.map (·.value)

theorem underWay_place {before after : List (Worker Q R)} {worker : Worker Q R}
    {queues : Queues Q R} {account : Account} :
    underWay { queues, threads := before ++ worker :: after, account } =
      before.filterMap Worker.request? ++ worker.request?.toList ++
        after.filterMap Worker.request? :=
  filterMap_place ..

theorem produced_place {before after : List (Worker Q R)} {worker : Worker Q R}
    {queues : Queues Q R} {account : Account} :
    produced { queues, threads := before ++ worker :: after, account } =
      before.filterMap Worker.result? ++ worker.result?.toList ++
        after.filterMap Worker.result? ++ queues.results.map (·.value) := by
  rw [produced, filterMap_place]

theorem perm_place (before after : List Q) (request : Q) :
    (before ++ [request] ++ after).Perm (request :: (before ++ [] ++ after)) := by
  simp

/-- The request at the front goes to a thread, or nothing does. -/
theorem take_contents (pool : WorkerPool Q R) (index : Nat) :
    ((pool.take index).queued = pool.queued ∧ (pool.take index).underWay = pool.underWay ∨
      ∃ request, pool.queued = request :: (pool.take index).queued ∧
        (pool.take index).underWay.Perm (request :: pool.underWay)) ∧
    (pool.take index).produced = pool.produced := by
  obtain ⟨queues, threads, account⟩ := pool
  unfold take
  split
  next found =>
    obtain ⟨before, after, there, rfl, replaced⟩ := place_of_index found
    dsimp only at there replaced
    subst there
    simp only [replaced]
    split
    · exact ⟨.inl ⟨rfl, rfl⟩, rfl⟩
    · split
      · simp only [underWay_place, produced_place]
        exact ⟨.inl ⟨rfl, rfl⟩, rfl⟩
      · split
        · simp only [underWay_place, produced_place]
          exact ⟨.inl ⟨rfl, rfl⟩, rfl⟩
        next request requests waiting =>
          simp only [underWay_place, produced_place]
          exact ⟨.inr ⟨request.value, by simp [queued, waiting], perm_place _ _ _⟩, rfl⟩
  · exact ⟨.inl ⟨rfl, rfl⟩, rfl⟩

/-- A thread is done with its request. -/
theorem complete_contents {index : Nat} {admitted : Numbered Q} {request : Q} {output : Option R}
    {result : R} (found : pool.threads[index]? = some (.processing admitted))
    (answered : output.or (failed request) = some result) :
    (pool.complete failed index request output).queued = pool.queued ∧
    pool.underWay.Perm (admitted.value ::
      (pool.complete failed index request output).underWay) ∧
    ∀ other ∈ (pool.complete failed index request output).produced,
      other = result ∨ other ∈ pool.produced := by
  obtain ⟨queues, threads, account⟩ := pool
  obtain ⟨before, after, there, rfl, replaced⟩ := place_of_index found
  dsimp only at there replaced
  subst there
  unfold complete
  simp only [found, answered, replaced, underWay_place, produced_place]
  refine ⟨rfl, perm_place _ _ _, fun other member => ?_⟩
  simp only [Worker.result?, Option.toList_some, Option.toList_none, List.mem_append,
    List.mem_singleton, List.not_mem_nil] at member ⊢
  tauto

theorem publish_contents (pool : WorkerPool Q R) (index : Nat) :
    (pool.publish index).queued = pool.queued ∧ (pool.publish index).underWay = pool.underWay ∧
    ∀ result ∈ (pool.publish index).produced, result ∈ pool.produced := by
  obtain ⟨queues, threads, account⟩ := pool
  unfold publish
  split
  next found =>
    obtain ⟨before, after, there, rfl, replaced⟩ := place_of_index found
    dsimp only at there replaced
    subst there
    simp only [replaced]
    split
    · exact ⟨rfl, rfl, fun _ member => member⟩
    · split
      · simp only [underWay_place, produced_place]
        refine ⟨rfl, rfl, fun other member => ?_⟩
        simp only [Worker.result?, Option.toList_some, Option.toList_none, List.mem_append,
          List.mem_singleton, List.not_mem_nil] at member ⊢
        tauto
      · simp only [underWay_place, produced_place]
        refine ⟨rfl, rfl, fun other member => ?_⟩
        simp only [Worker.result?, Option.toList_some, Option.toList_none, List.map_append,
          List.map_cons, List.map_nil, List.mem_append, List.mem_singleton,
          List.not_mem_nil] at member ⊢
        tauto
  · exact ⟨rfl, rfl, fun _ member => member⟩

theorem enqueue_contents {request : Q} (accepted : pool.enqueue request = (.ok (), next)) :
    next.queued = pool.queued ++ [request] ∧ next.underWay = pool.underWay ∧
      next.produced = pool.produced := by
  unfold enqueue at accepted
  split at accepted
  · cases accepted
  · split at accepted
    · cases accepted
    · cases accepted
      exact ⟨by simp [queued], rfl, rfl⟩

theorem enqueue_refused {request : Q} {error : QueueError}
    (refused : pool.enqueue request = (.error error, next)) : next = pool := by
  unfold enqueue at refused
  split at refused
  · cases refused
    rfl
  · split at refused
    · cases refused
      rfl
    · cases refused

theorem tryTakeResult_contents (pool : WorkerPool Q R) :
    pool.tryTakeResult.2.queued = pool.queued ∧
    pool.tryTakeResult.2.underWay = pool.underWay ∧
    (∀ result ∈ pool.tryTakeResult.2.produced, result ∈ pool.produced) ∧
    ∀ result ∈ pool.tryTakeResult.1, result ∈ pool.produced := by
  unfold tryTakeResult
  split
  · exact ⟨rfl, rfl, fun _ member => member, nofun⟩
  next result results ready =>
    refine ⟨rfl, rfl, fun other member => ?_, ?_⟩
    · simp only [produced, ready, List.map_cons, List.mem_append, List.mem_cons] at member ⊢
      tauto
    · rintro _ ⟨⟩
      simp [produced, ready]

theorem cancelPending_contents (pool : WorkerPool Q R) :
    (∀ request ∈ pool.cancelPending.queued, request ∈ pool.queued) ∧
    pool.cancelPending.queued.Sublist pool.queued ∧
    pool.cancelPending.underWay = pool.underWay ∧
    ∀ result ∈ pool.cancelPending.produced, result ∈ pool.produced := by
  unfold cancelPending
  split
  · exact ⟨fun _ member => member, .refl _, rfl, fun _ member => member⟩
  · refine ⟨by simp [queued], by simp [queued], rfl, fun other member => ?_⟩
    simp only [produced, List.map_nil, List.append_nil] at member
    exact List.mem_append_left _ member

/-- What the pool counts of requests and results. -/
def outstanding (pool : WorkerPool Q R) : Nat :=
  pool.queues.active + pool.queues.requests.length + pool.queues.results.length

/-- Only an accepted request adds to what is outstanding. -/
theorem outstanding_move (move : PoolMove failed pool next) (staffed : pool.Staffed) :
    next.outstanding + pool.account.accepted ≤ pool.outstanding + next.account.accepted := by
  cases move with
  | stay | retire | unwind | complete | resize | start => exact Nat.le_refl _
  | take there running low free waiting =>
    simp only [outstanding, waiting, List.length_cons]
    omega
  | leave there stopping =>
    simp only [outstanding]
    omega
  | publish there running room =>
    have positive := staffed.active_pos there rfl
    simp only [outstanding, List.length_append, List.length_singleton]
    omega
  | enqueue running request =>
    simp only [outstanding, List.length_append, List.length_singleton]
    omega
  | handOver ready =>
    simp only [outstanding, ready, List.length_cons]
    omega
  | cancel running =>
    simp only [outstanding, List.length_nil]
    omega

section
variable (staffed : pool.Staffed) (index : Nat)
include staffed

theorem outstanding_take : (pool.take index).outstanding ≤ pool.outstanding := by
  have same : (pool.take index).account.accepted = pool.account.accepted := by
    unfold take
    repeat' split
    all_goals rfl
  have moved := outstanding_move (@take_move _ _ (fun _ => none) pool index) staffed
  omega

theorem outstanding_complete (request : Q) (output : Option R) :
    (pool.complete failed index request output).outstanding ≤ pool.outstanding := by
  have same : (pool.complete failed index request output).account.accepted =
      pool.account.accepted := by
    unfold complete
    repeat' split
    all_goals rfl
  have moved := outstanding_move (@complete_move _ _ failed pool index request output) staffed
  omega

theorem outstanding_publish : (pool.publish index).outstanding ≤ pool.outstanding := by
  have same : (pool.publish index).account.accepted = pool.account.accepted := by
    unfold publish
    repeat' split
    all_goals rfl
  have moved := outstanding_move (@publish_move _ _ (fun _ => none) pool index) staffed
  omega

end

theorem outstanding_tryTakeResult (pool : WorkerPool Q R) :
    pool.tryTakeResult.2.outstanding ≤ pool.outstanding := by
  unfold tryTakeResult
  split
  · exact Nat.le_refl _
  next ready =>
    simp only [outstanding, ready, List.length_cons]
    omega

theorem outstanding_cancelPending (pool : WorkerPool Q R) :
    pool.cancelPending.outstanding ≤ pool.outstanding := by
  unfold cancelPending
  split
  · exact Nat.le_refl _
  · simp only [outstanding, List.length_nil]
    omega

theorem outstanding_enqueue {request : Q} (accepted : pool.enqueue request = (.ok (), next)) :
    next.outstanding = pool.outstanding + 1 := by
  unfold enqueue at accepted
  split at accepted
  · cases accepted
  · split at accepted
    · cases accepted
    · cases accepted
      simp only [outstanding, List.length_append, List.length_singleton]
      omega

end WorkerPool
end MannyUploader.Workers
