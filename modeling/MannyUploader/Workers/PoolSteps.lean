import MannyUploader.Workers.WorkerPool
import Mathlib.Data.List.Basic

/-! What one action can do to the pool, said once. A thread's step replaces the
thread at its place and leaves the others. -/
namespace MannyUploader.Workers
open Foundation

theorem place_of_index {xs : List α} {index : Nat} {x : α} (found : xs[index]? = some x) :
    ∃ before after, xs = before ++ x :: after ∧ before.length = index ∧
      ∀ y, xs.set index y = before ++ y :: after := by
  obtain ⟨inside, rfl⟩ := List.getElem?_eq_some_iff.mp found
  refine ⟨xs.take index, xs.drop (index + 1), ?_, ?_, ?_⟩
  · rw [List.getElem_cons_drop, List.take_append_drop]
  · simp only [List.length_take]
    omega
  · intro y
    exact List.set_eq_take_append_cons_drop.trans (if_pos inside)

variable {Q R : Type}

/-- The actions that change the pool, with what each of them met. -/
inductive PoolMove (failed : Q → Option R) : WorkerPool Q R → WorkerPool Q R → Prop
  | stay : PoolMove failed pool pool
  | retire (there : pool.threads = before ++ .waiting :: after)
      (stopping : pool.queues.stopping = true) :
      PoolMove failed pool { pool with threads := before ++ .returned :: after }
  | take (there : pool.threads = before ++ .waiting :: after)
      (running : pool.queues.stopping = false) (low : before.length < pool.queues.parallelism)
      (free : pool.queues.active < pool.queues.parallelism)
      (queued : pool.queues.requests = request :: requests) :
      PoolMove failed pool
        { pool with
          queues := { pool.queues with active := pool.queues.active + 1, requests }
          threads := before ++ .processing request :: after }
  | unwind (request : Q) (there : pool.threads = before ++ .processing admitted :: after)
      (panicked : failed request = none) :
      PoolMove failed pool { pool with threads := before ++ .unwound :: after }
  | complete (admitted : Numbered Q) (result : R)
      (there : pool.threads = before ++ .processing admitted :: after) :
      PoolMove failed pool
        { queues := { pool.queues with nextCompletion := pool.queues.nextCompletion + 1 }
          threads := before ++
            .publishing pool.queues.nextCompletion ⟨admitted.number, result⟩ :: after
          account :=
            { pool.account with completed := pool.account.completed ++ [admitted.number] } }
  | leave (there : pool.threads = before ++ .publishing ticket result :: after)
      (stopping : pool.queues.stopping = true) :
      PoolMove failed pool
        { pool with
          queues := { pool.queues with active := pool.queues.active - 1 }
          threads := before ++ .returned :: after }
  | publish (there : pool.threads = before ++ .publishing pool.queues.nextPublication result :: after)
      (running : pool.queues.stopping = false)
      (room : pool.queues.results.length < pool.queues.capacity) :
      PoolMove failed pool
        { queues := { pool.queues with
            active := pool.queues.active - 1
            results := pool.queues.results ++ [result]
            nextPublication := pool.queues.nextPublication + 1 }
          threads := before ++ .waiting :: after
          account :=
            { pool.account with published := pool.account.published ++ [result.number] } }
  | enqueue (running : pool.queues.stopping = false) (request : Q) :
      PoolMove failed pool
        { pool with
          queues := { pool.queues with
            requests := pool.queues.requests ++ [⟨pool.account.accepted, request⟩] }
          account := { pool.account with accepted := pool.account.accepted + 1 } }
  | handOver (ready : pool.queues.results = result :: results) :
      PoolMove failed pool
        { pool with
          queues := { pool.queues with results }
          account := { pool.account with taken := pool.account.taken ++ [result.number] } }
  | resize (running : pool.queues.stopping = false) (capacity : Nat) :
      PoolMove failed pool { pool with queues := { pool.queues with capacity } }
  | start (running : pool.queues.stopping = false) (started : Nat)
      (few : pool.threads.length + started ≤ max pool.threads.length maxParallelism)
      (owned : parallelism ≤ pool.threads.length + started ∨
        parallelism = pool.queues.parallelism) :
      PoolMove failed pool
        { pool with
          queues := { pool.queues with parallelism }
          threads := pool.threads ++ List.replicate started .waiting }
  | cancel (running : pool.queues.stopping = false) :
      PoolMove failed pool
        { pool with
          queues := { pool.queues with stopping := true, requests := [], results := [] } }

namespace WorkerPool
variable {failed : Q → Option R} {pool : WorkerPool Q R}

theorem take_move (index : Nat) : PoolMove failed pool (pool.take index) := by
  unfold take
  split
  next found =>
    obtain ⟨before, after, there, rfl, replaced⟩ := place_of_index found
    rw [replaced, replaced]
    split
    · exact .stay
    next free =>
      split
      next stopping => exact .retire there stopping
      next running =>
        simp only [Bool.not_eq_true] at running
        simp only [Queues.holdsTaker, running, Bool.not_false, Bool.true_and, Bool.or_eq_true,
          decide_eq_true_eq, not_or, Nat.not_le, List.isEmpty_iff] at free
        split
        next empty => exact absurd empty free.2
        next request requests queued =>
          rw [replaced]
          exact .take there running free.1.1 free.1.2 queued
  · exact .stay

theorem complete_move (index : Nat) (request : Q) (output : Option R) :
    PoolMove failed pool (pool.complete failed index request output) := by
  unfold complete
  split
  next admitted found =>
    obtain ⟨before, after, there, rfl, replaced⟩ := place_of_index found
    split
    next panicked =>
      rw [replaced]
      rw [Option.or_eq_none_iff] at panicked
      exact .unwind request there panicked.2
    next result _ =>
      simp only [replaced]
      exact .complete admitted result there
  · exact .stay

theorem publish_move (index : Nat) : PoolMove failed pool (pool.publish index) := by
  unfold publish
  split
  next ticket result found =>
    obtain ⟨before, after, there, rfl, replaced⟩ := place_of_index found
    rw [replaced, replaced]
    split
    · exact .stay
    next free =>
      split
      next stopping => exact .leave there stopping
      next running =>
        simp only [Bool.not_eq_true] at running
        simp only [Queues.holdsPublisher, running, Bool.not_false, Bool.true_and, Bool.or_eq_true,
          decide_eq_true_eq, not_or, Nat.not_le, bne_iff_ne, ne_eq, not_not] at free
        obtain ⟨room, rfl⟩ := free
        exact .publish there running room
  · exact .stay

theorem startThreads_eq (spawn : Nat → Bool) (threads : List (Worker Q R)) (missing : Nat) :
    ∃ started ≤ missing,
      startThreads spawn threads missing =
          (.error .threadStartFailed, threads ++ List.replicate started .waiting) ∨
        started = missing ∧ startThreads spawn threads missing =
          (.ok (), threads ++ List.replicate started .waiting) := by
  induction missing generalizing threads with
  | zero => exact ⟨0, Nat.le_refl 0, .inr (by simp [startThreads])⟩
  | succ missing ih =>
    by_cases starts : spawn threads.length
    · obtain ⟨started, bounded, outcome⟩ := ih (threads ++ [.waiting])
      refine ⟨started + 1, by omega, ?_⟩
      simp only [startThreads, starts, ↓reduceIte, List.replicate_succ, Nat.add_right_cancel_iff]
      simpa using outcome
    · exact ⟨0, by omega, .inl (by simp [startThreads, starts])⟩

theorem resizeWith_cases (pool : WorkerPool Q R) (parallelism : Nat) (spawn : Nat → Bool) :
    (∃ error, pool.resizeWith parallelism spawn = (.error error, pool)) ∨
    (1 ≤ parallelism ∧ parallelism ≤ maxParallelism) ∧ pool.queues.stopping = false ∧
    ∃ started ≤ parallelism - pool.threads.length,
      pool.resizeWith parallelism spawn = (.error .threadStartFailed,
          { pool with threads := pool.threads ++ List.replicate started .waiting }) ∨
        started = parallelism - pool.threads.length ∧
        pool.resizeWith parallelism spawn = (.ok (),
          { pool with
            queues := { pool.queues with parallelism }
            threads := pool.threads ++ List.replicate started .waiting }) := by
  by_cases valid : 1 ≤ parallelism ∧ parallelism ≤ maxParallelism
  · cases running : pool.queues.stopping with
    | true => exact .inl ⟨.stopping, by simp [resizeWith, validateParallelism, valid, running]⟩
    | false =>
      obtain ⟨started, bounded, partly | ⟨every, outcome⟩⟩ :=
        startThreads_eq spawn pool.threads (parallelism - pool.threads.length)
      · refine .inr ⟨valid, rfl, started, bounded, .inl ?_⟩
        simp [resizeWith, validateParallelism, valid, running, partly]
      · refine .inr ⟨valid, rfl, started, bounded, .inr ⟨every, ?_⟩⟩
        simp [resizeWith, validateParallelism, valid, running, outcome]
  · exact .inl ⟨.invalidParallelism, by simp only [resizeWith, validateParallelism, if_neg valid]⟩

theorem updateParallelism_move (parallelism : Nat) (spawn : Nat → Bool) :
    PoolMove failed pool (pool.updateParallelism parallelism spawn).2 := by
  unfold updateParallelism
  obtain ⟨error, refused⟩ | ⟨valid, running, started, bounded, partly | ⟨every, outcome⟩⟩ :=
    pool.resizeWith_cases parallelism spawn
  · rw [refused]
    exact .stay
  · rw [partly]
    exact .start running started (by omega) (.inr rfl)
  · rw [outcome]
    exact .start running started (by omega) (.inl (by omega))

theorem updateQueueCapacity_move (capacity : Nat) (allocated : Bool) :
    PoolMove failed pool (pool.updateQueueCapacity capacity allocated).2 := by
  unfold updateQueueCapacity
  split
  · exact .stay
  · split
    · exact .stay
    next running =>
      split
      · exact .stay
      · exact .resize (by simpa using running) capacity

theorem enqueue_move (request : Q) : PoolMove failed pool (pool.enqueue request).2 := by
  unfold enqueue
  split
  · exact .stay
  next running =>
    split
    · exact .stay
    · exact .enqueue (by simpa using running) request

theorem tryTakeResult_move : PoolMove failed pool pool.tryTakeResult.2 := by
  unfold tryTakeResult
  split
  · exact .stay
  next result results ready => exact .handOver ready

theorem waitForResult_move (timedOut : Bool) :
    PoolMove failed pool (pool.waitForResult timedOut).2 := by
  unfold waitForResult
  split
  · exact .stay
  · exact tryTakeResult_move

theorem cancelPending_move : PoolMove failed pool pool.cancelPending := by
  unfold cancelPending
  split
  · exact .stay
  next running => exact .cancel (by simpa using running)

variable (failed pool) in
theorem perform_move (action : Action Q R) : PoolMove failed pool (pool.perform failed action) := by
  cases action with
  | take index => exact take_move index
  | complete index request output => exact complete_move index request output
  | publish index => exact publish_move index
  | enqueue request => exact enqueue_move request
  | tryTakeResult => exact tryTakeResult_move
  | waitForResult timedOut => exact waitForResult_move timedOut
  | updateQueueCapacity capacity allocated => exact updateQueueCapacity_move capacity allocated
  | updateParallelism parallelism spawn => exact updateParallelism_move parallelism spawn
  | cancelPending => exact cancelPending_move

/-- A new pool is idle and has the threads that were asked for. -/
theorem new_ok {queueCapacity parallelism : Nat} {allocated : Bool} {spawn : Nat → Bool}
    (created : new queueCapacity parallelism allocated spawn = .ok pool) :
    parallelism ≤ maxParallelism ∧
    pool.threads = List.replicate parallelism .waiting ∧
    pool.queues = { (unstarted queueCapacity : WorkerPool Q R).queues with parallelism } ∧
    pool.account = {} := by
  simp only [new, bind, Except.bind, pure, Except.pure, throw, throwThe, MonadExceptOf.throw]
    at created
  split at created
  · simp at created
  · split at created
    · simp at created
    · split at created
      · simp at created
      · obtain ⟨error, refused⟩ | ⟨valid, -, _, _, partly | ⟨rfl, outcome⟩⟩ :=
          (unstarted queueCapacity : WorkerPool Q R).resizeWith_cases parallelism spawn
        · simp [refused] at created
        · simp [partly] at created
        · simp only [outcome, Except.ok.injEq] at created
          subst created
          exact ⟨valid.2, by simp [unstarted], rfl, rfl⟩

end WorkerPool

end MannyUploader.Workers
