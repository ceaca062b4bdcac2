import MannyUploader.Workers.PoolLaws

/-! The pool is never stuck: while a thread could use what is there, some thread's
wait condition has ended. A cancelled pool stays empty and ends every wait. -/
namespace MannyUploader.Workers
open Foundation

variable {Q R : Type}

namespace WorkerPool
variable {failed : Q → Option R} {pool next : WorkerPool Q R}

theorem mem_tickets {ticket : UInt64} (listed : ticket ∈ pool.tickets) :
    ∃ (index : Nat) (result : Numbered R), pool.threads[index]? = some (.publishing ticket result) := by
  obtain ⟨⟨_, number⟩, finished, rfl⟩ := List.mem_map.mp listed
  obtain ⟨worker, member, holds⟩ := List.mem_filterMap.mp finished
  obtain ⟨index, found⟩ := List.mem_iff_getElem?.mp member
  cases worker with
  | publishing ticket result =>
    obtain ⟨rfl, rfl⟩ := Prod.mk.inj (Option.some.inj holds)
    exact ⟨index, result, found⟩
  | _ => simp [Worker.finished] at holds

/-- The tickets that wait run from the next publication up to the next completion. -/
theorem InTurn.tickets_between (inTurn : pool.InTurn) (staffed : pool.Staffed) :
    ∃ count ≤ maxParallelism,
      pool.queues.nextCompletion = pool.queues.nextPublication + UInt64.ofNat count ∧
      pool.tickets.Perm
        ((List.range count).map fun i => pool.queues.nextPublication + UInt64.ofNat i) := by
  obtain ⟨unpublished, split, holders⟩ := inTurn.between
  refine ⟨unpublished.length, ?_, ?_, ?_⟩
  · rw [← length_window UInt64.ofNat pool.account.published.length, ← holders.length_eq]
    exact staffed.finished_few
  · rw [inTurn.drawn, inTurn.served, split, List.length_append, UInt64.ofNat_add]
  · have listed := holders.map Prod.fst
    rw [window_tickets] at listed
    simpa only [tickets, inTurn.served, UInt64.ofNat_add] using listed

theorem publisher_ready (inTurn : pool.InTurn) (staffed : pool.Staffed)
    (room : pool.queues.results.length < pool.queues.capacity) (waits : pool.tickets ≠ []) :
    ∃ (index : Nat) (ticket : UInt64) (result : Numbered R),
      pool.threads[index]? = some (.publishing ticket result) ∧
      pool.queues.holdsPublisher ticket = false := by
  obtain ⟨count, _, _, listed⟩ := inTurn.tickets_between staffed
  have first : pool.queues.nextPublication ∈ pool.tickets := by
    refine listed.symm.subset (List.mem_map.mpr ⟨0, ?_, by simp⟩)
    rw [List.mem_range]
    by_contra none
    rw [Nat.eq_zero_of_not_pos none] at listed
    exact waits listed.eq_nil
  obtain ⟨index, result, found⟩ := mem_tickets first
  refine ⟨index, _, result, found, ?_⟩
  simp [Queues.holdsPublisher, room]

/-- Fewer places are taken than there are threads in use, so one of those is free. -/
theorem taker_ready (staffed : pool.Staffed) (running : pool.queues.stopping = false)
    (queued : pool.queues.requests ≠ [])
    (free : pool.queues.active < pool.queues.parallelism) :
    ∃ index < pool.queues.parallelism, pool.threads[index]? = some .waiting ∧
      pool.queues.holdsTaker index = false := by
  have used : (pool.threads.take pool.queues.parallelism).length = pool.queues.parallelism := by
    rw [List.length_take, Nat.min_eq_left staffed.owned]
  have spare : ∃ worker ∈ pool.threads.take pool.queues.parallelism,
      worker.holdsPlace = false := by
    by_contra none
    have full : (pool.threads.take pool.queues.parallelism).countP Worker.holdsPlace =
        pool.queues.parallelism := by
      refine (List.countP_eq_length.mpr fun worker member => ?_).trans used
      by_contra idle
      exact none ⟨worker, member, by simpa using idle⟩
    have fewer := (List.take_sublist pool.queues.parallelism pool.threads).countP_le
      (p := Worker.holdsPlace)
    rw [full, ← staffed.counted] at fewer
    omega
  obtain ⟨worker, member, idle⟩ := spare
  obtain ⟨index, found⟩ := List.mem_iff_getElem?.mp member
  rw [List.getElem?_take, Option.ite_none_right_eq_some] at found
  obtain ⟨low, there⟩ := found
  refine ⟨index, low, ?_, ?_⟩
  · cases worker with
    | waiting => exact there
    | returned => exact absurd (List.mem_of_getElem? there) (staffed.alive running)
    | _ => contradiction
  · simp [Queues.holdsTaker, running, low, free, queued]

theorem stopping_of_run (stopping : pool.queues.stopping = true)
    (run : Interleaving failed pool next) : next.queues.stopping = true := by
  induction run with
  | refl => exact stopping
  | @step last action _ _ ih =>
    by_contra running
    rw [running_of_move (perform_move failed last action) (by simpa using running)] at ih
    contradiction

theorem cancelPending_stops : pool.cancelPending.queues.stopping = true := by
  unfold cancelPending
  split
  next stopping => exact stopping
  · rfl

/-- No interleaving gets the pool stuck: a result that has room can be published, a request
that has a place can be taken. Once cancelled, the pool is empty and lets everyone go. -/
theorem never_stuck {start : WorkerPool Q R} {queueCapacity parallelism : Nat}
    {allocated : Bool} {spawn : Nat → Bool}
    (created : new queueCapacity parallelism allocated spawn = .ok start)
    (run : Interleaving failed start pool) :
    (pool.queues.stopping = false →
      (∃ count ≤ maxParallelism,
        pool.queues.nextCompletion = pool.queues.nextPublication + UInt64.ofNat count ∧
        pool.tickets.Perm
          ((List.range count).map fun i => pool.queues.nextPublication + UInt64.ofNat i)) ∧
      (pool.queues.results.length < pool.queues.capacity → pool.tickets ≠ [] →
        ∃ (index : Nat) (ticket : UInt64) (result : Numbered R),
      pool.threads[index]? = some (.publishing ticket result) ∧
          pool.queues.holdsPublisher ticket = false) ∧
      (pool.queues.requests ≠ [] → pool.queues.active < pool.queues.parallelism →
        ∃ index < pool.queues.parallelism, pool.threads[index]? = some Worker.waiting ∧
          pool.queues.holdsTaker index = false)) ∧
    ∀ later, Interleaving failed pool.cancelPending later →
      later.queues.requests = [] ∧ later.queues.results = [] ∧
      (∀ index, later.queues.holdsTaker index = false) ∧
      ∀ ticket, later.queues.holdsPublisher ticket = false := by
  have staffed := Staffed.of_run created run
  refine ⟨fun running => ?_, fun later more => ?_⟩
  · have inTurn := InTurn.of_run created run running
    exact ⟨inTurn.tickets_between staffed, publisher_ready inTurn staffed,
      taker_ready staffed running⟩
  · have stopping := stopping_of_run cancelPending_stops more
    have cancels : PoolMove failed pool pool.cancelPending := cancelPending_move
    have cancelled := staffed.step cancels
    have empty := (cancelled.later more).emptied stopping
    exact ⟨empty.1, empty.2, fun index => by simp [Queues.holdsTaker, stopping],
      fun ticket => by simp [Queues.holdsPublisher, stopping]⟩

/-- After six of the sample's actions its earlier finisher can publish and the later cannot. -/
theorem never_stuck_sample :
    let pool := (sampleActions.take 6).foldl (perform fun _ => some 0) samplePool
    pool.tickets = [1, 0] ∧
      (∃ (index : Nat) (ticket : UInt64) (result : Numbered Nat),
        pool.threads[index]? = some (.publishing ticket result) ∧
          pool.queues.holdsPublisher ticket = false) ∧
      pool.cancelPending.queues.requests = [] := by
  have law := never_stuck (show new 2 2 true (fun _ => true) = .ok samplePool from rfl)
    (.of_list (perform fun _ => some 0) samplePool (sampleActions.take 6) fun _ _ _ => trivial)
  exact ⟨by decide,
    (law.1 (by decide)).2.1 (by decide) (by decide), (law.2 _ .refl).1⟩

end WorkerPool

end MannyUploader.Workers
