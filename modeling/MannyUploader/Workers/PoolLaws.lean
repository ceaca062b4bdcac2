import MannyUploader.Foundation.Tickets
import MannyUploader.Workers.PoolSteps

/-! What holds of the pool under every interleaving: its threads and places are
counted, no request is lost, and results enter the queue in ticket order. -/
namespace MannyUploader.Workers
open Foundation

variable {Q R : Type}

/-- Whether the thread counts among the active ones. -/
def Worker.holdsPlace : Worker Q R → Bool
  | .processing _ | .publishing _ _ | .unwound => true
  | .waiting | .returned => false

def Worker.processed : Worker Q R → Option Nat
  | .processing request => some request.number
  | _ => none

/-- The ticket of a finished request and its number. -/
def Worker.finished : Worker Q R → Option (UInt64 × Nat)
  | .publishing ticket result => some (ticket, result.number)
  | _ => none

/-- The number of the request a thread works on or waits to publish. -/
def Worker.number? : Worker Q R → Option Nat
  | .processing request => some request.number
  | .publishing _ result => some result.number
  | .waiting | .returned | .unwound => none

section projections
variable (request : Numbered Q) (result : Numbered R) (ticket : UInt64)

@[simp] theorem holdsPlace_waiting : (Worker.waiting : Worker Q R).holdsPlace = false := rfl
@[simp] theorem holdsPlace_returned : (Worker.returned : Worker Q R).holdsPlace = false := rfl
@[simp] theorem holdsPlace_unwound : (Worker.unwound : Worker Q R).holdsPlace = true := rfl
@[simp] theorem holdsPlace_processing :
    (Worker.processing request : Worker Q R).holdsPlace = true := rfl
@[simp] theorem holdsPlace_publishing :
    (Worker.publishing ticket result : Worker Q R).holdsPlace = true := rfl

@[simp] theorem processed_waiting : (Worker.waiting : Worker Q R).processed = none := rfl
@[simp] theorem processed_processing :
    (Worker.processing request : Worker Q R).processed = some request.number := rfl
@[simp] theorem processed_publishing :
    (Worker.publishing ticket result : Worker Q R).processed = none := rfl

@[simp] theorem finished_waiting : (Worker.waiting : Worker Q R).finished = none := rfl
@[simp] theorem finished_unwound : (Worker.unwound : Worker Q R).finished = none := rfl
@[simp] theorem finished_processing :
    (Worker.processing request : Worker Q R).finished = none := rfl
@[simp] theorem finished_publishing :
    (Worker.publishing ticket result : Worker Q R).finished = some (ticket, result.number) := rfl

end projections

namespace WorkerPool

/-- The numbers of all requests the pool has or has handed over. -/
def held (pool : WorkerPool Q R) : List Nat :=
  pool.queues.requests.map Numbered.number ++ pool.threads.filterMap Worker.processed ++
    (pool.threads.filterMap Worker.finished).map Prod.snd ++
    pool.queues.results.map Numbered.number ++ pool.account.taken

/-- The tickets of the threads that wait to publish. -/
def tickets (pool : WorkerPool Q R) : List UInt64 :=
  (pool.threads.filterMap Worker.finished).map Prod.fst

/-- The threads and their places, as the counters have them. -/
structure Staffed (pool : WorkerPool Q R) : Prop where
  few : pool.threads.length ≤ maxParallelism
  owned : pool.queues.parallelism ≤ pool.threads.length
  counted : pool.queues.active = pool.threads.countP Worker.holdsPlace
  emptied : pool.queues.stopping = true → pool.queues.requests = [] ∧ pool.queues.results = []
  alive : pool.queues.stopping = false → .returned ∉ pool.threads

/-- The counters follow the numbers of tickets drawn and served, and the threads that
wait to publish hold the tickets between them. -/
structure InTurn (pool : WorkerPool Q R) : Prop where
  handed : pool.account.published =
    pool.account.taken ++ pool.queues.results.map Numbered.number
  served : pool.queues.nextPublication = UInt64.ofNat pool.account.published.length
  drawn : pool.queues.nextCompletion = UInt64.ofNat pool.account.completed.length
  between : ∃ unpublished, pool.account.completed = pool.account.published ++ unpublished ∧
    (pool.threads.filterMap Worker.finished).Perm
      (window UInt64.ofNat pool.account.published.length unpublished)

def Conserved (pool : WorkerPool Q R) : Prop :=
  pool.held.Perm (List.range pool.account.accepted)

end WorkerPool

theorem countP_place (before after : List (Worker Q R)) (worker : Worker Q R) :
    (before ++ worker :: after).countP Worker.holdsPlace =
      before.countP Worker.holdsPlace + after.countP Worker.holdsPlace +
        worker.holdsPlace.toNat := by
  rw [List.countP_append, List.countP_cons, ← Nat.add_assoc]
  cases worker.holdsPlace <;> rfl

namespace WorkerPool
variable {failed : Q → Option R} {pool next : WorkerPool Q R}

section replaced
variable {before after : List (Worker Q R)} {old new : Worker Q R}
  (h : pool.Staffed) (there : pool.threads = before ++ old :: after)
include h there

theorem Staffed.active_pos (holds : old.holdsPlace = true) : 0 < pool.queues.active := by
  rw [h.counted, there, countP_place, holds]
  exact Nat.succ_pos _

/-- One thread takes a step: its own place is the only one that changes. -/
theorem Staffed.replaced {queues : Queues Q R} {account : Account}
    (same : queues.parallelism = pool.queues.parallelism)
    (counted : queues.active + old.holdsPlace.toNat =
      pool.queues.active + new.holdsPlace.toNat)
    (emptied : queues.stopping = true → queues.requests = [] ∧ queues.results = [])
    (alive : queues.stopping = false → pool.queues.stopping = false ∧ new ≠ .returned) :
    Staffed { queues, threads := before ++ new :: after, account } := by
  have few := h.few
  have owned := h.owned
  have total := h.counted
  rw [there] at few owned total
  rw [countP_place] at total
  refine ⟨?_, ?_, ?_, emptied, fun running gone => ?_⟩
  · simpa using few
  · simpa [same] using owned
  · show queues.active = _
    rw [countP_place]
    omega
  · obtain ⟨before', kept⟩ := alive running
    have living := h.alive before'
    rw [there] at living
    simp only [List.mem_append, List.mem_cons, not_or] at living gone
    rcases gone with earlier | itself | later
    · exact living.1 earlier
    · exact kept itself.symm
    · exact living.2.2 later

end replaced

theorem Staffed.finished_few (h : pool.Staffed) :
    (pool.threads.filterMap Worker.finished).length ≤ maxParallelism :=
  (List.length_filterMap_le _ _).trans h.few

theorem Staffed.step (move : PoolMove failed pool next) (h : pool.Staffed) : next.Staffed := by
  cases move with
  | stay => exact h
  | retire there stopping =>
    refine h.replaced there rfl (by simp) h.emptied fun running => ?_
    rw [stopping] at running
    contradiction
  | take there running low free queued =>
    refine h.replaced there rfl (by simp) (fun stopping => ?_) fun _ => ⟨running, nofun⟩
    rw [running] at stopping
    contradiction
  | unwind request there panicked =>
    exact h.replaced there rfl (by simp) h.emptied fun running => ⟨running, nofun⟩
  | complete admitted result there =>
    exact h.replaced there rfl (by simp) h.emptied fun running => ⟨running, nofun⟩
  | leave there stopping =>
    have positive := h.active_pos there rfl
    refine h.replaced there rfl ?_ h.emptied fun running => ?_
    · simp only [holdsPlace_publishing, holdsPlace_returned, Bool.toNat_true, Bool.toNat_false]
      omega
    · rw [stopping] at running
      contradiction
  | publish there running room =>
    have positive := h.active_pos there rfl
    refine h.replaced there rfl ?_ (fun stopping => ?_) fun _ => ⟨running, nofun⟩
    · simp only [holdsPlace_publishing, holdsPlace_waiting, Bool.toNat_true, Bool.toNat_false]
      omega
    · rw [running] at stopping
      contradiction
  | enqueue running request =>
    refine ⟨h.few, h.owned, h.counted, fun stopping => ?_, h.alive⟩
    rw [running] at stopping
    contradiction
  | handOver ready =>
    refine ⟨h.few, h.owned, h.counted, fun stopping => ?_, h.alive⟩
    have empty := (h.emptied stopping).2
    rw [ready] at empty
    contradiction
  | resize running capacity => exact ⟨h.few, h.owned, h.counted, h.emptied, h.alive⟩
  | start running started few owned =>
    have few' := h.few
    have owned' := h.owned
    refine ⟨?_, ?_, ?_, h.emptied, fun _ => ?_⟩
    · simp only [List.length_append, List.length_replicate]
      omega
    · simp only [List.length_append, List.length_replicate]
      omega
    · simp [h.counted, List.countP_replicate]
    · simp [h.alive running]
  | cancel running =>
    exact ⟨h.few, h.owned, h.counted, fun _ => ⟨rfl, rfl⟩, fun stopped => nomatch stopped⟩

theorem running_of_move (move : PoolMove failed pool next)
    (running : next.queues.stopping = false) : pool.queues.stopping = false := by
  cases move <;> first | exact running | contradiction

theorem filterMap_place (f : Worker Q R → Option α) (before after : List (Worker Q R))
    (worker : Worker Q R) :
    (before ++ worker :: after).filterMap f =
      before.filterMap f ++ (f worker).toList ++ after.filterMap f := by
  rw [List.filterMap_append, List.filterMap_cons, List.append_assoc]
  cases f worker <;> rfl

theorem filterMap_started (f : Worker Q R → Option α) (threads : List (Worker Q R))
    (started : Nat) (absent : f .waiting = none) :
    (threads ++ List.replicate started (.waiting : Worker Q R)).filterMap f =
      threads.filterMap f := by
  simp [absent]

/-- A thread that neither finished before nor does so now leaves every ticket in place. -/
theorem InTurn.replaced {before after : List (Worker Q R)} {worker worker' : Worker Q R}
    {queues : Queues Q R} (h : pool.InTurn) (there : pool.threads = before ++ worker :: after)
    (earlier : worker.finished = none) (now : worker'.finished = none)
    (results : queues.results = pool.queues.results)
    (drawn : queues.nextCompletion = pool.queues.nextCompletion)
    (served : queues.nextPublication = pool.queues.nextPublication) :
    InTurn { queues, threads := before ++ worker' :: after, account := pool.account } := by
  obtain ⟨unpublished, split, holders⟩ := h.between
  refine ⟨by rw [results, h.handed], served.trans h.served, drawn.trans h.drawn,
    unpublished, split, ?_⟩
  rw [there, filterMap_place, earlier] at holders
  rw [filterMap_place, now]
  exact holders

theorem repeatsAfter_ofNat : RepeatsAfter UInt64.ofNat maxParallelism := by
  intro i j less near same
  have values := congrArg UInt64.toNat same
  simp only [UInt64.toNat_ofNat', maxParallelism] at values near
  omega

theorem InTurn.step (move : PoolMove failed pool next) (staffed : pool.Staffed)
    (running : next.queues.stopping = false) (h : pool.InTurn) : next.InTurn := by
  cases move with
  | stay => exact h
  | retire there stopping => exact h.replaced there rfl rfl rfl rfl rfl
  | take there _ low free queued => exact h.replaced there rfl rfl rfl rfl rfl
  | unwind request there panicked => exact h.replaced there rfl rfl rfl rfl rfl
  | complete admitted result there =>
    obtain ⟨unpublished, split, holders⟩ := h.between
    have drawn : pool.queues.nextCompletion =
        UInt64.ofNat (pool.account.published.length + unpublished.length) := by
      rw [h.drawn, split, List.length_append]
    refine ⟨h.handed, h.served, ?_, unpublished ++ [admitted.number], ?_, ?_⟩
    · simp [h.drawn, UInt64.ofNat_add]
    · rw [split, List.append_assoc]
    · rw [there, filterMap_place] at holders
      rw [filterMap_place, drawn, finished_publishing, Option.toList_some, List.append_assoc]
      exact window_issued (by simpa using holders)
  | leave there stopping =>
    rw [stopping] at running
    contradiction
  | publish there _ room =>
    obtain ⟨unpublished, split, holders⟩ := h.between
    have short := holders.length_eq ▸ staffed.finished_few
    rw [length_window] at short
    rw [there, filterMap_place, h.served] at holders
    obtain ⟨rest, rfl, held⟩ := window_served repeatsAfter_ofNat short (by simpa using holders)
    refine ⟨?_, ?_, h.drawn, rest, ?_, ?_⟩
    · simp [h.handed]
    · simp [h.served, UInt64.ofNat_add]
    · simp [split]
    · rw [filterMap_place]
      simpa using held
  | enqueue _ request => exact ⟨h.handed, h.served, h.drawn, h.between⟩
  | handOver ready =>
    refine ⟨?_, h.served, h.drawn, h.between⟩
    rw [h.handed, ready]
    simp
  | resize _ capacity => exact ⟨h.handed, h.served, h.drawn, h.between⟩
  | start _ started few owned =>
    refine ⟨h.handed, h.served, h.drawn, ?_⟩
    rw [filterMap_started Worker.finished _ _ rfl]
    exact h.between
  | cancel _ => contradiction

/-- How often a number occurs among the threads' requests. -/
def inThreads (threads : List (Worker Q R)) (number : Nat) : Nat :=
  (threads.filterMap Worker.processed).count number +
    ((threads.filterMap Worker.finished).map Prod.snd).count number

theorem count_held (pool : WorkerPool Q R) (number : Nat) :
    pool.held.count number =
      (pool.queues.requests.map Numbered.number).count number + inThreads pool.threads number +
      (pool.queues.results.map Numbered.number).count number +
      pool.account.taken.count number := by
  simp only [held, List.count_append, inThreads]
  omega

theorem inThreads_place (before after : List (Worker Q R)) (worker : Worker Q R) (number : Nat) :
    inThreads (before ++ worker :: after) number =
      inThreads before number + inThreads after number +
        worker.number?.toList.count number := by
  simp only [inThreads, filterMap_place, List.map_append, List.count_append]
  cases worker <;> simp only [Worker.processed, Worker.finished, Worker.number?,
    Option.toList_none, Option.toList_some, List.map_cons, List.map_nil, List.count_nil] <;> omega

theorem conserved_iff : pool.Conserved ↔
    ∀ number, pool.held.count number = (List.range pool.account.accepted).count number :=
  List.perm_iff_count

theorem Conserved.step (total : ∀ request, (failed request).isSome)
    (move : PoolMove failed pool next) (running : next.queues.stopping = false)
    (h : pool.Conserved) : next.Conserved := by
  rw [conserved_iff] at h ⊢
  intro number
  have kept := h number
  rw [count_held] at kept ⊢
  cases move with
  | stay => exact kept
  | retire there stopping =>
    rw [stopping] at running
    contradiction
  | take there _ low free queued =>
    rw [there, queued, inThreads_place] at kept
    rw [inThreads_place]
    simp only [Worker.number?, Option.toList_none, Option.toList_some, List.map_cons,
      List.count_cons, List.count_nil] at kept ⊢
    omega
  | unwind request there panicked =>
    simpa [panicked] using total request
  | complete admitted result there =>
    rw [there, inThreads_place] at kept
    rw [inThreads_place]
    exact kept
  | leave there stopping =>
    rw [stopping] at running
    contradiction
  | publish there _ room =>
    rw [there, inThreads_place] at kept
    rw [inThreads_place]
    simp only [Worker.number?, Option.toList_none, Option.toList_some, List.map_append,
      List.map_cons, List.map_nil, List.count_append, List.count_cons, List.count_nil] at kept ⊢
    omega
  | enqueue _ request =>
    simp only [List.map_append, List.count_append, List.map_cons, List.map_nil,
      List.range_succ] at kept ⊢
    omega
  | handOver ready =>
    rw [ready] at kept
    simp only [List.map_cons, List.count_cons, List.count_append, List.count_nil] at kept ⊢
    omega
  | resize _ capacity => exact kept
  | start _ started few owned =>
    rw [inThreads, filterMap_started Worker.processed _ _ rfl,
      filterMap_started Worker.finished _ _ rfl]
    exact kept
  | cancel _ => contradiction

theorem grows_in_room (move : PoolMove failed pool next)
    (grown : pool.queues.results.length < next.queues.results.length) :
    pool.queues.results.length < pool.queues.capacity ∧
      ∃ result, next.queues.results = pool.queues.results ++ [result] := by
  cases move with
  | publish there running room => exact ⟨room, _, rfl⟩
  | handOver ready =>
    simp only [ready, List.length_cons] at grown
    omega
  | cancel running => simp at grown
  | _ => exact absurd grown (Nat.lt_irrefl _)

/-- Any actions after one another: every interleaving of the threads and the owner. -/
abbrev Interleaving (failed : Q → Option R) (start pool : WorkerPool Q R) : Prop :=
  Run (perform failed) (fun _ _ => True) start pool

theorem Staffed.later (h : pool.Staffed) (run : Interleaving failed pool next) : next.Staffed :=
  run.invariant (fun _ action _ h => h.step (perform_move failed _ action)) h

section runs
variable {start : WorkerPool Q R} {queueCapacity parallelism : Nat} {allocated : Bool}
  {spawn : Nat → Bool} (created : new queueCapacity parallelism allocated spawn = .ok start)
  (run : Interleaving failed start pool)
include created

theorem Staffed.of_new : start.Staffed := by
  obtain ⟨few, threads, queues, _⟩ := new_ok created
  refine ⟨?_, ?_, ?_, ?_, ?_⟩
  · simpa [threads] using few
  · simp [threads, queues]
  · simp [threads, queues, unstarted, List.countP_replicate]
  · simp [queues, unstarted]
  · simp [threads, List.mem_replicate]

theorem InTurn.of_new : start.InTurn := by
  obtain ⟨_, threads, queues, account⟩ := new_ok created
  refine ⟨?_, ?_, ?_, [], ?_, ?_⟩
  · simp [queues, account, unstarted]
  · simp [queues, account, unstarted]
  · simp [queues, account, unstarted]
  · simp [account]
  · simp [threads, List.filterMap_replicate, window]

theorem Conserved.of_new : start.Conserved := by
  obtain ⟨_, threads, queues, account⟩ := new_ok created
  rw [conserved_iff]
  intro number
  simp [count_held, inThreads, threads, queues, account, unstarted, List.filterMap_replicate]

include run

theorem Staffed.of_run : pool.Staffed := (Staffed.of_new created).later run

theorem InTurn.of_run (running : pool.queues.stopping = false) : pool.InTurn := by
  induction run with
  | refl => exact .of_new created
  | @step last action before _ ih =>
    have move := perform_move failed last action
    exact (ih (running_of_move move running)).step move (.of_run created before) running

theorem Conserved.of_run (total : ∀ request, (failed request).isSome)
    (running : pool.queues.stopping = false) : pool.Conserved := by
  induction run with
  | refl => exact .of_new created
  | @step last action before _ ih =>
    have move := perform_move failed last action
    exact (ih (running_of_move move running)).step total move running

end runs

/-- Until the pool is stopped no request is lost or doubled, and results are published in
the order of their tickets, each into a queue that has room for it. -/
theorem requests_conserved {start : WorkerPool Q R} {queueCapacity parallelism : Nat}
    {allocated : Bool} {spawn : Nat → Bool} (total : ∀ request, (failed request).isSome)
    (created : new queueCapacity parallelism allocated spawn = .ok start)
    (run : Interleaving failed start pool) (running : pool.queues.stopping = false) :
    pool.held.Perm (List.range pool.account.accepted) ∧ pool.held.Nodup ∧
    pool.account.published =
      pool.account.taken ++ pool.queues.results.map Numbered.number ∧
    pool.account.published <+: pool.account.completed ∧
    pool.threads.length ≤ maxParallelism ∧
    ∀ action, pool.queues.results.length < (pool.perform failed action).queues.results.length →
      pool.queues.results.length < pool.queues.capacity ∧
      ∃ result, (pool.perform failed action).queues.results = pool.queues.results ++ [result] := by
  have conserved := Conserved.of_run created run total running
  have inTurn := InTurn.of_run created run running
  obtain ⟨unpublished, split, _⟩ := inTurn.between
  refine ⟨conserved, conserved.nodup_iff.mpr List.nodup_range, inTurn.handed, ?_,
    (Staffed.of_run created run).few, fun action => grows_in_room (perform_move failed pool action)⟩
  rw [split]
  exact List.prefix_append _ _

/-- A pool with two threads and room for two requests. -/
def samplePool : WorkerPool String Nat where
  queues := { (unstarted 2 : WorkerPool String Nat).queues with parallelism := 2 }
  threads := [.waiting, .waiting]

/-- The second request finishes first and the first one panics: it waits for its turn. -/
def sampleActions : List (Action String Nat) :=
  [.enqueue "a", .enqueue "b", .take 0, .take 1, .complete 1 "b" (some 7), .complete 0 "a" none,
    .publish 0, .publish 1, .tryTakeResult, .publish 0]

theorem requests_conserved_sample :
    let pool := sampleActions.foldl (perform fun _ => some 0) samplePool
    pool.held.Perm (List.range 2) ∧ pool.account.completed = [1, 0] ∧ pool.account.taken = [1] ∧
      pool.account.published <+: [1, 0] := by
  have law := requests_conserved (fun _ => rfl)
    (show new 2 2 true (fun _ => true) = .ok samplePool from rfl)
    (.of_list (perform fun _ => some 0) samplePool sampleActions fun _ _ _ => trivial)
    (by decide)
  refine ⟨?_, by decide, by decide, ?_⟩
  · have two : (sampleActions.foldl (perform fun _ => some 0) samplePool).account.accepted = 2 := by
      decide
    simpa only [two] using law.1
  · have drawn : (sampleActions.foldl (perform fun _ => some 0) samplePool).account.completed =
        [1, 0] := by decide
    simpa only [drawn] using law.2.2.2.1

end WorkerPool

end MannyUploader.Workers
