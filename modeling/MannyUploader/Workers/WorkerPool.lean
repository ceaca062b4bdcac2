import MannyUploader.Foundation.Runs

/-! The pool of worker threads behind a provider. A stretch of code that holds
the pool's lock is one action, and the threads interleave between actions. -/
namespace MannyUploader.Workers

def maxParallelism : Nat := 32

inductive QueueError
  | full
  | stopping
deriving DecidableEq, Repr

inductive WorkerError
  | invalidCapacity
  | invalidParallelism
  | allocationFailed
  | threadStartFailed
  | stopping
deriving DecidableEq, Repr

/-- A request, or its output, with the place of the request among those accepted.
The number is bookkeeping for the proofs: the code has none and no branch reads it. -/
structure Numbered (α : Type) where
  number : Nat
  value : α
deriving Repr

/-- Where a thread stands in `run`. -/
inductive Worker (Q R : Type)
  | waiting
  | processing (request : Numbered Q)
  /-- It has finished, and waits for its turn and for room among the results. -/
  | publishing (ticket : UInt64) (result : Numbered R)
  | returned
  /-- It ended by a panic, without giving its place among the active ones back. -/
  | unwound
deriving Repr

structure Queues (Q R : Type) where
  capacity : Nat
  requests : List (Numbered Q)
  results : List (Numbered R)
  active : Nat
  parallelism : Nat
  stopping : Bool
  nextCompletion : UInt64
  nextPublication : UInt64
deriving Repr

/-- What happened to the requests so far, by number: how many were accepted, and which
drew a completion ticket, entered the results and were taken, each in that order. -/
structure Account where
  accepted : Nat := 0
  completed : List Nat := []
  published : List Nat := []
  taken : List Nat := []
deriving Repr

structure WorkerPool (Q R : Type) where
  queues : Queues Q R
  threads : List (Worker Q R)
  account : Account := {}
deriving Repr

/-- The first wait condition of `run`. -/
def Queues.holdsTaker (queues : Queues Q R) (index : Nat) : Bool :=
  !queues.stopping &&
    (queues.parallelism ≤ index || queues.parallelism ≤ queues.active || queues.requests.isEmpty)

/-- The second wait condition of `run`. -/
def Queues.holdsPublisher (queues : Queues Q R) (ticket : UInt64) : Bool :=
  !queues.stopping &&
    (queues.capacity ≤ queues.results.length || ticket != queues.nextPublication)

namespace WorkerPool
variable {Q R : Type}

/-- `run` up to `process`. -/
def take (pool : WorkerPool Q R) (index : Nat) : WorkerPool Q R :=
  match pool.threads[index]? with
  | some .waiting =>
    if pool.queues.holdsTaker index then pool
    else if pool.queues.stopping then
      { pool with threads := pool.threads.set index .returned }
    else match pool.queues.requests with
      | [] =>
        -- The `expect` after the wait, with `active` already counted up.
        { pool with
          queues := { pool.queues with active := pool.queues.active + 1 }
          threads := pool.threads.set index .unwound }
      | request :: requests =>
        { pool with
          queues := { pool.queues with active := pool.queues.active + 1, requests }
          threads := pool.threads.set index (.processing request) }
  | _ => pool

/-- `run` from the end of `process`, which left `request` and gave `output` unless it
panicked, to the second wait. -/
def complete (failed : Q → Option R) (pool : WorkerPool Q R) (index : Nat) (request : Q)
    (output : Option R) : WorkerPool Q R :=
  match pool.threads[index]? with
  | some (.processing admitted) =>
    match output.or (failed request) with
    | none => { pool with threads := pool.threads.set index .unwound }
    | some result =>
      let ticket := pool.queues.nextCompletion
      { queues := { pool.queues with nextCompletion := ticket + 1 }
        threads := pool.threads.set index (.publishing ticket ⟨admitted.number, result⟩)
        account :=
          { pool.account with completed := pool.account.completed ++ [admitted.number] } }
  | _ => pool

/-- `run` from the second wait on. -/
def publish (pool : WorkerPool Q R) (index : Nat) : WorkerPool Q R :=
  match pool.threads[index]? with
  | some (.publishing ticket result) =>
    if pool.queues.holdsPublisher ticket then pool
    else if pool.queues.stopping then
      { pool with
        queues := { pool.queues with active := pool.queues.active - 1 }
        threads := pool.threads.set index .returned }
    else
      { queues := { pool.queues with
          active := pool.queues.active - 1
          results := pool.queues.results ++ [result]
          nextPublication := pool.queues.nextPublication + 1 }
        threads := pool.threads.set index .waiting
        account :=
          { pool.account with published := pool.account.published ++ [result.number] } }
  | _ => pool

def validateParallelism (parallelism : Nat) : Except WorkerError Unit :=
  if 1 ≤ parallelism ∧ parallelism ≤ maxParallelism then .ok ()
  else .error .invalidParallelism

/-- The loop of `resize_with`: it starts the missing threads, one index after the other. -/
def startThreads (spawn : Nat → Bool) (threads : List (Worker Q R)) :
    Nat → Except WorkerError Unit × List (Worker Q R)
  | 0 => (.ok (), threads)
  | missing + 1 =>
    if spawn threads.length then startThreads spawn (threads ++ [.waiting]) missing
    else (.error .threadStartFailed, threads)

def resizeWith (pool : WorkerPool Q R) (parallelism : Nat) (spawn : Nat → Bool) :
    Except WorkerError Unit × WorkerPool Q R :=
  match validateParallelism parallelism with
  | .error error => (.error error, pool)
  | .ok () =>
    if pool.queues.stopping then (.error .stopping, pool)
    else match startThreads spawn pool.threads (parallelism - pool.threads.length) with
      | (.error error, threads) => (.error error, { pool with threads })
      | (.ok (), threads) =>
        (.ok (), { pool with queues := { pool.queues with parallelism }, threads })

def updateParallelism (pool : WorkerPool Q R) (parallelism : Nat) (spawn : Nat → Bool) :
    Except WorkerError Unit × WorkerPool Q R :=
  pool.resizeWith parallelism spawn

/-- The pool `new_with` builds before it starts any thread. -/
def unstarted (capacity : Nat) : WorkerPool Q R where
  queues := { capacity, requests := [], results := [], active := 0, parallelism := 0,
              stopping := false, nextCompletion := 0, nextPublication := 0 }
  threads := []

/-- A new pool; `allocated` says whether its storage could be reserved. -/
def new (queueCapacity parallelism : Nat) (allocated : Bool) (spawn : Nat → Bool) :
    Except WorkerError (WorkerPool Q R) := do
  if queueCapacity = 0 then throw .invalidCapacity
  validateParallelism parallelism
  if !allocated then throw .allocationFailed
  match (unstarted queueCapacity).resizeWith parallelism spawn with
  | (.ok (), pool) => pure pool
  | (.error error, _) => throw error

def updateQueueCapacity (pool : WorkerPool Q R) (capacity : Nat) (allocated : Bool) :
    Except WorkerError Unit × WorkerPool Q R :=
  if capacity = 0 then (.error .invalidCapacity, pool)
  else if pool.queues.stopping then (.error .stopping, pool)
  else if !allocated then (.error .allocationFailed, pool)
  else (.ok (), { pool with queues := { pool.queues with capacity } })

def enqueue (pool : WorkerPool Q R) (request : Q) : Except QueueError Unit × WorkerPool Q R :=
  if pool.queues.stopping then (.error .stopping, pool)
  else if pool.queues.capacity ≤ pool.queues.requests.length then (.error .full, pool)
  else
    (.ok (),
      { pool with
        queues := { pool.queues with
          requests := pool.queues.requests ++ [⟨pool.account.accepted, request⟩] }
        account := { pool.account with accepted := pool.account.accepted + 1 } })

def tryTakeResult (pool : WorkerPool Q R) : Option R × WorkerPool Q R :=
  match pool.queues.results with
  | [] => (none, pool)
  | result :: results =>
    (some result.value,
      { pool with
        queues := { pool.queues with results }
        account := { pool.account with taken := pool.account.taken ++ [result.number] } })

/-- The wait of `wait_for_result` ends when its condition does or by its timeout. -/
def waitForResult (pool : WorkerPool Q R) (timedOut : Bool) : Option R × WorkerPool Q R :=
  if !timedOut && !pool.queues.stopping && pool.queues.results.isEmpty then (none, pool)
  else pool.tryTakeResult

def cancelPending (pool : WorkerPool Q R) : WorkerPool Q R :=
  if pool.queues.stopping then pool
  else { pool with
    queues := { pool.queues with stopping := true, requests := [], results := [] } }

end WorkerPool

/-- One stretch under the lock, of a thread or of the pool's owner, with the answers of
the processor, the allocator and the system. -/
inductive Action (Q R : Type)
  | take (index : Nat)
  | complete (index : Nat) (request : Q) (output : Option R)
  | publish (index : Nat)
  | enqueue (request : Q)
  | tryTakeResult
  | waitForResult (timedOut : Bool)
  | updateQueueCapacity (capacity : Nat) (allocated : Bool)
  | updateParallelism (parallelism : Nat) (spawn : Nat → Bool)
  | cancelPending

/-- `failed` is the processor's answer for a request whose `process` panicked; it has
none when it panics as well. -/
def WorkerPool.perform (failed : Q → Option R) (pool : WorkerPool Q R) :
    Action Q R → WorkerPool Q R
  | .take index => pool.take index
  | .complete index request output => pool.complete failed index request output
  | .publish index => pool.publish index
  | .enqueue request => (pool.enqueue request).2
  | .tryTakeResult => pool.tryTakeResult.2
  | .waitForResult timedOut => (pool.waitForResult timedOut).2
  | .updateQueueCapacity capacity allocated => (pool.updateQueueCapacity capacity allocated).2
  | .updateParallelism parallelism spawn => (pool.updateParallelism parallelism spawn).2
  | .cancelPending => pool.cancelPending

end MannyUploader.Workers
