import MannyUploader.Application.DonBotAggregate
import MannyUploader.Providers.DonBotClient
import MannyUploader.Providers.UploadWorkers
import MannyUploader.Workers.PoolContents

/-! The worker behind the DonBot aggregates, and the session in which it and its controller take
turns. It has one thread, and takes a request only when nothing is left of the one before. -/
namespace MannyUploader.Providers
open Domain Application Foundation Workers

/-- `Captured` of the aggregate worker. -/
structure CapturedAggregate where
  request : DonBotAggregateRequest
  options : DonBotOptions
  dispatched : Bool
deriving DecidableEq

namespace CapturedAggregate

def result (captured : CapturedAggregate) (outcome : DonBotAggregateOutcome) :
    DonBotAggregateResult where
  requestId := captured.request.requestId
  outcome
  fightLogCount := captured.request.fightLogIds.length
  discordDelivery := none
  credentialFailure := none

/-- The report may have been posted, whatever the error says. -/
def uncertain (error : DonBotError) : Bool :=
  error.disposition != .failed || error.httpError.isSome ||
    error.httpStatus.any (fun status => status == 200 || status == 408 || status == 429 ||
      500 ≤ status) || error.code == .internal

def errorResult (captured : CapturedAggregate) (error : DonBotError) : DonBotAggregateResult :=
  captured.result (if uncertain error then .ambiguous else .failed)

def successResult (captured : CapturedAggregate) (success : DonBotAggregateSuccess) :
    DonBotAggregateResult :=
  let receipt := success.discordDelivery
  if success.fightLogCount ≠ captured.request.fightLogIds.length ||
      !receipt.isValidWithLimit maxDonbotAggregateFights || receipt.outcome = .notRequested then
    captured.result .ambiguous
  else
    let outcome : DonBotAggregateOutcome :=
      if receipt.ambiguous ≠ 0 then .ambiguous
      else if receipt.sent ≠ 0 then .succeeded
      else .failed
    { captured.result outcome with discordDelivery := some receipt }

end CapturedAggregate

namespace DonBotAggregateWorker

/-- What a thread does with a request. A panic leaves the request as it then was. -/
abbrev Processing :=
  Dialogue Call Call.Answer CapturedAggregate (CapturedAggregate × DonBotAggregateResult)

def conclude (captured : CapturedAggregate) :
    Except (Fault DonBotError) DonBotAggregateSuccess → Processing
  | .error .panicked => .fail captured
  | .error (.error error) => .ask .stopRequested fun (stopped : Bool) =>
    .done (captured, if stopped then captured.result .ambiguous else captured.errorResult error)
  | .ok success => .ask .stopRequested fun (stopped : Bool) =>
    .done (captured, if stopped then captured.result .ambiguous else captured.successResult success)

def withKey (readers : DonBotResponse.Readers) (captured : CapturedAggregate) :
    Except (Fault UploadFailure) SecretValue → Processing
  | .error .panicked => .fail captured
  | .error (.error reason) =>
    .done (captured, { captured.result .failed with credentialFailure := some reason })
  | .ok key => .ask .stopRequested fun (stopped : Bool) =>
    if stopped then .done (captured, captured.result .cancelled)
    else
      (DonBotClient.deliverAggregate readers captured.request.fightLogIds captured.options
        key).settle (conclude { captured with dispatched := true })

def process (readers : DonBotResponse.Readers) (hasSecrets : Bool)
    (captured : CapturedAggregate) : Processing :=
  .ask .stopRequested fun (stopped : Bool) =>
    if stopped then .done (captured, captured.result .cancelled)
    else (loadKey hasSecrets).settle (withKey readers captured)

/-- The answer for a request whose processing panicked. -/
def failed (captured : CapturedAggregate) : DonBotAggregateResult :=
  captured.result (if captured.dispatched then .ambiguous else .failed)

abbrev Pool := WorkerPool CapturedAggregate DonBotAggregateResult

def enqueue (request : DonBotAggregateRequest) (pool : Pool) :
    Except DonBotAggregateDispatchError Unit × Pool :=
  if pool.queues.stopping then (.error .stopping, pool)
  else if pool.outstanding ≠ 0 then (.error .busy, pool)
  else if request.requestId == 0 || !DonBotClient.validIds request.fightLogIds ||
      !request.delivery.requested then (.error .invalidRequest, pool)
  else match normalizeOptions {
      apiBaseUrl := request.apiBaseUrl, guildId := request.guildId
      delivery := request.delivery } with
    | none => (.error .invalidRequest, pool)
    | some options =>
      let request := { request with apiBaseUrl := "", guildId := "", delivery := .none }
      match pool.enqueue { request, options, dispatched := false } with
      | (.ok (), pool) => (.ok (), pool)
      | (.error .full, pool) => (.error .busy, pool)
      | (.error .stopping, pool) => (.error .stopping, pool)

/-- Which calls of the worker panic, and whether they did their work before. -/
structure Faults where
  enqueue : Option Bool := none
  tryTakeResult : Option Bool := none
  cancelPending : Option Bool := none

def ports (faults : Faults) : AggregatePorts Pool where
  enqueue request pool :=
    match faults.enqueue with
    | some accepted => (.error .panicked, if accepted then (enqueue request pool).2 else pool)
    | none => match enqueue request pool with
      | (.ok (), pool) => (.ok (), pool)
      | (.error error, pool) => (.error (.failed error), pool)
  tryTakeResult pool :=
    match faults.tryTakeResult with
    | some taken => (.error .panicked, if taken then pool.tryTakeResult.2 else pool)
    | none => (.ok pool.tryTakeResult.1, pool.tryTakeResult.2)
  cancelPending pool := if faults.cancelPending = some false then pool else pool.cancelPending

end DonBotAggregateWorker

/-- What a thread went through with a request, and what it made of it. -/
structure AggregateEnd where
  said : Calls
  request : DonBotAggregateRequest
  result : DonBotAggregateResult

/-- The controller and its worker. The requests that threads are done with are bookkeeping. -/
structure AggregateSession where
  controller : DonBotAggregateDeliveryController
  pool : DonBotAggregateWorker.Pool
  ended : List AggregateEnd := []

/-- A call of the controller, or what a thread does under the lock of the pool. -/
inductive AggregateOp
  | submit (command : SendDonBotAggregateCommand)
  | tick (faults : DonBotAggregateWorker.Faults) (uploads : UploadCoordinator)
      (configuration : ConfigurationService) (donbot : DonBotConfigurationSnapshot)
  | shutdown (faults : DonBotAggregateWorker.Faults)
  | take (index : Nat)
  | finish (index : Nat) (said : Calls) (captured : CapturedAggregate)
      (output : Option DonBotAggregateResult)
  | publish (index : Nat)

namespace AggregateSession
open DonBotAggregateWorker

def start (pool : Pool) : AggregateSession where
  controller := .new
  pool

def step (s : AggregateSession) : AggregateOp → AggregateSession
  | .submit command =>
    match s.controller.submit command with
    | .ok controller => { s with controller }
    | .error _ => s
  | .tick faults uploads configuration donbot =>
    let (_, controller, pool) :=
      s.controller.tick (ports faults) uploads configuration donbot s.pool
    { s with controller, pool }
  | .shutdown faults =>
    let (controller, pool) := s.controller.shutdown (ports faults) s.pool
    { s with controller, pool }
  | .take index => { s with pool := s.pool.take index }
  | .finish index said captured output =>
    let pool := s.pool.complete (fun captured => some (failed captured)) index captured output
    match s.pool.threads[index]? with
    | some (.processing admitted) =>
      let result := output.getD (failed captured)
      { s with pool, ended := s.ended ++ [{ said, request := admitted.value.request, result }] }
    | _ => s
  | .publish index => { s with pool := s.pool.publish index }

/-- A thread finishes with what the processing of its request comes to. -/
def Processed (readers : DonBotResponse.Readers) (s : AggregateSession) : AggregateOp → Prop
  | .finish index said captured output => ∀ admitted,
      s.pool.threads[index]? = some (.processing admitted) →
      ∃ hasSecrets, Dialogue.Reaches (process readers hasSecrets admitted.value) said
        (match output with
        | some result => .done (captured, result)
        | none => .fail captured)
  | _ => True

end AggregateSession
end MannyUploader.Providers
