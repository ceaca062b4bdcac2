import MannyUploader.Application.ConfigurationService
import MannyUploader.Application.Twitch
import MannyUploader.Foundation.Dialogue

/-! A client of a provider is a dialogue with what surrounds it: the stop token, HTTP, the
file system, the random source, the clock, and the owners of keys and sessions. -/
namespace MannyUploader.Providers
open Domain Application Foundation

/-- What a call that gives no value does instead. -/
inductive Fault (ε : Type)
  | panicked
  | error (error : ε)
deriving DecidableEq, Repr

/-- `openFile` is the opening of a `FileBodySource`, `clientId` the read of a locked text. -/
inductive Call
  | stopRequested
  | execute (request : HttpRequest)
  | openFile (file : LogFileIdentity)
  | fillRandom
  | now
  | wait (delay : Duration)
  | clientId
  | loadKey
  | acquireSession
  | recoverSession (rejected : TwitchDeliverySession)

/-- A poisoned lock answers `none`. -/
def Call.Answer : Call → Type
  | stopRequested => Bool
  | execute _ => Except (Fault HttpErrorCode) Application.HttpResponse
  | openFile _ => Bool
  | fillRandom => Option { bytes : List UInt8 // bytes.length = 16 }
  | now => Instant
  | wait _ => Bool
  | clientId => Option String
  | loadKey => Option (Except (Fault SecretStoreErrorCode) SecretValue)
  | acquireSession => Except (Fault TwitchDeliverySessionError) TwitchDeliverySession
  | recoverSession _ => Except (Fault TwitchDeliverySessionError) TwitchDeliverySession

/-- A function of a client that returns a `Result`. -/
abbrev Client (ε α : Type) := Dialogue Call Call.Answer (Fault ε) α

abbrev Calls := Dialogue.Exchange Call Call.Answer

namespace Client
variable {ε α : Type}

def throw (error : ε) : Client ε α := .fail (.error error)

def ofExcept : Except ε α → Client ε α
  | .ok value => .done value
  | .error error => throw error

def call (question : Call) : Client ε (question.Answer) := .ask question .done

def stopRequested : Client ε Bool := call .stopRequested

def refuseStop (cancelled : ε) : Client ε Unit := do
  let stopped ← stopRequested
  if stopped then throw cancelled else pure ()

/-- Hand a request over. What is returned after a stop is dropped. -/
def send (cancelled : ε) (classify : HttpErrorCode → ε) (request : HttpRequest) :
    Client ε Application.HttpResponse :=
  .ask (.execute request) fun
    | .error .panicked => .fail .panicked
    | .error (.error code) => do
      refuseStop cancelled
      throw (classify code)
    | .ok response => do
      refuseStop cancelled
      pure response

/-- `execute` of a client. -/
def execute (cancelled : ε) (classify : HttpErrorCode → ε) (request : HttpRequest) :
    Client ε Application.HttpResponse := do
  refuseStop cancelled
  send cancelled classify request

/-- `catch_unwind`, where a panic becomes an error. -/
def catchUnwind (internal : ε) (client : Client ε α) : Client ε α :=
  client.mapError fun
    | .panicked => .error internal
    | .error error => .error error

end Client

/-- `retry_after`. A number that overflows is refused. -/
def retryAfter (response : Application.HttpResponse) : Option Nat :=
  match response.headers.filter fun header => equalsIgnoringCase (utf8 header.name) "Retry-After"
  with
  | [header] =>
    if header.value.isEmpty || !header.value.all Domain.isAsciiDigit then none
    else
      let seconds := decimalValue header.value
      if 1 ≤ seconds ∧ seconds ≤ 900 then some seconds else none
  | _ => none

/-- `MemoryBodySource::new`. -/
def memoryBody (bytes : SecretValue) : Option HttpBodySource :=
  if bytes.length > maxHttpRequestBodyBytes then none else some [.memory bytes]

end MannyUploader.Providers
