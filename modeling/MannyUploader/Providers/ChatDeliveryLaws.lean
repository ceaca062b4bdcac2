import MannyUploader.Providers.ExchangeRules
import MannyUploader.Providers.TwitchChatDelivery

/-! A message that may have been posted is never offered for another try. -/
namespace MannyUploader.Providers
open Domain Application Foundation Dialogue Client

namespace TwitchChatDelivery
variable {readers : TwitchResponse.Readers} {message : String} {past : Calls}
  {lease : TwitchDeliverySession}

abbrev SendAnswer := Except (Fault HttpErrorCode) Application.HttpResponse

/-- Twitch answered that it did not post the message. -/
def readablyDropped (readers : TwitchResponse.Readers) (response : Application.HttpResponse) :
    Bool :=
  response.statusCode == 200 && match TwitchResponse.chat readers response with
    | .ok receipt => receipt.status != .sent
    | .error _ => false

/-- After this answer the message may have been posted: a panic, a failure past the
connection, a status that hides what happened, or a success that is no readable drop. -/
def mayHaveDelivered (readers : TwitchResponse.Readers) : SendAnswer → Bool
  | .error .panicked => true
  | .error (.error code) =>
    !([.nameResolutionFailed, .connectionFailed, .tlsFailed] : List HttpErrorCode).contains code
  | .ok response =>
    let status := response.statusCode
    if 200 ≤ status && status < 300 then !readablyDropped readers response
    else status == 408 || (500 ≤ status && status < 600)

/-- A delivery so far. While `sending`, only the stop token was asked since the last send. -/
structure Track where
  sends : List SendAnswer := []
  leases : List TwitchDeliverySession := []
  sending : Bool := false
  uncertain : Bool := false

def Track.step (readers : TwitchResponse.Readers) (track : Track) :
    (question : Call) × question.Answer → Track
  | ⟨.execute _, answer⟩ => { track with
      sends := track.sends ++ ([answer] : List SendAnswer)
      sending := true
      uncertain := track.uncertain || mayHaveDelivered readers answer }
  | ⟨.stopRequested, stopped⟩ =>
    { track with uncertain := track.uncertain || (track.sending && (stopped : Bool)) }
  | ⟨.acquireSession, .ok lease⟩ | ⟨.recoverSession _, .ok lease⟩ =>
    { track with leases := track.leases ++ [lease], sending := false }
  | _ => { track with sending := false }

def track (readers : TwitchResponse.Readers) (past : Calls) : Track :=
  past.foldl (Track.step readers) {}

@[simp] theorem track_append (said : Calls) :
    track readers (past ++ said) = said.foldl (Track.step readers) (track readers past) := by
  simp [track]

/-- Before a send the stop token changes nothing. -/
theorem Track.step_stop {track : Track} {stopped : Bool} (certain : track.uncertain = false)
    (quiet : track.sending = false) : track.step readers ⟨.stopRequested, stopped⟩ = track := by
  cases track
  simp_all [step]

/-- Going on leaves no trace. -/
theorem Track.step_goOn (track : Track) : track.step readers ⟨.stopRequested, false⟩ = track := by
  cases track
  simp [step]

variable (readers) in
theorem Track.step_clientId {track : Track} (id : Option String) (quiet : track.sending = false) :
    track.step readers ⟨.clientId, id⟩ = track := by
  cases track
  simp_all [step]

/-- The request that posts the message with a lease. -/
def IsPost (printer : Json.Printer) (message : String) (lease : TwitchDeliverySession)
    (request : HttpRequest) : Prop :=
  ∃ id, request = TwitchClient.chatRequest id lease.accessToken
    [.memory (TwitchClient.chatBody printer lease.authenticatedUserId message)]

/-- A first post with the acquired lease, or a second after a 401 with a recovered one. -/
inductive MayPost (printer : Json.Printer) (message : String) (track : Track)
    (request : HttpRequest) : Prop
  | first (lease : TwitchDeliverySession) (leases : track.leases = [lease])
      (sends : track.sends = []) (posts : IsPost printer message lease request)
  | second (lease recovered : TwitchDeliverySession) (response : Application.HttpResponse)
      (leases : track.leases = [lease, recovered]) (sends : track.sends = [.ok response])
      (refused : response.statusCode = 401)
      (broadcaster : recovered.authenticatedUserId = lease.authenticatedUserId)
      (revision : lease.revision ≤ recovered.revision)
      (posts : IsPost printer message recovered request)

def mayAsk (readers : TwitchResponse.Readers) (message : String) (past : Calls) : Call → Prop
  | .execute request => MayPost readers.printer message (track readers past) request
  | _ => True

/-- The outcomes after which nothing is sent again by itself. -/
def Final : TwitchChatResult → Prop
  | .sent _ | .ambiguous => True
  | _ => False

def Refused (error : TwitchError) : Prop :=
  error.code = .httpStatus ∧ error.httpStatus = some 401

/-- What a send leaves behind when it gives no receipt. -/
structure SendLost (readers : TwitchResponse.Readers) (past after : Calls) (error : TwitchError) :
    Prop where
  leases : (track readers after).leases = (track readers past).leases
  unsure : (track readers after).uncertain = true → ¬Refused error ∧ sendFailure error = .ambiguous
  refused : Refused error → ∃ response : Application.HttpResponse, response.statusCode = 401 ∧
    (track readers after).sends = (track readers past).sends ++ [.ok response]

structure SendReturned (readers : TwitchResponse.Readers) (past after : Calls)
    (receipt : TwitchDeliveryReceipt) : Prop where
  leases : (track readers after).leases = (track readers past).leases
  unsure : (track readers after).uncertain = true → receipt.status = .sent

theorem sendFailure_of_code {error : TwitchError} (transport : error.code ≠ .transport)
    (status : error.code ≠ .httpStatus) : ¬Refused error ∧ sendFailure error = .ambiguous := by
  simp [Refused, sendFailure, safeConnection, rateLimited, transport, status]

theorem sendFailure_transport (code : HttpErrorCode)
    (unsure : mayHaveDelivered readers (.error (.error code)) = true) :
    sendFailure (TwitchClient.transportError .sendChat code) = .ambiguous := by
  cases code <;> first | rfl | simp [mayHaveDelivered] at unsure

theorem status_of_requireSuccess {response : Application.HttpResponse} {error : TwitchError}
    (failed : TwitchClient.requireSuccess response .sendChat = .error error) :
    response.statusCode ≠ 200 ∧ error.code = .httpStatus ∧
      error.httpStatus = some response.statusCode := by
  simp only [TwitchClient.requireSuccess] at failed
  split at failed
  · contradiction
  next status =>
    cases failed
    exact ⟨status, rfl, rfl⟩

theorem sendFailure_status {response : Application.HttpResponse} {error : TwitchError}
    (failed : TwitchClient.requireSuccess response .sendChat = .error error)
    (unsure : mayHaveDelivered readers (.ok response) = true) :
    ¬Refused error ∧ sendFailure error = .ambiguous := by
  obtain ⟨status, code, reported⟩ := status_of_requireSuccess failed
  have range : response.statusCode ≠ 401 ∧ response.statusCode ≠ 429 ∧
      ¬(400 ≤ response.statusCode ∧ response.statusCode < 500 ∧ response.statusCode ≠ 408) := by
    simp only [mayHaveDelivered, Bool.and_eq_true, decide_eq_true_eq] at unsure
    split at unsure
    next success => grind
    next => grind
  refine ⟨fun refused => range.1 (Option.some.inj (reported.symm.trans refused.2)), ?_⟩
  simp [sendFailure, safeConnection, rateLimited, code, reported, range.2.1]
  simpa using range.2.2

/-- An error that names neither the transport nor a status settles for good. -/
theorem SendLost.ofCode {after : Calls} {error : TwitchError} {code : TwitchErrorCode}
    (leases : (track readers after).leases = (track readers past).leases)
    (named : error.code = code)
    (plain : code ≠ .transport ∧ code ≠ .httpStatus := by decide) :
    SendLost readers past after error where
  leases := leases
  unsure _ := by
    apply sendFailure_of_code <;> simp [named, plain]
  refused refused := absurd refused.1 (by simp [named, plain])

/-- Inside of `run` a panic is still one. -/
def InRun (readers : TwitchResponse.Readers) (past after : Calls) : Fault TwitchError → Prop
  | .panicked => (track readers after).leases = (track readers past).leases
  | .error error => SendLost readers past after error

theorem requireToken_code {token : SecretValue} {error : TwitchError}
    (failed : TwitchClient.requireToken token .sendChat = .error error) :
    error.code = .invalidInput := by
  simp only [TwitchClient.requireToken] at failed
  split at failed
  · contradiction
  · cases failed
    rfl

theorem body_code {bytes : SecretValue} {error : TwitchError}
    (failed : TwitchClient.body bytes .sendChat = .error error) : error.code = .bodyFailed := by
  simp only [TwitchClient.body] at failed
  split at failed
  · cases failed
    rfl
  · contradiction

theorem body_ok {bytes : SecretValue} {source : HttpBodySource}
    (built : TwitchClient.body bytes .sendChat = .ok source) : source = [.memory bytes] := by
  simp only [TwitchClient.body, memoryBody] at built
  split at built
  · contradiction
  next found =>
    cases built
    split at found
    · contradiction
    · cases found
      rfl

/-- The message went out: what its answer says of the delivery. -/
structure Sent (readers : TwitchResponse.Readers) (past after : Calls)
    (response : Application.HttpResponse) : Prop where
  leases : (track readers after).leases = (track readers past).leases
  sends : (track readers after).sends = (track readers past).sends ++ [.ok response]
  uncertain : (track readers after).uncertain = mayHaveDelivered readers (.ok response)

theorem requireSuccess_ok {response : Application.HttpResponse} {done : Unit}
    (succeeded : TwitchClient.requireSuccess response .sendChat = .ok done) :
    response.statusCode = 200 := by
  simp only [TwitchClient.requireSuccess] at succeeded
  split at succeeded
  · assumption
  · contradiction

theorem chat_error {response : Application.HttpResponse} {error : TwitchError}
    (failed : TwitchResponse.chat readers response = .error error) :
    error.code = .invalidResponse := by
  unfold TwitchResponse.chat at failed
  split at failed
  · cases failed
    rfl
  · split at failed <;> cases failed
    rfl

/-- The last steps of a send, once the answer is there. -/
theorem Sent.read {now : Calls} {response : Application.HttpResponse}
    (sent : Sent readers past now response) :
    Holds (mayAsk readers message) (SendReturned readers past) (InRun readers past) now
      (do
        ofExcept (TwitchClient.requireSuccess response .sendChat)
        ofExcept (TwitchResponse.chat readers response)) := by
  apply Holds.bind fun after _ => after = now ∧ response.statusCode = 200
  · apply holds_ofExcept
    · exact fun _ succeeded => ⟨rfl, requireSuccess_ok succeeded⟩
    · intro error failed
      refine ⟨sent.leases, fun unsure => ?_, fun refused => ⟨response, ?_, sent.sends⟩⟩
      · exact sendFailure_status failed (sent.uncertain.symm.trans unsure)
      · have reported := (status_of_requireSuccess failed).2.2
        exact Option.some.inj (reported.symm.trans refused.2)
  · rintro after _ ⟨rfl, status⟩
    apply holds_ofExcept
    · refine fun receipt accepted => ⟨sent.leases, fun unsure => ?_⟩
      rw [sent.uncertain] at unsure
      simpa [mayHaveDelivered, readablyDropped, status, accepted] using unsure
    · exact fun error failed => SendLost.ofCode sent.leases (chat_error failed)

section
variable {now : Calls} (same : track readers now = track readers past)
  (certain : (track readers past).uncertain = false)
  (quiet : (track readers past).sending = false)
include same certain quiet

theorem holds_execute {request : HttpRequest}
    (posts : MayPost readers.printer message (track readers past) request) :
    Holds (mayAsk readers message) (Sent readers past) (InRun readers past) now
      (TwitchClient.execute request .sendChat) := by
  have step (stopped : Bool) :
      track readers (now ++ [⟨.stopRequested, stopped⟩]) = track readers past := by
    simp [same, Track.step_stop certain quiet]
  apply Client.holds_execute trivial
  · exact SendLost.ofCode (by rw [step]) rfl
  · simpa only [mayAsk, step] using posts
  · refine ⟨?_, fun _ => trivial, fun answer => ?_, fun code => ?_, fun response => ?_⟩
    · simp [InRun, Track.step, same]
    · exact SendLost.ofCode (by simp [Track.step, same]) rfl
    · refine ⟨?_, fun unsure => ⟨?_, ?_⟩, fun refused => ?_⟩
      · simp [Track.step, same]
      · simp [Refused, TwitchClient.transportError, TwitchError.failed]
      · apply sendFailure_transport
        simpa [Track.step, same, certain, quiet] using unsure
      · simp [Refused, TwitchClient.transportError, TwitchError.failed] at refused
    · constructor <;> simp [Track.step, same, certain, quiet]

end

/-- Nothing that counts happened since. -/
def Unchanged (readers : TwitchResponse.Readers) (past after : Calls) : Prop :=
  track readers after = track readers past

theorem Unchanged.lost {after : Calls} {error : TwitchError} {code : TwitchErrorCode}
    (unchanged : Unchanged readers past after) (named : error.code = code)
    (plain : code ≠ .transport ∧ code ≠ .httpStatus := by decide) :
    InRun readers past after (.error error) :=
  SendLost.ofCode (by rw [unchanged]) named plain

theorem holds_sendChatMessage (certain : (track readers past).uncertain = false)
    (quiet : (track readers past).sending = false)
    (posts : ∀ request, IsPost readers.printer message lease request →
      MayPost readers.printer message (track readers past) request) :
    Holds (mayAsk readers message) (SendReturned readers past)
      (fun after fault => ∃ error, fault = .error error ∧ SendLost readers past after error) past
      (TwitchClient.sendChatMessage readers lease.authenticatedUserId message
        lease.accessToken) := by
  have stop (stopped : Bool) : Unchanged readers past (past ++ [⟨.stopRequested, stopped⟩]) := by
    simp [Unchanged, Track.step_stop certain quiet]
  apply holds_catchUnwind (InRun readers past)
  · apply Holds.bind fun after _ => Unchanged readers past after
    · exact holds_refuseStop trivial (stop false) ((stop true).lost rfl)
    intro after _ unchanged
    apply Holds.bind fun after _ => Unchanged readers past after
    · apply holds_call trivial
      intro id
      rw [Unchanged, track_append, unchanged]
      exact Track.step_clientId readers id quiet
    intro after id unchanged
    match id with
    | none => exact unchanged.lost rfl
    | some id =>
      apply Holds.ite
      · exact fun _ => unchanged.lost rfl
      intro _
      apply Holds.bind fun after _ => Unchanged readers past after
      · apply holds_ofExcept fun _ _ => unchanged
        exact fun error refused => unchanged.lost (requireToken_code refused)
      intro after _ unchanged
      apply Holds.ite
      · exact fun _ => unchanged.lost rfl
      intro _
      apply Holds.bind fun after source => Unchanged readers past after ∧ source =
        [.memory (TwitchClient.chatBody readers.printer lease.authenticatedUserId message)]
      · apply holds_ofExcept fun source built => ⟨unchanged, body_ok built⟩
        exact fun error refused => unchanged.lost (body_code refused)
      rintro after source ⟨unchanged, rfl⟩
      apply Holds.bind fun after response => Sent readers past after response
      · exact holds_execute unchanged certain quiet (posts _ ⟨id, rfl⟩)
      · exact fun after response sent => sent.read
  · intro after panicked
    exact ⟨_, rfl, SendLost.ofCode panicked rfl⟩
  · exact fun after error lost => ⟨error, rfl, lost⟩

/-- How a delivery stands before an attempt, with so many attempts left. -/
structure Ready (readers : TwitchResponse.Readers) (broadcaster : String) (revision : UInt64)
    (past : Calls) (left : Nat) (lease : TwitchDeliverySession) : Prop where
  certain : (track readers past).uncertain = false
  quiet : (track readers past).sending = false
  turn : (left = 2 ∧ (track readers past).leases = [lease] ∧ (track readers past).sends = [] ∧
      lease.authenticatedUserId = broadcaster ∧ lease.revision = revision) ∨
    (left = 1 ∧ ∃ first, ∃ response : Application.HttpResponse,
      (track readers past).leases = [first, lease] ∧ (track readers past).sends = [.ok response] ∧
      response.statusCode = 401 ∧ lease.authenticatedUserId = first.authenticatedUserId ∧
      first.revision ≤ lease.revision)

/-- The delivery ends without a doubt, or for good. -/
def Settles (readers : TwitchResponse.Readers) (past : Calls) (result : TwitchChatResult) : Prop :=
  (track readers past).uncertain = true → Final result

theorem Ready.mayPost {broadcaster : String} {revision : UInt64} {left : Nat}
    (ready : Ready readers broadcaster revision past left lease) {request : HttpRequest}
    (posts : IsPost readers.printer message lease request) :
    MayPost readers.printer message (track readers past) request := by
  rcases ready.turn with ⟨_, leases, sends, _⟩ | ⟨_, first, response, leases, sends, refused, same, le⟩
  · exact .first lease leases sends posts
  · exact .second first lease response leases sends refused same le posts

theorem Ready.stop {broadcaster : String} {revision : UInt64} {left : Nat} (stopped : Bool)
    (ready : Ready readers broadcaster revision past left lease) :
    Ready readers broadcaster revision (past ++ [⟨.stopRequested, stopped⟩]) left lease := by
  have same : track readers (past ++ [⟨.stopRequested, stopped⟩]) = track readers past := by
    simp [Track.step_stop ready.certain ready.quiet]
  exact ⟨by rw [same, ready.certain], by rw [same, ready.quiet], by simpa only [same] using ready.turn⟩

theorem final_settled {receipt : TwitchDeliveryReceipt} (sent : receipt.status = .sent) :
    Final (settled receipt) := by
  unfold settled
  rw [if_pos sent]
  split <;> trivial

/-- After a send the stop token is asked once more. If it is set, the delivery is in doubt. -/
theorem holds_afterSend {now : Calls} {next : Client Empty TwitchChatResult}
    (go : Holds (mayAsk readers message) (Settles readers) (fun _ _ => False)
      (now ++ [⟨.stopRequested, false⟩]) next) :
    Holds (mayAsk readers message) (Settles readers) (fun _ _ => False) now (do
      let stopped ← stopRequested
      if stopped then pure .ambiguous else next) := by
  refine ⟨trivial, fun stopped => ?_⟩
  cases stopped with
  | true => exact fun _ => trivial
  | false => exact go

theorem granted_ok {answer : Except (Fault TwitchDeliverySessionError) TwitchDeliverySession}
    (ok : granted answer = .ok lease) : answer = .ok lease := by
  unfold granted at ok
  split at ok <;> simp_all

theorem uncertain_recover (now : Calls) {rejected : TwitchDeliverySession}
    (answer : (Call.recoverSession rejected).Answer) :
    (track readers (now ++ [⟨.recoverSession rejected, answer⟩])).uncertain =
      (track readers now).uncertain := by
  cases answer <;> simp [Track.step]

/-- The lease of the second attempt. -/
theorem Ready.recover {broadcaster : String} {revision : UInt64} {left : Nat} {now : Calls}
    {recovered : TwitchDeliverySession} {response : Application.HttpResponse}
    (ready : Ready readers broadcaster revision past (left + 1) lease)
    (leases : (track readers now).leases = (track readers past).leases)
    (sends : (track readers now).sends = (track readers past).sends ++ [.ok response])
    (refused : response.statusCode = 401) (certain : (track readers now).uncertain = false)
    (more : left ≠ 0)
    (suits : recovered.authenticatedUserId = broadcaster ∧ revision ≤ recovered.revision) :
    Ready readers broadcaster revision
      (now ++ [⟨.stopRequested, false⟩] ++ [⟨.recoverSession lease, .ok recovered⟩]) left
      recovered := by
  rcases ready.turn with ⟨two, held, none, same, first⟩ | ⟨one, _⟩
  · refine ⟨?_, ?_, .inr ⟨by omega, lease, response, ?_, ?_, refused, ?_, ?_⟩⟩
    · simp [Track.step, certain]
    · simp [Track.step]
    · simp [Track.step, leases, held]
    · simp [Track.step, sends, none]
    · exact suits.1.trans same.symm
    · exact first ▸ suits.2
  · omega

theorem holds_sendWith {broadcaster : String} {revision : UInt64} (left : Nat)
    (ready : Ready readers broadcaster revision past left lease) :
    Holds (mayAsk readers message) (Settles readers) (fun _ _ => False) past
      (sendWith readers message broadcaster revision left lease) := by
  induction left generalizing past lease with
  | zero =>
    have turn := ready.turn
    omega
  | succ left ih =>
    apply Holds.bind fun after stopped => after = past ++ [⟨.stopRequested, stopped⟩]
    · exact holds_call trivial fun _ => rfl
    rintro after stopped rfl
    replace ready := ready.stop stopped
    apply Holds.ite
    · intro _ unsure
      rw [ready.certain] at unsure
      contradiction
    intro _
    apply Holds.settle _ _ (holds_sendChatMessage ready.certain ready.quiet
      fun _ posts => ready.mayPost posts)
    · intro now receipt returned
      apply holds_afterSend
      intro unsure
      rw [track_append] at unsure
      exact final_settled (returned.unsure (by simpa [Track.step_goOn] using unsure))
    · rintro now _ ⟨error, rfl, lost⟩
      apply holds_afterSend
      have same : track readers (now ++ [⟨.stopRequested, false⟩]) = track readers now := by
        simp [Track.step_goOn]
      apply Holds.ite
      · rintro refused
        have certain : (track readers now).uncertain = false := by
          by_contra unsure
          exact (lost.unsure (Bool.of_not_eq_false unsure)).1 refused
        have settles (result : TwitchChatResult) (after : Calls)
            (quiet : (track readers after).uncertain = (track readers now).uncertain) :
            Settles readers after result := by
          intro unsure
          rw [quiet, certain] at unsure
          contradiction
        apply Holds.ite
        · exact fun _ => settles _ _ (by rw [same])
        intro more
        refine ⟨trivial, fun answer => ?_⟩
        have quiet : (track readers (now ++ [⟨.stopRequested, false⟩] ++
            [⟨.recoverSession lease, answer⟩])).uncertain = (track readers now).uncertain := by
          rw [uncertain_recover, same]
        match outcome : granted answer with
        | .error result =>
          simp only [outcome]
          exact settles _ _ quiet
        | .ok recovered =>
          cases granted_ok outcome
          simp only [granted]
          apply Holds.ite
          · exact fun _ => settles _ _ quiet
          intro valid
          apply ih
          obtain ⟨response, status, sends⟩ := lost.refused refused
          exact ready.recover lost.leases sends status certain (by omega) (by grind)
      · intro other unsure
        rw [same] at unsure
        rw [(lost.unsure unsure).2]
        trivial

theorem holds_send :
    Holds (mayAsk readers message) (Settles readers) (fun _ _ => False) []
      (send readers message) := by
  have fresh (after : Calls) (certain : (track readers after).uncertain = false)
      (result : TwitchChatResult) : Settles readers after result := by
    intro unsure
    rw [certain] at unsure
    contradiction
  apply Holds.bind fun after stopped => after = [⟨.stopRequested, stopped⟩]
  · exact holds_call trivial fun _ => rfl
  rintro after stopped rfl
  apply Holds.ite
  · exact fun _ => fresh _ (by simp [track, Track.step]) _
  intro _
  apply Holds.ite
  · exact fun _ => fresh _ (by simp [track, Track.step]) _
  intro _
  refine ⟨trivial, fun answer => ?_⟩
  match outcome : granted answer with
  | .error result =>
    simp only [outcome]
    refine fresh _ ?_ _
    cases answer <;> simp [track, Track.step]
  | .ok lease =>
    cases granted_ok outcome
    simp only [granted]
    apply Holds.ite
    · exact fun _ => fresh _ (by simp [track, Track.step]) _
    intro _
    apply holds_sendWith
    refine ⟨?_, ?_, .inl ⟨rfl, ?_, ?_, rfl, rfl⟩⟩ <;> simp [track, Track.step]

theorem MayPost.sends {printer : Json.Printer} {track : Track} {request : HttpRequest}
    (may : MayPost printer message track request) : track.sends.length < 2 := by
  cases may with
  | first _ _ sends => simp [sends]
  | second _ _ _ _ sends => simp [sends]

/-- At most two posts, the second after a 401 and with a recovered lease of the broadcaster.
Once one of them may have delivered the message, the delivery is sent or in doubt. -/
theorem delivers_once {said : Calls} {rest : Client Empty TwitchChatResult}
    (run : Reaches (send readers message) said rest) :
    (track readers said).sends.length ≤ 2 ∧
      (∀ request next, rest = .ask (.execute request) next →
        MayPost readers.printer message (track readers said) request) ∧
      (∀ result, rest = .done result → (track readers said).uncertain = true → Final result) ∧
      ∀ fault, rest ≠ .fail fault := by
  have holds := @holds_send readers message
  refine ⟨?_, ?_, ?_, ?_⟩
  · apply holds.invariant (fun said => (track readers said).sends.length ≤ 2) _ run (Nat.zero_le 2)
    intro past question answer may bounded
    cases question with
    | execute request =>
      rw [track_append]
      exact (List.length_append ..).le.trans (MayPost.sends may)
    | acquireSession => cases answer <;> simpa [Track.step] using bounded
    | recoverSession => cases answer <;> simpa [Track.step] using bounded
    | _ => simpa [Track.step] using bounded
  · rintro request next rfl
    exact holds.ask_of_reaches run
  · rintro result rfl
    exact holds.done_of_reaches run
  · rintro fault rfl
    exact holds.fail_of_reaches run

/-! A delivery whose only post panics. -/

def noReaders : TwitchResponse.Readers where
  printer := Json.compactPrinter
  device _ := none
  pending _ := none
  grant _ := none
  identity _ := none
  chat _ := none

def sampleLease : TwitchDeliverySession :=
  { accessToken := [65], authenticatedUserId := "1", revision := 1 }

def panickedPost : Calls :=
  let post := TwitchClient.chatRequest "a" [65] [.memory (TwitchClient.chatBody Json.compactPrinter "1" "hi")]
  [⟨.stopRequested, false⟩, ⟨.acquireSession, .ok sampleLease⟩, ⟨.stopRequested, false⟩,
    ⟨.stopRequested, false⟩, ⟨.clientId, some "a"⟩, ⟨.stopRequested, false⟩,
    ⟨.execute post, .error .panicked⟩, ⟨.stopRequested, false⟩]

theorem reaches_panickedPost :
    Reaches (send noReaders "hi") panickedPost (.done .ambiguous) := by
  iterate 8 apply Reaches.cons
  exact Reaches.nil

theorem delivers_once_panicked :
    (track noReaders panickedPost).sends.length ≤ 2 ∧ Final .ambiguous :=
  have once := delivers_once reaches_panickedPost
  ⟨once.1, once.2.2.1 _ rfl (by decide)⟩

end TwitchChatDelivery
end MannyUploader.Providers
