import MannyUploader.Providers.AggregateWorker
import MannyUploader.Providers.ExchangeRules

/-! A report that may have been posted is never called a failure, and every result of the worker
is one that the controller takes as it is. -/
namespace MannyUploader.Providers
open Domain Application Foundation Dialogue Client

/-- The processing of a request so far. -/
structure AggregateTrack where
  keyed : Bool := false
  /-- The request was handed to the client. -/
  handed : Bool := false
  sends : Nat := 0
  uncertain : Bool := false

/-- After this answer the report may have been posted. -/
def unsureAggregate (readers : DonBotResponse.Readers) (count : Nat) :
    Except (Fault HttpErrorCode) Application.HttpResponse → Bool
  | .error _ => true
  | .ok reply => reply.statusCode == 408 || reply.statusCode == 429 || 500 ≤ reply.statusCode ||
    (reply.statusCode == 200 && !(DonBotClient.readAggregate readers count reply).isOk)

namespace AggregateTrack
variable {readers : DonBotResponse.Readers} {count : Nat} {past said : Calls}

def step (readers : DonBotResponse.Readers) (count : Nat) (track : AggregateTrack) :
    (question : Call) × question.Answer → AggregateTrack
  | ⟨.loadKey, some (.ok _)⟩ => { track with keyed := true }
  | ⟨.execute _, answer⟩ => { track with
      sends := track.sends + 1
      uncertain := track.uncertain || unsureAggregate readers count answer }
  | ⟨.stopRequested, stopped⟩ =>
    if track.handed then { track with uncertain := track.uncertain || (stopped : Bool) }
    else { track with handed := track.keyed && !(stopped : Bool) }
  | _ => track

def of (readers : DonBotResponse.Readers) (count : Nat) (past : Calls) : AggregateTrack :=
  past.foldl (step readers count) {}

@[simp] theorem of_append (said : Calls) :
    of readers count (past ++ said) = said.foldl (step readers count) (of readers count past) := by
  simp [of]

/-- Going on leaves nothing in doubt. -/
theorem goOn_uncertain : (of readers count (past ++ [⟨.stopRequested, false⟩])).uncertain =
    (of readers count past).uncertain := by
  simp only [of_append, List.foldl_cons, List.foldl_nil, step]
  split <;> simp

/-- The client has the request, and has sent nothing. -/
def Handed (track : AggregateTrack) : Prop :=
  track.handed = true ∧ track.sends = 0 ∧ track.uncertain = false

end AggregateTrack

/-- The report is sent once. -/
def sendsOnce (readers : DonBotResponse.Readers) (count : Nat) (past : Calls) : Call → Prop
  | .execute _ => (AggregateTrack.of readers count past).sends = 0
  | _ => True

namespace DonBotClient
variable {readers : DonBotResponse.Readers} {past : Calls} {key : SecretValue}
  {options : DonBotOptions} {ids : List UInt64} {count : Nat}

/-- What is in doubt is reported as such. -/
def Reported (readers : DonBotResponse.Readers) (count : Nat) (past : Calls) :
    Fault DonBotError → Prop
  | .panicked => True
  | .error error => (AggregateTrack.of readers count past).uncertain = true →
    CapturedAggregate.uncertain error = true

theorem readAggregate_error {reply : Application.HttpResponse} {error : DonBotError}
    (failed : readAggregate readers count reply = .error error)
    (unsure : unsureAggregate readers count (.ok reply) = true) :
    CapturedAggregate.uncertain error = true := by
  have status : error.httpStatus = some reply.statusCode := by
    unfold readAggregate at failed
    split at failed
    · cases failed
      rfl
    · rcases bind_error failed with undecoded | ⟨parsed, -, failed⟩
      · unfold DonBotResponse.decode at undecoded
        split at undecoded
        · cases undecoded
          rfl
        · cases undecoded
      · split at failed
        · cases failed
          rfl
        · split at failed
          · cases failed
            rfl
          · cases failed
  have inside : reply.statusCode = 200 ∨ reply.statusCode = 408 ∨ reply.statusCode = 429 ∨
      500 ≤ reply.statusCode := by
    simp only [unsureAggregate, Bool.or_eq_true, Bool.and_eq_true, beq_iff_eq,
      decide_eq_true_eq] at unsure
    tauto
  simp only [CapturedAggregate.uncertain, status, Option.any_some, Bool.or_eq_true, beq_iff_eq,
    decide_eq_true_eq]
  tauto

theorem readAggregate_ok {reply : Application.HttpResponse} {success : DonBotAggregateSuccess}
    (read : readAggregate readers count reply = .ok success) :
    unsureAggregate readers count (.ok reply) = false := by
  have status : reply.statusCode = 200 := by
    unfold readAggregate at read
    split at read
    · cases read
    next same => simpa using same
  simp [unsureAggregate, status, read, Except.isOk, Except.toBool]

/-- Before it is sent, nothing is in doubt. -/
theorem Reported.of_certain {error : DonBotError}
    (certain : (AggregateTrack.of readers count past).uncertain = false) :
    Reported readers count past (.error error) := by
  intro unsure
  rw [certain] at unsure
  cases unsure

theorem holds_refuseStop (handed : (AggregateTrack.of readers count past).Handed) :
    Holds (sendsOnce readers count) (fun after _ => (AggregateTrack.of readers count after).Handed)
      (Reported readers count) past (refuseStop DonBotError.cancelled) := by
  apply Client.holds_refuseStop trivial
  · simpa [AggregateTrack.step, handed.1, AggregateTrack.Handed] using handed
  · intro _
    rfl

theorem holds_validateOnce (handed : (AggregateTrack.of readers count past).Handed) :
    Holds (sendsOnce readers count) (fun after _ => (AggregateTrack.of readers count after).Handed)
      (Reported readers count) past (validate options key) := by
  apply Holds.bind _ (holds_refuseStop handed)
  intro past _ handed
  split
  · exact .of_certain handed.2.2
  · split
    · exact .of_certain handed.2.2
    · split
      · exact .of_certain handed.2.2
      · exact handed

theorem holds_executeUpload {request : HttpRequest}
    (handed : (AggregateTrack.of readers count past).Handed) :
    Holds (sendsOnce readers count)
      (fun after reply => (AggregateTrack.of readers count after).uncertain =
        unsureAggregate readers count (.ok reply))
      (Reported readers count) past (executeUpload request) := by
  apply Holds.bind _ (holds_refuseStop handed)
  intro past _ handed
  obtain ⟨started, unsent, certain⟩ := handed
  apply holds_send
  · exact unsent
  · refine ⟨trivial, fun _ => trivial, fun _ _ => rfl, fun code _ => ?_, fun reply => ?_⟩
    · simp [CapturedAggregate.uncertain, classifyTransport]
    · simp [AggregateTrack.step, started, certain]

theorem holds_deliverAggregate (handed : (AggregateTrack.of readers ids.length past).Handed) :
    Holds (sendsOnce readers ids.length)
      (fun after _ => (AggregateTrack.of readers ids.length after).uncertain = false)
      (Reported readers ids.length) past (deliverAggregate readers ids options key) := by
  apply holds_catchUnwind (Reported readers ids.length) _ (fun _ _ _ => rfl) fun _ _ found => found
  apply Holds.bind _ (holds_validateOnce handed)
  intro past base handed
  split
  · exact .of_certain handed.2.2
  apply Holds.bind fun after _ => (AggregateTrack.of readers ids.length after).Handed
  · exact holds_ofExcept (fun _ _ => handed) fun _ _ => .of_certain handed.2.2
  intro past request handed
  apply Holds.bind _ (holds_executeUpload handed)
  intro past reply sent
  apply holds_ofExcept
  · exact fun success read => sent.trans (readAggregate_ok read)
  · exact fun error failed unsure => readAggregate_error failed (sent.symm.trans unsure)

end DonBotClient

/-- A result that the controller takes as it is, when it is one of the active request. -/
structure FairAggregate (request : DonBotAggregateRequest) (result : DonBotAggregateResult) :
    Prop where
  id : result.requestId = request.requestId
  count : result.fightLogCount = request.fightLogIds.length
  receipt : result.validReceipt = true
  delivered : result.outcome = .succeeded → result.discordDelivery.isSome = true
  credential : result.credentialFailure.isSome = true →
    result.outcome = .failed ∧ result.discordDelivery = none

namespace CapturedAggregate
variable {captured : CapturedAggregate}

theorem result_fair {outcome : DonBotAggregateOutcome} (unsettled : outcome ≠ .succeeded) :
    FairAggregate captured.request (captured.result outcome) :=
  ⟨rfl, rfl, rfl, fun succeeded => absurd succeeded unsettled, by simp [result]⟩

theorem errorResult_fair (error : DonBotError) :
    FairAggregate captured.request (captured.errorResult error) := by
  apply result_fair
  split <;> simp

theorem successResult_fair (success : DonBotAggregateSuccess) :
    FairAggregate captured.request (captured.successResult success) := by
  unfold successResult
  dsimp only
  split
  · exact result_fair (by simp)
  next confirmed =>
    simp only [Bool.or_eq_true, not_or, Bool.not_eq_true, Bool.not_eq_false',
      decide_eq_true_eq] at confirmed
    obtain ⟨⟨-, valid⟩, described⟩ := confirmed
    refine ⟨rfl, rfl, ?_, fun _ => rfl, by simp [result]⟩
    simp only [DonBotAggregateResult.validReceipt, Option.all_some, valid, Bool.true_and,
      Bool.and_eq_true, bne_iff_ne]
    refine ⟨described, ?_⟩
    split_ifs with doubtful sent
    · exact decide_eq_true (UInt16.pos_iff_ne_zero.mpr doubtful)
    · rw [not_not] at doubtful
      simp [result, doubtful, UInt16.pos_iff_ne_zero, sent]
    · rw [not_not] at doubtful sent
      simp [result, doubtful, sent]

end CapturedAggregate

namespace DonBotAggregateWorker
variable {readers : DonBotResponse.Readers} {captured : CapturedAggregate} {past : Calls}

/-- What the processing of a request leaves: the request, a result that says no more than is
known, and one send at most. -/
structure Left (readers : DonBotResponse.Readers) (request : DonBotAggregateRequest)
    (past : Calls) (result : DonBotAggregateResult) : Prop where
  fair : FairAggregate request result
  unsure : (AggregateTrack.of readers request.fightLogIds.length past).uncertain = true →
    result.outcome = .ambiguous

/-- How a processing ends. -/
def Ends (readers : DonBotResponse.Readers) (request : DonBotAggregateRequest) (past : Calls)
    (ended : CapturedAggregate × DonBotAggregateResult) : Prop :=
  Left readers request past ended.2

def Panics (readers : DonBotResponse.Readers) (request : DonBotAggregateRequest) (past : Calls)
    (after : CapturedAggregate) : Prop :=
  Left readers request past (failed after)

/-- The client has no request yet. -/
def Waiting (readers : DonBotResponse.Readers) (count : Nat) (past : Calls) : Prop :=
  (AggregateTrack.of readers count past).handed = false ∧
    (AggregateTrack.of readers count past).sends = 0 ∧
    (AggregateTrack.of readers count past).uncertain = false

theorem left_of_certain {result : DonBotAggregateResult} (fair : FairAggregate captured.request result)
    (certain : (AggregateTrack.of readers captured.request.fightLogIds.length past).uncertain =
      false) : Left readers captured.request past result := by
  refine ⟨fair, fun unsure => ?_⟩
  rw [certain] at unsure
  cases unsure

theorem waiting_after_key {count : Nat} (waiting : Waiting readers count past)
    (answer : Call.loadKey.Answer) : Waiting readers count (past ++ [⟨.loadKey, answer⟩]) := by
  match answer with
  | none | some (.error .panicked) | some (.error (.error _)) | some (.ok _) =>
    simpa [Waiting, AggregateTrack.step] using waiting

theorem holds_loadKey {count : Nat} {hasSecrets : Bool} (waiting : Waiting readers count past) :
    Holds (sendsOnce readers count)
      (fun after _ => Waiting readers count after ∧
        (AggregateTrack.of readers count after).keyed = true)
      (fun after _ => Waiting readers count after) past (loadKey hasSecrets) := by
  unfold loadKey
  split
  · exact waiting
  · refine ⟨trivial, fun answer => ?_⟩
    have still := waiting_after_key waiting answer
    match answer with
    | none | some (.error .panicked) | some (.error (.error _)) => exact still
    | some (.ok key) => exact ⟨still, by simp [AggregateTrack.step]⟩

theorem holds_conclude_error {fault : Fault DonBotError} (handed : captured.dispatched = true)
    (reported : DonBotClient.Reported readers captured.request.fightLogIds.length past fault) :
    Holds (sendsOnce readers captured.request.fightLogIds.length) (Ends readers captured.request)
      (Panics readers captured.request) past (conclude captured (.error fault)) := by
  cases fault with
  | panicked =>
    have ambiguous : failed captured = captured.result .ambiguous := by simp [failed, handed]
    refine ⟨ambiguous ▸ CapturedAggregate.result_fair (by simp), fun _ => ?_⟩
    rw [ambiguous]
    rfl
  | error error =>
    refine ⟨trivial, fun (stopped : Bool) => ?_⟩
    cases stopped with
    | true => exact ⟨CapturedAggregate.result_fair (by simp), fun _ => rfl⟩
    | false =>
      refine ⟨CapturedAggregate.errorResult_fair error, fun unsure => ?_⟩
      rw [AggregateTrack.goOn_uncertain] at unsure
      have doubtful : CapturedAggregate.uncertain error = true := reported unsure
      simp [CapturedAggregate.errorResult, CapturedAggregate.result, doubtful]

theorem holds_conclude_ok {success : DonBotAggregateSuccess}
    (certain : (AggregateTrack.of readers captured.request.fightLogIds.length past).uncertain =
      false) :
    Holds (sendsOnce readers captured.request.fightLogIds.length) (Ends readers captured.request)
      (Panics readers captured.request) past (conclude captured (.ok success)) := by
  refine ⟨trivial, fun (stopped : Bool) => ?_⟩
  cases stopped with
  | true => exact ⟨CapturedAggregate.result_fair (by simp), fun _ => rfl⟩
  | false =>
    apply left_of_certain (CapturedAggregate.successResult_fair success)
    rw [AggregateTrack.goOn_uncertain]
    exact certain

theorem holds_process (hasSecrets : Bool) :
    Holds (sendsOnce readers captured.request.fightLogIds.length) (Ends readers captured.request)
      (Panics readers captured.request) [] (process readers hasSecrets captured) := by
  refine ⟨trivial, fun (stopped : Bool) => ?_⟩
  cases stopped with
  | true => exact left_of_certain (CapturedAggregate.result_fair (by simp)) rfl
  | false =>
    have waiting : Waiting readers captured.request.fightLogIds.length
        [⟨.stopRequested, false⟩] := ⟨rfl, rfl, rfl⟩
    apply Holds.settle _ _ (holds_loadKey waiting)
    · rintro past key ⟨⟨idle, unsent, certain⟩, keyed⟩
      refine ⟨trivial, fun (stopped : Bool) => ?_⟩
      cases stopped with
      | true =>
        apply left_of_certain (CapturedAggregate.result_fair (by simp))
        simp [AggregateTrack.step, idle, certain]
      | false =>
        have handed : (AggregateTrack.of readers captured.request.fightLogIds.length
            (past ++ [⟨.stopRequested, false⟩])).Handed := by
          simp [AggregateTrack.step, AggregateTrack.Handed, idle, keyed, unsent, certain]
        apply Holds.settle _ _ (DonBotClient.holds_deliverAggregate handed)
        · exact fun past success certain =>
            @holds_conclude_ok _ { captured with dispatched := true } past success certain
        · exact fun past fault reported =>
            @holds_conclude_error _ { captured with dispatched := true } past fault rfl reported
    · intro past fault waiting
      cases fault with
      | panicked =>
        refine left_of_certain ?_ waiting.2.2
        apply CapturedAggregate.result_fair
        split <;> simp
      | error reason => exact left_of_certain ⟨rfl, rfl, rfl, nofun, fun _ => ⟨rfl, rfl⟩⟩ waiting.2.2

/-- Wherever a processing stands, its report was sent once at most. -/
theorem process_sends_once {hasSecrets : Bool} {said : Calls} {rest : Processing}
    (reached : Reaches (process readers hasSecrets captured) said rest) :
    (AggregateTrack.of readers captured.request.fightLogIds.length said).sends ≤ 1 := by
  refine (holds_process hasSecrets).invariant (fun past =>
    (AggregateTrack.of readers captured.request.fightLogIds.length past).sends ≤ 1)
    (fun past question answer asked few => ?_) reached (Nat.zero_le 1)
  rw [AggregateTrack.of_append, List.foldl_cons, List.foldl_nil]
  match question, answer with
  | .execute request, answer => exact Nat.le_of_eq (congrArg (· + 1) asked)
  | .loadKey, some (.ok _) => exact few
  | .loadKey, none | .loadKey, some (.error _) => exact few
  | .stopRequested, stopped =>
    simp only [AggregateTrack.step]
    split <;> exact few
  | .openFile _, _ | .fillRandom, _ | .now, _ | .wait _, _ | .clientId, _ | .acquireSession, _ |
    .recoverSession _, _ => exact few

end DonBotAggregateWorker
end MannyUploader.Providers
