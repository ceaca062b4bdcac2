import MannyUploader.Providers.Exchange

/-! The calls that every client makes, as steps of what holds of a dialogue. -/
namespace MannyUploader.Providers
open Domain Application Foundation Dialogue

namespace Client
variable {ε ε' α β : Type} {may : Calls → Call → Prop} {post : Calls → α → Prop}
  {failed : Calls → Fault ε → Prop} {past : Calls}

theorem holds_throw {error : ε} (lost : failed past (.error error)) :
    Holds may post failed past (throw error : Client ε α) := lost

theorem holds_call {question : Call} {post : Calls → question.Answer → Prop}
    (asked : may past question) (answered : ∀ answer, post (past ++ [⟨question, answer⟩]) answer) :
    Holds may post failed past (call question) := ⟨asked, answered⟩

theorem holds_ofExcept {outcome : Except ε α} (ok : ∀ value, outcome = .ok value → post past value)
    (lost : ∀ error, outcome = .error error → failed past (.error error)) :
    Holds may post failed past (ofExcept outcome) := by
  cases outcome with
  | ok value => exact ok value rfl
  | error error => exact lost error rfl

theorem holds_refuseStop {cancelled : ε} {post : Calls → Unit → Prop}
    (asked : may past .stopRequested) (ok : post (past ++ [⟨.stopRequested, false⟩]) ())
    (lost : failed (past ++ [⟨.stopRequested, true⟩]) (.error cancelled)) :
    Holds may post failed past (refuseStop cancelled) := by
  refine ⟨asked, fun answer => ?_⟩
  cases answer with
  | false => exact ok
  | true => exact lost

section
variable {cancelled : ε} {classify : HttpErrorCode → ε} {request : HttpRequest}
  {post : Calls → Application.HttpResponse → Prop}

/-- What has to be known of the answer to a request. -/
structure Answered (may : Calls → Call → Prop) (post : Calls → Application.HttpResponse → Prop)
    (failed : Calls → Fault ε → Prop) (cancelled : ε) (classify : HttpErrorCode → ε)
    (request : HttpRequest) (past : Calls) : Prop where
  panicked : failed (past ++ [⟨.execute request, .error .panicked⟩]) .panicked
  checked : ∀ answer, may (past ++ [⟨.execute request, answer⟩]) .stopRequested
  stopped : ∀ answer, failed (past ++ [⟨.execute request, answer⟩, ⟨.stopRequested, true⟩])
    (.error cancelled)
  lost : ∀ code, failed (past ++ [⟨.execute request, .error (.error code)⟩,
    ⟨.stopRequested, false⟩]) (.error (classify code))
  returned : ∀ response, post (past ++ [⟨.execute request, .ok response⟩,
    ⟨.stopRequested, false⟩]) response

theorem holds_send (asked : may past (.execute request))
    (answered : Answered may post failed cancelled classify request past) :
    Holds may post failed past (send cancelled classify request) := by
  refine ⟨asked, fun answer => ?_⟩
  match answer with
  | .error .panicked => exact answered.panicked
  | .error (.error code) =>
    apply Holds.bind fun after _ => after = past ++ [⟨.execute request,
      .error (.error code)⟩, ⟨.stopRequested, false⟩]
    · apply holds_refuseStop (answered.checked _)
      · simp
      · simpa using answered.stopped (.error (.error code))
    · intro after _ same
      subst same
      exact answered.lost code
  | .ok response =>
    apply Holds.bind fun after _ => after = past ++ [⟨.execute request, .ok response⟩,
      ⟨.stopRequested, false⟩]
    · apply holds_refuseStop (answered.checked _)
      · simp
      · simpa using answered.stopped (.ok response)
    · intro after _ same
      subst same
      exact answered.returned response

theorem holds_execute (asked : may past .stopRequested)
    (stopped : failed (past ++ [⟨.stopRequested, true⟩]) (.error cancelled))
    (started : may (past ++ [⟨.stopRequested, false⟩]) (.execute request))
    (answered : Answered may post failed cancelled classify request
      (past ++ [⟨.stopRequested, false⟩])) :
    Holds may post failed past (execute cancelled classify request) := by
  apply Holds.bind fun after _ => after = past ++ [⟨.stopRequested, false⟩]
  · exact holds_refuseStop asked rfl stopped
  · intro after _ same
    subst same
    exact holds_send started answered

end

theorem holds_catchUnwind (lost : Calls → Fault ε → Prop) {internal : ε} {client : Client ε α}
    (inside : Holds may post lost past client)
    (panicked : ∀ past, lost past .panicked → failed past (.error internal))
    (error : ∀ past error, lost past (.error error) → failed past (.error error)) :
    Holds may post failed past (catchUnwind internal client) := by
  apply Holds.mapError lost inside
  intro past fault h
  cases fault with
  | panicked => exact panicked past h
  | error found => exact error past found h

end Client
end MannyUploader.Providers
