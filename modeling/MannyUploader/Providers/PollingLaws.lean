import MannyUploader.Foundation.Environments
import MannyUploader.Providers.WingmanRequests

/-! The polling of Wingman under a clock that goes on while it waits: both loops end, and what they
ask keeps to the deadline. -/
namespace MannyUploader.Providers
open Domain Application Foundation Dialogue

section clock

/-- The time as the client knows it: its last reading, and what it waited since. -/
def tick (time : Nat) : ((question : Call) × question.Answer) → Nat
  | ⟨.now, reading⟩ => Instant.nanos reading
  | ⟨.wait delay, interrupted⟩ => bif interrupted then time else time + delay
  | _ => time

def earliest (past : Calls) : Nat := past.foldl tick 0

/-- A reading is no earlier than the one before, and the waits since then. -/
def clockGoesOn (past : Calls) : (question : Call) → question.Answer → Prop
  | .now, reading => earliest past ≤ Instant.nanos reading
  | _, _ => True

/-- The first reading of the clock. -/
def started : Calls → Option Instant
  | [] => none
  | ⟨.now, reading⟩ :: _ => some reading
  | _ :: rest => started rest

theorem earliest_snoc (past : Calls) (last : (question : Call) × question.Answer) :
    earliest (past ++ [last]) = tick (earliest past) last := by
  rw [earliest, List.foldl_append]
  rfl

variable (past : Calls)

@[simp] theorem earliest_now (reading : Instant) :
    earliest (past ++ [⟨.now, reading⟩]) = reading.nanos := earliest_snoc past _

@[simp] theorem earliest_stop (stopped : Bool) :
    earliest (past ++ [⟨.stopRequested, stopped⟩]) = earliest past := earliest_snoc past _

@[simp] theorem earliest_execute (request : HttpRequest)
    (answer : Except (Fault HttpErrorCode) Application.HttpResponse) :
    earliest (past ++ [⟨.execute request, answer⟩]) = earliest past := earliest_snoc past _

@[simp] theorem earliest_wait (delay : Duration) :
    earliest (past ++ [⟨.wait delay, false⟩]) = earliest past + delay := earliest_snoc past _

theorem started_append {past : Calls} {start : Instant} (first : started past = some start)
    (more : Calls) : started (past ++ more) = some start := by
  induction past with
  | nil => cases first
  | cons call rest ih =>
    obtain ⟨question, answer⟩ := call
    cases question
    case now => exact first
    all_goals exact ih first

end clock

/-- What the polling may ask: nothing at the deadline, and for no longer than is left of it. -/
def Punctual (timeout interval : Duration) (past : Calls) : Call → Prop
  | .execute request => ∃ start, started past = some start ∧
      start.nanos + timeout < Instant.limit ∧ earliest past < start.nanos + timeout ∧
      1_000_000 ≤ request.timeouts.operation ∧
      request.timeouts.operation ≤ start.nanos + timeout - earliest past
  | .wait delay => ∃ start, started past = some start ∧
      start.nanos + timeout < Instant.limit ∧ 0 < delay ∧ delay ≤ interval ∧
      earliest past + delay ≤ start.nanos + timeout
  | .now | .stopRequested => True
  | _ => False

/-- The deadline is the timeout after the first reading. -/
def Dated (timeout : Duration) (deadline : Instant) (past : Calls) : Prop :=
  ∃ start, started past = some start ∧ start.nanos + timeout = deadline.nanos ∧
    deadline.nanos < Instant.limit

theorem Dated.append {timeout : Duration} {deadline : Instant} {past : Calls}
    (dated : Dated timeout deadline past) (more : Calls) :
    Dated timeout deadline (past ++ more) := by
  obtain ⟨start, first, same, small⟩ := dated
  exact ⟨start, started_append first more, same, small⟩

section punctual
variable {timeout interval delay : Duration} {deadline : Instant} {past : Calls}
  {request : HttpRequest}

theorem punctual_execute (dated : Dated timeout deadline past)
    (early : earliest past < deadline.nanos) (long : 1_000_000 ≤ request.timeouts.operation)
    (short : request.timeouts.operation ≤ deadline.nanos - earliest past) :
    Punctual timeout interval past (.execute request) := by
  obtain ⟨start, first, same, small⟩ := dated
  rw [← same] at early short small
  exact ⟨start, first, small, early, long, short⟩

theorem punctual_wait (dated : Dated timeout deadline past) (positive : 0 < delay)
    (within : delay ≤ interval) (short : earliest past + delay ≤ deadline.nanos) :
    Punctual timeout interval past (.wait delay) := by
  obtain ⟨start, first, same, small⟩ := dated
  rw [← same] at short small
  exact ⟨start, first, small, positive, within, short⟩

end punctual

namespace Client
variable {ε α : Type} {may : Calls → Call → Prop} {env : Environment Call Call.Answer}
  {post : Calls → α → Prop} {past : Calls}

theorem ends_ofExcept {outcome : Except ε α} (ok : ∀ value, outcome = .ok value → post past value) :
    Ends env may post past (ofExcept outcome) := by
  cases outcome with
  | ok value => exact ok value rfl
  | error error => trivial

theorem ends_refuseStop {cancelled : ε} {post : Calls → Unit → Prop}
    (asked : may past .stopRequested) (ok : post (past ++ [⟨.stopRequested, false⟩]) ()) :
    Ends env may post past (refuseStop cancelled) := by
  refine ⟨asked, fun stopped _ => ?_⟩
  cases stopped with
  | true => trivial
  | false => exact ok

end Client

namespace WingmanClient
open Client

section steps
variable {timeout interval : Duration} {deadline : Instant} {past : Calls}

/-- The client knows of no time that passed. -/
def Still (timeout : Duration) (deadline : Instant) (past after : Calls) : Prop :=
  Dated timeout deadline after ∧ earliest after = earliest past

theorem ends_still {cancelled : WingmanError} (dated : Dated timeout deadline past) :
    Ends clockGoesOn (Punctual timeout interval) (fun after _ => Still timeout deadline past after)
      past (refuseStop cancelled) :=
  ends_refuseStop trivial ⟨dated.append _, earliest_stop past false⟩

theorem ends_now (dated : Dated timeout deadline past) :
    Ends clockGoesOn (Punctual timeout interval)
      (fun after (reading : Instant) => Dated timeout deadline after ∧
        earliest after = reading.nanos ∧ earliest past ≤ reading.nanos)
      past (call .now : Client WingmanError Instant) :=
  ⟨trivial, fun reading later => ⟨dated.append _, earliest_now past reading, later⟩⟩

/-- A request in time is answered in no time that the client knows of. -/
theorem ends_execute {request : HttpRequest} (dated : Dated timeout deadline past)
    (early : earliest past < deadline.nanos) (long : 1_000_000 ≤ request.timeouts.operation)
    (short : request.timeouts.operation ≤ deadline.nanos - earliest past) :
    Ends clockGoesOn (Punctual timeout interval) (fun after _ => Still timeout deadline past after)
      past (execute request) := by
  apply (ends_still dated).bind
  intro first _ still
  have asked : Punctual timeout interval first (.execute request) := by
    rw [← still.2] at early short
    exact punctual_execute still.1 early long short
  refine ⟨asked, fun answer _ => ?_⟩
  have answered : Still timeout deadline past (first ++ [⟨.execute request, answer⟩]) :=
    ⟨still.1.append _, (earliest_execute first request answer).trans still.2⟩
  match answer with
  | .error .panicked => trivial
  | .error (.error code) =>
    apply (ends_still answered.1).bind
    exact fun _ _ _ => trivial
  | .ok response =>
    apply (ends_still answered.1).bind
    exact fun last _ after => ⟨after.1, after.2.trans answered.2⟩

/-- Where there is more to do after a wait, the whole interval is over. -/
theorem ends_wait (dated : Dated timeout deadline past) (positive : 0 < interval) :
    Ends clockGoesOn (Punctual timeout interval)
      (fun after more => Dated timeout deadline after ∧ (more = true →
        earliest past + interval ≤ earliest after ∧ earliest after < deadline.nanos)) past
      (wait deadline interval) := by
  apply (ends_still dated).bind
  intro first _ still
  apply (ends_now still.1).bind
  intro second reading read
  apply Ends.ite
  · exact fun _ => ⟨read.1, fun more => absurd more (by decide)⟩
  · intro left
    have asked : Punctual timeout interval second
        (.wait (min interval (deadline.nanos - reading.nanos))) := by
      apply punctual_wait read.1
      · exact Nat.lt_min.mpr ⟨positive, Nat.pos_of_ne_zero left⟩
      · exact Nat.min_le_left _ _
      · omega
    refine ⟨asked, fun interrupted _ => ?_⟩
    cases interrupted with
    | true => trivial
    | false =>
      have waited := earliest_wait second (min interval (deadline.nanos - reading.nanos))
      apply (ends_still (read.1.append _)).bind
      intro third _ checked
      apply (ends_now checked.1).bind
      intro last again final
      refine ⟨final.1, fun more => ?_⟩
      have early := of_decide_eq_true more
      have since := still.2
      have passed := checked.2.trans waited
      omega

theorem ends_pollRequest {method : HttpMethod} {url : String} (dated : Dated timeout deadline past) :
    Ends clockGoesOn (Punctual timeout interval)
      (fun after request => Dated timeout deadline after ∧ earliest past ≤ earliest after ∧
        ∀ found, request = some found → earliest after < deadline.nanos ∧
          1_000_000 ≤ found.timeouts.operation ∧
          found.timeouts.operation ≤ deadline.nanos - earliest after)
      past (pollRequest method url deadline) := by
  apply (ends_now dated).bind
  intro after reading read
  apply Ends.ite
  · exact fun _ => ⟨read.1, by omega, fun found none => by cases none⟩
  · intro enough
    refine ⟨read.1, by omega, fun found same => ?_⟩
    cases same
    have whole : (jsonRequest method url).timeouts.operation = 60_000_000_000 := rfl
    refine ⟨by omega, ?_, ?_⟩
    · exact Nat.le_min.mpr ⟨by rw [whole]; decide, by omega⟩
    · rw [read.2.1]
      exact Nat.min_le_right _ _

theorem checkedAdd_some {start : Instant} (found : start.checkedAdd timeout = some deadline) :
    start.nanos + timeout = deadline.nanos ∧ deadline.nanos < Instant.limit := by
  unfold Instant.checkedAdd at found
  split at found
  next small =>
    cases found
    exact ⟨rfl, small⟩
  · cases found

/-- A deadline beyond the range of the clock is an error of its own. -/
theorem deadline_beyond {α : Type} {start : Instant} {next : Instant → Client WingmanError α}
    (beyond : Instant.limit ≤ start.nanos + timeout) :
    Reaches (WingmanClient.deadline timeout >>= next) [⟨.now, start⟩]
      (.fail (.error (.failed .internal))) := by
  have none : start.checkedAdd timeout = none := if_neg (Nat.not_lt.mpr beyond)
  have asked : (WingmanClient.deadline timeout >>= next) = .ask .now fun start =>
      (start.checkedAdd timeout).elim (throw (.failed .internal)) next := by
    apply congrArg (Dialogue.ask Call.now)
    funext start
    change Dialogue.bind _ (Dialogue.bind _ (Dialogue.done start)) = _
    simp only [Dialogue.bind]
    cases start.checkedAdd timeout <;> rfl
  rw [asked]
  apply Reaches.cons
  rw [none]
  exact .nil

theorem ends_deadline (timeout : Duration) :
    Ends clockGoesOn (Punctual timeout interval)
      (fun after deadline => Dated timeout deadline after ∧
        earliest after + timeout = deadline.nanos) [] (WingmanClient.deadline timeout) := by
  apply Ends.bind (fun after (start : Instant) => after = [⟨.now, start⟩])
  · exact ⟨trivial, fun _ _ => rfl⟩
  · intro after start same
    subst same
    cases found : start.checkedAdd timeout with
    | none => trivial
    | some deadline =>
      have sum := checkedAdd_some found
      exact ⟨⟨start, rfl, sum⟩, sum.1⟩

end steps

section loops
variable {client : WingmanClient} {readers : WingmanResponse.Readers} {deadline : Instant}
  {past : Calls} {rounds : Nat}

/-- A round that goes on took the interval out of the time that is left. -/
theorem ends_pollRounds {ticket : UInt64} {timeout : Duration} (dated : Dated timeout deadline past)
    (positive : 0 < client.polling.ticketInterval) (within : earliest past ≤ deadline.nanos)
    (enough : deadline.nanos < earliest past + rounds * client.polling.ticketInterval) :
    Ends clockGoesOn (Punctual timeout client.polling.ticketInterval) (fun _ _ => True) past
      (pollRounds client readers ticket deadline rounds) := by
  induction rounds generalizing past with
  | zero => omega
  | succ rounds ih =>
    rw [Nat.succ_mul] at enough
    apply (ends_wait dated positive).bind
    intro waited more passed
    apply Ends.ite
    · exact fun _ => trivial
    · intro goOn
      have time := passed.2 (by simpa using goOn)
      apply (ends_pollRequest passed.1).bind
      intro asked request ready
      cases request with
      | none => trivial
      | some request =>
        have fits := ready.2.2 request rfl
        apply (ends_execute ready.1 fits.1 fits.2.1 fits.2.2).bind
        intro answered reply still
        have spent := still.2
        apply Ends.bind (fun after _ => after = answered) (ends_ofExcept fun _ _ => rfl)
        intro after through same
        subst same
        apply Ends.ite
        · exact fun _ => trivial
        · exact fun _ => ih still.1 (by omega) (by omega)

theorem ends_findRounds {file : LogFileIdentity} {metadata : EncounterMetadata} {timeout : Duration}
    (dated : Dated timeout deadline past)
    (positive : 0 < client.polling.checkInterval) (within : earliest past ≤ deadline.nanos)
    (enough : deadline.nanos < earliest past + rounds * client.polling.checkInterval) :
    Ends clockGoesOn (Punctual timeout client.polling.checkInterval)
      (fun after _ => Dated timeout deadline after) past
      (findRounds client readers file metadata deadline rounds) := by
  induction rounds generalizing past with
  | zero => omega
  | succ rounds ih =>
    rw [Nat.succ_mul] at enough
    apply (ends_now dated).bind
    intro first reading read
    apply Ends.ite
    · exact fun _ => read.1
    · intro early
      apply (ends_pollRequest read.1).bind
      intro asked request ready
      cases request with
      | none => exact ready.1
      | some request =>
        have fits := ready.2.2 request rfl
        apply Ends.bind (fun after _ => after = asked) (ends_ofExcept fun _ _ => rfl)
        intro after source same
        subst same
        apply Ends.bind (fun last _ => Still timeout deadline after last)
        · exact ends_execute ready.1 fits.1 fits.2.1 fits.2.2
        intro answered reply still
        have spent := still.2
        apply Ends.bind (fun after _ => after = answered) (ends_ofExcept fun _ _ => rfl)
        intro after found same
        subst same
        cases found with
        | some permalink => exact still.1
        | none =>
          apply (ends_wait still.1 positive).bind
          intro waited more passed
          apply Ends.ite
          · intro goOn
            have time := passed.2 goOn
            exact ih passed.1 (by omega) (by omega)
          · exact fun _ => passed.1

/-- As many rounds as intervals fit into the timeout, and one more. -/
theorem ends_pollTicket {ticket : UInt64} (positive : 0 < client.polling.ticketInterval)
    (enough : client.polling.ticketTimeout < rounds * client.polling.ticketInterval) :
    Ends clockGoesOn (Punctual client.polling.ticketTimeout client.polling.ticketInterval)
      (fun _ _ => True) [] (pollTicket client readers rounds ticket) := by
  apply (ends_deadline client.polling.ticketTimeout).bind
  intro after deadline dated
  apply ends_pollRounds dated.1 positive
  · exact dated.2 ▸ Nat.le_add_right _ _
  · exact dated.2 ▸ Nat.add_lt_add_left enough _

theorem ends_findPermalink {file : LogFileIdentity} {metadata : EncounterMetadata}
    (positive : 0 < client.polling.checkInterval)
    (enough : client.polling.checkTimeout < rounds * client.polling.checkInterval) :
    Ends clockGoesOn (Punctual client.polling.checkTimeout client.polling.checkInterval)
      (fun _ _ => True) [] (findPermalink client readers rounds file metadata) := by
  apply (ends_deadline client.polling.checkTimeout).bind
  intro after deadline dated
  apply Ends.bind (fun last _ => Dated client.polling.checkTimeout deadline last)
  · apply ends_findRounds dated.1 positive
    · exact dated.2 ▸ Nat.le_add_right _ _
    · exact dated.2 ▸ Nat.add_lt_add_left enough _
  intro last found still
  cases found with
  | some permalink => trivial
  | none =>
    apply (ends_still still).bind
    exact fun _ _ _ => trivial

end loops

/-- Intervals are never zero, and nothing is longer than half an hour. -/
theorem built_bounds {client : WingmanClient} (built : Built client) :
    0 < client.polling.ticketInterval ∧ 0 < client.polling.checkInterval ∧
      client.polling.ticketTimeout ≤ Duration.fromSecs 1800 ∧
      client.polling.checkTimeout ≤ Duration.fromSecs 300 := by
  rcases built with rfl | ⟨url, polling, made⟩
  · decide
  · unfold withOptions at made
    split at made
    · cases made
    next passed =>
      cases made
      simp only [Bool.or_eq_true, decide_eq_true_iff, not_or] at passed
      obtain ⟨⟨⟨⟨⟨⟨-, ticket⟩, check⟩, -⟩, -⟩, ticketTimeout⟩, checkTimeout⟩ := passed
      exact ⟨Nat.pos_of_ne_zero ticket, Nat.pos_of_ne_zero check, Nat.le_of_not_lt ticketTimeout,
        Nat.le_of_not_lt checkTimeout⟩

/-- Polling ends on time. Under a clock that goes on, and at least as far as each wait, both loops
end within a number of rounds that depends on the client alone. Whatever the server answers, no
request starts at the deadline, none may take longer than what is left of the time, and no
deadline, wait or timeout leaves its range. A deadline beyond the range ends the polling at once. -/
theorem polling_ends {client : WingmanClient} (built : Built client)
    (readers : WingmanResponse.Readers) :
    ∃ bound, ∀ rounds ≥ bound,
      (∀ ticket said rest, Reaches (pollTicket client readers rounds ticket) said rest →
        Lawful clockGoesOn [] said → rest ≠ .pending ∧
        ∀ question next, rest = .ask question next →
          Punctual client.polling.ticketTimeout client.polling.ticketInterval said question) ∧
      (∀ file metadata said rest,
        Reaches (findPermalink client readers rounds file metadata) said rest →
        Lawful clockGoesOn [] said → rest ≠ .pending ∧
        ∀ question next, rest = .ask question next →
          Punctual client.polling.checkTimeout client.polling.checkInterval said question) ∧
      (∀ ticket (start : Instant), Instant.limit ≤ start.nanos + client.polling.ticketTimeout →
        Reaches (pollTicket client readers rounds ticket) [⟨.now, start⟩]
          (.fail (.error (.failed .internal)))) ∧
      ∀ file metadata (start : Instant),
        Instant.limit ≤ start.nanos + client.polling.checkTimeout →
        Reaches (findPermalink client readers rounds file metadata) [⟨.now, start⟩]
          (.fail (.error (.failed .internal))) := by
  have bounds := built_bounds built
  refine ⟨client.polling.ticketTimeout + client.polling.checkTimeout + 1, fun rounds many => ?_⟩
  have enough {timeout interval : Nat} (positive : 0 < interval) (fewer : timeout < rounds) :
      timeout < rounds * interval :=
    Nat.lt_of_lt_of_le fewer (Nat.le_mul_of_pos_right rounds positive)
  refine ⟨fun ticket said rest run lawful => ?_, fun file metadata said rest run lawful => ?_,
    ?_, ?_⟩
  · have ends : Ends clockGoesOn
        (Punctual client.polling.ticketTimeout client.polling.ticketInterval) (fun _ _ => True) []
        (pollTicket client readers rounds ticket) :=
      ends_pollTicket bounds.1 (enough bounds.1 (by omega))
    refine ⟨ends.not_pending run lawful, fun question next same => ?_⟩
    subst same
    exact ends.asked run lawful
  · have ends : Ends clockGoesOn
        (Punctual client.polling.checkTimeout client.polling.checkInterval) (fun _ _ => True) []
        (findPermalink client readers rounds file metadata) :=
      ends_findPermalink bounds.2.1 (enough bounds.2.1 (by omega))
    refine ⟨ends.not_pending run lawful, fun question next same => ?_⟩
    subst same
    exact ends.asked run lawful
  · exact fun ticket start beyond => deadline_beyond beyond
  · exact fun file metadata start beyond => deadline_beyond beyond

section rounds
variable {client : WingmanClient} {readers : WingmanResponse.Readers} {deadline : Instant}
  {timeout interval delay remaining : Duration} {start before after now : Instant}

theorem reaches_deadline (found : start.checkedAdd timeout = some deadline) :
    Reaches (WingmanClient.deadline timeout) [⟨.now, start⟩] (.done deadline) := by
  apply Reaches.cons
  simp only [Dialogue.bind, found]
  exact .nil

/-- A wait that leaves time behind it. -/
theorem reaches_wait (early : deadline.nanos - before.nanos ≠ 0)
    (least : min interval (deadline.nanos - before.nanos) = delay)
    (more : after.nanos < deadline.nanos) :
    Reaches (wait deadline interval) [⟨.stopRequested, false⟩, ⟨.now, before⟩,
      ⟨.wait delay, false⟩, ⟨.stopRequested, false⟩, ⟨.now, after⟩] (.done true) := by
  subst least
  apply Reaches.cons
  apply Reaches.cons
  change Reaches (if deadline.nanos - before.nanos = 0 then pure false else _) _ _
  rw [if_neg early]
  apply Reaches.cons
  apply Reaches.cons
  apply Reaches.cons
  change Reaches (.done (decide (after.nanos < deadline.nanos))) _ _
  rw [decide_eq_true more]
  exact .nil

/-- The request for the state of a ticket, with so much time left. -/
def ticketRequest (ticket : UInt64) (remaining : Duration) : HttpRequest :=
  let request := jsonRequest .get (wingmanTicketUrl ++ toString ticket)
  { request with
    timeouts := { request.timeouts with operation := min request.timeouts.operation remaining } }

theorem reaches_pollRequest {ticket : UInt64} (left : deadline.nanos - now.nanos = remaining)
    (enough : ¬remaining < 1_000_000) :
    Reaches (pollRequest .get (wingmanTicketUrl ++ toString ticket) deadline) [⟨.now, now⟩]
      (.done (some (ticketRequest ticket remaining))) := by
  subst left
  apply Reaches.cons
  change Reaches (if deadline.nanos - now.nanos < 1_000_000 then pure none else _) _ _
  rw [if_neg enough]
  exact .nil

/-- A round of the polling, up to its request. -/
theorem reaches_round {ticket : UInt64} {rounds : Nat}
    (early : deadline.nanos - before.nanos ≠ 0)
    (least : min client.polling.ticketInterval (deadline.nanos - before.nanos) = delay)
    (more : after.nanos < deadline.nanos) (left : deadline.nanos - now.nanos = remaining)
    (enough : ¬remaining < 1_000_000) :
    Reaches (pollRounds client readers ticket deadline (rounds + 1))
      ([⟨.stopRequested, false⟩, ⟨.now, before⟩, ⟨.wait delay, false⟩, ⟨.stopRequested, false⟩,
        ⟨.now, after⟩] ++ [⟨.now, now⟩])
      (execute (ticketRequest ticket remaining) >>= fun reply =>
        ofExcept (readTicket readers reply) >>= fun through =>
          if through then pure () else pollRounds client readers ticket deadline rounds) := by
  rw [pollRounds]
  exact (reaches_wait early least more).bind.trans (reaches_pollRequest left enough).bind

end rounds

def queuedText : String := "\x7b\"state\":\"queued\"\x7d"

def queuedReaders : WingmanResponse.Readers where
  accepted _ := none
  ticket text := if text = queuedText then some ⟨"queued"⟩ else none
  found _ := none
  queued _ := none
  checked _ := none

def queuedReply : Application.HttpResponse :=
  { statusCode := 200, headers := [], body := utf8 queuedText }

theorem read_queuedReply : readTicket queuedReaders queuedReply = .ok false := by
  have read : queuedReaders.ticket queuedText = some ⟨"queued"⟩ := by simp [queuedReaders]
  have escapes : validUnicodeEscapes false (utf8 queuedText) = true := by decide
  have short : ¬(utf8 queuedText).length > maxWingmanResponseBytes := by decide
  have decoded : WingmanResponse.decode queuedReaders.ticket WingmanResponse.Ticket.bounds
      queuedReply = .ok ⟨"queued"⟩ := by
    rw [WingmanResponse.decode, queuedReply, decodeJson_text _ _ short escapes, read]
    rfl
  rw [readTicket, if_neg (by decide), decoded]
  rfl

def seconds (count : Nat) : Instant := ⟨Duration.fromSecs count⟩

/-- The server leaves the ticket in its queue for a second round, which is about to ask again. -/
def twoRounds : Calls :=
  [⟨.now, seconds 0⟩] ++
    ([⟨.stopRequested, false⟩, ⟨.now, seconds 0⟩, ⟨.wait (Duration.fromSecs 3), false⟩,
      ⟨.stopRequested, false⟩, ⟨.now, seconds 3⟩] ++ [⟨.now, seconds 3⟩] ++
      ([⟨.stopRequested, false⟩,
        ⟨.execute (ticketRequest 7 (Duration.fromSecs 1797)), .ok queuedReply⟩,
        ⟨.stopRequested, false⟩] ++
        ([⟨.stopRequested, false⟩, ⟨.now, seconds 4⟩, ⟨.wait (Duration.fromSecs 3), false⟩,
          ⟨.stopRequested, false⟩, ⟨.now, seconds 7⟩] ++ [⟨.now, seconds 8⟩] ++
          [⟨.stopRequested, false⟩])))

theorem lawful_twoRounds : Lawful clockGoesOn [] twoRounds := by
  unfold twoRounds
  simp only [List.cons_append, List.nil_append]
  repeat' apply Lawful.cons
  all_goals first
    | exact .nil
    | exact trivial
    | exact (show earliest _ ≤ Instant.nanos _ by decide)

theorem reaches_twoRounds (rounds : Nat) : ∃ next,
    Reaches (pollTicket standard queuedReaders (rounds + 2) 7) twoRounds
      (.ask (.execute (ticketRequest 7 (Duration.fromSecs 1792))) next) := by
  have answered : Reaches (execute (ticketRequest 7 (Duration.fromSecs 1797)))
      [⟨.stopRequested, false⟩,
        ⟨.execute (ticketRequest 7 (Duration.fromSecs 1797)), .ok queuedReply⟩,
        ⟨.stopRequested, false⟩] (.done queuedReply) := .cons _ (.cons _ (.cons _ .nil))
  have goesOn : (Dialogue.done queuedReply >>= fun reply =>
      ofExcept (readTicket queuedReaders reply) >>= fun through =>
        if through then pure () else
          pollRounds standard queuedReaders 7 (seconds 1800) (rounds + 1)) =
      pollRounds standard queuedReaders 7 (seconds 1800) (rounds + 1) := by
    rw [done_bind, read_queuedReply]
    rfl
  have second : ∃ next, Reaches (pollRounds standard queuedReaders 7 (seconds 1800) (rounds + 1))
      ([⟨.stopRequested, false⟩, ⟨.now, seconds 4⟩, ⟨.wait (Duration.fromSecs 3), false⟩,
        ⟨.stopRequested, false⟩, ⟨.now, seconds 7⟩] ++ [⟨.now, seconds 8⟩] ++
        [⟨.stopRequested, false⟩])
      (.ask (.execute (ticketRequest 7 (Duration.fromSecs 1792))) next) :=
    ⟨_, (reaches_round (by decide) (by decide) (by decide) (by decide) (by decide)).trans
      (.cons _ .nil)⟩
  obtain ⟨next, second⟩ := second
  refine ⟨next, (reaches_deadline (show (seconds 0).checkedAdd standard.polling.ticketTimeout =
    some (seconds 1800) by decide)).bind.trans ?_⟩
  rw [done_bind]
  refine (reaches_round (by decide) (by decide) (by decide) (by decide) (by decide)).trans
    (answered.bind.trans ?_)
  rw [goesOn]
  exact second

/-- The client of the program polls a ticket, and its second request is punctual. -/
theorem polling_ends_sample : ∃ bound, ∀ rounds ≥ bound,
    (∃ next, Reaches (pollTicket standard queuedReaders (rounds + 2) 7) twoRounds
      (.ask (.execute (ticketRequest 7 (Duration.fromSecs 1792))) next)) ∧
    Punctual standard.polling.ticketTimeout standard.polling.ticketInterval twoRounds
      (.execute (ticketRequest 7 (Duration.fromSecs 1792))) := by
  obtain ⟨bound, ends⟩ := polling_ends (.inl rfl : Built standard) queuedReaders
  refine ⟨bound, fun rounds many => ?_⟩
  obtain ⟨next, run⟩ := reaches_twoRounds rounds
  have punctual := (ends (rounds + 2) (by omega)).1 7 twoRounds _ run lawful_twoRounds
  exact ⟨⟨next, run⟩, punctual.2 _ next rfl⟩

end WingmanClient

end MannyUploader.Providers
