import MannyUploader.Providers.DonBotUploadLaws

/-! The events of an upload as a whole: which bodies are accepted, and what of them is kept. -/
namespace MannyUploader.Providers.DonBotResponse
open Domain Application Foundation

section receipts

/-- What the word of an outcome says of the counts. -/
def Delivery.Describes (delivery : Delivery) (requested : Bool) :
    DonBotDiscordDeliveryOutcome → Prop
  | .notRequested => delivery.outcome = "not_requested" ∧ requested = false ∧
      ∀ count ∈ delivery.counts, count = 0
  | .sent => delivery.outcome = "sent" ∧ requested = true ∧
      0 < delivery.sent ∧ delivery.skipped = 0 ∧ delivery.failed = 0 ∧ delivery.ambiguous = 0
  | .partially => delivery.outcome = "partial" ∧ requested = true ∧
      2 ≤ delivery.counts.countP (· != 0)
  | .skipped => delivery.outcome = "skipped" ∧ requested = true ∧
      delivery.sent = 0 ∧ 0 < delivery.skipped ∧ delivery.failed = 0 ∧ delivery.ambiguous = 0
  | .failed => delivery.outcome = "failed" ∧ requested = true ∧
      delivery.sent = 0 ∧ delivery.skipped = 0 ∧ 0 < delivery.failed ∧ delivery.ambiguous = 0
  | .ambiguous => delivery.outcome = "ambiguous" ∧ requested = true ∧
      delivery.sent = 0 ∧ delivery.skipped = 0 ∧ delivery.failed = 0 ∧ 0 < delivery.ambiguous

/-- The receipt of a delivery that answers what was requested. -/
structure Delivery.Matches (delivery : Delivery) (requested : Bool)
    (receipt : DonBotDiscordDeliveryReceipt) : Prop where
  answers : delivery.requested = requested
  total : delivery.sent.toNat + delivery.skipped.toNat + delivery.failed.toNat +
    delivery.ambiguous.toNat ≤ 4
  counts : receipt.sent = delivery.sent ∧ receipt.skipped = delivery.skipped ∧
    receipt.failed = delivery.failed ∧ receipt.ambiguous = delivery.ambiguous
  outcome : delivery.Describes requested receipt.outcome

variable {delivery : Delivery} {requested : Bool} {outcome : DonBotDiscordDeliveryOutcome}

theorem populated_eq_zero : delivery.counts.countP (· != 0) = 0 ↔
    ∀ count ∈ delivery.counts, count = 0 := by
  simp [List.countP_eq_zero]

/-- One count that is not zero leaves the others at zero. -/
theorem populated_one (delivery : Delivery) :
    (delivery.sent > 0 ∧ delivery.counts.countP (· != 0) = 1 ↔
      0 < delivery.sent ∧ delivery.skipped = 0 ∧ delivery.failed = 0 ∧ delivery.ambiguous = 0) ∧
    (delivery.skipped > 0 ∧ delivery.counts.countP (· != 0) = 1 ↔
      delivery.sent = 0 ∧ 0 < delivery.skipped ∧ delivery.failed = 0 ∧ delivery.ambiguous = 0) ∧
    (delivery.failed > 0 ∧ delivery.counts.countP (· != 0) = 1 ↔
      delivery.sent = 0 ∧ delivery.skipped = 0 ∧ 0 < delivery.failed ∧ delivery.ambiguous = 0) ∧
    (delivery.ambiguous > 0 ∧ delivery.counts.countP (· != 0) = 1 ↔
      delivery.sent = 0 ∧ delivery.skipped = 0 ∧ delivery.failed = 0 ∧ 0 < delivery.ambiguous) := by
  have positive (count : UInt16) : count > 0 ↔ count ≠ 0 := UInt16.pos_iff_ne_zero
  simp only [Delivery.counts, List.countP_cons, List.countP_nil, bne_iff_ne, positive]
  by_cases sent : delivery.sent = 0 <;> by_cases skipped : delivery.skipped = 0 <;>
    by_cases failed : delivery.failed = 0 <;> by_cases ambiguous : delivery.ambiguous = 0 <;>
    simp [sent, skipped, failed, ambiguous]

theorem outcomeOf_iff : delivery.outcomeOf requested = some outcome ↔
    delivery.Describes requested outcome := by
  obtain ⟨sent, skipped, failed, ambiguous⟩ := populated_one delivery
  have zero : delivery.counts.countP (· != 0) = 0 ↔ ∀ count ∈ delivery.counts, count = 0 :=
    populated_eq_zero
  constructor
  · intro found
    unfold Delivery.outcomeOf at found
    simp only at found
    split at found
    next here =>
      cases found
      exact ⟨here.1, by simpa using here.2.1, zero.mp here.2.2⟩
    split at found
    next here =>
      cases found
      exact ⟨here.1, here.2.1, sent.mp here.2.2⟩
    split at found
    next here =>
      cases found
      exact ⟨here.1, here.2.1, here.2.2⟩
    split at found
    next here =>
      cases found
      exact ⟨here.1, here.2.1, skipped.mp here.2.2⟩
    split at found
    next here =>
      cases found
      exact ⟨here.1, here.2.1, failed.mp here.2.2⟩
    split at found
    next here =>
      cases found
      exact ⟨here.1, here.2.1, ambiguous.mp here.2.2⟩
    · cases found
  · intro described
    unfold Delivery.outcomeOf
    cases outcome with
    | notRequested =>
      have none := zero.mpr described.2.2
      simp [described.1, described.2.1, none]
    | sent =>
      have one := sent.mpr described.2.2
      simp [described.1, described.2.1, one]
    | partially =>
      have several := described.2.2
      simp [described.1, described.2.1, several]
    | skipped =>
      have one := skipped.mpr described.2.2
      simp [described.1, described.2.1, one]
    | failed =>
      have one := failed.mpr described.2.2
      simp [described.1, described.2.1, one]
    | ambiguous =>
      have one := ambiguous.mpr described.2.2
      simp [described.1, described.2.1, one]

theorem receipt_iff {receipt : DonBotDiscordDeliveryReceipt} :
    delivery.receipt requested 4 = some receipt ↔ delivery.Matches requested receipt := by
  have total : (delivery.counts.map UInt16.toNat).sum = delivery.sent.toNat +
      delivery.skipped.toNat + delivery.failed.toNat + delivery.ambiguous.toNat := by
    simp [Delivery.counts, Nat.add_assoc]
  have maximum : (4 : UInt16).toNat = 4 := rfl
  unfold Delivery.receipt
  rw [total, maximum]
  constructor
  · intro found
    split at found
    · cases found
    next answers =>
      split at found
      · cases found
      next few =>
        obtain ⟨outcome, described, rfl⟩ := Option.map_eq_some_iff.mp found
        exact ⟨Decidable.not_not.mp answers, by omega, ⟨rfl, rfl, rfl, rfl⟩,
          outcomeOf_iff.mp described⟩
  · intro fits
    obtain ⟨answers, few, ⟨sent, skipped, failed, ambiguous⟩, described⟩ := fits
    rw [if_neg (not_not.mpr answers), if_neg (by omega), outcomeOf_iff.mpr described, Option.map_some,
      ← sent, ← skipped, ← failed, ← ambiguous]

end receipts

section events
variable {readers : Readers} {requested : Bool} {status : UInt16}

/-- An event as its line holds it. -/
def readEvent (readers : Readers) (data : List UInt8) : Option Progress :=
  decodeJson readers.progress Progress.bounds data maxDonbotProgressBytes

/-- The receipt of a complete event. Without one nothing may be requested. -/
def Progress.Confirms (event : Progress) (requested : Bool)
    (receipt : DonBotDiscordDeliveryReceipt) : Prop :=
  match event.discordDelivery with
  | some delivery => delivery.Matches requested receipt
  | none => requested = false ∧ receipt = noDelivery

/-- What an event must not do. -/
structure Progress.Accepted (event : Progress) (requested : Bool) : Prop where
  identified : ∀ id, event.fightLogId = some id → 0 < id.toNat ∧ id.toNat < 2 ^ 63
  notFailed : event.stage ≠ "failed"
  confirmed : event.stage = "complete" → ∃ receipt, event.Confirms requested receipt
  silent : event.stage ≠ "complete" → event.discordDelivery = none

theorem positiveId_iff {id : UInt64} : positiveId id = true ↔ 0 < id.toNat ∧ id.toNat < 2 ^ 63 := by
  have bound : i64Max = 2 ^ 63 - 1 := rfl
  simp only [positiveId, Bool.and_eq_true, decide_eq_true_iff, UInt64.lt_iff_toNat_lt,
    UInt64.reduceToNat]
  omega

theorem delivery_ok {value : Option Delivery} {receipt : DonBotDiscordDeliveryReceipt} :
    delivery value requested status = .ok receipt ↔
      match value with
      | some delivery => delivery.Matches requested receipt
      | none => requested = false ∧ receipt = noDelivery := by
  unfold delivery
  cases value with
  | none => cases requested <;> simp [eq_comm]
  | some value =>
    simp only [← receipt_iff]
    cases value.receipt requested 4 <;> simp

/-- The round of an event: what it must be, and what it leaves. -/
theorem progressEvent_ok {state next : Completed × Bool} {data : List UInt8} :
    progressEvent readers requested status state data = .ok next ↔
      ∃ event, readEvent readers data = some event ∧ event.Accepted requested ∧
        next.1.fightLogId = event.fightLogId.or state.1.fightLogId ∧
        (next.2 = true ↔ event.stage = "complete") ∧
        (event.stage = "complete" → event.Confirms requested next.1.delivery) ∧
        (event.stage ≠ "complete" → next.1.delivery = state.1.delivery) := by
  unfold progressEvent readEvent
  cases decodeJson readers.progress Progress.bounds data maxDonbotProgressBytes with
  | none => simp
  | some event =>
    simp only [Option.some.injEq, exists_eq_left']
    constructor
    · intro found
      split at found
      · cases found
      next identified =>
        split at found
        · cases found
        next notFailed =>
          have ids : ∀ id, event.fightLogId = some id → 0 < id.toNat ∧ id.toNat < 2 ^ 63 := by
            intro id here
            simpa [here, positiveId_iff] using identified
          split at found
          next complete =>
            obtain ⟨receipt, delivered, settled⟩ := bind_ok found
            cases settled
            have confirmed : event.Confirms requested receipt := delivery_ok.mp delivered
            exact ⟨⟨ids, notFailed, fun _ => ⟨receipt, confirmed⟩, fun other => absurd complete other⟩,
              rfl, by simp [complete], fun _ => confirmed, fun other => absurd complete other⟩
          next running =>
            split at found
            · cases found
            next silent =>
              cases found
              exact ⟨⟨ids, notFailed, fun complete => absurd complete running,
                fun _ => by simpa using silent⟩, rfl, by simp [running],
                fun complete => absurd complete running, fun _ => rfl⟩
    · intro fits
      obtain ⟨accepted, id, flag, confirmed, kept⟩ := fits
      obtain ⟨⟨fightLogId, receipt⟩, complete⟩ := next
      have identified : ¬event.fightLogId.any (!positiveId ·) = true := by
        cases here : event.fightLogId with
        | none => simp
        | some id => simpa [positiveId_iff] using accepted.identified id here
      rw [if_neg identified]
      dsimp only at id flag confirmed kept ⊢
      rw [if_neg accepted.notFailed]
      by_cases here : event.stage = "complete"
      · have delivered : delivery event.discordDelivery requested status = .ok receipt :=
          delivery_ok.mpr (confirmed here)
        rw [if_pos here, delivered, id, flag.mpr here]
        rfl
      · have silent := accepted.silent here
        have unset : complete = false := Bool.eq_false_iff.mpr fun set => here (flag.mp set)
        rw [if_neg here, silent, id, kept here, unset]
        rfl

/-- What a run of events leaves, read off the events. -/
structure Summary (requested : Bool) (events : List Progress) (final : Completed × Bool) :
    Prop where
  fightLogId : final.1.fightLogId = (events.filterMap (·.fightLogId)).getLast?
  complete : final.2 = true ↔ ∃ last, events.getLast? = some last ∧ last.stage = "complete"
  delivery : ∀ last, events.getLast? = some last → last.stage = "complete" →
    last.Confirms requested final.1.delivery

theorem summary_start : Summary requested [] ({}, false) := by
  constructor <;> simp

theorem summary_snoc {events : List Progress} {event : Progress} {state next : Completed × Bool}
    (before : Summary requested events state)
    (id : next.1.fightLogId = event.fightLogId.or state.1.fightLogId)
    (flag : next.2 = true ↔ event.stage = "complete")
    (confirmed : event.stage = "complete" → event.Confirms requested next.1.delivery) :
    Summary requested (events ++ [event]) next := by
  constructor
  case fightLogId =>
    rw [id, before.fightLogId, List.filterMap_append, List.getLast?_append]
    cases here : event.fightLogId <;> simp [here]
  case complete => simp [flag]
  case delivery =>
    intro last found complete
    rw [List.getLast?_concat] at found
    cases found
    exact confirmed complete

/-- A run that gets through reads accepted events, and leaves their summary. -/
theorem run_ok {lines : List (List UInt8)} {final : Completed × Bool}
    (run : lines.foldlM (progressEvent readers requested status) ({}, false) = .ok final) :
    ∃ events, lines.mapM (readEvent readers) = some events ∧
      (∀ event ∈ events, event.Accepted requested) ∧ Summary requested events final := by
  induction lines using List.reverseRecOn generalizing final with
  | nil =>
    cases run
    exact ⟨[], rfl, fun event member => absurd member List.not_mem_nil, summary_start⟩
  | append_singleton lines data ih =>
    rw [List.foldlM_append] at run
    obtain ⟨state, before, last⟩ := bind_ok run
    rw [List.foldlM_cons] at last
    obtain ⟨next, step, same⟩ := bind_ok last
    cases same
    obtain ⟨events, read, accepted, summary⟩ := ih before
    obtain ⟨event, here, fits, id, flag, confirmed, -⟩ := progressEvent_ok.mp step
    refine ⟨events ++ [event], ?_, ?_, summary_snoc summary id flag confirmed⟩
    · rw [List.mapM_append, read]
      simp [here]
    · exact List.forall_mem_append.mpr ⟨accepted, List.forall_mem_singleton.mpr fits⟩

theorem step_exists {event : Progress} {data : List UInt8} (state : Completed × Bool)
    (read : readEvent readers data = some event) (accepted : event.Accepted requested) :
    ∃ next, progressEvent readers requested status state data = .ok next := by
  by_cases complete : event.stage = "complete"
  · obtain ⟨receipt, confirmed⟩ := accepted.confirmed complete
    refine ⟨({ fightLogId := event.fightLogId.or state.1.fightLogId, delivery := receipt }, true), ?_⟩
    exact progressEvent_ok.mpr ⟨event, read, accepted, rfl, by simp [complete], fun _ => confirmed,
      fun other => absurd complete other⟩
  · refine ⟨({ state.1 with fightLogId := event.fightLogId.or state.1.fightLogId }, false), ?_⟩
    exact progressEvent_ok.mpr ⟨event, read, accepted, rfl, by simp [complete],
      fun other => absurd other complete, fun _ => rfl⟩

/-- Accepted events get through. -/
theorem run_exists (status : UInt16) {lines : List (List UInt8)} {events : List Progress}
    (read : lines.mapM (readEvent readers) = some events)
    (accepted : ∀ event ∈ events, event.Accepted requested) :
    ∃ final, lines.foldlM (progressEvent readers requested status) ({}, false) = .ok final := by
  induction lines using List.reverseRecOn generalizing events with
  | nil => exact ⟨_, rfl⟩
  | append_singleton lines data ih =>
    rw [List.mapM_append] at read
    obtain ⟨earlier, before, rest⟩ := Option.bind_eq_some_iff.mp read
    obtain ⟨last, here, same⟩ := Option.bind_eq_some_iff.mp rest
    cases same
    rw [List.mapM_cons] at here
    obtain ⟨event, found, behind⟩ := Option.bind_eq_some_iff.mp here
    cases behind
    obtain ⟨state, run⟩ := ih before fun event member => accepted event (by simp [member])
    obtain ⟨next, step⟩ := step_exists state found (accepted event (by simp))
    refine ⟨next, ?_⟩
    rw [List.foldlM_append, run]
    change (progressEvent readers requested status state data >>= fun next =>
      [].foldlM (progressEvent readers requested status) next) = .ok next
    rw [step]
    rfl

/-- Only one receipt is the one of an event. -/
theorem confirms_unique {event : Progress} {first second : DonBotDiscordDeliveryReceipt}
    (one : event.Confirms requested first) (other : event.Confirms requested second) :
    first = second := by
  unfold Progress.Confirms at one other
  cases here : event.discordDelivery with
  | none =>
    rw [here] at one other
    rw [one.2, other.2]
  | some delivery =>
    rw [here] at one other
    have same := (receipt_iff.mpr one).symm.trans (receipt_iff.mpr other)
    exact Option.some.inj same

end events

section streams
variable {readers : Readers} {requested : Bool} {response : Application.HttpResponse}
  {result : Completed}

/-- The contents of the data lines of a body. -/
def dataLines (body : List UInt8) : List (List UInt8) := (body.splitOn 10).filterMap lineData

/-- The bodies that are taken apart at all. -/
def Readable (body : List UInt8) : Prop :=
  body.length ≤ maxDonbotProgressBytes ∧ (String.fromUTF8? ⟨body.toArray⟩).isSome = true

theorem progress_readable (readable : Readable response.body) :
    progress readers response requested = (do
      let (result, complete) ← (dataLines response.body).foldlM
        (progressEvent readers requested response.statusCode) ({}, false)
      if complete then .ok result else .error (invalid response.statusCode)) := by
  rw [progress, if_neg]
  · rfl
  · rintro (long | garbled)
    · exact absurd readable.1 (by omega)
    · rw [Option.isNone_iff_eq_none] at garbled
      simp [Readable, garbled] at readable

theorem progress_unreadable (unreadable : ¬Readable response.body) :
    progress readers response requested = .error (invalid response.statusCode) := by
  rw [progress, if_pos]
  by_cases long : response.body.length > maxDonbotProgressBytes
  · exact .inl long
  · right
    rw [Option.isNone_iff_eq_none, ← Option.not_isSome_iff_eq_none]
    exact fun valid => unreadable ⟨by omega, valid⟩

/-- Which streams are accepted, and what is returned for them. -/
theorem progress_ok_iff : progress readers response requested = .ok result ↔
    Readable response.body ∧ ∃ events last,
      (dataLines response.body).mapM (readEvent readers) = some events ∧
      (∀ event ∈ events, event.Accepted requested) ∧
      events.getLast? = some last ∧ last.stage = "complete" ∧
      result.fightLogId = (events.filterMap (·.fightLogId)).getLast? ∧
      last.Confirms requested result.delivery := by
  by_cases readable : Readable response.body
  · rw [progress_readable readable]
    simp only [readable, true_and]
    constructor
    · intro found
      obtain ⟨⟨final, complete⟩, run, ended⟩ := bind_ok found
      obtain ⟨events, read, accepted, summary⟩ := run_ok run
      cases complete with
      | false => cases ended
      | true =>
        cases ended
        obtain ⟨last, here, stage⟩ := summary.complete.mp rfl
        exact ⟨events, last, read, accepted, here, stage, summary.fightLogId,
          summary.delivery last here stage⟩
    · intro fits
      obtain ⟨events, last, read, accepted, here, stage, id, confirmed⟩ := fits
      obtain ⟨⟨final, complete⟩, run⟩ := run_exists response.statusCode read accepted
      obtain ⟨again, reread, -, summary⟩ := run_ok run
      cases read.symm.trans reread
      have whole : complete = true := summary.complete.mpr ⟨last, here, stage⟩
      have receipt := confirms_unique (summary.delivery last here stage) confirmed
      have same : final = result := by
        obtain ⟨finalId, finalDelivery⟩ := final
        obtain ⟨resultId, resultDelivery⟩ := result
        simp only [Completed.mk.injEq]
        exact ⟨summary.fightLogId.trans id.symm, receipt⟩
      rw [run, whole, same]
      rfl
  · rw [progress_unreadable readable]
    simp [readable]

section lines
variable (first rest line : List UInt8)

theorem dataLines_append : dataLines (first ++ 10 :: rest) = dataLines first ++ dataLines rest := by
  rw [dataLines, List.splitOn_append_cons_self, List.filterMap_append]
  rfl

/-- Blank lines, comments and other fields: a line that is not a data line. -/
theorem dataLines_other (single : 10 ∉ line) (other : (utf8 "data:").isPrefixOf line = false) :
    dataLines line = [] := by
  have none : lineData line = none := by
    cases found : lineData line with
    | none => rfl
    | some data =>
      obtain ⟨behind, stripped, -⟩ := Option.map_eq_some_iff.mp found
      have shape := stripPrefix_iff.mp stripped
      have head : utf8 "data:" <+: line := by
        split at shape
        next carriage =>
          have front : line.dropLast <+: line := List.dropLast_prefix line
          exact List.IsPrefix.trans ⟨behind, shape.symm⟩ front
        · exact ⟨behind, shape.symm⟩
      rw [← List.isPrefixOf_iff_prefix, other] at head
      cases head
  rw [dataLines, List.splitOn_eq_singleton single, List.filterMap_cons_none none, List.filterMap_nil]

end lines

/-- Only the data lines of a readable body count. -/
theorem progress_dataLines {other : Application.HttpResponse}
    (status : response.statusCode = other.statusCode) (readable : Readable response.body)
    (otherReadable : Readable other.body) (same : dataLines response.body = dataLines other.body) :
    progress readers response requested = progress readers other requested := by
  rw [progress_readable readable, progress_readable otherReadable, same, status]

end streams

/-- The stream of an upload: which bodies are accepted, what is returned for them, and that the
lines between the data lines change nothing. -/
theorem progress_stream (readers : Readers) :
    (∀ response requested result, progress readers response requested = .ok result ↔
      Readable response.body ∧ ∃ events last,
        (dataLines response.body).mapM (readEvent readers) = some events ∧
        (∀ event ∈ events, event.Accepted requested) ∧
        events.getLast? = some last ∧ last.stage = "complete" ∧
        result.fightLogId = (events.filterMap (·.fightLogId)).getLast? ∧
        last.Confirms requested result.delivery) ∧
    (∀ response other requested, response.statusCode = other.statusCode →
      Readable response.body → Readable other.body →
      dataLines response.body = dataLines other.body →
      progress readers response requested = progress readers other requested) ∧
    (∀ first rest, dataLines (first ++ 10 :: rest) = dataLines first ++ dataLines rest) ∧
    ∀ line, 10 ∉ line → (utf8 "data:").isPrefixOf line = false → dataLines line = [] :=
  ⟨fun _ _ _ => progress_ok_iff,
    fun _ _ _ status readable otherReadable same =>
      progress_dataLines status readable otherReadable same,
    dataLines_append, dataLines_other⟩

end MannyUploader.Providers.DonBotResponse
