import MannyUploader.Foundation.Runs
import MannyUploader.Http.ResponseLines

/-! The collector over every sequence of callbacks: what it hands out is what has come, within
its limits, and a failure stays. -/
namespace MannyUploader.Http
open Domain Application Foundation Stateful

inductive CollectorCall
  | header (bytes : List UInt8) (stop : Bool × Bool)
  | body (bytes : List UInt8) (stop : Bool × Bool) (memory : Bool)

namespace CollectorCall

def perform : CollectorCall → Collecting Unit
  | header bytes stop => ResponseCollector.header bytes stop
  | body bytes stop memory => ResponseCollector.bodyChunk bytes stop memory

def headerBytes : CollectorCall → Option (List UInt8)
  | header bytes _ => some bytes
  | body .. => none

def bodyBytes : CollectorCall → Option (List UInt8)
  | header .. => none
  | body bytes .. => some bytes

end CollectorCall

/-- A collector with the calls it has had, and whether one of them failed. -/
structure Collected where
  collector : ResponseCollector
  calls : List CollectorCall := []
  failed : Bool := false

namespace Collected

def perform (s : Collected) (call : CollectorCall) : Collected where
  collector := (call.perform s.collector).2
  calls := s.calls ++ [call]
  failed := s.failed || (call.perform s.collector).1.toOption.isNone

def headerChunks (s : Collected) : List (List UInt8) := s.calls.filterMap CollectorCall.headerBytes

def bodyChunks (s : Collected) : List (List UInt8) := s.calls.filterMap CollectorCall.bodyBytes

end Collected

namespace Line

def isStatus : Line → Bool
  | status _ => true
  | _ => false

def header? : Line → Option HttpHeader
  | field name value => some (responseHeader name value)
  | _ => none

/-- Lines from the last status line on: its code, and the fields behind it. -/
def Since (lines : List Line) (code : UInt16) (headers : List HttpHeader) : Prop :=
  ∃ before after, lines = before ++ status code :: after ∧ (∀ line ∈ after, line.isStatus = false) ∧
    headers = after.filterMap header?

theorem Since.append {lines : List Line} {code : UInt16} {headers : List HttpHeader} {line : Line}
    (since : Since lines code headers) (other : line.isStatus = false) :
    Since (lines ++ [line]) code (headers ++ line.header?.toList) := by
  obtain ⟨before, after, rfl, unbroken, rfl⟩ := since
  refine ⟨before, after ++ [line], by simp, ?_, ?_⟩
  · intro last member
    rcases List.mem_append.mp member with member | member
    · exact unbroken last member
    · rwa [List.mem_singleton.mp member]
  · rw [List.filterMap_append]
    cases said : line.header? <;> simp [said]

end Line

namespace ResponseCollector
variable {c c' : ResponseCollector} {bytes : List UInt8} {stop : Bool × Bool} {memory : Bool}

/-- What a failed call leaves behind. -/
structure Failed (c : ResponseCollector) (error : HttpErrorCode) (c' : ResponseCollector) : Prop where
  failure : c'.failure = some error
  limits : c'.limits = c.limits
  headerBytes : c'.headerBytes = c.headerBytes
  body : c'.body.length ≤ c.body.length

theorem fail_spec {code : HttpErrorCode} {α : Type} {post : α → ResponseCollector → Prop} :
    Triple (· = c) (fail code) post (Failed c) := by
  refine Triple.get_bind fun _ same => ?_
  subst same
  refine Triple.modify_bind fun _ same => ?_
  subst same
  refine Triple.fail fun _ same => ?_
  subst same
  exact ⟨rfl, rfl, rfl, Nat.zero_le _⟩

theorem check_spec {asked : Bool} :
    Triple (· = c) (check asked) (fun _ c' => c' = c ∧ c.failure = none) (Failed c) := by
  refine Triple.get_bind fun _ same => ?_
  subst same
  split
  · rename_i error failed
    refine Triple.fail fun _ same => ?_
    subst same
    exact ⟨failed, rfl, rfl, Nat.le_refl _⟩
  · rename_i sound
    refine Triple.onlyIf (fun _ => fail_spec) fun _ _ same => ?_
    subst same
    exact ⟨rfl, sound⟩

/-- A line is taken in. -/
def take (c : ResponseCollector) : Line → ResponseCollector
  | .status code => { c with status := some code, headersEnded := false, headers := [] }
  | .blank => { c with headersEnded := true }
  | .field name value => { c with headers := c.headers ++ [responseHeader name value] }

theorem statusLine_spec {text : List UInt8} :
    Triple (· = c) (statusLine text)
      (fun _ c' => ∃ code, (Line.status code).Text text ∧ c' = c.take (.status code)) (Failed c) := by
  refine Triple.get_bind fun _ same => ?_
  subst same
  refine Triple.ite (fun _ => fail_spec) fun _ => ?_
  split
  · exact fail_spec
  · rename_i code found
    refine Triple.modify fun _ same => ?_
    subst same
    exact ⟨code, statusOf_iff.mp found, rfl⟩

theorem fieldLine_spec {text : List UInt8} {asked : Bool} :
    Triple (· = c) (fieldLine text asked)
      (fun _ c' => ∃ name value, (Line.field name value).Text text ∧
        c' = c.take (.field name value)) (Failed c) := by
  unfold fieldLine
  split
  · exact fail_spec
  · rename_i name value found
    have written := fieldOf_iff.mp found
    obtain ⟨left, right, -, -, token, -⟩ := written
    obtain ⟨text', readable, rfl⟩ := text_of_token token
    rw [readable]
    refine Triple.modify_bind fun _ same => ?_
    subst same
    refine Triple.weaken check_spec (fun _ same => same) ?_ ?_
    · rintro _ _ ⟨rfl, -⟩
      exact ⟨text', value, fieldOf_iff.mp found, rfl⟩
    · rintro error c' failed
      exact ⟨failed.failure, failed.limits, failed.headerBytes, failed.body⟩

/-- The collector with the bytes of a header counted. -/
def spend (c : ResponseCollector) (bytes : List UInt8) : ResponseCollector :=
  { c with headerBytes := c.headerBytes + bytes.length }

/-- A header call that succeeds has read a line. The first one is a status line. -/
def Takes (c : ResponseCollector) (bytes : List UInt8) (c' : ResponseCollector) : Prop :=
  ∃ line : Line, line.Reads bytes ∧ (c.status = none → line.isStatus) ∧
    c' = (c.spend bytes).take line

def HeaderFits (c : ResponseCollector) (bytes : List UInt8) : Prop :=
  bytes.length ≤ c.limits.maxHeaderBytes - c.headerBytes

theorem counted {step : Collecting Unit} (sound : c.failure = none) (fits : c.HeaderFits bytes)
    (spec : Triple (· = c.spend bytes) step (fun _ => c.Takes bytes) (Failed (c.spend bytes))) :
    Triple (· = c.spend bytes) step
      (fun _ c' => c.failure = none ∧ c.HeaderFits bytes ∧ c.Takes bytes c')
      (fun error c' => Failed c error c' ∨ c.HeaderFits bytes ∧ Failed (c.spend bytes) error c') :=
  spec.weaken (fun _ same => same) (fun _ _ takes => ⟨sound, fits, takes⟩)
    fun _ _ failed => .inr ⟨fits, failed⟩

theorem header_spec :
    Triple (· = c) (header bytes stop)
      (fun _ c' => c.failure = none ∧ c.HeaderFits bytes ∧ c.Takes bytes c')
      (fun error c' => Failed c error c' ∨ c.HeaderFits bytes ∧ Failed (c.spend bytes) error c') := by
  refine Triple.bind (check_spec.weaken (fun _ same => same) (fun _ _ passed => passed)
    fun _ _ failed => .inl failed) fun _ => ?_
  refine Triple.get_bind fun d passed => ?_
  obtain ⟨same, sound⟩ := passed
  subst d
  refine Triple.ite (fun _ => fail_spec.weaken (fun _ same => same) (fun _ _ done => done)
    fun _ _ failed => .inl failed) fun tooLong => ?_
  have fits : c.HeaderFits bytes := Nat.le_of_not_lt tooLong
  -- From here on the bytes are counted.
  refine Triple.modify_bind fun d same => ?_
  subst d
  refine counted sound fits ?_
  cases read : lineOf bytes with
  | none => exact fail_spec
  | some text =>
    obtain ⟨clean, ended⟩ := lineOf_iff.mp read
    refine Triple.ite (fun _ => ?_) fun _ => Triple.ite (fun _ => fail_spec) fun started => ?_
    · refine statusLine_spec.weaken (fun _ same => same) ?_ fun _ _ failed => failed
      rintro _ d ⟨code, written, rfl⟩
      exact ⟨.status code, ⟨text, clean, ended, written⟩, fun _ => rfl, rfl⟩
    have begun (line : Line) (unset : c.status = none) : line.isStatus := by
      simp [unset] at started
    refine Triple.ite (fun empty => ?_) fun _ => Triple.ite (fun _ => fail_spec) fun _ => ?_
    · refine Triple.modify fun _ same => ?_
      subst same
      exact ⟨.blank, ⟨text, clean, ended, List.isEmpty_iff.mp empty⟩, begun _, rfl⟩
    · refine fieldLine_spec.weaken (fun _ same => same) ?_ fun _ _ failed => failed
      rintro _ d ⟨name, value, written, rfl⟩
      exact ⟨.field name value, ⟨text, clean, ended, written⟩, begun _, rfl⟩

def BodyFits (c : ResponseCollector) (bytes : List UInt8) : Prop :=
  bytes.length ≤ c.limits.maxBodyBytes - c.body.length

/-- The collector with a chunk of the body. -/
def extend (c : ResponseCollector) (bytes : List UInt8) : ResponseCollector :=
  { c with body := c.body ++ bytes, reserved := c.reserved || !bytes.isEmpty }

theorem bodyChunk_spec :
    Triple (· = c) (bodyChunk bytes stop memory)
      (fun _ c' => c.failure = none ∧ c.status.isSome ∧ c.BodyFits bytes ∧ c' = c.extend bytes)
      (fun error c' => Failed c error c' ∨ c.BodyFits bytes ∧ Failed (c.extend bytes) error c') := by
  have early {e : HttpErrorCode} {post : Unit → ResponseCollector → Prop} :
      Triple (· = c) (fail e) post (fun error c' => Failed c error c' ∨
        c.BodyFits bytes ∧ Failed (c.extend bytes) error c') :=
    fail_spec.weaken (fun _ same => same) (fun _ _ done => done) fun _ _ failed => .inl failed
  refine Triple.bind (check_spec.weaken (fun _ same => same) (fun _ _ passed => passed)
    fun _ _ failed => .inl failed) fun _ => ?_
  refine Triple.get_bind fun d passed => ?_
  obtain ⟨same, sound⟩ := passed
  subst d
  refine Triple.ite (fun _ => early) fun ready => Triple.ite (fun _ => early) fun tooLong =>
    Triple.ite (fun _ => early) fun _ => ?_
  have fits : c.BodyFits bytes := Nat.le_of_not_lt tooLong
  refine Triple.modify_bind fun d same => ?_
  subst d
  have started : c.status.isSome := by
    cases status : c.status with
    | none => simp [status] at ready
    | some code => rfl
  refine check_spec.weaken (fun _ same => same) ?_ fun _ _ failed => .inr ⟨fits, failed⟩
  rintro _ d ⟨rfl, -⟩
  exact ⟨sound, started, fits, rfl⟩

/-- A response that is handed out is what the collector holds. -/
theorem finish_spec {statusCode : UInt16} {asked : Bool} :
    Triple (· = c) (finish statusCode asked)
      (fun response _ => c.failure = none ∧ c.status = some statusCode ∧ 200 ≤ statusCode ∧
        response = { statusCode, headers := c.headers, body := c.body })
      (Failed c) := by
  refine Triple.bind check_spec fun _ => ?_
  refine Triple.get_bind fun d passed => ?_
  obtain ⟨same, sound⟩ := passed
  subst d
  refine Triple.ite (fun _ => fail_spec) fun ready => ?_
  refine Triple.pure fun _ same => ?_
  simp only [Bool.or_eq_true, Bool.not_eq_true', decide_eq_true_eq, bne_iff_ne, ne_eq, not_or,
    not_not, UInt16.not_lt] at ready
  exact ⟨sound, ready.2, ready.1.2, rfl⟩

/-- Both counters are within the limits. -/
structure Within (limits : HttpResponseLimits) (c : ResponseCollector) : Prop where
  same : c.limits = limits
  header : c.headerBytes ≤ limits.maxHeaderBytes
  body : c.body.length ≤ limits.maxBodyBytes

namespace Within
variable {limits : HttpResponseLimits} {error : HttpErrorCode}

theorem spend (h : c.Within limits) (fits : c.HeaderFits bytes) : (c.spend bytes).Within limits := by
  unfold HeaderFits at fits
  rw [h.same] at fits
  exact ⟨h.same, Nat.add_le_of_le_sub' h.header fits, h.body⟩

theorem extend (h : c.Within limits) (fits : c.BodyFits bytes) : (c.extend bytes).Within limits := by
  unfold BodyFits at fits
  rw [h.same] at fits
  refine ⟨h.same, h.header, ?_⟩
  rw [ResponseCollector.extend, List.length_append]
  exact Nat.add_le_of_le_sub' h.body fits

theorem take (h : c.Within limits) (line : Line) : (c.take line).Within limits := by
  cases line <;> exact ⟨h.same, h.header, h.body⟩

theorem failed (h : c.Within limits) (failed : Failed c error c') : c'.Within limits :=
  ⟨failed.limits.trans h.same, failed.headerBytes ▸ h.header, failed.body.trans h.body⟩

end Within

/-- The collector holds what the lines and the chunks of the body say. -/
structure Holds (s : Collected) (lines : List Line) : Prop where
  read : List.Forall₂ (fun bytes line => Line.Reads bytes line) s.headerChunks lines
  spent : s.collector.headerBytes = (s.headerChunks.map List.length).sum
  body : s.collector.body = s.bodyChunks.flatten
  unset : s.collector.status = none → lines = []
  since : ∀ code, s.collector.status = some code → Line.Since lines code s.collector.headers

/-- What is true of a collector after any calls. -/
structure Sound (limits : HttpResponseLimits) (s : Collected) : Prop where
  within : s.collector.Within limits
  failed : s.failed = s.collector.failure.isSome
  holds : s.failed = false → ∃ lines, Holds s lines

end ResponseCollector

namespace Collected
open ResponseCollector
variable {limits : HttpResponseLimits} {s : Collected}

theorem headerChunks_perform (call : CollectorCall) :
    (s.perform call).headerChunks = s.headerChunks ++ call.headerBytes.toList := by
  simp [headerChunks, perform, List.filterMap_append, List.filterMap_cons]
  cases call.headerBytes <;> rfl

theorem bodyChunks_perform (call : CollectorCall) :
    (s.perform call).bodyChunks = s.bodyChunks ++ call.bodyBytes.toList := by
  simp [bodyChunks, perform, List.filterMap_append, List.filterMap_cons]
  cases call.bodyBytes <;> rfl

theorem holds_header {lines : List Line} {bytes : List UInt8} {stop : Bool × Bool}
    (h : Holds s lines) (takes : s.collector.Takes bytes (s.perform (.header bytes stop)).collector) :
    ∃ lines, Holds (s.perform (.header bytes stop)) lines := by
  obtain ⟨line, reads, first, same⟩ := takes
  have chunks : (s.perform (.header bytes stop)).headerChunks = s.headerChunks ++ [bytes] :=
    headerChunks_perform _
  have kept : (s.perform (.header bytes stop)).bodyChunks = s.bodyChunks := by
    rw [bodyChunks_perform]
    exact List.append_nil _
  refine ⟨lines ++ [line], ?_, ?_, ?_, ?_, ?_⟩
  · rw [chunks]
    exact List.rel_append h.read (.cons reads .nil)
  · have spent : (s.perform (.header bytes stop)).collector.headerBytes =
        s.collector.headerBytes + bytes.length := by
      rw [same]
      cases line <;> rfl
    rw [spent, chunks, h.spent, List.map_append, List.sum_append]
    rfl
  · rw [kept, ← h.body, same]
    cases line <;> rfl
  · intro unset
    rw [same] at unset
    cases line with
    | status code => cases unset
    | blank => cases first unset
    | field name value => cases first unset
  · intro code found
    rw [same] at found ⊢
    cases line with
    | status found' =>
      cases found
      exact ⟨lines, [], rfl, fun _ member => absurd member List.not_mem_nil, rfl⟩
    | blank =>
      simpa [take, spend, Line.header?] using
        (h.since code found).append (show Line.isStatus .blank = false from rfl)
    | field name value => exact (h.since code found).append rfl

theorem holds_body {lines : List Line} {bytes : List UInt8} {stop : Bool × Bool} {memory : Bool}
    (h : Holds s lines)
    (same : (s.perform (.body bytes stop memory)).collector = s.collector.extend bytes) :
    Holds (s.perform (.body bytes stop memory)) lines := by
  have chunks : (s.perform (.body bytes stop memory)).headerChunks = s.headerChunks := by
    rw [headerChunks_perform]
    exact List.append_nil _
  refine ⟨by rw [chunks]; exact h.read, ?_, ?_, ?_, ?_⟩
  · rw [chunks, ← h.spent, same]
    rfl
  · rw [bodyChunks_perform, List.flatten_append, ← h.body, same]
    simp [CollectorCall.bodyBytes, extend]
  · rw [same]
    exact h.unset
  · rw [same]
    exact h.since

/-- A call that succeeds keeps what the collector holds. One that fails leaves its error. -/
theorem perform_outcome (within : s.collector.Within limits) (call : CollectorCall) :
    (s.perform call).collector.Within limits ∧
      (((call.perform s.collector).1 = .ok () ∧ s.collector.failure = none ∧
          (s.perform call).collector.failure = none ∧
          ∀ lines, Holds s lines → ∃ lines, Holds (s.perform call) lines) ∨
        ∃ error, (call.perform s.collector).1 = .error error ∧
          (s.perform call).collector.failure = some error) := by
  cases call with
  | header bytes stop =>
    have spec := (header_spec : Triple (· = s.collector) (header bytes stop) _ _) s.collector rfl
    cases answer : (header bytes stop s.collector).1 with
    | ok value =>
      obtain ⟨sound, fits, takes⟩ := spec.1 value answer
      obtain ⟨line, -, -, same⟩ := id takes
      refine ⟨?_, .inl ⟨answer, sound, ?_, fun lines held => holds_header held takes⟩⟩
      · change (header bytes stop s.collector).2.Within limits
        rw [same]
        exact (within.spend fits).take line
      · change (header bytes stop s.collector).2.failure = none
        rw [same]
        cases line <;> exact sound
    | error error =>
      rcases spec.2 error answer with failed | ⟨fits, failed⟩
      · exact ⟨within.failed failed, .inr ⟨error, answer, failed.failure⟩⟩
      · exact ⟨(within.spend fits).failed failed, .inr ⟨error, answer, failed.failure⟩⟩
  | body bytes stop memory =>
    have spec := (bodyChunk_spec : Triple (· = s.collector) (bodyChunk bytes stop memory) _ _)
      s.collector rfl
    cases answer : (bodyChunk bytes stop memory s.collector).1 with
    | ok value =>
      obtain ⟨sound, started, fits, same⟩ := spec.1 value answer
      refine ⟨?_, .inl ⟨answer, sound, ?_, fun lines held => ⟨lines, holds_body held same⟩⟩⟩
      · change (bodyChunk bytes stop memory s.collector).2.Within limits
        rw [same]
        exact within.extend fits
      · change (bodyChunk bytes stop memory s.collector).2.failure = none
        rw [same]
        exact sound
    | error error =>
      rcases spec.2 error answer with failed | ⟨fits, failed⟩
      · exact ⟨within.failed failed, .inr ⟨error, answer, failed.failure⟩⟩
      · exact ⟨(within.extend fits).failed failed, .inr ⟨error, answer, failed.failure⟩⟩

theorem perform_sound (h : Sound limits s) (call : CollectorCall) : Sound limits (s.perform call) := by
  obtain ⟨within, ⟨ok, before, after, holds⟩ | ⟨error, failed, after⟩⟩ :=
    perform_outcome h.within call
  · refine ⟨within, ?_, fun _ => ?_⟩
    · rw [after, perform, ok, h.failed, before]
      rfl
    · obtain ⟨lines, held⟩ := h.holds (by rw [h.failed, before]; rfl)
      exact holds lines held
  · have failed' : (s.perform call).failed = true := by
      rw [perform, failed]
      exact Bool.or_true _
    refine ⟨within, by rw [failed', after]; rfl, fun sound => ?_⟩
    rw [failed'] at sound
    cases sound

theorem new_sound {c : ResponseCollector} (created : ResponseCollector.new limits = .ok c) :
    Sound limits { collector := c } := by
  unfold ResponseCollector.new at created
  split at created
  · cases created
    refine ⟨⟨rfl, Nat.zero_le _, Nat.zero_le _⟩, rfl, fun _ => ⟨[], .nil, rfl, rfl, fun _ => rfl, ?_⟩⟩
    intro code unset
    cases unset
  · cases created

/-- A response is handed out only for calls that all succeeded. Its headers are the fields since
the last status line, its body is all that came, and neither limit was passed. A failure stays. -/
theorem response_exact {c : ResponseCollector} (created : ResponseCollector.new limits = .ok c)
    (run : Run perform (fun _ _ => True) { collector := c } s) :
    (s.collector.headerBytes ≤ limits.maxHeaderBytes ∧
      s.collector.body.length ≤ limits.maxBodyBytes) ∧
    (∀ statusCode stop response, (finish statusCode stop s.collector).1 = .ok response →
      s.failed = false ∧ 200 ≤ response.statusCode ∧ response.statusCode = statusCode ∧
      response.body = s.bodyChunks.flatten ∧ response.body.length ≤ limits.maxBodyBytes ∧
      (s.headerChunks.map List.length).sum ≤ limits.maxHeaderBytes ∧
      ∃ lines, List.Forall₂ (fun bytes line => Line.Reads bytes line) s.headerChunks lines ∧
        Line.Since lines response.statusCode response.headers) ∧
    (s.failed = true →
      (∀ call, (s.perform call).failed = true ∧
        ∃ error, (call.perform s.collector).1 = .error error) ∧
      ∀ statusCode stop, ∃ error, (finish statusCode stop s.collector).1 = .error error) := by
  have sound : Sound limits s :=
    run.invariant (fun _ call _ kept => perform_sound kept call) (new_sound created)
  have within := sound.within
  refine ⟨⟨within.header, within.body⟩, fun statusCode stop response answer => ?_, fun failed => ?_⟩
  · have spec := (finish_spec : Triple (· = s.collector) (finish statusCode stop) _ _) s.collector rfl
    obtain ⟨unfailed, status, final, rfl⟩ := spec.1 response answer
    have clean : s.failed = false := by rw [sound.failed, unfailed]; rfl
    obtain ⟨lines, held⟩ := sound.holds clean
    exact ⟨clean, final, rfl, held.body, within.body, held.spent ▸ within.header, lines, held.read,
      held.since statusCode status⟩
  · have remembered : s.collector.failure ≠ none := by
      intro none
      rw [sound.failed, none] at failed
      cases failed
    refine ⟨fun call => ?_, fun statusCode stop => ?_⟩
    · obtain ⟨-, ⟨-, unfailed, -⟩ | ⟨error, fails, -⟩⟩ := perform_outcome within call
      · exact absurd unfailed remembered
      · exact ⟨by rw [perform, failed]; rfl, error, fails⟩
    · have spec := (finish_spec : Triple (· = s.collector) (finish statusCode stop) _ _) s.collector rfl
      cases answer : (finish statusCode stop s.collector).1 with
      | ok response => exact absurd (spec.1 response answer).1 remembered
      | error error => exact ⟨error, rfl⟩

def sampleLimits : HttpResponseLimits := { maxHeaderBytes := 64, maxBodyBytes := 8 }

/-- An interim response comes first, and a trailer last. -/
def sampleCalls : List CollectorCall :=
  [.header (utf8 "HTTP/1.1 100 Continue\r\n") (false, false), .header (utf8 "\r\n") (false, false),
    .header (utf8 "HTTP/2 200\r\n") (false, false), .header (utf8 "Date: x\r\n") (false, false),
    .header (utf8 "\r\n") (false, false), .body (utf8 "ab") (false, false) true,
    .body (utf8 "c") (false, false) true, .header (utf8 "T:1\n") (false, false)]

def sampleCollected : Collected := sampleCalls.foldl perform { collector := { limits := sampleLimits } }

theorem response_exact_sample : ∃ response,
    (finish 200 false sampleCollected.collector).1 = .ok response ∧ response.body = utf8 "abc" ∧
      ∃ lines, List.Forall₂ (fun bytes line => Line.Reads bytes line) sampleCollected.headerChunks lines ∧
        Line.Since lines 200 response.headers := by
  have run : Run perform (fun _ _ => True) { collector := { limits := sampleLimits } } sampleCollected :=
    Run.of_list perform _ sampleCalls fun _ _ _ => trivial
  have created : ResponseCollector.new sampleLimits = .ok { limits := sampleLimits } := rfl
  have answered : (finish 200 false sampleCollected.collector).1.toOption.isSome = true := by
    decide +kernel
  have body : sampleCollected.bodyChunks.flatten = utf8 "abc" := by decide +kernel
  cases answer : (finish 200 false sampleCollected.collector).1 with
  | error error =>
    rw [answer] at answered
    cases answered
  | ok response =>
    obtain ⟨-, -, code, whole, -, -, lines, read, since⟩ :=
      (response_exact created run).2.1 200 false response answer
    rw [code] at since
    exact ⟨response, rfl, whole.trans body, lines, read, since⟩

end Collected
end MannyUploader.Http
