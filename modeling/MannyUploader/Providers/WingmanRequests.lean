import MannyUploader.Providers.RequestRules
import MannyUploader.Providers.WingmanClient

/-! The requests of the Wingman client pass the check in front of HTTP. -/
namespace MannyUploader.Providers
open Domain Application Foundation Dialogue Client

theorem visible_of_token {byte : UInt8} (token : isHttpTokenByte byte = true) :
    0x20 ≤ byte ∧ byte ≤ 0x7e := by
  have marks : ∀ byte ∈ ([33, 35, 36, 37, 38, 39, 42, 43, 45, 46, 94, 95, 96, 124, 126] : List UInt8),
      0x20 ≤ byte ∧ byte ≤ 0x7e := by decide +kernel
  rcases Bool.or_eq_true _ _ ▸ token with plain | mark
  · exact visible_of_letterOrDigit plain
  · exact marks byte (List.contains_iff_mem.mp mark)

/-- A form that could be made. -/
structure Formed (form : Http.MultipartFormData) : Prop where
  contentType : Short 116 (.ofText "Content-Type" form.contentType)
  nonempty : 1 ≤ HttpBodySource.contentLength form.body
  short : HttpBodySource.contentLength form.body ≤ maxHttpRequestBodyBytes

theorem formed_of_boundary {parts : List Http.MultipartPart} {boundary : String}
    {form : Http.MultipartFormData} (made : Http.withBoundary parts boundary = .ok form) :
    Formed form := by
  obtain ⟨_, -, made⟩ := bind_ok made
  split at made
  · contradiction
  next valid =>
    simp only [Http.maxMultipartBoundaryBytes, Bool.or_eq_true, decide_eq_true_eq,
      Bool.not_eq_true', not_or, Bool.not_eq_false, Nat.not_lt, gt_iff_lt] at valid
    obtain ⟨segments, appended, made⟩ := bind_ok made
    obtain ⟨closing, closed, made⟩ := bind_ok made
    obtain ⟨body, ended, made⟩ := bind_ok made
    cases made
    obtain rfl := Http.exactLength_ok closed
    have before : HttpBodySource.contentLength segments ≤ maxHttpRequestBodyBytes :=
      foldlM_ok (fun segments => HttpBodySource.contentLength segments ≤ maxHttpRequestBodyBytes)
        (fun _ _ _ => Http.appendPart_total) (by decide) appended
    obtain ⟨total, short⟩ := Http.appendSegment_total ended
    refine ⟨?_, ?_, short before⟩
    · apply short_value
      · decide
      · rw [utf8_append]
        apply Visible.append
        · exact visible_of_all (by decide)
        · exact fun byte member => visible_of_token (List.all_eq_true.mp valid.2 byte member)
      · rw [utf8_append, List.length_append]
        exact Nat.add_le_add_right (Nat.add_le_add_left (Nat.add_le_add_left valid.1.2 30) 12) 4
      · decide
    · rw [total]
      apply Nat.le_add_left_of_le
      rw [HttpBodySegment.contentLength, utf8_append, utf8_append, List.length_append]
      exact Nat.le_add_left_of_le (by decide)

/-! Texts that are encoded for a URL. -/

theorem urlByte_of_unreserved {byte : UInt8} (plain : TwitchClient.isUnreserved byte = true) :
    validUrlByte byte = true := by
  rcases Bool.or_eq_true _ _ ▸ plain with plain | mark
  · exact urlByte_of_letterOrDigit plain
  · have marks : ∀ byte ∈ utf8 "-_.~", validUrlByte byte = true := by decide +kernel
    exact marks byte (List.contains_iff_mem.mp mark)

theorem urlByte_of_form {byte encoded : UInt8} (member : encoded ∈ TwitchClient.formByte byte) :
    validUrlByte encoded = true := by
  have digits : ∀ digit : Fin 16,
      validUrlByte (TwitchClient.upperHexDigit (UInt8.ofNat digit.1)) = true := by decide
  have hex (digit : UInt8) (small : digit.toNat < 16) :
      validUrlByte (TwitchClient.upperHexDigit digit) = true := by
    simpa using digits ⟨digit.toNat, small⟩
  unfold TwitchClient.formByte at member
  split at member
  next plain =>
    rw [List.mem_singleton] at member
    exact member ▸ urlByte_of_unreserved plain
  · simp only [List.mem_cons, List.not_mem_nil, or_false] at member
    obtain rfl | rfl | rfl := member
    · decide
    · apply hex
      have bound := byte.toNat_lt
      simp
      omega
    · apply hex
      simp
      omega

namespace WingmanClient
variable {client : WingmanClient} {readers : WingmanResponse.Readers} {file : LogFileIdentity}
  {metadata : EncounterMetadata} {rounds : Nat} {past : Calls}

/-- A client that one of the constructors has made. -/
def Built (client : WingmanClient) : Prop :=
  client = standard ∨ ∃ url polling, withOptions url polling = .ok client

theorem Built.url (built : Built client) :
    (validateHttpUrl client.uploadUrl .httpsOnly).isOk = true := by
  obtain rfl | ⟨url, polling, made⟩ := built
  · decide
  · unfold withOptions at made
    split at made
    · contradiction
    next valid =>
      cases made
      simp only [Bool.or_eq_true, Bool.not_eq_true', not_or, Bool.not_eq_false] at valid
      exact valid.1.1.1.1.1.1.2

/-- A request to a known URL, with headers and a time of its own. -/
theorem passes_jsonRequest {method : HttpMethod} {url : String} {headers : List HttpHeader}
    {body : Option HttpBodySource} {operation stalled : Duration} (bounds : List Nat)
    (valid : (validateHttpUrl url .httpsOnly).isOk = true)
    (each : List.Forall₂ Short bounds headers) (few : bounds.length ≤ 10 ∧ bounds.sum ≤ 2000)
    (sent : body.all (validBody method) = true)
    (timely : (1_000_000 ≤ operation ∧ operation ≤ Duration.fromSecs 900) ∧
      Duration.fromSecs 1 ≤ stalled ∧ stalled ≤ Duration.fromSecs 900) :
    Passes { jsonRequest method url with
      headers := .ofText "Accept" "application/json" :: headers
      body
      timeouts := { connect := Duration.fromSecs 10, operation, stalledTransfer := stalled } } := by
  apply passes_of (26 :: bounds)
  · exact valid
  · exact .cons ⟨by decide, by decide⟩ each
  · simp only [List.length_cons, List.sum_cons]
    exact ⟨(Nat.add_le_add_right few.1 1).trans (by decide),
      (Nat.add_le_add_left few.2 26).trans (by decide)⟩
  · exact sent
  · refine ⟨?_, rfl⟩
    simp only [HttpTimeouts.valid, Bool.and_eq_true, decide_eq_true_eq]
    exact ⟨⟨⟨⟨⟨by decide, by decide⟩, timely.1.1⟩, timely.1.2⟩, timely.2.1⟩, timely.2.2⟩

theorem passes_upload (built : Built client) {form : Http.MultipartFormData}
    (formed : Formed form) : Passes (uploadRequest client.uploadUrl form) := by
  apply passes_jsonRequest [116] built.url
  · exact .cons formed.contentType .nil
  · decide
  · simp [validBody, formed.nonempty, formed.short]
  · decide

/-- The time of a poll is at least a millisecond, and no more than the minute of any request. -/
theorem careful_pollRequest {α : Type} {method : HttpMethod} {url : String} {deadline : Instant}
    {next : Option HttpRequest → Client WingmanError α}
    (later : ∀ past operation, 1_000_000 ≤ operation ∧ operation ≤ Duration.fromSecs 900 →
      Careful past (next (some { jsonRequest method url with
        timeouts := { (jsonRequest method url).timeouts with operation } })))
    (none : ∀ past, Careful past (next none)) :
    Careful past (pollRequest method url deadline >>= next) := by
  refine ⟨trivial, fun now => ?_⟩
  change Careful _ (ite _ _ _ >>= next)
  split
  · exact none _
  next remaining =>
    apply later
    constructor
    · have minute : 1_000_000 ≤ Duration.fromSecs 60 := by decide
      exact Nat.le_min.mpr ⟨minute, Nat.not_lt.mp remaining⟩
    · have minute : Duration.fromSecs 60 ≤ Duration.fromSecs 900 := by decide
      exact (Nat.min_le_left _ _).trans minute

theorem validUrl_ticket (ticket : UInt64) :
    (validateHttpUrl (wingmanTicketUrl ++ toString ticket) .httpsOnly).isOk = true := by
  apply validateHttpUrl_append _
    (show utf8 wingmanTicketUrl = utf8 "https://" ++ utf8 "evtc.bel.st/status/" by decide)
  · exact httpAuthority_append (by decide)
  · exact urlBytes_digits ticket.toNat
  · exact (Nat.add_le_add_left (length_digits ticket) _).trans (by decide)
  · decide

theorem careful_deadline {duration : Duration} : Careful past (deadline duration) := by
  refine ⟨trivial, fun now => ?_⟩
  simp only [Dialogue.bind]
  split <;> trivial

theorem careful_waitFor {deadline : Instant} {interval : Duration} :
    Careful past (wait deadline interval) := by
  apply (Careful.refuseStop _).bind
  intro past _
  refine ⟨trivial, fun now => ?_⟩
  apply Careful.ite
  · exact fun _ => trivial
  intro _
  refine ⟨trivial, fun (interrupted : Bool) => ?_⟩
  change Careful _ (ite (interrupted = true) _ _)
  apply Careful.ite
  · exact fun _ => trivial
  intro _
  apply (Careful.refuseStop _).bind
  exact fun _ _ => ⟨trivial, fun _ => trivial⟩

theorem stalled_bounds : Duration.fromSecs 1 ≤ Duration.fromSecs 30 ∧
    Duration.fromSecs 30 ≤ Duration.fromSecs 900 := by decide

theorem careful_pollRounds {ticket : UInt64} {deadline : Instant} :
    Careful past (pollRounds client readers ticket deadline rounds) := by
  induction rounds generalizing past with
  | zero => trivial
  | succ rounds ih =>
    apply careful_waitFor.bind
    intro past more
    apply Careful.ite
    · exact fun _ => trivial
    intro _
    apply careful_pollRequest
    · intro past operation timely
      apply Careful.bind
      · exact Careful.execute fun _ => passes_jsonRequest [] (validUrl_ticket ticket) .nil (by decide)
          rfl ⟨timely, stalled_bounds⟩
      intro past reply
      apply Careful.ofExcept_bind
      intro through _
      exact Careful.ite (fun _ => trivial) fun _ => ih
    · exact fun _ => trivial

theorem passes_check {text : List UInt8} {operation : Duration} {source : HttpBodySource}
    (timely : 1_000_000 ≤ operation ∧ operation ≤ Duration.fromSecs 900)
    (made : memory (utf8 "file=" ++ text) = .ok source) :
    Passes { jsonRequest .post wingmanCheckUploadUrl with
      headers := [.ofText "Accept" "application/json",
        .ofText "Content-Type" "application/x-www-form-urlencoded"]
      body := some source
      timeouts := { (jsonRequest .post wingmanCheckUploadUrl).timeouts with operation } } := by
  unfold memory at made
  split at made
  · contradiction
  next memory =>
    cases made
    obtain ⟨rfl, short⟩ := memoryBody_spec memory
    apply passes_jsonRequest [49]
    · decide
    · exact .cons ⟨by decide, by decide⟩ .nil
    · decide
    · exact validBody_memory nofun (List.append_ne_nil_of_left_ne_nil (by decide) _) short
    · exact ⟨timely, by decide⟩

theorem careful_findRounds {deadline : Instant} :
    Careful past (findRounds client readers file metadata deadline rounds) := by
  induction rounds generalizing past with
  | zero => trivial
  | succ rounds ih =>
    refine ⟨trivial, fun now => ?_⟩
    apply Careful.ite
    · exact fun _ => trivial
    intro _
    apply careful_pollRequest
    · intro past operation timely
      apply Careful.ofExcept_bind
      intro source made
      apply Careful.bind
      · apply Careful.execute
        intro _
        rw [checkText] at made
        simp only [List.append_assoc] at made
        exact passes_check timely made
      intro past reply
      apply Careful.ofExcept_bind
      intro found _
      cases found with
      | some permalink => trivial
      | none =>
        apply careful_waitFor.bind
        exact fun past more => Careful.ite (fun _ => ih) fun _ => trivial
    · exact fun _ => trivial

theorem careful_findPermalink :
    Careful past (findPermalink client readers rounds file metadata) := by
  apply careful_deadline.bind
  intro past deadline
  apply careful_findRounds.bind
  intro past found
  cases found with
  | some permalink => trivial
  | none => exact (Careful.refuseStop _).bind fun _ _ => trivial

theorem careful_multipart {α : Type} {parts : List Http.MultipartPart}
    {next : Http.MultipartFormData → Client WingmanError α}
    (later : ∀ past form, Formed form → Careful past (next form)) :
    Careful past (multipart parts >>= next) := by
  unfold multipart
  split
  · trivial
  refine ⟨trivial, fun answer => ?_⟩
  cases answer with
  | none => trivial
  | some bytes =>
    dsimp only
    split
    · trivial
    next form made => exact later _ form (formed_of_boundary made)

theorem careful_upload (built : Built client) :
    Careful past (upload client readers rounds file metadata) := by
  apply Careful.catchUnwind
  apply (Careful.refuseStop _).bind
  intro past _
  apply Careful.ite
  · exact fun _ => trivial
  intro _
  apply Careful.bind
  · exact Careful.ite (fun _ => trivial) fun _ => ⟨trivial, fun opened => by cases opened <;> trivial⟩
  intro past _
  apply careful_multipart
  intro past form formed
  apply Careful.bind
  · exact Careful.execute fun _ => passes_upload built formed
  intro past reply
  apply Careful.ofExcept_bind
  intro uploaded _
  cases uploaded with
  | done => trivial
  | duplicate => exact careful_findPermalink.bind fun _ _ => trivial
  | ticket ticket =>
    apply Careful.bind
    · exact careful_deadline.bind fun _ _ => careful_pollRounds
    · exact fun _ _ => careful_findPermalink.bind fun _ _ => trivial

theorem urlByte_of_percent {bytes : List UInt8} {byte : UInt8}
    (member : byte ∈ bytes.flatMap TwitchClient.formByte) : validUrlByte byte = true := by
  obtain ⟨source, -, encoded⟩ := List.mem_flatMap.mp member
  exact urlByte_of_form encoded

theorem utf8_percentEncode (value : String) :
    utf8 (percentEncode value) = (utf8 value).flatMap TwitchClient.formByte := by
  rw [percentEncode, utf8_of_ascii]
  intro byte member
  have seen := urlByte_of_percent member
  simp only [validUrlByte, Bool.and_eq_true, decide_eq_true_eq] at seen
  exact seen.1.2

/-- The check of the length keeps both URLs of an import within their limit. -/
theorem validUrl_import {head permalink : String} {rest : List UInt8}
    (ok : (validateHttpUrl head .httpsOnly).isOk = true)
    (shape : utf8 head = utf8 "https://" ++ rest) (slash : 47 ∈ rest)
    (short : (utf8 head).length + (utf8 (percentEncode permalink)).length ≤ maxHttpUrlBytes) :
    (validateHttpUrl (head ++ percentEncode permalink) .httpsOnly).isOk = true := by
  apply validateHttpUrl_append ok shape
  · exact httpAuthority_append slash
  · rw [utf8_percentEncode, List.all_eq_true]
    exact fun byte member => urlByte_of_percent member
  · exact short

theorem careful_importPermalink {permalink : String} :
    Careful past (importPermalink readers permalink) := by
  apply Careful.catchUnwind
  apply (Careful.refuseStop _).bind
  intro past _
  apply Careful.ite
  · exact fun _ => trivial
  intro _
  apply Careful.ite
  · exact fun _ => trivial
  intro short
  rw [Nat.not_lt, Nat.add_comm] at short
  apply Careful.bind
  · apply Careful.execute
    intro _
    apply passes_jsonRequest [] _ .nil (by decide) rfl (by decide)
    apply validUrl_import _ (show utf8 wingmanImportUrl = utf8 "https://" ++
      utf8 "gw2wingman.nevermindcreations.de/api/importLogQueued?link=" by decide)
    · decide
    · exact (Nat.add_le_add_right (Nat.le_max_left _ _) _).trans short
    · decide
  intro past reply
  apply Careful.ofExcept_bind
  intro queued _
  apply Careful.bind
  · apply Careful.execute
    intro _
    apply passes_jsonRequest [] _ .nil (by decide) rfl (by decide)
    apply validUrl_import _ (show utf8 wingmanCheckImportUrl = utf8 "https://" ++
      utf8 "gw2wingman.nevermindcreations.de/api/checkLogQueuedOrDB?link=" by decide)
    · decide
    · exact (Nat.add_le_add_right (Nat.le_max_right _ _) _).trans short
    · decide
  · exact fun _ _ => Careful.ofExcept _

end WingmanClient
end MannyUploader.Providers
