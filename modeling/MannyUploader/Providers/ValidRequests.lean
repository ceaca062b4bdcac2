import MannyUploader.Providers.ChatDeliveryLaws
import MannyUploader.Providers.DonBotRequests
import MannyUploader.Providers.WingmanRequests

/-! The requests of the Twitch client pass the check in front of HTTP, except for those that
carry a long token behind the name of its scheme. -/
namespace MannyUploader.Providers
open Domain Application Foundation Dialogue Client

namespace TwitchClient
variable {readers : TwitchResponse.Readers} {past : Calls} {token : SecretValue}

theorem careful_run {α : Type} {operation : TwitchOperation} {body : String → Client TwitchError α}
    (inside : ∀ past id, (Sane past → validTwitchClientId id = true) → Careful past (body id)) :
    Careful past (run operation body) := by
  apply Careful.catchUnwind
  apply (Careful.refuseStop _).bind
  intro past _
  refine ⟨trivial, fun (answer : Option String) => ?_⟩
  cases answer with
  | none => trivial
  | some id =>
    change Careful _ (ite (id = "") _ _)
    apply Careful.ite
    · exact fun _ => trivial
    intro named
    apply inside
    intro sane
    exact (sane id (List.mem_append_right _ (List.mem_singleton_self _))).resolve_left named

theorem form_ne_nil {field : String × List UInt8} {fields : List (String × List UInt8)} :
    form (field :: fields) ≠ [] := by
  cases fields <;> simp [form]

theorem careful_post {url : String} {field : String × List UInt8}
    {fields : List (String × List UInt8)} {operation : TwitchOperation}
    (valid : (validateHttpUrl url .httpsOnly).isOk = true) :
    Careful past (post url (field :: fields) operation) := by
  apply Careful.ofExcept_bind
  intro source made
  apply Careful.execute
  intro _
  unfold body at made
  split at made
  · contradiction
  next memory =>
    cases made
    obtain ⟨rfl, short⟩ := memoryBody_spec memory
    apply passes_of [26, 49] valid
    · exact .cons ⟨by decide, by decide⟩ (.cons ⟨by decide, by decide⟩ .nil)
    · decide
    · exact validBody_memory nofun form_ne_nil short
    · exact ⟨rfl, rfl⟩

theorem careful_start : Careful past (startDeviceAuthorization readers) := by
  apply careful_run
  intro past id _
  apply (careful_post (by decide)).bind
  exact fun _ _ => Careful.ofExcept_bind fun _ _ => Careful.ofExcept _

theorem careful_poll {code : SecretValue} : Careful past (pollDeviceAuthorization readers code) := by
  apply careful_run
  intro past id _
  apply Careful.ofExcept_bind
  intro _ _
  apply (careful_post (by decide)).bind
  exact fun _ _ => Careful.ite (fun _ => trivial) fun _ =>
    Careful.ofExcept_bind fun _ _ => Careful.ofExcept _

theorem careful_refresh : Careful past (refreshAccessToken readers token) := by
  apply careful_run
  intro past id _
  apply Careful.ofExcept_bind
  intro _ _
  apply (careful_post (by decide)).bind
  exact fun _ _ => Careful.ofExcept_bind fun _ _ => Careful.ofExcept _

theorem careful_revoke : Careful past (revokeAccessToken token) := by
  apply careful_run
  intro past id _
  apply Careful.ofExcept_bind
  intro _ _
  apply (careful_post (by decide)).bind
  exact fun _ _ => Careful.ofExcept _

theorem requireToken_ok {operation : TwitchOperation} {value : Unit}
    (ok : requireToken token operation = .ok value) : validTwitchToken token = true := by
  unfold requireToken at ok
  split at ok
  next valid => exact valid
  · contradiction

/-- With its scheme in front, the token still has to fit into a header. -/
theorem short_authorization {scheme : String} (seen : Visible (utf8 scheme))
    (valid : validTwitchToken token = true)
    (short : (utf8 scheme).length + token.length ≤ maxHttpHeaderValueBytes) :
    Short 8209 (authorization scheme token) := by
  simp only [validTwitchToken, Bool.and_eq_true, decide_eq_true_eq, List.all_eq_true] at valid
  constructor
  · apply validHeader_value
    · decide
    · rwa [List.length_append]
    · apply seen.append
      intro byte member
      exact ⟨UInt8.le_trans (by decide) (valid.2 byte member).1, (valid.2 byte member).2⟩
  · simp only [headerLength, authorization, HttpHeader.sensitive, List.length_append]
    exact Nat.add_le_add_right (Nat.add_le_add_left short 13) 4

/-- A token of which the header does not get too long. -/
def Headed (scheme : String) (token : SecretValue) : Prop :=
  (utf8 scheme).length + token.length ≤ maxHttpHeaderValueBytes

def validateRequest (token : SecretValue) : HttpRequest :=
  request .get validateUrl [
    .ofText "Accept" "application/json", authorization "OAuth " token] none

theorem careful_validate (fits : validTwitchToken token = true → Headed "OAuth " token) :
    Careful past (validateAccessToken readers token) := by
  apply careful_run
  intro past id _
  apply Careful.ofExcept_bind
  intro _ required
  have valid := requireToken_ok required
  apply Careful.bind
  · apply Careful.execute
    intro _
    apply passes_of [26, 8209]
    · exact (by decide : (validateHttpUrl validateUrl .httpsOnly).isOk = true)
    · exact .cons ⟨by decide, by decide⟩
        (.cons (short_authorization (visible_of_all (by decide)) valid (fits valid)) .nil)
    · decide
    · rfl
    · exact ⟨rfl, rfl⟩
  · exact fun _ _ => Careful.ofExcept_bind fun _ _ => Careful.ofExcept _

theorem short_clientId {id : String} (valid : validTwitchClientId id = true) :
    Short 141 (.ofText "Client-Id" id) := by
  simp only [validTwitchClientId, Bool.and_eq_true, decide_eq_true_eq, List.all_eq_true] at valid
  apply short_value
  · decide
  · intro byte member
    apply visible_of_letterOrDigit
    have plain := valid.2 byte member
    simp only [isLetterOrDigit, Path.asciiAlphabetic, Application.isAsciiDigit, isAsciiLowercase,
      Domain.isAsciiDigit] at plain ⊢
    simp only [Bool.or_eq_true] at plain ⊢
    rcases plain with letter | digit
    · exact .inl (.inr letter)
    · exact .inr digit
  · exact Nat.add_le_add_right (Nat.add_le_add_left valid.1.2 9) 4
  · decide

/-- What the chat takes, token included. -/
def Accepted (userId message : String) (token : SecretValue) : Prop :=
  validTwitchToken token = true ∧ validTwitchUserId userId = true ∧ validMessage message = true

theorem careful_chat {userId message : String}
    (fits : Accepted userId message token → Headed "Bearer " token) :
    Careful past (sendChatMessage readers userId message token) := by
  apply careful_run
  intro past id named
  apply Careful.ofExcept_bind
  intro _ required
  have valid := requireToken_ok required
  apply Careful.ite
  · exact fun _ => trivial
  intro worded
  simp only [Bool.or_eq_true, Bool.not_eq_true', not_or, Bool.not_eq_false] at worded
  have headed := fits ⟨valid, worded.1, worded.2⟩
  apply Careful.ofExcept_bind
  intro source made
  apply Careful.bind
  · apply Careful.execute
    intro sane
    unfold body at made
    split at made
    · contradiction
    next memory =>
      cases made
      obtain ⟨rfl, short⟩ := memoryBody_spec memory
      apply passes_of [26, 141, 36, 8209]
      · exact (by decide : (validateHttpUrl chatUrl .httpsOnly).isOk = true)
      · exact .cons ⟨by decide, by decide⟩ (.cons (short_clientId (named sane))
          (.cons DonBotClient.short_json (.cons
            (short_authorization (visible_of_all (by decide)) valid headed) .nil)))
      · decide
      · exact validBody_memory nofun (readers.printer.filled _) short
      · exact ⟨rfl, rfl⟩
  · exact fun _ _ => Careful.ofExcept_bind fun _ _ => Careful.ofExcept _

/-! The two requests that do not pass. -/

theorem not_passes_authorization {request : HttpRequest} {scheme : String}
    (member : authorization scheme token ∈ request.headers) (long : ¬Headed scheme token) :
    ¬Passes request := by
  intro passes
  have headers := (validateHttpRequest_isOk.mp passes).2.2.1
  have valid := valid_of_validHeaders headers member
  simp only [validHeader, Bool.and_eq_true, decide_eq_true_eq] at valid
  apply long
  rw [Headed, ← List.length_append]
  exact valid.1.1.1.2

def givenClientId : Calls :=
  [⟨.stopRequested, false⟩, ⟨.clientId, some "a"⟩, ⟨.stopRequested, false⟩]

theorem sane_givenClientId : Sane givenClientId := by
  intro id member
  rcases List.mem_cons.mp member with same | member
  · cases same
  rcases List.mem_cons.mp member with same | member
  · cases same
    exact .inr (by decide)
  · rw [List.mem_singleton] at member
    cases member

/-- A body that starts with a request makes it as soon as the client id is known. -/
theorem reaches_request {α : Type} {operation : TwitchOperation} {request : HttpRequest}
    {body : String → Client TwitchError α} {next : Application.HttpResponse → Client TwitchError α}
    (begins : body "a" = execute request operation >>= next) :
    ∃ next, Reaches (run operation body) givenClientId (.ask (.execute request) next) := by
  have caught {first : Client TwitchError α} {rest : Call.Answer (.execute request) → _}
      (inside : Reaches first givenClientId (.ask (.execute request) rest)) :
      ∃ next, Reaches (catchUnwind (.failed operation .internal) first) givenClientId
        (.ask (.execute request) next) := ⟨_, inside.settle⟩
  apply caught
  apply Reaches.cons
  apply Reaches.cons
  change Reaches (body "a") _ _
  rw [begins]
  apply Reaches.cons
  exact .nil

theorem requireToken_valid {operation : TwitchOperation} (valid : validTwitchToken token = true) :
    requireToken token operation = .ok () := by
  rw [requireToken, if_pos valid]

theorem reaches_validate (readers : TwitchResponse.Readers) (valid : validTwitchToken token = true) : ∃ next,
    Reaches (validateAccessToken readers token) givenClientId
      (.ask (.execute (validateRequest token)) next) := by
  apply reaches_request
  rw [requireToken_valid valid]
  rfl

/-- A message within its limits fits into a body. -/
theorem body_chat (printer : Json.Printer) {userId message : String} (user : validTwitchUserId userId = true)
    (worded : validMessage message = true) :
    body (chatBody printer userId message) .sendChat =
      .ok [.memory (chatBody printer userId message)] := by
  have names : (Json.bytes "broadcaster_id").length = 14 ∧ (Json.bytes "sender_id").length = 9 ∧
      (Json.bytes "message").length = 7 := by decide
  simp only [validTwitchUserId, Bool.and_eq_true, decide_eq_true_eq] at user
  simp only [validMessage, Bool.and_eq_true, decide_eq_true_eq] at worded
  have userShort : (Json.bytes userId).length ≤ 20 := user.1.1.1.2
  have messageShort : (Json.bytes message).length ≤ 2000 := worded.1.1.2
  have short : ¬(chatBody printer userId message).length > maxHttpRequestBodyBytes := by
    have bounded := printer.bounded (.object [("broadcaster_id", .string userId),
      ("sender_id", .string userId), ("message", .string message)])
    rw [← chatBody] at bounded
    simp only [Json.bound, Json.boundMembers] at bounded
    rw [maxHttpRequestBodyBytes]
    omega
  rw [body, memoryBody, if_neg short]

theorem reaches_chat (readers : TwitchResponse.Readers) {userId message : String}
    (accepted : Accepted userId message token) :
    ∃ next, Reaches (sendChatMessage readers userId message token) givenClientId
      (.ask (.execute (chatRequest "a" token [.memory (chatBody readers.printer userId message)])) next) := by
  obtain ⟨valid, user, worded⟩ := accepted
  apply reaches_request
  rw [requireToken_valid valid, user, worded, body_chat _ user worded]
  rfl

end TwitchClient

/-! All operations of the three clients. -/

/-- An operation of a client, on what it is given. -/
inductive Operation
  | donbotUpload (readers : DonBotResponse.Readers) (file : LogFileIdentity)
      (options : DonBotOptions) (key : SecretValue)
  | donbotImport (readers : DonBotResponse.Readers) (permalink : String)
      (options : DonBotOptions) (key : SecretValue)
  | donbotAggregate (readers : DonBotResponse.Readers) (ids : List UInt64)
      (options : DonBotOptions) (key : SecretValue)
  | donbotVerify (readers : DonBotResponse.Readers) (apiBase : String) (key : SecretValue)
  | wingmanUpload (client : WingmanClient) (built : client.Built)
      (readers : WingmanResponse.Readers) (rounds : Nat) (file : LogFileIdentity)
      (metadata : EncounterMetadata)
  | wingmanImport (readers : WingmanResponse.Readers) (permalink : String)
  | startDeviceAuthorization (readers : TwitchResponse.Readers)
  | pollDeviceAuthorization (readers : TwitchResponse.Readers) (code : SecretValue)
  | validateAccessToken (readers : TwitchResponse.Readers) (token : SecretValue)
  | refreshAccessToken (readers : TwitchResponse.Readers) (token : SecretValue)
  | revokeAccessToken (token : SecretValue)
  | sendChatMessage (readers : TwitchResponse.Readers) (userId message : String)
      (token : SecretValue)

/-- After some answers, the client hands the request over. -/
def HandsOver {ε α : Type} (client : Client ε α) (request : HttpRequest) : Prop :=
  ∃ said next, Reaches client said (.ask (.execute request) next) ∧ Sane said

theorem Careful.passes {ε α : Type} {client : Client ε α} {request : HttpRequest}
    (careful : Careful [] client) (handed : HandsOver client request) : Passes request := by
  obtain ⟨said, next, run, sane⟩ := handed
  exact Holds.ask_of_reaches careful run sane

namespace Operation

def HandsOver (request : HttpRequest) : Operation → Prop
  | donbotUpload readers file options key =>
    Providers.HandsOver (DonBotClient.upload readers file options key) request
  | donbotImport readers permalink options key =>
    Providers.HandsOver (DonBotClient.importPermalink readers permalink options key) request
  | donbotAggregate readers ids options key =>
    Providers.HandsOver (DonBotClient.deliverAggregate readers ids options key) request
  | donbotVerify readers apiBase key =>
    Providers.HandsOver (DonBotClient.verify readers apiBase key) request
  | wingmanUpload client _ readers rounds file metadata =>
    Providers.HandsOver (client.upload readers rounds file metadata) request
  | wingmanImport readers permalink =>
    Providers.HandsOver (WingmanClient.importPermalink readers permalink) request
  | startDeviceAuthorization readers =>
    Providers.HandsOver (TwitchClient.startDeviceAuthorization readers) request
  | pollDeviceAuthorization readers code =>
    Providers.HandsOver (TwitchClient.pollDeviceAuthorization readers code) request
  | validateAccessToken readers token =>
    Providers.HandsOver (TwitchClient.validateAccessToken readers token) request
  | refreshAccessToken readers token =>
    Providers.HandsOver (TwitchClient.refreshAccessToken readers token) request
  | revokeAccessToken token => Providers.HandsOver (TwitchClient.revokeAccessToken token) request
  | sendChatMessage readers userId message token =>
    Providers.HandsOver (TwitchClient.sendChatMessage readers userId message token) request

/-- An accepted token leaves room for its scheme where it stands in a header. -/
def TokenFits : Operation → Prop
  | validateAccessToken _ token =>
    validTwitchToken token = true → TwitchClient.Headed "OAuth " token
  | sendChatMessage _ userId message token =>
    TwitchClient.Accepted userId message token → TwitchClient.Headed "Bearer " token
  | _ => True

end Operation

/-- The requests of an operation pass their check if and only if its token leaves room. -/
theorem requests_pass_iff (operation : Operation) :
    (∀ request, operation.HandsOver request → Passes request) ↔ operation.TokenFits := by
  constructor
  · intro passes
    cases operation with
    | validateAccessToken readers token =>
      intro valid
      obtain ⟨next, run⟩ := TwitchClient.reaches_validate readers valid
      by_contra long
      apply TwitchClient.not_passes_authorization _ long
      · exact passes _ ⟨_, next, run, TwitchClient.sane_givenClientId⟩
      · simp [TwitchClient.validateRequest, TwitchClient.request]
    | sendChatMessage readers userId message token =>
      intro accepted
      obtain ⟨next, run⟩ := TwitchClient.reaches_chat readers accepted
      by_contra long
      apply TwitchClient.not_passes_authorization _ long
      · exact passes _ ⟨_, next, run, TwitchClient.sane_givenClientId⟩
      · simp [TwitchClient.chatRequest, TwitchClient.request]
    | _ => trivial
  · intro fits request handed
    cases operation with
    | donbotUpload => exact DonBotClient.careful_upload.passes handed
    | donbotImport => exact DonBotClient.careful_importPermalink.passes handed
    | donbotAggregate => exact DonBotClient.careful_deliverAggregate.passes handed
    | donbotVerify => exact DonBotClient.careful_verify.passes handed
    | wingmanUpload client built => exact (WingmanClient.careful_upload built).passes handed
    | wingmanImport => exact WingmanClient.careful_importPermalink.passes handed
    | startDeviceAuthorization => exact TwitchClient.careful_start.passes handed
    | pollDeviceAuthorization => exact TwitchClient.careful_poll.passes handed
    | validateAccessToken => exact (TwitchClient.careful_validate fits).passes handed
    | refreshAccessToken => exact TwitchClient.careful_refresh.passes handed
    | revokeAccessToken => exact TwitchClient.careful_revoke.passes handed
    | sendChatMessage => exact (TwitchClient.careful_chat fits).passes handed

/-- A token of the greatest length, which the check of tokens accepts. -/
def longToken : SecretValue := List.replicate 8192 65

theorem requests_pass_longToken : validTwitchToken longToken = true ∧
    ∃ request, (Operation.validateAccessToken TwitchChatDelivery.noReaders longToken).HandsOver request ∧
      ¬Passes request := by
  have valid : validTwitchToken longToken = true := by
    simp only [validTwitchToken, longToken, List.isEmpty_replicate, List.length_replicate,
      List.all_replicate]
    decide
  obtain ⟨next, run⟩ := TwitchClient.reaches_validate TwitchChatDelivery.noReaders valid
  refine ⟨valid, _, ⟨_, next, run, TwitchClient.sane_givenClientId⟩, ?_⟩
  apply TwitchClient.not_passes_authorization
  · exact List.mem_cons_of_mem _ List.mem_cons_self
  · rw [TwitchClient.Headed, longToken, List.length_replicate]
    decide

end MannyUploader.Providers
