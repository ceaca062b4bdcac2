import MannyUploader.Foundation.Checked
import MannyUploader.Providers.DonBotClient
import MannyUploader.Providers.ExchangeRules

/-! An upload that a DonBot server has created is not offered for another try, and its data
goes below the URL of the creation only. -/
namespace MannyUploader.Providers
open Domain Application Foundation Dialogue Client

namespace DonBotClient
variable {readers : DonBotResponse.Readers} {file : LogFileIdentity} {options : DonBotOptions}
  {key : SecretValue} {past : Calls}

/-- Not `Retry`. -/
def Settled (error : DonBotError) : Prop := error.disposition ≠ .retry

theorem settled_of {error : DonBotError} (disposition : DonBotDisposition)
    (is : error.disposition = disposition) (other : disposition ≠ .retry) : Settled error := by
  rw [Settled, is]
  exact other

theorem settled_failed (code : DonBotErrorCode) : Settled (.failed code) := by
  simp [Settled, DonBotError.failed]

theorem settled_invalid (status : UInt16) : Settled (DonBotResponse.invalid status) := by
  simp [Settled, DonBotResponse.invalid, DonBotError.failed]

theorem settled_cancelled : Settled .cancelled := by
  simp [Settled, DonBotError.cancelled]

theorem settled_unconfirmed (error : DonBotError) : Settled (unconfirmed error) := by
  unfold unconfirmed
  split
  · simp [Settled]
  next cancelled => simp_all [Settled]

theorem settled_header {response : Application.HttpResponse} {name : String} {error : DonBotError}
    (failed : header response name = .error error) : Settled error := by
  unfold header at failed
  split at failed <;> cases failed
  exact settled_invalid _

theorem settled_delivery {value : Option DonBotResponse.Delivery} {requested : Bool}
    {status : UInt16} {error : DonBotError}
    (failed : DonBotResponse.delivery value requested status = .error error) : Settled error := by
  unfold DonBotResponse.delivery at failed
  split at failed
  · split at failed <;> cases failed
    exact settled_invalid _
  · split at failed <;> cases failed
    exact settled_failed _

/-- What an accepted creation says. -/
structure CreatedAs (base : String) (options : DonBotOptions)
    (created : Application.HttpResponse) (url : String) (uploadId : Option UInt64) : Prop where
  status : created.statusCode = 201
  located : ∃ location, resolveLocation (createUrl base) location = some url
  named : ∀ id, uploadId = some id → ∃ bytes, header created "X-Log-Upload-Id" = .ok (some bytes) ∧
    decimalId bytes = some id
  acknowledged : options.delivery.requested = true → uploadId.isSome ∧
    header created "X-DonBot-Discord-Delivery" = .ok (some (utf8 "accepted"))

theorem settled_createdUrl {base : String} {created : Application.HttpResponse}
    {error : DonBotError} (failed : createdUrl base created = .error error) : Settled error := by
  rcases bind_error failed with failed | ⟨tus, -, failed⟩
  · exact settled_header failed
  split at failed
  · cases failed
    exact settled_invalid _
  rcases bind_error failed with failed | ⟨location, -, failed⟩
  · exact settled_header failed
  split at failed
  · cases failed
    exact settled_invalid _
  · split at failed <;> cases failed
    exact settled_failed _

theorem located_of_createdUrl {base url : String} {created : Application.HttpResponse}
    (ok : createdUrl base created = .ok url) :
    ∃ location, resolveLocation (createUrl base) location = some url := by
  obtain ⟨tus, -, ok⟩ := bind_ok ok
  split at ok
  · contradiction
  obtain ⟨location, -, ok⟩ := bind_ok ok
  split at ok
  · contradiction
  next location _ =>
    split at ok
    · contradiction
    next resolved =>
      cases ok
      exact ⟨location, resolved⟩

theorem settled_createdId {created : Application.HttpResponse} {error : DonBotError}
    (failed : createdId created = .error error) : Settled error := by
  rcases bind_error failed with failed | ⟨named, -, failed⟩
  · exact settled_header failed
  split at failed
  · contradiction
  · split at failed <;> cases failed
    exact settled_invalid _

theorem named_of_createdId {created : Application.HttpResponse} {id : UInt64}
    (ok : createdId created = .ok (some id)) : ∃ bytes,
      header created "X-Log-Upload-Id" = .ok (some bytes) ∧ decimalId bytes = some id := by
  obtain ⟨named, found, ok⟩ := bind_ok ok
  split at ok
  · cases ok
  next bytes =>
    split at ok
    · contradiction
    next decimal =>
      cases ok
      exact ⟨bytes, found, decimal⟩

theorem settled_acknowledged {requested : Bool} {created : Application.HttpResponse}
    {uploadId : Option UInt64} {error : DonBotError}
    (failed : acknowledged requested created uploadId = .error error) : Settled error := by
  unfold acknowledged at failed
  split at failed
  · contradiction
  · split at failed
    · cases failed
      exact settled_failed _
    · rcases bind_error failed with failed | ⟨answer, -, failed⟩
      · exact settled_header failed
      · split at failed <;> cases failed
        exact settled_failed _

theorem acknowledged_ok {created : Application.HttpResponse} {uploadId : Option UInt64}
    (ok : acknowledged true created uploadId = .ok ()) : uploadId.isSome ∧
      header created "X-DonBot-Discord-Delivery" = .ok (some (utf8 "accepted")) := by
  simp only [acknowledged, Bool.not_true, Bool.false_eq_true, if_false] at ok
  split at ok
  · contradiction
  next named =>
    obtain ⟨answer, found, ok⟩ := bind_ok ok
    split at ok
    next accepted => exact ⟨Option.isSome_iff_ne_none.mpr (by simpa using named), accepted ▸ found⟩
    · contradiction

theorem settled_readCreated {base : String} {created : Application.HttpResponse}
    {error : DonBotError} (failed : readCreated base options created = .error error)
    (status : created.statusCode = 201) : Settled error := by
  rw [readCreated, if_neg (not_not.mpr status)] at failed
  rcases bind_error failed with failed | ⟨url, -, failed⟩
  · exact settled_createdUrl failed
  rcases bind_error failed with failed | ⟨uploadId, -, failed⟩
  · exact settled_createdId failed
  rcases bind_error failed with failed | ⟨_, -, failed⟩
  · exact settled_acknowledged failed
  · contradiction

theorem readCreated_ok {base url : String} {created : Application.HttpResponse}
    {uploadId : Option UInt64} (ok : readCreated base options created = .ok (url, uploadId)) :
    CreatedAs base options created url uploadId := by
  unfold readCreated at ok
  split at ok
  · contradiction
  next status =>
    obtain ⟨found, located, ok⟩ := bind_ok ok
    obtain ⟨named, identified, ok⟩ := bind_ok ok
    obtain ⟨_, accepted, ok⟩ := bind_ok ok
    cases ok
    refine ⟨not_not.mp status, located_of_createdUrl located, ?_, fun requested => ?_⟩
    · rintro id rfl
      exact named_of_createdId identified
    · rw [requested] at accepted
      exact acknowledged_ok accepted

theorem segment_of_resolve {base location url : String}
    (resolved : resolveLocation base location = some url) : ∃ id, url = base ++ "/" ++ id ∧
      1 ≤ (utf8 id).length ∧ (utf8 id).length ≤ 256 ∧ (utf8 id).all isSegmentByte = true := by
  obtain ⟨id, -, checked⟩ := Option.bind_eq_some_iff.mp resolved
  split at checked
  · contradiction
  next valid =>
    cases checked
    simp only [Bool.or_eq_true, List.isEmpty_iff, decide_eq_true_eq, Bool.not_eq_true', not_or,
      Bool.not_eq_false, Nat.not_lt] at valid
    exact ⟨id, rfl, List.length_pos_iff.mpr valid.1.1, valid.1.2, valid.2⟩

/-- The answers to the posts. An upload posts nothing but its creation. -/
def creation : (question : Call) × question.Answer → Option Application.HttpResponse
  | ⟨.execute request, .ok response⟩ => if request.method = .post then some response else none
  | _ => none

def creations (past : Calls) : List Application.HttpResponse := past.filterMap creation

@[simp] theorem creations_append (said : Calls) :
    creations (past ++ said) = creations past ++ creations said := by
  simp [creations]

@[simp] theorem creations_stop (stopped : Bool) : creations [⟨.stopRequested, stopped⟩] = [] := rfl

@[simp] theorem creations_open (opened : Bool) : creations [⟨.openFile file, opened⟩] = [] := rfl

/-- The answer to the creation that allows to send the data. -/
structure Acknowledged (past : Calls) : Prop where
  answer : ∃ created ∈ creations past, created.statusCode = 201 ∧
    header created "X-DonBot-Discord-Delivery" = .ok (some (utf8 "accepted")) ∧
    ∃ bytes id, header created "X-Log-Upload-Id" = .ok (some bytes) ∧ decimalId bytes = some id

/-- Data is sent to a segment below the URL of the creation. -/
structure MayPatch (options : DonBotOptions) (base : String) (past : Calls) (url : String) :
    Prop where
  segment : ∃ id, url = createUrl base ++ "/" ++ id ∧ 1 ≤ (utf8 id).length ∧
    (utf8 id).length ≤ 256 ∧ (utf8 id).all isSegmentByte = true
  acknowledged : options.delivery.requested = true → Acknowledged past

/-- Every request stays below the configured base. -/
def mayUpload (options : DonBotOptions) (past : Calls) : Call → Prop
  | .execute request => ∃ base, normalizeDonbotApiBase options.apiBaseUrl = some base ∧
      (∃ path, request.url = base ++ path) ∧
      (request.method = .patch → MayPatch options base past request.url)
  | _ => True

def Created (past : Calls) : Prop := ∃ created ∈ creations past, created.statusCode = 201

/-- How an upload fails: not with a retry, once it is created. -/
def uploadLost (past : Calls) : Fault DonBotError → Prop
  | .panicked => True
  | .error error => Created past → Settled error

/-- How it fails from the creation on. -/
def createdLost (_ : Calls) : Fault DonBotError → Prop
  | .panicked => True
  | .error error => Settled error

/-- A request that may be made, whatever its answer is taken for. -/
theorem holds_anyAnswer {request : HttpRequest}
    (asked : mayUpload options (past ++ [⟨.stopRequested, false⟩]) (.execute request)) :
    Holds (mayUpload options) (fun _ _ => True) (fun _ _ => True) past (executeUpload request) :=
  holds_execute trivial trivial asked
    ⟨trivial, fun _ => trivial, fun _ => trivial, fun _ => trivial, fun _ => trivial⟩

/-- What `validate` lets through. -/
structure Validated (options : DonBotOptions) (key : SecretValue) (base : String) : Prop where
  normalized : normalizeDonbotApiBase options.apiBaseUrl = some base
  guild : canonicalDiscordId options.guildId = true
  delivery : options.delivery.isValid = true
  key : validDonbotApiKey key = true

theorem holds_validate {may : Calls → Call → Prop} {failed : Calls → Fault DonBotError → Prop}
    (asked : may past .stopRequested) (lost : ∀ stopped error, Settled error →
      failed (past ++ [⟨.stopRequested, stopped⟩]) (.error error)) :
    Holds may (fun after base => Validated options key base ∧
        after = past ++ [⟨.stopRequested, false⟩]) failed past (validate options key) := by
  apply Holds.bind fun after _ => after = past ++ [⟨.stopRequested, false⟩]
  · exact holds_refuseStop asked rfl (lost true _ settled_cancelled)
  rintro after _ rfl
  split
  · exact lost false _ (settled_failed _)
  next base normalized =>
    apply Holds.ite
    · exact fun _ => lost false _ (settled_failed _)
    intro valid
    apply Holds.ite
    · exact fun _ => lost false _ (settled_failed _)
    intro validKey
    simp only [Bool.or_eq_true, Bool.not_eq_true', not_or, Bool.not_eq_false] at valid validKey
    exact ⟨⟨normalized, valid.1, valid.2, validKey⟩, rfl⟩

theorem settled_readPatched {patched : Application.HttpResponse} {error : DonBotError}
    (failed : readPatched file patched = .error error) : Settled error := by
  have renamed (name : String) {error : DonBotError}
      (failed : (header patched name).mapError unconfirmed = .error error) : Settled error := by
    cases found : header patched name with
    | ok _ => simp [found, Except.mapError] at failed
    | error inner =>
      simp only [found, Except.mapError, Except.error.injEq] at failed
      exact failed ▸ settled_unconfirmed inner
  unfold readPatched at failed
  split at failed
  · cases failed
    exact settled_unconfirmed _
  rcases bind_error failed with failed | ⟨tus, -, failed⟩
  · exact renamed _ failed
  rcases bind_error failed with failed | ⟨offset, -, failed⟩
  · exact renamed _ failed
  split at failed
  · cases failed
    exact settled_unconfirmed _
  · contradiction

theorem holds_openBody : Holds (mayUpload options) (fun after _ => creations after = creations past)
    createdLost past (openBody file) := by
  apply Holds.ite
  · exact fun _ => settled_failed _
  intro _
  refine ⟨trivial, fun opened => ?_⟩
  cases opened with
  | false => exact settled_failed _
  | true => exact (creations_append _).trans (by simp)

theorem holds_patch {base url : String} {uploadId : Option UInt64}
    {created : Application.HttpResponse} (here : creations past = [created])
    (normalized : normalizeDonbotApiBase options.apiBaseUrl = some base)
    (accepted : CreatedAs base options created url uploadId) :
    Holds (mayUpload options) (fun _ _ => True) createdLost past (patch url file key) := by
  apply Holds.bind fun after _ => creations after = [created]
  · exact holds_refuseStop trivial (by simp [here]) settled_cancelled
  intro after _ same
  apply Holds.bind fun after _ => creations after = [created]
  · exact same ▸ holds_openBody
  intro after _ same
  apply Holds.bind fun _ _ => True
  · apply Holds.mapError (fun _ _ => True)
    · apply holds_anyAnswer
      obtain ⟨location, resolved⟩ := accepted.located
      obtain ⟨id, named, rest⟩ := segment_of_resolve resolved
      refine ⟨base, normalized, ⟨"/api/upload/tus/" ++ id, ?_⟩, fun _ => ⟨⟨id, named, rest⟩, ?_⟩⟩
      · simp only [patchRequest, uploadRequest, named, createUrl, String.append_assoc]
        rfl
      · intro requested
        obtain ⟨some, answer⟩ := accepted.acknowledged requested
        obtain ⟨uploadId, rfl⟩ := Option.isSome_iff_exists.mp some
        obtain ⟨bytes, found, decimal⟩ := accepted.named uploadId rfl
        exact ⟨created, by simp [same], accepted.status, answer, bytes, uploadId, found, decimal⟩
    · intro after fault _
      cases fault with
      | panicked => trivial
      | error error => exact settled_unconfirmed error
  · intro after patched _
    exact holds_ofExcept (fun _ _ => trivial) fun error failed => settled_readPatched failed

theorem settled_progressEvent {requested : Bool} {status : UInt16}
    {state : DonBotResponse.Completed × Bool} {data : List UInt8} {error : DonBotError}
    (failed : DonBotResponse.progressEvent readers requested status state data = .error error) :
    Settled error := by
  unfold DonBotResponse.progressEvent at failed
  split at failed
  · cases failed
    exact settled_invalid _
  split at failed
  · cases failed
    exact settled_invalid _
  dsimp only at failed
  split at failed
  · cases failed
    exact settled_failed _
  split at failed
  · rcases bind_error failed with failed | ⟨_, -, failed⟩
    · exact settled_delivery failed
    · contradiction
  · split at failed <;> cases failed
    exact settled_invalid _

theorem settled_progress {reply : Application.HttpResponse} {requested : Bool} {error : DonBotError}
    (failed : DonBotResponse.progress readers reply requested = .error error) : Settled error := by
  unfold DonBotResponse.progress at failed
  split at failed
  · cases failed
    exact settled_invalid _
  rcases bind_error failed with failed | ⟨⟨result, complete⟩, -, failed⟩
  · obtain ⟨state, data, failed⟩ := foldlM_error failed
    exact settled_progressEvent failed
  · cases complete with
    | true => contradiction
    | false =>
      cases failed
      exact settled_invalid _

theorem holds_unsureOfStream {requested : Bool} {status : Option UInt16}
    {httpError : Option HttpErrorCode} : Holds (mayUpload options) (fun _ _ => True) createdLost past
      (unsureOfStream requested status httpError) := by
  unfold unsureOfStream
  split
  · exact holds_throw (settled_of .failed rfl (by decide))
  · trivial

theorem holds_waitForProcessing {base : String} {id : UInt64} {requested : Bool}
    (normalized : normalizeDonbotApiBase options.apiBaseUrl = some base) :
    Holds (mayUpload options) (fun _ _ => True) createdLost past
      (waitForProcessing readers base id key requested) := by
  apply Holds.settle (fun _ _ => True) (fun _ _ => True)
  · apply holds_anyAnswer
    refine ⟨base, normalized, ⟨"/api/upload/stream/" ++ toString id, ?_⟩, ?_⟩
    · simp [streamRequest, uploadRequest, String.append_assoc]
    · simp [streamRequest, uploadRequest]
  · intro after reply _
    apply Holds.ite
    · exact fun _ => holds_ofExcept (fun _ _ => trivial) fun error failed => settled_progress failed
    · exact fun _ => holds_unsureOfStream
  · intro after fault _
    cases fault with
    | panicked => trivial
    | error error =>
      apply Holds.ite
      · intro cancelled
        exact holds_throw (settled_of .cancelled cancelled (by decide))
      · exact fun _ => holds_unsureOfStream

/-- From the creation on nothing is worth a retry. -/
theorem holds_created {base url : String} {uploadId : Option UInt64}
    {created : Application.HttpResponse} (here : creations past = [created])
    (normalized : normalizeDonbotApiBase options.apiBaseUrl = some base)
    (accepted : CreatedAs base options created url uploadId) :
    Holds (mayUpload options) (fun _ _ => True) createdLost past (do
      patch url file key
      let completed ← processing readers base uploadId key options.delivery.requested
      pure {
        uploadId
        fightLogId := completed.fightLogId
        discordDelivery := completed.delivery : DonBotUploadSuccess }) := by
  apply Holds.bind fun _ _ => True
  · exact holds_patch here normalized accepted
  intro after _ _
  apply Holds.bind fun _ _ => True
  · cases uploadId with
    | some id => exact holds_waitForProcessing normalized
    | none => trivial
  · exact fun _ _ _ => trivial

theorem holds_uploadInner : Holds (mayUpload options) (fun _ _ => True) uploadLost []
    (uploadInner readers file options key) := by
  apply Holds.bind fun after base => Validated options key base ∧
    after = [] ++ [⟨.stopRequested, false⟩]
  · exact holds_validate trivial fun _ _ settled _ => settled
  rintro after base ⟨⟨normalized, -⟩, rfl⟩
  apply Holds.ite
  · exact fun _ _ => settled_failed _
  intro _
  apply Holds.bind fun after created => creations after = [created]
  · apply holds_execute trivial
    · exact fun _ => settled_cancelled
    · refine ⟨base, normalized, ⟨"/api/upload/tus", rfl⟩, ?_⟩
      simp [createRequest, uploadRequest]
    · refine ⟨trivial, fun _ => trivial, fun _ _ => settled_cancelled, fun code created => ?_,
        fun response => ?_⟩
      · obtain ⟨response, member, _⟩ := created
        contradiction
      · rfl
  intro after created here
  apply Holds.bind fun after created' => creations after = [created] ∧
    CreatedAs base options created created'.1 created'.2
  · apply holds_ofExcept
    · exact fun found ok => ⟨here, readCreated_ok ok⟩
    · rintro error failed ⟨response, member, status⟩
      rw [here, List.mem_singleton] at member
      exact settled_readCreated failed (member ▸ status)
  rintro after ⟨url, uploadId⟩ ⟨here, accepted⟩
  apply (holds_created here normalized accepted).weaken (fun _ _ may => may) fun _ _ ended => ended
  intro after fault lost
  cases fault with
  | panicked => trivial
  | error error => exact fun _ => lost

/-- A created upload never fails with a retry, its requests stay below the configured base, and
its data goes to one segment below the URL of the creation: with a delivery requested, only
after that was acknowledged. -/
theorem upload_created_once {said : Calls} {rest : Client DonBotError DonBotUploadSuccess}
    (run : Reaches (upload readers file options key) said rest) :
    (∀ fault, rest = .fail fault → ∃ error, fault = .error error ∧ (Created said → Settled error)) ∧
      ∀ request next, rest = .ask (.execute request) next →
        ∃ base, normalizeDonbotApiBase options.apiBaseUrl = some base ∧
          (∃ path, request.url = base ++ path) ∧
          (request.method = .patch → MayPatch options base said request.url) := by
  have holds : Holds (mayUpload options) (fun _ _ => True) (fun past fault =>
      ∃ error, fault = .error error ∧ (Created past → Settled error)) []
      (upload readers file options key) := by
    apply holds_catchUnwind uploadLost holds_uploadInner
    · exact fun _ _ => ⟨_, rfl, fun _ => settled_failed _⟩
    · exact fun _ error lost => ⟨error, rfl, lost⟩
  constructor
  · rintro fault rfl
    exact holds.fail_of_reaches run
  · rintro request next rfl
    exact holds.ask_of_reaches run

/-! The server creates an upload, and fails to answer to its data. -/

def noReaders : DonBotResponse.Readers where
  printer := Json.compactPrinter
  imported _ := none
  aggregate _ := none
  progress _ := none
  counts _ := none
  verification _ := none

def sampleUploadOptions : DonBotOptions :=
  { apiBaseUrl := "https://a", guildId := "1", delivery := .guildDefaults }

def createdReply : Application.HttpResponse where
  statusCode := 201
  headers := [.ofText "Tus-Resumable" "1.0.0", .ofText "Location" "/api/upload/tus/7",
    .ofText "X-Log-Upload-Id" "7", .ofText "X-DonBot-Discord-Delivery" "accepted"]
  body := []

theorem read_createdReply : readCreated "https://a" sampleUploadOptions createdReply =
    .ok ("https://a/api/upload/tus/7", some 7) := by
  decide +kernel

def busyReply : Application.HttpResponse := { statusCode := 503, headers := [], body := [] }

def samplePatch : HttpRequest := patchRequest "https://a/api/upload/tus/7" (sampleLog 5) [65]

/-- The upload up to its data. -/
def createdUpload : Calls :=
  [⟨.stopRequested, false⟩] ++ ([⟨.stopRequested, false⟩,
    ⟨.execute (createRequest "https://a" (sampleLog 5) sampleUploadOptions [65]), .ok createdReply⟩,
    ⟨.stopRequested, false⟩] ++
      [⟨.stopRequested, false⟩, ⟨.openFile (sampleLog 5), true⟩, ⟨.stopRequested, false⟩])

/-- The server answers to the data. -/
def busyAnswer : Calls := [⟨.execute samplePatch, .ok busyReply⟩, ⟨.stopRequested, false⟩]

def lostPatch : Fault DonBotError := .error (unconfirmed (classifyStatus busyReply))

theorem reaches_samplePatch : ∃ next,
    Reaches (patch "https://a/api/upload/tus/7" (sampleLog 5) [65])
      [⟨.stopRequested, false⟩, ⟨.openFile (sampleLog 5), true⟩, ⟨.stopRequested, false⟩]
      (.ask (.execute samplePatch) next) ∧
    Reaches (.ask (.execute samplePatch) next) busyAnswer (.fail lostPatch : Client DonBotError Unit) :=
  ⟨_, .cons _ (.cons _ (.cons _ .nil)), .cons _ (.cons _ .nil)⟩

theorem reaches_createdUpload : ∃ next : _ → Client DonBotError DonBotUploadSuccess,
    Reaches (upload noReaders (sampleLog 5) sampleUploadOptions [65]) createdUpload
      (.ask (.execute samplePatch) next) ∧
    Reaches (.ask (.execute samplePatch) next) busyAnswer (.fail lostPatch) := by
  have validated : Reaches (validate sampleUploadOptions [65]) [⟨.stopRequested, false⟩]
      (.done "https://a") := .cons _ .nil
  have created : Reaches
      (executeUpload (createRequest "https://a" (sampleLog 5) sampleUploadOptions [65]))
      [⟨.stopRequested, false⟩, ⟨.execute (createRequest "https://a" (sampleLog 5)
        sampleUploadOptions [65]), .ok createdReply⟩, ⟨.stopRequested, false⟩]
      (.done createdReply) := .cons _ (.cons _ (.cons _ .nil))
  obtain ⟨next, opened, lost⟩ := reaches_samplePatch
  have inner : ∃ next : _ → Client DonBotError DonBotUploadSuccess,
      Reaches (uploadInner noReaders (sampleLog 5) sampleUploadOptions [65]) createdUpload
        (.ask (.execute samplePatch) next) ∧
      Reaches (.ask (.execute samplePatch) next) busyAnswer (.fail lostPatch) := by
    refine ⟨?next, validated.bind.trans ?run, ?failed⟩
    case run =>
      rw [done_bind, if_neg (by decide)]
      refine created.bind.trans ?_
      rw [done_bind, read_createdReply]
      exact opened.bind
    case failed => exact lost.bind
  obtain ⟨next, inner, failed⟩ := inner
  exact ⟨_, inner.settle, failed.settle⟩

/-- The data goes to the place that the server named. What becomes of it is not known, and the
upload is not tried again. -/
theorem upload_created_once_sample :
    (∃ base, normalizeDonbotApiBase "https://a" = some base ∧
      MayPatch sampleUploadOptions base createdUpload "https://a/api/upload/tus/7") ∧
    Settled (unconfirmed (classifyStatus busyReply)) := by
  obtain ⟨next, begun, failed⟩ := reaches_createdUpload
  obtain ⟨base, normalized, -, patches⟩ := (upload_created_once begun).2 samplePatch next rfl
  obtain ⟨error, same, settled⟩ := (upload_created_once (begun.trans failed)).1 _ rfl
  cases same
  exact ⟨⟨base, normalized, patches rfl⟩, settled ⟨createdReply, List.mem_singleton_self _, rfl⟩⟩

end DonBotClient
end MannyUploader.Providers
