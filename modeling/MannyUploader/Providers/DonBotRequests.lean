import MannyUploader.Providers.DonBotUploadLaws
import MannyUploader.Providers.RequestRules

/-! The requests of the DonBot client pass the check in front of HTTP. -/
namespace MannyUploader.Providers
open Domain Application Foundation Dialogue Client

namespace DonBotClient

theorem base64Digit_visible {value : UInt8} (small : value.toNat < 64) :
    0x20 ≤ base64Digit value ∧ base64Digit value ≤ 0x7e := by
  have inside : value.toNat < base64Table.length := small.trans_eq (by decide)
  have all : ∀ byte ∈ base64Table, 0x20 ≤ byte ∧ byte ≤ 0x7e := by decide +kernel
  rw [base64Digit, List.getD_eq_getElem?_getD, List.getElem?_eq_getElem inside]
  exact all _ (List.getElem_mem inside)

theorem visible_base64 (bytes : List UInt8) : Visible (base64Bytes bytes) := by
  have high (a : UInt8) : (a >>> 2).toNat < 64 := by
    have bound := a.toNat_lt
    simp [Nat.shiftRight_eq_div_pow]
    omega
  have low (a : UInt8) : ((a &&& 3) <<< 4).toNat < 64 := by
    have bound : a.toNat &&& 3 ≤ 3 := Nat.and_le_right
    simp [Nat.shiftLeft_eq]
    omega
  have middle (a : UInt8) : ((a &&& 15) <<< 2).toNat < 64 := by
    have bound : a.toNat &&& 15 ≤ 15 := Nat.and_le_right
    simp [Nat.shiftLeft_eq]
    omega
  have nibble (a : UInt8) : (a >>> 4).toNat < 64 := by
    have bound := a.toNat_lt
    simp [Nat.shiftRight_eq_div_pow]
    omega
  have top (a : UInt8) : (a >>> 6).toNat < 64 := by
    have bound := a.toNat_lt
    simp [Nat.shiftRight_eq_div_pow]
    omega
  have last (a : UInt8) : (a &&& 63).toNat < 64 := by
    have bound : a.toNat &&& 63 ≤ 63 := Nat.and_le_right
    simp
    omega
  have both {a b : UInt8} (one : a.toNat < 64) (two : b.toNat < 64) : (a ||| b).toNat < 64 := by
    rw [UInt8.toNat_or]
    exact Nat.or_lt_two_pow (n := 6) one two
  fun_induction base64Bytes bytes with
  | case1 => exact nofun
  | case2 a =>
    simp only [Visible, List.forall_mem_cons]
    exact ⟨base64Digit_visible (high a), base64Digit_visible (low a), by decide, by decide, nofun⟩
  | case3 a b =>
    simp only [Visible, List.forall_mem_cons]
    exact ⟨base64Digit_visible (high a), base64Digit_visible (both (low a) (nibble b)),
      base64Digit_visible (middle b), by decide, nofun⟩
  | case4 a b c rest ih =>
    refine Visible.append ?_ ih
    simp only [Visible, List.forall_mem_cons]
    exact ⟨base64Digit_visible (high a), base64Digit_visible (both (low a) (nibble b)),
      base64Digit_visible (both (middle b) (top c)), base64Digit_visible (last c), nofun⟩

theorem length_base64 (bytes : List UInt8) : (base64Bytes bytes).length ≤ 4 * bytes.length := by
  fun_induction base64Bytes bytes with
  | case4 a b c rest ih =>
    simp only [List.length_append, List.length_cons, List.length_nil]
    omega
  | _ => simp

/-- What the client puts behind a base. -/
structure BehindBase (path : String) : Prop where
  slash : ∃ tail, utf8 path = 47 :: tail
  bytes : (utf8 path).all validUrlByte = true
  short : (utf8 path).length ≤ 2048

theorem validUrl_of_base {value base path : String}
    (normalized : normalizeDonbotApiBase value = some base) (behind : BehindBase path) :
    (validateHttpUrl (base ++ path) .httpsOnly).isOk = true := by
  obtain ⟨rfl, rest, valid⟩ := normalize_eq_some.mp normalized
  obtain ⟨rest', trimmed⟩ := valid.trimmed
  obtain ⟨tail, slash⟩ := behind.slash
  apply validateHttpUrl_append
  · rw [trimmed.validateHttpUrl]
    rfl
  · exact trimmed.shape
  · rw [slash, httpAuthority_slash]
  · exact behind.bytes
  · exact (Nat.add_le_add trimmed.short behind.short).trans (by decide)

theorem BehindBase.append {first second : String} (one : BehindBase first)
    (bytes : (utf8 second).all validUrlByte = true)
    (short : (utf8 first).length + (utf8 second).length ≤ 2048) : BehindBase (first ++ second) := by
  obtain ⟨tail, slash⟩ := one.slash
  refine ⟨⟨tail ++ utf8 second, by rw [utf8_append, slash, List.cons_append]⟩, ?_, ?_⟩
  · rw [utf8_append, List.all_append, one.bytes, bytes]
    rfl
  · rwa [utf8_append, List.length_append]

theorem path_create : BehindBase "/api/upload/tus" :=
  ⟨⟨_, rfl⟩, by decide, by decide⟩

theorem path_created {id : String} (short : (utf8 id).length ≤ 256)
    (segment : (utf8 id).all isSegmentByte = true) : BehindBase ("/api/upload/tus" ++ "/" ++ id) := by
  apply BehindBase.append
  · exact path_create.append (by decide) (by decide)
  · rw [List.all_eq_true] at segment ⊢
    intro byte member
    have plain := segment byte member
    simp only [isSegmentByte, Bool.or_eq_true, beq_iff_eq] at plain
    obtain (plain | rfl) | rfl := plain
    · exact urlByte_of_letterOrDigit plain
    · decide
    · decide
  · exact (Nat.add_le_add_left short _).trans (by decide)

theorem path_stream (id : UInt64) : BehindBase ("/api/upload/stream/" ++ toString id) := by
  apply BehindBase.append
  · exact ⟨⟨_, rfl⟩, by decide, by decide⟩
  · exact urlBytes_digits id.toNat
  · exact (Nat.add_le_add_left (length_digits id) _).trans (by decide)

theorem short_key (valid : validDonbotApiKey key = true) : Short 529 (keyHeader key) := by
  simp only [validDonbotApiKey, Bool.and_eq_true, decide_eq_true_eq, List.all_eq_true] at valid
  apply short_value
  · decide
  · intro byte member
    rcases Bool.or_eq_true _ _ ▸ valid.2 byte member with plain | dash
    · exact visible_of_letterOrDigit plain
    · rw [beq_iff_eq] at dash
      subst dash
      decide
  · exact Nat.add_le_add_right (Nat.add_le_add_left valid.1.2 13) 4
  · decide

theorem short_digits {name : String} (n : UInt64)
    (named : validHeader (.ofText name "") = true) (short : (utf8 name).length ≤ 100) :
    Short 124 (.ofText name (toString n)) := by
  apply short_value named
  · exact visible_digits n.toNat
  · have digits := length_digits n
    change (utf8 name).length + (utf8 (toString n.toNat)).length + 4 ≤ 124
    omega
  · decide

theorem length_canonical {id : String} (valid : canonicalDiscordId id = true) :
    (utf8 id).length ≤ 19 := by
  simp only [canonicalDiscordId, Bool.and_eq_true, decide_eq_true_eq] at valid
  exact valid.1.1.1.1.2

theorem length_base64_of {text : String} {limit : Nat} (short : (utf8 text).length ≤ limit) :
    (base64 text).length ≤ 4 * limit :=
  (length_base64 _).trans (Nat.mul_le_mul_left 4 short)

theorem visible_metadata (options : DonBotOptions) : Visible (uploadMetadata options) := by
  have base (text : String) : Visible (base64 text) := visible_base64 _
  apply Visible.append
  · apply Visible.append
    · exact (visible_of_all (by decide)).append (base _)
    · exact visible_of_all (by decide)
  · split
    · exact nofun
    · apply Visible.append
      · exact (visible_of_all (by decide)).append (base _)
      · split
        · exact nofun
        · exact (visible_of_all (by decide)).append (base _)

theorem length_metadata (guild : canonicalDiscordId options.guildId = true)
    (route : options.delivery.isValid = true) : (uploadMetadata options).length ≤ 400 := by
  have guildLength := length_base64_of (length_canonical guild)
  have modes : (base64 "guild_defaults").length ≤ 64 ∧ (base64 "channel_override").length ≤ 64 := by
    decide
  have texts : (utf8 "filename dXBsb2FkLnpldnRj,guildid ").length ≤ 40 ∧
      (utf8 ",wingman ZmFsc2U=").length ≤ 20 ∧ (utf8 ",discorddelivery ").length ≤ 20 ∧
      (utf8 ",discordchannelid ").length ≤ 20 := by decide
  cases routed : options.delivery with
  | none =>
    simp only [uploadMetadata, routed, deliveryWire, List.length_append, List.length_nil]
    omega
  | guildDefaults =>
    simp only [uploadMetadata, routed, deliveryWire, List.length_append, List.length_nil]
    omega
  | channelOverride channel =>
    rw [routed] at route
    have channelLength := length_base64_of (length_canonical route)
    simp only [uploadMetadata, routed, deliveryWire, List.length_append]
    omega

/-- Requests that carry the key, and a few short headers more. -/
theorem passes_uploadRequest {method : HttpMethod} {url : String} {headers : List HttpHeader}
    {body : Option HttpBodySource} (bounds : List Nat)
    (valid : (validateHttpUrl url .httpsOnly).isOk = true) (keyed : validDonbotApiKey key = true)
    (each : List.Forall₂ Short bounds headers) (few : bounds.length ≤ 10 ∧ bounds.sum ≤ 2000)
    (sent : body.all (validBody method) = true) :
    Passes (uploadRequest method url key headers body) := by
  apply passes_of (26 :: 529 :: bounds)
  · exact valid
  · exact .cons ⟨by decide, by decide⟩ (.cons (short_key keyed) each)
  · simp only [List.length_cons, List.sum_cons]
    exact ⟨(Nat.add_le_add_right few.1 2).trans (by decide),
      (Nat.add_le_add_left (Nat.add_le_add_left few.2 529) 26).trans (by decide)⟩
  · exact sent
  · exact ⟨rfl, rfl⟩

theorem short_json : Short 36 (.ofText "Content-Type" "application/json") :=
  ⟨by decide, by decide⟩

theorem passes_json {printer : Json.Printer} {value base path : String} {members : List (String × Json)}
    {request : HttpRequest} (normalized : normalizeDonbotApiBase value = some base)
    (behind : BehindBase path) (keyed : validDonbotApiKey key = true)
    (built : jsonRequest printer (base ++ path) key (.object members) = .ok request) : Passes request := by
  obtain ⟨source, sourced, built⟩ := bind_ok built
  cases built
  unfold body at sourced
  split at sourced
  · contradiction
  next made =>
    cases sourced
    obtain ⟨rfl, short⟩ := memoryBody_spec made
    apply passes_uploadRequest [36]
    · exact validUrl_of_base normalized behind
    · exact keyed
    · exact .cons short_json .nil
    · decide
    · exact validBody_memory (by decide) (printer.filled members) short

theorem passes_create {base : String} (valid : Validated options key base) :
    Passes (createRequest base file options key) := by
  apply passes_uploadRequest [22, 124, 419]
  · exact validUrl_of_base valid.normalized path_create
  · exact valid.key
  · refine .cons ⟨by decide, by decide⟩ (.cons (short_digits _ (by decide) (by decide))
      (.cons (short_value (by decide) (visible_metadata options) ?_ (by decide)) .nil))
    exact Nat.add_le_add_right (Nat.add_le_add_left
      (length_metadata valid.guild valid.delivery) 15) 4
  · decide
  · rfl

theorem passes_patch {url : String} (valid : (validateHttpUrl url .httpsOnly).isOk = true)
    (keyed : validDonbotApiKey key = true) (some : file.size ≠ 0)
    (short : file.size.toNat ≤ maxHttpRequestBodyBytes) :
    Passes (patchRequest url file key) := by
  have positive : 1 ≤ file.size.toNat :=
    Nat.one_le_iff_ne_zero.mpr fun zero => some (UInt64.toNat_inj.mp zero)
  apply passes_uploadRequest [22, 18, 51] valid keyed
  · exact .cons ⟨by decide, by decide⟩ (.cons ⟨by decide, by decide⟩
      (.cons ⟨by decide, by decide⟩ .nil))
  · decide
  · simp [validBody, HttpBodySource.contentLength, HttpBodySegment.contentLength, positive, short]

theorem passes_stream {value base : String} {id : UInt64}
    (normalized : normalizeDonbotApiBase value = some base)
    (keyed : validDonbotApiKey key = true) : Passes (streamRequest base id key) := by
  apply passes_of [529, 27]
  · rw [streamRequest, uploadRequest, String.append_assoc]
    exact validUrl_of_base normalized (path_stream id)
  · exact .cons (short_key keyed) (.cons ⟨by decide, by decide⟩ .nil)
  · decide
  · rfl
  · exact ⟨rfl, rfl⟩

/-! The dialogues. -/

section
variable {value base : String}

theorem careful_validate {α : Type} {next : String → Client DonBotError α}
    (after : ∀ past base, Validated options key base → Careful past (next base)) :
    Careful past (validate options key >>= next) :=
  Holds.bind _ (holds_validate trivial fun _ _ _ => trivial) fun past base found =>
    after past base found.1

theorem careful_openBody : Careful past (openBody file) := by
  apply Careful.ite
  · exact fun _ => trivial
  · exact fun _ => ⟨trivial, fun opened => by cases opened <;> trivial⟩

theorem careful_wait {id : UInt64} {requested : Bool}
    (normalized : normalizeDonbotApiBase value = some base) (keyed : validDonbotApiKey key = true) :
    Careful past (waitForProcessing readers base id key requested) := by
  have unsure {past : Calls} {status : Option UInt16} {error : Option HttpErrorCode} :
      Careful past (unsureOfStream requested status error) :=
    Careful.ite (fun _ => trivial) fun _ => trivial
  apply Careful.settle
  · exact Careful.execute fun _ => passes_stream normalized keyed
  · intro past outcome
    match outcome with
    | .error .panicked => trivial
    | .error (.error error) => exact Careful.ite (fun _ => trivial) fun _ => unsure
    | .ok reply => exact Careful.ite (fun _ => Careful.ofExcept _) fun _ => unsure

theorem careful_patch {url : String} (valid : (validateHttpUrl url .httpsOnly).isOk = true)
    (keyed : validDonbotApiKey key = true) (some : file.size ≠ 0)
    (short : file.size.toNat ≤ maxHttpRequestBodyBytes) : Careful past (patch url file key) := by
  apply (Careful.refuseStop _).bind
  intro past _
  apply careful_openBody.bind
  intro past _
  apply Careful.bind
  · exact (Careful.execute fun _ => passes_patch valid keyed some short).mapError
  · exact fun _ _ => Careful.ofExcept _

theorem careful_upload : Careful past (upload readers file options key) := by
  apply Careful.catchUnwind
  apply careful_validate
  intro past base valid
  apply Careful.ite
  · exact fun _ => trivial
  intro sized
  rw [not_or, Nat.not_lt] at sized
  apply Careful.bind
  · exact Careful.execute fun _ => passes_create valid
  intro past created
  apply Careful.ofExcept_bind
  rintro ⟨url, uploadId⟩ ok
  obtain ⟨location, resolved⟩ := (readCreated_ok ok).located
  obtain ⟨id, named, -, short, segment⟩ := segment_of_resolve resolved
  apply Careful.bind
  · apply careful_patch _ valid.key sized.1 sized.2
    rw [named, createUrl, String.append_assoc, String.append_assoc]
    exact validUrl_of_base valid.normalized (path_created short segment)
  intro past _
  apply Careful.bind
  · cases uploadId with
    | some id => exact careful_wait valid.normalized valid.key
    | none => trivial
  · exact fun _ _ => trivial

theorem careful_importPermalink {permalink : String} :
    Careful past (importPermalink readers permalink options key) := by
  apply Careful.catchUnwind
  apply careful_validate
  intro past base valid
  apply Careful.ite
  · exact fun _ => trivial
  intro _
  apply Careful.ofExcept_bind
  intro request built
  apply Careful.bind
  · exact Careful.execute fun _ =>
      passes_json valid.normalized ⟨⟨_, rfl⟩, by decide, by decide⟩ valid.key built
  intro past reply
  apply Careful.ofExcept_bind
  intro parsed _
  apply Careful.bind
  · apply Careful.ite
    · exact fun _ => Careful.ofExcept_bind fun _ _ => trivial
    · exact fun _ => Careful.ofExcept_bind fun _ _ => careful_wait valid.normalized valid.key
  · exact fun _ _ => trivial

theorem careful_deliverAggregate {ids : List UInt64} :
    Careful past (deliverAggregate readers ids options key) := by
  apply Careful.catchUnwind
  apply careful_validate
  intro past base valid
  apply Careful.ite
  · exact fun _ => trivial
  intro _
  apply Careful.ofExcept_bind
  intro request built
  apply Careful.bind
  · exact Careful.execute fun _ =>
      passes_json valid.normalized ⟨⟨_, rfl⟩, by decide, by decide⟩ valid.key built
  · exact fun _ _ => Careful.ofExcept _

theorem careful_verify {apiBase : String} : Careful past (verify readers apiBase key) := by
  apply Careful.catchUnwind
  apply (Careful.refuseStop _).bind
  intro past _
  split
  · trivial
  next base normalized =>
    apply Careful.ite
    · exact fun _ => trivial
    intro keyed
    apply Careful.ofExcept_bind
    intro source sourced
    apply Careful.bind
    · apply Careful.send
      intro _
      unfold body at sourced
      split at sourced
      · contradiction
      next made =>
        cases sourced
        obtain ⟨rfl, short⟩ := memoryBody_spec made
        apply passes_of [26, 36]
        · exact validUrl_of_base normalized ⟨⟨_, rfl⟩, by decide, by decide⟩
        · exact .cons ⟨by decide, by decide⟩ (.cons short_json .nil)
        · decide
        · exact validBody_memory nofun
            (List.append_ne_nil_of_right_ne_nil _ (by decide)) short
        · exact ⟨rfl, rfl⟩
    · exact fun _ _ => Careful.ite (fun _ => trivial) fun _ => Careful.ofExcept _

end

end DonBotClient
end MannyUploader.Providers
