import MannyUploader.Application.RequestLaws
import MannyUploader.Providers.ExchangeRules

/-! What makes the request of a client pass the check in front of HTTP: a URL, a few headers
of a bounded length each, and a body that is neither empty nor too large. -/
namespace MannyUploader.Providers
open Domain Application Foundation Dialogue Client

/-- The request passes the check. -/
def Passes (request : HttpRequest) : Prop :=
  (validateHttpRequest request .httpsOnly).isOk = true

/-- A header that passes, with a bound on what it adds to the total. -/
def Short (bound : Nat) (header : HttpHeader) : Prop :=
  validHeader header = true ∧ headerLength header ≤ bound

/-- A header is as good as its name and its value. -/
theorem validHeader_value {name : String} {value : SecretValue}
    {sensitivity : HttpHeaderSensitivity}
    (named : validHeader { name, value := [], sensitivity } = true)
    (short : value.length ≤ maxHttpHeaderValueBytes)
    (visible : ∀ byte ∈ value, 0x20 ≤ byte ∧ byte ≤ 0x7e) :
    validHeader { name, value, sensitivity } = true := by
  simp only [validHeader, List.length_nil, List.all_nil, Bool.and_true, Bool.and_eq_true] at named ⊢
  refine ⟨⟨⟨⟨named.1.1.1, by simpa using short⟩, ?_⟩, named.1.2⟩, named.2⟩
  rw [List.all_eq_true]
  intro byte member
  simp [visible byte member]

theorem short_value {name : String} {value : SecretValue} {sensitivity : HttpHeaderSensitivity}
    {bound : Nat} (named : validHeader { name, value := [], sensitivity } = true)
    (visible : ∀ byte ∈ value, 0x20 ≤ byte ∧ byte ≤ 0x7e)
    (length : (utf8 name).length + value.length + 4 ≤ bound)
    (limit : bound ≤ maxHttpHeaderValueBytes) : Short bound { name, value, sensitivity } :=
  ⟨validHeader_value named (by omega) visible, length⟩

theorem valid_of_short {bounds : List Nat} {headers : List HttpHeader}
    (each : List.Forall₂ Short bounds headers) : (∀ header ∈ headers, validHeader header = true) ∧
      (headers.map headerLength).sum ≤ bounds.sum := by
  induction each with
  | nil => exact ⟨nofun, Nat.le_refl 0⟩
  | cons short _ ih =>
    refine ⟨?_, ?_⟩
    · intro header member
      rcases List.mem_cons.mp member with rfl | member
      · exact short.1
      · exact ih.1 header member
    · rw [List.map_cons, List.sum_cons, List.sum_cons]
      exact Nat.add_le_add short.2 ih.2

/-- A few headers of some length each. -/
theorem passes_of {request : HttpRequest} (bounds : List Nat)
    (url : (validateHttpUrl request.url .httpsOnly).isOk = true)
    (headers : List.Forall₂ Short bounds request.headers)
    (total : bounds.length ≤ maxHttpHeaderCount ∧ bounds.sum ≤ maxHttpRequestHeaderBytes)
    (body : request.body.all (validBody request.method) = true)
    (limits : request.timeouts.valid = true ∧ request.responseLimits.valid = true) :
    Passes request := by
  have few : request.headers.length ≤ maxHttpHeaderCount := headers.length_eq ▸ total.1
  obtain ⟨each, sum⟩ := valid_of_short headers
  refine validateHttpRequest_isOk.mpr ⟨url, few, validHeaders_of each ?_, body, limits.1, limits.2⟩
  rw [Nat.zero_add]
  exact sum.trans total.2

theorem memoryBody_spec {bytes : SecretValue} {source : HttpBodySource}
    (built : memoryBody bytes = some source) :
    source = [.memory bytes] ∧ bytes.length ≤ maxHttpRequestBodyBytes := by
  unfold memoryBody at built
  split at built
  · contradiction
  next short =>
    cases built
    exact ⟨rfl, Nat.le_of_not_gt short⟩

theorem validBody_memory {method : HttpMethod} {bytes : SecretValue} (sends : method ≠ .get)
    (some : bytes ≠ []) (short : bytes.length ≤ maxHttpRequestBodyBytes) :
    validBody method [.memory bytes] = true := by
  have positive : 1 ≤ bytes.length := List.length_pos_iff.mpr some
  simp [validBody, HttpBodySource.contentLength, HttpBodySegment.contentLength, sends, short,
    positive]

/-- The client ids that the Twitch client is given are valid ones, or none. -/
def Sane (past : Calls) : Prop :=
  ∀ id : String, (⟨.clientId, some id⟩ : (question : Call) × question.Answer) ∈ past →
    id = "" ∨ validTwitchClientId id = true

/-- Whatever is asked of HTTP passes the check. -/
def onlyPassing (past : Calls) : Call → Prop
  | .execute request => Sane past → Passes request
  | _ => True

/-- Every request that such a client hands over passes. -/
def Careful {ε α : Type} (past : Calls) (client : Client ε α) : Prop :=
  Holds onlyPassing (fun _ _ => True) (fun _ _ => True) past client

namespace Careful
variable {past : Calls} {ε α β : Type}

theorem bind {first : Client ε β} {next : β → Client ε α} (one : Careful past first)
    (two : ∀ past value, Careful past (next value)) : Careful past (first >>= next) :=
  Holds.bind (fun _ _ => True) one fun past value _ => two past value

theorem ofExcept_bind {outcome : Except ε β} {next : β → Client ε α}
    (two : ∀ value, outcome = .ok value → Careful past (next value)) :
    Careful past (ofExcept outcome >>= next) := by
  cases outcome with
  | ok value => exact two value rfl
  | error _ => trivial

theorem ofExcept (outcome : Except ε α) : Careful past (ofExcept outcome) := by
  cases outcome <;> trivial

theorem refuseStop (cancelled : ε) : Careful past (refuseStop cancelled) :=
  holds_refuseStop trivial trivial trivial

theorem send {cancelled : ε} {classify : HttpErrorCode → ε} {request : HttpRequest}
    (passes : Sane past → Passes request) : Careful past (send cancelled classify request) :=
  holds_send passes
    ⟨trivial, fun _ => trivial, fun _ => trivial, fun _ => trivial, fun _ => trivial⟩

theorem execute {cancelled : ε} {classify : HttpErrorCode → ε} {request : HttpRequest}
    (passes : Sane past → Passes request) : Careful past (execute cancelled classify request) := by
  apply holds_execute trivial trivial
  · intro sane
    exact passes fun id member => sane id (List.mem_append_left _ member)
  · exact ⟨trivial, fun _ => trivial, fun _ => trivial, fun _ => trivial, fun _ => trivial⟩

theorem settle {ε' : Type} {first : Client ε' β} {next : Except (Fault ε') β → Client ε α}
    (one : Careful past first) (two : ∀ past outcome, Careful past (next outcome)) :
    Careful past (first.settle next) :=
  Holds.settle (fun _ _ => True) (fun _ _ => True) one (fun past value _ => two past (.ok value))
    fun past error _ => two past (.error error)

theorem mapError {ε' : Type} {first : Client ε' α} {change : Fault ε' → Fault ε}
    (one : Careful past first) : Careful past (first.mapError change) :=
  Holds.mapError (fun _ _ => True) one fun _ _ _ => trivial

theorem catchUnwind {internal : ε} {client : Client ε α} (inside : Careful past client) :
    Careful past (catchUnwind internal client) := inside.mapError

theorem ite {condition : Prop} [Decidable condition] {first second : Client ε α}
    (yes : condition → Careful past first) (no : ¬condition → Careful past second) :
    Careful past (if condition then first else second) := Holds.ite yes no

end Careful

/-! Texts of letters, digits and marks. -/

/-- Bytes that a header may hold. -/
def Visible (bytes : List UInt8) : Prop := ∀ byte ∈ bytes, 0x20 ≤ byte ∧ byte ≤ 0x7e

theorem Visible.append {first second : List UInt8} (one : Visible first) (two : Visible second) :
    Visible (first ++ second) := by
  intro byte member
  exact (List.mem_append.mp member).elim (one byte) (two byte)

theorem visible_of_all {bytes : List UInt8}
    (all : bytes.all (fun byte => 0x20 ≤ byte && byte ≤ 0x7e) = true) : Visible bytes := by
  simpa only [Visible, List.all_eq_true, Bool.and_eq_true, decide_eq_true_eq] using all

theorem visible_of_letterOrDigit {byte : UInt8} (plain : isLetterOrDigit byte = true) :
    0x20 ≤ byte ∧ byte ≤ 0x7e := by
  simp only [isLetterOrDigit, Path.asciiAlphabetic, Domain.isAsciiDigit, Bool.or_eq_true,
    Bool.and_eq_true, decide_eq_true_eq, UInt8.le_iff_toNat_le] at plain ⊢
  grind

theorem visible_digits (n : Nat) : Visible (utf8 (toString n)) := by
  intro byte member
  have digit := utf8_digits n byte member
  exact visible_of_letterOrDigit (by simp [isLetterOrDigit, digit])

theorem length_digits (n : UInt64) : (utf8 (toString n.toNat)).length ≤ 20 :=
  length_utf8_decimal (by decide) (n.toNat_lt.trans (by decide))

/-- No mark that a URL must not hold is a letter or a digit. -/
theorem urlByte_of_letterOrDigit {byte : UInt8} (plain : isLetterOrDigit byte = true) :
    validUrlByte byte = true := by
  have marks : ∀ mark ∈ ([35, 92, 34, 32] : List UInt8), isLetterOrDigit mark = false := by
    decide +kernel
  have other : byte ∉ ([35, 92, 34] : List UInt8) := by
    intro member
    rw [marks byte (by grind)] at plain
    cases plain
  have seen := visible_of_letterOrDigit plain
  have unspaced : byte ≠ 0x20 := by
    rintro rfl
    rw [marks 0x20 (by simp)] at plain
    cases plain
  have low : 0x21 ≤ byte := by
    have above : (0x20 : UInt8).toNat ≠ byte.toNat := fun same => unspaced (UInt8.toNat_inj.mp same).symm
    rw [UInt8.le_iff_toNat_le] at seen ⊢
    have lifted := seen.1
    simp only [UInt8.reduceToNat] at lifted above ⊢
    omega
  rw [validUrlByte, show utf8 "#\\\"" = [35, 92, 34] by decide]
  simpa [low, seen.2] using other

theorem urlBytes_digits (n : Nat) : (utf8 (toString n)).all validUrlByte = true := by
  rw [List.all_eq_true]
  intro byte member
  have digit := utf8_digits n byte member
  exact urlByte_of_letterOrDigit (by simp [isLetterOrDigit, digit])

end MannyUploader.Providers
