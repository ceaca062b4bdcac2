import Mathlib.Data.List.DropRight
import MannyUploader.Application.ApiBaseLaws

/-! A normalized API base stays what it is, and can be saved and requested. -/
namespace MannyUploader.Application
open Domain Foundation

/-! The check of a URL with the scheme `https` is one of its bytes and of its authority. -/

section https
variable {url : String} {rest : List UInt8}

structure HttpsAuthority (authority : List UInt8) : Prop where
  nonempty : authority ≠ []
  nobody : 64 ∉ authority
  host : ∃ host port, splitHost authority = some (host, port) ∧ PortSuffix port

/-- The authority that the check of HTTP reads. -/
def httpAuthority (rest : List UInt8) : List UInt8 :=
  rest.takeWhile fun byte => byte != 47 && byte != 63

theorem validateHttpUrl_https (shape : utf8 url = utf8 "https://" ++ rest) :
    (validateHttpUrl url .httpsOnly).isOk = true ↔ (utf8 url).length ≤ maxHttpUrlBytes ∧
      (utf8 url).all validUrlByte = true ∧ HttpsAuthority (httpAuthority rest) := by
  have parts : splitOnce (utf8 "://") (utf8 url) = some (utf8 "https", rest) := by
    rw [shape, show utf8 "https://" = [104, 116, 116, 112, 115, 58, 47, 47] by decide,
      show utf8 "://" = [58, 47, 47] by decide,
      show utf8 "https" = [104, 116, 116, 112, 115] by decide]
    simp [splitOnce, stripPrefix]
  have some_bytes : (utf8 url).isEmpty = false := by
    rw [shape]
    rfl
  have secure : equalsIgnoringCase (utf8 "https") "https" = true := by decide
  unfold validateHttpUrl
  simp only [some_bytes, Bool.false_or, parts, secure, ↓reduceIte]
  rw [show (rest.takeWhile fun byte => byte != 47 && byte != 63) = httpAuthority rest from rfl]
  by_cases bytes : (utf8 url).length ≤ maxHttpUrlBytes ∧ (utf8 url).all validUrlByte = true
  · simp only [gt_iff_lt, Nat.not_lt.mpr bytes.1, decide_false, bytes.1, bytes.2, Bool.not_true,
      Bool.or_self, Bool.false_eq_true, ↓reduceIte, true_and]
    by_cases named : (httpAuthority rest).isEmpty = true ∨ (httpAuthority rest).contains 64 = true
    · rw [if_pos (by simpa using named)]
      constructor
      · intro accepted
        cases accepted
      · rintro ⟨nonempty, nobody, -⟩
        simp_all
    · rw [if_neg (by simpa using named)]
      cases found : splitHost (httpAuthority rest) with
      | none =>
        constructor
        · intro accepted
          cases accepted
        · rintro ⟨-, -, host, port, other, -⟩
          rw [found] at other
          cases other
      | some parts =>
        obtain ⟨host, port⟩ := parts
        dsimp only
        cases suffix : port.isEmpty || (stripPrefix (utf8 ":") port).any validPort with
        | false =>
          constructor
          · intro accepted
            cases accepted
          · rintro ⟨-, -, host', port', other, valid⟩
            rw [found] at other
            cases other
            unfold PortSuffix at valid
            rw [suffix] at valid
            cases valid
        | true =>
          simp only [not_or, Bool.not_eq_true] at named
          refine iff_of_true rfl ⟨by simpa using named.1, by simpa using named.2, host, port, found, ?_⟩
          exact suffix
  · have refused : (decide ((utf8 url).length > maxHttpUrlBytes) ||
        !(utf8 url).all validUrlByte) = true := by
      simpa [-List.all_eq_true, imp_iff_not_or] using bytes
    rw [if_pos refused]
    constructor
    · intro accepted
      cases accepted
    · rintro ⟨short, clean, -⟩
      exact absurd ⟨short, clean⟩ bytes

end https

/-! An authority that HTTP accepts is one that the settings allow. -/

theorem mem_splitOn {text : List UInt8} {byte sep : UInt8} (there : byte ∈ text)
    (other : byte ≠ sep) : ∃ part ∈ text.splitOn sep, byte ∈ part := by
  induction text with
  | nil => cases there
  | cons first rest ih =>
    rw [List.splitOn_cons_eq_if_modifyHead]
    rcases List.mem_cons.mp there with rfl | later
    · rw [if_neg (by simpa using other)]
      cases parted : rest.splitOn sep with
      | nil => exact absurd parted (List.splitOn_ne_nil sep rest)
      | cons part others => exact ⟨byte :: part, by simp, by simp⟩
    · obtain ⟨part, listed, inside⟩ := ih later
      split
      · exact ⟨part, List.mem_cons_of_mem _ listed, inside⟩
      · cases parted : rest.splitOn sep with
        | nil => exact absurd parted (List.splitOn_ne_nil sep rest)
        | cons head others =>
          rw [parted] at listed
          rcases List.mem_cons.mp listed with rfl | listed
          · exact ⟨first :: part, by simp, by simp [inside]⟩
          · exact ⟨part, by simp [listed], inside⟩

section settings
variable {authority : List UInt8}

theorem hostName_clean {host : List UInt8} (named : HostName host) :
    host ≠ [] ∧ ∀ byte ∈ host, isLetterOrDigit byte = true ∨ byte = 45 ∨ byte = 46 := by
  obtain ⟨-, labels⟩ := named
  have inside : ∀ byte ∈ stripDot host, isLetterOrDigit byte = true ∨ byte = 45 ∨ byte = 46 := by
    intro byte there
    by_cases dot : byte = 46
    · exact .inr (.inr dot)
    · obtain ⟨label, listed, member⟩ := mem_splitOn there dot
      rcases (labels label listed).2.2.2.2 byte member with plain | hyphen
      · exact .inl plain
      · exact .inr (.inl hyphen)
  constructor
  · rintro rfl
    exact (labels [] (by simp [stripDot])).1 rfl
  · intro byte there
    unfold stripDot at inside
    split at inside
    next dotted =>
      have whole := List.dropLast_append_getLast? 46 dotted
      rw [← whole, List.mem_append, List.mem_singleton] at there
      rcases there with early | last
      · exact inside byte early
      · exact .inr (.inr last)
    · exact inside byte there

theorem validAuthority_of_http (valid : HttpsAuthority authority) :
    validAuthority authority = true := by
  obtain ⟨-, -, host, port, found, suffix⟩ := valid
  unfold PortSuffix at suffix
  rw [splitHost] at found
  by_cases address : authority.head? = some 91
  · obtain ⟨rest, rfl⟩ : ∃ rest, authority = 91 :: rest := by
      cases authority with
      | nil => cases address
      | cons first rest => exact ⟨rest, by rw [Option.some.inj address]⟩
    have opened : stripPrefix (utf8 "[") (91 :: rest) = some rest :=
      stripPrefix_iff.mpr (by rw [show utf8 "[" = [91] by decide]; rfl)
    have inside : (91 :: rest).takeWhile (· != 93) = 91 :: rest.takeWhile (· != 93) := by simp
    have behind : rest.drop ((rest.takeWhile (· != 93)).length + 1) =
        (rest.dropWhile (· != 93)).tail := by
      rw [← List.drop_drop, drop_takeWhile, List.drop_one]
    rw [if_pos address] at found
    dsimp only at found
    split at found
    next parsed =>
      cases found
      rw [inside, List.length_cons, List.drop_succ_cons, behind] at suffix
      simp only [inside, List.drop_succ_cons, List.drop_zero, Bool.and_eq_true] at parsed
      have closed : (93 : UInt8) ∈ rest := by simpa using parsed.1
      rw [validAuthority, opened, show utf8 "]" = [93] by decide]
      dsimp only
      rw [splitOnce_byte, if_pos closed]
      dsimp only
      rw [parsed.2, suffix]
      rfl
    · cases found
  · have closed : stripPrefix (utf8 "[") authority = none := by
      rw [Option.eq_none_iff_forall_ne_some]
      intro rest opened
      rw [show utf8 "[" = [91] by decide, stripPrefix_iff] at opened
      rw [opened] at address
      exact address rfl
    rw [if_neg address] at found
    dsimp only at found
    split at found
    next named =>
      cases found
      obtain ⟨nonempty, clean⟩ := hostName_clean ((validHostName_iff _).mp named)
      have plain : (authority.takeWhile (· != 58)).any (utf8 "[]%").contains = false := by
        rw [List.any_eq_false, show utf8 "[]%" = [91, 93, 37] by decide]
        intro byte there bad
        have listed : byte = 91 ∨ byte = 93 ∨ byte = 37 := by simpa using bad
        rcases clean byte there with letter | rfl | rfl
        · rcases listed with rfl | rfl | rfl <;> simp_all [isLetterOrDigit] <;> revert letter <;> decide
        · revert listed; decide
        · revert listed; decide
      rw [validAuthority, closed, show utf8 ":" = [58] by decide]
      dsimp only
      rw [splitOnce_byte]
      rw [drop_takeWhile, show utf8 ":" = [58] by decide] at suffix
      have filled : (authority.takeWhile (· != 58)).isEmpty = false := by simpa using nonempty
      by_cases there : (58 : UInt8) ∈ authority
      · rw [if_pos there]
        dsimp only
        rw [filled, plain]
        rw [dropWhile_mem there] at suffix
        simpa [stripPrefix] using suffix
      · rw [if_neg there]
        dsimp only
        rw [takeWhile_absent there] at filled plain
        rw [filled, plain]
        rfl
    · cases found

end settings

/-! Trimming takes slashes from behind the authority, and nothing else. -/

section trimming

theorem trimEnd_spec (value : String) : ∃ k,
    utf8 value = utf8 (trimEnd '/' value) ++ List.replicate k 47 := by
  have whole : value.toList.rdropWhile (· == '/') ++ value.toList.rtakeWhile (· == '/') =
      value.toList := List.rdropWhile_append_rtakeWhile
  have slashes : value.toList.rtakeWhile (· == '/') =
      List.replicate (value.toList.rtakeWhile (· == '/')).length '/' := by
    rw [List.eq_replicate_length]
    intro char there
    simpa using List.mem_rtakeWhile_imp there
  have one_byte : ∀ k, (List.replicate k '/').flatMap String.utf8EncodeChar =
      List.replicate k 47 := by
    intro k
    induction k with
    | zero => rfl
    | succ k ih => rw [List.replicate_succ, List.flatMap_cons, ih]; rfl
  refine ⟨(value.toList.rtakeWhile (· == '/')).length, ?_⟩
  calc utf8 value = utf8 (String.ofList value.toList) := by rw [String.ofList_toList]
    _ = utf8 (trimEnd '/' value) ++ (value.toList.rtakeWhile (· == '/')).flatMap
          String.utf8EncodeChar := by
        rw [← whole, utf8_ofList, List.flatMap_append, whole, ← utf8_ofList]
        rfl
    _ = _ := by rw [slashes, one_byte, List.length_replicate]

theorem trimEnd_again (value : String) : trimEnd '/' (trimEnd '/' value) = trimEnd '/' value := by
  have same : ∀ text, trimEnd '/' text = String.ofList (text.toList.rdropWhile (· == '/')) :=
    fun _ => rfl
  rw [same (trimEnd '/' value), same value, String.toList_ofList, List.rdropWhile_idempotent]

/-- A base that passes every check of the normalization. -/
structure Normalizable (value : String) (rest : List UInt8) : Prop where
  shape : utf8 value = utf8 "https://" ++ rest
  short : (utf8 value).length ≤ 2048
  plain : ∀ byte ∈ utf8 value,
    0x21 ≤ byte ∧ byte ≤ 0x7e ∧ (utf8 "@?#\\\"").contains byte = false
  authority : HttpsAuthority (rest.takeWhile (· != 47))
  undotted : (rest.takeWhile (· != 47)).getLast? ≠ some 46
  folders : ((rest.dropWhile (· != 47)).tail.splitOn 47).any isDotSegment = false

theorem forbidden_bytes : utf8 "@?#\\\"" = [64, 63, 35, 92, 34] := by decide

/-- The bytes of such a base suit HTTP, which reads the same authority. -/
theorem http_bytes {value : String} {rest : List UInt8} (shape : utf8 value = utf8 "https://" ++ rest)
    (plain : ∀ byte ∈ utf8 value,
      0x21 ≤ byte ∧ byte ≤ 0x7e ∧ (utf8 "@?#\\\"").contains byte = false) :
    (utf8 value).all validUrlByte = true ∧ httpAuthority rest = rest.takeWhile (· != 47) := by
  constructor
  · rw [List.all_eq_true]
    intro byte there
    obtain ⟨low, high, clean⟩ := plain byte there
    rw [forbidden_bytes] at clean
    rw [validUrlByte, show utf8 "#\\\"" = [35, 92, 34] by decide]
    simp_all
  · apply takeWhile_congr
    intro byte there
    have clean := (plain byte (by rw [shape]; exact List.mem_append_right _ there)).2.2
    rw [forbidden_bytes] at clean
    simp_all

theorem splitAuthority_snd (remainder : List UInt8) :
    (splitAuthority remainder).2 = (remainder.dropWhile (· != 47)).tail := by
  rw [splitAuthority, show utf8 "/" = [47] by decide, splitOnce_byte]
  split
  · rfl
  next absent => rw [← drop_takeWhile, takeWhile_absent absent, List.drop_length]; rfl

theorem normalize_eq_some {value base : String} :
    normalizeDonbotApiBase value = some base ↔
      base = trimEnd '/' value ∧ ∃ rest, Normalizable value rest := by
  by_cases secure : ∃ rest, utf8 value = utf8 "https://" ++ rest
  · obtain ⟨rest, shape⟩ := secure
    have opened : stripPrefix (utf8 "https://") (utf8 value) = some rest := stripPrefix_iff.mpr shape
    have checked := validateHttpUrl_https shape
    unfold normalizeDonbotApiBase
    simp only [opened, Option.bind_eq_bind, Option.bind_some, splitAuthority_fst,
      splitAuthority_snd]
    constructor
    · intro normalized
      split at normalized
      · cases normalized
      next met =>
        split at normalized
        · cases normalized
        next named =>
          simp only [Bool.or_eq_true, not_or, Bool.not_eq_true, Nat.not_lt, Bool.not_eq_false',
            List.all_eq_true, List.any_eq_false, Bool.and_eq_true, decide_eq_true_eq] at met named
          obtain ⟨⟨⟨short, visible⟩, clean⟩, ok⟩ := met
          have plain : ∀ byte ∈ utf8 value,
              0x21 ≤ byte ∧ byte ≤ 0x7e ∧ (utf8 "@?#\\\"").contains byte = false :=
            fun byte there => ⟨(visible byte there).1, (visible byte there).2, clean byte there⟩
          obtain ⟨bytes, same⟩ := http_bytes shape plain
          refine ⟨(Option.some.inj normalized).symm, rest, shape, short, plain, ?_, named.1, ?_⟩
          · rw [← same]
            exact (checked.mp ok).2.2
          · simpa using named.2
    · rintro ⟨rfl, rest', shape', short, plain, authority, undotted, folders⟩
      obtain rfl : rest = rest' := List.append_cancel_left (shape.symm.trans shape')
      obtain ⟨bytes, same⟩ := http_bytes shape plain
      have ok := checked.mpr ⟨short.trans (by decide), bytes, same ▸ authority⟩
      rw [if_neg, if_neg]
      · simp [undotted, folders]
      · simp only [Bool.or_eq_true, not_or, Bool.not_eq_true, Nat.not_lt, Bool.not_eq_false',
          List.all_eq_true, List.any_eq_false, Bool.and_eq_true,
          decide_eq_true_eq]
        exact ⟨⟨⟨short, fun byte there => ⟨(plain byte there).1, (plain byte there).2.1⟩⟩,
          fun byte there => (plain byte there).2.2⟩, ok⟩
  · have closed : stripPrefix (utf8 "https://") (utf8 value) = none := by
      rw [Option.eq_none_iff_forall_ne_some]
      intro rest opened
      exact secure ⟨rest, stripPrefix_iff.mp opened⟩
    have refused : normalizeDonbotApiBase value = none := by
      unfold normalizeDonbotApiBase
      simp only [closed]
      split <;> rfl
    rw [refused]
    constructor
    · intro normalized
      cases normalized
    · rintro ⟨-, rest, valid⟩
      exact absurd ⟨rest, valid.shape⟩ secure

/-- The trimmed base passes the checks as well. -/
theorem Normalizable.trimmed {value : String} {rest : List UInt8}
    (valid : Normalizable value rest) : ∃ rest', Normalizable (trimEnd '/' value) rest' := by
  obtain ⟨shape, short, plain, authority, undotted, folders⟩ := valid
  obtain ⟨k, whole⟩ := trimEnd_spec value
  have parts := List.takeWhile_append_dropWhile (p := (· != (47 : UInt8))) (l := rest)
  generalize named : rest.takeWhile (· != 47) = name at authority undotted parts
  generalize behind : rest.dropWhile (· != 47) = tail at folders parts
  have clean : ∀ byte ∈ name, byte ≠ 47 := by
    intro byte there
    rw [← named] at there
    simpa using List.mem_takeWhile_imp there
  have inside : utf8 "https://" ++ name ++ tail =
      utf8 (trimEnd '/' value) ++ List.replicate k 47 := by
    rw [← whole, shape, ← parts, List.append_assoc]
  have first_slash : ∀ byte ∈ tail.head?, byte = 47 := by
    intro byte there
    have stops := List.head?_dropWhile_not (· != (47 : UInt8)) rest
    rw [behind, there] at stops
    simpa using stops
  obtain ⟨path, trimmed, slashes⟩ : ∃ path,
      utf8 (trimEnd '/' value) = utf8 "https://" ++ name ++ path ∧
        tail = path ++ List.replicate k 47 := by
    obtain ⟨path, trimmed, slashes⟩ | ⟨cut, trimmed, slashes⟩ := List.append_eq_append_iff.mp inside
    · exact ⟨path, trimmed, slashes⟩
    · cases cut using List.reverseRecOn with
      | nil => exact ⟨[], by simpa using trimmed.symm, by simpa using slashes.symm⟩
      | append_singleton cut last =>
        -- What was cut would end with a byte of the authority.
        have of_slashes : last = 47 := by
          have there : last ∈ List.replicate k (47 : UInt8) := by rw [slashes]; simp
          exact (List.mem_replicate.mp there).2
        have of_name : last ∈ name := by
          have ends := congrArg List.getLast? trimmed
          rw [← List.append_assoc, List.getLast?_concat, List.getLast?_append] at ends
          cases found : name.getLast? with
          | none => exact absurd (List.getLast?_eq_none_iff.mp found) authority.nonempty
          | some byte =>
            rw [found] at ends
            cases ends
            exact List.mem_of_getLast? found
        exact absurd of_slashes (clean last of_name)
  have path_slash : path = [] ∨ ∃ rest, path = 47 :: rest := by
    cases path with
    | nil => exact .inl rfl
    | cons byte rest =>
      have := first_slash byte (by rw [slashes]; rfl)
      exact .inr ⟨rest, by rw [this]⟩
  have kept : (name ++ path).takeWhile (· != 47) = name ∧
      (name ++ path).dropWhile (· != 47) = path := by
    have through : ∀ byte ∈ name, (byte != 47) = true := by simpa using clean
    rw [List.takeWhile_append_of_pos through, List.dropWhile_append_of_pos through]
    rcases path_slash with rfl | ⟨rest, rfl⟩ <;> simp
  have subset : ∀ byte ∈ utf8 (trimEnd '/' value), byte ∈ utf8 value := by
    intro byte there
    rw [whole]
    exact List.mem_append_left _ there
  refine ⟨name ++ path, by rw [trimmed, List.append_assoc], ?_,
    fun byte there => plain byte (subset byte there), kept.1.symm ▸ authority,
    kept.1.symm ▸ undotted, ?_⟩
  · have := congrArg List.length whole
    rw [List.length_append] at this
    omega
  · rw [kept.2]
    rcases path_slash with rfl | ⟨rest, rfl⟩
    · decide
    · rw [slashes, List.cons_append, List.tail_cons] at folders
      rw [List.tail_cons]
      cases k with
      | zero => simpa using folders
      | succ k =>
        rw [List.replicate_succ, List.splitOn_append_cons_self, List.any_append] at folders
        exact (Bool.or_eq_false_iff.mp folders).1

end trimming

/-- Every character that is not ASCII ends with a byte that is not. -/
theorem high_byte {char : Char} (wide : 0x7f < char.toNat) :
    ∃ byte ∈ String.utf8EncodeChar char, 0x80 ≤ byte := by
  have marked : ∀ byte : UInt8, 0x80 ≤ byte ||| 0x80 := by
    intro byte
    rw [UInt8.le_iff_toNat_le, UInt8.toNat_or]
    exact Nat.right_le_or
  have many : ¬char.val ≤ 0x7f := by
    rw [UInt32.le_iff_toNat_le]
    exact Nat.not_le.mpr wide
  by_cases two : char.val ≤ 0x7ff
  · rw [String.utf8EncodeChar_eq_cons_cons ((if_neg many).trans (if_pos two))]
    exact ⟨_, List.mem_cons_of_mem _ List.mem_cons_self, marked _⟩
  by_cases three : char.val ≤ 0xffff
  · rw [String.utf8EncodeChar_eq_cons_cons_cons
      ((if_neg many).trans ((if_neg two).trans (if_pos three)))]
    exact ⟨_, List.mem_cons_of_mem _ List.mem_cons_self, marked _⟩
  · rw [String.utf8EncodeChar_eq_cons_cons_cons_cons
      ((if_neg many).trans ((if_neg two).trans (if_neg three)))]
    exact ⟨_, List.mem_cons_of_mem _ List.mem_cons_self, marked _⟩

theorem ascii_of_bytes {text : String} {char : Char} (there : char ∈ text.toList)
    (visible : ∀ byte ∈ utf8 text, 0x21 ≤ byte ∧ byte ≤ 0x7e) :
    0x21 ≤ char.toNat ∧ char.toNat ≤ 0x7e := by
  have bytes : ∀ byte ∈ String.utf8EncodeChar char, 0x21 ≤ byte ∧ byte ≤ 0x7e := by
    intro byte member
    apply visible
    rw [← String.ofList_toList (s := text), utf8_ofList]
    exact List.mem_flatMap.mpr ⟨char, there, member⟩
  by_cases narrow : char.toNat ≤ 0x7f
  · have small : char.val ≤ 0x7f := UInt32.le_iff_toNat_le.mpr narrow
    have size : char.utf8Size = 1 := if_pos small
    have only := bytes char.val.toUInt8 (by rw [String.utf8EncodeChar_eq_singleton size]; simp)
    have same : char.val.toUInt8.toNat = char.toNat := by
      rw [UInt32.toNat_toUInt8, Nat.mod_eq_of_lt]
      · rfl
      · exact Nat.lt_of_le_of_lt narrow (by decide)
    simp only [UInt8.le_iff_toNat_le, same] at only
    exact only
  · obtain ⟨byte, member, high⟩ := high_byte (Nat.lt_of_not_le narrow)
    have low := (bytes byte member).2
    rw [UInt8.le_iff_toNat_le] at high low
    exact absurd (high.trans low) (by decide)

theorem Normalizable.validApiBase {value : String} {rest : List UInt8}
    (valid : Normalizable value rest) : validApiBase value = true := by
  obtain ⟨shape, short, plain, authority, -, folders⟩ := valid
  have secure : stripPrefix (utf8 "https://") (utf8 value) = some rest := stripPrefix_iff.mpr shape
  have unspaced : value.toList.any isWhitespace = false := by
    rw [List.any_eq_false]
    intro char there space
    obtain ⟨low, high⟩ := ascii_of_bytes there fun byte member =>
      ⟨(plain byte member).1, (plain byte member).2.1⟩
    simp [isWhitespace] at space
    omega
  have visible : (utf8 value).any isAsciiControl = false := by
    rw [List.any_eq_false]
    intro byte there control
    obtain ⟨low, high, -⟩ := plain byte there
    simp only [isAsciiControl, Bool.or_eq_true, decide_eq_true_eq, beq_iff_eq] at control
    rcases control with control | rfl
    · rw [UInt8.lt_iff_toNat_lt] at control
      rw [UInt8.le_iff_toNat_le] at low
      exact absurd (low.trans_lt control) (by decide)
    · exact absurd high (by decide)
  have clean : (utf8 value).any (utf8 "@?#\\").contains = false := by
    rw [List.any_eq_false, show utf8 "@?#\\" = [64, 63, 35, 92] by decide]
    intro byte there bad
    have allowed := (plain byte there).2.2
    rw [forbidden_bytes] at allowed
    simp_all
  have filled : ((rest.takeWhile (· != 47)).isEmpty) = false := by simpa using authority.nonempty
  unfold Domain.validApiBase
  rw [secure]
  dsimp only
  rw [unspaced, visible, clean, if_neg (by simpa using short), splitAuthority_fst, splitAuthority_snd,
    filled, folders]
  exact validAuthority_of_http authority

theorem Normalizable.validateHttpUrl {value : String} {rest : List UInt8}
    (valid : Normalizable value rest) : validateHttpUrl value .httpsOnly = .ok () := by
  obtain ⟨bytes, same⟩ := http_bytes valid.shape valid.plain
  have ok := (validateHttpUrl_https valid.shape).mpr
    ⟨valid.short.trans (by decide), bytes, same ▸ valid.authority⟩
  cases outcome : Application.validateHttpUrl value .httpsOnly with
  | ok => rfl
  | error => rw [outcome] at ok; cases ok

/-- A normalized base is its own normal form, the settings take it, and HTTP accepts it. -/
theorem normalized_stable {value base : String}
    (normalized : normalizeDonbotApiBase value = some base) :
    normalizeDonbotApiBase base = some base ∧ validApiBase base = true ∧
      validateHttpUrl base .httpsOnly = .ok () := by
  obtain ⟨rfl, rest, valid⟩ := normalize_eq_some.mp normalized
  obtain ⟨rest', trimmed⟩ := valid.trimmed
  refine ⟨?_, trimmed.validApiBase, trimmed.validateHttpUrl⟩
  exact normalize_eq_some.mpr ⟨(trimEnd_again value).symm, rest', trimmed⟩

theorem normalized_stable_sample :
    normalizeDonbotApiBase "https://bot.example:8443/api/" =
      some "https://bot.example:8443/api" ∧
    validApiBase "https://bot.example:8443/api" = true :=
  have normalized : normalizeDonbotApiBase "https://bot.example:8443/api/" =
      some "https://bot.example:8443/api" := by decide
  ⟨normalized, (normalized_stable normalized).2.1⟩

end MannyUploader.Application
