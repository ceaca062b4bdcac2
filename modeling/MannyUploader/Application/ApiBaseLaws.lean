import Mathlib.Data.List.TakeWhile
import MannyUploader.Config.SettingsCodec
import MannyUploader.Providers.DonBotWorker

/-! Which of the API bases that the settings allow the DonBot client can use. -/
namespace MannyUploader.Application
open Domain Foundation

/-- Labels of letters, digits and inner hyphens, at most 253 bytes in all; one dot may end
the name. -/
def HostName (host : List UInt8) : Prop :=
  host.length ≤ 253 ∧ ∀ label ∈ (stripDot host).splitOn 46,
    label ≠ [] ∧ label.length ≤ 63 ∧ label.head? ≠ some 45 ∧ label.getLast? ≠ some 45 ∧
      ∀ byte ∈ label, isLetterOrDigit byte = true ∨ byte = 45

/-- The authority of a base behind `https://`. -/
def baseAuthority (value : String) : List UInt8 :=
  ((utf8 value).drop (utf8 "https://").length).takeWhile (· != 47)

/-- Visible ASCII without a double quote, on an IPv6 address or a host name, and with no dot at
the end of the authority. -/
def Usable (value : String) : Prop :=
  (∀ byte ∈ utf8 value, 0x21 ≤ byte ∧ byte ≤ 0x7e ∧ byte ≠ 34) ∧
    ((baseAuthority value).head? = some 91 ∨
      HostName ((baseAuthority value).takeWhile (· != 58))) ∧
    (baseAuthority value).getLast? ≠ some 46

theorem validHostName_iff (host : List UInt8) : validHostName host = true ↔ HostName host := by
  have nonempty : (∀ label ∈ (stripDot host).splitOn 46, label ≠ []) → stripDot host ≠ [] := by
    intro labels empty
    exact labels [] (by simp [empty]) rfl
  simp only [validHostName, HostName, validLabel, Bool.and_eq_true, Bool.not_eq_true',
    List.isEmpty_eq_false_iff, decide_eq_true_eq, List.all_eq_true, bne_iff_ne, ne_eq,
    Bool.or_eq_true, beq_iff_eq]
  constructor
  · rintro ⟨⟨-, short⟩, labels⟩
    exact ⟨short, fun label there => by simpa [and_assoc] using labels label there⟩
  · rintro ⟨short, labels⟩
    exact ⟨⟨nonempty fun label there => (labels label there).1, short⟩,
      fun label there => by simpa [and_assoc] using labels label there⟩

theorem takeWhile_absent {byte : UInt8} {text : List UInt8} (absent : byte ∉ text) :
    text.takeWhile (· != byte) = text := by
  rw [List.takeWhile_eq_self_iff]
  intro other there
  have different : other ≠ byte := by
    intro same
    exact absent (same ▸ there)
  simpa using different

theorem drop_takeWhile (p : UInt8 → Bool) (text : List UInt8) :
    text.drop (text.takeWhile p).length = text.dropWhile p := by
  induction text with
  | nil => rfl
  | cons byte rest ih =>
    rw [List.takeWhile_cons, List.dropWhile_cons]
    split
    · rw [List.length_cons, List.drop_succ_cons, ih]
    · rfl

theorem dropWhile_mem {byte : UInt8} {text : List UInt8} (there : byte ∈ text) :
    text.dropWhile (· != byte) = byte :: (text.dropWhile (· != byte)).tail := by
  induction text with
  | nil => cases there
  | cons other rest ih =>
    by_cases same : other = byte
    · simp [same]
    · have later : byte ∈ rest := by simpa [Ne.symm same] using there
      simpa [List.dropWhile_cons, same] using ih later

theorem takeWhile_congr {p q : UInt8 → Bool} {text : List UInt8}
    (same : ∀ byte ∈ text, p byte = q byte) : text.takeWhile p = text.takeWhile q := by
  induction text with
  | nil => rfl
  | cons byte rest ih =>
    rw [List.takeWhile_cons, List.takeWhile_cons, same byte (by simp),
      ih fun other there => same other (by simp [there])]

theorem splitAuthority_fst (remainder : List UInt8) :
    (splitAuthority remainder).1 = remainder.takeWhile (· != 47) := by
  rw [splitAuthority, show utf8 "/" = [47] by decide, splitOnce_byte]
  split
  · rfl
  next absent => exact (takeWhile_absent absent).symm

section authorities
variable {authority : List UInt8}

/-- What may follow a host. -/
def PortSuffix (port : List UInt8) : Prop :=
  (port.isEmpty || (stripPrefix (utf8 ":") port).any validPort) = true

theorem splitHost_address (valid : validAuthority authority = true)
    (address : authority.head? = some 91) :
    ∃ host port, splitHost authority = some (host, port) ∧ PortSuffix port := by
  obtain ⟨rest, rfl⟩ : ∃ rest, authority = 91 :: rest := by
    cases authority with
    | nil => cases address
    | cons first rest => exact ⟨rest, by rw [Option.some.inj address]⟩
  have opened : stripPrefix (utf8 "[") (91 :: rest) = some rest :=
    stripPrefix_iff.mpr (by rw [show utf8 "[" = [91] by decide]; rfl)
  rw [validAuthority, opened, show utf8 "]" = [93] by decide] at valid
  dsimp only at valid
  rw [splitOnce_byte] at valid
  by_cases closed : (93 : UInt8) ∈ rest
  · simp only [closed, ↓reduceIte, Bool.and_eq_true] at valid
    have inside : (91 :: rest).takeWhile (· != 93) = 91 :: rest.takeWhile (· != 93) := by
      simp
    have behind : rest.drop ((rest.takeWhile (· != 93)).length + 1) =
        (rest.dropWhile (· != 93)).tail := by
      rw [← List.drop_drop, drop_takeWhile, List.drop_one]
    refine ⟨91 :: rest.takeWhile (· != 93) ++ [93], (rest.dropWhile (· != 93)).tail, ?_, valid.2⟩
    rw [splitHost, if_pos address]
    simp [inside, behind, closed, valid.1]
  · rw [if_neg closed] at valid
    cases valid

theorem portSuffix_name (valid : validAuthority authority = true)
    (name : authority.head? ≠ some 91) :
    PortSuffix (authority.drop (authority.takeWhile (· != 58)).length) := by
  have closed : stripPrefix (utf8 "[") authority = none := by
    rw [Option.eq_none_iff_forall_ne_some]
    intro rest opened
    rw [show utf8 "[" = [91] by decide, stripPrefix_iff] at opened
    rw [opened] at name
    exact name rfl
  rw [validAuthority, closed, show utf8 ":" = [58] by decide] at valid
  dsimp only at valid
  rw [splitOnce_byte] at valid
  rw [drop_takeWhile, PortSuffix, show utf8 ":" = [58] by decide]
  by_cases there : (58 : UInt8) ∈ authority
  · simp only [there, ↓reduceIte, Bool.and_eq_true, Option.all_some] at valid
    rw [dropWhile_mem there]
    simpa [stripPrefix] using valid.2
  · have none_left : authority.dropWhile (· != 58) = [] := by
      rw [← drop_takeWhile, takeWhile_absent there, List.drop_length]
    rw [none_left]
    rfl

end authorities

section bases
variable {value : String}

/-- What the rule of the settings says of a base. -/
theorem validApiBase_parts (valid : validApiBase value = true) :
    ∃ remainder, utf8 value = utf8 "https://" ++ remainder ∧ (utf8 value).length ≤ 2048 ∧
      (∀ byte ∈ utf8 value, (utf8 "@?#\\").contains byte = false) ∧
      (splitAuthority remainder).1 ≠ [] ∧
      ((splitAuthority remainder).2.splitOn 47).any isDotSegment = false ∧
      validAuthority (splitAuthority remainder).1 = true := by
  unfold validApiBase at valid
  split at valid
  · cases valid
  next remainder secure =>
    split at valid
    · cases valid
    next plain =>
      split at valid
      next authority path parts =>
        split at valid
        · cases valid
        next whole =>
          simp only [Bool.or_eq_true, not_or, Bool.not_eq_true, decide_eq_false_iff_not,
            Nat.not_lt, List.any_eq_false] at plain whole
          refine ⟨remainder, stripPrefix_iff.mp secure, plain.1.1.1, plain.2, ?_, ?_, ?_⟩
          · rw [parts]
            simpa using whole.1
          · rw [parts]
            simpa using whole.2
          · rw [parts]
            exact valid

/-- The check of HTTP adds nothing but the rules of host names. -/
theorem validateHttpUrl_base (valid : validApiBase value = true)
    (plain : ∀ byte ∈ utf8 value, 0x21 ≤ byte ∧ byte ≤ 0x7e ∧ byte ≠ 34) :
    (validateHttpUrl value .httpsOnly).isOk = true ↔
      (baseAuthority value).head? = some 91 ∨
        HostName ((baseAuthority value).takeWhile (· != 58)) := by
  obtain ⟨remainder, shape, short, free, nonempty, -, authority⟩ := validApiBase_parts valid
  rw [splitAuthority_fst] at nonempty authority
  have base : baseAuthority value = remainder.takeWhile (· != 47) := by
    rw [baseAuthority, shape, List.drop_left]
  have absent : ∀ byte ∈ remainder, byte ≠ 63 ∧ byte ≠ 64 := by
    intro byte there
    have clean := free byte (by rw [shape]; exact List.mem_append_right _ there)
    rw [show utf8 "@?#\\" = [64, 63, 35, 92] by decide] at clean
    simp only [List.contains_cons, Bool.or_eq_false_iff, beq_eq_false_iff_ne] at clean
    exact ⟨clean.2.1, clean.1⟩
  have allowed : (utf8 value).all validUrlByte = true := by
    rw [List.all_eq_true]
    intro byte there
    have clean := free byte there
    obtain ⟨low, high, unquoted⟩ := plain byte there
    rw [show utf8 "@?#\\" = [64, 63, 35, 92] by decide] at clean
    rw [validUrlByte, show utf8 "#\\\"" = [35, 92, 34] by decide]
    simp_all
  have parts : splitOnce (utf8 "://") (utf8 value) = some (utf8 "https", remainder) := by
    rw [shape, show utf8 "https://" = [104, 116, 116, 112, 115, 58, 47, 47] by decide,
      show utf8 "://" = [58, 47, 47] by decide,
      show utf8 "https" = [104, 116, 116, 112, 115] by decide]
    simp [splitOnce, stripPrefix]
  have inner : (remainder.takeWhile fun byte => byte != 47 && byte != 63) =
      remainder.takeWhile (· != 47) := by
    apply takeWhile_congr
    intro byte there
    simp [(absent byte there).1]
  have nobody : (remainder.takeWhile (· != 47)).contains 64 = false := by
    rw [List.contains_eq_mem, decide_eq_false_iff_not]
    intro there
    exact (absent 64 ((List.takeWhile_sublist _).subset there)).2 rfl
  have filled : (remainder.takeWhile (· != 47)).isEmpty = false := by simpa using nonempty
  have some_bytes : (utf8 value).isEmpty = false := by
    rw [shape]
    rfl
  have within : ¬maxHttpUrlBytes < (utf8 value).length := by
    rw [maxHttpUrlBytes]
    omega
  have secure : equalsIgnoringCase (utf8 "https") "https" = true := by decide
  rw [validateHttpUrl, base]
  simp only [some_bytes, gt_iff_lt, within, decide_false, allowed, Bool.not_true, Bool.or_self,
    Bool.false_eq_true, ↓reduceIte, parts, inner, filled, nobody, secure]
  by_cases address : (remainder.takeWhile (· != 47)).head? = some 91
  · obtain ⟨host, port, found, suffix⟩ := splitHost_address authority address
    unfold PortSuffix at suffix
    simp [found, suffix, address, Except.isOk, Except.toBool]
  · have suffix := portSuffix_name authority address
    unfold PortSuffix at suffix
    rw [splitHost, if_neg address, ← validHostName_iff]
    dsimp only
    cases named : validHostName ((remainder.takeWhile (· != 47)).takeWhile (· != 58)) with
    | true => simp [suffix, Except.isOk, Except.toBool]
    | false => simp [address, Except.isOk, Except.toBool]

/-- A base that the settings allow is normalized exactly if the client can use it. -/
theorem normalize_iff (valid : validApiBase value = true) :
    (normalizeDonbotApiBase value).isSome = true ↔ Usable value := by
  obtain ⟨remainder, shape, short, free, -, folders, -⟩ := validApiBase_parts valid
  have base : baseAuthority value = (splitAuthority remainder).1 := by
    rw [baseAuthority, shape, List.drop_left, splitAuthority_fst]
  have rest : stripPrefix (utf8 "https://") (utf8 value) = some remainder :=
    stripPrefix_iff.mpr shape
  by_cases plain : ∀ byte ∈ utf8 value, 0x21 ≤ byte ∧ byte ≤ 0x7e ∧ byte ≠ 34
  · have visible : (utf8 value).all (fun byte => 0x21 ≤ byte && byte ≤ 0x7e) = true := by
      rw [List.all_eq_true]
      intro byte there
      simp [(plain byte there).1, (plain byte there).2.1]
    have clean : (utf8 value).any (utf8 "@?#\\\"").contains = false := by
      rw [List.any_eq_false]
      intro byte there
      have other := free byte there
      have unquoted := (plain byte there).2.2
      rw [show utf8 "@?#\\" = [64, 63, 35, 92] by decide] at other
      rw [show utf8 "@?#\\\"" = [64, 63, 35, 92, 34] by decide]
      simp_all
    have checked := validateHttpUrl_base valid plain
    have within : ¬2048 < (utf8 value).length := by omega
    rw [normalizeDonbotApiBase]
    simp only [gt_iff_lt, within, decide_false, visible, clean, Bool.not_true, Bool.or_self,
      Bool.false_or, rest, Option.bind_eq_bind, Option.bind_some, folders, Bool.or_false]
    rw [Usable, ← checked, base]
    cases (validateHttpUrl value .httpsOnly).isOk with
    | false => simp
    | true =>
      by_cases dotted : (splitAuthority remainder).1.getLast? = some 46
      · simp [dotted]
      · simp only [dotted]
        simpa [dotted] using plain
  · have refused : normalizeDonbotApiBase value = none := by
      apply if_pos
      by_contra accepted
      simp only [Bool.or_eq_true, not_or, Bool.not_eq_true, Bool.not_eq_false', List.any_eq_false,
        List.all_eq_true, Bool.and_eq_true, decide_eq_true_eq] at accepted
      obtain ⟨⟨⟨-, visible⟩, clean⟩, -⟩ := accepted
      apply plain
      intro byte there
      refine ⟨(visible byte there).1, (visible byte there).2, ?_⟩
      rintro rfl
      exact absurd (clean 34 there) (by decide)
    simp [refused, Usable, plain]

end bases

/-- For settings that passed validation, the base is normalized, the controller is built and
the provider takes its options exactly if the client can use the base. -/
theorem apiBase_accepted_iff {settings : Settings} (valid : settings.validate = []) :
    ((normalizeDonbotApiBase settings.donbot.apiBaseUrl).isSome = true ↔
      Usable settings.donbot.apiBaseUrl) ∧
    (∀ configuration : ConfigurationService, configuration.settings = settings →
      configuration.shuttingDown = false →
      ((DonBotConfigurationController.new configuration).isOk = true ↔
        Usable settings.donbot.apiBaseUrl)) ∧
    ∀ delivery : DonBotDeliveryRoute, delivery.isValid = true →
      (settings.donbot.selectedGuildId = "" → delivery.requested = false) →
      ((Providers.configuredOptions (.donbot settings.donbot.apiBaseUrl
          settings.donbot.selectedGuildId delivery)).isOk = true ↔
        Usable settings.donbot.apiBaseUrl) := by
  simp only [Settings.validate, Settings.validateDonbot, List.append_eq_nil_iff,
    Settings.reject_nil, Bool.not_eq_false'] at valid
  obtain ⟨⟨-, ⟨⟨⟨⟨base, guild⟩, -⟩, -⟩, -⟩⟩, -⟩ := valid
  have accepted := normalize_iff base
  refine ⟨accepted, ?_, ?_⟩
  · intro configuration same running
    rw [DonBotConfigurationController.new, running, if_neg (by simp), same, ← accepted]
    cases normalizeDonbotApiBase settings.donbot.apiBaseUrl <;> simp [Except.isOk, Except.toBool]
  · intro delivery routed unasked
    have known : (!delivery.isValid || (if settings.donbot.selectedGuildId.isEmpty then
        delivery.requested else !canonicalDiscordId settings.donbot.selectedGuildId)) = false := by
      rw [routed]
      cases empty : settings.donbot.selectedGuildId.isEmpty with
      | true => simpa using unasked (String.isEmpty_iff.mp empty)
      | false => simpa [empty] using guild
    rw [Providers.configuredOptions, Providers.normalizeOptions, known, if_neg (by simp), ← accepted]
    cases normalizeDonbotApiBase settings.donbot.apiBaseUrl <;> simp [Except.isOk, Except.toBool]

/-- A host name that is not ASCII. -/
def accentSettings : Settings :=
  { Settings.new "logs" with donbot := { apiBaseUrl := "https://dönbot.example" } }

theorem accentSettings_valid : accentSettings.validate = [] := by decide

theorem accent_refused :
    accentSettings.validate = [] ∧
      normalizeDonbotApiBase accentSettings.donbot.apiBaseUrl = none ∧
      DonBotConfigurationController.new
        ⟨accentSettings, .primary, none, none, 1, false, accentSettings_valid⟩ =
        .error .invalidConfiguration := by
  refine ⟨accentSettings_valid, ?_, ?_⟩ <;> decide

theorem apiBase_accepted_iff_sample :
    ¬Usable accentSettings.donbot.apiBaseUrl ∧ Usable (Settings.new "logs").donbot.apiBaseUrl :=
  have usual : (Settings.new "logs").validate = [] := by decide
  ⟨fun usable => absurd ((apiBase_accepted_iff accentSettings_valid).1.mpr usable)
      (by decide),
    (apiBase_accepted_iff usual).1.mp (by decide)⟩

end MannyUploader.Application
