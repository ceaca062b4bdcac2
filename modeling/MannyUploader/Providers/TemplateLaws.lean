import MannyUploader.Providers.TwitchClient

/-! The templates of Twitch messages: the grammar that is accepted, the way back to the source,
and what becomes of a message on its way to the chat. -/
namespace MannyUploader.Domain.TwitchMessageTemplate

def fieldName : TemplateField → String
  | .url => "url"
  | .encounter => "encounter"
  | .mode => "mode"
  | .modeSuffix => "mode_suffix"
  | .result => "result"
  | .bossId => "boss_id"

/-- The grammar: a plain character, a doubled brace, or a field in braces. -/
inductive Piece
  | plain (char : Char) (ordinary : char ≠ '{' ∧ char ≠ '}')
  | opened
  | closed
  | field (field : TemplateField)

def Piece.text : Piece → List Char
  | .plain char _ => [char]
  | .opened => ['{', '{']
  | .closed => ['}', '}']
  | .field named => '{' :: (fieldName named).toList ++ ['}']

/-- A template of at most 500 bytes without control characters that names the report. -/
structure Grammatical (source : String) : Prop where
  short : (utf8 source).length ≤ 500
  printable : (utf8 source).any isAsciiControl = false
  pieces : ∃ pieces : List Piece, source.toList = pieces.flatMap Piece.text ∧
    .field .url ∈ pieces

def doubled (char : Char) : List Char :=
  if char = '{' ∨ char = '}' then [char, char] else [char]

/-- A part as it stands in a source. -/
def writePart : TemplatePart → List Char
  | .literal text => text.toList.flatMap doubled
  | .field field => '{' :: (fieldName field).toList ++ ['}']

def write (parts : List TemplatePart) : String := String.ofList (parts.flatMap writePart)

theorem fieldNamed_fieldName (field : TemplateField) : fieldNamed (fieldName field) = some field := by
  cases field <;> rfl

theorem fieldName_of_fieldNamed {name : String} {field : TemplateField}
    (named : fieldNamed name = some field) : name = fieldName field := by
  unfold fieldNamed at named
  split at named <;> cases named <;> rfl

/-- What has been read of a field whose name is not complete. -/
def opening : Option String → List Char
  | none => []
  | some name => '{' :: name.toList

theorem write_flush (parts : List TemplatePart) (literal : String) :
    (flush parts literal).flatMap writePart =
      parts.flatMap writePart ++ literal.toList.flatMap doubled := by
  unfold flush
  split
  next empty =>
    have nothing : literal = "" := by simpa using empty
    simp [nothing]
  · simp [writePart]

theorem mem_flush {parts : List TemplatePart} {literal : String} {field : TemplateField} :
    .field field ∈ flush parts literal ↔ .field field ∈ parts := by
  unfold flush
  split <;> simp

section parse
variable {chars : List Char} {name : Option String} {literal : String}
  {parts result : List TemplatePart}

/-- What is parsed has the grammar, and is written as it was read. -/
theorem parseParts_ok (parsed : parseParts chars name literal parts = .ok result)
    (taken : name ≠ none → literal = "") :
    result.flatMap writePart =
        parts.flatMap writePart ++ literal.toList.flatMap doubled ++ opening name ++ chars ∧
      .field .url ∈ result ∧
      ∃ pieces : List Piece, opening name ++ chars = pieces.flatMap Piece.text ∧
        (.field .url ∈ parts ∨ .field .url ∈ pieces) := by
  fun_induction parseParts chars name literal parts with
  | case1 | case3 | case5 | case6 | case11 => cases parsed
  | case2 literal parts named =>
    cases parsed
    have named : TemplatePart.field .url ∈ parts := by simpa using named
    exact ⟨by simp [write_flush, opening], mem_flush.mpr named, [], rfl, .inl named⟩
  | case4 rest name literal parts field named ih =>
    obtain ⟨written, url, pieces, text, named'⟩ := ih parsed (by simp)
    obtain rfl := taken (by simp)
    obtain rfl := fieldName_of_fieldNamed named
    refine ⟨?_, url, .field field :: pieces, ?_, ?_⟩
    · rw [written]
      simp [writePart, opening]
    · simpa [opening, Piece.text] using text
    · simpa [or_assoc, or_comm, or_left_comm, eq_comm] using named'
  | case7 char rest name literal parts notClosed notOpened ih =>
    obtain rfl := taken (by simp)
    obtain ⟨written, url, pieces, text, named⟩ := ih parsed (by simp)
    refine ⟨?_, url, pieces, ?_, named⟩
    · rw [written]
      simp [opening, String.toList_push]
    · rw [← text]
      simp [opening, String.toList_push]
  | case8 rest literal parts ih =>
    obtain ⟨written, url, pieces, text, named⟩ := ih parsed (by simp)
    refine ⟨?_, url, .opened :: pieces, ?_, by simpa using named⟩
    · rw [written]
      simp [opening, String.toList_push, doubled]
    · simpa [opening, Piece.text] using text
  | case9 rest literal parts ih =>
    obtain ⟨written, url, pieces, text, named⟩ := ih parsed (by simp)
    refine ⟨?_, url, .closed :: pieces, ?_, by simpa using named⟩
    · rw [written]
      simp [opening, String.toList_push, doubled]
    · simpa [opening, Piece.text] using text
  | case10 rest literal parts single ih =>
    obtain ⟨written, url, pieces, text, named⟩ := ih parsed (by simp)
    rw [mem_flush] at named
    refine ⟨?_, url, pieces, ?_, named⟩
    · rw [written, write_flush]
      simp [opening]
    · simpa [opening] using text
  | case12 char rest literal parts _ _ notOpened notClosed ih =>
    obtain ⟨written, url, pieces, text, named⟩ := ih parsed (by simp)
    refine ⟨?_, url, .plain char ⟨notOpened, notClosed⟩ :: pieces, ?_, by simpa using named⟩
    · rw [written]
      have single : doubled char = [char] := if_neg (not_or.mpr ⟨notOpened, notClosed⟩)
      simp [opening, String.toList_push, single]
    · simpa [opening, Piece.text] using text

/-- The characters of a name are collected up to the brace behind it. -/
theorem parseParts_name {tail rest : List Char} (acc : String)
    (ordinary : ∀ char ∈ tail, char ≠ '{' ∧ char ≠ '}') :
    parseParts (tail ++ '}' :: rest) (some acc) literal parts =
      parseParts ('}' :: rest) (some (String.ofList (acc.toList ++ tail))) literal parts := by
  induction tail generalizing acc with
  | nil => simp
  | cons char tail ih =>
    obtain ⟨notOpened, notClosed⟩ := ordinary char (by simp)
    have step : parseParts (char :: (tail ++ '}' :: rest)) (some acc) literal parts =
        parseParts (tail ++ '}' :: rest) (some (acc.push char)) literal parts := by
      rw [parseParts]
      · exact notClosed
      · exact notOpened
    rw [List.cons_append, step,
      ih (acc.push char) fun other member => ordinary other (by simp [member])]
    simp [String.toList_push]

theorem fieldName_ordinary (field : TemplateField) :
    ∀ char ∈ (fieldName field).toList, char ≠ '{' ∧ char ≠ '}' := by
  have each : (fieldName field).toList.all (fun char => char != '{' && char != '}') = true := by
    cases field <;> decide
  simpa using each

variable (literal parts) in
/-- Whatever has the grammar is parsed. -/
theorem parseParts_pieces (pieces : List Piece)
    (named : .field .url ∈ parts ∨ .field .url ∈ pieces) :
    ∃ result, parseParts (pieces.flatMap Piece.text) none literal parts = .ok result := by
  induction pieces generalizing literal parts with
  | nil =>
    have named : TemplatePart.field .url ∈ parts := by simpa using named
    exact ⟨flush parts literal, by simp [parseParts, named]⟩
  | cons piece pieces ih =>
    cases piece with
    | plain char ordinary =>
      obtain ⟨result, parsed⟩ := ih (literal.push char) parts (by simpa using named)
      refine ⟨result, ?_⟩
      simpa [Piece.text, parseParts, ordinary.1, ordinary.2] using parsed
    | opened =>
      obtain ⟨result, parsed⟩ := ih (literal.push '{') parts (by simpa using named)
      exact ⟨result, by simpa [Piece.text, parseParts] using parsed⟩
    | closed =>
      obtain ⟨result, parsed⟩ := ih (literal.push '}') parts (by simpa using named)
      exact ⟨result, by simpa [Piece.text, parseParts] using parsed⟩
    | field field =>
      obtain ⟨result, parsed⟩ := ih "" (flush parts literal ++ [.field field])
        (by simpa [mem_flush, or_assoc, eq_comm] using named)
      refine ⟨result, ?_⟩
      have split : (Piece.field field :: pieces).flatMap Piece.text =
          '{' :: ((fieldName field).toList ++ '}' :: pieces.flatMap Piece.text) := by
        simp [Piece.text]
      have start : parseParts ('{' :: ((fieldName field).toList ++ '}' :: pieces.flatMap Piece.text))
          none literal parts = parseParts ((fieldName field).toList ++ '}' :: pieces.flatMap Piece.text)
            (some "") "" (flush parts literal) := by
        cases field <;> rfl
      rw [split, start, parseParts_name "" (fieldName_ordinary field)]
      simpa [parseParts, fieldNamed_fieldName] using parsed

end parse

theorem isEmpty_utf8 (text : String) : (utf8 text).isEmpty = text.isEmpty := by
  rw [Bool.eq_iff_iff, List.isEmpty_iff, String.isEmpty_iff]
  constructor
  · intro empty
    have bytes := fromUTF8_utf8 text
    rw [empty] at bytes
    have nothing := fromUTF8_utf8 ""
    rw [show utf8 "" = [] from rfl, bytes] at nothing
    exact Option.some.inj nothing
  · rintro rfl
    rfl

/-- A template is accepted exactly when it has the grammar. -/
theorem parse_iff (source : String) : (∃ parts, parse source = .ok parts) ↔ Grammatical source := by
  unfold parse
  constructor
  · rintro ⟨parts, parsed⟩
    split at parsed
    · cases parsed
    split at parsed
    · cases parsed
    rename_i short
    split at parsed
    · cases parsed
    rename_i printable
    obtain ⟨-, -, pieces, text, named⟩ := parseParts_ok parsed (by simp)
    exact ⟨Nat.le_of_not_lt short, by simpa using printable, pieces, text, by simpa using named⟩
  · rintro ⟨short, printable, pieces, text, named⟩
    obtain ⟨parts, parsed⟩ := parseParts_pieces "" [] pieces (.inr named)
    have nonempty : source.isEmpty = false := by
      rw [← Bool.not_eq_true, String.isEmpty_iff]
      rintro rfl
      have texts := List.flatMap_eq_nil_iff.mp text.symm (.field .url) named
      cases texts
    rw [if_neg (by simp [nonempty]), if_neg (Nat.not_lt.mpr short), if_neg (by simp [printable]), text]
    exact ⟨parts, parsed⟩

/-- The parts of a template, written back. -/
theorem write_parse {source : String} {parts : List TemplatePart}
    (parsed : parse source = .ok parts) : write parts = source ∧ .field .url ∈ parts := by
  unfold parse at parsed
  split at parsed
  · cases parsed
  split at parsed
  · cases parsed
  split at parsed
  · cases parsed
  obtain ⟨written, named, -⟩ := parseParts_ok parsed (by simp)
  refine ⟨?_, named⟩
  rw [write, written]
  simp [opening]

section render
variable {output value out : String} {report : DpsReportResult}

/-- What fits the transport: its length in bytes, and no control character. -/
structure Clean (text : String) : Prop where
  short : (utf8 text).length ≤ 2000
  printable : (utf8 text).any isAsciiControl = false

theorem append_ok (h : append output value = .ok out) (clean : Clean output) :
    out = output ++ value ∧ Clean out := by
  unfold append at h
  split at h
  · cases h
  rename_i room
  split at h
  · cases h
  rename_i printable
  cases h
  have fits := clean.short
  refine ⟨rfl, ?_, ?_⟩
  · rw [utf8_append, List.length_append]
    omega
  · rw [utf8_append, List.any_append, clean.printable, Bool.false_or]
    simpa using printable

/-- A part adds to the output. -/
theorem renderPart_ok {part : TemplatePart} (h : renderPart report output part = .ok out)
    (clean : Clean output) : Clean out ∧ ∃ added, out = output ++ added ∧
      (part = .field .url → added = report.permalink) := by
  cases part with
  | literal text =>
    obtain ⟨rfl, clean⟩ := append_ok h clean
    exact ⟨clean, text, rfl, nofun⟩
  | field field =>
    cases field with
    | modeSuffix =>
      simp only [renderPart] at h
      split at h
      · cases h
        exact ⟨clean, "", by simp, nofun⟩
      · obtain ⟨first, added, h⟩ := Foundation.bind_ok h
        obtain ⟨rfl, clean⟩ := append_ok added clean
        obtain ⟨second, added, h⟩ := Foundation.bind_ok h
        obtain ⟨rfl, clean⟩ := append_ok added clean
        obtain ⟨rfl, clean⟩ := append_ok h clean
        exact ⟨clean, " (" ++ report.mode ++ ")", by simp only [String.append_assoc], nofun⟩
    | url =>
      obtain ⟨rfl, clean⟩ := append_ok h clean
      exact ⟨clean, report.permalink, rfl, fun _ => rfl⟩
    | encounter | mode | result | bossId =>
      obtain ⟨rfl, clean⟩ := append_ok h clean
      exact ⟨clean, _, rfl, nofun⟩

theorem renderParts_ok {parts : List TemplatePart}
    (h : parts.foldlM (renderPart report) output = .ok out) (clean : Clean output)
    (linked : (utf8 report.permalink).isEmpty = false) :
    Clean out ∧ ((utf8 output).isEmpty = false ∨ .field .url ∈ parts →
      (utf8 out).isEmpty = false) := by
  induction parts generalizing output with
  | nil =>
    cases h
    exact ⟨clean, fun shown => shown.resolve_right (by simp)⟩
  | cons part rest ih =>
    obtain ⟨next, rendered, h⟩ := Foundation.bind_ok h
    obtain ⟨clean, added, rfl, link⟩ := renderPart_ok rendered clean
    obtain ⟨clean, grows⟩ := ih h clean
    refine ⟨clean, fun shown => grows ?_⟩
    rw [utf8_append]
    rcases shown with before | named
    · left
      simp_all
    rcases List.mem_cons.mp named with here | later
    · left
      rw [link here.symm]
      simp_all
    · exact .inr later

end render

/-- A template is accepted exactly when it has the grammar, its parts are written back as it
was, and whatever it renders passes the checks of the chat delivery. -/
theorem template_delivers :
    (∀ source, (∃ parts, parse source = .ok parts) ↔ Grammatical source) ∧
    (∀ source parts, parse source = .ok parts → write parts = source) ∧
    ∀ source parts report message, parse source = .ok parts →
      render parts report = .ok message → Providers.TwitchClient.validMessage message = true := by
  refine ⟨parse_iff, fun source parts parsed => (write_parse parsed).1, ?_⟩
  intro source parts report message parsed rendered
  unfold render at rendered
  split at rendered
  · cases rendered
  rename_i linked
  obtain ⟨output, filled, rendered⟩ := Foundation.bind_ok rendered
  split at rendered
  · cases rendered
  rename_i short
  cases rendered
  have linked : (utf8 report.permalink).isEmpty = false := by
    rw [isEmpty_utf8]
    simpa using linked
  obtain ⟨clean, shown⟩ := renderParts_ok filled ⟨by decide, by decide⟩ linked
  have nonempty := shown (.inr (write_parse parsed).2)
  simp only [Providers.TwitchClient.validMessage, nonempty, clean.short, clean.printable,
    Nat.le_of_not_lt short, Bool.not_false, decide_true, Bool.and_true]

theorem template_delivers_sample :
    Grammatical "\x7b\x7b\x7burl\x7d" ∧ write [.literal "\x7b", .field .url] = "\x7b\x7b\x7burl\x7d" ∧
      Providers.TwitchClient.validMessage "\x7bhttps://dps.report/a" = true :=
  have parsed : parse "\x7b\x7b\x7burl\x7d" = .ok [.literal "\x7b", .field .url] := by decide +kernel
  have rendered : render [.literal "\x7b", .field .url]
      { permalink := "https://dps.report/a", encounterName := "", bossId := 0, mode := "",
        success := true } = .ok "\x7bhttps://dps.report/a" := by decide +kernel
  ⟨(template_delivers.1 _).mp ⟨_, parsed⟩, template_delivers.2.1 _ _ parsed,
    template_delivers.2.2 _ _ _ _ parsed rendered⟩

end MannyUploader.Domain.TwitchMessageTemplate
