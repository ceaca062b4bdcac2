import MannyUploader.Domain.Receipts

/-! The template of a Twitch message, as literal texts and fields. -/
namespace MannyUploader.Domain

inductive TemplateError
  | emptyTemplate | templateTooLong | controlCharacter | invalidSyntax | unknownField | missingUrl
  | invalidFieldValue | messageTooLong | allocationFailed
deriving DecidableEq, Repr

inductive TemplateField
  | url | encounter | mode | modeSuffix | result | bossId
deriving DecidableEq, Repr

inductive TemplatePart
  | literal (text : String)
  | field (field : TemplateField)
deriving DecidableEq, Repr

/-- `u8::is_ascii_control`. -/
def isAsciiControl (byte : UInt8) : Bool := byte < 0x20 || byte == 0x7f

namespace TwitchMessageTemplate

def fieldNamed : String → Option TemplateField
  | "url" => some .url
  | "encounter" => some .encounter
  | "mode" => some .mode
  | "mode_suffix" => some .modeSuffix
  | "result" => some .result
  | "boss_id" => some .bossId
  | _ => none

def flush (parts : List TemplatePart) (literal : String) : List TemplatePart :=
  if literal.isEmpty then parts else parts ++ [.literal literal]

/-- Both loops of `parse`: a name is being read in the inner one. -/
def parseParts : List Char → (name : Option String) → (literal : String) → List TemplatePart →
    Except TemplateError (List TemplatePart)
  | [], some _, _, _ => .error .invalidSyntax
  | [], none, literal, parts =>
    if parts.contains (.field .url) then .ok (flush parts literal) else .error .missingUrl
  | '}' :: rest, some name, literal, parts =>
    match fieldNamed name with
    | some field => parseParts rest none literal (parts ++ [.field field])
    | none => .error .unknownField
  | '{' :: _, some _, _, _ => .error .invalidSyntax
  | ch :: rest, some name, literal, parts => parseParts rest (some (name.push ch)) literal parts
  | '{' :: '{' :: rest, none, literal, parts => parseParts rest none (literal.push '{') parts
  | '}' :: '}' :: rest, none, literal, parts => parseParts rest none (literal.push '}') parts
  | '{' :: rest, none, literal, parts => parseParts rest (some "") "" (flush parts literal)
  | '}' :: _, none, _, _ => .error .invalidSyntax
  | ch :: rest, none, literal, parts => parseParts rest none (literal.push ch) parts

def parse (source : String) : Except TemplateError (List TemplatePart) :=
  if source.isEmpty then .error .emptyTemplate
  else if (utf8 source).length > 500 then .error .templateTooLong
  else if (utf8 source).any isAsciiControl then .error .controlCharacter
  else parseParts source.toList none "" []

def append (output value : String) : Except TemplateError String :=
  if (utf8 value).length > 2000 - (utf8 output).length then .error .messageTooLong
  else if (utf8 value).any isAsciiControl then .error .invalidFieldValue
  else .ok (output ++ value)

def renderPart (report : DpsReportResult) (output : String) :
    TemplatePart → Except TemplateError String
  | .literal text => append output text
  | .field .url => append output report.permalink
  | .field .encounter => append output report.encounterName
  | .field .mode => append output report.mode
  | .field .result => append output (if report.success then "Success" else "Failure")
  | .field .bossId => append output (toString report.bossId)
  | .field .modeSuffix =>
    if report.mode.isEmpty then .ok output
    else do
      let output ← append output " ("
      let output ← append output report.mode
      append output ")"

def render (parts : List TemplatePart) (report : DpsReportResult) : Except TemplateError String :=
  if report.permalink.isEmpty then .error .invalidFieldValue
  else do
    let output ← parts.foldlM (renderPart report) ""
    if output.length > 500 then .error .messageTooLong else .ok output

end TwitchMessageTemplate
end MannyUploader.Domain
