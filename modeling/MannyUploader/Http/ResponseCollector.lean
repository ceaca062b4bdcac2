import Mathlib.Data.List.DropRight
import MannyUploader.Application.HttpRequest
import MannyUploader.Foundation.Stateful

/-! What the callbacks of a transfer collect of a response, and the answer at its end. -/
namespace MannyUploader.Http
open Domain Application Foundation

/-- `HttpHeader::response`. -/
def responseHeader (name : String) (value : SecretValue) : HttpHeader :=
  { name, value, sensitivity := if isSensitiveHttpHeaderName name then .sensitive else .isPublic }

/-- `u8::is_ascii_whitespace`. -/
def isAsciiWhitespace (byte : UInt8) : Bool :=
  byte == 32 || byte == 9 || byte == 10 || byte == 12 || byte == 13

/-- `trim_ascii_start`, then `trim_ascii_end`. -/
def trimAscii (text : List UInt8) : List UInt8 :=
  (text.dropWhile isAsciiWhitespace).rdropWhile isAsciiWhitespace

def stripSuffix (byte : UInt8) (text : List UInt8) : Option (List UInt8) :=
  if text.getLast? = some byte then some text.dropLast else none

/-- A tab, or anything that is no control character. -/
def isVisible (byte : UInt8) : Bool := byte == 9 || (0x20 ≤ byte && byte != 0x7f)

/-- A line without its end, when it has one and no control characters. -/
def lineOf (bytes : List UInt8) : Option (List UInt8) := do
  let line ← stripSuffix 10 bytes
  let line := (stripSuffix 13 line).getD line
  if line.all isVisible then some line else none

def httpVersions : List (List UInt8) :=
  [utf8 "HTTP/1.0", utf8 "HTTP/1.1", utf8 "HTTP/2", utf8 "HTTP/3"]

/-- The status of a status line. -/
def statusOf (line : List UInt8) : Option UInt16 := do
  let (version, rest) ← splitOnce [32] line
  match rest with
  | d₀ :: d₁ :: d₂ :: reason =>
    if version ∉ httpVersions ∨ !([d₀, d₁, d₂].all Domain.isAsciiDigit) ∨
        (reason ≠ [] ∧ reason.head? ≠ some 32) then none
    else
      let status := (d₀ - 48).toUInt16 * 100 + (d₁ - 48).toUInt16 * 10 + (d₂ - 48).toUInt16
      if ¬(100 ≤ status ∧ status ≤ 599) ∨ status = 101 then none else some status
  | _ => none

/-- The name and the value of a field. -/
def fieldOf (line : List UInt8) : Option (List UInt8 × SecretValue) := do
  let (name, value) ← splitOnce [58] line
  if name.isEmpty || !name.all isHttpTokenByte then none else some (name, trimAscii value)

/-- `reserved` says that the body has a capacity. -/
structure ResponseCollector where
  limits : HttpResponseLimits
  headerBytes : Nat := 0
  headers : List HttpHeader := []
  body : SecretValue := []
  reserved : Bool := false
  status : Option UInt16 := none
  headersEnded : Bool := false
  failure : Option HttpErrorCode := none

abbrev Collecting := Stateful ResponseCollector HttpErrorCode

namespace ResponseCollector

def new (limits : HttpResponseLimits) : Except HttpErrorCode ResponseCollector :=
  if limits.valid then .ok { limits } else .error .invalidRequest

/-- The first failure is the one that is kept and told. -/
def fail (code : HttpErrorCode) : Collecting α := do
  let error := (← get).failure.getD code
  modify fun c => { c with failure := some error, headers := [], body := [] }
  Stateful.fail error

def check (stop : Bool) : Collecting Unit := do
  match (← get).failure with
  | some error => Stateful.fail error
  | none => Stateful.onlyIf stop (fail .cancelled)

def statusLine (line : List UInt8) : Collecting Unit := do
  let c ← get
  if c.status.any (200 ≤ ·) || (c.status.isSome && !c.headersEnded) then fail .protocolError
  else match statusOf line with
    | none => fail .protocolError
    | some status =>
      modify fun c => { c with status := some status, headersEnded := false, headers := [] }

def fieldLine (line : List UInt8) (stop : Bool) : Collecting Unit := do
  match fieldOf line with
  | none => fail .protocolError
  | some (name, value) =>
    match String.fromUTF8? ⟨name.toArray⟩ with
    | none => Stateful.fail .internal
    | some name =>
      modify fun c => { c with headers := c.headers ++ [responseHeader name value] }
      check stop

/-- What the stop token says is asked at the start and behind a field. -/
def header (bytes : List UInt8) (stop : Bool × Bool) : Collecting Unit := do
  check stop.1
  let c ← get
  if bytes.length > c.limits.maxHeaderBytes - c.headerBytes then fail .responseTooLarge
  else
    modify fun c => { c with headerBytes := c.headerBytes + bytes.length }
    match lineOf bytes with
    | none => fail .protocolError
    | some line =>
      if (stripPrefix (utf8 "HTTP/") line).isSome then statusLine line
      else if c.status.isNone then fail .protocolError
      else if line.isEmpty then modify fun c => { c with headersEnded := true }
      else if c.headersEnded && c.status.any (· < 200) then fail .protocolError
      else fieldLine line stop.2

/-- `ResponseCollector::body`. All of it is reserved before the first byte, if there is memory. -/
def bodyChunk (bytes : List UInt8) (stop : Bool × Bool) (memory : Bool) : Collecting Unit := do
  check stop.1
  let c ← get
  if !c.headersEnded || !c.status.any (200 ≤ ·) then fail .protocolError
  else if bytes.length > c.limits.maxBodyBytes - c.body.length then fail .responseTooLarge
  else if !bytes.isEmpty && !c.reserved && !memory then fail .internal
  else
    modify fun c =>
      { c with body := c.body ++ bytes, reserved := c.reserved || !bytes.isEmpty }
    check stop.2

def finish (statusCode : UInt16) (stop : Bool) : Collecting HttpResponse := do
  check stop
  let c ← get
  if !c.headersEnded || statusCode < 200 || c.status != some statusCode then fail .protocolError
  else pure { statusCode, headers := c.headers, body := c.body }

end ResponseCollector
end MannyUploader.Http
