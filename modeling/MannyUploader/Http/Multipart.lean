import MannyUploader.Application.HttpRequest
import MannyUploader.Foundation.Checked

/-! A form of several parts as one body: the checks on its parts, and the segments it is read
from. -/
namespace MannyUploader.Http
open Domain Application Foundation

def maxMultipartBoundaryBytes : Nat := 70
def maxMultipartParts : Nat := 16

inductive MultipartError
  | emptyParts | tooManyParts | invalidBoundary | invalidPartName | invalidFilename
  | invalidContentType | bodyTooLarge | boundaryGenerationFailed | invalidBody
deriving DecidableEq, Repr

structure MultipartPart where
  name : String
  filename : Option String
  contentType : Option String
  body : HttpBodySegment

structure MultipartFormData where
  contentType : String
  body : HttpBodySource

def validateCount (count : Nat) : Except MultipartError Unit :=
  if count = 0 then .error .emptyParts
  else if count > maxMultipartParts then .error .tooManyParts
  else .ok ()

def isSimpleByte (byte : UInt8) : Bool := isLetterOrDigit byte || byte == 95 || byte == 45

def validContentType (value : String) : Bool :=
  (utf8 value).length ≤ 255 && match splitOnce (utf8 "/") (utf8 value) with
    | none => false
    | some (kind, subtype) =>
      !kind.isEmpty && !subtype.isEmpty && kind.all isHttpTokenByte && subtype.all isHttpTokenByte

def validatePart (part : MultipartPart) : Except MultipartError Unit :=
  if (utf8 part.name).isEmpty || (utf8 part.name).length > 64 ||
      !(utf8 part.name).all isSimpleByte then .error .invalidPartName
  else if part.filename.any fun name => (utf8 name).isEmpty || (utf8 name).length > 255 ||
      !(utf8 name).all (fun byte => isSimpleByte byte || byte == 46) then .error .invalidFilename
  else if part.contentType.any (!validContentType ·) then .error .invalidContentType
  else .ok ()

/-- `ExactLengthBody::new`. -/
def exactLength (segment : HttpBodySegment) (error : MultipartError) :
    Except MultipartError HttpBodySegment :=
  if segment.contentLength > maxHttpRequestBodyBytes then .error error else .ok segment

/-- The total of what stands before is the length so far. -/
def appendSegment (segments : HttpBodySource) (segment : HttpBodySegment) :
    Except MultipartError HttpBodySource :=
  if segment.contentLength > maxHttpRequestBodyBytes - HttpBodySource.contentLength segments then
    .error .bodyTooLarge
  else .ok (segments ++ [segment])

/-- The lines in front of the body of a part. -/
def partPrefix (boundary : String) (first : Bool) (part : MultipartPart) : String :=
  (if first then "" else "\r\n") ++ "--" ++ boundary ++
    "\r\nContent-Disposition: form-data; name=\"" ++ part.name ++ "\"" ++
    (match part.filename with
      | some filename => "; filename=\"" ++ filename ++ "\""
      | none => "") ++ "\r\n" ++
    (match part.contentType with
      | some contentType => "Content-Type: " ++ contentType ++ "\r\n"
      | none => "") ++ "\r\n"

def appendPart (boundary : String) (segments : HttpBodySource) (part : MultipartPart) :
    Except MultipartError HttpBodySource := do
  validatePart part
  let body ← exactLength part.body .bodyTooLarge
  let lines ← exactLength
    (.memory (utf8 (partPrefix boundary segments.isEmpty part))) .bodyTooLarge
  let segments ← appendSegment segments lines
  appendSegment segments body

def withBoundary (parts : List MultipartPart) (boundary : String) :
    Except MultipartError MultipartFormData := do
  validateCount parts.length
  if (utf8 boundary).isEmpty || (utf8 boundary).length > maxMultipartBoundaryBytes ||
      !(utf8 boundary).all isHttpTokenByte then .error .invalidBoundary
  else do
    let segments ← parts.foldlM (appendPart boundary) []
    let closing ← exactLength (.memory (utf8 ("\r\n--" ++ boundary ++ "--\r\n"))) .bodyTooLarge
    let body ← appendSegment segments closing
    .ok { contentType := "multipart/form-data; boundary=" ++ boundary, body }

def hexDigits : List Char := "0123456789abcdef".toList

def hexOf (byte : UInt8) : List Char :=
  [hexDigits.getD (byte >>> 4).toNat '0', hexDigits.getD (byte &&& 15).toNat '0']

/-- The boundary that `MultipartFormData::new` makes of random bytes. -/
def randomBoundary (bytes : List UInt8) : String :=
  "------------------------manny-" ++ String.ofList (bytes.flatMap hexOf)

/-! The body of a form stays below the limit on its total. -/

theorem appendSegment_total {segments body : HttpBodySource} {segment : HttpBodySegment}
    (appended : appendSegment segments segment = .ok body) :
    HttpBodySource.contentLength body =
        HttpBodySource.contentLength segments + segment.contentLength ∧
      (HttpBodySource.contentLength segments ≤ maxHttpRequestBodyBytes →
        HttpBodySource.contentLength body ≤ maxHttpRequestBodyBytes) := by
  unfold appendSegment at appended
  split at appended
  · contradiction
  next fits =>
    cases appended
    have total : HttpBodySource.contentLength (segments ++ [segment]) =
        HttpBodySource.contentLength segments + segment.contentLength := by
      simp [HttpBodySource.contentLength]
    exact ⟨total, fun before => by omega⟩

theorem appendPart_total {boundary : String} {segments body : HttpBodySource}
    {part : MultipartPart}
    (before : HttpBodySource.contentLength segments ≤ maxHttpRequestBodyBytes)
    (appended : appendPart boundary segments part = .ok body) :
    HttpBodySource.contentLength body ≤ maxHttpRequestBodyBytes := by
  obtain ⟨_, -, appended⟩ := bind_ok appended
  obtain ⟨content, -, appended⟩ := bind_ok appended
  obtain ⟨lines, -, appended⟩ := bind_ok appended
  obtain ⟨opened, first, second⟩ := bind_ok appended
  exact (appendSegment_total second).2 ((appendSegment_total first).2 before)

theorem exactLength_ok {segment same : HttpBodySegment} {error : MultipartError}
    (ok : exactLength segment error = .ok same) : same = segment := by
  unfold exactLength at ok
  split at ok <;> cases ok
  rfl

end MannyUploader.Http
