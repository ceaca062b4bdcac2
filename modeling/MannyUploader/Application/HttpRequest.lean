import MannyUploader.Application.Http
import MannyUploader.Application.TwitchSession

/-! Requests and responses of HTTP, and the check that every request has to pass. -/
namespace MannyUploader.Application
open Domain

def maxHttpHeaderCount : Nat := 64
def maxHttpHeaderNameBytes : Nat := 128
def maxHttpHeaderValueBytes : Nat := 8192
def maxHttpRequestHeaderBytes : Nat := 32 * 1024
def maxHttpRequestBodyBytes : Nat := 512 * 1024 * 1024
def maxHttpResponseHeaderBytes : Nat := 64 * 1024
def maxHttpResponseBodyBytes : Nat := 16 * 1024 * 1024

inductive HttpMethod
  | get | post | put | patch | delete
deriving DecidableEq, Repr

inductive HttpHeaderSensitivity
  | isPublic | sensitive
deriving DecidableEq, Repr

structure HttpHeader where
  name : String
  value : SecretValue
  sensitivity : HttpHeaderSensitivity
deriving DecidableEq, Repr

namespace HttpHeader

/-- `HttpHeader::public`. -/
def ofText (name value : String) : HttpHeader :=
  { name, value := utf8 value, sensitivity := .isPublic }

def sensitive (name : String) (value : SecretValue) : HttpHeader :=
  { name, value, sensitivity := .sensitive }

end HttpHeader

def isSensitiveHttpHeaderName (name : String) : Bool :=
  ["Authorization", "Proxy-Authorization", "Cookie", "Set-Cookie", "X-Api-Key",
    "X-Gw2-Api-Key"].any (equalsIgnoringCase (utf8 name))

/-- Letters, digits, and the marks of a token. -/
def isHttpTokenByte (byte : UInt8) : Bool :=
  isLetterOrDigit byte ||
    ([33, 35, 36, 37, 38, 39, 42, 43, 45, 46, 94, 95, 96, 124, 126] : List UInt8).contains byte

/-- What a body is read from. A multipart body is several of these. -/
inductive HttpBodySegment
  | memory (bytes : SecretValue)
  | file (identity : LogFileIdentity)

def HttpBodySegment.contentLength : HttpBodySegment → Nat
  | memory bytes => bytes.length
  | file identity => identity.size.toNat

abbrev HttpBodySource := List HttpBodySegment

def HttpBodySource.contentLength (body : HttpBodySource) : Nat :=
  (body.map HttpBodySegment.contentLength).sum

structure HttpTimeouts where
  connect : Duration
  operation : Duration
  stalledTransfer : Duration
deriving DecidableEq, Repr

structure HttpResponseLimits where
  maxHeaderBytes : Nat
  maxBodyBytes : Nat
deriving DecidableEq, Repr

structure HttpRequest where
  method : HttpMethod
  url : String
  headers : List HttpHeader := []
  body : Option HttpBodySource := none
  timeouts : HttpTimeouts
  responseLimits : HttpResponseLimits

structure HttpResponse where
  statusCode : UInt16
  headers : List HttpHeader
  body : SecretValue

def reservedHeaderNames : List String :=
  ["Host", "Content-Length", "Transfer-Encoding", "Connection", "Expect"]

def validHeader (header : HttpHeader) : Bool :=
  let name := utf8 header.name
  !name.isEmpty && name.length ≤ maxHttpHeaderNameBytes && name.all isHttpTokenByte &&
    header.value.length ≤ maxHttpHeaderValueBytes &&
    header.value.all (fun byte => byte == 9 || (0x20 ≤ byte && byte ≤ 0x7e)) &&
    !reservedHeaderNames.any (equalsIgnoringCase name) &&
    (!isSensitiveHttpHeaderName header.name || header.sensitivity == .sensitive)

def headerLength (header : HttpHeader) : Nat := (utf8 header.name).length + header.value.length + 4

/-- The loop over the headers. Each check leaves the total within its bound. -/
def validHeaders (total : Nat) : List HttpHeader → Bool
  | [] => true
  | header :: rest =>
    validHeader header && headerLength header ≤ maxHttpRequestHeaderBytes - total &&
      validHeaders (total + headerLength header) rest

def HttpTimeouts.valid (timeouts : HttpTimeouts) : Bool :=
  1_000_000 ≤ timeouts.connect && timeouts.connect ≤ Duration.fromSecs 60 &&
    1_000_000 ≤ timeouts.operation && timeouts.operation ≤ Duration.fromSecs 900 &&
    Duration.fromSecs 1 ≤ timeouts.stalledTransfer &&
    timeouts.stalledTransfer ≤ Duration.fromSecs 900

def HttpResponseLimits.valid (limits : HttpResponseLimits) : Bool :=
  1 ≤ limits.maxHeaderBytes && limits.maxHeaderBytes ≤ maxHttpResponseHeaderBytes &&
    1 ≤ limits.maxBodyBytes && limits.maxBodyBytes ≤ maxHttpResponseBodyBytes

def validBody (method : HttpMethod) (body : HttpBodySource) : Bool :=
  method != .get && 1 ≤ body.contentLength && body.contentLength ≤ maxHttpRequestBodyBytes

def validateHttpRequest (request : HttpRequest) (policy : HttpTransportPolicy) :
    Except HttpErrorCode Unit := do
  validateHttpUrl request.url policy
  if request.headers.length ≤ maxHttpHeaderCount && validHeaders 0 request.headers &&
      request.body.all (validBody request.method) && request.timeouts.valid &&
      request.responseLimits.valid then .ok ()
  else .error .invalidRequest

end MannyUploader.Application
