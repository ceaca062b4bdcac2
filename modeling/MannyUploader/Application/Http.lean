import MannyUploader.Domain.Settings

/-! The check of a URL that every HTTP request passes. -/
namespace MannyUploader.Application
open Domain Foundation

def maxHttpUrlBytes : Nat := 4096

inductive HttpErrorCode
  | invalidRequest | bodyReadFailed | cancelled | timeout | nameResolutionFailed
  | connectionFailed | tlsFailed | sendFailed | receiveFailed | responseTooLarge | protocolError
  | unsupportedEnvironment | initializationFailed | internal
deriving DecidableEq, Repr

inductive HttpTransportPolicy
  | httpsOnly | plaintextLoopbackForTests
deriving DecidableEq, Repr

/-- `eq_ignore_ascii_case`. -/
def equalsIgnoringCase (text : List UInt8) (name : String) : Bool :=
  text.map Path.asciiLowercase == (utf8 name).map Path.asciiLowercase

def isLetterOrDigit (byte : UInt8) : Bool := Path.asciiAlphabetic byte || isAsciiDigit byte

def validLabel (label : List UInt8) : Bool :=
  !label.isEmpty && label.length ≤ 63 && label.head? != some 45 && label.getLast? != some 45 &&
    label.all fun byte => isLetterOrDigit byte || byte == 45

/-- One dot may end the name. -/
def stripDot (host : List UInt8) : List UInt8 :=
  if host.getLast? = some 46 then host.dropLast else host

def validHostName (host : List UInt8) : Bool :=
  let name := stripDot host
  !name.isEmpty && host.length ≤ 253 && (name.splitOn 46).all validLabel

/-- The host of an authority, and what follows it. -/
def splitHost (authority : List UInt8) : Option (List UInt8 × List UInt8) :=
  if authority.head? = some 91 then
    let inside := authority.takeWhile (· != 93)
    if authority.contains 93 && (parseIpv6 (inside.drop 1)).isSome then
      some (inside ++ [93], authority.drop (inside.length + 1))
    else none
  else
    let host := authority.takeWhile (· != 58)
    if validHostName host then some (host, authority.drop host.length) else none

def validUrlByte (byte : UInt8) : Bool :=
  0x21 ≤ byte && byte ≤ 0x7e && !(utf8 "#\\\"").contains byte

def validateHttpUrl (url : String) (policy : HttpTransportPolicy) : Except HttpErrorCode Unit :=
  let bytes := utf8 url
  if bytes.isEmpty || bytes.length > maxHttpUrlBytes || !bytes.all validUrlByte then
    .error .invalidRequest
  else match splitOnce (utf8 "://") bytes with
    | none => .error .invalidRequest
    | some (scheme, rest) =>
      let authority := rest.takeWhile fun byte => byte != 47 && byte != 63
      if authority.isEmpty || authority.contains 64 then .error .invalidRequest
      else match splitHost authority with
        | none => .error .invalidRequest
        | some (host, port) =>
          if !(port.isEmpty || (stripPrefix (utf8 ":") port).any validPort) then
            .error .invalidRequest
          else if equalsIgnoringCase scheme "https" then .ok ()
          else if equalsIgnoringCase scheme "http" && policy == .plaintextLoopbackForTests &&
              (equalsIgnoringCase host "localhost" || host == utf8 "127.0.0.1" ||
                host == utf8 "[::1]") then .ok ()
          else .error .invalidRequest

end MannyUploader.Application
