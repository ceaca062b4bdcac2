import MannyUploader.Domain.Receipts
import MannyUploader.Domain.Time
import MannyUploader.Foundation.LittleEndian

/-! A Twitch session and the one protected record it is stored in. -/
namespace MannyUploader.Application
open Domain Foundation

/-- The bytes of a secret. That they are wiped is not modelled. -/
abbrev SecretValue := List UInt8

def maxSecretBytes : Nat := 16 * 1024
def twitchChatScope : String := "user:write:chat"
def maxTwitchTokenBytes : Nat := 8 * 1024
def maxTwitchSessionBytes : Nat := maxSecretBytes

structure TwitchCredentialSet where
  accessToken : SecretValue
  refreshToken : SecretValue
  accessExpiresAt : SystemTime
deriving DecidableEq

structure TwitchSession where
  credentials : TwitchCredentialSet
  userId : String
  login : String
  scopes : List String
deriving DecidableEq

inductive TwitchSessionError
  | invalidSession
  | valueTooLarge
  | unsupportedVersion
  | corruptRecord
deriving DecidableEq, Repr

/-- `valid_token_bytes`, for `valid_twitch_token` as well. -/
def validTwitchToken (bytes : List UInt8) : Bool :=
  !bytes.isEmpty && bytes.length ≤ maxTwitchTokenBytes &&
    bytes.all fun byte => 0x21 ≤ byte && byte ≤ 0x7e

def isAsciiDigit (byte : UInt8) : Bool := 48 ≤ byte && byte ≤ 57
def isAsciiLowercase (byte : UInt8) : Bool := 97 ≤ byte && byte ≤ 122

/-- `parse::<u64>` on digits. -/
def parseDigits (digits : List UInt8) : Option Nat :=
  let value := digits.foldl (fun value digit => value * 10 + (digit.toNat - 48)) 0
  if value < 2 ^ 64 then some value else none

def validTwitchUserId (value : String) : Bool :=
  !(utf8 value).isEmpty && (utf8 value).length ≤ 20 && (utf8 value).head? != some 48 &&
    (utf8 value).all isAsciiDigit && (parseDigits (utf8 value)).any (0 < ·)

def validTwitchLogin (value : String) : Bool :=
  !(utf8 value).isEmpty && (utf8 value).length ≤ 64 &&
    (utf8 value).all fun byte => isAsciiLowercase byte || isAsciiDigit byte || byte == 95

namespace TwitchSession

/-- `MNYTWSN1`. -/
def magic : List UInt8 := [77, 78, 89, 84, 87, 83, 78, 49]

def headerBytes : Nat := 40
def maxUnixSeconds : Nat := 253_402_300_799
def nanosPerSecond : Int := 1_000_000_000

/-- `duration_since(UNIX_EPOCH)` in seconds, for a time that is not before it. -/
def unixSeconds (time : SystemTime) : Option Nat :=
  if 0 ≤ time.nanos then some (time.nanos / nanosPerSecond).toNat else none

/-- `UNIX_EPOCH.checked_add`. -/
def ofUnixSeconds (seconds : Nat) : Option SystemTime :=
  let nanos : Int := seconds * nanosPerSecond
  if h : SystemTime.minNanos ≤ nanos ∧ nanos ≤ SystemTime.maxNanos then some ⟨nanos, h⟩ else none

/-- The fields whose lengths the header lists. -/
def fields (session : TwitchSession) : List (List UInt8) :=
  [session.credentials.accessToken, session.credentials.refreshToken, utf8 session.userId,
    utf8 session.login]

/-- The record of a session that expires at `seconds`. -/
def record (session : TwitchSession) (seconds : Nat) : SecretValue :=
  magic ++ (toLittle 4 1 ++ (toLittle 8 seconds ++
    (session.fields.flatMap (fun field => toLittle 4 field.length) ++ (toLittle 4 1 ++
      (session.fields.flatten ++
        (toLittle 4 (utf8 twitchChatScope).length ++ utf8 twitchChatScope))))))

end TwitchSession
open TwitchSession

def encodeTwitchSession (session : TwitchSession) : Except TwitchSessionError SecretValue :=
  match unixSeconds session.credentials.accessExpiresAt with
  | none => .error .invalidSession
  | some seconds =>
    if !(1 ≤ seconds && seconds ≤ maxUnixSeconds) ||
        !validTwitchToken session.credentials.accessToken ||
        !validTwitchToken session.credentials.refreshToken ||
        !validTwitchUserId session.userId || !validTwitchLogin session.login ||
        session.scopes != [twitchChatScope] then
      .error .invalidSession
    else
      let total := headerBytes + (session.fields.map List.length).sum + 4 +
        (utf8 twitchChatScope).length
      if total > maxTwitchSessionBytes then .error .valueTooLarge
      else .ok (session.record seconds)

/-- The loop of `decode_twitch_session` over the fields with these indices. -/
def TwitchSession.splitFields (bytes : List UInt8) :
    (indices : List Nat) → (remaining : List UInt8) →
      Except TwitchSessionError (List (List UInt8) × List UInt8)
  | [], remaining => .ok ([], remaining)
  | index :: indices, remaining =>
    let length := ofLittle (slice bytes (20 + index * 4) 4)
    if length > remaining.length then .error .corruptRecord
    else match splitFields bytes indices (remaining.drop length) with
      | .error error => .error error
      | .ok (fields, rest) => .ok (remaining.take length :: fields, rest)

def decodeTwitchSession (bytes : SecretValue) : Except TwitchSessionError TwitchSession :=
  if bytes.isEmpty || bytes.length > maxTwitchSessionBytes then .error .valueTooLarge
  else if bytes.length < 12 || slice bytes 0 8 != magic then .error .corruptRecord
  else if slice bytes 8 4 != toLittle 4 1 then .error .unsupportedVersion
  else if bytes.length < headerBytes then .error .corruptRecord
  else
    let seconds := signed 8 (ofLittle (slice bytes 12 8))
    if seconds ≤ 0 || seconds > maxUnixSeconds || slice bytes 36 4 != toLittle 4 1 then
      .error .corruptRecord
    else match splitFields bytes [0, 1, 2, 3] (bytes.drop headerBytes) with
      | .error error => .error error
      | .ok ([access, refresh, user, name], remaining) =>
        if remaining.length != 4 + (utf8 twitchChatScope).length ||
            slice remaining 0 4 != toLittle 4 (utf8 twitchChatScope).length ||
            remaining.drop 4 != utf8 twitchChatScope ||
            !validTwitchToken access || !validTwitchToken refresh then
          .error .corruptRecord
        else match String.fromUTF8? ⟨user.toArray⟩, String.fromUTF8? ⟨name.toArray⟩ with
          | some userId, some login =>
            if !validTwitchUserId userId || !validTwitchLogin login then .error .corruptRecord
            else match ofUnixSeconds seconds.toNat with
              | none => .error .corruptRecord
              | some accessExpiresAt =>
                .ok { credentials := { accessToken := access, refreshToken := refresh,
                                       accessExpiresAt }
                      userId, login, scopes := [twitchChatScope] }
          | _, _ => .error .corruptRecord
      | .ok _ => .error .corruptRecord

end MannyUploader.Application
