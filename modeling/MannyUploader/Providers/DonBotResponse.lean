import MannyUploader.Application.DonBot
import MannyUploader.Foundation.Json
import MannyUploader.Providers.Exchange
import MannyUploader.Providers.TwitchResponse

/-! The answers of a DonBot server: imports, aggregates, the events of an upload, and verified
identities. -/
namespace MannyUploader.Providers
open Domain Application Foundation

def maxDonbotVerificationBytes : Nat := 256 * 1024
def maxDonbotProgressBytes : Nat := 256 * 1024
def maxDonbotResponseBytes : Nat := 64 * 1024
def maxDonbotGuilds : Nat := 256
def maxDonbotChannelsPerGuild : Nat := 256
def maxDonbotChannels : Nat := 2048
def maxDonbotAggregateFights : UInt16 := 100

inductive DonBotDisposition
  | retry | failed | cancelled
deriving DecidableEq, Repr

inductive DonBotErrorCode
  | invalidBase | invalidKey | invalidInput | bodyFailed | fileUnavailable | invalidLocation
  | unconfirmedUpload | processingFailed | unconfirmedDelivery | transport | httpStatus
  | invalidResponse | internal | cancelled
deriving DecidableEq, Repr

structure DonBotError where
  code : DonBotErrorCode
  disposition : DonBotDisposition
  retryAfter : Option Duration
  httpError : Option HttpErrorCode
  httpStatus : Option UInt16
deriving DecidableEq, Repr

namespace DonBotError

def failed (code : DonBotErrorCode) : DonBotError :=
  { code, disposition := .failed, retryAfter := none, httpError := none, httpStatus := none }

def cancelled : DonBotError := { failed .cancelled with disposition := .cancelled }

end DonBotError

namespace DonBotResponse
open TwitchResponse

def invalid (status : UInt16) : DonBotError :=
  { DonBotError.failed .invalidResponse with httpStatus := some status }

def positiveId (value : UInt64) : Bool := 0 < value && value.toNat ≤ i64Max

structure Delivery where
  requested : Bool
  outcome : String
  sent : UInt16
  skipped : UInt16
  failed : UInt16
  ambiguous : UInt16

structure Import where
  uploadId : UInt64
  fightLogId : Option UInt64
  status : String
  duplicate : Bool
  discordDeliveryAccepted : Option Bool
  discordDelivery : Option Delivery

structure Aggregate where
  fightLogCount : Nat
  discordDelivery : Delivery

structure Progress where
  stage : String
  fightLogId : Option UInt64
  discordDelivery : Option Delivery

/-- The channels of a guild that are only counted. -/
structure CountGuild where
  channels : Option Nat

structure Counts where
  guilds : List CountGuild

structure Channel where
  channelId : String
  channelName : String

structure Policy where
  enabled : Option Bool
  defaultsAvailable : Option Bool
  channelOverrideAllowed : Option Bool
  enabledMessageKinds : Option (List String)
  channels : Option (List Channel)
  aggregateEnabled : Option Bool
  aggregateDefaultsAvailable : Option Bool
  maxAggregateFightLogs : Option UInt16

structure Guild where
  guildId : String
  guildName : String
  discordDelivery : Option Policy

/-- The capabilities are all read, the unknown ones for nothing. -/
structure Verification where
  accountName : String
  guilds : List Guild
  capabilities : Option (List String)

/-- What `serde_json` prints, and reads from a text before the bounds on its fields. -/
structure Readers where
  printer : Json.Printer
  imported : String → Option Import
  aggregate : String → Option Aggregate
  progress : String → Option Progress
  counts : String → Option Counts
  verification : String → Option Verification

def decode (read : String → Option α) (bounds : α → Option β)
    (response : Application.HttpResponse) : Except DonBotError β :=
  match decodeJson read bounds response.body maxDonbotResponseBytes with
  | none => .error (invalid response.statusCode)
  | some value => .ok value

def Delivery.bounds (delivery : Delivery) : Option Delivery := do
  let _ ← boundedText 32 delivery.outcome
  some delivery

def Delivery.counts (delivery : Delivery) : List UInt16 :=
  [delivery.sent, delivery.skipped, delivery.failed, delivery.ambiguous]

def Delivery.outcomeOf (delivery : Delivery) (requested : Bool) :
    Option DonBotDiscordDeliveryOutcome :=
  let populated := delivery.counts.countP (· != 0)
  if delivery.outcome = "not_requested" ∧ !requested ∧ populated = 0 then some .notRequested
  else if delivery.outcome = "sent" ∧ requested ∧ delivery.sent > 0 ∧ populated = 1 then some .sent
  else if delivery.outcome = "partial" ∧ requested ∧ populated ≥ 2 then some .partially
  else if delivery.outcome = "skipped" ∧ requested ∧ delivery.skipped > 0 ∧ populated = 1 then
    some .skipped
  else if delivery.outcome = "failed" ∧ requested ∧ delivery.failed > 0 ∧ populated = 1 then
    some .failed
  else if delivery.outcome = "ambiguous" ∧ requested ∧ delivery.ambiguous > 0 ∧ populated = 1 then
    some .ambiguous
  else none

def Delivery.receipt (delivery : Delivery) (requested : Bool) (maximum : UInt16) :
    Option DonBotDiscordDeliveryReceipt :=
  if delivery.requested ≠ requested then none
  else if (delivery.counts.map UInt16.toNat).sum > maximum.toNat then none
  else (delivery.outcomeOf requested).map fun outcome => {
    outcome, sent := delivery.sent, skipped := delivery.skipped, failed := delivery.failed
    ambiguous := delivery.ambiguous }

/-- `DonBotDiscordDeliveryReceipt::default`. -/
def noDelivery : DonBotDiscordDeliveryReceipt :=
  { outcome := .notRequested, sent := 0, skipped := 0, failed := 0, ambiguous := 0 }

def delivery (value : Option Delivery) (requested : Bool) (status : UInt16) :
    Except DonBotError DonBotDiscordDeliveryReceipt :=
  match value with
  | some receipt =>
    match receipt.receipt requested 4 with
    | none => .error (invalid status)
    | some receipt => .ok receipt
  | none => if !requested then .ok noDelivery else .error (.failed .unconfirmedDelivery)

def Import.bounds (imported : Import) : Option Import := do
  let _ ← boundedText 16 imported.status
  let _ ← imported.discordDelivery.mapM Delivery.bounds
  some imported

def Aggregate.bounds (aggregate : Aggregate) : Option Aggregate := do
  let _ ← aggregate.discordDelivery.bounds
  some aggregate

def Progress.bounds (progress : Progress) : Option Progress := do
  let _ ← boundedText 256 progress.stage
  let _ ← progress.discordDelivery.mapM Delivery.bounds
  some progress

structure Completed where
  fightLogId : Option UInt64 := none
  delivery : DonBotDiscordDeliveryReceipt := noDelivery

/-- What stands behind `data:` in a line of the events. -/
def lineData (line : List UInt8) : Option (List UInt8) :=
  let line := if line.getLast? = some 13 then line.dropLast else line
  (stripPrefix (utf8 "data:") line).map fun data => (stripPrefix (utf8 " ") data).getD data

/-- One event of the loop in `progress`. The flag is `complete`. -/
def progressEvent (readers : Readers) (requested : Bool) (status : UInt16)
    (state : Completed × Bool) (data : List UInt8) : Except DonBotError (Completed × Bool) :=
  match decodeJson readers.progress Progress.bounds data maxDonbotProgressBytes with
  | none => .error (invalid status)
  | some event =>
    if event.fightLogId.any (!positiveId ·) then .error (invalid status)
    else
      let result := { state.1 with fightLogId := event.fightLogId.or state.1.fightLogId }
      if event.stage = "failed" then .error (.failed .processingFailed)
      else if event.stage = "complete" then do
        let delivery ← delivery event.discordDelivery requested status
        .ok ({ result with delivery }, true)
      else if event.discordDelivery.isSome then .error (invalid status)
      else .ok (result, false)

def progress (readers : Readers) (response : Application.HttpResponse) (requested : Bool) :
    Except DonBotError Completed :=
  if response.body.length > maxDonbotProgressBytes ∨
      (String.fromUTF8? ⟨response.body.toArray⟩).isNone then .error (invalid response.statusCode)
  else do
    let (result, complete) ← ((response.body.splitOn 10).filterMap lineData).foldlM
      (progressEvent readers requested response.statusCode) ({}, false)
    if complete then .ok result else .error (invalid response.statusCode)

def displayName (value : String) : Bool :=
  !(utf8 value).isEmpty && !(utf8 value).any isAsciiControl

def Counts.bounds (counts : Counts) : Option Nat := do
  let guilds ← boundedList maxDonbotGuilds counts.guilds
  if guilds.any fun guild => guild.channels.any (maxDonbotChannelsPerGuild < ·) then none
  else some (guilds.map fun guild => guild.channels.getD 0).sum

def Channel.bounds (channel : Channel) : Option Channel := do
  let _ ← boundedText 19 channel.channelId
  let _ ← boundedText 256 channel.channelName
  some channel

def Policy.bounds (policy : Policy) : Option Policy := do
  let _ ← policy.enabledMessageKinds.mapM fun kinds => do
    let kinds ← boundedList 4 kinds
    kinds.mapM (boundedText 32)
  let _ ← policy.channels.mapM fun channels => do
    let channels ← boundedList maxDonbotChannelsPerGuild channels
    channels.mapM Channel.bounds
  some policy

def Guild.bounds (guild : Guild) : Option Guild := do
  let _ ← boundedText 19 guild.guildId
  let _ ← boundedText 256 guild.guildName
  let _ ← guild.discordDelivery.mapM Policy.bounds
  some guild

def Verification.bounds (raw : Verification) : Option Verification := do
  let _ ← boundedText 256 raw.accountName
  let guilds ← boundedList maxDonbotGuilds raw.guilds
  let _ ← guilds.mapM Guild.bounds
  some raw

/-- A message kind sets its flag, once. -/
def setKind (policy : DonBotDiscordDeliveryPolicy) (kind : String) :
    Option DonBotDiscordDeliveryPolicy :=
  if kind = "pve-summary" then
    if policy.pveSummary then none else some { policy with pveSummary := true }
  else if kind = "wvw-summary" then
    if policy.wvwSummary then none else some { policy with wvwSummary := true }
  else if kind = "wvw-advanced" then
    if policy.wvwAdvanced then none else some { policy with wvwAdvanced := true }
  else if kind = "wvw-stream" then
    if policy.wvwStream then none else some { policy with wvwStream := true }
  else none

/-- The loop over the channels. An identifier stands there once. -/
def readChannels (seen : List String) : List Channel → Option (List DonBotChannel)
  | [] => some []
  | channel :: rest =>
    if !canonicalDiscordId channel.channelId || !displayName channel.channelName ||
        seen.contains channel.channelId then none
    else do
      let rest ← readChannels (channel.channelId :: seen) rest
      some ({ channelId := channel.channelId, channelName := channel.channelName } :: rest)

def readPolicy (raw : Policy) (aggregate : Bool) : Option DonBotDiscordDeliveryPolicy := do
  let enabled ← raw.enabled
  let defaultsAvailable ← raw.defaultsAvailable
  let channelOverrideAllowed ← raw.channelOverrideAllowed
  let policy : DonBotDiscordDeliveryPolicy := { enabled, defaultsAvailable, channelOverrideAllowed }
  let policy ←
    (if aggregate then do
      let maximum ← raw.maxAggregateFightLogs
      if !(2 ≤ maximum && maximum ≤ maxDonbotAggregateFights) then none
      else do
        let aggregateEnabled ← raw.aggregateEnabled
        let aggregateDefaultsAvailable ← raw.aggregateDefaultsAvailable
        some { policy with
          aggregateEnabled, aggregateDefaultsAvailable, maxAggregateFightLogs := maximum }
    else some policy)
  let kinds ← raw.enabledMessageKinds
  let policy ← kinds.foldlM setKind policy
  let channels ← raw.channels
  let channels ← readChannels [] channels
  some { policy with channels }

/-- The loop over the guilds. -/
def readGuilds (summary aggregate : Bool) (seen : List String) :
    List Guild → Option (List DonBotGuild)
  | [] => some []
  | guild :: rest =>
    if !canonicalDiscordId guild.guildId || !displayName guild.guildName ||
        seen.contains guild.guildId then none
    else do
      let discordDelivery ←
        (if summary then guild.discordDelivery.bind (readPolicy · aggregate) else some {})
      let rest ← readGuilds summary aggregate (guild.guildId :: seen) rest
      some ({ guildId := guild.guildId, guildName := guild.guildName, discordDelivery } :: rest)

def readVerification (raw : Verification) : Option DonBotVerification := do
  let capabilities := raw.capabilities.getD []
  let summary := capabilities.contains "discord-summary-delivery-v1"
  let aggregate := capabilities.contains "discord-aggregate-delivery-v1"
  if !displayName raw.accountName || (aggregate && !summary) then none
  else do
    let guilds ← readGuilds summary aggregate [] raw.guilds
    some {
      accountName := raw.accountName, guilds
      discordSummaryDeliveryV1 := summary, discordAggregateDeliveryV1 := aggregate }

/-- `verification::decode`. The channels are counted before they are read. -/
def verification (readers : Readers) (response : Application.HttpResponse) :
    Except DonBotError DonBotVerification :=
  let verified : Option DonBotVerification := do
    let count ← decodeJson readers.counts Counts.bounds response.body maxDonbotVerificationBytes
    if count > maxDonbotChannels then none
    else do
      let raw ← decodeJson readers.verification Verification.bounds response.body
        maxDonbotVerificationBytes
      readVerification raw
  match verified with
  | none => .error (invalid response.statusCode)
  | some verified => .ok verified

end DonBotResponse
end MannyUploader.Providers
