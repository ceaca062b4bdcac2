import MannyUploader.Config.HistoryWire
import MannyUploader.Domain.UploadJob

/-! The history document: which records it may hold, and their wire form. Reading and
printing JSON belongs to `serde_json`, so the two are a parameter; the checks that the
source hangs on the reader are stated here. -/
namespace MannyUploader.Config
open Domain

def maxHistoryBytes : Nat := 32 * 1024 * 1024
def maxHistoryRecords : Nat := 10_000

def validateCapacity (capacity : Nat) : Except HistoryDocumentError Unit :=
  if 1 ≤ capacity ∧ capacity ≤ maxHistoryRecords then .ok () else .error .invalidCapacity

/-- `text`: bounded, and without control characters but the tab. -/
def text (value : List UInt8) (limit : Nat) : Except HistoryDocumentError Unit :=
  if value.length > limit || value.any (fun byte => byte < 0x20 && byte != 9) then
    .error .invalidRecord
  else .ok ()

def reportUrl (value : String) (origins : List String) : Except HistoryDocumentError Unit :=
  let bytes := utf8 value
  if bytes.length > 2048 ||
      !bytes.all (fun byte => 0x21 ≤ byte && byte ≤ 0x7e && byte != 92 && byte != 34) ||
      !origins.any (fun origin =>
        (utf8 origin).isPrefixOf bytes && (utf8 origin).length < bytes.length) then
    .error .invalidRecord
  else .ok ()

def reportOrigins (bossId : UInt16) : List String :=
  if bossId = wvwBossId then
    ["https://dps.report/", "https://b.dps.report/", "https://wvw.report/"]
  else ["https://dps.report/", "https://b.dps.report/"]

/-- The check of an optional part. -/
def whenSome (part : Option α) (check : α → Except HistoryDocumentError Unit) :
    Except HistoryDocumentError Unit :=
  match part with
  | none => .ok ()
  | some value => check value

def validateFile (record : UploadJobRecord) : Except HistoryDocumentError Unit := do
  let path ← wirePath record.file.canonicalPath
  if path.isEmpty || record.file.size == 0 then .error .invalidRecord
  else do
    text path 4096
    let _ ← encodeFileTime record.file.lastWriteTime
    let _ ← encodeDetectedTime record.detectedAt
    .ok ()

def validateMetadata (metadata : EncounterMetadata) : Except HistoryDocumentError Unit := do
  text (utf8 metadata.povAccount) 256
  if metadata.remainingHealthBasisPoints.any (10_000 < ·) then .error .invalidRecord else .ok ()

def validateReport (result : DpsReportResult) : Except HistoryDocumentError Unit := do
  text (utf8 result.encounterName) 256
  text (utf8 result.mode) 64
  reportUrl result.permalink (reportOrigins result.bossId)

def validateReceipts (record : UploadJobRecord) : Except HistoryDocumentError Unit := do
  whenSome record.dpsReportResult validateReport
  whenSome record.wingmanUploadReceipt fun receipt =>
    reportUrl receipt.permalink ["https://gw2wingman.nevermindcreations.de/log/"]

def validateStatuses (record : UploadJobRecord) : Except HistoryDocumentError Unit :=
  Provider.all.forM fun provider => text (utf8 (record.providers provider).detail) 4096

def validateIdentifiers (record : UploadJobRecord) : Except HistoryDocumentError Unit := do
  whenSome record.donbotUploadReceipt fun receipt =>
    whenSome receipt.guildId fun guild => text (utf8 guild) 19
  whenSome record.twitchDeliveryReceipt fun receipt =>
    whenSome receipt.messageId fun message => text (utf8 message) 256

def firstJobId : UploadJobId := ⟨1, UploadJobId.one_nonzero⟩

/-- `validate_record`, in the order of its checks. The last one shares the domain's receipt
rules. -/
def validateRecord (record : UploadJobRecord) : Except HistoryDocumentError Unit := do
  validateFile record
  whenSome record.encounterMetadata validateMetadata
  validateReceipts record
  validateStatuses record
  validateIdentifiers record
  match UploadJob.restore firstJobId record with
  | .ok _ => .ok ()
  | .error _ => .error .invalidRecord

/-- The loop of `validate_records` over the identities seen so far. -/
def validateDistinct : (seen : List LogFileIdentity) → List UploadJobRecord →
    Except HistoryDocumentError Unit
  | _, [] => .ok ()
  | seen, record :: rest => do
    validateRecord record
    if seen.any (· == record.file) then .error .duplicateIdentity
    else validateDistinct (record.file :: seen) rest

def validateRecords (records : List UploadJobRecord) (capacity : Nat) :
    Except HistoryDocumentError Unit := do
  validateCapacity capacity
  if records.length > capacity then .error .tooLarge else validateDistinct [] records

namespace Wire

structure Metadata where
  bossId : UInt16
  povAccount : String
  remainingHealthBasisPoints : Option UInt16

structure Report where
  permalink : String
  encounterName : String
  bossId : UInt16
  mode : String
  success : Bool

structure Wingman where
  permalink : String

structure DonBot where
  uploadId : Option UInt64
  fightLogId : Option UInt64
  discordDeliveryOutcome : UInt8
  discordSent : UInt16
  discordSkipped : UInt16
  discordFailed : UInt16
  discordAmbiguous : UInt16
  guildId : Option String

structure Twitch where
  status : UInt8
  messageId : Option String

structure Status where
  state : UInt8
  attempts : UInt32
  detail : String

/-- A record of the document. Its path is the bytes of a string. -/
structure Record where
  path : List UInt8
  size : UInt64
  lastWriteTimeTicks : I64
  detectedAtMilliseconds : I64
  encounterMetadata : Option Metadata
  dpsReportResult : Option Report
  wingmanUploadReceipt : Option Wingman
  donbotUploadReceipt : Option DonBot
  twitchDeliveryReceipt : Option Twitch
  providers : Provider → Status

structure History where
  schemaVersion : UInt32
  logs : List Record

end Wire

def discordOutcomes : List DonBotDiscordDeliveryOutcome :=
  [.notRequested, .sent, .partially, .skipped, .failed, .ambiguous]

def twitchStatuses : List TwitchDeliveryStatus :=
  [.sent, .autoMod, .blockedTerm, .duplicate, .rateLimited, .followersOnly, .slowMode,
    .subscribersOnly, .restricted, .otherDrop]

def discordCode (value : DonBotDiscordDeliveryOutcome) : UInt8 :=
  UInt8.ofNat (discordOutcomes.idxOf value)

def twitchCode (value : TwitchDeliveryStatus) : UInt8 := UInt8.ofNat (twitchStatuses.idxOf value)

def stateCode : ProviderState → UInt8
  | .disabled => 0
  | .waiting => 1
  | .active => 2
  | .succeeded => 3
  | .skipped => 4
  | .retryScheduled _ => 5
  | .failed => 6
  | .cancelled => 7

/-- No retry deadline is persisted: every interrupted state reads back as waiting, and the
domain's restore fails it. -/
def decodeState : UInt8 → Except HistoryDocumentError ProviderState
  | 0 => .ok .disabled
  | 1 | 2 | 5 => .ok .waiting
  | 3 => .ok .succeeded
  | 4 => .ok .skipped
  | 6 => .ok .failed
  | 7 => .ok .cancelled
  | _ => .error .invalidRecord

namespace Wire

def DonBot.decode (wire : DonBot) : Except HistoryDocumentError DonBotUploadReceipt :=
  match discordOutcomes[wire.discordDeliveryOutcome.toNat]? with
  | none => .error .invalidRecord
  | some outcome => .ok {
      uploadId := wire.uploadId
      fightLogId := wire.fightLogId
      discordDelivery := {
        outcome
        sent := wire.discordSent
        skipped := wire.discordSkipped
        failed := wire.discordFailed
        ambiguous := wire.discordAmbiguous }
      guildId := wire.guildId }

def Twitch.decode (wire : Twitch) : Except HistoryDocumentError TwitchDeliveryReceipt :=
  match twitchStatuses[wire.status.toNat]? with
  | none => .error .invalidRecord
  | some status => .ok { status, messageId := wire.messageId }

/-- `Option::map(decode).transpose()`. -/
def decodeOption (decode : α → Except HistoryDocumentError β) :
    Option α → Except HistoryDocumentError (Option β)
  | none => .ok none
  | some wire => do
    let value ← decode wire
    .ok (some value)

def decodeStatus (wire : Status) : Except HistoryDocumentError ProviderStatus := do
  let state ← decodeState wire.state
  .ok { state, attempts := wire.attempts, detail := wire.detail }

/-- The four statuses, in their order in the array. -/
def decodeStatuses (wire : Provider → Status) :
    Except HistoryDocumentError (Provider → ProviderStatus) := do
  let dpsReport ← decodeStatus (wire .dpsReport)
  let wingman ← decodeStatus (wire .wingman)
  let donbot ← decodeStatus (wire .donbot)
  let twitch ← decodeStatus (wire .twitch)
  .ok fun
    | .dpsReport => dpsReport
    | .wingman => wingman
    | .donbot => donbot
    | .twitch => twitch

/-- `Record::decode`, up to the record that is then validated and restored. -/
def Record.toDomain (wire : Record) : Except HistoryDocumentError UploadJobRecord := do
  let providers ← decodeStatuses wire.providers
  let lastWriteTime ← decodeFileTime wire.lastWriteTimeTicks
  let detectedAt ← decodeDetectedTime wire.detectedAtMilliseconds
  let donbotUploadReceipt ← decodeOption DonBot.decode wire.donbotUploadReceipt
  let twitchDeliveryReceipt ← decodeOption Twitch.decode wire.twitchDeliveryReceipt
  .ok {
    file := { canonicalPath := ⟨wire.path⟩, size := wire.size, lastWriteTime }
    detectedAt
    encounterMetadata := wire.encounterMetadata.map fun m =>
      { bossId := m.bossId, povAccount := m.povAccount
        remainingHealthBasisPoints := m.remainingHealthBasisPoints }
    dpsReportResult := wire.dpsReportResult.map fun r =>
      { permalink := r.permalink, encounterName := r.encounterName, bossId := r.bossId
        mode := r.mode, success := r.success }
    wingmanUploadReceipt := wire.wingmanUploadReceipt.map fun r => { permalink := r.permalink }
    donbotUploadReceipt
    twitchDeliveryReceipt
    providers }

def Record.decode (wire : Record) : Except HistoryDocumentError UploadJobRecord := do
  let record ← wire.toDomain
  validateRecord record
  match UploadJob.restore firstJobId record with
  | .ok job => .ok job.record
  | .error _ => .error .invalidRecord

def Record.encode (record : UploadJobRecord) : Except HistoryDocumentError Record := do
  let path ← wirePath record.file.canonicalPath
  let lastWriteTimeTicks ← encodeFileTime record.file.lastWriteTime
  let detectedAtMilliseconds ← encodeDetectedTime record.detectedAt
  .ok {
    path, size := record.file.size, lastWriteTimeTicks, detectedAtMilliseconds
    encounterMetadata := record.encounterMetadata.map fun m =>
      { bossId := m.bossId, povAccount := m.povAccount
        remainingHealthBasisPoints := m.remainingHealthBasisPoints }
    dpsReportResult := record.dpsReportResult.map fun r =>
      { permalink := r.permalink, encounterName := r.encounterName, bossId := r.bossId
        mode := r.mode, success := r.success }
    wingmanUploadReceipt := record.wingmanUploadReceipt.map fun r => { permalink := r.permalink }
    donbotUploadReceipt := record.donbotUploadReceipt.map fun r =>
      { uploadId := r.uploadId, fightLogId := r.fightLogId
        discordDeliveryOutcome := discordCode r.discordDelivery.outcome
        discordSent := r.discordDelivery.sent, discordSkipped := r.discordDelivery.skipped
        discordFailed := r.discordDelivery.failed
        discordAmbiguous := r.discordDelivery.ambiguous, guildId := r.guildId }
    twitchDeliveryReceipt := record.twitchDeliveryReceipt.map fun r =>
      { status := twitchCode r.status, messageId := r.messageId }
    providers := fun provider =>
      { state := stateCode (record.providers provider).state
        attempts := (record.providers provider).attempts
        detail := (record.providers provider).detail } }

/-- The `Text` fields of a record with their limits, as the reader checks them. -/
def Record.texts (wire : Record) : List (List UInt8 × Nat) :=
  [(wire.path, 4096)] ++
  (wire.encounterMetadata.map fun m => (utf8 m.povAccount, 256)).toList ++
  (wire.dpsReportResult.map fun r =>
    [(utf8 r.permalink, 2048), (utf8 r.encounterName, 256), (utf8 r.mode, 64)]).getD [] ++
  (wire.wingmanUploadReceipt.map fun r => (utf8 r.permalink, 2048)).toList ++
  ((wire.donbotUploadReceipt.bind (·.guildId)).map fun id => (utf8 id, 19)).toList ++
  ((wire.twitchDeliveryReceipt.bind (·.messageId)).map fun id => (utf8 id, 256)).toList ++
  Provider.all.map fun provider => (utf8 (wire.providers provider).detail, 4096)

end Wire

/-- `serde_json`: the document an object reads as, and the bytes it prints as. -/
structure JsonCodec where
  parse : List UInt8 → Option Wire.History
  print : Wire.History → List UInt8

/-- `serde_json::from_slice`, with the bounds that the field visitors impose. -/
def readDocument (json : JsonCodec) (document : List UInt8) :
    Except HistoryDocumentError Wire.History :=
  match json.parse document with
  | none => .error .invalidJson
  | some wire =>
    if wire.logs.length ≤ maxHistoryRecords ∧
        wire.logs.all (fun log => log.texts.all fun (value, limit) => (text value limit).isOk) then
      .ok wire
    else .error .invalidJson

def decodeHistory (json : JsonCodec) (document : List UInt8) (capacity : Nat) :
    Except HistoryDocumentError (List UploadJobRecord) := do
  validateCapacity capacity
  if document.length > maxHistoryBytes then .error .tooLarge
  else do
    let wire ← readDocument json document
    if wire.schemaVersion ≠ 1 then .error .invalidSchema
    else if wire.logs.length > capacity then .error .tooLarge
    else do
      let records ← wire.logs.mapM Wire.Record.decode
      validateRecords records capacity
      .ok records

/-- The bounded output takes the document and its final newline, or nothing. -/
def encodeHistory (json : JsonCodec) (records : List UploadJobRecord) (capacity : Nat) :
    Except HistoryDocumentError (List UInt8) := do
  validateRecords records capacity
  match records.mapM Wire.Record.encode with
  | .error _ => .error .serializationFailed
  | .ok logs =>
    let document := json.print { schemaVersion := 1, logs }
    if document.length + 1 > maxHistoryBytes then .error .tooLarge else .ok (document ++ [10])

end MannyUploader.Config
