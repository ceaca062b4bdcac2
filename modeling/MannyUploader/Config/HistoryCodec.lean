import MannyUploader.Config.StorableFiles
import MannyUploader.Domain.Decimals
import MannyUploader.Foundation.Json

/-! What a history reads back as: the records themselves, but for interrupted states and the
precision of the detection time. -/
namespace MannyUploader.Config
open Domain Foundation

section times

theorem fromNanos_ok {nanos : Int} (reach : SystemTime.InReach nanos)
    (inside : SystemTime.minNanos ≤ nanos ∧ nanos ≤ SystemTime.maxNanos) :
    fromNanos nanos = .ok ⟨nanos, inside⟩ := by
  have seconds : nanos.natAbs / 1_000_000_000 < 2 ^ 64 := by
    simp only [SystemTime.InReach] at reach
    omega
  rw [fromNanos, if_pos seconds, SystemTime.fromEpoch, if_pos reach, dif_pos inside]

theorem fromNanos_beyond {nanos : Int} (beyond : ¬SystemTime.InReach nanos) :
    fromNanos nanos = .error .invalidRecord := by
  rw [fromNanos, SystemTime.fromEpoch, if_neg beyond]
  exact ite_self _

theorem tdiv_mul_inside {nanos step : Int} (positive : 0 < step)
    (inside : SystemTime.minNanos ≤ nanos ∧ nanos ≤ SystemTime.maxNanos) :
    SystemTime.minNanos ≤ nanos.tdiv step * step ∧ nanos.tdiv step * step ≤ SystemTime.maxNanos := by
  have parts := Int.mul_tdiv_add_tmod nanos step
  rw [Int.mul_comm] at parts
  have low : SystemTime.minNanos ≤ 0 := by decide
  have high : 0 ≤ SystemTime.maxNanos := by decide
  rcases Int.le_total 0 nanos with forward | backward
  · have rest := Int.tmod_nonneg step forward
    have whole := Int.mul_nonneg (Int.tdiv_nonneg forward positive.le) positive.le
    omega
  · have rest : nanos.tmod step ≤ 0 := by
      have mirrored := Int.tmod_nonneg step (Int.neg_nonneg.mpr backward)
      rw [Int.neg_tmod] at mirrored
      omega
    have whole : nanos.tdiv step * step ≤ 0 := by
      have mirrored := Int.mul_nonneg
        (Int.tdiv_nonneg (Int.neg_nonneg.mpr backward) positive.le) positive.le
      rw [Int.neg_tdiv, Int.neg_mul] at mirrored
      omega
    omega

/-- Truncated toward the epoch, to milliseconds. -/
def toMilliseconds (time : SystemTime) : SystemTime :=
  ⟨time.nanos.tdiv 1_000_000 * 1_000_000, tdiv_mul_inside (by decide) time.representable⟩

theorem toMilliseconds_again (time : SystemTime) :
    toMilliseconds (toMilliseconds time) = toMilliseconds time := by
  simp only [toMilliseconds, SystemTime.mk.injEq]
  rw [Int.mul_tdiv_cancel _ (by decide)]

theorem I64.tryFrom_val {value : Int} {wire : I64} (h : I64.tryFrom value = .ok wire) :
    wire.val = value := by
  unfold I64.tryFrom at h
  split at h
  · cases h; rfl
  · cases h

theorem decodeFileTime_encode {time : SystemTime} {ticks : I64}
    (encoded : encodeFileTime time = .ok ticks) : decodeFileTime ticks = .ok time := by
  unfold encodeFileTime at encoded
  split at encoded
  · cases encoded
  next aligned =>
    simp only at encoded
    split at encoded
    · cases encoded
    next positive =>
      have value := I64.tryFrom_val encoded
      have whole := Int.mul_tdiv_add_tmod time.nanos 100
      have same : (ticks.val - windowsEpochSeconds * ticksPerSecond) * 100 = time.nanos := by
        rw [value]
        omega
      have reach : SystemTime.InReach time.nanos := by
        have high := time.representable.2
        simp only [SystemTime.maxNanos, windowsEpochTicks] at high
        simp only [windowsEpochSeconds, ticksPerSecond] at same
        rw [SystemTime.InReach]
        omega
      unfold decodeFileTime
      rw [if_neg (by rw [value]; exact positive), same, fromNanos_ok reach time.representable]

/-- A detection time that can be read once it is written. -/
def Redatable (time : SystemTime) : Prop := SystemTime.InReach (toMilliseconds time).nanos

instance (time : SystemTime) : Decidable (Redatable time) :=
  inferInstanceAs (Decidable (SystemTime.InReach _))

theorem Redatable.again {time : SystemTime} (dates : Redatable time) :
    Redatable (toMilliseconds time) := by
  rw [Redatable, toMilliseconds_again]
  exact dates

theorem decodeDetectedTime_encode {time : SystemTime} {milliseconds : I64} (dates : Redatable time)
    (encoded : encodeDetectedTime time = .ok milliseconds) :
    decodeDetectedTime milliseconds = .ok (toMilliseconds time) := by
  rw [decodeDetectedTime, I64.tryFrom_val encoded]
  exact fromNanos_ok dates _

theorem decodeDetectedTime_beyond {time : SystemTime} {milliseconds : I64}
    (beyond : ¬Redatable time) (encoded : encodeDetectedTime time = .ok milliseconds) :
    decodeDetectedTime milliseconds = .error .invalidRecord := by
  rw [decodeDetectedTime, I64.tryFrom_val encoded]
  exact fromNanos_beyond beyond

end times

section codes

theorem discordOutcomes_code (outcome : DonBotDiscordDeliveryOutcome) :
    discordOutcomes[(discordCode outcome).toNat]? = some outcome := by
  cases outcome <;> rfl

theorem twitchStatuses_code (status : TwitchDeliveryStatus) :
    twitchStatuses[(twitchCode status).toNat]? = some status := by
  cases status <;> rfl

/-- A state as the document holds it: no deadline, and one busy state for all. -/
def storedState : ProviderState → ProviderState
  | .waiting | .active | .retryScheduled _ => .waiting
  | state => state

theorem decodeState_code (state : ProviderState) :
    decodeState (stateCode state) = .ok (storedState state) := by
  cases state <;> rfl

end codes

section records
variable {record : UploadJobRecord} {wire : Wire.Record}

/-- The record behind a wire record, before the domain restores it. -/
def reread (record : UploadJobRecord) (path : List UInt8) : UploadJobRecord :=
  { record with
    file := { record.file with canonicalPath := ⟨path⟩ }
    detectedAt := toMilliseconds record.detectedAt
    providers := fun provider =>
      { record.providers provider with state := storedState (record.providers provider).state } }

theorem decodeDonBot (receipt : Option DonBotUploadReceipt) :
    Wire.decodeOption Wire.DonBot.decode (receipt.map fun r =>
      { uploadId := r.uploadId, fightLogId := r.fightLogId
        discordDeliveryOutcome := discordCode r.discordDelivery.outcome
        discordSent := r.discordDelivery.sent, discordSkipped := r.discordDelivery.skipped
        discordFailed := r.discordDelivery.failed
        discordAmbiguous := r.discordDelivery.ambiguous, guildId := r.guildId }) = .ok receipt := by
  cases receipt with
  | none => rfl
  | some receipt =>
    simp only [Option.map_some, Wire.decodeOption, Wire.DonBot.decode, discordOutcomes_code]
    rfl

theorem decodeTwitch (receipt : Option TwitchDeliveryReceipt) :
    Wire.decodeOption Wire.Twitch.decode (receipt.map fun r =>
      { status := twitchCode r.status, messageId := r.messageId }) = .ok receipt := by
  cases receipt with
  | none => rfl
  | some receipt =>
    simp only [Option.map_some, Wire.decodeOption, Wire.Twitch.decode, twitchStatuses_code]
    rfl

theorem decodeStatuses_encode (statuses : Provider → ProviderStatus) :
    Wire.decodeStatuses (fun provider =>
      { state := stateCode (statuses provider).state, attempts := (statuses provider).attempts
        detail := (statuses provider).detail }) =
      .ok fun provider =>
        { statuses provider with state := storedState (statuses provider).state } := by
  simp only [Wire.decodeStatuses, Wire.decodeStatus, decodeState_code, bind, Except.bind,
    Except.ok.injEq]
  funext provider
  cases provider <;> rfl

theorem encode_path (encoded : Wire.Record.encode record = .ok wire) :
    wirePath record.file.canonicalPath = .ok wire.path := by
  unfold Wire.Record.encode at encoded
  obtain ⟨path, written, encoded⟩ := bind_ok encoded
  obtain ⟨ticks, stamped, encoded⟩ := bind_ok encoded
  obtain ⟨milliseconds, detected, encoded⟩ := bind_ok encoded
  cases encoded
  exact written

theorem encode_toDomain (dates : Redatable record.detectedAt)
    (encoded : Wire.Record.encode record = .ok wire) :
    wire.toDomain = .ok (reread record wire.path) := by
  unfold Wire.Record.encode at encoded
  obtain ⟨path, written, encoded⟩ := bind_ok encoded
  obtain ⟨ticks, stamped, encoded⟩ := bind_ok encoded
  obtain ⟨milliseconds, detected, encoded⟩ := bind_ok encoded
  cases encoded
  simp only [Wire.Record.toDomain, decodeStatuses_encode, decodeFileTime_encode stamped,
    decodeDetectedTime_encode dates detected, decodeDonBot, decodeTwitch, bind, Except.bind]
  simp [reread, Option.map_map, Function.comp_def]

/-- The record that a session reads back: interrupted, and detected at milliseconds. -/
def normalized (record : UploadJobRecord) : UploadJobRecord :=
  { record with
    detectedAt := toMilliseconds record.detectedAt
    providers := fun provider => UploadJob.interrupt (record.providers provider) }

/-- The same with the path that the document holds. -/
def stored (record : UploadJobRecord) (path : List UInt8) : UploadJobRecord :=
  { normalized record with file := { record.file with canonicalPath := ⟨path⟩ } }

theorem interrupt_stored (status : ProviderStatus) :
    UploadJob.interrupt { status with state := storedState status.state } =
      UploadJob.interrupt status := by
  obtain ⟨state, attempts, detail⟩ := status
  cases state <;> rfl

theorem interrupt_again (status : ProviderStatus) :
    UploadJob.interrupt (UploadJob.interrupt status) = UploadJob.interrupt status := by
  obtain ⟨state, attempts, detail⟩ := status
  cases state <;> rfl

theorem normalized_again (record : UploadJobRecord) :
    normalized (normalized record) = normalized record := by
  simp only [normalized, toMilliseconds_again, interrupt_again]

/-- Records that differ in their file, detection time and statuses only. -/
structure SameReceipts (record other : UploadJobRecord) : Prop where
  metadata : other.encounterMetadata = record.encounterMetadata
  dpsReport : other.dpsReportResult = record.dpsReportResult
  wingman : other.wingmanUploadReceipt = record.wingmanUploadReceipt
  donbot : other.donbotUploadReceipt = record.donbotUploadReceipt
  twitch : other.twitchDeliveryReceipt = record.twitchDeliveryReceipt

theorem SameReceipts.restore {other : UploadJobRecord} (same : SameReceipts record other)
    {id : UploadJobId} {job : UploadJob} (restored : UploadJob.restore id record = .ok job)
    (named : other.file.canonicalPath.bytes.isEmpty = false) :
    UploadJob.restore id other = .ok { id, record := { other with
      providers := fun provider => UploadJob.interrupt (other.providers provider) } } := by
  unfold UploadJob.restore at restored ⊢
  rw [same.dpsReport, same.wingman, same.donbot, same.twitch, named]
  split at restored
  · cases restored
  split at restored
  · cases restored
  next dpsReport =>
    split at restored
    · cases restored
    next wingman =>
      split at restored
      · cases restored
      next donbot =>
        split at restored
        · cases restored
        next twitch => simp only [Bool.false_eq_true, dpsReport, wingman, donbot, twitch, if_false]

theorem validateRecord_ok (valid : validateRecord record = .ok ()) :
    validateFile record = .ok () ∧ whenSome record.encounterMetadata validateMetadata = .ok () ∧
      validateReceipts record = .ok () ∧ validateStatuses record = .ok () ∧
      validateIdentifiers record = .ok () ∧ ∃ job, UploadJob.restore firstJobId record = .ok job := by
  unfold validateRecord at valid
  obtain ⟨_, file, valid⟩ := bind_ok valid
  obtain ⟨_, metadata, valid⟩ := bind_ok valid
  obtain ⟨_, receipts, valid⟩ := bind_ok valid
  obtain ⟨_, statuses, valid⟩ := bind_ok valid
  obtain ⟨_, identifiers, valid⟩ := bind_ok valid
  split at valid
  next job restored => exact ⟨file, metadata, receipts, statuses, identifiers, job, restored⟩
  · cases valid

/-- What is valid of the receipts stays valid beside another valid file and statuses. -/
theorem SameReceipts.validate {other : UploadJobRecord} (same : SameReceipts record other)
    (valid : validateRecord record = .ok ()) (file : validateFile other = .ok ())
    (statuses : validateStatuses other = .ok ())
    (named : other.file.canonicalPath.bytes.isEmpty = false) : validateRecord other = .ok () := by
  obtain ⟨-, metadata, receipts, -, identifiers, job, restored⟩ := validateRecord_ok valid
  have receipts' : validateReceipts other = .ok () := by
    rw [validateReceipts, same.dpsReport, same.wingman]
    exact receipts
  have identifiers' : validateIdentifiers other = .ok () := by
    rw [validateIdentifiers, same.donbot, same.twitch]
    exact identifiers
  simp only [validateRecord, file, same.metadata, metadata, receipts', statuses, identifiers',
    bind, Except.bind, same.restore restored named]

theorem validateStatuses_iff :
    validateStatuses record = .ok () ↔
      ∀ provider, text (utf8 (record.providers provider).detail) 4096 = .ok () := by
  have check : ∀ statuses : List Provider,
      (statuses.forM fun provider => text (utf8 (record.providers provider).detail) 4096) = .ok () ↔
        ∀ provider ∈ statuses, text (utf8 (record.providers provider).detail) 4096 = .ok () := by
    intro statuses
    induction statuses with
    | nil => simp only [List.not_mem_nil, false_implies, implies_true, iff_true]; rfl
    | cons provider rest ih =>
      rw [List.forall_mem_cons, ← ih]
      change (text (utf8 (record.providers provider).detail) 4096 >>= fun _ => rest.forM _) = _ ↔ _
      cases text (utf8 (record.providers provider).detail) 4096 with
      | error error => simp [bind, Except.bind]
      | ok => simp [bind, Except.bind]
  rw [validateStatuses, check]
  simp

/-- The text that the document holds for a path it can store. -/
def storedPath (path : PathBuf) : List UInt8 :=
  match wirePath path with
  | .ok text => text
  | .error _ => path.bytes

theorem storedPath_of_ok {path : PathBuf} {text : List UInt8} (written : wirePath path = .ok text) :
    storedPath path = text := by
  rw [storedPath, written]

/-- The stored text of a path names the same file, and is stored as it is. -/
def Reloads (path : PathBuf) : Prop :=
  wirePath ⟨storedPath path⟩ = .ok (storedPath path) ∧
    PathBuf.identity ⟨storedPath path⟩ = path.identity

/-- A record that can be read once it is written, under the identity it had. -/
structure Rereads (record : UploadJobRecord) : Prop where
  reloads : Reloads record.file.canonicalPath
  dates : Redatable record.detectedAt

/-- The record that the document reads back as. -/
def reloaded (record : UploadJobRecord) : UploadJobRecord :=
  stored record (storedPath record.file.canonicalPath)

theorem validateFile_again {other : UploadJobRecord} (valid : validateFile record = .ok ())
    (reloads : Reloads record.file.canonicalPath)
    (file : other.file =
      { record.file with canonicalPath := ⟨storedPath record.file.canonicalPath⟩ }) :
    validateFile other = .ok () ∧ other.file.canonicalPath.bytes.isEmpty = false := by
  unfold validateFile at valid ⊢
  obtain ⟨path, written, valid⟩ := bind_ok valid
  have same := storedPath_of_ok written
  split at valid
  · cases valid
  next filled =>
    obtain ⟨_, short, valid⟩ := bind_ok valid
    obtain ⟨ticks, stamped, -⟩ := bind_ok valid
    obtain ⟨milliseconds, detected⟩ := encodeDetectedTime_ok other.detectedAt
    have again := reloads.1
    rw [same] at again
    simp only [Bool.or_eq_true, not_or, Bool.not_eq_true] at filled
    refine ⟨?_, by rw [file]; exact same ▸ filled.1⟩
    rw [file, same, again]
    simp only [bind, Except.bind, filled, Bool.or_self, Bool.false_eq_true, if_false, short, stamped,
      detected]

theorem sameReceipts_reread (record : UploadJobRecord) (path : List UInt8) :
    SameReceipts record (reread record path) := ⟨rfl, rfl, rfl, rfl, rfl⟩

theorem sameReceipts_reloaded (record : UploadJobRecord) : SameReceipts record (reloaded record) :=
  ⟨rfl, rfl, rfl, rfl, rfl⟩

theorem reread_valid (valid : validateRecord record = .ok ())
    (reloads : Reloads record.file.canonicalPath) :
    validateRecord (reread record (storedPath record.file.canonicalPath)) = .ok () ∧
      (storedPath record.file.canonicalPath).isEmpty = false := by
  obtain ⟨file, -, -, statuses, -⟩ := validateRecord_ok valid
  obtain ⟨again, named⟩ := @validateFile_again record
    (reread record (storedPath record.file.canonicalPath)) file reloads rfl
  exact ⟨(sameReceipts_reread record _).validate valid again
    (validateStatuses_iff.mpr (validateStatuses_iff.mp statuses)) named, named⟩

theorem text_interrupted : text (utf8 UploadJob.interruptedDetail) 4096 = .ok () := by
  decide

theorem reloaded_valid (valid : validateRecord record = .ok ())
    (reloads : Reloads record.file.canonicalPath) : validateRecord (reloaded record) = .ok () := by
  obtain ⟨file, -, -, statuses, -⟩ := validateRecord_ok valid
  obtain ⟨again, named⟩ := @validateFile_again record (reloaded record) file reloads rfl
  refine (sameReceipts_reloaded record).validate valid again
    (validateStatuses_iff.mpr fun provider => ?_) named
  change text (utf8 (UploadJob.interrupt (record.providers provider)).detail) 4096 = .ok ()
  unfold UploadJob.interrupt
  split
  · exact text_interrupted
  · exact validateStatuses_iff.mp statuses provider

theorem decode_encode (valid : validateRecord record = .ok ()) (rereads : Rereads record)
    (encoded : Wire.Record.encode record = .ok wire) : wire.decode = .ok (reloaded record) := by
  obtain ⟨reloads, dates⟩ := rereads
  have read := encode_toDomain dates encoded
  rw [← storedPath_of_ok (encode_path encoded)] at read
  obtain ⟨-, -, -, -, -, job, restored⟩ := validateRecord_ok valid
  obtain ⟨valid', named⟩ := reread_valid valid reloads
  have again := (sameReceipts_reread record (storedPath record.file.canonicalPath)).restore restored
    named
  simp only [Wire.Record.decode, read, valid', bind, Except.bind, again]
  simp only [reread, reloaded, stored, normalized, interrupt_stored]

theorem reportUrl_text {value : String} {origins : List String}
    (valid : reportUrl value origins = .ok ()) : text (utf8 value) 2048 = .ok () := by
  unfold reportUrl at valid
  simp only at valid
  split at valid
  · cases valid
  next fine =>
    simp only [Bool.or_eq_true, decide_eq_true_eq, not_or, Bool.not_eq_eq_eq_not, Bool.not_true,
      Bool.not_eq_false] at fine
    refine text_ok (Nat.le_of_not_gt fine.1.1) fun byte member => ?_
    have visible := List.all_eq_true.mp fine.1.2 byte member
    simp only [Bool.and_eq_true, decide_eq_true_eq] at visible
    exact UInt8.le_trans (by decide) visible.1.1.1

theorem whenSome_iff {part : Option α} {check : α → Except HistoryDocumentError Unit} :
    whenSome part check = .ok () ↔ ∀ value ∈ part, check value = .ok () := by
  cases part with
  | none => simp [whenSome]
  | some value => simp [whenSome]

/-- The texts of a record behind its path. -/
def recordTexts (record : UploadJobRecord) : List (List UInt8 × Nat) :=
  (record.encounterMetadata.map fun m => (utf8 m.povAccount, 256)).toList ++
  (record.dpsReportResult.map fun r =>
    [(utf8 r.permalink, 2048), (utf8 r.encounterName, 256), (utf8 r.mode, 64)]).getD [] ++
  (record.wingmanUploadReceipt.map fun r => (utf8 r.permalink, 2048)).toList ++
  ((record.donbotUploadReceipt.bind (·.guildId)).map fun id => (utf8 id, 19)).toList ++
  ((record.twitchDeliveryReceipt.bind (·.messageId)).map fun id => (utf8 id, 256)).toList ++
  Provider.all.map fun provider => (utf8 (record.providers provider).detail, 4096)

theorem texts_encode (encoded : Wire.Record.encode record = .ok wire) :
    wire.texts = (wire.path, 4096) :: recordTexts record := by
  unfold Wire.Record.encode at encoded
  obtain ⟨_, -, encoded⟩ := bind_ok encoded
  obtain ⟨_, -, encoded⟩ := bind_ok encoded
  obtain ⟨_, -, encoded⟩ := bind_ok encoded
  cases encoded
  simp only [Wire.Record.texts, recordTexts, Option.map_map, Option.bind_map, Function.comp_def,
    List.append_assoc, List.cons_append, List.nil_append]

theorem recordTexts_ok (valid : validateRecord record = .ok ()) :
    ∀ entry ∈ recordTexts record, text entry.1 entry.2 = .ok () := by
  obtain ⟨-, metadata, receipts, statuses, identifiers, -⟩ := validateRecord_ok valid
  obtain ⟨_, reports, permalinks⟩ := bind_ok receipts
  obtain ⟨_, guilds, messages⟩ := bind_ok identifiers
  simp only [recordTexts, List.forall_mem_append, List.forall_mem_map, Option.mem_toList]
  refine ⟨⟨⟨⟨⟨?_, ?_⟩, ?_⟩, ?_⟩, ?_⟩, fun provider _ => validateStatuses_iff.mp statuses provider⟩
  · intro entry member
    obtain ⟨found, some, rfl⟩ := Option.map_eq_some_iff.mp member
    obtain ⟨_, account, -⟩ := bind_ok (whenSome_iff.mp metadata found some)
    exact account
  · cases result : record.dpsReportResult with
    | none => simp
    | some report =>
      obtain ⟨_, name, others⟩ := bind_ok (whenSome_iff.mp reports report result)
      obtain ⟨_, mode, permalink⟩ := bind_ok others
      simp [name, mode, reportUrl_text permalink]
  · intro entry member
    obtain ⟨receipt, some, rfl⟩ := Option.map_eq_some_iff.mp member
    exact reportUrl_text (whenSome_iff.mp permalinks receipt some)
  · intro entry member
    obtain ⟨guild, found, rfl⟩ := Option.map_eq_some_iff.mp member
    obtain ⟨receipt, some, known⟩ := Option.bind_eq_some_iff.mp found
    exact whenSome_iff.mp (whenSome_iff.mp guilds receipt some) guild known
  · intro entry member
    obtain ⟨message, found, rfl⟩ := Option.map_eq_some_iff.mp member
    obtain ⟨receipt, some, known⟩ := Option.bind_eq_some_iff.mp found
    exact whenSome_iff.mp (whenSome_iff.mp messages receipt some) message known

theorem path_text (valid : validateRecord record = .ok ())
    (encoded : Wire.Record.encode record = .ok wire) : text wire.path 4096 = .ok () := by
  have file := (validateRecord_ok valid).1
  unfold validateFile at file
  rw [encode_path encoded] at file
  obtain ⟨found, same, file⟩ := bind_ok file
  cases same
  split at file
  · cases file
  obtain ⟨_, short, -⟩ := bind_ok file
  exact short

end records

/-- `serde_json` reads back what it writes for these records. -/
def JsonCodec.ReadsBack (json : JsonCodec) (records : List UploadJobRecord) : Prop :=
  ∀ logs, records.mapM Wire.Record.encode = .ok logs →
    json.parse (json.print { schemaVersion := 1, logs } ++ [10]) = some { schemaVersion := 1, logs }

theorem mapM_ok {f : α → Except ε β} {g : α → β} {xs : List α} (each : ∀ x ∈ xs, f x = .ok (g x)) :
    xs.mapM f = .ok (xs.map g) := by
  induction xs with
  | nil => rfl
  | cons x rest ih =>
    rw [List.forall_mem_cons] at each
    rw [List.mapM_cons, each.1, ih each.2]
    rfl

section history
variable {json : JsonCodec} {records : List UploadJobRecord} {capacity : Nat}
  {document : List UInt8} {logs : List Wire.Record}

theorem encodeAll (encoded : records.mapM Wire.Record.encode = .ok logs) :
    List.Forall₂ (fun record wire => Wire.Record.encode record = .ok wire) records logs := by
  induction records generalizing logs with
  | nil => cases encoded; exact .nil
  | cons record rest ih =>
    rw [List.mapM_cons] at encoded
    obtain ⟨wire, one, encoded⟩ := bind_ok encoded
    obtain ⟨wires, others, encoded⟩ := bind_ok encoded
    cases encoded
    exact .cons one (ih others)

theorem decodeAll (valid : ∀ record ∈ records, validateRecord record = .ok ())
    (rereads : ∀ record ∈ records, Rereads record)
    (encoded : List.Forall₂ (fun record wire => Wire.Record.encode record = .ok wire) records logs) :
    logs.mapM Wire.Record.decode = .ok (records.map reloaded) := by
  induction encoded with
  | nil => rfl
  | cons one _ ih =>
    rw [List.forall_mem_cons] at valid rereads
    simp only [List.mapM_cons, decode_encode valid.1 rereads.1 one, ih valid.2 rereads.2, bind,
      Except.bind, pure, Except.pure, List.map_cons]

theorem fieldsAll (valid : ∀ record ∈ records, validateRecord record = .ok ())
    (encoded : List.Forall₂ (fun record wire => Wire.Record.encode record = .ok wire) records logs) :
    ∀ log ∈ logs, ∀ entry ∈ log.texts, text entry.1 entry.2 = .ok () := by
  induction encoded with
  | nil => simp
  | cons one _ ih =>
    rw [List.forall_mem_cons] at valid ⊢
    refine ⟨fun entry member => ?_, ih valid.2⟩
    rw [texts_encode one, List.mem_cons] at member
    rcases member with rfl | other
    · exact path_text valid.1 one
    · exact recordTexts_ok valid.1 entry other

theorem reloadedAll (valid : validateRecords records capacity = .ok ())
    (reloads : ∀ record ∈ records, Reloads record.file.canonicalPath) :
    validateRecords (records.map reloaded) capacity = .ok () := by
  obtain ⟨allowed, few, each, distinct⟩ := validateRecords_iff.mp valid
  refine validateRecords_iff.mpr ⟨allowed, by rwa [List.length_map], ?_, ?_⟩
  · intro other member
    obtain ⟨record, source, rfl⟩ := List.mem_map.mp member
    exact reloaded_valid (each record source) (reloads record source)
  · rw [List.map_map]
    refine (List.map_congr_left fun record source => ?_) ▸ distinct
    rw [Function.comp_apply, JsonUploadHistoryStore.recordKey, JsonUploadHistoryStore.recordKey,
      LogFileIdentity.key, LogFileIdentity.key, ← (reloads record source).2]
    rfl

theorem readDocument_ok {wire : Wire.History} (parsed : json.parse document = some wire)
    (few : wire.logs.length ≤ maxHistoryRecords)
    (fields : ∀ log ∈ wire.logs, ∀ entry ∈ log.texts, text entry.1 entry.2 = .ok ()) :
    readDocument json document = .ok wire := by
  simp only [readDocument, parsed]
  refine if_pos ⟨few, List.all_eq_true.mpr fun log member => List.all_eq_true.mpr fun entry found => ?_⟩
  rw [fields log member entry found]
  rfl

/-- What was written reads back, if each record does. -/
theorem decodeHistory_encode (reads : json.ReadsBack records)
    (rereads : ∀ record ∈ records, Rereads record)
    (encoded : encodeHistory json records capacity = .ok document) :
    decodeHistory json document capacity = .ok (records.map reloaded) := by
  have valid := encodeHistory_valid encoded
  obtain ⟨allowed, few, each, -⟩ := validateRecords_iff.mp valid
  unfold encodeHistory at encoded
  obtain ⟨_, -, encoded⟩ := bind_ok encoded
  split at encoded
  · cases encoded
  next logs written =>
    simp only at encoded
    split at encoded
    · cases encoded
    next short =>
      cases encoded
      have pairs := encodeAll written
      have count := pairs.length_eq
      have read := readDocument_ok (reads logs written) (by dsimp only; omega)
        (fieldsAll each pairs)
      have document : ¬ (json.print { schemaVersion := 1, logs } ++ [10]).length > maxHistoryBytes := by
        rw [List.length_append, List.length_singleton]
        exact short
      have capacity_ok : validateCapacity capacity = .ok () := if_pos allowed
      have reloads : ∀ record ∈ records, Reloads record.file.canonicalPath :=
        fun record member => (rereads record member).reloads
      simp only [decodeHistory, capacity_ok, bind, Except.bind, if_neg document, read,
        decodeAll each rereads pairs, reloadedAll valid reloads, ne_eq, not_true_eq_false, if_false]
      rw [if_neg (by omega)]

theorem encodes {record : UploadJobRecord} (valid : validateRecord record = .ok ()) :
    ∃ wire, Wire.Record.encode record = .ok wire := by
  have file := (validateRecord_ok valid).1
  unfold validateFile at file
  obtain ⟨path, written, file⟩ := bind_ok file
  split at file
  · cases file
  obtain ⟨_, -, file⟩ := bind_ok file
  obtain ⟨ticks, stamped, file⟩ := bind_ok file
  obtain ⟨milliseconds, detected, -⟩ := bind_ok file
  simp only [Wire.Record.encode, written, stamped, detected, bind, Except.bind]
  exact ⟨_, rfl⟩

/-- Valid records are refused for their size only. -/
theorem encodeHistory_of_valid (valid : validateRecords records capacity = .ok ()) :
    ∃ logs, records.mapM Wire.Record.encode = .ok logs ∧
      encodeHistory json records capacity =
        if (json.print { schemaVersion := 1, logs }).length + 1 ≤ maxHistoryBytes then
          .ok (json.print { schemaVersion := 1, logs } ++ [10])
        else .error .tooLarge := by
  have each := (validateRecords_iff.mp valid).2.2.1
  have written : ∃ logs, records.mapM Wire.Record.encode = .ok logs := by
    clear valid
    induction records with
    | nil => exact ⟨[], rfl⟩
    | cons record rest ih =>
      rw [List.forall_mem_cons] at each
      obtain ⟨wire, one⟩ := encodes each.1
      obtain ⟨wires, others⟩ := ih each.2
      exact ⟨wire :: wires, by simp [List.mapM_cons, one, others, bind, Except.bind, pure, Except.pure]⟩
  obtain ⟨logs, written⟩ := written
  refine ⟨logs, written, ?_⟩
  simp only [encodeHistory, valid, written, bind, Except.bind]
  by_cases short : (json.print { schemaVersion := 1, logs }).length + 1 ≤ maxHistoryBytes
  · rw [if_pos short, if_neg (Nat.not_lt.mpr short)]
  · rw [if_neg short, if_pos (Nat.lt_of_not_le short)]

/-- Neither a verbatim drive nor a verbatim share is in front of the path. -/
def Ordinary (path : PathBuf) : Prop :=
  (∀ drive, path.components.head? ≠ some (.leading (.verbatimDisk drive))) ∧
    ∀ server share, path.components.head? ≠ some (.leading (.verbatimUnc server share))

theorem Ordinary.wirePath_ok {path : PathBuf} {text : List UInt8} (ordinary : Ordinary path)
    (written : wirePath path = .ok text) : text = path.bytes := by
  unfold wirePath encodeUncPath at written
  split at written
  next found => exact absurd found (ordinary.2 _ _)
  · simp only [bind, Except.bind, encodePath] at written
    split at written
    · cases written
    · split at written
      next found => exact absurd found (ordinary.1 _)
      · cases written; rfl

theorem Ordinary.reloaded {record : UploadJobRecord}
    (ordinary : Ordinary record.file.canonicalPath) (valid : validateRecord record = .ok ()) :
    Reloads record.file.canonicalPath ∧ reloaded record = normalized record := by
  obtain ⟨wire, encoded⟩ := encodes valid
  have written := encode_path encoded
  have path := ordinary.wirePath_ok written
  have same : storedPath record.file.canonicalPath = record.file.canonicalPath.bytes :=
    (storedPath_of_ok written).trans path
  refine ⟨⟨?_, ?_⟩, ?_⟩
  · rw [same]
    exact written.trans (congrArg Except.ok path)
  · rw [same]
  · rw [Config.reloaded, same]
    rfl

theorem reloaded_ordinary (ordinary : ∀ record ∈ records, Ordinary record.file.canonicalPath)
    (valid : validateRecords records capacity = .ok ()) :
    (∀ record ∈ records, Reloads record.file.canonicalPath) ∧
      records.map reloaded = records.map normalized := by
  have each := (validateRecords_iff.mp valid).2.2.1
  refine ⟨fun record member => ?_, List.map_congr_left fun record member => ?_⟩
  · exact ((ordinary record member).reloaded (each record member)).1
  · exact ((ordinary record member).reloaded (each record member)).2

/-- What was written reads back interrupted, if its paths are ordinary. -/
theorem decodeHistory_ordinary (ordinary : ∀ record ∈ records, Ordinary record.file.canonicalPath)
    (dates : ∀ record ∈ records, Redatable record.detectedAt) (reads : json.ReadsBack records)
    (encoded : encodeHistory json records capacity = .ok document) :
    decodeHistory json document capacity = .ok (records.map normalized) ∧
      validateRecords (records.map normalized) capacity = .ok () := by
  have valid := encodeHistory_valid encoded
  obtain ⟨reloads, same⟩ := reloaded_ordinary ordinary valid
  have first := decodeHistory_encode reads
    (fun record member => ⟨reloads record member, dates record member⟩) encoded
  have again := reloadedAll valid reloads
  rw [same] at first again
  exact ⟨first, again⟩

/-- An encoded history reads back with busy states interrupted and detections truncated. What
was read can be written again if the document is short enough, and reads back as it is. -/
theorem history_round_trip (ordinary : ∀ record ∈ records, Ordinary record.file.canonicalPath)
    (dates : ∀ record ∈ records, Redatable record.detectedAt)
    (reads : json.ReadsBack records) (reads' : json.ReadsBack (records.map normalized))
    (encoded : encodeHistory json records capacity = .ok document) :
    decodeHistory json document capacity = .ok (records.map normalized) ∧
      (∀ document', encodeHistory json (records.map normalized) capacity = .ok document' →
        decodeHistory json document' capacity = .ok (records.map normalized)) ∧
      ∃ logs, (records.map normalized).mapM Wire.Record.encode = .ok logs ∧
        encodeHistory json (records.map normalized) capacity =
          if (json.print { schemaVersion := 1, logs }).length + 1 ≤ maxHistoryBytes then
            .ok (json.print { schemaVersion := 1, logs } ++ [10])
          else .error .tooLarge := by
  obtain ⟨first, valid⟩ := decodeHistory_ordinary ordinary dates reads encoded
  have ordinary' : ∀ record ∈ records.map normalized, Ordinary record.file.canonicalPath := by
    intro other member
    obtain ⟨record, source, rfl⟩ := List.mem_map.mp member
    exact ordinary record source
  have dates' : ∀ record ∈ records.map normalized, Redatable record.detectedAt := by
    intro other member
    obtain ⟨record, source, rfl⟩ := List.mem_map.mp member
    exact (dates record source).again
  refine ⟨first, fun document' again => ?_, encodeHistory_of_valid valid⟩
  rw [(decodeHistory_ordinary ordinary' dates' reads' again).1, List.map_map]
  exact congrArg Except.ok (List.map_congr_left fun record _ => normalized_again record)

end history

section samples
open Application

/-! The documents of logs without receipts, as `serde_json` prints them. -/

def statusText (status : Wire.Status) : List UInt8 :=
  utf8 "        \x7b\n          \"state\": " ++ utf8 (toString status.state) ++
    utf8 ",\n          \"attempts\": " ++ utf8 (toString status.attempts) ++
    utf8 ",\n          \"detail\": " ++ Json.quoted status.detail ++ utf8 "\n        \x7d"

def logText (log : Wire.Record) : List UInt8 :=
  utf8 "    \x7b\n      \"path\": \"" ++ log.path.flatMap Json.escape ++
    utf8 "\",\n      \"size\": " ++ utf8 (toString log.size) ++
    utf8 ",\n      \"last_write_time_ticks\": " ++ utf8 (toString log.lastWriteTimeTicks.val) ++
    utf8 ",\n      \"detected_at_milliseconds\": " ++
    utf8 (toString log.detectedAtMilliseconds.val) ++
    utf8 ",\n      \"encounter_metadata\": null,\n      \"dps_report_result\": null,\n" ++
    utf8 "      \"wingman_upload_receipt\": null,\n      \"donbot_upload_receipt\": null,\n" ++
    utf8 "      \"twitch_delivery_receipt\": null,\n      \"providers\": [\n" ++
    statusText (log.providers .dpsReport) ++ utf8 ",\n" ++
    statusText (log.providers .wingman) ++ utf8 ",\n" ++
    statusText (log.providers .donbot) ++ utf8 ",\n" ++
    statusText (log.providers .twitch) ++ utf8 "\n      ]\n    \x7d"

def logsText : List Wire.Record → List UInt8
  | [] => []
  | [log] => logText log
  | log :: rest => logText log ++ utf8 ",\n" ++ logsText rest

def historyText (history : Wire.History) : List UInt8 :=
  utf8 "\x7b\n  \"schema_version\": 1,\n  \"logs\": [\n" ++ logsText history.logs ++
    utf8 "\n  ]\n\x7d"

/-- The codec, as far as it reads these documents. -/
def codecOf (known : List Wire.History) : JsonCodec where
  print := historyText
  parse document := known.find? fun history => historyText history ++ [10] == document

theorem codecOf_first {history : Wire.History} {known : List Wire.History} :
    (codecOf (history :: known)).parse (historyText history ++ [10]) = some history := by
  simp [codecOf]

theorem codecOf_next {first history : Wire.History} {known : List Wire.History}
    (different : historyText first ≠ historyText history) :
    (codecOf (first :: known)).parse (historyText history ++ [10]) =
      (codecOf known).parse (historyText history ++ [10]) := by
  simp [codecOf, different]

theorem epochTicks_inside : -2 ^ 63 ≤ (116_444_736_000_000_000 : Int) ∧
    (116_444_736_000_000_000 : Int) < 2 ^ 63 := by decide

theorem zero_inside : -2 ^ 63 ≤ (0 : Int) ∧ (0 : Int) < 2 ^ 63 := by decide

def sampleWire (name : String) (state : UInt8) (detail : String) : Wire.History where
  schemaVersion := 1
  logs := [{
    path := utf8 ("C:\\logs\\" ++ name), size := 1
    lastWriteTimeTicks := ⟨116_444_736_000_000_000, epochTicks_inside⟩
    detectedAtMilliseconds := ⟨0, zero_inside⟩
    encounterMetadata := none, dpsReportResult := none, wingmanUploadReceipt := none
    donbotUploadReceipt := none, twitchDeliveryReceipt := none
    providers := fun _ => { state, attempts := 0, detail } }]

/-- The codec for the documents of a queued and of an interrupted log. -/
def sampleCodec : JsonCodec :=
  codecOf [sampleWire "a.zevtc" 1 "Queued", sampleWire "a.zevtc" 6 UploadJob.interruptedDetail]

/-- The record of a log that no provider has taken up since the last session. -/
def statusRecord (state : ProviderState) (detail : String) : UploadJobRecord :=
  { sampleRecord 1 detail with providers := fun _ => { state, attempts := 0, detail } }

theorem unixEpoch_redatable : Redatable .unixEpoch := by decide

theorem sampleLog_wire :
    wirePath (sampleLog 1).canonicalPath = .ok (utf8 "C:\\logs\\a.zevtc") ∧
      encodeFileTime (sampleLog 1).lastWriteTime = .ok ⟨116_444_736_000_000_000, epochTicks_inside⟩ ∧
      encodeDetectedTime .unixEpoch = .ok ⟨0, zero_inside⟩ ∧
      (sampleLog 1).canonicalPath.components.head? = some (.leading (.disk 67)) := by
  decide

theorem sampleLog_ordinary : Ordinary (sampleLog 1).canonicalPath := by
  obtain ⟨-, -, -, leading⟩ := sampleLog_wire
  constructor
  · intro drive same
    cases leading.symm.trans same
  · intro server share same
    cases leading.symm.trans same

theorem statusRecord_reads {state : ProviderState} {detail : String}
    (reads : sampleCodec.parse (sampleCodec.print (sampleWire "a.zevtc" (stateCode state) detail) ++ [10]) =
      some (sampleWire "a.zevtc" (stateCode state) detail)) :
    sampleCodec.ReadsBack [statusRecord state detail] := by
  obtain ⟨path, ticks, milliseconds, -⟩ := sampleLog_wire
  intro logs written
  simp only [List.mapM_cons, List.mapM_nil, Wire.Record.encode, statusRecord, sampleRecord, path,
    ticks, milliseconds, bind, Except.bind, pure, Except.pure] at written
  cases written
  exact reads

theorem sampleCodec_waiting :
    sampleCodec.parse (sampleCodec.print (sampleWire "a.zevtc" 1 "Queued") ++ [10]) =
      some (sampleWire "a.zevtc" 1 "Queued") := codecOf_first

theorem sampleCodec_failed :
    sampleCodec.parse (sampleCodec.print (sampleWire "a.zevtc" 6 UploadJob.interruptedDetail) ++ [10]) =
      some (sampleWire "a.zevtc" 6 UploadJob.interruptedDetail) := by
  have different : historyText (sampleWire "a.zevtc" 1 "Queued") ≠
      historyText (sampleWire "a.zevtc" 6 UploadJob.interruptedDetail) := by
    decide +kernel
  exact (codecOf_next different).trans codecOf_first

theorem history_round_trip_sample :
    encodeHistory sampleCodec [statusRecord .waiting "Queued"] 2 =
        .ok (historyText (sampleWire "a.zevtc" 1 "Queued") ++ [10]) ∧
      decodeHistory sampleCodec (historyText (sampleWire "a.zevtc" 1 "Queued") ++ [10]) 2 =
        .ok [statusRecord .failed UploadJob.interruptedDetail] := by
  have encoded : encodeHistory sampleCodec [statusRecord .waiting "Queued"] 2 =
      .ok (historyText (sampleWire "a.zevtc" 1 "Queued") ++ [10]) := by decide +kernel
  have ordinary : ∀ record ∈ [statusRecord .waiting "Queued"],
      Ordinary record.file.canonicalPath := by
    intro record member
    rw [List.mem_singleton.mp member]
    exact sampleLog_ordinary
  have dates : ∀ record ∈ [statusRecord .waiting "Queued"], Redatable record.detectedAt := by
    intro record member
    rw [List.mem_singleton.mp member]
    exact unixEpoch_redatable
  exact ⟨encoded, (history_round_trip ordinary dates (statusRecord_reads sampleCodec_waiting)
    (statusRecord_reads sampleCodec_failed) encoded).1⟩

theorem earliest_representable :
    SystemTime.minNanos ≤ SystemTime.minNanos ∧ SystemTime.minNanos ≤ SystemTime.maxNanos := by
  decide

theorem earliest_inside : -2 ^ 63 ≤ (-933_981_677_285_477 : Int) ∧
    (-933_981_677_285_477 : Int) < 2 ^ 63 := by decide

/-- A log that was detected at the earliest time there is. -/
def earliestRecord : UploadJobRecord :=
  { statusRecord .failed "Queued" with
    detectedAt := ⟨SystemTime.minNanos, earliest_representable⟩ }

def earliestWire : Wire.History where
  schemaVersion := 1
  logs := [{
    path := utf8 "C:\\logs\\a.zevtc", size := 1
    lastWriteTimeTicks := ⟨116_444_736_000_000_000, epochTicks_inside⟩
    detectedAtMilliseconds := ⟨-933_981_677_285_477, earliest_inside⟩
    encounterMetadata := none, dpsReportResult := none, wingmanUploadReceipt := none
    donbotUploadReceipt := none, twitchDeliveryReceipt := none
    providers := fun _ => { state := 6, attempts := 0, detail := "Queued" } }]

theorem earliest_reads : (codecOf [earliestWire]).ReadsBack [earliestRecord] := by
  obtain ⟨path, ticks, -, -⟩ := sampleLog_wire
  intro logs written
  simp only [List.mapM_cons, List.mapM_nil, Wire.Record.encode, bind, Except.bind, pure,
    Except.pure, earliestRecord, statusRecord, sampleRecord, path, ticks] at written
  cases written
  exact codecOf_first

theorem earliest_unread :
    encodeHistory (codecOf [earliestWire]) [earliestRecord] 2 =
        .ok (historyText earliestWire ++ [10]) ∧
      (decodeHistory (codecOf [earliestWire]) (historyText earliestWire ++ [10]) 2).isOk = false := by
  constructor <;> decide +kernel

/-- One failed provider with a detail, and three in a state. -/
def crowdedStatuses (long : String) (state : ProviderState) (detail : String) :
    Provider → ProviderStatus
  | .dpsReport => { state := .failed, attempts := 0, detail := long }
  | _ => { state, attempts := 0, detail }

def crowdedRecord (long : String) (state : ProviderState) (detail : String) (index : Nat) :
    UploadJobRecord :=
  { sampleRecord (UInt64.ofNat (index + 1)) "" with providers := crowdedStatuses long state detail }

def crowdedLog (long : String) (state : ProviderState) (detail : String) (index : Nat) :
    Wire.Record where
  path := utf8 "C:\\logs\\a.zevtc"
  size := UInt64.ofNat (index + 1)
  lastWriteTimeTicks := ⟨116_444_736_000_000_000, epochTicks_inside⟩
  detectedAtMilliseconds := ⟨0, zero_inside⟩
  encounterMetadata := none
  dpsReportResult := none
  wingmanUploadReceipt := none
  donbotUploadReceipt := none
  twitchDeliveryReceipt := none
  providers provider :=
    { state := stateCode (crowdedStatuses long state detail provider).state
      attempts := (crowdedStatuses long state detail provider).attempts
      detail := (crowdedStatuses long state detail provider).detail }

def longDetail (length : Nat) : String := String.ofList (List.replicate length 'x')

section crowded
variable {length count : Nat} {state : ProviderState} {detail : String}

theorem utf8_longDetail : utf8 (longDetail length) = List.replicate length 120 := by
  rw [longDetail, utf8_ofList, List.flatMap_replicate]
  exact List.flatten_replicate_singleton

theorem quoted_longDetail : (Json.quoted (longDetail length)).length = length + 2 := by
  have bytes : Json.bytes (longDetail length) = List.replicate length 120 := utf8_longDetail
  rw [Json.quoted, bytes, List.flatMap_replicate,
    show Json.escape 120 = [120] by decide, List.flatten_replicate_singleton, List.length_append,
    List.length_cons, List.length_replicate, List.length_singleton]

theorem text_longDetail (short : length ≤ 4096) : text (utf8 (longDetail length)) 4096 = .ok () := by
  rw [utf8_longDetail]
  apply text_ok
  · rwa [List.length_replicate]
  · intro byte member
    rw [(List.mem_replicate.mp member).2]
    decide

theorem toNat_size {index : Nat} (few : index < 9999) :
    (UInt64.ofNat (index + 1)).toNat = index + 1 :=
  UInt64.toNat_ofNat_of_lt' (by rw [UInt64.size]; omega)

/-- Only the size of the file and the long detail make a difference. -/
theorem length_crowdedLog (index : Nat) :
    (logText (crowdedLog (longDetail length) state detail index)).length + 1 =
      (logText (crowdedLog "" state detail 0)).length + length +
        (utf8 (toString (UInt64.ofNat (index + 1)))).length := by
  have one : (utf8 (toString (UInt64.ofNat (0 + 1)))).length = 1 := by decide
  have none : (Json.quoted "").length = 2 := by decide
  have long := @quoted_longDetail length
  -- Its equation takes long to derive, `delta` does without.
  delta logText
  simp only [statusText, crowdedLog, crowdedStatuses, List.length_append]
  omega

theorem length_logsText {logs : List Wire.Record} {low high : Nat}
    (each : ∀ log ∈ logs, low ≤ (logText log).length ∧ (logText log).length ≤ high) :
    logs.length * (low + 2) ≤ (logsText logs).length + 2 ∧
      (logsText logs).length ≤ logs.length * (high + 2) := by
  have between : (utf8 ",\n").length = 2 := by decide
  induction logs with
  | nil => simp [logsText]
  | cons log rest ih =>
    rw [List.forall_mem_cons] at each
    have later := ih each.2
    rw [List.length_cons, Nat.add_mul, Nat.add_mul, Nat.one_mul, Nat.one_mul]
    cases rest with
    | nil => simp only [logsText, List.length_nil] at later ⊢; omega
    | cons next rest =>
      simp only [logsText, List.length_append, between]
      omega

def crowdedHistory (length count : Nat) (state : ProviderState) (detail : String) : Wire.History where
  schemaVersion := 1
  logs := (List.range count).map (crowdedLog (longDetail length) state detail)

def crowdedRecords (length count : Nat) (state : ProviderState) (detail : String) :
    List UploadJobRecord :=
  (List.range count).map (crowdedRecord (longDetail length) state detail)

theorem length_crowded (few : count ≤ 9999) {short : Nat}
    (same : (logText (crowdedLog "" state detail 0)).length = short) :
    count * (short + length + 1) ≤ (historyText (crowdedHistory length count state detail)).length ∧
      (historyText (crowdedHistory length count state detail)).length ≤
        count * (short + length + 5) + 100 := by
  have each : ∀ log ∈ (crowdedHistory length count state detail).logs,
      short + length - 1 ≤ (logText log).length ∧ (logText log).length ≤ short + length + 3 := by
    intro log member
    obtain ⟨index, inside, rfl⟩ := List.mem_map.mp member
    have whole := @length_crowdedLog length state detail index
    have few := List.mem_range.mp inside
    have digits : (utf8 (toString (UInt64.ofNat (index + 1)))).length ≤ 4 := by
      change (utf8 (toString (UInt64.ofNat (index + 1)).toNat)).length ≤ 4
      rw [toNat_size (by omega)]
      exact length_utf8_decimal (by decide) (by omega)
    omega
  have bounds := length_logsText each
  have number : (crowdedHistory length count state detail).logs.length = count :=
    (List.length_map _).trans List.length_range
  have front : (utf8 "\x7b\n  \"schema_version\": 1,\n  \"logs\": [\n").length = 37 := by decide
  have behind : (utf8 "\n  ]\n\x7d").length = 6 := by decide
  rw [number] at bounds
  rw [historyText, List.length_append, List.length_append, front, behind]
  have low : count * (short + length + 1) ≤ count * (short + length - 1 + 2) :=
    Nat.mul_le_mul_left _ (by omega)
  have high : count * (short + length + 3 + 2) = count * (short + length + 5) := rfl
  omega

theorem crowded_encode :
    (crowdedRecords length count state detail).mapM Wire.Record.encode =
      .ok (crowdedHistory length count state detail).logs := by
  rw [crowdedRecords, List.mapM_map]
  apply mapM_ok
  intro index _
  obtain ⟨path, ticks, milliseconds, -⟩ := sampleLog_wire
  change Wire.Record.encode (crowdedRecord (longDetail length) state detail index) = _
  simp only [Wire.Record.encode, crowdedRecord, sampleRecord, bind, Except.bind]
  rw [show wirePath (sampleLog (UInt64.ofNat (index + 1))).canonicalPath = _ from path]
  dsimp only
  rw [show encodeFileTime (sampleLog (UInt64.ofNat (index + 1))).lastWriteTime = _ from ticks]
  dsimp only
  rw [milliseconds]
  rfl

theorem crowded_valid (some : 1 ≤ count) (few : count ≤ 9999) (bounded : length ≤ 4096)
    (short : text (utf8 detail) 4096 = .ok ()) :
    validateRecords (crowdedRecords length count state detail) count = .ok () := by
  refine validateRecords_iff.mpr ⟨⟨some, few.trans (by decide)⟩, ?_, ?_, ?_⟩
  · exact ((List.length_map _).trans List.length_range).le
  · intro record member
    obtain ⟨index, inside, rfl⟩ := List.mem_map.mp member
    have base : validateRecord (statusRecord .failed "Queued") = .ok () := by decide
    have filled : ((sampleLog (UInt64.ofNat (index + 1))).size == 0) = false := by
      rw [beq_eq_false_iff_ne]
      intro zero
      have value := toNat_size ((List.mem_range.mp inside).trans_le few)
      change (sampleLog (UInt64.ofNat (index + 1))).size.toNat = _ at value
      rw [zero] at value
      cases value
    have file : validateFile (crowdedRecord (longDetail length) state detail index) = .ok () := by
      obtain ⟨path, ticks, milliseconds, -⟩ := sampleLog_wire
      have named : (utf8 "C:\\logs\\a.zevtc").isEmpty = false := by decide
      have legible : text (utf8 "C:\\logs\\a.zevtc") 4096 = .ok () := by decide
      rw [validateFile, show
        wirePath (crowdedRecord (longDetail length) state detail index).file.canonicalPath = _ from path]
      simp only [bind, Except.bind, named, legible,
        show ((crowdedRecord (longDetail length) state detail index).file.size == 0) = false from filled]
      rfl
    refine SameReceipts.validate (?same : SameReceipts (statusRecord .failed "Queued") _) base file
      (validateStatuses_iff.mpr fun provider => ?_) rfl
    case same => exact ⟨rfl, rfl, rfl, rfl, rfl⟩
    cases provider with
    | dpsReport => exact text_longDetail bounded
    | _ => exact short
  · rw [crowdedRecords, List.map_map]
    refine List.Nodup.map_on ?_ List.nodup_range
    intro index inside other inside' same
    have sizes := congrArg (fun key => key.2.1.toNat) same
    change (UInt64.ofNat (index + 1)).toNat = (UInt64.ofNat (other + 1)).toNat at sizes
    rw [toNat_size ((List.mem_range.mp inside).trans_le few),
      toNat_size ((List.mem_range.mp inside').trans_le few)] at sizes
    omega

theorem crowded_normalized (state : ProviderState) (busy : state.isBusy = true) :
    (crowdedRecords length count state detail).map normalized =
      crowdedRecords length count .failed UploadJob.interruptedDetail := by
  rw [crowdedRecords, List.map_map]
  apply List.map_congr_left
  intro index _
  have statuses (provider : Provider) :
      UploadJob.interrupt (crowdedStatuses (longDetail length) state detail provider) =
        crowdedStatuses (longDetail length) .failed UploadJob.interruptedDetail provider := by
    cases provider with
    | dpsReport => rfl
    | _ => simp [UploadJob.interrupt, crowdedStatuses, busy]
  simp only [Function.comp_apply, normalized, crowdedRecord, statuses]
  rfl

theorem crowded_readsBack {json : JsonCodec}
    (parsed : json.parse (json.print (crowdedHistory length count state detail) ++ [10]) =
      some (crowdedHistory length count state detail)) :
    json.ReadsBack (crowdedRecords length count state detail) := by
  intro logs written
  rw [crowded_encode] at written
  cases written
  exact parsed

theorem crowded_document {json : JsonCodec}
    (valid : validateRecords (crowdedRecords length count state detail) count = .ok ()) :
    encodeHistory json (crowdedRecords length count state detail) count =
      if (json.print (crowdedHistory length count state detail)).length + 1 ≤ maxHistoryBytes then
        .ok (json.print (crowdedHistory length count state detail) ++ [10])
      else .error .tooLarge := by
  obtain ⟨logs, written, encoded⟩ := @encodeHistory_of_valid json _ _ valid
  rw [crowded_encode] at written
  cases written
  exact encoded

end crowded

/-- The codec for nine thousand queued logs, and for the same logs interrupted. -/
def crowdedCodec : JsonCodec :=
  codecOf [crowdedHistory 2900 9000 .waiting "",
    crowdedHistory 2900 9000 .failed UploadJob.interruptedDetail]

/-- The details of interrupted uploads are longer than those they stand for. -/
theorem crowded_refused :
    crowdedCodec.ReadsBack (crowdedRecords 2900 9000 .waiting "") ∧
      crowdedCodec.ReadsBack ((crowdedRecords 2900 9000 .waiting "").map normalized) ∧
      encodeHistory crowdedCodec (crowdedRecords 2900 9000 .waiting "") 9000 =
        .ok (historyText (crowdedHistory 2900 9000 .waiting "") ++ [10]) ∧
      encodeHistory crowdedCodec ((crowdedRecords 2900 9000 .waiting "").map normalized) 9000 =
        .error .tooLarge := by
  have short : (logText (crowdedLog "" .waiting "" 0)).length = 724 := by decide +kernel
  have long : (logText (crowdedLog "" .failed UploadJob.interruptedDetail 0)).length = 844 := by
    decide +kernel
  have fits := @length_crowded 2900 9000 _ _ (by decide) _ short
  have exceeds := @length_crowded 2900 9000 _ _ (by decide) _ long
  have limit : maxHistoryBytes = 33_554_432 := rfl
  have different : historyText (crowdedHistory 2900 9000 .waiting "") ≠
      historyText (crowdedHistory 2900 9000 .failed UploadJob.interruptedDetail) := by
    intro same
    rw [same] at fits
    omega
  have valid := @crowded_valid 2900 9000 .waiting "" (by decide) (by decide) (by decide) (by decide)
  have valid' := @crowded_valid 2900 9000 .failed UploadJob.interruptedDetail (by decide) (by decide)
    (by decide) text_interrupted
  rw [crowded_normalized .waiting rfl]
  constructor
  · exact crowded_readsBack codecOf_first
  constructor
  · exact crowded_readsBack ((codecOf_next different).trans codecOf_first)
  constructor
  · exact (crowded_document valid).trans (if_pos (by change (historyText _).length + 1 ≤ _; omega))
  · exact (crowded_document valid').trans (if_neg (by change ¬(historyText _).length + 1 ≤ _; omega))

/-- A time out of reach is written but not read, and a history that was read may be too large
to be written again. -/
theorem history_round_trip_fails :
    ((codecOf [earliestWire]).ReadsBack [earliestRecord] ∧
      (∀ record ∈ [earliestRecord], Ordinary record.file.canonicalPath) ∧
      ∃ document, encodeHistory (codecOf [earliestWire]) [earliestRecord] 2 = .ok document ∧
        (decodeHistory (codecOf [earliestWire]) document 2).isOk = false) ∧
    ∃ records, crowdedCodec.ReadsBack records ∧ crowdedCodec.ReadsBack (records.map normalized) ∧
      (∀ record ∈ records, Ordinary record.file.canonicalPath) ∧
      (∃ document, encodeHistory crowdedCodec records 9000 = .ok document ∧
        decodeHistory crowdedCodec document 9000 = .ok (records.map normalized)) ∧
      encodeHistory crowdedCodec (records.map normalized) 9000 = .error .tooLarge := by
  obtain ⟨reads, reads', encoded, refused⟩ := crowded_refused
  have paths : ∀ record ∈ crowdedRecords 2900 9000 .waiting "",
      Ordinary record.file.canonicalPath ∧ Redatable record.detectedAt := by
    intro record member
    obtain ⟨index, _, rfl⟩ := List.mem_map.mp member
    exact ⟨sampleLog_ordinary, unixEpoch_redatable⟩
  refine ⟨⟨earliest_reads, ?_, _, earliest_unread⟩, _, reads, reads',
    fun record member => (paths record member).1, ⟨_, encoded, ?_⟩, refused⟩
  · intro record member
    rw [List.mem_singleton.mp member]
    exact sampleLog_ordinary
  · exact (decodeHistory_ordinary (fun record member => (paths record member).1)
      (fun record member => (paths record member).2) reads encoded).1

end samples

end MannyUploader.Config
