import Mathlib.Data.List.Basic
import MannyUploader.Application.Entry
import MannyUploader.Domain.Decimals
import MannyUploader.Application.ReportUrl
import MannyUploader.Application.AdmittedRecords
import MannyUploader.Providers.DpsReport

/-! Whatever dps.report answers, a report that is taken from the answer passes every later
check. -/
namespace MannyUploader.Providers.DpsReport
open Domain

/-- What every report has in common that is taken from an answer. -/
structure Sound (report : DpsReportResult) : Prop where
  trusted : trustedReportPermalink report.permalink = true
  wvw : (utf8 "https://wvw.report/").isPrefixOf (utf8 report.permalink) = true →
    report.bossId = wvwBossId
  short : (utf8 report.encounterName).length ≤ 256
  printable : ∀ byte ∈ utf8 report.encounterName, 0x20 ≤ byte
  shortMode : (utf8 report.mode).length ≤ 64
  printableMode : ∀ byte ∈ utf8 report.mode, 0x20 ≤ byte

theorem mode_sound (encounter : Encounter) :
    (utf8 (mode encounter)).length ≤ 64 ∧ ∀ byte ∈ utf8 (mode encounter), 0x20 ≤ byte := by
  unfold mode
  split
  · exact ⟨by decide, by decide +kernel⟩
  split
  · exact ⟨by decide, by decide +kernel⟩
  split
  · rename_i positive
    generalize encounter.emboldened.getD 0 = level at positive ⊢
    have positive : 0 < level.toInt := Int32.lt_iff_toInt_lt.mp positive
    have bound : level.toInt < 2 ^ 31 := level.toInt_lt
    obtain ⟨n, eq⟩ := Int.eq_ofNat_of_zero_le positive.le
    rw [eq] at bound ⊢
    change _ ≤ 64 ∧ ∀ byte ∈ utf8 ("Emboldened " ++ toString n), _
    change (utf8 ("Emboldened " ++ toString n)).length ≤ 64 ∧ _
    have digits : (utf8 (toString n)).length ≤ 10 :=
      length_utf8_decimal (by decide) (by omega)
    rw [utf8_append]
    refine ⟨?_, fun byte member => ?_⟩
    · rw [List.length_append, show (utf8 "Emboldened ").length = 11 from by decide]
      omega
    · rcases List.mem_append.mp member with word | number
      · exact (by decide +kernel : ∀ byte ∈ utf8 "Emboldened ", 0x20 ≤ byte) byte word
      · exact utf8_decimal n byte number
  · exact ⟨by decide, by decide +kernel⟩

theorem boundedText_some {limit : Nat} {value bounded : String}
    (h : boundedText limit value = some bounded) : (utf8 value).length ≤ limit := by
  unfold boundedText at h
  split at h
  · cases h
  · omega

theorem decodeJson_some {read : String → Option α} {bounds : α → Option β} {bytes : List UInt8}
    {maximum : Nat} {result : β} (h : decodeJson read bounds bytes maximum = some result) :
    ∃ value, bounds value = some result := by
  unfold decodeJson at h
  split at h
  · cases h
  obtain ⟨text, -, h⟩ := Option.bind_eq_some_iff.mp h
  split at h
  · cases h
  obtain ⟨value, -, h⟩ := Option.bind_eq_some_iff.mp h
  exact ⟨value, h⟩

theorem bounds_some {value parsed : Response} (h : value.bounds = some parsed) :
    (utf8 parsed.permalink).length ≤ 2048 ∧ (utf8 parsed.encounter.boss).length ≤ 256 := by
  obtain ⟨_, permalink, h⟩ := Option.bind_eq_some_iff.mp h
  obtain ⟨_, boss, h⟩ := Option.bind_eq_some_iff.mp h
  cases h
  exact ⟨boundedText_some permalink, boundedText_some boss⟩

theorem decode_sound {read : String → Option Response} {response : Providers.HttpResponse}
    {current : Option (List UInt8)} {success : DpsReportSuccess}
    (h : decode read response current = .ok success) : Sound success.report := by
  unfold decode at h
  dsimp only at h
  split at h
  · cases h
  rename_i parsed decoded
  split at h
  · cases h
  rename_i accepted
  cases h
  simp only [Bool.or_eq_true, not_or, List.any_eq_true, decide_eq_true_eq, beq_iff_eq, not_exists,
    not_and, Bool.not_eq_eq_eq_not, Bool.not_true, Bool.not_eq_false, validPermalink,
    Bool.and_eq_true] at accepted
  obtain ⟨⟨-, visible⟩, trusted, wvw⟩ := accepted
  obtain ⟨value, bounded⟩ := decodeJson_some decoded
  obtain ⟨shortMode, printableMode⟩ := mode_sound parsed.encounter
  refine ⟨trusted, fun origin => ?_, (bounds_some bounded).2, fun byte member => ?_, shortMode,
    printableMode⟩
  · exact wvw.resolve_left (by simp [origin])
  · exact UInt8.not_lt.mp (visible byte member).1

end MannyUploader.Providers.DpsReport

namespace MannyUploader.Application
open Domain Providers Config Foundation

theorem text_of_printable {value : List UInt8} {limit : Nat} (short : value.length ≤ limit)
    (printable : ∀ byte ∈ value, 0x20 ≤ byte) : text value limit = .ok () := by
  have controls : value.any (fun byte => byte < 0x20 && byte != 9) = false := by
    refine List.any_eq_false.mpr fun byte member => ?_
    simp [UInt8.not_lt.mpr (printable byte member)]
  unfold text
  rw [controls, if_neg (by simpa using short)]

section sound
variable {report : DpsReportResult} (sound : DpsReport.Sound report)
include sound

theorem trusted_parts : (utf8 report.permalink).length ≤ 2048 ∧
    (∀ byte ∈ utf8 report.permalink, isPermalinkByte byte = true) ∧
    trustedOrigins.any (extendsOrigin report.permalink) = true := by
  simpa [trustedReportPermalink, and_assoc] using sound.trusted

/-- The permalink has one of the origins that go with its encounter. -/
theorem origins_of_sound :
    (reportOrigins report.bossId).any (extendsOrigin report.permalink) = true := by
  obtain ⟨-, -, origins⟩ := trusted_parts sound
  unfold reportOrigins
  split
  · exact origins
  · rename_i other
    have foreign : extendsOrigin report.permalink "https://wvw.report/" = false := by
      rw [← Bool.not_eq_true]
      intro extends_origin
      refine other (sound.wvw ?_)
      unfold extendsOrigin at extends_origin
      exact (Bool.and_eq_true_iff.mp extends_origin).1
    simpa [trustedOrigins, foreign] using origins

theorem visible_of_sound : (utf8 report.permalink).all
    (fun byte => 0x21 ≤ byte && byte ≤ 0x7e && byte != 92 && byte != 34) = true := by
  obtain ⟨-, bytes, -⟩ := trusted_parts sound
  refine List.all_eq_true.mpr fun byte member => ?_
  have := bytes byte member
  simp only [isPermalinkByte, List.contains_eq_mem, Bool.and_eq_true, Bool.not_eq_eq_eq_not,
    decide_eq_true_eq] at this ⊢
  simp at this ⊢
  tauto

theorem validateReport_of_sound : validateReport report = .ok () := by
  have url : Config.reportUrl report.permalink (reportOrigins report.bossId) = .ok () := by
    obtain ⟨short, -⟩ := trusted_parts sound
    have origins := origins_of_sound sound
    unfold extendsOrigin at origins
    unfold Config.reportUrl
    dsimp only
    rw [visible_of_sound sound, origins, if_neg (by simpa using short)]
  unfold validateReport
  rw [text_of_printable sound.short sound.printable,
    text_of_printable sound.shortMode sound.printableMode, url]
  rfl

theorem validExternalUrl_of_sound : validExternalUrl report.permalink = true := by
  obtain ⟨short, -, origins⟩ := trusted_parts sound
  have visible := visible_of_sound sound
  obtain ⟨origin, trusted, extended⟩ := List.any_eq_true.mp origins
  have secure : extendsOrigin report.permalink "https://" = true := by
    have scheme : ∀ origin ∈ trustedOrigins, utf8 "https://" <+: utf8 origin := by decide
    have begins := scheme origin trusted
    simp only [extendsOrigin, Bool.and_eq_true, decide_eq_true_eq, List.isPrefixOf_iff_prefix] at extended ⊢
    exact ⟨begins.trans extended.1, begins.length_le.trans_lt extended.2⟩
  unfold validExternalUrl
  rw [secure]
  simpa [short, and_assoc] using visible

theorem reportUrl_of_sound {job : UploadJobSnapshot}
    (carries : job.record.dpsReportResult = some report) :
    reportUrl job .dpsReport = .ok report.permalink := by
  have origins : _ := origins_of_sound sound
  unfold reportOrigins at origins
  unfold reportUrl checkedUrl
  rw [carries]
  dsimp only
  rw [validExternalUrl_of_sound sound, origins]
  rfl

end sound

/-- Setting a checked report keeps a record valid. -/
theorem validateRecord_with {record : UploadJobRecord} {report : DpsReportResult}
    (valid : validateRecord record = .ok ()) (checked : validateReport report = .ok ())
    (named : report.permalink.isEmpty = false) :
    validateRecord { record with dpsReportResult := some report } = .ok () := by
  obtain ⟨_, file, valid⟩ := bind_ok valid
  obtain ⟨_, metadata, valid⟩ := bind_ok valid
  obtain ⟨_, receipts, valid⟩ := bind_ok valid
  obtain ⟨_, statuses, valid⟩ := bind_ok valid
  obtain ⟨_, identifiers, valid⟩ := bind_ok valid
  obtain ⟨_, -, wingman⟩ := bind_ok receipts
  have restored : ∃ job, UploadJob.restore firstJobId { record with dpsReportResult := some report } =
      .ok job := by
    cases old : UploadJob.restore firstJobId record with
    | error error => rw [old] at valid; cases valid
    | ok job =>
      unfold UploadJob.restore at old ⊢
      split at old
      · cases old
      rename_i path
      split at old
      · cases old
      split at old
      · cases old
      rename_i wingman
      split at old
      · cases old
      rename_i donbot
      split at old
      · cases old
      rename_i twitch
      dsimp only
      rw [if_neg path, if_neg (by simp [named]), if_neg wingman, if_neg donbot, if_neg twitch]
      exact ⟨_, rfl⟩
  obtain ⟨job, restored⟩ := restored
  have receipts' : validateReceipts { record with dpsReportResult := some report } = .ok () := by
    unfold validateReceipts whenSome
    dsimp only
    rw [checked]
    exact wingman
  unfold validateRecord
  rw [show validateFile { record with dpsReportResult := some report } = .ok () from file,
    receipts', show validateStatuses { record with dpsReportResult := some report } = .ok () from statuses,
    show validateIdentifiers { record with dpsReportResult := some report } = .ok () from identifiers,
    restored]
  dsimp only
  rw [show whenSome record.encounterMetadata validateMetadata = .ok () from metadata]
  rfl

theorem named_of_sound {report : DpsReportResult} (sound : DpsReport.Sound report) :
    report.permalink.isEmpty = false := by
  obtain ⟨-, -, origins⟩ := trusted_parts sound
  obtain ⟨origin, -, extended⟩ := List.any_eq_true.mp origins
  rw [← Bool.not_eq_true, String.isEmpty_iff]
  rintro empty
  rw [empty, extendsOrigin] at extended
  simp [utf8] at extended

/-- The success of an upload that is still active. -/
theorem completeAttempt_of_sound {report : DpsReportResult} (sound : DpsReport.Sound report)
    {entry : Entry} {result : UploadResult} (now : Instant) (provider : result.provider = .dpsReport)
    (outcome : result.outcome = .succeeded (.dpsReport report) ∨
      ∃ notice, result.outcome = .succeededWithNotice (.dpsReport report) notice)
    (active : entry.state .dpsReport = .active)
    (attempt : entry.attempts .dpsReport = result.attempt) :
    ∃ job, entry.completeAttempt now result = .ok (job, .succeeded) ∧
      job.record.dpsReportResult = some report := by
  have required : entry.job.requireActive .dpsReport = .ok () := if_pos active
  have completes : ∀ detail, ∃ job, Entry.recordSuccess entry.job .dpsReport (.dpsReport report)
      detail = .ok job ∧ job.record.dpsReportResult = some report := by
    intro detail
    unfold Entry.recordSuccess UploadJob.completeDpsReport
    rw [required]
    simp only [bind, Except.bind, named_of_sound sound, Bool.false_eq_true, if_false]
    exact ⟨_, rfl, rfl⟩
  obtain ⟨job, recorded, carries⟩ := completes (Entry.outcomeDetail result.outcome)
  have outcome' : Entry.recordOutcome entry.job now .dpsReport result.outcome =
      .ok (job, .succeeded) := by
    rcases outcome with plain | ⟨notice, noticed⟩
    · rw [plain] at recorded ⊢
      simp only [Entry.recordOutcome, recorded, bind, Except.bind]
    · rw [noticed] at recorded ⊢
      simp only [Entry.recordOutcome, recorded, bind, Except.bind]
  refine ⟨job, ?_, carries⟩
  unfold Entry.completeAttempt
  rw [provider, if_neg (by simp [active, attempt]), outcome']
  rfl

/-- Whatever is read as an answer with a report in it completes the upload, may be saved, may
be opened and may be passed on. -/
theorem report_accepted {read : String → Option DpsReport.Response} {response : Providers.HttpResponse}
    {current : Option (List UInt8)} {success : DpsReportSuccess}
    (h : DpsReport.decode read response current = .ok success) :
    (∀ (W : Type) (ports : UploadPorts W) (installed : Provider → Bool) (entry : Entry)
      (tape : Tape W) (result : UploadResult), result.provider = .dpsReport →
      (result.outcome = .succeeded (.dpsReport success.report) ∨
        ∃ notice, result.outcome = .succeededWithNotice (.dpsReport success.report) notice) →
      entry.state .dpsReport = .active → entry.attempts .dpsReport = result.attempt →
      (∃ job, entry.completeAttempt (ports.steadyNow tape.world) result = .ok (job, .succeeded) ∧
        job.record.dpsReportResult = some success.report) ∧
      ∃ out, entry.applyResult ports installed result tape = .ok out) ∧
    (∀ record : UploadJobRecord, validateRecord record = .ok () →
      validateRecord { record with dpsReportResult := some success.report } = .ok ()) ∧
    (∀ job : UploadJobSnapshot, job.record.dpsReportResult = some success.report →
      reportUrl job .dpsReport = .ok success.report.permalink) ∧
    trustedReportPermalink success.report.permalink = true := by
  have sound := DpsReport.decode_sound h
  refine ⟨fun W ports installed entry tape result provider outcome active attempt => ?_,
    fun record valid => validateRecord_with valid (validateReport_of_sound sound)
      (named_of_sound sound), fun job carries => reportUrl_of_sound sound carries, sound.trusted⟩
  have completed := completeAttempt_of_sound sound (ports.steadyNow tape.world) provider outcome
    active attempt
  refine ⟨completed, ?_⟩
  obtain ⟨job, completed, -⟩ := completed
  unfold Entry.applyResult
  rw [completed]
  simp only [bind, Except.bind, provider, if_true]
  exact ⟨_, rfl⟩

section sample

def sampleAnswer : String :=
  "\x7b\"permalink\":\"https://dps.report/a-b\",\"encounter\":\x7b\"success\":true," ++
    "\"bossId\":15438,\"boss\":\"Vale Guardian\",\"emboldened\":3\x7d\x7d"

/-- The reader, as far as this answer. -/
def readSample (text : String) : Option DpsReport.Response :=
  if text = sampleAnswer then some {
    permalink := "https://dps.report/a-b"
    encounter := {
      success := true, bossId := 15438, boss := "Vale Guardian"
      isCm := none, isLegendaryCm := none, emboldened := some 3 }
    userToken := none, error := none }
  else none

def answeredReport : DpsReportResult where
  permalink := "https://dps.report/a-b"
  encounterName := "Vale Guardian"
  bossId := 15438
  mode := "Emboldened 3"
  success := true

end sample

theorem report_accepted_sample :
    DpsReport.decode readSample ⟨200, utf8 sampleAnswer⟩ none =
      .ok { report := answeredReport, replacementUserToken := none, warning := none } ∧
    trustedReportPermalink answeredReport.permalink = true ∧
    validateRecord { (ApplicationPump.foundJob 1).record with dpsReportResult := some answeredReport } = .ok () := by
  have h : DpsReport.decode readSample ⟨200, utf8 sampleAnswer⟩ none =
      .ok { report := answeredReport, replacementUserToken := none, warning := none } := by
    decide +kernel
  obtain ⟨-, saved, -, trusted⟩ := report_accepted h
  exact ⟨h, trusted, saved (ApplicationPump.foundJob 1).record (by decide)⟩

end MannyUploader.Application
