import MannyUploader.Application.AcceptedOutcomes
import MannyUploader.Providers.ChatLedgerLaws
import MannyUploader.Providers.DonBotWorker
import MannyUploader.Providers.OutcomeLaws

/-! Whatever the services answer, the coordinator takes what the workers make of it. -/
namespace MannyUploader.Providers
open Domain Application Foundation Dialogue Client

/-- The outcome of a worker. A processor that panics is answered for by the pool. -/
theorem yields_pooled {post : α → Prop} {answer : α} {processor : Client Empty α}
    (yields : Yields post processor) (instead : post answer) :
    Yields post (pooled answer processor) := by
  apply Yields.settle post yields
  · exact fun _ found => found
  · exact fun _ => instead

section delays
variable {provider : Provider}

theorem retryDelay_inside (delay : Option Duration) :
    (UploadOutcome.retryAfter (TwitchChatDelivery.retryDelay delay)).Fits provider := by
  have half : Duration.fromSecs 30 ≠ 0 ∧ Duration.fromSecs 30 ≤ maxRetryDelay := by
    decide
  unfold TwitchChatDelivery.retryDelay
  split
  · split
    next inside => exact inside
    · exact half
  · exact half

theorem yields_unlessStopped {outcome : UploadOutcome} (fits : outcome.Fits provider) :
    Yields (UploadOutcome.Fits provider) (unlessStopped outcome) := by
  intro stopped
  cases stopped with
  | true => trivial
  | false => exact fits

end delays

namespace WingmanWorker

def Printable (byte : UInt8) : Prop := 0x21 ≤ byte ∧ byte ≤ 0x7e ∧ byte ≠ 92 ∧ byte ≠ 34

theorem printable_of_slug {byte : UInt8} (slug : WingmanResponse.isSlugByte byte = true) :
    Printable byte := by
  simp only [WingmanResponse.isSlugByte, isLetterOrDigit, Path.asciiAlphabetic, Domain.isAsciiDigit,
    Bool.or_eq_true, Bool.and_eq_true, decide_eq_true_eq, beq_iff_eq] at slug
  unfold Printable
  grind

/-- The history takes the link of a log. -/
theorem reportUrl_of_linked {permalink : String} (linked : WingmanClient.Linked permalink) :
    Config.reportUrl permalink wingmanOrigins = .ok () := by
  obtain ⟨slug, bytes, safe⟩ := linked
  simp only [WingmanResponse.safeSlug, Bool.and_eq_true, Bool.not_eq_true', decide_eq_true_eq,
    List.all_eq_true] at safe
  obtain ⟨⟨nonempty, short⟩, letters⟩ := safe
  have origin : (utf8 wingmanLogUrl).length ≤ 100 := by decide +kernel
  have visible : ∀ byte ∈ utf8 wingmanLogUrl, Printable byte := by
    unfold Printable
    decide +kernel
  have long : 0 < slug.length := List.length_pos_iff.mpr (by simpa using nonempty)
  have printable : ∀ byte ∈ utf8 permalink, Printable byte := by
    rw [bytes]
    intro byte member
    rcases List.mem_append.mp member with head | tail
    · exact visible byte head
    · exact printable_of_slug (letters byte tail)
  have bounded : ¬(utf8 permalink).length > 2048 := by
    rw [bytes, List.length_append]
    omega
  have clean : (utf8 permalink).all (fun byte =>
      0x21 ≤ byte && byte ≤ 0x7e && byte != 92 && byte != 34) = true := by
    apply List.all_eq_true.mpr
    intro byte member
    simpa [Printable, and_assoc] using printable byte member
  have begins : wingmanOrigins.any (fun origin => (utf8 origin).isPrefixOf (utf8 permalink) &&
      decide ((utf8 origin).length < (utf8 permalink).length)) = true := by
    have starts : (utf8 wingmanLogUrl).isPrefixOf (utf8 permalink) = true := by
      rw [bytes]
      exact List.isPrefixOf_iff_prefix.mpr (List.prefix_append ..)
    have longer : (utf8 wingmanLogUrl).length < (utf8 permalink).length := by
      rw [bytes, List.length_append]
      omega
    exact List.any_eq_true.mpr ⟨wingmanLogUrl, by simp [wingmanOrigins, wingmanLogUrl],
      by simp [starts, longer]⟩
  unfold Config.reportUrl
  dsimp only
  rw [clean, begins]
  simp [bounded]

theorem failureOutcome_fits (error : WingmanError) : (failureOutcome error).Fits .wingman := by
  unfold failureOutcome
  split
  · trivial
  · trivial
  · exact retryDelay_inside error.retryAfter

theorem successOutcome_fits {imported : Bool} {result : WingmanSuccess}
    (linked : ∀ permalink ∈ result.permalink, WingmanClient.Linked permalink) :
    (successOutcome imported result).Fits .wingman := by
  have fits : (UploadSuccess.wingman
      (result.permalink.map fun permalink => { permalink })).Fits .wingman := by
    refine ⟨rfl, fun found member => ?_⟩
    obtain ⟨permalink, here, rfl⟩ := Option.map_eq_some_iff.mp member
    exact reportUrl_of_linked (linked permalink here)
  unfold successOutcome
  dsimp only
  split
  · exact fits
  · split <;> exact fits

theorem yields_deliver (client : WingmanClient) (readers : WingmanResponse.Readers) (rounds : Nat)
    (request : UploadRequest) :
    Yields (fun success => ∀ permalink ∈ success.permalink, WingmanClient.Linked permalink)
      (deliver client readers rounds request) := by
  unfold deliver
  split
  · exact WingmanClient.yields_importPermalink _
  · exact WingmanClient.yields_upload client rounds _ _

theorem yields_process (client : WingmanClient) (readers : WingmanResponse.Readers) (rounds : Nat)
    (request : UploadRequest) :
    Yields (UploadOutcome.Fits .wingman) (process client readers rounds request) := by
  refine yields_pooled (.after fun stopped => ?_) trivial
  split
  · trivial
  apply Yields.settle _ (yields_deliver client readers rounds request)
  · intro success linked
    exact yields_unlessStopped (successOutcome_fits linked)
  · intro fault
    cases fault with
    | panicked => trivial
    | error error => exact yields_unlessStopped (failureOutcome_fits error)

end WingmanWorker

namespace DonBotWorker
variable {options captured : DonBotOptions} {request : UploadRequest}

theorem yields_deliver (readers : DonBotResponse.Readers) (options : DonBotOptions)
    (request : UploadRequest) (key : SecretValue) :
    Yields (DonBotClient.Sound options.delivery.requested)
      (deliver readers options request key) := by
  unfold deliver
  split
  · exact DonBotClient.yields_importPermalink _
  · exact DonBotClient.yields_upload _

theorem all_positive {id : Option UInt64} (identified : DonBotResponse.Identified id) :
    id.all DonBotResponse.positiveId = true := by
  cases id with
  | none => rfl
  | some value => exact identified value rfl

/-- What the client gives passes the check that the worker makes of it. -/
theorem confirms_of_sound {success : DonBotUploadSuccess}
    (sound : DonBotClient.Sound options.delivery.requested success) :
    confirms options success = true := by
  obtain ⟨valid, described⟩ := sound.receipted
  have requested : (options.delivery.requested ==
      (success.discordDelivery.outcome != .notRequested)) = true := by
    rw [beq_iff_eq, Bool.eq_iff_iff, described, bne_iff_ne]
  rw [confirms, all_positive sound.uploaded, all_positive sound.fought, valid, requested]
  rfl

theorem receipt_valid {success : DonBotUploadSuccess}
    (named : canonicalDiscordId options.guildId = true)
    (sound : DonBotClient.Sound options.delivery.requested success) :
    DonBotUploadReceipt.isValid {
      uploadId := success.uploadId, fightLogId := success.fightLogId
      discordDelivery := success.discordDelivery, guildId := some options.guildId } = true := by
  have uploaded : success.uploadId.all (· != 0) = true := by
    cases same : success.uploadId with
    | none => rfl
    | some id =>
      have positive := (DonBotResponse.positiveId_iff.mp (sound.uploaded id same)).1
      have nonzero : id ≠ 0 := by
        rintro rfl
        exact absurd positive (by decide)
      simpa using nonzero
  have fought : success.fightLogId.all (fun id => 0 < id && id.toNat ≤ i64Max) = true :=
    all_positive sound.fought
  rw [DonBotUploadReceipt.isValid, uploaded, fought, DonBotDiscordDeliveryReceipt.isValid,
    sound.receipted.1, Option.all_some, named]
  rfl

theorem successOutcome_fits {imported : Bool} {success : DonBotUploadSuccess}
    (named : canonicalDiscordId options.guildId = true)
    (sound : DonBotClient.Sound options.delivery.requested success) :
    (successOutcome options imported success).Fits .donbot := by
  have fits : (UploadSuccess.donbot (some {
      uploadId := success.uploadId, fightLogId := success.fightLogId
      discordDelivery := success.discordDelivery
      guildId := some options.guildId })).Fits .donbot := by
    refine ⟨rfl, ?_⟩
    rintro receipt ⟨⟩
    exact receipt_valid named sound
  rw [successOutcome, if_neg (by simp [confirms_of_sound sound])]
  dsimp only
  split <;> exact fits

theorem successOutcome_not_failed {imported : Bool} {success : DonBotUploadSuccess}
    (sound : DonBotClient.Sound options.delivery.requested success) :
    successOutcome options imported success ≠ .failed := by
  rw [successOutcome, if_neg (by simp [confirms_of_sound sound])]
  dsimp only
  split <;> simp

theorem failureOutcome_fits (error : DonBotError) : (failureOutcome error).Fits .donbot := by
  unfold failureOutcome
  split
  · trivial
  · exact retryDelay_inside error.retryAfter
  · split <;> trivial

theorem yields_process (readers : DonBotResponse.Readers) (hasSecrets : Bool)
    (request : UploadRequest) (named : canonicalDiscordId options.guildId = true) :
    Yields (UploadOutcome.Fits .donbot) (process readers hasSecrets options request) := by
  refine yields_pooled (.after fun stopped => ?_) trivial
  split
  · trivial
  apply Yields.settle _ (.anything _)
  · intro key _
    refine .after fun stopped => ?_
    split
    · trivial
    apply Yields.settle _ (yields_deliver readers options request key)
    · intro success sound
      exact yields_unlessStopped (successOutcome_fits named sound)
    · intro fault
      cases fault with
      | panicked => trivial
      | error error => exact yields_unlessStopped (failureOutcome_fits error)
  · intro fault
    cases fault with
    | panicked => trivial
    | error reason => trivial

theorem normal_named {raw : DonBotOptions} (normal : normalizeOptions raw = some options)
    (named : options.guildId.isEmpty = false) : canonicalDiscordId options.guildId = true := by
  unfold normalizeOptions at normal
  split at normal
  next empty =>
    split at normal
    · contradiction
    · obtain ⟨base, -, rfl⟩ := Option.map_eq_some_iff.mp normal
      rw [empty] at named
      contradiction
  · split at normal
    · contradiction
    next canonical =>
      obtain ⟨base, -, rfl⟩ := Option.map_eq_some_iff.mp normal
      simp only [Bool.or_eq_true, not_or, Bool.not_eq_true, Bool.not_eq_false'] at canonical
      exact canonical.2

/-- An accepted request has the guild of the options, which is a Discord id. -/
theorem captured_named {raw : DonBotOptions} (normal : normalizeOptions raw = some options)
    (accepted : capture options request = .ok captured) :
    canonicalDiscordId captured.guildId = true ∧ request.provider = .donbot := by
  unfold capture at accepted
  split at accepted
  · contradiction
  next taken =>
    simp only [takesRequest, Bool.or_eq_true, not_or, Bool.not_eq_true, Bool.not_eq_false',
      Bool.and_eq_true, beq_iff_eq] at taken
    have named := normal_named normal taken.1.2
    refine ⟨?_, taken.1.1.1.1⟩
    cases accepted
    split <;> exact named

end DonBotWorker

namespace TwitchChatDelivery

/-- What a delivery gives is for a chat post. -/
def Fitting (result : TwitchChatResult) : Prop := result.intoUploadOutcome.Fits .twitch

theorem settled_fitting (receipt : TwitchDeliveryReceipt) : Fitting (settled receipt) := by
  unfold settled
  split
  · trivial
  next valid =>
    have valid : receipt.isValid = true := by simpa using valid
    split
    next sent => exact ⟨rfl, valid, sent⟩
    next unsent => exact ⟨rfl, valid, unsent⟩

theorem sendFailure_fitting (error : TwitchError) : Fitting (sendFailure error) := by
  unfold sendFailure
  split
  · exact retryDelay_inside error.retryAfter
  · split <;> trivial

/-- A lease that is not granted gives a result as well. -/
theorem granted_fitting {answer : Except (Fault TwitchDeliverySessionError) TwitchDeliverySession}
    {result : TwitchChatResult} (refused : granted answer = .error result) : Fitting result := by
  cases answer with
  | ok => cases refused
  | error fault =>
    cases fault with
    | panicked =>
      cases refused
      trivial
    | error error =>
      cases refused
      unfold sessionFailure
      split
      · exact retryDelay_inside error.retryAfter
      all_goals trivial

theorem yields_sendWith (readers : TwitchResponse.Readers) (message broadcaster : String)
    (revision : UInt64) (left : Nat) (lease : TwitchDeliverySession) :
    Yields Fitting (sendWith readers message broadcaster revision left lease) := by
  induction left generalizing lease with
  | zero => trivial
  | succ left ih =>
    unfold sendWith
    refine .after fun stopped => ?_
    split
    · trivial
    apply Yields.settle _ (.anything _)
    · intro receipt _
      refine .after fun stopped => ?_
      split
      · trivial
      · exact settled_fitting receipt
    · intro fault
      refine .after fun stopped => ?_
      split
      · trivial
      cases fault with
      | panicked => trivial
      | error error =>
        dsimp only
        split
        · split
          · trivial
          · intro answer
            dsimp only
            split
            next refused => exact granted_fitting refused
            · split
              · trivial
              · exact ih _
        · exact sendFailure_fitting error

theorem yields_send (readers : TwitchResponse.Readers) (message : String) :
    Yields Fitting (send readers message) := by
  refine .after fun stopped => ?_
  split
  · trivial
  · split
    · trivial
    · intro answer
      dsimp only
      split
      next refused => exact granted_fitting refused
      · split
        · trivial
        · exact yields_sendWith ..

end TwitchChatDelivery

namespace ChatWorkers

/-- A delivery that the worker is told of is one that its client made. -/
def RealDelivery (workers : ChatWorkers) : ChatOp → Prop
  | .deliver index result => ∀ task message, workers.tasks[index]? = some task →
      task.phase = .sending message →
      ∃ readers said, Reaches (TwitchChatDelivery.send readers message) said (.done result)
  | _ => True

/-- What the ledger keeps may be returned. -/
def LedgerFits (ledger : Ledger) : Prop :=
  ∀ settled ∈ ledger.settled, (Ledger.outcome settled.2).Fits .twitch

structure TaskFits (task : ChatTask) : Prop where
  provider : task.captured.upload.provider = .twitch
  delivered : ∀ result, task.phase = .delivered result → TwitchChatDelivery.Fitting result
  returned : ∀ outcome, task.phase = .returned outcome → outcome.Fits .twitch

structure Fits (workers : ChatWorkers) : Prop where
  ledger : LedgerFits workers.ledger
  tasks : ∀ task ∈ workers.tasks, TaskFits task

theorem LedgerFits.lookup {ledger : Ledger} (fits : LedgerFits ledger) {key : ChatKey}
    {entry : LedgerEntry} (found : ledger.settled.lookup key = some entry) :
    (Ledger.outcome entry).Fits .twitch := by
  obtain ⟨before, after, split, -⟩ := List.lookup_eq_some_iff.mp found
  exact fits (key, entry) (by simp [split])

theorem LedgerFits.claim {ledger claimed : Ledger} (fits : LedgerFits ledger) {key : ChatKey}
    {manual : Bool} {answer : Option UploadOutcome}
    (given : ledger.claim key manual = (answer, claimed)) :
    LedgerFits claimed ∧ ∀ outcome ∈ answer, outcome.Fits .twitch := by
  unfold Ledger.claim at given
  split at given
  · cases given
    refine ⟨fits, ?_⟩
    rintro outcome ⟨⟩
    constructor <;> decide
  · split at given
    next entry found =>
      cases given
      refine ⟨fits, ?_⟩
      rintro outcome ⟨⟩
      split at found
      · cases found
      · exact fits.lookup found
    · cases given
      exact ⟨fits, by simp⟩

theorem fits_of_entry {result : TwitchChatResult} (fitting : TwitchChatDelivery.Fitting result)
    {entry : LedgerEntry} (kept : Ledger.entryOf result = some entry) :
    (Ledger.outcome entry).Fits .twitch := by
  cases result with
  | sent receipt =>
    cases kept
    exact fitting
  | ambiguous =>
    cases kept
    trivial
  | dropped | retryAfter | failed | cancelled => cases kept

theorem mem_overwrite {key : ChatKey} {entry : LedgerEntry}
    {settled : List (ChatKey × LedgerEntry)} {pair : ChatKey × LedgerEntry}
    (member : pair ∈ Ledger.overwrite key entry settled) : pair ∈ settled ∨ pair.2 = entry := by
  induction settled with
  | nil => cases member
  | cons first rest ih =>
    rw [Ledger.overwrite] at member
    split at member
    · rcases List.mem_cons.mp member with rfl | later
      · exact .inr rfl
      · exact .inl (List.mem_cons_of_mem _ later)
    · rcases List.mem_cons.mp member with rfl | later
      · exact .inl List.mem_cons_self
      · exact (ih later).imp_left (List.mem_cons_of_mem _)

theorem LedgerFits.finish {ledger : Ledger} (fits : LedgerFits ledger) (key : ChatKey)
    {result : TwitchChatResult} (fitting : TwitchChatDelivery.Fitting result) :
    LedgerFits (ledger.finish key result) := by
  unfold Ledger.finish
  split
  · exact fits
  next entry kept =>
    have fresh := fits_of_entry fitting kept
    dsimp only
    split
    · intro pair member
      rcases mem_overwrite member with old | new
      · exact fits pair old
      · exact new ▸ fresh
    · intro pair member
      rcases List.mem_append.mp member with old | new
      · apply fits pair
        split at old
        · exact List.mem_of_mem_drop old
        · exact old
      · cases List.mem_singleton.mp new
        exact fresh

theorem captured_twitch {config : TwitchProviderConfig} {template : List TemplatePart}
    {request : UploadRequest} {captured : CapturedChat}
    (accepted : captureChat config template request = .ok captured) :
    captured.upload.provider = .twitch := by
  unfold captureChat at accepted
  split at accepted
  · contradiction
  next taken =>
    split at accepted
    · contradiction
    · split at accepted
      · contradiction
      · cases accepted
        have same := (not_or.mp taken).1
        simpa using same

theorem message_fits {captured : CapturedChat} {stopped : Bool} {outcome : UploadOutcome}
    (without : captured.message stopped = .error (.error outcome)) : outcome.Fits .twitch := by
  unfold CapturedChat.message at without
  split at without
  · cases without
    trivial
  · split at without
    · cases without
    · split at without
      · cases without
        trivial
      · split at without
        · cases without
          trivial
        · cases without

theorem begin_fits {ledger : Ledger} (fits : LedgerFits ledger) {captured : CapturedChat}
    (twitch : captured.upload.provider = .twitch) (stopped : Bool) :
    LedgerFits (begin ledger captured stopped).1 ∧ TaskFits (begin ledger captured stopped).2 := by
  unfold begin
  split
  · exact ⟨fits, twitch, by simp, by simp⟩
  next outcome without =>
    refine ⟨fits, twitch, by simp, ?_⟩
    rintro _ ⟨⟩
    exact message_fits without
  · split
    next previous _ given =>
      obtain ⟨kept, answered⟩ := fits.claim given
      refine ⟨kept, twitch, by simp, ?_⟩
      rintro _ ⟨⟩
      exact answered previous rfl
    next given => exact ⟨(fits.claim given).1, twitch, by simp, by simp⟩

/-- A change of one task. -/
theorem Fits.update {workers : ChatWorkers} (fits : workers.Fits) {index : Nat}
    {change : Ledger → ChatTask → Ledger × ChatTask}
    (kept : ∀ task, workers.tasks[index]? = some task → TaskFits task →
      LedgerFits (change workers.ledger task).1 ∧ TaskFits (change workers.ledger task).2) :
    (workers.update index change).Fits := by
  unfold ChatWorkers.update
  split
  · exact fits
  next task here =>
    obtain ⟨ledger, changed⟩ := kept task here (fits.tasks task (List.mem_of_getElem? here))
    refine ⟨ledger, fun other member => ?_⟩
    rcases List.mem_or_eq_of_mem_set member with old | rfl
    · exact fits.tasks other old
    · exact changed

theorem Fits.step {workers : ChatWorkers} (fits : workers.Fits) {op : ChatOp}
    (real : RealDelivery workers op) : (workers.step op).Fits := by
  cases op with
  | start config template request stopped =>
    rw [ChatWorkers.step]
    split
    · exact fits
    next captured accepted =>
      obtain ⟨ledger, started⟩ := begin_fits fits.ledger (captured_twitch accepted) stopped
      refine ⟨ledger, fun task member => ?_⟩
      rcases List.mem_append.mp member with old | new
      · exact fits.tasks task old
      · exact List.mem_singleton.mp new ▸ started
  | deliver index result =>
    rw [ChatWorkers.step]
    apply fits.update
    intro task here sound
    split
    next message phase =>
      obtain ⟨readers, said, reached⟩ := real task message here phase
      refine ⟨fits.ledger, sound.provider, ?_, by simp⟩
      rintro _ ⟨⟩
      exact (TwitchChatDelivery.yields_send readers message).of_reaches reached
    · exact ⟨fits.ledger, sound⟩
  | unwind index =>
    rw [ChatWorkers.step]
    apply fits.update
    intro task here sound
    split
    · exact ⟨fits.ledger, sound.provider, by simp, by simp⟩
    · exact ⟨fits.ledger, sound.provider, by simp, by simp⟩
    · exact ⟨fits.ledger, sound⟩
  | finish index =>
    rw [ChatWorkers.step]
    apply fits.update
    intro task here sound
    split
    next result phase =>
      have fitting := sound.delivered result phase
      refine ⟨fits.ledger.finish _ fitting, sound.provider, by simp [conclude], ?_⟩
      rintro _ ⟨⟩
      exact fitting
    · exact ⟨fits.ledger, sound⟩
  | fail index =>
    rw [ChatWorkers.step]
    apply fits.update
    intro task here sound
    split
    · unfold failed
      split
      · have doubt : TwitchChatDelivery.Fitting .ambiguous := trivial
        refine ⟨fits.ledger.finish _ doubt, sound.provider, by simp, ?_⟩
        rintro _ ⟨⟩
        trivial
      · refine ⟨fits.ledger, sound.provider, by simp, ?_⟩
        rintro _ ⟨⟩
        trivial
    · exact ⟨fits.ledger, sound⟩

theorem Fits.start : Fits {} := by
  constructor <;> simp [LedgerFits]

theorem fits_of_run {workers : ChatWorkers} (run : Run step RealDelivery {} workers) :
    workers.Fits := by
  apply run.invariant _ Fits.start
  exact fun workers op real fits => fits.step real

end ChatWorkers

theorem accepted_uploadResult {request : UploadRequest} {outcome : UploadOutcome}
    {provider : Provider} (same : request.provider = provider) (dependent : provider ≠ .dpsReport)
    (fits : outcome.Fits provider) : Accepted (uploadResult request outcome) := by
  subst same
  exact accepted_of_fits fits dependent

/-- However a service answers, and whatever is cancelled or panics: the coordinator takes the
results of the workers, and what the client of DonBot gives passes the check of its worker. -/
theorem provider_results_accepted :
    (∀ (client : WingmanClient) readers rounds request said outcome,
      WingmanWorker.accepts request = true →
      Reaches (WingmanWorker.process client readers rounds request) said (.done outcome) →
      Accepted (uploadResult request outcome)) ∧
    (∀ readers hasSecrets raw options captured request said outcome,
      normalizeOptions raw = some options →
      DonBotWorker.capture options request = .ok captured →
      Reaches (DonBotWorker.process readers hasSecrets captured request) said (.done outcome) →
      Accepted (uploadResult request outcome)) ∧
    (∀ readers options request key said success imported,
      Reaches (DonBotWorker.deliver readers options request key) said (.done success) →
      success.discordDelivery.isValidWithLimit 4 = true ∧
      (success.discordDelivery.outcome = .notRequested ↔ options.delivery.requested = false) ∧
      DonBotWorker.confirms options success = true ∧
      DonBotWorker.successOutcome options imported success ≠ .failed) ∧
    ∀ workers, Run ChatWorkers.step ChatWorkers.RealDelivery {} workers →
      ∀ task ∈ workers.tasks, ∀ outcome, task.phase = .returned outcome →
      Accepted (uploadResult task.captured.upload outcome) := by
  refine ⟨?_, ?_, ?_, ?_⟩
  · intro client readers rounds request said outcome accepted reached
    have fits := (WingmanWorker.yields_process client readers rounds request).of_reaches reached
    have provider : request.provider = .wingman := by
      simp only [WingmanWorker.accepts, takesRequest, Bool.and_eq_true, beq_iff_eq] at accepted
      exact accepted.2.1.1
    exact accepted_uploadResult provider (by simp) fits
  · intro readers hasSecrets raw options captured request said outcome normal accepted reached
    obtain ⟨named, provider⟩ := DonBotWorker.captured_named normal accepted
    have fits :=
      (DonBotWorker.yields_process readers hasSecrets request named).of_reaches reached
    exact accepted_uploadResult provider (by simp) fits
  · intro readers options request key said success imported reached
    have sound := (DonBotWorker.yields_deliver readers options request key).of_reaches reached
    refine ⟨sound.receipted.1, ?_, DonBotWorker.confirms_of_sound sound,
      DonBotWorker.successOutcome_not_failed sound⟩
    rw [← Bool.not_eq_true, sound.receipted.2, not_ne_iff]
  · intro workers run task member outcome returned
    have sound := (ChatWorkers.fits_of_run run).tasks task member
    exact accepted_uploadResult sound.provider (by simp) (sound.returned outcome returned)

/-! A log is admitted and reported on. Wingman queues the report, and says where the log will
be. -/

def sampleImport : UploadRequest where
  jobId := sampleJobId
  provider := .wingman
  attempt := 1
  file := sampleLog 1
  metadata := sampleMetadata
  dpsReportResult := some sampleReport
  intent := .automatic

def importedText : String := "\x7b\"success\":1\x7d"

def foundText : String :=
  "\x7b\"inQueue\":true,\"inDB\":false,\"targetURL\":" ++
    "\"https://gw2wingman.nevermindcreations.de/log/a\"\x7d"

def foundUrl : String := "https://gw2wingman.nevermindcreations.de/log/a"

def importReaders : WingmanResponse.Readers where
  accepted _ := none
  ticket _ := none
  found _ := none
  queued text := if text = importedText then some ⟨1⟩ else none
  checked text := if text = foundText then some ⟨true, false, foundUrl⟩ else none

def importedReply : Application.HttpResponse :=
  { statusCode := 200, headers := [], body := utf8 importedText }

def foundReply : Application.HttpResponse :=
  { statusCode := 200, headers := [], body := utf8 foundText }

theorem read_importedReply : WingmanClient.readQueued importReaders importedReply = .ok ⟨1⟩ := by
  have short : ¬(utf8 importedText).length > maxWingmanResponseBytes := by decide
  have escapes : validUnicodeEscapes false (utf8 importedText) = true := by decide
  have read : importReaders.queued importedText = some ⟨1⟩ := by simp [importReaders]
  have decoded : WingmanResponse.decode importReaders.queued some importedReply = .ok ⟨1⟩ := by
    rw [WingmanResponse.decode, importedReply, decodeJson_text _ _ short escapes, read]
    rfl
  rw [WingmanClient.readQueued, decoded]
  rfl

theorem read_foundReply : WingmanClient.readChecked importReaders ⟨1⟩ foundReply =
    .ok { duplicate := false, permalink := some foundUrl } := by
  have short : ¬(utf8 foundText).length > maxWingmanResponseBytes := by decide +kernel
  have escapes : validUnicodeEscapes false (utf8 foundText) = true := by decide +kernel
  have read : importReaders.checked foundText = some ⟨true, false, foundUrl⟩ := by
    simp [importReaders]
  have bounded : WingmanResponse.Checked.bounds ⟨true, false, foundUrl⟩ =
      some ⟨true, false, foundUrl⟩ := by
    rw [WingmanResponse.Checked.bounds, boundedText, if_neg (by decide +kernel)]
    rfl
  have decoded : WingmanResponse.decode importReaders.checked WingmanResponse.Checked.bounds
      foundReply = .ok ⟨true, false, foundUrl⟩ := by
    rw [WingmanResponse.decode, foundReply, decodeJson_text _ _ short escapes, read,
      Option.bind_some, bounded]
  have safe : (stripPrefix (utf8 wingmanLogUrl) (utf8 foundUrl)).any WingmanResponse.safeSlug =
      true := by decide +kernel
  have success : WingmanClient.requireSuccess foundReply = .ok () := rfl
  simp only [WingmanClient.readChecked, decoded, success, Bind.bind, Except.bind, safe]
  rfl

def importUrl (start : String) : String :=
  start ++ WingmanClient.percentEncode sampleReport.permalink

/-- What the client is told. -/
def importCalls : Calls :=
  [⟨.stopRequested, false⟩] ++ ([⟨.stopRequested, false⟩,
    ⟨.execute (WingmanClient.jsonRequest .post (importUrl wingmanImportUrl)), .ok importedReply⟩,
    ⟨.stopRequested, false⟩] ++ [⟨.stopRequested, false⟩,
    ⟨.execute (WingmanClient.jsonRequest .get (importUrl wingmanCheckImportUrl)), .ok foundReply⟩,
    ⟨.stopRequested, false⟩])

/-- The worker asks for a stop before and after. -/
def queuedImport : Calls := ⟨.stopRequested, false⟩ :: (importCalls ++ [⟨.stopRequested, false⟩])

def importSuccess : WingmanSuccess := { duplicate := false, permalink := some foundUrl }

def queuedOutcome : UploadOutcome :=
  .succeededWithNotice (.wingman (some { permalink := foundUrl })) .queued

theorem reaches_importInner : Reaches (WingmanClient.importInner importReaders sampleReport.permalink)
    importCalls (.done importSuccess) := by
  have goesOn : Reaches (refuseStop WingmanError.cancelled) [⟨.stopRequested, false⟩] (.done ()) :=
    .cons _ .nil
  have answered (request : HttpRequest) (reply : Application.HttpResponse) :
      Reaches (WingmanClient.execute request)
        [⟨.stopRequested, false⟩, ⟨.execute request, .ok reply⟩, ⟨.stopRequested, false⟩]
        (.done reply) := .cons _ (.cons _ (.cons _ .nil))
  have trusted : ¬(!trustedReportPermalink sampleReport.permalink) = true := by decide +kernel
  have short : ¬(utf8 (WingmanClient.percentEncode sampleReport.permalink)).length +
      max (utf8 wingmanImportUrl).length (utf8 wingmanCheckImportUrl).length > maxHttpUrlBytes := by
    decide +kernel
  apply goesOn.bind.trans
  rw [done_bind, if_neg trusted]
  dsimp only
  rw [if_neg short]
  apply (answered _ _).bind.trans
  rw [done_bind, read_importedReply]
  have read : (Dialogue.done foundReply >>= fun reply => ofExcept
      (WingmanClient.readChecked importReaders ⟨1⟩ reply)) = .done importSuccess := by
    rw [done_bind, read_foundReply]
    rfl
  rw [← read]
  exact (answered _ _).bind

theorem reaches_queuedImport (rounds : Nat) : Reaches
    (WingmanWorker.process .standard importReaders rounds sampleImport) queuedImport
    (.done queuedOutcome) := by
  have delivered : Reaches (WingmanWorker.deliver .standard importReaders rounds sampleImport)
      importCalls (.done importSuccess) := reaches_importInner.settle
  have concluded : Reaches (WingmanWorker.conclude sampleImport (.ok importSuccess))
      [⟨.stopRequested, false⟩] (.done queuedOutcome) := .cons _ .nil
  have executed : Reaches (WingmanWorker.execute .standard importReaders rounds sampleImport)
      queuedImport (.done queuedOutcome) := by
    apply Reaches.cons
    change Reaches ((WingmanWorker.deliver .standard importReaders rounds sampleImport).settle
      (WingmanWorker.conclude sampleImport)) _ _
    exact delivered.settle.trans concluded
  exact executed.settle

theorem provider_results_accepted_sample :
    let s := (sampleDelivery.take 3).foldl (UploadCoordinator.perform acceptingPorts)
      (sampleStart ⟨100, by decide⟩)
    (s.1.applyResult acceptingPorts (uploadResult sampleImport queuedOutcome) s.2).1 = .ok () := by
  have accepted := provider_results_accepted.1 .standard importReaders 0 sampleImport queuedImport
    queuedOutcome rfl (reaches_queuedImport 0)
  have inRange : ClockInRange ⟨0⟩ := by
    unfold ClockInRange
    decide +kernel
  exact (accepted Unit acceptingPorts Provider.all 100 _ () _ _ _ _ rfl
    (Run.of_list (UploadCoordinator.perform acceptingPorts) (sampleStart ⟨100, by decide⟩)
      (sampleDelivery.take 3) fun _ _ _ => trivial) rfl rfl rfl rfl inRange rfl).1

end MannyUploader.Providers
