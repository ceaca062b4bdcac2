import MannyUploader.Foundation.Yields
import MannyUploader.Providers.ProgressLaws
import MannyUploader.Providers.UploadWorkers

/-! What the clients give is what the workers, the jobs and the history expect of it. -/
namespace MannyUploader.Providers
open Domain Application Foundation Client Dialogue

section client
variable {ε α β : Type} {post : α → Prop}

theorem yields_ofExcept {outcome : Except ε α} (found : ∀ value, outcome = .ok value → post value) :
    Yields post (ofExcept outcome) := by
  cases outcome with
  | ok value => exact found value rfl
  | error => trivial

theorem yields_catchUnwind {internal : ε} {client : Client ε α} (yields : Yields post client) :
    Yields post (catchUnwind internal client) :=
  Yields.mapError _ yields

end client

namespace WingmanClient
variable {readers : WingmanResponse.Readers}

/-- The link of a log is the address of the site and a slug. -/
def Linked (permalink : String) : Prop :=
  ∃ slug, utf8 permalink = utf8 wingmanLogUrl ++ slug ∧ WingmanResponse.safeSlug slug = true

theorem readFound_linked {reply : Application.HttpResponse} {permalink : String}
    (found : readFound readers reply = .ok (some permalink)) : Linked permalink := by
  obtain ⟨_, -, found⟩ := bind_ok found
  obtain ⟨answer, -, found⟩ := bind_ok found
  split at found
  · cases found
  · split at found
    · cases found
    next slug _ =>
      split at found
      next safe =>
        cases found
        exact ⟨utf8 slug, utf8_append .., safe⟩
      · cases found

theorem readChecked_linked {queued : WingmanResponse.Queued} {reply : Application.HttpResponse}
    {success : WingmanSuccess} (checked : readChecked readers queued reply = .ok success) :
    ∀ permalink ∈ success.permalink, Linked permalink := by
  obtain ⟨_, -, checked⟩ := bind_ok checked
  obtain ⟨answer, -, checked⟩ := bind_ok checked
  split at checked
  · cases checked
  next accepted =>
    cases checked
    rintro permalink ⟨⟩
    simp only [Bool.or_eq_true, not_or, Bool.not_eq_true, Bool.not_eq_false'] at accepted
    obtain ⟨slug, stripped, safe⟩ := (Option.any_eq_true ..).mp accepted.2
    exact ⟨slug, stripPrefix_iff.mp stripped, safe⟩

theorem yields_findRounds (client : WingmanClient) (file : LogFileIdentity)
    (metadata : EncounterMetadata) (deadline : Instant) (rounds : Nat) :
    Yields (fun found => ∀ permalink ∈ found, Linked permalink)
      (findRounds client readers file metadata deadline rounds) := by
  induction rounds with
  | zero => trivial
  | succ rounds ih =>
    unfold findRounds
    refine .after fun now => ?_
    split
    · simp [Yields, pure]
    refine .after fun request => ?_
    cases request with
    | none => simp [Yields, pure]
    | some request =>
      refine .after fun source => .after fun reply => ?_
      refine .bind (fun found => ∀ permalink ∈ found, Linked permalink) ?_ fun found linked => ?_
      · apply yields_ofExcept
        rintro value read permalink ⟨⟩
        exact readFound_linked read
      · cases found with
        | some permalink => exact linked
        | none =>
          refine .after fun more => ?_
          split
          · exact ih
          · simp [Yields, pure]

theorem yields_findPermalink (client : WingmanClient) (rounds : Nat) (file : LogFileIdentity)
    (metadata : EncounterMetadata) :
    Yields (fun found => ∀ permalink ∈ found, Linked permalink)
      (findPermalink client readers rounds file metadata) := by
  refine .after fun deadline => .bind _ (yields_findRounds client file metadata deadline rounds)
    fun found linked => ?_
  cases found with
  | some permalink => exact linked
  | none => exact .after fun _ => by simp [Yields, pure]

/-- A success of an upload. -/
theorem yields_upload (client : WingmanClient) (rounds : Nat) (file : LogFileIdentity)
    (metadata : EncounterMetadata) :
    Yields (fun success => ∀ permalink ∈ success.permalink, Linked permalink)
      (client.upload readers rounds file metadata) := by
  apply yields_catchUnwind
  unfold uploadInner
  refine .after fun _ => ?_
  split
  · trivial
  refine .after fun _ => .after fun form => .after fun reply => .after fun uploaded => ?_
  have found := @yields_findPermalink readers client rounds file metadata
  cases uploaded with
  | done => simp [Yields, pure]
  | duplicate => exact .bind _ found fun permalink linked => linked
  | ticket ticket => exact .after fun _ => .bind _ found fun permalink linked => linked

theorem yields_importPermalink (permalink : String) :
    Yields (fun success => ∀ permalink ∈ success.permalink, Linked permalink)
      (importPermalink readers permalink) := by
  apply yields_catchUnwind
  unfold importInner
  refine .after fun _ => ?_
  split
  · trivial
  dsimp only
  split
  · trivial
  refine .after fun reply => .after fun queued => .after fun reply => ?_
  exact yields_ofExcept fun success checked => readChecked_linked checked

end WingmanClient
namespace DonBotResponse

/-- A receipt that is valid, and says of a delivery only what was requested. -/
def Receipted (requested : Bool) (receipt : DonBotDiscordDeliveryReceipt) : Prop :=
  receipt.isValidWithLimit 4 = true ∧ (requested = true ↔ receipt.outcome ≠ .notRequested)

theorem Delivery.Matches.receipted {delivery : Delivery} {requested : Bool}
    {receipt : DonBotDiscordDeliveryReceipt} (same : delivery.Matches requested receipt) :
    Receipted requested receipt := by
  obtain ⟨outcome, sent, skipped, failed, ambiguous⟩ := receipt
  obtain ⟨-, total, ⟨rfl, rfl, rfl, rfl⟩, described⟩ := same
  have sum : (delivery.counts.map UInt16.toNat).sum = delivery.sent.toNat +
      delivery.skipped.toNat + delivery.failed.toNat + delivery.ambiguous.toNat := by
    simp [Delivery.counts, Nat.add_assoc]
  have few : ¬(delivery.counts.map UInt16.toNat).sum > (4 : UInt16).toNat := by
    have maximum : (4 : UInt16).toNat = 4 := rfl
    omega
  obtain ⟨sent, skipped, failed, ambiguous⟩ := populated_one delivery
  rw [Receipted, DonBotDiscordDeliveryReceipt.isValidWithLimit]
  change (if (delivery.counts.map UInt16.toNat).sum > (4 : UInt16).toNat then false else _) = _ ∧ _
  rw [if_neg few]
  cases outcome with
  | notRequested =>
    have zero : (delivery.counts.map UInt16.toNat).sum = 0 := by
      have none : ∀ count ∈ delivery.counts, count = 0 := described.2.2
      simp only [Delivery.counts, List.forall_mem_cons] at none
      simp [sum, none]
    exact ⟨beq_iff_eq.mpr zero, by simp [described.2.1]⟩
  | sent => simpa [described.2.1, Delivery.counts, DonBotDiscordDeliveryReceipt.counts]
      using sent.mpr described.2.2
  | partially => simpa [described.2.1, Delivery.counts, DonBotDiscordDeliveryReceipt.counts]
      using described.2.2
  | skipped => simpa [described.2.1, Delivery.counts, DonBotDiscordDeliveryReceipt.counts]
      using skipped.mpr described.2.2
  | failed => simpa [described.2.1, Delivery.counts, DonBotDiscordDeliveryReceipt.counts]
      using failed.mpr described.2.2
  | ambiguous => simpa [described.2.1, Delivery.counts, DonBotDiscordDeliveryReceipt.counts]
      using ambiguous.mpr described.2.2

theorem receipted_noDelivery : Receipted false noDelivery := by
  simp [Receipted, noDelivery, DonBotDiscordDeliveryReceipt.isValidWithLimit,
    DonBotDiscordDeliveryReceipt.counts]

theorem receipted_of_delivery {value : Option Delivery} {requested : Bool} {status : UInt16}
    {receipt : DonBotDiscordDeliveryReceipt} (ok : delivery value requested status = .ok receipt) :
    Receipted requested receipt := by
  have found := delivery_ok.mp ok
  cases value with
  | some delivery => exact found.receipted
  | none =>
    obtain ⟨rfl, rfl⟩ := found
    exact receipted_noDelivery

/-- The identifiers are positive. -/
def Identified (id : Option UInt64) : Prop := ∀ value ∈ id, positiveId value = true

structure Completed.Sound (requested : Bool) (completed : Completed) : Prop where
  identified : Identified completed.fightLogId
  receipted : Receipted requested completed.delivery

theorem completed_of_progress {readers : Readers} {response : Application.HttpResponse}
    {requested : Bool} {result : Completed}
    (ok : progress readers response requested = .ok result) : result.Sound requested := by
  obtain ⟨-, events, last, -, accepted, final, complete, fight, confirms⟩ := progress_ok_iff.mp ok
  constructor
  · rw [fight]
    intro id found
    obtain ⟨event, member, named⟩ := List.mem_filterMap.mp (List.mem_of_getLast? found)
    exact positiveId_iff.mpr ((accepted event member).identified id named)
  · unfold Progress.Confirms at confirms
    split at confirms
    · exact confirms.receipted
    · obtain ⟨rfl, eq⟩ := confirms
      rw [eq]
      exact receipted_noDelivery

end DonBotResponse

namespace DonBotClient
open DonBotResponse
variable {readers : DonBotResponse.Readers} {options : DonBotOptions} {key : SecretValue}

/-- What a success is made of. -/
structure Sound (requested : Bool) (success : DonBotUploadSuccess) : Prop where
  uploaded : Identified success.uploadId
  fought : Identified success.fightLogId
  receipted : Receipted requested success.discordDelivery

theorem positiveId_of_decimal {bytes : SecretValue} {id : UInt64}
    (decimal : decimalId bytes = some id) : positiveId id = true := by
  obtain ⟨text, read, decimal⟩ := Option.bind_eq_some_iff.mp decimal
  split at decimal
  next canonical =>
    cases decimal
    rw [← utf8_of_fromUTF8 read]
    simp only [canonicalDiscordId, Bool.and_eq_true, decide_eq_true_eq] at canonical
    have bound : i64Max = 2 ^ 63 - 1 := rfl
    have small : decimalValue (utf8 text) < 2 ^ 64 := by omega
    rw [positiveId_iff, UInt64.toNat_ofNat_of_lt' small]
    omega
  · cases decimal

theorem yields_waitForProcessing (base : String) (id : UInt64) (requested : Bool) :
    Yields (Completed.Sound requested) (waitForProcessing readers base id key requested) := by
  have unsure (status : Option UInt16) (code : Option HttpErrorCode) :
      Yields (Completed.Sound requested) (unsureOfStream requested status code) := by
    unfold unsureOfStream
    split
    · trivial
    next unrequested =>
      have unrequested : requested = false := by simpa using unrequested
      subst unrequested
      exact ⟨nofun, receipted_noDelivery⟩
  apply Yields.settle _ (.anything _)
  · intro reply _
    dsimp only
    split
    · exact yields_ofExcept fun completed ok => completed_of_progress ok
    · exact unsure _ _
  · intro fault
    cases fault with
    | panicked => trivial
    | error error =>
      dsimp only
      split
      · trivial
      · exact unsure _ _

theorem yields_processing (base : String) (uploadId : Option UInt64) (requested : Bool)
    (named : requested = true → uploadId.isSome) :
    Yields (Completed.Sound requested) (processing readers base uploadId key requested) := by
  cases uploadId with
  | some id => exact yields_waitForProcessing base id requested
  | none =>
    have unrequested : requested = false := by simpa using named
    subst unrequested
    exact ⟨nofun, receipted_noDelivery⟩

theorem yields_upload (file : LogFileIdentity) :
    Yields (Sound options.delivery.requested) (upload readers file options key) := by
  apply yields_catchUnwind
  unfold uploadInner
  refine .after fun base => ?_
  split
  · trivial
  refine .after fun created => ?_
  refine .bind (fun made => ∃ base, CreatedAs base options created made.1 made.2)
    (yields_ofExcept fun made ok => ⟨base, readCreated_ok ok⟩) ?_
  rintro ⟨url, uploadId⟩ ⟨from_, accepted⟩
  refine .after fun _ => ?_
  refine .bind _ (yields_processing base uploadId _ fun requested =>
    (accepted.acknowledged requested).1) fun completed sound => ?_
  refine ⟨fun id same => ?_, sound.identified, sound.receipted⟩
  obtain ⟨bytes, -, decimal⟩ := accepted.named id same
  exact positiveId_of_decimal decimal

theorem readImported_ok {requested : Bool} {reply : Application.HttpResponse} {parsed : Import}
    (ok : readImported readers requested reply = .ok parsed) :
    positiveId parsed.uploadId = true ∧ Identified parsed.fightLogId := by
  unfold readImported at ok
  split at ok
  · contradiction
  obtain ⟨found, -, ok⟩ := bind_ok ok
  split at ok
  · contradiction
  next accepted =>
    split at ok
    · contradiction
    · cases ok
      simp only [Bool.or_eq_true, not_or, Bool.not_eq_true, Bool.not_eq_false'] at accepted
      refine ⟨accepted.1.1.1, fun id member => ?_⟩
      have positive := (Option.any_eq_false ..).mp accepted.1.1.2 id member
      simpa using positive

theorem yields_importPermalink (permalink : String) :
    Yields (Sound options.delivery.requested)
      (importPermalink readers permalink options key) := by
  apply yields_catchUnwind
  unfold importInner
  refine .after fun base => ?_
  split
  · trivial
  refine .after fun request => .after fun reply => ?_
  dsimp only
  refine .bind (fun parsed => positiveId parsed.uploadId = true ∧ Identified parsed.fightLogId)
    (yields_ofExcept fun parsed ok => readImported_ok ok) fun parsed named => ?_
  refine .bind (Completed.Sound options.delivery.requested) ?_ fun completed sound => ?_
  · split
    · refine .bind _ (yields_ofExcept fun receipt ok => receipted_of_delivery ok)
        fun receipt receipted => ⟨named.2, receipted⟩
    · exact .after fun _ => yields_waitForProcessing base _ _
  · refine ⟨?_, sound.identified, sound.receipted⟩
    rintro id ⟨⟩
    exact named.1

end DonBotClient
end MannyUploader.Providers
