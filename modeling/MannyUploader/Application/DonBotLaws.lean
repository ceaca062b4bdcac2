import MannyUploader.Application.NexusOptions
import MannyUploader.Foundation.Runs

/-! The saved delivery settings stay within what the verified identity offers. -/
namespace MannyUploader.Application
open Config Domain Foundation Stateful

namespace ConfigurationService
variable {W α : Type} {ports : StorePorts W} {start : ConfigurationService × W} {id : SecretId}

theorem requireRunning_spec {id : Option SecretId} :
    Triple (· = start) (requireRunning id) (fun _ state => state = start)
      fun _ state => state = start := by
  unfold requireRunning
  apply Triple.get_bind
  intro state same
  apply Triple.ite
  · intro _
    exact Triple.fail fun _ h => h.trans same
  · intro _
    exact Triple.pure fun _ h => h.trans same

theorem answered_spec {ε : Type} {call : W → Except ε α × W} {wrap : ε → ConfigurationError} :
    Triple (fun state => state.1 = start.1) (answered call wrap) (fun _ state => state.1 = start.1)
      fun _ state => state.1 = start.1 := by
  intro state same
  unfold answered
  dsimp only
  split
  all_goals exact ⟨fun _ _ => same, fun _ _ => same⟩

/-- A save replaces the settings, or leaves them as they were. -/
theorem saveSettings_spec {settings : Settings} :
    Triple (· = start) (saveSettings ports settings) (fun _ state => state.1.settings = settings)
      fun _ state => state.1.settings = start.1.settings := by
  unfold saveSettings
  apply Triple.bind (requireRunning_spec.weaken (fun _ h => h) (fun _ _ h => h)
    fun _ _ h => congrArg (·.1.settings) h)
  intro _
  apply Triple.get_bind
  intro state same
  subst same
  dsimp only
  apply Triple.ite
  · intro _
    exact Triple.fail fun _ h => congrArg (·.1.settings) h
  intro _
  split
  · apply Triple.bind (answered_spec.weaken (fun _ h => congrArg (·.1) h) (fun _ _ h => h)
      fun _ _ h => congrArg (·.settings) h)
    intro _
    exact Triple.modify fun _ _ => rfl
  · exact Triple.fail fun _ h => congrArg (·.1.settings) h

theorem requireSecrets_spec :
    Triple (· = start) (requireSecrets id) (fun _ state => state.1 = start.1)
      fun _ state => state.1 = start.1 := by
  unfold requireSecrets
  apply Triple.bind (requireRunning_spec.weaken (fun _ h => h) (fun _ _ h => h)
    fun _ _ h => congrArg (·.1) h)
  intro _
  apply Triple.get_bind
  intro state same
  subst same
  dsimp only
  split
  · exact Triple.fail fun _ h => congrArg (·.1) h
  · exact Triple.pure fun _ h => congrArg (·.1) h

/-- A command on the secrets. -/
theorem secret_spec {ε : Type} {call : W → Except ε α × W} {wrap : ε → ConfigurationError} :
    Triple (· = start) (requireSecrets id >>= fun _ => answered call wrap)
      (fun _ state => state.1 = start.1) fun _ state => state.1 = start.1 :=
  Triple.bind requireSecrets_spec fun _ => answered_spec

end ConfigurationService

namespace DonBotSystem
variable {W α : Type} {ports : StorePorts W} {verifier : VerifierPorts W} {start : DonBotSystem W}

/-- What a delivery needs of an identity: summaries, a guild that sends them, and there the
chosen channel or the defaults. -/
def Offered (donbot : DonBotSettings) (guilds : List DonBotGuild) (summaries : Bool) : Prop :=
  ∃ guild, findGuild guilds donbot.selectedGuildId = some guild ∧ summaries = true ∧
    hasSummary guild.discordDelivery = true ∧ guild.discordDelivery.enabled = true ∧
    if donbot.discordChannelOverrideExplicit then
      hasChannel guild.discordDelivery donbot.selectedDiscordChannelId = true
    else guild.discordDelivery.defaultsAvailable = true

/-- A verified identity belongs to the saved guild and offers what is to be delivered. -/
structure Authorized (donbot : DonBotSettings) (snapshot : DonBotConfigurationSnapshot) :
    Prop where
  running : snapshot.shuttingDown = false
  named : snapshot.accountName.isSome
  guild : donbot.selectedGuildId = snapshot.selectedGuildId
  offered : donbot.discordDeliveryEnabled = true →
    Offered donbot snapshot.guilds snapshot.discordSummaryDeliveryV1

def Safe (system : DonBotSystem W) : Prop :=
  system.snapshot.state = .verified → Authorized system.donbot system.snapshot

def Refreshing (system : DonBotSystem W) : Prop :=
  ∃ pending, system.controller.pending = some pending ∧ pending.source = .refresh

structure Consistent (system : DonBotSystem W) : Prop where
  safe : system.Safe
  refreshing : system.snapshot.refreshing = true ↔ system.Refreshing

theorem authorizedDelivery (safe : start.Safe) (verified : start.snapshot.state = .verified)
    (base : start.sameBase = true) (enabled : start.donbot.discordDeliveryEnabled = true) :
    (authorizedDonbotDelivery start.configuration.settings start.snapshot).requested = true := by
  obtain ⟨running, named, guild, offered⟩ := safe verified
  obtain ⟨offer, found, summaries, summary, allowed, channel⟩ := offered enabled
  have on : start.donbot.enabled = true := by
    have valid := start.configuration.valid
    simp only [Settings.validate, Settings.validateDonbot, List.append_eq_nil_iff,
      Settings.reject_nil] at valid
    simpa [enabled] using valid.1.2.2
  have known : normalizeDonbotApiBase start.donbot.apiBaseUrl = some start.snapshot.apiBaseUrl := by
    simpa [sameBase] using base
  have account : start.snapshot.accountName.isNone = false := by
    simpa using named
  unfold authorizedDonbotDelivery authorizedDonbotRoute
  rw [found]
  simp only [enabled, Option.any_some, summary, on, running, verified, account, summaries, known,
    guild, allowed]
  split at channel <;> simp_all [DonBotDeliveryRoute.requested]

/-- A failure without a request in flight keeps the system consistent: only a refresh leaves
the identity. -/
theorem failed_consistent {error : DonBotConfigurationError} {source : Source}
    (safe : source = .refresh → start.Safe) (idle : start.controller.pending = none) :
    (start.withSnapshot (·.failed error source)).Consistent where
  safe := by
    intro verified
    by_cases refresh : source = .refresh
    · subst refresh
      obtain ⟨running, named, guild, offered⟩ := safe rfl verified
      exact ⟨running, named, guild, offered⟩
    · simp [withSnapshot, DonBotConfigurationSnapshot.failed, refresh,
        DonBotConfigurationSnapshot.advance] at verified
  refreshing := by
    simp [withSnapshot, DonBotConfigurationSnapshot.failed, DonBotConfigurationSnapshot.advance,
      Refreshing, idle]

theorem failWith_spec {error : DonBotConfigurationError} {source : Source} {pre : DonBotSystem W → Prop}
    {post : α → DonBotSystem W → Prop}
    (safe : ∀ system, pre system → source = .refresh → system.Safe)
    (idle : ∀ system, pre system → system.controller.pending = none) :
    Triple pre (failWith error source) post fun _ => Consistent := by
  unfold failWith
  apply Triple.modify_bind
  intro system before
  have consistent := @failed_consistent W system error source (safe system before)
    (idle system before)
  exact Triple.fail fun _ same => same ▸ consistent

theorem guarded_spec {call : ConfigurationService.Call W α}
    {post : α → ConfigurationService × W → Prop}
    {lost : ConfigurationService × W → Prop}
    {never : DonBotConfigurationError → DonBotSystem W → Prop}
    (h : Triple (· = (start.configuration, start.world)) call post fun _ => lost) :
    Triple (· = start) (guarded call)
      (fun answer system => system.controller = start.controller ∧
        (∀ value, answer = some value → post value (system.configuration, system.world)) ∧
        (answer = none → lost (system.configuration, system.world))) never := by
  intro state same
  subst same
  obtain ⟨succeeds, fails⟩ := h _ rfl
  unfold guarded
  rw [bind_apply]
  dsimp only [attempt, onPart]
  constructor
  · intro answer same
    cases same
    refine ⟨rfl, ?_, ?_⟩
    · intro value found
      cases outcome : (call (state.configuration, state.world)).1 with
      | ok value' =>
        rw [outcome] at found
        cases found
        exact succeeds value outcome
      | error error => rw [outcome] at found; cases found
    · intro missing
      cases outcome : (call (state.configuration, state.world)).1 with
      | ok value => rw [outcome] at missing; cases missing
      | error error => exact fails error outcome
  · intro error same
    cases same

/-- A command that keeps the saved settings and the controller. -/
def Kept (start system : DonBotSystem W) : Prop :=
  system.controller = start.controller ∧ system.configuration.settings = start.configuration.settings

theorem Kept.safe {system : DonBotSystem W} (kept : Kept start system) (safe : start.Safe) :
    system.Safe := by
  unfold Safe snapshot donbot
  rw [kept.1, kept.2]
  exact safe

theorem Kept.consistent {system : DonBotSystem W} (kept : Kept start system)
    (consistent : start.Consistent) : system.Consistent where
  safe := kept.safe consistent.safe
  refreshing := by
    unfold Refreshing snapshot
    rw [kept.1]
    exact consistent.refreshing

theorem requireRunning_spec : Triple (· = start) (requireRunning (W := W))
    (fun _ system => system = start ∧ start.snapshot.shuttingDown = false)
    fun _ system => system = start := by
  unfold requireRunning
  apply Triple.get_bind
  intro state same
  subst same
  apply Triple.ite
  · intro _
    exact Triple.fail fun _ same => same
  intro running
  apply Triple.ite
  · intro _
    exact Triple.fail fun _ same => same
  · intro _
    have up : state.snapshot.shuttingDown = false := by
      simp only [Bool.or_eq_true, not_or, Bool.not_eq_true] at running
      exact running.1
    exact Triple.pure fun _ same => ⟨same, up⟩

theorem requireIdle_spec : Triple (· = start) (requireIdle (W := W))
    (fun _ system => system = start ∧ start.controller.pending = none)
    fun _ system => system = start := by
  unfold requireIdle
  apply Triple.bind requireRunning_spec
  intro _
  apply Triple.get_bind
  rintro state ⟨rfl, -⟩
  apply Triple.ite
  · intro _
    exact Triple.fail fun _ same => same
  · intro idle
    exact Triple.pure fun _ same => ⟨same, by simpa using idle⟩

theorem requireVerified_spec (consistent : start.Consistent) :
    Triple (· = start) (requireVerified (W := W))
      (fun _ system => system = start ∧ start.controller.pending = none ∧
        start.snapshot.state = .verified)
      fun _ => Consistent := by
  unfold requireVerified
  apply Triple.bind (requireIdle_spec.weaken (fun _ h => h) (fun _ _ h => h)
    fun _ _ h => h ▸ consistent)
  intro _
  apply Triple.get_bind
  rintro _ ⟨rfl, idle⟩
  apply Triple.ite fun _ => Triple.fail fun _ h => h ▸ consistent
  intro verified
  apply Triple.ite fun _ => Triple.pure fun _ h => ⟨h, idle, by simpa using verified⟩
  intro _
  apply failWith_spec
  · intro system same
    exact fun _ => same ▸ consistent.safe
  · intro system same
    exact same ▸ idle

section commands
variable {settings : Settings} {source : Source}

/-- A save that fails ends the identity, unless a refresh asked for it. -/
theorem save_spec (safe : start.Safe) (idle : start.controller.pending = none) :
    Triple (· = start) (save ports settings source)
      (fun _ system => system.controller = start.controller ∧
        system.configuration.settings = settings)
      fun _ => Consistent := by
  unfold save
  apply Triple.bind (guarded_spec ConfigurationService.saveSettings_spec)
  intro answer
  cases answer with
  | some _ => exact Triple.pure fun _ h => ⟨h.1, h.2.1 () rfl⟩
  | none =>
    apply failWith_spec
    · intro system h
      exact fun _ => Kept.safe ⟨h.1, h.2.2 rfl⟩ safe
    · intro system h
      exact h.1 ▸ idle

/-- The secrets have no part in what is authorized. -/
theorem secret_kept {call : ConfigurationService.Call W α}
    {never : DonBotConfigurationError → DonBotSystem W → Prop}
    (h : Triple (· = (start.configuration, start.world)) call
      (fun _ state => state.1 = start.configuration) fun _ state => state.1 = start.configuration) :
    Triple (· = start) (guarded call) (fun _ system => Kept start system) never := by
  apply (guarded_spec h).weaken (fun _ same => same) _ (fun _ _ failing => failing)
  rintro (_ | value) system ⟨controller, found, lost⟩
  · exact ⟨controller, congrArg (·.settings) (lost rfl)⟩
  · exact ⟨controller, congrArg (·.settings) (found value rfl)⟩

theorem verifierCall_spec {call : W → α × W} {never : DonBotConfigurationError → DonBotSystem W → Prop} :
    Triple (· = start) (verifierCall call)
      (fun answer system => answer = (call start.world).1 ∧ Kept start system) never := by
  intro state same
  subst same
  constructor
  · intro _ same
    cases same
    exact ⟨rfl, rfl, rfl⟩
  · intro error same
    cases same

/-- An accepted request, unless it is a refresh, hides the identity until its result. -/
theorem dispatched_consistent {pending : Pending} (safe : start.Safe) :
    (start.dispatched pending).Consistent where
  safe := by
    intro verified
    by_cases refresh : pending.source = .refresh
    · simp only [dispatched, withSnapshot, withPending, refresh, ↓reduceIte] at verified ⊢
      obtain ⟨running, named, guild, offered⟩ := safe verified
      exact ⟨running, named, guild, offered⟩
    · simp [dispatched, withSnapshot, withPending, refresh,
        DonBotConfigurationSnapshot.advance] at verified
  refreshing := by
    by_cases refresh : pending.source = .refresh <;>
      simp [dispatched, withSnapshot, withPending, refresh, DonBotConfigurationSnapshot.advance,
        DonBotConfigurationSnapshot.clearIdentity, Refreshing]

theorem dispatch_keeps {base : String} {key : SecretValue} :
    Keeps Consistent (dispatch (W := W) verifier base key source) := by
  unfold dispatch
  apply Triple.of_state
  intro start consistent
  apply Triple.bind (requireIdle_spec.weaken (fun _ h => h) (fun _ _ h => h)
    fun _ _ h => h ▸ consistent)
  intro _
  apply Triple.of_state
  rintro _ ⟨rfl, idle⟩
  split
  · apply failWith_spec
    · exact fun _ same _ => same ▸ consistent.safe
    · exact fun _ same => same ▸ idle
  next base _ =>
    apply Triple.get_bind
    intro start same
    subst same
    dsimp only
    apply Triple.ite
    · intro _
      exact Triple.fail fun _ same => same ▸ consistent
    intro _
    -- The number of the request plays no part in the invariant.
    have counted : ∀ next, DonBotSystem.Safe
        { start with controller := { start.controller with nextRequest := next } } :=
      fun _ => consistent.safe
    apply Triple.modify_bind
    intro _ same
    subst same
    apply Triple.bind verifierCall_spec
    intro answer
    cases answer with
    | error _ =>
      apply failWith_spec
      · exact fun system h _ => Kept.safe h.2 (counted _)
      · exact fun system h => h.2.1 ▸ idle
    | ok _ => exact Triple.modify fun system h => dispatched_consistent (h.2.safe (counted _))

theorem beginSaved_keeps : Keeps Consistent (beginSaved ports verifier source) := by
  unfold beginSaved
  apply Triple.of_state
  intro start consistent
  apply Triple.bind (requireIdle_spec.weaken (fun _ h => h) (fun _ _ h => h)
    fun _ _ h => h ▸ consistent)
  intro _
  apply Triple.of_state
  rintro start ⟨rfl, idle⟩
  apply @Triple.bind _ _ _ _ _ _ _ fun _ system => system = start
  · apply Triple.onlyIf
    · intro _
      exact (requireVerified_spec consistent).weaken (fun _ h => h) (fun _ _ h => h.1)
        fun _ _ h => h
    · intro _ _ same
      exact same
  intro _
  apply Triple.bind (secret_kept ConfigurationService.secret_spec)
  intro answer
  cases answer with
  | none =>
    apply failWith_spec
    · exact fun _ kept _ => kept.safe consistent.safe
    · exact fun _ kept => kept.1 ▸ idle
  | some key =>
    apply Triple.get_bind
    intro system kept
    exact dispatch_keeps.weaken (fun _ same => same ▸ kept.consistent consistent)
      (fun _ _ h => h) fun _ _ h => h

/-- What survives the cleanup of a guild is offered. -/
theorem sanitize_offered {donbot : DonBotSettings} {identity : DonBotVerification}
    (enabled : (sanitize donbot identity).discordDeliveryEnabled = true) :
    Offered (sanitize donbot identity) identity.guilds identity.discordSummaryDeliveryV1 := by
  unfold Offered
  cases found : findGuild identity.guilds donbot.selectedGuildId with
  | none => simp [sanitize, found, disable, clearDelivery] at enabled
  | some guild =>
    by_cases refused : (!donbot.enabled ||
        !(identity.discordSummaryDeliveryV1 && guild.discordDelivery.enabled) ||
        (donbot.discordChannelOverrideExplicit &&
          !hasChannel guild.discordDelivery donbot.selectedDiscordChannelId)) = true
    · simp only [sanitize, found, refused, clearDelivery, ↓reduceIte] at enabled
      cases enabled
    · simp only [sanitize, found, refused, Bool.false_eq_true, ↓reduceIte] at enabled ⊢
      cases explicit : donbot.discordChannelOverrideExplicit <;>
        simp_all [apply_ite]

theorem acceptIdentity_spec {pending : Pending} {success : DonBotVerificationSuccess}
    (safe : start.Safe) (idle : start.controller.pending = none) :
    Triple (· = start) (acceptIdentity ports pending success)
      (fun _ system => system.controller = start.controller ∧
        (system.donbot.discordDeliveryEnabled = true → Offered system.donbot success.identity.guilds
          success.identity.discordSummaryDeliveryV1))
      fun _ => Consistent := by
  unfold acceptIdentity
  apply Triple.ite
  · intro candidate
    unfold acceptCandidate
    apply Triple.get_bind
    intro start same
    subst same
    apply Triple.bind (save_spec safe idle)
    intro _
    apply Triple.of_state
    rintro saved ⟨controller, settings⟩
    have off : saved.donbot.discordDeliveryEnabled = false := by
      unfold donbot
      rw [settings]
      rfl
    apply Triple.bind (secret_kept ConfigurationService.secret_spec)
    intro answer
    have disabled : ∀ system, Kept saved system → system.donbot.discordDeliveryEnabled = false := by
      intro system kept
      unfold donbot at off ⊢
      rw [kept.2, off]
    cases answer with
    | some _ =>
      apply Triple.pure
      intro system kept
      exact ⟨kept.1.trans controller, fun enabled => by rw [disabled system kept] at enabled; cases enabled⟩
    | none =>
      apply failWith_spec
      · intro system _ refresh
        rw [candidate] at refresh
        cases refresh
      · intro system kept
        rw [kept.1, controller, idle]
  · intro _
    unfold acceptSaved
    apply Triple.get_bind
    intro start same
    subst same
    apply Triple.onlyIf
    · intro _
      apply (save_spec safe idle).weaken (fun _ h => h) _ fun _ _ h => h
      rintro _ system ⟨controller, settings⟩
      constructor
      · exact controller
      · unfold donbot
        rw [settings]
        exact sanitize_offered
    · intro unchanged system same
      subst same
      have clean : sanitize system.donbot success.identity = system.donbot := by
        simp only [ne_eq, Decidable.not_not] at unchanged
        exact congrArg (·.donbot) unchanged
      rw [← clean]
      exact ⟨rfl, sanitize_offered⟩

/-- A published identity is of the saved guild and offers what is saved. -/
theorem published_consistent {pending : Pending} {identity : DonBotVerification}
    (running : start.snapshot.shuttingDown = false) (idle : start.controller.pending = none)
    (offered : start.donbot.discordDeliveryEnabled = true →
      Offered start.donbot identity.guilds identity.discordSummaryDeliveryV1) :
    (start.published pending identity).Consistent where
  safe _ := ⟨running, rfl, rfl, offered⟩
  refreshing := by
    simp [published, withSnapshot, DonBotConfigurationSnapshot.advance, Refreshing, idle]

theorem accept_keeps {pending : Pending}
    {verification : Except DonBotVerificationFailure DonBotVerificationSuccess}
    (running : start.snapshot.shuttingDown = false) (safe : start.Safe) :
    Triple (· = start) (accept ports pending verification) (fun _ => Consistent)
      fun _ => Consistent := by
  unfold accept
  apply Triple.modify_bind
  intro start' same
  subst same
  have idle : (start'.withPending none).controller.pending = none := rfl
  have safe' : (start'.withPending none).Safe := safe
  split
  · apply failWith_spec
    · exact fun _ same _ => same ▸ safe'
    · exact fun _ same => same ▸ idle
  next success =>
    apply Triple.get_bind
    intro start same
    apply Triple.ite
    · intro _
      apply failWith_spec
      · exact fun _ h _ => h ▸ same ▸ safe'
      · exact fun _ h => h ▸ same ▸ idle
    · intro _
      subst same
      apply Triple.bind (acceptIdentity_spec safe' idle)
      intro _
      apply Triple.modify_bind
      rintro system ⟨controller, offered⟩
      have consistent : (system.published pending success.identity).Consistent := by
        apply published_consistent _ _ offered
        · unfold snapshot
          rw [controller]
          exact running
        · rw [controller]
          exact idle
      exact Triple.pure fun _ same => same ▸ consistent

theorem poll_keeps : Keeps Consistent (poll ports verifier) := by
  unfold poll
  apply Triple.of_state
  intro start consistent
  apply Triple.bind (requireRunning_spec.weaken (fun _ h => h) (fun _ _ h => h)
    fun _ _ h => h ▸ consistent)
  intro _
  apply Triple.of_state
  rintro start ⟨rfl, running⟩
  apply Triple.bind verifierCall_spec
  intro answer
  apply Triple.of_state
  rintro system ⟨-, kept⟩
  have safe : system.Safe := kept.safe consistent.safe
  split
  · apply Triple.get_bind
    intro system same
    subst same
    apply Triple.modify_bind
    intro system same
    subst same
    apply failWith_spec
    · exact fun _ same _ => same ▸ safe
    · exact fun _ same => same ▸ rfl
  · exact Triple.pure fun _ same => same ▸ kept.consistent consistent
  next result =>
    apply Triple.get_bind
    intro system same
    subst same
    split
    · exact Triple.fail fun _ same => same ▸ kept.consistent consistent
    · apply accept_keeps _ safe
      unfold snapshot
      rw [kept.1]
      exact running

/-- Without a request in flight, what the identity offers is all there is to keep. -/
theorem consistent_of (idle : start.controller.pending = none)
    (calm : start.snapshot.refreshing = false) (safe : start.Safe) : start.Consistent where
  safe := safe
  refreshing := by simp [calm, Refreshing, idle]

theorem Consistent.calm (consistent : start.Consistent) (idle : start.controller.pending = none) :
    start.snapshot.refreshing = false := by
  have same := consistent.refreshing
  simpa [Refreshing, idle] using same

/-- Settings that the identity offers are saved, and the change is shown. -/
theorem saved_consistent {system : DonBotSystem W} (consistent : start.Consistent)
    (idle : start.controller.pending = none) (controller : system.controller = start.controller)
    (change : DonBotConfigurationSnapshot → DonBotConfigurationSnapshot)
    (calm : (change start.snapshot).refreshing = start.snapshot.refreshing)
    (authorized : Authorized system.donbot (change start.snapshot)) :
    (system.withSnapshot change).Consistent := by
  apply consistent_of
  · change system.controller.pending = none
    rw [controller, idle]
  · change (change system.controller.snapshot).refreshing = false
    rw [controller]
    exact calm.trans (consistent.calm idle)
  · intro _
    change Authorized system.donbot (change system.controller.snapshot)
    rw [controller]
    exact authorized

theorem selectGuild_keeps {guildId : String} : Keeps Consistent (selectGuild ports guildId) := by
  unfold selectGuild
  apply Triple.of_state
  intro start consistent
  apply Triple.bind (requireVerified_spec consistent)
  intro _
  apply Triple.get_bind
  rintro start ⟨rfl, idle, verified⟩
  apply Triple.ite
  · intro _
    exact Triple.fail fun _ same => same ▸ consistent
  intro _
  apply Triple.bind (save_spec consistent.safe idle)
  intro _
  apply Triple.modify
  rintro system ⟨controller, settings⟩
  obtain ⟨running, named, guild, offered⟩ := consistent.safe verified
  apply saved_consistent consistent idle controller _ rfl
  unfold donbot
  rw [settings]
  constructor
  · exact running
  · exact named
  · rfl
  · intro enabled
    by_cases other : start.configuration.settings.donbot.selectedGuildId ≠ guildId
    · simp only [other, ne_eq, not_false_eq_true, ↓reduceIte, clearDelivery] at enabled
      cases enabled
    · obtain rfl := Decidable.not_not.mp other
      rw [if_neg other] at enabled ⊢
      exact offered enabled

/-- What is delivered is offered. -/
theorem offered_of_requested {settings : Settings} {snapshot : DonBotConfigurationSnapshot}
    (requested : (authorizedDonbotDelivery settings snapshot).requested = true) :
    Offered settings.donbot snapshot.guilds snapshot.discordSummaryDeliveryV1 := by
  unfold authorizedDonbotDelivery authorizedDonbotRoute at requested
  cases found : findGuild snapshot.guilds settings.donbot.selectedGuildId with
  | none => simp [found, DonBotDeliveryRoute.requested] at requested
  | some guild =>
    rw [found] at requested
    refine ⟨guild, found, ?_⟩
    split at requested
    · cases requested
    next wanted =>
      simp only [Option.any_some, Bool.or_eq_true, Bool.not_eq_true', not_or,
        Bool.not_eq_false] at wanted
      split at requested
      · cases requested
      next covered =>
        simp only [Bool.or_eq_true, Bool.not_eq_true', not_or, Bool.not_eq_false] at covered
        dsimp only at requested
        split at requested
        · cases requested
        next on =>
          have channel : if settings.donbot.discordChannelOverrideExplicit then
              hasChannel guild.discordDelivery settings.donbot.selectedDiscordChannelId = true
              else guild.discordDelivery.defaultsAvailable = true := by
            split
            next explicit =>
              rw [if_pos explicit] at requested
              by_contra closed
              rw [if_neg closed] at requested
              cases requested
            next defaults =>
              rw [if_neg defaults] at requested
              by_contra closed
              rw [if_neg closed] at requested
              cases requested
          exact ⟨covered.1.1.2, wanted.2, by simpa using on, channel⟩

theorem setDiscordDeliveryEnabled_keeps {enabled : Bool} :
    Keeps Consistent (setDiscordDeliveryEnabled ports enabled) := by
  unfold setDiscordDeliveryEnabled
  apply Triple.of_state
  intro start consistent
  apply Triple.bind (requireVerified_spec consistent)
  intro _
  apply Triple.get_bind
  rintro start ⟨rfl, idle, verified⟩
  apply Triple.ite
  · intro _
    exact Triple.fail fun _ same => same ▸ consistent
  intro allowed
  apply Triple.bind (save_spec consistent.safe idle)
  intro _
  apply Triple.modify
  rintro system ⟨controller, settings⟩
  obtain ⟨running, named, guild, offered⟩ := consistent.safe verified
  apply saved_consistent consistent idle controller _ rfl
  unfold donbot
  rw [settings]
  constructor
  · exact running
  · exact named
  · split <;> exact guild
  · intro delivery
    have on : enabled = true := by
      split at delivery <;> exact delivery
    simp only [on, Bool.true_and, Bool.not_eq_true', Bool.not_eq_false] at allowed
    have offers := offered_of_requested allowed
    change Offered _ start.snapshot.guilds start.snapshot.discordSummaryDeliveryV1
    split
    · simpa only [on] using offers
    next defaults =>
      have guildWide : start.configuration.settings.donbot.discordChannelOverrideExplicit = false := by
        simpa using defaults
      simpa only [Offered, guildWide, Bool.false_eq_true, ↓reduceIte] using offers

theorem selectDiscordChannel_keeps {channelId : String} :
    Keeps Consistent (selectDiscordChannel ports channelId) := by
  unfold selectDiscordChannel
  apply Triple.of_state
  intro start consistent
  apply Triple.bind (requireVerified_spec consistent)
  intro _
  apply Triple.get_bind
  rintro start ⟨rfl, idle, verified⟩
  split
  · exact Triple.fail fun _ same => same ▸ consistent
  next allowed =>
    apply Triple.bind (save_spec consistent.safe idle)
    intro _
    apply Triple.modify
    rintro system ⟨controller, settings⟩
    obtain ⟨running, named, guild, offered⟩ := consistent.safe verified
    apply saved_consistent consistent idle controller _ rfl
    unfold donbot
    rw [settings]
    constructor
    · exact running
    · exact named
    · exact guild
    · intro enabled
      obtain ⟨offer, found, summaries, summary, on, -⟩ := offered enabled
      refine ⟨offer, found, summaries, summary, on, ?_⟩
      unfold channelError at allowed
      simp only [donbot] at found allowed
      rw [found] at allowed
      dsimp only at allowed ⊢
      split at allowed
      · cases allowed
      · cases chosen : channelId.isEmpty with
        | true =>
          rw [chosen, if_pos rfl] at allowed
          by_contra closed
          rw [if_neg (by simpa using closed)] at allowed
          cases allowed
        | false =>
          rw [chosen, if_neg (by simp)] at allowed
          by_contra closed
          rw [if_neg (by simpa using closed)] at allowed
          cases allowed

theorem disconnect_keeps : Keeps Consistent (disconnect ports) := by
  unfold disconnect
  apply Triple.of_state
  intro start consistent
  apply Triple.bind (requireIdle_spec.weaken (fun _ h => h) (fun _ _ h => h)
    fun _ _ h => h ▸ consistent)
  intro _
  apply Triple.get_bind
  rintro start ⟨rfl, idle⟩
  apply Triple.bind (save_spec consistent.safe idle)
  intro _
  apply Triple.modify_bind
  rintro system ⟨controller, settings⟩
  have idle' : system.controller.pending = none := controller ▸ idle
  -- From here on no identity is shown.
  have hidden : ∀ current : DonBotSystem W,
      current.controller.pending = none → current.snapshot.state = .unverified →
      current.snapshot.refreshing = false → current.Consistent := by
    intro current idle unverified calm
    apply consistent_of idle calm
    intro verified
    rw [unverified] at verified
    cases verified
  apply Triple.get_bind
  intro current same
  subst same
  split
  · exact Triple.fail fun _ same => same ▸ hidden _ idle' rfl rfl
  · apply Triple.modify_bind
    intro current same
    subst same
    apply Triple.bind (secret_kept ConfigurationService.secret_spec)
    intro answer
    cases answer with
    | none =>
      apply failWith_spec
      · exact fun _ kept _ => kept.safe (hidden _ (by exact idle') rfl rfl).safe
      · exact fun _ kept => kept.1 ▸ idle'
    | some _ =>
      apply Triple.modify
      intro system kept
      apply hidden
      · change system.controller.pending = none
        rw [kept.1]
        exact idle'
      · change system.controller.snapshot.state = .unverified
        rw [kept.1]
        rfl
      · change system.controller.snapshot.refreshing = false
        rw [kept.1]
        rfl

theorem shutdown_keeps (consistent : start.Consistent) : (start.shutdown verifier).Consistent := by
  unfold shutdown
  split
  · exact consistent
  · apply consistent_of rfl rfl
    intro verified
    cases verified

end commands

section options
variable {settings : Settings}

theorem saveOptions_spec :
    Triple (· = start) (saveOptions ports settings)
      (fun _ system => system.controller = start.controller ∧
        system.configuration.settings = settings)
      fun _ system => Kept start system := by
  unfold saveOptions
  apply @Triple.wrapping _ _ _ _ _ _ _ fun _ system => Kept start system
  · apply Triple.onPart
    intro state same
    subst same
    exact ConfigurationService.saveSettings_spec.weaken (fun _ h => h) (fun _ _ h => ⟨rfl, h⟩)
      fun _ _ h => ⟨rfl, h⟩
  · exact fun _ _ kept => kept

/-- New settings of which the identity offers as much as of the old. -/
theorem edited_consistent {system : DonBotSystem W} (consistent : start.Consistent)
    (controller : system.controller = start.controller)
    (authorized : Authorized start.donbot start.snapshot →
      Authorized system.donbot start.snapshot) : system.Consistent := by
  unfold DonBotSystem.donbot at authorized
  constructor
  · unfold Safe snapshot
    rw [controller]
    exact fun verified => authorized (consistent.safe verified)
  · unfold Refreshing snapshot
    rw [controller]
    exact consistent.refreshing

theorem setDonBotEnabled_keeps {value : Bool} :
    Keeps Consistent (setDonBotEnabled ports verifier value) := by
  unfold setDonBotEnabled
  apply Triple.get_bind
  intro start consistent
  apply Triple.ite
  · intro _
    exact Triple.fail fun _ same => same ▸ consistent
  intro _
  apply Triple.ite
  · intro _
    exact Triple.fail fun _ same => same ▸ consistent
  intro _
  apply Triple.ite
  · intro _
    exact Triple.fail fun _ same => same ▸ consistent
  intro _
  apply Triple.bind (saveOptions_spec.weaken (fun _ h => h) (fun _ _ h => h)
    fun _ _ kept => kept.consistent consistent)
  intro _
  have saved : ∀ system : DonBotSystem W, system.controller = start.controller ∧
      system.configuration.settings = { start.configuration.settings with
        donbot := if value then { start.donbot with enabled := value }
          else clearDelivery { start.donbot with enabled := value } } → system.Consistent := by
    rintro system ⟨controller, settings⟩
    apply edited_consistent consistent controller
    rintro ⟨running, named, guild, offered⟩
    unfold DonBotSystem.donbot
    rw [settings]
    cases value with
    | true => exact ⟨running, named, guild, offered⟩
    | false => exact ⟨running, named, guild, nofun⟩
  apply Triple.onlyIf
  · intro _
    exact (Triple.wrapping beginSaved_keeps fun _ _ h => h).weaken saved (fun _ _ h => h)
      fun _ _ h => h
  · intro _ system h
    exact saved system h

theorem saveOthers_keeps : Keeps Consistent (saveOthers ports settings) := by
  unfold saveOthers
  apply Triple.get_bind
  intro start consistent
  apply saveOptions_spec.weaken (fun _ h => h) _ fun _ _ kept => kept.consistent consistent
  rintro _ system ⟨controller, saved⟩
  apply edited_consistent consistent controller
  unfold DonBotSystem.donbot
  rw [saved]
  exact fun authorized => authorized

end options

/-- The commands of the controller and of the options window, and whatever else happens to
the stores and the workers. -/
inductive Event (W : Type)
  | beginVerification (base : String) (key : SecretValue)
  | beginSavedVerification
  | beginSavedRefresh
  | poll
  | selectGuild (guildId : String)
  | setDiscordDeliveryEnabled (enabled : Bool)
  | selectDiscordChannel (channelId : String)
  | disconnect
  | shutdown
  | setDonBotEnabled (value : Bool)
  | saveOthers (settings : Settings)
  | shutdownConfiguration
  | environment (world : W)

section runs
variable (ports : StorePorts W) (verifier : VerifierPorts W)

def step (system : DonBotSystem W) : Event W → DonBotSystem W
  | .beginVerification base key => (beginVerification verifier base key system).2
  | .beginSavedVerification => (beginSavedVerification ports verifier system).2
  | .beginSavedRefresh => (beginSavedRefresh ports verifier system).2
  | .poll => (poll ports verifier system).2
  | .selectGuild guildId => (selectGuild ports guildId system).2
  | .setDiscordDeliveryEnabled enabled => (setDiscordDeliveryEnabled ports enabled system).2
  | .selectDiscordChannel channelId => (selectDiscordChannel ports channelId system).2
  | .disconnect => (disconnect ports system).2
  | .shutdown => system.shutdown verifier
  | .setDonBotEnabled value => (setDonBotEnabled ports verifier value system).2
  | .saveOthers settings => (saveOthers ports settings system).2
  | .shutdownConfiguration =>
    { system with configuration := system.configuration.shutdown }
  | .environment world => { system with world }

theorem step_consistent {event : Event W} (consistent : start.Consistent) :
    (start.step ports verifier event).Consistent := by
  cases event with
  | beginVerification base key => exact dispatch_keeps.apply consistent
  | beginSavedVerification => exact beginSaved_keeps.apply consistent
  | beginSavedRefresh => exact beginSaved_keeps.apply consistent
  | poll => exact poll_keeps.apply consistent
  | selectGuild guildId => exact selectGuild_keeps.apply consistent
  | setDiscordDeliveryEnabled enabled => exact setDiscordDeliveryEnabled_keeps.apply consistent
  | selectDiscordChannel channelId => exact selectDiscordChannel_keeps.apply consistent
  | disconnect => exact disconnect_keeps.apply consistent
  | shutdown => exact shutdown_keeps consistent
  | setDonBotEnabled value => exact setDonBotEnabled_keeps.apply consistent
  | saveOthers settings => exact saveOthers_keeps.apply consistent
  | shutdownConfiguration =>
    apply Kept.consistent _ consistent
    constructor
    · rfl
    · change start.configuration.shutdown.settings = start.configuration.settings
      unfold ConfigurationService.shutdown
      split <;> rfl
  | environment world =>
    have kept : Kept start { start with world } := ⟨rfl, rfl⟩
    exact kept.consistent consistent

theorem new_consistent {configuration : ConfigurationService}
    {controller : DonBotConfigurationController}
    (created : DonBotConfigurationController.new configuration = .ok controller) (world : W) :
    (⟨controller, configuration, world⟩ : DonBotSystem W).Consistent := by
  unfold DonBotConfigurationController.new at created
  split at created
  · cases created
  split at created
  · cases created
  · cases created
    apply consistent_of rfl rfl
    intro verified
    cases verified

/-- A result that answers no request in flight is dropped. -/
theorem poll_stale {result : DonBotVerificationResult}
    (taken : (verifier.tryTakeResult start.world).1 = .ok (some result))
    (stale : ∀ pending, start.controller.pending = some pending → pending.id ≠ result.requestId) :
    Kept start (poll ports verifier start).2 := by
  have keeps : Triple (· = start) (poll ports verifier) (fun _ => Kept start)
      fun _ => Kept start := by
    unfold poll
    apply Triple.bind (requireRunning_spec.weaken (fun _ h => h) (fun _ _ h => h)
      fun _ _ h => h ▸ ⟨rfl, rfl⟩)
    intro _
    apply Triple.of_state
    rintro start ⟨rfl, -⟩
    apply Triple.bind verifierCall_spec
    intro answer
    apply Triple.of_state
    rintro system ⟨same, kept⟩
    rw [same, taken]
    apply Triple.get_bind
    intro system same
    subst same
    have none_left : system.controller.pending.filter (·.id == result.requestId) = none := by
      rw [kept.1, Option.filter_eq_none_iff]
      intro pending there
      simpa using stale pending there
    rw [none_left]
    exact Triple.fail fun _ same => same ▸ kept
  exact keeps.apply rfl

/-- In every run, a verified identity covers the delivery that is saved for its base. A refresh
is shown while one is in flight, and other results change nothing. -/
theorem delivery_never_stale {configuration : ConfigurationService}
    {controller : DonBotConfigurationController} {world : W} {system : DonBotSystem W}
    (created : DonBotConfigurationController.new configuration = .ok controller)
    (run : Run (step ports verifier) (fun _ _ => True) ⟨controller, configuration, world⟩ system) :
    (system.snapshot.state = .verified →
      normalizeDonbotApiBase system.donbot.apiBaseUrl = some system.snapshot.apiBaseUrl →
      system.donbot.discordDeliveryEnabled = true →
      (authorizedDonbotDelivery system.configuration.settings system.snapshot).requested = true ∧
        Offered system.donbot system.snapshot.guilds system.snapshot.discordSummaryDeliveryV1) ∧
    (system.snapshot.refreshing = true ↔
      ∃ pending, system.controller.pending = some pending ∧ pending.source = .refresh) ∧
    ∀ result, (verifier.tryTakeResult system.world).1 = .ok (some result) →
      (∀ pending, system.controller.pending = some pending → pending.id ≠ result.requestId) →
      (poll ports verifier system).2.controller = system.controller ∧
        (poll ports verifier system).2.configuration.settings = system.configuration.settings := by
  have consistent : system.Consistent :=
    run.invariant (fun _ _ _ => step_consistent ports verifier) (new_consistent created world)
  refine ⟨?_, consistent.refreshing, ?_⟩
  · intro verified base enabled
    constructor
    · exact authorizedDelivery consistent.safe verified (by simpa [sameBase] using base) enabled
    · exact (consistent.safe verified).offered enabled
  · intro result taken stale
    exact poll_stale ports verifier taken stale

end runs

def sampleDelivery : Settings :=
  { Settings.new "logs" with donbot := {
      enabled := true, selectedGuildId := "7", discordDeliveryEnabled := true } }

theorem sampleDelivery_valid : sampleDelivery.validate = [] := by decide

def sampleConfiguration : ConfigurationService :=
  ⟨sampleDelivery, .primary, none, none, 1, false, sampleDelivery_valid⟩

def sampleController : DonBotConfigurationController where
  snapshot := {
    state := .unverified, apiBaseUrl := defaultDonbotApi, accountName := none
    discordSummaryDeliveryV1 := false, discordAggregateDeliveryV1 := false, guilds := []
    selectedGuildId := "", diagnostic := none, refreshing := false, revision := 1
    shuttingDown := false }
  pending := none
  nextRequest := 1

def sampleStores : StorePorts Unit where
  saveSettings _ world := (.ok (), world)
  loadSecret _ world := (.ok (utf8 "KEY"), world)
  storeSecret _ _ world := (.ok (), world)
  eraseSecret _ world := (.ok (), world)

/-- It verifies the first request, with a guild that sends summaries to its defaults. -/
def sampleVerifier : VerifierPorts Unit where
  enqueue _ world := (.ok (), world)
  tryTakeResult world := (.ok (some ⟨1, .ok ⟨{
    accountName := "account.1234"
    discordSummaryDeliveryV1 := true
    discordAggregateDeliveryV1 := false
    guilds := [⟨"7", "Guild",
      { enabled := true, defaultsAvailable := true, pveSummary := true }⟩] }, utf8 "KEY"⟩⟩), world)
  cancelPending world := world

/-- Verified from the saved key, and being refreshed. -/
def sampleRun : DonBotSystem Unit :=
  [Event.beginSavedVerification, .poll, .beginSavedRefresh].foldl
    (step sampleStores sampleVerifier) ⟨sampleController, sampleConfiguration, ()⟩

theorem delivery_never_stale_sample :
    sampleRun.snapshot.refreshing = true ∧
      (authorizedDonbotDelivery sampleRun.configuration.settings sampleRun.snapshot).requested =
        true :=
  have laws := @delivery_never_stale Unit sampleStores sampleVerifier sampleConfiguration
    sampleController () sampleRun (by decide)
    (Run.of_list (step sampleStores sampleVerifier) _ _ fun _ _ _ => trivial)
  ⟨by decide, (laws.1 (by decide) (by decide) (by decide)).1⟩

end DonBotSystem
end MannyUploader.Application
