import MannyUploader.Application.SessionRecovery
import MannyUploader.Application.TwitchSessionLaws
import MannyUploader.Foundation.Follows

/-! A recovery puts a session back only as it took it out, and never after a grant. -/
namespace MannyUploader.Application
open Domain Foundation
namespace TwitchSessionOwner

/-- How far a recovery has come. A refresh that panicked counts as one that was granted. -/
structure Progress where
  transaction : Option TwitchSessionTransaction := none
  refreshed : Bool := false
  rotated : Bool := false
  ended : Bool := false
deriving DecidableEq

abbrev RecoveryEntry := (question : RecoveryQuestion) × question.Answer

def Progress.note (progress : Progress) : RecoveryEntry → Progress
  | ⟨.owner (.beginRecovery _ _), .ok (.inr transaction)⟩ =>
    { progress with transaction := some transaction }
  | ⟨.refreshAccessToken _, .error (.failed _)⟩ => { progress with refreshed := true }
  | ⟨.refreshAccessToken _, _⟩ => { progress with refreshed := true, rotated := true }
  | ⟨.owner (.persistPending _ _), _⟩ => { progress with rotated := true }
  | ⟨.owner (.commit _ _), .ok _⟩ => { progress with ended := true }
  | ⟨.owner (.restore _ _), _⟩ => { progress with ended := true }
  | ⟨.owner (.discard _ _), _⟩ => { progress with ended := true }
  | _ => progress

/-- The transaction is open and has this id. -/
def Progress.Holding (progress : Progress) (id : UInt64) : Prop :=
  progress.ended = false ∧ ∃ transaction, progress.transaction = some transaction ∧
    transaction.id = id

/-- What a recovery may ask next. It goes back to the session that it took out only while
that session's refresh token cannot have been spent. -/
def Progress.Allows (progress : Progress) : RecoveryQuestion → Prop
  | .stopRequested | .systemNow => True
  | .validateAccessToken _ => progress.ended = false ∧ progress.transaction.isSome = true
  | .refreshAccessToken token => progress.ended = false ∧ progress.refreshed = false ∧
      ∃ transaction, progress.transaction = some transaction ∧
        token = transaction.session.credentials.refreshToken
  | .owner (.beginRecovery _ _) => progress = {}
  | .owner (.check id) | .owner (.discard id _) | .owner (.commit id _) => progress.Holding id
  | .owner (.persistPending id _) => progress.Holding id ∧ progress.rotated = true
  | .owner (.restore id session) => progress.ended = false ∧ progress.rotated = false ∧
      progress.transaction = some ⟨id, session⟩
  | .owner (.acquire _) => progress.ended = true
  | .owner _ => False

section rules
variable {progress : Progress} {transaction : TwitchSessionTransaction}

abbrev RecoveryFollows (post : Progress → α → Prop)
    (failed : Progress → Fault TwitchDeliverySessionError → Prop) (progress : Progress)
    (recovery : Recovery α) : Prop :=
  Dialogue.Follows Progress.note Progress.Allows post failed progress recovery

/-- Questions that leave the recovery where it is. Only a panic gets in between. -/
abbrev Passes (progress : Progress) (recovery : Recovery α) : Prop :=
  RecoveryFollows (fun after _ => after = progress)
    (fun after fault => after = progress ∧ fault = .panicked) progress recovery

theorem passes_checkRecovery {id : UInt64} (holding : progress.Holding id) :
    Passes progress (Recovery.checkRecovery id) := by
  refine ⟨trivial, fun stopped => ?_⟩
  cases stopped with
  | true => exact rfl
  | false =>
    refine ⟨holding, fun checked => ?_⟩
    cases checked <;> exact rfl

theorem passes_expiry (duration : Duration) : Passes progress (Recovery.expiry duration) := by
  unfold Recovery.expiry
  split
  · exact rfl
  · refine ⟨trivial, fun now => ?_⟩
    cases now with
    | none => exact ⟨rfl, rfl⟩
    | some now => exact rfl

theorem passes_applyIdentity (session : TwitchSession) (identity : TwitchValidatedIdentity) :
    Passes progress (Recovery.applyIdentity session identity) := by
  unfold Recovery.applyIdentity
  split
  · exact rfl
  · refine Dialogue.Follows.bind _ (passes_expiry identity.expiresIn) fun after checked same => ?_
    subst same
    cases checked with
    | error error => exact rfl
    | ok time =>
      dsimp only
      split <;> exact rfl

theorem passes_validate (token : SecretValue) (running : progress.ended = false)
    (open' : progress.transaction.isSome = true) :
    Passes progress (Recovery.validateAccessToken token) := by
  refine ⟨⟨running, open'⟩, fun answer => ?_⟩
  rcases answer with (error | _) | identity
  · exact rfl
  · exact ⟨rfl, rfl⟩
  · exact rfl

/-- The transaction is over when the recovery returns. A panic leaves it to be given up. -/
abbrev Ends (progress : Progress) (recovery : Recovery TwitchDeliverySession) (id : UInt64) : Prop :=
  RecoveryFollows (fun after _ => after.ended = true)
    (fun after fault => fault = .panicked ∧ after.Holding id ∨ fault ≠ .panicked ∧ after.ended = true)
    progress recovery

theorem failed_ne {error : TwitchDeliverySessionError} : Fault.failed error ≠ .panicked := by
  intro same
  cases same

theorem ends_discard {error : TwitchDeliverySessionError} {erase : Bool}
    (holding : progress.Holding transaction.id) :
    Ends progress (Recovery.endFailedRecovery transaction error false erase) transaction.id := by
  refine ⟨holding, fun closed => ?_⟩
  cases closed <;> exact .inr ⟨failed_ne, rfl⟩

theorem ends_restore {error : TwitchDeliverySessionError} {erase : Bool}
    (holding : progress.Holding transaction.id) (fresh : progress.rotated = false)
    (lent : progress.transaction = some transaction) :
    Ends progress (Recovery.endFailedRecovery transaction error true erase) transaction.id := by
  refine ⟨⟨holding.1, fresh, lent⟩, fun closed => ?_⟩
  cases closed <;> exact .inr ⟨failed_ne, rfl⟩

theorem ends_either {error : TwitchDeliverySessionError} (restore erase : Bool)
    (holding : progress.Holding transaction.id) (fresh : progress.rotated = false)
    (lent : progress.transaction = some transaction) :
    Ends progress (Recovery.endFailedRecovery transaction error restore erase) transaction.id := by
  cases restore with
  | false => exact ends_discard holding
  | true => exact ends_restore holding fresh lent

theorem ends_finishRecovery (holding : progress.Holding transaction.id) :
    Ends progress (Recovery.finishRecovery transaction) transaction.id := by
  refine ⟨holding, fun committed => ?_⟩
  cases committed with
  | error error =>
    refine ⟨holding, fun discarded => ?_⟩
    exact .inr ⟨failed_ne, rfl⟩
  | ok snapshot =>
    refine ⟨trivial, fun stopped => ⟨rfl, fun acquired => ?_⟩⟩
    cases acquired with
    | error error => exact .inr ⟨failed_ne, rfl⟩
    | ok lease => exact rfl

/-- What follows a part that only passes goes on from the same progress. -/
theorem ends_after {first : Recovery α} {next : α → Recovery TwitchDeliverySession} {id : UInt64}
    (holding : progress.Holding id) (passes : Passes progress first)
    (after : ∀ value, Ends progress (next value) id) : Ends progress (first >>= next) id := by
  refine Dialogue.Follows.bind (fun found _ => found = progress) (passes.weaken
    (fun _ _ same => same) ?_) ?_
  · rintro found fault ⟨rfl, rfl⟩
    exact .inl ⟨rfl, holding⟩
  · rintro found value rfl
    exact after value

theorem ends_validateRotated {id' : UInt64} (same : transaction.id = id')
    (holding : progress.Holding id') :
    Ends progress (Recovery.validateRotated transaction) id' := by
  subst same
  obtain ⟨running, found, present, _⟩ := id holding
  refine ends_after holding (passes_checkRecovery holding) fun checked => ?_
  cases checked with
  | error error => exact ends_discard holding
  | ok _ =>
    refine ends_after holding (passes_validate _ running (by simp [present])) fun replacement => ?_
    refine ends_after holding (passes_checkRecovery holding) fun checked => ?_
    cases checked with
    | error error => exact ends_discard holding
    | ok _ =>
      cases replacement with
      | error error => exact ends_discard holding
      | ok identity =>
        refine ends_after holding (passes_applyIdentity _ identity) fun applied => ?_
        cases applied with
        | error error => exact ends_discard holding
        | ok session => exact ends_finishRecovery holding

theorem ends_finishRotation {grant : TwitchTokenGrant} (holding : progress.Holding transaction.id)
    (rotated : progress.rotated = true) :
    Ends progress (Recovery.finishRotation transaction grant) transaction.id := by
  refine ends_after holding (passes_checkRecovery holding) fun checked => ?_
  cases checked with
  | error error => exact ends_discard holding
  | ok _ =>
    refine ends_after holding (passes_expiry _) fun expires => ?_
    cases expires with
    | error error => exact ends_discard holding
    | ok time =>
      refine ⟨⟨holding, rotated⟩, fun persisted => ?_⟩
      cases persisted with
      | error error => exact ends_discard holding
      | ok _ => exact ends_validateRotated rfl holding

theorem ends_rotate (holding : progress.Holding transaction.id) (first : progress.refreshed = false)
    (fresh : progress.rotated = false) (lent : progress.transaction = some transaction) :
    Ends progress (Recovery.rotate transaction) transaction.id := by
  refine ends_after holding (passes_checkRecovery holding) fun checked => ?_
  cases checked with
  | error error => exact ends_restore holding fresh lent
  | ok _ =>
    refine ⟨⟨holding.1, first, transaction, lent, rfl⟩, fun refreshed => ?_⟩
    rcases refreshed with (error | _) | grant
    · exact ends_either _ _ holding fresh lent
    · exact .inl ⟨rfl, holding⟩
    · exact ends_finishRotation holding rfl

theorem ends_recoverCurrent (holding : progress.Holding transaction.id)
    (first : progress.refreshed = false) (fresh : progress.rotated = false)
    (lent : progress.transaction = some transaction) :
    Ends progress (Recovery.recoverCurrent transaction) transaction.id := by
  refine ends_after holding (passes_checkRecovery holding) fun checked => ?_
  cases checked with
  | error error => exact ends_restore holding fresh lent
  | ok _ =>
    refine ends_after holding (passes_validate _ holding.1 (by simp [lent])) fun validated => ?_
    refine ends_after holding (passes_checkRecovery holding) fun checked => ?_
    cases checked with
    | error error => exact ends_restore holding fresh lent
    | ok _ =>
      cases validated with
      | ok identity =>
        refine ends_after holding (passes_applyIdentity _ identity) fun applied => ?_
        cases applied with
        | error error => exact ends_discard holding
        | ok session => exact ends_finishRecovery holding
      | error error =>
        dsimp only
        split
        · exact ends_rotate holding first fresh lent
        · exact ends_either _ _ holding fresh lent

end rules

/-- How a recovery has ended. -/
def Progress.Closed (progress : Progress) : Prop :=
  progress.transaction = none ∨ progress.ended = true

/-- A recovery keeps to its transaction, puts the session back only as it took it out and only
while its refresh token cannot have been spent, and never returns with the transaction open. -/
theorem follows_recover (rejected : TwitchDeliverySession) :
    RecoveryFollows (fun after _ => after.Closed)
      (fun after fault => fault ≠ .panicked ∧ after.Closed) {} (recover rejected) := by
  refine ⟨trivial, fun stopped => ⟨rfl, fun begun => ?_⟩⟩
  rcases begun with error | lease | transaction
  · exact ⟨failed_ne, .inl rfl⟩
  · exact .inl rfl
  · have holding : ({ transaction := some transaction } : Progress).Holding transaction.id :=
      ⟨rfl, transaction, rfl, rfl⟩
    refine Dialogue.Follows.settle _ _ (ends_recoverCurrent holding rfl rfl rfl) ?_ ?_
    · intro after lease ended
      exact .inr ended
    · rintro after fault (⟨rfl, holding⟩ | ⟨differs, ended⟩)
      · refine ⟨holding, fun discarded => ⟨failed_ne, .inr rfl⟩⟩
      · cases fault with
        | panicked => exact absurd rfl differs
        | failed error => exact ⟨failed_ne, .inr ended⟩

/-- The session that a recovery was given, with its transaction. -/
def begun : RecoveryEntry → Option TwitchSessionTransaction
  | ⟨.owner (.beginRecovery _ _), .ok (.inr transaction)⟩ => some transaction
  | _ => none

def refreshes : RecoveryEntry → Bool
  | ⟨.refreshAccessToken _, _⟩ => true
  | _ => false

/-- A refresh that was granted or panicked, or a save. One that was answered with an error is
none, though it may be its answer that was lost. -/
def rotates : RecoveryEntry → Bool
  | ⟨.refreshAccessToken _, .error (.failed _)⟩ => false
  | ⟨.refreshAccessToken _, _⟩ => true
  | ⟨.owner (.persistPending _ _), _⟩ => true
  | _ => false

/-- The transaction is over, whether the store went along or not. -/
def ends : RecoveryEntry → Bool
  | ⟨.owner (.commit _ _), .ok _⟩ => true
  | ⟨.owner (.restore _ _), _⟩ => true
  | ⟨.owner (.discard _ _), _⟩ => true
  | _ => false

theorem Progress.note_fields (progress : Progress) (entry : RecoveryEntry) :
    (progress.note entry).transaction = (begun entry).or progress.transaction ∧
      (progress.note entry).refreshed = (progress.refreshed || refreshes entry) ∧
      (progress.note entry).rotated = (progress.rotated || rotates entry) ∧
      (progress.note entry).ended = (progress.ended || ends entry) := by
  unfold Progress.note
  split <;> simp [begun, refreshes, rotates, ends]

/-- The progress is what the entries tell one by one. -/
theorem Progress.of_past (past : RecoveryExchange) :
    (∀ transaction, (past.foldl Progress.note {}).transaction = some transaction →
      ∃ entry ∈ past, begun entry = some transaction) ∧
    ((past.foldl Progress.note {}).transaction = none → ∀ entry ∈ past, begun entry = none) ∧
    (past.foldl Progress.note {}).refreshed = past.any refreshes ∧
    (past.foldl Progress.note {}).rotated = past.any rotates ∧
    (past.foldl Progress.note {}).ended = past.any ends := by
  induction past using List.reverseRecOn with
  | nil => simp
  | append_singleton past entry ih =>
    obtain ⟨some, nothing, refreshed, rotated, ended⟩ := ih
    obtain ⟨given, refreshes, rotates, ends⟩ := (past.foldl Progress.note {}).note_fields entry
    simp only [List.foldl_append, List.foldl_cons, List.foldl_nil, List.any_append, List.any_cons,
      List.any_nil, Bool.or_false, given, refreshes, rotates, ends, refreshed, rotated, ended,
      and_true]
    constructor
    · intro transaction present
      cases found : begun entry with
      | some found' =>
        rw [found, Option.some_or] at present
        exact ⟨entry, by simp, found.trans present⟩
      | none =>
        rw [found, Option.none_or] at present
        obtain ⟨earlier, member, gives⟩ := some transaction present
        exact ⟨earlier, List.mem_append_left _ member, gives⟩
    · intro none found member
      rw [Option.or_eq_none_iff] at none
      rcases List.mem_append.mp member with earlier | last
      · exact nothing none.2 found earlier
      · rw [List.mem_singleton.mp last]
        exact none.1

/-- A recovery puts back nothing but the session that it took out, and only before a refresh is
granted or another session saved. It asks for one refresh at most, and does not return before it
has asked the owner to end its transaction. -/
theorem recovery_never_restores_rotated (rejected : TwitchDeliverySession) {said : RecoveryExchange}
    {rest : Recovery TwitchDeliverySession}
    (run : Dialogue.Reaches (recover rejected) said rest) :
    EachAfter (fun past entry =>
      (∀ id session, entry.1 = .owner (.restore id session) →
        (∀ earlier ∈ past, rotates earlier = false) ∧
          ∃ earlier ∈ past, begun earlier = some ⟨id, session⟩) ∧
      (refreshes entry = true → ∀ earlier ∈ past, refreshes earlier = false)) said ∧
    ((∃ question next, rest = Dialogue.ask question next) ∨
      (∀ entry ∈ said, begun entry = none) ∨ ∃ entry ∈ said, ends entry = true) := by
  have follows := follows_recover rejected
  constructor
  · intro past entry later same
    have allowed : (past.foldl Progress.note {}).Allows entry.1 :=
      follows.each run past entry later same
    obtain ⟨lent, _, refreshed, rotated, _⟩ := Progress.of_past past
    constructor
    · intro id session called
      rw [called] at allowed
      obtain ⟨_, fresh, present⟩ := allowed
      rw [rotated, List.any_eq_false] at fresh
      exact ⟨fun earlier member => by simpa using fresh earlier member, lent _ present⟩
    · intro asks earlier member
      obtain ⟨question, answer⟩ := entry
      cases question with
      | refreshAccessToken token =>
        obtain ⟨_, first, _⟩ := allowed
        rw [refreshed, List.any_eq_false] at first
        simpa using first earlier member
      | _ => cases asks
  · have reached := follows.later run
    obtain ⟨_, nothing, _, _, ended⟩ := Progress.of_past said
    have closes : (said.foldl Progress.note {}).Closed →
        (∀ entry ∈ said, begun entry = none) ∨ ∃ entry ∈ said, ends entry = true := by
      rintro (none | closed)
      · exact .inl (nothing none)
      · rw [ended, List.any_eq_true] at closed
        exact .inr closed
    cases rest with
    | done lease => exact .inr (closes reached)
    | fail fault => exact .inr (closes reached.2)
    | pending => exact reached.elim
    | ask question next => exact .inl ⟨question, next, rfl⟩

/-! The rejected token is refreshed, but the answer is lost. The session is put back. -/

def rejectedToken : TwitchError :=
  { TwitchError.failed .validate .httpStatus with disposition := .reconnect, httpStatus := some 401 }

def lostAnswer : TwitchError :=
  { TwitchError.failed .refresh .transport with
    disposition := .retry, httpError := some .receiveFailed }

def takenOut : RecoveryExchange :=
  [⟨.stopRequested, false⟩,
    ⟨.owner (.beginRecovery (lease shortSession 1) false), .ok (.inr ⟨2, shortSession⟩)⟩]

def checked : RecoveryExchange := [⟨.stopRequested, false⟩, ⟨.owner (.check 2), .ok ()⟩]

def lostRefresh : RecoveryExchange :=
  takenOut ++ (checked ++ ([⟨.validateAccessToken [65], .error (.failed rejectedToken)⟩] ++
    (checked ++ (checked ++ [⟨.refreshAccessToken [66], .error (.failed lostAnswer)⟩]))))

theorem reaches_lostRefresh : Dialogue.Reaches (recover (lease shortSession 1))
    (lostRefresh ++ [⟨.owner (.restore 2 shortSession), .ok ()⟩])
    (.fail (.failed (.ofTwitch lostAnswer))) := by
  iterate 11 apply Dialogue.Reaches.cons
  exact Dialogue.Reaches.nil

theorem recovery_never_restores_rotated_sample :
    (lostRefresh.any refreshes = true ∧ ∀ earlier ∈ lostRefresh, rotates earlier = false) ∧
      (∃ earlier ∈ lostRefresh, begun earlier = some ⟨2, shortSession⟩) ∧
      ∃ entry ∈ lostRefresh ++ [⟨.owner (.restore 2 shortSession), .ok ()⟩], ends entry = true := by
  obtain ⟨each, closed⟩ := recovery_never_restores_rotated _ reaches_lostRefresh
  have restored := (each lostRefresh _ [] rfl).1 2 shortSession rfl
  refine ⟨⟨rfl, restored.1⟩, restored.2, ?_⟩
  rcases closed with ⟨question, next, asks⟩ | none | ended
  · cases asks
  · obtain ⟨entry, member, given⟩ := restored.2
    rw [none entry (List.mem_append_left _ member)] at given
    cases given
  · exact ended

end TwitchSessionOwner
end MannyUploader.Application
