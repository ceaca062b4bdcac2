import Mathlib.Data.List.Basic

/-! Commands over a state that may fail half way. What a command did to the state before it
failed stays done. The rules of pre- and postconditions follow the commands. -/
namespace MannyUploader.Foundation

def Stateful (σ ε α : Type) : Type := σ → Except ε α × σ

namespace Stateful
variable {σ ε ε' α β : Type}

instance : Monad (Stateful σ ε) where
  pure value := fun state => (.ok value, state)
  bind step next := fun state =>
    match step state with
    | (.ok value, state) => next value state
    | (.error error, state) => (.error error, state)

instance : MonadStateOf σ (Stateful σ ε) where
  get := fun state => (.ok state, state)
  set state := fun _ => (.ok (), state)
  modifyGet change := fun state => (.ok (change state).1, (change state).2)

def fail (error : ε) : Stateful σ ε α := fun state => (.error error, state)

/-- A command under a condition. -/
def onlyIf (condition : Prop) [Decidable condition] (step : Stateful σ ε Unit) : Stateful σ ε Unit :=
  if condition then step else pure ()

/-- The answer of a command, failures included. -/
def attempt (step : Stateful σ ε α) : Stateful σ ε' (Except ε α) := fun state =>
  (.ok (step state).1, (step state).2)

/-- The command, with its errors under another name. -/
def wrapping (wrap : ε → ε') (step : Stateful σ ε α) : Stateful σ ε' α := fun state =>
  ((step state).1.mapError wrap, (step state).2)

/-- A command on a part of the state. -/
def onPart {ρ : Type} (part : σ → ρ) (put : ρ → σ → σ) (step : Stateful ρ ε α) :
    Stateful σ ε α := fun state =>
  ((step (part state)).1, put (step (part state)).2 state)

theorem bind_apply (step : Stateful σ ε α) (next : α → Stateful σ ε β) (state : σ) :
    (step >>= next) state = match step state with
      | (.ok value, state) => next value state
      | (.error error, state) => (.error error, state) := rfl

/-- From a state that meets `pre`, a command that succeeds ends as `post` says, and one that
fails as `failed` says. -/
def Triple (pre : σ → Prop) (step : Stateful σ ε α) (post : α → σ → Prop)
    (failed : ε → σ → Prop) : Prop :=
  ∀ state, pre state → (∀ value, (step state).1 = .ok value → post value (step state).2) ∧
    ∀ error, (step state).1 = .error error → failed error (step state).2

/-- Whether it fails or not, the command keeps the condition. -/
def Keeps (inv : σ → Prop) (step : Stateful σ ε α) : Prop :=
  Triple inv step (fun _ => inv) fun _ => inv

namespace Triple
variable {pre pre' : σ → Prop} {step : Stateful σ ε α} {next : α → Stateful σ ε β}
  {post mid : α → σ → Prop} {after : β → σ → Prop} {failed : ε → σ → Prop}

theorem pure {value : α} (h : ∀ state, pre state → post value state) :
    Triple pre (pure value : Stateful σ ε α) post failed := by
  intro state before
  constructor
  · intro found same
    cases same
    exact h state before
  · intro error same
    cases same

theorem fail {error : ε} (h : ∀ state, pre state → failed error state) :
    Triple pre (fail error : Stateful σ ε α) post failed := by
  intro state before
  constructor
  · intro value same
    cases same
  · intro found same
    cases same
    exact h state before

theorem bind (first : Triple pre step mid failed)
    (second : ∀ value, Triple (mid value) (next value) after failed) :
    Triple pre (step >>= next) after failed := by
  intro state before
  obtain ⟨succeeds, fails⟩ := first state before
  rw [bind_apply]
  cases outcome : step state with
  | mk answer reached =>
    rw [outcome] at succeeds fails
    cases answer with
    | ok value => exact second value reached (succeeds value rfl)
    | error error =>
      constructor
      · intro value same
        cases same
      · intro found same
        cases same
        exact fails error rfl

/-- A command is read with the state at hand. -/
theorem of_state (h : ∀ state, pre state → Triple (· = state) step post failed) :
    Triple pre step post failed :=
  fun state before => h state before state rfl

theorem get_bind {next : σ → Stateful σ ε β}
    (h : ∀ state, pre state → Triple (· = state) (next state) after failed) :
    Triple pre (get >>= next) after failed :=
  fun state before => h state before state rfl

theorem set_bind {value : σ} {next : PUnit → Stateful σ ε β}
    (h : Triple (· = value) (next ⟨⟩) after failed) :
    Triple pre ((set value : Stateful σ ε PUnit) >>= next) after failed :=
  fun _ _ => h value rfl

theorem modify_bind {change : σ → σ} {next : Unit → Stateful σ ε β}
    (h : ∀ state, pre state → Triple (· = change state) (next ()) after failed) :
    Triple pre ((modify change : Stateful σ ε Unit) >>= next) after failed :=
  fun state before => h state before (change state) rfl

theorem modify {change : σ → σ} {after : Unit → σ → Prop}
    (h : ∀ state, pre state → after () (change state)) :
    Triple pre (modify change : Stateful σ ε Unit) after failed := by
  intro state before
  constructor
  · intro value same
    cases same
    exact h state before
  · intro error same
    cases same

theorem weaken {post' : α → σ → Prop} {failed' : ε → σ → Prop}
    (h : Triple pre step post failed) (strengthen : ∀ state, pre' state → pre state)
    (succeeds : ∀ value state, post value state → post' value state)
    (fails : ∀ error state, failed error state → failed' error state) :
    Triple pre' step post' failed' := by
  intro state before
  obtain ⟨ok, error⟩ := h state (strengthen state before)
  exact ⟨fun value same => succeeds value _ (ok value same),
    fun found same => fails found _ (error found same)⟩

theorem ite {condition : Prop} [Decidable condition] {other : Stateful σ ε α}
    (yes : condition → Triple pre step post failed)
    (no : ¬condition → Triple pre other post failed) :
    Triple pre (if condition then step else other) post failed := by
  split
  · exact yes (by assumption)
  · exact no (by assumption)

theorem onlyIf {condition : Prop} [Decidable condition] {step : Stateful σ ε Unit}
    {post : Unit → σ → Prop} (yes : condition → Triple pre step post failed)
    (no : ¬condition → ∀ state, pre state → post () state) :
    Triple pre (onlyIf condition step) post failed :=
  ite yes fun h => pure (no h)

theorem attempt {failed' : ε' → σ → Prop} (h : Triple pre step post failed) :
    Triple pre (attempt step : Stateful σ ε' (Except ε α))
      (fun answer state => (∀ value, answer = .ok value → post value state) ∧
        ∀ error, answer = .error error → failed error state) failed' := by
  intro state before
  constructor
  · intro answer same
    cases same
    exact h state before
  · intro error same
    cases same

theorem wrapping {wrap : ε → ε'} {failed' : ε' → σ → Prop} (h : Triple pre step post failed)
    (fails : ∀ error state, failed error state → failed' (wrap error) state) :
    Triple pre (wrapping wrap step) post failed' := by
  intro state before
  obtain ⟨succeeds, failing⟩ := h state before
  unfold Stateful.wrapping
  cases answer : (step state).1 with
  | ok value =>
    constructor
    · intro found same
      cases same
      exact succeeds value answer
    · intro error same
      cases same
  | error error =>
    constructor
    · intro value same
      cases same
    · intro found same
      cases same
      exact fails error _ (failing error answer)

theorem onPart {ρ : Type} {part : σ → ρ} {put : ρ → σ → σ} {step : Stateful ρ ε α}
    (h : ∀ state, pre state → Triple (· = part state) step
      (fun value rest => post value (put rest state)) fun error rest => failed error (put rest state)) :
    Triple pre (onPart part put step) post failed :=
  fun state before => h state before (part state) rfl

end Triple

/-- What holds whether the command fails or not. -/
theorem Triple.apply {pre inv : σ → Prop} {step : Stateful σ ε α}
    (h : Triple pre step (fun _ => inv) fun _ => inv) {state : σ} (before : pre state) :
    inv (step state).2 := by
  obtain ⟨succeeds, fails⟩ := h state before
  cases answer : (step state).1 with
  | ok value => exact succeeds value answer
  | error error => exact fails error answer

theorem Keeps.apply {inv : σ → Prop} {step : Stateful σ ε α} (h : Keeps inv step) {state : σ}
    (before : inv state) : inv (step state).2 :=
  Triple.apply h before

end Stateful
end MannyUploader.Foundation
