import MannyUploader.Foundation.Follows

/-! Programs with a state of their own that ask their environment. A program that fails leaves
its state behind as well. What it has said is summed up apart from that state, and the rules
say of both where the program goes. -/
namespace MannyUploader.Foundation
open Dialogue

def Agent (σ Q : Type) (A : Q → Type) (ε α : Type) : Type :=
  σ → Dialogue Q A (ε × σ) (α × σ)

namespace Agent
variable {σ Q S : Type} {A : Q → Type} {ε ε' α β : Type}

instance : Monad (Agent σ Q A ε) where
  pure value := fun own => .done (value, own)
  bind step next := fun own => (step own).bind fun out => next out.1 out.2

instance : MonadStateOf σ (Agent σ Q A ε) where
  get := fun own => .done (own, own)
  set own := fun _ => .done ((), own)
  modifyGet change := fun own => .done (change own)

def fail (error : ε) : Agent σ Q A ε α := fun own => .fail (error, own)

def ask (question : Q) : Agent σ Q A ε (A question) := fun own =>
  .ask question fun answer => .done (answer, own)

/-- The outcome of a program, failures included. -/
def attempt (step : Agent σ Q A ε α) : Agent σ Q A ε' (Except ε α) := fun own =>
  (step own).settle fun
    | .ok out => .done (.ok out.1, out.2)
    | .error lost => .done (.error lost.1, lost.2)

section rules
variable (note : S → ((question : Q) × A question) → S) (allowed : S → Q → Prop)

/-- From its own state, and after what was said, the program asks what is allowed and ends as
`post` and `failed` say. -/
def Acts (post : α → σ → S → Prop) (failed : ε → σ → S → Prop) (own : σ) (told : S)
    (step : Agent σ Q A ε α) : Prop :=
  Follows note allowed (fun told out => post out.1 out.2 told)
    (fun told lost => failed lost.1 lost.2 told) told (step own)

namespace Acts
variable {note : S → ((question : Q) × A question) → S} {allowed : S → Q → Prop}
  {post : α → σ → S → Prop} {failed : ε → σ → S → Prop} {own : σ} {told : S}
  {step other : Agent σ Q A ε α}

theorem fail {error : ε} (h : failed error own told) :
    Acts note allowed post failed own told (fail error) := h

theorem bind (mid : β → σ → S → Prop) {first : Agent σ Q A ε β} {next : β → Agent σ Q A ε α}
    (acts : Acts note allowed mid failed own told first)
    (after : ∀ value own told, mid value own told →
      Acts note allowed post failed own told (next value)) :
    Acts note allowed post failed own told (first >>= next) :=
  Follows.bind _ acts fun told out reached => after out.1 out.2 told reached

theorem get_bind {next : σ → Agent σ Q A ε α}
    (h : Acts note allowed post failed own told (next own)) :
    Acts note allowed post failed own told (get >>= next) := h

theorem modify_bind {change : σ → σ} {next : Unit → Agent σ Q A ε α}
    (h : Acts note allowed post failed (change own) told (next ())) :
    Acts note allowed post failed own told ((modify change : Agent σ Q A ε Unit) >>= next) := h

theorem modify {change : σ → σ} {post : Unit → σ → S → Prop} (h : post () (change own) told) :
    Acts note allowed post failed own told (modify change : Agent σ Q A ε Unit) := h

theorem ask_bind {question : Q} {next : A question → Agent σ Q A ε α}
    (may : allowed told question) (rest : ∀ answer,
      Acts note allowed post failed own (note told ⟨question, answer⟩) (next answer)) :
    Acts note allowed post failed own told (ask question >>= next) := ⟨may, rest⟩

theorem ite {condition : Prop} [Decidable condition]
    (yes : condition → Acts note allowed post failed own told step)
    (no : ¬condition → Acts note allowed post failed own told other) :
    Acts note allowed post failed own told (if condition then step else other) := by
  split
  · exact yes (by assumption)
  · exact no (by assumption)

theorem attempt_bind (mid : β → σ → S → Prop) (lost : ε' → σ → S → Prop)
    {first : Agent σ Q A ε' β} {next : Except ε' β → Agent σ Q A ε α}
    (acts : Acts note allowed mid lost own told first)
    (succeeded : ∀ value own told, mid value own told →
      Acts note allowed post failed own told (next (.ok value)))
    (lostIt : ∀ error own told, lost error own told →
      Acts note allowed post failed own told (next (.error error))) :
    Acts note allowed post failed own told (attempt first >>= next) := by
  apply bind fun outcome own told =>
    (∀ value, outcome = .ok value → mid value own told) ∧
      ∀ error, outcome = .error error → lost error own told
  · apply Follows.settle _ _ acts
    · intro told out reached
      constructor
      · intro value same
        cases same
        exact reached
      · intro error same
        cases same
    · intro told gone reached
      constructor
      · intro value same
        cases same
      · intro error same
        cases same
        exact reached
  · rintro (error | value) own told ⟨ok, failing⟩
    · exact lostIt error own told (failing error rfl)
    · exact succeeded value own told (ok value rfl)

theorem weaken {post' : α → σ → S → Prop} {failed' : ε → σ → S → Prop}
    (acts : Acts note allowed post failed own told step)
    (ended : ∀ value own told, post value own told → post' value own told)
    (lost : ∀ error own told, failed error own told → failed' error own told) :
    Acts note allowed post' failed' own told step :=
  Follows.weaken acts (fun told out reached => ended out.1 out.2 told reached)
    fun told gone reached => lost gone.1 gone.2 told reached

end Acts
end rules
end Agent
end MannyUploader.Foundation
