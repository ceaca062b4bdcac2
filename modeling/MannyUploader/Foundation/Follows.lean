import MannyUploader.Foundation.CommandQueue
import MannyUploader.Foundation.Dialogue

/-! A dialogue that follows a protocol. What was said so far is summed up in a state, and the
state says which questions may come next and how the dialogue may end. It does end. -/
namespace MannyUploader.Foundation.Dialogue
variable {Q : Type} {A : Q → Type} {ε ε' α β S : Type}

def Follows (note : S → ((question : Q) × A question) → S) (allowed : S → Q → Prop)
    (post : S → α → Prop) (failed : S → ε → Prop) : S → Dialogue Q A ε α → Prop
  | state, done value => post state value
  | state, fail error => failed state error
  | _, pending => False
  | state, ask question next => allowed state question ∧
      ∀ answer, Follows note allowed post failed (note state ⟨question, answer⟩) (next answer)

namespace Follows
variable {note : S → ((question : Q) × A question) → S} {allowed : S → Q → Prop}
  {post : S → α → Prop} {failed : S → ε → Prop} {state : S} {dialogue rest : Dialogue Q A ε α}
  {said : Exchange Q A}

/-- The rest of the dialogue goes on from what was said. -/
theorem later (follows : Follows note allowed post failed state dialogue)
    (run : Reaches dialogue said rest) :
    Follows note allowed post failed (said.foldl note state) rest := by
  induction run generalizing state with
  | nil => exact follows
  | cons answer _ ih => exact ih (follows.2 answer)

theorem bind (mid : S → β → Prop) {first : Dialogue Q A ε β} {next : β → Dialogue Q A ε α}
    (follows : Follows note allowed mid failed state first)
    (after : ∀ state value, mid state value → Follows note allowed post failed state (next value)) :
    Follows note allowed post failed state (first >>= next) := by
  induction first generalizing state with
  | done value => exact after state value follows
  | fail error => exact follows
  | pending => exact follows
  | ask question rest ih => exact ⟨follows.1, fun answer => ih answer (follows.2 answer)⟩

theorem settle (mid : S → β → Prop) (lost : S → ε' → Prop) {first : Dialogue Q A ε' β}
    {next : Except ε' β → Dialogue Q A ε α} (follows : Follows note allowed mid lost state first)
    (succeeded : ∀ state value, mid state value →
      Follows note allowed post failed state (next (.ok value)))
    (lostIt : ∀ state error, lost state error →
      Follows note allowed post failed state (next (.error error))) :
    Follows note allowed post failed state (first.settle next) := by
  induction first generalizing state with
  | done value => exact succeeded state value follows
  | fail error => exact lostIt state error follows
  | pending => exact follows
  | ask question rest ih => exact ⟨follows.1, fun answer => ih answer (follows.2 answer)⟩

theorem weaken {post' : S → α → Prop} {failed' : S → ε → Prop}
    (follows : Follows note allowed post failed state dialogue)
    (ended : ∀ state value, post state value → post' state value)
    (lost : ∀ state error, failed state error → failed' state error) :
    Follows note allowed post' failed' state dialogue := by
  induction dialogue generalizing state with
  | done value => exact ended state value follows
  | fail error => exact lost state error follows
  | pending => exact follows
  | ask question rest ih => exact ⟨follows.1, fun answer => ih answer (follows.2 answer)⟩

/-- Each question is one that was allowed after what was said before it. -/
theorem each (follows : Follows note allowed post failed state dialogue)
    (run : Reaches dialogue said rest) :
    EachAfter (fun past entry => allowed (past.foldl note state) entry.1) said := by
  induction run generalizing state with
  | nil => exact eachAfter_nil
  | cons answer _ ih =>
    intro earlier entry later same
    cases earlier with
    | nil =>
      cases same
      exact follows.1
    | cons head earlier =>
      cases same
      exact ih (follows.2 answer) earlier entry later rfl

end Follows
end MannyUploader.Foundation.Dialogue
