import MannyUploader.Foundation.Dialogue

/-! What a dialogue gives when it gives something, whatever it is answered. -/
namespace MannyUploader.Foundation.Dialogue
variable {Q : Type} {A : Q → Type} {ε ε' α β : Type}

/-- Every value that the dialogue may end with is one of those. -/
def Yields (post : α → Prop) : Dialogue Q A ε α → Prop
  | done value => post value
  | fail _ | pending => True
  | ask _ next => ∀ answer, Yields post (next answer)

namespace Yields
variable {post : α → Prop} {dialogue : Dialogue Q A ε α}

theorem of_reaches {said : Exchange Q A} {value : α} (yields : Yields post dialogue)
    (run : Reaches dialogue said (done value)) : post value := by
  induction said generalizing dialogue with
  | nil =>
    cases run
    exact yields
  | cons head rest ih =>
    cases run with
    | cons answer run => exact ih (yields answer) run

theorem anything (dialogue : Dialogue Q A ε α) : Yields (fun _ => True) dialogue := by
  induction dialogue with
  | done | fail | pending => trivial
  | ask question next ih => exact ih

theorem bind (mid : β → Prop) {first : Dialogue Q A ε β} {next : β → Dialogue Q A ε α}
    (yields : Yields mid first) (after : ∀ value, mid value → Yields post (next value)) :
    Yields post (first >>= next) := by
  induction first with
  | done value => exact after value yields
  | fail | pending => trivial
  | ask question rest ih => exact fun answer => ih answer (yields answer)

/-- Whatever the first part gives, the rest yields what is wanted. -/
theorem after {first : Dialogue Q A ε β} {next : β → Dialogue Q A ε α}
    (after : ∀ value, Yields post (next value)) : Yields post (first >>= next) :=
  bind (fun _ => True) (anything first) fun value _ => after value

theorem settle (mid : β → Prop) {first : Dialogue Q A ε' β}
    {next : Except ε' β → Dialogue Q A ε α} (yields : Yields mid first)
    (succeeded : ∀ value, mid value → Yields post (next (.ok value)))
    (failed : ∀ error, Yields post (next (.error error))) : Yields post (first.settle next) := by
  induction first with
  | done value => exact succeeded value yields
  | fail error => exact failed error
  | pending => trivial
  | ask question rest ih => exact fun answer => ih answer (yields answer)

theorem mapError (change : ε → ε') (yields : Yields post dialogue) :
    Yields post (dialogue.mapError change) :=
  settle post yields (fun _ found => found) fun _ => trivial

end Yields
end MannyUploader.Foundation.Dialogue
