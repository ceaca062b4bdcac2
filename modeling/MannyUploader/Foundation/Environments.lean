import MannyUploader.Foundation.Dialogue

/-! Dialogues in an environment that keeps rules of its own, such as a clock that goes on. What a
loop needs of its environment to end is said of the answers it gets. -/
namespace MannyUploader.Foundation.Dialogue
variable {Q : Type} {A : Q → Type} {ε α β : Type}

/-- The answers that an environment may give after an exchange. -/
abbrev Environment (Q : Type) (A : Q → Type) := Exchange Q A → (question : Q) → A question → Prop

variable (env : Environment Q A)

/-- Every answer of the exchange is one of the environment. -/
inductive Lawful : Exchange Q A → Exchange Q A → Prop
  | nil {past : Exchange Q A} : Lawful past []
  | cons {past said : Exchange Q A} {question : Q} {answer : A question} :
      env past question answer → Lawful (past ++ [⟨question, answer⟩]) said →
      Lawful past (⟨question, answer⟩ :: said)

/-- In the environment the dialogue asks only what it `may`, and ends with `post` before its loops
are unrolled. -/
def Ends (may : Exchange Q A → Q → Prop) (post : Exchange Q A → α → Prop) (past : Exchange Q A) :
    Dialogue Q A ε α → Prop
  | done value => post past value
  | fail _ => True
  | pending => False
  | ask question next => may past question ∧ ∀ answer, env past question answer →
      Ends may post (past ++ [⟨question, answer⟩]) (next answer)

namespace Ends
variable {env} {may : Exchange Q A → Q → Prop} {post : Exchange Q A → α → Prop}
  {past said : Exchange Q A} {dialogue rest : Dialogue Q A ε α}

theorem later (h : Ends env may post past dialogue) (run : Reaches dialogue said rest)
    (lawful : Lawful env past said) : Ends env may post (past ++ said) rest := by
  induction run generalizing past with
  | nil => simpa using h
  | cons answer _ ih =>
    cases lawful with
    | cons allowed behind => simpa using ih (h.2 answer allowed) behind

/-- Whatever the environment answers, the loops come to their end. -/
theorem not_pending (h : Ends env may post [] dialogue) (run : Reaches dialogue said rest)
    (lawful : Lawful env [] said) : rest ≠ .pending := by
  intro same
  subst same
  exact h.later run lawful

theorem asked (h : Ends env may post [] dialogue) {question : Q}
    {next : A question → Dialogue Q A ε α} (run : Reaches dialogue said (ask question next))
    (lawful : Lawful env [] said) : may said question := (h.later run lawful).1

theorem bind (mid : Exchange Q A → β → Prop) {first : Dialogue Q A ε β}
    {next : β → Dialogue Q A ε α} (h : Ends env may mid past first)
    (after : ∀ past value, mid past value → Ends env may post past (next value)) :
    Ends env may post past (first >>= next) := by
  induction first generalizing past with
  | done value => exact after past value h
  | fail error => trivial
  | pending => exact h.elim
  | ask question rest ih => exact ⟨h.1, fun answer allowed => ih answer (h.2 answer allowed)⟩

theorem ite {condition : Prop} [Decidable condition] {other : Dialogue Q A ε α}
    (yes : condition → Ends env may post past dialogue)
    (no : ¬condition → Ends env may post past other) :
    Ends env may post past (if condition then dialogue else other) := by
  split
  · exact yes (by assumption)
  · exact no (by assumption)

end Ends

end MannyUploader.Foundation.Dialogue
