import Mathlib.Data.List.Basic

/-! Programs that ask their environment questions and go on with whatever it answers. What
such a program may ask, and how it may end, is said of the exchange that led there. -/
namespace MannyUploader.Foundation

/-- A loop is unrolled a number of times. Where that ends it, the program is `pending`. -/
inductive Dialogue (Q : Type) (A : Q → Type) (ε α : Type)
  | done (value : α)
  | fail (error : ε)
  | pending
  | ask (question : Q) (next : A question → Dialogue Q A ε α)

namespace Dialogue
variable {Q : Type} {A : Q → Type} {ε ε' α β : Type}

def bind (next : α → Dialogue Q A ε β) : Dialogue Q A ε α → Dialogue Q A ε β
  | done value => next value
  | fail error => fail error
  | pending => pending
  | ask question rest => ask question fun answer => (rest answer).bind next

instance : Monad (Dialogue Q A ε) where
  pure := done
  bind dialogue next := dialogue.bind next

theorem done_bind (value : α) (next : α → Dialogue Q A ε β) :
    (done value >>= next) = next value := rfl

/-- Go on with the outcome, failures included. -/
def settle (next : Except ε α → Dialogue Q A ε' β) : Dialogue Q A ε α → Dialogue Q A ε' β
  | done value => next (.ok value)
  | fail error => next (.error error)
  | pending => pending
  | ask question rest => ask question fun answer => (rest answer).settle next

def mapError (change : ε → ε') (dialogue : Dialogue Q A ε α) : Dialogue Q A ε' α :=
  dialogue.settle fun
    | .ok value => done value
    | .error error => fail (change error)

/-- What was asked and answered, oldest first. -/
abbrev Exchange (Q : Type) (A : Q → Type) := List ((question : Q) × A question)

/-- After the exchange the dialogue goes on as `rest`. -/
inductive Reaches : Dialogue Q A ε α → Exchange Q A → Dialogue Q A ε α → Prop
  | nil : Reaches dialogue [] dialogue
  | cons (answer : A question) : Reaches (next answer) said rest →
      Reaches (ask question next) (⟨question, answer⟩ :: said) rest

theorem Reaches.settle {first rest : Dialogue Q A ε α} {said : Exchange Q A}
    {next : Except ε α → Dialogue Q A ε' β} (run : Reaches first said rest) :
    Reaches (first.settle next) said (rest.settle next) := by
  induction run with
  | nil => exact .nil
  | cons answer _ ih => exact .cons answer ih

theorem Reaches.bind {first rest : Dialogue Q A ε α} {said : Exchange Q A}
    {next : α → Dialogue Q A ε β} (run : Reaches first said rest) :
    Reaches (first >>= next) said (rest >>= next) := by
  induction run with
  | nil => exact .nil
  | cons answer _ ih => exact .cons answer ih

/-- One exchange after the other. -/
theorem Reaches.trans {dialogue middle rest : Dialogue Q A ε α} {said more : Exchange Q A}
    (one : Reaches dialogue said middle) (two : Reaches middle more rest) :
    Reaches dialogue (said ++ more) rest := by
  induction one with
  | nil => exact two
  | cons answer _ ih => exact .cons answer (ih two)

theorem Reaches.split {dialogue rest : Dialogue Q A ε α} {said more : Exchange Q A}
    (run : Reaches dialogue (said ++ more) rest) :
    ∃ middle, Reaches dialogue said middle ∧ Reaches middle more rest := by
  induction said generalizing dialogue with
  | nil => exact ⟨dialogue, .nil, run⟩
  | cons call said ih =>
    cases run with
    | cons answer behind =>
      obtain ⟨middle, one, two⟩ := ih behind
      exact ⟨middle, .cons answer one, two⟩

/-- After what was said before, each question is one that `may` be asked, and the dialogue
ends as `post` or `failed` say. -/
def Holds (may : Exchange Q A → Q → Prop) (post : Exchange Q A → α → Prop)
    (failed : Exchange Q A → ε → Prop) (past : Exchange Q A) : Dialogue Q A ε α → Prop
  | done value => post past value
  | fail error => failed past error
  | pending => True
  | ask question next => may past question ∧
      ∀ answer, Holds may post failed (past ++ [⟨question, answer⟩]) (next answer)

namespace Holds
variable {may : Exchange Q A → Q → Prop} {post : Exchange Q A → α → Prop}
  {failed : Exchange Q A → ε → Prop} {past said : Exchange Q A} {dialogue rest : Dialogue Q A ε α}

/-- What holds of a dialogue holds of the rest of it. -/
theorem later (h : Holds may post failed past dialogue) (run : Reaches dialogue said rest) :
    Holds may post failed (past ++ said) rest := by
  induction run generalizing past with
  | nil => simpa using h
  | cons answer _ ih => simpa using ih (h.2 answer)

theorem done_of_reaches (h : Holds may post failed [] dialogue) {value : α}
    (run : Reaches dialogue said (done value)) : post said value := h.later run

theorem fail_of_reaches (h : Holds may post failed [] dialogue) {error : ε}
    (run : Reaches dialogue said (fail error)) : failed said error := h.later run

theorem ask_of_reaches (h : Holds may post failed [] dialogue) {question : Q}
    {next : A question → Dialogue Q A ε α} (run : Reaches dialogue said (ask question next)) :
    may said question := (h.later run).1

/-- What every allowed question keeps holds of every exchange. -/
theorem invariant (P : Exchange Q A → Prop) (h : Holds may post failed past dialogue)
    (step : ∀ past question answer, may past question → P past →
      P (past ++ [⟨question, answer⟩]))
    (run : Reaches dialogue said rest) (start : P past) : P (past ++ said) := by
  induction run generalizing past with
  | nil => simpa using start
  | cons answer _ ih => simpa using ih (h.2 answer) (step _ _ answer h.1 start)

theorem bind (mid : Exchange Q A → β → Prop) {first : Dialogue Q A ε β}
    {next : β → Dialogue Q A ε α} (h : Holds may mid failed past first)
    (after : ∀ past value, mid past value → Holds may post failed past (next value)) :
    Holds may post failed past (first >>= next) := by
  induction first generalizing past with
  | done value => exact after past value h
  | fail error => exact h
  | pending => trivial
  | ask question rest ih => exact ⟨h.1, fun answer => ih answer (h.2 answer)⟩

theorem settle (mid : Exchange Q A → β → Prop) (lost : Exchange Q A → ε' → Prop)
    {first : Dialogue Q A ε' β} {next : Except ε' β → Dialogue Q A ε α}
    (h : Holds may mid lost past first)
    (succeeded : ∀ past value, mid past value → Holds may post failed past (next (.ok value)))
    (lostIt : ∀ past error, lost past error → Holds may post failed past (next (.error error))) :
    Holds may post failed past (first.settle next) := by
  induction first generalizing past with
  | done value => exact succeeded past value h
  | fail error => exact lostIt past error h
  | pending => trivial
  | ask question rest ih => exact ⟨h.1, fun answer => ih answer (h.2 answer)⟩

theorem mapError (lost : Exchange Q A → ε' → Prop) {change : ε' → ε}
    {first : Dialogue Q A ε' α} (h : Holds may post lost past first)
    (changed : ∀ past error, lost past error → failed past (change error)) :
    Holds may post failed past (first.mapError change) :=
  settle post lost h (fun _ _ ended => ended) changed

theorem weaken {may' : Exchange Q A → Q → Prop} {post' : Exchange Q A → α → Prop}
    {failed' : Exchange Q A → ε → Prop} (h : Holds may post failed past dialogue)
    (asked : ∀ past question, may past question → may' past question)
    (ended : ∀ past value, post past value → post' past value)
    (lost : ∀ past error, failed past error → failed' past error) :
    Holds may' post' failed' past dialogue := by
  induction dialogue generalizing past with
  | done value => exact ended past value h
  | fail error => exact lost past error h
  | pending => trivial
  | ask question rest ih => exact ⟨asked past question h.1, fun answer => ih answer (h.2 answer)⟩

theorem ite {condition : Prop} [Decidable condition] {other : Dialogue Q A ε α}
    (yes : condition → Holds may post failed past dialogue)
    (no : ¬condition → Holds may post failed past other) :
    Holds may post failed past (if condition then dialogue else other) := by
  split
  · exact yes (by assumption)
  · exact no (by assumption)

end Holds

end Dialogue
end MannyUploader.Foundation
