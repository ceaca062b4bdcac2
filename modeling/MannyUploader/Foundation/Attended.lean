import Mathlib.Data.List.Induction
import MannyUploader.Foundation.CommandQueue
import MannyUploader.Foundation.Dialogue

/-! A server that answers one question after the other, whoever asks. Between two questions
what it rests on may change on its own. -/
namespace MannyUploader.Foundation
open Dialogue
variable {Q S : Type} {A : Q → Type}

/-- The server stands at the state after the exchange. Each question was one that `may` be
asked after what was said before. -/
inductive Attended (serve : (question : Q) → S → A question × S) (shifts : S → S → Prop)
    (may : Exchange Q A → Q → Prop) (start : S) : Exchange Q A → S → Prop
  | start : Attended serve shifts may start [] start
  | ask (question : Q) : Attended serve shifts may start said state → may said question →
      Attended serve shifts may start (said ++ [⟨question, (serve question state).1⟩])
        (serve question state).2
  | shift : Attended serve shifts may start said state → shifts state state' →
      Attended serve shifts may start said state'

namespace Attended
variable {serve : (question : Q) → S → A question × S} {shifts : S → S → Prop}
  {may weaker : Exchange Q A → Q → Prop} {start state : S} {said : Exchange Q A}

/-- What holds before the first question, and is kept by each answer and by what changes in
between, holds throughout. -/
theorem invariant (run : Attended serve shifts may start said state) (inv : Exchange Q A → S → Prop)
    (first : inv [] start)
    (asked : ∀ said state question, may said question → inv said state →
      inv (said ++ [⟨question, (serve question state).1⟩]) (serve question state).2)
    (shifted : ∀ said state state', shifts state state' → inv said state → inv said state') :
    inv said state := by
  induction run with
  | start => exact first
  | ask question _ allowed ih => exact asked _ _ question allowed ih
  | shift _ change ih => exact shifted _ _ _ change ih

/-- What each answer is, given what holds before it, is so of every entry of the exchange. -/
theorem each {holds : Exchange Q A → ((question : Q) × A question) → Prop}
    (run : Attended serve shifts may start said state) (inv : Exchange Q A → S → Prop) (first : inv [] start)
    (asked : ∀ said state question, may said question → inv said state →
      inv (said ++ [⟨question, (serve question state).1⟩]) (serve question state).2 ∧
        holds said ⟨question, (serve question state).1⟩)
    (shifted : ∀ said state state', shifts state state' → inv said state → inv said state') :
    EachAfter holds said := by
  have both : inv said state ∧ EachAfter holds said := by
    apply run.invariant (fun said state => inv said state ∧ EachAfter holds said)
      ⟨first, eachAfter_nil⟩
    · rintro said state question allowed ⟨before, old⟩
      obtain ⟨after, new⟩ := asked said state question allowed before
      exact ⟨after, eachAfter_snoc old new⟩
    · rintro said state state' change ⟨before, old⟩
      exact ⟨shifted said state state' change before, old⟩
  exact both.2

end Attended

/-- What is said when the questions are asked one after the other, and where the server stands. -/
def converse (serve : (question : Q) → S → A question × S) (start : S) (questions : List Q) :
    Exchange Q A × S :=
  questions.foldl (fun reached question =>
    (reached.1 ++ [⟨question, (serve question reached.2).1⟩], (serve question reached.2).2))
    ([], start)

theorem Attended.of_converse {serve : (question : Q) → S → A question × S} {shifts : S → S → Prop}
    {may : Exchange Q A → Q → Prop} (start : S) (questions : List Q)
    (allowed : ∀ said, ∀ question ∈ questions, may said question) :
    Attended serve shifts may start (converse serve start questions).1
      (converse serve start questions).2 := by
  induction questions using List.reverseRecOn with
  | nil => exact .start
  | append_singleton questions question ih =>
    unfold converse
    rw [List.foldl_append, List.foldl_cons, List.foldl_nil]
    exact (ih fun said earlier member => allowed said earlier (by simp [member])).ask question
      (allowed _ question (by simp))

end MannyUploader.Foundation
