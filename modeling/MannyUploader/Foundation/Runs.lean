import Mathlib.Data.List.Induction
import Mathlib.Logic.Relation

/-! Runs of a machine that performs one operation at a time. A run records the
condition its operations met, so a property of every run and a property of the
runs that avoid one branch are proved by the same induction. -/
namespace MannyUploader.Foundation

/-- The states reached from `start` by operations that each met `allowed` in the
state they were performed in. -/
inductive Run {S Op : Type*} (step : S → Op → S) (allowed : S → Op → Prop) (start : S) : S → Prop
  | refl : Run step allowed start start
  | step {s : S} (op : Op) : Run step allowed start s → allowed s op →
      Run step allowed start (step s op)

namespace Run
variable {S Op : Type*} {step : S → Op → S} {allowed weaker : S → Op → Prop} {start s : S}

/-- What holds at the start and is kept by every allowed operation holds of every run. -/
theorem invariant {inv : S → Prop} (run : Run step allowed start s)
    (keeps : ∀ s op, allowed s op → inv s → inv (step s op)) (h : inv start) : inv s := by
  induction run with
  | refl => exact h
  | step op _ met ih => exact keeps _ op met ih

/-- Operations that are always allowed may be performed one after the other. -/
theorem of_list (step : S → Op → S) (start : S) (ops : List Op)
    (met : ∀ op ∈ ops, ∀ s, allowed s op) : Run step allowed start (ops.foldl step start) := by
  induction ops using List.reverseRecOn with
  | nil => exact .refl
  | append_singleton ops op ih =>
    rw [List.foldl_append, List.foldl_cons, List.foldl_nil]
    exact .step op (ih fun op member => met op (by simp [member])) (met op (by simp) _)

theorem mono (run : Run step allowed start s)
    (implies : ∀ s op, allowed s op → weaker s op) : Run step weaker start s := by
  induction run with
  | refl => exact .refl
  | step op _ met ih => exact .step op ih (implies _ op met)

/-- A machine whose operations are sequences of moves has runs that are sequences of moves. -/
theorem moves {move : S → S → Prop} (run : Run step allowed start s)
    (refines : ∀ s op, allowed s op → Relation.ReflTransGen move s (step s op)) :
    Relation.ReflTransGen move start s := by
  induction run with
  | refl => exact .refl
  | step op _ met ih => exact ih.trans (refines _ op met)

end Run

/-- The rule of invariants for a relation: one move preserves it, so any number does. -/
theorem invariant_of_moves {S : Type*} {move : S → S → Prop} {inv : S → Prop} {s s' : S}
    (moves : Relation.ReflTransGen move s s')
    (keeps : ∀ s s', move s s' → inv s → inv s') (h : inv s) : inv s' := by
  induction moves with
  | refl => exact h
  | tail _ last ih => exact keeps _ _ last ih

/-- A loop each of whose rounds is a sequence of moves is one itself. -/
theorem foldl_moves {S X : Type*} {move : S → S → Prop} {f : S → X → S}
    (round : ∀ s x, Relation.ReflTransGen move s (f s x)) (xs : List X) (s : S) :
    Relation.ReflTransGen move s (xs.foldl f s) := by
  induction xs generalizing s with
  | nil => exact .refl
  | cons x xs ih => exact (round s x).trans (ih (f s x))

end MannyUploader.Foundation
