import Mathlib.Data.List.Basic

/-! Atomic writes in a row that may end anywhere, inside of a write as well. -/
namespace MannyUploader.Foundation

section crashes
variable {P B W : Type} {content : P → W → Option B}

/-- A write, complete or not: the old content or the new one, and the other files as they
were. -/
structure Leaves (content : P → W → Option B) (path : P) (bytes : B) (before after : W) : Prop where
  whole : content path after = content path before ∨ content path after = some bytes
  others : ∀ other, other ≠ path → content other after = content other before

inductive CutShort (content : P → W → Option B) : List (P × B) → W → W → Prop
  | stop {writes : List (P × B)} {world : W} : CutShort content writes world world
  | write {path : P} {bytes : B} {rest : List (P × B)} {before world after : W} :
      Leaves content path bytes before world → CutShort content rest world after →
      CutShort content ((path, bytes) :: rest) before after

/-- Wherever it ends, a file has its old content or that of one of the writes to it. -/
theorem CutShort.content_or {writes : List (P × B)} {before after : W}
    (cut : CutShort content writes before after) (path : P) :
    content path after = content path before ∨
      ∃ bytes, (path, bytes) ∈ writes ∧ content path after = some bytes := by
  induction cut with
  | stop => exact .inl rfl
  | @write written new rest before world after leaves _ ih =>
    rcases ih with kept | ⟨bytes, later, holds⟩
    · by_cases same : path = written
      · subst same
        rcases leaves.whole with old | changed
        · exact .inl (kept.trans old)
        · exact .inr ⟨new, by simp, kept.trans changed⟩
      · exact .inl (kept.trans (leaves.others path same))
    · exact .inr ⟨bytes, List.mem_cons_of_mem _ later, holds⟩

end crashes

end MannyUploader.Foundation
