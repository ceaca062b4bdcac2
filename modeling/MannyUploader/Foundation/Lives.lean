import Mathlib.Data.List.Basic

/-! A program that is started again and again, and may stop anywhere. Each life begins with what
the one before it left in the store. -/
namespace MannyUploader.Foundation

section lives
variable {D E K : Type*}

/-- Lives in a row, with what is stored before the first and after the last. -/
inductive Lives (life : D → List E → D → Prop) : D → List (List E) → D → Prop
  | none {stored : D} : Lives life stored [] stored
  | cons {before between after : D} {events : List E} {later : List (List E)} :
      life before events between → Lives life between later after →
      Lives life before (events :: later) after

/-- The store keeps what it knows and learns what is handed out, and no life takes up what was
known before it. -/
structure Careful (life : D → List E → D → Prop) (knows : K → D → Prop) (hands takes : K → E → Prop) :
    Prop where
  keeps : ∀ before events after, life before events after → ∀ key, knows key before → knows key after
  learns : ∀ before events after, life before events after →
    ∀ key, ∀ event ∈ events, hands key event → knows key after
  skips : ∀ before events after, life before events after →
    ∀ key, knows key before → ∀ event ∈ events, ¬takes key event

variable {life : D → List E → D → Prop} {knows : K → D → Prop} {hands takes : K → E → Prop}
  {before after : D} {lives : List (List E)}

theorem Lives.skips (careful : Careful life knows hands takes) (lived : Lives life before lives after)
    {key : K} (known : knows key before) : ∀ events ∈ lives, ∀ event ∈ events, ¬takes key event := by
  induction lived with
  | none =>
    intro events member
    cases member
  | @cons before between after events later first _ ih =>
    have still := careful.keeps before events between first key known
    intro found member
    rcases List.mem_cons.mp member with rfl | member
    · exact careful.skips before found between first key known
    · exact ih still found member

/-- What one life hands out no later life takes up. -/
theorem Lives.handed_once (careful : Careful life knows hands takes)
    (lived : Lives life before lives after) :
    lives.Pairwise fun earlier later =>
      ∀ key, (∃ event ∈ earlier, hands key event) → ∀ event ∈ later, ¬takes key event := by
  induction lived with
  | none => exact List.Pairwise.nil
  | @cons before between after events later first rest ih =>
    apply List.Pairwise.cons _ ih
    rintro found member key ⟨event, inside, handed⟩
    have known := careful.learns before events between first key event inside handed
    exact rest.skips careful known found member

end lives
end MannyUploader.Foundation
