import Mathlib.Data.List.Basic

/-! Lists from which only some elements may be removed. `splitFirst` finds an
element together with its surroundings, and `trim` removes the first removable
element for as long as the list is over its limit. -/
namespace MannyUploader.Foundation

theorem exists_of_forall₂ {r : α → β → Prop} {xs : List α} {ys : List β}
    (h : List.Forall₂ r xs ys) {y : β} (member : y ∈ ys) : ∃ x ∈ xs, r x y := by
  induction h with
  | nil => simp at member
  | cons head _ ih =>
    rcases List.mem_cons.mp member with rfl | later
    · exact ⟨_, by simp, head⟩
    · obtain ⟨x, hx, related⟩ := ih later
      exact ⟨x, by simp [hx], related⟩

section place
variable {xs before after : List α} {x : α} (found : xs = before ++ x :: after)
include found

theorem mem_of_without {y : α} (member : y ∈ before ++ after) : y ∈ xs := by
  rw [found]
  simp only [List.mem_append, List.mem_cons] at member ⊢
  tauto

/-- What holds of every element still does when one is replaced. -/
theorem forall_replaced {holds : α → Prop} {x' : α} (h : ∀ y ∈ xs, holds y)
    (replaced : holds x → holds x') : ∀ y ∈ before ++ x' :: after, holds y := by
  intro y member
  rw [found] at h
  simp only [List.mem_append, List.mem_cons] at member h
  rcases member with earlier | rfl | later
  · exact h y (.inl earlier)
  · exact replaced (h x (.inr (.inl rfl)))
  · exact h y (.inr (.inr later))

end place

def splitFirst (p : α → Bool) : List α → Option (List α × α × List α)
  | [] => none
  | x :: xs =>
    if p x then some ([], x, xs)
    else (splitFirst p xs).map fun (before, y, after) => (x :: before, y, after)

theorem splitFirst_eq_some {p : α → Bool} {xs before after : List α} {x : α}
    (h : splitFirst p xs = some (before, x, after)) :
    xs = before ++ x :: after ∧ p x = true ∧ ∀ y ∈ before, p y = false := by
  induction xs generalizing before with
  | nil => simp [splitFirst] at h
  | cons y ys ih =>
    by_cases hy : p y
    · simp only [splitFirst, hy, ↓reduceIte, Option.some.injEq, Prod.mk.injEq] at h
      obtain ⟨rfl, rfl, rfl⟩ := h
      simp [hy]
    · simp only [splitFirst, hy, Bool.false_eq_true, ↓reduceIte, Option.map_eq_some_iff] at h
      obtain ⟨⟨inner, z, rest⟩, found, heq⟩ := h
      simp only [Prod.mk.injEq] at heq
      obtain ⟨rfl, rfl, rfl⟩ := heq
      obtain ⟨rfl, hz, hinner⟩ := ih found
      simpa [hz, hy] using hinner

theorem splitFirst_eq_none {p : α → Bool} {xs : List α} :
    splitFirst p xs = none ↔ ∀ x ∈ xs, p x = false := by
  induction xs with
  | nil => simp [splitFirst]
  | cons y ys ih =>
    by_cases hy : p y
    · simp [splitFirst, hy]
    · simp [splitFirst, hy, ih]

theorem splitFirst_isSome {p : α → Bool} {xs : List α} {x : α} (hx : x ∈ xs) (hp : p x = true) :
    ∃ before y after, splitFirst p xs = some (before, y, after) := by
  cases h : splitFirst p xs with
  | none => simp [splitFirst_eq_none.mp h x hx] at hp
  | some found => exact ⟨found.1, found.2.1, found.2.2, rfl⟩

/-- `Removes p xs gone kept`: taking the elements of `gone` out of `xs` one after the
other, each of them removable, leaves `kept`. -/
inductive Removes (p : α → Bool) : List α → List α → List α → Prop
  | done (xs) : Removes p xs [] xs
  | take {before after gone kept} {x : α} : p x = true → Removes p (before ++ after) gone kept →
      Removes p (before ++ x :: after) (x :: gone) kept

namespace Removes
variable {p : α → Bool} {xs gone kept : List α}

theorem sublist (h : Removes p xs gone kept) : kept.Sublist xs := by
  induction h with
  | done => exact List.Sublist.refl _
  | take _ _ ih => exact ih.trans (by simp)

/-- What removable elements do not contribute to is kept as a whole. -/
theorem filterMap_eq (h : Removes p xs gone kept) (f : α → Option β)
    (silent : ∀ x, p x = true → f x = none) : kept.filterMap f = xs.filterMap f := by
  induction h with
  | done => rfl
  | take hx _ ih => simp [ih, silent _ hx]

end Removes

/-- `while xs.len() > limit { remove the first removable element, or stop }`. The fuel
bounds the removals; a list never loses more elements than it has. -/
def trim (p : α → Bool) (limit : Nat) : Nat → List α → List α × List α
  | 0, xs => (xs, [])
  | fuel + 1, xs =>
    if limit < xs.length then
      match splitFirst p xs with
      | none => (xs, [])
      | some (before, x, after) =>
        let (kept, gone) := trim p limit fuel (before ++ after)
        (kept, x :: gone)
    else (xs, [])

theorem trim_removes (p : α → Bool) (limit fuel : Nat) (xs : List α) :
    Removes p xs (trim p limit fuel xs).2 (trim p limit fuel xs).1 := by
  induction fuel generalizing xs with
  | zero => exact .done xs
  | succ fuel ih =>
    unfold trim
    split
    · split
      · exact .done xs
      · rename_i before x after found
        obtain ⟨rfl, hx, -⟩ := splitFirst_eq_some found
        exact .take hx (ih (before ++ after))
    · exact .done xs

/-- With enough fuel the loop ends because the list fits or nothing more may go. -/
theorem trim_stops (p : α → Bool) (limit fuel : Nat) (xs : List α) (hfuel : xs.length ≤ fuel) :
    (trim p limit fuel xs).1.length ≤ limit ∨ ∀ x ∈ (trim p limit fuel xs).1, p x = false := by
  induction fuel generalizing xs with
  | zero => exact .inl (by simp [trim, List.eq_nil_of_length_eq_zero (Nat.le_zero.mp hfuel)])
  | succ fuel ih =>
    unfold trim
    split
    · split
      · rename_i none
        exact .inr (splitFirst_eq_none.mp none)
      · rename_i before x after found
        obtain ⟨rfl, -, -⟩ := splitFirst_eq_some found
        exact ih (before ++ after) (by simp at hfuel ⊢; omega)
    · exact .inl (by simpa using ‹¬ limit < xs.length›)

end MannyUploader.Foundation
