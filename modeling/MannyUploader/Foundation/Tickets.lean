import Mathlib.Data.List.Perm.Basic
import Mathlib.Data.List.Range
import Mathlib.Tactic.Common

/-! Tickets drawn from a counter that may wrap. The tickets of a short enough
stretch all differ, so the first of them picks out exactly one holder. -/
namespace MannyUploader.Foundation

variable {τ α : Type*}

/-- Each element with its ticket, the first one with the ticket of `start`. -/
def window (ticket : Nat → τ) (start : Nat) : List α → List (τ × α)
  | [] => []
  | x :: xs => (ticket start, x) :: window ticket (start + 1) xs

/-- A counter whose tickets repeat no sooner than after `size` of them. -/
def RepeatsAfter (ticket : Nat → τ) (size : Nat) : Prop :=
  ∀ i j, i < j → j < i + size → ticket i ≠ ticket j

section window
variable (ticket : Nat → τ) (start : Nat) (xs : List α)

@[simp] theorem length_window : (window ticket start xs).length = xs.length := by
  induction xs generalizing start with
  | nil => rfl
  | cons x xs ih => simp [window, ih]

theorem window_push (x : α) :
    window ticket start (xs ++ [x]) =
      window ticket start xs ++ [(ticket (start + xs.length), x)] := by
  induction xs generalizing start with
  | nil => simp [window]
  | cons y ys ih =>
    have next : start + 1 + ys.length = start + (ys.length + 1) := by omega
    simp [window, ih, next]

theorem window_tickets :
    (window ticket start xs).map Prod.fst =
      (List.range xs.length).map fun i => ticket (start + i) := by
  induction xs generalizing start with
  | nil => rfl
  | cons x xs ih =>
    simp only [window, List.map_cons, List.length_cons, List.range_succ_eq_map, List.map_map, ih,
      Nat.add_zero, List.cons.injEq, true_and]
    apply List.map_congr_left
    intro i _
    show ticket (start + 1 + i) = ticket (start + (i + 1))
    congr 1
    omega

theorem ticket_of_window {pair : τ × α} (member : pair ∈ window ticket start xs) :
    ∃ i < xs.length, pair.1 = ticket (start + i) := by
  have listed : pair.1 ∈ (window ticket start xs).map Prod.fst := List.mem_map_of_mem member
  rw [window_tickets] at listed
  obtain ⟨i, inside, same⟩ := List.mem_map.mp listed
  exact ⟨i, List.mem_range.mp inside, same.symm⟩

end window

section holders
variable {ticket : Nat → τ} {start : Nat} {xs : List α} {before after : List (τ × α)} {x : α}

/-- The next ticket goes to the end of the window, wherever its holder stands. -/
theorem window_issued (held : (before ++ after).Perm (window ticket start xs)) :
    (before ++ (ticket (start + xs.length), x) :: after).Perm
      (window ticket start (xs ++ [x])) := by
  rw [window_push]
  calc before ++ (ticket (start + xs.length), x) :: after
      |>.Perm ((ticket (start + xs.length), x) :: (before ++ after)) := List.perm_middle
    _ |>.Perm ((ticket (start + xs.length), x) :: window ticket start xs) := held.cons _
    _ |>.Perm (window ticket start xs ++ [(ticket (start + xs.length), x)]) :=
      (List.perm_append_singleton _ _).symm

/-- Whoever holds the first ticket of a short window is the first element of it. -/
theorem window_served {size : Nat} (repeats : RepeatsAfter ticket size)
    (short : xs.length ≤ size)
    (held : (before ++ (ticket start, x) :: after).Perm (window ticket start xs)) :
    ∃ rest, xs = x :: rest ∧ (before ++ after).Perm (window ticket (start + 1) rest) := by
  have member : (ticket start, x) ∈ window ticket start xs := held.subset (by simp)
  cases xs with
  | nil => simp [window] at member
  | cons y ys =>
    have first : x = y := by
      rcases List.mem_cons.mp member with same | later
      · exact (Prod.mk.inj same).2
      · obtain ⟨i, inside, same⟩ := ticket_of_window _ _ _ later
        refine absurd same (repeats _ _ (by omega) ?_)
        simp only [List.length_cons] at short
        omega
    subst first
    exact ⟨ys, rfl, (List.perm_middle.symm.trans held).cons_inv⟩

end holders

end MannyUploader.Foundation
