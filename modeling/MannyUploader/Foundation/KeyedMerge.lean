import Mathlib.Data.List.Nodup

/-! Lists with one element for each key. A merge replaces elements in place and appends the
new ones, and a bounded list keeps its newest elements. -/
namespace MannyUploader.Foundation

variable {α κ : Type} [DecidableEq κ] (key : α → κ)

def replaceOrAppend : List α → α → List α
  | [], x => [x]
  | y :: ys, x => if key y = key x then x :: ys else y :: replaceOrAppend ys x

/-- Each update in turn takes the place of the element with its key. -/
def mergeKeyed (xs updates : List α) : List α := updates.foldl (replaceOrAppend key) xs

/-- The elements that do not fit, counted from the oldest. -/
def oldest (capacity : Nat) (xs : List α) : List α := xs.take (xs.length - capacity)

def newest (capacity : Nat) (xs : List α) : List α := xs.drop (xs.length - capacity)

theorem oldest_append_newest (capacity : Nat) (xs : List α) :
    oldest capacity xs ++ newest capacity xs = xs := List.take_append_drop _ _

theorem newest_of_le {capacity : Nat} {xs : List α} (h : xs.length ≤ capacity) :
    newest capacity xs = xs := by
  rw [newest, Nat.sub_eq_zero_of_le h, List.drop_zero]

variable {key} {xs updates : List α} {x y : α}

section one

theorem keys_replaceOrAppend : (replaceOrAppend key xs x).map key =
    if key x ∈ xs.map key then xs.map key else xs.map key ++ [key x] := by
  induction xs with
  | nil => rfl
  | cons z zs ih =>
    by_cases same : key z = key x
    · simp [replaceOrAppend, same]
    · rw [replaceOrAppend, if_neg same, List.map_cons, ih]
      by_cases later : key x ∈ zs.map key
      · rw [if_pos later, List.map_cons, if_pos (List.mem_cons_of_mem _ later)]
      · rw [if_neg later, List.map_cons, if_neg (by simpa using ⟨Ne.symm same, by simpa using later⟩)]
        rfl

theorem nodup_replaceOrAppend (distinct : (xs.map key).Nodup) :
    ((replaceOrAppend key xs x).map key).Nodup := by
  rw [keys_replaceOrAppend]
  split
  · exact distinct
  · rename_i new
    exact List.nodup_append.mpr ⟨distinct, by simp, fun k old k' last => by
      rw [List.mem_singleton.mp last]; rintro rfl; exact new old⟩

theorem mem_replaceOrAppend (distinct : (xs.map key).Nodup) :
    y ∈ replaceOrAppend key xs x ↔ y = x ∨ y ∈ xs ∧ key y ≠ key x := by
  induction xs with
  | nil => simp [replaceOrAppend]
  | cons z zs ih =>
    rw [List.map_cons, List.nodup_cons] at distinct
    by_cases same : key z = key x
    · have others : ∀ w ∈ zs, key w ≠ key x := fun w member eq =>
        distinct.1 (by rw [same, ← eq]; exact List.mem_map_of_mem member)
      rw [replaceOrAppend, if_pos same, List.mem_cons, List.mem_cons]
      refine or_congr_right ⟨fun later => ⟨.inr later, others y later⟩, ?_⟩
      rintro ⟨rfl | later, different⟩
      · exact absurd same different
      · exact later
    · rw [replaceOrAppend, if_neg same, List.mem_cons, List.mem_cons, ih distinct.2]
      constructor
      · rintro (rfl | rfl | ⟨later, different⟩)
        · exact .inr ⟨.inl rfl, same⟩
        · exact .inl rfl
        · exact .inr ⟨.inr later, different⟩
      · rintro (rfl | ⟨rfl | later, different⟩)
        · exact .inr (.inl rfl)
        · exact .inl rfl
        · exact .inr (.inr ⟨later, different⟩)

/-- Putting an element where it already is changes nothing. -/
theorem replaceOrAppend_of_mem (distinct : (xs.map key).Nodup) (member : x ∈ xs) :
    replaceOrAppend key xs x = xs := by
  induction xs with
  | nil => simp at member
  | cons z zs ih =>
    rw [List.map_cons, List.nodup_cons] at distinct
    rcases List.mem_cons.mp member with rfl | later
    · simp [replaceOrAppend]
    · have different : key z ≠ key x := fun same =>
        distinct.1 (same ▸ List.mem_map_of_mem later)
      rw [replaceOrAppend, if_neg different, ih distinct.2 later]

theorem replaceOrAppend_eq (distinct : (xs.map key).Nodup) :
    replaceOrAppend key xs x =
      if key x ∈ xs.map key then xs.map (fun y => if key y = key x then x else y)
      else xs ++ [x] := by
  induction xs with
  | nil => rfl
  | cons z zs ih =>
    rw [List.map_cons, List.nodup_cons] at distinct
    by_cases same : key z = key x
    · have others : zs.map (fun y => if key y = key x then x else y) = zs := by
        have kept : ∀ y ∈ zs, (if key y = key x then x else y) = id y := fun y member =>
          if_neg fun eq => distinct.1 (by rw [same, ← eq]; exact List.mem_map_of_mem member)
        rw [List.map_congr_left kept, List.map_id]
      rw [replaceOrAppend, if_pos same, if_pos (by simp [same]), List.map_cons, if_pos same, others]
    · have later : key x ∈ (z :: zs).map key ↔ key x ∈ zs.map key := by
        rw [List.map_cons, List.mem_cons, or_iff_right (Ne.symm same)]
      rw [replaceOrAppend, if_neg same, ih distinct.2, if_congr later rfl rfl, List.map_cons,
        if_neg same]
      split
      · rfl
      · rfl

end one

section many

theorem nodup_mergeKeyed (distinct : (xs.map key).Nodup) :
    ((mergeKeyed key xs updates).map key).Nodup := by
  induction updates generalizing xs with
  | nil => exact distinct
  | cons u us ih => exact ih (nodup_replaceOrAppend distinct)

theorem mem_mergeKeyed (distinct : (xs.map key).Nodup) (once : (updates.map key).Nodup) :
    y ∈ mergeKeyed key xs updates ↔ y ∈ updates ∨ y ∈ xs ∧ key y ∉ updates.map key := by
  induction updates generalizing xs with
  | nil => simp [mergeKeyed]
  | cons u us ih =>
    rw [List.map_cons, List.nodup_cons] at once
    change y ∈ mergeKeyed key (replaceOrAppend key xs u) us ↔ _
    rw [ih (nodup_replaceOrAppend distinct) once.2, mem_replaceOrAppend distinct]
    constructor
    · rintro (later | ⟨rfl | ⟨old, different⟩, fresh⟩)
      · exact .inl (List.mem_cons_of_mem _ later)
      · exact .inl (by simp)
      · exact .inr ⟨old, by simpa [different] using fresh⟩
    · rintro (member | ⟨old, fresh⟩)
      · rcases List.mem_cons.mp member with rfl | later
        · exact .inr ⟨.inl rfl, once.1⟩
        · exact .inl later
      · simp only [List.map_cons, List.mem_cons, not_or] at fresh
        exact .inr ⟨.inr ⟨old, fresh.1⟩, fresh.2⟩

/-- A merge keeps the old keys in their places and puts the new ones behind them. -/
theorem keys_mergeKeyed (once : (updates.map key).Nodup) :
    (mergeKeyed key xs updates).map key =
      xs.map key ++ (updates.map key).filter (· ∉ xs.map key) := by
  induction updates generalizing xs with
  | nil => simp [mergeKeyed]
  | cons u us ih =>
    rw [List.map_cons, List.nodup_cons] at once
    change (mergeKeyed key (replaceOrAppend key xs u) us).map key = _
    rw [ih once.2, keys_replaceOrAppend, List.map_cons]
    by_cases known : key u ∈ xs.map key
    · rw [if_pos known, List.filter_cons_of_neg (by simpa using known)]
    · rw [if_neg known, List.filter_cons_of_pos (by simpa using known), List.append_assoc,
        List.singleton_append]
      congr 2
      refine List.filter_congr fun k member => ?_
      have different : k ≠ key u := by rintro rfl; exact once.1 member
      simp [different]

variable (key) in
/-- The update with the key of an element, or the element itself. -/
def updated (updates : List α) (x : α) : α := (updates.find? (key · = key x)).getD x

theorem updated_of_notMem (fresh : key x ∉ updates.map key) : updated key updates x = x := by
  have none : updates.find? (key · = key x) = none := by
    refine List.find?_eq_none.mpr fun u member same => fresh ?_
    rw [← of_decide_eq_true same]
    exact List.mem_map_of_mem member
  rw [updated, none, Option.getD_none]

/-- Old elements are replaced in place, and those with new keys follow in their order. -/
theorem mergeKeyed_eq (distinct : (xs.map key).Nodup) (once : (updates.map key).Nodup) :
    mergeKeyed key xs updates =
      xs.map (updated key updates) ++ updates.filter (key · ∉ xs.map key) := by
  induction updates generalizing xs with
  | nil =>
    rw [List.filter_nil, List.append_nil]
    exact (List.map_id'' (fun _ => rfl) xs).symm
  | cons u us ih =>
    rw [List.map_cons, List.nodup_cons] at once
    have self : updated key us u = u := updated_of_notMem once.1
    have other : ∀ x, key x ≠ key u → updated key (u :: us) x = updated key us x := by
      intro x different
      rw [updated, List.find?_cons_of_neg (by simpa using different.symm), updated]
    change mergeKeyed key (replaceOrAppend key xs u) us = _
    rw [ih (nodup_replaceOrAppend distinct) once.2, keys_replaceOrAppend,
      replaceOrAppend_eq distinct]
    by_cases known : key u ∈ xs.map key
    · rw [if_pos known, if_pos known, List.filter_cons_of_neg (by simpa using known), List.map_map]
      congr 1
      refine List.map_congr_left fun x _ => ?_
      rw [Function.comp_apply]
      split
      next same => rw [self, updated, List.find?_cons_of_pos (by simp [same]), Option.getD_some]
      next different => rw [other x different]
    · rw [if_neg known, if_neg known, List.filter_cons_of_pos (by simpa using known),
        List.map_append, List.map_singleton, self, List.append_assoc, List.singleton_append]
      congr 1
      · refine List.map_congr_left fun x member => (other x fun same => known ?_).symm
        exact same ▸ List.mem_map_of_mem member
      · congr 1
        refine List.filter_congr fun v member => ?_
        have different : key v ≠ key u := fun same => once.1 (same ▸ List.mem_map_of_mem member)
        simp [different]

variable (key xs updates) in
theorem length_mergeKeyed_le :
    (mergeKeyed key xs updates).length ≤ xs.length + updates.length := by
  induction updates generalizing xs with
  | nil => exact Nat.le_refl _
  | cons u us ih =>
    have one : (replaceOrAppend key xs u).length ≤ xs.length + 1 := by
      rw [← List.length_map (f := key), keys_replaceOrAppend]
      split <;> simp
    calc (mergeKeyed key (replaceOrAppend key xs u) us).length
        ≤ (replaceOrAppend key xs u).length + us.length := ih _
      _ ≤ xs.length + 1 + us.length := Nat.add_le_add_right one _
      _ = xs.length + (u :: us).length := by rw [List.length_cons]; omega

theorem mergeKeyed_of_mem (distinct : (xs.map key).Nodup) (saved : ∀ u ∈ updates, u ∈ xs) :
    mergeKeyed key xs updates = xs := by
  induction updates with
  | nil => rfl
  | cons u us ih =>
    change mergeKeyed key (replaceOrAppend key xs u) us = xs
    rw [replaceOrAppend_of_mem distinct (saved u (by simp))]
    exact ih fun v member => saved v (by simp [member])

omit [DecidableEq κ] in
/-- In a list with distinct keys the newest elements are those whose key is not among the
oldest. -/
theorem mem_newest (distinct : (xs.map key).Nodup) (capacity : Nat) :
    y ∈ newest capacity xs ↔ y ∈ xs ∧ key y ∉ (oldest capacity xs).map key := by
  have split := oldest_append_newest capacity xs
  generalize oldest capacity xs = old at split ⊢
  generalize newest capacity xs = new at split ⊢
  subst split
  rw [List.map_append, List.nodup_append] at distinct
  rw [List.mem_append]
  refine ⟨fun member => ⟨.inr member, fun found => ?_⟩, ?_⟩
  · exact distinct.2.2 _ found _ (List.mem_map_of_mem member) rfl
  · rintro ⟨old | new, fresh⟩
    · exact absurd (List.mem_map_of_mem old) fresh
    · exact new

end many
end MannyUploader.Foundation
