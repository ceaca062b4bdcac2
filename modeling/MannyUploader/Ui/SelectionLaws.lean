import MannyUploader.Ui.DonBotSelection

/-! The choices of the user outlast what the rows do. What becomes of a job depends only on its
tenure: what was decided about it since it is retained under the present identity. -/
namespace MannyUploader.Ui
open Domain

/-- An eligible row was shown, or the user chose. -/
inductive Decision
  | shown
  | chosen (selected : Bool)
deriving DecidableEq

def Decision.choice : Decision → Option Bool
  | .shown => none
  | .chosen selected => some selected

/-- The last choice of the user, and before any whether the row was shown. -/
def wanted (decisions : List Decision) : Bool :=
  ((decisions.filterMap Decision.choice).getLast?).getD (!decisions.isEmpty)

/-- Whether an eligible row of the job is visible. -/
def shows (job : UploadJobId) (visible : List DonBotAggregateCandidate) : Bool :=
  visible.any fun candidate => candidate.eligible && candidate.jobId == job

structure Tenure where
  identity : Option DonBotSelectionIdentity := none
  retained : Bool := false
  decisions : List Decision := []

namespace Tenure

/-- What is left of the decisions under an identity, with these jobs retained. -/
def kept (tenure : Tenure) (job : UploadJobId) (identity : Option DonBotSelectionIdentity)
    (retained : List UploadJobId) : List Decision :=
  if tenure.identity = identity ∧ job ∈ retained then tenure.decisions else []

def call (job : UploadJobId) (tenure : Tenure) : SelectionCall → Tenure
  | .reconcile identity retained visible => {
      identity
      retained := decide (job ∈ retained)
      decisions := tenure.kept job identity retained ++
        if job ∈ retained ∧ shows job visible = true then [.shown] else [] }
  | .setSelected other selected =>
    if other = job ∧ tenure.retained = true then
      { tenure with decisions := tenure.decisions ++ [.chosen selected] }
    else tenure

/-- The tenure of a job after the calls since the start. -/
def after (job : UploadJobId) (list : List SelectionCall) : Tenure := list.foldl (call job) {}

end Tenure

section decisions
variable (decisions : List Decision)

theorem wanted_chosen (selected : Bool) : wanted (decisions ++ [.chosen selected]) = selected := by
  simp [wanted, Decision.choice]

theorem wanted_shown : wanted (decisions ++ [.shown]) = (decisions.isEmpty || wanted decisions) := by
  have choices : (decisions ++ [Decision.shown]).filterMap Decision.choice =
      decisions.filterMap Decision.choice := by
    rw [List.filterMap_append]
    exact List.append_nil _
  have filled : (decisions ++ [Decision.shown]).isEmpty = false := by simp
  simp only [wanted, choices, filled]
  cases decisions with
  | nil => rfl
  | cons decision decisions => simp

end decisions

namespace DonBotAggregateSelection
variable {selection : DonBotAggregateSelection} {job : UploadJobId}

section loop
variable (selection job) (candidate : DonBotAggregateCandidate)
  (visible : List DonBotAggregateCandidate)

theorem offer_keeps : (selection.offer candidate).identity = selection.identity ∧
    (selection.offer candidate).retained = selection.retained := by
  unfold offer
  split <;> exact ⟨rfl, rfl⟩

theorem seen_offer : job ∈ (selection.offer candidate).seen ↔
    job ∈ selection.seen ∨ job ∈ selection.retained ∧ shows job [candidate] = true := by
  unfold offer shows
  split
  next taken =>
    simp only [Finset.mem_insert, List.any_cons, List.any_nil, Bool.or_false, Bool.and_eq_true,
      beq_iff_eq]
    grind
  next refused =>
    simp only [List.any_cons, List.any_nil, Bool.or_false, Bool.and_eq_true, beq_iff_eq]
    grind

theorem selected_offer : job ∈ (selection.offer candidate).selected ↔
    job ∈ selection.selected ∨
      job ∉ selection.seen ∧ job ∈ selection.retained ∧ shows job [candidate] = true := by
  unfold offer shows
  split
  next taken =>
    simp only [Finset.mem_insert, List.any_cons, List.any_nil, Bool.or_false, Bool.and_eq_true,
      beq_iff_eq]
    grind
  next refused =>
    simp only [List.any_cons, List.any_nil, Bool.or_false, Bool.and_eq_true, beq_iff_eq]
    grind

theorem shows_cons : shows job (candidate :: visible) = true ↔
    shows job [candidate] = true ∨ shows job visible = true := by
  simp [shows]

theorem offers_keep : (visible.foldl offer selection).identity = selection.identity ∧
    (visible.foldl offer selection).retained = selection.retained := by
  induction visible generalizing selection with
  | nil => exact ⟨rfl, rfl⟩
  | cons candidate visible ih =>
    have first := offer_keeps selection candidate
    have later := ih (selection.offer candidate)
    exact ⟨later.1.trans first.1, later.2.trans first.2⟩

theorem seen_offers : job ∈ (visible.foldl offer selection).seen ↔
    job ∈ selection.seen ∨ job ∈ selection.retained ∧ shows job visible = true := by
  induction visible generalizing selection with
  | nil => simp [shows]
  | cons candidate visible ih =>
    rw [List.foldl_cons, ih, seen_offer, (offer_keeps selection candidate).2,
      shows_cons job candidate visible]
    tauto

/-- Only a job that was not seen before is selected, and only once. -/
theorem selected_offers : job ∈ (visible.foldl offer selection).selected ↔
    job ∈ selection.selected ∨
      job ∉ selection.seen ∧ job ∈ selection.retained ∧ shows job visible = true := by
  induction visible generalizing selection with
  | nil => simp [shows]
  | cons candidate visible ih =>
    rw [List.foldl_cons, ih, selected_offer, seen_offer, (offer_keeps selection candidate).2,
      shows_cons job candidate visible]
    tauto

end loop

/-- The selection knows of a job what its tenure says. -/
structure Tracks (job : UploadJobId) (selection : DonBotAggregateSelection) (tenure : Tenure) :
    Prop where
  identity : selection.identity = tenure.identity
  retained : job ∈ selection.retained ↔ tenure.retained = true
  seen : job ∈ selection.seen ↔ tenure.decisions ≠ []
  selected : job ∈ selection.selected ↔ wanted tenure.decisions = true
  forgotten : tenure.retained = false → tenure.decisions = []

section steps
variable {tenure : Tenure} (identity : Option DonBotSelectionIdentity)
  (retained : List UploadJobId) (visible : List DonBotAggregateCandidate)

/-- What a job still has after the identity and the retained jobs are taken over. -/
theorem tracks_adopt (tracks : Tracks job selection tenure) :
    (job ∈ (selection.adopt identity retained).seen ↔ tenure.kept job identity retained ≠ []) ∧
    (job ∈ (selection.adopt identity retained).selected ↔
      wanted (tenure.kept job identity retained) = true) := by
  have seen := tracks.seen
  have selected := tracks.selected
  by_cases same : selection.identity = identity
  · have kept : tenure.identity = identity := tracks.identity ▸ same
    by_cases member : job ∈ retained
    · simp [adopt, same, Tenure.kept, kept, member, seen, selected]
    · simp [adopt, same, Tenure.kept, member, wanted]
  · have lost : tenure.identity ≠ identity := tracks.identity ▸ same
    simp [adopt, same, Tenure.kept, lost, wanted]

theorem adopt_identity : (selection.adopt identity retained).identity = identity := by
  unfold adopt
  by_cases same : selection.identity = identity <;> simp [same]

theorem mem_adopt_retained : job ∈ (selection.adopt identity retained).retained ↔ job ∈ retained :=
  List.mem_toFinset

theorem tracks_reconcile (tracks : Tracks job selection tenure) :
    Tracks job (selection.reconcile identity retained visible)
      (tenure.call job (.reconcile identity retained visible)) := by
  have adopted := tracks_adopt identity retained tracks
  have member : job ∈ (selection.adopt identity retained).retained ↔ job ∈ retained :=
    mem_adopt_retained identity retained
  have loop := offers_keep (selection.adopt identity retained) visible
  have seen := seen_offers (selection.adopt identity retained) job visible
  have selected := selected_offers (selection.adopt identity retained) job visible
  rw [adopted.1, member] at seen
  rw [adopted.1, adopted.2, member] at selected
  constructor
  case identity => exact loop.1.trans (adopt_identity identity retained)
  case retained =>
    rw [reconcile, loop.2, member]
    exact decide_eq_true_iff.symm
  case seen =>
    rw [reconcile, seen]
    by_cases shown : job ∈ retained ∧ shows job visible = true <;> simp [Tenure.call, shown]
  case selected =>
    rw [reconcile, selected]
    by_cases shown : job ∈ retained ∧ shows job visible = true
    · simp [Tenure.call, shown, wanted_shown, or_comm]
    · simp only [shown, and_false, or_false, Tenure.call, if_false, List.append_nil]
  case forgotten =>
    intro left
    have absent : job ∉ retained := of_decide_eq_false left
    simp [Tenure.call, Tenure.kept, absent]

theorem tracks_setSelected (other : UploadJobId) (chosen : Bool)
    (tracks : Tracks job selection tenure) :
    Tracks job (selection.setSelected other chosen)
      (tenure.call job (.setSelected other chosen)) := by
  by_cases there : other ∈ selection.retained
  · by_cases same : other = job
    · subst same
      have present := tracks.retained.mp there
      have updated : tenure.call other (.setSelected other chosen) =
          { tenure with decisions := tenure.decisions ++ [.chosen chosen] } :=
        if_pos ⟨rfl, present⟩
      rw [updated]
      constructor
      case identity => simp [setSelected, there, tracks.identity]
      case retained => simp [setSelected, there, present]
      case seen => simp [setSelected, there]
      case selected => cases chosen <;> simp [setSelected, there, wanted_chosen]
      case forgotten => exact fun left => absurd present (by rw [left]; decide)
    · have ignored : tenure.call job (.setSelected other chosen) = tenure :=
        if_neg fun both => same both.1
      have different : job ≠ other := Ne.symm same
      rw [ignored]
      constructor
      case identity => simp [setSelected, there, tracks.identity]
      case retained => simp [setSelected, there, tracks.retained]
      case seen => simp [setSelected, there, different, tracks.seen]
      case selected => cases chosen <;> simp [setSelected, there, different, tracks.selected]
      case forgotten => exact tracks.forgotten
  · have unchanged : selection.setSelected other chosen = selection := if_pos there
    have ignored : tenure.call job (.setSelected other chosen) = tenure := by
      apply if_neg
      intro both
      exact there (both.1 ▸ tracks.retained.mpr both.2)
    rw [unchanged, ignored]
    exact tracks

theorem tracks_call (call : SelectionCall) (tracks : Tracks job selection tenure) :
    Tracks job (selection.call call) (tenure.call job call) := by
  cases call with
  | reconcile identity retained visible => exact tracks_reconcile identity retained visible tracks
  | setSelected other chosen => exact tracks_setSelected other chosen tracks

end steps

section runs
variable (job) (before : List SelectionCall)

/-- After any calls, the selection of a job is what its tenure wants. -/
theorem tracks_calls : Tracks job (({} : DonBotAggregateSelection).calls before)
    (Tenure.after job before) := by
  have start : Tracks job {} {} := by
    constructor <;> simp [wanted]
  unfold calls Tenure.after
  induction before using List.reverseRecOn with
  | nil => exact start
  | append_singleton before call ih =>
    rw [List.foldl_append, List.foldl_append]
    exact tracks_call call ih

theorem selected_subset_seen (selected : job ∈ (({} : DonBotAggregateSelection).calls before).selected) :
    job ∈ (({} : DonBotAggregateSelection).calls before).seen := by
  have tracks := tracks_calls job before
  rw [tracks.seen]
  intro none
  rw [tracks.selected, none] at selected
  cases selected

theorem seen_subset_retained (seen : job ∈ (({} : DonBotAggregateSelection).calls before).seen) :
    job ∈ (({} : DonBotAggregateSelection).calls before).retained := by
  have tracks := tracks_calls job before
  rw [tracks.retained]
  by_contra left
  exact tracks.seen.mp seen (tracks.forgotten (Bool.eq_false_iff.mpr left))

end runs

section stretches

/-- A call that keeps the identity and the job. -/
def keepsTenure (identity : Option DonBotSelectionIdentity) (job : UploadJobId) :
    SelectionCall → Prop
  | .reconcile other retained _ => other = identity ∧ job ∈ retained
  | .setSelected _ _ => True

/-- The loop of a call selects the job by itself. -/
def autoSelects (job : UploadJobId) (selection : DonBotAggregateSelection) : SelectionCall → Bool
  | .reconcile identity retained visible =>
    decide (job ∉ (selection.adopt identity retained).selected) &&
      decide (job ∈ (selection.reconcile identity retained visible).selected)
  | .setSelected _ _ => false

/-- How often calls do so. -/
def autoSelections (job : UploadJobId) :
    (selection : DonBotAggregateSelection) → List SelectionCall → Nat
  | _, [] => 0
  | selection, call :: rest =>
    (autoSelects job selection call).toNat + autoSelections job (selection.call call) rest

variable {identity : Option DonBotSelectionIdentity} {call : SelectionCall}

theorem autoSelects_reconcile (identity : Option DonBotSelectionIdentity)
    (retained : List UploadJobId) (visible : List DonBotAggregateCandidate) :
    autoSelects job selection (.reconcile identity retained visible) = true ↔
      job ∉ (selection.adopt identity retained).selected ∧
      job ∉ (selection.adopt identity retained).seen ∧ job ∈ retained ∧
      shows job visible = true := by
  have selected := selected_offers (selection.adopt identity retained) job visible
  rw [mem_adopt_retained] at selected
  simp only [autoSelects, Bool.and_eq_true, decide_eq_true_iff, reconcile, selected]
  tauto

/-- A job that is selected by itself was not seen, and is seen from then on. -/
theorem seen_of_autoSelects (auto : autoSelects job selection call = true) :
    job ∈ (selection.call call).seen := by
  cases call with
  | setSelected other chosen => cases auto
  | reconcile identity retained visible =>
    have taken := (autoSelects_reconcile identity retained visible).mp auto
    rw [DonBotAggregateSelection.call, reconcile, seen_offers, mem_adopt_retained]
    exact .inr taken.2.2

/-- While the tenure lasts, the selection keeps the job and what it has seen of it. -/
structure Held (identity : Option DonBotSelectionIdentity) (job : UploadJobId)
    (selection : DonBotAggregateSelection) : Prop where
  identity : selection.identity = identity
  retained : job ∈ selection.retained

theorem held_reconcile (identity : Option DonBotSelectionIdentity) {retained : List UploadJobId}
    (visible : List DonBotAggregateCandidate) (member : job ∈ retained) :
    Held identity job (selection.reconcile identity retained visible) := by
  have loop := offers_keep (selection.adopt identity retained) visible
  constructor
  case identity => exact loop.1.trans (adopt_identity identity retained)
  case retained =>
    rw [reconcile, loop.2, mem_adopt_retained]
    exact member

theorem held_call (held : Held identity job selection) (keeps : keepsTenure identity job call) :
    Held identity job (selection.call call) := by
  cases call with
  | reconcile other retained visible =>
    obtain ⟨rfl, member⟩ := keeps
    exact held_reconcile other visible member
  | setSelected other chosen =>
    change Held identity job (selection.setSelected other chosen)
    unfold setSelected
    split
    · exact held
    · exact ⟨held.identity, held.retained⟩

theorem seen_call (held : Held identity job selection) (keeps : keepsTenure identity job call)
    (seen : job ∈ selection.seen) :
    job ∈ (selection.call call).seen ∧ autoSelects job selection call = false := by
  cases call with
  | reconcile other retained visible =>
    obtain ⟨rfl, member⟩ := keeps
    have still : job ∈ (selection.adopt other retained).seen := by
      simp [adopt, held.identity, seen, member]
    constructor
    · rw [DonBotAggregateSelection.call, reconcile, seen_offers]
      exact .inl still
    · rw [Bool.eq_false_iff, ne_eq, autoSelects_reconcile]
      exact fun taken => taken.2.1 still
  | setSelected other chosen =>
    refine ⟨?_, rfl⟩
    rw [DonBotAggregateSelection.call]
    unfold setSelected
    split
    · exact seen
    · exact Finset.mem_insert_of_mem seen

/-- Of a job that was seen, no later call of the tenure makes a selection by itself. -/
theorem autoSelections_seen {list : List SelectionCall} (held : Held identity job selection)
    (keeps : ∀ call ∈ list, keepsTenure identity job call) (seen : job ∈ selection.seen) :
    autoSelections job selection list = 0 := by
  induction list generalizing selection with
  | nil => rfl
  | cons call rest ih =>
    have first := keeps call List.mem_cons_self
    have step := seen_call held first seen
    have later := ih (held_call held first)
      (fun call member => keeps call (List.mem_cons_of_mem _ member)) step.1
    rw [autoSelections, step.2, later]
    rfl

theorem autoSelections_le {list : List SelectionCall} (held : Held identity job selection)
    (keeps : ∀ call ∈ list, keepsTenure identity job call) :
    autoSelections job selection list ≤ 1 := by
  induction list generalizing selection with
  | nil => exact Nat.zero_le 1
  | cons call rest ih =>
    have first := keeps call List.mem_cons_self
    have others : ∀ call ∈ rest, keepsTenure identity job call :=
      fun call member => keeps call (List.mem_cons_of_mem _ member)
    rw [autoSelections]
    cases auto : autoSelects job selection call with
    | true =>
      have seen := seen_of_autoSelects auto
      rw [autoSelections_seen (held_call held first) others seen]
      decide
    | false =>
      have later := ih (held_call held first) others
      simpa using later

/-- A deselected job stays so through every call but the user's own. -/
theorem deselected_call (held : Held identity job selection) (keeps : keepsTenure identity job call)
    (own : call ≠ .setSelected job true) (seen : job ∈ selection.seen)
    (left : job ∉ selection.selected) : job ∉ (selection.call call).selected := by
  cases call with
  | reconcile other retained visible =>
    obtain ⟨rfl, member⟩ := keeps
    rw [DonBotAggregateSelection.call, reconcile, selected_offers]
    simp [adopt, held.identity, seen, left, member]
  | setSelected other chosen =>
    rw [DonBotAggregateSelection.call]
    unfold setSelected
    split
    · exact left
    · cases chosen with
      | false => simp [left]
      | true =>
        have different : job ≠ other := fun same => own (by rw [same])
        simp [left, different]

theorem deselected_calls {list : List SelectionCall} (held : Held identity job selection)
    (keeps : ∀ call ∈ list, keepsTenure identity job call)
    (own : SelectionCall.setSelected job true ∉ list) (seen : job ∈ selection.seen)
    (left : job ∉ selection.selected) : job ∉ (selection.calls list).selected := by
  induction list generalizing selection with
  | nil => exact left
  | cons call rest ih =>
    have first := keeps call List.mem_cons_self
    have other : call ≠ .setSelected job true := fun same => own (same ▸ List.mem_cons_self)
    exact ih (held_call held first) (fun call member => keeps call (List.mem_cons_of_mem _ member))
      (fun member => own (List.mem_cons_of_mem _ member)) (seen_call held first seen).1
      (deselected_call held first other seen left)

/-- A new identity leaves nothing of the old one: the selection goes on as a new one would. -/
theorem reconcile_afresh (retained : List UploadJobId) (visible : List DonBotAggregateCandidate)
    (changed : selection.identity ≠ identity) :
    selection.reconcile identity retained visible =
      ({} : DonBotAggregateSelection).reconcile identity retained visible := by
  have same : selection.adopt identity retained =
      ({} : DonBotAggregateSelection).adopt identity retained := by
    by_cases none : identity = none
    · subst none
      simp [adopt, changed]
    · simp [adopt, changed, Ne.symm none]
  rw [reconcile, reconcile, same]

theorem reconcile_evicts (identity : Option DonBotSelectionIdentity) {retained : List UploadJobId}
    (visible : List DonBotAggregateCandidate) (evicted : job ∉ retained) :
    job ∉ (selection.reconcile identity retained visible).seen ∧
      job ∉ (selection.reconcile identity retained visible).selected := by
  rw [reconcile, seen_offers, selected_offers, mem_adopt_retained]
  simp [adopt, evicted]

/-- What is sent is selected and shown, and no job of it twice. -/
theorem mem_selectedVisible {visible : List DonBotAggregateCandidate} {included : Finset UploadJobId} :
    job ∈ selection.selectedVisible visible included ↔
      shows job visible = true ∧ job ∈ selection.selected ∧ job ∉ included := by
  induction visible generalizing included with
  | nil => simp [selectedVisible, shows]
  | cons candidate rest ih =>
    rw [selectedVisible, shows_cons]
    split
    next taken =>
      rw [List.mem_cons, ih, Finset.mem_insert]
      by_cases same : candidate.jobId = job
      · simp [← same, shows, taken]
      · simp [shows, same, Ne.symm same]
    next refused =>
      rw [ih]
      by_cases same : candidate.jobId = job
      · subst same
        simp only [shows, List.any_cons, List.any_nil, beq_self_eq_true, Bool.and_true,
          Bool.or_false]
        tauto
      · simp [shows, same]

theorem nodup_selectedVisible (visible : List DonBotAggregateCandidate)
    (included : Finset UploadJobId) : (selection.selectedVisible visible included).Nodup := by
  induction visible generalizing included with
  | nil => exact List.nodup_nil
  | cons candidate rest ih =>
    rw [selectedVisible]
    split
    · rw [List.nodup_cons, mem_selectedVisible]
      exact ⟨fun again => again.2.2 (Finset.mem_insert_self _ _), ih _⟩
    · exact ih _

end stretches

/-- The choices about the logs of an aggregate. A job is selected by itself at most once while it
is retained under one identity, and only before anything was decided about it; a deselection
lasts; and nothing outlasts the identity or the job. -/
theorem selection_persists (before : List SelectionCall) (job : UploadJobId) :
    let selection := ({} : DonBotAggregateSelection).calls before
    let tenure := Tenure.after job before
    (selection.selected ⊆ selection.seen ∧ selection.seen ⊆ selection.retained) ∧
    (job ∈ selection.selected ↔ wanted tenure.decisions = true) ∧
    (∀ identity retained visible,
      autoSelects job selection (.reconcile identity retained visible) = true ↔
        tenure.kept job identity retained = [] ∧ job ∈ retained ∧ shows job visible = true) ∧
    (∀ identity retained visible list, job ∈ retained →
      (∀ call ∈ list, keepsTenure identity job call) →
      autoSelections job selection (.reconcile identity retained visible :: list) ≤ 1) ∧
    (∀ list, job ∈ selection.retained →
      (∀ call ∈ list, keepsTenure selection.identity job call) →
      SelectionCall.setSelected job true ∉ list →
      job ∉ (selection.calls (.setSelected job false :: list)).selected) ∧
    (∀ identity retained visible, selection.identity ≠ identity →
      selection.reconcile identity retained visible =
        ({} : DonBotAggregateSelection).reconcile identity retained visible) ∧
    ∀ identity retained visible, job ∉ retained →
      job ∉ (selection.reconcile identity retained visible).seen ∧
      job ∉ (selection.reconcile identity retained visible).selected ∧
      (Tenure.after job (before ++ [.reconcile identity retained visible])).decisions = [] := by
  intro selection tenure
  have tracks : Tracks job selection tenure := tracks_calls job before
  refine ⟨⟨fun other => selected_subset_seen other before,
    fun other => seen_subset_retained other before⟩, tracks.selected, ?_, ?_, ?_, ?_, ?_⟩
  · intro identity retained visible
    have adopted := tracks_adopt identity retained tracks
    rw [autoSelects_reconcile, adopted.1, adopted.2, not_not]
    constructor
    · exact fun taken => taken.2
    · intro taken
      rw [taken.1]
      exact ⟨by decide, rfl, taken.2⟩
  · intro identity retained visible list member keeps
    have held : Held identity job (selection.call (.reconcile identity retained visible)) :=
      held_reconcile identity visible member
    rw [autoSelections]
    cases auto : autoSelects job selection (.reconcile identity retained visible) with
    | true =>
      rw [autoSelections_seen held keeps (seen_of_autoSelects auto)]
      decide
    | false =>
      have later := autoSelections_le held keeps
      simpa using later
  · intro list there keeps own
    have held : Held selection.identity job (selection.call (.setSelected job false)) :=
      held_call ⟨rfl, there⟩ trivial
    apply deselected_calls held keeps own
    · simp [call, setSelected, there]
    · simp [call, setSelected, there]
  · intro identity retained visible changed
    exact reconcile_afresh retained visible changed
  · intro identity retained visible evicted
    refine ⟨(reconcile_evicts identity visible evicted).1,
      (reconcile_evicts identity visible evicted).2, ?_⟩
    simp [Tenure.after, Tenure.call, Tenure.kept, evicted]

end DonBotAggregateSelection

end MannyUploader.Ui
