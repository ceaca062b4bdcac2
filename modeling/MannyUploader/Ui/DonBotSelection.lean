import Mathlib.Data.Finset.Basic
import MannyUploader.Domain.UploadJob

/-! Which logs the aggregate of DonBot takes. A log is selected once by itself, when it is first
seen eligible, and what the user chooses stays until the log or the identity is gone. -/
namespace MannyUploader.Ui
open Domain

structure DonBotSelectionIdentity where
  apiBaseUrl : String
  accountName : String
  guildId : String
deriving DecidableEq

structure DonBotAggregateCandidate where
  jobId : UploadJobId
  eligible : Bool
deriving DecidableEq

structure DonBotAggregateSelection where
  identity : Option DonBotSelectionIdentity := none
  retained : Finset UploadJobId := ∅
  seen : Finset UploadJobId := ∅
  selected : Finset UploadJobId := ∅

/-- A call of the user interface. -/
inductive SelectionCall
  | reconcile (identity : Option DonBotSelectionIdentity) (retained : List UploadJobId)
      (visible : List DonBotAggregateCandidate)
  | setSelected (jobId : UploadJobId) (selected : Bool)

namespace DonBotAggregateSelection

/-- A new identity starts over, and a job that is not retained is forgotten. -/
def adopt (selection : DonBotAggregateSelection) (identity : Option DonBotSelectionIdentity)
    (retained : List UploadJobId) : DonBotAggregateSelection :=
  let selection := if selection.identity ≠ identity then
    { selection with seen := ∅, selected := ∅, identity } else selection
  { selection with
    retained := retained.toFinset
    seen := selection.seen.filter (· ∈ retained.toFinset)
    selected := selection.selected.filter (· ∈ retained.toFinset) }

/-- One round of the loop over the visible rows. -/
def offer (selection : DonBotAggregateSelection) (candidate : DonBotAggregateCandidate) :
    DonBotAggregateSelection :=
  if candidate.eligible ∧ candidate.jobId ∈ selection.retained ∧
      candidate.jobId ∉ selection.seen then
    { selection with
      seen := insert candidate.jobId selection.seen
      selected := insert candidate.jobId selection.selected }
  else selection

def reconcile (selection : DonBotAggregateSelection) (identity : Option DonBotSelectionIdentity)
    (retained : List UploadJobId) (visible : List DonBotAggregateCandidate) :
    DonBotAggregateSelection :=
  visible.foldl offer (selection.adopt identity retained)

def setSelected (selection : DonBotAggregateSelection) (jobId : UploadJobId) (selected : Bool) :
    DonBotAggregateSelection :=
  if jobId ∉ selection.retained then selection
  else
    { selection with
      seen := insert jobId selection.seen
      selected := if selected then insert jobId selection.selected
        else selection.selected.erase jobId }

/-- The selected rows in the order of the view, each once. -/
def selectedVisible (selection : DonBotAggregateSelection) :
    (visible : List DonBotAggregateCandidate) → (included : Finset UploadJobId) → List UploadJobId
  | [], _ => []
  | candidate :: rest, included =>
    if candidate.eligible ∧ candidate.jobId ∈ selection.selected ∧ candidate.jobId ∉ included then
      candidate.jobId :: selection.selectedVisible rest (insert candidate.jobId included)
    else selection.selectedVisible rest included

def call (selection : DonBotAggregateSelection) : SelectionCall → DonBotAggregateSelection
  | .reconcile identity retained visible => selection.reconcile identity retained visible
  | .setSelected jobId selected => selection.setSelected jobId selected

def calls (selection : DonBotAggregateSelection) (list : List SelectionCall) :
    DonBotAggregateSelection :=
  list.foldl call selection

end DonBotAggregateSelection

example : let job : UploadJobId := ⟨1, by decide⟩
    (({} : DonBotAggregateSelection).calls [.reconcile none [job] [⟨job, true⟩],
      .setSelected job false, .reconcile none [job] [⟨job, true⟩, ⟨job, true⟩]]).selected = ∅ := by
  decide

end MannyUploader.Ui
