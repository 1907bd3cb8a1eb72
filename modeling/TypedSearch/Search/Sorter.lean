import TypedSearch.Json.Basic

/-!
The sort that documents are put in order by: `sort_by`, the stable sort of the standard library.

What is assumed is what that function documents, and stated as the laws of a `Sorter`. An order that is
consistent on the documents, a total preorder of them, is followed, and documents that it does not tell
apart keep their places. Otherwise the arrangement is unspecified and the sort may panic, and all that
is known is that no document is lost.
-/

namespace TypedSearch

/-- An order of documents is consistent on a list: the other way round gives the reverse, and what does
not come after a document does not come after those behind it. -/
structure ConsistentOn (order : Json → Json → Ordering) (documents : List Json) : Prop where
  swap : ∀ left ∈ documents, ∀ right ∈ documents, order right left = (order left right).swap
  trans : ∀ left ∈ documents, ∀ middle ∈ documents, ∀ right ∈ documents,
    order left middle ≠ .gt → order middle right ≠ .gt → order left right ≠ .gt

instance (order : Json → Json → Ordering) (documents : List Json) :
    Decidable (ConsistentOn order documents) :=
  decidable_of_iff
    ((∀ left ∈ documents, ∀ right ∈ documents, order right left = (order left right).swap) ∧
      ∀ left ∈ documents, ∀ middle ∈ documents, ∀ right ∈ documents,
        order left middle ≠ .gt → order middle right ≠ .gt → order left right ≠ .gt)
    ⟨fun laws => ⟨laws.1, laws.2⟩, fun consistent => ⟨consistent.swap, consistent.trans⟩⟩

/-- How a sort ends, with the documents as it leaves them. -/
inductive SortOutcome where
  | finished (documents : List Json)
  | panicked (documents : List Json)
  deriving DecidableEq

def SortOutcome.documents : SortOutcome → List Json
  | finished documents | panicked documents => documents

/-- The stable arrangement of documents by an order. -/
def arranged (order : Json → Json → Ordering) (documents : List Json) : List Json :=
  documents.mergeSort fun left right => order left right != .gt

/-- A sort, with what is documented of it. -/
structure Sorter where
  sort : (Json → Json → Ordering) → List Json → SortOutcome
  keeps : ∀ order documents, (sort order documents).documents.Perm documents
  sorts : ∀ order documents, ConsistentOn order documents →
    sort order documents = .finished (arranged order documents)

namespace Sorter

/-- The sort that merges whatever it is given and never panics. -/
def merge : Sorter where
  sort order documents := .finished (arranged order documents)
  keeps _ documents := List.mergeSort_perm documents _
  sorts _ _ _ := rfl

end Sorter

end TypedSearch
