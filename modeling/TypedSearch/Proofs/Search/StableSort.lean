import Mathlib.Data.List.Pairwise
import TypedSearch.Proofs.Search.Precedence
import TypedSearch.Proofs.Search.Sorting

/-!
What a sort makes of documents. A clause that cannot be read stops it before any document is moved.
Otherwise, where the values that the keys find can be compared, the documents come out in the order of
the keys, and those that no key tells apart stay in the order in which they were. Where values cannot be
compared, all that is known is that no document is lost.
-/

namespace TypedSearch

open Outcome

section Members

variable {α : Type} {le : α → α → Bool} {items : List α}

/-- Items are sorted as members of their list. -/
theorem mergeSort_attach (le : α → α → Bool) (items : List α) :
    (items.attach.mergeSort fun left right => le left.val right.val).map Subtype.val =
      items.mergeSort le := by
  have mapped := List.map_mergeSort (r := fun left right : { item // item ∈ items } =>
    le left.val right.val) (s := le) (f := Subtype.val) (l := items.attach) fun _ _ _ _ => rfl
  rw [mapped, List.attach_map_subtype_val]

variable (trans : ∀ first ∈ items, ∀ second ∈ items, ∀ third ∈ items,
    le first second → le second third → le first third)
  (total : ∀ left ∈ items, ∀ right ∈ items, le left right || le right left)

include trans total

/-- A comparison that is transitive and total on the members of a list sorts it. -/
theorem pairwise_mergeSort_of_mem : (items.mergeSort le).Pairwise fun left right => le left right := by
  rw [← mergeSort_attach, List.pairwise_map]
  refine List.pairwise_mergeSort ?_ ?_ items.attach
  · exact fun first second third => trans _ first.2 _ second.2 _ third.2
  · exact fun left right => total _ left.2 _ right.2

/-- Sorting leaves members that are in order already as they are. -/
theorem sublist_mergeSort_of_mem {part : List α}
    (ordered : part.Pairwise fun left right => le left right) (within : part.Sublist items) :
    part.Sublist (items.mergeSort le) := by
  rw [← List.attach_map_subtype_val items] at within
  obtain ⟨members, inside, rfl⟩ := List.sublist_map_iff.mp within
  rw [List.pairwise_map] at ordered
  rw [← mergeSort_attach]
  refine (List.sublist_mergeSort ?_ ?_ ordered inside).map _
  · exact fun first second third => trans _ first.2 _ second.2 _ third.2
  · exact fun left right => total _ left.2 _ right.2

end Members

theorem arranged_perm (order : Json → Json → Ordering) (documents : List Json) :
    (arranged order documents).Perm documents := List.mergeSort_perm documents _

namespace ConsistentOn

variable {order : Json → Json → Ordering} {documents : List Json}
  (consistent : ConsistentOn order documents)

include consistent

/-- Of two documents at least one does not come after the other. -/
theorem total : ∀ left ∈ documents, ∀ right ∈ documents,
    (order left right != .gt || order right left != .gt) = true := by
  intro left own right other
  rw [consistent.swap left own right other]
  cases order left right <;> rfl

theorem bne_trans : ∀ left ∈ documents, ∀ middle ∈ documents, ∀ right ∈ documents,
    order left middle != .gt → order middle right != .gt → order left right != .gt := by
  simpa only [bne_iff_ne] using consistent.trans

/-- Documents are arranged in a consistent order. -/
theorem arranged_ordered :
    (arranged order documents).Pairwise fun left right => order left right ≠ .gt :=
  (pairwise_mergeSort_of_mem consistent.bne_trans consistent.total).imp bne_iff_ne.mp

/-- Documents that are in order already keep their order. -/
theorem sublist_arranged {part : List Json}
    (ordered : part.Pairwise fun left right => order left right ≠ .gt)
    (within : part.Sublist documents) : part.Sublist (arranged order documents) :=
  sublist_mergeSort_of_mem consistent.bne_trans consistent.total (ordered.imp bne_iff_ne.mpr) within

end ConsistentOn

namespace SortKey

variable {keys : List SortKey} {documents : List Json}

instance (keys : List SortKey) : Std.Symm (ComparesBy keys) := ⟨fun _ _ => ComparesBy.symm⟩

section Comparable

variable (compared : documents.Pairwise (ComparesBy keys))

include compared

theorem compares_of_mem {left right : Json} (first : left ∈ documents) (second : right ∈ documents)
    (differ : left ≠ right) : ComparesBy keys left right :=
  compared.forall first second differ

/-- On documents that can be compared with each other the comparison is consistent. -/
theorem consistentOn_of_compared : ConsistentOn (orderAll keys) documents where
  swap left _ right _ := orderAll_swap keys left right
  trans left own middle inside right last first second := by
    by_cases start : left = middle
    · rwa [start]
    by_cases finish : middle = right
    · rwa [← finish]
    exact orderAll_trans (compares_of_mem compared own inside start)
      (compares_of_mem compared inside last finish) first second

/-- Documents that can be compared with each other are arranged in the order of the keys, and those that
no key tells apart in the order in which they were. -/
theorem arranged_inOrder :
    (arranged (orderAll keys) documents).Pairwise (InOrder keys) ∧
      ∀ tied : List Json, tied.Sublist documents → tied.Pairwise (TiesBy keys) →
        tied.Sublist (arranged (orderAll keys) documents) := by
  have consistent := consistentOn_of_compared compared
  constructor
  · have moved := arranged_perm (orderAll keys) documents
    have comparable := (moved.pairwise_iff ComparesBy.symm).mpr compared
    refine (comparable.and consistent.arranged_ordered).imp fun ⟨both, placed⟩ => ?_
    exact inOrder_of_orderAll both placed
  · intro tied inside level
    refine consistent.sublist_arranged (level.imp fun ties => ?_) inside
    exact orderAll_of_inOrder (inOrder_of_ties ties)

end Comparable

end SortKey

/-- Whether or not a sort fails, no document is lost. -/
theorem sortInPlace_keeps (sorter : Sorter) (view : MappingView) (clauses documents : List Json) :
    ((sortInPlace sorter view clauses).run.run documents).2.Perm documents := by
  cases read : clauses.mapM (SortKey.ofClause view) with
  | error problem => rw [sortInPlace_unread sorter documents read]
  | ok keys =>
    have kept := sorter.keeps (SortKey.orderAll keys) documents
    rw [sortInPlace_read sorter documents read]
    cases ended : sorter.sort (SortKey.orderAll keys) documents with
    | finished sorted | panicked left =>
      rw [ended] at kept
      exact kept

/-- A sort is refused if a clause cannot be read, and then leaves the documents as they are. Otherwise,
if the values that its keys find can be compared, it leaves the given documents in the order of the
keys, and those that no key tells apart in the order in which they were. In no case is a document lost. -/
theorem sort_stable_by_keys (sorter : Sorter) (view : MappingView) (clauses documents : List Json) :
    ((∃ clause ∈ clauses, Fails (SortKey.ofClause view clause)) →
      ∃ problem, sortDocuments sorter view clauses documents = .error (.refused problem) ∧
        (sortInPlace sorter view clauses).run.run documents =
          (.error (.refused problem), documents)) ∧
    ((¬ ∃ clause ∈ clauses, Fails (SortKey.ofClause view clause)) →
      ∃ keys, clauses.mapM (SortKey.ofClause view) = .ok keys ∧
        (documents.Pairwise (SortKey.ComparesBy keys) →
          ∃ sorted, sortDocuments sorter view clauses documents = .ok sorted ∧
            (sortInPlace sorter view clauses).run.run documents = (.ok (), sorted) ∧
            sorted.Perm documents ∧ sorted.Pairwise (SortKey.InOrder keys) ∧
            ∀ tied : List Json, tied.Sublist documents → tied.Pairwise (SortKey.TiesBy keys) →
              tied.Sublist sorted)) ∧
    ((sortInPlace sorter view clauses).run.run documents).2.Perm documents := by
  refine ⟨fun unread => ?_, fun readable => ?_, sortInPlace_keeps sorter view clauses documents⟩
  · obtain ⟨problem, failed⟩ := mapM_fails_iff.mpr unread
    exact ⟨problem, sortDocuments_unread sorter documents failed,
      sortInPlace_unread sorter documents failed⟩
  · obtain ⟨keys, read⟩ := not_fails_iff.mp (mt mapM_fails_iff.mp readable)
    refine ⟨keys, read, fun compared => ?_⟩
    have consistent := SortKey.consistentOn_of_compared compared
    refine ⟨_, sortDocuments_consistent sorter read consistent, ?_, arranged_perm _ documents,
      SortKey.arranged_inOrder compared⟩
    rw [sortInPlace_read sorter documents read, sorter.sorts _ _ consistent]

/-- People by their cities and then, the other way round, by the texts of their ages. Two of them have no
city. -/
theorem people_sort_stable :
    let field : Json := .single "fields" (.single "keyword" (.object []))
    let view : MappingView := ⟨some [("age", field), ("city", field)]⟩
    let clauses := [Clause.sort "city.keyword" .ascending, Clause.sort "age.keyword" .descending]
    let keys : List SortKey := [⟨.keyword "city", false⟩, ⟨.keyword "age", true⟩]
    let person (city : Json) (age : Int) : Json := .object [("age", .ofInt age), ("city", city)]
    let documents : List Json := [.single "age" (.ofInt 10), person (.string "Ulm") 10,
      person .null 10, person (.string "Ulm") 9]
    (¬ ∃ clause ∈ clauses, Fails (SortKey.ofClause view clause)) ∧
      clauses.mapM (SortKey.ofClause view) = .ok keys ∧
      documents.Pairwise (SortKey.ComparesBy keys) ∧
      ∀ sorter, ∃ sorted, sortDocuments sorter view clauses documents = .ok sorted ∧
        sorted.Perm documents ∧ sorted.Pairwise (SortKey.InOrder keys) ∧
        ∀ tied : List Json, tied.Sublist documents → tied.Pairwise (SortKey.TiesBy keys) →
          tied.Sublist sorted := by
  intro field view clauses keys person documents
  have readable : ¬ ∃ clause ∈ clauses, Fails (SortKey.ofClause view clause) := by decide +kernel
  have read : clauses.mapM (SortKey.ofClause view) = .ok keys := rfl
  have compared : documents.Pairwise (SortKey.ComparesBy keys) := by decide +kernel
  refine ⟨readable, read, compared, fun sorter => ?_⟩
  obtain ⟨found, same, sorts⟩ := (sort_stable_by_keys sorter view clauses documents).2.1 readable
  cases read.symm.trans same
  obtain ⟨sorted, done, -, stable⟩ := sorts compared
  exact ⟨sorted, done, stable⟩

end TypedSearch
