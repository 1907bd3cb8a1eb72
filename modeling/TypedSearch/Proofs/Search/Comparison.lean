import TypedSearch.Proofs.Outcome
import TypedSearch.Proofs.Search.Place
import TypedSearch.Proofs.Search.Precedence
import TypedSearch.Proofs.Search.Sorting
import TypedSearch.Search.Store

/-!
The comparison that a sort is given. It is reflexive, and comparing two documents the other way round
gives the reverse. It is transitive as far as values can be compared, but documents with values that
cannot be compared count as equal. So it is transitive on all documents only where there is nothing to
sort by.
-/

namespace TypedSearch

open Outcome

namespace Json

/-- A path finds something in a document with a text exactly if it does so in one with a list in the
same place, and in the second one nothing that could be sorted by. -/
theorem along_placed_cases (names path : List String) (text : String) :
    (placed names (.string text)).along path = none ∧
      (placed names (.array [])).along path = none ∨
    ∃ value other, (placed names (.string text)).along path = some value ∧
      (placed names (.array [])).along path = some other ∧ value.isNull = false ∧
      other.isNull = false ∧ ∀ target : Target, target.rank? other = none := by
  induction names generalizing path with
  | nil =>
    cases path with
    | nil => exact .inr ⟨_, _, rfl, rfl, rfl, rfl, fun target => by cases target <;> rfl⟩
    | cons next others => exact .inl ⟨rfl, rfl⟩
  | cons name rest ih =>
    cases path with
    | nil => exact .inr ⟨_, _, rfl, rfl, rfl, rfl, fun target => by cases target <;> rfl⟩
    | cons next others =>
      by_cases same : next = name
      · subst same
        simpa [placed, along, get?, single] using ih others
      · have differ : (next == name) = false := beq_eq_false_iff_ne.mpr same
        exact .inl (by simp [placed, along, get?, single, List.lookup_cons, differ])

theorem atPath?_placed_cases (names : List String) (path text : String) :
    (placed names (.string text)).atPath? path = none ∧
      (placed names (.array [])).atPath? path = none ∨
    ∃ value other, (placed names (.string text)).atPath? path = some value ∧
      (placed names (.array [])).atPath? path = some other ∧
      ∀ target : Target, target.rank? other = none := by
  rcases along_placed_cases names (pathNames path) text with
    ⟨nothing, neither⟩ | ⟨value, other, held, found, present, listed, unranked⟩
  · exact .inl ⟨by rw [atPath?, nothing, Option.filter_none],
      by rw [atPath?, neither, Option.filter_none]⟩
  · refine .inr ⟨value, other, ?_, ?_, unranked⟩
    · rw [atPath?, held, Option.filter_some, present, Bool.not_false, if_pos rfl]
    · rw [atPath?, found, Option.filter_some, listed, Bool.not_false, if_pos rfl]

end Json

namespace SortKey

/-- No key tells a text from a list in the same place: it finds nothing in either document, or values
that cannot be compared. -/
theorem order_placed (key : SortKey) (names : List String) (text : String) :
    key.order (.placed names (.string text)) (.placed names (.array [])) = .eq := by
  unfold order
  rcases Json.atPath?_placed_cases names key.target.path text with
    ⟨nothing, neither⟩ | ⟨value, other, held, found, unranked⟩
  · simp only [nothing, neither]
  · have incomparable : key.target.order? value other = none := by
      simp [Target.order?_eq_ranks, unranked]
    simp [held, found, incomparable]

theorem orderAll_placed (keys : List SortKey) (names : List String) (text : String) :
    orderAll keys (.placed names (.string text)) (.placed names (.array [])) = .eq := by
  induction keys with
  | nil => rfl
  | cons key rest ih => rw [orderAll, order_placed, ih, Ordering.then_eq]

/-- A key sorts a document with a text at its path by that text. -/
theorem rankIn?_placed (key : SortKey) (text : String) :
    key.rankIn? (.placed (pathNames key.target.path) (.string text)) = some (.text text) := by
  unfold rankIn? Json.atPath?
  rw [Json.along_placed]
  cases key.target <;> rfl

/-- Of two texts, a key puts one before the other. -/
theorem placed_precedes (key : SortKey) {low high : String} (below : low < high) :
    ∃ first second, key.Precedes (.placed (pathNames key.target.path) (.string first))
      (.placed (pathNames key.target.path) (.string second)) := by
  cases direction : key.descending with
  | false =>
    exact ⟨low, high, .ascending direction (rankIn?_placed ..) (rankIn?_placed ..) (.text below)⟩
  | true =>
    exact ⟨high, low, .descending direction (rankIn?_placed ..) (rankIn?_placed ..) (.text below)⟩

/-- Where there is something to sort by, a list stands level with each of two texts that are not level
with each other. -/
theorem orderAll_intransitive (key : SortKey) (rest : List SortKey) :
    ∃ left middle right, orderAll (key :: rest) left middle = .eq ∧
      orderAll (key :: rest) middle right = .eq ∧ orderAll (key :: rest) left right = .gt := by
  have below : "a" < "b" := by decide
  obtain ⟨first, second, precedes⟩ := key.placed_precedes below
  refine ⟨.placed (pathNames key.target.path) (.string second),
    .placed (pathNames key.target.path) (.array []),
    .placed (pathNames key.target.path) (.string first), orderAll_placed .., ?_, ?_⟩
  · rw [orderAll_swap, orderAll_placed]
    rfl
  · rw [orderAll_swap, orderAll, order_of_precedes precedes]
    rfl

end SortKey

/-- The comparison by accepted clauses is reflexive, gives the reverse the other way round, and is
transitive along values that can be compared. On all documents it is transitive exactly if there are no
clauses, as values that cannot be compared count as equal. -/
theorem sort_comparison_transitive_iff {view : MappingView} {clauses : List Json}
    {keys : List SortKey} (read : clauses.mapM (SortKey.ofClause view) = .ok keys) :
    (∀ document, SortKey.orderAll keys document document = .eq) ∧
    (∀ left right,
      SortKey.orderAll keys right left = (SortKey.orderAll keys left right).swap) ∧
    (∀ left middle right, SortKey.ComparesBy keys left middle →
      SortKey.ComparesBy keys middle right → SortKey.orderAll keys left middle ≠ .gt →
      SortKey.orderAll keys middle right ≠ .gt → SortKey.orderAll keys left right ≠ .gt) ∧
    ((∀ left middle right, SortKey.orderAll keys left middle ≠ .gt →
      SortKey.orderAll keys middle right ≠ .gt → SortKey.orderAll keys left right ≠ .gt) ↔
      clauses = []) := by
  refine ⟨SortKey.orderAll_self keys, SortKey.orderAll_swap keys,
    fun _ _ _ => SortKey.orderAll_trans, ?_⟩
  cases clauses with
  | nil =>
    cases read
    exact iff_of_true (fun _ _ _ first _ => first) rfl
  | cons clause others =>
    rw [List.mapM_cons] at read
    obtain ⟨key, -, later⟩ := bind_eq_ok.mp read
    obtain ⟨rest, -, done⟩ := bind_eq_ok.mp later
    cases done
    refine iff_of_false (fun transitive => ?_) (List.cons_ne_nil clause others)
    obtain ⟨left, middle, right, first, second, greater⟩ :=
      SortKey.orderAll_intransitive key rest
    exact transitive left middle right (by simp [first]) (by simp [second]) greater

/-- An order by two fields of an index without a mapping, one of them descending. -/
theorem unmapped_comparison_transitive_iff :
    let clauses := [Clause.sort "x" .descending, .string "y"]
    ∃ keys, clauses.mapM (SortKey.ofClause (.ofMapping emptyMapping)) = .ok keys ∧
      (∀ document, SortKey.orderAll keys document document = .eq) ∧
      (∀ left right,
        SortKey.orderAll keys right left = (SortKey.orderAll keys left right).swap) ∧
      (∀ left middle right, SortKey.ComparesBy keys left middle →
        SortKey.ComparesBy keys middle right → SortKey.orderAll keys left middle ≠ .gt →
        SortKey.orderAll keys middle right ≠ .gt → SortKey.orderAll keys left right ≠ .gt) ∧
      ((∀ left middle right, SortKey.orderAll keys left middle ≠ .gt →
        SortKey.orderAll keys middle right ≠ .gt → SortKey.orderAll keys left right ≠ .gt) ↔
        clauses = []) := by
  intro clauses
  have read : clauses.mapM (SortKey.ofClause (.ofMapping emptyMapping)) =
      .ok [⟨.plain "x", true⟩, ⟨.plain "y", false⟩] := rfl
  exact ⟨_, read, sort_comparison_transitive_iff read⟩

/-- A text is level with each of two numbers, and so the order is not consistent: where a sort merges, the
greater number stays before the smaller one in an ascending sort. -/
theorem mixed_values_unsorted :
    let keys : List SortKey := [⟨.plain "x", false⟩]
    let two : Json := .single "x" (.ofInt 2)
    let text : Json := .single "x" (.string "a")
    let one : Json := .single "x" (.ofInt 1)
    [Clause.sort "x" .ascending].mapM (SortKey.ofClause (.ofMapping emptyMapping)) = .ok keys ∧
      SortKey.orderAll keys two text = .eq ∧ SortKey.orderAll keys text one = .eq ∧
      SortKey.orderAll keys two one = .gt ∧
      ¬ ConsistentOn (SortKey.orderAll keys) [two, text, text, one] ∧
      sortDocuments .merge (.ofMapping emptyMapping) [Clause.sort "x" .ascending]
        [two, text, text, one] = .ok [two, text, text, one] := by
  intro keys two text one
  have read : [Clause.sort "x" .ascending].mapM (SortKey.ofClause (.ofMapping emptyMapping)) =
      .ok keys := rfl
  have first : SortKey.orderAll keys two text = .eq := rfl
  have second : SortKey.orderAll keys text one = .eq := rfl
  have level : SortKey.orderAll keys text text = .eq := SortKey.orderAll_self keys text
  have greater : SortKey.orderAll keys two one = .gt := by decide
  refine ⟨read, first, second, greater, fun consistent => ?_, ?_⟩
  · have below := consistent.trans two (by simp) text (by simp) one (by simp)
    rw [first, second, greater] at below
    exact below nofun nofun rfl
  · rw [sortDocuments, sortInPlace_read .merge _ read]
    simp [Sorter.merge, arranged, List.mergeSort, List.MergeSort.Internal.splitInTwo, first, second,
      level]

end TypedSearch
