import Mathlib.Order.Compare
import Mathlib.Order.Lattice
import TypedSearch.Proofs.Handler.FilterClauses
import TypedSearch.Proofs.Json.Value

/-!
The comparisons that filters ask for. A filter of a range type has one key for each comparison; what a
client gives under these keys, in whatever order, is read into the filter and becomes one clause each.
A clause says of a value how it has to be ordered beside the one given.
-/

namespace TypedSearch

open Outcome

/-- The comparisons of a value with one that a client gives. -/
inductive Comparison where
  | equals
  | greaterThan
  | greaterEqualTo
  | lessThan
  | lessEqualTo
  deriving DecidableEq

namespace Comparison

/-- The comparisons in the order of their keys. -/
def all : List Comparison := [equals, greaterThan, greaterEqualTo, lessThan, lessEqualTo]

/-- The key that clients give a comparison under. -/
def key : Comparison → String
  | equals => "equals"
  | greaterThan => "greaterThan"
  | greaterEqualTo => "greaterEqualTo"
  | lessThan => "lessThan"
  | lessEqualTo => "lessEqualTo"

/-- What a comparison says of a value and the one given. -/
def Holds {α : Type} [LT α] [LE α] : Comparison → (value given : α) → Prop
  | equals, value, given => value = given
  | greaterThan, value, given => given < value
  | greaterEqualTo, value, given => given ≤ value
  | lessThan, value, given => value < given
  | lessEqualTo, value, given => value ≤ given

instance {α : Type} [LT α] [LE α] [DecidableEq α] [DecidableLT α] [DecidableLE α]
    (comparison : Comparison) (value given : α) : Decidable (comparison.Holds value given) :=
  match comparison with
  | equals => inferInstanceAs (Decidable (value = given))
  | greaterThan => inferInstanceAs (Decidable (given < value))
  | greaterEqualTo => inferInstanceAs (Decidable (given ≤ value))
  | lessThan => inferInstanceAs (Decidable (value < given))
  | lessEqualTo => inferInstanceAs (Decidable (value ≤ given))

/-- The orders of a value beside the one given with which a comparison holds. -/
def orders : Comparison → List Ordering
  | equals => [.eq]
  | greaterThan => [.gt]
  | greaterEqualTo => [.gt, .eq]
  | lessThan => [.lt]
  | lessEqualTo => [.lt, .eq]

/-- The clause that asks for a comparison: equality of the field `exact`, a bound of the field
`ordered`. -/
def clause (exact ordered : String) (given : Json) : Comparison → Json
  | equals => Clause.term exact given
  | greaterThan => Clause.range ordered "gt" given
  | greaterEqualTo => Clause.range ordered "gte" given
  | lessThan => Clause.range ordered "lt" given
  | lessEqualTo => Clause.range ordered "lte" given

/-- The filter of a client that asks for some comparisons, each with the value it gives for it. -/
def params {α : Type} (write : α → Json) (asked : List (Comparison × α)) : Json :=
  .object (asked.map fun entry => (entry.1.key, write entry.2))

theorem mem_orders_compare {α : Type} [LinearOrder α] (comparison : Comparison) (value given : α) :
    compare value given ∈ comparison.orders ↔ comparison.Holds value given := by
  cases comparison with
  | equals => simp [orders, Holds]
  | greaterThan => simp [orders, Holds, compare_gt_iff_gt]
  | greaterEqualTo =>
    simp only [orders, Holds, List.mem_cons, List.not_mem_nil, or_false, compare_gt_iff_gt,
      compare_eq_iff_eq]
    rw [le_iff_lt_or_eq, eq_comm]
  | lessThan => simp [orders, Holds, compare_lt_iff_lt]
  | lessEqualTo =>
    simp only [orders, Holds, List.mem_cons, List.not_mem_nil, or_false, compare_lt_iff_lt,
      compare_eq_iff_eq]
    rw [le_iff_lt_or_eq]

end Comparison

namespace RangeFilter

variable {α : Type} {filter : RangeFilter α}

/-- What a filter gives for a comparison. -/
def given? (filter : RangeFilter α) : Comparison → Option α
  | .equals => filter.equals
  | .greaterThan => filter.greaterThan
  | .greaterEqualTo => filter.greaterEqualTo
  | .lessThan => filter.lessThan
  | .lessEqualTo => filter.lessEqualTo

/-- The filter with something given for a comparison. -/
def give (filter : RangeFilter α) (value : α) : Comparison → RangeFilter α
  | .equals => { filter with equals := value }
  | .greaterThan => { filter with greaterThan := value }
  | .greaterEqualTo => { filter with greaterEqualTo := value }
  | .lessThan => { filter with lessThan := value }
  | .lessEqualTo => { filter with lessEqualTo := value }

@[simp] theorem given?_give (filter : RangeFilter α) (value : α) (comparison other : Comparison) :
    (filter.give value comparison).given? other =
      if other = comparison then some value else filter.given? other := by
  cases comparison <;> cases other <;> rfl

/-- A filter that gives for comparisons what a client asks, one value each. -/
def ofAsked (asked : List (Comparison × α)) : RangeFilter α :=
  asked.foldl (fun filter entry => filter.give entry.2 entry.1) {}

/-- If no comparison is asked for twice then what is given is what is asked, or was given before. -/
private theorem given?_foldl {asked : List (Comparison × α)} (distinct : (asked.map (·.1)).Nodup)
    (comparison : Comparison) (value : α) :
    (asked.foldl (fun filter entry => filter.give entry.2 entry.1) filter).given? comparison =
        some value ↔
      (comparison, value) ∈ asked ∨
        comparison ∉ asked.map (·.1) ∧ filter.given? comparison = some value := by
  induction asked generalizing filter with
  | nil => simp
  | cons entry rest ih =>
    obtain ⟨first, given⟩ := entry
    obtain ⟨fresh, distinct⟩ := List.nodup_cons.mp distinct
    rw [List.foldl_cons, ih distinct, given?_give]
    by_cases same : comparison = first
    · subst same
      have absent (other : α) : (comparison, other) ∉ rest := fun listed =>
        fresh (List.mem_map.mpr ⟨_, listed, rfl⟩)
      simp [absent, fresh, eq_comm]
    · simp [same]

theorem given?_ofAsked {asked : List (Comparison × α)} (distinct : (asked.map (·.1)).Nodup)
    (comparison : Comparison) (value : α) :
    (ofAsked asked).given? comparison = some value ↔ (comparison, value) ∈ asked := by
  have empty : ({} : RangeFilter α).given? comparison = none := by cases comparison <;> rfl
  rw [ofAsked, given?_foldl distinct]
  simp [empty]

/-- A filter asks for the comparisons that it gives something for, in the order of their keys. -/
theorem clauses_eq (filter : RangeFilter α) (write : α → Json) (exact ordered : String) :
    filter.clauses write exact ordered = Comparison.all.filterMap fun comparison =>
      (filter.given? comparison).map fun value =>
        comparison.clause exact ordered (write value) := by
  obtain ⟨equals, greaterThan, greaterEqualTo, lessThan, lessEqualTo⟩ := filter
  cases equals <;> rfl

theorem mem_clauses_iff {write : α → Json} {exact ordered : String} {clause : Json} :
    clause ∈ filter.clauses write exact ordered ↔ ∃ comparison value,
      filter.given? comparison = some value ∧
        comparison.clause exact ordered (write value) = clause := by
  have every (comparison : Comparison) : comparison ∈ Comparison.all := by
    cases comparison <;> decide
  simp [clauses_eq, every]

/-- The clauses of what a client asks are those of the comparisons that it asks for. -/
theorem forall_clauses_asked {asked : List (Comparison × α)} (distinct : (asked.map (·.1)).Nodup)
    {write : α → Json} {exact ordered : String} {holds : Json → Prop} :
    (∀ clause ∈ (ofAsked asked).clauses write exact ordered, holds clause) ↔
      ∀ entry ∈ asked, holds (entry.1.clause exact ordered (write entry.2)) := by
  constructor
  · intro each entry listed
    exact each _ (mem_clauses_iff.mpr ⟨_, _, (given?_ofAsked distinct _ _).mpr listed, rfl⟩)
  · intro each clause member
    obtain ⟨comparison, value, given, rfl⟩ := mem_clauses_iff.mp member
    exact each _ ((given?_ofAsked distinct _ _).mp given)

/-- A filter on its own is read from what a client asks. -/
theorem readPart_asked {read : Json → Json.Decoded α} {write : α → Json} {known : List String}
    {value : α} (back : read (write value) = .ok value) (present : write value ≠ .null)
    (comparison : Comparison) :
    filter.readPart read known (comparison.key, write value) = .ok (filter.give value comparison) := by
  have part : (write value).toOption read = .ok (some value) := by
    rw [Json.toOption_given present, back]
    rfl
  cases comparison <;> simp [readPart, Comparison.key, part, give]

end RangeFilter

/-- Entries that are read one after the other are read into what they are put together to. -/
private theorem foldlM_read {φ α : Type} {readPart : φ → String × Json → Json.Decoded φ}
    {write : α → String × Json} {put : φ → α → φ} {items : List α}
    (reads : ∀ item ∈ items, ∀ filter, readPart filter (write item) = .ok (put filter item))
    (filter : φ) : (items.map write).foldlM readPart filter = .ok (items.foldl put filter) := by
  induction items generalizing filter with
  | nil => rfl
  | cons item rest ih =>
    obtain ⟨first, others⟩ := List.forall_mem_cons.mp reads
    rw [List.map_cons, List.foldlM_cons, first, ok_bind, ih others, List.foldl_cons]

variable {path : FieldPath}

/-- A filter on a number is read from what a client asks in 64-bit integers. -/
theorem IntFilter.ofParams_asked {asked : List (Comparison × Int)}
    (fits : ∀ entry ∈ asked, Json.toInt64 (.ofInt entry.2) = .ok entry.2) :
    ofParams path (Comparison.params .ofInt asked) = .ok (RangeFilter.ofAsked asked) := by
  have reads : ∀ entry ∈ asked, ∀ filter : IntFilter,
      filter.readPart Json.toInt64 TermFilter.rangeKeys (entry.1.key, .ofInt entry.2) =
        .ok (filter.give entry.2 entry.1) := fun entry listed filter =>
    RangeFilter.readPart_asked (fits entry listed) (by simp [Json.ofInt]) entry.1
  rw [ofParams, Comparison.params, TermFilter.parse, foldlM_read reads]
  rfl

/-- A filter on a text is read from what a client asks in texts. -/
theorem StringFilter.ofParams_asked (asked : List (Comparison × String)) :
    ofParams path (Comparison.params .string asked) = .ok { order := .ofAsked asked } := by
  have reads : ∀ entry ∈ asked, ∀ filter : StringFilter,
      filter.readPart (entry.1.key, .string entry.2) =
        .ok { filter with order := filter.order.give entry.2 entry.1 } := by
    intro entry _ filter
    have order : filter.order.readPart Json.toText TermFilter.stringKeys
        (entry.1.key, .string entry.2) = .ok (filter.order.give entry.2 entry.1) :=
      RangeFilter.readPart_asked (Json.toText_written entry.2) (by simp) entry.1
    obtain ⟨comparison, given⟩ := entry
    cases comparison <;> simp [readPart, Comparison.key] at order ⊢ <;> simp [order]
  rw [ofParams, Comparison.params, TermFilter.parse, foldlM_read reads]
  have joined : asked.foldl
      (fun filter entry => { filter with order := filter.order.give entry.2 entry.1 })
      ({} : StringFilter) = { order := .ofAsked asked } :=
    List.foldl_hom (fun order => ({ order := order } : StringFilter)) fun _ _ => rfl
  rw [joined]

end TypedSearch
