import TypedSearch.Proofs.Handler.Dispatch
import TypedSearch.Proofs.Handler.Parts
import TypedSearch.Proofs.Schema.Induction
import TypedSearch.Proofs.Search.Clauses

/-!
The clauses that the standard handlers make of filters. Whatever type a filter is put to and however
deep it reaches into records, each clause asks something of one field.
-/

namespace TypedSearch

open Matcher Outcome

variable {clause : Json} {path : FieldPath} {params : Json}

/-- A range filter asks for a value exactly, or for values within a bound. -/
theorem range_clauses_cases {α : Type} {write : α → Json} {exact ordered : String}
    {filter : RangeFilter α} (member : clause ∈ filter.clauses write exact ordered) :
    (∃ value, clause = Clause.term exact (write value)) ∨
      ∃ key bound value, (key, bound) ∈ TermFilter.bounds ∧
        clause = Clause.range ordered bound (write value) := by
  simp only [RangeFilter.clauses, List.mem_append, Option.mem_toList, Option.map_eq_some_iff,
    List.mem_filterMap, Prod.exists] at member
  rcases member with ⟨value, -, rfl⟩ | ⟨key, bound, limit, paired, value, -, rfl⟩
  · exact .inl ⟨value, rfl⟩
  · exact .inr ⟨key, bound, value, (List.of_mem_zip paired).1, rfl⟩

/-- A string filter asks what a range filter asks of the exact value, and words and patterns of the
text. -/
theorem string_clauses_cases {filter : StringFilter} (member : clause ∈ filter.clauses path) :
    clause ∈ filter.order.clauses .string path.keyword path.keyword ∨
      (∃ query, clause = Clause.matchText path.dotted query) ∨
      ∃ pattern, clause = Clause.wildcard path.dotted pattern := by
  simp only [StringFilter.clauses, List.mem_append, Option.mem_toList,
    Option.map_eq_some_iff] at member
  rcases member with ((member | ⟨query, -, rfl⟩) | ⟨start, -, rfl⟩) | ⟨finish, -, rfl⟩
  · exact .inl member
  · exact .inr (.inl ⟨query, rfl⟩)
  · exact .inr (.inr ⟨_, rfl⟩)
  · exact .inr (.inr ⟨_, rfl⟩)

theorem range_clauses_leaf {α : Type} {write : α → Json} {exact ordered : String}
    {filter : RangeFilter α} (member : clause ∈ filter.clauses write exact ordered) :
    LeafClause clause := by
  rcases range_clauses_cases member with ⟨value, rfl⟩ | ⟨key, bound, value, known, rfl⟩
  · exact .term exact (write value)
  · exact .range ordered (write value) known

theorem string_clauses_leaf {filter : StringFilter} (member : clause ∈ filter.clauses path) :
    LeafClause clause := by
  rcases string_clauses_cases member with member | ⟨query, rfl⟩ | ⟨pattern, rfl⟩
  · exact range_clauses_leaf member
  · exact .matchText _ query
  · exact .wildcard _ pattern

theorem boolean_clauses_leaf {filter : BooleanFilter} (member : clause ∈ filter.clauses path) :
    LeafClause clause := by
  simp only [BooleanFilter.clauses, Option.mem_toList, Option.map_eq_some_iff] at member
  obtain ⟨value, -, rfl⟩ := member
  exact .term _ _

namespace Handler

variable {π α : Type}

/-- A term filter answers with the clauses of the filter that it reads, whatever that is. -/
theorem termFilter_each {φ : Type} {ofParams : FieldPath → Json → Except Problem φ}
    {clauses : φ → FieldPath → List Json} {site : Site Json (List Json)} {answer : List Json}
    {holds : Json → Prop} (each : ∀ filter, ∀ clause ∈ clauses filter site.path, holds clause)
    (ran : (termFilter ofParams clauses).resolve site params = .ok (some answer)) :
    ∀ clause ∈ answer, holds clause := by
  obtain ⟨filter, -, same⟩ := bind_eq_ok.mp ran
  cases same
  exact each filter

theorem termFilter_answers {φ : Type} {ofParams : FieldPath → Json → Except Problem φ}
    {clauses : φ → FieldPath → List Json} {site : Site Json (List Json)} {filter : φ}
    (read : ofParams site.path params = .ok filter) :
    (termFilter ofParams clauses).resolve site params = .ok (some (clauses filter site.path)) := by
  rw [termFilter, Capability.resolve, read]
  rfl

end Handler

/-- The clauses of a type are those of primitives in it. What is true of a type at a path, and passes
from records to their fields, is true of the primitive that a clause comes from. -/
theorem standard_clause_leaf {hook : Handler → HandlerCapability Json (List Json)}
    (holds : SchemaType → FieldPath → Prop) (type : SchemaType) {clauses : List Json}
    (records : hook .record = Handler.recordClauses)
    (passes : ∀ name fields path, holds (.record ⟨name, fields⟩) path →
      ∀ field ∈ fields, holds field.type (path.child field.name))
    (start : holds type path)
    (ran : Registry.standard.resolve hook type path params = .ok (some clauses))
    (member : clause ∈ clauses) :
    ∃ kind leaf given answer, holds (.primitive kind) leaf ∧
      Registry.standard.resolve hook (.primitive kind) leaf given = .ok (some answer) ∧
      clause ∈ answer := by
  induction type using SchemaType.type_induction generalizing path params clauses with
  | primitive kind => exact ⟨kind, path, params, clauses, start, ran, member⟩
  | record name fields ih =>
    rw [Registry.standard_resolve_record, records] at ran
    simp only [Handler.recordClauses, Capability.resolve] at ran
    cases params with
    | null =>
      cases ran
      simp at member
    | object entries =>
      obtain ⟨found, ranParts, same⟩ := bind_eq_ok.mp ran
      cases same
      obtain ⟨part, inside, given, -, answer, answered, member⟩ :=
        (Handler.mem_partClauses ranParts).mp member
      obtain ⟨field, listed, rfl⟩ := List.mem_map.mp inside
      exact ih field listed (passes name fields path start field listed) answered member
    | bool | number | string | array => cases ran

/-- Filters on stored fields compile to clauses on single fields. -/
theorem standard_filter_leaf (type : SchemaType) {clauses : List Json}
    (ran : Registry.standard.filter type path params = .ok (some clauses))
    (member : clause ∈ clauses) : LeafClause clause := by
  obtain ⟨kind, leaf, given, answer, -, answered, member⟩ :=
    standard_clause_leaf (fun _ _ => True) type rfl (fun _ _ _ _ _ _ => trivial) trivial ran member
  rw [Registry.standard_resolve_primitive] at answered
  cases kind with
  | boolean => exact Handler.termFilter_each (fun _ _ => boolean_clauses_leaf) answered clause member
  | int => exact Handler.termFilter_each (fun _ _ => range_clauses_leaf) answered clause member
  | float => exact Handler.termFilter_each (fun _ _ => range_clauses_leaf) answered clause member
  | string => exact Handler.termFilter_each (fun _ _ => string_clauses_leaf) answered clause member
  | bytes | null | long | double => cases answered

end TypedSearch
