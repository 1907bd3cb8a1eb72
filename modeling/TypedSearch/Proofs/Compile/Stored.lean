import TypedSearch.Proofs.Compile.Refusal
import TypedSearch.Proofs.Handler.FilterClauses

/-!
Filters on the stored fields of a record. What a condition asks of a document and which conditions
are refused is said by the handlers of the fields; a filter tree is refused for what the compiler
gets to of it, and otherwise its query is passed by the documents for which the tree holds.
-/

namespace TypedSearch

open FilterNode Matcher Outcome

namespace RecordType

/-- A condition names a field whose handler refuses what it asks. -/
def Refuses (schema : RecordType) (registry : Registry) (condition : String × Json) : Prop :=
  condition.2 ≠ .null ∧ ∃ field, schema.field? condition.1 = some field ∧
    Fails (registry.filter field.type (.ofName field.name) condition.2)

instance (schema : RecordType) (registry : Registry) (condition : String × Json) :
    Decidable (schema.Refuses registry condition) :=
  match found : schema.field? condition.1 with
  | none => isFalse fun ⟨_, _, same, _⟩ => nomatch found.symm.trans same
  | some field =>
    decidable_of_iff
      (condition.2 ≠ .null ∧ Fails (registry.filter field.type (.ofName field.name) condition.2))
      (by simp [Refuses, found])

/-- A document passes every clause that the standard handler of a field makes of a condition. A null
condition and one that names no field ask nothing. -/
def Meets (schema : RecordType) (view : MappingView) (document : Json)
    (condition : String × Json) : Prop :=
  ∀ field clauses, condition.2 ≠ .null → schema.field? condition.1 = some field →
    Registry.standard.filter field.type (.ofName field.name) condition.2 = .ok (some clauses) →
    ∀ clause ∈ clauses, Hits view document clause

end RecordType

variable {schema : RecordType} {index : String} {registry : Registry}
  {condition : String × Json} {clauses : List Json}

namespace Dataset

/-- A condition that asks something of a field has the clauses of the field's handler. -/
theorem stored_clauses_asked {field : SchemaField} (asked : condition.2 ≠ .null)
    (found : schema.field? condition.1 = some field) :
    (ofSchema schema index).conditionClauses registry condition =
      (registry.filter field.type (.ofName field.name) condition.2).map (·.getD []) := by
  have member : (ofSchema schema index).member? condition.1 = some (.stored field) := by
    simp [member?, ofSchema, Table.get?, Table.empty, found]
  rw [conditionClauses_asked asked member]
  rfl

/-- Every other condition has no clauses. -/
theorem stored_clauses_unasked (unasked : condition.2 = .null ∨ schema.field? condition.1 = none) :
    (ofSchema schema index).conditionClauses registry condition = .ok [] := by
  rcases unasked with null | unknown
  · simp [conditionClauses, null, Json.isNull]
  · simp [conditionClauses, member?, ofSchema, Table.get?, Table.empty, unknown]

/-- A condition on stored fields asks something of a field or nothing at all. -/
private theorem asked_or_unasked (schema : RecordType) (condition : String × Json) :
    (condition.2 ≠ .null ∧ ∃ field, schema.field? condition.1 = some field) ∨
      condition.2 = .null ∨ schema.field? condition.1 = none := by
  by_cases null : condition.2 = .null
  · exact .inr (.inl null)
  · cases found : schema.field? condition.1 with
    | none => exact .inr (.inr rfl)
    | some field => exact .inl ⟨null, field, rfl⟩

theorem stored_condition_fails_iff :
    Fails ((ofSchema schema index).conditionClauses registry condition) ↔
      schema.Refuses registry condition := by
  rcases asked_or_unasked schema condition with ⟨asked, field, found⟩ | unasked
  · rw [stored_clauses_asked asked found, fails_map]
    constructor
    · intro fails
      exact ⟨asked, field, found, fails⟩
    · rintro ⟨-, other, same, fails⟩
      cases found.symm.trans same
      exact fails
  · rw [stored_clauses_unasked unasked]
    refine iff_of_false (not_fails_ok _) ?_
    rintro ⟨asked, field, found, -⟩
    rcases unasked with null | unknown
    · exact asked null
    · cases unknown.symm.trans found

/-- The clauses of stored fields each ask something of one field. -/
theorem stored_clauses_leaf
    (ran : (ofSchema schema index).conditionClauses .standard condition = .ok clauses) :
    ∀ clause ∈ clauses, LeafClause clause := by
  intro clause member
  rcases asked_or_unasked schema condition with ⟨asked, field, found⟩ | unasked
  · rw [stored_clauses_asked asked found] at ran
    obtain ⟨answer, answered, same⟩ := map_eq_ok.mp ran
    cases answer with
    | none =>
      cases same
      simp at member
    | some given =>
      cases same
      exact standard_filter_leaf field.type answered member
  · rw [stored_clauses_unasked unasked] at ran
    cases ran
    simp at member

/-- A clause of a condition is one that the handler of the named field makes of it. -/
theorem mem_stored_clauses_iff {clause : Json} :
    (∃ clauses, (ofSchema schema index).conditionClauses registry condition = .ok clauses ∧
      clause ∈ clauses) ↔
    condition.2 ≠ .null ∧ ∃ field, schema.field? condition.1 = some field ∧
      ∃ given, registry.filter field.type (.ofName field.name) condition.2 = .ok (some given) ∧
        clause ∈ given := by
  constructor
  · rintro ⟨clauses, ran, member⟩
    rcases asked_or_unasked schema condition with ⟨asked, field, found⟩ | unasked
    · rw [stored_clauses_asked asked found, map_getD_eq_ok (List.ne_nil_of_mem member)] at ran
      exact ⟨asked, field, found, clauses, ran, member⟩
    · rw [stored_clauses_unasked unasked] at ran
      cases ran
      simp at member
  · rintro ⟨asked, field, found, given, answered, member⟩
    refine ⟨given, ?_, member⟩
    rw [stored_clauses_asked asked found, answered]
    rfl

/-- A condition that is not refused is met by the documents that pass its clauses. -/
theorem stored_meets_iff {view : MappingView} {document : Json}
    (accepted : ¬ schema.Refuses .standard condition) :
    (ofSchema schema index).Meets .standard (Hits view document) condition ↔
      schema.Meets view document condition := by
  rcases asked_or_unasked schema condition with ⟨asked, field, found⟩ | unasked
  · have runs : ¬ Fails (Registry.standard.filter field.type (.ofName field.name) condition.2) :=
      fun fails => accepted ⟨asked, field, found, fails⟩
    obtain ⟨answer, answered⟩ := not_fails_iff.mp runs
    have own : schema.Meets view document condition ↔
        ∀ clause ∈ answer.getD [], Hits view document clause := by
      constructor
      · intro meets clause member
        cases answer with
        | none => simp at member
        | some given => exact meets field given asked found answered clause member
      · rintro each other given - same ran clause member
        cases found.symm.trans same
        cases answered.symm.trans ran
        exact each clause member
    simp only [Dataset.Meets, stored_clauses_asked asked found, answered, own]
    simp [Except.map]
  · have nothing : schema.Meets view document condition := by
      intro field given asked found
      rcases unasked with null | unknown
      · exact (asked null).elim
      · cases unknown.symm.trans found
    exact iff_of_true ⟨[], stored_clauses_unasked unasked, by simp⟩ nothing

end Dataset

theorem compileFilter_fails_iff {dataset : Dataset} {filter : FilterNode} :
    Fails (dataset.compileFilter registry (some filter)) ↔
      Fails (dataset.compileNode registry filter) :=
  fails_return Compiled.toQuery

/-- A filter on stored fields is refused exactly if the compiler gets to a condition in it that is
refused. What it mentions besides and would be refused too stands behind an alternative without
clauses. -/
theorem stored_filter_fails_iff (schema : RecordType) (index : String) (registry : Registry)
    (filter : FilterNode) :
    (Fails ((Dataset.ofSchema schema index).compileFilter registry (some filter)) ↔
      ∃ condition, Reaches ((Dataset.ofSchema schema index).Idle registry) condition filter ∧
        schema.Refuses registry condition) ∧
    ∀ condition, Mentions condition filter → schema.Refuses registry condition →
      Fails ((Dataset.ofSchema schema index).compileFilter registry (some filter)) ∨
        Overlooked ((Dataset.ofSchema schema index).Idle registry) condition filter := by
  have exactly : Fails ((Dataset.ofSchema schema index).compileFilter registry (some filter)) ↔
      ∃ condition, Reaches ((Dataset.ofSchema schema index).Idle registry) condition filter ∧
        schema.Refuses registry condition := by
    rw [compileFilter_fails_iff, Dataset.node_fails_iff]
    simp only [Dataset.stored_condition_fails_iff]
  refine ⟨exactly, fun condition mentioned refused => ?_⟩
  rcases reached_or_overlooked mentioned with reached | overlooked
  · exact .inl (exactly.mpr ⟨condition, reached, refused⟩)
  · exact .inr overlooked

/-- A condition that is refused goes unreported behind an empty alternative. Before it, the same
condition is reported. -/
theorem refused_condition_overlooked :
    let schema : RecordType := ⟨"Person", [⟨"age", .primitive .int⟩]⟩
    let condition : String × Json := ("age", .single "equals" (.string "old"))
    let refused : FilterNode := ⟨some [condition], none, none⟩
    let compile (alternatives : List FilterNode) :=
      (Dataset.ofSchema schema "people").compileFilter .standard (some ⟨none, none, alternatives⟩)
    schema.Refuses .standard condition ∧
      Mentions condition ⟨none, none, some [.empty, refused]⟩ ∧
      compile [.empty, refused] = .ok Clause.matchAll ∧
      compile [refused, .empty] =
        .error (.argument "age" (.undecodable (.invalidType (.string "old") "i64"))) := by
  intro schema condition refused compile
  refine ⟨by decide, ?_, rfl, rfl⟩
  exact .alternative (List.mem_cons_of_mem _ List.mem_cons_self) (.own List.mem_cons_self)

theorem hits_interpretation (view : MappingView) (document : Json) :
    Interpretation (Answers view document) (Hits view document) where
  conjunction _ each := conjunction_hits_iff each
  disjunction choice each := disjunction_hits_iff choice each

/-- The query of a compiled filter is the conjunction of its clauses, also if there are none. -/
theorem toQuery_hits_iff {view : MappingView} {document : Json} {clauses : List Json}
    (each : ∀ clause ∈ clauses, Answers view document clause) :
    ∃ answer, test view (Compiled.ofClauses clauses).toQuery document = .ok answer ∧
      (answer = true ↔ ∀ clause ∈ clauses, Hits view document clause) := by
  cases clauses with
  | nil => exact ⟨true, rfl, by simp⟩
  | cons clause rest =>
    obtain ⟨⟨answer, ran⟩, meaning⟩ := conjunction_hits_iff each
    exact ⟨answer, ran, by rw [← meaning, Hits, ran, Except.ok.injEq]⟩

/-- The query that a filter on stored fields compiles to answers for every document whether the
conditions that the document meets satisfy the filter. -/
theorem compiled_answers {filter : FilterNode} {query : Json}
    (ran : (Dataset.ofSchema schema index).compileFilter .standard (some filter) = .ok query)
    (view : MappingView) (document : Json) :
    ∃ answer, test view query document = .ok answer ∧ (answer = true ↔
      Satisfied ((Dataset.ofSchema schema index).Meets .standard (Hits view document)) filter) := by
  obtain ⟨compiled, ranNode, same⟩ := bind_eq_ok.mp ran
  cases same
  obtain ⟨clauses, rfl, meaning⟩ :=
    Dataset.compiled_reads_as_tree (hits_interpretation view document)
      (fun condition found own clause member =>
        leaf_answers (Dataset.stored_clauses_leaf own clause member)) filter compiled ranNode
  obtain ⟨answer, answered, hits⟩ := toQuery_hits_iff meaning.each
  exact ⟨answer, answered, hits.trans meaning.exactly⟩

/-- A filter on stored fields none of whose conditions is refused compiles, and to every document,
however the index is mapped, its query answers whether the tree holds for the document. -/
theorem stored_filter_preserves_meaning (schema : RecordType) (index : String) (filter : FilterNode)
    (wellFormed : ∀ condition, Mentions condition filter → ¬ schema.Refuses .standard condition) :
    ∃ query, (Dataset.ofSchema schema index).compileFilter .standard (some filter) = .ok query ∧
      ∀ view document, ∃ answer, test view query document = .ok answer ∧
        (answer = true ↔ Satisfied (schema.Meets view document) filter) := by
  have compiles : ¬ Fails ((Dataset.ofSchema schema index).compileNode .standard filter) := by
    rw [Dataset.node_fails_iff]
    rintro ⟨condition, reached, fails⟩
    exact wellFormed condition (mentions_of_reaches reached)
      (Dataset.stored_condition_fails_iff.mp fails)
  obtain ⟨compiled, ran⟩ := not_fails_iff.mp compiles
  refine ⟨compiled.toQuery, by simp [Dataset.compileFilter, ran], fun view document => ?_⟩
  obtain ⟨clauses, rfl, meaning⟩ :=
    Dataset.compiled_reads_as_tree (hits_interpretation view document)
      (fun condition found own clause member =>
        leaf_answers (Dataset.stored_clauses_leaf own clause member)) filter compiled ran
  obtain ⟨answer, answered, hits⟩ := toQuery_hits_iff meaning.each
  refine ⟨answer, answered, ?_⟩
  rw [hits, meaning.exactly]
  exact satisfied_congr filter fun condition mentioned =>
    Dataset.stored_meets_iff (wellFormed condition mentioned)

theorem nested_filter_preserves_meaning :
    let address : RecordType := ⟨"Address", [⟨"city", .primitive .string⟩]⟩
    let schema : RecordType :=
      ⟨"Person", [⟨"age", .primitive .int⟩, ⟨"address", .record address⟩]⟩
    let adult : FilterNode :=
      ⟨some [("age", .single "greaterEqualTo" (.ofInt 18))], none, none⟩
    let nearby : FilterNode :=
      ⟨some [("address", .single "city" (.single "equals" (.string "Oslo")))], none, none⟩
    let filter : FilterNode :=
      ⟨some [("height", .bool true), ("age", .null)], some [adult, .empty], some [nearby, adult]⟩
    (∀ condition, Mentions condition filter → ¬ schema.Refuses .standard condition) ∧
      ∃ query, (Dataset.ofSchema schema "people").compileFilter .standard (some filter) = .ok query ∧
        ∀ view document, ∃ answer, test view query document = .ok answer ∧
          (answer = true ↔ Satisfied (schema.Meets view document) filter) := by
  intro address schema adult nearby filter
  have wellFormed : ∀ condition, Mentions condition filter → ¬ schema.Refuses .standard condition := by
    intro condition mentioned
    simp only [filter, adult, nearby, FilterNode.empty, mentions_iff, Option.getD_some,
      Option.getD_none, List.mem_cons, List.not_mem_nil, or_false, false_and, exists_false,
      exists_eq_or_imp, exists_eq_left] at mentioned
    rcases mentioned with (rfl | rfl) | rfl | rfl | rfl <;> decide
  exact ⟨wellFormed, stored_filter_preserves_meaning schema "people" filter wellFormed⟩

end TypedSearch
