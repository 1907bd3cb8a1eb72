import TypedSearch.Proofs.Compile.Stored
import TypedSearch.Proofs.Schema.Validation
import TypedSearch.Proofs.Table

/-!
Filters put under a field. A record can be the schema of a dataset or the type of its only field, and
a filter on it is moved from the one to the other by putting all its conditions under the field.
The conditions are then read in the order of the schema and no longer in that of the client, and every
clause has a longer name, but the filter is refused for the same reasons and asks for the same.
-/

namespace TypedSearch

open FilterNode Matcher Outcome

variable {field : String} {path : FieldPath} {params : Json}

/-- A name below a field. -/
def underField (field name : String) : String := field ++ "." ++ name

namespace FieldPath

/-- The path that begins with a further field. -/
def under (field : String) (path : FieldPath) : FieldPath := ⟨field :: path.segments⟩

theorem child_under (name : String) : (path.under field).child name = (path.child name).under field :=
  rfl

theorem dotted_under (nonempty : path.segments ≠ []) :
    (path.under field).dotted = underField field path.dotted := by
  obtain ⟨first, rest, same⟩ := List.exists_cons_of_ne_nil nonempty
  rw [dotted, dotted, under, same]
  rfl

theorem keyword_under (nonempty : path.segments ≠ []) :
    (path.under field).keyword = underField field path.keyword := by
  rw [keyword, keyword, dotted_under nonempty, underField, underField]
  simp only [String.append_assoc]

end FieldPath

/-- A clause on one field as a clause on the field of that name below another one. -/
def Clause.under (field : String) : Json → Json
  | .object [(query, .object [(name, body)])] =>
    .single query (.single (underField field name) body)
  | other => other

namespace Clause

theorem under_term (name : String) (value : Json) :
    under field (term name value) = term (underField field name) value := rfl

theorem under_range (name bound : String) (value : Json) :
    under field (range name bound value) = range (underField field name) bound value := rfl

theorem under_matchText (name query : String) :
    under field (matchText name query) = matchText (underField field name) query := rfl

theorem under_wildcard (name pattern : String) :
    under field (wildcard name pattern) = wildcard (underField field name) pattern := rfl

end Clause

theorem range_clauses_under {α : Type} (write : α → Json) (exact ordered : String)
    (filter : RangeFilter α) :
    filter.clauses write (underField field exact) (underField field ordered) =
      (filter.clauses write exact ordered).map (Clause.under field) := by
  simp only [RangeFilter.clauses, List.map_append, List.map_filterMap]
  congr 1
  · cases filter.equals <;> rfl
  · refine congrArg (List.filterMap · _) (funext fun limit => ?_)
    cases limit.2 <;> rfl

theorem string_clauses_under (nonempty : path.segments ≠ []) (filter : StringFilter) :
    filter.clauses (path.under field) = (filter.clauses path).map (Clause.under field) := by
  simp only [StringFilter.clauses, FieldPath.dotted_under nonempty, FieldPath.keyword_under nonempty,
    range_clauses_under, List.map_append]
  cases filter.contains <;> cases filter.startsWith <;> cases filter.endsWith <;> rfl

theorem boolean_clauses_under (nonempty : path.segments ≠ []) (filter : BooleanFilter) :
    filter.clauses (path.under field) = (filter.clauses path).map (Clause.under field) := by
  simp only [BooleanFilter.clauses, FieldPath.dotted_under nonempty]
  cases filter.equals <;> rfl

/-- An answer is another one moved under a field: it is refused if that one is, and otherwise it has the
clauses of that one under the field. -/
def MovedUnder (field : String) (inner outer : Except Problem (Option (List Json))) : Prop :=
  outer.toOption = inner.toOption.map (Option.map (List.map (Clause.under field)))

namespace Handler

/-- What a filter is read as does not depend on the path, which only its problems name. -/
theorem parse_toOption {φ : Type} (empty : φ) (readPart : φ → String × Json → Json.Decoded φ)
    (path other : FieldPath) (params : Json) :
    (TermFilter.parse empty readPart path params).toOption =
      (TermFilter.parse empty readPart other params).toOption := by
  cases params with
  | object entries =>
    rw [TermFilter.parse, TermFilter.parse]
    cases entries.foldlM readPart empty <;> rfl
  | null | bool | number | string | array => rfl

theorem termFilter_moved {φ : Type} {ofParams : FieldPath → Json → Except Problem φ}
    {clauses : φ → FieldPath → List Json} {inner outer : Site Json (List Json)}
    (reads : (ofParams outer.path params).toOption = (ofParams inner.path params).toOption)
    (moves : ∀ filter, clauses filter outer.path =
      (clauses filter inner.path).map (Clause.under field)) :
    MovedUnder field ((termFilter ofParams clauses).resolve inner params)
      ((termFilter ofParams clauses).resolve outer params) := by
  rw [MovedUnder]
  simp only [termFilter, Capability.resolve, toOption_bind, reads]
  cases (ofParams inner.path params).toOption with
  | none => rfl
  | some filter =>
    simp only [Option.bind_some, moves]
    rfl

/-- The clauses of a record are moved if those of its fields are. -/
theorem partClauses_moved {fields : List SchemaField}
    {inner outer : SchemaField → Json → Except Problem (Option (List Json))}
    (each : ∀ field' ∈ fields, ∀ params, MovedUnder field (inner field' params) (outer field' params))
    (entries : Json.Entries) :
    (partClauses entries (fields.map fun field => ⟨field, outer field⟩)).toOption =
      (partClauses entries (fields.map fun field => ⟨field, inner field⟩)).toOption.map
        (List.map (Clause.under field)) := by
  induction fields with
  | nil => rfl
  | cons head rest ih =>
    obtain ⟨first, others⟩ := List.forall_mem_cons.mp each
    rw [List.map_cons, List.map_cons]
    rcases addressed_or_not entries ⟨head, inner head⟩ with ⟨params, addressed⟩ | not
    · have same : Addressed entries ⟨head, outer head⟩ params := addressed
      have own : MovedUnder field (inner head params) (outer head params) := first params
      rw [MovedUnder] at own
      rw [partClauses_addressed addressed, partClauses_addressed same]
      simp only [toOption_bind, own, ih others]
      cases (inner head params).toOption with
      | none => rfl
      | some answer =>
        simp only [Option.map_some, Option.bind_some]
        cases (partClauses entries (rest.map fun field => ⟨field, inner field⟩)).toOption with
        | none => rfl
        | some clauses =>
          cases answer with
          | none => rfl
          | some found => simp [Except.toOption]
    · have same : ∀ params, ¬ Addressed entries ⟨head, outer head⟩ params := not
      rw [partClauses_unaddressed not, partClauses_unaddressed same, ih others]

end Handler

/-- A filter on a record is put together from filters on its fields. -/
theorem standard_filter_record (name : String) (fields : List SchemaField) (path : FieldPath)
    (entries : Json.Entries) :
    Registry.standard.filter (.record ⟨name, fields⟩) path (.object entries) =
      (Handler.partClauses entries (fields.map fun field =>
        ⟨field, Registry.standard.filter field.type (path.child field.name)⟩)).map some := by
  rw [Registry.filter, Registry.standard_resolve_record]
  rfl

/-- A filter on a type at a longer path is the filter at the path, moved under the first field. -/
theorem standard_filter_moved (type : SchemaType) (path : FieldPath) (params : Json)
    (nonempty : path.segments ≠ []) :
    MovedUnder field (Registry.standard.filter type path params)
      (Registry.standard.filter type (path.under field) params) := by
  induction type using SchemaType.type_induction generalizing path params with
  | primitive kind =>
    rw [Registry.filter, Registry.filter, Registry.standard_resolve_primitive,
      Registry.standard_resolve_primitive]
    cases kind with
    | boolean =>
      exact Handler.termFilter_moved (Handler.parse_toOption _ _ _ _ _)
        fun filter => boolean_clauses_under nonempty filter
    | int =>
      refine Handler.termFilter_moved (Handler.parse_toOption _ _ _ _ _) fun filter => ?_
      simp only [IntFilter.clauses, FieldPath.dotted_under nonempty,
        FieldPath.keyword_under nonempty, range_clauses_under]
    | float =>
      refine Handler.termFilter_moved (Handler.parse_toOption _ _ _ _ _) fun filter => ?_
      simp only [FloatFilter.clauses, FieldPath.dotted_under nonempty, range_clauses_under]
    | string =>
      exact Handler.termFilter_moved (Handler.parse_toOption _ _ _ _ _)
        fun filter => string_clauses_under nonempty filter
    | bytes | null | long | double => rfl
  | record name fields ih =>
    cases params with
    | object entries =>
      have moved := Handler.partClauses_moved
        (fun inner listed params => ih inner listed (path.child inner.name) params
          (by simp [FieldPath.child])) entries
      rw [MovedUnder, standard_filter_record, standard_filter_record, toOption_map, toOption_map]
      simp only [FieldPath.child_under, moved, Option.map_map]
      rfl
    | null | bool | number | string | array =>
      rw [Registry.filter, Registry.filter, Registry.standard_resolve_record,
        Registry.standard_resolve_record]
      rfl

namespace RecordType

variable {shape : RecordType} {outer index otherIndex : String} {entries : Json.Entries}

/-- The record whose only field is another record. -/
def enclosed (shape : RecordType) (outer field : String) : RecordType :=
  ⟨outer, [⟨field, .record shape⟩]⟩

/-- The fields of a record with what a dataset of the record answers to filters on them. -/
def rootParts (shape : RecordType) : List (Part Json (List Json)) :=
  shape.fields.map fun field => ⟨field, Registry.standard.filter field.type (.ofName field.name)⟩

theorem rootParts_answer {part : Part Json (List Json)} (inside : part ∈ shape.rootParts) :
    part.answer = Registry.standard.filter part.field.type (.ofName part.field.name) := by
  obtain ⟨field, -, rfl⟩ := List.mem_map.mp inside
  rfl

/-- The clauses of the parts of a record each ask something of one field. -/
theorem parts_leaf {parts : List Json}
    (ran : Handler.partClauses entries shape.rootParts = .ok parts) :
    ∀ clause ∈ parts, LeafClause clause := by
  intro clause member
  obtain ⟨part, inside, params, -, found, answered, own⟩ := (Handler.mem_partClauses ran).mp member
  rw [rootParts_answer inside] at answered
  exact standard_filter_leaf _ answered own

/-- A condition on the field that encloses a record has the clauses of the record's fields, under the
field. -/
theorem enclosed_condition :
    ((Dataset.ofSchema (shape.enclosed outer field) index).conditionClauses .standard
        (field, .object entries)).toOption =
      (Handler.partClauses entries shape.rootParts).toOption.map
        (List.map (Clause.under field)) := by
  obtain ⟨name, fields⟩ := shape
  have found : (enclosed ⟨name, fields⟩ outer field).field? field =
      some ⟨field, .record ⟨name, fields⟩⟩ := by
    simp [field?, enclosed]
  have each : ∀ inner ∈ fields, ∀ params, MovedUnder field
      (Registry.standard.filter inner.type (.ofName inner.name) params)
      (Registry.standard.filter inner.type ((FieldPath.ofName field).child inner.name) params) :=
    fun inner _ params => standard_filter_moved inner.type (.ofName inner.name) params
      (by simp [FieldPath.ofName, FieldPath.child])
  have moved := Handler.partClauses_moved each entries
  rw [Dataset.stored_clauses_asked (by simp) found, standard_filter_record, toOption_map,
    toOption_map, Option.map_map]
  exact (congrFun Option.map_id _).trans moved

section Parts

variable (distinct : SchemaField.Distinct shape.fields) (keyed : (Json.Entries.keys entries).Nodup)

include distinct keyed

/-- What is asked of the fields of a record can be gone through by what a client gives or by the fields
that there are. -/
theorem asked_iff_addressed (holds : SchemaField → Json → Prop) :
    (∃ condition ∈ entries, condition.2 ≠ .null ∧
      ∃ field, shape.field? condition.1 = some field ∧ holds field condition.2) ↔
    ∃ part ∈ shape.rootParts, ∃ params, Handler.Addressed entries part params ∧
      holds part.field params := by
  constructor
  · rintro ⟨⟨name, params⟩, listed, asked, field, found, holds⟩
    have same : field.name = name := by simpa using List.find?_some found
    subst same
    exact ⟨_, List.mem_map_of_mem ((field?_eq_some_iff distinct).mp found), params,
      ⟨(Table.lookup_eq_some_iff keyed).mpr listed, asked⟩, holds⟩
  · rintro ⟨part, inside, params, ⟨given, asked⟩, holds⟩
    obtain ⟨field, declared, rfl⟩ := List.mem_map.mp inside
    exact ⟨(field.name, params), (Table.lookup_eq_some_iff keyed).mp given, asked, field,
      (field?_eq_some_iff distinct).mpr declared, holds⟩

/-- Conditions on the fields of a record are refused with the filters on its parts. -/
theorem conditions_fail_iff_parts :
    Fails ((Dataset.ofSchema shape index).conditionsClauses .standard entries) ↔
      Fails (Handler.partClauses entries shape.rootParts) := by
  rw [Dataset.conditions_fail_iff, Handler.partClauses_fails_iff]
  simp only [Dataset.stored_condition_fails_iff, Refuses]
  rw [asked_iff_addressed distinct keyed fun field params =>
    Fails (Registry.standard.filter field.type (.ofName field.name) params)]
  refine exists_congr fun part => and_congr_right fun inside => ?_
  rw [rootParts_answer inside]

/-- Conditions on the fields of a record have the clauses of its parts, in whatever order. -/
theorem mem_conditions_iff_parts {clauses parts : List Json} {clause : Json}
    (ran : (Dataset.ofSchema shape index).conditionsClauses .standard entries = .ok clauses)
    (ranParts : Handler.partClauses entries shape.rootParts = .ok parts) :
    clause ∈ clauses ↔ clause ∈ parts := by
  rw [Dataset.mem_conditionsClauses ran, Handler.mem_partClauses ranParts]
  simp only [Dataset.mem_stored_clauses_iff]
  rw [asked_iff_addressed distinct keyed fun field params => ∃ given,
    Registry.standard.filter field.type (.ofName field.name) params = .ok (some given) ∧
      clause ∈ given]
  refine exists_congr fun part => and_congr_right fun inside => ?_
  rw [rootParts_answer inside]

/-- The condition on a field that encloses a record is refused with the conditions on the record. -/
theorem enclosed_fails_iff :
    Fails ((Dataset.ofSchema (shape.enclosed outer field) otherIndex).conditionClauses .standard
        (field, .object entries)) ↔
      Fails ((Dataset.ofSchema shape index).conditionsClauses .standard entries) := by
  rw [conditions_fail_iff_parts distinct keyed, fails_iff_toOption, fails_iff_toOption,
    enclosed_condition, Option.map_eq_none_iff]

/-- Conditions on a record are met if all clauses of its parts hold. -/
theorem conditions_meet_iff_parts {holds : Json → Prop} :
    (∀ condition ∈ entries, (Dataset.ofSchema shape index).Meets .standard holds condition) ↔
      ∃ parts, Handler.partClauses entries shape.rootParts = .ok parts ∧
        ∀ clause ∈ parts, holds clause := by
  rw [Dataset.all_meet_iff]
  constructor
  · rintro ⟨clauses, ran, hold⟩
    have runs : ¬ Fails (Handler.partClauses entries shape.rootParts) :=
      mt (conditions_fail_iff_parts distinct keyed).mpr (not_fails_iff.mpr ⟨clauses, ran⟩)
    obtain ⟨parts, ranParts⟩ := not_fails_iff.mp runs
    exact ⟨parts, ranParts, fun clause member =>
      hold clause ((mem_conditions_iff_parts distinct keyed ran ranParts).mpr member)⟩
  · rintro ⟨parts, ranParts, hold⟩
    have runs : ¬ Fails ((Dataset.ofSchema shape index).conditionsClauses .standard entries) :=
      mt (conditions_fail_iff_parts distinct keyed).mp (not_fails_iff.mpr ⟨parts, ranParts⟩)
    obtain ⟨clauses, ran⟩ := not_fails_iff.mp runs
    exact ⟨clauses, ran, fun clause member =>
      hold clause ((mem_conditions_iff_parts distinct keyed ran ranParts).mp member)⟩

/-- The condition on a field that encloses a record is met with the conditions on the record, if clauses
under the field hold with the clauses themselves. -/
theorem enclosed_meets_iff {outerHolds holds : Json → Prop}
    (same : ∀ clause, LeafClause clause → (outerHolds (Clause.under field clause) ↔ holds clause)) :
    (Dataset.ofSchema (shape.enclosed outer field) otherIndex).Meets .standard outerHolds
        (field, .object entries) ↔
      ∀ condition ∈ entries, (Dataset.ofSchema shape index).Meets .standard holds condition := by
  rw [conditions_meet_iff_parts distinct keyed, Dataset.Meets]
  simp only [← toOption_eq_some, enclosed_condition, Option.map_eq_some_iff]
  constructor
  · rintro ⟨_, ⟨parts, ran, rfl⟩, hold⟩
    refine ⟨parts, ran, fun clause member => ?_⟩
    exact (same clause (parts_leaf (toOption_eq_some.mp ran) clause member)).mp
      (hold _ (List.mem_map_of_mem member))
  · rintro ⟨parts, ran, hold⟩
    refine ⟨_, ⟨parts, ran, rfl⟩, List.forall_mem_map.mpr fun clause member => ?_⟩
    exact (same clause (parts_leaf (toOption_eq_some.mp ran) clause member)).mpr (hold clause member)

end Parts

section Trees

variable (distinct : SchemaField.Distinct shape.fields)

include distinct

/-- A tree put under the field that encloses a record is satisfied with the tree, if clauses under the
field hold with the clauses themselves. -/
theorem enclosed_satisfied_iff {outerHolds holds : Json → Prop}
    (same : ∀ clause, LeafClause clause → (outerHolds (Clause.under field clause) ↔ holds clause))
    (tree : FilterNode) (keyed : tree.Keyed) :
    Satisfied ((Dataset.ofSchema (shape.enclosed outer field) otherIndex).Meets .standard outerHolds)
        (tree.nest field) ↔
      Satisfied ((Dataset.ofSchema shape index).Meets .standard holds) tree :=
  satisfied_nest (fun _ keyed => enclosed_meets_iff distinct keyed same) tree keyed

/-- A tree put under the field that encloses a record is vacuous with the tree. -/
theorem enclosed_idle_iff (tree : FilterNode) (keyed : tree.Keyed) :
    Satisfied ((Dataset.ofSchema (shape.enclosed outer field) otherIndex).Idle .standard)
        (tree.nest field) ↔
      Satisfied ((Dataset.ofSchema shape index).Idle .standard) tree := by
  rw [← satisfied_congr _ fun _ _ => Dataset.meets_nothing_iff,
    ← satisfied_congr _ fun _ _ => Dataset.meets_nothing_iff]
  exact enclosed_satisfied_iff distinct (fun _ _ => Iff.rfl) tree keyed

/-- Alternatives under a field are refused with the alternatives if each of them is, as the same ones
are vacuous. -/
theorem enclosed_alternatives_fail_iff {nodes : List FilterNode} (keyed : ∀ child ∈ nodes, child.Keyed)
    (each : ∀ child ∈ nodes,
      (Fails ((Dataset.ofSchema (shape.enclosed outer field) otherIndex).compileNode .standard
          (child.nest field)) ↔
        Fails ((Dataset.ofSchema shape index).compileNode .standard child))) :
    Fails ((Dataset.ofSchema (shape.enclosed outer field) otherIndex).compileAlternatives .standard
        (nodes.map (nest field))) ↔
      Fails ((Dataset.ofSchema shape index).compileAlternatives .standard nodes) := by
  rw [Dataset.alternatives_fail_iff, Dataset.alternatives_fail_iff]
  constructor
  · rintro ⟨_, _, _, split, unsettled, fails⟩
    obtain ⟨before, others, rfl, rfl, tail⟩ := List.map_eq_append_iff.mp split
    obtain ⟨node, after, rfl, rfl, rfl⟩ := List.map_eq_cons_iff.mp tail
    refine ⟨before, node, after, rfl, fun sibling member settled => ?_, (each node (by simp)).mp fails⟩
    exact unsettled _ (List.mem_map_of_mem member)
      ((enclosed_idle_iff distinct sibling (keyed sibling (by simp [member]))).mpr settled)
  · rintro ⟨before, node, after, rfl, unsettled, fails⟩
    refine ⟨before.map (nest field), node.nest field, after.map (nest field), by simp, ?_,
      (each node (by simp)).mpr fails⟩
    refine List.forall_mem_map.mpr fun sibling member settled => unsettled sibling member ?_
    exact (enclosed_idle_iff distinct sibling (keyed sibling (by simp [member]))).mp settled

/-- A tree put under the field that encloses a record is refused with the tree. -/
theorem enclosed_node_fails_iff (tree : FilterNode) (keyed : tree.Keyed) :
    Fails ((Dataset.ofSchema (shape.enclosed outer field) otherIndex).compileNode .standard
        (tree.nest field)) ↔
      Fails ((Dataset.ofSchema shape index).compileNode .standard tree) := by
  induction tree using FilterNode.tree_induction with
  | node cond all any inAll inAny =>
    obtain ⟨own, keyedAll, keyedAny⟩ := keyed_iff.mp keyed
    rw [nest, Dataset.node_parts_fail_iff, Dataset.node_parts_fail_iff, nestChildren_getD,
      nestChildren_getD]
    refine or_congr ?conditions (or_congr ?conjuncts ?alternatives)
    case conditions =>
      cases cond with
      | none => exact Iff.rfl
      | some conditions =>
        simpa [Dataset.conditions_fail_iff] using enclosed_fails_iff distinct own
    case conjuncts =>
      rw [Dataset.conjuncts_fail_iff, Dataset.conjuncts_fail_iff]
      simp only [List.mem_map, exists_exists_and_eq_and]
      exact exists_congr fun child => and_congr_right fun member =>
        inAll child member (keyedAll child member)
    case alternatives =>
      exact enclosed_alternatives_fail_iff distinct keyedAny fun child member =>
        inAny child member (keyedAny child member)

end Trees

end RecordType

end TypedSearch
