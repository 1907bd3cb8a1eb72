import TypedSearch.Proofs.Catalog.Dataset
import TypedSearch.Proofs.Compile.Nesting
import TypedSearch.Proofs.Search.Place

/-!
Filters on one field. What a client asks of a field inside records stands under the names that lead
there, one inside the other. Such a filter compiles to just the clauses that the handler of the field's
type makes of it at the whole path.
-/

namespace TypedSearch

open Matcher Outcome SchemaField

/-- The filter that asks something of the field at a path. -/
def FilterNode.asking (path : FieldPath) (params : Json) : FilterNode :=
  ⟨(Json.placed path.segments params).entries?, none, none⟩

/-- A path leads through the stored fields of a dataset to a type, and no computed field hides the first
of them. -/
structure Dataset.Stores (dataset : Dataset) (path : FieldPath) (type : SchemaType) : Prop where
  /-- The names of the path lead to the type. -/
  leads : Leads dataset.schema.fields path.segments type
  /-- The first name is that of a stored field. -/
  visible : ∀ name ∈ path.segments.head?, dataset.computed.get? name = none

variable {fields : List SchemaField} {params : Json} {clauses : List Json} {type : SchemaType}
  {segments : List String}

/-- Fields of other names than the one that is asked something contribute no clauses. -/
private theorem Handler.partClauses_others {name : String}
    (answer : SchemaField → Json → Except Problem (Option (List Json)))
    (others : ∀ field ∈ fields, field.name ≠ name) :
    partClauses [(name, params)] (fields.map fun field => ⟨field, answer field⟩) = .ok [] := by
  induction fields with
  | nil => rfl
  | cons field rest ih =>
    obtain ⟨differs, later⟩ := List.forall_mem_cons.mp others
    rw [List.map_cons, partClauses_unaddressed, ih later]
    rintro value ⟨found, -⟩
    rw [Table.lookup_cons_ne differs] at found
    cases found

/-- Of the fields of a record only the one that is asked something contributes clauses. -/
theorem Handler.partClauses_single (answer : SchemaField → Json → Except Problem (Option (List Json)))
    {field : SchemaField} (distinct : Distinct fields) (listed : field ∈ fields)
    (given : params ≠ .null) (answered : answer field params = .ok (some clauses)) :
    partClauses [(field.name, params)] (fields.map fun field => ⟨field, answer field⟩) =
      .ok clauses := by
  induction fields with
  | nil => cases listed
  | cons head rest ih =>
    obtain ⟨apart, distinct⟩ := List.pairwise_cons.mp distinct
    rw [List.map_cons]
    rcases List.mem_cons.mp listed with rfl | later
    · have addressed : Addressed [(field.name, params)] ⟨field, answer field⟩ params :=
        ⟨List.lookup_cons_self, given⟩
      have later : partClauses [(field.name, params)] (rest.map fun field => ⟨field, answer field⟩) =
          .ok [] := partClauses_others answer fun other inside => (apart other inside).symm
      simp [partClauses_addressed addressed, answered, later]
    · rw [partClauses_unaddressed, ih distinct later]
      rintro value ⟨found, -⟩
      rw [Table.lookup_cons_ne (apart field later)] at found
      cases found

/-- A filter on a record that asks something of the type at the end of a path is answered as that type
answers it there. -/
theorem standard_filter_placed (valid : Valid fields) (leads : Leads fields segments type)
    (given : params ≠ .null) (record : String) (outer : FieldPath)
    (answered : Registry.standard.filter type ⟨outer.segments ++ segments⟩ params =
      .ok (some clauses)) :
    Registry.standard.filter (.record ⟨record, fields⟩) outer (.placed segments params) =
      .ok (some clauses) := by
  induction leads generalizing record outer with
  | @here fields field listed =>
    have parts := Handler.partClauses_single
      (fun field => Registry.standard.filter field.type (outer.child field.name)) valid.2 listed given
      answered
    rw [Json.placed, Json.single, standard_filter_record, Json.placed, parts]
    rfl
  | @deeper fields inner field name segments type listed inside rest ih =>
    have checked := (valid.1 _ listed).2
    have answer : Registry.standard.filter field.type (outer.child field.name)
        (.placed segments params) = .ok (some clauses) := by
      rw [inside]
      refine ih (valid_of_record (inside ▸ checked)) name (outer.child field.name) ?_
      rw [FieldPath.child, List.append_assoc]
      exact answered
    have parts := Handler.partClauses_single
      (fun field => Registry.standard.filter field.type (outer.child field.name)) valid.2 listed
      (Json.placed_ne_null given) answer
    rw [Json.placed, Json.single, standard_filter_record, parts]
    rfl

namespace Dataset

variable {dataset : Dataset} {path : FieldPath}

theorem fields_valid (valid : dataset.validate = .ok ()) : Valid dataset.schema.fields :=
  (RecordType.validate_eq_ok.mp (schema_valid valid)).2

/-- A filter that asks something of one stored field compiles to the clauses that the field's type
answers with at its path. -/
theorem compileFilter_asking (valid : dataset.validate = .ok ()) (stored : dataset.Stores path type)
    (given : params ≠ .null)
    (answered : Registry.standard.filter type path params = .ok (some clauses)) :
    dataset.compileFilter .standard (some (.asking path params)) =
      .ok (Compiled.ofClauses clauses).toQuery := by
  obtain ⟨⟨segments⟩, leads, visible⟩ := path, stored
  have fields := fields_valid valid
  obtain ⟨head, rest, rfl⟩ := List.exists_cons_of_ne_nil leads.ne_nil
  obtain ⟨field, listed, rfl, reached⟩ := leads_cons_iff.mp leads
  have own : Registry.standard.filter field.type (.ofName field.name) (.placed rest params) =
      .ok (some clauses) := by
    rcases reached with ⟨rfl, rfl⟩ | ⟨record, inner, inside, tail⟩
    · exact answered
    · have checked := (fields.1 field listed).2
      rw [inside]
      exact standard_filter_placed (valid_of_record (inside ▸ checked)) tail given record
        (.ofName field.name) answered
  have member : dataset.member? field.name = some (.stored field) := by
    rw [member?, visible field.name rfl, (RecordType.field?_eq_some_iff fields.2).mpr listed]
    rfl
  have condition : dataset.conditionClauses .standard (field.name, .placed rest params) =
      .ok clauses := by
    rw [conditionClauses_asked (Json.placed_ne_null given) member, Member.filterClauses, Member.path,
      Member.name, own]
    rfl
  have node : dataset.compileNode .standard (.asking ⟨field.name :: rest⟩ params) =
      .ok (.ofClauses clauses) := by
    refine compileNode_eq_ok.mpr ⟨clauses, [], none, ?_, rfl, rfl, by simp⟩
    simp [Json.placed, Json.single, Json.entries?, conditionsClauses, condition]
  rw [compileFilter, node]
  rfl

end Dataset

end TypedSearch
