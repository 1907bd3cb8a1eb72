import TypedSearch.Compile.Search
import TypedSearch.Proofs.Catalog.Dataset
import TypedSearch.Proofs.Catalog.Mapping
import TypedSearch.Proofs.Handler.FilterClauses
import TypedSearch.Proofs.Text.Dotted

/-!
The field names in compiled clauses. Each stands for a path of the schema, under which the mapping of
the dataset has what the clause asks for, and a search takes it for exactly that, however the fields
of the schema are called.
-/

namespace TypedSearch

open Outcome SchemaField

/-- A field name addresses what a mapping has at a path: the exact-value form, the text, or the value
of any other property. -/
inductive Addresses (view : MappingView) (path : FieldPath) : String → Target → Prop where
  | keyword (declared : view.hasKeyword path.dotted = true) :
      Addresses view path path.keyword (.keyword path.dotted)
  | text (analysed : view.isText path.dotted = true) :
      Addresses view path path.dotted (.text path.dotted)
  | plain {property : Json} (mapped : view.property? path.dotted = some property)
      (other : view.isText path.dotted = false) :
      Addresses view path path.dotted (.plain path.dotted)

/-- What the mapping of fields says. -/
def MappingView.ofFields (fields : List SchemaField) : MappingView :=
  ⟨some (SchemaField.properties fields)⟩

variable {view : MappingView} {path : FieldPath} {fields : List SchemaField} {type : SchemaType}
  {name : String} {target : Target}

/-- In valid fields a path finds the property of the type that it leads to by its dotted form. -/
theorem MappingView.property?_of_leads (valid : Valid fields)
    (leads : Leads fields path.segments type) :
    (ofFields fields).property? path.dotted = type.property? := by
  have dotless : ∀ name ∈ path.segments, Dotless name :=
    fun name member => dotless_of_isIdentifier (leads.legal valid name member)
  rw [property?, ofFields, Option.bind_some, FieldPath.dotted,
    pathNames_joined leads.ne_nil dotless]
  exact propertyAlong_of_leads valid leads

namespace Target

theorem keywordBase?_eq_some {base : String} :
    keywordBase? name = some base ↔ name = base ++ "." ++ FieldPath.keywordName := by
  have text : (base ++ "." ++ FieldPath.keywordName).toList =
      base.toList ++ keywordEnding.toList := by simp [keywordEnding, String.toList_append]
  rw [← String.toList_inj, text, keywordBase?]
  constructor
  · intro found
    split at found
    next ends =>
      obtain ⟨before, same⟩ := List.isSuffixOf_iff_suffix.mp ends
      cases found
      simp [← same]
    · cases found
  · intro same
    have ends : keywordEnding.toList.isSuffixOf name.toList = true :=
      List.isSuffixOf_iff_suffix.mpr ⟨base.toList, same.symm⟩
    rw [if_pos ends]
    simp [same]

/-- A name with the ending of exact-value forms is taken for one where the mapping declares it. -/
theorem ofField_keyword (declared : view.hasKeyword path.dotted = true) :
    ofField view path.keyword = keyword path.dotted := by
  have ends : keywordBase? path.keyword = some path.dotted := keywordBase?_eq_some.mpr rfl
  rw [ofField, ends]
  exact if_pos declared

/-- A path of valid fields is taken as a whole, also if its last field is called like the ending of
exact-value forms: what stands before that is then a record, which has none. -/
theorem ofField_dotted (valid : Valid fields) (leads : Leads fields path.segments type) :
    ofField (.ofFields fields) path.dotted = ofValueName (.ofFields fields) path.dotted := by
  rw [ofField]
  split
  next base ends =>
    have names : path.segments = pathNames base ++ [FieldPath.keywordName] := by
      have dotless : ∀ name ∈ path.segments, Dotless name :=
        fun name member => dotless_of_isIdentifier (leads.legal valid name member)
      rw [← pathNames_joined leads.ne_nil dotless, ← FieldPath.dotted, keywordBase?_eq_some.mp ends,
        pathNames_append]
      rfl
    obtain ⟨record, inner, outer⟩ := (names ▸ leads).parent (pathNames_ne_nil base)
    have property : (MappingView.ofFields fields).property? base =
        some (RecordType.property (properties inner)) :=
      MappingView.propertyAlong_of_leads valid outer
    have absent : (MappingView.ofFields fields).hasKeyword base = false := by
      rw [MappingView.hasKeyword, property]
      rfl
    simp [absent]
  next => rfl

/-- What a name addresses by a path of valid fields is what a search takes it for. -/
theorem ofField_of_addresses (valid : Valid fields) (leads : Leads fields path.segments type)
    (addressed : Addresses (.ofFields fields) path name target) :
    ofField (.ofFields fields) name = target := by
  cases addressed with
  | keyword declared => exact ofField_keyword declared
  | text analysed => rw [ofField_dotted valid leads, ofValueName, if_pos analysed]
  | plain mapped other => rw [ofField_dotted valid leads, ofValueName, if_neg (by simp [other])]

end Target

/-- A query clause asks something of one field, by a name that addresses what a mapping has at a path.
Words and patterns are asked of text only. -/
def Asks (view : MappingView) (path : FieldPath) (clause : Json) : Prop :=
  ∃ query name body target, clause = .single query (.single name body) ∧
    query ∈ ["term", "range", "match", "wildcard"] ∧
    (query ∈ ["match", "wildcard"] → target = .text path.dotted) ∧ Addresses view path name target

theorem asks_term (value : Json) (addressed : Addresses view path name target) :
    Asks view path (Clause.term name value) :=
  ⟨"term", name, value, target, rfl, by decide, by simp, addressed⟩

theorem asks_range (bound : String) (value : Json) (addressed : Addresses view path name target) :
    Asks view path (Clause.range name bound value) :=
  ⟨"range", name, _, target, rfl, by decide, by simp, addressed⟩

theorem range_clauses_ask {α : Type} {write : α → Json} {exact ordered : String}
    {filter : RangeFilter α} {exactly bounded : Target}
    (first : Addresses view path exact exactly) (second : Addresses view path ordered bounded) :
    ∀ clause ∈ filter.clauses write exact ordered, Asks view path clause := by
  intro clause member
  rcases range_clauses_cases member with ⟨value, rfl⟩ | ⟨key, bound, value, -, rfl⟩
  · exact asks_term _ first
  · exact asks_range bound _ second

section Leaves

variable {kind : Primitive} {params : Json} {clauses : List Json}

theorem addresses_keyword {type : String}
    (mapped : view.property? path.dotted = some (Clause.withKeyword type)) :
    Addresses view path path.keyword (.keyword path.dotted) := by
  refine .keyword ?_
  rw [MappingView.hasKeyword, mapped]
  rfl

theorem addresses_plain {property : Json} (mapped : view.property? path.dotted = some property)
    (other : ((property.get? "type").bind Json.text? == some "text") = false) :
    Addresses view path path.dotted (.plain path.dotted) := by
  refine .plain mapped ?_
  rw [MappingView.isText, mapped]
  exact other

/-- Filters on a primitive ask what its property is indexed for. -/
theorem leaf_filter_asks (mapped : view.property? path.dotted = kind.property?)
    (ran : Registry.standard.resolve Handler.filter (.primitive kind) path params =
      .ok (some clauses)) : ∀ clause ∈ clauses, Asks view path clause := by
  rw [Registry.standard_resolve_primitive] at ran
  cases kind with
  | boolean =>
    refine Handler.termFilter_each (fun filter clause member => ?_) ran
    simp only [BooleanFilter.clauses, Option.mem_toList, Option.map_eq_some_iff] at member
    obtain ⟨value, -, rfl⟩ := member
    exact asks_term _ (addresses_plain mapped rfl)
  | int =>
    exact Handler.termFilter_each
      (fun _ => range_clauses_ask (addresses_keyword mapped) (addresses_plain mapped rfl)) ran
  | float =>
    exact Handler.termFilter_each
      (fun _ => range_clauses_ask (addresses_plain mapped rfl) (addresses_plain mapped rfl)) ran
  | string =>
    have analysed : Addresses view path path.dotted (.text path.dotted) := by
      refine .text ?_
      rw [MappingView.isText, mapped]
      rfl
    have exactly := addresses_keyword mapped
    refine Handler.termFilter_each (fun filter clause member => ?_) ran
    rcases string_clauses_cases member with member | ⟨query, rfl⟩ | ⟨pattern, rfl⟩
    · exact range_clauses_ask exactly exactly clause member
    · exact ⟨"match", _, _, _, rfl, by decide, fun _ => rfl, analysed⟩
    · exact ⟨"wildcard", _, _, _, rfl, by decide, fun _ => rfl, analysed⟩
  | bytes | null | long | double => cases ran

theorem fieldSort_clause {aim : FieldPath → String} {site : Site Json (List Json)} {clause : Json}
    (ran : (Handler.fieldSort aim).resolve site params = .ok (some clauses))
    (member : clause ∈ clauses) :
    ∃ direction, clause = Clause.sort (aim site.path) direction := by
  obtain ⟨direction, -, same⟩ := bind_eq_ok.mp ran
  cases same
  exact ⟨direction, List.mem_singleton.mp member⟩

/-- Sorts by a primitive use what its property is indexed for. -/
theorem leaf_sort_addresses (mapped : view.property? path.dotted = kind.property?)
    (ran : Registry.standard.resolve Handler.sort (.primitive kind) path params =
      .ok (some clauses)) :
    ∀ clause ∈ clauses, ∃ name direction target,
      clause = Clause.sort name direction ∧ Addresses view path name target := by
  intro clause member
  rw [Registry.standard_resolve_primitive] at ran
  cases kind with
  | boolean | float =>
    obtain ⟨direction, rfl⟩ := fieldSort_clause ran member
    exact ⟨_, direction, _, rfl, addresses_plain mapped rfl⟩
  | int | string =>
    obtain ⟨direction, rfl⟩ := fieldSort_clause ran member
    exact ⟨_, direction, _, rfl, addresses_keyword mapped⟩
  | bytes | null | long | double => cases ran

end Leaves

/-- A clause of stored fields comes from a primitive at a path of the schema, which the mapping of the
fields has as it is. -/
theorem clause_mapped {hook : Handler → HandlerCapability Json (List Json)} {params : Json}
    {clauses : List Json} {clause : Json} (valid : Valid fields)
    (records : hook .record = Handler.recordClauses) (leads : Leads fields path.segments type)
    (ran : Registry.standard.resolve hook type path params = .ok (some clauses))
    (member : clause ∈ clauses) :
    ∃ kind leaf given answer, Leads fields leaf.segments (.primitive kind) ∧
      (MappingView.ofFields fields).property? leaf.dotted = kind.property? ∧
      Registry.standard.resolve hook (.primitive kind) leaf given = .ok (some answer) ∧
      clause ∈ answer := by
  obtain ⟨kind, leaf, given, answer, reached, answered, own⟩ :=
    standard_clause_leaf (fun type path => Leads fields path.segments type) type records
      (fun _ _ _ outer _ listed => outer.child listed) leads ran member
  exact ⟨kind, leaf, given, answer, reached, MappingView.property?_of_leads valid reached, answered,
    own⟩

/-- A name stands for a path of a dataset's schema: it addresses what a mapping has there, and a
search takes it for exactly that. -/
structure Dataset.Stands (dataset : Dataset) (view : MappingView) (path : FieldPath) (name : String)
    (target : Target) : Prop where
  /-- The path is one of the schema. -/
  leads : ∃ type, Leads dataset.schema.fields path.segments type
  /-- The name addresses what the mapping has at the path. -/
  addresses : Addresses view path name target
  /-- A search takes the name for what it addresses. -/
  taken : Target.ofField view name = target

/-- The clauses that filters and orders on stored fields of a valid dataset compile to name only what
the mapping of the dataset indexes, and a search takes their names for just that. -/
theorem stored_clauses_name_indexed_fields {dataset : Dataset} (valid : dataset.validate = .ok ()) :
    ∃ mapping, dataset.mapping .standard = .ok mapping ∧
      ∀ field, .stored field ∈ dataset.members → ∀ params clauses,
        ((Member.stored field).filterClauses .standard params = .ok (some clauses) →
          ∀ clause ∈ clauses, ∃ query name body path target,
            clause = .single query (.single name body) ∧
            query ∈ ["term", "range", "match", "wildcard"] ∧
            (query ∈ ["match", "wildcard"] → target = .text path.dotted) ∧
            dataset.Stands (.ofMapping mapping) path name target) ∧
        ((Member.stored field).sortClauses .standard params = .ok (some clauses) →
          ∀ clause ∈ clauses, ∃ name direction path target,
            clause = Clause.sort name direction ∧
            dataset.Stands (.ofMapping mapping) path name target) := by
  have checked := Dataset.schema_valid valid
  have sound : Valid dataset.schema.fields := (RecordType.validate_eq_ok.mp checked).2
  refine ⟨_, Dataset.mapping_eq checked, fun field member params clauses => ?_⟩
  have start : Leads dataset.schema.fields (FieldPath.ofName field.name).segments field.type :=
    .here (dataset.members_declared _ member)
  constructor
  · intro ran clause inside
    obtain ⟨kind, leaf, given, answer, leads, mapped, answered, own⟩ :=
      clause_mapped sound rfl start ran inside
    obtain ⟨query, name, body, target, shape, known, textual, addressed⟩ :=
      leaf_filter_asks mapped answered clause own
    exact ⟨query, name, body, leaf, target, shape, known, textual, ⟨_, leads⟩, addressed,
      Target.ofField_of_addresses sound leads addressed⟩
  · intro ran clause inside
    obtain ⟨kind, leaf, given, answer, leads, mapped, answered, own⟩ :=
      clause_mapped sound rfl start ran inside
    obtain ⟨name, direction, target, shape, addressed⟩ :=
      leaf_sort_addresses mapped answered clause own
    exact ⟨name, direction, leaf, target, shape, ⟨_, leads⟩, addressed,
      Target.ofField_of_addresses sound leads addressed⟩

/-- Terms whose fields are called like the parts of a mapping. -/
def glossaryDataset : Dataset :=
  let origin : RecordType :=
    ⟨"Origin", [⟨"keyword", .primitive .string⟩, ⟨"fields", .primitive .int⟩]⟩
  .ofSchema ⟨"Term", [⟨"keyword", .primitive .int⟩, ⟨"properties", .record origin⟩]⟩ "terms"

theorem glossary_clauses_name_indexed_fields :
    let origin : SchemaType :=
      .record ⟨"Origin", [⟨"keyword", .primitive .string⟩, ⟨"fields", .primitive .int⟩]⟩
    let params : Json :=
      .single "keyword" (.object [("equals", .string "pole"), ("contains", .string "star")])
    ∃ mapping clauses, glossaryDataset.mapping .standard = .ok mapping ∧
      (Member.stored ⟨"properties", origin⟩).filterClauses .standard params = .ok (some clauses) ∧
      clauses.length = 2 ∧
      ∀ clause ∈ clauses, ∃ query name body path target,
        clause = .single query (.single name body) ∧
        query ∈ ["term", "range", "match", "wildcard"] ∧
        (query ∈ ["match", "wildcard"] → target = .text path.dotted) ∧
        glossaryDataset.Stands (.ofMapping mapping) path name target := by
  intro origin params
  have valid : glossaryDataset.validate = .ok () := rfl
  obtain ⟨mapping, mapped, stands⟩ := stored_clauses_name_indexed_fields valid
  have member : .stored ⟨"properties", origin⟩ ∈ glossaryDataset.members :=
    List.mem_cons_of_mem _ List.mem_cons_self
  exact ⟨mapping, _, mapped, rfl, rfl, (stands _ member params _).1 rfl⟩

end TypedSearch
