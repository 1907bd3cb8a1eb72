import TypedSearch.Catalog.Mapping
import TypedSearch.Proofs.Handler.Dispatch
import TypedSearch.Proofs.Json.Value
import TypedSearch.Proofs.Schema.Induction
import TypedSearch.Proofs.Schema.Paths
import TypedSearch.Proofs.Table
import TypedSearch.Search.Field

/-!
What the mapping of a dataset says. The properties of a valid record are those of its fields, each
under the name of the field, and the path to a field in the schema finds its property in the mapping.
-/

namespace TypedSearch

open Outcome

/-- The property that a primitive is mapped to, if it is indexed. -/
def Primitive.property? : Primitive → Option Json
  | .boolean => some (.single "type" (.string "boolean"))
  | .int => some (Clause.withKeyword "integer")
  | .float => some (.single "type" (.string "float"))
  | .string => some (Clause.withKeyword "text")
  | .bytes | .null | .long | .double => none

/-- The property of a record that has some properties inside. -/
def RecordType.property (inner : Json.Entries) : Json :=
  .object [("type", .string "object"), ("properties", .object inner)]

mutual

/-- The property that a type is mapped to, if it is indexed. -/
def SchemaType.property? : SchemaType → Option Json
  | .primitive kind => kind.property?
  | .record ⟨_, fields⟩ => some (RecordType.property (SchemaField.properties fields))
termination_by structural type => type

/-- The properties of fields, by name. -/
def SchemaField.properties : List SchemaField → Json.Entries
  | [] => []
  | ⟨name, type⟩ :: rest =>
    ((SchemaType.property? type).map (name, ·)).toList ++ SchemaField.properties rest
termination_by structural fields => fields

end

variable {fields : List SchemaField}

namespace SchemaField

theorem mem_properties {name : String} {property : Json} :
    (name, property) ∈ properties fields ↔
      ∃ field ∈ fields, field.name = name ∧ field.type.property? = some property := by
  induction fields with
  | nil => simp [properties]
  | cons field rest ih =>
    obtain ⟨key, type⟩ := field
    rw [properties, List.mem_append, ih]
    simp only [List.mem_cons, exists_eq_or_imp]
    refine or_congr_left ?_
    cases SchemaType.property? type with
    | none => simp
    | some own => simp [eq_comm]

/-- Among fields with different names the property of a field is found under its name. -/
theorem lookup_properties (distinct : Distinct fields) {field : SchemaField}
    (listed : field ∈ fields) :
    (properties fields).lookup field.name = field.type.property? := by
  cases found : (properties fields).lookup field.name with
  | some property =>
    obtain ⟨other, inside, same, own⟩ := mem_properties.mp (Table.mem_of_lookup found)
    rw [← eq_of_name_eq distinct inside listed same, own]
  | none =>
    cases mapped : field.type.property? with
    | none => rfl
    | some property =>
      -- A field that is mapped has an entry, so the search for its name finds one.
      have entry := mem_properties.mpr ⟨field, listed, rfl, mapped⟩
      obtain ⟨other, listedOther⟩ := Table.exists_lookup (List.mem_map.mpr ⟨_, entry, rfl⟩)
      cases found.symm.trans listedOther

end SchemaField

/-- The properties of fields with different names are put behind those that are there. -/
theorem Handler.partProperties_eq (answer : SchemaField → Unit → Except Problem (Option Json))
    {before : Json.Entries}
    (answers : ∀ field ∈ fields, answer field () = .ok field.type.property?)
    (distinct : SchemaField.Distinct fields)
    (fresh : ∀ field ∈ fields, field.name ∉ Json.Entries.keys before) :
    partProperties (fields.map fun field => ⟨field, answer field⟩) before =
      .ok (before ++ SchemaField.properties fields) := by
  induction fields generalizing before with
  | nil => simp [partProperties, SchemaField.properties]
  | cons field rest ih =>
    obtain ⟨first, others⟩ := List.forall_mem_cons.mp answers
    obtain ⟨own, later⟩ := List.forall_mem_cons.mp fresh
    obtain ⟨differ, apart⟩ := List.pairwise_cons.mp distinct
    obtain ⟨name, type⟩ := field
    simp only [List.map_cons, partProperties, first, ok_bind, SchemaField.properties]
    cases type.property? with
    | none => exact ih others apart later
    | some property =>
      have new : ∀ other ∈ rest,
          other.name ∉ Json.Entries.keys (before ++ [(name, property)]) := by
        intro other member
        simp only [Json.Entries.keys, List.map_append, List.mem_append, List.map_singleton,
          List.mem_singleton, not_or]
        exact ⟨later other member, (differ other member).symm⟩
      simp only [Json.Entries.insert_fresh own, ih others apart new, List.append_assoc]
      rfl

/-- Every valid type is mapped to its property. -/
theorem standard_mapping (type : SchemaType) (valid : type.validate = .ok ()) (path : FieldPath) :
    Registry.standard.mapping type path = .ok type.property? := by
  rw [Registry.mapping]
  induction type using SchemaType.type_induction generalizing path with
  | primitive kind =>
    rw [Registry.standard_resolve_primitive]
    cases kind <;> rfl
  | record name fields ih =>
    obtain ⟨legal, distinct⟩ := SchemaField.valid_of_record valid
    rw [Registry.standard_resolve_record]
    simp only [Handler.record, Handler.recordMapping, Capability.resolve]
    rw [Handler.partProperties_eq
      (fun field => Registry.standard.resolve Handler.mapping field.type (path.child field.name))
      (fun field listed => ih field listed (legal field listed).2 _) distinct
      (by simp [Json.Entries.keys])]
    rfl

/-- The properties of fields with different names agree with themselves if each one does. -/
theorem SchemaField.properties_agree (distinct : Distinct fields)
    (each : ∀ field ∈ fields, ∀ property, field.type.property? = some property →
      property.agrees property = true) :
    (Json.object (properties fields)).agrees (.object (properties fields)) = true := by
  rw [Json.agrees, beq_self_eq_true, Bool.true_and, Json.entriesAgree_iff]
  rintro ⟨name, property⟩ member
  obtain ⟨field, listed, rfl, mapped⟩ := mem_properties.mp member
  exact ⟨property, (lookup_properties distinct listed).trans mapped, each field listed _ mapped⟩

/-- The property of a valid type agrees with itself: no key comes twice in it. -/
theorem SchemaType.property_agrees (type : SchemaType) (valid : type.validate = .ok ()) :
    ∀ property, type.property? = some property → property.agrees property = true := by
  induction type using SchemaType.type_induction with
  | primitive kind => cases kind <;> rintro property ⟨⟩ <;> rfl
  | record name fields ih =>
    obtain ⟨legal, distinct⟩ := SchemaField.valid_of_record valid
    rintro property ⟨⟩
    have inner := SchemaField.properties_agree distinct fun field listed =>
      ih field listed (legal field listed).2
    rw [RecordType.property, Json.agrees, beq_self_eq_true, Bool.true_and, Json.entriesAgree_iff]
    exact List.forall_mem_cons.mpr ⟨⟨_, rfl, rfl⟩, List.forall_mem_singleton.mpr ⟨_, rfl, inner⟩⟩

namespace Dataset

theorem fieldProperties_eq (registry : Registry) (before : Json.Entries) :
    fieldProperties registry fields before =
      Handler.partProperties (fields.map fun field =>
        ⟨field, fun _ => registry.mapping field.type (.ofName field.name)⟩) before := by
  induction fields generalizing before with
  | nil => rfl
  | cons field rest ih =>
    rw [fieldProperties, List.map_cons, Handler.partProperties]
    refine bind_congr fun answer => ?_
    cases answer <;> exact ih _

/-- The mapping of a dataset with valid fields has the properties of its stored fields. -/
theorem mapping_of_valid {dataset : Dataset} (valid : SchemaField.Valid dataset.schema.fields) :
    dataset.mapping .standard =
      .ok (.single "properties" (.object (SchemaField.properties dataset.schema.fields))) := by
  obtain ⟨legal, distinct⟩ := valid
  rw [mapping, fieldProperties_eq, Handler.partProperties_eq
    (fun field _ => Registry.standard.mapping field.type (.ofName field.name))
    (fun field listed => standard_mapping field.type (legal field listed).2 _) distinct
    (by simp [Json.Entries.keys])]
  rfl

theorem mapping_eq {dataset : Dataset} (valid : dataset.schema.validate = .ok ()) :
    dataset.mapping .standard =
      .ok (.single "properties" (.object (SchemaField.properties dataset.schema.fields))) :=
  mapping_of_valid (RecordType.validate_eq_ok.mp valid).2

/-- The mapping of a valid dataset agrees with itself. -/
theorem mapping_agrees {dataset : Dataset} (valid : dataset.schema.validate = .ok ())
    {mapping : Json} (mapped : dataset.mapping .standard = .ok mapping) :
    mapping.agrees mapping = true := by
  obtain ⟨-, legal, distinct⟩ := RecordType.validate_eq_ok.mp valid
  rw [mapping_eq valid] at mapped
  cases mapped
  have inner := SchemaField.properties_agree distinct fun field listed =>
    field.type.property_agrees (legal field listed).2
  rw [Json.single, Json.agrees, beq_self_eq_true, Bool.true_and, Json.entriesAgree_iff]
  exact List.forall_mem_singleton.mpr ⟨_, rfl, inner⟩

end Dataset

namespace Catalog

variable {registry : Registry} {config : EngineConfig} {mappings joined : Table Json}
  {entry : String × Dataset}

/-- Adding a dataset sets its index unless another dataset has set it alike. -/
theorem addMapping_eq_ok (ran : addMapping registry config mappings entry = .ok joined) :
    ∃ mapping, entry.2.mapping registry = .ok mapping ∧
      (∀ name, joined.get? name =
        if name = config.indexName entry.2.index then some ((mappings.get? name).getD mapping)
        else mappings.get? name) ∧
      ∀ other, mappings.get? (config.indexName entry.2.index) = some other →
        other.agrees mapping = true := by
  obtain ⟨mapping, made, ran⟩ := bind_eq_ok.mp ran
  refine ⟨mapping, made, ?_⟩
  cases found : mappings.get? (config.indexName entry.2.index) with
  | none =>
    rw [found] at ran
    cases ran
    refine ⟨fun name => ?_, nofun⟩
    rw [Table.get?_insert]
    split
    next same => rw [same, found, Option.getD_none]
    next => rfl
  | some other =>
    simp only [found] at ran
    split at ran
    next alike =>
      cases ran
      refine ⟨fun name => ?_, fun _ same => Option.some.inj same ▸ alike⟩
      split
      next same => rw [same, found, Option.getD_some]
      next => rfl
    next => cases ran

section Joined

variable {entries : List (String × Dataset)}
  (ran : entries.foldlM (addMapping registry config) mappings = .ok joined)

include ran

/-- Adding datasets keeps the mappings that are there. -/
theorem addMappings_keep {name : String} {mapping : Json}
    (found : mappings.get? name = some mapping) : joined.get? name = some mapping := by
  induction entries generalizing mappings with
  | nil =>
    cases ran
    exact found
  | cons entry rest ih =>
    obtain ⟨next, first, later⟩ := bind_eq_ok.mp ran
    obtain ⟨own, -, content, -⟩ := addMapping_eq_ok first
    refine ih later ?_
    rw [content, found]
    split <;> rfl

/-- Every added dataset has its mapping under its index, or one that agrees with it. -/
theorem addMappings_mapped (listed : entry ∈ entries) :
    ∃ mapping stored, entry.2.mapping registry = .ok mapping ∧
      joined.get? (config.indexName entry.2.index) = some stored ∧
      (stored = mapping ∨ stored.agrees mapping = true) := by
  induction entries generalizing mappings with
  | nil => cases listed
  | cons head rest ih =>
    obtain ⟨next, first, later⟩ := bind_eq_ok.mp ran
    rcases List.mem_cons.mp listed with rfl | inside
    · obtain ⟨mapping, made, content, alike⟩ := addMapping_eq_ok first
      have set := content (config.indexName entry.2.index)
      rw [if_pos rfl] at set
      refine ⟨mapping, _, made, addMappings_keep later set, ?_⟩
      cases found : mappings.get? (config.indexName entry.2.index) with
      | none => exact .inl rfl
      | some other => exact .inr (alike other found)
    · exact ih later inside

/-- The mappings are for the indices of the datasets and for those that were there before. -/
theorem addMappings_contains {name : String} :
    joined.contains name = true ↔ mappings.contains name = true ∨
      ∃ entry ∈ entries, config.indexName entry.2.index = name := by
  induction entries generalizing mappings with
  | nil =>
    cases ran
    simp
  | cons head rest ih =>
    obtain ⟨next, first, later⟩ := bind_eq_ok.mp ran
    obtain ⟨mapping, -, content, -⟩ := addMapping_eq_ok first
    have step : next.contains name = true ↔
        mappings.contains name = true ∨ config.indexName head.2.index = name := by
      rw [Table.contains, content, Table.contains]
      by_cases same : name = config.indexName head.2.index
      · simp [same]
      · simp [same, Ne.symm same]
    simp only [ih later, step, List.mem_cons, exists_eq_or_imp, or_assoc]

end Joined

end Catalog

namespace MappingView

/-- A path in valid fields finds the property of the type that it leads to. -/
theorem propertyAlong_of_leads (valid : SchemaField.Valid fields) {segments : List String}
    {type : SchemaType} (leads : SchemaField.Leads fields segments type) :
    propertyAlong (SchemaField.properties fields) segments = type.property? := by
  induction leads with
  | here listed => exact SchemaField.lookup_properties valid.2 listed
  | deeper listed inside rest ih =>
    have checked := (valid.1 _ listed).2
    obtain ⟨next, later, rfl⟩ := List.exists_cons_of_ne_nil rest.ne_nil
    rw [propertyAlong, SchemaField.lookup_properties valid.2 listed, inside]
    exact ih (SchemaField.valid_of_record (inside ▸ checked))

end MappingView

end TypedSearch
