import Mathlib.Data.List.Find
import TypedSearch.Proofs.Api.Assembly
import TypedSearch.Proofs.Catalog.Sharing

/-!
The place of a type has no influence on its surfaces and its mapping. No standard handler looks at the
path when it selects, nor when it answers with a type of the API or with a property. So a type has the
same answers wherever it occurs, and its definitions can be joined once more for every place.
-/

namespace TypedSearch

open Definitions Outcome

variable {π α : Type}

/-- A capability that has the same answer at every path. -/
def Capability.Placeless (capability : HandlerCapability π α) : Prop :=
  ∀ type path other parts params,
    capability.resolve ⟨type, path, parts⟩ params = capability.resolve ⟨type, other, parts⟩ params

/-- A handler that selects a type at every path or at none. -/
def Handler.SelectsAnywhere (handler : Handler) : Prop :=
  ∀ type path other, handler.selects type path = handler.selects type other

namespace Registry

variable {pick : Handler → HandlerCapability π α} {registry : Registry}

theorem answerAt_placeless (anywhere : ∀ handler ∈ registry.handlers, handler.SelectsAnywhere)
    (placeless : ∀ handler ∈ registry.handlers, (pick handler).Placeless) (type : SchemaType)
    (path other : FieldPath) (parts : List (Part π α)) (params : π) :
    registry.answerAt pick ⟨type, path, parts⟩ params =
      registry.answerAt pick ⟨type, other, parts⟩ params := by
  have same : registry.select? type path = registry.select? type other :=
    List.find?_congr fun handler listed => anywhere handler listed type path other
  simp only [answerAt, same]
  cases found : registry.select? type other with
  | none => rfl
  | some handler =>
    exact placeless handler (List.mem_of_find?_eq_some found) type path other parts params

/-- If no handler looks at paths, the answers for a type are the same at all of them. -/
theorem resolve_placeless (anywhere : ∀ handler ∈ registry.handlers, handler.SelectsAnywhere)
    (placeless : ∀ handler ∈ registry.handlers, (pick handler).Placeless) (type : SchemaType)
    (path other : FieldPath) (params : π) :
    registry.resolve pick type path params = registry.resolve pick type other params := by
  induction type using SchemaType.type_induction generalizing path other params with
  | primitive kind => exact answerAt_placeless anywhere placeless _ path other _ params
  | record name fields ih =>
    -- The answers of the fields are functions of the parameters, and equal at any two paths.
    have parts : registry.parts pick fields path = registry.parts pick fields other := by
      rw [parts_eq_map, parts_eq_map]
      refine List.map_congr_left fun field listed => ?_
      exact congrArg _ (funext fun params => ih field listed _ _ params)
    rw [resolve, resolve, parts]
    exact answerAt_placeless anywhere placeless _ path other _ params

theorem standard_anywhere : ∀ handler ∈ standard.handlers, handler.SelectsAnywhere := by
  intro handler listed
  simp only [standard, List.mem_cons, List.not_mem_nil, or_false] at listed
  rcases listed with rfl | rfl | rfl | rfl | rfl | rfl <;> exact fun _ _ _ => rfl

/-- The standard handlers look at no path for the types of the API, nor for properties. -/
theorem standard_placeless : ∀ handler ∈ standard.handlers,
    (∀ surface : Surface, (surface.pick handler).Placeless) ∧ handler.mapping.Placeless := by
  intro handler listed
  simp only [standard, List.mem_cons, List.not_mem_nil, or_false] at listed
  refine ⟨fun surface => ?_, ?_⟩
  · cases surface <;> rcases listed with rfl | rfl | rfl | rfl | rfl | rfl <;>
      exact fun _ _ _ _ _ => rfl
  · rcases listed with rfl | rfl | rfl | rfl | rfl | rfl <;> exact fun _ _ _ _ _ => rfl

theorem standard_surface_placeless (surface : Surface) (type : SchemaType)
    (path other : FieldPath) :
    surface.registryType standard type path = surface.registryType standard type other := by
  rw [Surface.registryType_eq, Surface.registryType_eq]
  exact resolve_placeless standard_anywhere
    (fun handler listed => (standard_placeless handler listed).1 surface) type path other ()

theorem standard_mapping_placeless (type : SchemaType) (path other : FieldPath) :
    standard.mapping type path = standard.mapping type other :=
  resolve_placeless standard_anywhere
    (fun handler listed => (standard_placeless handler listed).2) type path other ()

/-- The properties of a record, wherever it occurs, are those of a dataset with its fields. -/
theorem standard_mapping_record (shape : RecordType) (path : FieldPath) :
    standard.mapping (.record shape) path =
      (fun properties => some (RecordType.property properties)) <$>
        Dataset.fieldProperties standard shape.fields [] := by
  obtain ⟨name, fields⟩ := shape
  rw [mapping, standard_resolve_record, Dataset.fieldProperties_eq]
  have parts : (fields.map fun field : SchemaField => (⟨field,
        standard.resolve Handler.mapping field.type (path.child field.name)⟩ : Part Unit Json)) =
      fields.map fun field => ⟨field, fun _ => standard.mapping field.type (.ofName field.name)⟩ := by
    refine List.map_congr_left fun field _ => ?_
    exact congrArg _ (funext fun _ => standard_mapping_placeless field.type _ _)
  rw [parts]
  rfl

theorem standard_fieldProperties (fields : List SchemaField) :
    ∃ properties, Dataset.fieldProperties standard fields [] = .ok properties := by
  obtain ⟨mapping, mapped, -⟩ := (Dataset.ofSchema ⟨"", fields⟩ "").mapping_plain
  obtain ⟨properties, made, -⟩ := bind_eq_ok.mp mapped
  exact ⟨properties, made⟩

/-- A type whose definitions are in a table adds nothing to it, at any other place and however many
types have been joined to the table since. -/
theorem standard_rejoined {surface : Surface} {type : SchemaType} {path other : FieldPath}
    {emitted again : Emitted TypeRef} {before joined later : Definitions}
    (first : surface.registryType standard type path = .ok (some emitted))
    (second : surface.registryType standard type other = .ok (some again))
    (ran : before.mergeChecked emitted.definitions = .ok joined) (kept : later.Keeps joined) :
    later.mergeChecked again.definitions = .ok later := by
  have same := first.symm.trans ((standard_surface_placeless surface type path other).trans second)
  cases same
  rw [Surface.registryType_eq] at first
  exact mergeChecked_kept (standard_made type first).populated
    (kept.trans (keeps_mergeChecked ran).2)

end Registry

open Registry

/-- Wherever a type occurs, it has the same type of the API on each surface, if any, and the same
mapping. A record has the same properties everywhere, those of a dataset with its fields. No type
collides with itself: what is joined for it once can be joined again for every other place. -/
theorem types_placeless :
    (∀ type path other,
      standard.fieldType type path = standard.fieldType type other ∧
      standard.filterArg type path = standard.filterArg type other ∧
      standard.orderArg type path = standard.orderArg type other ∧
      standard.mapping type path = standard.mapping type other) ∧
    (∀ shape, ∃ properties,
      (∀ path, standard.mapping (.record shape) path =
        .ok (some (.object [("type", .string "object"), ("properties", .object properties)]))) ∧
      ∀ dataset : Dataset, dataset.schema = shape →
        dataset.mapping standard = .ok (.object [("properties", .object properties)])) ∧
    ∀ (surface : Surface) type path other emitted again (before joined later : Definitions),
      surface.registryType standard type path = .ok (some emitted) →
      surface.registryType standard type other = .ok (some again) →
      before.mergeChecked emitted.definitions = .ok joined → later.Keeps joined →
      later.mergeChecked again.definitions = .ok later := by
  refine ⟨fun type path other => ⟨standard_surface_placeless .field type path other,
    standard_surface_placeless .filter type path other,
    standard_surface_placeless .order type path other,
    standard_mapping_placeless type path other⟩, fun shape => ?_, ?_⟩
  · obtain ⟨properties, made⟩ := standard_fieldProperties shape.fields
    refine ⟨properties, fun path => ?_, ?_⟩
    · rw [standard_mapping_record, made]
      rfl
    · rintro dataset rfl
      rw [Dataset.mapping, made]
      rfl
  · intro surface type path other emitted again before joined later first second ran kept
    exact standard_rejoined first second ran kept

/-- An address with a place, which is a record as well. -/
def addressShape : RecordType :=
  ⟨"Address", [⟨"street", .primitive .string⟩,
    ⟨"place", .record ⟨"Place", [⟨"lat", .primitive .float⟩, ⟨"long", .primitive .float⟩]⟩⟩]⟩

/-- The filter types of addresses at home can be joined again for addresses at work. -/
theorem address_rejoined : ∃ emitted joined,
    standard.filterArg (.record addressShape) (.ofName "home") = .ok (some emitted) ∧
      standard.filterArg (.record addressShape) (.ofName "work") = .ok (some emitted) ∧
      Definitions.empty.mergeChecked emitted.definitions = .ok joined ∧
      joined.mergeChecked emitted.definitions = .ok joined := by
  obtain ⟨emitted, joined, home, ran⟩ : ∃ emitted joined,
      Surface.filter.registryType standard (.record addressShape) (.ofName "home") =
        .ok (some emitted) ∧ Definitions.empty.mergeChecked emitted.definitions = .ok joined :=
    ⟨_, _, rfl, rfl⟩
  have work := (types_placeless.1 (.record addressShape) (.ofName "home") (.ofName "work")).2.1
  exact ⟨emitted, joined, home, work.symm.trans home, ran,
    types_placeless.2.2 .filter _ _ _ _ _ _ _ _ home (work.symm.trans home) ran (.refl _)⟩

end TypedSearch
