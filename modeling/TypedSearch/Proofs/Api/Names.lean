import TypedSearch.Proofs.Api.Closure
import TypedSearch.Proofs.Text.Name

/-!
Names in generated schemas. Entries and arguments are named by identifiers. Types are too, unless a
dataset has a name from which no identifier can be made: one in which no letter follows the leading
underscores.
-/

namespace TypedSearch

open Outcome

/-- The names that a type gives to its entries and to their arguments are identifiers. -/
structure NamedType.NamesLegally (type : NamedType) : Prop where
  /-- The entries are named by identifiers. -/
  entries : ∀ name ∈ type.entryNames, Name.isIdentifier name = true
  /-- So are inputs and arguments. -/
  inputs : ∀ input ∈ type.body.inputs, Name.isIdentifier input.name = true

variable {catalog : Catalog} {schema : ApiSchema} {names : DatasetNames} {surface : Surface}

theorem ComputedField.inputs_legal {name : String} {field : ComputedField}
    (valid : field.validate name = .ok ()) :
    ∀ input ∈ field.inputs, Name.isIdentifier input.name = true := by
  obtain ⟨-, -, arguments⟩ := validate_eq_ok.mp valid
  intro input member
  have named : input.name ∈ field.arguments.map (·.name) :=
    inputs_names valid ▸ List.mem_map.mpr ⟨input, member, rfl⟩
  obtain ⟨argument, inside, same⟩ := List.mem_map.mp named
  exact same ▸ (arguments argument inside).1

/-- An input object gives legal names if its inputs have them. -/
theorem NamedType.namesLegally_inputObject {name : String} {inputs : List InputValue}
    (legal : ∀ input ∈ inputs, Name.isIdentifier input.name = true) :
    NamesLegally ⟨name, .inputObject inputs⟩ :=
  ⟨List.forall_mem_map.mpr legal, legal⟩

/-- An object gives legal names if its fields and their arguments have them. -/
theorem NamedType.namesLegally_object {name : String} {fields : List ObjectField}
    (legal : ∀ field ∈ fields, Name.isIdentifier field.name = true ∧
      ∀ argument ∈ field.arguments, Name.isIdentifier argument.name = true) :
    NamesLegally ⟨name, .object fields⟩ := by
  refine ⟨List.forall_mem_map.mpr fun field member => (legal field member).1, ?_⟩
  intro argument member
  obtain ⟨field, listed, member⟩ := List.mem_flatMap.mp member
  exact (legal field listed).2 argument member

open NamedType

/-- A type that holds entries of a surface gives legal names if the entries and their arguments have
them. -/
theorem Surface.body_namesLegally {name : String} {entries : List SurfaceEntry}
    (legal : ∀ entry ∈ entries, Name.isIdentifier entry.name = true ∧
      ∀ argument ∈ entry.arguments, Name.isIdentifier argument.name = true) :
    NamesLegally ⟨name, surface.body entries⟩ := by
  cases surface with
  | field => exact namesLegally_object (List.forall_mem_map.mpr legal)
  | filter | order =>
    exact namesLegally_inputObject (List.forall_mem_map.mpr fun entry inside => (legal entry inside).1)

/-- The entries of a valid dataset and their arguments have legal names. -/
theorem Dataset.entries_legal {dataset : Dataset} (valid : dataset.validate = .ok ())
    (surface : Surface) (names : DatasetNames) :
    ∀ entry ∈ dataset.surfaceEntries surface names, Name.isIdentifier entry.name = true ∧
      ∀ argument ∈ entry.arguments, Name.isIdentifier argument.name = true := by
  intro entry inside
  obtain ⟨⟨_, types⟩, outlined, rfl⟩ := List.mem_map.mp inside
  obtain ⟨member, listed, found⟩ := List.mem_filterMap.mp outlined
  refine ⟨Member.entry_name found ▸ members_legal valid member listed, ?_⟩
  rcases Member.entry_arguments found with none | ⟨name, field, rfl, -, same⟩
  · simp [none]
  · rw [same]
    exact ComputedField.inputs_legal (computed_valid valid _ (members_declared _ listed))

namespace Catalog

/-- Whatever the origin of a type, the names that it gives are legal. -/
theorem Origin.namesLegally {type : NamedType} (origin : catalog.Origin type)
    (valid : catalog.validate = .ok ()) : type.NamesLegally := by
  cases origin with
  | leaf fixed =>
    have legal : ∀ type ∈ leafTypes,
        (∀ name ∈ type.entryNames, Name.isIdentifier name = true) ∧
          ∀ input ∈ type.body.inputs, Name.isIdentifier input.name = true := by decide +kernel
    exact ⟨(legal type fixed).1, (legal type fixed).2⟩
  | record surface name fields checked inner =>
    obtain ⟨-, legal, -⟩ := RecordType.validate_eq_ok.mp checked
    rw [Surface.recordType_eq]
    refine Surface.body_namesLegally fun entry member => ?_
    obtain ⟨part, inside, rfl⟩ := List.mem_map.mp member
    obtain ⟨field, listed, same, -⟩ := mem_outlines.mp inside
    exact ⟨same ▸ (legal field listed).1, nofun⟩
  | arguments listed owned appears =>
    have checked := (Catalog.validate_eq_ok.mp valid _ listed).2
    exact namesLegally_inputObject
      (ComputedField.inputs_legal (Dataset.computed_valid checked _ owned))
  | wrapper surface listed owned wrapped =>
    cases surface <;> cases wrapped
    all_goals exact namesLegally_inputObject (by simp +decide)
  | entries name dataset surface listed inner =>
    have checked := (Catalog.validate_eq_ok.mp valid _ listed).2
    exact Surface.body_namesLegally (Dataset.entries_legal checked surface (.of name))
  | combinations listed single itself =>
    exact namesLegally_inputObject (by simp +decide)
  | query =>
    refine namesLegally_object fun field member => ?_
    obtain ⟨outline, root, rfl⟩ := List.mem_map.mp member
    obtain ⟨⟨name, dataset⟩, listed, rfl⟩ := List.mem_map.mp root
    refine ⟨(Catalog.validate_eq_ok.mp valid _ listed).1, ?_⟩
    refine List.forall_mem_append.mpr ⟨fun argument member => ?_, fun argument member => ?_⟩
    · obtain ⟨rfl, -⟩ := Dataset.filterOutline_argument member
      exact (by decide : Name.isIdentifier "filter" = true)
    · obtain ⟨rfl, -⟩ := Dataset.orderOutline_argument member
      exact (by decide : Name.isIdentifier "order" = true)

/-- The object type of a dataset has a legal name if the dataset's name leads with a letter. -/
theorem object_legal {name : String} {dataset : Dataset} (valid : catalog.validate = .ok ())
    (leads : ∀ name ∈ catalog.datasets.names, Name.leadsWithLetter name = true)
    (listed : (name, dataset) ∈ catalog.datasets.entries) :
    Name.isIdentifier (DatasetNames.of name).object = true := by
  have legal := (Catalog.validate_eq_ok.mp valid _ listed).1
  have known : name ∈ catalog.datasets.names := List.mem_map.mpr ⟨_, listed, rfl⟩
  exact (Name.isIdentifier_pascalCase legal).trans (leads name known)

/-- So has what is made for a computed field of the dataset. -/
theorem memberBase_legal {name computed : String} {dataset : Dataset} {field : ComputedField}
    (valid : catalog.validate = .ok ())
    (leads : ∀ name ∈ catalog.datasets.names, Name.leadsWithLetter name = true)
    (listed : (name, dataset) ∈ catalog.datasets.entries)
    (owned : (computed, field) ∈ dataset.computed.entries) :
    Name.isIdentifier ((DatasetNames.of name).memberBase computed) = true := by
  have checked := (Catalog.validate_eq_ok.mp valid _ listed).2
  have legal := (ComputedField.validate_eq_ok.mp (Dataset.computed_valid checked _ owned)).1
  exact Name.isIdentifier_append (object_legal valid leads listed)
    (Name.pascalCase_inner (Name.isIdentifier_inner legal))

/-- Whatever the origin of a type, its name is legal if the datasets have names that lead with
letters. -/
theorem Origin.name_legal {type : NamedType} (origin : catalog.Origin type)
    (valid : catalog.validate = .ok ())
    (leads : ∀ name ∈ catalog.datasets.names, Name.leadsWithLetter name = true) :
    Name.isIdentifier type.name = true := by
  cases origin with
  | leaf fixed =>
    exact (show ∀ type ∈ leafTypes, Name.isIdentifier type.name = true by decide +kernel) type fixed
  | record surface name fields checked inner =>
    obtain ⟨legal, -⟩ := RecordType.validate_eq_ok.mp checked
    cases surface <;> exact Name.isIdentifier_append legal (by decide)
  | arguments listed owned appears =>
    exact Name.isIdentifier_append (memberBase_legal valid leads listed owned) (by decide)
  | wrapper surface listed owned wrapped =>
    cases surface <;> cases wrapped
    all_goals exact Name.isIdentifier_append (memberBase_legal valid leads listed owned) (by decide)
  | entries name dataset surface listed inner =>
    cases surface with
    | field => exact object_legal valid leads listed
    | filter | order => exact Name.isIdentifier_append (object_legal valid leads listed) (by decide)
  | combinations listed single itself =>
    exact Name.isIdentifier_append (object_legal valid leads listed) (by decide)
  | query => exact (by decide : Name.isIdentifier queryTypeName = true)

end Catalog

/-- A generated schema names all entries and arguments by identifiers. It names all types by
identifiers exactly if in every name of a dataset a letter follows the leading underscores. -/
theorem generated_names_legal_iff (built : catalog.IsBuilt)
    (generated : catalog.apiSchema .standard = .ok schema) :
    (∀ type ∈ schema.definitions, type.NamesLegally) ∧
      ((∀ type ∈ schema.definitions, Name.isIdentifier type.name = true) ↔
        ∀ name ∈ catalog.datasets.names, Name.leadsWithLetter name = true) := by
  obtain ⟨valid, -⟩ := Catalog.generated_contents built generated
  have origin := Catalog.origin_of_generated built generated
  refine ⟨fun type member => (origin type member).namesLegally valid, fun legal name known => ?_,
    fun leads type member => (origin type member).name_legal valid leads⟩
  -- The object type of a dataset is always made, and it has nothing behind the dataset's part.
  obtain ⟨⟨name, dataset⟩, listed, rfl⟩ := List.mem_map.mp known
  have defined := (Catalog.mem_generated built generated).mpr (Catalog.object_made listed)
  have object := legal _ defined
  have own : Name.isIdentifier name = true := (Catalog.validate_eq_ok.mp valid _ listed).1
  exact (Name.isIdentifier_pascalCase own).symm.trans object

theorem library_names_legal :
    ∃ schema, libraryCatalog.apiSchema .standard = .ok schema ∧
      (∀ type ∈ schema.definitions, type.NamesLegally) ∧
        ((∀ type ∈ schema.definitions, Name.isIdentifier type.name = true) ↔
          ∀ name ∈ libraryCatalog.datasets.names, Name.leadsWithLetter name = true) := by
  obtain ⟨schema, generated⟩ := libraryCatalog_generated
  exact ⟨schema, generated, generated_names_legal_iff libraryCatalog_built generated⟩

/-- The catalog of one dataset of people that have an age. -/
def ageCatalog (name : String) : Catalog :=
  Catalog.empty.withDataset name (Dataset.ofSchema ⟨"Person", [⟨"age", .primitive .int⟩]⟩ "people")

/-- The name `_1` of a dataset is an identifier, but the type made for the dataset is called `1`. -/
theorem digit_type_generated :
    ∃ schema, (ageCatalog "_1").IsBuilt ∧ (ageCatalog "_1").apiSchema .standard = .ok schema ∧
      ∃ type ∈ schema.definitions, type.name = "1" ∧ Name.isIdentifier type.name = false := by
  have built : (ageCatalog "_1").IsBuilt := Catalog.isBuilt_withDataset nofun nofun
  obtain ⟨schema, generated⟩ : ∃ schema, (ageCatalog "_1").apiSchema .standard = .ok schema :=
    not_fails_iff.mp (by decide +kernel)
  have defined := (Catalog.mem_generated built generated).mpr
    (Catalog.object_made List.mem_cons_self)
  exact ⟨schema, built, generated, _, defined, by decide +kernel, by decide +kernel⟩

end TypedSearch
