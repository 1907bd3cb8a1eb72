import TypedSearch.Proofs.Catalog.Dataset

/-!
Validation is exact. A catalog is accepted if all of its names are words, no record in it repeats a
field and all arguments have types that the API can express, and what is reported of any other catalog
is one of its faults.
-/

namespace TypedSearch

open Outcome

/-- A type that the API can express the arguments of computed fields with. -/
def SchemaType.IsArgumentType (type : SchemaType) : Prop :=
  ∃ kind ∈ [Primitive.boolean, .int, .float, .string], type = .primitive kind

theorem argumentScalar?_isSome {type : SchemaType} :
    (argumentScalar? type).isSome = true ↔ type.IsArgumentType := by
  cases type with
  | primitive kind => cases kind <;> simp [argumentScalar?, SchemaType.IsArgumentType]
  | record shape => simp [argumentScalar?, SchemaType.IsArgumentType]

theorem Argument.validate_eq_error {computed : String} {argument : Argument} {problem : Problem}
    (refused : argument.validate computed = .error problem) :
    ¬ Name.IsWord argument.name ∧ problem = .schema (.argumentName argument.name computed) ∨
    ¬ argument.type.IsArgumentType ∧
      problem = .schema (.argumentType argument.name computed argument.type) := by
  unfold validate at refused
  split at refused
  next illegal =>
    cases refused
    refine .inl ⟨fun legal => ?_, rfl⟩
    simp [Name.isIdentifier_iff.mpr legal] at illegal
  next =>
    split at refused
    next unsupported =>
      cases refused
      refine .inr ⟨fun supported => ?_, rfl⟩
      have scalar := argumentScalar?_isSome.mpr supported
      simp [Option.isNone_iff_eq_none.mp unsupported] at scalar
    next => cases refused

/-- A dataset is valid if the records in its schema are well named and its computed fields are valid. -/
theorem Dataset.validate_eq_ok {dataset : Dataset} :
    dataset.validate = .ok () ↔
      (SchemaType.record dataset.schema).validate = .ok () ∧
        ∀ entry ∈ dataset.computed.entries, entry.2.validate entry.1 = .ok () := by
  constructor
  · intro valid
    exact ⟨schema_valid valid, computed_valid valid⟩
  · rintro ⟨schema, computed⟩
    exact bind_eq_ok.mpr ⟨(), schema, forM_eq_ok.mpr computed⟩

namespace Catalog

/-- A computed field of a name is among those of a dataset in the catalog. -/
def HasComputed (catalog : Catalog) (name : String) (field : ComputedField) : Prop :=
  ∃ entry ∈ catalog.datasets.entries, (name, field) ∈ entry.2.computed.entries

/-- A record occurs in the schema of a dataset or in the result type of a computed field. -/
def HasRecord (catalog : Catalog) (shape : RecordType) : Prop :=
  (∃ entry ∈ catalog.datasets.entries, (SchemaType.record entry.2.schema).Contains shape) ∨
    ∃ name field, catalog.HasComputed name field ∧ field.resultType.Contains shape

/-- A catalog is well named if everything in it has a word as its name, no record repeats a field, and
the API can express all arguments. -/
structure WellNamed (catalog : Catalog) : Prop where
  datasets : ∀ name ∈ catalog.datasets.names, Name.IsWord name
  /-- Records are well named at any depth. -/
  records : ∀ shape, catalog.HasRecord shape → shape.WellNamed
  computed : ∀ name field, catalog.HasComputed name field → Name.IsWord name
  /-- Arguments have words as names and types that the API can express. -/
  arguments : ∀ name field, catalog.HasComputed name field → ∀ argument ∈ field.arguments,
    Name.IsWord argument.name ∧ argument.type.IsArgumentType

/-- What can be wrong with a catalog, with the issue that reports it. -/
inductive Fault (catalog : Catalog) : SchemaIssue → Prop where
  | dataset {name : String} (listed : name ∈ catalog.datasets.names)
      (illegal : ¬ Name.IsWord name) : Fault catalog (.datasetName name)
  | record {shape : RecordType} {issue : SchemaIssue} (has : catalog.HasRecord shape)
      (fault : shape.Fault issue) : Fault catalog issue
  | computed {name : String} {field : ComputedField} (has : catalog.HasComputed name field)
      (illegal : ¬ Name.IsWord name) : Fault catalog (.computedName name)
  | argument {name : String} {field : ComputedField} {argument : Argument}
      (has : catalog.HasComputed name field) (listed : argument ∈ field.arguments)
      (illegal : ¬ Name.IsWord argument.name) : Fault catalog (.argumentName argument.name name)
  | unsupported {name : String} {field : ComputedField} {argument : Argument}
      (has : catalog.HasComputed name field) (listed : argument ∈ field.arguments)
      (unsupported : ¬ argument.type.IsArgumentType) :
      Fault catalog (.argumentType argument.name name argument.type)

variable {catalog : Catalog} {problem : Problem}

/-- A computed field is refused for a fault of the catalog that it is in. -/
theorem computed_fault {name : String} {field : ComputedField} (has : catalog.HasComputed name field)
    (refused : field.validate name = .error problem) :
    ∃ issue, problem = .schema issue ∧ catalog.Fault issue := by
  unfold ComputedField.validate at refused
  cases legal : Name.isIdentifier name with
  | false =>
    rw [legal] at refused
    cases refused
    refine ⟨_, rfl, .computed has fun word => ?_⟩
    rw [Name.isIdentifier_iff.mpr word] at legal
    cases legal
  | true =>
    simp only [legal, Bool.not_true, Bool.false_eq_true, ↓reduceIte] at refused
    rcases bind_eq_error.mp refused with result | ⟨_, -, refused⟩
    · obtain ⟨shape, issue, inside, rfl, fault⟩ := SchemaType.validate_eq_error result
      exact ⟨issue, rfl, .record (.inr ⟨name, field, has, inside⟩) fault⟩
    · obtain ⟨argument, listed, refused⟩ := forM_eq_error refused
      rcases Argument.validate_eq_error refused with ⟨illegal, rfl⟩ | ⟨unsupported, rfl⟩
      · exact ⟨_, rfl, .argument has listed illegal⟩
      · exact ⟨_, rfl, .unsupported has listed unsupported⟩

theorem validate_eq_ok_iff : catalog.validate = .ok () ↔ catalog.WellNamed := by
  simp only [validate_eq_ok, Dataset.validate_eq_ok, ComputedField.validate_eq_ok,
    SchemaType.validate_eq_ok, argumentScalar?_isSome, Name.isIdentifier_iff]
  constructor
  · intro valid
    constructor
    case datasets =>
      intro name listed
      obtain ⟨entry, inside, rfl⟩ := List.mem_map.mp listed
      exact (valid entry inside).1
    case records =>
      rintro shape (⟨entry, listed, inside⟩ | ⟨name, field, ⟨entry, listed, owned⟩, inside⟩)
      · exact (valid entry listed).2.1 shape inside
      · exact ((valid entry listed).2.2 _ owned).2.1 shape inside
    case computed =>
      rintro name field ⟨entry, listed, owned⟩
      exact ((valid entry listed).2.2 _ owned).1
    case arguments =>
      rintro name field ⟨entry, listed, owned⟩
      exact ((valid entry listed).2.2 _ owned).2.2
  · intro named entry listed
    refine ⟨named.datasets _ (List.mem_map_of_mem listed), fun shape inside => ?_,
      fun computed owned => ⟨?_, fun shape inside => ?_, ?_⟩⟩
    · exact named.records shape (.inl ⟨entry, listed, inside⟩)
    · exact named.computed _ _ ⟨entry, listed, owned⟩
    · exact named.records shape (.inr ⟨_, _, ⟨entry, listed, owned⟩, inside⟩)
    · exact named.arguments _ _ ⟨entry, listed, owned⟩

/-- A catalog is refused for one of its faults. -/
theorem validate_eq_error (refused : catalog.validate = .error problem) :
    ∃ issue, problem = .schema issue ∧ catalog.Fault issue := by
  obtain ⟨⟨name, dataset⟩, listed, refused⟩ := forM_eq_error refused
  split at refused
  next =>
    rcases bind_eq_error.mp refused with schema | ⟨_, -, refused⟩
    · have whole : (SchemaType.record dataset.schema).validate = .error problem := schema
      obtain ⟨shape, issue, inside, rfl, fault⟩ := SchemaType.validate_eq_error whole
      exact ⟨issue, rfl, .record (.inl ⟨_, listed, inside⟩) fault⟩
    · obtain ⟨entry, owned, refused⟩ := forM_eq_error refused
      exact computed_fault ⟨_, listed, owned⟩ refused
  next illegal =>
    cases refused
    refine ⟨_, rfl, .dataset (List.mem_map_of_mem listed) fun word => ?_⟩
    exact illegal (Name.isIdentifier_iff.mpr word)

/-- A catalog is valid exactly if it is well named. Any other catalog is refused with an issue of its
schemas that is really there. -/
theorem accepted_iff_wellNamed (catalog : Catalog) :
    (catalog.validate = .ok () ↔ catalog.WellNamed) ∧
      (¬ catalog.WellNamed ↔
        ∃ issue, catalog.validate = .error (.schema issue) ∧ catalog.Fault issue) := by
  have accepted : catalog.validate = .ok () ↔ catalog.WellNamed := validate_eq_ok_iff
  refine ⟨accepted, ?_⟩
  rw [← accepted]
  constructor
  · intro refused
    cases outcome : catalog.validate with
    | ok => exact (refused outcome).elim
    | error problem =>
      obtain ⟨issue, rfl, fault⟩ := validate_eq_error outcome
      exact ⟨issue, rfl, fault⟩
  · rintro ⟨issue, refused, -⟩ valid
    rw [refused] at valid
    cases valid

end Catalog

end TypedSearch
