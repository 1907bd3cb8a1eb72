import TypedSearch.Proofs.Outcome
import TypedSearch.Proofs.Schema.Induction
import TypedSearch.Proofs.Text.Name
import TypedSearch.Schema.Validate

/-!
What validation promises of a record: its own name and the names of its fields are identifiers, no
two fields share a name, and the same is true of every record inside. A type that is refused has a
record at some depth with the fault that is reported.
-/

namespace TypedSearch

open Outcome

variable {fields : List SchemaField}

namespace SchemaField

/-- No two fields share a name. -/
abbrev Distinct (fields : List SchemaField) : Prop :=
  fields.Pairwise fun left right => left.name ≠ right.name

theorem validate_eq_ok {record : String} {seen : List String} {field : SchemaField} :
    field.validate record seen = .ok () ↔
      Name.isIdentifier field.name = true ∧ field.name ∉ seen ∧ field.type.validate = .ok () := by
  obtain ⟨name, type⟩ := field
  unfold validate
  split
  next illegal =>
    refine iff_of_false nofun fun ⟨legal, _⟩ => ?_
    simp [legal] at illegal
  next legal =>
    split
    next repeated =>
      refine iff_of_false nofun fun ⟨_, fresh, _⟩ => fresh ?_
      simpa using repeated
    next fresh =>
      have own : Name.isIdentifier name = true := by simpa using legal
      have new : name ∉ seen := by simpa using fresh
      exact ⟨fun valid => ⟨own, new, valid⟩, fun all => all.2.2⟩

/-- A list of fields is valid after the names `seen` if its names are new and differ from each
other. -/
theorem validateList_eq_ok {record : String} {seen : List String} :
    validateList record seen fields = .ok () ↔
      (∀ field ∈ fields, Name.isIdentifier field.name = true ∧ field.name ∉ seen ∧
        field.type.validate = .ok ()) ∧ Distinct fields := by
  induction fields generalizing seen with
  | nil => simp [validateList]
  | cons field rest ih =>
    rw [validateList, bind_eq_ok, List.forall_mem_cons]
    constructor
    · rintro ⟨⟨⟩, own, ran⟩
      obtain ⟨others, distinct⟩ := ih.mp ran
      refine ⟨⟨validate_eq_ok.mp own, fun other member => ?_⟩,
        List.pairwise_cons.mpr ⟨fun other member same => ?_, distinct⟩⟩
      · obtain ⟨legal, fresh, valid⟩ := others other member
        exact ⟨legal, fun seen => fresh (List.mem_cons_of_mem _ seen), valid⟩
      · exact (others other member).2.1 (same ▸ List.mem_cons_self)
    · rintro ⟨⟨own, others⟩, distinct⟩
      obtain ⟨differ, distinct⟩ := List.pairwise_cons.mp distinct
      refine ⟨(), validate_eq_ok.mpr own, ih.mpr ⟨fun other member => ?_, distinct⟩⟩
      obtain ⟨legal, fresh, valid⟩ := others other member
      refine ⟨legal, fun seen => ?_, valid⟩
      rcases List.mem_cons.mp seen with same | seen
      · exact differ other member same.symm
      · exact fresh seen

theorem eq_of_name_eq (distinct : Distinct fields) {left right : SchemaField}
    (first : left ∈ fields) (second : right ∈ fields) (same : left.name = right.name) :
    left = right := by
  refine List.Pairwise.forall_of_forall_of_flip (R := fun left right : SchemaField =>
    left.name = right.name → left = right) (fun _ _ _ => rfl) ?_ ?_ first second same
  · exact distinct.imp fun differ same => (differ same).elim
  · exact distinct.imp fun differ same => (differ same.symm).elim

end SchemaField

namespace RecordType

variable {shape : RecordType}

/-- A record is valid if its name is an identifier and its fields are valid and have different
names. -/
theorem validate_eq_ok :
    shape.validate = .ok () ↔
      Name.isIdentifier shape.name = true ∧
      (∀ field ∈ shape.fields,
        Name.isIdentifier field.name = true ∧ field.type.validate = .ok ()) ∧
      SchemaField.Distinct shape.fields := by
  obtain ⟨name, fields⟩ := shape
  unfold validate
  split
  next legal => simp [legal, SchemaField.validateList_eq_ok]
  next illegal => exact iff_of_false nofun fun ⟨legal, _⟩ => illegal legal

/-- No field is found under a name that none has. -/
theorem field?_isNone_iff {name : String} :
    (shape.field? name).isNone = true ↔ name ∉ shape.fields.map (·.name) := by
  simp [field?]

/-- A field is found under its name if no other field has it. -/
theorem field?_eq_some_iff {field : SchemaField} (distinct : SchemaField.Distinct shape.fields) :
    shape.field? field.name = some field ↔ field ∈ shape.fields := by
  unfold field?
  constructor
  · exact List.mem_of_find?_eq_some
  · intro member
    cases found : shape.fields.find? fun other => other.name = field.name with
    | none =>
      have absent := List.find?_eq_none.mp found field member
      simp at absent
    | some other =>
      have same : other.name = field.name := by simpa using List.find?_some found
      rw [SchemaField.eq_of_name_eq distinct (List.mem_of_find?_eq_some found) member same]

end RecordType

/-- A record is well named if it and its fields have words as names, and no two fields share one. -/
structure RecordType.WellNamed (shape : RecordType) : Prop where
  own : Name.IsWord shape.name
  fields : ∀ field ∈ shape.fields, Name.IsWord field.name
  distinct : SchemaField.Distinct shape.fields

/-- What can be wrong with a record, with the issue that reports it. -/
inductive RecordType.Fault (shape : RecordType) : SchemaIssue → Prop where
  | name (illegal : ¬ Name.IsWord shape.name) : Fault shape (.recordName shape.name)
  | field {field : SchemaField} (listed : field ∈ shape.fields)
      (illegal : ¬ Name.IsWord field.name) : Fault shape (.fieldName field.name shape.name)
  | repeated {before after : List SchemaField} {field : SchemaField}
      (split : shape.fields = before ++ field :: after)
      (earlier : field.name ∈ before.map (·.name)) :
      Fault shape (.repeatedField shape.name field.name)

/-- A record occurs in a type: it is the type, or it occurs in a field of a record. -/
inductive SchemaType.Contains : SchemaType → RecordType → Prop where
  | itself (shape : RecordType) : Contains (.record shape) shape
  | inside {outer shape : RecordType} {field : SchemaField} (listed : field ∈ outer.fields)
      (deeper : Contains field.type shape) : Contains (.record outer) shape

variable {problem : Problem}

theorem SchemaType.contains_record_iff {outer shape : RecordType} :
    (SchemaType.record outer).Contains shape ↔
      outer = shape ∨ ∃ field ∈ outer.fields, field.type.Contains shape := by
  constructor
  · rintro (_ | ⟨listed, deeper⟩)
    · exact .inl rfl
    · exact .inr ⟨_, listed, deeper⟩
  · rintro (rfl | ⟨field, listed, deeper⟩)
    · exact .itself outer
    · exact .inside listed deeper

/-- A type is valid if all records in it are well named. -/
theorem SchemaType.validate_eq_ok {type : SchemaType} :
    type.validate = .ok () ↔ ∀ shape, type.Contains shape → shape.WellNamed := by
  induction type using type_induction with
  | primitive kind => exact iff_of_true rfl nofun
  | record name fields each =>
    rw [validate, RecordType.validate_eq_ok]
    constructor
    · rintro ⟨own, legal, distinct⟩ shape contained
      rcases contains_record_iff.mp contained with rfl | ⟨field, listed, deeper⟩
      · exact ⟨Name.isIdentifier_iff.mp own,
          fun field listed => Name.isIdentifier_iff.mp (legal field listed).1, distinct⟩
      · exact (each field listed).mp (legal field listed).2 shape deeper
    · intro named
      obtain ⟨own, legal, distinct⟩ := named _ (.itself _)
      refine ⟨Name.isIdentifier_iff.mpr own, fun field listed => ⟨?_, ?_⟩, distinct⟩
      · exact Name.isIdentifier_iff.mpr (legal field listed)
      · exact (each field listed).mpr fun shape deeper => named shape (.inside listed deeper)

/-- A field is refused for its name, as one that was there before, or for its type. -/
theorem SchemaField.validate_eq_error {record : String} {seen : List String} {field : SchemaField}
    (refused : field.validate record seen = .error problem) :
    ¬ Name.IsWord field.name ∧ problem = .schema (.fieldName field.name record) ∨
    field.name ∈ seen ∧ problem = .schema (.repeatedField record field.name) ∨
    field.type.validate = .error problem := by
  obtain ⟨name, type⟩ := field
  unfold validate at refused
  split at refused
  next illegal =>
    cases refused
    refine .inl ⟨fun legal => ?_, rfl⟩
    simp [Name.isIdentifier_iff.mpr legal] at illegal
  next =>
    split at refused
    next repeated =>
      cases refused
      exact .inr (.inl ⟨by simpa using repeated, rfl⟩)
    next => exact .inr (.inr refused)

/-- Fields are refused for one of them, which was checked with the names before it in view. -/
theorem SchemaField.validateList_eq_error {record : String} {seen : List String}
    (refused : validateList record seen fields = .error problem) :
    ∃ before field after, fields = before ++ field :: after ∧
      field.validate record ((before.map (·.name)).reverse ++ seen) = .error problem := by
  induction fields generalizing seen with
  | nil => cases refused
  | cons first rest ih =>
    rw [validateList] at refused
    rcases bind_eq_error.mp refused with own | ⟨_, -, later⟩
    · exact ⟨[], first, rest, rfl, own⟩
    · obtain ⟨before, field, after, rfl, own⟩ := ih later
      exact ⟨first :: before, field, after, rfl, by simpa using own⟩

/-- A record is refused for a fault of its own or for the type of a field. -/
theorem RecordType.validate_eq_error {shape : RecordType}
    (refused : shape.validate = .error problem) :
    (∃ issue, problem = .schema issue ∧ shape.Fault issue) ∨
      ∃ field ∈ shape.fields, field.type.validate = .error problem := by
  obtain ⟨name, fields⟩ := shape
  unfold validate at refused
  split at refused
  next =>
    obtain ⟨before, field, after, split, own⟩ := SchemaField.validateList_eq_error refused
    have listed : field ∈ fields := by simp [split]
    rcases SchemaField.validate_eq_error own with ⟨illegal, rfl⟩ | ⟨seen, rfl⟩ | inner
    · exact .inl ⟨_, rfl, .field listed illegal⟩
    · exact .inl ⟨_, rfl, .repeated split (by simpa using seen)⟩
    · exact .inr ⟨field, listed, inner⟩
  next illegal =>
    cases refused
    exact .inl ⟨_, rfl, .name fun legal => illegal (Name.isIdentifier_iff.mpr legal)⟩

/-- A type is refused for a fault of a record in it. -/
theorem SchemaType.validate_eq_error {type : SchemaType} (refused : type.validate = .error problem) :
    ∃ shape issue, type.Contains shape ∧ problem = .schema issue ∧ shape.Fault issue := by
  induction type using type_induction with
  | primitive kind => cases refused
  | record name fields each =>
    rw [validate] at refused
    rcases RecordType.validate_eq_error refused with ⟨issue, rfl, fault⟩ | ⟨field, listed, inner⟩
    · exact ⟨_, issue, .itself _, rfl, fault⟩
    · obtain ⟨shape, issue, deeper, rfl, fault⟩ := each field listed inner
      exact ⟨shape, issue, .inside listed deeper, rfl, fault⟩

end TypedSearch
