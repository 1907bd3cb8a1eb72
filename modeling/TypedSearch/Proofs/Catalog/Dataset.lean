import TypedSearch.Catalog.Dataset
import TypedSearch.Proofs.Schema.Validation
import TypedSearch.Proofs.Table

/-!
The members of a dataset: each is a stored or a computed field, each is valid if the dataset is, and
its name leads back to it, so that listing them and looking them up agree. A valid catalog has legal
names throughout.
-/

namespace TypedSearch

open Outcome

/-- An argument is valid if its name is an identifier and its type a scalar of the API. -/
theorem Argument.validate_eq_ok {computed : String} {argument : Argument} :
    argument.validate computed = .ok () ↔
      Name.isIdentifier argument.name = true ∧ (argumentScalar? argument.type).isSome = true := by
  unfold validate
  split
  next illegal =>
    refine iff_of_false nofun fun ⟨legal, _⟩ => ?_
    simp [legal] at illegal
  next legal =>
    split
    next unsupported =>
      refine iff_of_false nofun fun ⟨_, scalar⟩ => ?_
      simp [Option.isNone_iff_eq_none.mp unsupported] at scalar
    next supported =>
      refine iff_of_true rfl ⟨by simpa using legal, ?_⟩
      simpa [Option.isSome_iff_ne_none] using supported

/-- A computed field is valid if its name is an identifier and its result type and its arguments are
valid. -/
theorem ComputedField.validate_eq_ok {name : String} {field : ComputedField} :
    field.validate name = .ok () ↔
      Name.isIdentifier name = true ∧ field.resultType.validate = .ok () ∧
        ∀ argument ∈ field.arguments,
          Name.isIdentifier argument.name = true ∧
            (argumentScalar? argument.type).isSome = true := by
  unfold validate
  cases Name.isIdentifier name with
  | false => exact iff_of_false nofun fun ⟨legal, _⟩ => nomatch legal
  | true =>
    simp only [Bool.not_true, Bool.false_eq_true, ↓reduceIte, true_and, bind_eq_ok,
      forM_eq_ok, Argument.validate_eq_ok]
    exact ⟨fun ⟨_, type, arguments⟩ => ⟨type, arguments⟩, fun both => ⟨(), both⟩⟩

/-- A catalog is valid if its datasets are and their names are identifiers. -/
theorem Catalog.validate_eq_ok {catalog : Catalog} :
    catalog.validate = .ok () ↔ ∀ entry ∈ catalog.datasets.entries,
      Name.isIdentifier entry.1 = true ∧ entry.2.validate = .ok () := by
  rw [validate, forM_eq_ok]
  refine forall₂_congr fun entry _ => ?_
  split
  next legal => simp [legal]
  next illegal => exact iff_of_false nofun fun ⟨legal, _⟩ => illegal legal

namespace Dataset

variable {dataset : Dataset}

/-- What is true of all stored and of all computed fields is true of all members. -/
theorem forall_members {holds : Member → Prop}
    (stored : ∀ field ∈ dataset.schema.fields, holds (.stored field))
    (computed : ∀ entry ∈ dataset.computed.entries, holds (.computed entry.1 entry.2)) :
    ∀ member ∈ dataset.members, holds member := by
  intro member listed
  rcases List.mem_append.mp listed with listed | listed
  · obtain ⟨field, inside, rfl⟩ := List.mem_map.mp listed
    cases found : dataset.computed.get? field.name with
    | none => exact stored field inside
    | some cover => exact computed _ (Table.get?_eq_some_iff.mp found)
  · obtain ⟨entry, inside, rfl⟩ := List.mem_map.mp listed
    exact computed entry (List.mem_filter.mp inside).1

/-- A member is a field that the dataset declares, stored or computed. -/
def Declares (dataset : Dataset) : Member → Prop
  | .stored field => field ∈ dataset.schema.fields
  | .computed name field => (name, field) ∈ dataset.computed.entries

theorem members_declared : ∀ member ∈ dataset.members, dataset.Declares member :=
  forall_members (fun _ inside => inside) fun _ inside => inside

/-- Every computed field is a member, in the place of a stored field or after all of them. -/
theorem member_of_computed {name : String} {field : ComputedField}
    (owned : (name, field) ∈ dataset.computed.entries) : .computed name field ∈ dataset.members := by
  cases hidden : dataset.schema.field? name with
  | none =>
    refine List.mem_append_right _ (List.mem_map.mpr ⟨(name, field), ?_, rfl⟩)
    exact List.mem_filter.mpr ⟨owned, by simp [hidden]⟩
  | some stored =>
    have same : stored.name = name := by simpa using List.find?_some hidden
    subst same
    refine List.mem_append_left _ (List.mem_map.mpr ⟨stored, List.mem_of_find?_eq_some hidden, ?_⟩)
    simp [Table.get?_eq_some_iff.mpr owned]

theorem schema_valid (valid : dataset.validate = .ok ()) : dataset.schema.validate = .ok () := by
  obtain ⟨⟨⟩, ran, -⟩ := bind_eq_ok.mp valid
  exact ran

theorem computed_valid (valid : dataset.validate = .ok ()) :
    ∀ entry ∈ dataset.computed.entries, entry.2.validate entry.1 = .ok () := by
  obtain ⟨⟨⟩, -, ran⟩ := bind_eq_ok.mp valid
  exact forM_eq_ok.mp ran

/-- The types of the members of a valid dataset are valid. -/
theorem members_valid (valid : dataset.validate = .ok ()) :
    ∀ member ∈ dataset.members, member.type.validate = .ok () := by
  obtain ⟨-, stored, -⟩ := RecordType.validate_eq_ok.mp (schema_valid valid)
  refine forall_members (fun field inside => (stored field inside).2) fun entry inside => ?_
  exact (ComputedField.validate_eq_ok.mp (computed_valid valid entry inside)).2.1

/-- The names of the members of a valid dataset are identifiers. -/
theorem members_legal (valid : dataset.validate = .ok ()) :
    ∀ member ∈ dataset.members, Name.isIdentifier member.name = true := by
  obtain ⟨-, stored, -⟩ := RecordType.validate_eq_ok.mp (schema_valid valid)
  refine forall_members (fun field inside => (stored field inside).1) fun entry inside => ?_
  exact (ComputedField.validate_eq_ok.mp (computed_valid valid entry inside)).1

/-- The members are named like the stored fields in schema order, and behind these like the computed
fields that hide none of them. -/
theorem members_names (dataset : Dataset) :
    dataset.members.map Member.name = dataset.schema.fields.map (·.name) ++
      dataset.computed.names.filter fun name => (dataset.schema.field? name).isNone := by
  rw [members, List.map_append, List.map_map, List.map_map, Table.names, List.filter_map]
  refine congrArg (· ++ _) (List.map_congr_left fun field _ => ?_)
  rw [Function.comp_apply]
  split <;> rfl

/-- The members of a valid dataset have different names. -/
theorem members_distinct (valid : dataset.validate = .ok ()) :
    (dataset.members.map Member.name).Nodup := by
  obtain ⟨-, -, distinct⟩ := RecordType.validate_eq_ok.mp (schema_valid valid)
  have ordered : dataset.computed.names.Nodup :=
    dataset.computed.names_ascending.imp String.ne_of_lt
  rw [members_names, List.nodup_append]
  refine ⟨List.pairwise_map.mpr distinct, ordered.filter _, ?_⟩
  rintro name stored other later rfl
  exact RecordType.field?_isNone_iff.mp (List.mem_filter.mp later).2 stored

/-- In a valid dataset a name leads to the one member that has it. -/
theorem member?_eq_some {member : Member} (valid : dataset.validate = .ok ())
    (listed : member ∈ dataset.members) : dataset.member? member.name = some member := by
  obtain ⟨-, -, distinct⟩ := RecordType.validate_eq_ok.mp (schema_valid valid)
  rcases List.mem_append.mp listed with listed | listed
  · obtain ⟨field, inside, rfl⟩ := List.mem_map.mp listed
    cases found : dataset.computed.get? field.name with
    | some computed => simp [member?, Member.name, found]
    | none =>
      simp only [member?, Member.name, found]
      rw [(RecordType.field?_eq_some_iff distinct).mpr inside]
      rfl
  · obtain ⟨entry, inside, rfl⟩ := List.mem_map.mp listed
    have found : dataset.computed.get? entry.1 = some entry.2 :=
      Table.get?_eq_some_iff.mpr (List.mem_filter.mp inside).1
    simp [member?, Member.name, found]

/-- A name leads to a member that has it. -/
theorem mem_of_member? {name : String} {member : Member}
    (found : dataset.member? name = some member) :
    member ∈ dataset.members ∧ member.name = name := by
  unfold member? at found
  cases hidden : dataset.computed.get? name with
  | some field =>
    rw [hidden] at found
    cases found
    exact ⟨member_of_computed (Table.get?_eq_some_iff.mp hidden), rfl⟩
  | none =>
    rw [hidden] at found
    obtain ⟨field, stored, rfl⟩ := Option.map_eq_some_iff.mp found
    have same : field.name = name := by simpa using List.find?_some stored
    subst same
    refine ⟨List.mem_append_left _ (List.mem_map.mpr ⟨field, ?_, ?_⟩), rfl⟩
    · exact List.mem_of_find?_eq_some stored
    · rw [hidden]

/-- Members are listed and looked up alike. The members of a valid dataset have different names: those
of the stored fields in schema order, then those of the other computed fields in ascending order. Each
name leads to the member that has it, and no other name leads anywhere. -/
theorem members_found_by_name (valid : dataset.validate = .ok ()) :
    (dataset.members.map Member.name).Nodup ∧
    (∃ added : List String,
      dataset.members.map Member.name = dataset.schema.fields.map (·.name) ++ added ∧
      added.Pairwise (· < ·) ∧
      ∀ name, name ∈ added ↔
        dataset.computed.contains name = true ∧ name ∉ dataset.schema.fields.map (·.name)) ∧
    (∀ member ∈ dataset.members, dataset.member? member.name = some member) ∧
    ∀ name, name ∉ dataset.members.map Member.name ↔ dataset.member? name = none := by
  refine ⟨members_distinct valid, ⟨_, members_names dataset, ?_, fun name => ?_⟩,
    fun member listed => member?_eq_some valid listed, fun name => ⟨fun unlisted => ?_, ?_⟩⟩
  · exact dataset.computed.names_ascending.filter _
  · rw [List.mem_filter, Table.mem_names, RecordType.field?_isNone_iff]
  · cases found : dataset.member? name with
    | none => rfl
    | some member =>
      obtain ⟨listed, rfl⟩ := mem_of_member? found
      exact (unlisted (List.mem_map_of_mem listed)).elim
  · rintro absent listed
    obtain ⟨member, inside, rfl⟩ := List.mem_map.mp listed
    rw [member?_eq_some valid inside] at absent
    cases absent

/-- People with a computed field in the place of a stored one and another one that comes last. -/
def rankedDataset : Dataset :=
  let people : RecordType := ⟨"Person", [⟨"name", .primitive .string⟩, ⟨"age", .primitive .int⟩]⟩
  ((ofSchema people "people").withComputed "zeta" { resultType := .primitive .int }).withComputed
    "age" { resultType := .primitive .float }

theorem ranked_members_found :
    rankedDataset.validate = .ok () ∧
    rankedDataset.members.map Member.name = ["name", "age", "zeta"] ∧
    (∃ field, rankedDataset.member? "age" = some (.computed "age" field)) ∧
    rankedDataset.member? "size" = none := by
  have valid : rankedDataset.validate = .ok () := rfl
  have names : rankedDataset.members.map Member.name = ["name", "age", "zeta"] := rfl
  obtain ⟨-, -, found, absent⟩ := members_found_by_name valid
  let age : ComputedField := { resultType := .primitive .float }
  refine ⟨valid, names, ⟨age, found (.computed "age" age) ?_⟩, (absent "size").mp ?_⟩
  · exact List.mem_cons_of_mem _ List.mem_cons_self
  · rw [names]
    decide

end Dataset

end TypedSearch
