import TypedSearch.Proofs.Api.Contents
import TypedSearch.Proofs.Catalog.Members
import TypedSearch.Proofs.Compile.Order
import TypedSearch.Proofs.Compile.Refusal
import TypedSearch.Proofs.Request.Decoding

/-!
Requests as the generated API admits them. Filters that conform to the type of their argument are
decoded and compiled. Orders are too, but for wrappers in which a client leaves out the direction that
the API lets it leave out.
-/

namespace TypedSearch

open ApiSchema FilterNode Outcome

variable {catalog : Catalog} {schema : ApiSchema} {name : String} {dataset : Dataset}
  {names : DatasetNames} {surface : Surface} {type : TypeRef}

/-- All computed fields of a dataset are evaluated by scripts. -/
def Dataset.IsScripted (dataset : Dataset) : Prop :=
  ∀ computed ∈ dataset.computed.entries, computed.2.IsScripted

/-- All computed fields of a catalog are evaluated by scripts. -/
def Catalog.IsScripted (catalog : Catalog) : Prop :=
  ∀ entry ∈ catalog.datasets.entries, entry.2.IsScripted

theorem Catalog.isBuilt_of_scripted (scripted : catalog.IsScripted) : catalog.IsBuilt :=
  fun entry inside computed member =>
    ComputedField.scripted_isBuilt (scripted entry inside computed member)

/-- A schema serves a valid dataset: it has the field of the dataset and every type made for it. -/
structure Serves (schema : ApiSchema) (name : String) (dataset : Dataset) : Prop where
  /-- The dataset is valid. -/
  valid : dataset.validate = .ok ()
  /-- Its query field is in the schema. -/
  field : (schema.queryType?.bind fun query => query.objectField? name) =
    some (dataset.rootOutline name).1
  /-- So are the types made for it. -/
  listed : schema.Lists (dataset.rootOutline name).2

/-- A generated schema serves every dataset of its catalog. -/
theorem serves_of_built (built : catalog.IsBuilt)
    (generated : catalog.apiSchema .standard = .ok schema)
    (found : catalog.get? name = some dataset) : Serves schema name dataset := by
  obtain ⟨valid, -, contents⟩ := Catalog.generated_contents built generated
  have listed := Table.get?_eq_some_iff.mp found
  refine ⟨(Catalog.validate_eq_ok.mp valid _ listed).2, ?_, fun type made => ?_⟩
  · rw [Catalog.generated_queryType built generated]
    exact Catalog.queryType_objectField? found
  · refine (contents _ _).mpr ⟨List.mem_append_left _ ?_, rfl⟩
    exact List.mem_flatMap.mpr ⟨_, List.mem_map.mpr ⟨_, listed, rfl⟩, made⟩

theorem serves_of_generated (scripted : catalog.IsScripted)
    (generated : catalog.apiSchema .standard = .ok schema)
    (found : catalog.get? name = some dataset) : Serves schema name dataset :=
  serves_of_built (Catalog.isBuilt_of_scripted scripted) generated found

namespace Serves

theorem argument_eq (serves : Serves schema name dataset) (argument : String) :
    schema.argumentType? name argument =
      ((dataset.rootOutline name).1.arguments.find? fun input => input.name = argument).map
        (·.type) := by
  obtain ⟨query, start, field⟩ := Option.bind_eq_some_iff.mp serves.field
  simp only [argumentType?, start, field, Option.bind_eq_bind, Option.bind_some, Option.pure_def]
  cases (dataset.rootOutline name).1.arguments.find? fun input => input.name = argument <;> rfl

/-- An argument comes from one of the two outlines that have arguments. -/
theorem argument_listed {argument : String} (serves : Serves schema name dataset)
    (declared : schema.argumentType? name argument = some type) :
    ⟨argument, type⟩ ∈ (dataset.filterOutline (.of name)).1 ∨
      ⟨argument, type⟩ ∈ (dataset.orderOutline (.of name)).1 := by
  rw [serves.argument_eq, Option.map_eq_some_iff] at declared
  obtain ⟨input, found, rfl⟩ := declared
  have same : input.name = argument := by simpa using List.find?_some found
  subst same
  exact List.mem_append.mp (List.mem_of_find?_eq_some found)

/-- A filter argument is a combination of filters on the members with an entry. -/
theorem filter_argument (serves : Serves schema name dataset)
    (declared : schema.argumentType? name "filter" = some type) :
    type = .named (DatasetNames.of name).combinations ∧
      Combines schema (.of name)
        ((dataset.surfaceEntries .filter (.of name)).map SurfaceEntry.toInput) ∧
      schema.Lists (dataset.surfaceTypes .filter (.of name)) := by
  have made : schema.Lists (dataset.filterOutline (.of name)).2 :=
    fun type member => serves.listed type (by simp [Dataset.rootOutline, member])
  rcases serves.argument_listed declared with listed | other
  · obtain ⟨same, types⟩ := Dataset.filterOutline_argument listed
    cases same
    rw [types, lists_append] at made
    obtain ⟨inner, outer⟩ := made
    refine ⟨rfl, ⟨?_, ?_, ?_, ?_⟩, inner⟩
    · exact append_unreserved _ 'r' rfl (by decide)
    · exact outer (DatasetNames.of name).combinationsType (by simp)
    · exact append_unreserved _ 'r' rfl (by decide)
    · exact outer ((DatasetNames.of name).filterType _) (by simp)
  · simpa using (Dataset.orderOutline_argument other).1

/-- An order argument is a list of orders by the members with an entry. -/
theorem order_argument (serves : Serves schema name dataset)
    (declared : schema.argumentType? name "order" = some type) :
    type = .list (.nonNull (.named (DatasetNames.of name).order)) ∧
      (DatasetNames.of name).order ∉ Scalar.names ∧
      schema.get? (DatasetNames.of name).order = some ⟨(DatasetNames.of name).order, .inputObject
        ((dataset.surfaceEntries .order (.of name)).map SurfaceEntry.toInput)⟩ ∧
      schema.Lists (dataset.surfaceTypes .order (.of name)) := by
  have made : schema.Lists (dataset.orderOutline (.of name)).2 :=
    fun type member => serves.listed type (by simp [Dataset.rootOutline, member])
  rcases serves.argument_listed declared with other | listed
  · simpa using (Dataset.filterOutline_argument other).1
  · obtain ⟨same, types⟩ := Dataset.orderOutline_argument listed
    cases same
    rw [types, lists_append] at made
    obtain ⟨inner, outer⟩ := made
    refine ⟨rfl, append_unreserved _ 'r' rfl (by decide), ?_, inner⟩
    exact outer ((DatasetNames.of name).orderType _) (by simp)

end Serves

namespace Dataset

theorem members_scripted (scripted : dataset.IsScripted) :
    ∀ member ∈ dataset.members, member.IsScripted :=
  forall_members (fun _ _ => trivial) scripted

/-- An input of a surface comes from a member of its name, together with the types made for it. -/
theorem member_of_input (listed : schema.Lists (dataset.surfaceTypes surface names))
    {input : InputValue}
    (member : input ∈ (dataset.surfaceEntries surface names).map SurfaceEntry.toInput) :
    ∃ source ∈ dataset.members, source.name = input.name ∧
      ∃ entry types, source.entryOutline surface names = some (entry, types) ∧
        entry.type = input.type ∧ schema.Lists types := by
  obtain ⟨entry, appears, rfl⟩ := List.mem_map.mp member
  obtain ⟨⟨_, types⟩, outlined, rfl⟩ := List.mem_map.mp appears
  obtain ⟨source, inside, made⟩ := List.mem_filterMap.mp outlined
  refine ⟨source, inside, ?_, _, types, made, rfl, fun type own => ?_⟩
  · exact (Member.entry_name made).symm
  · exact listed type (List.mem_flatMap.mpr ⟨_, outlined, own⟩)

/-- A condition that conforms to the filter on its member is not refused. -/
theorem typed_condition_accepted (valid : dataset.validate = .ok ()) (scripted : dataset.IsScripted)
    (listed : schema.Lists (dataset.surfaceTypes .filter names)) {condition : String × Json}
    (typed : Typed schema ((dataset.surfaceEntries .filter names).map SurfaceEntry.toInput)
      condition) :
    ¬ Fails (dataset.conditionClauses .standard condition) := by
  obtain ⟨input, member, same, fits⟩ := typed
  obtain ⟨source, inside, named, entry, types, made, type, own⟩ := member_of_input listed member
  have found : dataset.member? condition.1 = some source := by
    rw [← same, ← named]
    exact member?_eq_some valid inside
  by_cases null : condition.2 = .null
  · simp [conditionClauses, null, Json.isNull]
  · rw [conditionClauses_asked null found, fails_map]
    exact Member.filterClauses_accept (members_scripted scripted source inside)
      (members_valid valid source inside) made own (type ▸ fits) null

/-- A key of an order holds the arguments of a computed field but no direction beside them. -/
def LacksDirection (dataset : Dataset) (key : String × Json) : Prop :=
  ∃ field wrapper, dataset.computed.get? key.1 = some field ∧ field.hasArguments = true ∧
    key.2 = .object wrapper ∧ (wrapper.lookup "order").getD .null = .null

/-- Only a wrapper of arguments can be without a direction, null apart. -/
theorem direction_eq_null_iff {key : String × Json} {source : Member}
    (found : dataset.member? key.1 = some source) (given : key.2 ≠ .null) :
    source.direction key.2 = .null ↔ dataset.LacksDirection key := by
  unfold member? at found
  cases hidden : dataset.computed.get? key.1 with
  | none =>
    rw [hidden] at found
    obtain ⟨field, -, rfl⟩ := Option.map_eq_some_iff.mp found
    refine iff_of_false given ?_
    rintro ⟨field, wrapper, computed, -⟩
    cases hidden.symm.trans computed
  | some field =>
    rw [hidden] at found
    cases found
    constructor
    · intro null
      cases value : key.2 with
      | object wrapper =>
        cases takes : field.hasArguments with
        | true =>
          refine ⟨field, wrapper, hidden, takes, value, ?_⟩
          simpa [Member.direction, ComputedField.beside, value, takes] using null
        | false => simp [Member.direction, ComputedField.beside, value, takes] at null
      | null => exact (given value).elim
      | bool | number | string | array =>
        simp [Member.direction, ComputedField.beside, value] at null
    · rintro ⟨other, wrapper, computed, takes, object, null⟩
      cases hidden.symm.trans computed
      simp [Member.direction, ComputedField.beside, object, takes, null]

/-- A key that conforms to the order by its member is refused only for want of a direction. -/
theorem typed_key_accepted (valid : dataset.validate = .ok ()) (scripted : dataset.IsScripted)
    (listed : schema.Lists (dataset.surfaceTypes .order names)) {key : String × Json}
    (typed : Typed schema ((dataset.surfaceEntries .order names).map SurfaceEntry.toInput) key) :
    (dataset.LacksDirection key → dataset.orderClauses .standard key =
      .error (.argument key.1 (.notDirection .null))) ∧
    (¬ dataset.LacksDirection key → ¬ Fails (dataset.orderClauses .standard key)) := by
  obtain ⟨input, member, same, fits⟩ := typed
  obtain ⟨source, inside, named, entry, types, made, type, own⟩ := member_of_input listed member
  have name : source.name = key.1 := named.trans same
  have found : dataset.member? key.1 = some source := name ▸ member?_eq_some valid inside
  by_cases null : key.2 = .null
  · rw [orderClauses_null null]
    refine ⟨?_, fun _ => not_fails_ok _⟩
    rintro ⟨-, wrapper, -, -, object, -⟩
    cases null.symm.trans object
  · rw [orderClauses_asked null found, fails_map, ← direction_eq_null_iff found null]
    obtain ⟨refused, accepted⟩ := Member.sortClauses_accept (members_scripted scripted source inside)
      (members_valid valid source inside) made own (type ▸ fits) null
    refine ⟨fun absent => ?_, accepted⟩
    rw [refused absent, name]
    rfl

/-- An order all of whose keys conform compiles exactly if none of them lacks a direction. -/
theorem typed_order_compiles_iff (valid : dataset.validate = .ok ()) (scripted : dataset.IsScripted)
    (listed : schema.Lists (dataset.surfaceTypes .order names)) {orders : List Json.Entries}
    (typed : ∀ keys ∈ orders, ∀ key ∈ keys,
      Typed schema ((dataset.surfaceEntries .order names).map SurfaceEntry.toInput) key) :
    ((∃ clauses, dataset.compileOrder .standard orders = .ok clauses) ↔
      ∀ keys ∈ orders, ∀ key ∈ keys, ¬ dataset.LacksDirection key) ∧
    ∀ problem, dataset.compileOrder .standard orders = .error problem →
      ∃ keys ∈ orders, ∃ key ∈ keys, dataset.LacksDirection key ∧
        problem = .argument key.1 (.notDirection .null) := by
  have accepted := fun keys inside key own =>
    typed_key_accepted valid scripted listed (typed keys inside key own)
  constructor
  · rw [← not_fails_iff, compileOrder, keys_fail_iff]
    constructor
    · intro sound keys inside key own lacking
      exact sound ⟨key, List.mem_flatten.mpr ⟨keys, inside, own⟩, _,
        (accepted keys inside key own).1 lacking⟩
    · rintro complete ⟨key, member, fails⟩
      obtain ⟨keys, inside, own⟩ := List.mem_flatten.mp member
      exact (accepted keys inside key own).2 (complete keys inside key own) fails
  · intro problem failed
    obtain ⟨key, member, refused⟩ := keysClauses_eq_error failed
    obtain ⟨keys, inside, own⟩ := List.mem_flatten.mp member
    by_cases lacking : dataset.LacksDirection key
    · refine ⟨keys, inside, key, own, lacking, ?_⟩
      rw [(accepted keys inside key own).1 lacking] at refused
      exact (Except.error.inj refused).symm
    · exact ((accepted keys inside key own).2 lacking ⟨problem, refused⟩).elim

end Dataset

/-- The API made for a catalog admits a value as an argument of a dataset. -/
def Catalog.admits (catalog : Catalog) (name argument : String) (value : Json) : Bool :=
  (catalog.apiSchema .standard).toOption.any fun schema =>
    (schema.argumentType? name argument).any (schema.conforms value ·)

theorem Catalog.admits_iff {argument : String} {value : Json} :
    catalog.admits name argument value = true ↔
      ∃ schema type, catalog.apiSchema .standard = .ok schema ∧
        schema.argumentType? name argument = some type ∧ schema.conforms value type = true := by
  unfold admits
  cases catalog.apiSchema .standard with
  | error problem => simp [Except.toOption]
  | ok schema => simp [Except.toOption, Option.any_eq_true]

/-- People with an address and with the distance to an age that a client gives. -/
def peopleDataset : Dataset :=
  let address : RecordType := ⟨"Address", [⟨"city", .primitive .string⟩, ⟨"zip", .primitive .int⟩]⟩
  let person : RecordType := ⟨"Person", [⟨"age", .primitive .int⟩, ⟨"home", .record address⟩]⟩
  let distance : ComputedField := .scripted (.primitive .float) [⟨"age", .primitive .int⟩]
    (some "doc['age'].value > params.age") (some "doc['age'].value - params.age")
  (Dataset.ofSchema person "people").withComputed "distance" distance

def peopleCatalog : Catalog := Catalog.empty.withDataset "people" peopleDataset

theorem peopleCatalog_scripted : peopleCatalog.IsScripted := by
  intro entry listed computed member
  cases List.mem_singleton.mp listed
  cases List.mem_singleton.mp member
  exact ⟨some _, some _, rfl, .inl rfl⟩

/-- Whatever conforms to the type of a dataset's filter argument is decoded and compiled. -/
theorem conforming_filter_compiles {value : Json} (scripted : catalog.IsScripted)
    (generated : catalog.apiSchema .standard = .ok schema)
    (found : catalog.get? name = some dataset)
    (argument : schema.argumentType? name "filter" = some type)
    (fits : schema.conforms value type = true) :
    ∃ arguments query, DatasetArguments.ofClient (.object [("filter", value)]) = .ok arguments ∧
      dataset.compileFilter .standard arguments.filter = .ok query := by
  have serves := serves_of_generated scripted generated found
  have script : dataset.IsScripted := scripted _ (Table.get?_eq_some_iff.mp found)
  obtain ⟨rfl, combines, listed⟩ := serves.filter_argument argument
  by_cases null : value = .null
  · subst null
    exact ⟨{}, Clause.matchAll, rfl, rfl⟩
  obtain ⟨node, read, typed⟩ := (combination_decodes combines value).node fits null
  have compiles : ¬ Fails (dataset.compileNode .standard node) := by
    rw [Dataset.node_fails_iff]
    rintro ⟨condition, reached, fails⟩
    exact Dataset.typed_condition_accepted serves.valid script listed
      (typed condition (mentions_of_reaches reached)) fails
  obtain ⟨compiled, ran⟩ := not_fails_iff.mp compiles
  refine ⟨⟨some node, none⟩, compiled.toQuery, ?_, by simp [Dataset.compileFilter, ran]⟩
  simp [DatasetArguments.ofClient, DatasetArguments.ofJson?, DatasetArguments.readPart, Json.isNull,
    Json.toOption_given null, read]

theorem nested_people_filter_compiles :
    let distance : Json := .object [("arguments", .object [("age", .ofInt 3)]),
      ("filter", .single "equals" (.bool true))]
    let home : Json := .single "city" (.single "startsWith" (.string "O"))
    let value : Json := .object [
      ("and", .array [.single "cond" (.single "distance" distance), .single "or" .null]),
      ("or", .array [.single "cond" (.single "home" home), .object []])]
    ∃ schema type, peopleCatalog.apiSchema .standard = .ok schema ∧
      schema.argumentType? "people" "filter" = some type ∧ schema.conforms value type = true ∧
      ∃ arguments query, DatasetArguments.ofClient (.object [("filter", value)]) = .ok arguments ∧
        peopleDataset.compileFilter .standard arguments.filter = .ok query := by
  intro distance home value
  obtain ⟨schema, type, generated, declared, fits⟩ :=
    Catalog.admits_iff.mp (show peopleCatalog.admits "people" "filter" value by decide +kernel)
  exact ⟨schema, type, generated, declared, fits,
    conforming_filter_compiles peopleCatalog_scripted generated rfl declared fits⟩

/-- Objects are decoded as the entries they have. -/
private theorem orders_decode {inputs : List InputValue} {items : List Json}
    (each : ∀ item ∈ items, ∃ entries, item = .object entries ∧ schema.Fits inputs entries) :
    ∃ orders : List Json.Entries, items = orders.map .object ∧
      items.mapM Json.toEntries = .ok orders ∧ ∀ entries ∈ orders, schema.Fits inputs entries := by
  induction items with
  | nil => exact ⟨[], rfl, rfl, by simp⟩
  | cons item rest ih =>
    obtain ⟨⟨entries, rfl, fits⟩, others⟩ := List.forall_mem_cons.mp each
    obtain ⟨orders, rfl, read, typed⟩ := ih others
    refine ⟨entries :: orders, rfl, ?_, List.forall_mem_cons.mpr ⟨fits, typed⟩⟩
    rw [List.mapM_cons, read]
    rfl

/-- A list that conforms to the type of a dataset's order argument is decoded, and it is compiled
exactly if no wrapper of arguments in it is without a direction. Otherwise the field of such a wrapper
is reported. -/
theorem conforming_order_compiles_iff {items : List Json} (scripted : catalog.IsScripted)
    (generated : catalog.apiSchema .standard = .ok schema)
    (found : catalog.get? name = some dataset)
    (argument : schema.argumentType? name "order" = some type)
    (fits : schema.conforms (.array items) type = true) :
    ∃ orders : List Json.Entries, items = orders.map .object ∧
      DatasetArguments.ofClient (.object [("order", .array items)]) = .ok ⟨none, some orders⟩ ∧
      ((∃ clauses, dataset.compileOrder .standard orders = .ok clauses) ↔
        ∀ keys ∈ orders, ∀ key ∈ keys, ¬ dataset.LacksDirection key) ∧
      ∀ problem, dataset.compileOrder .standard orders = .error problem →
        ∃ keys ∈ orders, ∃ key ∈ keys, dataset.LacksDirection key ∧
          problem = .argument key.1 (.notDirection .null) := by
  have serves := serves_of_generated scripted generated found
  have script : dataset.IsScripted := scripted _ (Table.get?_eq_some_iff.mp found)
  obtain ⟨rfl, unreserved, defined, listed⟩ := serves.order_argument argument
  have objects : ∀ item ∈ items, ∃ entries, item = .object entries ∧
      schema.Fits ((dataset.surfaceEntries .order (.of name)).map SurfaceEntry.toInput) entries := by
    intro item member
    rcases conforms_list fits with null | ⟨others, same, each⟩
    · cases null
    cases same
    obtain ⟨given, conforming⟩ := conforms_nonNull.mp (each item member)
    exact (conforms_inputObject unreserved defined conforming).resolve_left given
  obtain ⟨orders, rfl, read, typed⟩ := orders_decode objects
  refine ⟨orders, rfl, ?_, ?_⟩
  · simp [DatasetArguments.ofClient, DatasetArguments.ofJson?, DatasetArguments.readPart,
      Json.isNull, Json.toOption, Json.toList, read]
  · exact Dataset.typed_order_compiles_iff serves.valid script listed
      fun keys inside key own => (typed keys inside).input_of own

theorem people_order_compiles_iff :
    let items : List Json := [.single "home" (.single "city" (.string "ASC")),
      .single "distance" (.object [("arguments", .object [("age", .ofInt 3)]),
        ("order", .string "DESC")])]
    ∃ schema type, peopleCatalog.apiSchema .standard = .ok schema ∧
      schema.argumentType? "people" "order" = some type ∧
      schema.conforms (.array items) type = true ∧
      ∃ orders : List Json.Entries, items = orders.map .object ∧
        DatasetArguments.ofClient (.object [("order", .array items)]) = .ok ⟨none, some orders⟩ ∧
        ((∃ clauses, peopleDataset.compileOrder .standard orders = .ok clauses) ↔
          ∀ keys ∈ orders, ∀ key ∈ keys, ¬ peopleDataset.LacksDirection key) ∧
        ∀ problem, peopleDataset.compileOrder .standard orders = .error problem →
          ∃ keys ∈ orders, ∃ key ∈ keys, peopleDataset.LacksDirection key ∧
            problem = .argument key.1 (.notDirection .null) := by
  intro items
  obtain ⟨schema, type, generated, declared, fits⟩ :=
    Catalog.admits_iff.mp
      (show peopleCatalog.admits "people" "order" (.array items) by decide +kernel)
  exact ⟨schema, type, generated, declared, fits,
    conforming_order_compiles_iff peopleCatalog_scripted generated rfl declared fits⟩

/-- The API admits an order by the distance without a direction, and the compiler refuses it. -/
theorem undirected_order_refused :
    let keys : Json.Entries := [("distance", .single "arguments" (.single "age" (.ofInt 3)))]
    ∃ schema type, peopleCatalog.apiSchema .standard = .ok schema ∧
      schema.argumentType? "people" "order" = some type ∧
      schema.conforms (.array [.object keys]) type = true ∧
      DatasetArguments.ofClient (.object [("order", .array [.object keys])]) =
        .ok ⟨none, some [keys]⟩ ∧
      peopleDataset.compileOrder .standard [keys] =
        .error (.argument "distance" (.notDirection .null)) := by
  intro keys
  obtain ⟨schema, type, generated, declared, fits⟩ :=
    Catalog.admits_iff.mp
      (show peopleCatalog.admits "people" "order" (.array [.object keys]) by decide +kernel)
  exact ⟨schema, type, generated, declared, fits, rfl, rfl⟩

end TypedSearch
