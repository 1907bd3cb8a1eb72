import TypedSearch.Proofs.Api.Presence
import TypedSearch.Proofs.Catalog.Requests

/-!
The entries that a generated API has for the filters and the orders of a dataset. They are the names
under which a client can make the compilers do something: a condition on any of them may narrow a
filter down and a key may sort, and nothing else does.
-/

namespace TypedSearch

open ApiSchema Outcome

variable {catalog : Catalog} {schema : ApiSchema} {name : String} {dataset : Dataset}
  {surface : Surface}

namespace ApiSchema

/-- The names of the entries of the type that a reference is about, none if there is no such type. -/
def entryNames (schema : ApiSchema) (type : TypeRef) : List String :=
  ((schema.get? type.baseName).map NamedType.entryNames).getD []

/-- The names on which a dataset's filter argument has conditions. -/
def filterEntries (schema : ApiSchema) (dataset : String) : List String :=
  let combinations := (schema.argumentType? dataset "filter").bind (schema.get? ·.baseName)
  ((combinations.bind (·.inputField? "cond")).map fun cond => schema.entryNames cond.type).getD []

/-- The names by which a dataset's order argument sorts. -/
def orderEntries (schema : ApiSchema) (dataset : String) : List String :=
  ((schema.argumentType? dataset "order").map schema.entryNames).getD []

end ApiSchema

namespace Serves

/-- A dataset has a filter argument if some member has an entry there. -/
theorem filter_declared (serves : Serves schema name dataset) :
    (schema.argumentType? name "filter").isSome ↔
      dataset.surfaceEntries .filter (.of name) ≠ [] := by
  rw [serves.argument_eq]
  simp only [Dataset.rootOutline, Dataset.filterOutline]
  cases dataset.surfaceEntries .filter (.of name) with
  | nil => rcases Dataset.orderOutline_cases dataset (.of name) with same | same <;> simp [same]
  | cons entry rest => simp

/-- A dataset has an order argument if some member has an entry there. -/
theorem order_declared (serves : Serves schema name dataset) :
    (schema.argumentType? name "order").isSome ↔
      dataset.surfaceEntries .order (.of name) ≠ [] := by
  rw [serves.argument_eq]
  simp only [Dataset.rootOutline, Dataset.orderOutline]
  cases dataset.surfaceEntries .order (.of name) with
  | nil => rcases Dataset.filterOutline_cases dataset (.of name) with same | same <;> simp [same]
  | cons entry rest =>
    rcases Dataset.filterOutline_cases dataset (.of name) with same | same <;> simp [same]

theorem filterEntries_eq (serves : Serves schema name dataset) :
    schema.filterEntries name = (dataset.surfaceEntries .filter (.of name)).map (·.name) := by
  unfold filterEntries
  cases declared : schema.argumentType? name "filter" with
  | none =>
    have empty : dataset.surfaceEntries .filter (.of name) = [] := by
      simpa [declared] using serves.filter_declared
    simp [empty]
  | some type =>
    obtain ⟨rfl, combines, -⟩ := serves.filter_argument declared
    have cond : (DatasetNames.of name).combinationsType.inputField? "cond" =
        some ⟨"cond", .named (DatasetNames.of name).filter⟩ := rfl
    simp only [Option.bind_some, TypeRef.baseName, combines.combinations, cond,
      Option.map_some, Option.getD_some, entryNames, combines.single]
    simp [NamedType.entryNames, TypeBody.entryNames, SurfaceEntry.toInput]

theorem orderEntries_eq (serves : Serves schema name dataset) :
    schema.orderEntries name = (dataset.surfaceEntries .order (.of name)).map (·.name) := by
  unfold orderEntries
  cases declared : schema.argumentType? name "order" with
  | none =>
    have empty : dataset.surfaceEntries .order (.of name) = [] := by
      simpa [declared] using serves.order_declared
    simp [empty]
  | some type =>
    obtain ⟨rfl, -, defined, -⟩ := serves.order_argument declared
    simp only [Option.map_some, Option.getD_some, entryNames, TypeRef.baseName, defined]
    simp [NamedType.entryNames, TypeBody.entryNames, SurfaceEntry.toInput]

end Serves

namespace Dataset

/-- A name has an entry on a surface if the member that it leads to appears there. -/
theorem mem_surfaceEntries (valid : dataset.validate = .ok ()) {names : DatasetNames}
    {entry : String} :
    entry ∈ (dataset.surfaceEntries surface names).map (·.name) ↔
      ∃ member, dataset.member? entry = some member ∧ member.outline surface ≠ none := by
  constructor
  · intro listed
    obtain ⟨own, appears, rfl⟩ := List.mem_map.mp listed
    obtain ⟨⟨_, types⟩, outlined, rfl⟩ := List.mem_map.mp appears
    obtain ⟨member, inside, made⟩ := List.mem_filterMap.mp outlined
    obtain ⟨outline, shown, -⟩ := Member.entryOutline_eq_some made
    refine ⟨member, ?_, by simp [shown]⟩
    rw [Member.entry_name made]
    exact member?_eq_some valid inside
  · rintro ⟨member, found, appears⟩
    obtain ⟨inside, rfl⟩ := mem_of_member? found
    obtain ⟨outline, shown⟩ := Option.ne_none_iff_exists'.mp appears
    obtain ⟨own, types, made⟩ : ∃ own types,
        member.entryOutline surface names = some (own, types) := by
      rw [Member.entryOutline, shown]
      exact ⟨_, _, rfl⟩
    have outlined : (own, types) ∈ Member.entryOutlines surface names dataset.members :=
      List.mem_filterMap.mpr ⟨member, inside, made⟩
    exact List.mem_map.mpr ⟨own, List.mem_map.mpr ⟨_, outlined, rfl⟩, Member.entry_name made⟩

end Dataset

namespace ComputedField

/-- A value for a computed field, beside no arguments in a wrapper if the field takes any. -/
def wrap (field : ComputedField) (key : String) (value : Json) : Json :=
  if field.hasArguments then .object [("arguments", .object []), (key, value)] else value

theorem splitArguments_wrap (field : ComputedField) (path : FieldPath) {key : String} (value : Json)
    (differ : key ≠ "arguments") :
    splitArguments path (field.wrap key value) key field.hasArguments = .ok ⟨[], value⟩ := by
  unfold wrap splitArguments
  cases field.hasArguments with
  | false => rfl
  | true =>
    have known : (Json.Entries.keys [("arguments", .object []), (key, value)]).find?
        (fun other => other ≠ "arguments" && other ≠ key) = none := by
      simp [Json.Entries.keys]
    simp only [Bool.not_true, Bool.false_eq_true, ↓reduceIte, known, List.lookup_cons_self,
      Table.lookup_cons_ne differ, Option.getD_some]

theorem wrap_given (field : ComputedField) (key : String) {value : Json} (given : value ≠ .null) :
    field.wrap key value ≠ .null := by
  unfold wrap
  split
  · simp
  · exact given

/-- Something can be given for a computed field that makes clauses. -/
def Acts (own : ComputedCapability Json (List Json)) (site : ComputedSite) : Prop :=
  ∃ params clauses, params ≠ .null ∧ own.resolve site params = .ok (some clauses) ∧ clauses ≠ []

variable {field : ComputedField} {site : ComputedSite} {source : String}

/-- The filter of a script asked for true is the script. -/
theorem scriptFilter_acts : Acts (scriptFilter source field.hasArguments) site := by
  let params := field.wrap "filter" (.single "equals" (.bool true))
  have split := field.splitArguments_wrap site.path (.single "equals" (.bool true))
    (show "filter" ≠ "arguments" by decide)
  refine ⟨params, [Clause.scriptQuery (Clause.script source [])], ?_, ?_, by simp⟩
  · exact field.wrap_given "filter" (by simp [Json.single])
  · simp only [scriptFilter, Capability.resolve, params, split]
    rfl

/-- The sort by a script takes a direction. -/
theorem scriptSort_acts {kind : String} :
    Acts (scriptSort source kind field.hasArguments) site := by
  let params := field.wrap "order" Direction.ascending.toJson
  have split := field.splitArguments_wrap site.path Direction.ascending.toJson
    (show "order" ≠ "arguments" by decide)
  refine ⟨params, [Clause.scriptSort kind .ascending (Clause.script source [])], ?_, ?_, by simp⟩
  · exact field.wrap_given "order" (by simp [Direction.toJson])
  · simp only [scriptSort, Capability.resolve, params, split]
    rfl

/-- A computed field that has neither an entry nor clauses, or both, appears exactly if it acts. -/
theorem appears_iff_acts {type : NamedType} {own : ComputedCapability Json (List Json)}
    (scripted : surface.scriptedType? = some type)
    (both : surface.capability field = .absent ∧ own = .absent ∨
      surface.capability field = Handler.definedArg type ∧ Acts own site) :
    field.outline surface ≠ none ↔ Acts own site := by
  rcases both with ⟨absent, nothing⟩ | ⟨defined, acts⟩
  · have hidden : field.outline surface = none := outline_absent absent
    refine iff_of_false (by simp [hidden]) ?_
    rintro ⟨params, clauses, -, ran, -⟩
    rw [nothing] at ran
    cases ran
  · have shown : field.outline surface = some type.outline := outline_defined scripted defined
    exact iff_of_true (by simp [shown]) acts

end ComputedField

namespace Member

variable {member : Member}

/-- A member appears in the filter type exactly if some filter on it has clauses. -/
theorem filter_appears_iff (scripted : member.IsScripted) (valid : member.type.validate = .ok ()) :
    member.outline .filter ≠ none ↔ ∃ params clauses, params ≠ .null ∧
      member.filterClauses .standard params = .ok (some clauses) ∧ clauses ≠ [] := by
  cases member with
  | stored field => exact appears_iff_clauses filter_actsOn field.type valid
  | computed name field =>
    refine ComputedField.appears_iff_acts rfl ?_
    rcases ComputedField.scripted_filter scripted with absent | ⟨defined, source, hook⟩
    · exact .inl absent
    · exact .inr ⟨defined, hook ▸ ComputedField.scriptFilter_acts⟩

/-- A member appears in the order type exactly if some order by it has clauses. -/
theorem sort_appears_iff (scripted : member.IsScripted) (valid : member.type.validate = .ok ()) :
    member.outline .order ≠ none ↔ ∃ params clauses, params ≠ .null ∧
      member.sortClauses .standard params = .ok (some clauses) ∧ clauses ≠ [] := by
  cases member with
  | stored field => exact appears_iff_clauses sort_actsOn field.type valid
  | computed name field =>
    refine ComputedField.appears_iff_acts rfl ?_
    rcases ComputedField.scripted_order scripted with absent | ⟨defined, source, kind, hook⟩
    · exact .inl absent
    · exact .inr ⟨defined, hook ▸ ComputedField.scriptSort_acts⟩

end Member

namespace Dataset

/-- A filter of one condition compiles to the conjunction of its clauses. -/
theorem compileFilter_single {condition : String × Json} {registry : Registry} :
    dataset.compileFilter registry (some ⟨some [condition], none, none⟩) =
      (dataset.conditionClauses registry condition).map fun clauses =>
        (Compiled.ofClauses clauses).toQuery := by
  simp only [compileFilter, compileNode, compileAll, compileAny, Option.getD_some,
    conditionsClauses]
  cases dataset.conditionClauses registry condition with
  | error problem => rfl
  | ok clauses => simp [Except.map]

/-- An order of one key compiles to the clauses of the key. -/
theorem compileOrder_single {key : String × Json} {registry : Registry} :
    dataset.compileOrder registry [[key]] = dataset.orderClauses registry key := by
  simp only [compileOrder, List.flatten_cons, List.flatten_nil, List.append_nil, keysClauses]
  cases dataset.orderClauses registry key with
  | error problem => rfl
  | ok clauses => simp

end Dataset

theorem Compiled.toQuery_eq_matchAll {clauses : List Json} :
    (Compiled.ofClauses clauses).toQuery = Clause.matchAll ↔ clauses = [] := by
  cases clauses with
  | nil => exact iff_of_true rfl rfl
  | cons clause rest =>
    simp [Compiled.ofClauses, Compiled.toQuery, Clause.conjunction, Clause.matchAll, Json.single]

namespace Dataset

variable {entry : String}

/-- A condition on a name can narrow a filter down if some filter on the name's member has clauses. -/
theorem narrows_iff :
    (∃ value query, dataset.compileFilter .standard (some ⟨some [(entry, value)], none, none⟩) =
        .ok query ∧ query ≠ Clause.matchAll) ↔
      ∃ member, dataset.member? entry = some member ∧ ∃ params clauses, params ≠ .null ∧
        member.filterClauses .standard params = .ok (some clauses) ∧ clauses ≠ [] := by
  simp only [compileFilter_single, map_eq_ok]
  constructor
  · rintro ⟨value, query, ⟨clauses, ran, rfl⟩, narrow⟩
    have nonempty : clauses ≠ [] := mt Compiled.toQuery_eq_matchAll.mpr narrow
    obtain ⟨given, member, found, answered⟩ := (conditionClauses_some_iff nonempty).mp ran
    exact ⟨member, found, value, clauses, given, answered, nonempty⟩
  · rintro ⟨member, found, params, clauses, given, answered, nonempty⟩
    refine ⟨params, _, ⟨clauses, ?_, rfl⟩, mt Compiled.toQuery_eq_matchAll.mp nonempty⟩
    exact (conditionClauses_some_iff nonempty).mpr ⟨given, member, found, answered⟩

/-- A key of a name can sort if some order by the name's member has clauses. -/
theorem sorts_iff :
    (∃ value clauses, dataset.compileOrder .standard [[(entry, value)]] = .ok clauses ∧
        clauses ≠ []) ↔
      ∃ member, dataset.member? entry = some member ∧ ∃ params clauses, params ≠ .null ∧
        member.sortClauses .standard params = .ok (some clauses) ∧ clauses ≠ [] := by
  simp only [compileOrder_single]
  constructor
  · rintro ⟨value, clauses, ran, nonempty⟩
    obtain ⟨given, member, found, answered⟩ := (orderClauses_some_iff nonempty).mp ran
    exact ⟨member, found, value, clauses, given, answered, nonempty⟩
  · rintro ⟨member, found, params, clauses, given, answered, nonempty⟩
    exact ⟨params, clauses, (orderClauses_some_iff nonempty).mpr ⟨given, member, found, answered⟩,
      nonempty⟩

end Dataset

theorem peopleCatalog_generated : ∃ schema, peopleCatalog.apiSchema .standard = .ok schema :=
  not_fails_iff.mp (by decide +kernel)

/-- The entries for conditions are the names on which some condition narrows the filter down, and the
entries for orders are those by which some key sorts. -/
theorem entries_iff_compiled (scripted : catalog.IsScripted)
    (generated : catalog.apiSchema .standard = .ok schema)
    (found : catalog.get? name = some dataset) (entry : String) :
    (entry ∈ schema.filterEntries name ↔ ∃ value query,
      dataset.compileFilter .standard (some ⟨some [(entry, value)], none, none⟩) = .ok query ∧
        query ≠ Clause.matchAll) ∧
    (entry ∈ schema.orderEntries name ↔ ∃ value clauses,
      dataset.compileOrder .standard [[(entry, value)]] = .ok clauses ∧ clauses ≠ []) := by
  have serves := serves_of_generated scripted generated found
  have script : ∀ member ∈ dataset.members, member.IsScripted :=
    Dataset.members_scripted (scripted _ (Table.get?_eq_some_iff.mp found))
  have sound := Dataset.members_valid serves.valid
  constructor
  · rw [serves.filterEntries_eq, Dataset.mem_surfaceEntries serves.valid, Dataset.narrows_iff]
    refine exists_congr fun member => and_congr_right fun leads => ?_
    obtain ⟨listed, -⟩ := Dataset.mem_of_member? leads
    exact Member.filter_appears_iff (script member listed) (sound member listed)
  · rw [serves.orderEntries_eq, Dataset.mem_surfaceEntries serves.valid, Dataset.sorts_iff]
    refine exists_congr fun member => and_congr_right fun leads => ?_
    obtain ⟨listed, -⟩ := Dataset.mem_of_member? leads
    exact Member.sort_appears_iff (script member listed) (sound member listed)

theorem people_entries_iff_compiled :
    ∃ schema, peopleCatalog.apiSchema .standard = .ok schema ∧ ∀ entry,
      (entry ∈ schema.filterEntries "people" ↔ ∃ value query,
        peopleDataset.compileFilter .standard (some ⟨some [(entry, value)], none, none⟩) =
          .ok query ∧ query ≠ Clause.matchAll) ∧
      (entry ∈ schema.orderEntries "people" ↔ ∃ value clauses,
        peopleDataset.compileOrder .standard [[(entry, value)]] = .ok clauses ∧ clauses ≠ []) := by
  obtain ⟨schema, generated⟩ := peopleCatalog_generated
  exact ⟨schema, generated, entries_iff_compiled peopleCatalog_scripted generated rfl⟩

end TypedSearch
