import TypedSearch.Compile.Search
import TypedSearch.Proofs.Api.Acceptance

/-!
Members of datasets on the surfaces where clients give something for them. A member accepts what
conforms to its entry: stored fields by their handlers, scripted fields directly or from the wrapper
that holds their arguments.
-/

namespace TypedSearch

open ApiSchema Outcome

variable {schema : ApiSchema} {names : DatasetNames} {params : Json}

namespace ComputedField

/-- A field is one that scripts evaluate, which may also be readable like a stored field. -/
def IsScripted (field : ComputedField) : Prop :=
  ∃ filterScript sortScript,
    { field with field := .absent } =
      scripted field.resultType field.arguments filterScript sortScript ∧
    (field.field = .absent ∨ field.field = standardField)

/-- On the filter surface a scripted field is absent and has no clauses, or takes the filter of truth
values. -/
theorem scripted_filter {field : ComputedField} (script : field.IsScripted) :
    Surface.filter.capability field = .absent ∧ field.filter = .absent ∨
      Surface.filter.capability field = Handler.definedArg BooleanFilter.namedType ∧
        ∃ source, field.filter = scriptFilter source field.hasArguments := by
  obtain ⟨filterScript, sortScript, same, -⟩ := script
  have argument := congrArg ComputedField.filterArg same
  have hook := congrArg ComputedField.filter same
  cases filterScript with
  | none => exact .inl ⟨argument, hook⟩
  | some source => exact .inr ⟨argument, source, hook⟩

/-- On the order surface a scripted field is absent and has no clauses, or takes a direction. -/
theorem scripted_order {field : ComputedField} (script : field.IsScripted) :
    Surface.order.capability field = .absent ∧ field.sort = .absent ∨
      Surface.order.capability field = Handler.definedArg Direction.namedType ∧
        ∃ source kind, field.sort = scriptSort source kind field.hasArguments := by
  obtain ⟨filterScript, sortScript, same, -⟩ := script
  have argument := congrArg ComputedField.orderArg same
  have hook := congrArg ComputedField.sort same
  cases sortScript with
  | none => exact .inl ⟨argument, hook⟩
  | some source => exact .inr ⟨argument, source, _, hook⟩

/-- The clauses of a filter that a script decides are the script or the negation of it. -/
theorem scriptFilter_clauses {source : String} {takes : Bool} {site : ComputedSite} {params : Json}
    {clauses : List Json} {clause : Json}
    (ran : (scriptFilter source takes).resolve site params = .ok (some clauses))
    (member : clause ∈ clauses) :
    ∃ arguments, clause = Clause.scriptQuery (Clause.script source arguments) ∨
      clause = Clause.negation [Clause.scriptQuery (Clause.script source arguments)] := by
  obtain ⟨given, -, ran⟩ := bind_eq_ok.mp ran
  obtain ⟨filter, -, same⟩ := bind_eq_ok.mp ran
  cases same
  refine ⟨given.arguments, ?_⟩
  split at member
  · exact .inl (List.mem_singleton.mp member)
  · exact .inr (List.mem_singleton.mp member)
  · simp at member

theorem scripted_isBuilt {field : ComputedField} (script : field.IsScripted) : field.IsBuilt := by
  intro surface
  cases surface with
  | field =>
    obtain ⟨-, -, -, absent | standard⟩ := script
    · exact .inl absent
    · exact .inr (.inr standard)
  | filter =>
    rcases scripted_filter script with ⟨absent, -⟩ | ⟨defined, -⟩
    · exact .inl absent
    · exact .inr (.inl ⟨_, rfl, defined⟩)
  | order =>
    rcases scripted_order script with ⟨absent, -⟩ | ⟨defined, -⟩
    · exact .inl absent
    · exact .inr (.inl ⟨_, rfl, defined⟩)

/-- What conforms to a wrapper is taken apart into arguments and what stands beside them, null if it
was left out. -/
theorem splitArguments_accepts {name key suffix : String} {field : ComputedField}
    {reference : TypeRef} (path : FieldPath) (beside : "arguments" ≠ key)
    (unreserved : names.memberBase name ++ suffix ∉ Scalar.names)
    (listed : schema.Lists [Member.argumentsType names name field,
      Member.wrapperType names name field key suffix reference])
    (optional : reference.admitsNull = true)
    (fits : schema.conforms params (.named (names.memberBase name ++ suffix)) = true)
    (given : params ≠ .null) :
    ∃ wrapper arguments, params = .object wrapper ∧
      splitArguments path params key true =
        .ok ⟨arguments, (wrapper.lookup key).getD .null⟩ ∧
      schema.conforms ((wrapper.lookup key).getD .null) reference = true := by
  have wrapperDefined := listed _ (List.mem_cons_of_mem _ List.mem_cons_self)
  have argumentsDefined := listed _ List.mem_cons_self
  rcases conforms_inputObject unreserved wrapperDefined fits with null | ⟨wrapper, rfl, fitting⟩
  · exact (given null).elim
  have known : (Json.Entries.keys wrapper).find?
      (fun other => other ≠ "arguments" && other ≠ key) = none := by
    refine List.find?_eq_none.mpr fun other inside => ?_
    obtain ⟨entry, member, rfl⟩ := List.mem_map.mp inside
    obtain ⟨input, listed, same, -⟩ := fitting.input_of member
    simp only [List.mem_cons, List.not_mem_nil, or_false] at listed
    rcases listed with rfl | rfl <;> simp [← same]
  -- The arguments cannot be left out, and as they exclude null they are an object.
  obtain ⟨value, found⟩ : ∃ value, wrapper.lookup "arguments" = some value :=
    Table.exists_lookup (fitting.required _ List.mem_cons_self rfl)
  have object : ∃ arguments, value = .object arguments := by
    obtain ⟨input, listed, same, conforming⟩ := fitting.input_of (Table.mem_of_lookup found)
    simp only [List.mem_cons, List.not_mem_nil, or_false] at listed
    rcases listed with rfl | rfl
    · obtain ⟨given, conforming⟩ := conforms_nonNull.mp conforming
      rcases conforms_inputObject (append_unreserved _ 's' rfl (by decide)) argumentsDefined
        conforming with null | ⟨arguments, object, -⟩
      · exact (given null).elim
      · exact ⟨arguments, object⟩
    · exact (beside same.symm).elim
  obtain ⟨arguments, rfl⟩ := object
  refine ⟨wrapper, arguments, rfl, ?_, ?_⟩
  · simp only [splitArguments, Bool.not_true, Bool.false_eq_true, ↓reduceIte, known, found]
  -- What stands beside them may be left out and is then null, which the wrapped type admits.
  cases held : wrapper.lookup key with
  | none => exact optional
  | some value =>
    obtain ⟨input, listed, same, conforming⟩ := fitting.input_of (Table.mem_of_lookup held)
    simp only [List.mem_cons, List.not_mem_nil, or_false] at listed
    rcases listed with rfl | rfl
    · exact (beside same).elim
    · exact conforming

/-- What stands beside the arguments of a computed field, if it takes any, and all that the client
gave otherwise. -/
def beside (field : ComputedField) (key : String) (params : Json) : Json :=
  match params with
  | .object wrapper => if field.hasArguments then (wrapper.lookup key).getD .null else params
  | _ => params

/-- What conforms to the entry of a computed field is taken apart, and what then stands beside the
arguments conforms to the type that was wrapped. -/
theorem entry_splits {surface : Surface} {name key suffix : String} {field : ComputedField}
    {reference : TypeRef} (path : FieldPath) (wrapper : surface.wrapper? = some (key, suffix))
    (differ : "arguments" ≠ key) (unreserved : ∀ base, base ++ suffix ∉ Scalar.names)
    (listed : schema.Lists ((Member.computed name field).wrapping surface names reference).2)
    (optional : reference.admitsNull = true)
    (fits : schema.conforms params
      ((Member.computed name field).wrapping surface names reference).1.type = true)
    (given : params ≠ .null) :
    ∃ arguments, splitArguments path params key field.hasArguments =
        .ok ⟨arguments, field.beside key params⟩ ∧
      schema.conforms (field.beside key params) reference = true := by
  cases takes : field.hasArguments with
  | false =>
    have whole : field.beside key params = params := by
      cases params <;> simp [beside, takes]
    simp only [Member.wrapping, takes, Bool.not_false, ↓reduceIte] at fits
    rw [whole]
    exact ⟨[], by simp [splitArguments], fits⟩
  | true =>
    simp only [Member.wrapping, takes, Bool.not_true, Bool.false_eq_true, ↓reduceIte,
      wrapper] at fits listed
    obtain ⟨entries, arguments, rfl, split, conforming⟩ :=
      splitArguments_accepts path differ (unreserved _) listed optional fits given
    have value : field.beside key (.object entries) = (entries.lookup key).getD .null := by
      simp [beside, takes]
    exact ⟨arguments, value ▸ split, value ▸ conforming⟩

end ComputedField

namespace Member

variable {member : Member} {entry : SurfaceEntry} {types : List NamedType}

/-- A member is stored or evaluated by scripts. -/
def IsScripted : Member → Prop
  | stored _ => True
  | computed _ field => field.IsScripted

/-- The entry of a member refers to what the member contributes, wrapped or not. -/
theorem entryOutline_eq_some {surface : Surface}
    (made : member.entryOutline surface names = some (entry, types)) :
    ∃ outline, member.outline surface = some outline ∧
      entry = (member.wrapping surface names outline.reference).1 ∧
      types = outline.types ++ (member.wrapping surface names outline.reference).2 := by
  obtain ⟨outline, found, same⟩ := Option.map_eq_some_iff.mp made
  cases same
  exact ⟨outline, found, rfl, rfl⟩

theorem entry_name {surface : Surface}
    (made : member.entryOutline surface names = some (entry, types)) : entry.name = member.name := by
  obtain ⟨outline, -, rfl, -⟩ := entryOutline_eq_some made
  rcases wrapping_cases surface names outline.reference member with
    alone | ⟨name, field, rfl, -, ⟨-, beside⟩ | ⟨key, suffix, -, wrapped⟩⟩
  · rw [alone]
  · rw [beside]
    rfl
  · rw [wrapped]
    rfl

/-- Only computed fields that are read have arguments. -/
theorem entry_arguments {surface : Surface}
    (made : member.entryOutline surface names = some (entry, types)) :
    entry.arguments = [] ∨
      ∃ name field, member = computed name field ∧ surface = .field ∧
        entry.arguments = field.inputs := by
  obtain ⟨outline, -, rfl, -⟩ := entryOutline_eq_some made
  rcases wrapping_cases surface names outline.reference member with
    alone | ⟨name, field, rfl, -, ⟨read, beside⟩ | ⟨key, suffix, -, wrapped⟩⟩
  · exact .inl (by rw [alone])
  · exact .inr ⟨name, field, rfl, read, by rw [beside]⟩
  · exact .inl (by rw [wrapped])

/-- What conforms to the entry of a member in the filter type is accepted as a filter on it. -/
theorem filterClauses_accept (scripted : member.IsScripted) (valid : member.type.validate = .ok ())
    (made : member.entryOutline .filter names = some (entry, types)) (listed : schema.Lists types)
    (fits : schema.conforms params entry.type = true) (given : params ≠ .null) :
    ¬ Fails (member.filterClauses .standard params) := by
  obtain ⟨outline, found, rfl, rfl⟩ := entryOutline_eq_some made
  obtain ⟨inner, outer⟩ := lists_append.mp listed
  cases member with
  | stored field => exact stored_accepts filter_takesInput field.type valid found inner fits given
  | computed name field =>
    rcases ComputedField.scripted_filter scripted with ⟨absent, -⟩ | ⟨defined, source, hook⟩
    · cases (ComputedField.outline_absent absent).symm.trans found
    cases (ComputedField.outline_defined rfl defined).symm.trans found
    obtain ⟨arguments, split, conforming⟩ :=
      ComputedField.entry_splits (FieldPath.ofName name) rfl (by decide)
        (fun base => append_unreserved base 'r' rfl (by decide)) outer rfl fits given
    obtain ⟨filter, read⟩ : ∃ filter,
        BooleanFilter.ofParams (.ofName name) (field.beside "filter" params) = .ok filter :=
      parse_accepts (by decide) boolean_reads_parts (inner _ List.mem_cons_self) conforming
    simp [filterClauses, hook, ComputedField.scriptFilter, Capability.resolve, path, Member.name,
      split, read]

/-- What a client gives for a member as the direction to sort by it. -/
def direction (member : Member) (params : Json) : Json :=
  match member with
  | stored _ => params
  | computed _ field => field.beside "order" params

/-- What conforms to the entry of a member in the order type is accepted as an order by it, but for a
wrapper that has no direction. -/
theorem sortClauses_accept (scripted : member.IsScripted) (valid : member.type.validate = .ok ())
    (made : member.entryOutline .order names = some (entry, types)) (listed : schema.Lists types)
    (fits : schema.conforms params entry.type = true) (given : params ≠ .null) :
    (member.direction params = .null → member.sortClauses .standard params =
      .error (.argument member.name (.notDirection .null))) ∧
    (member.direction params ≠ .null → ¬ Fails (member.sortClauses .standard params)) := by
  obtain ⟨outline, found, rfl, rfl⟩ := entryOutline_eq_some made
  obtain ⟨inner, outer⟩ := lists_append.mp listed
  cases member with
  | stored field =>
    refine ⟨fun null => (given null).elim, fun _ => ?_⟩
    exact stored_accepts order_takesInput field.type valid found inner fits given
  | computed name field =>
    rcases ComputedField.scripted_order scripted with ⟨absent, -⟩ | ⟨defined, source, kind, hook⟩
    · cases (ComputedField.outline_absent absent).symm.trans found
    cases (ComputedField.outline_defined rfl defined).symm.trans found
    obtain ⟨arguments, split, conforming⟩ :=
      ComputedField.entry_splits (FieldPath.ofName name) rfl (by decide)
        (fun base => append_unreserved base 'r' rfl (by decide)) outer rfl fits given
    simp only [sortClauses, hook, ComputedField.scriptSort, Capability.resolve, path, Member.name,
      direction, split, ok_bind]
    constructor
    · intro null
      rw [null]
      rfl
    · intro present
      obtain ⟨direction, read⟩ :=
        direction_accepts (.ofName name) (inner _ List.mem_cons_self) conforming present
      simp [read]

end Member

end TypedSearch
