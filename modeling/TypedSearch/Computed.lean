import TypedSearch.Handler.Standard

/-!
Computed fields (`ComputedField`): fields of a dataset that are not stored. A computed field carries
the capabilities of a handler other than selection and mapping, and has only those its author gives it.
Its place is the registry, its result type and its path, so it may borrow what the registry answers for
the result type. A field that takes arguments receives them beside the filter or the direction
(`split_arguments`).

What is assumed is that capabilities are functions: they depend on nothing but their place and their
parameters.
-/

namespace TypedSearch

structure ComputedSite where
  registry : Registry
  type : SchemaType
  path : FieldPath

abbrev ComputedCapability (π α : Type) := Capability ComputedSite π α

structure Argument where
  name : String
  type : SchemaType
  deriving DecidableEq

/-- A field that is not stored. -/
structure ComputedField where
  resultType : SchemaType
  arguments : List Argument := []
  field : ComputedCapability Unit (Emitted TypeRef) := .absent
  filterArg : ComputedCapability Unit (Emitted TypeRef) := .absent
  orderArg : ComputedCapability Unit (Emitted TypeRef) := .absent
  filter : ComputedCapability Json (List Json) := .absent
  sort : ComputedCapability Json (List Json) := .absent

/-- What a client gave for a computed field: its arguments and the rest. -/
structure HookParams where
  arguments : Json.Entries
  value : Json
  deriving DecidableEq

/-- Takes the client's parameters for the field at a path apart. A field without arguments receives
them whole; one with arguments receives an object of the arguments and the key. -/
def splitArguments (path : FieldPath) (params : Json) (key : String) (hasArguments : Bool) :
    Except Problem HookParams :=
  if !hasArguments then .ok ⟨[], params⟩
  else
    match params with
    | .object entries =>
      match (Json.Entries.keys entries).find? fun other => other ≠ "arguments" && other ≠ key with
      | some unknown => .error (.argument path.dotted (.unexpectedKey unknown))
      | none =>
        match entries.lookup "arguments" with
        | some (.object arguments) => .ok ⟨arguments, (entries.lookup key).getD .null⟩
        | _ => .error (.argument path.dotted .missingArguments)
    | other => .error (.argument path.dotted (.notWrapper key other))

namespace ComputedField

def hasArguments (field : ComputedField) : Bool := !field.arguments.isEmpty

def standardField : ComputedCapability Unit (Emitted TypeRef) :=
  .computed fun site _ => site.registry.fieldType site.type site.path

/-- The type of filters as the registry has it for the result type. -/
def standardFilterArg : ComputedCapability Unit (Emitted TypeRef) :=
  .computed fun site _ => site.registry.filterArg site.type site.path

/-- The type of orders as the registry has it for the result type. -/
def standardOrderArg : ComputedCapability Unit (Emitted TypeRef) :=
  .computed fun site _ => site.registry.orderArg site.type site.path

/-- The filter that a script decides: asked for true it is the script, for false its negation, and
asked for nothing it adds no clause. -/
def scriptFilter (source : String) (hasArguments : Bool) : ComputedCapability Json (List Json) :=
  .computed fun site params => do
    let hook ← splitArguments site.path params "filter" hasArguments
    let filter ← BooleanFilter.ofParams site.path hook.value
    let query := Clause.scriptQuery (Clause.script source hook.arguments)
    return some
      (match filter.equals with
        | some true => [query]
        | some false => [Clause.negation [query]]
        | none => [])

/-- The kind of sort key that a script of a result type gives. -/
def scriptKind (type : SchemaType) : String :=
  match type.primitive? with
  | some .int | some .float | some .long | some .double => "number"
  | _ => "string"

def scriptSort (source kind : String) (hasArguments : Bool) : ComputedCapability Json (List Json) :=
  .computed fun site params => do
    let hook ← splitArguments site.path params "order" hasArguments
    let direction ← Direction.ofParams site.path hook.value
    return some [Clause.scriptSort kind direction (Clause.script source hook.arguments)]

/-- A field evaluated by scripts: one that decides a filter on truth values, and one that gives a
sort key. -/
def scripted (resultType : SchemaType) (arguments : List Argument)
    (filterScript sortScript : Option String) : ComputedField :=
  let hasArguments := !arguments.isEmpty
  { resultType
    arguments
    filterArg :=
      match filterScript with
      | some _ => Handler.definedArg BooleanFilter.namedType
      | none => .absent
    filter :=
      match filterScript with
      | some source => scriptFilter source hasArguments
      | none => .absent
    orderArg :=
      match sortScript with
      | some _ => Handler.definedArg Direction.namedType
      | none => .absent
    sort :=
      match sortScript with
      | some source => scriptSort source (scriptKind resultType) hasArguments
      | none => .absent }

end ComputedField

end TypedSearch
