import TypedSearch.Handler.Capability
import TypedSearch.Query.Clause

/-!
The handler of records. On every surface a record puts together what its fields answer (`aggregate`,
`compile_nested`, `record_properties`), in schema order, and a field without an answer is left out. The
types of the API are named for the record; a record none of whose fields contributes has no type of its
own.
-/

namespace TypedSearch.Handler

/-- Whether a type is a record, wherever it occurs. -/
def selectsRecord (type : SchemaType) (_ : FieldPath) : Bool := type.record?.isSome

/-- The entries that fields contribute, with the types joined to a table one field after the
other. -/
def partEntries : List (Part Unit (Emitted TypeRef)) → Definitions →
    Except Problem (List (String × TypeRef) × Definitions)
  | [], table => .ok ([], table)
  | part :: rest, table => do
    match ← part.answer () with
    | none => partEntries rest table
    | some emitted =>
      let joined ← table.mergeChecked emitted.definitions
      let (entries, all) ← partEntries rest joined
      return ((part.field.name, emitted.value) :: entries, all)

/-- The type named for a record that has the entries its fields contribute. -/
def aggregate (suffix : String) (body : List (String × TypeRef) → TypeBody) :
    HandlerCapability Unit (Emitted TypeRef) :=
  .computed fun site _ => do
    match site.type with
    | .primitive _ => return none
    | .record shape =>
      let (entries, table) ← partEntries site.parts .empty
      if entries.isEmpty then return none
      else
        let type : NamedType := ⟨shape.name ++ suffix, body entries⟩
        return some ⟨type.reference, ← table.mergeChecked (.of type)⟩

def objectBody (entries : List (String × TypeRef)) : TypeBody :=
  .object (entries.map fun (name, type) => ⟨name, type, []⟩)

def inputBody (entries : List (String × TypeRef)) : TypeBody :=
  .inputObject (entries.map fun (name, type) => ⟨name, type⟩)

/-- The mapping properties of fields, added to those of the fields before. -/
def partProperties : List (Part Unit Json) → Json.Entries → Except Problem Json.Entries
  | [], properties => .ok properties
  | part :: rest, properties => do
    match ← part.answer () with
    | none => partProperties rest properties
    | some property => partProperties rest (properties.insert part.field.name property)

/-- The mapping of a record: an object with the properties of its fields. -/
def recordMapping : HandlerCapability Unit Json :=
  .computed fun site _ => do
    match site.type with
    | .primitive _ => return none
    | .record _ =>
      let properties ← partProperties site.parts []
      return some (.object [("type", .string "object"), ("properties", .object properties)])

/-- The clauses that fields contribute for the client's entries; a field without an entry, or with
null, contributes none. -/
def partClauses (entries : Json.Entries) :
    List (Part Json (List Json)) → Except Problem (List Json)
  | [] => .ok []
  | part :: rest => do
    match entries.lookup part.field.name with
    | none | some .null => partClauses entries rest
    | some params =>
      let clauses ← part.answer params
      return clauses.getD [] ++ (← partClauses entries rest)

/-- The clauses of a record: those of its fields, for an object over them. -/
def recordClauses : HandlerCapability Json (List Json) :=
  .computed fun site params => do
    match site.type, params with
    | .primitive _, _ => return none
    | .record _, .null => return some []
    | .record _, .object entries => return some (← partClauses entries site.parts)
    | .record shape, other => throw (.argument site.path.dotted (.notRecord shape.name other))

def record : Handler where
  name := "record"
  selects := selectsRecord
  field := aggregate "Field" objectBody
  filterArg := aggregate "Filter" inputBody
  orderArg := aggregate "Order" inputBody
  mapping := recordMapping
  filter := recordClauses
  sort := recordClauses

end TypedSearch.Handler
