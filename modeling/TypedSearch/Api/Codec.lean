import TypedSearch.Api.Types

/-!
API types as JSON values, written and read (`NamedType`, `ApiSchema`). An object field without
arguments leaves them out, and the shape of a type is an object with the kind of the shape and its
entries.

What is assumed is how derived readers decode: entries are taken in the order in which they are
written, a shape is kept as a value until its kind is known, and what is kept so has messages of its
own for lists that are too long.
-/

namespace TypedSearch

def InputValue.toJson (input : InputValue) : Json :=
  .object [("name", .string input.name), ("type", input.type.toJson)]

def ObjectField.toJson (field : ObjectField) : Json :=
  .object
    ([("name", .string field.name), ("type", field.type.toJson)] ++
      if field.arguments.isEmpty then []
      else [("arguments", .array (field.arguments.map InputValue.toJson))])

def TypeBody.kinds : List String := ["object", "input_object", "enum"]

def TypeBody.kind : TypeBody → String
  | object _ => "object"
  | inputObject _ => "input_object"
  | enumeration _ => "enum"

def TypeBody.entriesToJson : TypeBody → Json
  | object fields => .array (fields.map ObjectField.toJson)
  | inputObject fields => .array (fields.map InputValue.toJson)
  | enumeration values => .ofStrings values

def TypeBody.toJson (body : TypeBody) : Json :=
  .object [("kind", .string body.kind), ("entries", body.entriesToJson)]

def NamedType.toJson (type : NamedType) : Json :=
  .object [("name", .string type.name), ("body", type.body.toJson)]

def ApiSchema.toJson (schema : ApiSchema) : Json :=
  .object
    [("query", .string schema.query), ("definitions", .array (schema.definitions.map NamedType.toJson))]

/-- The fingerprint of a schema, that of its value. -/
def ApiSchema.fingerprint (schema : ApiSchema) : Fingerprint := .ofJson schema.toJson

/-- The error for a list with more items than fields; lists inside a buffered value are counted
against the fields, others are not. -/
def tooManyItems (buffered : Bool) (fields : Nat) : List Json → DecodeError :=
  if buffered then Json.overlongBuffered fields else Json.overlong

def InputValue.ofJson? (buffered : Bool) (value : Json) : Json.Decoded InputValue := do
  let (name, type) ←
    value.toPair "InputValue" (tooManyItems buffered 2) "name" "type" Json.toText TypeRef.ofJson?
  return ⟨name, type⟩

def InputValue.listOfJson? (buffered : Bool) : Json → Json.Decoded (List InputValue) :=
  Json.toList (InputValue.ofJson? buffered)

structure ObjectField.Parts where
  /-- The name, if found. -/
  name : Option String
  /-- The type, if found. -/
  type : Option TypeRef
  /-- The arguments, none if not found. -/
  arguments : List InputValue

/-- Reads one entry into the parts of an object field. -/
def ObjectField.readPart (buffered : Bool) (parts : Parts) (entry : String × Json) :
    Json.Decoded Parts := do
  if entry.1 = "name" then return { parts with name := some (← entry.2.toText) }
  else if entry.1 = "type" then return { parts with type := some (← TypeRef.ofJson? entry.2) }
  else if entry.1 = "arguments" then
    return { parts with arguments := ← InputValue.listOfJson? buffered entry.2 }
  else return parts

def ObjectField.ofJson? (buffered : Bool) : Json → Json.Decoded ObjectField
  | .object entries => do
    match ← entries.foldlM (readPart buffered) ⟨none, none, []⟩ with
    | ⟨none, _, _⟩ => throw (.missingField "name")
    | ⟨some _, none, _⟩ => throw (.missingField "type")
    | ⟨some name, some type, arguments⟩ => return ⟨name, type, arguments⟩
  | .array [] => .error (Json.tooShort [] "ObjectField" 3)
  | .array [first] => do
    let _ ← first.toText
    throw (Json.tooShort [first] "ObjectField" 3)
  | .array [first, second] => do
    return ⟨← first.toText, ← TypeRef.ofJson? second, []⟩
  | .array (first :: second :: third :: rest) => do
    let name ← first.toText
    let type ← TypeRef.ofJson? second
    let arguments ← InputValue.listOfJson? buffered third
    if rest.isEmpty then return ⟨name, type, arguments⟩
    else throw (tooManyItems buffered 3 (first :: second :: third :: rest))
  | other => other.unexpected "struct ObjectField"

def TypeBody.ofKind? (buffered : Bool) (kind : String) (entries : Json) : Json.Decoded TypeBody :=
  if kind = "object" then object <$> entries.toList (ObjectField.ofJson? buffered)
  else if kind = "input_object" then inputObject <$> InputValue.listOfJson? buffered entries
  else enumeration <$> entries.toList Json.toText

/-- Reads a shape from entries: the kind and the entries of the shape in either order, everything
else being passed over. Entries that come before the kind are kept until it is known. -/
def TypeBody.ofEntries (kept : Option Json) : Json.Entries → Json.Decoded TypeBody
  | [] => .error (.missingField "kind")
  | (key, value) :: rest =>
    if key = "kind" then do
      let kind ← value.toBareVariant kinds
      match kept with
      | some entries => ofKind? true kind entries
      | none =>
        match rest.lookup "entries" with
        | some entries => ofKind? false kind entries
        | none => throw (.missingField "entries")
    else if key = "entries" then ofEntries (some value) rest
    else ofEntries kept rest

def TypeBody.ofJson? : Json → Json.Decoded TypeBody
  | .object entries => ofEntries none entries
  | .array [] => .error (.invalidLength 0 "adjacently tagged enum TypeBody")
  | .array [first] => do
    let _ ← first.toBareVariant kinds
    throw (.invalidLength 1 "adjacently tagged enum TypeBody")
  | .array (first :: second :: rest) => do
    let kind ← first.toBareVariant kinds
    let body ← ofKind? false kind second
    if rest.isEmpty then return body else throw (Json.overlong (first :: second :: rest))
  | other => other.unexpected "adjacently tagged enum TypeBody"

def NamedType.ofJson? (value : Json) : Json.Decoded NamedType := do
  let (name, body) ←
    value.toPair "NamedType" Json.overlong "name" "body" Json.toText TypeBody.ofJson?
  return ⟨name, body⟩

def ApiSchema.ofJson? (value : Json) : Json.Decoded ApiSchema := do
  let (query, definitions) ←
    value.toPair "ApiSchema" Json.overlong "query" "definitions" Json.toText
      (Json.toList NamedType.ofJson?)
  return ⟨query, definitions⟩

end TypedSearch
