import TypedSearch.Api.TypeRef
import TypedSearch.Digest.Fingerprint

/-!
The types of a search API (`NamedType`): objects with fields that may take arguments, input objects,
and enumerations, each under a name, and the schema that lists them (`ApiSchema`). Every part has its
line in a schema text.
-/

namespace TypedSearch

/-- A named input: a field of an input object or an argument. -/
structure InputValue where
  name : String
  type : TypeRef
  deriving DecidableEq, Repr

structure ObjectField where
  name : String
  type : TypeRef
  arguments : List InputValue
  deriving DecidableEq, Repr

inductive TypeBody where
  | object (fields : List ObjectField)
  | inputObject (fields : List InputValue)
  | enumeration (values : List String)
  deriving DecidableEq, Repr

structure NamedType where
  name : String
  body : TypeBody
  deriving DecidableEq, Repr

/-- A search API: its types in order and the one where queries start. -/
structure ApiSchema where
  query : String
  definitions : List NamedType
  deriving DecidableEq, Repr

namespace Scalar

def int : String := "Int"

def float : String := "Float"

def string : String := "String"

def boolean : String := "Boolean"

end Scalar

/-- The name of the type where the queries of a generated API start. -/
def queryTypeName : String := "Query"

def InputValue.sdl (input : InputValue) : String := input.name ++ ": " ++ input.type.sdl

/-- An object field as a schema text has it; without arguments the brackets are left out. -/
def ObjectField.sdl (field : ObjectField) : String :=
  let arguments :=
    if field.arguments.isEmpty then ""
    else "(" ++ Text.joined ", " (field.arguments.map InputValue.sdl) ++ ")"
  field.name ++ arguments ++ ": " ++ field.type.sdl

namespace TypeBody

def keyword : TypeBody → String
  | object _ => "type"
  | inputObject _ => "input"
  | enumeration _ => "enum"

def lines : TypeBody → List String
  | object fields => fields.map ObjectField.sdl
  | inputObject fields => fields.map InputValue.sdl
  | enumeration values => values

/-- The names of the entries in order. -/
def entryNames : TypeBody → List String
  | object fields => fields.map (·.name)
  | inputObject fields => fields.map (·.name)
  | enumeration values => values

end TypeBody

namespace NamedType

def reference (type : NamedType) : TypeRef := .named type.name

/-- The names of the entries in order. -/
def entryNames (type : NamedType) : List String := type.body.entryNames

/-- The first object field of a name. -/
def objectField? (type : NamedType) (name : String) : Option ObjectField :=
  match type.body with
  | .object fields => fields.find? fun field => field.name = name
  | _ => none

/-- The first input field of a name. -/
def inputField? (type : NamedType) (name : String) : Option InputValue :=
  match type.body with
  | .inputObject fields => fields.find? fun field => field.name = name
  | _ => none

def sdl (type : NamedType) : String :=
  type.body.keyword ++ " " ++ type.name ++ " \x7b\n"
    ++ Text.concat (type.body.lines.map fun line => "  " ++ line ++ "\n") ++ "\x7d"

end NamedType

namespace ApiSchema

/-- The first type of a name. -/
def get? (schema : ApiSchema) (name : String) : Option NamedType :=
  schema.definitions.find? fun type => type.name = name

def queryType? (schema : ApiSchema) : Option NamedType := schema.get? schema.query

/-- The schema text: where queries start, then every type after an empty line. -/
def sdl (schema : ApiSchema) : String :=
  "schema \x7b\n  query: " ++ schema.query ++ "\n\x7d\n"
    ++ Text.concat (schema.definitions.map fun type => "\n" ++ type.sdl ++ "\n")

end ApiSchema

end TypedSearch
