import TypedSearch.Schema.Type

/-!
What can be wrong with a catalog or with a request, as causes, and the wording of each (`Error`).
-/

namespace TypedSearch

/-- What is wrong with a catalog's configuration text. -/
inductive ConfigIssue where
  /-- A field type that is no primitive. -/
  | unknownType (name : String)
  /-- A structured field type that is no record. -/
  | unknownStructure (kind name : String)
  /-- A document of the wrong shape, with the place of the fault. -/
  | misshapen (place : String) (cause : DecodeError)
  /-- A text that is no document at all. -/
  | unreadable
  deriving DecidableEq, Repr

inductive SchemaIssue where
  /-- A record name that is no identifier. -/
  | recordName (name : String)
  /-- A field name that is no identifier. -/
  | fieldName (field record : String)
  | repeatedField (record field : String)
  /-- A dataset name that is no identifier. -/
  | datasetName (name : String)
  /-- A computed field's name that is no identifier. -/
  | computedName (name : String)
  /-- A name of a computed field's argument that is no identifier. -/
  | argumentName (argument computed : String)
  /-- A computed field's argument of a type that the API cannot express. -/
  | argumentType (argument computed : String) (type : SchemaType)
  /-- What a capability of a custom handler or computed field reports. -/
  | reported (text : String)
  deriving DecidableEq

inductive Clash where
  | type (name : String)
  | index (name dataset : String)
  deriving DecidableEq, Repr

inductive ArgumentIssue where
  /-- A value that is no sort direction. -/
  | notDirection (got : Json)
  /-- A value that is no term filter. -/
  | notFilter (got : Json)
  /-- A value that is no object over the fields of a record. -/
  | notRecord (record : String) (got : Json)
  /-- A value that is no object of arguments and a key. -/
  | notWrapper (key : String) (got : Json)
  /-- A key beside the arguments and the expected one. -/
  | unexpectedKey (key : String)
  /-- Arguments that are absent or no object. -/
  | missingArguments
  /-- A value that could not be decoded. -/
  | undecodable (cause : DecodeError)
  /-- What a capability of a custom handler or computed field reports. -/
  | reported (text : String)
  deriving DecidableEq

/-- What can be wrong with a catalog or with a request. -/
inductive Problem where
  | config (issue : ConfigIssue)
  | schema (issue : SchemaIssue)
  | collision (clash : Clash)
  /-- An argument of a request, by its dotted path. -/
  | argument (field : String) (issue : ArgumentIssue)
  | undefinedType (name : String)
  /-- Arguments that are not put together as an input type. -/
  | notInputType (name : String)
  deriving DecidableEq

def ConfigIssue.message : ConfigIssue → String
  | unknownType name => s!"unknown field type '{name}'"
  | unknownStructure kind name => s!"unsupported complex type '{kind}' for '{name}'"
  | misshapen place cause =>
    if place.isEmpty then cause.message else place ++ ": " ++ cause.message
  | unreadable => "the text is not a readable document"

def SchemaIssue.message : SchemaIssue → String
  | recordName name => s!"record name '{name}' is not a valid identifier"
  | fieldName field record => s!"field '{field}' of record '{record}' is not a valid identifier"
  | repeatedField record field => s!"record '{record}' declares field '{field}' more than once"
  | datasetName name => s!"dataset name '{name}' is not a valid identifier"
  | computedName name => s!"computed field '{name}' is not a valid identifier"
  | argumentName argument computed =>
    s!"argument '{argument}' of computed field '{computed}' is not a valid identifier"
  | argumentType argument computed type =>
    s!"argument '{argument}' of computed field '{computed}' has unsupported type {type.description}"
  | reported text => text

def Clash.description : Clash → String
  | type name => name
  | index name dataset => s!"index '{name}' (dataset '{dataset}' maps it differently)"

def ArgumentIssue.message : ArgumentIssue → String
  | notDirection got => s!"expected ASC or DESC, got {got.compact}"
  | notFilter got => s!"expected a filter object, got {got.compact}"
  | notRecord record got => s!"expected an object keyed by {record} fields, got {got.compact}"
  | notWrapper key got => s!"expected \x7barguments, {key}\x7d, got {got.compact}"
  | unexpectedKey key => s!"unexpected key '{key}'"
  | missingArguments => "missing 'arguments' object"
  | undecodable cause => cause.message
  | reported text => text

def Problem.message : Problem → String
  | config issue => s!"Invalid configuration: {issue.message}"
  | schema issue => s!"Schema error: {issue.message}"
  | collision clash =>
    s!"Type name collision: '{clash.description}' is emitted with two different shapes"
  | argument field issue => s!"Invalid argument for '{field}': {issue.message}"
  | undefinedType name =>
    s!"Internal invariant failed: type '{name}' was declared but never populated"
  | notInputType name => s!"Internal invariant failed: {name} is not an input type"

end TypedSearch
