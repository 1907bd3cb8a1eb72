import TypedSearch.Catalog.Dataset
import TypedSearch.Config
import TypedSearch.Yaml.Part

/-!
Catalogs as documents describe them (`CatalogDoc`), and how such a description is read. Fields name
their types; a type is either named or a structure of its own (`TypeDef`), told apart by its shape once
the whole of it is read. Inside such a structure only strings count as names.

What is assumed is how derived readers take maps: a key that is not known is refused or passed over as
the type says, a part that comes twice is refused, and what is missing is looked for after all keys are
read.
-/

namespace TypedSearch

open Yaml

inductive TypeSpec where
  | named (name : String)
  | structured (kind name : String) (fields : List (String × TypeSpec))
  deriving Inhabited

abbrev FieldSpec := String × TypeSpec

structure ComputedSpec where
  type : TypeSpec
  arguments : List FieldSpec
  filterScript : Option String
  sortScript : Option String
  /-- Whether the field is listed among the fields of the dataset's object. -/
  exposed : Bool

structure DatasetSpec where
  /-- The index that holds the documents, by default that of the dataset's name. -/
  index : Option String
  record : String
  fields : List FieldSpec
  computed : Table ComputedSpec

structure CatalogSpec where
  config : Option ConfigOverride
  datasets : Table DatasetSpec

namespace TypeSpec

/-- The key of a record part that a value names; a whole number stands for the key at its place. -/
def keyOf? (known : List String) : Value → Option String
  | .scalar (.string name) => some name
  | .scalar (.integer (.ofNat place)) => some (known[place]?.getD "")
  | _ => none

def stringOf? : Value → Option String
  | .scalar (.string text) => some text
  | _ => none

def structureKeys : List String := ["type", "name", "fields"]

def fieldKeys : List String := ["name", "type"]

mutual

def ofValue? : Value → Option TypeSpec
  | .scalar (.string name) => some (.named name)
  | .mapping entries => ofEntries? none none none entries
  | _ => none
termination_by structural value => value

/-- The structure that entries describe, after the parts read before; no part may come twice. -/
def ofEntries? (kind name : Option String) (fields : Option (List FieldSpec)) :
    List (Value × Value) → Option TypeSpec
  | [] => do return .structured (← kind) (← name) (← fields)
  | (key, value) :: rest =>
    match keyOf? structureKeys key with
    | none => none
    | some "type" =>
      if kind.isSome then none
      else do ofEntries? (some (← stringOf? value)) name fields rest
    | some "name" =>
      if name.isSome then none
      else do ofEntries? kind (some (← stringOf? value)) fields rest
    | some "fields" =>
      if fields.isSome then none
      else do ofEntries? kind name (some (← fieldsOf? value)) rest
    | some _ => ofEntries? kind name fields rest
termination_by structural entries => entries

def fieldsOf? : Value → Option (List FieldSpec)
  | .sequence items => fieldList? items
  | _ => none
termination_by structural value => value

def fieldList? : List Value → Option (List FieldSpec)
  | [] => some []
  | item :: rest => do
    let field ← fieldOf? item
    return field :: (← fieldList? rest)
termination_by structural items => items

/-- The field that a value describes, by its entries or as a list of its parts. -/
def fieldOf? : Value → Option FieldSpec
  | .mapping entries => fieldEntries? none none entries
  | .sequence [name, type] => do return (← stringOf? name, ← ofValue? type)
  | _ => none
termination_by structural value => value

/-- The field that entries describe, after the parts read before; no part may come twice. -/
def fieldEntries? (name : Option String) (type : Option TypeSpec) :
    List (Value × Value) → Option FieldSpec
  | [] => do return (← name, ← type)
  | (key, value) :: rest =>
    match keyOf? fieldKeys key with
    | none => none
    | some "name" =>
      if name.isSome then none else do fieldEntries? (some (← stringOf? value)) type rest
    | some "type" =>
      if type.isSome then none else do fieldEntries? name (some (← ofValue? value)) rest
    | some _ => fieldEntries? name type rest
termination_by structural entries => entries

end

def read (document : Document) (owner place : Place) (node : Node) : Reading TypeSpec := do
  let value ← Reading.value document false place.depth place.steps node
  match ofValue? value with
  | some type => return type
  | none => Reading.refuse owner (.noAlternative "TypeDef")

end TypeSpec

def FieldSpec.read (document : Document) (place : Place) (node : Node) : Reading FieldSpec := do
  let (name, type) ← Reading.record document "FieldDef"
    (fun (name, type) key inner content => do
      if key = "name" then
        return (← Reading.once place key name (Reading.string document inner content), type)
      else if key = "type" then
        return (name, ← Reading.once place key type (TypeSpec.read document place inner content))
      else return (name, type))
    ((none, none) : Option String × Option TypeSpec) place node
  let name ← Reading.required place "name" name
  return (name, ← Reading.required place "type" type)

namespace ComputedSpec

def keys : List String := ["type", "arguments", "filter_script", "sort_script", "expose_field"]

structure Parts where
  type : Option TypeSpec := none
  arguments : Option (List FieldSpec) := none
  filterScript : Option (Option String) := none
  sortScript : Option (Option String) := none
  exposed : Option Bool := none

def readPart (document : Document) (place : Place) (parts : Parts) (key : String) (inner : Place)
    (content : Node) : Reading Parts := do
  let script := Reading.optional document (Reading.string document) inner content
  match key with
  | "type" =>
    let read := TypeSpec.read document place inner content
    return { parts with type := ← Reading.once place key parts.type read }
  | "arguments" =>
    let read := Reading.list document (FieldSpec.read document) inner content
    return { parts with arguments := ← Reading.once place key parts.arguments read }
  | "filter_script" =>
    return { parts with filterScript := ← Reading.once place key parts.filterScript script }
  | "sort_script" =>
    return { parts with sortScript := ← Reading.once place key parts.sortScript script }
  | "expose_field" =>
    let read := Reading.bool document inner content
    return { parts with exposed := ← Reading.once place key parts.exposed read }
  | other => Reading.refuse place (.unknownField other keys)

def read (document : Document) (place : Place) (node : Node) : Reading ComputedSpec := do
  let parts ← Reading.record document "ComputedDef" (readPart document place) {} place node
  return {
    type := ← Reading.required place "type" parts.type
    arguments := parts.arguments.getD []
    filterScript := parts.filterScript.getD none
    sortScript := parts.sortScript.getD none
    exposed := parts.exposed.getD false }

end ComputedSpec

def readRecord (document : Document) (place : Place) (node : Node) :
    Reading (String × List FieldSpec) := do
  let (name, fields) ← Reading.record document "RecordDef"
    (fun (name, fields) key inner content => do
      if key = "name" then
        return (← Reading.once place key name (Reading.string document inner content), fields)
      else if key = "fields" then
        let read := Reading.list document (FieldSpec.read document) inner content
        return (name, ← Reading.once place key fields read)
      else return (name, fields))
    ((none, none) : Option String × Option (List FieldSpec)) place node
  let name ← Reading.required place "name" name
  return (name, ← Reading.required place "fields" fields)

namespace DatasetSpec

def keys : List String := ["index", "schema", "computed"]

structure Parts where
  index : Option (Option String) := none
  schema : Option (String × List FieldSpec) := none
  computed : Option (Table ComputedSpec) := none

def readPart (document : Document) (place : Place) (parts : Parts) (key : String) (inner : Place)
    (content : Node) : Reading Parts := do
  match key with
  | "index" =>
    let read := Reading.optional document (Reading.string document) inner content
    return { parts with index := ← Reading.once place key parts.index read }
  | "schema" =>
    let read := readRecord document inner content
    return { parts with schema := ← Reading.once place key parts.schema read }
  | "computed" =>
    let read := Reading.table document (ComputedSpec.read document) inner content
    return { parts with computed := ← Reading.once place key parts.computed read }
  | other => Reading.refuse place (.unknownField other keys)

def read (document : Document) (place : Place) (node : Node) : Reading DatasetSpec := do
  let parts ← Reading.record document "DatasetDef" (readPart document place) {} place node
  let (record, fields) ← Reading.required place "schema" parts.schema
  return { index := parts.index.getD none, record, fields, computed := parts.computed.getD .empty }

end DatasetSpec

structure OverrideParts where
  backendUrl : Option (Option String) := none
  /-- What stands before every index name. -/
  indexPrefix : Option (Option String) := none
  logQueries : Option (Option Bool) := none

def OverrideParts.readPart (document : Document) (place : Place) (parts : OverrideParts) (key : String)
    (inner : Place) (content : Node) : Reading OverrideParts := do
  let text := Reading.optional document (Reading.string document) inner content
  match key with
  | "backend_url" =>
    return { parts with backendUrl := ← Reading.once place key parts.backendUrl text }
  | "index_prefix" =>
    return { parts with indexPrefix := ← Reading.once place key parts.indexPrefix text }
  | "log_queries" =>
    let read := Reading.optional document (Reading.bool document) inner content
    return { parts with logQueries := ← Reading.once place key parts.logQueries read }
  | other => Reading.refuse place (.unknownField other EngineConfig.keys)

def ConfigOverride.read (document : Document) (place : Place) (node : Node) :
    Reading ConfigOverride := do
  let parts ← Reading.record document "CatalogConfig" (OverrideParts.readPart document place) {} place
    node
  return ⟨parts.backendUrl.getD none, parts.indexPrefix.getD none, parts.logQueries.getD none⟩

namespace CatalogSpec

def keys : List String := ["config", "datasets"]

def readPart (document : Document) (place : Place)
    (parts : Option (Option ConfigOverride) × Option (Table DatasetSpec)) (key : String)
    (inner : Place) (content : Node) :
    Reading (Option (Option ConfigOverride) × Option (Table DatasetSpec)) := do
  match key with
  | "config" =>
    let read := Reading.optional document (ConfigOverride.read document) inner content
    return (← Reading.once place key parts.1 read, parts.2)
  | "datasets" =>
    let read := Reading.table document (DatasetSpec.read document) inner content
    return (parts.1, ← Reading.once place key parts.2 read)
  | other => Reading.refuse place (.unknownField other keys)

def read (document : Document) (place : Place) (node : Node) : Reading CatalogSpec := do
  let (config, datasets) ←
    Reading.record document "CatalogDoc" (readPart document place) (none, none) place node
  return ⟨config.getD none, ← Reading.required place "datasets" datasets⟩

def ofText? (text : String) : Except ConfigIssue CatalogSpec :=
  match Document.ofText? text with
  | none => .error .unreadable
  | some document =>
    match (read document {} (document.root.getD (.missing {}))).run 0 with
    | .ok (spec, _) => .ok spec
    | .error .disorder => .error .unreadable
    | .error (.mismatch place cause) => .error (.misshapen place.text cause)

end CatalogSpec

end TypedSearch
