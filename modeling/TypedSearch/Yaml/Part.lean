import TypedSearch.Table
import TypedSearch.Yaml.Value

/-!
Reading the typed parts of a document (`DeserializerFromEvents`). A part is asked for by the type that
is expected; where nothing is written a list or a map is empty and an optional part is absent. Any
scalar can be read as a string, just as it is written.
-/

namespace TypedSearch.Yaml.Reading

/-- Stops at a node of another type than the expected one. -/
def unexpected {α : Type} (place : Place) (node : Node) (expected : String) : Reading α :=
  match node with
  | .scalar properties bare _ text =>
    match meaning? properties.tag bare text with
    | some meaning => refuse place (.invalidType meaning.found expected)
    | none => disorder
  | .sequence _ _ => refuse place (.invalidType .sequence expected)
  | .mapping _ _ => refuse place (.invalidType .map expected)
  | .alias _ => disorder

def isMissing : Node → Bool
  | .scalar _ bare _ text => bare && text.isEmpty
  | _ => false

def text (document : Document) (expected : String) (place : Place) (node : Node) : Reading String := do
  match ← follow document node with
  | .scalar _ _ _ text => return text
  | other => unexpected place other expected

def string (document : Document) : Place → Node → Reading String := text document "a string"

/-- Reads a truth value: a plain scalar, or lines under the tag of truth values. -/
def bool (document : Document) (place : Place) (node : Node) : Reading Bool := do
  let target ← follow document node
  match target with
  | .scalar properties bare literal text =>
    match if bare ∨ (literal ∧ properties.tag = some coreTag.bool) then boolOf? text else none with
    | some value => return value
    | none => unexpected place target "a boolean"
  | _ => unexpected place target "a boolean"

def optional {α : Type} (document : Document) (read : Place → Node → Reading α) (place : Place)
    (node : Node) : Reading (Option α) := do
  let target ← follow document node
  match target with
  | .scalar properties true _ text =>
    if properties.tag = some coreTag.null then
      if isNullWord text then return none else disorder
    else if properties.tag = none ∧ (text.isEmpty ∨ isNullWord text) then return none
    else some <$> read place target
  | _ => some <$> read place target

def list {α : Type} (document : Document) (read : Place → Node → Reading α) (place : Place)
    (node : Node) : Reading (List α) := do
  let target ← follow document node
  match target with
  | .sequence _ items =>
    (withSteps items).mapM fun (step, item) => read (place.inside step) item
  | _ => if isMissing target then return [] else unexpected place target "a sequence"

/-- The entries of a node that is expected to be a map. -/
def entries (document : Document) (expected : String) (place : Place) (node : Node) :
    Reading (List (Node × Node)) := do
  let target ← follow document node
  match target with
  | .mapping _ entries => return entries
  | _ => if isMissing target then return [] else unexpected place target expected

/-- Reads a map by key; of two entries with one key the last one counts. -/
def table {α : Type} (document : Document) (read : Place → Node → Reading α) (place : Place)
    (node : Node) : Reading (Table α) := do
  (← entries document "a map" place node).foldlM (fun table (key, content) => do
    let name ← string document place key
    return table.insert name (← read (place.inside (stepTo key)) content)) .empty

/-- Reads the parts of a record one by one, by their keys. -/
def record {α : Type} (document : Document) (type : String)
    (read : α → String → Place → Node → Reading α) (start : α) (place : Place) (node : Node) :
    Reading α := do
  (← entries document s!"struct {type}" place node).foldlM (fun parts (key, content) => do
    let name ← text document "field identifier" place key
    read parts name (place.inside (stepTo key)) content) start

/-- Reads a part of a record that must not have been read before. -/
def once {α : Type} (place : Place) (name : String) (before : Option α) (read : Reading α) :
    Reading (Option α) := do
  if before.isSome then refuse place (.duplicateField name)
  some <$> read

def required {α : Type} (place : Place) (name : String) : Option α → Reading α
  | some part => return part
  | none => refuse place (.missingField name)

end TypedSearch.Yaml.Reading
