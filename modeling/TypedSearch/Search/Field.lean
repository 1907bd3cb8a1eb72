import TypedSearch.Json.Writer
import TypedSearch.Schema.Path
import TypedSearch.Text.Alphanumeric
import TypedSearch.Text.Lowercase
import TypedSearch.Text.Space

/-!
How the field names of queries address documents (`MappingView`, `Target`). A mapping says which fields
are analysed text and which have an exact-value form; a document's value is found along the dotted path
(`lookup`). Two values compare by number, by text or by truth value (`compare`), and in exact-value
form always as texts (`compare_as`).
-/

namespace TypedSearch

/-- The names on a dotted path, empty ones included. -/
def pathNames (path : String) : List String :=
  (Text.pieces '.' path.toList).map String.ofList

/-- The properties of an index mapping, if it has any. -/
structure MappingView where
  properties : Option Json.Entries
  deriving DecidableEq

namespace MappingView

def ofMapping (mapping : Json) : MappingView :=
  ⟨(mapping.get? "properties").bind Json.entries?⟩

def propertyAlong (properties : Json.Entries) : List String → Option Json
  | [] => none
  | [name] => properties.lookup name
  | name :: next :: rest =>
    match ((properties.lookup name).bind (Json.get? "properties")).bind Json.entries? with
    | some inner => propertyAlong inner (next :: rest)
    | none => none

def property? (view : MappingView) (path : String) : Option Json :=
  view.properties.bind fun properties => propertyAlong properties (pathNames path)

/-- Whether the field at a path has an exact-value form. -/
def hasKeyword (view : MappingView) (path : String) : Bool :=
  (((view.property? path).bind (Json.get? "fields")).bind
    (Json.get? FieldPath.keywordName)).isSome

def isText (view : MappingView) (path : String) : Bool :=
  ((view.property? path).bind (Json.get? "type")).bind Json.text? == some "text"

end MappingView

/-- What a field name of a query addresses, with the path of the value in a document. -/
inductive Target where
  | keyword (path : String)
  | text (path : String)
  | plain (path : String)
  deriving DecidableEq, Repr

namespace Target

/-- The ending of names that address an exact-value form. -/
def keywordEnding : String := "." ++ FieldPath.keywordName

/-- The path before the ending, if a name has it. -/
def keywordBase? (field : String) : Option String :=
  let path := field.toList
  let ending := keywordEnding.toList
  if ending.isSuffixOf path then some (String.ofList (path.take (path.length - ending.length)))
  else none

/-- The target of a name that does not address an exact-value form. -/
def ofValueName (view : MappingView) (field : String) : Target :=
  if view.isText field then text field else plain field

def ofField (view : MappingView) (field : String) : Target :=
  match keywordBase? field with
  | some base => if view.hasKeyword base then keyword base else ofValueName view field
  | none => ofValueName view field

def path : Target → String
  | keyword path | text path | plain path => path

end Target

namespace Json

def along (value : Json) : List String → Option Json
  | [] => some value
  | name :: rest =>
    match value.get? name with
    | some inner => along inner rest
    | none => none

/-- The value of a document at a dotted path; a null counts as missing. -/
def atPath? (document : Json) (path : String) : Option Json :=
  (document.along (pathNames path)).filter fun value => !value.isNull

/-- The exact-value form of a value; lists, objects and null have none. -/
def keywordForm? : Json → Option String
  | .string text => some text
  | .number value => some value.text
  | .bool true => some "true"
  | .bool false => some "false"
  | _ => none

/-- The order of two values of one kind. -/
def order? : Json → Json → Option Ordering
  | .number left, .number right => some (left.toBinary64.order right.toBinary64)
  | .string left, .string right => some (compare left right)
  | .bool left, .bool right => some (compare left right)
  | _, _ => none

end Json

namespace Target

/-- The order of a document's value and another one, as the target is indexed. -/
def order? (target : Target) (value other : Json) : Option Ordering :=
  match target with
  | keyword _ =>
    match value.keywordForm?, other.keywordForm? with
    | some left, some right => some (compare left right)
    | _, _ => none
  | text _ | plain _ => value.order? other

end Target

/-- The tokens that a text is analysed into: its words in lower case. -/
def tokens (text : String) : List (List Char) := (Text.words text.toList).map Text.lowercase

end TypedSearch
