import TypedSearch.Json.Decode

/-!
Paths (`FieldPath`): the field names that lead from the root of a dataset to a value, and the dotted
form under which a search backend knows the value.
-/

namespace TypedSearch

/-- A sequence of field names from the root of a dataset. -/
structure FieldPath where
  /-- The names, the outermost first. -/
  segments : List String
  deriving DecidableEq, Repr

namespace FieldPath

def root : FieldPath := ⟨[]⟩

def child (path : FieldPath) (name : String) : FieldPath := ⟨path.segments ++ [name]⟩

def ofName (name : String) : FieldPath := root.child name

def last? (path : FieldPath) : Option String := path.segments.getLast?

def isRoot (path : FieldPath) : Bool := path.segments.isEmpty

def dotted (path : FieldPath) : String := Text.joined "." path.segments

/-- The name of the sub-field that holds exact values. -/
def keywordName : String := "keyword"

def keyword (path : FieldPath) : String := path.dotted ++ "." ++ keywordName

def toJson (path : FieldPath) : Json := .ofStrings path.segments

def ofJson? (value : Json) : Json.Decoded FieldPath := do
  return ⟨← value.toList Json.toText⟩

end FieldPath

end TypedSearch
