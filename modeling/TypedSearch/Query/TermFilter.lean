import TypedSearch.Query.Clause

/-!
Term filters: what a client may ask of one field (`BooleanFilter`, `IntFilter`, `FloatFilter`,
`StringFilter`). Every key is optional and an absent or null key adds no constraint. Each key that is
present becomes one clause (`fragments`), in the order of the filter type's entries whatever order the
client used.
-/

namespace TypedSearch

structure BooleanFilter where
  equals : Option Bool := none
  deriving DecidableEq, Repr

structure RangeFilter (α : Type) where
  equals : Option α := none
  greaterThan : Option α := none
  greaterEqualTo : Option α := none
  lessThan : Option α := none
  lessEqualTo : Option α := none
  deriving DecidableEq, Repr

abbrev IntFilter := RangeFilter Int

abbrev FloatFilter := RangeFilter Binary64

structure StringFilter where
  order : RangeFilter String := {}
  /-- Words, one of which must occur. -/
  contains : Option String := none
  startsWith : Option String := none
  endsWith : Option String := none
  deriving DecidableEq, Repr

namespace TermFilter

def equalsKey : String := "equals"

/-- The keys of the bounds, beside their spelling in range clauses. -/
def bounds : List (String × String) :=
  [("greaterThan", "gt"), ("greaterEqualTo", "gte"), ("lessThan", "lt"), ("lessEqualTo", "lte")]

def rangeKeys : List String := equalsKey :: bounds.map (·.1)

def stringKeys : List String := rangeKeys ++ ["contains", "startsWith", "endsWith"]

/-- The filter type of a name whose keys all have one scalar. -/
def namedType (name scalar : String) (keys : List String) : NamedType :=
  ⟨name, .inputObject (keys.map fun key => ⟨key, .named scalar⟩)⟩

/-- The filter that a client gives for the field at a path: null is the empty filter, an object is
read entry by entry, and anything else is refused. -/
def parse {φ : Type} (empty : φ) (readPart : φ → String × Json → Json.Decoded φ)
    (path : FieldPath) (params : Json) : Except Problem φ :=
  match params with
  | .null => .ok empty
  | .object entries =>
    match entries.foldlM readPart empty with
    | .ok filter => .ok filter
    | .error cause => .error (.argument path.dotted (.undecodable cause))
  | other => .error (.argument path.dotted (.notFilter other))

end TermFilter

namespace BooleanFilter

def typeName : String := "BooleanFilter"

def namedType : NamedType := TermFilter.namedType typeName Scalar.boolean [TermFilter.equalsKey]

def readPart (filter : BooleanFilter) (entry : String × Json) : Json.Decoded BooleanFilter := do
  if entry.1 = TermFilter.equalsKey then
    return { filter with equals := ← entry.2.toOption Json.toBool }
  else throw (.unknownField entry.1 [TermFilter.equalsKey])

/-- The filter that a client gives for the field at a path. -/
def ofParams (path : FieldPath) (params : Json) : Except Problem BooleanFilter :=
  TermFilter.parse {} readPart path params

/-- A filter as a value, with every key. -/
def toJson (filter : BooleanFilter) : Json :=
  .object [(TermFilter.equalsKey, .ofOption .bool filter.equals)]

def clauses (filter : BooleanFilter) (path : FieldPath) : List Json :=
  (filter.equals.map fun value => Clause.term path.dotted (.bool value)).toList

end BooleanFilter

namespace RangeFilter

variable {α : Type}

/-- Reads one entry into a filter; `known` lists the keys that messages name. -/
def readPart (value : Json → Json.Decoded α) (known : List String) (filter : RangeFilter α)
    (entry : String × Json) : Json.Decoded (RangeFilter α) := do
  match entry.1 with
  | "equals" => return { filter with equals := ← entry.2.toOption value }
  | "greaterThan" => return { filter with greaterThan := ← entry.2.toOption value }
  | "greaterEqualTo" => return { filter with greaterEqualTo := ← entry.2.toOption value }
  | "lessThan" => return { filter with lessThan := ← entry.2.toOption value }
  | "lessEqualTo" => return { filter with lessEqualTo := ← entry.2.toOption value }
  | other => throw (.unknownField other known)

/-- The bounds in the order of their keys. -/
def limits (filter : RangeFilter α) : List (Option α) :=
  [filter.greaterThan, filter.greaterEqualTo, filter.lessThan, filter.lessEqualTo]

/-- The entries of a filter, with every key. -/
def entries (write : α → Json) (filter : RangeFilter α) : Json.Entries :=
  TermFilter.rangeKeys.zip ((filter.equals :: filter.limits).map (Json.ofOption write))

/-- The clauses of a filter: equality on the field `exact`, bounds on the field `ordered`. -/
def clauses (write : α → Json) (exact ordered : String) (filter : RangeFilter α) : List Json :=
  (filter.equals.map fun value => Clause.term exact (write value)).toList ++
    (TermFilter.bounds.zip filter.limits).filterMap fun (bound, limit) =>
      limit.map fun value => Clause.range ordered bound.2 (write value)

end RangeFilter

namespace IntFilter

def typeName : String := "IntFilter"

def namedType : NamedType := TermFilter.namedType typeName Scalar.int TermFilter.rangeKeys

/-- The filter that a client gives for the field at a path. -/
def ofParams (path : FieldPath) (params : Json) : Except Problem IntFilter :=
  TermFilter.parse {} (RangeFilter.readPart Json.toInt64 TermFilter.rangeKeys) path params

/-- A filter as a value, with every key. -/
def toJson (filter : IntFilter) : Json := .object (filter.entries .ofInt)

/-- The clauses of a filter on the field at a path: equality is asked of the exact value. -/
def clauses (filter : IntFilter) (path : FieldPath) : List Json :=
  RangeFilter.clauses .ofInt path.keyword path.dotted filter

end IntFilter

namespace FloatFilter

def typeName : String := "FloatFilter"

def namedType : NamedType := TermFilter.namedType typeName Scalar.float TermFilter.rangeKeys

def write (value : Binary64) : Json := .number (.real value)

/-- The filter that a client gives for the field at a path. -/
def ofParams (path : FieldPath) (params : Json) : Except Problem FloatFilter :=
  TermFilter.parse {} (RangeFilter.readPart Json.toReal TermFilter.rangeKeys) path params

/-- A filter as a value, with every key. -/
def toJson (filter : FloatFilter) : Json := .object (filter.entries write)

def clauses (filter : FloatFilter) (path : FieldPath) : List Json :=
  RangeFilter.clauses write path.dotted path.dotted filter

end FloatFilter

namespace StringFilter

def typeName : String := "StringFilter"

def namedType : NamedType := TermFilter.namedType typeName Scalar.string TermFilter.stringKeys

def readPart (filter : StringFilter) (entry : String × Json) : Json.Decoded StringFilter := do
  match entry.1 with
  | "contains" => return { filter with contains := ← entry.2.toOption Json.toText }
  | "startsWith" => return { filter with startsWith := ← entry.2.toOption Json.toText }
  | "endsWith" => return { filter with endsWith := ← entry.2.toOption Json.toText }
  | _ =>
    let order ← filter.order.readPart Json.toText TermFilter.stringKeys entry
    return { filter with order := order }

/-- The filter that a client gives for the field at a path. -/
def ofParams (path : FieldPath) (params : Json) : Except Problem StringFilter :=
  TermFilter.parse {} readPart path params

/-- A filter as a value, with every key. -/
def toJson (filter : StringFilter) : Json :=
  .object
    (filter.order.entries .string ++
      [("contains", .ofOptionString filter.contains),
        ("startsWith", .ofOptionString filter.startsWith),
        ("endsWith", .ofOptionString filter.endsWith)])

/-- The clauses of a filter on the field at a path: equality and bounds are asked of the exact
value, words and patterns of the text. -/
def clauses (filter : StringFilter) (path : FieldPath) : List Json :=
  filter.order.clauses .string path.keyword path.keyword ++
    (filter.contains.map fun query => Clause.matchText path.dotted query).toList ++
    (filter.startsWith.map fun start => Clause.wildcard path.dotted (start ++ "*")).toList ++
    (filter.endsWith.map fun finish => Clause.wildcard path.dotted ("*" ++ finish)).toList

end StringFilter

end TypedSearch
