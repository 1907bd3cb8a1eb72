import TypedSearch.Json.Writer
import TypedSearch.Text.Shown

/-!
Reading domain values out of JSON values (`from_value`). A decoder either answers a value or says what
it found and what it expected; entries of an object are read in the order in which they are written, so
the first faulty one is reported.

What is assumed is the order of the checks and the wording that derived readers of the JSON library
have.
-/

namespace TypedSearch

inductive Found where
  | null
  | unit
  | bool (value : Bool)
  | integer (value : Int)
  | wideInteger (value : Int)
  /-- A number that is not whole, by its spelling. -/
  | real (spelling : String)
  | string (value : String)
  | sequence
  | map
  | bareVariant
  deriving DecidableEq, Repr

def Found.description : Found → String
  | null => "null"
  | unit => "unit value"
  | bool value => s!"boolean `{value}`"
  | integer value => s!"integer `{value}`"
  | wideInteger value =>
    if value < 0 then s!"integer `{value}` as i128" else s!"integer `{value}` as u128"
  | real spelling => s!"floating point `{spelling}`"
  | string value => "string " ++ Text.shown value
  | sequence => "sequence"
  | map => "map"
  | bareVariant => "unit variant"

/-- Why a value could not be decoded. -/
inductive DecodeError where
  | invalidType (found : Found) (expected : String)
  | invalidValue (found : Found) (expected : String)
  | invalidLength (length : Nat) (expected : String)
  /-- A key that is not allowed. -/
  | unknownField (name : String) (known : List String)
  /-- A variant name that is not allowed. -/
  | unknownVariant (name : String) (known : List String)
  | missingField (name : String)
  | duplicateField (name : String)
  | noAlternative (type : String)
  | taggedAlternative
  deriving DecidableEq, Repr

/-- The allowed names, as a message lists them. -/
def DecodeError.choices : List String → String
  | [only] => s!"`{only}`"
  | [first, second] => s!"`{first}` or `{second}`"
  | names => "one of " ++ Text.joined ", " (names.map fun name => s!"`{name}`")

def DecodeError.message : DecodeError → String
  | invalidType found expected => s!"invalid type: {found.description}, expected {expected}"
  | invalidValue found expected => s!"invalid value: {found.description}, expected {expected}"
  | invalidLength length expected => s!"invalid length {length}, expected {expected}"
  | unknownField name known => s!"unknown field `{name}`, expected {choices known}"
  | unknownVariant name known => s!"unknown variant `{name}`, expected {choices known}"
  | missingField name => s!"missing field `{name}`"
  | duplicateField name => s!"duplicate field `{name}`"
  | noAlternative type => s!"data did not match any variant of untagged enum {type}"
  | taggedAlternative => "untagged and internally tagged enums do not support enum input"

namespace Json

abbrev Decoded (α : Type) := Except DecodeError α

def found : Json → Found
  | .null => .null
  | .bool value => .bool value
  | .number (.integer value) => .integer value
  | .number (.real value) => .real (realText value)
  | .string value => .string value
  | .array _ => .sequence
  | .object _ => .map

/-- A value of another type than the expected one. -/
def unexpected {α : Type} (value : Json) (expected : String) : Decoded α :=
  .error (.invalidType value.found expected)

def toBool : Json → Decoded Bool
  | .bool value => .ok value
  | other => other.unexpected "a boolean"

def toText : Json → Decoded String
  | .string value => .ok value
  | other => other.unexpected "a string"

/-- Reads a whole number between two bounds, the type being named in messages. -/
def toBounded (low high : Int) (expected : String) : Json → Decoded Int
  | .number (.integer value) =>
    if low ≤ value ∧ value ≤ high then .ok value
    else .error (.invalidValue (.integer value) expected)
  | other => other.unexpected expected

def toInt64 : Json → Decoded Int := toBounded (-powerOfTwo 63) (powerOfTwo 63 - 1) "i64"

def toByte (value : Json) : Decoded UInt8 := do
  return UInt8.ofNat (← toBounded 0 255 "u8" value).toNat

def toReal : Json → Decoded Binary64
  | .number value => .ok value.toBinary64
  | other => other.unexpected "f64"

def toList {α : Type} (item : Json → Decoded α) : Json → Decoded (List α)
  | .array items => items.mapM item
  | other => other.unexpected "a sequence"

def toEntries : Json → Decoded Entries
  | .object entries => .ok entries
  | other => other.unexpected "a map"

def toOption {α : Type} (inner : Json → Decoded α) : Json → Decoded (Option α)
  | .null => .ok none
  | other => some <$> inner other

def toUnit : Json → Decoded Unit
  | .null => .ok ()
  | other => other.unexpected "unit"

/-- The error for a list that is longer than the fields it is read into. -/
def overlong (items : List Json) : DecodeError :=
  .invalidLength items.length "fewer elements in array"

/-- The error for a list that ends before a required field of a record type. -/
def tooShort (items : List Json) (type : String) (fields : Nat) : DecodeError :=
  .invalidLength items.length s!"struct {type} with {fields} elements"

/-- The error for a buffered list that is longer than the fields it is read into. -/
def overlongBuffered (fields : Nat) (items : List Json) : DecodeError :=
  .invalidLength items.length
    (if fields = 1 then "1 element in sequence" else s!"{fields} elements in sequence")

/-- Reads one entry into the two parts of a record, passing over unknown keys. -/
def readPart {α β : Type} (firstKey secondKey : String) (first : Json → Decoded α)
    (second : Json → Decoded β) (parts : Option α × Option β) (entry : String × Json) :
    Decoded (Option α × Option β) := do
  if entry.1 = firstKey then return (some (← first entry.2), parts.2)
  else if entry.1 = secondKey then return (parts.1, some (← second entry.2))
  else return parts

/-- Reads a record of two required parts, from its entries or from a list of the parts. The error
for a list with more items is given by `tooLong`. -/
def toPair {α β : Type} (type : String) (tooLong : List Json → DecodeError)
    (firstKey secondKey : String) (first : Json → Decoded α) (second : Json → Decoded β) :
    Json → Decoded (α × β)
  | .object entries => do
    match ← entries.foldlM (readPart firstKey secondKey first second) (none, none) with
    | (none, _) => throw (.missingField firstKey)
    | (some _, none) => throw (.missingField secondKey)
    | (some left, some right) => return (left, right)
  | .array [] => .error (tooShort [] type 2)
  | .array [item] => do
    let _ ← first item
    throw (tooShort [item] type 2)
  | .array (item :: next :: rest) => do
    let left ← first item
    let right ← second next
    if rest.isEmpty then return (left, right) else throw (tooLong (item :: next :: rest))
  | other => other.unexpected s!"struct {type}"

/-- The variant that a value names, with the value beside the name. A bare string names a variant
without a value. -/
def toVariant (known : List String) : Json → Decoded (String × Option Json)
  | .string name => if known.contains name then .ok (name, none) else .error (.unknownVariant name known)
  | .object [(name, value)] =>
    if known.contains name then .ok (name, some value) else .error (.unknownVariant name known)
  | .object _ => .error (.invalidValue .map "map with a single key")
  | other => other.unexpected "string or map"

/-- The variant that a value names, none of the known ones having a value. -/
def toBareVariant (known : List String) (value : Json) : Decoded String := do
  match ← toVariant known value with
  | (name, none) => return name
  | (name, some content) =>
    toUnit content
    return name

end Json

end TypedSearch
