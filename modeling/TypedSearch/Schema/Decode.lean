import TypedSearch.Schema.Type

/-!
Reading schema types out of JSON values (`SchemaType`, `RecordType`, `Field`). A record or a field is
an object with its parts as entries, in which unknown entries are passed over, or a list of its parts
in order. A type is the name of a primitive or else a record, and what fits neither is refused as a
whole.
-/

namespace TypedSearch

/-- Reads the primitive that a value names, alone or as the one key of an object with a null. -/
def Primitive.ofJson? : Json → Option Primitive
  | .string name => ofName? name
  | .object [(name, .null)] => ofName? name
  | _ => none

/-- The record whose parts were found among the entries of an object. -/
def RecordType.ofParts : Option String → Option (List SchemaField) → Json.Decoded RecordType
  | none, _ => .error (.missingField "name")
  | some _, none => .error (.missingField "fields")
  | some name, some fields => .ok ⟨name, fields⟩

/-- The field whose parts were found among the entries of an object. -/
def SchemaField.ofParts : Option String → Option SchemaType → Json.Decoded SchemaField
  | none, _ => .error (.missingField "name")
  | some _, none => .error (.missingField "type")
  | some name, some type => .ok ⟨name, type⟩

mutual

def SchemaType.ofJson? : Json → Json.Decoded SchemaType
  | .object entries =>
    match Primitive.ofJson? (.object entries) with
    | some kind => .ok (.primitive kind)
    | none =>
      match RecordType.ofEntries none none entries with
      | .ok shape => .ok (.record shape)
      | .error _ => .error (.noAlternative "SchemaType")
  | .array items =>
    match RecordType.ofItems items with
    | .ok shape => .ok (.record shape)
    | .error _ => .error (.noAlternative "SchemaType")
  | other =>
    match Primitive.ofJson? other with
    | some kind => .ok (.primitive kind)
    | none => .error (.noAlternative "SchemaType")
termination_by structural x => x

/-- Reads a record from entries, after the parts found before them. -/
def RecordType.ofEntries (name? : Option String) (fields? : Option (List SchemaField)) :
    List (String × Json) → Json.Decoded RecordType
  | [] => RecordType.ofParts name? fields?
  | (key, value) :: rest =>
    if key = "name" then do RecordType.ofEntries (some (← value.toText)) fields? rest
    else if key = "fields" then do
      RecordType.ofEntries name? (some (← SchemaField.listOfJson? value)) rest
    else RecordType.ofEntries name? fields? rest
termination_by structural x => x

/-- Reads a record from its parts in order. -/
def RecordType.ofItems : List Json → Json.Decoded RecordType
  | [] => .error (Json.tooShort [] "RecordType" 2)
  | [name] => do
    let _ ← name.toText
    throw (Json.tooShort [name] "RecordType" 2)
  | name :: fields :: rest => do
    let name' ← name.toText
    let fields' ← SchemaField.listOfJson? fields
    if rest.isEmpty then return ⟨name', fields'⟩
    else throw (Json.overlong (name :: fields :: rest))
termination_by structural x => x

def SchemaField.listOfJson? : Json → Json.Decoded (List SchemaField)
  | .array items => SchemaField.listOfItems items
  | other => other.unexpected "a sequence"
termination_by structural x => x

def SchemaField.listOfItems : List Json → Json.Decoded (List SchemaField)
  | [] => .ok []
  | item :: rest => do
    let field ← SchemaField.ofJson? item
    return field :: (← SchemaField.listOfItems rest)
termination_by structural x => x

def SchemaField.ofJson? : Json → Json.Decoded SchemaField
  | .object entries => SchemaField.ofEntries none none entries
  | .array items => SchemaField.ofItems items
  | other => other.unexpected "struct Field"
termination_by structural x => x

/-- Reads a field from entries, after the parts found before them. -/
def SchemaField.ofEntries (name? : Option String) (type? : Option SchemaType) :
    List (String × Json) → Json.Decoded SchemaField
  | [] => SchemaField.ofParts name? type?
  | (key, value) :: rest =>
    if key = "name" then do SchemaField.ofEntries (some (← value.toText)) type? rest
    else if key = "type" then do
      SchemaField.ofEntries name? (some (← SchemaType.ofJson? value)) rest
    else SchemaField.ofEntries name? type? rest
termination_by structural x => x

/-- Reads a field from its parts in order. -/
def SchemaField.ofItems : List Json → Json.Decoded SchemaField
  | [] => .error (Json.tooShort [] "Field" 2)
  | [name] => do
    let _ ← name.toText
    throw (Json.tooShort [name] "Field" 2)
  | name :: type :: rest => do
    let name' ← name.toText
    let type' ← SchemaType.ofJson? type
    if rest.isEmpty then return ⟨name', type'⟩
    else throw (Json.overlong (name :: type :: rest))
termination_by structural x => x

end

def RecordType.ofJson? : Json → Json.Decoded RecordType
  | .object entries => RecordType.ofEntries none none entries
  | .array items => RecordType.ofItems items
  | other => other.unexpected "struct RecordType"

end TypedSearch
