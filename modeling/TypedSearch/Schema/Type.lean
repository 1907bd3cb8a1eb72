import TypedSearch.Json.Decode

/-!
Schema types (`SchemaType`): primitives and records. A record is an ordered list of named fields, and
the order of the fields is the order of everything derived from the record.
-/

namespace TypedSearch

inductive Primitive where
  | boolean
  | int
  | float
  | string
  | bytes
  | null
  | long
  | double
  deriving DecidableEq, Repr

namespace Primitive

/-- All primitives in their listed order. -/
def all : List Primitive := [boolean, int, float, string, bytes, null, long, double]

def name : Primitive → String
  | boolean => "boolean"
  | int => "int"
  | float => "float"
  | string => "string"
  | bytes => "bytes"
  | null => "null"
  | long => "long"
  | double => "double"

def ofName? (text : String) : Option Primitive := all.find? fun primitive => primitive.name = text

end Primitive

mutual

inductive SchemaType where
  | primitive (kind : Primitive)
  | record (shape : RecordType)

structure RecordType where
  /-- The name of the record, from which type names are derived. -/
  name : String
  /-- The fields in order. -/
  fields : List SchemaField

structure SchemaField where
  name : String
  type : SchemaType

end

mutual

def SchemaType.decideEq : (left right : SchemaType) → Decidable (left = right)
  | .primitive a, .primitive b => decidable_of_iff (a = b) (by simp)
  | .record a, .record b =>
    match RecordType.decideEq a b with
    | isTrue equal => isTrue (by rw [equal])
    | isFalse differ => isFalse (by simpa using differ)
  | .primitive _, .record _ | .record _, .primitive _ => isFalse nofun
termination_by structural x => x

def RecordType.decideEq : (left right : RecordType) → Decidable (left = right)
  | ⟨a, as⟩, ⟨b, bs⟩ =>
    match decEq a b, SchemaField.decideEqList as bs with
    | isTrue name, isTrue fields => isTrue (by rw [name, fields])
    | isFalse differ, _ => isFalse fun equal => differ (RecordType.mk.inj equal).1
    | _, isFalse differ => isFalse fun equal => differ (RecordType.mk.inj equal).2
termination_by structural x => x

def SchemaField.decideEq : (left right : SchemaField) → Decidable (left = right)
  | ⟨a, s⟩, ⟨b, t⟩ =>
    match decEq a b, SchemaType.decideEq s t with
    | isTrue name, isTrue type => isTrue (by rw [name, type])
    | isFalse differ, _ => isFalse fun equal => differ (SchemaField.mk.inj equal).1
    | _, isFalse differ => isFalse fun equal => differ (SchemaField.mk.inj equal).2
termination_by structural x => x

def SchemaField.decideEqList : (left right : List SchemaField) → Decidable (left = right)
  | [], [] => isTrue rfl
  | [], _ :: _ | _ :: _, [] => isFalse nofun
  | a :: as, b :: bs =>
    match SchemaField.decideEq a b, SchemaField.decideEqList as bs with
    | isTrue head, isTrue tail => isTrue (by rw [head, tail])
    | isFalse differ, _ => isFalse fun equal => differ (List.cons.inj equal).1
    | _, isFalse differ => isFalse fun equal => differ (List.cons.inj equal).2
termination_by structural x => x

end

instance : DecidableEq SchemaType := SchemaType.decideEq

instance : DecidableEq RecordType := RecordType.decideEq

instance : DecidableEq SchemaField := SchemaField.decideEq

namespace SchemaType

def primitive? : SchemaType → Option Primitive
  | primitive kind => some kind
  | record _ => none

def record? : SchemaType → Option RecordType
  | primitive _ => none
  | record shape => some shape

def description : SchemaType → String
  | primitive kind => kind.name
  | record shape => "record " ++ shape.name

end SchemaType

namespace RecordType

/-- The first field of a name. -/
def field? (shape : RecordType) (name : String) : Option SchemaField :=
  shape.fields.find? fun field => field.name = name

/-- The place of the first field of a name. -/
def indexOf? (shape : RecordType) (name : String) : Option Nat :=
  shape.fields.findIdx? fun field => field.name = name

end RecordType

mutual

/-- A type as a value: the name of a primitive, or the record. -/
def SchemaType.toJson : SchemaType → Json
  | .primitive kind => .string kind.name
  | .record shape => shape.toJson
termination_by structural x => x

def RecordType.toJson : RecordType → Json
  | ⟨name, fields⟩ =>
    .object [("name", .string name), ("fields", .array (SchemaField.listToJson fields))]
termination_by structural x => x

def SchemaField.toJson : SchemaField → Json
  | ⟨name, type⟩ => .object [("name", .string name), ("type", type.toJson)]
termination_by structural x => x

def SchemaField.listToJson : List SchemaField → List Json
  | [] => []
  | field :: rest => field.toJson :: SchemaField.listToJson rest
termination_by structural x => x

end

end TypedSearch
