import TypedSearch.Json.Decode

/-!
References to types of the API (`TypeRef`): a name, a list of a type, or a type that excludes null. A
reference is written as in a schema text, and as a value with the wrapping as its one key.
-/

namespace TypedSearch

inductive TypeRef where
  | named (name : String)
  | list (inner : TypeRef)
  /-- Another type without null. -/
  | nonNull (inner : TypeRef)
  deriving DecidableEq, Repr

namespace TypeRef

def baseName : TypeRef → String
  | named name => name
  | list inner => inner.baseName
  | nonNull inner => inner.baseName

def sdl : TypeRef → String
  | named name => name
  | list inner => "[" ++ inner.sdl ++ "]"
  | nonNull inner => inner.sdl ++ "!"

def toJson : TypeRef → Json
  | named name => .single "named" (.string name)
  | list inner => .single "list" inner.toJson
  | nonNull inner => .single "non_null" inner.toJson

def variants : List String := ["named", "list", "non_null"]

def ofJson? : Json → Json.Decoded TypeRef
  | .object [(variant, content)] =>
    if variant = "named" then named <$> content.toText
    else if variant = "list" then list <$> ofJson? content
    else if variant = "non_null" then nonNull <$> ofJson? content
    else .error (.unknownVariant variant variants)
  | .string variant =>
    if variants.contains variant then .error (.invalidType .bareVariant "newtype variant")
    else .error (.unknownVariant variant variants)
  | .object _ => .error (.invalidValue .map "map with a single key")
  | other => other.unexpected "string or map"
termination_by structural x => x

end TypeRef

end TypedSearch
