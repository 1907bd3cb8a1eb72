import TypedSearch.Handler.Capability

/-!
Registries (`HandlerRegistry`): ordered lists of handlers. The first handler that selects a type at a
path governs it (`select`), and a type that none selects is left out of every surface. The fields of a
record are asked of the same registry (`resolve`), so a record's handler only has to put their answers
together.
-/

namespace TypedSearch

structure Registry where
  /-- The handlers; earlier ones take precedence. -/
  handlers : List Handler

namespace Registry

variable {π α : Type}

def select? (registry : Registry) (type : SchemaType) (path : FieldPath) : Option Handler :=
  registry.handlers.find? fun handler => handler.selects type path

/-- The answer of the governing handler on the surface that `pick` names. -/
def answerAt (registry : Registry) (pick : Handler → HandlerCapability π α) (site : Site π α)
    (params : π) : Except Problem (Option α) :=
  match registry.select? site.type site.path with
  | none => .ok none
  | some handler => (pick handler).resolve site params

mutual

/-- The answer for a type at a path on the surface that `pick` names. -/
def resolve (registry : Registry) (pick : Handler → HandlerCapability π α) :
    SchemaType → FieldPath → π → Except Problem (Option α)
  | .primitive kind, path, params => registry.answerAt pick ⟨.primitive kind, path, []⟩ params
  | .record ⟨name, fields⟩, path, params =>
    registry.answerAt pick ⟨.record ⟨name, fields⟩, path, parts registry pick fields path⟩ params
termination_by structural type => type

/-- The fields of a record at a path with their answers. -/
def parts (registry : Registry) (pick : Handler → HandlerCapability π α) :
    List SchemaField → FieldPath → List (Part π α)
  | [], _ => []
  | ⟨name, type⟩ :: rest, path =>
    ⟨⟨name, type⟩, resolve registry pick type (path.child name)⟩ :: parts registry pick rest path
termination_by structural fields => fields

end

def fieldType (registry : Registry) (type : SchemaType) (path : FieldPath) :
    Except Problem (Option (Emitted TypeRef)) :=
  registry.resolve Handler.field type path ()

def filterArg (registry : Registry) (type : SchemaType) (path : FieldPath) :
    Except Problem (Option (Emitted TypeRef)) :=
  registry.resolve Handler.filterArg type path ()

def orderArg (registry : Registry) (type : SchemaType) (path : FieldPath) :
    Except Problem (Option (Emitted TypeRef)) :=
  registry.resolve Handler.orderArg type path ()

def mapping (registry : Registry) (type : SchemaType) (path : FieldPath) :
    Except Problem (Option Json) :=
  registry.resolve Handler.mapping type path ()

def filter (registry : Registry) (type : SchemaType) (path : FieldPath) (params : Json) :
    Except Problem (Option (List Json)) :=
  registry.resolve Handler.filter type path params

def sort (registry : Registry) (type : SchemaType) (path : FieldPath) (params : Json) :
    Except Problem (Option (List Json)) :=
  registry.resolve Handler.sort type path params

end Registry

end TypedSearch
