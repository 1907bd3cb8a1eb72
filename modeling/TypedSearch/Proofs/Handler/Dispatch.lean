import TypedSearch.Handler.Standard
import TypedSearch.Proofs.Outcome

/-!
Dispatch in the standard registry: which handler governs a type, and what a surface answers for
primitives and for records in terms of the capability of that handler.
-/

namespace TypedSearch.Registry

variable {π α : Type} {pick : Handler → HandlerCapability π α}

/-- The standard handler of a primitive type; three of them have none. -/
def leafHandler? : Primitive → Option Handler
  | .boolean => some .boolean
  | .int => some .int
  | .float => some .float
  | .string => some .string
  | .bytes => some .bytes
  | .null | .long | .double => none

theorem standard_select_record (shape : RecordType) (path : FieldPath) :
    standard.select? (.record shape) path = some .record := rfl

/-- A primitive is answered by its handler alone. -/
theorem standard_resolve_primitive (kind : Primitive) (path : FieldPath) (params : π) :
    standard.resolve pick (.primitive kind) path params =
      match leafHandler? kind with
      | none => .ok none
      | some handler => (pick handler).resolve ⟨.primitive kind, path, []⟩ params := by
  cases kind <;> rfl

theorem parts_eq_map (registry : Registry) (pick : Handler → HandlerCapability π α)
    (fields : List SchemaField) (path : FieldPath) :
    registry.parts pick fields path = fields.map fun field =>
      ⟨field, registry.resolve pick field.type (path.child field.name)⟩ := by
  induction fields with
  | nil => rfl
  | cons field rest ih =>
    obtain ⟨name, type⟩ := field
    rw [parts, ih, List.map_cons]

/-- A record is answered from what the same registry answers for its fields. -/
theorem standard_resolve_record (name : String) (fields : List SchemaField) (path : FieldPath)
    (params : π) :
    standard.resolve pick (.record ⟨name, fields⟩) path params =
      (pick .record).resolve ⟨.record ⟨name, fields⟩, path, fields.map fun field =>
        ⟨field, standard.resolve pick field.type (path.child field.name)⟩⟩ params := by
  rw [resolve, answerAt, standard_select_record, parts_eq_map]

end TypedSearch.Registry
