import TypedSearch.Schema.Type

/-!
Induction over schema types: a record has a property once the types of all its fields do.
-/

namespace TypedSearch.SchemaType

theorem type_induction {motive : SchemaType → Prop} (primitive : ∀ kind, motive (.primitive kind))
    (record : ∀ name fields, (∀ field ∈ fields, motive field.type) →
      motive (.record ⟨name, fields⟩)) (type : SchemaType) : motive type := by
  refine @SchemaType.rec motive (fun shape => motive (.record shape))
    (fun field => motive field.type) (fun fields => ∀ field ∈ fields, motive field.type)
    primitive ?_ ?_ ?_ ?_ ?_ type
  · intro shape holds
    exact holds
  · intro name fields each
    exact record name fields each
  · intro name type holds
    exact holds
  · simp
  · intro field rest first others
    exact List.forall_mem_cons.mpr ⟨first, others⟩

end TypedSearch.SchemaType
