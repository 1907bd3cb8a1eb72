import TypedSearch.Catalog.Surface

/-!
The API of a catalog (`generate_api_schema`). A dataset gets an object type, a filter type with its
combinations, an order type and one field of the query type (`dataset_root_field`); filters and orders
appear only if some member has an entry. All types are joined in one table, in which no name may have
two shapes.
-/

namespace TypedSearch

/-- The type names that no dataset may take. -/
def reservedNames : List String :=
  [Scalar.int, Scalar.float, Scalar.string, Scalar.boolean, queryTypeName, Direction.typeName]

namespace Dataset

/-- The filter argument of a dataset, if some member can be filtered, with its types added to a
table: the filters on single fields, and the combinations, which refer to themselves. -/
def filterArgument (dataset : Dataset) (registry : Registry) (names : DatasetNames)
    (table : Definitions) : Except Problem (List InputValue × Definitions) := do
  let (entries, joined) ← Member.entries .filter registry names dataset.members table
  if entries.isEmpty then return ([], joined)
  else
    let single : NamedType := ⟨names.filter, .inputObject (entries.map SurfaceEntry.toInput)⟩
    let (declared, pending) ← joined.declare names.combinations
    let list : TypeRef := .list (.nonNull pending.reference)
    let body : TypeBody :=
      .inputObject [⟨"cond", single.reference⟩, ⟨"and", list⟩, ⟨"or", list⟩]
    let all ← (pending.populate body declared).mergeChecked (.of single)
    return ([⟨"filter", pending.reference⟩], all)

/-- The order argument of a dataset, if some member can be sorted by, with its type added to a
table. -/
def orderArgument (dataset : Dataset) (registry : Registry) (names : DatasetNames)
    (table : Definitions) : Except Problem (List InputValue × Definitions) := do
  let (entries, joined) ← Member.entries .order registry names dataset.members table
  if entries.isEmpty then return ([], joined)
  else
    let order : NamedType := ⟨names.order, .inputObject (entries.map SurfaceEntry.toInput)⟩
    return ([⟨"order", .list (.nonNull order.reference)⟩], ← joined.mergeChecked (.of order))

/-- The field of the query type for a dataset, with every type that it needs. -/
def rootField (dataset : Dataset) (registry : Registry) (name : String) :
    Except Problem (Emitted ObjectField) := do
  let names := DatasetNames.of name
  if reservedNames.contains names.object then throw (.collision (.type names.object))
  let (fields, table) ← Member.entries .field registry names dataset.members .empty
  let object : NamedType := ⟨names.object, .object (fields.map SurfaceEntry.toObjectField)⟩
  let (filter, table) ← dataset.filterArgument registry names table
  let (order, table) ← dataset.orderArgument registry names table
  let type : TypeRef := .nonNull (.list (.nonNull object.reference))
  return ⟨⟨name, type, filter ++ order⟩, ← table.mergeChecked (.of object)⟩

end Dataset

namespace Catalog

/-- The query fields of datasets in order, with their types joined to a table. -/
def rootFields (registry : Registry) : List (String × Dataset) → Definitions →
    Except Problem (List ObjectField × Definitions)
  | [], table => .ok ([], table)
  | (name, dataset) :: rest, table => do
    let emitted ← dataset.rootField registry name
    let joined ← table.mergeChecked emitted.definitions
    let (fields, all) ← rootFields registry rest joined
    return (emitted.value :: fields, all)

/-- The API of a valid catalog, its types in the order of their names. -/
def apiSchema (catalog : Catalog) (registry : Registry) : Except Problem ApiSchema := do
  catalog.validate
  let (fields, table) ← rootFields registry catalog.datasets.entries .empty
  let all ← table.mergeChecked (.of ⟨queryTypeName, .object fields⟩)
  return ⟨queryTypeName, ← all.finish⟩

end Catalog

end TypedSearch
