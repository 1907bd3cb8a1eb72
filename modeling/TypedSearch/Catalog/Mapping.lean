import TypedSearch.Catalog.Dataset
import TypedSearch.Config

/-!
Index mappings: for every index, the properties of the stored fields of its datasets
(`dataset_mapping`). Datasets may share an index only if they map it alike (`catalog_mappings`).
-/

namespace TypedSearch

namespace Dataset

/-- The mapping properties of fields, added to those of the fields before. -/
def fieldProperties (registry : Registry) :
    List SchemaField → Json.Entries → Except Problem Json.Entries
  | [], properties => .ok properties
  | field :: rest, properties => do
    match ← registry.mapping field.type (.ofName field.name) with
    | none => fieldProperties registry rest properties
    | some property => fieldProperties registry rest (properties.insert field.name property)

/-- The mapping of a dataset: the properties of its stored fields in schema order. -/
def mapping (dataset : Dataset) (registry : Registry) : Except Problem Json := do
  return .single "properties" (.object (← fieldProperties registry dataset.schema.fields []))

end Dataset

/-- The body of a request that creates an index with a mapping. -/
def indexBody (mapping : Json) : Json := .single "mappings" mapping

namespace Catalog

/-- Adds the mapping of a dataset to those of the datasets before. -/
def addMapping (registry : Registry) (config : EngineConfig) (mappings : Table Json)
    (entry : String × Dataset) : Except Problem (Table Json) := do
  let index := config.indexName entry.2.index
  let mapping ← entry.2.mapping registry
  match mappings.get? index with
  | none => return mappings.insert index mapping
  | some other =>
    if other.agrees mapping then return mappings
    else throw (.collision (.index index entry.1))

def mappings (catalog : Catalog) (registry : Registry) (config : EngineConfig) :
    Except Problem (Table Json) :=
  catalog.datasets.entries.foldlM (addMapping registry config) .empty

end Catalog

end TypedSearch
