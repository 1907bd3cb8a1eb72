import TypedSearch.Api.Codec
import TypedSearch.Catalog.Api
import TypedSearch.Catalog.Mapping
import TypedSearch.Compile.Search
import TypedSearch.Search.Backend

/-!
Engines (`Engine::with_registry`): a catalog with its configuration and its registry, checked once. The
API and its fingerprint are made when the engine is built, and so are the mappings, so that later
requests can only fail by what they ask for. The calls of an engine are programs over a backend. What
they record of themselves is left out.
-/

namespace TypedSearch

structure Engine where
  config : EngineConfig
  catalog : Catalog
  registry : Registry
  api : ApiSchema
  fingerprint : Fingerprint

namespace Engine

/-- An answer whose problems are those of the catalog. -/
def ofCatalog {α : Type} : Except Problem α → Except SearchError α
  | .ok answer => .ok answer
  | .error problem => .error (.schema problem)

def ofRequest {α : Type} : Except Problem α → Except SearchError α
  | .ok answer => .ok answer
  | .error problem => .error (.query problem)

/-- Builds an engine from a catalog that has an API and whose datasets agree on the mappings of the
indices they share. -/
def build (config : EngineConfig) (catalog : Catalog) (registry : Registry) :
    Except SearchError Engine := do
  let api ← ofCatalog (catalog.apiSchema registry)
  let _ ← ofCatalog (catalog.mappings registry config)
  return ⟨config, catalog, registry, api, api.fingerprint⟩

def dataset (engine : Engine) (name : String) : Except SearchError Dataset :=
  match engine.catalog.get? name with
  | some dataset => .ok dataset
  | none => .error (.unknownDataset name)

/-- Compiles the arguments that a client gives for a dataset. -/
def compile (engine : Engine) (name : String) (arguments : Json) :
    Except SearchError SearchRequest := do
  let dataset ← engine.dataset name
  let parsed ← ofRequest (DatasetArguments.ofClient arguments)
  ofRequest (dataset.compileSearch engine.registry parsed)

def indexName (engine : Engine) (name : String) : Except SearchError String := do
  let dataset ← engine.dataset name
  return engine.config.indexName dataset.index

def mappings (engine : Engine) : Except SearchError (Table Json) :=
  ofCatalog (engine.catalog.mappings engine.registry engine.config)

/-- Compiles the arguments for a dataset and searches its index. -/
def search (engine : Engine) (sorter : Sorter) (name : String) (arguments : Json) :
    Backend.Call (List Json) := do
  let request ← (engine.compile name arguments).mapError SearchFailure.refused
  let index ← (engine.indexName name).mapError SearchFailure.refused
  Backend.search sorter index request

/-- Gives every index of the catalog its mapping and answers their names. -/
def createIndices (engine : Engine) : Backend.Call (List String) := do
  let mappings ← engine.mappings.mapError SearchFailure.refused
  mappings.entries.mapM fun entry => do
    Backend.createIndex entry.1 (indexBody entry.2)
    return entry.1

end Engine

end TypedSearch
