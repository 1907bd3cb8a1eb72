import TypedSearch.Json.Decode
import TypedSearch.Text.Space

/-!
The configuration of an engine (`EngineConfig`): its defaults, the variables of the environment that
change them (`from_lookup`), and the overrides that a catalog carries (`CatalogConfig`).
-/

namespace TypedSearch

structure EngineConfig where
  backendUrl : String := "http://localhost:9200"
  /-- What stands before every index name. -/
  indexPrefix : Option String := none
  logQueries : Bool := false
  deriving DecidableEq, Repr

/-- Overrides of a configuration; a part that is absent changes nothing. -/
structure ConfigOverride where
  backendUrl : Option String := none
  /-- What stands before every index name. -/
  indexPrefix : Option String := none
  logQueries : Option Bool := none
  deriving DecidableEq, Repr

/-- An address without slashes at its end. -/
def withoutSlashes (url : String) : String := Text.trimEnd '/' url

/-- A text unless it is empty. -/
def nonEmpty? (text : String) : Option String := if text.isEmpty then none else some text

def parseFlag? (text : String) : Option Bool :=
  let word := String.ofList ((Text.trim text.toList).map Char.toLower)
  if ["1", "true", "yes", "on"].contains word then some true
  else if ["0", "false", "no", "off"].contains word then some false
  else none

namespace EngineConfig

/-- The variable that sets the address of the backend. -/
def urlVariable : String := "QUARRY_BACKEND_URL"

/-- The variable that sets what stands before index names. -/
def indexVariable : String := "QUARRY_INDEX_PREFIX"

/-- The variable that sets whether queries are traced. -/
def logVariable : String := "QUARRY_LOG_QUERIES"

def ofVariables (lookup : String → Option String) : EngineConfig :=
  let standard : EngineConfig := {}
  { backendUrl := ((lookup urlVariable).map withoutSlashes).getD standard.backendUrl
    indexPrefix := (lookup indexVariable).bind nonEmpty?
    logQueries := ((lookup logVariable).bind parseFlag?).getD standard.logQueries }

def indexName (config : EngineConfig) (index : String) : String :=
  match config.indexPrefix with
  | some lead => lead ++ index
  | none => index

def toJson (config : EngineConfig) : Json :=
  .object
    [("backend_url", .string config.backendUrl), ("index_prefix", .ofOptionString config.indexPrefix),
      ("log_queries", .bool config.logQueries)]

/-- Reads one entry into a configuration, passing over unknown keys. -/
def readPart (config : EngineConfig) (entry : String × Json) : Json.Decoded EngineConfig := do
  if entry.1 = "backend_url" then return { config with backendUrl := ← entry.2.toText }
  else if entry.1 = "index_prefix" then
    return { config with indexPrefix := ← entry.2.toOption Json.toText }
  else if entry.1 = "log_queries" then return { config with logQueries := ← entry.2.toBool }
  else return config

/-- The keys of a configuration in order. -/
def keys : List String := ["backend_url", "index_prefix", "log_queries"]

/-- Reads a configuration; what is absent keeps its default. -/
def ofJson? : Json → Json.Decoded EngineConfig
  | .object entries => entries.foldlM readPart {}
  | .array items => do
    let config ← (keys.zip items).foldlM readPart {}
    if items.length ≤ keys.length then return config else throw (Json.overlong items)
  | other => other.unexpected "struct EngineConfig"

end EngineConfig

namespace ConfigOverride

def apply (override : ConfigOverride) (config : EngineConfig) : EngineConfig :=
  { backendUrl := (override.backendUrl.map withoutSlashes).getD config.backendUrl
    indexPrefix :=
      match override.indexPrefix with
      | some lead => nonEmpty? lead
      | none => config.indexPrefix
    logQueries := override.logQueries.getD config.logQueries }

def toJson (override : ConfigOverride) : Json :=
  .object
    [("backend_url", .ofOptionString override.backendUrl),
      ("index_prefix", .ofOptionString override.indexPrefix),
      ("log_queries", .ofOption .bool override.logQueries)]

/-- Reads one entry into overrides; unknown keys are refused. -/
def readPart (override : ConfigOverride) (entry : String × Json) : Json.Decoded ConfigOverride := do
  if entry.1 = "backend_url" then
    return { override with backendUrl := ← entry.2.toOption Json.toText }
  else if entry.1 = "index_prefix" then
    return { override with indexPrefix := ← entry.2.toOption Json.toText }
  else if entry.1 = "log_queries" then
    return { override with logQueries := ← entry.2.toOption Json.toBool }
  else throw (.unknownField entry.1 EngineConfig.keys)

def ofJson? : Json → Json.Decoded ConfigOverride
  | .object entries => entries.foldlM readPart {}
  | .array items => do
    let override ← (EngineConfig.keys.zip items).foldlM readPart {}
    if items.length ≤ EngineConfig.keys.length then return override
    else throw (Json.overlong items)
  | other => other.unexpected "struct CatalogConfig"

end ConfigOverride

end TypedSearch
