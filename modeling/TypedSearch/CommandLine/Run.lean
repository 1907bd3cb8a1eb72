import TypedSearch.Catalog.Document
import TypedSearch.CommandLine.Arguments
import TypedSearch.CommandLine.Documents
import TypedSearch.CommandLine.Help
import TypedSearch.Search.Engine
import TypedSearch.Version

/-!
Carrying out a command line (`load`, `apply_cli_overrides`, and one function for each verb). A run
depends on the words, on the variables of the environment and on the texts of files, and it answers
what is printed and the status that the program ends with. What the runtime says of a panic is left
out.
-/

namespace TypedSearch.CommandLine

structure Surroundings where
  environment : String → Option String
  /-- The texts of files, or why one cannot be read. -/
  files : String → Except String String

structure Outcome where
  status : UInt32
  output : String
  complaint : String
  deriving DecidableEq, Repr

/-- The overrides that the settings of an invocation give. -/
def Invocation.override (invocation : Invocation) : ConfigOverride :=
  { indexPrefix := invocation.indexPrefix
    logQueries := if invocation.logQueries then some true else none }

/-- The configuration of a run: the variables, then the catalog, then the settings have their way. -/
def Invocation.config (invocation : Invocation) (world : Surroundings)
    (document : CatalogDocument) : EngineConfig :=
  invocation.override.apply (document.config.apply (.ofVariables world.environment))

/-- The engine of the catalog that an invocation names. -/
def Invocation.engine (invocation : Invocation) (world : Surroundings) : Except String Engine := do
  let text ← world.files invocation.catalog
  let document ← (CatalogDocument.ofText? text).mapError Problem.message
  (Engine.build (invocation.config world document) document.catalog .standard).mapError
    SearchError.message

def printed (value : Json) : String := value.indented ++ "\n"

/-- The body of every index, by the names of the indices. -/
def indexBodies (engine : Engine) : Except String Json := do
  let mappings ← engine.mappings.mapError SearchError.message
  return .object (mappings.entries.map fun (index, mapping) => (index, indexBody mapping))

/-- The request that a text of arguments means for a dataset. -/
def compiledBody (engine : Engine) (dataset arguments : String) : Except String Json := do
  let parsed ← Json.parse arguments
  let request ← (engine.compile dataset parsed).mapError SearchError.message
  return request.body

/-- How a task ends that gives no output. -/
inductive TaskFailure where
  | complaint (message : String)
  | panicked
  deriving DecidableEq, Repr

def TaskFailure.ofSearch : SearchFailure → TaskFailure
  | .refused error => .complaint error.message
  | .panicked => .panicked

/-- A call to a backend as a part of a task. -/
def called {α : Type} (call : Backend.Call α) : ExceptT TaskFailure (StateM Backend) α :=
  call.adapt TaskFailure.ofSearch

def complaining {α : Type} (step : Except String α) : Except TaskFailure α :=
  step.mapError TaskFailure.complaint

/-- The documents of a file that a text of arguments selects. -/
def hits (sorter : Sorter) (engine : Engine) (world : Surroundings)
    (dataset docs arguments : String) : ExceptT TaskFailure (StateM Backend) Json := do
  let _ ← called engine.createIndices
  let index ← complaining ((engine.indexName dataset).mapError SearchError.message)
  let documents ← complaining (world.files docs >>= readDocuments)
  called (Backend.extend index documents)
  let parsed ← complaining (Json.parse arguments)
  let found ← called (engine.search sorter dataset parsed)
  return .array found

def validity (engine : Engine) : String :=
  s!"✓ Catalog is valid ({engine.catalog.datasets.entries.length} datasets, " ++
    s!"schema {engine.fingerprint.short}, quarry {version})\n"

def Task.output (task : Task) (sorter : Sorter) (world : Surroundings) (engine : Engine) :
    Except TaskFailure String :=
  match task with
  | .schema true => .ok (printed engine.api.toJson)
  | .schema false => .ok engine.api.sdl
  | .mappings => complaining (printed <$> indexBodies engine)
  | .compile dataset arguments => complaining (printed <$> compiledBody engine dataset arguments)
  | .search dataset docs arguments =>
    printed <$> ((hits sorter engine world dataset docs arguments).run.run .fresh).1
  | .validate => .ok (validity engine)

/-- What stands before an error of a task. -/
def Task.blame : Task → String
  | .validate => "Validation failed: "
  | _ => "Error: "

/-- Carries out an invocation. A failure prints nothing but its message. -/
def Invocation.run (invocation : Invocation) (sorter : Sorter) (world : Surroundings) : Outcome :=
  let task := invocation.task
  match complaining (invocation.engine world) >>= task.output sorter world with
  | .ok output => ⟨0, output, ""⟩
  | .error (.complaint message) => ⟨1, "", task.blame ++ message ++ "\n"⟩
  | .error .panicked => ⟨101, "", ""⟩

/-- What a command line that is not carried out leaves behind. -/
def Stop.outcome : Stop → Outcome
  | .help none => ⟨0, overview, ""⟩
  | .help (some verb) => ⟨0, verb.help, ""⟩
  | .misuse fault => ⟨2, "", s!"error: {fault.message}\n"⟩

def run (sorter : Sorter) (world : Surroundings) (words : List String) : Outcome :=
  match Invocation.ofWords words with
  | .ok invocation => invocation.run sorter world
  | .error stop => stop.outcome

end TypedSearch.CommandLine
