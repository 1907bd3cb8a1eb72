import TypedSearch.Problem
import TypedSearch.Request.FilterNode

/-!
The arguments of a dataset's query field (`DatasetArguments`), and the search request that is compiled
from them (`SearchRequest`).
-/

namespace TypedSearch

structure DatasetArguments where
  filter : Option FilterNode := none
  /-- The orders by field name, the most significant first. -/
  order : Option (List Json.Entries) := none
  deriving DecidableEq

namespace DatasetArguments

def keys : List String := ["filter", "order"]

/-- Reads one entry into the arguments; unknown keys are refused. -/
def readPart (arguments : DatasetArguments) (entry : String × Json) :
    Json.Decoded DatasetArguments := do
  if entry.1 = "filter" then
    return { arguments with filter := ← entry.2.toOption FilterNode.ofJson? }
  else if entry.1 = "order" then
    return { arguments with order := ← entry.2.toOption (Json.toList Json.toEntries) }
  else throw (.unknownField entry.1 keys)

/-- Reads arguments from their entries or from a list of their parts. -/
def ofJson? : Json → Json.Decoded DatasetArguments
  | .object entries => entries.foldlM readPart {}
  | .array items => do
    let arguments ← (keys.zip items).foldlM readPart {}
    if items.length ≤ keys.length then return arguments else throw (Json.overlong items)
  | other => other.unexpected "struct DatasetArguments"

/-- The arguments that a client gives; null stands for none. -/
def ofClient (value : Json) : Except Problem DatasetArguments :=
  if value.isNull then .ok {}
  else
    match ofJson? value with
    | .ok arguments => .ok arguments
    | .error cause => .error (.argument "arguments" (.undecodable cause))

/-- Arguments as a value, with every key. -/
def toJson (arguments : DatasetArguments) : Json :=
  .object
    [("filter", .ofOption FilterNode.toJson arguments.filter),
      ("order", .ofOption (fun orders => .array (orders.map .object)) arguments.order)]

end DatasetArguments

/-- What a search backend is asked: a query and, optionally, sort clauses. -/
structure SearchRequest where
  query : Json
  sort : Option (List Json) := none
  deriving DecidableEq

namespace SearchRequest

/-- A request as a value; an absent sort is left out. -/
def toJson (request : SearchRequest) : Json :=
  .object
    (("query", request.query) ::
      (request.sort.map fun clauses => ("sort", Json.array clauses)).toList)

def body (request : SearchRequest) : Json :=
  match request.sort with
  | some clauses => .object (Json.Entries.insert "sort" (.array clauses) [("query", request.query)])
  | none => .object [("query", request.query)]

def sortOfJson? : Json → Json.Decoded (Option (List Json)) := Json.toOption (Json.toList .ok)

/-- Reads one entry into the query and the sort found so far, passing over unknown keys. -/
def readPart (parts : Option Json × Option (List Json)) (entry : String × Json) :
    Json.Decoded (Option Json × Option (List Json)) := do
  if entry.1 = "query" then return (some entry.2, parts.2)
  else if entry.1 = "sort" then return (parts.1, ← sortOfJson? entry.2)
  else return parts

/-- Reads a request from its entries or from a list of its parts. -/
def ofJson? : Json → Json.Decoded SearchRequest
  | .object entries => do
    match ← entries.foldlM readPart (none, none) with
    | (some query, sort) => return ⟨query, sort⟩
    | (none, _) => throw (.missingField "query")
  | .array [] => .error (Json.tooShort [] "SearchRequest" 2)
  | .array [query] => .ok ⟨query, none⟩
  | .array (query :: sort :: rest) => do
    let clauses ← sortOfJson? sort
    if rest.isEmpty then return ⟨query, clauses⟩
    else throw (Json.overlong (query :: sort :: rest))
  | other => other.unexpected "struct SearchRequest"

end SearchRequest

end TypedSearch
