import TypedSearch.Search.Error
import TypedSearch.Search.Field
import TypedSearch.Search.Glob

/-!
Queries as tests of documents (`Matcher::matches`). A query has one entry, its kind with a body; what
is malformed or unsupported is reported when a test reaches it. In a Boolean query the clauses that
must hold come first and end the test at the first that fails, then all that must not hold are counted,
then all of which some should hold (`bool_query`).
-/

namespace TypedSearch

/-- A test of documents, which may fail to be one. -/
abbrev DocumentTest := Json → Except SearchError Bool

namespace Matcher

def malformed (kind : String) (body : Json) : SearchError := .backend (.malformed kind body)

/-- The one entry of a query or of the body of a leaf query. -/
def single (kind : String) : Json → Except SearchError (String × Json)
  | .object [entry] => .ok entry
  | other => .error (malformed kind other)

/-- A parameter of a leaf query, given under its key or bare. -/
def param (key : String) : Json → Json
  | .object entries => (entries.lookup key).getD .null
  | other => other

/-- Whether a document has the value that a query names. On analysed text that is one of its
tokens. -/
def term (view : MappingView) (body : Json) : DocumentTest := fun document => do
  let (field, params) ← single "term" body
  let expected := param "value" params
  let target := Target.ofField view field
  match document.atPath? target.path with
  | none => return false
  | some actual =>
    match target with
    | .text _ =>
      match expected, actual with
      | .string word, .string text => return (tokens text).contains word.toList
      | _, _ => return false
    | _ => return target.order? actual expected == some .eq

/-- Whether an order keeps a bound, for the bounds there are. -/
def keepsBound? (order : Option Ordering) : String → Option Bool
  | "gt" => some (order == some .gt)
  | "gte" => some (order == some .gt || order == some .eq)
  | "lt" => some (order == some .lt)
  | "lte" => some (order == some .lt || order == some .eq)
  | _ => none

/-- Whether a value keeps bounds, looked at one by one up to the first that it does not keep. -/
def keepsBounds (body : Json) (target : Target) (actual : Json) :
    Json.Entries → Except SearchError Bool
  | [] => .ok true
  | (bound, limit) :: rest =>
    match keepsBound? (target.order? actual limit) bound with
    | none => .error (malformed "range" body)
    | some false => .ok false
    | some true => keepsBounds body target actual rest

def range (view : MappingView) (body : Json) : DocumentTest := fun document => do
  let (field, params) ← single "range" body
  match params with
  | .object bounds =>
    let target := Target.ofField view field
    match document.atPath? target.path with
    | none => return false
    | some actual => keepsBounds body target actual bounds
  | _ => throw (malformed "range" body)

/-- Whether a document's value shares a token with a text. -/
def matchText (body : Json) : DocumentTest := fun document => do
  let (field, params) ← single "match" body
  match (param "query" params).keywordForm? with
  | none => throw (malformed "match" body)
  | some query =>
    match (document.atPath? field).bind Json.keywordForm? with
    | none => return false
    | some actual =>
      let found := tokens actual
      return (tokens query).any fun token => found.contains token

/-- Whether a document's value matches a pattern. On analysed text one of its tokens has to match
the pattern in lower case. -/
def wildcard (view : MappingView) (body : Json) : DocumentTest := fun document => do
  let (field, params) ← single "wildcard" body
  match param "value" params with
  | .string pattern =>
    let target := Target.ofField view field
    match (document.atPath? target.path).bind Json.keywordForm? with
    | none => return false
    | some actual =>
      match target with
      | .text _ => return (tokens actual).any (Glob.isMatch (Text.lowercase pattern.toList))
      | _ => return Glob.isMatch pattern.toList actual.toList
  | _ => throw (malformed "wildcard" body)

/-- Whether a document passes all tests, up to the first that it fails. -/
def all (document : Json) : List DocumentTest → Except SearchError Bool
  | [] => .ok true
  | test :: rest => do
    if ← test document then all document rest else return false

/-- The number of tests that a document passes, every one being run. -/
def count (document : Json) : List DocumentTest → Except SearchError Nat
  | [] => .ok 0
  | test :: rest => do
    let passed ← test document
    let more ← count document rest
    return (if passed then 1 else 0) + more

/-- The clauses under a key of a Boolean query. None are written as none; anything but a list is
malformed. -/
def clausesOf (body : Json) (clauses : List (String × Option (List DocumentTest))) (key : String) :
    Except SearchError (List DocumentTest) :=
  match clauses.lookup key with
  | none => .ok []
  | some (some tests) => .ok tests
  | some none => .error (malformed "bool" body)

/-- The number of optional clauses that have to hold: as the query says, or one if there are only
optional clauses. -/
def minimumShould (body : Json) (required optional : List DocumentTest) : Nat :=
  match body.get? "minimum_should_match" with
  | some (.number (.integer (.ofNat count))) => count
  | _ => if optional.isEmpty || !required.isEmpty then 0 else 1

/-- The test of a Boolean query, given the tests of the clauses under its keys. -/
def boolean (body : Json) (clauses : List (String × Option (List DocumentTest))) : DocumentTest :=
  fun document => do
    let filter ← clausesOf body clauses "filter"
    let must ← clausesOf body clauses "must"
    let should ← clausesOf body clauses "should"
    let mustNot ← clausesOf body clauses "must_not"
    if !(← all document filter) then return false
    if !(← all document must) then return false
    if (← count document mustNot) > 0 then return false
    return minimumShould body (filter ++ must) should ≤ (← count document should)

/-- The test of a query that has no clauses inside. -/
def leaf (view : MappingView) (kind : String) (body : Json) : DocumentTest :=
  match kind with
  | "match_all" => fun _ => .ok true
  | "term" => term view body
  | "range" => range view body
  | "match" => matchText body
  | "wildcard" => wildcard view body
  | other => fun _ => .error (.unsupported (.query other))

mutual

def test (view : MappingView) : Json → DocumentTest
  | .object [(kind, body)] =>
    if kind = "bool" then boolean body (clauses view body) else leaf view kind body
  | other => fun _ => .error (malformed "top-level" other)
termination_by structural query => query

/-- The clauses of the body of a Boolean query; a body that is no object has none. -/
def clauses (view : MappingView) : Json → List (String × Option (List DocumentTest))
  | .object entries => entriesClauses view entries
  | _ => []
termination_by structural body => body

def entriesClauses (view : MappingView) :
    List (String × Json) → List (String × Option (List DocumentTest))
  | [] => []
  | (key, value) :: rest => (key, itemTests? view value) :: entriesClauses view rest
termination_by structural entries => entries

def itemTests? (view : MappingView) : Json → Option (List DocumentTest)
  | .array items => some (tests view items)
  | _ => none
termination_by structural value => value

def tests (view : MappingView) : List Json → List DocumentTest
  | [] => []
  | query :: rest => test view query :: tests view rest
termination_by structural queries => queries

end

end Matcher

end TypedSearch
