import TypedSearch.Query.Direction

/-!
The clauses of backend queries: builders for each kind (`term`, `range`, `bool_filter` and their like),
and the one way to take a clause apart that filters need, recognising a pure conjunction
(`conjunction_clauses`).
-/

namespace TypedSearch.Clause

/-- A mapping property with an exact-value sub-field. -/
def withKeyword (type : String) : Json :=
  .object
    [("type", .string type),
      ("fields", .single FieldPath.keywordName (.single "type" (.string FieldPath.keywordName)))]

def matchAll : Json := .single "match_all" (.object [])

def term (field : String) (value : Json) : Json := .single "term" (.single field value)

/-- A bound on a field: one of `gt`, `gte`, `lt` and `lte`. -/
def range (field bound : String) (value : Json) : Json :=
  .single "range" (.single field (.single bound value))

def matchText (field query : String) : Json :=
  .single "match" (.single field (.single "query" (.string query)))

def wildcard (field pattern : String) : Json :=
  .single "wildcard" (.single field (.single "value" (.string pattern)))

/-- The query that holds if all clauses do. -/
def conjunction (clauses : List Json) : Json := .single "bool" (.single "filter" (.array clauses))

/-- The query that holds if some clause does. -/
def disjunction (clauses : List Json) : Json := .single "bool" (.single "should" (.array clauses))

/-- The query that holds if no clause does. -/
def negation (clauses : List Json) : Json := .single "bool" (.single "must_not" (.array clauses))

/-- The clauses of a query that is a conjunction and nothing else. -/
def conjunctionClauses? : Json → Option (List Json)
  | .object [("bool", .object [("filter", .array clauses)])] => some clauses
  | _ => none

def sort (field : String) (direction : Direction) : Json :=
  .single field (.string direction.spelling)

def script (source : String) (params : Json.Entries) : Json :=
  .object [("source", .string source), ("params", .object params)]

def scriptQuery (script : Json) : Json := .single "script" (.single "script" script)

/-- The sort clause whose key a script gives; `kind` is the kind of the key. -/
def scriptSort (kind : String) (direction : Direction) (script : Json) : Json :=
  .single "_script"
    (.object
      [("type", .string kind), ("order", .string direction.spelling), ("script", script)])

end TypedSearch.Clause
