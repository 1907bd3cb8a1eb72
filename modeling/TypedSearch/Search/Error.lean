import TypedSearch.Problem

/-!
What can go wrong when an engine is built or asked: a dataset that is not there, a catalog or a
request with a problem, and what the backend refuses (`ExecError`). A call that sorts may also end in a
panic, which is no error: it has no message.
-/

namespace TypedSearch

inductive BackendIssue where
  /-- A search in an index that does not exist. -/
  | noIndex (name : String)
  /-- An index body without mappings. -/
  | noMappings (index : String)
  /-- A query or a sort clause of the wrong shape, by its kind. -/
  | malformed (kind : String) (body : Json)
  /-- A call after a panic behind the backend's lock. -/
  | poisoned
  deriving DecidableEq

inductive Unsupported where
  | query (kind : String)
  | sort (key : String)
  deriving DecidableEq, Repr

inductive SearchError where
  /-- A dataset that the catalog does not have. -/
  | unknownDataset (name : String)
  /-- A catalog without an API. -/
  | schema (problem : Problem)
  | query (problem : Problem)
  | backend (issue : BackendIssue)
  | unsupported (what : Unsupported)
  deriving DecidableEq

/-- How a call ends that gives no answer. -/
inductive SearchFailure where
  | refused (error : SearchError)
  | panicked
  deriving DecidableEq

def SearchFailure.isPanic : SearchFailure → Bool
  | refused _ => false
  | panicked => true

def BackendIssue.message : BackendIssue → String
  | noIndex name => s!"no such index '{name}'"
  | noMappings index => s!"index body for '{index}' has no mappings"
  | malformed kind body => s!"malformed {kind} query: {body.compact}"
  | poisoned => "memory backend lock poisoned"

/-- What a message calls a thing that is not supported. -/
def Unsupported.description : Unsupported → String
  | query kind => s!"'{kind}' queries"
  | sort key => s!"'{key}' sorts"

def SearchError.message : SearchError → String
  | unknownDataset name => s!"unknown dataset '{name}'"
  | schema problem => s!"schema: {problem.message}"
  | query problem => s!"query: {problem.message}"
  | backend issue => s!"backend: {issue.message}"
  | unsupported what => s!"unsupported by this backend: {what.description}"

end TypedSearch
