/-!
The words that a command line is made of: the verbs (`Commands`), and the settings that each verb takes
(`CatalogArgs`).
-/

namespace TypedSearch.CommandLine

inductive Verb where
  | schema
  | mappings
  | compile
  | search
  | validate
  deriving DecidableEq, Repr

namespace Verb

/-- All verbs, in the order in which help lists them. -/
def all : List Verb := [schema, mappings, compile, search, validate]

def name : Verb → String
  | schema => "schema"
  | mappings => "mappings"
  | compile => "compile"
  | search => "search"
  | validate => "validate"

def ofName? (word : String) : Option Verb := all.find? fun verb => verb.name = word

end Verb

inductive SettingForm where
  | flag
  | text
  /-- With the path of a file, which is not empty. -/
  | path
  deriving DecidableEq, Repr

inductive Setting where
  | catalog
  /-- What stands before every index name. -/
  | indexPrefix
  | logQueries
  | json
  | dataset
  | docs
  | args
  deriving DecidableEq, Repr

namespace Setting

def name : Setting → String
  | catalog => "catalog"
  | indexPrefix => "index-prefix"
  | logQueries => "log-queries"
  | json => "json"
  | dataset => "dataset"
  | docs => "docs"
  | args => "args"

def letter? : Setting → Option Char
  | catalog => some 'c'
  | dataset => some 'd'
  | args => some 'a'
  | _ => none

def form : Setting → SettingForm
  | logQueries | json => .flag
  | catalog | docs => .path
  | indexPrefix | dataset | args => .text

/-- Whether a verb that takes the setting cannot do without it. -/
def required : Setting → Bool
  | catalog | dataset | docs => true
  | _ => false

end Setting

/-- The settings that a verb takes, in the order in which help lists them. -/
def Verb.settings : Verb → List Setting
  | schema => [.catalog, .indexPrefix, .logQueries, .json]
  | mappings | validate => [.catalog, .indexPrefix, .logQueries]
  | compile => [.catalog, .indexPrefix, .logQueries, .dataset, .args]
  | search => [.catalog, .indexPrefix, .logQueries, .dataset, .docs, .args]

end TypedSearch.CommandLine
