import TypedSearch.CommandLine.Setting
import TypedSearch.Text.Joined

/-!
The help of the program: a page about all verbs, and one about the settings of each verb. The layout is
this library's own.
-/

namespace TypedSearch.CommandLine

/-- What a verb does, in a line. -/
def Verb.summary : Verb → String
  | schema => "Print the generated API schema"
  | mappings => "Print index-creation bodies keyed by index name"
  | compile => "Compile query arguments into a backend search body"
  | search => "Run a search over documents loaded from a JSON or JSON-lines file"
  | validate => "Validate a catalog (parse, check names, generate the schema)"

/-- What a setting means, in a line. -/
def Setting.summary : Setting → String
  | catalog => "Path to the catalog YAML file"
  | indexPrefix => "Prefix for every index name (overrides env and catalog config)"
  | logQueries => "Trace compiled query documents"
  | json => "Emit JSON instead of SDL"
  | dataset => "Dataset to query"
  | docs => "JSON array or one JSON document per line"
  | args => "Arguments as JSON: \x7b\"filter\": ..., \"order\": [...]\x7d [default: \x7b\x7d]"

/-- What stands for the value of a setting, with a blank before it. -/
def Setting.placeholder (setting : Setting) : String :=
  match setting.form with
  | .flag => ""
  | .text | .path => " <" ++ setting.name.toUpper.replace "-" "_" ++ ">"

def Setting.usage (setting : Setting) : String :=
  let long := "--" ++ setting.name ++ setting.placeholder
  match setting.letter? with
  | some letter => String.ofList ['-', letter, ',', ' '] ++ long
  | none => "    " ++ long

/-- Rows of two columns, the second one aligned. -/
def aligned (rows : List (String × String)) : List String :=
  let width := rows.foldl (fun widest row => max widest row.1.length) 0
  rows.map fun (left, right) =>
    "  " ++ left ++ String.ofList (List.replicate (width + 2 - left.length) ' ') ++ right

def helpRow : String × String := ("-h, --help", "Print help")

def overview : String :=
  Text.joined "\n"
    (["quarry: typed search APIs and backend queries from record schemas", "",
      "Usage: quarry <COMMAND>", "", "Commands:"] ++
      aligned (Verb.all.map (fun verb => (verb.name, verb.summary)) ++
        [("help", "Print this message or the help of the given subcommand(s)")]) ++
      ["", "Options:"] ++ aligned [helpRow] ++ [""])

def Verb.help (verb : Verb) : String :=
  let needed := verb.settings.filter Setting.required
  let call := "Usage: quarry " ++ verb.name ++ " [OPTIONS]" ++
    String.join (needed.map fun setting => " --" ++ setting.name ++ setting.placeholder)
  Text.joined "\n"
    ([verb.summary, "", call, "", "Options:"] ++
      aligned (verb.settings.map (fun setting => (setting.usage, setting.summary)) ++ [helpRow]) ++
      [""])

end TypedSearch.CommandLine
