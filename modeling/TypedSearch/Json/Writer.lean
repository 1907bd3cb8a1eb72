import TypedSearch.Json.Basic
import TypedSearch.Text.Joined

/-!
The two written forms of a JSON value: the compact one without any blank (`to_string`), and the
indented one with two blanks for each level, in which an empty array or object stays on its line
(`to_string_pretty`).
-/

namespace TypedSearch.Json

/-- How a character is written inside a string: quotes, backslashes and control characters are
escaped and every other character stands for itself. -/
def escaped (c : Char) : List Char :=
  if c = '"' then ['\\', '"']
  else if c = '\\' then ['\\', '\\']
  else if c = '\n' then ['\\', 'n']
  else if c = '\t' then ['\\', 't']
  else if c = '\r' then ['\\', 'r']
  else if c = '\x08' then ['\\', 'b']
  else if c = '\x0c' then ['\\', 'f']
  else if c.toNat < 32 then '\\' :: 'u' :: Text.hex 4 c.toNat
  else [c]

def quoted (text : String) : String :=
  String.ofList ('"' :: text.toList.flatMap escaped ++ ['"'])

mutual

def compact : Json → String
  | .null => "null"
  | .bool true => "true"
  | .bool false => "false"
  | .number value => value.text
  | .string text => quoted text
  | .array items => "[" ++ Text.joined "," (compactItems items) ++ "]"
  | .object entries => "\x7b" ++ Text.joined "," (compactEntries entries) ++ "\x7d"
termination_by structural x => x

def compactItems : List Json → List String
  | [] => []
  | item :: rest => compact item :: compactItems rest
termination_by structural x => x

def compactEntries : List (String × Json) → List String
  | [] => []
  | (key, value) :: rest => (quoted key ++ ":" ++ compact value) :: compactEntries rest
termination_by structural x => x

end

def lineStart (level : Nat) : String := "\n" ++ String.ofList (List.replicate (2 * level) ' ')

/-- Parts on lines of their own between two brackets. -/
def bracketed (left right : String) (level : Nat) (parts : List String) : String :=
  if parts.isEmpty then left ++ right
  else
    left ++ lineStart (level + 1) ++ Text.joined ("," ++ lineStart (level + 1)) parts
      ++ lineStart level ++ right

mutual

/-- The indented text of a value whose first line stands at a level. -/
def indentedAt (level : Nat) : Json → String
  | .array items => bracketed "[" "]" level (indentedItems (level + 1) items)
  | .object entries => bracketed "\x7b" "\x7d" level (indentedEntries (level + 1) entries)
  | .null => compact .null
  | .bool value => compact (.bool value)
  | .number value => compact (.number value)
  | .string text => compact (.string text)
termination_by structural x => x

def indentedItems (level : Nat) : List Json → List String
  | [] => []
  | item :: rest => indentedAt level item :: indentedItems level rest
termination_by structural x => x

def indentedEntries (level : Nat) : List (String × Json) → List String
  | [] => []
  | (key, value) :: rest =>
    (quoted key ++ ": " ++ indentedAt level value) :: indentedEntries level rest
termination_by structural x => x

end

def indented (value : Json) : String := indentedAt 0 value

end TypedSearch.Json
