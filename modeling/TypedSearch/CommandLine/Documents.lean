import TypedSearch.Json.Decode
import TypedSearch.Json.Reader
import TypedSearch.Text.Lines

/-!
Reading the documents of a file (`read_documents`). A file whose first character after white space is a
bracket holds one JSON array; any other holds a document on each line that is not blank.
-/

namespace TypedSearch.CommandLine

def documentsOfLines (text : List Char) : Except String (List Json) :=
  ((Text.lines text).filter fun line => !Text.isBlankLine line).mapM fun line =>
    Json.parse (String.ofList line)

def readDocuments (text : String) : Except String (List Json) :=
  match Text.trimStart text.toList with
  | '[' :: _ => do return (← Json.parse text).items?.getD []
  | _ => documentsOfLines text.toList

end TypedSearch.CommandLine
