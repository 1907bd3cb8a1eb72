import TypedSearch.Text.Joined
import TypedSearch.Text.Space

/-!
Names: the identifiers that a schema may use (`is_identifier`), and the type names made from them by
capitalising the parts of a name and dropping what separates them (`pascal_case`).
-/

namespace TypedSearch.Name

def isInitial (c : Char) : Bool := c = '_' || c.isAlpha

/-- Whether a character may stand further on in an identifier. -/
def isInner (c : Char) : Bool := c = '_' || c.isAlphanum

/-- Whether a list of characters is an ASCII letter or underscore followed by letters, digits and
underscores. -/
def isIdentifierChars : List Char → Bool
  | [] => false
  | c :: rest => isInitial c && rest.all isInner

def isIdentifier (name : String) : Bool := isIdentifierChars name.toList

/-- Whether a character separates the parts of a name. -/
def isSeparator (c : Char) : Bool := c = '_' || c = '-' || Text.isSpace c

/-- A part of a name with its first character in upper case, if that is an ASCII letter. -/
def capitalised : List Char → List Char
  | [] => []
  | c :: rest => c.toUpper :: rest

/-- The parts of a name, each capitalised, one after the other. -/
def pascalChars (name : List Char) : List Char :=
  (Text.runs isSeparator name).flatMap capitalised

/-- The type name made from a name: `market_insights` becomes `MarketInsights`. -/
def pascalCase (name : String) : String := String.ofList (pascalChars name.toList)

end TypedSearch.Name
