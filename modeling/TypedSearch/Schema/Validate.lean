import TypedSearch.Problem
import TypedSearch.Text.Name

/-!
Validation of records (`RecordType::validate`). Record and field names become names of the API, so they
must be identifiers, and no record may have two fields of one name; nested records are checked where
they occur.
-/

namespace TypedSearch

mutual

def SchemaType.validate : SchemaType → Except Problem Unit
  | .primitive _ => .ok ()
  | .record shape => shape.validate
termination_by structural x => x

/-- Checks the name of a record, then its fields in order. -/
def RecordType.validate : RecordType → Except Problem Unit
  | ⟨name, fields⟩ =>
    if Name.isIdentifier name then SchemaField.validateList name [] fields
    else .error (.schema (.recordName name))
termination_by structural x => x

/-- Checks a field of a record in which the names `seen` came before it. -/
def SchemaField.validate (record : String) (seen : List String) : SchemaField → Except Problem Unit
  | ⟨name, type⟩ =>
    if !Name.isIdentifier name then .error (.schema (.fieldName name record))
    else if seen.contains name then .error (.schema (.repeatedField record name))
    else type.validate
termination_by structural x => x

/-- Checks fields in order. -/
def SchemaField.validateList (record : String) (seen : List String) :
    List SchemaField → Except Problem Unit
  | [] => .ok ()
  | field :: rest => do
    field.validate record seen
    SchemaField.validateList record (field.name :: seen) rest
termination_by structural x => x

end

end TypedSearch
