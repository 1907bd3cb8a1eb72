import TypedSearch.Proofs.Compile.Nesting
import TypedSearch.Proofs.Search.Addressing

/-!
Searches under a field. A mapping that has another one under a field takes the names below the field
as that one takes them, also those that are called like the ending of exact-value forms, and a
document under the field has at such a name what the document has. So a filter put under the field
matches exactly the documents there that the filter matches.
-/

namespace TypedSearch

open FilterNode Matcher Outcome

variable {field name : String} {outer inner : MappingView} {document clause : Json}

/-- A mapping has under a field the properties that another one has, and the field itself has no
exact-value form. -/
structure MappingView.Encloses (field : String) (outer inner : MappingView) : Prop where
  /-- Names below the field lead to what the inner mapping has. -/
  below (name : String) : outer.property? (underField field name) = inner.property? name
  /-- The field is not indexed as an exact value. -/
  bare : outer.hasKeyword field = false

namespace MappingView

/-- The mapping of a record has the mapping of a record inside under the field of that. -/
theorem enclosed_encloses (shape : RecordType) (record : String) (dotless : Dotless field) :
    Encloses field (ofFields (shape.enclosed record field).fields) (ofFields shape.fields) := by
  obtain ⟨name, fields⟩ := shape
  have own : (SchemaField.properties [⟨field, .record ⟨name, fields⟩⟩]).lookup field =
      some (RecordType.property (SchemaField.properties fields)) :=
    List.lookup_cons_self
  constructor
  · intro name
    obtain ⟨next, rest, names⟩ := List.exists_cons_of_ne_nil (pathNames_ne_nil name)
    rw [property?, property?, underField, pathNames_append, pathNames_of_dotless dotless, names]
    simp only [RecordType.enclosed, ofFields, Option.bind_some, List.singleton_append,
      propertyAlong, own]
    rfl
  · rw [hasKeyword, property?, pathNames_of_dotless dotless]
    simp only [RecordType.enclosed, ofFields, Option.bind_some, propertyAlong, own]
    rfl

theorem Encloses.hasKeyword (encloses : Encloses field outer inner) (name : String) :
    outer.hasKeyword (underField field name) = inner.hasKeyword name := by
  rw [MappingView.hasKeyword, MappingView.hasKeyword, encloses.below]

theorem Encloses.isText (encloses : Encloses field outer inner) (name : String) :
    outer.isText (underField field name) = inner.isText name := by
  rw [MappingView.isText, MappingView.isText, encloses.below]

end MappingView

namespace Target

/-- A target below a field. -/
def under (field : String) : Target → Target
  | keyword path => keyword (underField field path)
  | text path => text (underField field path)
  | plain path => plain (underField field path)

@[simp] theorem path_under (target : Target) :
    (target.under field).path = underField field target.path := by
  cases target <;> rfl

@[simp] theorem order_under (target : Target) (value other : Json) :
    (target.under field).order? value other = target.order? value other := by
  cases target <;> rfl

theorem keywordBase?_keywordName : keywordBase? FieldPath.keywordName = none := by decide

/-- A name below a field ends like an exact-value form if the name does so after another name. -/
theorem underField_ends_iff {base : String} (other : name ≠ FieldPath.keywordName) :
    underField field name = base ++ "." ++ FieldPath.keywordName ↔
      ∃ inner, name = inner ++ "." ++ FieldPath.keywordName ∧ underField field inner = base := by
  constructor
  · intro same
    have chars : field.toList ++ '.' :: name.toList =
        base.toList ++ '.' :: FieldPath.keywordName.toList := by
      simpa [underField, String.toList_append] using congrArg String.toList same
    rcases List.append_eq_append_iff.mp chars with ⟨between, longer, tail⟩ | ⟨between, -, tail⟩
    · rcases List.cons_eq_append_iff.mp tail with ⟨-, equal⟩ | ⟨inner, rfl, ends⟩
      · exact (other (String.toList_inj.mp (List.cons.inj equal).2.symm)).elim
      · refine ⟨String.ofList inner, ?_, ?_⟩
        · rw [← String.toList_inj]
          simp [String.toList_append, ends]
        · rw [← String.toList_inj]
          simp [underField, String.toList_append, longer]
    · -- Otherwise the dot before the name would have to be in the ending.
      rcases List.cons_eq_append_iff.mp tail with ⟨-, equal⟩ | ⟨inner, -, ends⟩
      · exact (other (String.toList_inj.mp (List.cons.inj equal).2)).elim
      · have dot : '.' ∈ FieldPath.keywordName.toList := by simp [ends]
        exact absurd dot (by decide)
  · rintro ⟨inner, rfl, rfl⟩
    simp [underField, String.append_assoc]

theorem ofValueName_under (encloses : outer.Encloses field inner) (name : String) :
    ofValueName outer (underField field name) = (ofValueName inner name).under field := by
  rw [ofValueName, ofValueName, encloses.isText]
  cases inner.isText name <;> rfl

/-- What a search takes a name for it takes the name below a field for, below the field. -/
theorem ofField_under (encloses : outer.Encloses field inner) (name : String) :
    ofField outer (underField field name) = (ofField inner name).under field := by
  by_cases other : name = FieldPath.keywordName
  · -- The field before the dot has no exact-value form that the name could stand for.
    have ends : keywordBase? (underField field name) = some field := by
      rw [other, keywordBase?_eq_some, underField]
    rw [ofField, ends, ofField, other, keywordBase?_keywordName, ← other]
    simp only [encloses.bare, Bool.false_eq_true, ↓reduceIte, ofValueName_under encloses]
  · have ends : keywordBase? (underField field name) =
        (keywordBase? name).map (underField field) := by
      refine Option.ext fun base => ?_
      rw [keywordBase?_eq_some, underField_ends_iff other, Option.map_eq_some_iff]
      simp only [keywordBase?_eq_some]
    rw [ofField, ofField, ends]
    cases keywordBase? name with
    | none => exact ofValueName_under encloses name
    | some base =>
      simp only [Option.map_some, encloses.hasKeyword, ofValueName_under encloses]
      cases inner.hasKeyword base <;> rfl

end Target

/-- A document under a field has at a name below the field what the document has at the name. -/
theorem Json.atPath?_under (dotless : Dotless field) (document : Json) (path : String) :
    (Json.single field document).atPath? (underField field path) = document.atPath? path := by
  have found : (Json.single field document).get? field = some document := List.lookup_cons_self
  rw [atPath?, atPath?, underField, pathNames_append, pathNames_of_dotless dotless,
    List.singleton_append, along, found]

/-- A clause under a field tests a document there as the clause tests the document. -/
theorem Matcher.test_under (encloses : outer.Encloses field inner) (dotless : Dotless field)
    (asked : LeafClause clause) :
    test outer (Clause.under field clause) (.single field document) =
      test inner clause document := by
  have here (path : String) := Json.atPath?_under dotless document path
  simp only [Json.single] at here
  cases asked with
  | term name value =>
    rw [Clause.under_term, test_term, test_term]
    simp only [term, single, Json.single, ok_bind, Target.ofField_under encloses,
      Target.path_under, here]
    cases document.atPath? (Target.ofField inner name).path with
    | none => rfl
    | some actual => cases Target.ofField inner name <;> rfl
  | @range name value _ bound known =>
    rw [Clause.under_range, test_range, test_range]
    simp only [range, single, Json.single, ok_bind, Target.ofField_under encloses,
      Target.path_under, here]
    cases document.atPath? (Target.ofField inner name).path with
    | none => rfl
    | some actual =>
      -- The bodies differ by the name, which a malformed bound alone would show.
      obtain ⟨keeps, kept⟩ :=
        bound_known known ((Target.ofField inner name).order? actual value)
      simp only [keepsBounds, Target.order_under, kept]
      cases keeps <;> rfl
  | matchText name query =>
    rw [Clause.under_matchText, test_matchText, test_matchText]
    simp only [matchText, single, Json.single, ok_bind, param, List.lookup_cons_self,
      Option.getD_some, Json.keywordForm?, here]
  | wildcard name pattern =>
    rw [Clause.under_wildcard, test_wildcard, test_wildcard]
    simp only [wildcard, single, Json.single, ok_bind, Target.ofField_under encloses,
      Target.path_under, here]
    cases Target.ofField inner name <;> rfl

/-- The field that encloses a valid record is a valid field. -/
theorem RecordType.enclosed_valid {shape : RecordType} {record : String}
    (valid : shape.validate = .ok ()) (legal : Name.isIdentifier field = true) :
    SchemaField.Valid (shape.enclosed record field).fields :=
  ⟨List.forall_mem_singleton.mpr ⟨legal, valid⟩, List.pairwise_singleton _ _⟩

/-- The query of a filter answers for a document what the query of the filter under the enclosing field
answers for the document under the field. -/
theorem enclosed_query_answers {shape : RecordType} {record index otherIndex : String}
    {tree : FilterNode} {query nestedQuery : Json} (distinct : SchemaField.Distinct shape.fields)
    (dotless : Dotless field) (keyed : tree.Keyed)
    (ran : (Dataset.ofSchema shape index).compileFilter .standard (some tree) = .ok query)
    (ranNested : (Dataset.ofSchema (shape.enclosed record field) otherIndex).compileFilter .standard
      (some (tree.nest field)) = .ok nestedQuery) (document : Json) :
    ∃ answer, test (.ofFields shape.fields) query document = .ok answer ∧
      test (.ofFields (shape.enclosed record field).fields) nestedQuery (.single field document) =
        .ok answer := by
  obtain ⟨answer, answered, meaning⟩ := compiled_answers ran (.ofFields shape.fields) document
  obtain ⟨nestedAnswer, answeredNested, meaningNested⟩ := compiled_answers ranNested
    (.ofFields (shape.enclosed record field).fields) (.single field document)
  have clauses : ∀ clause, LeafClause clause →
      (Hits (.ofFields (shape.enclosed record field).fields) (.single field document)
          (Clause.under field clause) ↔
        Hits (.ofFields shape.fields) document clause) := fun clause asked => by
    rw [Hits, test_under (MappingView.enclosed_encloses shape record dotless) dotless asked, Hits]
  have same : nestedAnswer = answer := by
    rw [Bool.eq_iff_iff, meaning, meaningNested]
    exact RecordType.enclosed_satisfied_iff distinct clauses tree keyed
  exact ⟨answer, answered, same ▸ answeredNested⟩

/-- Nesting cannot be told by filtering. A filter on the fields of a record and the filter with all
its conditions put under a field that encloses the record are refused together. Otherwise the one
gives for a document the answer that the other gives for the document under the field, each under the
mapping of its own dataset. -/
theorem nesting_transparent {shape : RecordType} {field : String} {tree : FilterNode}
    (valid : shape.validate = .ok ()) (legal : Name.isIdentifier field = true) (keyed : tree.Keyed)
    (record index otherIndex : String) :
    let direct := Dataset.ofSchema shape index
    let enclosing := Dataset.ofSchema (shape.enclosed record field) otherIndex
    (Fails (direct.compileFilter .standard (some tree)) ↔
      Fails (enclosing.compileFilter .standard (some (tree.nest field)))) ∧
    ∃ mapping enclosingMapping, direct.mapping .standard = .ok mapping ∧
      enclosing.mapping .standard = .ok enclosingMapping ∧
      ∀ query nestedQuery, direct.compileFilter .standard (some tree) = .ok query →
        enclosing.compileFilter .standard (some (tree.nest field)) = .ok nestedQuery →
        ∀ document, ∃ answer, test (.ofMapping mapping) query document = .ok answer ∧
          test (.ofMapping enclosingMapping) nestedQuery (.single field document) = .ok answer := by
  intro direct enclosing
  have fields : SchemaField.Valid shape.fields := (RecordType.validate_eq_ok.mp valid).2
  refine ⟨?_, _, _, Dataset.mapping_of_valid fields,
    Dataset.mapping_of_valid (RecordType.enclosed_valid valid legal), ?_⟩
  · rw [compileFilter_fails_iff, compileFilter_fails_iff]
    exact (RecordType.enclosed_node_fails_iff fields.2 tree keyed).symm
  · intro query nestedQuery ran ranNested
    exact enclosed_query_answers fields.2 (dotless_of_isIdentifier legal) keyed ran ranNested

/-- Put under a field that is called like the ending of exact-value forms, a filter on a field of that
name still asks for the number there. -/
theorem glossary_nesting_transparent :
    let shape := glossaryDataset.schema
    let north : FilterNode :=
      ⟨some [("properties", .single "keyword"
        (.object [("equals", .string "pole"), ("contains", .string "star")]))], none, none⟩
    let early : FilterNode := ⟨some [("keyword", .single "lessThan" (.ofInt 7))], none, none⟩
    let tree : FilterNode :=
      ⟨some [("properties", .single "fields" (.single "equals" (.ofInt 3))),
        ("keyword", .single "greaterThan" (.ofInt 1))], some [early], some [north, early]⟩
    let direct := Dataset.ofSchema shape "terms"
    let enclosing := Dataset.ofSchema (shape.enclosed "Entry" "keyword") "entries"
    tree.nest "keyword" =
      ⟨some [("keyword", .object
          [("properties", .single "fields" (.single "equals" (.ofInt 3))),
            ("keyword", .single "greaterThan" (.ofInt 1))])],
        some [early.nest "keyword"], some [north.nest "keyword", early.nest "keyword"]⟩ ∧
    tree.Keyed ∧
    ∃ mapping enclosingMapping query nestedQuery, direct.mapping .standard = .ok mapping ∧
      enclosing.mapping .standard = .ok enclosingMapping ∧
      direct.compileFilter .standard (some tree) = .ok query ∧
      enclosing.compileFilter .standard (some (tree.nest "keyword")) = .ok nestedQuery ∧
      ∀ document, ∃ answer, test (.ofMapping mapping) query document = .ok answer ∧
        test (.ofMapping enclosingMapping) nestedQuery (.single "keyword" document) =
          .ok answer := by
  intro shape north early tree direct enclosing
  have keyed : tree.Keyed := by
    simp [tree, north, early, keyed_iff, Json.Entries.keys]
  have valid : shape.validate = .ok () := rfl
  have legal : Name.isIdentifier "keyword" = true := by decide
  obtain ⟨-, mapping, enclosingMapping, mapped, enclosingMapped, alike⟩ :=
    nesting_transparent valid legal keyed "Entry" "terms" "entries"
  exact ⟨rfl, keyed, mapping, enclosingMapping, _, _, mapped, enclosingMapped, rfl, rfl,
    alike _ _ rfl rfl⟩

end TypedSearch
