import TypedSearch.Proofs.Api.Conformance
import TypedSearch.Proofs.Api.Outline
import TypedSearch.Proofs.Json.Value
import TypedSearch.Proofs.Request.Tree

/-!
Filters are decoded as typed. A value that conforms to the type of combinations of filters is a tree,
and each condition in the tree conforms to the entry of its field.
-/

namespace TypedSearch.FilterNode

open ApiSchema Outcome

variable {schema : ApiSchema} {names : DatasetNames} {inputs : List InputValue}

/-- A condition names an input and conforms to its type. -/
def Typed (schema : ApiSchema) (inputs : List InputValue) (condition : String × Json) : Prop :=
  ∃ input ∈ inputs, input.name = condition.1 ∧ schema.conforms condition.2 input.type = true

/-- A schema has the type of combinations of filters for a dataset, the filters on single members
being certain inputs. -/
structure Combines (schema : ApiSchema) (names : DatasetNames) (inputs : List InputValue) :
    Prop where
  /-- The name of the combinations is none of scalars. -/
  unreserved : names.combinations ∉ Scalar.names
  /-- The combinations refer to themselves. -/
  combinations : schema.get? names.combinations = some names.combinationsType
  /-- The name of the filters is none of scalars. -/
  unreservedSingle : names.filter ∉ Scalar.names
  /-- The filters on single members are the inputs. -/
  single : schema.get? names.filter = some ⟨names.filter, .inputObject inputs⟩

/-- The type of lists of combinations. -/
def listType (names : DatasetNames) : TypeRef := .list (.nonNull (.named names.combinations))

/-- A value is decoded as a node wherever a combination is asked for, and as children wherever a list
of combinations is. -/
structure Decodes (schema : ApiSchema) (names : DatasetNames) (inputs : List InputValue)
    (value : Json) : Prop where
  node : schema.conforms value (.named names.combinations) = true → value ≠ .null →
    ∃ node, ofJson? value = .ok node ∧ Throughout (Typed schema inputs) node
  children : schema.conforms value (listType names) = true →
    ∃ children, childrenOfJson? value = .ok children ∧
      ∀ child ∈ children.getD [], Throughout (Typed schema inputs) child

theorem conditions_decode (combines : Combines schema names inputs) {value : Json}
    (fits : schema.conforms value (.named names.filter) = true) :
    ∃ cond, value.toOption Json.toEntries = .ok cond ∧
      ∀ condition ∈ cond.getD [], Typed schema inputs condition := by
  rcases conforms_inputObject combines.unreservedSingle combines.single fits with
    rfl | ⟨entries, rfl, fitting⟩
  · exact ⟨none, rfl, by simp⟩
  · exact ⟨some entries, rfl, fun condition member => fitting.input_of member⟩

theorem nodes_decode {items : List Json}
    (fits : ∀ item ∈ items, schema.conforms item (.nonNull (.named names.combinations)) = true)
    (each : ∀ item ∈ items, Decodes schema names inputs item) :
    ∃ nodes, nodesOfJson? items = .ok nodes ∧
      ∀ node ∈ nodes, Throughout (Typed schema inputs) node := by
  induction items with
  | nil => exact ⟨[], rfl, by simp⟩
  | cons item rest ih =>
    obtain ⟨first, others⟩ := List.forall_mem_cons.mp fits
    obtain ⟨own, later⟩ := List.forall_mem_cons.mp each
    obtain ⟨given, conforming⟩ := conforms_nonNull.mp first
    obtain ⟨node, read, typed⟩ := own.node conforming given
    obtain ⟨nodes, readRest, typedRest⟩ := ih others later
    exact ⟨node :: nodes, by simp [nodesOfJson?, read, readRest],
      List.forall_mem_cons.mpr ⟨typed, typedRest⟩⟩

/-- An entry is that of a combination: its key is one of three, and its value conforms to the type
of the key. -/
def Combined (schema : ApiSchema) (names : DatasetNames) (entry : String × Json) : Prop :=
  entry.1 = "cond" ∧ schema.conforms entry.2 (.named names.filter) = true ∨
    (entry.1 = "and" ∨ entry.1 = "or") ∧ schema.conforms entry.2 (listType names) = true

/-- An entry of a combination is read into a node, and the conditions of the node stay typed. -/
theorem entry_decodes (combines : Combines schema names inputs) {entry : String × Json}
    {node : FilterNode} (typed : Throughout (Typed schema inputs) node)
    (combined : Combined schema names entry) (decodes : Decodes schema names inputs entry.2) :
    ∃ next, Throughout (Typed schema inputs) next ∧
      ∀ rest, ofEntries node (entry :: rest) = ofEntries next rest := by
  obtain ⟨key, value⟩ := entry
  obtain ⟨cond, all, any⟩ := node
  obtain ⟨conditions, conjuncts, alternatives⟩ := throughout_iff.mp typed
  rcases combined with ⟨rfl, conforming⟩ | ⟨rfl | rfl, conforming⟩
  · obtain ⟨cond, read, typed⟩ := conditions_decode combines conforming
    refine ⟨⟨cond, all, any⟩, throughout_iff.mpr ⟨typed, conjuncts, alternatives⟩, fun rest => ?_⟩
    simp [ofEntries, read, FilterNode.all, FilterNode.any]
  · obtain ⟨all, read, typed⟩ := decodes.children conforming
    refine ⟨⟨cond, all, any⟩, throughout_iff.mpr ⟨conditions, typed, alternatives⟩, fun rest => ?_⟩
    simp [ofEntries, read, FilterNode.cond, FilterNode.any]
  · obtain ⟨any, read, typed⟩ := decodes.children conforming
    refine ⟨⟨cond, all, any⟩, throughout_iff.mpr ⟨conditions, conjuncts, typed⟩, fun rest => ?_⟩
    simp [ofEntries, read, FilterNode.cond, FilterNode.all]

theorem entries_decode (combines : Combines schema names inputs) {entries : Json.Entries}
    {node : FilterNode} (typed : Throughout (Typed schema inputs) node)
    (combined : ∀ entry ∈ entries, Combined schema names entry)
    (each : ∀ entry ∈ entries, Decodes schema names inputs entry.2) :
    ∃ final, ofEntries node entries = .ok final ∧ Throughout (Typed schema inputs) final := by
  induction entries generalizing node with
  | nil => exact ⟨node, rfl, typed⟩
  | cons entry rest ih =>
    obtain ⟨first, others⟩ := List.forall_mem_cons.mp combined
    obtain ⟨own, later⟩ := List.forall_mem_cons.mp each
    obtain ⟨next, typed, read⟩ := entry_decodes combines typed first own
    rw [read]
    exact ih typed others later

/-- What is neither null nor an object is no combination, and what is neither null nor a list is no
list of combinations. -/
private theorem decodes_of_shape (combines : Combines schema names inputs) {value : Json}
    (node : ∀ entries, value = .object entries →
      schema.Fits [⟨"cond", .named names.filter⟩, ⟨"and", listType names⟩, ⟨"or", listType names⟩]
        entries →
      ∃ node, ofJson? value = .ok node ∧ Throughout (Typed schema inputs) node)
    (children : ∀ items, value = .array items →
      (∀ item ∈ items, schema.conforms item (.nonNull (.named names.combinations)) = true) →
      ∃ children, childrenOfJson? value = .ok children ∧
        ∀ child ∈ children.getD [], Throughout (Typed schema inputs) child) :
    Decodes schema names inputs value where
  node fits given := by
    rcases conforms_inputObject combines.unreserved combines.combinations fits with
      null | ⟨entries, object, fitting⟩
    · exact (given null).elim
    · exact node entries object fitting
  children fits := by
    rcases conforms_list fits with rfl | ⟨items, list, fitting⟩
    · exact ⟨none, rfl, by simp⟩
    · exact children items list fitting

/-- Whatever conforms to the type of combinations is decoded, and its conditions are typed. -/
theorem combination_decodes (combines : Combines schema names inputs) (value : Json) :
    Decodes schema names inputs value := by
  induction value using Json.value_induction with
  | null | bool | number | string => exact decodes_of_shape combines nofun nofun
  | array items ih =>
    refine decodes_of_shape combines nofun fun same list fits => ?_
    cases list
    obtain ⟨nodes, read, typed⟩ := nodes_decode fits ih
    exact ⟨some nodes, by simp [childrenOfJson?, read], typed⟩
  | object entries ih =>
    refine decodes_of_shape combines (fun same object fits => ?_) nofun
    cases object
    have nothing : Throughout (Typed schema inputs) empty :=
      throughout_iff.mpr ⟨by simp, by simp, by simp⟩
    have combined : ∀ entry ∈ entries, Combined schema names entry := by
      intro entry member
      obtain ⟨input, listed, same, conforming⟩ := fits.input_of member
      simp only [List.mem_cons, List.not_mem_nil, or_false] at listed
      rcases listed with rfl | rfl | rfl
      · exact .inl ⟨same.symm, conforming⟩
      · exact .inr ⟨.inl same.symm, conforming⟩
      · exact .inr ⟨.inr same.symm, conforming⟩
    obtain ⟨node, read, typed⟩ := entries_decode combines nothing combined ih
    exact ⟨node, by rw [ofJson?, read], typed⟩

end TypedSearch.FilterNode
