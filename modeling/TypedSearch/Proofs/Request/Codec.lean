import TypedSearch.Proofs.Json.Value
import TypedSearch.Proofs.Request.Tree
import TypedSearch.Request.Arguments

/-!
Requests read back from their values. A part that is absent is left out or written as null, and one that
is empty is written as such, so the readers tell the two apart in every node of a filter, however deep
it is.
-/

namespace TypedSearch

open Outcome

namespace FilterNode

variable {cond : Option Json.Entries} {all any : Option (List FilterNode)} {rest : Json.Entries}

/-- The conditions that a node is written with are read, and none are if they are absent. -/
theorem ofEntries_cond :
    ofEntries empty ((cond.map fun entries => ("cond", Json.object entries)).toList ++ rest) =
      ofEntries ⟨cond, none, none⟩ rest := by
  cases cond with
  | none => rfl
  | some entries => rfl

theorem childrenOfJson?_written {nodes : List FilterNode}
    (back : ∀ node ∈ nodes, ofJson? node.toJson = .ok node) :
    childrenOfJson? (.array (nodesToJson nodes)) = .ok (some nodes) := by
  have items : nodesOfJson? (nodesToJson nodes) = .ok nodes := by
    induction nodes with
    | nil => rfl
    | cons node rest ih =>
      obtain ⟨first, others⟩ := List.forall_mem_cons.mp back
      rw [nodesToJson, nodesOfJson?, first, ok_bind, ih others]
      rfl
  rw [childrenOfJson?, items]
  rfl

/-- The nodes that must all hold are read after the conditions, if each is read back. -/
theorem ofEntries_all (back : ∀ child ∈ all.getD [], ofJson? child.toJson = .ok child) :
    ofEntries ⟨cond, none, none⟩ (childrenToJson "and" all ++ rest) =
      ofEntries ⟨cond, all, none⟩ rest := by
  cases all with
  | none => rfl
  | some nodes =>
    have read : childrenOfJson? (.array (nodesToJson nodes)) = .ok (some nodes) :=
      childrenOfJson?_written back
    simp [childrenToJson, ofEntries, read, FilterNode.cond, FilterNode.any]

/-- The alternatives are read last. -/
theorem ofEntries_any (back : ∀ child ∈ any.getD [], ofJson? child.toJson = .ok child) :
    ofEntries ⟨cond, all, none⟩ (childrenToJson "or" any) = .ok ⟨cond, all, any⟩ := by
  cases any with
  | none => rfl
  | some nodes =>
    have read : childrenOfJson? (.array (nodesToJson nodes)) = .ok (some nodes) :=
      childrenOfJson?_written back
    simp [childrenToJson, ofEntries, read, FilterNode.cond, FilterNode.all]

/-- A tree is read back from its value. -/
theorem ofJson?_toJson (node : FilterNode) : ofJson? node.toJson = .ok node := by
  induction node using tree_induction with
  | node cond all any inAll inAny =>
    rw [toJson, ofJson?, List.append_assoc, ofEntries_cond, ofEntries_all inAll,
      ofEntries_any inAny]

theorem toJson_ne_null (node : FilterNode) : node.toJson ≠ .null := by
  obtain ⟨cond, all, any⟩ := node
  nofun

end FilterNode

namespace DatasetArguments

theorem ofJson?_toJson (arguments : DatasetArguments) :
    ofJson? arguments.toJson = .ok arguments := by
  obtain ⟨filter, order⟩ := arguments
  have orders (orders : List Json.Entries) :
      Json.toList Json.toEntries (.array (orders.map .object)) = .ok orders :=
    Json.toList_written fun _ _ => rfl
  have readFilter := Json.toOption_written filter FilterNode.ofJson?_toJson
    FilterNode.toJson_ne_null
  have readOrder := Json.toOption_written order orders nofun
  simp [toJson, ofJson?, readPart, readFilter, readOrder]

theorem ofClient_toJson (arguments : DatasetArguments) :
    ofClient arguments.toJson = .ok arguments := by
  rw [ofClient, ofJson?_toJson]
  rfl

end DatasetArguments

namespace SearchRequest

theorem ofJson?_toJson (request : SearchRequest) : ofJson? request.toJson = .ok request := by
  obtain ⟨query, sort⟩ := request
  cases sort with
  | none => rfl
  | some clauses =>
    have listed := Json.toList_written fun (clause : Json) (_ : clause ∈ clauses) =>
      (rfl : Except.ok (id clause) = .ok clause)
    rw [List.map_id] at listed
    have read : sortOfJson? (.array clauses) = .ok (some clauses) := by
      rw [sortOfJson?, Json.toOption_given (by simp), listed]
      rfl
    simp [toJson, ofJson?, readPart, read]

/-- The body that a backend is sent is the value of the request. -/
theorem body_eq_toJson (request : SearchRequest) : request.body = request.toJson := by
  obtain ⟨query, sort⟩ := request
  cases sort with
  | none => rfl
  | some clauses => rfl

end SearchRequest

/-- Filters, arguments and search requests are read back from their values, whichever of their parts are
absent, empty or filled, and what a backend is sent is the value of the request. -/
theorem requests_read_back :
    (∀ node : FilterNode, FilterNode.ofJson? node.toJson = .ok node) ∧
    (∀ arguments : DatasetArguments,
      DatasetArguments.ofJson? arguments.toJson = .ok arguments ∧
        DatasetArguments.ofClient arguments.toJson = .ok arguments) ∧
    ∀ request : SearchRequest,
      SearchRequest.ofJson? request.toJson = .ok request ∧ request.body = request.toJson :=
  ⟨FilterNode.ofJson?_toJson, fun arguments => ⟨arguments.ofJson?_toJson, arguments.ofClient_toJson⟩,
    fun request => ⟨request.ofJson?_toJson, request.body_eq_toJson⟩⟩

end TypedSearch
