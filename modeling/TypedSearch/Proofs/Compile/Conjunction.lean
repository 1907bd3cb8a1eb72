import TypedSearch.Proofs.Compile.Interpretation

/-!
Nodes put together by conjunction. Whatever hooks made them, the clauses of a node come back out of the
query that it compiles to, so a node among those that must hold adds these clauses and nothing else.
Hence conjunctions compose as lists do, in what they compile to and in the problem that stops them.
-/

namespace TypedSearch

open Outcome

/-- The node that asks for all of a list of nodes. -/
def FilterNode.conjunction (nodes : List FilterNode) : FilterNode := ⟨none, some nodes, none⟩

namespace Dataset

variable {dataset : Dataset} {registry : Registry}

/-- The clauses of a node in order: those of its conditions, those of the nodes that must hold, and the
disjunction of its alternatives if there is one. -/
def nodeClauses (dataset : Dataset) (registry : Registry) :
    FilterNode → Except Problem (List Json)
  | ⟨cond, all, any⟩ =>
    joined
      (joined (dataset.conditionsClauses registry (cond.getD []))
        (dataset.compileConjuncts registry (all.getD [])))
      ((dataset.compileAny registry any).map Option.toList)

/-- A node compiles to the conjunction of its clauses, or is vacuous if it has none. -/
theorem compileNode_eq (node : FilterNode) :
    dataset.compileNode registry node = (dataset.nodeClauses registry node).map .ofClauses := by
  obtain ⟨cond, all, any⟩ := node
  rw [compileNode, nodeClauses, compileAll_eq]
  cases dataset.conditionsClauses registry (cond.getD []) with
  | error problem => rfl
  | ok conditions =>
    cases dataset.compileConjuncts registry (all.getD []) with
    | error problem => rfl
    | ok conjuncts => cases dataset.compileAny registry any <;> rfl

/-- A node that must hold adds its clauses. These are all of its query, and a query among them that is
itself a conjunction is left in one piece. -/
theorem compileConjuncts_cons (node : FilterNode) (rest : List FilterNode) :
    dataset.compileConjuncts registry (node :: rest) =
      joined (dataset.nodeClauses registry node) (dataset.compileConjuncts registry rest) := by
  rw [compileConjuncts, compileNode_eq]
  cases dataset.nodeClauses registry node with
  | error problem => rfl
  | ok clauses => simp only [Except.map, ok_bind, Compiled.spliced_ofClauses, joined]

theorem compileConjuncts_singleton (node : FilterNode) :
    dataset.compileConjuncts registry [node] = dataset.nodeClauses registry node := by
  rw [compileConjuncts_cons, compileConjuncts, joined_nil]

theorem compileConjuncts_append (nodes others : List FilterNode) :
    dataset.compileConjuncts registry (nodes ++ others) =
      joined (dataset.compileConjuncts registry nodes)
        (dataset.compileConjuncts registry others) := by
  induction nodes with
  | nil => rw [List.nil_append, compileConjuncts, nil_joined]
  | cons node rest ih =>
    rw [List.cons_append, compileConjuncts_cons, compileConjuncts_cons, ih, joined_assoc]

/-- Nodes that compile to the same clauses are the same inside a conjunction. -/
theorem compileConjuncts_replace {nodes others : List FilterNode} (before after : List FilterNode)
    (same : dataset.compileConjuncts registry nodes = dataset.compileConjuncts registry others) :
    dataset.compileConjuncts registry (before ++ nodes ++ after) =
      dataset.compileConjuncts registry (before ++ others ++ after) := by
  simp only [compileConjuncts_append, same]

/-- A node with conditions only has their clauses. -/
theorem nodeClauses_conditions (cond : Option Json.Entries) :
    dataset.nodeClauses registry ⟨cond, none, none⟩ =
      dataset.conditionsClauses registry (cond.getD []) := by
  rw [nodeClauses, Option.getD_none, compileConjuncts, joined_nil]
  exact joined_nil _

/-- The clauses of a conjunction are those of its nodes. -/
theorem nodeClauses_conjunction (nodes : List FilterNode) :
    dataset.nodeClauses registry (.conjunction nodes) =
      dataset.compileConjuncts registry nodes := by
  rw [FilterNode.conjunction, nodeClauses, Option.getD_none, conditionsClauses, nil_joined]
  exact joined_nil _

/-- A node with alternatives only has the disjunction of them. -/
theorem nodeClauses_alternatives (any : Option (List FilterNode)) :
    dataset.nodeClauses registry ⟨none, none, any⟩ =
      (dataset.compileAny registry any).map Option.toList := by
  rw [nodeClauses, Option.getD_none, Option.getD_none, conditionsClauses, compileConjuncts,
    nil_joined, nil_joined]

/-- The parts of a node may as well be nodes of their own that must all hold. -/
theorem nodeClauses_parts (cond : Option Json.Entries) (all any : Option (List FilterNode)) :
    dataset.nodeClauses registry ⟨cond, all, any⟩ =
      dataset.compileConjuncts registry
        ([⟨cond, none, none⟩] ++ all.getD [] ++ [⟨none, none, any⟩]) := by
  rw [compileConjuncts_append, compileConjuncts_append, compileConjuncts_singleton,
    compileConjuncts_singleton, nodeClauses_conditions, nodeClauses_alternatives, nodeClauses]

end Dataset

open FilterNode in
/-- Conjunctions compose at the level of what is compiled, be it a result or a problem: one node alone
is itself, a conjunction inside is its nodes in its place, a node without parts may be left out, and a
node is the conjunction of its parts. -/
theorem conjunction_composes (dataset : Dataset) (registry : Registry) :
    (∀ node, dataset.compileNode registry (conjunction [node]) =
      dataset.compileNode registry node) ∧
    (∀ before nodes after,
      dataset.compileNode registry (conjunction (before ++ [conjunction nodes] ++ after)) =
        dataset.compileNode registry (conjunction (before ++ nodes ++ after))) ∧
    (∀ before after,
      dataset.compileNode registry (conjunction (before ++ [empty] ++ after)) =
        dataset.compileNode registry (conjunction (before ++ after))) ∧
    ∀ cond all any,
      dataset.compileNode registry ⟨cond, all, any⟩ =
        dataset.compileNode registry
          (conjunction ([⟨cond, none, none⟩] ++ all.getD [] ++ [⟨none, none, any⟩])) := by
  simp only [Dataset.compileNode_eq, Dataset.nodeClauses_conjunction]
  refine ⟨fun node => ?_, fun before nodes after => ?_, fun before after => ?_,
    fun cond all any => ?_⟩
  · rw [Dataset.compileConjuncts_singleton]
  · have nested : dataset.compileConjuncts registry [conjunction nodes] =
        dataset.compileConjuncts registry nodes := by
      rw [Dataset.compileConjuncts_singleton, Dataset.nodeClauses_conjunction]
    rw [Dataset.compileConjuncts_replace before after nested]
  · have nothing : dataset.compileConjuncts registry [empty] =
        dataset.compileConjuncts registry [] := by
      rw [Dataset.compileConjuncts_singleton, empty, Dataset.nodeClauses_conditions]
      rfl
    rw [Dataset.compileConjuncts_replace before after nothing, List.append_nil]
  · rw [Dataset.nodeClauses_parts]

end TypedSearch
