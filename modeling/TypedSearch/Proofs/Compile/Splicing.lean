import TypedSearch.Proofs.Compile.Interpretation
import TypedSearch.Proofs.Compile.Scheme
import TypedSearch.Proofs.Search.Clauses

/-!
Conjunctions spliced into conjunctions. A document is tested clause by clause up to the first that it
fails or that is in error, inside a conjunction as well as beside it, so no test can tell a conjunction
from its clauses. Hence the queries of a compiler that leaves every conjunction where it was made
answer like those of the compiler that splices them.
-/

namespace TypedSearch

open Matcher Outcome

variable {view : MappingView}

namespace Compiled

/-- The clauses that a node adds to a conjunction it stands in if nothing is spliced. -/
def kept : Compiled → List Json
  | vacuous => []
  | query clause => [clause]

/-- A compiled node is tested by testing its clauses. -/
theorem test_ofClauses (view : MappingView) (clauses : List Json) (document : Json) :
    test view (ofClauses clauses).toQuery document = all document (tests view clauses) := by
  cases clauses with
  | nil => rfl
  | cons clause rest => exact test_conjunction view (clause :: rest) document

end Compiled

/-- A conjunction among clauses is tested like its own clauses in its place. -/
theorem all_spliced (view : MappingView) (document : Json) (before clauses after : List Json) :
    all document (tests view (before ++ [Clause.conjunction clauses] ++ after)) =
      all document (tests view (before ++ clauses ++ after)) := by
  have one : all document (tests view [Clause.conjunction clauses]) =
      all document (tests view clauses) :=
    (all_singleton document _).trans (test_conjunction view clauses document)
  rw [tests_append, tests_append, all_append, all_append, one, tests_append, tests_append,
    all_append, all_append]

/-- Two lists of clauses, both empty or neither, are tested alike. -/
def TestedAlike (view : MappingView) (left right : List Json) : Prop :=
  (left = [] ↔ right = []) ∧
    ∀ document, all document (tests view left) = all document (tests view right)

namespace TestedAlike

theorem refl (view : MappingView) (clauses : List Json) : TestedAlike view clauses clauses :=
  ⟨Iff.rfl, fun _ => rfl⟩

theorem append {left right others more : List Json} (first : TestedAlike view left right)
    (second : TestedAlike view others more) :
    TestedAlike view (left ++ others) (right ++ more) := by
  refine ⟨?_, fun document => ?_⟩
  · rw [List.append_eq_nil_iff, List.append_eq_nil_iff, first.1, second.1]
  · rw [tests_append, tests_append, all_append, all_append, first.2, second.2]

/-- A node that is kept in one piece is tested like the clauses it was made of. -/
theorem kept {left right : List Json} (clauses : TestedAlike view left right) :
    TestedAlike view (Compiled.ofClauses left).kept right := by
  cases left with
  | nil => exact clauses
  | cons clause rest =>
    have nonempty : right ≠ [] := fun none => List.cons_ne_nil clause rest (clauses.1.mpr none)
    refine ⟨iff_of_false (List.cons_ne_nil _ _) nonempty, fun document => ?_⟩
    have spliced := all_spliced view document [] (clause :: rest) []
    simp only [List.nil_append, List.append_nil] at spliced
    exact spliced.trans (clauses.2 document)

/-- A choice between the same tests is the same test. -/
theorem disjunction {left right : List Json} (same : tests view left = tests view right) :
    TestedAlike view [Clause.disjunction left] [Clause.disjunction right] := by
  refine ⟨by simp, fun document => ?_⟩
  rw [tests, tests, tests, tests, all_singleton, all_singleton]
  rw [tests_eq_map, tests_eq_map] at same
  cases left with
  | nil =>
    have none : right = [] := List.map_eq_nil_iff.mp same.symm
    rw [none]
  | cons clause rest =>
    have nonempty : right ≠ [] := by
      rintro rfl
      cases same
    rw [test_disjunction view document (List.cons_ne_nil clause rest),
      test_disjunction view document nonempty, tests_eq_map, tests_eq_map, same]

end TestedAlike

namespace FilterNode

variable {conditions : ConditionCompiler} {nodes : List FilterNode}

/-- Two compiled nodes are made of clauses that are tested alike. -/
def NodesAlike (view : MappingView) (left right : Compiled) : Prop :=
  ∃ clauses others, left = .ofClauses clauses ∧ right = .ofClauses others ∧
    TestedAlike view clauses others

/-- With conjunctions kept and with conjunctions spliced a node compiles to what is tested alike, or is
refused for one reason. -/
def CompiledAlike (conditions : ConditionCompiler) (view : MappingView) (node : FilterNode) : Prop :=
  Alike (NodesAlike view) (node.compileWith conditions Compiled.kept)
    (node.compileWith conditions Compiled.spliced)

theorem conjuncts_alike (children : ∀ child ∈ nodes, child.CompiledAlike conditions view) :
    Alike (TestedAlike view) (compileConjunctsWith conditions Compiled.kept nodes)
      (compileConjunctsWith conditions Compiled.spliced nodes) := by
  induction nodes with
  | nil => exact .ok (.refl view [])
  | cons node rest ih =>
    obtain ⟨first, others⟩ := List.forall_mem_cons.mp children
    rw [compileConjunctsWith, compileConjunctsWith]
    apply Alike.bind first
    rintro _ _ ⟨clauses, spliced, rfl, rfl, same⟩
    apply Alike.bind (ih others)
    intro more moreSpliced sameRest
    rw [Compiled.spliced_ofClauses]
    exact .ok (same.kept.append sameRest)

/-- Alternatives become the same tests one by one, unless one of them is vacuous. -/
theorem alternatives_alike (children : ∀ child ∈ nodes, child.CompiledAlike conditions view) :
    Alike (Option.Rel fun left right => tests view left = tests view right)
      (compileAlternativesWith conditions Compiled.kept nodes)
      (compileAlternativesWith conditions Compiled.spliced nodes) := by
  induction nodes with
  | nil => exact .ok (.some rfl)
  | cons node rest ih =>
    obtain ⟨first, others⟩ := List.forall_mem_cons.mp children
    rw [compileAlternativesWith, compileAlternativesWith]
    apply Alike.bind first
    rintro _ _ ⟨clauses, spliced, rfl, rfl, empty, same⟩
    cases clauses with
    | nil =>
      -- Both compilers find the alternative vacuous and leave all of them out.
      rw [empty.mp rfl]
      exact .ok .none
    | cons clause more =>
      obtain ⟨head, tail, rfl⟩ := List.exists_cons_of_ne_nil
        fun none => List.cons_ne_nil clause more (empty.mpr none)
      have query : test view (Clause.conjunction (clause :: more)) =
          test view (Clause.conjunction (head :: tail)) := by
        funext document
        rw [test_conjunction, test_conjunction, same document]
      apply Alike.bind (ih others)
      intro queries queriesSpliced later
      cases later with
      | none => exact .ok .none
      | some sameRest => exact .ok (.some (by rw [tests, tests, query, sameRest]))

theorem choice_alike {any : Option (List FilterNode)}
    (children : ∀ child ∈ any.getD [], child.CompiledAlike conditions view) :
    Alike (fun left right => TestedAlike view left.toList right.toList)
      (compileAnyWith conditions Compiled.kept any)
      (compileAnyWith conditions Compiled.spliced any) := by
  match any with
  | none | some [] => exact .ok (.refl view [])
  | some (node :: rest) =>
    rw [compileAnyWith, compileAnyWith]
    apply Alike.bind (alternatives_alike children)
    intro queries queriesSpliced same
    cases same with
    | none => exact .ok (.refl view [])
    | some sameTests => exact .ok (.disjunction sameTests)

/-- Whether conjunctions are kept or spliced, a tree compiles to nodes that are tested alike, or is
refused for the same reason. -/
theorem node_alike (conditions : ConditionCompiler) (view : MappingView) (node : FilterNode) :
    node.CompiledAlike conditions view := by
  induction node using tree_induction with
  | node cond all any inAll inAny =>
    have conjuncts : Alike (TestedAlike view) (compileAllWith conditions Compiled.kept all)
        (compileAllWith conditions Compiled.spliced all) := by
      cases all with
      | none => exact .ok (.refl view [])
      | some nodes => exact conjuncts_alike inAll
    rw [CompiledAlike, compileWith, compileWith]
    cases conditions (cond.getD []) with
    | error problem => exact .error problem
    | ok own =>
      apply Alike.bind conjuncts
      intro kept spliced sameConjuncts
      apply Alike.bind (choice_alike inAny)
      intro choice choiceSpliced sameChoice
      have whole := ((TestedAlike.refl view own).append sameConjuncts).append sameChoice
      exact .ok ⟨_, _, rfl, rfl, whole⟩

end FilterNode

/-- A conjunction inside a conjunction gives the result, answer or error, that its clauses give in its
place. So the compiler gives the result of one that differs from it only in that it leaves a
conjunction in one piece wherever it splices it: the same problem, or a query with the same results
on every document. -/
theorem splicing_exact :
    (∀ (view : MappingView) (document : Json) (before clauses after : List Json),
      test view (Clause.conjunction (before ++ [Clause.conjunction clauses] ++ after)) document =
        test view (Clause.conjunction (before ++ clauses ++ after)) document) ∧
    ∀ (dataset : Dataset) (registry : Registry) (filter : Option FilterNode),
      dataset.compileFilterWith registry Compiled.spliced filter =
        dataset.compileFilter registry filter ∧
      ∀ (view : MappingView) (document : Json),
        (dataset.compileFilterWith registry Compiled.kept filter).map
            (fun query => test view query document) =
          (dataset.compileFilter registry filter).map fun query => test view query document := by
  refine ⟨fun view document before clauses after => ?_, fun dataset registry filter => ⟨?_, ?_⟩⟩
  · rw [test_conjunction, test_conjunction, all_spliced]
  · exact Dataset.compileFilterWith_spliced filter
  · intro view document
    rw [← Dataset.compileFilterWith_spliced]
    cases filter with
    | none => rfl
    | some node =>
      have queries : Alike (fun left right => test view left document = test view right document)
          (dataset.compileFilterWith registry Compiled.kept (some node))
          (dataset.compileFilterWith registry Compiled.spliced (some node)) := by
        apply Alike.bind (node.node_alike _ view)
        rintro _ _ ⟨clauses, others, rfl, rfl, -, same⟩
        refine .ok ?_
        rw [Compiled.test_ofClauses, Compiled.test_ofClauses, same document]
      exact queries.map_eq fun _ _ same => same

end TypedSearch
