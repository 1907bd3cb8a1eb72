import TypedSearch.Compile.Filter
import TypedSearch.Proofs.Outcome
import TypedSearch.Proofs.Request.Tree

/-!
Filters with one condition more. A condition of which no clauses are made leaves the query of a filter
as it is, wherever it is added; at most it stops the compiler with the problem that it has by itself.
-/

namespace TypedSearch.Dataset

open FilterNode Outcome

variable {dataset : Dataset} {registry : Registry} {condition : String × Json}

/-- No clauses are made of a condition, though it may be refused. -/
def Silent (dataset : Dataset) (registry : Registry) (condition : String × Json) : Prop :=
  ∀ clauses, dataset.conditionClauses registry condition = .ok clauses → clauses = []

/-- A problem is the one that a condition has. -/
def Refused (dataset : Dataset) (registry : Registry) (condition : String × Json)
    (problem : Problem) : Prop :=
  dataset.conditionClauses registry condition = .error problem

theorem conditions_extended (silent : dataset.Silent registry condition)
    (before after : Json.Entries) :
    SameUnless (dataset.Refused registry condition)
      (dataset.conditionsClauses registry (before ++ after))
      (dataset.conditionsClauses registry (before ++ condition :: after)) := by
  induction before with
  | nil =>
    rw [List.nil_append, List.nil_append, conditionsClauses]
    cases ran : dataset.conditionClauses registry condition with
    | error problem => exact .inr ⟨problem, ran, rfl⟩
    | ok clauses =>
      have empty : clauses = [] := silent clauses ran
      subst empty
      left
      simp only [ok_bind, List.nil_append, bind_pure]
  | cons first rest ih =>
    rw [List.cons_append, List.cons_append, conditionsClauses, conditionsClauses]
    apply SameUnless.bind (.refl _)
    intro clauses
    apply SameUnless.bind ih
    intro others
    exact .refl _

section Child

variable {node extended : FilterNode}

theorem conjuncts_extended
    (child : SameUnless (dataset.Refused registry condition) (dataset.compileNode registry node)
      (dataset.compileNode registry extended)) (before after : List FilterNode) :
    SameUnless (dataset.Refused registry condition)
      (dataset.compileConjuncts registry (before ++ node :: after))
      (dataset.compileConjuncts registry (before ++ extended :: after)) := by
  induction before with
  | nil =>
    rw [List.nil_append, List.nil_append, compileConjuncts, compileConjuncts]
    exact child.bind fun compiled => .refl _
  | cons first rest ih =>
    rw [List.cons_append, List.cons_append, compileConjuncts, compileConjuncts]
    apply SameUnless.bind (.refl _)
    intro compiled
    exact ih.bind fun others => .refl _

theorem alternatives_extended
    (child : SameUnless (dataset.Refused registry condition) (dataset.compileNode registry node)
      (dataset.compileNode registry extended)) (before after : List FilterNode) :
    SameUnless (dataset.Refused registry condition)
      (dataset.compileAlternatives registry (before ++ node :: after))
      (dataset.compileAlternatives registry (before ++ extended :: after)) := by
  induction before with
  | nil =>
    rw [List.nil_append, List.nil_append, compileAlternatives, compileAlternatives]
    exact child.bind fun compiled => .refl _
  | cons first rest ih =>
    rw [List.cons_append, List.cons_append, compileAlternatives, compileAlternatives]
    apply SameUnless.bind (.refl _)
    intro compiled
    cases compiled with
    | vacuous => exact .refl _
    | query clause => exact ih.bind fun others => .refl _

theorem compileAny_of_ne_nil {nodes : List FilterNode} (choice : nodes ≠ []) :
    dataset.compileAny registry (some nodes) =
      do return (← dataset.compileAlternatives registry nodes).map Clause.disjunction := by
  cases nodes with
  | nil => exact (choice rfl).elim
  | cons node rest => rw [compileAny]

theorem any_extended
    (child : SameUnless (dataset.Refused registry condition) (dataset.compileNode registry node)
      (dataset.compileNode registry extended)) (before after : List FilterNode) :
    SameUnless (dataset.Refused registry condition)
      (dataset.compileAny registry (some (before ++ node :: after)))
      (dataset.compileAny registry (some (before ++ extended :: after))) := by
  rw [compileAny_of_ne_nil (by simp), compileAny_of_ne_nil (by simp)]
  exact (alternatives_extended child before after).bind fun queries => .refl _

end Child

/-- Adding a condition without clauses leaves what a tree compiles to as it is, unless the condition
is refused and the compiler stops at it. -/
theorem node_extended (silent : dataset.Silent registry condition) {tree extended : FilterNode}
    (addition : Extends condition tree extended) :
    SameUnless (dataset.Refused registry condition) (dataset.compileNode registry tree)
      (dataset.compileNode registry extended) := by
  induction addition with
  | @own cond all any before after split fresh =>
    rw [compileNode, compileNode, split, Option.getD_some]
    exact (conditions_extended silent before after).bind fun conditions => .refl _
  | @conjunct cond any before after node extended inside ih =>
    rw [compileNode, compileNode, compileAll, compileAll]
    apply SameUnless.bind (.refl _)
    intro conditions
    exact (conjuncts_extended ih before after).bind fun conjuncts => .refl _
  | @alternative cond all before after node extended inside ih =>
    rw [compileNode, compileNode]
    apply SameUnless.bind (.refl _)
    intro conditions
    apply SameUnless.bind (.refl _)
    intro conjuncts
    exact (any_extended ih before after).bind fun alternatives => .refl _

theorem filter_extended (silent : dataset.Silent registry condition) {tree extended : FilterNode}
    (addition : Extends condition tree extended) :
    SameUnless (dataset.Refused registry condition)
      (dataset.compileFilter registry (some tree)) (dataset.compileFilter registry (some extended)) :=
  (node_extended silent addition).bind fun _ => .refl _

end TypedSearch.Dataset
