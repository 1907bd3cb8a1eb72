import TypedSearch.Proofs.Compile.Interpretation
import TypedSearch.Proofs.Json.Value

/-!
Which filters are refused. A filter fails to compile exactly if some condition that the compiler gets
to does, and the compiler gets to every condition but those behind an alternative that turned out to
be vacuous.
-/

namespace TypedSearch

open Outcome FilterNode

namespace Dataset

variable {dataset : Dataset} {registry : Registry}

/-- A condition that asks something of a member has the clauses of the member. -/
theorem conditionClauses_asked {condition : String × Json} {member : Member}
    (asked : condition.2 ≠ .null) (found : dataset.member? condition.1 = some member) :
    dataset.conditionClauses registry condition =
      (member.filterClauses registry condition.2).map (·.getD []) := by
  simp only [conditionClauses, Json.isNull_eq_false asked, found]
  rfl

/-- A condition that is null or whose name leads nowhere has no clauses. -/
theorem conditionClauses_unasked {condition : String × Json}
    (unasked : condition.2 = .null ∨ dataset.member? condition.1 = none) :
    dataset.conditionClauses registry condition = .ok [] := by
  rcases unasked with null | unknown
  · simp [conditionClauses, null, Json.isNull]
  · simp [conditionClauses, unknown]

/-- What clauses a condition has it has from the member that it asks something of. -/
theorem conditionClauses_some_iff {condition : String × Json} {clauses : List Json}
    (nonempty : clauses ≠ []) :
    dataset.conditionClauses registry condition = .ok clauses ↔
      condition.2 ≠ .null ∧ ∃ member, dataset.member? condition.1 = some member ∧
        member.filterClauses registry condition.2 = .ok (some clauses) := by
  by_cases null : condition.2 = .null
  · rw [conditionClauses_unasked (.inl null)]
    simp [null, Ne.symm nonempty]
  cases found : dataset.member? condition.1 with
  | none =>
    rw [conditionClauses_unasked (.inr found)]
    simp [Ne.symm nonempty]
  | some member =>
    rw [conditionClauses_asked null found, map_getD_eq_ok nonempty]
    simp [null]

/-- A condition adds no clause. -/
def Idle (dataset : Dataset) (registry : Registry) (condition : String × Json) : Prop :=
  dataset.conditionClauses registry condition = .ok []

/-- Under the interpretation in which no clause holds, a condition is met just if it has no clauses. -/
theorem meets_nothing_iff {condition : String × Json} :
    dataset.Meets registry (fun _ => False) condition ↔ dataset.Idle registry condition := by
  constructor
  · rintro ⟨clauses, ran, none⟩
    cases clauses with
    | nil => exact ran
    | cons clause rest => exact (none clause List.mem_cons_self).elim
  · intro idle
    exact ⟨[], idle, by simp⟩

private theorem nothing_interpretation : Interpretation (fun _ => True) (fun _ => False) where
  conjunction clause _ := by
    obtain ⟨first, rest, rfl⟩ := List.exists_cons_of_ne_nil clause
    exact ⟨trivial, iff_of_false not_false fun none => none first List.mem_cons_self⟩
  disjunction _ _ := by simp

/-- A node that compiles is vacuous exactly if the conditions without clauses satisfy it. -/
theorem vacuous_iff {node : FilterNode} {compiled : Compiled}
    (ran : dataset.compileNode registry node = .ok compiled) :
    compiled = .vacuous ↔ Satisfied (dataset.Idle registry) node := by
  obtain ⟨clauses, rfl, meaning⟩ :=
    compiled_reads_as_tree nothing_interpretation (fun _ _ _ _ _ => trivial) node compiled ran
  rw [Compiled.ofClauses_eq_vacuous,
    ← satisfied_congr node (fun condition _ => meets_nothing_iff), ← meaning.exactly]
  cases clauses with
  | nil => simp
  | cons clause rest =>
    exact iff_of_false (List.cons_ne_nil clause rest) fun none => none clause List.mem_cons_self

theorem conditions_fail_iff {conditions : Json.Entries} :
    Fails (dataset.conditionsClauses registry conditions) ↔
      ∃ condition ∈ conditions, Fails (dataset.conditionClauses registry condition) := by
  induction conditions with
  | nil => simp [conditionsClauses]
  | cons condition rest ih =>
    rw [conditionsClauses]
    exact fails_cons (fun clauses others => clauses ++ others) ih

/-- The clauses of conditions are those of each condition. -/
theorem mem_conditionsClauses {conditions : Json.Entries} {clauses : List Json} {clause : Json}
    (ran : dataset.conditionsClauses registry conditions = .ok clauses) :
    clause ∈ clauses ↔ ∃ condition ∈ conditions, ∃ found,
      dataset.conditionClauses registry condition = .ok found ∧ clause ∈ found := by
  induction conditions generalizing clauses with
  | nil =>
    cases ran
    simp
  | cons condition rest ih =>
    rw [conditionsClauses] at ran
    obtain ⟨found, first, ran⟩ := bind_eq_ok.mp ran
    obtain ⟨others, ranRest, joined⟩ := bind_eq_ok.mp ran
    cases joined
    have own : (∃ other, dataset.conditionClauses registry condition = .ok other ∧
        clause ∈ other) ↔ clause ∈ found := by
      simp [first]
    simp only [List.mem_append, List.mem_cons, exists_eq_or_imp, own, ih ranRest]

/-- Conditions are all met just if they have clauses and all of these hold. -/
theorem all_meet_iff {holds : Json → Prop} {conditions : Json.Entries} :
    (∀ condition ∈ conditions, dataset.Meets registry holds condition) ↔
      ∃ clauses, dataset.conditionsClauses registry conditions = .ok clauses ∧
        ∀ clause ∈ clauses, holds clause := by
  constructor
  · intro each
    have runs : ¬ Fails (dataset.conditionsClauses registry conditions) := by
      rw [conditions_fail_iff]
      rintro ⟨condition, listed, fails⟩
      obtain ⟨found, ran, -⟩ := each condition listed
      rw [ran] at fails
      exact not_fails_ok _ fails
    obtain ⟨clauses, ran⟩ := not_fails_iff.mp runs
    refine ⟨clauses, ran, fun clause member => ?_⟩
    obtain ⟨condition, listed, found, own, inside⟩ := (mem_conditionsClauses ran).mp member
    obtain ⟨same, again, hold⟩ := each condition listed
    cases own.symm.trans again
    exact hold clause inside
  · rintro ⟨clauses, ran, hold⟩ condition listed
    have runs : ¬ Fails (dataset.conditionClauses registry condition) := by
      intro fails
      have whole := conditions_fail_iff.mpr ⟨condition, listed, fails⟩
      rw [ran] at whole
      exact not_fails_ok _ whole
    obtain ⟨found, own⟩ := not_fails_iff.mp runs
    exact ⟨found, own, fun clause inside =>
      hold clause ((mem_conditionsClauses ran).mpr ⟨condition, listed, found, own, inside⟩)⟩

theorem conjuncts_fail_iff {nodes : List FilterNode} :
    Fails (dataset.compileConjuncts registry nodes) ↔
      ∃ child ∈ nodes, Fails (dataset.compileNode registry child) := by
  induction nodes with
  | nil => simp [compileConjuncts]
  | cons node rest ih =>
    rw [compileConjuncts]
    exact fails_cons (fun compiled others => compiled.spliced ++ others) ih

/-- Alternatives fail with the first that fails, if no alternative before it is vacuous. -/
theorem alternatives_fail_iff {nodes : List FilterNode} :
    Fails (dataset.compileAlternatives registry nodes) ↔
      ∃ before node after, nodes = before ++ node :: after ∧
        (∀ sibling ∈ before, ¬ Satisfied (dataset.Idle registry) sibling) ∧
        Fails (dataset.compileNode registry node) := by
  induction nodes with
  | nil => simp [compileAlternatives]
  | cons node rest ih =>
    rw [compileAlternatives]
    cases ran : dataset.compileNode registry node with
    | error problem =>
      refine iff_of_true ⟨problem, rfl⟩ ⟨[], node, rest, rfl, by simp, problem, ran⟩
    | ok compiled =>
      have vacuous := vacuous_iff ran
      cases compiled with
      | vacuous =>
        -- The rest is not compiled, and no alternative of it counts as reached either.
        refine iff_of_false (not_fails_ok _) ?_
        rintro ⟨before, child, after, split, unsettled, fails⟩
        rcases List.cons_eq_append_iff.mp split with ⟨rfl, same⟩ | ⟨between, rfl, later⟩
        · cases same
          simp [ran] at fails
        · exact unsettled node List.mem_cons_self (vacuous.mp rfl)
      | query clause =>
        have unsettled : ¬ Satisfied (dataset.Idle registry) node := by
          simpa using vacuous
        simp only [ok_bind]
        rw [fails_return, ih]
        constructor
        · rintro ⟨before, child, after, rfl, others, fails⟩
          exact ⟨node :: before, child, after, rfl,
            List.forall_mem_cons.mpr ⟨unsettled, others⟩, fails⟩
        · rintro ⟨before, child, after, split, others, fails⟩
          rcases List.cons_eq_append_iff.mp split with ⟨rfl, same⟩ | ⟨between, rfl, later⟩
          · cases same
            simp [ran] at fails
          · exact ⟨between, child, after, later, (List.forall_mem_cons.mp others).2, fails⟩

theorem any_fails_iff {any : Option (List FilterNode)} :
    Fails (dataset.compileAny registry any) ↔
      Fails (dataset.compileAlternatives registry (any.getD [])) := by
  match any with
  | none | some [] => simp [compileAny, compileAlternatives]
  | some (node :: rest) =>
    rw [compileAny, fails_return, Option.getD_some]

/-- A node fails to compile if one of its three parts does. -/
theorem node_parts_fail_iff {cond : Option Json.Entries} {all any : Option (List FilterNode)} :
    Fails (dataset.compileNode registry ⟨cond, all, any⟩) ↔
      Fails (dataset.conditionsClauses registry (cond.getD [])) ∨
        Fails (dataset.compileConjuncts registry (all.getD [])) ∨
          Fails (dataset.compileAlternatives registry (any.getD [])) := by
  rw [compileNode, compileAll_eq, ← any_fails_iff]
  exact fails_seq fun conditions _ => fails_seq fun conjuncts _ =>
    fails_return fun alternatives : Option Json =>
      Compiled.ofClauses (conditions ++ conjuncts ++ alternatives.toList)

/-- A tree fails to compile exactly if a condition does that the compiler gets to. -/
theorem node_fails_iff (tree : FilterNode) :
    Fails (dataset.compileNode registry tree) ↔
      ∃ condition, Reaches (dataset.Idle registry) condition tree ∧
        Fails (dataset.conditionClauses registry condition) := by
  induction tree using FilterNode.tree_induction with
  | node cond all any inAll inAny =>
    rw [node_parts_fail_iff, conditions_fail_iff, conjuncts_fail_iff, alternatives_fail_iff]
    constructor
    · rintro (⟨condition, listed, fails⟩ | ⟨child, member, fails⟩ |
        ⟨before, node, after, split, unsettled, fails⟩)
      · exact ⟨condition, .own listed, fails⟩
      · obtain ⟨condition, reached, fails⟩ := (inAll child member).mp fails
        exact ⟨condition, .conjunct member reached, fails⟩
      · obtain ⟨condition, reached, fails⟩ := (inAny node (by simp [split])).mp fails
        exact ⟨condition, .alternative split unsettled reached, fails⟩
    · rintro ⟨condition, reached, fails⟩
      rcases reaches_iff.mp reached with listed | ⟨child, member, inside⟩ |
        ⟨before, node, after, split, unsettled, inside⟩
      · exact .inl ⟨condition, listed, fails⟩
      · exact .inr (.inl ⟨child, member, (inAll child member).mpr ⟨condition, inside, fails⟩⟩)
      · exact .inr (.inr ⟨before, node, after, split, unsettled,
          (inAny node (by simp [split])).mpr ⟨condition, inside, fails⟩⟩)

end Dataset

end TypedSearch
