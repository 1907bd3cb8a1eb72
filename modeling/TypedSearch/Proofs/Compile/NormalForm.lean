import TypedSearch.Proofs.Catalog.Requests
import TypedSearch.Proofs.Compile.Conjunction
import TypedSearch.Proofs.Handler.FilterClauses

/-!
The form of compiled queries. A query is a conjunction whose clauses ask something of one field, are
scripts or negations of scripts, or choose between further queries. So every clause stands in filter
context, no list of clauses is empty, and no conjunction stands directly in another one.
-/

namespace TypedSearch

open Matcher Outcome

mutual

/-- Queries in normal form: conjunctions of at least one clause. -/
inductive NormalQuery : Json → Prop where
  | conjunction {clauses : List Json} (nonempty : clauses ≠ [])
      (each : ∀ clause ∈ clauses, NormalClause clause) : NormalQuery (Clause.conjunction clauses)

/-- The clauses of queries in normal form: clauses on single fields, scripts, negations of one script,
and choices between at least one query. -/
inductive NormalClause : Json → Prop where
  | leaf {clause : Json} (asked : LeafClause clause) : NormalClause clause
  | script (source : String) (arguments : Json.Entries) :
      NormalClause (Clause.scriptQuery (Clause.script source arguments))
  | negation (source : String) (arguments : Json.Entries) :
      NormalClause (Clause.negation [Clause.scriptQuery (Clause.script source arguments)])
  | disjunction {queries : List Json} (nonempty : queries ≠ [])
      (each : ∀ query ∈ queries, NormalQuery query) : NormalClause (Clause.disjunction queries)

end

/-- A body is that of a Boolean query inside a query, at whatever depth and under whichever key. -/
inductive HasBoolean (body : Json) : Json → Prop where
  | here : HasBoolean body (.single "bool" body)
  | inside {entries : Json.Entries} {key : String} {clauses : List Json} {clause : Json}
      (listed : (key, .array clauses) ∈ entries) (member : clause ∈ clauses)
      (inner : HasBoolean body clause) : HasBoolean body (.single "bool" (.object entries))

/-- The body of a Boolean query has one key, which is not the scoring one, with at least one clause.
Under the key of conjunctions no clause is itself nothing but a conjunction. -/
def FlatBoolean (body : Json) : Prop :=
  ∃ key clauses, body = .single key (.array clauses) ∧ key ∈ ["filter", "should", "must_not"] ∧
    clauses ≠ [] ∧
    (key = "filter" → ∀ clause ∈ clauses, Clause.conjunctionClauses? clause = none)

theorem NormalQuery.ne_matchAll {query : Json} (normal : NormalQuery query) :
    query ≠ Clause.matchAll := by
  cases normal with
  | conjunction nonempty each => simp [Clause.conjunction, Clause.matchAll, Json.single]

/-- A clause in normal form is no conjunction that could be spliced. -/
theorem NormalClause.not_conjunction {clause : Json} (normal : NormalClause clause) :
    Clause.conjunctionClauses? clause = none := by
  cases normal with
  | leaf asked => cases asked <;> rfl
  | script source arguments => rfl
  | negation source arguments => rfl
  | disjunction nonempty each => rfl

/-- A clause on one field is no Boolean query. -/
theorem not_leaf_boolean {body : Json} : ¬ LeafClause (.single "bool" body) := by
  generalize boolean : Json.single "bool" body = clause
  intro asked
  cases asked <;>
    simp [Json.single, Clause.term, Clause.range, Clause.matchText, Clause.wildcard] at boolean

/-- A Boolean query in normal form is flat, and what it has for clauses is in normal form again. -/
theorem flat_boolean {body : Json}
    (normal : NormalQuery (.single "bool" body) ∨ NormalClause (.single "bool" body)) :
    FlatBoolean body ∧ ∀ entries, body = .object entries → ∀ key clauses,
      (key, .array clauses) ∈ entries →
        ∀ clause ∈ clauses, NormalQuery clause ∨ NormalClause clause := by
  -- All forms have one entry, so what holds of its clauses holds of those under any key.
  suffices shape : ∃ key clauses, body = .single key (.array clauses) ∧
      key ∈ ["filter", "should", "must_not"] ∧ clauses ≠ [] ∧
      (key = "filter" → ∀ clause ∈ clauses, Clause.conjunctionClauses? clause = none) ∧
      ∀ clause ∈ clauses, NormalQuery clause ∨ NormalClause clause by
    obtain ⟨key, clauses, rfl, known, nonempty, unspliced, each⟩ := shape
    refine ⟨⟨key, clauses, rfl, known, nonempty, unspliced⟩, ?_⟩
    intro entries same other found listed
    cases same
    cases List.mem_singleton.mp listed
    exact each
  generalize boolean : Json.single "bool" body = query at normal
  rcases normal with normal | normal
  · cases normal with
    | @conjunction clauses nonempty each =>
      cases boolean
      exact ⟨_, clauses, rfl, by simp, nonempty, fun _ clause member =>
        (each clause member).not_conjunction, fun clause member => .inr (each clause member)⟩
  · cases normal with
    | leaf asked =>
      subst boolean
      exact (not_leaf_boolean asked).elim
    | script source arguments => simp [Json.single, Clause.scriptQuery] at boolean
    | negation source arguments =>
      cases boolean
      refine ⟨_, _, rfl, by simp, List.cons_ne_nil _ _, fun scripted => ?_, ?_⟩
      · simp at scripted
      · intro clause member
        cases List.mem_singleton.mp member
        exact .inr (.script source arguments)
    | @disjunction queries nonempty each =>
      cases boolean
      refine ⟨_, queries, rfl, by simp, nonempty, fun chosen => ?_, ?_⟩
      · simp at chosen
      · exact fun query member => .inl (each query member)

/-- Whatever Boolean query occurs in a query or a clause in normal form is flat. -/
theorem flat_of_normal {query body : Json} (inside : HasBoolean body query)
    (normal : NormalQuery query ∨ NormalClause query) : FlatBoolean body := by
  induction inside with
  | here => exact (flat_boolean normal).1
  | inside listed member inner ih =>
    exact ih ((flat_boolean normal).2 _ rfl _ _ listed _ member)

namespace Dataset

variable {dataset : Dataset} {condition : String × Json} {clauses : List Json}

/-- The clauses of a condition on a stored field ask something of one field, and those of a condition
on a scripted one are its script or the negation of it. -/
theorem condition_clause_cases (scripted : dataset.IsScripted)
    (ran : dataset.conditionClauses .standard condition = .ok clauses) {clause : Json}
    (inside : clause ∈ clauses) :
    LeafClause clause ∨ ∃ source arguments,
      clause = Clause.scriptQuery (Clause.script source arguments) ∨
        clause = Clause.negation [Clause.scriptQuery (Clause.script source arguments)] := by
  obtain ⟨-, member, found, answered⟩ :=
    (conditionClauses_some_iff (List.ne_nil_of_mem inside)).mp ran
  obtain ⟨listed, -⟩ := mem_of_member? found
  have script := members_scripted scripted member listed
  cases member with
  | stored field => exact .inl (standard_filter_leaf field.type answered inside)
  | computed name field =>
    rcases ComputedField.scripted_filter script with ⟨-, nothing⟩ | ⟨-, source, hook⟩
    · rw [Member.filterClauses, nothing] at answered
      cases answered
    · rw [Member.filterClauses, hook] at answered
      exact .inr ⟨source, ComputedField.scriptFilter_clauses answered inside⟩

theorem condition_normal (scripted : dataset.IsScripted)
    (ran : dataset.conditionClauses .standard condition = .ok clauses) :
    ∀ clause ∈ clauses, NormalClause clause := by
  intro clause inside
  rcases condition_clause_cases scripted ran inside with leaf | ⟨source, arguments, rfl | rfl⟩
  · exact .leaf leaf
  · exact .script source arguments
  · exact .negation source arguments

/-- A node has clauses in normal form only. -/
def NormalNode (dataset : Dataset) (node : FilterNode) : Prop :=
  ∀ clauses, dataset.nodeClauses .standard node = .ok clauses →
    ∀ clause ∈ clauses, NormalClause clause

/-- A node whose clauses are in normal form compiles to a query in normal form, if it is not vacuous. -/
theorem NormalNode.query {node : FilterNode} (normal : dataset.NormalNode node) {query : Json}
    (ran : dataset.compileNode .standard node = .ok (.query query)) : NormalQuery query := by
  rw [compileNode_eq] at ran
  obtain ⟨clauses, own, compiled⟩ := map_eq_ok.mp ran
  cases clauses with
  | nil => cases compiled
  | cons clause rest =>
    cases compiled
    exact .conjunction (List.cons_ne_nil clause rest) (normal _ own)

section Parts

variable {nodes : List FilterNode} (children : ∀ child ∈ nodes, dataset.NormalNode child)

include children

theorem conjuncts_normal (ran : dataset.compileConjuncts .standard nodes = .ok clauses) :
    ∀ clause ∈ clauses, NormalClause clause := by
  induction nodes generalizing clauses with
  | nil =>
    cases ran
    simp
  | cons node rest ih =>
    obtain ⟨first, others⟩ := List.forall_mem_cons.mp children
    rw [compileConjuncts_cons] at ran
    obtain ⟨own, more, ranOwn, ranRest, rfl⟩ := joined_eq_ok.mp ran
    exact List.forall_mem_append.mpr ⟨first own ranOwn, ih others ranRest⟩

/-- Alternatives that are not vacuous become one query each. -/
theorem alternatives_normal {queries : List Json}
    (ran : dataset.compileAlternatives .standard nodes = .ok (some queries)) :
    queries.length = nodes.length ∧ ∀ query ∈ queries, NormalQuery query := by
  induction nodes generalizing queries with
  | nil =>
    cases ran
    simp
  | cons node rest ih =>
    obtain ⟨first, others⟩ := List.forall_mem_cons.mp children
    rw [compileAlternatives] at ran
    obtain ⟨compiled, ranFirst, ran⟩ := bind_eq_ok.mp ran
    cases compiled with
    | vacuous => cases ran
    | query query =>
      obtain ⟨later, ranRest, same⟩ := bind_eq_ok.mp ran
      obtain ⟨more, rfl, rfl⟩ := Option.map_eq_some_iff.mp (Except.ok.inj same)
      obtain ⟨length, each⟩ := ih others ranRest
      exact ⟨by simp [length], List.forall_mem_cons.mpr ⟨first.query ranFirst, each⟩⟩

end Parts

theorem choice_normal {any : Option (List FilterNode)}
    (children : ∀ child ∈ any.getD [], dataset.NormalNode child) {choice : Option Json}
    (ran : dataset.compileAny .standard any = .ok choice) :
    ∀ clause ∈ choice.toList, NormalClause clause := by
  match any with
  | none | some [] =>
    cases ran
    simp
  | some (node :: rest) =>
    rw [compileAny] at ran
    obtain ⟨queries, ranQueries, same⟩ := bind_eq_ok.mp ran
    cases same
    cases queries with
    | none => simp
    | some queries =>
      obtain ⟨length, each⟩ := alternatives_normal children ranQueries
      have nonempty : queries ≠ [] := by
        rintro rfl
        simp at length
      intro clause member
      cases List.mem_singleton.mp member
      exact .disjunction nonempty each

/-- Every filter tree on stored and on scripted fields has clauses in normal form only. -/
theorem node_normal (scripted : dataset.IsScripted) (node : FilterNode) :
    dataset.NormalNode node := by
  induction node using FilterNode.tree_induction with
  | node cond all any inAll inAny =>
    intro clauses ran
    rw [nodeClauses] at ran
    obtain ⟨first, last, ranFirst, ranAny, rfl⟩ := joined_eq_ok.mp ran
    obtain ⟨own, conjuncts, ranOwn, ranAll, rfl⟩ := joined_eq_ok.mp ranFirst
    obtain ⟨choice, ranChoice, rfl⟩ := map_eq_ok.mp ranAny
    refine List.forall_mem_append.mpr ⟨List.forall_mem_append.mpr ⟨?_, ?_⟩, ?_⟩
    · intro clause member
      obtain ⟨condition, -, found, answered, inside⟩ := (mem_conditionsClauses ranOwn).mp member
      exact condition_normal scripted answered clause inside
    · exact conjuncts_normal inAll ranAll
    · exact choice_normal inAny ranChoice

end Dataset

/-- A filter on stored and on scripted fields compiles to the query for everything exactly if it is
absent or vacuous, and otherwise to a query in normal form. So all Boolean queries inside are flat:
each has one list of clauses, which is not empty, and conjunctions hold no further conjunctions. -/
theorem compiled_filter_normal {dataset : Dataset} (scripted : dataset.IsScripted)
    {filter : Option FilterNode} {query : Json}
    (compiled : dataset.compileFilter .standard filter = .ok query) :
    (query = Clause.matchAll ↔
      ∀ node ∈ filter, dataset.compileNode .standard node = .ok .vacuous) ∧
    (query = Clause.matchAll ∨ NormalQuery query) ∧
    ∀ body, HasBoolean body query → FlatBoolean body := by
  have forms : query = Clause.matchAll ∧
        (∀ node ∈ filter, dataset.compileNode .standard node = .ok .vacuous) ∨
      NormalQuery query ∧
        ¬ ∀ node ∈ filter, dataset.compileNode .standard node = .ok .vacuous := by
    cases filter with
    | none =>
      cases compiled
      exact .inl ⟨rfl, by simp⟩
    | some tree =>
      obtain ⟨result, ran, same⟩ := bind_eq_ok.mp compiled
      cases same
      cases result with
      | vacuous => exact .inl ⟨rfl, by simpa using ran⟩
      | query query => exact .inr ⟨(Dataset.node_normal scripted tree).query ran, by simp [ran]⟩
  rcases forms with ⟨rfl, vacuous⟩ | ⟨normal, constrains⟩
  · refine ⟨iff_of_true rfl vacuous, .inl rfl, fun body inside => ?_⟩
    generalize everything : Clause.matchAll = query at inside
    cases inside <;> simp [Clause.matchAll, Json.single] at everything
  · exact ⟨iff_of_false normal.ne_matchAll constrains, .inr normal,
      fun body inside => flat_of_normal inside (.inl normal)⟩

theorem nested_people_filter_normal :
    let distance : Json := .object [("arguments", .object [("age", .ofInt 3)]),
      ("filter", .single "equals" (.bool false))]
    let home : Json := .single "city" (.single "startsWith" (.string "O"))
    let filter : FilterNode := ⟨some [("distance", distance)],
      some [⟨some [("age", .single "lessThan" (.ofInt 60))], none, none⟩, .empty],
      some [⟨some [("home", home)], none, none⟩, ⟨some [("distance", distance)], none, none⟩]⟩
    ∃ query, peopleDataset.compileFilter .standard (some filter) = .ok query ∧
      (query = Clause.matchAll ↔ ∀ node ∈ some filter,
        peopleDataset.compileNode .standard node = .ok .vacuous) ∧
      (query = Clause.matchAll ∨ NormalQuery query) ∧
      ∀ body, HasBoolean body query → FlatBoolean body := by
  intro distance home filter
  have scripted : peopleDataset.IsScripted :=
    peopleCatalog_scripted ("people", peopleDataset) List.mem_cons_self
  exact ⟨_, rfl, compiled_filter_normal scripted rfl⟩

end TypedSearch
