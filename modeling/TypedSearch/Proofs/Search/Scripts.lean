import TypedSearch.Proofs.Compile.NormalForm
import TypedSearch.Proofs.Search.Sorting
import TypedSearch.Search.Store

/-!
Scripts in queries, which a search cannot evaluate. It refuses a script when the test of a document
gets to it, and tests stop early: a conjunction at the first clause that does not hold, and a search at
its last document. So a query with a script is refused exactly if some document leads the test there.
-/

namespace TypedSearch

open Matcher Outcome

variable {view : MappingView} {document query clause : Json} {clauses : List Json}

/-- The queries that filters compile to: everything, clauses on single fields, scripts, and Boolean
combinations of such. -/
inductive Composed : Json → Prop where
  | everything : Composed Clause.matchAll
  | leaf {clause : Json} (asked : LeafClause clause) : Composed clause
  | script (body : Json) : Composed (Clause.scriptQuery body)
  | negation {clauses : List Json} (each : ∀ clause ∈ clauses, Composed clause) :
      Composed (Clause.negation clauses)
  | conjunction {clauses : List Json} (each : ∀ clause ∈ clauses, Composed clause) :
      Composed (Clause.conjunction clauses)
  | disjunction {clauses : List Json} (choice : clauses ≠ [])
      (each : ∀ clause ∈ clauses, Composed clause) : Composed (Clause.disjunction clauses)

/-- A query has a script in it, at whatever depth of Boolean queries and under whichever key. -/
inductive ContainsScript : Json → Prop where
  | script (body : Json) : ContainsScript (Clause.scriptQuery body)
  | inside {key : String} {clauses : List Json} {clause : Json} (listed : clause ∈ clauses)
      (inner : ContainsScript clause) :
      ContainsScript (.single "bool" (.single key (.array clauses)))

/-- The test of a document gets to a script: to any clause of a negation or a disjunction, and to a
clause of a conjunction if the document passes all clauses before it. -/
inductive Consults (view : MappingView) (document : Json) : Json → Prop where
  | script (body : Json) : Consults view document (Clause.scriptQuery body)
  | negation {clauses : List Json} {clause : Json} (listed : clause ∈ clauses)
      (inner : Consults view document clause) : Consults view document (Clause.negation clauses)
  | conjunction {before after : List Json} {clause : Json}
      (earlier : ∀ other ∈ before, Hits view document other)
      (inner : Consults view document clause) :
      Consults view document (Clause.conjunction (before ++ clause :: after))
  | disjunction {clauses : List Json} {clause : Json} (listed : clause ∈ clauses)
      (inner : Consults view document clause) : Consults view document (Clause.disjunction clauses)

theorem containsScript_of_consults (consulted : Consults view document query) :
    ContainsScript query := by
  induction consulted with
  | script body => exact .script body
  | negation listed _ ih => exact .inside listed ih
  | conjunction _ _ ih => exact .inside (List.mem_append_right _ List.mem_cons_self) ih
  | disjunction listed _ ih => exact .inside listed ih

/-- What a search answers to a script. -/
def scriptRefusal : SearchError := .unsupported (.query "script")

theorem test_script (view : MappingView) (body document : Json) :
    test view (Clause.scriptQuery body) document = .error scriptRefusal := rfl

namespace Matcher

variable {problem : SearchError}

/-- A conjunction stops with a problem at a clause all before which the document passes. -/
theorem all_eq_error (failed : all document (tests view clauses) = .error problem) :
    ∃ before clause after, clauses = before ++ clause :: after ∧
      (∀ other ∈ before, Hits view document other) ∧
      test view clause document = .error problem := by
  induction clauses with
  | nil => cases failed
  | cons first rest ih =>
    rw [tests, all] at failed
    rcases bind_eq_error.mp failed with own | ⟨passed, ran, later⟩
    · exact ⟨[], first, rest, rfl, by simp, own⟩
    · cases passed with
      | false => cases later
      | true =>
        obtain ⟨before, clause, after, rfl, earlier, own⟩ := ih later
        exact ⟨first :: before, clause, after, rfl, List.forall_mem_cons.mpr ⟨ran, earlier⟩, own⟩

theorem all_fails {before after : List Json} (earlier : ∀ other ∈ before, Hits view document other)
    (fails : Fails (test view clause document)) :
    Fails (all document (tests view (before ++ clause :: after))) := by
  induction before with
  | nil =>
    obtain ⟨problem, failed⟩ := fails
    exact ⟨problem, by rw [List.nil_append, tests, all, failed, error_bind]⟩
  | cons first rest ih =>
    obtain ⟨passed, others⟩ := List.forall_mem_cons.mp earlier
    have ran : test view first document = .ok true := passed
    rw [List.cons_append, tests, all, ran, ok_bind, if_pos rfl]
    exact ih others

/-- Counting stops with a problem of some clause. -/
theorem count_eq_error (failed : count document (tests view clauses) = .error problem) :
    ∃ clause ∈ clauses, test view clause document = .error problem := by
  induction clauses with
  | nil => cases failed
  | cons first rest ih =>
    rw [tests, count] at failed
    rcases bind_eq_error.mp failed with own | ⟨passed, -, later⟩
    · exact ⟨first, List.mem_cons_self, own⟩
    · rcases bind_eq_error.mp later with later | ⟨more, -, done⟩
      · obtain ⟨clause, member, own⟩ := ih later
        exact ⟨clause, List.mem_cons_of_mem _ member, own⟩
      · cases done

/-- Counting gets to every clause. -/
theorem count_fails_iff :
    Fails (count document (tests view clauses)) ↔
      ∃ clause ∈ clauses, Fails (test view clause document) := by
  induction clauses with
  | nil => simp [tests, count]
  | cons first rest ih =>
    rw [tests, count, fails_seq fun passed _ => fails_return ((if passed then 1 else 0) + ·), ih]
    simp only [List.mem_cons, exists_eq_or_imp]

end Matcher

/-- A test that gets to a script fails. -/
theorem test_fails_of_consults (consulted : Consults view document query) :
    Fails (test view query document) := by
  induction consulted with
  | script body => exact ⟨_, test_script view body document⟩
  | negation listed _ ih =>
    rw [test_negation, fails_map, count_fails_iff]
    exact ⟨_, listed, ih⟩
  | conjunction earlier _ ih =>
    rw [test_conjunction]
    exact all_fails earlier ih
  | disjunction listed _ ih =>
    rw [test_disjunction view document (List.ne_nil_of_mem listed), fails_map, count_fails_iff]
    exact ⟨_, listed, ih⟩

/-- The test of a compiled query fails at scripts only. -/
theorem composed_test_error (composed : Composed query) {problem : SearchError}
    (failed : test view query document = .error problem) :
    problem = scriptRefusal ∧ Consults view document query := by
  induction composed with
  | everything => cases failed
  | leaf asked =>
    have answers : Answers view document _ := leaf_answers asked
    obtain ⟨answer, ran⟩ := answers
    cases ran.symm.trans failed
  | script body =>
    rw [test_script] at failed
    cases failed
    exact ⟨rfl, .script body⟩
  | negation each ih =>
    rw [test_negation] at failed
    obtain ⟨clause, listed, own⟩ := count_eq_error (map_eq_error.mp failed)
    obtain ⟨same, inner⟩ := ih clause listed own
    exact ⟨same, .negation listed inner⟩
  | conjunction each ih =>
    rw [test_conjunction] at failed
    obtain ⟨before, clause, after, rfl, earlier, own⟩ := all_eq_error failed
    obtain ⟨same, inner⟩ := ih clause (List.mem_append_right _ List.mem_cons_self) own
    exact ⟨same, .conjunction earlier inner⟩
  | disjunction choice each ih =>
    rw [test_disjunction view document choice] at failed
    obtain ⟨clause, listed, own⟩ := count_eq_error (map_eq_error.mp failed)
    obtain ⟨same, inner⟩ := ih clause listed own
    exact ⟨same, .disjunction listed inner⟩

section Compiled

variable {dataset : Dataset} {condition : String × Json}

/-- The clauses of conditions on stored and on scripted fields are composed. -/
theorem condition_composed (scripted : dataset.IsScripted)
    (ran : dataset.conditionClauses .standard condition = .ok clauses) :
    ∀ clause ∈ clauses, Composed clause := by
  intro clause inside
  rcases Dataset.condition_clause_cases scripted ran inside with
    leaf | ⟨source, arguments, rfl | rfl⟩
  · exact .leaf leaf
  · exact .script _
  · refine .negation fun inner listed => ?_
    cases List.mem_singleton.mp listed
    exact .script _

private theorem composed_interpretation : Interpretation Composed (fun _ => True) where
  conjunction _ each := ⟨.conjunction each, by simp⟩
  disjunction choice each := by
    obtain ⟨clause, listed⟩ := List.exists_mem_of_ne_nil _ choice
    exact ⟨.disjunction choice each, iff_of_true trivial ⟨clause, listed, trivial⟩⟩

/-- Filters on stored and on scripted fields compile to composed queries. -/
theorem compiled_composed (scripted : dataset.IsScripted) {filter : Option FilterNode}
    (compiled : dataset.compileFilter .standard filter = .ok query) : Composed query := by
  cases filter with
  | none =>
    cases compiled
    exact .everything
  | some tree =>
    obtain ⟨result, ran, same⟩ := bind_eq_ok.mp compiled
    cases same
    obtain ⟨clauses, rfl, meaning⟩ := Dataset.compiled_reads_as_tree composed_interpretation
      (fun condition found own => condition_composed scripted own) tree result ran
    cases clauses with
    | nil => exact .everything
    | cons clause rest => exact .conjunction meaning.each

end Compiled

/-- A search fails in the test of a document or in the sort of the hits. -/
theorem Index.search_eq_error {sorter : Sorter} {index : Index} {request : SearchRequest}
    {failure : SearchFailure} (failed : index.search sorter request = .error failure) :
    (∃ document ∈ index.documents, ∃ problem, failure = .refused problem ∧
        test (.ofMapping index.mapping) request.query document = .error problem) ∨
      ∃ hits clauses,
        index.documents.filterM (test (.ofMapping index.mapping) request.query) = .ok hits ∧
        request.sort = some clauses ∧
        sortDocuments sorter (.ofMapping index.mapping) clauses hits = .error failure := by
  rcases bind_eq_error.mp failed with failed | ⟨hits, tested, failed⟩
  · obtain ⟨problem, stopped, rfl⟩ := mapError_eq_error.mp failed
    obtain ⟨document, stored, own⟩ := filterM_eq_error stopped
    exact .inl ⟨document, stored, problem, rfl, own⟩
  · cases asked : request.sort with
    | none =>
      rw [asked] at failed
      cases failed
    | some clauses =>
      rw [asked] at failed
      exact .inr ⟨hits, clauses, mapError_eq_ok.mp tested, rfl, failed⟩

/-- A search gets to a script exactly if some document leads its test there, whatever the sort. -/
theorem search_refused_iff (composed : Composed query) (sorter : Sorter) {index : Index}
    (sort : Option (List Json)) :
    index.search sorter ⟨query, sort⟩ = .error (.refused scriptRefusal) ↔
      ∃ document ∈ index.documents, Consults (.ofMapping index.mapping) document query := by
  constructor
  · intro refused
    rcases Index.search_eq_error refused with
      ⟨document, stored, problem, -, own⟩ | ⟨hits, clauses, -, -, failed⟩
    · exact ⟨document, stored, (composed_test_error composed own).2⟩
    · -- A sort reports clauses and keys, and no queries.
      rcases sortDocuments_eq_error failed with ⟨clause, -, problem, same, unread⟩ | ⟨panics, -⟩
      · cases same
        rcases SortKey.ofClause_problem unread with malformed | ⟨field, unsupported⟩
        · cases malformed
        · cases unsupported
      · cases panics
  · rintro ⟨document, stored, consulted⟩
    have fails : Fails (index.documents.filterM (test (.ofMapping index.mapping) query)) :=
      filterM_fails_iff.mpr ⟨document, stored, test_fails_of_consults consulted⟩
    obtain ⟨problem, failed⟩ := fails
    obtain ⟨other, -, own⟩ := filterM_eq_error failed
    obtain ⟨rfl, -⟩ := composed_test_error composed own
    rw [Index.search, failed]
    rfl

/-- A search for what a filter on stored and on scripted fields compiles to is refused for a script
exactly if the test of some document of the index gets to one. That takes a script in the query, and
without a sort there is no other reason to refuse it. -/
theorem script_search_refused_iff {dataset : Dataset} (scripted : dataset.IsScripted)
    {filter : Option FilterNode} (compiled : dataset.compileFilter .standard filter = .ok query)
    {store : Store} {name : String} {index : Index} (found : store.indices.get? name = some index)
    (sorter : Sorter) (sort : Option (List Json)) :
    (store.search sorter name ⟨query, sort⟩ = .error (.refused (.unsupported (.query "script"))) ↔
      ∃ document ∈ index.documents, Consults (.ofMapping index.mapping) document query) ∧
    ((∃ document ∈ index.documents, Consults (.ofMapping index.mapping) document query) →
      ContainsScript query) ∧
    ∀ failure, store.search sorter name ⟨query, none⟩ = .error failure →
      failure = .refused (.unsupported (.query "script")) := by
  have composed := compiled_composed scripted compiled
  have whole : ∀ request, store.search sorter name request = index.search sorter request := by
    intro request
    rw [Store.search, found]
  simp only [whole]
  refine ⟨search_refused_iff composed sorter sort, ?_, ?_⟩
  · rintro ⟨document, -, consulted⟩
    exact containsScript_of_consults consulted
  · intro failure failed
    rcases Index.search_eq_error failed with
      ⟨document, -, problem, rfl, own⟩ | ⟨hits, clauses, -, unsorted, -⟩
    · rw [(composed_test_error composed own).1]
      rfl
    · cases unsorted

theorem people_script_search_refused_iff :
    let distance : Json := .object [("arguments", .object [("age", .ofInt 3)]),
      ("filter", .single "equals" (.bool false))]
    let filter : FilterNode :=
      ⟨some [("age", .single "equals" (.ofInt 3)), ("distance", distance)], none, none⟩
    let store := Store.empty.extend "people" [.single "age" (.ofInt 4), .single "age" (.ofInt 3)]
    ∃ query index, peopleDataset.compileFilter .standard (some filter) = .ok query ∧
      store.indices.get? "people" = some index ∧ index.documents.length = 2 ∧
      ∀ sorter sort, (store.search sorter "people" ⟨query, sort⟩ =
            .error (.refused (.unsupported (.query "script"))) ↔
          ∃ document ∈ index.documents, Consults (.ofMapping index.mapping) document query) ∧
        ((∃ document ∈ index.documents, Consults (.ofMapping index.mapping) document query) →
          ContainsScript query) ∧
        ∀ failure, store.search sorter "people" ⟨query, none⟩ = .error failure →
          failure = .refused (.unsupported (.query "script")) := by
  intro distance filter store
  have scripted : peopleDataset.IsScripted :=
    peopleCatalog_scripted ("people", peopleDataset) List.mem_cons_self
  obtain ⟨query, compiled⟩ : ∃ query,
      peopleDataset.compileFilter .standard (some filter) = .ok query := ⟨_, rfl⟩
  have found : store.indices.get? "people" = some
      ⟨emptyMapping, [.single "age" (.ofInt 4), .single "age" (.ofInt 3)]⟩ := rfl
  exact ⟨query, _, compiled, found, rfl, script_search_refused_iff scripted compiled found⟩

/-- A query that asks for a script and for nothing else is answered while there are no documents, and
refused as soon as there is one. -/
theorem script_overlooked :
    let distance : Json := .object [("arguments", .object [("age", .ofInt 3)]),
      ("filter", .single "equals" (.bool true))]
    ∃ query, peopleDataset.compileFilter .standard
        (some ⟨some [("distance", distance)], none, none⟩) = .ok query ∧
      ContainsScript query ∧
      ∀ sorter, (Store.empty.extend "people" []).search sorter "people" ⟨query, none⟩ = .ok [] ∧
        (Store.empty.extend "people" [.object []]).search sorter "people" ⟨query, none⟩ =
          .error (.refused (.unsupported (.query "script"))) := by
  intro distance
  exact ⟨_, rfl, .inside List.mem_cons_self (.script _), fun _ => ⟨rfl, rfl⟩⟩

end TypedSearch
