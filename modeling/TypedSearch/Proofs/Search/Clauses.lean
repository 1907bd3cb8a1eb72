import TypedSearch.Proofs.Outcome
import TypedSearch.Query.TermFilter
import TypedSearch.Search.Matcher

/-!
What the clauses of a filter mean to a document. A conjunction and a disjunction answer whenever their
clauses do, and then as their names say; a clause on one field always answers.
-/

namespace TypedSearch.Matcher

open Outcome

variable {view : MappingView} {document clause : Json} {clauses : List Json}

/-- The test of a query comes to an answer. -/
def Answers (view : MappingView) (document clause : Json) : Prop :=
  ∃ answer, test view clause document = .ok answer

/-- The document passes the test of a query. -/
def Hits (view : MappingView) (document clause : Json) : Prop :=
  test view clause document = .ok true

theorem tests_eq_map (view : MappingView) (queries : List Json) :
    tests view queries = queries.map (test view) := by
  induction queries with
  | nil => rfl
  | cons query rest ih => rw [tests, ih, List.map_cons]

theorem tests_append (view : MappingView) (queries others : List Json) :
    tests view (queries ++ others) = tests view queries ++ tests view others := by
  simp only [tests_eq_map, List.map_append]

theorem all_singleton (document : Json) (test : DocumentTest) : all document [test] = test document := by
  rw [all]
  cases test document with
  | error problem => rfl
  | ok passed => cases passed <;> rfl

/-- Tests in a row are those of the first part, and those of the second for a document that passes
all of the first. -/
theorem all_append (document : Json) (before after : List DocumentTest) :
    all document (before ++ after) = do
      if ← all document before then all document after else return false := by
  induction before with
  | nil => rfl
  | cons test rest ih =>
    rw [List.cons_append, all, all, ih]
    cases test document with
    | error problem => rfl
    | ok passed =>
      cases passed with
      | false => rfl
      | true => rfl

private theorem all_answers (answers : ∀ clause ∈ clauses, Answers view document clause) :
    ∃ answer, all document (tests view clauses) = .ok answer ∧
      (answer = true ↔ ∀ clause ∈ clauses, Hits view document clause) := by
  induction clauses with
  | nil => exact ⟨true, rfl, by simp⟩
  | cons clause rest ih =>
    obtain ⟨first, ran⟩ := answers clause List.mem_cons_self
    obtain ⟨later, ranRest, exact⟩ :=
      ih (fun other member => answers other (List.mem_cons_of_mem _ member))
    cases first with
    | false => exact ⟨false, by simp [tests, all, ran], by simp [Hits, ran]⟩
    | true =>
      refine ⟨later, by simp [tests, all, ran, ranRest], ?_⟩
      rw [exact, List.forall_mem_cons]
      exact ⟨fun rest => ⟨ran, rest⟩, fun both => both.2⟩

private theorem count_answers (answers : ∀ clause ∈ clauses, Answers view document clause) :
    ∃ passed, count document (tests view clauses) = .ok passed ∧
      (1 ≤ passed ↔ ∃ clause ∈ clauses, Hits view document clause) := by
  induction clauses with
  | nil => exact ⟨0, rfl, by simp⟩
  | cons clause rest ih =>
    obtain ⟨first, ran⟩ := answers clause List.mem_cons_self
    obtain ⟨later, ranRest, exact⟩ :=
      ih (fun other member => answers other (List.mem_cons_of_mem _ member))
    refine ⟨(if first then 1 else 0) + later, by simp [tests, count, ran, ranRest], ?_⟩
    simp only [List.mem_cons, exists_eq_or_imp, ← exact]
    cases first with
    | false => simp [Hits, ran]
    | true => simp [Hits, ran]

@[simp] theorem clausesOf_same (body : Json) (key : String) (found : List DocumentTest) :
    clausesOf body [(key, some found)] key = .ok found := by
  simp [clausesOf]

@[simp] theorem clausesOf_other {key other : String} (body : Json)
    (found : Option (List DocumentTest)) (differ : other ≠ key) :
    clausesOf body [(key, found)] other = .ok [] := by
  simp only [clausesOf, List.lookup_cons, beq_eq_false_iff_ne.mpr differ, List.lookup_nil]

/-- A conjunction is tested by testing its clauses in order. -/
theorem test_conjunction (view : MappingView) (clauses : List Json) (document : Json) :
    test view (Clause.conjunction clauses) document = all document (tests view clauses) := by
  simp only [Clause.conjunction, Json.single, test, ↓reduceIte, boolean, Matcher.clauses,
    entriesClauses, itemTests?, clausesOf_same, clausesOf_other _ _ (show "must" ≠ "filter" by decide),
    clausesOf_other _ _ (show "should" ≠ "filter" by decide),
    clausesOf_other _ _ (show "must_not" ≠ "filter" by decide), ok_bind]
  cases all document (tests view clauses) with
  | error problem => rfl
  | ok answer => cases answer <;> simp [all, count, minimumShould, Json.get?, List.lookup_cons]

/-- A disjunction is tested by counting the clauses that a document passes. -/
theorem test_disjunction (view : MappingView) (document : Json) (choice : clauses ≠ []) :
    test view (Clause.disjunction clauses) document =
      (count document (tests view clauses)).map (fun passed => decide (1 ≤ passed)) := by
  -- Only where there is something to choose from must one clause be passed.
  have some : tests view clauses ≠ [] := by simpa [tests_eq_map] using choice
  simp only [Clause.disjunction, Json.single, test, ↓reduceIte, boolean, Matcher.clauses,
    entriesClauses, itemTests?, clausesOf_same, clausesOf_other _ _ (show "must" ≠ "should" by decide),
    clausesOf_other _ _ (show "filter" ≠ "should" by decide),
    clausesOf_other _ _ (show "must_not" ≠ "should" by decide), ok_bind, all, count]
  cases count document (tests view clauses) with
  | error problem => rfl
  | ok passed => simp [minimumShould, Json.get?, List.lookup_cons, some, Except.map]

/-- A negation is tested by counting the clauses that a document passes. -/
theorem test_negation (view : MappingView) (clauses : List Json) (document : Json) :
    test view (Clause.negation clauses) document =
      (count document (tests view clauses)).map (fun passed => decide (passed = 0)) := by
  simp only [Clause.negation, Json.single, test, ↓reduceIte, boolean, Matcher.clauses,
    entriesClauses, itemTests?, clausesOf_same, clausesOf_other _ _ (show "must" ≠ "must_not" by decide),
    clausesOf_other _ _ (show "filter" ≠ "must_not" by decide),
    clausesOf_other _ _ (show "should" ≠ "must_not" by decide), ok_bind, all, count]
  cases count document (tests view clauses) with
  | error problem => rfl
  | ok passed =>
    cases passed with
    | zero => simp [minimumShould, Json.get?, List.lookup_cons, Except.map]
    | succ passed => simp [Except.map]

/-- A conjunction stands for its clauses, wherever it is put in their place. -/
theorem conjunction_hits_iff (answers : ∀ clause ∈ clauses, Answers view document clause) :
    Answers view document (Clause.conjunction clauses) ∧
      (Hits view document (Clause.conjunction clauses) ↔
        ∀ clause ∈ clauses, Hits view document clause) := by
  obtain ⟨answer, ran, exact⟩ := all_answers answers
  rw [← test_conjunction] at ran
  exact ⟨⟨answer, ran⟩, by simp [Hits, ran, exact]⟩

/-- A disjunction of at least one clause holds if some clause does. -/
theorem disjunction_hits_iff (choice : clauses ≠ [])
    (answers : ∀ clause ∈ clauses, Answers view document clause) :
    Answers view document (Clause.disjunction clauses) ∧
      (Hits view document (Clause.disjunction clauses) ↔
        ∃ clause ∈ clauses, Hits view document clause) := by
  obtain ⟨passed, ran, exact⟩ := count_answers answers
  have whole : test view (Clause.disjunction clauses) document = .ok (decide (1 ≤ passed)) := by
    rw [test_disjunction view document choice, ran]
    rfl
  exact ⟨⟨_, whole⟩, by simp [Hits, whole, exact]⟩

/-- The clauses that ask something of one field. -/
inductive LeafClause : Json → Prop where
  | term (field : String) (value : Json) : LeafClause (Clause.term field value)
  | range (field : String) (value : Json) {key bound : String}
      (known : (key, bound) ∈ TermFilter.bounds) : LeafClause (Clause.range field bound value)
  | matchText (field query : String) : LeafClause (Clause.matchText field query)
  | wildcard (field pattern : String) : LeafClause (Clause.wildcard field pattern)

/-- The bounds of filters are among those that a range can have. -/
theorem bound_known {key bound : String} (known : (key, bound) ∈ TermFilter.bounds)
    (order : Option Ordering) : ∃ keeps, keepsBound? order bound = some keeps := by
  simp only [TermFilter.bounds, List.mem_cons, Prod.mk.injEq, List.not_mem_nil, or_false] at known
  rcases known with ⟨-, rfl⟩ | ⟨-, rfl⟩ | ⟨-, rfl⟩ | ⟨-, rfl⟩ <;> exact ⟨_, rfl⟩

/-! The clauses on one field are tested as their kinds say. -/

theorem test_term (view : MappingView) (field : String) (value : Json) :
    test view (Clause.term field value) = term view (.single field value) := rfl

theorem test_range (view : MappingView) (field bound : String) (value : Json) :
    test view (Clause.range field bound value) =
      range view (.single field (.single bound value)) := rfl

theorem test_matchText (view : MappingView) (field query : String) :
    test view (Clause.matchText field query) =
      matchText (.single field (.single "query" (.string query))) := rfl

theorem test_wildcard (view : MappingView) (field pattern : String) :
    test view (Clause.wildcard field pattern) =
      wildcard view (.single field (.single "value" (.string pattern))) := rfl

/-- Whatever a document holds, a clause on one field is never malformed for it. -/
theorem leaf_answers (asked : LeafClause clause) : Answers view document clause := by
  cases asked with
  | term field value =>
    simp only [Answers, test_term, term, single, Json.single, ok_bind, pure_eq_ok]
    split
    · exact ⟨_, rfl⟩
    · split <;> (try split) <;> exact ⟨_, rfl⟩
  | @range field value key bound known =>
    simp only [Answers, test_range, range, single, Json.single, ok_bind, pure_eq_ok]
    split
    · exact ⟨_, rfl⟩
    · rename_i actual _
      obtain ⟨keeps, kept⟩ :=
        bound_known known ((Target.ofField view field).order? actual value)
      cases keeps <;> simp [keepsBounds, kept]
  | matchText field query =>
    simp only [Answers, test_matchText, matchText, single, Json.single, ok_bind, pure_eq_ok, param,
      List.lookup_cons_self, Option.getD_some, Json.keywordForm?]
    split <;> exact ⟨_, rfl⟩
  | wildcard field pattern =>
    simp only [Answers, test_wildcard, wildcard, single, Json.single, ok_bind, pure_eq_ok, param,
      List.lookup_cons_self, Option.getD_some]
    split
    · exact ⟨_, rfl⟩
    · split <;> exact ⟨_, rfl⟩

end TypedSearch.Matcher
