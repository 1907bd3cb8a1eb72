import TypedSearch.Proofs.Compile.Order
import TypedSearch.Proofs.Search.Addressing
import TypedSearch.Search.Order

/-!
Orders by stored fields carried out on documents. Each key becomes sort clauses on paths that begin
with the name of the key, and a sort takes every such clause unless the name begins with an underscore:
names of that kind it keeps for keys of its own. Clauses that it takes are carried out, except that on
documents on which their order is not consistent the sort may panic.
-/

namespace TypedSearch

open Outcome

/-- A name begins with an underscore. -/
def Underscored (name : String) : Prop := name.toList.head? = some '_'

instance (name : String) : Decidable (Underscored name) :=
  inferInstanceAs (Decidable (name.toList.head? = some '_'))

variable {name : String} {path : FieldPath} {view : MappingView} {clause : Json}

/-- What stands behind a dot has no influence on how a name begins. -/
theorem underscored_append_dot (name rest : String) :
    Underscored (name ++ "." ++ rest) ↔ Underscored name := by
  unfold Underscored
  rw [String.toList_append, String.toList_append, List.append_assoc, List.head?_append]
  cases name.toList with
  | nil => simp
  | cons first others => simp

/-- A dotted path begins as its first name does. -/
theorem underscored_dotted {rest : List String} (starts : path.segments = name :: rest) :
    Underscored path.dotted ↔ Underscored name := by
  rw [FieldPath.dotted, starts]
  cases rest with
  | nil => rw [Text.joined]
  | cons next rest =>
    rw [Text.joined]
    exact underscored_append_dot name _

theorem underscored_keyword {rest : List String} (starts : path.segments = name :: rest) :
    Underscored path.keyword ↔ Underscored name := by
  rw [FieldPath.keyword, underscored_append_dot]
  exact underscored_dotted starts

namespace SortKey

/-- A sort clause on a field is read unless the name begins with an underscore. -/
theorem ofClause_sort (view : MappingView) (name : String) (direction : Direction) :
    ofClause view (Clause.sort name direction) =
      if Underscored name then .error (.unsupported (.sort name))
      else .ok ⟨.ofField view name, direction == .descending⟩ := by
  have read : parts (Clause.sort name direction) = .ok (name, .string direction.spelling) := rfl
  rw [ofClause, read, ok_bind]
  by_cases reserved : Underscored name
  · have begins : name.toList.head? = some '_' := reserved
    simp only [begins, reserved, ↓reduceIte]
    rfl
  · have begins : ¬ name.toList.head? = some '_' := reserved
    simp only [begins, reserved, ↓reduceIte]
    cases direction with
    | ascending => rfl
    | descending => rfl

/-- A clause is refused for its shape or for its key. -/
theorem ofClause_problem {problem : SearchError} (refused : ofClause view clause = .error problem) :
    problem = Matcher.malformed "sort" clause ∨ ∃ field, problem = .unsupported (.sort field) := by
  rcases bind_eq_error.mp refused with unread | ⟨⟨field, specification⟩, -, later⟩
  · unfold parts Matcher.single at unread
    split at unread
    · cases unread
    · split at unread
      · cases unread
      · cases unread
        exact .inl rfl
  · simp only [throw_eq_error, pure_eq_ok] at later
    split at later
    · cases later
      exact .inr ⟨field, rfl⟩
    · split at later
      · cases later
      · cases later
      · cases later
        exact .inl rfl
      · cases later

end SortKey

/-- A clause of a primitive sorts by the path of the primitive or by its exact-value form. -/
theorem leaf_sort_clause {kind : Primitive} {params : Json} {clauses : List Json}
    (ran : Registry.standard.resolve Handler.sort (.primitive kind) path params =
      .ok (some clauses)) (member : clause ∈ clauses) :
    ∃ direction, clause = Clause.sort path.dotted direction ∨
      clause = Clause.sort path.keyword direction := by
  rw [Registry.standard_resolve_primitive] at ran
  cases kind with
  | boolean | float =>
    obtain ⟨direction, same⟩ := fieldSort_clause ran member
    exact ⟨direction, .inl same⟩
  | int | string =>
    obtain ⟨direction, same⟩ := fieldSort_clause ran member
    exact ⟨direction, .inr same⟩
  | bytes | null | long | double => cases ran

/-- The clauses of a stored field sort by names that begin as the name of the field does. -/
theorem stored_sort_clause {field : SchemaField} {params : Json} {clauses : List Json}
    (ran : (Member.stored field).sortClauses .standard params = .ok (some clauses))
    (member : clause ∈ clauses) :
    ∃ name direction, clause = Clause.sort name direction ∧
      (Underscored name ↔ Underscored field.name) := by
  -- Every path below the field goes on from the field's name.
  obtain ⟨kind, leaf, given, answer, ⟨rest, starts⟩, answered, own⟩ :=
    standard_clause_leaf (fun _ path => ∃ rest, path.segments = field.name :: rest) field.type rfl
      (fun _ _ path ⟨rest, starts⟩ inner _ => ⟨rest ++ [inner.name], by
        simp [FieldPath.child, starts]⟩)
      ⟨[], rfl⟩ ran member
  obtain ⟨direction, same | same⟩ := leaf_sort_clause answered own
  · exact ⟨_, direction, same, underscored_dotted starts⟩
  · exact ⟨_, direction, same, underscored_keyword starts⟩

namespace Dataset

variable {dataset : Dataset}

/-- The clauses of a key that names no computed field sort by names that begin as the key does. -/
theorem stored_key_clause {key : String × Json} {clauses : List Json}
    (stored : dataset.computed.get? key.1 = none)
    (ran : dataset.orderClauses .standard key = .ok clauses) (member : clause ∈ clauses) :
    ∃ name direction, clause = Clause.sort name direction ∧
      (Underscored name ↔ Underscored key.1) := by
  obtain ⟨-, source, found, answered⟩ :=
    (orderClauses_some_iff (List.ne_nil_of_mem member)).mp ran
  rw [member?, stored] at found
  obtain ⟨field, leads, rfl⟩ := Option.map_eq_some_iff.mp found
  have named : field.name = key.1 := by simpa using List.find?_some leads
  rw [← named]
  exact stored_sort_clause answered member

section Order

variable {orders : List Json.Entries} {clauses : List Json}
  (stored : ∀ keys ∈ orders, ∀ key ∈ keys, dataset.computed.get? key.1 = none)
  (compiled : dataset.compileOrder .standard orders = .ok clauses)

include stored compiled

/-- A clause of an order by stored fields belongs to a key and sorts by a name that begins as it
does. -/
theorem stored_order_clause (member : clause ∈ clauses) :
    ∃ keys ∈ orders, ∃ key ∈ keys, ∃ name direction, clause = Clause.sort name direction ∧
      (Underscored name ↔ Underscored key.1) ∧ dataset.orderClauses .standard key ≠ .ok [] := by
  obtain ⟨keys, inside, key, listed, found, ran, own⟩ := (mem_compileOrder compiled).mp member
  obtain ⟨name, direction, same, begins⟩ :=
    stored_key_clause (stored keys inside key listed) ran own
  refine ⟨keys, inside, key, listed, name, direction, same, begins, fun empty => ?_⟩
  cases ran.symm.trans empty
  simp at own

/-- What clauses a key has that begins with an underscore cannot be read. -/
theorem underscored_key_unread (view : MappingView) {keys : Json.Entries} (inside : keys ∈ orders)
    {key : String × Json} (listed : key ∈ keys) (reserved : Underscored key.1) :
    dataset.orderClauses .standard key = .ok [] ∨
      ∃ clause ∈ clauses, Fails (SortKey.ofClause view clause) := by
  obtain ⟨found, ran⟩ := key_compiles compiled inside listed
  cases found with
  | nil => exact .inl ran
  | cons clause rest =>
    have member : clause ∈ clauses :=
      (mem_compileOrder compiled).mpr ⟨keys, inside, key, listed, _, ran, List.mem_cons_self⟩
    obtain ⟨name, direction, rfl, begins⟩ :=
      stored_key_clause (stored keys inside key listed) ran List.mem_cons_self
    have refused := SortKey.ofClause_sort view name direction
    rw [if_pos (begins.mpr reserved)] at refused
    exact .inr ⟨_, member, _, refused⟩

end Order

end Dataset

section Sorts

variable {sorter : Sorter} {clauses documents : List Json} {keys : List SortKey}

/-- A sort is refused before any document is moved. -/
theorem sortInPlace_unread {problem : SearchError} (sorter : Sorter) (documents : List Json)
    (unread : clauses.mapM (SortKey.ofClause view) = .error problem) :
    (sortInPlace sorter view clauses).run.run documents = (.error (.refused problem), documents) := by
  unfold sortInPlace
  rw [unread]
  rfl

/-- A sort by clauses that are read ends as the sorter does. -/
theorem sortInPlace_read (sorter : Sorter) (documents : List Json)
    (read : clauses.mapM (SortKey.ofClause view) = .ok keys) :
    (sortInPlace sorter view clauses).run.run documents =
      match sorter.sort (SortKey.orderAll keys) documents with
      | .finished sorted => (.ok (), sorted)
      | .panicked left => (.error .panicked, left) := by
  have start : (sortInPlace sorter view clauses).run.run documents =
      ((match sorter.sort (SortKey.orderAll keys) documents with
        | .finished sorted => set sorted
        | .panicked left => do
          set left
          throw .panicked :
        ExceptT SearchFailure (StateM (List Json)) Unit)).run.run documents := by
    unfold sortInPlace
    rw [read]
    rfl
  rw [start]
  cases sorter.sort (SortKey.orderAll keys) documents <;> rfl

theorem sortDocuments_unread {problem : SearchError} (sorter : Sorter) (documents : List Json)
    (unread : clauses.mapM (SortKey.ofClause view) = .error problem) :
    sortDocuments sorter view clauses documents = .error (.refused problem) := by
  rw [sortDocuments, sortInPlace_unread sorter documents unread]

/-- Documents on which the order of the clauses is consistent come out as it arranges them. -/
theorem sortDocuments_consistent (sorter : Sorter)
    (read : clauses.mapM (SortKey.ofClause view) = .ok keys)
    (consistent : ConsistentOn (SortKey.orderAll keys) documents) :
    sortDocuments sorter view clauses documents =
      .ok (arranged (SortKey.orderAll keys) documents) := by
  rw [sortDocuments, sortInPlace_read sorter documents read, sorter.sorts _ _ consistent]

/-- A sort that fails has the problem of one of its clauses, or it panics for documents on which their
order is not consistent. -/
theorem sortDocuments_eq_error {failure : SearchFailure}
    (failed : sortDocuments sorter view clauses documents = .error failure) :
    (∃ clause ∈ clauses, ∃ problem,
        failure = .refused problem ∧ SortKey.ofClause view clause = .error problem) ∨
      failure = .panicked ∧ ∃ keys, clauses.mapM (SortKey.ofClause view) = .ok keys ∧
        ¬ ConsistentOn (SortKey.orderAll keys) documents := by
  cases read : clauses.mapM (SortKey.ofClause view) with
  | error problem =>
    rw [sortDocuments_unread sorter documents read] at failed
    cases failed
    obtain ⟨clause, member, refused⟩ := mapM_eq_error read
    exact .inl ⟨clause, member, problem, rfl, refused⟩
  | ok keys =>
    refine .inr ⟨?_, keys, rfl, fun consistent => ?_⟩
    · rw [sortDocuments, sortInPlace_read sorter documents read] at failed
      cases ended : sorter.sort (SortKey.orderAll keys) documents with
      | finished sorted =>
        rw [ended] at failed
        cases failed
      | panicked left =>
        rw [ended] at failed
        exact (Except.error.inj failed).symm
    · rw [sortDocuments_consistent sorter read consistent] at failed
      cases failed

/-- A sort is refused exactly if a clause cannot be read, whatever the documents. -/
theorem sortDocuments_refused_iff :
    (∃ problem, sortDocuments sorter view clauses documents = .error (.refused problem)) ↔
      ∃ clause ∈ clauses, Fails (SortKey.ofClause view clause) := by
  constructor
  · rintro ⟨problem, failed⟩
    rcases sortDocuments_eq_error failed with ⟨clause, member, _, -, refused⟩ | ⟨impossible, -⟩
    · exact ⟨clause, member, _, refused⟩
    · cases impossible
  · intro unread
    obtain ⟨problem, failed⟩ := mapM_fails_iff.mpr unread
    exact ⟨problem, sortDocuments_unread sorter documents failed⟩

end Sorts

/-- The clauses of an order by stored fields are refused, on whatever documents, exactly if a key that
begins with an underscore has any; what is reported is a clause of such a key, as unsupported. Otherwise
they are read, and all documents on which their order is consistent are sorted. On others a sort
may panic, and it fails for no other reason. -/
theorem stored_order_sorts_iff {dataset : Dataset} {orders : List Json.Entries}
    {clauses : List Json}
    (stored : ∀ keys ∈ orders, ∀ key ∈ keys, dataset.computed.get? key.1 = none)
    (compiled : dataset.compileOrder .standard orders = .ok clauses) (sorter : Sorter)
    (view : MappingView) (documents : List Json) :
    ((∀ problem, sortDocuments sorter view clauses documents ≠ .error (.refused problem)) ↔
      ∀ keys ∈ orders, ∀ key ∈ keys, Underscored key.1 →
        dataset.orderClauses .standard key = .ok []) ∧
    ((∀ keys ∈ orders, ∀ key ∈ keys, Underscored key.1 →
        dataset.orderClauses .standard key = .ok []) →
      ∃ sortKeys, clauses.mapM (SortKey.ofClause view) = .ok sortKeys ∧
        (ConsistentOn (SortKey.orderAll sortKeys) documents →
          ∃ sorted, sortDocuments sorter view clauses documents = .ok sorted)) ∧
    ∀ failure, sortDocuments sorter view clauses documents = .error failure →
      (∃ name direction, Clause.sort name direction ∈ clauses ∧ Underscored name ∧
        failure = .refused (.unsupported (.sort name))) ∨
      failure = .panicked ∧ ∃ sortKeys, clauses.mapM (SortKey.ofClause view) = .ok sortKeys ∧
        ¬ ConsistentOn (SortKey.orderAll sortKeys) documents := by
  have readable : (¬ ∃ clause ∈ clauses, Fails (SortKey.ofClause view clause)) ↔
      ∀ keys ∈ orders, ∀ key ∈ keys, Underscored key.1 →
        dataset.orderClauses .standard key = .ok [] := by
    constructor
    · intro reads keys inside key listed reserved
      have cases := Dataset.underscored_key_unread stored compiled view inside listed reserved
      exact cases.resolve_right reads
    · rintro silent ⟨clause, member, fails⟩
      obtain ⟨keys, inside, key, listed, name, direction, rfl, begins, nonempty⟩ :=
        Dataset.stored_order_clause stored compiled member
      have plain : ¬ Underscored name := by
        intro reserved
        exact nonempty (silent keys inside key listed (begins.mp reserved))
      rw [SortKey.ofClause_sort, if_neg plain] at fails
      exact not_fails_ok _ fails
  refine ⟨?_, fun silent => ?_, fun failure failed => ?_⟩
  · rw [← readable, ← sortDocuments_refused_iff, not_exists]
  · obtain ⟨sortKeys, read⟩ := not_fails_iff.mp (mt mapM_fails_iff.mp (readable.mpr silent))
    exact ⟨sortKeys, read, fun consistent => ⟨_, sortDocuments_consistent sorter read consistent⟩⟩
  · refine (sortDocuments_eq_error failed).imp_left ?_
    rintro ⟨clause, member, problem, rfl, refused⟩
    obtain ⟨keys, inside, key, listed, name, direction, rfl, -, -⟩ :=
      Dataset.stored_order_clause stored compiled member
    rw [SortKey.ofClause_sort] at refused
    split at refused
    next reserved =>
      cases refused
      exact ⟨name, direction, member, reserved, rfl⟩
    next => cases refused

/-- Pages with a rank of their own, the name of which is an identifier. -/
def pagesDataset : Dataset :=
  .ofSchema ⟨"Page", [⟨"title", .primitive .string⟩, ⟨"_rank", .primitive .float⟩]⟩ "pages"

theorem pages_order_sorts_iff :
    let orders : List Json.Entries :=
      [[("title", .string "ASC"), ("_rank", .null)], [("title", .string "DESC")]]
    let documents : List Json :=
      [.single "title" (.string "b"), .object [], .single "title" (.string "a")]
    ∃ clauses, pagesDataset.validate = .ok () ∧
      (∀ keys ∈ orders, ∀ key ∈ keys, pagesDataset.computed.get? key.1 = none) ∧
      pagesDataset.compileOrder .standard orders = .ok clauses ∧ clauses.length = 2 ∧
      ∃ view, (∀ keys ∈ orders, ∀ key ∈ keys, Underscored key.1 →
          pagesDataset.orderClauses .standard key = .ok []) ∧
        ∃ sortKeys, clauses.mapM (SortKey.ofClause view) = .ok sortKeys ∧
          ConsistentOn (SortKey.orderAll sortKeys) documents ∧
          ∀ sorter, ∃ sorted, sortDocuments sorter view clauses documents = .ok sorted := by
  intro orders documents
  have stored : ∀ keys ∈ orders, ∀ key ∈ keys, pagesDataset.computed.get? key.1 = none :=
    fun _ _ _ _ => rfl
  let view : MappingView := ⟨some []⟩
  have silent : ∀ keys ∈ orders, ∀ key ∈ keys, Underscored key.1 →
      pagesDataset.orderClauses .standard key = .ok [] := by
    have plain : ¬ Underscored "title" := by decide
    refine List.forall_mem_cons.mpr ⟨?_, List.forall_mem_singleton.mpr ?_⟩
    · exact List.forall_mem_cons.mpr ⟨fun reserved => absurd reserved plain,
        List.forall_mem_singleton.mpr fun _ => rfl⟩
    · exact List.forall_mem_singleton.mpr fun reserved => absurd reserved plain
  refine ⟨_, rfl, stored, rfl, rfl, view, silent, _, rfl, by decide +kernel, fun sorter => ?_⟩
  obtain ⟨sortKeys, read, sorts⟩ :=
    (stored_order_sorts_iff stored rfl sorter view documents).2.1 silent
  cases read
  exact sorts (by decide +kernel)

/-- An order by the rank compiles for the valid dataset, and a sort refuses it even without any
document. -/
theorem underscored_order_refused :
    ∃ mapping clauses, pagesDataset.validate = .ok () ∧
      pagesDataset.mapping .standard = .ok mapping ∧
      pagesDataset.compileOrder .standard [[("_rank", .string "ASC")]] = .ok clauses ∧
      ∀ sorter, sortDocuments sorter (.ofMapping mapping) clauses [] =
        .error (.refused (.unsupported (.sort "_rank"))) :=
  ⟨_, _, rfl, rfl, rfl, fun _ => rfl⟩

end TypedSearch
