import TypedSearch.Proofs.Search.Scripts
import TypedSearch.Search.Backend

/-!
What one call does to a backend. A poisoned lock refuses it. Otherwise it leaves the indices as its work
does, and it poisons the lock if it panics. Only the sort of a search can panic, and only where the hits
contradict the order that is asked for.
-/

namespace TypedSearch

open Matcher Outcome

/-- What a request finds in an index contradicts the order that it asks for: the clauses are read, but
their order is not consistent on the hits. -/
inductive Store.Contradicts (store : Store) (name : String) (request : SearchRequest) : Prop where
  | hits {index : Index} {clauses found : List Json} {keys : List SortKey}
      (there : store.indices.get? name = some index) (asked : request.sort = some clauses)
      (tested : index.documents.filterM (test (.ofMapping index.mapping) request.query) = .ok found)
      (read : clauses.mapM (SortKey.ofClause (.ofMapping index.mapping)) = .ok keys)
      (inconsistent : ¬ ConsistentOn (SortKey.orderAll keys) found)

section Panics

variable {sorter : Sorter} {store : Store} {name : String} {request : SearchRequest}

theorem Store.search_missing (sorter : Sorter) (missing : store.indices.get? name = none)
    (request : SearchRequest) :
    store.search sorter name request = .error (.refused (.backend (.noIndex name))) := by
  rw [search, missing]

/-- A search that panics does so in its sort. -/
theorem Store.search_sorts (panicked : store.search sorter name request = .error .panicked) :
    ∃ index hits clauses, store.indices.get? name = some index ∧
      index.documents.filterM (test (.ofMapping index.mapping) request.query) = .ok hits ∧
      request.sort = some clauses ∧
      sortDocuments sorter (.ofMapping index.mapping) clauses hits = .error .panicked := by
  cases there : store.indices.get? name with
  | none =>
    rw [search_missing sorter there] at panicked
    cases panicked
  | some index =>
    rw [search, there] at panicked
    rcases Index.search_eq_error panicked with
      ⟨document, -, problem, impossible, -⟩ | ⟨hits, clauses, tested, asked, failed⟩
    · cases impossible
    · exact ⟨index, hits, clauses, rfl, tested, asked, failed⟩

theorem Store.contradicts_of_panic (panicked : store.search sorter name request = .error .panicked) :
    store.Contradicts name request := by
  obtain ⟨index, hits, clauses, there, tested, asked, failed⟩ := search_sorts panicked
  rcases sortDocuments_eq_error failed with ⟨-, -, _, impossible, -⟩ | ⟨-, keys, read, inconsistent⟩
  · cases impossible
  · exact .hits there asked tested read inconsistent

/-- Where sorts merge, no search panics. -/
theorem Store.search_merge (store : Store) (name : String) (request : SearchRequest) :
    store.search .merge name request ≠ .error .panicked := by
  intro panicked
  obtain ⟨index, hits, clauses, -, -, -, failed⟩ := search_sorts panicked
  cases read : clauses.mapM (SortKey.ofClause (.ofMapping index.mapping)) with
  | error problem =>
    rw [sortDocuments_unread .merge hits read] at failed
    cases failed
  | ok keys =>
    rw [sortDocuments, sortInPlace_read .merge hits read] at failed
    cases failed

end Panics

namespace Backend

variable {α : Type} {body mapping : Json}

theorem panics_iff {outcome : Except SearchFailure α} :
    panics outcome = true ↔ outcome = .error .panicked := by
  cases outcome with
  | ok answer => simp [panics]
  | error failure => cases failure <;> simp [panics, SearchFailure.isPanic]

/-- Behind a poisoned lock nothing is done. -/
theorem locked_poisoned (work : ExceptT SearchFailure (StateM Store) α) (store : Store) :
    (locked work).run.run ⟨store, true⟩ =
      (.error (.refused (.backend .poisoned)), ⟨store, true⟩) := rfl

/-- Otherwise a call ends as its work does, and a panic poisons the lock. -/
theorem locked_run {work : ExceptT SearchFailure (StateM Store) α} {store left : Store}
    {outcome : Except SearchFailure α} (worked : work.run.run store = (outcome, left)) :
    (locked work).run.run ⟨store, false⟩ = (outcome, ⟨left, panics outcome⟩) := by
  have given : (locked work).run.run ⟨store, false⟩ =
      ((do
        set (Backend.mk (work.run.run store).2 (panics (work.run.run store).1))
        let answer ← (work.run.run store).1
        return answer : Call α)).run.run ⟨store, false⟩ := rfl
  rw [given, worked]
  cases outcome <;> rfl

theorem extend_run (store : Store) (name : String) (documents : List Json) :
    (extend name documents).run.run ⟨store, false⟩ =
      (.ok (), ⟨store.extend name documents, false⟩) := locked_run rfl

theorem extend_poisoned (store : Store) (name : String) (documents : List Json) :
    (extend name documents).run.run ⟨store, true⟩ =
      (.error (.refused (.backend .poisoned)), ⟨store, true⟩) := locked_poisoned _ store

/-- A new index without mappings is refused and changes nothing, whatever the state of the lock. -/
theorem createIndex_unmapped (name : String) (missing : body.get? "mappings" = none)
    (backend : Backend) :
    (createIndex name body).run.run backend =
      (.error (.refused (.backend (.noMappings name))), backend) := by
  rw [createIndex, missing]
  rfl

theorem createIndex_mapped (name : String) (given : body.get? "mappings" = some mapping)
    (store : Store) :
    (createIndex name body).run.run ⟨store, false⟩ =
      (.ok (), ⟨store.setMapping name mapping, false⟩) := by
  rw [createIndex, given]
  exact locked_run rfl

theorem createIndex_poisoned (name : String) (given : body.get? "mappings" = some mapping)
    (store : Store) :
    (createIndex name body).run.run ⟨store, true⟩ =
      (.error (.refused (.backend .poisoned)), ⟨store, true⟩) := by
  rw [createIndex, given]
  exact locked_poisoned _ store

theorem search_poisoned (sorter : Sorter) (store : Store) (name : String) (request : SearchRequest) :
    (search sorter name request).run.run ⟨store, true⟩ =
      (.error (.refused (.backend .poisoned)), ⟨store, true⟩) := locked_poisoned _ store

/-- A search leaves the indices as they are. -/
theorem search_run (sorter : Sorter) (store : Store) (name : String) (request : SearchRequest) :
    (search sorter name request).run.run ⟨store, false⟩ =
      (store.search sorter name request, ⟨store, panics (store.search sorter name request)⟩) := by
  refine locked_run ?_
  have given : ((do
      let hits ← (← get).search sorter name request
      return hits : ExceptT SearchFailure (StateM Store) (List Json))).run.run store =
      ((do
        let hits ← store.search sorter name request
        return hits : ExceptT SearchFailure (StateM Store) (List Json))).run.run store := rfl
  rw [given]
  cases store.search sorter name request <;> rfl

end Backend

/-- A call to a backend. -/
inductive StoreCall where
  | insert (name : String) (document : Json)
  | extend (name : String) (documents : List Json)
  | createIndex (name : String) (body : Json)
  | search (name : String) (request : SearchRequest)

/-- What a call answers. -/
inductive Reply where
  | done
  | hits (documents : List Json)
  deriving DecidableEq

namespace StoreCall

def program (sorter : Sorter) : StoreCall → Backend.Call Reply
  | insert name document => do
    Backend.insert name document
    return .done
  | extend name documents => do
    Backend.extend name documents
    return .done
  | createIndex name body => do
    Backend.createIndex name body
    return .done
  | search name request => do return .hits (← Backend.search sorter name request)

/-- The indices after a call that finds the lock in order. -/
def effect (store : Store) : StoreCall → Store
  | insert name document => store.extend name [document]
  | extend name documents => store.extend name documents
  | createIndex name body =>
    match body.get? "mappings" with
    | some mapping => store.setMapping name mapping
    | none => store
  | search _ _ => store

/-- How a call ends that finds the lock in order. -/
def outcome (sorter : Sorter) (store : Store) : StoreCall → Except SearchFailure Reply
  | insert _ _ | extend _ _ => .ok .done
  | createIndex name body =>
    if (body.get? "mappings").isSome then .ok .done
    else .error (.refused (.backend (.noMappings name)))
  | search name request => Reply.hits <$> store.search sorter name request

/-- A call has its effect, and it poisons the lock if it panics. -/
theorem program_run (sorter : Sorter) (store : Store) (call : StoreCall) :
    (call.program sorter).run.run ⟨store, false⟩ =
      (call.outcome sorter store, ⟨call.effect store, Backend.panics (call.outcome sorter store)⟩) := by
  cases call with
  | insert name document =>
    exact run_return (fun _ => Reply.done) (Backend.extend_run store name [document])
  | extend name documents =>
    exact run_return (fun _ => Reply.done) (Backend.extend_run store name documents)
  | createIndex name body =>
    rw [effect, outcome]
    cases given : body.get? "mappings" with
    | none => exact run_return (fun _ => Reply.done) (Backend.createIndex_unmapped name given _)
    | some mapping => exact run_return (fun _ => Reply.done) (Backend.createIndex_mapped name given store)
  | search name request =>
    rw [program, run_return Reply.hits (Backend.search_run sorter store name request), effect,
      outcome]
    cases store.search sorter name request <;> rfl

/-- Once the lock is poisoned a call is refused and changes nothing. -/
theorem program_poisoned (sorter : Sorter) (store : Store) (call : StoreCall) :
    ∃ issue, (call.program sorter).run.run ⟨store, true⟩ =
      (.error (.refused (.backend issue)), ⟨store, true⟩) := by
  cases call with
  | insert name document =>
    exact ⟨_, run_bind_error (Backend.extend_poisoned store name [document])⟩
  | extend name documents =>
    exact ⟨_, run_bind_error (Backend.extend_poisoned store name documents)⟩
  | search name request =>
    exact ⟨_, run_bind_error (Backend.search_poisoned sorter store name request)⟩
  | createIndex name body =>
    cases given : body.get? "mappings" with
    | none => exact ⟨_, run_bind_error (Backend.createIndex_unmapped name given _)⟩
    | some mapping =>
      exact ⟨_, run_bind_error (Backend.createIndex_poisoned name given store)⟩

/-- Only a search panics. -/
theorem search_of_panic {sorter : Sorter} {store : Store} {call : StoreCall}
    (panicked : call.outcome sorter store = .error .panicked) :
    ∃ name request, call = search name request ∧
      store.search sorter name request = .error .panicked := by
  cases call with
  | insert | extend => cases panicked
  | createIndex name body =>
    rw [outcome] at panicked
    split at panicked
    · cases panicked
    · cases panicked
  | search name request =>
    refine ⟨name, request, rfl, ?_⟩
    rw [outcome] at panicked
    cases found : store.search sorter name request with
    | ok hits =>
      rw [found] at panicked
      cases panicked
    | error failure =>
      rw [found] at panicked
      exact congrArg Except.error (Except.error.inj panicked)

end StoreCall

end TypedSearch
