import TypedSearch.Proofs.Search.Calls
import TypedSearch.Proofs.Table

/-!
What a backend remembers of its calls. Each call names one index and is seen there alone: documents are
kept in the order in which they came, and of the mappings the last one counts. So after any calls
every index is what the history says of it, and a search answers by that. Calls that fail change
nothing, but a panic is the end of it: the indices stay as they were at that point, and no later call
gets to them.
-/

namespace TypedSearch

open Matcher Outcome

namespace StoreCall

/-- Whether an index exists because of a call. -/
def opens (name : String) : StoreCall → Bool
  | insert other _ | extend other _ => other == name
  | createIndex other body => other == name && (body.get? "mappings").isSome
  | search _ _ => false

/-- The documents that a call adds to an index. -/
def documents (name : String) : StoreCall → List Json
  | insert other document => if other = name then [document] else []
  | extend other documents => if other = name then documents else []
  | createIndex _ _ | search _ _ => []

/-- The mapping that a call gives to an index. -/
def mapping? (name : String) : StoreCall → Option Json
  | createIndex other body => if other = name then body.get? "mappings" else none
  | insert _ _ | extend _ _ | search _ _ => none

end StoreCall

namespace Store

/-- The store after some calls that all find the lock in order. -/
def after (store : Store) (calls : List StoreCall) : Store := calls.foldl StoreCall.effect store

/-- The documents that calls add to an index, in the order of the calls. -/
def recordedDocuments (calls : List StoreCall) (name : String) : List Json :=
  calls.flatMap (StoreCall.documents name)

/-- The last mapping that calls give to an index, if any does. -/
def recordedMapping? (calls : List StoreCall) (name : String) : Option Json :=
  (calls.filterMap (StoreCall.mapping? name)).getLast?

variable {store : Store} {calls : List StoreCall} {name other : String} {body mapping : Json}

/-- Setting an index is seen under its name and nowhere else. -/
theorem indexOrEmpty_insert (index : Index) :
    (Store.mk (store.indices.insert other index)).indexOrEmpty name =
      if name = other then index else store.indexOrEmpty name := by
  simp only [indexOrEmpty, Table.get?_insert]
  split <;> rfl

theorem indexOrEmpty_update (change : Index → Index) :
    (store.update other change).indexOrEmpty name =
      if name = other then change (store.indexOrEmpty name) else store.indexOrEmpty name := by
  rw [update, indexOrEmpty_insert]
  by_cases same : name = other
  · rw [same]
  · rw [if_neg same, if_neg same]

/-- What a call does to an index: documents are put behind those that are there, and a mapping takes
the place of the old one. -/
theorem indexOrEmpty_effect (store : Store) (call : StoreCall) (name : String) :
    (call.effect store).indexOrEmpty name =
      ⟨(call.mapping? name).getD (store.indexOrEmpty name).mapping,
        (store.indexOrEmpty name).documents ++ call.documents name⟩ := by
  have extended : ∀ other documents, (store.extend other documents).indexOrEmpty name =
      ⟨(store.indexOrEmpty name).mapping,
        (store.indexOrEmpty name).documents ++ if other = name then documents else []⟩ := by
    intro other documents
    rw [extend, indexOrEmpty_update]
    by_cases same : name = other
    · simp [same]
    · simp [same, Ne.symm same]
  cases call with
  | insert other document => exact extended other [document]
  | extend other documents => exact extended other documents
  | search other request => simp [StoreCall.effect, StoreCall.mapping?, StoreCall.documents]
  | createIndex other body =>
    cases given : body.get? "mappings" with
    | none => simp [StoreCall.effect, StoreCall.mapping?, StoreCall.documents, given]
    | some mapping =>
      simp only [StoreCall.effect, StoreCall.mapping?, StoreCall.documents, given, setMapping,
        indexOrEmpty_update, List.append_nil]
      by_cases same : name = other
      · simp [same]
      · simp [same, Ne.symm same]

/-- An index exists after a call if it did before or the call opens it. -/
theorem contains_effect (store : Store) (call : StoreCall) (name : String) :
    (call.effect store).indices.contains name =
      (store.indices.contains name || call.opens name) := by
  have updated : ∀ other change, (store.update other change).indices.contains name =
      (store.indices.contains name || other == name) := by
    intro other change
    rw [update, Table.contains_insert, Bool.or_comm, Bool.beq_comm]
  cases call with
  | insert other document => exact updated other _
  | extend other documents => exact updated other _
  | search other request => simp [StoreCall.effect, StoreCall.opens]
  | createIndex other body =>
    cases given : body.get? "mappings" with
    | none => simp [StoreCall.effect, StoreCall.opens, given]
    | some mapping =>
      simp only [StoreCall.effect, setMapping, updated, StoreCall.opens, given,
        Option.isSome_some, Bool.and_true]

/-- After any calls an index is what they record of it on top of what it was. -/
theorem indexOrEmpty_after (store : Store) (calls : List StoreCall) (name : String) :
    (store.after calls).indexOrEmpty name =
      ⟨(recordedMapping? calls name).getD (store.indexOrEmpty name).mapping,
        (store.indexOrEmpty name).documents ++ recordedDocuments calls name⟩ := by
  induction calls generalizing store with
  | nil => simp [after, recordedMapping?, recordedDocuments]
  | cons call rest ih =>
    have step : store.after (call :: rest) = (call.effect store).after rest := rfl
    rw [step, ih, indexOrEmpty_effect]
    simp only [recordedMapping?, recordedDocuments, List.flatMap_cons, List.append_assoc,
      List.filterMap_cons]
    cases call.mapping? name with
    | none => rfl
    | some mapping => simp [List.getLast?_cons]

/-- After any calls an index exists exactly if it did before or a call opens it. -/
theorem contains_after (store : Store) (calls : List StoreCall) (name : String) :
    (store.after calls).indices.contains name =
      (store.indices.contains name || calls.any (StoreCall.opens name)) := by
  induction calls generalizing store with
  | nil => simp [after]
  | cons call rest ih =>
    have step : store.after (call :: rest) = (call.effect store).after rest := rfl
    rw [step, ih, contains_effect, List.any_cons, Bool.or_assoc]

/-- An index is found exactly if the store has it. -/
theorem get?_eq (store : Store) (name : String) :
    store.indices.get? name =
      if store.indices.contains name then some (store.indexOrEmpty name) else none := by
  rw [Table.contains, indexOrEmpty]
  cases store.indices.get? name <;> rfl

end Store

namespace Backend

/-- Carries out calls one after the other and gives their outcomes. A call that fails does not keep the
later ones from being made. -/
def run (sorter : Sorter) (calls : List StoreCall) :
    StateM Backend (List (Except SearchFailure Reply)) :=
  calls.mapM fun call => (call.program sorter).run

variable {sorter : Sorter} {calls rest : List StoreCall} {call : StoreCall}

theorem run_cons {backend left : Backend} {outcome : Except SearchFailure Reply}
    (ran : (call.program sorter).run.run backend = (outcome, left)) :
    (run sorter (call :: rest)).run backend =
      (outcome :: ((run sorter rest).run left).1, ((run sorter rest).run left).2) := by
  have given : (run sorter (call :: rest)).run backend =
      (((call.program sorter).run.run backend).1 ::
          ((run sorter rest).run ((call.program sorter).run.run backend).2).1,
        ((run sorter rest).run ((call.program sorter).run.run backend).2).2) := by
    rw [run, List.mapM_cons]
    rfl
  rw [given, ran]

/-- Once the lock is poisoned, calls change nothing and do not panic. -/
theorem run_poisoned (sorter : Sorter) (calls : List StoreCall) (store : Store) :
    .error .panicked ∉ ((run sorter calls).run ⟨store, true⟩).1 ∧
      ((run sorter calls).run ⟨store, true⟩).2 = ⟨store, true⟩ := by
  induction calls with
  | nil => exact ⟨List.not_mem_nil, rfl⟩
  | cons call rest ih =>
    obtain ⟨issue, ran⟩ := call.program_poisoned sorter store
    rw [run_cons ran]
    refine ⟨?_, ih.2⟩
    rintro (_ | ⟨_, later⟩)
    exact ih.1 later

/-- Calls that do not panic have their effects one after the other. A panic is that of a search, and it
leaves the indices as the calls before it did. -/
theorem run_cases (sorter : Sorter) (calls : List StoreCall) (store : Store) :
    .error .panicked ∉ ((run sorter calls).run ⟨store, false⟩).1 ∧
        ((run sorter calls).run ⟨store, false⟩).2 = ⟨store.after calls, false⟩ ∨
      .error .panicked ∈ ((run sorter calls).run ⟨store, false⟩).1 ∧
        ∃ before name request later, calls = before ++ .search name request :: later ∧
          .error .panicked ∉ ((run sorter before).run ⟨store, false⟩).1 ∧
          (store.after before).search sorter name request = .error .panicked ∧
          ((run sorter calls).run ⟨store, false⟩).2 = ⟨store.after before, true⟩ := by
  induction calls generalizing store with
  | nil => exact .inl ⟨List.not_mem_nil, rfl⟩
  | cons call rest ih =>
    have ran := call.program_run sorter store
    rw [run_cons ran]
    by_cases panicked : call.outcome sorter store = .error .panicked
    · obtain ⟨name, request, rfl, searched⟩ := StoreCall.search_of_panic panicked
      rw [panicked]
      exact .inr ⟨List.mem_cons_self, [], name, request, rest, rfl, List.not_mem_nil, searched,
        (run_poisoned sorter rest store).2⟩
    · have calm : panics (call.outcome sorter store) = false :=
        Bool.eq_false_iff.mpr (mt panics_iff.mp panicked)
      rw [calm] at ran ⊢
      rcases ih (call.effect store) with
        ⟨quiet, left⟩ | ⟨inside, before, name, request, later, rfl, quiet, searched, left⟩
      · refine .inl ⟨?_, left⟩
        exact List.not_mem_cons_of_ne_of_not_mem (Ne.symm panicked) quiet
      · refine .inr ⟨List.mem_cons_of_mem _ inside, call :: before, name, request, later, rfl, ?_,
          searched, left⟩
        rw [run_cons ran]
        exact List.not_mem_cons_of_ne_of_not_mem (Ne.symm panicked) quiet

theorem run_calm {store : Store}
    (calm : .error .panicked ∉ ((run sorter calls).run ⟨store, false⟩).1) :
    ((run sorter calls).run ⟨store, false⟩).2 = ⟨store.after calls, false⟩ := by
  rcases run_cases sorter calls store with ⟨-, left⟩ | ⟨panicked, -⟩
  · exact left
  · exact (calm panicked).elim

/-- Where sorts merge, no call panics. -/
theorem run_merge (calls : List StoreCall) (store : Store) :
    .error .panicked ∉ ((run .merge calls).run ⟨store, false⟩).1 := by
  rcases run_cases .merge calls store with ⟨quiet, -⟩ | ⟨-, before, name, request, -, -, -, panicked, -⟩
  · exact quiet
  · exact (Store.search_merge _ _ _ panicked).elim

end Backend

open Store

end TypedSearch
