import TypedSearch.Proofs.Search.History
import TypedSearch.Search.Engine

/-!
Engines put to work. An engine that is built can give its indices to a fresh backend, once or again
and with documents in between. From then on every dataset of its catalog is served: a search ends in
an answer, in a problem of its arguments, or in something that the backend does not support. What else
may happen is a panic, where the hits contradict the order that is asked for.
-/

namespace TypedSearch

open Outcome

namespace StoreCall

/-- Whether a call may change a mapping. -/
def isCreation : StoreCall → Bool
  | createIndex _ _ => true
  | insert _ _ | extend _ _ | search _ _ => false

/-- The call that gives an index its mapping. -/
def creation (entry : String × Json) : StoreCall := createIndex entry.1 (indexBody entry.2)

/-- The calls that give all indices their mappings. -/
def creations (mappings : Table Json) : List StoreCall := mappings.entries.map creation

theorem mapping?_creation (entry : String × Json) (name : String) :
    (creation entry).mapping? name = if entry.1 = name then some entry.2 else none := rfl

theorem opens_creation (entry : String × Json) (name : String) :
    (creation entry).opens name = (entry.1 == name) := by
  have given : (indexBody entry.2).get? "mappings" = some entry.2 := rfl
  rw [creation, opens, given, Option.isSome_some, Bool.and_true]

theorem mapping?_eq_none {call : StoreCall} (kept : call.isCreation = false) (name : String) :
    call.mapping? name = none := by
  cases call with
  | createIndex other body => cases kept
  | insert | extend | search => rfl

end StoreCall

open StoreCall

namespace Store

variable {store : Store} {mappings : Table Json} {name : String} {calls : List StoreCall}

/-- Stores are equal if they have the same indices with the same contents. -/
theorem ext_indices {left right : Store}
    (listed : ∀ name, left.indices.contains name = right.indices.contains name)
    (content : ∀ name, left.indexOrEmpty name = right.indexOrEmpty name) : left = right := by
  have indices : left.indices = right.indices := by
    refine Table.ext_get? fun name => ?_
    rw [get?_eq, get?_eq, listed, content]
  cases left
  cases right
  cases indices
  rfl

/-- Of several creations only that of a name counts for it. -/
private theorem recorded_entries (entries : List (String × Json)) (ordered : Ascending entries)
    (name : String) :
    entries.filterMap (fun entry => (creation entry).mapping? name) =
      (entries.lookup name).toList := by
  induction entries with
  | nil => rfl
  | cons entry rest ih =>
    obtain ⟨key, mapping⟩ := entry
    obtain ⟨before, tail⟩ := List.pairwise_cons.mp ordered
    rw [List.filterMap_cons, ih tail, mapping?_creation]
    by_cases same : name = key
    · subst same
      have absent : rest.lookup name = none := by
        refine List.lookup_eq_none_iff.mpr fun later listed => ?_
        exact bne_iff_ne.mpr (String.ne_of_lt (before later listed))
      simp [absent]
    · simp [Ne.symm same, Table.lookup_cons_ne same]

theorem recordedMapping?_creations (mappings : Table Json) (name : String) :
    recordedMapping? (creations mappings) name = mappings.get? name := by
  rw [recordedMapping?, creations, List.filterMap_map, Function.comp_def,
    recorded_entries mappings.entries mappings.ascending name, Table.get?]
  cases mappings.entries.lookup name <;> rfl

theorem recordedDocuments_creations (mappings : Table Json) (name : String) :
    recordedDocuments (creations mappings) name = [] := by
  rw [recordedDocuments, List.flatMap_eq_nil_iff]
  intro call listed
  obtain ⟨entry, -, rfl⟩ := List.mem_map.mp listed
  rfl

/-- What creations do to an index: it has its mapping, and nothing else about it is changed. -/
theorem indexOrEmpty_creations (store : Store) (mappings : Table Json) (name : String) :
    (store.after (creations mappings)).indexOrEmpty name =
      { store.indexOrEmpty name with
        mapping := (mappings.get? name).getD (store.indexOrEmpty name).mapping } := by
  rw [indexOrEmpty_after, recordedMapping?_creations, recordedDocuments_creations, List.append_nil]

theorem contains_creations (store : Store) (mappings : Table Json) (name : String) :
    (store.after (creations mappings)).indices.contains name =
      (store.indices.contains name || mappings.contains name) := by
  have opened : (creations mappings).any (StoreCall.opens name) = mappings.contains name := by
    rw [Bool.eq_iff_iff, ← Table.mem_names, Table.names, creations, List.any_map]
    simp [opens_creation]
  rw [contains_after, opened]

/-- A store has an index with its mapping for each name of a table. -/
def Holds (store : Store) (mappings : Table Json) : Prop :=
  ∀ name mapping, mappings.get? name = some mapping →
    store.indices.contains name = true ∧ (store.indexOrEmpty name).mapping = mapping

theorem holds_creations (store : Store) (mappings : Table Json) :
    (store.after (creations mappings)).Holds mappings := by
  intro name mapping found
  have held : mappings.contains name = true := by
    rw [Table.contains, found, Option.isSome_some]
  rw [contains_creations, indexOrEmpty_creations, held, found]
  exact ⟨Bool.or_true _, rfl⟩

/-- Calls that create nothing leave the mappings alone. -/
theorem Holds.after (holds : store.Holds mappings) (kept : ∀ call ∈ calls, call.isCreation = false) :
    (store.after calls).Holds mappings := by
  intro name mapping found
  obtain ⟨listed, own⟩ := holds name mapping found
  have unrecorded : recordedMapping? calls name = none := by
    rw [recordedMapping?, List.getLast?_eq_none_iff, List.filterMap_eq_nil_iff]
    exact fun call inside => mapping?_eq_none (kept call inside) name
  rw [contains_after, indexOrEmpty_after, unrecorded, listed]
  exact ⟨rfl, own⟩

/-- Creating the indices again that a store has changes nothing. -/
theorem Holds.creations_eq (holds : store.Holds mappings) :
    store.after (creations mappings) = store := by
  refine ext_indices (fun name => ?_) fun name => ?_
  · rw [contains_creations]
    cases found : mappings.get? name with
    | none => simp [Table.contains, found]
    | some mapping => simp [(holds name mapping found).1]
  · rw [indexOrEmpty_creations]
    cases found : mappings.get? name with
    | none => rfl
    | some mapping => rw [Option.getD_some, ← (holds name mapping found).2]

end Store

open Store

section Engines

variable {config : EngineConfig} {catalog : Catalog} {engine : Engine} {store : Store}

namespace Engine

theorem ofCatalog_eq_ok {α : Type} {step : Except Problem α} {value : α} :
    ofCatalog step = .ok value ↔ step = .ok value := by
  cases step <;> simp [ofCatalog]

theorem ofRequest_eq_ok {α : Type} {step : Except Problem α} {value : α} :
    ofRequest step = .ok value ↔ step = .ok value := by
  cases step <;> simp [ofRequest]

theorem ofRequest_eq_error {α : Type} {step : Except Problem α} {problem : SearchError}
    (failed : ofRequest step = .error problem) : ∃ cause, problem = .query cause := by
  cases step with
  | ok value => cases failed
  | error cause => exact ⟨cause, (Except.error.inj failed).symm⟩

/-- Creating indices one after the other answers with their names. -/
private theorem created_run (entries : List (String × Json)) (store : Store) :
    (entries.mapM fun entry => do
      Backend.createIndex entry.1 (indexBody entry.2)
      return entry.1 : Backend.Call (List String)).run.run ⟨store, false⟩ =
    (.ok (entries.map (·.1)), ⟨store.after (entries.map creation), false⟩) := by
  induction entries generalizing store with
  | nil => rfl
  | cons entry rest ih =>
    have given : (indexBody entry.2).get? "mappings" = some entry.2 := rfl
    have first := run_return (fun _ => entry.1) (Backend.createIndex_mapped entry.1 given store)
    rw [List.mapM_cons, run_bind_ok first]
    exact run_return (entry.1 :: ·) (ih _)

/-- Creating the indices of an engine gives its mappings to the store. -/
theorem createIndices_run {mappings : Table Json} (mapped : engine.mappings = .ok mappings)
    (store : Store) :
    engine.createIndices.run.run ⟨store, false⟩ =
      (.ok mappings.names, ⟨store.after (creations mappings), false⟩) := by
  unfold createIndices
  rw [mapped]
  exact created_run mappings.entries store

/-- An engine is built from a valid catalog that has an API and mappings. -/
theorem build_eq_ok (scripted : catalog.IsScripted)
    (built : Engine.build config catalog .standard = .ok engine) :
    engine.config = config ∧ engine.catalog = catalog ∧ engine.registry = .standard ∧
      catalog.validate = .ok () ∧
      ∃ mappings, catalog.mappings .standard config = .ok mappings := by
  obtain ⟨api, made, built⟩ := bind_eq_ok.mp built
  obtain ⟨mappings, mapped, same⟩ := bind_eq_ok.mp built
  cases same
  have valid := (Catalog.generated_contents (Catalog.isBuilt_of_scripted scripted)
    (ofCatalog_eq_ok.mp made)).1
  exact ⟨rfl, rfl, rfl, valid, mappings, ofCatalog_eq_ok.mp mapped⟩

/-- An engine finds for a dataset its index, and under that a mapping which agrees with its own. -/
theorem dataset_mapped {mappings : Table Json} (valid : engine.catalog.validate = .ok ())
    (mapped : engine.catalog.mappings .standard engine.config = .ok mappings) {name : String}
    {dataset : Dataset} (found : engine.catalog.get? name = some dataset) :
    engine.indexName name = .ok (engine.config.indexName dataset.index) ∧
      ∃ mapping stored, dataset.mapping .standard = .ok mapping ∧
        mappings.get? (engine.config.indexName dataset.index) = some stored ∧
        stored.agrees mapping = true := by
  have listed := Table.get?_eq_some_iff.mp found
  obtain ⟨mapping, stored, made, under, same⟩ := Catalog.addMappings_mapped mapped listed
  refine ⟨?_, mapping, stored, made, under, ?_⟩
  · rw [Engine.indexName, Engine.dataset, found]
    rfl
  · rcases same with rfl | alike
    · have checked := (Catalog.validate_eq_ok.mp valid _ listed).2
      exact Dataset.mapping_agrees (Dataset.schema_valid checked) made
    · exact alike

end Engine

end Engines

/-- The clauses of a scripted order ask for a script. -/
theorem scriptSort_clause {source kind : String} {takes : Bool} {site : ComputedSite}
    {params : Json} {clauses : List Json} {clause : Json}
    (ran : (ComputedField.scriptSort source kind takes).resolve site params = .ok (some clauses))
    (member : clause ∈ clauses) :
    ∃ direction script, clause = Clause.scriptSort kind direction script := by
  obtain ⟨given, -, ran⟩ := bind_eq_ok.mp ran
  obtain ⟨direction, -, same⟩ := bind_eq_ok.mp ran
  cases same
  exact ⟨direction, _, List.mem_singleton.mp member⟩

namespace Dataset

variable {dataset : Dataset} {clauses : List Json} {clause : Json} {view : MappingView}

/-- What a sort refuses of a compiled order is a key that it does not support. -/
theorem order_clause_refused (scripted : dataset.IsScripted) {orders : List Json.Entries}
    (compiled : dataset.compileOrder .standard orders = .ok clauses) (member : clause ∈ clauses)
    {problem : SearchError} (refused : SortKey.ofClause view clause = .error problem) :
    ∃ key, problem = .unsupported (.sort key) := by
  obtain ⟨keys, -, key, -, found, ran, own⟩ := (mem_compileOrder compiled).mp member
  obtain ⟨-, source, leads, answered⟩ := (orderClauses_some_iff (List.ne_nil_of_mem own)).mp ran
  obtain ⟨listed, -⟩ := mem_of_member? leads
  have script := members_scripted scripted source listed
  cases source with
  | stored field =>
    obtain ⟨name, direction, rfl, -⟩ := stored_sort_clause answered own
    rw [SortKey.ofClause_sort] at refused
    split at refused
    next => exact ⟨name, (Except.error.inj refused).symm⟩
    next => cases refused
  | computed name field =>
    rcases ComputedField.scripted_order script with ⟨-, nothing⟩ | ⟨-, source, kind, hook⟩
    · rw [Member.sortClauses, nothing] at answered
      cases answered
    · rw [Member.sortClauses, hook] at answered
      obtain ⟨direction, script, rfl⟩ := scriptSort_clause answered own
      exact ⟨"_script", (Except.error.inj refused).symm⟩

/-- A search for what a client's arguments compile to can only meet what a store does not support, or
panic where the hits contradict the order. -/
theorem compiled_search_fails (scripted : dataset.IsScripted) {arguments : DatasetArguments}
    {request : SearchRequest} (compiled : dataset.compileSearch .standard arguments = .ok request)
    {sorter : Sorter} {store : Store} {name : String}
    (served : store.indices.contains name = true) {failure : SearchFailure}
    (failed : store.search sorter name request = .error failure) :
    (∃ what, failure = .refused (.unsupported what)) ∨
      failure = .panicked ∧ store.Contradicts name request := by
  obtain ⟨query, ranFilter, compiled⟩ := bind_eq_ok.mp compiled
  obtain ⟨sort, ranOrder, same⟩ := bind_eq_ok.mp compiled
  cases same
  have searched := failed
  rw [Store.search, Store.get?_eq, if_pos served] at searched
  rcases Index.search_eq_error searched with
    ⟨document, -, problem, rfl, own⟩ | ⟨hits, clauses, -, given, unsorted⟩
  · refine .inl ⟨_, congrArg _ (composed_test_error (compiled_composed scripted ranFilter) own).1⟩
  · rcases sortDocuments_eq_error unsorted with ⟨clause, member, problem, rfl, refused⟩ | ⟨rfl, -⟩
    · have own : clause ∈ sort := by
        split at given
        · cases given
        · cases given
          exact member
      obtain ⟨key, rfl⟩ := order_clause_refused scripted ranOrder own refused
      exact .inl ⟨_, rfl⟩
    · exact .inr ⟨rfl, Store.contradicts_of_panic failed⟩

end Dataset

namespace Engine

variable {engine : Engine} {name index : String} {dataset : Dataset} {arguments : Json}
  {sorter : Sorter}

/-- Arguments for a dataset of the catalog are refused for what is asked. -/
theorem compile_eq_error (found : engine.catalog.get? name = some dataset) {problem : SearchError}
    (failed : engine.compile name arguments = .error problem) :
    ∃ cause, problem = .query cause := by
  rw [compile, Engine.dataset, found, ok_bind] at failed
  rcases bind_eq_error.mp failed with unread | ⟨parsed, -, refused⟩
  · exact ofRequest_eq_error unread
  · exact ofRequest_eq_error refused

/-- What is compiled for a dataset of the catalog is compiled from arguments that are read. -/
theorem compile_eq_ok (standard : engine.registry = .standard)
    (found : engine.catalog.get? name = some dataset) {request : SearchRequest}
    (compiled : engine.compile name arguments = .ok request) :
    ∃ parsed, dataset.compileSearch .standard parsed = .ok request := by
  rw [compile, Engine.dataset, found, ok_bind, standard] at compiled
  obtain ⟨parsed, -, asked⟩ := bind_eq_ok.mp compiled
  exact ⟨parsed, ofRequest_eq_ok.mp asked⟩

/-- A request that does not compile is refused before the backend is asked. -/
theorem search_uncompiled {problem : SearchError}
    (failed : engine.compile name arguments = .error problem) (backend : Backend) :
    (engine.search sorter name arguments).run.run backend = (.error (.refused problem), backend) := by
  unfold Engine.search
  rw [failed]
  rfl

/-- One that compiles is passed on to the index of the dataset. -/
theorem search_compiled {request : SearchRequest}
    (compiled : engine.compile name arguments = .ok request)
    (named : engine.indexName name = .ok index) (backend : Backend) :
    (engine.search sorter name arguments).run.run backend =
      (Backend.search sorter index request).run.run backend := by
  unfold Engine.search
  rw [compiled, named]
  rfl

/-- Where a dataset finds its index, a search fails with a problem of the request or with what the store
does not support, or it panics where the hits contradict the order. -/
theorem search_fails (standard : engine.registry = .standard)
    (found : engine.catalog.get? name = some dataset) (scripted : dataset.IsScripted)
    (named : engine.indexName name = .ok index) {store : Store}
    (served : store.indices.contains index = true) {failure : SearchFailure}
    (failed : ((engine.search sorter name arguments).run.run ⟨store, false⟩).1 = .error failure) :
    (∃ cause, failure = .refused (.query cause)) ∨ (∃ what, failure = .refused (.unsupported what)) ∨
      failure = .panicked ∧ ∃ request, engine.compile name arguments = .ok request ∧
        store.Contradicts index request := by
  cases compiled : engine.compile name arguments with
  | error problem =>
    rw [search_uncompiled compiled] at failed
    cases failed
    obtain ⟨cause, rfl⟩ := compile_eq_error found compiled
    exact .inl ⟨cause, rfl⟩
  | ok request =>
    rw [search_compiled compiled named, Backend.search_run] at failed
    obtain ⟨parsed, asked⟩ := compile_eq_ok standard found compiled
    refine .inr ((Dataset.compiled_search_fails scripted asked served failed).imp_right ?_)
    rintro ⟨panics, contradicts⟩
    exact ⟨panics, request, rfl, contradicts⟩

end Engine

/-- An engine that is built can give its indices to a fresh backend. That then has the indices of the
datasets and no others, their names are answered in ascending order, and every dataset finds its own
mapping, but for the order of entries. As long as calls only add documents and search, and none of them
panics, creating the indices again changes nothing, and a search for a dataset of the catalog fails with
a problem of the request or with what the backend does not support, unless it panics, for hits that
contradict the order that its arguments ask for. -/
theorem built_engine_deploys {config : EngineConfig} {catalog : Catalog} {engine : Engine}
    (scripted : catalog.IsScripted)
    (built : Engine.build config catalog .standard = .ok engine) :
    ∃ store names, engine.createIndices.run.run .fresh = (.ok names, ⟨store, false⟩) ∧
      names.Pairwise (· < ·) ∧ store.names = names ∧
      (∀ index, index ∈ names ↔
        ∃ entry ∈ catalog.datasets.entries, config.indexName entry.2.index = index) ∧
      (∀ name dataset, catalog.get? name = some dataset → ∃ index mapping stored,
        engine.indexName name = .ok index ∧ dataset.mapping .standard = .ok mapping ∧
        store.mapping? index = some stored ∧ stored.agrees mapping = true) ∧
      ∀ (sorter : Sorter) (calls : List StoreCall), (∀ call ∈ calls, call.isCreation = false) →
        let outcomes := ((Backend.run sorter calls).run ⟨store, false⟩).1
        let backend := ((Backend.run sorter calls).run ⟨store, false⟩).2
        .error .panicked ∉ outcomes →
        engine.createIndices.run.run backend = (.ok names, backend) ∧
        ∀ name dataset, catalog.get? name = some dataset → ∀ arguments failure,
          ((engine.search sorter name arguments).run.run backend).1 = .error failure →
          (∃ cause, failure = .refused (.query cause)) ∨
          (∃ what, failure = .refused (.unsupported what)) ∨
          failure = .panicked ∧ ∃ index request, engine.indexName name = .ok index ∧
            engine.compile name arguments = .ok request ∧
            backend.store.Contradicts index request := by
  obtain ⟨rfl, rfl, standard, valid, mappings, mapped⟩ := Engine.build_eq_ok scripted built
  have own : engine.mappings = .ok mappings := by
    rw [Engine.mappings, standard, mapped]
    rfl
  let store := Store.empty.after (creations mappings)
  have holds : store.Holds mappings := holds_creations .empty mappings
  refine ⟨store, mappings.names, Engine.createIndices_run own .empty, mappings.names_ascending,
    ?_, fun index => ?_, fun name dataset found => ?_, fun sorter calls kept => ?_⟩
  · exact Table.names_eq_of_contains fun index => contains_creations .empty mappings index
  · rw [Table.mem_names, Catalog.addMappings_contains mapped]
    simp [Table.contains]
  · obtain ⟨named, mapping, stored, made, under, alike⟩ := Engine.dataset_mapped valid mapped found
    obtain ⟨listed, content⟩ := holds _ _ under
    refine ⟨_, mapping, stored, named, made, ?_, alike⟩
    rw [Store.mapping?, Store.get?_eq, if_pos listed, Option.map_some, content]
  · intro outcomes backend calm
    have left : backend = ⟨store.after calls, false⟩ := Backend.run_calm calm
    have still := holds.after kept
    rw [left]
    constructor
    · rw [Engine.createIndices_run own, still.creations_eq]
    · intro name dataset found arguments failure failed
      obtain ⟨named, mapping, stored, -, under, -⟩ := Engine.dataset_mapped valid mapped found
      have script := scripted _ (Table.get?_eq_some_iff.mp found)
      refine (Engine.search_fails standard found script named (still _ _ under).1 failed).imp_right
        (Or.imp_right ?_)
      rintro ⟨panics, request, compiled, contradicts⟩
      exact ⟨panics, _, request, named, compiled, contradicts⟩

/-- People and guests, who share an index that both map alike, though not in the same order. -/
def guestCatalog : Catalog :=
  let home : RecordType := ⟨"Home", [⟨"zip", .primitive .int⟩, ⟨"city", .primitive .string⟩]⟩
  let guest : RecordType := ⟨"Guest", [⟨"home", .record home⟩, ⟨"age", .primitive .int⟩]⟩
  peopleCatalog.withDataset "guests" (.ofSchema guest "people")

theorem guestCatalog_scripted : guestCatalog.IsScripted := by
  intro entry listed
  rcases Table.mem_insertEntry listed with rfl | old
  · intro computed member
    cases member
  · exact peopleCatalog_scripted entry old

/-- Once the shared index has its mapping it keeps it, whatever documents are added. -/
theorem guest_engine_deploys :
    ∃ engine store names,
      Engine.build { indexPrefix := some "test_" } guestCatalog .standard = .ok engine ∧
      engine.createIndices.run.run .fresh = (.ok names, ⟨store, false⟩) ∧ "test_people" ∈ names ∧
      ∀ documents, engine.createIndices.run.run ⟨store.extend "test_people" documents, false⟩ =
        (.ok names, ⟨store.extend "test_people" documents, false⟩) := by
  obtain ⟨engine, built⟩ : ∃ engine,
      Engine.build { indexPrefix := some "test_" } guestCatalog .standard = .ok engine :=
    not_fails_iff.mp (by decide +kernel)
  obtain ⟨store, names, created, -, -, indices, -, kept⟩ :=
    built_engine_deploys guestCatalog_scripted built
  refine ⟨engine, store, names, built, created, ?_, fun documents => ?_⟩
  · have found : guestCatalog.get? "people" = some peopleDataset := rfl
    exact (indices _).mpr ⟨_, Table.get?_eq_some_iff.mp found, rfl⟩
  · have calm := Backend.run_merge [.extend "test_people" documents] store
    exact (kept .merge [.extend "test_people" documents] (by simp [isCreation]) calm).1

end TypedSearch
