import TypedSearch.Proofs.Catalog.Entries
import TypedSearch.Proofs.Compile.Extension

/-!
Conditions on names that have no entry in the filter type of a dataset. They never narrow a filter
down, and the compiler overlooks what they ask, but for one thing: on a record of which nothing can be
filtered it still insists on an object, and refuses the whole filter for anything else.
-/

namespace TypedSearch

open ApiSchema FilterNode Outcome

variable {catalog : Catalog} {schema : ApiSchema} {name : String} {dataset : Dataset}
  {condition : String × Json} {problem : Problem}

namespace Dataset

/-- A condition names a stored field and gives something that does not have the shape of its type. -/
def Mismatches (dataset : Dataset) (condition : String × Json) (problem : Problem) : Prop :=
  ∃ field, dataset.member? condition.1 = some (.stored field) ∧
    Mismatch (.ofName field.name) field.type condition.2 problem

/-- A member that does not appear in the filter type has no clauses and refuses nothing but a value of
the wrong shape for a stored field. -/
theorem absent_member {member : Member} (scripted : member.IsScripted)
    (hidden : member.outline .filter = none) (params : Json) :
    (∃ clauses, member.filterClauses .standard params = .ok clauses ∧ clauses.getD [] = []) ∨
      ∃ field problem, member = .stored field ∧
        member.filterClauses .standard params = .error problem ∧
        Mismatch (.ofName field.name) field.type params problem := by
  cases member with
  | stored field =>
    cases ran : (Member.stored field).filterClauses .standard params with
    | error problem =>
      exact .inr ⟨field, problem, rfl, rfl, absent_problem filter_actsOn field.type hidden ran⟩
    | ok clauses =>
      left
      refine ⟨clauses, rfl, List.eq_nil_iff_forall_not_mem.mpr fun clause member => ?_⟩
      cases clauses with
      | none => simp at member
      | some given =>
        exact absent_yields_nothing filter_actsOn hidden clause ⟨given, ran, member⟩
  | computed name field =>
    rcases ComputedField.scripted_filter scripted with ⟨-, nothing⟩ | ⟨defined, -⟩
    · left
      rw [Member.filterClauses, nothing]
      exact ⟨_, rfl, rfl⟩
    · have shown : (Member.computed name field).outline .filter =
          some BooleanFilter.namedType.outline := ComputedField.outline_defined rfl defined
      cases shown.symm.trans hidden

variable (scripted : dataset.IsScripted)
  (absent : ∀ member, dataset.member? condition.1 = some member → member.outline .filter = none)

include scripted absent

/-- A condition without an entry is either overlooked or has the wrong shape. -/
theorem absent_condition :
    dataset.conditionClauses .standard condition = .ok [] ∨
      ∃ problem, dataset.conditionClauses .standard condition = .error problem ∧
        dataset.Mismatches condition problem := by
  by_cases null : condition.2 = .null
  · exact .inl (conditionClauses_unasked (.inl null))
  cases found : dataset.member? condition.1 with
  | none => exact .inl (conditionClauses_unasked (.inr found))
  | some member =>
    obtain ⟨listed, -⟩ := mem_of_member? found
    rw [conditionClauses_asked null found]
    rcases absent_member (members_scripted scripted member listed) (absent member found)
      condition.2 with ⟨clauses, ran, empty⟩ | ⟨field, problem, rfl, failed, mismatch⟩
    · left
      rw [ran, Except.map, empty]
    · right
      rw [failed]
      exact ⟨problem, rfl, field, found, mismatch⟩

theorem absent_silent : dataset.Silent .standard condition := by
  intro clauses ran
  rcases absent_condition scripted absent with idle | ⟨problem, failed, -⟩
  · exact (Except.ok.inj (idle.symm.trans ran)).symm
  · cases failed.symm.trans ran

theorem absent_refused (refused : dataset.Refused .standard condition problem) :
    dataset.Mismatches condition problem := by
  rcases absent_condition scripted absent with idle | ⟨other, failed, mismatch⟩
  · cases idle.symm.trans refused
  · cases failed.symm.trans refused
    exact mismatch

omit scripted absent

/-- A value of the wrong shape is refused. -/
theorem mismatches_fails (mismatch : dataset.Mismatches condition problem) :
    Fails (dataset.conditionClauses .standard condition) := by
  obtain ⟨field, found, mismatch⟩ := mismatch
  rw [conditionClauses_asked mismatch.given found, fails_map]
  exact mismatch_fails rfl mismatch

end Dataset

/-- A condition on a name without an entry can be added anywhere in a filter without any effect exactly
if it does not give a record something other than an object. Otherwise it has no effect either, or the
filter is refused for the shape of what it gives. -/
theorem absent_condition_inert_iff (scripted : catalog.IsScripted)
    (generated : catalog.apiSchema .standard = .ok schema)
    (found : catalog.get? name = some dataset) (absent : condition.1 ∉ schema.filterEntries name) :
    ((∀ tree extended, Extends condition tree extended →
        dataset.compileFilter .standard (some extended) =
          dataset.compileFilter .standard (some tree)) ↔
      ∀ problem, ¬ dataset.Mismatches condition problem) ∧
    ∀ tree extended, Extends condition tree extended →
      dataset.compileFilter .standard (some extended) =
          dataset.compileFilter .standard (some tree) ∨
        ∃ problem, dataset.Mismatches condition problem ∧
          dataset.compileFilter .standard (some extended) = .error problem := by
  have serves := serves_of_generated scripted generated found
  have script : dataset.IsScripted := scripted _ (Table.get?_eq_some_iff.mp found)
  have hidden : ∀ member, dataset.member? condition.1 = some member →
      member.outline .filter = none := by
    intro member leads
    rw [serves.filterEntries_eq, Dataset.mem_surfaceEntries serves.valid] at absent
    exact Classical.not_not.mp fun appears => absent ⟨member, leads, appears⟩
  have extended : ∀ tree extended, Extends condition tree extended →
      dataset.compileFilter .standard (some extended) =
          dataset.compileFilter .standard (some tree) ∨
        ∃ problem, dataset.Mismatches condition problem ∧
          dataset.compileFilter .standard (some extended) = .error problem := by
    intro tree extended addition
    rcases Dataset.filter_extended (Dataset.absent_silent script hidden) addition with
      same | ⟨problem, refused, failed⟩
    · exact .inl same
    · exact .inr ⟨problem, Dataset.absent_refused script hidden refused, failed⟩
  refine ⟨⟨?_, ?_⟩, extended⟩
  · -- The condition by itself is refused if it has the wrong shape, and the empty filter is not.
    intro inert problem mismatch
    have same := inert _ _ (extends_nothing condition)
    have fails : Fails (dataset.compileFilter .standard (some ⟨some [condition], none, none⟩)) := by
      rw [Dataset.compileFilter_single, fails_map]
      exact Dataset.mismatches_fails mismatch
    rw [same] at fails
    exact not_fails_ok _ fails
  · intro shaped tree other addition
    rcases extended tree other addition with same | ⟨problem, mismatch, -⟩
    · exact same
    · exact (shaped problem mismatch).elim

/-- People with a scan, of which nothing can be filtered. -/
def scanDataset : Dataset :=
  let scan : RecordType := ⟨"Scan", [⟨"image", .primitive .bytes⟩]⟩
  .ofSchema ⟨"Person", [⟨"age", .primitive .int⟩, ⟨"scan", .record scan⟩]⟩ "people"

def scanCatalog : Catalog := Catalog.empty.withDataset "people" scanDataset

theorem scanCatalog_scripted : scanCatalog.IsScripted := by
  intro entry listed computed member
  cases List.mem_singleton.mp listed
  cases member

/-- The scan has no entry in the filter type that is generated. -/
theorem scan_absent : ∃ schema, scanCatalog.apiSchema .standard = .ok schema ∧
    "scan" ∉ schema.filterEntries "people" := by
  obtain ⟨schema, generated⟩ : ∃ schema, scanCatalog.apiSchema .standard = .ok schema :=
    not_fails_iff.mp (by decide +kernel)
  have serves : Serves schema "people" scanDataset :=
    serves_of_generated scanCatalog_scripted generated rfl
  refine ⟨schema, generated, ?_⟩
  rw [serves.filterEntries_eq]
  decide

theorem scan_object_inert :
    let condition : String × Json := ("scan", .single "image" (.ofInt 3))
    ∃ schema, scanCatalog.apiSchema .standard = .ok schema ∧
      condition.1 ∉ schema.filterEntries "people" ∧
      (∀ problem, ¬ scanDataset.Mismatches condition problem) ∧
      ∀ tree extended, Extends condition tree extended →
        scanDataset.compileFilter .standard (some extended) =
          scanDataset.compileFilter .standard (some tree) := by
  intro condition
  obtain ⟨schema, generated, absent⟩ := scan_absent
  have shaped : ∀ problem, ¬ scanDataset.Mismatches condition problem := by
    rintro problem ⟨field, found, mismatch⟩
    cases found
    cases mismatch with
    | record given other => exact other _ rfl
    | inside listed held inner =>
      cases List.mem_singleton.mp listed
      cases inner
  exact ⟨schema, generated, absent, shaped,
    (absent_condition_inert_iff scanCatalog_scripted generated rfl absent).1.mpr shaped⟩

/-- A number for the scan is refused, though the scan has no entry in the filter type. -/
theorem scan_number_refused :
    let condition : String × Json := ("scan", .ofInt 3)
    ∃ schema, scanCatalog.apiSchema .standard = .ok schema ∧
      condition.1 ∉ schema.filterEntries "people" ∧
      Extends condition ⟨some [], none, none⟩ ⟨some [condition], none, none⟩ ∧
      scanDataset.compileFilter .standard (some ⟨some [], none, none⟩) = .ok Clause.matchAll ∧
      scanDataset.compileFilter .standard (some ⟨some [condition], none, none⟩) =
        .error (.argument "scan" (.notRecord "Scan" (.ofInt 3))) := by
  intro condition
  obtain ⟨schema, generated, absent⟩ := scan_absent
  exact ⟨schema, generated, absent, extends_nothing condition, rfl, rfl⟩

end TypedSearch
