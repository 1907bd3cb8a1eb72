import Mathlib.Data.List.Forall2
import TypedSearch.Catalog.Api
import TypedSearch.Catalog.Mapping
import TypedSearch.Compile.Search
import TypedSearch.Proofs.Catalog.Dataset
import TypedSearch.Proofs.Compile.Scheme

/-!
Stored fields behind computed ones. The API of a dataset and the requests compiled for it are made
from its members alone, and a stored field that a computed one hides is no member. So of all that is
derived from a dataset only the index mapping can show what type such a field has.
-/

namespace TypedSearch

open Outcome

/-- Stored fields of one name, and of one type unless a computed field hides them. -/
def SchemaField.SameInSight (computed : Table ComputedField) (left right : SchemaField) : Prop :=
  left.name = right.name ∧ (computed.get? left.name = none → left.type = right.type)

/-- Datasets that differ at most in the types of stored fields that computed ones hide. -/
structure Dataset.SameInSight (left right : Dataset) : Prop where
  record : left.schema.name = right.schema.name
  /-- The stored fields in order. -/
  fields : List.Forall₂ (SchemaField.SameInSight left.computed) left.schema.fields
    right.schema.fields
  computed : left.computed = right.computed
  index : left.index = right.index

namespace Dataset

variable {left right : Dataset} {registry : Registry}

section Members

variable {computed : Table ComputedField} {fields others : List SchemaField} {name : String}

/-- A stored field that is not hidden is found as it is. -/
theorem find?_in_sight (same : List.Forall₂ (SchemaField.SameInSight computed) fields others)
    (visible : computed.get? name = none) :
    (fields.find? fun field => field.name = name) =
      others.find? fun field => field.name = name := by
  induction same with
  | nil => rfl
  | @cons field other rest more pair tail ih =>
    obtain ⟨fieldName, fieldType⟩ := field
    obtain ⟨otherName, otherType⟩ := other
    obtain ⟨named, typed⟩ := pair
    simp only at named typed
    subst named
    by_cases here : fieldName = name
    · subst here
      simp [typed visible]
    · simp [here, ih]

/-- Whether a stored field has a name does not depend on any type. -/
theorem find?_isNone (same : List.Forall₂ (SchemaField.SameInSight computed) fields others) :
    (fields.find? fun field => field.name = name).isNone =
      (others.find? fun field => field.name = name).isNone := by
  induction same with
  | nil => rfl
  | @cons field other rest more pair tail ih =>
    by_cases here : field.name = name
    · simp [here, ← pair.1]
    · simp [here, ← pair.1, ih]

end Members

theorem SameInSight.member? (same : left.SameInSight right) (name : String) :
    left.member? name = right.member? name := by
  rw [Dataset.member?, Dataset.member?, ← same.computed]
  cases hidden : left.computed.get? name with
  | some computed => rfl
  | none =>
    have found : left.schema.field? name = right.schema.field? name :=
      find?_in_sight same.fields hidden
    rw [found]

/-- The member in the place of a stored field. -/
def standIn (computed : Table ComputedField) (field : SchemaField) : Member :=
  match computed.get? field.name with
  | some cover => .computed field.name cover
  | none => .stored field

theorem standIn_eq {computed : Table ComputedField} {field other : SchemaField}
    (same : field.SameInSight computed other) : standIn computed field = standIn computed other := by
  obtain ⟨name, type⟩ := field
  obtain ⟨otherName, otherType⟩ := other
  obtain ⟨named, typed⟩ := same
  cases named
  unfold standIn
  cases visible : computed.get? name with
  | some cover => rfl
  | none => exact congrArg (fun type => Member.stored ⟨name, type⟩) (typed visible)

theorem members_eq (dataset : Dataset) :
    dataset.members = dataset.schema.fields.map (standIn dataset.computed) ++
      (dataset.computed.entries.filter fun entry => (dataset.schema.field? entry.1).isNone).map
        fun entry => .computed entry.1 entry.2 := rfl

/-- A hidden field is replaced in its place, so the members are the same in the same order. -/
theorem SameInSight.members (same : left.SameInSight right) : left.members = right.members := by
  have stored : left.schema.fields.map (standIn left.computed) =
      right.schema.fields.map (standIn left.computed) := by
    rw [← List.forall₂_eq_eq_eq, List.forall₂_map_left_iff, List.forall₂_map_right_iff]
    exact same.fields.imp fun _ _ => standIn_eq
  have unstored : (fun entry : String × ComputedField => (left.schema.field? entry.1).isNone) =
      fun entry => (right.schema.field? entry.1).isNone := by
    funext entry
    exact find?_isNone same.fields
  rw [members_eq, members_eq, ← same.computed, stored, unstored]

section Requests

/-! Requests reach the members of a dataset by their names. -/

theorem conditionsClauses_congr (same : ∀ name, left.member? name = right.member? name)
    (conditions : Json.Entries) :
    left.conditionsClauses registry conditions = right.conditionsClauses registry conditions := by
  induction conditions with
  | nil => rfl
  | cons condition rest ih =>
    rw [conditionsClauses, conditionsClauses, ih, conditionClauses, conditionClauses, same]

theorem keysClauses_congr (same : ∀ name, left.member? name = right.member? name)
    (keys : Json.Entries) :
    left.keysClauses registry keys = right.keysClauses registry keys := by
  induction keys with
  | nil => rfl
  | cons key rest ih => rw [keysClauses, keysClauses, ih, orderClauses, orderClauses, same]

theorem compileSearch_congr (same : ∀ name, left.member? name = right.member? name)
    (arguments : DatasetArguments) :
    left.compileSearch registry arguments = right.compileSearch registry arguments := by
  have conditions : left.conditionsClauses registry = right.conditionsClauses registry :=
    funext (conditionsClauses_congr same)
  have query : left.compileFilter registry arguments.filter =
      right.compileFilter registry arguments.filter := by
    rw [← compileFilterWith_spliced, ← compileFilterWith_spliced]
    unfold compileFilterWith
    rw [conditions]
  rw [compileSearch, compileSearch, query, compileOrder, compileOrder, keysClauses_congr same]

end Requests

/-- The API of a dataset is made from its members in their order. -/
theorem rootField_congr (same : left.members = right.members) (name : String) :
    left.rootField registry name = right.rootField registry name := by
  simp only [rootField, filterArgument, orderArgument, same]

end Dataset

namespace Catalog

/-- Two entries of a catalog have one name, one API and one verdict of the validation. -/
def EntryAlike (registry : Registry) (entry other : String × Dataset) : Prop :=
  entry.1 = other.1 ∧ entry.2.rootField registry entry.1 = other.2.rootField registry other.1 ∧
    entry.2.validate = other.2.validate

variable {registry : Registry} {entries others : List (String × Dataset)}

theorem rootFields_congr (same : List.Forall₂ (EntryAlike registry) entries others)
    (table : Definitions) : rootFields registry entries table = rootFields registry others table := by
  induction same generalizing table with
  | nil => rfl
  | cons pair tail ih =>
    obtain ⟨-, root, -⟩ := pair
    rw [rootFields, rootFields, root]
    simp only [ih]

theorem validate_congr {catalog other : Catalog}
    (same : List.Forall₂ (EntryAlike registry) catalog.datasets.entries other.datasets.entries) :
    catalog.validate = other.validate := by
  unfold validate
  generalize catalog.datasets.entries = entries at same
  generalize other.datasets.entries = others at same
  induction same with
  | nil => rfl
  | cons pair tail ih =>
    obtain ⟨name, -, verdict⟩ := pair
    rw [List.forM, List.forM, ih, name, verdict]

theorem apiSchema_congr {catalog other : Catalog}
    (same : List.Forall₂ (EntryAlike registry) catalog.datasets.entries other.datasets.entries) :
    catalog.apiSchema registry = other.apiSchema registry := by
  rw [apiSchema, apiSchema, validate_congr same, rootFields_congr same]

/-- Setting one name to datasets that are alike leaves catalogs alike. -/
theorem withDataset_alike (catalog : Catalog) {name : String} {left right : Dataset}
    (same : EntryAlike registry (name, left) (name, right)) :
    List.Forall₂ (EntryAlike registry) (catalog.withDataset name left).datasets.entries
      (catalog.withDataset name right).datasets.entries := by
  have unchanged (entries : List (String × Dataset)) :
      List.Forall₂ (EntryAlike registry) entries entries :=
    List.forall₂_same.mpr fun _ _ => ⟨rfl, rfl, rfl⟩
  simp only [withDataset, Table.insert]
  induction catalog.datasets.entries with
  | nil => exact .cons same .nil
  | cons head rest ih =>
    unfold Table.insertEntry
    split
    · exact .cons same (unchanged _)
    · split
      · exact .cons same (unchanged _)
      · exact .cons ⟨rfl, rfl, rfl⟩ ih

end Catalog

/-- Datasets that are valid and differ only in the types of stored fields behind computed ones cannot
be told apart by their API, alone or in any catalog, nor by what any request compiles to: under every
registry the results are the same, values and errors. -/
theorem hidden_types_unseen {left right : Dataset} (same : left.SameInSight right)
    (leftValid : left.validate = .ok ()) (rightValid : right.validate = .ok ())
    (registry : Registry) (name : String) :
    left.rootField registry name = right.rootField registry name ∧
      (∀ catalog : Catalog, (catalog.withDataset name left).apiSchema registry =
        (catalog.withDataset name right).apiSchema registry) ∧
      ∀ arguments, left.compileSearch registry arguments = right.compileSearch registry arguments := by
  have root : ∀ name, left.rootField registry name = right.rootField registry name :=
    Dataset.rootField_congr same.members
  refine ⟨root name, fun catalog => ?_, Dataset.compileSearch_congr same.member?⟩
  have entries : Catalog.EntryAlike registry (name, left) (name, right) :=
    ⟨rfl, root name, leftValid.trans rightValid.symm⟩
  exact Catalog.apiSchema_congr (catalog.withDataset_alike entries)

/-- People whose ages a script computes, with a stored field of some type behind them. -/
def agedDataset (hidden : SchemaType) : Dataset :=
  let age := ComputedField.scripted (.primitive .int) [⟨"year", .primitive .int⟩]
    (some "params.year - doc['born'].value > 17") (some "params.year - doc['born'].value")
  (Dataset.ofSchema ⟨"Person", [⟨"age", hidden⟩, ⟨"born", .primitive .int⟩]⟩ "people").withComputed
    "age" { age with field := ComputedField.standardField }

/-- A text and a record behind the ages give one API and the same requests, but not one mapping. -/
theorem hidden_age_unseen :
    let text := agedDataset (.primitive .string)
    let scan := agedDataset (.record ⟨"Scan", [⟨"image", .primitive .bytes⟩]⟩)
    text.SameInSight scan ∧ text.validate = .ok () ∧ scan.validate = .ok () ∧
      text.rootField .standard "people" = scan.rootField .standard "people" ∧
      (∀ catalog : Catalog, (catalog.withDataset "people" text).apiSchema .standard =
        (catalog.withDataset "people" scan).apiSchema .standard) ∧
      (∀ arguments, text.compileSearch .standard arguments =
        scan.compileSearch .standard arguments) ∧
      text.mapping .standard ≠ scan.mapping .standard := by
  intro text scan
  have same : text.SameInSight scan := by
    refine ⟨rfl, ?_, rfl, rfl⟩
    refine .cons ⟨rfl, fun visible => ?_⟩ (.cons ⟨rfl, fun _ => rfl⟩ .nil)
    cases visible
  have textValid : text.validate = .ok () := by rfl
  have scanValid : scan.validate = .ok () := by rfl
  obtain ⟨root, schemas, requests⟩ :=
    hidden_types_unseen same textValid scanValid .standard "people"
  exact ⟨same, textValid, scanValid, root, schemas, requests, by decide⟩

end TypedSearch
