import TypedSearch.Proofs.Compile.Asking
import TypedSearch.Proofs.Compile.Stored
import TypedSearch.Proofs.Query.Comparison
import TypedSearch.Proofs.Search.Addressing
import TypedSearch.Proofs.Search.Rank

/-!
What filters on one field answer. A dataset compiles such a filter to clauses at the path of the field,
its mapping says what these address, and a document passes them for what it has there. For texts this
comes to comparing their code points.
-/

namespace TypedSearch

open Matcher Outcome SchemaField

/-- A search in a dataset as it is mapped answers a filter for a document. -/
def Dataset.Judges (dataset : Dataset) (filter : FilterNode) (document : Json) (answer : Bool) : Prop :=
  ∃ mapping query, dataset.mapping .standard = .ok mapping ∧
    dataset.compileFilter .standard (some filter) = .ok query ∧
    test (.ofMapping mapping) query document = .ok answer

/-- What a comparison is asked of: equality of one thing, an order of another. -/
def Comparison.aim {α : Type} (exactly ordered : α) : Comparison → α
  | equals => exactly
  | greaterThan | greaterEqualTo | lessThan | lessEqualTo => ordered

section Clauses

variable {view : MappingView} {document value : Json} {field : String} {target : Target}

/-- A document has the value that a clause names if what is at the target of the clause equals it. -/
theorem Matcher.term_hits_iff (taken : Target.ofField view field = target)
    (exact : ∀ path, target ≠ .text path) (bare : value.entries? = none) :
    Hits view document (Clause.term field value) ↔ ∃ actual,
      document.atPath? target.path = some actual ∧ target.order? actual value = some .eq := by
  have given : param "value" value = value := by
    cases value with
    | object => cases bare
    | null | bool | number | string | array => rfl
  simp only [Hits, test_term, term, single, Json.single, ok_bind, given, taken]
  cases document.atPath? target.path with
  | none => simp
  | some actual =>
    cases target with
    | text path => exact (exact path rfl).elim
    | keyword | plain => simp

/-- A document keeps a bound if what is at the target of the clause is ordered beside the limit as the
bound says. -/
theorem Matcher.range_hits_iff {bound : String} {orders : List Ordering}
    (taken : Target.ofField view field = target)
    (kept : ∀ order, keepsBound? order bound = some (order.any (· ∈ orders))) :
    Hits view document (Clause.range field bound value) ↔ ∃ actual order,
      document.atPath? target.path = some actual ∧ target.order? actual value = some order ∧
        order ∈ orders := by
  simp only [Hits, test_range, range, single, Json.single, ok_bind, taken]
  cases document.atPath? target.path with
  | none => simp
  | some actual =>
    cases order : target.order? actual value with
    | none => simp [keepsBounds, order, kept]
    | some found => by_cases inside : found ∈ orders <;> simp [keepsBounds, order, kept, inside]

/-- The bounds of clauses are kept by the orders with which their comparisons hold. -/
theorem Comparison.clause_hits_iff {exact ordered : String} {exactly bounded : Target}
    (comparison : Comparison) (first : Target.ofField view exact = exactly)
    (second : Target.ofField view ordered = bounded) (plain : ∀ path, exactly ≠ .text path)
    (bare : value.entries? = none) :
    Hits view document (comparison.clause exact ordered value) ↔ ∃ actual order,
      document.atPath? (comparison.aim exactly bounded).path = some actual ∧
        (comparison.aim exactly bounded).order? actual value = some order ∧
        order ∈ comparison.orders := by
  cases comparison with
  | equals => simp [clause, aim, orders, term_hits_iff first plain bare]
  | greaterThan | greaterEqualTo | lessThan | lessEqualTo =>
    refine range_hits_iff second fun order => ?_
    cases order with
    | none => rfl
    | some order => cases order <;> rfl

end Clauses

namespace Dataset

variable {dataset : Dataset} {path : FieldPath} {type : SchemaType} {params : Json}
  {clauses : List Json}

/-- In a valid dataset a filter on a stored field answers whether a document passes the clauses that the
type of the field makes of it. -/
theorem judges_asking (valid : dataset.validate = .ok ()) (stored : dataset.Stores path type)
    (given : params ≠ .null)
    (answered : Registry.standard.filter type path params = .ok (some clauses)) (document : Json) :
    ∃ answer, dataset.Judges (.asking path params) document answer ∧ (answer = true ↔
      ∀ clause ∈ clauses, Hits (.ofFields dataset.schema.fields) document clause) := by
  have mapped := mapping_eq (schema_valid valid)
  have compiled := compileFilter_asking valid stored given answered
  have each : ∀ clause ∈ clauses, Answers (.ofFields dataset.schema.fields) document clause :=
    fun clause member => leaf_answers (standard_filter_leaf type answered member)
  obtain ⟨answer, ran, meaning⟩ := toQuery_hits_iff each
  exact ⟨answer, ⟨_, _, mapped, compiled, ran⟩, meaning⟩

namespace Stores

variable (stored : dataset.Stores path type) (valid : dataset.validate = .ok ())

include stored valid

/-- What a document has at the path of a stored field is what the names of the path lead to. -/
theorem atPath?_eq (document : Json) :
    document.atPath? path.dotted = (document.along path.segments).filter fun found => !found.isNull := by
  have dotless : ∀ name ∈ path.segments, Dotless name := fun name member =>
    dotless_of_isIdentifier (stored.leads.legal (fields_valid valid) name member)
  exact document.atPath?_dotted stored.leads.ne_nil dotless

/-- A document that lacks a stored field has nothing at its path. -/
theorem atPath?_eq_none {document : Json} (lacks : document.Lacks path.segments) :
    document.atPath? path.dotted = none := by
  rw [stored.atPath?_eq valid]
  exact Json.lacks_iff.mp lacks

theorem atPath?_eq_some {document value : Json} (held : document.along path.segments = some value)
    (present : value.isNull = false) : document.atPath? path.dotted = some value := by
  rw [stored.atPath?_eq valid, held, Option.filter_some, present, Bool.not_false, if_pos rfl]

/-- The mapping of a dataset has the property of a stored field at its path. -/
theorem property?_eq :
    (MappingView.ofFields dataset.schema.fields).property? path.dotted = type.property? :=
  MappingView.property?_of_leads (fields_valid valid) stored.leads

/-- A search takes a name for what it addresses at the path of a stored field. -/
theorem taken {name : String} {target : Target}
    (addressed : Addresses (.ofFields dataset.schema.fields) path name target) :
    Target.ofField (.ofFields dataset.schema.fields) name = target :=
  Target.ofField_of_addresses (fields_valid valid) stored.leads addressed

end Stores

/-- A filter that asks for comparisons of a text answers whether a document passes the clause of each of
them. -/
theorem judges_string_comparisons (valid : dataset.validate = .ok ())
    (stored : dataset.Stores path (.primitive .string)) {asked : List (Comparison × String)}
    (distinct : (asked.map (·.1)).Nodup) (document : Json) :
    ∃ answer, dataset.Judges (.asking path (Comparison.params .string asked)) document answer ∧
      (answer = true ↔ ∀ entry ∈ asked, Hits (.ofFields dataset.schema.fields) document
        (entry.1.clause path.keyword path.keyword (.string entry.2))) := by
  have answered : Registry.standard.filter (.primitive .string) path
      (Comparison.params .string asked) =
        .ok (some (StringFilter.clauses { order := .ofAsked asked } path)) := by
    rw [Registry.filter, Registry.standard_resolve_primitive]
    exact Handler.termFilter_answers (StringFilter.ofParams_asked asked)
  obtain ⟨answer, judged, meaning⟩ :=
    judges_asking valid stored (by simp [Comparison.params]) answered document
  refine ⟨answer, judged, meaning.trans ?_⟩
  rw [← RangeFilter.forall_clauses_asked distinct]
  simp [StringFilter.clauses]

end Dataset

/-- The code points of a text, in order. -/
def codePoints (text : String) : List Nat := text.toList.map Char.toNat

theorem codePoints_strictMono : StrictMono codePoints := by
  intro text other less
  exact List.map_lt (fun _ _ below => below) less

/-- Comparing what a strictly increasing function gives is comparing what it is given. -/
theorem Comparison.holds_map {α β : Type} [LinearOrder α] [LinearOrder β] {f : α → β}
    (mono : StrictMono f) (comparison : Comparison) (value given : α) :
    comparison.Holds (f value) (f given) ↔ comparison.Holds value given := by
  cases comparison with
  | equals => exact mono.injective.eq_iff
  | greaterThan | lessThan => exact mono.lt_iff_lt
  | greaterEqualTo | lessEqualTo => exact mono.le_iff_le

/-- A filter that compares a text field with some texts answers whether the text of a document is
ordered beside each of them as asked, code point by code point. For a document that lacks the text it
answers no, whatever is asked. -/
theorem string_comparisons_exact {dataset : Dataset} {path : FieldPath}
    {asked : List (Comparison × String)} (valid : dataset.validate = .ok ())
    (stored : dataset.Stores path (.primitive .string)) (distinct : (asked.map (·.1)).Nodup)
    (document : Json) :
    ∃ answer, dataset.Judges (.asking path (Comparison.params .string asked)) document answer ∧
      (∀ value, document.along path.segments = some (.string value) → (answer = true ↔
        ∀ entry ∈ asked, entry.1.Holds (codePoints value) (codePoints entry.2))) ∧
      (document.Lacks path.segments → (answer = true ↔ asked = [])) := by
  obtain ⟨answer, judged, meaning⟩ := Dataset.judges_string_comparisons valid stored distinct document
  have exactly := stored.taken valid (addresses_keyword (stored.property?_eq valid))
  have hits (entry : Comparison × String) :
      Hits (.ofFields dataset.schema.fields) document
          (entry.1.clause path.keyword path.keyword (.string entry.2)) ↔
        ∃ actual order, document.atPath? path.dotted = some actual ∧
          Target.order? (.keyword path.dotted) actual (.string entry.2) = some order ∧
          order ∈ entry.1.orders := by
    rw [entry.1.clause_hits_iff exactly exactly (fun _ => nofun) rfl]
    cases entry.1 <;> rfl
  refine ⟨answer, judged, fun value held => ?_, fun lacks => ?_⟩
  · rw [meaning]
    refine forall₂_congr fun entry _ => ?_
    rw [hits, stored.atPath?_eq_some valid held rfl, entry.1.holds_map codePoints_strictMono,
      ← entry.1.mem_orders_compare]
    simp [Target.order?, Json.keywordForm?]
  · rw [meaning]
    simp only [hits, stored.atPath?_eq_none valid lacks]
    simp [List.eq_nil_iff_forall_not_mem]

/-- The origin of a term has a text and a number. -/
theorem glossary_stores_origin :
    glossaryDataset.Stores ⟨["properties", "keyword"]⟩ (.primitive .string) ∧
      glossaryDataset.Stores ⟨["properties", "fields"]⟩ (.primitive .int) := by
  constructor
  · refine ⟨?_, fun name _ => rfl⟩
    exact .deeper (List.mem_cons_of_mem _ List.mem_cons_self) rfl (.here List.mem_cons_self)
  · refine ⟨?_, fun name _ => rfl⟩
    exact .deeper (List.mem_cons_of_mem _ List.mem_cons_self) rfl
      (.here (List.mem_cons_of_mem _ List.mem_cons_self))

theorem origin_comparisons_exact :
    let path : FieldPath := ⟨["properties", "keyword"]⟩
    let asked : List (Comparison × String) := [(.lessEqualTo, "élan"), (.greaterThan, "zeta")]
    let filter : FilterNode := .asking path (Comparison.params .string asked)
    let document : Json := .placed path.segments (.string "ångström")
    glossaryDataset.validate = .ok () ∧ glossaryDataset.Stores path (.primitive .string) ∧
      (asked.map (·.1)).Nodup ∧
      (∃ answer, glossaryDataset.Judges filter document answer ∧
        (∀ value, document.along path.segments = some (.string value) → (answer = true ↔
          ∀ entry ∈ asked, entry.1.Holds (codePoints value) (codePoints entry.2))) ∧
        (document.Lacks path.segments → (answer = true ↔ asked = []))) ∧
      glossaryDataset.Judges filter document true ∧
      glossaryDataset.Judges filter (.single "properties" (.string "ångström")) false := by
  intro path asked filter document
  have valid : glossaryDataset.validate = .ok () := rfl
  have stored : glossaryDataset.Stores path (.primitive .string) := glossary_stores_origin.1
  have distinct : (asked.map (·.1)).Nodup := by decide
  refine ⟨valid, stored, distinct, string_comparisons_exact valid stored distinct document, ?_, ?_⟩
  · obtain ⟨answer, judged, held, -⟩ := string_comparisons_exact valid stored distinct document
    have each : ∀ entry ∈ asked, entry.1.Holds (codePoints "ångström") (codePoints entry.2) := by
      decide
    rw [(held _ (Json.along_placed _ _)).mpr each] at judged
    exact judged
  · obtain ⟨answer, judged, -, lacking⟩ := string_comparisons_exact valid stored distinct
      (.single "properties" (.string "ångström"))
    have lacks : (Json.single "properties" (.string "ångström")).Lacks path.segments :=
      .deeper rfl (.bare rfl)
    have refused : answer = false :=
      Bool.eq_false_iff.mpr (mt (lacking lacks).mp (List.cons_ne_nil _ _))
    exact refused ▸ judged

end TypedSearch
