import TypedSearch.Proofs.Json.Rearrangement
import TypedSearch.Proofs.Query.Comparison

/-!
The parts of term filters. A filter has one optional part under each of its keys. The parts are read
from the entries of an object, whatever their order, and each one becomes a clause, in the order of
the keys.
-/

namespace TypedSearch

open Outcome

/-- What an object gives under a key, null apart. -/
def Json.given? (key : String) (params : Json) : Option Json :=
  (params.get? key).filter fun value => !value.isNull

theorem Json.given?_of_given {params value : Json} {key : String}
    (found : params.get? key = some value) (given : value ≠ .null) : params.given? key = some value := by
  rw [given?, found, Option.filter_some, isNull_eq_false given]
  rfl

namespace TermFilter

variable {φ α : Type}

/-- How filters are made of optional parts: under each of some keys there is one, read from the
entry of its key, and no other key has an entry. -/
structure Reader (φ α : Type) where
  empty : φ
  keys : List String
  decode : Json → Json.Decoded α
  readPart : φ → String × Json → Json.Decoded φ
  /-- The part of a filter under a key. -/
  part : φ → String → Option α
  part_empty : ∀ key, part empty key = none
  /-- The entry of a key is read if its value is, and sets the part under its key alone. -/
  known : ∀ {key}, key ∈ keys → ∀ filter value,
    Alike (fun given next => ∀ other,
        part next other = if other = key then given else part filter other)
      (value.toOption decode) (readPart filter (key, value))
  /-- An entry of another key is refused. -/
  unknown : ∀ {key}, key ∉ keys → ∀ filter value,
    readPart filter (key, value) = .error (.unknownField key keys)

namespace Reader

variable {reader : Reader φ α} {filter next : φ} {entries : Json.Entries} {path : FieldPath}
  {params : Json}

/-- The filter that is read for the field at a path. -/
def ofParams (reader : Reader φ α) (path : FieldPath) (params : Json) : Except Problem φ :=
  TermFilter.parse reader.empty reader.readPart path params

theorem readPart_eq_ok {entry : String × Json} (ran : reader.readPart filter entry = .ok next) :
    entry.1 ∈ reader.keys ∧ ∃ given, entry.2.toOption reader.decode = .ok given ∧
      ∀ other, reader.part next other =
        if other = entry.1 then given else reader.part filter other := by
  obtain ⟨key, value⟩ := entry
  by_cases listed : key ∈ reader.keys
  · have alike := reader.known listed filter value
    rw [ran] at alike
    exact ⟨listed, alike.exists_left⟩
  · rw [reader.unknown listed] at ran
    cases ran

theorem readPart_ok {entry : String × Json} {given : Option α} (listed : entry.1 ∈ reader.keys)
    (read : entry.2.toOption reader.decode = .ok given) (filter : φ) :
    ∃ next, reader.readPart filter entry = .ok next := by
  have alike := reader.known listed filter entry.2
  rw [read] at alike
  obtain ⟨next, ran, -⟩ := alike.exists_right
  exact ⟨next, ran⟩

/-- Entries are read if each has a known key and a value that is. -/
theorem run_iff :
    (∃ next, entries.foldlM reader.readPart filter = .ok next) ↔
      ∀ entry ∈ entries, entry.1 ∈ reader.keys ∧
        ∃ given, entry.2.toOption reader.decode = .ok given := by
  constructor
  · intro ran
    induction entries generalizing filter with
    | nil => nofun
    | cons entry rest ih =>
      obtain ⟨final, ran⟩ := ran
      obtain ⟨next, first, later⟩ := bind_eq_ok.mp ran
      obtain ⟨listed, given, read, -⟩ := readPart_eq_ok first
      exact List.forall_mem_cons.mpr ⟨⟨listed, given, read⟩, ih ⟨final, later⟩⟩
  · intro each
    refine foldlM_ok (fun entry member filter => ?_) filter
    obtain ⟨listed, given, read⟩ := each entry member
    exact readPart_ok listed read filter

/-- A part stays as it is if its key has no entry. -/
theorem part_untouched (ran : entries.foldlM reader.readPart filter = .ok next) {key : String}
    (absent : key ∉ Json.Entries.keys entries) : reader.part next key = reader.part filter key := by
  induction entries generalizing filter with
  | nil =>
    cases ran
    rfl
  | cons entry rest ih =>
    obtain ⟨differ, absent⟩ := not_or.mp (mt List.mem_cons.mpr absent)
    obtain ⟨middle, first, later⟩ := bind_eq_ok.mp ran
    obtain ⟨-, given, -, set⟩ := readPart_eq_ok first
    rw [ih later absent, set, if_neg differ]

/-- Where no key comes twice each part is read from the entry of its key, or is what it was. -/
theorem part_run (ran : entries.foldlM reader.readPart filter = .ok next)
    (distinct : (Json.Entries.keys entries).Nodup) (key : String) :
    match entries.lookup key with
    | none => reader.part next key = reader.part filter key
    | some value => value.toOption reader.decode = .ok (reader.part next key) := by
  induction entries generalizing filter with
  | nil =>
    cases ran
    rfl
  | cons entry rest ih =>
    obtain ⟨name, value⟩ := entry
    obtain ⟨fresh, distinct⟩ := List.nodup_cons.mp distinct
    obtain ⟨middle, first, later⟩ := bind_eq_ok.mp ran
    obtain ⟨-, given, read, set⟩ := readPart_eq_ok first
    by_cases same : key = name
    · subst same
      have own : reader.part next key = given := by
        rw [part_untouched later fresh, set, if_pos rfl]
      rw [List.lookup_cons_self, own]
      exact read
    · have kept : reader.part middle key = reader.part filter key := by
        rw [set, if_neg same]
      rw [Table.lookup_cons_ne same, ← kept]
      exact ih later distinct

/-- A filter is read from null, and from the objects whose entries are read. -/
theorem ofParams_iff :
    (∃ filter, reader.ofParams path params = .ok filter) ↔
      params = .null ∨ ∃ entries, params = .object entries ∧
        ∀ entry ∈ entries, entry.1 ∈ reader.keys ∧
          ∃ given, entry.2.toOption reader.decode = .ok given := by
  cases params with
  | null => simp [ofParams, TermFilter.parse]
  | object entries =>
    have parsed : (∃ filter, reader.ofParams path (.object entries) = .ok filter) ↔
        ∃ next, entries.foldlM reader.readPart reader.empty = .ok next := by
      rw [ofParams, TermFilter.parse]
      cases entries.foldlM reader.readPart reader.empty with
      | ok filter => simp
      | error cause => simp
    rw [parsed, run_iff]
    simp
  | bool | number | string | array => simp [ofParams, TermFilter.parse]

/-- The parts of a filter are what is given under their keys. -/
theorem part_ofParams (keyed : params.Keyed) (read : reader.ofParams path params = .ok filter)
    (key : String) :
    (params.given? key).map reader.decode = (reader.part filter key).map .ok := by
  cases params with
  | null =>
    cases read
    rw [reader.part_empty]
    rfl
  | object entries =>
    rw [ofParams, TermFilter.parse] at read
    cases ran : entries.foldlM reader.readPart reader.empty with
    | error cause =>
      rw [ran] at read
      cases read
    | ok final =>
      rw [ran] at read
      cases read
      have part := part_run ran (Json.keyed_object.mp keyed).1 key
      cases found : entries.lookup key with
      | none =>
        rw [found, reader.part_empty] at part
        rw [part, Json.given?, Json.get?, found]
        rfl
      | some value =>
        rw [found] at part
        by_cases null : value = .null
        · subst null
          rw [Json.given?, Json.get?, found]
          cases own : reader.part filter key with
          | none => rfl
          | some given =>
            rw [own] at part
            cases part
        · have given : (Json.object entries).given? key = some value :=
            Json.given?_of_given found null
          rw [given]
          simp only [Json.toOption_given null] at part
          cases decoded : reader.decode value with
          | error cause =>
            rw [decoded] at part
            cases part
          | ok given =>
            rw [decoded] at part
            rw [← Except.ok.inj part]
            simp [decoded]
  | bool | number | string | array => cases read

end Reader

/-- The clause that a key asks for with a value: equality of the field `exact`, a bound of the field
`ordered`, or words or a pattern of the field `text`. -/
def asked? (exact ordered text : String) : (key : String) → (given : Json) → Option Json
  | "equals", given => some (Clause.term exact given)
  | "greaterThan", given => some (Clause.range ordered "gt" given)
  | "greaterEqualTo", given => some (Clause.range ordered "gte" given)
  | "lessThan", given => some (Clause.range ordered "lt" given)
  | "lessEqualTo", given => some (Clause.range ordered "lte" given)
  | "contains", .string words => some (Clause.matchText text words)
  | "startsWith", .string start => some (Clause.wildcard text (start ++ "*"))
  | "endsWith", .string finish => some (Clause.wildcard text ("*" ++ finish))
  | _, _ => none

end TermFilter

namespace BooleanFilter

/-- A filter on truth values has one part. -/
def part (filter : BooleanFilter) (key : String) : Option Bool :=
  if key = TermFilter.equalsKey then filter.equals else none

/-- The reader of filters on truth values. -/
def reader : TermFilter.Reader BooleanFilter Bool where
  empty := {}
  keys := [TermFilter.equalsKey]
  decode := Json.toBool
  readPart := readPart
  part := part
  part_empty key := by simp [part]
  known listed filter value := by
    obtain rfl := List.mem_singleton.mp listed
    rw [readPart, if_pos rfl]
    cases value.toOption Json.toBool with
    | error problem => exact .error problem
    | ok given =>
      refine .ok fun other => ?_
      by_cases same : other = TermFilter.equalsKey <;> simp [part, same]
  unknown absent filter value := by
    rw [readPart, if_neg (by simpa using absent)]
    rfl

theorem clauses_parts (filter : BooleanFilter) (path : FieldPath) (exact ordered : String)
    (same : exact = path.dotted) :
    (filter.clauses path).map some =
      [TermFilter.equalsKey].filterMap fun key => (filter.part key).map fun value =>
        TermFilter.asked? exact ordered path.dotted key (.bool value) := by
  subst same
  obtain ⟨equals⟩ := filter
  cases equals <;> rfl

end BooleanFilter

namespace RangeFilter

variable {α : Type}

/-- The part of a filter under a key. -/
def part (filter : RangeFilter α) : String → Option α
  | "equals" => filter.equals
  | "greaterThan" => filter.greaterThan
  | "greaterEqualTo" => filter.greaterEqualTo
  | "lessThan" => filter.lessThan
  | "lessEqualTo" => filter.lessEqualTo
  | _ => none

theorem part_key (filter : RangeFilter α) (comparison : Comparison) :
    filter.part comparison.key = filter.given? comparison := by
  cases comparison <;> rfl

theorem rangeKeys_eq : TermFilter.rangeKeys = Comparison.all.map Comparison.key := rfl

theorem readPart_known (decode : Json → Json.Decoded α) (names : List String)
    (comparison : Comparison) (filter : RangeFilter α) (value : Json) :
    Alike (fun given next => ∀ other,
        part next other = if other = comparison.key then given else part filter other)
      (value.toOption decode) (readPart decode names filter (comparison.key, value)) := by
  cases read : value.toOption decode with
  | error problem =>
    cases comparison <;> simp only [readPart, Comparison.key, read] <;> exact .error problem
  | ok given =>
    cases comparison <;> simp only [readPart, Comparison.key, read] <;>
      exact .ok fun other => by unfold part; split <;> simp_all

theorem readPart_unknown {decode : Json → Json.Decoded α} {names : List String} {key : String}
    (absent : key ∉ TermFilter.rangeKeys) (filter : RangeFilter α) (value : Json) :
    readPart decode names filter (key, value) = .error (.unknownField key names) := by
  simp only [TermFilter.rangeKeys, TermFilter.equalsKey, TermFilter.bounds, List.map_cons,
    List.map_nil, List.mem_cons, List.not_mem_nil, or_false, not_or] at absent
  obtain ⟨equals, greaterThan, greaterEqualTo, lessThan, lessEqualTo⟩ := absent
  rw [readPart]
  split <;> simp_all

/-- The reader of filters whose values `decode` reads. -/
def reader (decode : Json → Json.Decoded α) : TermFilter.Reader (RangeFilter α) α where
  empty := {}
  keys := TermFilter.rangeKeys
  decode := decode
  readPart := readPart decode TermFilter.rangeKeys
  part := part
  part_empty key := by unfold part; split <;> rfl
  known listed filter value := by
    rw [rangeKeys_eq] at listed
    obtain ⟨comparison, -, rfl⟩ := List.mem_map.mp listed
    exact readPart_known decode _ comparison filter value
  unknown absent filter value := readPart_unknown absent filter value

/-- A filter asks for one clause for each part that it has, in the order of the keys. -/
theorem clauses_parts (filter : RangeFilter α) (write : α → Json) (exact ordered text : String) :
    (filter.clauses write exact ordered).map some =
      TermFilter.rangeKeys.filterMap fun key => (filter.part key).map fun value =>
        TermFilter.asked? exact ordered text key (write value) := by
  rw [clauses_eq, rangeKeys_eq, List.filterMap_map, List.map_filterMap]
  refine List.filterMap_congr fun comparison _ => ?_
  rw [Function.comp_apply, part_key, Option.map_map]
  cases comparison <;> rfl

end RangeFilter

namespace StringFilter

/-- The part of a filter under a key. -/
def part (filter : StringFilter) : String → Option String
  | "contains" => filter.contains
  | "startsWith" => filter.startsWith
  | "endsWith" => filter.endsWith
  | key => filter.order.part key

theorem part_key (filter : StringFilter) (comparison : Comparison) :
    filter.part comparison.key = filter.order.part comparison.key := by
  cases comparison <;> rfl

theorem readPart_comparison (comparison : Comparison) (filter : StringFilter) (value : Json) :
    Alike (fun given next => ∀ other,
        part next other = if other = comparison.key then given else part filter other)
      (value.toOption Json.toText) (readPart filter (comparison.key, value)) := by
  have order := RangeFilter.readPart_known Json.toText TermFilter.stringKeys comparison
    filter.order value
  have whole : readPart filter (comparison.key, value) =
      (fun order => { filter with order := order }) <$>
        filter.order.readPart Json.toText TermFilter.stringKeys (comparison.key, value) := by
    cases comparison <;> rfl
  have worded : ∀ key ∈ ["contains", "startsWith", "endsWith"], key ≠ comparison.key := by
    cases comparison <;> decide
  simp only [List.forall_mem_cons] at worded
  rw [whole, ← id_map (value.toOption Json.toText)]
  refine order.map fun given next set other => ?_
  unfold part
  split
  · rw [if_neg worded.1]
  · rw [if_neg worded.2.1]
  · rw [if_neg worded.2.2.1]
  · exact set other

/-- The reader of filters on texts. -/
def reader : TermFilter.Reader StringFilter String where
  empty := {}
  keys := TermFilter.stringKeys
  decode := Json.toText
  readPart := readPart
  part := part
  part_empty key := by
    unfold part
    split
    · rfl
    · rfl
    · rfl
    · unfold RangeFilter.part
      split <;> rfl
  known listed filter value := by
    rcases List.mem_append.mp listed with ordered | worded
    · rw [RangeFilter.rangeKeys_eq] at ordered
      obtain ⟨comparison, -, rfl⟩ := List.mem_map.mp ordered
      exact readPart_comparison comparison filter value
    · simp only [List.mem_cons, List.not_mem_nil, or_false] at worded
      cases read : value.toOption Json.toText with
      | error problem =>
        rcases worded with rfl | rfl | rfl <;> simp only [readPart, read] <;> exact .error problem
      | ok given =>
        rcases worded with rfl | rfl | rfl <;> simp only [readPart, read] <;>
          exact .ok fun other => by unfold part; split <;> simp_all
  unknown absent filter value := by
    simp only [TermFilter.stringKeys, List.mem_append, List.mem_cons, List.not_mem_nil, or_false,
      not_or] at absent
    obtain ⟨unordered, contains, startsWith, endsWith⟩ := absent
    rw [readPart]
    split
    next same => exact (contains same).elim
    next same => exact (startsWith same).elim
    next same => exact (endsWith same).elim
    next =>
      rw [RangeFilter.readPart_unknown unordered]
      rfl

/-- A filter asks for one clause for each part that it has, in the order of the keys. -/
theorem clauses_parts (filter : StringFilter) (path : FieldPath) :
    (filter.clauses path).map some =
      TermFilter.stringKeys.filterMap fun key => (filter.part key).map fun value =>
        TermFilter.asked? path.keyword path.keyword path.dotted key (.string value) := by
  have ordered : TermFilter.rangeKeys.filterMap (fun key => (filter.part key).map fun value =>
      TermFilter.asked? path.keyword path.keyword path.dotted key (.string value)) =
      (filter.order.clauses .string path.keyword path.keyword).map some := by
    rw [RangeFilter.clauses_parts _ _ _ _ path.dotted]
    refine List.filterMap_congr fun key listed => ?_
    rw [RangeFilter.rangeKeys_eq] at listed
    obtain ⟨comparison, -, rfl⟩ := List.mem_map.mp listed
    rw [part_key]
  rw [TermFilter.stringKeys, List.filterMap_append, ordered, clauses]
  obtain ⟨order, contains, startsWith, endsWith⟩ := filter
  simp only [List.map_append, List.append_assoc]
  cases contains <;> cases startsWith <;> cases endsWith <;> rfl

end StringFilter

end TypedSearch
