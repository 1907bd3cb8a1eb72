import TypedSearch.Proofs.Catalog.Mapping
import TypedSearch.Proofs.Json.Agreement

/-!
Which datasets may share an index. Every dataset has a mapping, and it is a value of strings in
which no key comes twice, so that agreement of mappings is sameness up to the order of properties.
The mappings of a catalog are compared with the first one of their index only; as sameness is an
equivalence this decides whether any two datasets of an index are mapped alike.
-/

namespace TypedSearch

open Outcome

namespace Json

variable {entries : Entries} {key name : String} {value : Json}

theorem plain_single (plain : value.Plain) : (single key value).Plain :=
  plain_object.mpr ⟨List.nodup_singleton key, List.forall_mem_singleton.mpr plain⟩

theorem plain_pair {second : Json} (differ : key ≠ name) (plain : value.Plain)
    (later : second.Plain) : Plain (.object [(key, value), (name, second)]) := by
  have distinct : (Entries.keys [(key, value), (name, second)]).Nodup := by
    simp [Entries.keys, differ]
  exact plain_object.mpr
    ⟨distinct, List.forall_mem_cons.mpr ⟨plain, List.forall_mem_singleton.mpr later⟩⟩

theorem plain_empty : Plain (.object []) := plain_object.mpr ⟨List.nodup_nil, nofun⟩

theorem Entries.mem_keys_insert :
    name ∈ keys (entries.insert key value) ↔ name = key ∨ name ∈ keys entries := by
  induction entries with
  | nil => simp [insert, keys]
  | cons entry rest ih =>
    obtain ⟨other, old⟩ := entry
    rw [insert]
    split
    next same => simp [keys, same]
    next =>
      change name ∈ other :: keys (insert key value rest) ↔ name = key ∨ name ∈ other :: keys rest
      rw [List.mem_cons, List.mem_cons, ih, or_left_comm]

theorem Plain.insert (plain : Plain (.object entries)) (added : value.Plain) :
    Plain (.object (entries.insert key value)) := by
  rw [plain_object] at plain ⊢
  induction entries with
  | nil => exact ⟨List.nodup_singleton key, List.forall_mem_singleton.mpr added⟩
  | cons entry rest ih =>
    obtain ⟨other, old⟩ := entry
    obtain ⟨distinct, each⟩ := plain
    obtain ⟨fresh, distinct⟩ := List.nodup_cons.mp distinct
    obtain ⟨first, later⟩ := List.forall_mem_cons.mp each
    rw [Entries.insert]
    split
    next same =>
      subst same
      exact ⟨List.nodup_cons.mpr ⟨fresh, distinct⟩, List.forall_mem_cons.mpr ⟨added, later⟩⟩
    next differs =>
      obtain ⟨apart, inner⟩ := ih ⟨distinct, later⟩
      have absent : other ∉ Entries.keys (Entries.insert key value rest) := by
        rw [Entries.mem_keys_insert]
        exact not_or.mpr ⟨differs, fresh⟩
      exact ⟨List.nodup_cons.mpr ⟨absent, apart⟩, List.forall_mem_cons.mpr ⟨first, inner⟩⟩

end Json

/-- A step of a mapping succeeds, and what it is mapped to is plain. -/
def MapsPlainly (answer : Except Problem (Option Json)) : Prop :=
  ∃ property?, answer = .ok property? ∧ ∀ property ∈ property?, property.Plain

/-- Properties stay plain when those of fields are added. -/
theorem Handler.partProperties_plain (parts : List (Part Unit Json)) {before : Json.Entries}
    (answers : ∀ part ∈ parts, MapsPlainly (part.answer ()))
    (plain : Json.Plain (.object before)) :
    ∃ properties, partProperties parts before = .ok properties ∧
      Json.Plain (.object properties) := by
  induction parts generalizing before with
  | nil => exact ⟨before, rfl, plain⟩
  | cons part rest ih =>
    obtain ⟨first, others⟩ := List.forall_mem_cons.mp answers
    obtain ⟨property?, answered, own⟩ := first
    rw [partProperties, answered, ok_bind]
    cases property? with
    | none => exact ih others plain
    | some property => exact ih others (plain.insert (own property rfl))

/-- Every type has a mapping wherever it occurs, with valid fields or not, or is left out. -/
theorem standard_mapsPlainly (type : SchemaType) (path : FieldPath) :
    MapsPlainly (Registry.standard.mapping type path) := by
  rw [Registry.mapping]
  induction type using SchemaType.type_induction generalizing path with
  | primitive kind =>
    have named (text : String) : (Json.single "type" (.string text)).Plain :=
      Json.plain_single (Json.plain_string text)
    have keyword (text : String) : (Clause.withKeyword text).Plain :=
      Json.plain_pair (by decide) (Json.plain_string text) (Json.plain_single (named "keyword"))
    rw [Registry.standard_resolve_primitive]
    cases kind with
    | boolean => exact ⟨_, rfl, by rintro _ ⟨⟩; exact named "boolean"⟩
    | float => exact ⟨_, rfl, by rintro _ ⟨⟩; exact named "float"⟩
    | int => exact ⟨_, rfl, by rintro _ ⟨⟩; exact keyword "integer"⟩
    | string => exact ⟨_, rfl, by rintro _ ⟨⟩; exact keyword "text"⟩
    | bytes | null | long | double => exact ⟨none, rfl, by simp⟩
  | record name fields ih =>
    rw [Registry.standard_resolve_record]
    simp only [Handler.record, Handler.recordMapping, Capability.resolve]
    obtain ⟨properties, added, plain⟩ := Handler.partProperties_plain
      (fields.map fun field =>
        ⟨field, Registry.standard.resolve Handler.mapping field.type (path.child field.name)⟩)
      (List.forall_mem_map.mpr fun field listed => ih field listed _) Json.plain_empty
    rw [added]
    refine ⟨_, rfl, ?_⟩
    rintro _ ⟨⟩
    exact Json.plain_pair (by decide) (Json.plain_string "object") plain

namespace Dataset

/-- Every dataset has a mapping. -/
theorem mapping_plain (dataset : Dataset) :
    ∃ mapping, dataset.mapping .standard = .ok mapping ∧ mapping.Plain := by
  rw [mapping, fieldProperties_eq]
  obtain ⟨properties, added, plain⟩ := Handler.partProperties_plain
    (dataset.schema.fields.map fun field =>
      ⟨field, fun _ => Registry.standard.mapping field.type (.ofName field.name)⟩)
    (List.forall_mem_map.mpr fun field _ => standard_mapsPlainly field.type _) Json.plain_empty
  rw [added]
  exact ⟨_, rfl, Json.plain_single plain⟩

/-- Two datasets have the same mapping, up to the order of properties. -/
def MappedAlike (one two : Dataset) : Prop :=
  ∃ mapping other, one.mapping .standard = .ok mapping ∧ two.mapping .standard = .ok other ∧
    Json.Reordered mapping other

theorem mappedAlike_iff {one two : Dataset} {mapping other : Json}
    (first : one.mapping .standard = .ok mapping) (second : two.mapping .standard = .ok other) :
    one.MappedAlike two ↔ Json.Reordered mapping other := by
  constructor
  · rintro ⟨_, _, made, set, same⟩
    cases first.symm.trans made
    cases second.symm.trans set
    exact same
  · intro same
    exact ⟨mapping, other, first, second, same⟩

end Dataset

theorem EngineConfig.indexName_eq (config : EngineConfig) (index : String) :
    config.indexName index = config.indexPrefix.getD "" ++ index := by
  rw [indexName]
  cases config.indexPrefix with
  | none => simp
  | some lead => rfl

theorem EngineConfig.indexName_inj {config : EngineConfig} {index other : String} :
    config.indexName index = config.indexName other ↔ index = other := by
  rw [indexName_eq, indexName_eq, String.append_right_inj]

namespace Catalog

variable {config : EngineConfig} {mappings joined : Table Json} {entry : String × Dataset}
  {entries rest : List (String × Dataset)}

/-- The mappings are those of some datasets: one for every index, that of one of its datasets, and
that of each of the others up to the order of properties. -/
structure Collected (config : EngineConfig) (entries : List (String × Dataset))
    (mappings : Table Json) : Prop where
  /-- A mapping is that of a dataset of its index. -/
  origin : ∀ {name mapping}, mappings.get? name = some mapping →
    ∃ entry ∈ entries, config.indexName entry.2.index = name ∧
      entry.2.mapping .standard = .ok mapping
  /-- Every dataset is mapped like the datasets of its index. -/
  held : ∀ entry ∈ entries, ∃ stored mapping,
    mappings.get? (config.indexName entry.2.index) = some stored ∧
      entry.2.mapping .standard = .ok mapping ∧ Json.Reordered stored mapping

/-- A dataset is refused because of another one of its index that is mapped in another way. -/
def Refuses (config : EngineConfig) (entries : List (String × Dataset)) (problem : Problem) :
    Prop :=
  ∃ one ∈ entries, ∃ two ∈ entries, one.2.index = two.2.index ∧ ¬ one.2.MappedAlike two.2 ∧
    problem = .collision (.index (config.indexName two.2.index) two.1)

namespace Collected

theorem empty (config : EngineConfig) : Collected config [] .empty := ⟨nofun, nofun⟩

/-- Adding a dataset collects its mapping as well, or refuses it. -/
theorem step (collected : Collected config entries mappings) (entry : String × Dataset) :
    match addMapping .standard config mappings entry with
    | .ok joined => Collected config (entries ++ [entry]) joined
    | .error problem => Refuses config (entries ++ [entry]) problem := by
  obtain ⟨mapping, made, plain⟩ := entry.2.mapping_plain
  have kept : ∀ {name stored}, mappings.get? name = some stored →
      ∃ other ∈ entries ++ [entry], config.indexName other.2.index = name ∧
        other.2.mapping .standard = .ok stored := by
    intro name stored found
    obtain ⟨other, listed, place, set⟩ := collected.origin found
    exact ⟨other, List.mem_append_left _ listed, place, set⟩
  simp only [addMapping, made, ok_bind]
  cases found : mappings.get? (config.indexName entry.2.index) with
  | none =>
    -- The index is new: the datasets before have theirs at other names, which are left as they are.
    constructor
    · intro name stored set
      rw [Table.get?_insert] at set
      split at set
      next same =>
        cases set
        exact ⟨entry, by simp, same.symm, made⟩
      next => exact kept set
    · intro other listed
      rw [Table.get?_insert]
      rcases List.mem_append.mp listed with earlier | last
      · obtain ⟨stored, own, set, ownMade, same⟩ := collected.held other earlier
        have elsewhere : config.indexName other.2.index ≠ config.indexName entry.2.index := by
          intro equal
          rw [equal, found] at set
          cases set
        rw [if_neg elsewhere]
        exact ⟨stored, own, set, ownMade, same⟩
      · obtain rfl := List.mem_singleton.mp last
        exact ⟨mapping, mapping, if_pos rfl, made, .refl⟩
  | some stored =>
    -- What is stored is the mapping of the first dataset of the index; this one is compared with it.
    obtain ⟨first, listed, place, set⟩ := collected.origin found
    have storedPlain : stored.Plain := by
      obtain ⟨own, ownMade, plain⟩ := first.2.mapping_plain
      cases set.symm.trans ownMade
      exact plain
    by_cases alike : stored.agrees mapping = true
    · simp only [alike, ↓reduceIte]
      have same := (Json.agrees_iff_reordered storedPlain).mp alike
      refine ⟨kept, fun other listed => ?_⟩
      rcases List.mem_append.mp listed with earlier | last
      · exact collected.held other earlier
      · obtain rfl := List.mem_singleton.mp last
        exact ⟨stored, mapping, found, made, same⟩
    · simp only [alike]
      refine ⟨first, List.mem_append_left _ listed, entry, by simp, ?_, ?_, rfl⟩
      · exact EngineConfig.indexName_inj.mp place
      · rw [Dataset.mappedAlike_iff set made, ← Json.agrees_iff_reordered storedPlain]
        exact alike

/-- Adding datasets one after the other collects their mappings, or refuses one of them. -/
theorem run (collected : Collected config entries mappings) :
    match rest.foldlM (addMapping .standard config) mappings with
    | .ok joined => Collected config (entries ++ rest) joined
    | .error problem => Refuses config (entries ++ rest) problem := by
  induction rest generalizing entries mappings with
  | nil =>
    rw [List.append_nil]
    exact collected
  | cons entry rest ih =>
    have first := collected.step entry
    rw [List.foldlM_cons, List.append_cons]
    cases ran : addMapping .standard config mappings entry with
    | ok joined =>
      rw [ran] at first
      exact ih first
    | error problem =>
      rw [ran] at first
      obtain ⟨one, oneListed, two, twoListed, clash⟩ := first
      exact ⟨one, List.mem_append_left _ oneListed, two, List.mem_append_left _ twoListed, clash⟩

/-- The datasets whose mappings are collected are mapped alike where they share an index. -/
theorem mappedAlike (collected : Collected config entries mappings) {one two : String × Dataset}
    (oneListed : one ∈ entries) (twoListed : two ∈ entries) (shared : one.2.index = two.2.index) :
    one.2.MappedAlike two.2 := by
  obtain ⟨stored, mapping, found, made, same⟩ := collected.held one oneListed
  obtain ⟨again, other, foundAgain, set, alike⟩ := collected.held two twoListed
  rw [shared, foundAgain] at found
  cases found
  exact ⟨mapping, other, made, set, (Json.Reordered.symm same).trans alike⟩

theorem mem_names (collected : Collected config entries mappings) {name : String} :
    name ∈ mappings.names ↔ ∃ entry ∈ entries, config.indexName entry.2.index = name := by
  rw [Table.mem_names, Table.contains, Option.isSome_iff_exists]
  constructor
  · rintro ⟨mapping, found⟩
    obtain ⟨entry, listed, place, -⟩ := collected.origin found
    exact ⟨entry, listed, place⟩
  · rintro ⟨entry, listed, rfl⟩
    obtain ⟨stored, -, found, -⟩ := collected.held entry listed
    exact ⟨stored, found⟩

end Collected

theorem mappings_decided (catalog : Catalog) (config : EngineConfig) :
    match catalog.mappings .standard config with
    | .ok mappings => Collected config catalog.datasets.entries mappings
    | .error problem => Refuses config catalog.datasets.entries problem :=
  (Collected.empty config).run

/-- Every dataset has a mapping. A catalog has mappings just if any two datasets of an index are
mapped alike; otherwise one dataset is refused because of its index. The mappings are for the
physical names of the indices, and every dataset finds its own under that of its index. -/
theorem mappings_shared (catalog : Catalog) (config : EngineConfig) :
    (∀ dataset : Dataset, ∃ mapping, dataset.mapping .standard = .ok mapping) ∧
    ((∃ mappings, catalog.mappings .standard config = .ok mappings) ↔
      ∀ one ∈ catalog.datasets.entries, ∀ two ∈ catalog.datasets.entries,
        one.2.index = two.2.index → one.2.MappedAlike two.2) ∧
    (∀ problem, catalog.mappings .standard config = .error problem →
      ∃ one ∈ catalog.datasets.entries, ∃ two ∈ catalog.datasets.entries,
        one.2.index = two.2.index ∧ ¬ one.2.MappedAlike two.2 ∧
          problem = .collision
            (.index (config.indexPrefix.getD "" ++ two.2.index) two.1)) ∧
    ∀ mappings, catalog.mappings .standard config = .ok mappings →
      (∀ name, name ∈ mappings.names ↔
        ∃ entry ∈ catalog.datasets.entries,
          config.indexPrefix.getD "" ++ entry.2.index = name) ∧
      ∀ entry ∈ catalog.datasets.entries, ∃ stored mapping,
        mappings.get? (config.indexPrefix.getD "" ++ entry.2.index) = some stored ∧
          entry.2.mapping .standard = .ok mapping ∧ Json.Reordered stored mapping := by
  have decided := mappings_decided catalog config
  simp only [← EngineConfig.indexName_eq]
  refine ⟨fun dataset => ?_, ?_, ?_, ?_⟩
  · obtain ⟨mapping, made, -⟩ := dataset.mapping_plain
    exact ⟨mapping, made⟩
  · constructor
    · rintro ⟨mappings, ran⟩ one oneListed two twoListed shared
      rw [ran] at decided
      exact decided.mappedAlike oneListed twoListed shared
    · intro alike
      cases ran : catalog.mappings .standard config with
      | ok mappings => exact ⟨mappings, rfl⟩
      | error problem =>
        rw [ran] at decided
        obtain ⟨one, oneListed, two, twoListed, shared, apart, -⟩ := decided
        exact (apart (alike one oneListed two twoListed shared)).elim
  · intro problem ran
    rw [ran] at decided
    exact decided
  · intro mappings ran
    rw [ran] at decided
    exact ⟨fun name => decided.mem_names, decided.held⟩

end Catalog

end TypedSearch
