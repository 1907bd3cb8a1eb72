import TypedSearch.Proofs.Query.TermFilter

/-!
Null in the values that filters are given. A term filter reads null under a key as it reads no
entry, and a record passes over a field that is given null. So null-valued entries may be left out
of the values for stored fields, at any depth, and neither the clauses nor the problem that is
reported change.
-/

namespace TypedSearch

open Outcome

namespace Json

/-- An entry with null is left out of an object in which its key comes once. -/
inductive DropsNull (key : String) : Entries → Entries → Prop where
  | of (before after : Entries) (first : key ∉ Entries.keys before)
      (last : key ∉ Entries.keys after) :
      DropsNull key (before ++ (key, .null) :: after) (before ++ after)

/-- What is found under a key stays, unless it was the null that is left out. -/
theorem DropsNull.lookup {key : String} {entries rest : Entries}
    (dropped : DropsNull key entries rest) (name : String) :
    entries.lookup name = rest.lookup name ∨
      name = key ∧ entries.lookup name = some .null ∧ rest.lookup name = none := by
  obtain ⟨before, after, first, last⟩ := dropped
  rw [List.lookup_append, List.lookup_append]
  by_cases same : name = key
  · subst same
    rw [Table.lookup_eq_none first, Table.lookup_eq_none last, List.lookup_cons_self]
    exact .inr ⟨rfl, rfl, rfl⟩
  · exact .inl (by rw [Table.lookup_cons_ne same])

end Json

open Json

namespace TermFilter.Reader

variable {φ α : Type} {reader : Reader φ α} {entries rest : Entries} {key : String}

/-- Two filters have the same parts. -/
def SameParts (reader : Reader φ α) (one two : φ) : Prop :=
  ∀ key, reader.part one key = reader.part two key

theorem readPart_sameParts {one two : φ} (same : reader.SameParts one two) (entry : String × Json) :
    Alike reader.SameParts (reader.readPart one entry) (reader.readPart two entry) := by
  obtain ⟨key, value⟩ := entry
  by_cases listed : key ∈ reader.keys
  · have first := reader.known listed one value
    have second := reader.known listed two value
    cases read : value.toOption reader.decode with
    | error problem =>
      rw [read] at first second
      rw [first.eq_error, second.eq_error]
      exact .error problem
    | ok given =>
      rw [read] at first second
      obtain ⟨left, ran, set⟩ := first.exists_right
      obtain ⟨right, ranToo, setToo⟩ := second.exists_right
      rw [ran, ranToo]
      exact .ok fun other => by rw [set, setToo, same]
  · rw [reader.unknown listed, reader.unknown listed]
    exact .error _

/-- Entries are read in the same way into filters with the same parts. -/
theorem run_sameParts {one two : φ} (same : reader.SameParts one two) :
    Alike reader.SameParts (entries.foldlM reader.readPart one)
      (entries.foldlM reader.readPart two) := by
  induction entries generalizing one two with
  | nil => exact .ok same
  | cons entry rest ih =>
    rw [List.foldlM_cons, List.foldlM_cons]
    exact (readPart_sameParts same entry).bind fun _ _ => ih

/-- A null under a known key is read as if it were not there. -/
theorem run_dropped (known : key ∈ reader.keys) (dropped : DropsNull key entries rest) :
    Alike reader.SameParts (entries.foldlM reader.readPart reader.empty)
      (rest.foldlM reader.readPart reader.empty) := by
  obtain ⟨before, after, absent, -⟩ := dropped
  rw [List.foldlM_append, List.foldlM_append]
  cases ran : before.foldlM reader.readPart reader.empty with
  | error problem => exact .error problem
  | ok middle =>
    obtain ⟨next, read, set⟩ := (reader.known known middle .null).exists_right
    have same : reader.SameParts next middle := by
      intro other
      rw [set]
      split
      next own => rw [own, part_untouched ran absent, reader.part_empty]
      next => rfl
    rw [ok_bind, ok_bind, List.foldlM_cons, read, ok_bind]
    exact run_sameParts same

theorem ofParams_dropped (known : key ∈ reader.keys) (dropped : DropsNull key entries rest)
    (path : FieldPath) :
    Alike reader.SameParts (reader.ofParams path (.object entries))
      (reader.ofParams path (.object rest)) := by
  have alike := run_dropped known dropped
  rw [ofParams, ofParams, TermFilter.parse, TermFilter.parse]
  generalize entries.foldlM reader.readPart reader.empty = one at alike ⊢
  generalize rest.foldlM reader.readPart reader.empty = two at alike ⊢
  cases alike with
  | error cause => exact .error _
  | ok same => exact .ok same

end TermFilter.Reader

namespace TermKind

variable {kind : TermKind} {entries rest : Entries} {key : String}

/-- Filters with the same parts ask for the same clauses. -/
theorem clauses_sameParts {one two : kind.Filter} (same : kind.description.reader.SameParts one two)
    (path : FieldPath) : kind.clauses one path = kind.clauses two path := by
  apply List.map_injective_iff.mpr (fun _ _ => Option.some.inj)
  rw [kind.description.clauses, kind.description.clauses]
  exact List.filterMap_congr fun key _ => by rw [same]

theorem answer_dropped (known : key ∈ kind.type.entryNames) (dropped : DropsNull key entries rest)
    (path : FieldPath) : kind.answer path (.object entries) = kind.answer path (.object rest) := by
  rw [entryNames_eq] at known
  rw [answer, answer, kind.description.ofParams]
  exact (TermFilter.Reader.ofParams_dropped known dropped path).bind_eq fun one two same => by
    rw [clauses_sameParts same]

end TermKind

/-- A filter on truth values is the same with a null and without it. -/
theorem BooleanFilter.ofParams_dropped {entries rest : Entries}
    (dropped : DropsNull TermFilter.equalsKey entries rest) (path : FieldPath) :
    ofParams path (.object entries) = ofParams path (.object rest) := by
  have alike : Alike reader.SameParts (ofParams path (.object entries))
      (ofParams path (.object rest)) :=
    TermFilter.Reader.ofParams_dropped (List.mem_singleton.mpr rfl) dropped path
  refine alike.eq fun one two same => ?_
  obtain ⟨equals⟩ := one
  obtain ⟨other⟩ := two
  have parts : equals = other := same TermFilter.equalsKey
  rw [parts]

/-- A null-valued entry is left out of a value for a type: under a known key of a term filter, under
any key of a record, or inside what is given for a field of a record. -/
inductive SchemaType.Trims : SchemaType → Json → Json → Prop where
  | term {primitive : Primitive} {kind : TermKind} {key : String} {entries rest : Entries}
      (filtered : primitive.termKind? = some kind) (known : key ∈ kind.type.entryNames)
      (dropped : DropsNull key entries rest) :
      Trims (.primitive primitive) (.object entries) (.object rest)
  | record {shape : RecordType} {key : String} {entries rest : Entries}
      (dropped : DropsNull key entries rest) :
      Trims (.record shape) (.object entries) (.object rest)
  | inside {name key : String} {fields : List SchemaField} {before after : Entries}
      {value other : Json} (listed : ∃ field ∈ fields, field.name = key)
      (each : ∀ field ∈ fields, field.name = key → Trims field.type value other) :
      Trims (.record ⟨name, fields⟩) (.object (before ++ (key, value) :: after))
        (.object (before ++ (key, other) :: after))

namespace SchemaType.Trims

variable {type : SchemaType} {value other : Json}

theorem objects (trims : type.Trims value other) :
    (∃ entries, value = .object entries) ∧ ∃ entries, other = .object entries := by
  cases trims <;> exact ⟨⟨_, rfl⟩, ⟨_, rfl⟩⟩

theorem ne_null (trims : type.Trims value other) : value ≠ .null ∧ other ≠ .null := by
  obtain ⟨⟨entries, rfl⟩, ⟨others, rfl⟩⟩ := trims.objects
  simp

end SchemaType.Trims

namespace Handler

variable {part : Part Json (List Json)} {entries rest before after : Entries} {key : String}
  {value other : Json}

/-- A part answers nothing to null, so it answers the same without it. -/
theorem partAnswer_dropped (dropped : DropsNull key entries rest) (part : Part Json (List Json)) :
    partAnswer entries part = partAnswer rest part := by
  rcases dropped.lookup part.field.name with same | ⟨-, null, missing⟩
  · rw [partAnswer, partAnswer, same]
  · rw [partAnswer, partAnswer, null, missing]

/-- A part answers the same if it does for the value that is given under its name. -/
theorem partAnswer_replaced (given : value ≠ .null ∧ other ≠ .null)
    (answers : part.field.name = key → part.answer value = part.answer other) :
    partAnswer (before ++ (key, value) :: after) part =
      partAnswer (before ++ (key, other) :: after) part := by
  rcases Entries.lookup_replaced before after key value other part.field.name with
    same | ⟨own, one, two⟩
  · rw [partAnswer, partAnswer, same]
  · rw [partAnswer_addressed ⟨one, given.1⟩, partAnswer_addressed ⟨two, given.2⟩, answers own]

end Handler

/-- Filters on stored fields are the same after null-valued entries have been left out. -/
theorem standard_filter_trims {type : SchemaType} {value other : Json}
    (trims : type.Trims value other) (path : FieldPath) :
    Registry.standard.filter type path value = Registry.standard.filter type path other := by
  induction trims generalizing path with
  | term filtered known dropped =>
    rw [standard_filter_primitive, standard_filter_primitive, filtered]
    exact TermKind.answer_dropped known dropped path
  | @record shape key entries rest dropped =>
    obtain ⟨name, fields⟩ := shape
    rw [Registry.filter, Registry.filter, Registry.standard_resolve_record,
      Registry.standard_resolve_record]
    simp only [Handler.record, Handler.recordClauses, Capability.resolve]
    rw [Handler.partClauses_congr fun part _ => Handler.partAnswer_dropped dropped part]
  | @inside name key fields before after value other listed each ih =>
    obtain ⟨field, inside, rfl⟩ := listed
    have given := (each field inside rfl).ne_null
    rw [Registry.filter, Registry.filter, Registry.standard_resolve_record,
      Registry.standard_resolve_record]
    simp only [Handler.record, Handler.recordClauses, Capability.resolve]
    rw [Handler.partClauses_congr]
    refine List.forall_mem_map.mpr fun other listed => ?_
    exact Handler.partAnswer_replaced given fun same => ih other listed same _

end TypedSearch
