import TypedSearch.Proofs.Catalog.Members
import TypedSearch.Proofs.Handler.Nulls

/-!
Null in the values that conditions give to members. A wrapper may leave out what stands beside the
arguments, and a filter on truth values takes null for nothing. So null-valued entries may be left
out of the values for scripted fields as for stored ones, the arguments of scripts apart.
-/

namespace TypedSearch

open Json Outcome

variable {entries rest before after : Entries} {key : String} {value other : Json}

/-- What is left out of a filter on truth values makes no difference. -/
theorem BooleanFilter.ofParams_trims (trims : (SchemaType.primitive .boolean).Trims value other)
    (path : FieldPath) : ofParams path value = ofParams path other := by
  cases trims with
  | @term _ kind key _ _ filtered known dropped =>
    cases filtered
    obtain rfl : key = TermFilter.equalsKey := List.mem_singleton.mp known
    exact ofParams_dropped dropped path

/-- A wrapper of arguments is taken apart in the same way with null beside the arguments and without
it. -/
theorem splitArguments_dropped (differ : key ≠ "arguments") (dropped : DropsNull key entries rest)
    (path : FieldPath) :
    splitArguments path (.object entries) key true =
      splitArguments path (.object rest) key true := by
  have arguments : entries.lookup "arguments" = rest.lookup "arguments" :=
    (dropped.lookup "arguments").resolve_right fun own => differ own.1.symm
  have beside : (entries.lookup key).getD .null = (rest.lookup key).getD .null := by
    rcases dropped.lookup key with same | ⟨-, null, missing⟩
    · rw [same]
    · rw [null, missing]
      rfl
  have unknown : (Entries.keys entries).find? (fun other => other ≠ "arguments" && other ≠ key) =
      (Entries.keys rest).find? fun other => other ≠ "arguments" && other ≠ key := by
    obtain ⟨before, after, -, -⟩ := dropped
    simp [Entries.keys, List.find?_append]
  simp only [splitArguments, Bool.not_true, Bool.false_eq_true, ↓reduceIte, unknown, arguments,
    beside]

/-- A wrapper is taken apart in the same way whatever stands beside the arguments. -/
theorem splitArguments_replaced (differ : key ≠ "arguments") (path : FieldPath)
    (before after : Entries) (value other : Json) :
    Alike (fun one two => one.arguments = two.arguments ∧
        (one.value = two.value ∨ one.value = value ∧ two.value = other))
      (splitArguments path (.object (before ++ (key, value) :: after)) key true)
      (splitArguments path (.object (before ++ (key, other) :: after)) key true) := by
  have arguments : (before ++ (key, value) :: after).lookup "arguments" =
      (before ++ (key, other) :: after).lookup "arguments" :=
    (Entries.lookup_replaced before after key value other _).resolve_right fun own =>
      differ own.1.symm
  simp only [splitArguments, Bool.not_true, Bool.false_eq_true, ↓reduceIte, arguments,
    Entries.keys_replaced before after key value other]
  split
  next => exact .error _
  next =>
    split
    next given =>
      refine .ok ⟨rfl, ?_⟩
      rcases Entries.lookup_replaced before after key value other key with
        same | ⟨-, one, two⟩
      · exact .inl (by rw [same])
      · exact .inr ⟨by rw [one, Option.getD_some], by rw [two, Option.getD_some]⟩
    next => exact .error _

namespace ComputedField

/-- A null-valued entry is left out of a value for a computed field that scripts evaluate: out of
the filter on truth values or, for a field with arguments, from beside the arguments or out of the
filter there. -/
inductive Trims (field : ComputedField) : Json → Json → Prop where
  | bare {value other : Json} (plain : field.hasArguments = false)
      (trims : (SchemaType.primitive .boolean).Trims value other) : Trims field value other
  | beside {entries rest : Entries} (takes : field.hasArguments = true)
      (dropped : DropsNull "filter" entries rest) : Trims field (.object entries) (.object rest)
  | inside {before after : Entries} {value other : Json} (takes : field.hasArguments = true)
      (trims : (SchemaType.primitive .boolean).Trims value other) :
      Trims field (.object (before ++ ("filter", value) :: after))
        (.object (before ++ ("filter", other) :: after))

variable {field : ComputedField}

theorem Trims.ne_null (trims : field.Trims value other) : value ≠ .null ∧ other ≠ .null := by
  cases trims with
  | bare _ trims => exact trims.ne_null
  | beside | inside => simp

theorem scriptFilter_trims {source : String} (trims : field.Trims value other)
    (site : ComputedSite) :
    (scriptFilter source field.hasArguments).resolve site value =
      (scriptFilter source field.hasArguments).resolve site other := by
  cases trims with
  | bare plain trims =>
    simp only [scriptFilter, Capability.resolve, plain, splitArguments, Bool.not_false, ↓reduceIte,
      ok_bind, BooleanFilter.ofParams_trims trims site.path]
  | beside takes dropped =>
    simp only [scriptFilter, Capability.resolve, takes,
      splitArguments_dropped (by decide) dropped site.path]
  | @inside before after value other takes trims =>
    have differ : "filter" ≠ "arguments" := by decide
    simp only [scriptFilter, Capability.resolve, takes]
    refine (splitArguments_replaced differ site.path before after value other).bind_eq ?_
    rintro one two ⟨arguments, own | ⟨given, trimmed⟩⟩
    · rw [arguments, own]
    · rw [arguments, given, trimmed, BooleanFilter.ofParams_trims trims site.path]

end ComputedField

namespace Member

variable {member : Member}

/-- A null-valued entry is left out of a value for a member. -/
def Trims : Member → Json → Json → Prop
  | stored field => field.type.Trims
  | computed _ field => field.Trims

theorem Trims.ne_null (trims : member.Trims value other) : value ≠ .null ∧ other ≠ .null := by
  cases member with
  | stored field => exact SchemaType.Trims.ne_null trims
  | computed name field => exact ComputedField.Trims.ne_null trims

/-- Members have the same clauses after null-valued entries have been left out. -/
theorem filterClauses_trims (scripted : member.IsScripted) (trims : member.Trims value other) :
    member.filterClauses .standard value = member.filterClauses .standard other := by
  cases member with
  | stored field => exact standard_filter_trims trims _
  | computed name field =>
    rcases ComputedField.scripted_filter scripted with ⟨-, absent⟩ | ⟨-, source, hook⟩
    · rw [filterClauses, filterClauses, absent]
      rfl
    · rw [filterClauses, filterClauses, hook]
      exact ComputedField.scriptFilter_trims trims _

end Member

end TypedSearch
