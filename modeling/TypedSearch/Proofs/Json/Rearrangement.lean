import Mathlib.Data.List.Nodup
import Mathlib.Logic.Relation
import TypedSearch.Proofs.Json.Value
import TypedSearch.Proofs.Table

/-!
Values that differ in the order of their entries only. Entries are put in another order in one
object at a time, anywhere in a value; where no key comes twice this changes nothing that is found
under a key, except that what is found may itself have been rearranged.
-/

namespace TypedSearch.Json

/-- No object in a value has two entries of one key. So it is in every value that was read. -/
inductive Keyed : Json → Prop where
  | null : Keyed .null
  | bool (value : Bool) : Keyed (.bool value)
  | number (value : Number) : Keyed (.number value)
  | string (text : String) : Keyed (.string text)
  | array {items : List Json} (each : ∀ item ∈ items, Keyed item) : Keyed (.array items)
  | object {entries : Entries} (distinct : (Entries.keys entries).Nodup)
      (each : ∀ entry ∈ entries, Keyed entry.2) : Keyed (.object entries)

/-- One object somewhere in a value has its entries in another order. -/
inductive Rearranged : Json → Json → Prop where
  | here {entries others : Entries} (order : entries.Perm others) :
      Rearranged (.object entries) (.object others)
  | item (before after : List Json) {value other : Json} (inside : Rearranged value other) :
      Rearranged (.array (before ++ value :: after)) (.array (before ++ other :: after))
  | entry (before after : Entries) (key : String) {value other : Json}
      (inside : Rearranged value other) :
      Rearranged (.object (before ++ (key, value) :: after))
        (.object (before ++ (key, other) :: after))

/-- Two values differ at most in the order of entries, in any number of objects. -/
abbrev Reordered : Json → Json → Prop := Relation.ReflTransGen Rearranged

variable {value other : Json} {entries others before after : Entries} {key name : String}

theorem keyed_array {items : List Json} :
    Keyed (.array items) ↔ ∀ item ∈ items, Keyed item :=
  ⟨fun keyed => by cases keyed with | array each => exact each, .array⟩

theorem keyed_object :
    Keyed (.object entries) ↔
      (Entries.keys entries).Nodup ∧ ∀ entry ∈ entries, Keyed entry.2 :=
  ⟨fun keyed => by cases keyed with | object distinct each => exact ⟨distinct, each⟩,
    fun both => .object both.1 both.2⟩

namespace Entries

theorem keys_replaced (before after : Entries) (key : String) (value other : Json) :
    keys (before ++ (key, other) :: after) = keys (before ++ (key, value) :: after) := by
  simp [keys]

theorem keys_perm (order : entries.Perm others) : (keys entries).Perm (keys others) :=
  List.Perm.map Prod.fst order

/-- Where no key comes twice the order of entries has no influence on what is found. -/
theorem lookup_perm (order : entries.Perm others) (distinct : (keys entries).Nodup) :
    entries.lookup key = others.lookup key := by
  have apart : (keys others).Nodup := (keys_perm order).nodup_iff.mp distinct
  refine Option.ext fun value => ?_
  rw [Table.lookup_eq_some_iff distinct, Table.lookup_eq_some_iff apart, order.mem_iff]

/-- Another value for a key is seen under that key at most. -/
theorem lookup_replaced (before after : Entries) (name : String) (value other : Json)
    (key : String) :
    (before ++ (name, value) :: after).lookup key = (before ++ (name, other) :: after).lookup key ∨
      key = name ∧ (before ++ (name, value) :: after).lookup key = some value ∧
        (before ++ (name, other) :: after).lookup key = some other := by
  simp only [List.lookup_append]
  cases before.lookup key with
  | some found => exact .inl rfl
  | none =>
    by_cases same : key = name
    · subst same
      simp
    · simp [Table.lookup_cons_ne same]

end Entries

namespace Rearranged

theorem symm (step : Rearranged value other) : Rearranged other value := by
  induction step with
  | here order => exact .here order.symm
  | item before after _ ih => exact .item before after ih
  | entry before after key _ ih => exact .entry before after key ih

/-- Rearranging brings no key in twice. -/
theorem keyed (step : Rearranged value other) (keyed : value.Keyed) : other.Keyed := by
  induction step with
  | here order =>
    obtain ⟨distinct, each⟩ := keyed_object.mp keyed
    exact .object ((Entries.keys_perm order).nodup_iff.mp distinct)
      fun entry member => each entry (order.mem_iff.mpr member)
  | item before after inside ih =>
    rw [keyed_array] at keyed ⊢
    simp only [List.forall_mem_append, List.forall_mem_cons] at keyed ⊢
    exact ⟨keyed.1, ih keyed.2.1, keyed.2.2⟩
  | @entry before after key value other inside ih =>
    rw [keyed_object] at keyed ⊢
    rw [Entries.keys_replaced before after key value other]
    simp only [List.forall_mem_append, List.forall_mem_cons] at keyed ⊢
    exact ⟨keyed.1, keyed.2.1, ih keyed.2.2.1, keyed.2.2.2⟩

/-- What is rearranged is an array or an object, before and after. -/
theorem kinds (step : Rearranged value other) :
    (∃ items others, value = .array items ∧ other = .array others) ∨
      ∃ entries others, value = .object entries ∧ other = .object others := by
  cases step with
  | here => exact .inr ⟨_, _, rfl, rfl⟩
  | item => exact .inl ⟨_, _, rfl, rfl⟩
  | entry => exact .inr ⟨_, _, rfl, rfl⟩

/-- Under every key of a rearranged object is what was there, or that rearranged. -/
theorem lookup (step : Rearranged (.object entries) (.object others))
    (keyed : Keyed (.object entries)) (key : String) :
    entries.lookup key = others.lookup key ∨
      ∃ value other, entries.lookup key = some value ∧ others.lookup key = some other ∧
        Rearranged value other := by
  obtain ⟨distinct, -⟩ := keyed_object.mp keyed
  cases step with
  | here order => exact .inl (Entries.lookup_perm order distinct)
  | @entry before after name value other inside =>
    rcases Entries.lookup_replaced before after name value other key with
      same | ⟨-, one, two⟩
    · exact .inl same
    · exact .inr ⟨value, other, one, two, inside⟩

end Rearranged

end TypedSearch.Json
