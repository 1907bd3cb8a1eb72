import TypedSearch.Json.Decode
import TypedSearch.Proofs.Outcome

/-!
Values as such. A list has a property once its items do and an object once the values of its entries
do; what is not null is not taken for null; and a list or a record of two parts is read back from its
value if its parts are.
-/

namespace TypedSearch.Json

theorem value_induction {motive : Json → Prop} (null : motive .null)
    (bool : ∀ value, motive (.bool value)) (number : ∀ value, motive (.number value))
    (string : ∀ value, motive (.string value))
    (array : ∀ items, (∀ item ∈ items, motive item) → motive (.array items))
    (object : ∀ entries : Entries, (∀ entry ∈ entries, motive entry.2) → motive (.object entries))
    (value : Json) : motive value := by
  refine @Json.rec motive (fun items => ∀ item ∈ items, motive item)
    (fun entries => ∀ entry ∈ entries, motive entry.2) (fun entry => motive entry.2)
    null bool number string array object ?_ ?_ ?_ ?_ ?_ value
  · simp
  · intro item rest first others
    exact List.forall_mem_cons.mpr ⟨first, others⟩
  · simp
  · intro entry rest first others
    exact List.forall_mem_cons.mpr ⟨first, others⟩
  · intro key value holds
    exact holds

/-- A key that is new is put at the end. -/
theorem Entries.insert_fresh {key : String} {value : Json} {entries : Entries}
    (fresh : key ∉ entries.keys) : entries.insert key value = entries ++ [(key, value)] := by
  induction entries with
  | nil => rfl
  | cons entry rest ih =>
    obtain ⟨other, old⟩ := entry
    obtain ⟨differs, absent⟩ := not_or.mp (mt List.mem_cons.mpr fresh)
    rw [insert, if_neg (Ne.symm differs), ih absent, List.cons_append]

theorem isNull_eq_false {value : Json} (given : value ≠ .null) : value.isNull = false := by
  cases value with
  | null => exact (given rfl).elim
  | bool | number | string | array | object => rfl

theorem toOption_given {α : Type} {decode : Json → Decoded α} {value : Json}
    (given : value ≠ .null) : value.toOption decode = some <$> decode value := by
  cases value with
  | null => exact (given rfl).elim
  | bool | number | string | array | object => rfl

/-- Entries agree with others among which each finds an agreeing value under its key. -/
theorem entriesAgree_iff {entries others : Entries} :
    entriesAgree entries others = true ↔ ∀ entry ∈ entries, ∃ other,
      others.lookup entry.1 = some other ∧ entry.2.agrees other = true := by
  induction entries with
  | nil => simp [entriesAgree]
  | cons entry rest ih =>
    rw [entriesAgree, Bool.and_eq_true, ih, List.forall_mem_cons]
    refine and_congr_left fun _ => ?_
    cases others.lookup entry.1 with
    | none => simp
    | some other => simp

section Written

variable {α β : Type}

/-- What is read back from its value is known by the value. -/
theorem injective_of_read {write : α → Json} {read : Json → Decoded α}
    (back : ∀ item, read (write item) = .ok item) : Function.Injective write := by
  intro left right same
  have read := (back left).symm.trans ((congrArg read same).trans (back right))
  exact Except.ok.inj read

theorem toText_written (text : String) : toText (.string text) = .ok text := rfl

theorem toList_written {write : α → Json} {read : Json → Decoded α} {items : List α}
    (back : ∀ item ∈ items, read (write item) = .ok item) :
    (Json.array (items.map write)).toList read = .ok items := by
  rw [toList]
  induction items with
  | nil => rfl
  | cons item rest ih =>
    obtain ⟨first, others⟩ := List.forall_mem_cons.mp back
    rw [List.map_cons, List.mapM_cons, first, ih others]
    rfl

theorem toPair_written {type firstKey secondKey : String} {tooLong : List Json → DecodeError}
    {first : Json → Decoded α} {second : Json → Decoded β} {one two : Json} {left : α} {right : β}
    (differ : secondKey ≠ firstKey) (readOne : first one = .ok left)
    (readTwo : second two = .ok right) :
    toPair type tooLong firstKey secondKey first second
      (.object [(firstKey, one), (secondKey, two)]) = .ok (left, right) := by
  simp [toPair, readPart, differ, readOne, readTwo]

/-- An optional part is read back if it is never written as null. -/
theorem toOption_written {write : α → Json} {read : Json → Decoded α} (part : Option α)
    (back : ∀ item, read (write item) = .ok item) (given : ∀ item, write item ≠ .null) :
    (ofOption write part).toOption read = .ok part := by
  cases part with
  | none => rfl
  | some item =>
    rw [ofOption, toOption_given (given item), back]
    rfl

end Written

end TypedSearch.Json
