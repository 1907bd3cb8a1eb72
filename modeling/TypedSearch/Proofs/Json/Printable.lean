import Mathlib.Tactic.SplitIfs
import TypedSearch.Proofs.Json.Text

/-!
What compact texts consist of. Numbers are written with digits, signs, points and exponents, and
whatever control characters the strings and keys of a value have are escaped. So a compact text is
printable: there is no line end in it.
-/

namespace TypedSearch.Json

open Text

/-- All characters of a text are of a kind. -/
def Consists (kind : Char → Prop) (text : List Char) : Prop := ∀ c ∈ text, kind c

namespace Consists

variable {kind other : Char → Prop} {text more : List Char} {c : Char}

@[simp] theorem nil : Consists kind [] := List.forall_mem_nil _

@[simp] theorem cons_iff : Consists kind (c :: text) ↔ kind c ∧ Consists kind text :=
  List.forall_mem_cons

@[simp] theorem append_iff : Consists kind (text ++ more) ↔ Consists kind text ∧ Consists kind more :=
  List.forall_mem_append

theorem replicate (holds : kind c) (count : Nat) : Consists kind (List.replicate count c) := by
  intro other inside
  rw [List.eq_of_mem_replicate inside]
  exact holds

theorem subset (consists : Consists kind more) (included : text ⊆ more) : Consists kind text :=
  fun c inside => consists c (included inside)

theorem imp (consists : Consists kind text) (implies : ∀ c, kind c → other c) : Consists other text :=
  fun c inside => implies c (consists c inside)

theorem flatMap {α : Type} {items : List α} {write : α → List Char}
    (each : ∀ item ∈ items, Consists kind (write item)) : Consists kind (items.flatMap write) := by
  intro c inside
  obtain ⟨item, listed, written⟩ := List.mem_flatMap.mp inside
  exact each item listed c written

theorem joined {separator : String} {parts : List String} (between : Consists kind separator.toList)
    (each : ∀ part ∈ parts, Consists kind part.toList) :
    Consists kind (Text.joined separator parts).toList := by
  cases parts with
  | nil => exact nil
  | cons part parts =>
    obtain ⟨first, others⟩ := List.forall_mem_cons.mp each
    rw [joined_toList]
    exact append_iff.mpr ⟨first,
      flatMap fun other listed => append_iff.mpr ⟨between, others other listed⟩⟩

end Consists

section Numbers

/-- A character that numbers are written with. -/
def IsNumeral (c : Char) : Prop := c.isDigit = true ∨ c ∈ ['+', '-', '.', 'e']

instance (c : Char) : Decidable (IsNumeral c) := instDecidableOr

theorem numeral_toDigits (value : Nat) : Consists IsNumeral (Nat.toDigits 10 value) :=
  fun _ inside => .inl (Nat.isDigit_of_mem_toDigits (by decide) (by decide) inside)

theorem numeral_integer (value : Int) : Consists IsNumeral (toString value).toList := by
  have minus : IsNumeral '-' := .inr (by decide)
  rw [Int.toString_eq_repr, Int.repr_eq_if]
  split_ifs <;> simp [Nat.toList_repr, numeral_toDigits, minus]

theorem numeral_pointed {digits : List Char} (numeral : Consists IsNumeral digits) (count : Nat) :
    Consists IsNumeral (pointed digits count).toList := by
  have point : IsNumeral '.' := .inr (by decide)
  have left : Consists IsNumeral (digits.take count) := numeral.subset (List.take_subset count digits)
  have right : Consists IsNumeral (digits.drop count) := numeral.subset (List.drop_subset count digits)
  simp [pointed, left, right, point]

theorem numeral_decimalText {digits : List Char} (numeral : Consists IsNumeral digits)
    (leading : Int) : Consists IsNumeral (decimalText digits leading).toList := by
  have zero : IsNumeral '0' := .inl (by decide)
  have marks : ∀ c ∈ ['+', '-', '.', 'e'], IsNumeral c := fun c inside => .inr inside
  have zeros : ∀ count, Consists IsNumeral (List.replicate count '0') := Consists.replicate zero
  have point : ∀ count, Consists IsNumeral (pointed digits count).toList := numeral_pointed numeral
  have power : Consists IsNumeral (Nat.toDigits 10 leading.natAbs) := numeral_toDigits leading.natAbs
  dsimp only [decimalText]
  split_ifs <;> simp [numeral, zeros, point, power, zero, marks]

theorem numeral_realText (value : Binary64) : Consists IsNumeral (realText value).toList := by
  have marks : ∀ c ∈ ['0', '-', '.'], IsNumeral c := by
    simp [IsNumeral]
  have trimmed : Consists IsNumeral
      ((Nat.toDigits 10 value.shortest.digits).reverse.dropWhile (· = '0')).reverse := by
    refine (numeral_toDigits value.shortest.digits).subset fun c inside => ?_
    have kept := (List.dropWhile_sublist _).subset (List.mem_reverse.mp inside)
    exact List.mem_reverse.mp kept
  have magnitude : ∀ leading, Consists IsNumeral (decimalText _ leading).toList :=
    numeral_decimalText trimmed
  rw [realText]
  split_ifs <;> simp [magnitude, marks]

theorem numeral_text (number : Number) : Consists IsNumeral number.text.toList := by
  cases number with
  | integer value => exact numeral_integer value
  | real value => exact numeral_realText value

end Numbers

/-- No control character, a line end for example. -/
def IsPrinted (c : Char) : Prop := 32 ≤ c.toNat

instance (c : Char) : Decidable (IsPrinted c) := inferInstanceAs (Decidable (32 ≤ c.toNat))

theorem IsNumeral.isPrinted {c : Char} (numeral : IsNumeral c) : IsPrinted c := by
  rcases numeral with digit | mark
  · have least : '0'.toNat ≤ c.toNat := (Char.isDigit_iff_toNat.mp digit).1
    exact Nat.le_trans (by decide) least
  · simp only [List.mem_cons, List.not_mem_nil, or_false] at mark
    rcases mark with rfl | rfl | rfl | rfl <;> decide

section Strings

theorem printed_hex (width value : Nat) : Consists IsPrinted (Text.hex width value) := by
  have digit : ∀ value < 16, 32 ≤ (Nat.digitChar value).toNat := by decide
  induction width generalizing value with
  | zero => exact Consists.nil
  | succ width ih =>
    have last : IsPrinted (Text.hexDigit value) := digit _ (Nat.mod_lt _ (by decide))
    rw [Text.hex]
    simp [ih, last]

/-- A control character is written by others that are none. -/
theorem printed_escaped (c : Char) : Consists IsPrinted (escaped c) := by
  have digits : Consists IsPrinted (Text.hex 4 c.toNat) := printed_hex 4 c.toNat
  by_cases control : c.toNat < 32
  · rw [escaped, if_pos control]
    split_ifs <;> simp [digits, IsPrinted]
  · have printed : IsPrinted c := Nat.le_of_not_lt control
    rw [escaped, if_neg control]
    split_ifs <;> simp [printed] <;> simp [IsPrinted]

theorem printed_quoted (text : String) : Consists IsPrinted (quoted text).toList := by
  have inner : Consists IsPrinted (text.toList.flatMap escaped) :=
    .flatMap fun c _ => printed_escaped c
  have quote : IsPrinted '"' := by decide
  rw [quoted_toList]
  simp [inner, quote]

end Strings

/-- The compact text of a value has no control characters. -/
theorem printed_compact (value : Json) : Consists IsPrinted value.compact.toList := by
  have marks : ∀ c ∈ ['[', ']', '\x7b', '\x7d', ':', ','], IsPrinted c := by
    simp [IsPrinted]
  induction value using value_induction with
  | null => simp [compact, IsPrinted]
  | bool value => cases value <;> simp [compact, IsPrinted]
  | number number => exact (numeral_text number).imp fun _ => IsNumeral.isPrinted
  | string text => exact printed_quoted text
  | array items each =>
    have inner : Consists IsPrinted (Text.joined "," (items.map compact)).toList :=
      .joined (by simp [marks]) (List.forall_mem_map.mpr each)
    rw [compact_array_toList]
    simp [inner, marks]
  | object entries each =>
    have entry : ∀ entry ∈ entries, Consists IsPrinted (writtenEntry entry).toList := by
      intro entry listed
      rw [writtenEntry_toList]
      simp [printed_quoted, each entry listed, marks]
    have inner : Consists IsPrinted (Text.joined "," (entries.map writtenEntry)).toList :=
      .joined (by simp [marks]) (List.forall_mem_map.mpr entry)
    rw [compact_object_toList]
    simp [inner, marks]

/-- No line end stands in a compact text, and no other control character. -/
theorem not_mem_compact {value : Json} {c : Char} (control : c.toNat < 32) :
    c ∉ value.compact.toList :=
  fun inside => Nat.not_le_of_lt control (printed_compact value c inside)

end TypedSearch.Json
