import Mathlib.Data.List.TakeDrop
import Mathlib.Data.List.TakeWhile
import TypedSearch.Proofs.Json.Printable

/-!
Reading what was written. The reader gives a value back from its compact text and stops right behind it,
as long as the value is legible: no object has a key twice, nothing is nested too deeply, and every
number is read back from its spelling, which the integers of 64 bits are.
-/

namespace TypedSearch.Json

open Outcome

variable {rest text : List Char} {c : Char}

/-- A character that is not blank stays where it is. -/
theorem skipBlanks_cons (visible : isBlank c = false) (rest : List Char) :
    skipBlanks (c :: rest) = c :: rest :=
  List.dropWhile_cons_of_neg (by simp [visible])

/-- A blank is no part of a number. -/
theorem IsNumeral.not_isBlank (numeral : IsNumeral c) : isBlank c = false := by
  refine Bool.eq_false_iff.mpr fun blank => ?_
  simp only [isBlank, Bool.or_eq_true, decide_eq_true_eq] at blank
  rcases blank with ((rfl | rfl) | rfl) | rfl <;> exact absurd numeral (by decide)

section Numbers

/-- No number goes on here. -/
def EndsNumber (rest : List Char) : Prop := ∀ c ∈ rest.head?, c.isDigit = false ∧ c ∉ ['.', 'e', 'E']

theorem endsNumber_nil : EndsNumber [] := nofun

theorem endsNumber_cons (mark : c ∈ [',', ']', '\x7d']) (rest : List Char) : EndsNumber (c :: rest) := by
  rintro first ⟨⟩
  simp only [List.mem_cons, List.not_mem_nil, or_false] at mark
  rcases mark with rfl | rfl | rfl <;> decide

theorem takeDigits_append (digits : ∀ c ∈ text, c.isDigit = true) (ends : EndsNumber rest) :
    takeDigits (text ++ rest) = (text, rest) := by
  rw [takeDigits, List.span_eq_takeWhile_dropWhile, List.takeWhile_append_of_pos digits,
    List.dropWhile_append_of_pos digits]
  cases rest with
  | nil => simp
  | cons c rest =>
    have other : c.isDigit = false := (ends c rfl).1
    simp [other]

theorem digitsValue_toDigits (value : Nat) : digitsValue (Nat.toDigits 10 value) = value := by
  have horner : (fun total c => total * 10 + (Char.toNat c - '0'.toNat)) =
      fun total c => 10 * total + (Char.toNat c - '0'.toNat) := by
    funext total c
    rw [Nat.mul_comm]
  rw [digitsValue, horner, ← Nat.ofDigitChars_eq_foldl]
  exact Nat.ofDigitChars_toDigits (by decide) (by decide)

/-- A number that is not zero is written without leading zeros. -/
theorem toDigits_of_pos {value : Nat} (positive : 0 < value) :
    ∃ first rest, Nat.toDigits 10 value = first :: rest ∧ first ≠ '0' := by
  induction value using Nat.strongRecOn with
  | ind value ih =>
    by_cases small : value < 10
    · refine ⟨value.digitChar, [], Nat.toDigits_of_lt_base small, fun zero => ?_⟩
      exact Nat.ne_of_gt positive (Nat.digitChar_eq_zero.mp zero)
    · have large : 10 ≤ value := Nat.le_of_not_lt small
      obtain ⟨first, rest, digits, nonzero⟩ := ih (value / 10) (by omega) (by omega)
      refine ⟨first, rest ++ [(value % 10).digitChar], ?_, nonzero⟩
      rw [Nat.toDigits_of_base_le (by decide) large, digits, List.cons_append]

/-- All digits of a whole number are read, and nothing behind them. -/
theorem readNumber_toDigits (negative : Bool) (value : Nat) (ends : EndsNumber rest) :
    readNumber negative (Nat.toDigits 10 value ++ rest) =
      readFraction negative (Nat.toDigits 10 value) rest := by
  rcases Nat.eq_zero_or_pos value with rfl | positive
  · cases rest with
    | nil => rfl
    | cons c rest =>
      have other : c.isDigit = false := (ends c rfl).1
      simp [readNumber, other]
  · have digits : ∀ c ∈ Nat.toDigits 10 value, c.isDigit = true :=
      fun _ inside => Nat.isDigit_of_mem_toDigits (by decide) (by decide) inside
    have taken := takeDigits_append digits ends
    obtain ⟨first, later, written, nonzero⟩ := toDigits_of_pos positive
    rw [written, List.cons_append] at taken
    rw [written, List.cons_append, readNumber]
    · simp [taken]
    · simp
    · simpa using nonzero

theorem readFraction_of_ends (negative : Bool) (whole : List Char) (ends : EndsNumber rest) :
    readFraction negative whole rest =
      if negative then
        if digitsValue whole = 0 ∨ powerOfTwo 63 < digitsValue whole then
          readReal true (decimalParts whole []) 0 rest
        else .ok (.integer (Int.negOfNat (digitsValue whole)), rest)
      else if powerOfTwo 64 ≤ digitsValue whole then readReal false (decimalParts whole []) 0 rest
      else .ok (.integer (digitsValue whole), rest) := by
  cases rest with
  | nil => rfl
  | cons c rest =>
    have other : c ∉ ['.', 'e', 'E'] := (ends c rfl).2
    simp only [List.mem_cons, List.not_mem_nil, or_false, not_or] at other
    rw [readFraction]
    all_goals simp [other]

theorem readNumber_natural {value : Nat} (small : value < powerOfTwo 64) (ends : EndsNumber rest) :
    readNumber false (Nat.toDigits 10 value ++ rest) = .ok (.integer value, rest) := by
  have inside : ¬ powerOfTwo 64 ≤ value := Nat.not_le_of_lt small
  rw [readNumber_toDigits false value ends, readFraction_of_ends false _ ends, digitsValue_toDigits]
  simp [inside]

/-- Behind a sign zero is no integer, and neither is what lies outside of the range with a sign. -/
theorem readNumber_negative {value : Nat} (positive : 0 < value) (small : value ≤ powerOfTwo 63)
    (ends : EndsNumber rest) :
    readNumber true (Nat.toDigits 10 value ++ rest) = .ok (.integer (Int.negOfNat value), rest) := by
  have inside : ¬ (value = 0 ∨ powerOfTwo 63 < value) :=
    not_or.mpr ⟨Nat.ne_of_gt positive, Nat.not_lt_of_le small⟩
  rw [readNumber_toDigits true value ends, readFraction_of_ends true _ ends, digitsValue_toDigits]
  simp [inside]

theorem readValue_minus (depth fuel : Nat) (text : List Char) :
    readValue depth (fuel + 1) ('-' :: text) =
      readNumber true text >>= fun found => .ok (.number found.1, found.2) := rfl

theorem readValue_digit (digit : c.isDigit = true) (depth fuel : Nat) (text : List Char) :
    readValue depth (fuel + 1) (c :: text) =
      readNumber false (c :: text) >>= fun found => .ok (.number found.1, found.2) := by
  rw [readValue, skipBlanks_cons (IsNumeral.not_isBlank (.inl digit))]
  -- All cases but the last are those of another first character.
  split
  case h_9 same =>
    cases same
    rw [if_pos digit]
    rfl
  all_goals
    next same =>
      cases same
      first | done | exact absurd digit (by decide)

/-- A number is read back from its spelling wherever no number goes on behind it. -/
def Number.ReadsBack (number : Number) : Prop :=
  ∀ depth fuel rest, EndsNumber rest →
    readValue depth (fuel + 1) (number.text.toList ++ rest) = .ok (.number number, rest)

/-- An integer is read back if it is one of 64 bits, with a sign or without. -/
theorem integer_readsBack {value : Int} (least : -(powerOfTwo 63 : Int) ≤ value)
    (most : value < powerOfTwo 64) :
    (Number.integer value).ReadsBack := by
  intro depth fuel rest ends
  cases value with
  | ofNat whole =>
    have small : whole < powerOfTwo 64 := Int.ofNat_lt.mp most
    obtain ⟨c, later, written⟩ := List.exists_cons_of_ne_nil (@Nat.toDigits_ne_nil whole 10)
    have digit : c.isDigit = true :=
      Nat.isDigit_of_mem_toDigits (by decide) (by decide) (written ▸ List.mem_cons_self)
    have spelling : (Number.integer (.ofNat whole)).text.toList = Nat.toDigits 10 whole :=
      Nat.toList_repr
    rw [spelling, written, List.cons_append, readValue_digit digit, ← List.cons_append, ← written,
      readNumber_natural small ends]
    rfl
  | negSucc before =>
    have small : before + 1 ≤ powerOfTwo 63 := by omega
    have spelling : (Number.integer (.negSucc before)).text.toList =
        '-' :: Nat.toDigits 10 (before + 1) := by
      have signed : (Number.integer (.negSucc before)).text = "-" ++ (before + 1).repr := rfl
      rw [signed, String.toList_append, Nat.toList_repr]
      rfl
    rw [spelling, List.cons_append, readValue_minus, readNumber_negative (Nat.succ_pos _) small ends]
    rfl

end Numbers

section Strings

theorem escaped_ne_nil (c : Char) : escaped c ≠ [] := by
  unfold escaped
  split_ifs <;> simp

theorem length_le_flatMap_escaped (text : List Char) :
    text.length ≤ (text.flatMap escaped).length := by
  induction text with
  | nil => exact Nat.le_refl 0
  | cons c text ih =>
    have some : 0 < (escaped c).length := List.length_pos_iff.mpr (escaped_ne_nil c)
    rw [List.flatMap_cons, List.length_append, List.length_cons]
    omega

/-- A string is read back with as many steps as its quoted text has characters. -/
theorem readString_quoted {text : String} {fuel : Nat} (enough : (quoted text).toList.length ≤ fuel)
    (rest : List Char) :
    readString fuel [] (text.toList.flatMap escaped ++ '"' :: rest) = .ok (text, rest) := by
  have shorter := length_le_flatMap_escaped text.toList
  rw [quoted_toList, List.length_cons, List.length_append] at enough
  obtain ⟨spare, rfl⟩ : ∃ spare, fuel = text.toList.length + spare :=
    Nat.exists_eq_add_of_le (by omega)
  rw [readString_written, List.reverse_nil, List.nil_append, String.ofList_toList]

end Strings

section Values

variable {depth fuel : Nat} {value : Json} {items : List Json} {entries before : Entries}

/-- The reader gives a value back from the start of a text, if it has two steps for each character. -/
def ReadsBack (depth : Nat) (value : Json) : Prop :=
  ∀ fuel rest, 2 * value.compact.toList.length ≤ fuel → EndsNumber rest →
    readValue depth fuel (value.compact.toList ++ rest) = .ok (value, rest)

theorem number_text_ne_nil (number : Number) : number.text.toList ≠ [] := by
  cases number with
  | integer value =>
    rw [Number.text, Int.toString_eq_repr, Int.repr_eq_if]
    split_ifs <;> simp
  | real value =>
    -- Every form has a point or an exponent.
    dsimp only [Number.text, realText, decimalText, pointed]
    split_ifs <;> simp

/-- The first character is no blank and closes no list. -/
def OpensItem (text : List Char) : Prop :=
  ∃ c later, text = c :: later ∧ isBlank c = false ∧ c ≠ ']'

theorem OpensItem.append (opens : OpensItem text) (rest : List Char) : OpensItem (text ++ rest) := by
  obtain ⟨c, later, rfl, opening⟩ := opens
  exact ⟨c, later ++ rest, rfl, opening⟩

theorem compact_opens (value : Json) : OpensItem value.compact.toList := by
  cases value with
  | null => exact ⟨'n', _, rfl, by decide⟩
  | bool value =>
    cases value with
    | true => exact ⟨'t', _, rfl, by decide⟩
    | false => exact ⟨'f', _, rfl, by decide⟩
  | number number =>
    obtain ⟨c, later, written⟩ := List.exists_cons_of_ne_nil (number_text_ne_nil number)
    have numeral : IsNumeral c := numeral_text number c (written ▸ List.mem_cons_self)
    refine ⟨c, later, written, numeral.not_isBlank, fun close => ?_⟩
    exact absurd (close ▸ numeral) (by decide)
  | string text => exact ⟨'"', _, quoted_toList text, by decide⟩
  | array items => exact ⟨'[', _, compact_array_toList items, by decide⟩
  | object entries => exact ⟨'\x7b', _, compact_object_toList entries, by decide⟩

theorem ReadsBack.of_step (step : ∀ fuel rest, 2 * value.compact.toList.length ≤ fuel + 1 →
    EndsNumber rest → readValue depth (fuel + 1) (value.compact.toList ++ rest) = .ok (value, rest)) :
    ReadsBack depth value := by
  rintro (_ | fuel) rest enough ends
  · obtain ⟨c, later, written, -⟩ := compact_opens value
    rw [written] at enough
    cases enough
  · exact step fuel rest enough ends

/-- Behind the first of some parts with commas between them stand a comma and the others. -/
theorem joined_map_cons {α : Type} (write : α → String) (item next : α) (items : List α) :
    (Text.joined "," ((item :: next :: items).map write)).toList =
      (write item).toList ++ ',' :: (Text.joined "," ((next :: items).map write)).toList := by
  rw [List.map_cons, List.map_cons, Text.joined, String.toList_append, String.toList_append,
    List.append_assoc]
  rfl

/-- Behind a comma the next item is read. -/
theorem readItems_comma {item : Json} {text more : List Char}
    (read : readValue depth fuel text = .ok (item, ',' :: more))
    (opens : OpensItem more) :
    readItems depth (fuel + 1) text =
      readItems depth fuel more >>= fun found => .ok (item :: found.1, found.2) := by
  obtain ⟨c, later, rfl, visible, opening⟩ := opens
  rw [readItems, read, ok_bind]
  dsimp only
  rw [skipBlanks_cons (by decide : isBlank ',' = false)]
  simp only [skipBlanks_cons visible]
  split
  next same => cases same
  next same => exact absurd (List.cons.inj same).1 opening
  next => rfl

theorem joined_opens (value : Json) (items : List Json) (rest : List Char) :
    OpensItem ((Text.joined "," ((value :: items).map compact)).toList ++ rest) := by
  rw [List.map_cons, Text.joined_toList]
  exact ((compact_opens value).append _).append rest

/-- Items that are read back are read back from their list, up to the bracket behind it. -/
theorem readItems_joined {item : Json} (each : ∀ value ∈ item :: items, ReadsBack depth value)
    (enough : 2 * (Text.joined "," ((item :: items).map compact)).toList.length < fuel) :
    readItems depth fuel ((Text.joined "," ((item :: items).map compact)).toList ++ ']' :: rest) =
      .ok (item :: items, rest) := by
  induction items generalizing item fuel with
  | nil =>
    obtain ⟨fuel, rfl⟩ := Nat.exists_eq_add_one_of_ne_zero (Nat.ne_zero_of_lt enough)
    have read := each item List.mem_cons_self fuel (']' :: rest) (Nat.le_of_lt_succ enough)
      (endsNumber_cons (by decide) rest)
    rw [List.map_singleton, Text.joined, readItems, read]
    rfl
  | cons next items ih =>
    obtain ⟨fuel, rfl⟩ := Nat.exists_eq_add_one_of_ne_zero (Nat.ne_zero_of_lt enough)
    obtain ⟨first, others⟩ := List.forall_mem_cons.mp each
    rw [joined_map_cons, List.length_append, List.length_cons] at enough
    have read := first fuel (',' :: ((Text.joined "," ((next :: items).map compact)).toList ++
      ']' :: rest)) (by omega) (endsNumber_cons (by decide) _)
    rw [joined_map_cons, List.append_assoc, List.cons_append,
      readItems_comma read (joined_opens next items _), ih others (by omega)]
    rfl

section Entries

variable {key : String} {text more : List Char}

/-- The last entry is added to those before it. -/
theorem readEntries_last (enough : (quoted key).toList.length ≤ fuel)
    (read : readValue depth fuel text = .ok (value, '\x7d' :: more)) :
    readEntries depth (fuel + 1) before ((quoted key).toList ++ ':' :: text) =
      .ok (before.insert key value, more) := by
  rw [quoted_toList, List.cons_append, List.append_assoc, List.singleton_append, readEntries,
    readString_quoted enough, ok_bind]
  simp only [skipBlanks_cons (by decide : isBlank ':' = false), read, ok_bind]
  rfl

/-- So is one before a comma, and the next one is read. -/
theorem readEntries_comma (enough : (quoted key).toList.length ≤ fuel)
    (read : readValue depth fuel text = .ok (value, ',' :: '"' :: more)) :
    readEntries depth (fuel + 1) before ((quoted key).toList ++ ':' :: text) =
      readEntries depth fuel (before.insert key value) ('"' :: more) := by
  rw [quoted_toList, List.cons_append, List.append_assoc, List.singleton_append, readEntries,
    readString_quoted enough, ok_bind]
  simp only [skipBlanks_cons (by decide : isBlank ':' = false), read, ok_bind]
  rfl

theorem joined_entries_open (entry : String × Json) (entries : Entries) (rest : List Char) :
    ∃ later, (Text.joined "," ((entry :: entries).map writtenEntry)).toList ++ rest = '"' :: later := by
  rw [List.map_cons, Text.joined_toList, writtenEntry_toList, quoted_toList]
  exact ⟨_, rfl⟩

theorem fresh_of_nodup {entry : String × Json}
    (distinct : (Entries.keys (before ++ entry :: entries)).Nodup) :
    entry.1 ∉ Entries.keys before := by
  intro inside
  rw [Entries.keys, List.map_append, List.map_cons] at distinct
  exact (List.nodup_append.mp distinct).2.2 _ inside _ List.mem_cons_self rfl

/-- Entries whose values are read back are read back up to the brace behind them, if no key comes
again. -/
theorem readEntries_joined {entry : String × Json}
    (each : ∀ other ∈ entry :: entries, ReadsBack depth other.2)
    (distinct : (Entries.keys (before ++ entry :: entries)).Nodup)
    (enough : 2 * (Text.joined "," ((entry :: entries).map writtenEntry)).toList.length < fuel) :
    readEntries depth fuel before
        ((Text.joined "," ((entry :: entries).map writtenEntry)).toList ++ '\x7d' :: rest) =
      .ok (before ++ entry :: entries, rest) := by
  induction entries generalizing entry before fuel with
  | nil =>
    obtain ⟨fuel, rfl⟩ := Nat.exists_eq_add_one_of_ne_zero (Nat.ne_zero_of_lt enough)
    rw [List.map_singleton, Text.joined, writtenEntry_toList, List.length_append, List.length_cons]
      at enough
    have read := each entry List.mem_cons_self fuel ('\x7d' :: rest) (by omega)
      (endsNumber_cons (by decide) rest)
    rw [List.map_singleton, Text.joined, writtenEntry_toList, List.append_assoc, List.cons_append,
      readEntries_last (by omega) read, Entries.insert_fresh (fresh_of_nodup distinct)]
  | cons next entries ih =>
    obtain ⟨fuel, rfl⟩ := Nat.exists_eq_add_one_of_ne_zero (Nat.ne_zero_of_lt enough)
    obtain ⟨first, others⟩ := List.forall_mem_cons.mp each
    rw [joined_map_cons, writtenEntry_toList, List.length_append, List.length_append,
      List.length_cons, List.length_cons] at enough
    obtain ⟨later, opens⟩ := joined_entries_open next entries ('\x7d' :: rest)
    have read := first fuel (',' :: '"' :: later) (by omega) (endsNumber_cons (by decide) _)
    rw [joined_map_cons, writtenEntry_toList, List.append_assoc, List.append_assoc, List.cons_append,
      List.cons_append, opens, readEntries_comma (by omega) read, ← opens,
      Entries.insert_fresh (fresh_of_nodup distinct),
      ih others (by simpa using distinct) (by omega), List.append_assoc, List.singleton_append]

end Entries

section Openings

theorem readValue_quote (depth fuel : Nat) (text : List Char) :
    readValue depth (fuel + 1) ('"' :: text) =
      readString fuel [] text >>= fun found => .ok (.string found.1, found.2) := rfl

theorem readValue_bracket {text : List Char} (opens : OpensItem text) :
    readValue (depth + 1) (fuel + 1) ('[' :: text) =
      readItems depth fuel text >>= fun found => .ok (.array found.1, found.2) := by
  obtain ⟨c, later, rfl, visible, opening⟩ := opens
  rw [readValue, skipBlanks_cons (by decide : isBlank '[' = false)]
  simp only [skipBlanks_cons visible]
  split
  next same => cases same
  next same => exact absurd (List.cons.inj same).1 opening
  next => rfl

theorem readValue_brace (depth fuel : Nat) (text : List Char) :
    readValue (depth + 1) (fuel + 1) ('\x7b' :: '"' :: text) =
      readEntries depth fuel [] ('"' :: text) >>= fun found => .ok (.object found.1, found.2) := rfl

end Openings

end Values

/-- A value that can be read back: no object has a key twice, arrays and objects nest no deeper than the
depth that is left, whole numbers have no more than 64 bits, and other numbers are read back from their
spellings. -/
inductive Legible : (depth : Nat) → Json → Prop where
  | null {depth : Nat} : Legible depth .null
  | bool {depth : Nat} (value : Bool) : Legible depth (.bool value)
  | integer {depth : Nat} {value : Int} (least : -(powerOfTwo 63 : Int) ≤ value)
      (most : value < powerOfTwo 64) : Legible depth (.number (.integer value))
  | number {depth : Nat} {number : Number} (back : number.ReadsBack) : Legible depth (.number number)
  | string {depth : Nat} (text : String) : Legible depth (.string text)
  | array {depth : Nat} {items : List Json} (each : ∀ item ∈ items, Legible depth item) :
      Legible (depth + 1) (.array items)
  | object {depth : Nat} {entries : Entries} (distinct : entries.keys.Nodup)
      (each : ∀ entry ∈ entries, Legible depth entry.2) : Legible (depth + 1) (.object entries)

namespace Legible

variable {depth more : Nat} {value : Json}

/-- What is legible is so with more depth left. -/
theorem mono (legible : Legible depth value) (deeper : depth ≤ more) : Legible more value := by
  induction legible generalizing more with
  | null => exact .null
  | bool value => exact .bool value
  | integer least most => exact .integer least most
  | number back => exact .number back
  | string text => exact .string text
  | array each ih =>
    obtain ⟨more, rfl⟩ := Nat.exists_eq_add_one_of_ne_zero (Nat.ne_zero_of_lt deeper)
    exact .array fun item listed => ih item listed (Nat.le_of_succ_le_succ deeper)
  | object distinct each ih =>
    obtain ⟨more, rfl⟩ := Nat.exists_eq_add_one_of_ne_zero (Nat.ne_zero_of_lt deeper)
    exact .object distinct fun entry listed => ih entry listed (Nat.le_of_succ_le_succ deeper)

/-- A legible value is read back from the start of a text. -/
theorem readsBack (legible : Legible depth value) : ReadsBack depth value := by
  induction legible with
  | null => exact .of_step fun fuel rest _ _ => rfl
  | bool value =>
    refine .of_step fun fuel rest _ _ => ?_
    cases value <;> rfl
  | integer least most =>
    exact .of_step fun fuel rest _ ends => integer_readsBack least most _ fuel rest ends
  | number back => exact .of_step fun fuel rest _ ends => back _ fuel rest ends
  | string text =>
    refine .of_step fun fuel rest enough _ => ?_
    have some : 0 < (quoted text).toList.length := by simp [quoted_toList]
    rw [compact] at enough
    rw [compact, quoted_toList, List.cons_append, List.append_assoc, List.singleton_append,
      readValue_quote, readString_quoted (by omega), ok_bind]
  | @array depth items each ih =>
    refine .of_step fun fuel rest enough _ => ?_
    rw [compact_array_toList, List.length_cons, List.length_append] at enough
    rw [compact_array_toList, List.cons_append, List.append_assoc, List.singleton_append]
    cases items with
    | nil => rfl
    | cons item items =>
      rw [readValue_bracket (joined_opens item items _), readItems_joined ih (by omega), ok_bind]
  | @object depth entries distinct each ih =>
    refine .of_step fun fuel rest enough _ => ?_
    rw [compact_object_toList, List.length_cons, List.length_append] at enough
    rw [compact_object_toList, List.cons_append, List.append_assoc, List.singleton_append]
    cases entries with
    | nil => rfl
    | cons entry entries =>
      obtain ⟨later, opens⟩ := joined_entries_open entry entries ('\x7d' :: rest)
      rw [opens, readValue_brace, ← opens, readEntries_joined ih distinct (by omega), ok_bind,
        List.nil_append]

/-- The compact text of a legible value denotes the value. -/
theorem parse_compact (legible : Legible depthLimit value) : parse value.compact = .ok value := by
  have read := legible.readsBack (2 * value.compact.toList.length + 2) [] (Nat.le_add_right _ 2)
    endsNumber_nil
  rw [List.append_nil] at read
  rw [parse, readDocument, read]
  rfl

end Legible

/-- Values and their array are read back if the values are legible with one level to spare. -/
theorem parse_compact_array {items : List Json}
    (each : ∀ item ∈ items, Legible (depthLimit - 1) item) :
    ∀ value ∈ .array items :: items, parse value.compact = .ok value := by
  refine List.forall_mem_cons.mpr ⟨(Legible.array each).parse_compact, fun item listed => ?_⟩
  exact ((each item listed).mono (Nat.sub_le _ _)).parse_compact

end TypedSearch.Json
