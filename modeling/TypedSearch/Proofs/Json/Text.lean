import TypedSearch.Json.Reader
import TypedSearch.Json.Writer
import TypedSearch.Proofs.Json.Value
import TypedSearch.Proofs.Text.Delimited

/-!
Compact texts. A string between quotes is read back whatever had to be escaped in it, and the text of
a value made of strings tells where it ends. So such values, however they are nested, are known by
their texts.
-/

namespace TypedSearch.Json

open Outcome

section Bytes

theorem byteList_loop (bytes : ByteArray) (index : Nat) (read : List UInt8) :
    ByteArray.toList.loop bytes index read = read.reverse ++ bytes.data.toList.drop index := by
  induction index, read using ByteArray.toList.loop.induct bytes with
  | case1 index read inside ih =>
    have next : bytes.data.toList.drop index =
        bytes.get! index :: bytes.data.toList.drop (index + 1) := by
      rw [List.drop_eq_getElem_cons (by simpa using inside)]
      simp [ByteArray.get!, inside]
    rw [ByteArray.toList.loop, if_pos inside, ih, next, List.reverse_cons, List.append_assoc,
      List.singleton_append]
  | case2 index read past =>
    have empty : bytes.data.toList.drop index = [] :=
      List.drop_of_length_le (by simpa using past)
    rw [ByteArray.toList.loop, if_neg past, empty, List.append_nil]

/-- A text is known by its bytes. -/
theorem byteList_inj {text other : String} :
    text.toUTF8.toList = other.toUTF8.toList ↔ text = other := by
  rw [ByteArray.toList, ByteArray.toList, byteList_loop, byteList_loop]
  simp only [List.reverse_nil, List.nil_append, List.drop_zero, Array.toList_inj,
    ByteArray.ext_iff.symm]
  exact String.toByteArray_inj

end Bytes

section Escapes

theorem hexValue?_hexDigit (value : Nat) :
    hexValue? (Text.hexDigit value) = some (value % 16) := by
  have each : ∀ digit < 16, hexValue? (Nat.digitChar digit) = some digit := by decide
  exact each _ (Nat.mod_lt _ (by decide))

/-- Four hexadecimal digits are read as the number that they were written for. -/
theorem readHex_hex {value : Nat} (small : value < 65536) (rest : List Char) :
    readHex (Text.hex 4 value ++ rest) = .ok (value, rest) := by
  have digits : Text.hex 4 value = [Text.hexDigit (value / 16 / 16 / 16),
      Text.hexDigit (value / 16 / 16), Text.hexDigit (value / 16), Text.hexDigit value] := rfl
  have enough : ¬ Text.byteCount (Text.hex 4 value) < 4 := by
    have positive := fun c : Char => Char.utf8Size_pos c
    rw [digits]
    simp only [Text.byteCount]
    have one := positive (Text.hexDigit (value / 16 / 16 / 16))
    have two := positive (Text.hexDigit (value / 16 / 16))
    have three := positive (Text.hexDigit (value / 16))
    have four := positive (Text.hexDigit value)
    omega
  have taken : (Text.hex 4 value ++ rest).take 4 = Text.hex 4 value := by
    rw [digits]
    rfl
  have left : (Text.hex 4 value ++ rest).drop 4 = rest := by
    rw [digits]
    rfl
  rw [readHex, taken, left, if_neg enough, digits]
  simp only [List.mapM_cons, List.mapM_nil, hexValue?_hexDigit, Option.bind_eq_bind,
    Option.bind_some, Option.pure_def]
  have whole : ((value / 16 / 16 / 16 % 16 * 16 + value / 16 / 16 % 16) * 16 + value / 16 % 16) * 16
      + value % 16 = value := by omega
  rw [whole]

theorem readUnicode_hex {value : Nat} (plain : value < 0xD800) (rest : List Char) :
    readUnicode (Text.hex 4 value ++ rest) = .ok (Char.ofNat value, rest) := by
  rw [readUnicode, readHex_hex (by omega), ok_bind]
  have trailing : ¬ (0xDC00 ≤ value ∧ value ≤ 0xDFFF) := by omega
  simp only [trailing, ↓reduceIte, plain, true_or, pure_eq_ok]

theorem readString_backslash (fuel : Nat) (read text : List Char) :
    readString (fuel + 1) read ('\\' :: text) =
      readEscape text >>= fun found => readString fuel (found.1 :: read) found.2 := rfl

/-- A character of a string is read back from the way in which it is written. -/
theorem readString_escaped (c : Char) (fuel : Nat) (read rest : List Char) :
    readString (fuel + 1) read (escaped c ++ rest) = readString fuel (c :: read) rest := by
  -- The cases are those of the writer; up to the control characters each is a closed computation.
  by_cases quote : c = '"'
  · subst quote
    rfl
  by_cases backslash : c = '\\'
  · subst backslash
    rfl
  by_cases lineFeed : c = '\n'
  · subst lineFeed
    rfl
  by_cases tab : c = '\t'
  · subst tab
    rfl
  by_cases carriage : c = '\r'
  · subst carriage
    rfl
  by_cases backspace : c = '\x08'
  · subst backspace
    rfl
  by_cases formFeed : c = '\x0c'
  · subst formFeed
    rfl
  by_cases control : c.toNat < 32
  · have read' : readEscape ('u' :: (Text.hex 4 c.toNat ++ rest)) = .ok (c, rest) := by
      rw [readEscape, readUnicode_hex (by omega), Char.ofNat_toNat]
    simp only [escaped, quote, backslash, lineFeed, tab, carriage, backspace, formFeed, control,
      ↓reduceIte, List.cons_append, readString_backslash, read', ok_bind]
  · simp only [escaped, quote, backslash, lineFeed, tab, carriage, backspace, formFeed, control,
      ↓reduceIte, List.cons_append, List.nil_append]
    rw [readString]
    · simp [control]
    all_goals simpa

/-- A string is read back from its characters as they are written, up to the closing quote. -/
theorem readString_written (text : List Char) (spare : Nat) (read rest : List Char) :
    readString (text.length + spare) read (text.flatMap escaped ++ '"' :: rest) =
      .ok (String.ofList (read.reverse ++ text), rest) := by
  induction text generalizing read with
  | nil =>
    rw [List.append_nil]
    cases spare <;> rfl
  | cons c text ih =>
    have fuel : (c :: text).length + spare = text.length + spare + 1 := by
      rw [List.length_cons]
      omega
    rw [fuel, List.flatMap_cons, List.append_assoc, readString_escaped, ih, List.reverse_cons,
      List.append_assoc, List.singleton_append]

end Escapes

/-- The text of one value is not the beginning of a longer text with another value. -/
def Delimits {α : Type} (write : α → String) (item other : α) : Prop :=
  ∀ rest more, (write item).toList ++ rest = (write other).toList ++ more →
    item = other ∧ rest = more

def OpensOtherThan (close : Char) (text : String) : Prop :=
  ∃ first rest, text.toList = first :: rest ∧ first ≠ close

theorem quoted_toList (text : String) :
    (quoted text).toList = '"' :: (text.toList.flatMap escaped ++ ['"']) := by
  rw [quoted, String.toList_ofList, List.cons_append]

theorem quoted_delimits (text other : String) : Delimits quoted text other := by
  intro rest more same
  rw [quoted_toList, quoted_toList] at same
  simp only [List.cons_append, List.append_assoc, List.nil_append, List.cons.injEq,
    true_and] at same
  -- Both texts are read with fuel for both, so that it is one and the same reading.
  have first := readString_written text.toList other.toList.length [] rest
  have second := readString_written other.toList text.toList.length [] more
  rw [same, Nat.add_comm, second] at first
  simp only [List.reverse_nil, List.nil_append, String.ofList_toList, Except.ok.injEq,
    Prod.mk.injEq] at first
  exact ⟨first.1.symm, first.2.symm⟩

section Lists

variable {α : Type} {write : α → String} {items others : List α} {close : Char}
  {rest more : List Char}

/-- Parts with commas between them are known by their text up to a closing bracket, which no part
begins with. -/
theorem joined_delimits (comma : close ≠ ',')
    (each : ∀ item ∈ items, ∀ other ∈ others, Delimits write item other)
    (left : ∀ item ∈ items, OpensOtherThan close (write item))
    (right : ∀ other ∈ others, OpensOtherThan close (write other))
    (same : (Text.joined "," (items.map write)).toList ++ close :: rest =
      (Text.joined "," (others.map write)).toList ++ close :: more) :
    items = others ∧ rest = more := by
  cases items with
  | nil =>
    cases others with
    | nil => simpa [Text.joined] using same
    | cons other others =>
      obtain ⟨first, tail, opens, differs⟩ := right other List.mem_cons_self
      rw [List.map_cons, Text.joined_toList, opens] at same
      exact absurd (List.cons.inj same).1.symm differs
  | cons item items =>
    cases others with
    | nil =>
      obtain ⟨first, tail, opens, differs⟩ := left item List.mem_cons_self
      rw [List.map_cons, Text.joined_toList, opens] at same
      exact absurd (List.cons.inj same).1 differs
    | cons other others =>
      have parts : ∀ one ∈ item :: items, ∀ two ∈ other :: others,
          Text.Delimited (fun _ => True) (fun part => (write part).toList) one two :=
        fun one mem two mem' rest more _ _ => each one mem two mem' rest more
      exact Text.joined_known (rfl : ",".toList = ',' :: []) (fun _ => trivial)
        (fun _ => trivial) comma parts same

end Lists

/-- A value made of strings alone, in arrays and under keys. -/
inductive Textual : Json → Prop where
  | string (text : String) : Textual (.string text)
  | array {items : List Json} (each : ∀ item ∈ items, Textual item) : Textual (.array items)
  | object {entries : Entries} (each : ∀ entry ∈ entries, Textual entry.2) :
      Textual (.object entries)

def writtenEntry (entry : String × Json) : String := quoted entry.1 ++ ":" ++ entry.2.compact

theorem compactItems_eq (items : List Json) : compactItems items = items.map compact := by
  induction items with
  | nil => rfl
  | cons item items ih => rw [compactItems, ih, List.map_cons]

theorem compactEntries_eq (entries : Entries) :
    compactEntries entries = entries.map writtenEntry := by
  induction entries with
  | nil => rfl
  | cons entry entries ih => rw [compactEntries, ih, List.map_cons, writtenEntry]

theorem compact_array_toList (items : List Json) :
    (compact (.array items)).toList =
      '[' :: ((Text.joined "," (items.map compact)).toList ++ [']']) := by
  rw [compact, compactItems_eq, String.toList_append, String.toList_append]
  rfl

theorem compact_object_toList (entries : Entries) :
    (compact (.object entries)).toList =
      '\x7b' :: ((Text.joined "," (entries.map writtenEntry)).toList ++ ['\x7d']) := by
  rw [compact, compactEntries_eq, String.toList_append, String.toList_append]
  rfl

theorem writtenEntry_toList (entry : String × Json) :
    (writtenEntry entry).toList =
      (quoted entry.1).toList ++ ':' :: entry.2.compact.toList := by
  rw [writtenEntry, String.toList_append, String.toList_append, List.append_assoc]
  rfl

theorem writtenEntry_delimits {entry other : String × Json}
    (values : Delimits compact entry.2 other.2) : Delimits writtenEntry entry other := by
  intro rest more same
  rw [writtenEntry_toList, writtenEntry_toList, List.append_assoc, List.append_assoc] at same
  obtain ⟨key, later⟩ := quoted_delimits _ _ _ _ same
  obtain ⟨value, last⟩ := values _ _ (List.cons.inj later).2
  exact ⟨Prod.ext key value, last⟩

theorem writtenEntry_opens (entry : String × Json) :
    OpensOtherThan '\x7d' (writtenEntry entry) := by
  refine ⟨'"', (entry.1.toList.flatMap escaped ++ ['"']) ++ ':' :: entry.2.compact.toList, ?_,
    by decide⟩
  rw [writtenEntry_toList, quoted_toList, List.cons_append]

namespace Textual

theorem list {α : Type} {write : α → Json} (items : List α)
    (each : ∀ item, Textual (write item)) : Textual (.array (items.map write)) := by
  refine .array fun value member => ?_
  obtain ⟨item, -, rfl⟩ := List.mem_map.mp member
  exact each item

theorem single {key : String} {value : Json} (textual : Textual value) :
    Textual (.single key value) :=
  .object (List.forall_mem_singleton.mpr textual)

theorem pair {key other : String} {first second : Json} (one : Textual first)
    (two : Textual second) : Textual (.object [(key, first), (other, second)]) :=
  .object (List.forall_mem_cons.mpr ⟨one, List.forall_mem_singleton.mpr two⟩)

theorem opens {value : Json} (textual : Textual value) : OpensOtherThan ']' value.compact := by
  cases textual with
  | string text => exact ⟨'"', _, quoted_toList text, by decide⟩
  | array each => exact ⟨'[', _, compact_array_toList _, by decide⟩
  | object each => exact ⟨'\x7b', _, compact_object_toList _, by decide⟩

/-- A value made of strings is delimited by its text among all such values. -/
theorem delimits {value other : Json} (left : Textual value) (right : Textual other) :
    Delimits compact value other := by
  -- Values of different kinds differ in their first characters, which is all that `simp` has to see.
  induction left generalizing other with
  | string text =>
    intro rest more same
    cases right with
    | string text' =>
      obtain ⟨equal, later⟩ := quoted_delimits text text' rest more same
      exact ⟨by rw [equal], later⟩
    | array each => simp [compact, quoted_toList] at same
    | object each => simp [compact, quoted_toList] at same
  | @array items each ih =>
    intro rest more same
    cases right with
    | string text' => simp [compact, quoted_toList] at same
    | @array others each' =>
      simp only [compact_array_toList, List.cons_append, List.append_assoc, List.nil_append,
        List.cons.injEq, true_and] at same
      obtain ⟨equal, later⟩ := joined_delimits (by decide)
        (fun item mem other mem' => ih item mem (each' other mem'))
        (fun item mem => (each item mem).opens) (fun other mem => (each' other mem).opens) same
      exact ⟨by rw [equal], later⟩
    | object each' => simp [compact_array_toList, compact_object_toList] at same
  | @object entries each ih =>
    intro rest more same
    cases right with
    | string text' => simp [compact, quoted_toList] at same
    | array each' => simp [compact_array_toList, compact_object_toList] at same
    | @object others each' =>
      simp only [compact_object_toList, List.cons_append, List.append_assoc, List.nil_append,
        List.cons.injEq, true_and] at same
      obtain ⟨equal, later⟩ := joined_delimits (by decide)
        (fun entry mem other mem' => writtenEntry_delimits (ih entry mem (each' other mem')))
        (fun entry _ => writtenEntry_opens entry) (fun other _ => writtenEntry_opens other) same
      exact ⟨by rw [equal], later⟩

theorem compact_inj {value other : Json} (left : Textual value) (right : Textual other) :
    value.compact = other.compact ↔ value = other := by
  refine ⟨fun same => ?_, fun same => by rw [same]⟩
  exact (left.delimits right [] [] (by rw [same])).1

end Textual

end TypedSearch.Json
