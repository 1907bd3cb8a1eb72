import TypedSearch.Api.Types
import TypedSearch.Proofs.Text.Delimited
import TypedSearch.Proofs.Text.Name

/-!
Schema texts leave nothing open. Every part of a schema text tells what it was written for and where it
ends, as no name has a character in it that stands between names, and the wrapping of a reference shows
in its last character. So schemas whose names are identifiers are known by their texts.
-/

namespace TypedSearch

open Text

/-- A reference leads to a type that is named by an identifier. -/
def TypeRef.Legal (type : TypeRef) : Prop := Name.isIdentifier type.baseName = true

structure InputValue.Legal (input : InputValue) : Prop where
  name : Name.isIdentifier input.name = true
  type : input.type.Legal

structure ObjectField.Legal (field : ObjectField) : Prop where
  name : Name.isIdentifier field.name = true
  type : field.type.Legal
  arguments : ∀ argument ∈ field.arguments, argument.Legal

/-- The entries of a type use no names but identifiers. -/
def TypeBody.Legal : TypeBody → Prop
  | object fields => ∀ field ∈ fields, field.Legal
  | inputObject inputs => ∀ input ∈ inputs, input.Legal
  | enumeration values => ∀ value ∈ values, Name.isIdentifier value = true

structure NamedType.Legal (type : NamedType) : Prop where
  name : Name.isIdentifier type.name = true
  body : type.body.Legal

/-- All names in a schema are identifiers: those of its types, wherever they stand, of their entries
and of the arguments of these. -/
structure ApiSchema.Legal (schema : ApiSchema) : Prop where
  query : Name.isIdentifier schema.query = true
  definitions : ∀ type ∈ schema.definitions, type.Legal

section Decide

instance (type : TypeRef) : Decidable type.Legal := inferInstanceAs (Decidable (_ = true))

instance (input : InputValue) : Decidable input.Legal :=
  decidable_of_iff (Name.isIdentifier input.name = true ∧ input.type.Legal)
    ⟨fun ⟨name, type⟩ => ⟨name, type⟩, fun ⟨name, type⟩ => ⟨name, type⟩⟩

instance (field : ObjectField) : Decidable field.Legal :=
  decidable_of_iff (Name.isIdentifier field.name = true ∧ field.type.Legal ∧
      ∀ argument ∈ field.arguments, argument.Legal)
    ⟨fun ⟨name, type, arguments⟩ => ⟨name, type, arguments⟩,
      fun ⟨name, type, arguments⟩ => ⟨name, type, arguments⟩⟩

instance : (body : TypeBody) → Decidable body.Legal
  | .object fields => inferInstanceAs (Decidable (∀ field ∈ fields, field.Legal))
  | .inputObject inputs => inferInstanceAs (Decidable (∀ input ∈ inputs, input.Legal))
  | .enumeration values =>
    inferInstanceAs (Decidable (∀ value ∈ values, Name.isIdentifier value = true))

instance (type : NamedType) : Decidable type.Legal :=
  decidable_of_iff (Name.isIdentifier type.name = true ∧ type.body.Legal)
    ⟨fun ⟨name, body⟩ => ⟨name, body⟩, fun ⟨name, body⟩ => ⟨name, body⟩⟩

instance (schema : ApiSchema) : Decidable schema.Legal :=
  decidable_of_iff (Name.isIdentifier schema.query = true ∧ ∀ type ∈ schema.definitions, type.Legal)
    ⟨fun ⟨query, definitions⟩ => ⟨query, definitions⟩,
      fun ⟨query, definitions⟩ => ⟨query, definitions⟩⟩

end Decide

variable {rest more : List Char}

/-- Identifiers are known by the text up to a character that is in none. -/
theorem Name.delimited {name other : String} (left : isIdentifier name = true)
    (right : isIdentifier other = true) :
    Delimited (Stops isInner) String.toList name other := by
  intro rest more stops stops' same
  obtain ⟨text, after⟩ := run_known (List.all_eq_true.mp (isIdentifier_inner left))
    (List.all_eq_true.mp (isIdentifier_inner right)) stops stops' same
  exact ⟨String.toList_inj.mp text, after⟩

namespace TypeRef

/-- The characters that references are written with. -/
def isMark (c : Char) : Bool := Name.isInner c || c = '[' || c = ']' || c = '!'

theorem list_toList (inner : TypeRef) :
    (sdl (.list inner)).toList = '[' :: (inner.sdl.toList ++ [']']) := by
  rw [sdl, String.toList_append, String.toList_append]
  rfl

theorem nonNull_toList (inner : TypeRef) :
    (sdl (.nonNull inner)).toList = inner.sdl.toList ++ ['!'] := by
  rw [sdl, String.toList_append]
  rfl

theorem sdl_marks {type : TypeRef} (legal : type.Legal) : ∀ c ∈ type.sdl.toList, isMark c = true := by
  induction type with
  | named name =>
    intro c inside
    have inner := List.all_eq_true.mp (Name.isIdentifier_inner legal) c inside
    simp [isMark, inner]
  | list inner ih =>
    rw [list_toList, List.forall_mem_cons, List.forall_mem_append, List.forall_mem_singleton]
    exact ⟨rfl, ih legal, rfl⟩
  | nonNull inner ih =>
    rw [nonNull_toList, List.forall_mem_append, List.forall_mem_singleton]
    exact ⟨ih legal, rfl⟩

/-- A name has none of the characters that references are wrapped with. -/
theorem not_mem_name {name : String} (legal : Name.isIdentifier name = true) {c : Char}
    (foreign : Name.isInner c = false) : c ∉ name.toList := by
  intro inside
  have inner := List.all_eq_true.mp (Name.isIdentifier_inner legal) c inside
  rw [foreign] at inner
  cases inner

/-- A reference is no bare name if it has such a character. -/
theorem eq_named_of_text {type : TypeRef} {name : String} (legal : Name.isIdentifier name = true)
    (same : type.sdl.toList = name.toList) : type = named name := by
  cases type with
  | named other => exact congrArg named (String.toList_inj.mp same)
  | list inner =>
    rw [list_toList] at same
    exact (not_mem_name legal (c := '[') rfl (same ▸ List.mem_cons_self)).elim
  | nonNull inner =>
    rw [nonNull_toList] at same
    exact (not_mem_name legal (c := '!') rfl (same ▸ List.mem_concat_self)).elim

/-- References are known by their texts. -/
theorem sdl_inj {type other : TypeRef} (left : type.Legal) (right : other.Legal)
    (same : type.sdl.toList = other.sdl.toList) : type = other := by
  -- The outermost wrapping shows in the last character.
  induction type generalizing other with
  | named name => exact (eq_named_of_text left same.symm).symm
  | list inner ih =>
    cases other with
    | named name => exact eq_named_of_text right same
    | list inner' =>
      rw [list_toList, list_toList, List.cons_inj_right, List.append_cancel_right_eq] at same
      exact congrArg list (ih left right same)
    | nonNull inner' =>
      rw [list_toList, nonNull_toList, ← List.cons_append] at same
      simpa using (List.append_inj' same rfl).2
  | nonNull inner ih =>
    cases other with
    | named name => exact eq_named_of_text right same
    | list inner' =>
      rw [list_toList, nonNull_toList, ← List.cons_append] at same
      simpa using (List.append_inj' same rfl).2
    | nonNull inner' =>
      rw [nonNull_toList, nonNull_toList, List.append_cancel_right_eq] at same
      exact congrArg nonNull (ih left right same)

theorem delimited {type other : TypeRef} (left : type.Legal) (right : other.Legal) :
    Delimited (Stops isMark) (fun type => type.sdl.toList) type other := by
  intro rest more stops stops' same
  obtain ⟨text, after⟩ := run_known (sdl_marks left) (sdl_marks right) stops stops' same
  exact ⟨sdl_inj left right text, after⟩

end TypeRef

namespace InputValue

theorem sdl_toList (input : InputValue) :
    input.sdl.toList = input.name.toList ++ ':' :: ' ' :: input.type.sdl.toList := by
  rw [sdl, String.toList_append, String.toList_append, List.append_assoc]
  rfl

theorem delimited {input other : InputValue} (left : input.Legal) (right : other.Legal) :
    Delimited (Stops TypeRef.isMark) (fun input => input.sdl.toList) input other := by
  intro rest more stops stops' same
  simp only [sdl_toList, List.append_assoc, List.cons_append] at same
  obtain ⟨name, same⟩ := Name.delimited left.name right.name _ _ (stops_cons rfl) (stops_cons rfl) same
  simp only [List.cons.injEq, true_and] at same
  obtain ⟨type, after⟩ := TypeRef.delimited left.type right.type _ _ stops stops' same
  obtain ⟨⟩ := input
  obtain ⟨⟩ := other
  cases name
  cases type
  exact ⟨rfl, after⟩

/-- Arguments as they stand behind the name of a field: nothing if there are none. -/
def bracketed (inputs : List InputValue) : List Char :=
  if inputs.isEmpty then [] else '(' :: ((joined ", " (inputs.map sdl)).toList ++ [')'])

/-- Arguments are known by their text up to a colon. -/
theorem bracketed_known {inputs others : List InputValue} (left : ∀ input ∈ inputs, input.Legal)
    (right : ∀ input ∈ others, input.Legal)
    (same : bracketed inputs ++ ':' :: rest = bracketed others ++ ':' :: more) :
    inputs = others ∧ rest = more := by
  cases inputs with
  | nil =>
    cases others with
    | nil => simpa [bracketed] using same
    | cons other others => simp [bracketed] at same
  | cons input inputs =>
    cases others with
    | nil => simp [bracketed] at same
    | cons other others =>
      simp only [bracketed, List.isEmpty_cons, Bool.false_eq_true, ↓reduceIte, List.cons_append,
        List.append_assoc, List.nil_append, List.cons.injEq, true_and] at same
      obtain ⟨listed, after⟩ := joined_known (rfl : ", ".toList = ',' :: [' '])
        (fun _ => stops_cons rfl) (fun _ => stops_cons rfl) (by decide)
        (fun one mem two mem' => delimited (left one mem) (right two mem')) same
      exact ⟨listed, (List.cons.inj after).2⟩

end InputValue

namespace ObjectField

theorem sdl_toList (field : ObjectField) :
    field.sdl.toList = field.name.toList ++
      (InputValue.bracketed field.arguments ++ ':' :: ' ' :: field.type.sdl.toList) := by
  rw [sdl, InputValue.bracketed]
  split <;> simp

theorem delimited {field other : ObjectField} (left : field.Legal) (right : other.Legal) :
    Delimited (Stops TypeRef.isMark) (fun field => field.sdl.toList) field other := by
  intro rest more stops stops' same
  simp only [sdl_toList, List.append_assoc, List.cons_append] at same
  have opens (inputs : List InputValue) (after : List Char) :
      Stops Name.isInner (InputValue.bracketed inputs ++ ':' :: after) := by
    cases inputs <;> exact stops_cons rfl
  obtain ⟨name, same⟩ := Name.delimited left.name right.name _ _ (opens _ _) (opens _ _) same
  obtain ⟨arguments, same⟩ := InputValue.bracketed_known left.arguments right.arguments same
  obtain ⟨type, after⟩ := TypeRef.delimited left.type right.type _ _ stops stops' (List.cons.inj same).2
  obtain ⟨⟩ := field
  obtain ⟨⟩ := other
  cases name
  cases arguments
  cases type
  exact ⟨rfl, after⟩

end ObjectField

namespace TypeBody

section Lines

variable {α : Type} {write : α → String} {items others : List α}

/-- A line of a schema text: two spaces before and the end of the line behind. -/
def line (text : String) : String := "  " ++ text ++ "\n"

theorem line_toList (text : String) : (line text).toList = ' ' :: ' ' :: (text.toList ++ ['\n']) := by
  rw [line, String.toList_append, String.toList_append]
  rfl

/-- Lines are known up to a closing bracket, if their contents are known up to the end of the line. -/
theorem lines_known {kept : Char → Bool} (lineEnd : kept '\n' = false)
    (each : ∀ item ∈ items, ∀ other ∈ others,
      Delimited (Stops kept) (fun item => (write item).toList) item other)
    (same : (items.map write).flatMap (fun text => (line text).toList) ++ '\x7d' :: rest =
      (others.map write).flatMap (fun text => (line text).toList) ++ '\x7d' :: more) :
    items = others ∧ rest = more := by
  have whole : ∀ item ∈ items, ∀ other ∈ others,
      Delimited (fun _ => True) (fun item => ' ' :: ((write item).toList ++ ['\n'])) item other := by
    intro item mem other mem' rest more _ _ same
    simp only [List.cons_append, List.append_assoc, List.cons.injEq, true_and,
      List.nil_append] at same
    obtain ⟨rfl, after⟩ := each item mem other mem' _ _ (stops_cons lineEnd) (stops_cons lineEnd) same
    exact ⟨rfl, (List.cons.inj after).2⟩
  simp only [List.flatMap_map, line_toList] at same
  obtain ⟨rfl, after⟩ := marked_known (fun _ => trivial) whole ⟨trivial, by simp⟩
    ⟨trivial, by simp⟩ same
  exact ⟨rfl, (List.cons.inj after).2⟩

end Lines

/-- The lines of a body up to the bracket that closes it. -/
def block (body : TypeBody) : List Char := body.lines.flatMap fun text => (line text).toList

/-- Bodies of one kind are known by their lines. -/
theorem block_known {body other : TypeBody} (left : body.Legal) (right : other.Legal)
    (kind : body.keyword = other.keyword)
    (same : block body ++ '\x7d' :: rest = block other ++ '\x7d' :: more) :
    body = other ∧ rest = more := by
  cases body with
  | object fields =>
    cases other with
    | object others =>
      obtain ⟨rfl, after⟩ := lines_known (by decide) (fun field mem other mem' =>
        ObjectField.delimited (left field mem) (right other mem')) same
      exact ⟨rfl, after⟩
    | inputObject others => simp [keyword] at kind
    | enumeration others => simp [keyword] at kind
  | inputObject inputs =>
    cases other with
    | object others => simp [keyword] at kind
    | inputObject others =>
      obtain ⟨rfl, after⟩ := lines_known (by decide) (fun input mem other mem' =>
        InputValue.delimited (left input mem) (right other mem')) same
      exact ⟨rfl, after⟩
    | enumeration others => simp [keyword] at kind
  | enumeration values =>
    cases other with
    | object others => simp [keyword] at kind
    | inputObject others => simp [keyword] at kind
    | enumeration others =>
      have lines (values : List String) : block (.enumeration values) =
          (values.map id).flatMap fun text => (line text).toList := by
        rw [List.map_id]
        rfl
      rw [lines, lines] at same
      obtain ⟨rfl, after⟩ := lines_known (by decide) (fun value mem other mem' =>
        Name.delimited (left value mem) (right other mem')) same
      exact ⟨rfl, after⟩

end TypeBody

namespace NamedType

theorem sdl_toList (type : NamedType) :
    type.sdl.toList = type.body.keyword.toList ++ ' ' :: (type.name.toList ++
      ' ' :: '\x7b' :: '\n' :: (type.body.block ++ ['\x7d'])) := by
  have lines : (Text.concat (type.body.lines.map fun line => "  " ++ line ++ "\n")).toList =
      type.body.block := by
    rw [concat_toList, List.flatMap_map]
    rfl
  simp [sdl, lines]

theorem keyword_legal (body : TypeBody) : Name.isIdentifier body.keyword = true := by
  have legal : ∀ keyword ∈ ["type", "input", "enum"], Name.isIdentifier keyword = true := by decide
  cases body <;> exact legal _ (by simp [TypeBody.keyword])

/-- Types are known by their texts. -/
theorem delimited {type other : NamedType} (left : type.Legal) (right : other.Legal) :
    Delimited (fun _ => True) (fun type => type.sdl.toList) type other := by
  intro rest more _ _ same
  simp only [sdl_toList, List.append_assoc, List.cons_append, List.nil_append] at same
  obtain ⟨kind, same⟩ := Name.delimited (keyword_legal _) (keyword_legal _) _ _ (stops_cons rfl)
    (stops_cons rfl) same
  obtain ⟨name, same⟩ := Name.delimited left.name right.name _ _ (stops_cons rfl) (stops_cons rfl)
    (List.cons.inj same).2
  simp only [List.cons.injEq, true_and] at same
  obtain ⟨body, after⟩ := TypeBody.block_known left.body right.body kind same
  obtain ⟨⟩ := type
  obtain ⟨⟩ := other
  cases name
  cases body
  exact ⟨rfl, after⟩

end NamedType

namespace ApiSchema

theorem sdl_toList (schema : ApiSchema) :
    schema.sdl.toList = "schema \x7b\n  query: ".toList ++ (schema.query.toList ++
      '\n' :: '\x7d' :: '\n' ::
        schema.definitions.flatMap fun type => '\n' :: (type.sdl.toList ++ ['\n'])) := by
  -- The parts are stated, as unfolding the text would have Lean evaluate its first line.
  have parts : schema.sdl = "schema \x7b\n  query: " ++ schema.query ++ "\n\x7d\n" ++
      Text.concat (schema.definitions.map fun type => "\n" ++ type.sdl ++ "\n") := rfl
  have lineEnd : "\n".toList = ['\n'] := rfl
  have close : "\n\x7d\n".toList = ['\n', '\x7d', '\n'] := rfl
  simp only [parts, String.toList_append, concat_toList, List.flatMap_map, List.append_assoc,
    lineEnd, close, List.cons_append, List.nil_append]

end ApiSchema

/-- Schemas whose names are identifiers are equal if their texts are, whatever kinds of types they have
and however references are wrapped. -/
theorem schema_text_unambiguous {schema other : ApiSchema} (legal : schema.Legal)
    (legal' : other.Legal) : schema.sdl = other.sdl ↔ schema = other := by
  refine ⟨fun same => ?_, fun same => by rw [same]⟩
  have whole : ∀ type ∈ schema.definitions, ∀ type' ∈ other.definitions,
      Delimited (fun _ => True) (fun type => type.sdl.toList ++ ['\n']) type type' := by
    intro type mem type' mem' rest more _ _ same
    simp only [List.append_assoc] at same
    obtain ⟨rfl, after⟩ := NamedType.delimited (legal.definitions type mem)
      (legal'.definitions type' mem') _ _ trivial trivial same
    exact ⟨rfl, (List.cons.inj after).2⟩
  have same : schema.sdl.toList = other.sdl.toList := congrArg String.toList same
  rw [ApiSchema.sdl_toList, ApiSchema.sdl_toList, List.append_cancel_left_eq] at same
  obtain ⟨query, same⟩ := Name.delimited legal.query legal'.query _ _ (stops_cons rfl)
    (stops_cons rfl) same
  simp only [List.cons.injEq, true_and] at same
  rw [← List.append_nil (List.flatMap _ schema.definitions),
    ← List.append_nil (List.flatMap _ other.definitions)] at same
  obtain ⟨definitions, -⟩ := marked_known (fun _ => trivial) whole ⟨trivial, by simp⟩
    ⟨trivial, by simp⟩ same
  obtain ⟨⟩ := schema
  obtain ⟨⟩ := other
  cases query
  cases definitions
  rfl

/-- A schema of loans, which have amounts of some type. -/
def loanSchema (amounts : TypeRef) : ApiSchema :=
  let limit : InputValue := ⟨"limit", .nonNull (.named "Int")⟩
  ⟨"Query",
    [⟨"Loan", .object [⟨"amounts", amounts, []⟩]⟩,
      ⟨"LoanFilter", .inputObject [limit, ⟨"unit", .named "Unit"⟩]⟩,
      ⟨"Query", .object [⟨"loans", .list (.named "Loan"), [limit, ⟨"filter", .named "LoanFilter"⟩]⟩]⟩,
      ⟨"Unit", .enumeration ["DAY", "YEAR"]⟩]⟩

/-- A list without null in it and a list that is not null itself have different texts. -/
theorem loan_texts_differ :
    let inner := loanSchema (.list (.nonNull (.named "Int")))
    let outer := loanSchema (.nonNull (.list (.named "Int")))
    inner.Legal ∧ outer.Legal ∧ (inner.sdl = outer.sdl ↔ inner = outer) ∧ inner.sdl ≠ outer.sdl := by
  intro inner outer
  have legal : inner.Legal := by decide +kernel
  have legal' : outer.Legal := by decide +kernel
  have known : inner.sdl = outer.sdl ↔ inner = outer := schema_text_unambiguous legal legal'
  exact ⟨legal, legal', known, fun same => absurd (known.mp same) (by decide +kernel)⟩

end TypedSearch
