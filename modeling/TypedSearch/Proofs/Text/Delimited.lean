import TypedSearch.Text.Joined

/-!
Texts that are put together from parts so that the parts are found again. A run of certain characters
ends where another character stands, and parts that begin with one mark end where there is no mark.
-/

namespace TypedSearch.Text

variable {α : Type} {kept : Char → Bool} {text other rest more : List Char}

/-- What follows goes on with none of certain characters. -/
def Stops (kept : Char → Bool) (rest : List Char) : Prop := ∀ c ∈ rest.head?, kept c = false

theorem stops_cons {c : Char} (stop : kept c = false) : Stops kept (c :: rest) := by
  simpa [Stops] using stop

/-- Runs of certain characters are known by the text up to the character that stops them. -/
theorem run_known (left : ∀ c ∈ text, kept c = true) (right : ∀ c ∈ other, kept c = true)
    (stops : Stops kept rest) (stops' : Stops kept more) (same : text ++ rest = other ++ more) :
    text = other ∧ rest = more := by
  induction text generalizing other with
  | nil =>
    cases other with
    | nil => exact ⟨rfl, same⟩
    | cons c other =>
      rw [List.nil_append] at same
      subst same
      have stop : kept c = false := stops c rfl
      simp [right c List.mem_cons_self] at stop
  | cons c text ih =>
    cases other with
    | nil =>
      rw [List.nil_append] at same
      subst same
      have stop : kept c = false := stops' c rfl
      simp [left c List.mem_cons_self] at stop
    | cons d other =>
      obtain ⟨rfl, tail⟩ := List.cons.inj same
      obtain ⟨rfl, after⟩ := ih (List.forall_mem_cons.mp left).2 (List.forall_mem_cons.mp right).2 tail
      exact ⟨rfl, after⟩

/-- The text of an item tells what the item is and where it ends, if what is behind it is of a certain
kind. -/
def Delimited (ends : List Char → Prop) (write : α → List Char) (item other : α) : Prop :=
  ∀ rest more, ends rest → ends more → write item ++ rest = write other ++ more →
    item = other ∧ rest = more

/-- Every part after the first one stands behind a separator. -/
theorem joined_toList (separator part : String) (parts : List String) :
    (joined separator (part :: parts)).toList =
      part.toList ++ parts.flatMap fun other => separator.toList ++ other.toList := by
  induction parts generalizing part with
  | nil => simp [joined]
  | cons next parts ih =>
    rw [joined, String.toList_append, String.toList_append, ih, List.flatMap_cons,
      List.append_assoc, List.append_assoc]

theorem concat_toList (parts : List String) :
    (concat parts).toList = parts.flatMap String.toList := by
  cases parts with
  | nil => rfl
  | cons part parts =>
    rw [concat, joined_toList, List.flatMap_cons]
    simp

/-- Items behind marks are known by their texts up to where no further mark stands. -/
theorem marked_known {ends : List Char → Prop} {write : α → List Char} {mark : Char}
    {items others : List α} (goesOn : ∀ text, ends (mark :: text))
    (each : ∀ item ∈ items, ∀ other ∈ others, Delimited ends write item other)
    (stop : ends rest ∧ rest.head? ≠ some mark) (stop' : ends more ∧ more.head? ≠ some mark)
    (same : (items.flatMap fun item => mark :: write item) ++ rest =
      (others.flatMap fun item => mark :: write item) ++ more) :
    items = others ∧ rest = more := by
  have opens (parts : List α) {after : List Char} (stop : ends after) :
      ends ((parts.flatMap fun item => mark :: write item) ++ after) := by
    cases parts with
    | nil => exact stop
    | cons part parts => exact goesOn _
  induction items generalizing others with
  | nil =>
    cases others with
    | nil => exact ⟨rfl, same⟩
    | cons other others =>
      rw [List.flatMap_nil, List.nil_append] at same
      simp [same] at stop
  | cons item items ih =>
    cases others with
    | nil =>
      rw [List.flatMap_nil, List.nil_append] at same
      simp [← same] at stop'
    | cons other others =>
      simp only [List.flatMap_cons, List.cons_append, List.append_assoc, List.cons.injEq,
        true_and] at same
      obtain ⟨rfl, later⟩ := each item List.mem_cons_self other List.mem_cons_self _ _
        (opens items stop.1) (opens others stop'.1) same
      obtain ⟨rfl, after⟩ := ih (fun one mem two mem' =>
        each one (List.mem_cons_of_mem _ mem) two (List.mem_cons_of_mem _ mem')) later
      exact ⟨rfl, after⟩

/-- Items with separators between them are known by their texts up to a closing character. -/
theorem joined_known {ends : List Char → Prop} {write : α → String} {separator : String}
    {mark close : Char} {gap : List Char} {item other : α} {items others : List α}
    (separates : separator.toList = mark :: gap) (goesOn : ∀ text, ends (mark :: text))
    (closes : ∀ text, ends (close :: text)) (differs : close ≠ mark)
    (each : ∀ one ∈ item :: items, ∀ two ∈ other :: others,
      Delimited ends (fun item => (write item).toList) one two)
    (same : (joined separator ((item :: items).map write)).toList ++ close :: rest =
      (joined separator ((other :: others).map write)).toList ++ close :: more) :
    item :: items = other :: others ∧ rest = more := by
  have stops (parts : List α) (after : List Char) :
      ends ((parts.flatMap fun item => mark :: (gap ++ (write item).toList)) ++ close :: after) := by
    cases parts with
    | nil => exact closes _
    | cons part parts => exact goesOn _
  simp only [List.map_cons, joined_toList, List.flatMap_map, separates, List.cons_append,
    List.append_assoc] at same
  obtain ⟨rfl, tail⟩ := each item List.mem_cons_self other List.mem_cons_self _ _ (stops items _)
    (stops others _) same
  have later : ∀ one ∈ items, ∀ two ∈ others,
      Delimited ends (fun item => gap ++ (write item).toList) one two := by
    intro one mem two mem' rest more stop stop' same
    simp only [List.append_assoc, List.append_cancel_left_eq] at same
    exact each one (List.mem_cons_of_mem _ mem) two (List.mem_cons_of_mem _ mem') _ _ stop stop' same
  have behind (text : List Char) : ends (close :: text) ∧ (close :: text).head? ≠ some mark :=
    ⟨closes text, by simpa using differs⟩
  obtain ⟨rfl, after⟩ := marked_known goesOn later (behind _) (behind _) tail
  exact ⟨rfl, (List.cons.inj after).2⟩

end TypedSearch.Text
