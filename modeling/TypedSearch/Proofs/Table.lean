import TypedSearch.Table

/-!
Lookups in tables. Setting an entry changes the answer for its name alone, and what a lookup finds is
exactly what the table lists.
-/

namespace TypedSearch.Table

variable {α : Type} {name other : String} {value : α} {entries : List (String × α)}

@[simp] theorem get?_empty (name : String) : (empty : Table α).get? name = none := rfl

theorem lookup_cons_ne (differ : name ≠ other) :
    List.lookup name ((other, value) :: entries) = entries.lookup name := by
  rw [List.lookup_cons, beq_eq_false_iff_ne.mpr differ]

/-- A lookup finds an entry that is listed. -/
theorem mem_of_lookup (found : entries.lookup name = some value) : (name, value) ∈ entries := by
  induction entries with
  | nil => simp at found
  | cons head rest ih =>
    obtain ⟨key, first⟩ := head
    by_cases same : name = key
    · subst same
      rw [List.lookup_cons_self] at found
      cases found
      exact List.mem_cons_self
    · rw [lookup_cons_ne same] at found
      exact List.mem_cons_of_mem _ (ih found)

theorem exists_lookup (known : name ∈ entries.map (·.1)) :
    ∃ value, entries.lookup name = some value := by
  obtain ⟨entry, member, rfl⟩ := List.mem_map.mp known
  cases found : entries.lookup entry.1 with
  | some value => exact ⟨value, rfl⟩
  | none =>
    have absent := List.lookup_eq_none_iff.mp found entry member
    simp at absent

theorem lookup_eq_none (absent : name ∉ entries.map (·.1)) : entries.lookup name = none := by
  cases found : entries.lookup name with
  | none => rfl
  | some value => exact (absent (List.mem_map.mpr ⟨_, mem_of_lookup found, rfl⟩)).elim

/-- Among entries with different names a lookup finds exactly what is listed. -/
theorem lookup_eq_some_iff (distinct : (entries.map (·.1)).Nodup) :
    entries.lookup name = some value ↔ (name, value) ∈ entries := by
  refine ⟨mem_of_lookup, fun member => ?_⟩
  induction entries with
  | nil => simp at member
  | cons head rest ih =>
    obtain ⟨absent, tail⟩ := List.nodup_cons.mp distinct
    rcases List.mem_cons.mp member with same | later
    · subst same
      exact List.lookup_cons_self
    · have differ : name ≠ head.1 := by
        rintro rfl
        exact absent (List.mem_map.mpr ⟨_, later, rfl⟩)
      rw [lookup_cons_ne differ]
      exact ih tail later

theorem names_ascending (table : Table α) : table.names.Pairwise (· < ·) :=
  List.pairwise_map.mpr table.ascending

/-- A table finds exactly what it lists. -/
theorem get?_eq_some_iff {table : Table α} :
    table.get? name = some value ↔ (name, value) ∈ table.entries :=
  lookup_eq_some_iff (table.names_ascending.imp String.ne_of_lt)

private theorem lookup_insertEntry (name other : String) (value : α)
    (entries : List (String × α)) :
    (insertEntry name value entries).lookup other =
      if other = name then some value else entries.lookup other := by
  induction entries with
  | nil =>
    by_cases same : other = name
    · simp [insertEntry, same]
    · simp [insertEntry, lookup_cons_ne same, same]
  | cons head rest ih =>
    obtain ⟨key, old⟩ := head
    simp only [insertEntry]
    split
    · by_cases same : other = name
      · simp [same]
      · simp only [lookup_cons_ne same, same, ↓reduceIte]
    · split
      next equal =>
        subst equal
        by_cases same : other = name
        · simp [same]
        · simp only [lookup_cons_ne same, same, ↓reduceIte]
      next differ =>
        by_cases first : other = key
        · subst first
          simp [Ne.symm differ]
        · rw [lookup_cons_ne first, lookup_cons_ne first, ih]

/-- Setting an entry is seen at its name and nowhere else. -/
theorem get?_insert (table : Table α) (name other : String) (value : α) :
    (table.insert name value).get? other =
      if other = name then some value else table.get? other :=
  lookup_insertEntry name other value table.entries

/-- After an entry is set the table has its name and those that it had before. -/
theorem contains_insert (table : Table α) (name other : String) (value : α) :
    (table.insert name value).contains other = (other == name || table.contains other) := by
  rw [contains, get?_insert]
  by_cases same : other = name
  · simp [same]
  · simp [same, contains]

theorem mem_names {table : Table α} : name ∈ table.names ↔ table.contains name = true := by
  rw [contains, Option.isSome_iff_exists, names, List.mem_map]
  constructor
  · rintro ⟨entry, member, rfl⟩
    exact ⟨entry.2, get?_eq_some_iff.mpr member⟩
  · rintro ⟨value, found⟩
    exact ⟨(name, value), get?_eq_some_iff.mp found, rfl⟩

/-- Of ascending entries a search finds the one with the lowest name. -/
theorem find?_lowest {seeks : String × α → Bool} {entry : String × α} (ordered : Ascending entries)
    (found : entries.find? seeks = some entry) :
    ∀ other ∈ entries, other.1 < entry.1 → seeks other = false := by
  obtain ⟨-, before, after, rfl, passed⟩ := List.find?_eq_some_iff_append.mp found
  intro other member below
  have tail : Ascending (entry :: after) := (List.pairwise_append.mp ordered).2.1
  rcases List.mem_append.mp member with earlier | same | later
  · simpa using passed other earlier
  · exact absurd below (String.lt_irrefl _)
  · have above := (List.pairwise_cons.mp tail).1 other (by assumption)
    exact absurd (String.lt_trans below above) (String.lt_irrefl _)

/-- A list in strict order is known by its members. -/
private theorem eq_of_mem_iff {β : Type} {below : β → β → Prop}
    (strict : ∀ {first second}, below first second → ¬ below second first) {left right : List β}
    (one : left.Pairwise below) (two : right.Pairwise below)
    (same : ∀ item, item ∈ left ↔ item ∈ right) : left = right := by
  have apart : ∀ {items : List β}, items.Pairwise below → items.Nodup := by
    intro items ordered
    refine ordered.imp fun before equal => ?_
    rw [equal] at before
    exact strict before before
  have rearranged : left.Perm right :=
    (List.perm_ext_iff_of_nodup (apart one) (apart two)).mpr same
  exact rearranged.eq_of_pairwise (fun _ _ _ _ before after => (strict before after).elim) one two

private theorem lt_strict {first second : String} (below : first < second) : ¬ second < first :=
  fun above => String.lt_irrefl _ (String.lt_trans below above)

/-- Entries in ascending order are known by which ones they are. -/
theorem entries_eq_of_mem_iff {left right : List (String × α)} (first : Ascending left)
    (second : Ascending right) (same : ∀ entry, entry ∈ left ↔ entry ∈ right) : left = right :=
  eq_of_mem_iff lt_strict first second same

theorem names_eq_of_contains {β : Type} {left : Table α} {right : Table β}
    (same : ∀ name, left.contains name = right.contains name) : left.names = right.names := by
  refine eq_of_mem_iff lt_strict left.names_ascending right.names_ascending fun name => ?_
  rw [mem_names, mem_names, same]

/-- Tables are equal if lookups in them are. -/
theorem ext_get? {left right : Table α} (same : ∀ name, left.get? name = right.get? name) :
    left = right := by
  have listed : left.entries = right.entries := by
    refine entries_eq_of_mem_iff left.ascending right.ascending fun ⟨name, value⟩ => ?_
    rw [← get?_eq_some_iff, ← get?_eq_some_iff, same name]
  cases left
  cases right
  cases listed
  rfl

end TypedSearch.Table
