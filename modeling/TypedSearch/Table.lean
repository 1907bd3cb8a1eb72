/-!
Tables keyed by names, as the standard library keeps its ordered maps. A table lists its entries in
ascending order of the names, each name once, so two tables with the same entries are equal.
-/

namespace TypedSearch

/-- Whether entries stand in strictly ascending order of their names. -/
abbrev Ascending {α : Type} (entries : List (String × α)) : Prop :=
  entries.Pairwise fun left right => left.1 < right.1

/-- Entries in strictly ascending order of their names. -/
structure Table (α : Type) where
  entries : List (String × α)
  /-- The order of the entries. -/
  ascending : Ascending entries

namespace Table

variable {α β : Type}

instance [DecidableEq α] : DecidableEq (Table α) := fun left right =>
  decidable_of_iff (left.entries = right.entries) (by cases left; cases right; simp)

/-- The table without entries. -/
def empty : Table α := ⟨[], List.Pairwise.nil⟩

instance : Inhabited (Table α) := ⟨empty⟩

/-- Sets the entry of a name in ascending entries. -/
def insertEntry (name : String) (value : α) : List (String × α) → List (String × α)
  | [] => [(name, value)]
  | (other, old) :: rest =>
    if name < other then (name, value) :: (other, old) :: rest
    else if name = other then (name, value) :: rest
    else (other, old) :: insertEntry name value rest

theorem mem_insertEntry {name : String} {value : α} {entries : List (String × α)}
    {entry : String × α} (member : entry ∈ insertEntry name value entries) :
    entry = (name, value) ∨ entry ∈ entries := by
  induction entries with
  | nil => simpa [insertEntry] using member
  | cons head rest ih =>
    simp only [insertEntry] at member
    split at member
    · simpa using member
    · split at member
      · rcases List.mem_cons.1 member with same | later
        · exact .inl same
        · exact .inr (List.mem_cons_of_mem _ later)
      · rcases List.mem_cons.1 member with same | later
        · exact .inr (same ▸ List.mem_cons_self)
        · rcases ih later with same | old
          · exact .inl same
          · exact .inr (List.mem_cons_of_mem _ old)

theorem ascending_insertEntry (name : String) (value : α) {entries : List (String × α)}
    (ordered : Ascending entries) : Ascending (insertEntry name value entries) := by
  induction entries with
  | nil => simp [insertEntry]
  | cons head rest ih =>
    obtain ⟨before, tail⟩ := List.pairwise_cons.1 ordered
    simp only [insertEntry]
    split
    next below =>
      refine List.pairwise_cons.2 ⟨fun entry member => ?_, ordered⟩
      rcases List.mem_cons.1 member with same | later
      · exact same ▸ below
      · exact String.lt_trans below (before entry later)
    next notBelow =>
      split
      next same => exact List.pairwise_cons.2 ⟨fun entry member => same ▸ before entry member, tail⟩
      next differ =>
        refine List.pairwise_cons.2 ⟨fun entry member => ?_, ih tail⟩
        rcases mem_insertEntry member with same | old
        · rw [same]
          exact Std.not_le.1 fun above =>
            differ (String.le_antisymm above (Std.not_lt.1 notBelow))
        · exact before entry old

def insert (table : Table α) (name : String) (value : α) : Table α :=
  ⟨insertEntry name value table.entries, ascending_insertEntry name value table.ascending⟩

/-- The table of some entries, a later one replacing an earlier one of its name. -/
def ofList (entries : List (String × α)) : Table α :=
  entries.foldl (fun table entry => table.insert entry.1 entry.2) empty

def get? (table : Table α) (name : String) : Option α := table.entries.lookup name

def contains (table : Table α) (name : String) : Bool := (table.get? name).isSome

/-- The names in ascending order. -/
def names (table : Table α) : List String := table.entries.map (·.1)

/-- The values in the order of their names. -/
def values (table : Table α) : List α := table.entries.map (·.2)

def size (table : Table α) : Nat := table.entries.length

/-- Whether there is no entry. -/
def isEmpty (table : Table α) : Bool := table.entries.isEmpty

end Table

end TypedSearch
