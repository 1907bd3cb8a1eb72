import TypedSearch.Definitions
import TypedSearch.Proofs.Outcome
import TypedSearch.Proofs.Table

/-!
What definition tables hold. A table is compared with a list of types that it is to hold, each under
its own name. Checked joins append the lists, so whatever is joined on the way to a finished table is
in it unchanged.
-/

namespace TypedSearch

open Outcome

/-- The type in a slot, if it has a shape. -/
def Slot.type? : Slot → Option NamedType
  | declared => none
  | defined type => some type

namespace Definitions

variable {table left right joined : Definitions} {type : NamedType} {name : String}
  {types others : List NamedType}

/-- A table holds exactly the types of a list, each under its name. -/
def Collects (table : Definitions) (types : List NamedType) : Prop :=
  ∀ name type, table.get? name = some type ↔ type ∈ types ∧ type.name = name

/-- What a table has under a name is a type of that name. -/
def Keyed (table : Definitions) : Prop :=
  ∀ name type, table.get? name = some type → type.name = name

theorem Collects.keyed (holds : table.Collects types) : table.Keyed :=
  fun name type found => ((holds name type).mp found).2

theorem get?_eq_bind (table : Definitions) (name : String) :
    table.get? name = (table.slots.get? name).bind Slot.type? := by
  unfold get?
  split
  next type found => simp [found, Slot.type?]
  next undefined =>
    cases found : table.slots.get? name with
    | none => rfl
    | some slot =>
      cases slot with
      | declared => rfl
      | defined type => exact (undefined type found).elim

/-- A type is found under a name exactly if it is in the slot of that name. -/
theorem get?_eq_some : table.get? name = some type ↔ table.slots.get? name = some (.defined type) := by
  rw [get?_eq_bind, Option.bind_eq_some_iff]
  constructor
  · rintro ⟨slot, found, shape⟩
    cases slot with
    | declared => cases shape
    | defined held =>
      cases shape
      exact found
  · intro found
    exact ⟨_, found, rfl⟩

/-- Tables are equal if their slots are. -/
theorem ext_slots (same : ∀ name, left.slots.get? name = right.slots.get? name) : left = right :=
  congrArg Definitions.mk (Table.ext_get? same)

theorem get?_insert (table : Definitions) (type : NamedType) (name : String) :
    (table.insert type).get? name = if name = type.name then some type else table.get? name := by
  simp only [get?_eq_bind, insert, Table.get?_insert]
  split <;> rfl

theorem collects_empty : empty.Collects [] := by
  intro name type
  simp [get?_eq_bind, empty]

/-- A type with a new name is added to what a table holds. -/
theorem collects_insert (first : table.Collects types)
    (fresh : ∀ other ∈ types, other.name ≠ type.name) :
    (table.insert type).Collects (types ++ [type]) := by
  intro name found
  rw [get?_insert]
  split
  next same =>
    subst same
    simp only [Option.some.injEq, List.mem_append, List.mem_singleton]
    constructor
    · rintro rfl
      exact ⟨.inr rfl, rfl⟩
    · rintro ⟨old | rfl, same⟩
      · exact (fresh found old same).elim
      · rfl
  next differ =>
    rw [first name found]
    simp only [List.mem_append, List.mem_singleton]
    constructor
    · rintro ⟨old, same⟩
      exact ⟨.inl old, same⟩
    · rintro ⟨old | rfl, same⟩
      · exact ⟨old, same⟩
      · exact (differ same.symm).elim

theorem collects_of (type : NamedType) : (of type).Collects [type] :=
  collects_insert collects_empty (by simp)

/-- What two slots of one name become in a join: a type on the right wins, and a declaration on the right
only fills a gap. -/
def joinSlots : (left right : Option Slot) → Option Slot
  | left, none => left
  | left, some .declared => left.or (some .declared)
  | _, some (.defined type) => some (.defined type)

private theorem slot_mergeSlot (slots : Table Slot) (entry : String × Slot) (name : String) :
    (mergeSlot slots entry).get? name =
      if name = entry.1 then joinSlots (slots.get? name) (some entry.2) else slots.get? name := by
  obtain ⟨key, slot⟩ := entry
  cases slot with
  | defined type => exact Table.get?_insert slots key name (.defined type)
  | declared =>
    cases held : slots.get? key with
    | some slot =>
      have kept : mergeSlot slots (key, .declared) = slots := by
        simp [mergeSlot, Table.contains, held]
      rw [kept]
      split
      next same => simp [same, held, joinSlots]
      next differ => rfl
    | none =>
      have filled : mergeSlot slots (key, .declared) = slots.insert key .declared := by
        simp [mergeSlot, Table.contains, held]
      rw [filled, Table.get?_insert]
      split
      next same => simp [same, held, joinSlots]
      next differ => rfl

private theorem slot_mergeSlots {entries : List (String × Slot)} (ordered : Ascending entries)
    (slots : Table Slot) (name : String) :
    (entries.foldl mergeSlot slots).get? name =
      joinSlots (slots.get? name) (entries.lookup name) := by
  induction entries generalizing slots with
  | nil => rfl
  | cons entry rest ih =>
    obtain ⟨before, tail⟩ := List.pairwise_cons.mp ordered
    obtain ⟨key, slot⟩ := entry
    rw [List.foldl_cons, ih tail, slot_mergeSlot]
    split
    next same =>
      subst same
      -- A name occurs once in the second table, so nothing after the entry overrides it.
      have once : rest.lookup name = none := by
        cases found : rest.lookup name with
        | none => rfl
        | some other =>
          exact absurd (before _ (Table.mem_of_lookup found)) (String.lt_irrefl _)
      rw [once, List.lookup_cons_self]
      rfl
    next differ => rw [Table.lookup_cons_ne differ]

/-- A join is made name by name. -/
theorem slot_merge (left right : Definitions) (name : String) :
    (left.merge right).slots.get? name =
      joinSlots (left.slots.get? name) (right.slots.get? name) :=
  slot_mergeSlots right.slots.ascending left.slots name

/-- In a join the second table wins. -/
theorem get?_merge (left right : Definitions) (name : String) :
    (left.merge right).get? name = (right.get? name).or (left.get? name) := by
  simp only [get?_eq_bind, slot_merge]
  cases right.slots.get? name with
  | none => rfl
  | some slot =>
    cases slot with
    | defined type => rfl
    | declared => cases left.slots.get? name <;> rfl

theorem clashes_iff (table : Definitions) (entry : String × Slot) :
    table.clashes entry = true ↔
      ∃ ours theirs, table.get? entry.1 = some ours ∧ entry.2 = .defined theirs ∧ ours ≠ theirs := by
  obtain ⟨key, slot⟩ := entry
  simp only [clashes, get?_eq_bind]
  cases table.slots.get? key with
  | none => simp
  | some held => cases held <;> cases slot <;> simp [Slot.type?]

/-- Two tables define no name differently. -/
def Agree (left right : Definitions) : Prop :=
  ∀ name ours theirs, left.get? name = some ours → right.get? name = some theirs → ours = theirs

/-- A checked join refuses names that the two tables define differently, and is a join otherwise. -/
theorem mergeChecked_eq_ok :
    left.mergeChecked right = .ok joined ↔ left.Agree right ∧ left.merge right = joined := by
  unfold mergeChecked
  split
  next entry found =>
    obtain ⟨ours, theirs, held, given, differ⟩ :=
      (clashes_iff left entry).mp (List.find?_some found)
    have listed : right.slots.get? entry.1 = some (.defined theirs) :=
      Table.get?_eq_some_iff.mpr (given ▸ List.mem_of_find?_eq_some found)
    refine iff_of_false nofun fun ⟨agree, _⟩ => differ ?_
    exact agree entry.1 ours theirs held (get?_eq_some.mpr listed)
  next unclashing =>
    rw [Except.ok.injEq]
    refine (and_iff_right ?_).symm
    intro name ours theirs held given
    refine Decidable.byContradiction fun differ => ?_
    have listed := Table.get?_eq_some_iff.mp (get?_eq_some.mp given)
    have clash := (clashes_iff left (name, .defined theirs)).mpr ⟨ours, theirs, held, rfl, differ⟩
    exact List.find?_eq_none.mp unclashing _ listed clash

/-- A checked join holds what both tables hold. -/
theorem collects_mergeChecked (ran : left.mergeChecked right = .ok joined)
    (first : left.Collects types) (second : right.Collects others) :
    joined.Collects (types ++ others) := by
  obtain ⟨agree, rfl⟩ := mergeChecked_eq_ok.mp ran
  intro name type
  rw [get?_merge, List.mem_append]
  cases theirs : right.get? name with
  | none =>
    rw [Option.none_or, first name type]
    constructor
    · rintro ⟨member, same⟩
      exact ⟨.inl member, same⟩
    · rintro ⟨member | member, same⟩
      · exact ⟨member, same⟩
      · cases theirs.symm.trans ((second name type).mpr ⟨member, same⟩)
  | some other =>
    rw [Option.some_or, Option.some.injEq]
    constructor
    · rintro rfl
      obtain ⟨member, same⟩ := (second name other).mp theirs
      exact ⟨.inr member, same⟩
    · rintro ⟨member | member, same⟩
      · exact (agree name type other ((first name type).mpr ⟨member, same⟩) theirs).symm
      · exact Option.some.inj (theirs.symm.trans ((second name type).mpr ⟨member, same⟩))

/-- A name is declared if the table does not have it, and is otherwise refused. -/
theorem declare_eq_ok {pending : Pending} :
    table.declare name = .ok (joined, pending) ↔
      table.slots.get? name = none ∧ joined = ⟨table.slots.insert name .declared⟩ ∧
        pending = ⟨name⟩ := by
  unfold declare
  split
  next taken =>
    refine iff_of_false nofun fun ⟨free, _⟩ => ?_
    simp [contains, Table.contains, free] at taken
  next free =>
    simp only [contains, Table.contains, Option.not_isSome_iff_eq_none] at free
    simp [free, eq_comm]

/-- Declaring a name changes nothing of what is defined. -/
theorem get?_declare {pending : Pending} (ran : table.declare name = .ok (joined, pending))
    (other : String) : joined.get? other = table.get? other := by
  obtain ⟨free, rfl, -⟩ := declare_eq_ok.mp ran
  rw [get?_eq_bind, get?_eq_bind, Table.get?_insert]
  split
  next same => rw [same, free]; rfl
  next differ => rfl

/-- Declaring a name changes nothing of what a table holds, and the name is new to it. -/
theorem collects_declare {pending : Pending} (ran : table.declare name = .ok (joined, pending))
    (first : table.Collects types) :
    joined.Collects types ∧ pending = ⟨name⟩ ∧ ∀ type ∈ types, type.name ≠ name := by
  obtain ⟨free, -, rfl⟩ := declare_eq_ok.mp ran
  refine ⟨fun other type => ?_, rfl, fun type member same => ?_⟩
  · rw [get?_declare ran, first other type]
  · have held := (first name type).mpr ⟨member, same⟩
    rw [get?_eq_bind, free] at held
    cases held

private theorem slotTypes_entries {entries : List (String × Slot)}
    (own : ∀ entry ∈ entries, ∀ type, entry.2 = .defined type → type.name = entry.1)
    (ran : entries.mapM slotType = .ok types) :
    entries = types.map fun type => (type.name, .defined type) := by
  induction entries generalizing types with
  | nil =>
    cases ran
    rfl
  | cons entry rest ih =>
    obtain ⟨key, slot⟩ := entry
    rw [List.mapM_cons] at ran
    obtain ⟨type, first, ran⟩ := bind_eq_ok.mp ran
    obtain ⟨later, ranRest, joined⟩ := bind_eq_ok.mp ran
    cases joined
    cases slot with
    | declared => cases first
    | defined given =>
      cases first
      have same : type.name = key := own _ List.mem_cons_self type rfl
      rw [List.map_cons, same,
        ← ih (fun entry member => own entry (List.mem_cons_of_mem _ member)) ranRest]

/-- A finished table has nothing but the listed types, each under its own name. -/
theorem finish_entries (ran : table.finish = .ok types) (keyed : table.Keyed) :
    table.slots.entries = types.map fun type => (type.name, .defined type) := by
  refine slotTypes_entries (fun entry member type shape => ?_) ran
  obtain ⟨key, slot⟩ := entry
  subst shape
  exact keyed key type (get?_eq_some.mpr (Table.get?_eq_some_iff.mpr member))

/-- The list of a finished table is in the strict order of the names. -/
theorem finish_ascending (ran : table.finish = .ok types) (keyed : table.Keyed) :
    types.Pairwise fun left right => left.name < right.name := by
  have ordered := table.slots.ascending
  rwa [finish_entries ran keyed, Ascending, List.pairwise_map] at ordered

/-- The list of a finished table has the types that the table holds. -/
theorem mem_finish (ran : table.finish = .ok types) (holds : table.Collects others) :
    type ∈ types ↔ type ∈ others := by
  have held : table.get? type.name = some type ↔ type ∈ others := by simp [holds type.name type]
  rw [← held, get?_eq_some, Table.get?_eq_some_iff, finish_entries ran holds.keyed, List.mem_map]
  constructor
  · intro member
    exact ⟨type, member, rfl⟩
  · rintro ⟨other, member, same⟩
    obtain ⟨-, rfl⟩ : other.name = type.name ∧ other = type := by simpa using same
    exact member

/-- In the list of a finished table the types are found under their names. -/
theorem finish_find? (ran : table.finish = .ok types) (holds : table.Collects others)
    (name : String) : types.find? (fun type => type.name = name) = table.get? name := by
  rw [get?_eq_bind, Table.get?, finish_entries ran holds.keyed]
  clear ran
  induction types with
  | nil => rfl
  | cons type rest ih =>
    by_cases wanted : type.name = name
    · simp [wanted, Slot.type?]
    · rw [List.find?_cons_of_neg (by simpa using wanted), List.map_cons,
        Table.lookup_cons_ne (Ne.symm wanted), ih]

/-- Types that a table holds differ in their names. -/
theorem Collects.apart {other : NamedType} (holds : table.Collects types) (one : type ∈ types)
    (two : other ∈ types) (same : type.name = other.name) : type = other := by
  have found := (holds other.name type).mpr ⟨one, same⟩
  have alike := (holds other.name other).mpr ⟨two, rfl⟩
  exact Option.some.inj (found.symm.trans alike)

/-- Tables can be joined unless they hold different types of one name. -/
theorem mergeChecked_succeeds (first : left.Collects types) (second : right.Collects others)
    (agree : ∀ type ∈ types, ∀ other ∈ others, type.name = other.name → type = other) :
    left.mergeChecked right = .ok (left.merge right) := by
  refine mergeChecked_eq_ok.mpr ⟨fun name ours theirs held given => ?_, rfl⟩
  obtain ⟨own, named⟩ := (first name ours).mp held
  obtain ⟨beside, same⟩ := (second name theirs).mp given
  exact agree ours own theirs beside (named.trans same.symm)

/-- Tables as they are put together: from single types, by checked joins, and by declaring a name that
is populated at once. -/
inductive Made : Definitions → Prop where
  | empty : Made empty
  | of (type : NamedType) : Made (of type)
  | joined {left right joined : Definitions} (first : Made left) (second : Made right)
      (ran : left.mergeChecked right = .ok joined) : Made joined
  | recursive {table declared : Definitions} {name : String} {pending : Pending} (body : TypeBody)
      (before : Made table) (ran : table.declare name = .ok (declared, pending)) :
      Made (pending.populate body declared)

/-- Every name of a table has its shape. -/
def Populated (table : Definitions) : Prop := ∀ name, table.slots.get? name ≠ some .declared

/-- Setting a type leaves only the other names to be looked at. -/
private theorem populated_insert {slots : Table Slot} {key : String} (type : NamedType)
    (others : ∀ name, name ≠ key → slots.get? name ≠ some .declared) :
    Populated ⟨slots.insert key (.defined type)⟩ := by
  intro name
  rw [Table.get?_insert]
  split
  next => exact nofun
  next differ => exact others name differ

theorem Populated.merge (first : left.Populated) (second : right.Populated) :
    (left.merge right).Populated := by
  intro name undefined
  rw [slot_merge] at undefined
  cases given : right.slots.get? name with
  | none => exact first name (by rwa [given] at undefined)
  | some slot =>
    cases slot with
    | declared => exact second name given
    | defined type =>
      rw [given] at undefined
      cases undefined

/-- A table has no name without a shape however it is put together. -/
theorem Made.populated (made : table.Made) : table.Populated := by
  induction made with
  | empty => exact fun name => nofun
  | of type => exact populated_insert type fun name _ => nofun
  | joined first second ran ihLeft ihRight =>
    obtain ⟨-, rfl⟩ := mergeChecked_eq_ok.mp ran
    exact ihLeft.merge ihRight
  | recursive body before ran ih =>
    obtain ⟨-, rfl, rfl⟩ := declare_eq_ok.mp ran
    refine populated_insert _ fun name differ => ?_
    rw [Table.get?_insert, if_neg differ]
    exact ih name

/-- A table can be finished exactly if every name has its shape. -/
theorem finish_succeeds_iff : (∃ types, table.finish = .ok types) ↔ table.Populated := by
  rw [← not_fails_iff, Definitions.finish, mapM_fails_iff]
  constructor
  · intro complete name undefined
    have listed := Table.get?_eq_some_iff.mp undefined
    exact complete ⟨_, listed, .undefinedType name, rfl⟩
  · rintro populated ⟨⟨name, slot⟩, listed, fails⟩
    cases slot with
    | declared => exact populated name (Table.get?_eq_some_iff.mpr listed)
    | defined type => exact not_fails_ok _ fails

theorem Made.finish (made : table.Made) : ∃ types, table.finish = .ok types :=
  finish_succeeds_iff.mpr made.populated

/-- A table still has the types that an earlier one had. -/
def Keeps (later earlier : Definitions) : Prop :=
  ∀ name type, earlier.get? name = some type → later.get? name = some type

theorem Keeps.refl (table : Definitions) : table.Keeps table := fun _ _ found => found

theorem Keeps.trans {later middle earlier : Definitions} (last : later.Keeps middle)
    (first : middle.Keeps earlier) : later.Keeps earlier :=
  fun name type found => last name type (first name type found)

/-- A checked join keeps what both tables have. -/
theorem keeps_mergeChecked (ran : left.mergeChecked right = .ok joined) :
    joined.Keeps left ∧ joined.Keeps right := by
  obtain ⟨agree, rfl⟩ := mergeChecked_eq_ok.mp ran
  refine ⟨fun name type held => ?_, fun name type given => ?_⟩
  · rw [get?_merge]
    cases given : right.get? name with
    | none => exact held
    | some other => rw [agree name type other held given, Option.some_or]
  · rw [get?_merge, given, Option.some_or]

/-- Joining a table without bare declarations whose types are all there changes nothing. -/
theorem mergeChecked_kept (populated : right.Populated) (kept : left.Keeps right) :
    left.mergeChecked right = .ok left := by
  refine mergeChecked_eq_ok.mpr ⟨fun name ours theirs held given => ?_, ext_slots fun name => ?_⟩
  · exact Option.some.inj (held.symm.trans (kept name theirs given))
  · rw [slot_merge]
    cases given : right.slots.get? name with
    | none => rfl
    | some slot =>
      cases slot with
      | declared => exact (populated name given).elim
      | defined type => exact (get?_eq_some.mp (kept name type (get?_eq_some.mpr given))).symm

end Definitions

end TypedSearch
