import TypedSearch.Proofs.Definitions

/-!
Joins of definition tables. A join is made name by name, so tables can be joined in groups of any kind,
and whether two tables agree is seen name by name as well. A checked join is therefore the same from
both sides, down to the name that it reports, and of three tables any two may be joined first.
-/

namespace TypedSearch.Definitions

open Outcome

variable {left middle right joined : Definitions} {name : String} {problem : Problem}

section Slots

variable {first second third : Option Slot}

@[simp] theorem joinSlots_none (slot : Option Slot) : joinSlots slot none = slot := rfl

@[simp] theorem none_joinSlots (slot : Option Slot) : joinSlots none slot = slot := by
  rcases slot with _ | _ | type <;> rfl

theorem joinSlots_self (slot : Option Slot) : joinSlots slot slot = slot := by
  rcases slot with _ | _ | type <;> rfl

theorem joinSlots_assoc (first second third : Option Slot) :
    joinSlots (joinSlots first second) third = joinSlots first (joinSlots second third) := by
  -- Only a declaration looks at what is on its left.
  rcases third with _ | _ | type
  · rfl
  · rcases second with _ | _ | type
    · rfl
    · cases first <;> rfl
    · rfl
  · rfl

/-- It does not matter on which side a slot is unless both have different types. -/
theorem joinSlots_comm (agree : ∀ ours theirs, first = some (.defined ours) →
    second = some (.defined theirs) → ours = theirs) :
    joinSlots first second = joinSlots second first := by
  rcases first with _ | _ | ours
  · simp
  · rcases second with _ | _ | theirs <;> rfl
  · rcases second with _ | _ | theirs
    · rfl
    · rfl
    · rw [agree ours theirs rfl rfl]

end Slots

theorem merge_assoc (left middle right : Definitions) :
    (left.merge middle).merge right = left.merge (middle.merge right) := by
  refine ext_slots fun name => ?_
  simp only [slot_merge, joinSlots_assoc]

theorem merge_empty (table : Definitions) : table.merge .empty = table := rfl

theorem empty_merge (table : Definitions) : Definitions.empty.merge table = table := by
  refine ext_slots fun name => ?_
  rw [slot_merge]
  exact none_joinSlots _

theorem merge_self (table : Definitions) : table.merge table = table := by
  refine ext_slots fun name => ?_
  rw [slot_merge, joinSlots_self]

namespace Agree

theorem symm (agree : left.Agree right) : right.Agree left :=
  fun name ours theirs held given => (agree name theirs ours given held).symm

/-- Tables that agree can be joined from either side. -/
theorem merge_comm (agree : left.Agree right) : left.merge right = right.merge left := by
  refine ext_slots fun name => ?_
  rw [slot_merge, slot_merge]
  refine joinSlots_comm fun ours theirs held given => ?_
  exact agree name ours theirs (get?_eq_some.mpr held) (get?_eq_some.mpr given)

/-- A join of tables that agree agrees with what both of them agree with. -/
theorem merge_iff (agree : left.Agree middle) :
    (left.merge middle).Agree right ↔ left.Agree right ∧ middle.Agree right := by
  constructor
  · intro both
    constructor
    · intro name ours theirs held given
      refine both name ours theirs ?_ given
      rw [agree.merge_comm, get?_merge, held, Option.some_or]
    · intro name ours theirs held given
      refine both name ours theirs ?_ given
      rw [get?_merge, held, Option.some_or]
  · rintro ⟨first, second⟩ name ours theirs held given
    rw [get?_merge, Option.or_eq_some_iff] at held
    rcases held with held | ⟨-, held⟩
    · exact second name ours theirs held given
    · exact first name ours theirs held given

end Agree

/-- Two tables define a name differently. -/
def DifferAt (left right : Definitions) (name : String) : Prop :=
  ∃ ours theirs, left.get? name = some ours ∧ right.get? name = some theirs ∧ ours ≠ theirs

/-- The first of the names that two tables define differently. -/
structure FirstClash (left right : Definitions) (name : String) : Prop where
  differ : left.DifferAt right name
  first : ∀ other, other < name → ¬ left.DifferAt right other

theorem DifferAt.symm (differ : left.DifferAt right name) : right.DifferAt left name := by
  obtain ⟨ours, theirs, held, given, unequal⟩ := differ
  exact ⟨theirs, ours, given, held, unequal.symm⟩

theorem FirstClash.symm (clash : left.FirstClash right name) : right.FirstClash left name :=
  ⟨clash.differ.symm, fun other below differ => clash.first other below differ.symm⟩

theorem FirstClash.unique {other : String} (one : left.FirstClash right name)
    (two : left.FirstClash right other) : name = other := by
  have notBelow : ¬ name < other := fun below => two.first name below one.differ
  have notAbove : ¬ other < name := fun above => one.first other above two.differ
  exact String.le_antisymm (Std.not_lt.1 notAbove) (Std.not_lt.1 notBelow)

/-- What a checked join reports is the first clash. -/
theorem mergeChecked_reports (failed : left.mergeChecked right = .error problem) :
    ∃ name, left.FirstClash right name ∧ problem = .collision (.type name) := by
  unfold mergeChecked at failed
  split at failed
  next entry found =>
    cases failed
    obtain ⟨ours, theirs, held, given, differ⟩ :=
      (clashes_iff left entry).mp (List.find?_some found)
    have listed : right.slots.get? entry.1 = some (.defined theirs) :=
      Table.get?_eq_some_iff.mpr (given ▸ List.mem_of_find?_eq_some found)
    refine ⟨entry.1, ⟨⟨ours, theirs, held, get?_eq_some.mpr listed, differ⟩, ?_⟩, rfl⟩
    rintro other below ⟨mine, yours, own, beside, unequal⟩
    have member := Table.get?_eq_some_iff.mp (get?_eq_some.mp beside)
    have quiet := Table.find?_lowest right.slots.ascending found _ member below
    have clash := (clashes_iff left (other, .defined yours)).mpr ⟨mine, yours, own, rfl, unequal⟩
    exact Bool.false_ne_true (quiet.symm.trans clash)
  next => cases failed

theorem mergeChecked_eq_error :
    left.mergeChecked right = .error problem ↔
      ∃ name, left.FirstClash right name ∧ problem = .collision (.type name) := by
  refine ⟨mergeChecked_reports, ?_⟩
  rintro ⟨name, clash, rfl⟩
  cases ran : left.mergeChecked right with
  | ok joined =>
    obtain ⟨agree, -⟩ := mergeChecked_eq_ok.mp ran
    obtain ⟨ours, theirs, held, given, unequal⟩ := clash.differ
    exact absurd (agree name ours theirs held given) unequal
  | error problem =>
    obtain ⟨other, same, rfl⟩ := mergeChecked_reports ran
    rw [clash.unique same]

/-- A checked join is the same from both sides. -/
theorem mergeChecked_comm (left right : Definitions) :
    left.mergeChecked right = right.mergeChecked left := by
  cases ran : left.mergeChecked right with
  | ok joined =>
    obtain ⟨agree, rfl⟩ := mergeChecked_eq_ok.mp ran
    exact (mergeChecked_eq_ok.mpr ⟨agree.symm, agree.merge_comm.symm⟩).symm
  | error problem =>
    obtain ⟨name, clash, rfl⟩ := mergeChecked_eq_error.mp ran
    exact (mergeChecked_eq_error.mpr ⟨name, clash.symm, rfl⟩).symm

/-- Three tables are joined from the left exactly if every two of them agree. -/
theorem mergeChecked_left_eq_ok :
    (left.mergeChecked middle >>= fun both => both.mergeChecked right) = .ok joined ↔
      (left.Agree middle ∧ left.Agree right ∧ middle.Agree right) ∧
        left.merge (middle.merge right) = joined := by
  simp only [bind_eq_ok, mergeChecked_eq_ok]
  constructor
  · rintro ⟨_, ⟨agree, rfl⟩, both, rfl⟩
    exact ⟨⟨agree, agree.merge_iff.mp both⟩, (merge_assoc left middle right).symm⟩
  · rintro ⟨⟨agree, others⟩, rfl⟩
    exact ⟨_, ⟨agree, rfl⟩, agree.merge_iff.mpr others, merge_assoc left middle right⟩

/-- So it is from the right. -/
theorem mergeChecked_right_eq_ok :
    (middle.mergeChecked right >>= fun both => left.mergeChecked both) = .ok joined ↔
      (left.Agree middle ∧ left.Agree right ∧ middle.Agree right) ∧
        left.merge (middle.merge right) = joined := by
  simp only [bind_eq_ok, mergeChecked_eq_ok]
  constructor
  · rintro ⟨_, ⟨agree, rfl⟩, both, rfl⟩
    obtain ⟨first, second⟩ := agree.merge_iff.mp both.symm
    exact ⟨⟨first.symm, second.symm, agree⟩, rfl⟩
  · rintro ⟨⟨first, second, agree⟩, rfl⟩
    exact ⟨_, ⟨agree, rfl⟩, (agree.merge_iff.mpr ⟨first.symm, second.symm⟩).symm, rfl⟩

/-- Joins of tables, with declared names or without, can be grouped in any way; the empty table adds
nothing, and neither does a table joined to itself. A checked join is the same from both sides: it gives
one table, which is the join in either order, or it reports the first name that the two define
differently. Three tables are joined by checked joins from the left exactly if they are from the right,
and make the same table. -/
theorem union_order_independent (left middle right : Definitions) :
    (left.merge middle).merge right = left.merge (middle.merge right) ∧
    left.merge .empty = left ∧ Definitions.empty.merge left = left ∧ left.merge left = left ∧
    left.mergeChecked middle = middle.mergeChecked left ∧
    (∀ joined, left.mergeChecked middle = .ok joined →
      joined = left.merge middle ∧ joined = middle.merge left) ∧
    (∀ problem, left.mergeChecked middle = .error problem ↔
      ∃ name, left.FirstClash middle name ∧ problem = .collision (.type name)) ∧
    ∀ joined, (left.mergeChecked middle >>= fun both => both.mergeChecked right) = .ok joined ↔
      (middle.mergeChecked right >>= fun both => left.mergeChecked both) = .ok joined := by
  refine ⟨merge_assoc left middle right, merge_empty left, empty_merge left, merge_self left,
    mergeChecked_comm left middle, fun joined ran => ?_, fun problem => mergeChecked_eq_error,
    fun joined => ?_⟩
  · obtain ⟨agree, rfl⟩ := mergeChecked_eq_ok.mp ran
    exact ⟨rfl, agree.merge_comm⟩
  · rw [mergeChecked_left_eq_ok, mergeChecked_right_eq_ok]

end TypedSearch.Definitions
