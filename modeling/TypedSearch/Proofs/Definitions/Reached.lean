import TypedSearch.Proofs.Definitions

/-!
Definition tables that are changed in place, as `insert`, `merge_checked`, `declare` and `populate`
change them. A program on a table changes it slot by slot and may stop on its way; a checked join looks
at every slot before it changes one, so a program that stops has changed nothing. What an operation
defines is added to what was defined before, each type under its own name, and so it stays in whatever
order operations follow each other.
-/

namespace TypedSearch

open Definitions Outcome

/-- A program on a table that it holds, which may stop with a problem and leave the table as it then
is. -/
abbrev InPlace (α : Type) := ExceptT Problem (StateM Definitions) α

namespace InPlace

/-- Refuses a slot that defines a name otherwise than the table does. -/
def checkSlot (entry : String × Slot) : InPlace Unit := do
  if (← get).clashes entry then throw (.collision (.type entry.1))

def joinSlot (entry : String × Slot) : InPlace Unit :=
  modify fun table => ⟨mergeSlot table.slots entry⟩

/-- Joins the slots of another table one after the other. -/
def merge (other : Definitions) : InPlace Unit := other.slots.entries.forM joinSlot

/-- Looks at all slots of another table before it joins the first one. -/
def mergeChecked (other : Definitions) : InPlace Unit := do
  other.slots.entries.forM checkSlot
  merge other

def declare (name : String) : InPlace Pending := do
  if (← get).contains name then throw (.collision (.type name))
  modify fun table => ⟨table.slots.insert name .declared⟩
  return ⟨name⟩

private theorem joinSlots_run (entries : List (String × Slot)) (table : Definitions) :
    (entries.forM joinSlot).run.run table = (.ok (), ⟨entries.foldl mergeSlot table.slots⟩) := by
  induction entries generalizing table with
  | nil => rfl
  | cons entry rest ih => exact ih ⟨mergeSlot table.slots entry⟩

theorem merge_run (table other : Definitions) :
    (merge other).run.run table = (.ok (), table.merge other) :=
  joinSlots_run other.slots.entries table

@[simp] theorem get_run (table : Definitions) :
    (get : InPlace Definitions).run.run table = (.ok table, table) := rfl

private theorem checkSlot_run (entry : String × Slot) (table : Definitions) :
    (checkSlot entry).run.run table =
      if table.clashes entry then (.error (.collision (.type entry.1)), table)
      else (.ok (), table) := by
  simp only [checkSlot, run_bind, get_run]
  split <;> rfl

private theorem checkSlots_run (entries : List (String × Slot)) (table : Definitions) :
    (entries.forM checkSlot).run.run table =
      match entries.find? table.clashes with
      | some entry => (.error (.collision (.type entry.1)), table)
      | none => (.ok (), table) := by
  induction entries with
  | nil => rfl
  | cons entry rest ih =>
    have first : (entry :: rest).forM checkSlot =
        (checkSlot entry >>= fun _ => rest.forM checkSlot) := rfl
    rw [first, run_bind, checkSlot_run, List.find?_cons]
    cases table.clashes entry with
    | true => rfl
    | false => exact ih

theorem mergeChecked_run (table other : Definitions) :
    (mergeChecked other).run.run table =
      match table.mergeChecked other with
      | .ok joined => (.ok (), joined)
      | .error problem => (.error problem, table) := by
  rw [mergeChecked, run_bind, checkSlots_run, Definitions.mergeChecked]
  cases other.slots.entries.find? table.clashes with
  | some entry => rfl
  | none => exact merge_run table other

theorem declare_run (name : String) (table : Definitions) :
    (declare name).run.run table =
      match table.declare name with
      | .ok (declared, pending) => (.ok pending, declared)
      | .error problem => (.error problem, table) := by
  simp only [declare, run_bind, get_run, Definitions.declare]
  cases table.contains name <;> rfl

end InPlace

/-- What can be done to a table. -/
inductive TableOperation where
  | insert (type : NamedType)
  | merge (other : Definitions)
  | mergeChecked (other : Definitions)
  | declare (name : String)
  | populate (pending : Pending) (body : TypeBody)
  /-- Registers a type beside the types that it needs. -/
  | includeSelf (type : NamedType)

namespace TableOperation

variable {operation : TableOperation} {table later : Definitions} {name : String} {type : NamedType}

/-- The table that an operation makes of another one, or why it makes none. -/
def outcome (table : Definitions) : TableOperation → Except Problem Definitions
  | insert type => .ok (table.insert type)
  | merge other => .ok (table.merge other)
  | mergeChecked other => table.mergeChecked other
  | declare name => (table.declare name).map (·.1)
  | populate pending body => .ok (pending.populate body table)
  | includeSelf type => .ok (Emitted.includeSelf ⟨type, table⟩).definitions

/-- What an operation does to the table that is held. -/
def program : TableOperation → InPlace Unit
  | insert type => modify fun table => table.insert type
  | merge other => InPlace.merge other
  | mergeChecked other => InPlace.mergeChecked other
  | declare name => do
    let _ ← InPlace.declare name
  | populate pending body => modify fun table => pending.populate body table
  | includeSelf type => modify fun table => (Emitted.includeSelf ⟨type, table⟩).definitions

/-- An operation in place leaves the table that it makes, or else the very table that it was given. -/
theorem program_run (operation : TableOperation) (table : Definitions) :
    operation.program.run.run table =
      match operation.outcome table with
      | .ok later => (.ok (), later)
      | .error problem => (.error problem, table) := by
  cases operation with
  | insert type => rfl
  | merge other => exact InPlace.merge_run table other
  | mergeChecked other => exact InPlace.mergeChecked_run table other
  | declare name =>
    rw [program, run_bind, InPlace.declare_run, outcome]
    cases table.declare name <;> rfl
  | populate pending body => rfl
  | includeSelf type => rfl

/-- The table that an operation joins to the one it is done to. -/
def operand? : TableOperation → Option Definitions
  | merge other | mergeChecked other => some other
  | insert _ | declare _ | populate _ _ | includeSelf _ => none

/-- The type that an operation puts under a name. -/
def gives? (name : String) : TableOperation → Option NamedType
  | insert type | includeSelf type => if name = type.name then some type else none
  | merge other | mergeChecked other => other.get? name
  | populate pending body => if name = pending.name then some ⟨pending.name, body⟩ else none
  | declare _ => none

/-- Under a name an operation leaves what it gives, and where it gives nothing what was there. -/
theorem get?_outcome (ran : operation.outcome table = .ok later) (name : String) :
    later.get? name = (operation.gives? name).or (table.get? name) := by
  have set (type : NamedType) : (table.insert type).get? name =
      (if name = type.name then some type else none).or (table.get? name) := by
    rw [get?_insert]
    split <;> rfl
  cases operation with
  | insert type =>
    cases ran
    exact set type
  | merge other =>
    cases ran
    exact get?_merge table other name
  | mergeChecked other =>
    obtain ⟨-, rfl⟩ := mergeChecked_eq_ok.mp ran
    exact get?_merge table other name
  | declare declared =>
    obtain ⟨⟨joined, pending⟩, done, rfl⟩ := map_eq_ok.mp ran
    exact get?_declare done name
  | populate pending body =>
    cases ran
    exact set ⟨pending.name, body⟩
  | includeSelf type =>
    cases ran
    exact set type

/-- What an operation gives has the name under which it is put. -/
theorem gives?_named (operands : ∀ other ∈ operation.operand?, other.Keyed)
    (given : operation.gives? name = some type) : type.name = name := by
  cases operation with
  | insert type | includeSelf type =>
    obtain ⟨same, own⟩ := Option.ite_none_right_eq_some.mp given
    cases own
    exact same.symm
  | merge other | mergeChecked other => exact operands other rfl name type given
  | declare declared => cases given
  | populate pending body =>
    obtain ⟨same, own⟩ := Option.ite_none_right_eq_some.mp given
    cases own
    exact same.symm

end TableOperation

namespace Definitions

variable {table : Definitions} {operations : List TableOperation}

/-- The table that is held once an operation has ended in one way or the other. -/
def perform (table : Definitions) (operation : TableOperation) : Definitions :=
  (operation.program.run.run table).2

/-- The table that is held after some operations, whichever of them fail. -/
def after (table : Definitions) (operations : List TableOperation) : Definitions :=
  operations.foldl perform table

/-- An operation that succeeds leaves its outcome, and one that fails the table as it was. -/
theorem perform_cases (table : Definitions) (operation : TableOperation) :
    operation.outcome table = .ok (table.perform operation) ∨ table.perform operation = table := by
  rw [perform, TableOperation.program_run]
  cases operation.outcome table with
  | ok later => exact .inl rfl
  | error problem => exact .inr rfl

/-- Tables that operations lead to from the empty one. The tables that they join are made in the same
way. -/
inductive Reached : Definitions → Prop where
  | empty : Reached empty
  | step {table : Definitions} (operation : TableOperation) (before : Reached table)
      (operands : ∀ other ∈ operation.operand?, Reached other) : Reached (table.perform operation)

theorem Reached.after (reached : Reached table)
    (operands : ∀ operation ∈ operations, ∀ other ∈ operation.operand?, Reached other) :
    Reached (table.after operations) := by
  induction operations generalizing table with
  | nil => exact reached
  | cons operation rest ih =>
    obtain ⟨own, others⟩ := List.forall_mem_cons.mp operands
    exact ih (.step operation reached own) others

theorem keyed_perform {operation : TableOperation} (keyed : table.Keyed)
    (operands : ∀ other ∈ operation.operand?, other.Keyed) : (table.perform operation).Keyed := by
  rcases perform_cases table operation with ran | unchanged
  · intro name type found
    rw [TableOperation.get?_outcome ran, Option.or_eq_some_iff] at found
    rcases found with given | ⟨-, held⟩
    · exact TableOperation.gives?_named operands given
    · exact keyed name type held
  · rwa [unchanged]

/-- Every table that is reached has its types under their names. -/
theorem Reached.keyed (reached : Reached table) : table.Keyed := by
  induction reached with
  | empty => exact collects_empty.keyed
  | step operation before operands ih ihOperands => exact keyed_perform ih ihOperands

/-- A name that is defined is defined after an operation. -/
theorem defined_perform {name : String} (operation : TableOperation)
    (defined : (table.get? name).isSome) : ((table.perform operation).get? name).isSome := by
  rcases perform_cases table operation with ran | unchanged
  · rw [TableOperation.get?_outcome ran, Option.isSome_or, defined, Bool.or_true]
  · rwa [unchanged]

/-- It is defined after any operations. -/
theorem defined_after {name : String} (operations : List TableOperation)
    (defined : (table.get? name).isSome) : ((table.after operations).get? name).isSome := by
  induction operations generalizing table with
  | nil => exact defined
  | cons operation rest ih => exact ih (defined_perform operation defined)

/-- In every table that operations lead to, the type in a slot has the name of the slot. An operation
that fails leaves the table exactly as it was, and what it makes otherwise is its outcome. Whatever
operations follow, a name that is defined stays so. The table can be finished exactly if no slot is
merely declared, and the list then has its names in strictly ascending order and holds exactly the
slots. -/
theorem reached_tables_well_formed (reached : Reached table) :
    (∀ name type, table.slots.get? name = some (.defined type) → type.name = name) ∧
    (∀ operation : TableOperation, operation.program.run.run table =
      match operation.outcome table with
      | .ok later => (.ok (), later)
      | .error problem => (.error problem, table)) ∧
    (∀ operations name, (table.get? name).isSome → ((table.after operations).get? name).isSome) ∧
    ((∃ types, table.finish = .ok types) ↔ ∀ name, table.slots.get? name ≠ some .declared) ∧
    ∀ types, table.finish = .ok types →
      types.Pairwise (fun left right => left.name < right.name) ∧
        table.slots.entries = types.map fun type => (type.name, .defined type) := by
  have keyed := reached.keyed
  refine ⟨fun name type found => keyed name type (get?_eq_some.mpr found),
    fun operation => operation.program_run table, fun operations name => defined_after operations,
    finish_succeeds_iff, fun types ran => ?_⟩
  exact ⟨finish_ascending ran keyed, finish_entries ran keyed⟩

/-- A type that refers to itself, and beside it one that is joined again with another shape while the
first is still only declared. -/
theorem node_table_well_formed :
    let filter : NamedType := ⟨"IntFilter", .inputObject [⟨"equals", .named Scalar.int⟩]⟩
    let other : NamedType := ⟨"IntFilter", .inputObject []⟩
    let node : NamedType := ⟨"Node", .inputObject [⟨"and", .list (.nonNull (.named "Node"))⟩]⟩
    let begun := Definitions.empty.after
      [.declare "Node", .mergeChecked (.of filter), .mergeChecked (.of other), .declare "Node"]
    let table := begun.after [.populate ⟨"Node"⟩ node.body]
    Reached begun ∧ (¬ ∃ types, begun.finish = .ok types) ∧
      (TableOperation.mergeChecked (.of other)).program.run.run begun =
        (.error (.collision (.type "IntFilter")), begun) ∧
      Reached table ∧ table.finish = .ok [filter, node] ∧
      table.slots.entries = [("IntFilter", .defined filter), ("Node", .defined node)] := by
  intro filter other node begun table
  have single (type : NamedType) : Reached (.of type) := .step (.insert type) .empty (by rintro _ ⟨⟩)
  have first : Reached begun := by
    refine Reached.empty.after ?_
    simp [TableOperation.operand?, single]
  have second : Reached table := by
    refine first.after ?_
    simp [TableOperation.operand?]
  obtain ⟨-, left, -, complete, -⟩ := reached_tables_well_formed first
  obtain ⟨-, -, -, -, finished⟩ := reached_tables_well_formed second
  have undefined : begun.slots.get? "Node" = some .declared := by decide +kernel
  have clash : (Definitions.of other).slots.entries.find? begun.clashes =
      some ("IntFilter", .defined other) := by decide +kernel
  have refused : begun.mergeChecked (.of other) = .error (.collision (.type "IntFilter")) := by
    rw [mergeChecked, clash]
  have done : table.finish = .ok [filter, node] := toOption_eq_some.mp (by decide +kernel)
  refine ⟨first, ?_, ?_, second, done, (finished _ done).2⟩
  · rw [complete]
    exact fun populated => populated "Node" undefined
  · rw [left, TableOperation.outcome, refused]

end Definitions

end TypedSearch
