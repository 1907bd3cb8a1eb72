import TypedSearch.Compile.Search
import TypedSearch.Proofs.Json.Value

/-!
Which orders are refused: those with a key that is, and then with the problem of such a key.
-/

namespace TypedSearch.Dataset

open Outcome

variable {dataset : Dataset} {registry : Registry}

/-- A key that gives something for a member has the clauses of the member. -/
theorem orderClauses_asked {key : String × Json} {member : Member} (asked : key.2 ≠ .null)
    (found : dataset.member? key.1 = some member) :
    dataset.orderClauses registry key =
      (member.sortClauses registry key.2).map (·.getD []) := by
  simp only [orderClauses, Json.isNull_eq_false asked, found]
  rfl

theorem orderClauses_null {key : String × Json} (null : key.2 = .null) :
    dataset.orderClauses registry key = .ok [] := by
  simp [orderClauses, null, Json.isNull]

/-- A key that is null or whose name leads nowhere has no clauses. -/
theorem orderClauses_unasked {key : String × Json}
    (unasked : key.2 = .null ∨ dataset.member? key.1 = none) :
    dataset.orderClauses registry key = .ok [] := by
  rcases unasked with null | unknown
  · exact orderClauses_null null
  · simp [orderClauses, unknown]

/-- What clauses a key has it has from the member that it gives something for. -/
theorem orderClauses_some_iff {key : String × Json} {clauses : List Json} (nonempty : clauses ≠ []) :
    dataset.orderClauses registry key = .ok clauses ↔
      key.2 ≠ .null ∧ ∃ member, dataset.member? key.1 = some member ∧
        member.sortClauses registry key.2 = .ok (some clauses) := by
  by_cases null : key.2 = .null
  · rw [orderClauses_unasked (.inl null)]
    simp [null, Ne.symm nonempty]
  cases found : dataset.member? key.1 with
  | none =>
    rw [orderClauses_unasked (.inr found)]
    simp [Ne.symm nonempty]
  | some member =>
    rw [orderClauses_asked null found, map_getD_eq_ok nonempty]
    simp [null]

theorem keys_fail_iff {keys : Json.Entries} :
    Fails (dataset.keysClauses registry keys) ↔
      ∃ key ∈ keys, Fails (dataset.orderClauses registry key) := by
  induction keys with
  | nil => simp [keysClauses]
  | cons key rest ih =>
    rw [keysClauses]
    exact fails_cons (fun clauses others => clauses ++ others) ih

theorem keysClauses_eq_error {keys : Json.Entries} {problem : Problem}
    (failed : dataset.keysClauses registry keys = .error problem) :
    ∃ key ∈ keys, dataset.orderClauses registry key = .error problem := by
  induction keys with
  | nil => cases failed
  | cons key rest ih =>
    rcases bind_eq_error.mp failed with first | ⟨clauses, -, later⟩
    · exact ⟨key, List.mem_cons_self, first⟩
    · rcases bind_eq_error.mp later with later | ⟨others, -, done⟩
      · obtain ⟨other, member, own⟩ := ih later
        exact ⟨other, List.mem_cons_of_mem _ member, own⟩
      · cases done

/-- The clauses of keys are those of each key. -/
theorem mem_keysClauses {keys : Json.Entries} {clauses : List Json} {clause : Json}
    (ran : dataset.keysClauses registry keys = .ok clauses) :
    clause ∈ clauses ↔ ∃ key ∈ keys, ∃ found,
      dataset.orderClauses registry key = .ok found ∧ clause ∈ found := by
  induction keys generalizing clauses with
  | nil =>
    cases ran
    simp
  | cons key rest ih =>
    rw [keysClauses] at ran
    obtain ⟨found, first, ran⟩ := bind_eq_ok.mp ran
    obtain ⟨others, ranRest, joined⟩ := bind_eq_ok.mp ran
    cases joined
    have own : (∃ other, dataset.orderClauses registry key = .ok other ∧ clause ∈ other) ↔
        clause ∈ found := by
      simp [first]
    simp only [List.mem_append, List.mem_cons, exists_eq_or_imp, own, ih ranRest]

section Whole

variable {orders : List Json.Entries} {clauses : List Json}
  (compiled : dataset.compileOrder registry orders = .ok clauses)

include compiled

/-- The clauses of an order list are those of the keys in its entries. -/
theorem mem_compileOrder {clause : Json} :
    clause ∈ clauses ↔ ∃ keys ∈ orders, ∃ key ∈ keys, ∃ found,
      dataset.orderClauses registry key = .ok found ∧ clause ∈ found := by
  rw [mem_keysClauses compiled]
  constructor
  · rintro ⟨key, flat, own⟩
    obtain ⟨keys, inside, listed⟩ := List.mem_flatten.mp flat
    exact ⟨keys, inside, key, listed, own⟩
  · rintro ⟨keys, inside, key, listed, own⟩
    exact ⟨key, List.mem_flatten.mpr ⟨keys, inside, listed⟩, own⟩

/-- Every key of an order list that compiles does so by itself. -/
theorem key_compiles {keys : Json.Entries} (inside : keys ∈ orders) {key : String × Json}
    (listed : key ∈ keys) : ∃ found, dataset.orderClauses registry key = .ok found := by
  rw [← not_fails_iff]
  intro fails
  have refused : Fails (dataset.compileOrder registry orders) :=
    keys_fail_iff.mpr ⟨key, List.mem_flatten.mpr ⟨keys, inside, listed⟩, fails⟩
  rw [compiled] at refused
  exact not_fails_ok _ refused

end Whole

end TypedSearch.Dataset
