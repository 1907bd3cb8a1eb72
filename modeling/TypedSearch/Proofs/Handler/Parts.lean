import TypedSearch.Handler.Record
import TypedSearch.Proofs.Outcome

/-!
The clauses of a record in terms of its parts. A client addresses a part by giving something other
than null under its name; the record's clauses are those of the parts that are addressed, and it is
refused exactly if one of them is.
-/

namespace TypedSearch.Handler

open Outcome

variable {entries : Json.Entries} {parts : List (Part Json (List Json))}

/-- The client gives something for a part, null apart. -/
def Addressed (entries : Json.Entries) (part : Part Json (List Json)) (params : Json) : Prop :=
  entries.lookup part.field.name = some params ∧ params ≠ .null

theorem addressed_unique {part : Part Json (List Json)} {params other : Json}
    (first : Addressed entries part params) (second : Addressed entries part other) :
    params = other :=
  Option.some.inj (first.1.symm.trans second.1)

theorem addressed_or_not (entries : Json.Entries) (part : Part Json (List Json)) :
    (∃ params, Addressed entries part params) ∨ ∀ params, ¬ Addressed entries part params := by
  rw [← not_exists]
  exact Classical.em _

/-- A part that is not addressed is passed over. -/
theorem partClauses_unaddressed {part : Part Json (List Json)}
    (not : ∀ params, ¬ Addressed entries part params) :
    partClauses entries (part :: parts) = partClauses entries parts := by
  rw [partClauses]
  split
  · rfl
  · rfl
  · rename_i params given found
    exact (not params ⟨found, fun null => given null⟩).elim

theorem partClauses_addressed {part : Part Json (List Json)} {params : Json}
    (addressed : Addressed entries part params) :
    partClauses entries (part :: parts) = do
      let clauses ← part.answer params
      return clauses.getD [] ++ (← partClauses entries parts) := by
  obtain ⟨found, given⟩ := addressed
  rw [partClauses, found]
  split
  · contradiction
  · rename_i null
    exact (given (Option.some.inj null)).elim
  · rename_i same
    cases same
    rfl

/-- The clauses of one part for the client's entries. -/
def partAnswer (entries : Json.Entries) (part : Part Json (List Json)) :
    Except Problem (List Json) :=
  match entries.lookup part.field.name with
  | none | some .null => .ok []
  | some params => (·.getD []) <$> part.answer params

theorem partAnswer_addressed {part : Part Json (List Json)} {params : Json}
    (addressed : Addressed entries part params) :
    partAnswer entries part = (·.getD []) <$> part.answer params := by
  obtain ⟨found, given⟩ := addressed
  rw [partAnswer, found]
  split
  · contradiction
  · rename_i null
    exact (given (Option.some.inj null)).elim
  · rename_i same
    cases same
    rfl

theorem partAnswer_unaddressed {part : Part Json (List Json)}
    (not : ∀ params, ¬ Addressed entries part params) : partAnswer entries part = .ok [] := by
  rw [partAnswer]
  split
  · rfl
  · rfl
  · rename_i params given found
    exact (not params ⟨found, fun null => given null⟩).elim

/-- The clauses of a record are those of its parts, one part after the other. -/
theorem partClauses_cons (part : Part Json (List Json)) :
    partClauses entries (part :: parts) =
      joined (partAnswer entries part) (partClauses entries parts) := by
  rcases addressed_or_not entries part with ⟨params, addressed⟩ | not
  · rw [partClauses_addressed addressed, partAnswer_addressed addressed]
    cases part.answer params <;> rfl
  · rw [partClauses_unaddressed not, partAnswer_unaddressed not, nil_joined]

/-- What a record answers depends on the entries through the answers of its parts. -/
theorem partClauses_congr {others : Json.Entries}
    (each : ∀ part ∈ parts, partAnswer entries part = partAnswer others part) :
    partClauses entries parts = partClauses others parts := by
  induction parts with
  | nil => rfl
  | cons part rest ih =>
    obtain ⟨first, later⟩ := List.forall_mem_cons.mp each
    rw [partClauses_cons, partClauses_cons, first, ih later]

/-- Whether a record answers, and what, depends on whether its parts do, and what. -/
theorem toOption_partClauses_congr {others : Json.Entries} (parts : List (Part Json (List Json)))
    (each : ∀ part ∈ parts,
      (partAnswer entries part).toOption = (partAnswer others part).toOption) :
    (partClauses entries parts).toOption = (partClauses others parts).toOption := by
  induction parts with
  | nil => rfl
  | cons part rest ih =>
    obtain ⟨first, later⟩ := List.forall_mem_cons.mp each
    rw [partClauses_cons, partClauses_cons, toOption_joined, toOption_joined, first, ih later]

/-- A record is refused if a part is that the client addresses. -/
theorem partClauses_fails_iff :
    Fails (partClauses entries parts) ↔
      ∃ part ∈ parts, ∃ params, Addressed entries part params ∧ Fails (part.answer params) := by
  induction parts with
  | nil => simp [partClauses]
  | cons part rest ih =>
    simp only [List.mem_cons, exists_eq_or_imp]
    rcases addressed_or_not entries part with ⟨params, addressed⟩ | not
    · have own : (∃ other, Addressed entries part other ∧ Fails (part.answer other)) ↔
          Fails (part.answer params) :=
        ⟨fun ⟨other, again, fails⟩ => addressed_unique again addressed ▸ fails,
          fun fails => ⟨params, addressed, fails⟩⟩
      rw [partClauses_addressed addressed, own, ← ih]
      exact fails_seq fun clauses _ => fails_return (clauses.getD [] ++ ·)
    · rw [partClauses_unaddressed not, ih]
      simp [not]

/-- The problem of a record is that of a part. -/
theorem partClauses_eq_error {problem : Problem}
    (failed : partClauses entries parts = .error problem) :
    ∃ part ∈ parts, ∃ params, Addressed entries part params ∧
      part.answer params = .error problem := by
  induction parts with
  | nil => cases failed
  | cons part rest ih =>
    simp only [List.mem_cons, exists_eq_or_imp]
    rcases addressed_or_not entries part with ⟨params, addressed⟩ | not
    · rw [partClauses_addressed addressed] at failed
      rcases bind_eq_error.mp failed with own | ⟨clauses, -, later⟩
      · exact .inl ⟨params, addressed, own⟩
      · rcases bind_eq_error.mp later with later | ⟨others, -, done⟩
        · exact .inr (ih later)
        · cases done
    · rw [partClauses_unaddressed not] at failed
      exact .inr (ih failed)

/-- The clauses of a record are those of the parts that the client addresses. -/
theorem mem_partClauses {clauses : List Json} {clause : Json}
    (ran : partClauses entries parts = .ok clauses) :
    clause ∈ clauses ↔ ∃ part ∈ parts, ∃ params, Addressed entries part params ∧
      ∃ found, part.answer params = .ok (some found) ∧ clause ∈ found := by
  induction parts generalizing clauses with
  | nil =>
    cases ran
    simp
  | cons part rest ih =>
    simp only [List.mem_cons, exists_eq_or_imp]
    rcases addressed_or_not entries part with ⟨params, addressed⟩ | not
    · rw [partClauses_addressed addressed] at ran
      obtain ⟨answer, answered, ran⟩ := bind_eq_ok.mp ran
      obtain ⟨others, ranRest, joined⟩ := bind_eq_ok.mp ran
      cases joined
      have own : clause ∈ answer.getD [] ↔ ∃ other, Addressed entries part other ∧
          ∃ found, part.answer other = .ok (some found) ∧ clause ∈ found := by
        constructor
        · intro member
          cases answer with
          | none => simp at member
          | some found => exact ⟨params, addressed, found, answered, member⟩
        · rintro ⟨other, again, found, same, member⟩
          cases addressed_unique again addressed
          cases answered.symm.trans same
          exact member
      rw [List.mem_append, own, ih ranRest]
    · rw [partClauses_unaddressed not] at ran
      rw [ih ran]
      simp [not]

end TypedSearch.Handler
