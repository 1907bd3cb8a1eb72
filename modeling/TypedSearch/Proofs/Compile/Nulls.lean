import TypedSearch.Proofs.Catalog.Nulls
import TypedSearch.Proofs.Catalog.Requests
import TypedSearch.Proofs.Compile.Conjunction
import TypedSearch.Proofs.Request.Nulls

/-!
Null in filters. The decoder takes null under a key of a node for an absent part, the compiler
passes over conditions with null, and members take null for nothing at any depth. So wherever
null-valued entries are left out of a filter, arguments apart, it is decoded and compiled as before.
-/

namespace TypedSearch

open Json Outcome

variable {entries rest : Entries} {key : String} {value other : Json}

namespace Dataset

variable {dataset : Dataset}

theorem member?_scripted (scripted : dataset.IsScripted) {member : Member}
    (found : dataset.member? key = some member) : member.IsScripted := by
  rw [member?] at found
  cases computed : dataset.computed.get? key with
  | some field =>
    rw [computed] at found
    cases found
    exact scripted _ (Table.get?_eq_some_iff.mp computed)
  | none =>
    rw [computed] at found
    obtain ⟨field, -, rfl⟩ := Option.map_eq_some_iff.mp found
    trivial

/-- A null-valued entry is left out of conditions, or of what one of them asks of its member. -/
inductive ConditionsTrim (dataset : Dataset) : Entries → Entries → Prop where
  | null {key : String} {entries rest : Entries} (dropped : DropsNull key entries rest) :
      ConditionsTrim dataset entries rest
  | inside (before after : Entries) {key : String} {value other : Json} {member : Member}
      (found : dataset.member? key = some member) (trims : member.Trims value other) :
      ConditionsTrim dataset (before ++ (key, value) :: after) (before ++ (key, other) :: after)

theorem conditionsClauses_append (registry : Registry) (before after : Entries) :
    dataset.conditionsClauses registry (before ++ after) =
      joined (dataset.conditionsClauses registry before)
        (dataset.conditionsClauses registry after) := by
  induction before with
  | nil => rw [List.nil_append, conditionsClauses, nil_joined]
  | cons condition rest ih =>
    rw [List.cons_append, conditionsClauses, conditionsClauses, ih]
    exact (joined_assoc _ _ _).symm

theorem conditionsClauses_trims (scripted : dataset.IsScripted)
    (trims : dataset.ConditionsTrim entries rest) :
    dataset.conditionsClauses .standard entries = dataset.conditionsClauses .standard rest := by
  cases trims with
  | null dropped =>
    obtain ⟨before, after, -, -⟩ := dropped
    rw [conditionsClauses_append, conditionsClauses_append, conditionsClauses,
      conditionClauses_unasked (.inl rfl)]
    exact congrArg _ (nil_joined _)
  | @inside before after key value other member found trims =>
    obtain ⟨given, givenToo⟩ := trims.ne_null
    rw [conditionsClauses_append, conditionsClauses_append, conditionsClauses, conditionsClauses,
      conditionClauses_asked given found, conditionClauses_asked givenToo found,
      member.filterClauses_trims (member?_scripted scripted found) trims]

/-- Two nodes compile to the same part by part. -/
structure SameParts (dataset : Dataset) (one two : FilterNode) : Prop where
  cond : dataset.conditionsClauses .standard (one.cond.getD []) =
    dataset.conditionsClauses .standard (two.cond.getD [])
  all : dataset.compileAll .standard one.all = dataset.compileAll .standard two.all
  any : dataset.compileAny .standard one.any = dataset.compileAny .standard two.any

theorem SameParts.refl (node : FilterNode) : dataset.SameParts node node := ⟨rfl, rfl, rfl⟩

/-- Two nodes compile to the same query, or stop with the same problem. -/
def SameNode (dataset : Dataset) (one two : FilterNode) : Prop :=
  dataset.compileNode .standard one = dataset.compileNode .standard two

theorem SameParts.sameNode {one two : FilterNode} (same : dataset.SameParts one two) :
    dataset.SameNode one two := by
  obtain ⟨cond, all, any⟩ := one
  obtain ⟨otherCond, otherAll, otherAny⟩ := two
  obtain ⟨conditions, conjuncts, alternatives⟩ := same
  simp only [FilterNode.cond, FilterNode.all, FilterNode.any] at conditions conjuncts alternatives
  rw [SameNode, compileNode, compileNode, conditions, conjuncts, alternatives]

section Children

variable {nodes others : List FilterNode}

theorem compileConjuncts_congr (same : List.Forall₂ dataset.SameNode nodes others) :
    dataset.compileConjuncts .standard nodes = dataset.compileConjuncts .standard others := by
  induction same with
  | nil => rfl
  | cons first _ ih => rw [compileConjuncts, compileConjuncts, first, ih]

theorem compileAlternatives_congr (same : List.Forall₂ dataset.SameNode nodes others) :
    dataset.compileAlternatives .standard nodes = dataset.compileAlternatives .standard others := by
  induction same with
  | nil => rfl
  | cons first _ ih => rw [compileAlternatives, compileAlternatives, first, ih]

theorem compileAny_congr (same : List.Forall₂ dataset.SameNode nodes others) :
    dataset.compileAny .standard (some nodes) = dataset.compileAny .standard (some others) := by
  cases same with
  | nil => rfl
  | cons first later => rw [compileAny, compileAny, compileAlternatives_congr (.cons first later)]

end Children

/-- If one value is decoded as a node so is the other, and both nodes compile to the same. -/
def DecodesAlike (dataset : Dataset) (value other : Json) : Prop :=
  ∀ node, FilterNode.ofJson? value = .ok node →
    ∃ trimmed, FilterNode.ofJson? other = .ok trimmed ∧ dataset.SameNode node trimmed

/-- If one entry is read into a node so is the other, and the nodes keep compiling to the same. -/
def ReadsAlike (dataset : Dataset) (entry other : String × Json) : Prop :=
  ∀ one two, dataset.SameParts one two → ∀ next, one.readPart entry = .ok next →
    ∃ after, two.readPart other = .ok after ∧ dataset.SameParts next after

theorem readsAlike_conditions
    (alike : ∀ cond, value.toOption toEntries = .ok cond →
      ∃ trimmed, other.toOption toEntries = .ok trimmed ∧
        dataset.conditionsClauses .standard (cond.getD []) =
          dataset.conditionsClauses .standard (trimmed.getD [])) :
    dataset.ReadsAlike ("cond", value) ("cond", other) := by
  intro one two same next ran
  simp only [FilterNode.readPart, ↓reduceIte] at ran ⊢
  obtain ⟨cond, read, set⟩ := bind_eq_ok.mp ran
  cases set
  obtain ⟨trimmed, readToo, conditions⟩ := alike cond read
  exact ⟨⟨trimmed, two.all, two.any⟩, by rw [readToo]; rfl, ⟨conditions, same.all, same.any⟩⟩

theorem readsAlike_children (list : key = "and" ∨ key = "or")
    (alike : ∀ nodes, FilterNode.childrenOfJson? value = .ok nodes →
      ∃ trimmed, FilterNode.childrenOfJson? other = .ok trimmed ∧
        dataset.compileAll .standard nodes = dataset.compileAll .standard trimmed ∧
        dataset.compileAny .standard nodes = dataset.compileAny .standard trimmed) :
    dataset.ReadsAlike (key, value) (key, other) := by
  intro one two same next ran
  rcases list with rfl | rfl
  · simp only [FilterNode.readPart, String.reduceEq, ↓reduceIte] at ran ⊢
    obtain ⟨nodes, read, set⟩ := bind_eq_ok.mp ran
    cases set
    obtain ⟨trimmed, readToo, conjuncts, -⟩ := alike nodes read
    exact ⟨⟨two.cond, trimmed, two.any⟩, by rw [readToo]; rfl, ⟨same.cond, conjuncts, same.any⟩⟩
  · simp only [FilterNode.readPart, String.reduceEq, ↓reduceIte] at ran ⊢
    obtain ⟨nodes, read, set⟩ := bind_eq_ok.mp ran
    cases set
    obtain ⟨trimmed, readToo, -, alternatives⟩ := alike nodes read
    exact ⟨⟨two.cond, two.all, trimmed⟩, by rw [readToo]; rfl, ⟨same.cond, same.all, alternatives⟩⟩

theorem readsAlike_refl (entry : String × Json) : dataset.ReadsAlike entry entry := by
  obtain ⟨key, value⟩ := entry
  by_cases cond : key = "cond"
  · subst cond
    exact readsAlike_conditions fun cond read => ⟨cond, read, rfl⟩
  · by_cases list : key = "and" ∨ key = "or"
    · exact readsAlike_children list fun nodes read => ⟨nodes, read, rfl, rfl⟩
    · obtain ⟨all, any⟩ := not_or.mp list
      intro one two same next ran
      simp only [FilterNode.readPart, cond, all, any, ↓reduceIte] at ran
      cases ran

theorem run_readsAlike (alike : List.Forall₂ dataset.ReadsAlike entries rest)
    {one two final : FilterNode} (same : dataset.SameParts one two)
    (ran : entries.foldlM FilterNode.readPart one = .ok final) :
    ∃ trimmed, rest.foldlM FilterNode.readPart two = .ok trimmed ∧
      dataset.SameParts final trimmed := by
  induction alike generalizing one two with
  | nil =>
    cases ran
    exact ⟨two, rfl, same⟩
  | cons first _ ih =>
    obtain ⟨next, own, later⟩ := bind_eq_ok.mp ran
    obtain ⟨after, ownToo, sameNext⟩ := first one two same next own
    obtain ⟨trimmed, laterToo, sameFinal⟩ := ih sameNext later
    exact ⟨trimmed, by rw [List.foldlM_cons, ownToo]; exact laterToo, sameFinal⟩

/-- A node is decoded alike with another value under a key, if the entry is read alike. -/
theorem decodesAlike_replaced {node trimmed : Json}
    (alike : dataset.ReadsAlike (key, value) (key, other))
    (replaced : FilterNode.Replaced key value other node trimmed) :
    dataset.DecodesAlike node trimmed := by
  intro parsed read
  obtain ⟨entries, found, ran⟩ := FilterNode.ofJson?_eq_ok.mp read
  obtain ⟨before, after, rfl, foundToo⟩ := replaced.entriesOf? found
  have each : List.Forall₂ dataset.ReadsAlike (before ++ (key, value) :: after)
      (before ++ (key, other) :: after) :=
    List.rel_append (List.forall₂_same.mpr fun entry _ => readsAlike_refl entry)
      (.cons alike (List.forall₂_same.mpr fun entry _ => readsAlike_refl entry))
  obtain ⟨final, ranToo, same⟩ := run_readsAlike each (SameParts.refl _) ran
  exact ⟨final, FilterNode.ofJson?_eq_ok.mpr ⟨_, foundToo, ranToo⟩, same.sameNode⟩

theorem nodesOfJson?_alike {items others : List Json} {nodes : List FilterNode}
    (alike : List.Forall₂ dataset.DecodesAlike items others)
    (read : FilterNode.nodesOfJson? items = .ok nodes) :
    ∃ trimmed, FilterNode.nodesOfJson? others = .ok trimmed ∧
      List.Forall₂ dataset.SameNode nodes trimmed := by
  induction alike generalizing nodes with
  | nil =>
    cases read
    exact ⟨[], rfl, .nil⟩
  | cons first _ ih =>
    rw [FilterNode.nodesOfJson?] at read
    obtain ⟨node, own, read⟩ := bind_eq_ok.mp read
    obtain ⟨later, readLater, set⟩ := bind_eq_ok.mp read
    cases set
    obtain ⟨trimmed, ownToo, same⟩ := first node own
    obtain ⟨rest, laterToo, sameLater⟩ := ih readLater
    exact ⟨trimmed :: rest, by rw [FilterNode.nodesOfJson?, ownToo, laterToo]; rfl,
      .cons same sameLater⟩

/-- A null-valued entry is left out of a filter: out of one of its nodes, of the conditions of a
node, or of what a condition asks of a member. -/
inductive FilterTrims (dataset : Dataset) : Json → Json → Prop where
  | part {key : String} {entries rest : Entries} (known : key ∈ FilterNode.keys)
      (dropped : DropsNull key entries rest) : FilterTrims dataset (.object entries) (.object rest)
  | conditions {entries rest : Entries} {node trimmed : Json}
      (trims : dataset.ConditionsTrim entries rest)
      (replaced : FilterNode.Replaced "cond" (.object entries) (.object rest) node trimmed) :
      FilterTrims dataset node trimmed
  | child {key : String} {before after : List Json} {value other node trimmed : Json}
      (list : key = "and" ∨ key = "or") (inside : FilterTrims dataset value other)
      (replaced : FilterNode.Replaced key (.array (before ++ value :: after))
        (.array (before ++ other :: after)) node trimmed) :
      FilterTrims dataset node trimmed

/-- A filter with a null-valued entry is decoded and compiled as without it. -/
theorem FilterTrims.decodesAlike (scripted : dataset.IsScripted)
    (trims : dataset.FilterTrims value other) : dataset.DecodesAlike value other := by
  -- By where the null stands: in the node itself, in its conditions, or in one of its children.
  induction trims with
  | part known dropped =>
    intro node read
    obtain ⟨entries, found, ran⟩ := FilterNode.ofJson?_eq_ok.mp read
    cases found
    rw [FilterNode.run_dropped known dropped] at ran
    exact ⟨node, FilterNode.ofJson?_eq_ok.mpr ⟨_, rfl, ran⟩, rfl⟩
  | @conditions entries rest node trimmed trims replaced =>
    refine decodesAlike_replaced (readsAlike_conditions fun cond read => ?_) replaced
    cases read
    exact ⟨some rest, rfl, conditionsClauses_trims scripted trims⟩
  | @child key before after value other node trimmed list inside replaced ih =>
    refine decodesAlike_replaced (readsAlike_children list fun nodes read => ?_) replaced
    have self (item : Json) : dataset.DecodesAlike item item := fun node read => ⟨node, read, rfl⟩
    have each : List.Forall₂ dataset.DecodesAlike (before ++ value :: after)
        (before ++ other :: after) :=
      List.rel_append (List.forall₂_same.mpr fun item _ => self item)
        (.cons ih (List.forall₂_same.mpr fun item _ => self item))
    rw [FilterNode.childrenOfJson?] at read
    obtain ⟨children, own, set⟩ := bind_eq_ok.mp read
    cases set
    obtain ⟨rest, ownToo, same⟩ := nodesOfJson?_alike each own
    refine ⟨some rest, by rw [FilterNode.childrenOfJson?, ownToo]; rfl, ?_, compileAny_congr same⟩
    rw [compileAll, compileAll, compileConjuncts_congr same]

/-- Any number of null-valued entries may be left out of a filter on a dataset of stored and
scripted fields, arguments of scripts apart: it is still decoded, and compiled to the same query or
refused with the same problem. -/
theorem compileFilter_trims (scripted : dataset.IsScripted)
    (trims : Relation.ReflTransGen dataset.FilterTrims value other) {node : FilterNode}
    (read : FilterNode.ofJson? value = .ok node) :
    ∃ trimmed, FilterNode.ofJson? other = .ok trimmed ∧
      dataset.compileFilter .standard (some trimmed) =
        dataset.compileFilter .standard (some node) := by
  induction trims with
  | refl => exact ⟨node, read, rfl⟩
  | tail _ step ih =>
    obtain ⟨middle, readMiddle, compiled⟩ := ih
    obtain ⟨trimmed, readLast, same⟩ := step.decodesAlike scripted middle readMiddle
    exact ⟨trimmed, readLast, by rw [← compiled, compileFilter, compileFilter, same]⟩

/-- Nulls are left out of a term filter, a record, a wrapper and a node, and the query stays. -/
theorem people_filter_trims :
    let wrapper : Entries := [("arguments", .single "age" (.ofInt 3))]
    let asked (distance home age : Entries) : Entries :=
      [("distance", .object distance), ("home", .object home), ("age", .object age)]
    let bound : Entries := [("lessThan", .ofInt 5)]
    let value : Json := .object [("or", .null), ("cond", .object
      (asked (wrapper ++ [("filter", .null)]) [("city", .null)] (("equals", .null) :: bound)))]
    let trimmed : Json := .single "cond" (.object (asked wrapper [] bound))
    ∃ node other, FilterNode.ofJson? value = .ok node ∧ FilterNode.ofJson? trimmed = .ok other ∧
      peopleDataset.compileFilter .standard (some node) =
        .ok (Clause.conjunction [Clause.range "age" "lt" (.ofInt 5)]) ∧
      peopleDataset.compileFilter .standard (some other) =
        .ok (Clause.conjunction [Clause.range "age" "lt" (.ofInt 5)]) := by
  intro wrapper asked bound value trimmed
  have scripted : peopleDataset.IsScripted :=
    peopleCatalog_scripted ("people", peopleDataset) (List.mem_singleton.mpr rfl)
  have step {entries rest : Entries} (trims : peopleDataset.ConditionsTrim entries rest) :
      peopleDataset.FilterTrims (.single "cond" (.object entries))
        (.single "cond" (.object rest)) :=
    .conditions trims (.entry [] [])
  have ofNode : peopleDataset.FilterTrims value (.single "cond" (.object
      (asked (wrapper ++ [("filter", .null)]) [("city", .null)] (("equals", .null) :: bound)))) :=
    .part (by decide : "or" ∈ FilterNode.keys) (.of [] [_] (by decide) (by decide))
  have distance : peopleDataset.member? "distance" = some (.computed "distance" _) := rfl
  have ofWrapper (home age : Entries) : peopleDataset.ConditionsTrim
      (asked (wrapper ++ [("filter", .null)]) home age) (asked wrapper home age) :=
    .inside [] _ distance (ComputedField.Trims.beside rfl (.of wrapper [] (by decide) (by decide)))
  have home : peopleDataset.member? "home" = some (.stored ⟨"home", .record _⟩) := rfl
  have ofRecord (distance age : Entries) : peopleDataset.ConditionsTrim
      (asked distance [("city", .null)] age) (asked distance [] age) :=
    .inside [_] _ home (SchemaType.Trims.record (.of [] [] (by decide) (by decide)))
  have age : peopleDataset.member? "age" = some (.stored ⟨"age", .primitive .int⟩) := rfl
  have ofTerm (distance home : Entries) : peopleDataset.ConditionsTrim
      (asked distance home (("equals", .null) :: bound)) (asked distance home bound) :=
    .inside [_, _] [] age (SchemaType.Trims.term (rfl : _ = some TermKind.int) (by decide)
      (.of [] bound (by decide) (by decide)))
  have trims : Relation.ReflTransGen peopleDataset.FilterTrims value trimmed :=
    .head ofNode (.head (step (ofWrapper _ _)) (.head (step (ofRecord _ _))
      (.single (step (ofTerm _ _)))))
  obtain ⟨other, read, same⟩ := compileFilter_trims scripted trims rfl
  exact ⟨_, other, rfl, read, rfl, same.trans rfl⟩

end Dataset

end TypedSearch
