import TypedSearch.Problem

/-!
Steps that may fail, one after the other. A sequence succeeds exactly when its first step does and the
rest succeeds on what it gave, and it fails with the first error on the way.
-/

namespace TypedSearch.Outcome

variable {ε α β : Type}

theorem bind_eq_ok {step : Except ε α} {next : α → Except ε β} {result : β} :
    (step >>= next) = .ok result ↔ ∃ value, step = .ok value ∧ next value = .ok result := by
  cases step with
  | error problem => simp [bind, Except.bind]
  | ok value => simp [bind, Except.bind]

theorem bind_eq_error {step : Except ε α} {next : α → Except ε β} {problem : ε} :
    (step >>= next) = .error problem ↔
      step = .error problem ∨ ∃ value, step = .ok value ∧ next value = .error problem := by
  cases step with
  | error other => simp [bind, Except.bind]
  | ok value => simp [bind, Except.bind]

@[simp] theorem ok_bind (value : α) (next : α → Except ε β) :
    (Except.ok value >>= next) = next value := rfl

@[simp] theorem error_bind (problem : ε) (next : α → Except ε β) :
    (Except.error problem >>= next) = .error problem := rfl

@[simp] theorem pure_eq_ok (value : α) : (pure value : Except ε α) = .ok value := rfl

@[simp] theorem throw_eq_error (problem : ε) : (throw problem : Except ε α) = .error problem := rfl

@[simp] theorem map_ok (change : α → β) (value : α) :
    change <$> (Except.ok value : Except ε α) = .ok (change value) := rfl

@[simp] theorem map_error (change : α → β) (problem : ε) :
    change <$> (Except.error problem : Except ε α) = .error problem := rfl

/-- A step ends in an error. -/
def Fails (step : Except ε α) : Prop := ∃ problem, step = .error problem

instance (step : Except ε α) : Decidable (Fails step) :=
  match step with
  | .error problem => isTrue ⟨problem, rfl⟩
  | .ok _ => isFalse nofun

theorem fails_or_ok (step : Except ε α) : Fails step ∨ ∃ value, step = .ok value := by
  cases step with
  | error problem => exact .inl ⟨problem, rfl⟩
  | ok value => exact .inr ⟨value, rfl⟩

@[simp] theorem not_fails_ok (value : α) : ¬ Fails (Except.ok value : Except ε α) := by
  rintro ⟨problem, impossible⟩
  cases impossible

theorem not_fails_iff {step : Except ε α} : ¬ Fails step ↔ ∃ value, step = .ok value := by
  constructor
  · exact (fails_or_ok step).resolve_left
  · rintro ⟨value, rfl⟩
    exact not_fails_ok value

@[simp] theorem fails_map {step : Except ε α} (change : α → β) :
    Fails (step.map change) ↔ Fails step := by
  cases step with
  | error problem => simp [Fails, Except.map]
  | ok value => simp [Except.map]

theorem map_eq_ok {step : Except ε α} {change : α → β} {result : β} :
    step.map change = .ok result ↔ ∃ value, step = .ok value ∧ change value = result := by
  cases step with
  | error problem => simp [Except.map]
  | ok value => simp [Except.map]

theorem map_eq_error {step : Except ε α} {change : α → β} {problem : ε} :
    step.map change = .error problem ↔ step = .error problem := by
  cases step with
  | error other => simp [Except.map]
  | ok value => simp [Except.map]

section Failure

variable {δ : Type} {step : Except ε α} {change : ε → δ}

theorem mapError_eq_ok {value : α} : step.mapError change = .ok value ↔ step = .ok value := by
  cases step with
  | ok answer =>
    constructor
    · rintro ⟨⟩
      rfl
    · rintro ⟨⟩
      rfl
  | error problem => exact iff_of_false nofun nofun

theorem mapError_eq_error {failure : δ} :
    step.mapError change = .error failure ↔
      ∃ problem, step = .error problem ∧ change problem = failure := by
  cases step with
  | ok answer =>
    refine iff_of_false nofun ?_
    rintro ⟨problem, impossible, -⟩
    cases impossible
  | error problem =>
    constructor
    · intro same
      exact ⟨problem, rfl, Except.error.inj same⟩
    · rintro ⟨_, ⟨⟩, rfl⟩
      rfl

end Failure

section Success

theorem toOption_eq_some {step : Except ε α} {value : α} :
    step.toOption = some value ↔ step = .ok value := by
  cases step <;> simp [Except.toOption]

theorem fails_iff_toOption {step : Except ε α} : Fails step ↔ step.toOption = none := by
  cases step <;> simp [Fails, Except.toOption]

theorem toOption_bind (step : Except ε α) (next : α → Except ε β) :
    (step >>= next).toOption = step.toOption.bind fun value => (next value).toOption := by
  cases step <;> rfl

theorem toOption_map (step : Except ε α) (change : α → β) :
    (step.map change).toOption = step.toOption.map change := by
  cases step <;> rfl

end Success

/-- Where no answer counts as none at all, something was answered just if it was given. -/
theorem map_getD_eq_ok {step : Except ε (Option (List α))} {items : List α}
    (nonempty : items ≠ []) : step.map (·.getD []) = .ok items ↔ step = .ok (some items) := by
  rw [map_eq_ok]
  constructor
  · rintro ⟨answer, ran, rfl⟩
    cases answer with
    | none => exact (nonempty rfl).elim
    | some given => exact ran
  · intro ran
    exact ⟨_, ran, rfl⟩

/-- A sequence fails with either of its parts, if what the first part gives has no influence on
whether the second one fails. -/
theorem fails_seq {step : Except ε α} {next : α → Except ε β} {later : Prop}
    (rest : ∀ value, step = .ok value → (Fails (next value) ↔ later)) :
    Fails (step >>= next) ↔ Fails step ∨ later := by
  cases step with
  | error problem => simp [Fails]
  | ok value => simpa using rest value rfl

/-- Only the step can fail if its value is merely put in some form afterwards. -/
theorem fails_return {step : Except ε α} (form : α → β) :
    Fails (do return form (← step)) ↔ Fails step := by
  cases step with
  | error problem => simp [Fails]
  | ok value => simp

/-- A recursion down a list that joins what the items give fails exactly if an item does. -/
theorem fails_cons {γ δ : Type} {step : α → Except ε β} (join : β → γ → δ) {head : α} {tail : List α}
    {rest : Except ε γ} (later : Fails rest ↔ ∃ item ∈ tail, Fails (step item)) :
    Fails (do
      let value ← step head
      return join value (← rest)) ↔ ∃ item ∈ head :: tail, Fails (step item) := by
  rw [fails_seq fun value _ => fails_return (join value), later]
  simp only [List.mem_cons, exists_eq_or_imp]

/-- A fold over steps that all succeed, whatever came before, succeeds. -/
theorem foldlM_ok {step : β → α → Except ε β} {items : List α}
    (each : ∀ item ∈ items, ∀ state, ∃ next, step state item = .ok next) (state : β) :
    ∃ final, items.foldlM step state = .ok final := by
  induction items generalizing state with
  | nil => exact ⟨state, rfl⟩
  | cons item rest ih =>
    obtain ⟨first, others⟩ := List.forall_mem_cons.mp each
    obtain ⟨next, ran⟩ := first state
    obtain ⟨final, ranRest⟩ := ih others next
    exact ⟨final, by rw [List.foldlM_cons, ran, ok_bind, ranRest]⟩

theorem forM_eq_ok {items : List α} {step : α → Except ε Unit} :
    items.forM step = .ok () ↔ ∀ item ∈ items, step item = .ok () := by
  induction items with
  | nil => exact iff_of_true rfl (by simp)
  | cons item rest ih =>
    rw [List.forall_mem_cons, ← ih]
    constructor
    · intro ran
      obtain ⟨⟨⟩, first, others⟩ := bind_eq_ok.mp ran
      exact ⟨first, others⟩
    · rintro ⟨first, others⟩
      exact bind_eq_ok.mpr ⟨(), first, others⟩

/-- A step over all items stops with the problem of one of them. -/
theorem forM_eq_error {items : List α} {step : α → Except ε Unit} {problem : ε}
    (failed : items.forM step = .error problem) : ∃ item ∈ items, step item = .error problem := by
  induction items with
  | nil => cases failed
  | cons item rest ih =>
    rcases bind_eq_error.mp failed with own | ⟨_, -, later⟩
    · exact ⟨item, List.mem_cons_self, own⟩
    · obtain ⟨other, member, own⟩ := ih later
      exact ⟨other, List.mem_cons_of_mem _ member, own⟩

/-- So does a step that gives a value for every item. -/
theorem mapM_eq_error {step : α → Except ε β} {items : List α} {problem : ε}
    (failed : items.mapM step = .error problem) : ∃ item ∈ items, step item = .error problem := by
  induction items with
  | nil => cases failed
  | cons item rest ih =>
    rw [List.mapM_cons] at failed
    rcases bind_eq_error.mp failed with own | ⟨value, -, later⟩
    · exact ⟨item, List.mem_cons_self, own⟩
    · rcases bind_eq_error.mp later with later | ⟨values, -, done⟩
      · obtain ⟨other, member, own⟩ := ih later
        exact ⟨other, List.mem_cons_of_mem _ member, own⟩
      · cases done

theorem mapM_fails_iff {step : α → Except ε β} {items : List α} :
    Fails (items.mapM step) ↔ ∃ item ∈ items, Fails (step item) := by
  induction items with
  | nil => simp
  | cons item rest ih =>
    rw [List.mapM_cons]
    exact fails_cons (fun value values => value :: values) ih

section Filtering

variable {step : α → Except ε Bool} {items : List α} {problem : ε}

private theorem filterAuxM_eq_error {kept : List α}
    (failed : items.filterAuxM step kept = .error problem) :
    ∃ item ∈ items, step item = .error problem := by
  induction items generalizing kept with
  | nil => cases failed
  | cons item rest ih =>
    rcases bind_eq_error.mp failed with own | ⟨keeps, -, later⟩
    · exact ⟨item, List.mem_cons_self, own⟩
    · obtain ⟨other, member, own⟩ := ih later
      exact ⟨other, List.mem_cons_of_mem _ member, own⟩

private theorem filterAuxM_fails_iff {kept : List α} :
    Fails (items.filterAuxM step kept) ↔ ∃ item ∈ items, Fails (step item) := by
  induction items generalizing kept with
  | nil => simp [List.filterAuxM]
  | cons item rest ih =>
    rw [List.filterAuxM, fails_seq fun keeps _ => ih]
    simp only [List.mem_cons, exists_eq_or_imp]

/-- Filtering stops with the problem that testing an item has. -/
theorem filterM_eq_error (failed : items.filterM step = .error problem) :
    ∃ item ∈ items, step item = .error problem := by
  rcases bind_eq_error.mp failed with failed | ⟨kept, -, done⟩
  · exact filterAuxM_eq_error failed
  · cases done

/-- Filtering tests every item. -/
theorem filterM_fails_iff : Fails (items.filterM step) ↔ ∃ item ∈ items, Fails (step item) := by
  rw [List.filterM, fails_return List.reverse]
  exact filterAuxM_fails_iff

end Filtering

section Programs

variable {σ : Type} {first : ExceptT ε (StateM σ) α} {next : α → ExceptT ε (StateM σ) β}
  {state left : σ}

/-- A program goes on with the value and the state that its first part leaves, or it ends as that. -/
theorem run_bind (first : ExceptT ε (StateM σ) α) (next : α → ExceptT ε (StateM σ) β) (state : σ) :
    (first >>= next).run.run state =
      match first.run.run state with
      | (.ok value, left) => (next value).run.run left
      | (.error problem, left) => (.error problem, left) := by
  have given : (first >>= next).run.run state =
      ExceptT.bindCont next (first.run.run state).1 (first.run.run state).2 := rfl
  rw [given]
  rcases first.run.run state with ⟨problem | value, left⟩ <;> rfl

theorem run_bind_ok {value : α} (ran : first.run.run state = (.ok value, left)) :
    (first >>= next).run.run state = (next value).run.run left := by
  rw [run_bind, ran]

theorem run_bind_error {problem : ε} (ran : first.run.run state = (.error problem, left)) :
    (first >>= next).run.run state = (.error problem, left) := by
  rw [run_bind, ran]

/-- A program of which the value is put in some form leaves the same state. -/
theorem run_return {outcome : Except ε α} (form : α → β)
    (ran : first.run.run state = (outcome, left)) :
    (do return form (← first)).run.run state = (form <$> outcome, left) := by
  cases outcome with
  | error problem => exact run_bind_error ran
  | ok value => exact run_bind_ok ran

end Programs

/-- The second step has the outcome of the first, unless it stops with one of certain problems. -/
def SameUnless (stop : ε → Prop) (first second : Except ε α) : Prop :=
  second = first ∨ ∃ problem, stop problem ∧ second = .error problem

section Agreement

variable {stop : ε → Prop} {step other : Except ε α} {next after : α → Except ε β}

theorem SameUnless.refl (step : Except ε α) : SameUnless stop step step := .inl rfl

/-- Sequences agree if their parts do. -/
theorem SameUnless.bind (first : SameUnless stop step other)
    (rest : ∀ value, SameUnless stop (next value) (after value)) :
    SameUnless stop (step >>= next) (other >>= after) := by
  rcases first with rfl | ⟨problem, stops, rfl⟩
  · cases other with
    | error problem => exact .inl rfl
    | ok value => exact rest value
  · exact .inr ⟨problem, stops, rfl⟩

end Agreement

/-- The items of two steps, those of the first one before those of the second. -/
def joined (first second : Except ε (List α)) : Except ε (List α) := do
  let items ← first
  return items ++ (← second)

section Joined

variable (first second third : Except ε (List α))

theorem joined_assoc : joined (joined first second) third = joined first (joined second third) := by
  cases first with
  | error problem => rfl
  | ok items =>
    cases second with
    | error problem => rfl
    | ok more =>
      cases third with
      | error problem => rfl
      | ok last => simp [joined, List.append_assoc]

@[simp] theorem nil_joined : joined (.ok []) first = first := by
  cases first <;> rfl

@[simp] theorem joined_nil : joined first (.ok []) = first := by
  cases first with
  | error problem => rfl
  | ok items => simp [joined]

theorem toOption_joined : (joined first second).toOption =
    first.toOption.bind fun items => second.toOption.map fun more => items ++ more := by
  cases first with
  | error problem => rfl
  | ok items => cases second <;> rfl

variable {first second} in
theorem joined_eq_ok {items : List α} :
    joined first second = .ok items ↔
      ∃ before after, first = .ok before ∧ second = .ok after ∧ before ++ after = items := by
  simp only [joined, bind_eq_ok, pure_eq_ok, Except.ok.injEq, exists_and_left]

end Joined

/-- Two steps stop with the same error or give related values. -/
inductive Alike (related : α → β → Prop) : Except ε α → Except ε β → Prop where
  | error (problem : ε) : Alike related (.error problem) (.error problem)
  | ok {left : α} {right : β} (same : related left right) : Alike related (.ok left) (.ok right)

section Alike

variable {γ δ : Type} {related : α → β → Prop} {step : Except ε α} {other : Except ε β}

/-- Sequences end alike if their parts do. -/
theorem Alike.bind {after : γ → δ → Prop} {next : α → Except ε γ} {later : β → Except ε δ}
    (first : Alike related step other)
    (rest : ∀ left right, related left right → Alike after (next left) (later right)) :
    Alike after (step >>= next) (other >>= later) := by
  cases first with
  | error problem => exact .error problem
  | ok same => exact rest _ _ same

/-- A step that ends like one that succeeds succeeds. -/
theorem Alike.exists_left {right : β} (alike : Alike related step (.ok right)) :
    ∃ left, step = .ok left ∧ related left right := by
  cases alike with
  | ok same => exact ⟨_, rfl, same⟩

theorem Alike.exists_right {left : α} (alike : Alike related (.ok left) other) :
    ∃ right, other = .ok right ∧ related left right := by
  cases alike with
  | ok same => exact ⟨_, rfl, same⟩

theorem Alike.eq_error {problem : ε} (alike : Alike related (.error problem) other) :
    other = .error problem := by
  cases alike
  rfl

/-- Steps that end alike are followed by the same, if what follows related values is. -/
theorem Alike.bind_eq {next : α → Except ε γ} {later : β → Except ε γ}
    (alike : Alike related step other)
    (same : ∀ left right, related left right → next left = later right) :
    (step >>= next) = (other >>= later) := by
  cases alike with
  | error problem => rfl
  | ok values => exact same _ _ values

/-- Values that are related are still so, in another way, after both have been changed. -/
theorem Alike.map {after : γ → δ → Prop} {change : α → γ} {form : β → δ}
    (alike : Alike related step other)
    (same : ∀ left right, related left right → after (change left) (form right)) :
    Alike after (change <$> step) (form <$> other) := by
  cases alike with
  | error problem => exact .error problem
  | ok values => exact .ok (same _ _ values)

theorem Alike.eq {equal : α → α → Prop} {one two : Except ε α} (alike : Alike equal one two)
    (same : ∀ left right, equal left right → left = right) : one = two := by
  cases alike with
  | error problem => rfl
  | ok values => rw [same _ _ values]

/-- Steps that end alike are the same to whoever sees related values as the same. -/
theorem Alike.map_eq {view : α → γ} {otherView : β → γ} (alike : Alike related step other)
    (same : ∀ left right, related left right → view left = otherView right) :
    step.map view = other.map otherView := by
  cases alike with
  | error problem => rfl
  | ok values => exact congrArg Except.ok (same _ _ values)

end Alike

end TypedSearch.Outcome
