import TypedSearch.Proofs.Outcome
import TypedSearch.Proofs.Search.Glob

/-!
Matching by places, as the loop of `glob` does it. A search for a pattern keeps its place in the
pattern and its place in the text, and goes back to the last star it passed when a character is not the
one expected. Each step asks only for characters that are there and makes a weight smaller, so the
search ends after a number of steps that the two lengths bound. No step changes what is found by
matching from where it stands, so in the end the search answers what matching the whole text does.
Nothing is assumed; places are natural numbers, and no place goes beyond the lengths.
-/

namespace TypedSearch.Glob

open Outcome

/-- A place that was asked for in a sequence which does not have it. -/
structure Outside where
  place : Nat
  length : Nat
  deriving DecidableEq, Repr

def charAt (chars : List Char) (place : Nat) : Except Outside Char :=
  match chars[place]? with
  | some c => .ok c
  | none => .error ⟨place, chars.length⟩

/-- The end of a sequence from a place on, which may be the place behind its last character. -/
def charsFrom (chars : List Char) (place : Nat) : Except Outside (List Char) :=
  if place ≤ chars.length then .ok (chars.drop place) else .error ⟨place, chars.length⟩

/-- Where a search stands. -/
structure Places where
  pattern : Nat
  text : Nat
  /-- The place of the last star passed, and the place in the text up to which that star stands. -/
  star : Option (Nat × Nat)
  deriving DecidableEq, Repr

/-- How a step ends. -/
inductive Turn where
  | next (places : Places)
  | done (matched : Bool)
  deriving DecidableEq, Repr

namespace Places

def start : Places := ⟨0, 0, none⟩

/-- Whether the pattern goes on with the character of the text, or with a mark that stands for it. -/
def fits (places : Places) (pattern text : List Char) : Except Outside Bool :=
  if places.pattern < pattern.length then do
    let expected ← charAt pattern places.pattern
    if expected = '?' then return true
    else
      let found ← charAt text places.text
      return decide (expected = found)
  else return false

/-- Whether the pattern goes on with a star. -/
def meetsStar (places : Places) (pattern : List Char) : Except Outside Bool :=
  if places.pattern < pattern.length then do
    let expected ← charAt pattern places.pattern
    return decide (expected = '*')
  else return false

/-- Goes back to the last star passed and lets it stand for one character more. -/
def back (places : Places) : Turn :=
  match places.star with
  | some (passed, upTo) => .next ⟨passed + 1, upTo + 1, some (passed, upTo + 1)⟩
  | none => .done false

def step (pattern text : List Char) (places : Places) : Except Outside Turn :=
  if places.text < text.length then do
    if ← places.fits pattern text then
      return .next ⟨places.pattern + 1, places.text + 1, places.star⟩
    else if ← places.meetsStar pattern then
      return .next ⟨places.pattern + 1, places.text, some (places.pattern, places.text)⟩
    else return places.back
  else do
    let left ← charsFrom pattern places.pattern
    return .done (left.all (· = '*'))

/-- Makes some steps. There is no answer if the search is not done after them. -/
def walk (pattern text : List Char) : (steps : Nat) → Places → Except Outside (Option Bool)
  | 0, _ => .ok none
  | steps + 1, places => do
    match ← places.step pattern text with
    | .done matched => return some matched
    | .next later => walk pattern text steps later

/-- The places are in the pattern and in the text, or right behind them. -/
structure Inside (pattern text : List Char) (places : Places) : Prop where
  pattern_le : places.pattern ≤ pattern.length
  text_le : places.text ≤ text.length
  star_lt : ∀ passed upTo, places.star = some (passed, upTo) →
    passed < places.pattern ∧ upTo ≤ places.text

/-- How a search turns from where it stands, told by what the pattern and the text go on with. -/
inductive Turns (pattern text : List Char) (places : Places) : Turn → Prop where
  | ended (past : text.drop places.text = []) :
      Turns pattern text places (.done ((pattern.drop places.pattern).all (· = '*')))
  | fitting {p c : Char} {rest later : List Char} (expected : pattern.drop places.pattern = p :: rest)
      (found : text.drop places.text = c :: later) (fits : p = '?' ∨ p = c) :
      Turns pattern text places (.next ⟨places.pattern + 1, places.text + 1, places.star⟩)
  | starred {c : Char} {rest later : List Char} (expected : pattern.drop places.pattern = '*' :: rest)
      (found : text.drop places.text = c :: later) (other : '*' ≠ c) :
      Turns pattern text places
        (.next ⟨places.pattern + 1, places.text, some (places.pattern, places.text)⟩)
  | resumed {passed upTo : Nat} (star : places.star = some (passed, upTo))
      (mismatch : advance (pattern.drop places.pattern) (text.drop places.text) = .mismatch) :
      Turns pattern text places (.next ⟨passed + 1, upTo + 1, some (passed, upTo + 1)⟩)
  | failed (star : places.star = none)
      (mismatch : advance (pattern.drop places.pattern) (text.drop places.text) = .mismatch) :
      Turns pattern text places (.done false)

variable {pattern text rest later : List Char} {places next : Places} {p c : Char} {turn : Turn}

private theorem charAt_of_drop {chars : List Char} {place : Nat}
    (begins : chars.drop place = c :: rest) : charAt chars place = .ok c := by
  have found : chars[place]? = some c := by rw [← List.head?_drop, begins, List.head?_cons]
  rw [charAt, found]

private theorem lt_of_drop {chars : List Char} {place : Nat} (begins : chars.drop place = c :: rest) :
    place < chars.length := by
  refine Decidable.byContradiction fun behind => ?_
  rw [List.drop_eq_nil_of_le (Nat.le_of_not_lt behind)] at begins
  cases begins

theorem fits_eq (expected : pattern.drop places.pattern = p :: rest)
    (found : text.drop places.text = c :: later) :
    places.fits pattern text = .ok (decide (p = '?' ∨ p = c)) := by
  rw [fits, if_pos (lt_of_drop expected), charAt_of_drop expected, charAt_of_drop found]
  by_cases mark : p = '?' <;> simp [mark]

theorem meetsStar_eq (expected : pattern.drop places.pattern = p :: rest) :
    places.meetsStar pattern = .ok (decide (p = '*')) := by
  rw [meetsStar, if_pos (lt_of_drop expected), charAt_of_drop expected]
  rfl

theorem turns_back
    (mismatch : advance (pattern.drop places.pattern) (text.drop places.text) = .mismatch) :
    Turns pattern text places places.back := by
  rw [back]
  cases star : places.star with
  | some passed => exact .resumed star mismatch
  | none => exact .failed star mismatch

/-- Every step of a search that stands inside turns in one of these ways, and so it asks for no character
that is not there. -/
theorem step_turns (inside : places.Inside pattern text) :
    ∃ turn, places.step pattern text = .ok turn ∧ Turns pattern text places turn := by
  cases found : text.drop places.text with
  | nil =>
    have past : ¬ places.text < text.length := Nat.not_lt.mpr (List.drop_eq_nil_iff.mp found)
    refine ⟨_, ?_, .ended found⟩
    rw [step, if_neg past, charsFrom, if_pos inside.pattern_le]
    rfl
  | cons c later =>
    rw [step, if_pos (lt_of_drop found)]
    cases expected : pattern.drop places.pattern with
    | nil =>
      have behind : ¬ places.pattern < pattern.length :=
        Nat.not_lt.mpr (List.drop_eq_nil_iff.mp expected)
      refine ⟨places.back, ?_, turns_back (by rw [expected, found]; rfl)⟩
      rw [fits, if_neg behind, meetsStar, if_neg behind]
      rfl
    | cons p rest =>
      rw [fits_eq expected found, meetsStar_eq expected]
      by_cases fit : p = '?' ∨ p = c
      · exact ⟨_, by simp [fit], .fitting expected found fit⟩
      · by_cases star : p = '*'
        · subst star
          have other : '*' ≠ c := fun same => fit (.inr same)
          exact ⟨_, by simp [other], .starred expected found other⟩
        · refine ⟨places.back, by simp [fit, star], turns_back ?_⟩
          rw [expected, found, advance, if_neg fit, if_neg star]

private theorem drop_succ_of_drop {chars : List Char} {place : Nat}
    (begins : chars.drop place = c :: rest) : chars.drop (place + 1) = rest := by
  rw [← List.tail_drop, begins, List.tail_cons]

/-- A character is not the one expected only where there is one. -/
private theorem lt_of_mismatch {place : Nat}
    (mismatch : advance pattern (text.drop place) = .mismatch) : place < text.length := by
  refine Decidable.byContradiction fun behind => ?_
  rw [List.drop_eq_nil_of_le (Nat.le_of_not_lt behind), advance] at mismatch
  cases mismatch

theorem start_inside (pattern text : List Char) : start.Inside pattern text :=
  ⟨Nat.zero_le _, Nat.zero_le _, nofun⟩

theorem Turns.inside (turns : Turns pattern text places (.next next))
    (inside : places.Inside pattern text) : next.Inside pattern text := by
  cases turns with
  | fitting expected found fits =>
    refine ⟨lt_of_drop expected, lt_of_drop found, fun passed upTo star => ?_⟩
    obtain ⟨before, behind⟩ := inside.star_lt passed upTo star
    exact ⟨Nat.lt_succ_of_lt before, Nat.le_succ_of_le behind⟩
  | starred expected found other =>
    refine ⟨lt_of_drop expected, inside.text_le, fun passed upTo star => ?_⟩
    cases star
    exact ⟨Nat.lt_succ_self _, Nat.le_refl _⟩
  | @resumed passed upTo star mismatch =>
    obtain ⟨before, behind⟩ := inside.star_lt passed upTo star
    refine ⟨Nat.le_trans before inside.pattern_le,
      Nat.lt_of_le_of_lt behind (lt_of_mismatch mismatch), fun other place same => ?_⟩
    cases same
    exact ⟨Nat.lt_succ_self _, Nat.le_refl _⟩

/-- What matching finds in the end from where a search stands. -/
def answer (pattern text : List Char) (places : Places) : Bool :=
  match advance (pattern.drop places.pattern) (text.drop places.text) with
  | .finished matched => matched
  | .starred restPattern restText => afterStar restPattern restText
  | .mismatch =>
    match places.star with
    | some (passed, upTo) => afterStar (pattern.drop (passed + 1)) (text.drop (upTo + 1))
    | none => false

theorem answer_start (pattern text : List Char) : start.answer pattern text = isMatch pattern text :=
  rfl

theorem afterStar_eq (pattern text : List Char) :
    afterStar pattern text =
      match advance pattern text with
      | .finished matched => matched
      | .starred restPattern restText => afterStar restPattern restText
      | .mismatch => afterStar pattern text.tail := by
  rw [afterStar]
  split
  next matched reached => rw [reached]
  next restPattern restText reached => rw [reached]
  next mismatch =>
    cases text with
    | nil =>
      rw [advance] at mismatch
      cases mismatch
    | cons c later => simp only [mismatch, List.tail_cons]

/-- Right behind a star a search finds what the pattern after the star finds further on. -/
theorem answer_passed (pattern text : List Char) (passed upTo : Nat) :
    (Places.mk (passed + 1) upTo (some (passed, upTo))).answer pattern text =
      afterStar (pattern.drop (passed + 1)) (text.drop upTo) := by
  rw [afterStar_eq, List.tail_drop]
  rfl

theorem Turns.answer_next (turns : Turns pattern text places (.next next)) :
    next.answer pattern text = places.answer pattern text := by
  cases turns with
  | fitting expected found fits =>
    simp only [answer, expected, found, drop_succ_of_drop expected, drop_succ_of_drop found]
    rw [advance, if_pos fits]
  | starred expected found other =>
    have steps : ¬ ('*' = '?' ∨ '*' = _) := not_or.mpr ⟨by decide, other⟩
    rw [answer_passed, answer, expected, found, drop_succ_of_drop expected, advance, if_neg steps,
      if_pos rfl]
  | resumed star mismatch => rw [answer_passed, answer, mismatch, star]

theorem Turns.answer_done {matched : Bool} (turns : Turns pattern text places (.done matched)) :
    matched = places.answer pattern text := by
  cases turns with
  | ended past => rw [answer, past, advance]
  | failed star mismatch => rw [answer, mismatch, star]

/-- How often a search can still pass a star or go back to one. -/
def retreats (pattern text : List Char) (places : Places) : Nat :=
  match places.star with
  | some (passed, upTo) => (pattern.length - (passed + 1)) + (text.length - upTo)
  | none => pattern.length + text.length

/-- How many steps a search can still make: between two retreats it can only go through the text. -/
def weight (pattern text : List Char) (places : Places) : Nat :=
  places.retreats pattern text * (text.length + 1) + (text.length - places.text)

private theorem weight_lt_of_retreat
    (fewer : next.retreats pattern text < places.retreats pattern text) :
    next.weight pattern text < places.weight pattern text := by
  have rounds : (next.retreats pattern text + 1) * (text.length + 1) ≤
      places.retreats pattern text * (text.length + 1) := Nat.mul_le_mul_right _ fewer
  rw [Nat.succ_mul] at rounds
  unfold weight
  omega

theorem Turns.weight_lt (turns : Turns pattern text places (.next next))
    (inside : places.Inside pattern text) :
    next.weight pattern text < places.weight pattern text := by
  cases turns with
  | fitting expected found fits =>
    have shorter := lt_of_drop found
    simp only [weight, retreats]
    omega
  | starred expected found other =>
    have before := lt_of_drop expected
    refine weight_lt_of_retreat ?_
    simp only [retreats]
    split
    next passed upTo star =>
      have ahead := inside.star_lt passed upTo star
      omega
    next => omega
  | @resumed passed upTo star mismatch =>
    have ahead := inside.star_lt passed upTo star
    have shorter := lt_of_mismatch mismatch
    refine weight_lt_of_retreat ?_
    simp only [retreats, star]
    omega

/-- A search that stands inside asks for no character that is not there, however many steps it makes. It
is done after as many steps as its weight allows, and then has the answer. -/
theorem walk_answers (inside : places.Inside pattern text) (steps : Nat) :
    walk pattern text steps places = .ok (some (places.answer pattern text)) ∨
      walk pattern text steps places = .ok none ∧ steps ≤ places.weight pattern text := by
  induction steps generalizing places with
  | zero => exact .inr ⟨rfl, Nat.zero_le _⟩
  | succ steps ih =>
    obtain ⟨turn, ran, turns⟩ := step_turns inside
    rw [walk, ran, ok_bind]
    cases turn with
    | done matched => exact .inl (by rw [turns.answer_done]; rfl)
    | next later =>
      rw [← turns.answer_next]
      have lower := turns.weight_lt inside
      rcases ih (turns.inside inside) with done | ⟨running, few⟩
      · exact .inl done
      · exact .inr ⟨running, by omega⟩

end Places

open Places

/-- A search by places never asks for a character outside of the pattern or the text. It is done after a
number of steps that the lengths of the two bound, and answers what matching does. What it accepts is
denoted by the pattern: the text can be cut so that each star covers a run, each mark one character and
every other character itself. -/
theorem search_ends_inside (pattern text : List Char) :
    (∀ steps, walk pattern text steps start = .ok none ∨
      walk pattern text steps start = .ok (some (isMatch pattern text))) ∧
    (∀ steps, (pattern.length + text.length + 1) * (text.length + 1) ≤ steps →
      walk pattern text steps start = .ok (some (isMatch pattern text))) ∧
    (isMatch pattern text = true → Denotes pattern text) := by
  have answers := walk_answers (start_inside pattern text)
  rw [answer_start] at answers
  refine ⟨fun steps => ?_, fun steps enough => ?_, fun accepted => ?_⟩
  · rcases answers steps with done | ⟨running, -⟩
    · exact .inr done
    · exact .inl running
  · rcases answers steps with done | ⟨-, few⟩
    · exact done
    · have all : start.weight pattern text =
          (pattern.length + text.length) * (text.length + 1) + text.length := rfl
      rw [Nat.succ_mul] at enough
      omega
  · exact ((isMatch_iff_reads pattern text).mp accepted).denotes

/-- The search goes back once, when the character behind the first `a` is not the one expected. -/
example : walk ['*', 'a', 'b'] ['a', 'a', 'b'] 6 start = .ok (some true) := rfl

end TypedSearch.Glob
