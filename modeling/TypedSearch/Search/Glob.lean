/-!
Patterns in which a star stands for any run of characters and a question mark for any one character
(`glob`). Matching goes forward from the last star passed and never back before it. A star of the
pattern that meets a star of the text takes it as that character.
-/

namespace TypedSearch.Glob

/-- How far a pattern gets without passing over characters. -/
inductive Advance where
  /-- The text is used up; what is left of the pattern may match nothing or not. -/
  | finished (matched : Bool)
  /-- A star was reached, with the pattern after it and the text at it. -/
  | starred (pattern text : List Char)
  /-- A character of the text is not the one expected. -/
  | mismatch
  deriving DecidableEq, Repr

/-- Matches a pattern character by character up to its next star. -/
def advance : (pattern text : List Char) → Advance
  | pattern, [] => .finished (pattern.all (· = '*'))
  | [], _ :: _ => .mismatch
  | p :: pattern, c :: text =>
    if p = '?' ∨ p = c then advance pattern text
    else if p = '*' then .starred pattern (c :: text)
    else .mismatch

theorem length_lt_of_advance_eq_starred {pattern text restPattern restText : List Char}
    (reached : advance pattern text = .starred restPattern restText) :
    restPattern.length < pattern.length := by
  induction pattern generalizing text with
  | nil => cases text <;> simp [advance] at reached
  | cons p pattern ih =>
    cases text with
    | nil => simp [advance] at reached
    | cons c text =>
      simp only [advance] at reached
      split at reached
      · exact Nat.lt_succ_of_lt (ih reached)
      · split at reached
        · cases reached
          exact Nat.lt_succ_self _
        · cases reached

/-- Matches what stands after a star: at the start of the text, or else further on. -/
def afterStar (pattern text : List Char) : Bool :=
  match _reached : advance pattern text with
  | .finished matched => matched
  | .starred restPattern restText => afterStar restPattern restText
  | .mismatch =>
    match text with
    | [] => false
    | _ :: later => afterStar pattern later
termination_by (pattern.length, text.length)
decreasing_by
  · exact Prod.Lex.left _ _ (length_lt_of_advance_eq_starred _reached)
  · exact Prod.Lex.right _ (Nat.lt_succ_self _)

def isMatch (pattern text : List Char) : Bool :=
  match advance pattern text with
  | .finished matched => matched
  | .starred restPattern restText => afterStar restPattern restText
  | .mismatch => false

end TypedSearch.Glob
