import TypedSearch.Query.Clause
import TypedSearch.Search.Matcher

/-!
What patterns denote. A pattern denotes the texts in which each star stands for some run of characters
and each question mark for one character. A search takes a star that meets a star of the text for just
that star, so it accepts those texts that the pattern denotes with every such star standing for itself.
Going back to the last star passed and never before it loses none of these.
-/

namespace TypedSearch.Glob

/-- A text is read along a pattern: a question mark stands for one character, a star for a run that it
may stand for before what is left of the text, and every other character for itself. -/
inductive Reads (stands : (run rest : List Char) → Prop) : (pattern text : List Char) → Prop where
  | done : Reads stands [] []
  | star {pattern rest : List Char} (run : List Char) (allowed : stands run rest)
      (tail : Reads stands pattern rest) : Reads stands ('*' :: pattern) (run ++ rest)
  | mark {pattern text : List Char} (c : Char) (tail : Reads stands pattern text) :
      Reads stands ('?' :: pattern) (c :: text)
  | same {pattern text : List Char} {c : Char} (noStar : c ≠ '*') (noMark : c ≠ '?')
      (tail : Reads stands pattern text) : Reads stands (c :: pattern) (c :: text)

/-- A pattern denotes a text if stars may stand for any runs. -/
def Denotes : (pattern text : List Char) → Prop := Reads fun _ _ => True

/-- A star before a star of the text stands for that star and nothing else. -/
def StandsAlone (run rest : List Char) : Prop := (run ++ rest).head? = some '*' → run = ['*']

variable {pattern text later : List Char} {stands : List Char → List Char → Prop}

/-- What is read along a pattern in some way is denoted by it. -/
theorem Reads.denotes (reads : Reads stands pattern text) : Denotes pattern text := by
  induction reads with
  | done => exact .done
  | star run _ _ ih => exact .star run trivial ih
  | mark c _ ih => exact .mark c ih
  | same noStar noMark _ ih => exact .same noStar noMark ih

/-- In a text without stars no star can be met. -/
theorem Denotes.standsAlone (denoted : Denotes pattern text) (starless : '*' ∉ text) :
    Reads StandsAlone pattern text := by
  induction denoted with
  | done => exact .done
  | star run _ _ ih =>
    refine .star run ?_ (ih fun star => starless (List.mem_append_right _ star))
    intro head
    exact absurd (List.mem_of_mem_head? head) starless
  | mark c _ ih => exact .mark c (ih fun star => starless (List.mem_cons_of_mem _ star))
  | same noStar noMark _ ih =>
    exact .same noStar noMark (ih fun star => starless (List.mem_cons_of_mem _ star))

/-- A pattern that begins with a character denotes what that character begins. -/
theorem denotes_cons_iff {p : Char} (noStar : p ≠ '*') (noMark : p ≠ '?') :
    Denotes (p :: pattern) text ↔ ∃ rest, text = p :: rest ∧ Denotes pattern rest := by
  constructor
  · intro denoted
    cases denoted with
    | star => exact (noStar rfl).elim
    | mark => exact (noMark rfl).elim
    | same _ _ tail => exact ⟨_, rfl, tail⟩
  · rintro ⟨rest, rfl, tail⟩
    exact .same noStar noMark tail

/-- The characters of a text stand for themselves in patterns. -/
def Literal (text : List Char) : Prop := '*' ∉ text ∧ '?' ∉ text

instance (text : List Char) : Decidable (Literal text) := inferInstanceAs (Decidable (_ ∧ _))

/-- A pattern that begins with a literal text denotes what that text begins. -/
theorem denotes_literal_iff {literal : List Char} (plain : Literal literal) :
    Denotes (literal ++ pattern) text ↔ ∃ rest, text = literal ++ rest ∧ Denotes pattern rest := by
  induction literal generalizing text with
  | nil => simp
  | cons p literal ih =>
    obtain ⟨noStar, starless⟩ := not_or.mp (mt List.mem_cons.mpr plain.1)
    obtain ⟨noMark, markless⟩ := not_or.mp (mt List.mem_cons.mpr plain.2)
    rw [List.cons_append, denotes_cons_iff (Ne.symm noStar) (Ne.symm noMark)]
    simp only [ih ⟨starless, markless⟩]
    constructor
    · rintro ⟨_, rfl, rest, rfl, tail⟩
      exact ⟨rest, rfl, tail⟩
    · rintro ⟨rest, rfl, tail⟩
      exact ⟨_, rfl, rest, rfl, tail⟩

/-- A literal text as a pattern denotes itself alone. -/
theorem denotes_iff_eq {literal : List Char} (plain : Literal literal) :
    Denotes literal text ↔ text = literal := by
  have nothing {rest : List Char} : Denotes [] rest ↔ rest = [] := by
    constructor
    · intro denoted
      cases denoted
      rfl
    · rintro rfl
      exact .done
  have whole : Denotes (literal ++ []) text ↔ ∃ rest, text = literal ++ rest ∧ Denotes [] rest :=
    denotes_literal_iff plain
  rw [List.append_nil] at whole
  simp [whole, nothing]

/-- A star before a pattern leaves the pattern to the end of the text. -/
theorem denotes_star_iff :
    Denotes ('*' :: pattern) text ↔ ∃ rest, rest <:+ text ∧ Denotes pattern rest := by
  constructor
  · intro denoted
    cases denoted with
    | star run _ tail => exact ⟨_, List.suffix_append run _, tail⟩
    | same noStar => exact (noStar rfl).elim
  · rintro ⟨rest, ⟨run, rfl⟩, tail⟩
    exact .star run trivial tail

/-- A star at the end of a pattern takes what is left of the text. -/
theorem denotes_star (text : List Char) : Denotes ['*'] text := by
  rw [denotes_star_iff]
  exact ⟨[], List.nil_suffix, .done⟩

theorem reads_nil_iff : Reads StandsAlone pattern [] ↔ pattern.all (· = '*') = true := by
  induction pattern with
  | nil => exact iff_of_true .done rfl
  | cons p rest ih =>
    constructor
    · intro reads
      generalize empty : ([] : List Char) = text at reads
      cases reads with
      | star run _ tail =>
        obtain ⟨rfl, rfl⟩ := List.append_eq_nil_iff.mp empty.symm
        simpa using ih.mp tail
      | mark | same => cases empty
    · intro stars
      obtain ⟨star, others⟩ : p = '*' ∧ rest.all (· = '*') = true := by simpa using stars
      subst star
      exact .star [] (by simp [StandsAlone]) (ih.mpr others)

/-- Along a pattern that does not begin with a star, the first characters are read together. -/
theorem reads_cons_iff {p c : Char} (noStar : p ≠ '*') :
    Reads stands (p :: pattern) (c :: text) ↔ (p = '?' ∨ p = c) ∧ Reads stands pattern text := by
  constructor
  · intro reads
    generalize whole : c :: text = read at reads
    cases reads with
    | star => exact (noStar rfl).elim
    | mark _ tail =>
      cases whole
      exact ⟨.inl rfl, tail⟩
    | same _ _ tail =>
      cases whole
      exact ⟨.inr rfl, tail⟩
  · rintro ⟨fits, tail⟩
    by_cases mark : p = '?'
    · subst mark
      exact .mark c tail
    · obtain rfl := fits.resolve_left mark
      exact .same noStar mark tail

/-- Something that ends a text is read along a pattern. -/
def ReadsWithin (pattern text : List Char) : Prop :=
  ∃ later, later <:+ text ∧ Reads StandsAlone pattern later

theorem ReadsWithin.mono {longer : List Char} (within : ReadsWithin pattern text)
    (suffix : text <:+ longer) : ReadsWithin pattern longer := by
  obtain ⟨later, ends, reads⟩ := within
  exact ⟨later, ends.trans suffix, reads⟩

/-- A star that meets a star stands for it. -/
theorem reads_star_star_iff :
    Reads StandsAlone ('*' :: pattern) ('*' :: text) ↔ Reads StandsAlone pattern text := by
  constructor
  · intro reads
    generalize whole : '*' :: text = read at reads
    cases reads with
    | star run allowed tail =>
      have alone : run = ['*'] := allowed (by rw [← whole]; rfl)
      subst alone
      obtain rfl : text = _ := List.cons.inj whole |>.2
      exact tail
    | same noStar => exact (noStar rfl).elim
  · intro tail
    exact .star ['*'] (fun _ => rfl) tail

/-- A star that meets no star stands for any run. -/
theorem reads_star_iff (meets : text.head? ≠ some '*') :
    Reads StandsAlone ('*' :: pattern) text ↔ ReadsWithin pattern text := by
  constructor
  · intro reads
    cases reads with
    | star run _ tail => exact ⟨_, List.suffix_append run _, tail⟩
    | same noStar => exact (noStar rfl).elim
  · rintro ⟨later, ⟨run, rfl⟩, tail⟩
    exact .star run (fun head => (meets head).elim) tail

/-- How far a pattern got says that it reads the text, or would once its star is passed. -/
def Advance.Succeeds : Advance → Prop
  | finished matched => matched = true
  | starred pattern text => ReadsWithin pattern text
  | mismatch => False

/-- A text is read along a pattern if advancing character by character says so. -/
theorem reads_iff_advance (pattern text : List Char) :
    Reads StandsAlone pattern text ↔ (advance pattern text).Succeeds := by
  induction pattern generalizing text with
  | nil =>
    cases text with
    | nil => exact iff_of_true .done rfl
    | cons c rest => exact iff_of_false nofun id
  | cons p pattern ih =>
    cases text with
    | nil => exact reads_nil_iff
    | cons c text =>
      rw [advance]
      by_cases star : p = '*'
      · subst star
        by_cases meets : '*' = c
        · subst meets
          rw [reads_star_star_iff, if_pos (.inr rfl)]
          exact ih text
        · have steps : ¬ ('*' = '?' ∨ '*' = c) := by simp [meets]
          rw [if_neg steps, if_pos rfl]
          exact reads_star_iff (by simpa using Ne.symm meets)
      · rw [reads_cons_iff star, ih text]
        by_cases fits : p = '?' ∨ p = c
        · rw [if_pos fits]
          exact and_iff_right fits
        · rw [if_neg fits, if_neg star]
          exact iff_of_false (fun both => fits both.1) id

/-- Reading along a star goes on somewhere after what the star stands for. -/
theorem ReadsWithin.afterStar (within : ReadsWithin ('*' :: pattern) text) :
    ReadsWithin pattern text := by
  obtain ⟨later, ends, reads⟩ := within
  by_cases meets : later.head? = some '*'
  · obtain ⟨rest, rfl⟩ := List.head?_eq_some_iff.mp meets
    have inside : rest <:+ text := (List.suffix_cons '*' rest).trans ends
    exact ⟨rest, inside, reads_star_star_iff.mp reads⟩
  · exact ((reads_star_iff meets).mp reads).mono ends

/-- Where a pattern advances by a character, what it reads within the text it goes on to read within the
rest of the text. -/
theorem ReadsWithin.step {p c : Char} (within : ReadsWithin (p :: pattern) (c :: text))
    (fits : p = '?' ∨ p = c) : ReadsWithin pattern text := by
  obtain ⟨later, ends, reads⟩ := within
  cases later with
  | nil =>
    have stars := reads_nil_iff.mp reads
    simp only [List.all_cons, Bool.and_eq_true] at stars
    exact ⟨[], List.nil_suffix, reads_nil_iff.mpr stars.2⟩
  | cons d rest =>
    have inside : rest <:+ text := by
      rcases List.suffix_cons_iff.mp ends with same | inside
      · obtain ⟨-, rfl⟩ := List.cons.inj same
        exact List.suffix_rfl
      · exact (List.suffix_cons d rest).trans inside
    by_cases star : p = '*'
    · subst star
      by_cases meets : d = '*'
      · subst meets
        exact ⟨rest, inside, reads_star_star_iff.mp reads⟩
      · -- The star met a star of the text, so what is read began later than that.
        obtain rfl : '*' = c := fits.resolve_left (by decide)
        have later : d :: rest <:+ text := by
          rcases List.suffix_cons_iff.mp ends with same | later
          · exact (meets (List.cons.inj same).1).elim
          · exact later
        exact ((reads_star_iff (by simpa using meets)).mp reads).mono later
    · exact ⟨rest, inside, ((reads_cons_iff star).mp reads).2⟩

/-- If anything that ends a text is read along a pattern then advancing along the whole text succeeds or
meets another character than expected; it does not use up the text in vain, and past its star there is
something left to read. -/
theorem ReadsWithin.advance (within : ReadsWithin pattern text) :
    Glob.advance pattern text = .mismatch ∨ (Glob.advance pattern text).Succeeds := by
  induction pattern generalizing text with
  | nil =>
    cases text with
    | nil => exact .inr rfl
    | cons c rest => exact .inl rfl
  | cons p pattern ih =>
    cases text with
    | nil =>
      obtain ⟨later, ends, reads⟩ := within
      obtain rfl := List.suffix_nil.mp ends
      exact .inr (reads_nil_iff.mp reads)
    | cons c text =>
      rw [Glob.advance]
      by_cases fits : p = '?' ∨ p = c
      · rw [if_pos fits]
        exact ih (within.step fits)
      · rw [if_neg fits]
        by_cases star : p = '*'
        · subst star
          rw [if_pos rfl]
          exact .inr within.afterStar
        · rw [if_neg star]
          exact .inl rfl

/-- After a star a search finds whatever the rest of the pattern reads within the text. -/
theorem afterStar_iff (pattern text : List Char) :
    afterStar pattern text = true ↔ ReadsWithin pattern text := by
  -- Every further star is passed where it is first reached: whatever is read behind a later place for
  -- it ends the text behind the first place too.
  fun_induction afterStar pattern text with
  | case1 pattern text matched reached =>
    constructor
    · intro matched
      exact ⟨text, List.suffix_rfl, (reads_iff_advance pattern text).mpr (reached ▸ matched)⟩
    · intro within
      have succeeds := within.advance
      simpa [reached, Advance.Succeeds] using succeeds
  | case2 pattern text restPattern restText reached ih =>
    rw [ih]
    constructor
    · intro within
      exact ⟨text, List.suffix_rfl, (reads_iff_advance pattern text).mpr (reached ▸ within)⟩
    · intro within
      have succeeds := within.advance
      simpa [reached, Advance.Succeeds] using succeeds
  | case3 pattern reached =>
    refine iff_of_false Bool.false_ne_true ?_
    rintro ⟨later, ends, reads⟩
    obtain rfl := List.suffix_nil.mp ends
    rw [reads_iff_advance, reached] at reads
    exact reads
  | case4 pattern c later reached ih =>
    rw [ih]
    constructor
    · intro within
      exact within.mono (List.suffix_cons c later)
    · rintro ⟨found, ends, reads⟩
      rcases List.suffix_cons_iff.mp ends with rfl | inside
      · rw [reads_iff_advance, reached] at reads
        exact reads.elim
      · exact ⟨found, inside, reads⟩

/-- A search accepts what the pattern denotes with stars that meet stars standing for them. -/
theorem isMatch_iff_reads (pattern text : List Char) :
    isMatch pattern text = true ↔ Reads StandsAlone pattern text := by
  rw [reads_iff_advance, isMatch]
  cases advance pattern text with
  | finished matched => exact Iff.rfl
  | starred restPattern restText => exact afterStar_iff restPattern restText
  | mismatch => exact iff_of_false Bool.false_ne_true id

/-- A text without stars is accepted exactly if the pattern denotes it. -/
theorem isMatch_iff_denotes (starless : '*' ∉ text) :
    isMatch pattern text = true ↔ Denotes pattern text := by
  rw [isMatch_iff_reads]
  exact ⟨Reads.denotes, fun denoted => denoted.standsAlone starless⟩

/-- A search accepts a text exactly if the pattern denotes it with each star that meets a star of the text
standing for that star alone. So what it accepts is denoted, and of the texts without stars it accepts
whatever is denoted. -/
theorem accepted_iff_denoted (pattern text : List Char) :
    (isMatch pattern text = true ↔ Reads StandsAlone pattern text) ∧
      (isMatch pattern text = true → Denotes pattern text) ∧
      ('*' ∉ text → Denotes pattern text → isMatch pattern text = true) := by
  have exactly := isMatch_iff_reads pattern text
  refine ⟨exactly, ?_, ?_⟩
  · intro accepted
    exact (exactly.mp accepted).denotes
  · intro starless denoted
    exact exactly.mpr (denoted.standsAlone starless)

theorem repeated_start_accepted :
    let pattern := ['*', 'a', 'b', '*', 'c', '?']
    let text := ['a', 'a', 'b', 'a', 'b', 'c', 'd']
    Denotes pattern text ∧ '*' ∉ text ∧ isMatch pattern text = true := by
  intro pattern text
  have fixed {c : Char} {pattern text : List Char} (plain : c ≠ '*' ∧ c ≠ '?')
      (tail : Denotes pattern text) : Denotes (c :: pattern) (c :: text) :=
    .same plain.1 plain.2 tail
  have denoted : Denotes pattern text :=
    .star ['a'] trivial (fixed (by decide) (fixed (by decide)
      (.star ['a', 'b'] trivial (fixed (by decide) (.mark 'd' .done)))))
  have starless : '*' ∉ text := by decide
  obtain ⟨-, -, always⟩ := accepted_iff_denoted pattern text
  exact ⟨denoted, starless, always starless denoted⟩

/-- A pattern of a star and a letter denotes every text that ends with the letter, but one that begins
with a star is lost: the star of the pattern is used up on it. -/
theorem starred_text_refused :
    Denotes ['*', 'b'] ['*', 'a', 'b'] ∧ isMatch ['*', 'b'] ['*', 'a', 'b'] = false ∧
      Matcher.test (.ofMapping (.single "properties" (.object []))) (Clause.wildcard "title" "*b")
        (.single "title" (.string "*ab")) = .ok false := by
  refine ⟨?_, rfl, rfl⟩
  exact .star ['*', 'a'] trivial (.same (by decide) (by decide) .done)

end TypedSearch.Glob
